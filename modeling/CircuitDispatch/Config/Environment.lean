import CircuitDispatch.Config.Basic

/-!
# Configurations from the environment

A variable that is set replaces one value of a configuration; a text that does
not parse is an error, and the first such variable is reported. Nothing else is
checked here.

Variables hold bytes. One whose bytes are no text is passed over, as if it were
not set (`Environment.text?`).
-/

namespace CircuitDispatch

/-- The variables of a process. -/
structure Environment where
  /-- The bytes of a variable, if it is set. -/
  bytes? : String → Option ByteArray

/-- A truth value, written in lower case. -/
def boolOfText? (text : String) : Option Bool :=
  if text = "true" then some true else if text = "false" then some false else none

/-- A number of 64 bits in base ten. A plus sign and leading zeros do not count. -/
def natOfText? (text : String) : Option Nat :=
  let digits := match text.toList with
    | '+' :: rest => rest
    | digits => digits
  if digits.isEmpty || !digits.all Char.isDigit then none
  else
    let n := digits.foldl (fun n d => 10 * n + (d.toNat - '0'.toNat)) 0
    if n < UInt64.size then some n else none

namespace Environment

/-- The environment in which variables hold texts. -/
def ofTexts (texts : String → Option String) : Environment where
  bytes? name := (texts name).map String.toUTF8

instance : Coe (String → Option String) Environment := ⟨ofTexts⟩

/-- The text of a variable. There is none if the variable is not set, and none if its bytes are not
in UTF-8. -/
def text? (env : Environment) (name : String) : Option String :=
  (env.bytes? name).bind String.fromUTF8?

@[simp] theorem text?_ofTexts (texts : String → Option String) (name : String) :
    (ofTexts texts).text? name = texts name := by
  change ((texts name).map String.toUTF8).bind String.fromUTF8? = texts name
  cases texts name with
  | none => rfl
  | some text =>
    rw [Option.map_some, Option.bind_some, String.toUTF8_eq_toByteArray, String.fromUTF8?,
      dif_pos text.isValidUTF8]
    rfl

/-- The value of a variable without blanks around it, or a given one if the variable has no
text. -/
def parsed {α : Type} (env : Environment) (name : String) (read : String → Option α) (unset : α) :
    Except ConfigError α :=
  match env.text? name with
  | none => .ok unset
  | some text =>
    match read (Text.trim text) with
    | some value => .ok value
    | none => .error (.invalid s!"{name}: cannot parse '{text}'")

/-- The choice of a family, or a given one if the variable has no text. -/
def familyChoice (env : Environment) (unset : FamilyChoice) : Except ConfigError FamilyChoice :=
  match env.text? "VERBATIM_FORCE_FAMILY" with
  | none => .ok unset
  | some text =>
    if text = "" || text = "auto" then .ok .auto
    else
      match Family.parse text with
      | .ok family => .ok (.force family)
      | .error name => .error (.invalid (Family.unknownMessage name))

end Environment

namespace Config

/-- A configuration with the values of the variables that have a text. -/
def withEnvironment (env : Environment) (c : Config) : Except ConfigError Config := do
  return {
    device := (env.text? "VERBATIM_DEVICE").getD c.device
    verbatimMode := ← env.parsed "VERBATIM_VERBATIM_MODE" boolOfText? c.verbatimMode
    batchMode := ← env.parsed "VERBATIM_BATCH_MODE" boolOfText? c.batchMode
    allowHardware := ← env.parsed "VERBATIM_ALLOW_HARDWARE" boolOfText? c.allowHardware
    maxShots := ← env.parsed "VERBATIM_MAX_SHOTS" natOfText? c.maxShots
    maxCircuitLength := ← env.parsed "VERBATIM_MAX_CIRCUIT_LENGTH" natOfText? c.maxCircuitLength
    family := ← env.familyChoice c.family
  }

/-- The configuration of the environment alone. -/
def ofEnvironment (env : Environment) : Except ConfigError Config :=
  standard.withEnvironment env

end Config

end CircuitDispatch
