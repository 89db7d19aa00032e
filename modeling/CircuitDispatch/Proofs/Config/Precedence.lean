import CircuitDispatch.Proofs.Config.Validity

/-!
# What a value of a configuration comes from

Every value of a configuration has a variable in the environment and a key in files
(`Config.Field`). The text of the variable comes first (`Field.settled?`), the file second and the
default last (`Field.inFile?`), for each value by itself: no other variable and no other key has a
say in it.

The environment changes a configuration field by field (`withEnvironment_eq_ok_iff_settled`), and
what it refuses is the text of one variable (`exists_refused_of_withEnvironment`). A file gives a
field what stands under its key, or its default (`inFile?_of_ofFile`).

A variable that is set need not hold a text, though, and then it is passed over. So the strict rule,
by which every variable that is set settles its value or is refused (`Field.strict?`), holds of a
field exactly if its variable is not garbled (`Field.Garbled`); in an environment of texts none is
(`Field.not_garbled_ofTexts`). `environment_first` puts this together, and `garbled_passedOver` is a
case in which the strict rule fails.
-/

namespace CircuitDispatch

/-- The choice of a family that a text writes. Blanks are not taken off, and a text without letters
leaves the choice to the device. -/
def FamilyChoice.ofText? (text : String) : Option FamilyChoice :=
  if text = "" || text = "auto" then some .auto else (Family.parse text).toOption.map .force

namespace Config

/-! ### Fields -/

/-- The values of a configuration by name. -/
inductive Field where
  | device
  | verbatimMode
  | batchMode
  | allowHardware
  | maxShots
  | maxCircuitLength
  | family

namespace Field

/-- What kind of value it is. -/
@[reducible] def Value : Field → Type
  | device => String
  | verbatimMode | batchMode | allowHardware => Bool
  | maxShots | maxCircuitLength => Nat
  | family => FamilyChoice

/-- The value in a configuration. -/
def get (c : Config) : (f : Field) → f.Value
  | device => c.device
  | verbatimMode => c.verbatimMode
  | batchMode => c.batchMode
  | allowHardware => c.allowHardware
  | maxShots => c.maxShots
  | maxCircuitLength => c.maxCircuitLength
  | family => c.family

/-- The variable of the environment for the value. -/
def variableName : Field → String
  | device => "VERBATIM_DEVICE"
  | verbatimMode => "VERBATIM_VERBATIM_MODE"
  | batchMode => "VERBATIM_BATCH_MODE"
  | allowHardware => "VERBATIM_ALLOW_HARDWARE"
  | maxShots => "VERBATIM_MAX_SHOTS"
  | maxCircuitLength => "VERBATIM_MAX_CIRCUIT_LENGTH"
  | family => "VERBATIM_FORCE_FAMILY"

/-- The value that the text of the variable writes. A device may have any name; blanks around a
truth value or a number do not count. -/
def ofText? : (f : Field) → String → Option f.Value
  | device, text => some text
  | verbatimMode, text | batchMode, text | allowHardware, text => boolOfText? (Text.trim text)
  | maxShots, text | maxCircuitLength, text => natOfText? (Text.trim text)
  | family, text => FamilyChoice.ofText? text

/-- The error for a text that writes no value. -/
def refusal : Field → String → ConfigError
  | family, text => .invalid (Family.unknownMessage (Text.toLower text))
  | f, text => .invalid s!"{f.variableName}: cannot parse '{text}'"

/-- The key of the value in a file. -/
def key : Field → String
  | device => "device"
  | verbatimMode => "verbatim_mode"
  | batchMode => "batch_mode"
  | allowHardware => "allow_hardware"
  | maxShots => "max_shots"
  | maxCircuitLength => "max_circuit_length"
  | family => "translation"

/-- The value that a scalar writes in a file. -/
def ofScalar? : (f : Field) → Yaml.Scalar → Option f.Value
  | device, s => some s.text
  | verbatimMode, s | batchMode, s | allowHardware, s => s.bool?
  | maxShots, s | maxCircuitLength, s => s.nat?
  | family, s => FamilyChoice.ofScalar? s

/-- What settles a value: the text of its variable if there is one, and something else otherwise. -/
def settled? (env : Environment) (f : Field) (otherwise : Option f.Value) : Option f.Value :=
  match env.text? f.variableName with
  | some text => f.ofText? text
  | none => otherwise

/-- The value that the bytes of the variable write, which have to be a text for this. -/
def ofBytes? (f : Field) (bytes : ByteArray) : Option f.Value :=
  (String.fromUTF8? bytes).bind f.ofText?

/-- What settles a value by the strict rule: the variable if it is set, whatever it holds, and
something else otherwise. -/
def strict? (env : Environment) (f : Field) (otherwise : Option f.Value) : Option f.Value :=
  match env.bytes? f.variableName with
  | some bytes => f.ofBytes? bytes
  | none => otherwise

/-- The variable is set, but its bytes are no text. -/
def Garbled (env : Environment) (f : Field) : Prop :=
  ∃ bytes, env.bytes? f.variableName = some bytes ∧ String.fromUTF8? bytes = none

variable {env : Environment} {f : Field}

theorem settled?_some_iff {unset value : f.Value} :
    f.settled? env (some unset) = some value ↔
      (env.text? f.variableName = none ∧ value = unset) ∨
        ∃ text, env.text? f.variableName = some text ∧ f.ofText? text = some value := by
  unfold settled?
  cases env.text? f.variableName with
  | none => simp [eq_comm]
  | some text => simp

/-- A variable that is set cannot be read if it is garbled, or if its text writes no value. -/
theorem exists_bytes_unread_iff :
    (∃ bytes, env.bytes? f.variableName = some bytes ∧ f.ofBytes? bytes = none) ↔
      f.Garbled env ∨ ∃ text, env.text? f.variableName = some text ∧ f.ofText? text = none := by
  unfold Garbled ofBytes? Environment.text?
  cases env.bytes? f.variableName with
  | none => simp
  | some bytes => cases htext : String.fromUTF8? bytes <;> simp [htext]

/-- In an environment of texts no variable is garbled. -/
theorem not_garbled_ofTexts (texts : String → Option String) (f : Field) :
    ¬ f.Garbled (.ofTexts texts) := by
  rintro ⟨bytes, hset, hgarbled⟩
  have hnone : (Environment.ofTexts texts).text? f.variableName = none := by
    rw [Environment.text?, hset]
    exact hgarbled
  rw [Environment.text?_ofTexts] at hnone
  obtain ⟨text, hsome, -⟩ := Option.map_eq_some_iff.mp hset
  cases hnone.symm.trans hsome

/-- **Where a value is settled, the strict rule agrees** exactly if the variable is not garbled. -/
theorem strict?_eq_some_iff {otherwise : Option f.Value} {value : f.Value}
    (h : f.settled? env otherwise = some value) :
    f.strict? env otherwise = some value ↔ ¬ f.Garbled env := by
  unfold settled? Environment.text? at h
  unfold strict? Garbled ofBytes?
  cases hbytes : env.bytes? f.variableName with
  | none => simpa [hbytes] using h
  | some bytes =>
    cases htext : String.fromUTF8? bytes with
    | none => simp [htext]
    | some text => simpa [hbytes, htext] using h

end Field

end Config

/-! ### The environment -/

namespace Environment

variable {α : Type} {env : Environment} {name : String} {read : String → Option α} {unset : α}
  {choice other : FamilyChoice} {e : ConfigError}

/-- A variable is refused exactly if it has a text that cannot be read. -/
theorem parsed_eq_error_iff : env.parsed name read unset = .error e ↔ ∃ text,
    env.text? name = some text ∧ read (Text.trim text) = none ∧
      e = .invalid s!"{name}: cannot parse '{text}'" := by
  rw [parsed]
  cases env.text? name with
  | none => simp
  | some text => cases hread : read (Text.trim text) <;> simp [hread, eq_comm]

/-- The choice of a family is read from the text of its variable in one go. -/
theorem familyChoice_eq (env : Environment) (other : FamilyChoice) :
    env.familyChoice other = match env.text? "VERBATIM_FORCE_FAMILY" with
      | none => .ok other
      | some text =>
        match FamilyChoice.ofText? text with
        | some choice => .ok choice
        | none => .error (.invalid (Family.unknownMessage (Text.toLower text))) := by
  have hlower : ∀ text name, Family.parse text = .error name → name = Text.toLower text := by
    intro text name h
    simp only [Family.parse] at h
    split at h
    · cases h
    · exact (Except.error.inj h).symm
  rw [familyChoice]
  cases env.text? "VERBATIM_FORCE_FAMILY" with
  | none => rfl
  | some text =>
    simp only [FamilyChoice.ofText?]
    by_cases hauto : (text = "" || text = "auto") = true
    · rw [if_pos hauto, if_pos hauto]
    · rw [if_neg hauto, if_neg hauto]
      cases hparse : Family.parse text with
      | ok family => rfl
      | error name =>
        obtain rfl := hlower text name hparse
        rfl

/-- The family is left as it was, or the text of its variable writes the choice. -/
theorem familyChoice_eq_ok_iff : env.familyChoice other = .ok choice ↔
    (env.text? "VERBATIM_FORCE_FAMILY" = none ∧ choice = other) ∨
      ∃ text, env.text? "VERBATIM_FORCE_FAMILY" = some text ∧
        FamilyChoice.ofText? text = some choice := by
  rw [familyChoice_eq]
  cases env.text? "VERBATIM_FORCE_FAMILY" with
  | none => simp [eq_comm]
  | some text => cases hread : FamilyChoice.ofText? text <;> simp [hread]

/-- The variable for the family is refused exactly if it has a text that writes no choice. -/
theorem familyChoice_eq_error_iff : env.familyChoice other = .error e ↔ ∃ text,
    env.text? "VERBATIM_FORCE_FAMILY" = some text ∧ FamilyChoice.ofText? text = none ∧
      e = .invalid (Family.unknownMessage (Text.toLower text)) := by
  rw [familyChoice_eq]
  cases env.text? "VERBATIM_FORCE_FAMILY" with
  | none => simp
  | some text => cases hread : FamilyChoice.ofText? text <;> simp [hread, eq_comm]

end Environment

namespace Config

variable {env : Environment} {c c' : Config} {e : ConfigError}

/-- Any text names a device. -/
private theorem device_eq_iff {name device unset : String} : device = (env.text? name).getD unset ↔
    (env.text? name = none ∧ device = unset) ∨
      ∃ text, env.text? name = some text ∧ some text = some device := by
  cases env.text? name with
  | none => simp
  | some text => simp [eq_comm]

/-- **The environment changes every field by its own variable.** -/
theorem withEnvironment_eq_ok_iff_settled : c.withEnvironment env = .ok c' ↔
    ∀ f : Field, f.settled? env (some (f.get c)) = some (f.get c') := by
  rw [withEnvironment_eq_ok_iff]
  constructor
  · rintro ⟨hdevice, hverbatim, hbatch, hhardware, hshots, hlength, hfamily⟩ f
    rw [Environment.parsed_eq_ok_iff] at hverbatim hbatch hhardware hshots hlength
    refine Field.settled?_some_iff.mpr ?_
    cases f with
    | device => exact device_eq_iff.mp hdevice
    | verbatimMode => exact hverbatim
    | batchMode => exact hbatch
    | allowHardware => exact hhardware
    | maxShots => exact hshots
    | maxCircuitLength => exact hlength
    | family => exact Environment.familyChoice_eq_ok_iff.mp hfamily
  · intro h
    have hfield := fun f => Field.settled?_some_iff.mp (h f)
    exact {
      device := device_eq_iff.mpr (hfield .device)
      verbatimMode := Environment.parsed_eq_ok_iff.mpr (hfield .verbatimMode)
      batchMode := Environment.parsed_eq_ok_iff.mpr (hfield .batchMode)
      allowHardware := Environment.parsed_eq_ok_iff.mpr (hfield .allowHardware)
      maxShots := Environment.parsed_eq_ok_iff.mpr (hfield .maxShots)
      maxCircuitLength := Environment.parsed_eq_ok_iff.mpr (hfield .maxCircuitLength)
      family := Environment.familyChoice_eq_ok_iff.mpr (hfield .family) }

/-- **What the environment refuses** is the text of one variable. -/
theorem exists_refused_of_withEnvironment (h : c.withEnvironment env = .error e) :
    ∃ (f : Field) (text : String), env.text? f.variableName = some text ∧ f.ofText? text = none ∧
      e = f.refusal text := by
  unfold withEnvironment at h
  -- the variables are read in this order, and the first that is refused ends it
  rcases bind_eq_error_iff.mp h with h | ⟨_, -, h⟩
  · obtain ⟨text, hrefused⟩ := Environment.parsed_eq_error_iff.mp h
    exact ⟨.verbatimMode, text, hrefused⟩
  rcases bind_eq_error_iff.mp h with h | ⟨_, -, h⟩
  · obtain ⟨text, hrefused⟩ := Environment.parsed_eq_error_iff.mp h
    exact ⟨.batchMode, text, hrefused⟩
  rcases bind_eq_error_iff.mp h with h | ⟨_, -, h⟩
  · obtain ⟨text, hrefused⟩ := Environment.parsed_eq_error_iff.mp h
    exact ⟨.allowHardware, text, hrefused⟩
  rcases bind_eq_error_iff.mp h with h | ⟨_, -, h⟩
  · obtain ⟨text, hrefused⟩ := Environment.parsed_eq_error_iff.mp h
    exact ⟨.maxShots, text, hrefused⟩
  rcases bind_eq_error_iff.mp h with h | ⟨_, -, h⟩
  · obtain ⟨text, hrefused⟩ := Environment.parsed_eq_error_iff.mp h
    exact ⟨.maxCircuitLength, text, hrefused⟩
  rcases bind_eq_error_iff.mp h with h | ⟨_, -, h⟩
  · exact ⟨.family, Environment.familyChoice_eq_error_iff.mp h⟩
  · cases h

/-- **The environment is refused** exactly if a text writes no value; for a device any text does. -/
theorem withEnvironment_refuses_iff : (∃ e, c.withEnvironment env = .error e) ↔
    ∃ f : Field, f ≠ .device ∧ ∃ text, env.text? f.variableName = some text ∧
      f.ofText? text = none := by
  constructor
  · rintro ⟨e, h⟩
    obtain ⟨f, text, hset, hread, -⟩ := exists_refused_of_withEnvironment h
    refine ⟨f, ?_, text, hset, hread⟩
    rintro rfl
    cases hread
  · rintro ⟨f, -, text, hset, hread⟩
    cases hresult : c.withEnvironment env with
    | error e => exact ⟨e, rfl⟩
    | ok c' =>
      have hsettled := withEnvironment_eq_ok_iff_settled.mp hresult f
      rw [Field.settled?, hset] at hsettled
      cases hread.symm.trans hsettled

/-- **The environment changes nothing the second time**: the texts write the same again, and what
has no text leaves everything. -/
theorem withEnvironment_again (h : c.withEnvironment env = .ok c') :
    c'.withEnvironment env = .ok c' := by
  refine withEnvironment_eq_ok_iff_settled.mpr fun f => Field.settled?_some_iff.mpr ?_
  rcases Field.settled?_some_iff.mp (withEnvironment_eq_ok_iff_settled.mp h f) with
    ⟨hunset, -⟩ | hset
  · exact Or.inl ⟨hunset, rfl⟩
  · exact Or.inr hset

/-! ### Files -/

/-- The entries of the mapping that a file holds, with the document that they belong to. -/
def FileContent.mapping? : FileContent → Option (Yaml.Document × List (Yaml.Node × Yaml.Node))
  | .missing => none
  | .bytes content => do
    let d ← Yaml.Document.read? (← String.fromUTF8? content)
    match d.root.map Yaml.Node.content with
    | some (.mapping entries) => some (d, entries)
    | _ => none

/-- The scalar that a file writes under a key. -/
def FileContent.scalar? (file : FileContent) (key : String) : Option Yaml.Scalar := do
  let (d, entries) ← file.mapping?
  let entry ← entries.find? fun entry => (d.scalar? entry.1).map (·.text) = some key
  d.scalar? entry.2

/-- The value of a field in a file: what stands under its key, or the default if nothing does. -/
def Field.inFile? (given : Option FileContent) (f : Field) : Option f.Value :=
  match given.bind (·.scalar? f.key) with
  | some s => f.ofScalar? s
  | none => some (f.get standard)

/-- Among the fields of a mapping a name is found where it is found among the keys. -/
theorem find?_yamlFields {d : Yaml.Document} {entries : List (Yaml.Node × Yaml.Node)}
    {fields : List (String × Yaml.Node)} (h : yamlFields? d entries = some fields) (name : String) :
    (fields.find? fun field => field.1 = name).map (·.2)
      = (entries.find? fun entry => (d.scalar? entry.1).map (·.text) = some name).map (·.2) := by
  induction entries generalizing fields with
  | nil =>
    cases h
    rfl
  | cons entry rest ih =>
    obtain ⟨key, node⟩ := entry
    rw [yamlFields?, List.mapM_cons, Option.bind_eq_bind, Option.bind_eq_some_iff] at h
    obtain ⟨_, hfirst, h⟩ := h
    obtain ⟨others, hothers, h⟩ := Option.bind_eq_some_iff.mp h
    obtain ⟨k, hk, rfl⟩ := Option.map_eq_some_iff.mp hfirst
    cases h
    rw [List.find?_cons, List.find?_cons, hk]
    by_cases hname : k.text = name
    · simp [hname]
    · simpa [hname] using ih hothers

/-- A field that is read from a mapping is given once, or left out. -/
theorem bind_of_yamlField? {α : Type} {d : Yaml.Document} {fields : List (String × Yaml.Node)}
    {name : String} {read : Yaml.Scalar → Option α} {unset value : α}
    (h : yamlField? d fields name read unset = some value) :
    match (fields.find? fun field => field.1 = name).map (·.2) with
    | some node => (d.scalar? node).bind read = some value
    | none => value = unset := by
  unfold yamlField? at h
  rw [← List.head?_filter]
  split at h
  · rename_i hnil
    rw [hnil]
    exact (Option.some.inj h).symm
  · rename_i hone
    rw [hone]
    exact h
  · cases h

/-- The configuration of a mapping is read field by field. -/
theorem yamlField?_of_ofEntries? {d : Yaml.Document} {entries : List (Yaml.Node × Yaml.Node)}
    (h : ofEntries? d entries = some c) : ∃ fields, yamlFields? d entries = some fields ∧
      ∀ f : Field, yamlField? d fields f.key f.ofScalar? (f.get standard) = some (f.get c) := by
  unfold ofEntries? at h
  simp only [Option.bind_eq_bind, Option.bind_eq_some_iff, Option.pure_def, Option.some.injEq] at h
  obtain ⟨fields, hfields, _, hdevice, _, hverbatim, _, hbatch, _, hhardware, _, hshots, _, hlength,
    _, hfamily, rfl⟩ := h
  refine ⟨fields, hfields, fun f => ?_⟩
  cases f with
  | device => exact hdevice
  | verbatimMode => exact hverbatim
  | batchMode => exact hbatch
  | allowHardware => exact hhardware
  | maxShots => exact hshots
  | maxCircuitLength => exact hlength
  | family => exact hfamily

/-- A file that is read holds nothing, and then every value has its default, or a mapping. -/
theorem mapping?_of_ofFile {file : FileContent} (h : ofFile file = .ok c) :
    (file.mapping? = none ∧ c = standard) ∨
      ∃ d entries, file.mapping? = some (d, entries) ∧ ofEntries? d entries = some c := by
  obtain ⟨content, text, rfl, htext, hread, -⟩ := ofFile_eq_ok_iff.mp h
  obtain ⟨d, hd, hread⟩ := Option.bind_eq_some_iff.mp hread
  have hmapping : (FileContent.bytes content).mapping?
      = match d.root.map Yaml.Node.content with
        | some (.mapping entries) => some (d, entries)
        | _ => none := by
    rw [FileContent.mapping?, htext]
    simp only [Option.bind_eq_bind, Option.bind_some, hd]
  rw [hmapping]
  split at hread
  case h_1 hroot =>
    cases hread
    exact Or.inl ⟨by rw [hroot], rfl⟩
  case h_2 s hroot =>
    -- an empty scalar stands for nothing, and any other is refused
    split at hread
    · cases hread
      exact Or.inl ⟨by rw [hroot], rfl⟩
    · cases hread
  case h_3 entries hroot => exact Or.inr ⟨d, entries, by rw [hroot], hread⟩
  case h_4 => cases hread

/-- **A file gives a field what stands under its key**, or its default. -/
theorem inFile?_of_ofFile {file : FileContent} (h : ofFile file = .ok c) (f : Field) :
    f.inFile? (some file) = some (f.get c) := by
  rcases mapping?_of_ofFile h with ⟨hmapping, rfl⟩ | ⟨d, entries, hmapping, hentries⟩
  · simp [Field.inFile?, FileContent.scalar?, hmapping]
  · obtain ⟨fields, hfields, hfield⟩ := yamlField?_of_ofEntries? hentries
    have hvalue := bind_of_yamlField? (hfield f)
    rw [find?_yamlFields hfields] at hvalue
    have hscalar : file.scalar? f.key
        = ((entries.find? fun entry => (d.scalar? entry.1).map (·.text) = some f.key).map
            (·.2)).bind d.scalar? := by
      rw [FileContent.scalar?, hmapping, Option.bind_map]
      rfl
    unfold Field.inFile?
    rw [Option.bind_some, hscalar]
    -- the key stands there, with a scalar that is read, or it is left out
    split at hvalue
    · rename_i node hnode
      obtain ⟨s, hs, hread⟩ := Option.bind_eq_some_iff.mp hvalue
      rw [hnode, Option.bind_some, hs]
      exact hread
    · rename_i hnone
      rw [hnone, hvalue]
      rfl

/-! ### Both -/

/-- **Loading settles every field**: by the environment, and otherwise by the file. -/
theorem settled?_of_load {given : Option FileContent} (h : load given env = .ok c) (f : Field) :
    f.settled? env (f.inFile? given) = some (f.get c) := by
  obtain ⟨base, hbase, henv, -⟩ := load_eq_ok_iff.mp h
  have hfile : f.inFile? given = some (f.get base) := by
    cases given with
    | none =>
      cases hbase
      rfl
    | some file => exact inFile?_of_ofFile hbase f
  rw [hfile]
  exact withEnvironment_eq_ok_iff_settled.mp henv f

/-- **The environment first, then the file, then the default**, for every field by itself. The
environment changes a configuration exactly if all texts of its variables can be read, and then it
changes nothing any more. The strict rule agrees for a field exactly if its own variable is not
garbled. If it finds a variable that is set and cannot be read, the environment is refused or the
variable is garbled. -/
theorem environment_first (given : Option FileContent) (env : Environment) (base c : Config) :
    (base.withEnvironment env = .ok c ↔
      ∀ f : Field, f.settled? env (some (f.get base)) = some (f.get c)) ∧
    (base.withEnvironment env = .ok c → c.withEnvironment env = .ok c) ∧
    ((∃ e, base.withEnvironment env = .error e) ↔ ∃ f : Field, f ≠ .device ∧
      ∃ text, env.text? f.variableName = some text ∧ f.ofText? text = none) ∧
    (load given env = .ok c → ∀ f : Field, f.settled? env (f.inFile? given) = some (f.get c)) ∧
    (base.withEnvironment env = .ok c → ∀ f : Field,
      (f.strict? env (some (f.get base)) = some (f.get c) ↔ ¬ f.Garbled env)) ∧
    (load given env = .ok c → ∀ f : Field,
      (f.strict? env (f.inFile? given) = some (f.get c) ↔ ¬ f.Garbled env)) ∧
    ((∃ f : Field, f ≠ .device ∧
        ∃ bytes, env.bytes? f.variableName = some bytes ∧ f.ofBytes? bytes = none) ↔
      (∃ e, base.withEnvironment env = .error e) ∨ ∃ f : Field, f ≠ .device ∧ f.Garbled env) := by
  refine ⟨withEnvironment_eq_ok_iff_settled, withEnvironment_again, withEnvironment_refuses_iff,
    settled?_of_load, fun h f => ?_, fun h f => ?_, ?_⟩
  · exact Field.strict?_eq_some_iff (withEnvironment_eq_ok_iff_settled.mp h f)
  · exact Field.strict?_eq_some_iff (settled?_of_load h f)
  · rw [withEnvironment_refuses_iff, ← exists_or]
    refine exists_congr fun f => ?_
    rw [Field.exists_bytes_unread_iff, ← and_or_left, or_comm]

/-- A file that forces a family, and an environment that leaves it to the device again. What it says
about batches is garbled. -/
theorem environment_first_overFile :
    let file : FileContent :=
      .bytes "device: garnet\nmax_shots: 3\ntranslation: !force iqm\n".toUTF8
    let env : Environment := ⟨fun name =>
      if name = "VERBATIM_MAX_SHOTS" then some " 7 ".toUTF8
      else if name = "VERBATIM_FORCE_FAMILY" then some "".toUTF8
      else if name = "VERBATIM_BATCH_MODE" then some ⟨#[0xff]⟩ else none⟩
    let read : Config :=
      { standard with device := "garnet", maxShots := 3, family := .force .iqm }
    let both : Config := { read with maxShots := 7, family := .auto }
    ofFile file = .ok read ∧ read.withEnvironment env = .ok both ∧
      both.withEnvironment env = .ok both ∧ load (some file) env = .ok both ∧
      (∀ f : Field, f.settled? env (f.inFile? (some file)) = some (f.get both)) ∧
      Field.maxShots.strict? env (Field.maxShots.inFile? (some file)) = some 7 ∧
      Field.batchMode.strict? env (Field.batchMode.inFile? (some file)) ≠ some false := by
  intro file env read both
  have hread : ofFile file = .ok read := by decide +kernel
  have hboth : read.withEnvironment env = .ok both := by decide +kernel
  have hload : load (some file) env = .ok both :=
    load_eq_ok_iff.mpr ⟨read, hread, hboth, by decide +kernel⟩
  obtain ⟨-, hagain, -, hsettled, -, hstrict, -⟩ := environment_first (some file) env read both
  have hshots : ¬ Field.maxShots.Garbled env := by
    rintro ⟨_, ⟨rfl⟩, htext⟩
    revert htext
    decide +kernel
  have hbatch : Field.batchMode.Garbled env := ⟨⟨#[0xff]⟩, rfl, by decide +kernel⟩
  exact ⟨hread, hboth, hagain hboth, hload, hsettled hload, (hstrict hload .maxShots).mpr hshots,
    fun h => (hstrict hload .batchMode).mp h hbatch⟩

/-- **A variable that is garbled is passed over**, where the strict rule refuses it. -/
theorem garbled_passedOver :
    ¬ ∀ (given : Option FileContent) (env : Environment) (base c : Config),
      (base.withEnvironment env = .ok c →
        (∀ f : Field, f.strict? env (some (f.get base)) = some (f.get c)) ∧
          c.withEnvironment env = .ok c) ∧
      ((∃ e, base.withEnvironment env = .error e) ↔ ∃ f : Field, f ≠ .device ∧
        ∃ bytes, env.bytes? f.variableName = some bytes ∧ f.ofBytes? bytes = none) ∧
      (load given env = .ok c →
        ∀ f : Field, f.strict? env (f.inFile? given) = some (f.get c)) := by
  intro h
  -- seven shots, behind a byte that no text has
  let env : Environment :=
    ⟨fun name => if name = "VERBATIM_MAX_SHOTS" then some ⟨#[0xff, 0x37]⟩ else none⟩
  have hset : env.bytes? "VERBATIM_MAX_SHOTS" = some ⟨#[0xff, 0x37]⟩ := rfl
  have hunread : Field.maxShots.ofBytes? ⟨#[0xff, 0x37]⟩ = none := by decide +kernel
  have hmade : standard.withEnvironment env = .ok standard := by decide +kernel
  obtain ⟨-, hrefused, -⟩ := h none env standard standard
  obtain ⟨e, he⟩ := hrefused.mpr ⟨.maxShots, nofun, _, hset, hunread⟩
  rw [hmade] at he
  cases he

end Config

end CircuitDispatch
