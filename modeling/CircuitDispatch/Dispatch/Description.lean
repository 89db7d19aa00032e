import CircuitDispatch.Dispatch.Backend
import CircuitDispatch.Text.Quoted

/-!
# Descriptions

One-line descriptions of backends for logs: the name of each part with its
fields between braces, and texts between quotes.
-/

namespace CircuitDispatch

/-- A part with its fields, each with its description. -/
def describeRecord (name : String) (fields : List (String × String)) : String :=
  let body := ", ".intercalate (fields.map fun (field, value) => field ++ ": " ++ value)
  name ++ " \x7b " ++ body ++ " \x7d"

/-- The description of a truth value. -/
def describeBool (b : Bool) : String := if b then "true" else "false"

/-- The description of a family. -/
def Family.describe : Family → String
  | .ionq => "IonQ"
  | .rigetti => "Rigetti"
  | .oqc => "Oqc"
  | .iqm => "Iqm"

/-- The description of a choice of families. -/
def FamilyChoice.describe : FamilyChoice → String
  | .auto => "Auto"
  | .force family => s!"Force({family.describe})"

/-- The description of a configuration. -/
def Config.describe (c : Config) : String :=
  describeRecord "BraketConfig"
    [("device", Text.quoted c.device), ("verbatim_mode", describeBool c.verbatimMode),
      ("batch_mode", describeBool c.batchMode), ("allow_hardware", describeBool c.allowHardware),
      ("max_shots", toString c.maxShots), ("max_circuit_length", toString c.maxCircuitLength),
      ("translation", c.family.describe)]

/-- The description of a gateway. -/
def Gateway.describe {R σ : Type} (g : Gateway R σ) : String :=
  let executor := match g.executor with
    | some executor => s!"Some({Text.quoted executor.name})"
    | none => "None"
  describeRecord "ExecutionGateway"
    [("service", Text.quoted g.service.name), ("local", executor)]

/-- A time in milliseconds in its largest unit. -/
def describeMilliseconds (n : Nat) : String :=
  if n = 0 then "0ns"
  else if n < 1000 then s!"{n}ms"
  else
    let digits := (toString (1000 + n % 1000)).toList.drop 1
    let kept := (digits.reverse.dropWhile (· = '0')).reverse
    toString (n / 1000) ++ (if kept.isEmpty then "" else "." ++ String.ofList kept) ++ "s"

/-- The description of a polling policy. -/
def PollPolicy.describe (p : PollPolicy) : String :=
  describeRecord "PollPolicy"
    [("interval", describeMilliseconds p.interval), ("max_polls", toString p.maxPolls)]

/-- The description of a backend. -/
def Backend.describe {R σ : Type} (b : Backend R σ) : String :=
  describeRecord "BraketBackend"
    [("config", b.config.describe), ("gateway", b.gateway.describe),
      ("poll_policy", b.policy.describe)]

end CircuitDispatch
