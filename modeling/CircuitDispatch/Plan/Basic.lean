import CircuitDispatch.Config.Basic
import CircuitDispatch.Device.Identifier
import CircuitDispatch.Dispatch.Error
import CircuitDispatch.OpenQasm.OfBlock
import CircuitDispatch.OpenQasm.OfCircuit
import CircuitDispatch.Plan.Metadata

/-!
# Planning

A plan is made of a circuit before anything is submitted: the number of shots
and the readout, the limits, the program, and what is needed to read the
results. `Plan.make` takes these steps in this order and reports the first that
fails.
-/

namespace CircuitDispatch

variable {R : Type}

/-- A program to submit. -/
inductive DeviceProgram (R : Type) where
  /-- Native instructions, which the device runs as they are. -/
  | verbatim (block : NativeBlock R)
  /-- A text that the device compiles further. -/
  | openQasm (text : String)

namespace DeviceProgram

/-- Whether the device runs the program as it is. -/
def isVerbatim : DeviceProgram R → Bool
  | .verbatim _ => true
  | .openQasm _ => false

/-- The text of a program. -/
def source [Scalar R] : DeviceProgram R → Except DispatchError String
  | .verbatim block => block.openQasm.mapError .ofCompile
  | .openQasm text => .ok text

end DeviceProgram

/-- A circuit that is ready to be submitted. -/
structure Plan (R : Type) where
  program : DeviceProgram R
  shots : Nat
  metadata : CircuitMetadata R

namespace Plan

/-- The number of shots of a circuit that declares none. -/
def defaultShots : Nat := 100

/-- The readout of a circuit that names none. -/
def defaultReadout : String := "ro"

/-- The declarations of the number of shots, those that measure last. -/
def shotDeclarations (c : Circuit R) : List (Nat × String) :=
  (c.withTag "PragmaSetNumberOfMeasurements" ++ c.withTag "PragmaRepeatedMeasurement").filterMap
    Operation.shotDeclaration?

/-- The number of shots and the readout that a circuit declares, if it does so once. -/
def measurementDeclaration (c : Circuit R) : Except DispatchError (Nat × String) :=
  match shotDeclarations c with
  | [] =>
    let readout := (c.withTag "MeasureQubit").findSome? Operation.readout?
    .ok (defaultShots, readout.getD defaultReadout)
  | [declaration] => .ok declaration
  | declarations => .error (.ambiguousMeasurement declarations.length)

/-- Checks the limits on shots and on length, if they hold. -/
def checkLimits (config : Config) (c : Circuit R) (shots : Nat) : Except DispatchError Unit :=
  if !config.enforcesLimits then .ok ()
  else if config.maxShots < shots then .error (.limitExceeded .shots shots config.maxShots)
  else if config.maxCircuitLength < c.size then
    .error (.limitExceeded .length c.size config.maxCircuitLength)
  else .ok ()

/-- The family of a native program, if one is wanted. -/
def family (config : Config) : Except DispatchError (Option Family) :=
  match config.family with
  | .force family => .ok (some family)
  | .auto =>
    if config.verbatimMode then
      match DeviceName.family? config.device with
      | some family => .ok (some family)
      | none => .error (.noFamily config.device)
    else .ok none

variable [Scalar R]

/-- The program of a circuit, native for a family or as a text. -/
def compile (c : Circuit R) : Option Family → Except DispatchError (DeviceProgram R)
  | some family => (family.lower c).mapError .ofCompile |>.map .verbatim
  | none => c.openQasm.mapError .ofCompile |>.map .openQasm

/-- The plan of a circuit under a configuration. -/
def make (config : Config) (c : Circuit R) : Except DispatchError (Plan R) := do
  let (shots, readout) ← measurementDeclaration c
  checkLimits config c shots
  let program ← compile c (← family config)
  return { program, shots, metadata := .ofCircuit c readout }

end Plan

end CircuitDispatch
