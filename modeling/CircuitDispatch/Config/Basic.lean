import CircuitDispatch.Native.Family
import CircuitDispatch.Text.Blank

/-!
# Configurations

What is fixed before any circuit is planned: the device, whether native programs
are submitted, the limits on hardware. A configuration is a plain value;
`Config.validate` tells what is wrong with one.
-/

namespace CircuitDispatch

/-- How the family for native programs is chosen. -/
inductive FamilyChoice where
  /-- By the identifier of the device. -/
  | auto
  /-- Always this one; the limits on hardware hold. -/
  | force (family : Family)
  deriving DecidableEq, Repr, Inhabited

/-- Why a configuration cannot be had. -/
inductive ConfigError where
  /-- A file cannot be read. -/
  | unreadable (reason : String)
  /-- A file does not hold a configuration. -/
  | malformed (reason : String)
  /-- A value is out of order. -/
  | invalid (reason : String)
  deriving DecidableEq, Repr

/-- The message for an error. -/
def ConfigError.message : ConfigError → String
  | .unreadable reason => s!"IO error: {reason}"
  | .malformed reason => s!"Parse error: {reason}"
  | .invalid reason => s!"Validation error: {reason}"

/-- The settings for planning and submitting circuits. -/
structure Config where
  /-- The identifier of the device. -/
  device : String := "braket_sv"
  /-- Whether circuits are lowered to native gates and submitted as they are. -/
  verbatimMode : Bool := false
  /-- Whether several circuits are submitted as one batch. -/
  batchMode : Bool := false
  /-- Whether devices that cost money are allowed. -/
  allowHardware : Bool := false
  /-- The limit on shots. -/
  maxShots : Nat := 100
  /-- The limit on the number of operations. -/
  maxCircuitLength : Nat := 100
  family : FamilyChoice := .auto
  deriving DecidableEq, Repr, Inhabited

namespace Config

/-- The configuration with every value at its default. -/
def standard : Config := {}

/-- The configuration for a device with every other value at its default. -/
def forDevice (device : String) : Config := { standard with device := device }

/-- The same configuration with native programs for a family. -/
def forcing (family : Family) (c : Config) : Config :=
  { c with family := .force family, verbatimMode := true }

/-- Whether the limits on shots and length hold. -/
def enforcesLimits (c : Config) : Bool :=
  c.allowHardware || match c.family with
    | .auto => false
    | .force _ => true

/-- Checks that a device is named and that the limits leave room. -/
def validate (c : Config) : Except ConfigError Unit :=
  if Text.isBlankText c.device then .error (.invalid "device must not be empty")
  else if c.maxShots = 0 then .error (.invalid "max_shots must be greater than 0")
  else if c.maxCircuitLength = 0 then
    .error (.invalid "max_circuit_length must be greater than 0")
  else .ok ()

end Config

end CircuitDispatch
