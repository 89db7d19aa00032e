import CircuitDispatch.Device.Identifier

/-!
# Devices

A device to run on is a simulator in the own process or a remote device, and a
remote device is either a managed simulator or hardware that costs money.
`Device.select?` finds the device of an identifier and refuses hardware unless
it is allowed.
-/

namespace CircuitDispatch

/-- A device to run on. -/
inductive Device where
  /-- A simulator in the own process. -/
  | onSite (name : String)
  /-- A device behind the task service, by its resource name. -/
  | remote (arn : String) (simulator : Bool)
  deriving DecidableEq, Repr

namespace Device

/-- The identifier that requests carry. -/
def identifier : Device → String
  | .onSite name => name
  | .remote arn _ => arn

/-- Whether the device is in the own process. -/
def isLocal : Device → Bool
  | .onSite _ => true
  | .remote _ _ => false

/-- Whether running on the device costs time on hardware. -/
def isHardware : Device → Bool
  | .remote _ false => true
  | _ => false

/-- The device of an identifier; hardware only if it is allowed. -/
def select? (identifier : String) (allowHardware : Bool) : Option Device :=
  if DeviceName.isLocal identifier then some (.onSite identifier)
  else if DeviceName.isRemoteSimulator identifier then
    some (.remote (DeviceName.resolve identifier) true)
  else if allowHardware then some (.remote (DeviceName.resolve identifier) false)
  else none

/-- The JSON value of a device. -/
def toJson (d : Device) : Json :=
  .object [("identifier", .string d.identifier), ("local", .bool d.isLocal),
    ("hardware", .bool d.isHardware),
    ("simulator", match d with
      | .onSite _ => .null
      | .remote _ simulator => .bool simulator)]

end Device

end CircuitDispatch
