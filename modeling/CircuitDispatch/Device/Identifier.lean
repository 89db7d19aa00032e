import CircuitDispatch.Native.Family
import CircuitDispatch.Text.Split

/-!
# Identifiers of devices

A device is named by a full resource name, by a friendly name that stands for
one, or by the name of a simulator in the own process. Friendly names are known
in any case of letters; resource names and local names are compared as they are.
-/

namespace CircuitDispatch.DeviceName

/-! ### Known devices -/

def ankaa3 : String := "arn:aws:braket:us-west-1::device/qpu/rigetti/Ankaa-3"

def aspenM3 : String := "arn:aws:braket:us-west-1::device/qpu/rigetti/Aspen-M-3"

def aria1 : String := "arn:aws:braket:us-east-1::device/qpu/ionq/Aria-1"

def aria2 : String := "arn:aws:braket:us-east-1::device/qpu/ionq/Aria-2"

def forte1 : String := "arn:aws:braket:us-east-1::device/qpu/ionq/Forte-1"

def garnet : String := "arn:aws:braket:eu-north-1::device/qpu/iqm/Garnet"

def lucy : String := "arn:aws:braket:eu-west-2::device/qpu/oqc/Lucy"

def sv1 : String := "arn:aws:braket:::device/quantum-simulator/amazon/sv1"

def tn1 : String := "arn:aws:braket:::device/quantum-simulator/amazon/tn1"

def dm1 : String := "arn:aws:braket:::device/quantum-simulator/amazon/dm1"

/-- The friendly names, in lower case, with the resource names they stand for. -/
def friendlyNames : List (String × String) :=
  [("rigetti", ankaa3), ("ankaa", ankaa3), ("ankaa-3", ankaa3), ("ankaa3", ankaa3),
    ("aspen", aspenM3), ("aspen-m-3", aspenM3), ("ionq", aria1), ("aria", aria1),
    ("aria-1", aria1), ("aria-2", aria2), ("forte", forte1), ("forte-1", forte1),
    ("iqm", garnet), ("garnet", garnet), ("iqm-garnet", garnet), ("oqc", lucy),
    ("lucy", lucy), ("oqc-lucy", lucy), ("sv1", sv1), ("braket-sv1", sv1), ("tn1", tn1),
    ("braket-tn1", tn1), ("dm1", dm1), ("braket-dm1", dm1)]

/-- The managed simulators, which cost no time on hardware. -/
def remoteSimulators : List String := [sv1, tn1, dm1]

/-- The names of simulators in the own process. -/
def localSimulators : List String := ["braket_sv", "braket_dm", "braket_ahs"]

/-- The mark before any other name of a simulator in the own process. -/
def localMark : String := "local:"

/-! ### What an identifier says -/

/-- Whether an identifier names a simulator in the own process. -/
def isLocal (identifier : String) : Bool :=
  localMark.toList.isPrefixOf identifier.toList || localSimulators.contains identifier

/-- The resource name that a friendly name stands for. -/
def ofFriendly? (name : String) : Option String := friendlyNames.lookup (Text.toLower name)

/-- The resource name of an identifier; one that is no friendly name stands for itself. -/
def resolve (identifier : String) : String := (ofFriendly? identifier).getD identifier

/-- Whether an identifier names a managed simulator. -/
def isRemoteSimulator (identifier : String) : Bool :=
  remoteSimulators.contains (resolve identifier)

/-- The provider that the path of a resource name tells. -/
def provider (name : String) : String := ((Text.split '/' name)[2]?).getD "unknown"

/-- The region that a resource name tells; global devices have none. -/
def region? (name : String) : Option String :=
  ((Text.split ':' name)[3]?).filter fun region => !region.isEmpty

/-- The family of the device that an identifier names. -/
def family? (identifier : String) : Option Family := Family.ofIdentifier? (resolve identifier)

end CircuitDispatch.DeviceName
