import CircuitDispatch.Angle.Basic

/-!
# Operations

An operation is a gate on one or two qubits, a declaration about classical
registers, or a statement about measurement. Gates are kept apart from the
qubits they act on, so what holds of all gates is said once.
-/

namespace CircuitDispatch

variable {R : Type}

/-- A gate on one qubit. -/
inductive SingleGate (R : Type) where
  /-- Rotation about Z. -/
  | rotateZ (theta : Angle R)
  /-- Rotation about X. -/
  | rotateX (theta : Angle R)
  /-- Rotation about Y. -/
  | rotateY (theta : Angle R)
  /-- Rotation by `theta` about the axis at azimuth `phi` of the equator. -/
  | rotateXY (theta phi : Angle R)
  | pauliX
  | pauliY
  | pauliZ
  /-- A quarter turn about X. -/
  | sqrtPauliX
  /-- A quarter turn back about X. -/
  | invSqrtPauliX
  | hadamard
  /-- Half a turn about the axis at an azimuth of the equator. -/
  | gpi (theta : Angle R)
  /-- A quarter turn about the axis at an azimuth of the equator. -/
  | gpi2 (theta : Angle R)
  deriving BEq, DecidableEq, Repr

namespace SingleGate

/-- The name of the gate. -/
def tag : SingleGate R → String
  | .rotateZ _ => "RotateZ"
  | .rotateX _ => "RotateX"
  | .rotateY _ => "RotateY"
  | .rotateXY _ _ => "RotateXY"
  | .pauliX => "PauliX"
  | .pauliY => "PauliY"
  | .pauliZ => "PauliZ"
  | .sqrtPauliX => "SqrtPauliX"
  | .invSqrtPauliX => "InvSqrtPauliX"
  | .hadamard => "Hadamard"
  | .gpi _ => "GPi"
  | .gpi2 _ => "GPi2"

/-- The angles of the gate. -/
def angles : SingleGate R → List (Angle R)
  | .rotateZ theta => [theta]
  | .rotateX theta => [theta]
  | .rotateY theta => [theta]
  | .rotateXY theta phi => [theta, phi]
  | .gpi theta => [theta]
  | .gpi2 theta => [theta]
  | _ => []

/-- The same gate with other angles. -/
def mapAngles (f : Angle R → Angle R) : SingleGate R → SingleGate R
  | .rotateZ theta => .rotateZ (f theta)
  | .rotateX theta => .rotateX (f theta)
  | .rotateY theta => .rotateY (f theta)
  | .rotateXY theta phi => .rotateXY (f theta) (f phi)
  | .gpi theta => .gpi (f theta)
  | .gpi2 theta => .gpi2 (f theta)
  | gate => gate

@[simp] theorem tag_mapAngles (f : Angle R → Angle R) (g : SingleGate R) :
    (g.mapAngles f).tag = g.tag := by
  cases g <;> rfl

@[simp] theorem angles_mapAngles (f : Angle R → Angle R) (g : SingleGate R) :
    (g.mapAngles f).angles = g.angles.map f := by
  cases g <;> rfl

end SingleGate

/-- A gate on two qubits, the first of which is called the control. -/
inductive PairGate (R : Type) where
  | cnot
  | controlledPauliZ
  | controlledPhaseShift (theta : Angle R)
  | xy (theta : Angle R)
  /-- The fully entangling Mølmer–Sørensen interaction. -/
  | molmerSorensenXX
  /-- The Mølmer–Sørensen interaction by an angle. -/
  | variableMSXX (theta : Angle R)
  | echoCrossResonance
  deriving BEq, DecidableEq, Repr

namespace PairGate

/-- The name of the gate. -/
def tag : PairGate R → String
  | .cnot => "CNOT"
  | .controlledPauliZ => "ControlledPauliZ"
  | .controlledPhaseShift _ => "ControlledPhaseShift"
  | .xy _ => "XY"
  | .molmerSorensenXX => "MolmerSorensenXX"
  | .variableMSXX _ => "VariableMSXX"
  | .echoCrossResonance => "EchoCrossResonance"

/-- The angles of the gate. -/
def angles : PairGate R → List (Angle R)
  | .controlledPhaseShift theta => [theta]
  | .xy theta => [theta]
  | .variableMSXX theta => [theta]
  | _ => []

/-- The same gate with other angles. -/
def mapAngles (f : Angle R → Angle R) : PairGate R → PairGate R
  | .controlledPhaseShift theta => .controlledPhaseShift (f theta)
  | .xy theta => .xy (f theta)
  | .variableMSXX theta => .variableMSXX (f theta)
  | gate => gate

@[simp] theorem tag_mapAngles (f : Angle R → Angle R) (g : PairGate R) :
    (g.mapAngles f).tag = g.tag := by
  cases g <;> rfl

@[simp] theorem angles_mapAngles (f : Angle R → Angle R) (g : PairGate R) :
    (g.mapAngles f).angles = g.angles.map f := by
  cases g <;> rfl

end PairGate

/-- What a classical register holds. -/
inductive RegisterKind where
  | bit
  | float
  | complex
  deriving BEq, DecidableEq, Repr

/-- The name of the operation that declares a register of this kind. -/
def RegisterKind.tag : RegisterKind → String
  | .bit => "DefinitionBit"
  | .float => "DefinitionFloat"
  | .complex => "DefinitionComplex"

/-- One operation of a circuit. -/
inductive Operation (R : Type) where
  /-- A gate on one qubit. -/
  | single (gate : SingleGate R) (qubit : Nat)
  /-- A gate on two qubits. -/
  | pair (gate : PairGate R) (control target : Nat)
  /-- Declares a classical register. -/
  | define (kind : RegisterKind) (name : String) (length : Nat) (isOutput : Bool)
  /-- Sets one bit of a register for every shot. -/
  | inputBit (name : String) (index : Nat) (value : Bool)
  /-- Measures a qubit into one bit of a register. -/
  | measure (qubit : Nat) (readout : String) (index : Nat)
  /-- Declares the number of shots and the register they land in. -/
  | setShots (shots : Nat) (readout : String)
  /-- Measures all qubits, so many times, into a register. -/
  | repeatMeasurement (readout : String) (shots : Nat) (mapping : Option (SortedMap Nat Nat))
  /-- Records a phase of the whole circuit, without effect. -/
  | globalPhase (phase : Angle R)
  deriving BEq, DecidableEq

namespace Operation

/-- The name of the operation. -/
def tag : Operation R → String
  | .single gate _ => gate.tag
  | .pair gate _ _ => gate.tag
  | .define kind _ _ _ => kind.tag
  | .inputBit _ _ _ => "InputBit"
  | .measure _ _ _ => "MeasureQubit"
  | .setShots _ _ => "PragmaSetNumberOfMeasurements"
  | .repeatMeasurement _ _ _ => "PragmaRepeatedMeasurement"
  | .globalPhase _ => "PragmaGlobalPhase"

/-- The qubits that a gate acts on or a measurement reads, control first. -/
def qubits : Operation R → List Nat
  | .single _ qubit => [qubit]
  | .pair _ control target => [control, target]
  | .measure qubit _ _ => [qubit]
  | _ => []

/-- Whether the operation says something about measurement. -/
def involvesMeasurement : Operation R → Bool
  | .measure _ _ _ => true
  | .setShots _ _ => true
  | .repeatMeasurement _ _ _ => true
  | _ => false

/-- Whether the operation is a gate. -/
def isGate : Operation R → Bool
  | .single _ _ => true
  | .pair _ _ _ => true
  | _ => false

/-- Whether every family of devices lets the operation through without an instruction of its
own. -/
def isPassThrough : Operation R → Bool
  | .define _ _ _ _ => true
  | .inputBit _ _ _ => true
  | .measure _ _ _ => true
  | .setShots _ _ => true
  | .repeatMeasurement _ _ _ => true
  | _ => false

/-- The number of shots and the register, if the operation declares them. -/
def shotDeclaration? : Operation R → Option (Nat × String)
  | .setShots shots readout => some (shots, readout)
  | .repeatMeasurement readout shots _ => some (shots, readout)
  | _ => none

/-- The register that the operation measures into. -/
def readout? : Operation R → Option String
  | .measure _ readout _ => some readout
  | .setShots _ readout => some readout
  | .repeatMeasurement readout _ _ => some readout
  | _ => none

/-- The angles of the operation. -/
def angles : Operation R → List (Angle R)
  | .single gate _ => gate.angles
  | .pair gate _ _ => gate.angles
  | .globalPhase phase => [phase]
  | _ => []

/-- The same operation with other angles. -/
def mapAngles (f : Angle R → Angle R) : Operation R → Operation R
  | .single gate qubit => .single (gate.mapAngles f) qubit
  | .pair gate control target => .pair (gate.mapAngles f) control target
  | .globalPhase phase => .globalPhase (f phase)
  | op => op

/-- Puts numbers in the place of symbols in every angle. -/
def bind (values : String → Option R) (op : Operation R) : Operation R :=
  op.mapAngles (Angle.bind values)

/-- Checks what can be checked without the circuit around: a pair of qubits is a pair. -/
def validate : Operation R → Except CircuitError Unit
  | .pair gate control target =>
    if control = target then .error (.duplicateQubit gate.tag control) else .ok ()
  | _ => .ok ()

end Operation

end CircuitDispatch
