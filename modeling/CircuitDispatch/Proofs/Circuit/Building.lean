import CircuitDispatch.Circuit.Building
import CircuitDispatch.Proofs.Circuit.BitRegisters
import CircuitDispatch.Proofs.Sequencing

/-!
# Which operations a circuit keeps

An operation is added exactly if it is admissible behind the operations of the circuit
(`Circuit.add_eq_ok_iff`): it names no qubit twice, and a static bit is within its register if
this is defined by then. Otherwise one of the two is the reason for refusing it
(`Circuit.add_eq_error_iff`), and the circuit stays as it is (`Building.operations_run_add`).

So where operations are offered one by one, the circuit is made of the accepted ones, and whether
an operation is among them depends on those accepted before it, not on those refused
(`Building.offer_keepsAccepted`). A circuit of all of them at once is built exactly if none is
refused.
-/

namespace CircuitDispatch

variable {R : Type}

/-! ### One operation -/

namespace Operation

/-- Whether an operation can follow others. -/
structure Admissible (accepted : List (Operation R)) (op : Operation R) : Prop where
  /-- No qubit is named twice. -/
  distinct : op.qubits.Nodup
  /-- A static bit is within its register, as this is first defined. -/
  inRange : ∀ name index value, op = .inputBit name index value →
    ∀ length, Circuit.FirstDefined accepted name length → index < length

/-- Why an operation cannot follow others. -/
inductive Inadmissible (accepted : List (Operation R)) : Operation R → CircuitError → Prop
  | duplicateQubit {op : Operation R} {q : Nat} (h : op.qubits = [q, q]) :
    Inadmissible accepted op (.duplicateQubit op.tag q)
  | registerIndexOutOfRange {name : String} {index length : Nat} {value : Bool}
      (hlength : Circuit.FirstDefined accepted name length) (h : length ≤ index) :
    Inadmissible accepted (.inputBit name index value)
      (.registerIndexOutOfRange name index length)

variable {op : Operation R} {e : CircuitError}

theorem validate_eq_ok_iff : op.validate = .ok () ↔ op.qubits.Nodup := by
  cases op with
  | pair gate control target =>
    by_cases h : control = target
    · simp [validate, qubits, h]
    · simp [validate, qubits, h]
  | single | define | inputBit | measure | setShots | repeatMeasurement | globalPhase =>
    simp [validate, qubits]

theorem validate_eq_error_iff : op.validate = .error e ↔
    ∃ q, op.qubits = [q, q] ∧ e = .duplicateQubit op.tag q := by
  cases op with
  | pair gate control target =>
    by_cases h : control = target
    · subst h
      simp [validate, qubits, tag, eq_comm]
    · simp only [validate, qubits, if_neg h, reduceCtorEq, List.cons.injEq, false_iff]
      rintro ⟨q, ⟨rfl, rfl, -⟩, -⟩
      exact h rfl
  | single | define | inputBit | measure | setShots | repeatMeasurement | globalPhase =>
    simp [validate, qubits]

end Operation

namespace Circuit

variable {c d : Circuit R} {op : Operation R} {e : CircuitError}

theorem checkInputBit_eq_error_iff : c.checkInputBit op = .error e ↔
    ∃ name index value length, op = .inputBit name index value ∧
      FirstDefined c.operations name length ∧ length ≤ index ∧
      e = .registerIndexOutOfRange name index length := by
  cases op with
  | inputBit name index value =>
    simp only [← bitRegisterLength?_eq_some_iff, Operation.inputBit.injEq, checkInputBit]
    cases hlength : c.bitRegisterLength? name with
    | none =>
      refine iff_of_false nofun ?_
      rintro ⟨_, _, _, length, ⟨rfl, rfl, rfl⟩, hsome, -⟩
      rw [hlength] at hsome
      cases hsome
    | some length =>
      by_cases h : length ≤ index
      · simp [h, hlength, eq_comm]
      · refine iff_of_false (by simp [h]) ?_
        rintro ⟨_, _, _, length', ⟨rfl, rfl, rfl⟩, hsome, hle, -⟩
        rw [hlength] at hsome
        cases hsome
        exact h hle
  | single | pair | define | measure | setShots | repeatMeasurement | globalPhase =>
    simp [checkInputBit]

theorem checkInputBit_eq_ok_iff : c.checkInputBit op = .ok () ↔
    ∀ name index value, op = .inputBit name index value →
      ∀ length, FirstDefined c.operations name length → index < length := by
  cases hcheck : c.checkInputBit op with
  | error e =>
    refine iff_of_false nofun fun hinRange => ?_
    obtain ⟨name, index, value, length, hop, hlength, hle, -⟩ :=
      checkInputBit_eq_error_iff.mp hcheck
    exact absurd (hinRange name index value hop length hlength) (Nat.not_lt.mpr hle)
  | ok =>
    refine iff_of_true rfl fun name index value hop length hlength => ?_
    by_contra hout
    have hfails := checkInputBit_eq_error_iff.mpr
      ⟨name, index, value, length, hop, hlength, Nat.not_lt.mp hout, rfl⟩
    rw [hcheck] at hfails
    cases hfails

/-- **Which operations are added.** -/
theorem add_eq_ok_iff : c.add op = .ok d ↔
    op.Admissible c.operations ∧ d = ⟨c.operations ++ [op]⟩ := by
  unfold add
  simp only [bind_eq_ok_iff, pure_eq_ok_iff]
  constructor
  · rintro ⟨_, hvalid, _, hcheck, rfl⟩
    exact ⟨⟨Operation.validate_eq_ok_iff.mp hvalid, checkInputBit_eq_ok_iff.mp hcheck⟩, rfl⟩
  · rintro ⟨hop, rfl⟩
    exact ⟨(), Operation.validate_eq_ok_iff.mpr hop.distinct, (),
      checkInputBit_eq_ok_iff.mpr hop.inRange, rfl⟩

/-- **Which operations are refused**, and why. -/
theorem add_eq_error_iff : c.add op = .error e ↔ op.Inadmissible c.operations e := by
  unfold add
  simp only [bind_eq_error_iff, Operation.validate_eq_error_iff, checkInputBit_eq_error_iff]
  constructor
  · rintro (⟨q, hq, rfl⟩ | ⟨_, -, hrest⟩)
    · exact .duplicateQubit hq
    · obtain ⟨name, index, value, length, rfl, hlength, hle, rfl⟩ | ⟨_, -, hpure⟩ := hrest
      · exact .registerIndexOutOfRange hlength hle
      · cases hpure
  · rintro (hq | ⟨hlength, hle⟩)
    · exact .inl ⟨_, hq, rfl⟩
    · exact .inr ⟨(), rfl, .inl ⟨_, _, _, _, rfl, hlength, hle, rfl⟩⟩

end Circuit

/-! ### Operations offered one by one -/

namespace Building

variable {c d : Circuit R} {op : Operation R} {ops : List (Operation R)}
  {answer : Except CircuitError Unit} {e : CircuitError}

/-- Those of some operations that are accepted, in order. -/
def accepted (ops : List (Operation R)) (answers : List (Except CircuitError Unit)) :
    List (Operation R) :=
  ((ops.zip answers).filter fun entry => entry.2.isOk).map (·.1)

/-- Whether an error is the first one among some answers. -/
def IsFirstRefusal (answers : List (Except CircuitError Unit)) (e : CircuitError) : Prop :=
  ∃ before after, answers = before ++ .error e :: after ∧ ∀ answer ∈ before, answer = .ok ()

/-- What becomes of operations that are offered one by one to an empty circuit: how they are
answered, and the circuit in the end. -/
structure KeepsAccepted (ops : List (Operation R)) (answers : List (Except CircuitError Unit))
    (c : Circuit R) : Prop where
  /-- Every operation is answered. -/
  answered : answers.length = ops.length
  /-- The circuit is made of the accepted operations. -/
  operations : c.operations = accepted ops answers
  /-- An operation is accepted if it is admissible behind those accepted before. -/
  accepts : ∀ (i : Nat) op answer, ops[i]? = some op → answers[i]? = some answer →
    (answer = .ok () ↔ op.Admissible (accepted (ops.take i) answers))
  /-- If it is not accepted, the answer says why it is not admissible. -/
  refuses : ∀ (i : Nat) op answer, ops[i]? = some op → answers[i]? = some answer →
    ∀ e, answer = .error e ↔ op.Inadmissible (accepted (ops.take i) answers) e
  /-- At once they make the same circuit, if all are accepted. -/
  atOnce : ∀ d, Circuit.ofOperations ops = .ok d ↔ (∀ answer ∈ answers, answer = .ok ()) ∧ d = c
  /-- If not, the first refusal counts. -/
  refusedAtOnce : ∀ e, Circuit.ofOperations ops = .error e ↔ IsFirstRefusal answers e

/-- **In place or not.** In place a circuit is replaced by the one with the operation, or stays. -/
theorem run_add (op : Operation R) (c : Circuit R) : (add op).run c
    = match c.add op with
      | .ok d => (.ok (), d)
      | .error e => (.error e, c) := by
  unfold add Circuit.add
  cases op.validate with
  | error e => rfl
  | ok =>
    -- the circuit is read for the check, and written only behind it
    change ((MonadExcept.ofExcept (c.checkInputBit op) >>= fun _ =>
      set (⟨c.operations ++ [op]⟩ : Circuit R)) : Building R Unit).run c = _
    cases c.checkInputBit op <;> rfl

theorem fst_run_add_eq_ok_iff : ((add op).run c).1 = .ok () ↔ op.Admissible c.operations := by
  rw [run_add]
  cases hadd : c.add op with
  | ok d => exact iff_of_true rfl (Circuit.add_eq_ok_iff.mp hadd).1
  | error e =>
    refine iff_of_false nofun fun hop => ?_
    rw [Circuit.add_eq_ok_iff.mpr ⟨hop, rfl⟩] at hadd
    cases hadd

theorem fst_run_add_eq_error_iff :
    ((add op).run c).1 = .error e ↔ op.Inadmissible c.operations e := by
  rw [run_add, ← Circuit.add_eq_error_iff]
  cases c.add op with
  | ok d => exact iff_of_false nofun nofun
  | error e' => rw [Except.error.injEq, Except.error.injEq]

theorem run_offer_cons (op : Operation R) (ops : List (Operation R)) (c : Circuit R) :
    (offer (op :: ops)).run c
      = (((add op).run c).1 :: ((offer ops).run ((add op).run c).2).1,
        ((offer ops).run ((add op).run c).2).2) := by
  unfold offer
  rw [List.mapM_cons]
  rfl

theorem accepted_cons (op : Operation R) (ops : List (Operation R))
    (answer : Except CircuitError Unit) (answers : List (Except CircuitError Unit)) :
    accepted (op :: ops) (answer :: answers) = accepted [op] [answer] ++ accepted ops answers := by
  cases answer <;> rfl

/-- **What is refused leaves no trace.** -/
theorem operations_run_add (op : Operation R) (c : Circuit R) :
    ((add op).run c).2.operations = c.operations ++ accepted [op] [((add op).run c).1] := by
  rw [run_add]
  cases hadd : c.add op with
  | error e => exact (List.append_nil _).symm
  | ok d =>
    obtain ⟨-, rfl⟩ := Circuit.add_eq_ok_iff.mp hadd
    rfl

theorem length_answers (ops : List (Operation R)) (c : Circuit R) :
    ((offer ops).run c).1.length = ops.length := by
  induction ops generalizing c with
  | nil => rfl
  | cons op ops ih => rw [run_offer_cons, List.length_cons, List.length_cons, ih]

/-- **The circuit grows by what is accepted.** -/
theorem operations_run_offer (ops : List (Operation R)) (c : Circuit R) :
    ((offer ops).run c).2.operations = c.operations ++ accepted ops ((offer ops).run c).1 := by
  induction ops generalizing c with
  | nil => exact (List.append_nil _).symm
  | cons op ops ih =>
    rw [run_offer_cons, accepted_cons, ih, operations_run_add, List.append_assoc]

/-- **An operation is answered** as the circuit of those accepted before answers it. -/
theorem answer_eq {i : Nat} (hop : ops[i]? = some op)
    (hanswer : ((offer ops).run c).1[i]? = some answer) :
    answer = ((add op).run ⟨c.operations ++ accepted (ops.take i) ((offer ops).run c).1⟩).1 := by
  -- the circuit grows on the way, so the induction is for any circuit to start with
  induction ops generalizing c i with
  | nil => cases hop
  | cons op' ops ih =>
    rw [run_offer_cons] at hanswer ⊢
    cases i with
    | zero =>
      cases hop
      cases hanswer
      exact congrArg (fun before => ((add op).run ⟨before⟩).1) (List.append_nil _).symm
    | succ i =>
      rw [List.take_succ_cons, accepted_cons, ← List.append_assoc, ← operations_run_add]
      exact ih hop hanswer

/-! ### All at once -/

theorem foldlM_add_eq_ok_iff : ops.foldlM Circuit.add c = .ok d ↔
    (∀ answer ∈ ((offer ops).run c).1, answer = .ok ()) ∧ d = ((offer ops).run c).2 := by
  induction ops generalizing c with
  | nil => exact ⟨fun h => ⟨List.forall_mem_nil _, (Except.ok.inj h).symm⟩, fun h => h.2 ▸ rfl⟩
  | cons op ops ih =>
    rw [foldlM_cons_eq_ok_iff, run_offer_cons, run_add]
    cases c.add op with
    | error e => simp
    | ok u => simp [ih]

theorem isFirstRefusal_error {answers : List (Except CircuitError Unit)} {e' : CircuitError} :
    IsFirstRefusal (.error e' :: answers) e ↔ e' = e := by
  constructor
  · rintro ⟨_ | ⟨first, before⟩, after, hsplit, hbefore⟩
    · exact Except.error.inj (List.cons.inj hsplit).1
    · -- an error would have to be among the accepted answers
      obtain ⟨rfl, -⟩ := List.cons.inj hsplit
      cases hbefore _ List.mem_cons_self
  · rintro rfl
    exact ⟨[], answers, rfl, List.forall_mem_nil _⟩

theorem isFirstRefusal_ok {answers : List (Except CircuitError Unit)} :
    IsFirstRefusal (.ok () :: answers) e ↔ IsFirstRefusal answers e := by
  constructor
  · rintro ⟨_ | ⟨first, before⟩, after, hsplit, hbefore⟩
    · cases (List.cons.inj hsplit).1
    · exact ⟨before, after, (List.cons.inj hsplit).2, (List.forall_mem_cons.mp hbefore).2⟩
  · rintro ⟨before, after, rfl, hbefore⟩
    exact ⟨.ok () :: before, after, rfl, List.forall_mem_cons.mpr ⟨rfl, hbefore⟩⟩

theorem foldlM_add_eq_error_iff :
    ops.foldlM Circuit.add c = .error e ↔ IsFirstRefusal ((offer ops).run c).1 e := by
  induction ops generalizing c with
  | nil =>
    refine iff_of_false nofun ?_
    rintro ⟨before, after, hsplit, -⟩
    exact List.append_ne_nil_of_right_ne_nil before (List.cons_ne_nil _ _) hsplit.symm
  | cons op ops ih =>
    rw [List.foldlM_cons, run_offer_cons, run_add]
    cases c.add op with
    | error e' => exact (Except.error.injEq e' e).to_iff.trans isFirstRefusal_error.symm
    | ok d => exact ih.trans isFirstRefusal_ok.symm

/-- **A circuit keeps exactly what it accepts.** Operations that are offered one by one are accepted
or refused for what was accepted before, and the circuit is made of the accepted ones. What is
refused leaves any circuit as it was. -/
theorem offer_keepsAccepted (ops : List (Operation R)) :
    (∃ answers c, (offer ops).run .empty = (answers, c) ∧ KeepsAccepted ops answers c) ∧
      ∀ (c d : Circuit R) op e, (add op).run c = (.error e, d) → d = c := by
  constructor
  · refine ⟨_, _, rfl, length_answers ops .empty, operations_run_offer ops .empty, ?accepts,
      ?refuses, fun d => foldlM_add_eq_ok_iff, fun e => foldlM_add_eq_error_iff⟩
    case accepts =>
      intro i op answer hop hanswer
      rw [answer_eq hop hanswer]
      exact fst_run_add_eq_ok_iff
    case refuses =>
      intro i op answer hop hanswer e
      rw [answer_eq hop hanswer]
      exact fst_run_add_eq_error_iff
  · intro c d op e hrun
    rw [run_add] at hrun
    split at hrun
    · cases hrun
    · cases hrun
      rfl

end Building

end CircuitDispatch
