import CircuitDispatch.Proofs.Native.Azimuths

/-!
# The ledger as a fold for every qubit

What is pending on a qubit is the fold of the rotations of this qubit alone, in their order
(`Angle.total`). A ledger stores this fold for every qubit, however rotations of other qubits and
readings stand in between (`PhaseLedger.Stores.uses`), and it decides what the ledger answers:
what is pending, what an azimuth is shifted by and what is left over (`PhaseLedger.Folds`).

Lowering goes through a circuit with one ledger, but its instructions can be told without. Each is
made of one operation, and its azimuths stand behind the rotations that come before this operation
on their own qubits (`Family.instructions_eq`). `ledger_foldsRotations` puts this together.
-/

namespace CircuitDispatch

variable {R : Type}

/-! ### Rotations of one qubit -/

namespace Angle

variable [Scalar R]

/-- Rotations in a row as one: each is added to the sum so far, which is simplified. -/
def total (angles : List (Angle R)) : Angle R :=
  angles.foldl (fun sum theta => (Angle.add sum theta).simplify) zero

theorem total_concat (angles : List (Angle R)) (theta : Angle R) :
    total (angles ++ [theta]) = (Angle.add (total angles) theta).simplify :=
  List.foldl_concat _ _ _ _

/-- An azimuth behind rotations in a row: as it was if there are none, and otherwise lessened by
all of them. -/
def behind (azimuth : Angle R) (angles : List (Angle R)) : Angle R :=
  if angles.isEmpty then azimuth else (Angle.sub azimuth (total angles)).simplify

end Angle

namespace PhaseLedger

variable [Scalar R] {ledger : PhaseLedger R} {angles : List (Angle R)} {p q : Nat}

/-- The answers of a ledger in which angles were recorded for a qubit, in this order. -/
structure Folds (ledger : PhaseLedger R) (q : Nat) (angles : List (Angle R)) : Prop where
  /-- What is pending is their fold. -/
  phase_eq : ledger.phase q = Angle.total angles
  /-- An azimuth is shifted by what is pending, unless nothing was ever recorded. -/
  shifted_eq : ∀ azimuth, ledger.shifted q azimuth
    = if angles.isEmpty then azimuth else (Angle.sub azimuth (ledger.phase q)).simplify
  /-- What is pending is left over unless it is zero. -/
  residuals_eq : ledger.residuals.get? q
    = if (ledger.phase q).isZero then none else some (ledger.phase q)

/-- What stands in a ledger for a qubit for which angles were recorded. -/
def Stores (ledger : PhaseLedger R) (q : Nat) (angles : List (Angle R)) : Prop :=
  ledger.phases.get? q = if angles.isEmpty then none else some (Angle.total angles)

theorem stores_empty (q : Nat) : (empty : PhaseLedger R).Stores q [] := rfl

namespace Stores

theorem phase_eq (h : ledger.Stores q angles) : ledger.phase q = Angle.total angles := by
  unfold phase
  rw [h]
  cases angles with
  | nil => rfl
  | cons => rfl

theorem shifted_eq (h : ledger.Stores q angles) (azimuth : Angle R) :
    ledger.shifted q azimuth = azimuth.behind angles := by
  unfold shifted
  rw [h]
  cases angles with
  | nil => rfl
  | cons => rfl

/-- **What stands in a ledger decides its answers.** Nothing pending has to count as zero, since a
qubit without an entry leaves nothing over. -/
theorem folds (hzero : (Angle.zero : Angle R).isZero = true) (h : ledger.Stores q angles) :
    ledger.Folds q angles where
  phase_eq := h.phase_eq
  shifted_eq azimuth := by rw [h.shifted_eq, h.phase_eq, Angle.behind]
  residuals_eq := by
    unfold residuals
    rw [SortedMap.get?_filter, h, h.phase_eq]
    cases angles with
    | nil => exact (if_pos hzero).symm
    | cons theta rest =>
      cases hisZero : (Angle.total (theta :: rest)).isZero <;> simp [hisZero]

/-- **Recording a rotation** goes on with the fold of its qubit and keeps those of the others. -/
theorem accumulate (h : ledger.Stores q angles) (p : Nat) (theta : Angle R) :
    (ledger.accumulate p theta).Stores q (angles ++ if p = q then [theta] else []) := by
  by_cases hpq : p = q
  · subst hpq
    have hne : (angles ++ [theta]).isEmpty = false := by simp
    unfold Stores
    rw [if_pos rfl, get?_accumulate_self, h.phase_eq, hne, Angle.total_concat]
    rfl
  · unfold Stores
    rw [if_neg hpq, List.append_nil, get?_accumulate_of_ne (Ne.symm hpq)]
    exact h

end Stores

/-! ### Rotations and readings in any order -/

/-- What a ledger is used for: to record a rotation, or to read an azimuth. -/
inductive Use (R : Type) where
  | record (qubit : Nat) (theta : Angle R)
  | read (qubit : Nat) (azimuth : Angle R)

/-- The ledger after a use; reading changes nothing in it. -/
def use (ledger : PhaseLedger R) : Use R → PhaseLedger R
  | .record q theta => ledger.accumulate q theta
  | .read _ _ => ledger

omit [Scalar R] in
/-- The rotation of a qubit that is recorded. -/
def Use.rotationOf? (q : Nat) : Use R → Option (Angle R)
  | .record p theta => if p = q then some theta else none
  | .read _ _ => none

/-- **A ledger stores a fold for every qubit.** -/
theorem Stores.uses (h : ledger.Stores q angles) (uses : List (Use R)) :
    (uses.foldl use ledger).Stores q (angles ++ uses.filterMap (Use.rotationOf? q)) := by
  induction uses generalizing ledger angles with
  | nil => simpa using h
  | cons u rest ih =>
    rw [List.foldl_cons]
    -- a reading leaves ledger and angles as they are
    cases u with
    | read p azimuth => exact ih h
    | record p theta =>
      have hrest := ih (h.accumulate p theta)
      by_cases hpq : p = q <;> simpa [use, Use.rotationOf?, hpq] using hrest

end PhaseLedger

/-! ### Instructions, position by position -/

namespace Operation

/-- The rotation about Z that an operation asks for on a qubit. -/
def rotationOf? (q : Nat) : Operation R → Option (Angle R)
  | .single (.rotateZ theta) p => if p = q then some theta else none
  | _ => none

variable [Scalar R]

/-- The instruction for a gate of a family that has no Z rotation of its own, where `shift` tells
what becomes of an azimuth on a qubit. -/
def instruction? (shift : Nat → Angle R → Angle R) : Operation R → Option (Instruction R)
  | .single (.gpi phi) q => some ⟨.gpi (shift q phi), [q]⟩
  | .single (.gpi2 phi) q => some ⟨.gpi2 (shift q phi), [q]⟩
  | .single (.rotateXY theta phi) q => some ⟨.prx theta (shift q phi), [q]⟩
  | .pair .molmerSorensenXX p q =>
    some ⟨.ms (shift p Angle.zero) (shift q Angle.zero) Angle.quarterTurn, [p, q]⟩
  | .pair (.variableMSXX theta) p q =>
    some ⟨.ms (shift p Angle.zero) (shift q Angle.zero) theta, [p, q]⟩
  | .pair .controlledPauliZ p q => some ⟨.cz, [p, q]⟩
  | _ => none

/-- What becomes of an azimuth on a qubit behind some operations. -/
def shiftBehind (before : List (Operation R)) (q : Nat) (azimuth : Angle R) : Angle R :=
  azimuth.behind (before.filterMap (rotationOf? q))

end Operation

namespace Family

variable [Scalar R] {family : Family} {ledger final : PhaseLedger R}
  {ops : List (Operation R)} {op : Operation R} {lowered : Lowered R}
  {instructions : List (Instruction R)}

/-- **One operation leaves its instruction**, shifted by the ledger as it is then. -/
theorem instructions_of_lowerOperation? (hfolds : family.foldsPhases = true)
    (h : family.lowerOperation? ledger op = some lowered) :
    lowered.instructions = (op.instruction? ledger.shifted).toList := by
  cases op with
  | single gate q =>
    change family.lowerSingle? ledger gate q = some lowered at h
    unfold lowerSingle? at h
    split at h
    -- the gates of ionq and iqm, then those of the families that fold nothing
    case h_1 | h_2 | h_3 | h_11 | h_12 =>
      cases h
      rfl
    case h_4 | h_5 | h_6 | h_7 | h_8 | h_9 | h_10 => cases hfolds
    case h_13 => cases h
  | pair gate control target =>
    change family.lowerPair? ledger gate control target = some lowered at h
    unfold lowerPair? at h
    split at h
    case h_1 | h_2 | h_7 =>
      cases h
      rfl
    case h_3 | h_4 | h_5 | h_6 => cases hfolds
    case h_8 => cases h
  | globalPhase phase =>
    simp only [lowerOperation?] at h
    split at h
    · cases h
      rfl
    · cases h
  | define | inputBit | measure | setShots | repeatMeasurement =>
    cases h
    rfl

/-- **One operation records its rotation.** -/
theorem stores_advance (hfolds : family.foldsPhases = true)
    (h : family.lowerOperation? ledger op = some lowered) {q : Nat} {angles : List (Angle R)}
    (hledger : ledger.Stores q angles) :
    (lowered.advance ledger).Stores q (angles ++ (op.rotationOf? q).toList) := by
  -- every rotation is folded, and nothing else is
  have hnone : (∀ p theta, lowered ≠ .fold p theta) → op.rotationOf? q = none := by
    intro hfold
    unfold Operation.rotationOf?
    split
    · rw [lowerOperation?_rotateZ hfolds] at h
      cases h
      exact absurd rfl (hfold _ _)
    · rfl
  cases lowered with
  | fold p theta =>
    obtain ⟨-, rfl⟩ := lowerOperation?_fold h
    have hrotation : ((Operation.single (.rotateZ theta) p).rotationOf? q).toList
        = if p = q then [theta] else [] := by
      by_cases hpq : p = q <;> simp [Operation.rotationOf?, hpq]
    rw [hrotation]
    exact hledger.accumulate p theta
  | emit | skip =>
    rw [hnone nofun, Option.toList_none, List.append_nil]
    exact hledger

/-- **Instructions are made position by position**, each behind the operations before its own. -/
theorem instructions_eq (before : List (Operation R)) (hfolds : family.foldsPhases = true)
    (hledger : ∀ q, ledger.Stores q (before.filterMap (Operation.rotationOf? q)))
    (h : family.lowerOperations ledger ops = .ok (instructions, final)) :
    instructions = (ops.zipIdx before.length).filterMap fun e =>
      e.1.instruction? (Operation.shiftBehind ((before ++ ops).take e.2)) := by
  -- the operations read so far grow by one with every step
  induction ops generalizing before ledger instructions with
  | nil =>
    cases h
    rfl
  | cons op rest ih =>
    obtain ⟨lowered, tail, hop, htail, rfl⟩ := lowerOperations_cons_eq_ok_iff.mp h
    have hshift : ledger.shifted = Operation.shiftBehind before := by
      funext q azimuth
      exact (hledger q).shifted_eq azimuth
    have hnext : ∀ q, (lowered.advance ledger).Stores q
        ((before ++ [op]).filterMap (Operation.rotationOf? q)) := by
      intro q
      have hlast : [op].filterMap (Operation.rotationOf? q) = (op.rotationOf? q).toList := by
        cases hop : op.rotationOf? q <;> simp [hop]
      rw [List.filterMap_append, hlast]
      exact stores_advance hfolds hop (hledger q)
    have hrest := ih (before ++ [op]) hnext htail
    rw [List.append_assoc, List.singleton_append, List.length_append, List.length_singleton]
      at hrest
    rw [instructions_of_lowerOperation? hfolds hop, hshift, hrest, List.zipIdx_cons,
      List.filterMap_cons]
    simp only [List.take_left]
    cases op.instruction? (Operation.shiftBehind before) <;> rfl

end Family

/-- **The ledger is a fold for every qubit.** What is pending on a qubit, what an azimuth on it is
shifted by and what is left over come from the rotations that were recorded for this qubit, in their
order, whatever else is recorded or read in between. So the instructions of ionq and iqm are made
operation by operation, each shifted by the rotations before it on its own qubits. -/
theorem ledger_foldsRotations :
    (∀ (uses : List (PhaseLedger.Use Float)) (q : Nat),
      (uses.foldl PhaseLedger.use .empty).Folds q
        (uses.filterMap (PhaseLedger.Use.rotationOf? q))) ∧
    ∀ (family : Family) (c : Circuit Float) (block : NativeBlock Float),
      family = .ionq ∨ family = .iqm → family.lower c = .ok block →
      block.instructions = c.operations.zipIdx.filterMap fun e =>
        e.1.instruction? (Operation.shiftBehind (c.operations.take e.2)) := by
  constructor
  · intro uses q
    have hzero : (Angle.zero : Angle Float).isZero = true := rfl
    exact ((PhaseLedger.stores_empty q).uses uses).folds hzero
  · intro family c block hfamily h
    have hfolds : family.foldsPhases = true := by rcases hfamily with rfl | rfl <;> rfl
    obtain ⟨instructions, final, -, hops, -, rfl⟩ := Family.lower_eq_ok_iff.mp h
    exact Family.instructions_eq [] hfolds PhaseLedger.stores_empty hops

/-- Two ions that interact. The first is rotated before its gate and once more behind it. -/
def rotatedTwice : Circuit Float :=
  ⟨[.single (.rotateZ (.symbol "alpha")) 0, .single (.rotateZ (.symbol "beta")) 1,
    .single (.gpi (.symbol "phi")) 0, .single (.rotateZ (.symbol "gamma")) 0,
    .pair (.variableMSXX (.symbol "theta")) 0 1, .single (.gpi2 (.symbol "chi")) 1]⟩

/-- The gate is shifted by the first rotation, the interaction by both, and neither takes anything
away. -/
theorem ledger_foldsRotations_rotatedTwice :
    let uses : List (PhaseLedger.Use Float) := [.record 0 (.symbol "alpha"),
      .record 1 (.symbol "beta"), .read 0 (.symbol "phi"), .record 0 (.symbol "gamma")]
    let ledger := uses.foldl PhaseLedger.use .empty
    ledger.phase 0 = .add (.symbol "alpha") (.symbol "gamma") ∧
      ledger.residuals.get? 0 = some (.add (.symbol "alpha") (.symbol "gamma")) ∧
      ledger.residuals.get? 2 = none ∧
      ∃ block, Family.ionq.lower rotatedTwice = .ok block ∧
        block.instructions = [⟨.gpi (.sub (.symbol "phi") (.symbol "alpha")), [0]⟩,
          ⟨.ms (.neg (.add (.symbol "alpha") (.symbol "gamma"))) (.neg (.symbol "beta"))
            (.symbol "theta"), [0, 1]⟩,
          ⟨.gpi2 (.sub (.symbol "chi") (.symbol "beta")), [1]⟩] := by
  intro uses ledger
  obtain ⟨hledger, hlower⟩ := ledger_foldsRotations
  obtain ⟨block, hblock⟩ : ∃ block, Family.ionq.lower rotatedTwice = .ok block := ⟨_, rfl⟩
  have hinstructions := hlower .ionq rotatedTwice block (.inl rfl) hblock
  refine ⟨(hledger uses 0).phase_eq.trans rfl, ?_, ?_, block, hblock, hinstructions.trans rfl⟩
  · exact (hledger uses 0).residuals_eq.trans rfl
  · exact (hledger uses 2).residuals_eq.trans rfl

end CircuitDispatch
