import CircuitDispatch.Proofs.Unitary.Lift
import CircuitDispatch.Proofs.Unitary.Steps
import CircuitDispatch.Unitary.InPlace

/-!
# Multiplying in place

Multiplying a matrix by a gate in place overwrites the entries that are still to be read, unless
they are overwritten together. The rows that a gate combines have one row in common in which the
qubits of the gate are zero, their home. A visit at this row reads and writes the entries of all
rows of this home, in one column, and no other entry (`Visits`). So visits at different places do not
get in each other's way, and after any list of them every entry that was visited has been made from
what the matrix held at the start (`Visits.entry_foldl`, the invariant of the sweep).

Since every row is visited through its home, a sweep in place gives the matrix of the new entries
(`sweepSingle_eq`, `sweepPair_eq`; the second also where both qubits are the same). That is the
product with the lifted gate, so the gates that `Update` applies multiply by lifted gates, and a gate
on a qubit that the matrix does not have leaves it as it is (`update_multiplies`).
-/

namespace CircuitDispatch.Unitary

variable {α : Type} {n : Nat}

/-! ### Rows of one home -/

namespace Basis

/-- The mask of a qubit singles out its bit. -/
theorem and_mask_eq_zero_iff {q : Fin n} {r : Basis n} :
    r.val &&& mask q = 0 ↔ r.bit q = false := by
  have hpow : r.val &&& mask q = (r.bit q).toNat * 2 ^ (n - 1 - q.val) := Nat.and_two_pow _ _
  rw [hpow, mul_eq_zero, or_iff_left (Nat.two_pow_pos _).ne', Bool.toNat_eq_zero]

theorem lower_eq_self {q : Fin n} {r : Basis n} (h : r.bit q = false) : lower q r = r := by
  refine ext_bit fun p => ?_
  rw [bit_lower]
  split
  case isTrue hp => rw [hp, h]
  case isFalse => rfl

theorem raise_eq_self {q : Fin n} {r : Basis n} (h : r.bit q = true) : raise q r = r := by
  refine ext_bit fun p => ?_
  rw [bit_raise]
  split
  case isTrue hp => rw [hp, h]
  case isFalse => rfl

@[simp] theorem raise_lower (q : Fin n) (r : Basis n) : raise q (lower q r) = raise q r := by
  refine ext_bit fun p => ?_
  rw [bit_raise, bit_raise, bit_lower]
  split <;> rfl

@[simp] theorem lower_raise (q : Fin n) (r : Basis n) : lower q (raise q r) = lower q r := by
  refine ext_bit fun p => ?_
  rw [bit_lower, bit_lower, bit_raise]
  split <;> rfl

@[simp] theorem lower_lower (q : Fin n) (r : Basis n) : lower q (lower q r) = lower q r :=
  lower_eq_self (by simp)

theorem lower_comm (p q : Fin n) (r : Basis n) : lower p (lower q r) = lower q (lower p r) := by
  refine ext_bit fun i => ?_
  simp only [bit_lower]
  split <;> split <;> rfl

/-- Where qubits are lowered anyway, it does not matter that one was raised before. -/
theorem lower_lower_raise (p q : Fin n) (r : Basis n) :
    lower p (lower q (raise p r)) = lower p (lower q r) := by
  rw [lower_comm, lower_raise, lower_comm]

end Basis

namespace Dense

/-! ### Visits -/

@[simp] theorem entry_write (m : Dense α n) (r c r' c' : Basis n) (x : α) :
    (m.write r c x).entry r' c' = if r' = r ∧ c' = c then x else m.entry r' c' := by
  unfold write entry
  simp only [Fin.getElem_fin, Vector.getElem_set, Fin.val_inj, eq_comm (a := r'),
    eq_comm (a := c')]
  by_cases hr : r = r'
  · subst hr
    by_cases hc : c = c'
    · simp [hc]
    · have hval : c.val ≠ c'.val := fun h => hc (Fin.ext h)
      simp [hc, hval]
  · simp [hr]

/-- **Visits.** A visit at a place, a row that is its own home and a column, writes what it should
in the rows of this home, from nothing but what these rows held in the column. -/
structure Visits (visit : Basis n → Basis n → Dense α n → Dense α n) (home : Basis n → Basis n)
    (target : Dense α n → Basis n → Basis n → α) : Prop where
  written : ∀ m r c, (visit (home r) c m).entry r c = target m r c
  /-- Other entries are left as they are. -/
  kept : ∀ m b c r c', home b = b → (home r = b → c' ≠ c) →
    (visit b c m).entry r c' = m.entry r c'
  read : ∀ m m' r c, (∀ s, home s = home r → m.entry s c = m'.entry s c) →
    target m r c = target m' r c

namespace Visits

variable {visit : Basis n → Basis n → Dense α n → Dense α n} {home : Basis n → Basis n}
  {target : Dense α n → Basis n → Basis n → α}

/-- **The invariant of a sweep.** After visits at different places, the entries that were visited are
what they should be made of the matrix at the start, and the others are those of the start. -/
theorem entry_foldl (h : Visits visit home target) {places : List (Basis n × Basis n)}
    (hhome : ∀ p ∈ places, home p.2 = p.2) (hnodup : places.Nodup) (m : Dense α n)
    (r c : Basis n) :
    (places.foldl (fun m p => visit p.2 p.1 m) m).entry r c
      = if (c, home r) ∈ places then target m r c else m.entry r c := by
  -- by induction on the visits to come, for any matrix that they start from
  induction places generalizing m with
  | nil => rfl
  | cons p rest ih =>
    obtain ⟨c₀, b⟩ := p
    obtain ⟨hfresh, hrest⟩ := List.nodup_cons.mp hnodup
    have hb : home b = b := hhome (c₀, b) List.mem_cons_self
    have ih' := ih (fun p hp => hhome p (List.mem_cons_of_mem _ hp)) hrest (visit b c₀ m)
    rw [List.foldl_cons, ih']
    by_cases hhere : (c, home r) = (c₀, b)
    · -- visited now, and not again
      have hlater : (c, home r) ∉ rest := by
        rw [hhere]
        exact hfresh
      rw [if_neg hlater, if_pos (List.mem_cons.mpr (.inl hhere))]
      obtain ⟨rfl, rfl⟩ := Prod.mk.inj hhere
      exact h.written m r c
    · have hkept : ∀ s, home s = home r → (visit b c₀ m).entry s c = m.entry s c := by
        intro s hs
        refine h.kept m b c₀ s c hb fun hsb hc => hhere ?_
        rw [hc, ← hs, hsb]
      by_cases hlater : (c, home r) ∈ rest
      · -- visited later, when nothing of what is read then has changed
        rw [if_pos hlater, if_pos (List.mem_cons_of_mem _ hlater)]
        exact h.read _ _ r c hkept
      · have hnever : (c, home r) ∉ (c₀, b) :: rest := fun hmem =>
          (List.mem_cons.mp hmem).elim hhere hlater
        rw [if_neg hlater, if_neg hnever]
        exact hkept r rfl

/-- **A sweep** through the homes of all rows makes every entry what it should be. -/
theorem entry_sweep (h : Visits visit home target) {visited : Basis n → Bool}
    (hvisited : ∀ b, visited b = true ↔ home b = b) (hhome : ∀ r, home (home r) = home r)
    (m : Dense α n) (r c : Basis n) : (sweep visit visited m).entry r c = target m r c := by
  set rows := (List.finRange (Nat.pow 2 n)).filter visited with hrows
  set places := List.finRange (Nat.pow 2 n) ×ˢ rows with hplaces
  -- the two loops run over the places one by one
  have hsweep : sweep visit visited m = places.foldl (fun m p => visit p.2 p.1 m) m := by
    change _ = (List.product _ rows).foldl _ m
    rw [List.product, List.foldl_flatMap]
    simp only [List.foldl_map]
    rfl
  have hplace : ∀ p ∈ places, home p.2 = p.2 := by
    rintro ⟨c', b⟩ hp
    have hb : b ∈ rows := (List.mem_product.mp hp).2
    exact (hvisited b).mp (List.mem_filter.mp hb).2
  have hnodup : places.Nodup := (List.nodup_finRange _).product ((List.nodup_finRange _).filter _)
  have hmem : (c, home r) ∈ places := by
    have hr : home r ∈ rows :=
      List.mem_filter.mpr ⟨List.mem_finRange _, (hvisited _).mpr (hhome r)⟩
    exact List.mem_product.mpr ⟨List.mem_finRange c, hr⟩
  rw [hsweep, h.entry_foldl hplace hnodup, if_pos hmem]

end Visits

/-- A matrix is its entries. -/
theorem ext_entry {m m' : Dense α n} (h : ∀ r c, m.entry r c = m'.entry r c) : m = m' := by
  obtain ⟨rows⟩ := m
  obtain ⟨rows'⟩ := m'
  refine congrArg Dense.mk (Vector.ext fun i hi => Vector.ext fun j hj => ?_)
  exact h ⟨i, hi⟩ ⟨j, hj⟩

/-! ### One qubit -/

section Single

variable [Add α] [Mul α] {gate : Single α} {q : Fin n}

theorem visits_visitTwo :
    Visits (visitTwo gate q) (Basis.lower q) fun m => (m.applySingle gate q).entry where
  written m r c := by
    unfold visitTwo applySingle
    -- what was written last counts, and that is the row with the qubit raised
    rw [entry_write, entry_write, entry_ofEntries, Basis.raise_lower]
    cases hr : r.bit q with
    | true =>
      have hrow : Basis.raise q r = r := Basis.raise_eq_self hr
      simp [hrow]
    | false =>
      have hrow : Basis.lower q r = r := Basis.lower_eq_self hr
      have hne : r ≠ Basis.raise q r := by
        intro h
        rw [h] at hr
        simp at hr
      simp [hrow, hne]
  kept m b c r c' hb h := by
    -- both rows that are written have the home at which they are
    have hlow : ¬(r = b ∧ c' = c) := by
      rintro ⟨rfl, hc⟩
      exact h hb hc
    have hhigh : ¬(r = Basis.raise q b ∧ c' = c) := by
      rintro ⟨rfl, hc⟩
      exact h (by rw [Basis.lower_raise, hb]) hc
    unfold visitTwo
    rw [entry_write, entry_write, if_neg hhigh, if_neg hlow]
  read m m' r c h := by
    have hlow : m.entry (Basis.lower q r) c = m'.entry (Basis.lower q r) c :=
      h _ (Basis.lower_lower q r)
    have hhigh : m.entry (Basis.raise q r) c = m'.entry (Basis.raise q r) c :=
      h _ (Basis.lower_raise q r)
    simp only [applySingle, entry_ofEntries, hlow, hhigh]

/-- **In place, one qubit**: the sweep gives the matrix of the new entries. -/
theorem sweepSingle_eq (m : Dense α n) : sweepSingle gate q m = m.applySingle gate q := by
  refine ext_entry fun r c => visits_visitTwo.entry_sweep (fun b => ?_) (Basis.lower_lower q) m r c
  rw [beq_iff_eq, Basis.and_mask_eq_zero_iff]
  refine ⟨Basis.lower_eq_self, fun h => ?_⟩
  rw [← h]
  simp

end Single

/-! ### Two qubits -/

section Pair

/-- The home of a row, when two qubits are combined. -/
def pairHome (first second : Fin n) (r : Basis n) : Basis n :=
  Basis.lower first (Basis.lower second r)

section Home

variable {first second : Fin n} {r b : Basis n}

theorem bit_pairHome (p : Fin n) : (pairHome first second r).bit p
    = if p = first then false else if p = second then false else r.bit p := by
  rw [pairHome, Basis.bit_lower, Basis.bit_lower]

theorem pairHome_raise_second : pairHome first second (Basis.raise second r)
    = pairHome first second r := by
  rw [pairHome, pairHome, Basis.lower_raise]

theorem pairHome_raise_first : pairHome first second (Basis.raise first r)
    = pairHome first second r :=
  Basis.lower_lower_raise first second r

theorem pairHome_pairHome : pairHome first second (pairHome first second r)
    = pairHome first second r := by
  refine Basis.ext_bit fun p => ?_
  rw [bit_pairHome, bit_pairHome]
  split
  case isTrue => rfl
  case isFalse => split <;> rfl

theorem pairHome_eq_self_iff :
    pairHome first second b = b ↔ b.bit first = false ∧ b.bit second = false := by
  constructor
  · intro h
    rw [← h, bit_pairHome, bit_pairHome]
    simp
  · rintro ⟨hfirst, hsecond⟩
    rw [pairHome, Basis.lower_eq_self hsecond, Basis.lower_eq_self hfirst]

/-- Rows of one home are told apart by the bits of the two qubits. -/
theorem eq_of_pairHome_eq {s : Basis n} (hhome : pairHome first second r = pairHome first second s)
    (hfirst : r.bit first = s.bit first) (hsecond : r.bit second = s.bit second) : r = s := by
  refine Basis.ext_bit fun p => ?_
  by_cases hpf : p = first
  · rw [hpf, hfirst]
  by_cases hps : p = second
  · rw [hps, hsecond]
  -- the other bits are those of the home
  have hbit := congrArg (fun b : Basis n => b.bit p) hhome
  simpa only [bit_pairHome, if_neg hpf, if_neg hps] using hbit

end Home

variable [Add α] [Mul α] {zero : α} {gate : Pair α} {first second : Fin n}

/-- The entries of four rows in a column, combined as in one row of a gate. -/
def combined (zero : α) (gate : Pair α) (first second : Fin n) (i : Bool × Bool) (m : Dense α n)
    (b c : Basis n) : α :=
  zero + gate.entry i (false, false) * m.entry b c
    + gate.entry i (false, true) * m.entry (Basis.raise second b) c
    + gate.entry i (true, false) * m.entry (Basis.raise first b) c
    + gate.entry i (true, true) * m.entry (Basis.raise second (Basis.raise first b)) c

theorem entry_applyPair (m : Dense α n) {r : Basis n} (c : Basis n) {i j : Bool}
    (hi : r.bit first = i) (hj : r.bit second = j) :
    (m.applyPair zero gate first second).entry r c
      = combined zero gate first second (i, j) m (pairHome first second r) c := by
  subst hi hj
  unfold applyPair
  rw [entry_ofEntries]
  rfl

theorem visitFour_eq (m : Dense α n) (b c : Basis n) :
    visitFour zero gate first second b c m
      = (((m.write b c (combined zero gate first second (false, false) m b c)).write
          (Basis.raise second b) c (combined zero gate first second (false, true) m b c)).write
          (Basis.raise first b) c (combined zero gate first second (true, false) m b c)).write
          (Basis.raise second (Basis.raise first b)) c
          (combined zero gate first second (true, true) m b c) := by
  have hfour : List.finRange 4 = [0, 1, 2, 3] := rfl
  unfold visitFour
  simp only [hfour, List.foldl_cons, List.foldl_nil, Fin.getElem_fin, Vector.getElem_map]
  rfl

/-- One visit writes the entries of a home as they should be, also where both qubits are the same
and rows coincide, since the row with both qubits raised is written last. -/
private theorem entry_visitFour_pairHome (m : Dense α n) (r c : Basis n) :
    (visitFour zero gate first second (pairHome first second r) c m).entry r c
      = (m.applyPair zero gate first second).entry r c := by
  set b := pairHome first second r with hb
  have hbits : b.bit first = false ∧ b.bit second = false :=
    pairHome_eq_self_iff.mp pairHome_pairHome
  have hhome : pairHome first second r = pairHome first second b := pairHome_pairHome.symm
  -- a raised row has the bits that were raised
  have hone : r.bit second = false → r ≠ Basis.raise second b := by
    intro h hr
    rw [hr] at h
    simp at h
  have htwo : r.bit first = false → r ≠ Basis.raise first b := by
    intro h hr
    rw [hr] at h
    simp at h
  have hthree : r.bit first = false ∨ r.bit second = false →
      r ≠ Basis.raise second (Basis.raise first b) := by
    intro h hr
    rw [hr] at h
    simp at h
  rw [visitFour_eq, entry_write, entry_write, entry_write, entry_write]
  simp only [and_true]
  -- the bits of the two qubits say which row of its home it is
  cases hf : r.bit first <;> cases hs : r.bit second
  case false.false =>
    have hrow : r = b := eq_of_pairHome_eq hhome (hf.trans hbits.1.symm) (hs.trans hbits.2.symm)
    rw [if_neg (hthree (.inl hf)), if_neg (htwo hf), if_neg (hone hs), if_pos hrow,
      entry_applyPair m c hf hs]
  case false.true =>
    have hne : first ≠ second := by
      rintro rfl
      simp [hf] at hs
    have hrow : r = Basis.raise second b := by
      refine eq_of_pairHome_eq (hhome.trans pairHome_raise_second.symm) ?_ ?_
      · rw [Basis.bit_raise, if_neg hne, hf, hbits.1]
      · rw [Basis.bit_raise, if_pos rfl, hs]
    rw [if_neg (hthree (.inl hf)), if_neg (htwo hf), if_pos hrow, entry_applyPair m c hf hs]
  case true.false =>
    have hne : second ≠ first := by
      rintro rfl
      simp [hf] at hs
    have hrow : r = Basis.raise first b := by
      refine eq_of_pairHome_eq (hhome.trans pairHome_raise_first.symm) ?_ ?_
      · rw [Basis.bit_raise, if_pos rfl, hf]
      · rw [Basis.bit_raise, if_neg hne, hs, hbits.2]
    rw [if_neg (hthree (.inr hs)), if_pos hrow, entry_applyPair m c hf hs]
  case true.true =>
    have hraised : pairHome first second r
        = pairHome first second (Basis.raise second (Basis.raise first b)) := by
      rw [pairHome_raise_second, pairHome_raise_first, hhome]
    have hrow : r = Basis.raise second (Basis.raise first b) :=
      eq_of_pairHome_eq hraised (by simp [hf]) (by simp [hs])
    rw [if_pos hrow, entry_applyPair m c hf hs]

theorem visits_visitFour :
    Visits (visitFour zero gate first second) (pairHome first second)
      fun m => (m.applyPair zero gate first second).entry where
  written := entry_visitFour_pairHome
  kept m b c r c' hb h := by
    -- each of the four rows that are written has the home at which they are
    have hother : ∀ s, pairHome first second s = b → ¬(r = s ∧ c' = c) := by
      rintro s hs ⟨rfl, hc⟩
      exact h hs hc
    have hzero := hother b hb
    have hone := hother (Basis.raise second b) (by rw [pairHome_raise_second, hb])
    have htwo := hother (Basis.raise first b) (by rw [pairHome_raise_first, hb])
    have hthree := hother (Basis.raise second (Basis.raise first b))
      (by rw [pairHome_raise_second, pairHome_raise_first, hb])
    rw [visitFour_eq, entry_write, entry_write, entry_write, entry_write, if_neg hthree,
      if_neg htwo, if_neg hone, if_neg hzero]
  read m m' r c h := by
    have hzero := h (pairHome first second r) pairHome_pairHome
    have hone := h (Basis.raise second (pairHome first second r))
      (by rw [pairHome_raise_second, pairHome_pairHome])
    have htwo := h (Basis.raise first (pairHome first second r))
      (by rw [pairHome_raise_first, pairHome_pairHome])
    have hthree := h (Basis.raise second (Basis.raise first (pairHome first second r)))
      (by rw [pairHome_raise_second, pairHome_raise_first, pairHome_pairHome])
    rw [entry_applyPair m c rfl rfl, entry_applyPair m' c rfl rfl, combined, combined, hzero, hone,
      htwo, hthree]

/-- **In place, two qubits**: the sweep gives the matrix of the new entries. -/
theorem sweepPair_eq (m : Dense α n) :
    sweepPair zero gate first second m = m.applyPair zero gate first second := by
  refine ext_entry fun r c =>
    visits_visitFour.entry_sweep (fun b => ?_) (fun _ => pairHome_pairHome) m r c
  rw [beq_iff_eq, Nat.and_or_distrib_left, Nat.or_eq_zero_iff, Basis.and_mask_eq_zero_iff,
    Basis.and_mask_eq_zero_iff, pairHome_eq_self_iff]

end Pair

end Dense

/-! ### Updates -/

namespace Update

section Run

variable [Add α] [Mul α] (m : Dense α n)

theorem run_single (gate : Single α) (q : Fin n) :
    (single gate q.val : Update α n).run.run m = (.ok (), m.applySingle gate q) := by
  have hq : qubit n q.val = .ok q := qubit_eq_ok_iff.mpr ⟨q.isLt, rfl⟩
  unfold single
  rw [hq, ← Dense.sweepSingle_eq]
  rfl

/-- A qubit beyond the matrix is refused before anything is overwritten. -/
theorem run_single_of_le (gate : Single α) {q : Nat} (h : n ≤ q) :
    (single gate q : Update α n).run.run m = (.error (.qubitOutOfRange q n), m) := by
  have hq : qubit n q = .error (.qubitOutOfRange q n) := dif_neg h.not_gt
  unfold single
  rw [hq]
  rfl

variable (zero : α)

theorem run_pair (gate : Pair α) (first second : Fin n) :
    (pair zero gate first.val second.val : Update α n).run.run m
      = (.ok (), m.applyPair zero gate first second) := by
  have hfirst : qubit n first.val = .ok first := qubit_eq_ok_iff.mpr ⟨first.isLt, rfl⟩
  have hsecond : qubit n second.val = .ok second := qubit_eq_ok_iff.mpr ⟨second.isLt, rfl⟩
  unfold pair
  rw [hfirst, hsecond, ← Dense.sweepPair_eq]
  rfl

/-- A pair is refused for the first of its qubits that is beyond the matrix. -/
theorem run_pair_of_le (gate : Pair α) {first second : Nat} (h : n ≤ first ∨ n ≤ second) :
    (pair zero gate first second : Update α n).run.run m
      = (.error (.qubitOutOfRange (if n ≤ first then first else second) n), m) := by
  unfold pair
  by_cases hf : n ≤ first
  · have hfirst : qubit n first = .error (.qubitOutOfRange first n) := dif_neg hf.not_gt
    rw [hfirst, if_pos hf]
    rfl
  · have hs : n ≤ second := h.resolve_left hf
    have hfirst : qubit n first = .ok ⟨first, by omega⟩ := dif_pos _
    have hsecond : qubit n second = .error (.qubitOutOfRange second n) := dif_neg hs.not_gt
    rw [hfirst, hsecond, if_neg hf]
    rfl

end Run

section Amplitudes

variable {R : Type} [Trigonometric R] (m : Matrix R n)

/-- In place, a gate leaves the matrix that it makes otherwise, and is refused where it is refused
otherwise. -/
theorem run_single_eq (gate : Single (Amplitude R)) (q : Nat) :
    (single gate q : Update (Amplitude R) n).run.run m =
      match m.single gate q with
      | .ok m' => (.ok (), m')
      | .error e => (.error e, m) := by
  by_cases hq : q < n
  · rw [m.single_eq_ok_iff.mpr ⟨hq, rfl⟩]
    exact run_single m gate ⟨q, hq⟩
  · have hrefused : m.single gate q = .error (.qubitOutOfRange q n) := by
      rw [Matrix.single, qubit, dif_neg hq]
      rfl
    rw [hrefused]
    exact run_single_of_le m gate (not_lt.mp hq)

theorem run_pair_eq (gate : Pair (Amplitude R)) (first second : Nat) :
    (pair Amplitude.zero gate first second : Update (Amplitude R) n).run.run m =
      match m.pair gate first second with
      | .ok m' => (.ok (), m')
      | .error e => (.error e, m) := by
  by_cases hf : first < n
  · by_cases hs : second < n
    · rw [m.pair_eq_ok_iff.mpr ⟨hf, hs, rfl⟩]
      exact run_pair m _ gate ⟨first, hf⟩ ⟨second, hs⟩
    · have hrefused : m.pair gate first second = .error (.qubitOutOfRange second n) := by
        rw [Matrix.pair, qubit, dif_pos hf, qubit, dif_neg hs]
        rfl
      rw [hrefused, run_pair_of_le m _ gate (.inr (not_lt.mp hs)), if_neg hf.not_ge]
  · have hrefused : m.pair gate first second = .error (.qubitOutOfRange first n) := by
      rw [Matrix.pair, qubit, dif_neg hf]
      rfl
    rw [hrefused, run_pair_of_le m _ gate (.inl (not_lt.mp hf)), if_pos (not_lt.mp hf)]

end Amplitudes

/-- **Gates multiply by lifted gates.** Over any commutative ring, a gate that is applied in place
leaves the product of the lifted gate and the matrix, which is the matrix of the new entries. If a
qubit is beyond the matrix, the gate is refused and the matrix stays as it is. -/
theorem update_multiplies [CommRing α] (m : Dense α n) :
    (∀ (gate : Single α) (q : Fin n),
      (single gate q.val : Update α n).run.run m = (.ok (), m.applySingle gate q) ∧
        (m.applySingle gate q).toOperator = gate.lift q * m.toOperator) ∧
    (∀ (gate : Pair α) (first second : Fin n), first ≠ second →
      (pair 0 gate first.val second.val : Update α n).run.run m
          = (.ok (), m.applyPair 0 gate first second) ∧
        (m.applyPair 0 gate first second).toOperator = gate.lift first second * m.toOperator) ∧
    (∀ (gate : Single α) (q : Nat), n ≤ q →
      (single gate q : Update α n).run.run m = (.error (.qubitOutOfRange q n), m)) ∧
    (∀ (gate : Pair α) (first second : Nat), n ≤ first ∨ n ≤ second →
      (pair 0 gate first second : Update α n).run.run m
        = (.error (.qubitOutOfRange (if n ≤ first then first else second) n), m)) := by
  refine ⟨fun gate q => ⟨run_single m gate q, ?_⟩, fun gate first second hne =>
    ⟨run_pair m 0 gate first second, ?_⟩, fun gate q h => run_single_of_le m gate h,
    fun gate first second h => run_pair_of_le m 0 gate h⟩
  · exact m.toOperator_applySingle gate q
  · exact m.toOperator_applyPair gate hne

/-- A controlled flip whose control is the less significant qubit: from the second basis state to
the last one. A third qubit is refused. -/
theorem update_multiplies_reversed :
    let gate : Pair ℤ := .ofRows #v[1, 0, 0, 0] #v[0, 1, 0, 0] #v[0, 0, 0, 1] #v[0, 0, 1, 0]
    let m : Dense ℤ 2 := .ofEntries fun r c => if r = c then 1 else 0
    (1 : Fin 2) ≠ 0 ∧ (m.applyPair 0 gate 1 0).entry 3 1 = 1 ∧
      (pair 0 gate 1 0 : Update ℤ 2).run.run m = (.ok (), m.applyPair 0 gate 1 0) ∧
      (m.applyPair 0 gate 1 0).toOperator = gate.lift 1 0 * m.toOperator ∧
      (pair 0 gate 0 2 : Update ℤ 2).run.run m = (.error (.qubitOutOfRange 2 2), m) := by
  intro gate m
  have hne : (1 : Fin 2) ≠ 0 := by decide
  obtain ⟨-, hpair, -, hrefused⟩ := update_multiplies m
  exact ⟨hne, rfl, (hpair gate 1 0 hne).1, (hpair gate 1 0 hne).2, hrefused gate 0 2 (.inr le_rfl)⟩

end Update

end CircuitDispatch.Unitary
