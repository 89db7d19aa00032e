import CircuitDispatch.Proofs.Native.Azimuths
import CircuitDispatch.Proofs.Native.Language

/-!
# Operations on different qubits are independent

Two operations that share no qubit neither look at what the other changes in the ledger nor change
the same entry of it (`Family.advance_comm`). So they can be exchanged wherever they stand next to
each other, and what comes before and after them does not notice
(`Family.lowerOperations_exchange`). `lower_exchange` says it of a whole circuit, and that a
rotation recorded anywhere shifts azimuths on its own qubit only.
-/

namespace CircuitDispatch

variable {R : Type}

namespace Family

variable [Scalar R] {family : Family} {ledger final : PhaseLedger R} {a b : Operation R}
  {rest : List (Operation R)} {instructions : List (Instruction R)}

/-- **Operations on different qubits** change the ledger in either order. -/
theorem advance_comm {ledger' : PhaseLedger R} {fromA fromB : Lowered R}
    (ha : family.lowerOperation? ledger a = some fromA)
    (hb : family.lowerOperation? ledger' b = some fromB) (hdisjoint : a.qubits.Disjoint b.qubits)
    (start : PhaseLedger R) :
    fromB.advance (fromA.advance start) = fromA.advance (fromB.advance start) := by
  cases fromA with
  | emit | skip => rfl
  | fold p theta =>
    cases fromB with
    | emit | skip => rfl
    | fold q theta' =>
      obtain ⟨-, rfl⟩ := lowerOperation?_fold ha
      obtain ⟨-, rfl⟩ := lowerOperation?_fold hb
      have hne : p ≠ q := by
        rintro rfl
        exact hdisjoint (List.mem_singleton_self p) (List.mem_singleton_self p)
      exact PhaseLedger.accumulate_comm hne theta theta'

/-- **Operations on different qubits may be exchanged.** -/
theorem lowerOperations_exchange (hdisjoint : a.qubits.Disjoint b.qubits)
    (h : family.lowerOperations ledger (a :: b :: rest) = .ok (instructions, final)) :
    ∃ fromA fromB later, family.lowerOperation? ledger a = some fromA ∧
      family.lowerOperation? ledger b = some fromB ∧
      instructions = fromA.instructions ++ (fromB.instructions ++ later) ∧
      family.lowerOperations ledger (b :: a :: rest)
        = .ok (fromB.instructions ++ (fromA.instructions ++ later), final) := by
  obtain ⟨fromA, tail, ha, htail, rfl⟩ := lowerOperations_cons_eq_ok_iff.mp h
  obtain ⟨fromB, later, hb, hlater, rfl⟩ := lowerOperations_cons_eq_ok_iff.mp htail
  -- neither looks at what the other one changes
  have hb' : family.lowerOperation? ledger b = some fromB := by
    rw [← hb]
    exact lowerOperation?_congr fun q hq =>
      (get?_advance_of_notMem ha fun hqa => hdisjoint hqa hq).symm
  have ha' : family.lowerOperation? (fromB.advance ledger) a = some fromA := by
    rw [← ha]
    exact lowerOperation?_congr fun q hq => get?_advance_of_notMem hb' fun hqb => hdisjoint hq hqb
  rw [advance_comm ha hb' hdisjoint] at hlater
  have hrest := lowerOperations_cons_eq_ok_iff.mpr ⟨fromA, later, ha', hlater, rfl⟩
  exact ⟨fromA, fromB, later, ha, hb', rfl,
    lowerOperations_cons_eq_ok_iff.mpr ⟨fromB, _, hb', hrest, rfl⟩⟩

variable {c : Circuit R} {block : NativeBlock R}

/-- **Independent operations may be exchanged.** Their instructions are exchanged, each as it was,
and all else stays. A rotation that is recorded anywhere changes azimuths on its qubit only. -/
theorem lower_exchange (h : family.lower c = .ok block) :
    (∀ before a b after, c.operations = before ++ a :: b :: after → a.qubits.Disjoint b.qubits →
      ∃ earlier ledger fromA fromB later,
        family.lowerOperations .empty before = .ok (earlier, ledger) ∧
        family.lowerOperation? ledger a = some fromA ∧
        family.lowerOperation? ledger b = some fromB ∧
        block.instructions = earlier ++ (fromA.instructions ++ (fromB.instructions ++ later)) ∧
        family.lower ⟨before ++ b :: a :: after⟩ = .ok { block with
          instructions := earlier ++ (fromB.instructions ++ (fromA.instructions ++ later)) }) ∧
    (family.foldsPhases = true → ∀ before after p theta, c.operations = before ++ after →
      ∃ block', family.lower ⟨before ++ .single (.rotateZ theta) p :: after⟩ = .ok block' ∧
        block'.instructions.map (Instruction.forget [p])
          = block.instructions.map (Instruction.forget [p])) := by
  obtain ⟨instructions, final, placement, hops, hplacement, rfl⟩ := lower_eq_ok_iff.mp h
  constructor
  · intro before a b after hsplit hdisjoint
    rw [hsplit] at hops
    obtain ⟨earlier, ledger, tail, hbefore, htail, rfl⟩ := lowerOperations_append_eq_ok_iff.mp hops
    obtain ⟨fromA, fromB, later, ha, hb, rfl, hexchanged⟩ :=
      lowerOperations_exchange hdisjoint htail
    refine ⟨earlier, ledger, fromA, fromB, later, hbefore, ha, hb, rfl, ?_⟩
    have hqubits : (⟨before ++ b :: a :: after⟩ : Circuit R).qubits = c.qubits :=
      Circuit.qubits_eq_of_perm (hsplit ▸ (List.Perm.swap a b after).append_left before)
    have hops' := lowerOperations_append_eq_ok_iff.mpr
      ⟨earlier, ledger, _, hbefore, hexchanged, rfl⟩
    rw [← hqubits] at hplacement ⊢
    exact lower_eq_ok_iff.mpr ⟨_, final, placement, hops', hplacement, rfl⟩
  · intro hfolds before after p theta hsplit
    rw [hsplit] at hops
    obtain ⟨earlier, ledger, later, hbefore, hlater, rfl⟩ :=
      lowerOperations_append_eq_ok_iff.mp hops
    have hsame := lowerOperations_sameOff family (ledger.accumulate_sameOff p theta) after
    rw [hlater] at hsame
    obtain ⟨⟨later', final'⟩, hlater', hforget, -⟩ := hsame.exists_left
    have hrotated := lowerOperations_cons_eq_ok_iff.mpr
      ⟨.fold p theta, later', lowerOperation?_rotateZ hfolds ledger theta p, hlater', rfl⟩
    have hops' := lowerOperations_append_eq_ok_iff.mpr ⟨earlier, ledger, _, hbefore, hrotated, rfl⟩
    obtain ⟨placement', hplacement'⟩ :=
      exists_mapM_place_iff.mpr fun q _ => ⟨q, physical?_of_foldsPhases hfolds q⟩
    refine ⟨_, lower_eq_ok_iff.mpr ⟨_, final', placement', hops', hplacement', rfl⟩, ?_⟩
    -- the rotation itself leaves no instruction
    simp only [Lowered.instructions, List.nil_append, List.map_append, hforget]

/-- Three ions, of which two interact beside a gate on the third one. -/
def besideInteraction : Circuit Float :=
  ⟨[.single (.rotateZ (.symbol "alpha")) 0, .single (.rotateZ (.symbol "beta")) 2,
    .pair (.variableMSXX (.symbol "theta")) 0 1, .single (.gpi2 (.symbol "phi")) 2,
    .single (.gpi (.symbol "chi")) 0]⟩

/-- The interaction and the gate beside it are exchanged, and each angle stays as it was. -/
theorem lower_exchange_besideInteraction : ∃ block,
    Family.ionq.lower besideInteraction = .ok block ∧ [0, 1].Disjoint [2] ∧
    block.instructions =
      [⟨.ms (.neg (.symbol "alpha")) Angle.zero (.symbol "theta"), [0, 1]⟩,
        ⟨.gpi2 (.sub (.symbol "phi") (.symbol "beta")), [2]⟩,
        ⟨.gpi (.sub (.symbol "chi") (.symbol "alpha")), [0]⟩] ∧
    Family.ionq.lower ⟨[.single (.rotateZ (.symbol "alpha")) 0,
        .single (.rotateZ (.symbol "beta")) 2, .single (.gpi2 (.symbol "phi")) 2,
        .pair (.variableMSXX (.symbol "theta")) 0 1, .single (.gpi (.symbol "chi")) 0]⟩
      = .ok { block with instructions :=
        [⟨.gpi2 (.sub (.symbol "phi") (.symbol "beta")), [2]⟩,
          ⟨.ms (.neg (.symbol "alpha")) Angle.zero (.symbol "theta"), [0, 1]⟩,
          ⟨.gpi (.sub (.symbol "chi") (.symbol "alpha")), [0]⟩] } := by
  obtain ⟨block, hblock⟩ : ∃ block, Family.ionq.lower besideInteraction = .ok block := ⟨_, rfl⟩
  have hdisjoint : [0, 1].Disjoint [2] := by simp
  obtain ⟨earlier, ledger, fromA, fromB, later, hearlier, hA, hB, hinstructions, hexchanged⟩ :=
    (lower_exchange hblock).1 [.single (.rotateZ (.symbol "alpha")) 0,
      .single (.rotateZ (.symbol "beta")) 2] _ _ _ rfl hdisjoint
  cases hearlier
  cases hA
  cases hB
  cases hblock
  cases hinstructions
  exact ⟨_, rfl, hdisjoint, rfl, hexchanged⟩

end Family

end CircuitDispatch
