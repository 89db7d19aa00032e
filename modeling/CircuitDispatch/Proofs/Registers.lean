import CircuitDispatch.Proofs.SortedMap
import CircuitDispatch.Registers.Basic

/-!
# Merged registers

Merging goes kind by kind, and within a kind the last registers that have a name win
(`get?_mergeAll`).
-/

namespace CircuitDispatch.Registers

variable {R Value : Type}

/-- **The last registers win.** Of many merged registers, a part that merges by union shows under
each name what the last registers with this name have there. -/
theorem get?_mergeAll (part : Registers R → RegisterMap Value) (hempty : part ∅ = ∅)
    (hmerge : ∀ r later, part (r.merge later) = (part r).union (part later))
    (results : List (Registers R)) (k : String) :
    (part (mergeAll results)).get? k = results.reverse.findSome? fun r => (part r).get? k := by
  -- from any registers, so that the induction goes through
  have hfoldl : ∀ start, part (results.foldl merge start)
      = results.foldl (fun acc r => acc.union (part r)) (part start) := by
    induction results with
    | nil => exact fun _ => rfl
    | cons r rest ih =>
      intro start
      rw [List.foldl_cons, List.foldl_cons, ih, hmerge]
  rw [mergeAll, hfoldl, hempty, SortedMap.get?_foldl_union, SortedMap.get?_empty, Option.or_none]

end CircuitDispatch.Registers
