import CircuitDispatch.Circuit.Basic

/-!
# The bit registers of a circuit

The length of a register is that of a declaration (`Circuit.exists_define_of_bitRegisterLength?`),
which is the first one (`Circuit.bitRegisterLength?_eq_some_iff`), and its static bits are the
operations that set one (`Circuit.mem_inputBits`). In two circuits in a row the first one that
declares a register decides its length (`Circuit.bitRegisterLength?_append`).
-/

namespace CircuitDispatch.Circuit

variable {R : Type} {c : Circuit R} {register : String}

theorem exists_define_of_bitRegisterLength? {length : Nat}
    (h : c.bitRegisterLength? register = some length) :
    ∃ isOutput, .define .bit register length isOutput ∈ c.operations := by
  obtain ⟨op, hop, hlength⟩ := List.exists_of_findSome?_eq_some h
  split at hlength
  case h_1 defined declared isOutput =>
    obtain ⟨hname, hdeclared⟩ := Option.ite_none_right_eq_some.mp hlength
    cases hdeclared
    exact ⟨isOutput, hname ▸ hop⟩
  case h_2 => cases hlength

/-- Whether some operations define a register of bits, and the first one that does gives it a
length. -/
def FirstDefined (ops : List (Operation R)) (register : String) (length : Nat) : Prop :=
  ∃ before isOutput after, ops = before ++ .define .bit register length isOutput :: after ∧
    ∀ other isOutput, .define .bit register other isOutput ∉ before

theorem bitRegisterLength?_eq_some_iff {length : Nat} :
    c.bitRegisterLength? register = some length ↔ FirstDefined c.operations register length := by
  rw [bitRegisterLength?, List.findSome?_eq_some_iff]
  constructor
  · rintro ⟨before, op, after, hsplit, hlength, hbefore⟩
    split at hlength
    case h_1 defined declared isOutput =>
      obtain ⟨rfl, hdeclared⟩ := Option.ite_none_right_eq_some.mp hlength
      cases hdeclared
      refine ⟨before, isOutput, after, hsplit, fun other isOutput' hmem => ?_⟩
      have hnone := hbefore _ hmem
      simp at hnone
    case h_2 => cases hlength
  · rintro ⟨before, isOutput, after, hsplit, hbefore⟩
    refine ⟨before, _, after, hsplit, if_pos rfl, fun op hop => ?_⟩
    split
    case h_1 defined declared isOutput' =>
      refine if_neg fun hname => ?_
      subst hname
      exact hbefore declared isOutput' hop
    case h_2 => rfl

theorem mem_inputBits {index : Nat} {value : Bool} :
    (index, value) ∈ c.inputBits register ↔ .inputBit register index value ∈ c.operations := by
  constructor
  · intro hmem
    obtain ⟨op, hop, hbit⟩ := List.mem_filterMap.mp hmem
    split at hbit
    case h_1 name i v =>
      obtain ⟨hname, hinput⟩ := Option.ite_none_right_eq_some.mp hbit
      cases hinput
      exact hname ▸ hop
    case h_2 => cases hbit
  · intro hop
    exact List.mem_filterMap.mpr ⟨_, hop, if_pos rfl⟩

/-- Of two declarations the first counts. -/
theorem bitRegisterLength?_append (c d : Circuit R) (register : String) :
    (c ++ d).bitRegisterLength? register
      = (c.bitRegisterLength? register).or (d.bitRegisterLength? register) :=
  List.findSome?_append

theorem inputBits_append (c d : Circuit R) (register : String) :
    (c ++ d).inputBits register = c.inputBits register ++ d.inputBits register :=
  List.filterMap_append

end CircuitDispatch.Circuit
