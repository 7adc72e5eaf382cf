import Courier.Metadata

/-! What a broker can carry. -/

namespace Courier.Metadata

variable {ε : Type}

/-- An entry with a key, and without a NUL in the key or in the value. -/
def Carriable (e : String × String) : Prop :=
  e.1 ≠ "" ∧ Char.ofNat 0 ∉ e.1.toList ∧ Char.ofNat 0 ∉ e.2.toList

theorem hasNul_iff (s : String) : hasNul s = true ↔ Char.ofNat 0 ∈ s.toList := by
  rw [hasNul, List.contains_iff_mem]

theorem entryFlaw_none {e : String × String} : entryFlaw? e = none ↔ Carriable e := by
  unfold entryFlaw? Carriable
  rw [← hasNul_iff, ← hasNul_iff]
  split
  · rename_i empty
    simp [String.isEmpty_iff.mp empty]
  · rename_i key
    have named : e.1 ≠ "" := fun empty => key (String.isEmpty_iff.mpr empty)
    split
    · rename_i nul
      simp [nul]
    · rename_i clean
      split
      · rename_i nul
        simp [nul]
      · rename_i value
        simp [named, clean, value]

/-- Metadata passes if every entry does. -/
theorem flaw_none {m : Metadata} : (flaw? m : Option (Fault ε)) = none ↔ ∀ e ∈ m, Carriable e := by
  induction m with
  | nil => simp [flaw?]
  | cons e rest ih =>
    rw [flaw?, List.forall_mem_cons, ← ih, ← entryFlaw_none]
    cases entryFlaw? e with
    | none => simp
    | some f => simp

end Courier.Metadata
