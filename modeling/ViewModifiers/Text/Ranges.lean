/-!
# Sets of code points as sorted range lists

A character class is a sorted list of inclusive code-point ranges. Membership stops at the first
range that begins past the point, so the small classes of everyday text are decided at once.
-/

namespace ViewModifiers.Text

/-- Inclusive ranges of code points in increasing order. -/
abbrev Ranges := List (Nat × Nat)

/-- Whether a code point lies in one of the ranges. -/
def Ranges.contains : Ranges → Nat → Bool
  | [], _ => false
  | (low, high) :: rest, n => if n < low then false else n ≤ high || Ranges.contains rest n

/-- What a class contains lies in one of its ranges. -/
theorem Ranges.exists_mem_of_contains {ranges : Ranges} {n : Nat} (h : ranges.contains n = true) :
    ∃ r ∈ ranges, r.1 ≤ n ∧ n ≤ r.2 := by
  induction ranges with
  | nil => cases h
  | cons r rest ih =>
    rw [contains] at h
    split at h
    · cases h
    · next above =>
      rw [Bool.or_eq_true, decide_eq_true_eq] at h
      rcases h with below | later
      · exact ⟨r, List.mem_cons_self, Nat.not_lt.1 above, below⟩
      · obtain ⟨s, there, bounds⟩ := ih later
        exact ⟨s, List.mem_cons_of_mem r there, bounds⟩

end ViewModifiers.Text
