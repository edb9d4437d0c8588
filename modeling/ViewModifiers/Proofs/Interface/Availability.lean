import ViewModifiers.Interface.Availability

/-!
# Platforms of a constraint

Which platforms a constraint offers, and what becomes of them when constraints are compared and
merged. Two constraints that agree list the same platforms, in whatever order; what a merged
constraint takes back is what either of the two takes back.
-/

namespace ViewModifiers.Interface.Availability

open Text

variable {a b : Availability} {platform : String}

theorem mem_offeredPlatforms : platform ∈ a.offeredPlatforms ↔
    platform ∈ a.platforms.map (·.platform) ∧ platform ∉ a.unavailable := by
  simp [offeredPlatforms]

/-- Constraints agree only if they list the same platforms with the same versions. -/
theorem perm_of_agreesWith (agrees : a.agreesWith b = true) :
    (a.platforms.map (·.key)).Perm (b.platforms.map (·.key)) := by
  have same : a.normalized = b.normalized := eq_of_beq agrees
  have sorted : a.normalized.Perm (a.platforms.map (·.key)) := List.mergeSort_perm _ _
  rw [same] at sorted
  exact sorted.symm.trans (List.mergeSort_perm _ _)

theorem mem_platforms_of_agreesWith (agrees : a.agreesWith b = true)
    (there : platform ∈ a.platforms.map (·.platform)) :
    platform ∈ b.platforms.map (·.platform) := by
  obtain ⟨p, listed, rfl⟩ := List.mem_map.1 there
  obtain ⟨q, listed', same⟩ :=
    List.mem_map.1 ((perm_of_agreesWith agrees).mem_iff.1 (List.mem_map.2 ⟨p, listed, rfl⟩))
  exact List.mem_map.2 ⟨q, listed', congrArg Prod.fst same⟩

theorem agreesWith_comm : a.agreesWith b = b.agreesWith a := BEq.comm

theorem mem_unavailable_merge : platform ∈ (a.merge b).unavailable ↔
    platform ∈ a.unavailable ∨ platform ∈ b.unavailable :=
  NameSet.mem_union

end ViewModifiers.Interface.Availability
