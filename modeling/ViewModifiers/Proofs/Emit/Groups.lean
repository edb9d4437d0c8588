import ViewModifiers.Emit.Chunk
import ViewModifiers.Proofs.Text.NameTable

/-!
# Groups of a fixed size

Taking the first group off a list leaves the groups of the rest. Hence the element at an index lands
in the group whose number is the index divided by the size. A group ends where the list ends or
where it is full, so only the last one can have room left, and none is empty.
-/

namespace ViewModifiers.Emit

open Text

variable {α β : Type}

@[simp] theorem groups_nil {size : Nat} (positive : 0 < size) :
    groups size ([] : List α) = [] := by
  have none : groupCount size 0 = 0 := Nat.div_eq_of_lt (by omega)
  simp [groups, none]

/-- A list that is not empty has one group more than what is behind its first group. -/
theorem groupCount_eq_succ {size count : Nat} (positive : 0 < size) (some : 0 < count) :
    groupCount size count = groupCount size (count - size) + 1 := by
  unfold groupCount
  by_cases h : size ≤ count
  · rw [show count + size - 1 = count - size + size - 1 + size by omega,
      Nat.add_div_right _ positive]
  · rw [show count + size - 1 = count - 1 + size by omega, Nat.add_div_right _ positive,
      show count - size + size - 1 = size - 1 by omega, Nat.div_eq_of_lt (by omega),
      Nat.div_eq_of_lt (by omega)]

theorem groupAt_succ (size : Nat) (xs : List α) (index : Nat) :
    groupAt size xs (index + 1) = groupAt size (xs.drop size) index := by
  unfold groupAt
  rw [List.drop_drop, Nat.add_mul, Nat.one_mul, Nat.add_comm]

theorem groups_eq_cons {size : Nat} {xs : List α} (positive : 0 < size) (some : xs ≠ []) :
    groups size xs = xs.take size :: groups size (xs.drop size) := by
  have count := groupCount_eq_succ positive (List.length_pos_iff.2 some)
  rw [groups, count, List.range_succ_eq_map, List.map_cons, List.map_map, groups,
    List.length_drop]
  congr 1
  · simp [groupAt]
  · apply List.map_congr_left
    intro index _
    exact groupAt_succ size xs index

/-- The indices of a list are those of its first group and those of the rest, which start at the
next multiple of the size. -/
theorem zipIdx_eq_take_append_drop (size : Nat) (xs : List α) (first : Nat) :
    xs.zipIdx (first * size) =
      (xs.take size).zipIdx (first * size) ++ (xs.drop size).zipIdx ((first + 1) * size) := by
  have whole : xs.zipIdx (first * size) = (xs.take size ++ xs.drop size).zipIdx (first * size) := by
    rw [List.take_append_drop]
  rw [whole, List.zipIdx_append]
  congr 1
  by_cases h : size ≤ xs.length
  · rw [List.length_take, Nat.min_eq_left h, Nat.add_mul, Nat.one_mul]
  · rw [List.drop_eq_nil_of_le (by omega)]
    rfl

/-- The indices of a group of which the number is given. -/
theorem groupIndex_of_mem_zipIdx {size first : Nat} {xs : List α} {x : α × Nat}
    (hx : x ∈ (xs.take size).zipIdx (first * size)) : groupIndex size x.2 = first := by
  have low := List.le_snd_of_mem_zipIdx hx
  have high := List.snd_lt_add_of_mem_zipIdx hx
  rw [List.length_take] at high
  apply Nat.div_eq_of_lt_le low
  rw [Nat.add_mul, Nat.one_mul]
  omega

/-- Going through the groups with their numbers is going through the list, each index divided by the
size. -/
theorem flatMap_zipIdx_groups {size : Nat} (positive : 0 < size) (f : α → Nat → β)
    (xs : List α) (first : Nat) :
    ((groups size xs).zipIdx first).flatMap (fun g => g.1.map fun x => f x g.2) =
      (xs.zipIdx (first * size)).map fun x => f x.1 (groupIndex size x.2) := by
  induction h : xs.length using Nat.strongRecOn generalizing xs first with
  | ind n ih =>
    by_cases empty : xs = []
    · simp [empty, positive]
    · have shorter : (xs.drop size).length < n := by
        have := List.length_pos_iff.2 empty
        rw [List.length_drop]
        omega
      have group : (xs.take size).map (fun x => f x first) =
          ((xs.take size).zipIdx (first * size)).map fun x => f x.1 (groupIndex size x.2) := by
        calc (xs.take size).map (fun x => f x first)
            = (((xs.take size).zipIdx (first * size)).map Prod.fst).map fun x => f x first := by
              rw [List.zipIdx_map_fst]
          _ = ((xs.take size).zipIdx (first * size)).map fun x => f x.1 first := by
              rw [List.map_map]
              rfl
          _ = ((xs.take size).zipIdx (first * size)).map fun x => f x.1 (groupIndex size x.2) := by
              apply List.map_congr_left
              intro x hx
              rw [groupIndex_of_mem_zipIdx hx]
      rw [groups_eq_cons positive empty, List.zipIdx_cons, List.flatMap_cons,
        ih _ shorter (xs.drop size) (first + 1) rfl, zipIdx_eq_take_append_drop size xs first,
        List.map_append, group]

/-! ## What is in the groups -/

/-- The groups one after the other are the list. -/
theorem flatten_groups {size : Nat} (positive : 0 < size) (xs : List α) :
    (groups size xs).flatten = xs := by
  have all := flatMap_zipIdx_groups positive (fun x _ => x) xs 0
  calc (groups size xs).flatten
      = (((groups size xs).zipIdx).map Prod.fst).flatten := by rw [List.zipIdx_map_fst]
    _ = (groups size xs).zipIdx.flatMap fun g => g.1.map fun x => x := by
        simp only [List.flatMap, List.map_id']
    _ = (xs.zipIdx (0 * size)).map Prod.fst := all
    _ = xs := List.zipIdx_map_fst _ _

theorem length_groups (size : Nat) (xs : List α) :
    (groups size xs).length = groupCount size xs.length := by
  rw [groups, List.length_map, List.length_range]

/-- A group is there exactly if something of the list is left for it. -/
theorem lt_groupCount_iff {size count k : Nat} (positive : 0 < size) :
    k < groupCount size count ↔ k * size < count := by
  rw [groupCount, Nat.lt_iff_add_one_le, Nat.le_div_iff_mul_le positive, Nat.add_mul, Nat.one_mul]
  omega

theorem getElem?_groups_eq_some_iff {size k : Nat} {xs g : List α} :
    ((groups size xs)[k]? : Option (List α)) = some g ↔
      k < (groups size xs).length ∧ groupAt size xs k = g := by
  rw [length_groups, groups, List.getElem?_map, Option.map_eq_some_iff]
  constructor
  · rintro ⟨index, there, rfl⟩
    obtain ⟨small, rfl⟩ := List.getElem?_eq_some_iff.1 there
    rw [List.length_range] at small
    rw [List.getElem_range]
    exact ⟨small, rfl⟩
  · rintro ⟨small, rfl⟩
    exact ⟨k, List.getElem?_range small, rfl⟩

theorem length_groupAt (size : Nat) (xs : List α) (k : Nat) :
    (groupAt size xs k).length = min size (xs.length - k * size) := by
  rw [groupAt, List.length_take, List.length_drop]

/-- Every group with another one behind it is full. -/
theorem length_of_not_last {size k : Nat} {xs g : List α} (positive : 0 < size)
    (there : (groups size xs)[k]? = some g) (more : k + 1 < (groups size xs).length) :
    g.length = size := by
  obtain ⟨-, rfl⟩ := getElem?_groups_eq_some_iff.1 there
  rw [length_groups, lt_groupCount_iff positive, Nat.add_mul, Nat.one_mul] at more
  rw [length_groupAt]
  omega

/-- No group is empty, and none is larger than full. -/
theorem length_of_mem_groups {size : Nat} {xs g : List α} (positive : 0 < size)
    (there : g ∈ groups size xs) : 1 ≤ g.length ∧ g.length ≤ size := by
  obtain ⟨k, there⟩ := List.mem_iff_getElem?.1 there
  obtain ⟨small, rfl⟩ := getElem?_groups_eq_some_iff.1 there
  rw [length_groups, lt_groupCount_iff positive] at small
  rw [length_groupAt]
  omega

/-- Where the element at an index stands in its group. -/
theorem getElem?_getElem?_groups {size : Nat} (positive : 0 < size) (xs : List α) (index : Nat) :
    (groups size xs)[groupIndex size index]?.bind (·[index % size]?) = xs[index]? := by
  have split : index / size * size + index % size = index := Nat.div_add_mod' index size
  by_cases there : index / size < (groups size xs).length
  · rw [groupIndex, getElem?_groups_eq_some_iff.2 ⟨there, rfl⟩, Option.bind_some, groupAt,
      List.getElem?_take_of_lt (Nat.mod_lt index positive), List.getElem?_drop, split]
  · rw [groupIndex, List.getElem?_eq_none (Nat.le_of_not_lt there), Option.bind_none, eq_comm,
      List.getElem?_eq_none]
    rw [length_groups, lt_groupCount_iff positive] at there
    omega

/-- What is done to the elements is done in their groups. -/
theorem groups_map (size : Nat) (f : α → β) (xs : List α) :
    groups size (xs.map f) = (groups size xs).map (·.map f) := by
  rw [groups, groups, List.length_map, List.map_map]
  apply List.map_congr_left
  intro index _
  rw [Function.comp_apply, groupAt, groupAt, List.map_take, List.map_drop]

/-! ## The groups of names -/

/-- Of distinct names, each has the number of the group in which it lands. -/
theorem get?_groupIndices {size index : Nat} {names : List String} {name : String}
    (distinct : names.Nodup) (there : names[index]? = some name) :
    NameTable.get? (groupIndices size names) name = some (groupIndex size index) := by
  have keys : NameTable.names (names.zipIdx.map fun x => (x.1, groupIndex size x.2)) = names := by
    rw [NameTable.names, List.map_map]
    exact List.zipIdx_map_fst 0 names
  have entry : (name, groupIndex size index) ∈
      names.zipIdx.map fun x => (x.1, groupIndex size x.2) :=
    List.mem_map.2 ⟨(name, index), List.mem_zipIdx_iff_getElem?.2 there, rfl⟩
  rw [groupIndices, NameTable.ofList_of_nodup (by rwa [keys])]
  exact NameTable.get?_of_mem (by rwa [keys]) entry

end ViewModifiers.Emit
