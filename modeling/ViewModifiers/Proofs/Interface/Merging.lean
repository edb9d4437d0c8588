import Mathlib.Data.List.Induction
import ViewModifiers.Proofs.Interface.Availability

/-!
# Constraints merged

Merging is associative and idempotent, and the first constraint counts where two differ. No
requirement is neutral in front of a constraint, and behind one whose texts are not empty. So what
several constraints come to does not depend on which of them are merged first
(`Grouping.merged_eq_mergeAll`).
-/

namespace ViewModifiers.Interface

open Text

theorem givenText_eq_some_iff {s : Option String} {x : String} :
    givenText s = some x ↔ s = some x ∧ x ≠ "" := by
  simp [givenText, Option.filter_eq_some_iff]

theorem givenText_of_ne {s : Option String} (given : s ≠ some "") : givenText s = s := by
  cases s with
  | none => rfl
  | some x => exact givenText_eq_some_iff.2 ⟨rfl, fun empty => given (empty ▸ rfl)⟩

namespace Availability

variable {a b c : Availability} {platform : String}

/-! ## Texts -/

theorem firstText_assoc (s t u : Option String) :
    firstText (firstText s t) u = firstText s (firstText t u) := by
  cases given : givenText s with
  | none => rw [firstText, firstText, firstText, given, Option.none_or, Option.none_or, firstText]
  | some x =>
    have again : givenText (some x) = some x :=
      givenText_eq_some_iff.2 ⟨rfl, (givenText_eq_some_iff.1 given).2⟩
    rw [firstText, firstText, firstText, given, Option.some_or, again, Option.some_or,
      Option.some_or]

theorem firstText_self (s : Option String) : firstText s s = s := by
  cases given : givenText s with
  | none => rw [firstText, given, Option.none_or]
  | some x => rw [firstText, given, Option.some_or, (givenText_eq_some_iff.1 given).1]

theorem firstText_none_right {s : Option String} (given : s ≠ some "") : firstText s none = s := by
  rw [firstText, givenText_of_ne given, Option.or_none]

/-! ## Platforms -/

theorem lists_iff : a.lists platform = true ↔ platform ∈ a.platforms.map (·.platform) := by
  simp [lists]

/-- A merged constraint lists what either of the two lists. -/
theorem lists_merge (a b : Availability) (platform : String) :
    (a.merge b).lists platform = (a.lists platform || b.lists platform) := by
  rw [lists, merge, List.any_append, List.any_filter, ← lists]
  cases listed : a.lists platform with
  | true => rfl
  | false =>
    rw [Bool.false_or, Bool.false_or, lists]
    congr 1
    funext p
    by_cases same : p.platform = platform
    · rw [same, listed, Bool.not_false, Bool.true_and]
    · rw [beq_false_of_ne same, Bool.and_false]

theorem platforms_merge_assoc (a b c : Availability) :
    ((a.merge b).merge c).platforms = (a.merge (b.merge c)).platforms := by
  have behind : c.platforms.filter (fun p => !(a.merge b).lists p.platform) =
      (c.platforms.filter fun p => !b.lists p.platform).filter fun p => !a.lists p.platform := by
    rw [List.filter_filter]
    refine List.filter_congr fun p _ => ?_
    rw [lists_merge, Bool.not_or]
  change (a.platforms ++ b.platforms.filter _) ++ c.platforms.filter _ =
    a.platforms ++ (b.platforms ++ c.platforms.filter _).filter _
  rw [behind, List.append_assoc, List.filter_append]

/-- A constraint has nothing to add to itself. -/
theorem filter_not_lists_self (a : Availability) :
    a.platforms.filter (fun p => !a.lists p.platform) = [] := by
  rw [List.filter_eq_nil_iff]
  intro p there
  rw [lists_iff.2 (List.mem_map_of_mem there)]
  exact Bool.false_ne_true

/-- What a merged constraint requires of a platform is what the first constraint requires that lists
the platform. -/
theorem filter_platforms_merge (a b : Availability) (platform : String) :
    (a.merge b).platforms.filter (·.platform = platform) =
      if a.lists platform then a.platforms.filter (·.platform = platform)
      else b.platforms.filter (·.platform = platform) := by
  rw [merge, List.filter_append, List.filter_filter]
  split
  next listed =>
    have none : b.platforms.filter (fun p =>
        decide (p.platform = platform) && !a.lists p.platform) = [] := by
      rw [List.filter_eq_nil_iff]
      intro p _ both
      rw [Bool.and_eq_true, decide_eq_true_eq] at both
      rw [both.1, listed] at both
      exact Bool.false_ne_true both.2
    rw [none, List.append_nil]
  next unlisted =>
    have none : a.platforms.filter (·.platform = platform) = [] := by
      rw [List.filter_eq_nil_iff]
      intro p there same
      exact unlisted (lists_iff.2 (List.mem_map.2 ⟨p, there, of_decide_eq_true same⟩))
    rw [none, List.nil_append]
    refine List.filter_congr fun p _ => ?_
    by_cases same : p.platform = platform
    · rw [same, Bool.eq_false_iff.2 unlisted, Bool.not_false, Bool.and_true]
    · rw [decide_eq_false same, Bool.false_and]

/-- Merging lists no platform twice if neither constraint does. -/
theorem nodup_platforms_merge (first : (a.platforms.map (·.platform)).Nodup)
    (second : (b.platforms.map (·.platform)).Nodup) :
    ((a.merge b).platforms.map (·.platform)).Nodup := by
  rw [merge, List.map_append, List.nodup_append]
  refine ⟨first, second.sublist (List.filter_sublist.map _), ?_⟩
  rintro name listed _ others rfl
  obtain ⟨p, behind, rfl⟩ := List.mem_map.1 others
  have unlisted := (List.mem_filter.1 behind).2
  rw [lists_iff.2 listed] at unlisted
  exact Bool.false_ne_true unlisted

/-! ## Laws -/

theorem merge_assoc (a b c : Availability) : (a.merge b).merge c = a.merge (b.merge c) := by
  refine Availability.mk.injEq .. ▸ ⟨platforms_merge_assoc a b c, NameSet.union_assoc _ _ _,
    Bool.or_assoc _ _ _, firstText_assoc _ _ _, firstText_assoc _ _ _⟩

theorem merge_self (a : Availability) : a.merge a = a := by
  rw [merge, filter_not_lists_self, List.append_nil, NameSet.union_self, Bool.or_self,
    firstText_self, firstText_self]

theorem always_merge (a : Availability) : always.merge a = a := by
  have all : a.platforms.filter (fun p => !always.lists p.platform) = a.platforms :=
    List.filter_eq_self.2 fun _ _ => rfl
  rw [merge, all]
  change Availability.mk a.platforms (NameSet.empty.union _) a.deprecated a.message a.renamed = a
  rw [NameSet.empty_union]

theorem merge_always (message : a.message ≠ some "") (renamed : a.renamed ≠ some "") :
    a.merge always = a := by
  change Availability.mk (a.platforms ++ []) (a.unavailable.union .empty) (a.deprecated || false)
    (firstText a.message none) (firstText a.renamed none) = a
  rw [List.append_nil, NameSet.union_empty, Bool.or_false, firstText_none_right message,
    firstText_none_right renamed]

/-! ## Several constraints -/

/-- Several constraints, merged from the last one on. -/
def mergeAll : List Availability → Availability
  | [] => always
  | [a] => a
  | a :: b :: rest => a.merge (mergeAll (b :: rest))

theorem mergeAll_cons (a : Availability) {as : List Availability} (some : as ≠ []) :
    mergeAll (a :: as) = a.merge (mergeAll as) := by
  obtain ⟨b, rest, rfl⟩ := List.exists_cons_of_ne_nil some
  rfl

/-- Constraints in front of others are merged with what those come to. -/
theorem mergeAll_append (as : List Availability) {bs : List Availability} (some : bs ≠ []) :
    mergeAll (as ++ bs) = (mergeAll as).merge (mergeAll bs) := by
  induction as with
  | nil => exact (always_merge _).symm
  | cons a as ih =>
    rw [List.cons_append, mergeAll_cons a (List.append_ne_nil_of_right_ne_nil as some), ih]
    cases as with
    | nil => rw [mergeAll, mergeAll, always_merge]
    | cons b rest => rw [mergeAll_cons a (List.cons_ne_nil b rest), merge_assoc]

theorem mergeAll_always_cons (as : List Availability) :
    mergeAll (always :: as) = mergeAll as := by
  cases as with
  | nil => rfl
  | cons a rest => rw [mergeAll_cons always (List.cons_ne_nil a rest), always_merge]

/-- Merging them one after the other, as they come, gives the same. -/
theorem foldl_merge_always (as : List Availability) : as.foldl merge always = mergeAll as := by
  induction as using List.reverseRecOn with
  | nil => rfl
  | append_singleton before last ih =>
    rw [List.foldl_append, ih, mergeAll_append before (List.cons_ne_nil last [])]
    rfl

/-- Constraints in order, with parentheses around those that are merged first. -/
inductive Grouping
  | one (constraint : Availability)
  | both (first second : Grouping)

namespace Grouping

/-- The constraints in order. -/
def constraints : Grouping → List Availability
  | one constraint => [constraint]
  | both first second => first.constraints ++ second.constraints

/-- The constraints, merged as the parentheses say. -/
def merged : Grouping → Availability
  | one constraint => constraint
  | both first second => first.merged.merge second.merged

theorem constraints_ne_nil : ∀ g : Grouping, g.constraints ≠ []
  | one _ => List.cons_ne_nil _ _
  | both _ second => List.append_ne_nil_of_right_ne_nil _ second.constraints_ne_nil

/-- Parentheses make no difference. -/
theorem merged_eq_mergeAll : ∀ g : Grouping, g.merged = mergeAll g.constraints
  | one _ => rfl
  | both first second => by
    rw [merged, constraints, mergeAll_append _ second.constraints_ne_nil,
      first.merged_eq_mergeAll, second.merged_eq_mergeAll]

end Grouping

end Availability

end ViewModifiers.Interface
