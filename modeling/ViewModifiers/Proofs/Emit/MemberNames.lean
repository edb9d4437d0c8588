import Mathlib.Data.List.Nodup
import ViewModifiers.Emit.Name

/-!
# The members of enum classes

A name that starts with an underscore gets a prefix as a member, and one that the generated language
or its enum classes reserve gets an underscore behind it. No member is such a name
(`not_isAltered_enumMember`), so names are altered only once. Altering does not look at other names:
a name and the member that another one is altered to are the same member, and two names share a
member in no other way (`enumMember_eq_iff`).
-/

namespace ViewModifiers.Emit

open Text

variable {name : String}

/-- The names that no member may have. -/
def reservedNames : List String := keywords ++ reservedMembers

/-- A name that is altered as a member. -/
def IsAltered (name : String) : Prop := name.toList.head? = some '_' ∨ name ∈ reservedNames

instance : DecidablePred IsAltered := fun _ => inferInstanceAs (Decidable (_ ∨ _))

/-! ## The three kinds of names -/

theorem enumMember_of_underscore (underscore : name.toList.head? = some '_') :
    enumMember name = "case" ++ name := by
  unfold enumMember
  rw [if_pos underscore]

/-- No reserved name starts or ends with an underscore, nor does it look like one that has got the
prefix. -/
theorem reservedNames_shape : ∀ name ∈ reservedNames, name.toList.head? ≠ some '_' ∧
    name.toList.getLast? ≠ some '_' ∧ name.toList.take 5 ≠ "case_".toList ∧
    (name ++ "_").toList.take 5 ≠ "case_".toList := by
  decide

theorem enumMember_of_reserved (reserved : name ∈ reservedNames) :
    enumMember name = name ++ "_" := by
  have listed : (keywords.contains name || reservedMembers.contains name) = true := by
    simpa [reservedNames] using reserved
  unfold enumMember
  rw [if_neg (reservedNames_shape name reserved).1, if_pos listed]

theorem enumMember_of_not_isAltered (plain : ¬IsAltered name) : enumMember name = name := by
  obtain ⟨first, free⟩ := not_or.1 plain
  have unlisted : ¬(keywords.contains name || reservedMembers.contains name) = true := by
    simpa [reservedNames] using free
  unfold enumMember
  rw [if_neg first, if_neg unlisted]

/-- The prefix makes an underscore the fifth character. -/
theorem take_prefixed (underscore : name.toList.head? = some '_') :
    ("case" ++ name).toList.take 5 = "case_".toList := by
  obtain ⟨rest, letters⟩ := List.head?_eq_some_iff.1 underscore
  rw [String.toList_append, letters]
  rfl

/-! ## Members -/

/-- No member is a keyword or reserved, and none starts with an underscore. -/
theorem not_isAltered_enumMember (name : String) : ¬IsAltered (enumMember name) := by
  by_cases altered : IsAltered name
  · rcases altered with underscore | reserved
    · rw [enumMember_of_underscore underscore]
      rintro (first | reserved)
      · rw [String.toList_append] at first
        cases first
      · exact (reservedNames_shape _ reserved).2.2.1 (take_prefixed underscore)
    · rw [enumMember_of_reserved reserved]
      rintro (first | again)
      · have front := (reservedNames_shape name reserved).1
        rw [String.toList_append, List.head?_append] at first
        cases letters : name.toList with
        | nil =>
          obtain rfl : name = "" := String.toList_eq_nil_iff.1 letters
          revert reserved
          decide
        | cons c cs =>
          rw [letters] at first front
          exact front first
      · apply (reservedNames_shape _ again).2.1
        rw [String.toList_append]
        exact List.getLast?_concat
  · rwa [enumMember_of_not_isAltered altered]

/-- Names that are altered have different members. -/
theorem eq_of_enumMember {a b : String} (first : IsAltered a) (second : IsAltered b)
    (same : enumMember a = enumMember b) : a = b := by
  rcases first with underscore | reserved
  · rw [enumMember_of_underscore underscore] at same
    rcases second with underscore' | reserved'
    · rw [enumMember_of_underscore underscore'] at same
      exact (String.append_right_inj "case").1 same
    · rw [enumMember_of_reserved reserved'] at same
      have shape := take_prefixed underscore
      rw [same] at shape
      exact absurd shape (reservedNames_shape b reserved').2.2.2
  · rw [enumMember_of_reserved reserved] at same
    rcases second with underscore' | reserved'
    · rw [enumMember_of_underscore underscore'] at same
      have shape := take_prefixed underscore'
      rw [← same] at shape
      exact absurd shape (reservedNames_shape a reserved).2.2.2
    · rw [enumMember_of_reserved reserved'] at same
      exact (String.append_left_inj "_").1 same

/-- Two names share a member exactly if they are the same or one is the member of the other. -/
theorem enumMember_eq_iff {a b : String} :
    enumMember a = enumMember b ↔ a = b ∨ b = enumMember a ∨ a = enumMember b := by
  have fixed (name : String) : enumMember (enumMember name) = enumMember name :=
    enumMember_of_not_isAltered (not_isAltered_enumMember name)
  constructor
  · intro same
    by_cases first : IsAltered a
    · by_cases second : IsAltered b
      · exact .inl (eq_of_enumMember first second same)
      · rw [same, enumMember_of_not_isAltered second]
        exact .inr (.inl rfl)
    · rw [← same, enumMember_of_not_isAltered first]
      exact .inr (.inr rfl)
  · rintro (rfl | rfl | rfl)
    · rfl
    · exact (fixed a).symm
    · exact fixed b

/-- Distinct names have distinct members exactly if none of them is the member of another one. -/
theorem nodup_members_iff {names : List String} (distinct : names.Nodup) :
    (names.map enumMember).Nodup ↔ ∀ a ∈ names, ∀ b ∈ names, b = enumMember a → b = a := by
  constructor
  · intro members a isName b isName' taken
    apply List.inj_on_of_nodup_map members isName' isName
    exact enumMember_eq_iff.2 (.inr (.inr taken))
  · intro apart
    apply List.Nodup.map_on _ distinct
    intro a isName b isName' same
    rcases enumMember_eq_iff.1 same with same | taken | taken
    · exact same
    · exact (apart a isName b isName' taken).symm
    · exact apart b isName' a isName taken

/-! ## Characters of members -/

theorem continuesIdentifier_of_isIdentifier (isName : isIdentifier name = true) :
    ∀ c ∈ name.toList, continuesIdentifier c = true := by
  unfold isIdentifier at isName
  split at isName
  · cases isName
  · next c cs letters =>
    rw [letters]
    obtain ⟨first, later⟩ := Bool.and_eq_true_iff.1 isName
    refine List.forall_mem_cons.2 ⟨?_, List.all_eq_true.1 later⟩
    rw [continuesIdentifier, first, Bool.true_or, Bool.true_or, Bool.true_or]

theorem isIdentifier_append {a b : String} (isName : isIdentifier a = true)
    (later : ∀ c ∈ b.toList, continuesIdentifier c = true) : isIdentifier (a ++ b) = true := by
  unfold isIdentifier at isName ⊢
  rw [String.toList_append]
  split at isName
  · cases isName
  · next c cs letters =>
    obtain ⟨first, rest⟩ := Bool.and_eq_true_iff.1 isName
    rw [letters, List.cons_append]
    exact Bool.and_eq_true_iff.2 ⟨first, List.all_append ▸
      Bool.and_eq_true_iff.2 ⟨rest, List.all_eq_true.2 later⟩⟩

/-- The member of an identifier is one. -/
theorem isIdentifier_enumMember (isName : isIdentifier name = true) :
    isIdentifier (enumMember name) = true := by
  by_cases altered : IsAltered name
  · rcases altered with underscore | reserved
    · rw [enumMember_of_underscore underscore]
      exact isIdentifier_append (by decide) (continuesIdentifier_of_isIdentifier isName)
    · rw [enumMember_of_reserved reserved]
      exact isIdentifier_append isName (List.all_eq_true.1 (by decide))
  · rwa [enumMember_of_not_isAltered altered]

theorem isAscii_append {a b : String} (first : isAscii a = true) (second : isAscii b = true) :
    isAscii (a ++ b) = true := by
  rw [isAscii, String.toList_append, List.all_append]
  exact Bool.and_eq_true_iff.2 ⟨first, second⟩

theorem isAscii_enumMember (plain : isAscii name = true) : isAscii (enumMember name) = true := by
  by_cases altered : IsAltered name
  · rcases altered with underscore | reserved
    · rw [enumMember_of_underscore underscore]
      exact isAscii_append (by decide) plain
    · rw [enumMember_of_reserved reserved]
      exact isAscii_append plain (by decide)
  · rwa [enumMember_of_not_isAltered altered]

end ViewModifiers.Emit
