import Mathlib.Data.List.Nodup
import ViewModifiers.Emit.Name

/-!
# The fields of overload classes

A parameter has a field of its own name, unless that is a placeholder, a keyword or reserved. As
long as a name is taken, an underscore is put behind it (`Settles`). Each underscore leaves fewer of
the names taken long enough to be met again, so this comes to an end (`settles_freshen`). Of the
names that no field may have, only the placeholder ends in an underscore, and it is nothing else;
hence no field becomes one of them on the way (`isSafe_underscored`).
-/

namespace ViewModifiers.Emit

open Catalog

variable {name field : String} {taken names : List String}

/-! ## Names that are taken -/

/-- A name gets underscores behind it, one as long as it is taken, and ends up as a field. -/
inductive Settles (taken : List String) : String → String → Prop
  | free {name : String} (new : name ∉ taken) : Settles taken name name
  | again {name field : String} (met : name ∈ taken) (later : Settles taken (name ++ "_") field) :
      Settles taken name field

theorem Settles.not_mem (settles : Settles taken name field) : field ∉ taken := by
  induction settles with
  | free new => exact new
  | again _ _ ih => exact ih

theorem Settles.eq_of_not_mem (settles : Settles taken name field) (new : name ∉ taken) :
    field = name := by
  cases settles with
  | free => rfl
  | again met => exact absurd met new

/-- How many of the names taken are at least as long as some length. -/
def countFrom (size : Nat) (taken : List String) : Nat :=
  taken.countP fun other => decide (size ≤ other.length)

theorem countFrom_append (size : Nat) (before after : List String) :
    countFrom size (before ++ after) = countFrom size before + countFrom size after :=
  List.countP_append

theorem countFrom_succ_le (size : Nat) (taken : List String) :
    countFrom (size + 1) taken ≤ countFrom size taken := by
  refine List.countP_mono_left fun other _ longer => ?_
  exact decide_eq_true (Nat.le_of_succ_le (of_decide_eq_true longer))

/-- A name that is taken is not among the longer ones. -/
theorem countFrom_succ_lt (met : name ∈ taken) :
    countFrom (name.length + 1) taken < countFrom name.length taken := by
  obtain ⟨before, after, rfl⟩ := List.append_of_mem met
  have first := countFrom_succ_le name.length before
  have last := countFrom_succ_le name.length after
  have left : countFrom (name.length + 1) (name :: after) = countFrom (name.length + 1) after :=
    List.countP_cons_of_neg (by simp)
  have counted : countFrom name.length (name :: after) = countFrom name.length after + 1 :=
    List.countP_cons_of_pos (by simp)
  rw [countFrom_append, countFrom_append, left, counted]
  omega

/-- With as many tries as there are names to meet, the name settles. -/
theorem settles_freshen {tries : Nat} (enough : countFrom name.length taken ≤ tries) :
    Settles taken name (freshen taken tries name) := by
  induction tries generalizing name with
  | zero =>
    refine .free fun met => ?_
    have fewer := countFrom_succ_lt met
    omega
  | succ tries ih =>
    rw [freshen]
    by_cases met : name ∈ taken
    · rw [if_pos (List.contains_iff_mem.2 met)]
      have length : (name ++ "_").length = name.length + 1 := String.length_append _ _
      have fewer := countFrom_succ_lt met
      exact .again met (ih (by rw [length]; omega))
    · rw [if_neg fun there => met (List.contains_iff_mem.1 there)]
      exact .free met

/-! ## Names that are safe -/

/-- The names that no field may have. -/
def avoidedNames : List String := wildcard :: (keywords ++ reservedFields)

/-- A name that a field may have, and that is not empty. -/
structure IsSafe (name : String) : Prop where
  filled : name ≠ ""
  free : name ∉ avoidedNames

/-- Of the names to avoid only the placeholder ends in an underscore, and none looks like the field
of a placeholder. -/
theorem avoidedNames_shape : ∀ name ∈ avoidedNames,
    (name.toList.getLast? = some '_' → name = wildcard) ∧ name.toList.take 3 ≠ "arg".toList := by
  decide

theorem isSafe_underscored (filled : name ≠ "") : IsSafe (name ++ "_") := by
  have last : (name ++ "_").toList.getLast? = some '_' := by
    rw [String.toList_append]
    exact List.getLast?_concat
  refine ⟨fun empty => ?_, fun avoided => ?_⟩
  · rw [empty] at last
    cases last
  · have same := congrArg String.length ((avoidedNames_shape _ avoided).1 last)
    rw [String.length_append] at same
    exact filled (String.length_eq_zero_iff.1 (Nat.succ.inj same))

theorem Settles.isSafe (settles : Settles taken name field) (safe : IsSafe name) :
    IsSafe field := by
  induction settles with
  | free => exact safe
  | again _ _ ih => exact ih (isSafe_underscored safe.filled)

theorem isSafe_placeholder (index : Nat) : IsSafe ("arg" ++ toString index) := by
  have front : ("arg" ++ toString index).toList.take 3 = "arg".toList := by
    rw [String.toList_append]
    rfl
  refine ⟨fun empty => ?_, fun avoided => (avoidedNames_shape _ avoided).2 front⟩
  rw [empty] at front
  cases front

theorem fieldName_of_not_mem {p : Parameter} (free : p.localName ∉ avoidedNames) (index : Nat) :
    fieldName index p = p.localName := by
  obtain ⟨noPlaceholder, unlisted⟩ := not_or.1 (mt List.mem_cons.2 free)
  have notReserved :
      ¬(keywords.contains p.localName || reservedFields.contains p.localName) = true := by
    simpa using unlisted
  rw [fieldName, if_neg noPlaceholder, if_neg notReserved]

theorem isSafe_fieldName {p : Parameter} (named : p.localName ≠ "") (index : Nat) :
    IsSafe (fieldName index p) := by
  by_cases free : p.localName ∉ avoidedNames
  · rw [fieldName_of_not_mem free]
    exact ⟨named, free⟩
  · rw [fieldName]
    split
    · exact isSafe_placeholder index
    · split
      · exact isSafe_underscored named
      · next noPlaceholder notReserved =>
        have unlisted : p.localName ∉ keywords ++ reservedFields := by simpa using notReserved
        exact absurd (mt List.mem_cons.1 (not_or.2 ⟨noPlaceholder, unlisted⟩)) free

/-! ## All fields -/

section Fields

variable {p : Parameter} {ps : List Parameter}

/-- The field that a parameter gets behind those that are there. -/
def nextField (names : List String) (p : Parameter) : String :=
  freshen names names.length (fieldName names.length p)

theorem addFields_cons (names : List String) (p : Parameter) (ps : List Parameter) :
    addFields names (p :: ps) = addFields (names ++ [nextField names p]) ps := rfl

theorem settles_nextField (names : List String) (p : Parameter) :
    Settles names (fieldName names.length p) (nextField names p) :=
  settles_freshen List.countP_le_length

theorem length_addFields (names : List String) (ps : List Parameter) :
    (addFields names ps).length = names.length + ps.length := by
  induction ps generalizing names with
  | nil => rfl
  | cons p ps ih =>
    rw [addFields_cons, ih, List.length_append, List.length_singleton, List.length_cons]
    omega

theorem prefix_addFields (names : List String) (ps : List Parameter) :
    names <+: addFields names ps := by
  induction ps generalizing names with
  | nil => exact List.prefix_rfl
  | cons p ps ih => exact (List.prefix_append names _).trans (ih _)

theorem nodup_addFields (distinct : names.Nodup) (ps : List Parameter) :
    (addFields names ps).Nodup := by
  induction ps generalizing names with
  | nil => exact distinct
  | cons p ps ih =>
    refine ih (List.nodup_append.2 ⟨distinct, List.nodup_singleton _, ?_⟩)
    rintro name there _ added rfl
    obtain rfl := List.mem_singleton.1 added
    exact (settles_nextField names p).not_mem there

theorem isSafe_of_mem_addFields (safe : ∀ name ∈ names, IsSafe name)
    (named : ∀ p ∈ ps, p.localName ≠ "") (there : field ∈ addFields names ps) : IsSafe field := by
  induction ps generalizing names with
  | nil => exact safe field there
  | cons p ps ih =>
    refine ih (fun name known => ?_) (fun q listed => named q (List.mem_cons_of_mem p listed)) there
    rcases List.mem_append.1 known with before | added
    · exact safe name before
    · obtain rfl := List.mem_singleton.1 added
      have safeName := isSafe_fieldName (named p List.mem_cons_self) names.length
      exact (settles_nextField names p).isSafe safeName

/-- Each parameter gets the field that its name settles to behind the fields before it. -/
theorem exists_settles_addFields (names : List String) {i : Nat} (there : ps[i]? = some p) :
    ∃ field, (addFields names ps)[names.length + i]? = some field ∧
      Settles ((addFields names ps).take (names.length + i)) (fieldName (names.length + i) p)
        field := by
  induction ps generalizing names i with
  | nil => cases there
  | cons q ps ih =>
    rw [addFields_cons]
    cases i with
    | zero =>
      obtain rfl : q = p := Option.some.inj there
      obtain ⟨later, fields⟩ := prefix_addFields (names ++ [nextField names q]) ps
      refine ⟨nextField names q, ?_, ?_⟩
      · rw [← fields, List.append_assoc, Nat.add_zero, List.getElem?_append_right (Nat.le_refl _),
          Nat.sub_self]
        rfl
      · rw [← fields, List.append_assoc, Nat.add_zero, List.take_left]
        exact settles_nextField names q
    | succ i =>
      have found := ih (names ++ [nextField names q]) there
      rwa [List.length_append, List.length_singleton, Nat.add_assoc, Nat.add_comm 1 i] at found

end Fields

/-- Each parameter of a signature has a field, in order. The fields are distinct, and none has a
name to avoid. A field is what the name of its parameter settles to behind the fields before it; a
name that need not be avoided, and that none of these has, is kept. -/
theorem argumentFields_distinct_and_safe {s : Signature}
    (named : ∀ p ∈ s.parameters, p.localName ≠ "") :
    (argumentFields s).length = s.parameters.length ∧ (argumentFields s).Nodup ∧
      (∀ field ∈ argumentFields s, field ∉ avoidedNames) ∧
      ∀ i p, s.parameters[i]? = some p → ∃ field, (argumentFields s)[i]? = some field ∧
        Settles ((argumentFields s).take i) (fieldName i p) field ∧
        (p.localName ∉ avoidedNames → p.localName ∉ (argumentFields s).take i →
          field = p.localName) := by
  refine ⟨?_, nodup_addFields List.nodup_nil _, fun field there => ?_, fun i p there => ?_⟩
  · rw [argumentFields, length_addFields, List.length_nil, Nat.zero_add]
  · exact (isSafe_of_mem_addFields (List.forall_mem_nil _) named there).free
  · obtain ⟨field, found, settles⟩ := exists_settles_addFields [] there
    rw [List.length_nil, Nat.zero_add] at found settles
    refine ⟨field, found, settles, fun free new => ?_⟩
    rw [fieldName_of_not_mem free] at settles
    exact settles.eq_of_not_mem new

/-- Fields that meet a keyword with its underscore, and the field of a placeholder. -/
theorem argumentFields_distinct_and_safe_clashing :
    (∀ p ∈ [⟨"in", none, .named "A" [], false⟩, ⟨"at", some "in_", .named "A" [], false⟩,
        ⟨"_", none, .named "A" [], false⟩, (⟨"_", some "arg2", .named "A" [], true⟩ : Parameter)],
      p.localName ≠ "") ∧
      argumentFields ⟨[⟨"in", none, .named "A" [], false⟩, ⟨"at", some "in_", .named "A" [], false⟩,
        ⟨"_", none, .named "A" [], false⟩, ⟨"_", some "arg2", .named "A" [], true⟩]⟩ =
          ["in_", "in__", "arg2", "arg2_"] ∧
      ["in_", "in__", "arg2", "arg2_"].Nodup := by
  have fields : argumentFields ⟨[⟨"in", none, .named "A" [], false⟩,
      ⟨"at", some "in_", .named "A" [], false⟩, ⟨"_", none, .named "A" [], false⟩,
      ⟨"_", some "arg2", .named "A" [], true⟩]⟩ = ["in_", "in__", "arg2", "arg2_"] := by
    decide +kernel
  have named : ∀ p ∈ [⟨"in", none, .named "A" [], false⟩, ⟨"at", some "in_", .named "A" [], false⟩,
      ⟨"_", none, .named "A" [], false⟩, (⟨"_", some "arg2", .named "A" [], true⟩ : Parameter)],
      p.localName ≠ "" := by
    decide
  have distinct := (argumentFields_distinct_and_safe (s := ⟨_⟩) named).2.1
  rw [fields] at distinct
  exact ⟨named, fields, distinct⟩

end ViewModifiers.Emit
