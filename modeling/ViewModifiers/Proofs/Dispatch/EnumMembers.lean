import ViewModifiers.Proofs.Dispatch.Precedence
import ViewModifiers.Proofs.Dispatch.Unavailable
import ViewModifiers.Proofs.Emit.MemberNames

/-!
# Types whose cases are told apart

A type can be read on a target that has it if its class can be built, that is, if no two of its
cases share a member. This asks for more than cases of different names: a case must not be named as
the member of another one, and members are compared by their normal forms, in which different names
outside ASCII may be the same (`enumReader?_of_apart`).
-/

namespace ViewModifiers.Dispatch

open Catalog Config Emit Stylesheet Text

variable {t : Target} {e : Enumeration} {c : EnumerationCase}
  {cases : NameTable (Except Failure Value)} {reader : Reader Value}

/-! ## Members -/

/-- No case of a type is named as the member of another one. -/
def KeepsApart (e : Enumeration) : Prop :=
  ∀ c ∈ e.cases, ∀ k ∈ e.cases, k.name = enumMember c.name → k.name = c.name

/-- The members of the class of a type, as they are written. -/
def members (e : Enumeration) : List String := e.cases.map fun c => enumMember c.name

theorem members_classOf (e : Enumeration) : (classOf e).members = (members e).map normalForm := by
  rw [members, List.map_map]
  rfl

/-- The cases of a type have members of their own in its class, and none takes the name that the
class needs. -/
structure TellsApart (e : Enumeration) : Prop where
  distinct : (classOf e).members.Nodup
  free : classOrder ∉ (classOf e).members

theorem nodup_members_iff_keepsApart (distinct : (e.cases.map (·.name)).Nodup) :
    (members e).Nodup ↔ KeepsApart e := by
  have mapped : members e = (e.cases.map (·.name)).map enumMember := by
    unfold members
    rw [List.map_map]
    rfl
  rw [mapped, nodup_members_iff distinct]
  unfold KeepsApart
  simp only [List.forall_mem_map]

theorem safe_of_mem_members {member : String} (there : member ∈ members e) :
    member ∉ keywords ∧ member ∉ reservedMembers ∧ member.toList.head? ≠ some '_' := by
  obtain ⟨c, -, rfl⟩ := List.mem_map.1 there
  have plain := not_isAltered_enumMember c.name
  unfold IsAltered reservedNames at plain
  rw [not_or, List.mem_append, not_or] at plain
  exact ⟨plain.2.1, plain.2.2, plain.1⟩

theorem TellsApart.nodup_members (apart : TellsApart e) : (members e).Nodup :=
  .of_map normalForm (members_classOf e ▸ apart.distinct)

/-- Members in ASCII are their own normal forms. -/
theorem tellsApart_of_isAscii (plain : ∀ c ∈ e.cases, isAscii c.name = true)
    (distinct : (members e).Nodup) : TellsApart e := by
  have same : (classOf e).members = members e :=
    List.map_congr_left fun c isCase => normalForm_of_isAscii (isAscii_enumMember (plain c isCase))
  refine ⟨same ▸ distinct, fun taken => ?_⟩
  rw [same] at taken
  exact (safe_of_mem_members taken).2.1 (by decide)

/-! ## Classes -/

/-- A class in which two cases share a member, or one takes the name that it needs, cannot be
built. -/
theorem exists_error_of_not_tellsApart (present : existsOn t e = true) (shared : ¬TellsApart e) :
    ∃ cause, enumReader? t e cases = .error cause := by
  unfold enumReader?
  rw [present]
  cases again : repeated? (classOf e).members with
  | some member => exact ⟨_, rfl⟩
  | none =>
    have taken : (classOf e).members.contains classOrder = true := by
      by_contra free
      exact shared ⟨repeated?_eq_none_iff.1 again, mt List.contains_iff_mem.2 free⟩
    exact ⟨.reservedMember (enumClass e.name), if_pos taken⟩

/-- A case that the target offers is read by its name, and its value keeps the name. -/
theorem run'_offered (built : targetCases t e = .ok cases)
    (registered : enumReader? t e cases = .ok (some reader)) (isCase : c ∈ e.cases)
    (offered : e.needsGuard c = true → PassesGuard t c) {start stop : Cursor}
    (here : AtMember c.name start stop) :
    reader.run' start = (.ok (.enumCase (classOf e) c.name), stop) := by
  obtain ⟨outcome, made, run⟩ := run'_enumReader built registered isCase here
  have given : targetCase t e c = .ok (.ok (caseValue e c)) := targetCase_eq_ok_iff.2 ⟨rfl, offered⟩
  rw [given] at made
  cases made
  exact run

/-- In a module that can be used the class of a type and its members are names. -/
theorem isName_of_faultless {catalog : Catalog} {config : Configuration} {name : String}
    (faultless : moduleFault? catalog config t = none) (required : e ∈ catalog.enums)
    (bound : name ∈ enumNames e) : isName name = true := by
  obtain ⟨names, -⟩ := Option.or_eq_none_iff.1 faultless
  have all := List.find?_eq_none.1 (Option.map_eq_none_iff.1 names) name
    (List.mem_append_right _ (List.mem_flatMap.2 ⟨e, required, bound⟩))
  simpa using all

/-- In a module that can be used no two types of the target have one class. -/
theorem nodup_classes {catalog : Catalog} {config : Configuration}
    (faultless : moduleFault? catalog config t = none) :
    ((enumsOn t catalog.enums).map fun f => normalForm (classOf f).name).Nodup := by
  obtain ⟨-, later⟩ := Option.or_eq_none_iff.1 faultless
  obtain ⟨-, later⟩ := Option.or_eq_none_iff.1 later
  obtain ⟨-, later⟩ := Option.or_eq_none_iff.1 later
  obtain ⟨shared, -⟩ := Option.or_eq_none_iff.1 later
  exact repeated?_eq_none_iff.1 (Option.or_eq_none_iff.1 (Option.map_eq_none_iff.1 shared)).2

/-- What becomes of the cases of a type as members of its class. -/
structure MakesMembers (e : Enumeration) : Prop where
  /-- No member is a keyword or reserved, and none starts with an underscore. -/
  safe : ∀ member ∈ members e,
    member ∉ keywords ∧ member ∉ reservedMembers ∧ member.toList.head? ≠ some '_'
  identifiers : ∀ c ∈ e.cases, isIdentifier c.name = true → isIdentifier (enumMember c.name) = true
  distinct_iff : (members e).Nodup ↔ KeepsApart e
  /-- A class with members of their own has members that are written differently, and for names in
  ASCII this is enough. -/
  keepsApart : TellsApart e → KeepsApart e
  tellsApart : (∀ c ∈ e.cases, isAscii c.name = true) → KeepsApart e → TellsApart e
  /-- With members of their own and names that the generated language has, each case that the target
  offers is read as the value with its name. -/
  read : ∀ t cases, targetCases t e = .ok cases → existsOn t e = true →
    isName (enumClass e.name) = true → (∀ c ∈ e.cases, isIdentifier c.name = true) →
    TellsApart e → ∃ reader, enumReader? t e cases = .ok (some reader) ∧
      ∀ c ∈ e.cases, (e.needsGuard c = true → PassesGuard t c) →
        ∀ start stop, AtMember c.name start stop →
          reader.run' start = (.ok (.enumCase (classOf e) c.name), stop)
  refused : ∀ t cases, targetCases t e = .ok cases → existsOn t e = true → ¬TellsApart e →
    ∃ cause, enumReader? t e cases = .error cause

end ViewModifiers.Dispatch
