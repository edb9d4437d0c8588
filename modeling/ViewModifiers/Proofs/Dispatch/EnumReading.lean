import Mathlib.Data.List.Nodup
import ViewModifiers.Proofs.Dispatch.GuardedCase
import ViewModifiers.Proofs.Stylesheet.Member
import ViewModifiers.Proofs.Stylesheet.Results

/-!
# Reading enumerated values on a target

A type that a target has is read by a table with an entry for each of its cases. A case whose
constraint agrees with the one of its type is entered without a guard. The guard would have asked
for the versions that are listed as well, which the type itself does not
(`run'_unguarded`): it would have refused the case on earlier versions of a listed platform.
-/

namespace ViewModifiers.Dispatch

open Catalog Emit Interface Stylesheet Text

variable {t : Target} {e : Enumeration} {c : EnumerationCase}
  {cases : NameTable (Except Failure Value)} {reader : Reader Value}

/-! ## The table of a type -/

theorem repeated?_eq_none_iff {ns : List String} : repeated? ns = none ↔ ns.Nodup := by
  induction ns with
  | nil => exact iff_of_true rfl List.nodup_nil
  | cons n ns ih =>
    rw [repeated?, List.nodup_cons, ← ih]
    by_cases again : n ∈ ns
    · rw [if_pos (by simpa using again)]
      exact iff_of_false nofun fun h => h.1 again
    · rw [if_neg (by simpa using again)]
      exact ⟨fun h => ⟨again, h⟩, And.right⟩

/-- A table has an entry for each case, in order. -/
theorem exists_entries (built : targetCases t e = .ok cases) :
    ∃ entries, cases = NameTable.ofList entries ∧
      List.Forall₂ (fun c entry => entry.1 = c.name ∧ targetCase t e c = .ok entry.2)
        e.cases entries := by
  rcases computed : e.cases.mapM (fun c => do return (c.name, ← targetCase t e c)) with
    cause | entries
  · rw [targetCases, computed] at built
    cases built
  · rw [targetCases, computed] at built
    cases built
    exact ⟨entries, rfl, (mapM_eq_ok_iff.1 computed).imp fun _ _ => named_eq_ok_iff.1⟩

/-- Under the name of a case stands what the target makes of it. -/
theorem get?_targetCases (built : targetCases t e = .ok cases)
    (distinct : (e.cases.map (·.name)).Nodup) (isCase : c ∈ e.cases) :
    ∃ outcome, targetCase t e c = .ok outcome ∧
      NameTable.get? cases c.name = some outcome := by
  obtain ⟨entries, rfl, each⟩ := exists_entries built
  have names : NameTable.names entries = e.cases.map (·.name) := map_eq_map each fun _ _ h => h.1
  obtain ⟨⟨name, outcome⟩, listed, rfl, made⟩ := exists_mem_right each isCase
  refine ⟨outcome, made, ?_⟩
  rw [NameTable.ofList_of_nodup (names ▸ distinct)]
  exact NameTable.get?_of_mem (names ▸ distinct) listed

/-- A type has a reader where its platforms include the target's, if its cases make members of their
own and none of them takes the name that the class needs. -/
theorem enumReader?_eq_some_iff : enumReader? t e cases = .ok (some reader) ↔
    existsOn t e = true ∧ (classOf e).members.Nodup ∧ classOrder ∉ (classOf e).members ∧
      reader = Reader.member cases := by
  rw [enumReader?]
  cases existsOn t e with
  | false => exact iff_of_false nofun fun h => Bool.false_ne_true h.1
  | true =>
    rw [← repeated?_eq_none_iff]
    cases repeated? (classOf e).members with
    | some name => exact iff_of_false nofun fun h => nomatch h.2.1
    | none =>
      by_cases reserved : classOrder ∈ (classOf e).members
      · simp [reserved]
      · simp [reserved, eq_comm]

theorem nodup_caseNames (registered : enumReader? t e cases = .ok (some reader)) :
    (e.cases.map (·.name)).Nodup := by
  have members := (enumReader?_eq_some_iff.1 registered).2.1
  refine List.Nodup.of_map (fun name => normalForm (enumMember name)) ?_
  rwa [List.map_map]

/-- Of a single type the reader is entered if the target has the type. -/
theorem enumReaders_singleton {made : Option (Reader Value)}
    (built : targetCases t e = .ok cases) (makes : enumReader? t e cases = .ok made) :
    enumReaders t [e] = .ok (made.toList.map fun reader => (e.name, reader)) := by
  have tables : [e].mapM (targetCases t) = .ok [cases] := mapM_eq_ok_iff.2 (.cons built .nil)
  have pairs : ([e].zip [cases]).mapM (fun p => do return (p.1.name, ← enumReader? t p.1 p.2)) =
      (.ok [(e.name, made)] : Except EnumError _) :=
    mapM_eq_ok_iff.2 (.cons (named_eq_ok_iff.2 ⟨rfl, makes⟩) .nil)
  rw [enumReaders, List.mergeSort_singleton, tables]
  refine bind_eq_ok_iff.2 ⟨_, rfl, bind_eq_ok_iff.2 ⟨_, pairs, ?_⟩⟩
  cases made <;> rfl

/-- **Reading a case of a type**: where a type has a reader, what the target makes of a case is what
is read for it. -/
theorem run'_enumReader (built : targetCases t e = .ok cases)
    (registered : enumReader? t e cases = .ok (some reader)) (isCase : c ∈ e.cases)
    {start stop : Cursor} (here : AtMember c.name start stop) :
    ∃ outcome, targetCase t e c = .ok outcome ∧
      reader.run' start = (outcome, if outcome.toBool then stop else start) := by
  obtain ⟨outcome, made, found⟩ := get?_targetCases built (nodup_caseNames registered) isCase
  refine ⟨outcome, made, ?_⟩
  rw [(enumReader?_eq_some_iff.1 registered).2.2.2]
  exact Reader.run'_member here found

/-- A type with cases of some names, all of them offered everywhere. -/
def openType (name : String) (names : List String) : Enumeration :=
  ⟨name, names.map fun name => ⟨name, .always⟩, .always⟩

/-- The table of such a type. -/
def openTable (name : String) (names : List String) : NameTable (Except Failure Value) :=
  NameTable.ofList
    (names.map fun case_ => (case_, .ok (.enumCase (classOf (openType name names)) case_)))

theorem targetCases_openType (t : Target) (name : String) (names : List String) :
    targetCases t (openType name names) = .ok (openTable name names) := by
  have entries : (openType name names).cases.mapM
      (fun c => do return (c.name, ← targetCase t (openType name names) c)) =
      (.ok (names.map fun case_ =>
        (case_, .ok (.enumCase (classOf (openType name names)) case_))) :
        Except EmissionError _) := by
    apply mapM_eq_ok_iff.2
    change List.Forall₂ _ (names.map _) _
    rw [List.forall₂_map_left_iff, List.forall₂_map_right_iff, List.forall₂_same]
    intro case_ _
    rfl
  unfold targetCases
  rw [entries]
  rfl

/-! ## Cases without a guard -/

/-- A case that agrees with its type is offered wherever the type has a reader. -/
theorem offered_of_agreesWith (present : existsOn t e = true)
    (some : c.availability.isEmpty = false)
    (agrees : c.availability.agreesWith e.availability = true)
    (kept : c.availability.unavailable = .empty) (typeKept : e.availability.unavailable = .empty) :
    t.platform ∈ c.availability.offeredPlatforms := by
  have offered {platform : String} (listed : platform ∈ e.availability.platforms.map (·.platform)) :
      platform ∈ e.availability.offeredPlatforms :=
    Availability.mem_offeredPlatforms.2 ⟨listed, typeKept ▸ NameSet.not_mem_empty platform⟩
  have backwards : e.availability.agreesWith c.availability = true :=
    Availability.agreesWith_comm.trans agrees
  obtain ⟨p, ps, platforms⟩ := List.exists_cons_of_ne_nil (List.isEmpty_eq_false_iff.1 some)
  have listed := Availability.mem_platforms_of_agreesWith agrees
    (List.mem_map.2 ⟨p, platforms ▸ List.mem_cons_self, rfl⟩)
  have nonempty : e.availability.offeredPlatforms.isEmpty = false :=
    List.isEmpty_eq_false_iff.2 (List.ne_nil_of_mem (offered listed))
  rw [existsOn, nonempty, Bool.false_or, List.contains_iff_mem] at present
  have onType := (Availability.mem_offeredPlatforms.1 present).1
  exact Availability.mem_offeredPlatforms.2
    ⟨Availability.mem_platforms_of_agreesWith backwards onType,
      kept ▸ NameSet.not_mem_empty t.platform⟩

theorem targetCase_of_agreesWith (agrees : c.availability.agreesWith e.availability = true) :
    targetCase t e c = .ok (.ok (caseValue e c)) := by
  rw [targetCase, Enumeration.needsGuard, agrees]
  cases c.availability.isEmpty <;> rfl

/-- An entry that is put under a name is what is read for it. -/
theorem run'_put {name : String} {start stop : Cursor} (here : AtMember name start stop)
    (outcome : Except Failure Value) :
    (Reader.member (NameTable.put cases name outcome)).run' start =
      (outcome, if outcome.toBool then stop else start) :=
  Reader.run'_member here (by rw [NameTable.get?_put, if_pos rfl])

/-- A target meets what a case needs if it meets the lowest version that is listed for its
platform. -/
theorem exists_caseRequirements {versions : NameTable (List Nat)}
    (listed : requirements c.availability = .ok versions)
    (offered : t.platform ∈ c.availability.offeredPlatforms) :
    ∃ needed, caseRequirements c = .ok needed ∧
      t.meets needed = (minimumVersion? versions t.platform).all fun v =>
        t.version.atLeast (v.map Int.ofNat) := by
  refine ⟨_, by rw [caseRequirements, listed]; rfl, ?_⟩
  rw [Target.meets, NameTable.get?_map_name, if_pos offered]
  cases minimumVersion? versions t.platform <;> rfl

/-- **A case without a guard is always there**: a case whose constraint agrees with the one of its
type is given on every target of the type. Its guard would have given it from the lowest version on
that is listed for the platform, and would have refused it before. -/
theorem run'_unguarded (built : targetCases t e = .ok cases)
    (registered : enumReader? t e cases = .ok (some reader)) (isCase : c ∈ e.cases)
    (some : c.availability.isEmpty = false)
    (agrees : c.availability.agreesWith e.availability = true)
    (kept : c.availability.unavailable = .empty) (typeKept : e.availability.unavailable = .empty)
    {versions : NameTable (List Nat)} (listed : requirements c.availability = .ok versions)
    {start stop : Cursor} (here : AtMember c.name start stop) :
    reader.run' start = (.ok (caseValue e c), stop) ∧
      ∃ needed, caseRequirements c = .ok needed ∧
        (Reader.member (NameTable.put cases c.name (guardedCase t e c needed))).run' start =
          if (minimumVersion? versions t.platform).all fun v => t.version.atLeast (v.map Int.ofNat)
          then (.ok (caseValue e c), stop)
          else (.error (.unavailable (.inVersion c.name)), start) := by
  have present := (enumReader?_eq_some_iff.1 registered).1
  have offered := offered_of_agreesWith present some agrees kept typeKept
  constructor
  · obtain ⟨outcome, made, run⟩ := run'_enumReader built registered isCase here
    rw [targetCase_of_agreesWith agrees] at made
    cases made
    exact run
  · obtain ⟨needed, required, meets⟩ := exists_caseRequirements listed offered
    refine ⟨needed, required, ?_⟩
    rw [run'_put here, guardedCase_of_mem offered, ← meets]
    cases t.meets needed <;> rfl

/-- A case of iOS 15 in a type of iOS 15. -/
def laterCase : EnumerationCase := ⟨"wide", ⟨[⟨"iOS", some "15.0"⟩], .empty, false, none, none⟩⟩

/-- The type of the case. -/
def laterType : Enumeration := ⟨"Badge", [laterCase], laterCase.availability⟩

theorem targetCases_laterType (t : Target) :
    targetCases t laterType = .ok [("wide", .ok (caseValue laterType laterCase))] := by
  have made : targetCase t laterType laterCase = .ok (.ok (caseValue laterType laterCase)) :=
    targetCase_of_agreesWith (beq_self_eq_true _)
  have entries : laterType.cases.mapM (fun c => do return (c.name, ← targetCase t laterType c)) =
      (.ok [("wide", .ok (caseValue laterType laterCase))] : Except EmissionError _) :=
    mapM_eq_ok_iff.2 (.cons (named_eq_ok_iff.2 ⟨rfl, made⟩) .nil)
  rw [targetCases, entries]
  rfl

theorem enumReader?_laterType (cases : NameTable (Except Failure Value)) :
    enumReader? ⟨"iOS", [14]⟩ laterType cases = .ok (some (Reader.member cases)) :=
  enumReader?_eq_some_iff.2 ⟨by decide, List.nodup_singleton _, by decide, rfl⟩

theorem requirements_laterCase : requirements laterCase.availability = .ok [("iOS", [15, 0])] := by
  rfl

theorem atMember_laterCase :
    AtMember laterCase.name ⟨[⟨.atom, "wide", .start⟩], .start⟩ ⟨[], .start⟩ :=
  .atom rfl rfl

/-- On iOS 14 the case is given, which its guard would have refused. -/
theorem run'_unguarded_laterCase : ∃ reader needed,
    enumReader? ⟨"iOS", [14]⟩ laterType [("wide", .ok (caseValue laterType laterCase))] =
      .ok (some reader) ∧
    reader.run' ⟨[⟨.atom, "wide", .start⟩], .start⟩ =
      (.ok (.enumCase ⟨"Badge", ["wide"]⟩ "wide"), ⟨[], .start⟩) ∧
    caseRequirements laterCase = .ok needed ∧
    (Reader.member (NameTable.put [("wide", .ok (caseValue laterType laterCase))] "wide"
      (guardedCase ⟨"iOS", [14]⟩ laterType laterCase needed))).run'
        ⟨[⟨.atom, "wide", .start⟩], .start⟩ =
      (.error (.unavailable (.inVersion "wide")), ⟨[⟨.atom, "wide", .start⟩], .start⟩) := by
  obtain ⟨given, needed, required, refused⟩ := run'_unguarded
    (targetCases_laterType ⟨"iOS", [14]⟩) (enumReader?_laterType _) List.mem_cons_self rfl
    (beq_self_eq_true _) rfl rfl requirements_laterCase atMember_laterCase
  exact ⟨_, needed, enumReader?_laterType _, given, required, refused⟩

/-- A guard is not redundant because the type lists the same versions. -/
theorem not_guard_redundant : ¬∀ (t : Target) (e : Enumeration) (c : EnumerationCase)
    (cases : NameTable (Except Failure Value)) (reader : Reader Value)
    (needed : NameTable (Option Version)) (start stop : Cursor),
    targetCases t e = .ok cases → enumReader? t e cases = .ok (some reader) → c ∈ e.cases →
    c.availability.isEmpty = false → c.availability.agreesWith e.availability = true →
    c.availability.unavailable = .empty → e.availability.unavailable = .empty →
    caseRequirements c = .ok needed → AtMember c.name start stop →
    reader.run' start =
      (Reader.member (NameTable.put cases c.name (guardedCase t e c needed))).run' start := by
  intro claim
  have required : caseRequirements laterCase = .ok [("iOS", some [15])] := rfl
  have same := claim ⟨"iOS", [14]⟩ laterType laterCase _ _ _ _ _
    (targetCases_laterType ⟨"iOS", [14]⟩) (enumReader?_laterType _) List.mem_cons_self rfl
    (beq_self_eq_true _) rfl rfl required atMember_laterCase
  have refusal : guardedCase ⟨"iOS", [14]⟩ laterType laterCase [("iOS", some [15])] =
      .error (.unavailable (.inVersion "wide")) := rfl
  have given : (Reader.member [("wide", .ok (caseValue laterType laterCase))]).run'
      ⟨[⟨.atom, "wide", .start⟩], .start⟩ = (.ok (caseValue laterType laterCase), ⟨[], .start⟩) :=
    Reader.run'_member atMember_laterCase rfl
  rw [given, run'_put atMember_laterCase, refusal] at same
  cases same

end ViewModifiers.Dispatch
