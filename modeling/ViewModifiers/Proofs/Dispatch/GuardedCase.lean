import ViewModifiers.Proofs.Dispatch.VersionOrder
import ViewModifiers.Proofs.Interface.Availability
import ViewModifiers.Proofs.Text.NameTable

/-!
# Cases with a guard

A case with a guard is there on the platforms that its own availability lists and does not take
back, from the version on that is listed (`targetCase_iff`). Versions are compared number by number,
however many numbers either side names. No version with more digits in a row than can be converted
is compared at all (`not_targetCase_iff`).
-/

namespace ViewModifiers.Dispatch

open Catalog Emit Interface Numeral Stylesheet Text

variable {a : Availability}

/-! ## Requirements of a constraint -/

/-- A constraint that lists each platform once, with a version. -/
structure ListsVersions (a : Availability) : Prop where
  distinct : (a.platforms.map (·.platform)).Nodup
  versions : ∀ p ∈ a.platforms, ∃ v, p.version = some v ∧ IsVersionText v

/-- A constraint in which each version can be converted. -/
def ListsShortVersions (a : Availability) : Prop :=
  ∀ p ∈ a.platforms, ∀ v, p.version = some v → IsShortVersion v

/-- Where each item gives a result, none is left out. -/
theorem filterMapM_eq_some_map {α β : Type} {f : α → Option (Option β)} {g : α → β} {xs : List α}
    (gives : ∀ x ∈ xs, f x = some (some (g x))) : xs.filterMapM f = some (xs.map g) := by
  induction xs with
  | nil => rfl
  | cons x xs ih =>
    rw [List.filterMapM_cons, gives x List.mem_cons_self, Option.bind_eq_bind, Option.bind_some,
      ih fun y there => gives y (List.mem_cons_of_mem x there)]
    rfl

/-- The numbers of the listed versions, by their platforms. -/
def listedVersions (a : Availability) : NameTable (List Nat) :=
  a.platforms.map fun p => (p.platform, numbersIn (p.version.getD ""))

theorem ListsVersions.nodup_names (lists : ListsVersions a) : (listedVersions a).names.Nodup := by
  rw [NameTable.names, listedVersions, List.map_map]
  exact lists.distinct

theorem IsVersionText.given_eq {p : PlatformRequirement} {v : String} (version : IsVersionText v)
    (known : p.version = some v) : p.given = some v := by
  rw [PlatformRequirement.given, givenText, known]
  refine Option.filter_eq_some_iff.2 ⟨rfl, decide_eq_true ?_⟩
  rintro rfl
  exact (version [] List.mem_cons_self).1 rfl

theorem lowestVersions?_eq (lists : ListsVersions a) (short : ListsShortVersions a) :
    a.lowestVersions? = some (listedVersions a) := by
  rw [Availability.lowestVersions?,
    filterMapM_eq_some_map (g := fun p => (p.platform, numbersIn (p.version.getD ""))) ?_]
  · exact congrArg some (NameTable.ofList_of_nodup lists.nodup_names)
  · intro p there
    obtain ⟨v, known, version⟩ := lists.versions p there
    rw [version.given_eq known, known]
    simp only [version.numbersOf?_eq (short p there v known)]
    rfl

/-- The lowest version of a listed platform. -/
theorem minimumVersion?_eq (lists : ListsVersions a) {platform v : String}
    (there : ⟨platform, some v⟩ ∈ a.platforms) :
    minimumVersion? (listedVersions a) platform = some (trimmedVersion (numbersIn v)) := by
  have found := NameTable.get?_of_mem lists.nodup_names (List.mem_map.2 ⟨_, there, rfl⟩)
  obtain ⟨n, ns, numbers⟩ := List.exists_cons_of_ne_nil (numbersIn_ne_nil v)
  rw [minimumVersion?, found]
  simp only [Option.getD_some, numbers]

/-! ## What a target makes of a guarded case -/

variable {c : EnumerationCase} {t : Target} {e : Enumeration}
  {needed : NameTable (Option Version)}

/-- A case needs a guard if it lists a platform that its type does not list. -/
theorem needsGuard_of_platform (platform : String)
    (listed : platform ∈ c.availability.platforms.map (·.platform))
    (new : platform ∉ e.availability.platforms.map (·.platform)) : e.needsGuard c = true := by
  have some : c.availability.isEmpty = false := by
    obtain ⟨p, there, -⟩ := List.mem_map.1 listed
    exact List.isEmpty_eq_false_iff.2 (List.ne_nil_of_mem there)
  have differs : c.availability.agreesWith e.availability = false :=
    Bool.eq_false_iff.2 fun agrees => new (Availability.mem_platforms_of_agreesWith agrees listed)
  rw [Enumeration.needsGuard, some, differs]
  rfl

/-- What a case needs of a target. -/
def neededVersions (a : Availability) : NameTable (Option Version) :=
  a.offeredPlatforms.map fun p =>
    (p, (minimumVersion? (listedVersions a) p).map fun v => v.map Int.ofNat)

theorem caseRequirements_eq (lists : ListsVersions c.availability)
    (short : ListsShortVersions c.availability) :
    caseRequirements c = .ok (neededVersions c.availability) := by
  rw [caseRequirements, requirements, lowestVersions?_eq lists short]
  rfl

/-- A case with a version that cannot be converted has no known requirements. -/
theorem caseRequirements_of_unreadable {p : PlatformRequirement} {v : String}
    (only : c.availability.platforms = [p]) (version : IsVersionText v) (known : p.version = some v)
    (unreadable : PlatformRequirement.numbersOf? v = none) :
    caseRequirements c = .error (.unreadableVersion c.availability.text) := by
  have unknown : c.availability.lowestVersions? = none := by
    rw [Availability.lowestVersions?, only, List.filterMapM_cons, version.given_eq known]
    simp only [unreadable]
    rfl
  rw [caseRequirements, requirements, unknown]
  rfl

/-- On a platform that is offered the listed version is what is needed. -/
theorem meets_neededVersions (lists : ListsVersions a) {platform v : String} {numbers : List Nat}
    (offered : platform ∈ a.offeredPlatforms) (there : ⟨platform, some v⟩ ∈ a.platforms)
    (nonzero : ∃ n ∈ numbers, n ≠ 0) :
    Target.meets ⟨platform, (withoutZeros numbers).map Int.ofNat⟩ (neededVersions a) = true ↔
      IsAtLeast numbers (numbersIn v) := by
  obtain ⟨n, within, positive⟩ := nonzero
  obtain ⟨m, ms, parts⟩ := List.exists_cons_of_ne_nil (numbersIn_ne_nil v)
  have same : IsAtLeast (withoutZeros numbers) (numbersIn v) ↔ IsAtLeast numbers (numbersIn v) :=
    IsAtLeast.congr (part_withoutZeros numbers) fun _ => rfl
  rw [Target.meets, neededVersions, NameTable.get?_map_name, if_pos offered,
    minimumVersion?_eq lists there, ← same, parts]
  exact atLeast_trimmedVersion (withoutZeros_ne_nil within positive) m ms

theorem guardedCase_of_not_mem (elsewhere : t.platform ∉ c.availability.offeredPlatforms) :
    guardedCase t e c needed = .error (.unavailable (.onPlatform c.name)) := by
  rw [guardedCase, if_pos (by simpa using elsewhere)]

theorem guardedCase_of_mem (offered : t.platform ∈ c.availability.offeredPlatforms) :
    guardedCase t e c needed =
      if t.meets needed then .ok (caseValue e c)
      else .error (.unavailable (.inVersion c.name)) := by
  rw [guardedCase, if_neg (by simpa using offered)]
  cases t.meets needed <;> rfl

/-- **A guarded case is there from its listed version on**, on the platforms that are listed and not
taken back: for a target with a version that is not zero, the case is given exactly where the
numbers of that version are at least the listed ones, missing numbers counting as zero. Elsewhere it
is refused, because of the platform or because of the version. -/
theorem targetCase_iff (e : Enumeration) (c : EnumerationCase) (guarded : e.needsGuard c = true)
    (lists : ListsVersions c.availability) (short : ListsShortVersions c.availability)
    (platform text : String) (version : IsVersionText text) (shortText : IsShortVersion text)
    (nonzero : ∃ n ∈ numbersIn text, n ≠ 0) :
    ∃ t outcome, Target.read? platform text = some t ∧ targetCase t e c = .ok outcome ∧
      (outcome = .ok (caseValue e c) ↔
        ∃ v, ⟨platform, some v⟩ ∈ c.availability.platforms ∧
          platform ∉ c.availability.unavailable ∧ IsAtLeast (numbersIn text) (numbersIn v)) ∧
      (outcome = .error (.unavailable (.onPlatform c.name)) ↔
        ¬∃ v, ⟨platform, some v⟩ ∈ c.availability.platforms ∧
          platform ∉ c.availability.unavailable) ∧
      (outcome = .error (.unavailable (.inVersion c.name)) ↔
        ∃ v, ⟨platform, some v⟩ ∈ c.availability.platforms ∧
          platform ∉ c.availability.unavailable ∧ ¬IsAtLeast (numbersIn text) (numbersIn v)) ∧
      (Failure.unavailable (.onPlatform c.name)).text =
        "'" ++ c.name ++ "' is not available on this OS" ∧
      (Failure.unavailable (.inVersion c.name)).text =
        "'" ++ c.name ++ "' is not available in this OS version" := by
  have offered_iff : platform ∈ c.availability.offeredPlatforms ↔
      ∃ v, ⟨platform, some v⟩ ∈ c.availability.platforms ∧
        platform ∉ c.availability.unavailable := by
    rw [Availability.mem_offeredPlatforms, List.mem_map]
    constructor
    · rintro ⟨⟨p, there, rfl⟩, kept⟩
      obtain ⟨v, known, -⟩ := lists.versions p there
      exact ⟨v, known ▸ there, kept⟩
    · rintro ⟨v, there, kept⟩
      exact ⟨⟨_, there, rfl⟩, kept⟩
  refine ⟨⟨platform, (withoutZeros (numbersIn text)).map Int.ofNat⟩,
    guardedCase ⟨platform, (withoutZeros (numbersIn text)).map Int.ofNat⟩ e c
      (neededVersions c.availability), ?_, ?_, ?_⟩
  · rw [Target.read?, version.read?_eq shortText]
    rfl
  · rw [targetCase, if_pos guarded, caseRequirements_eq lists short]
    rfl
  by_cases offered : platform ∈ c.availability.offeredPlatforms
  · have meets {v : String} (there : ⟨platform, some v⟩ ∈ c.availability.platforms) :=
      meets_neededVersions lists offered there nonzero
    obtain ⟨v, there, kept⟩ := offered_iff.1 offered
    rw [guardedCase_of_mem offered]
    by_cases reached : IsAtLeast (numbersIn text) (numbersIn v)
    · rw [if_pos ((meets there).2 reached)]
      refine ⟨iff_of_true rfl ⟨v, there, kept, reached⟩, iff_of_false nofun ?_,
        iff_of_false nofun ?_, rfl, rfl⟩
      · exact not_not_intro ⟨v, there, kept⟩
      · rintro ⟨w, listed, -, missed⟩
        exact missed ((meets listed).1 ((meets there).2 reached))
    · rw [if_neg fun met => reached ((meets there).1 met)]
      refine ⟨iff_of_false nofun ?_, iff_of_false nofun ?_,
        iff_of_true rfl ⟨v, there, kept, reached⟩, rfl, rfl⟩
      · rintro ⟨w, listed, -, later⟩
        exact reached ((meets there).1 ((meets listed).2 later))
      · exact not_not_intro ⟨v, there, kept⟩
  · rw [guardedCase_of_not_mem offered]
    refine ⟨iff_of_false nofun ?_, iff_of_true rfl (offered_iff.not.1 offered),
      iff_of_false nofun ?_, rfl, rfl⟩
    · rintro ⟨v, there, kept, -⟩
      exact offered (offered_iff.2 ⟨v, there, kept⟩)
    · rintro ⟨v, there, kept, -⟩
      exact offered (offered_iff.2 ⟨v, there, kept⟩)

/-- A case of iOS 13.4.0 that macOS has taken back. -/
def wideCase : EnumerationCase :=
  ⟨"wide",
    ⟨[⟨"iOS", some "13.4.0"⟩, ⟨"macOS", some "10.15"⟩], .ofList ["macOS"], false, none, none⟩⟩

theorem listsVersions_wideCase : ListsVersions wideCase.availability ∧
    ListsShortVersions wideCase.availability := by
  refine ⟨⟨by decide, fun p there => ?_⟩, fun p there v known => ?_⟩
  · simp only [wideCase, List.mem_cons, List.not_mem_nil, or_false] at there
    rcases there with rfl | rfl
    · exact ⟨"13.4.0", rfl, by decide⟩
    · exact ⟨"10.15", rfl, by decide⟩
  · simp only [wideCase, List.mem_cons, List.not_mem_nil, or_false] at there
    rcases there with rfl | rfl <;> cases known <;> decide

/-- Version 13.10 is later than version 13.4.0. -/
theorem targetCase_wideCase : ∃ t outcome, Target.read? "iOS" "13.10" = some t ∧
    targetCase t ⟨"Badge", [wideCase], .always⟩ wideCase = .ok outcome ∧
    outcome = .ok (.enumCase ⟨"Badge", ["wide"]⟩ "wide") := by
  have guarded : (Enumeration.mk "Badge" [wideCase] .always).needsGuard wideCase = true :=
    needsGuard_of_platform "iOS" (by decide) (by decide)
  obtain ⟨t, outcome, target, built, given, -⟩ := targetCase_iff _ wideCase guarded
    listsVersions_wideCase.1 listsVersions_wideCase.2 "iOS" "13.10" (by decide) (by decide)
    (by decide)
  exact ⟨t, outcome, target, built, given.2 ⟨"13.4.0", by decide, by decide, by decide⟩⟩

/-- A version with one digit more than can be converted. -/
def longVersion : String := String.ofList (List.replicate (digitLimit + 1) '1')

theorem pieces_longVersion :
    pieces '.' longVersion.toList = [List.replicate (digitLimit + 1) '1'] := by
  rw [longVersion, String.toList_ofList]
  refine pieces_of_not_mem fun there => ?_
  exact absurd (List.eq_of_mem_replicate there) (by decide)

theorem isVersionText_longVersion : IsVersionText longVersion := by
  intro piece there
  rw [pieces_longVersion, List.mem_singleton] at there
  subst there
  refine ⟨List.cons_ne_nil _ _, fun c within => ?_⟩
  rw [List.eq_of_mem_replicate within]
  decide

theorem numbersOf?_longVersion : PlatformRequirement.numbersOf? longVersion = none := by
  have digits := (isVersionText_longVersion _ (pieces_longVersion ▸ List.mem_cons_self)).2
  have tooLong : readNatural? (List.replicate (digitLimit + 1) '1') = none := by
    rw [readNatural?_of_digits digits (List.cons_ne_nil _ _), List.length_replicate,
      if_neg (Nat.not_succ_le_self _)]
  have allDigits : (List.replicate (digitLimit + 1) '1').all isDigit = true :=
    List.all_eq_true.2 fun c within => isDigit_of_bounds (digits c within)
  have notEmpty : (List.replicate (digitLimit + 1) '1').isEmpty = false := rfl
  rw [PlatformRequirement.numbersOf?, pieces_longVersion, List.filter_cons, notEmpty, allDigits]
  simp [tooLong]

/-- Not every listed version is compared: one with more digits in a row than can be converted is
not. -/
theorem not_targetCase_iff : ¬∀ (e : Enumeration) (c : EnumerationCase), e.needsGuard c = true →
    ListsVersions c.availability → ∀ platform text, IsVersionText text →
    (∃ n ∈ numbersIn text, n ≠ 0) →
    ∃ t outcome, Target.read? platform text = some t ∧ targetCase t e c = .ok outcome := by
  intro claim
  have lists : ListsVersions ⟨[⟨"iOS", some longVersion⟩], .empty, false, none, none⟩ := by
    refine ⟨List.pairwise_singleton _ _, fun p there => ?_⟩
    rw [List.mem_singleton.1 there]
    exact ⟨longVersion, rfl, isVersionText_longVersion⟩
  have guarded := needsGuard_of_platform "iOS" (e := ⟨"Badge", [], .always⟩)
    (c := ⟨"wide", ⟨[⟨"iOS", some longVersion⟩], .empty, false, none, none⟩⟩)
    List.mem_cons_self List.not_mem_nil
  obtain ⟨t, outcome, -, built⟩ := claim _ _ guarded lists "iOS" "1" (by decide) (by decide)
  rw [targetCase, if_pos guarded,
    caseRequirements_of_unreadable rfl isVersionText_longVersion rfl numbersOf?_longVersion]
    at built
  cases built

end ViewModifiers.Dispatch
