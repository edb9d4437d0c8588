import ViewModifiers.Proofs.Catalog.Enumeration
import ViewModifiers.Proofs.Dispatch.EnumReading
import ViewModifiers.Proofs.Stylesheet.EnumValues

/-!
# Types and cases that are taken back

An interface may take a type or a case back on a platform. A type that is taken back has no reader
there if it still offers another platform, and a case with a guard is refused there
(`isRead_of_unavailable`). A case without a guard is there wherever its type is, and so is a type
that is left with no platform.
-/

namespace ViewModifiers.Dispatch

open Catalog Config Emit Interface Stylesheet Stylesheet.Registry Reader Text

variable {t : Target} {e : Enumeration} {k : EnumerationCase} {enums : List Enumeration}
  {readers : NameTable (Reader Value)} {reader : Reader Value} {name : String}

/-! ## The readers of a target -/

/-- What a target makes of a type: its reader, if the target has the type. -/
def Makes (t : Target) (e : Enumeration) (made : Option (Reader Value)) : Prop :=
  ∃ cases, targetCases t e = .ok cases ∧ enumReader? t e cases = .ok made

/-- Every type is entered under its name, unless the target does not have it. -/
theorem exists_made (built : enumReaders t enums = .ok readers) :
    ∃ pairs : List (String × Option (Reader Value)),
      List.Forall₂ (fun e pair => pair.1 = e.name ∧ Makes t e pair.2)
        (enums.mergeSort enumLe) pairs ∧
      readers = pairs.filterMap fun (name, made) => made.map fun r => (name, r) := by
  obtain ⟨tables, eachTable, built⟩ := bind_eq_ok_iff.1 built
  obtain ⟨pairs, eachPair, built⟩ := bind_eq_ok_iff.1 built
  cases built
  refine ⟨pairs, ?_, rfl⟩
  have perType := mapM_eq_ok_iff.1 (mapError_eq_ok_iff.1 eachTable)
  refine (forall₂_zip perType (mapM_eq_ok_iff.1 eachPair)).imp fun e pair made => ?_
  obtain ⟨cases, table, entered⟩ := made
  obtain ⟨named, made⟩ := named_eq_ok_iff.1 entered
  exact ⟨named, cases, table, made⟩

theorem exists_of_mem_enumReaders (built : enumReaders t enums = .ok readers)
    (there : (name, reader) ∈ readers) :
    ∃ e ∈ enums, e.name = name ∧ Makes t e (some reader) := by
  obtain ⟨pairs, each, rfl⟩ := exists_made built
  obtain ⟨⟨key, made⟩, listed, entered⟩ := List.mem_filterMap.1 there
  obtain ⟨r, rfl, same⟩ := Option.map_eq_some_iff.1 entered
  cases same
  obtain ⟨e, sorted, rfl, makes⟩ := exists_mem_left each listed
  exact ⟨e, List.mem_mergeSort.1 sorted, rfl, makes⟩

theorem exists_makes (built : enumReaders t enums = .ok readers) (there : e ∈ enums) :
    ∃ made, Makes t e made ∧ ∀ reader ∈ made, (e.name, reader) ∈ readers := by
  obtain ⟨pairs, each, rfl⟩ := exists_made built
  obtain ⟨⟨key, made⟩, listed, rfl, makes⟩ := exists_mem_right each (List.mem_mergeSort.2 there)
  refine ⟨made, makes, fun reader is => List.mem_filterMap.2 ⟨(e.name, made), listed, ?_⟩⟩
  rw [Option.mem_def.1 is]
  rfl

theorem Makes.unique {made made' : Option (Reader Value)} (makes : Makes t e made)
    (makes' : Makes t e made') : made = made' := by
  obtain ⟨cases, table, reads⟩ := makes
  obtain ⟨cases', table', reads'⟩ := makes'
  rw [table] at table'
  cases table'
  rw [reads] at reads'
  cases reads'
  rfl

/-- A target that has a type has a reader for it. -/
theorem exists_makes_of_existsOn (built : enumReaders t enums = .ok readers) (there : e ∈ enums)
    (present : existsOn t e = true) : ∃ reader, Makes t e (some reader) := by
  obtain ⟨made, ⟨cases, table, reads⟩, -⟩ := exists_makes built there
  cases made with
  | some reader => exact ⟨reader, cases, table, reads⟩
  | none =>
    rw [enumReader?, present] at reads
    split at reads
    · contradiction
    · split at reads
      · cases reads
      · split at reads <;> cases reads

/-- Whether a target meets the guard of a case. -/
def PassesGuard (t : Target) (k : EnumerationCase) : Prop :=
  t.platform ∈ k.availability.offeredPlatforms ∧
    ∃ needed, caseRequirements k = .ok needed ∧ t.meets needed = true

/-- A target gives nothing for a case but its value, and that unless a guard refuses it. -/
theorem targetCase_eq_ok_iff {v : Value} : targetCase t e k = .ok (.ok v) ↔
    v = caseValue e k ∧ (e.needsGuard k = true → PassesGuard t k) := by
  rw [targetCase]
  cases guarded : e.needsGuard k with
  | false =>
    rw [if_neg Bool.false_ne_true]
    refine ⟨fun made => ?_, fun given => by rw [given.1]⟩
    cases made
    exact ⟨rfl, fun guarded => absurd guarded Bool.false_ne_true⟩
  | true =>
    rw [if_pos rfl]
    cases required : caseRequirements k with
    | error cause =>
      refine iff_of_false (fun made => ?_) fun given => ?_
      · cases made
      · obtain ⟨-, needed, known, -⟩ := given.2 rfl
        rw [required] at known
        cases known
    | ok needed =>
      change Except.ok (guardedCase t e k needed) = Except.ok (Except.ok v) ↔ _
      rw [Except.ok.injEq]
      by_cases offered : t.platform ∈ k.availability.offeredPlatforms
      · rw [guardedCase_of_mem offered]
        cases met : t.meets needed with
        | true =>
          rw [if_pos rfl, Except.ok.injEq]
          exact ⟨fun same => ⟨same.symm, fun _ => ⟨offered, needed, required, met⟩⟩,
            fun given => given.1.symm⟩
        | false =>
          refine iff_of_false (fun made => ?_) fun given => ?_
          · cases made
          · obtain ⟨-, needed', known, passed⟩ := given.2 rfl
            rw [required] at known
            cases known
            rw [met] at passed
            cases passed
      · rw [guardedCase_of_not_mem offered]
        refine iff_of_false (fun made => ?_) fun given => offered (given.2 rfl).1
        cases made

/-- A reader of a type gives the cases that the target offers. -/
theorem Makes.gives (makes : Makes t e (some reader)) :
    Gives (fun v => ∃ k ∈ e.cases, v = caseValue e k ∧ targetCase t e k = .ok (.ok v)) reader := by
  obtain ⟨cases, table, made⟩ := makes
  obtain ⟨-, -, -, rfl⟩ := enumReader?_eq_some_iff.1 made
  obtain ⟨entries, rfl, each⟩ := exists_entries table
  refine (gives_member _).mono fun v entered => ?_
  obtain ⟨name, found⟩ := entered
  have listed := NameTable.mem_of_get?_ofList found
  obtain ⟨k, isCase, -, made⟩ := exists_mem_left each listed
  exact ⟨k, isCase, (targetCase_eq_ok_iff.1 made).1, made⟩

/-! ## The registry of a target -/

theorem length_classOf (e : Enumeration) : (classOf e).name.length = e.name.length := by
  have one (d : Char) : (if d = '.' then "_" else String.singleton d).length = 1 := by
    split
    · rfl
    · exact String.length_singleton
  rw [classOf, enumClass, replaceChar, String.length_join, List.map_map]
  simp [Function.comp_def, one, String.length_toList]

theorem plain_withEnums (r : Registry) (readers : NameTable (Reader Value)) :
    (withEnums r readers).plain = NameTable.putAll r.plain readers := by
  induction readers generalizing r with
  | nil => rfl
  | cons entry readers ih => exact ih _

theorem namesClasses_withEnums {r : Registry} (named : r.NamesClasses)
    (each : ∀ entry ∈ readers, Gives (ShortClass (entry.1.length + 1)) entry.2) :
    (withEnums r readers).NamesClasses := by
  induction readers generalizing r with
  | nil => exact named
  | cons entry readers ih =>
    exact ih (named.register (each entry List.mem_cons_self))
      fun other there => each other (List.mem_cons_of_mem entry there)

theorem namesClasses_target (built : enumReaders t enums = .ok readers) :
    (withEnums .standard readers).NamesClasses := by
  refine namesClasses_withEnums namesClasses_standard fun entry there => ?_
  obtain ⟨e, -, named, makes⟩ := exists_of_mem_enumReaders built there
  refine makes.gives.mono fun v case className name same => ?_
  obtain ⟨k, -, rfl, -⟩ := case
  cases same
  rw [length_classOf, named]
  exact Nat.lt_succ_self _

section Required

variable {c : Configuration} {source : InterfaceFile}

/-- Under the name of a required type only its own reader is entered. -/
theorem makes_of_mem (built : enumReaders t (requiredEnums c source) = .ok readers)
    (required : e ∈ requiredEnums c source) (there : (e.name, reader) ∈ readers) :
    Makes t e (some reader) := by
  obtain ⟨e', required', same, makes⟩ := exists_of_mem_enumReaders built there
  exact eq_of_mem_requiredEnums required' required same ▸ makes

theorem registered_of_makes (built : enumReaders t (requiredEnums c source) = .ok readers)
    (required : e ∈ requiredEnums c source) (makes : Makes t e (some reader)) :
    NameTable.get? (withEnums .standard readers).plain e.name = some reader := by
  obtain ⟨made, makes', entered⟩ := exists_makes built required
  rw [plain_withEnums]
  refine NameTable.get?_putAll_of_mem (entered reader (makes'.unique makes)) fun other there => ?_
  exact Option.some.inj ((makes_of_mem built required there).unique makes)

/-- Some text is read as a case, by the readers of a target. -/
def IsRead (readers : NameTable (Reader Value)) (e : Enumeration) (k : EnumerationCase) : Prop :=
  ∃ reader start stop, (withEnums .standard readers).find e.name = .ok reader ∧
    reader.run' start = (.ok (caseValue e k), stop)

/-- Only what the target offers is read. -/
theorem offered_of_isRead (built : enumReaders t (requiredEnums c source) = .ok readers)
    (required : e ∈ requiredEnums c source) (isCase : k ∈ e.cases) (read : IsRead readers e k) :
    existsOn t e = true ∧ targetCase t e k = .ok (.ok (caseValue e k)) := by
  obtain ⟨reader, start, stop, known, run⟩ := read
  rw [find, TypeSpelling.read_eq_readPart] at known
  rcases registered_or_gives (namesClasses_target built) e.name.toList known with own | gives
  · rw [String.ofList_toList, plain_withEnums] at own
    rcases NameTable.mem_of_get?_putAll own with listed | standard
    · have makes := makes_of_mem built required listed
      obtain ⟨k', isCase', same, made⟩ := makes.gives start _ stop run
      obtain ⟨cases, -, reads⟩ := makes
      have named : k'.name = k.name := (Value.enumCase.inj same).2.symm
      obtain rfl := List.inj_on_of_nodup_map (nodup_caseNames reads) isCase' isCase named
      exact ⟨(enumReader?_eq_some_iff.1 reads).1, made⟩
    · have standard := gives_standard (n := 0) _ (NameTable.mem_of_get? standard)
      exact absurd (standard start _ stop run _ _ rfl) (Nat.not_lt_zero _)
  · have short := gives start _ stop run _ _ rfl
    rw [length_classOf, String.length_toList] at short
    exact absurd short (Nat.lt_irrefl _)

/-- What the target offers is read. -/
theorem isRead_of_offered (built : enumReaders t (requiredEnums c source) = .ok readers)
    (required : e ∈ requiredEnums c source) (isCase : k ∈ e.cases)
    (plain : trimBlanks e.name.toList = e.name.toList) (present : existsOn t e = true)
    (offered : targetCase t e k = .ok (.ok (caseValue e k))) : IsRead readers e k := by
  obtain ⟨reader, makes⟩ := exists_makes_of_existsOn built required present
  have known := find_of_registered plain (registered_of_makes built required makes)
  obtain ⟨cases, table, reads⟩ := makes
  have here : AtMember k.name ⟨[⟨.atom, k.name, .start⟩], .start⟩ ⟨[], .start⟩ := .atom rfl rfl
  obtain ⟨outcome, made, run⟩ := run'_enumReader table reads isCase here
  rw [offered] at made
  cases made
  exact ⟨reader, _, _, known, run⟩

theorem existsOn_iff : existsOn t e = true ↔ e.availability.offeredPlatforms = [] ∨
    t.platform ∈ e.availability.offeredPlatforms := by
  simp [existsOn]

/-- **What is taken back is not read**: no text is read as a case of a type that is taken back on
the platform of the target, by its own first declaration or by one around that, if the type still
offers another platform; nor as a case with a guard that is taken back itself. A case is read
exactly where its type offers the platform or no platform at all, and the guard of the case, if it
has one, is met. -/
theorem isRead_of_unavailable (built : enumReaders t (requiredEnums c source) = .ok readers)
    (required : e ∈ requiredEnums c source) (isCase : k ∈ e.cases) :
    ∃ chain, firstDeclaration c source e.name = some chain ∧
      ((∃ d ∈ chain, t.platform ∈ d.availability.unavailable) →
        (availabilityOf chain).offeredPlatforms ≠ [] → ¬IsRead readers e k) ∧
      (t.platform ∈ k.availability.unavailable → e.needsGuard k = true → ¬IsRead readers e k) ∧
      (trimBlanks e.name.toList = e.name.toList →
        (IsRead readers e k ↔ ((availabilityOf chain).offeredPlatforms = [] ∨
          t.platform ∈ (availabilityOf chain).offeredPlatforms) ∧
            (e.needsGuard k = true → PassesGuard t k))) := by
  obtain ⟨chain, first, same⟩ := exists_firstDeclaration required
  refine ⟨chain, first, fun marked some read => ?_, fun marked guarded read => ?_, fun plain => ?_⟩
  · have offered := existsOn_iff.1 (offered_of_isRead built required isCase read).1
    rw [same] at offered
    rcases offered with none | offered
    · exact some none
    · exact (Availability.mem_offeredPlatforms.1 offered).2
        (mem_unavailable_availabilityOf.2 marked)
  · have made := (offered_of_isRead built required isCase read).2
    have passed := (targetCase_eq_ok_iff.1 made).2 guarded
    exact (Availability.mem_offeredPlatforms.1 passed.1).2 marked
  · rw [← same, ← existsOn_iff]
    constructor
    · intro read
      obtain ⟨present, made⟩ := offered_of_isRead built required isCase read
      exact ⟨present, (targetCase_eq_ok_iff.1 made).2⟩
    · rintro ⟨present, passes⟩
      exact isRead_of_offered built required isCase plain present
        (targetCase_eq_ok_iff.2 ⟨rfl, passes⟩)

end Required

/-- A case that iOS has taken back. -/
def darkCase : EnumerationCase := ⟨"dark", ⟨[], .ofList ["iOS"], false, none, none⟩⟩

/-- A case of macOS that iOS has taken back. -/
def dimCase : EnumerationCase :=
  ⟨"dim", ⟨[⟨"macOS", some "12.0"⟩], .ofList ["iOS"], false, none, none⟩⟩

/-- An enum of iOS with both cases, which tvOS has taken back. -/
def blendType : Enumeration :=
  ⟨"Blend", [darkCase, dimCase], ⟨[⟨"iOS", some "15.0"⟩], .ofList ["tvOS"], false, none, none⟩⟩

/-- The interface of the enum. -/
def blendFile : InterfaceFile :=
  ⟨[], [⟨.enumType, "Blend", [], [], [], blendType.availability, [],
    blendType.cases.map fun k => ⟨k.name, [], k.availability, .start⟩, [], [], .start⟩], []⟩

/-- The configuration that requires the enum. -/
def blendConfiguration : Configuration :=
  { Configuration.plain with requiredTypes := ["Blend"] }

theorem requiredEnums_blendFile : requiredEnums blendConfiguration blendFile = [blendType] := rfl

theorem mem_requiredEnums_blendFile : blendType ∈ requiredEnums blendConfiguration blendFile :=
  requiredEnums_blendFile ▸ List.mem_cons_self

/-- The table of the enum where it has no macOS. -/
def blendTable : NameTable (Except Failure Value) :=
  [("dark", .ok (caseValue blendType darkCase)), ("dim", .error (.unavailable (.onPlatform "dim")))]

theorem needsGuard_dimCase : blendType.needsGuard dimCase = true :=
  needsGuard_of_platform "macOS" (by decide) (by decide)

theorem targetCases_blendType (elsewhere : t.platform ≠ "macOS") :
    targetCases t blendType = .ok blendTable := by
  have given : targetCase t blendType darkCase = .ok (.ok (caseValue blendType darkCase)) := rfl
  have outside : t.platform ∉ dimCase.availability.offeredPlatforms := fun offered =>
    elsewhere (List.mem_singleton.1 (Availability.mem_offeredPlatforms.1 offered).1)
  have refused : targetCase t blendType dimCase =
      .ok (.error (.unavailable (.onPlatform "dim"))) := by
    rw [targetCase, if_pos needsGuard_dimCase]
    exact congrArg Except.ok (guardedCase_of_not_mem outside)
  have entries : blendType.cases.mapM (fun k => do return (k.name, ← targetCase t blendType k)) =
      (.ok blendTable : Except EmissionError _) :=
    mapM_eq_ok_iff.2 (.cons (named_eq_ok_iff.2 ⟨rfl, given⟩)
      (.cons (named_eq_ok_iff.2 ⟨rfl, refused⟩) .nil))
  rw [targetCases, entries]
  rfl

theorem enumReaders_iOS : enumReaders ⟨"iOS", [17]⟩ (requiredEnums blendConfiguration blendFile) =
    .ok [("Blend", Reader.member blendTable)] := by
  have reads : enumReader? ⟨"iOS", [17]⟩ blendType blendTable =
      .ok (some (Reader.member blendTable)) :=
    enumReader?_eq_some_iff.2 ⟨by decide, by decide, by decide, rfl⟩
  rw [requiredEnums_blendFile]
  exact enumReaders_singleton (targetCases_blendType (by decide)) reads

theorem enumReaders_tvOS : enumReaders ⟨"tvOS", [17]⟩ (requiredEnums blendConfiguration blendFile) =
    .ok [] := by
  have absent : enumReader? ⟨"tvOS", [17]⟩ blendType blendTable = .ok none := rfl
  rw [requiredEnums_blendFile]
  exact enumReaders_singleton (targetCases_blendType (by decide)) absent

/-- On iOS the case of macOS is not read, and on tvOS none of the cases. -/
theorem isRead_of_unavailable_blendType :
    (∃ readers, enumReaders ⟨"iOS", [17]⟩ (requiredEnums blendConfiguration blendFile) =
      .ok readers ∧ ¬IsRead readers blendType dimCase) ∧
    ∃ readers, enumReaders ⟨"tvOS", [17]⟩ (requiredEnums blendConfiguration blendFile) =
      .ok readers ∧ ¬IsRead readers blendType darkCase := by
  constructor
  · obtain ⟨-, -, -, refused, -⟩ := isRead_of_unavailable enumReaders_iOS
      mem_requiredEnums_blendFile (List.mem_cons_of_mem darkCase List.mem_cons_self)
    exact ⟨_, enumReaders_iOS, refused (by decide) needsGuard_dimCase⟩
  · obtain ⟨chain, first, absent, -⟩ :=
      isRead_of_unavailable enumReaders_tvOS mem_requiredEnums_blendFile List.mem_cons_self
    cases first
    exact ⟨_, enumReaders_tvOS, absent ⟨_, List.mem_cons_self, by decide⟩ (by decide)⟩

/-- A case without a guard is read where it is taken back. -/
theorem not_unavailable_refused : ¬∀ (c : Configuration) (source : InterfaceFile) (t : Target)
    (readers : NameTable (Reader Value)) (e : Enumeration) (k : EnumerationCase)
    (chain : List DeclaredType),
    enumReaders t (requiredEnums c source) = .ok readers → e ∈ requiredEnums c source →
    k ∈ e.cases → firstDeclaration c source e.name = some chain →
    (∃ d ∈ chain, t.platform ∈ d.availability.unavailable ∨ "*" ∈ d.availability.unavailable) ∨
      t.platform ∈ k.availability.unavailable ∨ "*" ∈ k.availability.unavailable →
    ¬IsRead readers e k := by
  intro claim
  have marked : "iOS" ∈ darkCase.availability.unavailable := by decide
  refine claim _ _ _ _ _ darkCase _ enumReaders_iOS mem_requiredEnums_blendFile
    List.mem_cons_self rfl (.inr (.inl marked)) ?_
  exact isRead_of_offered enumReaders_iOS mem_requiredEnums_blendFile List.mem_cons_self
    (by decide) (by decide) rfl

end ViewModifiers.Dispatch
