import Mathlib
import ViewModifiers.Config.Load
import ViewModifiers.Proofs.Stylesheet.Runs

/-!
# What is reported about a configuration

Loading a configuration either gives one or reports a fault of it. There is one exception: the
schemas of a hand-written modifier are gone through before they are checked, and a value that cannot
be gone through ends the run without a report. This takes a document that is valid in everything
that is checked before (`loads_or_reports_iff`).
-/

namespace ViewModifiers.Config

open Source Text
open Stylesheet (bind_eq_ok_iff)

/-- A fault that is reported as an error of the configuration. -/
inductive LoadFault.IsReported : LoadFault → Prop
  | config (error : ConfigurationError) : IsReported (.config error)

theorem LoadFault.not_isReported_notIterable : ¬IsReported .notIterable := nofun

theorem LoadFault.not_isReported_oversizedInteger : ¬IsReported .oversizedInteger := nofun

theorem LoadFault.config_ne {fault : LoadFault} (unreported : ¬fault.IsReported)
    (error : ConfigurationError) : .config error ≠ fault := by
  rintro rfl
  exact unreported (.config error)

/-! ## The first failure of a sequence -/

section Sequences

variable {α β ε : Type} {x : Except ε α} {f : α → Except ε β} {xs : List α} {fault : ε}

/-- One result behind another one fails where the first or the second of them does. -/
theorem bind_eq_error_iff : x >>= f = .error fault ↔
    x = .error fault ∨ ∃ a, x = .ok a ∧ f a = .error fault := by
  cases x with
  | error other =>
    constructor
    · intro failed
      cases failed
      exact .inl rfl
    · rintro (failed | ⟨a, impossible, -⟩)
      · cases failed
        rfl
      · cases impossible
  | ok a =>
    constructor
    · intro failed
      exact .inr ⟨a, rfl, failed⟩
    · rintro (impossible | ⟨a', same, failed⟩)
      · cases impossible
      · cases same
        exact failed

/-- A list of results fails at the first of them that does. -/
theorem mapM_eq_error_iff : xs.mapM f = .error fault ↔
    ∃ front x back, xs = front ++ x :: back ∧ (∀ y ∈ front, ∃ b, f y = .ok b) ∧
      f x = .error fault := by
  induction xs with
  | nil =>
    constructor
    · intro failed
      cases failed
    · rintro ⟨front, x, back, split, -⟩
      simp at split
  | cons x xs ih =>
    rw [List.mapM_cons, bind_eq_error_iff]
    constructor
    · rintro (first | ⟨b, first, failed⟩)
      · exact ⟨[], x, xs, rfl, nofun, first⟩
      · rcases bind_eq_error_iff.1 failed with later | ⟨bs, -, impossible⟩
        · obtain ⟨front, y, back, rfl, before, failed⟩ := ih.1 later
          refine ⟨x :: front, y, back, rfl, ?_, failed⟩
          exact List.forall_mem_cons.2 ⟨⟨b, first⟩, before⟩
        · cases impossible
    · rintro ⟨front, y, back, split, before, failed⟩
      cases front with
      | nil =>
        cases split
        exact .inl failed
      | cons z front =>
        cases split
        obtain ⟨⟨b, first⟩, before⟩ := List.forall_mem_cons.1 before
        have later := ih.2 ⟨front, y, back, rfl, before, failed⟩
        exact .inr ⟨b, first, bind_eq_error_iff.2 (.inl later)⟩

end Sequences

variable {path name : String} {entries : Entries} {fault : LoadFault} {d : Datum}

/-! ## The checks -/

theorem loadChunkSize_eq_ok_iff {packaged : ChunkSize} :
    (∃ size, loadChunkSize path entries packaged = .ok size) ↔
      ∀ d ∈ NameTable.get? entries "chunk_size", (chunkSizeOf? d).isSome := by
  unfold loadChunkSize
  cases NameTable.get? entries "chunk_size" with
  | none => simp
  | some d => cases accepted : chunkSizeOf? d <;> simp [accepted]

theorem reported_of_loadChunkSize {packaged : ChunkSize}
    (failed : loadChunkSize path entries packaged = .error fault) : fault.IsReported := by
  unfold loadChunkSize at failed
  split at failed
  · cases failed
  · split at failed <;> cases failed
    exact .config _

theorem loadNames_eq_ok_iff {key : String} {packaged : List String} :
    (∃ names, loadNames path entries key packaged = .ok names) ↔
      ∀ d ∈ NameTable.get? entries key, (namesOf? d).isSome := by
  unfold loadNames
  cases NameTable.get? entries key with
  | none => simp
  | some d => cases accepted : namesOf? d <;> simp [accepted]

theorem reported_of_loadNames {key : String} {packaged : List String}
    (failed : loadNames path entries key packaged = .error fault) : fault.IsReported := by
  unfold loadNames at failed
  split at failed
  · cases failed
  · split at failed <;> cases failed
    exact .config _

/-- A value that cannot be gone through: a number, a truth value or a point in time. -/
inductive Datum.IsIndivisible : Datum → Prop
  | integer (n : Int) : IsIndivisible (.integer n)
  | decimal (x : Float) : IsIndivisible (.decimal x)
  | flag (b : Bool) : IsIndivisible (.flag b)
  | moment (m : Moment) : IsIndivisible (.moment m)

theorem elements?_eq_none_iff : d.elements? = none ↔ d.IsIndivisible := by
  constructor
  · intro stuck
    cases d with
    | integer n => exact .integer n
    | decimal x => exact .decimal x
    | flag b => exact .flag b
    | moment m => exact .moment m
    | _ => cases stuck
  · intro single
    cases single <;> rfl

/-- The schemas of a hand-written modifier are accepted. -/
def AcceptsSchemas (entry : String × Datum) : Prop :=
  ∃ signatures parsed, entry.2.elements? = some signatures ∧
    signatures.mapM extraSignatureOf = .ok parsed

theorem extraSignaturesOf_eq_ok_iff {entry : String × Datum} :
    (∃ parsed, extraSignaturesOf path entry = .ok parsed) ↔ AcceptsSchemas entry := by
  unfold extraSignaturesOf AcceptsSchemas
  cases entry.2.elements? with
  | none => simp
  | some signatures => cases accepted : signatures.mapM extraSignatureOf <;> simp [accepted]

/-- The schemas of a modifier fail without a report only if they cannot be gone through. -/
theorem extraSignaturesOf_eq_error_iff {entry : String × Datum} (unreported : ¬fault.IsReported) :
    extraSignaturesOf path entry = .error fault ↔
      fault = .notIterable ∧ entry.2.IsIndivisible := by
  rw [← elements?_eq_none_iff]
  unfold extraSignaturesOf
  cases entry.2.elements? with
  | none => simp [eq_comm]
  | some signatures =>
    cases checked : signatures.mapM extraSignatureOf with
    | ok parsed => simp [checked]
    | error cause => simp [checked, LoadFault.config_ne unreported]

/-- The first schemas that are not accepted are a value that cannot be gone through. -/
def HasUnlistedSchemas (entries : Entries) : Prop :=
  ∃ front entry back,
    NameTable.get? entries "extra_schemas" = some (.table (front ++ entry :: back)) ∧
    (∀ e ∈ front, AcceptsSchemas e) ∧ entry.2.IsIndivisible

theorem loadSchemas_eq_error_iff {packaged : NameTable (List (List SchemaParameter))}
    (unreported : ¬fault.IsReported) :
    loadSchemas path entries packaged = .error fault ↔
      fault = .notIterable ∧ HasUnlistedSchemas entries := by
  unfold loadSchemas HasUnlistedSchemas
  cases NameTable.get? entries "extra_schemas" with
  | none => simp
  | some d =>
    cases d with
    | table schemas =>
      simp only [mapM_eq_error_iff, extraSignaturesOf_eq_ok_iff,
        extraSignaturesOf_eq_error_iff unreported, Option.some.injEq, Datum.table.injEq]
      constructor
      · rintro ⟨front, entry, back, split, before, rfl, stuck⟩
        exact ⟨rfl, front, entry, back, split, before, stuck⟩
      · rintro ⟨rfl, front, entry, back, split, before, stuck⟩
        exact ⟨front, entry, back, split, before, rfl, stuck⟩
    | _ => simp [LoadFault.config_ne unreported]

/-! ## Documents -/

/-- A document on which loading fails without a report: everything that is checked before the
schemas is accepted, and the first schemas that are not are a value that cannot be gone through. -/
structure FailsUnreported (entries : Entries) : Prop where
  known : unknownKeysOf entries = []
  chunkSize : ∀ d ∈ NameTable.get? entries "chunk_size", (chunkSizeOf? d).isSome
  names : ∀ key ∈ listKeys, ∀ d ∈ NameTable.get? entries key, (namesOf? d).isSome
  unlisted : HasUnlistedSchemas entries

/-- A check that reports its faults is passed where a later one fails without a report. -/
theorem bind_eq_error_iff_of_reported {α β : Type} {x : Except LoadFault α}
    {f : α → Except LoadFault β} (unreported : ¬fault.IsReported)
    (reports : x = .error fault → fault.IsReported) :
    x >>= f = .error fault ↔ ∃ a, x = .ok a ∧ f a = .error fault := by
  rw [bind_eq_error_iff, or_iff_right]
  intro failed
  exact unreported (reports failed)

theorem configurationOf_eq_error_iff (unreported : ¬fault.IsReported) :
    configurationOf path entries = .error fault ↔
      fault = .notIterable ∧ FailsUnreported entries := by
  have chunks (packaged : ChunkSize) {β : Type} (f : ChunkSize → Except LoadFault β) :
      loadChunkSize path entries packaged >>= f = .error fault ↔
        ∃ size, loadChunkSize path entries packaged = .ok size ∧ f size = .error fault :=
    bind_eq_error_iff_of_reported unreported reported_of_loadChunkSize
  have names (key : String) (packaged : List String) {β : Type}
      (f : List String → Except LoadFault β) :
      loadNames path entries key packaged >>= f = .error fault ↔
        ∃ names, loadNames path entries key packaged = .ok names ∧ f names = .error fault :=
    bind_eq_error_iff_of_reported unreported reported_of_loadNames
  have loaded (c : Configuration) :
      (pure c : Except LoadFault Configuration) ≠ .error fault := nofun
  unfold configurationOf
  by_cases known : unknownKeysOf entries = []
  · simp only [known, List.isEmpty_nil, Bool.not_true, Bool.false_eq_true, if_false]
    simp only [chunks, names, bind_eq_error_iff, loadSchemas_eq_error_iff unreported, loaded,
      and_false, exists_false, or_false]
    simp only [exists_and_right, loadChunkSize_eq_ok_iff, loadNames_eq_ok_iff]
    constructor
    · rintro ⟨size, views, modules, references, types, required, texts, images, denied, rfl, stuck⟩
      refine ⟨rfl, known, size, ?_, stuck⟩
      simp only [listKeys, List.forall_mem_cons]
      exact ⟨views, modules, references, types, required, texts, images, denied, nofun⟩
    · rintro ⟨rfl, -, size, names, stuck⟩
      simp only [listKeys, List.forall_mem_cons] at names
      obtain ⟨views, modules, references, types, required, texts, images, denied, -⟩ := names
      exact ⟨size, views, modules, references, types, required, texts, images, denied, rfl, stuck⟩
  · simp only [List.isEmpty_eq_false_iff.2 known]
    constructor
    · intro failed
      cases failed
      exact absurd rfl (LoadFault.config_ne unreported _)
    · rintro ⟨-, fails⟩
      exact absurd fails.known known

/-! ## Texts and files -/

/-- The texts that fail without a report. -/
theorem parseConfiguration_eq_error_iff {text : String}
    (readable : Document.parse text ≠ .error .oversizedInteger) (unreported : ¬fault.IsReported) :
    parseConfiguration path text = .error fault ↔
      fault = .notIterable ∧ ∃ entries, Document.parse text = .ok entries ∧
        FailsUnreported entries := by
  unfold parseConfiguration
  cases parsed : Document.parse text with
  | error cause =>
    cases cause with
    | oversizedInteger => exact absurd parsed readable
    | malformed => simp [LoadFault.config_ne unreported]
  | ok entries =>
    simp only [configurationOf_eq_error_iff unreported, Except.ok.injEq, exists_eq_left']

/-- The text of a file fails without a report. -/
def FileFailsUnreported (tree : FileTree) (p : Path) : Prop :=
  ∃ text entries, tree.read? p = some text ∧ Document.parse text = .ok entries ∧
    FailsUnreported entries

section Files

variable {tree : FileTree} {file : Option Path}

theorem loadConfiguration_eq_error_iff
    (readable : ∀ p ∈ file, ∀ text, tree.read? p = some text →
      Document.parse text ≠ .error .oversizedInteger) (unreported : ¬fault.IsReported) :
    loadConfiguration tree file = .error fault ↔
      fault = .notIterable ∧ ∃ p ∈ file, FileFailsUnreported tree p := by
  unfold loadConfiguration FileFailsUnreported
  cases file with
  | none => simp
  | some p =>
    cases found : tree.read? p with
    | none => simp [found, LoadFault.config_ne unreported]
    | some text =>
      simp only [found, parseConfiguration_eq_error_iff (readable p rfl text found) unreported,
        Option.mem_some_iff, Option.some.injEq, exists_and_left, exists_eq_left']

/-- Loading comes to an end that is meant: a configuration, or a report. -/
def LoadsOrReports (outcome : Except LoadFault Configuration) : Prop :=
  (∃ c, outcome = .ok c) ∨ ∃ error, outcome = .error (.config error)

/-- **A configuration is loaded or its fault is reported**, with one exception: everything that is
checked before the schemas is accepted, and the first schemas of a modifier that are not accepted
are a number, a truth value or a point in time. On such a file, and on no other, loading ends with
an error of another kind. -/
theorem loads_or_reports_iff
    (readable : ∀ p ∈ file, ∀ text, tree.read? p = some text →
      Document.parse text ≠ .error .oversizedInteger) :
    (LoadsOrReports (loadConfiguration tree file) ↔ ∀ p ∈ file, ¬FileFailsUnreported tree p) ∧
    (loadConfiguration tree file = .error .notIterable ↔
      ∃ p ∈ file, FileFailsUnreported tree p) := by
  have stuck : loadConfiguration tree file = .error .notIterable ↔
      ∃ p ∈ file, FileFailsUnreported tree p := by
    rw [loadConfiguration_eq_error_iff readable LoadFault.not_isReported_notIterable]
    exact and_iff_right rfl
  refine ⟨?_, stuck⟩
  constructor
  · intro meant p there fails
    rw [stuck.2 ⟨p, there, fails⟩] at meant
    rcases meant with ⟨c, impossible⟩ | ⟨error, impossible⟩
    · cases impossible
    · cases impossible
  · intro none
    unfold LoadsOrReports
    cases outcome : loadConfiguration tree file with
    | ok c => exact .inl ⟨c, rfl⟩
    | error fault =>
      cases fault with
      | config error => exact .inr ⟨error, rfl⟩
      | notIterable =>
        obtain ⟨p, there, fails⟩ := stuck.1 outcome
        exact absurd fails (none p there)
      | oversizedInteger =>
        obtain ⟨impossible, -⟩ := (loadConfiguration_eq_error_iff readable
          LoadFault.not_isReported_oversizedInteger).1 outcome
        cases impossible

end Files

section Samples

/-- A directory with a configuration. -/
def treeOf (text : String) : FileTree := [(["modgen.toml"], .file text)]

/-- The path of the configuration. -/
def configurationPath : Path := ⟨"", ["modgen.toml"]⟩

/-- A configuration with a chunk size that is not accepted. -/
def emptyChunks : String := "chunk_size = 0\n"

/-- A configuration in which the schemas of a modifier are a number. -/
def numberSchemas : String := "[extra_schemas]\nfade = 5\n"

theorem parse_emptyChunks : Document.parse emptyChunks = .ok [("chunk_size", .integer 0)] := by
  cbv

theorem parse_numberSchemas : Document.parse numberSchemas =
    .ok [("extra_schemas", .table [("fade", .integer 5)])] := by
  cbv

theorem read?_emptyChunks : (treeOf emptyChunks).read? configurationPath = some emptyChunks := by
  cbv

theorem read?_numberSchemas :
    (treeOf numberSchemas).read? configurationPath = some numberSchemas := by
  cbv

/-- The chunk size is reported. -/
theorem loadsOrReports_emptyChunks :
    LoadsOrReports (loadConfiguration (treeOf emptyChunks) (some configurationPath)) := by
  have readable : ∀ p ∈ some configurationPath, ∀ text,
      (treeOf emptyChunks).read? p = some text →
        Document.parse text ≠ .error .oversizedInteger := by
    rintro _ ⟨⟩ text found
    rw [read?_emptyChunks] at found
    cases found
    rw [parse_emptyChunks]
    nofun
  apply (loads_or_reports_iff readable).1.2
  rintro _ ⟨⟩ ⟨text, entries, found, parsed, fails⟩
  rw [read?_emptyChunks] at found
  cases found
  rw [parse_emptyChunks] at parsed
  cases parsed
  obtain ⟨front, entry, back, impossible, -⟩ := fails.unlisted
  cases impossible

theorem failsUnreported_numberSchemas :
    FailsUnreported [("extra_schemas", .table [("fade", .integer 5)])] where
  known := by cbv
  chunkSize := nofun
  names := by
    have others : ∀ key ∈ listKeys, key ≠ "extra_schemas" := by decide
    intro key listed d found
    simp [NameTable.get?, (others key listed).symm] at found
  unlisted := ⟨[], ("fade", .integer 5), [], rfl, nofun, .integer 5⟩

/-- A number in place of a modifier's schemas ends loading without a report. -/
theorem not_loadsOrReports_numberSchemas :
    Document.parse numberSchemas ≠ .error .oversizedInteger ∧
    ¬LoadsOrReports (loadConfiguration (treeOf numberSchemas) (some configurationPath)) := by
  have readable : Document.parse numberSchemas ≠ .error .oversizedInteger := by
    rw [parse_numberSchemas]
    nofun
  refine ⟨readable, ?_⟩
  have outcome : loadConfiguration (treeOf numberSchemas) (some configurationPath) =
      .error .notIterable := by
    unfold loadConfiguration
    simp only [read?_numberSchemas]
    apply (parseConfiguration_eq_error_iff readable LoadFault.not_isReported_notIterable).2
    exact ⟨rfl, _, parse_numberSchemas, failsUnreported_numberSchemas⟩
  rw [outcome]
  rintro (⟨c, impossible⟩ | ⟨error, impossible⟩)
  · cases impossible
  · cases impossible

end Samples

end ViewModifiers.Config
