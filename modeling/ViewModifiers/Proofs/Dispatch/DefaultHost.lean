import ViewModifiers.Proofs.Dispatch.Blame

/-!
# Dispatchers with the standard types

A dispatcher that is built for a host with the standard types has these, the enumerated types of its
target, the retained modifiers and what the host reads itself; the default host reads nothing.
Whether anything but the host's readers can go wrong with it except by the stylesheet is told by its
overloads (`staysWithStylesheet`). An overload with a set of values that can change takes calls from
the overloads behind it without reading them.
-/

namespace ViewModifiers.Dispatch

open Catalog Config Emit Stylesheet Stylesheet.Registry Text Reader
open Interface (TypeExpr)

variable {t : Target} {e : Enumeration} {k : EnumerationCase} {enums : List Enumeration}
  {readers : NameTable (Reader Value)} {reader : Reader Value} {r : Registry}
  {blamed : Failure → Prop}

/-! ## The types of a target -/

/-- A target has the value of a case, or it says that it does not have it. -/
theorem attempted_targetCase {made : Except Failure Value} (h : targetCase t e k = .ok made) :
    Attempted (fun e => e.isStylesheet = true) (fun v => v.isElement = true) made := by
  have guarded (needed : NameTable (Option Version)) :
      Attempted (fun e => e.isStylesheet = true) (fun v => v.isElement = true)
        (guardedCase t e k needed) := by
    rw [guardedCase]
    split
    · rfl
    · split <;> rfl
  rw [targetCase] at h
  split at h
  · cases required : caseRequirements k with
    | error cause =>
      rw [required] at h
      cases h
    | ok needed =>
      rw [required] at h
      cases h
      exact guarded needed
  · cases h
    rfl

theorem Makes.yields (makes : Makes t e (some reader)) :
    Yields (fun e => e.isStylesheet = true) True reader := by
  obtain ⟨cases, table, made⟩ := makes
  obtain ⟨-, -, -, rfl⟩ := enumReader?_eq_some_iff.1 made
  obtain ⟨entries, rfl, each⟩ := exists_entries table
  refine yields_member faults_areStylesheet _ fun name entry found => ?_
  have listed := NameTable.mem_of_get?_ofList found
  obtain ⟨k, -, -, made⟩ := exists_mem_left each listed
  exact attempted_targetCase made

theorem blamesOnly_withEnums (registry : r.BlamesOnly blamed)
    (each : ∀ entry ∈ readers, Yields blamed True entry.2) :
    (withEnums r readers).BlamesOnly blamed := by
  induction readers generalizing r with
  | nil => exact registry
  | cons entry readers ih =>
    obtain ⟨first, later⟩ := List.forall_mem_cons.1 each
    exact ih (registry.register entry.1 (first.mono fun v isElement _ => isElement trivial)) later

theorem blamesOnly_target (built : enumReaders t enums = .ok readers) :
    (withEnums .standard readers).BlamesOnly fun e => e.isStylesheet = true := by
  refine blamesOnly_withEnums (blamesOnly_standard faults_areStylesheet) fun entry there => ?_
  obtain ⟨e, -, -, makes⟩ := exists_of_mem_enumReaders built there
  exact makes.yields

theorem knowsStandardTypes_target (built : enumReaders t enums = .ok readers) :
    (withEnums .standard readers).KnowsStandardTypes where
  plain := by
    intro text known
    rw [plain_withEnums, NameTable.get?_putAll, Option.isSome_or, known, Bool.or_true]
  generic := (blamesOnly_target built).generic

/-- A type with a standard reader is steady unless it asks for a set of values that can change. -/
theorem isSteadyType_of_standard (knows : r.KnowsStandardTypes) {spelling : String}
    (known : standard.find spelling = .ok reader)
    (never : (TypeSpelling.read spelling).wantsChangeableSet = false) :
    IsSteadyType r spelling := by
  obtain ⟨reader', found⟩ := knows.exists_find known
  rw [IsSteadyType, found]
  exact never

/-! ## Built dispatchers -/

variable {catalog : Catalog} {config : Configuration} {context : Context} {d : Dispatcher}
  {m : Module}

/-- The hand-written types of a dispatcher are the host's. -/
theorem exists_of_mem_extras {extras : NameTable ExtraModifier} {types : List String}
    {found : List (String × ExtraModifier)} (made : extrasFor extras types = .ok found)
    {e : String × ExtraModifier} (there : e ∈ found) : NameTable.get? extras e.1 = some e.2 := by
  obtain ⟨type, -, entered⟩ := exists_mem_left (mapM_eq_ok_iff.1 made) there
  cases known : NameTable.get? extras (extraCase type) with
  | none =>
    rw [known] at entered
    cases entered
  | some own =>
    rw [known] at entered
    cases entered
    exact known

/-- A host whose own readers blame nothing but the stylesheet. -/
structure Context.OnlyBlames (context : Context) : Prop where
  extras : ∀ name e, NameTable.get? context.extras name = some e → BlamesStylesheet e.reader
  custom : BlamesStylesheet context.custom
  content : ∀ kind reader, context.content kind = some reader → BlamesStylesheet reader

/-- The default host reads nothing. -/
theorem onlyBlames_default : Context.OnlyBlames {} where
  extras := nofun
  custom := behaves_fail faults_areStylesheet _
  content := nofun

theorem steady_of_build (built : Dispatcher.build catalog config t context = .ok d)
    (standard : context.registry = .standard) (host : context.OnlyBlames)
    (overloads : ∀ m ∈ catalog.modifiers, ∀ s ∈ m.signatures, SteadyOverload d.registry s) :
    d.Steady := by
  obtain ⟨parts, -, readers, known, registry⟩ := builtFrom_of_build built
  rw [standard] at registry
  refine ⟨registry ▸ blamesOnly_target known, ?_, ?_, ?_, ?_⟩
  · intro group there m member
    rw [parts.chunks, groups] at there
    obtain ⟨index, -, rfl⟩ := List.mem_map.1 there
    exact overloads m (List.mem_of_mem_drop (List.mem_of_mem_take member))
  · intro e there
    exact host.extras e.1 e.2 (exists_of_mem_extras parts.extras there)
  · exact parts.custom ▸ host.custom
  · intro kind reader known
    rw [parts.content] at known
    exact host.content kind reader known

/-- What a module blames. -/
structure StaysWithStylesheet (catalog : Catalog) (context : Context) (m : Module) : Prop where
  /-- A standard reader blames nothing but the shape of the stylesheet, exactly if its type asks for
  no set of values that can change. -/
  values : ∀ spelling reader, standard.find spelling = .ok reader →
    ((∀ c : Cursor, c.Convertible → ∀ e c', reader.run' c = (.error e, c') →
        ∃ fault, e = .malformed fault) ↔
      (TypeSpelling.read spelling).wantsChangeableSet = false)
  /-- The module knows each of these types. -/
  types : ∀ spelling reader, standard.find spelling = .ok reader →
    (TypeSpelling.read spelling).wantsChangeableSet = false →
    IsSteadyType m.dispatcher.registry spelling
  /-- If one of the overloads of a modifier accepts a call, the first of them reads it. -/
  overloads : ∀ mod ∈ catalog.modifiers,
    (∀ s ∈ mod.signatures, SteadyOverload m.dispatcher.registry s) →
    ∀ (c c₁ : Cursor) (metadata : Metadata Value), c.Convertible →
      callHead.run' c = (.ok (mod.name, metadata), c₁) →
      ∀ s ∈ mod.signatures, ∀ values c',
        (overloadArguments m.dispatcher.registry s).run' c₁ = (.ok values, c') →
        ∃ k s values c',
          IsFirstToAccept m.dispatcher.registry mod.signatures c₁ c' k s values ∧
          (readModifier m.dispatcher.registry mod).run' c =
            (.ok ⟨mod, k, s, values, metadata⟩, c')
  /-- If a text is not read, the stylesheet is to blame, unless it has a whole number that cannot be
  converted, or a class has taken a name by which texts are read. -/
  texts : m.ReadsTexts → context.OnlyBlames →
    (∀ mod ∈ catalog.modifiers, ∀ s ∈ mod.signatures, SteadyOverload m.dispatcher.registry s) →
    ∀ text, HasWholeNumbers text → ∀ e, m.parseText text = .error e → e.isStylesheet = true

/-- A module for a host with the standard types blames nothing but the stylesheet, as far as its
overloads are steady and the host's own readers do not; the default host has none. -/
theorem staysWithStylesheet (built : Module.build catalog config t context = .ok m)
    (standard : context.registry = .standard) :
    StaysWithStylesheet catalog context m ∧ Context.OnlyBlames {} := by
  have ofCatalog := Module.dispatcher_built built
  obtain ⟨-, -, readers, known, registry⟩ := builtFrom_of_build ofCatalog
  rw [standard] at registry
  have knows := registry ▸ knowsStandardTypes_target known
  have blames := registry ▸ blamesOnly_target known
  refine ⟨⟨fun _ _ found => blames_only_faults_iff found,
    fun _ _ found never => isSteadyType_of_standard knows found never, ?_, ?_⟩, onlyBlames_default⟩
  · intro mod _ steady c c₁ metadata convertible head s overload values c' accepted
    obtain ⟨k, s, values, c', first⟩ := exists_isFirstToAccept overload accepted
    exact ⟨k, s, values, c', first,
      run'_readModifier_of_steady blames steady convertible head first⟩
  · intro free host steady text whole e failed
    rw [Module.parseText_of_readsTexts free] at failed
    exact Dispatcher.isStylesheet_of_parseText (steady_of_build ofCatalog standard host steady)
      whole failed

/-! ## A set of dictionaries

The first overload of `pick` takes a set of dictionaries, the second one a list of them. A list of a
dictionary is accepted by the second one only. But the first one does not blame the stylesheet for
what it fails to make, so the second one is never tried. The overloads of `pin` take a set of texts
and a list of dictionaries, and a list of a dictionary is read by the second one.
-/

namespace Dispatcher

def texts : TypeExpr := .dictionary (.named "String" []) (.named "String" [])

def taking (type : TypeExpr) : Signature := ⟨[⟨wildcard, none, type, false⟩]⟩

def pick : Modifier where
  name := "pick"
  signatures := [taking (.named "Set" [texts]), taking (.array texts)]

def pin : Modifier where
  name := "pin"
  signatures := [taking (.named "Set" [.named "String" []]), taking (.array texts)]

def pickCatalog : Catalog := ⟨[pick, pin], [], [], [], [], [], .empty⟩

def picker : Dispatcher where
  registry := .standard
  chunks := [[pick, pin]]
  extras := []
  deprecations := []
  names := fun
    | .text => []
    | .image => []
  custom := rejectCustom
  content := fun _ => none

/-- A list of one dictionary. -/
def oneText : List Token :=
  listOfOne (listOfOne [word .name "key", sign .colon, word .string "x"])

def pickArguments : Cursor where
  ahead := sign .comma :: listOfOne oneText ++ [sign .closeBrace]
  finish := .start

/-- A call with these arguments. -/
def callOf (name : String) : Cursor where
  ahead := [sign .openBrace, word .name name, sign .comma, sign .openBracket,
    sign .closeBracket] ++ pickArguments.ahead
  finish := .start

def pickMetadata : Metadata Value := ⟨.number 1, 1, none, .null, none⟩

theorem picker_built : Dispatcher.build pickCatalog .plain ⟨"iOS", [17]⟩ {} = .ok picker :=
  build_of_bare (by decide) rfl

/-- The module of the dispatcher, without any taken name. -/
def pickModule : Module := ⟨picker, []⟩

theorem pickModule_built : Module.build pickCatalog .plain ⟨"iOS", [17]⟩ {} = .ok pickModule :=
  Module.build_eq_ok_iff.2 ⟨picker_built, rfl⟩

theorem run'_callHead_callOf (name : String) :
    callHead.run' (callOf name) = (.ok (name, pickMetadata), pickArguments) := by
  have entries : (bracketed .metadata (metadataEntry any)).run'
      ⟨(callOf name).ahead.drop 3, .start⟩ = (.ok [], pickArguments) :=
    run'_bracketed_of_empty rfl rfl
  have whole : metadata.run' ⟨(callOf name).ahead.drop 3, .start⟩ =
      (.ok pickMetadata, pickArguments) := run'_bind_of_ok entries
  exact run'_bind_of_ok whole

theorem startsItem_listOfOne (tokens : List Token) : StartsItem (listOfOne tokens) :=
  ⟨_, _, rfl, by decide⟩

theorem takes_oneText (what : Expectation) :
    (bracketed what (dictionary string)).Takes oneText [.dictionary [("key", .text "x")]] := by
  have entry : (keyedValue string).Takes [word .name "key", sign .colon, word .string "x"]
      ("key", .text "x") := fun _ _ => rfl
  have entries := takes_bracketed_one .keywordList ⟨_, _, rfl, by decide⟩ entry
  have inside : (dictionary string).Takes
      (listOfOne [word .name "key", sign .colon, word .string "x"])
      (.dictionary [("key", .text "x")]) := by
    intro tail finish
    rw [dictionary, run'_bind_of_ok (entries tail finish)]
    rfl
  exact takes_bracketed_one what (startsItem_listOfOne _) inside

theorem accepts_texts : (overloadArguments picker.registry (taking (.array texts))).run'
    pickArguments = (.ok [.tuple [.dictionary [("key", .text "x")]]], ⟨[], .start⟩) := by
  have takes : (array (dictionary string)).Takes oneText
      (.tuple [.dictionary [("key", .text "x")]]) := by
    intro tail finish
    rw [array, run'_bind_of_ok (takes_oneText .list tail finish)]
    rfl
  have notKeyed : ¬StartsKeyed oneText := by
    rintro ⟨name, colon, rest, same, isName, -⟩
    cases same
    cases isName
  have choice : Choice picker.registry (taking (.array texts)).parameters [oneText]
      [.tuple [.dictionary [("key", .text "x")]]] :=
    .given _ _ _ _ _ _ (.unlabelled _ _ _ rfl (startsItem_listOfOne _) notKeyed rfl takes.inList)
      .done
  have list : ArgumentList [oneText] pickArguments.ahead :=
    .listed _ _ rfl rfl _ _ (.mk _ _ rfl rfl _ (.last _))
  have run := choice.run'_overloadArguments_of_open (by decide) (by decide) list [] .start
  rwa [List.append_nil] at run

/-- A set of dictionaries takes none, and that is not the stylesheet's fault. -/
theorem trips_sets : ∃ c',
    (overloadArguments picker.registry (taking (.named "Set" [texts]))).run' pickArguments =
      (.error .changeableElement, c') := by
  have item (tail : List Token) : (Reader.set (dictionary string)).run' ⟨oneText ++ tail, .start⟩ =
      (.error .changeableElement, ⟨tail, .start⟩) := by
    rw [Reader.set, run'_bind_of_ok (takes_oneText .list tail .start)]
    rfl
  let behind : List Token := [sign .closeBracket, sign .closeBrace]
  have taken : (takeOrLeave false (Reader.set (dictionary string))).run'
      ⟨oneText ++ behind, .start⟩ = (.error .changeableElement, ⟨behind, .start⟩) := by
    refine run'_bind_of_error ?_
    rw [run'_map, item]
    rfl
  have argument : (positionalArgument picker.registry true "Set<[String: String]>" false).run'
      ⟨oneText ++ behind, .start⟩ = (.error .changeableElement, ⟨behind, .start⟩) := by
    rw [run'_positionalArgument_of_present rfl, run'_bind_of_ok (run'_reader_of_found rfl), taken]
  have opened : openArguments.run' pickArguments = (.ok true, ⟨oneText ++ behind, .start⟩) := rfl
  refine ⟨⟨behind, .start⟩, (run'_bind_of_ok opened).trans (run'_bind_of_error ?_)⟩
  exact run'_bind_of_error argument

theorem convertible_callOf (name : String) : (callOf name).Convertible := by
  have noNumbers : (callOf name).ahead.all (·.kind ≠ .number) = true := rfl
  intro t there isNumber
  exact absurd isNumber (by simpa using List.all_eq_true.1 noNumbers t there)

theorem pin_steady : ∀ s ∈ pin.signatures, SteadyOverload picker.registry s := by
  intro s there
  simp only [pin, List.mem_cons, List.not_mem_nil, or_false] at there
  rcases there with rfl | rfl
  · refine ⟨by decide, fun p there => ?_⟩
    obtain rfl := List.mem_singleton.1 there
    exact rfl
  · refine ⟨by decide, fun p there => ?_⟩
    obtain rfl := List.mem_singleton.1 there
    exact rfl

/-- A call of `pin` is read by its second overload. -/
theorem pin_staysWithStylesheet :
    Module.build pickCatalog .plain ⟨"iOS", [17]⟩ {} = .ok pickModule ∧
      StaysWithStylesheet pickCatalog {} pickModule ∧
      ∃ k s values c', IsFirstToAccept picker.registry pin.signatures pickArguments c' k s values ∧
        (readModifier picker.registry pin).run' (callOf "pin") =
          (.ok ⟨pin, k, s, values, pickMetadata⟩, c') := by
  have stays := (staysWithStylesheet pickModule_built rfl).1
  exact ⟨pickModule_built, stays, stays.overloads pin (by decide) pin_steady _ _ _
    (convertible_callOf "pin") (run'_callHead_callOf "pin") _ (by decide) _ _ accepts_texts⟩

/-- It is not enough that an overload is the first one to accept a call, even if all types of the
modifier have standard readers. -/
theorem not_always_first_to_accept :
    ¬∀ (catalog : Catalog) (config : Configuration) (target : Target) (d : Dispatcher),
      Module.build catalog config target {} = .ok ⟨d, []⟩ →
      ∀ m ∈ catalog.modifiers,
        (∀ s ∈ m.signatures, ∀ p ∈ s.parameters, ∃ reader,
          standard.find p.type.text = .ok reader) →
        ∀ (c c₁ c' : Cursor) (metadata : Metadata Value), c.Convertible →
          callHead.run' c = (.ok (m.name, metadata), c₁) →
          ∀ k s values, IsFirstToAccept d.registry m.signatures c₁ c' k s values →
            (readModifier d.registry m).run' c = (.ok ⟨m, k, s, values, metadata⟩, c') := by
  intro claim
  have known : ∀ s ∈ pick.signatures, ∀ p ∈ s.parameters, ∃ reader,
      standard.find p.type.text = .ok reader := by
    intro s there p listed
    simp only [pick, List.mem_cons, List.not_mem_nil, or_false] at there
    rcases there with rfl | rfl
    · obtain rfl := List.mem_singleton.1 listed
      exact ⟨_, rfl⟩
    · obtain rfl := List.mem_singleton.1 listed
      exact ⟨_, rfl⟩
  have first : IsFirstToAccept picker.registry pick.signatures pickArguments ⟨[], .start⟩ 1
      (taking (.array texts)) [.tuple [.dictionary [("key", .text "x")]]] := by
    refine ⟨rfl, fun j before t overload => ?_, accepts_texts⟩
    obtain rfl : j = 0 := by omega
    cases overload
    obtain ⟨c', run⟩ := trips_sets
    exact ⟨_, c', run⟩
  have run := claim _ _ _ _ pickModule_built pick (by decide) known _ _ _ _
    (convertible_callOf "pick") (run'_callHead_callOf "pick") _ _ _ first
  obtain ⟨c', trips⟩ := trips_sets
  have tried := (run'_attempt_of_error trips).trans (if_neg Bool.false_ne_true)
  have search : (firstOverload picker.registry pick (callOf "pick").current pick.signatures.zipIdx
      []).run' pickArguments = (.error .changeableElement, _) := run'_bind_of_error tried
  rw [run'_readModifier (run'_callHead_callOf "pick"), run'_bind_of_error search] at run
  cases run

end Dispatcher

end ViewModifiers.Dispatch
