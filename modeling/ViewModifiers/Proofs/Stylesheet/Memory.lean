import ViewModifiers.Proofs.Stylesheet.Runs
import ViewModifiers.Proofs.Stylesheet.TypeSpelling
import ViewModifiers.Proofs.Text.NameTable
import ViewModifiers.Stylesheet.Registry

/-!
# What a registry remembers

A search that remembers agrees with a search that does not: it gives the same reader or the same
failure, and remembers only readers that are found without memory too. This holds of every part of a
spelling, because each part is read again as what it is. So whatever was registered and looked up
before, a registry answers by the types that are registered.
-/

namespace ViewModifiers.Stylesheet.Registry

open Text

variable {r : Registry} {α β : Type}

/-- What the registered types give for a tree, without memory. -/
def search (r : Registry) (t : TypeSpelling) : Except Failure (Reader Value) :=
  r.walk (fun _ parts => parts) t

/-- What the registered types give for several trees, without memory. -/
def searchAll (r : Registry) (ts : List TypeSpelling) : Except Failure (List (Reader Value)) :=
  r.walkAll (fun _ parts => parts) ts

/-- What is remembered is found without memory too. -/
def Recalls (r : Registry) (known : NameTable (Reader Value)) : Prop :=
  ∀ text reader, NameTable.get? known text = some reader → r.find text = .ok reader

/-- A search that gives a certain result, and remembers only what is found without memory too. -/
def Agrees (r : Registry) (s : Search α) (result : Except Failure α) : Prop :=
  ∀ known, r.Recalls known → ∃ known', r.Recalls known' ∧ s.run known = (result, known')

/-! ## Steps of a search -/

/-- A search goes on with what the one before it remembers, unless that one has failed. -/
theorem run_bind (s : Search α) (f : α → Search β) (known : NameTable (Reader Value)) :
    (s >>= f).run known =
      match s.run known with
      | (.ok a, known') => (f a).run known'
      | (.error e, known') => (.error e, known') := by
  change ExceptT.bind s f known = match s known with
      | (.ok a, known') => f a known'
      | (.error e, known') => (.error e, known')
  simp only [ExceptT.bind, ExceptT.mk, ExceptT.bindCont, bind, StateT.bind]
  rcases s known with ⟨_ | _, _⟩ <;> rfl

theorem run_remembering (text : String) (parts : Search (Reader Value))
    (known : NameTable (Reader Value)) :
    (remembering text parts).run known =
      match NameTable.get? known text with
      | some reader => (.ok reader, known)
      | none =>
        match parts.run known with
        | (.ok reader, known') => (.ok reader, NameTable.put known' text reader)
        | (.error e, known') => (.error e, known') := by
  rw [remembering, run_bind]
  change (match NameTable.get? known text with
    | some reader => _
    | none => _ : Search (Reader Value)).run known = _
  rcases NameTable.get? known text with _ | reader
  · simp only []
    rw [run_bind]
    rcases parts.run known with ⟨_ | _, _⟩ <;> rfl
  · rfl

theorem agrees_pure (a : α) : r.Agrees (pure a) (.ok a) :=
  fun known recalls => ⟨known, recalls, rfl⟩

theorem agrees_throw (e : Failure) : r.Agrees (throw e : Search α) (.error e) :=
  fun known recalls => ⟨known, recalls, rfl⟩

theorem Agrees.bind {s : Search α} {f : α → Search β} {result : Except Failure α}
    {g : α → Except Failure β} (first : r.Agrees s result)
    (second : ∀ a, r.Agrees (f a) (g a)) : r.Agrees (s >>= f) (result >>= g) := by
  intro known recalls
  obtain ⟨known₁, recalls₁, run⟩ := first known recalls
  cases result with
  | error e => exact ⟨known₁, recalls₁, by rw [run_bind, run]; rfl⟩
  | ok a =>
    obtain ⟨known₂, recalls₂, later⟩ := second a known₁ recalls₁
    exact ⟨known₂, recalls₂, by rw [run_bind, run]; exact later⟩

theorem Agrees.wholeOr {parts : Search (Reader Value)} {result : Except Failure (Reader Value)}
    (agrees : r.Agrees parts result) (text : String) :
    r.Agrees (r.wholeOr text parts) (r.wholeOr text result) := by
  rw [Registry.wholeOr, Registry.wholeOr]
  cases NameTable.get? r.plain text with
  | none => exact agrees
  | some reader => exact agrees_pure reader

theorem agrees_applyFactory (text : String) (factory : Factory) (readers : List (Reader Value)) :
    r.Agrees (applyFactory text factory readers) (applyFactory text factory readers) := by
  rw [applyFactory, applyFactory]
  cases factory.build? readers with
  | none => exact agrees_throw _
  | some reader => exact agrees_pure reader

theorem Recalls.put {known : NameTable (Reader Value)} (recalls : r.Recalls known) {text : String}
    {reader : Reader Value} (own : r.find text = .ok reader) :
    r.Recalls (NameTable.put known text reader) := by
  intro other found there
  rw [NameTable.get?_put] at there
  by_cases same : text = other
  · rw [if_pos same] at there
    cases there
    rw [← same, own]
  · rw [if_neg same] at there
    exact recalls other found there

/-- What is remembered for a text may stand for a search that gives the same without memory. -/
theorem Agrees.remembering {parts : Search (Reader Value)}
    {result : Except Failure (Reader Value)} (agrees : r.Agrees parts result) {text : String}
    (own : r.find text = result) : r.Agrees (remembering text parts) result := by
  intro known recalls
  rw [run_remembering]
  rcases there : NameTable.get? known text with _ | reader
  · obtain ⟨known₁, recalls₁, run⟩ := agrees known recalls
    cases result with
    | error e => exact ⟨known₁, recalls₁, by rw [run]⟩
    | ok reader => exact ⟨_, recalls₁.put own, by rw [run]⟩
  · exact ⟨known, recalls, by rw [← own, recalls text reader there]⟩

/-! ## The walk -/

theorem agrees_walkAll {ts : List TypeSpelling}
    (each : ∀ t ∈ ts, r.Agrees (r.walk remembering t) (r.search t)) :
    r.Agrees (r.walkAll remembering ts) (r.searchAll ts) := by
  induction ts with
  | nil =>
    rw [searchAll, walkAll, walkAll]
    exact agrees_pure []
  | cons t ts ih =>
    rw [searchAll, walkAll, walkAll]
    refine (each t List.mem_cons_self).bind fun _ => ?_
    exact (ih fun u there => each u (List.mem_cons_of_mem t there)).bind fun _ => agrees_pure _

/-- A search that remembers what it finds agrees with one without memory. -/
theorem agrees_walk {t : TypeSpelling} (readable : t.Readable) :
    r.Agrees (r.walk remembering t) (r.search t) := by
  induction readable with
  | plain text readBack =>
    have own : r.find text = r.search (.plain text) := congrArg r.search readBack
    rw [search, walk] at own ⊢
    exact ((agrees_throw _).wholeOr text).remembering own
  | optional text wrapped readBack _ ih =>
    have own : r.find text = r.search (.optional text wrapped) := congrArg r.search readBack
    rw [search, walk] at own ⊢
    refine (Agrees.wholeOr ?_ text).remembering own
    exact ih.bind fun _ => agrees_pure _
  | array text element readBack _ ih =>
    have own : r.find text = r.search (.array text element) := congrArg r.search readBack
    rw [search, walk] at own ⊢
    refine (Agrees.wholeOr ?_ text).remembering own
    exact ih.bind fun _ => agrees_pure _
  | dictionary text key value readBack _ _ ihKey ihValue =>
    have own : r.find text = r.search (.dictionary text key value) := congrArg r.search readBack
    rw [search, walk] at own ⊢
    refine (Agrees.wholeOr ?_ text).remembering own
    exact ihKey.bind fun _ => ihValue.bind fun _ => agrees_pure _
  | generic text name arguments readBack _ ih =>
    have own : r.find text = r.search (.generic text name arguments) := congrArg r.search readBack
    rw [search, walk] at own ⊢
    refine (Agrees.wholeOr ?_ text).remembering own
    cases NameTable.get? r.generic name with
    | none => exact agrees_throw _
    | some factory => exact (agrees_walkAll ih).bind fun _ => agrees_applyFactory _ _ _

/-! ## Registries that were in use -/

mutual

/-- Only the registered types matter to a search without memory. -/
theorem search_congr {r' : Registry} (plain : r.plain = r'.plain)
    (generic : r.generic = r'.generic) :
    ∀ t : TypeSpelling, r.search t = r'.search t
  | .plain text => by
    rw [search, search, walk, walk, wholeOr, wholeOr, plain]
  | .optional text wrapped => by
    have part : r.walk _ wrapped = r'.walk _ wrapped := search_congr plain generic wrapped
    rw [search, search, walk, walk, wholeOr, wholeOr, plain, part]
  | .array text element => by
    have part : r.walk _ element = r'.walk _ element := search_congr plain generic element
    rw [search, search, walk, walk, wholeOr, wholeOr, plain, part]
  | .dictionary text key value => by
    have keyPart : r.walk _ key = r'.walk _ key := search_congr plain generic key
    have valuePart : r.walk _ value = r'.walk _ value := search_congr plain generic value
    rw [search, search, walk, walk, wholeOr, wholeOr, plain, keyPart, valuePart]
  | .generic text name arguments => by
    have parts : r.walkAll _ arguments = r'.walkAll _ arguments :=
      searchAll_congr plain generic arguments
    rw [search, search, walk, walk, wholeOr, wholeOr, plain, generic, parts]

theorem searchAll_congr {r' : Registry} (plain : r.plain = r'.plain)
    (generic : r.generic = r'.generic) :
    ∀ ts : List TypeSpelling, r.searchAll ts = r'.searchAll ts
  | [] => by rw [searchAll, searchAll, walkAll, walkAll]
  | t :: ts => by
    have first : r.walk _ t = r'.walk _ t := search_congr plain generic t
    have rest : r.walkAll _ ts = r'.walkAll _ ts := searchAll_congr plain generic ts
    rw [searchAll, searchAll, walkAll, walkAll, first, rest]

end

/-- A registry as it comes about: types are registered and spellings are looked up, in any order. -/
inductive Reached : Registry → Prop
  | empty : Reached .empty
  | register {r : Registry} (reached : Reached r) (name : String) (reader : Reader Value) :
      Reached (r.register name reader)
  | registerFactory {r : Registry} (reached : Reached r) (name : String) (factory : Factory) :
      Reached (r.registerFactory name factory)
  | resolve {r : Registry} (reached : Reached r) (spelling : String) :
      Reached (r.resolve spelling).2
  | contains {r : Registry} (reached : Reached r) (spelling : String) :
      Reached (r.contains spelling).2

/-- Every registry with distinct names that remembers nothing comes about. -/
theorem reached_of_nodup {plain : NameTable (Reader Value)} {generic : NameTable Factory}
    (plainNames : (NameTable.names plain).Nodup) (genericNames : (NameTable.names generic).Nodup) :
    Reached ⟨plain, generic, []⟩ := by
  induction generic using List.reverseRecOn with
  | nil =>
    induction plain using List.reverseRecOn with
    | nil => exact .empty
    | append_singleton before e ih =>
      rw [NameTable.names, List.map_append, List.nodup_append] at plainNames
      obtain ⟨earlier, -, apart⟩ := plainNames
      have new : e.1 ∉ NameTable.names before := fun there =>
        apart e.1 there e.1 (List.mem_singleton_self e.1) rfl
      have reached := (ih earlier).register e.1 e.2
      rwa [register, NameTable.put_of_new new] at reached
  | append_singleton before e ih =>
    rw [NameTable.names, List.map_append, List.nodup_append] at genericNames
    obtain ⟨earlier, -, apart⟩ := genericNames
    have new : e.1 ∉ NameTable.names before := fun there =>
      apart e.1 there e.1 (List.mem_singleton_self e.1) rfl
    have reached := (ih earlier).registerFactory e.1 e.2
    rwa [registerFactory, NameTable.put_of_new new] at reached

theorem reached_standard : Reached standard := by
  apply reached_of_nodup <;> decide

theorem contains_snd (spelling : String) : (r.contains spelling).2 = (r.resolve spelling).2 := by
  rw [contains]
  rcases r.resolve spelling with ⟨e | _, r'⟩
  · cases e <;> rfl
  · rfl

/-- Looking up a spelling gives what is found without memory, and memory stays sound. -/
theorem resolve_of_recalls (recalls : r.Recalls r.remembered) (spelling : String) :
    (r.resolve spelling).1 = r.find spelling ∧
      (r.resolve spelling).2.Recalls (r.resolve spelling).2.remembered := by
  obtain ⟨known, sound, run⟩ :=
    agrees_walk (TypeSpelling.readable_read spelling) r.remembered recalls
  have result : r.resolve spelling = (r.find spelling, { r with remembered := known }) := by
    rw [resolve, run]
    rfl
  rw [result]
  refine ⟨rfl, fun text reader there => ?_⟩
  have same : ({ r with remembered := known } : Registry).search (TypeSpelling.read text) =
      r.search (TypeSpelling.read text) := by
    apply search_congr
    · rfl
    · rfl
  exact same.trans (sound text reader there)

theorem Reached.recalls (reached : r.Reached) : r.Recalls r.remembered := by
  induction reached with
  | empty => exact nofun
  | register => exact nofun
  | registerFactory => exact nofun
  | resolve _ spelling ih => exact (resolve_of_recalls ih spelling).2
  | contains _ spelling ih =>
    rw [contains_snd]
    exact (resolve_of_recalls ih spelling).2

/-- Whatever was looked up before, a spelling has the reader that the registered types give. -/
theorem Reached.resolve_eq_find (reached : r.Reached) (spelling : String) :
    (r.resolve spelling).1 = r.find spelling :=
  (resolve_of_recalls reached.recalls spelling).1

end ViewModifiers.Stylesheet.Registry
