import ViewModifiers.Proofs.Stylesheet.Acceptance
import ViewModifiers.Proofs.Stylesheet.Blame
import ViewModifiers.Proofs.Stylesheet.StandardTypes

/-!
# Sets of values that can change

Events and dictionaries can change, and so can lists and references that contain them. A spelling
tells whether it stands for values that may change, and whether it asks for a set of them somewhere.
The standard reader of a spelling blames nothing but the shape of the stylesheet exactly if it does
not (`blames_only_faults_iff`).
-/

namespace ViewModifiers.Stylesheet

open Reader Text TypeSpelling

/-! ## Spellings -/

namespace TypeSpelling

mutual

/-- Whether a standard type has values that can change. -/
def mayChange : TypeSpelling → Bool
  | plain text => text = "Event"
  | optional _ wrapped => wrapped.mayChange
  | array _ element => element.mayChange
  | dictionary _ _ _ => true
  | generic _ name arguments =>
    ["AttributeReference", "Array", "Optional"].contains name && anyMayChange arguments

/-- Whether any of several types has values that can change. -/
def anyMayChange : List TypeSpelling → Bool
  | [] => false
  | t :: ts => t.mayChange || anyMayChange ts

end

mutual

/-- Whether a type asks for sets of values that can change. The types of keys and of what is behind
a tracked name are not read. -/
def wantsChangeableSet : TypeSpelling → Bool
  | plain _ => false
  | optional _ wrapped => wrapped.wantsChangeableSet
  | array _ element => element.wantsChangeableSet
  | dictionary _ _ value => value.wantsChangeableSet
  | generic _ name arguments =>
    name = "Set" && anyMayChange arguments ||
      name ≠ "ChangeTracked" && anyWantsChangeableSet arguments

/-- Whether any of several types asks for sets of values that can change. -/
def anyWantsChangeableSet : List TypeSpelling → Bool
  | [] => false
  | t :: ts => t.wantsChangeableSet || anyWantsChangeableSet ts

end

theorem anyMayChange_single (t : TypeSpelling) : anyMayChange [t] = t.mayChange := by
  rw [anyMayChange, anyMayChange, Bool.or_false]

theorem anyWantsChangeableSet_single (t : TypeSpelling) :
    anyWantsChangeableSet [t] = t.wantsChangeableSet := by
  rw [anyWantsChangeableSet, anyWantsChangeableSet, Bool.or_false]

end TypeSpelling

/-! ## No set of values that can change -/

namespace Registry

variable {r : Registry} {found : Reader Value}

/-- A registry of the standard generic types and of readers that blame only what may be blamed. Only
under the name of the standard type of events it may have a reader of values that can change. -/
structure BlamesOnly (blamed : Failure → Prop) (r : Registry) : Prop where
  plain : ∀ entry ∈ r.plain, Yields blamed (entry.1 ≠ "Event") entry.2
  generic : r.KnowsStandardGenerics

variable {blamed : Failure → Prop}

theorem BlamesOnly.whole (registry : r.BlamesOnly blamed) {text : String}
    (known : NameTable.get? r.plain text = some found) : Yields blamed (text ≠ "Event") found :=
  registry.plain _ (NameTable.mem_of_get? known)

theorem BlamesOnly.register (registry : r.BlamesOnly blamed) (name : String)
    {reader : Reader Value} (yields : Yields blamed (name ≠ "Event") reader) :
    (r.register name reader).BlamesOnly blamed where
  plain := by
    intro entry there
    rcases NameTable.mem_put there with rfl | there
    · exact yields
    · exact registry.plain entry there
  generic := registry.generic

/-- Only events are spelled as events are. -/
theorem text_ne_event {t : TypeSpelling} (readable : Readable t) (steady : t.mayChange = false) :
    t.text ≠ "Event" := by
  intro same
  have own := readable.read_text
  rw [same] at own
  subst own
  cases steady

section Faults

variable (faults : ∀ fault, blamed (.malformed fault))

include faults

theorem blamesOnly_standard : standard.BlamesOnly blamed where
  plain := by
    intro entry there
    simp only [standard, List.mem_cons, List.not_mem_nil, or_false] at there
    rcases there with rfl | rfl | rfl | rfl | rfl | rfl | rfl | rfl | rfl | rfl | rfl | rfl
    · exact yields_number faults
    · exact yields_number faults
    · exact yields_number faults
    · exact yields_integer faults
    · exact yields_flag faults
    · exact yields_string faults
    · exact yields_atomText faults
    · exact (yields_event faults).mono fun v never other => absurd rfl other
    · exact yields_views faults .view
    · exact yields_views faults .inlineView
    · exact yields_views faults .toolbarContent
    · exact yields_textTemplate faults
  generic := rfl

/-- What a standard generic type makes of the reader of its argument. -/
theorem yields_standardGeneric {text name : String} {build : Reader Value → Reader Value}
    (isStandard : StandardGeneric name build) {t : TypeSpelling} {reader : Reader Value}
    (argument : t.wantsChangeableSet = false → Yields blamed (t.mayChange = false) reader)
    (never : (TypeSpelling.generic text name [t]).wantsChangeableSet = false) :
    Yields blamed ((TypeSpelling.generic text name [t]).mayChange = false) (build reader) := by
  rw [wantsChangeableSet, anyMayChange_single, anyWantsChangeableSet_single] at never
  rw [mayChange, anyMayChange_single]
  cases isStandard with
  | attributeReference => exact yields_attributeOr faults (argument never)
  | changeTracked => exact yields_binding faults
  | set =>
    obtain ⟨steady, never⟩ := Bool.or_eq_false_iff.1 never
    exact yields_set faults ((argument never).mono fun v isElement _ => isElement steady)
  | array => exact yields_array faults (argument never)
  | optional => exact yields_optional (argument never)

/-- A reader of a type that asks for no set of values that can change blames only what may be
blamed, and it gives values that can change only if the type has them. -/
theorem yields_of_finds (registry : r.BlamesOnly blamed) {t : TypeSpelling} (readable : Readable t)
    (never : t.wantsChangeableSet = false) (finds : r.Finds t found) :
    Yields blamed (t.mayChange = false) found := by
  induction finds with
  | whole known =>
    exact (registry.whole known).mono fun _ isElement steady =>
      isElement (text_ne_event readable steady)
  | optional _ _ ih => exact yields_optional (ih readable.wrapped never)
  | array _ _ ih => exact yields_array faults (ih readable.element never)
  | dictionary _ _ _ _ ih =>
    have values := (ih readable.value never).mono fun _ _ => trivial
    exact (yields_dictionary faults values).mono fun v _ changes => by cases changes
  | generic _ known each _ made ih =>
    obtain ⟨build, t, reader, isStandard, rfl, rfl, rfl⟩ :=
      exists_argument registry.generic known each made
    exact yields_standardGeneric faults isStandard (ih _ List.mem_cons_self readable.argument) never

theorem yields_find (registry : r.BlamesOnly blamed) {spelling : String}
    (never : (read spelling).wantsChangeableSet = false) (h : r.find spelling = .ok found) :
    Yields blamed ((read spelling).mayChange = false) found :=
  yields_of_finds faults registry (readable_read spelling) never (find_eq_ok_iff.1 h)

end Faults

end Registry

/-! ## Samples of values that can change

Every type with values that can change has such a value that is written without numbers and does not
start like `nil`, an attribute or the end of a list.
-/

/-- Tokens that can be read as they are wherever a value is wanted. -/
structure IsSample (tokens : List Token) : Prop where
  starts : ∃ t rest, tokens = t :: rest ∧ (t.kind = .string ∨ t.kind = .openBracket)
  noNumbers : ∀ t ∈ tokens, t.kind ≠ .number

/-- A list with one item. -/
def listOfOne (tokens : List Token) : List Token :=
  sign .openBracket :: tokens ++ [sign .closeBracket]

namespace IsSample

variable {tokens : List Token}

theorem startsItem (sample : IsSample tokens) : StartsItem tokens := by
  obtain ⟨t, rest, rfl, kind⟩ := sample.starts
  refine ⟨t, rest, rfl, ?_⟩
  rcases kind with kind | kind <;> simp [kind]

/-- What a sample does not start with. -/
theorem current_ne (sample : IsSample tokens) {kind : TokenKind} (noString : kind ≠ .string)
    (noList : kind ≠ .openBracket) (tail : List Token) (finish : Source.Position) :
    (⟨tokens ++ tail, finish⟩ : Cursor).current.kind ≠ kind := by
  obtain ⟨t, rest, rfl, starts⟩ := sample.starts
  rintro rfl
  exact starts.elim noString noList

theorem of_bracketed {inner : List Token} (noNumbers : ∀ t ∈ inner, t.kind ≠ .number) :
    IsSample (listOfOne inner) where
  starts := ⟨_, _, rfl, .inr rfl⟩
  noNumbers := by
    intro t there
    rcases List.mem_cons.1 there with rfl | there
    · nofun
    · rcases List.mem_append.1 there with there | there
      · exact noNumbers t there
      · obtain rfl := List.mem_singleton.1 there
        nofun

theorem convertible (sample : IsSample tokens) (finish : Source.Position) :
    (⟨tokens, finish⟩ : Cursor).Convertible :=
  fun t there isNumber => absurd isNumber (sample.noNumbers t there)

end IsSample

namespace Reader

variable {value : Reader Value} {tokens : List Token}

/-- A reader takes a sample of a value that can change. -/
def OffersChangeable (r : Reader Value) : Prop :=
  ∃ tokens v, IsSample tokens ∧ r.Takes tokens v ∧ v.isElement = false

/-- A reader goes wrong on tokens, whatever stands behind them, because a set takes no value that
can change. -/
def Trips {α : Type} (r : Reader α) (tokens : List Token) : Prop :=
  ∀ tail finish, ∃ c', r.run' ⟨tokens ++ tail, finish⟩ = (.error .changeableElement, c')

/-- A reader goes wrong on a sample. -/
def CanTrip (r : Reader Value) : Prop := ∃ tokens, IsSample tokens ∧ r.Trips tokens

/-! ### Where a sample is read as it is -/

theorem run'_optional_of_sample (sample : IsSample tokens) (tail : List Token)
    (finish : Source.Position) :
    (optional value).run' ⟨tokens ++ tail, finish⟩ = value.run' ⟨tokens ++ tail, finish⟩ := by
  have noWord := sample.current_ne (by decide : TokenKind.name ≠ .string) (by decide) tail finish
  rw [optional, run'_bind_of_ok (run'_isAtWord _ _), if_neg (by simp [noWord])]

theorem run'_attributeOr_of_sample (sample : IsSample tokens) (tail : List Token)
    (finish : Source.Position) :
    (attributeOr value).run' ⟨tokens ++ tail, finish⟩ =
      (Value.constant <$> value).run' ⟨tokens ++ tail, finish⟩ := by
  have noCall := sample.current_ne (by decide : TokenKind.openBrace ≠ .string) (by decide) tail
    finish
  rw [attributeOr, run'_bind_of_ok (run'_isAt _ _), if_neg (by simp [noCall]), map_eq_pure_bind]

theorem takes_bracketed_one {α : Type} {item : Reader α} {a : α} (what : Expectation)
    (starts : StartsItem tokens) (takes : item.Takes tokens a) :
    (bracketed what item).Takes (listOfOne tokens) [a] := by
  have list : Bracketed ([(tokens, a)].map (·.1)) (listOfOne tokens) := .mk _ _ rfl rfl _ (.last _)
  exact takes_bracketed what list (by simpa using takes.inList) (by simpa using starts)

/-! ### Readers of values that can change -/

theorem offersChangeable_event : OffersChangeable event :=
  ⟨[word .string "tap"], .event "tap" [],
    { starts := ⟨_, _, rfl, .inl rfl⟩, noNumbers := by decide }, fun _ _ => rfl, rfl⟩

theorem offersChangeable_dictionary : OffersChangeable (dictionary value) := by
  refine ⟨listOfOne [], .dictionary [], .of_bracketed nofun, fun tail finish => ?_, rfl⟩
  rw [dictionary, run'_bind_of_ok (run'_bracketed_of_empty rfl rfl)]
  rfl

namespace OffersChangeable

variable (offers : OffersChangeable value)

include offers

theorem optional : OffersChangeable (Reader.optional value) := by
  obtain ⟨tokens, v, sample, takes, changes⟩ := offers
  refine ⟨tokens, v, sample, fun tail finish => ?_, changes⟩
  rw [run'_optional_of_sample sample, takes tail finish]

theorem attributeOr : OffersChangeable (Reader.attributeOr value) := by
  obtain ⟨tokens, v, sample, takes, changes⟩ := offers
  refine ⟨tokens, .constant v, sample, fun tail finish => ?_, changes⟩
  rw [run'_attributeOr_of_sample sample, takes.map Value.constant tail finish]

theorem array : OffersChangeable (Reader.array value) := by
  obtain ⟨tokens, v, sample, takes, changes⟩ := offers
  have takesList := takes_bracketed_one .list sample.startsItem takes
  refine ⟨listOfOne tokens, .tuple [v], .of_bracketed sample.noNumbers, ?_, ?_⟩
  · intro tail finish
    rw [Reader.array, run'_bind_of_ok (takesList tail finish)]
    rfl
  · rw [Value.isElement, Value.areElements, changes, Bool.false_and]

/-- A set of values that can change goes wrong on a list of one of them. -/
theorem canTrip_set : CanTrip (Reader.set value) := by
  obtain ⟨tokens, v, sample, takes, changes⟩ := offers
  have takesList := takes_bracketed_one .list sample.startsItem takes
  refine ⟨listOfOne tokens, .of_bracketed sample.noNumbers, fun tail finish => ?_⟩
  refine ⟨⟨tail, finish⟩, ?_⟩
  rw [Reader.set, run'_bind_of_ok (takesList tail finish), Value.areElements, changes,
    Bool.false_and]
  rfl

end OffersChangeable

/-! ### Readers of sets inside -/

theorem Trips.bind {α β : Type} {r : Reader α} {f : α → Reader β} (trips : r.Trips tokens) :
    (r >>= f).Trips tokens := by
  intro tail finish
  obtain ⟨c', run⟩ := trips tail finish
  exact ⟨c', run'_bind_of_error run⟩

theorem Trips.bracketed {α : Type} {item : Reader α} {what : Expectation}
    (starts : StartsItem tokens) (trips : item.Trips tokens) :
    (bracketed what item).Trips (listOfOne tokens) := by
  intro tail finish
  obtain ⟨c', run⟩ := trips (sign .closeBracket :: tail) finish
  have next : (nextItem item).run' ⟨tokens ++ sign .closeBracket :: tail, finish⟩ =
      (.error .changeableElement, c') := by
    rw [nextItem, run'_bind_of_ok (run'_isAt .closeBracket _), if_neg starts.not_atClose,
      run'_bind_of_error run]
  refine ⟨c', ?_⟩
  have opened : (expectAs what .openBracket).run'
      ⟨sign .openBracket :: (tokens ++ sign .closeBracket :: tail), finish⟩ =
      (.ok (sign .openBracket), ⟨tokens ++ sign .closeBracket :: tail, finish⟩) :=
    run'_expectAs_cons rfl
  rw [listOfOne, List.cons_append, List.cons_append, List.append_assoc, List.singleton_append,
    Reader.bracketed, run'_bind_of_ok opened, run'_bind_of_ok (run'_get _)]
  refine run'_bind_of_error ?_
  rw [itemsFrom, run'_bind_of_error next]

namespace CanTrip

variable (canTrip : CanTrip value)

include canTrip

theorem optional : CanTrip (Reader.optional value) := by
  obtain ⟨tokens, sample, trips⟩ := canTrip
  refine ⟨tokens, sample, fun tail finish => ?_⟩
  rw [run'_optional_of_sample sample]
  exact trips tail finish

theorem attributeOr : CanTrip (Reader.attributeOr value) := by
  obtain ⟨tokens, sample, trips⟩ := canTrip
  refine ⟨tokens, sample, fun tail finish => ?_⟩
  rw [run'_attributeOr_of_sample sample, map_eq_pure_bind]
  exact trips.bind tail finish

theorem array : CanTrip (Reader.array value) := by
  obtain ⟨tokens, sample, trips⟩ := canTrip
  exact ⟨_, .of_bracketed sample.noNumbers, (trips.bracketed sample.startsItem).bind⟩

theorem set : CanTrip (Reader.set value) := by
  obtain ⟨tokens, sample, trips⟩ := canTrip
  exact ⟨_, .of_bracketed sample.noNumbers, (trips.bracketed sample.startsItem).bind⟩

theorem dictionary : CanTrip (Reader.dictionary value) := by
  obtain ⟨tokens, sample, trips⟩ := canTrip
  let entry := word .name "key" :: sign .colon :: tokens
  have noNumbers : ∀ t ∈ entry, t.kind ≠ .number :=
    List.forall_mem_cons.2 ⟨nofun, List.forall_mem_cons.2 ⟨nofun, sample.noNumbers⟩⟩
  have tripsEntry : (keyedValue value).Trips entry := by
    intro tail finish
    obtain ⟨c', run⟩ := trips tail finish
    refine ⟨c', ?_⟩
    rw [keyedValue, run'_bind_of_ok (run'_isAtKey _), if_pos (by rfl),
      run'_bind_of_ok (run'_key _)]
    exact run'_bind_of_error run
  have starts : StartsItem entry := ⟨_, _, rfl, by decide⟩
  exact ⟨_, .of_bracketed noNumbers, (tripsEntry.bracketed starts).bind⟩

end CanTrip

end Reader

/-! ## The standard registry -/

namespace Registry

variable {found : Reader Value}

/-- A standard type with values that can change has a reader that takes a sample of them. -/
theorem offersChangeable_of_finds {t : TypeSpelling} (readable : Readable t)
    (changes : t.mayChange = true) (finds : standard.Finds t found) : found.OffersChangeable := by
  induction finds with
  | @whole t found known =>
    rw [eq_plain_of_known readable known, mayChange, decide_eq_true_eq] at changes
    rw [changes] at known
    cases known
    exact offersChangeable_event
  | optional _ _ ih => exact (ih readable.wrapped changes).optional
  | array _ _ ih => exact (ih readable.element changes).array
  | dictionary => exact offersChangeable_dictionary
  | generic _ known each _ made ih =>
    obtain ⟨build, t, reader, isStandard, rfl, rfl, rfl⟩ := exists_argument rfl known each made
    rw [mayChange, anyMayChange_single, Bool.and_eq_true] at changes
    have offers := ih _ List.mem_cons_self readable.argument changes.2
    cases isStandard with
    | attributeReference => exact offers.attributeOr
    | changeTracked => cases changes.1
    | set => cases changes.1
    | array => exact offers.array
    | optional => exact offers.optional

/-- The reader of a standard type that asks for a set of values that can change goes wrong on a
sample of them. -/
theorem canTrip_of_finds {t : TypeSpelling} (readable : Readable t)
    (wants : t.wantsChangeableSet = true) (finds : standard.Finds t found) : found.CanTrip := by
  induction finds with
  | whole known =>
    rw [eq_plain_of_known readable known] at wants
    cases wants
  | optional _ _ ih => exact (ih readable.wrapped wants).optional
  | array _ _ ih => exact (ih readable.element wants).array
  | dictionary _ _ _ _ ih => exact (ih readable.value wants).dictionary
  | generic _ known each finds made ih =>
    obtain ⟨build, t, reader, isStandard, rfl, rfl, rfl⟩ := exists_argument rfl known each made
    rw [wantsChangeableSet, anyMayChange_single, anyWantsChangeableSet_single] at wants
    have inside (wants : t.wantsChangeableSet = true) : reader.CanTrip :=
      ih _ List.mem_cons_self readable.argument wants
    cases isStandard with
    | attributeReference => exact (inside wants).attributeOr
    | changeTracked => cases wants
    | set =>
      rcases Bool.or_eq_true_iff.1 wants with changes | wants
      · have offers :=
          offersChangeable_of_finds readable.argument changes (finds _ List.mem_cons_self)
        exact offers.canTrip_set
      · exact (inside wants).set
    | array => exact (inside wants).array
    | optional => exact (inside wants).optional

/-- Where all numbers can be converted, the standard reader of a spelling blames nothing but the
shape of the stylesheet exactly if the spelling asks for no set of values that can change. -/
theorem blames_only_faults_iff {spelling : String} (h : standard.find spelling = .ok found) :
    (∀ c : Cursor, c.Convertible → ∀ e c', found.run' c = (.error e, c') →
        ∃ fault, e = .malformed fault) ↔
      (read spelling).wantsChangeableSet = false := by
  constructor
  · intro onlyFaults
    refine Bool.eq_false_iff.2 fun wants => ?_
    obtain ⟨tokens, sample, trips⟩ :=
      canTrip_of_finds (readable_read spelling) wants (find_eq_ok_iff.1 h)
    obtain ⟨c', run⟩ := trips [] .start
    rw [List.append_nil] at run
    obtain ⟨fault, same⟩ := onlyFaults _ (sample.convertible .start) _ c' run
    cases same
  · intro never c convertible e c' run
    let blamed (e : Failure) : Prop := ∃ fault, e = .malformed fault
    have faults (fault : Fault) : blamed (.malformed fault) := ⟨fault, rfl⟩
    exact ((yields_find faults (blamesOnly_standard faults) never h) c convertible).2 e c' run

end Registry

end ViewModifiers.Stylesheet
