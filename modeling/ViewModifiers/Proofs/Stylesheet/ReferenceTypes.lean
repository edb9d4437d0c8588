import ViewModifiers.Proofs.Stylesheet.References

/-!
# Types with context references

What is read without a schema has no context reference. So the spelling of a type tells whether its
values may have some, and whether resolving such a value may miss one (`gives_find`).
-/

namespace ViewModifiers.Stylesheet

open Catalog Reader Text TypeSpelling

/-! ## What readers give -/

namespace Reader

variable {α β : Type} {p : α → Prop} {q : β → Prop}

theorem Gives.bind {r : Reader β} {f : β → Reader α} (first : Gives q r)
    (second : ∀ b, q b → Gives p (f b)) : Gives p (r >>= f) := by
  intro c a c' run
  obtain ⟨b, c₁, start, later⟩ := run'_bind_eq_ok_iff.1 run
  exact second b (first c b c₁ start) c₁ a c' later

theorem gives_nextItem {item : Reader α} (each : Gives p item) :
    Gives (fun found => ∀ a b, found = some (a, b) → p a) (nextItem item) := by
  refine gives_bind fun _ => gives_ite (gives_pure nofun) ?_
  refine each.bind fun a has => gives_bind fun _ => gives_pure fun a' b same => ?_
  cases same
  exact has

theorem gives_itemsFrom {item : Reader α} (each : Gives p item) (measure : List Token)
    (found : List α) (before : ∀ a ∈ found, p a) :
    Gives (fun items => ∀ a ∈ items, p a) (itemsFrom item measure found) := by
  have whole (items : List α) (all : ∀ a ∈ items, p a) :
      Gives (fun items => ∀ a ∈ items, p a) (pure items.reverse) :=
    gives_pure fun a there => all a (List.mem_reverse.1 there)
  induction measure generalizing found with
  | nil =>
    rw [itemsFrom]
    refine (gives_nextItem each).bind fun next has => ?_
    split
    · exact whole found before
    · exact whole _ (List.forall_mem_cons.2 ⟨has _ _ rfl, before⟩)
    · exact gives_bind fun _ => gives_throw _
  | cons t measure ih =>
    rw [itemsFrom]
    refine (gives_nextItem each).bind fun next has => ?_
    split
    · exact whole found before
    · exact whole _ (List.forall_mem_cons.2 ⟨has _ _ rfl, before⟩)
    · exact ih _ (List.forall_mem_cons.2 ⟨has _ _ rfl, before⟩)

theorem gives_bracketed {item : Reader α} (what : Expectation) (each : Gives p item) :
    Gives (fun items => ∀ a ∈ items, p a) (bracketed what item) :=
  gives_bind fun _ => gives_bind fun _ => (gives_itemsFrom each _ [] nofun).bind fun _ all =>
    gives_bind fun _ => gives_pure all

end Reader

/-! ## Values that are read without a schema -/

/-- A value without context references. -/
abbrev Unreferring (v : Value) : Prop := v.hasReference = false

section Untyped

variable {value : Reader Value}

theorem gives_numberOf (text : String) : Gives Unreferring (numberOf text) :=
  gives_ite (gives_bind fun _ => gives_pure rfl) (gives_bind fun _ => gives_pure rfl)

theorem unreferring_wordValue (word : String) : Unreferring (wordValue word) := by
  unfold wordValue
  split <;> rfl

theorem gives_entry (inside : Gives Unreferring value) :
    Gives (fun e => Unreferring e.2) (entry value) :=
  gives_bind fun _ => gives_ite
    (gives_bind fun _ => inside.bind fun _ without => gives_pure without)
    (inside.bind fun _ without => gives_pure without)

theorem unreferring_entryValue {e : Option String × Value} (without : Unreferring e.2) :
    Unreferring (entryValue e) := by
  obtain ⟨_ | key, v⟩ := e
  · exact without
  · exact without

variable {entries : List (Option String × Value)} (without : ∀ e ∈ entries, Unreferring e.2)

include without

theorem unreferring_unkeyed : ∀ v ∈ unkeyed entries, Unreferring v := by
  intro v there
  obtain ⟨⟨_ | key, w⟩, listed, same⟩ := List.mem_filterMap.1 there
  · cases same
    exact without _ listed
  · cases same

theorem unreferring_keyed : ∀ e ∈ keyed entries, Unreferring e.2 := by
  intro e there
  obtain ⟨⟨_ | key, w⟩, listed, same⟩ := List.mem_filterMap.1 (NameTable.mem_ofList there)
  · cases same
  · cases same
    exact without _ listed

omit without

theorem unreferring_pairs {v : Value} (without : Unreferring v) :
    ∀ e ∈ v.pairs, Unreferring e.2 := by
  intro e there
  cases v with
  | list items =>
    obtain ⟨w, listed, same⟩ := List.mem_filterMap.1 there
    have whole := anyHasReference_eq_false_iff.1 without w listed
    cases w with
    | pair key value =>
      cases same
      exact whole
    | _ => cases same
  | _ => cases there

theorem unreferring_metadataOf (start : Token) {values : NameTable Value}
    (without : ∀ e ∈ values, Unreferring e.2) :
    metadataHasReference (metadataOf start values) = false := by
  have named : Unreferring ((NameTable.get? values "module").getD .null) := by
    cases found : NameTable.get? values "module" with
    | none => rfl
    | some v => exact without _ (NameTable.mem_of_get? found)
  show Unreferring (moduleNameOf _)
  unfold moduleNameOf
  split
  · rfl
  · exact named

theorem gives_metadataOver (inside : Gives Unreferring value) :
    Gives (fun m => metadataHasReference m = false) (metadataOver value) := by
  have each : Gives (fun e => Unreferring e.2) (metadataEntry value) :=
    gives_bind fun _ => gives_bind fun _ => inside.bind fun _ without => gives_pure without
  refine gives_bind fun start => (gives_bracketed .metadata each).bind fun entries all => ?_
  apply gives_pure
  apply unreferring_metadataOf
  intro e there
  exact all e (NameTable.mem_ofList there)

/-- Arguments without context references. -/
def UnreferringArguments (found : List Value × NameTable Value) : Prop :=
  (∀ v ∈ found.1, Unreferring v) ∧ ∀ e ∈ found.2, Unreferring e.2

theorem gives_argumentsOver (inside : Gives Unreferring value) :
    Gives UnreferringArguments (argumentsOver value) := by
  have closing (entries : List (Option String × Value)) (all : ∀ e ∈ entries, Unreferring e.2) :
      Gives UnreferringArguments (do
        let _ ← expect .closeBrace
        return (unkeyed entries, keyed entries)) :=
    gives_bind fun _ => gives_pure ⟨unreferring_unkeyed all, unreferring_keyed all⟩
  refine gives_bind fun _ => gives_ite ?_ (closing [] nofun)
  exact (gives_bracketed .argumentList (gives_entry inside)).bind closing

theorem gives_callHeadOver (inside : Gives Unreferring value) :
    Gives (fun head => metadataHasReference head.2 = false) (callHeadOver value) :=
  gives_bind fun _ => gives_bind fun _ => gives_ite
    (gives_bind fun _ => gives_bind fun _ =>
      (gives_metadataOver inside).bind fun _ without => gives_pure without)
    (gives_failExpecting _)

theorem gives_callOver (inside : Gives Unreferring value) :
    Gives (fun call => callHasReference call = false) (callOver value) := by
  refine (gives_callHeadOver inside).bind fun head metadata => ?_
  refine (gives_argumentsOver inside).bind fun found without => gives_pure ?_
  simp only [callHasReference, Bool.or_eq_false_iff, anyHasReference_eq_false_iff,
    anyEntryHasReference_eq_false_iff]
  exact ⟨⟨metadata, without.1⟩, without.2⟩

theorem gives_anyOver (inside : Gives Unreferring value) : Gives Unreferring (anyOver value) := by
  refine gives_bind fun t => ?_
  split
  next => exact gives_bind fun _ => gives_numberOf _
  next => exact gives_bind fun _ => gives_pure rfl
  next => exact gives_bind fun _ => gives_pure rfl
  next => exact gives_bind fun _ => gives_pure (unreferring_wordValue _)
  next => exact gives_bind fun _ => gives_bind fun _ => gives_pure rfl
  next =>
    refine (gives_bracketed .list (gives_entry inside)).bind fun entries all => gives_pure ?_
    apply anyHasReference_eq_false_iff.2
    intro v there
    obtain ⟨e, listed, rfl⟩ := List.mem_map.1 there
    exact unreferring_entryValue (all e listed)
  next => exact (gives_callOver inside).bind fun _ without => gives_pure without
  next => exact gives_failExpecting _

theorem gives_anyFrom (measure : List Token) : Gives Unreferring (anyFrom measure) := by
  induction measure with
  | nil => exact gives_anyOver (gives_bind fun _ => gives_throw _)
  | cons t measure ih => exact gives_anyOver ih

theorem gives_any : Gives Unreferring any := gives_bind fun _ => gives_anyFrom _

theorem gives_argumentsOfCall (name : String) :
    Gives UnreferringArguments (argumentsOfCall name) :=
  gives_bind fun _ => gives_bind fun _ => gives_ite
    (gives_bind fun _ => gives_bind fun _ => gives_throw _) (gives_argumentsOver gives_any)

end Untyped

/-! ## Values of types -/

theorem mem_of_mem_distinct {values : List Value} {v : Value}
    (there : v ∈ Value.distinct values) : v ∈ values := by
  induction values using List.reverseRecOn with
  | nil => cases there
  | append_singleton values w ih =>
    rw [Value.distinct_concat] at there
    split at there
    · exact List.mem_append_left _ (ih there)
    · rcases List.mem_append.1 there with before | last
      · exact List.mem_append_left _ (ih before)
      · exact List.mem_append_right _ last

/-- A value that has context references, and hides them, only if that is told of it. -/
structure Tells (refers hides : Bool) (v : Value) : Prop where
  references : refers = false → Unreferring v
  hidden : hides = false → v.hidesReference = false

variable {refers hides : Bool} {value : Reader Value}

theorem Unreferring.tells {v : Value} (without : Unreferring v) : Tells refers hides v :=
  ⟨fun _ => without, fun _ => hidesReference_of_hasReference v without⟩

theorem tells_number : Gives (Tells refers hides) number :=
  gives_bind fun _ => gives_bind fun _ => gives_pure (Unreferring.tells rfl)

theorem tells_integer : Gives (Tells refers hides) integer :=
  gives_bind fun _ => gives_ite
    (gives_bind fun _ => gives_bind fun _ => gives_pure (Unreferring.tells rfl))
    (gives_failExpecting _)

theorem tells_flag : Gives (Tells refers hides) flag :=
  gives_bind fun _ => gives_ite (gives_bind fun _ => gives_pure (Unreferring.tells rfl)) <|
    gives_bind fun _ => gives_ite (gives_bind fun _ => gives_pure (Unreferring.tells rfl))
      (gives_failExpecting _)

theorem tells_string : Gives (Tells refers hides) string :=
  gives_bind fun _ => gives_pure (Unreferring.tells rfl)

theorem tells_atomText : Gives (Tells refers hides) (Value.text <$> atomOrString) :=
  gives_map (fun _ => Unreferring.tells rfl) _

theorem tells_textTemplate : Gives (Tells true hides) textTemplate :=
  gives_bind fun _ => gives_pure ⟨nofun, fun _ => rfl⟩

theorem tells_views (place : ViewPlace) :
    Gives (Tells (contextTypes.contains place.typeName) hides) (views place) :=
  gives_bind fun _ => gives_pure ⟨id, fun _ => rfl⟩

theorem tells_binding : Gives (Tells refers hides) binding :=
  gives_bind fun _ => gives_pure (Unreferring.tells rfl)

theorem tells_event : Gives (Tells refers hides) event := by
  refine gives_bind fun _ => gives_ite ?_ ?_
  · refine (gives_argumentsOfCall _).bind fun found without => ?_
    obtain ⟨arguments, keywords⟩ := found
    dsimp only
    split
    · next name rest =>
      -- The parameters are keywords of the call, and pairs of the lists behind its name.
      apply gives_pure
      apply Unreferring.tells
      apply anyEntryHasReference_eq_false_iff.2
      intro e there
      rcases NameTable.mem_putAll there with paired | keyword
      · obtain ⟨v, listed, paired⟩ := List.mem_flatMap.1 paired
        exact unreferring_pairs (without.1 v (List.mem_cons_of_mem _ listed)) e paired
      · exact without.2 e keyword
    · exact gives_bind fun _ => gives_throw _
  · exact gives_bind fun _ => gives_pure (Unreferring.tells rfl)

theorem tells_optional (inside : Gives (Tells refers hides) value) :
    Gives (Tells refers hides) (optional value) :=
  gives_bind fun _ => gives_ite (gives_bind fun _ => gives_pure (Unreferring.tells rfl)) inside

theorem tells_array (inside : Gives (Tells refers hides) value) :
    Gives (Tells refers hides) (array value) := by
  refine (gives_bracketed .list inside).bind fun items all => gives_pure ⟨?_, ?_⟩
  · intro never
    exact anyHasReference_eq_false_iff.2 fun v there => (all v there).references never
  · intro never
    exact anyHidesReference_eq_false_iff.2 fun v there => (all v there).hidden never

theorem tells_set (inside : Gives (Tells refers hides) value) :
    Gives (Tells refers refers) (set value) := by
  refine (gives_bracketed .list inside).bind fun items all => gives_ite ?_ (gives_throw _)
  have without (never : refers = false) : Unreferring (.set (Value.distinct items)) :=
    anyHasReference_eq_false_iff.2 fun v there =>
      (all v (mem_of_mem_distinct there)).references never
  exact gives_pure ⟨without, without⟩

theorem tells_dictionary (inside : Gives (Tells refers hides) value) :
    Gives (Tells refers refers) (dictionary value) := by
  have keyed : Gives (fun e => Tells refers hides e.2) (keyedValue value) :=
    gives_bind fun _ => gives_ite
      (gives_bind fun _ => inside.bind fun _ tells => gives_pure tells) (gives_failExpecting _)
  refine (gives_bracketed .keywordList keyed).bind fun entries all => ?_
  have without (never : refers = false) : Unreferring (.dictionary (NameTable.ofList entries)) :=
    anyEntryHasReference_eq_false_iff.2 fun e there =>
      (all e (NameTable.mem_ofList there)).references never
  exact gives_pure ⟨without, without⟩

theorem tells_attributeOr (inside : Gives (Tells refers hides) value) :
    Gives (Tells true refers) (attributeOr value) := by
  refine gives_bind fun _ => gives_ite (gives_bind fun _ => gives_bind fun _ => ?_) ?_
  · split
    split
    · exact gives_pure ⟨nofun, fun _ => rfl⟩
    · exact gives_bind fun _ => gives_bind fun _ => gives_throw _
  · exact inside.bind fun v tells => gives_pure ⟨nofun, tells.references⟩

/-! ## Spellings -/

namespace TypeSpelling

mutual

/-- Whether a standard type has values with context references. -/
def mayRefer : TypeSpelling → Bool
  | plain text => contextTypes.contains text
  | optional _ wrapped => wrapped.mayRefer
  | array _ element => element.mayRefer
  | dictionary _ _ value => value.mayRefer
  | generic _ name arguments =>
    name = "AttributeReference" || name ≠ "ChangeTracked" && anyMayRefer arguments

/-- Whether any of several types has values with context references. -/
def anyMayRefer : List TypeSpelling → Bool
  | [] => false
  | t :: ts => t.mayRefer || anyMayRefer ts

end

mutual

/-- Whether a standard type has values that hide context references: in a set, in a dictionary, or
behind an attribute. -/
def mayHide : TypeSpelling → Bool
  | plain _ => false
  | optional _ wrapped => wrapped.mayHide
  | array _ element => element.mayHide
  | dictionary _ _ value => value.mayRefer
  | generic _ name arguments =>
    if name = "Array" ∨ name = "Optional" then anyMayHide arguments
    else name ≠ "ChangeTracked" && anyMayRefer arguments

/-- Whether any of several types has values that hide context references. -/
def anyMayHide : List TypeSpelling → Bool
  | [] => false
  | t :: ts => t.mayHide || anyMayHide ts

end

theorem anyMayRefer_single (t : TypeSpelling) : anyMayRefer [t] = t.mayRefer := by
  rw [anyMayRefer, anyMayRefer, Bool.or_false]

theorem anyMayHide_single (t : TypeSpelling) : anyMayHide [t] = t.mayHide := by
  rw [anyMayHide, anyMayHide, Bool.or_false]

end TypeSpelling

/-! ## Registries -/

namespace Registry

variable {r : Registry} {found : Reader Value}

/-- A registry of the standard generic types, and of readers that give context references only
under the names of the standard types of references, where they are not hidden. -/
structure TellsReferences (r : Registry) : Prop where
  plain : ∀ entry ∈ r.plain, Gives (Tells (contextTypes.contains entry.1) false) entry.2
  generic : r.KnowsStandardGenerics

theorem TellsReferences.register (registry : r.TellsReferences) (name : String)
    {reader : Reader Value} (gives : Gives (Tells (contextTypes.contains name) false) reader) :
    (r.register name reader).TellsReferences where
  plain := by
    intro entry there
    rcases NameTable.mem_put there with rfl | there
    · exact gives
    · exact registry.plain entry there
  generic := registry.generic

theorem tellsReferences_standard : standard.TellsReferences where
  plain := by
    intro entry there
    simp only [standard, List.mem_cons, List.not_mem_nil, or_false] at there
    rcases there with rfl | rfl | rfl | rfl | rfl | rfl | rfl | rfl | rfl | rfl | rfl | rfl
    · exact tells_number
    · exact tells_number
    · exact tells_number
    · exact tells_integer
    · exact tells_flag
    · exact tells_string
    · exact tells_atomText
    · exact tells_event
    · exact tells_views .view
    · exact tells_views .inlineView
    · exact tells_views .toolbarContent
    · exact tells_textTemplate
  generic := rfl

/-- What a value of a type may have and hide. -/
abbrev TellsOf (t : TypeSpelling) : Value → Prop := Tells t.mayRefer t.mayHide

/-- What is spelled as a type of references is one. -/
theorem eq_plain_of_contains {t : TypeSpelling} (readable : Readable t)
    (there : contextTypes.contains t.text = true) : t = .plain t.text := by
  have own := readable.read_text
  rw [List.contains_iff_mem] at there
  generalize t.text = text at there own
  simp only [contextTypes, List.mem_cons, List.not_mem_nil, or_false] at there
  rcases there with rfl | rfl | rfl | rfl <;> exact own.symm

/-- What is registered as a whole gives context references only if the type has them. -/
theorem TellsReferences.whole (registry : r.TellsReferences) {t : TypeSpelling}
    (readable : Readable t) (known : NameTable.get? r.plain t.text = some found) :
    Gives (TellsOf t) found := by
  have gives : Gives (Tells (contextTypes.contains t.text) false) found :=
    registry.plain _ (NameTable.mem_of_get? known)
  cases there : contextTypes.contains t.text with
  | true =>
    rw [eq_plain_of_contains readable there]
    exact gives
  | false =>
    rw [there] at gives
    exact gives.mono fun _ tells => (tells.references rfl).tells

/-- What a standard generic type makes of the reader of its argument. -/
theorem tells_standardGeneric {text name : String} {build : Reader Value → Reader Value}
    (isStandard : StandardGeneric name build) {t : TypeSpelling} {reader : Reader Value}
    (argument : Gives (TellsOf t) reader) :
    Gives (TellsOf (.generic text name [t])) (build reader) := by
  rw [TellsOf, mayRefer, mayHide, anyMayRefer_single, anyMayHide_single]
  cases isStandard with
  | attributeReference => exact tells_attributeOr argument
  | changeTracked => exact tells_binding
  | set => exact tells_set argument
  | array => exact tells_array argument
  | optional => exact tells_optional argument

/-- A reader of a type gives context references only if the type has them, and hides them only if
the type does. -/
theorem gives_of_finds (registry : r.TellsReferences) {t : TypeSpelling} (readable : Readable t)
    (finds : r.Finds t found) : Gives (TellsOf t) found := by
  induction finds with
  | whole known => exact registry.whole readable known
  | optional _ _ ih => exact tells_optional (ih readable.wrapped)
  | array _ _ ih => exact tells_array (ih readable.element)
  | dictionary _ _ _ _ ih => exact tells_dictionary (ih readable.value)
  | generic _ known each _ made ih =>
    obtain ⟨build, t, reader, isStandard, rfl, rfl, rfl⟩ :=
      exists_argument registry.generic known each made
    exact tells_standardGeneric isStandard (ih _ List.mem_cons_self readable.argument)

theorem gives_find (registry : r.TellsReferences) {spelling : String}
    (h : r.find spelling = .ok found) : Gives (TellsOf (read spelling)) found :=
  gives_of_finds registry (readable_read spelling) (find_eq_ok_iff.1 h)

end Registry

end ViewModifiers.Stylesheet
