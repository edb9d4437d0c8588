import ViewModifiers.Proofs.Stylesheet.Member
import ViewModifiers.Proofs.Stylesheet.Registry
import ViewModifiers.Proofs.Stylesheet.TypeSpelling

/-!
# Enumerated values from a registry

No standard type has enumerated values: they come from the tables that are registered under the
names of their types. Only marks for optional values hand on what is read inside them, and what is
inside is spelled in fewer characters than the whole. So a reader that is found for a name is the
one that is registered under it, or it gives no value of a class whose name is as long
(`registered_or_gives`).
-/

namespace ViewModifiers.Stylesheet

open Reader Text TypeSpelling

/-! ## What readers give -/

namespace Reader

variable {α β : Type} {p q : α → Prop}

/-- Whatever a reader gives has a property. -/
def Gives (p : α → Prop) (r : Reader α) : Prop := ∀ c a c', r.run' c = (.ok a, c') → p a

theorem Gives.mono {r : Reader α} (gives : Gives p r) (weaker : ∀ a, p a → q a) : Gives q r :=
  fun c a c' run => weaker a (gives c a c' run)

theorem gives_pure {a : α} (has : p a) : Gives p (pure a) := by
  intro c b c' run
  cases run
  exact has

theorem gives_throw (e : Failure) : Gives p (throw e) := by
  intro c a c' run
  cases run

theorem gives_bind {r : Reader β} {f : β → Reader α} (each : ∀ b, Gives p (f b)) :
    Gives p (r >>= f) := by
  intro c a c' run
  obtain ⟨b, c₁, -, later⟩ := run'_bind_eq_ok_iff.1 run
  exact each b c₁ a c' later

theorem gives_map {f : β → α} (each : ∀ b, p (f b)) (r : Reader β) : Gives p (f <$> r) := by
  intro c a c' run
  obtain ⟨b, -, rfl⟩ := run'_map_eq_ok_iff.1 run
  exact each b

theorem gives_ite {condition : Prop} [Decidable condition] {r r' : Reader α}
    (first : Gives p r) (second : Gives p r') : Gives p (if condition then r else r') := by
  split
  · exact first
  · exact second

theorem gives_failExpecting (what : Expectation) : Gives p (failExpecting what) :=
  gives_bind fun _ => gives_throw _

/-- A table gives the values that are entered. -/
theorem gives_member (members : NameTable (Except Failure Value)) :
    Gives (fun v => ∃ name, NameTable.get? members name = some (.ok v)) (member members) := by
  refine gives_bind fun ahead => ?_
  split
  · exact gives_failExpecting _
  · split
    · exact gives_throw _
    · exact gives_throw _
    · next found =>
      refine gives_bind fun _ => ?_
      split
      · exact gives_bind fun _ => gives_pure ⟨_, found⟩
      · exact gives_pure ⟨_, found⟩

end Reader

/-- No enumerated value, or one of a class whose name is shorter than a number of characters. -/
def ShortClass (n : Nat) (v : Value) : Prop :=
  ∀ type name, v = .enumCase type name → type.name.length < n

variable {n m : Nat} {value : Reader Value}

theorem ShortClass.mono (bound : n ≤ m) {v : Value} (short : ShortClass n v) : ShortClass m v :=
  fun type name same => (short type name same).trans_le bound

/-! ## Standard types -/

theorem gives_number : Gives (ShortClass n) number :=
  gives_bind fun _ => gives_bind fun _ => gives_pure nofun

theorem gives_integer : Gives (ShortClass n) integer :=
  gives_bind fun _ => gives_ite (gives_bind fun _ => gives_bind fun _ => gives_pure nofun)
    (gives_failExpecting _)

theorem gives_flag : Gives (ShortClass n) flag :=
  gives_bind fun _ => gives_ite (gives_bind fun _ => gives_pure nofun) <|
    gives_bind fun _ => gives_ite (gives_bind fun _ => gives_pure nofun) (gives_failExpecting _)

theorem gives_string : Gives (ShortClass n) string := gives_bind fun _ => gives_pure nofun

theorem gives_atomText : Gives (ShortClass n) (Value.text <$> atomOrString) :=
  gives_map (fun _ => nofun) _

theorem gives_textTemplate : Gives (ShortClass n) textTemplate :=
  gives_bind fun _ => gives_pure nofun

theorem gives_binding : Gives (ShortClass n) binding := gives_bind fun _ => gives_pure nofun

theorem gives_event : Gives (ShortClass n) event := by
  refine gives_bind fun _ => gives_ite (gives_bind fun _ => ?_) ?_
  · split
    split
    · exact gives_pure nofun
    · exact gives_bind fun _ => gives_throw _
  · exact gives_bind fun _ => gives_pure nofun

theorem gives_views (place : ViewPlace) : Gives (ShortClass n) (views place) :=
  gives_bind fun _ => gives_pure nofun

theorem gives_optional (gives : Gives (ShortClass n) value) :
    Gives (ShortClass n) (optional value) :=
  gives_bind fun _ => gives_ite (gives_bind fun _ => gives_pure nofun) gives

theorem gives_array : Gives (ShortClass n) (array value) := gives_bind fun _ => gives_pure nofun

theorem gives_dictionary : Gives (ShortClass n) (dictionary value) :=
  gives_bind fun _ => gives_pure nofun

theorem gives_set : Gives (ShortClass n) (set value) :=
  gives_bind fun _ => gives_ite (gives_pure nofun) (gives_throw _)

theorem gives_attributeOr : Gives (ShortClass n) (attributeOr value) := by
  refine gives_bind fun _ => gives_ite (gives_bind fun _ => gives_bind fun _ => ?_) ?_
  · split
    split
    · exact gives_pure nofun
    · exact gives_bind fun _ => gives_bind fun _ => gives_throw _
  · exact gives_bind fun _ => gives_pure nofun

/-! ## Registries -/

/-- A factory whose readers hand on no other enumerated values than those they are made of. -/
def Factory.KeepsShort (factory : Factory) : Prop :=
  ∀ n readers found, factory.build? readers = some found →
    (∀ reader ∈ readers, Gives (ShortClass n) reader) → Gives (ShortClass n) found

theorem Factory.keepsShort_unary {build : Reader Value → Reader Value}
    (keeps : ∀ n reader, Gives (ShortClass n) reader → Gives (ShortClass n) (build reader)) :
    (Factory.unary build).KeepsShort :=
  fun n => Factory.keeps_unary (keeps n)

namespace Registry

/-- A registry in which a reader gives no value of a class with a longer name than the one under
which the reader is registered. -/
structure NamesClasses (r : Registry) : Prop where
  plain : ∀ entry ∈ r.plain, Gives (ShortClass (entry.1.length + 1)) entry.2
  generic : ∀ entry ∈ r.generic, entry.2.KeepsShort

variable {r : Registry} {found : Reader Value}

/-- What is found for a form is registered as a whole, or gives what its parts give. -/
theorem registered_or_parts (keeps : ∀ entry ∈ r.generic, entry.2.KeepsShort) {text : String}
    {form : Form} (finds : r.Finds (ofForm readPart text form) found)
    (parts : ∀ part ∈ form.parts, ∀ reader, r.Finds (readPart part) reader →
      Gives (ShortClass n) reader) :
    NameTable.get? r.plain text = some found ∨ Gives (ShortClass n) found := by
  cases form with
  | plain =>
    cases finds with
    | whole known => exact .inl known
  | optional wrapped =>
    cases finds with
    | whole known => exact .inl known
    | optional _ part => exact .inr (gives_optional (parts wrapped List.mem_cons_self _ part))
  | array element =>
    cases finds with
    | whole known => exact .inl known
    | array => exact .inr gives_array
  | dictionary key value =>
    cases finds with
    | whole known => exact .inl known
    | dictionary => exact .inr gives_dictionary
  | generic name arguments =>
    cases finds with
    | whole known => exact .inl known
    | generic _ known each finds made =>
      refine .inr (keeps _ (NameTable.mem_of_get? known) n _ _ made ?_)
      refine List.forall_mem_map.2 fun pair there => ?_
      have listed : pair.1 ∈ arguments.map readPart := each ▸ List.mem_map_of_mem there
      obtain ⟨part, among, same⟩ := List.mem_map.1 listed
      exact parts part among pair.2 (same ▸ finds pair there)

/-- What is registered under a text gives no value of a class with a longer name. -/
theorem NamesClasses.gives (named : r.NamesClasses) {cs : List Char}
    (known : NameTable.get? r.plain (String.ofList cs) = some found) (short : cs.length < n) :
    Gives (ShortClass n) found := by
  refine (named.plain _ (NameTable.mem_of_get? known)).mono fun v => ShortClass.mono ?_
  rwa [String.length_ofList]

/-- A spelling has the reader that is registered under it, or one that gives only values of classes
with shorter names. -/
theorem registered_or_gives (named : r.NamesClasses) (cs : List Char)
    (h : r.search (readPart cs) = .ok found) :
    NameTable.get? r.plain (String.ofList cs) = some found ∨
      Gives (ShortClass cs.length) found := by
  induction size : cs.length using Nat.strongRecOn generalizing cs found with
  | ind n ih =>
    subst size
    have parts : ∀ part ∈ (formOf (trimBlanks cs)).parts, ∀ reader,
        r.Finds (readPart part) reader → Gives (ShortClass cs.length) reader := by
      intro part there reader finds
      have short := (length_lt_of_mem_formOf there).trans_le (length_trimBlanks_le cs)
      rcases ih part.length short part finds.search_eq_ok rfl with known | gives
      · exact named.gives known short
      · exact gives.mono fun v => ShortClass.mono short.le
    rw [readPart_eq] at h
    rcases registered_or_parts named.generic (finds_of_search h) parts with known | gives
    · -- The text that is looked up is shorter, unless there are no blanks to trim.
      rcases (length_trimBlanks_le cs).eq_or_lt with same | short
      · exact .inl ((trimBlanks_sublist cs).eq_of_length same ▸ known)
      · exact .inr (named.gives known short)
    · exact .inr gives

/-- What is registered under a text is found for it, if there are no blanks at its ends. -/
theorem find_of_registered {text : String} (trimmed : trimBlanks text.toList = text.toList)
    (known : NameTable.get? r.plain text = some found) : r.find text = .ok found := by
  refine find_eq_ok_iff.2 (.whole ?_)
  rwa [read_eq_readPart, readPart_eq, trimmed, String.ofList_toList, text_ofForm]

/-! ## The standard types -/

theorem gives_standard : ∀ entry ∈ standard.plain, Gives (ShortClass n) entry.2 := by
  intro entry there
  simp only [standard, List.mem_cons, List.not_mem_nil, or_false] at there
  rcases there with rfl | rfl | rfl | rfl | rfl | rfl | rfl | rfl | rfl | rfl | rfl | rfl
  · exact gives_number
  · exact gives_number
  · exact gives_number
  · exact gives_integer
  · exact gives_flag
  · exact gives_string
  · exact gives_atomText
  · exact gives_event
  · exact gives_views .view
  · exact gives_views .inlineView
  · exact gives_views .toolbarContent
  · exact gives_textTemplate

theorem namesClasses_standard : standard.NamesClasses where
  plain := fun entry there => gives_standard entry there
  generic := by
    intro entry there
    simp only [standard, List.mem_cons, List.not_mem_nil, or_false] at there
    rcases there with rfl | rfl | rfl | rfl | rfl
    · exact Factory.keepsShort_unary fun _ _ _ => gives_attributeOr
    · exact Factory.keepsShort_unary fun _ _ _ => gives_binding
    · exact Factory.keepsShort_unary fun _ _ _ => gives_set
    · exact Factory.keepsShort_unary fun _ _ _ => gives_array
    · exact Factory.keepsShort_unary fun _ _ => gives_optional

theorem NamesClasses.register (named : r.NamesClasses) {name : String} {reader : Reader Value}
    (gives : Gives (ShortClass (name.length + 1)) reader) :
    (r.register name reader).NamesClasses where
  plain := by
    intro entry there
    rcases NameTable.mem_put there with rfl | there
    · exact gives
    · exact named.plain entry there
  generic := named.generic

end Registry

end ViewModifiers.Stylesheet
