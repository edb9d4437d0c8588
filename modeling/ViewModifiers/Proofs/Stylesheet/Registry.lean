import ViewModifiers.Proofs.Stylesheet.Lookup
import ViewModifiers.Proofs.Stylesheet.Typed

/-!
# What a registry finds

A search only takes readers and applies factories. So what holds of all readers of a registry, and
is kept by its factories, holds of every reader that it finds (`All.of_find`). The standard registry
is typed, and tables of members that are registered in it keep it so.
-/

namespace ViewModifiers.Stylesheet

open Text Reader

/-- The readers of optional values, lists and dictionaries have a property if the readers of what is
inside have it. -/
structure Reader.Inherited (p : Reader Value → Prop) : Prop where
  optional : ∀ value, p value → p (optional value)
  array : ∀ value, p value → p (array value)
  dictionary : ∀ value, p value → p (dictionary value)

/-- A factory that makes readers with a property of such readers. -/
def Factory.Keeps (p : Reader Value → Prop) (factory : Factory) : Prop :=
  ∀ readers reader, factory.build? readers = some reader → (∀ r ∈ readers, p r) → p reader

/-- A factory for one argument takes a single reader. -/
theorem Factory.unary_eq_some {build : Reader Value → Reader Value} {readers : List (Reader Value)}
    {found : Reader Value} (made : (Factory.unary build).build? readers = some found) :
    ∃ reader, readers = [reader] ∧ found = build reader := by
  simp only [unary] at made
  split at made
  · cases made
    exact ⟨_, rfl, rfl⟩
  · cases made

theorem Factory.keeps_unary {p : Reader Value → Prop} {build : Reader Value → Reader Value}
    (keeps : ∀ r, p r → p (build r)) : (Factory.unary build).Keeps p := by
  intro readers found made known
  obtain ⟨reader, rfl, rfl⟩ := unary_eq_some made
  exact keeps reader (known reader List.mem_cons_self)

/-- A factory that makes typed readers of typed readers. -/
def Factory.KeepsTyped (mayOmit : Prop) (factory : Factory) : Prop :=
  ∀ readers reader, factory.build? readers = some reader →
    (∀ r ∈ readers, IsTyped mayOmit r) → IsTyped mayOmit reader

namespace Registry

/-- A registry of typed readers. -/
structure AllTyped (mayOmit : Prop) (r : Registry) : Prop where
  plain : ∀ e ∈ r.plain, IsTyped mayOmit e.2
  generic : ∀ e ∈ r.generic, e.2.KeepsTyped mayOmit

variable {mayOmit : Prop} {r : Registry}

/-! ## What everything in a registry has -/

/-- A registry of readers with a property and of factories that keep it. -/
structure All (p : Reader Value → Prop) (r : Registry) : Prop where
  plain : ∀ e ∈ r.plain, p e.2
  generic : ∀ e ∈ r.generic, e.2.Keeps p

variable {p : Reader Value → Prop}

theorem All.register (all : r.All p) (name : String) {reader : Reader Value} (known : p reader) :
    (r.register name reader).All p where
  plain := by
    intro e there
    rcases NameTable.mem_put there with rfl | there
    · exact known
    · exact all.plain e there
  generic := all.generic

theorem All.of_finds (all : r.All p) (inherited : Inherited p) {t : TypeSpelling}
    {found : Reader Value} (finds : r.Finds t found) : p found := by
  induction finds with
  | whole known => exact all.plain _ (NameTable.mem_of_get? known)
  | optional _ _ ih => exact inherited.optional _ ih
  | array _ _ ih => exact inherited.array _ ih
  | dictionary _ _ _ _ ih => exact inherited.dictionary _ ih
  | generic _ known _ _ made ih =>
    exact all.generic _ (NameTable.mem_of_get? known) _ _ made (List.forall_mem_map.2 ih)

/-- What holds of everything in a registry holds of whatever it finds for a spelling. -/
theorem All.of_find (all : r.All p) (inherited : Inherited p) {spelling : String}
    {found : Reader Value} (h : r.find spelling = .ok found) : p found :=
  all.of_finds inherited (find_eq_ok_iff.1 h)

/-! ## Typed registries -/

theorem inherited_isTyped : Inherited (IsTyped mayOmit) where
  optional := fun _ => isTyped_optional
  array := fun _ => isTyped_array
  dictionary := fun _ => isTyped_dictionary

theorem AllTyped.all (typed : r.AllTyped mayOmit) : r.All (IsTyped mayOmit) :=
  ⟨typed.plain, typed.generic⟩

/-- Whatever a typed registry finds for a spelling is typed. -/
theorem isTyped_find (typed : r.AllTyped mayOmit) {spelling : String} {found : Reader Value}
    (h : r.find spelling = .ok found) : IsTyped mayOmit found :=
  typed.all.of_find inherited_isTyped h

/-! ## The standard types and tables of members -/

theorem allTyped_standard : standard.AllTyped mayOmit where
  plain := by
    intro e there
    simp only [standard, List.mem_cons, List.not_mem_nil, or_false] at there
    rcases there with rfl | rfl | rfl | rfl | rfl | rfl | rfl | rfl | rfl | rfl | rfl | rfl
    · exact isTyped_number
    · exact isTyped_number
    · exact isTyped_number
    · exact isTyped_integer
    · exact isTyped_flag
    · exact isTyped_string
    · exact isTyped_atomOrString nofun
    · exact isTyped_event
    · exact isTyped_views .view
    · exact isTyped_views .inlineView
    · exact isTyped_views .toolbarContent
    · exact isTyped_textTemplate
  generic := by
    intro e there
    simp only [standard, List.mem_cons, List.not_mem_nil, or_false] at there
    rcases there with rfl | rfl | rfl | rfl | rfl
    · exact Factory.keeps_unary fun _ => isTyped_attributeOr
    · exact Factory.keeps_unary fun _ _ => isTyped_binding
    · exact Factory.keeps_unary fun _ => isTyped_set
    · exact Factory.keeps_unary fun _ => isTyped_array
    · exact Factory.keeps_unary fun _ => isTyped_optional

theorem AllTyped.register (typed : r.AllTyped mayOmit) (name : String) {reader : Reader Value}
    (isTyped : IsTyped mayOmit reader) : (r.register name reader).AllTyped mayOmit :=
  have all := typed.all.register name isTyped
  ⟨all.plain, all.generic⟩

/-- Members by their names, with what is said about each of them. -/
abbrev MemberTable := NameTable (Except Failure Value)

/-- The standard registry with tables of members under the names of their types. -/
def withMembers (tables : List (String × MemberTable)) : Registry :=
  tables.foldl (fun r e => r.register e.1 (Reader.member e.2)) standard

/-- Whether a table has a member that counts as an omitted argument. -/
def OffersOmitted (tables : List (String × MemberTable)) : Prop :=
  ∃ e ∈ tables, ∃ name, (name, .ok .omitted) ∈ e.2

theorem AllTyped.registerMembers (typed : r.AllTyped mayOmit)
    (tables : List (String × MemberTable))
    (offers : ∀ e ∈ tables, ∀ name, (name, .ok .omitted) ∈ e.2 → mayOmit) :
    (tables.foldl (fun r e => r.register e.1 (Reader.member e.2)) r).AllTyped mayOmit := by
  induction tables generalizing r with
  | nil => exact typed
  | cons e tables ih =>
    apply ih (typed.register e.1 (isTyped_member (offers e List.mem_cons_self)))
    intro other there
    exact offers other (List.mem_cons_of_mem e there)

theorem allTyped_withMembers (tables : List (String × MemberTable)) :
    (withMembers tables).AllTyped (OffersOmitted tables) :=
  allTyped_standard.registerMembers tables fun e there name offered => ⟨e, there, name, offered⟩

end Registry

end ViewModifiers.Stylesheet
