import ViewModifiers.Catalog.Enumeration
import ViewModifiers.Proofs.Interface.Availability
import ViewModifiers.Proofs.Text.NameTable

/-!
# Where enumerated types are declared

A nominal type is declared in a chain of declarations, from its own one out to the top of the
interface. The chain decides under which name the type is known, and what is taken back on its way
in is taken back of the type. Of several declarations of one name the first one settles the
availability of the type (`exists_firstDeclaration`), and the others only add cases.
-/

namespace ViewModifiers.Catalog

open Interface Config Text

/-! ## Chains of declarations -/

mutual

/-- A declaration and those in it, each with the ones around it, inner ones first in a chain. -/
def chainsIn (outer : List DeclaredType) : DeclaredType → List (List DeclaredType)
  | d@⟨_, _, _, _, _, _, _, _, _, nested, _⟩ => (d :: outer) :: chains (d :: outer) nested

/-- The chains of several declarations. -/
def chains (outer : List DeclaredType) : List DeclaredType → List (List DeclaredType)
  | [] => []
  | d :: ds => chainsIn outer d ++ chains outer ds

end

/-- The scope that a chain gives to what is declared in it. -/
def scopeOf (modules : List String) : List DeclaredType → String
  | [] => ""
  | d :: outer =>
    if d.kind = .extending then withoutModule modules d.name
    else scopedName (scopeOf modules outer) d.name

/-- The constraints of a chain, merged. -/
def availabilityOf : List DeclaredType → Availability
  | [] => .always
  | d :: outer => d.availability.merge (availabilityOf outer)

/-- The type that is declared at the end of a chain, unless that is an extension. -/
def occurrenceOf? (modules : List String) : List DeclaredType → Option Occurrence
  | [] => none
  | d :: outer =>
    if d.kind = .extending then none
    else some ⟨scopeOf modules (d :: outer), d, availabilityOf (d :: outer)⟩

variable {modules : List String} {platform : String}

/-- What is taken back along a chain. -/
theorem mem_unavailable_availabilityOf {chain : List DeclaredType} :
    platform ∈ (availabilityOf chain).unavailable ↔
      ∃ d ∈ chain, platform ∈ d.availability.unavailable := by
  induction chain with
  | nil => exact iff_of_false (NameSet.not_mem_empty platform) nofun
  | cons d outer ih =>
    rw [availabilityOf, Availability.mem_unavailable_merge, ih]
    simp

mutual

theorem occurrencesIn_eq (modules : List String) (outer : List DeclaredType) :
    ∀ d : DeclaredType, occurrencesIn modules (scopeOf modules outer) (availabilityOf outer) d =
      (chainsIn outer d).filterMap (occurrenceOf? modules)
  | ⟨kind, name, inherits, attributes, modifiers, availability, functions, cases, properties,
      nested, position⟩ => by
    rw [occurrencesIn, chainsIn, List.filterMap_cons, occurrenceOf?,
      ← occurrences_eq modules _ nested]
    by_cases extends_ : kind = .extending
    · simp only [extends_, scopeOf, availabilityOf, if_true]
    · simp only [extends_, scopeOf, availabilityOf, if_false]

/-- The types of an interface are those that its chains declare. -/
theorem occurrences_eq (modules : List String) (outer : List DeclaredType) :
    ∀ ds : List DeclaredType,
      occurrences modules (scopeOf modules outer) (availabilityOf outer) ds =
        (chains outer ds).filterMap (occurrenceOf? modules)
  | [] => rfl
  | d :: ds => by
    rw [occurrences, chains, List.filterMap_append, occurrencesIn_eq modules outer d,
      occurrences_eq modules outer ds]

end

/-! ## Declarations of one name -/

/-- The chain of the first declaration of an enum or a struct of a name. -/
def firstDeclaration (c : Configuration) (source : InterfaceFile) (name : String) :
    Option (List DeclaredType) :=
  (chains [] source.declarations).find? fun chain =>
    (occurrenceOf? c.modulePrefixes chain).any fun o => o.isEnumerated && o.name = name

variable {found : NameTable Enumeration} {name : String} {e : Enumeration}

/-- A declaration adds to the type of its name, and begins it if there is none. -/
theorem get?_addRequired (found : NameTable Enumeration) (o : Occurrence) (name : String) :
    NameTable.get? (addRequired found o) name =
      if o.name = name then
        some (((NameTable.get? found name).map (·.extendedBy o)).getD
          ⟨o.name, o.cases, o.availability⟩)
      else NameTable.get? found name := by
  rw [addRequired]
  by_cases same : o.name = name
  · rw [if_pos same, ← same]
    cases NameTable.get? found o.name with
    | none => rw [NameTable.get?_put, if_pos rfl]; rfl
    | some e => rw [NameTable.get?_put, if_pos rfl]; rfl
  · rw [if_neg same]
    cases NameTable.get? found o.name with
    | none => rw [NameTable.get?_put, if_neg same]
    | some e => rw [NameTable.get?_put, if_neg same]

/-- The first declaration of a name settles the availability of its type. -/
theorem get?_foldl_addRequired {os : List Occurrence}
    (known : NameTable.get? (os.foldl addRequired found) name = some e) :
    (∃ earlier, NameTable.get? found name = some earlier ∧ e.name = earlier.name ∧
        e.availability = earlier.availability) ∨
      NameTable.get? found name = none ∧ ∃ o, os.find? (fun o => o.name = name) = some o ∧
        e.name = name ∧ e.availability = o.availability := by
  induction os generalizing found with
  | nil => exact .inl ⟨e, known, rfl, rfl⟩
  | cons o os ih =>
    rw [List.foldl_cons] at known
    rw [List.find?_cons]
    have step := get?_addRequired found o name
    by_cases same : o.name = name
    · rw [if_pos same] at step
      rcases ih known with ⟨earlier, before, sameName, sameAvailability⟩ | ⟨none, -⟩
      · rw [step] at before
        cases begun : NameTable.get? found name with
        | none =>
          rw [begun] at before
          cases before
          exact .inr ⟨rfl, o, by simp [same], sameName.trans same, sameAvailability⟩
        | some first =>
          rw [begun] at before
          cases before
          exact .inl ⟨first, rfl, sameName, sameAvailability⟩
      · rw [step] at none
        cases none
    · rw [if_neg same] at step
      have later := ih known
      rw [step] at later
      simpa [same] using later

theorem occurrencesOf_eq (c : Configuration) (source : InterfaceFile) : occurrencesOf c source =
    (chains [] source.declarations).filterMap (occurrenceOf? c.modulePrefixes) :=
  occurrences_eq c.modulePrefixes [] source.declarations

theorem availability_of_occurrenceOf? {chain : List DeclaredType} {o : Occurrence}
    (declared : occurrenceOf? modules chain = some o) : o.availability = availabilityOf chain := by
  cases chain with
  | nil => cases declared
  | cons d outer =>
    rw [occurrenceOf?] at declared
    split at declared
    · cases declared
    · cases declared
      rfl

/-- What is required is known by its name, with the availability of its first declaration. -/
theorem exists_firstDeclaration {c : Configuration} {source : InterfaceFile}
    (required : e ∈ requiredEnums c source) : ∃ chain,
      firstDeclaration c source e.name = some chain ∧ e.availability = availabilityOf chain := by
  rw [requiredEnums, List.mem_filterMap] at required
  obtain ⟨name, -, known⟩ := required
  rcases get?_foldl_addRequired known with ⟨_, none, -⟩ | ⟨-, o, first, rfl, sameAvailability⟩
  · cases none
  · obtain ⟨-, wanted⟩ := List.mem_filter.1 (List.mem_of_find?_eq_some first)
    have named : o.name = e.name := by simpa using List.find?_some first
    rw [Bool.and_eq_true, named, List.contains_iff_mem] at wanted
    have same : (fun a : Occurrence => decide ((c.requiredTypes.contains a.name && a.isEnumerated) =
        true ∧ decide (a.name = e.name) = true)) =
        fun a => a.isEnumerated && decide (a.name = e.name) := by
      funext a
      by_cases other : a.name = e.name
      · simp [other, wanted.1]
      · simp [other]
    rw [List.find?_filter, same, occurrencesOf_eq, List.find?_filterMap] at first
    obtain ⟨chain, begins, declared⟩ := Option.bind_eq_some_iff.1 first
    exact ⟨chain, begins, sameAvailability.trans (availability_of_occurrenceOf? declared)⟩

/-- Required types are told apart by their names. -/
theorem eq_of_mem_requiredEnums {c : Configuration} {source : InterfaceFile} {e' : Enumeration}
    (required : e ∈ requiredEnums c source) (required' : e' ∈ requiredEnums c source)
    (same : e.name = e'.name) : e = e' := by
  rw [requiredEnums, List.mem_filterMap] at required required'
  obtain ⟨name, -, known⟩ := required
  obtain ⟨name', -, known'⟩ := required'
  rcases get?_foldl_addRequired known with ⟨_, none, -⟩ | ⟨-, -, -, rfl, -⟩
  · cases none
  rcases get?_foldl_addRequired known' with ⟨_, none, -⟩ | ⟨-, -, -, rfl, -⟩
  · cases none
  rw [same, known'] at known
  cases known
  rfl

end ViewModifiers.Catalog
