import ViewModifiers.Catalog.Basic
import ViewModifiers.Proofs.Catalog.Candidates
import ViewModifiers.Proofs.Catalog.Mapping
import ViewModifiers.Proofs.Interface.Written

/-!
# Declarations without positions

Two interfaces that declare the same things in different places differ in the positions of their
declarations only. Whatever a catalog takes from a declaration, it also takes from the declaration
without positions.
-/

namespace ViewModifiers.Interface

namespace DeclaredType

variable (d : DeclaredType)

@[simp] theorem kind_unplaced : d.unplaced.kind = d.kind := by
  cases d
  rw [unplaced]

@[simp] theorem name_unplaced : d.unplaced.name = d.name := by
  cases d
  rw [unplaced]

@[simp] theorem availability_unplaced : d.unplaced.availability = d.availability := by
  cases d
  rw [unplaced]

@[simp] theorem functions_unplaced :
    d.unplaced.functions = d.functions.map DeclaredFunction.unplaced := by
  cases d
  rw [unplaced]

@[simp] theorem cases_unplaced : d.unplaced.cases = d.cases.map DeclaredCase.unplaced := by
  cases d
  rw [unplaced]

@[simp] theorem properties_unplaced :
    d.unplaced.properties = d.properties.map DeclaredProperty.unplaced := by
  cases d
  rw [unplaced]

end DeclaredType

end ViewModifiers.Interface

namespace ViewModifiers.Catalog

open Interface Config Text

/-! ## Functions -/

section Functions

variable (c : Configuration) (d : DeclaredType) (f : DeclaredFunction)

@[simp] theorem name_unplaced : f.unplaced.name = f.name := rfl

theorem signatureOf_unplaced : signatureOf c f.unplaced = signatureOf c f :=
  signatureOf_congr rfl rfl

theorem extendsView_unplaced : extendsView c d.unplaced = extendsView c d := by
  rw [extendsView, extendsView, DeclaredType.kind_unplaced, DeclaredType.name_unplaced]

/-- Functions of view extensions, whatever sort they are chosen by. -/
theorem viewFunctions_unplaced {sort : DeclaredType → DeclaredFunction → Bool}
    (blind : ∀ d f, sort d.unplaced f.unplaced = sort d f) (ds : List DeclaredType) :
    viewFunctions c sort (DeclaredType.unplacedTypes ds) =
      (viewFunctions c sort ds).map DeclaredFunction.unplaced := by
  have extends_ : extendsView c ∘ DeclaredType.unplaced = extendsView c :=
    funext (extendsView_unplaced c)
  rw [viewFunctions, viewFunctions, DeclaredType.unplacedTypes_eq_map, List.filter_map, extends_,
    List.flatMap_map, List.map_flatMap]
  congr 1
  funext d
  have chosen : sort d.unplaced ∘ DeclaredFunction.unplaced = sort d := funext (blind d)
  rw [DeclaredType.functions_unplaced, List.filter_map, chosen, List.map_map, List.map_map]
  congr 1
  funext f
  simp [memberOf, DeclaredFunction.unplaced]

theorem isOffered_unplaced : isOffered d.unplaced f.unplaced = isOffered d f := by
  rw [isOffered, isOffered, DeclaredType.availability_unplaced]
  rfl

theorem isDeprecated_unplaced : isDeprecated d.unplaced f.unplaced = isDeprecated d f := by
  rw [isDeprecated, isDeprecated, DeclaredType.availability_unplaced]
  rfl

theorem contributions_unplaced (ds : List DeclaredType) :
    contributions c (DeclaredType.unplacedTypes ds) =
      (contributions c ds).map DeclaredFunction.unplaced :=
  viewFunctions_unplaced c
    (fun d f => by rw [isOffered_unplaced, isDeprecated_unplaced]) ds

theorem retirements_unplaced (ds : List DeclaredType) :
    retirements c (DeclaredType.unplacedTypes ds) =
      (retirements c ds).map DeclaredFunction.unplaced :=
  viewFunctions_unplaced c
    (fun d f => by rw [isOffered_unplaced, isDeprecated_unplaced]) ds

end Functions

/-! ## Enumerated types -/

/-- An occurrence of a type, declared without positions. -/
def Occurrence.unplaced (o : Occurrence) : Occurrence :=
  { o with declaration := o.declaration.unplaced }

@[simp] theorem Occurrence.name_unplaced (o : Occurrence) : o.unplaced.name = o.name := rfl

theorem Occurrence.isEnumerated_unplaced (o : Occurrence) :
    o.unplaced.isEnumerated = o.isEnumerated := by
  rw [isEnumerated, isEnumerated, unplaced, DeclaredType.kind_unplaced]

theorem Occurrence.cases_unplaced (o : Occurrence) : o.unplaced.cases = o.cases := by
  rw [cases, cases, unplaced, DeclaredType.kind_unplaced, DeclaredType.cases_unplaced,
    DeclaredType.properties_unplaced, List.map_map, List.filter_map, List.map_map]
  rfl

mutual

theorem occurrencesIn_unplaced (modules : List String) (scope : String)
    (inherited : Availability) : ∀ d : DeclaredType,
    occurrencesIn modules scope inherited d.unplaced =
      (occurrencesIn modules scope inherited d).map Occurrence.unplaced
  | ⟨kind, name, inherits, attributes, modifiers, availability, functions, cases, properties,
      nested, position⟩ => by
    rw [DeclaredType.unplaced, occurrencesIn, occurrencesIn]
    split
    · exact occurrences_unplaced modules _ _ nested
    · rw [List.map_cons, Occurrence.unplaced, DeclaredType.unplaced,
        ← occurrences_unplaced modules _ _ nested]

/-- The same types occur in declarations without positions. -/
theorem occurrences_unplaced (modules : List String) (scope : String)
    (inherited : Availability) : ∀ ds : List DeclaredType,
    occurrences modules scope inherited (DeclaredType.unplacedTypes ds) =
      (occurrences modules scope inherited ds).map Occurrence.unplaced
  | [] => rfl
  | d :: ds => by
    rw [DeclaredType.unplacedTypes, occurrences, occurrences, List.map_append,
      occurrencesIn_unplaced modules scope inherited d,
      occurrences_unplaced modules scope inherited ds]

end

end ViewModifiers.Catalog
