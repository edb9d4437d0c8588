import ViewModifiers.Catalog.Candidates
import ViewModifiers.Proofs.Interface.Availability
import ViewModifiers.Proofs.Text.NameTable

/-!
# Which functions are candidates

The candidates of an interface are grouped while its declarations are walked through. Told at once,
the overloads of a name are the functions of that name that contribute, in declared order, and the
message of a deprecated name is that of the first retired function of the name (`groups_ofSource`).
-/

namespace ViewModifiers.Catalog

open Interface Config Text

/-! ## Functions of view extensions -/

/-- A function as a member of an extension, whose availability counts for it as well. -/
def memberOf (d : DeclaredType) (f : DeclaredFunction) : DeclaredFunction :=
  { f with availability := f.availability.merge d.availability }

@[simp] theorem name_memberOf (d : DeclaredType) (f : DeclaredFunction) :
    (memberOf d f).name = f.name := rfl

/-- Whether a function is called on a view and is there at all: it is not static, and neither itself
nor its extension is unavailable everywhere. -/
def isOffered (d : DeclaredType) (f : DeclaredFunction) : Bool :=
  !areStatic f.modifiers && decide ("*" ∉ f.availability.unavailable) &&
    decide ("*" ∉ d.availability.unavailable)

/-- Whether a function is deprecated, by itself or through its extension. -/
def isDeprecated (d : DeclaredType) (f : DeclaredFunction) : Bool :=
  f.availability.deprecated || d.availability.deprecated

/-- The functions of a sort in view extensions, in declared order. -/
def viewFunctions (c : Configuration) (sort : DeclaredType → DeclaredFunction → Bool)
    (ds : List DeclaredType) : List DeclaredFunction :=
  (ds.filter (extendsView c)).flatMap fun d => (d.functions.filter (sort d)).map (memberOf d)

/-- The functions that contribute signatures. -/
def contributions (c : Configuration) (ds : List DeclaredType) : List DeclaredFunction :=
  viewFunctions c (fun d f => isOffered d f && !isDeprecated d f) ds

/-- The functions that contribute a message of deprecation. -/
def retirements (c : Configuration) (ds : List DeclaredType) : List DeclaredFunction :=
  viewFunctions c (fun d f => isOffered d f && isDeprecated d f) ds

/-- What contributes belongs to a view extension, is not static, and is neither deprecated nor
unavailable everywhere, by itself or through its extension. -/
theorem mem_contributions {c : Configuration} {ds : List DeclaredType} {f : DeclaredFunction} :
    f ∈ contributions c ds ↔ ∃ d ∈ ds, extendsView c d = true ∧ ∃ g ∈ d.functions,
      f = memberOf d g ∧ areStatic g.modifiers = false ∧
        (g.availability.deprecated = false ∧ d.availability.deprecated = false) ∧
        "*" ∉ g.availability.unavailable ∧ "*" ∉ d.availability.unavailable := by
  simp only [contributions, viewFunctions, isOffered, isDeprecated, List.mem_flatMap,
    List.mem_filter, List.mem_map, Bool.and_eq_true, Bool.not_eq_true', Bool.or_eq_false_iff,
    decide_eq_true_eq]
  constructor
  · rintro ⟨d, ⟨declared, extends_⟩, g, ⟨there, ⟨⟨static, own⟩, outer⟩, current⟩, rfl⟩
    exact ⟨d, declared, extends_, g, there, rfl, static, current, own, outer⟩
  · rintro ⟨d, declared, extends_, g, there, rfl, static, current, own, outer⟩
    exact ⟨d, ⟨declared, extends_⟩, g, ⟨there, ⟨⟨static, own⟩, outer⟩, current⟩, rfl⟩

/-! ## Grouping them -/

namespace Candidates

variable {found : Candidates} {current retired : List DeclaredFunction}

/-- Candidates that group functions by their names: the overloads of a name are all that contribute
to it, and of the retired ones the first one tells why it is. -/
structure Groups (found : Candidates) (current retired : List DeclaredFunction) : Prop where
  overloads : ∀ name fs, NameTable.get? found.overloads name = some fs ↔
    fs = current.filter (·.name = name) ∧ fs ≠ []
  deprecations : ∀ name, NameTable.get? found.deprecations name =
    (retired.find? (·.name = name)).map deprecationText

theorem groups_empty : Groups empty [] [] where
  overloads := by
    intro name fs
    rw [List.filter_nil]
    exact iff_of_false nofun fun h => h.2 h.1
  deprecations := fun _ => rfl

/-- What is known of a name is what contributes to it, whether that is anything or not. -/
theorem Groups.known (groups : Groups found current retired) (name : String) :
    (NameTable.get? found.overloads name).getD [] = current.filter (·.name = name) := by
  cases got : NameTable.get? found.overloads name with
  | some fs => exact ((groups.overloads name fs).1 got).1
  | none =>
    by_contra some
    rw [(groups.overloads name _).2 ⟨rfl, Ne.symm some⟩] at got
    cases got

theorem add_memberOf (found : Candidates) (d : DeclaredType) (f : DeclaredFunction) :
    found.add (memberOf d f) =
      if isOffered d f then
        if isDeprecated d f then
          if NameTable.has found.deprecations f.name then found
          else { found with
            deprecations :=
              NameTable.put found.deprecations f.name (deprecationText (memberOf d f)) }
        else
          { found with
            overloads := NameTable.put found.overloads f.name
              ((NameTable.get? found.overloads f.name).getD [] ++ [memberOf d f]) }
      else found := by
  have offered : (areStatic f.modifiers ||
      decide ("*" ∈ (f.availability.merge d.availability).unavailable)) = !isOffered d f := by
    simp [isOffered, Availability.mem_unavailable_merge, Bool.and_assoc]
  rw [add, memberOf]
  simp only [offered]
  cases isOffered d f <;> rfl

/-- A function that contributes goes to the end of the overloads of its name. -/
theorem groups_addCurrent (groups : Groups found current retired) (f : DeclaredFunction) :
    Groups { found with
      overloads := NameTable.put found.overloads f.name
        ((NameTable.get? found.overloads f.name).getD [] ++ [f]) } (current ++ [f]) retired where
  overloads := by
    intro name fs
    rw [NameTable.get?_put, groups.known, List.filter_append]
    by_cases same : f.name = name
    · rw [if_pos same, ← same, Option.some.injEq, List.filter_cons_of_pos (by simp),
        List.filter_nil, eq_comm (b := fs)]
      refine ⟨fun is => ⟨is, ?_⟩, And.left⟩
      rw [is]
      exact List.append_ne_nil_of_right_ne_nil _ (List.cons_ne_nil f [])
    · rw [if_neg same, List.filter_cons_of_neg (by simpa using same), List.filter_nil,
        List.append_nil]
      exact groups.overloads name fs
  deprecations := groups.deprecations

/-- A retired function tells why it is, unless another one of its name has done so. -/
theorem groups_addRetired (groups : Groups found current retired) (f : DeclaredFunction) :
    Groups (if NameTable.has found.deprecations f.name then found
      else { found with
        deprecations := NameTable.put found.deprecations f.name (deprecationText f) })
      current (retired ++ [f]) := by
  have told : NameTable.has found.deprecations f.name =
      (retired.find? (·.name = f.name)).isSome := by
    rw [NameTable.has, groups.deprecations, Option.isSome_map]
  rw [told]
  refine ⟨fun name fs => ?_, fun name => ?_⟩
  · split
    · exact groups.overloads name fs
    · exact groups.overloads name fs
  · rw [List.find?_append]
    cases first : retired.find? (·.name = f.name) with
    | some g =>
      rw [if_pos (by simp), groups.deprecations]
      by_cases same : f.name = name
      · rw [← same, first]
        rfl
      · simp [same]
    | none =>
      rw [if_neg (by simp), NameTable.get?_put, groups.deprecations]
      by_cases same : f.name = name
      · rw [if_pos same, ← same, first]
        simp
      · simp [same]

/-- Taking up one function of an extension. -/
theorem groups_add (groups : Groups found current retired) (d : DeclaredType)
    (f : DeclaredFunction) :
    Groups (found.add (memberOf d f))
      (current ++ ([f].filter fun f => isOffered d f && !isDeprecated d f).map (memberOf d))
      (retired ++ ([f].filter fun f => isOffered d f && isDeprecated d f).map (memberOf d)) := by
  rw [add_memberOf]
  cases offered : isOffered d f with
  | false => simpa [offered] using groups
  | true =>
    cases deprecated : isDeprecated d f with
    | false => simpa [offered, deprecated] using groups_addCurrent groups (memberOf d f)
    | true =>
      have one := groups_addRetired groups (memberOf d f)
      rw [name_memberOf] at one
      simpa [offered, deprecated] using one

/-- Taking up the functions of an extension. -/
theorem groups_addExtension (groups : Groups found current retired) (d : DeclaredType) :
    Groups (found.addExtension d)
      (current ++ (d.functions.filter fun f => isOffered d f && !isDeprecated d f).map (memberOf d))
      (retired ++
        (d.functions.filter fun f => isOffered d f && isDeprecated d f).map (memberOf d)) := by
  change Groups (d.functions.foldl (fun found f => found.add (memberOf d f)) found) _ _
  induction d.functions generalizing found current retired with
  | nil => simpa using groups
  | cons f fs ih =>
    have later := ih (groups_add groups d f)
    rw [List.append_assoc, List.append_assoc, ← List.map_append, ← List.map_append,
      ← List.filter_append, ← List.filter_append] at later
    exact later

theorem groups_foldl (groups : Groups found current retired) (c : Configuration)
    (ds : List DeclaredType) :
    Groups ((ds.filter (extendsView c)).foldl addExtension found) (current ++ contributions c ds)
      (retired ++ retirements c ds) := by
  rw [contributions, retirements, viewFunctions, viewFunctions]
  induction ds.filter (extendsView c) generalizing found current retired with
  | nil => simpa using groups
  | cons d ds ih =>
    have later := ih (groups_addExtension groups d)
    rw [List.append_assoc, List.append_assoc] at later
    exact later

/-- The candidates of an interface group what contributes and what is retired. -/
theorem groups_ofSource (c : Configuration) (source : InterfaceFile) :
    Groups (ofSource c source) (contributions c source.declarations)
      (retirements c source.declarations) :=
  groups_foldl groups_empty c source.declarations

/-- A name is collected if a function contributes to it. -/
theorem mem_names_overloads {c : Configuration} {source : InterfaceFile} {name : String} :
    name ∈ NameTable.names (ofSource c source).overloads ↔
      ∃ f ∈ contributions c source.declarations, f.name = name := by
  rw [NameTable.mem_names_iff, Option.isSome_iff_exists]
  simp only [(groups_ofSource c source).overloads, exists_eq_left, ne_eq, List.filter_eq_nil_iff]
  simp

end Candidates

end ViewModifiers.Catalog
