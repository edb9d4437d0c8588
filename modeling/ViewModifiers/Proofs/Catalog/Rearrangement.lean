import ViewModifiers.Config.Defaults
import ViewModifiers.Emit.ModuleCode
import ViewModifiers.Emit.Schema
import ViewModifiers.Proofs.Catalog.Enumeration
import ViewModifiers.Proofs.Catalog.Partition
import ViewModifiers.Proofs.Catalog.Unplaced

/-!
# The order of declarations

What is collected under a name depends on the declarations of that name alone, in the order in which
they are declared. So declarations may be rearranged as long as those that share the name of a
modifier or of a required type stay in order: the catalog and what is emitted from it are the same
(`output_of_rearranges`).
-/

namespace ViewModifiers.Catalog

open Interface Config Text Emit

/-! ## Rearranged lists -/

section Lists

variable {α β : Type} {related : α → α → Prop} {xs ys : List α}

/-- The second list has the elements of the first one, and those that are related in the same order.
Elements are told apart by their places in the first list. -/
def Rearranges (related : α → α → Prop) (xs ys : List α) : Prop :=
  ∃ placed : List (α × Nat), placed.Perm xs.zipIdx ∧ placed.map Prod.fst = ys ∧
    placed.Pairwise fun a b => related a.1 b.1 → a.2 < b.2

theorem increasing_zipIdx (xs : List α) (n : Nat) :
    (xs.zipIdx n).Pairwise fun a b => a.2 < b.2 := by
  rw [← List.pairwise_map, List.zipIdx_map_snd]
  exact List.pairwise_lt_range'

/-- Elements that are all related to each other keep their order. -/
theorem Rearranges.filter_eq (rearranges : Rearranges related xs ys) {p : α → Bool}
    (relates : ∀ a b, p a = true → p b = true → related a b) : ys.filter p = xs.filter p := by
  obtain ⟨placed, perm, rfl, ordered⟩ := rearranges
  have filtered := perm.filter (p ∘ Prod.fst)
  have increasing : (placed.filter (p ∘ Prod.fst)).Pairwise fun a b => a.2 < b.2 := by
    refine (ordered.filter _).imp_of_mem fun {a b} first second before => ?_
    exact before (relates _ _ (List.mem_filter.1 first).2 (List.mem_filter.1 second).2)
  have same : placed.filter (p ∘ Prod.fst) = xs.zipIdx.filter (p ∘ Prod.fst) :=
    filtered.eq_of_pairwise (fun a b _ _ one other => absurd other (Nat.lt_asymm one)) increasing
      ((increasing_zipIdx xs 0).filter _)
  rw [List.filter_map, same, ← List.filter_map, List.zipIdx_map_fst]

/-- Only elements that lead to a choice matter for it. -/
theorem filter_flatMap_filter (f : α → List β) (p : α → Bool) (q : β → Bool)
    (leads : ∀ a, ∀ b ∈ f a, q b = true → p a = true) (xs : List α) :
    ((xs.filter p).flatMap f).filter q = (xs.flatMap f).filter q := by
  induction xs with
  | nil => rfl
  | cons a xs ih =>
    cases leading : p a with
    | true => rw [List.filter_cons_of_pos leading, List.flatMap_cons, List.flatMap_cons,
        List.filter_append, List.filter_append, ih]
    | false =>
      have none : (f a).filter q = [] := List.filter_eq_nil_iff.2 fun b there chosen => by
        rw [leads a b there chosen] at leading
        cases leading
      rw [List.filter_cons_of_neg (by rw [leading]; exact Bool.false_ne_true), ih,
        List.flatMap_cons, List.filter_append, none, List.nil_append]

/-- What is chosen from rearranged lists is the same if it comes from related elements. -/
theorem Rearranges.filter_flatMap_eq (rearranges : Rearranges related xs ys) (f : α → List β)
    (q : β → Bool) (p : α → Bool) (leads : ∀ a, ∀ b ∈ f a, q b = true → p a = true)
    (relates : ∀ a b, p a = true → p b = true → related a b) :
    (ys.flatMap f).filter q = (xs.flatMap f).filter q := by
  rw [← filter_flatMap_filter f p q leads ys, rearranges.filter_eq relates,
    filter_flatMap_filter f p q leads xs]

end Lists

/-! ## What a catalog depends on -/

/-- The functions of a name, wherever they are declared. -/
def functionsNamed (name : String) (fs : List DeclaredFunction) : List DeclaredFunction :=
  (fs.filter (·.name = name)).map DeclaredFunction.unplaced

/-- The declarations of an enumerated type, wherever they are. -/
def enumeratedNamed (name : String) (os : List Occurrence) : List Occurrence :=
  (os.filter fun o => o.isEnumerated && o.name = name).map Occurrence.unplaced

/-- Two interfaces that have the same to say about every name. -/
structure AgreeOnNames (c : Configuration) (source source' : InterfaceFile) : Prop where
  current : ∀ name, functionsNamed name (contributions c source'.declarations) =
    functionsNamed name (contributions c source.declarations)
  retired : ∀ name, functionsNamed name (retirements c source'.declarations) =
    functionsNamed name (retirements c source.declarations)
  enumerated : ∀ name ∈ c.requiredTypes, enumeratedNamed name (occurrencesOf c source') =
    enumeratedNamed name (occurrencesOf c source)

variable {c : Configuration} {source source' : InterfaceFile}

theorem sortedNames_congr {α : Type} {t u : NameTable α}
    (same : ∀ name, (NameTable.get? u name).isSome = (NameTable.get? t name).isSome) :
    sortedNames u = sortedNames t := by
  rw [sortedNames, sortedNames]
  refine congrArg NameSet.toList (NameSet.ext fun name => ?_)
  rw [NameSet.mem_ofList, NameSet.mem_ofList, NameTable.mem_names_iff, NameTable.mem_names_iff,
    same]

theorem isSome_overloads (c : Configuration) (source : InterfaceFile) (name : String) :
    (NameTable.get? (Candidates.ofSource c source).overloads name).isSome =
      !(functionsNamed name (contributions c source.declarations)).isEmpty := by
  rw [Bool.eq_iff_iff, ← NameTable.mem_names_iff, Candidates.mem_names_overloads]
  simp [functionsNamed]

/-- The valid overloads of a name are the valid ones of the functions that have it. -/
theorem unplaced_validOverloads (c : Configuration) (source : InterfaceFile) (name : String) :
    (validOverloads c source name).map DeclaredFunction.unplaced =
      (functionsNamed name (contributions c source.declarations)).filter isSupported := by
  rw [functionsNamed, List.filter_map]
  rfl

theorem retained?_eq (c : Configuration) (source : InterfaceFile) (name : String) :
    retained? c (Candidates.ofSource c source).overloads name =
      let valid := (functionsNamed name (contributions c source.declarations)).filter isSupported
      if isInternal name || decide (name ∈ c.denylist) || valid.isEmpty then none
      else some ⟨name, signaturesOf c name valid⟩ := by
  have signatures : signatureOf c ∘ DeclaredFunction.unplaced = signatureOf c :=
    funext (signatureOf_unplaced c)
  rw [retained?_ofSource, ← unplaced_validOverloads]
  simp only [signaturesOf, List.isEmpty_map, List.map_map, signatures]

theorem get?_deprecations (c : Configuration) (source : InterfaceFile) (name : String) :
    NameTable.get? (Candidates.ofSource c source).deprecations name =
      (functionsNamed name (retirements c source.declarations)).head?.map deprecationText := by
  rw [(Candidates.groups_ofSource c source).deprecations, functionsNamed, List.head?_map,
    List.head?_filter, Option.map_map]
  rfl

/-! ## Required types -/

/-- An enumerated type with one more declaration of it. -/
def extended (known : Option Enumeration) (o : Occurrence) : Option Enumeration :=
  some ((known.map (·.extendedBy o)).getD ⟨o.name, o.cases, o.availability⟩)

theorem extended_unplaced (known : Option Enumeration) (o : Occurrence) :
    extended known o.unplaced = extended known o := by
  simp only [extended, Enumeration.extendedBy, Occurrence.cases_unplaced]
  rfl

theorem foldl_extended_unplaced (os : List Occurrence) (known : Option Enumeration) :
    (os.map Occurrence.unplaced).foldl extended known = os.foldl extended known := by
  simp only [List.foldl_map, extended_unplaced]

/-- A type is extended by the declarations of its name. -/
theorem get?_foldl_addRequired_eq (os : List Occurrence) (found : NameTable Enumeration)
    (name : String) : NameTable.get? (os.foldl addRequired found) name =
      (os.filter (·.name = name)).foldl extended (NameTable.get? found name) := by
  induction os generalizing found with
  | nil => rfl
  | cons o os ih =>
    rw [List.foldl_cons, ih, get?_addRequired]
    by_cases same : o.name = name
    · rw [if_pos same, List.filter_cons_of_pos (by simpa using same), List.foldl_cons]
      rfl
    · rw [if_neg same, List.filter_cons_of_neg (by simpa using same)]

/-- The enumerated types that are found in an interface. -/
def foundEnums (c : Configuration) (source : InterfaceFile) : NameTable Enumeration :=
  ((occurrencesOf c source).filter fun o =>
    c.requiredTypes.contains o.name && o.isEnumerated).foldl addRequired []

theorem requiredEnums_eq (c : Configuration) (source : InterfaceFile) :
    requiredEnums c source =
      (sortedNames (foundEnums c source)).filterMap (NameTable.get? (foundEnums c source)) := rfl

theorem get?_foundEnums (c : Configuration) (source : InterfaceFile) (name : String) :
    NameTable.get? (foundEnums c source) name =
      if name ∈ c.requiredTypes then
        (enumeratedNamed name (occurrencesOf c source)).foldl extended none
      else none := by
  rw [foundEnums, get?_foldl_addRequired_eq, List.filter_filter, enumeratedNamed,
    foldl_extended_unplaced]
  split
  next required =>
    congr 1
    refine List.filter_congr fun o _ => ?_
    by_cases same : o.name = name
    · simp [same, required]
    · simp [same]
  next other =>
    rw [List.filter_eq_nil_iff.2]
    · rfl
    · rintro o - wanted
      simp only [Bool.and_eq_true, decide_eq_true_eq, List.contains_iff_mem] at wanted
      exact other (wanted.1 ▸ wanted.2.1)

/-! ## Agreeing interfaces -/

theorem requiredEnums_congr (agree : AgreeOnNames c source source') :
    requiredEnums c source' = requiredEnums c source := by
  have same : NameTable.get? (foundEnums c source') = NameTable.get? (foundEnums c source) := by
    funext name
    rw [get?_foundEnums, get?_foundEnums]
    split
    next required => rw [agree.enumerated name required]
    next => rfl
  rw [requiredEnums_eq, requiredEnums_eq, same,
    sortedNames_congr fun name => congrArg Option.isSome (congrFun same name)]

theorem deprecations_congr (agree : AgreeOnNames c source source') :
    sortedDeprecations (Candidates.ofSource c source').deprecations =
      sortedDeprecations (Candidates.ofSource c source).deprecations := by
  have same : NameTable.get? (Candidates.ofSource c source').deprecations =
      NameTable.get? (Candidates.ofSource c source).deprecations := by
    funext name
    rw [get?_deprecations, get?_deprecations, agree.retired]
  rw [sortedDeprecations, sortedDeprecations, same,
    sortedNames_congr fun name => congrArg Option.isSome (congrFun same name)]

/-- Interfaces that agree on every name have the same catalog. -/
theorem ofSource_congr (agree : AgreeOnNames c source source') :
    Catalog.ofSource c source' = Catalog.ofSource c source := by
  have names : sortedNames (Candidates.ofSource c source').overloads =
      sortedNames (Candidates.ofSource c source).overloads :=
    sortedNames_congr fun name => by rw [isSome_overloads, isSome_overloads, agree.current]
  have kept : retained? c (Candidates.ofSource c source').overloads =
      retained? c (Candidates.ofSource c source).overloads := by
    funext name
    rw [retained?_eq, retained?_eq, agree.current]
  rw [Catalog.ofSource, Catalog.ofSource, names, kept, requiredEnums_congr agree,
    deprecations_congr agree]

/-! ## Declarations that share a name -/

/-- The names of the functions that a view extension declares. -/
def modifierNames (c : Configuration) (d : DeclaredType) : List String :=
  if extendsView c d then d.functions.map (·.name) else []

/-- The names of the required enumerated types in a declaration. -/
def requiredNames (c : Configuration) (d : DeclaredType) : List String :=
  ((occurrencesIn c.modulePrefixes "" .always d).filter fun o =>
    c.requiredTypes.contains o.name && o.isEnumerated).map (·.name)

/-- Two declarations declare a function of view extensions, or a required type, of one name. -/
def SharesName (c : Configuration) (d d' : DeclaredType) : Prop :=
  (∃ name ∈ modifierNames c d, name ∈ modifierNames c d') ∨
    ∃ name ∈ requiredNames c d, name ∈ requiredNames c d'

instance (c : Configuration) (d d' : DeclaredType) : Decidable (SharesName c d d') :=
  inferInstanceAs (Decidable (_ ∨ _))

variable {ds ds' : List DeclaredType}

theorem viewFunctions_eq (c : Configuration) (sort : DeclaredType → DeclaredFunction → Bool)
    (ds : List DeclaredType) : viewFunctions c sort ds = ds.flatMap fun d =>
      if extendsView c d then (d.functions.filter (sort d)).map (memberOf d) else [] := by
  rw [viewFunctions]
  induction ds with
  | nil => rfl
  | cons d ds ih =>
    cases extends_ : extendsView c d <;> simp [extends_, ih]

theorem occurrences_eq_flatMap (modules : List String) (scope : String)
    (inherited : Availability) (ds : List DeclaredType) :
    occurrences modules scope inherited ds = ds.flatMap (occurrencesIn modules scope inherited) := by
  induction ds with
  | nil => rfl
  | cons d ds ih => rw [occurrences, ih, List.flatMap_cons]

/-- The functions of a name stay in order. -/
theorem viewFunctions_rearranges (rearranges : Rearranges (SharesName c) ds ds')
    (sort : DeclaredType → DeclaredFunction → Bool) (name : String) :
    (viewFunctions c sort ds').filter (·.name = name) =
      (viewFunctions c sort ds).filter (·.name = name) := by
  rw [viewFunctions_eq, viewFunctions_eq]
  refine rearranges.filter_flatMap_eq _ _ (fun d => decide (name ∈ modifierNames c d)) ?_ ?_
  · intro d f there named
    split at there
    next extends_ =>
      obtain ⟨g, declared, rfl⟩ := List.mem_map.1 there
      rw [decide_eq_true_eq, modifierNames, if_pos extends_]
      exact List.mem_map.2 ⟨g, List.mem_of_mem_filter declared, of_decide_eq_true named⟩
    next => cases there
  · intro d d' here there
    exact .inl ⟨name, of_decide_eq_true here, of_decide_eq_true there⟩

/-- The declarations of a required type stay in order. -/
theorem occurrences_rearranges (rearranges : Rearranges (SharesName c) ds ds') {name : String}
    (required : name ∈ c.requiredTypes) :
    ((occurrences c.modulePrefixes "" .always ds').filter fun o =>
        o.isEnumerated && o.name = name) =
      (occurrences c.modulePrefixes "" .always ds).filter fun o =>
        o.isEnumerated && o.name = name := by
  rw [occurrences_eq_flatMap, occurrences_eq_flatMap]
  refine rearranges.filter_flatMap_eq _ _ (fun d => decide (name ∈ requiredNames c d)) ?_ ?_
  · intro d o there wanted
    rw [Bool.and_eq_true, decide_eq_true_eq] at wanted
    obtain ⟨enumerated, rfl⟩ := wanted
    rw [decide_eq_true_eq, requiredNames]
    refine List.mem_map.2 ⟨o, List.mem_filter.2 ⟨there, ?_⟩, rfl⟩
    rw [List.contains_iff_mem.2 required, enumerated]
    rfl
  · intro d d' here there
    exact .inr ⟨name, of_decide_eq_true here, of_decide_eq_true there⟩

/-- Rearranged interfaces agree on every name. -/
theorem agreeOnNames_of_rearranges (rearranges : Rearranges (SharesName c)
    source.unplaced.declarations source'.unplaced.declarations) : AgreeOnNames c source source' where
  current := by
    intro name
    have same := viewFunctions_rearranges rearranges
      (fun d f => isOffered d f && !isDeprecated d f) name
    rw [← contributions, ← contributions, InterfaceFile.unplaced, InterfaceFile.unplaced,
      contributions_unplaced, contributions_unplaced, List.filter_map, List.filter_map] at same
    exact same
  retired := by
    intro name
    have same := viewFunctions_rearranges rearranges
      (fun d f => isOffered d f && isDeprecated d f) name
    rw [← retirements, ← retirements, InterfaceFile.unplaced, InterfaceFile.unplaced,
      retirements_unplaced, retirements_unplaced, List.filter_map, List.filter_map] at same
    exact same
  enumerated := by
    intro name required
    have same := occurrences_rearranges rearranges required
    have blind : (fun o : Occurrence => o.isEnumerated && decide (o.name = name)) ∘
        Occurrence.unplaced = fun o => o.isEnumerated && decide (o.name = name) :=
      funext fun o => by rw [Function.comp, o.isEnumerated_unplaced, o.name_unplaced]
    rw [InterfaceFile.unplaced, InterfaceFile.unplaced, occurrences_unplaced,
      occurrences_unplaced, List.filter_map, List.filter_map, blind] at same
    exact same

/-- Interfaces whose declarations are the same ones, wherever they are and in whatever order except
that those that share the name of a modifier or of a required type stay in order, give the same
code, the same schema and the same skipped names. -/
theorem output_of_rearranges (c : Configuration) (command : String)
    (source source' : InterfaceFile) (rearranges : Rearranges (SharesName c)
      source.unplaced.declarations source'.unplaced.declarations) :
    moduleCode (Catalog.ofSource c source') c command =
        moduleCode (Catalog.ofSource c source) c command ∧
      schemaText (Catalog.ofSource c source') c = schemaText (Catalog.ofSource c source) c ∧
        (Catalog.ofSource c source').skipped = (Catalog.ofSource c source).skipped := by
  rw [ofSource_congr (agreeOnNames_of_rearranges rearranges)]
  exact ⟨rfl, rfl, rfl⟩

/-- `extension View { func fade() }` at a position. -/
def fading (position : Source.Position) : DeclaredType where
  kind := .extending
  name := "View"
  inherits := []
  attributes := []
  modifiers := []
  availability := .always
  functions := [⟨"fade", [], [], none, [], [], .always, position⟩]
  cases := []
  properties := []
  nested := []
  position

/-- `enum BlendMode { case normal }` at a position. -/
def blending (position : Source.Position) : DeclaredType where
  kind := .enumType
  name := "BlendMode"
  inherits := []
  attributes := []
  modifiers := []
  availability := .always
  functions := []
  cases := [⟨"normal", [], .always, position⟩]
  properties := []
  nested := []
  position

/-- A modifier before a required type. -/
def fadingFirst : InterfaceFile := ⟨[], [fading ⟨1, 1⟩, blending ⟨4, 1⟩], []⟩

/-- The same declarations the other way round. -/
def blendingFirst : InterfaceFile := ⟨[], [blending ⟨1, 1⟩, fading ⟨5, 1⟩], []⟩

theorem rearranges_blendingFirst : Rearranges (SharesName .packaged)
    fadingFirst.unplaced.declarations blendingFirst.unplaced.declarations := by
  have apart : ¬SharesName .packaged (blending .start) (fading .start) := by decide
  exact ⟨[(blending .start, 1), (fading .start, 0)], .swap _ _ [], rfl, by simp [apart]⟩

theorem output_blendingFirst :
    moduleCode (.ofSource .packaged blendingFirst) .packaged "" =
        moduleCode (.ofSource .packaged fadingFirst) .packaged "" ∧
      schemaText (.ofSource .packaged blendingFirst) .packaged =
        schemaText (.ofSource .packaged fadingFirst) .packaged ∧
      (Catalog.ofSource .packaged blendingFirst).skipped =
        (Catalog.ofSource .packaged fadingFirst).skipped :=
  output_of_rearranges .packaged "" fadingFirst blendingFirst rearranges_blendingFirst

end ViewModifiers.Catalog
