import Mathlib.Data.List.Basic
import Mathlib.Data.List.TakeWhile
import Mathlib.Tactic.Tauto
import ViewModifiers.Proofs.Catalog.Enumeration

/-!
# Cases from several declarations

The values of a type are declared in the type itself, in repeated declarations of it and in
extensions. Its list of cases takes up the first of each name (`firstOfEach`), declaration by
declaration, and it is known by the availability of its first declaration. Extensions are walked
through for the types in them only, so a value that no declaration of the type has is not listed
(`square_not_listed`); a declaration is not compared with itself either. Where no declaration gives a
name twice and extensions only repeat names, the list is complete (`exists_required_cases`).
-/

namespace ViewModifiers.Catalog

open Interface Config Text

/-! ## The first of each name -/

/-- The names of several cases. -/
def caseNames (cases : List EnumerationCase) : List String := cases.map (·.name)

/-- The cases whose names are not among some names. -/
def casesBeside (names : List String) (cases : List EnumerationCase) : List EnumerationCase :=
  cases.filter fun x => !names.contains x.name

/-- The first case of each name, in order. -/
def firstOfEach : List EnumerationCase → List EnumerationCase
  | [] => []
  | x :: xs => x :: casesBeside [x.name] (firstOfEach xs)

variable {names : List String} {xs ys : List EnumerationCase} {n : String}

theorem caseNames_append (xs ys : List EnumerationCase) :
    caseNames (xs ++ ys) = caseNames xs ++ caseNames ys :=
  List.map_append

theorem casesBeside_append (names : List String) (xs ys : List EnumerationCase) :
    casesBeside names (xs ++ ys) = casesBeside names xs ++ casesBeside names ys :=
  List.filter_append ..

theorem casesBeside_casesBeside (names names' : List String) (xs : List EnumerationCase) :
    casesBeside names (casesBeside names' xs) = casesBeside (names ++ names') xs := by
  rw [casesBeside, casesBeside, List.filter_filter]
  refine List.filter_congr fun x _ => ?_
  rw [List.contains_append, Bool.not_or]

/-- Only which names are given makes a difference. -/
theorem casesBeside_congr {names' : List String} (same : ∀ n, n ∈ names ↔ n ∈ names')
    (xs : List EnumerationCase) : casesBeside names xs = casesBeside names' xs := by
  refine List.filter_congr fun x _ => ?_
  rw [Bool.not_inj_iff, Bool.eq_iff_iff, List.contains_iff_mem, List.contains_iff_mem]
  exact same x.name

theorem casesBeside_eq_nil (known : ∀ n ∈ caseNames xs, n ∈ names) : casesBeside names xs = [] := by
  rw [casesBeside, List.filter_eq_nil_iff]
  intro x there
  simpa using known x.name (List.mem_map_of_mem there)

theorem mem_caseNames_casesBeside :
    n ∈ caseNames (casesBeside names xs) ↔ n ∈ caseNames xs ∧ n ∉ names := by
  simp only [caseNames, casesBeside, List.mem_map, List.mem_filter, Bool.not_eq_true',
    ← Bool.not_eq_true, List.contains_iff_mem]
  constructor
  · rintro ⟨x, ⟨there, new⟩, rfl⟩
    exact ⟨⟨x, there, rfl⟩, new⟩
  · rintro ⟨⟨x, there, rfl⟩, new⟩
    exact ⟨x, ⟨there, new⟩, rfl⟩

theorem mem_caseNames_firstOfEach : n ∈ caseNames (firstOfEach xs) ↔ n ∈ caseNames xs := by
  induction xs with
  | nil => rfl
  | cons x xs ih =>
    have rest : n ∈ caseNames (casesBeside [x.name] (firstOfEach xs)) ↔ _ :=
      mem_caseNames_casesBeside
    rw [ih, List.mem_singleton] at rest
    simp only [firstOfEach, caseNames, List.map_cons, List.mem_cons] at rest ⊢
    tauto

theorem nodup_caseNames_firstOfEach (xs : List EnumerationCase) :
    (caseNames (firstOfEach xs)).Nodup := by
  induction xs with
  | nil => exact List.nodup_nil
  | cons x xs ih =>
    apply List.nodup_cons.2
    constructor
    · change x.name ∉ caseNames (casesBeside [x.name] (firstOfEach xs))
      rw [mem_caseNames_casesBeside]
      exact fun both => both.2 (List.mem_singleton_self _)
    · exact ih.sublist (List.filter_sublist.map _)

theorem firstOfEach_of_nodup (distinct : (caseNames xs).Nodup) : firstOfEach xs = xs := by
  induction xs with
  | nil => rfl
  | cons x xs ih =>
    obtain ⟨new, later⟩ := List.nodup_cons.1 distinct
    rw [firstOfEach, ih later, casesBeside, List.filter_eq_self.2]
    intro y there
    simpa using fun same : y.name = x.name => new (List.mem_map.2 ⟨y, there, same⟩)

/-- Behind other cases, those count whose names are new. -/
theorem firstOfEach_append (xs ys : List EnumerationCase) :
    firstOfEach (xs ++ ys) = firstOfEach xs ++ casesBeside (caseNames xs) (firstOfEach ys) := by
  induction xs with
  | nil => exact (List.filter_eq_self.2 fun _ _ => rfl).symm
  | cons x xs ih =>
    rw [List.cons_append, firstOfEach, ih, casesBeside_append, casesBeside_casesBeside]
    rfl

theorem mem_caseNames_flatMap {α : Type} {values : α → List EnumerationCase} {zs : List α} :
    n ∈ caseNames (zs.flatMap values) ↔ ∃ z ∈ zs, n ∈ caseNames (values z) := by
  rw [caseNames, List.map_flatMap, List.mem_flatMap]
  rfl

/-- Parts of a list may be left out that only repeat names from in front of them. -/
theorem firstOfEach_flatMap_filter {α : Type} {values : α → List EnumerationCase} {p : α → Bool}
    {zs : List α} (repeats : ∀ before z after, zs = before ++ z :: after → p z = false →
      ∀ n ∈ caseNames (values z), ∃ y ∈ before, p y = true ∧ n ∈ caseNames (values y)) :
    firstOfEach ((zs.filter p).flatMap values) = firstOfEach (zs.flatMap values) := by
  induction zs using List.reverseRecOn with
  | nil => rfl
  | append_singleton before last ih =>
    have earlier := ih fun first z after split =>
      repeats first z (after ++ [last]) (by rw [split, List.append_assoc, List.cons_append])
    rw [List.filter_append, List.flatMap_append, List.flatMap_append, firstOfEach_append,
      firstOfEach_append, earlier]
    congr 1
    cases counts : p last with
    | true =>
      rw [List.filter_cons_of_pos counts, List.filter_nil]
      refine casesBeside_congr (fun n => ?_) _
      rw [← mem_caseNames_firstOfEach, earlier, mem_caseNames_firstOfEach]
    | false =>
      rw [List.filter_cons_of_neg (Bool.eq_false_iff.1 counts)]
      refine (casesBeside_eq_nil fun n there => ?_).symm
      rw [mem_caseNames_firstOfEach, List.flatMap_singleton] at there
      obtain ⟨y, among, -, same⟩ := repeats before last [] rfl counts n there
      exact mem_caseNames_flatMap.2 ⟨y, among, same⟩

/-! ## Values of a type -/

/-- Whether a chain declares an enum or a struct of a name. -/
def declares (c : Configuration) (name : String) (chain : List DeclaredType) : Bool :=
  (occurrenceOf? c.modulePrefixes chain).any fun o => o.isEnumerated && o.name = name

/-- The static members of a declaration that have the type of a name. -/
def ownMembers (name : String) (d : DeclaredType) : List EnumerationCase :=
  (d.properties.filter fun p => areStatic p.modifiers && hasOwnType name p).map
    fun p => ⟨p.name, p.availability⟩

/-- The values that a chain gives to the type of a name. A struct of the name has its own static
members as values, and an enum its cases. An extension of the type at the top of the interface adds
its static members. -/
def valuesIn (c : Configuration) (name : String) : List DeclaredType → List EnumerationCase
  | [] => []
  | d :: outer =>
    if scopeOf c.modulePrefixes (d :: outer) = name then
      match d.kind with
      | .structType => ownMembers name d
      | .enumType => d.cases.map fun c => ⟨c.name, c.availability⟩
      | .extending => if outer.isEmpty then ownMembers name d else []
      | _ => []
    else []

/-- The chains of an interface from the first declaration of a name on. -/
def chainsFrom (c : Configuration) (source : InterfaceFile) (name : String) :
    List (List DeclaredType) :=
  (chains [] source.declarations).dropWhile fun chain => !declares c name chain

/-- No declaration of a type gives it two values of one name. -/
def DeclaresOnce (c : Configuration) (source : InterfaceFile) (name : String) : Prop :=
  ∀ chain ∈ chainsFrom c source name, declares c name chain = true →
    (caseNames (valuesIn c name chain)).Nodup

/-- What extensions add to a type is declared in the type itself, earlier on, under the same
names. -/
def ExtendsNothing (c : Configuration) (source : InterfaceFile) (name : String) : Prop :=
  ∀ before chain after, chainsFrom c source name = before ++ chain :: after →
    declares c name chain = false → ∀ n ∈ caseNames (valuesIn c name chain),
      ∃ earlier ∈ before, declares c name earlier = true ∧ n ∈ caseNames (valuesIn c name earlier)

variable {c : Configuration} {source : InterfaceFile} {name : String} {chain : List DeclaredType}

/-- What a declaration of a name stands for. -/
theorem exists_occurrence_of_declares (declared : declares c name chain = true) :
    ∃ o, occurrenceOf? c.modulePrefixes chain = some o ∧ o.name = name ∧
      o.cases = valuesIn c name chain ∧ o.availability = availabilityOf chain := by
  rw [declares, Option.any_eq_true] at declared
  obtain ⟨o, is, both⟩ := declared
  rw [Bool.and_eq_true, decide_eq_true_eq] at both
  obtain ⟨enumerated, rfl⟩ := both
  refine ⟨o, is, rfl, ?_, availability_of_occurrenceOf? is⟩
  cases chain with
  | nil => cases is
  | cons d outer =>
    rw [occurrenceOf?] at is
    split at is
    · cases is
    · cases is
      rw [valuesIn, if_pos rfl]
      simp only [Occurrence.isEnumerated, Bool.or_eq_true, decide_eq_true_eq] at enumerated
      rcases enumerated with kind | kind
      · simp [Occurrence.cases, kind]
      · simp [Occurrence.cases, kind, ownMembers]

/-! ## Taking up declarations -/

variable {found : NameTable Enumeration} {e : Enumeration} {o : Occurrence} {os : List Occurrence}

theorem cases_extendedBy (e : Enumeration) (o : Occurrence) :
    (e.extendedBy o).cases = e.cases ++ casesBeside (caseNames e.cases) o.cases := rfl

/-- A type that is known is extended by its further declarations. -/
theorem get?_foldl_addRequired_of_some (os : List Occurrence)
    (known : NameTable.get? found name = some e) :
    NameTable.get? (os.foldl addRequired found) name =
      some ((os.filter fun o => o.name = name).foldl Enumeration.extendedBy e) := by
  induction os generalizing found e with
  | nil => exact known
  | cons o os ih =>
    have step := get?_addRequired found o name
    rw [known] at step
    rw [List.foldl_cons, List.filter_cons]
    by_cases same : o.name = name
    · rw [if_pos same] at step
      rw [if_pos (decide_eq_true same), List.foldl_cons]
      exact ih step
    · rw [if_neg same] at step
      rw [if_neg (by simpa using same)]
      exact ih step

/-- A type that is new begins with its first declaration. -/
theorem get?_foldl_addRequired_of_none {rest : List Occurrence}
    (new : NameTable.get? found name = none)
    (declared : (os.filter fun o => o.name = name) = o :: rest) :
    NameTable.get? (os.foldl addRequired found) name =
      some (rest.foldl Enumeration.extendedBy ⟨o.name, o.cases, o.availability⟩) := by
  induction os generalizing found with
  | nil => cases declared
  | cons first os ih =>
    have step := get?_addRequired found first name
    rw [new] at step
    rw [List.filter_cons] at declared
    rw [List.foldl_cons]
    by_cases same : first.name = name
    · rw [if_pos same] at step
      rw [if_pos (decide_eq_true same)] at declared
      cases declared
      exact get?_foldl_addRequired_of_some os step
    · rw [if_neg same] at step
      rw [if_neg (by simpa using same)] at declared
      exact ih step declared

/-- Further declarations leave name and availability as they are. -/
theorem name_foldl_extendedBy (os : List Occurrence) (e : Enumeration) :
    (os.foldl Enumeration.extendedBy e).name = e.name ∧
      (os.foldl Enumeration.extendedBy e).availability = e.availability := by
  induction os generalizing e with
  | nil => exact ⟨rfl, rfl⟩
  | cons o os ih => exact ih (e.extendedBy o)

theorem mem_caseNames_foldl_extendedBy :
    n ∈ caseNames (os.foldl Enumeration.extendedBy e).cases ↔
      n ∈ caseNames e.cases ∨ ∃ o ∈ os, n ∈ caseNames o.cases := by
  induction os generalizing e with
  | nil => simp
  | cons o os ih =>
    rw [List.foldl_cons, ih, cases_extendedBy, caseNames_append, List.mem_append,
      mem_caseNames_casesBeside]
    simp only [List.mem_cons, exists_eq_or_imp]
    tauto

/-- Where no declaration gives a name twice, the first value of each name is listed. -/
theorem cases_foldl_extendedBy (begun : e.cases = firstOfEach xs)
    (once : ∀ o ∈ os, (caseNames o.cases).Nodup) :
    (os.foldl Enumeration.extendedBy e).cases = firstOfEach (xs ++ os.flatMap (·.cases)) := by
  induction os generalizing e xs with
  | nil => rw [List.flatMap_nil, List.append_nil]; exact begun
  | cons o os ih =>
    have extended : (e.extendedBy o).cases = firstOfEach (xs ++ o.cases) := by
      rw [cases_extendedBy, begun, firstOfEach_append,
        firstOfEach_of_nodup (once o List.mem_cons_self)]
      congr 1
      exact casesBeside_congr (fun _ => mem_caseNames_firstOfEach) _
    rw [List.foldl_cons, ih extended fun o' there => once o' (List.mem_cons_of_mem o there),
      List.flatMap_cons, List.append_assoc]

/-! ## Required types -/

/-- The declarations of a type, in order. -/
def declarationsOf (c : Configuration) (source : InterfaceFile) (name : String) :
    List Occurrence :=
  ((chainsFrom c source name).filter (declares c name)).filterMap (occurrenceOf? c.modulePrefixes)

/-- In front of the first declaration there is none. -/
theorem filter_declares_chainsFrom (c : Configuration) (source : InterfaceFile) (name : String) :
    (chainsFrom c source name).filter (declares c name) =
      (chains [] source.declarations).filter (declares c name) := by
  have none : ((chains [] source.declarations).takeWhile fun chain =>
      !declares c name chain).filter (declares c name) = [] := by
    rw [List.filter_eq_nil_iff]
    intro chain there
    simpa using List.mem_takeWhile_imp there
  conv_rhs => rw [← List.takeWhile_append_dropWhile (p := fun chain => !declares c name chain)
    (l := chains [] source.declarations)]
  rw [List.filter_append, none, List.nil_append]
  rfl

/-- What is taken up of a required type are its declarations. -/
theorem filter_wanted (required : name ∈ c.requiredTypes) :
    (((occurrencesOf c source).filter fun o =>
      c.requiredTypes.contains o.name && o.isEnumerated).filter fun o => o.name = name) =
        declarationsOf c source name := by
  rw [declarationsOf, filter_declares_chainsFrom, occurrencesOf_eq, List.filter_filter,
    List.filter_filterMap, List.filterMap_filter]
  refine List.filterMap_congr fun chain _ => ?_
  rw [declares]
  cases occurrenceOf? c.modulePrefixes chain with
  | none => rfl
  | some o =>
    rw [Option.any_some, Option.filter_some]
    by_cases same : o.name = name
    · simp [same, required]
    · simp [same]

/-- Each declaration has its values as cases. -/
theorem map_cases_declarationsOf (c : Configuration) (source : InterfaceFile) (name : String) :
    (declarationsOf c source name).map (·.cases) =
      ((chainsFrom c source name).filter (declares c name)).map (valuesIn c name) := by
  rw [declarationsOf, List.map_filterMap, ← List.filterMap_eq_map]
  refine List.filterMap_congr fun chain there => ?_
  obtain ⟨o, is, -, values, -⟩ := exists_occurrence_of_declares (List.mem_filter.1 there).2
  rw [is, Option.map_some, values]
  rfl

theorem flatMap_cases_declarationsOf (c : Configuration) (source : InterfaceFile) (name : String) :
    (declarationsOf c source name).flatMap (·.cases) =
      ((chainsFrom c source name).filter (declares c name)).flatMap (valuesIn c name) := by
  rw [List.flatMap_def, map_cases_declarationsOf, ← List.flatMap_def]

theorem nodup_cases_of_mem_declarationsOf (once : DeclaresOnce c source name)
    (there : o ∈ declarationsOf c source name) : (caseNames o.cases).Nodup := by
  have listed : o.cases ∈ (declarationsOf c source name).map (·.cases) := List.mem_map_of_mem there
  rw [map_cases_declarationsOf] at listed
  obtain ⟨chain, inside, same⟩ := List.mem_map.1 listed
  obtain ⟨among, declared⟩ := List.mem_filter.1 inside
  exact same ▸ once chain among declared

/-- The first declaration of a type begins it. -/
theorem exists_declarationsOf_eq_cons (first : firstDeclaration c source name = some chain) :
    ∃ o rest, declarationsOf c source name = o :: rest ∧ o.name = name ∧
      o.availability = availabilityOf chain := by
  have head : ((chainsFrom c source name).filter (declares c name)).head? = some chain := by
    rw [filter_declares_chainsFrom, List.head?_filter]
    exact first
  obtain ⟨more, is⟩ := List.head?_eq_some_iff.1 head
  have declared : declares c name chain = true := List.find?_some first
  obtain ⟨o, stands, named, -, available⟩ := exists_occurrence_of_declares declared
  refine ⟨o, more.filterMap (occurrenceOf? c.modulePrefixes), ?_, named, available⟩
  rw [declarationsOf, is, List.filterMap_cons_some stands]

/-- A required type that is declared has its declarations taken up, the first one to begin with. -/
theorem mem_requiredEnums_of_declarationsOf {rest : List Occurrence}
    (required : name ∈ c.requiredTypes) (declared : declarationsOf c source name = o :: rest) :
    rest.foldl Enumeration.extendedBy ⟨o.name, o.cases, o.availability⟩ ∈
      requiredEnums c source := by
  rw [← filter_wanted required] at declared
  have new : NameTable.get? ([] : NameTable Enumeration) name = none := rfl
  have known := get?_foldl_addRequired_of_none new declared
  refine List.mem_filterMap.2 ⟨name, ?_, known⟩
  rw [NameSet.mem_toList, NameSet.mem_ofList, NameTable.mem_names_iff, known]
  rfl

/-- A required type that an interface declares is known by the availability of its first
declaration. The names of its cases are those that its declarations give it. They are listed once
each, in order, if no declaration gives it a name twice; and what extensions add is listed too if
it only repeats names. -/
theorem exists_required_cases (required : name ∈ c.requiredTypes)
    (first : firstDeclaration c source name = some chain) :
    ∃ e ∈ requiredEnums c source, e.name = name ∧ e.availability = availabilityOf chain ∧
      (∀ n, n ∈ caseNames e.cases ↔ ∃ d ∈ chainsFrom c source name,
        declares c name d = true ∧ n ∈ caseNames (valuesIn c name d)) ∧
      (DeclaresOnce c source name → (caseNames e.cases).Nodup ∧ e.cases =
        firstOfEach (((chainsFrom c source name).filter (declares c name)).flatMap
          (valuesIn c name))) ∧
      (DeclaresOnce c source name → ExtendsNothing c source name → e.cases =
        firstOfEach ((chainsFrom c source name).flatMap (valuesIn c name))) := by
  obtain ⟨o, rest, declared, named, available⟩ := exists_declarationsOf_eq_cons first
  have kept := name_foldl_extendedBy rest ⟨o.name, o.cases, o.availability⟩
  have values := flatMap_cases_declarationsOf c source name
  rw [declared, List.flatMap_cons] at values
  have listed (once : DeclaresOnce c source name) :
      (rest.foldl Enumeration.extendedBy ⟨o.name, o.cases, o.availability⟩).cases =
        firstOfEach (((chainsFrom c source name).filter (declares c name)).flatMap
          (valuesIn c name)) := by
    have distinct : ∀ o' ∈ o :: rest, (caseNames o'.cases).Nodup := fun o' there =>
      nodup_cases_of_mem_declarationsOf once (declared ▸ there)
    rw [← values]
    apply cases_foldl_extendedBy (firstOfEach_of_nodup (distinct o List.mem_cons_self)).symm
    exact fun o' there => distinct o' (List.mem_cons_of_mem o there)
  refine ⟨_, mem_requiredEnums_of_declarationsOf required declared, kept.1.trans named,
    kept.2.trans available, fun n => ?names, fun once => ⟨?nodup, listed once⟩,
    fun once repeated => (listed once).trans (firstOfEach_flatMap_filter repeated)⟩
  case names =>
    have either : n ∈ caseNames (o.cases ++ rest.flatMap (·.cases)) ↔
        n ∈ caseNames o.cases ∨ ∃ o' ∈ rest, n ∈ caseNames o'.cases := by
      rw [caseNames_append, List.mem_append, mem_caseNames_flatMap]
    rw [mem_caseNames_foldl_extendedBy, ← either, values, mem_caseNames_flatMap]
    simp only [List.mem_filter, and_assoc]
  case nodup =>
    rw [listed once]
    exact nodup_caseNames_firstOfEach _

/-- Static members of a type, in a declaration of it. -/
def shapeWith (kind : TypeKind) (name : String) (values : List String) : DeclaredType :=
  ⟨kind, name, [], [], [], .always, [], [],
    values.map fun v => ⟨v, .named "Shape" [], ["static"], .always, .start⟩, [], .start⟩

/-- Asks for one type, which may be written with a module in front. -/
def shapesWanted : Configuration :=
  { Configuration.plain with requiredTypes := ["Shape"], modulePrefixes := ["Drawing"] }

/-- A struct with a value that its extension repeats, and a second declaration with one more. -/
def shapeFile : InterfaceFile where
  imports := []
  declarations := [shapeWith .structType "Shape" ["circle"],
    shapeWith .extending "Drawing.Shape" ["circle"],
    shapeWith .structType "Shape" ["square", "circle"]]
  functions := []

/-- The value of each name is listed once. -/
theorem exists_required_cases_shapeFile :
    "Shape" ∈ shapesWanted.requiredTypes ∧
    firstDeclaration shapesWanted shapeFile "Shape" =
      some [shapeWith .structType "Shape" ["circle"]] ∧
    ∃ e ∈ requiredEnums shapesWanted shapeFile, caseNames e.cases = ["circle", "square"] := by
  have required : "Shape" ∈ shapesWanted.requiredTypes := List.mem_cons_self
  have first : firstDeclaration shapesWanted shapeFile "Shape" =
      some [shapeWith .structType "Shape" ["circle"]] := rfl
  obtain ⟨e, there, -, -, -, -, listed⟩ := exists_required_cases required first
  have all : chainsFrom shapesWanted shapeFile "Shape" =
      shapeFile.declarations.map fun d => [d] := rfl
  have once : DeclaresOnce shapesWanted shapeFile "Shape" := by
    rintro chain there -
    rw [all, shapeFile] at there
    simp only [List.map_cons, List.map_nil, List.mem_cons, List.not_mem_nil, or_false] at there
    obtain rfl | rfl | rfl := there <;> decide
  have repeated : ExtendsNothing shapesWanted shapeFile "Shape" := by
    intro before chain after split undeclared n there
    rw [all] at split
    -- only the extension in the middle is no declaration of the type
    match before with
    | [] => cases split; cases undeclared
    | [_] => cases split; exact ⟨_, List.mem_cons_self, rfl, there⟩
    | [_, _] => cases split; cases undeclared
    | _ :: _ :: _ :: more =>
      have count := congrArg List.length split
      simp only [shapeFile, List.length_map, List.length_cons, List.length_append,
        List.length_nil] at count
      omega
  refine ⟨required, first, e, there, ?_⟩
  rw [listed once repeated]
  rfl

/-- A struct with an extension that adds a value to it. -/
def extendedShapeFile : InterfaceFile where
  imports := []
  declarations := [shapeWith .structType "Shape" ["circle"],
    shapeWith .extending "Shape" ["square"]]
  functions := []

/-- What only an extension declares is not listed. -/
theorem square_not_listed :
    ¬∃ e ∈ requiredEnums shapesWanted extendedShapeFile, e.name = "Shape" ∧ e.cases =
      firstOfEach ((chainsFrom shapesWanted extendedShapeFile "Shape").flatMap
        (valuesIn shapesWanted "Shape")) := by
  have found : requiredEnums shapesWanted extendedShapeFile =
      [⟨"Shape", [⟨"circle", .always⟩], .always⟩] := rfl
  rintro ⟨e, there, -, listed⟩
  rw [found, List.mem_singleton] at there
  rw [there] at listed
  cases listed

end ViewModifiers.Catalog
