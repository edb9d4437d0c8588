import ViewModifiers.Interface.AttributeReader
import ViewModifiers.Proofs.Catalog.Candidates
import ViewModifiers.Proofs.Catalog.Enumeration
import ViewModifiers.Proofs.Interface.Merging
import ViewModifiers.Proofs.Interface.Runs

/-!
# Inherited availability

A declaration has the constraints of its own attributes and those of the declarations around it,
inner ones first. They are merged where they are found: those of one declaration when its attributes
are read, the others on the way in. By the laws of merging the result is the same in whatever
portions they are merged (`merge_in_any_grouping`).
-/

namespace ViewModifiers.Catalog

open Interface Config Text TokenReader Availability

variable {a : Availability}

/-- The constraints that some attributes give, merged in any grouping, come to what reading them
gives. -/
theorem exists_of_run'_readAttributes {s t : TokenStream} {attributes : List Attribute}
    (read : readAttributes.run' s = (.ok (attributes, a), t)) :
    ∃ found, (many AttributeReader.attribute?).run' s = (.ok found, t) ∧
      attributes = found.map (·.1) ∧
      ∀ g : Grouping, g.constraints = .always :: found.filterMap (·.2) → g.merged = a := by
  obtain ⟨found, u, ran, last⟩ := exists_of_run'_bind read
  cases last
  refine ⟨found, ran, rfl, ?_⟩
  intro g order
  rw [g.merged_eq_mergeAll, order, mergeAll_always_cons, foldl_merge_always]

/-- What a chain comes to is merged from the constraints that its declarations are made up of. -/
theorem availabilityOf_eq_mergeAll {parts : DeclaredType → List Availability}
    (chain : List DeclaredType)
    (own : ∀ d ∈ chain, (parts d).foldl merge .always = d.availability) :
    availabilityOf chain = mergeAll (chain.flatMap parts ++ [.always]) := by
  induction chain with
  | nil => rfl
  | cons d outer ih =>
    have later := ih fun e there => own e (List.mem_cons_of_mem d there)
    have first := own d List.mem_cons_self
    rw [availabilityOf, later, ← first, foldl_merge_always, List.flatMap_cons, List.append_assoc,
      mergeAll_append _ (List.append_ne_nil_of_right_ne_nil _ (List.cons_ne_nil _ _))]

/-- What a member of an extension comes to is merged from the constraints of both. -/
theorem availability_memberOf_eq_mergeAll {d : DeclaredType} {f : DeclaredFunction}
    {own outer : List Availability} (first : own.foldl merge .always = f.availability)
    (second : outer.foldl merge .always = d.availability) :
    (memberOf d f).availability = mergeAll (own ++ .always :: outer) := by
  rw [mergeAll_append own (List.cons_ne_nil _ _), mergeAll_always_cons, ← foldl_merge_always,
    ← foldl_merge_always, first, second]
  rfl

/-- Every overload that is collected is a member of an extension. -/
theorem exists_memberOf_of_overload {c : Configuration} {source : InterfaceFile} {name : String}
    {fs : List DeclaredFunction} {f : DeclaredFunction}
    (known : NameTable.get? (Candidates.ofSource c source).overloads name = some fs)
    (there : f ∈ fs) : ∃ d ∈ source.declarations, ∃ g ∈ d.functions, f = memberOf d g := by
  have groups := Candidates.groups_ofSource c source
  obtain ⟨rfl, -⟩ := (groups.overloads name fs).1 known
  have contributes := (List.mem_filter.1 there).1
  obtain ⟨d, declared, -, g, inside, is, -⟩ := mem_contributions.1 contributes
  exact ⟨d, declared, g, inside, is⟩

/-- Merging is associative and idempotent, and no requirement is neutral for it: in front of any
constraint, and behind one whose texts are not empty. No platform is listed twice that was not, and
of each platform the first constraint counts that lists it. Therefore attributes, types inside other
declarations, and functions of extensions are available as their own constraints and those around
them say, in whatever grouping these are merged. -/
theorem merge_in_any_grouping :
    (∀ a b c : Availability, (a.merge b).merge c = a.merge (b.merge c)) ∧
    (∀ a : Availability, a.merge a = a) ∧
    (∀ a : Availability, Availability.always.merge a = a) ∧
    (∀ a : Availability, a.message ≠ some "" → a.renamed ≠ some "" → a.merge .always = a) ∧
    (∀ a b : Availability, (a.platforms.map (·.platform)).Nodup →
      (b.platforms.map (·.platform)).Nodup → ((a.merge b).platforms.map (·.platform)).Nodup) ∧
    (∀ (a b : Availability) (platform : String),
      (a.merge b).platforms.filter (·.platform = platform) =
        if a.lists platform then a.platforms.filter (·.platform = platform)
        else b.platforms.filter (·.platform = platform)) ∧
    (∀ (s t : TokenStream) (attributes : List Attribute) (a : Availability),
      readAttributes.run' s = (.ok (attributes, a), t) →
      ∃ found, (many AttributeReader.attribute?).run' s = (.ok found, t) ∧
        attributes = found.map (·.1) ∧
        ∀ g : Grouping, g.constraints = .always :: found.filterMap (·.2) → g.merged = a) ∧
    (∀ (c : Configuration) (source : InterfaceFile), ∀ o ∈ occurrencesOf c source,
      ∃ chain ∈ chains [] source.declarations, occurrenceOf? c.modulePrefixes chain = some o ∧
        ∀ parts : DeclaredType → List Availability,
          (∀ d ∈ chain, (parts d).foldl merge .always = d.availability) →
          ∀ g : Grouping, g.constraints = chain.flatMap parts ++ [.always] →
            g.merged = o.availability) ∧
    ∀ (c : Configuration) (source : InterfaceFile) (name : String) (fs : List DeclaredFunction),
      NameTable.get? (Candidates.ofSource c source).overloads name = some fs → ∀ f ∈ fs,
      ∃ d ∈ source.declarations, ∃ g ∈ d.functions, f = memberOf d g ∧
        ∀ own outer : List Availability, own.foldl merge .always = g.availability →
          outer.foldl merge .always = d.availability →
          ∀ h : Grouping, h.constraints = own ++ .always :: outer → h.merged = f.availability := by
  refine ⟨merge_assoc, merge_self, always_merge, fun _ => merge_always,
    fun _ _ => nodup_platforms_merge, filter_platforms_merge,
    fun _ _ _ _ => exists_of_run'_readAttributes, ?types, ?functions⟩
  case types =>
    intro c source o occurs
    rw [occurrencesOf_eq] at occurs
    obtain ⟨chain, there, declares⟩ := List.mem_filterMap.1 occurs
    refine ⟨chain, there, declares, ?_⟩
    intro parts own g order
    rw [g.merged_eq_mergeAll, order, ← availabilityOf_eq_mergeAll chain own,
      availability_of_occurrenceOf? declares]
  case functions =>
    intro c source name fs known f there
    obtain ⟨d, declared, g, inside, is⟩ := exists_memberOf_of_overload known there
    refine ⟨d, declared, g, inside, is, ?_⟩
    intro own outer first second h order
    rw [h.merged_eq_mergeAll, order, is, availability_memberOf_eq_mergeAll first second]

/-- A constraint that lists one platform. -/
def onlyFrom (platform version : String) : Availability :=
  { Availability.always with platforms := [⟨platform, some version⟩] }

/-- An enum with two constraints of its own, in an extension with another one. -/
def modeFile : InterfaceFile where
  imports := []
  declarations :=
    [⟨.extending, "View", [], [], [], onlyFrom "iOS" "14.0", [], [], [],
      [⟨.enumType, "Mode", [], [], [], (onlyFrom "macOS" "12.0").merge (onlyFrom "iOS" "15.0"), [],
        [], [], [], .start⟩], .start⟩]
  functions := []

/-- The nested enum is available as its own two constraints and that of the extension say, also when
its second one is merged with that of the extension first. -/
theorem merge_in_any_grouping_modeFile : ∃ o ∈ occurrencesOf .plain modeFile,
    o.availability = (Grouping.both (.one (onlyFrom "macOS" "12.0")) (.both
      (.both (.one (onlyFrom "iOS" "15.0")) (.one (onlyFrom "iOS" "14.0"))) (.one .always))).merged := by
  obtain ⟨-, -, -, -, -, -, -, types, -⟩ := merge_in_any_grouping
  obtain ⟨o, there⟩ : ∃ o, o ∈ occurrencesOf .plain modeFile := by
    rw [occurrencesOf_eq]
    exact ⟨_, List.mem_filterMap.2 ⟨_, List.mem_cons_of_mem _ List.mem_cons_self, rfl⟩⟩
  obtain ⟨chain, inside, is, grouped⟩ := types .plain modeFile o there
  refine ⟨o, there, ?_⟩
  let parts (d : DeclaredType) : List Availability :=
    if d.kind = .extending then [onlyFrom "iOS" "14.0"]
    else [onlyFrom "macOS" "12.0", onlyFrom "iOS" "15.0"]
  -- of the two chains, the one that ends in the extension declares no type
  simp only [modeFile, chains, chainsIn, List.append_nil, List.mem_cons, List.not_mem_nil,
    or_false] at inside
  obtain rfl | rfl := inside
  · cases is
  · refine (grouped parts ?_ _ rfl).symm
    simp only [List.mem_cons, List.not_mem_nil, or_false, forall_eq_or_imp, forall_eq]
    exact ⟨rfl, rfl⟩

end ViewModifiers.Catalog
