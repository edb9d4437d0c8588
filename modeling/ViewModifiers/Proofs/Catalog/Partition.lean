import ViewModifiers.Proofs.Catalog.Candidates
import ViewModifiers.Proofs.Catalog.Mapping
import ViewModifiers.Proofs.Catalog.Merging

/-!
# Retained and skipped names

A catalog sorts the collected names into retained modifiers and skipped names. The signatures of a
retained modifier are what is left of its valid overloads when they are merged: at least one, no two
of them alike, in declared order. Nothing else has a say, and the deprecated names stand apart
(`divides_ofSource`).
-/

namespace ViewModifiers.Catalog

open Interface Config Text

variable {c : Configuration} {source : InterfaceFile} {name : String}

/-! ## Merged signatures -/

theorem signaturesOf_sublist (c : Configuration) (name : String) (valid : List DeclaredFunction) :
    (signaturesOf c name valid).Sublist (valid.map (signatureOf c)) :=
  (withoutShadowed_sublist _ _ _).trans (distinctSignatures_sublist _)

theorem pairwise_signaturesOf (c : Configuration) (name : String)
    (valid : List DeclaredFunction) :
    (signaturesOf c name valid).Pairwise fun s t => s.looksLike t = false :=
  (pairwise_distinctSignatures _).sublist (withoutShadowed_sublist _ _ _)

/-- Merging leaves something of whatever there is. -/
theorem signaturesOf_ne_nil (c : Configuration) (name : String) {valid : List DeclaredFunction}
    (some : valid ≠ []) : signaturesOf c name valid ≠ [] := by
  obtain ⟨f, rest, rfl⟩ := List.exists_cons_of_ne_nil some
  have first : f ∈ f :: rest := List.mem_cons_self
  obtain ⟨k, kept, -⟩ := exists_mem_signaturesOf c name first
  exact List.ne_nil_of_mem kept

/-! ## Which names are retained -/

/-- The overloads of a name that contribute and can be read, in declared order. -/
def validOverloads (c : Configuration) (source : InterfaceFile) (name : String) :
    List DeclaredFunction :=
  ((contributions c source.declarations).filter (·.name = name)).filter isSupported

theorem retained?_ofSource (c : Configuration) (source : InterfaceFile) (name : String) :
    retained? c (Candidates.ofSource c source).overloads name =
      if isInternal name || decide (name ∈ c.denylist) || (validOverloads c source name).isEmpty
      then none else some ⟨name, signaturesOf c name (validOverloads c source name)⟩ := by
  rw [retained?, (Candidates.groups_ofSource c source).known name]
  rfl

/-- A modifier is retained under its name, with the merged signatures of its valid overloads, of
which there is one. -/
theorem retained?_eq_some_iff {m : Modifier} :
    retained? c (Candidates.ofSource c source).overloads name = some m ↔
      m = ⟨name, signaturesOf c name (validOverloads c source name)⟩ ∧ isInternal name = false ∧
        name ∉ c.denylist ∧ validOverloads c source name ≠ [] := by
  rw [retained?_ofSource, Option.ite_none_left_eq_some, Bool.not_eq_true, Bool.or_eq_false_iff,
    Bool.or_eq_false_iff, decide_eq_false_iff_not, List.isEmpty_eq_false_iff, Option.some.injEq,
    and_comm, and_assoc, eq_comm]

/-- A name is not retained if it is internal or denied, or if none of its overloads is valid. -/
theorem retained?_eq_none_iff :
    retained? c (Candidates.ofSource c source).overloads name = none ↔
      isInternal name = true ∨ name ∈ c.denylist ∨ validOverloads c source name = [] := by
  rw [retained?_ofSource, ite_eq_left_iff, not_imp_comm, Bool.or_eq_true, Bool.or_eq_true,
    decide_eq_true_eq, List.isEmpty_iff, or_assoc]
  exact forall_prop_of_true nofun

theorem mem_sortedNames {α : Type} {t : NameTable α} :
    name ∈ sortedNames t ↔ name ∈ NameTable.names t := by
  rw [sortedNames, NameSet.mem_toList, NameSet.mem_ofList]

theorem increasing_sortedNames {α : Type} (t : NameTable α) : (sortedNames t).Pairwise (· < ·) :=
  (NameSet.ofList (NameTable.names t)).increasing

/-- The retained names are the collected ones that have a modifier. -/
theorem names_ofSource (c : Configuration) (source : InterfaceFile) :
    (Catalog.ofSource c source).names =
      (sortedNames (Candidates.ofSource c source).overloads).filter fun n =>
        (retained? c (Candidates.ofSource c source).overloads n).isSome := by
  rw [Catalog.names, Catalog.ofSource, List.map_filterMap, ← List.filterMap_eq_filter]
  refine List.filterMap_congr fun n _ => ?_
  cases kept : retained? c (Candidates.ofSource c source).overloads n with
  | none => simp [Option.guard, kept]
  | some m => simp [Option.guard, kept, (retained?_eq_some_iff.1 kept).1]

theorem mem_modifiers_ofSource {m : Modifier} :
    m ∈ (Catalog.ofSource c source).modifiers ↔
      m.name ∈ NameTable.names (Candidates.ofSource c source).overloads ∧
        retained? c (Candidates.ofSource c source).overloads m.name = some m := by
  simp only [Catalog.ofSource, List.mem_filterMap, mem_sortedNames]
  constructor
  · rintro ⟨n, collected, kept⟩
    obtain rfl : m.name = n := by rw [(retained?_eq_some_iff.1 kept).1]
    exact ⟨collected, kept⟩
  · rintro ⟨collected, kept⟩
    exact ⟨m.name, collected, kept⟩

/-! ## Deprecated names -/

/-- The deprecated names are the names that have a message, without the internal ones. -/
theorem names_sortedDeprecations (t : NameTable String) :
    NameTable.names (sortedDeprecations t) = (sortedNames t).filter fun n => !isInternal n := by
  rw [NameTable.names, sortedDeprecations, List.map_filterMap]
  refine (List.filterMap_congr fun n listed => ?_).trans List.filterMap_some
  have known : n ∈ NameTable.names t := mem_sortedNames.1 (List.mem_of_mem_filter listed)
  obtain ⟨message, told⟩ := Option.isSome_iff_exists.1 (NameTable.mem_names_iff.1 known)
  rw [told]
  rfl

/-! ## The partition -/

/-- How a catalog divides what was collected from an interface. -/
structure Divides (c : Configuration) (source : InterfaceFile) : Prop where
  /-- Every collected name is retained or skipped and not both. -/
  once : ∀ name ∈ NameTable.names (Candidates.ofSource c source).overloads,
    Xor (name ∈ (Catalog.ofSource c source).names) (name ∈ (Catalog.ofSource c source).skipped)
  /-- No other name is. -/
  collected : ∀ name,
    name ∈ (Catalog.ofSource c source).names ∨ name ∈ (Catalog.ofSource c source).skipped →
      name ∈ NameTable.names (Candidates.ofSource c source).overloads
  retainedIncrease : (Catalog.ofSource c source).names.Pairwise (· < ·)
  skippedIncrease : (Catalog.ofSource c source).skipped.Pairwise (· < ·)
  /-- Why a collected name is skipped. -/
  skipped_iff : ∀ name ∈ NameTable.names (Candidates.ofSource c source).overloads,
    (name ∈ (Catalog.ofSource c source).skipped ↔
      isInternal name = true ∨ name ∈ c.denylist ∨ validOverloads c source name = [])
  /-- A modifier has a signature. -/
  signed : ∀ m ∈ (Catalog.ofSource c source).modifiers, m.signatures ≠ []
  /-- The signatures of a modifier can be told apart. -/
  distinct : ∀ m ∈ (Catalog.ofSource c source).modifiers,
    m.signatures.Pairwise fun s t => s.looksLike t = false
  /-- The signatures of a modifier are those of valid overloads in declared order. -/
  ordered : ∀ m ∈ (Catalog.ofSource c source).modifiers,
    m.signatures.Sublist ((validOverloads c source m.name).map (signatureOf c))
  /-- A signature is contributed by a function of a view extension that is not static, and that
  neither by itself nor through its extension is deprecated or unavailable everywhere. -/
  origin : ∀ m ∈ (Catalog.ofSource c source).modifiers, ∀ s ∈ m.signatures,
    ∃ d ∈ source.declarations, extendsView c d = true ∧ ∃ f ∈ d.functions,
      f.name = m.name ∧ isSupported f = true ∧ s = signatureOf c f ∧
        areStatic f.modifiers = false ∧
        (f.availability.deprecated = false ∧ d.availability.deprecated = false) ∧
        "*" ∉ f.availability.unavailable ∧ "*" ∉ d.availability.unavailable
  deprecationsIncrease :
    (NameTable.names (Catalog.ofSource c source).deprecations).Pairwise (· < ·)
  deprecationsPublic : ∀ name ∈ NameTable.names (Catalog.ofSource c source).deprecations,
    isInternal name = false

theorem mem_names_ofSource :
    name ∈ (Catalog.ofSource c source).names ↔
      name ∈ NameTable.names (Candidates.ofSource c source).overloads ∧
        (retained? c (Candidates.ofSource c source).overloads name).isSome = true := by
  rw [names_ofSource, List.mem_filter, mem_sortedNames]

theorem mem_skipped_ofSource :
    name ∈ (Catalog.ofSource c source).skipped ↔
      name ∈ NameTable.names (Candidates.ofSource c source).overloads ∧
        retained? c (Candidates.ofSource c source).overloads name = none := by
  rw [Catalog.ofSource, List.mem_filter, mem_sortedNames, Option.isNone_iff_eq_none]

/-- The signatures of a modifier are the merged ones of its valid overloads, of which there is
one. -/
theorem signatures_of_mem_modifiers {m : Modifier}
    (retained : m ∈ (Catalog.ofSource c source).modifiers) :
    m.signatures = signaturesOf c m.name (validOverloads c source m.name) ∧
      validOverloads c source m.name ≠ [] := by
  obtain ⟨is, -, -, some⟩ := retained?_eq_some_iff.1 (mem_modifiers_ofSource.1 retained).2
  exact ⟨congrArg Modifier.signatures is, some⟩

/-- What a valid overload is the member of. -/
theorem exists_of_mem_validOverloads {f : DeclaredFunction}
    (valid : f ∈ validOverloads c source name) :
    ∃ d ∈ source.declarations, extendsView c d = true ∧ ∃ g ∈ d.functions,
      f = memberOf d g ∧ g.name = name ∧ isSupported g = true ∧ areStatic g.modifiers = false ∧
        (g.availability.deprecated = false ∧ d.availability.deprecated = false) ∧
        "*" ∉ g.availability.unavailable ∧ "*" ∉ d.availability.unavailable := by
  rw [validOverloads, List.mem_filter, List.mem_filter, decide_eq_true_eq] at valid
  obtain ⟨⟨contributes, named⟩, supported⟩ := valid
  obtain ⟨d, declared, extends_, g, there, rfl, free⟩ := mem_contributions.1 contributes
  exact ⟨d, declared, extends_, g, there, rfl, named, supported, free⟩

/-- A catalog divides the collected names into modifiers and skipped names. -/
theorem divides_ofSource (c : Configuration) (source : InterfaceFile) : Divides c source where
  once := by
    intro name collected
    rw [mem_names_ofSource, mem_skipped_ofSource]
    cases retained? c (Candidates.ofSource c source).overloads name with
    | none => exact .inr ⟨⟨collected, rfl⟩, nofun⟩
    | some m => exact .inl ⟨⟨collected, rfl⟩, nofun⟩
  collected := by
    rintro name (retained | skipped)
    · exact (mem_names_ofSource.1 retained).1
    · exact (mem_skipped_ofSource.1 skipped).1
  retainedIncrease := by
    rw [names_ofSource]
    exact (increasing_sortedNames _).filter _
  skippedIncrease := (increasing_sortedNames _).filter _
  skipped_iff := by
    intro name collected
    rw [mem_skipped_ofSource, retained?_eq_none_iff, and_iff_right collected]
  signed := by
    intro m retained
    obtain ⟨are, some⟩ := signatures_of_mem_modifiers retained
    rw [are]
    exact signaturesOf_ne_nil c m.name some
  distinct := by
    intro m retained
    rw [(signatures_of_mem_modifiers retained).1]
    exact pairwise_signaturesOf c m.name _
  ordered := by
    intro m retained
    rw [(signatures_of_mem_modifiers retained).1]
    exact signaturesOf_sublist c m.name _
  origin := by
    intro m retained s signed
    rw [(signatures_of_mem_modifiers retained).1] at signed
    obtain ⟨f, valid, rfl⟩ := List.mem_map.1 ((signaturesOf_sublist c m.name _).subset signed)
    obtain ⟨d, declared, extends_, g, there, rfl, named, supported, free⟩ :=
      exists_of_mem_validOverloads valid
    exact ⟨d, declared, extends_, g, there, named, supported, signatureOf_congr rfl rfl, free⟩
  deprecationsIncrease := by
    rw [Catalog.ofSource, names_sortedDeprecations]
    exact (increasing_sortedNames _).filter _
  deprecationsPublic := by
    intro name listed
    rw [Catalog.ofSource, names_sortedDeprecations, List.mem_filter, Bool.not_eq_true'] at listed
    exact listed.2

end ViewModifiers.Catalog
