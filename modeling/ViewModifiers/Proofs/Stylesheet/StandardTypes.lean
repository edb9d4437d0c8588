import ViewModifiers.Proofs.Stylesheet.EnumValues

/-!
# The standard types

The standard plain types are spelled as plain types, and the standard generic types take one
argument. So a tree tells what the standard registry makes of it (`exists_argument`,
`eq_plain_of_known`), and a registry that knows the standard types and others besides has a reader
wherever the standard registry has one (`KnowsStandardTypes.exists_find`).
-/

namespace ViewModifiers.Stylesheet

open Reader Text TypeSpelling

/-! ## Generic types -/

/-- The standard generic types by name, with what they make of the reader of their argument. -/
inductive StandardGeneric : String → (Reader Value → Reader Value) → Prop
  | attributeReference : StandardGeneric "AttributeReference" attributeOr
  | changeTracked : StandardGeneric "ChangeTracked" fun _ => binding
  | set : StandardGeneric "Set" Reader.set
  | array : StandardGeneric "Array" Reader.array
  | optional : StandardGeneric "Optional" Reader.optional

theorem StandardGeneric.factory {name : String} {build : Reader Value → Reader Value}
    (isStandard : StandardGeneric name build) :
    NameTable.get? Registry.standard.generic name = some (.unary build) := by
  cases isStandard <;> rfl

theorem exists_standardGeneric {name : String} {factory : Factory}
    (known : NameTable.get? Registry.standard.generic name = some factory) :
    ∃ build, StandardGeneric name build ∧ factory = .unary build := by
  have there := NameTable.mem_of_get? known
  simp only [Registry.standard, List.mem_cons, List.not_mem_nil, or_false, Prod.mk.injEq] at there
  rcases there with ⟨rfl, rfl⟩ | ⟨rfl, rfl⟩ | ⟨rfl, rfl⟩ | ⟨rfl, rfl⟩ | ⟨rfl, rfl⟩
  · exact ⟨_, .attributeReference, rfl⟩
  · exact ⟨_, .changeTracked, rfl⟩
  · exact ⟨_, .set, rfl⟩
  · exact ⟨_, .array, rfl⟩
  · exact ⟨_, .optional, rfl⟩

namespace Registry

variable {r : Registry} {found : Reader Value}

/-- A registry that knows the standard generic types. -/
def KnowsStandardGenerics (r : Registry) : Prop := r.generic = standard.generic

/-- The parts of a generic type whose reader is made by a factory. -/
theorem exists_argument (standardGenerics : r.KnowsStandardGenerics) {name : String}
    {arguments : List TypeSpelling} {factory : Factory}
    {pairs : List (TypeSpelling × Reader Value)}
    (known : NameTable.get? r.generic name = some factory) (each : pairs.map Prod.fst = arguments)
    (made : factory.build? (pairs.map Prod.snd) = some found) :
    ∃ build t reader, StandardGeneric name build ∧ arguments = [t] ∧ pairs = [(t, reader)] ∧
      found = build reader := by
  rw [standardGenerics] at known
  obtain ⟨build, isStandard, rfl⟩ := exists_standardGeneric known
  obtain ⟨reader, single, rfl⟩ := Factory.unary_eq_some made
  obtain ⟨⟨t, reader⟩, rfl, rfl⟩ := List.map_eq_singleton_iff.1 single
  exact ⟨build, t, reader, isStandard, each.symm, rfl, rfl⟩

/-! ## Plain types -/

/-- The standard plain types are spelled as plain types. -/
theorem read_of_known {text : String}
    (known : NameTable.get? standard.plain text = some found) : read text = .plain text := by
  have there := NameTable.mem_of_get? known
  simp only [standard, List.mem_cons, List.not_mem_nil, or_false, Prod.mk.injEq] at there
  rcases there with ⟨rfl, -⟩ | ⟨rfl, -⟩ | ⟨rfl, -⟩ | ⟨rfl, -⟩ | ⟨rfl, -⟩ | ⟨rfl, -⟩ | ⟨rfl, -⟩ |
    ⟨rfl, -⟩ | ⟨rfl, -⟩ | ⟨rfl, -⟩ | ⟨rfl, -⟩ | ⟨rfl, -⟩ <;> rfl

/-- Only a plain type is found as a whole. -/
theorem eq_plain_of_known {t : TypeSpelling} (readable : Readable t)
    (known : NameTable.get? standard.plain t.text = some found) : t = .plain t.text :=
  readable.read_text.symm.trans (read_of_known known)

/-! ## Other types besides -/

/-- A registry that knows the standard types. -/
structure KnowsStandardTypes (r : Registry) : Prop where
  plain : ∀ text, (NameTable.get? standard.plain text).isSome = true →
    (NameTable.get? r.plain text).isSome = true
  generic : r.KnowsStandardGenerics

namespace KnowsStandardTypes

variable (knows : r.KnowsStandardTypes)

include knows

theorem exists_finds {t : TypeSpelling} (finds : standard.Finds t found) :
    ∃ found', r.Finds t found' := by
  induction finds with
  | @whole t found known =>
    obtain ⟨found', still⟩ := Option.isSome_iff_exists.1 (knows.plain t.text (known ▸ rfl))
    exact ⟨found', .whole still⟩
  | optional _ _ ih =>
    obtain ⟨_, finds⟩ := ih
    exact exists_finds_of_unknown fun unknown => ⟨_, .optional unknown finds⟩
  | array _ _ ih =>
    obtain ⟨_, finds⟩ := ih
    exact exists_finds_of_unknown fun unknown => ⟨_, .array unknown finds⟩
  | dictionary _ _ _ keyIh ih =>
    obtain ⟨_, findsKey⟩ := keyIh
    obtain ⟨_, finds⟩ := ih
    exact exists_finds_of_unknown fun unknown => ⟨_, .dictionary unknown findsKey finds⟩
  | generic _ known each _ made ih =>
    obtain ⟨build, t, reader, isStandard, rfl, rfl, rfl⟩ := exists_argument rfl known each made
    obtain ⟨reader', finds⟩ := ih _ List.mem_cons_self
    have still := isStandard.factory
    rw [← knows.generic] at still
    have same : [(t, reader')].map Prod.fst = [t] := rfl
    exact exists_finds_of_unknown fun unknown =>
      ⟨build reader', .generic unknown still same (List.forall_mem_singleton.2 finds) rfl⟩

/-- Where the standard registry has a reader, there is one. -/
theorem exists_find {spelling : String} (h : standard.find spelling = .ok found) :
    ∃ found', r.find spelling = .ok found' := by
  obtain ⟨found', finds⟩ := knows.exists_finds (find_eq_ok_iff.1 h)
  exact ⟨found', find_eq_ok_iff.2 finds⟩

end KnowsStandardTypes

end Registry

end ViewModifiers.Stylesheet
