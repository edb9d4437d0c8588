import Mathlib.Data.List.Forall2
import Mathlib.Data.List.Induction
import ViewModifiers.Catalog.Basic

/-!
# What merging keeps

The signatures of a modifier are merged in two steps. A signature that duplicates an earlier one is
dropped, and so are, for some modifiers, the builder forms that a sibling with view references
covers. For each of them a signature is kept that covers it: one with the same labels, and with the
same plain types but for view references in place of builders.
-/

namespace ViewModifiers.Catalog

open Interface

/-! ## Duplicates -/

theorem looksLike_iff {s t : Signature} : s.looksLike t = true ↔ s.shape = t.shape := by
  rw [Signature.looksLike, beq_iff_eq]

theorem distinctSignatures_append_singleton (signatures : List Signature) (s : Signature) :
    distinctSignatures (signatures ++ [s]) =
      if (distinctSignatures signatures).any (·.looksLike s) then distinctSignatures signatures
      else distinctSignatures signatures ++ [s] := by
  rw [distinctSignatures, List.foldl_append]
  rfl

/-- For each signature one of its shape is kept. -/
theorem exists_mem_distinctSignatures {signatures : List Signature} {s : Signature}
    (there : s ∈ signatures) : ∃ t ∈ distinctSignatures signatures, t.shape = s.shape := by
  induction signatures using List.reverseRecOn with
  | nil => cases there
  | append_singleton before last ih =>
    rw [distinctSignatures_append_singleton]
    rcases List.mem_append.1 there with early | late
    · obtain ⟨t, kept, same⟩ := ih early
      split
      · exact ⟨t, kept, same⟩
      · exact ⟨t, List.mem_append_left _ kept, same⟩
    · cases List.mem_singleton.1 late
      split
      next found =>
        obtain ⟨t, kept, alike⟩ := List.any_eq_true.1 found
        exact ⟨t, kept, looksLike_iff.1 alike⟩
      next => exact ⟨s, List.mem_append_right _ (List.mem_singleton_self s), rfl⟩

theorem distinctSignatures_sublist (signatures : List Signature) :
    (distinctSignatures signatures).Sublist signatures := by
  induction signatures using List.reverseRecOn with
  | nil => exact .refl []
  | append_singleton before last ih =>
    rw [distinctSignatures_append_singleton]
    split
    · exact ih.trans (List.sublist_append_left before [last])
    · exact ih.append_right [last]

/-- No signature that is kept duplicates an earlier one. -/
theorem pairwise_distinctSignatures (signatures : List Signature) :
    (distinctSignatures signatures).Pairwise fun s t => s.looksLike t = false := by
  induction signatures using List.reverseRecOn with
  | nil => exact .nil
  | append_singleton before last ih =>
    rw [distinctSignatures_append_singleton]
    split
    next => exact ih
    next new =>
      rw [Bool.not_eq_true, List.any_eq_false] at new
      refine List.pairwise_append.2 ⟨ih, List.pairwise_singleton _ _, fun s kept t is => ?_⟩
      cases List.mem_singleton.1 is
      exact Bool.eq_false_iff.2 (new s kept)

/-! ## Builder forms -/

/-- A parameter is alike in another signature, apart from a builder that has been replaced. -/
def Matches (p q : Parameter) : Prop :=
  p.firstName = q.firstName ∧ (isReplaced p q = true ∨ p.type = q.type)

/-- How many parameters of builder form there are. -/
def builders (ps : List Parameter) : Nat :=
  ps.countP fun p => refersTo "ToolbarContentReference" p.type

theorem refersTo_view_of_isReplaced {p q : Parameter} (replaced : isReplaced p q = true) :
    refersTo "ViewReference" q.type = true :=
  (Bool.and_eq_true_iff.1 replaced).2

theorem refersTo_builder_of_isReplaced {p q : Parameter} (replaced : isReplaced p q = true) :
    refersTo "ToolbarContentReference" p.type = true :=
  (Bool.and_eq_true_iff.1 replaced).1

/-- A view reference is no builder. -/
theorem not_refersTo_builder {t : TypeExpr} (isView : refersTo "ViewReference" t = true) :
    refersTo "ToolbarContentReference" t = false := by
  cases t with
  | named name arguments =>
    rw [refersTo, beq_iff_eq] at isView
    subst isView
    rfl
  | _ => rfl

theorem not_isReplaced_of_type_eq {p q : Parameter} (same : p.type = q.type) :
    isReplaced p q = false := by
  cases isView : refersTo "ViewReference" q.type with
  | false => rw [isReplaced, isView, Bool.and_false]
  | true => rw [isReplaced, same, not_refersTo_builder isView, Bool.false_and]

theorem replacements_cons (p q : Parameter) (ps qs : List Parameter) :
    replacements (p :: ps) (q :: qs) =
      if p.firstName = q.firstName then
        if isReplaced p q then (replacements ps qs).map fun _ => true
        else if p.type = q.type then replacements ps qs
        else none
      else none := rfl

/-- What the comparison finds: parameters that match place by place, and whether one of them is
replaced. -/
theorem replacements_eq_some_iff {ps qs : List Parameter} {any : Bool} :
    replacements ps qs = some any ↔
      List.Forall₂ Matches ps qs ∧ any = (ps.zip qs).any fun m => isReplaced m.1 m.2 := by
  induction ps generalizing qs any with
  | nil =>
    cases qs with
    | nil => simp [replacements, eq_comm]
    | cons q qs => simp [replacements]
  | cons p ps ih =>
    cases qs with
    | nil => simp [replacements]
    | cons q qs =>
      rw [replacements_cons, List.forall₂_cons, List.zip_cons_cons, List.any_cons]
      by_cases named : p.firstName = q.firstName
      · rw [if_pos named]
        by_cases replaced : isReplaced p q = true
        · rw [if_pos replaced, Option.map_eq_some_iff]
          constructor
          · rintro ⟨found, rest, rfl⟩
            exact ⟨⟨⟨named, .inl replaced⟩, (ih.1 rest).1⟩, by rw [replaced, Bool.true_or]⟩
          · rintro ⟨⟨-, rest⟩, rfl⟩
            exact ⟨_, ih.2 ⟨rest, rfl⟩, by rw [replaced, Bool.true_or]⟩
        · rw [if_neg replaced]
          rw [Bool.not_eq_true] at replaced
          rw [replaced, Bool.false_or]
          by_cases same : p.type = q.type
          · rw [if_pos same, ih, Matches, replaced]
            simp [named, same]
          · rw [if_neg same, Matches, replaced]
            simp [same]
      · rw [if_neg named, Matches]
        simp [named]

theorem isShadowedBy_iff {s t : Signature} :
    isShadowedBy s t = true ↔
      List.Forall₂ Matches s.parameters t.parameters ∧
        ((s.parameters.zip t.parameters).any fun m => isReplaced m.1 m.2) = true := by
  rw [isShadowedBy, decide_eq_true_iff, replacements_eq_some_iff, eq_comm (a := true)]

theorem builders_cons (p : Parameter) (ps : List Parameter) :
    builders (p :: ps) =
      builders ps + if refersTo "ToolbarContentReference" p.type then 1 else 0 :=
  List.countP_cons

/-- Replacing takes builder forms away. -/
theorem builders_le_of_matches {ps qs : List Parameter} (matched : List.Forall₂ Matches ps qs) :
    builders qs ≤ builders ps ∧
      (((ps.zip qs).any fun m => isReplaced m.1 m.2) = true → builders qs < builders ps) := by
  induction matched with
  | nil => exact ⟨Nat.le_refl _, fun found => Bool.noConfusion found⟩
  | @cons p q ps qs first rest ih =>
    rw [builders_cons, builders_cons, List.zip_cons_cons, List.any_cons]
    rcases first.2 with replaced | same
    · rw [refersTo_builder_of_isReplaced replaced,
        not_refersTo_builder (refersTo_view_of_isReplaced replaced)]
      have fewer := ih.1
      simp only [if_true, Bool.false_eq_true, if_false]
      omega
    · rw [same, not_isReplaced_of_type_eq same, Bool.false_or]
      exact ⟨Nat.add_le_add_right ih.1 _, fun found => Nat.add_lt_add_right (ih.2 found) _⟩

theorem builders_lt_of_isShadowedBy {s t : Signature} (shadowed : isShadowedBy s t = true) :
    builders t.parameters < builders s.parameters :=
  let ⟨matched, found⟩ := isShadowedBy_iff.1 shadowed
  (builders_le_of_matches matched).2 found

/-- A view reference is not replaced again. -/
theorem Matches.trans {p q o : Parameter} (first : Matches p q) (second : Matches q o) :
    Matches p o ∧ (isReplaced p q = true → isReplaced p o = true) := by
  obtain ⟨named, replaced | same⟩ := first
  · have isView := refersTo_view_of_isReplaced replaced
    have isBuilder := refersTo_builder_of_isReplaced replaced
    rcases second.2 with again | same'
    · rw [isReplaced, not_refersTo_builder isView, Bool.false_and] at again
      cases again
    · have still : isReplaced p o = true := by rw [isReplaced, isBuilder, ← same', isView]; rfl
      exact ⟨⟨named.trans second.1, .inl still⟩, fun _ => still⟩
  · refine ⟨⟨named.trans second.1, ?_⟩, fun replaced => ?_⟩
    · rcases second.2 with replaced | same'
      · exact .inl (by rwa [isReplaced, same])
      · exact .inr (same.trans same')
    · rw [not_isReplaced_of_type_eq same] at replaced
      cases replaced

theorem forall₂_matches_trans {ps qs os : List Parameter} (first : List.Forall₂ Matches ps qs)
    (second : List.Forall₂ Matches qs os) :
    List.Forall₂ Matches ps os ∧
      (((ps.zip qs).any fun m => isReplaced m.1 m.2) = true →
        ((ps.zip os).any fun m => isReplaced m.1 m.2) = true) := by
  induction first generalizing os with
  | nil =>
    cases second
    exact ⟨.nil, id⟩
  | cons head _ ih =>
    cases second with
    | cons head' rest' =>
      obtain ⟨matched, found⟩ := ih rest'
      obtain ⟨here, replaced⟩ := head.trans head'
      refine ⟨.cons here matched, ?_⟩
      simp only [List.zip_cons_cons, List.any_cons, Bool.or_eq_true]
      exact Or.imp replaced found

theorem isShadowedBy_trans {s t u : Signature} (first : isShadowedBy s t = true)
    (second : isShadowedBy t u = true) : isShadowedBy s u = true := by
  obtain ⟨matched, found⟩ := isShadowedBy_iff.1 first
  obtain ⟨whole, still⟩ := forall₂_matches_trans matched (isShadowedBy_iff.1 second).1
  exact isShadowedBy_iff.2 ⟨whole, still found⟩

/-- A signature that is covered at all is covered by one that nothing covers. -/
theorem exists_unshadowed {signatures : List Signature} {s t : Signature}
    (there : t ∈ signatures) (shadowed : isShadowedBy s t = true) :
    ∃ u ∈ signatures, isShadowedBy s u = true ∧ ∀ v ∈ signatures, isShadowedBy u v = false := by
  -- Whatever covers a signature has fewer builders than it.
  induction count : builders t.parameters using Nat.strongRecOn generalizing t with
  | ind n ih =>
    by_cases covered : ∃ v ∈ signatures, isShadowedBy t v = true
    · obtain ⟨v, among, shadowed'⟩ := covered
      have fewer : builders v.parameters < n := count ▸ builders_lt_of_isShadowedBy shadowed'
      exact ih _ fewer among (isShadowedBy_trans shadowed shadowed') rfl
    · refine ⟨t, there, shadowed, fun v among => Bool.eq_false_iff.2 fun shadowed' => ?_⟩
      exact covered ⟨v, among, shadowed'⟩

/-- Each signature is kept, or covered by one that is. -/
theorem exists_mem_withoutShadowed (name : String) (preferring : List String)
    {signatures : List Signature} {s : Signature} (there : s ∈ signatures) :
    ∃ t ∈ withoutShadowed name signatures preferring, t = s ∨ isShadowedBy s t = true := by
  rw [withoutShadowed]
  split
  · by_cases covered : ∃ t ∈ signatures, isShadowedBy s t = true
    · obtain ⟨t, among, shadowed⟩ := covered
      obtain ⟨u, among', shadowed', free⟩ := exists_unshadowed among shadowed
      have kept : (!signatures.any fun v => isShadowedBy u v) = true := by
        rw [Bool.not_eq_true', List.any_eq_false]
        exact fun v among => by rw [free v among]; exact Bool.false_ne_true
      exact ⟨u, List.mem_filter.2 ⟨among', kept⟩, .inr shadowed'⟩
    · have kept : (!signatures.any fun t => isShadowedBy s t) = true := by
        rw [Bool.not_eq_true', List.any_eq_false]
        exact fun t among shadowed => covered ⟨t, among, shadowed⟩
      exact ⟨s, List.mem_filter.2 ⟨there, kept⟩, .inl rfl⟩
  · exact ⟨s, there, .inl rfl⟩

theorem withoutShadowed_sublist (name : String) (signatures : List Signature)
    (preferring : List String) :
    (withoutShadowed name signatures preferring).Sublist signatures := by
  rw [withoutShadowed]
  split
  · exact List.filter_sublist
  · exact .refl signatures

/-! ## Both steps -/

/-- A signature covers another one if it has the shape of that one, or is a form with view
references of one that has. -/
def Covers (k s : Signature) : Prop :=
  ∃ t : Signature, t.shape = s.shape ∧ (k = t ∨ isShadowedBy t k = true)

/-- For each overload of a modifier a signature is kept that covers its own. -/
theorem exists_mem_signaturesOf (c : Config.Configuration) (name : String)
    {valid : List DeclaredFunction} {f : DeclaredFunction} (there : f ∈ valid) :
    ∃ k ∈ signaturesOf c name valid, Covers k (signatureOf c f) := by
  obtain ⟨t, distinct, same⟩ := exists_mem_distinctSignatures (List.mem_map_of_mem there)
  obtain ⟨k, kept, covers⟩ :=
    exists_mem_withoutShadowed name c.preferViewReference distinct
  exact ⟨k, kept, t, same, covers⟩

/-- The labels of a signature are those of the one that covers it. -/
theorem Covers.firstNames {k s : Signature} (covers : Covers k s) :
    k.parameters.map (·.firstName) = s.parameters.map (·.firstName) := by
  obtain ⟨t, same, kept⟩ := covers
  have labels : t.parameters.map (·.firstName) = s.parameters.map (·.firstName) := by
    have firsts := congrArg (List.map Prod.fst) same
    rwa [Signature.shape, Signature.shape, List.map_map, List.map_map] at firsts
  rw [← labels]
  rcases kept with rfl | shadowed
  · rfl
  · have named := (isShadowedBy_iff.1 shadowed).1.imp fun _ _ matched => matched.1
    rw [eq_comm, ← List.forall₂_eq_eq_eq, List.forall₂_map_left_iff, List.forall₂_map_right_iff]
    exact named

end ViewModifiers.Catalog
