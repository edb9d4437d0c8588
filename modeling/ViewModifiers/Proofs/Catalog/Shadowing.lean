import ViewModifiers.Proofs.Catalog.Merging

/-!
# Builder forms that are dropped

Where a modifier prefers view references, a signature is dropped if a sibling covers it, and that
sibling may itself be dropped. A sibling that nothing covers is always left (`exists_unshadowed`),
so what is kept covers all that was given, and nothing in it covers anything else in it. A modifier
that is not listed keeps what it was given.
-/

namespace ViewModifiers.Catalog

open Interface

variable {name : String} {preferring : List String} {signatures : List Signature}
  {s t : Signature}

theorem withoutShadowed_of_mem (listed : name ∈ preferring) (signatures : List Signature) :
    withoutShadowed name signatures preferring =
      signatures.filter fun s => !signatures.any fun t => isShadowedBy s t := by
  rw [withoutShadowed, if_pos (List.contains_iff_mem.2 listed)]

theorem withoutShadowed_of_not_mem (unlisted : name ∉ preferring) (signatures : List Signature) :
    withoutShadowed name signatures preferring = signatures := by
  rw [withoutShadowed, if_neg (mt List.contains_iff_mem.1 unlisted)]

theorem not_any_isShadowedBy_iff :
    (!signatures.any fun t => isShadowedBy s t) = true ↔
      ∀ t ∈ signatures, isShadowedBy s t = false := by
  rw [Bool.not_eq_true', List.any_eq_false]
  simp only [Bool.not_eq_true]

/-- What is kept is covered by nothing that was given, kept or not. -/
theorem not_isShadowedBy_of_kept (listed : name ∈ preferring)
    (kept : s ∈ withoutShadowed name signatures preferring) (there : t ∈ signatures) :
    isShadowedBy s t = false := by
  rw [withoutShadowed_of_mem listed, List.mem_filter, not_any_isShadowedBy_iff] at kept
  exact kept.2 t there

/-- A signature that occurs less often than before is covered by one that is kept. -/
theorem exists_isShadowedBy_of_count_lt
    (dropped : (withoutShadowed name signatures preferring).count s < signatures.count s) :
    ∃ t ∈ withoutShadowed name signatures preferring, isShadowedBy s t = true := by
  have there : s ∈ signatures := List.count_pos_iff.1 (by omega)
  obtain ⟨t, kept, rfl | shadowed⟩ := exists_mem_withoutShadowed name preferring there
  · -- whether a signature is dropped does not depend on its place, so this one is not
    exfalso
    by_cases listed : name ∈ preferring
    · rw [withoutShadowed_of_mem listed] at kept dropped
      have all := List.count_filter (p := fun s => !signatures.any fun u => isShadowedBy s u)
        (l := signatures) (List.mem_filter.1 kept).2
      omega
    · rw [withoutShadowed_of_not_mem listed] at dropped
      omega
  · exact ⟨t, kept, shadowed⟩

theorem eq_nil_of_withoutShadowed_eq_nil (none : withoutShadowed name signatures preferring = []) :
    signatures = [] := by
  cases signatures with
  | nil => rfl
  | cons s rest =>
    obtain ⟨t, kept, -⟩ := exists_mem_withoutShadowed name preferring
      (List.mem_cons_self : s ∈ s :: rest)
    rw [none] at kept
    cases kept

theorem withoutShadowed_idem (name : String) (signatures : List Signature)
    (preferring : List String) :
    withoutShadowed name (withoutShadowed name signatures preferring) preferring =
      withoutShadowed name signatures preferring := by
  by_cases listed : name ∈ preferring
  · rw [withoutShadowed_of_mem listed (withoutShadowed _ _ _), List.filter_eq_self]
    intro s kept
    rw [not_any_isShadowedBy_iff]
    intro t kept'
    have there : t ∈ signatures := (withoutShadowed_sublist name signatures preferring).subset kept'
    exact not_isShadowedBy_of_kept listed kept there
  · rw [withoutShadowed_of_not_mem listed, withoutShadowed_of_not_mem listed]

/-- Covering is looked for among all siblings, so their order makes no difference. -/
theorem perm_withoutShadowed {others : List Signature} (permuted : signatures.Perm others) :
    (withoutShadowed name signatures preferring).Perm
      (withoutShadowed name others preferring) := by
  by_cases listed : name ∈ preferring
  · have alike : (fun s => !signatures.any fun t => isShadowedBy s t) =
        fun s => !others.any fun t => isShadowedBy s t := by
      funext s
      rw [permuted.any_eq]
    rw [withoutShadowed_of_mem listed, withoutShadowed_of_mem listed, alike]
    exact permuted.filter _
  · rw [withoutShadowed_of_not_mem listed, withoutShadowed_of_not_mem listed]
    exact permuted

/-- What is kept is in the order that was given, and nothing is kept only of nothing. A signature is
dropped only if one that is kept covers it, and where view references are preferred nothing that is
kept covers anything else that is; elsewhere nothing is dropped. Doing it again changes nothing, and
other orders give other orders of the same. -/
theorem withoutShadowed_drops_covered (name : String) (preferring : List String)
    (signatures : List Signature) :
    (withoutShadowed name signatures preferring).Sublist signatures ∧
    (withoutShadowed name signatures preferring = [] → signatures = []) ∧
    (∀ s, (withoutShadowed name signatures preferring).count s < signatures.count s →
      ∃ t ∈ withoutShadowed name signatures preferring, isShadowedBy s t = true) ∧
    (name ∈ preferring → ∀ s ∈ withoutShadowed name signatures preferring,
      ∀ t ∈ withoutShadowed name signatures preferring, isShadowedBy s t = false) ∧
    (name ∉ preferring → withoutShadowed name signatures preferring = signatures) ∧
    withoutShadowed name (withoutShadowed name signatures preferring) preferring =
      withoutShadowed name signatures preferring ∧
    ∀ others : List Signature, signatures.Perm others →
      (withoutShadowed name signatures preferring).Perm
        (withoutShadowed name others preferring) := by
  have sublist := withoutShadowed_sublist name signatures preferring
  refine ⟨sublist, eq_nil_of_withoutShadowed_eq_nil, fun _ => exists_isShadowedBy_of_count_lt, ?_,
    fun unlisted => withoutShadowed_of_not_mem unlisted signatures,
    withoutShadowed_idem name signatures preferring, fun _ => perm_withoutShadowed⟩
  intro listed s kept t kept'
  exact not_isShadowedBy_of_kept listed kept (sublist.subset kept')

/-- A signature without labels, with parameters of the given types. -/
def withTypes (types : List String) : Signature :=
  ⟨types.map fun t => ⟨wildcard, none, .named t [], false⟩⟩

/-- Two builders, and the same with one and with two of them replaced. -/
def toolbarForms : List Signature :=
  [withTypes ["ToolbarContentReference", "ToolbarContentReference"],
    withTypes ["ViewReference", "ToolbarContentReference"],
    withTypes ["ViewReference", "ViewReference"]]

/-- The first form is dropped for the second one, which is dropped for the third one. -/
theorem withoutShadowed_drops_covered_toolbarForms :
    "toolbar" ∈ ["toolbar"] ∧
    (∀ s ∈ withoutShadowed "toolbar" toolbarForms ["toolbar"],
      ∀ t ∈ withoutShadowed "toolbar" toolbarForms ["toolbar"], isShadowedBy s t = false) ∧
    withoutShadowed "toolbar" toolbarForms ["toolbar"] =
      [withTypes ["ViewReference", "ViewReference"]] :=
  ⟨by decide,
    (withoutShadowed_drops_covered "toolbar" ["toolbar"] toolbarForms).2.2.2.1 (by decide), rfl⟩

/-- A modifier that does not prefer view references keeps a builder form that a sibling covers. -/
theorem shadowed_kept_of_unlisted :
    ¬∀ s ∈ withoutShadowed "toolbar"
        [withTypes ["ToolbarContentReference"], withTypes ["ViewReference"]] [],
      ∀ t ∈ withoutShadowed "toolbar"
        [withTypes ["ToolbarContentReference"], withTypes ["ViewReference"]] [],
      isShadowedBy s t = false := by
  intro apart
  have shadowed := apart (withTypes ["ToolbarContentReference"]) List.mem_cons_self
    (withTypes ["ViewReference"]) (List.mem_cons_of_mem _ List.mem_cons_self)
  cases shadowed

end ViewModifiers.Catalog
