import ViewModifiers.Proofs.Catalog.Merging

/-!
# The first of each class of duplicates

Signatures are merged from left to right, and each is compared only with those that were kept before
it. Being duplicates is an equivalence, so this comes to the same as comparing with all earlier
ones: what is kept are the signatures that duplicate no earlier signature, kept or not.
-/

namespace ViewModifiers.Catalog

/-- Two signatures duplicate each other if they agree place by place, to the same length. -/
theorem looksLike_iff_forall₂ {s t : Signature} :
    s.looksLike t = true ↔
      List.Forall₂ (fun p q => p.firstName = q.firstName ∧ p.type.plainName = q.type.plainName)
        s.parameters t.parameters := by
  rw [looksLike_iff, Signature.shape, Signature.shape, ← List.forall₂_eq_eq_eq,
    List.forall₂_map_left_iff, List.forall₂_map_right_iff]
  simp only [Parameter.shape, Prod.mk.injEq]

theorem equivalence_looksLike : Equivalence fun s t : Signature => s.looksLike t = true where
  refl _ := looksLike_iff.2 rfl
  symm same := looksLike_iff.2 (looksLike_iff.1 same).symm
  trans first second := looksLike_iff.2 ((looksLike_iff.1 first).trans (looksLike_iff.1 second))

/-- Whether a signature duplicates none of those in front of a place. -/
def isNewAt (signatures : List Signature) (place : Nat) (s : Signature) : Bool :=
  !(signatures.take place).any (·.looksLike s)

/-- The signatures that duplicate no earlier one, in their order. -/
def newSignatures (signatures : List Signature) : List Signature :=
  (signatures.zipIdx.filter fun x => isNewAt signatures x.2 x.1).map (·.1)

/-- What comes later does not decide whether a signature is new. -/
theorem isNewAt_append {before : List Signature} {place : Nat} (inside : place ≤ before.length)
    (after : List Signature) (s : Signature) :
    isNewAt (before ++ after) place s = isNewAt before place s := by
  rw [isNewAt, isNewAt, List.take_append_of_le_length inside]

theorem newSignatures_append_singleton (signatures : List Signature) (s : Signature) :
    newSignatures (signatures ++ [s]) =
      newSignatures signatures ++ if signatures.any (·.looksLike s) then [] else [s] := by
  have earlier : signatures.zipIdx.filter (fun x => isNewAt (signatures ++ [s]) x.2 x.1) =
      signatures.zipIdx.filter fun x => isNewAt signatures x.2 x.1 := by
    refine List.filter_congr fun x there => ?_
    have inside := List.snd_lt_of_mem_zipIdx there
    exact isNewAt_append (by omega) [s] x.1
  have last : isNewAt (signatures ++ [s]) signatures.length s =
      !signatures.any (·.looksLike s) := by
    rw [isNewAt_append (Nat.le_refl _), isNewAt, List.take_length]
  rw [newSignatures, List.zipIdx_append, List.filter_append, earlier, List.map_append,
    newSignatures]
  congr 1
  rw [List.zipIdx_singleton, Nat.zero_add, List.filter_singleton, last]
  cases signatures.any (·.looksLike s) <;> rfl

/-- A signature duplicates one of those that are kept if it duplicates any at all. -/
theorem any_distinctSignatures (signatures : List Signature) (s : Signature) :
    (distinctSignatures signatures).any (·.looksLike s) = signatures.any (·.looksLike s) := by
  rw [Bool.eq_iff_iff, List.any_eq_true, List.any_eq_true]
  constructor
  · rintro ⟨t, kept, same⟩
    exact ⟨t, (distinctSignatures_sublist signatures).subset kept, same⟩
  · rintro ⟨t, there, same⟩
    obtain ⟨u, kept, alike⟩ := exists_mem_distinctSignatures there
    exact ⟨u, kept, looksLike_iff.2 (alike.trans (looksLike_iff.1 same))⟩

theorem distinctSignatures_eq_newSignatures (signatures : List Signature) :
    distinctSignatures signatures = newSignatures signatures := by
  induction signatures using List.reverseRecOn with
  | nil => rfl
  | append_singleton before last ih =>
    rw [distinctSignatures_append_singleton, newSignatures_append_singleton,
      any_distinctSignatures, ih]
    split
    · rw [List.append_nil]
    · rfl

/-- Nothing is dropped where no two signatures duplicate each other. -/
theorem distinctSignatures_of_pairwise {signatures : List Signature}
    (distinct : signatures.Pairwise fun s t => s.looksLike t = false) :
    distinctSignatures signatures = signatures := by
  induction signatures using List.reverseRecOn with
  | nil => rfl
  | append_singleton before last ih =>
    obtain ⟨earlier, -, apart⟩ := List.pairwise_append.1 distinct
    have new : ¬before.any (·.looksLike last) = true := by
      rw [List.any_eq_true]
      rintro ⟨s, there, same⟩
      rw [apart s there last (List.mem_singleton_self last)] at same
      exact Bool.false_ne_true same
    rw [distinctSignatures_append_singleton, any_distinctSignatures, if_neg new, ih earlier]

theorem distinctSignatures_idem (signatures : List Signature) :
    distinctSignatures (distinctSignatures signatures) = distinctSignatures signatures :=
  distinctSignatures_of_pairwise (pairwise_distinctSignatures signatures)

/-- Merging may be done in portions. -/
theorem distinctSignatures_append (xs ys : List Signature) :
    distinctSignatures (xs ++ ys) = distinctSignatures (distinctSignatures xs ++ ys) := by
  have portion (zs : List Signature) : distinctSignatures (zs ++ ys) =
      ys.foldl (fun kept s => if kept.any (·.looksLike s) then kept else kept ++ [s])
        (distinctSignatures zs) := List.foldl_append
  rw [portion, portion, distinctSignatures_idem]

/-- Each signature duplicates a new one at its own place or an earlier one. -/
theorem exists_isNewAt {signatures : List Signature} {i : Nat} {s : Signature}
    (there : signatures[i]? = some s) :
    ∃ j ≤ i, ∃ t, signatures[j]? = some t ∧ isNewAt signatures j t = true ∧
      t.looksLike s = true := by
  induction i using Nat.strongRecOn generalizing s with
  | ind i ih =>
    by_cases new : isNewAt signatures i s = true
    · exact ⟨i, Nat.le_refl i, s, there, new, looksLike_iff.2 rfl⟩
    · rw [isNewAt, Bool.not_eq_true', Bool.not_eq_false, List.any_eq_true] at new
      obtain ⟨u, early, same⟩ := new
      obtain ⟨k, isThere⟩ := List.mem_iff_getElem?.1 early
      obtain ⟨before, isThere⟩ : k < i ∧ signatures[k]? = some u := by
        simpa [List.getElem?_take] using isThere
      obtain ⟨j, le, t, at_, isNew, alike⟩ := ih k before isThere
      exact ⟨j, Nat.le_trans le (Nat.le_of_lt before), t, at_, isNew,
        equivalence_looksLike.trans alike same⟩

/-- Being duplicates is an equivalence of signatures, place by place. Merging keeps exactly those
that duplicate no earlier one, of all that were given; so it keeps no two duplicates, and for each
signature one of its class that is no later. Merging again changes nothing, and what comes first may
be merged first. -/
theorem distinctSignatures_firsts :
    (∀ s t : Signature, s.looksLike t = true ↔
      List.Forall₂ (fun p q => p.firstName = q.firstName ∧ p.type.plainName = q.type.plainName)
        s.parameters t.parameters) ∧
    (Equivalence fun s t : Signature => s.looksLike t = true) ∧
    (∀ xs, distinctSignatures xs = newSignatures xs) ∧
    (∀ xs, (distinctSignatures xs).Pairwise fun s t => s.looksLike t = false) ∧
    (∀ (xs : List Signature) (i : Nat) (s : Signature), xs[i]? = some s →
      ∃ j ≤ i, ∃ t, xs[j]? = some t ∧ isNewAt xs j t = true ∧ t ∈ distinctSignatures xs ∧
        t.looksLike s = true) ∧
    (∀ xs, distinctSignatures (distinctSignatures xs) = distinctSignatures xs) ∧
    ∀ xs ys, distinctSignatures (xs ++ ys) = distinctSignatures (distinctSignatures xs ++ ys) := by
  refine ⟨fun s t => looksLike_iff_forall₂, equivalence_looksLike,
    distinctSignatures_eq_newSignatures, pairwise_distinctSignatures, ?_,
    distinctSignatures_idem, distinctSignatures_append⟩
  intro xs i s there
  obtain ⟨j, le, t, isThere, new, same⟩ := exists_isNewAt there
  refine ⟨j, le, t, isThere, new, ?_, same⟩
  rw [distinctSignatures_eq_newSignatures]
  refine List.mem_map.2 ⟨(t, j), List.mem_filter.2 ⟨?_, new⟩, rfl⟩
  exact List.mem_zipIdx_iff_getElem?.2 isThere

end ViewModifiers.Catalog
