import Mathlib.Data.List.DropRight
import ViewModifiers.Dispatch.EnumReader
import ViewModifiers.Proofs.Numeral.Digits
import ViewModifiers.Proofs.Text.Blank

/-!
# The order of versions

Versions are ordered by the first number in which they differ, and numbers that are missing at the
end count as zero. The lists of numbers that are compared have lost the zeros at their end, so that
comparing them number by number, with the shorter list first, gives this order
(`atLeast_trimmedVersion`): a list that has ended is followed by some number that is not zero.
-/

namespace ViewModifiers.Dispatch

open Text Numeral Interface Emit

/-! ## Numbers of a version -/

/-- The number at a place of a version; numbers that are missing count as zero. -/
def part (v : List Nat) (i : Nat) : Nat := v[i]?.getD 0

/-- One version is at least another one: they have the same numbers, or the first one has the
greater number where they differ first. -/
def IsAtLeast (v w : List Nat) : Prop :=
  (∀ i, part v i = part w i) ∨ ∃ i, (∀ j < i, part v j = part w j) ∧ part w i < part v i

variable {v v' w w' : List Nat}

theorem IsAtLeast.congr (left : ∀ i, part v i = part v' i) (right : ∀ i, part w i = part w' i) :
    IsAtLeast v w ↔ IsAtLeast v' w' := by
  simp only [IsAtLeast, left, right]

theorem part_tail (v : List Nat) (i : Nat) : part v.tail i = part v (i + 1) := by
  cases v <;> rfl

/-- The first numbers decide, unless they are the same. -/
theorem isAtLeast_iff_tail : IsAtLeast v w ↔
    part w 0 < part v 0 ∨ part v 0 = part w 0 ∧ IsAtLeast v.tail w.tail := by
  constructor
  · rintro (same | ⟨i, before, greater⟩)
    · exact .inr ⟨same 0, .inl fun i => by rw [part_tail, part_tail, same]⟩
    · cases i with
      | zero => exact .inl greater
      | succ i =>
        refine .inr ⟨before 0 (by omega), .inr ⟨i, fun j less => ?_, ?_⟩⟩
        · rw [part_tail, part_tail, before (j + 1) (by omega)]
        · rwa [part_tail, part_tail]
  · rintro (greater | ⟨first, same | ⟨i, before, greater⟩⟩)
    · exact .inr ⟨0, fun j less => absurd less (Nat.not_lt_zero j), greater⟩
    · refine .inl fun i => ?_
      cases i with
      | zero => exact first
      | succ i => rw [← part_tail, ← part_tail, same]
    · refine .inr ⟨i + 1, fun j less => ?_, by rwa [← part_tail, ← part_tail]⟩
      cases j with
      | zero => exact first
      | succ j => rw [← part_tail, ← part_tail, before j (by omega)]

theorem isAtLeast_nil (v : List Nat) : IsAtLeast v [] := by
  induction v with
  | nil => exact .inl fun _ => rfl
  | cons n v ih =>
    rw [isAtLeast_iff_tail]
    exact (Nat.eq_zero_or_pos n).symm.imp id fun zero => ⟨zero, ih⟩

theorem part_of_mem {n : Nat} (there : n ∈ v) : ∃ i, part v i = n := by
  obtain ⟨i, known⟩ := List.mem_iff_getElem?.1 there
  exact ⟨i, by rw [part, known, Option.getD_some]⟩

theorem not_isAtLeast_nil {n : Nat} (there : n ∈ w) (nonzero : n ≠ 0) : ¬IsAtLeast [] w := by
  rintro (same | ⟨i, -, greater⟩)
  · obtain ⟨i, known⟩ := part_of_mem there
    exact nonzero (known ▸ (same i).symm)
  · exact Nat.not_lt_zero _ greater

/-! ## Zeros at the end -/

/-- A version in which no zero stands at the end. -/
def EndsNonzero (v : List Nat) : Prop := ∀ n ∈ v.getLast?, n ≠ 0

/-- A version without the zeros at its end. -/
def withoutZeros (v : List Nat) : List Nat := v.rdropWhile (· = 0)

theorem withoutZeros_concat (v : List Nat) (n : Nat) :
    withoutZeros (v ++ [n]) = if n = 0 then withoutZeros v else v ++ [n] := by
  simp [withoutZeros, List.rdropWhile_concat]

theorem endsNonzero_withoutZeros (v : List Nat) : EndsNonzero (withoutZeros v) := by
  induction v using List.reverseRecOn with
  | nil => nofun
  | append_singleton v n ih =>
    rw [withoutZeros_concat]
    split
    · exact ih
    · next nonzero =>
      intro m last
      rw [List.getLast?_concat] at last
      cases last
      exact nonzero

theorem part_concat_zero (v : List Nat) (i : Nat) : part (v ++ [0]) i = part v i := by
  rw [part, part, List.getElem?_append]
  split
  · rfl
  · next past =>
    rw [List.getElem?_eq_none (Nat.le_of_not_lt past)]
    cases i - v.length <;> rfl

/-- Zeros at the end do not change the numbers of a version. -/
theorem part_withoutZeros (v : List Nat) (i : Nat) : part (withoutZeros v) i = part v i := by
  induction v using List.reverseRecOn with
  | nil => rfl
  | append_singleton v n ih =>
    rw [withoutZeros_concat]
    split
    · next zero => rw [ih, zero, part_concat_zero]
    · rfl

theorem withoutZeros_ne_nil {n : Nat} (there : n ∈ v) (nonzero : n ≠ 0) : withoutZeros v ≠ [] := by
  intro empty
  have zeros := List.rdropWhile_eq_nil_iff.1 empty n there
  exact nonzero (of_decide_eq_true zeros)

theorem part_trimmedVersion (v : List Nat) (i : Nat) : part (trimmedVersion v) i = part v i := by
  match v, i with
  | [], _ => rfl
  | _ :: _, 0 => rfl
  | n :: ns, i + 1 => exact (part_tail _ i).symm.trans (part_withoutZeros ns i)

/-- A trimmed version ends in zero only if it is zero. -/
theorem trimmedVersion_cases (n : Nat) (ns : List Nat) :
    trimmedVersion (n :: ns) = [0] ∨ EndsNonzero (trimmedVersion (n :: ns)) := by
  have shape : trimmedVersion (n :: ns) = n :: withoutZeros ns := rfl
  rw [shape]
  cases rest : withoutZeros ns with
  | nil =>
    by_cases zero : n = 0
    · exact .inl (by rw [zero])
    · exact .inr fun m last => by
        cases last
        exact zero
  | cons m ms =>
    refine .inr fun k last => endsNonzero_withoutZeros ns k ?_
    rw [rest]
    exact last

theorem trim_map (v : List Nat) :
    Version.trim (v.map Int.ofNat) = (withoutZeros v).map Int.ofNat := by
  have zero : ((fun n : Int => decide (n = 0)) ∘ Int.ofNat) = fun n : Nat => decide (n = 0) := by
    funext n
    simp
  rw [Version.trim, ← List.map_reverse, List.dropWhile_map, zero, ← List.map_reverse]
  rfl

/-! ## Comparing lists of numbers -/

theorem atLeast_cons (m n : Nat) (v w : List Nat) :
    Version.atLeast ((m :: v).map Int.ofNat) ((n :: w).map Int.ofNat) = true ↔
      n < m ∨ m = n ∧ Version.atLeast (v.map Int.ofNat) (w.map Int.ofNat) = true := by
  simp [Version.atLeast, Int.ofNat_inj]

/-- Lists of numbers are compared as versions if no zero stands at the end of the lower one. -/
theorem atLeast_iff (ends : EndsNonzero w) :
    Version.atLeast (v.map Int.ofNat) (w.map Int.ofNat) = true ↔ IsAtLeast v w := by
  induction w generalizing v with
  | nil => exact iff_of_true (by rw [List.map_nil, Version.atLeast]) (isAtLeast_nil v)
  | cons n w ih =>
    cases v with
    | nil =>
      obtain ⟨last, known⟩ : ∃ m, (n :: w).getLast? = some m := ⟨_, List.getLast?_cons⟩
      exact iff_of_false Bool.false_ne_true
        (not_isAtLeast_nil (List.mem_of_getLast? known) (ends last known))
    | cons m v =>
      have later : EndsNonzero w := by
        intro k last
        refine ends k ?_
        rw [List.getLast?_cons, last]
        rfl
      rw [atLeast_cons, ih later, isAtLeast_iff_tail (v := m :: v)]
      rfl

/-- The order is settled by the numbers that are there. -/
instance (v w : List Nat) : Decidable (IsAtLeast v w) :=
  decidable_of_iff (Version.atLeast (v.map Int.ofNat) ((withoutZeros w).map Int.ofNat) = true)
    ((atLeast_iff (endsNonzero_withoutZeros w)).trans
      (IsAtLeast.congr (fun _ => rfl) (part_withoutZeros w)))

/-- A version that is not empty is compared with a trimmed one as with the one that was trimmed. -/
theorem atLeast_trimmedVersion (some : v ≠ []) (n : Nat) (ns : List Nat) :
    Version.atLeast (v.map Int.ofNat) ((trimmedVersion (n :: ns)).map Int.ofNat) = true ↔
      IsAtLeast v (n :: ns) := by
  have same : IsAtLeast v (trimmedVersion (n :: ns)) ↔ IsAtLeast v (n :: ns) :=
    IsAtLeast.congr (fun _ => rfl) (part_trimmedVersion (n :: ns))
  rw [← same]
  rcases trimmedVersion_cases n ns with zero | ends
  · -- The first number is kept even if it is zero, which every version reaches that has a number.
    obtain ⟨m, v, rfl⟩ := List.exists_cons_of_ne_nil some
    rw [zero, atLeast_cons, isAtLeast_iff_tail]
    exact or_congr_right (and_congr_right fun _ =>
      iff_of_true (by rw [List.map_nil, Version.atLeast]) (isAtLeast_nil v))
  · exact atLeast_iff ends

/-! ## Reading versions -/

/-- A version text: runs of digits with dots between them. -/
def IsVersionText (text : String) : Prop :=
  ∀ piece ∈ pieces '.' text.toList, piece ≠ [] ∧ AllDigits piece

/-- A version text in which no run of digits is too long to be converted. -/
def IsShortVersion (text : String) : Prop :=
  ∀ piece ∈ pieces '.' text.toList, piece.length ≤ digitLimit

/-- The numbers of a version text. -/
def numbersIn (text : String) : List Nat :=
  (pieces '.' text.toList).map fun piece => Nat.ofDigitChars 10 piece 0

instance (text : String) : Decidable (IsVersionText text) :=
  decidable_of_iff (((pieces '.' text.toList).all fun piece => !piece.isEmpty &&
    piece.all fun c => 48 ≤ c.toNat && c.toNat ≤ 57) = true) (by simp [IsVersionText, AllDigits])

instance (text : String) : Decidable (IsShortVersion text) :=
  inferInstanceAs (Decidable (∀ piece ∈ pieces '.' text.toList, piece.length ≤ digitLimit))

variable {text : String}

theorem numbersIn_ne_nil (text : String) : numbersIn text ≠ [] :=
  List.map_eq_nil_iff.not.2 (pieces_ne_nil '.' text.toList)

/-- Where each item gives something, a list gives all of it. -/
theorem mapM_eq_some_map {α β : Type} {f : α → Option β} {g : α → β} {xs : List α}
    (gives : ∀ x ∈ xs, f x = some (g x)) : xs.mapM f = some (xs.map g) := by
  induction xs with
  | nil => rfl
  | cons x xs ih =>
    rw [List.mapM_cons, gives x List.mem_cons_self,
      ih fun y there => gives y (List.mem_cons_of_mem x there)]
    rfl

/-- No blank stands in a version text. -/
theorem IsVersionText.trimBlanks_eq (version : IsVersionText text) :
    trimBlanks text.toList = text.toList := by
  have plain : ∀ c ∈ text.toList, isBlank c = false := by
    intro c there
    rcases exists_mem_pieces '.' there with rfl | ⟨piece, listed, within⟩
    · decide
    · exact isBlank_of_bounds ((version piece listed).2 c within)
  exact trimBlanks_eq_self (fun c first => plain c (List.mem_of_mem_head? first))
    fun c last => plain c (List.mem_of_getLast? last)

theorem IsVersionText.readMagnitude?_eq (version : IsVersionText text)
    (short : IsShortVersion text) {piece : List Char} (there : piece ∈ pieces '.' text.toList) :
    readMagnitude? piece = some (Nat.ofDigitChars 10 piece 0) := by
  obtain ⟨nonempty, digits⟩ := version piece there
  rw [readMagnitude?_of_digits digits nonempty, if_pos (short piece there)]

/-- A version text of a target is read as its numbers, without zeros at the end. -/
theorem IsVersionText.read?_eq (version : IsVersionText text) (short : IsShortVersion text) :
    Version.read? text = some ((withoutZeros (numbersIn text)).map Int.ofNat) := by
  have all : (pieces '.' text.toList).filter (fun p => !p.isEmpty) = pieces '.' text.toList :=
    List.filter_eq_self.2 fun piece there => by simp [(version piece there).1]
  have numbers : (pieces '.' text.toList).mapM readInteger? =
      some ((numbersIn text).map Int.ofNat) := by
    rw [numbersIn, List.map_map]
    refine mapM_eq_some_map fun piece there => ?_
    rw [readInteger?_of_digits (version piece there).2, version.readMagnitude?_eq short there]
    rfl
  rw [Version.read?, version.trimBlanks_eq]
  simp only [all, numbers, Option.map_some, trim_map]

/-- A version text of a requirement is read as its numbers. -/
theorem IsVersionText.numbersOf?_eq (version : IsVersionText text) (short : IsShortVersion text) :
    PlatformRequirement.numbersOf? text = some (numbersIn text) := by
  have all : (pieces '.' text.toList).filter (fun p => !p.isEmpty && p.all isDigit) =
      pieces '.' text.toList := by
    refine List.filter_eq_self.2 fun piece there => ?_
    obtain ⟨nonempty, digits⟩ := version piece there
    rw [Bool.and_eq_true, List.all_eq_true]
    exact ⟨by simp [nonempty], fun c within => isDigit_of_bounds (digits c within)⟩
  rw [PlatformRequirement.numbersOf?, all]
  refine mapM_eq_some_map fun piece there => ?_
  obtain ⟨nonempty, digits⟩ := version piece there
  rw [readNatural?_of_digits digits nonempty, if_pos (short piece there)]

end ViewModifiers.Dispatch
