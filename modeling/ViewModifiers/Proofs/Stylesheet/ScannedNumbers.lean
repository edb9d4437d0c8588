import Mathlib.Data.List.TakeWhile
import ViewModifiers.Proofs.Stylesheet.Blame
import ViewModifiers.Stylesheet.Scanner

/-!
# Numbers that are scanned

What the scanner takes as a number has digits, and so has its fraction and its exponent where there
is one. So all of these numbers can be converted to doubles. Whether a whole number can be converted
as such still depends on its length.
-/

namespace ViewModifiers.Stylesheet

open Numeral Source Text

variable {cs ds rest : List Char}

/-! ## Digits -/

/-- Nothing but decimal digits, of any script. -/
def AllDecimal (cs : List Char) : Prop := ∀ c ∈ cs, isDecimal c = true

theorem allDecimal_digitsAhead (cs : List Char) : AllDecimal (digitsAhead cs) :=
  fun _ there => List.mem_takeWhile_imp there

theorem AllDecimal.append (first : AllDecimal cs) (second : AllDecimal ds) :
    AllDecimal (cs ++ ds) :=
  fun c there => (List.mem_append.1 there).elim (first c) (second c)

theorem isSome_readDigits? (decimal : AllDecimal cs) (nonempty : cs ≠ []) :
    (readDigits? cs).isSome = true := by
  have digits (n : Nat) : (digitsFrom n cs).isSome = true := by
    induction cs generalizing n with
    | nil => rfl
    | cons c cs ih =>
      obtain ⟨d, value⟩ := Option.isSome_iff_exists.1 (decimal c List.mem_cons_self)
      rw [digitsFrom, value]
      cases cs with
      | nil => rfl
      | cons c' cs =>
        exact ih (fun c there => decimal c (List.mem_cons_of_mem _ there)) nofun _
  rw [readDigits?, if_neg (by simpa using nonempty)]
  exact digits 0

/-- Digits are told apart from what follows if that does not go on with digits. -/
theorem splitDigits (decimal : AllDecimal cs)
    (ends : ∀ c, rest.head? = some c → isDecimal c = false) :
    (cs ++ rest).takeWhile isDecimal = cs ∧ (cs ++ rest).dropWhile isDecimal = rest := by
  rw [List.takeWhile_append_of_pos decimal, List.dropWhile_append_of_pos decimal]
  cases rest with
  | nil => simp
  | cons c rest => simp [ends c rfl]

/-! ## Parts of a number -/

/-- A mark that is followed by digits, or nothing. -/
theorem markedDigits_cases (mark cs : List Char) :
    markedDigits mark cs = [] ∨
      ∃ ds, ds ≠ [] ∧ AllDecimal ds ∧ markedDigits mark cs = mark ++ ds := by
  rw [markedDigits]
  split
  · exact .inl rfl
  · next some => exact .inr ⟨_, by simpa using some, allDecimal_digitsAhead cs, rfl⟩

theorem fractionAhead_cases (cs : List Char) :
    fractionAhead cs = [] ∨
      ∃ ds, ds ≠ [] ∧ AllDecimal ds ∧ fractionAhead cs = '.' :: ds := by
  rw [fractionAhead.eq_def]
  split
  · exact markedDigits_cases _ _
  · exact .inl rfl

/-- What is read of an exponent depends on the sign behind its letter. -/
theorem exponentAhead_cases (cs : List Char) :
    exponentAhead cs = [] ∨ ∃ e sign ds, (e = 'e' ∨ e = 'E') ∧ sign ∈ [['+'], ['-'], []] ∧
      cs = e :: sign ++ ds ∧ exponentAhead cs = markedDigits (e :: sign) ds := by
  rw [exponentAhead.eq_def]
  split
  · split
    next letter =>
      have letter := by simpa using letter
      split
      · exact .inr ⟨_, ['+'], _, letter, by simp, rfl, rfl⟩
      · exact .inr ⟨_, ['-'], _, letter, by simp, rfl, rfl⟩
      · exact .inr ⟨_, [], _, letter, by simp, rfl, rfl⟩
    next => exact .inl rfl
  · exact .inl rfl

/-- An exponent starts with its letter, and it can be read. -/
structure IsExponent (cs : List Char) : Prop where
  starts : ∀ c, cs.head? = some c → c = 'e' ∨ c = 'E'
  readable : (readExponent? cs).isSome = true

theorem isExponent_nil : IsExponent [] := ⟨nofun, rfl⟩

/-- An exponent is a letter, perhaps a sign, and digits. -/
theorem isExponent_of_digits {e : Char} (letter : e = 'e' ∨ e = 'E') {sign : List Char}
    (isSign : sign ∈ [['+'], ['-'], []]) (decimal : AllDecimal ds) (nonempty : ds ≠ []) :
    IsExponent (e :: sign ++ ds) where
  starts := by
    intro c first
    cases first
    exact letter
  readable := by
    obtain ⟨n, read⟩ := Option.isSome_iff_exists.1 (isSome_readDigits? decimal nonempty)
    have isLetter : (e = 'e' || e = 'E') = true := by simpa using letter
    simp only [List.mem_cons, List.not_mem_nil, or_false] at isSign
    rcases isSign with rfl | rfl | rfl
    · change (readExponent? (e :: '+' :: ds)).isSome = true
      rw [readExponent?, if_pos isLetter, read]
      rfl
    · change (readExponent? (e :: '-' :: ds)).isSome = true
      rw [readExponent?, if_pos isLetter, read]
      rfl
    · change (readExponent? (e :: ds)).isSome = true
      rw [readExponent?.eq_def]
      dsimp only
      rw [if_pos isLetter]
      -- Digits are no signs.
      split
      · exact absurd (decimal _ List.mem_cons_self) (by decide)
      · exact absurd (decimal _ List.mem_cons_self) (by decide)
      · rw [read]
        rfl

theorem isExponent_markedDigits {e : Char} (letter : e = 'e' ∨ e = 'E') {sign : List Char}
    (isSign : sign ∈ [['+'], ['-'], []]) (cs : List Char) :
    IsExponent (markedDigits (e :: sign) cs) := by
  rcases markedDigits_cases (e :: sign) cs with none | ⟨ds, nonempty, decimal, marked⟩
  · rw [none]
    exact isExponent_nil
  · rw [marked]
    exact isExponent_of_digits letter isSign decimal nonempty

theorem isExponent_exponentAhead (cs : List Char) : IsExponent (exponentAhead cs) := by
  rcases exponentAhead_cases cs with none | ⟨e, sign, ds, letter, isSign, -, same⟩
  · rw [none]
    exact isExponent_nil
  · rw [same]
    exact isExponent_markedDigits letter isSign ds

/-! ## Whole numbers, fractions and exponents together -/

/-- A number without a sign: digits, then a point and digits, or not, then an exponent, or not. -/
inductive IsMagnitude : List Char → Prop
  | plain (whole exponent : List Char) (decimal : AllDecimal whole) (nonempty : whole ≠ [])
      (isExponent : IsExponent exponent) : IsMagnitude (whole ++ exponent)
  | fractional (whole fraction exponent : List Char) (decimal : AllDecimal whole)
      (nonempty : whole ≠ []) (decimalFraction : AllDecimal fraction)
      (isExponent : IsExponent exponent) : IsMagnitude (whole ++ '.' :: (fraction ++ exponent))

theorem isMagnitude_magnitudeAhead {cs : List Char} (some : magnitudeAhead cs ≠ []) :
    IsMagnitude (magnitudeAhead cs) := by
  have decimal := allDecimal_digitsAhead cs
  unfold magnitudeAhead at some ⊢
  generalize digitsAhead cs = whole at some decimal ⊢
  cases nonempty : whole.isEmpty with
  | true => exact absurd (if_pos nonempty) some
  | false =>
    have nonempty : whole ≠ [] := List.isEmpty_eq_false_iff.1 nonempty
    have isExponent := isExponent_exponentAhead
      (cs.drop (whole.length + (fractionAhead (cs.drop whole.length)).length))
    dsimp only
    rw [if_neg (by simpa using nonempty), List.append_assoc]
    rcases fractionAhead_cases (cs.drop whole.length) with none | ⟨ds, -, decimalFraction, fraction⟩
    · rw [none] at isExponent ⊢
      exact .plain _ _ decimal nonempty isExponent
    · rw [fraction] at isExponent ⊢
      exact .fractional _ _ _ decimal nonempty decimalFraction isExponent

namespace IsMagnitude

theorem unsigned (magnitude : IsMagnitude cs) : cs.head? ≠ some '-' := by
  have noSign {whole rest : List Char} (decimal : AllDecimal whole) (nonempty : whole ≠ []) :
      (whole ++ rest).head? ≠ some '-' := by
    obtain ⟨c, whole, rfl⟩ := List.exists_cons_of_ne_nil nonempty
    intro first
    cases first
    exact absurd (decimal _ List.mem_cons_self) (by decide)
  cases magnitude with
  | plain whole exponent decimal nonempty _ => exact noSign decimal nonempty
  | fractional whole fraction exponent decimal nonempty _ _ => exact noSign decimal nonempty

/-- The parts of a number without a sign can be read. -/
theorem parts (magnitude : IsMagnitude cs) :
    (readDigits? ((DecimalParts.ofChars cs).whole ++ (DecimalParts.ofChars cs).fraction)).isSome =
        true ∧ (readExponent? (DecimalParts.ofChars cs).exponent).isSome = true := by
  have noSign := magnitude.unsigned
  have ends {exponent : List Char} (isExponent : IsExponent exponent) (c : Char)
      (first : exponent.head? = some c) : isDecimal c = false := by
    rcases isExponent.starts c first with rfl | rfl <;> decide
  cases magnitude with
  | plain whole exponent decimal nonempty isExponent =>
    obtain ⟨taken, left⟩ := splitDigits decimal (ends isExponent)
    -- What decides the match in `ofChars`.
    have noPoint : ∀ ds, exponent ≠ '.' :: ds := by
      rintro ds rfl
      exact absurd (isExponent.starts '.' rfl) (by decide)
    have shape : DecimalParts.ofChars (whole ++ exponent) = ⟨false, whole, [], exponent⟩ := by
      simp only [DecimalParts.ofChars, noSign, decide_false, if_false, taken, left]
    rw [shape]
    exact ⟨isSome_readDigits? (decimal.append nofun) (by simp [nonempty]), isExponent.readable⟩
  | fractional whole fraction exponent decimal nonempty decimalFraction isExponent =>
    have pointEnds (c : Char) (first : ('.' :: (fraction ++ exponent)).head? = some c) :
        isDecimal c = false := by
      cases first
      decide
    obtain ⟨taken, left⟩ := splitDigits decimal pointEnds
    obtain ⟨taken', left'⟩ := splitDigits decimalFraction (ends isExponent)
    have shape : DecimalParts.ofChars (whole ++ '.' :: (fraction ++ exponent)) =
        ⟨false, whole, fraction, exponent⟩ := by
      simp only [DecimalParts.ofChars, noSign, decide_false, if_false, taken, left, taken', left']
    rw [shape]
    exact ⟨isSome_readDigits? (decimal.append decimalFraction) (by simp [nonempty]),
      isExponent.readable⟩

end IsMagnitude

theorem isSome_readDecimal?_of_parts
    (mantissa : (readDigits? ((DecimalParts.ofChars cs).whole ++
      (DecimalParts.ofChars cs).fraction)).isSome = true)
    (exponent : (readExponent? (DecimalParts.ofChars cs).exponent).isSome = true) :
    (readDecimal? cs).isSome = true := by
  obtain ⟨n, mantissa⟩ := Option.isSome_iff_exists.1 mantissa
  obtain ⟨k, exponent⟩ := Option.isSome_iff_exists.1 exponent
  rw [readDecimal?]
  simp only [mantissa, exponent]
  rfl

/-- A sign changes nothing else. -/
theorem ofChars_minus (unsigned : cs.head? ≠ some '-') :
    DecimalParts.ofChars ('-' :: cs) = { DecimalParts.ofChars cs with negative := true } := by
  simp only [DecimalParts.ofChars, List.head?_cons, List.tail_cons, unsigned, decide_true,
    decide_false, if_true, if_false]
  split <;> rfl

/-- A number at the front of a text can be converted to a double. -/
theorem isSome_readDecimal?_numberAhead (some : numberAhead cs ≠ []) :
    (readDecimal? (numberAhead cs)).isSome = true := by
  rw [numberAhead.eq_def] at some ⊢
  split at some
  next cs =>
    split at some
    next => exact absurd rfl some
    next there =>
      have magnitude := isMagnitude_magnitudeAhead (by simpa using there)
      obtain ⟨mantissa, exponent⟩ := magnitude.parts
      rw [if_neg there]
      refine isSome_readDecimal?_of_parts ?_ ?_
      · rwa [ofChars_minus magnitude.unsigned]
      · rwa [ofChars_minus magnitude.unsigned]
  next =>
    obtain ⟨mantissa, exponent⟩ := (isMagnitude_magnitudeAhead some).parts
    exact isSome_readDecimal?_of_parts mantissa exponent

/-! ## The scanner -/

/-- What holds of the tokens of every lexeme holds of the tokens of a text. -/
theorem forall_mem_of_scanFrom {P : Token → Prop}
    (each : ∀ c cs l size p, lexeme c cs = some (l, size) → ∀ t ∈ l.tokens p, P t)
    {pending : Nat} {p : Position} {found : List Token} {c : Cursor}
    (before : ∀ t ∈ found, P t) (scanned : scanFrom pending cs p found = .ok c) :
    ∀ t ∈ c.ahead, P t := by
  induction cs generalizing pending p found with
  | nil =>
    cases scanned
    exact fun t there => before t (List.mem_reverse.1 there)
  | cons d cs ih =>
    cases pending with
    | succ pending => exact ih before scanned
    | zero =>
      rw [scanFrom] at scanned
      split at scanned
      next => cases scanned
      next l size ahead =>
        refine ih (fun t there => ?_) scanned
        exact (List.mem_append.1 there).elim (each d cs l size p ahead t) (before t)

theorem ofSign?_ne_number (c : Char) : TokenKind.ofSign? c ≠ some .number := by
  rw [TokenKind.ofSign?.eq_def]
  split <;> nofun

/-- A lexeme that is a number is what stands at the front of the text as one. -/
theorem value_of_number {c : Char} {value : String} {size : Nat}
    (ahead : lexeme c cs = some (.token .number value, size)) :
    value = String.ofList (numberAhead (c :: cs)) ∧ numberAhead (c :: cs) ≠ [] := by
  rw [lexeme] at ahead
  split at ahead
  · cases ahead
  · split at ahead
    next there =>
      cases ahead
      exact ⟨rfl, by simpa using there⟩
    next =>
      split at ahead
      · obtain ⟨_, -, made⟩ := Option.map_eq_some_iff.1 ahead
        cases made
      · split at ahead
        · cases ahead
        · split at ahead
          · cases ahead
          · obtain ⟨kind, isSign, made⟩ := Option.map_eq_some_iff.1 ahead
            cases made
            exact absurd isSign (ofSign?_ne_number c)

/-- The whole numbers of a text can be converted as such, if the text has tokens at all. -/
def HasWholeNumbers (text : String) : Prop :=
  ∀ c, scan text = .ok c → ∀ t ∈ c.ahead, t.kind = .number → WholeReadable t

/-- All numbers of a text can be converted if its whole numbers can. -/
theorem HasWholeNumbers.convertible {text : String} (whole : HasWholeNumbers text) {c : Cursor}
    (scanned : scan text = .ok c) : c.Convertible := by
  have decimal : ∀ t ∈ c.ahead, t.kind = .number → (readDecimal? t.value.toList).isSome = true := by
    refine forall_mem_of_scanFrom (fun d cs l size p ahead t there isNumber => ?_)
      (List.forall_mem_nil _) scanned
    cases l with
    | blank => cases there
    | token kind value =>
      obtain rfl := List.mem_singleton.1 there
      obtain rfl : kind = .number := isNumber
      obtain ⟨rfl, some⟩ := value_of_number ahead
      rw [String.toList_ofList]
      exact isSome_readDecimal?_numberAhead some
  exact fun t there isNumber => ⟨decimal t there isNumber, whole c scanned t there isNumber⟩

end ViewModifiers.Stylesheet
