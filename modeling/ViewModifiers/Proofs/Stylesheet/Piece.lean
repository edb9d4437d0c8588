import ViewModifiers.Proofs.Numeral.Digits
import ViewModifiers.Proofs.Source.Pieces
import ViewModifiers.Stylesheet.Scanner

/-!
# Stylesheet text in pieces

A text that is written out consists of spaces, and of tokens that know how they are spelled. Pieces
that all fit are scanned as the tokens they stand for (`scan_of_fitting`).
-/

namespace ViewModifiers.Stylesheet

open Source Text Numeral

/-- A piece of a text. -/
inductive Piece
  | space
  | sign (kind : TokenKind)
  | word (name : String)
  | number (n : Int)
  | quoted (s : String)
  | atom (name : String)
  deriving DecidableEq, Repr

/-- A character of a string in quotes. Backslashes, quotes and line ends are written by a backslash
and another character. -/
def escape (c : Char) : List Char :=
  if c = '\\' then ['\\', '\\']
  else if c = '"' then ['\\', '"']
  else if c = '\n' then ['\\', 'n']
  else [c]

/-- A string in quotes. -/
def quote (s : String) : List Char := '"' :: (s.toList.flatMap escape ++ ['"'])

namespace Piece

/-- The characters of a piece. -/
def spelling : Piece → List Char
  | space => [' ']
  | sign kind => kind.label.toList
  | word name => name.toList
  | number n => (toString n).toList
  | quoted s => quote s
  | atom name => ':' :: quote name

/-- What a piece is scanned as. -/
def lexeme : Piece → Lexeme
  | space => .blank
  | sign kind => .token kind kind.label
  | word name => .token .name name
  | number n => .token .number (toString n)
  | quoted s => .token .string s
  | atom name => .token .atom name

/-- The scanner ends a piece where a text begins. -/
def Fits (x : Piece) (rest : List Char) : Prop :=
  ∃ c cs, x.spelling = c :: cs ∧
    Stylesheet.lexeme c (cs ++ rest) = some (x.lexeme, x.spelling.length)

end Piece

instance : Spelled Piece Token where
  spelling := Piece.spelling
  tokens := fun x p => x.lexeme.tokens p
  Fits := Piece.Fits

variable {c : Char} {cs rest : List Char} {x : Piece} {xs : List Piece}

/-! ## Scanning pieces -/

/-- Characters that belong to the lexeme read last are passed over. -/
theorem scanFrom_append_of_length (cs rest : List Char) (p : Position) (found : List Token) :
    scanFrom cs.length (cs ++ rest) p found = scanFrom 0 rest (p.after cs) found := by
  induction cs generalizing p with
  | nil => rfl
  | cons c cs ih =>
    rw [List.length_cons, List.cons_append, scanFrom, ih, Position.after_cons]

theorem scanFrom_of_fits (fits : x.Fits rest) (p : Position) (found : List Token) :
    scanFrom 0 (x.spelling ++ rest) p found =
      scanFrom 0 rest (p.after x.spelling) (x.lexeme.tokens p ++ found) := by
  obtain ⟨c, cs, spelling, ahead⟩ := fits
  rw [spelling, List.cons_append, scanFrom, ahead, spelling]
  exact scanFrom_append_of_length cs rest (p.next c) _

theorem tokens_reverse (l : Lexeme) (p : Position) : (l.tokens p).reverse = l.tokens p := by
  cases l <;> rfl

/-- Pieces of any sort that fit are scanned as their tokens, if each of them is. -/
theorem scanFrom_of_each {α : Type} [Spelled α Token] {xs : List α}
    (each : ∀ (x : α) (rest : List Char), Spelled.Fits x rest → ∀ p found,
      scanFrom 0 (Spelled.spelling x ++ rest) p found =
        scanFrom 0 rest (p.after (Spelled.spelling x)) ((Spelled.tokens x p).reverse ++ found))
    (fitting : Fitting xs rest) (p : Position) (found : List Token) :
    scanFrom 0 (spell xs ++ rest) p found =
      scanFrom 0 rest (p.after (spell xs)) ((placed p xs).reverse ++ found) := by
  induction xs generalizing p found with
  | nil => rfl
  | cons x xs ih =>
    obtain ⟨fits, later⟩ := fitting
    rw [spell_cons, List.append_assoc, each x _ fits, ih later, placed, List.reverse_append,
      Position.after_append, List.append_assoc]

theorem scanFrom_of_fitting (fitting : Fitting xs rest) (p : Position) (found : List Token) :
    scanFrom 0 (spell xs ++ rest) p found =
      scanFrom 0 rest (p.after (spell xs)) ((placed p xs).reverse ++ found) := by
  refine scanFrom_of_each (fun x rest fits p found => ?_) fitting p found
  change _ = scanFrom 0 rest _ ((x.lexeme.tokens p).reverse ++ found)
  rw [tokens_reverse]
  exact scanFrom_of_fits fits p found

/-- Pieces that fit are scanned as their tokens. -/
theorem scan_of_fitting (fitting : Fitting xs []) :
    scan (String.ofList (spell xs)) =
      .ok ⟨placed .start xs, Position.start.after (spell xs)⟩ := by
  have whole := scanFrom_of_fitting fitting .start []
  rw [List.append_nil, List.append_nil] at whole
  rw [scan, String.toList_ofList, whole, scanFrom, List.reverse_reverse]

/-! ## Classes of characters -/

/-- The characters that may stand behind a value, a key or a number. -/
def Apart (rest : List Char) : Prop := ∀ c, rest.head? = some c → c ∈ [',', ']', '\x7d', ':']

theorem apart_nil : Apart [] := nofun

theorem apart_cons (known : c ∈ [',', ']', '\x7d', ':']) : Apart (c :: rest) := by
  intro d first
  cases first
  exact known

theorem startsName_bounds (starts : startsName c = true) : 65 ≤ c.toNat ∧ c.toNat ≤ 122 := by
  rw [startsName, Bool.or_eq_true, decide_eq_true_eq] at starts
  rcases starts with letter | rfl
  · change (c.isUpper || c.isLower) = true at letter
    have bounds : (65 ≤ c.toNat ∧ c.toNat ≤ 90) ∨ (97 ≤ c.toNat ∧ c.toNat ≤ 122) := by
      rcases Bool.or_eq_true_iff.1 letter with upper | lower
      · exact .inl (of_decide_eq_true upper)
      · obtain ⟨least, greatest⟩ := Bool.and_eq_true_iff.1 lower
        exact .inr ⟨of_decide_eq_true least, of_decide_eq_true greatest⟩
    omega
  · decide

theorem isBlank_of_bounds (h : 33 ≤ c.toNat ∧ c.toNat ≤ 126) : isBlank c = false := by
  simp [isBlank, Ranges.contains, blankRanges]
  omega

theorem isDecimal_of_not_digit (h : 58 ≤ c.toNat ∧ c.toNat ≤ 126) : isDecimal c = false := by
  rw [isDecimal, digitValue?, decimalZeros, digitValueFrom, if_neg (by omega), if_neg (by omega),
    digitValueFrom, if_pos (by omega)]
  rfl

/-! ## Numbers -/

theorem digitsAhead_of_digits (digits : AllDigits cs)
    (ends : ∀ d, rest.head? = some d → isDecimal d = false) : digitsAhead (cs ++ rest) = cs := by
  have decimal : ∀ d ∈ cs, isDecimal d = true := fun d there => isDecimal_of_bounds (digits d there)
  rw [digitsAhead, List.takeWhile_append_of_pos decimal]
  cases rest with
  | nil => rw [List.takeWhile_nil, List.append_nil]
  | cons d rest =>
    rw [List.takeWhile_cons_of_neg (by simp [ends d rfl]), List.append_nil]

theorem magnitudeAhead_of_digits (digits : AllDigits cs) (nonempty : cs ≠ [])
    (apart : Apart rest) : magnitudeAhead (cs ++ rest) = cs := by
  have known : ∀ d, rest.head? = some d → isDecimal d = false ∧ d ≠ '.' ∧ d ≠ 'e' ∧ d ≠ 'E' := by
    intro d first
    have behind := apart d first
    simp only [List.mem_cons, List.not_mem_nil, or_false] at behind
    rcases behind with rfl | rfl | rfl | rfl <;> decide
  have whole := digitsAhead_of_digits digits fun d first => (known d first).1
  have noFraction : fractionAhead rest = [] := by
    cases rest with
    | nil => rfl
    | cons d rest =>
      rw [fractionAhead]
      intro ds split
      exact (known d rfl).2.1 (List.head_eq_of_cons_eq split)
  have noExponent : exponentAhead rest = [] := by
    cases rest with
    | nil => rfl
    | cons d rest =>
      obtain ⟨-, -, small, big⟩ := known d rfl
      rw [exponentAhead.eq_def]
      exact if_neg (by simp [small, big])
  simp [magnitudeAhead, whole, nonempty, noFraction, noExponent]

theorem numberAhead_of_digits (digits : AllDigits cs) (nonempty : cs ≠ []) (apart : Apart rest) :
    numberAhead (cs ++ rest) = cs := by
  obtain ⟨c, ds, rfl⟩ := List.exists_cons_of_ne_nil nonempty
  rw [List.cons_append, numberAhead, ← List.cons_append]
  · exact magnitudeAhead_of_digits digits nonempty apart
  · intro _ split
    exact (ne_of_bounds digits.head).1 (List.head_eq_of_cons_eq split)

theorem numberAhead_of_minus (digits : AllDigits cs) (nonempty : cs ≠ []) (apart : Apart rest) :
    numberAhead ('-' :: cs ++ rest) = '-' :: cs := by
  rw [List.cons_append, numberAhead, magnitudeAhead_of_digits digits nonempty apart]
  simp [nonempty]

theorem numberAhead_of_plain (notMinus : c ≠ '-') (notDigit : isDecimal c = false)
    (cs : List Char) : numberAhead (c :: cs) = [] := by
  have nothing : digitsAhead (c :: cs) = [] := List.takeWhile_cons_of_neg (by simp [notDigit])
  rw [numberAhead, magnitudeAhead, nothing]
  · rfl
  · intro _ split
    exact notMinus (List.head_eq_of_cons_eq split)

/-! ## Strings -/

/-- The characters for which a string has no rule of its own. -/
theorem plain_of_stringBody (notQuote : c = '"' → False) (notLine : c = '\n' → False)
    (notEscape : ∀ d ds, c = '\\' → cs = d :: ds → False) (notLast : c = '\\' → cs = [] → False) :
    c ∉ ['"', '\\', '\n'] := by
  have notBackslash : c ≠ '\\' := by
    intro backslash
    cases cs with
    | nil => exact notLast backslash rfl
    | cons d ds => exact notEscape d ds backslash rfl
  simpa using ⟨notQuote, notBackslash, notLine⟩

/-- A character that stands for itself is read as such. -/
theorem stringBody_cons (plain : c ∉ ['"', '\\', '\n']) (cs : List Char) :
    stringBody (c :: cs) = (stringBody cs).map (Prod.map (c :: ·) (· + 1)) := by
  obtain ⟨notQuote, notBackslash, notLine⟩ : c ≠ '"' ∧ c ≠ '\\' ∧ c ≠ '\n' := by simpa using plain
  rw [stringBody]
  · rfl
  · exact notQuote
  · exact notLine
  · exact fun _ backslash => (notBackslash backslash).elim
  · exact fun _ _ backslash => (notBackslash backslash).elim
  · exact fun backslash => (notBackslash backslash).elim

/-- A backslash and the character behind it are read as one. -/
theorem stringBody_backslash (other : c ≠ '\n') (cs : List Char) :
    stringBody ('\\' :: c :: cs) = (stringBody cs).map (Prod.map (escaped c :: ·) (· + 2)) := by
  rw [stringBody]
  · rfl
  · exact other

/-- A string that was put in quotes is read as itself. -/
theorem stringBody_escape (cs rest : List Char) :
    stringBody (cs.flatMap escape ++ '"' :: rest) =
      some (cs, (cs.flatMap escape).length + 1) := by
  induction cs with
  | nil => rfl
  | cons c cs ih =>
    rw [List.flatMap_cons, List.append_assoc, escape]
    split
    · next backslash =>
      subst backslash
      simp [stringBody, ih, escaped]
    · split
      · next quote =>
        subst quote
        simp [stringBody, ih, escaped]
      · split
        · next line =>
          subst line
          simp [stringBody, ih, escaped]
        · simp [stringBody, *]

theorem stringAhead?_quote (s : String) (rest : List Char) :
    stringAhead? (quote s ++ rest) = some (s, (quote s).length) := by
  rw [quote, List.cons_append, List.append_assoc, List.singleton_append, stringAhead?,
    stringBody_escape]
  simp

/-! ## Pieces that fit -/

namespace Piece

theorem fits_space (rest : List Char) : space.Fits rest := ⟨' ', [], rfl, rfl⟩

/-- What is left of the choices for a character that starts neither a number nor a word. -/
theorem lexeme_of_plain (plain : isBlank c = false ∧ isDecimal c = false ∧ startsName c = false)
    (notMinus : c ≠ '-') (notQuote : c ≠ '"') (cs : List Char) :
    Stylesheet.lexeme c cs = match if c = ':' then atomAhead? cs else none with
      | some (s, n) => some (.token .atom s, n + 1)
      | none => signAhead? c := by
  obtain ⟨notBlank, notDigit, notName⟩ := plain
  have noNumber : ¬(!(numberAhead (c :: cs)).isEmpty) = true := by
    rw [numberAhead_of_plain notMinus notDigit]
    exact Bool.false_ne_true
  have noWord : ¬startsName c = true := by rw [notName]; exact Bool.false_ne_true
  have noBlank : ¬isBlank c = true := by rw [notBlank]; exact Bool.false_ne_true
  exact (if_neg noBlank).trans
    ((if_neg noNumber).trans ((if_neg notQuote).trans (if_neg noWord)))

theorem lexeme_of_colon (cs : List Char) :
    Stylesheet.lexeme ':' cs = match atomAhead? cs with
      | some (s, n) => some (.token .atom s, n + 1)
      | none => signAhead? ':' :=
  lexeme_of_plain (by decide) (by decide) (by decide) cs

theorem lexeme_of_quote (cs : List Char) :
    Stylesheet.lexeme '"' cs =
      (stringAhead? ('"' :: cs)).map fun (s, n) => (.token .string s, n) := by
  rw [Stylesheet.lexeme, numberAhead_of_plain (by decide) (by decide), if_neg (by decide),
    if_neg (by simp), if_pos rfl]

theorem lexeme_of_startsName (starts : startsName c = true) (cs : List Char) :
    Stylesheet.lexeme c cs = some (verbatim .name (c :: cs.takeWhile continuesName)) := by
  have bounds := startsName_bounds starts
  have notMinus : c ≠ '-' := by rintro rfl; exact absurd bounds.1 (by decide)
  have notQuote : c ≠ '"' := by rintro rfl; exact absurd bounds.1 (by decide)
  rw [Stylesheet.lexeme,
    numberAhead_of_plain notMinus (isDecimal_of_not_digit (by omega)),
    if_neg (by simp [isBlank_of_bounds (show 33 ≤ c.toNat ∧ c.toNat ≤ 126 by omega)]),
    if_neg (by simp), if_neg notQuote, if_pos starts]

theorem lexeme_of_sign (plain : isBlank c = false ∧ isDecimal c = false ∧ startsName c = false)
    (notMinus : c ≠ '-') (notQuote : c ≠ '"') (notColon : c ≠ ':') (cs : List Char) :
    Stylesheet.lexeme c cs = signAhead? c := by
  rw [lexeme_of_plain plain notMinus notQuote, if_neg notColon]

/-- A sign other than a colon fits everywhere. -/
theorem fits_sign {kind : TokenKind}
    (isSign : kind ∈ [.openBrace, .closeBrace, .openBracket, .closeBracket, .comma, .dot])
    (rest : List Char) : (sign kind).Fits rest := by
  simp only [List.mem_cons, List.not_mem_nil, or_false] at isSign
  rcases isSign with rfl | rfl | rfl | rfl | rfl | rfl <;>
    exact ⟨_, [], rfl, lexeme_of_sign (by decide) (by decide) (by decide) (by decide) _⟩

/-- A colon fits in front of a space. -/
theorem fits_colon (rest : List Char) : (sign .colon).Fits (' ' :: rest) :=
  ⟨':', [], rfl, lexeme_of_plain (by decide) (by decide) (by decide) _⟩

theorem fits_quoted (s : String) (rest : List Char) : (quoted s).Fits rest := by
  have string := stringAhead?_quote s rest
  rw [quote, List.cons_append] at string
  refine ⟨'"', s.toList.flatMap escape ++ ['"'], rfl, ?_⟩
  rw [lexeme_of_quote, string]
  rfl

theorem fits_atom (name : String) (rest : List Char) : (atom name).Fits rest := by
  have string := stringAhead?_quote name rest
  rw [quote, List.cons_append] at string
  refine ⟨':', quote name, rfl, ?_⟩
  rw [lexeme_of_colon, quote, List.cons_append, atomAhead?, if_neg (by decide), string]
  rfl

/-- A name of letters, digits and underscores, which may also have question marks and exclamation
marks behind its first character. -/
def IsName (name : String) : Prop :=
  ∃ c cs, name.toList = c :: cs ∧ startsName c = true ∧ ∀ d ∈ cs, continuesName d = true

theorem isName_of_chars {name : String} {c : Char} {cs : List Char}
    (characters : name.toList = c :: cs) (starts : startsName c = true)
    (later : cs.all continuesName = true) : IsName name :=
  ⟨c, cs, characters, starts, List.all_eq_true.1 later⟩

/-- A name fits in front of what may stand behind it. -/
theorem fits_word {name : String} (isName : IsName name) (apart : Apart rest) :
    (word name).Fits rest := by
  obtain ⟨c, cs, characters, starts, continues⟩ := isName
  have ends : ∀ d, rest.head? = some d → continuesName d = false := by
    intro d first
    have behind := apart d first
    simp only [List.mem_cons, List.not_mem_nil, or_false] at behind
    rcases behind with rfl | rfl | rfl | rfl <;> decide
  have taken : (cs ++ rest).takeWhile continuesName = cs := by
    rw [List.takeWhile_append_of_pos continues]
    cases rest with
    | nil => rw [List.takeWhile_nil, List.append_nil]
    | cons d rest => rw [List.takeWhile_cons_of_neg (by simp [ends d rfl]), List.append_nil]
  refine ⟨c, cs, characters, ?_⟩
  rw [lexeme_of_startsName starts, taken, lexeme, spelling, characters, verbatim, ← characters,
    String.ofList_toList]

/-- A number fits in front of what may stand behind it. -/
theorem fits_number (n : Int) (apart : Apart rest) : (number n).Fits rest := by
  have digits := allDigits_toDigits n.natAbs
  have nonempty : Nat.toDigits 10 n.natAbs ≠ [] := Nat.toDigits_ne_nil
  have ahead : numberAhead ((toString n).toList ++ rest) = (toString n).toList := by
    rw [toList_toString]
    split
    · exact numberAhead_of_digits digits nonempty apart
    · exact numberAhead_of_minus digits nonempty apart
  have first : ∃ c cs, (toString n).toList = c :: cs ∧ 33 ≤ c.toNat ∧ c.toNat ≤ 126 := by
    rw [toList_toString]
    split
    · obtain ⟨c, cs, split⟩ := List.exists_cons_of_ne_nil nonempty
      have bounds := (split ▸ digits).head
      exact ⟨c, cs, split, by omega⟩
    · exact ⟨'-', _, rfl, by decide⟩
  obtain ⟨c, cs, characters, bounds⟩ := first
  rw [characters, List.cons_append] at ahead
  refine ⟨c, cs, characters, ?_⟩
  rw [Stylesheet.lexeme, ahead, if_neg (by simp [isBlank_of_bounds bounds]), if_pos (by simp),
    verbatim, lexeme, spelling, ← characters, String.ofList_toList]

end Piece

end ViewModifiers.Stylesheet
