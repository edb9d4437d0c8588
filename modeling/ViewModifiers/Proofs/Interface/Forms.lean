import Mathlib.Data.List.Infix
import Mathlib.Data.List.TakeWhile
import ViewModifiers.Interface.Scanner
import ViewModifiers.Proofs.Text.Digit

/-!
# How lexemes are written

A text starts with a tile: a separator, a comment, a directive, a token, or what is passed over in a
dropped branch. How a tile is written, and which texts may stand behind it, is said here without the
scanner (`Tile.Fits`). Each part of the scanner reads one of these forms: comments, the rest of a
string, raw strings, escaped names and numbers, in front of any text.
-/

namespace ViewModifiers.Interface

open Text

/-! ## Forms -/

/-- Characters of a class, and the first one behind them is in it no more. -/
def IsRun (p : Char → Bool) (w rest : List Char) : Prop :=
  (∀ c ∈ w, p c = true) ∧ ∀ c ∈ rest.head?, p c = false

/-- Behind a text a pattern stands for the first time. -/
def EndsFirst (pattern w : List Char) : Prop :=
  ∀ v, v <:+ w → v ≠ [] → ¬pattern <+: v ++ pattern

/-- What closes a number of open comments. -/
inductive ClosesComment : Nat → List Char → Prop
  | done : ClosesComment 0 []
  | opening {n : Nat} {w : List Char} (later : ClosesComment (n + 2) w) :
    ClosesComment (n + 1) ('/' :: '*' :: w)
  | closing {n : Nat} {w : List Char} (later : ClosesComment n w) :
    ClosesComment (n + 1) ('*' :: '/' :: w)
  | other {n : Nat} {w : List Char} (c : Char) (later : ClosesComment (n + 1) w)
    (noOpening : ¬['/', '*'] <+: c :: w) (noClosing : ¬['*', '/'] <+: c :: w) :
    ClosesComment (n + 1) (c :: w)

/-- The character that a character behind a backslash stands for. -/
def escaped (c : Char) : Char := if c = 'n' then '\n' else if c = 't' then '\t' else c

/-- How the rest of a one-line string is written up to its quote, and what it stands for. The number
counts the open parentheses of an interpolation, which stands for itself. -/
inductive IsBody : Nat → List Char → List Char → Prop
  | done : IsBody 0 [] []
  | plain {w v : List Char} (c : Char) (isPlain : c ∉ ['"', '\\', '\n']) (later : IsBody 0 w v) :
    IsBody 0 (c :: w) (c :: v)
  | escape {w v : List Char} (c : Char) (noOpening : c ≠ '(') (later : IsBody 0 w v) :
    IsBody 0 ('\\' :: c :: w) (escaped c :: v)
  | interpolation {w v : List Char} (later : IsBody 1 w v) :
    IsBody 0 ('\\' :: '(' :: w) ('\\' :: '(' :: v)
  | opening {n : Nat} {w v : List Char} (later : IsBody (n + 2) w v) :
    IsBody (n + 1) ('(' :: w) ('(' :: v)
  | closing {n : Nat} {w v : List Char} (later : IsBody n w v) :
    IsBody (n + 1) (')' :: w) (')' :: v)
  | inside {n : Nat} {w v : List Char} (c : Char) (isPlain : c ∉ ['(', ')', '\n'])
    (later : IsBody (n + 1) w v) : IsBody (n + 1) (c :: w) (c :: v)

/-- How a string is written that starts with a double quote, in front of a text. -/
inductive IsQuoted : String → List Char → List Char → Prop
  | line {w v rest : List Char} (body : IsBody 0 w v) (alone : ¬['"', '"'] <+: w ++ '"' :: rest) :
    IsQuoted (String.ofList v) ('"' :: (w ++ ['"'])) rest
  | lines {w rest : List Char} (first : EndsFirst ['"', '"', '"'] w) :
    IsQuoted (multilineText w) (['"', '"', '"'] ++ (w ++ ['"', '"', '"'])) rest

/-- How a raw string is written. Behind more marks than one, any character opens it. -/
inductive IsRaw : String → List Char → Prop
  | intro {marks w : List Char} {opening : Char} (marked : ∀ c ∈ marks, c = '#')
    (filled : marks ≠ []) (noMark : opening ≠ '#') (quoted : marks.length = 1 → opening = '"')
    (first : EndsFirst ('"' :: marks) w) :
    IsRaw (String.ofList w) (marks ++ opening :: (w ++ '"' :: marks))

/-- A text starts with a directive: its name ends where the letters do. -/
def StartsDirective (d : Directive) (cs : List Char) : Prop :=
  ∃ name behind, '#' :: (name ++ behind) = cs ∧ IsRun isLetter name behind ∧
    Directive.ofName? (String.ofList name) = some d

/-- A text starts with neither of the marks of a comment. -/
def NoComment (cs : List Char) : Prop := ¬['/', '/'] <+: cs ∧ ¬['/', '*'] <+: cs

/-- A text starts with no separator, no comment and no directive. -/
structure StartsBare (c : Char) (rest : List Char) : Prop where
  noBlank : isSeparator c = false
  noComment : NoComment (c :: rest)
  noDirective : ∀ d, ¬StartsDirective d (c :: rest)

/-- A character goes on a number; a dot does so only in front of a digit. -/
def InNumber (c : Char) (rest : List Char) : Prop :=
  isAlphanumeric c = true ∨ c = '_' ∨ c = '.' ∧ ∃ d ∈ rest.head?, isDigit d = true

/-- Characters that go on a number, up to the first one that does not. -/
def IsNumberUpTo : List Char → List Char → Prop
  | c :: w, rest => InNumber c (w ++ rest) ∧ IsNumberUpTo w rest
  | [], rest => ∀ c more, rest = c :: more → ¬InNumber c more

/-- The kinds that are spelled like their labels, apart from words. -/
def signs : List TokenKind :=
  [.atSign, .openBrace, .closeBrace, .openParen, .closeParen, .openBracket, .closeBracket,
    .lessThan, .greaterThan, .comma, .colon, .semicolon, .dot, .ellipsis, .question, .bang,
    .equals, .arrow, .ampersand, .star]

/-- A sign is one in front of a text, and not the start of another operator. -/
def IsSign (kind : TokenKind) (rest : List Char) : Prop :=
  kind ∈ signs ∧ match kind with
    | .dot => ¬['.', '.'] <+: rest
    | .bang => rest.head? ≠ some '='
    | .equals => rest.head? ≠ some '=' ∧ rest.head? ≠ some '>'
    | .ampersand | .star => ∀ c ∈ rest.head?, isOperatorChar c = false
    | _ => True

/-- No sign stands at the front of a text. -/
def NoSign (cs : List Char) : Prop :=
  ∀ kind rest, kind.label.toList ++ rest = cs → ¬IsSign kind rest

/-- How a token of a kind and a value is written in front of a text. -/
inductive IsSpelled : TokenKind → String → List Char → List Char → Prop
  | word {c : Char} {w rest : List Char} (starts : (isLetter c || c = '_' || c = '$') = true)
    (noDigit : isDigit c = false) (run : IsRun isNameChar (c :: w) rest) :
    IsSpelled (wordKind (String.ofList (c :: w))) (String.ofList (c :: w)) (c :: w) rest
  | sharpName {w rest : List Char} (run : IsRun isNameChar w rest)
    (noDirective : ∀ d, ¬StartsDirective d ('#' :: (w ++ rest)))
    (noString : (w ++ rest).head? ≠ some '"' ∧ (w ++ rest).head? ≠ some '#') :
    IsSpelled .identifier (String.ofList ('#' :: w)) ('#' :: w) rest
  | escapedName {w rest : List Char} (plain : ∀ c ∈ w, c ≠ '\x60' ∧ c ≠ '\n') :
    IsSpelled .identifier (String.ofList w) ('\x60' :: (w ++ ['\x60'])) rest
  | number {c : Char} {w rest : List Char} (digit : isDigit c = true)
    (number : IsNumberUpTo (c :: w) rest) :
    IsSpelled .number (String.ofList (c :: w)) (c :: w) rest
  | quoted {s : String} {w rest : List Char} (string : IsQuoted s w rest) :
    IsSpelled .string s w rest
  | raw {s : String} {w rest : List Char} (string : IsRaw s w) : IsSpelled .string s w rest
  | sign {kind : TokenKind} {rest : List Char} (isSign : IsSign kind rest) :
    IsSpelled kind kind.label kind.label.toList rest
  | operator {c : Char} {w rest : List Char} (run : IsRun isRunChar (c :: w) rest)
    (noSign : NoSign (c :: w ++ rest)) (noComment : NoComment (c :: w ++ rest)) :
    IsSpelled .symbol (String.ofList (c :: w)) (c :: w) rest
  | mark {c : Char} {rest : List Char} (isMark : c = '\'' ∨ c = '\\') :
    IsSpelled .symbol (String.ofList [c]) [c] rest

/-- A tile of a text, with its characters. -/
inductive Tile
  | blank (c : Char)
  | comment (written : List Char)
  | directive (d : Directive) (written : List Char)
  | passed (written : List Char)
  | token (kind : TokenKind) (value : String) (written : List Char)

namespace Tile

/-- The characters of a tile. -/
def spelling : Tile → List Char
  | blank c => [c]
  | comment written | directive _ written | passed written | token _ _ written => written

/-- What a tile is scanned as. -/
def lexeme : Tile → Lexeme
  | blank _ | comment _ | passed _ => .blank
  | directive d _ => .directive d
  | token kind value _ => .token kind value

end Tile

/-- A tile stands in front of a text, in a branch that is dropped or not. -/
inductive Tile.Fits (dropping : Bool) : Tile → List Char → Prop
  | blank {c : Char} {rest : List Char} (separates : isSeparator c = true) :
    Tile.Fits dropping (.blank c) rest
  | lineComment {w rest : List Char} (opens : ['/', '/'] <+: w ++ rest)
    (line : IsRun (· ≠ '\n') w rest) : Tile.Fits dropping (.comment w) rest
  | blockComment {w rest : List Char} (closes : ClosesComment 1 w) :
    Tile.Fits dropping (.comment ('/' :: '*' :: w)) rest
  | directive {d : Directive} {w rest : List Char} (starts : StartsDirective d (w ++ rest))
    (line : IsRun (· ≠ '\n') w rest) : Tile.Fits dropping (.directive d w) rest
  | passedString {s : String} {w rest : List Char} (dropped : dropping = true)
    (string : IsQuoted s w rest) : Tile.Fits dropping (.passed w) rest
  | passedChar {c : Char} {rest : List Char} (dropped : dropping = true) (noQuote : c ≠ '"')
    (bare : StartsBare c rest) : Tile.Fits dropping (.passed [c]) rest
  | token {kind : TokenKind} {value : String} {w rest : List Char} (kept : dropping = false)
    (spelled : IsSpelled kind value w rest) : Tile.Fits dropping (.token kind value w) rest

variable {c : Char} {cs ds rest w v pattern : List Char} {n m depth size : Nat} {s : String}
  {p : Char → Bool} {kind : TokenKind} {value : String} {dropping : Bool} {d : Directive}

/-! ## Runs and patterns -/

theorem IsRun.takeWhile_eq (run : IsRun p w rest) : (w ++ rest).takeWhile p = w := by
  obtain ⟨within, ends⟩ := run
  have nothing : rest.takeWhile p = [] := by
    cases rest with
    | nil => rfl
    | cons c rest => exact List.takeWhile_cons_of_neg (by simp [ends c rfl])
  rw [List.takeWhile_append_of_pos within, nothing, List.append_nil]

theorem isRun_takeWhile (p : Char → Bool) (cs : List Char) :
    IsRun p (cs.takeWhile p) (cs.dropWhile p) := by
  refine ⟨fun c there => List.mem_takeWhile_imp there, fun c first => ?_⟩
  have stops := List.head?_dropWhile_not p cs
  rw [Option.mem_def.1 first] at stops
  simpa using stops

/-- A run takes the first character of a text, if it is in its class. -/
theorem IsRun.exists_cons (run : IsRun p w rest) (split : w ++ rest = c :: cs)
    (first : p c = true) : ∃ ds, w = c :: ds := by
  cases w with
  | nil =>
    obtain rfl : rest = c :: cs := split
    have ends : p c = false := run.2 c rfl
    rw [first] at ends
    cases ends
  | cons d ds =>
    obtain ⟨rfl, -⟩ := List.cons.inj split
    exact ⟨ds, rfl⟩

theorem distanceTo_eq_some_iff (some : pattern ≠ []) : distanceTo pattern cs = .some n ↔
    ∃ w rest, w ++ (pattern ++ rest) = cs ∧ EndsFirst pattern w ∧ w.length = n := by
  induction cs generalizing n with
  | nil =>
    rw [distanceTo, if_neg (by simpa using some)]
    refine ⟨nofun, ?_⟩
    rintro ⟨w, rest, none, -, -⟩
    exact absurd (List.append_eq_nil_iff.1 (List.append_eq_nil_iff.1 none).2).1 some
  | cons c cs ih =>
    rw [distanceTo]
    by_cases here : pattern <+: c :: cs
    · rw [if_pos (List.isPrefixOf_iff_prefix.2 here)]
      constructor
      · rintro ⟨⟩
        obtain ⟨rest, whole⟩ := here
        exact ⟨[], rest, whole, fun v front filled => absurd (List.suffix_nil.1 front) filled, rfl⟩
      · rintro ⟨w, rest, whole, first, rfl⟩
        cases w with
        | nil => rfl
        | cons d w =>
          rw [← whole, ← List.append_assoc] at here
          have early := List.prefix_of_prefix_length_le here (List.prefix_append _ rest)
            (List.suffix_append (d :: w) pattern).length_le
          exact (first _ List.suffix_rfl (List.cons_ne_nil d w) early).elim
    · rw [if_neg (by simpa [List.isPrefixOf_iff_prefix] using here), Option.map_eq_some_iff]
      constructor
      · rintro ⟨m, later, rfl⟩
        obtain ⟨w, rest, rfl, first, rfl⟩ := ih.1 later
        refine ⟨c :: w, rest, rfl, fun v front filled early => ?_, rfl⟩
        rcases List.suffix_cons_iff.1 front with rfl | front
        · refine here (early.trans ⟨rest, ?_⟩)
          rw [List.append_assoc, List.cons_append]
        · exact first v front filled early
      · rintro ⟨w, rest, whole, first, rfl⟩
        cases w with
        | nil => exact absurd ⟨rest, whole⟩ here
        | cons d w =>
          obtain ⟨rfl, rfl⟩ := List.cons.inj whole
          refine ⟨w.length, ih.2 ⟨w, rest, rfl, fun v front => ?_, rfl⟩, rfl⟩
          exact first v (front.trans (List.suffix_cons d w))

/-! ## Comments -/

theorem ClosesComment.length_pos (closes : ClosesComment (n + 1) w) : 0 < w.length := by
  cases closes <;> simp

theorem commentSize_opening (cs : List Char) :
    commentSize 0 0 ('/' :: '*' :: cs) = commentSize 1 2 cs := by rw [commentSize]

theorem commentSize_of_closes (closes : ClosesComment n w) (isOpen : n ≠ 0) (size : Nat)
    (rest : List Char) : commentSize n size (w ++ rest) = .ok ((), size + w.length) := by
  induction closes generalizing size with
  | done => exact absurd rfl isOpen
  | opening later ih =>
    rw [List.cons_append, List.cons_append, commentSize, ih (by omega)]
    simp only [List.length_cons]
    rw [Nat.add_assoc, Nat.add_comm 2]
  | @closing n w later ih =>
    rw [List.cons_append, List.cons_append, commentSize]
    cases n with
    | zero =>
      cases later
      rfl
    | succ n =>
      rw [if_neg (by omega), Nat.add_sub_cancel, ih (by omega)]
      simp only [List.length_cons]
      rw [Nat.add_assoc, Nat.add_comm 2]
  | @other n w c later noOpening noClosing ih =>
    obtain ⟨d, w, rfl⟩ := List.exists_cons_of_length_pos later.length_pos
    rw [List.cons_append, List.cons_append, commentSize]
    · rw [← List.cons_append, ih (by omega)]
      simp only [List.length_cons]
      rw [Nat.add_assoc, Nat.add_comm 1]
    · rintro _ rfl ⟨⟩
      exact noOpening ⟨w, rfl⟩
    · rintro _ rfl ⟨⟩
      exact noClosing ⟨w, rfl⟩

theorem exists_closes (read : commentSize n size cs = .ok ((), m)) (isOpen : n ≠ 0) :
    ∃ w rest, w ++ rest = cs ∧ ClosesComment n w ∧ m = size + w.length := by
  fun_induction commentSize n size cs with
  | case1 depth size cs ih =>
    obtain ⟨depth, rfl⟩ := Nat.exists_eq_succ_of_ne_zero isOpen
    obtain ⟨w, rest, rfl, closes, rfl⟩ := ih read (by omega)
    exact ⟨_, rest, rfl, .opening closes, by simp only [List.length_cons]; omega⟩
  | case2 depth size cs last =>
    obtain rfl : depth = 1 := by omega
    cases read
    exact ⟨['*', '/'], cs, rfl, .closing .done, rfl⟩
  | case3 depth size cs inner ih =>
    obtain ⟨depth, rfl⟩ := Nat.exists_eq_succ_of_ne_zero isOpen
    obtain ⟨w, rest, rfl, closes, rfl⟩ := ih read (by omega)
    exact ⟨_, rest, rfl, .closing closes, by simp only [List.length_cons]; omega⟩
  | case4 depth size c cs noOpening noClosing ih =>
    obtain ⟨depth, rfl⟩ := Nat.exists_eq_succ_of_ne_zero isOpen
    obtain ⟨w, rest, rfl, closes, rfl⟩ := ih read isOpen
    refine ⟨c :: w, rest, rfl, .other c closes ?_ ?_, by rw [List.length_cons]; omega⟩
    · rintro ⟨v, same⟩
      cases same
      exact noOpening _ rfl rfl
    · rintro ⟨v, same⟩
      cases same
      exact noClosing _ rfl rfl
  | case5 => cases read

/-! ## Strings -/

theorem stringLexeme_of_line (alone : ¬['"', '"'] <+: cs) :
    stringLexeme ('"' :: cs) = stringBody 0 [] 1 cs := by
  rw [stringLexeme]
  · rfl
  · rintro ds same
    exact alone ⟨ds, (List.cons.inj same).2.symm⟩

theorem stringBody_of_isBody (body : IsBody depth w v) (text : List Char) (size : Nat)
    (rest : List Char) : stringBody depth text size (w ++ '"' :: rest) =
      .ok (String.ofList (text.reverse ++ v), size + w.length + 1) := by
  induction body generalizing text size with
  | done => simp [stringBody]
  | plain c isPlain later ih =>
    simp only [List.mem_cons, List.not_mem_nil, or_false, not_or] at isPlain
    rw [List.cons_append, stringBody, ih]
    · simp
      omega
    all_goals simp [isPlain]
  | escape c noOpening later ih =>
    rw [List.cons_append, List.cons_append]
    by_cases newline : c = 'n'
    · subst newline
      rw [stringBody, ih]
      simp [escaped]
      omega
    by_cases tab : c = 't'
    · subst tab
      rw [stringBody, ih]
      simp [escaped]
      omega
    rw [stringBody, ih]
    · simp [escaped, newline, tab]
      omega
    all_goals assumption
  | interpolation later ih =>
    rw [List.cons_append, List.cons_append, stringBody, ih]
    simp
    omega
  | opening later ih =>
    rw [List.cons_append, stringBody, if_neg (by decide), if_pos rfl, ih]
    simp
    omega
  | closing later ih =>
    rw [List.cons_append, stringBody, if_neg (by decide), if_neg (by decide), if_pos rfl, ih]
    simp
    omega
  | inside c isPlain later ih =>
    simp only [List.mem_cons, List.not_mem_nil, or_false, not_or] at isPlain
    rw [List.cons_append, stringBody, if_neg isPlain.2.2, if_neg isPlain.1, if_neg isPlain.2.1, ih]
    simp
    omega

theorem exists_isBody {text : List Char} (read : stringBody depth text size cs = .ok (s, m)) :
    ∃ w v rest, w ++ '"' :: rest = cs ∧ IsBody depth w v ∧
      s = String.ofList (text.reverse ++ v) ∧ m = size + w.length + 1 := by
  fun_induction stringBody depth text size cs with
  | case1 text size cs =>
    cases read
    exact ⟨[], [], cs, rfl, .done, by simp, rfl⟩
  | case3 text size cs ih =>
    obtain ⟨w, v, rest, rfl, body, rfl, rfl⟩ := ih read
    exact ⟨_, _, rest, rfl, .escape 'n' (by decide) body, by simp [escaped], by simp; omega⟩
  | case4 text size cs ih =>
    obtain ⟨w, v, rest, rfl, body, rfl, rfl⟩ := ih read
    exact ⟨_, _, rest, rfl, .escape 't' (by decide) body, by simp [escaped], by simp; omega⟩
  | case5 text size cs ih =>
    obtain ⟨w, v, rest, rfl, body, rfl, rfl⟩ := ih read
    exact ⟨_, _, rest, rfl, .interpolation body, by simp, by simp; omega⟩
  | case6 text size c cs notN notT notOpen ih =>
    obtain ⟨w, v, rest, rfl, body, rfl, rfl⟩ := ih read
    refine ⟨_, _, rest, rfl, .escape c notOpen body, ?_, by simp; omega⟩
    rw [escaped, if_neg notN, if_neg notT]
    simp
  | case7 text size c cs notQuote notNewline notN notT notOpen notEscape ih =>
    obtain ⟨w, v, rest, rfl, body, rfl, rfl⟩ := ih read
    refine ⟨_, _, rest, rfl, .plain c ?_ body, by simp, by simp; omega⟩
    -- At least the closing quote stands behind the character.
    have notBackslash : c ≠ '\\' := by
      rintro rfl
      obtain ⟨d, ds, more⟩ := List.exists_cons_of_ne_nil (List.append_ne_nil_of_right_ne_nil w
        (List.cons_ne_nil '"' rest))
      exact notEscape d ds rfl more
    simp only [List.mem_cons, List.not_mem_nil, or_false, not_or]
    exact ⟨notQuote, notBackslash, notNewline⟩
  | case10 depth text size cs _ ih =>
    obtain ⟨w, v, rest, rfl, body, rfl, rfl⟩ := ih read
    exact ⟨_, _, rest, rfl, .opening body, by simp, by simp; omega⟩
  | case11 depth text size cs _ _ ih =>
    obtain ⟨w, v, rest, rfl, body, rfl, rfl⟩ := ih read
    exact ⟨_, _, rest, rfl, .closing body, by simp, by simp; omega⟩
  | case12 depth text size c cs notNewline notOpen notClose ih =>
    obtain ⟨w, v, rest, rfl, body, rfl, rfl⟩ := ih read
    refine ⟨_, _, rest, rfl, .inside c ?_ body, by simp, by simp; omega⟩
    simp [notNewline, notOpen, notClose]
  | case2 | case8 | case9 | case13 => cases read

theorem stringLexeme_of_isQuoted (quoted : IsQuoted s w rest) :
    stringLexeme (w ++ rest) = .ok (s, w.length) := by
  cases quoted with
  | line body alone =>
    rw [List.cons_append, List.append_assoc, List.singleton_append, stringLexeme_of_line alone,
      stringBody_of_isBody body]
    simp [Nat.add_comm]
  | @lines w _ first =>
    have found : distanceTo ['"', '"', '"'] (w ++ (['"', '"', '"'] ++ rest)) = some w.length :=
      (distanceTo_eq_some_iff (List.cons_ne_nil _ _)).2 ⟨w, rest, rfl, first, rfl⟩
    rw [List.append_assoc, List.append_assoc]
    simp only [List.cons_append, List.nil_append] at found ⊢
    rw [stringLexeme, found]
    simp

theorem exists_isQuoted (read : stringLexeme ('"' :: cs) = .ok (s, m)) :
    ∃ w rest, w ++ rest = '"' :: cs ∧ IsQuoted s w rest ∧ m = w.length := by
  by_cases alone : ['"', '"'] <+: cs
  · obtain ⟨ds, rfl⟩ := alone
    rw [List.cons_append, List.singleton_append, stringLexeme] at read
    split at read
    · cases read
    · next n found =>
      obtain ⟨w, rest, rfl, first, rfl⟩ := (distanceTo_eq_some_iff (List.cons_ne_nil _ _)).1 found
      rw [List.take_left] at read
      cases read
      exact ⟨_, rest, by simp, .lines first, by simp⟩
  · rw [stringLexeme_of_line alone] at read
    obtain ⟨w, v, rest, rfl, body, rfl, rfl⟩ := exists_isBody read
    exact ⟨_, rest, by simp, .line body alone, by simp [Nat.add_comm]⟩

theorem rawStringLexeme_of_isRaw (raw : IsRaw s w) (rest : List Char) :
    rawStringLexeme (w ++ rest) = .ok (s, w.length) := by
  obtain ⟨marked, filled, noMark, -, first⟩ := raw
  next marks w opening =>
  have run : IsRun (· = '#') marks (opening :: (w ++ '"' :: marks) ++ rest) :=
    ⟨fun c there => decide_eq_true (marked c there), by simpa using noMark⟩
  have found : distanceTo ('"' :: marks) (w ++ ('"' :: marks ++ rest)) = some w.length :=
    (distanceTo_eq_some_iff (List.cons_ne_nil _ _)).2 ⟨w, rest, rfl, first, rfl⟩
  have behind : (marks ++ (opening :: (w ++ '"' :: marks) ++ rest)).drop (marks.length + 1) =
      w ++ ('"' :: marks ++ rest) := by
    rw [← List.drop_drop, List.drop_left]
    simp
  rw [rawStringLexeme, List.append_assoc, run.takeWhile_eq, behind, found]
  simp
  omega

/-- A raw string starts with a mark, and a quote or another mark stands behind it. -/
theorem IsRaw.exists_cons (raw : IsRaw s w) (rest : List Char) : ∃ ds, w = '#' :: ds ∧
    ((ds ++ rest).head? = some '"' ∨ (ds ++ rest).head? = some '#') := by
  obtain ⟨marked, filled, -, quoted, -⟩ := raw
  next marks _ _ =>
  match marks, filled with
  | [mark], _ =>
    obtain rfl := marked mark List.mem_cons_self
    exact ⟨_, rfl, .inl (congrArg some (quoted rfl))⟩
  | mark :: next :: _, _ =>
    obtain ⟨rfl, later⟩ := List.forall_mem_cons.1 marked
    exact ⟨_, rfl, .inr (congrArg some (later next List.mem_cons_self))⟩

theorem exists_isRaw (starts : cs.head? = some '"' ∨ cs.head? = some '#')
    (read : rawStringLexeme ('#' :: cs) = .ok (s, m)) :
    ∃ w rest, w ++ rest = '#' :: cs ∧ IsRaw s w ∧ m = w.length := by
  have run := isRun_takeWhile (· = '#') cs
  have whole := List.takeWhile_append_dropWhile (p := (· = '#')) (l := cs)
  rw [rawStringLexeme, List.takeWhile_cons_of_pos (by decide)] at read
  generalize cs.takeWhile (· = '#') = marks at read run whole
  generalize cs.dropWhile (· = '#') = behind at run whole
  subst whole
  have ahead : ('#' :: (marks ++ behind)).drop (('#' :: marks).length + 1) = behind.tail := by
    rw [List.length_cons, List.drop_succ_cons, ← List.drop_drop, List.drop_left, List.drop_one]
  rw [ahead] at read
  split at read
  · cases read
  next n found =>
  obtain ⟨w, rest, body, first, rfl⟩ := (distanceTo_eq_some_iff (List.cons_ne_nil _ _)).1 found
  obtain ⟨opening, tail, rfl⟩ : ∃ opening tail, behind = opening :: tail := by
    refine List.exists_cons_of_ne_nil ?_
    rintro rfl
    simp at body
  rw [List.tail_cons] at body read
  subst body
  rw [List.take_left] at read
  cases read
  have noMark : opening ≠ '#' := by simpa using run.2
  refine ⟨'#' :: marks ++ opening :: (w ++ '"' :: '#' :: marks), rest, by simp,
    ⟨?_, List.cons_ne_nil _ _, noMark, fun one => ?_, first⟩, by simp; omega⟩
  · exact List.forall_mem_cons.2 ⟨rfl, fun c there => of_decide_eq_true (run.1 c there)⟩
  · obtain rfl : marks = [] := by simpa using one
    simpa [noMark] using starts

/-! ## Names and numbers -/

theorem escapedName_of_plain (plain : ∀ c ∈ w, c ≠ '\x60' ∧ c ≠ '\n') (rest : List Char) :
    escapedName ('\x60' :: (w ++ '\x60' :: rest)) =
      .ok (.token .identifier (String.ofList w), w.length + 2) := by
  have run : IsRun (fun c => c ≠ '\x60' && c ≠ '\n') w ('\x60' :: rest) :=
    ⟨fun c there => by simpa using plain c there, by simp⟩
  rw [escapedName, List.tail_cons, run.takeWhile_eq]
  simp

theorem exists_escapedName {l : Lexeme} (read : escapedName ('\x60' :: cs) = .ok (l, m)) :
    ∃ w rest, w ++ '\x60' :: rest = cs ∧ (∀ c ∈ w, c ≠ '\x60' ∧ c ≠ '\n') ∧
      l = .token .identifier (String.ofList w) ∧ m = w.length + 2 := by
  have run := isRun_takeWhile (fun c => c ≠ '\x60' && c ≠ '\n') cs
  have whole := List.takeWhile_append_dropWhile (p := fun c => c ≠ '\x60' && c ≠ '\n') (l := cs)
  rw [escapedName, List.tail_cons] at read
  generalize cs.takeWhile (fun c => c ≠ '\x60' && c ≠ '\n') = w at read run whole
  generalize cs.dropWhile (fun c => c ≠ '\x60' && c ≠ '\n') = behind at run whole
  subst whole
  split at read
  · next closed =>
    cases read
    rw [List.getElem?_cons_succ, List.getElem?_append_right (Nat.le_refl _), Nat.sub_self,
      ← List.head?_eq_getElem?] at closed
    obtain ⟨rest, rfl⟩ := List.head?_eq_some_iff.1 closed
    exact ⟨w, rest, rfl, fun c there => by simpa using run.1 c there, rfl, rfl⟩
  · cases read

theorem inNumber_iff : InNumber c cs ↔
    ((isAlphanumeric c || c = '_') || c = '.' && cs.head?.any isDigit) = true := by
  cases cs <;> simp [InNumber, or_assoc]

theorem numberChars_cons (c : Char) (cs : List Char) : numberChars (c :: cs) =
    if (isAlphanumeric c || c = '_') || c = '.' && cs.head?.any isDigit then c :: numberChars cs
    else [] := by
  rw [numberChars]
  cases isAlphanumeric c || decide (c = '_') <;> simp

theorem numberChars_of_isNumberUpTo (number : IsNumberUpTo w rest) :
    numberChars (w ++ rest) = w := by
  induction w with
  | nil =>
    cases rest with
    | nil => rfl
    | cons c rest =>
      rw [List.nil_append, numberChars_cons, if_neg (mt inNumber_iff.2 (number c rest rfl))]
  | cons c w ih =>
    rw [List.cons_append, numberChars_cons, if_pos (inNumber_iff.1 number.1), ih number.2]

theorem exists_isNumberUpTo (cs : List Char) :
    ∃ rest, numberChars cs ++ rest = cs ∧ IsNumberUpTo (numberChars cs) rest := by
  induction cs with
  | nil => exact ⟨[], rfl, nofun⟩
  | cons c cs ih =>
    rw [numberChars_cons]
    split
    · next goesOn =>
      obtain ⟨rest, whole, number⟩ := ih
      refine ⟨rest, congrArg (c :: ·) whole, ?_, number⟩
      rw [whole]
      exact inNumber_iff.2 goesOn
    · next ends =>
      refine ⟨c :: cs, rfl, ?_⟩
      rintro _ _ ⟨⟩
      exact mt inNumber_iff.1 ends

/-! ## Directives and marks of comments -/

theorem startsDirective_iff :
    StartsDirective d (c :: cs) ↔ c = '#' ∧ directiveAhead? cs = some d := by
  constructor
  · rintro ⟨name, behind, same, run, known⟩
    obtain ⟨rfl, rfl⟩ := List.cons.inj same
    rw [directiveAhead?, run.takeWhile_eq]
    exact ⟨rfl, known⟩
  · rintro ⟨rfl, known⟩
    exact ⟨_, _, congrArg _ List.takeWhile_append_dropWhile, isRun_takeWhile isLetter cs, known⟩

theorem lineSize_of_isRun (line : IsRun (· ≠ '\n') w rest) : lineSize (w ++ rest) = w.length := by
  rw [lineSize, line.takeWhile_eq]

theorem pair_prefix_iff (d e : Char) : [d, e] <+: c :: cs ↔ c = d ∧ cs.head? = some e := by
  rw [List.cons_prefix_cons, eq_comm]
  cases cs with
  | nil => simp
  | cons f cs => simp [List.cons_prefix_cons, eq_comm]

theorem noComment_iff : NoComment (c :: cs) ↔
    (c = '/' && cs.head? = some '/') = false ∧ (c = '/' && cs.head? = some '*') = false := by
  rw [NoComment, pair_prefix_iff, pair_prefix_iff]
  simp only [Bool.and_eq_false_imp, decide_eq_true_eq, decide_eq_false_iff_not, not_and]

/-- Behind what starts no separator, comment or directive it matters whether a branch is dropped. -/
theorem StartsBare.lexeme_eq (bare : StartsBare c cs) (dropping : Bool) :
    lexeme dropping c cs =
      if dropping then
        if c = '"' then (stringLexeme (c :: cs)).map fun (_, n) => (.blank, n)
        else .ok (.blank, 1)
      else tokenLexeme c cs := by
  obtain ⟨noBlank, noComment, noDirective⟩ := bare
  obtain ⟨noLine, noBlock⟩ := noComment_iff.1 noComment
  have nothing : (if c = '#' then directiveAhead? cs else none) = none := by
    split
    · next sharp =>
      rw [Option.eq_none_iff_forall_ne_some]
      exact fun d known => noDirective d (startsDirective_iff.2 ⟨sharp, known⟩)
    · rfl
  rw [lexeme, if_neg (by simp [noBlank]), noLine, if_neg Bool.false_ne_true, noBlock,
    if_neg Bool.false_ne_true, nothing]

theorem startsBare_of_not_mem (other : c ∉ [' ', '\t', '\r', '\n', '/', '#']) (rest : List Char) :
    StartsBare c rest := by
  simp only [List.mem_cons, List.not_mem_nil, or_false, not_or] at other
  refine ⟨by simp [isSeparator, other], noComment_iff.2 (by simp [other]), fun d starts => ?_⟩
  exact other.2.2.2.2.2 (startsDirective_iff.1 starts).1

end ViewModifiers.Interface
