import ViewModifiers.Proofs.Interface.Spelling
import ViewModifiers.Proofs.Source.Pieces

/-!
# Interface text in pieces

An interface that is written out consists of blanks, and of tokens that know how they are spelled.
Pieces that all fit are scanned as the tokens they stand for (`scan_of_fitting`).
-/

namespace ViewModifiers.Interface

open Source Text

/-- A piece of a text. -/
inductive Piece
  | blank (c : Char)
  | token (kind : TokenKind) (value : String) (spelling : List Char)
  deriving DecidableEq, Repr

namespace Piece

/-- A word, which may be a keyword. -/
def word (name : String) : Piece := token (wordKind name) name name.toList

/-- A sign, which is spelled like its kind. -/
def sign (kind : TokenKind) : Piece := token kind kind.label kind.label.toList

/-- A space. -/
def space : Piece := blank ' '

/-- The end of a line. -/
def newline : Piece := blank '\n'

/-- A number. -/
def number (text : String) : Piece := token .number text text.toList

/-- A string in which nothing has to be escaped. -/
def string (text : String) : Piece := token .string text ('"' :: (text.toList ++ ['"']))

/-- The characters of a piece. -/
def spelling : Piece → List Char
  | blank c => [c]
  | token _ _ spelling => spelling

/-- What a piece is scanned as. -/
def lexeme : Piece → Lexeme
  | blank _ => .blank
  | token kind value _ => .token kind value

/-- The tokens of a piece that starts at a position. -/
def tokens : Piece → Position → List Token
  | blank _, _ => []
  | token kind value _, p => [⟨kind, value, p⟩]

/-- The scanner ends a piece where a text begins. -/
def Fits (x : Piece) (rest : List Char) : Prop :=
  ∃ c cs, x.spelling = c :: cs ∧
    Interface.lexeme false c (cs ++ rest) = .ok (x.lexeme, x.spelling.length)

end Piece

instance : Spelled Piece Token where
  spelling := Piece.spelling
  tokens := Piece.tokens
  Fits := Piece.Fits

variable {c : Char} {cs rest : List Char} {x : Piece} {xs : List Piece}

/-! ## Scanning pieces -/

/-- Characters that belong to the lexeme noted last are passed over. -/
theorem run_append_of_length (cs rest : List Char) (s : Scanner) :
    Scanner.run cs.length (cs ++ rest) s =
      Scanner.run 0 rest { s with position := s.position.after cs } := by
  induction cs generalizing s with
  | nil => rfl
  | cons c cs ih =>
    rw [List.length_cons, List.cons_append, Scanner.run, ih]
    rfl

/-- A lexeme is noted, and its characters are passed over. -/
theorem run_of_lexeme {s noted : Scanner} {l : Lexeme}
    (ahead : lexeme s.dropping c (cs ++ rest) = .ok (l, cs.length + 1))
    (note : s.note l = .ok noted) :
    Scanner.run 0 (c :: (cs ++ rest)) s =
      Scanner.run 0 rest { noted with position := noted.position.after (c :: cs) } := by
  rw [Scanner.run, ahead]
  simp only [Nat.add_sub_cancel, note]
  exact run_append_of_length cs rest _

/-- A piece that fits is noted, whatever blocks are open around it, unless one of them drops it. -/
theorem run_of_fits {frames : List Conditional} (kept : frames.head?.any (·.dropped) = false)
    (fits : x.Fits rest) (p : Position) (found : Array Token) :
    Scanner.run 0 (x.spelling ++ rest) ⟨p, frames, found⟩ =
      Scanner.run 0 rest ⟨p.after x.spelling, frames, found ++ (x.tokens p).toArray⟩ := by
  obtain ⟨c, cs, spelling, ahead⟩ := fits
  have noted : (⟨p, frames, found⟩ : Scanner).note x.lexeme =
      .ok ⟨p, frames, found ++ (x.tokens p).toArray⟩ := by
    cases x <;> simp [Piece.lexeme, Piece.tokens, Scanner.note]
  rw [spelling] at ahead ⊢
  rw [← kept] at ahead
  exact run_of_lexeme (s := ⟨p, frames, found⟩) ahead noted

theorem run_of_fitting {frames : List Conditional} (kept : frames.head?.any (·.dropped) = false)
    (fitting : Fitting xs rest) (p : Position) (found : Array Token) :
    Scanner.run 0 (spell xs ++ rest) ⟨p, frames, found⟩ =
      Scanner.run 0 rest ⟨p.after (spell xs), frames, found ++ (placed p xs).toArray⟩ := by
  induction xs generalizing p found with
  | nil => simp [spell, placed]
  | cons x xs ih =>
    obtain ⟨fits, later⟩ := fitting
    change Scanner.run 0 (x.spelling ++ spell xs ++ rest) _ = _
    rw [List.append_assoc, run_of_fits kept fits, ih later, spell_cons, Position.after_append,
      placed]
    simp only [Array.append_assoc, List.append_toArray]
    rfl

/-- Pieces that fit are scanned as their tokens. -/
theorem scan_of_fitting (fitting : Fitting xs []) :
    scan (String.ofList (spell xs)) =
      .ok ⟨placed .start xs, Position.start.after (spell xs)⟩ := by
  have kept : ([] : List Conditional).head?.any (·.dropped) = false := rfl
  have whole := run_of_fitting kept fitting .start #[]
  rw [List.append_nil] at whole
  rw [scan, String.toList_ofList, Scanner.initial, whole, Scanner.run, Scanner.finish]
  simp

/-! ## Words -/

/-- The characters that may stand behind a word. -/
def wordEnds : List Char := [' ', '\n', '.', ',', ':', '?', '!', '<', '>', '(', ')', '[', ']']

/-- A text that may stand behind a word. -/
def Apart (rest : List Char) : Prop := ∀ c, rest.head? = some c → c ∈ wordEnds

/-- A word as the scanner finds it: a name, or a name behind a `#` that is no directive. -/
def IsWord (name : String) : Prop :=
  ∃ c cs, name.toList = c :: cs ∧ (∀ d ∈ cs, isNameChar d = true) ∧
    ((isLetter c || c = '_' || c = '$') = true ∧ isDigit c = false ∨
      c = '#' ∧ directiveAhead? cs = none)

/-- A name is a word: one character that starts names, and others that are part of names. -/
theorem isWord_of_name {name : String} {c : Char} {cs : List Char}
    (characters : name.toList = c :: cs)
    (first : ((isLetter c || c = '_' || c = '$') && !isDigit c) = true)
    (later : cs.all isNameChar = true) : IsWord name := by
  rw [Bool.and_eq_true, Bool.not_eq_true'] at first
  exact ⟨c, cs, characters, List.all_eq_true.1 later, .inl first⟩

/-- A word that is no keyword. -/
def IsIdentifier (name : String) : Prop := IsWord name ∧ Keyword.ofSpelling? name = none

/-- A number as the scanner finds it. -/
def IsNumber (text : String) : Prop :=
  ∃ c cs, text.toList = c :: cs ∧ isDigit c = true ∧ numberChars (c :: cs) = c :: cs

/-- A string in which nothing has to be escaped. -/
def IsVerbatim (text : String) : Prop := ∀ c ∈ text.toList, c ∉ ['"', '\\', '\n']

theorem apart_nil : Apart [] := nofun

theorem apart_cons (known : c ∈ wordEnds) : Apart (c :: rest) := by
  intro d first
  cases first
  exact known

theorem wordEnds_apart : ∀ c ∈ wordEnds, isNameChar c = false ∧ c ≠ '=' ∧ c ≠ '"' ∧ c ≠ '#' := by
  have all : (wordEnds.all fun c => !isNameChar c && c != '=' && c != '"' && c != '#') = true := by
    decide
  simpa [and_assoc] using List.all_eq_true.1 all

/-- What may stand behind a word is no part of it. -/
theorem IsWord.not_mem {name : String} (isWord : IsWord name) (ends : c ∈ wordEnds) :
    c ∉ name.toList := by
  obtain ⟨d, cs, characters, names, first⟩ := isWord
  have noName : ∀ e, isNameChar e = true → c ≠ e := by
    rintro e isName rfl
    rw [(wordEnds_apart c ends).1] at isName
    cases isName
  rw [characters, List.mem_cons]
  rintro (rfl | there)
  · rcases first with ⟨starts, -⟩ | ⟨rfl, -⟩
    · exact noName c (isNameChar_of_starts starts) rfl
    · exact (wordEnds_apart _ ends).2.2.2 rfl
  · exact noName c (names c there) rfl

/-- What stands behind a word does not make it a directive. -/
theorem directiveAhead?_append (apart : Apart rest) :
    directiveAhead? (cs ++ rest) = directiveAhead? cs := by
  have letters : (cs ++ rest).takeWhile isLetter = cs.takeWhile isLetter := by
    induction cs with
    | nil =>
      cases rest with
      | nil => rfl
      | cons d rest =>
        have ends := (wordEnds_apart d (apart d rfl)).1
        have notLetter : isLetter d = false := by
          rcases letter : isLetter d with _ | _
          · rfl
          · simp [isNameChar, isAlphanumeric, letter] at ends
        exact List.takeWhile_cons_of_neg (by simp [notLetter])
    | cons c cs ih => rw [List.cons_append, List.takeWhile_cons, List.takeWhile_cons, ih]
  rw [directiveAhead?, directiveAhead?, letters]

/-- A keyword does not start with a `#`. -/
theorem ofSpelling?_of_sharp {name : String} (characters : name.toList = '#' :: cs) :
    Keyword.ofSpelling? name = none := by
  rcases known : Keyword.ofSpelling? name with _ | k
  · rfl
  · have spelling := Keyword.spelling_of_ofSpelling? known
    have first : k.spelling.toList.head? = some '#' := by rw [spelling, characters]; rfl
    exact absurd first (by cases k <;> decide)

namespace Piece

/-- A token fits where it is written. -/
theorem fits_of_isSpelled {kind : TokenKind} {value : String} {w : List Char}
    (spelled : IsSpelled kind value w rest) : (token kind value w).Fits rest := by
  obtain ⟨c, cs, same, bare, found⟩ := spelled.exists_tokenLexeme
  refine ⟨c, cs, same, ?_⟩
  rwa [bare.lexeme_eq, if_neg Bool.false_ne_true]

/-- A word fits in front of what may stand behind it. -/
theorem fits_word {name : String} (isWord : IsWord name) (apart : Apart rest) :
    (word name).Fits rest := by
  obtain ⟨c, cs, characters, names, first⟩ := isWord
  have ends : ∀ d ∈ rest.head?, isNameChar d = false :=
    fun d next => (wordEnds_apart d (apart d next)).1
  have value : String.ofList (c :: cs) = name := by rw [← characters, String.ofList_toList]
  rw [word, characters]
  rcases first with ⟨starts, noDigit⟩ | ⟨rfl, noDirective⟩
  · have run : IsRun isNameChar (c :: cs) rest :=
      ⟨List.forall_mem_cons.2 ⟨isNameChar_of_starts starts, names⟩, ends⟩
    have spelled := IsSpelled.word starts noDigit run
    rw [value] at spelled
    exact fits_of_isSpelled spelled
  · have next : (cs ++ rest).head? ≠ some '"' ∧ (cs ++ rest).head? ≠ some '#' := by
      cases cs with
      | nil =>
        refine ⟨fun h => ?_, fun h => ?_⟩
        · exact (wordEnds_apart _ (apart _ h)).2.2.1 rfl
        · exact (wordEnds_apart _ (apart _ h)).2.2.2 rfl
      | cons d cs =>
        have isName := names d List.mem_cons_self
        refine ⟨?_, ?_⟩ <;> rintro ⟨⟩ <;> exact absurd isName (by decide)
    have spelled := IsSpelled.sharpName ⟨names, ends⟩ (fun d starts => ?_) next
    · rw [value] at spelled
      rw [wordKind, ofSpelling?_of_sharp characters]
      exact fits_of_isSpelled spelled
    · have known := (startsDirective_iff.1 starts).2
      rw [directiveAhead?_append apart, noDirective] at known
      cases known

theorem fits_space (rest : List Char) : space.Fits rest := ⟨' ', [], rfl, rfl⟩

theorem fits_newline (rest : List Char) : newline.Fits rest := ⟨'\n', [], rfl, rfl⟩

theorem fits_of_isSign {kind : TokenKind} (isSign : IsSign kind rest) : (sign kind).Fits rest :=
  fits_of_isSpelled (.sign isSign)

/-- Most signs fit in front of everything. -/
theorem fits_sign {kind : TokenKind}
    (isSign : kind ∈ [.openParen, .closeParen, .openBracket, .closeBracket, .openBrace, .closeBrace,
      .lessThan, .greaterThan, .comma, .colon, .question, .atSign])
    (rest : List Char) : (sign kind).Fits rest := by
  simp only [List.mem_cons, List.not_mem_nil, or_false] at isSign
  rcases isSign with rfl | rfl | rfl | rfl | rfl | rfl | rfl | rfl | rfl | rfl | rfl | rfl <;>
    exact fits_of_isSign ⟨by decide, trivial⟩

theorem fits_arrow (rest : List Char) : (sign .arrow).Fits rest :=
  fits_of_isSign ⟨by decide, trivial⟩

theorem fits_ellipsis (rest : List Char) : (sign .ellipsis).Fits rest :=
  fits_of_isSign ⟨by decide, trivial⟩

/-- An exclamation mark fits in front of everything but an equality sign. -/
theorem fits_bang_of_ne (next : rest.head? ≠ some '=') : (sign .bang).Fits rest :=
  fits_of_isSign ⟨by decide, next⟩

theorem fits_bang (apart : Apart rest) : (sign .bang).Fits rest :=
  fits_bang_of_ne fun h => (wordEnds_apart _ (apart _ h)).2.1 rfl

/-- A dot fits in front of everything but two more. -/
theorem fits_dot_of_not_isPrefix (alone : ¬['.', '.'] <+: rest) : (sign .dot).Fits rest :=
  fits_of_isSign ⟨by decide, alone⟩

/-- A single dot fits in front of a word. -/
theorem fits_dot {name : String} (isWord : IsWord name) (rest : List Char) :
    (sign .dot).Fits (name.toList ++ rest) := by
  obtain ⟨c, cs, characters, -, first⟩ := isWord
  have notDot : c ≠ '.' := by
    rintro rfl
    rcases first with ⟨starts, -⟩ | ⟨sharp, -⟩
    · exact absurd starts (by decide)
    · cases sharp
  apply fits_dot_of_not_isPrefix
  rintro ⟨more, same⟩
  rw [characters] at same
  exact notDot (List.cons.inj same).1.symm

/-- A sign between the parts of a composition fits in front of a space. -/
theorem fits_ampersand (rest : List Char) : (sign .ampersand).Fits (' ' :: rest) :=
  fits_of_isSign ⟨by decide, by rintro _ ⟨⟩; rfl⟩

/-- An equality sign fits in front of what does not begin like another operator. -/
theorem fits_equals_of_ne (noEquals : rest.head? ≠ some '=') (noArrow : rest.head? ≠ some '>') :
    (sign .equals).Fits rest :=
  fits_of_isSign ⟨by decide, noEquals, noArrow⟩

theorem fits_equals (rest : List Char) : (sign .equals).Fits (' ' :: rest) :=
  fits_equals_of_ne nofun nofun

theorem fits_star (rest : List Char) : (sign .star).Fits (')' :: rest) :=
  fits_of_isSign ⟨by decide, by rintro _ ⟨⟩; rfl⟩

end Piece

/-! ## Numbers and strings -/

/-- A number with the text behind it. -/
theorem isNumberUpTo_of_apart (number : numberChars cs = cs) (apart : Apart rest)
    (noDot : rest.head? ≠ some '.') : IsNumberUpTo cs rest := by
  induction cs with
  | nil =>
    rintro c more rfl inNumber
    have ends := (wordEnds_apart c (apart c rfl)).1
    rw [isNameChar, Bool.or_eq_false_iff, Bool.or_eq_false_iff] at ends
    rcases inNumber with word | line | ⟨rfl, -⟩
    · rw [word] at ends
      cases ends.1.1
    · exact of_decide_eq_false ends.1.2 line
    · exact noDot rfl
  | cons c cs ih =>
    rw [numberChars_cons] at number
    split at number
    · next goesOn =>
      refine ⟨?_, ih (List.cons.inj number).2⟩
      rcases inNumber_iff.2 goesOn with word | line | ⟨rfl, d, next, digit⟩
      · exact .inl word
      · exact .inr (.inl line)
      · obtain ⟨ds, rfl⟩ := List.head?_eq_some_iff.1 next
        exact .inr (.inr ⟨rfl, d, rfl, digit⟩)
    · cases number

namespace Piece

theorem fits_number {text : String} (isNumber : IsNumber text) (apart : Apart rest)
    (noDot : rest.head? ≠ some '.') : (number text).Fits rest := by
  obtain ⟨c, cs, characters, digit, taken⟩ := isNumber
  have spelled := IsSpelled.number digit (isNumberUpTo_of_apart taken apart noDot)
  rw [← characters, String.ofList_toList] at spelled
  exact fits_of_isSpelled spelled

/-- A text in which nothing has to be escaped stands for itself. -/
theorem isBody_of_isVerbatim (verbatim : ∀ c ∈ cs, c ∉ ['"', '\\', '\n']) : IsBody 0 cs cs := by
  induction cs with
  | nil => exact .done
  | cons c cs ih =>
    obtain ⟨plain, later⟩ := List.forall_mem_cons.1 verbatim
    exact .plain c plain (ih later)

theorem fits_string {text : String} (isVerbatim : IsVerbatim text) (apart : Apart rest) :
    (string text).Fits rest := by
  have alone : ¬['"', '"'] <+: text.toList ++ '"' :: rest := by
    cases characters : text.toList with
    | nil =>
      rw [List.nil_append, pair_prefix_iff]
      rintro ⟨-, next⟩
      exact (wordEnds_apart _ (apart _ next)).2.2.1 rfl
    | cons c cs =>
      rw [List.cons_append, pair_prefix_iff]
      rintro ⟨rfl, -⟩
      exact isVerbatim '"' (characters ▸ List.mem_cons_self) List.mem_cons_self
  have spelled := IsSpelled.quoted (.line (isBody_of_isVerbatim isVerbatim) alone)
  rw [String.ofList_toList] at spelled
  exact fits_of_isSpelled spelled

end Piece

end ViewModifiers.Interface
