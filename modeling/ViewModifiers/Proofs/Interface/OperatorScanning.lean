import Mathlib.Data.List.Infix
import Mathlib.Data.List.TakeWhile
import ViewModifiers.Proofs.Interface.Reading

/-!
# Operators in pieces

The scanner may split an operator into several tokens: `<`, `>` and `?` always stand alone, some
signs have kinds of their own, and the other characters are taken in runs. An operator that does not
begin a comment anywhere is scanned in pieces that spell it, if a space stands behind it
(`exists_operatorPieces`).
-/

namespace ViewModifiers.Interface

open Source Text

variable {c : Char} {cs rest : List Char}

/-- The kinds of the signs that may be parts of an operator. -/
def operatorSigns : List TokenKind :=
  [.arrow, .ellipsis, .dot, .bang, .equals, .lessThan, .greaterThan, .question, .ampersand, .star]

/-- A run of operator characters. -/
def Piece.run (cs : List Char) : Piece := .token .symbol (String.ofList cs) cs

/-- A part of an operator. -/
inductive OperatorPiece : Piece → Prop
  | sign {kind : TokenKind} (known : kind ∈ operatorSigns) : OperatorPiece (.sign kind)
  | run {cs : List Char} (each : ∀ d ∈ cs, isRunChar d = true) (some : cs ≠ []) :
    OperatorPiece (.run cs)

theorem OperatorPiece.spelling_length_pos {x : Piece} (part : OperatorPiece x) :
    0 < x.spelling.length := by
  cases part with
  | sign known =>
    have filled : ∀ k ∈ operatorSigns, 0 < k.label.toList.length := by decide
    exact filled _ known
  | run _ some => exact List.length_pos_of_ne_nil some

/-- An operator character that begins no comment begins a token. -/
theorem lexeme_operator (operator : isOperatorChar c = true)
    (noComment : c = '/' → cs.head? ≠ some '/' ∧ cs.head? ≠ some '*') :
    lexeme false c cs = tokenLexeme c cs := by
  obtain ⟨noSeparator, -, -, noSharp, -⟩ := isOperatorChar_apart operator
  have noLine : (decide (c = '/') && decide (cs.head? = some '/')) = false := by
    simpa using fun slash => (noComment slash).1
  have noBlock : (decide (c = '/') && decide (cs.head? = some '*')) = false := by
    simpa using fun slash => (noComment slash).2
  rw [lexeme, noSeparator, noLine, noBlock, if_neg noSharp]
  rfl

/-- A run ends where the operator does. -/
theorem takeWhile_isRunChar_append (cs rest : List Char) :
    (cs ++ ' ' :: rest).takeWhile isRunChar = cs.takeWhile isRunChar := by
  induction cs with
  | nil => rfl
  | cons c cs ih => rw [List.cons_append, List.takeWhile_cons, List.takeWhile_cons, ih]

/-- What stands behind an operator character begins like the rest of the operator. -/
theorem head?_append_space {d : Char} (noSpace : d ≠ ' ') (cs rest : List Char) :
    (cs ++ ' ' :: rest).head? = some d ↔ cs.head? = some d := by
  cases cs with
  | nil => simp [noSpace.symm]
  | cons c cs => rfl

theorem any_head?_append_space (cs rest : List Char) :
    (cs ++ ' ' :: rest).head?.any isOperatorChar = cs.head?.any isOperatorChar := by
  cases cs <;> rfl

/-- A run of an operator fits where it ends. -/
theorem fits_run (operator : isOperatorChar c = true)
    (noComment : c = '/' → cs.head? ≠ some '/' ∧ cs.head? ≠ some '*')
    (alone : c ∉ ['<', '>', '?', '.']) (noArrow : c = '-' → cs.head? ≠ some '>')
    (noBang : c = '!' → cs.head? = some '=')
    (noEquals : c = '=' → cs.head? = some '=' ∨ cs.head? = some '>')
    (goesOn : c = '&' ∨ c = '*' → cs.head?.any isOperatorChar = true) (rest : List Char) :
    (Piece.run (c :: cs.takeWhile isRunChar)).Fits (cs.dropWhile isRunChar ++ ' ' :: rest) := by
  have isRun : isRunChar c = true := by
    simp only [List.mem_cons, List.not_mem_nil, or_false, not_or] at alone
    simp [isRunChar, operator, alone]
  have ahead : lexeme false c (cs ++ ' ' :: rest) =
      verbatim .symbol (c :: cs.takeWhile isRunChar) := by
    rw [lexeme_operator operator, tokenLexeme_run operator alone,
      List.takeWhile_cons_of_pos isRun, takeWhile_isRunChar_append]
    · simpa only [ne_eq, head?_append_space (by decide : '>' ≠ ' ')] using noArrow
    · simpa only [head?_append_space (by decide : '=' ≠ ' ')] using noBang
    · simpa only [head?_append_space (by decide : '=' ≠ ' '),
        head?_append_space (by decide : '>' ≠ ' ')] using noEquals
    · rwa [any_head?_append_space]
    · simpa only [ne_eq, head?_append_space (by decide : '/' ≠ ' '),
        head?_append_space (by decide : '*' ≠ ' ')] using noComment
  refine ⟨c, cs.takeWhile isRunChar, rfl, ?_⟩
  rw [← List.append_assoc, List.takeWhile_append_dropWhile, ahead]
  rfl

/-- An operator begins with a part that the scanner finds, whatever stands behind the operator and a
space. -/
def BeginsWithPart (cs : List Char) : Prop :=
  ∃ x later, x.spelling ++ later = cs ∧ OperatorPiece x ∧
    ∀ rest : List Char, x.Fits (later ++ ' ' :: rest)

/-- Some signs stand alone, whatever stands behind them. -/
theorem beginsWithPart_of_alone (alone : c ∈ ['<', '>', '?']) (cs : List Char) :
    BeginsWithPart (c :: cs) := by
  simp only [List.mem_cons, List.not_mem_nil, or_false] at alone
  rcases alone with rfl | rfl | rfl
  · exact ⟨.sign .lessThan, cs, rfl, .sign (by decide), fun _ => Piece.fits_sign (by decide) _⟩
  · exact ⟨.sign .greaterThan, cs, rfl, .sign (by decide), fun _ => Piece.fits_sign (by decide) _⟩
  · exact ⟨.sign .question, cs, rfl, .sign (by decide), fun _ => Piece.fits_sign (by decide) _⟩

/-- Three dots are one sign. -/
theorem beginsWithPart_dot (cs : List Char) : BeginsWithPart ('.' :: cs) := by
  by_cases dots : ['.', '.'] <+: cs
  · obtain ⟨later, rfl⟩ := dots
    exact ⟨.sign .ellipsis, later, rfl, .sign (by decide), fun _ => Piece.fits_ellipsis _⟩
  · refine ⟨.sign .dot, cs, rfl, .sign (by decide), fun rest => ?_⟩
    apply Piece.fits_dot_of_not_isPrefix
    match cs, dots with
    | [], _ => rintro ⟨_, ⟨⟩⟩
    | [_], _ => rintro ⟨_, ⟨⟩⟩
    | _ :: _ :: _, dots => rintro ⟨_, ⟨⟩⟩; exact dots ⟨_, rfl⟩

/-- A character that is not a sign of its own begins a run. -/
theorem beginsWithPart_run (operator : ∀ d ∈ c :: cs, isOperatorChar d = true)
    (noComment : c = '/' → cs.head? ≠ some '/' ∧ cs.head? ≠ some '*')
    (alone : c ∉ ['<', '>', '?', '.']) (noArrow : c = '-' → cs.head? ≠ some '>')
    (noBang : c = '!' → cs.head? = some '=')
    (noEquals : c = '=' → cs.head? = some '=' ∨ cs.head? = some '>')
    (goesOn : c = '&' ∨ c = '*' → cs ≠ []) : BeginsWithPart (c :: cs) := by
  have first := operator c List.mem_cons_self
  have isRun : isRunChar c = true := by
    simp only [List.mem_cons, List.not_mem_nil, or_false, not_or] at alone
    simp [isRunChar, first, alone]
  have next (joins : c = '&' ∨ c = '*') : cs.head?.any isOperatorChar = true := by
    cases cs with
    | nil => exact absurd rfl (goesOn joins)
    | cons d cs => exact operator d (List.mem_cons_of_mem c List.mem_cons_self)
  refine ⟨.run (c :: cs.takeWhile isRunChar), cs.dropWhile isRunChar,
    congrArg (c :: ·) List.takeWhile_append_dropWhile, .run ?_ (List.cons_ne_nil _ _),
    fits_run first noComment alone noArrow noBang noEquals next⟩
  exact List.forall_mem_cons.2 ⟨isRun, fun d there => List.mem_takeWhile_imp there⟩

/-- A slash in front of another slash or a star begins a comment. -/
theorem head?_of_slash (noLine : ¬['/', '/'] <+: c :: cs) (noBlock : ¬['/', '*'] <+: c :: cs)
    (slash : c = '/') : cs.head? ≠ some '/' ∧ cs.head? ≠ some '*' := by
  subst slash
  constructor
  · intro next
    obtain ⟨cs, rfl⟩ := List.head?_eq_some_iff.1 next
    exact noLine ⟨cs, rfl⟩
  · intro next
    obtain ⟨cs, rfl⟩ := List.head?_eq_some_iff.1 next
    exact noBlock ⟨cs, rfl⟩

/-- An operator in which no comment begins begins with a part, by the branches of the scanner. -/
theorem beginsWithPart (operator : ∀ d ∈ c :: cs, isOperatorChar d = true)
    (noLine : ¬['/', '/'] <+: c :: cs) (noBlock : ¬['/', '*'] <+: c :: cs) :
    BeginsWithPart (c :: cs) := by
  by_cases alone : c ∈ ['<', '>', '?']
  · exact beginsWithPart_of_alone alone cs
  by_cases dot : c = '.'
  · subst dot
    exact beginsWithPart_dot cs
  by_cases arrow : c = '-' ∧ cs.head? = some '>'
  · obtain ⟨rfl, next⟩ := arrow
    obtain ⟨later, rfl⟩ := List.head?_eq_some_iff.1 next
    exact ⟨.sign .arrow, later, rfl, .sign (by decide), fun _ => Piece.fits_arrow _⟩
  by_cases bang : c = '!' ∧ cs.head? ≠ some '='
  · obtain ⟨rfl, next⟩ := bang
    refine ⟨.sign .bang, cs, rfl, .sign (by decide), fun rest => Piece.fits_bang_of_ne ?_⟩
    rwa [ne_eq, head?_append_space (by decide)]
  by_cases equals : c = '=' ∧ cs.head? ≠ some '=' ∧ cs.head? ≠ some '>'
  · obtain ⟨rfl, noEquals, noArrow⟩ := equals
    refine ⟨.sign .equals, cs, rfl, .sign (by decide), fun rest => ?_⟩
    apply Piece.fits_equals_of_ne
    · rwa [ne_eq, head?_append_space (by decide)]
    · rwa [ne_eq, head?_append_space (by decide)]
  by_cases last : (c = '&' ∨ c = '*') ∧ cs = []
  · obtain ⟨rfl | rfl, rfl⟩ := last
    · exact ⟨.sign .ampersand, [], rfl, .sign (by decide), fun _ => Piece.fits_ampersand _⟩
    · exact ⟨.sign .star, [], rfl, .sign (by decide), fun _ => ⟨'*', [], rfl, rfl⟩⟩
  -- All other characters are taken in a run.
  have others : c ∉ ['<', '>', '?', '.'] := by
    simp only [List.mem_cons, List.not_mem_nil, or_false, not_or] at alone ⊢
    exact ⟨alone.1, alone.2.1, alone.2.2, dot⟩
  apply beginsWithPart_run operator (head?_of_slash noLine noBlock) others
  · exact fun same next => arrow ⟨same, next⟩
  · exact fun same => not_not.1 fun next => bang ⟨same, next⟩
  · intro same
    by_contra neither
    rw [not_or] at neither
    exact equals ⟨same, neither⟩
  · exact fun joins none => last ⟨joins, none⟩

/-- An operator in which no comment begins is scanned in parts that spell it, if a space stands
behind it. -/
theorem exists_operatorPieces (operator : ∀ d ∈ cs, isOperatorChar d = true)
    (noLine : ¬['/', '/'] <:+: cs) (noBlock : ¬['/', '*'] <:+: cs) :
    ∃ xs : List Piece, spell xs = cs ∧ (∀ x ∈ xs, OperatorPiece x) ∧
      ∀ rest, Fitting xs (' ' :: rest) := by
  induction count : cs.length using Nat.strongRecOn generalizing cs with
  | ind n ih =>
    cases cs with
    | nil => exact ⟨[], rfl, nofun, fun _ => trivial⟩
    | cons c cs =>
      obtain ⟨x, later, whole, part, fits⟩ := beginsWithPart operator
        (fun begins => noLine begins.isInfix) (fun begins => noBlock begins.isInfix)
      have behind : later <:+ c :: cs := ⟨x.spelling, whole⟩
      have fewer : later.length < n := by
        have filled := part.spelling_length_pos
        have total := congrArg List.length whole
        rw [List.length_append] at total
        omega
      obtain ⟨xs, spelled, parts, fitting⟩ := ih later.length fewer
        (fun d there => operator d (behind.subset there))
        (fun inside => noLine (inside.trans behind.isInfix))
        (fun inside => noBlock (inside.trans behind.isInfix)) rfl
      refine ⟨x :: xs, ?_, List.forall_mem_cons.2 ⟨part, parts⟩, fun rest => ⟨?_, fitting rest⟩⟩
      · rw [spell_cons, spelled]
        exact whole
      · rw [spelled]
        exact fits rest

end ViewModifiers.Interface
