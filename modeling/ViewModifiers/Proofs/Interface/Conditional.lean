import Mathlib.Data.List.TakeWhile
import ViewModifiers.Proofs.Interface.Piece
import ViewModifiers.Proofs.Text.Digit

/-!
# Conditional compilation

The lines of an interface form an outline: plain lines, and blocks between `#if` and `#endif` whose
branches are outlines again. What the scanner makes of an outline is what it makes of the lines that
are in the first branch of every block around them, with all other lines emptied (`scan_outline`).

A plain line is read in the same way whatever blocks are open around it, as long as none of them
drops it: its tokens end on the line, since no token but a string or a comment goes on behind one.
-/

namespace ViewModifiers.Interface

open Source Text

/-! ## Outlines -/

/-- A line in which no directive, string, escaped name or comment begins. -/
structure PlainLine where
  text : List Char
  plain : ∀ c ∈ text, c ∉ ['\n', '#', '"', '\x60', '/']

/-- What stands around the name of a directive on its line: blanks in front of it, and behind it any
text that does not go on the name. -/
structure DirectiveLine where
  indent : List Char
  behind : List Char
  blank : ∀ c ∈ indent, c ∈ [' ', '\t', '\r']
  apart : ∀ c ∈ behind.head?, isLetter c = false
  oneLine : '\n' ∉ behind

/-- The line of the directive with a name. -/
def DirectiveLine.text (l : DirectiveLine) (name : String) : List Char :=
  l.indent ++ '#' :: (name.toList ++ l.behind)

mutual

/-- Lines of an interface. -/
inductive Outline
  | empty
  | line (line : PlainLine) (rest : Outline)
  | block (opening : DirectiveLine) (first : Outline) (others : Branches) (closing : DirectiveLine)
      (rest : Outline)

/-- The branches of a block behind its first one: any number of `#elseif`, and at most one `#else`
behind them. -/
inductive Branches
  | none
  | otherwise (line : DirectiveLine) (body : Outline)
  | alternative (line : DirectiveLine) (body : Outline) (rest : Branches)

end

/-- A text with all of its lines emptied. -/
def emptied (cs : List Char) : List Char := cs.filter (· = '\n')

mutual

/-- The text of an outline. -/
def Outline.text : Outline → List Char
  | .empty => []
  | .line l rest => l.text ++ '\n' :: rest.text
  | .block opening first others closing rest =>
    opening.text "if" ++ '\n' ::
      (first.text ++ (others.text ++ (closing.text "endif" ++ '\n' :: rest.text)))

/-- The text of branches with their directives. -/
def Branches.text : Branches → List Char
  | .none => []
  | .otherwise l body => l.text "else" ++ '\n' :: body.text
  | .alternative l body rest => l.text "elseif" ++ '\n' :: (body.text ++ rest.text)

end

/-- The text of an outline in which the directives are emptied, and so is each line that is outside
the first branch of a block around it. -/
def Outline.keptText : Outline → List Char
  | .empty => []
  | .line l rest => l.text ++ '\n' :: rest.keptText
  | .block _ first others _ rest =>
    '\n' :: (first.keptText ++ (emptied others.text ++ '\n' :: rest.keptText))

variable {c : Char} {cs ds rest : List Char}

theorem DirectiveLine.not_mem_text (l : DirectiveLine) {name : String}
    (oneLine : '\n' ∉ name.toList) : '\n' ∉ l.text name := by
  simp only [DirectiveLine.text, List.mem_append, List.mem_cons, not_or]
  exact ⟨fun there => absurd (l.blank _ there) (by decide), by decide, oneLine, l.oneLine⟩

/-! ## Places behind lines -/

theorem after_line (p : Position) (oneLine : '\n' ∉ cs) (ds : List Char) :
    p.after (cs ++ '\n' :: ds) = Position.after ⟨p.line + 1, 1⟩ ds := by
  rw [Position.after_append, Position.after_of_not_mem p oneLine, Position.after_cons,
    Position.next, if_pos rfl]

theorem line_after (p : Position) (cs : List Char) :
    (p.after cs).line = p.line + cs.count '\n' := by
  induction cs generalizing p with
  | nil => rfl
  | cons c cs ih =>
    rw [Position.after_cons, ih, Position.next, List.count_cons]
    by_cases ends : c = '\n'
    · simp [ends, Nat.add_assoc, Nat.add_comm 1]
    · simp [ends]

/-- A text of whole lines. -/
def EndsLines (cs : List Char) : Prop := ∀ c ∈ cs.getLast?, c = '\n'

theorem EndsLines.append (first : EndsLines cs) (second : EndsLines ds) : EndsLines (cs ++ ds) := by
  intro c last
  rw [List.getLast?_append] at last
  cases ends : ds.getLast? with
  | none => exact first c (by simpa [ends] using last)
  | some d => exact second c (by simpa [ends] using last)

theorem EndsLines.line (ends : EndsLines ds) (cs : List Char) : EndsLines (cs ++ '\n' :: ds) := by
  intro c last
  rw [List.getLast?_append, List.getLast?_cons] at last
  cases known : ds.getLast? with
  | none => simpa [known] using last.symm
  | some d => exact ends c (by simpa [known] using last)

/-- Behind whole lines a line starts. -/
theorem EndsLines.after_eq (ends : EndsLines cs) (some : cs ≠ []) (p : Position) :
    p.after cs = ⟨p.line + cs.count '\n', 1⟩ := by
  have split := List.dropLast_concat_getLast some
  have last : cs.getLast some = '\n' := ends _ (List.getLast?_eq_some_getLast some)
  have column : (p.after cs).column = 1 := by
    rw [← split, last, Position.after_append, Position.after_cons, Position.next, if_pos rfl]
    rfl
  rw [← line_after, ← column]

/-- Emptying whole lines does not change where the text behind them starts. -/
theorem EndsLines.after_emptied (ends : EndsLines cs) (p : Position) :
    p.after (emptied cs) = p.after cs := by
  by_cases none : cs = []
  · rw [none]
    rfl
  · have there : '\n' ∈ emptied cs := by
      have last : cs.getLast none = '\n' := ends _ (List.getLast?_eq_some_getLast none)
      exact List.mem_filter.2 ⟨last ▸ List.getLast_mem none, by simp⟩
    have lines : EndsLines (emptied cs) := fun c last =>
      by simpa using (List.mem_filter.1 (List.mem_of_getLast? last)).2
    have count : (emptied cs).count '\n' = cs.count '\n' := List.count_filter (by simp)
    rw [ends.after_eq none, lines.after_eq (List.ne_nil_of_mem there), count]

mutual

theorem Outline.endsLines : ∀ o : Outline, EndsLines o.text
  | .empty => nofun
  | .line l rest => rest.endsLines.line l.text
  | .block _ first others _ rest =>
    .line (first.endsLines.append (others.endsLines.append (rest.endsLines.line _))) _

theorem Branches.endsLines : ∀ b : Branches, EndsLines b.text
  | .none => nofun
  | .otherwise _ body => body.endsLines.line _
  | .alternative _ body rest => .line (body.endsLines.append rest.endsLines) _

end

/-! ## The scanner on lines -/

variable {p : Position} {frames outer : List Conditional} {frame : Conditional}
  {found : Array Token}

theorem lexeme_of_isSeparator (separates : isSeparator c = true) (dropping : Bool)
    (cs : List Char) : lexeme dropping c cs = .ok (.blank, 1) := by
  rw [lexeme, if_pos separates]

/-- Characters that are blank where they stand are passed over. -/
theorem run_of_blank (rest : List Char) (blank : ∀ c ∈ cs, ∀ ahead,
      lexeme (Scanner.dropping ⟨p, frames, found⟩) c ahead = .ok (.blank, 1)) :
    Scanner.run 0 (cs ++ rest) ⟨p, frames, found⟩ =
      Scanner.run 0 rest ⟨p.after cs, frames, found⟩ := by
  induction cs generalizing p with
  | nil => rfl
  | cons c cs ih =>
    have noted : Scanner.note ⟨p, frames, found⟩ .blank = .ok ⟨p, frames, found⟩ := rfl
    have first := run_of_lexeme (blank c List.mem_cons_self ([] ++ (cs ++ rest))) noted
    exact first.trans (ih fun d there ahead => blank d (List.mem_cons_of_mem c there) ahead)

theorem run_separators (cs rest : List Char) (separators : ∀ c ∈ cs, isSeparator c = true) :
    Scanner.run 0 (cs ++ rest) ⟨p, frames, found⟩ =
      Scanner.run 0 rest ⟨p.after cs, frames, found⟩ :=
  run_of_blank rest fun c there ahead => lexeme_of_isSeparator (separators c there) _ ahead

/-- Line ends are blank everywhere. -/
theorem run_newline (rest : List Char) :
    Scanner.run 0 ('\n' :: rest) ⟨p, frames, found⟩ =
      Scanner.run 0 rest ⟨p.after ['\n'], frames, found⟩ :=
  run_separators ['\n'] rest (List.all_eq_true.1 (by decide))

theorem run_emptied (cs rest : List Char) :
    Scanner.run 0 (emptied cs ++ rest) ⟨p, frames, found⟩ =
      Scanner.run 0 rest ⟨p.after (emptied cs), frames, found⟩ := by
  refine run_separators _ rest fun c there => ?_
  have newline : c = '\n' := by simpa using (List.mem_filter.1 there).2
  rw [newline]
  rfl

/-- In a dropped branch a plain line is passed over. -/
theorem run_dropped_line (l : PlainLine) (rest : List Char)
    (dropped : frames.head?.any (·.dropped) = true) :
    Scanner.run 0 (l.text ++ '\n' :: rest) ⟨p, frames, found⟩ =
      Scanner.run 0 rest ⟨p.after (l.text ++ ['\n']), frames, found⟩ := by
  have blank : ∀ c ∈ l.text, ∀ ahead,
      lexeme (Scanner.dropping ⟨p, frames, found⟩) c ahead = .ok (.blank, 1) := by
    intro c there ahead
    have plain := l.plain c there
    simp only [List.mem_cons, List.not_mem_nil, or_false, not_or] at plain
    simp [lexeme, Scanner.dropping, dropped, plain]
  rw [run_of_blank _ blank, run_newline, Position.after_append]

/-- The name of a directive is found in front of what stands behind it on its line. -/
theorem DirectiveLine.directiveAhead?_eq (l : DirectiveLine) {name : String}
    (letters : ∀ c ∈ name.toList, isLetter c = true) (rest : List Char) :
    directiveAhead? (name.toList ++ (l.behind ++ '\n' :: rest)) = Directive.ofName? name := by
  have none : (l.behind ++ '\n' :: rest).takeWhile isLetter = [] := by
    cases shape : l.behind with
    | nil => exact List.takeWhile_cons_of_neg (by decide)
    | cons c cs =>
      have ends := l.apart c (by rw [shape]; rfl)
      exact List.takeWhile_cons_of_neg (by simp [ends])
  rw [directiveAhead?, List.takeWhile_append_of_pos letters, none, List.append_nil,
    String.ofList_toList]

theorem lineSize_line (oneLine : '\n' ∉ cs) (rest : List Char) :
    lineSize (cs ++ '\n' :: rest) = cs.length := by
  have within : ∀ c ∈ cs, (decide (c ≠ '\n')) = true := by
    intro c there
    exact decide_eq_true fun newline => oneLine (newline ▸ there)
  rw [lineSize, List.takeWhile_append_of_pos within, List.takeWhile_cons_of_neg (by simp),
    List.append_nil]

/-- A directive is noted, and the line on which it stands is passed over. -/
theorem run_directive (l : DirectiveLine) (name : String) {d : Directive}
    {noted : List Conditional} (known : Directive.ofName? name = some d)
    (letters : ∀ c ∈ name.toList, isLetter c = true) (rest : List Char)
    (note : Scanner.note ⟨p.after l.indent, frames, found⟩ (.directive d) =
      .ok ⟨p.after l.indent, noted, found⟩) :
    Scanner.run 0 (l.text name ++ '\n' :: rest) ⟨p, frames, found⟩ =
      Scanner.run 0 rest ⟨p.after (l.text name ++ ['\n']), noted, found⟩ := by
  have indent : ∀ c ∈ l.indent, isSeparator c = true := fun c there =>
    List.contains_iff_mem.2 (List.mem_append_left ['\n'] (l.blank c there))
  have oneLine : '\n' ∉ '#' :: (name.toList ++ l.behind) := by
    simp only [List.mem_cons, List.mem_append, not_or]
    exact ⟨by decide, fun inName => absurd (letters _ inName) (by decide), l.oneLine⟩
  have ahead : lexeme (Scanner.dropping ⟨p.after l.indent, frames, found⟩) '#'
      (name.toList ++ l.behind ++ '\n' :: rest) =
      .ok (.directive d, (name.toList ++ l.behind).length + 1) := by
    have directive := (l.directiveAhead?_eq letters rest).trans known
    rw [← List.append_assoc] at directive
    rw [lexeme, if_neg (by decide), if_neg (by simp), if_neg (by simp), if_pos rfl, directive]
    exact congrArg (fun n => Except.ok (Lexeme.directive d, n)) (lineSize_line oneLine rest)
  have line : l.text name ++ '\n' :: rest =
      l.indent ++ '#' :: (name.toList ++ l.behind ++ '\n' :: rest) := by
    simp [DirectiveLine.text]
  rw [line, run_separators _ _ indent, run_of_lexeme ahead note, run_newline, DirectiveLine.text,
    Position.after_append, Position.after_append]

/-! ## Dropped branches -/

/-- The first branch of a block is dropped just where the block is. -/
theorem run_if (l : DirectiveLine) (p : Position) (frames : List Conditional)
    (found : Array Token) : ∃ frame, frame.dropped = frames.head?.any (·.dropped) ∧
      ∀ rest, Scanner.run 0 (l.text "if" ++ '\n' :: rest) ⟨p, frames, found⟩ =
        Scanner.run 0 rest ⟨p.after (l.text "if" ++ ['\n']), frame :: frames, found⟩ :=
  ⟨⟨p.after l.indent, frames.head?.any (·.dropped)⟩, rfl, fun rest =>
    run_directive l "if" rfl (List.all_eq_true.1 (by decide)) rest rfl⟩

/-- Behind the first branch every branch of a block is dropped. -/
theorem run_alternative (l : DirectiveLine) {name : String}
    (known : Directive.ofName? name = some (.alternative name))
    (letters : ∀ c ∈ name.toList, isLetter c = true) (rest : List Char) :
    Scanner.run 0 (l.text name ++ '\n' :: rest) ⟨p, frame :: outer, found⟩ =
      Scanner.run 0 rest
        ⟨p.after (l.text name ++ ['\n']), { frame with dropped := true } :: outer, found⟩ :=
  run_directive l name known letters rest rfl

theorem run_endif (l : DirectiveLine) (rest : List Char) :
    Scanner.run 0 (l.text "endif" ++ '\n' :: rest) ⟨p, frame :: outer, found⟩ =
      Scanner.run 0 rest ⟨p.after (l.text "endif" ++ ['\n']), outer, found⟩ :=
  run_directive l "endif" rfl (List.all_eq_true.1 (by decide)) rest rfl

mutual

/-- A dropped outline is passed over, with the blocks in it. -/
theorem run_dropped (rest : List Char) : ∀ (o : Outline) (p : Position)
    (frames : List Conditional) (found : Array Token), frames.head?.any (·.dropped) = true →
    Scanner.run 0 (o.text ++ rest) ⟨p, frames, found⟩ =
      Scanner.run 0 rest ⟨p.after o.text, frames, found⟩
  | .empty, _, _, _, _ => rfl
  | .line l lines, p, frames, found, dropped => by
    rw [Outline.text, List.append_assoc, List.cons_append, run_dropped_line l _ dropped,
      run_dropped rest lines _ _ _ dropped]
    simp only [Position.after_append, Position.after_cons, Position.after_nil]
  | .block opening first others closing lines, p, frames, found, dropped => by
    obtain ⟨frame, same, opened⟩ := run_if opening p frames found
    obtain ⟨frame', passed⟩ := run_branches (closing.text "endif" ++ '\n' :: (lines.text ++ rest))
      others frame frames ((p.after (opening.text "if" ++ ['\n'])).after first.text) found
    simp only [Outline.text, List.append_assoc, List.cons_append]
    rw [opened, run_dropped _ first _ (frame :: frames) _ (same.trans dropped), passed, run_endif,
      run_dropped rest lines _ _ _ dropped]
    simp only [Position.after_append, Position.after_cons, Position.after_nil]

/-- The branches behind the first one are passed over. -/
theorem run_branches (rest : List Char) : ∀ (b : Branches) (frame : Conditional)
    (outer : List Conditional) (p : Position) (found : Array Token), ∃ frame',
    Scanner.run 0 (b.text ++ rest) ⟨p, frame :: outer, found⟩ =
      Scanner.run 0 rest ⟨p.after b.text, frame' :: outer, found⟩
  | .none, frame, _, _, _ => ⟨frame, rfl⟩
  | .otherwise l body, frame, outer, p, found => by
    refine ⟨{ frame with dropped := true }, ?_⟩
    rw [Branches.text, List.append_assoc, List.cons_append,
      run_alternative l rfl (List.all_eq_true.1 (by decide)), run_dropped rest body _ _ _ rfl]
    simp only [Position.after_append, Position.after_cons, Position.after_nil]
  | .alternative l body branches, frame, outer, p, found => by
    obtain ⟨frame', passed⟩ := run_branches rest branches { frame with dropped := true } outer
      ((p.after (l.text "elseif" ++ ['\n'])).after body.text) found
    refine ⟨frame', ?_⟩
    simp only [Branches.text, List.append_assoc, List.cons_append]
    rw [run_alternative l rfl (List.all_eq_true.1 (by decide)), run_dropped _ body _ _ _ rfl,
      passed]
    simp only [Position.after_append, Position.after_cons, Position.after_nil]

end

/-! ## Tokens of a plain line -/

/-- The character that ends a line is in no class of characters that make up a token. -/
theorem newline_apart : isNameChar '\n' = false ∧ isAlphanumeric '\n' = false ∧
    isRunChar '\n' = false := by
  decide

/-- A run of characters stops at the end of the line. -/
theorem takeWhile_line {p : Char → Bool} (apart : p '\n' = false) (cs rest : List Char) :
    (cs ++ '\n' :: rest).takeWhile p = cs.takeWhile p := by
  rw [List.takeWhile_append]
  split
  · next all =>
    rw [List.takeWhile_cons_of_neg (by simp [apart]), List.append_nil,
      (List.takeWhile_prefix p).eq_of_length all]
  · rfl

theorem numberChars_line (cs rest : List Char) :
    numberChars (cs ++ '\n' :: rest) = numberChars cs := by
  induction cs with
  | nil => rw [List.nil_append, numberChars]; rfl
  | cons c cs ih =>
    have next : (cs ++ '\n' :: rest).head?.any isDigit = cs.head?.any isDigit := by
      cases cs with
      | nil => exact (by decide : isDigit '\n' = false)
      | cons d cs => rfl
    rw [List.cons_append, numberChars, numberChars, ih, next]

/-- Which token is at a place depends on its line only. -/
theorem tokenLexeme_line (plain : c ∉ ['#', '"', '\x60']) (cs rest : List Char) :
    tokenLexeme c (cs ++ '\n' :: rest) = tokenLexeme c cs := by
  have next (d : Char) (other : '\n' ≠ d) :
      ((cs ++ '\n' :: rest).head? = some d) = (cs.head? = some d) := by
    cases cs with
    | nil => simp [other]
    | cons e cs => rfl
  have operator : (cs ++ '\n' :: rest).head?.any isOperatorChar = cs.head?.any isOperatorChar := by
    cases cs <;> rfl
  have dots : ['.', '.'].isPrefixOf (cs ++ '\n' :: rest) = ['.', '.'].isPrefixOf cs := by
    match cs with
    | [] => rfl
    | [d] => simp [List.isPrefixOf]
    | d :: e :: cs => rfl
  simp only [List.mem_cons, List.not_mem_nil, or_false, not_or] at plain
  simp only [tokenLexeme, plain, if_false, ← List.cons_append, numberChars_line,
    takeWhile_line newline_apart.1, takeWhile_line newline_apart.2.2, next '>' (by decide),
    next '=' (by decide), operator, dots, ne_eq]

/-- A token of characters of which none begins a directive, a string or a comment, or of operator
characters up to the end of their run. -/
def IsCalm (token rest : List Char) : Prop :=
  (∀ c ∈ token, c ∉ ['#', '"', '/']) ∨
    (∀ c ∈ token, isRunChar c = true) ∧ ∀ c ∈ rest.head?, isRunChar c = false

/-- The characters of names begin nothing else. -/
theorem not_mem_of_isNameChar (isName : isNameChar c = true) : c ∉ ['#', '"', '/'] := by
  intro there
  simp only [List.mem_cons, List.not_mem_nil, or_false] at there
  rcases there with rfl | rfl | rfl <;> exact absurd isName (by decide)

/-- Neither do those of numbers. -/
theorem IsNumberUpTo.not_mem (number : IsNumberUpTo cs rest) :
    ∀ c ∈ cs, c ∉ ['#', '"', '/'] := by
  induction cs with
  | nil => exact nofun
  | cons c cs ih =>
    refine List.forall_mem_cons.2 ⟨?_, ih number.2⟩
    rcases number.1 with word | rfl | ⟨rfl, -⟩
    · exact not_mem_of_isNameChar (by rw [isNameChar, word]; rfl)
    · decide
    · decide

/-- A token that is neither a string nor an escaped name stands for its characters, and is calm. -/
theorem IsSpelled.calm {kind : TokenKind} {value : String}
    (spelled : IsSpelled kind value (c :: cs) rest) (plain : c ∉ ['#', '"', '\x60']) :
    value = String.ofList (c :: cs) ∧ IsCalm (c :: cs) rest := by
  generalize written : c :: cs = w at spelled
  cases spelled with
  | word starts noDigit run =>
    exact ⟨rfl, .inl fun d there => not_mem_of_isNameChar (run.1 d there)⟩
  | number digit number => exact ⟨rfl, .inl number.not_mem⟩
  | operator run => exact ⟨rfl, .inr run⟩
  | mark isMark =>
    refine ⟨rfl, .inl (List.forall_mem_singleton.2 ?_)⟩
    rcases isMark with rfl | rfl <;> decide
  | sign isSign =>
    have quiet : ∀ k ∈ signs, k.label.toList.all (· ∉ ['#', '"', '/']) = true := by decide
    exact ⟨(String.ofList_toList).symm, .inl fun d there =>
      of_decide_eq_true (List.all_eq_true.1 (quiet _ isSign.1) d there)⟩
  | sharpName | escapedName =>
    cases written
    exact absurd (by decide) plain
  | quoted string => cases string <;> cases written <;> exact absurd (by decide) plain
  | raw string =>
    obtain ⟨ds, rfl, -⟩ := string.exists_cons []
    cases written
    exact absurd (by decide) plain

/-- A character that begins no string and no escaped name is stray, or begins a token that is
spelled as it stands and calm. -/
theorem tokenLexeme_calm (bare : StartsBare c cs) (plain : c ∉ ['#', '"', '\x60']) :
    tokenLexeme c cs = faultAtStart (.strayCharacter c) ∨
      ∃ kind ds es, tokenLexeme c cs = verbatim kind (c :: ds) ∧ cs = ds ++ es ∧
        IsCalm (c :: ds) es := by
  rcases finds_tokenLexeme bare with ⟨kind, value, w, es, split, spelled, found⟩ | ⟨e, -, stray⟩
  · obtain ⟨d, ds, rfl, -⟩ := spelled.exists_tokenLexeme
    obtain ⟨rfl, rfl⟩ := List.cons.inj split
    obtain ⟨rfl, calm⟩ := spelled.calm plain
    exact .inr ⟨kind, ds, es, found, rfl, calm⟩
  · exact .inl (stray plain)

/-! ## Kept lines -/

/-- What the scanner makes of a text at a place where nothing is dropped, whatever blocks are open
around it and whatever stands behind it: the tokens up to its end, or an error. -/
def ScansTo (cs : List Char) (p : Position) (found : Array Token)
    (outcome : Except SyntaxError (Array Token)) : Prop :=
  ∀ (frames : List Conditional) rest, frames.head?.any (·.dropped) = false →
    Scanner.run 0 (cs ++ rest) ⟨p, frames, found⟩ =
      outcome >>= fun later => Scanner.run 0 rest ⟨p.after cs, frames, later⟩

/-- A text behind one in which no error is found. -/
theorem ScansTo.append {later : Array Token} {outcome : Except SyntaxError (Array Token)}
    (first : ScansTo cs p found (.ok later)) (second : ScansTo ds (p.after cs) later outcome) :
    ScansTo (cs ++ ds) p found outcome := by
  intro frames rest kept
  rw [List.append_assoc, first frames _ kept, Position.after_append]
  exact second frames rest kept

theorem ScansTo.error {e : SyntaxError} (first : ScansTo cs p found (.error e)) (ds : List Char) :
    ScansTo (cs ++ ds) p found (.error e) := by
  intro frames rest kept
  rw [List.append_assoc, first frames _ kept]
  rfl

/-- A lexeme in a kept line is noted without regard to the lines behind it. -/
theorem ScansTo.cons (cs : List Char) {later : Array Token}
    {outcome : Except SyntaxError (Array Token)} {l : Lexeme}
    (ahead : ∀ rest, lexeme false c (cs ++ (ds ++ '\n' :: rest)) = .ok (l, cs.length + 1))
    (note : ∀ frames, Scanner.note ⟨p, frames, found⟩ l = .ok ⟨p, frames, later⟩)
    (second : ScansTo (ds ++ ['\n']) (p.after (c :: cs)) later outcome) :
    ScansTo (c :: (cs ++ ds) ++ ['\n']) p found outcome := by
  intro frames rest kept
  have here : lexeme (Scanner.dropping ⟨p, frames, found⟩) c (cs ++ (ds ++ '\n' :: rest)) =
      .ok (l, cs.length + 1) := by
    rw [Scanner.dropping, kept]
    exact ahead rest
  have scanned := (run_of_lexeme here (note frames)).trans
    (by simpa using second frames rest kept)
  rw [← Position.after_append] at scanned
  simpa using scanned

/-- A plain line is scanned on its own. -/
theorem exists_scansTo (cs : List Char) (plain : ∀ c ∈ cs, c ∉ ['\n', '#', '"', '\x60', '/'])
    (p : Position) (found : Array Token) : ∃ outcome, ScansTo (cs ++ ['\n']) p found outcome := by
  -- The line is read from its front, one lexeme after the other.
  induction size : cs.length using Nat.strongRecOn generalizing cs p found with
  | ind n ih =>
    subst size
    match cs with
    | [] => exact ⟨.ok found, fun frames rest _ => run_newline rest⟩
    | c :: cs =>
      have here := plain c List.mem_cons_self
      have later : ∀ d ∈ cs, d ∉ ['\n', '#', '"', '\x60', '/'] := fun d there =>
        plain d (List.mem_cons_of_mem c there)
      by_cases separates : isSeparator c = true
      · obtain ⟨outcome, scans⟩ := ih cs.length (by simp) cs later (p.after [c]) found rfl
        exact ⟨outcome, scans.cons [] (fun _ => lexeme_of_isSeparator separates _ _) fun _ => rfl⟩
      · simp only [List.mem_cons, List.not_mem_nil, or_false, not_or] at here
        have isPlain : c ∉ ['#', '"', '\x60'] := by simp [here]
        have bare (rest : List Char) : StartsBare c rest := by
          simp [isSeparator] at separates
          exact startsBare_of_not_mem (by simp [separates, here]) rest
        have ahead (rest : List Char) :
            lexeme false c (cs ++ '\n' :: rest) = tokenLexeme c cs := by
          rw [(bare _).lexeme_eq, if_neg Bool.false_ne_true, tokenLexeme_line isPlain]
        rcases tokenLexeme_calm (bare cs) isPlain with stray | ⟨kind, ds, es, token, rfl, -⟩
        · refine ⟨.error ⟨.strayCharacter c, p⟩, fun frames rest kept => ?_⟩
          have fault := (ahead rest).trans stray
          rw [List.append_assoc, List.cons_append, Scanner.run, Scanner.dropping, kept,
            List.singleton_append, fault]
          rfl
        · have shorter : es.length < (c :: (ds ++ es)).length := by
            rw [List.length_cons, List.length_append]
            omega
          obtain ⟨outcome, scans⟩ := ih es.length shorter es
            (fun d there => later d (List.mem_append_right ds there)) (p.after (c :: ds))
            (found.push ⟨kind, String.ofList (c :: ds), p⟩) rfl
          refine ⟨outcome, scans.cons ds (l := .token kind (String.ofList (c :: ds)))
            (fun rest => ?_) fun _ => rfl⟩
          rw [← List.append_assoc, ahead, token]
          rfl

/-- Two texts that end at the same place, and in which the scanner finds the same. -/
def Alike (cs ds : List Char) : Prop :=
  (∀ p : Position, p.after cs = p.after ds) ∧
    ∀ p found, ∃ outcome, ScansTo cs p found outcome ∧ ScansTo ds p found outcome

theorem Alike.refl_line (l : PlainLine) : Alike (l.text ++ ['\n']) (l.text ++ ['\n']) := by
  refine ⟨fun _ => rfl, fun p found => ?_⟩
  obtain ⟨outcome, scans⟩ := exists_scansTo l.text l.plain p found
  exact ⟨outcome, scans, scans⟩

theorem Alike.append {cs' ds' : List Char} (first : Alike cs cs') (second : Alike ds ds') :
    Alike (cs ++ ds) (cs' ++ ds') := by
  refine ⟨fun p => ?_, fun p found => ?_⟩
  · rw [Position.after_append, Position.after_append, first.1, second.1]
  · obtain ⟨outcome, left, right⟩ := first.2 p found
    cases outcome with
    | error e => exact ⟨.error e, left.error ds, right.error ds'⟩
    | ok later =>
      obtain ⟨outcome, left', right'⟩ := second.2 (p.after cs) later
      rw [first.1 p] at right'
      exact ⟨outcome, left.append left', right.append right'⟩

/-- A block is read as its first branch, at the places where the branch stands. -/
theorem Alike.block {kept : List Char} {first : Outline} (same : Alike first.text kept)
    (opening closing : DirectiveLine) (others : Branches) :
    Alike (opening.text "if" ++ '\n' ::
        (first.text ++ (others.text ++ (closing.text "endif" ++ ['\n']))))
      ('\n' :: (kept ++ (emptied others.text ++ ['\n']))) := by
  have onLine : '\n' ∉ opening.text "if" := opening.not_mem_text (by decide)
  have closed : '\n' ∉ closing.text "endif" := closing.not_mem_text (by decide)
  refine ⟨fun p => ?_, fun p found => ?_⟩
  · rw [after_line p onLine, Position.after_append, Position.after_append, after_line _ closed,
      Position.after_cons, Position.after_append, Position.after_append,
      others.endsLines.after_emptied, Position.next, if_pos rfl, same.1]
    rfl
  · obtain ⟨outcome, left, right⟩ := same.2 (p.after ['\n']) found
    have start : p.after (opening.text "if" ++ ['\n']) = p.after ['\n'] := after_line p onLine []
    refine ⟨outcome, fun frames rest kept => ?_, fun frames rest kept => ?_⟩
    · obtain ⟨frame, inherits, opened⟩ := run_if opening p frames found
      simp only [List.append_assoc, List.cons_append, List.nil_append]
      rw [opened, start, left (frame :: frames) _ (inherits.trans kept)]
      cases outcome with
      | error e => rfl
      | ok later =>
        obtain ⟨frame', passed⟩ := run_branches (closing.text "endif" ++ '\n' :: rest) others
          frame frames ((p.after ['\n']).after first.text) later
        refine passed.trans ((run_endif closing rest).trans ?_)
        rw [← start]
        simp only [Position.after_append, Position.after_cons, Position.after_nil]
        rfl
    · simp only [List.append_assoc, List.cons_append, List.nil_append]
      rw [run_newline, right frames _ kept]
      cases outcome with
      | error e => rfl
      | ok later =>
        refine (run_emptied others.text ('\n' :: rest)).trans ((run_newline rest).trans ?_)
        simp only [Position.after_append, Position.after_cons, Position.after_nil]
        rfl

/-- An outline is read as its kept lines. -/
theorem Outline.alike : ∀ o : Outline, Alike o.text o.keptText
  | .empty => ⟨fun _ => rfl, fun _ found => ⟨.ok found, fun _ _ _ => rfl, fun _ _ _ => rfl⟩⟩
  | .line l lines => by
    have both := (Alike.refl_line l).append lines.alike
    rwa [List.append_assoc, List.append_assoc] at both
  | .block opening first others closing lines => by
    have both := (first.alike.block opening closing others).append lines.alike
    simp only [List.append_assoc, List.cons_append, List.nil_append] at both
    exact both

/-- **Conditional compilation keeps exactly the first branches**: an outline is scanned as the text
in which its directives, and the lines outside the first branch of a block around them, are empty,
with the same tokens at the same places, or with the same error at the same place. -/
theorem scan_outline (o : Outline) :
    scan (String.ofList o.text) = scan (String.ofList o.keptText) := by
  obtain ⟨places, alike⟩ := o.alike
  obtain ⟨outcome, left, right⟩ := alike .start #[]
  have whole := left [] [] rfl
  have kept := right [] [] rfl
  rw [List.append_nil] at whole kept
  rw [scan, scan, String.toList_ofList, String.toList_ofList, Scanner.initial, whole, kept, places]

end ViewModifiers.Interface
