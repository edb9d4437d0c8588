import ViewModifiers.Proofs.Interface.Forms
import ViewModifiers.Proofs.Text.Digit

/-!
# Where lexemes are found

The scanner finds the lexeme of a tile exactly where the tile stands: it reads every tile as it is
written (`Tile.Fits.exists_lexeme`), and what it finds is written there (`exists_tile`). So there is
one tile at most at the front of a text.
-/

namespace ViewModifiers.Interface

open Text

variable {c : Char} {cs rest w : List Char} {n : Nat} {p : Char → Bool} {kind : TokenKind}
  {value : String} {dropping : Bool}

/-! ## Tokens -/

theorem startsName_apart : ∀ c ∈ [' ', '\t', '\r', '\n', '/', '#', '"', '\x60', '@', '(', '['],
    (isLetter c || c = '_' || c = '$') = false := by
  have all : [' ', '\t', '\r', '\n', '/', '#', '"', '\x60', '@', '(', '['].all
      (fun c => !(isLetter c || c = '_' || c = '$')) = true := by decide
  exact fun c there => Bool.not_eq_true' _ ▸ List.all_eq_true.1 all c there

theorem isDigit_apart : ∀ c ∈ [' ', '\t', '\r', '\n', '/', '#', '"'], isDigit c = false := by
  have all : [' ', '\t', '\r', '\n', '/', '#', '"'].all (fun c => !isDigit c) = true := by decide
  exact fun c there => Bool.not_eq_true' _ ▸ List.all_eq_true.1 all c there

theorem isNameChar_of_starts (starts : (isLetter c || c = '_' || c = '$') = true) :
    isNameChar c = true := by
  simp only [isNameChar, isAlphanumeric, Bool.or_eq_true] at starts ⊢
  rcases starts with (letter | line) | dollar
  · exact .inl (.inl (.inl letter))
  · exact .inl (.inr line)
  · exact .inr dollar

/-- Operator characters begin nothing but operators and comments. -/
theorem isOperatorChar_apart (operator : isOperatorChar c = true) :
    isSeparator c = false ∧ isDigit c = false ∧ (isLetter c || c = '_' || c = '$') = false ∧
      c ≠ '#' ∧ c ≠ '"' ∧ c ≠ '\x60' := by
  have all : (['=', '-', '+', '!', '*', '/', '%', '<', '>', '&', '|', '^', '~', '?', '.'].all
      fun c => !isSeparator c && (!isDigit c && (!(isLetter c || c = '_' || c = '$') &&
        (c ≠ '#' && (c ≠ '"' && c ≠ '\x60'))))) = true := by decide
  have known := List.contains_iff_mem.1 operator
  simpa using List.all_eq_true.1 all c known

/-- No name of a directive stands in front of a quote or a mark. -/
theorem takeWhile_isLetter_of_mark (mark : cs.head? = some '"' ∨ cs.head? = some '#') :
    cs.takeWhile isLetter = [] := by
  have noLetter : isLetter '"' = false ∧ isLetter '#' = false := by decide
  cases cs with
  | nil => rfl
  | cons c cs =>
    refine List.takeWhile_cons_of_neg ?_
    rcases mark with same | same <;> cases same <;> simp [noLetter]

theorem isDigit_backtick : isDigit '\x60' = false := by decide

/-- A sign is the token of its kind. -/
theorem exists_tokenLexeme_of_isSign (isSign : IsSign kind rest) :
    ∃ c w, kind.label.toList = c :: w ∧ c ∉ [' ', '\t', '\r', '\n', '/', '#'] ∧
      tokenLexeme c (w ++ rest) = verbatim kind (c :: w) := by
  obtain ⟨known, alone⟩ := isSign
  cases kind with
  | dot =>
    have noEllipsis : ['.', '.'].isPrefixOf rest = false := by
      rwa [Bool.eq_false_iff, ne_eq, List.isPrefixOf_iff_prefix]
    have plain : isDigit '.' = false ∧ isLetter '.' = false := by decide
    refine ⟨'.', [], rfl, by decide, ?_⟩
    rw [List.nil_append, tokenLexeme]
    simp [noEllipsis, plain]
  | bang =>
    have next : rest.head? ≠ some '=' := alone
    have plain : isDigit '!' = false ∧ isLetter '!' = false := by decide
    refine ⟨'!', [], rfl, by decide, ?_⟩
    rw [List.nil_append, tokenLexeme]
    simp [next, plain]
  | equals =>
    obtain ⟨noEquals, noArrow⟩ := alone
    have plain : isDigit '=' = false ∧ isLetter '=' = false := by decide
    refine ⟨'=', [], rfl, by decide, ?_⟩
    rw [List.nil_append, tokenLexeme]
    simp [noEquals, noArrow, plain]
  | ampersand | star =>
    refine ⟨_, [], rfl, by decide, ?_⟩
    cases rest with
    | nil => rfl
    | cons c rest =>
      have ends : isOperatorChar c = false := alone c rfl
      rw [List.nil_append, tokenLexeme]
      simp [ends]
      rfl
  | keyword word => simp [signs] at known
  | identifier | string | number | symbol | endOfFile => exact absurd known (by decide)
  | _ => exact ⟨_, _, rfl, by decide, rfl⟩

/-- The token at an operator character that is not a sign of its own there. -/
theorem tokenLexeme_run (operator : isOperatorChar c = true)
    (alone : c ∉ ['<', '>', '?', '.']) (noArrow : c = '-' → cs.head? ≠ some '>')
    (noBang : c = '!' → cs.head? = some '=')
    (noEquals : c = '=' → cs.head? = some '=' ∨ cs.head? = some '>')
    (goesOn : c = '&' ∨ c = '*' → cs.head?.any isOperatorChar = true) :
    tokenLexeme c cs = verbatim .symbol ((c :: cs).takeWhile isRunChar) := by
  obtain ⟨-, noDigit, noLetter, noSharp, noQuote, noTick⟩ := isOperatorChar_apart operator
  simp only [List.mem_cons, List.not_mem_nil, or_false, not_or] at alone
  have arrow : (decide (c = '-') && decide (cs.head? = some '>')) = false := by
    simpa using noArrow
  have bang : (decide (c = '!') && decide (cs.head? ≠ some '=')) = false := by
    simpa using noBang
  have equals : (decide (c = '=') && decide (cs.head? ≠ some '=') &&
      decide (cs.head? ≠ some '>')) = false := by
    by_cases same : c = '='
    · rcases noEquals same with next | next <;> simp [next]
    · simp [same]
  have taken : (isOperatorChar c && !(['<', '>', '?', '&', '*'].contains c) ||
      (decide (c = '&') || decide (c = '*')) && cs.head?.any isOperatorChar) = true := by
    rw [operator]
    by_cases joins : c = '&' ∨ c = '*'
    · simp [goesOn joins, joins]
    · simp [alone, joins]
  rw [tokenLexeme, if_neg noSharp, if_neg noQuote, noDigit, if_neg Bool.false_ne_true,
    if_neg noTick, noLetter, if_neg Bool.false_ne_true, arrow, if_neg Bool.false_ne_true,
    if_neg alone.2.2.2, bang, if_neg Bool.false_ne_true, equals, if_neg Bool.false_ne_true, taken]
  rfl

/-- Where no sign stands, a run of operator characters is one token. -/
theorem tokenLexeme_of_noSign (isRun : isRunChar c = true) (noSign : NoSign (c :: cs)) :
    tokenLexeme c cs = verbatim .symbol ((c :: cs).takeWhile isRunChar) := by
  have operator : isOperatorChar c = true := (Bool.and_eq_true_iff.1 isRun).1
  have noDot : c ≠ '.' := by
    rintro rfl
    by_cases dots : ['.', '.'] <+: cs
    · obtain ⟨rest, rfl⟩ := dots
      exact noSign .ellipsis rest rfl ⟨by decide, trivial⟩
    · exact noSign .dot cs rfl ⟨by decide, dots⟩
  refine tokenLexeme_run operator ?_ ?_ ?_ ?_ ?_
  · simp [isRunChar] at isRun
    simp [isRun, noDot]
  · rintro rfl next
    obtain ⟨rest, rfl⟩ := List.head?_eq_some_iff.1 next
    exact noSign .arrow rest rfl ⟨by decide, trivial⟩
  · rintro rfl
    exact not_not.1 fun next => noSign .bang cs rfl ⟨by decide, next⟩
  · rintro rfl
    by_contra neither
    exact noSign .equals cs rfl ⟨by decide, not_or.1 neither⟩
  · intro joins
    by_contra ends
    have apart : ∀ d ∈ cs.head?, isOperatorChar d = false := by
      intro d next
      rw [Option.mem_def.1 next] at ends
      simpa using ends
    rcases joins with rfl | rfl
    · exact noSign .ampersand cs rfl ⟨by decide, apart⟩
    · exact noSign .star cs rfl ⟨by decide, apart⟩

theorem verbatim_cons (kind : TokenKind) (c : Char) (w : List Char) :
    verbatim kind (c :: w) = .ok (.token kind (String.ofList (c :: w)), (c :: w).length) := rfl

/-- A token is scanned as it is written. -/
theorem IsSpelled.exists_tokenLexeme (spelled : IsSpelled kind value w rest) :
    ∃ c ds, w = c :: ds ∧ StartsBare c (ds ++ rest) ∧
      tokenLexeme c (ds ++ rest) = .ok (.token kind value, w.length) := by
  cases spelled with
  | @word c w _ starts noDigit run =>
    have other (d : Char)
        (known : d ∈ [' ', '\t', '\r', '\n', '/', '#', '"', '\x60', '@', '(', '[']) : c ≠ d := by
      rintro rfl
      rw [startsName_apart c known] at starts
      cases starts
    refine ⟨c, w, rfl, startsBare_of_not_mem (by simp [other]) _, ?_⟩
    rw [tokenLexeme, if_neg (other '#' (by decide)), if_neg (other '"' (by decide)),
      if_neg (by simp [noDigit]), if_neg (other '\x60' (by decide)), if_pos starts,
      ← List.cons_append, run.takeWhile_eq, verbatim_cons]
  | @sharpName w _ run noDirective noString =>
    refine ⟨'#', w, rfl, ⟨by decide, noComment_iff.2 (by simp), noDirective⟩, ?_⟩
    rw [tokenLexeme, if_pos rfl, if_neg (by simpa using noString), run.takeWhile_eq, verbatim_cons]
  | @escapedName w _ plain =>
    refine ⟨'\x60', w ++ ['\x60'], rfl, startsBare_of_not_mem (by decide) _, ?_⟩
    rw [tokenLexeme, if_neg (by decide), if_neg (by decide), if_neg (by simp [isDigit_backtick]),
      if_pos rfl, List.append_assoc, List.singleton_append, escapedName_of_plain plain]
    simp
  | @number c w _ digit number =>
    have other (d : Char) (known : d ∈ [' ', '\t', '\r', '\n', '/', '#', '"']) : c ≠ d := by
      rintro rfl
      rw [isDigit_apart c known] at digit
      cases digit
    refine ⟨c, w, rfl, startsBare_of_not_mem (by simp [other]) _, ?_⟩
    rw [tokenLexeme, if_neg (other '#' (by decide)), if_neg (other '"' (by decide)),
      if_pos digit, ← List.cons_append, numberChars_of_isNumberUpTo number, verbatim_cons]
  | quoted string =>
    obtain ⟨ds, rfl⟩ : ∃ ds, w = '"' :: ds := by cases string <;> exact ⟨_, rfl⟩
    refine ⟨'"', ds, rfl, startsBare_of_not_mem (by decide) _, ?_⟩
    rw [tokenLexeme, if_neg (by decide), if_pos rfl, ← List.cons_append,
      stringLexeme_of_isQuoted string]
    rfl
  | raw string =>
    obtain ⟨ds, rfl, next⟩ := string.exists_cons rest
    refine ⟨'#', ds, rfl, ⟨by decide, noComment_iff.2 (by simp), fun d starts => ?_⟩, ?_⟩
    · have known := (startsDirective_iff.1 starts).2
      rw [directiveAhead?, takeWhile_isLetter_of_mark next] at known
      cases known
    · rw [tokenLexeme, if_pos rfl, if_pos (by simpa using next), ← List.cons_append,
        rawStringLexeme_of_isRaw string]
      rfl
  | sign isSign =>
    obtain ⟨c, ds, label, other, found⟩ := exists_tokenLexeme_of_isSign isSign
    refine ⟨c, ds, label, startsBare_of_not_mem other _, ?_⟩
    rw [found, label, verbatim_cons, ← label, String.ofList_toList]
  | @operator c w _ run noSign noComment =>
    have isRun := run.1 c List.mem_cons_self
    have operator : isOperatorChar c = true := (Bool.and_eq_true_iff.1 isRun).1
    obtain ⟨noBlank, -, -, noSharp, -⟩ := isOperatorChar_apart operator
    refine ⟨c, w, rfl, ⟨noBlank, noComment, fun d starts => ?_⟩, ?_⟩
    · exact noSharp (startsDirective_iff.1 starts).1
    · have none : NoSign (c :: (w ++ rest)) := noSign
      rw [tokenLexeme_of_noSign isRun none, ← List.cons_append, run.takeWhile_eq, verbatim_cons]
  | mark isMark =>
    rcases isMark with rfl | rfl
    · exact ⟨_, [], rfl, startsBare_of_not_mem (by decide) _, rfl⟩
    · exact ⟨_, [], rfl, startsBare_of_not_mem (by decide) _, rfl⟩

/-- What is found at the front of a text is the token that is written there, or a fault. A fault
where no string and no escaped name starts is that the character starts nothing. -/
def Finds (c : Char) (cs : List Char) (found : Found Lexeme) : Prop :=
  (∃ kind value w rest, w ++ rest = c :: cs ∧ IsSpelled kind value w rest ∧
    found = .ok (.token kind value, w.length)) ∨
  ∃ e, found = .error e ∧ (c ∉ ['#', '"', '\x60'] → found = faultAtStart (.strayCharacter c))

theorem finds_of_verbatim (split : w ++ rest = c :: cs)
    (spelled : IsSpelled kind (String.ofList w) w rest) : Finds c cs (verbatim kind w) :=
  .inl ⟨kind, _, w, rest, split, spelled, rfl⟩

theorem finds_of_isSign (isSign : IsSign kind rest) (label : kind.label.toList = w)
    (split : w ++ rest = c :: cs) : Finds c cs (verbatim kind w) := by
  subst label
  refine finds_of_verbatim split ?_
  rw [String.ofList_toList]
  exact .sign isSign

theorem finds_of_string {found : Found String} (mark : c ∈ ['#', '"', '\x60'])
    (strings : ∀ s m, found = .ok (s, m) → ∃ w rest, w ++ rest = c :: cs ∧
      IsSpelled .string s w rest ∧ m = w.length) :
    Finds c cs (found.map fun (s, n) => (.token .string s, n)) := by
  rcases found with e | ⟨s, m⟩
  · exact .inr ⟨e, rfl, fun plain => absurd mark plain⟩
  · obtain ⟨w, rest, split, spelled, rfl⟩ := strings s m rfl
    exact .inl ⟨.string, s, w, rest, split, spelled, rfl⟩

theorem isSign_of_punctuation? (known : punctuation? c = some kind)
    (alone : c = '&' ∨ c = '*' → ∀ d ∈ cs.head?, isOperatorChar d = false) :
    IsSign kind cs ∧ kind.label.toList = [c] := by
  rw [punctuation?.eq_def] at known
  split at known <;> cases known
  all_goals refine ⟨⟨by decide, ?_⟩, rfl⟩
  all_goals first | exact trivial | exact alone (.inl rfl) | exact alone (.inr rfl)

/-- A run of operator characters starts with a character that may be in a run. -/
theorem isRunChar_of_starts {next : Option Char}
    (starts : (isOperatorChar c && !(['<', '>', '?', '&', '*'].contains c)
      || (c = '&' || c = '*') && next.any isOperatorChar) = true) : isRunChar c = true := by
  simp only [Bool.or_eq_true, Bool.and_eq_true, decide_eq_true_eq] at starts
  rcases starts with ⟨operator, other⟩ | ⟨rfl | rfl, -⟩
  · rw [isRunChar, operator]
    simp_all
  · rfl
  · rfl

/-- Two of the signs are in a run only in front of another operator character. -/
theorem exists_operator_behind (joins : c = '&' ∨ c = '*')
    (starts : (isOperatorChar c && !(['<', '>', '?', '&', '*'].contains c) ||
      (c = '&' || c = '*') && cs.head?.any isOperatorChar) = true) :
    ∃ d ∈ cs.head?, isOperatorChar d = true := by
  cases cs with
  | nil => rcases joins with rfl | rfl <;> cases starts
  | cons d cs => rcases joins with rfl | rfl <;> exact ⟨d, rfl, starts⟩

/-- Where the scanner takes a run of operator characters, no sign stands. -/
theorem noSign_of_run (noArrow : ¬(c = '-' && cs.head? = some '>') = true) (noDot : c ≠ '.')
    (noBang : ¬(c = '!' && cs.head? ≠ some '=') = true)
    (noEquals : ¬(c = '=' && cs.head? ≠ some '=' && cs.head? ≠ some '>') = true)
    (starts : (isOperatorChar c && !(['<', '>', '?', '&', '*'].contains c) ||
      (c = '&' || c = '*') && cs.head?.any isOperatorChar) = true) : NoSign (c :: cs) := by
  rintro kind rest same ⟨known, alone⟩
  have begins : ∀ k ∈ signs, k ∈ [.dot, .ellipsis, .bang, .equals, .arrow, .ampersand, .star] ∨
      k.label.toList.head?.any (fun d => !isRunChar d) = true := by decide
  rcases begins kind known with special | first
  · simp only [List.mem_cons, List.not_mem_nil, or_false] at special
    rcases special with rfl | rfl | rfl | rfl | rfl | rfl | rfl
    · exact noDot (List.cons.inj (show '.' :: rest = c :: cs from same)).1.symm
    · exact noDot (List.cons.inj (show '.' :: '.' :: '.' :: rest = c :: cs from same)).1.symm
    · obtain ⟨rfl, rfl⟩ := List.cons.inj (show '!' :: rest = c :: cs from same)
      exact noBang (by simpa using alone)
    · obtain ⟨rfl, rfl⟩ := List.cons.inj (show '=' :: rest = c :: cs from same)
      exact noEquals (by simpa using alone)
    · obtain ⟨rfl, rfl⟩ := List.cons.inj (show '-' :: '>' :: rest = c :: cs from same)
      exact noArrow rfl
    · obtain ⟨rfl, rfl⟩ := List.cons.inj (show '&' :: rest = c :: cs from same)
      obtain ⟨d, next, operator⟩ := exists_operator_behind (.inl rfl) starts
      exact absurd operator (by simp [alone d next])
    · obtain ⟨rfl, rfl⟩ := List.cons.inj (show '*' :: rest = c :: cs from same)
      obtain ⟨d, next, operator⟩ := exists_operator_behind (.inr rfl) starts
      exact absurd operator (by simp [alone d next])
  · obtain ⟨d, first, noRun⟩ := (Option.any_eq_true _ _).1 first
    obtain ⟨ds, label⟩ := List.head?_eq_some_iff.1 first
    rw [label] at same
    obtain ⟨rfl, -⟩ := List.cons.inj same
    rw [isRunChar_of_starts starts] at noRun
    cases noRun

theorem isRun_cons_takeWhile (first : p c = true) (cs : List Char) :
    IsRun p (c :: cs.takeWhile p) (cs.dropWhile p) := by
  obtain ⟨within, ends⟩ := isRun_takeWhile p cs
  exact ⟨List.forall_mem_cons.2 ⟨first, within⟩, ends⟩

theorem finds_mark (bare : StartsBare '#' cs) : Finds '#' cs (tokenLexeme '#' cs) := by
  rw [tokenLexeme, if_pos rfl]
  split
  · next mark =>
    refine finds_of_string (by decide) fun s m read => ?_
    obtain ⟨w, rest, split, raw, length⟩ := exists_isRaw (by simpa using mark) read
    exact ⟨w, rest, split, .raw raw, length⟩
  · next noMark =>
    have whole := List.takeWhile_append_dropWhile (p := isNameChar) (l := cs)
    refine finds_of_verbatim (congrArg _ whole) (.sharpName (isRun_takeWhile _ cs) ?_ ?_)
    · rw [whole]
      exact bare.noDirective
    · rw [whole]
      simpa using noMark

theorem finds_quote (cs : List Char) : Finds '"' cs (tokenLexeme '"' cs) := by
  rw [tokenLexeme, if_neg (by decide), if_pos rfl]
  refine finds_of_string (by decide) fun s m read => ?_
  obtain ⟨w, rest, split, quoted, length⟩ := exists_isQuoted read
  exact ⟨w, rest, split, .quoted quoted, length⟩

theorem finds_escapedName (cs : List Char) : Finds '\x60' cs (escapedName ('\x60' :: cs)) := by
  rcases read : escapedName ('\x60' :: cs) with e | ⟨l, m⟩
  · exact .inr ⟨e, rfl, fun plain => absurd (by decide) plain⟩
  · obtain ⟨w, rest, rfl, plain, rfl, rfl⟩ := exists_escapedName read
    exact .inl ⟨.identifier, _, _, rest, by simp, .escapedName plain, by simp⟩

theorem finds_number (digit : isDigit c = true) (cs : List Char) :
    Finds c cs (verbatim .number (numberChars (c :: cs))) := by
  obtain ⟨rest, split, number⟩ := exists_isNumberUpTo (c :: cs)
  have inNumber : InNumber c cs := .inl (isAlphanumeric_of_isDigit digit)
  have starts : numberChars (c :: cs) = c :: numberChars cs := by
    rw [numberChars_cons, if_pos (inNumber_iff.1 inNumber)]
  rw [starts] at split number ⊢
  exact finds_of_verbatim split (.number digit number)

theorem finds_word (starts : (isLetter c || c = '_' || c = '$') = true) (noDigit : isDigit c = false)
    (cs : List Char) :
    Finds c cs (verbatim (wordKind (String.ofList ((c :: cs).takeWhile isNameChar)))
      ((c :: cs).takeWhile isNameChar)) := by
  have isName := isNameChar_of_starts starts
  rw [List.takeWhile_cons_of_pos isName]
  exact finds_of_verbatim (congrArg _ List.takeWhile_append_dropWhile)
    (.word starts noDigit (isRun_cons_takeWhile isName cs))

theorem finds_dots (cs : List Char) :
    Finds '.' cs (if ['.', '.'].isPrefixOf cs then verbatim .ellipsis ['.', '.', '.']
      else verbatim .dot ['.']) := by
  split
  · next dots =>
    obtain ⟨rest, rfl⟩ := List.isPrefixOf_iff_prefix.1 dots
    exact finds_of_isSign ⟨by decide, trivial⟩ rfl rfl
  · next noDots =>
    rw [List.isPrefixOf_iff_prefix] at noDots
    exact finds_of_isSign ⟨by decide, noDots⟩ rfl rfl

theorem finds_run (isRun : isRunChar c = true) (noSign : NoSign (c :: cs))
    (noComment : NoComment (c :: cs)) :
    Finds c cs (verbatim .symbol ((c :: cs).takeWhile isRunChar)) := by
  have whole := List.takeWhile_append_dropWhile (p := isRunChar) (l := cs)
  rw [List.takeWhile_cons_of_pos isRun]
  refine finds_of_verbatim (congrArg _ whole) (.operator (isRun_cons_takeWhile isRun cs) ?_ ?_)
  · rwa [List.cons_append, whole]
  · rwa [List.cons_append, whole]

theorem finds_punctuation (known : punctuation? c = some kind)
    (noRun : ¬(isOperatorChar c && !(['<', '>', '?', '&', '*'].contains c) ||
      (c = '&' || c = '*') && cs.head?.any isOperatorChar) = true) :
    Finds c cs (verbatim kind [c]) := by
  have alone (joins : c = '&' ∨ c = '*') : ∀ d ∈ cs.head?, isOperatorChar d = false := by
    intro d next
    by_contra operator
    rw [Bool.not_eq_false] at operator
    refine noRun ?_
    simp only [Bool.or_eq_true, Bool.and_eq_true, decide_eq_true_eq, Option.mem_def.1 next]
    exact .inr ⟨joins, operator⟩
  obtain ⟨isSign, label⟩ := isSign_of_punctuation? known alone
  exact finds_of_isSign isSign label rfl

/-- A token is written where it is scanned. -/
theorem finds_tokenLexeme (bare : StartsBare c cs) : Finds c cs (tokenLexeme c cs) := by
  by_cases sharp : c = '#'
  · subst sharp
    exact finds_mark bare
  by_cases quote : c = '"'
  · subst quote
    exact finds_quote cs
  rw [tokenLexeme, if_neg sharp, if_neg quote]
  split
  · next digit => exact finds_number digit cs
  split
  · next escape =>
    subst escape
    exact finds_escapedName cs
  split
  · next noDigit _ starts => exact finds_word starts (by simpa using noDigit) cs
  split
  · next arrow =>
    rw [Bool.and_eq_true, decide_eq_true_eq, decide_eq_true_eq] at arrow
    obtain ⟨rfl, next⟩ := arrow
    obtain ⟨rest, rfl⟩ := List.head?_eq_some_iff.1 next
    exact finds_of_isSign ⟨by decide, trivial⟩ rfl rfl
  split
  · next dot =>
    subst dot
    exact finds_dots cs
  split
  · next bang =>
    rw [Bool.and_eq_true, decide_eq_true_eq, decide_eq_true_eq] at bang
    obtain ⟨rfl, next⟩ := bang
    exact finds_of_isSign ⟨by decide, next⟩ rfl rfl
  split
  · next equals =>
    simp only [Bool.and_eq_true, decide_eq_true_eq] at equals
    obtain ⟨⟨rfl, noEquals⟩, noArrow⟩ := equals
    exact finds_of_isSign ⟨by decide, noEquals, noArrow⟩ rfl rfl
  split
  · next noArrow noDot noBang noEquals starts =>
    exact finds_run (isRunChar_of_starts starts)
      (noSign_of_run noArrow noDot noBang noEquals starts) bare.noComment
  next noRun =>
  split
  · next kind known => exact finds_punctuation known noRun
  split
  · next isMark => exact finds_of_verbatim rfl (.mark (by simpa using isMark))
  · exact .inr ⟨_, rfl, fun _ => rfl⟩

/-! ## Tiles -/

variable {x : Tile}

/-- The lexeme of a tile is found where it stands. -/
theorem Tile.Fits.exists_lexeme (fits : x.Fits dropping rest) :
    ∃ c cs, x.spelling = c :: cs ∧
      Interface.lexeme dropping c (cs ++ rest) = .ok (x.lexeme, x.spelling.length) := by
  cases fits with
  | @blank c _ separates => exact ⟨c, [], rfl, if_pos separates⟩
  | @lineComment w _ opens line =>
    obtain ⟨more, split⟩ := opens
    obtain ⟨ds, rfl⟩ := line.exists_cons split.symm (by decide)
    have behind : ['/'] ++ more = ds ++ rest := (List.cons.inj split).2
    have next : (ds ++ rest).head? = some '/' := by rw [← behind]; rfl
    have size := lineSize_of_isRun line
    refine ⟨'/', ds, rfl, ?_⟩
    rw [Interface.lexeme, if_neg (by decide), if_pos (by simp [next]), ← List.cons_append, size]
    rfl
  | @blockComment w _ closes =>
    refine ⟨'/', '*' :: w, rfl, ?_⟩
    have size := commentSize_of_closes closes Nat.one_ne_zero 2 rest
    rw [List.cons_append, Interface.lexeme, if_neg (by decide), if_neg (by simp), if_pos (by simp),
      commentSize_opening, size]
    exact congrArg (fun n => Except.ok (Lexeme.blank, n)) (Nat.add_comm 2 w.length)
  | @directive d w _ starts line =>
    obtain ⟨name, behind, split, -⟩ := id starts
    obtain ⟨ds, rfl⟩ := line.exists_cons split.symm (by decide)
    have ahead : directiveAhead? (ds ++ rest) = some d := (startsDirective_iff.1 starts).2
    have size := lineSize_of_isRun line
    refine ⟨'#', ds, rfl, ?_⟩
    rw [Interface.lexeme, if_neg (by decide), if_neg (by simp), if_neg (by simp), if_pos rfl, ahead,
      ← List.cons_append, size]
    rfl
  | @passedString s w _ dropped string =>
    obtain ⟨ds, rfl⟩ : ∃ ds, w = '"' :: ds := by cases string <;> exact ⟨_, rfl⟩
    have bare : StartsBare '"' (ds ++ rest) := startsBare_of_not_mem (by decide) _
    refine ⟨'"', ds, rfl, ?_⟩
    rw [bare.lexeme_eq, if_pos dropped, if_pos rfl, ← List.cons_append,
      stringLexeme_of_isQuoted string]
    rfl
  | @passedChar c _ dropped noQuote bare =>
    refine ⟨c, [], rfl, ?_⟩
    rw [List.nil_append, bare.lexeme_eq, if_pos dropped, if_neg noQuote]
    rfl
  | token kept spelled =>
    obtain ⟨c, ds, same, bare, found⟩ := spelled.exists_tokenLexeme
    refine ⟨c, ds, same, ?_⟩
    rw [bare.lexeme_eq, if_neg (by simp [kept]), found]
    rfl

/-- What is found at the front of a text is a tile that stands there. -/
theorem exists_tile {l : Lexeme} (found : lexeme dropping c cs = .ok (l, n)) :
    ∃ (x : Tile) (rest : List Char), x.spelling ++ rest = c :: cs ∧ x.Fits dropping rest ∧
      x.lexeme = l ∧ x.spelling.length = n := by
  obtain ⟨w, rest, whole, toLineEnd, length⟩ : ∃ w rest, w ++ rest = c :: cs ∧
      IsRun (· ≠ '\n') w rest ∧ lineSize (c :: cs) = w.length :=
    ⟨_, _, List.takeWhile_append_dropWhile, isRun_takeWhile _ _, rfl⟩
  by_cases blank : isSeparator c = true
  · rw [lexeme, if_pos blank] at found
    cases found
    exact ⟨.blank c, cs, rfl, .blank blank, rfl, rfl⟩
  by_cases line : ['/', '/'] <+: c :: cs
  · obtain ⟨rfl, next⟩ := (pair_prefix_iff _ _).1 line
    rw [lexeme, if_neg blank, if_pos (by simp [next]), length] at found
    cases found
    exact ⟨.comment w, rest, whole, .lineComment (by rwa [whole]) toLineEnd, rfl, rfl⟩
  by_cases block : ['/', '*'] <+: c :: cs
  · obtain ⟨more, split⟩ := block
    obtain ⟨rfl, rfl⟩ := List.cons.inj split.symm
    rw [lexeme, if_neg blank, if_neg (by simp), if_pos (by simp)] at found
    change (commentSize 0 0 ('/' :: '*' :: more)).map _ = _ at found
    rw [commentSize_opening] at found
    rcases read : commentSize 1 2 more with e | ⟨⟨⟩, m⟩
    · rw [read] at found
      cases found
    · rw [read] at found
      cases found
      obtain ⟨w, rest, rfl, closes, rfl⟩ := exists_closes read Nat.one_ne_zero
      exact ⟨_, rest, rfl, .blockComment closes, rfl, Nat.add_comm w.length 2⟩
  by_cases directive : ∃ d, StartsDirective d (c :: cs)
  · obtain ⟨d, starts⟩ := directive
    obtain ⟨rfl, ahead⟩ := startsDirective_iff.1 starts
    rw [lexeme, if_neg blank, if_neg (by simp), if_neg (by simp), if_pos rfl, ahead] at found
    simp only [length] at found
    cases found
    exact ⟨.directive d w, rest, whole, .directive (by rwa [whole]) toLineEnd, rfl, rfl⟩
  have bare : StartsBare c cs := ⟨by simpa using blank, ⟨line, block⟩, not_exists.1 directive⟩
  rw [bare.lexeme_eq] at found
  split at found
  · next dropped =>
    split at found
    · next quote =>
      subst quote
      rcases read : stringLexeme ('"' :: cs) with e | ⟨s, m⟩
      · rw [read] at found
        cases found
      · rw [read] at found
        cases found
        obtain ⟨w, rest, split, quoted, rfl⟩ := exists_isQuoted read
        exact ⟨.passed w, rest, split, .passedString dropped quoted, rfl, rfl⟩
    · next noQuote =>
      cases found
      exact ⟨.passed [c], cs, rfl, .passedChar dropped noQuote bare, rfl, rfl⟩
  · next kept =>
    rcases finds_tokenLexeme bare with ⟨kind, value, w, rest, split, spelled, same⟩ | ⟨e, same, -⟩
    · rw [same] at found
      cases found
      exact ⟨.token kind value w, rest, split, .token (by simpa using kept) spelled, rfl, rfl⟩
    · rw [same] at found
      cases found

end ViewModifiers.Interface
