import ViewModifiers.Proofs.Interface.Conditional

/-!
# The text of a dropped branch

In a dropped branch the scanner looks for directives only, and passes over comments and quoted
strings. A text that is scanned on its own can therefore be dropped as well, whatever comments,
strings and conditionals are in it, unless one of its tokens leaks: a raw string, an escaped name or
a run of operator characters is not taken for what it is there, so that a quote, a directive or the
start of a comment in it counts.
-/

namespace ViewModifiers.Interface

open Source Text

variable {c : Char} {cs ds rest : List Char}

/-! ## Lexemes in front of more text -/

/-- An occurrence of a pattern is found in front of more text as well. -/
theorem distanceTo_append {pattern : List Char} {n : Nat} (found : distanceTo pattern cs = some n)
    (more : List Char) :
    distanceTo pattern (cs ++ more) = some n ∧ n + pattern.length ≤ cs.length := by
  induction cs generalizing n with
  | nil =>
    rw [distanceTo] at found
    split at found
    · next none =>
      cases found
      rw [List.isEmpty_iff] at none
      subst none
      refine ⟨?_, Nat.le_refl 0⟩
      cases more <;> rfl
    · cases found
  | cons c cs ih =>
    rw [distanceTo] at found
    rw [List.cons_append, distanceTo]
    split at found
    · next here =>
      cases found
      rw [List.isPrefixOf_iff_prefix] at here
      have there : pattern.isPrefixOf (c :: (cs ++ more)) = true :=
        List.isPrefixOf_iff_prefix.2 (here.trans (List.prefix_append (c :: cs) more))
      rw [if_pos there]
      exact ⟨rfl, by simpa using here.length_le⟩
    · next notHere =>
      obtain ⟨m, later, rfl⟩ := Option.map_eq_some_iff.1 found
      obtain ⟨still, within⟩ := ih later
      have notThere : pattern.isPrefixOf (c :: (cs ++ more)) = false := by
        rw [← Bool.not_eq_true, List.isPrefixOf_iff_prefix]
        rw [List.isPrefixOf_iff_prefix] at notHere
        intro there
        refine notHere ?_
        -- The pattern is no longer than the text in which it is found further on.
        exact List.prefix_of_prefix_length_le there (List.prefix_append (c :: cs) more)
          (by rw [List.length_cons]; omega)
      rw [notThere, if_neg Bool.false_ne_true, still]
      exact ⟨rfl, by rw [List.length_cons]; omega⟩

theorem commentSize_append {depth size n : Nat} (read : commentSize depth size cs = .ok ((), n))
    (more : List Char) :
    commentSize depth size (cs ++ more) = .ok ((), n) ∧ n ≤ size + cs.length := by
  fun_induction commentSize depth size cs with
  | case1 depth size cs ih =>
    obtain ⟨still, within⟩ := ih read
    refine ⟨?_, by simp only [List.length_cons]; omega⟩
    rw [List.cons_append, List.cons_append, commentSize, still]
  | case2 depth size cs last =>
    cases read
    refine ⟨?_, by simp only [List.length_cons]; omega⟩
    rw [List.cons_append, List.cons_append, commentSize, if_pos last]
  | case3 depth size cs inner ih =>
    obtain ⟨still, within⟩ := ih read
    refine ⟨?_, by simp only [List.length_cons]; omega⟩
    rw [List.cons_append, List.cons_append, commentSize, if_neg inner, still]
  | case4 depth size c cs noOpening noClosing ih =>
    obtain ⟨still, within⟩ := ih read
    refine ⟨?_, by rw [List.length_cons]; omega⟩
    cases cs with
    | nil => cases read
    | cons d cs =>
      rw [List.cons_append, List.cons_append, commentSize]
      · exact still
      · rintro _ rfl ⟨⟩
        exact noOpening _ rfl rfl
      · rintro _ rfl ⟨⟩
        exact noClosing _ rfl rfl
  | case5 => cases read

theorem stringBody_ok_append {depth size n : Nat} {text : List Char} {s : String}
    (read : stringBody depth text size cs = .ok (s, n)) (more : List Char) :
    stringBody depth text size (cs ++ more) = .ok (s, n) ∧ n ≤ size + cs.length := by
  fun_induction stringBody depth text size cs with
  | case1 =>
    cases read
    exact ⟨rfl, by simp only [List.length_cons]; omega⟩
  | case3 _ _ _ ih | case4 _ _ _ ih | case5 _ _ _ ih =>
    obtain ⟨still, within⟩ := ih read
    exact ⟨still, by simp only [List.length_cons]; omega⟩
  | case6 text size c cs notN notT notOpen ih =>
    obtain ⟨still, within⟩ := ih read
    refine ⟨?_, by simp only [List.length_cons]; omega⟩
    rw [List.cons_append, List.cons_append, stringBody, still] <;> assumption
  | case7 text size c cs notQuote notNewline notN notT notOpen notEscape ih =>
    obtain ⟨still, within⟩ := ih read
    refine ⟨?_, by rw [List.length_cons]; omega⟩
    have plain : c ≠ '\\' := by
      rintro rfl
      cases cs with
      | nil => cases read
      | cons d cs => exact notEscape d cs rfl rfl
    rw [List.cons_append, stringBody, still] <;> simp_all
  | case10 depth _ _ _ _ ih | case11 depth _ _ _ _ _ ih =>
    obtain ⟨still, within⟩ := ih read
    exact ⟨still, by rw [List.length_cons]; omega⟩
  | case12 depth text size c cs notNewline notOpen notClose ih =>
    obtain ⟨still, within⟩ := ih read
    refine ⟨?_, by rw [List.length_cons]; omega⟩
    rw [List.cons_append, stringBody, if_neg notNewline, if_neg notOpen, if_neg notClose, still]
  | case2 | case8 | case9 | case13 => cases read

/-- A string is found in front of more text that starts with a line end. -/
theorem stringLexeme_append {n : Nat} {s : String} (read : stringLexeme ('"' :: cs) = .ok (s, n))
    (rest : List Char) :
    stringLexeme ('"' :: (cs ++ '\n' :: rest)) = .ok (s, n) ∧ n ≤ cs.length + 1 := by
  by_cases three : ∃ ds, cs = '"' :: '"' :: ds
  · obtain ⟨ds, rfl⟩ := three
    rw [stringLexeme] at read
    rw [List.cons_append, List.cons_append, stringLexeme]
    rcases found : distanceTo ['"', '"', '"'] ds with _ | m
    · rw [found] at read
      cases read
    · obtain ⟨still, within⟩ := distanceTo_append found ('\n' :: rest)
      rw [found] at read
      cases read
      have taken : (ds ++ '\n' :: rest).take m = ds.take m :=
        List.take_append_of_le_length (by omega)
      rw [still]
      simp only [List.length_cons, List.length_nil] at within ⊢
      exact ⟨by rw [taken], by omega⟩
  · have one (ds : List Char) (other : ¬∃ es, ds = '"' :: '"' :: es) :
        stringLexeme ('"' :: ds) = stringBody 0 [] 1 ds := by
      rw [stringLexeme]
      · rfl
      · rintro es same
        exact other ⟨es, (List.cons.inj same).2⟩
    have noThree : ¬∃ es, cs ++ '\n' :: rest = '"' :: '"' :: es := by
      rintro ⟨es, same⟩
      rcases cs with _ | ⟨d, _ | ⟨e, ds⟩⟩
      · cases same
      · cases same
      · simp only [List.cons_append, List.cons.injEq] at same
        exact three ⟨ds, by rw [same.1, same.2.1]⟩
    rw [one _ three] at read
    obtain ⟨still, within⟩ := stringBody_ok_append read ('\n' :: rest)
    rw [one _ noThree, still]
    exact ⟨rfl, by omega⟩

/-- The rest of a line in front of the line end. -/
theorem lineSize_append (cs rest : List Char) : lineSize (cs ++ '\n' :: rest) = lineSize cs := by
  rw [lineSize, takeWhile_line (by decide), lineSize]

theorem lineSize_le (cs : List Char) : lineSize cs ≤ cs.length :=
  (List.takeWhile_prefix _).length_le

theorem directiveAhead?_line (cs rest : List Char) :
    directiveAhead? (cs ++ '\n' :: rest) = directiveAhead? cs := by
  rw [directiveAhead?, takeWhile_line (by decide), directiveAhead?]

/-- What counts in every branch: separators, comments and directives. -/
def lexemeAnywhere? (c : Char) (cs : List Char) : Option (Found Lexeme) :=
  if isSeparator c then some (.ok (.blank, 1))
  else if c = '/' && cs.head? = some '/' then some (.ok (.blank, lineSize (c :: cs)))
  else if c = '/' && cs.head? = some '*' then
    some ((commentSize 0 0 (c :: cs)).map fun (_, n) => (.blank, n))
  else (if c = '#' then directiveAhead? cs else none).map fun d =>
    .ok (.directive d, lineSize (c :: cs))

/-- What is passed over at once in a dropped branch: a string, or a single character. -/
def lexemeDropped (c : Char) (cs : List Char) : Found Lexeme :=
  if c = '"' then (stringLexeme (c :: cs)).map fun (_, n) => (.blank, n) else .ok (.blank, 1)

/-- Only behind what counts everywhere does it matter whether a branch is dropped. -/
theorem lexeme_eq (dropping : Bool) (c : Char) (cs : List Char) :
    lexeme dropping c cs = (lexemeAnywhere? c cs).getD
      (if dropping then lexemeDropped c cs else tokenLexeme c cs) := by
  rw [lexeme, lexemeAnywhere?]
  split
  · rfl
  split
  · rfl
  split
  · rfl
  cases (if c = '#' then directiveAhead? cs else none) with
  | some d => rfl
  | none => rfl

theorem lexemeAnywhere?_ne_token {kind : TokenKind} {value : String} {n : Nat} :
    lexemeAnywhere? c cs ≠ some (.ok (.token kind value, n)) := by
  intro found
  rw [lexemeAnywhere?] at found
  split at found
  · cases found
  split at found
  · cases found
  split at found
  · rcases read : commentSize 0 0 (c :: cs) with e | ⟨⟨⟩, m⟩ <;> rw [read] at found <;> cases found
  · obtain ⟨d, -, found⟩ := Option.map_eq_some_iff.1 found
    cases found

/-- Comments and directives end by themselves or with the line. -/
theorem lexemeAnywhere?_append (whole : ∀ e, lexemeAnywhere? c cs ≠ some (.error e))
    (rest : List Char) : lexemeAnywhere? c (cs ++ '\n' :: rest) = lexemeAnywhere? c cs := by
  have next (d : Char) (other : '\n' ≠ d) :
      decide ((cs ++ '\n' :: rest).head? = some d) = decide (cs.head? = some d) := by
    cases cs with
    | nil => simp [other]
    | cons e cs => rfl
  rw [lexemeAnywhere?] at whole ⊢
  rw [lexemeAnywhere?, next '/' (by decide), next '*' (by decide), directiveAhead?_line,
    ← List.cons_append, lineSize_append]
  split
  · rfl
  rw [if_neg ‹_›] at whole
  split
  · rfl
  rw [if_neg ‹_›] at whole
  split
  · next comment =>
    rw [if_pos comment] at whole
    rcases read : commentSize 0 0 (c :: cs) with e | ⟨⟨⟩, m⟩
    · rw [read] at whole
      exact absurd rfl (whole e)
    · rw [(commentSize_append read ('\n' :: rest)).1]
  · rfl

theorem le_of_lexemeAnywhere? {l : Lexeme} {n : Nat}
    (found : lexemeAnywhere? c cs = some (.ok (l, n))) : n ≤ cs.length + 1 := by
  have line := lineSize_le (c :: cs)
  rw [lexemeAnywhere?] at found
  split at found
  · cases found
    omega
  split at found
  · cases found
    exact line
  split at found
  · rcases read : commentSize 0 0 (c :: cs) with e | ⟨⟨⟩, m⟩
    · rw [read] at found
      cases found
    · have within := (commentSize_append read []).2
      rw [read] at found
      cases found
      simpa using within
  · obtain ⟨d, -, found⟩ := Option.map_eq_some_iff.1 found
    cases found
    exact line

/-- What counts in a dropped branch ends by itself, if it does not end with the text. -/
theorem lexeme_dropping_append {l : Lexeme} {n : Nat} (found : lexeme true c cs = .ok (l, n))
    (rest : List Char) :
    lexeme true c (cs ++ '\n' :: rest) = .ok (l, n) ∧ n ≤ cs.length + 1 := by
  rw [lexeme_eq] at found ⊢
  rcases anywhere : lexemeAnywhere? c cs with _ | ahead
  · rw [lexemeAnywhere?_append (by rw [anywhere]; nofun), anywhere]
    rw [anywhere] at found
    simp only [Option.getD_none, if_true, lexemeDropped] at found ⊢
    split at found
    · next quote =>
      subst quote
      rw [if_pos rfl]
      rcases read : stringLexeme ('"' :: cs) with e | ⟨s, m⟩
      · rw [read] at found
        cases found
      · obtain ⟨still, within⟩ := stringLexeme_append read rest
        rw [read] at found
        cases found
        rw [still]
        exact ⟨rfl, within⟩
    · next noQuote =>
      cases found
      exact ⟨if_neg noQuote, by omega⟩
  · rw [anywhere, Option.getD_some] at found
    subst found
    rw [lexemeAnywhere?_append (by rw [anywhere]; nofun), anywhere]
    exact ⟨rfl, le_of_lexemeAnywhere? anywhere⟩

/-! ## Passing over -/

/-- Whether a comment seems to start within a token. -/
def opensComment : List Char → Bool
  | '/' :: '/' :: _ => true
  | '/' :: '*' :: _ => true
  | _ :: cs => opensComment cs
  | [] => false

/-- Whether a token may be taken for something else in a dropped branch: raw strings, escaped names
and operators in which a comment seems to start. -/
def mayLeak : List Char → Bool
  | '"' :: _ => false
  | '\x60' :: _ => true
  | '#' :: c :: _ => c = '"' || c = '#'
  | cs => opensComment cs

/-- Whether a dropped branch leads over a text in front of another one without meeting a directive
in it. The first argument counts the characters that belong to what was met last. -/
def passesOver : Nat → List Char → List Char → Bool
  | pending, [], _ => pending = 0
  | pending + 1, _ :: cs, rest => passesOver pending cs rest
  | 0, c :: cs, rest =>
    match lexeme true c (cs ++ rest) with
    | .ok (.blank, size) => passesOver (size - 1) cs rest
    | _ => false

theorem passesOver_cons {n : Nat} (found : lexeme true c (cs ++ rest) = .ok (.blank, n)) :
    passesOver 0 (c :: cs) rest = passesOver (n - 1) cs rest := by
  rw [passesOver, found]

theorem lexeme_dropping_plain (plain : c ∉ ['#', '"', '/']) (cs : List Char) :
    lexeme true c cs = .ok (.blank, 1) := by
  simp only [List.mem_cons, List.not_mem_nil, or_false, not_or] at plain
  simp [lexeme, plain]

/-- A slash is passed over unless a comment starts with it. -/
theorem lexeme_dropping_slash (noLine : cs.head? ≠ some '/') (noBlock : cs.head? ≠ some '*') :
    lexeme true '/' cs = .ok (.blank, 1) := by
  have plain : isSeparator '/' = false := by decide
  simp [lexeme, noLine, noBlock, plain]

theorem opensComment_tail (noComment : opensComment (c :: cs) = false) :
    opensComment cs = false := by
  rw [opensComment.eq_def] at noComment
  split at noComment
  · cases noComment
  · cases noComment
  · next same => rwa [(List.cons.inj same).2]
  · next same => cases same

theorem opensComment_slash (noComment : opensComment ('/' :: cs) = false) :
    cs.head? ≠ some '/' ∧ cs.head? ≠ some '*' := by
  cases cs with
  | nil => exact ⟨nofun, nofun⟩
  | cons d cs =>
    refine ⟨?_, ?_⟩
    · rintro ⟨⟩
      cases noComment
    · rintro ⟨⟩
      cases noComment

/-- Calm tokens are passed over, if no comment seems to start in them. -/
theorem IsCalm.passesOver {token : List Char} (calm : IsCalm token rest)
    (noComment : opensComment token = false) : passesOver 0 token rest = true := by
  induction token with
  | nil => rfl
  | cons c cs ih =>
    have later : IsCalm cs rest := by
      rcases calm with plain | ⟨run, ends⟩
      · exact .inl fun d there => plain d (List.mem_cons_of_mem c there)
      · exact .inr ⟨fun d there => run d (List.mem_cons_of_mem c there), ends⟩
    have blank : lexeme true c (cs ++ rest) = .ok (.blank, 1) := by
      by_cases slash : c = '/'
      · subst slash
        rcases calm with plain | ⟨-, ends⟩
        · exact absurd (plain '/' List.mem_cons_self) (by decide)
        · cases cs with
          | nil =>
            refine lexeme_dropping_slash (fun next => ?_) fun next => ?_
            · exact absurd (ends _ next) (by decide)
            · exact absurd (ends _ next) (by decide)
          | cons d cs =>
            obtain ⟨noLine, noBlock⟩ := opensComment_slash noComment
            exact lexeme_dropping_slash noLine noBlock
      · refine lexeme_dropping_plain (fun there => ?_) _
        rcases calm with plain | ⟨run, -⟩
        · exact plain c List.mem_cons_self there
        · have isRun := run c List.mem_cons_self
          simp only [List.mem_cons, List.not_mem_nil, or_false, slash] at there
          rcases there with rfl | rfl <;> exact absurd isRun (by decide)
    rw [passesOver_cons blank]
    exact ih later (opensComment_tail noComment)

theorem passesOver_length (cs rest : List Char) : passesOver cs.length cs rest = true := by
  induction cs with
  | nil => rfl
  | cons c cs ih => exact ih

/-- The scanner goes on behind a text that it passes over, whatever stands behind the line. -/
theorem run_of_passesOver {frames : List Conditional}
    (dropped : frames.head?.any (·.dropped) = true) {pending : Nat}
    (passes : passesOver pending cs rest = true) (more : List Char) (p : Position)
    (found : Array Token) :
    Scanner.run pending (cs ++ (rest ++ '\n' :: more)) ⟨p, frames, found⟩ =
      Scanner.run 0 (rest ++ '\n' :: more) ⟨p.after cs, frames, found⟩ := by
  induction cs generalizing pending p with
  | nil =>
    rw [passesOver, decide_eq_true_iff] at passes
    rw [passes]
    rfl
  | cons c cs ih =>
    cases pending with
    | succ pending => exact ih passes (p.next c)
    | zero =>
      rw [passesOver] at passes
      split at passes
      · next size blank =>
        have ahead := (lexeme_dropping_append blank more).1
        rw [List.append_assoc] at ahead
        rw [List.cons_append, Scanner.run, Scanner.dropping, dropped, ahead]
        exact ih passes (p.next c)
      · cases passes

/-! ## Tokens in a dropped branch -/

/-- Where nothing counts that counts in every branch, a text starts with something else. -/
theorem startsBare_of_lexemeAnywhere? (nothing : lexemeAnywhere? c cs = none) :
    StartsBare c cs := by
  rw [lexemeAnywhere?] at nothing
  split at nothing
  · cases nothing
  next noBlank =>
  split at nothing
  · cases nothing
  next noLine =>
  split at nothing
  · cases nothing
  next noBlock =>
  refine ⟨by simpa using noBlank, noComment_iff.2 ⟨?_, ?_⟩, fun d starts => ?_⟩
  · simpa using noLine
  · simpa using noBlock
  · obtain ⟨sharp, ahead⟩ := startsDirective_iff.1 starts
    rw [if_pos sharp, ahead] at nothing
    cases nothing

theorem exists_string_of_map {found : Found String} {l : Lexeme} {n : Nat}
    (read : (found.map fun (s, n) => (Lexeme.token .string s, n)) = .ok (l, n)) :
    ∃ s, found = .ok (s, n) ∧ l = .token .string s := by
  rcases found with e | ⟨s, m⟩
  · cases read
  · cases read
    exact ⟨s, rfl, rfl⟩

/-- A raw string has quotes, and as many sharp signs behind it as in front. -/
theorem le_of_rawStringLexeme {s : String} {n : Nat}
    (read : rawStringLexeme cs = .ok (s, n)) : 2 ≤ n := by
  rw [rawStringLexeme] at read
  split at read
  · cases read
  · cases read
    omega

/-- What a token is made of: it is a string, it may leak, it is a name behind a sharp sign, or it is
calm. -/
theorem tokenLexeme_ok {l : Lexeme} {n : Nat} (bare : StartsBare c cs)
    (found : tokenLexeme c cs = .ok (l, n)) :
    (∃ kind value, l = .token kind value) ∧
      ((∃ s, c = '"' ∧ stringLexeme ('"' :: cs) = .ok (s, n)) ∨
        mayLeak (c :: cs.take (n - 1)) = true ∨
        (c = '#' ∧ ∀ d ∈ cs.take (n - 1), d ∉ ['#', '"', '/']) ∨
        (c ∉ ['#', '"', '\x60'] ∧ IsCalm (c :: cs.take (n - 1)) (cs.drop (n - 1)))) := by
  by_cases sharp : c = '#'
  · subst sharp
    rw [tokenLexeme, if_pos rfl] at found
    split at found
    · next raw =>
      obtain ⟨s, read, rfl⟩ := exists_string_of_map found
      refine ⟨⟨_, _, rfl⟩, .inr (.inl ?_)⟩
      obtain ⟨m, rfl⟩ : ∃ m, n = m + 2 := ⟨n - 2, by have := le_of_rawStringLexeme read; omega⟩
      cases cs with
      | nil => simp at raw
      | cons d cs =>
        simp only [List.head?_cons, Option.some.injEq] at raw
        exact raw
    · cases found
      refine ⟨⟨_, _, rfl⟩, .inr (.inr (.inl ⟨rfl, fun d there => ?_⟩))⟩
      have name : cs.take (cs.takeWhile isNameChar).length = cs.takeWhile isNameChar :=
        List.prefix_iff_eq_take.1 (List.takeWhile_prefix _) |>.symm
      rw [List.length_cons, Nat.add_sub_cancel, name] at there
      exact not_mem_of_isNameChar (List.mem_takeWhile_imp there)
  by_cases quote : c = '"'
  · subst quote
    rw [tokenLexeme, if_neg sharp, if_pos rfl] at found
    obtain ⟨s, read, rfl⟩ := exists_string_of_map found
    exact ⟨⟨_, _, rfl⟩, .inl ⟨s, rfl, read⟩⟩
  by_cases escape : c = '\x60'
  · subst escape
    have noDigit : isDigit '\x60' = false := by decide
    rw [tokenLexeme, if_neg sharp, if_neg quote, if_neg (by simp [noDigit]), if_pos rfl,
      escapedName] at found
    split at found
    · cases found
      exact ⟨⟨_, _, rfl⟩, .inr (.inl rfl)⟩
    · cases found
  have plain : c ∉ ['#', '"', '\x60'] := by simp [sharp, quote, escape]
  rcases tokenLexeme_calm bare plain with stray | ⟨kind, ds, es, token, rfl, isCalm⟩
  · rw [stray] at found
    cases found
  · rw [token] at found
    cases found
    exact ⟨⟨_, _, rfl⟩, .inr (.inr (.inr ⟨plain, by simpa using isCalm⟩))⟩

/-- What is not a token counts in a dropped branch as it does elsewhere. -/
theorem lexeme_dropping_of_not_token {dropping : Bool} {l : Lexeme} {n : Nat}
    (found : lexeme dropping c cs = .ok (l, n)) (noToken : ∀ kind value, l ≠ .token kind value) :
    lexeme true c cs = .ok (l, n) := by
  cases dropping with
  | true => exact found
  | false =>
    rw [lexeme_eq] at found ⊢
    rcases anywhere : lexemeAnywhere? c cs with _ | ahead
    · rw [anywhere] at found
      obtain ⟨⟨kind, value, isToken⟩, -⟩ :=
        tokenLexeme_ok (startsBare_of_lexemeAnywhere? anywhere) found
      exact absurd isToken (noToken kind value)
    · rwa [anywhere] at found

/-- Where a token is found, the text starts with no blank, comment or directive. -/
theorem tokenLexeme_of_lexeme {kind : TokenKind} {value : String} {n : Nat}
    (found : lexeme false c cs = .ok (.token kind value, n)) :
    tokenLexeme c cs = .ok (.token kind value, n) ∧ lexemeAnywhere? c cs = none := by
  rw [lexeme_eq] at found
  rcases anywhere : lexemeAnywhere? c cs with _ | ahead
  · rw [anywhere] at found
    exact ⟨found, rfl⟩
  · rw [anywhere, Option.getD_some] at found
    exact absurd (anywhere.trans (congrArg some found)) lexemeAnywhere?_ne_token

theorem opensComment_of_plain (plain : ∀ c ∈ cs, c ∉ ['#', '"', '/']) :
    opensComment cs = false := by
  induction cs with
  | nil => rfl
  | cons c cs ih =>
    have noSlash : c ≠ '/' := fun slash => plain c List.mem_cons_self (by simp [slash])
    rw [opensComment]
    · exact ih fun d there => plain d (List.mem_cons_of_mem c there)
    · rintro _ rfl
      exact absurd rfl noSlash
    · rintro _ rfl
      exact absurd rfl noSlash

theorem mayLeak_of_plain (plain : c ∉ ['#', '"', '\x60']) (cs : List Char) :
    mayLeak (c :: cs) = opensComment (c :: cs) := by
  simp only [List.mem_cons, List.not_mem_nil, or_false, not_or] at plain
  rw [mayLeak] <;> simp [plain]

/-- A token that does not leak is passed over. -/
theorem passesOver_of_token {kind : TokenKind} {value : String} {n : Nat}
    (found : lexeme false c cs = .ok (.token kind value, n))
    (tight : mayLeak (c :: cs.take (n - 1)) = false) :
    passesOver 0 (c :: cs.take (n - 1)) (cs.drop (n - 1)) = true := by
  obtain ⟨isToken, nothing⟩ := tokenLexeme_of_lexeme found
  have whole : cs.take (n - 1) ++ cs.drop (n - 1) = cs := List.take_append_drop _ cs
  have dropped : lexeme true c cs = lexemeDropped c cs := by rw [lexeme_eq, nothing]; rfl
  obtain ⟨-, ⟨s, rfl, read⟩ | leaks | ⟨rfl, plain⟩ | ⟨plain, calm⟩⟩ :=
    tokenLexeme_ok (startsBare_of_lexemeAnywhere? nothing) isToken
  · have ahead : lexeme true '"' cs = .ok (.blank, n) := by
      rw [dropped, lexemeDropped, if_pos rfl, read]
      rfl
    have within : n - 1 ≤ cs.length := by
      have bound := (stringLexeme_append read []).2
      omega
    have length : (cs.take (n - 1)).length = n - 1 := List.length_take_of_le within
    have passed := passesOver_length (cs.take (n - 1)) (cs.drop (n - 1))
    rw [length] at passed
    rwa [passesOver_cons (n := n) (by rwa [whole])]
  · rw [leaks] at tight
    cases tight
  · have ahead : lexeme true '#' cs = .ok (.blank, 1) := dropped
    rw [passesOver_cons (n := 1) (by rwa [whole])]
    exact IsCalm.passesOver (.inl plain) (opensComment_of_plain plain)
  · rw [mayLeak_of_plain plain] at tight
    exact calm.passesOver tight

/-! ## Texts in a dropped branch -/

/-- The tokens that the scanner finds, as they are spelled, with the text behind each. The first
argument counts the characters that belong to what was found last. -/
def tokenTexts : Nat → List Char → Scanner → List (List Char × List Char)
  | _, [], _ => []
  | pending + 1, c :: cs, s => tokenTexts pending cs (s.step c)
  | 0, c :: cs, s =>
    match lexeme s.dropping c cs with
    | .error _ => []
    | .ok (l, size) =>
      match s.note l with
      | .error _ => []
      | .ok noted =>
        let later := tokenTexts (size - 1) cs (noted.step c)
        match l with
        | .token _ _ => (c :: cs.take (size - 1), cs.drop (size - 1)) :: later
        | _ => later

/-- No token of a text is taken for something else in a dropped branch. -/
def KeepsTight (texts : List (List Char × List Char)) : Prop :=
  ∀ t ∈ texts, mayLeak t.1 = true → passesOver 0 t.1 t.2 = true

/-- Characters that belong to what was found last are passed over. -/
theorem run_drop (pending : Nat) (cs : List Char) (s : Scanner) :
    Scanner.run pending cs s =
      Scanner.run 0 (cs.drop pending)
        { s with position := s.position.after (cs.take pending) } := by
  induction cs generalizing pending s with
  | nil => cases pending <;> rfl
  | cons c cs ih =>
    cases pending with
    | zero => rfl
    | succ pending => exact ih pending (s.step c)

theorem tokenTexts_drop (pending : Nat) (cs : List Char) (s : Scanner) :
    tokenTexts pending cs s =
      tokenTexts 0 (cs.drop pending) { s with position := s.position.after (cs.take pending) } := by
  induction cs generalizing pending s with
  | nil => cases pending <;> rfl
  | cons c cs ih =>
    cases pending with
    | zero => rfl
    | succ pending => exact ih pending (s.step c)

/-- The blocks that are open around a text when it is dropped: one more than when it is scanned on
its own, and all of them dropped. -/
def IsDroppedIn (own frames : List Conditional) : Prop :=
  frames.length = own.length + 1 ∧ ∀ f ∈ frames, f.dropped = true

variable {own frames : List Conditional}

theorem IsDroppedIn.exists_eq (dropped : IsDroppedIn own frames) :
    ∃ frame outer, frames = frame :: outer ∧ frame.dropped = true := by
  obtain ⟨length, all⟩ := dropped
  cases frames with
  | nil => cases length
  | cons frame outer => exact ⟨frame, outer, rfl, all frame List.mem_cons_self⟩

theorem IsDroppedIn.head? (dropped : IsDroppedIn own frames) :
    frames.head?.any (·.dropped) = true := by
  obtain ⟨frame, outer, rfl, isDropped⟩ := dropped.exists_eq
  exact isDropped

/-- A directive has the same effect on the blocks of a text when the text is dropped. -/
theorem exists_note_of_isDroppedIn {s noted : Scanner} {l : Lexeme} (note : s.note l = .ok noted)
    (noToken : ∀ kind value, l ≠ .token kind value) (dropped : IsDroppedIn s.conditionals frames)
    (p : Position) (found : Array Token) :
    ∃ frames', Scanner.note ⟨p, frames, found⟩ l = .ok ⟨p, frames', found⟩ ∧
      IsDroppedIn noted.conditionals frames' := by
  obtain ⟨frame, outer, rfl, isDropped⟩ := dropped.exists_eq
  obtain ⟨length, all⟩ := dropped
  rw [List.forall_mem_cons] at all
  rw [List.length_cons, Nat.add_right_cancel_iff] at length
  cases l with
  | token kind value => exact absurd rfl (noToken kind value)
  | blank =>
    cases note
    exact ⟨frame :: outer, rfl, by rw [List.length_cons, length], List.forall_mem_cons.2 all⟩
  | directive d =>
    cases d with
    | opening =>
      cases note
      refine ⟨_, rfl, by simp only [List.length_cons, length], ?_⟩
      exact List.forall_mem_cons.2 ⟨isDropped, List.forall_mem_cons.2 all⟩
    | alternative name =>
      rcases shape : s.conditionals with _ | ⟨first, rest⟩
      · rw [Scanner.note, shape] at note
        cases note
      · rw [Scanner.note, shape] at note
        cases note
        refine ⟨_, rfl, by simp [length, shape], List.forall_mem_cons.2 ⟨rfl, all.2⟩⟩
    | closing =>
      rcases shape : s.conditionals with _ | ⟨first, rest⟩
      · rw [Scanner.note, shape] at note
        cases note
      · rw [Scanner.note, shape] at note
        cases note
        refine ⟨outer, rfl, by simp [length, shape], all.2⟩
    | remark =>
      cases note
      exact ⟨frame :: outer, rfl, by rw [List.length_cons, length], List.forall_mem_cons.2 all⟩

theorem lexeme_dropping_ne_token {kind : TokenKind} {value : String} {n : Nat} :
    lexeme true c cs ≠ .ok (.token kind value, n) := by
  intro found
  rw [lexeme_eq] at found
  rcases anywhere : lexemeAnywhere? c cs with _ | ahead
  · rw [anywhere, Option.getD_none, if_pos rfl, lexemeDropped] at found
    split at found
    · rcases read : stringLexeme (c :: cs) with e | ⟨s, m⟩ <;> rw [read] at found <;> cases found
    · cases found
  · rw [anywhere, Option.getD_some] at found
    exact lexemeAnywhere?_ne_token (anywhere.trans (congrArg some found))

/-- What is left of a text to two scanners, of which one scans it on its own and the other one drops
it. -/
structure ScansBoth (stream : TokenStream) (cs : List Char) (s : Scanner)
    (frames : List Conditional) : Prop where
  scanned : Scanner.run 0 cs s = .ok stream
  tight : KeepsTight (tokenTexts 0 cs s)
  dropped : IsDroppedIn s.conditionals frames

variable {stream : TokenStream} {s noted : Scanner} {p : Position} {found : Array Token}

/-- The first step over a text: one lexeme to the scanner that keeps it, and a number of blanks to
the one that drops it. -/
def StepsOver (stream : TokenStream) (c : Char) (cs : List Char) (dropping : Scanner)
    (more : List Char) : Prop :=
  ∃ n s' frames', ScansBoth stream (cs.drop n) s' frames' ∧
    Scanner.run 0 (c :: cs ++ '\n' :: more) dropping =
      Scanner.run 0 (cs.drop n ++ '\n' :: more)
        ⟨dropping.position.after (c :: cs.take n), frames', dropping.tokens⟩

theorem stepsOver_token {kind : TokenKind} {value : String} {n : Nat} {s' : Scanner}
    (ahead : lexeme false c cs = .ok (.token kind value, n))
    (tight : mayLeak (c :: cs.take (n - 1)) = true →
      passesOver 0 (c :: cs.take (n - 1)) (cs.drop (n - 1)) = true)
    (later : ScansBoth stream (cs.drop (n - 1)) s' frames) (more : List Char) :
    StepsOver stream c cs ⟨p, frames, found⟩ more := by
  have passes : passesOver 0 (c :: cs.take (n - 1)) (cs.drop (n - 1)) = true := by
    rcases leaks : mayLeak (c :: cs.take (n - 1)) with _ | _
    · exact passesOver_of_token ahead leaks
    · exact tight leaks
  refine ⟨n - 1, s', frames, later, ?_⟩
  have here := run_of_passesOver later.dropped.head? passes more p found
  rwa [← List.append_assoc, List.cons_append, List.take_append_drop] at here

theorem stepsOver_other {l : Lexeme} {n : Nat} {s' : Scanner}
    (ahead : lexeme true c cs = .ok (l, n)) (noToken : ∀ kind value, l ≠ .token kind value)
    (note : s.note l = .ok noted) (dropped : IsDroppedIn s.conditionals frames)
    (later : ∀ frames', IsDroppedIn noted.conditionals frames' →
      ScansBoth stream (cs.drop (n - 1)) s' frames') (more : List Char) :
    StepsOver stream c cs ⟨p, frames, found⟩ more := by
  obtain ⟨there, within⟩ := lexeme_dropping_append ahead more
  obtain ⟨frames', noted', dropped'⟩ := exists_note_of_isDroppedIn note noToken dropped p found
  refine ⟨n - 1, s', frames', later frames' dropped', ?_⟩
  rw [List.cons_append, Scanner.run, Scanner.dropping, dropped.head?, there]
  simp only [noted']
  rw [run_drop, List.drop_append_of_le_length (by omega), List.take_append_of_le_length (by omega)]
  rfl

theorem ScansBoth.stepsOver (both : ScansBoth stream (c :: cs) s frames) (p : Position)
    (found : Array Token) (more : List Char) : StepsOver stream c cs ⟨p, frames, found⟩ more := by
  obtain ⟨scanned, tight, dropped⟩ := both
  rw [Scanner.run] at scanned
  rw [tokenTexts] at tight
  rcases ahead : lexeme s.dropping c cs with e | ⟨l, n⟩
  · rw [ahead] at scanned
    cases scanned
  rcases note : s.note l with e | noted
  · simp only [ahead, note] at scanned
    cases scanned
  simp only [ahead, note] at scanned tight
  rw [run_drop] at scanned
  rw [tokenTexts_drop] at tight
  cases l with
  | token kind value =>
    obtain ⟨first, rest⟩ := List.forall_mem_cons.1 tight
    cases note
    have kept : s.dropping = false := by
      rw [← Bool.not_eq_true]
      intro drops
      rw [drops] at ahead
      exact lexeme_dropping_ne_token ahead
    rw [kept] at ahead
    exact stepsOver_token ahead first ⟨scanned, rest, dropped⟩ more
  | blank | directive =>
    have same := lexeme_dropping_of_not_token ahead fun _ _ isToken => by cases isToken
    exact stepsOver_other same (fun _ _ isToken => by cases isToken) note dropped
      (fun _ dropped' => ⟨scanned, tight, dropped'⟩) more

/-- A text that is scanned on its own is passed over when it is dropped. -/
theorem ScansBoth.exists_run (both : ScansBoth stream cs s frames) (p : Position)
    (found : Array Token) (more : List Char) :
    ∃ frame, Scanner.run 0 (cs ++ '\n' :: more) ⟨p, frames, found⟩ =
      Scanner.run 0 ('\n' :: more) ⟨p.after cs, [frame], found⟩ := by
  induction size : cs.length using Nat.strongRecOn generalizing cs s frames p with
  | ind bound ih =>
    cases cs with
    | nil =>
      have closed := both.scanned
      rw [Scanner.run, Scanner.finish] at closed
      split at closed
      · next none =>
        have length := both.dropped.1
        rw [none, List.length_nil, Nat.zero_add, List.length_eq_one_iff] at length
        obtain ⟨frame, rfl⟩ := length
        exact ⟨frame, rfl⟩
      · cases closed
    | cons c cs =>
      obtain ⟨n, s', frames', later, step⟩ := both.stepsOver p found more
      have shorter : (cs.drop n).length < bound := by
        rw [← size, List.length_drop, List.length_cons]
        omega
      obtain ⟨frame, passed⟩ := ih _ shorter later (p.after (c :: cs.take n)) rfl
      refine ⟨frame, step.trans (passed.trans ?_)⟩
      rw [← Position.after_append, List.cons_append, List.take_append_drop]

/-! ## A block around a text -/

/-- A line with nothing behind the name of its directive. -/
def bareLine : DirectiveLine := ⟨[], [], nofun, nofun, nofun⟩

/-- A line with a condition behind the name of its directive. -/
def conditionLine : DirectiveLine where
  indent := []
  behind := [' ', 'A']
  blank := nofun
  apart := by
    rintro c ⟨⟩
    rfl
  oneLine := by decide

/-- A text in the second branch of a block. -/
def inDroppedBranch (text : String) : String := "#if A\n#else\n" ++ text ++ "\n#endif\n"

theorem toList_inDroppedBranch (text : String) : (inDroppedBranch text).toList =
    conditionLine.text "if" ++ '\n' :: (bareLine.text "else" ++ '\n' ::
      (text.toList ++ '\n' :: (bareLine.text "endif" ++ ['\n']))) := by
  rw [inDroppedBranch, String.toList_append, String.toList_append, List.append_assoc]
  rfl

/-- **A dropped branch is inert**, whatever comments, strings and conditionals are in it: a text
that is scanned on its own is scanned as nothing in the second branch of a block, if those of its
tokens that may leak are passed over. -/
theorem scan_inDroppedBranch {text : String} (scanned : scan text = .ok stream)
    (tight : KeepsTight (tokenTexts 0 text.toList .initial)) :
    scan (inDroppedBranch text) =
      .ok ⟨[], Position.start.after (inDroppedBranch text).toList⟩ := by
  obtain ⟨frame, -, opened⟩ := run_if conditionLine .start [] #[]
  have letters : ∀ c ∈ "else".toList, isLetter c = true := List.all_eq_true.1 (by decide)
  have both : ScansBoth stream text.toList .initial [{ frame with dropped := true }] :=
    ⟨scanned, tight, rfl, List.forall_mem_singleton.2 rfl⟩
  obtain ⟨frame', passed⟩ := both.exists_run
    ((Position.start.after (conditionLine.text "if" ++ ['\n'])).after
      (bareLine.text "else" ++ ['\n'])) #[] (bareLine.text "endif" ++ ['\n'])
  rw [scan, toList_inDroppedBranch, Scanner.initial, opened, run_alternative bareLine rfl letters,
    passed, run_newline, run_endif]
  simp only [← Position.after_append, List.append_assoc, List.cons_append, List.nil_append]
  rfl

/-- A text with an escaped name, a raw string that looks like a directive, and a block in which a
string and a comment look like each other. -/
def mixedText : String := "\x60b\x60 = #\"#endif\"#\n#if B // \"\n\"/*\" += 1\n#endif"

theorem keepsTight_mixedText : KeepsTight (tokenTexts 0 mixedText.toList .initial) := by
  unfold KeepsTight
  decide +kernel

theorem exists_scan_mixedText : ∃ stream, scan mixedText = .ok stream := ⟨_, rfl⟩

theorem scan_mixedText_inDroppedBranch :
    (∃ stream, scan mixedText = .ok stream) ∧
      KeepsTight (tokenTexts 0 mixedText.toList .initial) ∧
      scan (inDroppedBranch mixedText) =
        .ok ⟨[], Position.start.after (inDroppedBranch mixedText).toList⟩ := by
  obtain ⟨stream, scanned⟩ := exists_scan_mixedText
  exact ⟨⟨stream, scanned⟩, keepsTight_mixedText,
    scan_inDroppedBranch scanned keepsTight_mixedText⟩

/-- A raw string with a quote in it. -/
def rawText : String := "let width = #\"5\" screen\"#"

/-- A raw string leaks: a quote in it starts a string of its own, which does not end. -/
theorem not_scan_inDroppedBranch :
    ¬∀ (text : String) (stream : TokenStream), scan text = .ok stream →
      ∃ finish, scan (inDroppedBranch text) = .ok ⟨[], finish⟩ := by
  intro claim
  obtain ⟨stream, scanned⟩ : ∃ stream, scan rawText = .ok stream := ⟨_, rfl⟩
  obtain ⟨finish, dropped⟩ := claim rawText stream scanned
  have fault : (scan (inDroppedBranch rawText)).isOk = false := by decide +kernel
  rw [dropped] at fault
  cases fault

end ViewModifiers.Interface
