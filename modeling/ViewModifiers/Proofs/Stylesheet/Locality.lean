import ViewModifiers.Proofs.Stylesheet.Alongside
import ViewModifiers.Proofs.Stylesheet.Piece

/-!
# Lexemes and what stands behind them

No lexeme but a string goes on over a closing bracket or brace, and a string ends with its quote. So
a text whose last token is a closing bracket or brace has the same tokens in front of any other text
(`scansAs_of_scanFrom`).
-/

namespace ViewModifiers.Stylesheet

open Source Text

variable {c : Char} {cs ds rest mark : List Char} {l : Lexeme} {size : Nat}

/-! ## Closing characters -/

/-- A closing bracket or brace. -/
def isClosing (c : Char) : Bool := c = ']' || c = '\x7d'

/-- A closing bracket or brace is among some characters. -/
def HasClosing (cs : List Char) : Prop := ∃ c ∈ cs, isClosing c = true

theorem not_hasClosing_nil : ¬HasClosing [] := nofun

theorem hasClosing_append_iff : HasClosing (cs ++ ds) ↔ HasClosing cs ∨ HasClosing ds := by
  simp only [HasClosing, List.mem_append, or_and_right, exists_or]

theorem hasClosing_cons_iff : HasClosing (c :: cs) ↔ isClosing c = true ∨ HasClosing cs := by
  simp only [HasClosing, List.mem_cons, or_and_right, exists_or, exists_eq_left]

theorem not_hasClosing_of_all (none : cs.all (fun c => !isClosing c) = true) : ¬HasClosing cs := by
  rintro ⟨c, there, closes⟩
  have isOpen := List.all_eq_true.1 none c there
  rw [closes] at isOpen
  cases isOpen

theorem HasClosing.tail (closing : HasClosing (c :: cs)) (other : isClosing c = false) :
    HasClosing cs := by
  rcases hasClosing_cons_iff.1 closing with first | later
  · rw [other] at first
    cases first
  · exact later

/-- A class of characters has neither of the closing ones. -/
def Excludes (p : Char → Bool) : Prop := ∀ c, p c = true → isClosing c = false

theorem excludes_of_false {p : Char → Bool} (bracket : p ']' = false) (brace : p '\x7d' = false) :
    Excludes p := by
  intro c isIn
  by_contra closes
  rw [Bool.not_eq_false, isClosing, Bool.or_eq_true, decide_eq_true_eq, decide_eq_true_eq] at closes
  rcases closes with rfl | rfl
  · rw [bracket] at isIn
    cases isIn
  · rw [brace] at isIn
    cases isIn

theorem excludes_isDecimal : Excludes isDecimal := excludes_of_false (by decide) (by decide)

theorem excludes_startsName : Excludes startsName := excludes_of_false (by decide) (by decide)

theorem excludes_continuesName : Excludes continuesName :=
  excludes_of_false (by decide) (by decide)

theorem excludes_continuesAtom : Excludes continuesAtom :=
  excludes_of_false (by decide) (by decide)

/-! ## What is taken from the front of a text -/

/-- What is taken from the front of a text stops before the first closing character, and what stands
behind the text does not matter. -/
structure StopsIn (take : List Char → List Char) (cs : List Char) : Prop where
  front : take cs <+: cs
  noneClosing : ¬HasClosing (take cs)
  same : ∀ rest, take (cs ++ rest) = take cs

variable {take take' : List Char → List Char}

theorem StopsIn.length_le (stops : StopsIn take cs) : (take cs).length ≤ cs.length :=
  stops.front.length_le

theorem StopsIn.split (stops : StopsIn take cs) : take cs ++ cs.drop (take cs).length = cs :=
  List.prefix_iff_eq_append.1 stops.front

theorem StopsIn.hasClosing_drop (stops : StopsIn take cs) (closing : HasClosing cs) :
    HasClosing (cs.drop (take cs).length) := by
  rw [← stops.split] at closing
  exact (hasClosing_append_iff.1 closing).resolve_left stops.noneClosing

/-- One thing is taken behind another one. -/
theorem StopsIn.behind (first : StopsIn take cs)
    (second : StopsIn take' (cs.drop (take cs).length)) :
    StopsIn (fun cs => take cs ++ take' (cs.drop (take cs).length)) cs where
  front := by
    obtain ⟨left, split⟩ := second.front
    refine ⟨left, ?_⟩
    rw [List.append_assoc, split, first.split]
  noneClosing := by
    rw [hasClosing_append_iff]
    exact not_or.2 ⟨first.noneClosing, second.noneClosing⟩
  same := by
    intro rest
    rw [first.same, List.drop_append_of_le_length first.length_le, second.same]

theorem stopsIn_takeWhile {p : Char → Bool} (excludes : Excludes p) (closing : HasClosing cs) :
    StopsIn (List.takeWhile p) cs where
  front := List.takeWhile_prefix p
  noneClosing := by
    rintro ⟨c, there, closes⟩
    rw [excludes c (List.mem_takeWhile_imp there)] at closes
    cases closes
  same := by
    intro rest
    rw [List.takeWhile_append, if_neg]
    intro full
    obtain ⟨c, there, closes⟩ := closing
    rw [← (List.takeWhile_prefix p).eq_of_length full] at there
    rw [excludes c (List.mem_takeWhile_imp there)] at closes
    cases closes

/-! ## Numbers -/

/-- Two parts of the scanner that take the same from a text, whatever stands behind it. -/
theorem StopsIn.congr (stops : StopsIn take cs)
    (same : ∀ rest, take' (cs ++ rest) = take (cs ++ rest)) : StopsIn take' cs := by
  have here : take' cs = take cs := by
    have here := same []
    rwa [List.append_nil] at here
  refine ⟨here ▸ stops.front, here ▸ stops.noneClosing, fun rest => ?_⟩
  rw [same, stops.same, here]

theorem stopsIn_nothing (cs : List Char) : StopsIn (fun _ => []) cs where
  front := List.nil_prefix
  noneClosing := not_hasClosing_nil
  same := fun _ => rfl

/-- A mark is taken together with what is taken behind it, if that is something. -/
theorem stopsIn_marked (mark ds : List Char) (split : cs = mark ++ ds)
    (noneClosing : ¬HasClosing mark) (stops : StopsIn take' ds)
    (marked : ∀ rest, take (cs ++ rest) =
      if (take' (ds ++ rest)).isEmpty then [] else mark ++ take' (ds ++ rest)) :
    StopsIn take cs := by
  have same (rest : List Char) :
      take (cs ++ rest) = if (take' ds).isEmpty then [] else mark ++ take' ds := by
    rw [marked, stops.same]
  have here : take cs = if (take' ds).isEmpty then [] else mark ++ take' ds := by
    have here := same []
    rwa [List.append_nil] at here
  refine ⟨?_, ?_, fun rest => (same rest).trans here.symm⟩
  · rw [here, split]
    split
    · exact List.nil_prefix
    · exact (List.prefix_append_right_inj mark).2 stops.front
  · rw [here]
    split
    · exact not_hasClosing_nil
    · rw [hasClosing_append_iff]
      exact not_or.2 ⟨noneClosing, stops.noneClosing⟩

theorem stopsIn_digitsAhead (closing : HasClosing cs) : StopsIn digitsAhead cs :=
  stopsIn_takeWhile excludes_isDecimal closing

theorem stopsIn_fractionAhead (closing : HasClosing cs) : StopsIn fractionAhead cs := by
  cases cs with
  | nil => exact (not_hasClosing_nil closing).elim
  | cons c cs =>
    by_cases isPoint : c = '.'
    · subst isPoint
      exact stopsIn_marked ['.'] cs rfl (not_hasClosing_of_all (by decide))
        (stopsIn_digitsAhead (closing.tail (by decide))) fun _ => rfl
    · refine (stopsIn_nothing _).congr fun rest => ?_
      rw [List.cons_append, fractionAhead]
      intro ds split
      exact isPoint (List.head_eq_of_cons_eq split)

/-- An exponent with its letter and its sign, if it has one, in front of the digits. -/
theorem stopsIn_exponentBehind {e : Char} (isLetter : e = 'e' ∨ e = 'E') (sign : List Char)
    (isSign : sign ∈ [['+'], ['-'], []]) (closing : HasClosing ds)
    (reads : ∀ rest, exponentAhead (e :: sign ++ ds ++ rest) =
      markedDigits (e :: sign) (ds ++ rest)) : StopsIn exponentAhead (e :: sign ++ ds) := by
  refine stopsIn_marked (e :: sign) ds rfl (not_hasClosing_of_all ?_) (stopsIn_digitsAhead closing)
    reads
  simp only [List.mem_cons, List.not_mem_nil, or_false] at isSign
  rcases isLetter with rfl | rfl <;> rcases isSign with rfl | rfl | rfl <;> decide

theorem stopsIn_exponentAhead (closing : HasClosing cs) : StopsIn exponentAhead cs := by
  cases cs with
  | nil => exact (not_hasClosing_nil closing).elim
  | cons e cs =>
    by_cases isLetter : e = 'e' ∨ e = 'E'
    · have letter : (e = 'e' || e = 'E') = true := by simpa using isLetter
      have later : HasClosing cs := by
        rcases isLetter with rfl | rfl
        · exact closing.tail (by decide)
        · exact closing.tail (by decide)
      cases cs with
      | nil => exact (not_hasClosing_nil later).elim
      | cons d ds =>
        by_cases isPlus : d = '+'
        · subst isPlus
          exact stopsIn_exponentBehind isLetter ['+'] (by decide) (later.tail (by decide))
            fun rest => if_pos letter
        · by_cases isMinus : d = '-'
          · subst isMinus
            exact stopsIn_exponentBehind isLetter ['-'] (by decide) (later.tail (by decide))
              fun rest => if_pos letter
          · refine stopsIn_exponentBehind isLetter [] (by decide) later fun rest => ?_
            rw [List.cons_append, List.nil_append, List.cons_append, List.cons_append,
              exponentAhead, if_pos letter]
            · exact fun _ split => isPlus (List.head_eq_of_cons_eq split)
            · exact fun _ split => isMinus (List.head_eq_of_cons_eq split)
    · refine (stopsIn_nothing _).congr fun rest => ?_
      rw [List.cons_append, exponentAhead.eq_def]
      exact if_neg (by simpa using isLetter)

theorem stopsIn_magnitudeAhead (closing : HasClosing cs) : StopsIn magnitudeAhead cs := by
  have whole := stopsIn_digitsAhead closing
  have fraction := whole.behind (stopsIn_fractionAhead (whole.hasClosing_drop closing))
  have parts := fraction.behind (stopsIn_exponentAhead (fraction.hasClosing_drop closing))
  by_cases none : (digitsAhead cs).isEmpty = true
  · refine (stopsIn_nothing _).congr fun rest => ?_
    unfold magnitudeAhead
    rw [whole.same]
    exact if_pos none
  · refine parts.congr fun rest => ?_
    unfold magnitudeAhead
    rw [List.length_append, whole.same]
    exact if_neg none

theorem stopsIn_numberAhead (closing : HasClosing cs) : StopsIn numberAhead cs := by
  cases cs with
  | nil => exact (not_hasClosing_nil closing).elim
  | cons c cs =>
    by_cases isMinus : c = '-'
    · subst isMinus
      exact stopsIn_marked ['-'] cs rfl (not_hasClosing_of_all (by decide))
        (stopsIn_magnitudeAhead (closing.tail (by decide))) fun _ => rfl
    · refine (stopsIn_magnitudeAhead closing).congr fun rest => ?_
      rw [List.cons_append, numberAhead]
      intro ds split
      exact isMinus (List.head_eq_of_cons_eq split)

/-! ## Strings -/

/-- A string that ends in a text is the same in front of any other text. -/
theorem stringBody_append {value : List Char} (body : stringBody cs = some (value, size)) :
    size ≤ cs.length ∧ ∀ rest, stringBody (cs ++ rest) = some (value, size) := by
  induction cs using stringBody.induct generalizing value size with
  | case1 cs =>
    cases body
    exact ⟨by simp, fun _ => rfl⟩
  | case2 cs => cases body
  | case3 cs => cases body
  | case4 c cs notLine ih =>
    rw [stringBody] at body
    · obtain ⟨⟨v, n⟩, inner, made⟩ := Option.map_eq_some_iff.1 body
      cases made
      obtain ⟨le, same⟩ := ih inner
      refine ⟨by simpa using le, fun rest => ?_⟩
      rw [List.cons_append, List.cons_append, stringBody, same]
      · rfl
      · exact notLine
    · exact notLine
  | case5 => cases body
  | case6 c cs notQuote notLine _ notEscape notLast ih =>
    have plain := plain_of_stringBody notQuote notLine notEscape notLast
    rw [stringBody_cons plain] at body
    obtain ⟨⟨v, n⟩, inner, made⟩ := Option.map_eq_some_iff.1 body
    cases made
    obtain ⟨le, same⟩ := ih inner
    refine ⟨by simpa using le, fun rest => ?_⟩
    rw [List.cons_append, stringBody_cons plain, same]
    rfl
  | case7 => cases body

/-! ## Lexemes -/

variable {kind : TokenKind} {value : String}

/-- A token is one of four kinds, or its first character is a sign. -/
theorem kind_of_lexeme (ahead : lexeme c cs = some (.token kind value, size)) :
    kind ∈ [.number, .string, .name, .atom] ∨ TokenKind.ofSign? c = some kind := by
  rw [lexeme] at ahead
  split at ahead
  · cases ahead
  · split at ahead
    next =>
      cases ahead
      exact .inl (by decide)
    next =>
      split at ahead
      · obtain ⟨_, -, made⟩ := Option.map_eq_some_iff.1 ahead
        cases made
        exact .inl (by decide)
      · split at ahead
        · cases ahead
          exact .inl (by decide)
        · split at ahead
          · cases ahead
            exact .inl (by decide)
          · obtain ⟨sign, isSign, made⟩ := Option.map_eq_some_iff.1 ahead
            cases made
            exact .inr isSign

/-- Only a closing character is scanned as a closing bracket or brace. -/
theorem isClosing_of_lexeme (ahead : lexeme c cs = some (.token kind value, size))
    (closes : kind = .closeBracket ∨ kind = .closeBrace) : isClosing c = true := by
  rcases kind_of_lexeme ahead with other | isSign
  · rcases closes with rfl | rfl
    · exact absurd other (by decide)
    · exact absurd other (by decide)
  · rw [TokenKind.ofSign?.eq_def] at isSign
    split at isSign <;> cases isSign <;> first | rfl | exact absurd closes (by decide)

/-- The end of a text is no lexeme. -/
theorem ne_endOfText_of_lexeme (ahead : lexeme c cs = some (.token kind value, size)) :
    kind ≠ .endOfText := by
  rintro rfl
  rcases kind_of_lexeme ahead with other | isSign
  · exact absurd other (by decide)
  · rw [TokenKind.ofSign?.eq_def] at isSign
    split at isSign <;> cases isSign

theorem lexeme_of_blank (blank : isBlank c = true) (cs : List Char) :
    lexeme c cs = some (.blank, 1) := if_pos blank

/-- Only a blank character is scanned as no token. -/
theorem isBlank_of_lexeme (ahead : lexeme c cs = some (.blank, size)) : isBlank c = true := by
  by_contra other
  rw [lexeme, if_neg other] at ahead
  split at ahead
  · cases ahead
  · split at ahead
    · obtain ⟨_, -, made⟩ := Option.map_eq_some_iff.1 ahead
      cases made
    · split at ahead
      · cases ahead
      · split at ahead
        · cases ahead
        · obtain ⟨_, -, made⟩ := Option.map_eq_some_iff.1 ahead
          cases made

theorem stringAhead?_append {s : String} (found : stringAhead? cs = some (s, size)) :
    size ≤ cs.length ∧ ∀ rest, stringAhead? (cs ++ rest) = some (s, size) := by
  rw [stringAhead?.eq_def] at found
  split at found
  · next ds =>
    obtain ⟨⟨v, n⟩, body, made⟩ := Option.map_eq_some_iff.1 found
    cases made
    obtain ⟨le, same⟩ := stringBody_append body
    refine ⟨by simpa using le, fun rest => ?_⟩
    rw [List.cons_append, stringAhead?, same]
    rfl
  · cases found

/-- An atom is the same in front of any other text, and so is that there is none, unless a string is
left open. -/
theorem atomAhead?_append (closing : HasClosing cs)
    (terminated : cs.head? = some '"' → (stringAhead? cs).isSome) :
    (∀ s n, atomAhead? cs = some (s, n) → n ≤ cs.length) ∧
      ∀ rest, atomAhead? (cs ++ rest) = atomAhead? cs := by
  cases cs with
  | nil => exact (not_hasClosing_nil closing).elim
  | cons d ds =>
    by_cases starts : startsName d = true
    · have stops : StopsIn (List.takeWhile continuesAtom) ds :=
        stopsIn_takeWhile excludes_continuesAtom (closing.tail (excludes_startsName d starts))
      have found (ds : List Char) : atomAhead? (d :: ds) =
          some (String.ofList (d :: ds.takeWhile continuesAtom),
            (d :: ds.takeWhile continuesAtom).length) := if_pos starts
      refine ⟨fun s n atom => ?_, fun rest => ?_⟩
      · rw [found] at atom
        cases atom
        exact Nat.succ_le_succ stops.length_le
      · rw [List.cons_append, found, found, stops.same]
    · have string (ds : List Char) : atomAhead? (d :: ds) = stringAhead? (d :: ds) := if_neg starts
      rw [List.head?_cons, Option.some.injEq] at terminated
      refine ⟨fun s n atom => ?_, fun rest => ?_⟩
      · rw [string] at atom
        exact (stringAhead?_append atom).1
      rw [List.cons_append, string, string]
      by_cases quoted : d = '"'
      · subst quoted
        obtain ⟨⟨s, n⟩, found⟩ := Option.isSome_iff_exists.1 (terminated rfl)
        rw [found]
        exact (stringAhead?_append found).2 rest
      · have none (ds : List Char) : stringAhead? (d :: ds) = none := by
          rw [stringAhead?]
          exact fun _ split => quoted (List.head_eq_of_cons_eq split)
        rw [none, none]

/-- A lexeme of a text with a closing character is the same in front of any other text, unless it is
a colon in front of a string that is left open. -/
theorem lexeme_append (ahead : lexeme c cs = some (l, size)) (closing : HasClosing (c :: cs))
    (terminated : c = ':' → cs.head? = some '"' → (stringAhead? cs).isSome) (rest : List Char) :
    size ≤ cs.length + 1 ∧ lexeme c (cs ++ rest) = some (l, size) := by
  have number := stopsIn_numberAhead closing
  have same : numberAhead (c :: (cs ++ rest)) = numberAhead (c :: cs) := number.same rest
  by_cases blank : isBlank c = true
  · rw [lexeme_of_blank blank] at ahead ⊢
    cases ahead
    exact ⟨Nat.le_add_left 1 _, rfl⟩
  rw [lexeme, if_neg blank] at ahead ⊢
  rw [same]
  by_cases numeric : (!(numberAhead (c :: cs)).isEmpty) = true
  · rw [if_pos numeric] at ahead ⊢
    cases ahead
    exact ⟨number.length_le, rfl⟩
  rw [if_neg numeric] at ahead ⊢
  by_cases quote : c = '"'
  · rw [if_pos quote] at ahead ⊢
    obtain ⟨⟨s, n⟩, found, made⟩ := Option.map_eq_some_iff.1 ahead
    cases made
    obtain ⟨le, same⟩ := stringAhead?_append found
    refine ⟨le, ?_⟩
    rw [← List.cons_append, same]
    rfl
  rw [if_neg quote] at ahead ⊢
  by_cases starts : startsName c = true
  · rw [if_pos starts] at ahead ⊢
    have later := closing.tail (excludes_startsName c starts)
    have stops := stopsIn_takeWhile excludes_continuesName later
    cases ahead
    refine ⟨Nat.succ_le_succ stops.length_le, ?_⟩
    rw [stops.same]
    rfl
  rw [if_neg starts] at ahead ⊢
  have sign {l : Lexeme} {size : Nat} (isSign : signAhead? c = some (l, size)) : size = 1 := by
    obtain ⟨_, -, made⟩ := Option.map_eq_some_iff.1 isSign
    cases made
    rfl
  by_cases isColon : c = ':'
  · subst isColon
    obtain ⟨le, same⟩ := atomAhead?_append (closing.tail (by decide)) (terminated rfl)
    rw [if_pos rfl] at ahead ⊢
    rw [same]
    refine ⟨?_, ahead⟩
    split at ahead
    · next atom =>
      cases ahead
      exact Nat.succ_le_succ (le _ _ atom)
    · rw [sign ahead]
      exact Nat.le_add_left 1 _
  · rw [if_neg isColon] at ahead ⊢
    refine ⟨?_, ahead⟩
    rw [sign ahead]
    exact Nat.le_add_left 1 _

/-! ## Texts -/

/-- The last of some tokens, if there is any, is a closing bracket or brace. -/
def ClosedOff (ts : List Token) : Prop :=
  ∀ t, ts.getLast? = some t → t.kind = .closeBracket ∨ t.kind = .closeBrace

theorem ClosedOff.of_append {ts us : List Token} (closed : ClosedOff (ts ++ us)) :
    ClosedOff us := by
  intro t last
  apply closed
  rw [List.getLast?_append, last]
  rfl

/-- In front of any text, wherever it stands, characters are scanned as certain tokens, in places
that may differ. The first of the characters may belong to the lexeme before them. -/
def ScansAs (pending : Nat) (cs : List Char) (ts : List Token) : Prop :=
  ∀ (rest : List Char) (p : Position) (found : List Token), ∃ us : List Token,
    us.map Token.content = ts.map Token.content ∧
      scanFrom pending (cs ++ rest) p found = scanFrom 0 rest (p.after cs) (us.reverse ++ found)

variable {pending : Nat} {ts us : List Token} {p : Position} {found : List Token} {final : Cursor}

theorem scansAs_nil : ScansAs 0 [] [] := fun _ _ _ => ⟨[], rfl, rfl⟩

theorem ScansAs.pass (scans : ScansAs pending cs ts) (c : Char) :
    ScansAs (pending + 1) (c :: cs) ts :=
  fun rest p found => scans rest (p.next c) found

theorem content_tokens (l : Lexeme) (p q : Position) :
    (l.tokens p).map Token.content = (l.tokens q).map Token.content := by
  cases l <;> rfl

theorem ScansAs.lexeme (scans : ScansAs (size - 1) cs ts)
    (ahead : ∀ rest, Stylesheet.lexeme c (cs ++ rest) = some (l, size)) (p : Position) :
    ScansAs 0 (c :: cs) (l.tokens p ++ ts) := by
  intro rest q found
  obtain ⟨us, same, run⟩ := scans rest (q.next c) (l.tokens q ++ found)
  refine ⟨l.tokens q ++ us, ?_, ?_⟩
  · rw [List.map_append, List.map_append, content_tokens l q p, same]
  · rw [List.cons_append, scanFrom, ahead]
    refine run.trans ?_
    rw [List.reverse_append, tokens_reverse, List.append_assoc]
    rfl

theorem ScansAs.append (first : ScansAs pending cs ts) (second : ScansAs 0 ds us) :
    ScansAs pending (cs ++ ds) (ts ++ us) := by
  intro rest p found
  obtain ⟨ts', same, run⟩ := first (ds ++ rest) p found
  obtain ⟨us', same', run'⟩ := second rest (p.after cs) (ts'.reverse ++ found)
  refine ⟨ts' ++ us', ?_, ?_⟩
  · rw [List.map_append, List.map_append, same, same']
  · rw [List.append_assoc, run, run', Position.after_append, List.reverse_append, List.append_assoc]

theorem scansAs_of_fits {x : Piece} (fits : ∀ rest, x.Fits rest) :
    ScansAs 0 x.spelling (x.lexeme.tokens .start) :=
  fun rest p found => ⟨x.lexeme.tokens p, content_tokens _ _ _, by
    rw [scanFrom_of_fits (fits rest), tokens_reverse]⟩

/-- A text that is scanned to its end has no string that is left open behind a colon. -/
theorem terminated_of_scanFrom (ahead : lexeme ':' cs = some (l, size))
    (scanned : scanFrom (size - 1) cs p found = .ok final) (quoted : cs.head? = some '"') :
    (stringAhead? cs).isSome = true := by
  obtain ⟨ds, rfl⟩ := List.head?_eq_some_iff.1 quoted
  by_contra unterminated
  rw [Option.not_isSome_iff_eq_none] at unterminated
  rw [Piece.lexeme_of_colon, atomAhead?, if_neg (by decide), unterminated] at ahead
  cases ahead
  change scanFrom 0 ('"' :: ds) p found = _ at scanned
  rw [scanFrom, Piece.lexeme_of_quote, unterminated] at scanned
  cases scanned

/-- **Scanning a text that is closed off.** A text whose last token is a closing bracket or brace,
if it has any, is scanned as the same tokens in front of any other text. -/
theorem scansAs_of_scanFrom (scanned : scanFrom pending cs p found = .ok final) :
    ∃ ts, final.ahead = found.reverse ++ ts ∧ (ClosedOff ts →
      (ts ≠ [] → HasClosing cs) ∧ (pending ≤ cs.length → ScansAs pending cs ts)) := by
  induction cs generalizing pending p found with
  | nil =>
    cases scanned
    refine ⟨[], (List.append_nil _).symm, fun _ => ⟨fun some => (some rfl).elim, fun none => ?_⟩⟩
    obtain rfl := Nat.le_zero.1 none
    exact scansAs_nil
  | cons c cs ih =>
    cases pending with
    | succ pending =>
      obtain ⟨ts, taken, known⟩ := ih scanned
      refine ⟨ts, taken, fun closed => ?_⟩
      obtain ⟨closing, scans⟩ := known closed
      exact ⟨fun some => hasClosing_cons_iff.2 (.inr (closing some)),
        fun le => (scans (Nat.le_of_succ_le_succ le)).pass c⟩
    | zero =>
      rw [scanFrom] at scanned
      split at scanned
      next => cases scanned
      next l size ahead =>
        obtain ⟨ts, taken, known⟩ := ih scanned
        refine ⟨l.tokens p ++ ts, ?_, fun closed => ?_⟩
        · rw [taken, List.reverse_append, tokens_reverse, List.append_assoc]
        obtain ⟨closing, scans⟩ := known closed.of_append
        have closing : l.tokens p ++ ts ≠ [] → HasClosing (c :: cs) := by
          intro some
          cases ts with
          | cons t ts => exact hasClosing_cons_iff.2 (.inr (closing (List.cons_ne_nil t ts)))
          | nil =>
            cases l with
            | blank => exact (some rfl).elim
            | token kind value =>
              have closes := closed ⟨kind, value, p⟩ rfl
              exact hasClosing_cons_iff.2 (.inl (isClosing_of_lexeme ahead closes))
        refine ⟨closing, fun _ => ?_⟩
        have apart (rest : List Char) :
            size ≤ cs.length + 1 ∧ Stylesheet.lexeme c (cs ++ rest) = some (l, size) := by
          by_cases none : l.tokens p ++ ts = []
          · cases l with
            | blank =>
              have blank := isBlank_of_lexeme ahead
              rw [lexeme_of_blank blank] at ahead ⊢
              cases ahead
              exact ⟨Nat.le_add_left 1 _, rfl⟩
            | token kind value => cases none
          · refine lexeme_append ahead (closing none) (fun isColon quoted => ?_) rest
            subst isColon
            exact terminated_of_scanFrom ahead scanned quoted
        exact (scans (Nat.sub_le_of_le_add (apart []).1)).lexeme (fun rest => (apart rest).2) p

end ViewModifiers.Stylesheet
