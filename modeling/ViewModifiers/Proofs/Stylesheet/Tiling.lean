import ViewModifiers.Proofs.Source.Offset
import ViewModifiers.Proofs.Stylesheet.Spelling

/-!
# Texts in tiles

A text is cut into tiles from its start on: runs of white space and tokens as they are written, each
the longest one that stands there. The scanner reads a text tile by tile (`scan_tile_by_tile`). If
the tiles come to its end, it has their tokens, each at the place where its first character stands,
and if they do not, it fails where they stop.
-/

namespace ViewModifiers.Stylesheet

open Source Text Written

variable {c : Char} {cs rest run w : List Char} {kind : TokenKind} {found : String} {size : Nat}

/-! ## Lexemes -/

theorem lexeme_of_number (there : w ∈ numeral) (front : w <+: c :: cs) :
    lexeme c cs = some (verbatim .number (numberAhead (c :: cs))) := by
  have le := (isLongest_numberAhead (c :: cs)).longest w there front
  obtain ⟨d, ds, rfl, first⟩ := exists_cons_of_mem_numeral there
  obtain ⟨rfl, -⟩ := List.cons_prefix_cons.1 front
  have notBlank : isBlank d ≠ true := by
    rcases first with rfl | decimal
    · decide
    · intro blank
      rw [isDecimal_of_isBlank blank] at decimal
      cases decimal
  have some : numberAhead (d :: cs) ≠ [] := by
    rintro none
    rw [none] at le
    cases le
  rw [lexeme, if_neg notBlank, if_pos (by simpa using some)]

/-- The lexeme at the front of a text is a token of at least some length, and of a certain kind if
it is no longer. -/
def Finds (kind : TokenKind) (length : Nat) (c : Char) (cs : List Char) : Prop :=
  ∃ kind' found size, lexeme c cs = some (.token kind' found, size) ∧ length ≤ size ∧
    (size = length → kind' = kind)

/-- A sign is a token by itself, unless it is a colon with more of an atom behind it. -/
theorem finds_of_ofSign? (isSign : TokenKind.ofSign? c = some kind) (cs : List Char) :
    Finds kind 1 c cs := by
  by_cases colon : c = ':'
  · subst colon
    cases isSign
    rw [Finds, Piece.lexeme_of_colon]
    cases atom : atomAhead? cs with
    | none => exact ⟨.colon, _, _, rfl, Nat.le_refl 1, fun _ => rfl⟩
    | some ahead =>
      have le := one_le_of_atomAhead? atom
      exact ⟨.atom, _, _, rfl, Nat.le_add_left 1 _, fun one => by omega⟩
  · have plain : (isBlank c = false ∧ isDecimal c = false ∧ startsName c = false) ∧
        c ≠ '-' ∧ c ≠ '"' := by
      rw [TokenKind.ofSign?.eq_def] at isSign
      split at isSign <;> first | decide | cases isSign
    obtain ⟨classes, notMinus, notQuote⟩ := plain
    rw [Finds, Piece.lexeme_of_sign classes notMinus notQuote colon, signAhead?, isSign]
    exact ⟨kind, _, _, rfl, Nat.le_refl 1, fun _ => rfl⟩

theorem written_of_ofSign? (isSign : TokenKind.ofSign? c = some kind) :
    [c] ∈ token kind ∧ value kind [c] = String.ofList [c] := by
  have one : [c] ∈ char fun c => TokenKind.ofSign? c = some kind := ⟨c, decide_eq_true isSign, rfl⟩
  rw [TokenKind.ofSign?.eq_def] at isSign
  split at isSign <;> first | cases isSign; exact ⟨one, rfl⟩ | cases isSign

/-- Where a token is written, one that is at least as long is scanned. -/
theorem finds_of_mem (there : w ∈ token kind) (front : w <+: c :: cs) :
    Finds kind w.length c cs := by
  have sign (one : w ∈ char fun c => TokenKind.ofSign? c = some kind) :
      Finds kind w.length c cs := by
    obtain ⟨d, isSign, rfl⟩ := one
    obtain ⟨rfl, -⟩ := List.cons_prefix_cons.1 front
    exact finds_of_ofSign? (of_decide_eq_true isSign) cs
  cases kind with
  | number =>
    exact ⟨.number, _, _, lexeme_of_number there front,
      (isLongest_numberAhead (c :: cs)).longest w there front, fun _ => rfl⟩
  | string =>
    have found := stringAhead?_of_mem there front
    obtain ⟨ds, -, rfl⟩ := mem_quotedString.1 there
    obtain ⟨rfl, -⟩ := List.cons_prefix_cons.1 front
    rw [Finds, Piece.lexeme_of_quote, found]
    exact ⟨.string, _, _, rfl, Nat.le_refl _, fun _ => rfl⟩
  | atom =>
    obtain ⟨v, behind, rfl⟩ := mem_mark_mul.1 there
    obtain ⟨rfl, later⟩ := List.cons_prefix_cons.1 front
    obtain ⟨found, size, ahead, le⟩ := exists_atomAhead? behind later
    rw [Finds, Piece.lexeme_of_colon, ahead]
    exact ⟨.atom, _, _, rfl, Nat.succ_le_succ le, fun _ => rfl⟩
  | name =>
    obtain ⟨d, ds, starts, -, rfl⟩ := mem_name.1 there
    obtain ⟨rfl, -⟩ := List.cons_prefix_cons.1 front
    exact ⟨.name, _, _, Piece.lexeme_of_startsName starts cs,
      (isLongest_name starts _ cs).longest _ there front, fun _ => rfl⟩
  | _ => exact sign there

theorem written_of_signAhead? (ahead : signAhead? c = some (.token kind found, size)) :
    ∃ w ∈ token kind, w <+: c :: cs ∧ found = value kind w ∧ size = w.length := by
  obtain ⟨sign, isSign, made⟩ := Option.map_eq_some_iff.1 ahead
  cases made
  obtain ⟨there, same⟩ := written_of_ofSign? isSign
  exact ⟨[c], there, ⟨cs, rfl⟩, same.symm, rfl⟩

/-- A token is scanned as it is written. -/
theorem written_of_lexeme (ahead : lexeme c cs = some (.token kind found, size)) :
    ∃ w ∈ token kind, w <+: c :: cs ∧ found = value kind w ∧ size = w.length := by
  by_cases blank : isBlank c = true
  · rw [lexeme_of_blank blank] at ahead
    cases ahead
  rw [lexeme, if_neg blank] at ahead
  split at ahead
  next some =>
    have number := isLongest_numberAhead (c :: cs)
    cases ahead
    exact ⟨_, number.word (by simpa using some), number.front, rfl, rfl⟩
  split at ahead
  next =>
    obtain ⟨_, string, made⟩ := Option.map_eq_some_iff.1 ahead
    cases made
    exact exists_of_stringAhead? string
  split at ahead
  next starts =>
    have name := isLongest_name starts continuesName cs
    cases ahead
    exact ⟨_, name.word (List.cons_ne_nil c _), name.front, rfl, rfl⟩
  split at ahead
  next atom =>
    split at atom
    next colon =>
      subst colon
      cases ahead
      exact exists_of_atomAhead? atom
    next => cases atom
  next => exact written_of_signAhead? ahead

/-! ## Tiles -/

/-- A tile of a text: white space, or a token as it is written. -/
inductive Tile
  | blank (run : List Char)
  | token (kind : TokenKind) (written : List Char)

namespace Tile

/-- The characters of a tile. -/
def spelling : Tile → List Char
  | blank run => run
  | token _ written => written

/-- White space has to be blank, and a token has to be written as its kind is. -/
def IsWritten : Tile → Prop
  | blank run => run ∈ blanks
  | token kind written => written ∈ Written.token kind

/-- The token of a tile, where it stands. White space has none. -/
def tokens : Tile → Position → List Token
  | blank _, _ => []
  | token kind written, p => [⟨kind, value kind written, p⟩]

/-- A text starts with a tile. -/
def Starts (x : Tile) (cs : List Char) : Prop := x.IsWritten ∧ x.spelling <+: cs

/-- Of all tiles that start a text, this one is the longest. -/
def Fits (x : Tile) (rest : List Char) : Prop :=
  x.IsWritten ∧ ∀ y : Tile, y.Starts (x.spelling ++ rest) → y.spelling.length ≤ x.spelling.length

end Tile

instance : Spelled Tile Token where
  spelling := Tile.spelling
  tokens := Tile.tokens
  Fits := Tile.Fits

variable {x : Tile} {tiles : List Tile}

/-- A text is cut into tiles from its start on, each the longest one that stands where it starts,
and a rest is left. -/
structure Tiling (cs : List Char) (tiles : List Tile) (rest : List Char) : Prop where
  whole : spell tiles ++ rest = cs
  longest : Fitting tiles rest

/-- The tokens of tiles that stand in a text from an offset on. -/
def tokensAt (cs : List Char) : Nat → List Tile → List Token
  | _, [] => []
  | n, x :: tiles => x.tokens (.ofOffset cs n) ++ tokensAt cs (n + x.spelling.length) tiles

/-! ## The longest tile -/

/-- White space starts with a blank, and a token does not. -/
theorem isBlank_of_blanks (there : run ∈ blanks) (front : run <+: c :: cs) : isBlank c = true := by
  obtain ⟨d, ds, blank, -, rfl⟩ := mem_char_mul.1 there
  obtain ⟨rfl, -⟩ := List.cons_prefix_cons.1 front
  exact blank

theorem not_isBlank_of_token (there : w ∈ Written.token kind) (front : w <+: c :: cs) :
    ¬isBlank c = true := by
  obtain ⟨kind', found, size, ahead, -⟩ := finds_of_mem there front
  intro blank
  rw [lexeme_of_blank blank] at ahead
  cases ahead

theorem ne_nil_of_token (there : w ∈ Written.token kind) : w ≠ [] := by
  rintro rfl
  have none : lexeme '%' [] = none := by decide
  -- Without characters, the token would start every text.
  obtain ⟨_, _, _, ahead, -⟩ := finds_of_mem there (c := '%') List.nil_prefix
  rw [none] at ahead
  cases ahead

theorem ne_nil_of_isWritten (written : x.IsWritten) : x.spelling ≠ [] := by
  cases x with
  | blank run => exact (mem_run.1 written).1
  | token kind w => exact ne_nil_of_token written

/-- There is a lexeme where a tile starts. -/
theorem lexeme_ne_none (starts : x.Starts (c :: cs)) : lexeme c cs ≠ none := by
  obtain ⟨written, front⟩ := starts
  cases x with
  | blank run =>
    rw [lexeme_of_blank (isBlank_of_blanks written front)]
    exact Option.some_ne_none _
  | token kind w =>
    obtain ⟨_, _, _, ahead, -⟩ := finds_of_mem written front
    rw [ahead]
    exact Option.some_ne_none _

theorem fits_blank (blank : isBlank c = true) (cs : List Char) :
    (Tile.blank ((c :: cs).takeWhile isBlank)).Fits ((c :: cs).dropWhile isBlank) := by
  have run := isLongest_takeWhile isBlank (c :: cs)
  refine ⟨run.word (by simp [blank]), ?_⟩
  rintro y ⟨written, front⟩
  change y.spelling <+: (c :: cs).takeWhile isBlank ++ _ at front
  rw [List.takeWhile_append_dropWhile] at front
  cases y with
  | blank run' => exact run.longest run' written front
  | token kind w => exact (not_isBlank_of_token written front blank).elim

theorem fits_token (there : w ∈ Written.token kind) (split : w ++ rest = c :: cs)
    (ahead : lexeme c cs = some (.token kind found, w.length)) : (Tile.token kind w).Fits rest := by
  refine ⟨there, ?_⟩
  rintro y ⟨written, front⟩
  change y.spelling <+: w ++ rest at front
  rw [split] at front
  cases y with
  | blank run =>
    exact (not_isBlank_of_token there ⟨rest, split⟩ (isBlank_of_blanks written front)).elim
  | token kind' w' =>
    obtain ⟨_, _, _, ahead', le, -⟩ := finds_of_mem written front
    rw [ahead] at ahead'
    cases ahead'
    exact le

/-- There is a longest tile where there is a lexeme. -/
theorem exists_fits {l : Lexeme} (ahead : lexeme c cs = some (l, size)) :
    ∃ (x : Tile) (rest : List Char), x.spelling ++ rest = c :: cs ∧ x.Fits rest := by
  cases l with
  | blank =>
    exact ⟨_, _, List.takeWhile_append_dropWhile, fits_blank (isBlank_of_lexeme ahead) cs⟩
  | token kind found =>
    obtain ⟨w, there, ⟨rest, split⟩, -, rfl⟩ := written_of_lexeme ahead
    exact ⟨.token kind w, rest, split, fits_token there split ahead⟩

/-- No tile starts where there is no lexeme. -/
theorem lexeme_eq_none_iff : lexeme c cs = none ↔ ∀ x : Tile, ¬x.Starts (c :: cs) := by
  refine ⟨fun none x starts => lexeme_ne_none starts none, fun gap => ?_⟩
  cases ahead : lexeme c cs with
  | none => rfl
  | some found =>
    obtain ⟨x, rest, split, fits⟩ := exists_fits ahead
    exact (gap x ⟨fits.1, rest, split⟩).elim

/-- A text starts with no tile, or with one that is the longest. -/
theorem gap_or_exists_fits (cs : List Char) :
    (∀ x : Tile, ¬x.Starts cs) ∨
      ∃ (x : Tile) (rest : List Char), x.spelling ++ rest = cs ∧ x.Fits rest := by
  cases cs with
  | nil =>
    left
    rintro x ⟨written, front⟩
    exact ne_nil_of_isWritten written (List.prefix_nil.1 front)
  | cons c cs =>
    cases ahead : lexeme c cs with
    | none => exact .inl (lexeme_eq_none_iff.1 ahead)
    | some found => exact .inr (exists_fits ahead)

/-! ## Scanning tiles -/

/-- White space is passed over. -/
theorem scanFrom_append_of_blanks (blank : ∀ c ∈ run, isBlank c = true) (rest : List Char)
    (p : Position) (found : List Token) :
    scanFrom 0 (run ++ rest) p found = scanFrom 0 rest (p.after run) found := by
  induction run generalizing p with
  | nil => rfl
  | cons c run ih =>
    obtain ⟨first, later⟩ := List.forall_mem_cons.1 blank
    rw [List.cons_append, scanFrom, lexeme_of_blank first]
    exact ih later (p.next c)

/-- The longest token at the front of a text is the lexeme there. -/
theorem lexeme_of_fits (fits : (Tile.token kind w).Fits rest) (split : w ++ rest = c :: cs) :
    lexeme c cs = some (.token kind (value kind w), w.length) := by
  obtain ⟨there, longest⟩ := fits
  have front : w <+: c :: cs := ⟨rest, split⟩
  obtain ⟨kind', found, size, ahead, le, same⟩ := finds_of_mem there front
  obtain ⟨w', there', front', rfl, rfl⟩ := written_of_lexeme ahead
  have le' : w'.length ≤ w.length := longest (.token kind' w') ⟨there', split ▸ front'⟩
  have eq : w' = w := (List.prefix_of_prefix_length_le front' front le').eq_of_length
    (Nat.le_antisymm le' le)
  subst eq
  obtain rfl := same rfl
  exact ahead

theorem scanFrom_of_tile (fits : x.Fits rest) (p : Position) (found : List Token) :
    scanFrom 0 (x.spelling ++ rest) p found =
      scanFrom 0 rest (p.after x.spelling) ((x.tokens p).reverse ++ found) := by
  cases x with
  | blank run => exact scanFrom_append_of_blanks (mem_run.1 fits.1).2 rest p found
  | token kind w =>
    change scanFrom 0 (w ++ rest) p found = scanFrom 0 rest (p.after w) (_ :: found)
    obtain ⟨c, cs, rfl⟩ := List.exists_cons_of_ne_nil (ne_nil_of_token fits.1)
    have ahead : lexeme c (cs ++ rest) = _ := lexeme_of_fits fits rfl
    rw [List.cons_append, scanFrom, ahead]
    exact scanFrom_append_of_length cs rest (p.next c) _

/-- Every text has a tiling that goes on as long as a tile starts. -/
theorem exists_tiling (cs : List Char) :
    ∃ tiles rest, Tiling cs tiles rest ∧ ∀ x : Tile, ¬x.Starts rest := by
  rcases gap_or_exists_fits cs with gap | ⟨x, rest, split, fits⟩
  · exact ⟨[], cs, ⟨rfl, trivial⟩, gap⟩
  · obtain ⟨tiles, behind, ⟨whole, longest⟩, gap⟩ := exists_tiling rest
    refine ⟨x :: tiles, behind, ⟨?_, ?_, longest⟩, gap⟩
    · rw [spell_cons, List.append_assoc, whole]
      exact split
    · rwa [whole]
termination_by cs.length
decreasing_by
  have some := List.length_pos_iff.2 (ne_nil_of_isWritten fits.1)
  rw [← split, List.length_append]
  omega

/-- Tiles stand where the characters in front of them end. -/
theorem placed_ofOffset {n : Nat} (ahead : cs.drop n = spell tiles ++ rest) :
    placed (.ofOffset cs n) tiles = tokensAt cs n tiles := by
  induction tiles generalizing n with
  | nil => rfl
  | cons x tiles ih =>
    have ahead : cs.drop n = x.spelling ++ (spell tiles ++ rest) := by
      rw [ahead, spell_cons, List.append_assoc]
      rfl
    have later : cs.drop (n + x.spelling.length) = spell tiles ++ rest := by
      rw [← List.drop_drop, ahead, List.drop_left]
    rw [placed, tokensAt, ← ih later, Position.ofOffset_add, ahead, List.take_left]
    rfl

theorem scanFrom_of_tiling (tiling : Tiling cs tiles rest) :
    scanFrom 0 cs .start [] =
      scanFrom 0 rest (.ofOffset cs (spell tiles).length) (tokensAt cs 0 tiles).reverse := by
  obtain ⟨rfl, longest⟩ := tiling
  rw [scanFrom_of_each (fun _ _ => scanFrom_of_tile) longest, List.append_nil,
    Position.ofOffset_eq, List.take_left,
    ← placed_ofOffset (show (spell tiles ++ rest).drop 0 = spell tiles ++ rest from rfl)]
  rfl

variable {text : String}

/-- A text that tiles cover is scanned as their tokens. -/
theorem scan_of_covering (tiling : Tiling text.toList tiles []) :
    scan text =
      .ok ⟨tokensAt text.toList 0 tiles, .ofOffset text.toList text.toList.length⟩ := by
  rw [scan, scanFrom_of_tiling tiling, scanFrom, List.reverse_reverse, ← tiling.whole,
    List.append_nil]

/-- A text is not scanned if no tile starts where its tiling ends. -/
theorem scan_of_gap (tiling : Tiling text.toList tiles (c :: rest))
    (gap : ∀ x : Tile, ¬x.Starts (c :: rest)) :
    scan text = .error ⟨.strayCharacter c, .ofOffset text.toList (spell tiles).length⟩ := by
  rw [scan, scanFrom_of_tiling tiling, scanFrom, lexeme_eq_none_iff.2 gap]

/-- **A text is scanned tile by tile.** It has the tokens of its tiles exactly if they cover it:
each stands at the position of the offset of its first character, and the end of the text at that of
its length. It has a fault exactly if its tiles come to an offset where no tile starts, and the
fault lies there. -/
theorem scan_tile_by_tile (text : String) :
    (∀ cursor, scan text = .ok cursor ↔ ∃ tiles, Tiling text.toList tiles [] ∧
      cursor = ⟨tokensAt text.toList 0 tiles, .ofOffset text.toList text.toList.length⟩) ∧
    (∀ e, scan text = .error e ↔ ∃ tiles c rest, Tiling text.toList tiles (c :: rest) ∧
      (∀ x : Tile, ¬x.Starts (c :: rest)) ∧
      e = ⟨.strayCharacter c, .ofOffset text.toList (spell tiles).length⟩) := by
  obtain ⟨tiles, rest, tiling, gap⟩ := exists_tiling text.toList
  refine ⟨fun cursor => ⟨fun scanned => ?_, ?_⟩, fun e => ⟨fun failed => ?_, ?_⟩⟩
  · cases rest with
    | nil =>
      rw [scan_of_covering tiling] at scanned
      exact ⟨tiles, tiling, (Except.ok.inj scanned).symm⟩
    | cons c rest =>
      rw [scan_of_gap tiling gap] at scanned
      cases scanned
  · rintro ⟨tiles, tiling, rfl⟩
    exact scan_of_covering tiling
  · cases rest with
    | nil =>
      rw [scan_of_covering tiling] at failed
      cases failed
    | cons c rest =>
      rw [scan_of_gap tiling gap] at failed
      exact ⟨tiles, c, rest, tiling, gap, (Except.error.inj failed).symm⟩
  · rintro ⟨tiles, c, rest, tiling, gap, rfl⟩
    exact scan_of_gap tiling gap

example :
    (scan "\x7ba,\n  [b: 1]\x7d").toOption.map (fun c => (c.peek 3).position) = some ⟨2, 3⟩ := by
  decide

end ViewModifiers.Stylesheet
