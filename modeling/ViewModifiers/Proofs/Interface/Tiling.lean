import ViewModifiers.Proofs.Interface.Piece
import ViewModifiers.Proofs.Interface.Spelling
import ViewModifiers.Proofs.Source.Offset

/-!
# Interfaces in tiles

An interface is cut into tiles from its start to its end: separators, comments, directives, tokens
as they are written, and what is passed over in a dropped branch. The scanner accepts a text exactly
if it has such a cut, and finds the tokens of the tiles, each at the position of the offset where
its first character stands (`scan_eq_ok_iff`). If it fails, it does so at a position of the text
(`liesIn_scan`).
-/

namespace ViewModifiers.Interface

open Source Text

/-! ## Tilings -/

/-- The blocks that are open behind a directive, each by whether its branch is dropped. The first
branch of a block is dropped where the block is, and every other branch is. -/
def Directive.blocks? : Directive → List Bool → Option (List Bool)
  | opening, blocks => some (blocks.head?.getD false :: blocks)
  | alternative _, _ :: outer => some (true :: outer)
  | closing, _ :: outer => some outer
  | remark, blocks => some blocks
  | _, [] => none

namespace Tile

/-- The blocks that are open behind a tile. -/
def blocks? : Tile → List Bool → Option (List Bool)
  | directive d _, blocks => d.blocks? blocks
  | _, blocks => some blocks

/-- The token of a tile, where it stands. No other tile has one. -/
def tokens : Tile → Position → List Token
  | token kind value _, p => [⟨kind, value, p⟩]
  | _, _ => []

end Tile

/-- Between open blocks, a text is cut into tiles from its start to its end, where all blocks are
closed. Each tile stands in front of those behind it. -/
inductive Tiling : List Bool → List Tile → List Char → Prop
  | nil : Tiling [] [] []
  | cons {blocks behind : List Bool} {x : Tile} {tiles : List Tile} {rest : List Char}
    (fits : x.Fits (blocks.head?.getD false) rest) (goesOn : x.blocks? blocks = some behind)
    (later : Tiling behind tiles rest) : Tiling blocks (x :: tiles) (x.spelling ++ rest)

/-- The tokens of tiles that stand in a text from an offset on, each with its offset. -/
def tokensFrom (cs : List Char) : Nat → List Tile → List (Nat × Token)
  | _, [] => []
  | n, x :: tiles =>
    (x.tokens (.ofOffset cs n)).map (n, ·) ++ tokensFrom cs (n + x.spelling.length) tiles

variable {c : Char} {cs ds rest : List Char} {n : Nat} {s noted : Scanner} {x : Tile}
  {tiles : List Tile} {blocks behind : List Bool} {stream : TokenStream}

theorem Tile.Fits.spelling_ne_nil {dropping : Bool} (fits : x.Fits dropping rest) :
    x.spelling ≠ [] := by
  obtain ⟨c, cs, spelling, -⟩ := fits.exists_lexeme
  rw [spelling]
  exact List.cons_ne_nil c cs

/-- The tokens of a tiling stand at increasing offsets, from its start on and in front of its
end. -/
theorem Tiling.pairwise_offsets (tiling : Tiling blocks tiles ds) (cs : List Char) (n : Nat) :
    ((tokensFrom cs n tiles).map Prod.fst ++ [n + ds.length]).Pairwise (· < ·) ∧
      ∀ k ∈ (tokensFrom cs n tiles).map Prod.fst ++ [n + ds.length], n ≤ k := by
  induction tiling generalizing n with
  | nil => exact ⟨List.pairwise_singleton _ _, List.forall_mem_singleton.2 (Nat.le_refl n)⟩
  | @cons blocks behind x tiles rest fits _ later ih =>
    have filled := List.length_pos_iff.2 fits.spelling_ne_nil
    obtain ⟨increasing, bound⟩ := ih (n + x.spelling.length)
    rw [Nat.add_assoc, ← List.length_append] at increasing bound
    cases x with
    | token kind value w =>
      refine ⟨List.pairwise_cons.2 ⟨fun k there => ?_, increasing⟩,
        List.forall_mem_cons.2 ⟨Nat.le_refl n, fun k there => ?_⟩⟩
      · exact Nat.lt_of_lt_of_le (Nat.lt_add_of_pos_right filled) (bound k there)
      · exact Nat.le_trans (Nat.le_add_right n _) (bound k there)
    | blank | comment | directive | passed =>
      exact ⟨increasing, fun k there => Nat.le_trans (Nat.le_add_right n _) (bound k there)⟩

/-! ## Scanning tiles -/

/-- Whether the scanner drops the branch that it reads. -/
theorem Scanner.dropping_eq (s : Scanner) :
    s.dropping = (s.conditionals.map (·.dropped)).head?.getD false := by
  unfold Scanner.dropping
  cases s.conditionals <;> rfl

/-- The scanner notes a tile if it goes on behind it. -/
theorem exists_note (goesOn : x.blocks? (s.conditionals.map (·.dropped)) = some behind) :
    ∃ noted, s.note x.lexeme = .ok noted ∧ noted.conditionals.map (·.dropped) = behind ∧
      noted.position = s.position ∧
      noted.tokens.toList = s.tokens.toList ++ x.tokens s.position := by
  have none := (List.append_nil s.tokens.toList).symm
  cases x with
  | blank | comment | passed =>
    cases goesOn
    exact ⟨s, rfl, rfl, rfl, none⟩
  | token kind value w =>
    cases goesOn
    exact ⟨_, rfl, rfl, rfl, Array.toList_push⟩
  | directive d w =>
    cases d with
    | opening =>
      cases goesOn
      exact ⟨_, rfl, congrArg (· :: _) s.dropping_eq, rfl, none⟩
    | remark =>
      cases goesOn
      exact ⟨s, rfl, rfl, rfl, none⟩
    | alternative name =>
      cases frames : s.conditionals with
      | nil =>
        rw [frames] at goesOn
        cases goesOn
      | cons frame outer =>
        rw [frames] at goesOn
        cases goesOn
        refine ⟨{ s with conditionals := { frame with dropped := true } :: outer }, ?_, rfl, rfl,
          none⟩
        simp only [Tile.lexeme, Scanner.note, frames]
    | closing =>
      cases frames : s.conditionals with
      | nil =>
        rw [frames] at goesOn
        cases goesOn
      | cons frame outer =>
        rw [frames] at goesOn
        cases goesOn
        refine ⟨{ s with conditionals := outer }, ?_, rfl, rfl, none⟩
        simp only [Tile.lexeme, Scanner.note, frames]

/-- It goes on behind a tile that it notes. -/
theorem exists_blocks? (note : s.note x.lexeme = .ok noted) :
    ∃ behind, x.blocks? (s.conditionals.map (·.dropped)) = some behind := by
  cases x with
  | blank | comment | passed | token => exact ⟨_, rfl⟩
  | directive d w =>
    cases d with
    | opening | remark => exact ⟨_, rfl⟩
    | alternative | closing =>
      cases frames : s.conditionals with
      | nil =>
        simp only [Tile.lexeme, Scanner.note, frames] at note
        cases note
      | cons frame outer => exact ⟨_, rfl⟩

/-- A tile that stands at the front of a text is noted, and its characters are passed over. -/
theorem run_of_tile (fits : x.Fits s.dropping rest) (note : s.note x.lexeme = .ok noted) :
    Scanner.run 0 (x.spelling ++ rest) s =
      Scanner.run 0 rest { noted with position := noted.position.after x.spelling } := by
  obtain ⟨c, cs, spelling, ahead⟩ := fits.exists_lexeme
  rw [spelling] at ahead ⊢
  exact run_of_lexeme ahead note

/-- A tiling is scanned as the tokens of its tiles. -/
theorem Tiling.run_eq (tiling : Tiling blocks tiles ds)
    (inBlocks : s.conditionals.map (·.dropped) = blocks) (here : s.position = .ofOffset cs n)
    (ahead : cs.drop n = ds) :
    Scanner.run 0 ds s =
      .ok ⟨s.tokens.toList ++ (tokensFrom cs n tiles).map Prod.snd,
        .ofOffset cs (n + ds.length)⟩ := by
  induction tiling generalizing s n with
  | nil =>
    have closed : s.conditionals = [] := List.map_eq_nil_iff.1 inBlocks
    rw [Scanner.run, Scanner.finish, closed, here, tokensFrom, List.map_nil, List.append_nil]
    rfl
  | @cons blocks behind x tiles rest fits goesOn later ih =>
    subst inBlocks
    obtain ⟨noted, note, behindIt, place, tokens⟩ := exists_note goesOn
    have moved : noted.position.after x.spelling = .ofOffset cs (n + x.spelling.length) := by
      rw [place, here, Position.ofOffset_add, ahead, List.take_left]
    have left : cs.drop (n + x.spelling.length) = rest := by
      rw [← List.drop_drop, ahead, List.drop_left]
    rw [← Scanner.dropping_eq] at fits
    rw [run_of_tile fits note,
      ih (s := ⟨noted.position.after x.spelling, noted.conditionals, noted.tokens⟩) behindIt moved
        left]
    have own : ((x.tokens (.ofOffset cs n)).map (n, ·)).map Prod.snd = x.tokens (.ofOffset cs n) :=
      (List.map_map ..).trans (List.map_id _)
    rw [tokens, here, tokensFrom, List.length_append, Nat.add_assoc, List.append_assoc,
      List.map_append, own]

/-- The first step of the scanner over a text: it finds a fault in it, or notes a tile. -/
theorem run_step (c : Char) (cs : List Char) (s : Scanner) :
    (∃ e : LocalFault, Scanner.run 0 (c :: cs) s =
      .error ⟨e.fault, s.position.after ((c :: cs).take e.offset)⟩) ∨
    ∃ (x : Tile) (rest : List Char), x.spelling ++ rest = c :: cs ∧ x.Fits s.dropping rest ∧
      rest.length < (c :: cs).length ∧ Scanner.run 0 (c :: cs) s = s.note x.lexeme >>= fun noted =>
        Scanner.run 0 rest { noted with position := noted.position.after x.spelling } := by
  cases found : lexeme s.dropping c cs with
  | error e =>
    refine .inl ⟨e, ?_⟩
    rw [Scanner.run, found]
  | ok lexed =>
    obtain ⟨x, rest, split, fits, same, -⟩ := exists_tile found
    have shorter : rest.length < (c :: cs).length := by
      have filled := List.length_pos_iff.2 fits.spelling_ne_nil
      rw [← split, List.length_append]
      omega
    refine .inr ⟨x, rest, split, fits, shorter, ?_⟩
    cases note : s.note x.lexeme with
    | error e =>
      rw [Scanner.run, found]
      simp only [← same, note]
      rfl
    | ok noted =>
      rw [← split]
      exact run_of_tile fits note

/-- What the scanner accepts has a tiling. -/
theorem exists_tiling (scanned : Scanner.run 0 cs s = .ok stream) :
    ∃ tiles, Tiling (s.conditionals.map (·.dropped)) tiles cs := by
  induction size : cs.length using Nat.strongRecOn generalizing cs s with
  | ind bound ih =>
    subst size
    cases cs with
    | nil =>
      rw [Scanner.run, Scanner.finish] at scanned
      split at scanned
      · next closed =>
        rw [closed]
        exact ⟨[], .nil⟩
      · cases scanned
    | cons c cs =>
      rcases run_step c cs s with ⟨e, fault⟩ | ⟨x, rest, split, fits, shorter, step⟩
      · cases scanned.symm.trans fault
      rw [step] at scanned
      cases note : s.note x.lexeme with
      | error e =>
        rw [note] at scanned
        cases scanned
      | ok noted =>
        rw [note] at scanned
        obtain ⟨tiles, later⟩ := ih rest.length shorter scanned rfl
        obtain ⟨behind, goesOn⟩ := exists_blocks? note
        obtain ⟨noted', note', behindIt, -⟩ := exists_note goesOn
        cases note.symm.trans note'
        rw [behindIt] at later
        rw [Scanner.dropping_eq] at fits
        exact ⟨x :: tiles, split ▸ .cons fits goesOn later⟩

/-! ## Faults -/

/-- The scanner has come to an offset of a text, and every conditional was opened at a position of
the text. -/
structure Scanner.IsAt (cs : List Char) (n : Nat) (s : Scanner) : Prop where
  position : s.position = .ofOffset cs n
  conditionals : ∀ frame ∈ s.conditionals, frame.opened.LiesIn cs

theorem Scanner.IsAt.liesIn (here : s.IsAt cs n) : s.position.LiesIn cs :=
  here.position ▸ Position.liesIn_ofOffset cs n

theorem Scanner.isAt_initial (cs : List Char) : initial.IsAt cs 0 where
  position := rfl
  conditionals := nofun

/-- Moving over characters. -/
theorem Scanner.IsAt.after (here : s.IsAt cs n) {w : List Char} (ahead : cs.drop n = w ++ rest) :
    IsAt cs (n + w.length) { s with position := s.position.after w } where
  position := by rw [here.position, Position.ofOffset_add, ahead, List.take_left]
  conditionals := here.conditionals

/-- The scanner stays where it is as it notes a lexeme, and blames that place if it cannot. -/
theorem Scanner.IsAt.note (here : s.IsAt cs n) (l : Lexeme) :
    (∀ noted, s.note l = .ok noted → noted.IsAt cs n) ∧
      ∀ e, s.note l = .error e → e.position.LiesIn cs := by
  have opened := here.conditionals
  cases l with
  | blank | token =>
    constructor <;> rintro _ ⟨⟩
    exact ⟨here.position, opened⟩
  | directive d =>
    cases d with
    | opening =>
      constructor <;> rintro _ ⟨⟩
      exact ⟨here.position, List.forall_mem_cons.2 ⟨here.liesIn, opened⟩⟩
    | remark =>
      constructor <;> rintro _ ⟨⟩
      exact here
    | alternative name =>
      rw [Scanner.note]
      split
      · constructor <;> rintro _ ⟨⟩
        exact here.liesIn
      · next frame outer frames =>
        rw [frames, List.forall_mem_cons] at opened
        constructor <;> rintro _ ⟨⟩
        exact ⟨here.position, List.forall_mem_cons.2 opened⟩
    | closing =>
      rw [Scanner.note]
      split
      · constructor <;> rintro _ ⟨⟩
        exact here.liesIn
      · next frame outer frames =>
        rw [frames, List.forall_mem_cons] at opened
        constructor <;> rintro _ ⟨⟩
        exact ⟨here.position, opened.2⟩

/-- A fault of the scanner lies in the text. -/
theorem Scanner.IsAt.liesIn_of_run {e : SyntaxError} (here : s.IsAt cs n) (ahead : cs.drop n = ds)
    (failed : run 0 ds s = .error e) : e.position.LiesIn cs := by
  induction size : ds.length using Nat.strongRecOn generalizing ds s n with
  | ind bound ih =>
    subst size
    cases ds with
    | nil =>
      rw [Scanner.run, Scanner.finish] at failed
      split at failed
      · cases failed
      · next frame outer frames =>
        cases failed
        exact here.conditionals frame (frames ▸ List.mem_cons_self)
    | cons c ds =>
      rcases run_step c ds s with ⟨e, fault⟩ | ⟨x, rest, split, fits, shorter, step⟩
      · cases failed.symm.trans fault
        rw [here.position, ← ahead, ← Position.ofOffset_add]
        exact Position.liesIn_ofOffset cs _
      rw [step] at failed
      obtain ⟨noted, blamed⟩ := here.note x.lexeme
      cases note : s.note x.lexeme with
      | error fault =>
        rw [note] at failed
        cases failed
        exact blamed _ note
      | ok s' =>
        rw [note] at failed
        rw [← split] at ahead
        have left : cs.drop (n + x.spelling.length) = rest := by
          rw [← List.drop_drop, ahead, List.drop_left]
        exact ih rest.length shorter ((noted s' note).after ahead) left failed rfl

/-! ## Whole texts -/

variable {text : String}

/-- **A text is scanned tile by tile**, as the tokens of its tiles: each stands at the position of
the offset of its first character, and the end of the text at that of its length. -/
theorem scan_eq_ok_iff : scan text = .ok stream ↔ ∃ tiles, Tiling [] tiles text.toList ∧
    stream = ⟨(tokensFrom text.toList 0 tiles).map Prod.snd,
      .ofOffset text.toList text.toList.length⟩ := by
  constructor
  · intro scanned
    obtain ⟨tiles, tiling⟩ := exists_tiling scanned
    have whole := tiling.run_eq (s := .initial) rfl rfl List.drop_zero
    rw [Nat.zero_add] at whole
    cases scanned.symm.trans whole
    exact ⟨tiles, tiling, rfl⟩
  · rintro ⟨tiles, tiling, rfl⟩
    have whole := tiling.run_eq (s := .initial) rfl rfl (List.drop_zero (l := text.toList))
    rw [Nat.zero_add] at whole
    exact whole

example : (scan "a\n  \x60b\x60").toOption.map (fun s => s.toList.map (·.position)) =
    some [⟨1, 1⟩, ⟨2, 3⟩, ⟨2, 6⟩] := by
  decide

/-- The scanner fails at a position of the text. -/
theorem liesIn_scan {e : SyntaxError} (failed : scan text = .error e) :
    e.position.LiesIn text.toList :=
  (Scanner.isAt_initial text.toList).liesIn_of_run List.drop_zero failed

theorem position_of_mem_tokensFrom {p : Nat × Token} (there : p ∈ tokensFrom cs n tiles) :
    p.2.position = .ofOffset cs p.1 := by
  induction tiles generalizing n with
  | nil => cases there
  | cons x tiles ih =>
    rcases List.mem_append.1 there with own | later
    · obtain ⟨t, isToken, rfl⟩ := List.mem_map.1 own
      cases x with
      | token =>
        cases List.mem_singleton.1 isToken
        rfl
      | _ => cases isToken
    · exact ih later

/-- All tokens of a text stand at positions of it, the end of the text included. -/
theorem liesIn_of_scan (scanned : scan text = .ok stream) :
    ∀ t ∈ stream.toList, t.position.LiesIn text.toList := by
  obtain ⟨tiles, -, rfl⟩ := scan_eq_ok_iff.1 scanned
  intro t there
  rcases List.mem_append.1 there with ahead | last
  · obtain ⟨p, placed, rfl⟩ := List.mem_map.1 ahead
    rw [position_of_mem_tokensFrom placed]
    exact Position.liesIn_ofOffset _ _
  · rw [List.mem_singleton.1 last]
    exact Position.liesIn_ofOffset _ _

end ViewModifiers.Interface
