import ViewModifiers.Proofs.Interface.Runs
import ViewModifiers.Proofs.Interface.TypePieces

/-!
# Reading what was written

A reader reads pieces as a value if it takes their tokens off the front of a stream and leaves what
stands behind them (`Reads`). What may stand behind is a condition on the tokens there and on the
place where the pieces end. Lists of items are read from readings of the items.
-/

namespace ViewModifiers.Interface

open Source TokenReader

variable {α : Type}

/-! ## Tokens ahead -/

@[simp] theorem placed_word (p : Position) (name : String) (xs : List Piece) :
    placed p (Piece.word name :: xs) =
      ⟨wordKind name, name, p⟩ :: placed (p.after name.toList) xs := rfl

@[simp] theorem placed_sign (p : Position) (kind : TokenKind) (xs : List Piece) :
    placed p (Piece.sign kind :: xs) =
      ⟨kind, kind.label, p⟩ :: placed (p.after kind.label.toList) xs := rfl

@[simp] theorem placed_space (p : Position) (xs : List Piece) :
    placed p (Piece.space :: xs) = placed (p.next ' ') xs := rfl

@[simp] theorem placed_newline (p : Position) (xs : List Piece) :
    placed p (Piece.newline :: xs) = placed (p.next '\n') xs := rfl

@[simp] theorem placed_nil (p : Position) : placed p ([] : List Piece) = [] := rfl

@[simp] theorem isNameLike_wordKind (name : String) : (wordKind name).isNameLike = true := by
  rw [wordKind]
  cases Keyword.ofSpelling? name <;> rfl

/-- A word is no sign. -/
theorem wordKind_ne {kind : TokenKind} (noName : kind.isNameLike = false) (name : String) :
    wordKind name ≠ kind := by
  rintro rfl
  rw [isNameLike_wordKind] at noName
  cases noName

theorem wordKind_spelling (k : Keyword) : wordKind k.spelling = .keyword k := by
  rw [wordKind, Keyword.ofSpelling?_spelling]

/-- A keyword is found where it is expected. -/
theorem run'_expect_keyword (k : Keyword) (p : Position) (ts : List Token) (finish : Position) :
    (expect (.keyword k)).run' ⟨⟨wordKind k.spelling, k.spelling, p⟩ :: ts, finish⟩ =
      (.ok ⟨wordKind k.spelling, k.spelling, p⟩, ⟨ts, finish⟩) := by
  rw [wordKind_spelling]
  exact run'_expect_self _ _ _ _ _

theorem IsIdentifier.wordKind {name : String} (isName : IsIdentifier name) :
    wordKind name = .identifier := by
  rw [Interface.wordKind, isName.2]

/-- Whether a piece is a token. -/
def Piece.isToken : Piece → Bool
  | .blank _ => false
  | .token .. => true

/-- The number of tokens of pieces does not depend on where they stand. -/
theorem length_placed (p : Position) (xs : List Piece) :
    (placed p xs).length = xs.countP Piece.isToken := by
  induction xs generalizing p with
  | nil => rfl
  | cons x xs ih =>
    rw [placed, List.length_append, ih, List.countP_cons]
    cases x with
    | blank c => exact Nat.zero_add _
    | token kind value spelling => exact Nat.add_comm _ _

/-- The kind of the next of some tokens. -/
def nextKind (ts : List Token) : TokenKind := (ts.head?.map Token.kind).getD .endOfFile

@[simp] theorem nextKind_nil : nextKind [] = .endOfFile := rfl

@[simp] theorem nextKind_cons (t : Token) (ts : List Token) : nextKind (t :: ts) = t.kind := rfl

@[simp] theorem kind_current (ts : List Token) (finish : Position) :
    (TokenStream.current ⟨ts, finish⟩).kind = nextKind ts := by
  cases ts <;> rfl

@[simp] theorem kind_peek_one (t : Token) (ts : List Token) (finish : Position) :
    (TokenStream.peek ⟨t :: ts, finish⟩ 1).kind = nextKind ts := by
  cases ts <;> rfl

/-- Nothing is accepted in front of a token of another kind. -/
theorem run'_accept_none {kind : TokenKind} {ts : List Token} (other : nextKind ts ≠ kind)
    (finish : Position) : (accept kind).run' ⟨ts, finish⟩ = (.ok false, ⟨ts, finish⟩) := by
  rw [run'_accept, kind_current, if_neg other]

theorem run'_isAt_none {kind : TokenKind} {ts : List Token} (other : nextKind ts ≠ kind)
    (finish : Position) : (isAt kind).run' ⟨ts, finish⟩ = (.ok false, ⟨ts, finish⟩) := by
  rw [run'_isAt, kind_current, decide_eq_false other]

theorem fails_expect {kind : TokenKind} {ts : List Token} (other : nextKind ts ≠ kind)
    (finish : Position) : Fails (expect kind) ⟨ts, finish⟩ := by
  have failed := run'_expect kind ⟨ts, finish⟩
  rw [kind_current, if_neg other] at failed
  exact ⟨_, _, failed⟩

theorem fails_expectName {ts : List Token} (noName : (nextKind ts).isNameLike = false)
    (finish : Position) : Fails expectName ⟨ts, finish⟩ := by
  have failed := run'_expectName ⟨ts, finish⟩
  rw [kind_current, noName, if_neg Bool.false_ne_true] at failed
  exact ⟨_, _, failed⟩

/-- The first kind of some tokens that is not that of a name. -/
def kindBehindNames : List Token → TokenKind
  | [] => .endOfFile
  | t :: ts => if t.kind.isNameLike then kindBehindNames ts else t.kind

theorem kindBehindNames_of_sign {kind : TokenKind} {ts : List Token} (next : nextKind ts = kind)
    (noName : kind.isNameLike = false) : kindBehindNames ts = kind := by
  cases ts with
  | nil => exact next
  | cons t ts =>
    rw [nextKind_cons] at next
    rw [kindBehindNames, next, noName, if_neg Bool.false_ne_true]

/-! ## Readings -/

/-- A reader reads pieces as a value, if tokens of a certain sort stand behind them. -/
def Reads (r : TokenReader α) (xs : List Piece) (a : α)
    (Follows : Position → List Token → Prop) : Prop :=
  ∀ p ts finish, Follows (p.after (spell xs)) ts →
    r.run' ⟨placed p xs ++ ts, finish⟩ = (.ok a, ⟨ts, finish⟩)

theorem Reads.mono {r : TokenReader α} {xs : List Piece} {a : α}
    {Follows Fewer : Position → List Token → Prop} (reads : Reads r xs a Follows)
    (fewer : ∀ p ts, Fewer p ts → Follows p ts) : Reads r xs a Fewer :=
  fun p ts finish follows => reads p ts finish (fewer _ _ follows)

/-- A comma stands between the first and the later items of a list. -/
theorem exists_placed_commaPieces (p : Position) (xs : List Piece) {items : List (List Piece)}
    (others : items ≠ []) :
    ∃ q r, placed p (commaPieces (xs :: items)) =
      placed p xs ++ ⟨.comma, ",", q⟩ :: placed r (commaPieces items) := by
  rw [commaPieces, joined_cons_of_ne_nil xs others, List.append_assoc, placed_append]
  exact ⟨_, _, rfl⟩

section Lists

variable {β : Type} {f : β → List Piece} {g : β → α} {F : Position → List Token → Prop}
  {items : List β}

/-- Reads one item and a comma behind it. -/
def itemStep (item : TokenReader α) (found : List α) : TokenReader (List α ⊕ List α) := do
  let a ← item
  if ← accept .comma then return .inl (a :: found) else return .inr (a :: found).reverse

theorem run'_itemStep_comma {item : TokenReader α} {a : α} {s : TokenStream} {q : Position}
    {ts : List Token} {finish : Position}
    (read : item.run' s = (.ok a, ⟨⟨.comma, ",", q⟩ :: ts, finish⟩)) (found : List α) :
    (itemStep item found).run' s = (.ok (.inl (a :: found)), ⟨ts, finish⟩) := by
  rw [itemStep, run'_bind_of_ok read, run'_bind_of_ok (run'_accept_self _ _ _ _ _)]
  rfl

theorem run'_itemStep_last {item : TokenReader α} {a : α} {s : TokenStream} {ts : List Token}
    {finish : Position} (noComma : nextKind ts ≠ .comma)
    (read : item.run' s = (.ok a, ⟨ts, finish⟩)) (found : List α) :
    (itemStep item found).run' s = (.ok (.inr (found.reverse ++ [a])), ⟨ts, finish⟩) := by
  rw [itemStep, run'_bind_of_ok read, run'_bind_of_ok (run'_accept_none noComma finish),
    ← List.reverse_cons]
  rfl

/-- Reads one more item, if there is one. -/
def manyStep (item : TokenReader (Option α)) (found : List α) :
    TokenReader (List α ⊕ List α) := do
  match ← item with
  | some a => return .inl (a :: found)
  | none => return .inr found.reverse

/-- A loop that does as `itemStep` does in front of each item goes through all items. -/
theorem run'_iterate_items {item : TokenReader α}
    {step : List α → TokenReader (List α ⊕ List α)} (some : items ≠ [])
    (each : ∀ b ∈ items, Reads item (f b) (g b) F)
    (like : ∀ b ∈ items, ∀ found p ts finish,
      (step found).run' ⟨placed p (f b) ++ ts, finish⟩ =
        (itemStep item found).run' ⟨placed p (f b) ++ ts, finish⟩)
    (comma : ∀ q p ts, F q (⟨.comma, ",", p⟩ :: ts)) {p finish : Position}
    {rest : List Token} (ends : ∀ q, F q rest) (noComma : nextKind rest ≠ .comma)
    (found : List α) :
    (iterate found step).run' ⟨placed p (commaPieces (items.map f)) ++ rest, finish⟩ =
      (.ok (found.reverse ++ items.map g), ⟨rest, finish⟩) := by
  have goes : ∃ c s, Steps step found ⟨placed p (commaPieces (items.map f)) ++ rest, finish⟩ c s ∧
      (step c).run' s = (.ok (.inr (found.reverse ++ items.map g)), ⟨rest, finish⟩) := by
    induction items generalizing p found with
    | nil => exact absurd rfl some
    | cons b items ih =>
      have first := each b List.mem_cons_self
      cases items with
      | nil =>
        refine ⟨_, _, .refl _ _, ?_⟩
        refine (like b List.mem_cons_self found p rest finish).trans ?_
        exact run'_itemStep_last noComma (first p rest finish (ends _)) found
      | cons d items =>
        have others : (d :: items).map f ≠ [] := List.cons_ne_nil _ _
        obtain ⟨q, r, tokens⟩ := exists_placed_commaPieces p (f b) others
        rw [List.map_cons, tokens, List.append_assoc, List.cons_append]
        obtain ⟨c, s, steps, last⟩ := ih (p := r) (List.cons_ne_nil _ _)
          (fun d there => each d (List.mem_cons_of_mem b there))
          (fun d there => like d (List.mem_cons_of_mem b there)) (g b :: found)
        refine ⟨c, s, .next (b := g b :: found) ?_ ?_ steps, ?_⟩
        · refine (like b List.mem_cons_self found p _ finish).trans ?_
          exact run'_itemStep_comma (first p _ finish (comma _ q _)) found
        · simp only [List.length_append, List.length_cons]
          omega
        · rw [last, List.reverse_cons, List.append_assoc, List.singleton_append]
          rfl
  obtain ⟨c, s, steps, last⟩ := goes
  exact run'_iterate steps last

/-- Items with commas between them are read one by one. -/
theorem reads_commaSeparated {item : TokenReader α} (some : items ≠ [])
    (each : ∀ b ∈ items, Reads item (f b) (g b) F)
    (comma : ∀ q p ts, F q (⟨.comma, ",", p⟩ :: ts)) :
    Reads (commaSeparated item) (commaPieces (items.map f)) (items.map g)
      fun _ ts => (∀ q, F q ts) ∧ nextKind ts ≠ .comma := by
  intro p ts finish ⟨ends, noComma⟩
  exact run'_iterate_items some each (fun _ _ _ _ _ _ => rfl) comma ends noComma []

/-- Items in front of a closing token are read one by one, if none of them starts like it. -/
theorem reads_commaList {item : TokenReader α} {closer : TokenKind} (notComma : closer ≠ .comma)
    (each : ∀ b ∈ items, Reads item (f b) (g b) F)
    (starts : ∀ b ∈ items, ∀ p ts, nextKind (placed p (f b) ++ ts) ≠ closer)
    (comma : ∀ q p ts, F q (⟨.comma, ",", p⟩ :: ts)) :
    Reads (commaList closer item) (commaPieces (items.map f)) (items.map g)
      fun _ ts => (∀ q, F q ts) ∧ nextKind ts = closer := by
  intro p ts finish ⟨ends, closes⟩
  by_cases none : items = []
  · subst none
    refine run'_iterate (.refl _ _) ?_
    have at_ : (isAt closer).run' ⟨ts, finish⟩ = (.ok true, ⟨ts, finish⟩) := by
      simp [closes]
    exact run'_bind_of_ok at_
  · refine run'_iterate_items none each ?_ comma ends (by rwa [closes]) []
    intro b there found p ts finish
    have goesOn : (isAt closer).run' ⟨placed p (f b) ++ ts, finish⟩ =
        (.ok false, ⟨placed p (f b) ++ ts, finish⟩) := by
      simp [starts b there p ts]
    exact run'_bind_of_ok goesOn

theorem run'_many_none {item : TokenReader (Option α)} {s : TokenStream}
    (last : item.run' s = (.ok none, s)) : (many item).run' s = (.ok [], s) :=
  run'_iterate (.refl _ _) (run'_bind_of_ok last)

/-- Items behind each other are read as long as there is one. -/
theorem run'_many {item : TokenReader (Option α)}
    (each : ∀ b ∈ items, Reads item (f b) (some (g b)) F)
    (filled : ∀ b ∈ items, 0 < (f b).countP Piece.isToken)
    (begins : ∀ b ∈ items, ∀ q ts, F q (placed q (f b) ++ ts)) {p finish : Position}
    {rest : List Token} (ends : F (p.after (spell (items.flatMap f))) rest)
    (last : item.run' ⟨rest, finish⟩ = (.ok none, ⟨rest, finish⟩)) :
    (many item).run' ⟨placed p (items.flatMap f) ++ rest, finish⟩ =
      (.ok (items.map g), ⟨rest, finish⟩) := by
  have steps (found : List α) : Steps (manyStep item) found
      ⟨placed p (items.flatMap f) ++ rest, finish⟩ ((items.map g).reverse ++ found)
      ⟨rest, finish⟩ := by
    induction items generalizing p found with
    | nil => exact .refl _ _
    | cons b items ih =>
      rw [List.flatMap_cons, placed_append, List.append_assoc, List.map_cons, List.reverse_cons,
        List.append_assoc, List.singleton_append]
      rw [List.flatMap_cons, spell_append, Position.after_append] at ends
      have follows : F (p.after (spell (f b)))
          (placed (p.after (spell (f b))) (items.flatMap f) ++ rest) := by
        cases items with
        | nil => exact ends
        | cons d items =>
          rw [List.flatMap_cons, placed_append, List.append_assoc]
          exact begins d (List.mem_cons_of_mem b List.mem_cons_self) _ _
      have read := each b List.mem_cons_self p _ finish follows
      have later := ih (fun d there => each d (List.mem_cons_of_mem b there))
        (fun d there => filled d (List.mem_cons_of_mem b there))
        (fun d there => begins d (List.mem_cons_of_mem b there)) ends (g b :: found)
      refine .next ?_ ?_ later
      · rw [manyStep, run'_bind_of_ok read]
        rfl
      · have tokens := filled b List.mem_cons_self
        simp only [List.length_append, length_placed]
        omega
  refine run'_iterate (steps []) ?_
  refine (run'_bind_of_ok last).trans ?_
  rw [List.append_nil, List.reverse_reverse]
  rfl

end Lists

end ViewModifiers.Interface
