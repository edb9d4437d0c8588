import ViewModifiers.Stylesheet.Failure

/-!
# Reading from a cursor

A reader takes tokens from the front of a cursor. Whether it succeeds or fails, it says where it
left the cursor; going back after a failure is up to those who try alternatives.

A loop goes on only behind a comma, which is used up, so the tokens ahead at its start bound the
number of items, and the loop recurses on them.
-/

namespace ViewModifiers.Stylesheet

/-- A reader of tokens. -/
abbrev Reader := ExceptT Failure (StateM Cursor)

namespace Reader

/-- Runs a reader: its result, and the cursor it left. -/
def run' {α : Type} (r : Reader α) (c : Cursor) : Except Failure α × Cursor := r c

/-- The token some places ahead. -/
def peek (distance : Nat) : Reader Token := do return (← get).peek distance

/-- The next token. -/
def current : Reader Token := do return (← get).current

/-- Uses up the next token and returns it. The end of the text stays. -/
def advance : Reader Token := do
  let c ← get
  set c.rest
  return c.current

/-- Fails with a fault found at a token. -/
def failAt {α : Type} (token : Token) (cause : Cause) : Reader α :=
  throw (.malformed ⟨cause, token.position⟩)

/-- Fails with a fault found at the next token. -/
def fail {α : Type} (cause : Cause) : Reader α := do failAt (← current) cause

/-- Fails because the next token is not what is wanted. -/
def failExpecting {α : Type} (what : Expectation) : Reader α := do
  let t ← current
  failAt t (.expected what t)

/-- Whether the next token is of a kind. -/
def isAt (kind : TokenKind) : Reader Bool := do return (← current).kind = kind

/-- Whether the next token is a certain word. -/
def isAtWord (word : String) : Reader Bool := do
  let t ← current
  return t.kind = .name && t.value = word

/-- Whether a name with a colon comes next. -/
def isAtKey : Reader Bool := do
  return (← current).kind = .name && (← peek 1).kind = .colon

/-- Whether nothing is left. -/
def isAtEnd : Reader Bool := isAt .endOfText

/-- Uses up the next token if it is of a kind, and says whether it was. -/
def accept (kind : TokenKind) : Reader Bool := do
  if ← isAt kind then
    let _ ← advance
    return true
  else return false

/-- Uses up a token of a kind, which is wanted as something. -/
def expectAs (what : Expectation) (kind : TokenKind) : Reader Token := do
  if ← isAt kind then advance else failExpecting what

/-- Uses up a token of a kind. -/
def expect (kind : TokenKind) : Reader Token := expectAs (.sign kind) kind

/-- Uses up a name and its colon. -/
def key : Reader String := do
  let name ← advance
  let _ ← advance
  return name.value

/-! ## Going back -/

/-- Reads and goes back to where it started, whether reading succeeds or fails. -/
def lookingAhead {α : Type} (r : Reader α) : Reader α := fun c => ((r c).1, c)

/-- Tries a reader. A failure that is to be captured is returned, and the cursor goes back to where
it was; any other failure stands. -/
def attemptFor {α : Type} (captured : Failure → Bool) (r : Reader α) :
    Reader (Except Failure α) := fun c =>
  match r c with
  | (.ok a, c') => (.ok (.ok a), c')
  | (.error e, c') => if captured e then (.ok (.error e), c) else (.error e, c')

/-- Tries a reader and captures the failures that are the stylesheet's. -/
def attempt {α : Type} (r : Reader α) : Reader (Except Failure α) :=
  attemptFor Failure.isStylesheet r

/-- Tries a reader and captures every failure. -/
def attemptAny {α : Type} (r : Reader α) : Reader (Except Failure α) :=
  attemptFor (fun _ => true) r

/-! ## What readers do

Each reader is known by its run: what it gives, and the cursor that it leaves.
-/

section Run

variable {α β : Type}

@[simp] theorem run'_pure (a : α) (c : Cursor) : (pure a : Reader α).run' c = (.ok a, c) := rfl

@[simp] theorem run'_throw (e : Failure) (c : Cursor) :
    (throw e : Reader α).run' c = (.error e, c) := rfl

/-- A reader goes on where the one before it has stopped, unless that one has failed. -/
theorem run'_bind (r : Reader α) (f : α → Reader β) (c : Cursor) :
    (r >>= f).run' c =
      match r.run' c with
      | (.ok a, c') => (f a).run' c'
      | (.error e, c') => (.error e, c') := by
  show ExceptT.bind r f c = _
  simp only [ExceptT.bind, ExceptT.mk, ExceptT.bindCont, run', bind, StateT.bind]
  rcases r c with ⟨_ | _, _⟩ <;> rfl

theorem run'_map (f : α → β) (r : Reader α) (c : Cursor) :
    (f <$> r).run' c = ((r.run' c).1.map f, (r.run' c).2) := by
  rw [map_eq_pure_bind, run'_bind]
  rcases r.run' c with ⟨_ | _, _⟩ <;> rfl

@[simp] theorem run'_peek (n : Nat) (c : Cursor) : (peek n).run' c = (.ok (c.peek n), c) := rfl

@[simp] theorem run'_current (c : Cursor) : current.run' c = (.ok c.current, c) := rfl

@[simp] theorem run'_advance (c : Cursor) : advance.run' c = (.ok c.current, c.rest) := rfl

@[simp] theorem run'_isAt (kind : TokenKind) (c : Cursor) :
    (isAt kind).run' c = (.ok (decide (c.current.kind = kind)), c) := rfl

theorem run'_accept (kind : TokenKind) (c : Cursor) :
    (accept kind).run' c =
      if c.current.kind = kind then (.ok true, c.rest) else (.ok false, c) := by
  by_cases h : c.current.kind = kind <;> simp [accept, run'_bind, run'_map, h] <;> rfl

theorem run'_expectAs (what : Expectation) (kind : TokenKind) (c : Cursor) :
    (expectAs what kind).run' c =
      if c.current.kind = kind then (.ok c.current, c.rest)
      else (.error (.malformed ⟨.expected what c.current, c.current.position⟩), c) := by
  by_cases h : c.current.kind = kind <;> simp [expectAs, failExpecting, failAt, run'_bind, h]

/-- Looking ahead never moves the cursor. -/
@[simp] theorem run'_lookingAhead (r : Reader α) (c : Cursor) :
    (lookingAhead r).run' c = ((r.run' c).1, c) := rfl

theorem run'_attemptFor_ok {captured : Failure → Bool} {r : Reader α} {c c' : Cursor} {a : α}
    (h : r.run' c = (.ok a, c')) : (attemptFor captured r).run' c = (.ok (.ok a), c') := by
  simp only [run', attemptFor] at *
  rw [h]

/-- A captured failure leaves the cursor where it was before the attempt. -/
theorem run'_attemptFor_error {captured : Failure → Bool} {r : Reader α} {c c' : Cursor}
    {e : Failure} (h : r.run' c = (.error e, c')) :
    (attemptFor captured r).run' c =
      if captured e then (.ok (.error e), c) else (.error e, c') := by
  simp only [run', attemptFor] at *
  rw [h]

end Run

/-! ## Lists -/

/-- Reads one more item before a closing bracket and says whether a comma follows it. -/
def nextItem {α : Type} (item : Reader α) : Reader (Option (α × Bool)) := do
  if ← isAt .closeBracket then return none
  else
    let a ← item
    return some (a, ← accept .comma)

/-- Reads items with commas between them up to a closing bracket, which is left; a comma may stand
behind the last item. -/
def itemsFrom {α : Type} (item : Reader α) (measure : List Token) (found : List α) :
    Reader (List α) := do
  match ← nextItem item with
  | none => return found.reverse
  | some (a, false) => return (a :: found).reverse
  | some (a, true) =>
    match measure with
    | [] => fail .endless
    | _ :: measure => itemsFrom item measure (a :: found)

/-- Reads items with commas between them in square brackets. -/
def bracketed {α : Type} (what : Expectation) (item : Reader α) : Reader (List α) := do
  let _ ← expectAs what .openBracket
  let items ← itemsFrom item (← get).ahead []
  let _ ← expect .closeBracket
  return items

end Reader

end ViewModifiers.Stylesheet
