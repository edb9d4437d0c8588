import ViewModifiers.Interface.SyntaxError
import ViewModifiers.Interface.Token
import ViewModifiers.Text.Split

/-!
# Reading tokens

A token reader takes tokens from the front of a stream. Whether it succeeds or fails, it says where
it stopped, so that a caller can go on after a failure.

A loop is a step repeated until it gives a result. Each step that goes on has to use up a token, so
the tokens ahead at the start bound the number of steps, and the loop recurses on them.
-/

namespace ViewModifiers.Interface

/-- A reader of tokens. -/
abbrev TokenReader := ExceptT SyntaxError (StateM TokenStream)

namespace TokenReader

/-- Runs a reader: its result, and the stream it left. -/
def run' {α : Type} (r : TokenReader α) (s : TokenStream) :
    Except SyntaxError α × TokenStream := r s

/-- The token some places ahead. -/
def peek (distance : Nat) : TokenReader Token := do return (← get).peek distance

/-- The next token. -/
def current : TokenReader Token := do return (← get).current

/-- Uses up the next token and returns it. The end of the file stays. -/
def advance : TokenReader Token := do
  let s ← get
  set s.rest
  return s.current

/-- Fails with a fault found at a token. -/
def failAt {α : Type} (token : Token) (fault : Fault) : TokenReader α :=
  throw ⟨fault, token.position⟩

/-- Fails with a fault found at the next token. -/
def fail {α : Type} (fault : Fault) : TokenReader α := do failAt (← current) fault

/-- Whether the next token is of a kind. -/
def isAt (kind : TokenKind) : TokenReader Bool := do return (← current).kind = kind

/-- Whether the next token is of one of some kinds. -/
def isAtAny (kinds : List TokenKind) : TokenReader Bool := do
  return kinds.contains (← current).kind

/-- Whether the next token is an identifier of one of some spellings. -/
def isAtWord (words : List String) : TokenReader Bool := do
  let t ← current
  return t.kind = .identifier && words.contains t.value

/-- Whether the next token may stand for a name. -/
def isAtName : TokenReader Bool := do return (← current).kind.isNameLike

/-- Uses up the next token if it is of a kind, and says whether it was. -/
def accept (kind : TokenKind) : TokenReader Bool := do
  if ← isAt kind then
    let _ ← advance
    return true
  else return false

/-- Uses up a token of a kind. -/
def expect (kind : TokenKind) : TokenReader Token := do
  let t ← current
  if t.kind = kind then advance else failAt t (.expected kind.label t.shown)

/-- Uses up a name; keywords may be names too. -/
def expectName : TokenReader Token := do
  let t ← current
  if t.kind.isNameLike then advance else failAt t (.expectedName t.shown)

/-! ## What readers do

Each reader is known by its run: what it gives, and the stream that it leaves.
-/

section Run

variable {α β : Type}

@[simp] theorem run'_pure (a : α) (s : TokenStream) :
    (pure a : TokenReader α).run' s = (.ok a, s) := rfl

@[simp] theorem run'_throw (e : SyntaxError) (s : TokenStream) :
    (throw e : TokenReader α).run' s = (.error e, s) := rfl

/-- A reader goes on where the one before it has stopped, unless that one has failed. -/
theorem run'_bind (r : TokenReader α) (f : α → TokenReader β) (s : TokenStream) :
    (r >>= f).run' s =
      match r.run' s with
      | (.ok a, s') => (f a).run' s'
      | (.error e, s') => (.error e, s') := by
  show ExceptT.bind r f s = _
  simp only [ExceptT.bind, ExceptT.mk, ExceptT.bindCont, run', bind, StateT.bind]
  rcases r s with ⟨_ | _, _⟩ <;> rfl

theorem run'_map (f : α → β) (r : TokenReader α) (s : TokenStream) :
    (f <$> r).run' s = ((r.run' s).1.map f, (r.run' s).2) := by
  rw [map_eq_pure_bind, run'_bind]
  rcases r.run' s with ⟨_ | _, _⟩ <;> rfl

@[simp] theorem run'_peek (n : Nat) (s : TokenStream) : (peek n).run' s = (.ok (s.peek n), s) := rfl

@[simp] theorem run'_current (s : TokenStream) : current.run' s = (.ok s.current, s) := rfl

@[simp] theorem run'_advance (s : TokenStream) : advance.run' s = (.ok s.current, s.rest) := rfl

@[simp] theorem run'_isAt (kind : TokenKind) (s : TokenStream) :
    (isAt kind).run' s = (.ok (decide (s.current.kind = kind)), s) := rfl

theorem run'_accept (kind : TokenKind) (s : TokenStream) :
    (accept kind).run' s =
      if s.current.kind = kind then (.ok true, s.rest) else (.ok false, s) := by
  by_cases h : s.current.kind = kind <;> simp [accept, run'_bind, run'_map, h] <;> rfl

theorem run'_expect (kind : TokenKind) (s : TokenStream) :
    (expect kind).run' s =
      if s.current.kind = kind then (.ok s.current, s.rest)
      else (.error ⟨.expected kind.label s.current.shown, s.current.position⟩, s) := by
  by_cases h : s.current.kind = kind <;> simp [expect, failAt, run'_bind, h]

theorem run'_expectName (s : TokenStream) :
    expectName.run' s =
      if s.current.kind.isNameLike then (.ok s.current, s.rest)
      else (.error ⟨.expectedName s.current.shown, s.current.position⟩, s) := by
  by_cases h : s.current.kind.isNameLike <;> simp [expectName, failAt, run'_bind, h]

end Run

/-! ## Loops -/

/-- Repeats a step as long as it goes on, at most once more than there are tokens to measure it. -/
def iterateFrom {σ β : Type} (step : σ → TokenReader (σ ⊕ β)) :
    List Token → σ → TokenReader β
  | [], s => do
    match ← step s with
    | .inl _ => fail .nestedTooDeeply
    | .inr b => pure b
  | _ :: measure, s => do
    match ← step s with
    | .inl s' => iterateFrom step measure s'
    | .inr b => pure b

/-- Repeats a step that uses up tokens until it gives a result. -/
def iterate {σ β : Type} (start : σ) (step : σ → TokenReader (σ ⊕ β)) : TokenReader β := do
  iterateFrom step (← get).ahead start

/-- Reads items as long as there is one. -/
def many {α : Type} (item : TokenReader (Option α)) : TokenReader (List α) :=
  iterate [] fun found => do
    match ← item with
    | some a => return .inl (a :: found)
    | none => return .inr found.reverse

/-- Reads one or more items with commas between them. -/
def commaSeparated {α : Type} (item : TokenReader α) : TokenReader (List α) :=
  iterate [] fun found => do
    let a ← item
    if ← accept .comma then return .inl (a :: found) else return .inr (a :: found).reverse

/-- Reads items with commas between them up to a closing token, which is left; a comma may stand
behind the last item. -/
def commaList {α : Type} (closer : TokenKind) (item : TokenReader α) : TokenReader (List α) :=
  iterate [] fun found => do
    if ← isAt closer then return .inr found.reverse
    else
      let a ← item
      if ← accept .comma then return .inl (a :: found) else return .inr (a :: found).reverse

/-! ## Brackets -/

/-- The tokens of a bracketed group up to the bracket that closes it, and the tokens behind it. The
open brackets are a stack of the closers that are due. -/
def groupFrom (opener : Token) (finish : Source.Position) :
    List TokenKind → List Token → List Token → Except SyntaxError (List Token) × TokenStream
  | _, _, [] => (.error ⟨.unclosedBracket opener.value, opener.position⟩, ⟨[], finish⟩)
  | due, inner, t :: ts =>
    match t.kind.closer? with
    | some closer => groupFrom opener finish (closer :: due) (t :: inner) ts
    | none =>
      if t.kind.isCloser then
        if due.head? = some t.kind then
          if due.tail.isEmpty then (.ok inner.reverse, ⟨ts, finish⟩)
          else groupFrom opener finish due.tail (t :: inner) ts
        else (.error ⟨.mismatchedBracket t.value, t.position⟩, ⟨ts, finish⟩)
      else groupFrom opener finish due (t :: inner) ts

/-- Uses up a bracketed group and returns the tokens inside it. -/
def bracketGroup : TokenReader (List Token) := do
  let opener ← advance
  match opener.kind.closer? with
  | none => failAt opener (.noBracket opener.shown)
  | some closer => fun s => groupFrom opener s.finish [closer] [] s.ahead

/-- Uses up a bracketed group if one starts right behind a token. -/
def groupBehind? (token : Token) : TokenReader (Option (List Token)) := do
  let t ← current
  if t.kind = .openParen && token.isFollowedBy t then return some (← bracketGroup)
  else return none

/-- Uses up an expression, up to a closing token of some kinds outside all brackets. -/
def passExpression (terminators : List TokenKind) : TokenReader Unit :=
  iterate () fun _ => do
    let t ← current
    if t.kind = .endOfFile || terminators.contains t.kind then return .inr ()
    else
      if t.kind.closer?.isSome then let _ ← bracketGroup else let _ ← advance
      return .inl ()

/-! ## Names -/

/-- Reads names joined by dots; returns them with the last one's token. -/
def dottedNames : TokenReader (List String × Token) := do
  let first ← expectName
  iterate ([first.value], first) fun (names, last) => do
    if (← isAt .dot) && (← peek 1).kind.isNameLike then
      let _ ← advance
      let t ← advance
      return .inl (t.value :: names, t)
    else return .inr (names.reverse, last)

/-- Reads names joined by dots as one text. -/
def dottedName : TokenReader String := do return Text.joinWith "." (← dottedNames).1

end TokenReader

end ViewModifiers.Interface
