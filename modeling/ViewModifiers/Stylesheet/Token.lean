import ViewModifiers.Source.Position

/-!
# Tokens of a stylesheet

A stylesheet writes a modifier as a call: a name, metadata and arguments between braces. A cursor
holds the tokens that are still ahead; the end of the text is not among them, but stands behind all
of them at a position of its own and can be looked at any number of times.
-/

namespace ViewModifiers.Stylesheet

open Source

/-- The kinds of tokens. -/
inductive TokenKind
  | openBrace
  | closeBrace
  | openBracket
  | closeBracket
  | comma
  | colon
  | dot
  | number
  | string
  | atom
  | name
  | endOfText
  deriving DecidableEq, Repr, Inhabited

namespace TokenKind

/-- The name of a kind; a sign is its own name. -/
def label : TokenKind → String
  | openBrace => "\x7b"
  | closeBrace => "\x7d"
  | openBracket => "["
  | closeBracket => "]"
  | comma => ","
  | colon => ":"
  | dot => "."
  | number => "NUMBER"
  | string => "STRING"
  | atom => "ATOM"
  | name => "IDENT"
  | endOfText => "EOF"

/-- All kinds. -/
def all : List TokenKind :=
  [openBrace, closeBrace, openBracket, closeBracket, comma, colon, dot, number, string, atom, name,
    endOfText]

/-- The kind with a given name. -/
def ofLabel? (s : String) : Option TokenKind := all.find? fun k => k.label = s

/-- The kind of a character that is a token by itself. -/
def ofSign? (c : Char) : Option TokenKind :=
  match c with
  | '\x7b' => some openBrace
  | '\x7d' => some closeBrace
  | '[' => some openBracket
  | ']' => some closeBracket
  | ',' => some comma
  | ':' => some colon
  | '.' => some dot
  | _ => none

theorem ofLabel?_label (k : TokenKind) : ofLabel? k.label = some k := by
  cases k <;> decide

end TokenKind

/-- A token. The value of a string or an atom is what it stands for, not how it is written. -/
structure Token where
  kind : TokenKind
  value : String
  position : Position
  deriving DecidableEq, Repr, Inhabited

/-- A token as error texts show it. -/
def Token.shown (t : Token) : String :=
  match t.kind with
  | .endOfText => "end of input"
  | .string => "\"" ++ t.value ++ "\""
  | .atom => ":" ++ t.value
  | _ => t.value

/-- The tokens ahead, and the position of the end of the text behind them. -/
structure Cursor where
  ahead : List Token
  finish : Position
  deriving DecidableEq, Repr, Inhabited

namespace Cursor

/-- The token that stands for the end of the text. -/
def endToken (c : Cursor) : Token := ⟨.endOfText, "", c.finish⟩

/-- The token some places ahead; beyond the last one it is the end of the text. -/
def peek (c : Cursor) (distance : Nat) : Token := c.ahead.getD distance c.endToken

/-- The next token. -/
def current (c : Cursor) : Token := c.peek 0

/-- The cursor behind the next token. -/
def rest (c : Cursor) : Cursor := { c with ahead := c.ahead.tail }

/-- All tokens ahead, with the end of the text. -/
def toList (c : Cursor) : List Token := c.ahead ++ [c.endToken]

@[simp] theorem current_cons (t : Token) (ts : List Token) (p : Position) :
    (⟨t :: ts, p⟩ : Cursor).current = t := rfl

@[simp] theorem current_nil (p : Position) :
    (⟨[], p⟩ : Cursor).current = ⟨.endOfText, "", p⟩ := rfl

@[simp] theorem rest_cons (t : Token) (ts : List Token) (p : Position) :
    (⟨t :: ts, p⟩ : Cursor).rest = ⟨ts, p⟩ := rfl

end Cursor

end ViewModifiers.Stylesheet
