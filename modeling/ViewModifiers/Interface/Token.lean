import ViewModifiers.Source.Position

/-!
# Tokens of the interface language

A token is a kind, the text it stands for and the position of its first character. Operator runs
that have no meaning of their own are `symbol` tokens; `<` and `>` are always single tokens, so
that nested generic argument lists close one level at a time.
-/

namespace ViewModifiers.Interface

open Source

/-- The words that are never plain identifiers. -/
inductive Keyword
  | importing | extending | enumType | structType | classType | protocolType | actorType
  | function | enumCase | varBinding | letBinding | initializer | deinitializer | subscripting
  | typeAlias | associatedType | operatorSign | precedenceGroup | macroRule
  | whereClause | someOf | anyOf | inOut | throwing | rethrowing | asynchronous
  deriving DecidableEq, Repr, Inhabited

namespace Keyword

/-- The word as it is written. -/
def spelling : Keyword → String
  | importing => "import"
  | extending => "extension"
  | enumType => "enum"
  | structType => "struct"
  | classType => "class"
  | protocolType => "protocol"
  | actorType => "actor"
  | function => "func"
  | enumCase => "case"
  | varBinding => "var"
  | letBinding => "let"
  | initializer => "init"
  | deinitializer => "deinit"
  | subscripting => "subscript"
  | typeAlias => "typealias"
  | associatedType => "associatedtype"
  | operatorSign => "operator"
  | precedenceGroup => "precedencegroup"
  | macroRule => "macro"
  | whereClause => "where"
  | someOf => "some"
  | anyOf => "any"
  | inOut => "inout"
  | throwing => "throws"
  | rethrowing => "rethrows"
  | asynchronous => "async"

/-- Every keyword once. -/
def all : List Keyword :=
  [importing, extending, enumType, structType, classType, protocolType, actorType, function,
    enumCase, varBinding, letBinding, initializer, deinitializer, subscripting, typeAlias,
    associatedType, operatorSign, precedenceGroup, macroRule, whereClause, someOf, anyOf, inOut,
    throwing, rethrowing, asynchronous]

theorem mem_all (k : Keyword) : k ∈ all := by cases k <;> decide

/-- The keyword with a given spelling. -/
def ofSpelling? (s : String) : Option Keyword := all.find? (·.spelling == s)

theorem ofSpelling?_spelling (k : Keyword) : ofSpelling? k.spelling = some k := by
  cases k <;> decide

theorem spelling_of_ofSpelling? {s : String} {k : Keyword} (h : ofSpelling? s = some k) :
    k.spelling = s := by
  simpa using List.find?_some h

end Keyword

/-- The kinds of tokens. -/
inductive TokenKind
  | identifier | string | number
  | keyword (word : Keyword)
  | atSign | openBrace | closeBrace | openParen | closeParen | openBracket | closeBracket
  | lessThan | greaterThan | comma | colon | semicolon | dot | ellipsis | question | bang
  | equals | arrow | ampersand | star | symbol | endOfFile
  deriving DecidableEq, Repr, Inhabited

namespace TokenKind

/-- The name of a kind in error texts: its spelling, where it has only one. -/
def label : TokenKind → String
  | identifier => "IDENTIFIER"
  | string => "STRING"
  | number => "NUMBER"
  | keyword word => word.spelling
  | atSign => "@"
  | openBrace => "\x7b"
  | closeBrace => "\x7d"
  | openParen => "("
  | closeParen => ")"
  | openBracket => "["
  | closeBracket => "]"
  | lessThan => "<"
  | greaterThan => ">"
  | comma => ","
  | colon => ":"
  | semicolon => ";"
  | dot => "."
  | ellipsis => "..."
  | question => "?"
  | bang => "!"
  | equals => "="
  | arrow => "->"
  | ampersand => "&"
  | star => "*"
  | symbol => "SYMBOL"
  | endOfFile => "EOF"

/-- The kinds without a text of their own choosing, apart from the keywords. -/
def simple : List TokenKind :=
  [identifier, string, number, atSign, openBrace, closeBrace, openParen, closeParen, openBracket,
    closeBracket, lessThan, greaterThan, comma, colon, semicolon, dot, ellipsis, question, bang,
    equals, arrow, ampersand, star, symbol, endOfFile]

/-- The kind with a given name. -/
def ofLabel? (s : String) : Option TokenKind :=
  (simple ++ Keyword.all.map keyword).find? (·.label == s)

/-- Whether a token of this kind may stand where a name is expected. -/
def isNameLike : TokenKind → Bool
  | identifier => true
  | keyword _ => true
  | _ => false

/-- The closing bracket that belongs to an opening one. -/
def closer? : TokenKind → Option TokenKind
  | openParen => some closeParen
  | openBracket => some closeBracket
  | openBrace => some closeBrace
  | _ => none

/-- Whether this is a closing bracket. -/
def isCloser : TokenKind → Bool
  | closeParen | closeBracket | closeBrace => true
  | _ => false

end TokenKind

/-- A token with the position of its first character. -/
structure Token where
  kind : TokenKind
  value : String
  position : Position
  deriving DecidableEq, Repr, Inhabited

namespace Token

/-- The token's text, or the name of its kind if it has none. -/
def shown (t : Token) : String := if t.value = "" then t.kind.label else t.value

/-- Whether a token starts on the same line right where another one ends. -/
def isFollowedBy (left right : Token) : Bool :=
  left.position.line = right.position.line
    && left.position.column + left.value.length = right.position.column

end Token

/-- The tokens still to be read. The end of the file is itself a token, which is never used up. -/
structure TokenStream where
  ahead : List Token
  finish : Position
  deriving DecidableEq, Repr, Inhabited

namespace TokenStream

/-- The token that stands for the end of the file. -/
def endToken (s : TokenStream) : Token := ⟨.endOfFile, "", s.finish⟩

/-- The token some places ahead; behind the last one the end of the file repeats. -/
def peek (s : TokenStream) (distance : Nat) : Token := s.ahead[distance]?.getD s.endToken

/-- The next token. -/
def current (s : TokenStream) : Token := s.peek 0

/-- The stream without its next token. -/
def rest (s : TokenStream) : TokenStream := { s with ahead := s.ahead.tail }

/-- All tokens, the end of the file included. -/
def toList (s : TokenStream) : List Token := s.ahead ++ [s.endToken]

@[simp] theorem current_cons (t : Token) (ts : List Token) (p : Position) :
    current ⟨t :: ts, p⟩ = t := rfl

@[simp] theorem current_nil (p : Position) : current ⟨[], p⟩ = ⟨.endOfFile, "", p⟩ := rfl

@[simp] theorem rest_cons (t : Token) (ts : List Token) (p : Position) :
    rest ⟨t :: ts, p⟩ = ⟨ts, p⟩ := rfl

end TokenStream

end ViewModifiers.Interface
