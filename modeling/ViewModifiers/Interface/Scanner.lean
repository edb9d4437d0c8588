import ViewModifiers.Interface.SyntaxError
import ViewModifiers.Interface.Token
import ViewModifiers.Text.Blank
import ViewModifiers.Text.Digit
import ViewModifiers.Text.Letter
import ViewModifiers.Text.Split

/-!
# From text to tokens

The scanner looks at the front of the remaining text and finds a lexeme there: a blank, a compiler
directive or a token. A reader returns what it read together with the number of characters that it
takes up, and positions are computed in one place, from those characters.

Conditional compilation is settled here. The first branch of every `#if` is kept and the others are
dropped; in a dropped branch only directives, comments and quoted strings are looked at, so that
their contents stay inert.
-/

namespace ViewModifiers.Interface

open Source Text

/-- A fault at a distance from the start of the lexeme in which it was found. -/
structure LocalFault where
  fault : Fault
  offset : Nat
  deriving DecidableEq, Repr

/-- What a reader found at the front of a text: a value and the number of characters it takes. -/
abbrev Found (α : Type) := Except LocalFault (α × Nat)

/-- A fault reported at the start of its lexeme. -/
def faultAtStart {α : Type} (fault : Fault) : Found α := .error ⟨fault, 0⟩

/-- The compiler directives, by what they do to conditional compilation. -/
inductive Directive
  | opening
  | alternative (name : String)
  | closing
  | remark
  deriving DecidableEq, Repr

/-- The directive with a given name; every other name after `#` makes an identifier. -/
def Directive.ofName? (name : String) : Option Directive :=
  match name with
  | "if" => some opening
  | "elseif" => some (alternative name)
  | "else" => some (alternative name)
  | "endif" => some closing
  | "warning" => some remark
  | "error" => some remark
  | "sourceLocation" => some remark
  | _ => none

/-- What stands at the front of a text. -/
inductive Lexeme
  | blank
  | directive (directive : Directive)
  | token (kind : TokenKind) (value : String)
  deriving DecidableEq, Repr

/-! ## Character classes -/

/-- The characters of which operators are made. -/
def isOperatorChar (c : Char) : Bool :=
  ['=', '-', '+', '!', '*', '/', '%', '<', '>', '&', '|', '^', '~', '?', '.'].contains c

/-- The characters that a run of operator characters may take in one token. -/
def isRunChar (c : Char) : Bool := isOperatorChar c && !(['<', '>', '?'].contains c)

/-- The characters that separate tokens. -/
def isSeparator (c : Char) : Bool := [' ', '\t', '\r', '\n'].contains c

/-- The characters of an identifier. -/
def isNameChar (c : Char) : Bool := isAlphanumeric c || c = '_' || c = '$'

/-- The kinds of the signs that are tokens by themselves. -/
def punctuation? (c : Char) : Option TokenKind :=
  match c with
  | '\x7b' => some .openBrace
  | '\x7d' => some .closeBrace
  | '(' => some .openParen
  | ')' => some .closeParen
  | '[' => some .openBracket
  | ']' => some .closeBracket
  | '<' => some .lessThan
  | '>' => some .greaterThan
  | ',' => some .comma
  | ':' => some .colon
  | ';' => some .semicolon
  | '?' => some .question
  | '@' => some .atSign
  | '&' => some .ampersand
  | '*' => some .star
  | _ => none

/-! ## Readers -/

/-- The characters up to the end of the line. -/
def lineSize (cs : List Char) : Nat := (cs.takeWhile (· ≠ '\n')).length

/-- The size of a block comment, given how many are open and how much has been read. -/
def commentSize : Nat → Nat → List Char → Found Unit
  | open_, size, '/' :: '*' :: cs => commentSize (open_ + 1) (size + 2) cs
  | open_, size, '*' :: '/' :: cs =>
    if open_ ≤ 1 then .ok ((), size + 2) else commentSize (open_ - 1) (size + 2) cs
  | open_, size, _ :: cs => commentSize open_ (size + 1) cs
  | _, _, [] => faultAtStart .unterminatedComment

/-- The rest of a one-line string behind its opening quote. The first argument counts the open
parentheses of an interpolation, which is kept as it is written; the text read so far is passed in
reverse. -/
def stringBody : Nat → List Char → Nat → List Char → Found String
  | 0, text, size, '"' :: _ => .ok (String.ofList text.reverse, size + 1)
  | 0, _, _, '\n' :: _ => faultAtStart .unterminatedString
  | 0, text, size, '\\' :: 'n' :: cs => stringBody 0 ('\n' :: text) (size + 2) cs
  | 0, text, size, '\\' :: 't' :: cs => stringBody 0 ('\t' :: text) (size + 2) cs
  | 0, text, size, '\\' :: '(' :: cs => stringBody 1 ('(' :: '\\' :: text) (size + 2) cs
  | 0, text, size, '\\' :: c :: cs => stringBody 0 (c :: text) (size + 2) cs
  | 0, text, size, c :: cs => stringBody 0 (c :: text) (size + 1) cs
  | 0, _, _, [] => faultAtStart .unterminatedString
  | depth + 1, text, size, c :: cs =>
    if c = '\n' then .error ⟨.unterminatedInterpolation, size⟩
    else if c = '(' then stringBody (depth + 2) (c :: text) (size + 1) cs
    else if c = ')' then stringBody depth (c :: text) (size + 1) cs
    else stringBody (depth + 1) (c :: text) (size + 1) cs
  | _ + 1, _, size, [] => .error ⟨.unterminatedInterpolation, size⟩

/-- The text of a string of several lines: blanks around each line do not count, nor do line ends
at the two ends. -/
def multilineText (body : List Char) : String :=
  Text.joinWith "\n" ((pieces '\n' (trimChar '\n' body)).map fun l => String.ofList (trimBlanks l))

/-- A string at the front of a text that starts with a double quote. -/
def stringLexeme : List Char → Found String
  | '"' :: '"' :: '"' :: cs =>
    match distanceTo ['"', '"', '"'] cs with
    | none => faultAtStart .unterminatedMultilineString
    | some n => .ok (multilineText (cs.take n), n + 6)
  | cs => stringBody 0 [] 1 cs.tail

/-- A raw string: as many `#` as at the front end it, and nothing in it is an escape. -/
def rawStringLexeme (cs : List Char) : Found String :=
  let hashes := cs.takeWhile (· = '#')
  let body := cs.drop (hashes.length + 1)
  match distanceTo ('"' :: hashes) body with
  | none => faultAtStart .unterminatedRawString
  | some n => .ok (String.ofList (body.take n), n + 2 * (hashes.length + 1))

/-- A number; a dot belongs to it only before a digit, as in a version number. -/
def numberChars : List Char → List Char
  | [] => []
  | c :: cs =>
    if isAlphanumeric c || c = '_' then c :: numberChars cs
    else if c = '.' && cs.head?.any isDigit then c :: numberChars cs
    else []

/-- The token kind of a word. -/
def wordKind (word : String) : TokenKind :=
  match Keyword.ofSpelling? word with
  | some k => .keyword k
  | none => .identifier

/-- A name between backticks, which is an identifier whatever it says. -/
def escapedName (cs : List Char) : Found Lexeme :=
  let name := cs.tail.takeWhile fun c => c ≠ '\x60' && c ≠ '\n'
  if cs[name.length + 1]? = some '\x60' then
    .ok (.token .identifier (String.ofList name), name.length + 2)
  else faultAtStart .unterminatedEscapedName

/-- A token whose text is exactly the given characters. -/
def verbatim (kind : TokenKind) (cs : List Char) : Found Lexeme :=
  .ok (.token kind (String.ofList cs), cs.length)

/-- The directive after a `#`, if its name is one. -/
def directiveAhead? (cs : List Char) : Option Directive :=
  Directive.ofName? (String.ofList (cs.takeWhile isLetter))

/-- The token at the front of a text, given its first character and the rest. -/
def tokenLexeme (c : Char) (cs : List Char) : Found Lexeme :=
  let next := cs.head?
  if c = '#' then
    if next = some '"' || next = some '#' then
      (rawStringLexeme (c :: cs)).map fun (s, n) => (.token .string s, n)
    else verbatim .identifier (c :: cs.takeWhile isNameChar)
  else if c = '"' then (stringLexeme (c :: cs)).map fun (s, n) => (.token .string s, n)
  else if isDigit c then verbatim .number (numberChars (c :: cs))
  else if c = '\x60' then escapedName (c :: cs)
  else if isLetter c || c = '_' || c = '$' then
    let word := (c :: cs).takeWhile isNameChar
    verbatim (wordKind (String.ofList word)) word
  else if c = '-' && next = some '>' then verbatim .arrow ['-', '>']
  else if c = '.' then
    if ['.', '.'].isPrefixOf cs then verbatim .ellipsis ['.', '.', '.'] else verbatim .dot ['.']
  else if c = '!' && next ≠ some '=' then verbatim .bang ['!']
  else if c = '=' && next ≠ some '=' && next ≠ some '>' then verbatim .equals ['=']
  else if isOperatorChar c && !(['<', '>', '?', '&', '*'].contains c)
      || (c = '&' || c = '*') && next.any isOperatorChar then
    verbatim .symbol ((c :: cs).takeWhile isRunChar)
  else match punctuation? c with
    | some kind => verbatim kind [c]
    | none =>
      if c = '\'' || c = '\\' then verbatim .symbol [c] else faultAtStart (.strayCharacter c)

/-- The lexeme at the front of a text, given its first character and the rest. In a dropped branch
nothing but a directive counts. -/
def lexeme (dropping : Bool) (c : Char) (cs : List Char) : Found Lexeme :=
  if isSeparator c then .ok (.blank, 1)
  else if c = '/' && cs.head? = some '/' then .ok (.blank, lineSize (c :: cs))
  else if c = '/' && cs.head? = some '*' then
    (commentSize 0 0 (c :: cs)).map fun (_, n) => (.blank, n)
  else match if c = '#' then directiveAhead? cs else none with
    | some d => .ok (.directive d, lineSize (c :: cs))
    | none =>
      if dropping then
        if c = '"' then (stringLexeme (c :: cs)).map fun (_, n) => (.blank, n)
        else .ok (.blank, 1)
      else tokenLexeme c cs

/-! ## The scanner -/

/-- An open `#if`: where it stands, and whether the branch being read is dropped. -/
structure Conditional where
  opened : Position
  dropped : Bool
  deriving DecidableEq, Repr, Inhabited

/-- What the scanner knows between two lexemes. -/
structure Scanner where
  position : Position
  conditionals : List Conditional
  tokens : Array Token
  deriving Repr, Inhabited

namespace Scanner

/-- The scanner before any text. -/
def initial : Scanner := ⟨.start, [], #[]⟩

/-- Whether the branch being read is dropped. -/
def dropping (s : Scanner) : Bool := s.conditionals.head?.any (·.dropped)

/-- Takes note of a lexeme that starts at the scanner's position. -/
def note (s : Scanner) : Lexeme → Except SyntaxError Scanner
  | .blank => .ok s
  | .token kind value => .ok { s with tokens := s.tokens.push ⟨kind, value, s.position⟩ }
  | .directive .opening =>
    .ok { s with conditionals := ⟨s.position, s.dropping⟩ :: s.conditionals }
  | .directive (.alternative name) =>
    match s.conditionals with
    | [] => .error ⟨.unopenedConditional name, s.position⟩
    | frame :: outer => .ok { s with conditionals := { frame with dropped := true } :: outer }
  | .directive .closing =>
    match s.conditionals with
    | [] => .error ⟨.unopenedConditional "endif", s.position⟩
    | _ :: outer => .ok { s with conditionals := outer }
  | .directive .remark => .ok s

/-- Moves the scanner's position over a character. -/
def step (s : Scanner) (c : Char) : Scanner := { s with position := s.position.next c }

/-- The tokens, if every `#if` was closed. -/
def finish (s : Scanner) : Except SyntaxError TokenStream :=
  match s.conditionals with
  | [] => .ok ⟨s.tokens.toList, s.position⟩
  | frame :: _ => .error ⟨.unclosedConditional, frame.opened⟩

/-- Reads a text to its end; `pending` characters at its front belong to the lexeme noted last. -/
def run : Nat → List Char → Scanner → Except SyntaxError TokenStream
  | _, [], s => s.finish
  | pending + 1, c :: cs, s => run pending cs (s.step c)
  | 0, c :: cs, s =>
    match lexeme s.dropping c cs with
    | .error e => .error ⟨e.fault, s.position.after ((c :: cs).take e.offset)⟩
    | .ok (l, size) =>
      match s.note l with
      | .error e => .error e
      | .ok noted => run (size - 1) cs (noted.step c)

end Scanner

/-- The tokens of an interface text. -/
def scan (text : String) : Except SyntaxError TokenStream := Scanner.run 0 text.toList .initial

end ViewModifiers.Interface
