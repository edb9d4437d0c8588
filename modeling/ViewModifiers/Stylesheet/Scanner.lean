import ViewModifiers.Stylesheet.Fault
import ViewModifiers.Text.Blank
import ViewModifiers.Text.Digit

/-!
# From stylesheet text to tokens

Every lexeme is found at the front of the remaining text, together with the number of characters
that it takes up. Positions are computed in one place, from those characters, so that the lexemes
tile the text up to its end or to the first character that starts none.
-/

namespace ViewModifiers.Stylesheet

open Source Text

/-- What stands at the front of a text. -/
inductive Lexeme
  | blank
  | token (kind : TokenKind) (value : String)
  deriving DecidableEq, Repr

/-! ## Character classes -/

/-- The characters that start a name. -/
def startsName (c : Char) : Bool := c.isAlpha || c = '_'

/-- The characters that go on with a name. -/
def continuesName (c : Char) : Bool := c.isAlphanum || c = '_' || c = '?' || c = '!'

/-- The characters that go on with an atom. -/
def continuesAtom (c : Char) : Bool := continuesName c || c = '@'

/-! ## Lexemes -/

/-- The character that is written by a backslash and another one. -/
def escaped (c : Char) : Char :=
  match c with
  | 'n' => '\n'
  | 't' => '\t'
  | 'r' => '\r'
  | _ => c

/-- The rest of a string behind its opening quote, and how much it takes up. A string ends on the
line where it starts. -/
def stringBody : List Char → Option (List Char × Nat)
  | '"' :: _ => some ([], 1)
  | '\n' :: _ => none
  | '\\' :: '\n' :: _ => none
  | '\\' :: c :: cs => (stringBody cs).map fun (s, n) => (escaped c :: s, n + 2)
  | ['\\'] => none
  | c :: cs => (stringBody cs).map fun (s, n) => (c :: s, n + 1)
  | [] => none

/-- A string in quotes at the front of a text. -/
def stringAhead? : List Char → Option (String × Nat)
  | '"' :: cs => (stringBody cs).map fun (s, n) => (String.ofList s, n + 1)
  | _ => none

/-- The digits at the front of a text. -/
def digitsAhead (cs : List Char) : List Char := cs.takeWhile isDecimal

/-- The digits at the front of a text behind a mark that has to be followed by some. -/
def markedDigits (mark : List Char) (cs : List Char) : List Char :=
  if (digitsAhead cs).isEmpty then [] else mark ++ digitsAhead cs

/-- The fraction at the front of a text. -/
def fractionAhead : List Char → List Char
  | '.' :: cs => markedDigits ['.'] cs
  | _ => []

/-- The exponent at the front of a text. -/
def exponentAhead : List Char → List Char
  | e :: cs =>
    if e = 'e' || e = 'E' then
      match cs with
      | '+' :: ds => markedDigits [e, '+'] ds
      | '-' :: ds => markedDigits [e, '-'] ds
      | ds => markedDigits [e] ds
    else []
  | [] => []

/-- The number without a sign at the front of a text, or nothing. -/
def magnitudeAhead (cs : List Char) : List Char :=
  let whole := digitsAhead cs
  if whole.isEmpty then []
  else
    let fraction := fractionAhead (cs.drop whole.length)
    whole ++ fraction ++ exponentAhead (cs.drop (whole.length + fraction.length))

/-- The number at the front of a text, or nothing. -/
def numberAhead : List Char → List Char
  | '-' :: cs => if (magnitudeAhead cs).isEmpty then [] else '-' :: magnitudeAhead cs
  | cs => magnitudeAhead cs

/-- The atom at the front of a text that follows its colon. -/
def atomAhead? : List Char → Option (String × Nat)
  | [] => none
  | c :: cs =>
    if startsName c then
      let atom := c :: cs.takeWhile continuesAtom
      some (String.ofList atom, atom.length)
    else stringAhead? (c :: cs)

/-- A token whose value is exactly the given characters. -/
def verbatim (kind : TokenKind) (cs : List Char) : Lexeme × Nat :=
  (.token kind (String.ofList cs), cs.length)

/-- A token of one character. -/
def signAhead? (c : Char) : Option (Lexeme × Nat) :=
  (TokenKind.ofSign? c).map fun kind => verbatim kind [c]

/-- The lexeme at the front of a text, given its first character and the rest. -/
def lexeme (c : Char) (cs : List Char) : Option (Lexeme × Nat) :=
  if isBlank c then some (.blank, 1)
  else if !(numberAhead (c :: cs)).isEmpty then some (verbatim .number (numberAhead (c :: cs)))
  else if c = '"' then (stringAhead? (c :: cs)).map fun (s, n) => (.token .string s, n)
  else if startsName c then some (verbatim .name (c :: cs.takeWhile continuesName))
  else match if c = ':' then atomAhead? cs else none with
    | some (s, n) => some (.token .atom s, n + 1)
    | none => signAhead? c

/-! ## The scanner -/

/-- The tokens that a lexeme adds. -/
def Lexeme.tokens (l : Lexeme) (p : Position) : List Token :=
  match l with
  | .blank => []
  | .token kind value => [⟨kind, value, p⟩]

/-- Reads a text to its end; `pending` characters at its front belong to the lexeme read last. -/
def scanFrom : Nat → List Char → Position → List Token → Except Fault Cursor
  | _, [], p, found => .ok ⟨found.reverse, p⟩
  | pending + 1, c :: cs, p, found => scanFrom pending cs (p.next c) found
  | 0, c :: cs, p, found =>
    match lexeme c cs with
    | none => .error ⟨.strayCharacter c, p⟩
    | some (l, size) => scanFrom (size - 1) cs (p.next c) (l.tokens p ++ found)

/-- The tokens of a stylesheet text. -/
def scan (text : String) : Except Fault Cursor := scanFrom 0 text.toList .start []

end ViewModifiers.Stylesheet
