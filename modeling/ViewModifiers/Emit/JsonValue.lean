import ViewModifiers.Numeral.Shortest
import ViewModifiers.Text.NameTable
import ViewModifiers.Text.Quoted
import ViewModifiers.Text.Split

/-!
# JSON documents

A document is printed with two spaces of indentation and with the names of every object in order, so
that equal documents have equal texts. Characters outside printable ASCII are escaped.
-/

namespace ViewModifiers.Emit

open Text

/-- A JSON document. -/
inductive JsonValue
  | null
  | flag (b : Bool)
  | text (s : String)
  | integer (n : Int)
  | decimal (x : Float)
  | list (items : List JsonValue)
  | object (entries : List (String × JsonValue))
  deriving Inhabited

namespace JsonValue

/-- A code unit as an escape. -/
def unitEscape (n : Nat) : String := "\\u" ++ hexDigits 4 n

/-- A character inside a string. -/
def escapeChar (c : Char) : String :=
  match c with
  | '"' => "\\\""
  | '\\' => "\\\\"
  | '\n' => "\\n"
  | '\r' => "\\r"
  | '\t' => "\\t"
  | '\x08' => "\\b"
  | '\x0c' => "\\f"
  | c =>
    let n := c.toNat
    if 0x20 ≤ n ∧ n < 0x7F then String.singleton c
    else if n < 0x10000 then unitEscape n
    else unitEscape (0xD800 + (n - 0x10000) / 0x400) ++ unitEscape (0xDC00 + (n - 0x10000) % 0x400)

/-- A string in quotes. -/
def quoted (s : String) : String := "\"" ++ String.join (s.toList.map escapeChar) ++ "\""

/-- A number with a fraction or an exponent. -/
def decimalText (x : Float) : String :=
  match Numeral.partsOf x with
  | .finite f => f.text
  | .infinite negative => if negative then "-Infinity" else "Infinity"
  | .notANumber => "NaN"

/-- A line end with the indentation of a depth. -/
def lineBreak (depth : Nat) : String := "\n" ++ String.ofList (List.replicate (2 * depth) ' ')

/-- Parts between brackets, one a line. -/
def block (opener closer : String) (depth : Nat) (parts : List String) : String :=
  if parts.isEmpty then opener ++ closer
  else opener ++ lineBreak (depth + 1) ++ joinWith ("," ++ lineBreak (depth + 1)) parts
    ++ lineBreak depth ++ closer

/-- Whether an entry comes no later than another one. -/
def entryLe (a b : String × String) : Bool := a.1 ≤ b.1

mutual

/-- The text of a document at a depth. -/
def render (depth : Nat) : JsonValue → String
  | null => "null"
  | flag b => if b then "true" else "false"
  | text s => quoted s
  | integer n => toString n
  | decimal x => decimalText x
  | list items => block "[" "]" depth (renderItems (depth + 1) items)
  | object entries =>
    block "\x7b" "\x7d" depth <|
      ((renderEntries (depth + 1) entries).mergeSort entryLe).map fun e =>
        quoted e.1 ++ ": " ++ e.2

/-- The texts of several documents. -/
def renderItems (depth : Nat) : List JsonValue → List String
  | [] => []
  | j :: js => j.render depth :: renderItems depth js

/-- The names and texts of entries. -/
def renderEntries (depth : Nat) : List (String × JsonValue) → List (String × String)
  | [] => []
  | (name, j) :: es => (name, j.render depth) :: renderEntries depth es

end

end JsonValue

end ViewModifiers.Emit
