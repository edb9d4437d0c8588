import ViewModifiers.Text.Blank

/-!
# Types by their spelling

The types of parameters are known by their spelling. A spelling is read as a tree: marks for
optional values, brackets around the elements of lists and dictionaries, and arguments of generic
types. Every part keeps its own spelling, since any of them may be registered as it is.
-/

namespace ViewModifiers.Stylesheet

open Text

/-- A type as it is spelled, with its parts. -/
inductive TypeSpelling
  | plain (text : String)
  | optional (text : String) (wrapped : TypeSpelling)
  | array (text : String) (element : TypeSpelling)
  | dictionary (text : String) (key value : TypeSpelling)
  | generic (text : String) (name : String) (arguments : List TypeSpelling)
  deriving Repr, Inhabited

namespace TypeSpelling

/-- The whole spelling. -/
def text : TypeSpelling → String
  | plain text => text
  | optional text _ => text
  | array text _ => text
  | dictionary text _ _ => text
  | generic text _ _ => text

/-- How a character changes the depth of brackets. -/
def depthChange (c : Char) : Int :=
  if c = '<' || c = '[' || c = '(' then 1 else if c = '>' || c = ']' || c = ')' then -1 else 0

/-- The text before the first occurrence of a separator outside all brackets, and the text behind
it if there is one. -/
def splitOutside (separator : Char) : Int → List Char → List Char × Option (List Char)
  | _, [] => ([], none)
  | depth, c :: cs =>
    if c = separator && depth = 0 then ([], some cs)
    else
      let (before, behind) := splitOutside separator (depth + depthChange c) cs
      (c :: before, behind)

/-- The parts of a text between the separators outside all brackets. -/
def partsOutside (separator : Char) : Int → List Char → List (List Char)
  | _, [] => [[]]
  | depth, c :: cs =>
    let parts := partsOutside separator (depth + depthChange c) cs
    if c = separator && depth = 0 then [] :: parts
    else (c :: parts.headD []) :: parts.tail

/-- The forms of a spelling, with the spellings inside it. -/
inductive Form
  | plain
  | optional (wrapped : List Char)
  | array (element : List Char)
  | dictionary (key value : List Char)
  | generic (name : List Char) (arguments : List (List Char))
  deriving DecidableEq, Repr

/-- The form of a spelling in square brackets. -/
def bracketForm (inner : List Char) : Form :=
  match splitOutside ':' 0 inner with
  | (key, some value) => .dictionary key value
  | (element, none) => .array element

/-- The form of a spelling that ends in an angle bracket. -/
def angleForm (cs : List Char) : Form :=
  let name := cs.takeWhile (· ≠ '<')
  if name.isEmpty || name.length = cs.length then .plain
  else .generic name (partsOutside ',' 0 (cs.drop (name.length + 1)).dropLast)

/-- The form of a spelling without blanks at its ends. -/
def formOf (cs : List Char) : Form :=
  match cs.getLast? with
  | some '?' => .optional cs.dropLast
  | some '!' => .optional cs.dropLast
  | some ']' => if cs.head? = some '[' then bracketForm cs.tail.dropLast else .plain
  | some '>' => angleForm cs
  | _ => .plain

/-- Reads a spelling, nested no deeper than a number of levels. -/
def readFrom : Nat → List Char → TypeSpelling
  | 0, cs => .plain (String.ofList (trimBlanks cs))
  | depth + 1, cs =>
    let text := String.ofList (trimBlanks cs)
    match formOf (trimBlanks cs) with
    | .plain => .plain text
    | .optional wrapped => .optional text (readFrom depth wrapped)
    | .array element => .array text (readFrom depth element)
    | .dictionary key value => .dictionary text (readFrom depth key) (readFrom depth value)
    | .generic name arguments =>
      .generic text (String.ofList name) (arguments.map (readFrom depth))

/-- Reads a spelling. Every part is shorter than the whole, so its length bounds the nesting. -/
def read (spelling : String) : TypeSpelling := readFrom spelling.length spelling.toList

end TypeSpelling

end ViewModifiers.Stylesheet
