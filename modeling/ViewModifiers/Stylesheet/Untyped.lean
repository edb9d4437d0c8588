import ViewModifiers.Numeral.Decimal
import ViewModifiers.Stylesheet.Reader

/-!
# Reading without a schema

Values, metadata and calls whose parameter types are not known. They contain each other: metadata
hold values, a call has metadata and arguments, and a call is itself a value. Each reader is written
over a reader of the values inside it, which always start behind a token that has been used up, so
the tokens ahead bound the nesting.
-/

namespace ViewModifiers.Stylesheet

open Numeral Text

namespace Reader

/-- A whole number by its text. -/
def integerOf (text : String) : Reader Int :=
  match readInteger? text.toList with
  | some n => return n
  | none => throw (.unreadableNumber text)

/-- A double by its text. -/
def decimalOf (text : String) : Reader Float :=
  match readDecimal? text.toList with
  | some x => return x
  | none => throw (.unreadableNumber text)

/-- Whether the text of a number has a fraction or an exponent. -/
def isFractional (text : String) : Bool := text.toList.any fun c => c = '.' || c = 'e' || c = 'E'

/-- A number by its text: a double if it has a fraction or an exponent. -/
def numberOf (text : String) : Reader Value := do
  if isFractional text then return .decimal (← decimalOf text)
  else return .integer (← integerOf text)

/-- The value that a word stands for. -/
def wordValue (word : String) : Value :=
  match word with
  | "nil" => .null
  | "true" => .flag true
  | "false" => .flag false
  | _ => .atom word

/-- Reads an entry of a list: a value, with a key in front of it or without. -/
def entry (value : Reader Value) : Reader (Option String × Value) := do
  if ← isAtKey then
    let k ← key
    return (some k, ← value)
  else return (none, ← value)

/-- An entry as an item of a list. -/
def entryValue : Option String × Value → Value
  | (some k, v) => .pair k v
  | (none, v) => v

/-- The entries without a key. -/
def unkeyed (entries : List (Option String × Value)) : List Value :=
  entries.filterMap fun
    | (none, v) => some v
    | (some _, _) => none

/-- The entries with a key, under their keys. -/
def keyed (entries : List (Option String × Value)) : NameTable Value :=
  .ofList <| entries.filterMap fun
    | (some k, v) => some (k, v)
    | (none, _) => none

/-! ## Calls -/

/-- Reads a key with its value, as metadata have them. -/
def metadataEntry (value : Reader Value) : Reader (String × Value) := do
  let name ← expectAs .metadataKey .name
  let _ ← expect .colon
  return (name.value, ← value)

/-- The name of a module: an atom stands for its name, and other values for themselves. -/
def moduleNameOf : Value → Value
  | .atom name => .text name
  | v => v

/-- Metadata by the values under their keys. Without a line of its own, a call is where its metadata
start. -/
def metadataOf (start : Token) (values : NameTable Value) : Metadata Value where
  line := ((NameTable.get? values "line").bind Value.line?).getD (.number start.position.line)
  column := start.position.column
  file := (NameTable.get? values "file").bind Value.text?
  moduleName := moduleNameOf ((NameTable.get? values "module").getD .null)
  source := (NameTable.get? values "source").bind Value.text?

/-- Reads metadata. -/
def metadataOver (value : Reader Value) : Reader (Metadata Value) := do
  let start ← current
  let entries ← bracketed .metadata (metadataEntry value)
  return metadataOf start (.ofList entries)

/-- Reads the start of a call: a brace, the name of the modifier and the metadata. -/
def callHeadOver (value : Reader Value) : Reader (String × Metadata Value) := do
  let _ ← expectAs .modifierStart .openBrace
  let t ← current
  if t.kind = .atom || t.kind = .name then
    let _ ← advance
    let _ ← expect .comma
    return (t.value, ← metadataOver value)
  else failExpecting .modifierName

/-- Reads the rest of a call behind its metadata: arguments, if there are any, and a brace. -/
def argumentsOver (value : Reader Value) : Reader (List Value × NameTable Value) := do
  let entries ← if ← accept .comma then bracketed .argumentList (entry value) else pure []
  let _ ← expect .closeBrace
  return (unkeyed entries, keyed entries)

/-- Reads a call. -/
def callOver (value : Reader Value) : Reader (Call Value) := do
  let (name, metadata) ← callHeadOver value
  let (arguments, keywords) ← argumentsOver value
  return ⟨name, metadata, arguments, keywords⟩

/-! ## Values -/

/-- Reads a value over a reader of the values inside it. -/
def anyOver (value : Reader Value) : Reader Value := do
  let t ← current
  match t.kind with
  | .number =>
    let _ ← advance
    numberOf t.value
  | .string =>
    let _ ← advance
    return .text t.value
  | .atom =>
    let _ ← advance
    return .atom t.value
  | .name =>
    let _ ← advance
    return wordValue t.value
  | .dot =>
    let _ ← advance
    return .member (← expectAs .enumMember .name).value
  | .openBracket => return .list ((← bracketed .list (entry value)).map entryValue)
  | .openBrace => return .call (← callOver value)
  | _ => failExpecting .value

/-- Reads a value, nested no deeper than there are tokens to measure it. -/
def anyFrom : List Token → Reader Value
  | [] => anyOver (fail .endless)
  | _ :: measure => anyOver (anyFrom measure)

/-- Reads a value. -/
def any : Reader Value := do anyFrom (← get).ahead

/-- Reads metadata. -/
def metadata : Reader (Metadata Value) := metadataOver any

/-- Reads the start of a call. -/
def callHead : Reader (String × Metadata Value) := callHeadOver any

/-- Reads the rest of a call behind its metadata. -/
def arguments : Reader (List Value × NameTable Value) := argumentsOver any

/-- Reads a call as a modifier without a schema. -/
def anyModifier : Reader Value := do return .anyModifier (← callOver any)

/-- Reads the arguments of a call that has to have a certain name; if it has another one, the
cursor is back at its start. -/
def argumentsOfCall (name : String) : Reader (List Value × NameTable Value) := do
  let start ← get
  let (found, _) ← callHead
  if found ≠ name then
    set start
    fail (.otherCall name found)
  else arguments

end Reader

end ViewModifiers.Stylesheet
