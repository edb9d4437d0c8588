import ViewModifiers.Stylesheet.Untyped
import ViewModifiers.Stylesheet.ValueSet

/-!
# Reading values of a type

Readers of the standard types, and the readers of optional, listed and referenced values over
readers of what is inside them.
-/

namespace ViewModifiers.Stylesheet.Reader

open Text

/-! ## Scalars -/

/-- Reads a number as a double. -/
def number : Reader Value := do
  let t ← expectAs .number .number
  return .decimal (← decimalOf t.value)

/-- Whether the text of a number consists of digits behind its sign. -/
def isWhole (text : String) : Bool :=
  let digits := text.toList.dropWhile (· = '-')
  !digits.isEmpty && digits.all isDigit

/-- Reads a whole number. -/
def integer : Reader Value := do
  let t ← current
  if t.kind = .number && isWhole t.value then
    let _ ← advance
    return .integer (← integerOf t.value)
  else failExpecting .integer

/-- Reads a truth value. -/
def flag : Reader Value := do
  if ← isAtWord "true" then
    let _ ← advance
    return .flag true
  else if ← isAtWord "false" then
    let _ ← advance
    return .flag false
  else failExpecting .flag

/-- Reads a string. -/
def string : Reader Value := do return .text (← expectAs .string .string).value

/-- Reads the text of an atom or a string. -/
def atomOrString : Reader String := do
  let t ← current
  if t.kind = .atom || t.kind = .string then
    let _ ← advance
    return t.value
  else failExpecting .atomOrString

/-! ## Structures -/

/-- Reads a value or `nil`. -/
def optional (value : Reader Value) : Reader Value := do
  if ← isAtWord "nil" then
    let _ ← advance
    return .null
  else value

/-- Reads a list of values. -/
def array (value : Reader Value) : Reader Value := do return .tuple (← bracketed .list value)

/-- Reads a list of values as a set. -/
def set (value : Reader Value) : Reader Value := do
  let items ← bracketed .list value
  if Value.areElements items then return .set (Value.distinct items)
  else throw .changeableElement

/-- Reads a value with its key. -/
def keyedValue (value : Reader Value) : Reader (String × Value) := do
  if ← isAtKey then
    let k ← key
    return (k, ← value)
  else failExpecting .key

/-- Reads a list of values under keys; of several values for one key the last one counts. -/
def dictionary (value : Reader Value) : Reader Value := do
  return .dictionary (NameTable.ofList (← bracketed .keywordList (keyedValue value)))

/-- The name of the member that comes next, and how many tokens it takes. -/
def memberAhead : Reader (Option (Token × Nat)) := do
  let t ← current
  let next ← peek 1
  if t.kind = .dot && next.kind = .name then return some (next, 2)
  else if t.kind = .atom then return some (t, 1)
  else return none

/-- Reads a member of a table by its name. What the table says about the member is looked at before
the name is used up. -/
def member (members : NameTable (Except Failure Value)) : Reader Value := do
  match ← memberAhead with
  | none => failExpecting .member
  | some (name, size) =>
    match NameTable.get? members name.value with
    | none => failAt name (.unknownMember name.value)
    | some (.error e) => throw e
    | some (.ok value) =>
      let _ ← advance
      if size = 2 then
        let _ ← advance
      return value

/-! ## References -/

/-- Reads the name of a template, or several of them in a list. -/
def templates : Reader (List String) := do
  if ← isAt .openBracket then bracketed .list atomOrString else return [← atomOrString]

/-- Reads the templates of child views. -/
def views (place : ViewPlace) : Reader Value := do return .views place (← templates)

/-- Reads the template of a text. -/
def textTemplate : Reader Value := do return .textTemplate (← atomOrString)

/-- The call that stands for an event. -/
def eventCall : String := "__event__"

/-- The call that stands for an attribute. -/
def attributeCall : String := "__attr__"

/-- Reads an event: its name, or a call with the name and parameters. Parameters in later lists
replace earlier ones. -/
def event : Reader Value := do
  if ← isAt .openBrace then
    let (arguments, keywords) ← argumentsOfCall eventCall
    match arguments with
    | .text name :: rest =>
      return .event name (NameTable.putAll keywords (rest.flatMap Value.pairs))
    | _ => fail .unnamedEvent
  else return .event (← atomOrString) []

/-- Reads a constant, or a call with the name of an attribute to read when the modifier is
applied. -/
def attributeOr (value : Reader Value) : Reader Value := do
  if ← isAt .openBrace then
    let start ← get
    let (arguments, _) ← argumentsOfCall attributeCall
    match arguments with
    | [.text name] => return .elementAttribute name
    | _ =>
      MonadState.set start
      fail .unnamedAttribute
  else return .constant (← value)

/-- Reads the name of a binding. The type behind it matters only to the host. -/
def binding : Reader Value := do return .binding (← atomOrString)

end ViewModifiers.Stylesheet.Reader
