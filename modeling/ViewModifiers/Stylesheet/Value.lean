import ViewModifiers.Text.NameTable

/-!
# Values of a stylesheet

The arguments of a call are read as values. Some of them are references, which mean something only
to the host of the views: templates, attributes, bindings and events. A call that is read without
knowing the modifier keeps its arguments as they are written.
-/

namespace ViewModifiers.Stylesheet

open Text

/-- The line given for a call. A truth value is accepted in place of a number. -/
inductive SourceLine
  | number (n : Int)
  | flag (b : Bool)
  deriving DecidableEq, Repr, Inhabited

namespace SourceLine

/-- Whether a line says anything: zero and `false` do not. -/
def isGiven : SourceLine → Bool
  | number n => n ≠ 0
  | flag b => b

/-- A line as text. -/
def text : SourceLine → String
  | number n => toString n
  | flag b => if b then "True" else "False"

end SourceLine

/-- Where a call comes from, as its metadata tell. The module may be any value. -/
structure Metadata (α : Type) where
  line : SourceLine
  column : Nat
  file : Option String
  moduleName : α
  source : Option String

namespace Metadata

variable {α : Type}

/-- The file, unless it is missing or empty. -/
def givenFile (m : Metadata α) : Option String := m.file.filter (· ≠ "")

/-- Whether the metadata say where the call comes from. -/
def tellsPlace (m : Metadata α) : Bool := m.line.isGiven || m.givenFile.isSome

/-- File and line as text. -/
def text (m : Metadata α) : String :=
  let file := m.givenFile.getD "<stylesheet>"
  if m.line.isGiven then file ++ ":" ++ m.line.text else file

end Metadata

/-- A call as it is written. -/
structure Call (α : Type) where
  name : String
  metadata : Metadata α
  arguments : List α
  keywords : List (String × α)

/-- The places for which templates of child views are named. -/
inductive ViewPlace
  | view
  | inlineView
  | toolbarContent
  deriving DecidableEq, Repr, Inhabited

/-- The type of the parameters that take the templates of a place. -/
def ViewPlace.typeName : ViewPlace → String
  | view => "ViewReference"
  | inlineView => "InlineViewReference"
  | toolbarContent => "ToolbarContentReference"

/-- The class of an enumerated type, with its members. -/
structure EnumClass where
  name : String
  members : List String
  deriving DecidableEq, Repr, Inhabited

/-- A value. Lists are what is read without a schema, tuples what is read as a typed list; pairs
stand only in lists. `omitted` stands for an argument that was left to its default. -/
inductive Value
  | null
  | flag (b : Bool)
  | integer (n : Int)
  | decimal (x : Float)
  | text (s : String)
  | omitted
  | list (items : List Value)
  | pair (key : String) (value : Value)
  | tuple (items : List Value)
  | set (items : List Value)
  | dictionary (entries : List (String × Value))
  | atom (name : String)
  | member (name : String)
  | call (call : Call Value)
  | anyModifier (call : Call Value)
  | views (place : ViewPlace) (templates : List String)
  | textTemplate (template : String)
  | constant (value : Value)
  | elementAttribute (name : String)
  | binding (name : String)
  | event (name : String) (params : List (String × Value))
  | enumCase (type : EnumClass) (name : String)
  deriving Inhabited

namespace Value

/-- A text, if the value is one. -/
def text? : Value → Option String
  | text s => some s
  | _ => none

/-- A line, if the value may stand for one. -/
def line? : Value → Option SourceLine
  | integer n => some (.number n)
  | flag b => some (.flag b)
  | _ => none

/-- The pairs of a list; any other value has none. -/
def pairs : Value → List (String × Value)
  | list items => items.filterMap fun
    | pair key value => some (key, value)
    | _ => none
  | _ => []

/-- Whether an argument was left to its default. -/
def isOmitted : Value → Bool
  | omitted => true
  | _ => false

end Value

end ViewModifiers.Stylesheet
