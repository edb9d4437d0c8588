import ViewModifiers.Interface.Availability
import ViewModifiers.Interface.TypeExpr

/-!
# Declarations

The declarations of an interface that matter here: extensions, nominal types, functions, enum cases
and typed properties. All others are skipped when an interface is read.
-/

namespace ViewModifiers.Interface

open Source

/-- An attribute by the last part of its name, with the text of its arguments if it has a list. -/
structure Attribute where
  name : String
  arguments : Option String
  deriving DecidableEq, Repr, Inhabited

/-- A generic parameter with its constraints. -/
structure TypeVariable where
  name : String
  constraints : List TypeExpr
  deriving DecidableEq, Repr, Inhabited

/-- A parameter of a function. The first name is the argument label; the second one is the name
inside the function, where it differs. -/
structure DeclaredParameter where
  firstName : String
  secondName : Option String
  type : TypeExpr
  attributes : List Attribute
  hasDefault : Bool
  deriving DecidableEq, Repr, Inhabited

/-- A function declaration. -/
structure DeclaredFunction where
  name : String
  parameters : List DeclaredParameter
  generics : List TypeVariable
  result : Option TypeExpr
  attributes : List Attribute
  modifiers : List String
  availability : Availability
  position : Position
  deriving DecidableEq, Inhabited

/-- An enum case with the types of its associated values. -/
structure DeclaredCase where
  name : String
  associated : List TypeExpr
  availability : Availability
  position : Position
  deriving DecidableEq, Inhabited

/-- A property with a written type. -/
structure DeclaredProperty where
  name : String
  type : TypeExpr
  modifiers : List String
  availability : Availability
  position : Position
  deriving DecidableEq, Inhabited

/-- The kinds of declarations that have members. -/
inductive TypeKind
  | extending | enumType | structType | classType | protocolType | actorType
  deriving DecidableEq, Repr, Inhabited

/-- The word that begins a declaration with members. -/
def TypeKind.keyword : TypeKind → Keyword
  | extending => .extending
  | enumType => .enumType
  | structType => .structType
  | classType => .classType
  | protocolType => .protocolType
  | actorType => .actorType

/-- The kind of declaration that a word begins. -/
def TypeKind.ofKeyword? : Keyword → Option TypeKind
  | .extending => some extending
  | .enumType => some enumType
  | .structType => some structType
  | .classType => some classType
  | .protocolType => some protocolType
  | .actorType => some actorType
  | _ => none

/-- An extension or a nominal type with its members. The name of an extension is the extended type
as it is written. -/
structure DeclaredType where
  kind : TypeKind
  name : String
  inherits : List TypeExpr
  attributes : List Attribute
  modifiers : List String
  availability : Availability
  functions : List DeclaredFunction
  cases : List DeclaredCase
  properties : List DeclaredProperty
  nested : List DeclaredType
  position : Position
  deriving Inhabited

/-- A whole interface. -/
structure InterfaceFile where
  imports : List String
  declarations : List DeclaredType
  functions : List DeclaredFunction
  deriving Inhabited

/-- Whether modifiers make a member belong to the type itself. -/
def areStatic (modifiers : List String) : Bool :=
  modifiers.contains "static" || modifiers.contains "class"

/-- Whether an attribute of a name is among some attributes. -/
def carriesAttribute (attributes : List Attribute) (name : String) : Bool :=
  attributes.any (·.name == name)

/-- The constraints on the first generic parameter of a name. -/
def DeclaredFunction.constraintsOn (f : DeclaredFunction) (name : String) : List TypeExpr :=
  ((f.generics.find? (·.name == name)).map (·.constraints)).getD []

end ViewModifiers.Interface
