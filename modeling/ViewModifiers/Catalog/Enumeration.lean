import ViewModifiers.Config.Configuration
import ViewModifiers.Interface.Declaration

/-!
# Enumerated value types

The types whose values are written by name. The cases of an enum are its cases; a struct that
declares its values as static members of its own type has those members as cases, also the ones
that further declarations of it add.
-/

namespace ViewModifiers.Catalog

open Interface Config Text

/-- A case with its own availability. -/
structure EnumerationCase where
  name : String
  availability : Availability
  deriving DecidableEq, Inhabited

/-- An enumerated type. -/
structure Enumeration where
  name : String
  cases : List EnumerationCase
  availability : Availability
  deriving DecidableEq, Inhabited

/-- Whether a case is available elsewhere than its type, so that it needs a check of its own. -/
def Enumeration.needsGuard (e : Enumeration) (c : EnumerationCase) : Bool :=
  !c.availability.isEmpty && !c.availability.agreesWith e.availability

/-- A dotted name without a leading module, if something is left. -/
def withoutModule (modules : List String) (name : String) : String :=
  match fields '.' name with
  | m :: n :: rest => if modules.contains m then joinWith "." (n :: rest) else name
  | _ => name

/-- A nominal type found in an interface, under its qualified name. -/
structure Occurrence where
  name : String
  declaration : DeclaredType
  availability : Availability
  deriving Inhabited

/-- A name inside a scope. -/
def scopedName (scope name : String) : String := if scope = "" then name else scope ++ "." ++ name

mutual

/-- The nominal types in a declaration, itself included, outer ones first. An extension gives its
scope to what it contains. -/
def occurrencesIn (modules : List String) (scope : String) (inherited : Availability) :
    DeclaredType → List Occurrence
  | ⟨kind, name, inherits, attributes, modifiers, availability, functions, cases, properties,
      nested, position⟩ =>
    let merged := availability.merge inherited
    if kind = .extending then occurrences modules (withoutModule modules name) merged nested
    else
      let full := scopedName scope name
      ⟨full, ⟨kind, name, inherits, attributes, modifiers, availability, functions, cases,
        properties, nested, position⟩, merged⟩ :: occurrences modules full merged nested

/-- The nominal types in several declarations. -/
def occurrences (modules : List String) (scope : String) (inherited : Availability) :
    List DeclaredType → List Occurrence
  | [] => []
  | d :: ds => occurrencesIn modules scope inherited d ++ occurrences modules scope inherited ds

end

/-- The nominal types of an interface. -/
def occurrencesOf (c : Configuration) (source : InterfaceFile) : List Occurrence :=
  occurrences c.modulePrefixes "" .always source.declarations

/-- Whether a property has the type of a given name, or `Self`. -/
def hasOwnType (typeName : String) (p : DeclaredProperty) : Bool :=
  match p.type.path? with
  | none => false
  | some path => path.getLast? = some "Self" || path.getLast? = some (lastField '.' typeName)

namespace Occurrence

/-- The cases that a declaration contributes to its type. -/
def cases (o : Occurrence) : List EnumerationCase :=
  if o.declaration.kind = .enumType then
    o.declaration.cases.map fun c => ⟨c.name, c.availability⟩
  else
    (o.declaration.properties.filter fun p => areStatic p.modifiers && hasOwnType o.name p).map
      fun p => ⟨p.name, p.availability⟩

/-- Whether the type of a declaration may be enumerated. -/
def isEnumerated (o : Occurrence) : Bool :=
  o.declaration.kind = .enumType || o.declaration.kind = .structType

end Occurrence

/-- The type with the cases of one more declaration of it; names that it has already are not
repeated, and its availability stays. -/
def Enumeration.extendedBy (e : Enumeration) (o : Occurrence) : Enumeration :=
  { e with cases := e.cases ++ o.cases.filter fun c => !(e.cases.map (·.name)).contains c.name }

/-- Takes up a declaration of a required type. -/
def addRequired (found : NameTable Enumeration) (o : Occurrence) : NameTable Enumeration :=
  match NameTable.get? found o.name with
  | some e => NameTable.put found o.name (e.extendedBy o)
  | none => NameTable.put found o.name ⟨o.name, o.cases, o.availability⟩

/-- The required enumerated types that an interface declares, sorted by name. -/
def requiredEnums (c : Configuration) (source : InterfaceFile) : List Enumeration :=
  let wanted := (occurrencesOf c source).filter fun o =>
    c.requiredTypes.contains o.name && o.isEnumerated
  let found := wanted.foldl addRequired []
  (NameSet.ofList (NameTable.names found)).toList.filterMap (NameTable.get? found)

/-- The required types that are not among those found, in order. -/
def missingTypes (c : Configuration) (found : List Enumeration) : List String :=
  (NameSet.ofList c.requiredTypes).toList.filter fun n => !(found.map (·.name)).contains n

end ViewModifiers.Catalog
