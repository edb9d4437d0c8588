import ViewModifiers.Catalog.Basic
import ViewModifiers.Emit.JsonValue

/-!
# The schema of a catalog

A JSON document for tools that help to write stylesheets: the signatures of all modifiers, the cases
of all enumerated types and the names of the types that are referred to. Hand-written signatures are
shown as they are given, which is impossible for points in time.
-/

namespace ViewModifiers.Emit

open Catalog Config Text

mutual

/-- Configuration data as a document, unless there is a point in time among them. -/
def ofDatum : Datum → Except Moment JsonValue
  | .text s => return .text s
  | .integer n => return .integer n
  | .decimal x => return .decimal x
  | .flag b => return .flag b
  | .moment m => throw m
  | .list items => do return .list (← ofData items)
  | .table entries => do return .object (← ofEntries entries)

/-- Several data as documents. -/
def ofData : List Datum → Except Moment (List JsonValue)
  | [] => return []
  | d :: ds => do
    let first ← ofDatum d
    return first :: (← ofData ds)

/-- Entries as named documents. -/
def ofEntries : List (String × Datum) → Except Moment (List (String × JsonValue))
  | [] => return []
  | (name, d) :: es => do
    let first ← ofDatum d
    return (name, first) :: (← ofEntries es)

end

/-- A parameter in a schema. -/
def schemaEntry (firstName secondName type : JsonValue) : JsonValue :=
  .object [("firstName", firstName), ("secondName", secondName), ("type", type)]

/-- A value that may be missing. -/
def orNull (x : Option JsonValue) : JsonValue := x.getD .null

/-- A signature of an interface. -/
def schemaSignature (s : Signature) : JsonValue :=
  .list (s.parameters.map fun p =>
    schemaEntry (.text p.firstName) (orNull (p.secondName.map .text)) (.text p.type.text))

/-- A parameter of a hand-written signature. -/
def extraSchemaEntry (p : SchemaParameter) : Except Moment JsonValue := do
  return schemaEntry (← ofDatum p.firstName) (orNull (← p.secondName.mapM ofDatum))
    (← ofDatum p.type)

/-- A hand-written signature. -/
def extraSchemaSignature (s : List SchemaParameter) : Except Moment JsonValue := do
  return .list (← s.mapM extraSchemaEntry)

/-- The modifiers of a schema; hand-written ones replace those of the same name. -/
def schemaModifiers (c : Catalog) (config : Configuration) :
    Except Moment (NameTable JsonValue) := do
  let extra ← config.extraSchemas.mapM fun e => do
    return (e.1, .list (← e.2.mapM extraSchemaSignature))
  return NameTable.putAll
    (c.modifiers.map fun m => (m.name, .list (m.signatures.map schemaSignature))) extra

/-- The enumerated types of a schema; those of the interface replace others of the same name. -/
def schemaEnums (c : Catalog) : NameTable JsonValue :=
  NameTable.putAll (c.parseableEnums.map fun e => (e.1, .list (e.2.map .text)))
    (c.enums.map fun e => (e.name, .list (e.cases.map fun k => .text k.name)))

/-- The schema of a catalog. -/
def schema (c : Catalog) (config : Configuration) : Except Moment JsonValue := do
  return .object [
    ("modifiers", .object (← schemaModifiers c config)),
    ("enums", .object (schemaEnums c)),
    ("types", .list (c.referencedTypes.toList.map .text))]

/-- The text of a schema. -/
def schemaText (c : Catalog) (config : Configuration) : Except Moment String := do
  return (← schema c config).render 0 ++ "\n"

end ViewModifiers.Emit
