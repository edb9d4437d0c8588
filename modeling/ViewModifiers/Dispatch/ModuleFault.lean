import ViewModifiers.Catalog.Basic
import ViewModifiers.Dispatch.EnumReader

/-!
# What is wrong with a generated module

A module is generated from names and texts of an interface, which may keep it from being loaded or
used: a name that is none in the generated language, a text that does not stand in quotes as it is,
a field that no class can have, two classes of one name, and a class with a name that the module
goes on to read. Names are compared by their normal forms.
-/

namespace ViewModifiers.Dispatch

open Catalog Config Emit Stylesheet Text

/-- Why a generated module cannot be used. -/
inductive ModuleFault
  | name (name : String)
  | text (text : String)
  | field (modifier field : String)
  | sharedClass (className : String)
  | takenName (name : String)
  deriving DecidableEq, Repr

/-! ## Names and texts -/

/-- The names that a module binds for an enumerated type: its class, the members of the class, and
the functions that make guarded cases. -/
def enumNames (e : Enumeration) : List String :=
  enumClass e.name :: e.cases.map (fun c => enumMember c.name)
    ++ (e.cases.filter e.needsGuard).map (makerName e)

/-- The names that a module binds for a catalog. -/
def boundNames (c : Catalog) : List String :=
  c.modifiers.map (fun m => modifierClass m.name) ++ c.enums.flatMap enumNames

/-- The texts that stand in quotes as they are, apart from those that are names. -/
def quotedTexts (c : Catalog) (config : Configuration) : List String :=
  (c.modifiers.flatMap fun m => m.signatures.flatMap fun s => s.parameters.flatMap fun p =>
      [p.firstName, p.type.text])
    ++ c.extraModifierTypes.map extraCase ++ config.textModifiers ++ config.imageModifiers
    ++ c.enums.flatMap fun e => e.availability.offeredPlatforms
      ++ (e.cases.filter e.needsGuard).flatMap fun k => k.availability.offeredPlatforms

/-- Whether a text stands in quotes as it is. -/
def isQuotable (s : String) : Bool :=
  s.toList.all fun c => !(['"', '\\', '\n', '\r', '\x00'].contains c)

/-- Whether a text stands in quotes with escapes, which are made for quotes, backslashes and ends of
lines. -/
def isEscapable (s : String) : Bool := s.toList.all fun c => !(['\r', '\x00'].contains c)

/-- The first text of a module that does not stand in quotes as it is meant. -/
def brokenText? (c : Catalog) (config : Configuration) : Option String :=
  ((quotedTexts c config).find? fun s => !isQuotable s).or
    ((c.deprecations.flatMap fun d => [d.1, d.2]).find? fun s => !isEscapable s)

/-! ## Classes -/

/-- The first field of a modifier's overloads that their classes cannot have. -/
def misfitOf? (m : Modifier) : Option String :=
  m.signatures.findSome? fun s => misfit? (argumentFields s)

/-- The enumerated types of a target. -/
def enumsOn (t : Target) (enums : List Enumeration) : List Enumeration := enums.filter (existsOn t)

/-- The first class that is made twice: two modifiers have it, or two enumerated types of the
target. -/
def sharedClass? (c : Catalog) (t : Target) : Option String :=
  (repeated? (c.modifiers.map fun m => normalForm (modifierClass m.name))).or
    (repeated? ((enumsOn t c.enums).map fun e => normalForm (enumClass e.name)))

/-- The names that a dispatcher reads before anything else: the class of cursors and the kinds of
tokens, the reader of the head of a call, and the function that attempts a reader. -/
def firstNames : List String := ["TokenCursor", "TokenKind", "peek_call_head", "attempt"]

/-- The other names that a module reads after the classes of enumerated types have been made. -/
def laterNames : List String :=
  ["invoke", "resolve", "register_types", "BuiltinModifierParser", "CHUNKS",
    "EXTRA_MODIFIER_TYPES", "BuiltinModifier", "DEPRECATIONS", "ModifierParseError",
    "DeprecatedModifier", "UnknownModifier", "_AnyTextModifierParser", "_AnyImageModifierParser",
    "StylesheetParseError", "StrEnum", "BUILD_TARGET", "UnavailableError",
    "implicit_static_member", "ENUM_PARSERS", "enumerate", "isinstance", "Exception", "list",
    "type", "__builtins__"]

/-- The functions that a target makes for an enumerated type. -/
def makerNames (e : Enumeration) : List String :=
  (e.cases.filter e.needsGuard).map fun c => normalForm (makerName e c)

/-- The classes of a target that have one of the names that are read first. -/
def takenFirst (t : Target) (enums : List Enumeration) : List EnumClass :=
  ((enumsOn t enums).map classOf).filter fun k => firstNames.contains (normalForm k.name)

/-- The first name that the module goes on to read although it has come to stand for something else:
a name of the module itself, or the class of an enumerated type for which a later function is
named. -/
def takenLater? (t : Target) (enums : List Enumeration) : Option String :=
  let present := enumsOn t enums
  let classes := present.map fun e => normalForm (enumClass e.name)
  ((classes ++ present.flatMap makerNames).find? laterNames.contains).or
    ((present.find? fun e => present.any fun f =>
      enumLe e f && (makerNames f).contains (normalForm (enumClass e.name))).map
      fun e => enumClass e.name)

/-- The first thing that is wrong with the module of a catalog on a target, apart from names that
reading begins with. -/
def moduleFault? (c : Catalog) (config : Configuration) (t : Target) : Option ModuleFault :=
  (((boundNames c).find? fun n => !isName n).map .name).or <|
  ((brokenText? c config).map .text).or <|
  (c.modifiers.findSome? fun m => (misfitOf? m).map (.field m.name)).or <|
  ((sharedClass? c t).map .sharedClass).or <|
  (takenLater? t c.enums).map .takenName

end ViewModifiers.Dispatch
