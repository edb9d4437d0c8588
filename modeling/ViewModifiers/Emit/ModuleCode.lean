import ViewModifiers.Emit.DispatcherCode
import ViewModifiers.Emit.EnumCode
import ViewModifiers.Emit.UnionCase

/-!
# The generated module

A class per modifier with a nested class per overload, the chunks that group them, the tables of the
dispatcher, the enumerated types and the dispatcher itself.
-/

namespace ViewModifiers.Emit

open Catalog Config Text

/-! ## Header -/

/-- The names that a generated module takes from the runtime. -/
def runtimeNames : List String :=
  ["BUILD_TARGET", "AnyModifierParser", "ArgumentReader", "DeprecatedModifier", "ModifierChunk",
    "ModifierParseError", "ModifierUnion", "Overload", "ParseContext", "ParseableModifier",
    "StylesheetParseError", "TokenCursor", "TokenKind", "TypeRegistry", "UnavailableError",
    "UnknownModifier", "ValueParser", "attempt", "implicit_static_member", "invoke",
    "peek_call_head", "resolve"]

/-- The first lines of a module, with the command that made it. -/
def headerCode (command : String) : String :=
  joinWith "\n" [
    "# Generated by \x60" ++ command ++ "\x60. Do not edit.",
    "# fmt: off",
    "",
    "from dataclasses import dataclass",
    "from enum import StrEnum",
    "from typing import Any, Never",
    "",
    "from modgen.runtime import (\n"
      ++ String.join (runtimeNames.map fun n => indent ++ n ++ ",\n") ++ ")"]

/-! ## Modifiers -/

/-- The call that reads the argument of a parameter. -/
def readerCode (p : Parameter) : String :=
  let default_ := if p.hasDefault then ", has_default=True" else ""
  if p.hasLabel then
    "args.labeled(" ++ inQuotes p.firstName ++ ", " ++ inQuotes p.type.text ++ default_ ++ ")"
  else "args.positional(" ++ inQuotes p.type.text ++ default_ ++ ")"

/-- A field as an argument of the applied operation, resolved first if the modifier needs it. -/
def argumentCode (m : Modifier) (fieldName : String) : String :=
  if m.needsHost then "resolve(self." ++ fieldName ++ ", host)" else "self." ++ fieldName

/-- The statement that applies an overload: fields without a label by place, the others by name. -/
def invokeLine (m : Modifier) (given : List (String × Parameter)) : String :=
  let positional := (given.filter fun g => !g.2.hasLabel).map fun g => argumentCode m g.1 ++ ", "
  let labeled := (given.filter fun g => g.2.hasLabel).map fun g =>
    inQuotes g.2.firstName ++ ": " ++ argumentCode m g.1
  "        return invoke(content, " ++ inQuotes m.name ++ ", (" ++ String.join positional
    ++ "), \x7b" ++ joinWith ", " labeled ++ "\x7d)"

/-- The lines of the class of one overload. -/
def overloadLines (m : Modifier) (index : Nat) (s : Signature) : List String :=
  let given := (argumentFields s).zip s.parameters
  let class_ := "_" ++ toString index
  ["@dataclass(frozen=True)",
    "class " ++ class_ ++ "(Overload):",
    "    \"\"\"" ++ m.name ++ s.text ++ "\"\"\"",
    ""]
    ++ given.map (fun g => "    " ++ g.1 ++ ": Any")
    ++ (if given.isEmpty then [] else [""])
    ++ ["    @classmethod",
      "    def parse_arguments(cls, args: ArgumentReader) -> " ++ inQuotes class_ ++ ":"]
    ++ (if given.isEmpty then ["        return cls()"]
      else ["        return cls("]
        ++ given.map (fun g => "            " ++ g.1 ++ "=" ++ readerCode g.2 ++ ",")
        ++ ["        )"])
    ++ ["", "    def apply(self, content: Any, host: Any) -> Any:", invokeLine m given]

/-- A truth value of the generated language. -/
def flagText (b : Bool) : String := if b then "True" else "False"

/-- The class of a modifier. -/
def modifierCode (m : Modifier) : String :=
  let overloads := (List.range m.signatures.length).map fun i => "_" ++ toString i
  joinWith "\n" <|
    ["class " ++ modifierClass m.name ++ "(ParseableModifier):",
      "    name = " ++ inQuotes m.name,
      "    requires_context = " ++ flagText m.needsHost]
    ++ (m.signatures.zipIdx.flatMap fun (s, i) => "" :: indented (overloadLines m i s))
    ++ ["",
      "    Value = " ++ joinWith " | " ("Never" :: overloads),
      "    overloads = (" ++ String.join (overloads.map (· ++ ", ")) ++ ")"]

/-! ## Chunks and tables -/

/-- The class of a chunk. -/
def chunkCode (index : Nat) (group : List String) : String :=
  joinWith "\n" <|
    ["class " ++ chunkClass index ++ "(ModifierChunk):", "    members = \x7b"]
    ++ group.map (fun n => "        " ++ inQuotes n ++ ": " ++ modifierClass n ++ ",")
    ++ ["    \x7d"]

/-- The classes of all chunks. -/
def chunksCode (groups : List (List String)) : String :=
  joinWith "\n\n\n" (groups.zipIdx.map fun (g, i) => chunkCode i g)

/-- A tuple of strings, one a line. -/
def tupleLines (values : List String) : String :=
  if values.isEmpty then "()"
  else "(\n" ++ String.join (values.map fun v => indent ++ inQuotes v ++ ",\n") ++ ")"

/-- A character inside a string literal. -/
def literalChar : Char → List Char
  | '\\' => ['\\', '\\']
  | '"' => ['\\', '"']
  | '\n' => ['\\', 'n']
  | c => [c]

/-- A string literal: backslashes, double quotes and line ends are escaped. -/
def literal (s : String) : String := String.ofList (['"'] ++ s.toList.flatMap literalChar ++ ['"'])

/-- A table of strings, one entry a line. -/
def stringTable (entries : NameTable String) : String :=
  if entries.isEmpty then "\x7b\x7d"
  else "\x7b\n"
    ++ String.join (entries.map fun e => indent ++ literal e.1 ++ ": " ++ literal e.2 ++ ",\n")
    ++ "\x7d"

/-- Strings in order of their code points, repeated ones kept. -/
def sortedStrings (values : List String) : List String := values.mergeSort fun a b => a ≤ b

/-- The tables of the dispatcher. -/
def tablesCode (c : Catalog) (config : Configuration) (chunkCount : Nat) : String :=
  let chunkClasses := (List.range chunkCount).map chunkClass
  joinWith "\n" [
    "CHUNKS = (" ++ joinWith ", " chunkClasses ++ (if chunkCount = 1 then "," else "") ++ ")",
    "",
    "EXTRA_MODIFIER_TYPES = " ++ tupleLines (c.extraModifierTypes.map extraCase),
    "",
    "DEPRECATIONS = " ++ stringTable c.deprecations,
    "",
    "TEXT_MODIFIERS = frozenset(" ++ tupleLines (sortedStrings config.textModifiers) ++ ")",
    "",
    "IMAGE_MODIFIERS = frozenset(" ++ tupleLines (sortedStrings config.imageModifiers) ++ ")",
    "",
    "",
    "class BuiltinModifier(ModifierUnion):",
    "    \"\"\"Any modifier the stylesheet can produce.\"\"\"",
    "",
    "    CASES = " ++ replaceChar '\n' ("\n" ++ indent)
      (tupleLines ((unionCases c.extraModifierTypes chunkCount).map (·.label))),
    "",
    "",
    "_AnyTextModifierParser = AnyModifierParser(TEXT_MODIFIERS, \"text_modifier_parser\")",
    "_AnyImageModifierParser = AnyModifierParser(IMAGE_MODIFIERS, \"image_modifier_parser\")"]

/-! ## The module -/

/-- The names of a catalog in chunks. -/
def catalogChunks (c : Catalog) (config : Configuration) :
    Except EmissionError (List (List String)) :=
  chunks config.chunkSize.toInt c.names

/-- The text of the generated module. -/
def moduleCode (c : Catalog) (config : Configuration) (command : String) :
    Except EmissionError String := do
  let groups ← catalogChunks c config
  let enums ← enumsCode c.enums
  let chunkBlocks := if groups.isEmpty then [] else [chunksCode groups]
  let blocks := headerCode command :: c.modifiers.map modifierCode ++ chunkBlocks
    ++ [tablesCode c config groups.length, enums, joinWith "\n" dispatcherLines]
  return joinWith "\n\n\n" blocks ++ "\n"

end ViewModifiers.Emit
