import ViewModifiers.Emit.Chunk
import ViewModifiers.Emit.Name

/-!
# The code of enumerated types

An enumerated type becomes a class with a member per case and a parser that is registered for it.
The class exists only on the platforms of the type. A case whose availability differs from its
type's gets a constructor of its own, which checks the platform once and the version at every use.
-/

namespace ViewModifiers.Emit

open Catalog Interface Text

/-- One step of indentation. -/
def indent : String := "    "

/-- Lines one step further in; empty lines stay empty. -/
def indented (lines : List String) : List String :=
  lines.map fun l => if l = "" then "" else indent ++ l

/-- A string in double quotes, as it is. -/
def inQuotes (s : String) : String := "\"" ++ s ++ "\""

/-- A tuple of parts; the comma makes one part a tuple. -/
def tupleText (parts : List String) : String :=
  "(" ++ joinWith ", " parts ++ (if parts.length = 1 then ",)" else ")")

/-- A tuple of platform names. -/
def platformsText (platforms : List String) : String := tupleText (platforms.map inQuotes)

/-- A version without trailing zeros, of which the first number is always kept. -/
def trimmedVersion : List Nat → List Nat
  | [] => []
  | n :: ns => n :: (ns.reverse.dropWhile (· = 0)).reverse

/-- A version as a tuple of numbers. -/
def versionText (version : List Nat) : String := tupleText (version.map toString)

/-- The lowest version per platform of a constraint. -/
def requirements (a : Availability) : Except EmissionError (NameTable (List Nat)) :=
  match a.lowestVersions? with
  | some versions => .ok versions
  | none => .error (.unreadableVersion a.text)

/-- The lowest version of a platform, if one is named. -/
def minimumVersion? (versions : NameTable (List Nat)) (platform : String) : Option (List Nat) :=
  match NameTable.get? versions platform with
  | some (n :: ns) => some (trimmedVersion (n :: ns))
  | _ => none

/-- The requirement of one platform: its lowest version, or none. -/
def requirementText (versions : NameTable (List Nat)) (platform : String) : String :=
  inQuotes platform ++ ": " ++ ((minimumVersion? versions platform).map versionText).getD "None"

/-- The requirements of a constraint as a table. -/
def requirementsText (a : Availability) : Except EmissionError String := do
  let versions ← requirements a
  return "\x7b" ++ joinWith ", " (a.offeredPlatforms.map (requirementText versions)) ++ "\x7d"

/-- The function that makes a guarded case. -/
def makerName (e : Enumeration) (c : EnumerationCase) : String :=
  "_" ++ enumClass e.name ++ "_" ++ c.name

/-- The member of a case with its class. -/
def memberText (e : Enumeration) (c : EnumerationCase) : String :=
  enumClass e.name ++ "." ++ enumMember c.name

/-- The constructor of a guarded case: one for the platforms that have it, one for the others. -/
def constructorLines (e : Enumeration) (c : EnumerationCase) :
    Except EmissionError (List String) := do
  let function := makerName e c
  return [
    "if BUILD_TARGET.platform in " ++ platformsText c.availability.offeredPlatforms ++ ":",
    "    def " ++ function ++ "():",
    "        if not BUILD_TARGET.is_available(" ++ (← requirementsText c.availability) ++ "):",
    "            raise UnavailableError(",
    "                \"'" ++ c.name ++ "' is not available in this OS version\"",
    "            )",
    "        return " ++ memberText e c,
    "else:",
    "    def " ++ function ++ "():",
    "        raise UnavailableError(\"'" ++ c.name ++ "' is not available on this OS\")"]

/-- The entry of a case in the parser's table. -/
def entryText (e : Enumeration) (c : EnumerationCase) : String :=
  indent ++ inQuotes c.name ++ ": " ++
    (if e.needsGuard c then makerName e c else "lambda: " ++ memberText e c) ++ ","

/-- The members of the class; a class without any still needs a body. -/
def memberLines (e : Enumeration) : List String :=
  if e.cases.isEmpty then [indent ++ "pass"]
  else e.cases.map fun c => indent ++ enumMember c.name ++ " = " ++ inQuotes c.name

/-- The code of an enumerated type. -/
def enumCode (e : Enumeration) : Except EmissionError String := do
  let guards ← (e.cases.filter e.needsGuard).mapM (constructorLines e)
  let body :=
    ["class " ++ enumClass e.name ++ "(StrEnum):"] ++ memberLines e
      ++ guards.flatMap ("" :: ·)
      ++ ["", "ENUM_PARSERS[" ++ inQuotes e.name ++ "] = implicit_static_member(\x7b"]
      ++ e.cases.map (entryText e) ++ ["\x7d)"]
  let platforms := e.availability.offeredPlatforms
  return joinWith "\n" <|
    if platforms.isEmpty then body
    else ("if BUILD_TARGET.platform in " ++ platformsText platforms ++ ":") :: indented body

/-- The function that registers the parsers of all enumerated types. -/
def registrationCode : String :=
  joinWith "\n" [
    "def register_types(registry: TypeRegistry) -> None:",
    "    \"\"\"Register a parser for every enum available on this build target.\"\"\"",
    "    for name, parser in ENUM_PARSERS.items():",
    "        registry.register(name, parser)"]

/-- Whether an enumerated type comes no later than another one. -/
def enumLe (a b : Enumeration) : Bool := a.name ≤ b.name

/-- The code of all enumerated types. -/
def enumsCode (enums : List Enumeration) : Except EmissionError String := do
  let blocks ← (enums.mergeSort enumLe).mapM enumCode
  return joinWith "\n\n\n" <|
    ["ENUM_PARSERS: dict[str, ValueParser] = \x7b\x7d"] ++ blocks ++ [registrationCode]

end ViewModifiers.Emit
