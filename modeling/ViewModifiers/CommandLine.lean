import ViewModifiers.Catalog.Parseable
import ViewModifiers.Config.Load
import ViewModifiers.Emit.ModuleCode
import ViewModifiers.Emit.Schema

/-!
# The command line

The command reads an interface file and writes a module, or a schema, to its output. Modifiers that
are left out are named on the error output, one a line.

Arguments are read from left to right; options may stand before, between and behind the interface,
and the last one of a kind counts. Everything that is wrong with them ends the run with status 2,
and everything that is wrong with the files with status 1.
-/

namespace ViewModifiers.CommandLine

open Catalog Config Emit Source Text

/-! ## Arguments -/

/-- What a command line asks for, as it is written. -/
structure Arguments where
  interfaces : List String
  schema : Bool
  chunkSize : Option String
  parseableTypes : Option String
  config : Option String
  information : Bool
  deriving DecidableEq, Repr, Inhabited

/-- A command line without arguments. -/
def Arguments.none : Arguments := ⟨[], false, .none, .none, .none, false⟩

/-- A long option, and the value given behind its equals sign. -/
def splitOption (arg : String) : String × Option String :=
  match pieces '=' arg.toList with
  | [] | [_] => (arg, none)
  | name :: rest => (String.ofList name, some (joinWith "=" (rest.map String.ofList)))

/-- Takes note of an option that takes no value. -/
def noteFlag? (a : Arguments) (name : String) : Option Arguments :=
  match name with
  | "--schema" => some { a with schema := true }
  | "--verbose" => some a
  | "--version" => some { a with information := true }
  | "--help" => some { a with information := true }
  | _ => none

/-- Takes note of an option with its value. -/
def noteValue? (a : Arguments) (name value : String) : Option Arguments :=
  match name with
  | "--chunk-size" => some { a with chunkSize := some value }
  | "--parseable-types" => some { a with parseableTypes := some value }
  | "--config" => some { a with config := some value }
  | _ => none

/-- Whether an argument is a run of the one short option. -/
def isShortRun (arg : String) : Bool :=
  match arg.toList with
  | '-' :: c :: cs => (c :: cs).all (· = 'v')
  | _ => false

/-- Whether an argument is an option and no value. -/
def isOption (arg : String) : Bool :=
  match arg.toList with
  | '-' :: _ :: _ => true
  | _ => false

/-- Reads arguments; nothing is returned if they cannot be understood. -/
def readArguments (a : Arguments) : List String → Option Arguments
  | [] => some a
  | arg :: rest =>
    if arg = "--" then some { a with interfaces := a.interfaces ++ rest }
    else if isOption arg then
      if isShortRun arg then readArguments a rest
      else match splitOption arg with
        | (name, some value) =>
          match noteValue? a name value with
          | some a => readArguments a rest
          | none => none
        | (name, none) =>
          match noteFlag? a name with
          | some a => readArguments a rest
          | none => match rest with
            | [] => none
            | value :: rest =>
              match noteValue? a name value with
              | some a => readArguments a rest
              | none => none
    else readArguments { a with interfaces := a.interfaces ++ [arg] } rest

/-! ## Runs -/

/-- What a run is asked to do. -/
structure Job where
  interface : Path
  schema : Bool
  chunkSize : Option Int
  parseableTypes : Option Path
  config : Option Path
  deriving DecidableEq, Repr, Inhabited

/-- What a run answers. -/
structure Outcome where
  exit : Nat
  output : String
  errors : String
  deriving DecidableEq, Repr, Inhabited

/-- The answer to arguments that make no sense. -/
def Outcome.usage : Outcome := ⟨2, "", ""⟩

/-- A chunk size on a command line: an integer from one. -/
def chunkSizeOf (written : String) : Option Int :=
  (Numeral.readInteger? written.toList).filter (1 ≤ ·)

/-- The job that arguments describe, if they are complete and fit the file tree. -/
def jobOf? (tree : FileTree) (a : Arguments) : Option Job := do
  let [interface] := a.interfaces | none
  let some (.file _) := tree.status? interface | none
  let chunkSize ← match a.chunkSize with
    | none => some none
    | some written => (chunkSizeOf written).map some
  let isFile := fun (p : String) => match tree.status? p with | some (.file _) => true | _ => false
  if a.parseableTypes.any isFile then none
  if a.config.any fun p => tree.status? p = some .directory then none
  return ⟨Path.ofString interface, a.schema, chunkSize, a.parseableTypes.map Path.ofString,
    a.config.map Path.ofString⟩

/-- Why a run ends without output. -/
inductive Failure
  | load (fault : LoadFault)
  | config (error : ConfigurationError)
  | source (error : SourceError)
  | emit (error : EmissionError)
  | schema (moment : Moment)

/-- What is said about a failure; nothing about a value that could not be converted or written. -/
def Failure.message? : Failure → Option String
  | load (.config e) => some e.message
  | config e => some e.message
  | source e => some e.message
  | _ => none

/-- A line in the log. -/
def warning (topic text : String) : String := "WARNING modgen." ++ topic ++ ": " ++ text ++ "\n"

/-- Whether a character may stand in a shell word without quotes. -/
def isShellSafe (c : Char) : Bool := c.isAlphanum || "_@%+=:,./-".toList.contains c

/-- A word as it is written in a shell. -/
def shellWord (s : String) : String :=
  if s = "" then "''"
  else if s.toList.all isShellSafe then s
  else "'" ++ replaceChar '\'' "'\"'\"'" s ++ "'"

/-- The command that is recorded in a generated module. -/
def recordedCommand (interface : Path) (size : ChunkSize) : String :=
  joinWith " " (["modgen", interface.name, "--chunk-size", size.text].map shellWord)

/-- The configuration of a job. -/
def configurationFor (tree : FileTree) (job : Job) : Except Failure Configuration := do
  let c ← (loadConfiguration tree job.config).mapError .load
  match job.chunkSize with
  | none => return c
  | some n => (c.withChunksOf n).mapError .config

/-- The warning about a directory that is not looked at. -/
def ignoredDirectoryWarning (job : Job) : String :=
  if job.parseableTypes.isSome && !job.schema then
    warning "cli" "--parseable-types only applies to schema mode; ignoring it"
  else ""

/-- The warning about required types that an interface does not have. -/
def missingTypesWarning (c : Configuration) (found : List Enumeration) : String :=
  let missing := missingTypes c found
  if missing.isEmpty then ""
  else warning "core.enum_extractor"
    ("Required types not found in interface: " ++ joinWith ", " missing)

/-- The lines that name the modifiers left out. -/
def skippedLines (c : Catalog) : String :=
  String.join (c.skipped.map fun n => "\x60" ++ n ++ "\x60 will be skipped\n")

/-- What a run writes: the schema or the module. -/
def emitted (job : Job) (config : Configuration) (c : Catalog) : Except Failure String :=
  if job.schema then (schemaText c config).mapError .schema
  else (moduleCode c config (recordedCommand job.interface config.chunkSize)).mapError .emit

/-- The answer of a run that fails, behind what it has said before. -/
def failed (said : String) (f : Failure) : Outcome :=
  ⟨1, "", said ++ (f.message?.map fun m => "Error: " ++ m ++ "\n").getD ""⟩

/-- Does a job. -/
def Job.run (tree : FileTree) (job : Job) : Outcome :=
  match configurationFor tree job with
  | .error f => failed "" f
  | .ok config =>
    let said := ignoredDirectoryWarning job
    match loadSource tree job.interface with
    | .error e => failed said (.source e)
    | .ok source =>
      let plain := Catalog.ofSource config source
      let said := said ++ missingTypesWarning config plain.enums
      match plain.scanning tree config (if job.schema then job.parseableTypes else none) with
      | .error e => failed said (.source e)
      | .ok c =>
        let said := said ++ skippedLines c
        match emitted job config c with
        | .error f => failed said f
        | .ok text => ⟨0, text, said⟩

/-- Runs a command line. -/
def run (tree : FileTree) (args : List String) : Outcome :=
  match args, readArguments .none args with
  | [], _ => .usage
  | _, none => .usage
  | _, some a =>
    if a.information then ⟨0, "", ""⟩
    else match jobOf? tree a with
      | none => .usage
      | some job => job.run tree

end ViewModifiers.CommandLine
