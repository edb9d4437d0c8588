import ViewModifiers.Config.Defaults
import ViewModifiers.Config.Document
import ViewModifiers.Source.FileTree

/-!
# Loading a configuration

A document replaces each packaged entry that it names. Every entry is checked, in a fixed order, and
the first fault is reported.
-/

namespace ViewModifiers.Config

open Text Source

/-- Why a schema of a hand-written modifier cannot be used. -/
inductive SchemaFault
  | missingKey (key : String)
  | wrongShape
  deriving DecidableEq, Repr

/-- Why a configuration cannot be used. -/
inductive ConfigurationError
  | unreadable (path : String)
  | invalidDocument (path : String)
  | unknownKeys (path : String) (keys : List String)
  | badChunkSize (path : String)
  | notStringList (key path : String)
  | notTable (path : String)
  | invalidSchema (name path : String) (fault : SchemaFault)
  | chunkSizeTooSmall (size : Int)
  deriving DecidableEq, Repr

/-- What is said about a schema. -/
def SchemaFault.message : SchemaFault → String
  | missingKey key => "'" ++ key ++ "'"
  | wrongShape => unknownCause

/-- What is said about a configuration. -/
def ConfigurationError.message : ConfigurationError → String
  | unreadable path => "Cannot read config file " ++ path ++ ": " ++ unknownCause
  | invalidDocument path => "Invalid TOML in " ++ path ++ ": " ++ unknownCause
  | unknownKeys path keys => "Unknown config keys in " ++ path ++ ": " ++ joinWith ", " keys
  | badChunkSize path => "'chunk_size' in " ++ path ++ " must be a positive integer"
  | notStringList key path => "'" ++ key ++ "' in " ++ path ++ " must be a list of strings"
  | notTable path => "'extra_schemas' in " ++ path ++ " must be a table"
  | invalidSchema name path fault =>
    "Invalid extra schema for '" ++ name ++ "' in " ++ path ++ ": " ++ fault.message
  | chunkSizeTooSmall size => "chunk size must be at least 1, got " ++ toString size

/-- How loading fails: with an error of the configuration, or because a value cannot be converted or
gone through at all. -/
inductive LoadFault
  | config (error : ConfigurationError)
  | oversizedInteger
  | notIterable
  deriving DecidableEq, Repr

/-- The keys whose values are lists of names, in the order in which they are checked. -/
def listKeys : List String :=
  ["view_protocols", "module_prefixes", "prefer_view_reference", "extra_modifier_types",
    "required_types", "text_modifiers", "image_modifiers", "denylist"]

/-- All keys of a configuration. -/
def knownKeys : List String := listKeys ++ ["extra_schemas", "chunk_size"]

/-- The elements that a value is gone through by: those of a list, the names of a table or the
characters of a text. -/
def Datum.elements? : Datum → Option (List Datum)
  | list items => some items
  | table entries => some (entries.map fun e => text e.1)
  | text s => some (s.toList.map fun c => text (String.singleton c))
  | _ => none

/-- A chunk size: a positive integer, or `true`. -/
def chunkSizeOf? : Datum → Option ChunkSize
  | .integer n => if n < 1 then none else some (.count n)
  | .flag true => some .single
  | _ => none

/-- A list of names. -/
def namesOf? : Datum → Option (List String)
  | .list items => items.mapM Datum.text?
  | _ => none

/-- A parameter of a hand-written modifier. -/
def extraParameterOf : Datum → Except SchemaFault SchemaParameter
  | .table entries =>
    match NameTable.get? entries "first_name", NameTable.get? entries "type" with
    | none, _ => .error (.missingKey "first_name")
    | some _, none => .error (.missingKey "type")
    | some first, some type => .ok ⟨first, type, NameTable.get? entries "second_name"⟩
  | _ => .error .wrongShape

/-- A signature of a hand-written modifier. -/
def extraSignatureOf (d : Datum) : Except SchemaFault (List SchemaParameter) :=
  match d.elements? with
  | none => .error .wrongShape
  | some parameters => parameters.mapM extraParameterOf

/-- The signatures of a hand-written modifier. -/
def extraSignaturesOf (path : String) (entry : String × Datum) :
    Except LoadFault (String × List (List SchemaParameter)) :=
  match entry.2.elements? with
  | none => .error .notIterable
  | some signatures =>
    match signatures.mapM extraSignatureOf with
    | .error fault => .error (.config (.invalidSchema entry.1 path fault))
    | .ok parsed => .ok (entry.1, parsed)

/-- The entry of a chunk size, or the one that holds without it. -/
def loadChunkSize (path : String) (entries : Entries) (packaged : ChunkSize) :
    Except LoadFault ChunkSize :=
  match NameTable.get? entries "chunk_size" with
  | none => .ok packaged
  | some d =>
    match chunkSizeOf? d with
    | some size => .ok size
    | none => .error (.config (.badChunkSize path))

/-- An entry with a list of names, or the one that holds without it. -/
def loadNames (path : String) (entries : Entries) (key : String) (packaged : List String) :
    Except LoadFault (List String) :=
  match NameTable.get? entries key with
  | none => .ok packaged
  | some d =>
    match namesOf? d with
    | some names => .ok names
    | none => .error (.config (.notStringList key path))

/-- The entry of the hand-written schemas, or the one that holds without it. -/
def loadSchemas (path : String) (entries : Entries)
    (packaged : NameTable (List (List SchemaParameter))) :
    Except LoadFault (NameTable (List (List SchemaParameter))) :=
  match NameTable.get? entries "extra_schemas" with
  | none => .ok packaged
  | some (.table schemas) => schemas.mapM (extraSignaturesOf path)
  | some _ => .error (.config (.notTable path))

/-- The names of a document that no configuration has, in order. -/
def unknownKeysOf (entries : Entries) : List String :=
  (NameSet.ofList (NameTable.names entries)).toList.filter fun k => !knownKeys.contains k

/-- The packaged configuration with the entries of a document in place of its own. -/
def configurationOf (path : String) (entries : Entries) : Except LoadFault Configuration := do
  let unknown := unknownKeysOf entries
  if !unknown.isEmpty then throw (.config (.unknownKeys path unknown))
  let base := Configuration.packaged
  let chunkSize ← loadChunkSize path entries base.chunkSize
  let viewProtocols ← loadNames path entries "view_protocols" base.viewProtocols
  let modulePrefixes ← loadNames path entries "module_prefixes" base.modulePrefixes
  let preferViewReference ←
    loadNames path entries "prefer_view_reference" base.preferViewReference
  let extraModifierTypes ← loadNames path entries "extra_modifier_types" base.extraModifierTypes
  let requiredTypes ← loadNames path entries "required_types" base.requiredTypes
  let textModifiers ← loadNames path entries "text_modifiers" base.textModifiers
  let imageModifiers ← loadNames path entries "image_modifiers" base.imageModifiers
  let denylist ← loadNames path entries "denylist" base.denylist.toList
  let extraSchemas ← loadSchemas path entries base.extraSchemas
  return { chunkSize, viewProtocols, modulePrefixes, preferViewReference, extraModifierTypes,
           requiredTypes, textModifiers, imageModifiers, denylist := .ofList denylist,
           extraSchemas }

/-- The configuration in a document's text. -/
def parseConfiguration (path text : String) : Except LoadFault Configuration :=
  match Document.parse text with
  | .error .malformed => .error (.config (.invalidDocument path))
  | .error .oversizedInteger => .error .oversizedInteger
  | .ok entries => configurationOf path entries

/-- The configuration in a file, or the packaged one. -/
def loadConfiguration (tree : FileTree) (path : Option Path) : Except LoadFault Configuration :=
  match path with
  | none => .ok .packaged
  | some p =>
    match tree.read? p with
    | none => .error (.config (.unreadable p.toString))
    | some text => parseConfiguration p.toString text

/-- A configuration with another chunk size. -/
def Configuration.withChunksOf (c : Configuration) (size : Int) :
    Except ConfigurationError Configuration :=
  if size < 1 then .error (.chunkSizeTooSmall size) else .ok { c with chunkSize := .count size }

end ViewModifiers.Config
