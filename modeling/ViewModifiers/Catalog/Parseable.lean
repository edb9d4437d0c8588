import ViewModifiers.Catalog.Basic
import ViewModifiers.Interface.DeclarationReader
import ViewModifiers.Interface.Report
import ViewModifiers.Source.FileTree

/-!
# Types that are marked as parseable

Besides the interface, a schema may take in the sources of a host: their enums that are marked as
parseable, and the names of the types that such declarations refer to.
-/

namespace ViewModifiers.Catalog

open Interface Config Text Source

/-- The attributes that mark a declaration as parseable. -/
def parseableAttributes : List String := ["ParseableExpression", "Parseable"]

/-- The protocol that marks a declaration as parseable. -/
def parseableProtocol : String := "ParseableModifierValue"

/-- Whether a declaration is marked as parseable. -/
def isMarkedParseable (d : DeclaredType) : Bool :=
  parseableAttributes.any (carriesAttribute d.attributes)
    || d.inherits.any fun t => t.path?.bind List.getLast? = some parseableProtocol

/-- The name of a type that is referred to, behind optional marks and array brackets. -/
def referencedName? (modules : List String) : TypeExpr → Option String
  | .optional wrapped _ => referencedName? modules wrapped
  | .array element => referencedName? modules element
  | t => t.path?.map fun path => withoutModule modules (joinWith "." path)

/-- The parseable enums with their cases, and the types that are referred to. -/
structure ParseableTypes where
  enums : NameTable (List String)
  types : NameSet
  deriving Inhabited

namespace ParseableTypes

/-- No types. -/
def empty : ParseableTypes := ⟨[], .empty⟩

/-- Takes up a parseable type. -/
def add (modules : List String) (found : ParseableTypes) (o : Occurrence) : ParseableTypes :=
  if o.declaration.kind = .enumType then
    let cases := o.declaration.cases
    let referenced := cases.flatMap fun c => c.associated.filterMap (referencedName? modules)
    ⟨NameTable.put found.enums o.name (cases.map (·.name)),
      referenced.foldl NameSet.insert found.types⟩
  else { found with types := found.types.insert o.name }

/-- Takes up the parseable types of a source file. -/
def addSource (c : Configuration) (found : ParseableTypes) (source : InterfaceFile) :
    ParseableTypes :=
  let extensions := source.declarations.filter fun d => d.kind = .extending && isMarkedParseable d
  let extended := extensions.map fun d => withoutModule c.modulePrefixes d.name
  let marked := (occurrencesOf c source).filter fun o => isMarkedParseable o.declaration
  marked.foldl (add c.modulePrefixes)
    { found with types := extended.foldl NameSet.insert found.types }

end ParseableTypes

/-- Why a run fails on its sources. -/
inductive SourceError
  | missingDirectory (path : String)
  | unreadableSource (path : String)
  | unreadableInterface (path : String)
  | malformed (path text : String) (error : SyntaxError)
  deriving DecidableEq, Repr

/-- What is said about a run that fails on its sources. -/
def SourceError.message : SourceError → String
  | missingDirectory path => "Parseable types directory not found: " ++ path
  | unreadableSource path => "Cannot read " ++ path ++ ": " ++ unknownCause
  | unreadableInterface path => "Cannot read interface file " ++ path ++ ": " ++ unknownCause
  | malformed path text e => e.report path text

/-- Parses the text of a file. -/
def parseFile (path : Path) (text : String) : Except SourceError InterfaceFile :=
  match readInterface text with
  | .ok source => .ok source
  | .error e => .error (.malformed path.toString text e)

/-- Whether a name below a directory is that of a source file. -/
def isSourceName (names : List String) : Bool :=
  match names.getLast? with
  | none => false
  | some name => ".swift".toList.isSuffixOf name.toList

/-- The sources below a directory, in the order of their paths. -/
def sourcesBelow (tree : FileTree) (directory : Path) : List (List String) :=
  match tree.resolve? directory with
  | none => []
  | some (place, _) =>
    ((tree.below place).filter isSourceName).mergeSort fun a b =>
      joinWith "/" a ≤ joinWith "/" b

/-- Scans the sources below a directory. -/
def scanParseable (tree : FileTree) (c : Configuration) (directory : Path) :
    Except SourceError ParseableTypes := do
  if !tree.isDirectory directory then throw (.missingDirectory directory.toString)
  (sourcesBelow tree directory).foldlM (fun found names => do
    let path := directory.below names
    match tree.read? path with
    | none => throw (.unreadableSource path.toString)
    | some text => return found.addSource c (← parseFile path text)) ParseableTypes.empty

/-- The catalog with the types that a scan has found. -/
def Catalog.withParseable (c : Catalog) (p : ParseableTypes) : Catalog :=
  { c with parseableEnums := p.enums, referencedTypes := p.types }

/-- A catalog with the types of the sources below a directory, if one is given. -/
def Catalog.scanning (tree : FileTree) (config : Configuration) (directory : Option Path)
    (c : Catalog) : Except SourceError Catalog :=
  match directory with
  | none => .ok c
  | some d => (scanParseable tree config d).map c.withParseable

/-- Reads and parses an interface file. -/
def loadSource (tree : FileTree) (interface : Path) : Except SourceError InterfaceFile :=
  match tree.read? interface with
  | none => .error (.unreadableInterface interface.toString)
  | some text => parseFile interface text

/-- The catalog of an interface file and, if a directory is given, of the sources below it. -/
def catalogOfFile (tree : FileTree) (config : Configuration) (interface : Path)
    (directory : Option Path) : Except SourceError Catalog := do
  (Catalog.ofSource config (← loadSource tree interface)).scanning tree config directory

end ViewModifiers.Catalog
