import ViewModifiers.Catalog.Mapping

/-!
# Candidates for modifiers

A candidate is a function, not static, of an extension of a view protocol. Overloads are grouped by
name. Deprecated overloads contribute a message in place of a signature, and overloads that are
unavailable everywhere contribute nothing.
-/

namespace ViewModifiers.Catalog

open Interface Config Text

/-- The overloads of an interface by name, in the order in which the names came up, and the messages
of deprecated ones. -/
structure Candidates where
  overloads : NameTable (List DeclaredFunction)
  deprecations : NameTable String
  deriving Inhabited

/-- What is said about a deprecated function. -/
def deprecationText (f : DeclaredFunction) : String :=
  match givenText f.availability.message, givenText f.availability.renamed with
  | some message, _ => message
  | none, some name => "renamed to \x60" ++ name ++ "\x60"
  | none, none => "\x60" ++ f.name ++ "\x60 is deprecated"

/-- Whether a declaration extends a view protocol. -/
def extendsView (c : Configuration) (d : DeclaredType) : Bool :=
  d.kind = .extending &&
    match fields '.' d.name with
    | [name] => c.viewProtocols.contains name
    | [m, name] => c.modulePrefixes.contains m && c.viewProtocols.contains name
    | _ => false

namespace Candidates

/-- No candidates. -/
def empty : Candidates := ⟨[], []⟩

/-- Takes up a function, whose availability includes that of its extension. -/
def add (found : Candidates) (f : DeclaredFunction) : Candidates :=
  if areStatic f.modifiers || decide ("*" ∈ f.availability.unavailable) then found
  else if f.availability.deprecated then
    if NameTable.has found.deprecations f.name then found
    else { found with
      deprecations := NameTable.put found.deprecations f.name (deprecationText f) }
  else
    let known := (NameTable.get? found.overloads f.name).getD []
    { found with overloads := NameTable.put found.overloads f.name (known ++ [f]) }

/-- Takes up the functions of an extension. -/
def addExtension (found : Candidates) (d : DeclaredType) : Candidates :=
  d.functions.foldl
    (fun found f => found.add { f with availability := f.availability.merge d.availability }) found

/-- The candidates of an interface. -/
def ofSource (c : Configuration) (source : InterfaceFile) : Candidates :=
  (source.declarations.filter (extendsView c)).foldl addExtension empty

end Candidates

end ViewModifiers.Catalog
