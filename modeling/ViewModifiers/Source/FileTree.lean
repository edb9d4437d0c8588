import ViewModifiers.Source.Path

/-!
# File trees

The files that a run can see, below the directory in which it is started. Reading a file turns every
line end into a single line feed.
-/

namespace ViewModifiers.Source

/-- A file with its text, or a directory. -/
inductive Node
  | file (text : String)
  | directory
  deriving DecidableEq, Repr, Inhabited

/-- Files and directories by their names from the top. Directories on the way to an entry need no
entry of their own. -/
abbrev FileTree := List (List String × Node)

namespace FileTree

/-- What is found under the names of a path without dots. -/
def nodeAt? (tree : FileTree) (names : List String) : Option Node :=
  match tree.find? (·.1 == names) with
  | some entry => some entry.2
  | none =>
    if names.isEmpty || tree.any (fun e => names.isPrefixOf e.1) then some .directory else none

/-- Follows names from a directory; two dots lead to the directory above. Nothing is found above the
top and below a file. -/
def follow (tree : FileTree) (place : List String) : List String → Option (List String)
  | [] => some place
  | name :: rest =>
    if tree.nodeAt? place = some .directory then
      if name = ".." then
        if place.isEmpty then none else follow tree place.dropLast rest
      else follow tree (place ++ [name]) rest
    else none

/-- The place to which a path leads, if something is there. -/
def resolve? (tree : FileTree) (p : Path) : Option (List String × Node) := do
  if p.root ≠ "" then none
  let place ← tree.follow [] p.names
  let node ← tree.nodeAt? place
  return (place, node)

/-- What a path leads to as it is written: an empty name or a dot is allowed only behind a
directory, and the empty text leads nowhere. -/
def status? (tree : FileTree) (written : String) : Option Node :=
  let names := Text.fields '/' written
  if written = "" || (Path.ofString written).root ≠ "" then none
  else
    let goOn := fun (at_ : Option (List String)) (name : String) =>
      match at_ with
      | none => none
      | some place =>
        if name = "" || name = "." then
          if tree.nodeAt? place = some .directory then some place else none
        else tree.follow place [name]
    (names.foldl goOn (some [])).bind tree.nodeAt?

/-- What a path leads to. -/
def find? (tree : FileTree) (p : Path) : Option Node := (tree.resolve? p).map (·.2)

/-- Whether a path leads to a directory. -/
def isDirectory (tree : FileTree) (p : Path) : Bool := tree.find? p = some .directory

/-- A text in which carriage returns, alone or before a line feed, are line feeds, behind the text
passed in reverse. -/
def lineFeedsFrom : List Char → List Char → List Char
  | done, [] => done.reverse
  | done, '\r' :: '\n' :: cs => lineFeedsFrom ('\n' :: done) cs
  | done, '\r' :: cs => lineFeedsFrom ('\n' :: done) cs
  | done, c :: cs => lineFeedsFrom (c :: done) cs

/-- A text in which carriage returns, alone or before a line feed, are line feeds. -/
def withLineFeeds (cs : List Char) : List Char := lineFeedsFrom [] cs

/-- The text of a file. -/
def read? (tree : FileTree) (p : Path) : Option String :=
  match tree.find? p with
  | some (.file text) => some (String.ofList (withLineFeeds text.toList))
  | _ => none

/-- All places in a tree: those of its entries and of the directories on the way to them. -/
def places (tree : FileTree) : List (List String) :=
  (tree.flatMap fun e => (List.range e.1.length).map fun n => e.1.take (n + 1)).eraseDups

/-- The names below a directory of everything in it, at any depth. -/
def below (tree : FileTree) (place : List String) : List (List String) :=
  (tree.places.filter fun p => place.isPrefixOf p && place.length < p.length).map
    (·.drop place.length)

end FileTree

/-- What stands in an error text for the part that only the system can word. -/
def unknownCause : String := "<cause>"

end ViewModifiers.Source
