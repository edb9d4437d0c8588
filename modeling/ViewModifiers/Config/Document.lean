import ViewModifiers.Config.Scalar

/-!
# TOML documents

A document is a sequence of statements, one a line: a key with its value, or a header that opens a
table or adds one to an array. Besides the data themselves, a reader of statements remembers which
tables have been opened and which values were written out in full, since neither may be extended
later. Paths that it remembers do not count positions in arrays.
-/

namespace ViewModifiers.Config

open Text DocumentReader

/-- The entries of a table. -/
abbrev Entries := List (String × Datum)

/-! ## Places in a document -/

/-- Changes the table at a path, making tables that are missing on the way; an array of tables
stands for its last one if `throughLists` says so. Nothing is returned if something else is in the
way. -/
def updateAt (throughLists : Bool) (change : Entries → Option Entries) :
    List String → Entries → Option Entries
  | [], entries => change entries
  | k :: path, entries =>
    match NameTable.get? entries k with
    | none => (updateAt throughLists change path []).map fun t => NameTable.put entries k (.table t)
    | some (.table inner) =>
      (updateAt throughLists change path inner).map fun t => NameTable.put entries k (.table t)
    | some (.list items) =>
      match throughLists, items.getLast? with
      | true, some (.table inner) =>
        (updateAt throughLists change path inner).map fun t =>
          NameTable.put entries k (.list (items.dropLast ++ [.table t]))
      | _, _ => none
    | some _ => none

/-- Adds a value under a name that is not taken. -/
def addEntry (name : String) (value : Datum) (entries : Entries) : Option Entries :=
  if NameTable.has entries name then none else some (NameTable.put entries name value)

/-- Adds an empty table to the array under a name. -/
def appendTable (name : String) (entries : Entries) : Option Entries :=
  match NameTable.get? entries name with
  | none => some (NameTable.put entries name (.list [.table []]))
  | some (.list items) => some (NameTable.put entries name (.list (items ++ [.table []])))
  | some _ => none

/-- Whether one of the paths begins another path, or is it. -/
def anyPrefixOf (paths : List (List String)) (path : List String) : Bool :=
  paths.any fun p => p.isPrefixOf path

/-- Whether a value was written with brackets. -/
def isComposite : Datum → Bool
  | .list _ | .table _ => true
  | _ => false

/-- Goes on with a result, or gives up. -/
def orMalformed {α : Type} (x : Option α) : DocumentReader α :=
  match x with
  | some a => pure a
  | none => malformed

/-! ## Values -/

namespace DocumentReader

/-- Reads the elements of an array behind its bracket, over a reader of values. -/
def arrayItems (value : DocumentReader Datum) : List Char → DocumentReader (List Datum)
  | [] => malformed
  | _ :: measure => do
    skipGaps
    if ← startsWith [']'] then
      drop 1
      return []
    let item ← value
    skipGaps
    match ← next? with
    | some ']' =>
      drop 1
      return [item]
    | some ',' =>
      drop 1
      return item :: (← arrayItems value measure)
    | _ => malformed

/-- Reads a key with its value, over a reader of values. -/
def keyValue (value : DocumentReader Datum) : DocumentReader (List String × Datum) := do
  let path ← key
  if !(← startsWith ['=']) then malformed
  drop 1
  skipBlanks
  return (path, ← value)

/-- Reads the entries of an inline table behind its brace, or behind a comma in it, over a reader of
values. The values written out in full are remembered by their paths. -/
def inlineEntries (value : DocumentReader Datum) :
    List Char → List (List String) → Entries → DocumentReader Entries
  | [], _, _ => malformed
  | _ :: measure, frozen, entries => do
    let (path, v) ← keyValue value
    if anyPrefixOf frozen path then malformed
    let entries ←
      orMalformed (updateAt false (addEntry (path.getLastD "") v) path.dropLast entries)
    skipBlanks
    match ← next? with
    | some '\x7d' =>
      drop 1
      return entries
    | some ',' =>
      drop 1
      skipBlanks
      inlineEntries value measure (if isComposite v then path :: frozen else frozen) entries
    | _ => malformed

/-- Reads an inline table, over a reader of values. -/
def inlineTable (value : DocumentReader Datum) : DocumentReader Datum := do
  drop 1
  skipBlanks
  if ← startsWith ['\x7d'] then
    drop 1
    return .table []
  return .table (← inlineEntries value (← get) [] [])

/-- Reads a value, over a reader of the values nested in it. -/
def valueWith (nested : DocumentReader Datum) : DocumentReader Datum := do
  match ← next? with
  | some '"' => return .text (← string '"')
  | some '\'' => return .text (← string '\'')
  | some '[' =>
    drop 1
    return .list (← arrayItems nested (← get))
  | some '\x7b' => inlineTable nested
  | _ =>
    if ← startsWith ['t', 'r', 'u', 'e'] then
      drop 4
      return .flag true
    else if ← startsWith ['f', 'a', 'l', 's', 'e'] then
      drop 5
      return .flag false
    else if let some d ← moment? then return d
    else number

/-- Reads a value, nested no deeper than there are characters to measure it. -/
def valueFrom : List Char → DocumentReader Datum
  | [] => valueWith malformed
  | _ :: measure => valueWith (valueFrom measure)

/-- Reads a value. -/
def value : DocumentReader Datum := do valueFrom (← get)

end DocumentReader

/-! ## Statements -/

/-- What has been read of a document: its data, the tables that have been opened, those that will
count as opened from the next header on, the values written out in full, and the table to which
keys belong now. -/
structure Document where
  entries : Entries
  opened : List (List String)
  pending : List (List String)
  frozen : List (List String)
  header : List String

namespace Document

/-- The document before its first statement. -/
def empty : Document := ⟨[], [], [], [], []⟩

/-- Counts the tables made by dotted keys as opened. -/
def settled (d : Document) : Document := { d with opened := d.pending ++ d.opened, pending := [] }

/-- Opens a table. -/
def openTable (d : Document) (path : List String) : Option Document := do
  if d.opened.contains path || anyPrefixOf d.frozen path then none
  let entries ← updateAt true some path d.entries
  return { d with entries, opened := path :: d.opened, header := path }

/-- Adds a table to an array and opens it; what was opened inside the one before is free again. -/
def openListItem (d : Document) (path : List String) : Option Document := do
  if anyPrefixOf d.frozen path then none
  let entries ← updateAt true (appendTable (path.getLastD "")) path.dropLast d.entries
  let outside := fun p : List String => !path.isPrefixOf p
  return { d with entries, opened := path :: d.opened.filter outside,
                  frozen := d.frozen.filter outside, header := path }

/-- The paths of the tables through which a dotted key leads. -/
def tablesOnTheWay (header path : List String) : List (List String) :=
  (List.range (path.length - 1)).map fun i => header ++ path.take (i + 1)

/-- Adds a key with its value. -/
def addKey (d : Document) (path : List String) (value : Datum) : Option Document := do
  let onTheWay := tablesOnTheWay d.header path
  if onTheWay.any d.opened.contains then none
  let parent := d.header ++ path.dropLast
  if anyPrefixOf d.frozen parent then none
  let entries ← updateAt true (addEntry (path.getLastD "") value) parent d.entries
  let frozen := if isComposite value then (d.header ++ path) :: d.frozen else d.frozen
  return { d with entries, frozen, pending := onTheWay ++ d.pending }

/-- Reads a header, whose brackets come once for a table and twice for an item of an array. -/
def headerStatement (d : Document) : DocumentReader Document := do
  let isItem ← startsWith ['[', '[']
  let width := if isItem then 2 else 1
  drop width
  skipBlanks
  let path ← key
  let d ← orMalformed (if isItem then d.settled.openListItem path else d.settled.openTable path)
  if !(← startsWith (List.replicate width ']')) then malformed
  drop width
  return d

/-- Reads a statement, if one stands here. -/
def statement (d : Document) : DocumentReader Document := do
  match ← next? with
  | some '[' => headerStatement d
  | some '#' => return d
  | some '\n' => return d
  | none => return d
  | some _ =>
    let (path, v) ← keyValue value
    orMalformed (d.addKey path v)

/-- Reads statements up to the end of the document. -/
def statementsFrom : List Char → Document → DocumentReader Document
  | [], d => return d
  | _ :: measure, d => do
    skipBlanks
    let d ← d.statement
    skipBlanks
    skipComment
    match ← next? with
    | none => return d
    | some '\n' =>
      drop 1
      statementsFrom measure d
    | some _ => malformed

/-- Reads a whole document. -/
def parse (text : String) : Except DocumentFault Entries := do
  let cs := text.toList
  let (d, _) ← (statementsFrom cs empty).run cs
  return d.entries

end Document

end ViewModifiers.Config
