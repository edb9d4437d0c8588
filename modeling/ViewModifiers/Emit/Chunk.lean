import ViewModifiers.Text.NameTable

/-!
# Chunks

Names are dispatched in consecutive groups of a fixed size; only the last group may have fewer.
-/

namespace ViewModifiers.Emit

open Text

/-- Why something cannot be emitted. -/
inductive EmissionError
  | chunkTooSmall (size : Int)
  | unreadableVersion (version : String)
  deriving DecidableEq, Repr

/-- What is said about it. -/
def EmissionError.message : EmissionError → String
  | chunkTooSmall size => "chunk size must be at least 1, got " ++ toString size
  | unreadableVersion version => "not a version number: " ++ version

variable {α : Type}

/-- How many groups of a size hold a number of elements. -/
def groupCount (size count : Nat) : Nat := (count + size - 1) / size

/-- The group at an index. -/
def groupAt (size : Nat) (xs : List α) (index : Nat) : List α := (xs.drop (index * size)).take size

/-- A list in consecutive groups. -/
def groups (size : Nat) (xs : List α) : List (List α) :=
  (List.range (groupCount size xs.length)).map (groupAt size xs)

/-- A list in consecutive groups, whose size has to be positive. -/
def chunks (size : Int) (xs : List α) : Except EmissionError (List (List α)) :=
  if size < 1 then .error (.chunkTooSmall size) else .ok (groups size.toNat xs)

/-- The index of the group in which the element at an index lands. -/
def groupIndex (size index : Nat) : Nat := index / size

/-- The group of every name of a list. -/
def groupIndices (size : Nat) (names : List String) : NameTable Nat :=
  .ofList (names.zipIdx.map fun (name, index) => (name, groupIndex size index))

end ViewModifiers.Emit
