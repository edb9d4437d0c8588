import ViewModifiers.Text.Split

/-!
# The lines around a place in a file

An excerpt names a place in a file and may carry the lines around it. Its rendering numbers those
lines and puts a caret line under the one that is meant.

Line, column and radius are integers: an excerpt may be asked for at any place, also one that the
text does not have.
-/

namespace ViewModifiers.Source

/-- A place in a file and, if its text is known, the lines around it. -/
structure Excerpt where
  file : String
  line : Int
  column : Int
  lines : Option (List String)
  firstLine : Nat
  deriving DecidableEq, Repr, Inhabited

namespace Excerpt

/-- A place in a file of which the text is not known. -/
def bare (file : String) (line column : Int) : Excerpt := ⟨file, line, column, none, 1⟩

/-- The elements of a list from a start up to an end; a negative end counts from the list's own
end. -/
def window {α : Type} (xs : List α) (start : Nat) (stop : Int) : List α :=
  let bound := if stop < 0 then (xs.length + stop).toNat else stop.toNat
  (xs.take bound).drop start

/-- A place in a text with up to `radius` lines on either side. -/
def around (file : String) (line column : Int) (text : String) (radius : Int) : Excerpt :=
  let lines := Text.fields '\n' text
  let first := max 1 (line - radius)
  let last := min (lines.length : Int) (line + radius)
  ⟨file, line, column, some (window lines (first.toNat - 1) last), first.toNat⟩

/-- File, line and column, as they begin an error text. -/
def location (e : Excerpt) : String :=
  e.file ++ ":" ++ toString e.line ++ ":" ++ toString e.column

/-- The lines of the excerpt as one text. -/
def snippet (e : Excerpt) : Option String := e.lines.map fun ls => Text.joinWith "\n" ls

/-- A number on at least four places. -/
def padNumber (n : Nat) : String :=
  let digits := (Nat.repr n).toList
  String.ofList (List.replicate (4 - digits.length) ' ' ++ digits)

/-- The line that points at the column. -/
def caretLine (column : Int) : String :=
  "     | " ++ String.ofList (List.replicate (column - 1).toNat ' ') ++ "^"

/-- Numbers the lines and adds the caret line behind the line that is meant. -/
def renderFrom (line column : Int) : Nat → List String → List String
  | _, [] => []
  | n, l :: ls =>
    let numbered := padNumber n ++ " | " ++ l
    let rest := renderFrom line column (n + 1) ls
    if (n : Int) = line then numbered :: caretLine column :: rest else numbered :: rest

/-- The numbered lines; nothing if the excerpt holds no text at all. -/
def render (e : Excerpt) : List String :=
  match e.lines with
  | none => []
  | some ls => if ls = [] ∨ ls = [""] then [] else renderFrom e.line e.column e.firstLine ls

/-- A message with its location in front and the excerpt below. -/
def describe (e : Excerpt) (message : String) : String :=
  Text.joinWith "\n" ((e.location ++ ": " ++ message) :: e.render)

end Excerpt

end ViewModifiers.Source
