import ViewModifiers.Text.Split

/-!
# Paths

A path is a root, which is empty for a relative path, and names below it. Empty names and single
dots do not count; two dots are kept, since what they lead to depends on the file tree.
-/

namespace ViewModifiers.Source

/-- A path without empty names and single dots. -/
structure Path where
  root : String
  names : List String
  deriving DecidableEq, Repr, Inhabited

namespace Path

/-- The root of a written path: two leading slashes, and only two, are a root of their own. -/
def rootOf : List Char → String
  | '/' :: '/' :: '/' :: _ => "/"
  | '/' :: '/' :: _ => "//"
  | '/' :: _ => "/"
  | _ => ""

/-- Reads a written path. -/
def ofString (s : String) : Path :=
  ⟨rootOf s.toList, (Text.fields '/' s).filter fun n => n ≠ "" ∧ n ≠ "."⟩

/-- The written form; the empty relative path is a dot. -/
def toString (p : Path) : String :=
  if p.root = "" ∧ p.names = [] then "." else p.root ++ Text.joinWith "/" p.names

/-- The last name, empty if there is none. -/
def name (p : Path) : String := p.names.getLastD ""

/-- A path extended by names below it. -/
def below (p : Path) (names : List String) : Path := { p with names := p.names ++ names }

end Path

end ViewModifiers.Source
