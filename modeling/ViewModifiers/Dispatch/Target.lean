import ViewModifiers.Numeral.Integer
import ViewModifiers.Text.NameTable
import ViewModifiers.Text.Split

/-!
# Build targets

A generated module is used on one platform in one version. Versions are compared number by number,
and missing numbers at the end count as zero.
-/

namespace ViewModifiers.Dispatch

open Text Numeral

/-- A version, which does not end in zero. -/
abbrev Version := List Int

namespace Version

/-- A version without the zeros at its end. -/
def trim (v : Version) : Version := (v.reverse.dropWhile (· = 0)).reverse

/-- The version written by numbers with dots between them; nothing if one of them is no number. -/
def read? (text : String) : Option Version :=
  let parts := (pieces '.' (trimBlanks text.toList)).filter fun p => !p.isEmpty
  (parts.mapM readInteger?).map trim

/-- Whether a version is at least another one. -/
def atLeast : Version → Version → Bool
  | _, [] => true
  | [], _ :: _ => false
  | a :: as, b :: bs => b < a || (a = b && atLeast as bs)

end Version

/-- A platform in a version. -/
structure Target where
  platform : String
  version : Version
  deriving DecidableEq, Repr, Inhabited

namespace Target

/-- The platform that is meant where none is named. -/
def defaultPlatform : String := "iOS"

/-- The version that is meant where none is named. -/
def defaultVersion : String := "17.0"

/-- The target of a platform and the text of a version. -/
def read? (platform version : String) : Option Target :=
  (Version.read? version).map fun v => ⟨platform, v⟩

/-- The target of the settings that are given. -/
def ofSettings? (platform version : Option String) : Option Target :=
  read? (platform.getD defaultPlatform) (version.getD defaultVersion)

/-- Whether a target meets the lowest versions of platforms. A platform that is missing is not
available at all, and one without a version always is. -/
def meets (t : Target) (requirements : NameTable (Option Version)) : Bool :=
  match NameTable.get? requirements t.platform with
  | none => false
  | some none => true
  | some (some minimum) => t.version.atLeast minimum

end Target

end ViewModifiers.Dispatch
