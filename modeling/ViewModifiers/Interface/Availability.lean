import ViewModifiers.Interface.Token
import ViewModifiers.Numeral.Integer
import ViewModifiers.Text.NameSet
import ViewModifiers.Text.NameTable
import ViewModifiers.Text.Split

/-!
# Availability

On which platforms, and from which versions, a declaration exists. Constraints of one declaration
are merged: what comes first wins where the two differ.
-/

namespace ViewModifiers.Interface

open Text

/-- A platform, with the lowest version if one is named. -/
structure PlatformRequirement where
  platform : String
  version : Option String
  deriving DecidableEq, Repr, Inhabited

/-- The availability of a declaration: platform requirements in declared order, the platforms on
which it is unavailable, and what is said about its deprecation. -/
structure Availability where
  platforms : List PlatformRequirement
  unavailable : NameSet
  deprecated : Bool
  message : Option String
  renamed : Option String
  deriving DecidableEq, Inhabited

/-- A text unless it is missing or empty. -/
def givenText (s : Option String) : Option String := s.filter (· ≠ "")

namespace PlatformRequirement

/-- The version unless it is missing or empty. -/
def given (p : PlatformRequirement) : Option String := givenText p.version

/-- Platform and version as they are written in an attribute. -/
def text (p : PlatformRequirement) : String :=
  match p.given with
  | some v => p.platform ++ " " ++ v
  | none => p.platform

/-- The numbers of a version text. Parts that do not consist of digits are left out; nothing is
returned if a part of digits is no number. -/
def numbersOf? (version : String) : Option (List Nat) :=
  ((pieces '.' version.toList).filter fun p => !p.isEmpty && p.all isDigit).mapM
    Numeral.readNatural?

/-- Platform and version for comparison; a missing version is the empty text. -/
def key (p : PlatformRequirement) : String × String := (p.platform, p.version.getD "")

end PlatformRequirement

/-- The order of pairs of names by code points, the first name deciding first. -/
def pairLe (a b : String × String) : Bool := a.1 < b.1 || (a.1 = b.1 && a.2 ≤ b.2)

namespace Availability

/-- No requirement of any kind. -/
def always : Availability := ⟨[], .empty, false, none, none⟩

/-- Whether no platform is required. -/
def isEmpty (a : Availability) : Bool := a.platforms.isEmpty

/-- Whether a platform is listed. -/
def lists (a : Availability) (platform : String) : Bool :=
  a.platforms.any (·.platform == platform)

/-- A text unless it is missing or empty, else another one. -/
def firstText (a b : Option String) : Option String := (givenText a).or b

/-- Both constraints together; where they differ, the first one counts. -/
def merge (a b : Availability) : Availability where
  platforms := a.platforms ++ b.platforms.filter fun p => !a.lists p.platform
  unavailable := a.unavailable.union b.unavailable
  deprecated := a.deprecated || b.deprecated
  message := firstText a.message b.message
  renamed := firstText a.renamed b.renamed

/-- The platform requirements in order, for comparison. -/
def normalized (a : Availability) : List (String × String) :=
  (a.platforms.map (·.key)).mergeSort pairLe

/-- Whether two constraints require the same platforms and versions. -/
def agreesWith (a b : Availability) : Bool := a.normalized == b.normalized

/-- The listed platforms that are not unavailable, in order. -/
def offeredPlatforms (a : Availability) : List String :=
  (NameSet.ofList (a.platforms.map (·.platform))).toList.filter fun p => p ∉ a.unavailable

/-- The lowest version for each platform that names one; nothing if a version is no number. -/
def lowestVersions? (a : Availability) : Option (NameTable (List Nat)) :=
  NameTable.ofList <$> a.platforms.filterMapM fun p =>
    match p.given with
    | none => some none
    | some v => (PlatformRequirement.numbersOf? v).map fun ns => some (p.platform, ns)

/-- The requirements as they are written in an attribute, with the closing star. -/
def text (a : Availability) : String :=
  joinWith ", " (a.platforms.map (·.text) ++ ["*"])

end Availability

end ViewModifiers.Interface
