import ViewModifiers.Catalog.Candidates
import ViewModifiers.Catalog.Enumeration
import ViewModifiers.Catalog.Validity

/-!
# The catalog

Everything that is known about the modifiers of an interface before anything is emitted: the
retained modifiers with their signatures, the skipped names, the required enumerated types and the
deprecated names.
-/

namespace ViewModifiers.Catalog

open Interface Config Text

/-- A retained modifier with its signatures in declared order. -/
structure Modifier where
  name : String
  signatures : List Signature
  deriving DecidableEq, Repr, Inhabited

/-- Whether applying a modifier needs the host. -/
def Modifier.needsHost (m : Modifier) : Bool := m.signatures.any (·.needsHost)

/-- What an interface offers, ready to be emitted. -/
structure Catalog where
  modifiers : List Modifier
  skipped : List String
  enums : List Enumeration
  deprecations : NameTable String
  extraModifierTypes : List String
  parseableEnums : NameTable (List String)
  referencedTypes : NameSet
  deriving Inhabited

namespace Catalog

/-- The names of the retained modifiers. -/
def names (c : Catalog) : List String := c.modifiers.map (·.name)

end Catalog

/-- Whether a name is meant for the interface's own use. -/
def isInternal (name : String) : Bool := name.toList.head? = some '_'

/-- The signatures of a modifier, of which no two duplicate each other. -/
def signaturesOf (c : Configuration) (name : String) (valid : List DeclaredFunction) :
    List Signature :=
  withoutShadowed name (distinctSignatures (valid.map (signatureOf c))) c.preferViewReference

/-- The modifier of a name, unless the name is internal or denied or no overload is valid. -/
def retained? (c : Configuration) (overloads : NameTable (List DeclaredFunction)) (name : String) :
    Option Modifier :=
  let valid := ((NameTable.get? overloads name).getD []).filter isSupported
  if isInternal name || decide (name ∈ c.denylist) || valid.isEmpty then none
  else some ⟨name, signaturesOf c name valid⟩

/-- The names of a table in order. -/
def sortedNames {α : Type} (t : NameTable α) : List String :=
  (NameSet.ofList (NameTable.names t)).toList

/-- The deprecated names in order, without the internal ones. -/
def sortedDeprecations (t : NameTable String) : NameTable String :=
  ((sortedNames t).filter fun n => !isInternal n).filterMap fun n =>
    (NameTable.get? t n).map fun message => (n, message)

/-- The catalog of an interface. -/
def Catalog.ofSource (c : Configuration) (source : InterfaceFile) : Catalog :=
  let candidates := Candidates.ofSource c source
  let names := sortedNames candidates.overloads
  { modifiers := names.filterMap (retained? c candidates.overloads)
    skipped := names.filter fun n => (retained? c candidates.overloads n).isNone
    enums := requiredEnums c source
    deprecations := sortedDeprecations candidates.deprecations
    extraModifierTypes := c.extraModifierTypes
    parseableEnums := []
    referencedTypes := .empty }

end ViewModifiers.Catalog
