import ViewModifiers.Interface.TypeExpr

/-!
# Signatures

The parameters of one overload of a modifier, with the types that a parser reads. Two signatures
duplicate each other when no call can tell them apart: they have the same labels and the same
simple types, place by place.
-/

namespace ViewModifiers.Catalog

open Interface

/-- The first name of a parameter whose argument has no label. -/
def wildcard : String := "_"

/-- A parameter of a modifier. -/
structure Parameter where
  firstName : String
  secondName : Option String
  type : TypeExpr
  hasDefault : Bool
  deriving DecidableEq, Repr, Inhabited

namespace Parameter

/-- Whether the argument is given with a label. -/
def hasLabel (p : Parameter) : Bool := p.firstName ≠ wildcard

/-- The name by which generated code knows the parameter. -/
def localName (p : Parameter) : String := (p.secondName.filter (· ≠ "")).getD p.firstName

/-- What a duplicate has to agree in. -/
def shape (p : Parameter) : String × String := (p.firstName, p.type.plainName)

end Parameter

/-- The parameters of one overload. -/
structure Signature where
  parameters : List Parameter
  deriving DecidableEq, Repr, Inhabited

/-- The types that are resolved against the host when a modifier is applied. -/
def contextTypes : List String :=
  ["ViewReference", "TextReference", "AttributeReference", "InlineViewReference"]

/-- Whether a type, or what is optional in it, is resolved against the host. -/
def typeNeedsContext : TypeExpr → Bool
  | .optional (.named name _) _ => contextTypes.contains name
  | .named name _ => contextTypes.contains name
  | _ => false

namespace Signature

/-- What a duplicate has to agree in. -/
def shape (s : Signature) : List (String × String) := s.parameters.map (·.shape)

/-- Whether two signatures duplicate each other. -/
def looksLike (s t : Signature) : Bool := s.shape == t.shape

/-- Whether a parameter is resolved against the host. -/
def needsHost (s : Signature) : Bool := s.parameters.any fun p => typeNeedsContext p.type

/-- The argument labels, as they are shown behind a modifier's name. -/
def text (s : Signature) : String :=
  "(" ++ String.join (s.parameters.map fun p => p.firstName ++ ":") ++ ")"

end Signature

/-- Keeps the first of every class of duplicates. -/
def distinctSignatures (signatures : List Signature) : List Signature :=
  signatures.foldl (fun kept s => if kept.any (·.looksLike s) then kept else kept ++ [s]) []

/-- Whether a type is a reference of the given name. -/
def refersTo (name : String) : TypeExpr → Bool
  | .named n _ => n == name
  | _ => false

/-- Whether a parameter of builder form has become a view reference in another signature. -/
def isReplaced (p q : Parameter) : Bool :=
  refersTo "ToolbarContentReference" p.type && refersTo "ViewReference" q.type

/-- Compares parameters place by place: they have to be alike apart from replaced builders, and the
result tells whether any was replaced. -/
def replacements : List Parameter → List Parameter → Option Bool
  | [], [] => some false
  | p :: ps, q :: qs =>
    if p.firstName = q.firstName then
      if isReplaced p q then (replacements ps qs).map fun _ => true
      else if p.type = q.type then replacements ps qs
      else none
    else none
  | _, _ => none

/-- Whether a signature is another one with builders in place of view references. -/
def isShadowedBy (s t : Signature) : Bool := replacements s.parameters t.parameters = some true

/-- Drops the builder forms that a sibling with view references covers, for the modifiers that
prefer view references. -/
def withoutShadowed (name : String) (signatures : List Signature) (preferring : List String) :
    List Signature :=
  if preferring.contains name then
    signatures.filter fun s => !signatures.any fun t => isShadowedBy s t
  else signatures

end ViewModifiers.Catalog
