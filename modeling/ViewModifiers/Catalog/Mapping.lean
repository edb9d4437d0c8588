import ViewModifiers.Catalog.Signature
import ViewModifiers.Config.Configuration
import ViewModifiers.Interface.Declaration

/-!
# From declared parameters to parsed ones

A builder closure is read as a reference to child content, a closure without a result as an event,
a binding as a tracked name, a text as a text reference and a generic view as a view reference. All
other types are read as they are declared, without module qualifiers.
-/

namespace ViewModifiers.Catalog

open Interface Config

/-- The builder attributes of closures that give child content. -/
inductive Builder
  | view
  | toolbarContent
  deriving DecidableEq, Repr, Inhabited

namespace Builder

/-- The name of the attribute. -/
def attributeName : Builder → String
  | view => "ViewBuilder"
  | toolbarContent => "ToolbarContentBuilder"

/-- The type as which the content is read. -/
def reference : Builder → String
  | view => "ViewReference"
  | toolbarContent => "ToolbarContentReference"

/-- The builders in order of precedence. -/
def all : List Builder := [view, toolbarContent]

end Builder

/-- The attributes written in front of a type. -/
def typeAttributes : TypeExpr → List String
  | .attributed attributes _ _ => attributes
  | _ => []

/-- The builder attribute of a parameter or, failing that, of its type. -/
def builder? (p : DeclaredParameter) : Option Builder :=
  (Builder.all.find? fun b => carriesAttribute p.attributes b.attributeName).or
    (Builder.all.find? fun b => (typeAttributes p.type).contains b.attributeName)

/-- Whether a dotted name is a single name of a list, behind at most one module qualifier. -/
def isQualifiedMember (modules names path : List String) : Bool :=
  match path with
  | [name] => !modules.contains name && names.contains name
  | [m, name] => modules.contains m && names.contains name
  | _ => false

/-- Whether a type is a view protocol. -/
def demandsView (c : Configuration) (t : TypeExpr) : Bool :=
  match t.path? with
  | none => false
  | some path => isQualifiedMember c.modulePrefixes c.viewProtocols path

/-- Whether a generic parameter of a function stands for a view. -/
def standsForView (c : Configuration) (f : DeclaredFunction) (name : String) : Bool :=
  (f.constraintsOn name).any (demandsView c)

/-- The type as which a declared type is read. -/
def argumentType (c : Configuration) (f : DeclaredFunction) : TypeExpr → TypeExpr
  | .attributed _ _ base => argumentType c f base
  | .optional wrapped implicit => .optional (argumentType c f wrapped) implicit
  | .function ps result a t =>
    if result.isVoid then .named "Event" [] else .function ps result a t
  | .quantified word bound =>
    if demandsView c bound then .named "ViewReference" [] else .quantified word bound
  | .named name [argument] =>
    if name = "Binding" then .named "ChangeTracked" [argumentType c f argument]
    else .named name [argument]
  | .named name [] =>
    if name = "Text" then .named "TextReference" []
    else if standsForView c f name then .named "ViewReference" []
    else .named name []
  | t => t

/-- The parameter as it is read. -/
def parameterOf (c : Configuration) (f : DeclaredFunction) (p : DeclaredParameter) : Parameter where
  firstName := p.firstName
  secondName := p.secondName
  type := match builder? p with
    | some b => .named b.reference []
    | none => argumentType c f (p.type.withoutModules c.modulePrefixes)
  hasDefault := p.hasDefault

/-- The signature of an overload. -/
def signatureOf (c : Configuration) (f : DeclaredFunction) : Signature :=
  ⟨f.parameters.map (parameterOf c f)⟩

end ViewModifiers.Catalog
