import ViewModifiers.Catalog.Mapping

/-!
# Which overloads can be read

An overload is invalid if a builder closure takes arguments, if any other closure gives a result, or
if a parameter binds the focus.
-/

namespace ViewModifiers.Catalog

open Interface

/-- Why an overload cannot be read. -/
inductive InvalidReason
  | builderTakesArguments (builder : Builder) (parameter : String)
  | closureReturns (parameter : String) (result : TypeExpr)
  | bindsFocus (parameter : String)
  deriving DecidableEq, Repr

/-- What is said about an invalid overload. -/
def InvalidReason.message : InvalidReason → String
  | builderTakesArguments b p =>
    "@" ++ b.attributeName ++ " parameter '" ++ p ++ "' takes arguments"
  | closureReturns p result => "closure parameter '" ++ p ++ "' returns " ++ result.text
  | bindsFocus p => "parameter '" ++ p ++ "' is a FocusState binding"

/-- Parameters and result of the closure in a type, behind one optional mark and attributes. -/
def closureOf? : TypeExpr → Option (List TypeExpr × TypeExpr)
  | .optional wrapped _ => wrapped.closure?
  | t => t.closure?

/-- Why a parameter cannot be read as a closure. -/
def invalidClosure? (p : DeclaredParameter) : Option InvalidReason :=
  match builder? p, closureOf? p.type with
  | some _, some ([], _) => none
  | some b, _ => some (.builderTakesArguments b p.firstName)
  | none, some (_, result) =>
    if result.isVoid then none else some (.closureReturns p.firstName result)
  | none, none => none

/-- Why a parameter cannot be read. -/
def invalidParameter? (p : DeclaredParameter) : Option InvalidReason :=
  (invalidClosure? p).or
    (if p.type.mentions "FocusState" then some (.bindsFocus p.firstName) else none)

/-- Why an overload cannot be read: the fault of its first faulty parameter. -/
def objection? (f : DeclaredFunction) : Option InvalidReason :=
  f.parameters.findSome? invalidParameter?

/-- Whether an overload can be read. -/
def isSupported (f : DeclaredFunction) : Bool := (objection? f).isNone

end ViewModifiers.Catalog
