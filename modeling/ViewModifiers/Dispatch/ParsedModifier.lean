import ViewModifiers.Catalog.Basic
import ViewModifiers.Dispatch.Arguments
import ViewModifiers.Emit.Name
import ViewModifiers.Stylesheet.Host

/-!
# Calls of a known modifier

A call of a retained modifier is read by the first of its overloads that accepts it. What comes out
knows the overload and its arguments, and can be applied to a view.
-/

namespace ViewModifiers.Dispatch

open Catalog Stylesheet Reader

/-- A call of a modifier: the overload that accepted it and one argument per parameter. -/
structure ParsedModifier where
  modifier : Modifier
  overload : Nat
  signature : Signature
  arguments : List Value
  metadata : Metadata Value

namespace ParsedModifier

/-- The arguments by the fields that keep them. -/
def fields (p : ParsedModifier) : List (String × Value) :=
  (Emit.argumentFields p.signature).zip p.arguments

/-- The arguments with their parameters. -/
def bound (p : ParsedModifier) : List (Parameter × Value) := p.signature.parameters.zip p.arguments

/-- The arguments without a label. -/
def unlabelled (p : ParsedModifier) : List (Parameter × Value) :=
  p.bound.filter fun a => !a.1.hasLabel

/-- The arguments with a label. -/
def labelled (p : ParsedModifier) : List (Parameter × Value) := p.bound.filter fun a => a.1.hasLabel

/-- An argument as the view receives it. -/
def received (h : Host) (p : ParsedModifier) (v : Value) : Except Failure Value :=
  if p.modifier.needsHost then h.resolve v else return v

/-- The call of the view's operation. -/
def application (h : Host) (p : ParsedModifier) : Except Failure Application := do
  let arguments ← p.unlabelled.mapM fun a => p.received h a.2
  let keywords ← p.labelled.mapM fun a => do return (a.1.firstName, ← p.received h a.2)
  return Application.ofGiven p.modifier.name arguments keywords

end ParsedModifier

/-- What is said if no overload accepts a call: the failure of the only one, or all of them in one
text. -/
def overloadFailure (m : Modifier) (start : Token) (failures : List Failure) : Failure :=
  match failures with
  | [failure] => failure
  | _ => .malformed ⟨.noOverload m.name (failures.map (·.text)), start.position⟩

/-- Reads arguments by the first signature that accepts them, which is returned with its index. -/
def firstOverload (r : Registry) (m : Modifier) (start : Token) :
    List (Signature × Nat) → List Failure → Reader (Signature × Nat × List Value)
  | [], failures => throw (overloadFailure m start failures.reverse)
  | (s, index) :: rest, failures => do
    match ← attempt (overloadArguments r s) with
    | .ok values => return (s, index, values)
    | .error e => firstOverload r m start rest (e :: failures)

/-- Reads a call of a modifier. -/
def readModifier (r : Registry) (m : Modifier) : Reader ParsedModifier := do
  let start ← current
  let (name, metadata) ← callHead
  if name ≠ m.name then failAt start (.otherModifier m.name name)
  else
    let (signature, overload, values) ← firstOverload r m start m.signatures.zipIdx []
    return ⟨m, overload, signature, values, metadata⟩

end ViewModifiers.Dispatch
