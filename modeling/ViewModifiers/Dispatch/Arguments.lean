import ViewModifiers.Emit.Name
import ViewModifiers.Stylesheet.Registry

/-!
# Reading the arguments of an overload

Behind its head, a call has a list of arguments, which may be left out. The parameters of a
signature are read from it in their order: each takes the argument that comes next or, if it has a
default and that argument is not for it, stays omitted.
-/

namespace ViewModifiers.Dispatch

open Catalog Stylesheet Reader

/-- Uses up the start of a list of arguments and says whether there is one. -/
def openArguments : Reader Bool := do
  if ← accept .comma then
    let _ ← expectAs .argumentList .openBracket
    return true
  else return false

/-- Whether no argument is left. -/
def isExhausted (listed : Bool) : Reader Bool := do
  if listed then isAt .closeBracket else return true

/-- Uses up the comma behind an argument; the last argument has none. -/
def separator : Reader Unit := do
  if ← accept .comma then return ()
  else if ← isAt .closeBracket then return ()
  else failExpecting .separator

/-- An argument that is not there: it has to have a default. -/
def missing (hasDefault : Bool) (cause : Cause) : Reader Value := do
  if hasDefault then return .omitted else fail cause

/-- Reads an argument without a label. If it has a default, whatever its type does not accept is
left for the next parameter. -/
def positionalArgument (r : Registry) (listed : Bool) (type : String) (hasDefault : Bool) :
    Reader Value := do
  if (← isExhausted listed) || (← isAtKey) then missing hasDefault (.missingArgument type)
  else
    let reader ← r.reader type
    let result ← if hasDefault then attempt reader else .ok <$> reader
    match result with
    | .error _ => return .omitted
    | .ok value =>
      separator
      return value

/-- Reads an argument with a label. -/
def labeledArgument (r : Registry) (listed : Bool) (label type : String) (hasDefault : Bool) :
    Reader Value := do
  if (← isExhausted listed) || !(← isAtKey) || (← current).value ≠ label then
    missing hasDefault (.missingLabel label)
  else
    let reader ← r.reader type
    let _ ← key
    let value ← reader
    separator
    return value

/-- Reads the end of a call. -/
def closeArguments (listed : Bool) : Reader Unit := do
  if listed then
    if ← isAt .closeBracket then
      let _ ← advance
    else
      let t ← current
      failAt t (.surplusArgument t)
  let _ ← expectAs .modifierEnd .closeBrace

/-- Reads the argument of a parameter. -/
def argument (r : Registry) (listed : Bool) (p : Parameter) : Reader Value :=
  if p.hasLabel then labeledArgument r listed p.firstName p.type.text p.hasDefault
  else positionalArgument r listed p.type.text p.hasDefault

/-- Reads the arguments of several parameters. -/
def argumentValues (r : Registry) (listed : Bool) : List Parameter → Reader (List Value)
  | [] => return []
  | p :: ps => do
    let value ← argument r listed p
    return value :: (← argumentValues r listed ps)

/-- How an overload with a hidden field fails: one field that the class has for itself cannot be set,
and for any other an argument is given that the class does not take. -/
def fieldFailure (field : String) : Failure :=
  if Text.normalForm field = "__weakref__" then .noMember field else .wrongArity field

/-- Hands the arguments of an overload to its fields, which fails if one of the fields is hidden. -/
def fillFields (s : Signature) : Reader Unit :=
  match Emit.hiddenField? s with
  | some field => throw (fieldFailure field)
  | none => return ()

/-- Reads the rest of a call behind its head as the arguments of a signature. -/
def overloadArguments (r : Registry) (s : Signature) : Reader (List Value) := do
  let listed ← openArguments
  let values ← argumentValues r listed s.parameters
  fillFields s
  closeArguments listed
  return values

end ViewModifiers.Dispatch
