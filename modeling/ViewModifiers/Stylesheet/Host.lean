import ViewModifiers.Stylesheet.Failure

/-!
# The host of the views

References in the arguments of a modifier are resolved by the host when the modifier is applied.
What the views receive is recorded as an application: an operation with arguments by place and by
name.
-/

namespace ViewModifiers.Stylesheet

open Text

/-- What a host makes of the references. -/
structure Host where
  children : List String → Value
  text : String → Value
  elementAttribute : String → Value
  binding : String → Value
  event : String → List (String × Value) → Value

namespace Host

/-- The operation by which a reference is resolved. -/
def operation : String := "resolve"

mutual

/-- A value with its reference resolved; references inside a tuple are resolved too. What has the
operation of a reference is taken for one: so is a value of an enumerated type with a case of that
name, which then cannot be called. -/
def resolve (h : Host) : Value → Except Failure Value
  | .tuple items => do return .tuple (← resolveAll h items)
  | .views _ templates => return h.children templates
  | .textTemplate template => return h.text template
  | .constant value => return value
  | .elementAttribute name => return h.elementAttribute name
  | .binding name => return h.binding name
  | .event name params => return h.event name params
  | .enumCase type name =>
    if type.members.contains operation then throw (.notCallable type.name)
    else return .enumCase type name
  | value => return value

/-- Several values with their references resolved. -/
def resolveAll (h : Host) : List Value → Except Failure (List Value)
  | [] => return []
  | v :: vs => do
    let first ← resolve h v
    return first :: (← resolveAll h vs)

end

end Host

/-- A call of an operation of a view. -/
structure Application where
  operation : String
  arguments : List Value
  keywords : NameTable Value

namespace Application

/-- The call with the arguments that were given. An omitted argument by place is left out only where
no given one follows it, and of several arguments of one name the last one counts. -/
def ofGiven (operation : String) (arguments : List Value) (keywords : List (String × Value)) :
    Application where
  operation := operation
  arguments := (arguments.reverse.dropWhile Value.isOmitted).reverse
  keywords := (NameTable.ofList keywords).filter fun k => !k.2.isOmitted

/-- The call that a modifier without a schema stands for. -/
def ofCall (h : Host) (c : Call Value) : Except Failure Application := do
  let arguments ← c.arguments.mapM h.resolve
  let keywords ← c.keywords.mapM fun k => do return (k.1, ← h.resolve k.2)
  return ofGiven c.name arguments keywords

end Application

end ViewModifiers.Stylesheet
