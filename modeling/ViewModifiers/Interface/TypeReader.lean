import ViewModifiers.Interface.TokenReader
import ViewModifiers.Interface.TypeExpr

/-!
# Reading types

A type is read in three layers: a primary type with the marks behind it, a composition of those,
and a full type with attributes and a specifier in front. Each layer is written over the readers of
the types nested inside it. Reading a nested type always comes after using up a token, so the
tokens ahead bound the nesting.
-/

namespace ViewModifiers.Interface

open TokenReader

/-- The layers in which a type is read. -/
inductive TypeLayer
  | primary
  | composed
  | full
  deriving DecidableEq, Repr

namespace TypeReader

/-- The words for ownership that may precede a parameter's type. -/
def ownershipWords : List String :=
  ["__owned", "__shared", "borrowing", "consuming", "isolated", "sending"]

/-- The words in front of a parameter pack. -/
def packWords : List String := ["repeat", "each"]

/-- Reads generic arguments in angle brackets, if there are any. -/
def genericArguments (type : TokenReader TypeExpr) : TokenReader (List TypeExpr) := do
  if ← accept .lessThan then
    let arguments ← commaSeparated type
    let _ ← expect .greaterThan
    return arguments
  else return []

/-- Uses up a label and its colon, if one stands here; of two names before a colon the first is the
label. -/
def label? : TokenReader (Option String) := do
  if (← current).kind.isNameLike && (← peek 1).kind = .colon then
    let name ← advance
    let _ ← advance
    return some name.value
  else if (← current).kind.isNameLike && (← peek 1).kind.isNameLike
      && (← peek 2).kind = .colon then
    let name ← advance
    let _ ← advance
    let _ ← advance
    return some name.value
  else return none

/-- Reads an element of a tuple type. -/
def tupleElement (type : TokenReader TypeExpr) : TokenReader (Option String × TypeExpr) := do
  let label ← label?
  return (label, ← type)

/-- Uses up the effects of a function and says whether they make it asynchronous or throwing. -/
def functionEffects : TokenReader (Bool × Bool) :=
  iterate (false, false) fun (isAsync, throws) => do
    if ← isAtAny [.keyword .asynchronous, .keyword .throwing, .keyword .rethrowing] then
      let word ← advance
      if word.kind = .keyword .asynchronous then return .inl (true, throws)
      else
        let _ ← groupBehind? word
        return .inl (isAsync, true)
    else return .inr (isAsync, throws)

/-- Reads a type in parentheses: a tuple, a type in parentheses or the parameters of a function,
depending on what follows. -/
def parenthesized (type : TokenReader TypeExpr) : TokenReader TypeExpr := do
  let _ ← expect .openParen
  let elements ← commaList .closeParen (tupleElement type)
  let _ ← expect .closeParen
  let (isAsync, throws) ← functionEffects
  if ← accept .arrow then
    return .function (elements.map (·.2)) (← type) isAsync throws
  else if isAsync || throws then fail .expectedArrow
  else match elements with
    | [(none, t)] => return t
    | _ => return .tuple elements

/-- Reads a type in square brackets: an array or a dictionary. -/
def bracketed (type : TokenReader TypeExpr) : TokenReader TypeExpr := do
  let _ ← advance
  let element ← type
  if ← accept .colon then
    let value ← type
    let _ ← expect .closeBracket
    return .dictionary element value
  else
    let _ ← expect .closeBracket
    return .array element

/-- Reads a primary type. -/
def primary (nested : TypeLayer → TokenReader TypeExpr) : TokenReader TypeExpr := do
  let t ← current
  match t.kind with
  | .keyword .someOf =>
    let _ ← advance
    return .quantified .some (← nested .composed)
  | .keyword .anyOf =>
    let _ ← advance
    return .quantified .any (← nested .composed)
  | .openParen => parenthesized (nested .full)
  | .openBracket => bracketed (nested .full)
  | .identifier =>
    let _ ← advance
    if packWords.contains t.value && (← isAtName) then nested .primary
    else return .named t.value (← genericArguments (nested .full))
  | _ => failAt t (.expectedType t.shown)

/-- Reads the marks and members behind a type. -/
def marks (type : TokenReader TypeExpr) (start : TypeExpr) : TokenReader TypeExpr :=
  iterate start fun t => do
    if ← accept .question then return .inl (.optional t false)
    else if ← accept .bang then return .inl (.optional t true)
    else if ← accept .ellipsis then return .inl (.variadic t)
    else if (← isAt .dot) && (← peek 1).kind.isNameLike then
      let _ ← advance
      let name ← advance
      if name.value = "Type" then return .inl (.metatype t .ofType)
      else if name.value = "Protocol" then return .inl (.metatype t .ofProtocol)
      else return .inl (.member t name.value (← genericArguments type))
    else return .inr t

/-- Reads a primary type with the marks behind it. -/
def marked (nested : TypeLayer → TokenReader TypeExpr) : TokenReader TypeExpr := do
  marks (nested .full) (← primary nested)

/-- Reads a composition. -/
def composed (nested : TypeLayer → TokenReader TypeExpr) : TokenReader TypeExpr := do
  let first ← marked nested
  let others ← many do
    if ← accept .ampersand then return some (← marked nested) else return none
  if others.isEmpty then return first else return .composition (first :: others)

/-- Reads an attribute of a type and returns the last part of its name. -/
def typeAttribute? : TokenReader (Option String) := do
  if ← accept .atSign then
    let (names, last) ← dottedNames
    let _ ← groupBehind? last
    return some (Text.lastField '.' (Text.joinWith "." names))
  else return none

/-- Reads a specifier, if one stands here. -/
def specifier? : TokenReader (Option String) := do
  if ← isAt (.keyword .inOut) then return some (← advance).value
  else if (← isAtWord ownershipWords) && (← peek 1).kind.isNameLike then
    return some (← advance).value
  else return none

/-- Reads a full type. -/
def full (nested : TypeLayer → TokenReader TypeExpr) : TokenReader TypeExpr := do
  let attributes ← many typeAttribute?
  let specifier ← specifier?
  let base ← composed nested
  if attributes.isEmpty && specifier.isNone then return base
  else return .attributed attributes specifier base

/-- Reads one layer of a type over readers of the nested types. -/
def layer (nested : TypeLayer → TokenReader TypeExpr) : TypeLayer → TokenReader TypeExpr
  | .primary => primary nested
  | .composed => composed nested
  | .full => full nested

/-- Reads one layer of a type, nested no deeper than there are tokens to measure it. -/
def layerFrom : List Token → TypeLayer → TokenReader TypeExpr
  | [], l => layer (fun _ => fail .nestedTooDeeply) l
  | _ :: measure, l => layer (layerFrom measure) l

end TypeReader

open TypeReader

/-- Reads a type. -/
def readType : TokenReader TypeExpr := do layerFrom (← get).ahead .full

/-- Reads generic arguments in angle brackets, if there are any. -/
def readGenericArguments : TokenReader (List TypeExpr) := genericArguments readType

end ViewModifiers.Interface
