import ViewModifiers.Interface.AttributeReader
import ViewModifiers.Interface.Scanner
import ViewModifiers.Interface.TypeReader

/-!
# Reading declarations

Members are read one after the other until their scope ends. Imports, extensions, nominal types,
functions, enum cases and typed properties are kept. Anything else is skipped, bracket by bracket,
up to the next token that can begin a declaration.
-/

namespace ViewModifiers.Interface

open TokenReader TypeReader

/-- The members of one scope, in source order. -/
structure Members where
  imports : List String
  types : List DeclaredType
  functions : List DeclaredFunction
  cases : List DeclaredCase
  properties : List DeclaredProperty
  deriving Inhabited

namespace Members

/-- A scope without members. -/
def empty : Members := ⟨[], [], [], [], []⟩

/-- Members collected backwards, put in source order. -/
def reversed (m : Members) : Members :=
  ⟨m.imports.reverse, m.types.reverse, m.functions.reverse, m.cases.reverse, m.properties.reverse⟩

end Members

namespace DeclarationReader

/-! ## Words -/

/-- The words that modify a declaration. -/
def modifierWords : List String :=
  ["public", "open", "package", "internal", "private", "fileprivate", "static", "final",
    "nonisolated", "mutating", "nonmutating", "override", "convenience", "required", "optional",
    "lazy", "weak", "unowned", "dynamic", "indirect", "prefix", "postfix", "infix", "distributed",
    "__consuming", "consuming", "borrowing"]

/-- Whether a token can begin a declaration. -/
def beginsDeclaration (t : Token) : Bool :=
  match t.kind with
  | .atSign | .semicolon => true
  | .keyword word =>
    !([.whereClause, .someOf, .anyOf, .inOut, .throwing, .rethrowing, .asynchronous].contains word)
  | _ => false

/-- Whether a token is a word that modifies a declaration. -/
def isModifierWord (t : Token) : Bool := t.kind = .identifier && modifierWords.contains t.value

/-! ## Skipping -/

/-- Skips a declaration, or the rest of one, up to a token outside brackets that can begin another
one or that ends the scope. With `useFirst` the first token is skipped whatever it is. -/
def passDeclaration (useFirst : Bool) : TokenReader Unit :=
  iterate useFirst fun first => do
    let t ← current
    if t.kind = .endOfFile || t.kind = .closeBrace then return .inr ()
    else if t.kind.closer?.isSome then
      let _ ← bracketGroup
      return .inl false
    else if t.kind = .closeParen || t.kind = .closeBracket then
      failAt t (.unexpected t.value)
    else if first then
      let _ ← advance
      return .inl false
    else if beginsDeclaration t then return .inr ()
    else
      let next ← peek 1
      if isModifierWord t && (beginsDeclaration next || isModifierWord next) then return .inr ()
      else
        let _ ← advance
        return .inl false

/-! ## Parts of declarations -/

/-- Whether the word `class` that comes next modifies another declaration. -/
def classModifiesNext : TokenReader Bool := do
  let next ← peek 1
  return (beginsDeclaration next && next.kind ≠ .atSign) || isModifierWord next

/-- Reads a modifier with its arguments, if one stands here. -/
def modifier? : TokenReader (Option String) := do
  let t ← current
  if isModifierWord t || (t.kind = .keyword .classType && (← classModifiesNext)) then
    let _ ← advance
    let _ ← groupBehind? t
    return some t.value
  else return none

/-- Reads the modifiers of a declaration. -/
def modifiers : TokenReader (List String) := many modifier?

/-- Reads a generic parameter. -/
def genericParameter : TokenReader TypeVariable := do
  let first := (← expectName).value
  let name ← if first = "each" && (← isAtName) then pure (← advance).value else pure first
  if ← accept .colon then return ⟨name, [← readType]⟩ else return ⟨name, []⟩

/-- Reads generic parameters in angle brackets. -/
def genericParameters : TokenReader (List TypeVariable) := do
  let _ ← expect .lessThan
  let parameters ← commaList .greaterThan genericParameter
  let _ ← expect .greaterThan
  return parameters

/-- Reads a requirement of a `where` clause: the spelling of its subject and the type it conforms
to; requirements of equality are read and dropped. -/
def requirement : TokenReader (Option (String × TypeExpr)) := do
  let subject ← readType
  if ← accept .colon then return some (subject.text, ← readType)
  else
    let t ← current
    if t.kind = .symbol && t.value = "==" then
      let _ ← advance
      let _ ← readType
      return none
    else fail .expectedRequirement

/-- Reads a `where` clause. -/
def whereClause : TokenReader (List (String × TypeExpr)) := do
  let _ ← expect (.keyword .whereClause)
  return (← commaSeparated requirement).filterMap id

/-- Generic parameters with the requirements of a `where` clause on each of them. -/
def withRequirements (generics : List TypeVariable)
    (requirements : List (String × TypeExpr)) : List TypeVariable :=
  generics.map fun g =>
    { g with
      constraints := g.constraints ++ (requirements.filter (·.1 == g.name)).map (·.2) }

/-- Uses up a default value, if there is one, and says whether there was. -/
def defaultValue? : TokenReader Bool := do
  if ← accept .equals then
    passExpression [.comma, .closeParen]
    return true
  else return false

/-- Reads a parameter of a function. -/
def parameter : TokenReader DeclaredParameter := do
  let (attributes, _) ← readAttributes
  let firstName := (← expectName).value
  let secondName ← if ← isAt .colon then pure none else pure (some (← expectName).value)
  let _ ← expect .colon
  let type ← readType
  let hasDefault ← defaultValue?
  return { firstName, secondName, type, attributes, hasDefault }

/-- Reads the parameters of a function, up to the closing parenthesis. -/
def parameterList : TokenReader (List DeclaredParameter) := commaList .closeParen parameter

/-- Reads the type of an associated value behind its label. -/
def associatedValue : TokenReader TypeExpr := do
  let _ ← label?
  let type ← readType
  let _ ← defaultValue?
  return type

/-- Reads the associated values of an enum case, if it has any. -/
def associatedValues : TokenReader (List TypeExpr) := do
  if ← accept .openParen then
    let types ← commaList .closeParen associatedValue
    let _ ← expect .closeParen
    return types
  else return []

/-- Uses up a raw value: one literal, which may have a minus sign. -/
def rawValue? : TokenReader Unit := do
  if ← accept .equals then
    let t ← current
    if t.kind = .symbol && t.value = "-" then
      let _ ← advance
    let _ ← advance

/-! ## Declarations -/

/-- Reads one enum case. -/
def enumCase (availability : Availability) : TokenReader DeclaredCase := do
  let name ← expectName
  let associated ← associatedValues
  rawValue?
  return { name := name.value, associated, availability, position := name.position }

/-- Reads a clause of enum cases, which all have the clause's availability. -/
def enumCases (availability : Availability) : TokenReader (List DeclaredCase) := do
  let _ ← expect (.keyword .enumCase)
  commaSeparated (enumCase availability)

/-- Reads the name of a function: a name, or the signs of an operator up to its parameters. -/
def functionName : TokenReader String := do
  let first ← current
  if first.kind.isNameLike then
    return (← advance).value
  else
    let parts ← iterate [] fun found => do
      let t ← current
      if t.kind = .openParen || t.kind = .endOfFile
          || (!found.isEmpty && t.kind = .lessThan) then return .inr found.reverse
      else return .inl ((← advance).value :: found)
    if parts.isEmpty then failAt first .expectedFunctionName else return String.join parts

/-- Reads a function; a body is skipped. -/
def function (attributes : List Attribute) (modifiers : List String)
    (availability : Availability) : TokenReader DeclaredFunction := do
  let word ← expect (.keyword .function)
  let name ← functionName
  let generics ← if ← isAt .lessThan then genericParameters else pure []
  let _ ← expect .openParen
  let parameters ← parameterList
  let _ ← expect .closeParen
  let _ ← many do
    if ← isAtAny [.keyword .asynchronous, .keyword .throwing, .keyword .rethrowing] then
      let effect ← advance
      let _ ← groupBehind? effect
      return some ()
    else return none
  let result ← if ← accept .arrow then pure (some (← readType)) else pure none
  let generics ←
    if ← isAt (.keyword .whereClause) then pure (withRequirements generics (← whereClause))
    else pure generics
  if ← isAt .openBrace then
    let _ ← bracketGroup
  return { name, parameters, generics, result, attributes, modifiers, availability,
           position := word.position }

/-- Reads a property; nothing is returned for one without a written type. -/
def property (modifiers : List String) (availability : Availability) :
    TokenReader (Option DeclaredProperty) := do
  let word ← advance
  if (← isAtName) && (← peek 1).kind = .colon then
    let name := (← advance).value
    let _ ← expect .colon
    let type ← readType
    passDeclaration false
    return some { name, type, modifiers, availability, position := word.position }
  else
    passDeclaration false
    return none

/-- Reads what an import names. -/
def importName : TokenReader String := do
  let _ ← advance
  if ← isAtAny [.keyword .extending, .keyword .enumType, .keyword .structType,
      .keyword .classType, .keyword .protocolType, .keyword .actorType, .keyword .function,
      .keyword .varBinding, .keyword .letBinding, .keyword .typeAlias] then
    let _ ← advance
  dottedName

/-- Reads the name of a declaration with members: a type for an extension, else a name with generic
parameters, which are dropped. -/
def typeName (kind : TypeKind) : TokenReader String := do
  if kind = .extending then return (← readType).text
  else
    let name := (← expectName).value
    if ← isAt .lessThan then
      let _ ← genericParameters
    return name

/-- Reads one inherited type; the word `class` stands for the protocol of all objects. -/
def inheritedType : TokenReader TypeExpr := do
  if ← accept (.keyword .classType) then return .named "AnyObject" [] else readType

/-- Reads a declaration with members over a reader of its body. -/
def typeDeclaration (body : TokenReader Members) (kind : TypeKind) (attributes : List Attribute)
    (modifiers : List String) (availability : Availability) : TokenReader DeclaredType := do
  let word ← advance
  let name ← typeName kind
  let inherits ← if ← accept .colon then commaSeparated inheritedType else pure []
  if ← isAt (.keyword .whereClause) then
    let _ ← whereClause
  let _ ← expect .openBrace
  let members ← body
  let _ ← expect .closeBrace
  return { kind, name, inherits, attributes, modifiers, availability,
           functions := members.functions, cases := members.cases,
           properties := members.properties, nested := members.types,
           position := word.position }

/-- Reads a declaration behind its attributes and modifiers and puts what it declares in front of
the members read before. -/
def declarationBehind (body : TokenReader Members) (members : Members)
    (attributes : List Attribute) (modifiers : List String) (availability : Availability) :
    TokenReader Members := do
  match (← current).kind with
  | .keyword .importing => return { members with imports := (← importName) :: members.imports }
  | .keyword .function =>
    return { members with
      functions := (← function attributes modifiers availability) :: members.functions }
  | .keyword .enumCase =>
    return { members with cases := (← enumCases availability).reverse ++ members.cases }
  | .keyword .varBinding | .keyword .letBinding =>
    return { members with
      properties := (← property modifiers availability).toList ++ members.properties }
  | .keyword word =>
    match TypeKind.ofKeyword? word with
    | some kind =>
      let type ← typeDeclaration body kind attributes modifiers availability
      return { members with types := type :: members.types }
    | none =>
      passDeclaration true
      return members
  | _ =>
    passDeclaration true
    return members

/-- Reads one declaration and puts what it declares in front of the members read before. -/
def declaration (body : TokenReader Members) (members : Members) : TokenReader Members := do
  let (attributes, availability) ← readAttributes
  let modifiers ← modifiers
  declarationBehind body members attributes modifiers availability

/-- Reads members up to the end of their scope, over a reader of the bodies nested in them. -/
def membersWith (body : TokenReader Members) (terminator : TokenKind) : TokenReader Members :=
  iterate .empty fun members => do
    let t ← current
    if t.kind = terminator || t.kind = .endOfFile then return .inr members.reversed
    else if t.kind = .semicolon then
      let _ ← advance
      return .inl members
    else if t.kind = .closeBrace then fail (.unexpected "\x7d")
    else return .inl (← declaration body members)

/-- Reads members, nested no deeper than there are tokens to measure it. -/
def membersFrom : List Token → TokenKind → TokenReader Members
  | [], terminator => membersWith (fail .nestedTooDeeply) terminator
  | _ :: measure, terminator => membersWith (membersFrom measure .closeBrace) terminator

/-- Reads members up to the end of their scope. -/
def members (terminator : TokenKind) : TokenReader Members := do
  membersFrom (← get).ahead terminator

end DeclarationReader

/-- Reads a whole interface. -/
def readSourceFile : TokenReader InterfaceFile := do
  let members ← DeclarationReader.members .endOfFile
  return ⟨members.imports, members.types, members.functions⟩

/-- Reads the text of an interface. -/
def readInterface (text : String) : Except SyntaxError InterfaceFile := do
  (readSourceFile (← scan text)).1

end ViewModifiers.Interface
