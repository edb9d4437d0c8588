import ViewModifiers.Dispatch.Dispatcher

/-!
# Generated modules

A generated module reads calls with its dispatcher, which it gets at by names. Some of them are read
before anything else, and the class of an enumerated type may have taken such a name: then the
module is loaded, but reading fails as soon as it comes to the name. A list of calls begins with the
kinds of tokens, which a single call does not need.
-/

namespace ViewModifiers.Dispatch

open Catalog Config Stylesheet Text Reader

/-- A generated module on a build target: its dispatcher, and the classes that have taken names
which reading begins with. -/
structure Module where
  dispatcher : Dispatcher
  taken : List EnumClass

namespace Module

/-- The module of a catalog for a build target and a host. -/
def build (c : Catalog) (config : Configuration) (t : Target) (context : Context) :
    Except BuildError Module := do
  return ⟨← Dispatcher.build c config t context, takenFirst t c.enums⟩

/-- The class that has taken a name. -/
def taker? (m : Module) (name : String) : Option EnumClass :=
  m.taken.find? fun k => normalForm k.name = name

/-- Fails if the reader of heads has been taken. To call a class with one thing asks for the case
that has it as its value, and a class without cases cannot be asked. -/
def needHead (m : Module) : Reader Unit :=
  match m.taker? "peek_call_head" with
  | some k => throw (if k.members.isEmpty then .notCallable k.name else .noCase k.name)
  | none => return ()

/-- Fails if the function that attempts a reader has been taken: no class is called like it. -/
def needAttempts (m : Module) : Reader Unit :=
  match m.taker? "attempt" with
  | some k => throw (.notCallable k.name)
  | none => return ()

/-- Reads a call. -/
def read (m : Module) : Reader Dispatched := do
  m.needHead
  let _ ← lookingAhead callHead
  m.needAttempts
  m.dispatcher.read

/-- Reads one call up to the end of the text. -/
def readOne (m : Module) : Reader Dispatched := do
  let found ← m.read
  Dispatcher.expectEnd .surplusAfterModifier
  return found

/-- Fails if the kinds of tokens have been taken: a member of the name of the opening bracket is not
the kind of any token. -/
def needKinds (m : Module) : Reader Unit :=
  match m.taker? "TokenKind" with
  | some k =>
    if k.members.contains "LBRACKET" then failExpecting .modifierList
    else throw (.noMember k.name)
  | none => return ()

/-- Reads a list of calls up to the end of the text. -/
def readList (m : Module) : Reader (List Dispatched) := do
  m.needKinds
  let found ← bracketed .modifierList m.read
  Dispatcher.expectEnd .surplusAfterList
  return found

/-- Runs a reader on a whole text, with a cursor that its class makes from the text; a member of the
name of that operation cannot be called. -/
def ofText {α : Type} (m : Module) (r : Reader α) (text : String) : Except Failure α :=
  match m.taker? "TokenCursor" with
  | some k =>
    .error (if k.members.contains "from_text" then .notCallable k.name else .noMember k.name)
  | none => Dispatcher.ofText r text

/-- The only call of a stylesheet text. -/
def parseText (m : Module) (text : String) : Except Failure Dispatched := m.ofText m.readOne text

/-- The calls of a stylesheet text that is a list. -/
def parseList (m : Module) (text : String) : Except Failure (List Dispatched) :=
  m.ofText m.readList text

end Module

end ViewModifiers.Dispatch
