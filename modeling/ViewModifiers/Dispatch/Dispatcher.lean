import ViewModifiers.Config.Configuration
import ViewModifiers.Dispatch.ModuleFault
import ViewModifiers.Dispatch.ParsedModifier
import ViewModifiers.Emit.UnionCase
import ViewModifiers.Stylesheet.Scanner

/-!
# The dispatcher

A call is read by the first of several readers that accepts it: the one of its built-in modifier,
the ones for modifiers of texts and of images, and the host's own. Each of them starts at the start
of the call, whatever the ones before it have done. If none accepts the call, the failure to report
is chosen by what the host's reader says: a complaint about the name of the modifier stands, unless
that name is known to be deprecated, and anything else gives way to the failure of the built-in
reader.
-/

namespace ViewModifiers.Dispatch

open Catalog Config Emit Stylesheet Text Reader

/-- A hand-written modifier type: the name of its modifier, and a reader of its calls. -/
structure ExtraModifier where
  name : String
  reader : Reader Value

/-- The default reader of the host's modifiers, which knows none. -/
def rejectCustom : Reader Value := fail .noCustomModifiers

/-- What a host contributes to reading. -/
structure Context where
  registry : Registry := .standard
  custom : Reader Value := rejectCustom
  content : ContentKind → Option (Reader Value) := fun _ => none
  extras : NameTable ExtraModifier := []

/-- What a dispatched call was read as. -/
inductive Payload
  | modifier (m : ParsedModifier)
  | value (v : Value)

/-- A dispatched call with its case. -/
structure Dispatched where
  case : UnionCase
  payload : Payload

/-- The call of a view's operation, if what was read can be applied at all. -/
def Dispatched.application? (h : Host) (d : Dispatched) : Except Failure (Option Application) :=
  match d.payload with
  | .modifier m => some <$> m.application h
  | .value (.anyModifier c) => some <$> Application.ofCall h c
  | .value _ => return none

/-- Everything that reading calls depends on: the retained modifiers in chunks, the hand-written
types under their cases, the deprecated names, the names of the modifiers of texts and images, and
the host's readers. -/
structure Dispatcher where
  registry : Registry
  chunks : List (List Modifier)
  extras : List (String × ExtraModifier)
  deprecations : NameTable String
  names : ContentKind → List String
  custom : Reader Value
  content : ContentKind → Option (Reader Value)

namespace Dispatcher

/-- The cases that the dispatcher can return. -/
def cases (d : Dispatcher) : List UnionCase :=
  (List.range d.chunks.length).map .chunk ++ d.extras.map (fun e => .extra e.1)
    ++ [.custom, .anyText, .anyImage]

/-! ## The readers in their order -/

/-- The reader of a modifier in a chunk. -/
def chunkReader (d : Dispatcher) (index : Nat) (m : Modifier) : Reader Dispatched := do
  return ⟨.chunk index, .modifier (← readModifier d.registry m)⟩

/-- The reader of a hand-written type. -/
def extraReader (case_ : String) (e : ExtraModifier) : Reader Dispatched := do
  return ⟨.extra case_, .value (← e.reader)⟩

/-- The readers of built-in modifiers by name. A hand-written type replaces a retained modifier. -/
def builtins (d : Dispatcher) : NameTable (Reader Dispatched) :=
  let retained := d.chunks.zipIdx.flatMap fun (group, index) =>
    group.map fun m => (m.name, d.chunkReader index m)
  .ofList (retained ++ d.extras.map fun e => (e.2.name, extraReader e.1 e.2))

/-- What is wrong with a name for which there is no built-in reader. -/
def nameError (d : Dispatcher) (name : String) : ModifierError :=
  match NameTable.get? d.deprecations name with
  | some message => .deprecated name message
  | none => .unknown name

/-- Reads a call of a built-in modifier by its name and metadata. -/
def readBuiltin (d : Dispatcher) (name : String) (metadata : Metadata Value) :
    Reader Dispatched :=
  match NameTable.get? d.builtins name with
  | some reader => reader
  | none => throw (.modifier (d.nameError name) metadata)

/-- Reads a call of a modifier for a kind of content, without a schema unless the host has a reader
for the kind. -/
def readContent (d : Dispatcher) (kind : ContentKind) : Reader Value := do
  let start ← current
  let (name, _) ← lookingAhead callHead
  if !(d.names kind).contains name then failAt start (.notHandled name kind)
  else (d.content kind).getD anyModifier

/-- The failure to report if no reader accepts a call. -/
def finalFailure (d : Dispatcher) (name : String) (metadata : Metadata Value)
    (builtin custom : Failure) : Failure :=
  if custom.isModifierError then
    match NameTable.get? d.deprecations name with
    | some message => .modifier (.deprecated name message) metadata
    | none => custom
  else builtin

/-- Reads a call. -/
def read (d : Dispatcher) : Reader Dispatched := do
  let (name, metadata) ← lookingAhead callHead
  match ← attemptAny (d.readBuiltin name metadata) with
  | .ok found => return found
  | .error builtinFailure =>
    if let .ok v ← attemptAny (d.readContent .text) then return ⟨.anyText, .value v⟩
    if let .ok v ← attemptAny (d.readContent .image) then return ⟨.anyImage, .value v⟩
    match ← attemptAny d.custom with
    | .ok v => return ⟨.custom, .value v⟩
    | .error customFailure =>
      throw (d.finalFailure name metadata builtinFailure customFailure)

/-! ## Whole texts -/

/-- Fails if anything is left. -/
def expectEnd (surplus : Token → Cause) : Reader Unit := do
  if ← isAtEnd then return ()
  else
    let t ← current
    failAt t (surplus t)

/-- Reads one call up to the end of the text. -/
def readOne (d : Dispatcher) : Reader Dispatched := do
  let found ← d.read
  expectEnd .surplusAfterModifier
  return found

/-- Reads a list of calls up to the end of the text. -/
def readList (d : Dispatcher) : Reader (List Dispatched) := do
  let found ← bracketed .modifierList d.read
  expectEnd .surplusAfterList
  return found

/-- Runs a reader on a whole text. -/
def ofText {α : Type} (r : Reader α) (text : String) : Except Failure α :=
  match scan text with
  | .error fault => .error (.malformed fault)
  | .ok cursor => (r.run' cursor).1

/-- The only call of a stylesheet text. -/
def parseText (d : Dispatcher) (text : String) : Except Failure Dispatched := ofText d.readOne text

/-- The calls of a stylesheet text that is a list. -/
def parseList (d : Dispatcher) (text : String) : Except Failure (List Dispatched) :=
  ofText d.readList text

end Dispatcher

/-! ## Building a dispatcher -/

/-- Why a dispatcher cannot be built. -/
inductive BuildError
  | chunk (cause : EmissionError)
  | module (fault : ModuleFault)
  | enums (cause : EnumError)
  | missingExtra (case : String)

/-- The hand-written types of a host for the types that are wanted, under their cases. -/
def extrasFor (extras : NameTable ExtraModifier) (types : List String) :
    Except BuildError (List (String × ExtraModifier)) :=
  types.mapM fun t =>
    match NameTable.get? extras (extraCase t) with
    | some e => .ok (extraCase t, e)
    | none => .error (.missingExtra (extraCase t))

/-- Fails if something is wrong with a module. -/
def expectFaultless : Option ModuleFault → Except BuildError Unit
  | some fault => .error (.module fault)
  | none => .ok ()

/-- The dispatcher of a catalog for a build target and a host. -/
def Dispatcher.build (c : Catalog) (config : Configuration) (t : Target) (context : Context) :
    Except BuildError Dispatcher := do
  let groups ← (Emit.chunks config.chunkSize.toInt c.modifiers).mapError .chunk
  expectFaultless (moduleFault? c config t)
  let readers ← (enumReaders t c.enums).mapError .enums
  let extras ← extrasFor context.extras c.extraModifierTypes
  return {
    registry := withEnums context.registry readers
    chunks := groups
    extras := extras
    deprecations := c.deprecations
    names := fun
      | .text => config.textModifiers
      | .image => config.imageModifiers
    custom := context.custom
    content := context.content }

end ViewModifiers.Dispatch
