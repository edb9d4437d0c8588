import ViewModifiers.Stylesheet.TypeSpelling
import ViewModifiers.Stylesheet.Typed

/-!
# Readers by the spelling of a type

A registry knows the readers of plain types and the factories of generic ones; optional values,
lists and dictionaries follow from the spelling. A spelling that is registered as a whole is taken
as it is, whatever its parts are.

Readers that have been found once are remembered until something new is registered. The walk over a
spelling is the same with and without remembering.
-/

namespace ViewModifiers.Stylesheet

open Text

/-- What makes the reader of a generic type from the readers of its arguments, if it takes as many
of them. -/
structure Factory where
  build? : List (Reader Value) → Option (Reader Value)

namespace Factory

/-- A factory that takes one argument. -/
def unary (build : Reader Value → Reader Value) : Factory where
  build?
    | [reader] => some (build reader)
    | _ => none

/-- A factory that takes two arguments. -/
def binary (build : Reader Value → Reader Value → Reader Value) : Factory where
  build?
    | [first, second] => some (build first second)
    | _ => none

end Factory

/-- The readers of types. -/
structure Registry where
  plain : NameTable (Reader Value)
  generic : NameTable Factory
  remembered : NameTable (Reader Value)

namespace Registry

/-- A registry without any type. -/
def empty : Registry := ⟨[], [], []⟩

/-- Registers the reader of a plain type. -/
def register (r : Registry) (name : String) (reader : Reader Value) : Registry :=
  { r with plain := NameTable.put r.plain name reader, remembered := [] }

/-- Registers the factory of a generic type. -/
def registerFactory (r : Registry) (name : String) (factory : Factory) : Registry :=
  { r with generic := NameTable.put r.generic name factory, remembered := [] }

/-! ## Finding the reader of a type -/

section Walk

variable {m : Type → Type} [Monad m] [MonadExceptOf Failure m]

/-- The reader of a spelling that is registered as a whole, or else what its parts give. -/
def wholeOr (r : Registry) (text : String) (parts : m (Reader Value)) : m (Reader Value) :=
  match NameTable.get? r.plain text with
  | some reader => pure reader
  | none => parts

/-- Applies a factory to the readers of the arguments. -/
def applyFactory (text : String) (factory : Factory) (readers : List (Reader Value)) :
    m (Reader Value) :=
  match factory.build? readers with
  | some reader => pure reader
  | none => throw (.wrongArity text)

mutual

/-- The reader of a spelling. Every part of it goes through `remember`. -/
def walk (remember : String → m (Reader Value) → m (Reader Value)) (r : Registry) :
    TypeSpelling → m (Reader Value)
  | .plain text => remember text <| r.wholeOr text <| throw (.unregistered text)
  | .optional text wrapped =>
    remember text <| r.wholeOr text do return Reader.optional (← walk remember r wrapped)
  | .array text element =>
    remember text <| r.wholeOr text do return Reader.array (← walk remember r element)
  | .dictionary text key value =>
    remember text <| r.wholeOr text do
      let _ ← walk remember r key
      return Reader.dictionary (← walk remember r value)
  | .generic text name arguments =>
    remember text <| r.wholeOr text <|
      match NameTable.get? r.generic name with
      | none => throw (.unregistered text)
      | some factory => do applyFactory text factory (← walkAll remember r arguments)

/-- The readers of several spellings. -/
def walkAll (remember : String → m (Reader Value) → m (Reader Value)) (r : Registry) :
    List TypeSpelling → m (List (Reader Value))
  | [] => pure []
  | t :: ts => do
    let reader ← walk remember r t
    return reader :: (← walkAll remember r ts)

end

end Walk

/-- The reader of a spelling as the registered types give it. -/
def find (r : Registry) (spelling : String) : Except Failure (Reader Value) :=
  r.walk (fun _ parts => parts) (TypeSpelling.read spelling)

/-- A search that remembers what it found. -/
abbrev Search := ExceptT Failure (StateM (NameTable (Reader Value)))

/-- Takes the reader that is remembered for a spelling; else searches for it and remembers it. -/
def remembering (text : String) (parts : Search (Reader Value)) : Search (Reader Value) := do
  match NameTable.get? (← get) text with
  | some reader => return reader
  | none =>
    let reader ← parts
    modify fun known => NameTable.put known text reader
    return reader

/-- The reader of a spelling, and the registry that remembers what was found on the way. -/
def resolve (r : Registry) (spelling : String) : Except Failure (Reader Value) × Registry :=
  let search : Search (Reader Value) := r.walk remembering (TypeSpelling.read spelling)
  let (result, known) := search.run r.remembered
  (result, { r with remembered := known })

/-- Whether a spelling has a reader. A search that fails for another reason than a missing type is
no answer. -/
def contains (r : Registry) (spelling : String) : Except Failure Bool × Registry :=
  match r.resolve spelling with
  | (.ok _, r') => (.ok true, r')
  | (.error (.unregistered _), r') => (.ok false, r')
  | (.error e, r') => (.error e, r')

/-- The reader of a spelling, or a failure at the place where a reader is wanted. -/
def reader (r : Registry) (spelling : String) : Reader (Reader Value) :=
  match r.find spelling with
  | .ok found => return found
  | .error e => throw e

/-- The registry of the standard scalar and reference types. -/
def standard : Registry where
  plain := [
    ("Double", .number), ("Float", .number), ("CGFloat", .number), ("Int", .integer),
    ("Bool", .flag), ("String", .string), ("AtomString", Value.text <$> Reader.atomOrString),
    ("Event", .event), ("ViewReference", .views .view),
    ("InlineViewReference", .views .inlineView),
    ("ToolbarContentReference", .views .toolbarContent), ("TextReference", .textTemplate)]
  generic := [
    ("AttributeReference", .unary .attributeOr), ("ChangeTracked", .unary fun _ => .binding),
    ("Set", .unary .set), ("Array", .unary .array), ("Optional", .unary .optional)]
  remembered := []

end Registry

end ViewModifiers.Stylesheet
