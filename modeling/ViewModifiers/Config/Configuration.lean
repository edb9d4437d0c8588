import ViewModifiers.Config.Datum
import ViewModifiers.Text.NameSet

/-!
# Configuration

The tables from which a catalog is built and emitted.
-/

namespace ViewModifiers.Config

open Text

/-- How many modifiers a dispatch chunk may have. A document may also say `true`, which counts as
one. -/
inductive ChunkSize
  | count (n : Int)
  | single
  deriving DecidableEq, Repr, Inhabited

namespace ChunkSize

/-- The number of modifiers. -/
def toInt : ChunkSize → Int
  | count n => n
  | single => 1

/-- The size as it is written on a command line. -/
def text : ChunkSize → String
  | count n => toString n
  | single => "True"

end ChunkSize

/-- A parameter of a hand-written modifier. Its entries are shown as they are given. -/
structure SchemaParameter where
  firstName : Datum
  type : Datum
  secondName : Option Datum
  deriving Inhabited

/-- The configuration of a run. -/
structure Configuration where
  chunkSize : ChunkSize
  /-- The extended protocols whose functions are modifiers. -/
  viewProtocols : List String
  /-- The qualifiers that are dropped from type spellings. -/
  modulePrefixes : List String
  /-- The modifiers whose builder form yields to a view reference. -/
  preferViewReference : List String
  /-- The modifier types that the host writes by hand. -/
  extraModifierTypes : List String
  /-- The enum types for which parsers are made. -/
  requiredTypes : List String
  /-- The names that the fallback for text handles. -/
  textModifiers : List String
  /-- The names that the fallback for images handles. -/
  imageModifiers : List String
  /-- The modifiers that are never made. -/
  denylist : NameSet
  /-- Schema entries of hand-written modifiers. -/
  extraSchemas : NameTable (List (List SchemaParameter))
  deriving Inhabited

/-- The chunk size unless another one is asked for. -/
def defaultChunkSize : Int := 10

/-- The configuration that names nothing but the view protocol. -/
def Configuration.plain : Configuration :=
  ⟨.count defaultChunkSize, ["View"], [], [], [], [], [], [], .empty, []⟩

end ViewModifiers.Config
