import ViewModifiers.Catalog.Basic
import ViewModifiers.Text.Identifier
import ViewModifiers.Text.NormalForm

/-!
# Names in generated modules

The generated module is written in a language with keywords of its own, and its classes have
attributes that must not be hidden. Names that come from an interface are altered by underscores
where they would clash. Not every clash is seen: names are told apart by how they are written,
but the language compares their normal forms, and it knows more names than are looked out for.
-/

namespace ViewModifiers.Emit

open Catalog Text

/-- The keywords of the generated language. -/
def keywords : List String :=
  ["False", "None", "True", "and", "as", "assert", "async", "await", "break", "class", "continue",
    "def", "del", "elif", "else", "except", "finally", "for", "from", "global", "if", "import",
    "in", "is", "lambda", "nonlocal", "not", "or", "pass", "raise", "return", "try", "while",
    "with", "yield"]

/-- The attributes of overload classes that no field may hide. -/
def reservedFields : List String := ["apply", "parse", "parse_arguments", "cls", "self"]

/-- The attributes of enum classes that no member may hide. -/
def reservedMembers : List String := ["name", "value", "mro"]

/-- The class of a modifier. -/
def modifierClass (name : String) : String := "_" ++ name ++ "Modifier"

/-- The class of a chunk. -/
def chunkClass (index : Nat) : String := "_BuiltinModifierChunk" ++ toString index

/-- The case of a hand-written modifier type, which is its name without generic arguments. -/
def extraCase (typeName : String) : String := (fields '<' typeName).headD ""

/-- A name with underscores behind it until it is not among those taken; there are at most as many
collisions as names taken. -/
def freshen (taken : List String) : Nat → String → String
  | 0, name => name
  | n + 1, name => if taken.contains name then freshen taken n (name ++ "_") else name

/-- The field of a parameter in the order of the list, before it is made distinct. -/
def fieldName (index : Nat) (p : Parameter) : String :=
  if p.localName = wildcard then "arg" ++ toString index
  else if keywords.contains p.localName || reservedFields.contains p.localName then
    p.localName ++ "_"
  else p.localName

/-- Adds the fields of parameters to those that are there. -/
def addFields (names : List String) : List Parameter → List String
  | [] => names
  | p :: ps =>
    addFields (names ++ [freshen names names.length (fieldName names.length p)]) ps

/-- The distinct fields in which an overload keeps its arguments. -/
def argumentFields (s : Signature) : List String := addFields [] s.parameters

/-- Whether the language lets a name be bound. -/
def isName (name : String) : Bool :=
  isIdentifier name && !keywords.contains name && normalForm name ≠ "__debug__"

/-! ## Fields that fail -/

/-- What every overload class has already, so that a field of the name has a value to begin with. -/
def inheritedFields : List String :=
  ["parse", "parse_arguments", "mro", "__base__", "__bases__", "__basicsize__", "__call__",
    "__class__", "__dataclass_params__", "__delattr__", "__dictoffset__", "__dir__", "__doc__",
    "__eq__", "__flags__", "__format__", "__ge__", "__getattribute__", "__getstate__", "__gt__",
    "__hash__", "__init__", "__init_subclass__", "__instancecheck__", "__itemsize__", "__le__",
    "__lt__", "__module__", "__mro__", "__name__", "__ne__", "__new__", "__or__", "__prepare__",
    "__qualname__", "__reduce__", "__reduce_ex__", "__repr__", "__ror__", "__setattr__",
    "__sizeof__", "__str__", "__subclasscheck__", "__subclasses__", "__subclasshook__",
    "__text_signature__", "__weakref__", "__weakrefoffset__"]

/-- The fields that spoil a class: two of them would begin with a value that can change, and one
hides the operation of the overload. -/
def spoilingFields : List String := ["__annotations__", "__dict__", "apply"]

/-- The fields that a class has for itself, so that nothing can be given to them. -/
def ownFields : List String := ["__class__", "__weakref__", "__dataclass_builtins_object__"]

/-- Whether a field already has a value. -/
def isInheritedField (field : String) : Bool := inheritedFields.contains (normalForm field)

/-- Whether a class can have a field in front of others: it has to be a name of its own, and if it
already has a value, so must all those behind it. -/
def fieldFits (field : String) (later : List String) : Bool :=
  isName field && !keywords.contains (normalForm field)
    && !spoilingFields.contains (normalForm field)
    && !(later.map normalForm).contains (normalForm field)
    && (!isInheritedField field || later.all isInheritedField)

/-- The first field that a class cannot have. -/
def misfit? : List String → Option String
  | [] => none
  | field :: later => if fieldFits field later then misfit? later else some field

/-- Whether a class keeps a field under another name than the one it is declared with: two
underscores stand in front, but not behind. -/
def isMangled (field : String) : Bool :=
  field.toList.take 2 = ['_', '_'] && field.toList.reverse.take 2 ≠ ['_', '_']

/-- Whether nothing can be given to a field by its name. -/
def isHiddenField (field : String) : Bool :=
  isMangled (normalForm field) || ownFields.contains (normalForm field)

/-- The first field of an overload that cannot be given its argument, as its class cannot have it
or keeps it to itself. -/
def hiddenField? (s : Signature) : Option String :=
  (misfit? (argumentFields s)).or ((argumentFields s).find? isHiddenField)

/-! ## Enumerated types -/

/-- The class of an enumerated type. -/
def enumClass (typeName : String) : String := replaceChar '.' "_" typeName

/-- The member of an enum class that stands for a case. -/
def enumMember (case_ : String) : String :=
  if case_.toList.head? = some '_' then "case" ++ case_
  else if keywords.contains case_ || reservedMembers.contains case_ then case_ ++ "_"
  else case_

end ViewModifiers.Emit
