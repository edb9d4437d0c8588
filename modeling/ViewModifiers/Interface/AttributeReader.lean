import ViewModifiers.Interface.Declaration
import ViewModifiers.Interface.TokenReader
import ViewModifiers.Text.Blank

/-!
# Reading attributes

A run of attributes stands in front of a declaration. Those called `available` also say on which
platforms it exists, in a short form (`iOS 14.0, macOS 11.0, *`) or in a long one
(`iOS, introduced: 13.0, deprecated: 100000.0, message: "..."`).
-/

namespace ViewModifiers.Interface

open TokenReader Text

namespace AttributeReader

/-- Splits argument tokens at the commas outside parentheses and square brackets; items without
tokens are left out. The depth may fall below zero. -/
def splitFrom : Int → List Token → List Token → List (List Token)
  | _, item, [] => if item.isEmpty then [] else [item.reverse]
  | depth, item, t :: ts =>
    let depth' := match t.kind with
      | .openParen | .openBracket => depth + 1
      | .closeParen | .closeBracket => depth - 1
      | _ => depth
    if t.kind = .comma && depth' = 0 then
      if item.isEmpty then splitFrom depth' [] ts else item.reverse :: splitFrom depth' [] ts
    else splitFrom depth' (t :: item) ts

/-- The arguments of an attribute, each a list of tokens. -/
def itemsBetweenCommas (tokens : List Token) : List (List Token) := splitFrom 0 [] tokens

/-- A token as it is shown in the text of an argument list. -/
def argumentPiece (t : Token) : String :=
  match t.kind with
  | .string => "\"" ++ t.value ++ "\""
  | .comma | .colon => t.value ++ " "
  | _ => t.value

/-- The text of an argument list. -/
def argumentText (tokens : List Token) : String :=
  String.ofList (trimBlanks (String.join (tokens.map argumentPiece)).toList)

/-- The words that say something about a platform and are no platforms themselves. -/
def availabilityFlags : List String := ["deprecated", "unavailable", "noasync"]

/-- What the arguments of an availability attribute have said so far. -/
structure Notes where
  platforms : List PlatformRequirement
  introduced : Option String
  unavailable : NameSet
  deprecated : Bool
  message : Option String
  renamed : Option String

/-- The platform that an argument list of the long form begins with. -/
def longFormPlatform? : List (List Token) → Option String
  | [t] :: _ =>
    if t.kind = .star || (t.kind = .identifier && !availabilityFlags.contains t.value) then
      some t.value
    else none
  | _ => none

/-- Takes note of an item made of one word. -/
def noteFlag (subject : String) (notes : Notes) (head : Token) : Notes :=
  if head.value = "deprecated" then { notes with deprecated := true }
  else if head.value = "unavailable" then
    { notes with unavailable := notes.unavailable.insert subject }
  else notes

/-- Takes note of an item with a label. -/
def noteLabelled (notes : Notes) (label value : String) : Notes :=
  match label with
  | "introduced" => { notes with introduced := some value }
  | "deprecated" => { notes with deprecated := true }
  | "message" => { notes with message := some value }
  | "renamed" => { notes with renamed := some value }
  | _ => notes

/-- Takes note of an item of an availability attribute. -/
def noteItem (subject : String) (notes : Notes) (item : List Token) : Notes :=
  match item with
  | [] => notes
  | head :: more =>
    if head.kind = .star then notes
    else match more with
      | second :: rest =>
        if second.kind = .number then
          { notes with platforms := notes.platforms ++ [⟨head.value, some second.value⟩] }
        else match second.kind, rest with
          | .colon, third :: _ => noteLabelled notes head.value third.value
          | _, _ => noteFlag subject notes head
      | [] => noteFlag subject notes head

/-- Reads the arguments of an availability attribute. -/
def availabilityOf (tokens : List Token) : Availability :=
  let items := itemsBetweenCommas tokens
  let platform := longFormPlatform? items
  let items := if platform.isSome then items.tail else items
  let subject := (givenText platform).getD "*"
  let notes := items.foldl (noteItem subject) ⟨[], none, .empty, false, none, none⟩
  let long := match givenText platform, givenText notes.introduced with
    | some p, some v => if p = "*" then [] else [⟨p, some v⟩]
    | _, _ => []
  ⟨notes.platforms ++ long, notes.unavailable, notes.deprecated, notes.message, notes.renamed⟩

/-- Reads an attribute, if one stands here, together with the availability it gives. -/
def attribute? : TokenReader (Option (Attribute × Option Availability)) := do
  if ← accept .atSign then
    let (names, last) ← dottedNames
    let name := lastField '.' (joinWith "." names)
    match ← groupBehind? last with
    | none => return some (⟨name, none⟩, none)
    | some inner =>
      let availability := if name = "available" then some (availabilityOf inner) else none
      return some (⟨name, some (argumentText inner)⟩, availability)
  else return none

end AttributeReader

/-- Reads a run of attributes and merges the availability they give. -/
def readAttributes : TokenReader (List Attribute × Availability) := do
  let found ← many AttributeReader.attribute?
  return (found.map (·.1), (found.filterMap (·.2)).foldl Availability.merge .always)

end ViewModifiers.Interface
