import ViewModifiers.Stylesheet.Token
import ViewModifiers.Text.Quoted
import ViewModifiers.Text.Split

/-!
# Faults of a stylesheet text

A stylesheet that does not have the expected shape has a fault: a cause and the position at which it
is reported. `Expectation.text` and `Cause.message` are the only places that know the wording.
-/

namespace ViewModifiers.Stylesheet

open Source

/-- What a reader wants to find next. -/
inductive Expectation
  | sign (kind : TokenKind)
  | modifierStart
  | modifierName
  | modifierEnd
  | metadata
  | metadataKey
  | argumentList
  | separator
  | number
  | integer
  | flag
  | string
  | atomOrString
  | enumMember
  | value
  | list
  | keywordList
  | key
  | member
  | modifierList
  | described (text : String)
  deriving DecidableEq, Repr

/-- The words for what is wanted. -/
def Expectation.text : Expectation → String
  | sign kind => "'" ++ kind.label ++ "'"
  | modifierStart => "'\x7b' starting a modifier"
  | modifierName => "a modifier name"
  | modifierEnd => "'\x7d' closing the modifier"
  | metadata => "call metadata"
  | metadataKey => "a metadata key"
  | argumentList => "an argument list"
  | separator => "',' or ']'"
  | number => "a number"
  | integer => "an integer"
  | flag => "true or false"
  | string => "a string"
  | atomOrString => "an atom or string"
  | enumMember => "a member name"
  | value => "a value"
  | list => "a list"
  | keywordList => "a keyword list"
  | key => "a key"
  | member => "a member"
  | modifierList => "a modifier list"
  | described text => text

/-- The contents that have modifiers of their own. -/
inductive ContentKind
  | text
  | image
  deriving DecidableEq, Repr

/-- The attribute of a host under which it keeps its parser for a kind of content. -/
def ContentKind.attributeName : ContentKind → String
  | text => "text_modifier_parser"
  | image => "image_modifier_parser"

/-- Why a stylesheet does not have the expected shape. -/
inductive Cause
  | strayCharacter (c : Char)
  | expected (what : Expectation) (found : Token)
  | otherCall (wanted found : String)
  | otherModifier (wanted found : String)
  | unknownMember (name : String)
  | unnamedEvent
  | unnamedAttribute
  | missingArgument (type : String)
  | missingLabel (label : String)
  | surplusArgument (found : Token)
  | surplusAfterModifier (found : Token)
  | surplusAfterList (found : Token)
  | noOverload (modifier : String) (reasons : List String)
  | notHandled (modifier : String) (kind : ContentKind)
  | noCustomModifiers
  | endless
  | stated (message : String)
  deriving DecidableEq, Repr

/-- A name as error texts quote it. -/
def ticked (name : String) : String := "\x60" ++ name ++ "\x60"

/-- What is said about a cause. -/
def Cause.message : Cause → String
  | strayCharacter c => "Unexpected character " ++ Text.quoteChar c
  | expected what found => "Expected " ++ what.text ++ ", found " ++ found.shown
  | otherCall wanted found => "Expected " ++ wanted ++ ", found " ++ found
  | otherModifier wanted found => "Expected " ++ ticked wanted ++ ", found " ++ ticked found
  | unknownMember name => "Unknown member " ++ name
  | unnamedEvent => "Event name must be a string"
  | unnamedAttribute => "Attribute reference takes one attribute name"
  | missingArgument type => "Missing argument of type " ++ type
  | missingLabel label => "Missing argument " ++ ticked label
  | surplusArgument found => "Unexpected argument " ++ found.shown
  | surplusAfterModifier found => "Unexpected " ++ found.shown ++ " after modifier"
  | surplusAfterList found => "Unexpected " ++ found.shown ++ " after modifier list"
  | noOverload modifier reasons =>
    "No overload of " ++ ticked modifier ++ " matches: " ++ Text.joinWith "; " reasons
  | notHandled modifier kind => ticked modifier ++ " is not handled by " ++ kind.attributeName
  | noCustomModifiers => "No custom modifiers are registered"
  | endless => "No end was found"
  | stated message => message

/-- A cause and where it was found. -/
structure Fault where
  cause : Cause
  position : Position
  deriving DecidableEq, Repr

/-- A fault as one line of text. -/
def Fault.text (f : Fault) : String :=
  toString f.position.line ++ ":" ++ toString f.position.column ++ ": " ++ f.cause.message

end ViewModifiers.Stylesheet
