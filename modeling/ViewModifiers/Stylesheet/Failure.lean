import ViewModifiers.Stylesheet.Fault
import ViewModifiers.Stylesheet.Value

/-!
# Failures of reading a call

A call may fail to be read because of the stylesheet: its shape, its modifier, a value that the
build target lacks or a type without a reader. It may also fail for other reasons, which a reader
that tries alternatives does not look at unless it is told to.
-/

namespace ViewModifiers.Stylesheet

/-- What is wrong with the name of a modifier. -/
inductive ModifierError
  | unknown (name : String)
  | deprecated (name message : String)
  deriving DecidableEq, Repr

/-- What is said about the name of a modifier. -/
def ModifierError.text : ModifierError → String
  | unknown name => "Unknown modifier " ++ ticked name
  | deprecated name message => "Modifier " ++ ticked name ++ " is deprecated: " ++ message

/-- Why a value is not available. -/
inductive Unavailability
  | onPlatform (name : String)
  | inVersion (name : String)
  | stated (message : String)
  deriving DecidableEq, Repr

/-- What is said about a value that is not available. -/
def Unavailability.text : Unavailability → String
  | onPlatform name => "'" ++ name ++ "' is not available on this OS"
  | inVersion name => "'" ++ name ++ "' is not available in this OS version"
  | stated message => message

/-- Why a call cannot be read. -/
inductive Failure
  | malformed (fault : Fault)
  | modifier (error : ModifierError) (metadata : Metadata Value)
  | unavailable (reason : Unavailability)
  | unregistered (type : String)
  | host (message : String)
  | unreadableNumber (text : String)
  | changeableElement
  | wrongArity (type : String)
  | notCallable (type : String)
  | noMember (type : String)
  | noCase (type : String)

namespace Failure

/-- Whether the stylesheet is to blame. -/
def isStylesheet : Failure → Bool
  | malformed _ | modifier _ _ | unavailable _ | unregistered _ => true
  | host _ | unreadableNumber _ | changeableElement | wrongArity _ | notCallable _
    | noMember _ | noCase _ => false

/-- Whether the name of the modifier is to blame. -/
def isModifierError : Failure → Bool
  | modifier _ _ => true
  | _ => false

/-- A failure as text. -/
def text : Failure → String
  | malformed fault => fault.text
  | modifier error metadata =>
    if metadata.tellsPlace then metadata.text ++ ": " ++ error.text else error.text
  | unavailable reason => reason.text
  | unregistered type => "No parser registered for type " ++ ticked type
  | host message => message
  | unreadableNumber number => "not a number: " ++ number
  | changeableElement => "a value that can change cannot stand in a set"
  | wrongArity type => "wrong number of arguments for the type " ++ type
  | notCallable type => "a value of the type " ++ type ++ " cannot be called"
  | noMember type => "the type " ++ type ++ " has no such member"
  | noCase type => "not a case of the type " ++ type

end Failure

end ViewModifiers.Stylesheet
