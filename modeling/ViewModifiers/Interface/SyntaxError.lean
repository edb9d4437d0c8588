import ViewModifiers.Source.Position
import ViewModifiers.Text.Quoted

/-!
# Faults of an interface text

Every fault has a cause and the position it is reported at. `Fault.message` is the only place that
knows the wording.
-/

namespace ViewModifiers.Interface

open Source

/-- Why an interface text cannot be read. -/
inductive Fault
  | unterminatedComment
  | unterminatedMultilineString
  | unterminatedString
  | unterminatedInterpolation
  | unterminatedRawString
  | unterminatedEscapedName
  | unopenedConditional (directive : String)
  | unclosedConditional
  | strayCharacter (c : Char)
  | expected (kind found : String)
  | expectedName (found : String)
  | expectedType (found : String)
  | expectedFunctionName
  | expectedArrow
  | expectedRequirement
  | unclosedBracket (opener : String)
  | mismatchedBracket (closer : String)
  | unexpected (closer : String)
  | noBracket (found : String)
  | nestedTooDeeply
  | stated (message : String)
  deriving DecidableEq, Repr, Inhabited

/-- What is said about a fault. -/
def Fault.message : Fault → String
  | unterminatedComment => "Unterminated block comment"
  | unterminatedMultilineString => "Unterminated multi-line string literal"
  | unterminatedString => "Unterminated string literal"
  | unterminatedInterpolation => "Unterminated string interpolation"
  | unterminatedRawString => "Unterminated raw string literal"
  | unterminatedEscapedName => "Unterminated escaped identifier"
  | unopenedConditional directive => "#" ++ directive ++ " without matching #if"
  | unclosedConditional => "#if without matching #endif"
  | strayCharacter c => "Unexpected character: " ++ Text.quoteChar c
  | expected kind found => "Expected '" ++ kind ++ "', got '" ++ found ++ "'"
  | expectedName found => "Expected identifier, got '" ++ found ++ "'"
  | expectedType found => "Expected type, got '" ++ found ++ "'"
  | expectedFunctionName => "Expected function name"
  | expectedArrow => "Expected '->' after function effects"
  | expectedRequirement => "Expected ':' or '==' in where clause"
  | unclosedBracket opener => "Unclosed '" ++ opener ++ "'"
  | mismatchedBracket closer => "Mismatched '" ++ closer ++ "'"
  | unexpected closer => "Unexpected '" ++ closer ++ "'"
  | noBracket found => "Expected a bracket, got '" ++ found ++ "'"
  | nestedTooDeeply => "Nested too deeply"
  | stated message => message

/-- A fault and where it was found. -/
structure SyntaxError where
  fault : Fault
  position : Position
  deriving DecidableEq, Repr, Inhabited

end ViewModifiers.Interface
