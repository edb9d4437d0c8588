import ViewModifiers.Interface.SyntaxError
import ViewModifiers.Source.Excerpt

/-!
# Reporting a fault with the text around it
-/

namespace ViewModifiers.Interface

open Source

/-- How many lines are shown on either side of a fault. -/
def excerptRadius : Int := 2

/-- The excerpt of a text that shows a position. -/
def excerptAt (file text : String) (p : Position) : Excerpt :=
  Excerpt.around file p.line p.column text excerptRadius

/-- The whole text of an error found in a file. -/
def SyntaxError.report (file text : String) (e : SyntaxError) : String :=
  (excerptAt file text e.position).describe e.fault.message

end ViewModifiers.Interface
