import ViewModifiers.Text.Ranges

/-!
# Blank characters

The characters that separate words and that trimming removes: the white space of Unicode 14
together with the four information separators.
-/

namespace ViewModifiers.Text

/-- The blank characters. -/
def blankRanges : Ranges :=
  [(9, 13), (28, 32), (133, 133), (160, 160), (5760, 5760), (8192, 8202), (8232, 8233),
    (8239, 8239), (8287, 8287), (12288, 12288)]

/-- Whether a character is blank. -/
def isBlank (c : Char) : Bool := blankRanges.contains c.toNat

/-- A text without the blanks at its front. -/
def trimFront (cs : List Char) : List Char := cs.dropWhile isBlank

/-- A text without the blanks at its two ends. -/
def trimBlanks (cs : List Char) : List Char := (trimFront (trimFront cs).reverse).reverse

end ViewModifiers.Text
