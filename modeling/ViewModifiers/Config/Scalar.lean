import ViewModifiers.Config.Datum
import ViewModifiers.Numeral.Binary64
import ViewModifiers.Numeral.Integer
import ViewModifiers.Text.Split

/-!
# Keys, strings, numbers and points in time of TOML documents

Readers take characters from the front of the remaining text.
-/

namespace ViewModifiers.Config

/-- Why a document cannot be read: it is malformed, or a number in it is too long to be converted.
-/
inductive DocumentFault
  | malformed
  | oversizedInteger
  deriving DecidableEq, Repr

/-- A reader of the characters of a document. -/
abbrev DocumentReader := StateT (List Char) (Except DocumentFault)

namespace DocumentReader

/-- Gives up. -/
def malformed {α : Type} : DocumentReader α := throw .malformed

/-- The next character. -/
def next? : DocumentReader (Option Char) := do return (← get).head?

/-- Whether the remaining text begins with the given characters. -/
def startsWith (cs : List Char) : DocumentReader Bool := do return cs.isPrefixOf (← get)

/-- Drops characters. -/
def drop (n : Nat) : DocumentReader Unit := modify (·.drop n)

/-- Takes the characters of a class. -/
def takeWhile (p : Char → Bool) : DocumentReader (List Char) := do
  let cs ← get
  set (cs.dropWhile p)
  return cs.takeWhile p

/-! ## Character classes -/

/-- Blanks inside a line. -/
def isBlank (c : Char) : Bool := c = ' ' || c = '\t'

/-- Control characters other than the tab. -/
def isControl (c : Char) : Bool := (c.toNat < 32 && c ≠ '\t') || c.toNat = 127

/-- The characters of a bare key. -/
def isBareKeyChar (c : Char) : Bool := c.isAlphanum || c = '-' || c = '_'

/-- The value of a hexadecimal digit. -/
def hexValue? (c : Char) : Option Nat :=
  if '0' ≤ c ∧ c ≤ '9' then some (c.toNat - '0'.toNat)
  else if 'a' ≤ c ∧ c ≤ 'f' then some (c.toNat - 'a'.toNat + 10)
  else if 'A' ≤ c ∧ c ≤ 'F' then some (c.toNat - 'A'.toNat + 10)
  else none

/-- Skips blanks inside a line. -/
def skipBlanks : DocumentReader Unit := do let _ ← takeWhile isBlank

/-- Skips a comment, up to the end of its line. -/
def skipComment : DocumentReader Unit := do
  if ← startsWith ['#'] then
    let comment ← takeWhile (· ≠ '\n')
    if comment.any isControl then malformed

/-- Skips blanks, line ends and comments; the list measures the number of comments. -/
def skipGapsFrom : List Char → DocumentReader Unit
  | [] => return
  | _ :: measure => do
    let _ ← takeWhile fun c => isBlank c || c = '\n'
    if ← startsWith ['#'] then
      skipComment
      skipGapsFrom measure

/-- Skips blanks, line ends and comments. -/
def skipGaps : DocumentReader Unit := do skipGapsFrom (← get)

/-! ## Strings -/

/-- Reads the digits of an escaped code point. -/
def codePoint (width : Nat) : DocumentReader Char := do
  let digits := (← get).take width
  drop width
  match digits.mapM hexValue? with
  | none => malformed
  | some values =>
    let n := values.foldl (fun n v => 16 * n + v) 0
    if values.length = width ∧ (n < 0xD800 ∨ (0xDFFF < n ∧ n ≤ 0x10FFFF)) then
      return Char.ofNat n
    else malformed

/-- Reads a line end that is escaped: blanks up to it and all blanks and line ends behind it go. -/
def escapedLineEnd : DocumentReader (List Char) := do
  skipBlanks
  match ← next? with
  | none => return []
  | some '\n' =>
    let _ ← takeWhile fun c => isBlank c || c = '\n'
    return []
  | some _ => malformed

/-- Reads an escape behind its backslash. -/
def escape (multiline : Bool) : DocumentReader (List Char) := do
  let c ← next?
  if multiline && (c = some ' ' || c = some '\t' || c = some '\n') then escapedLineEnd
  else
    drop 1
    match c with
    | some 'b' => return ['\x08']
    | some 't' => return ['\t']
    | some 'n' => return ['\n']
    | some 'f' => return ['\x0c']
    | some 'r' => return ['\r']
    | some '"' => return ['"']
    | some '\\' => return ['\\']
    | some 'u' => return [← codePoint 4]
    | some 'U' => return [← codePoint 8]
    | _ => malformed

/-- Reads a string with escapes up to its closing quotes, which are used up. The first list measures
the steps; the text read so far is passed in reverse. -/
def basicBody (multiline : Bool) : List Char → List Char → DocumentReader (List Char)
  | [], _ => malformed
  | _ :: measure, text => do
    match ← next? with
    | none => malformed
    | some '"' =>
      if !multiline then
        drop 1
        return text.reverse
      else if ← startsWith ['"', '"', '"'] then
        drop 3
        return text.reverse
      else
        drop 1
        basicBody multiline measure ('"' :: text)
    | some '\\' =>
      drop 1
      basicBody multiline measure ((← escape multiline).reverse ++ text)
    | some c =>
      if isControl c && !(multiline && c = '\n') then malformed
      else
        drop 1
        basicBody multiline measure (c :: text)

/-- Reads a string with escapes on one line. -/
def basicString : DocumentReader String := do
  drop 1
  return String.ofList (← basicBody false (← get) [])

/-- Reads text up to a closing mark, which is used up. -/
def literalBody (mark : List Char) (isIllegal : Char → Bool) : DocumentReader (List Char) := do
  let cs ← get
  match Text.distanceTo mark cs with
  | none => malformed
  | some n =>
    if (cs.take n).any isIllegal then malformed
    else
      drop (n + mark.length)
      return cs.take n

/-- Reads a string without escapes on one line. -/
def literalString : DocumentReader String := do
  drop 1
  return String.ofList (← literalBody ['\''] isControl)

/-- Takes up to two quotes behind the closing ones of a string of several lines; they belong to
it. -/
def extraQuotes (quote : Char) : DocumentReader (List Char) := do
  let extra := ((← get).take 2).takeWhile (· = quote)
  drop extra.length
  return extra

/-- Reads a string of several lines; a line end right behind the opening quotes does not count. -/
def multilineString (quote : Char) : DocumentReader String := do
  drop 3
  if ← startsWith ['\n'] then drop 1
  let body ← if quote = '"' then basicBody true (← get) []
    else literalBody ['\'', '\'', '\''] fun c => isControl c && c ≠ '\n'
  return String.ofList (body ++ (← extraQuotes quote))

/-- Reads a string of any form. -/
def string (quote : Char) : DocumentReader String := do
  if ← startsWith [quote, quote, quote] then multilineString quote
  else if quote = '"' then basicString
  else literalString

/-! ## Keys -/

/-- Reads one part of a key. -/
def keyPart : DocumentReader String := do
  match ← next? with
  | some '"' => basicString
  | some '\'' => literalString
  | some c =>
    if isBareKeyChar c then return String.ofList (← takeWhile isBareKeyChar) else malformed
  | none => malformed

/-- Reads the parts of a key behind its first one. -/
def keyRest : List Char → DocumentReader (List String)
  | [] => return []
  | _ :: measure => do
    skipBlanks
    if ← startsWith ['.'] then
      drop 1
      skipBlanks
      let part ← keyPart
      return part :: (← keyRest measure)
    else return []

/-- Reads a dotted key. -/
def key : DocumentReader (List String) := do
  let first ← keyPart
  return first :: (← keyRest ('.' :: (← get)))

/-! ## Numbers -/

/-- A run of digits with single underscores between them: the digits, and how many characters they
take. -/
def digitRun (isDigit : Char → Bool) : List Char → List Char × Nat
  | [] => ([], 0)
  | c :: cs =>
    if isDigit c then
      let (digits, n) := digitRun isDigit cs
      (c :: digits, n + 1)
    else match c, cs with
      | '_', d :: rest =>
        if isDigit d then
          let (digits, n) := digitRun isDigit rest
          (d :: digits, n + 2)
        else ([], 0)
      | _, _ => ([], 0)

/-- A run that starts with a digit. -/
def digitsHere (isDigit : Char → Bool) (cs : List Char) : List Char × Nat :=
  if cs.head?.any isDigit then digitRun isDigit cs else ([], 0)

/-- The value of digits to a base. -/
def digitsToBase (base : Nat) (digits : List Char) : Nat :=
  digits.foldl (fun n c => base * n + (hexValue? c).getD 0) 0

/-- The base that a prefix of two characters stands for. -/
def baseOf? : List Char → Option Nat
  | '0' :: 'x' :: _ => some 16
  | '0' :: 'o' :: _ => some 8
  | '0' :: 'b' :: _ => some 2
  | _ => none

/-- Whether a character is a digit to a base. -/
def isDigitOf (base : Nat) (c : Char) : Bool := (hexValue? c).any (· < base)

/-- Reads an integer to a base that is a power of two. -/
def prefixedInteger? : DocumentReader (Option Datum) := do
  let cs ← get
  match baseOf? cs with
  | none => return none
  | some base =>
    let (digits, n) := digitsHere (isDigitOf base) (cs.drop 2)
    if digits.isEmpty then return none
    drop (n + 2)
    return some (.integer (digitsToBase base digits))

/-- A sign at the front of a text: whether it is a minus, and how many characters it takes. -/
def signOf : List Char → Bool × Nat
  | '-' :: _ => (true, 1)
  | '+' :: _ => (false, 1)
  | _ => (false, 0)

/-- The digits of the whole part of a number, which has no leading zeros. -/
def wholePart (cs : List Char) : List Char × Nat :=
  if cs.head? = some '0' then (['0'], 1) else digitsHere Char.isDigit cs

/-- The digits behind a decimal point. -/
def fractionPart (cs : List Char) : List Char × Nat :=
  if cs.head? = some '.' then
    let (digits, n) := digitsHere Char.isDigit cs.tail
    if digits.isEmpty then ([], 0) else (digits, n + 1)
  else ([], 0)

/-- The exponent of a number. -/
def exponentPart (cs : List Char) : Int × Nat :=
  if cs.head? = some 'e' || cs.head? = some 'E' then
    let (negative, s) := signOf cs.tail
    let (digits, n) := digitsHere Char.isDigit (cs.tail.drop s)
    if digits.isEmpty then (0, 0)
    else
      let e : Int := digitsToBase 10 digits
      (if negative then -e else e, n + s + 1)
  else (0, 0)

/-- Reads a decimal integer or a number with a fraction or an exponent. -/
def decimalNumber? : DocumentReader (Option Datum) := do
  let cs ← get
  let (negative, s) := signOf cs
  let (whole, w) := wholePart (cs.drop s)
  if whole.isEmpty then return none
  let (fraction, f) := fractionPart (cs.drop (s + w))
  let (exponent, e) := exponentPart (cs.drop (s + w + f))
  drop (s + w + f + e)
  if f + e = 0 then
    if Numeral.digitLimit < whole.length then throw .oversizedInteger
    let n : Int := digitsToBase 10 whole
    return some (.integer (if negative then -n else n))
  else
    let mantissa := digitsToBase 10 (whole ++ fraction)
    return some (.decimal (Numeral.signedNearest negative mantissa (exponent - fraction.length)))

/-- Reads one of the words for infinity and for what is no number. -/
def specialNumber? : DocumentReader (Option Datum) := do
  let cs ← get
  let (negative, s) := signOf cs
  let infinity : Float := 1.0 / 0.0
  if ['i', 'n', 'f'].isPrefixOf (cs.drop s) then
    drop (s + 3)
    return some (.decimal (if negative then -infinity else infinity))
  else if ['n', 'a', 'n'].isPrefixOf (cs.drop s) then
    drop (s + 3)
    return some (.decimal (0.0 / 0.0))
  else return none

/-- Reads a number. -/
def number : DocumentReader Datum := do
  if let some d ← prefixedInteger? then return d
  if let some d ← decimalNumber? then return d
  if let some d ← specialNumber? then return d
  malformed

/-! ## Points in time -/

/-- A number of two digits within bounds. -/
def twoDigits? (low high : Nat) (cs : List Char) : Option Nat :=
  match cs with
  | a :: b :: _ =>
    if a.isDigit && b.isDigit then
      (some (digitsToBase 10 [a, b])).filter fun n => low ≤ n && n ≤ high
    else none
  | _ => none

/-- A day at the front of a text, which takes ten characters; whether the calendar has it is left
open. -/
def dayHere? (cs : List Char) : Option Day := do
  let year := cs.take 4
  if year.length ≠ 4 || !year.all Char.isDigit then none
  if cs[4]? ≠ some '-' || cs[7]? ≠ some '-' then none
  return ⟨digitsToBase 10 year, ← twoDigits? 1 12 (cs.drop 5), ← twoDigits? 1 31 (cs.drop 8)⟩

/-- The fraction of a second as millionths, and how many characters it takes; no more than six
digits count. -/
def microseconds (cs : List Char) : Nat × Nat :=
  if cs.head? = some '.' then
    let digits := cs.tail.takeWhile Char.isDigit
    if digits.isEmpty then (0, 0)
    else (digitsToBase 10 ((digits.take 6).rightpad 6 '0'), digits.length + 1)
  else (0, 0)

/-- A time at the front of a text, and how many characters it takes. -/
def timeHere? (cs : List Char) : Option (Time × Nat) := do
  if cs[2]? ≠ some ':' || cs[5]? ≠ some ':' then none
  let hour ← twoDigits? 0 23 cs
  let minute ← twoDigits? 0 59 (cs.drop 3)
  let second ← twoDigits? 0 59 (cs.drop 6)
  let (fraction, n) := microseconds (cs.drop 8)
  return (⟨hour, minute, second, fraction⟩, 8 + n)

/-- The minutes by which a time is ahead of universal time, and how many characters tell them. -/
def aheadHere? (cs : List Char) : Option (Int × Nat) := do
  if cs.head? = some 'Z' || cs.head? = some 'z' then return (0, 1)
  let (negative, s) := signOf cs
  if s = 0 || cs[3]? ≠ some ':' then none
  let minutes : Int := 60 * (← twoDigits? 0 23 (cs.drop 1)) + (← twoDigits? 0 59 (cs.drop 4))
  return (if negative then -minutes else minutes, 6)

/-- Whether a character may stand between a day and a time. -/
def isTimeMark (c : Char) : Bool := c = 'T' || c = 't' || c = ' '

/-- A point in time with a day at the front of a text, and how many characters it takes. -/
def momentWithDay? (cs : List Char) : Option (Day × Moment × Nat) := do
  let day ← dayHere? cs
  let behind := cs.drop 10
  match (if behind.head?.any isTimeMark then timeHere? behind.tail else none) with
  | none => return (day, .day day, 10)
  | some (time, n) =>
    match aheadHere? (behind.drop (n + 1)) with
    | none => return (day, .timeOfDay day time none, 11 + n)
    | some (ahead, k) => return (day, .timeOfDay day time (some ahead), 11 + n + k)

/-- Reads a point in time, if one stands here. -/
def moment? : DocumentReader (Option Datum) := do
  let cs ← get
  match momentWithDay? cs with
  | some (day, moment, n) =>
    if !day.isInCalendar then malformed
    drop n
    return some (.moment moment)
  | none =>
    match timeHere? cs with
    | some (time, n) =>
      drop n
      return some (.moment (.time time))
    | none => return none

end DocumentReader

end ViewModifiers.Config
