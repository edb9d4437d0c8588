import Mathlib.Computability.Language
import ViewModifiers.Proofs.Stylesheet.Locality
import ViewModifiers.Proofs.Stylesheet.ScannedNumbers
import ViewModifiers.Proofs.Text.Blank

/-!
# How tokens are written

The words of each kind of token form a language, put together as in a regular expression, and every
word has a value. Each part of the scanner that looks at the front of a text takes the longest word
of its language that stands there (`IsLongest`), so numbers, strings, names and atoms are never cut
short.
-/

namespace ViewModifiers.Stylesheet

open Source Text
open scoped Computability

variable {c : Char} {cs ds rest w taken : List Char} {p : Char → Bool} {l m : Language Char}

namespace Written

/-! ## The languages of tokens -/

/-- One character of a class. -/
def char (p : Char → Bool) : Language Char := {cs | ∃ c, p c = true ∧ cs = [c]}

/-- Characters of a class, at least one. -/
def run (p : Char → Bool) : Language Char := char p * (char p)∗

/-- Digits of any script. -/
def digits : Language Char := run isDecimal

/-- A point with digits behind it. -/
def fraction : Language Char := {['.']} * digits

/-- A letter with digits behind it, and perhaps a sign between them. -/
def exponent : Language Char := {['e'], ['E']} * ((1 + {['+'], ['-']}) * digits)

/-- A number without a sign. -/
def magnitude : Language Char := digits * (1 + fraction) * (1 + exponent)

/-- A number. -/
def numeral : Language Char := (1 + {['-']}) * magnitude

/-- A character of a string: one that stands for itself, or one behind a backslash. -/
def stringCharacter : Language Char :=
  char (fun c => c ∉ ['"', '\\', '\n']) + {['\\']} * char fun c => c ≠ '\n'

/-- A string in quotes. -/
def quotedString : Language Char := {['"']} * (stringCharacter∗ * {['"']})

/-- A name, and an atom without quotes. -/
def name (continues : Char → Bool) : Language Char := char startsName * (char continues)∗

/-- A colon with a name or a string behind it. -/
def atom : Language Char := {[':']} * (name continuesAtom + quotedString)

/-- White space. -/
def blanks : Language Char := run isBlank

/-- How the tokens of a kind are written. -/
def token : TokenKind → Language Char
  | .number => numeral
  | .string => quotedString
  | .atom => atom
  | .name => name continuesName
  | kind => char fun c => TokenKind.ofSign? c = some kind

/-! ## Values -/

/-- The characters that those of a string stand for. -/
def unescape : List Char → List Char
  | '\\' :: c :: cs => escaped c :: unescape cs
  | c :: cs => c :: unescape cs
  | [] => []

/-- What a string in quotes stands for. -/
def unquote (cs : List Char) : List Char := unescape cs.tail.dropLast

/-- The value of a token of a kind, by how it is written. -/
def value (kind : TokenKind) (cs : List Char) : String :=
  String.ofList <| match kind with
    | .string => unquote cs
    | .atom => if cs.tail.head? = some '"' then unquote cs.tail else cs.tail
    | _ => cs

/-! ## Words -/

theorem mem_mark_mul {mark : List Char} : cs ∈ {mark} * l ↔ ∃ ds ∈ l, mark ++ ds = cs := by
  rw [Language.mem_mul]
  constructor
  · rintro ⟨_, rfl, ds, there, made⟩
    exact ⟨ds, there, made⟩
  · rintro ⟨ds, there, made⟩
    exact ⟨mark, rfl, ds, there, made⟩

theorem mem_char_mul : cs ∈ char p * l ↔ ∃ c ds, p c = true ∧ ds ∈ l ∧ cs = c :: ds := by
  rw [Language.mem_mul]
  constructor
  · rintro ⟨_, ⟨c, isOne, rfl⟩, ds, there, rfl⟩
    exact ⟨c, ds, isOne, there, rfl⟩
  · rintro ⟨c, ds, isOne, there, rfl⟩
    exact ⟨[c], ⟨c, isOne, rfl⟩, ds, there, rfl⟩

/-- One word behind another, which need not be there. -/
theorem mem_followed : cs ∈ l * (1 + m) ↔ cs ∈ l ∨ ∃ w ∈ l, ∃ v ∈ m, w ++ v = cs := by
  rw [mul_add, mul_one, Language.mem_add, Language.mem_mul]

/-- One word in front of another, which need not be there. -/
theorem mem_preceded : cs ∈ (1 + l) * m ↔ cs ∈ m ∨ ∃ w ∈ l, ∃ v ∈ m, w ++ v = cs := by
  rw [add_mul, one_mul, Language.mem_add, Language.mem_mul]

theorem append_mem_kstar {v : List Char} (first : v ∈ l) (later : w ∈ l∗) : v ++ w ∈ l∗ :=
  mul_kstar_le_kstar (a := l) (Language.append_mem_mul first later)

theorem mem_kstar_char : cs ∈ (char p)∗ ↔ ∀ c ∈ cs, p c = true := by
  induction cs with
  | nil => exact ⟨fun _ => List.forall_mem_nil _, fun _ => Language.nil_mem_kstar _⟩
  | cons c cs ih =>
    rw [← Language.one_add_self_mul_kstar_eq_kstar, Language.mem_add, mem_char_mul,
      List.forall_mem_cons, ← ih]
    constructor
    · rintro (none | ⟨_, _, isOne, later, same⟩)
      · cases none
      · cases same
        exact ⟨isOne, later⟩
    · rintro ⟨isOne, later⟩
      exact .inr ⟨c, cs, isOne, later, rfl⟩

theorem mem_run : cs ∈ run p ↔ cs ≠ [] ∧ ∀ c ∈ cs, p c = true := by
  rw [run, mem_char_mul]
  constructor
  · rintro ⟨c, ds, isOne, later, rfl⟩
    exact ⟨List.cons_ne_nil c ds, List.forall_mem_cons.2 ⟨isOne, mem_kstar_char.1 later⟩⟩
  · rintro ⟨nonempty, all⟩
    obtain ⟨c, ds, rfl⟩ := List.exists_cons_of_ne_nil nonempty
    obtain ⟨isOne, later⟩ := List.forall_mem_cons.1 all
    exact ⟨c, ds, isOne, mem_kstar_char.2 later, rfl⟩

theorem mem_sign {sign : List Char} :
    sign ∈ (1 + {['+'], ['-']} : Language Char) ↔ sign ∈ [['+'], ['-'], []] := by
  change sign = [] ∨ sign = ['+'] ∨ sign = ['-'] ↔ _
  simp only [List.mem_cons, List.not_mem_nil, or_false]
  tauto

theorem mem_exponent : cs ∈ exponent ↔ ∃ e sign ds, (e = 'e' ∨ e = 'E') ∧
    sign ∈ [['+'], ['-'], []] ∧ ds ∈ digits ∧ cs = e :: sign ++ ds := by
  rw [exponent, Language.mem_mul]
  constructor
  · rintro ⟨_, letter, _, ⟨sign, isSign, ds, digits, rfl⟩, rfl⟩
    rcases letter with rfl | rfl
    · exact ⟨'e', sign, ds, .inl rfl, mem_sign.1 isSign, digits, rfl⟩
    · exact ⟨'E', sign, ds, .inr rfl, mem_sign.1 isSign, digits, rfl⟩
  · rintro ⟨e, sign, ds, letter, isSign, digits, rfl⟩
    refine ⟨[e], ?_, _, ⟨sign, mem_sign.2 isSign, ds, digits, rfl⟩, rfl⟩
    rcases letter with rfl | rfl
    · exact .inl rfl
    · exact .inr rfl

end Written

open Written

/-- The longest word of a language at the front of a text, or nothing if no word stands there. -/
structure IsLongest (l : Language Char) (taken cs : List Char) : Prop where
  front : taken <+: cs
  word : taken ≠ [] → taken ∈ l
  longest : ∀ w ∈ l, w <+: cs → w.length ≤ taken.length

theorem isLongest_nil (none : ∀ w ∈ l, ¬w <+: cs) : IsLongest l [] cs where
  front := List.nil_prefix
  word some := (some rfl).elim
  longest w there front := (none w there front).elim

theorem isLongest_takeWhile (p : Char → Bool) (cs : List Char) :
    IsLongest (run p) (cs.takeWhile p) cs where
  front := List.takeWhile_prefix p
  word some := mem_run.2 ⟨some, fun _ there => List.mem_takeWhile_imp there⟩
  longest := by
    rintro w there ⟨rest, rfl⟩
    rw [List.takeWhile_append_of_pos (mem_run.1 there).2, List.length_append]
    exact Nat.le_add_right _ _

/-- Words that may have another word behind them. -/
theorem IsLongest.followed {taken' : List Char} (first : IsLongest l taken cs) (some : taken ≠ [])
    (second : IsLongest m taken' (cs.drop taken.length))
    (ends : ∀ w ∈ l, ∀ v ∈ m, w ++ v <+: cs → taken = w) :
    IsLongest (l * (1 + m)) (taken ++ taken') cs := by
  obtain ⟨rest, rfl⟩ := first.front
  rw [List.drop_left] at second
  refine ⟨(List.prefix_append_right_inj taken).2 second.front, fun _ => ?_, ?_⟩
  · rw [mem_followed]
    by_cases none : taken' = []
    · rw [none, List.append_nil]
      exact .inl (first.word some)
    · exact .inr ⟨taken, first.word some, taken', second.word none, rfl⟩
  · intro w there front
    rw [List.length_append]
    rcases mem_followed.1 there with alone | ⟨w, start, v, more, rfl⟩
    · exact Nat.le_add_right_of_le (first.longest w alone front)
    · obtain rfl := ends w start v more front
      rw [List.length_append]
      exact Nat.add_le_add_left
        (second.longest v more ((List.prefix_append_right_inj taken).1 front)) _

/-- A mark is taken together with what stands behind it, if that is something. -/
theorem IsLongest.marked (behind : IsLongest l taken cs) (some : [] ∉ l) (mark : List Char) :
    IsLongest ({mark} * l) (if taken.isEmpty then [] else mark ++ taken) (mark ++ cs) := by
  have longest {w : List Char} (there : w ∈ {mark} * l) (front : w <+: mark ++ cs) :
      ∃ v ∈ l, w = mark ++ v ∧ v.length ≤ taken.length := by
    obtain ⟨v, after, rfl⟩ := mem_mark_mul.1 there
    exact ⟨v, after, rfl, behind.longest v after ((List.prefix_append_right_inj mark).1 front)⟩
  split
  next none =>
    refine isLongest_nil fun w there front => ?_
    obtain ⟨v, after, -, le⟩ := longest there front
    rw [List.isEmpty_iff.1 none, List.length_nil, Nat.le_zero, List.length_eq_zero_iff] at le
    exact some (le ▸ after)
  next taken =>
    refine ⟨(List.prefix_append_right_inj mark).2 behind.front, fun _ => ?_, ?_⟩
    · exact mem_mark_mul.2 ⟨_, behind.word (by simpa using taken), rfl⟩
    · intro w there front
      obtain ⟨v, -, rfl, le⟩ := longest there front
      simpa using le

/-- Words of another language do not matter where none of them stands. -/
theorem IsLongest.or (first : IsLongest l taken cs) (none : ∀ w ∈ m, ¬w <+: cs) :
    IsLongest (l + m) taken cs where
  front := first.front
  word some := .inl (first.word some)
  longest w there front :=
    there.elim (first.longest w · front) fun other => (none w other front).elim

/-! ## Numbers -/

theorem nil_notMem_digits : [] ∉ digits := fun there => (mem_run.1 there).1 rfl

theorem isLongest_digitsAhead (cs : List Char) : IsLongest digits (digitsAhead cs) cs :=
  isLongest_takeWhile isDecimal cs

/-- Digits begin with a digit. -/
theorem exists_cons_of_mem_digits (there : cs ∈ digits) :
    ∃ c ds, cs = c :: ds ∧ isDecimal c = true := by
  obtain ⟨c, ds, isDigit, -, made⟩ := mem_char_mul.1 there
  exact ⟨c, ds, made, isDigit⟩

theorem digitsAhead_append (there : ds ∈ digits)
    (ends : ∀ c, rest.head? = some c → isDecimal c = false) : digitsAhead (ds ++ rest) = ds :=
  (splitDigits (mem_run.1 there).2 ends).1

theorem isLongest_markedDigits (mark cs : List Char) :
    IsLongest ({mark} * digits) (markedDigits mark cs) (mark ++ cs) :=
  (isLongest_digitsAhead cs).marked nil_notMem_digits mark

theorem isLongest_fractionAhead (cs : List Char) : IsLongest fraction (fractionAhead cs) cs := by
  rw [fractionAhead.eq_def]
  split
  · exact isLongest_markedDigits ['.'] _
  next noPoint =>
    refine isLongest_nil fun w there front => ?_
    obtain ⟨ds, -, rfl⟩ := mem_mark_mul.1 there
    obtain ⟨rest, rfl⟩ := front
    exact noPoint _ rfl

theorem exponentAhead_append {e : Char} (letter : e = 'e' ∨ e = 'E') {sign : List Char}
    (isSign : sign ∈ [['+'], ['-'], []]) (there : ds ∈ digits) (rest : List Char) :
    exponentAhead (e :: sign ++ ds ++ rest) = markedDigits (e :: sign) (ds ++ rest) := by
  have isLetter : (e = 'e' || e = 'E') = true := by simpa using letter
  simp only [List.mem_cons, List.not_mem_nil, or_false] at isSign
  rcases isSign with rfl | rfl | rfl
  · exact if_pos isLetter
  · exact if_pos isLetter
  · obtain ⟨c, ds, rfl, decimal⟩ := exists_cons_of_mem_digits there
    rw [exponentAhead.eq_def]
    dsimp only [List.cons_append, List.nil_append]
    rw [if_pos isLetter]
    -- Digits are no signs.
    split
    next same =>
      cases same
      exact absurd decimal (by decide)
    next same =>
      cases same
      exact absurd decimal (by decide)
    next => rfl

theorem isLongest_exponentAhead (cs : List Char) : IsLongest exponent (exponentAhead cs) cs where
  front := by
    rcases exponentAhead_cases cs with none | ⟨e, sign, ds, -, -, rfl, same⟩
    · exact none ▸ List.nil_prefix
    · exact same ▸ (isLongest_markedDigits (e :: sign) ds).front
  word some := by
    rcases exponentAhead_cases cs with none | ⟨e, sign, ds, letter, isSign, rfl, same⟩
    · exact (some none).elim
    · rw [same] at some ⊢
      obtain ⟨ds, isDigits, made⟩ :=
        mem_mark_mul.1 ((isLongest_markedDigits (e :: sign) ds).word some)
      exact mem_exponent.2 ⟨e, sign, ds, letter, isSign, isDigits, made.symm⟩
  longest := by
    rintro w there ⟨rest, rfl⟩
    obtain ⟨e, sign, ds, letter, isSign, isDigits, rfl⟩ := mem_exponent.1 there
    rw [exponentAhead_append letter isSign isDigits]
    refine (isLongest_markedDigits _ _).longest _ (mem_mark_mul.2 ⟨ds, isDigits, rfl⟩) ?_
    exact (List.prefix_append_right_inj _).2 (List.prefix_append ds rest)

/-- A number without a sign begins with a digit. -/
theorem exists_cons_of_mem_magnitude (there : cs ∈ magnitude) :
    ∃ c ds, cs = c :: ds ∧ isDecimal c = true := by
  obtain ⟨_, ⟨ds, isDigits, _, -, rfl⟩, _, -, rfl⟩ := there
  obtain ⟨c, ds, rfl, decimal⟩ := exists_cons_of_mem_digits isDigits
  exact ⟨c, _, rfl, decimal⟩

/-- An exponent begins with its letter. -/
theorem exists_cons_of_mem_exponent (there : cs ∈ exponent) :
    ∃ e ds, cs = e :: ds ∧ (e = 'e' ∨ e = 'E') := by
  obtain ⟨e, sign, ds, letter, -, -, rfl⟩ := mem_exponent.1 there
  exact ⟨e, _, rfl, letter⟩

/-- A point ends the digits in front of it. -/
theorem digitsAhead_of_fraction (there : ds ∈ digits) (more : w ∈ fraction)
    (front : ds ++ w <+: cs) : digitsAhead cs = ds := by
  obtain ⟨rest, rfl⟩ := front
  obtain ⟨fs, -, rfl⟩ := mem_mark_mul.1 more
  rw [List.append_assoc]
  refine digitsAhead_append there fun c first => ?_
  cases first
  decide

/-- The letter of an exponent ends what stands in front of it. -/
theorem ahead_of_exponent {v : List Char} (there : v ∈ digits * (1 + fraction))
    (more : w ∈ exponent) (front : v ++ w <+: cs) :
    digitsAhead cs ++ fractionAhead (cs.drop (digitsAhead cs).length) = v := by
  obtain ⟨rest, rfl⟩ := front
  obtain ⟨e, es, rfl, letter⟩ := exists_cons_of_mem_exponent more
  have ends (c : Char) (first : (e :: es ++ rest).head? = some c) : isDecimal c = false := by
    cases first
    rcases letter with rfl | rfl <;> decide
  rcases mem_followed.1 there with isDigits | ⟨ds, isDigits, f, some, rfl⟩
  · rw [List.append_assoc, digitsAhead_append isDigits ends, List.drop_left]
    rcases letter with rfl | rfl
    · exact List.append_nil v
    · exact List.append_nil v
  · have whole := digitsAhead_of_fraction isDigits some
      ((List.prefix_append _ (e :: es)).trans (List.prefix_append _ rest))
    obtain ⟨fs, isDigits', rfl⟩ := mem_mark_mul.1 some
    rw [whole, List.append_assoc, List.append_assoc, List.drop_left]
    change ds ++ markedDigits ['.'] (fs ++ (e :: es ++ rest)) = _
    rw [markedDigits, digitsAhead_append isDigits' ends, if_neg]
    simpa using (mem_run.1 isDigits').1

theorem isLongest_magnitudeAhead (cs : List Char) : IsLongest magnitude (magnitudeAhead cs) cs := by
  have whole := isLongest_digitsAhead cs
  rw [magnitudeAhead]
  split
  next none =>
    rw [List.isEmpty_iff.1 none] at whole
    refine isLongest_nil fun w there front => ?_
    obtain ⟨_, ⟨ds, isDigits, _, -, rfl⟩, _, -, rfl⟩ := there
    have le := whole.longest ds isDigits
      ((List.prefix_append _ _).trans ((List.prefix_append _ _).trans front))
    rw [List.length_nil, Nat.le_zero, List.length_eq_zero_iff] at le
    exact nil_notMem_digits (le ▸ isDigits)
  next some =>
    have some : digitsAhead cs ≠ [] := by simpa using some
    have mantissa := whole.followed some (isLongest_fractionAhead _)
      fun _ there _ more front => digitsAhead_of_fraction there more front
    dsimp only
    rw [← List.length_append]
    exact mantissa.followed (List.append_ne_nil_of_left_ne_nil some _) (isLongest_exponentAhead _)
      fun _ there _ more front => ahead_of_exponent there more front

theorem isLongest_numberAhead (cs : List Char) : IsLongest numeral (numberAhead cs) cs := by
  rw [numeral, add_mul, one_mul, numberAhead.eq_def]
  split
  next ds =>
    have some : [] ∉ magnitude := fun there => by
      obtain ⟨_, _, made, -⟩ := exists_cons_of_mem_magnitude there
      cases made
    rw [add_comm]
    refine ((isLongest_magnitudeAhead ds).marked some ['-']).or fun w there front => ?_
    obtain ⟨c, v, rfl, decimal⟩ := exists_cons_of_mem_magnitude there
    obtain rfl := (List.cons_prefix_cons.1 front).1
    exact absurd decimal (by decide)
  next noMinus =>
    refine (isLongest_magnitudeAhead cs).or fun w there front => ?_
    obtain ⟨v, -, rfl⟩ := mem_mark_mul.1 there
    obtain ⟨rest, rfl⟩ := front
    exact noMinus _ rfl

/-- A number begins with a digit or a minus. -/
theorem exists_cons_of_mem_numeral (there : cs ∈ numeral) :
    ∃ c ds, cs = c :: ds ∧ (c = '-' ∨ isDecimal c = true) := by
  rcases mem_preceded.1 there with isMagnitude | ⟨_, rfl, v, -, rfl⟩
  · obtain ⟨c, ds, rfl, decimal⟩ := exists_cons_of_mem_magnitude isMagnitude
    exact ⟨c, ds, rfl, .inr decimal⟩
  · exact ⟨'-', v, rfl, .inl rfl⟩

/-! ## Strings -/

theorem unescape_cons (other : c ≠ '\\') (cs : List Char) :
    unescape (c :: cs) = c :: unescape cs := by
  rw [unescape]
  exact fun _ _ backslash => (other backslash).elim

theorem mem_stringCharacter : cs ∈ stringCharacter ↔
    (∃ c, c ∉ ['"', '\\', '\n'] ∧ cs = [c]) ∨ ∃ c, c ≠ '\n' ∧ cs = ['\\', c] := by
  rw [stringCharacter, Language.mem_add, mem_mark_mul]
  constructor
  · rintro (⟨c, plain, rfl⟩ | ⟨_, ⟨c, other, rfl⟩, rfl⟩)
    · exact .inl ⟨c, of_decide_eq_true plain, rfl⟩
    · exact .inr ⟨c, of_decide_eq_true other, rfl⟩
  · rintro (⟨c, plain, rfl⟩ | ⟨c, other, rfl⟩)
    · exact .inl ⟨c, decide_eq_true plain, rfl⟩
    · exact .inr ⟨_, ⟨c, decide_eq_true other, rfl⟩, rfl⟩

/-- The rest of a string is read up to the quote that ends it. -/
theorem stringBody_append_quote (there : ds ∈ stringCharacter∗) (rest : List Char) :
    stringBody (ds ++ '"' :: rest) = some (unescape ds, ds.length + 1) := by
  obtain ⟨characters, rfl, each⟩ := Language.mem_kstar.1 there
  clear there
  induction characters with
  | nil => rfl
  | cons character characters ih =>
    obtain ⟨isCharacter, later⟩ := List.forall_mem_cons.1 each
    rw [List.flatten_cons, List.append_assoc]
    rcases mem_stringCharacter.1 isCharacter with ⟨c, plain, rfl⟩ | ⟨c, other, rfl⟩
    · have notBackslash : c ≠ '\\' := by rintro rfl; exact plain (by simp)
      rw [List.singleton_append, List.singleton_append, stringBody_cons plain, ih later,
        unescape_cons notBackslash]
      rfl
    · change stringBody ('\\' :: c :: (characters.flatten ++ '"' :: rest)) = _
      rw [stringBody_backslash other, ih later]
      rfl

theorem exists_of_stringBody {value : List Char} {size : Nat}
    (body : stringBody cs = some (value, size)) :
    ∃ ds rest, ds ∈ stringCharacter∗ ∧ cs = ds ++ '"' :: rest := by
  induction cs using stringBody.induct generalizing value size with
  | case1 cs => exact ⟨[], cs, Language.nil_mem_kstar _, rfl⟩
  | case2 cs => cases body
  | case3 cs => cases body
  | case4 c cs notLine ih =>
    rw [stringBody_backslash notLine] at body
    obtain ⟨inner, found, -⟩ := Option.map_eq_some_iff.1 body
    obtain ⟨ds, rest, there, rfl⟩ := ih found
    exact ⟨['\\', c] ++ ds, rest,
      append_mem_kstar (mem_stringCharacter.2 (.inr ⟨c, notLine, rfl⟩)) there, rfl⟩
  | case5 => cases body
  | case6 c cs notQuote notLine _ notEscape notLast ih =>
    have plain := plain_of_stringBody notQuote notLine notEscape notLast
    rw [stringBody_cons plain] at body
    obtain ⟨inner, found, -⟩ := Option.map_eq_some_iff.1 body
    obtain ⟨ds, rest, there, rfl⟩ := ih found
    exact ⟨[c] ++ ds, rest,
      append_mem_kstar (mem_stringCharacter.2 (.inl ⟨c, plain, rfl⟩)) there, rfl⟩
  | case7 => cases body

theorem mem_quotedString :
    cs ∈ quotedString ↔ ∃ ds ∈ stringCharacter∗, cs = '"' :: (ds ++ ['"']) := by
  rw [quotedString, mem_mark_mul]
  constructor
  · rintro ⟨_, ⟨ds, there, _, rfl, rfl⟩, rfl⟩
    exact ⟨ds, there, rfl⟩
  · rintro ⟨ds, there, rfl⟩
    exact ⟨_, ⟨ds, there, _, rfl, rfl⟩, rfl⟩

/-- A string is read as the characters that it stands for. -/
theorem stringAhead?_of_mem (there : w ∈ quotedString) (front : w <+: cs) :
    stringAhead? cs = some (String.ofList (unquote w), w.length) := by
  obtain ⟨rest, rfl⟩ := front
  obtain ⟨ds, isBody, rfl⟩ := mem_quotedString.1 there
  rw [List.cons_append, List.append_assoc, List.singleton_append, stringAhead?,
    stringBody_append_quote isBody, unquote, List.tail_cons, List.dropLast_concat, List.length_cons,
    List.length_append]
  rfl

theorem exists_of_stringAhead? {value : String} {size : Nat}
    (found : stringAhead? cs = some (value, size)) :
    ∃ w ∈ quotedString, w <+: cs ∧ value = String.ofList (unquote w) ∧ size = w.length := by
  have written : ∃ w ∈ quotedString, w <+: cs := by
    rw [stringAhead?.eq_def] at found
    split at found
    · obtain ⟨_, body, -⟩ := Option.map_eq_some_iff.1 found
      obtain ⟨ds, rest, there, rfl⟩ := exists_of_stringBody body
      exact ⟨_, mem_quotedString.2 ⟨ds, there, rfl⟩, rest, by simp⟩
    · cases found
  obtain ⟨w, there, front⟩ := written
  rw [stringAhead?_of_mem there front] at found
  cases found
  exact ⟨w, there, front, rfl, rfl⟩

/-! ## Names and atoms -/

theorem mem_name : cs ∈ name p ↔
    ∃ c ds, startsName c = true ∧ (∀ d ∈ ds, p d = true) ∧ cs = c :: ds := by
  simp only [name, mem_char_mul, mem_kstar_char]

/-- A name goes on as far as its characters do. -/
theorem isLongest_name (starts : startsName c = true) (p : Char → Bool) (cs : List Char) :
    IsLongest (name p) (c :: cs.takeWhile p) (c :: cs) where
  front := (List.prefix_cons_inj c).2 (List.takeWhile_prefix p)
  word _ := mem_name.2 ⟨c, _, starts, fun _ there => List.mem_takeWhile_imp there, rfl⟩
  longest := by
    intro w there front
    obtain ⟨c, ds, -, continues, rfl⟩ := mem_name.1 there
    obtain ⟨rfl, rest, rfl⟩ := List.cons_prefix_cons.1 front
    rw [List.takeWhile_append_of_pos continues, List.length_cons, List.length_cons,
      List.length_append]
    exact Nat.succ_le_succ (Nat.le_add_right _ _)

theorem startsName_quote : startsName '"' = false := by decide

/-- What stands behind the colon of an atom is read, and perhaps more. -/
theorem exists_atomAhead? (there : w ∈ name continuesAtom + quotedString) (front : w <+: cs) :
    ∃ value size, atomAhead? cs = some (value, size) ∧ w.length ≤ size := by
  rcases there with isName | isString
  · obtain ⟨c, ds, starts, continues, rfl⟩ := mem_name.1 isName
    obtain ⟨rest, rfl⟩ := front
    rw [List.cons_append, atomAhead?, if_pos starts]
    exact ⟨_, _, rfl, (isLongest_name starts _ _).longest _ isName ⟨rest, rfl⟩⟩
  · have found := stringAhead?_of_mem isString front
    obtain ⟨ds, -, rfl⟩ := mem_quotedString.1 isString
    obtain ⟨rest, rfl⟩ := front
    rw [List.cons_append, atomAhead?, if_neg (by simp [startsName_quote]), ← List.cons_append]
    exact ⟨_, _, found, Nat.le_refl _⟩

theorem exists_of_atomAhead? {found : String} {size : Nat}
    (ahead : atomAhead? cs = some (found, size)) :
    ∃ w ∈ token .atom, w <+: ':' :: cs ∧ found = value .atom w ∧ size + 1 = w.length := by
  rw [atomAhead?.eq_def] at ahead
  split at ahead
  · cases ahead
  next c cs =>
    split at ahead
    next starts =>
      have name := isLongest_name starts continuesAtom cs
      have notQuote : c ≠ '"' := by rintro rfl; cases starts
      cases ahead
      refine ⟨':' :: c :: cs.takeWhile continuesAtom, ?_, ?_, ?_, rfl⟩
      · exact mem_mark_mul.2 ⟨_, .inl (name.word (List.cons_ne_nil c _)), rfl⟩
      · exact (List.prefix_cons_inj ':').2 name.front
      · simp [value, notQuote]
    next =>
      obtain ⟨w, there, front, rfl, rfl⟩ := exists_of_stringAhead? ahead
      refine ⟨':' :: w, mem_mark_mul.2 ⟨w, .inr there, rfl⟩,
        (List.prefix_cons_inj ':').2 front, ?_, rfl⟩
      obtain ⟨ds, -, rfl⟩ := mem_quotedString.1 there
      simp [value]

theorem one_le_of_atomAhead? {found : String} {size : Nat}
    (ahead : atomAhead? cs = some (found, size)) : 1 ≤ size := by
  rw [atomAhead?.eq_def] at ahead
  split at ahead
  · cases ahead
  · split at ahead
    · cases ahead
      exact Nat.le_add_left 1 _
    · obtain ⟨w, there, -, -, rfl⟩ := exists_of_stringAhead? ahead
      obtain ⟨ds, -, rfl⟩ := mem_quotedString.1 there
      exact Nat.le_add_left 1 _

end ViewModifiers.Stylesheet
