import ViewModifiers.Emit.ModuleCode
import ViewModifiers.Proofs.Text.NameTable

/-!
# Tables of strings read back

What a table of strings in a generated module stands for is said by a reader of its own
(`readTable`): a literal ends at the first quote that is not escaped, and no line end stands in it.
An escape takes up two characters, of which the first is a backslash, and a backslash is written in
no other way. So the characters of a literal are read back one by one (`readCharacters_append`),
whatever stands behind it, and with them the entries of a table.
-/

namespace ViewModifiers.Emit

open Text

/-! ## What a table stands for -/

/-- The character that an escape stands for. -/
def escaped? : Char → Option Char
  | '\\' => some '\\'
  | '"' => some '"'
  | 'n' => some '\n'
  | _ => none

/-- The characters of a literal up to the quote that ends it, and the text behind that. Neither a
line end nor a NUL stands in a literal. -/
def readCharacters : List Char → Option (List Char × List Char)
  | [] => none
  | '"' :: behind => some ([], behind)
  | '\\' :: c :: cs => do
    let d ← escaped? c
    let (text, behind) ← readCharacters cs
    return (d :: text, behind)
  | c :: cs =>
    if c ∈ ['\\', '\n', '\r', '\x00'] then none
    else (readCharacters cs).map fun (text, behind) => (c :: text, behind)

/-- The text of a literal, and the text behind it. Three quotes begin a literal of another sort. -/
def readLiteral : List Char → Option (String × List Char)
  | '"' :: '"' :: '"' :: _ => none
  | '"' :: cs => (readCharacters cs).map fun (text, behind) => (String.ofList text, behind)
  | _ => none

/-- A text behind its blanks. -/
def skipBlanks (cs : List Char) : List Char := cs.dropWhile fun c => c ∈ [' ', '\t', '\n']

/-- The text behind a sign and the blanks around it. -/
def readSign (sign : Char) (cs : List Char) : Option (List Char) :=
  match skipBlanks cs with
  | c :: behind => if c = sign then some (skipBlanks behind) else none
  | [] => none

/-- Entries with commas between them up to the closing brace, and the text behind it. A comma may
stand behind the last entry. The first argument bounds the number of entries. -/
def readEntries : Nat → List Char → Option (List (String × String) × List Char)
  | 0, _ => none
  | _ + 1, '\x7d' :: behind => some ([], behind)
  | bound + 1, cs => do
    let (name, cs) ← readLiteral cs
    let cs ← readSign ':' cs
    let (value, cs) ← readLiteral cs
    match readSign ',' cs with
    | some cs =>
      let (entries, behind) ← readEntries bound cs
      return ((name, value) :: entries, behind)
    | none =>
      let behind ← readSign '\x7d' cs
      return ([(name, value)], behind)

/-- The table at the front of a text, and the text behind it. Where a name comes again, its last
value counts. -/
def readTable : List Char → Option (NameTable String × List Char)
  | '\x7b' :: cs => do
    let (entries, behind) ← readEntries (cs.length + 1) (skipBlanks cs)
    return (NameTable.ofList entries, behind)
  | _ => none

/-! ## Literals -/

section Literals

variable {cs rest : List Char} {s : String}

/-- Neither a carriage return nor a NUL stands in a text. -/
def IsPlain (s : String) : Prop := '\r' ∉ s.toList ∧ '\x00' ∉ s.toList

/-- A character of a literal is read back. -/
theorem readCharacters_literalChar {c : Char} (noReturn : c ≠ '\r') (noNull : c ≠ '\x00')
    (rest : List Char) :
    readCharacters (literalChar c ++ rest) =
      (readCharacters rest).map fun (text, behind) => (c :: text, behind) := by
  by_cases backslash : c = '\\'
  · subst backslash
    cases read : readCharacters rest <;> simp [literalChar, readCharacters, escaped?, read]
  by_cases quote : c = '"'
  · subst quote
    cases read : readCharacters rest <;> simp [literalChar, readCharacters, escaped?, read]
  by_cases line : c = '\n'
  · subst line
    cases read : readCharacters rest <;> simp [literalChar, readCharacters, escaped?, read]
  have itself : literalChar c = [c] := by
    rw [literalChar] <;> assumption
  have allowed : c ∉ ['\\', '\n', '\r', '\x00'] := by simp [backslash, line, noReturn, noNull]
  rw [itself, List.singleton_append, readCharacters, if_neg allowed]
  · exact quote
  · exact fun _ _ same => absurd same backslash

/-- The characters of a literal are read back up to its quote. -/
theorem readCharacters_append (noReturn : '\r' ∉ cs) (noNull : '\x00' ∉ cs) (rest : List Char) :
    readCharacters (cs.flatMap literalChar ++ '"' :: rest) = some (cs, rest) := by
  induction cs with
  | nil => rfl
  | cons c cs ih =>
    obtain ⟨notReturn, noReturn⟩ := not_or.1 (mt List.mem_cons.2 noReturn)
    obtain ⟨notNull, noNull⟩ := not_or.1 (mt List.mem_cons.2 noNull)
    rw [List.flatMap_cons, List.append_assoc,
      readCharacters_literalChar (Ne.symm notReturn) (Ne.symm notNull), ih noReturn noNull]
    rfl

theorem toList_literal (s : String) :
    (literal s).toList = '"' :: (s.toList.flatMap literalChar ++ ['"']) := by
  rw [literal, String.toList_ofList]
  rfl

/-- What is written for a character does not begin with a quote. -/
theorem exists_literalChar (c : Char) : ∃ d ds, literalChar c = d :: ds ∧ d ≠ '"' := by
  unfold literalChar
  split
  · exact ⟨_, _, rfl, by decide⟩
  · exact ⟨_, _, rfl, by decide⟩
  · exact ⟨_, _, rfl, by decide⟩
  · next noBackslash noQuote noLine => exact ⟨c, [], rfl, noQuote⟩

/-- A literal is read back in front of everything but another quote. -/
theorem readLiteral_append (plain : IsPlain s) (noQuote : rest.head? ≠ some '"') :
    readLiteral ((literal s).toList ++ rest) = some (s, rest) := by
  have read := readCharacters_append plain.1 plain.2 rest
  have single (behind : List Char) :
      s.toList.flatMap literalChar ++ '"' :: rest ≠ '"' :: '"' :: behind := by
    intro quotes
    cases letters : s.toList with
    | nil =>
      rw [letters] at quotes
      exact noQuote (congrArg List.head? (List.cons.inj quotes).2)
    | cons c cs =>
      obtain ⟨d, ds, written, other⟩ := exists_literalChar c
      rw [letters, List.flatMap_cons, written] at quotes
      exact other (List.cons.inj quotes).1
  rw [toList_literal, List.cons_append, List.append_assoc, List.singleton_append, readLiteral, read]
  · exact congrArg (fun text => some (text, rest)) String.ofList_toList
  · exact single

/-- A literal is what three replacements give, one after the other: of the backslashes, then of the
quotes, then of the line ends. -/
theorem literal_eq_replaced (s : String) :
    literal s = "\"" ++
      replaceChar '\n' "\\n" (replaceChar '"' "\\\"" (replaceChar '\\' "\\\\" s)) ++ "\"" := by
  have replaced (c : Char) (by_ t : String) : (replaceChar c by_ t).toList =
      t.toList.flatMap fun d => if d = c then by_.toList else [d] := by
    rw [replaceChar, String.toList_join, List.flatMap_map]
    congr 1
    funext d
    split
    · rfl
    · exact String.toList_singleton d
  have each : literalChar = fun c => (if c = '\\' then ['\\', '\\'] else [c]).flatMap fun d =>
      (if d = '"' then ['\\', '"'] else [d]).flatMap fun e =>
        if e = '\n' then ['\\', 'n'] else [e] := by
    funext c
    unfold literalChar
    split
    · rfl
    · rfl
    · rfl
    · next noBackslash noQuote noLine =>
      rw [if_neg noBackslash, List.flatMap_singleton, if_neg noQuote, List.flatMap_singleton,
        if_neg noLine]
  apply String.toList_inj.1
  rw [toList_literal, String.toList_append, String.toList_append, replaced, replaced, replaced,
    List.flatMap_assoc, List.flatMap_assoc, each]
  rfl

end Literals

/-! ## Tables -/

section Tables

variable {rest : List Char} {name value : String} {entries : List (String × String)}

/-- The line of an entry. -/
def entryLine (e : String × String) : String :=
  indent ++ literal e.1 ++ ": " ++ literal e.2 ++ ",\n"

/-- A literal stands behind no blanks. -/
theorem skipBlanks_literal (s : String) (rest : List Char) :
    skipBlanks ((literal s).toList ++ rest) = (literal s).toList ++ rest := by
  rw [toList_literal]
  rfl

theorem toList_entryLine (e : String × String) (rest : List Char) :
    (entryLine e).toList ++ rest = indent.toList ++
      ((literal e.1).toList ++ (':' :: ' ' :: ((literal e.2).toList ++ (',' :: '\n' :: rest)))) := by
  simp [entryLine]

/-- An entry is read back, and what stands behind its line is read on. -/
theorem readEntries_entryLine {e : String × String} (plain : IsPlain e.1 ∧ IsPlain e.2)
    (bound : Nat) (rest : List Char) :
    readEntries (bound + 1) (skipBlanks ((entryLine e).toList ++ rest)) =
      (readEntries bound (skipBlanks rest)).map fun (entries, behind) => (e :: entries, behind) := by
  have nameRead (cs : List Char) :
      readLiteral ((literal e.1).toList ++ ':' :: cs) = some (e.1, ':' :: cs) :=
    readLiteral_append plain.1 (by simp)
  have valueRead (cs : List Char) :
      readLiteral ((literal e.2).toList ++ ',' :: cs) = some (e.2, ',' :: cs) :=
    readLiteral_append plain.2 (by simp)
  have indented (cs : List Char) : skipBlanks (indent.toList ++ cs) = skipBlanks cs := rfl
  have colon (cs : List Char) : readSign ':' (':' :: ' ' :: cs) = some (skipBlanks cs) := rfl
  have comma : readSign ',' (',' :: '\n' :: rest) = some (skipBlanks rest) := rfl
  rw [toList_entryLine, indented, skipBlanks_literal, readEntries, nameRead]
  · simp only [Option.bind_eq_bind, Option.bind_some, colon, skipBlanks_literal, valueRead, comma]
    cases readEntries bound (skipBlanks rest) <;> rfl
  · rw [toList_literal]
    rintro _ ⟨⟩

/-- The lines of entries are read back up to the closing brace. -/
theorem readEntries_lines (plain : ∀ e ∈ entries, IsPlain e.1 ∧ IsPlain e.2) {bound : Nat}
    (enough : entries.length < bound) (rest : List Char) :
    readEntries bound (skipBlanks ((String.join (entries.map entryLine)).toList ++
      '\x7d' :: rest)) = some (entries, rest) := by
  induction entries generalizing bound with
  | nil =>
    obtain ⟨bound, rfl⟩ := Nat.exists_eq_succ_of_ne_zero (Nat.ne_zero_of_lt enough)
    rfl
  | cons e entries ih =>
    obtain ⟨bound, rfl⟩ := Nat.exists_eq_succ_of_ne_zero (Nat.ne_zero_of_lt enough)
    have later := ih (fun other there => plain other (List.mem_cons_of_mem e there))
      (Nat.lt_of_succ_lt_succ enough)
    rw [List.map_cons, String.join_cons, String.toList_append, List.append_assoc,
      readEntries_entryLine (plain e List.mem_cons_self), later]
    rfl

theorem stringTable_of_ne_nil (some : entries ≠ []) :
    stringTable entries = "\x7b\n" ++ String.join (entries.map entryLine) ++ "\x7d" := by
  rw [stringTable, if_neg (by simpa using some)]
  rfl

theorem length_le_lines (entries : List (String × String)) :
    entries.length ≤ (String.join (entries.map entryLine)).toList.length := by
  induction entries with
  | nil => exact Nat.zero_le _
  | cons e entries ih =>
    have line : 0 < (entryLine e).toList.length := by
      simp only [entryLine, String.toList_append, List.length_append, toList_literal,
        List.length_cons]
      omega
    rw [List.map_cons, String.join_cons, String.toList_append, List.length_append,
      List.length_cons]
    omega

end Tables

/-- The literals of a table of strings are what three replacements give, one after the other. Where
no text has a carriage return or a NUL, the table is read back, with its names and values in
order. -/
theorem readTable_stringTable {table : NameTable String} (distinct : table.names.Nodup)
    (plain : ∀ e ∈ table, IsPlain e.1 ∧ IsPlain e.2) :
    (∀ s, literal s = "\"" ++
      replaceChar '\n' "\\n" (replaceChar '"' "\\\"" (replaceChar '\\' "\\\\" s)) ++ "\"") ∧
    ∀ rest, readTable ((stringTable table).toList ++ rest) = some (table, rest) := by
  refine ⟨literal_eq_replaced, fun rest => ?_⟩
  by_cases empty : table = []
  · subst empty
    rfl
  · have text : (stringTable table).toList ++ rest =
        '\x7b' :: '\n' :: ((String.join (table.map entryLine)).toList ++ '\x7d' :: rest) := by
      simp [stringTable_of_ne_nil empty]
    have blank (cs : List Char) : skipBlanks ('\n' :: cs) = skipBlanks cs := rfl
    have enough : table.length < ('\n' ::
        ((String.join (table.map entryLine)).toList ++ '\x7d' :: rest)).length + 1 := by
      have lines := length_le_lines table
      rw [List.length_cons, List.length_append]
      omega
    rw [text, readTable, blank, readEntries_lines plain enough]
    exact congrArg (fun t => some (t, rest)) (NameTable.ofList_of_nodup distinct)

/-- Backslashes, quotes and line ends next to each other, an escape that is none, and empty
texts. -/
theorem readTable_stringTable_escapes :
    (NameTable.names [("\\\"", "\n\\n"), ("", "")]).Nodup ∧
      (∀ e ∈ [("\\\"", "\n\\n"), ("", "")], IsPlain e.1 ∧ IsPlain e.2) ∧
      stringTable [("\\\"", "\n\\n"), ("", "")] =
        "\x7b\n    \"\\\\\\\"\": \"\\n\\\\n\",\n    \"\": \"\",\n\x7d" ∧
      readTable (stringTable [("\\\"", "\n\\n"), ("", "")]).toList =
        some ([("\\\"", "\n\\n"), ("", "")], []) := by
  have distinct : (NameTable.names [("\\\"", "\n\\n"), ("", "")]).Nodup := by decide
  have plain : ∀ e ∈ [("\\\"", "\n\\n"), ("", "")], IsPlain e.1 ∧ IsPlain e.2 := by
    unfold IsPlain
    decide
  have read := (readTable_stringTable distinct plain).2 []
  rw [List.append_nil] at read
  exact ⟨distinct, plain, by decide +kernel, read⟩

/-- A line end that is not escaped stands in no literal. -/
example : readTable "\x7b\"a\": \"\n\"\x7d".toList = none := by decide +kernel

end ViewModifiers.Emit
