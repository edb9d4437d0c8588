import ViewModifiers.Proofs.Stylesheet.Piece
import ViewModifiers.Proofs.Stylesheet.Untyped
import ViewModifiers.Proofs.Text.NameTable

/-!
# Values written out

The values that are read without a schema can be written as stylesheet text: lists and calls in
their brackets, strings and atoms in quotes, other values as they stand. Reading the text gives the
value back (`any_shown`), except for the columns of calls, which are those of the text, and for
whole numbers that are too long to be read at all (`not_every_shown`).
-/

namespace ViewModifiers.Stylesheet

open Source Text Numeral

/-! ## Writing -/

/-- A key in front of what stands under it. -/
def keyedPieces (key : String) (xs : List Piece) : List Piece :=
  .word key :: .sign .colon :: .space :: xs

/-- Items in square brackets. -/
def bracketPieces (items : List (List Piece)) : List Piece :=
  .sign .openBracket :: (joined [.sign .comma, .space] items ++ [.sign .closeBracket])

/-- A value that contains no others. -/
def Value.plainPieces : Value → List Piece
  | null => [.word "nil"]
  | flag b => [.word (if b then "true" else "false")]
  | integer n => [.number n]
  | text s => [.quoted s]
  | atom name => [.atom name]
  | member name => [.sign .dot, .word name]
  | _ => []

/-- A line as a value. -/
def SourceLine.value : SourceLine → Value
  | number n => .integer n
  | flag b => .flag b

/-- What metadata say, under its keys. The column is not written out. -/
def Metadata.entries (m : Metadata Value) : List (String × Value) :=
  ("line", m.line.value) ::
    (m.file.toList.map (("file", .text ·)) ++ m.moduleName.text?.toList.map (("module", .text ·)) ++
      m.source.toList.map (("source", .text ·)))

/-- The start of a call, up to its metadata. -/
def headPieces (name : String) (m : Metadata Value) : List Piece :=
  .sign .openBrace :: .atom name :: .sign .comma :: .space ::
    bracketPieces (m.entries.map fun e => keyedPieces e.1 e.2.plainPieces)

/-- The rest of a call behind its metadata. -/
def argumentPieces (items : List (List Piece)) : List Piece :=
  .sign .comma :: .space :: (bracketPieces items ++ [.sign .closeBrace])

namespace Value

mutual

/-- A value as it is written. -/
def pieces : Value → List Piece
  | .list items => bracketPieces (piecesOfEach items)
  | .pair key value => keyedPieces key (pieces value)
  | .call ⟨name, metadata, arguments, keywords⟩ =>
    headPieces name metadata ++ argumentPieces (piecesOfEach arguments ++ piecesOfKeyed keywords)
  | v => v.plainPieces

/-- Several values. -/
def piecesOfEach : List Value → List (List Piece)
  | [] => []
  | v :: vs => pieces v :: piecesOfEach vs

/-- Several values with their keys. -/
def piecesOfKeyed : List (String × Value) → List (List Piece)
  | [] => []
  | (key, v) :: rest => keyedPieces key (pieces v) :: piecesOfKeyed rest

end

/-- The text of a value. -/
def shown (v : Value) : String := String.ofList (spell v.pieces)

mutual

/-- A value with all columns of its calls forgotten. -/
def withoutColumns : Value → Value
  | .list items => .list (eachWithoutColumns items)
  | .pair key value => .pair key (withoutColumns value)
  | .call ⟨name, metadata, arguments, keywords⟩ =>
    .call ⟨name, { metadata with column := 0 }, eachWithoutColumns arguments,
      keyedWithoutColumns keywords⟩
  | v => v

def eachWithoutColumns : List Value → List Value
  | [] => []
  | v :: vs => withoutColumns v :: eachWithoutColumns vs

def keyedWithoutColumns : List (String × Value) → List (String × Value)
  | [] => []
  | (key, v) :: rest => (key, withoutColumns v) :: keyedWithoutColumns rest

end

end Value

/-! ## What can be written -/

/-- A value that contains no others and can be written, with whole numbers of a certain sort. -/
inductive Value.Plain (IsInteger : Int → Prop) : Value → Prop
  | null : Plain IsInteger .null
  | flag (b : Bool) : Plain IsInteger (.flag b)
  | integer (n : Int) (isInteger : IsInteger n) : Plain IsInteger (.integer n)
  | text (s : String) : Plain IsInteger (.text s)
  | atom (name : String) : Plain IsInteger (.atom name)
  | member (name : String) (isName : Piece.IsName name) : Plain IsInteger (.member name)

/-- Metadata that can be written: the module, if there is one, is a text. -/
structure Metadata.Writable (IsInteger : Int → Prop) (m : Metadata Value) : Prop where
  line : ∀ n, m.line = .number n → IsInteger n
  moduleName : m.moduleName = .null ∨ ∃ s, m.moduleName = .text s

/-- An item of a list as an entry. -/
def Value.entryOf : Value → Option String × Value
  | pair key value => (some key, value)
  | v => (none, v)

/-- A value that can be written, with whole numbers of a certain sort. -/
inductive Value.Writable (IsInteger : Int → Prop) : Value → Prop
  | plain (v : Value) (isPlain : v.Plain IsInteger) : Writable IsInteger v
  | list (items : List Value)
      (keys : ∀ v ∈ items, ∀ key, v.entryOf.1 = some key → Piece.IsName key)
      (values : ∀ v ∈ items, Writable IsInteger v.entryOf.2) : Writable IsInteger (.list items)
  | call (c : Call Value) (metadata : c.metadata.Writable IsInteger)
      (arguments : ∀ v ∈ c.arguments, Writable IsInteger v)
      (keys : ∀ k ∈ c.keywords, Piece.IsName k.1)
      (values : ∀ k ∈ c.keywords, Writable IsInteger k.2)
      (distinct : (NameTable.names c.keywords).Nodup) : Writable IsInteger (.call c)

/-- The arguments of a call as entries. -/
def Call.entries (c : Call Value) : List (Option String × Value) :=
  c.arguments.map (none, ·) ++ c.keywords.map fun k => (some k.1, k.2)

/-- An entry as it is written. -/
def entryPieces (e : Option String × Value) : List Piece :=
  match e.1 with
  | some key => keyedPieces key e.2.pieces
  | none => e.2.pieces

/-- An entry with the columns in its value forgotten. -/
def forgetColumns (e : Option String × Value) : Option String × Value := (e.1, e.2.withoutColumns)

namespace Value

variable {IsInteger : Int → Prop} {v : Value}

theorem pieces_eq_entryPieces (v : Value) : v.pieces = entryPieces v.entryOf := by
  cases v <;> rfl

theorem piecesOfEach_eq_map (vs : List Value) : piecesOfEach vs = vs.map pieces := by
  induction vs with
  | nil => rfl
  | cons v vs ih => rw [piecesOfEach, ih, List.map_cons]

theorem piecesOfKeyed_eq_map (entries : List (String × Value)) :
    piecesOfKeyed entries = entries.map fun e => keyedPieces e.1 e.2.pieces := by
  induction entries with
  | nil => rfl
  | cons e rest ih =>
    obtain ⟨key, v⟩ := e
    rw [piecesOfKeyed, ih, List.map_cons]

theorem eachWithoutColumns_eq_map (vs : List Value) :
    eachWithoutColumns vs = vs.map withoutColumns := by
  induction vs with
  | nil => rfl
  | cons v vs ih => rw [eachWithoutColumns, ih, List.map_cons]

theorem keyedWithoutColumns_eq_map (entries : List (String × Value)) :
    keyedWithoutColumns entries = entries.map fun e => (e.1, e.2.withoutColumns) := by
  induction entries with
  | nil => rfl
  | cons e rest ih =>
    obtain ⟨key, v⟩ := e
    rw [keyedWithoutColumns, ih, List.map_cons]

theorem pieces_list (items : List Value) :
    (Value.list items).pieces = bracketPieces ((items.map entryOf).map entryPieces) := by
  rw [pieces, piecesOfEach_eq_map, List.map_map]
  exact congrArg bracketPieces (List.map_congr_left fun v _ => pieces_eq_entryPieces v)

theorem pieces_call (c : Call Value) :
    (Value.call c).pieces =
      headPieces c.name c.metadata ++ argumentPieces (c.entries.map entryPieces) := by
  obtain ⟨name, metadata, arguments, keywords⟩ := c
  rw [pieces, piecesOfEach_eq_map, piecesOfKeyed_eq_map, Call.entries, List.map_append,
    List.map_map, List.map_map]
  rfl

theorem Plain.pieces_eq (plain : v.Plain IsInteger) : v.pieces = v.plainPieces := by
  cases plain <;> rw [pieces] <;> nofun

end Value

/-! ## Scanning what was written -/

/-- Pieces fit in front of everything that may stand behind a value. -/
def Stands (xs : List Piece) : Prop := ∀ rest, Apart rest → Fitting xs rest

section Scanning

variable {IsInteger : Int → Prop} {xs : List Piece} {items : List (List Piece)}

theorem stands_keyedPieces {key : String} (isName : Piece.IsName key) (stands : Stands xs) :
    Stands (keyedPieces key xs) := by
  intro rest apart
  have fitsKey : (Piece.word key).Fits (':' :: ' ' :: (spell xs ++ rest)) :=
    Piece.fits_word isName (apart_cons (by decide))
  exact ⟨fitsKey, Piece.fits_colon _, Piece.fits_space _, stands rest apart⟩

theorem fitting_bracketPieces (each : ∀ xs ∈ items, Stands xs) (rest : List Char) :
    Fitting (bracketPieces items) rest := by
  refine ⟨Piece.fits_sign (by decide) _, ?_⟩
  have inner (rest : List Char) (apart : Apart rest) :
      Fitting (joined [.sign .comma, .space] items) rest := by
    refine fitting_joined each (fun _ => apart_cons (by decide)) (fun _ => ?_) apart
    exact ⟨Piece.fits_sign (by decide) _, Piece.fits_space _, trivial⟩
  exact (inner _ (apart_cons (by decide))).append ⟨Piece.fits_sign (by decide) _, trivial⟩

theorem fitting_argumentPieces (each : ∀ xs ∈ items, Stands xs) (rest : List Char) :
    Fitting (argumentPieces items) rest := by
  refine ⟨Piece.fits_sign (by decide) _, Piece.fits_space _, ?_⟩
  exact (fitting_bracketPieces each _).append ⟨Piece.fits_sign (by decide) _, trivial⟩

theorem isName_of_word {name : String} (known : name ∈ ["nil", "true", "false", "line", "file",
    "module", "source"]) : Piece.IsName name := by
  simp only [List.mem_cons, List.not_mem_nil, or_false] at known
  rcases known with rfl | rfl | rfl | rfl | rfl | rfl | rfl <;>
    exact Piece.isName_of_chars rfl (by decide) (by decide)

theorem Value.Plain.stands {v : Value} (plain : v.Plain IsInteger) : Stands v.plainPieces := by
  intro rest apart
  cases plain with
  | null => exact ⟨Piece.fits_word (isName_of_word (by decide)) apart, trivial⟩
  | flag b =>
    refine ⟨Piece.fits_word (isName_of_word ?_) apart, trivial⟩
    cases b <;> decide
  | integer n _ => exact ⟨Piece.fits_number n apart, trivial⟩
  | text s => exact ⟨Piece.fits_quoted s rest, trivial⟩
  | atom name => exact ⟨Piece.fits_atom name rest, trivial⟩
  | member name isName =>
    exact ⟨Piece.fits_sign (by decide) _, Piece.fits_word isName apart, trivial⟩

theorem Metadata.Writable.plain {m : Metadata Value} (writable : m.Writable IsInteger) :
    ∀ e ∈ m.entries, Piece.IsName e.1 ∧ e.2.Plain IsInteger := by
  intro e there
  simp only [Metadata.entries, List.mem_cons, List.mem_append, List.mem_map, Option.mem_toList]
    at there
  rcases there with rfl | (⟨s, -, rfl⟩ | ⟨s, -, rfl⟩) | ⟨s, -, rfl⟩
  · refine ⟨isName_of_word (by simp), ?_⟩
    rcases line : m.line with n | b
    · exact .integer n (writable.line n line)
    · exact .flag b
  · exact ⟨isName_of_word (by simp), .text s⟩
  · exact ⟨isName_of_word (by simp), .text s⟩
  · exact ⟨isName_of_word (by simp), .text s⟩

theorem fitting_headPieces (name : String) {m : Metadata Value}
    (writable : m.Writable IsInteger) (rest : List Char) :
    Fitting (headPieces name m) rest := by
  refine ⟨Piece.fits_sign (by decide) _, Piece.fits_atom name _, Piece.fits_sign (by decide) _,
    Piece.fits_space _, fitting_bracketPieces ?_ rest⟩
  intro xs there
  obtain ⟨e, known, rfl⟩ := List.mem_map.1 there
  obtain ⟨isName, plain⟩ := writable.plain e known
  exact stands_keyedPieces isName plain.stands

theorem stands_entryPieces {e : Option String × Value}
    (isKey : ∀ key, e.1 = some key → Piece.IsName key) (stands : Stands e.2.pieces) :
    Stands (entryPieces e) := by
  rcases known : e.1 with _ | key
  · rwa [entryPieces, known]
  · rw [entryPieces, known]
    exact stands_keyedPieces (isKey key known) stands

/-- A value that can be written fits in front of everything that may stand behind it. -/
theorem Value.Writable.stands {v : Value} (writable : v.Writable IsInteger) : Stands v.pieces := by
  intro rest apart
  induction writable generalizing rest with
  | plain v plain =>
    rw [plain.pieces_eq]
    exact plain.stands rest apart
  | list items keys _ ih =>
    rw [pieces_list]
    refine fitting_bracketPieces ?_ rest
    simp only [List.forall_mem_map]
    exact fun v there => stands_entryPieces (keys v there) (ih v there)
  | call c metadata _ keys _ _ ihArguments ihKeywords =>
    rw [pieces_call]
    refine (fitting_headPieces c.name metadata _).append (fitting_argumentPieces ?_ rest)
    simp only [Call.entries, List.map_append, List.forall_mem_append, List.forall_mem_map]
    refine ⟨fun v there => stands_entryPieces nofun (ihArguments v there), fun k there => ?_⟩
    refine stands_entryPieces ?_ (ihKeywords k there)
    rintro key known
    cases known
    exact keys k there

end Scanning

/-! ## Reading what was written -/

/-- The whole numbers that are not too long to be read. -/
def IsShort (n : Int) : Prop := n.natAbs < 10 ^ digitLimit

section Reading

variable {α γ : Type} (kind : PhraseKind) {xs : List α} {f : α → List Piece}
  (g : kind.Meaning → γ) (h : α → γ)

theorem isFractional_toString (n : Int) : Reader.isFractional (toString n) = false := by
  have digits :
      (Nat.toDigits 10 n.natAbs).any (fun c => c = '.' || c = 'e' || c = 'E') = false := by
    rw [List.any_eq_false]
    intro c there
    have bounds := allDigits_toDigits n.natAbs c there
    have others : c ≠ '.' ∧ c ≠ 'e' ∧ c ≠ 'E' := by
      refine ⟨?_, ?_, ?_⟩ <;> rintro rfl <;> revert bounds <;> decide
    simp [others]
  rw [Reader.isFractional, toList_toString]
  split
  · exact digits
  · rw [List.any_cons, digits]
    rfl

/-- A plain value is read as itself. -/
theorem Value.Plain.means {v : Value} (plain : v.Plain IsShort) (p : Position) :
    Means .value (placed p v.plainPieces) v := by
  cases plain with
  | null => exact .word ⟨.name, "nil", p⟩ rfl
  | flag b => cases b <;> exact .word ⟨.name, _, p⟩ rfl
  | integer n short =>
    refine .integer ⟨.number, toString n, p⟩ rfl (isFractional_toString n) n ?_
    rw [readInteger?_toString]
    exact if_pos short
  | text s => exact .text ⟨.string, s, p⟩ rfl
  | atom name => exact .atom ⟨.atom, name, p⟩ rfl
  | member name _ => exact .member ⟨.dot, ".", p⟩ ⟨.name, name, p.after ['.']⟩ rfl rfl

theorem means_keyedPieces (key : String) {xs : List Piece} {v : Value} (p : Position)
    (value : ∀ q, Means .value (placed q xs) v) :
    Means .pair (placed p (keyedPieces key xs)) (key, v) :=
  .pair ⟨.name, key, p⟩ ⟨.colon, ":", p.after key.toList⟩ rfl rfl _ v (value _)

/-- Items that were written with commas between them. What each of them means is known up to some
function. -/
theorem exists_separated
    (each : ∀ x ∈ xs, ∀ p, ∃ meaning, Means kind (placed p (f x)) meaning ∧ g meaning = h x)
    (p : Position) :
    ∃ items : List (List Token × kind.Meaning),
      Separated (items.map (·.1)) (placed p (joined [.sign .comma, .space] (xs.map f))) ∧
        (∀ i ∈ items, Means kind i.1 i.2) ∧ (items.map (·.2)).map g = xs.map h := by
  induction xs generalizing p with
  | nil => exact ⟨[], .none, nofun, rfl⟩
  | cons x xs ih =>
    obtain ⟨meaning, means, same⟩ := each x List.mem_cons_self p
    have later := ih fun y there => each y (List.mem_cons_of_mem x there)
    cases xs with
    | nil =>
      refine ⟨[(placed p (f x), meaning)], .last _, ?_, ?_⟩
      · exact List.forall_mem_singleton.2 means
      · simp [same]
    | cons y xs =>
      rw [List.map_cons, List.map_cons, joined, List.append_assoc, placed_append]
      obtain ⟨items, separated, each, allSame⟩ :=
        later (((p.after (spell (f x))).after [',']).after [' '])
      refine ⟨(placed p (f x), meaning) :: items, ?_, List.forall_mem_cons.2 ⟨means, each⟩, ?_⟩
      · exact .more _ ⟨.comma, ",", p.after (spell (f x))⟩ rfl _ _ separated
      · rw [List.map_cons, List.map_cons, same, allSame, ← List.map_cons]

/-- Items that were written in brackets. -/
theorem exists_bracketed
    (each : ∀ x ∈ xs, ∀ p, ∃ meaning, Means kind (placed p (f x)) meaning ∧ g meaning = h x)
    (p : Position) :
    ∃ items : List (List Token × kind.Meaning),
      Bracketed (items.map (·.1)) (placed p (bracketPieces (xs.map f))) ∧
        (∀ i ∈ items, Means kind i.1 i.2) ∧ (items.map (·.2)).map g = xs.map h := by
  obtain ⟨items, separated, means, same⟩ := exists_separated kind g h each (p.after ['['])
  refine ⟨items, ?_, means, same⟩
  have inner := placed_append (p.after ['['])
    (joined [.sign .comma, .space] (xs.map f)) [.sign .closeBracket]
  change Bracketed _ (_ :: placed (p.after ['[']) _)
  rw [inner]
  exact .mk ⟨.openBracket, "[", p⟩ ⟨.closeBracket, "]", _⟩ rfl rfl _ separated

/-- What metadata say is put back under its keys. -/
theorem metadataOf_entries {m : Metadata Value} {IsInteger : Int → Prop}
    (writable : m.Writable IsInteger) (start : Token) :
    Reader.metadataOf start (.ofList m.entries) = { m with column := start.position.column } := by
  obtain ⟨line, column, file, moduleName, source⟩ := m
  have isLine : line.value.line? = some line := by cases line <;> rfl
  have isModule : moduleName = .null ∨ ∃ s, moduleName = .text s := writable.moduleName
  rcases isModule with rfl | ⟨s, rfl⟩ <;> rcases file with _ | file <;>
    rcases source with _ | source <;>
    simp [Reader.metadataOf, Metadata.entries, NameTable.ofList, NameTable.putAll, NameTable.put,
      NameTable.get?, Value.text?, Reader.moduleNameOf, isLine]

/-- The start of a call is read with the column where its metadata stand. -/
theorem exists_means_headPieces (name : String) {m : Metadata Value} (writable : m.Writable IsShort)
    (p : Position) :
    ∃ column, Means .head (placed p (headPieces name m)) (name, { m with column := column }) := by
  have each : ∀ e ∈ m.entries, ∀ q, ∃ meaning : String × Value,
      Means .pair (placed q (keyedPieces e.1 e.2.plainPieces)) meaning ∧ meaning = e :=
    fun e there q => ⟨e, means_keyedPieces e.1 q (writable.plain e there).2.means, rfl⟩
  let comma := (p.after ['\x7b']).after (Piece.atom name).spelling
  let opening := (comma.after [',']).after [' ']
  obtain ⟨items, list, means, same⟩ := exists_bracketed .pair id id each opening
  rw [List.map_id, List.map_id] at same
  have head := Means.head ⟨.openBrace, "\x7b", p⟩ ⟨.atom, name, p.after ['\x7b']⟩
    ⟨.comma, ",", comma⟩ rfl (.inl rfl) rfl items ⟨.openBracket, "[", opening⟩ _ list means
  rw [same, metadataOf_entries writable] at head
  exact ⟨_, head⟩

/-- The rest of a call is read as entries that are known up to columns. -/
theorem exists_means_argumentPieces {es : List (Option String × Value)}
    (each : ∀ e ∈ es, ∀ p, ∃ e', Means .entry (placed p (entryPieces e)) e' ∧
      forgetColumns e' = forgetColumns e) (p : Position) :
    ∃ found : List (Option String × Value),
      Means .arguments (placed p (argumentPieces (es.map entryPieces)))
        (Reader.unkeyed found, Reader.keyed found) ∧
      found.map forgetColumns = es.map forgetColumns := by
  let opening := (p.after [',']).after [' ']
  obtain ⟨items, list, means, same⟩ :=
    exists_bracketed .entry forgetColumns forgetColumns each opening
  refine ⟨items.map (·.2), .arguments items _ ?_ means, same⟩
  have inner := placed_append opening (bracketPieces (es.map entryPieces)) [.sign .closeBrace]
  change ArgumentList _ (_ :: placed opening _)
  rw [inner]
  exact .listed ⟨.comma, ",", p⟩ ⟨.closeBrace, "\x7d", _⟩ rfl rfl _ _ list

/-! ### Entries -/

theorem exists_means_entryPieces {e : Option String × Value}
    (value : ∀ p, ∃ v, Means .value (placed p e.2.pieces) v ∧
      v.withoutColumns = e.2.withoutColumns) (p : Position) :
    ∃ e', Means .entry (placed p (entryPieces e)) e' ∧ forgetColumns e' = forgetColumns e := by
  obtain ⟨key, v⟩ := e
  cases key with
  | none =>
    obtain ⟨v', means, same⟩ := value p
    exact ⟨(none, v'), .plain _ v' means, congrArg (Prod.mk none) same⟩
  | some key =>
    let start := ((p.after key.toList).after [':']).after [' ']
    obtain ⟨v', means, same⟩ := value start
    have pair := Means.pair ⟨.name, key, p⟩ ⟨.colon, ":", p.after key.toList⟩ rfl rfl _ v' means
    exact ⟨(some key, v'), .keyed _ (key, v') pair, congrArg (Prod.mk (some key)) same⟩

theorem withoutColumns_entryValue (e : Option String × Value) :
    (Reader.entryValue e).withoutColumns = Reader.entryValue (forgetColumns e) := by
  obtain ⟨key, v⟩ := e
  cases key <;> rfl

theorem entryValue_entryOf (v : Value) : Reader.entryValue v.entryOf = v := by
  cases v <;> rfl

/-- Entries that are the same up to columns are the same items up to columns. -/
theorem map_withoutColumns_of_forgetColumns {found : List (Option String × Value)}
    {items : List Value}
    (same : found.map forgetColumns = (items.map Value.entryOf).map forgetColumns) :
    (found.map Reader.entryValue).map Value.withoutColumns = items.map Value.withoutColumns := by
  have values := congrArg (List.map Reader.entryValue) same
  simp only [List.map_map] at values ⊢
  refine Eq.trans ?_ (values.trans ?_)
  · exact List.map_congr_left fun e _ => withoutColumns_entryValue e
  · refine List.map_congr_left fun v _ => ?_
    change Reader.entryValue (forgetColumns v.entryOf) = _
    rw [← withoutColumns_entryValue, entryValue_entryOf]

/-- A keyword with the columns in its value forgotten. -/
def forgetKeyed (e : String × Value) : String × Value := (e.1, e.2.withoutColumns)

/-- The entries with a key, in order. -/
def keyedEntries (es : List (Option String × Value)) : List (String × Value) :=
  es.filterMap fun e => e.1.map (·, e.2)

theorem keyed_eq_ofList (es : List (Option String × Value)) :
    Reader.keyed es = .ofList (keyedEntries es) := by
  rw [Reader.keyed, keyedEntries]
  congr
  funext e
  rcases e with ⟨_ | key, v⟩ <;> rfl

theorem unkeyed_forgetColumns (es : List (Option String × Value)) :
    Reader.unkeyed (es.map forgetColumns) = (Reader.unkeyed es).map Value.withoutColumns := by
  rw [Reader.unkeyed, Reader.unkeyed, List.filterMap_map, List.map_filterMap]
  congr
  funext e
  rcases e with ⟨_ | key, v⟩ <;> rfl

theorem keyedEntries_forgetColumns (es : List (Option String × Value)) :
    keyedEntries (es.map forgetColumns) = (keyedEntries es).map forgetKeyed := by
  rw [keyedEntries, keyedEntries, List.filterMap_map, List.map_filterMap]
  congr
  funext e
  rcases e with ⟨_ | key, v⟩ <;> rfl

theorem unkeyed_entries (c : Call Value) : Reader.unkeyed c.entries = c.arguments := by
  simp [Reader.unkeyed, Call.entries, List.filterMap_map]

theorem keyedEntries_entries (c : Call Value) : keyedEntries c.entries = c.keywords := by
  simp [keyedEntries, Call.entries, List.filterMap_map]

/-- Entries that are the same as those of a call up to columns are its arguments and keywords. -/
theorem unkeyed_keyed_of_forgetColumns {c : Call Value} {found : List (Option String × Value)}
    (distinct : (NameTable.names c.keywords).Nodup)
    (same : found.map forgetColumns = c.entries.map forgetColumns) :
    (Reader.unkeyed found).map Value.withoutColumns = c.arguments.map Value.withoutColumns ∧
      (Reader.keyed found).map forgetKeyed = c.keywords.map forgetKeyed := by
  have arguments := congrArg Reader.unkeyed same
  have keywords := congrArg keyedEntries same
  rw [unkeyed_forgetColumns, unkeyed_forgetColumns, unkeyed_entries] at arguments
  rw [keyedEntries_forgetColumns, keyedEntries_forgetColumns, keyedEntries_entries] at keywords
  have names : NameTable.names (keyedEntries found) = NameTable.names c.keywords := by
    have keys := congrArg (List.map Prod.fst) keywords
    rwa [List.map_map, List.map_map] at keys
  refine ⟨arguments, ?_⟩
  rw [keyed_eq_ofList, NameTable.ofList_of_nodup (names ▸ distinct), keywords]

/-! ### Values -/

theorem withoutColumns_list (items : List Value) :
    (Value.list items).withoutColumns = .list (items.map Value.withoutColumns) := by
  rw [Value.withoutColumns, Value.eachWithoutColumns_eq_map]

theorem withoutColumns_call (name : String) (m : Metadata Value) (arguments : List Value)
    (keywords : List (String × Value)) :
    (Value.call ⟨name, m, arguments, keywords⟩).withoutColumns =
      .call ⟨name, { m with column := 0 }, arguments.map Value.withoutColumns,
        keywords.map forgetKeyed⟩ := by
  rw [Value.withoutColumns, Value.eachWithoutColumns_eq_map, Value.keyedWithoutColumns_eq_map]
  rfl

/-- A value that can be written means itself, up to columns. -/
theorem Value.Writable.exists_means {v : Value} (writable : v.Writable IsShort) (p : Position) :
    ∃ v', Means .value (placed p v.pieces) v' ∧ v'.withoutColumns = v.withoutColumns := by
  induction writable generalizing p with
  | plain v plain => exact ⟨v, by rw [plain.pieces_eq]; exact plain.means p, rfl⟩
  | list items keys _ ih =>
    have each : ∀ e ∈ items.map Value.entryOf, ∀ p, ∃ e',
        Means .entry (placed p (entryPieces e)) e' ∧ forgetColumns e' = forgetColumns e := by
      simp only [List.forall_mem_map]
      exact fun v there => exists_means_entryPieces (ih v there)
    obtain ⟨found, list, means, same⟩ :=
      exists_bracketed .entry forgetColumns forgetColumns each p
    refine ⟨.list ((found.map (·.2)).map Reader.entryValue), ?_, ?_⟩
    · rw [pieces_list]
      exact .list found _ list means
    · rw [withoutColumns_list, withoutColumns_list, map_withoutColumns_of_forgetColumns same]
  | call c metadata _ _ _ distinct ihArguments ihKeywords =>
    have each : ∀ e ∈ c.entries, ∀ p, ∃ e',
        Means .entry (placed p (entryPieces e)) e' ∧ forgetColumns e' = forgetColumns e := by
      simp only [Call.entries, List.forall_mem_append, List.forall_mem_map]
      exact ⟨fun v there => exists_means_entryPieces (ihArguments v there),
        fun k there => exists_means_entryPieces (ihKeywords k there)⟩
    obtain ⟨column, head⟩ := exists_means_headPieces c.name metadata p
    obtain ⟨found, rest, same⟩ :=
      exists_means_argumentPieces each (p.after (spell (headPieces c.name c.metadata)))
    obtain ⟨arguments, keywords⟩ := unkeyed_keyed_of_forgetColumns distinct same
    refine ⟨.call ⟨c.name, { c.metadata with column := column }, Reader.unkeyed found,
      Reader.keyed found⟩, ?_, ?_⟩
    · rw [pieces_call, placed_append]
      exact .call _ _ _ _ head rest
    · rw [withoutColumns_call, arguments, keywords]
      exact (withoutColumns_call c.name c.metadata c.arguments c.keywords).symm

/-- The text of a value has tokens; and unless there are whole numbers in it that are too long to be
read, reading them gives the value back, up to columns, and nothing is left. -/
theorem any_shown {v : Value} (writable : v.Writable fun _ => True) :
    ∃ c, scan v.shown = .ok c ∧
      (v.Writable IsShort → ∃ v', Reader.any.run' c = (.ok v', ⟨[], c.finish⟩) ∧
        v'.withoutColumns = v.withoutColumns) := by
  refine ⟨_, scan_of_fitting (writable.stands [] apart_nil), fun short => ?_⟩
  obtain ⟨v', means, same⟩ := short.exists_means .start
  refine ⟨v', ?_, same⟩
  have run := Reader.takes_any means [] (Position.start.after (spell v.pieces))
  rwa [List.append_nil] at run

/-- A list with a key and a call in it. -/
def sample : Value :=
  .list [.null, .pair "ok?" (.list [.member "a", .atom "b c"]),
    .call ⟨"fade", ⟨.number 7, 0, some "a \"b\"\n", .text "M", none⟩, [.integer (-12), .text "\\"],
      [("on", .flag true)]⟩]

example : sample.shown =
    "[nil, ok?: [.a, :\"b c\"], \x7b:\"fade\", [line: 7, file: \"a \\\"b\\\"\\n\", " ++
      "module: \"M\"], [-12, \"\\\\\", on: true]\x7d]" := by
  decide

theorem writable_sample {IsInteger : Int → Prop} (line : IsInteger 7) (argument : IsInteger (-12)) :
    sample.Writable IsInteger := by
  have isName (name : String) (known : name ∈ ["ok?", "a", "on"]) : Piece.IsName name := by
    simp only [List.mem_cons, List.not_mem_nil, or_false] at known
    rcases known with rfl | rfl | rfl <;> exact Piece.isName_of_chars rfl (by decide) (by decide)
  have inner : (Value.list [.member "a", .atom "b c"]).Writable IsInteger := by
    refine .list _ ?_ ?_
    · simp [Value.entryOf]
    · simp only [List.forall_mem_cons]
      exact ⟨.plain _ (.member "a" (isName "a" (by simp))), .plain _ (.atom "b c"), nofun⟩
  refine .list _ ?_ ?_
  · simp [Value.entryOf, isName]
  · simp only [List.forall_mem_cons]
    refine ⟨.plain _ .null, inner, .call _ ⟨?_, .inr ⟨"M", rfl⟩⟩ ?_ ?_ ?_ ?_, nofun⟩
    · rintro n ⟨⟩
      exact line
    · simp only [List.forall_mem_cons]
      exact ⟨.plain _ (.integer _ argument), .plain _ (.text _), nofun⟩
    · simp [isName]
    · simp only [List.forall_mem_cons]
      exact ⟨.plain _ (.flag true), nofun⟩
    · decide

theorem any_shown_sample :
    ∃ c, scan sample.shown = .ok c ∧ ∃ v', Reader.any.run' c = (.ok v', ⟨[], c.finish⟩) ∧
      v'.withoutColumns = sample.withoutColumns := by
  have short (n : Int) (small : n.natAbs < 10 ^ 2) : IsShort n :=
    Nat.lt_of_lt_of_le small (Nat.pow_le_pow_right (by decide) (by decide))
  obtain ⟨c, scanned, reads⟩ := any_shown (writable_sample trivial trivial)
  exact ⟨c, scanned, reads (writable_sample (short 7 (by decide)) (short (-12) (by decide)))⟩

/-- A number with one more digit than can be read is not given back. -/
theorem not_every_shown :
    ¬∀ v : Value, v.Writable (fun _ => True) →
      ∃ c, scan v.shown = .ok c ∧ ∃ v', Reader.any.run' c = (.ok v', ⟨[], c.finish⟩) ∧
        v'.withoutColumns = v.withoutColumns := by
  intro claim
  obtain ⟨n, long⟩ : ∃ n : Int, ¬IsShort n :=
    ⟨((10 ^ digitLimit : Nat) : Int), by rw [IsShort, Int.natAbs_natCast]; exact Nat.lt_irrefl _⟩
  have writable : (Value.integer n).Writable fun _ => True := .plain _ (.integer n trivial)
  obtain ⟨c, scanned, v', read, -⟩ := claim (.integer n) writable
  have tokens : scan (Value.integer n).shown = .ok ⟨[⟨.number, toString n, .start⟩], _⟩ :=
    scan_of_fitting (writable.stands [] apart_nil)
  have number : readInteger? (toString n).toList = none := by
    rw [readInteger?_toString]
    exact if_neg long
  have fails (finish : Position) :
      Reader.any.run' ⟨[⟨.number, toString n, .start⟩], finish⟩ =
        (.error (.unreadableNumber (toString n)), ⟨[], finish⟩) := by
    change (Reader.numberOf (toString n)).run' ⟨[], finish⟩ = _
    rw [Reader.numberOf, isFractional_toString, if_neg Bool.false_ne_true, Reader.integerOf, number]
    rfl
  rw [tokens] at scanned
  cases scanned
  rw [fails] at read
  cases read

end Reading

end ViewModifiers.Stylesheet
