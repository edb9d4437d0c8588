import ViewModifiers.Interface.TypeReader
import ViewModifiers.Proofs.Interface.Piece

/-!
# Types in pieces

The spelling of a type is cut into pieces along the type. A type whose spelling needs no parentheses
of grouping is one of four forms, from the types that marks may stand behind to the types with
attributes (`Ungrouped`). The pieces of such a type all fit (`Ungrouped.stands`).
-/

namespace ViewModifiers.Interface

open Source Text

/-! ## Cutting a spelling -/

/-- Pieces with commas between them. -/
def commaPieces (items : List (List Piece)) : List Piece := joined [.sign .comma, .space] items

/-- Generic arguments in angle brackets; nothing at all if there are none. -/
def argumentPieces (items : List (List Piece)) : List Piece :=
  if items.isEmpty then []
  else .sign .lessThan :: (commaPieces items ++ [.sign .greaterThan])

/-- Items in parentheses. -/
def parenPieces (items : List (List Piece)) : List Piece :=
  .sign .openParen :: (commaPieces items ++ [.sign .closeParen])

/-- A tuple element with its label; an empty label counts as none. -/
def labelledPieces (label : Option String) (xs : List Piece) : List Piece :=
  match label with
  | none => xs
  | some l => if l = "" then xs else .word l :: .sign .colon :: .space :: xs

/-- The effects of a function, as they stand between parameters and arrow. -/
def effectPieces (isAsync throws : Bool) : List Piece :=
  (if isAsync then [.space, .word "async"] else []) ++
    if throws then [.space, .word "throws"] else []

/-- Attributes in front of a type. -/
def attributePieces (attributes : List String) : List Piece :=
  attributes.flatMap fun a => [.sign .atSign, .word a, .space]

/-- A specifier in front of a type. -/
def specifierPieces (specifier : Option String) : List Piece :=
  (specifier.toList.filter (· ≠ "")).flatMap fun s => [.word s, .space]

namespace TypeExpr

mutual

/-- The pieces of a type. -/
def pieces : TypeExpr → List Piece
  | named name arguments => .word name :: argumentPieces (piecesOfEach arguments)
  | member base name arguments =>
    pieces base ++ .sign .dot :: .word name :: argumentPieces (piecesOfEach arguments)
  | optional wrapped implicit => pieces wrapped ++ [.sign (if implicit then .bang else .question)]
  | array element => .sign .openBracket :: (pieces element ++ [.sign .closeBracket])
  | dictionary key value =>
    .sign .openBracket :: (pieces key ++
      .sign .colon :: .space :: (pieces value ++ [.sign .closeBracket]))
  | tuple elements => parenPieces (elementPieces elements)
  | function parameters result isAsync throws =>
    parenPieces (piecesOfEach parameters) ++
      (effectPieces isAsync throws ++ .space :: .sign .arrow :: .space :: pieces result)
  | attributed attributes specifier base =>
    attributePieces attributes ++ (specifierPieces specifier ++ pieces base)
  | quantified word bound => .word word.spelling :: .space :: pieces bound
  | composition types => joined [.space, .sign .ampersand, .space] (piecesOfEach types)
  | metatype base kind => pieces base ++ [.sign .dot, .word kind.spelling]
  | variadic element => pieces element ++ [.sign .ellipsis]

/-- The pieces of several types. -/
def piecesOfEach : List TypeExpr → List (List Piece)
  | [] => []
  | t :: ts => pieces t :: piecesOfEach ts

/-- The pieces of tuple elements. -/
def elementPieces : List (Option String × TypeExpr) → List (List Piece)
  | [] => []
  | (label, t) :: es => labelledPieces label (pieces t) :: elementPieces es

end

theorem piecesOfEach_eq_map (ts : List TypeExpr) : piecesOfEach ts = ts.map pieces := by
  induction ts with
  | nil => rfl
  | cons t ts ih => rw [piecesOfEach, ih, List.map_cons]

theorem elementPieces_eq_map (es : List (Option String × TypeExpr)) :
    elementPieces es = es.map fun e => labelledPieces e.1 e.2.pieces := by
  induction es with
  | nil => rfl
  | cons e es ih =>
    obtain ⟨label, t⟩ := e
    rw [elementPieces, ih, List.map_cons]

end TypeExpr

/-! ## The spelling put together -/

@[simp] theorem spell_word (name : String) (xs : List Piece) :
    spell (Piece.word name :: xs) = name.toList ++ spell xs := spell_cons _ _

@[simp] theorem spell_sign (kind : TokenKind) (xs : List Piece) :
    spell (Piece.sign kind :: xs) = kind.label.toList ++ spell xs := spell_cons _ _

@[simp] theorem spell_space (xs : List Piece) : spell (Piece.space :: xs) = ' ' :: spell xs :=
  spell_cons _ _

/-- Texts with a text between them are spelled by pieces with pieces between them. -/
theorem spell_joined {between : List Piece} {items : List (List Piece)} {texts : List String}
    (separator : String) (separates : spell between = separator.toList)
    (each : items.map spell = texts.map String.toList) :
    spell (joined between items) = (joinWith separator texts).toList := by
  induction items generalizing texts with
  | nil =>
    obtain rfl := List.map_eq_nil_iff.1 each.symm
    rfl
  | cons xs items ih =>
    obtain ⟨s, rest, rfl, first, later⟩ := List.map_eq_cons_iff.1 each.symm
    cases items with
    | nil =>
      obtain rfl := List.map_eq_nil_iff.1 later
      exact first.symm
    | cons ys items =>
      obtain ⟨t, rest, rfl, -⟩ := List.map_eq_cons_iff.1 later
      rw [joined, spell_append, spell_append, separates, ih later.symm, ← first, joinWith,
        String.toList_append, String.toList_append]

theorem spell_argumentPieces {items : List (List Piece)} {texts : List String}
    (each : items.map spell = texts.map String.toList) :
    spell (argumentPieces items) = (TypeExpr.argumentList texts).toList := by
  have same : items.isEmpty = texts.isEmpty := by
    cases items <;> cases texts <;> first | rfl | cases each
  rw [argumentPieces, TypeExpr.argumentList, same]
  split
  · rfl
  · rw [spell_sign, spell_append, commaPieces, spell_joined ", " rfl each]
    simp [TokenKind.label]

theorem spell_parenPieces {items : List (List Piece)} {texts : List String}
    (each : items.map spell = texts.map String.toList) :
    spell (parenPieces items) = ("(" ++ joinWith ", " texts ++ ")").toList := by
  rw [parenPieces, spell_sign, spell_append, commaPieces, spell_joined ", " rfl each]
  simp [TokenKind.label]

theorem spell_labelledPieces (label : Option String) (xs : List Piece) (text : String)
    (spelled : spell xs = text.toList) :
    spell (labelledPieces label xs) = (TypeExpr.labelled label text).toList := by
  cases label with
  | none => exact spelled
  | some l =>
    rw [labelledPieces, TypeExpr.labelled]
    split
    · exact spelled
    · simp [spelled, TokenKind.label]

theorem spell_effectPieces (isAsync throws : Bool) :
    spell (effectPieces isAsync throws) = (TypeExpr.effects isAsync throws).toList := by
  cases isAsync <;> cases throws <;> rfl

/-- Words with a separator between them, in front of a text. -/
theorem toList_joinWith_append (between : String) (words : List String) (text : String) :
    (joinWith between (words ++ [text])).toList =
      words.flatMap (fun w => w.toList ++ between.toList) ++ text.toList := by
  induction words with
  | nil => rfl
  | cons w words ih =>
    have step : joinWith between (w :: (words ++ [text])) =
        w ++ between ++ joinWith between (words ++ [text]) := by
      cases words <;> rfl
    rw [List.cons_append, step, String.toList_append, String.toList_append, ih,
      List.flatMap_cons]
    simp

theorem spell_attributePieces (attributes : List String) :
    spell (attributePieces attributes) =
      (attributes.map ("@" ++ ·)).flatMap fun w => w.toList ++ [' '] := by
  induction attributes with
  | nil => rfl
  | cons a attributes ih =>
    rw [attributePieces, List.flatMap_cons, spell_append, List.map_cons, List.flatMap_cons, ← ih]
    simp [TokenKind.label, attributePieces]

theorem spell_specifierPieces (specifier : Option String) :
    spell (specifierPieces specifier) =
      (specifier.toList.filter (· ≠ "")).flatMap fun w => w.toList ++ [' '] := by
  rw [specifierPieces]
  induction specifier.toList.filter (· ≠ "") with
  | nil => rfl
  | cons s rest ih =>
    rw [List.flatMap_cons, spell_append, ih]
    simp

theorem spell_leading (attributes : List String) (specifier : Option String) (text : String) :
    spell (attributePieces attributes) ++ (spell (specifierPieces specifier) ++ text.toList) =
      (joinWith " " (TypeExpr.leadingWords attributes specifier ++ [text])).toList := by
  have space : " ".toList = [' '] := rfl
  rw [toList_joinWith_append, TypeExpr.leadingWords, List.flatMap_append, spell_attributePieces,
    spell_specifierPieces, List.append_assoc, space]

namespace TypeExpr

mutual

/-- The pieces of a type spell it. -/
theorem spell_pieces : ∀ t : TypeExpr, spell t.pieces = t.text.toList
  | named name arguments => by
    rw [pieces, spell_word, spell_argumentPieces (spell_piecesOfEach arguments), text,
      String.toList_append]
  | member base name arguments => by
    rw [pieces, spell_append, spell_sign, spell_word, spell_pieces base,
      spell_argumentPieces (spell_piecesOfEach arguments), text]
    simp [TokenKind.label]
  | optional wrapped implicit => by
    rw [pieces, spell_append, spell_pieces wrapped, text, String.toList_append]
    cases implicit <;> rfl
  | array element => by
    rw [pieces, spell_sign, spell_append, spell_pieces element, text]
    simp [TokenKind.label]
  | dictionary key value => by
    rw [pieces, spell_sign, spell_append, spell_pieces key, spell_sign, spell_space, spell_append,
      spell_pieces value, text]
    simp [TokenKind.label]
  | tuple elements => by
    rw [pieces, spell_parenPieces (spell_elementPieces elements), text]
  | function parameters result isAsync throws => by
    rw [pieces, spell_append, spell_parenPieces (spell_piecesOfEach parameters), spell_append,
      spell_effectPieces, spell_space, spell_sign, spell_space, spell_pieces result, text]
    simp [TokenKind.label]
  | attributed attributes specifier base => by
    rw [pieces, spell_append, spell_append, spell_pieces base, spell_leading, text]
  | quantified word bound => by
    rw [pieces, spell_word, spell_space, spell_pieces bound, text]
    simp
  | composition types => by
    rw [pieces, spell_joined " & " rfl (spell_piecesOfEach types), text]
  | metatype base kind => by
    rw [pieces, spell_append, spell_pieces base, text]
    cases kind <;> simp [TokenKind.label, MetatypeKind.spelling]
  | variadic element => by
    rw [pieces, spell_append, spell_pieces element, text, String.toList_append]
    rfl

theorem spell_piecesOfEach : ∀ ts : List TypeExpr,
    (piecesOfEach ts).map spell = (texts ts).map String.toList
  | [] => by rw [piecesOfEach, texts, List.map_nil, List.map_nil]
  | t :: ts => by
    rw [piecesOfEach, texts, List.map_cons, List.map_cons, spell_pieces t, spell_piecesOfEach ts]

theorem spell_elementPieces : ∀ es : List (Option String × TypeExpr),
    (elementPieces es).map spell = (elementTexts es).map String.toList
  | [] => by rw [elementPieces, elementTexts, List.map_nil, List.map_nil]
  | (label, t) :: es => by
    rw [elementPieces, elementTexts, List.map_cons, List.map_cons,
      spell_labelledPieces label _ _ (spell_pieces t), spell_elementPieces es]

end

end TypeExpr

/-! ## Types without grouping -/

/-- The forms of types: what marks may stand behind, compositions of such types, what may stand
behind attributes, and types with attributes. -/
inductive TypeForm
  | closed
  | composed
  | plain
  | full
  deriving DecidableEq, Repr

/-- A text starts with a name. -/
def StartsWithName (text : String) : Prop :=
  ∃ name rest, IsWord name ∧ text = name ++ rest

/-- A specifier in front of a type: `inout`, or a word of ownership if the type starts with a
name. -/
def IsSpecifier (specifier : String) (base : TypeExpr) : Prop :=
  specifier = "inout" ∨ specifier ∈ TypeReader.ownershipWords ∧ StartsWithName base.text

/-- A type of a form whose spelling needs no parentheses of grouping. Its names are identifiers
other than the reserved words. -/
inductive Ungrouped (reserved : List String) : TypeForm → TypeExpr → Prop where
  | named (name : String) (arguments : List TypeExpr) (isName : IsIdentifier name)
      (free : name ∉ reserved) (parts : ∀ t ∈ arguments, Ungrouped reserved .full t) :
      Ungrouped reserved .closed (.named name arguments)
  | member (base : TypeExpr) (name : String) (arguments : List TypeExpr)
      (closed : Ungrouped reserved .closed base) (isWord : IsWord name)
      (noMetatype : name ≠ "Type" ∧ name ≠ "Protocol")
      (parts : ∀ t ∈ arguments, Ungrouped reserved .full t) :
      Ungrouped reserved .closed (.member base name arguments)
  | optional (wrapped : TypeExpr) (implicit : Bool) (closed : Ungrouped reserved .closed wrapped) :
      Ungrouped reserved .closed (.optional wrapped implicit)
  | array (element : TypeExpr) (part : Ungrouped reserved .full element) :
      Ungrouped reserved .closed (.array element)
  | dictionary (key value : TypeExpr) (keyPart : Ungrouped reserved .full key)
      (valuePart : Ungrouped reserved .full value) :
      Ungrouped reserved .closed (.dictionary key value)
  | tuple (elements : List (Option String × TypeExpr)) (notSingle : ∀ t, elements ≠ [(none, t)])
      (labels : ∀ e ∈ elements, ∀ l, e.1 = some l → IsWord l)
      (parts : ∀ e ∈ elements, Ungrouped reserved .full e.2) :
      Ungrouped reserved .closed (.tuple elements)
  | metatype (base : TypeExpr) (kind : MetatypeKind) (closed : Ungrouped reserved .closed base) :
      Ungrouped reserved .closed (.metatype base kind)
  | variadic (element : TypeExpr) (closed : Ungrouped reserved .closed element) :
      Ungrouped reserved .closed (.variadic element)
  | single (t : TypeExpr) (closed : Ungrouped reserved .closed t) : Ungrouped reserved .composed t
  | composition (types : List TypeExpr) (several : 2 ≤ types.length)
      (each : ∀ t ∈ types, Ungrouped reserved .closed t) :
      Ungrouped reserved .composed (.composition types)
  | composed (t : TypeExpr) (h : Ungrouped reserved .composed t) : Ungrouped reserved .plain t
  | quantified (word : Quantifier) (bound : TypeExpr) (h : Ungrouped reserved .composed bound) :
      Ungrouped reserved .plain (.quantified word bound)
  | function (parameters : List TypeExpr) (result : TypeExpr) (isAsync throws : Bool)
      (parts : ∀ t ∈ parameters, Ungrouped reserved .full t)
      (resultPart : Ungrouped reserved .full result) :
      Ungrouped reserved .plain (.function parameters result isAsync throws)
  | plain (t : TypeExpr) (h : Ungrouped reserved .plain t) : Ungrouped reserved .full t
  | attributed (attributes : List String) (specifier : Option String) (base : TypeExpr)
      (something : attributes ≠ [] ∨ specifier ≠ none) (names : ∀ a ∈ attributes, IsWord a)
      (specifies : ∀ s, specifier = some s → IsSpecifier s base)
      (h : Ungrouped reserved .plain base) :
      Ungrouped reserved .full (.attributed attributes specifier base)

/-! ## Scanning a spelling -/

/-- Pieces fit in front of everything that may stand behind a type. -/
def Stands (xs : List Piece) : Prop := ∀ rest, Apart rest → Fitting xs rest

/-- Pieces fit in front of everything that may stand behind a type or a number. -/
def Closes (xs : List Piece) : Prop :=
  ∀ rest, Apart rest → rest.head? ≠ some '.' → Fitting xs rest

theorem Stands.closes {xs : List Piece} (stands : Stands xs) : Closes xs :=
  fun rest apart _ => stands rest apart

section Scanning

variable {xs : List Piece} {items : List (List Piece)}

theorem stands_commaPieces (each : ∀ xs ∈ items, Stands xs) : Stands (commaPieces items) := by
  intro rest apart
  refine fitting_joined each (fun _ => apart_cons (by decide)) (fun _ => ?_) apart
  exact ⟨Piece.fits_sign (by decide) _, Piece.fits_space _, trivial⟩

theorem closes_commaPieces (each : ∀ xs ∈ items, Closes xs) : Closes (commaPieces items) := by
  intro rest apart noDot
  have ends : ∀ xs ∈ items, ∀ rest, Apart rest ∧ rest.head? ≠ some '.' → Fitting xs rest :=
    fun xs there rest ends => each xs there rest ends.1 ends.2
  refine fitting_joined ends (fun _ => ⟨apart_cons (by decide), nofun⟩) (fun _ => ?_) ⟨apart, noDot⟩
  exact ⟨Piece.fits_sign (by decide) _, Piece.fits_space _, trivial⟩

theorem fitting_parenPieces (each : ∀ xs ∈ items, Closes xs) (rest : List Char) :
    Fitting (parenPieces items) rest := by
  refine ⟨Piece.fits_sign (by decide) _, ?_⟩
  refine (closes_commaPieces each _ ?_ ?_).append ⟨Piece.fits_sign (by decide) _, trivial⟩
  · exact apart_cons (by decide)
  · exact nofun

theorem stands_argumentPieces (each : ∀ xs ∈ items, Stands xs) : Stands (argumentPieces items) := by
  intro rest apart
  rw [argumentPieces]
  split
  · trivial
  · refine ⟨Piece.fits_sign (by decide) _, ?_⟩
    refine (stands_commaPieces each _ ?_).append ⟨Piece.fits_sign (by decide) _, trivial⟩
    exact apart_cons (by decide)

theorem apart_argumentPieces (items : List (List Piece)) {rest : List Char} (apart : Apart rest) :
    Apart (spell (argumentPieces items) ++ rest) := by
  rw [argumentPieces]
  split
  · exact apart
  · exact apart_cons (by decide)

theorem stands_labelledPieces {label : Option String} (isWord : ∀ l, label = some l → IsWord l)
    (stands : Stands xs) : Stands (labelledPieces label xs) := by
  intro rest apart
  cases label with
  | none => exact stands rest apart
  | some l =>
    rw [labelledPieces]
    split
    · exact stands rest apart
    · refine ⟨Piece.fits_word (isWord l rfl) (apart_cons (by decide)), ?_⟩
      exact ⟨Piece.fits_sign (by decide) _, Piece.fits_space _, stands rest apart⟩

/-- The words that types are written with. -/
def typeWords : List String :=
  ["async", "throws", "some", "any", "Type", "Protocol", "inout"] ++ TypeReader.ownershipWords

theorem isWord_of_mem {name : String} (known : name ∈ typeWords) : IsWord name := by
  simp only [typeWords, TypeReader.ownershipWords, List.cons_append, List.nil_append, List.mem_cons,
    List.not_mem_nil, or_false] at known
  rcases known with rfl | rfl | rfl | rfl | rfl | rfl | rfl | rfl | rfl | rfl | rfl | rfl | rfl <;>
    exact isWord_of_name rfl (by decide) (by decide)

theorem fitting_effectPieces (isAsync throws : Bool) (rest : List Char) :
    Fitting (effectPieces isAsync throws) (' ' :: rest) := by
  have word (name : String) (known : name ∈ typeWords) (rest : List Char) :
      Fitting [Piece.space, Piece.word name] (' ' :: rest) :=
    ⟨Piece.fits_space _, Piece.fits_word (isWord_of_mem known) (apart_cons (by decide)), trivial⟩
  cases isAsync <;> cases throws
  · trivial
  · exact word "throws" (by decide) rest
  · exact word "async" (by decide) rest
  · exact (word "async" (by decide) _).append (word "throws" (by decide) rest)

theorem fitting_attributePieces {attributes : List String} (names : ∀ a ∈ attributes, IsWord a)
    (rest : List Char) : Fitting (attributePieces attributes) rest := by
  induction attributes with
  | nil => trivial
  | cons a attributes ih =>
    have isWord := names a List.mem_cons_self
    have later := ih fun b there => names b (List.mem_cons_of_mem a there)
    exact ⟨Piece.fits_sign (by decide) _, Piece.fits_word isWord (apart_cons (by decide)),
      Piece.fits_space _, later⟩

theorem IsSpecifier.isWord {specifier : String} {base : TypeExpr}
    (specifies : IsSpecifier specifier base) : IsWord specifier := by
  rcases specifies with rfl | ⟨known, -⟩
  · exact isWord_of_mem (by decide)
  · exact isWord_of_mem (List.mem_append_right _ known)

theorem fitting_specifierPieces {specifier : Option String} {base : TypeExpr}
    (specifies : ∀ s, specifier = some s → IsSpecifier s base) (rest : List Char) :
    Fitting (specifierPieces specifier) rest := by
  rw [specifierPieces]
  cases specifier with
  | none => trivial
  | some s =>
    have isWord := (specifies s rfl).isWord
    rw [Option.toList_some, List.filter_cons]
    split
    · exact ⟨Piece.fits_word isWord (apart_cons (by decide)), Piece.fits_space _, trivial⟩
    · trivial

/-- A type without grouping fits in front of everything that may stand behind it. -/
theorem Ungrouped.stands {reserved : List String} {form : TypeForm} {t : TypeExpr}
    (ungrouped : Ungrouped reserved form t) : Stands t.pieces := by
  intro rest apart
  induction ungrouped generalizing rest with
  | named name arguments isName _ _ ih =>
    rw [TypeExpr.pieces, TypeExpr.piecesOfEach_eq_map]
    have parts : ∀ xs ∈ arguments.map TypeExpr.pieces, Stands xs := List.forall_mem_map.2 ih
    exact ⟨Piece.fits_word isName.1 (apart_argumentPieces _ apart),
      stands_argumentPieces parts rest apart⟩
  | member base name arguments _ isWord _ _ ih ihParts =>
    rw [TypeExpr.pieces, TypeExpr.piecesOfEach_eq_map]
    have parts : ∀ xs ∈ arguments.map TypeExpr.pieces, Stands xs := List.forall_mem_map.2 ihParts
    refine (ih _ (apart_cons (by decide))).append ⟨?_, ?_, stands_argumentPieces parts rest apart⟩
    · rw [spell_word, List.append_assoc]
      exact Piece.fits_dot isWord _
    · exact Piece.fits_word isWord (apart_argumentPieces _ apart)
  | optional wrapped implicit _ ih =>
    rw [TypeExpr.pieces]
    cases implicit with
    | false => exact (ih _ (apart_cons (by decide))).append ⟨Piece.fits_sign (by decide) _, trivial⟩
    | true => exact (ih _ (apart_cons (by decide))).append ⟨Piece.fits_bang apart, trivial⟩
  | array element _ ih =>
    rw [TypeExpr.pieces]
    refine ⟨Piece.fits_sign (by decide) _, ?_⟩
    exact (ih _ (apart_cons (by decide))).append ⟨Piece.fits_sign (by decide) _, trivial⟩
  | dictionary key value _ _ ihKey ihValue =>
    rw [TypeExpr.pieces]
    refine ⟨Piece.fits_sign (by decide) _, ?_⟩
    refine (ihKey _ (apart_cons (by decide))).append ?_
    refine ⟨Piece.fits_sign (by decide) _, Piece.fits_space _, ?_⟩
    exact (ihValue _ (apart_cons (by decide))).append ⟨Piece.fits_sign (by decide) _, trivial⟩
  | tuple elements _ labels _ ih =>
    rw [TypeExpr.pieces, TypeExpr.elementPieces_eq_map]
    refine fitting_parenPieces (List.forall_mem_map.2 fun e there => Stands.closes ?_) rest
    exact stands_labelledPieces (labels e there) (ih e there)
  | metatype base kind _ ih =>
    rw [TypeExpr.pieces]
    have isWord : IsWord kind.spelling := isWord_of_mem (by cases kind <;> decide)
    refine (ih _ (apart_cons (by decide))).append ⟨?_, Piece.fits_word isWord apart, trivial⟩
    rw [spell_word, List.append_assoc]
    exact Piece.fits_dot isWord _
  | variadic element _ ih =>
    rw [TypeExpr.pieces]
    exact (ih _ (apart_cons (by decide))).append ⟨Piece.fits_ellipsis _, trivial⟩
  | single _ _ ih => exact ih rest apart
  | composition types _ _ ih =>
    rw [TypeExpr.pieces, TypeExpr.piecesOfEach_eq_map]
    refine fitting_joined (List.forall_mem_map.2 ih) (fun _ => apart_cons (by decide))
      (fun _ => ?_) apart
    exact ⟨Piece.fits_space _, Piece.fits_ampersand _, Piece.fits_space _, trivial⟩
  | composed _ _ ih => exact ih rest apart
  | quantified word bound _ ih =>
    rw [TypeExpr.pieces]
    have isWord : IsWord word.spelling := isWord_of_mem (by cases word <;> decide)
    exact ⟨Piece.fits_word isWord (apart_cons (by decide)), Piece.fits_space _, ih rest apart⟩
  | function parameters result isAsync throws _ _ ih ihResult =>
    rw [TypeExpr.pieces, TypeExpr.piecesOfEach_eq_map]
    have closes : ∀ xs ∈ parameters.map TypeExpr.pieces, Closes xs :=
      List.forall_mem_map.2 fun t there => Stands.closes (ih t there)
    refine (fitting_parenPieces closes _).append ?_
    refine (fitting_effectPieces isAsync throws _).append ?_
    exact ⟨Piece.fits_space _, Piece.fits_arrow _, Piece.fits_space _, ihResult rest apart⟩
  | plain _ _ ih => exact ih rest apart
  | attributed attributes specifier base _ names specifies _ ih =>
    rw [TypeExpr.pieces]
    refine (fitting_attributePieces names _).append ?_
    exact (fitting_specifierPieces specifies _).append (ih rest apart)

end Scanning

end ViewModifiers.Interface
