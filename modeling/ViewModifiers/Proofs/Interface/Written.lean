import ViewModifiers.Interface.DeclarationReader
import ViewModifiers.Proofs.Interface.TypePieces

/-!
# Declarations as they are written

An interface is written out from items in the order in which they stand, one behind the other on
lines of their own. An item knows its pieces and what it declares. The names in it are words that
are not taken for anything else (`WrittenItem.Writable`); then all pieces fit
(`fitting_linesOf`).
-/

namespace ViewModifiers.Interface

open Source Text

/-! ## Items -/

/-- An attribute without arguments, or the platforms and versions on which something exists. -/
inductive WrittenAttribute
  | plain (name : String)
  | available (platforms : List (String × String))
  deriving DecidableEq, Repr

/-- What stands in front of the word that begins a declaration. -/
structure WrittenHeading where
  attributes : List WrittenAttribute
  modifiers : List String
  deriving DecidableEq, Repr

/-- A value that is written as one token. -/
inductive WrittenLiteral
  | number (text : String)
  | string (text : String)
  | word (text : String)
  deriving DecidableEq, Repr

/-- A parameter of a function, with its default value. -/
structure WrittenParameter where
  attributes : List String
  firstName : String
  secondName : Option String
  type : TypeExpr
  default : Option WrittenLiteral
  deriving Repr

/-- A function behind its heading. -/
structure WrittenFunction where
  name : String
  generics : List TypeVariable
  parameters : List WrittenParameter
  result : Option TypeExpr
  deriving Repr

/-- A declaration with all that stands inside it. The subject of a declaration with members is its
name or, for an extension, the extended type. -/
inductive WrittenItem
  | importing (heading : WrittenHeading) (names : List String)
  | function (heading : WrittenHeading) (function : WrittenFunction)
  | enumCase (heading : WrittenHeading) (name : String) (associated : List TypeExpr)
  | property (heading : WrittenHeading) (isConstant : Bool) (name : String) (type : TypeExpr)
  | scope (heading : WrittenHeading) (kind : TypeKind) (subject : TypeExpr)
      (inherits : List TypeExpr) (inside : List WrittenItem)

/-! ## What is declared -/

/-- The attribute that is declared. -/
def WrittenAttribute.declared : WrittenAttribute → Attribute
  | plain name => ⟨name, none⟩
  | available platforms =>
    ⟨"available", some (String.join (platforms.map fun p => p.1 ++ p.2 ++ ", ") ++ "*")⟩

/-- The availability that an attribute gives. -/
def WrittenAttribute.availability? : WrittenAttribute → Option Availability
  | plain _ => none
  | available platforms =>
    some { Availability.always with platforms := platforms.map fun p => ⟨p.1, some p.2⟩ }

namespace WrittenHeading

/-- The attributes that are declared. -/
def declared (h : WrittenHeading) : List Attribute := h.attributes.map WrittenAttribute.declared

/-- The availability that is declared. -/
def availability (h : WrittenHeading) : Availability :=
  (h.attributes.findSome? WrittenAttribute.availability?).getD .always

end WrittenHeading

/-- The parameter that is declared. -/
def WrittenParameter.declared (p : WrittenParameter) : DeclaredParameter where
  firstName := p.firstName
  secondName := p.secondName
  type := p.type
  attributes := p.attributes.map fun name => ⟨name, none⟩
  hasDefault := p.default.isSome

namespace WrittenItem

/-- What an item imports. -/
def importName? : WrittenItem → Option String
  | importing _ names => some (joinWith "." names)
  | _ => none

/-- The function that an item declares, wherever it stands. -/
def function? : WrittenItem → Option DeclaredFunction
  | function h f => some
    { name := f.name, parameters := f.parameters.map WrittenParameter.declared,
      generics := f.generics, result := f.result, attributes := h.declared,
      modifiers := h.modifiers, availability := h.availability, position := .start }
  | _ => none

/-- The case that an item declares, wherever it stands. -/
def case? : WrittenItem → Option DeclaredCase
  | enumCase h name associated => some
    { name, associated, availability := h.availability, position := .start }
  | _ => none

/-- The property that an item declares, wherever it stands. -/
def property? : WrittenItem → Option DeclaredProperty
  | property h _ name type => some
    { name, type, modifiers := h.modifiers, availability := h.availability, position := .start }
  | _ => none

mutual

/-- The declaration with members that an item is, wherever it stands. -/
def type? : WrittenItem → Option DeclaredType
  | scope h kind subject inherits inside => some
    { kind, name := subject.text, inherits, attributes := h.declared, modifiers := h.modifiers,
      availability := h.availability, functions := inside.filterMap function?,
      cases := inside.filterMap case?, properties := inside.filterMap property?,
      nested := types inside, position := .start }
  | _ => none

/-- The declarations with members among items, wherever they stand. -/
def types : List WrittenItem → List DeclaredType
  | [] => []
  | item :: items => (type? item).toList ++ types items

end

/-- The members of a scope, wherever they stand. -/
def members (items : List WrittenItem) : Members where
  imports := items.filterMap importName?
  types := types items
  functions := items.filterMap function?
  cases := items.filterMap case?
  properties := items.filterMap property?

/-- The interface that items make up, wherever they stand. -/
def interface (items : List WrittenItem) : InterfaceFile :=
  ⟨(members items).imports, (members items).types, (members items).functions⟩

end WrittenItem

/-! ## Places left out -/

/-- A function wherever it stands. -/
def DeclaredFunction.unplaced (f : DeclaredFunction) : DeclaredFunction :=
  { f with position := .start }

/-- A case wherever it stands. -/
def DeclaredCase.unplaced (c : DeclaredCase) : DeclaredCase := { c with position := .start }

/-- A property wherever it stands. -/
def DeclaredProperty.unplaced (p : DeclaredProperty) : DeclaredProperty :=
  { p with position := .start }

mutual

/-- A declaration with members wherever it and its members stand. -/
def DeclaredType.unplaced : DeclaredType → DeclaredType
  | ⟨kind, name, inherits, attributes, modifiers, availability, functions, cases, properties,
      nested, _⟩ =>
    ⟨kind, name, inherits, attributes, modifiers, availability,
      functions.map DeclaredFunction.unplaced, cases.map DeclaredCase.unplaced,
      properties.map DeclaredProperty.unplaced, unplacedTypes nested, .start⟩

/-- Declarations with members wherever they stand. -/
def DeclaredType.unplacedTypes : List DeclaredType → List DeclaredType
  | [] => []
  | t :: ts => unplaced t :: unplacedTypes ts

end

theorem DeclaredType.unplacedTypes_eq_map (types : List DeclaredType) :
    unplacedTypes types = types.map unplaced := by
  induction types with
  | nil => rfl
  | cons t types ih => rw [unplacedTypes, ih, List.map_cons]

/-- The members of a scope wherever they stand. -/
def Members.unplaced (m : Members) : Members where
  imports := m.imports
  types := DeclaredType.unplacedTypes m.types
  functions := m.functions.map DeclaredFunction.unplaced
  cases := m.cases.map DeclaredCase.unplaced
  properties := m.properties.map DeclaredProperty.unplaced

/-- An interface wherever its declarations stand. -/
def InterfaceFile.unplaced (f : InterfaceFile) : InterfaceFile where
  imports := f.imports
  declarations := DeclaredType.unplacedTypes f.declarations
  functions := f.functions.map DeclaredFunction.unplaced

/-! ## Pieces -/

/-- A word in front of another one. -/
def wordPieces (word : String) : List Piece := [.word word, .space]

/-- The pieces of a platform with its version and a comma. -/
def platformPieces (p : String × String) : List Piece :=
  [.word p.1, .space, .number p.2, .sign .comma, .space]

/-- The pieces of an attribute that lists platforms. -/
def availablePieces (platforms : List (String × String)) : List Piece :=
  .sign .atSign :: .word "available" :: .sign .openParen ::
    (platforms.flatMap platformPieces ++ [.sign .star, .sign .closeParen])

/-- The pieces of an attribute. -/
def WrittenAttribute.pieces : WrittenAttribute → List Piece
  | plain name => [.sign .atSign, .word name, .space]
  | available platforms =>
    .sign .atSign :: .word "available" :: .sign .openParen ::
      (platforms.flatMap platformPieces ++ [.sign .star, .sign .closeParen, .space])

/-- The pieces of what stands in front of a declaration. -/
def WrittenHeading.pieces (h : WrittenHeading) : List Piece :=
  h.attributes.flatMap WrittenAttribute.pieces ++ h.modifiers.flatMap wordPieces

/-- The piece of a value. -/
def WrittenLiteral.piece : WrittenLiteral → Piece
  | number text => .number text
  | string text => .string text
  | word text => .word text

/-- The pieces of a default value. -/
def defaultPieces (default : Option WrittenLiteral) : List Piece :=
  match default with
  | none => []
  | some literal => [.space, .sign .equals, .space, literal.piece]

/-- The pieces of a name and the type behind it. -/
def typedPieces (name : String) (type : TypeExpr) : List Piece :=
  .word name :: .sign .colon :: .space :: type.pieces

/-- The pieces of a parameter. -/
def WrittenParameter.pieces (p : WrittenParameter) : List Piece :=
  attributePieces p.attributes ++ match p.secondName with
    | none => typedPieces p.firstName p.type ++ defaultPieces p.default
    | some name =>
      .word p.firstName :: .space :: (typedPieces name p.type ++ defaultPieces p.default)

/-- The pieces of a generic parameter with its first constraint. -/
def variablePieces (v : TypeVariable) : List Piece :=
  match v.constraints with
  | [] => [.word v.name]
  | first :: _ => typedPieces v.name first

/-- The constraints for which there is no place at the generic parameters. -/
def laterConstraints (generics : List TypeVariable) : List (String × TypeExpr) :=
  generics.flatMap fun v => v.constraints.tail.map fun t => (v.name, t)

/-- The pieces of a clause with the constraints that are left, if there are any. -/
def wherePieces (requirements : List (String × TypeExpr)) : List Piece :=
  if requirements.isEmpty then []
  else .space :: .word "where" :: .space ::
    commaPieces (requirements.map fun r => typedPieces r.1 r.2)

/-- The pieces of names with dots between them. -/
def dottedPieces (names : List String) : List Piece :=
  joined [.sign .dot] (names.map fun n => [.word n])

/-- The pieces of the result of a function. -/
def resultPieces (result : Option TypeExpr) : List Piece :=
  match result with
  | none => []
  | some t => .space :: .sign .arrow :: .space :: t.pieces

/-- The pieces of a function behind its heading. -/
def WrittenFunction.pieces (f : WrittenFunction) : List Piece :=
  .word "func" :: .space :: .word f.name :: (argumentPieces (f.generics.map variablePieces) ++
    (parenPieces (f.parameters.map WrittenParameter.pieces) ++
      (resultPieces f.result ++ wherePieces (laterConstraints f.generics))))

/-- The pieces of a function behind its name. -/
def WrittenFunction.behindName (f : WrittenFunction) : List Piece :=
  argumentPieces (f.generics.map variablePieces) ++
    (parenPieces (f.parameters.map WrittenParameter.pieces) ++
      (resultPieces f.result ++ wherePieces (laterConstraints f.generics)))

theorem WrittenFunction.pieces_eq (f : WrittenFunction) :
    f.pieces = .word "func" :: .space :: .word f.name :: f.behindName := rfl

/-- The pieces of the associated values of a case, if it has any. -/
def associatedPieces (types : List TypeExpr) : List Piece :=
  if types.isEmpty then [] else parenPieces (types.map TypeExpr.pieces)

/-- The pieces of inherited types, if there are any. -/
def inheritedPieces (types : List TypeExpr) : List Piece :=
  if types.isEmpty then [] else .sign .colon :: .space :: commaPieces (types.map TypeExpr.pieces)

/-- The pieces of a declaration with members behind its heading. -/
def scopePieces (kind : TypeKind) (subject : TypeExpr) (inherits : List TypeExpr)
    (inside : List Piece) : List Piece :=
  .word kind.keyword.spelling :: .space :: (subject.pieces ++
    (inheritedPieces inherits ++ .space :: .sign .openBrace :: .newline ::
      (inside ++ [.sign .closeBrace])))

namespace WrittenItem

/-- What stands in front of the word that begins an item. -/
def heading : WrittenItem → WrittenHeading
  | importing h _ | function h _ | enumCase h _ _ | property h _ _ _ | scope h _ _ _ _ => h

mutual

/-- The pieces of an item behind its heading. -/
def behind : WrittenItem → List Piece
  | importing _ names => .word "import" :: .space :: dottedPieces names
  | function _ f => f.pieces
  | enumCase _ name associated =>
    .word "case" :: .space :: .word name :: associatedPieces associated
  | property _ isConstant name type =>
    .word (if isConstant then "let" else "var") :: .space :: typedPieces name type
  | scope _ kind subject inherits inside =>
    .word kind.keyword.spelling :: .space :: (subject.pieces ++
      (inheritedPieces inherits ++ .space :: .sign .openBrace :: .newline ::
        (linesOf inside ++ [.sign .closeBrace])))

/-- The pieces of items on lines of their own. -/
def linesOf : List WrittenItem → List Piece
  | [] => []
  | item :: items => item.heading.pieces ++ (behind item ++ .newline :: linesOf items)

end

theorem behind_scope (h : WrittenHeading) (kind : TypeKind) (subject : TypeExpr)
    (inherits : List TypeExpr) (items : List WrittenItem) :
    (scope h kind subject inherits items).behind =
      scopePieces kind subject inherits (linesOf items) := by
  rw [behind, scopePieces]

/-- The pieces of an item. -/
def pieces (item : WrittenItem) : List Piece := item.heading.pieces ++ item.behind

theorem linesOf_cons (item : WrittenItem) (items : List WrittenItem) :
    linesOf (item :: items) = item.pieces ++ .newline :: linesOf items := by
  rw [linesOf, pieces, List.append_assoc]

/-- The text of items. -/
def text (items : List WrittenItem) : String := String.ofList (spell (linesOf items))

end WrittenItem

/-! ## What can be written -/

/-- The words that a name or a type in a declaration must not be. -/
def reservedWords : List String :=
  DeclarationReader.modifierWords ++ TypeReader.packWords ++ TypeReader.ownershipWords

/-- A name that is not taken for anything else. -/
def IsDeclared (name : String) : Prop := IsIdentifier name ∧ name ∉ reservedWords

/-- A type that needs no parentheses of grouping. -/
abbrev IsFullType (t : TypeExpr) : Prop := Ungrouped reservedWords .full t

/-- An attribute of words and numbers. -/
def WrittenAttribute.Writable : WrittenAttribute → Prop
  | plain name => IsWord name
  | available platforms => ∀ p ∈ platforms, IsWord p.1 ∧ IsNumber p.2

/-- At most one attribute says where a declaration exists. -/
structure WrittenHeading.Writable (h : WrittenHeading) : Prop where
  attributes : ∀ a ∈ h.attributes, a.Writable
  atMostOne : (h.attributes.filterMap WrittenAttribute.availability?).length ≤ 1
  modifiers : ∀ m ∈ h.modifiers, m ∈ DeclarationReader.modifierWords

/-- A value that the scanner finds as one token. -/
def WrittenLiteral.Writable : WrittenLiteral → Prop
  | number text => IsNumber text
  | string text => IsVerbatim text
  | word text => IsWord text

/-- A parameter has one or two names, which may be any words. -/
structure WrittenParameter.Writable (p : WrittenParameter) : Prop where
  attributes : ∀ a ∈ p.attributes, IsWord a
  firstName : IsWord p.firstName
  secondName : ∀ name, p.secondName = some name → IsWord name
  type : IsFullType p.type
  default : ∀ literal, p.default = some literal → literal.Writable

/-- A function has any word for its name, and generic parameters with different names. -/
structure WrittenFunction.Writable (f : WrittenFunction) : Prop where
  name : IsWord f.name
  distinct : (f.generics.map TypeVariable.name).Nodup
  generics : ∀ v ∈ f.generics, IsDeclared v.name ∧ ∀ t ∈ v.constraints, IsFullType t
  parameters : ∀ p ∈ f.parameters, p.Writable
  result : ∀ t, f.result = some t → IsFullType t

/-- What stands behind the name of a function is taken for nothing else. -/
structure WrittenFunction.WritableBehindName (f : WrittenFunction) : Prop where
  distinct : (f.generics.map TypeVariable.name).Nodup
  generics : ∀ v ∈ f.generics, IsDeclared v.name ∧ ∀ t ∈ v.constraints, IsFullType t
  parameters : ∀ p ∈ f.parameters, p.Writable
  result : ∀ t, f.result = some t → IsFullType t

theorem WrittenFunction.Writable.behindName {f : WrittenFunction} (writable : f.Writable) :
    f.WritableBehindName :=
  ⟨writable.distinct, writable.generics, writable.parameters, writable.result⟩

/-- The subject of a declaration with members is a name, or a type that is extended. -/
def IsSubject (kind : TypeKind) (subject : TypeExpr) : Prop :=
  if kind = .extending then IsFullType subject
  else ∃ name, IsDeclared name ∧ subject = .named name []

/-- An item all of whose names and types are taken for nothing else. -/
inductive WrittenItem.Writable : WrittenItem → Prop where
  | importing (heading : WrittenHeading) (names : List String) (h : heading.Writable)
      (some : names ≠ []) (each : ∀ n ∈ names, IsDeclared n) : Writable (.importing heading names)
  | function (heading : WrittenHeading) (f : WrittenFunction) (h : heading.Writable)
      (parts : f.Writable) : Writable (.function heading f)
  | enumCase (heading : WrittenHeading) (name : String) (associated : List TypeExpr)
      (h : heading.Writable) (isName : IsWord name) (each : ∀ t ∈ associated, IsFullType t) :
      Writable (.enumCase heading name associated)
  | property (heading : WrittenHeading) (isConstant : Bool) (name : String) (type : TypeExpr)
      (h : heading.Writable) (isName : IsWord name) (isType : IsFullType type) :
      Writable (.property heading isConstant name type)
  | scope (heading : WrittenHeading) (kind : TypeKind) (subject : TypeExpr)
      (inherits : List TypeExpr) (inside : List WrittenItem) (h : heading.Writable)
      (isSubject : IsSubject kind subject) (each : ∀ t ∈ inherits, IsFullType t)
      (parts : ∀ item ∈ inside, item.Writable) :
      Writable (.scope heading kind subject inherits inside)

/-! ## Scanning what is written -/

section Scanning

theorem stands_word {name : String} (isWord : IsWord name) : Stands [.word name] :=
  fun _ apart => ⟨Piece.fits_word isWord apart, trivial⟩

theorem isWord_of_mem_modifierWords {name : String}
    (known : name ∈ DeclarationReader.modifierWords) : IsWord name := by
  simp only [DeclarationReader.modifierWords, List.mem_cons, List.not_mem_nil, or_false] at known
  rcases known with rfl | rfl | rfl | rfl | rfl | rfl | rfl | rfl | rfl | rfl | rfl | rfl | rfl |
    rfl | rfl | rfl | rfl | rfl | rfl | rfl | rfl | rfl | rfl | rfl | rfl | rfl | rfl <;>
    exact isWord_of_name rfl (by decide) (by decide)

theorem isWord_spelling (k : Keyword) : IsWord k.spelling := by
  cases k <;> exact isWord_of_name rfl (by decide) (by decide)

theorem pieces_available (platforms : List (String × String)) :
    (WrittenAttribute.available platforms).pieces = availablePieces platforms ++ [.space] := by
  simp only [WrittenAttribute.pieces, availablePieces, List.cons_append, List.append_assoc,
    List.nil_append]

/-- Platforms that are listed fit in front of everything, as a parenthesis ends their list. -/
theorem fitting_availablePieces {platforms : List (String × String)}
    (writable : ∀ p ∈ platforms, IsWord p.1 ∧ IsNumber p.2) (rest : List Char) :
    Fitting (availablePieces platforms) rest := by
  have available : IsWord "available" := isWord_of_name rfl (by decide) (by decide)
  refine ⟨Piece.fits_sign (by decide) _, Piece.fits_word available (apart_cons (by decide)),
    Piece.fits_sign (by decide) _, ?_⟩
  refine (fitting_flatMap (fun p there rest => ?_) _).append ?_
  · obtain ⟨isWord, isNumber⟩ := writable p there
    exact ⟨Piece.fits_word isWord (apart_cons (by decide)), Piece.fits_space _,
      Piece.fits_number isNumber (apart_cons (by decide)) nofun,
      Piece.fits_sign (by decide) _, Piece.fits_space _, trivial⟩
  · exact ⟨Piece.fits_star _, Piece.fits_sign (by decide) _, trivial⟩

theorem WrittenAttribute.Writable.fitting {a : WrittenAttribute} (writable : a.Writable)
    (rest : List Char) : Fitting a.pieces rest := by
  cases a with
  | plain name =>
    exact ⟨Piece.fits_sign (by decide) _, Piece.fits_word writable (apart_cons (by decide)),
      Piece.fits_space _, trivial⟩
  | available platforms =>
    rw [pieces_available]
    exact (fitting_availablePieces writable _).append ⟨Piece.fits_space _, trivial⟩

/-- Everything in front of a declaration fits, as it ends in a space. -/
theorem WrittenHeading.Writable.fitting {h : WrittenHeading} (writable : h.Writable)
    (rest : List Char) : Fitting h.pieces rest := by
  have attributes (rest : List Char) :
      Fitting (h.attributes.flatMap WrittenAttribute.pieces) rest :=
    fitting_flatMap (fun a there rest => (writable.attributes a there).fitting rest) rest
  refine (attributes _).append (fitting_flatMap (fun m there rest => ?_) rest)
  have isWord := isWord_of_mem_modifierWords (writable.modifiers m there)
  exact ⟨Piece.fits_word isWord (apart_cons (by decide)), Piece.fits_space _, trivial⟩

theorem dottedPieces_cons (n m : String) (names : List String) :
    dottedPieces (n :: m :: names) = .word n :: .sign .dot :: dottedPieces (m :: names) := rfl

theorem exists_dottedPieces (n : String) (names : List String) :
    ∃ xs, dottedPieces (n :: names) = .word n :: xs := by
  cases names <;> exact ⟨_, rfl⟩

theorem stands_dottedPieces {names : List String} (each : ∀ n ∈ names, IsWord n) :
    Stands (dottedPieces names) := by
  induction names with
  | nil => exact fun _ _ => trivial
  | cons n names ih =>
    have isWord := each n List.mem_cons_self
    have later := ih fun m there => each m (List.mem_cons_of_mem n there)
    cases names with
    | nil => exact stands_word isWord
    | cons m names =>
      intro rest apart
      obtain ⟨xs, begins⟩ := exists_dottedPieces m names
      have next := each m (List.mem_cons_of_mem n List.mem_cons_self)
      rw [dottedPieces_cons]
      refine ⟨Piece.fits_word isWord (apart_cons (by decide)), ?_, later rest apart⟩
      rw [begins, spell_word, List.append_assoc]
      exact Piece.fits_dot next _

theorem stands_typedPieces {name : String} {type : TypeExpr} (isWord : IsWord name)
    (isType : IsFullType type) : Stands (typedPieces name type) := by
  intro rest apart
  exact ⟨Piece.fits_word isWord (apart_cons (by decide)), Piece.fits_sign (by decide) _,
    Piece.fits_space _, isType.stands rest apart⟩

theorem closes_defaultPieces {default : Option WrittenLiteral}
    (writable : ∀ literal, default = some literal → literal.Writable) :
    Closes (defaultPieces default) := by
  intro rest apart noDot
  cases default with
  | none => trivial
  | some literal =>
    refine ⟨Piece.fits_space _, Piece.fits_equals _, Piece.fits_space _, ?_, trivial⟩
    have fits := writable literal rfl
    cases literal with
    | number text => exact Piece.fits_number fits apart noDot
    | string text => exact Piece.fits_string fits apart
    | word text => exact Piece.fits_word fits apart

theorem WrittenParameter.Writable.closes {p : WrittenParameter} (writable : p.Writable) :
    Closes p.pieces := by
  intro rest apart noDot
  have default := closes_defaultPieces writable.default rest apart noDot
  have begins : Apart (spell (defaultPieces p.default) ++ rest) := by
    cases p.default with
    | none => exact apart
    | some => exact apart_cons (by decide)
  have typed (name : String) (isWord : IsWord name) :
      Fitting (typedPieces name p.type ++ defaultPieces p.default) rest :=
    (stands_typedPieces isWord writable.type _ begins).append default
  rw [WrittenParameter.pieces]
  refine (fitting_attributePieces writable.attributes _).append ?_
  split
  · exact typed _ writable.firstName
  · next name second =>
    exact ⟨Piece.fits_word writable.firstName (apart_cons (by decide)), Piece.fits_space _,
      typed name (writable.secondName name second)⟩

/-- The later constraints of generic parameters are constraints of them. -/
theorem writable_of_mem_laterConstraints {generics : List TypeVariable}
    (each : ∀ v ∈ generics, IsDeclared v.name ∧ ∀ t ∈ v.constraints, IsFullType t)
    {r : String × TypeExpr} (there : r ∈ laterConstraints generics) :
    IsDeclared r.1 ∧ IsFullType r.2 := by
  obtain ⟨v, listed, later⟩ := List.mem_flatMap.1 there
  obtain ⟨t, given, rfl⟩ := List.mem_map.1 later
  obtain ⟨isName, constraints⟩ := each v listed
  exact ⟨isName, constraints t (List.mem_of_mem_tail given)⟩

/-- What stands behind the name of a function fits in front of the end of its line. -/
theorem WrittenFunction.WritableBehindName.stands {f : WrittenFunction}
    (writable : f.WritableBehindName) : Stands f.behindName := by
  intro rest apart
  have generics : ∀ xs ∈ f.generics.map variablePieces, Stands xs := by
    refine List.forall_mem_map.2 fun v there => ?_
    obtain ⟨isName, constraints⟩ := writable.generics v there
    rw [variablePieces]
    split
    · exact stands_word isName.1.1
    · next first later given =>
      exact stands_typedPieces isName.1.1 (constraints first (given ▸ List.mem_cons_self))
  have result : Stands (resultPieces f.result) := by
    intro rest apart
    cases given : f.result with
    | none => trivial
    | some t =>
      exact ⟨Piece.fits_space _, Piece.fits_arrow _, Piece.fits_space _,
        (writable.result t given).stands rest apart⟩
  have requirements : ∀ r ∈ laterConstraints f.generics, Stands (typedPieces r.1 r.2) := by
    intro r there
    obtain ⟨isName, isType⟩ := writable_of_mem_laterConstraints writable.generics there
    exact stands_typedPieces isName.1.1 isType
  have clause : Stands (wherePieces (laterConstraints f.generics)) := by
    intro rest apart
    rw [wherePieces]
    split
    · trivial
    · refine ⟨Piece.fits_space _, Piece.fits_word (isWord_spelling .whereClause)
        (apart_cons (by decide)), Piece.fits_space _, ?_⟩
      exact stands_commaPieces (List.forall_mem_map.2 requirements) rest apart
  have begins {rest : List Char} (apart : Apart rest) :
      Apart (spell (wherePieces (laterConstraints f.generics)) ++ rest) := by
    rw [wherePieces]
    split
    · exact apart
    · exact apart_cons (by decide)
  refine (stands_argumentPieces generics _ ?_).append ?_
  · exact apart_cons (by decide)
  refine (fitting_parenPieces (List.forall_mem_map.2 fun p there =>
    (writable.parameters p there).closes) _).append ?_
  exact (result _ (begins apart)).append (clause rest apart)

theorem WrittenFunction.Writable.stands {f : WrittenFunction} (writable : f.Writable) :
    Stands f.pieces := by
  intro rest apart
  refine ⟨Piece.fits_word (isWord_spelling .function) (apart_cons (by decide)), Piece.fits_space _,
    Piece.fits_word writable.name ?_, writable.behindName.stands rest apart⟩
  rw [spell_append, List.append_assoc]
  refine apart_argumentPieces _ ?_
  exact apart_cons (by decide)

theorem stands_associatedPieces {types : List TypeExpr} (each : ∀ t ∈ types, IsFullType t) :
    Stands (associatedPieces types) := by
  intro rest apart
  rw [associatedPieces]
  split
  · trivial
  · exact fitting_parenPieces
      (List.forall_mem_map.2 fun t there => (each t there).stands.closes) rest

theorem stands_inheritedPieces {types : List TypeExpr} (each : ∀ t ∈ types, IsFullType t) :
    Stands (inheritedPieces types) := by
  intro rest apart
  rw [inheritedPieces]
  split
  · trivial
  · refine ⟨Piece.fits_sign (by decide) _, Piece.fits_space _, ?_⟩
    exact stands_commaPieces (List.forall_mem_map.2 fun t there => (each t there).stands) rest apart

theorem IsDeclared.isFullType {name : String} (isName : IsDeclared name) :
    IsFullType (.named name []) :=
  .plain _ (.composed _ (.single _ (.named name [] isName.1 isName.2 fun _ => nofun)))

theorem IsSubject.ungrouped {kind : TypeKind} {subject : TypeExpr}
    (isSubject : IsSubject kind subject) : IsFullType subject := by
  rw [IsSubject] at isSubject
  split at isSubject
  · exact isSubject
  · obtain ⟨name, isName, rfl⟩ := isSubject
    exact isName.isFullType

theorem fitting_linesOf {items : List WrittenItem}
    (each : ∀ item ∈ items, Stands item.pieces) (rest : List Char) :
    Fitting (WrittenItem.linesOf items) rest := by
  induction items with
  | nil => trivial
  | cons item items ih =>
    have later := ih fun other there => each other (List.mem_cons_of_mem item there)
    rw [WrittenItem.linesOf_cons]
    refine (each item List.mem_cons_self _ ?_).append ⟨Piece.fits_newline _, later⟩
    exact apart_cons (by decide)

/-- A declaration with members fits if its body does. -/
theorem fitting_scopePieces {kind : TypeKind} {subject : TypeExpr} {inherits : List TypeExpr}
    {inside : List Piece} (isSubject : IsSubject kind subject)
    (each : ∀ t ∈ inherits, IsFullType t) (lines : ∀ rest, Fitting inside rest)
    (rest : List Char) : Fitting (scopePieces kind subject inherits inside) rest := by
  have brace : Fitting [Piece.sign .closeBrace] rest := ⟨Piece.fits_sign (by decide) _, trivial⟩
  have block : Fitting (.space :: .sign .openBrace :: .newline ::
      (inside ++ [.sign .closeBrace])) rest :=
    ⟨Piece.fits_space _, Piece.fits_sign (by decide) _, Piece.fits_newline _,
      (lines _).append brace⟩
  refine ⟨Piece.fits_word (isWord_spelling _) (apart_cons (by decide)), Piece.fits_space _, ?_⟩
  refine (isSubject.ungrouped.stands _ ?_).append
    ((stands_inheritedPieces each _ ?_).append block)
  · rw [spell_append, List.append_assoc, inheritedPieces]
    split
    · exact apart_cons (by decide)
    · exact apart_cons (by decide)
  · exact apart_cons (by decide)

/-- An item fits in front of the end of its line. -/
theorem WrittenItem.Writable.stands {item : WrittenItem} (writable : item.Writable) :
    Stands item.pieces := by
  intro rest apart
  induction writable generalizing rest with
  | importing heading names h some each =>
    refine (h.fitting _).append ⟨Piece.fits_word (isWord_spelling .importing)
      (apart_cons (by decide)), Piece.fits_space _, ?_⟩
    exact stands_dottedPieces (fun n there => (each n there).1.1) rest apart
  | function heading f h parts =>
    exact (h.fitting _).append (parts.stands rest apart)
  | enumCase heading name associated h isName each =>
    refine (h.fitting _).append ⟨Piece.fits_word (isWord_spelling .enumCase)
      (apart_cons (by decide)), Piece.fits_space _, Piece.fits_word isName ?_,
      stands_associatedPieces each rest apart⟩
    rw [associatedPieces]
    split
    · exact apart
    · exact apart_cons (by decide)
  | property heading isConstant name type h isName isType =>
    have isWord : IsWord (if isConstant then "let" else "var") := by
      cases isConstant
      · exact isWord_spelling .varBinding
      · exact isWord_spelling .letBinding
    exact (h.fitting _).append ⟨Piece.fits_word isWord (apart_cons (by decide)),
      Piece.fits_space _, stands_typedPieces isName isType rest apart⟩
  | scope heading kind subject inherits inside h isSubject each _ ih =>
    have lines := fitting_linesOf fun item there rest => ih item there rest
    rw [pieces, behind_scope]
    exact (h.fitting _).append (fitting_scopePieces isSubject each lines rest)

end Scanning

end ViewModifiers.Interface
