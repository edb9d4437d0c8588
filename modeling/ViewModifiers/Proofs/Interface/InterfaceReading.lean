import ViewModifiers.Proofs.Interface.MemberReading

/-!
# Interfaces read back

Declarations are read one behind the other: each begins with its heading or with a word that ends
the declaration in front of it. The members of a scope come out in the order in which they are
written (`ReadsMembers`). The tokens of a body bound how deep bodies are nested in it
(`readsMembers_membersFrom`), so the text of any items is read back as what they declare
(`readInterface_text`).
-/

namespace ViewModifiers.Interface

open Source Text TokenReader TypeReader DeclarationReader

variable {ts : List Token} {body : TokenReader Members}

/-! ## Members in order -/

namespace Members

/-- Members of a scope with others behind them. -/
def append (m n : Members) : Members where
  imports := m.imports ++ n.imports
  types := m.types ++ n.types
  functions := m.functions ++ n.functions
  cases := m.cases ++ n.cases
  properties := m.properties ++ n.properties

theorem append_assoc (l m n : Members) : (l.append m).append n = l.append (m.append n) := by
  simp only [append, List.append_assoc]

theorem append_empty (m : Members) : m.append empty = m := by
  simp only [append, empty, List.append_nil]

theorem empty_append (m : Members) : empty.append m = m := rfl

end Members

/-- The members of a declaration stand nowhere if the declaration itself does. -/
theorem DeclaredType.unplaced_eq (kind : TypeKind) (name : String) (inherits : List TypeExpr)
    (attributes : List Attribute) (modifiers : List String) (availability : Availability)
    (m : Members) (position : Position) :
    unplaced ⟨kind, name, inherits, attributes, modifiers, availability, m.functions, m.cases,
        m.properties, m.types, position⟩ =
      ⟨kind, name, inherits, attributes, modifiers, availability, m.unplaced.functions,
        m.unplaced.cases, m.unplaced.properties, m.unplaced.types, .start⟩ := by
  rw [unplaced]
  rfl

theorem WrittenItem.types_eq_filterMap (items : List WrittenItem) :
    types items = items.filterMap type? := by
  induction items with
  | nil => rfl
  | cons item items ih =>
    rw [types, ih, List.filterMap_cons]
    cases type? item <;> rfl

theorem WrittenItem.members_cons (item : WrittenItem) (items : List WrittenItem) :
    members (item :: items) = (members [item]).append (members items) := by
  rw [← List.singleton_append]
  simp only [members, Members.append, types_eq_filterMap, List.filterMap_append]

/-- What an item declares stands in front of the members found before, wherever they stand in the
source. -/
structure Adds (item : WrittenItem) (found m : Members) : Prop where
  imports : m.imports = item.importName?.toList ++ found.imports
  types : m.types.map DeclaredType.unplaced =
    item.type?.toList ++ found.types.map DeclaredType.unplaced
  functions : m.functions.map DeclaredFunction.unplaced =
    item.function?.toList ++ found.functions.map DeclaredFunction.unplaced
  cases : m.cases.map DeclaredCase.unplaced =
    item.case?.toList ++ found.cases.map DeclaredCase.unplaced
  properties : m.properties.map DeclaredProperty.unplaced =
    item.property?.toList ++ found.properties.map DeclaredProperty.unplaced

/-- In the order of the source, the members of an item stand behind those found before. -/
theorem Adds.unplaced_reversed {item : WrittenItem} {found m : Members} (adds : Adds item found m) :
    m.reversed.unplaced = found.reversed.unplaced.append (WrittenItem.members [item]) := by
  have last {α : Type} (o : Option α) (xs : List α) :
      (o.toList ++ xs).reverse = xs.reverse ++ o.toList := by
    cases o <;> simp
  have single {α : Type} (f : WrittenItem → Option α) : [item].filterMap f = (f item).toList := by
    rw [List.filterMap_cons]
    cases f item <;> rfl
  simp only [Members.reversed, Members.unplaced, Members.append, WrittenItem.members,
    WrittenItem.types_eq_filterMap, DeclaredType.unplacedTypes_eq_map, List.map_reverse,
    adds.imports, adds.types, adds.functions, adds.cases, adds.properties, last, single]

/-! ## Readings of scopes -/

/-- A reader reads pieces as a scope with certain members, up to the token that closes it. -/
def ReadsScope (r : TokenReader Members) (closer : TokenKind) (xs : List Piece) (gives : Members) :
    Prop :=
  ∀ p ts finish, EndsItem ts → nextKind ts = closer →
    ∃ m, r.run' ⟨placed p xs ++ ts, finish⟩ = (.ok m, ⟨ts, finish⟩) ∧ m.unplaced = gives

/-- A reader reads items as the members of a scope. -/
def ReadsMembers (r : TokenReader Members) (closer : TokenKind) (items : List WrittenItem) : Prop :=
  ReadsScope r closer (WrittenItem.linesOf items) (WrittenItem.members items)

/-- A reader of bodies reads all items with less than a number of tokens. -/
def ReadsBodies (body : TokenReader Members) (n : Nat) : Prop :=
  ∀ items : List WrittenItem, (∀ item ∈ items, item.Writable) →
    (WrittenItem.linesOf items).countP Piece.isToken < n → ReadsMembers body .closeBrace items

/-! ## Headings -/

/-- A keyword that begins a declaration and is not the word for classes. -/
theorem beginsItem_of_kind {t : Token} {us : List Token} {word : Keyword}
    (is : t.kind = .keyword word)
    (declares : beginsDeclaration ⟨.keyword word, "", .start⟩ = true)
    (noClass : word ≠ .classType) : BeginsItem (t :: us) := by
  obtain ⟨kind, value, p⟩ := t
  obtain rfl : kind = .keyword word := is
  refine ⟨⟨word, value, p, us, rfl, declares⟩, fun isClass => ?_⟩
  exact absurd (TokenKind.keyword.inj isClass) noClass

/-- The pieces of a declaration behind its heading have a token. -/
theorem countP_pos_of_begins {xs : List Piece} (begins : ∀ q ts, BeginsItem (placed q xs ++ ts)) :
    0 < xs.countP Piece.isToken := by
  obtain ⟨word, value, p, us, tokens, -⟩ := (begins .start []).begins
  rw [List.append_nil] at tokens
  rw [← length_placed .start xs, tokens]
  exact Nat.succ_pos _

theorem beginsItem_word {k : Keyword} (declares : beginsDeclaration ⟨.keyword k, "", .start⟩ = true)
    (noClass : k ≠ .classType) (p : Position) (us : List Token) :
    BeginsItem (⟨wordKind k.spelling, k.spelling, p⟩ :: us) := by
  rw [wordKind_spelling]
  exact beginsItem_of_kind rfl declares noClass

/-- The word for classes begins a declaration in front of a name that modifies nothing. -/
theorem beginsItem_class {name : String} (isName : IsDeclared name) (p q : Position)
    (us : List Token) :
    BeginsItem (⟨wordKind Keyword.classType.spelling, Keyword.classType.spelling, p⟩ ::
      ⟨wordKind name, name, q⟩ :: us) := by
  have notModifier : name ∉ modifierWords := fun known =>
    isName.2 (List.mem_append_left _ (List.mem_append_left _ known))
  have noWord : modifierWords.contains name = false := by simpa using notModifier
  rw [wordKind_spelling, isName.1.wordKind]
  refine ⟨⟨.classType, _, p, _, rfl, rfl⟩, fun _ finish => ?_⟩
  rw [run'_classModifiesNext]
  change (Except.ok (false || modifierWords.contains name), _) = _
  rw [noWord]
  rfl

/-- A declaration is read behind its heading. -/
theorem run'_declaration {h : WrittenHeading} (writable : h.Writable) {xs : List Piece}
    (begins : ∀ q, BeginsItem (placed q xs ++ ts)) (found : Members) (p finish : Position) :
    (declaration body found).run' ⟨placed p (h.pieces ++ xs) ++ ts, finish⟩ =
      (declarationBehind body found h.declared h.modifiers h.availability).run'
        ⟨placed (p.after (spell h.pieces)) xs ++ ts, finish⟩ := by
  have noSign {kind : TokenKind} (sign : kind.isNameLike = false) (q r : Position) :
      nextKind (placed q (h.modifiers.flatMap wordPieces) ++ (placed r xs ++ ts)) ≠ kind := by
    rcases h.modifiers with _ | ⟨w, words⟩
    · exact (begins r).ne sign
    · exact wordKind_ne sign w
  have attributesRead (q r : Position) : readAttributes.run'
      ⟨placed p (h.attributes.flatMap WrittenAttribute.pieces) ++
        (placed q (h.modifiers.flatMap wordPieces) ++ (placed r xs ++ ts)), finish⟩ =
        (.ok (h.declared, h.availability),
          ⟨placed q (h.modifiers.flatMap wordPieces) ++ (placed r xs ++ ts), finish⟩) :=
    run'_readAttributes writable p finish (noSign rfl q r) (noSign rfl q r) (noSign rfl q r)
  have modifiersRead (q r : Position) := run'_modifiers writable.modifiers q finish (begins r)
  rw [WrittenHeading.pieces, placed_append, placed_append, List.append_assoc, List.append_assoc,
    declaration]
  refine (run'_bind_of_ok (attributesRead _ _)).trans ?_
  exact run'_bind_of_ok (modifiersRead _ _)

/-- A declaration begins with a word or with an attribute. -/
theorem nextKind_heading_ne (h : WrittenHeading) {xs : List Piece} {kind : TokenKind}
    (begins : ∀ q, BeginsItem (placed q xs ++ ts)) (noWord : kind.isNameLike = false)
    (noAttribute : kind ≠ .atSign) (p : Position) :
    nextKind (placed p (h.pieces ++ xs) ++ ts) ≠ kind := by
  rw [WrittenHeading.pieces, List.append_assoc]
  rcases h.attributes with _ | ⟨a, attributes⟩
  · rcases h.modifiers with _ | ⟨w, words⟩
    · exact (begins p).ne noWord
    · exact wordKind_ne noWord w
  · cases a <;> exact noAttribute.symm

/-! ## Declarations with members -/

section Types

/-- Inherited types are read if there are any, and a reader goes on with them. -/
theorem run'_inherited {α : Type} {types : List TypeExpr} (each : ∀ t ∈ types, IsFullType t)
    (f : List TypeExpr → TokenReader α) (p finish : Position) (opens : nextKind ts = .openBrace) :
    (do let inherits ← if ← accept .colon then commaSeparated inheritedType else pure []
        f inherits : TokenReader α).run' ⟨placed p (inheritedPieces types) ++ ts, finish⟩ =
      (f types).run' ⟨ts, finish⟩ := by
  by_cases none : types = []
  · subst none
    have noColon : nextKind ts ≠ .colon := by
      rw [opens]
      exact TokenKind.noConfusion
    exact run'_bind_of_ok (run'_accept_none noColon finish)
  · have list := reads_commaSeparated (f := TypeExpr.pieces) (g := id) none
      (fun t there => reads_inheritedType (each t there))
      fun _ _ _ => ends_of_sign .comma rfl (by decide) rfl
    have listRead (q : Position) := list q ts finish
      ⟨fun _ => ends_of_sign .openBrace opens (by decide) rfl, by simp [opens]⟩
    rw [List.map_id] at listRead
    rw [inheritedPieces, if_neg (by simpa using none), placed_sign, placed_space, List.cons_append,
      run'_bind_of_ok (run'_accept_self _ _ _ _ _), if_pos rfl]
    exact run'_bind_of_ok (listRead _)

/-- The tokens of a declaration with members: its word, its subject, the inherited types, and its
body in braces. -/
theorem exists_placed_scope (kind : TypeKind) (subject : TypeExpr) (inherits : List TypeExpr)
    (inside : List Piece) (p : Position) (ts : List Token) :
    ∃ q r o b c, placed p (scopePieces kind subject inherits inside) ++ ts =
      ⟨.keyword kind.keyword, kind.keyword.spelling, p⟩ :: (placed q subject.pieces ++
        (placed r (inheritedPieces inherits) ++ ⟨.openBrace, "\x7b", o⟩ ::
          (placed b inside ++ ⟨.closeBrace, "\x7d", c⟩ :: ts))) := by
  rw [scopePieces, placed_word, wordKind_spelling, placed_space, placed_append,
    placed_append, placed_space, placed_sign, List.cons_append, List.append_assoc,
    List.append_assoc, List.cons_append, placed_newline, placed_append, List.append_assoc]
  exact ⟨_, _, _, _, _, rfl⟩

/-- The braces of a scope are tokens besides those inside it. -/
theorem countP_scopePieces_lt (kind : TypeKind) (subject : TypeExpr) (inherits : List TypeExpr)
    (inside : List Piece) : inside.countP Piece.isToken <
      (scopePieces kind subject inherits inside).countP Piece.isToken := by
  have brace : (Piece.sign .openBrace).isToken = true := rfl
  rw [scopePieces]
  simp only [List.countP_append, List.countP_cons, if_pos brace]
  omega

/-- The word of a declaration with members begins it in front of its subject. -/
theorem beginsItem_scopePieces {kind : TypeKind} {subject : TypeExpr}
    (isSubject : IsSubject kind subject) (inherits : List TypeExpr) (inside : List Piece)
    (p : Position) (ts : List Token) :
    BeginsItem (placed p (scopePieces kind subject inherits inside) ++ ts) := by
  rw [scopePieces]
  by_cases isClass : kind = .classType
  · subst isClass
    obtain ⟨name, isName, rfl⟩ := isSubject
    rw [TypeExpr.pieces]
    exact beginsItem_class isName _ _ _
  · apply beginsItem_word
    · cases kind <;> rfl
    · cases kind <;> first | exact absurd rfl isClass | decide

/-- A declaration with members is read up to its members. -/
theorem exists_run'_typeDeclaration (body : TokenReader Members) {kind : TypeKind}
    {subject : TypeExpr} {inherits : List TypeExpr} (isSubject : IsSubject kind subject)
    (each : ∀ t ∈ inherits, IsFullType t) (inside : List Piece) (attributes : List Attribute)
    (modifiers : List String) (availability : Availability) (p : Position) (ts : List Token)
    (finish : Position) :
    ∃ b c, (typeDeclaration body kind attributes modifiers availability).run'
        ⟨placed p (scopePieces kind subject inherits inside) ++ ts, finish⟩ =
      (do let m ← body
          let _ ← expect .closeBrace
          return ⟨kind, subject.text, inherits, attributes, modifiers, availability, m.functions,
            m.cases, m.properties, m.types, p⟩ : TokenReader DeclaredType).run'
        ⟨placed b inside ++ ⟨.closeBrace, "\x7d", c⟩ :: ts, finish⟩ := by
  have subjectEnds (q : Position) (us : List Token) (next : nextKind us = .openBrace) :
      Ends reservedWords typeStops (placed q (inheritedPieces inherits) ++ us) := by
    rw [inheritedPieces]
    split
    · exact ends_of_sign .openBrace next (by decide) rfl
    · exact ends_of_sign .colon rfl (by decide) rfl
  obtain ⟨q, r, o, b, c, tokens⟩ := exists_placed_scope kind subject inherits inside p ts
  have nameRead (us : List Token) (next : nextKind us = .openBrace) :=
    run'_typeName isSubject q finish (subjectEnds r us next)
  refine ⟨b, c, ?_⟩
  rw [tokens, typeDeclaration, run'_bind_of_ok (run'_advance _), TokenStream.rest_cons,
    run'_bind_of_ok (nameRead _ rfl)]
  refine (run'_inherited each _ r finish rfl).trans ?_
  refine (run'_bind_of_ok (run'_isAt_none TokenKind.noConfusion finish)).trans ?_
  exact run'_bind_of_ok (run'_expect_self _ _ _ _ _)

theorem run'_declarationBehind_type (found : Members) (kind : TypeKind)
    (attributes : List Attribute) (modifiers : List String) (availability : Availability)
    (value : String) (p : Position) (us : List Token) (finish : Position) :
    (declarationBehind body found attributes modifiers availability).run'
        ⟨⟨.keyword kind.keyword, value, p⟩ :: us, finish⟩ =
      (do let type ← typeDeclaration body kind attributes modifiers availability
          return { found with types := type :: found.types } : TokenReader Members).run'
        ⟨⟨.keyword kind.keyword, value, p⟩ :: us, finish⟩ := by
  cases kind <;> rfl

/-- A declaration with members is read up to its members, and behind them it is put in front of the
members found before. -/
theorem exists_run'_declarationBehind_body (body : TokenReader Members) {kind : TypeKind}
    {subject : TypeExpr} {inherits : List TypeExpr} (isSubject : IsSubject kind subject)
    (each : ∀ t ∈ inherits, IsFullType t) (inside : List Piece) (found : Members)
    (attributes : List Attribute) (modifiers : List String) (availability : Availability)
    (p : Position) (ts : List Token) (finish : Position) :
    ∃ b c, (declarationBehind body found attributes modifiers availability).run'
        ⟨placed p (scopePieces kind subject inherits inside) ++ ts, finish⟩ =
      (do let m ← body
          let _ ← expect .closeBrace
          return { found with types := ⟨kind, subject.text, inherits, attributes, modifiers,
            availability, m.functions, m.cases, m.properties, m.types, p⟩ :: found.types } :
        TokenReader Members).run'
        ⟨placed b inside ++ ⟨.closeBrace, "\x7d", c⟩ :: ts, finish⟩ := by
  obtain ⟨b, c, read⟩ := exists_run'_typeDeclaration body isSubject each inside attributes modifiers
    availability p ts finish
  obtain ⟨r, u, o, b', c', tokens⟩ := exists_placed_scope kind subject inherits inside p ts
  refine ⟨b, c, ?_⟩
  rw [tokens] at read ⊢
  rw [run'_declarationBehind_type, run'_bind, read, ← run'_bind]
  simp only [bind_assoc, pure_bind]

/-- A declaration with members is put in front of the members found before. -/
theorem exists_run'_declarationBehind_scope {kind : TypeKind} {subject : TypeExpr}
    {inherits : List TypeExpr} {xs : List Piece} {gives : Members}
    (isSubject : IsSubject kind subject) (each : ∀ t ∈ inherits, IsFullType t)
    (inside : ReadsScope body .closeBrace xs gives) (found : Members)
    (attributes : List Attribute) (modifiers : List String) (availability : Availability)
    (p : Position) (ts : List Token) (finish : Position) :
    ∃ m : Members, m.unplaced = gives ∧
      (declarationBehind body found attributes modifiers availability).run'
          ⟨placed p (scopePieces kind subject inherits xs) ++ ts, finish⟩ =
        (.ok { found with types := ⟨kind, subject.text, inherits, attributes, modifiers,
          availability, m.functions, m.cases, m.properties, m.types, p⟩ :: found.types },
          ⟨ts, finish⟩) := by
  obtain ⟨b, c, read⟩ := exists_run'_declarationBehind_body body isSubject each xs found attributes
    modifiers availability p ts finish
  obtain ⟨m, bodyRead, same⟩ := inside b (⟨.closeBrace, "\x7d", c⟩ :: ts) finish (.brace rfl) rfl
  refine ⟨m, same, read.trans ?_⟩
  refine (run'_bind_of_ok bodyRead).trans ?_
  exact run'_bind_of_ok (run'_expect_self _ _ _ _ _)

end Types

/-! ## Items -/

namespace WrittenItem

variable {item : WrittenItem}

theorem Writable.heading (writable : item.Writable) : item.heading.Writable := by
  cases writable <;> assumption

/-- The pieces of an item behind its heading begin a declaration. -/
theorem Writable.begins (writable : item.Writable) (q : Position) (ts : List Token) :
    BeginsItem (placed q item.behind ++ ts) := by
  cases writable with
  | importing => exact beginsItem_word (k := .importing) rfl (by decide) _ _
  | function => exact beginsItem_word (k := .function) rfl (by decide) _ _
  | enumCase => exact beginsItem_word (k := .enumCase) rfl (by decide) _ _
  | property h isConstant =>
    cases isConstant
    · exact beginsItem_word (k := .varBinding) rfl (by decide) _ _
    · exact beginsItem_word (k := .letBinding) rfl (by decide) _ _
  | scope h kind subject inherits inside writable isSubject =>
    rw [behind_scope]
    exact beginsItem_scopePieces isSubject _ _ _ _

theorem Writable.countP_pieces_pos (writable : item.Writable) :
    0 < item.pieces.countP Piece.isToken := by
  have behind := countP_pos_of_begins fun q ts => writable.begins q ts
  rw [pieces, List.countP_append]
  omega

/-- A declaration ends where an item begins. -/
theorem Writable.endsItem (writable : item.Writable) (p : Position) (ts : List Token) :
    EndsItem (placed p item.pieces ++ ts) :=
  endsItem_heading _ writable.heading.modifiers (fun q => writable.begins q ts) p

theorem countP_linesOf_lt (h : WrittenHeading) (kind : TypeKind) (subject : TypeExpr)
    (inherits : List TypeExpr) (inside : List WrittenItem) :
    (linesOf inside).countP Piece.isToken <
      (scope h kind subject inherits inside).pieces.countP Piece.isToken := by
  have fewer := countP_scopePieces_lt kind subject inherits (linesOf inside)
  rw [pieces, behind_scope, List.countP_append]
  omega

end WrittenItem

section Items

variable {item : WrittenItem} {n : Nat}

/-- An item is read behind its heading and put in front of the members found before. -/
theorem exists_run'_declarationBehind (bodies : ReadsBodies body n) (writable : item.Writable)
    (small : item.pieces.countP Piece.isToken ≤ n) (found : Members) (q finish : Position)
    (ends : EndsItem ts) :
    ∃ m, (declarationBehind body found item.heading.declared item.heading.modifiers
        item.heading.availability).run' ⟨placed q item.behind ++ ts, finish⟩ =
      (.ok m, ⟨ts, finish⟩) ∧ Adds item found m := by
  cases writable with
  | importing h names _ some each =>
    have next : nextKind (placed q (WrittenItem.importing h names).behind ++ ts) =
      .keyword .importing := wordKind_spelling .importing
    have read := run'_importName some each q finish ends
    rw [declarationBehind, run'_bind_of_ok (run'_current _), kind_current, next]
    exact ⟨_, (run'_bind_of_ok read).trans rfl, rfl, rfl, rfl, rfl, rfl⟩
  | function h f _ parts =>
    have next : nextKind (placed q (WrittenItem.function h f).behind ++ ts) =
      .keyword .function := wordKind_spelling .function
    have read := run'_function parts h.declared h.modifiers h.availability q finish ends
    rw [declarationBehind, run'_bind_of_ok (run'_current _), kind_current, next]
    exact ⟨_, (run'_bind_of_ok read).trans rfl, rfl, rfl, rfl, rfl, rfl⟩
  | enumCase h name associated _ _ each =>
    have next : nextKind (placed q (WrittenItem.enumCase h name associated).behind ++ ts) =
      .keyword .enumCase := wordKind_spelling .enumCase
    have read := run'_enumCases name each h.availability q finish ends
    rw [declarationBehind, run'_bind_of_ok (run'_current _), kind_current, next]
    exact ⟨_, (run'_bind_of_ok read).trans rfl, rfl, rfl, rfl, rfl, rfl⟩
  | property h isConstant name type _ _ isType =>
    have next : nextKind (placed q (WrittenItem.property h isConstant name type).behind ++ ts) =
        .keyword (if isConstant then .letBinding else .varBinding) := by
      cases isConstant
      · exact wordKind_spelling .varBinding
      · exact wordKind_spelling .letBinding
    have read := run'_property (if isConstant then "let" else "var") name isType
      h.modifiers h.availability q finish ends
    rw [declarationBehind, run'_bind_of_ok (run'_current _), kind_current, next]
    refine ⟨{ found with
      properties := ⟨name, type, h.modifiers, h.availability, q⟩ :: found.properties }, ?_,
      rfl, rfl, rfl, rfl, rfl⟩
    cases isConstant <;> exact (run'_bind_of_ok read).trans rfl
  | scope h kind subject inherits inside _ isSubject each parts =>
    have fewer := Nat.lt_of_lt_of_le
      (WrittenItem.countP_linesOf_lt h kind subject inherits inside) small
    obtain ⟨m, members, read⟩ := exists_run'_declarationBehind_scope isSubject each
      (bodies inside parts fewer) found h.declared h.modifiers h.availability q ts finish
    rw [WrittenItem.behind_scope]
    refine ⟨_, read, rfl, ?_, rfl, rfl, rfl⟩
    rw [List.map_cons, DeclaredType.unplaced_eq, members, WrittenItem.type?]
    rfl

end Items

/-! ## Scopes -/

section Scopes

variable {items : List WrittenItem} {terminator : TokenKind} {n : Nat}

/-- Reads one more declaration, unless the scope ends. -/
def memberStep (body : TokenReader Members) (terminator : TokenKind) (found : Members) :
    TokenReader (Members ⊕ Members) := do
  let t ← current
  if t.kind = terminator || t.kind = .endOfFile then return .inr found.reversed
  else if t.kind = .semicolon then
    let _ ← advance
    return .inl found
  else if t.kind = .closeBrace then fail (.unexpected "\x7d")
  else return .inl (← declaration body found)

theorem membersWith_eq (body : TokenReader Members) (terminator : TokenKind) :
    membersWith body terminator = iterate .empty (memberStep body terminator) := rfl

/-- Lines of items end where a scope ends that they are the last lines of. -/
theorem endsItem_linesOf (writable : ∀ item ∈ items, item.Writable) (p : Position)
    (ends : EndsItem ts) : EndsItem (placed p (WrittenItem.linesOf items) ++ ts) := by
  cases items with
  | nil => exact ends
  | cons item items =>
    rw [WrittenItem.linesOf_cons, placed_append, List.append_assoc]
    exact (writable item List.mem_cons_self).endsItem p _

/-- The step for a declaration with its heading. -/
theorem run'_memberStep_declaration {h : WrittenHeading} (writable : h.Writable) {xs : List Piece}
    (begins : ∀ q, BeginsItem (placed q xs ++ ts))
    (closer : terminator ∈ [.closeBrace, .endOfFile]) (found : Members) (p finish : Position) :
    (memberStep body terminator found).run' ⟨placed p (h.pieces ++ xs) ++ ts, finish⟩ =
      (do return .inl (← declarationBehind body found h.declared h.modifiers h.availability) :
        TokenReader (Members ⊕ Members)).run'
        ⟨placed (p.after (spell h.pieces)) xs ++ ts, finish⟩ := by
  have noWord : terminator.isNameLike = false ∧ terminator ≠ .atSign :=
    (by decide : ∀ k ∈ [TokenKind.closeBrace, .endOfFile], k.isNameLike = false ∧ k ≠ .atSign)
      terminator closer
  have notClosed : decide (nextKind (placed p (h.pieces ++ xs) ++ ts) = terminator) = false :=
    decide_eq_false (nextKind_heading_ne h begins noWord.1 noWord.2 p)
  have noEnd : decide (nextKind (placed p (h.pieces ++ xs) ++ ts) = .endOfFile) = false :=
    decide_eq_false (nextKind_heading_ne h begins rfl (by decide) p)
  have noSemicolon : nextKind (placed p (h.pieces ++ xs) ++ ts) ≠ .semicolon :=
    nextKind_heading_ne h begins rfl (by decide) p
  have noBrace : nextKind (placed p (h.pieces ++ xs) ++ ts) ≠ .closeBrace :=
    nextKind_heading_ne h begins rfl (by decide) p
  rw [memberStep, run'_bind_of_ok (run'_current _), kind_current, notClosed, noEnd, Bool.or_self,
    if_neg Bool.false_ne_true, if_neg noSemicolon, if_neg noBrace, run'_bind, run'_bind,
    run'_declaration writable begins]

/-- The step for one item. -/
theorem exists_run'_memberStep (bodies : ReadsBodies body n) {item : WrittenItem}
    (writable : item.Writable) (small : item.pieces.countP Piece.isToken ≤ n)
    (closer : terminator ∈ [.closeBrace, .endOfFile]) (found : Members) (p finish : Position)
    (ends : EndsItem ts) :
    ∃ m, (memberStep body terminator found).run' ⟨placed p item.pieces ++ ts, finish⟩ =
      (.ok (.inl m), ⟨ts, finish⟩) ∧ Adds item found m := by
  obtain ⟨m, read, adds⟩ := exists_run'_declarationBehind bodies writable small found
    (p.after (spell item.heading.pieces)) finish ends
  refine ⟨m, ?_, adds⟩
  rw [WrittenItem.pieces, run'_memberStep_declaration writable.heading
    (fun q => writable.begins q ts) closer]
  exact run'_bind_of_ok read

/-- Items are read one by one and put in front of the members found before. -/
theorem exists_steps_members (bodies : ReadsBodies body n)
    (writable : ∀ item ∈ items, item.Writable)
    (small : (WrittenItem.linesOf items).countP Piece.isToken ≤ n)
    (closer : terminator ∈ [.closeBrace, .endOfFile]) (found : Members) (p finish : Position)
    (ends : EndsItem ts) :
    ∃ m, Steps (memberStep body terminator) found
        ⟨placed p (WrittenItem.linesOf items) ++ ts, finish⟩ m ⟨ts, finish⟩ ∧
      m.reversed.unplaced = found.reversed.unplaced.append (WrittenItem.members items) := by
  induction items generalizing p found with
  | nil => exact ⟨found, .refl _ _, (Members.append_empty _).symm⟩
  | cons item items ih =>
    have later : ∀ item ∈ items, item.Writable := fun other there =>
      writable other (List.mem_cons_of_mem item there)
    rw [WrittenItem.linesOf_cons, List.countP_append, List.countP_cons_of_neg Bool.false_ne_true]
      at small
    -- An item ends where the next line begins, and the last one where the scope ends.
    have nextEnds (q : Position) := endsItem_linesOf later q ends
    obtain ⟨m, read, adds⟩ := exists_run'_memberStep bodies (writable item List.mem_cons_self)
      (by omega) closer found p finish (nextEnds ((p.after (spell item.pieces)).next '\n'))
    obtain ⟨l, steps, members⟩ := ih later (by omega) m
      ((p.after (spell item.pieces)).next '\n')
    refine ⟨l, .next (b := m) ?_ ?_ steps, ?_⟩
    · rw [WrittenItem.linesOf_cons, placed_append, placed_newline, List.append_assoc]
      exact read
    · have tokens := (writable item List.mem_cons_self).countP_pieces_pos
      rw [WrittenItem.linesOf_cons, placed_append, placed_newline]
      simp only [List.length_append, length_placed]
      omega
    · rw [members, adds.unplaced_reversed, Members.append_assoc, ← WrittenItem.members_cons]

/-- At the end of a scope its members are those found. -/
theorem run'_memberStep_end (closes : nextKind ts = terminator) (found : Members)
    (finish : Position) : (memberStep body terminator found).run' ⟨ts, finish⟩ =
      (.ok (.inr found.reversed), ⟨ts, finish⟩) := by
  have atEnd : decide (nextKind ts = terminator) = true := decide_eq_true closes
  rw [memberStep, run'_bind_of_ok (run'_current _), kind_current, atEnd]
  rfl

/-- Items are read as the members of a scope, if the bodies among them are read. -/
theorem readsMembers_membersWith (bodies : ReadsBodies body n)
    (writable : ∀ item ∈ items, item.Writable)
    (small : (WrittenItem.linesOf items).countP Piece.isToken ≤ n)
    (closer : terminator ∈ [.closeBrace, .endOfFile]) :
    ReadsMembers (membersWith body terminator) terminator items := by
  intro p ts finish ends closes
  obtain ⟨m, steps, members⟩ :=
    exists_steps_members bodies writable small closer .empty p finish ends
  refine ⟨m.reversed, ?_, members.trans (Members.empty_append _)⟩
  rw [membersWith_eq]
  exact run'_iterate steps (run'_memberStep_end closes m finish)

/-- Bodies nested as deep as there are tokens are read. -/
theorem readsMembers_membersFrom (measure : List Token) (items : List WrittenItem)
    (writable : ∀ item ∈ items, item.Writable)
    (small : (WrittenItem.linesOf items).countP Piece.isToken ≤ measure.length)
    (closer : terminator ∈ [.closeBrace, .endOfFile]) :
    ReadsMembers (membersFrom measure terminator) terminator items := by
  induction measure generalizing items terminator with
  | nil =>
    -- Without a token there is no item, so no body is read.
    have bodies : ReadsBodies (fail .nestedTooDeeply) 0 := fun _ _ fewer =>
      absurd fewer (Nat.not_lt_zero _)
    exact readsMembers_membersWith bodies writable small closer
  | cons t measure ih =>
    have bodies : ReadsBodies (membersFrom measure .closeBrace) (measure.length + 1) :=
      fun inside parts fewer => ih inside parts (Nat.le_of_lt_succ fewer) List.mem_cons_self
    exact readsMembers_membersWith bodies writable small closer

theorem readsBodies_membersFrom (measure : List Token) :
    ReadsBodies (membersFrom measure .closeBrace) (measure.length + 1) :=
  fun inside parts fewer => readsMembers_membersFrom measure inside parts
    (Nat.le_of_lt_succ fewer) List.mem_cons_self

end Scopes

/-! ## Whole interfaces -/

/-- Items are read up to the end of the file. -/
theorem exists_run'_readSourceFile {items : List WrittenItem}
    (writable : ∀ item ∈ items, item.Writable) (finish : Position) :
    ∃ f, readSourceFile.run' ⟨placed .start (WrittenItem.linesOf items), finish⟩ =
      (.ok f, ⟨[], finish⟩) ∧ f.unplaced = WrittenItem.interface items := by
  have closer : TokenKind.endOfFile ∈ [.closeBrace, .endOfFile] := by decide
  have bound : (WrittenItem.linesOf items).countP Piece.isToken ≤
      (placed .start (WrittenItem.linesOf items)).length := by rw [length_placed]
  obtain ⟨m, read, members⟩ :=
    readsMembers_membersFrom _ items writable bound closer .start [] finish .finish rfl
  rw [List.append_nil] at read
  refine ⟨⟨m.imports, m.types, m.functions⟩, run'_bind_of_ok read, ?_⟩
  rw [WrittenItem.interface, ← members]
  rfl

/-- The text of items is read back as the interface that they make up. -/
theorem readInterface_text (items : List WrittenItem) (writable : ∀ item ∈ items, item.Writable) :
    (readInterface (WrittenItem.text items)).map InterfaceFile.unplaced =
      .ok (WrittenItem.interface items) := by
  have scanned := scan_of_fitting
    (fitting_linesOf (fun item there => (writable item there).stands) [])
  obtain ⟨f, read, interface⟩ := exists_run'_readSourceFile writable
    (Position.start.after (spell (WrittenItem.linesOf items)))
  rw [readInterface, WrittenItem.text, scanned, ← interface]
  change (readSourceFile.run' _).1.map InterfaceFile.unplaced = _
  rw [read]
  rfl

/-- A generic function with a requirement, two names for a parameter and a default value. -/
def badgeFunction : WrittenFunction where
  name := "badge"
  generics := [⟨"T", [.named "Equatable" [], .named "Hashable" []]⟩, ⟨"V", []⟩]
  parameters :=
    [⟨[], "for", some "value", .named "T" [], none⟩,
      ⟨["Builder"], "content", none, .function [] (.named "V" []) false false,
        some (.word "nil")⟩]
  result := some (.quantified .some (.named "View" []))

/-- The members of an enum. -/
def styleMembers : List WrittenItem :=
  [.enumCase ⟨[], []⟩ "plain" [], .enumCase ⟨[], []⟩ "custom" [.array (.named "Style" [])],
    .property ⟨[], ["static"]⟩ false "count" (.named "Int" [])]

/-- An interface with declarations of most kinds. -/
def badgeItems : List WrittenItem :=
  [.importing ⟨[], []⟩ ["SwiftUI", "Core"],
    .scope ⟨[.available [("iOS", "14.0"), ("macOS", "11.0")]], ["public"]⟩ .extending
      (.named "View" []) []
      [.function ⟨[.plain "inlinable"], ["nonisolated"]⟩ badgeFunction,
        .scope ⟨[], ["indirect"]⟩ .enumType (.named "Style" []) [.named "Equatable" []]
          styleMembers],
    .scope ⟨[], ["final"]⟩ .classType (.named "Empty" []) [] []]

theorem readInterface_text_badgeItems :
    WrittenItem.text badgeItems = String.ofList (List.flatMap String.toList
        ["import SwiftUI.Core\n",
          "@available(iOS 14.0, macOS 11.0, *) ", "public extension View \x7b\n",
          "@inlinable nonisolated func badge", "<T: Equatable, V>(for value: T, ",
          "@Builder content: () -> V = nil)", " -> some View where T: Hashable\n",
          "indirect enum Style: Equatable \x7b\n",
          "case plain\n",
          "case custom([Style])\n",
          "static var count: Int\n",
          "\x7d\n\x7d\n",
          "final class Empty \x7b\n",
          "\x7d\n"]) ∧
      (readInterface (WrittenItem.text badgeItems)).map InterfaceFile.unplaced =
        .ok (WrittenItem.interface badgeItems) := by
  have word (name : String)
      (known : name ∈ ["iOS", "macOS", "View", "inlinable", "badge", "T", "Equatable", "Hashable",
        "V", "for", "value", "Builder", "content", "nil", "Style", "plain", "custom", "count",
        "Int", "SwiftUI", "Core", "Empty"]) : IsWord name := by
    simp only [List.mem_cons, List.not_mem_nil, or_false] at known
    rcases known with rfl | rfl | rfl | rfl | rfl | rfl | rfl | rfl | rfl | rfl | rfl | rfl |
      rfl | rfl | rfl | rfl | rfl | rfl | rfl | rfl | rfl | rfl <;>
      exact isWord_of_name rfl (by decide) (by decide)
  have declared (name : String)
      (known : name ∈ ["View", "T", "V", "Equatable", "Hashable", "Style", "Int", "SwiftUI",
        "Core", "Empty"]) : IsDeclared name := by
    refine ⟨⟨word name ?_, ?_⟩, ?_⟩ <;> revert name <;> decide
  have named (name : String)
      (known : name ∈ ["View", "T", "V", "Equatable", "Hashable", "Style", "Int"]) :
      IsFullType (.named name []) := by
    refine (declared name ?_).isFullType
    revert name
    decide
  have free (modifiers : List String) (known : ∀ m ∈ modifiers, m ∈ modifierWords) :
      (WrittenHeading.mk [] modifiers).Writable := ⟨nofun, Nat.zero_le 1, known⟩
  have available : (WrittenHeading.mk [.available [("iOS", "14.0"), ("macOS", "11.0")]]
      ["public"]).Writable := by
    refine ⟨List.forall_mem_singleton.2 (List.forall_mem_cons.2 ⟨⟨word _ (by decide), ?_⟩,
      List.forall_mem_singleton.2 ⟨word _ (by decide), ?_⟩⟩), Nat.le_refl 1, by decide⟩
    · exact ⟨_, _, rfl, by decide, by decide⟩
    · exact ⟨_, _, rfl, by decide, by decide⟩
  have inlinable : (WrittenHeading.mk [.plain "inlinable"] ["nonisolated"]).Writable :=
    ⟨List.forall_mem_singleton.2 (word _ (by decide)), Nat.zero_le 1, by decide⟩
  have value : (WrittenParameter.mk [] "for" (some "value") (.named "T" []) none).Writable := by
    refine ⟨nofun, word _ (by decide), ?_, named _ (by decide), nofun⟩
    rintro _ ⟨⟩
    exact word _ (by decide)
  have content : (WrittenParameter.mk ["Builder"] "content" none
      (.function [] (.named "V" []) false false) (some (.word "nil"))).Writable := by
    refine ⟨List.forall_mem_singleton.2 (word _ (by decide)), word _ (by decide), nofun,
      .plain _ (.function _ _ _ _ nofun (named _ (by decide))), ?_⟩
    rintro _ ⟨⟩
    exact word _ (by decide)
  have badge : badgeFunction.Writable := by
    refine ⟨word _ (by decide), by decide, List.forall_mem_cons.2 ⟨⟨declared _ (by decide), ?_⟩,
      List.forall_mem_singleton.2 ⟨declared _ (by decide), nofun⟩⟩,
      List.forall_mem_cons.2 ⟨value, List.forall_mem_singleton.2 content⟩, ?_⟩
    · exact List.forall_mem_cons.2
        ⟨named _ (by decide), List.forall_mem_singleton.2 (named _ (by decide))⟩
    · rintro _ ⟨⟩
      exact .plain _ (.quantified _ _ (.single _ (.named _ _ (declared _ (by decide)).1
        (declared _ (by decide)).2 nofun)))
  have style : ∀ item ∈ styleMembers, item.Writable := by
    refine List.forall_mem_cons.2 ⟨.enumCase _ _ _ (free [] nofun) (word _ (by decide)) nofun,
      List.forall_mem_cons.2 ⟨.enumCase _ _ _ (free [] nofun) (word _ (by decide)) ?_,
        List.forall_mem_singleton.2 ?_⟩⟩
    · exact List.forall_mem_singleton.2
        (.plain _ (.composed _ (.single _ (.array _ (named _ (by decide))))))
    · exact .property _ _ _ _ (free _ (by decide)) (word _ (by decide)) (named _ (by decide))
  refine ⟨congrArg String.ofList (by decide +kernel), readInterface_text badgeItems
    (List.forall_mem_cons.2 ⟨?_, List.forall_mem_cons.2 ⟨?_, List.forall_mem_singleton.2 ?_⟩⟩)⟩
  · exact .importing _ _ (free [] nofun) (by decide) (List.forall_mem_cons.2
      ⟨declared _ (by decide), List.forall_mem_singleton.2 (declared _ (by decide))⟩)
  · refine .scope _ _ _ _ _ available (named _ (by decide)) nofun
      (List.forall_mem_cons.2 ⟨.function _ _ inlinable badge, List.forall_mem_singleton.2 ?_⟩)
    exact .scope _ _ _ _ _ (free _ (by decide)) ⟨_, declared _ (by decide), rfl⟩
      (List.forall_mem_singleton.2 (named _ (by decide))) style
  · exact .scope _ _ _ _ _ (free _ (by decide)) ⟨_, declared _ (by decide), rfl⟩ nofun nofun

end ViewModifiers.Interface
