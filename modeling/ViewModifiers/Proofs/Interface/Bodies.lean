import ViewModifiers.Proofs.Interface.DeclarationsInStep
import ViewModifiers.Proofs.Interface.InterfaceReading
import ViewModifiers.Proofs.Interface.Skipping

/-!
# Bodies

A body is made of members that are kept and of declarations that are not (`Body`). A member is
described by what its reader takes in front of a closing brace (`Takes`), wherever its tokens stand.
A declaration that is not kept is described by its tokens: attributes, modifiers, a word, and quiet
tokens (`Unsupported`).
-/

namespace ViewModifiers.Interface

open Source TokenReader TypeReader DeclarationReader

variable {α : Type}

/-! ## Taking tokens -/

/-- A reader takes all of some tokens in front of the brace that closes their scope. -/
def Takes (r : TokenReader α) (tokens : List Token) (a : α) : Prop :=
  ∃ brace p q, brace.kind = .closeBrace ∧ r.run' ⟨tokens ++ [brace], p⟩ = (.ok a, ⟨[brace], q⟩)

section Takes

variable {r : TokenReader α} {tokens tokens' behind : List Token} {a : α}

/-- What is taken in front of a brace is taken in front of other tokens. -/
theorem Takes.exists_run' {lost : TokenStream → Prop} {R : α → α → Prop}
    {P : TokenStream → α → TokenStream → Prop} (takes : Takes r tokens a)
    (ends : EndsWithoutDot tokens) (same : shape tokens = shape tokens')
    (follows : mayFollow (nextKind behind) = true) (fares : ∀ s, Fares True r s (P s))
    (inStep : ∀ (w : Setting) (s s' : TokenStream), w.piece = tokens → w.behind = behind →
      w.Start s s' → s.ahead = tokens ++ [w.brace] →
        InStep lost r r s s' fun a a' t t' => R a a' ∧ w.Along t t')
    (goes : ∀ brace q, ¬lost ⟨[brace], q⟩) (p : Position) :
    ∃ a', r.run' ⟨tokens' ++ behind, p⟩ = (.ok a', ⟨behind, p⟩) ∧ R a a' := by
  obtain ⟨brace, q, q', closes, run⟩ := takes
  let w : Setting := ⟨tokens, brace, behind, closes, follows, ends⟩
  rcases inStep w _ _ rfl rfl (w.start same q p) rfl a _ run with
    isLost | ⟨a', t, run', alike, along⟩
  · exact absurd isLost (goes brace q')
  · refine ⟨a', ?_, alike⟩
    have left := ((fares _).of_ok run').1
    have ahead : t.ahead = behind := along.ahead_eq rfl
    rw [run']
    rcases t with ⟨ts, p'⟩
    obtain rfl : ts = behind := ahead
    obtain rfl : p' = p := left.finish
    rfl

/-- Tokens that a reader takes begin with what it expects. -/
theorem Takes.exists_cons_of_expect {kind : TokenKind} {f : Token → TokenReader α}
    (noBrace : kind ≠ .closeBrace) (takes : Takes (expect kind >>= f) tokens a) :
    ∃ t ts, tokens = t :: ts ∧ t.kind = kind := by
  obtain ⟨brace, p, q, closes, run⟩ := takes
  obtain ⟨t, s, ran, -⟩ := exists_of_run'_bind run
  rw [run'_expect] at ran
  cases tokens with
  | nil =>
    have other : brace.kind ≠ kind := fun is => noBrace (is.symm.trans closes)
    rw [List.nil_append, TokenStream.current_cons, if_neg other] at ran
    cases ran
  | cons t ts =>
    refine ⟨t, ts, rfl, ?_⟩
    by_contra other
    rw [List.cons_append, TokenStream.current_cons, if_neg other] at ran
    cases ran

/-- Attributes begin with their sign. -/
theorem Takes.nextKind_of_readAttributes {found : List Attribute × Availability}
    (takes : Takes readAttributes tokens found) : tokens = [] ∨ nextKind tokens = .atSign := by
  obtain ⟨brace, p, q, closes, run⟩ := takes
  cases tokens with
  | nil => exact .inl rfl
  | cons t ts =>
    by_contra other
    have noSign : nextKind (t :: ts ++ [brace]) ≠ .atSign := fun sign => other (.inr sign)
    have none : (many AttributeReader.attribute?).run' ⟨t :: ts ++ [brace], p⟩ =
        (.ok [], ⟨t :: ts ++ [brace], p⟩) := by
      refine run'_iterate (.refl _ _) ?_
      rw [run'_bind_of_ok (run'_attribute?_none p noSign)]
      rfl
    rw [readAttributes, run'_bind_of_ok none] at run
    simp at run

end Takes

/-! ## Headings -/

/-- Tokens in front of a declaration: attributes, and modifiers without arguments. -/
inductive Heads : List Token → List Attribute → List String → Availability → Prop
  | mk {signs words : List Token} {attributes : List Attribute} {availability : Availability}
      (reads : Takes readAttributes signs (attributes, availability))
      (ends : EndsWithoutDot signs)
      (plain : ∀ t ∈ words, isModifierWord t = true ∨ t.kind = .keyword .classType) :
      Heads (signs ++ words) attributes (words.map Token.value) availability

/-! ## Members that are kept -/

/-- Tokens declare members that have none of their own: a function, enum cases or a property. None
ends in a dot, since a raw value is a literal, and no type at the end of one ends in a bare word. -/
inductive Declares : List Token → Members → Prop
  | function {heading tokens : List Token} {attributes : List Attribute} {modifiers : List String}
      {availability : Availability} {f : DeclaredFunction}
      (heads : Heads heading attributes modifiers availability)
      (reads : Takes (function attributes modifiers availability) tokens f)
      (ends : EndsWithoutDot tokens) (firm : EndsFirmly tokens) :
      Declares (heading ++ tokens) ⟨[], [], [f], [], []⟩
  | enumCases {heading tokens : List Token} {attributes : List Attribute} {modifiers : List String}
      {availability : Availability} {cases : List DeclaredCase}
      (heads : Heads heading attributes modifiers availability)
      (reads : Takes (enumCases availability) tokens cases) (ends : EndsWithoutDot tokens) :
      Declares (heading ++ tokens) ⟨[], [], [], cases, []⟩
  | property {heading tokens behind : List Token} {word name colon : Token}
      {attributes : List Attribute} {modifiers : List String} {availability : Availability}
      {type : TypeExpr} (heads : Heads heading attributes modifiers availability)
      (isWord : word.kind = .keyword .varBinding ∨ word.kind = .keyword .letBinding)
      (isName : name.kind.isNameLike = true) (isColon : colon.kind = .colon)
      (reads : Takes readType tokens type) (ends : EndsWithoutDot tokens)
      (firm : EndsFirmly tokens) (quiet : Quiet behind)
      (starts : behind = [] ∨ nextKind behind = .equals ∨ nextKind behind = .openBrace) :
      Declares (heading ++ word :: name :: colon :: (tokens ++ behind))
        ⟨[], [], [], [], [⟨name.value, type, modifiers, availability, word.position⟩]⟩

/-- A declaration with the members of a scope. -/
def DeclaredType.holding (type : DeclaredType) (m : Members) : DeclaredType :=
  { type with functions := m.functions, cases := m.cases, properties := m.properties,
              nested := m.types }

/-- Tokens in front of the braces around the members of a declaration. -/
inductive OpensScope : List Token → DeclaredType → Prop
  | mk {heading more : List Token} {word next first : Token} {kind : TypeKind} {name : String}
      {inherits : List TypeExpr} {attributes : List Attribute} {modifiers : List String}
      {availability : Availability} (heads : Heads heading attributes modifiers availability)
      (isWord : word.kind = .keyword kind.keyword)
      (noModifier : kind = .classType →
        beginsDeclaration next = false ∧ isModifierWord next = false)
      (reads : Takes (scopeHeading kind) (word :: next :: more) (first, name, inherits))
      (ends : EndsWithoutDot (word :: next :: more)) :
      OpensScope (heading ++ word :: next :: more)
        ⟨kind, name, inherits, attributes, modifiers, availability, [], [], [], [], word.position⟩

/-! ## Declarations that are not kept -/

/-- The words of the declarations that are not kept. -/
def unsupportedWords : List Keyword :=
  [.typeAlias, .initializer, .deinitializer, .subscripting, .associatedType, .operatorSign,
    .precedenceGroup, .macroRule]

/-- Tokens are a declaration that is not kept. -/
inductive Unsupported : List Token → Prop
  | mk {signs modifiers behind : List Token} {word : Token} {keyword : Keyword}
      {found : List Attribute × Availability} {names : List String}
      (reads : Takes readAttributes signs found) (ends : EndsWithoutDot signs)
      (modifying : Modifying modifiers names) (isWord : word.kind = .keyword keyword)
      (known : keyword ∈ unsupportedWords) (quiet : Quiet behind) :
      Unsupported (signs ++ (modifiers ++ word :: behind))

/-! ## Bodies -/

/-- Tokens are a body with certain members, wherever these stand. -/
inductive Body : List Token → Members → Prop
  | nil : Body [] .empty
  | separator {t : Token} {ts : List Token} {m : Members} (semicolon : t.kind = .semicolon)
      (later : Body ts m) : Body (t :: ts) m
  | member {tokens tokens' ts : List Token} {m n : Members} (declares : Declares tokens m)
      (same : shape tokens = shape tokens') (later : Body ts n) :
      Body (tokens' ++ ts) (m.append n)
  | scope {tokens tokens' inner ts : List Token} {opening closing : Token} {type : DeclaredType}
      {m n : Members} (opens : OpensScope tokens type) (same : shape tokens = shape tokens')
      (isOpening : opening.kind = .openBrace) (isClosing : closing.kind = .closeBrace)
      (inside : Body inner m) (later : Body ts n) :
      Body (tokens' ++ opening :: (inner ++ closing :: ts))
        (Members.append ⟨[], [type.holding m], [], [], []⟩ n)
  | skipped {tokens ts : List Token} {m : Members} (unsupported : Unsupported tokens)
      (later : Body ts m) : Body (tokens ++ ts) m

/-! ## How members begin -/

/-- Whether a token of a kind may be the first one of a declaration. -/
def opensMember (kind : TokenKind) : Bool := endsItem kind && (kind = .atSign || kind.isNameLike)

theorem opensMember_of_next {u : Token} (isName : u.kind.isNameLike = true)
    (next : (beginsDeclaration u || isModifierWord u) = true) : opensMember u.kind = true := by
  have ends : endsItem u.kind = true := by
    rcases Bool.or_eq_true_iff.1 next with begins | modifies
    · exact (EndsItem.begins begins : EndsItem [u]).kind
    · rw [Modifying.kind_of_isModifierWord modifies]
      rfl
  rw [opensMember, ends, isName, Bool.or_true, Bool.and_self]

namespace Heads

variable {heading heading' us : List Token} {attributes : List Attribute} {modifiers : List String}
  {availability : Availability}

/-- A heading of the same shape consists of attributes, which are read alike in front of something
that is none, and of the same modifiers. -/
theorem exists_parts (heads : Heads heading attributes modifiers availability)
    (same : shape heading = shape heading') :
    ∃ signs words, heading' = signs ++ words ∧ (signs = [] ∨ nextKind signs = .atSign) ∧
      modifiers = words.map Token.value ∧
      (∀ t ∈ words, isModifierWord t = true ∨ t.kind = .keyword .classType) ∧
      ∀ us p, endsItem (nextKind us) = true → nextKind us ≠ .atSign →
        readAttributes.run' ⟨signs ++ us, p⟩ = (.ok (attributes, availability), ⟨us, p⟩) := by
  obtain @⟨signs, words, _, _, reads, ends, plain⟩ := heads
  obtain ⟨signs', words', rfl, sameSigns, sameWords⟩ := exists_append_of_shape same
  have contents := contents_eq_of_shape sameWords
  refine ⟨signs', words', rfl, ?_, ?_, fun t there => ?_, fun us p ends' noSign => ?_⟩
  · rcases reads.nextKind_of_readAttributes with rfl | sign
    · exact .inl (eq_nil_of_shape sameSigns)
    · exact .inr (nextKind_eq_of_shape sameSigns ▸ sign)
  · have project : Token.value = Prod.snd ∘ Token.content := rfl
    rw [project, ← List.map_map, ← List.map_map, contents]
  · obtain ⟨u, here, content⟩ := List.mem_map.1 (contents ▸ List.mem_map_of_mem there)
    rw [← isModifierWord_eq content, ← Token.kind_eq content]
    exact plain u here
  · have follows : mayFollow (nextKind us) = true := by rw [mayFollow, ends']; rfl
    obtain ⟨_, run, rfl⟩ := reads.exists_run' ends sameSigns follows leaves_readAttributes
      (fun w s s' _ behind start _ => inStep_readAttributes_of_ne (behind ▸ noSign) start)
      (fun _ _ => id) p
    exact run

section Behind

variable (heads : Heads heading attributes modifiers availability)
  (same : shape heading = shape heading') (begins : BeginsItem us)

include heads same begins

/-- A declaration is read behind its heading. -/
theorem run'_declaration (body : TokenReader Members) (found : Members) (p : Position) :
    (declaration body found).run' ⟨heading' ++ us, p⟩ =
      (declarationBehind body found attributes modifiers availability).run' ⟨us, p⟩ := by
  obtain ⟨signs, words, rfl, -, rfl, plain, run⟩ := heads.exists_parts same
  have modifying := Modifying.of_plain plain
  obtain ⟨u, vs, tokens, isName, next⟩ := modifying.exists_next begins
  have ends : endsItem (nextKind (words ++ us)) = true := by
    rw [tokens]
    exact (Bool.and_eq_true_iff.1 (opensMember_of_next isName next)).1
  have noSign : nextKind (words ++ us) ≠ .atSign := by
    rw [tokens]
    intro sign
    rw [show u.kind = .atSign from sign] at isName
    cases isName
  rw [List.append_assoc, declaration, run'_bind_of_ok (run _ p ends noSign)]
  exact run'_bind_of_ok (modifying.run'_modifiers begins p)

/-- A declaration with a heading stands behind a whole declaration. -/
theorem endsItem : EndsItem (heading' ++ us) := by
  obtain ⟨signs, words, rfl, sign, -, plain, -⟩ := heads.exists_parts same
  rw [List.append_assoc]
  cases signs with
  | nil =>
    rw [List.nil_append]
    exact Modifying.endsItem_of_plain plain begins
  | cons t signs =>
    have isSign : t.kind = .atSign := sign.resolve_left (List.cons_ne_nil _ _)
    exact .begins (by rw [beginsDeclaration, isSign])

theorem opensMember : opensMember (nextKind (heading' ++ us)) = true := by
  obtain ⟨signs, words, rfl, sign, -, plain, -⟩ := heads.exists_parts same
  rw [List.append_assoc]
  cases signs with
  | nil =>
    obtain ⟨u, vs, tokens, isName, next⟩ := (Modifying.of_plain plain).exists_next begins
    rw [List.nil_append, tokens]
    exact opensMember_of_next isName next
  | cons t signs =>
    have isSign : t.kind = .atSign := sign.resolve_left (List.cons_ne_nil _ _)
    rw [List.cons_append, nextKind_cons, isSign]
    rfl

end Behind

end Heads

/-! ## Reading members -/

namespace Members

/-- Members found so far, backwards, with others behind them. -/
def adding (found m : Members) : Members where
  imports := m.imports.reverse ++ found.imports
  types := m.types.reverse ++ found.types
  functions := m.functions.reverse ++ found.functions
  cases := m.cases.reverse ++ found.cases
  properties := m.properties.reverse ++ found.properties

theorem unplaced_reversed_adding (found m : Members) :
    (found.adding m).reversed.unplaced = found.reversed.unplaced.append m.unplaced := by
  simp only [adding, reversed, unplaced, append, DeclaredType.unplacedTypes_eq_map,
    List.reverse_append, List.reverse_reverse, List.map_append]

end Members

theorem mayFollow_of_endsItem {kind : TokenKind} (ends : endsItem kind = true) :
    mayFollow kind = true := by
  rw [mayFollow, ends]
  rfl

namespace Heads

variable {heading heading' tokens tokens' us : List Token} {attributes : List Attribute}
  {modifiers : List String} {availability : Availability}

section Reading

variable (heads : Heads heading attributes modifiers availability)
  (sameHeading : shape heading = shape heading') (same : shape tokens = shape tokens')
  (ends : EndsWithoutDot tokens) (body : TokenReader Members) (found : Members) (p : Position)

include heads sameHeading same ends

theorem exists_run'_function {f : DeclaredFunction}
    (reads : Takes (function attributes modifiers availability) tokens f)
    (firm : EndsFirmly tokens) (follows : Interface.endsItem (nextKind us) = true) :
    ∃ f', (declaration body found).run' ⟨heading' ++ (tokens' ++ us), p⟩ =
        (.ok (found.adding ⟨[], [], [f'], [], []⟩), ⟨us, p⟩) ∧ f.unplaced = f'.unplaced := by
  have noBody : nextKind us ≠ .openBrace := fun is => by rw [is] at follows; cases follows
  obtain ⟨t, ts, rfl, is⟩ := reads.exists_cons_of_expect (by decide)
  obtain ⟨f', run, alike⟩ := reads.exists_run' ends same (mayFollow_of_endsItem follows)
    (leaves_function attributes modifiers availability)
    (fun w s s' piece behind start _ => inStep_function (.inl (piece ▸ firm)) (behind ▸ noBody)
      attributes modifiers availability start.along)
    (fun _ _ => List.cons_ne_nil _ _) p
  refine ⟨f', ?_, alike⟩
  obtain ⟨⟨kind, value, q⟩, ts', rfl, content, -⟩ := exists_cons_of_shape same
  obtain rfl : kind = .keyword .function := (Token.kind_eq content).symm.trans is
  refine (heads.run'_declaration sameHeading (beginsItem_of_kind rfl rfl (by decide)) body found
    p).trans ?_
  exact (run'_bind_of_ok run : (do
    let f ← function attributes modifiers availability
    return found.adding ⟨[], [], [f], [], []⟩ : TokenReader Members).run' _ = _)

theorem exists_run'_enumCases {cases : List DeclaredCase}
    (reads : Takes (enumCases availability) tokens cases)
    (follows : Interface.endsItem (nextKind us) = true) :
    ∃ cases', (declaration body found).run' ⟨heading' ++ (tokens' ++ us), p⟩ =
        (.ok (found.adding ⟨[], [], [], cases', []⟩), ⟨us, p⟩) ∧
      cases.map DeclaredCase.unplaced = cases'.map DeclaredCase.unplaced := by
  have noEquals : nextKind us ≠ .equals := fun is => by rw [is] at follows; cases follows
  obtain ⟨t, ts, rfl, is⟩ := reads.exists_cons_of_expect (by decide)
  obtain ⟨cases', run, alike⟩ := reads.exists_run' ends same (mayFollow_of_endsItem follows)
    (leaves_enumCases availability)
    (fun w s s' _ behind start _ => inStep_enumCases (behind ▸ noEquals) availability start.along)
    (fun _ _ => List.cons_ne_nil _ _) p
  refine ⟨cases', ?_, alike⟩
  obtain ⟨⟨kind, value, q⟩, ts', rfl, content, -⟩ := exists_cons_of_shape same
  obtain rfl : kind = .keyword .enumCase := (Token.kind_eq content).symm.trans is
  refine (heads.run'_declaration sameHeading (beginsItem_of_kind rfl rfl (by decide)) body found
    p).trans ?_
  exact (run'_bind_of_ok run : (do
    let cases ← enumCases availability
    return found.adding ⟨[], [], [], cases, []⟩ : TokenReader Members).run' _ = _)

end Reading

end Heads

section Properties

variable {tokens tokens' rest us us' : List Token} {word name colon : Token} {type : TypeExpr}
  {p : Position}

/-- A property is read with its type, and what is behind the type is skipped. -/
theorem run'_property_of_takes (isName : name.kind.isNameLike = true)
    (isColon : colon.kind = .colon) (reads : Takes readType tokens type)
    (ends : EndsWithoutDot tokens) (firm : EndsFirmly tokens)
    (same : shape tokens = shape tokens') (quiet : Quiet rest)
    (follows : mayFollow (nextKind (rest ++ us)) = true)
    (steps : Steps passStep false ⟨us, p⟩ false ⟨us', p⟩) (ends' : EndsItem us')
    (word : Token) (modifiers : List String) (availability : Availability) :
    (property modifiers availability).run'
        ⟨word :: name :: colon :: (tokens' ++ (rest ++ us)), p⟩ =
      (.ok (some ⟨name.value, type, modifiers, availability, word.position⟩), ⟨us', p⟩) := by
  obtain ⟨_, typeRead, rfl⟩ := reads.exists_run' ends same follows leaves_readType
    (fun w s s' piece _ start _ => (inStep_readType_of_decided (.inl (piece ▸ firm)) start).imp
      fun _ _ _ _ ends => ⟨ends.1, ends.2.1⟩) (fun _ _ => id) p
  have passed : (passDeclaration false).run' ⟨rest ++ us, p⟩ = (.ok (), ⟨us', p⟩) :=
    run'_iterate ((quiet.steps us p).trans steps) (run'_passStep_none ends' p)
  rw [property, run'_bind_of_ok (run'_advance _), TokenStream.rest_cons,
    run'_bind_of_ok (run'_isAtName _), run'_bind_of_ok (run'_peek _ _), TokenStream.current_cons,
    kind_peek_one, nextKind_cons, isName, isColon]
  refine (run'_bind_of_ok (run'_advance _)).trans ?_
  refine (run'_bind_of_ok (run'_expect_of_kind isColon _ _)).trans ?_
  refine (run'_bind_of_ok typeRead).trans ?_
  exact run'_bind_of_ok passed

theorem run'_declarationBehind_property (isWord : word.kind = .keyword .varBinding ∨
    word.kind = .keyword .letBinding) (body : TokenReader Members) (found : Members)
    (attributes : List Attribute) (modifiers : List String) (availability : Availability) :
    (declarationBehind body found attributes modifiers availability).run' ⟨word :: us, p⟩ =
      (do let declared ← property modifiers availability
          return { found with properties := declared.toList ++ found.properties } :
        TokenReader Members).run' ⟨word :: us, p⟩ := by
  obtain ⟨kind, value, q⟩ := word
  rcases isWord with is | is
  · obtain rfl : kind = .keyword .varBinding := is
    rfl
  · obtain rfl : kind = .keyword .letBinding := is
    rfl

theorem beginsItem_of_property (isWord : word.kind = .keyword .varBinding ∨
    word.kind = .keyword .letBinding) (us : List Token) : BeginsItem (word :: us) := by
  rcases isWord with is | is
  · exact beginsItem_of_kind is rfl (by decide)
  · exact beginsItem_of_kind is rfl (by decide)

/-- What stands behind the type of a property may follow a type. -/
theorem mayFollow_of_starts
    (starts : rest = [] ∨ nextKind rest = .equals ∨ nextKind rest = .openBrace)
    (follows : endsItem (nextKind us) = true) : mayFollow (nextKind (rest ++ us)) = true := by
  cases rest with
  | nil => exact mayFollow_of_endsItem follows
  | cons t rest =>
    rw [List.cons_append, nextKind_cons]
    rcases starts.resolve_left (List.cons_ne_nil t rest) with is | is
    · rw [show t.kind = .equals from is]
      rfl
    · rw [show t.kind = .openBrace from is]
      rfl

end Properties

namespace Declares

variable {tokens tokens' us us' : List Token} {m : Members}

/-- The tokens of a member are a heading and something that begins with the word of a
declaration. -/
theorem exists_parts (declares : Declares tokens m) (same : shape tokens = shape tokens') :
    ∃ heading heading' attributes modifiers availability rest,
      Heads heading attributes modifiers availability ∧ shape heading = shape heading' ∧
        tokens' = heading' ++ rest ∧ ∀ us, BeginsItem (rest ++ us) := by
  cases declares with
  | function heads reads =>
    obtain ⟨t, ts, rfl, is⟩ := reads.exists_cons_of_expect (by decide)
    obtain ⟨heading', rest, rfl, sameHeading, sameRest⟩ := exists_append_of_shape same
    obtain ⟨t', ts', rfl, content, -⟩ := exists_cons_of_shape sameRest
    rw [Token.kind_eq content] at is
    exact ⟨_, heading', _, _, _, _, heads, sameHeading, rfl,
      fun us => beginsItem_of_kind is rfl (by decide)⟩
  | enumCases heads reads =>
    obtain ⟨t, ts, rfl, is⟩ := reads.exists_cons_of_expect (by decide)
    obtain ⟨heading', rest, rfl, sameHeading, sameRest⟩ := exists_append_of_shape same
    obtain ⟨t', ts', rfl, content, -⟩ := exists_cons_of_shape sameRest
    rw [Token.kind_eq content] at is
    exact ⟨_, heading', _, _, _, _, heads, sameHeading, rfl,
      fun us => beginsItem_of_kind is rfl (by decide)⟩
  | property heads isWord =>
    obtain ⟨heading', rest, rfl, sameHeading, sameRest⟩ := exists_append_of_shape same
    obtain ⟨t', ts', rfl, content, -⟩ := exists_cons_of_shape sameRest
    rw [Token.kind_eq content] at isWord
    exact ⟨_, heading', _, _, _, _, heads, sameHeading, rfl,
      fun us => beginsItem_of_property isWord _⟩

theorem endsItem (declares : Declares tokens m) (same : shape tokens = shape tokens')
    (us : List Token) : EndsItem (tokens' ++ us) := by
  obtain ⟨_, heading', _, _, _, rest, heads, sameHeading, rfl, begins⟩ := declares.exists_parts same
  rw [List.append_assoc]
  exact heads.endsItem sameHeading (begins us)

theorem opensMember (declares : Declares tokens m) (same : shape tokens = shape tokens')
    (us : List Token) : Interface.opensMember (nextKind (tokens' ++ us)) = true := by
  obtain ⟨_, heading', _, _, _, rest, heads, sameHeading, rfl, begins⟩ := declares.exists_parts same
  rw [List.append_assoc]
  exact heads.opensMember sameHeading (begins us)

/-- A member is read in front of whatever may be behind it. Behind a property more may be
skipped. -/
theorem exists_run' (declares : Declares tokens m) (same : shape tokens = shape tokens')
    {p : Position} (follows : Interface.endsItem (nextKind us) = true)
    (steps : Steps passStep false ⟨us, p⟩ false ⟨us', p⟩) (ends' : EndsItem us')
    (body : TokenReader Members) (found : Members) :
    ∃ vs m', (vs = us ∨ vs = us') ∧
      (declaration body found).run' ⟨tokens' ++ us, p⟩ = (.ok (found.adding m'), ⟨vs, p⟩) ∧
        m'.unplaced = m.unplaced := by
  cases declares with
  | function heads reads ends firm =>
    obtain ⟨heading', rest, rfl, sameHeading, sameRest⟩ := exists_append_of_shape same
    obtain ⟨f', run, alike⟩ :=
      heads.exists_run'_function sameHeading sameRest ends body found p reads firm follows
    rw [List.append_assoc]
    refine ⟨us, _, .inl rfl, run, ?_⟩
    simp only [Members.unplaced, List.map_cons, alike]
  | enumCases heads reads ends =>
    obtain ⟨heading', rest, rfl, sameHeading, sameRest⟩ := exists_append_of_shape same
    obtain ⟨cases', run, alike⟩ :=
      heads.exists_run'_enumCases sameHeading sameRest ends body found p reads follows
    rw [List.append_assoc]
    refine ⟨us, _, .inl rfl, run, ?_⟩
    simp only [Members.unplaced, alike]
  | @property heading tokens rest word name colon attributes modifiers availability type heads
      isWord isName isColon reads ends firm quiet starts =>
    obtain ⟨heading', behind, rfl, sameHeading, sameBehind⟩ := exists_append_of_shape same
    obtain ⟨word', _, rfl, sameWord, -, sameBehind⟩ := exists_cons_of_shape sameBehind
    obtain ⟨name', _, rfl, sameName, -, sameBehind⟩ := exists_cons_of_shape sameBehind
    obtain ⟨colon', _, rfl, sameColon, -, sameBehind⟩ := exists_cons_of_shape sameBehind
    obtain ⟨tokens', rest', rfl, sameTokens, sameRest⟩ := exists_append_of_shape sameBehind
    rw [Token.kind_eq sameWord] at isWord
    rw [Token.kind_eq sameName] at isName
    rw [Token.kind_eq sameColon] at isColon
    rw [nextKind_eq_of_shape sameRest] at starts
    have starts' := starts.imp_left fun none => eq_nil_of_shape (none ▸ sameRest)
    have quiet' := quiet.of_contents (contents_eq_of_shape sameRest)
    have read := run'_property_of_takes isName isColon reads ends firm sameTokens quiet'
      (mayFollow_of_starts starts' follows) steps ends' word' modifiers availability
    refine ⟨us', ⟨[], [], [], [], [⟨name'.value, type, modifiers, availability, word'.position⟩]⟩,
      .inr rfl, ?_, ?_⟩
    · rw [List.append_assoc, List.cons_append, List.cons_append, List.cons_append,
        List.append_assoc]
      refine (heads.run'_declaration sameHeading (beginsItem_of_property isWord _) body found
        p).trans ?_
      rw [run'_declarationBehind_property isWord]
      exact run'_bind_of_ok read
    · simp only [Members.unplaced, List.map_cons, DeclaredProperty.unplaced,
        Token.value_eq sameName]

end Declares

/-- What stands in front of members is read in front of the brace that opens their scope. -/
theorem exists_run'_scopeHeading_of_takes {kind : TypeKind} {word first opening : Token}
    {more tokens : List Token} {name : String} {inherits : List TypeExpr}
    (reads : Takes (scopeHeading kind) (word :: more) (first, name, inherits))
    (ends : EndsWithoutDot (word :: more)) (same : shape (word :: more) = shape tokens)
    (isWord : word.kind = .keyword kind.keyword) (isOpening : opening.kind = .openBrace)
    (us : List Token) (p : Position) :
    ∃ first', (scopeHeading kind).run' ⟨tokens ++ opening :: us, p⟩ =
      (.ok (first', name, inherits), ⟨opening :: us, p⟩) := by
  have follows : mayFollow (nextKind (opening :: us)) = true := by
    rw [nextKind_cons, isOpening]
    rfl
  have inStep (w : Setting) (s s' : TokenStream) (piece : w.piece = word :: more)
      (behind : w.behind = opening :: us) (start : w.Start s s')
      (ahead : s.ahead = word :: more ++ [w.brace]) :
      InStep never (scopeHeading kind) (scopeHeading kind) s s'
        fun heading heading' t t' => heading.2 = heading'.2 ∧ w.Along t t' := by
    have decided : w.Decided := by
      refine .inr ?_
      rw [behind, nextKind_cons, isOpening]
      rfl
    have isWord : s.current.kind = .keyword kind.keyword := by
      rw [kind_current, ahead, List.cons_append, nextKind_cons, isWord]
    exact inStep_scopeHeading decided kind (start.along.next (by rw [isWord]; nofun))
      (by rw [isWord]; nofun)
  obtain ⟨⟨first', name', inherits'⟩, run, alike⟩ := reads.exists_run' ends same follows
    (leaves_scopeHeading kind) inStep (fun _ _ => id) p
  obtain ⟨rfl, rfl⟩ : name = name' ∧ inherits = inherits' := Prod.mk.inj alike
  exact ⟨first', run⟩

namespace OpensScope

variable {tokens tokens' : List Token} {type : DeclaredType}

theorem exists_parts (opens : OpensScope tokens type) (same : shape tokens = shape tokens') :
    ∃ heading heading' word more rest first,
      Heads heading type.attributes type.modifiers type.availability ∧
        shape heading = shape heading' ∧ tokens' = heading' ++ rest ∧
          Takes (scopeHeading type.kind) (word :: more) (first, type.name, type.inherits) ∧
            EndsWithoutDot (word :: more) ∧ shape (word :: more) = shape rest ∧
              word.kind = .keyword type.kind.keyword ∧ ∀ us, BeginsItem (rest ++ us) := by
  obtain @⟨heading, more, word, next, first, kind, name, inherits, _, _, _, heads, isWord,
    noModifier, reads, ends⟩ := opens
  obtain ⟨heading', rest, rfl, sameHeading, sameRest⟩ := exists_append_of_shape same
  refine ⟨heading, heading', _, _, rest, first, heads, sameHeading, rfl, reads, ends, sameRest,
    isWord, fun us => ?_⟩
  obtain ⟨⟨kind', value, q⟩, _, rfl, sameWord, -, sameMore⟩ := exists_cons_of_shape sameRest
  obtain ⟨next', more', rfl, sameNext, -, -⟩ := exists_cons_of_shape sameMore
  obtain rfl : kind' = .keyword kind.keyword := (Token.kind_eq sameWord).symm.trans isWord
  refine ⟨⟨kind.keyword, value, q, _, rfl, by cases kind <;> rfl⟩, fun isClass finish => ?_⟩
  have isClass : kind = .classType := by
    have word : kind.keyword = .classType := TokenKind.keyword.inj isClass
    cases kind <;> first | rfl | cases word
  obtain ⟨begins, modifies⟩ := noModifier isClass
  rw [beginsDeclaration_eq sameNext] at begins
  rw [isModifierWord_eq sameNext] at modifies
  rw [run'_classModifiesNext]
  change (Except.ok (beginsDeclaration next' && _ || isModifierWord next'), _) = _
  rw [begins, modifies]
  rfl

/-- A declaration with members is read if its body is. -/
theorem exists_run' (opens : OpensScope tokens type) (same : shape tokens = shape tokens')
    {opening closing : Token} (isOpening : opening.kind = .openBrace)
    (isClosing : closing.kind = .closeBrace) {body : TokenReader Members} {inner us : List Token}
    {m : Members} {p : Position}
    (bodyRead : body.run' ⟨inner ++ closing :: us, p⟩ = (.ok m, ⟨closing :: us, p⟩))
    (found : Members) :
    ∃ q, (declaration body found).run' ⟨tokens' ++ opening :: (inner ++ closing :: us), p⟩ =
      (.ok (found.adding ⟨[], [{ type.holding m with position := q }], [], [], []⟩), ⟨us, p⟩) := by
  obtain ⟨heading, heading', word, more, rest, first, heads, sameHeading, rfl, reads, ends,
    sameRest, isWord, begins⟩ := opens.exists_parts same
  obtain ⟨first', headingRead⟩ := exists_run'_scopeHeading_of_takes reads ends sameRest isWord
    isOpening (inner ++ closing :: us) p
  have typeRead : (typeDeclaration body type.kind type.attributes type.modifiers
      type.availability).run' ⟨rest ++ opening :: (inner ++ closing :: us), p⟩ =
        (.ok { type.holding m with position := first'.position }, ⟨us, p⟩) := by
    rw [typeDeclaration_eq, run'_bind_of_ok headingRead]
    refine (run'_bind_of_ok (run'_expect_of_kind isOpening _ _)).trans ?_
    refine (run'_bind_of_ok bodyRead).trans ?_
    exact run'_bind_of_ok (run'_expect_of_kind isClosing _ _)
  refine ⟨first'.position, ?_⟩
  obtain ⟨⟨kind, value, q⟩, ts', rfl, sameWord, -⟩ := exists_cons_of_shape sameRest
  obtain rfl : kind = .keyword type.kind.keyword := (Token.kind_eq sameWord).symm.trans isWord
  rw [List.append_assoc]
  refine (heads.run'_declaration sameHeading (begins _) body found p).trans ?_
  rw [List.cons_append, run'_declarationBehind_type]
  exact run'_bind_of_ok typeRead

end OpensScope

/-! ## Skipping what is not kept -/

section Unsupported

variable {word : Token} {keyword : Keyword}

theorem beginsItem_of_unsupported (isWord : word.kind = .keyword keyword)
    (known : keyword ∈ unsupportedWords) (us : List Token) : BeginsItem (word :: us) := by
  have declares : ∀ k ∈ unsupportedWords,
      beginsDeclaration ⟨.keyword k, "", .start⟩ = true ∧ k ≠ .classType := by decide
  obtain ⟨begins, noClass⟩ := declares keyword known
  exact beginsItem_of_kind isWord begins noClass

theorem run'_declarationBehind_unsupported (isWord : word.kind = .keyword keyword)
    (known : keyword ∈ unsupportedWords) (body : TokenReader Members) (found : Members)
    (attributes : List Attribute) (modifiers : List String) (availability : Availability)
    (us : List Token) (p : Position) :
    (declarationBehind body found attributes modifiers availability).run' ⟨word :: us, p⟩ =
      (do passDeclaration true
          return found : TokenReader Members).run' ⟨word :: us, p⟩ := by
  obtain ⟨kind, value, q⟩ := word
  obtain rfl : kind = .keyword keyword := isWord
  simp only [unsupportedWords, List.mem_cons, List.not_mem_nil, or_false] at known
  rcases known with rfl | rfl | rfl | rfl | rfl | rfl | rfl | rfl <;> rfl

end Unsupported

namespace Unsupported

variable {tokens us us' : List Token} {p : Position}

theorem opensMember (unsupported : Unsupported tokens) (us : List Token) :
    Interface.opensMember (nextKind (tokens ++ us)) = true := by
  obtain @⟨signs, modifiers, behind, word, keyword, found, names, reads, ends, modifying, isWord,
    known, quiet⟩ := unsupported
  rw [List.append_assoc, List.append_assoc, List.cons_append]
  cases signs with
  | nil =>
    obtain ⟨u, vs, tokens, isName, next⟩ :=
      modifying.exists_next (beginsItem_of_unsupported isWord known (behind ++ us))
    rw [List.nil_append, tokens]
    exact opensMember_of_next isName next
  | cons t signs =>
    have isSign : t.kind = .atSign :=
      reads.nextKind_of_readAttributes.resolve_left (List.cons_ne_nil _ _)
    rw [List.cons_append, nextKind_cons, isSign]
    rfl

/-- A declaration that is not kept is skipped together with what is skipped behind it. -/
theorem run'_declaration (unsupported : Unsupported tokens)
    (steps : Steps passStep false ⟨us, p⟩ false ⟨us', p⟩) (ends' : EndsItem us')
    (body : TokenReader Members) (found : Members) :
    (declaration body found).run' ⟨tokens ++ us, p⟩ = (.ok found, ⟨us', p⟩) := by
  obtain @⟨signs, modifiers, behind, word, keyword, attributes, names, reads, ends, modifying,
    isWord, known, quiet⟩ := unsupported
  have begins := beginsItem_of_unsupported isWord known (behind ++ us)
  obtain ⟨u, vs, tokens, isName, next⟩ := modifying.exists_next begins
  have opens := opensMember_of_next isName next
  have noSign : nextKind (modifiers ++ word :: (behind ++ us)) ≠ .atSign := by
    rw [tokens]
    intro sign
    rw [show u.kind = .atSign from sign] at isName
    cases isName
  have follows : mayFollow (nextKind (modifiers ++ word :: (behind ++ us))) = true := by
    rw [tokens]
    exact mayFollow_of_endsItem (Bool.and_eq_true_iff.1 opens).1
  obtain ⟨_, attributesRead, rfl⟩ := reads.exists_run' ends rfl follows leaves_readAttributes
    (fun w s s' _ behind start _ => inStep_readAttributes_of_ne (behind ▸ noSign) start)
    (fun _ _ => id) p
  have wordPassed : (passStep true).run' ⟨word :: (behind ++ us), p⟩ =
      (.ok (.inl false), ⟨behind ++ us, p⟩) :=
    run'_passStep_plain (by rw [isWord]; rfl) (by rw [isWord]; rfl) (by rw [isWord]; nofun)
      (.inl rfl) p
  have passed : (passDeclaration true).run' ⟨word :: (behind ++ us), p⟩ = (.ok (), ⟨us', p⟩) :=
    run'_iterate (.next wordPassed (Nat.lt_succ_self _) ((quiet.steps us p).trans steps))
      (run'_passStep_none ends' p)
  rw [List.append_assoc, List.append_assoc, List.cons_append, declaration,
    run'_bind_of_ok attributesRead]
  refine (run'_bind_of_ok (modifying.run'_modifiers begins p)).trans ?_
  rw [run'_declarationBehind_unsupported isWord known]
  exact run'_bind_of_ok passed

/-- Skipping goes on through modifiers with arguments. What it leaves is no less a declaration that
is not kept. -/
theorem exists_passed (unsupported : Unsupported tokens) (us : List Token) (p : Position) :
    ∃ tokens', Unsupported tokens' ∧ tokens'.length ≤ tokens.length ∧
      Steps passStep false ⟨tokens ++ us, p⟩ false ⟨tokens' ++ us, p⟩ ∧
        EndsItem (tokens' ++ us) := by
  obtain @⟨signs, modifiers, behind, word, keyword, attributes, names, reads, ends, modifying,
    isWord, known, quiet⟩ := unsupported
  cases signs with
  | nil =>
    have begins := beginsItem_of_unsupported isWord known (behind ++ us)
    obtain ⟨modifiers', names', modifying', shorter, steps, stops⟩ :=
      modifying.exists_passed begins p
    refine ⟨modifiers' ++ word :: behind, .mk reads ends modifying' isWord known quiet, ?_, ?_, ?_⟩
    · rw [List.nil_append, List.length_append, List.length_append]
      exact Nat.add_le_add_right shorter _
    · rw [List.nil_append, List.append_assoc, List.append_assoc, List.cons_append]
      exact steps
    · rw [List.append_assoc, List.cons_append]
      exact stops
  | cons t signs =>
    have isSign : t.kind = .atSign :=
      reads.nextKind_of_readAttributes.resolve_left (List.cons_ne_nil _ _)
    exact ⟨_, .mk reads ends modifying isWord known quiet, Nat.le_refl _, .refl _ _,
      .begins (by rw [beginsDeclaration, isSign])⟩

end Unsupported

end ViewModifiers.Interface
