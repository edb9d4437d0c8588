import ViewModifiers.Proofs.Interface.Reading

/-!
# Parts of types

A type that is spelled without grouping begins with a name, a bracket or an attribute, and it is
taken neither for a label nor for a specifier. What stands behind it has to end it (`Ends`): the end
depends on how much of the type is read. Arguments, tuples, functions, arrays and dictionaries are
read back from readings of the types inside them.
-/

namespace ViewModifiers.Interface

open Source Text TokenReader TypeReader

/-! ## What ends a type -/

/-- What would be taken for a part of a primary type. -/
def primaryStops : List TokenKind :=
  [.lessThan, .arrow, .keyword .asynchronous, .keyword .throwing, .keyword .rethrowing]

/-- What would be taken for a part of a primary type or for a mark. -/
def markedStops : List TokenKind := primaryStops ++ [.question, .bang, .ellipsis, .dot]

/-- What would be taken for a part of a type. -/
def typeStops : List TokenKind := markedStops ++ [.ampersand]

/-- Tokens begin with none of some kinds. If they begin with a name, then no reserved word makes
sense in front of it. -/
structure Ends (reserved : List String) (stops : List TokenKind) (ts : List Token) : Prop where
  kind : nextKind ts ∉ stops
  words : (nextKind ts).isNameLike = true → ∀ w ∈ packWords ++ ownershipWords, w ∈ reserved

variable {reserved : List String} {stops : List TokenKind} {form : TypeForm} {t : TypeExpr}
  {ts : List Token}

theorem Ends.mono {fewer : List TokenKind} (ends : Ends reserved stops ts)
    (among : ∀ k ∈ fewer, k ∈ stops) : Ends reserved fewer ts :=
  ⟨fun there => ends.kind (among _ there), ends.words⟩

theorem Ends.marked (ends : Ends reserved typeStops ts) : Ends reserved markedStops ts :=
  ends.mono fun k (there : k ∈ markedStops) => List.mem_append_left _ there

theorem Ends.primary (ends : Ends reserved markedStops ts) : Ends reserved primaryStops ts :=
  ends.mono fun k (there : k ∈ primaryStops) => List.mem_append_left _ there

theorem Ends.ne {kind : TokenKind} (ends : Ends reserved stops ts) (stop : kind ∈ stops) :
    nextKind ts ≠ kind :=
  fun same => ends.kind (same ▸ stop)

theorem ends_nil (noEnd : TokenKind.endOfFile ∉ stops) : Ends reserved stops [] := ⟨noEnd, nofun⟩

/-- A sign ends a type if it does not continue it. -/
theorem ends_of_sign (kind : TokenKind) (next : nextKind ts = kind) (noStop : kind ∉ stops)
    (noName : kind.isNameLike = false) : Ends reserved stops ts := by
  refine ⟨by rwa [next], fun name => ?_⟩
  rw [next, noName] at name
  cases name

/-- A reader reads a type in front of everything that does not continue it. -/
def ReadsType (reserved : List String) (r : TokenReader TypeExpr) (t : TypeExpr) : Prop :=
  Reads r t.pieces t fun _ => Ends reserved typeStops

/-! ## How types begin -/

theorem specifierPieces_some {s : String} (isWord : IsWord s) :
    specifierPieces (some s) = [.word s, .space] := by
  have filled : s ≠ "" := by
    rintro rfl
    obtain ⟨_, _, characters, -⟩ := isWord
    cases characters
  simp [specifierPieces, filled]

theorem attributePieces_cons (a : String) (attributes : List String) :
    attributePieces (a :: attributes) =
      .sign .atSign :: .word a :: .space :: attributePieces attributes := rfl

/-- A composition of several types begins with the first of them and a sign behind it. -/
theorem pieces_composition {types : List TypeExpr} (several : 2 ≤ types.length) :
    ∃ first others xs, types = first :: others ∧ (TypeExpr.composition types).pieces =
      first.pieces ++ .space :: .sign .ampersand :: xs := by
  obtain _ | ⟨first, _ | ⟨second, others⟩⟩ := types
  · exact absurd several (by simp)
  · exact absurd several (by simp)
  · refine ⟨first, second :: others, .space :: (second.pieces ++
      (others.map TypeExpr.pieces).flatMap ([.space, .sign .ampersand, .space] ++ ·)), rfl, ?_⟩
    rw [TypeExpr.pieces, TypeExpr.piecesOfEach_eq_map, List.map_cons, joined_cons, List.map_cons,
      List.flatMap_cons]
    rfl

/-- The kinds of the words that a type may begin with. -/
def openingWords : List TokenKind :=
  [.identifier, .keyword .someOf, .keyword .anyOf, .keyword .inOut]

/-- A piece that a type may begin with. -/
inductive Opens : Piece → Prop
  | word (name : String) (opens : wordKind name ∈ openingWords) : Opens (.word name)
  | paren : Opens (.sign .openParen)
  | bracket : Opens (.sign .openBracket)
  | atSign : Opens (.sign .atSign)

theorem wordKind_of_mem_ownershipWords {name : String} (known : name ∈ ownershipWords) :
    wordKind name = .identifier :=
  (by decide : ∀ w ∈ ownershipWords, wordKind w = .identifier) name known

theorem IsSpecifier.opens {specifier : String} {base : TypeExpr}
    (specifies : IsSpecifier specifier base) : wordKind specifier ∈ openingWords := by
  rcases specifies with rfl | ⟨known, -⟩
  · decide
  · rw [wordKind_of_mem_ownershipWords known]
    decide

/-- A type without grouping begins with a name, a bracket or an attribute. -/
theorem Ungrouped.exists_opens (ungrouped : Ungrouped reserved form t) :
    ∃ x xs, t.pieces = x :: xs ∧ Opens x := by
  have append {ys xs : List Piece} (h : ∃ x xs, ys = x :: xs ∧ Opens x) :
      ∃ x zs, ys ++ xs = x :: zs ∧ Opens x := by
    obtain ⟨x, zs, rfl, opens⟩ := h
    exact ⟨x, zs ++ xs, rfl, opens⟩
  induction ungrouped with
  | named name _ isName =>
    rw [TypeExpr.pieces]
    exact ⟨_, _, rfl, .word _ (by rw [isName.wordKind]; decide)⟩
  | member _ _ _ _ _ _ _ ih => rw [TypeExpr.pieces]; exact append ih
  | optional _ _ _ ih => rw [TypeExpr.pieces]; exact append ih
  | array => rw [TypeExpr.pieces]; exact ⟨_, _, rfl, .bracket⟩
  | dictionary => rw [TypeExpr.pieces]; exact ⟨_, _, rfl, .bracket⟩
  | tuple => rw [TypeExpr.pieces]; exact ⟨_, _, rfl, .paren⟩
  | metatype _ _ _ ih => rw [TypeExpr.pieces]; exact append ih
  | variadic _ _ ih => rw [TypeExpr.pieces]; exact append ih
  | single _ _ ih => exact ih
  | composition types several _ ih =>
    obtain ⟨first, others, xs, rfl, pieces⟩ := pieces_composition several
    rw [pieces]
    exact append (ih first List.mem_cons_self)
  | composed _ _ ih => exact ih
  | quantified word =>
    rw [TypeExpr.pieces]
    exact ⟨_, _, rfl, .word _ (by cases word <;> decide)⟩
  | function => rw [TypeExpr.pieces]; exact ⟨_, _, rfl, .paren⟩
  | plain _ _ ih => exact ih
  | attributed attributes specifier base something names specifies _ _ =>
    rw [TypeExpr.pieces]
    rcases attributes with _ | ⟨a, attributes⟩
    · rcases specifier with _ | s
      · simp at something
      · rw [specifierPieces_some (specifies s rfl).isWord]
        exact ⟨_, _, rfl, .word _ (specifies s rfl).opens⟩
    · exact ⟨_, _, rfl, .atSign⟩

/-- The tokens of a type without grouping begin right where it begins. -/
theorem Ungrouped.exists_placed (ungrouped : Ungrouped reserved form t) (p : Position)
    (ts : List Token) : ∃ token us, placed p t.pieces ++ ts = token :: us ∧ token.position = p ∧
      token.kind ∈ openingWords ++ [.openParen, .openBracket, .atSign] := by
  obtain ⟨x, xs, pieces, opens⟩ := ungrouped.exists_opens
  rw [pieces]
  cases opens with
  | word name opens => exact ⟨_, _, rfl, rfl, List.mem_append_left _ opens⟩
  | paren => exact ⟨_, _, rfl, rfl, List.mem_append_right _ (by simp)⟩
  | bracket => exact ⟨_, _, rfl, rfl, List.mem_append_right _ (by simp)⟩
  | atSign => exact ⟨_, _, rfl, rfl, List.mem_append_right _ (by simp)⟩

/-- A type without grouping begins like no other kind of token. -/
theorem Ungrouped.nextKind_ne (ungrouped : Ungrouped reserved form t) {kind : TokenKind}
    (noType : kind ∉ openingWords ++ [.openParen, .openBracket, .atSign]) (p : Position)
    (ts : List Token) : nextKind (placed p t.pieces ++ ts) ≠ kind := by
  obtain ⟨token, us, begins, -, opens⟩ := ungrouped.exists_placed p ts
  rw [begins, nextKind_cons]
  exact fun same => noType (same ▸ opens)

/-- A type whose text starts with a name starts with the token of a name. -/
theorem Ungrouped.isNameLike_of_startsWithName (ungrouped : Ungrouped reserved form t)
    (starts : StartsWithName t.text) (p : Position) (ts : List Token) :
    (nextKind (placed p t.pieces ++ ts)).isNameLike = true := by
  obtain ⟨x, xs, pieces, opens⟩ := ungrouped.exists_opens
  obtain ⟨name, rest, ⟨c, cs, characters, -, first⟩, text⟩ := starts
  have head : (spell t.pieces).head? = some c := by
    rw [TypeExpr.spell_pieces, text, String.toList_append, characters]
    rfl
  have notSign (d : Char) (sign : d ∈ ['@', '(', '[']) : c ≠ d := by
    rintro rfl
    rcases first with ⟨starts, -⟩ | ⟨sharp, -⟩
    · rw [startsName_apart c (List.mem_of_mem_drop (i := 8) sign)] at starts
      cases starts
    · subst sharp
      exact absurd sign (by decide)
  rw [pieces] at head ⊢
  cases opens with
  | word name => exact isNameLike_wordKind name
  | paren => exact absurd (Option.some.inj head).symm (notSign _ (by decide))
  | bracket => exact absurd (Option.some.inj head).symm (notSign _ (by decide))
  | atSign => exact absurd (Option.some.inj head).symm (notSign _ (by decide))

/-- No sign is stepped over like a name. -/
theorem kindBehindNames_sign (kind : TokenKind) (noName : kind.isNameLike = false) (p : Position)
    (xs : List Piece) (ts : List Token) :
    kindBehindNames (placed p (.sign kind :: xs) ++ ts) = kind := by
  rw [placed_sign, List.cons_append, kindBehindNames, noName]
  rfl

theorem kindBehindNames_word (name : String) (p : Position) (xs : List Piece) (ts : List Token) :
    kindBehindNames (placed p (.word name :: xs) ++ ts) =
      kindBehindNames (placed (p.after name.toList) xs ++ ts) := by
  rw [placed_word, List.cons_append, kindBehindNames, isNameLike_wordKind]
  rfl

/-- A type without grouping is not taken for a label with its colon. -/
theorem Ungrouped.kindBehindNames_ne_colon (ungrouped : Ungrouped reserved form t) (p : Position)
    (ends : kindBehindNames ts ≠ .colon) : kindBehindNames (placed p t.pieces ++ ts) ≠ .colon := by
  induction ungrouped generalizing p ts with
  | named name arguments _ _ _ _ =>
    rw [TypeExpr.pieces, kindBehindNames_word, argumentPieces]
    split
    · exact ends
    · rw [kindBehindNames_sign _ rfl]
      decide
  | member base name arguments _ _ _ _ ih _ =>
    rw [TypeExpr.pieces, placed_append, List.append_assoc]
    exact ih p (by rw [kindBehindNames_sign _ rfl]; decide)
  | optional wrapped implicit _ ih =>
    rw [TypeExpr.pieces, placed_append, List.append_assoc]
    exact ih p (by cases implicit <;> (rw [kindBehindNames_sign _ rfl]; decide))
  | array => rw [TypeExpr.pieces, kindBehindNames_sign _ rfl]; decide
  | dictionary => rw [TypeExpr.pieces, kindBehindNames_sign _ rfl]; decide
  | tuple => rw [TypeExpr.pieces, parenPieces, kindBehindNames_sign _ rfl]; decide
  | metatype base kind _ ih =>
    rw [TypeExpr.pieces, placed_append, List.append_assoc]
    exact ih p (by rw [kindBehindNames_sign _ rfl]; decide)
  | variadic element _ ih =>
    rw [TypeExpr.pieces, placed_append, List.append_assoc]
    exact ih p (by rw [kindBehindNames_sign _ rfl]; decide)
  | single _ _ ih => exact ih p ends
  | composition types several _ ih =>
    obtain ⟨first, others, xs, rfl, pieces⟩ := pieces_composition several
    rw [pieces, placed_append, List.append_assoc, placed_space]
    exact ih first List.mem_cons_self p (by rw [kindBehindNames_sign _ rfl]; decide)
  | composed _ _ ih => exact ih p ends
  | quantified _ bound _ ih =>
    rw [TypeExpr.pieces, kindBehindNames_word, placed_space]
    exact ih _ ends
  | function => rw [TypeExpr.pieces, parenPieces, List.cons_append, kindBehindNames_sign _ rfl]; decide
  | plain _ _ ih => exact ih p ends
  | attributed attributes specifier base something names specifies _ ih =>
    rw [TypeExpr.pieces]
    rcases attributes with _ | ⟨a, attributes⟩
    · rcases specifier with _ | s
      · simp at something
      · rw [specifierPieces_some (specifies s rfl).isWord]
        change kindBehindNames (placed p (.word s :: .space :: base.pieces) ++ ts) ≠ .colon
        rw [kindBehindNames_word, placed_space]
        exact ih _ ends
    · rw [attributePieces_cons, List.cons_append, kindBehindNames_sign _ rfl]
      decide

/-- Tokens begin neither with an attribute nor with a specifier. -/
structure Bare (ts : List Token) : Prop where
  noAttribute : nextKind ts ≠ .atSign
  notInOut : nextKind ts ≠ .keyword .inOut
  notOwned : ∀ token us, ts = token :: us → token.kind = .identifier →
    token.value ∈ ownershipWords → (nextKind us).isNameLike = false

/-- Tokens that begin with a sign are bare, unless it is the sign of an attribute. -/
theorem bare_sign {token : Token} {us : List Token} (noAttribute : token.kind ≠ .atSign)
    (noName : token.kind.isNameLike = false) : Bare (token :: us) := by
  refine ⟨noAttribute, fun same => ?_, fun _ _ eq kind => ?_⟩
  · rw [nextKind_cons] at same
    rw [same] at noName
    cases noName
  · cases eq
    rw [kind] at noName
    cases noName

/-- In front of a sign, the words of ownership need not be reserved. -/
theorem reserved_of_no_name {token : Token} {us : List Token}
    (noName : token.kind.isNameLike = false) (name : (nextKind (token :: us)).isNameLike = true) :
    ∀ w ∈ packWords ++ ownershipWords, w ∈ reserved :=
  Bool.noConfusion (noName.symm.trans name)

/-- What may stand behind attributes is not taken for a type with attributes, even if it starts with
a word of ownership. -/
theorem Ungrouped.bare (ungrouped : Ungrouped reserved form t) (notFull : form ≠ .full)
    (p : Position)
    (ends : (nextKind ts).isNameLike = true → ∀ w ∈ packWords ++ ownershipWords, w ∈ reserved) :
    Bare (placed p t.pieces ++ ts) := by
  induction ungrouped generalizing p ts with
  | named name arguments isName free _ _ =>
    rw [TypeExpr.pieces, placed_word, List.cons_append]
    refine ⟨?_, ?_, ?_⟩
    · rw [nextKind_cons, isName.wordKind]
      exact nofun
    · rw [nextKind_cons, isName.wordKind]
      exact nofun
    · rintro _ _ ⟨⟩ - owned
      rw [argumentPieces]
      split
      · rcases name_ : (nextKind ts).isNameLike
        · exact name_
        · exact absurd (ends name_ name (List.mem_append_right _ owned)) free
      · rfl
  | member base name arguments _ _ _ _ ih _ =>
    rw [TypeExpr.pieces, placed_append, List.append_assoc]
    exact ih (by decide) p (reserved_of_no_name rfl)
  | optional wrapped implicit _ ih =>
    rw [TypeExpr.pieces, placed_append, List.append_assoc]
    exact ih (by decide) p (reserved_of_no_name (by cases implicit <;> rfl))
  | array => rw [TypeExpr.pieces]; exact bare_sign TokenKind.noConfusion rfl
  | dictionary => rw [TypeExpr.pieces]; exact bare_sign TokenKind.noConfusion rfl
  | tuple => rw [TypeExpr.pieces]; exact bare_sign TokenKind.noConfusion rfl
  | metatype base kind _ ih =>
    rw [TypeExpr.pieces, placed_append, List.append_assoc]
    exact ih (by decide) p (reserved_of_no_name rfl)
  | variadic element _ ih =>
    rw [TypeExpr.pieces, placed_append, List.append_assoc]
    exact ih (by decide) p (reserved_of_no_name rfl)
  | single _ _ ih => exact ih (by decide) p ends
  | composition types several _ ih =>
    obtain ⟨first, others, xs, rfl, pieces⟩ := pieces_composition several
    rw [pieces, placed_append, List.append_assoc, placed_space]
    exact ih first List.mem_cons_self (by decide) p (reserved_of_no_name rfl)
  | composed _ _ ih => exact ih (by decide) p ends
  | quantified word bound _ ih =>
    rw [TypeExpr.pieces, placed_word, List.cons_append]
    have kind : wordKind word.spelling ∉ [.atSign, .keyword .inOut, .identifier] := by
      cases word <;> decide
    refine ⟨fun same => kind ?_, fun same => kind ?_, ?_⟩
    · rw [show wordKind word.spelling = _ from same]
      decide
    · rw [show wordKind word.spelling = _ from same]
      decide
    · rintro _ _ ⟨⟩ same
      refine absurd ?_ kind
      rw [show wordKind word.spelling = _ from same]
      decide
  | function => rw [TypeExpr.pieces]; exact bare_sign TokenKind.noConfusion rfl
  | plain => exact absurd rfl notFull
  | attributed => exact absurd rfl notFull

/-! ## Parts of types -/

/-- No group is read behind a token, unless an opening parenthesis follows it. -/
theorem run'_groupBehind?_none {last : Token} {ts : List Token} (finish : Position)
    (apart : ∀ token us, ts = token :: us → token.kind = .openParen →
      last.isFollowedBy token = false) :
    (groupBehind? last).run' ⟨ts, finish⟩ = (.ok none, ⟨ts, finish⟩) := by
  rw [groupBehind?, run'_bind_of_ok (run'_current _), if_neg]
  · rfl
  · cases ts with
    | nil => exact Bool.false_ne_true
    | cons token us =>
      rw [TokenStream.current_cons, Bool.and_eq_true, decide_eq_true_eq]
      rintro ⟨kind, follows⟩
      rw [apart token us rfl kind] at follows
      cases follows

section Parts

variable {type : TokenReader TypeExpr}

/-- Arguments are read in front of everything but an opening angle bracket. -/
theorem reads_genericArguments {arguments : List TypeExpr}
    (each : ∀ t ∈ arguments, ReadsType reserved type t) :
    Reads (genericArguments type) (argumentPieces (arguments.map TypeExpr.pieces)) arguments
      fun _ ts => nextKind ts ≠ .lessThan := by
  intro p ts finish noOpening
  by_cases none : arguments = []
  · subst none
    exact run'_bind_of_ok (run'_accept_none noOpening finish)
  · have list := reads_commaSeparated (g := id) none each
      fun _ _ _ => ends_of_sign .comma rfl (by decide) rfl
    rw [List.map_id] at list
    rw [argumentPieces, if_neg (by simpa using none), placed_sign, placed_append, List.cons_append,
      List.append_assoc, genericArguments, run'_bind_of_ok (run'_accept_self _ _ _ _ _),
      if_pos rfl, run'_bind_of_ok (list _ _ finish
        ⟨fun _ => ends_of_sign .greaterThan rfl (by decide) rfl, TokenKind.noConfusion⟩)]
    exact run'_bind_of_ok (run'_expect_self _ _ _ _ _)

theorem nextKind_ne_colon {ts : List Token} (noColon : kindBehindNames ts ≠ .colon) :
    nextKind ts ≠ .colon := by
  cases ts with
  | nil => exact nofun
  | cons token us =>
    intro colon
    rw [nextKind_cons] at colon
    rw [kindBehindNames, colon] at noColon
    exact noColon rfl

/-- No label is read, unless a colon stands behind some names. -/
theorem run'_label?_none {ts : List Token} (finish : Position)
    (noColon : kindBehindNames ts ≠ .colon) :
    label?.run' ⟨ts, finish⟩ = (.ok none, ⟨ts, finish⟩) := by
  have notOne : ((TokenStream.current ⟨ts, finish⟩).kind.isNameLike &&
      decide ((TokenStream.peek ⟨ts, finish⟩ 1).kind = .colon)) = false := by
    rcases ts with _ | ⟨a, us⟩
    · rfl
    · rcases name : a.kind.isNameLike
      · simp [name]
      · rw [kindBehindNames, if_pos name] at noColon
        simp [nextKind_ne_colon noColon]
  have notTwo : ((TokenStream.current ⟨ts, finish⟩).kind.isNameLike &&
      (TokenStream.peek ⟨ts, finish⟩ 1).kind.isNameLike &&
      decide ((TokenStream.peek ⟨ts, finish⟩ 2).kind = .colon)) = false := by
    rcases ts with _ | ⟨a, _ | ⟨b, us⟩⟩
    · rfl
    · simp [TokenKind.isNameLike]
    · rcases name : a.kind.isNameLike
      · simp [name]
      rcases other : b.kind.isNameLike
      · simp [other]
      rw [kindBehindNames, if_pos name, kindBehindNames, if_pos other] at noColon
      have third : (TokenStream.peek ⟨a :: b :: us, finish⟩ 2).kind = nextKind us := by
        cases us <;> rfl
      simp [third, nextKind_ne_colon noColon]
  rw [label?, run'_bind_of_ok (run'_current _), run'_bind_of_ok (run'_peek _ _), notOne,
    if_neg Bool.false_ne_true, run'_bind_of_ok (run'_current _), run'_bind_of_ok (run'_peek _ _),
    run'_bind_of_ok (run'_peek _ _), notTwo]
  rfl

/-- A name with a colon behind it is a label. -/
theorem run'_label?_some {kind : TokenKind} (name : kind.isNameLike = true) (l colon : String)
    (p q : Position) (ts : List Token) (finish : Position) :
    label?.run' ⟨⟨kind, l, p⟩ :: ⟨.colon, colon, q⟩ :: ts, finish⟩ =
      (.ok (some l), ⟨ts, finish⟩) := by
  have one : (kind.isNameLike && decide (TokenKind.colon = .colon)) = true := by rw [name]; rfl
  rw [label?, run'_bind_of_ok (run'_current _), run'_bind_of_ok (run'_peek _ _)]
  refine (congrArg (fun r => TokenReader.run' r _) (if_pos one)).trans ?_
  rw [run'_bind_of_ok (run'_advance _), run'_bind_of_ok (run'_advance _)]
  rfl

theorem labelledPieces_some {l : String} (isWord : IsWord l) (xs : List Piece) :
    labelledPieces (some l) xs = .word l :: .sign .colon :: .space :: xs := by
  have filled : l ≠ "" := by
    rintro rfl
    obtain ⟨_, _, characters, -⟩ := isWord
    cases characters
  rw [labelledPieces, if_neg filled]

/-- An element of a tuple is read with its label. -/
theorem reads_tupleElement {label : Option String} (isWord : ∀ l, label = some l → IsWord l)
    (ungrouped : Ungrouped reserved .full t) (reads : ReadsType reserved type t) :
    Reads (tupleElement type) (labelledPieces label t.pieces) (label, t)
      fun _ ts => Ends reserved typeStops ts ∧ kindBehindNames ts ≠ .colon := by
  intro p ts finish ⟨ends, noColon⟩
  cases label with
  | none =>
    have unlabelled := run'_label?_none finish (ungrouped.kindBehindNames_ne_colon p noColon)
    rw [labelledPieces, tupleElement, run'_bind_of_ok unlabelled,
      run'_bind_of_ok (reads p ts finish ends)]
    rfl
  | some l =>
    have labelled := run'_label?_some (isNameLike_wordKind l) l
    rw [labelledPieces_some (isWord l rfl), placed_word, placed_sign, placed_space,
      List.cons_append, List.cons_append, tupleElement,
      run'_bind_of_ok (labelled _ _ _ _ finish), run'_bind_of_ok (reads _ ts finish ends)]
    rfl

/-- A tuple element begins with a name, a bracket or an attribute. -/
theorem nextKind_labelledPieces {label : Option String} (isWord : ∀ l, label = some l → IsWord l)
    (ungrouped : Ungrouped reserved .full t) (p : Position) (ts : List Token) :
    nextKind (placed p (labelledPieces label t.pieces) ++ ts) ≠ .closeParen := by
  cases label with
  | none =>
    exact ungrouped.nextKind_ne (by decide) p ts
  | some l =>
    rw [labelledPieces_some (isWord l rfl)]
    exact wordKind_ne rfl l

/-- The elements of a tuple are read up to the closing parenthesis. -/
theorem reads_elements {elements : List (Option String × TypeExpr)}
    (labels : ∀ e ∈ elements, ∀ l, e.1 = some l → IsWord l)
    (parts : ∀ e ∈ elements, Ungrouped reserved .full e.2)
    (each : ∀ e ∈ elements, ReadsType reserved type e.2) :
    Reads (commaList .closeParen (tupleElement type))
      (commaPieces (elements.map fun e => labelledPieces e.1 e.2.pieces)) elements
      fun _ ts => nextKind ts = .closeParen := by
  have list := reads_commaList (g := id) (by decide)
    (fun e there => reads_tupleElement (labels e there) (parts e there) (each e there))
    (fun e there => nextKind_labelledPieces (labels e there) (parts e there))
    fun _ _ _ => ⟨ends_of_sign .comma rfl (by decide) rfl, nofun⟩
  rw [List.map_id] at list
  refine list.mono ?_
  intro _ ts closes
  refine ⟨fun _ => ⟨ends_of_sign .closeParen closes (by decide) rfl, ?_⟩, closes⟩
  rw [kindBehindNames_of_sign closes rfl]
  exact nofun

/-! ### Parentheses and brackets -/

/-- Reads one effect, if there is one. -/
def effectStep : Bool × Bool → TokenReader ((Bool × Bool) ⊕ (Bool × Bool)) :=
  fun (isAsync, throws) => do
    if ← isAtAny [.keyword .asynchronous, .keyword .throwing, .keyword .rethrowing] then
      let word ← advance
      if word.kind = .keyword .asynchronous then return .inl (true, throws)
      else
        let _ ← groupBehind? word
        return .inl (isAsync, true)
    else return .inr (isAsync, throws)

theorem functionEffects_eq : functionEffects = iterate (false, false) effectStep := rfl

/-- The effects of a function are read in front of its arrow; a tuple has none. -/
theorem reads_functionEffects (isAsync throws : Bool) :
    Reads functionEffects (effectPieces isAsync throws) (isAsync, throws) fun _ ts =>
      nextKind ts ∉ [.keyword .asynchronous, .keyword .throwing, .keyword .rethrowing] ∧
        (throws = true → nextKind ts ≠ .openParen) := by
  intro p ts finish ⟨ends, noGroup⟩
  have last (a : Bool × Bool) :
      (effectStep a).run' ⟨ts, finish⟩ = (.ok (.inr a), ⟨ts, finish⟩) := by
    have notAt := run'_isAtAny
      [.keyword .asynchronous, .keyword .throwing, .keyword .rethrowing] ⟨ts, finish⟩
    rw [effectStep, run'_bind_of_ok notAt, kind_current, if_neg (by simpa using ends)]
    rfl
  have async (b : Bool) (q : Position) (us : List Token) :
      Steps effectStep (false, b) ⟨⟨.keyword .asynchronous, "async", q⟩ :: us, finish⟩
        (true, b) ⟨us, finish⟩ :=
    .single rfl (Nat.lt_succ_self _)
  have throwing (a : Bool) (q : Position) (apart : nextKind ts ≠ .openParen) :
      Steps effectStep (a, false) ⟨⟨.keyword .throwing, "throws", q⟩ :: ts, finish⟩
        (a, true) ⟨ts, finish⟩ := by
    refine .single ?_ (Nat.lt_succ_self _)
    have noGroup (word : Token) :
        (groupBehind? word).run' ⟨ts, finish⟩ = (.ok none, ⟨ts, finish⟩) :=
      run'_groupBehind?_none finish fun token us same kind => absurd kind (by rwa [same] at apart)
    rw [effectStep, run'_bind_of_ok (run'_isAtAny _ _), if_pos (by rfl),
      run'_bind_of_ok (run'_advance _), TokenStream.current_cons, TokenStream.rest_cons,
      if_neg (by exact nofun), run'_bind_of_ok (noGroup _)]
    rfl
  have asyncWord : wordKind "async" = .keyword .asynchronous := wordKind_spelling .asynchronous
  have throwsWord : wordKind "throws" = .keyword .throwing := wordKind_spelling .throwing
  rw [functionEffects_eq]
  cases isAsync with
  | false => cases throws with
    | false =>
      change (iterate _ effectStep).run' ⟨ts, finish⟩ = _
      exact run'_iterate (.refl _ _) (last _)
    | true =>
      rw [show effectPieces false true = [.space, .word "throws"] from rfl, placed_space,
        placed_word, throwsWord]
      exact run'_iterate (throwing false _ (noGroup rfl)) (last _)
  | true => cases throws with
    | false =>
      rw [show effectPieces true false = [.space, .word "async"] from rfl, placed_space,
        placed_word, asyncWord]
      exact run'_iterate (async false _ _) (last _)
    | true =>
      rw [show effectPieces true true = [.space, .word "async", .space, .word "throws"] from rfl,
        placed_space, placed_word, asyncWord, placed_space, placed_word, throwsWord]
      exact run'_iterate ((async false _ _).trans (throwing true _ (noGroup rfl))) (last _)

/-- What `parenthesized` does behind the elements and the effects. -/
def behindParens (type : TokenReader TypeExpr) (elements : List (Option String × TypeExpr))
    (isAsync throws : Bool) : TokenReader TypeExpr := do
  if ← accept .arrow then
    return .function (elements.map (·.2)) (← type) isAsync throws
  else if isAsync || throws then fail .expectedArrow
  else match elements with
    | [(none, t)] => return t
    | _ => return .tuple elements

/-- Elements in parentheses are read, and the effects behind them. -/
theorem run'_parenthesized {elements : List (Option String × TypeExpr)} (isAsync throws : Bool)
    (labels : ∀ e ∈ elements, ∀ l, e.1 = some l → IsWord l)
    (parts : ∀ e ∈ elements, Ungrouped reserved .full e.2)
    (each : ∀ e ∈ elements, ReadsType reserved type e.2) (p : Position) (ts : List Token)
    (finish : Position) (ends : nextKind ts ∉
      [.keyword .asynchronous, .keyword .throwing, .keyword .rethrowing])
    (noGroup : throws = true → nextKind ts ≠ .openParen) :
    (parenthesized type).run'
        ⟨placed p (parenPieces (elements.map fun e => labelledPieces e.1 e.2.pieces) ++
          effectPieces isAsync throws) ++ ts, finish⟩ =
      (behindParens type elements isAsync throws).run' ⟨ts, finish⟩ := by
  have listed := reads_elements labels parts each
  have effects (q : Position) :=
    reads_functionEffects isAsync throws q ts finish ⟨ends, noGroup⟩
  rw [parenPieces, List.cons_append, placed_sign, List.append_assoc, placed_append,
    List.cons_append, List.append_assoc, List.cons_append, placed_sign, List.nil_append,
    List.cons_append, parenthesized, run'_bind_of_ok (run'_expect_self _ _ _ _ _),
    run'_bind_of_ok (listed _ _ finish rfl), run'_bind_of_ok (run'_expect_self _ _ _ _ _),
    run'_bind_of_ok (effects _)]
  rfl

/-- A tuple is read in front of everything that does not make it a function. -/
theorem reads_tuple {elements : List (Option String × TypeExpr)}
    (notSingle : ∀ t, elements ≠ [(none, t)])
    (labels : ∀ e ∈ elements, ∀ l, e.1 = some l → IsWord l)
    (parts : ∀ e ∈ elements, Ungrouped reserved .full e.2)
    (each : ∀ e ∈ elements, ReadsType reserved type e.2) :
    Reads (parenthesized type) (TypeExpr.tuple elements).pieces (.tuple elements)
      fun _ => Ends reserved primaryStops := by
  intro p ts finish ends
  have noEffects : nextKind ts ∉
      [.keyword .asynchronous, .keyword .throwing, .keyword .rethrowing] := by
    simpa using ⟨ends.ne (by decide), ends.ne (by decide), ends.ne (by decide)⟩
  have elementsRead :=
    run'_parenthesized false false labels parts each p ts finish noEffects Bool.noConfusion
  have noArrow : nextKind ts ≠ .arrow := ends.ne (by decide)
  rw [show effectPieces false false = [] from rfl, List.append_nil] at elementsRead
  rw [TypeExpr.pieces, TypeExpr.elementPieces_eq_map, elementsRead, behindParens,
    run'_bind_of_ok (run'_accept_none noArrow finish), if_neg Bool.false_ne_true, Bool.or_false,
    if_neg Bool.false_ne_true]
  · rfl
  · exact notSingle

/-- An element without a label. -/
def unlabelled (t : TypeExpr) : Option String × TypeExpr := (none, t)

/-- A function is read in front of everything that its result is read in front of. -/
theorem reads_function {parameters : List TypeExpr} {result : TypeExpr}
    (isAsync throws : Bool) (parts : ∀ t ∈ parameters, Ungrouped reserved .full t)
    (each : ∀ t ∈ parameters, ReadsType reserved type t) (last : ReadsType reserved type result) :
    ReadsType reserved (parenthesized type) (.function parameters result isAsync throws) := by
  intro p ts finish ends
  have labels : ∀ e ∈ parameters.map unlabelled, ∀ l, e.1 = some l → IsWord l :=
    List.forall_mem_map.2 fun _ _ _ => nofun
  have elements : (parameters.map unlabelled).map (fun e => labelledPieces e.1 e.2.pieces) =
      parameters.map TypeExpr.pieces := by
    rw [List.map_map]
    rfl
  have types : (parameters.map unlabelled).map (·.2) = parameters := by
    rw [List.map_map]
    exact List.map_id _
  have parameters := run'_parenthesized isAsync throws labels (List.forall_mem_map.2 parts)
    (List.forall_mem_map.2 each) p
  rw [TypeExpr.pieces, TypeExpr.piecesOfEach_eq_map, ← elements, ← List.append_assoc,
    placed_append, List.append_assoc, placed_space, placed_sign, placed_space, List.cons_append,
    parameters _ finish (by exact of_decide_eq_true rfl) (fun _ => TokenKind.noConfusion)]
  refine (run'_bind_of_ok (run'_accept_self _ _ _ _ _)).trans ?_
  rw [if_pos rfl, run'_bind_of_ok (last _ ts finish ends), types]
  rfl

/-- An array is read, whatever stands behind it. -/
theorem reads_array {element : TypeExpr} (reads : ReadsType reserved type element) :
    Reads (bracketed type) (TypeExpr.array element).pieces (.array element) fun _ _ => True := by
  intro p ts finish _
  have elementRead (q : Position) (us : List Token) (next : nextKind us = .closeBracket) :=
    reads q us finish (ends_of_sign .closeBracket next (by decide) rfl)
  rw [TypeExpr.pieces, placed_sign, placed_append, List.cons_append, List.append_assoc, bracketed,
    run'_bind_of_ok (run'_advance _), TokenStream.rest_cons,
    run'_bind_of_ok (elementRead _ _ rfl),
    run'_bind_of_ok (run'_accept_none TokenKind.noConfusion finish), if_neg Bool.false_ne_true]
  exact run'_bind_of_ok (run'_expect_self _ _ _ _ _)

/-- A dictionary is read, whatever stands behind it. -/
theorem reads_dictionary {key value : TypeExpr} (readsKey : ReadsType reserved type key)
    (readsValue : ReadsType reserved type value) :
    Reads (bracketed type) (TypeExpr.dictionary key value).pieces (.dictionary key value)
      fun _ _ => True := by
  intro p ts finish _
  have keyRead (q : Position) (us : List Token) (next : nextKind us = .colon) :=
    readsKey q us finish (ends_of_sign .colon next (by decide) rfl)
  have valueRead (q : Position) (us : List Token) (next : nextKind us = .closeBracket) :=
    readsValue q us finish (ends_of_sign .closeBracket next (by decide) rfl)
  rw [TypeExpr.pieces, placed_sign, placed_append, List.cons_append, List.append_assoc,
    placed_sign, List.cons_append, placed_space, placed_append, List.append_assoc, bracketed,
    run'_bind_of_ok (run'_advance _), TokenStream.rest_cons,
    run'_bind_of_ok (keyRead _ _ rfl), run'_bind_of_ok (run'_accept_self _ _ _ _ _), if_pos rfl,
    run'_bind_of_ok (valueRead _ _ rfl)]
  exact run'_bind_of_ok (run'_expect_self _ _ _ _ _)

end Parts

/-! ## Sizes of types -/

namespace TypeExpr

/-- The number of tokens of a type. -/
def tokenCount (t : TypeExpr) : Nat := t.pieces.countP Piece.isToken

variable {t : TypeExpr} {types : List TypeExpr}

theorem tokenCount_le_of_sublist {xs : List Piece} (part : t.pieces.Sublist xs) :
    t.tokenCount ≤ xs.countP Piece.isToken :=
  part.countP_le

theorem tokenCount_le_append {u : TypeExpr} {xs : List Piece} (pieces : u.pieces = t.pieces ++ xs) :
    t.tokenCount ≤ u.tokenCount := by
  rw [tokenCount, tokenCount, pieces, List.countP_append]
  exact Nat.le_add_right _ _

theorem tokenCount_le_argumentPieces (there : t ∈ types) :
    t.tokenCount ≤ (argumentPieces (types.map pieces)).countP Piece.isToken := by
  have part : t.pieces.Sublist (commaPieces (types.map pieces)) :=
    sublist_joined (List.mem_map_of_mem there)
  have filled : types ≠ [] := List.ne_nil_of_mem there
  rw [argumentPieces, if_neg (by simpa using filled)]
  exact tokenCount_le_of_sublist ((part.trans (List.sublist_append_left _ _)).cons _)

theorem tokenCount_lt_parenPieces {items : List (List Piece)} {xs : List Piece} (there : xs ∈ items)
    (part : t.pieces.Sublist xs) :
    t.tokenCount < (parenPieces items).countP Piece.isToken := by
  have inside : t.pieces.Sublist (commaPieces items ++ [.sign .closeParen]) :=
    (part.trans (sublist_joined there)).trans (List.sublist_append_left _ _)
  rw [parenPieces, List.countP_cons_of_pos rfl]
  exact Nat.lt_succ_of_le (tokenCount_le_of_sublist inside)

theorem tokenCount_lt_element {elements : List (Option String × TypeExpr)}
    {e : Option String × TypeExpr} (there : e ∈ elements) :
    e.2.tokenCount < (tuple elements).tokenCount := by
  have part : e.2.pieces.Sublist (labelledPieces e.1 e.2.pieces) := by
    rcases e.1 with _ | l
    · exact .refl _
    · rw [labelledPieces]
      split
      · exact .refl _
      · exact (((List.Sublist.refl _).cons _).cons _).cons _
  have listed : labelledPieces e.1 e.2.pieces ∈ elementPieces elements := by
    rw [elementPieces_eq_map]
    exact List.mem_map.2 ⟨e, there, rfl⟩
  change e.2.tokenCount < (tuple elements).pieces.countP Piece.isToken
  rw [pieces]
  exact tokenCount_lt_parenPieces listed part

end TypeExpr

end ViewModifiers.Interface
