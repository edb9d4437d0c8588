import ViewModifiers.Proofs.Interface.TypeParts

/-!
# Types read back

The layers of the reader take a type without grouping off the front of its tokens, if the readers
nested in them do so with the smaller types (`Inside`). A type that marks stand behind is a root
with a chain of marks, one step of a loop for each (`Ungrouped.exists_steps`). The tokens of a type
bound how deep readers have to be nested (`inside_layerFrom`), so the spelling of a type is read
back as the type (`readType_text`).
-/

namespace ViewModifiers.Interface

open Source Text TokenReader TypeReader

/-- Nested readers read the types of their layers with less than a number of tokens. -/
structure Inside (reserved : List String) (n : Nat) (nested : TypeLayer → TokenReader TypeExpr) :
    Prop where
  full : ∀ t, Ungrouped reserved .full t → t.tokenCount < n →
    ReadsType reserved (nested .full) t
  composed : ∀ t, Ungrouped reserved .composed t → t.tokenCount < n →
    ReadsType reserved (nested .composed) t

variable {reserved : List String} {stops : List TokenKind} {n : Nat}
  {nested : TypeLayer → TokenReader TypeExpr} {t : TypeExpr} {ts : List Token}

/-! ## Primary types -/

section Primary

theorem run'_primary_identifier (name : String) (p : Position) (ts : List Token)
    (finish : Position) :
    (primary nested).run' ⟨⟨.identifier, name, p⟩ :: ts, finish⟩ =
      (do if packWords.contains name && (← isAtName) then nested .primary
          else return .named name (← genericArguments (nested .full)) :
        TokenReader TypeExpr).run' ⟨ts, finish⟩ := rfl

theorem run'_primary_openParen (value : String) (p : Position) (ts : List Token)
    (finish : Position) :
    (primary nested).run' ⟨⟨.openParen, value, p⟩ :: ts, finish⟩ =
      (parenthesized (nested .full)).run' ⟨⟨.openParen, value, p⟩ :: ts, finish⟩ := rfl

theorem run'_primary_openBracket (value : String) (p : Position) (ts : List Token)
    (finish : Position) :
    (primary nested).run' ⟨⟨.openBracket, value, p⟩ :: ts, finish⟩ =
      (bracketed (nested .full)).run' ⟨⟨.openBracket, value, p⟩ :: ts, finish⟩ := rfl

theorem run'_primary_some (value : String) (p : Position) (ts : List Token) (finish : Position) :
    (primary nested).run' ⟨⟨.keyword .someOf, value, p⟩ :: ts, finish⟩ =
      (do return .quantified .some (← nested .composed) : TokenReader TypeExpr).run' ⟨ts, finish⟩ :=
  rfl

theorem run'_primary_any (value : String) (p : Position) (ts : List Token) (finish : Position) :
    (primary nested).run' ⟨⟨.keyword .anyOf, value, p⟩ :: ts, finish⟩ =
      (do return .quantified .any (← nested .composed) : TokenReader TypeExpr).run' ⟨ts, finish⟩ :=
  rfl

/-- A name is read with its arguments. A word in front of a parameter pack is a name as well, if no
other name follows it. -/
theorem Inside.reads_named (inside : Inside reserved n nested) {name : String}
    {arguments : List TypeExpr} (isName : IsIdentifier name) (free : name ∉ reserved)
    (parts : ∀ t ∈ arguments, Ungrouped reserved .full t)
    (small : (TypeExpr.named name arguments).tokenCount ≤ n) :
    Reads (primary nested) (TypeExpr.named name arguments).pieces (.named name arguments)
      fun _ => Ends reserved primaryStops := by
  intro p ts finish ends
  rw [TypeExpr.tokenCount, TypeExpr.pieces, TypeExpr.piecesOfEach_eq_map,
    List.countP_cons_of_pos rfl] at small
  have each : ∀ t ∈ arguments, ReadsType reserved (nested .full) t := by
    intro t there
    have fewer := TypeExpr.tokenCount_le_argumentPieces there
    exact inside.full t (parts t there) (by omega)
  have argumentsRead := reads_genericArguments each
  have noPack (q : Position) : (packWords.contains name &&
      (nextKind (placed q (argumentPieces (arguments.map TypeExpr.pieces)) ++ ts)).isNameLike) =
        false := by
    rw [argumentPieces]
    split
    · rw [placed_nil, List.nil_append, Bool.and_eq_false_imp]
      intro pack
      rcases next : (nextKind ts).isNameLike
      · rfl
      · have word : name ∈ packWords := by simpa using pack
        exact absurd (ends.words next name (List.mem_append_left _ word)) free
    · exact Bool.and_false _
  rw [TypeExpr.pieces, TypeExpr.piecesOfEach_eq_map, placed_word, isName.wordKind,
    List.cons_append, run'_primary_identifier, run'_bind_of_ok (run'_isAtName _), kind_current,
    noPack, if_neg Bool.false_ne_true,
    run'_bind_of_ok (argumentsRead _ ts finish (ends.ne (by decide)))]
  rfl

theorem Inside.reads_primary_array (inside : Inside reserved n nested) {element : TypeExpr}
    (part : Ungrouped reserved .full element)
    (small : (TypeExpr.array element).tokenCount ≤ n) :
    Reads (primary nested) (TypeExpr.array element).pieces (.array element) fun _ _ => True := by
  intro p ts finish _
  have fewer : element.tokenCount < (TypeExpr.array element).tokenCount := by
    rw [TypeExpr.tokenCount, TypeExpr.tokenCount, TypeExpr.pieces, List.countP_cons_of_pos rfl,
      List.countP_append]
    omega
  have arrayRead := reads_array (inside.full element part (by omega)) p ts finish trivial
  rw [TypeExpr.pieces, placed_sign, List.cons_append] at arrayRead ⊢
  rw [run'_primary_openBracket, arrayRead]

theorem Inside.reads_primary_dictionary (inside : Inside reserved n nested) {key value : TypeExpr}
    (keyPart : Ungrouped reserved .full key) (valuePart : Ungrouped reserved .full value)
    (small : (TypeExpr.dictionary key value).tokenCount ≤ n) :
    Reads (primary nested) (TypeExpr.dictionary key value).pieces (.dictionary key value)
      fun _ _ => True := by
  intro p ts finish _
  have fewer : key.tokenCount + value.tokenCount < (TypeExpr.dictionary key value).tokenCount := by
    rw [TypeExpr.tokenCount, TypeExpr.tokenCount, TypeExpr.tokenCount, TypeExpr.pieces,
      List.countP_cons_of_pos rfl, List.countP_append, List.countP_cons_of_pos rfl,
      List.countP_cons, List.countP_append]
    omega
  have dictionaryRead := reads_dictionary (inside.full key keyPart (by omega))
    (inside.full value valuePart (by omega)) p ts finish trivial
  rw [TypeExpr.pieces, placed_sign, List.cons_append] at dictionaryRead ⊢
  rw [run'_primary_openBracket, dictionaryRead]

theorem Inside.reads_primary_tuple (inside : Inside reserved n nested)
    {elements : List (Option String × TypeExpr)} (notSingle : ∀ t, elements ≠ [(none, t)])
    (labels : ∀ e ∈ elements, ∀ l, e.1 = some l → IsWord l)
    (parts : ∀ e ∈ elements, Ungrouped reserved .full e.2)
    (small : (TypeExpr.tuple elements).tokenCount ≤ n) :
    Reads (primary nested) (TypeExpr.tuple elements).pieces (.tuple elements)
      fun _ => Ends reserved primaryStops := by
  intro p ts finish ends
  have each : ∀ e ∈ elements, ReadsType reserved (nested .full) e.2 := by
    intro e there
    have fewer := TypeExpr.tokenCount_lt_element there
    exact inside.full e.2 (parts e there) (by omega)
  have tupleRead := reads_tuple notSingle labels parts each p ts finish ends
  rw [TypeExpr.pieces, parenPieces, placed_sign, List.cons_append] at tupleRead ⊢
  rw [run'_primary_openParen, tupleRead]

theorem Inside.reads_primary_function (inside : Inside reserved n nested)
    {parameters : List TypeExpr} {result : TypeExpr} {isAsync throws : Bool}
    (parts : ∀ t ∈ parameters, Ungrouped reserved .full t)
    (resultPart : Ungrouped reserved .full result)
    (small : (TypeExpr.function parameters result isAsync throws).tokenCount ≤ n) :
    ReadsType reserved (primary nested) (.function parameters result isAsync throws) := by
  intro p ts finish ends
  rw [TypeExpr.tokenCount, TypeExpr.pieces, TypeExpr.piecesOfEach_eq_map, List.countP_append]
    at small
  have each : ∀ t ∈ parameters, ReadsType reserved (nested .full) t := by
    intro t there
    have fewer := TypeExpr.tokenCount_lt_parenPieces (List.mem_map_of_mem there) (.refl t.pieces)
    exact inside.full t (parts t there) (by omega)
  have last : ReadsType reserved (nested .full) result := by
    have part : result.pieces.Sublist
        (effectPieces isAsync throws ++ .space :: .sign .arrow :: .space :: result.pieces) :=
      ((((List.Sublist.refl _).cons _).cons _).cons _).trans (List.sublist_append_right _ _)
    have fewer := TypeExpr.tokenCount_le_of_sublist part
    rw [parenPieces, List.countP_cons_of_pos rfl] at small
    exact inside.full result resultPart (by omega)
  have functionRead := reads_function isAsync throws parts each last p ts finish ends
  rw [TypeExpr.pieces, parenPieces, List.cons_append, placed_sign, List.cons_append]
    at functionRead ⊢
  rw [run'_primary_openParen, functionRead]

/-- A quantified type is read in front of everything that its bound is read in front of. -/
theorem Inside.reads_primary_quantified (inside : Inside reserved n nested) {word : Quantifier}
    {bound : TypeExpr} (part : Ungrouped reserved .composed bound)
    (small : (TypeExpr.quantified word bound).tokenCount ≤ n) :
    ReadsType reserved (primary nested) (.quantified word bound) := by
  intro p ts finish ends
  rw [TypeExpr.tokenCount, TypeExpr.pieces, List.countP_cons_of_pos rfl,
    List.countP_cons_of_neg Bool.false_ne_true] at small
  have boundRead := inside.composed bound part small
  rw [TypeExpr.pieces, placed_word, placed_space, List.cons_append]
  cases word with
  | some =>
    rw [show wordKind Quantifier.some.spelling = _ from wordKind_spelling .someOf,
      run'_primary_some, run'_bind_of_ok (boundRead _ ts finish ends)]
    rfl
  | any =>
    rw [show wordKind Quantifier.any.spelling = _ from wordKind_spelling .anyOf,
      run'_primary_any, run'_bind_of_ok (boundRead _ ts finish ends)]
    rfl

end Primary

/-! ## Marks -/

section Marks

variable {type : TokenReader TypeExpr}

/-- Reads one mark or member behind a type, if there is one. -/
def markStep (type : TokenReader TypeExpr) (t : TypeExpr) :
    TokenReader (TypeExpr ⊕ TypeExpr) := do
  if ← accept .question then return .inl (.optional t false)
  else if ← accept .bang then return .inl (.optional t true)
  else if ← accept .ellipsis then return .inl (.variadic t)
  else if (← isAt .dot) && (← peek 1).kind.isNameLike then
    let _ ← advance
    let name ← advance
    if name.value = "Type" then return .inl (.metatype t .ofType)
    else if name.value = "Protocol" then return .inl (.metatype t .ofProtocol)
    else return .inl (.member t name.value (← genericArguments type))
  else return .inr t

theorem marks_eq (start : TypeExpr) : marks type start = iterate start (markStep type) := rfl

/-- A word behind a dot is a member or makes a metatype. -/
theorem run'_markStep_dot {kind : TokenKind} (isName : kind.isNameLike = true)
    (dot name : String) (p q : Position) (ts : List Token) (finish : Position) :
    (markStep type t).run' ⟨⟨.dot, dot, p⟩ :: ⟨kind, name, q⟩ :: ts, finish⟩ =
      (do if name = "Type" then return .inl (.metatype t .ofType)
          else if name = "Protocol" then return .inl (.metatype t .ofProtocol)
          else return .inl (.member t name (← genericArguments type)) :
        TokenReader (TypeExpr ⊕ TypeExpr)).run' ⟨ts, finish⟩ := by
  cases kind with
  | identifier => rfl
  | keyword => rfl
  | _ => cases isName

/-- No mark is read in front of what ends a type with marks. -/
theorem run'_markStep_none (t : TypeExpr) (finish : Position)
    (ends : Ends reserved markedStops ts) :
    (markStep type t).run' ⟨ts, finish⟩ = (.ok (.inr t), ⟨ts, finish⟩) := by
  have noMark (kind : TokenKind) (stop : kind ∈ markedStops) :
      (accept kind).run' ⟨ts, finish⟩ = (.ok false, ⟨ts, finish⟩) :=
    run'_accept_none (ends.ne stop) finish
  rw [markStep, run'_bind_of_ok (noMark .question (by decide)), if_neg Bool.false_ne_true,
    run'_bind_of_ok (noMark .bang (by decide)), if_neg Bool.false_ne_true,
    run'_bind_of_ok (noMark .ellipsis (by decide)), if_neg Bool.false_ne_true,
    run'_bind_of_ok (run'_isAt_none (ends.ne (by decide)) finish)]
  rfl

/-- A primary type and the marks behind it are read, up to a place where more marks may stand. -/
def ReadsMarks (nested : TypeLayer → TokenReader TypeExpr) (t : TypeExpr) (s s' : TokenStream) :
    Prop :=
  ∃ root s₁, (primary nested).run' s = (.ok root, s₁) ∧
    Steps (markStep (nested .full)) root s₁ t s'

variable {u : TypeExpr} {s s₁ s₂ : TokenStream}

theorem ReadsMarks.next (reads : ReadsMarks nested t s s₁)
    (mark : (markStep (nested .full) t).run' s₁ = (.ok (.inl u), s₂))
    (shorter : s₂.ahead.length < s₁.ahead.length) : ReadsMarks nested u s s₂ := by
  obtain ⟨root, s₃, rootRead, steps⟩ := reads
  exact ⟨root, s₃, rootRead, steps.trans (.single mark shorter)⟩

theorem ReadsMarks.run'_marked (reads : ReadsMarks nested t s ⟨ts, finish⟩)
    (ends : Ends reserved markedStops ts) :
    (marked nested).run' s = (.ok t, ⟨ts, finish⟩) := by
  obtain ⟨root, s₁, rootRead, steps⟩ := reads
  rw [marked, run'_bind_of_ok rootRead, marks_eq]
  exact run'_iterate steps (run'_markStep_none t finish ends)

/-- A type that marks may stand behind is read as a primary type and a chain of marks. -/
theorem Ungrouped.readsMarks (inside : Inside reserved n nested) {t : TypeExpr} :
    Ungrouped reserved .closed t → t.tokenCount ≤ n → ∀ p ts finish, Ends reserved primaryStops ts →
      ReadsMarks nested t ⟨placed p t.pieces ++ ts, finish⟩ ⟨ts, finish⟩
  | .named name arguments isName free parts, small, p, ts, finish, ends =>
    ⟨_, _, inside.reads_named isName free parts small p ts finish ends, .refl _ _⟩
  | .array element part, small, p, ts, finish, _ =>
    ⟨_, _, inside.reads_primary_array part small p ts finish trivial, .refl _ _⟩
  | .dictionary key value keyPart valuePart, small, p, ts, finish, _ =>
    ⟨_, _, inside.reads_primary_dictionary keyPart valuePart small p ts finish trivial, .refl _ _⟩
  | .tuple elements notSingle labels parts, small, p, ts, finish, ends =>
    ⟨_, _, inside.reads_primary_tuple notSingle labels parts small p ts finish ends, .refl _ _⟩
  | .optional wrapped implicit closed, small, p, ts, finish, _ => by
    have fewer := Nat.le_trans (TypeExpr.tokenCount_le_append rfl) small
    rw [TypeExpr.pieces, placed_append, List.append_assoc]
    refine .next (closed.readsMarks inside fewer p _ finish ?_) ?_ (Nat.lt_succ_self _)
    · cases implicit with
      | false => exact ends_of_sign .question rfl (by decide) rfl
      | true => exact ends_of_sign .bang rfl (by decide) rfl
    · cases implicit <;> rfl
  | .variadic element closed, small, p, ts, finish, _ => by
    have fewer := Nat.le_trans (TypeExpr.tokenCount_le_append rfl) small
    rw [TypeExpr.pieces, placed_append, List.append_assoc]
    refine .next (closed.readsMarks inside fewer p _ finish ?_) rfl (Nat.lt_succ_self _)
    exact ends_of_sign .ellipsis rfl (by decide) rfl
  | .metatype base kind closed, small, p, ts, finish, _ => by
    have fewer := Nat.le_trans (TypeExpr.tokenCount_le_append rfl) small
    rw [TypeExpr.pieces, placed_append, List.append_assoc]
    refine .next (closed.readsMarks inside fewer p _ finish ?_) ?_ ?_
    · exact ends_of_sign .dot rfl (by decide) rfl
    · refine (run'_markStep_dot (isNameLike_wordKind _) _ _ _ _ _ _).trans ?_
      cases kind <;> rfl
    · exact Nat.lt_add_of_pos_right (by decide : 0 < 2)
  | .member base name arguments closed isWord noMetatype parts, small, p, ts, finish, ends => by
    have fewer := Nat.le_trans (TypeExpr.tokenCount_le_append rfl) small
    have each : ∀ t ∈ arguments, ReadsType reserved (nested .full) t := by
      intro t there
      have fewer := TypeExpr.tokenCount_le_argumentPieces there
      rw [TypeExpr.tokenCount, TypeExpr.pieces, TypeExpr.piecesOfEach_eq_map, List.countP_append,
        List.countP_cons_of_pos rfl, List.countP_cons_of_pos rfl] at small
      exact inside.full t (parts t there) (by omega)
    have argumentsRead (q : Position) :=
      reads_genericArguments each q ts finish (ends.ne (by decide))
    rw [TypeExpr.pieces, TypeExpr.piecesOfEach_eq_map, placed_append, List.append_assoc,
      placed_sign, placed_word]
    refine .next (closed.readsMarks inside fewer p _ finish ?_) ?_ ?_
    · exact ends_of_sign .dot rfl (by decide) rfl
    · refine (run'_markStep_dot (isNameLike_wordKind _) _ _ _ _ _ _).trans ?_
      rw [if_neg noMetatype.1, if_neg noMetatype.2]
      refine (run'_bind_of_ok (argumentsRead _)).trans ?_
      rfl
    · simp only [List.length_append, List.length_cons]
      omega

end Marks

/-! ## Compositions -/

section Composed

variable {p finish : Position}

/-- The pieces of a further type of a composition. -/
def furtherPieces (t : TypeExpr) : List Piece := .space :: .sign .ampersand :: .space :: t.pieces

/-- Reads a further type of a composition, if there is one. -/
def further? (nested : TypeLayer → TokenReader TypeExpr) : TokenReader (Option TypeExpr) := do
  if ← accept .ampersand then return some (← marked nested) else return none

theorem run'_further?_none (nested : TypeLayer → TokenReader TypeExpr) (finish : Position)
    (noMore : nextKind ts ≠ .ampersand) :
    (further? nested).run' ⟨ts, finish⟩ = (.ok none, ⟨ts, finish⟩) := by
  rw [further?, run'_bind_of_ok (run'_accept_none noMore finish)]
  rfl

theorem run'_composed {first : TypeExpr} {s s₁ : TokenStream}
    (reads : (marked nested).run' s = (.ok first, s₁)) :
    (composed nested).run' s =
      (do let others ← many (further? nested)
          if others.isEmpty then return first else return .composition (first :: others) :
        TokenReader TypeExpr).run' s₁ :=
  run'_bind_of_ok reads

/-- A type with marks is a composition by itself if no other type follows. -/
theorem run'_composed_single {s : TokenStream}
    (reads : (marked nested).run' s = (.ok t, ⟨ts, finish⟩)) (noMore : nextKind ts ≠ .ampersand) :
    (composed nested).run' s = (.ok t, ⟨ts, finish⟩) := by
  have none := run'_many_none (run'_further?_none nested finish noMore)
  rw [run'_composed reads]
  exact run'_bind_of_ok none

theorem pieces_composition_cons (first : TypeExpr) (others : List TypeExpr) :
    (TypeExpr.composition (first :: others)).pieces =
      first.pieces ++ others.flatMap furtherPieces := by
  rw [TypeExpr.pieces, TypeExpr.piecesOfEach_eq_map, List.map_cons, joined_cons, List.flatMap_map]
  rfl

/-- A composition of several types is read type by type. -/
theorem Inside.reads_composition (inside : Inside reserved n nested) {types : List TypeExpr}
    (several : 2 ≤ types.length) (each : ∀ t ∈ types, Ungrouped reserved .closed t)
    (small : (TypeExpr.composition types).tokenCount ≤ n) :
    ReadsType reserved (TypeReader.composed nested) (.composition types) := by
  intro p ts finish ends
  obtain ⟨first, others, rfl⟩ : ∃ first others, types = first :: others :=
    List.exists_cons_of_ne_nil (by rintro rfl; cases several)
  have reads : ∀ t ∈ first :: others, Reads (marked nested) t.pieces t fun _ =>
      Ends reserved markedStops := by
    intro t there p ts finish ends
    have part : t.tokenCount ≤ n := by
      rw [TypeExpr.tokenCount, TypeExpr.pieces, TypeExpr.piecesOfEach_eq_map] at small
      have listed : t.pieces ∈ (first :: others).map TypeExpr.pieces := List.mem_map_of_mem there
      exact Nat.le_trans (TypeExpr.tokenCount_le_of_sublist (sublist_joined listed)) small
    exact ((each t there).readsMarks inside part p ts finish ends.primary).run'_marked ends
  have ampersand (q : Position) (t : TypeExpr) (us : List Token) :
      Ends reserved markedStops (placed q (furtherPieces t) ++ us) :=
    ends_of_sign .ampersand rfl (by decide) rfl
  have further : ∀ t ∈ others, Reads (further? nested) (furtherPieces t) (some (id t))
      fun _ => Ends reserved markedStops := by
    intro t there p us finish ends
    have read (q : Position) := reads t (List.mem_cons_of_mem first there) q us finish ends
    rw [furtherPieces, placed_space, placed_sign, placed_space, List.cons_append, further?,
      run'_bind_of_ok (run'_accept_self _ _ _ _ _), if_pos rfl, run'_bind_of_ok (read _)]
    rfl
  have filled : ∀ t ∈ others, 0 < (furtherPieces t).countP Piece.isToken := by
    intro t _
    rw [furtherPieces, List.countP_cons_of_neg Bool.false_ne_true, List.countP_cons_of_pos rfl]
    exact Nat.succ_pos _
  have othersRead (q : Position) :
      (many (further? nested)).run' ⟨placed q (others.flatMap furtherPieces) ++ ts, finish⟩ =
        (.ok others, ⟨ts, finish⟩) := by
    have none := run'_further?_none nested finish (ends.ne (by decide))
    have read := run'_many further filled (fun t _ q us => ampersand q t us) (p := q)
      ends.marked none
    rwa [List.map_id] at read
  have firstEnds (q : Position) :
      Ends reserved markedStops (placed q (others.flatMap furtherPieces) ++ ts) := by
    cases others with
    | nil => exact absurd several (by simp)
    | cons u others =>
      rw [List.flatMap_cons, placed_append, List.append_assoc]
      exact ampersand q u _
  rw [pieces_composition_cons, placed_append, List.append_assoc,
    run'_composed (reads first List.mem_cons_self p _ finish (firstEnds _)),
    run'_bind_of_ok (othersRead _)]
  cases others with
  | nil => exact absurd several (by simp)
  | cons => rfl

/-- A closed type or a composition is read in front of everything that does not continue it. -/
theorem Inside.reads_composed (inside : Inside reserved n nested) {t : TypeExpr}
    (h : Ungrouped reserved .composed t) (small : t.tokenCount ≤ n) :
    ReadsType reserved (TypeReader.composed nested) t := by
  cases h with
  | single _ closed =>
    intro p ts finish ends
    have reads := closed.readsMarks inside small p ts finish ends.marked.primary
    exact run'_composed_single (reads.run'_marked ends.marked) (ends.ne (by decide))
  | composition types several each => exact inside.reads_composition several each small

/-- A type that may stand behind attributes is read in front of everything that does not continue
it. -/
theorem Inside.reads_plain (inside : Inside reserved n nested) {t : TypeExpr}
    (h : Ungrouped reserved .plain t) (small : t.tokenCount ≤ n) :
    ReadsType reserved (TypeReader.composed nested) t := by
  have unmarked (reads : ReadsType reserved (primary nested) t) :
      ReadsType reserved (TypeReader.composed nested) t := by
    intro p ts finish ends
    have marks : ReadsMarks nested t ⟨placed p t.pieces ++ ts, finish⟩ ⟨ts, finish⟩ :=
      ⟨t, _, reads p ts finish ends, .refl _ _⟩
    exact run'_composed_single (marks.run'_marked ends.marked) (ends.ne (by decide))
  cases h with
  | composed _ h => exact inside.reads_composed h small
  | quantified word bound part => exact unmarked (inside.reads_primary_quantified part small)
  | function parameters result isAsync throws parts resultPart =>
    exact unmarked (inside.reads_primary_function parts resultPart small)

end Composed

/-! ## Attributes and specifiers -/

section Full

variable {finish : Position}

/-- The tokens behind an attribute begin with no dot, nor with a parenthesis right behind it. -/
def BehindAttribute (q : Position) (ts : List Token) : Prop :=
  ∀ token us, ts = token :: us → token.kind ≠ .dot ∧
    (token.kind = .openParen → token.position = q)

/-- A name by itself is read as a dotted name. -/
theorem run'_dottedNames_single {kind : TokenKind} (isName : kind.isNameLike = true)
    (name : String) (p : Position) (finish : Position) (noDot : nextKind ts ≠ .dot) :
    dottedNames.run' ⟨⟨kind, name, p⟩ :: ts, finish⟩ =
      (.ok ([name], ⟨kind, name, p⟩), ⟨ts, finish⟩) := by
  have nameRead := run'_expectName_cons (t := ⟨kind, name, p⟩) isName ts finish
  rw [dottedNames, run'_bind_of_ok nameRead]
  refine run'_iterate (.refl _ _) ?_
  rw [run'_bind_of_ok (run'_isAt_none noDot finish)]
  rfl

/-- A blank behind an attribute keeps a parenthesis apart from it. -/
theorem isFollowedBy_space {name : String} (isWord : IsWord name) (kind : TokenKind) (p : Position)
    {token : Token} (next : token.position = (p.after name.toList).next ' ') :
    Token.isFollowedBy ⟨kind, name, p⟩ token = false := by
  have oneLine := p.after_of_not_mem (isWord.not_mem (c := '\n') (by decide))
  rw [oneLine] at next
  have column : token.position.column = p.column + name.length + 1 := by
    rw [next]
    rfl
  have apart : p.column + name.length ≠ token.position.column := by omega
  rw [Token.isFollowedBy, Bool.and_eq_false_iff]
  exact .inr (decide_eq_false apart)

theorem reads_typeAttribute {a : String} (isWord : IsWord a) :
    Reads typeAttribute? [.sign .atSign, .word a, .space] (some a) BehindAttribute := by
  intro p ts finish behind
  have noDot : nextKind ts ≠ .dot := by
    cases ts with
    | nil => exact nofun
    | cons token us => exact (behind token us rfl).1
  have nameRead (q : Position) :=
    run'_dottedNames_single (isNameLike_wordKind a) a q finish noDot
  have place : p.after (spell [Piece.sign .atSign, .word a, .space]) =
      ((p.after ['@']).after a.toList).next ' ' := by
    rw [spell_sign, spell_word, spell_space, Position.after_append, Position.after_append]
    rfl
  rw [place] at behind
  have noGroup : (groupBehind? ⟨wordKind a, a, p.after ['@']⟩).run' ⟨ts, finish⟩ =
      (.ok none, ⟨ts, finish⟩) := by
    refine run'_groupBehind?_none finish fun token us same paren => ?_
    exact isFollowedBy_space isWord _ _ ((behind token us same).2 paren)
  have name : lastField '.' (joinWith "." [a]) = a :=
    lastField_of_not_mem (isWord.not_mem (by decide))
  rw [placed_sign, placed_word, placed_space, placed_nil, List.cons_append, List.cons_append,
    List.nil_append, typeAttribute?, run'_bind_of_ok (run'_accept_self _ _ _ _ _), if_pos rfl,
    run'_bind_of_ok (nameRead _)]
  refine (run'_bind_of_ok noGroup).trans ?_
  rw [name]
  rfl

theorem run'_typeAttribute?_none (finish : Position) (noAttribute : nextKind ts ≠ .atSign) :
    typeAttribute?.run' ⟨ts, finish⟩ = (.ok none, ⟨ts, finish⟩) := by
  rw [typeAttribute?, run'_bind_of_ok (run'_accept_none noAttribute finish)]
  rfl

/-- Attributes are read up to a token that starts no attribute. -/
theorem run'_typeAttributes {attributes : List String} (names : ∀ a ∈ attributes, IsWord a)
    (p : Position) (ts : List Token) (finish : Position) (noAttribute : nextKind ts ≠ .atSign)
    (behind : BehindAttribute (p.after (spell (attributePieces attributes))) ts) :
    (many typeAttribute?).run' ⟨placed p (attributePieces attributes) ++ ts, finish⟩ =
      (.ok attributes, ⟨ts, finish⟩) := by
  have each : ∀ a ∈ attributes, Reads typeAttribute? [.sign .atSign, .word a, .space] (some (id a))
      BehindAttribute := fun a there => reads_typeAttribute (names a there)
  have begins : ∀ a ∈ attributes, ∀ q us,
      BehindAttribute q (placed q [Piece.sign .atSign, .word a, .space] ++ us) := by
    rintro a _ q us token _ ⟨⟩
    exact ⟨TokenKind.noConfusion, fun paren => TokenKind.noConfusion paren⟩
  have read := run'_many each (fun a _ => Nat.succ_pos _) begins behind
    (run'_typeAttribute?_none finish noAttribute)
  rwa [List.map_id] at read

/-- No specifier is read in front of what does not begin with one. -/
theorem run'_specifier?_none (finish : Position) (bare : Bare ts) :
    specifier?.run' ⟨ts, finish⟩ = (.ok none, ⟨ts, finish⟩) := by
  have notOwned : (decide ((TokenStream.current ⟨ts, finish⟩).kind = .identifier) &&
      ownershipWords.contains (TokenStream.current ⟨ts, finish⟩).value &&
      (TokenStream.peek ⟨ts, finish⟩ 1).kind.isNameLike) = false := by
    cases ts with
    | nil => rfl
    | cons token us =>
      rw [TokenStream.current_cons, kind_peek_one, Bool.and_eq_false_imp]
      intro owned
      rw [Bool.and_eq_true, decide_eq_true_eq, List.contains_iff_mem] at owned
      exact bare.notOwned token us rfl owned.1 owned.2
  rw [specifier?, run'_bind_of_ok (run'_isAt_none bare.notInOut finish),
    if_neg Bool.false_ne_true, run'_bind_of_ok (run'_isAtWord _ _),
    run'_bind_of_ok (run'_peek _ _), notOwned]
  rfl

/-- A specifier is read in front of a type that it may stand in front of. -/
theorem run'_specifier?_some {s : String} (specifies : IsSpecifier s t)
    (ungrouped : Ungrouped reserved .plain t) (p q : Position) (ts : List Token)
    (finish : Position) :
    specifier?.run' ⟨⟨wordKind s, s, p⟩ :: (placed q t.pieces ++ ts), finish⟩ =
      (.ok (some s), ⟨placed q t.pieces ++ ts, finish⟩) := by
  rcases specifies with rfl | ⟨known, starts⟩
  · rw [show wordKind "inout" = _ from wordKind_spelling .inOut]
    rfl
  · have owned : ownershipWords.contains s = true := List.contains_iff_mem.2 known
    have next := ungrouped.isNameLike_of_startsWithName starts q ts
    rw [wordKind_of_mem_ownershipWords known, specifier?, run'_bind_of_ok (run'_isAt _ _),
      TokenStream.current_cons, if_neg (by exact Bool.false_ne_true),
      run'_bind_of_ok (run'_isAtWord _ _), TokenStream.current_cons,
      run'_bind_of_ok (run'_peek _ _), kind_peek_one, owned, next]
    rfl

/-- What stands behind the attributes of a type, up to where its specifier is read. -/
theorem exists_run'_specifier? {specifier : Option String}
    (specifies : ∀ s, specifier = some s → IsSpecifier s t) (h : Ungrouped reserved .plain t)
    (ends : Ends reserved stops ts) (q finish : Position) :
    BehindAttribute q (placed q (specifierPieces specifier ++ t.pieces) ++ ts) ∧
      nextKind (placed q (specifierPieces specifier ++ t.pieces) ++ ts) ≠ .atSign ∧
      ∃ r, specifier?.run' ⟨placed q (specifierPieces specifier ++ t.pieces) ++ ts, finish⟩ =
        (.ok specifier, ⟨placed r t.pieces ++ ts, finish⟩) := by
  cases specifier with
  | none =>
    have bare := h.bare (by decide) q ends.words
    refine ⟨?_, bare.noAttribute, q, run'_specifier?_none finish bare⟩
    intro token us tokens
    obtain ⟨first, later, begins, position, kind⟩ := h.exists_placed q ts
    obtain ⟨rfl, -⟩ := List.cons.inj (tokens.symm.trans begins)
    refine ⟨fun dot => ?_, fun _ => position⟩
    rw [dot] at kind
    exact absurd kind (by decide)
  | some s =>
    rw [specifierPieces_some (specifies s rfl).isWord, List.cons_append, List.cons_append,
      List.nil_append, placed_word, placed_space, List.cons_append]
    refine ⟨?_, wordKind_ne rfl s, _, run'_specifier?_some (specifies s rfl) h _ _ ts finish⟩
    rintro token us ⟨⟩
    exact ⟨wordKind_ne rfl s, fun _ => rfl⟩

/-- A type with its attributes is read in front of everything that does not continue it. -/
theorem Inside.reads_full (inside : Inside reserved n nested) {t : TypeExpr}
    (h : Ungrouped reserved .full t) (small : t.tokenCount ≤ n) :
    ReadsType reserved (TypeReader.full nested) t := by
  intro p ts finish ends
  cases h with
  | plain _ h =>
    have bare := h.bare (by decide) p ends.words
    have noAttributes := run'_many_none (run'_typeAttribute?_none finish bare.noAttribute)
    rw [TypeReader.full, run'_bind_of_ok noAttributes,
      run'_bind_of_ok (run'_specifier?_none finish bare),
      run'_bind_of_ok (inside.reads_plain h small p ts finish ends)]
    rfl
  | attributed attributes specifier base something names specifies h =>
    have fewer : base.tokenCount ≤ n := by
      rw [TypeExpr.tokenCount, TypeExpr.pieces, ← List.append_assoc] at small
      exact Nat.le_trans (TypeExpr.tokenCount_le_of_sublist (List.sublist_append_right _ _)) small
    have kept : (attributes.isEmpty && specifier.isNone) = false := by
      cases attributes <;> cases specifier <;> first | rfl | simp at something
    obtain ⟨behind, noAttribute, r, specifierRead⟩ :=
      exists_run'_specifier? specifies h ends (p.after (spell (attributePieces attributes))) finish
    have attributesRead := run'_typeAttributes names p _ finish noAttribute behind
    rw [TypeExpr.pieces, placed_append, List.append_assoc, TypeReader.full,
      run'_bind_of_ok attributesRead, run'_bind_of_ok specifierRead,
      run'_bind_of_ok (inside.reads_plain h fewer r ts finish ends), kept]
    rfl

end Full

/-! ## Whole types -/

/-- Readers nested as deep as there are tokens read all types with so many tokens. -/
theorem inside_layerFrom (reserved : List String) (measure : List Token) :
    Inside reserved (measure.length + 1) (layerFrom measure) := by
  induction measure with
  | nil =>
    have inside : Inside reserved 0 fun _ => fail .nestedTooDeeply :=
      ⟨fun _ _ fewer => absurd fewer (Nat.not_lt_zero _),
        fun _ _ fewer => absurd fewer (Nat.not_lt_zero _)⟩
    exact ⟨fun t h small => inside.reads_full h (Nat.le_of_lt_succ small),
      fun t h small => inside.reads_composed h (Nat.le_of_lt_succ small)⟩
  | cons _ measure inside =>
    exact ⟨fun t h small => inside.reads_full h (Nat.le_of_lt_succ small),
      fun t h small => inside.reads_composed h (Nat.le_of_lt_succ small)⟩

/-- A type without grouping is read in front of everything that does not continue it. -/
theorem reads_readType (h : Ungrouped reserved .full t) : ReadsType reserved readType t := by
  intro p ts finish ends
  rw [readType, run'_bind_of_ok (run'_get _)]
  refine (inside_layerFrom reserved (placed p t.pieces ++ ts)).full t h ?_ p ts finish ends
  rw [List.length_append, length_placed, TypeExpr.tokenCount]
  omega

/-- The spelling of a type without grouping is read back as the type, up to the end of the file. -/
theorem readType_text (t : TypeExpr) (ungrouped : Ungrouped [] .full t) :
    ∃ s, scan t.text = .ok s ∧ readType.run' s = (.ok t, ⟨[], s.finish⟩) := by
  have scanned := scan_of_fitting (ungrouped.stands [] apart_nil)
  rw [TypeExpr.spell_pieces, String.ofList_toList] at scanned
  refine ⟨_, scanned, ?_⟩
  have read := reads_readType ungrouped .start [] (Position.start.after t.text.toList)
    (ends_nil (by decide))
  rwa [List.append_nil] at read

/-- The type of a closure, with types of most kinds inside it. -/
def closureType : TypeExpr :=
  .attributed ["escaping"] none
    (.function
      [.attributed [] (some "inout") (.named "Binding" [.named "Int" []]),
        .optional (.dictionary (.named "String" []) (.tuple
          [(some "x", .named "Double" []), (some "in", .variadic (.array (.tuple [])))])) false]
      (.quantified .any
        (.composition [.member (.named "A" []) "init" [], .metatype (.named "B" []) .ofType]))
      true true)

theorem readType_text_closureType :
    closureType.text =
        "@escaping (inout Binding<Int>, [String: (x: Double, in: [()]...)]?) async throws -> " ++
          "any A.init & B.Type" ∧
      ∃ s, scan closureType.text = .ok s ∧
        readType.run' s = (.ok closureType, ⟨[], s.finish⟩) := by
  have word (name : String)
      (known : name ∈ ["escaping", "Binding", "Int", "String", "Double", "A", "B", "x", "in",
        "init"]) : IsWord name := by
    simp only [List.mem_cons, List.not_mem_nil, or_false] at known
    rcases known with rfl | rfl | rfl | rfl | rfl | rfl | rfl | rfl | rfl | rfl <;>
      exact isWord_of_name rfl (by decide) (by decide)
  have named (name : String) (known : name ∈ ["Int", "String", "Double", "A", "B"]) :
      Ungrouped [] .closed (.named name []) := by
    refine .named name [] ⟨word name ?_, ?_⟩ List.not_mem_nil fun _ => nofun
    · revert name
      decide
    · revert name
      decide
  have full {t : TypeExpr} (closed : Ungrouped [] .closed t) : Ungrouped [] .full t :=
    .plain t (.composed t (.single t closed))
  have binding : Ungrouped [] .full
      (.attributed [] (some "inout") (.named "Binding" [.named "Int" []])) := by
    refine .attributed _ _ _ (.inr nofun) nofun ?_ (.composed _ (.single _ (.named _ _ ?_ ?_ ?_)))
    · rintro _ ⟨⟩
      exact .inl rfl
    · exact ⟨word _ (by decide), by decide⟩
    · exact List.not_mem_nil
    · exact List.forall_mem_singleton.2 (full (named _ (by decide)))
  have point : Ungrouped [] .closed
      (.tuple [(some "x", .named "Double" []), (some "in", .variadic (.array (.tuple [])))]) := by
    refine .tuple _ nofun ?_ ?_
    · refine List.forall_mem_cons.2 ⟨?_, List.forall_mem_singleton.2 ?_⟩
      · rintro _ ⟨⟩
        exact word _ (by decide)
      · rintro _ ⟨⟩
        exact word _ (by decide)
    · have unit : Ungrouped [] .closed (.tuple []) :=
        .tuple [] nofun (fun _ => nofun) fun _ => nofun
      refine List.forall_mem_cons.2 ⟨full (named _ (by decide)), List.forall_mem_singleton.2 ?_⟩
      exact full (.variadic _ (.array _ (full unit)))
  have bound : Ungrouped [] .composed
      (.composition [.member (.named "A" []) "init" [], .metatype (.named "B" []) .ofType]) := by
    refine .composition _ (by decide) (List.forall_mem_cons.2 ⟨?_, List.forall_mem_singleton.2 ?_⟩)
    · exact .member _ _ _ (named _ (by decide)) (word _ (by decide)) (by decide) fun _ => nofun
    · exact .metatype _ _ (named _ (by decide))
  have ungrouped : Ungrouped [] .full closureType := by
    refine .attributed _ _ _ (.inl nofun) ?_ nofun (.function _ _ _ _ ?_ ?_)
    · exact List.forall_mem_singleton.2 (word _ (by decide))
    · refine List.forall_mem_cons.2 ⟨binding, List.forall_mem_singleton.2 ?_⟩
      exact full (.optional _ _ (.dictionary _ _ (full (named _ (by decide))) (full point)))
    · exact .plain _ (.quantified _ _ bound)
  exact ⟨by decide +kernel, readType_text closureType ungrouped⟩

end ViewModifiers.Interface
