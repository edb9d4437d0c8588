import ViewModifiers.Proofs.Interface.AttributesInStep
import ViewModifiers.Proofs.Interface.TypeProgress

/-!
# Types in step

A type is read alike in front of a brace and in front of another declaration, but for one thing: a
bare word at its end is a name in front of a brace, while it may belong to a name behind it
(`Setting.Unsure`). Wherever a type stands in brackets this makes no difference, since the reader
goes on to look for the closing bracket.
-/

namespace ViewModifiers.Interface

open Source TokenReader TypeReader

variable {α : Type} {w : Setting} {s s' : TokenStream}

theorem TokenStream.peek_two (s : TokenStream) : s.peek 2 = s.rest.rest.current := by
  rcases s with ⟨_ | ⟨t, _ | ⟨u, ts⟩⟩, p⟩
  · rfl
  · rfl
  · rfl

/-! ## Ends in doubt -/

namespace Setting

/-- It is certain what a word at the end of the tokens is: they end firmly, or no name stands behind
them. -/
def Decided (w : Setting) : Prop :=
  EndsFirmly w.piece ∨ (nextKind w.behind).isNameLike = false

/-- Nothing is left of tokens whose end is uncertain. -/
def Unsure (w : Setting) (s : TokenStream) : Prop := ¬w.Decided ∧ w.Over s

/-- If the next token is the last one, it is no bare word or no name stands behind it. -/
def Plain (w : Setting) (s : TokenStream) : Prop :=
  w.Over s.rest → isBareWord s.current = false ∨ (nextKind w.behind).isNameLike = false

/-- Whether a word applies to the name behind it comes out alike. -/
theorem Next.applies_eq (next : w.Next s s') (plain : w.Plain s)
    (kind : s.current.kind = .identifier) {words : List String} (bare : words ⊆ bareWords) :
    (words.contains s.current.value && s.rest.current.kind.isNameLike) =
      (words.contains s.current.value && s'.rest.current.kind.isNameLike) := by
  rcases next.along.cases with ⟨isOver, isOver'⟩ | next'
  · have here : s.rest.current.kind.isNameLike = false := Over.isNameLike (w := w) (.inl isOver)
    rcases plain (.inl isOver) with notBare | noName
    · have other : words.contains s.current.value = false := by
        rw [isBareWord, decide_eq_true kind, Bool.true_and] at notBare
        rw [List.contains_eq_mem, decide_eq_false_iff_not] at notBare ⊢
        exact fun there => notBare (bare there)
      rw [other, Bool.false_and, Bool.false_and]
    · have there : s'.rest.current.kind.isNameLike = false := by
        rw [kind_current, isOver', noName]
      rw [here, there]
  · rw [Token.kind_eq next'.content]

theorem Over.of_fewer {t : TokenStream} (isOver : w.Over s.rest) (left : t.IsLeftOf s)
    (fewer : t.ahead.length < s.ahead.length) : w.Over t := by
  refine isOver.left ⟨?_, left.finish⟩
  refine List.suffix_of_suffix_length_le left.ahead s.isLeftOf_rest.ahead ?_
  rw [TokenStream.rest, List.length_tail]
  omega

end Setting

theorem staysLost_unsure {r : TokenReader α} {Q : TokenStream → α → TokenStream → Prop}
    (fares : ∀ s, Fares True r s (Q s)) : StaysLost w.Unsure r :=
  fun s unsure a u run => ⟨unsure.1, staysLost_over fares s unsure.2 a u run⟩

section Doubt

variable {r r' : TokenReader α} {Q : α → α → TokenStream → TokenStream → Prop}

/-- A reader that uses up the last token is over. -/
theorem inStep_of_usesUp (isOver : w.Over s.rest) (usesUp : Leaves True r s s.ahead.length) :
    InStep w.Over r r' s s' Q := by
  intro a t run
  obtain ⟨left, fewer⟩ := usesUp.of_ok run
  exact .inl (isOver.of_fewer left fewer)

/-- Where a type may start, it may be supposed that it is certain what the last token is. -/
theorem inStep_of_start (start : w.Start s s') (usesUp : Leaves True r s s.ahead.length)
    (inStep : w.Plain s → InStep w.Unsure r r' s s' Q) : InStep w.Unsure r r' s s' Q := by
  by_cases decided : w.Decided
  · exact inStep fun isOver => decided.imp_left fun firm => start.notBare firm isOver
  · by_cases isOver : w.Over s.rest
    · exact (inStep_of_usesUp isOver usesUp).mono (fun _ => .intro decided) fun _ _ _ _ => id
    · exact inStep fun here => absurd here isOver

end Doubt

/-! ## Parts of types -/

/-- A reader reads types in two streams with no more than a number of tokens ahead alike, and it
uses up tokens in all of them. -/
structure Setting.ReadsTypes (w : Setting) (n : Nat) (r r' : TokenReader TypeExpr) : Prop where
  keeps : w.Keeps w.Unsure n id r r'
  usesUp : ∀ s, Leaves True r s s.ahead.length

namespace TypeReader

variable {type type' : TokenReader TypeExpr} {n : Nat}

theorem inStep_genericArguments (reads : w.ReadsTypes n type type') (along : w.Along s s')
    (few : s.ahead.length ≤ n + 1) :
    InStep never (genericArguments type) (genericArguments type') s s'
      fun arguments arguments' t t' => arguments = arguments' ∧ w.Along t t' ∧
        t.ahead.length ≤ s.ahead.length := by
  refine inStep_ite_accept rfl along (fun opens next => ?_) fun _ => ?_
  · have start := next.start (by rw [opens]; decide)
    have list := inStep_commaSeparated reads.keeps (fun _ unsure => unsure.2)
      (staysLost_unsure reads.usesUp) s.rest s'.rest start (by have := next.shorter; omega)
    refine list.bind_of_lost ?_ fun arguments arguments' t t' ⟨same, along, fewer⟩ => ?_
    · intro _ t unsure a u run
      exact absurd run (unsure.2.not_expect (by decide) (by decide))
    · refine (inStep_expect (by decide) along).bind fun _ _ u u' ⟨_, took⟩ => ?_
      have less := took.shorter
      have shorter := next.shorter
      exact inStep_pure ⟨by simpa using same, took.along, by omega⟩
  · exact inStep_pure ⟨rfl, along, Nat.le_refl _⟩

/-- A label in front of at least two tokens. -/
theorem inStep_label? (start : w.Start s s') (more : ¬w.Over s.rest) :
    InStep never label? label? s s' fun label label' t t' =>
      label = label' ∧ w.Start t t' ∧ t.ahead.length ≤ s.ahead.length := by
  have next := start.along.next_of_not_over fun isOver => more isOver.rest
  have next' := next.along.next_of_not_over more
  have kind := Token.kind_eq next.content
  have kind' := Token.kind_eq next'.content
  have colon : s.rest.rest.current.kind = .colon ↔ s'.rest.rest.current.kind = .colon :=
    next'.along.kind_iff rfl
  refine inStep_look (run'_current s) (run'_current s')
    (inStep_look (run'_peek 1 s) (run'_peek 1 s') ?_)
  rw [TokenStream.peek_one, TokenStream.peek_one, kind, kind']
  refine inStep_ite Iff.rfl (fun labelled => ?_) fun _ => ?_
  · have isColon : s.rest.current.kind = .colon := by
      rw [kind']
      exact of_decide_eq_true (Bool.and_eq_true_iff.1 labelled).2
    refine (inStep_advance next).bind fun name name' t t' named => ?_
    rw [named.rest, named.rest']
    refine (inStep_advance next').bind fun _ _ u u' took => ?_
    have less := took.shorter
    have shorter := next.shorter
    refine inStep_pure ⟨?_, took.start (by rw [isColon]; decide), by omega⟩
    rw [Token.value_eq named.linked.content]
  · refine inStep_look (run'_current s) (run'_current s')
      (inStep_look (run'_peek 1 s) (run'_peek 1 s')
        (inStep_look (run'_peek 2 s) (run'_peek 2 s') ?_))
    rw [TokenStream.peek_one, TokenStream.peek_one, TokenStream.peek_two, TokenStream.peek_two,
      kind, kind']
    refine inStep_ite ?_ (fun labelled => ?_) fun _ => ?_
    · rw [decide_eq_decide.2 colon]
    · have isColon : s.rest.rest.current.kind = .colon :=
        of_decide_eq_true (Bool.and_eq_true_iff.1 labelled).2
      have next'' := next'.along.next (by rw [isColon]; decide)
      refine (inStep_advance next).bind fun name name' t t' named => ?_
      rw [named.rest, named.rest']
      refine (inStep_advance next').bind fun _ _ t t' took => ?_
      rw [took.rest, took.rest']
      refine (inStep_advance next'').bind fun _ _ u u' took => ?_
      have less := took.shorter
      have shorter' := next'.shorter
      have shorter := next.shorter
      refine inStep_pure ⟨?_, took.start (by rw [isColon]; decide), by omega⟩
      rw [Token.value_eq named.linked.content]
    · exact inStep_pure ⟨rfl, start, Nat.le_refl _⟩

/-- An element of a tuple is read alike, unless the tuple is not closed. -/
theorem keeps_tupleElement (reads : w.ReadsTypes n type type') :
    w.Keeps w.Over n id (tupleElement type) (tupleElement type') := by
  intro s s' start few
  have usesUp : Leaves True (tupleElement type) s s.ahead.length :=
    usesUpBelow_tupleElement (fun t _ => reads.usesUp t) s (Nat.lt_succ_self _)
  by_cases isOver : w.Over s.rest
  · exact inStep_of_usesUp isOver usesUp
  · refine (inStep_label? start isOver).bind ?_
    rintro label _ t t' ⟨rfl, start, le⟩
    refine (reads.keeps t t' start (Nat.le_trans le few)).bind_of_lost ?_ ?_
    · rintro a u unsure _ _ ⟨⟩
      exact unsure.2
    · rintro a _ u u' ⟨rfl, along, fewer⟩
      exact inStep_pure ⟨rfl, along, Nat.lt_of_lt_of_le fewer le⟩

theorem inStep_functionEffects (along : w.Along s s') :
    InStep never functionEffects functionEffects s s' fun effects effects' t t' =>
      effects = effects' ∧ w.Along t t' ∧ t.ahead.length ≤ s.ahead.length := by
  refine inStep_iterate (fun effects effects' t t' => effects = effects' ∧ w.Along t t' ∧
    t.ahead.length ≤ s.ahead.length) (fun _ _ _ _ inv => inv.2.1) (fun _ _ isLost => isLost.elim)
    ?_ ⟨rfl, along, Nat.le_refl _⟩
  rintro ⟨isAsync, throws⟩ _ t t' - ⟨rfl, along, le⟩
  refine inStep_ite_isAtAny (by decide) along (fun word next => ?_) fun _ => ?_
  · have noDot : t.current.kind ≠ .dot := fun dot => absurd (dot ▸ word) (by decide)
    refine (inStep_advance next).bind fun word word' u u' took => ?_
    have less := took.shorter
    refine inStep_ite (by rw [Token.kind_eq took.linked.content]) (fun _ => ?_) fun _ => ?_
    · exact inStep_pure ⟨less, rfl, took.along, by omega⟩
    · refine (inStep_groupBehind? took.linked (took.start noDot)).bind fun _ _ v v' behind => ?_
      have le' := behind.2.2
      exact inStep_pure ⟨by omega, rfl, behind.2.1.along, by omega⟩
  · exact inStep_pure ⟨rfl, along, le⟩

theorem inStep_parenthesized (reads : w.ReadsTypes n type type') (along : w.Along s s')
    (few : s.ahead.length ≤ n + 1) :
    InStep w.Unsure (parenthesized type) (parenthesized type') s s' fun t t' u u' =>
      t = t' ∧ w.Along u u' ∧ u.ahead.length < s.ahead.length := by
  refine (inStep_expect (by decide) along).bind fun _ _ t t' ⟨opens, took⟩ => ?_
  have start := took.start (by rw [opens]; decide)
  have shorter := took.shorter
  have stays : StaysLost w.Over (tupleElement type) := staysLost_over fun t =>
    usesUpBelow_tupleElement (fun t _ => reads.usesUp t) t (Nat.lt_succ_self _)
  have list := inStep_commaList (show mayFollow .closeParen = false from rfl)
    (keeps_tupleElement reads) (fun _ => id) stays start (by omega)
  refine list.bind_of_lost ?_ fun elements elements' u u' ⟨same, along, le⟩ => ?_
  · intro _ u isOver a v run
    exact absurd run (isOver.not_expect (by decide) (by decide))
  · obtain rfl : elements = elements' := by simpa using same
    refine (inStep_expect (by decide) along).bind fun _ _ v v' ⟨_, took⟩ => ?_
    have shorter := took.shorter
    refine (inStep_functionEffects took.along).bind ?_
    rintro ⟨isAsync, throws⟩ _ x x' ⟨rfl, along, le⟩
    refine inStep_ite_accept rfl along (fun arrow next => ?_) fun _ => ?_
    · have start := next.start (by rw [arrow]; decide)
      have less := next.shorter
      refine (reads.keeps _ _ start (by omega)).bind_of_lost ?_ ?_
      · rintro a u unsure _ _ ⟨⟩
        exact unsure
      · rintro result _ y y' ⟨rfl, along, fewer⟩
        exact inStep_pure ⟨rfl, along, by omega⟩
    · refine inStep_ite Iff.rfl (fun _ => inStep_of_fails rfl) fun _ => ?_
      split
      · exact inStep_pure ⟨rfl, along, by omega⟩
      · exact inStep_pure ⟨rfl, along, by omega⟩

theorem inStep_bracketed (reads : w.ReadsTypes n type type') (next : w.Next s s')
    (few : s.ahead.length ≤ n + 1) (opens : s.current.kind = .openBracket) :
    InStep w.Unsure (bracketed type) (bracketed type') s s' fun t t' u u' =>
      t = t' ∧ w.Along u u' ∧ u.ahead.length < s.ahead.length := by
  refine (inStep_advance next).bind fun _ _ t t' took => ?_
  have start := took.start (by rw [opens]; decide)
  have shorter := took.shorter
  refine (reads.keeps _ _ start (by omega)).bind_of_lost ?_ ?_
  · intro element u unsure a v run
    rw [unsure.2.run'_ite_accept rfl] at run
    exact absurd run (unsure.2.not_expect (by decide) (by decide))
  · rintro element _ u u' ⟨rfl, along, fewer⟩
    refine inStep_ite_accept rfl along (fun colon next => ?_) fun _ => ?_
    · have start := next.start (by rw [colon]; decide)
      have less := next.shorter
      refine (reads.keeps _ _ start (by omega)).bind_of_lost ?_ ?_
      · intro value v unsure a x run
        exact absurd run (unsure.2.not_expect (by decide) (by decide))
      · rintro value _ v v' ⟨rfl, along, fewer⟩
        refine (inStep_expect (by decide) along).bind fun _ _ x x' ⟨_, took⟩ => ?_
        have := took.shorter
        exact inStep_pure ⟨rfl, took.along, by omega⟩
    · refine (inStep_expect (by decide) along).bind fun _ _ v v' ⟨_, took⟩ => ?_
      have := took.shorter
      exact inStep_pure ⟨rfl, took.along, by omega⟩

/-! ## Layers -/

variable {nested nested' : TypeLayer → TokenReader TypeExpr}

/-- Where nothing is left, there is no type. -/
theorem not_primary_of_over (isOver : w.Over s) {a : TypeExpr} {u : TokenStream} :
    (primary nested).run' s ≠ (.ok a, u) := by
  rw [primary, run'_bind_of_ok (run'_current s)]
  rcases isOver.current_kind with kind | kind <;> rw [kind] <;> nofun

theorem not_composed_of_over (isOver : w.Over s) {a : TypeExpr} {u : TokenStream} :
    (composed nested).run' s ≠ (.ok a, u) := by
  intro run
  obtain ⟨b, t, ran, -⟩ := exists_of_run'_bind run
  obtain ⟨c, v, first, -⟩ := exists_of_run'_bind ran
  exact not_primary_of_over isOver first

theorem not_specified_of_over (isOver : w.Over s) {f : Option String → TypeExpr → TokenReader α}
    {a : α} {u : TokenStream} :
    (do let specifier ← specifier?; f specifier (← composed nested)).run' s ≠ (.ok a, u) := by
  intro run
  obtain ⟨specifier, t, ran, run⟩ := exists_of_run'_bind run
  obtain ⟨base, v, ran', -⟩ := exists_of_run'_bind run
  exact not_composed_of_over (staysLost_over (fun t => leaves_specifier? t) s isOver _ _ ran) ran'

theorem not_full_of_over (isOver : w.Over s) {a : TypeExpr} {u : TokenStream} :
    (full nested).run' s ≠ (.ok a, u) := by
  intro run
  obtain ⟨attributes, t, ran, run⟩ := exists_of_run'_bind run
  have stays : StaysLost w.Over (many typeAttribute?) :=
    staysLost_over fun t => leaves_many fun t' _ => fares_typeAttribute? t'
  have isOver := stays s isOver _ _ ran
  exact not_specified_of_over isOver run

theorem not_layer_of_over (isOver : w.Over s) (l : TypeLayer) {a : TypeExpr} {u : TokenStream} :
    (layer nested l).run' s ≠ (.ok a, u) := by
  cases l with
  | primary => exact not_primary_of_over isOver
  | composed => exact not_composed_of_over isOver
  | full => exact not_full_of_over isOver

/-- A type behind a word for opaque or existential types. -/
theorem inStep_quantified (word : Quantifier) (reads : w.ReadsTypes n type type')
    (next : w.Next s s') (noDot : s.current.kind ≠ .dot) (few : s.ahead.length ≤ n + 1) :
    InStep w.Unsure (do let _ ← advance; return TypeExpr.quantified word (← type))
      (do let _ ← advance; return TypeExpr.quantified word (← type')) s s' fun t t' u u' =>
        t = t' ∧ w.Along u u' ∧ u.ahead.length < s.ahead.length := by
  refine (inStep_advance next).bind fun _ _ t t' took => ?_
  have shorter := took.shorter
  refine (reads.keeps _ _ (took.start noDot) (by omega)).bind_of_lost ?_ ?_
  · rintro a u unsure _ _ ⟨⟩
    exact unsure
  · rintro a _ u u' ⟨rfl, along, fewer⟩
    exact inStep_pure ⟨rfl, along, Nat.lt_trans fewer shorter⟩

/-- A name with generic arguments, or a word for packs in front of what it applies to. -/
theorem inStep_name (reads : ∀ l, w.ReadsTypes n (nested l) (nested' l)) (next : w.Next s s')
    (plain : w.Plain s) (kind : s.current.kind = .identifier) (few : s.ahead.length ≤ n + 1) :
    InStep w.Unsure
      (do let _ ← advance
          if packWords.contains s.current.value && (← isAtName) then nested .primary
          else return .named s.current.value (← genericArguments (nested .full)))
      (do let _ ← advance
          if packWords.contains s.current.value && (← isAtName) then nested' .primary
          else return .named s.current.value (← genericArguments (nested' .full))) s s'
      fun t t' u u' => t = t' ∧ w.Along u u' ∧ u.ahead.length < s.ahead.length := by
  have noDot : s.current.kind ≠ .dot := by rw [kind]; decide
  refine (inStep_advance next).bind fun _ _ t t' took => ?_
  have shorter := took.shorter
  have same := next.applies_eq plain kind (List.subset_append_left packWords ownershipWords)
  rw [← took.rest, ← took.rest'] at same
  refine inStep_look (run'_isAtName t) (run'_isAtName t') (inStep_ite (by rw [same]) ?_ ?_)
  · intro _
    refine ((reads .primary).keeps t t' (took.start noDot) (by omega)).imp ?_
    rintro a a' u u' ⟨same, along, fewer⟩
    exact ⟨same, along, Nat.lt_trans fewer shorter⟩
  · intro _
    refine (inStep_genericArguments (reads .full) took.along (by omega)).bind ?_
    rintro arguments _ u u' ⟨rfl, along, le⟩
    exact inStep_pure ⟨rfl, along, Nat.lt_of_le_of_lt le shorter⟩

theorem inStep_primary (reads : ∀ l, w.ReadsTypes n (nested l) (nested' l))
    (start : w.Start s s') (few : s.ahead.length ≤ n + 1) :
    InStep w.Unsure (primary nested) (primary nested') s s' fun t t' u u' =>
      t = t' ∧ w.Along u u' ∧ u.ahead.length < s.ahead.length := by
  refine inStep_of_start start (leaves_primary fun l t _ => (reads l).usesUp t) fun plain => ?_
  rcases start.along.cases with ⟨isOver, -⟩ | next
  · intro a u run
    exact absurd run (not_primary_of_over (.inl isOver))
  · refine inStep_look (run'_current s) (run'_current s') ?_
    rw [← Token.kind_eq next.content, ← Token.value_eq next.content]
    split
    · next kind => exact inStep_quantified .some (reads .composed) next (by rw [kind]; decide) few
    · next kind => exact inStep_quantified .any (reads .composed) next (by rw [kind]; decide) few
    · exact inStep_parenthesized (reads .full) start.along few
    · next kind => exact inStep_bracketed (reads .full) next few kind
    · next kind => exact inStep_name reads next plain kind few
    · exact inStep_of_fails rfl

theorem inStep_marks (reads : w.ReadsTypes n type type') (t : TypeExpr) (along : w.Along s s')
    (few : s.ahead.length ≤ n + 1) :
    InStep never (marks type t) (marks type' t) s s' fun t t' u u' =>
      t = t' ∧ w.Along u u' ∧ u.ahead.length ≤ s.ahead.length := by
  refine inStep_iterate (fun t t' u u' => t = t' ∧ w.Along u u' ∧
    u.ahead.length ≤ s.ahead.length) (fun _ _ _ _ inv => inv.2.1) (fun _ _ isLost => isLost.elim)
    ?_ ⟨rfl, along, Nat.le_refl _⟩
  rintro t _ u u' - ⟨rfl, along, le⟩
  have mark (next : w.Next u u') : u.rest.ahead.length < u.ahead.length ∧
      w.Along u.rest u'.rest ∧ u.rest.ahead.length ≤ s.ahead.length :=
    ⟨next.shorter, next.along, Nat.le_trans (Nat.le_of_lt next.shorter) le⟩
  refine inStep_ite_accept rfl along
    (fun _ next => inStep_pure ⟨(mark next).1, rfl, (mark next).2⟩) fun _ => ?_
  refine inStep_ite_accept rfl along
    (fun _ next => inStep_pure ⟨(mark next).1, rfl, (mark next).2⟩) fun _ => ?_
  refine inStep_ite_accept rfl along
    (fun _ next => inStep_pure ⟨(mark next).1, rfl, (mark next).2⟩) fun _ => ?_
  refine inStep_ite_dotted along (fun _ _ next next' => ?_) ?_
  · refine (inStep_advance next).bind fun _ _ v v' took => ?_
    rw [took.rest, took.rest']
    refine (inStep_advance next').bind fun name name' v v' took => ?_
    have shorter := next.shorter
    have less := took.shorter
    have value := Token.value_eq took.linked.content
    refine inStep_ite (by rw [value]) (fun _ => ?_) fun _ => ?_
    · exact inStep_pure ⟨by omega, rfl, took.along, by omega⟩
    · refine inStep_ite (by rw [value]) (fun _ => ?_) fun _ => ?_
      · exact inStep_pure ⟨by omega, rfl, took.along, by omega⟩
      · refine (inStep_genericArguments reads took.along (by omega)).bind ?_
        rintro arguments _ x x' ⟨rfl, along, le'⟩
        refine inStep_pure ⟨by omega, ?_, along, by omega⟩
        rw [value]
  · exact inStep_pure ⟨rfl, along, le⟩

theorem inStep_marked (reads : ∀ l, w.ReadsTypes n (nested l) (nested' l))
    (start : w.Start s s') (few : s.ahead.length ≤ n + 1) :
    InStep w.Unsure (marked nested) (marked nested') s s' fun t t' u u' =>
      t = t' ∧ w.Along u u' ∧ u.ahead.length < s.ahead.length := by
  refine (inStep_primary reads start few).bind_of_lost ?_ ?_
  · exact fun t => staysLost_unsure fun u => leaves_marks t fun v _ => (reads .full).usesUp v
  · rintro t _ u u' ⟨rfl, along, fewer⟩
    refine (inStep_marks (reads .full) t along (by omega)).mono (fun _ => False.elim) ?_
    rintro a a' v v' ⟨same, along, le⟩
    exact ⟨same, along, Nat.lt_of_le_of_lt le fewer⟩

theorem inStep_composed (reads : ∀ l, w.ReadsTypes n (nested l) (nested' l))
    (start : w.Start s s') (few : s.ahead.length ≤ n + 1) :
    InStep w.Unsure (composed nested) (composed nested') s s' fun t t' u u' =>
      t = t' ∧ w.Along u u' ∧ u.ahead.length < s.ahead.length := by
  refine (inStep_marked reads start few).bind_of_lost ?_ ?_
  · refine fun first => staysLost_unsure (fun t => ?_ : ∀ t, Fares True _ t fun _ _ => True)
    refine (leaves_others fun l u _ => (reads l).usesUp u).bind fun others u _ => ?_
    split
    · exact fares_pure trivial
    · exact fares_pure trivial
  · rintro first _ t t' ⟨rfl, along, fewer⟩
    have others : InStep w.Unsure
        (many do if ← accept .ampersand then return some (← marked nested) else return none)
        (many do if ← accept .ampersand then return some (← marked nested') else return none)
        t t' fun others others' u u' => others.map id = others'.map id ∧ w.Along u u' ∧
          u.ahead.length ≤ t.ahead.length := by
      refine inStep_many (fun _ _ along => along) ?_ ?_ along
      · intro u unsure found v run
        rw [unsure.2.run'_ite_accept rfl] at run
        cases run
        exact unsure
      · intro u u' _ along le
        refine inStep_ite_accept rfl along (fun sign next => ?_) fun _ => ?_
        · have shorter := next.shorter
          have start := next.start (by rw [sign]; decide)
          refine (inStep_marked reads start (by omega)).bind_of_lost ?_ ?_
          · rintro a v unsure _ _ ⟨⟩
            exact unsure
          · rintro a _ v v' ⟨rfl, along, fewer⟩
            exact inStep_pure ⟨rfl, along, Nat.lt_trans fewer shorter⟩
        · exact inStep_pure ⟨rfl, along, Nat.lt_succ_self _⟩
    refine others.bind_of_lost ?_ fun others others' u u' ⟨same, along, le⟩ => ?_
    · intro others u unsure a v run
      split at run <;> cases run <;> exact unsure
    · obtain rfl : others = others' := by simpa using same
      refine inStep_ite Iff.rfl (fun _ => ?_) fun _ => ?_
      · exact inStep_pure ⟨rfl, along, Nat.lt_of_le_of_lt le fewer⟩
      · exact inStep_pure ⟨rfl, along, Nat.lt_of_le_of_lt le fewer⟩

theorem inStep_typeAttribute? (start : w.Start s s') (more : ¬w.Over s) :
    InStep never typeAttribute? typeAttribute? s s' fun found found' t t' =>
      found = found' ∧ w.Start t t' ∧
        t.ahead.length < s.ahead.length + found.elim 1 fun _ => 0 := by
  have next := start.along.next_of_not_over more
  refine inStep_ite_accept_of_iff (by rw [Token.kind_eq next.content]) (fun _ => ?_) fun _ => ?_
  · refine (inStep_dottedNames next.along).bind ?_
    rintro ⟨names, last⟩ ⟨names', last'⟩ t t' ⟨same, linked, start, fewer⟩
    obtain rfl : names = names' := same
    refine (inStep_groupBehind? linked start).bind fun _ _ u u' ⟨_, start, le⟩ => ?_
    have less : u.ahead.length < s.ahead.length :=
      Nat.lt_of_le_of_lt le (Nat.lt_trans fewer next.shorter)
    exact inStep_pure ⟨rfl, start, less⟩
  · exact inStep_pure ⟨rfl, start, Nat.lt_succ_self _⟩

/-- A specifier in front of something that is no bare word. -/
theorem inStep_specifier? (start : w.Start s s') (more : ¬w.Over s)
    (plain : w.Plain s) :
    InStep never specifier? specifier? s s' fun found found' t t' =>
      found = found' ∧ w.Start t t' ∧ t.ahead.length ≤ s.ahead.length := by
  have next := start.along.next_of_not_over more
  have take (noDot : s.current.kind ≠ .dot) :
      InStep never (return some (← advance).value) (return some (← advance).value) s s'
        fun found found' t t' => found = found' ∧ w.Start t t' ∧
          t.ahead.length ≤ s.ahead.length := by
    refine (inStep_advance next).bind fun word word' t t' took => ?_
    refine inStep_pure ⟨?_, took.start noDot, Nat.le_of_lt took.shorter⟩
    rw [Token.value_eq took.linked.content]
  refine inStep_ite_isAt rfl start.along (fun word _ => take (by rw [word]; decide)) fun _ => ?_
  refine inStep_look (run'_isAtWord _ s) (run'_isAtWord _ s')
    (inStep_look (run'_peek 1 s) (run'_peek 1 s') ?_)
  rw [TokenStream.peek_one, TokenStream.peek_one, ← Token.kind_eq next.content,
    ← Token.value_eq next.content]
  by_cases kind : s.current.kind = .identifier
  · refine inStep_ite ?_ (fun _ => take (by rw [kind]; decide)) fun _ =>
      inStep_pure ⟨rfl, start, Nat.le_refl _⟩
    rw [Bool.and_assoc, Bool.and_assoc,
      next.applies_eq plain kind (List.subset_append_right packWords ownershipWords)]
  · rw [decide_eq_false kind, Bool.false_and, Bool.false_and, Bool.false_and]
    exact inStep_pure ⟨rfl, start, Nat.le_refl _⟩

theorem inStep_full (reads : ∀ l, w.ReadsTypes n (nested l) (nested' l))
    (start : w.Start s s') (few : s.ahead.length ≤ n + 1) :
    InStep w.Unsure (full nested) (full nested') s s' fun t t' u u' =>
      t = t' ∧ w.Along u u' ∧ u.ahead.length < s.ahead.length := by
  have attributes : InStep w.Over (many typeAttribute?) (many typeAttribute?) s s'
      fun found found' t t' => found.map id = found'.map id ∧ w.Start t t' ∧
        t.ahead.length ≤ s.ahead.length := by
    refine inStep_many (fun _ _ start => start.along)
      (staysLost_over fun t => fares_typeAttribute? t) ?_ start
    rintro t t' more start -
    refine (inStep_typeAttribute? start more).mono (fun _ => False.elim) ?_
    rintro found _ u u' ⟨rfl, start, fewer⟩
    exact ⟨rfl, start, fewer⟩
  refine attributes.bind_of_lost ?_ fun found found' t t' ⟨same, start, le⟩ => ?_
  · intro found t isOver a u run
    exact absurd run (not_specified_of_over isOver)
  · obtain rfl : found = found' := by simpa using same
    refine inStep_of_start start ?_ fun plain => ?_
    · refine (leaves_specifier? t).bind fun specifier v le => ?_
      refine (leaves_composed fun l x _ => (reads l).usesUp x).bind fun base x fewer => ?_
      split
      · exact fares_pure (by omega)
      · exact fares_pure (by omega)
    · by_cases isOver : w.Over t
      · intro a u run
        exact absurd run (not_specified_of_over isOver)
      · refine (inStep_specifier? start isOver plain).bind ?_
        rintro specifier _ u u' ⟨rfl, start, le'⟩
        refine (inStep_composed reads start (by omega)).bind_of_lost ?_ ?_
        · intro base v unsure a x run
          split at run <;> cases run <;> exact unsure
        · rintro base _ v v' ⟨rfl, along, fewer⟩
          refine inStep_ite Iff.rfl (fun _ => ?_) fun _ => ?_
          · exact inStep_pure ⟨rfl, along, by omega⟩
          · exact inStep_pure ⟨rfl, along, by omega⟩

theorem inStep_layer (reads : ∀ l, w.ReadsTypes n (nested l) (nested' l)) (l : TypeLayer)
    (start : w.Start s s') (few : s.ahead.length ≤ n + 1) :
    InStep w.Unsure (layer nested l) (layer nested' l) s s' fun t t' u u' =>
      t = t' ∧ w.Along u u' ∧ u.ahead.length < s.ahead.length := by
  cases l with
  | primary => exact inStep_primary reads start few
  | composed => exact inStep_composed reads start few
  | full => exact inStep_full reads start few

/-- A type that is read uses up a token, however many there are to measure its nesting. -/
theorem leaves_layerFrom_any (measure : List Token) (l : TypeLayer) (s : TokenStream) :
    Leaves True (layerFrom measure l) s s.ahead.length := by
  induction measure generalizing s l with
  | nil => exact leaves_layer (fun _ _ _ => fares_of_error rfl (.inr trivial)) l
  | cons t measure ih => exact leaves_layer (fun l u _ => ih l u) l

/-- The nesting of a type may be measured by different tokens, if they are enough. -/
theorem inStep_layerFrom (measure measure' : List Token) (l : TypeLayer) (start : w.Start s s')
    (enough : s.ahead.length ≤ measure.length + 1)
    (enough' : s.ahead.length ≤ measure'.length + 1) :
    InStep w.Unsure (layerFrom measure l) (layerFrom measure' l) s s' fun t t' u u' =>
      t = t' ∧ w.Along u u' ∧ u.ahead.length < s.ahead.length := by
  -- with a single token ahead nothing is left of the tokens, and there is no type
  have noType {r r' : TokenReader TypeExpr} {s s' : TokenStream} (start : w.Start s s')
      (few : s.ahead.length ≤ 1) (fails : w.Over s → ∀ a u, r.run' s ≠ (.ok a, u)) :
      InStep w.Unsure r r' s s' fun t t' u u' =>
        t = t' ∧ w.Along u u' ∧ u.ahead.length < s.ahead.length :=
    fun a u run => absurd run (fails (start.along.over_of_length_le few) a u)
  induction measure generalizing s s' measure' l with
  | nil => exact noType start enough fun isOver _ _ => not_layer_of_over isOver l
  | cons t measure ih =>
    cases measure' with
    | nil => exact noType start enough' fun isOver _ _ => not_layer_of_over isOver l
    | cons t' measure' =>
      rw [List.length_cons] at enough enough'
      have reads (l : TypeLayer) : w.ReadsTypes (min measure.length measure'.length + 1)
          (layerFrom measure l) (layerFrom measure' l) :=
        ⟨fun u u' start few => ih measure' l start (by omega) (by omega),
          leaves_layerFrom_any measure l⟩
      exact inStep_layer reads l start (by omega)

end TypeReader

theorem not_readType_of_over (isOver : w.Over s) {a : TypeExpr} {u : TokenStream} :
    readType.run' s ≠ (.ok a, u) := by
  rw [readType, run'_bind_of_ok (run'_get s)]
  cases s.ahead with
  | nil => exact not_layer_of_over isOver .full
  | cons t measure => exact not_layer_of_over isOver .full

/-- A type is read alike in both streams, unless it may go on behind the tokens. -/
theorem inStep_readType (start : w.Start s s') :
    InStep w.Unsure readType readType s s' fun t t' u u' =>
      t = t' ∧ w.Along u u' ∧ u.ahead.length < s.ahead.length := by
  have length := start.along.length_eq
  exact inStep_look (run'_get s) (run'_get s')
    (inStep_layerFrom s.ahead s'.ahead .full start (Nat.le_succ _) (by omega))

end ViewModifiers.Interface
