import ViewModifiers.Proofs.Interface.InStep

/-!
# Readers under a simulation

Two streams may differ in what stands behind signs of equality and still be read alike up to there.
A simulation is a relation of streams that says so (`Simulation`): the next tokens are of one kind,
and taking a token or a bracketed group from either stream leads to related streams. Under any
simulation, loops, names and attributes give the same results at both streams; only what is read
behind a sign of equality has to be looked at for the relation at hand.
-/

namespace ViewModifiers.Interface

open Source TokenReader AttributeReader

variable {α β σ : Type} {R : TokenStream → TokenStream → Prop} {s s' : TokenStream} {m n : Nat}

/-- A token has been taken from either stream. -/
structure Took (R : TokenStream → TokenStream → Prop) (n : Nat) (t t' : Token)
    (u u' : TokenStream) : Prop where
  content : t.content = t'.content
  along : R u u'
  fewer : u'.ahead.length < n
  touches : u.current.kind = .openParen → t.isFollowedBy u.current = t'.isFollowedBy u'.current

/-- A relation of streams from which tokens are taken alike, up to a sign of equality. -/
structure Simulation (R : TokenStream → TokenStream → Prop) : Prop where
  kind : ∀ {s s'}, R s s' → s.current.kind = s'.current.kind
  next : ∀ {s s'}, R s s' → s.current.kind ≠ .equals → s.current.kind ≠ .endOfFile →
    Took R s'.ahead.length s.current s'.current s.rest s'.rest
  group : ∀ {s s'}, R s s' → s.current.kind.closer?.isSome = true →
    InStep never bracketGroup bracketGroup s s' fun inner inner' t t' =>
      inner.map Token.content = inner'.map Token.content ∧ R t t'

/-- Whatever a reader gives at one stream, another one gives it at the other stream, and the streams
that are left are related; the second one has fewer than a number of tokens. -/
abbrev Agree (R : TokenStream → TokenStream → Prop) (r r' : TokenReader α) (s s' : TokenStream)
    (n : Nat) : Prop :=
  InStep never r r' s s' fun a a' t t' => a = a' ∧ R t t' ∧ t'.ahead.length < n

theorem agree_pure {a : α} (along : R s s') (fewer : s'.ahead.length < n) :
    Agree R (pure a) (pure a) s s' n :=
  inStep_pure ⟨rfl, along, fewer⟩

theorem Agree.bind {r r' : TokenReader β} {f f' : β → TokenReader α}
    {Q : α → α → TokenStream → TokenStream → Prop} (first : Agree R r r' s s' m)
    (second : ∀ b t t', R t t' → t'.ahead.length < m → InStep never (f b) (f' b) t t' Q) :
    InStep never (r >>= f) (r' >>= f') s s' Q := by
  refine InStep.bind first ?_
  rintro b _ t t' ⟨rfl, along, fewer⟩
  exact second b t t' along fewer

theorem Agree.mono {r r' : TokenReader α} (agree : Agree R r r' s s' m) (le : m ≤ n) :
    Agree R r r' s s' n :=
  InStep.imp agree fun _ _ _ _ ends => ⟨ends.1, ends.2.1, Nat.lt_of_lt_of_le ends.2.2 le⟩

/-! ## Single tokens -/

section Tokens

variable {Q : α → α → TokenStream → TokenStream → Prop}
  {first first' second second' : TokenReader α}

/-- What is done with the next token behind it. -/
theorem inStep_advance_bind {f f' : Token → TokenReader α}
    (later : InStep never (f s.current) (f' s'.current) s.rest s'.rest Q) :
    InStep never (advance >>= f) (advance >>= f') s s' Q := by
  intro a t run
  rw [run'_bind_of_ok (run'_advance s)] at run
  rw [run'_bind_of_ok (run'_advance s')]
  exact later a t run

namespace Simulation

variable (sim : Simulation R) (along : R s s')

include sim along

theorem took {kind : TokenKind} (here : s.current.kind = kind) (noSign : kind ≠ .equals)
    (real : kind ≠ .endOfFile) : Took R s'.ahead.length s.current s'.current s.rest s'.rest :=
  sim.next along (here ▸ noSign) (here ▸ real)

theorem kind_iff (kind : TokenKind) : s.current.kind = kind ↔ s'.current.kind = kind := by
  rw [sim.kind along]

theorem expect {kind : TokenKind} (noSign : kind ≠ .equals) (real : kind ≠ .endOfFile) :
    InStep never (expect kind) (TokenReader.expect kind) s s' (Took R s'.ahead.length) := by
  by_cases here : s.current.kind = kind
  · intro t u run
    rw [run'_expect, if_pos here] at run
    cases run
    have there := (sim.kind_iff along kind).1 here
    exact .inr ⟨s'.current, s'.rest, by rw [run'_expect, if_pos there],
      sim.took along here noSign real⟩
  · exact inStep_of_fails ((run'_expect kind s).trans (if_neg here))

/-- A name is taken. -/
theorem took_of_isNameLike (isName : s.current.kind.isNameLike = true) :
    Took R s'.ahead.length s.current s'.current s.rest s'.rest := by
  apply sim.next along
  · rintro is
    rw [is] at isName
    cases isName
  · exact ne_endOfFile_of_isNameLike isName

theorem expectName :
    InStep never expectName TokenReader.expectName s s' (Took R s'.ahead.length) := by
  by_cases here : s.current.kind.isNameLike = true
  · intro t u run
    rw [run'_expectName, if_pos here] at run
    cases run
    have there : s'.current.kind.isNameLike = true := by rw [← sim.kind along, here]
    exact .inr ⟨s'.current, s'.rest, by rw [run'_expectName, if_pos there],
      sim.took_of_isNameLike along here⟩
  · exact inStep_of_fails ((run'_expectName s).trans (if_neg here))

/-- What is done behind a token of a kind, or else without it. -/
theorem ite_accept {kind : TokenKind} (noSign : kind ≠ .equals) (real : kind ≠ .endOfFile)
    (taken : Took R s'.ahead.length s.current s'.current s.rest s'.rest →
      InStep never first first' s.rest s'.rest Q)
    (other : InStep never second second' s s' Q) :
    InStep never (do if ← accept kind then first else second)
      (do if ← accept kind then first' else second') s s' Q :=
  inStep_ite_accept_of_iff (sim.kind_iff along kind)
    (fun here => taken (sim.took along here noSign real)) fun _ => other

/-- What is done at a token of a kind, or else elsewhere. -/
theorem ite_isAt {kind : TokenKind}
    (here : s.current.kind = kind → InStep never first first' s s' Q)
    (other : InStep never second second' s s' Q) :
    InStep never (do if ← isAt kind then first else second)
      (do if ← isAt kind then first' else second') s s' Q :=
  inStep_ite_isAt_of_iff (sim.kind_iff along kind) here fun _ => other

/-- What is done at a token of one of some kinds, or else elsewhere. -/
theorem ite_isAtAny {kinds : List TokenKind}
    (here : s.current.kind ∈ kinds → InStep never first first' s s' Q)
    (other : InStep never second second' s s' Q) :
    InStep never (do if ← isAtAny kinds then first else second)
      (do if ← isAtAny kinds then first' else second') s s' Q := by
  refine inStep_look (run'_isAtAny kinds s) (run'_isAtAny kinds s')
    (inStep_ite (by rw [sim.kind along]) (fun is => ?_) fun _ => other)
  exact here (List.contains_iff_mem.1 is)

/-- What is done at a dot in front of a name, or else elsewhere. -/
theorem ite_dotted
    (dotted : Took R s'.ahead.length s.current s'.current s.rest s'.rest →
      Took R s'.rest.ahead.length s.rest.current s'.rest.current s.rest.rest s'.rest.rest →
      InStep never first first' s s' Q)
    (other : InStep never second second' s s' Q) :
    InStep never (do if (← isAt .dot) && (← peek 1).kind.isNameLike then first else second)
      (do if (← isAt .dot) && (← peek 1).kind.isNameLike then first' else second') s s' Q := by
  refine inStep_look (run'_isAt .dot s) (run'_isAt .dot s')
    (inStep_look (run'_peek 1 s) (run'_peek 1 s') ?_)
  rw [TokenStream.peek_one, TokenStream.peek_one, sim.kind along]
  by_cases dot : s'.current.kind = .dot
  · have took := sim.took along ((sim.kind_iff along .dot).2 dot) (by decide) (by decide)
    rw [decide_eq_true dot, Bool.true_and, Bool.true_and, sim.kind took.along]
    refine inStep_ite Iff.rfl (fun isName => ?_) fun _ => other
    rw [← sim.kind took.along] at isName
    exact dotted took (sim.took_of_isNameLike took.along isName)
  · rw [decide_eq_false dot, Bool.false_and, Bool.false_and, if_neg Bool.false_ne_true,
      if_neg Bool.false_ne_true]
    exact other

end Simulation

end Tokens

/-! ## Loops -/

section Loops

variable {Inv : σ → σ → TokenStream → TokenStream → Prop}
  {Q : β → β → TokenStream → TokenStream → Prop} {step step' : σ → TokenReader (σ ⊕ β)} {a a' : σ}

/-- What holds behind a step of two loops: if they go on, the second stream is shorter than
before. -/
def AfterSteps (Inv : σ → σ → TokenStream → TokenStream → Prop)
    (Q : β → β → TokenStream → TokenStream → Prop) (n : Nat) :
    σ ⊕ β → σ ⊕ β → TokenStream → TokenStream → Prop
  | .inl a, .inl a', t, t' => t'.ahead.length < n ∧ Inv a a' t t'
  | .inr b, .inr b', t, t' => Q b b' t t'
  | _, _, _, _ => False

variable (Inv) in
/-- Two loops give related results if each step of the first one is matched by some steps of the
second one, which may also wait. -/
theorem inStep_iterate_of_matched
    (goesOn : ∀ a a' t t' b u, Inv a a' t t' → (step a).run' t = (.ok (.inl b), u) →
      ∃ b' u', Steps step' a' t' b' u' ∧ Inv b b' u u')
    (ends : ∀ a a' t t' b u, Inv a a' t t' → (step a).run' t = (.ok (.inr b), u) →
      ∃ c' v' b' u', Steps step' a' t' c' v' ∧ (step' c').run' v' = (.ok (.inr b'), u') ∧
        Q b b' u u')
    (start : Inv a a' s s') : InStep never (iterate a step) (iterate a' step') s s' Q := by
  have matched (measure : List Token) {a a' : σ} {s s' : TokenStream} (start : Inv a a' s s')
      {b : β} {u : TokenStream} (run : (iterateFrom step measure a).run' s = (.ok b, u)) :
      ∃ c' v' b' u', Steps step' a' s' c' v' ∧ (step' c').run' v' = (.ok (.inr b'), u') ∧
        Q b b' u u' := by
    induction measure generalizing a a' s s' with
    | nil =>
      rcases run'_iterateFrom_cases run with last | ⟨x, later, c, t, none, -⟩
      · exact ends a a' s s' b u start last
      · cases none
    | cons x measure ih =>
      rcases run'_iterateFrom_cases run with last | ⟨x, later, c, t, same, first, rest⟩
      · exact ends a a' s s' b u start last
      · cases same
        obtain ⟨c', t', steps, inv⟩ := goesOn a a' s s' c t start first
        obtain ⟨d', v', b', u', more, last, holds⟩ := ih inv rest
        exact ⟨d', v', b', u', steps.trans more, last, holds⟩
  intro b u run
  rw [iterate, run'_bind_of_ok (run'_get s)] at run
  obtain ⟨c', v', b', u', steps, last, holds⟩ := matched s.ahead start run
  exact .inr ⟨b', u', run'_iterate steps last, holds⟩

variable (Inv) in
/-- Two loops give related results if their steps do. -/
theorem inStep_iterate_of_each
    (each : ∀ a a' t t', Inv a a' t t' →
      InStep never (step a) (step' a') t t' (AfterSteps Inv Q t'.ahead.length))
    (start : Inv a a' s s') : InStep never (iterate a step) (iterate a' step') s s' Q := by
  refine inStep_iterate_of_matched Inv ?_ ?_ start
  · intro a a' t t' b u inv run
    obtain ⟨⟨⟩⟩ | ⟨b' | b', u', run', holds⟩ := each a a' t t' inv _ _ run
    · exact ⟨b', u', .single run' holds.1, holds.2⟩
    · exact holds.elim
  · intro a a' t t' b u inv run
    obtain ⟨⟨⟩⟩ | ⟨b' | b', u', run', holds⟩ := each a a' t t' inv _ _ run
    · exact holds.elim
    · exact ⟨a', t', b', u', .refl a' t', run', holds⟩

end Loops

/-! ## Lists -/

section Lists

variable {item item' : TokenReader α}

/-- An item that may be missing is read alike; it takes a token if it is there. -/
abbrev AgreeIfAny (R : TokenStream → TokenStream → Prop) (item item' : TokenReader (Option α))
    (s s' : TokenStream) : Prop :=
  InStep never item item' s s' fun found found' t t' =>
    found = found' ∧ R t t' ∧ t'.ahead.length < s'.ahead.length + found.elim 1 fun _ => 0

/-- The state of a loop is the same at related streams, the second one no longer than before. -/
def SameState (R : TokenStream → TokenStream → Prop) (n : Nat) (a a' : σ)
    (t t' : TokenStream) : Prop :=
  a = a' ∧ R t t' ∧ t'.ahead.length ≤ n

theorem agree_many {item item' : TokenReader (Option α)}
    (each : ∀ t t', R t t' → t'.ahead.length ≤ s'.ahead.length → AgreeIfAny R item item' t t')
    (along : R s s') : Agree R (many item) (many item') s s' (s'.ahead.length + 1) := by
  refine inStep_iterate_of_each (SameState R s'.ahead.length) ?_ ⟨rfl, along, Nat.le_refl _⟩
  rintro found _ t t' ⟨rfl, along, le⟩
  refine (each t t' along le).bind ?_
  rintro (_ | a) _ u u' ⟨rfl, along, fewer⟩
  · have less : u'.ahead.length < t'.ahead.length + 1 := fewer
    exact inStep_pure ⟨rfl, along, by omega⟩
  · have less : u'.ahead.length < t'.ahead.length := fewer
    exact inStep_pure ⟨less, rfl, along, by omega⟩

/-- An item, and a comma if there is one, with the items found before. -/
theorem agree_itemStep (sim : Simulation R) (each : Agree R item item' s s' s'.ahead.length)
    (few : s'.ahead.length ≤ n) (found : List α) :
    InStep never (itemStep item found) (itemStep item' found) s s'
      (AfterSteps (SameState R n) (fun items items' t t' =>
        items = items' ∧ R t t' ∧ t'.ahead.length < n) s'.ahead.length) := by
  refine Agree.bind each fun a t t' along fewer => ?_
  refine sim.ite_accept along (by decide) (by decide) (fun took => ?_) ?_
  · have less := took.fewer
    exact inStep_pure ⟨by omega, rfl, took.along, by omega⟩
  · exact inStep_pure ⟨rfl, along, by omega⟩

theorem agree_commaSeparated (sim : Simulation R)
    (each : ∀ t t', R t t' → t'.ahead.length ≤ s'.ahead.length →
      Agree R item item' t t' t'.ahead.length) (along : R s s') :
    Agree R (commaSeparated item) (commaSeparated item') s s' s'.ahead.length := by
  refine inStep_iterate_of_each (SameState R s'.ahead.length) ?_ ⟨rfl, along, Nat.le_refl _⟩
  rintro found _ t t' ⟨rfl, along, le⟩
  exact agree_itemStep sim (each t t' along le) le found

theorem agree_commaList (sim : Simulation R) (closer : TokenKind)
    (each : ∀ t t', R t t' → t'.ahead.length ≤ s'.ahead.length →
      Agree R item item' t t' t'.ahead.length) (along : R s s') :
    Agree R (commaList closer item) (commaList closer item') s s' (s'.ahead.length + 1) := by
  refine inStep_iterate_of_each (SameState R s'.ahead.length) ?_ ⟨rfl, along, Nat.le_refl _⟩
  rintro found _ t t' ⟨rfl, along, le⟩
  refine sim.ite_isAt along (fun _ => ?_) ?_
  · exact inStep_pure ⟨rfl, along, by omega⟩
  · refine (agree_itemStep sim (each t t' along le) le found).imp ?_
    rintro (found | items) (found' | items') u u' holds
    · exact holds
    · exact holds
    · exact holds
    · exact ⟨holds.1, holds.2.1, Nat.lt_succ_of_lt holds.2.2⟩

end Lists

/-! ## Groups, names and attributes -/

section Names

variable (sim : Simulation R)

include sim

theorem agree_groupBehind? {t t' : Token} (took : Took R n t t' s s') :
    InStep never (groupBehind? t) (groupBehind? t') s s' fun found found' u u' =>
      found.map (·.map Token.content) = found'.map (·.map Token.content) ∧ R u u' ∧
        u'.ahead.length < n := by
  have kind := sim.kind took.along
  have fewer := took.fewer
  refine inStep_look (run'_current s) (run'_current s') (inStep_ite ?_ (fun here => ?_) fun _ => ?_)
  · by_cases open_ : s.current.kind = .openParen
    · rw [took.touches open_, kind]
    · rw [← kind, decide_eq_false open_]
      rfl
  · simp only [Bool.and_eq_true, decide_eq_true_eq] at here
    have opens : s.current.kind.closer?.isSome = true := by rw [here.1]; rfl
    intro found u run
    obtain ⟨inner, v, ran, run⟩ := exists_of_run'_bind run
    cases run
    obtain ⟨⟨⟩⟩ | ⟨inner', v', ran', contents, along⟩ := sim.group took.along opens inner _ ran
    have less := length_lt_of_bracketGroup (kind ▸ opens) ran'
    exact .inr ⟨some inner', v', run'_bind_of_ok ran', congrArg some contents, along,
      Nat.lt_trans less fewer⟩
  · exact inStep_pure ⟨rfl, took.along, fewer⟩

/-- Names joined by dots, and what holds of the last of them. -/
theorem agree_dottedNames (along : R s s') :
    InStep never dottedNames dottedNames s s' fun found found' t t' =>
      found.1 = found'.1 ∧ Took R s'.ahead.length found.2 found'.2 t t' := by
  refine (sim.expectName along).bind fun first first' t t' took => ?_
  refine inStep_iterate_of_each (fun found found' u u' => found.1 = found'.1 ∧
    Took R s'.ahead.length found.2 found'.2 u u') ?_ ⟨?_, took⟩
  · rintro ⟨names, last⟩ ⟨names', last'⟩ u u' ⟨same, taken⟩
    obtain rfl : names = names' := same
    refine sim.ite_dotted taken.along (fun dot name => ?_) ?_
    · have fewer := taken.fewer
      have less := dot.fewer
      refine inStep_advance_bind (inStep_advance_bind (inStep_pure ⟨?_, ?_, ?_⟩))
      · exact Nat.lt_trans name.fewer dot.fewer
      · show _ :: names = _ :: names
        rw [Token.value_eq name.content]
      · exact ⟨name.content, name.along, by have := name.fewer; omega, name.touches⟩
    · exact inStep_pure ⟨rfl, taken⟩
  · show [first.value] = [first'.value]
    rw [Token.value_eq took.content]

theorem agree_attribute? (along : R s s') : AgreeIfAny R attribute? attribute? s s' := by
  refine sim.ite_accept along (by decide) (by decide) (fun took => ?_) ?_
  · refine (agree_dottedNames sim took.along).bind ?_
    rintro ⟨names, last⟩ ⟨names', last'⟩ t t' ⟨same, taken⟩
    obtain rfl : names = names' := same
    refine (agree_groupBehind? sim taken).bind fun found found' u u' ⟨contents, along, fewer⟩ => ?_
    have less : u'.ahead.length < s'.ahead.length := Nat.lt_trans fewer took.fewer
    rcases found with _ | inner <;> rcases found' with _ | inner'
    · exact inStep_pure ⟨rfl, along, less⟩
    · cases contents
    · cases contents
    · obtain ⟨text, availability⟩ := arguments_eq (Option.some.inj contents)
      refine inStep_pure ⟨?_, along, less⟩
      rw [text, availability]
  · exact inStep_pure ⟨rfl, along, Nat.lt_succ_self _⟩

theorem agree_readAttributes (along : R s s') :
    Agree R readAttributes readAttributes s s' (s'.ahead.length + 1) := by
  refine Agree.bind (agree_many (fun _ _ along _ => agree_attribute? sim along) along) ?_
  intro found t t' along fewer
  exact agree_pure along fewer

end Names

end ViewModifiers.Interface
