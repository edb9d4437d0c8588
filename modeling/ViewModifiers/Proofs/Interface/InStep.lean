import ViewModifiers.Proofs.Interface.HeadingReading
import ViewModifiers.Proofs.Interface.Progress
import ViewModifiers.Proofs.Interface.Shape

/-!
# One declaration in two places

The tokens of a declaration may stand at two places, at other positions and with other tokens behind
them: here the brace that closes the scope, there something that may begin another declaration
(`Setting`). Two streams go through the declaration side by side (`Setting.Along`). A reader is in
step if whatever it takes from one stream it takes from the other one too, unless it is lost
(`InStep`): that is, unless it has come to the end of the tokens at a place where the declaration
cannot end.
-/

namespace ViewModifiers.Interface

open Source TokenReader DeclarationReader

theorem TokenStream.peek_one (s : TokenStream) : s.peek 1 = s.rest.current := by
  rcases s with ⟨_ | ⟨t, ts⟩, p⟩
  · rfl
  · rfl

theorem nextKind_eq_of_shape {ts ts' : List Token} (same : shape ts = shape ts') :
    nextKind ts = nextKind ts' := by
  cases ts with
  | nil => rw [eq_nil_of_shape same]
  | cons t ts =>
    obtain ⟨t', us, rfl, content, -⟩ := exists_cons_of_shape same
    exact Token.kind_eq content

/-- Whether a token of a kind may stand behind the type at the end of a declaration or behind the
declaration. -/
def mayFollow (kind : TokenKind) : Bool := endsItem kind || kind = .equals || kind = .openBrace

/-- The words that may be in front of a type and are taken for a name where no name follows. -/
def bareWords : List String := TypeReader.packWords ++ TypeReader.ownershipWords

/-- Whether a token is such a word. -/
def isBareWord (t : Token) : Bool := t.kind = .identifier && bareWords.contains t.value

/-- No dot is the last of some tokens. -/
def EndsWithoutDot (piece : List Token) : Prop :=
  ∀ before t, piece = before ++ [t] → t.kind ≠ .dot

/-- Tokens end firmly: no bare word is the last one, unless it is behind a dot. -/
def EndsFirmly (piece : List Token) : Prop :=
  ∀ before t, piece = before ++ [t] → isBareWord t = true → ∃ earlier dot,
    before = earlier ++ [dot] ∧ dot.kind = .dot

section Last

variable {piece : List Token} {last : Token}

theorem endsWithoutDot_of_getLast? (isLast : piece.getLast? = some last)
    (noDot : last.kind ≠ .dot) : EndsWithoutDot piece := by
  rintro before t rfl
  rw [List.getLast?_concat, Option.some.injEq] at isLast
  rwa [isLast]

theorem endsFirmly_of_getLast? (isLast : piece.getLast? = some last)
    (notBare : isBareWord last = false) : EndsFirmly piece := by
  rintro before t rfl bare
  rw [List.getLast?_concat, Option.some.injEq] at isLast
  rw [isLast, notBare] at bare
  cases bare

end Last

/-- Tokens with a closing brace behind them at one place, and with other tokens at the other one. -/
structure Setting where
  piece : List Token
  brace : Token
  behind : List Token
  closes : brace.kind = .closeBrace
  follows : mayFollow (nextKind behind) = true
  noDot : EndsWithoutDot piece

namespace Setting

variable (w : Setting)

/-- Two streams stand at the same place of the tokens. -/
inductive Along : TokenStream → TokenStream → Prop
  | mk (ts ts' : List Token) (p p' : Position) (part : ts <:+ w.piece)
      (same : shape ts = shape ts') :
      Along ⟨ts ++ [w.brace], p⟩ ⟨ts' ++ w.behind, p'⟩

/-- Nothing is left of the tokens. -/
def Over (s : TokenStream) : Prop := s.ahead = [w.brace] ∨ s.ahead = []

/-- Two streams stand at the same place, at which a type may start: if the tokens end firmly, what
is left of them is no bare word. -/
structure Start (s s' : TokenStream) : Prop where
  along : w.Along s s'
  notBare : EndsFirmly w.piece → w.Over s.rest → isBareWord s.current = false

/-- A token has just been taken from either stream. -/
structure Linked (t t' : Token) (s s' : TokenStream) : Prop where
  content : t.content = t'.content
  followed : ¬w.Over s → t.isFollowedBy s.current = t'.isFollowedBy s'.current

/-- What holds where a token of the declaration is next. -/
structure Next (s s' : TokenStream) : Prop where
  content : s.current.content = s'.current.content
  along : w.Along s.rest s'.rest
  shorter : s.rest.ahead.length < s.ahead.length
  start : s.current.kind ≠ .dot → w.Start s.rest s'.rest
  more : s.current.kind = .dot → s.rest.ahead ≠ [w.brace]
  linked : w.Linked s.current s'.current s.rest s'.rest

variable {w} {s s' : TokenStream}

theorem Over.current_kind (isOver : w.Over s) :
    s.current.kind = .closeBrace ∨ s.current.kind = .endOfFile := by
  rcases s with ⟨ts, p⟩
  rcases isOver with isOver | isOver
  · obtain rfl : ts = [w.brace] := isOver
    exact .inl w.closes
  · obtain rfl : ts = [] := isOver
    exact .inr rfl

theorem Over.current_ne (isOver : w.Over s) {kind : TokenKind} (other : kind ≠ .closeBrace)
    (notEnd : kind ≠ .endOfFile) : s.current.kind ≠ kind := by
  rcases isOver.current_kind with is | is
  · exact fun same => other (same.symm.trans is)
  · exact fun same => notEnd (same.symm.trans is)

theorem Over.rest (isOver : w.Over s) : w.Over s.rest := by
  rcases s with ⟨ts, p⟩
  rcases isOver with isOver | isOver
  · obtain rfl : ts = [w.brace] := isOver
    exact .inr rfl
  · obtain rfl : ts = [] := isOver
    exact .inr rfl

theorem Over.isNameLike (isOver : w.Over s) : s.current.kind.isNameLike = false := by
  rcases isOver.current_kind with is | is
  · rw [is]; rfl
  · rw [is]; rfl

/-- What is behind a token that is no dot may start a type. -/
theorem notBare_of_suffix {t : Token} {ts : List Token} {p : Position}
    (part : t :: ts <:+ w.piece) (noDot : t.kind ≠ .dot) (firm : EndsFirmly w.piece)
    (isOver : w.Over (TokenStream.rest ⟨ts ++ [w.brace], p⟩)) :
    isBareWord (TokenStream.current ⟨ts ++ [w.brace], p⟩) = false := by
  obtain ⟨before, whole⟩ := part
  rcases ts with _ | ⟨u, ts⟩
  · rw [List.nil_append, TokenStream.current_cons, isBareWord, w.closes]
    rfl
  · obtain rfl : ts = [] := by
      rcases isOver with isOver | isOver
      · exact List.append_left_eq_self.1 isOver
      · exact absurd isOver (by simp)
    rw [Bool.eq_false_iff]
    intro bare
    have last : w.piece = (before ++ [t]) ++ [u] := by
      rw [← whole, List.append_assoc, List.singleton_append]
    obtain ⟨earlier, dot, isDot, kind⟩ := firm _ u last bare
    obtain ⟨-, same⟩ := List.append_inj' isDot rfl
    cases same
    exact noDot kind

/-- In front of the declaration a type may start. -/
theorem start {piece' : List Token} (same : shape w.piece = shape piece') (p p' : Position) :
    w.Start ⟨w.piece ++ [w.brace], p⟩ ⟨piece' ++ w.behind, p'⟩ := by
  refine ⟨.mk w.piece piece' p p' List.suffix_rfl same, fun firm isOver => ?_⟩
  rcases given : w.piece with _ | ⟨t, ts⟩
  · rw [List.nil_append, TokenStream.current_cons, isBareWord, w.closes]
    rfl
  · rw [given] at isOver
    obtain rfl : ts = [] := by
      rcases isOver with isOver | isOver
      · exact List.append_left_eq_self.1 isOver
      · exact absurd isOver (by simp)
    rw [Bool.eq_false_iff]
    intro bare
    obtain ⟨earlier, dot, none, -⟩ := firm [] t given bare
    simp at none

/-- Where the declaration is over in one stream, it is over in the other one. -/
theorem Along.ahead_eq (along : w.Along s s') (isOver : s.ahead = [w.brace]) :
    s'.ahead = w.behind := by
  obtain ⟨ts, ts', p, p', part, same⟩ := along
  obtain rfl : ts = [] := List.append_left_eq_self.1 isOver
  rw [eq_nil_of_shape same]
  rfl

/-- Where the declaration is not over, its next token is next in both streams. -/
theorem Along.cases (along : w.Along s s') :
    (s.ahead = [w.brace] ∧ s'.ahead = w.behind) ∨ w.Next s s' := by
  obtain ⟨ts, ts', p, p', part, same⟩ := along
  cases ts with
  | nil =>
    obtain rfl := eq_nil_of_shape same
    exact .inl ⟨rfl, rfl⟩
  | cons t ts =>
    obtain ⟨t', ts', rfl, content, touches, later⟩ := exists_cons_of_shape same
    have along : w.Along ⟨ts ++ [w.brace], p⟩ ⟨ts' ++ w.behind, p'⟩ :=
      .mk ts ts' p p' ((List.suffix_cons t ts).trans part) later
    refine .inr ⟨content, along, Nat.lt_succ_self _, ?_, ?_, content, ?_⟩
    · intro noDot
      exact ⟨along, fun firm isOver => notBare_of_suffix part noDot firm isOver⟩
    · intro dot last
      obtain rfl : ts = [] := List.append_left_eq_self.1 last
      obtain ⟨before, whole⟩ := part
      exact w.noDot before t whole.symm dot
    · intro more
      cases ts with
      | nil => exact (more (.inl rfl)).elim
      | cons u ts =>
        obtain ⟨u', us', rfl, -⟩ := exists_cons_of_shape later
        exact touches

theorem Along.next (along : w.Along s s') (open_ : s.current.kind ≠ .closeBrace) : w.Next s s' := by
  rcases along.cases with ⟨isOver, -⟩ | next
  · rcases s with ⟨ts, p⟩
    obtain rfl : ts = [w.brace] := isOver
    exact (open_ w.closes).elim
  · exact next

theorem Along.next_of_not_over (along : w.Along s s') (more : ¬w.Over s) : w.Next s s' :=
  along.cases.resolve_left fun isOver => more (.inl isOver.1)

theorem Along.over_of_length_le (along : w.Along s s') (few : s.ahead.length ≤ 1) : w.Over s := by
  obtain ⟨ts, ts', p, p', part, same⟩ := along
  refine .inl (List.append_left_eq_self.2 ?_)
  rw [List.length_append, List.length_singleton] at few
  exact List.eq_nil_of_length_eq_zero (by omega)

theorem Along.length_eq (along : w.Along s s') :
    s'.ahead.length + 1 = s.ahead.length + w.behind.length := by
  obtain ⟨ts, ts', p, p', part, same⟩ := along
  rw [List.length_append, List.length_append, length_eq_of_shape same, List.length_singleton]
  omega

/-- Of two pairs of streams, the shorter one on one side is the shorter one on the other. -/
theorem Along.shorter {t t' : TokenStream} (later : w.Along t t') (along : w.Along s s')
    (fewer : t.ahead.length < s.ahead.length) : t'.ahead.length < s'.ahead.length := by
  have := along.length_eq
  have := later.length_eq
  omega

/-- Tests for what does not follow the declaration come out alike. -/
theorem Along.kind_iff_of_ne (along : w.Along s s') {kind : TokenKind}
    (noBrace : kind ≠ .closeBrace) (other : nextKind w.behind ≠ kind) :
    s.current.kind = kind ↔ s'.current.kind = kind := by
  rcases along.cases with ⟨isOver, isOver'⟩ | next
  · have here : s.current.kind ≠ kind := by
      rcases s with ⟨ts, p⟩
      obtain rfl : ts = [w.brace] := isOver
      exact fun is => noBrace (is.symm.trans w.closes)
    have there : s'.current.kind ≠ kind := by
      rcases s' with ⟨ts', p'⟩
      obtain rfl : ts' = w.behind := isOver'
      rwa [kind_current]
    exact iff_of_false here there
  · rw [Token.kind_eq next.content]

theorem Along.kind_iff (along : w.Along s s') {kind : TokenKind} (inside : mayFollow kind = false) :
    s.current.kind = kind ↔ s'.current.kind = kind := by
  refine along.kind_iff_of_ne (by rintro rfl; cases inside) ?_
  rintro rfl
  rw [w.follows] at inside
  cases inside

end Setting

/-! ## Two runs -/

variable {α β σ : Type} {w : Setting} {s s' : TokenStream}

/-- Whatever a reader gives at one stream, another one gives it at the other stream, with what is to
hold of the two results and of the two streams that are left; unless the first stream is lost. -/
def InStep (lost : TokenStream → Prop) (r r' : TokenReader α) (s s' : TokenStream)
    (Q : α → α → TokenStream → TokenStream → Prop) : Prop :=
  ∀ a t, r.run' s = (.ok a, t) → lost t ∨ ∃ a' t', r'.run' s' = (.ok a', t') ∧ Q a a' t t'

/-- A reader keeps its stream lost if it is. -/
def StaysLost (lost : TokenStream → Prop) (r : TokenReader α) : Prop :=
  ∀ t, lost t → ∀ a u, r.run' t = (.ok a, u) → lost u

/-- No stream is lost. -/
def never : TokenStream → Prop := fun _ => False

section Rules

variable {lost lost₁ : TokenStream → Prop} {P : β → β → TokenStream → TokenStream → Prop}
  {Q Q' : α → α → TokenStream → TokenStream → Prop}

theorem InStep.mono {r r' : TokenReader α} (inStep : InStep lost₁ r r' s s' Q)
    (more : ∀ t, lost₁ t → lost t) (weaker : ∀ a a' t t', Q a a' t t' → Q' a a' t t') :
    InStep lost r r' s s' Q' := by
  intro a t run
  rcases inStep a t run with isLost | ⟨a', t', run', holds⟩
  · exact .inl (more t isLost)
  · exact .inr ⟨a', t', run', weaker a a' t t' holds⟩

theorem InStep.imp {r r' : TokenReader α} (inStep : InStep lost r r' s s' Q)
    (weaker : ∀ a a' t t', Q a a' t t' → Q' a a' t t') : InStep lost r r' s s' Q' :=
  inStep.mono (fun _ => id) weaker

theorem inStep_pure {a a' : α} (holds : Q a a' s s') : InStep lost (pure a) (pure a') s s' Q := by
  intro b t run
  cases run
  exact .inr ⟨a', s', rfl, holds⟩

/-- A reader that gives nothing. -/
theorem inStep_of_fails {r r' : TokenReader α} {e : SyntaxError} {t : TokenStream}
    (fails : r.run' s = (.error e, t)) : InStep lost r r' s s' Q := by
  intro b u run
  rw [fails] at run
  cases run

theorem InStep.bind_of_lost {r r' : TokenReader β} {f f' : β → TokenReader α}
    (first : InStep lost₁ r r' s s' P)
    (stays : ∀ b t, lost₁ t → ∀ a u, (f b).run' t = (.ok a, u) → lost u)
    (second : ∀ b b' t t', P b b' t t' → InStep lost (f b) (f' b') t t' Q) :
    InStep lost (r >>= f) (r' >>= f') s s' Q := by
  intro a u run
  obtain ⟨b, t, ran, run⟩ := exists_of_run'_bind run
  rcases first b t ran with isLost | ⟨b', t', ran', holds⟩
  · exact .inl (stays b t isLost a u run)
  · rcases second b b' t t' holds a u run with isLost | ⟨a', u', run', holds⟩
    · exact .inl isLost
    · exact .inr ⟨a', u', (run'_bind_of_ok ran').trans run', holds⟩

theorem InStep.bind {r r' : TokenReader β} {f f' : β → TokenReader α}
    (first : InStep never r r' s s' P)
    (second : ∀ b b' t t', P b b' t t' → InStep lost (f b) (f' b') t t' Q) :
    InStep lost (r >>= f) (r' >>= f') s s' Q :=
  first.bind_of_lost (fun _ _ isLost => isLost.elim) second

/-- Looks at the tokens ahead. -/
theorem inStep_look {r r' : TokenReader β} {b b' : β} {f f' : β → TokenReader α}
    (look : r.run' s = (.ok b, s)) (look' : r'.run' s' = (.ok b', s'))
    (later : InStep lost (f b) (f' b') s s' Q) : InStep lost (r >>= f) (r' >>= f') s s' Q := by
  intro a u run
  rw [run'_bind_of_ok look] at run
  rw [run'_bind_of_ok look']
  exact later a u run

theorem inStep_ite {p p' : Prop} [Decidable p] [Decidable p'] {r₁ r₁' r₂ r₂' : TokenReader α}
    (same : p ↔ p') (first : p → InStep lost r₁ r₁' s s' Q)
    (second : ¬p → InStep lost r₂ r₂' s s' Q) :
    InStep lost (if p then r₁ else r₂) (if p' then r₁' else r₂') s s' Q := by
  by_cases holds : p
  · rw [if_pos holds, if_pos (same.1 holds)]
    exact first holds
  · rw [if_neg holds, if_neg fun holds' => holds (same.2 holds')]
    exact second holds

end Rules

/-! ## Single tokens -/

/-- The next token has been taken from either stream. -/
structure Setting.Took (w : Setting) (s s' : TokenStream) (t t' : Token) (u u' : TokenStream) :
    Prop where
  taken : t = s.current
  taken' : t' = s'.current
  rest : u = s.rest
  rest' : u' = s'.rest
  next : w.Next s s'

namespace Setting

variable {t t' : Token} {u u' : TokenStream}

/-- Behind a token that is no dot a type may start. -/
theorem Took.start (took : w.Took s s' t t' u u')
    (noDot : s.current.kind ≠ .dot) : w.Start u u' := by
  rw [took.rest, took.rest']
  exact took.next.start noDot

theorem Took.along (took : w.Took s s' t t' u u') :
    w.Along u u' := by
  rw [took.rest, took.rest']
  exact took.next.along

theorem Took.linked (took : w.Took s s' t t' u u') :
    w.Linked t t' u u' := by
  rw [took.taken, took.taken', took.rest, took.rest']
  exact took.next.linked

theorem Took.shorter (took : w.Took s s' t t' u u') :
    u.ahead.length < s.ahead.length := by
  rw [took.rest]
  exact took.next.shorter

end Setting

section Tokens

variable {lost : TokenStream → Prop} {Q : α → α → TokenStream → TokenStream → Prop}
  {first first' second second' : TokenReader α}

theorem inStep_advance (next : w.Next s s') :
    InStep never advance advance s s' (w.Took s s') := by
  intro t u run
  cases run
  exact .inr ⟨s'.current, s'.rest, rfl, rfl, rfl, rfl, rfl, next⟩

/-- A token of a kind is taken from both streams, or not from the first one. -/
theorem inStep_expect {kind : TokenKind} (noBrace : kind ≠ .closeBrace) (along : w.Along s s') :
    InStep never (expect kind) (expect kind) s s' fun t t' u u' =>
      s.current.kind = kind ∧ w.Took s s' t t' u u' := by
  by_cases here : s.current.kind = kind
  · have next := along.next (here ▸ noBrace)
    intro t u run
    rw [run'_expect, if_pos here] at run
    cases run
    have there : s'.current.kind = kind := (Token.kind_eq next.content).symm.trans here
    exact .inr ⟨s'.current, s'.rest, by rw [run'_expect, if_pos there], here, rfl, rfl, rfl, rfl,
      next⟩
  · exact inStep_of_fails ((run'_expect kind s).trans (if_neg here))

theorem inStep_expectName (along : w.Along s s') :
    InStep never expectName expectName s s' fun t t' u u' =>
      s.current.kind.isNameLike = true ∧ w.Took s s' t t' u u' := by
  by_cases here : s.current.kind.isNameLike = true
  · have next := along.next (by rintro is; rw [is] at here; cases here)
    intro t u run
    rw [run'_expectName, if_pos here] at run
    cases run
    have there : s'.current.kind.isNameLike = true := by rw [← Token.kind_eq next.content, here]
    exact .inr ⟨s'.current, s'.rest, by rw [run'_expectName, if_pos there], here, rfl, rfl, rfl,
      rfl, next⟩
  · exact inStep_of_fails ((run'_expectName s).trans (if_neg here))

/-- What is done at a token of a kind, or else elsewhere. -/
theorem inStep_ite_isAt_of_iff {kind : TokenKind}
    (same : s.current.kind = kind ↔ s'.current.kind = kind)
    (here : s.current.kind = kind → InStep lost first first' s s' Q)
    (other : s.current.kind ≠ kind → InStep lost second second' s s' Q) :
    InStep lost (do if ← isAt kind then first else second)
      (do if ← isAt kind then first' else second') s s' Q := by
  refine inStep_look (run'_isAt kind s) (run'_isAt kind s')
    (inStep_ite (by simpa using same) (fun is => ?_) fun isNot => ?_)
  · exact here (of_decide_eq_true is)
  · exact other (of_decide_eq_false (Bool.eq_false_iff.2 isNot))

theorem inStep_ite_isAt {kind : TokenKind} (inside : mayFollow kind = false)
    (along : w.Along s s')
    (here : s.current.kind = kind → w.Next s s' → InStep lost first first' s s' Q)
    (other : s.current.kind ≠ kind → InStep lost second second' s s' Q) :
    InStep lost (do if ← isAt kind then first else second)
      (do if ← isAt kind then first' else second') s s' Q := by
  refine inStep_ite_isAt_of_iff (along.kind_iff inside) (fun is => here is ?_) other
  exact along.next (by rw [is]; rintro rfl; cases inside)

/-- What is done behind a token of a kind, or else without it. -/
theorem inStep_ite_accept_of_iff {kind : TokenKind}
    (same : s.current.kind = kind ↔ s'.current.kind = kind)
    (taken : s.current.kind = kind → InStep lost first first' s.rest s'.rest Q)
    (other : s.current.kind ≠ kind → InStep lost second second' s s' Q) :
    InStep lost (do if ← accept kind then first else second)
      (do if ← accept kind then first' else second') s s' Q := by
  by_cases here : s.current.kind = kind
  · have run := (run'_accept kind s).trans (if_pos here)
    have run' := (run'_accept kind s').trans (if_pos (same.1 here))
    intro a t ran
    rw [run'_bind_of_ok run, if_pos rfl] at ran
    rw [run'_bind_of_ok run', if_pos rfl]
    exact taken here a t ran
  · refine inStep_look ((run'_accept kind s).trans (if_neg here))
      ((run'_accept kind s').trans (if_neg fun there => here (same.2 there))) ?_
    rw [if_neg Bool.false_ne_true, if_neg Bool.false_ne_true]
    exact other here

theorem inStep_ite_accept {kind : TokenKind} (inside : mayFollow kind = false)
    (along : w.Along s s')
    (taken : s.current.kind = kind → w.Next s s' → InStep lost first first' s.rest s'.rest Q)
    (other : s.current.kind ≠ kind → InStep lost second second' s s' Q) :
    InStep lost (do if ← accept kind then first else second)
      (do if ← accept kind then first' else second') s s' Q := by
  refine inStep_ite_accept_of_iff (along.kind_iff inside) (fun here => taken here ?_) other
  exact along.next (by rw [here]; rintro rfl; cases inside)

/-- What is done at a dot in front of a name, or else elsewhere. -/
theorem inStep_ite_dotted (along : w.Along s s')
    (dotted : s.current.kind = .dot → s.rest.current.kind.isNameLike = true → w.Next s s' →
      w.Next s.rest s'.rest → InStep lost first first' s s' Q)
    (other : InStep lost second second' s s' Q) :
    InStep lost (do if (← isAt .dot) && (← peek 1).kind.isNameLike then first else second)
      (do if (← isAt .dot) && (← peek 1).kind.isNameLike then first' else second') s s' Q := by
  refine inStep_look (run'_isAt .dot s) (run'_isAt .dot s')
    (inStep_look (run'_peek 1 s) (run'_peek 1 s') ?_)
  rw [TokenStream.peek_one, TokenStream.peek_one]
  have same : s.current.kind = .dot ↔ s'.current.kind = .dot := along.kind_iff rfl
  by_cases dot : s.current.kind = .dot
  · have dot' := same.1 dot
    have next := along.next (by rw [dot]; decide)
    rcases next.along.cases with ⟨isOver, -⟩ | next'
    · exact absurd isOver (next.more dot)
    · rw [decide_eq_true dot, decide_eq_true dot', Bool.true_and, Bool.true_and]
      refine inStep_ite (by rw [Token.kind_eq next'.content]) (fun isName => ?_) fun _ => other
      exact dotted dot isName next next'
  · have dot' := mt same.2 dot
    rw [decide_eq_false dot, decide_eq_false dot', Bool.false_and, Bool.false_and,
      if_neg Bool.false_ne_true, if_neg Bool.false_ne_true]
    exact other

/-- What is done at a token of one of some kinds that cannot follow, or else elsewhere. -/
theorem inStep_ite_isAtAny {kinds : List TokenKind} (inside : ∀ k ∈ kinds, mayFollow k = false)
    (along : w.Along s s')
    (here : s.current.kind ∈ kinds → w.Next s s' → InStep lost first first' s s' Q)
    (other : s.current.kind ∉ kinds → InStep lost second second' s s' Q) :
    InStep lost (do if ← isAtAny kinds then first else second)
      (do if ← isAtAny kinds then first' else second') s s' Q := by
  have same : s.current.kind ∈ kinds ↔ s'.current.kind ∈ kinds :=
    ⟨fun is => (along.kind_iff (inside _ is)).1 rfl ▸ is,
      fun is => (along.kind_iff (inside _ is)).2 rfl ▸ is⟩
  refine inStep_look (run'_isAtAny kinds s) (run'_isAtAny kinds s')
    (inStep_ite (by simpa using same) (fun is => ?_) fun isNot => ?_)
  · have is : s.current.kind ∈ kinds := List.contains_iff_mem.1 is
    exact here is (along.next fun brace => by have := inside _ (brace ▸ is); cases this)
  · exact other fun is => isNot (List.contains_iff_mem.2 is)

/-! Where nothing is left, no token of the declaration is found. -/

theorem Setting.Over.run'_ite_accept (isOver : w.Over s) {kind : TokenKind}
    (inside : mayFollow kind = false) :
    (do if ← accept kind then first else second : TokenReader α).run' s = second.run' s := by
  have absent : s.current.kind ≠ kind :=
    isOver.current_ne (by rintro rfl; cases inside) (by rintro rfl; cases inside)
  rw [run'_bind_of_ok ((run'_accept kind s).trans (if_neg absent)), if_neg Bool.false_ne_true]

theorem Setting.Over.run'_ite_isAt (isOver : w.Over s) {kind : TokenKind}
    (inside : mayFollow kind = false) :
    (do if ← isAt kind then first else second : TokenReader α).run' s = second.run' s := by
  have absent : s.current.kind ≠ kind :=
    isOver.current_ne (by rintro rfl; cases inside) (by rintro rfl; cases inside)
  rw [run'_bind_of_ok (run'_isAt kind s), decide_eq_false absent, if_neg Bool.false_ne_true]

theorem Setting.Over.not_expect (isOver : w.Over s) {kind : TokenKind}
    (noBrace : kind ≠ .closeBrace) (notEnd : kind ≠ .endOfFile) {f : Token → TokenReader α} {a : α}
    {u : TokenStream} : (expect kind >>= f).run' s ≠ (.ok a, u) := by
  rw [run'_bind, run'_expect, if_neg (isOver.current_ne noBrace notEnd)]
  nofun

theorem Setting.Over.not_expectName (isOver : w.Over s) {f : Token → TokenReader α} {a : α}
    {u : TokenStream} : (expectName >>= f).run' s ≠ (.ok a, u) := by
  rw [run'_bind, run'_expectName, if_neg (by rw [isOver.isNameLike]; exact Bool.false_ne_true)]
  nofun

end Tokens

/-! ## Loops -/

/-- What holds behind a step of two loops: if they go on, fewer tokens are left than before. -/
def AfterBoth (Inv : σ → σ → TokenStream → TokenStream → Prop)
    (Q : β → β → TokenStream → TokenStream → Prop) (n : Nat) :
    σ ⊕ β → σ ⊕ β → TokenStream → TokenStream → Prop
  | .inl a, .inl a', t, t' => t.ahead.length < n ∧ Inv a a' t t'
  | .inr b, .inr b', t, t' => Q b b' t t'
  | _, _, _, _ => False

section Loops

variable {lost : TokenStream → Prop} {Inv : σ → σ → TokenStream → TokenStream → Prop}
  {Q : β → β → TokenStream → TokenStream → Prop} {step step' : σ → TokenReader (σ ⊕ β)} {a a' : σ}

/-- The last step of a loop gives its result, any other one leaves it to the steps behind. -/
theorem run'_iterateFrom_cases {measure : List Token} {b : β} {u : TokenStream}
    (run : (iterateFrom step measure a).run' s = (.ok b, u)) :
    (step a).run' s = (.ok (.inr b), u) ∨
      ∃ x later c t, measure = x :: later ∧ (step a).run' s = (.ok (.inl c), t) ∧
        (iterateFrom step later c).run' t = (.ok b, u) := by
  cases measure with
  | nil =>
    rw [iterateFrom, run'_bind] at run
    rcases ran : (step a).run' s with ⟨e | ⟨c | c⟩, t⟩
    · rw [ran] at run
      cases run
    · rw [ran] at run
      cases run
    · rw [ran] at run
      cases run
      exact .inl rfl
  | cons x measure =>
    rw [iterateFrom, run'_bind] at run
    rcases ran : (step a).run' s with ⟨e | ⟨c | c⟩, t⟩
    · rw [ran] at run
      cases run
    · rw [ran] at run
      exact .inr ⟨x, measure, c, t, rfl, rfl, run⟩
    · rw [ran] at run
      cases run
      exact .inl rfl

/-- A stream that is lost stays lost in a loop. -/
theorem lost_of_iterateFrom (stays : ∀ a, StaysLost lost (step a)) (measure : List Token)
    (isLost : lost s) {b : β} {u : TokenStream}
    (run : (iterateFrom step measure a).run' s = (.ok b, u)) : lost u := by
  induction measure generalizing a s with
  | nil =>
    rcases run'_iterateFrom_cases run with last | ⟨x, later, c, t, none, -⟩
    · exact stays a s isLost _ _ last
    · cases none
  | cons x measure ih =>
    rcases run'_iterateFrom_cases run with last | ⟨x, later, c, t, same, first, rest⟩
    · exact stays a s isLost _ _ last
    · cases same
      exact ih (stays a s isLost _ _ first) rest

/-- One loop goes through the steps that the other one goes through, up to its last one. -/
theorem exists_steps_of_iterateFrom (alongside : ∀ a a' t t', Inv a a' t t' → w.Along t t')
    (stays : ∀ a, StaysLost lost (step a))
    (each : ∀ a a' s s', ¬lost s → Inv a a' s s' →
      InStep lost (step a) (step' a') s s' (AfterBoth Inv Q s.ahead.length))
    (measure : List Token) (start : Inv a a' s s') {b : β} {u : TokenStream}
    (run : (iterateFrom step measure a).run' s = (.ok b, u)) :
    lost u ∨ ∃ c' t' b' u', Steps step' a' s' c' t' ∧ (step' c').run' t' = (.ok (.inr b'), u') ∧
      Q b b' u u' := by
  -- the last step is the same in both, whatever the measure is
  have last {a a' : σ} {s s' : TokenStream} (goes : ¬lost s) (start : Inv a a' s s')
      (ran : (step a).run' s = (.ok (.inr b), u)) :
      lost u ∨ ∃ c' t' b' u', Steps step' a' s' c' t' ∧ (step' c').run' t' = (.ok (.inr b'), u') ∧
        Q b b' u u' := by
    rcases each a a' s s' goes start _ _ ran with isLost | ⟨next, u', ran', holds⟩
    · exact .inl isLost
    · rcases next with c' | b'
      · exact holds.elim
      · exact .inr ⟨a', s', b', u', .refl a' s', ran', holds⟩
  induction measure generalizing a a' s s' with
  | nil =>
    by_cases isLost : lost s
    · exact .inl (lost_of_iterateFrom stays [] isLost run)
    rcases run'_iterateFrom_cases run with ran | ⟨x, later, c, t, none, -⟩
    · exact last isLost start ran
    · cases none
  | cons x measure ih =>
    by_cases isLost : lost s
    · exact .inl (lost_of_iterateFrom stays _ isLost run)
    rcases run'_iterateFrom_cases run with ran | ⟨x, later, c, t, same, first, rest⟩
    · exact last isLost start ran
    · cases same
      rcases each a a' s s' isLost start _ _ first with isLost | ⟨next, t', ran', holds⟩
      · exact .inl (lost_of_iterateFrom stays measure isLost rest)
      · rcases next with c' | b'
        · obtain ⟨fewer, inv⟩ := holds
          have fewer' := (alongside _ _ _ _ inv).shorter (alongside _ _ _ _ start) fewer
          refine (ih inv rest).imp_right ?_
          rintro ⟨d', v', b', u', steps, ends, holds⟩
          exact ⟨d', v', b', u', .next ran' fewer' steps, ends, holds⟩
        · exact holds.elim

variable (Inv) in
/-- Two loops run in step if their steps do. -/
theorem inStep_iterate (alongside : ∀ a a' t t', Inv a a' t t' → w.Along t t')
    (stays : ∀ a, StaysLost lost (step a))
    (each : ∀ a a' s s', ¬lost s → Inv a a' s s' →
      InStep lost (step a) (step' a') s s' (AfterBoth Inv Q s.ahead.length))
    (start : Inv a a' s s') : InStep lost (iterate a step) (iterate a' step') s s' Q := by
  intro b u run
  rw [iterate, run'_bind_of_ok (run'_get s)] at run
  refine (exists_steps_of_iterateFrom alongside stays each s.ahead start run).imp_right ?_
  rintro ⟨c', t', b', u', steps, ends, holds⟩
  exact ⟨b', u', run'_iterate steps ends, holds⟩

end Loops

/-! ## Lists -/

/-- Two readers run in step wherever they may start with not too many tokens ahead; they use up
tokens, and their results have the same view. -/
def Setting.Keeps {γ : Type} (w : Setting) (lost : TokenStream → Prop) (n : Nat) (view : α → γ)
    (r r' : TokenReader α) : Prop :=
  ∀ s s', w.Start s s' → s.ahead.length ≤ n → InStep lost r r' s s' fun a a' t t' =>
    view a = view a' ∧ w.Along t t' ∧ t.ahead.length < s.ahead.length

section Lists

variable {γ : Type} {view : α → γ} {item item' : TokenReader α} {lost : TokenStream → Prop}
  {n : Nat}

/-- A stream stays over in a reader that takes tokens off its front. -/
theorem Setting.Over.left {t : TokenStream} (isOver : w.Over s) (left : t.IsLeftOf s) :
    w.Over t := by
  have short : t.ahead <:+ [w.brace] := by
    rcases isOver with isOver | isOver
    · exact isOver ▸ left.ahead
    · exact (isOver ▸ left.ahead).trans (List.nil_suffix)
  rcases List.suffix_cons_iff.1 short with whole | none
  · exact .inl whole
  · exact .inr (List.suffix_nil.1 none)

theorem staysLost_over {r : TokenReader α} {Q : TokenStream → α → TokenStream → Prop}
    (fares : ∀ s, Fares True r s (Q s)) : StaysLost w.Over r :=
  fun s isOver _ _ run => isOver.left ((fares s).of_ok run).1

/-- An item, and a comma if there is one, with the items found before. -/
theorem inStep_itemStep (each : w.Keeps lost n view item item') (isOver : ∀ t, lost t → w.Over t)
    {found found' : List α} (same : found.map view = found'.map view) (start : w.Start s s')
    (few : s.ahead.length ≤ n) :
    InStep lost (itemStep item found) (itemStep item' found') s s'
      (AfterBoth
        (fun found found' t t' => found.map view = found'.map view ∧ w.Start t t' ∧
          t.ahead.length < s.ahead.length)
        (fun items items' t t' => items.map view = items'.map view ∧ w.Along t t' ∧
          t.ahead.length < s.ahead.length) s.ahead.length) := by
  refine (each s s' start few).bind_of_lost ?_ ?_
  · intro a t isLost c u run
    rw [(isOver t isLost).run'_ite_accept rfl] at run
    cases run
    exact isLost
  · rintro a a' t t' ⟨alike, along, fewer⟩
    have more : (a :: found).map view = (a' :: found').map view := by
      rw [List.map_cons, List.map_cons, alike, same]
    refine inStep_ite_accept rfl along (fun comma next => ?_) fun _ => ?_
    · have start : w.Start t.rest t'.rest := next.start (by rw [comma]; decide)
      have less := Nat.lt_trans next.shorter fewer
      exact inStep_pure ⟨less, more, start, less⟩
    · refine inStep_pure ⟨?_, along, fewer⟩
      rw [List.map_reverse, List.map_reverse, more]

theorem staysLost_itemStep (isOver : ∀ t, lost t → w.Over t) (stays : StaysLost lost item)
    (found : List α) : StaysLost lost (itemStep item found) := by
  intro t isLost c u run
  obtain ⟨a, t₁, ran, run⟩ := exists_of_run'_bind run
  have isLost₁ := stays t isLost a t₁ ran
  rw [(isOver t₁ isLost₁).run'_ite_accept rfl] at run
  cases run
  exact isLost₁

theorem inStep_commaSeparated (each : w.Keeps lost n view item item')
    (isOver : ∀ t, lost t → w.Over t) (stays : StaysLost lost item) :
    w.Keeps lost n (List.map view) (commaSeparated item) (commaSeparated item') := by
  intro s s' start few
  refine inStep_iterate (fun found found' t t' => found.map view = found'.map view ∧
    w.Start t t' ∧ t.ahead.length ≤ s.ahead.length) (fun _ _ _ _ inv => inv.2.1.along)
    (fun found => staysLost_itemStep isOver stays found) ?_ ⟨rfl, start, Nat.le_refl _⟩
  rintro found found' t t' - ⟨same, start, le⟩
  refine (inStep_itemStep each isOver same start (Nat.le_trans le few)).imp ?_
  rintro (found | items) (found' | items') u u' holds
  · exact ⟨holds.1, holds.2.1, holds.2.2.1, Nat.le_of_lt (Nat.lt_of_lt_of_le holds.2.2.2 le)⟩
  · exact holds
  · exact holds
  · exact ⟨holds.1, holds.2.1, Nat.lt_of_lt_of_le holds.2.2 le⟩

/-- A list up to its closing token, which cannot be missing. -/
theorem inStep_commaList {closer : TokenKind} (inside : mayFollow closer = false)
    (each : w.Keeps lost n view item item') (isOver : ∀ t, lost t → w.Over t)
    (stays : StaysLost lost item) (start : w.Start s s') (few : s.ahead.length ≤ n) :
    InStep lost (commaList closer item) (commaList closer item') s s' fun items items' t t' =>
      items.map view = items'.map view ∧ w.Along t t' ∧ t.ahead.length ≤ s.ahead.length := by
  refine inStep_iterate (fun found found' t t' => found.map view = found'.map view ∧
    w.Start t t' ∧ t.ahead.length ≤ s.ahead.length) (fun _ _ _ _ inv => inv.2.1.along) ?_ ?_
    ⟨rfl, start, Nat.le_refl _⟩
  · intro found t isLost c u run
    rw [(isOver t isLost).run'_ite_isAt inside] at run
    exact staysLost_itemStep isOver stays found t isLost c u run
  · rintro found found' t t' - ⟨same, start, le⟩
    refine inStep_ite_isAt inside start.along (fun _ _ => ?_) fun _ => ?_
    · refine inStep_pure ⟨?_, start.along, le⟩
      rw [List.map_reverse, List.map_reverse, same]
    · refine (inStep_itemStep each isOver same start (Nat.le_trans le few)).imp ?_
      rintro (found | items) (found' | items') u u' holds
      · exact ⟨holds.1, holds.2.1, holds.2.2.1, Nat.le_of_lt (Nat.lt_of_lt_of_le holds.2.2.2 le)⟩
      · exact holds
      · exact holds
      · exact ⟨holds.1, holds.2.1, Nat.le_of_lt (Nat.lt_of_lt_of_le holds.2.2 le)⟩

/-- Items as long as there is one, each of them leaving the streams as they have to be for the next
one. -/
theorem inStep_many {item item' : TokenReader (Option α)} {Inv : TokenStream → TokenStream → Prop}
    (alongside : ∀ t t', Inv t t' → w.Along t t') (stays : StaysLost lost item)
    (each : ∀ t t', ¬lost t → Inv t t' → t.ahead.length ≤ s.ahead.length →
      InStep lost item item' t t' fun x x' u u' => x.map view = x'.map view ∧ Inv u u' ∧
        u.ahead.length < t.ahead.length + x.elim 1 fun _ => 0)
    (start : Inv s s') :
    InStep lost (many item) (many item') s s' fun items items' t t' =>
      items.map view = items'.map view ∧ Inv t t' ∧ t.ahead.length ≤ s.ahead.length := by
  refine inStep_iterate (fun found found' t t' => found.map view = found'.map view ∧
    Inv t t' ∧ t.ahead.length ≤ s.ahead.length) (fun _ _ _ _ inv => alongside _ _ inv.2.1) ?_ ?_
    ⟨rfl, start, Nat.le_refl _⟩
  · intro found t isLost c u run
    obtain ⟨x, t₁, ran, run⟩ := exists_of_run'_bind run
    have isLost₁ := stays t isLost x t₁ ran
    cases x with
    | none =>
      cases run
      exact isLost₁
    | some a =>
      cases run
      exact isLost₁
  · rintro found found' t t' goes ⟨same, inv, le⟩
    refine (each t t' goes inv le).bind_of_lost ?_ ?_
    · intro x t₁ isLost c u run
      cases x with
      | none =>
        cases run
        exact isLost
      | some a =>
        cases run
        exact isLost
    · rintro (_ | a) (_ | a') u u' ⟨alike, inv, fewer⟩
      · refine inStep_pure ⟨?_, inv, Nat.le_trans (Nat.le_of_lt_succ fewer) le⟩
        rw [List.map_reverse, List.map_reverse, same]
      · cases alike
      · cases alike
      · refine inStep_pure ⟨fewer, ?_, inv, Nat.le_trans (Nat.le_of_lt fewer) le⟩
        rw [List.map_cons, List.map_cons, same]
        exact congrArg (· :: _) (Option.some.inj alike)

end Lists

end ViewModifiers.Interface
