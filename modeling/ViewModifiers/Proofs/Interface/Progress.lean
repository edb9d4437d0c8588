import ViewModifiers.Interface.AttributeReader
import ViewModifiers.Proofs.Interface.Runs

/-!
# Progress of token readers

A reader either takes tokens off the front of its stream or fails with a fault of the text. It never
fails because a loop has run longer than there are tokens, or because a bracket was looked for where
none is. `Fares` says so of a run, together with what holds of the result and of the tokens that are
left; it passes through sequences in the order of their steps, and through a loop if each step of it
that goes on uses up a token.
-/

namespace ViewModifiers.Interface

open Source

/-- Whether a fault is one of the text. The others would be the reader's own. -/
def Fault.isTextual : Fault → Bool
  | noBracket _ | nestedTooDeeply => false
  | _ => true

/-- A stream is what is left of another one. -/
structure TokenStream.IsLeftOf (s' s : TokenStream) : Prop where
  ahead : s'.ahead <:+ s.ahead
  finish : s'.finish = s.finish

namespace TokenStream

theorem IsLeftOf.refl (s : TokenStream) : s.IsLeftOf s := ⟨List.suffix_rfl, rfl⟩

theorem IsLeftOf.trans {s s₁ s₂ : TokenStream} (later : s₂.IsLeftOf s₁) (first : s₁.IsLeftOf s) :
    s₂.IsLeftOf s :=
  ⟨later.ahead.trans first.ahead, later.finish.trans first.finish⟩

theorem isLeftOf_rest (s : TokenStream) : s.rest.IsLeftOf s := ⟨List.tail_suffix _, rfl⟩

/-- A token that is not the end of the file can be used up. -/
theorem length_rest_lt {s : TokenStream} (more : s.current.kind ≠ .endOfFile) :
    s.rest.ahead.length < s.ahead.length := by
  rcases s with ⟨_ | ⟨t, ts⟩, finish⟩
  · exact (more rfl).elim
  · exact Nat.lt_succ_self _

theorem length_rest_le (s : TokenStream) : s.rest.ahead.length ≤ s.ahead.length :=
  s.isLeftOf_rest.ahead.length_le

/-- The end of the file comes where no tokens are left. -/
theorem ahead_eq_nil {s : TokenStream} (whole : ∀ t ∈ s.ahead, t.kind ≠ .endOfFile)
    (ends : s.current.kind = .endOfFile) : s.ahead = [] := by
  rcases s with ⟨_ | ⟨t, ts⟩, finish⟩
  · rfl
  · exact absurd ends (whole t List.mem_cons_self)

/-- A token some places ahead stands in the list of all tokens, at the last index of it at most. -/
theorem getElem?_min (used : List Token) (s : TokenStream) (distance : Nat) :
    (used ++ s.toList)[min (used.length + distance) ((used ++ s.toList).length - 1)]? =
      some (s.peek distance) := by
  have length : (used ++ s.toList).length - 1 = used.length + s.ahead.length := by
    simp [toList]
  rw [length, Nat.add_min_add_left, List.getElem?_append_right (Nat.le_add_right _ _),
    Nat.add_sub_cancel_left, toList, peek]
  rcases Nat.lt_or_ge distance s.ahead.length with inside | behind
  · rw [Nat.min_eq_left (Nat.le_of_lt inside), List.getElem?_append_left inside,
      List.getElem?_eq_getElem inside]
    rfl
  · rw [Nat.min_eq_right behind, List.getElem?_concat_length, List.getElem?_eq_none behind]
    rfl

end TokenStream

namespace TokenReader

/-- A reader takes tokens off the front of a stream, with a certain result and rest, or finds a
fault of the text. Where that is excused it may find any fault. -/
def Fares {α : Type} (excused : Prop) (r : TokenReader α) (s : TokenStream)
    (Q : α → TokenStream → Prop) : Prop :=
  match r.run' s with
  | (.ok a, s') => s'.IsLeftOf s ∧ Q a s'
  | (.error e, _) => e.fault.isTextual = true ∨ excused

/-- A reader leaves fewer than a number of tokens, or finds a fault. -/
abbrev Leaves {α : Type} (excused : Prop) (r : TokenReader α) (s : TokenStream) (n : Nat) : Prop :=
  Fares excused r s fun _ s' => s'.ahead.length < n

/-! ## Sequences -/

variable {α β σ : Type} {excused : Prop} {s : TokenStream} {r : TokenReader α}
  {f : α → TokenReader β} {P : α → TokenStream → Prop} {Q : β → TokenStream → Prop}

theorem fares_of_ok {a : α} {s' : TokenStream} (run : r.run' s = (.ok a, s'))
    (left : s'.IsLeftOf s) (holds : P a s') : Fares excused r s P := by
  rw [Fares, run]
  exact ⟨left, holds⟩

theorem fares_of_error {e : SyntaxError} {s' : TokenStream} (run : r.run' s = (.error e, s'))
    (fault : e.fault.isTextual = true ∨ excused) : Fares excused r s P := by
  rw [Fares, run]
  exact fault

theorem Fares.of_ok {a : α} {s' : TokenStream} (fares : Fares excused r s P)
    (run : r.run' s = (.ok a, s')) : s'.IsLeftOf s ∧ P a s' := by
  rw [Fares, run] at fares
  exact fares

theorem Fares.of_error {e : SyntaxError} {s' : TokenStream} (fares : Fares excused r s P)
    (run : r.run' s = (.error e, s')) : e.fault.isTextual = true ∨ excused := by
  rw [Fares, run] at fares
  exact fares

theorem Fares.cases (fares : Fares excused r s P) :
    (∃ a s', r.run' s = (.ok a, s') ∧ s'.IsLeftOf s ∧ P a s') ∨
      ∃ e s', r.run' s = (.error e, s') ∧ (e.fault.isTextual = true ∨ excused) := by
  rcases run : r.run' s with ⟨e | a, s'⟩
  · exact .inr ⟨e, s', rfl, fares.of_error run⟩
  · exact .inl ⟨a, s', rfl, fares.of_ok run⟩

theorem fares_pure {a : α} (holds : P a s) : Fares excused (pure a) s P :=
  fares_of_ok rfl (.refl s) holds

theorem fares_failAt (t : Token) {fault : Fault} (textual : fault.isTextual = true) :
    Fares excused (failAt t fault) s P :=
  fares_of_error rfl (.inl textual)

theorem fares_fail {fault : Fault} (textual : fault.isTextual = true) :
    Fares excused (fail fault) s P :=
  fares_of_error rfl (.inl textual)

theorem Fares.mono {P' : α → TokenStream → Prop} (fares : Fares excused r s P)
    (imp : ∀ a s', P a s' → P' a s') : Fares excused r s P' := by
  rcases fares.cases with ⟨a, s', run, left, holds⟩ | ⟨e, s', run, fault⟩
  · exact fares_of_ok run left (imp a s' holds)
  · exact fares_of_error run fault

theorem Leaves.mono {m n : Nat} (leaves : Leaves excused r s m) (le : m ≤ n) :
    Leaves excused r s n :=
  Fares.mono leaves fun _ _ fewer => Nat.lt_of_lt_of_le fewer le

/-- What is left is left of the stream. -/
theorem Fares.left (fares : Fares excused r s P) :
    Fares excused r s fun a s' => s'.IsLeftOf s ∧ P a s' := by
  rcases fares.cases with ⟨a, s', run, left, holds⟩ | ⟨e, s', run, fault⟩
  · exact fares_of_ok run left ⟨left, holds⟩
  · exact fares_of_error run fault

/-- A step behind another one fares as it does with what that one leaves. -/
theorem Fares.bind (first : Fares excused r s P)
    (second : ∀ a s₁, P a s₁ → Fares excused (f a) s₁ Q) : Fares excused (r >>= f) s Q := by
  rcases first.cases with ⟨a, s₁, run, left, holds⟩ | ⟨e, s₁, run, fault⟩
  · rcases (second a s₁ holds).cases with ⟨b, s₂, run₂, left₂, holds₂⟩ | ⟨e, s₂, run₂, fault⟩
    · exact fares_of_ok ((run'_bind_of_ok run).trans run₂) (left₂.trans left) holds₂
    · exact fares_of_error ((run'_bind_of_ok run).trans run₂) fault
  · have stops : (r >>= f).run' s = (.error e, s₁) := by rw [run'_bind, run]
    exact fares_of_error stops fault

/-- A step that uses up nothing. -/
theorem fares_look {a : α} (look : r.run' s = (.ok a, s)) (rest : Fares excused (f a) s Q) :
    Fares excused (r >>= f) s Q :=
  (fares_of_ok (P := fun b s' => b = a ∧ s' = s) look (.refl s) ⟨rfl, rfl⟩).bind
    fun _ _ same => by rw [same.1, same.2]; exact rest

/-! ## Single tokens -/

theorem leaves_advance (more : s.current.kind ≠ .endOfFile) :
    Leaves excused advance s s.ahead.length :=
  fares_of_ok (run'_advance s) s.isLeftOf_rest (TokenStream.length_rest_lt more)

/-- The end of the file stays. -/
theorem leaves_advance_le (s : TokenStream) : Leaves excused advance s (s.ahead.length + 1) :=
  fares_of_ok (run'_advance s) s.isLeftOf_rest (Nat.lt_succ_of_le s.length_rest_le)

theorem leaves_expect {kind : TokenKind} (real : kind ≠ .endOfFile) (s : TokenStream) :
    Leaves excused (expect kind) s s.ahead.length := by
  by_cases there : s.current.kind = kind
  · have run := (run'_expect kind s).trans (if_pos there)
    exact fares_of_ok run s.isLeftOf_rest (TokenStream.length_rest_lt (there ▸ real))
  · exact fares_of_error ((run'_expect kind s).trans (if_neg there)) (.inl rfl)

theorem ne_endOfFile_of_isNameLike {kind : TokenKind} (isName : kind.isNameLike = true) :
    kind ≠ .endOfFile := by
  rintro rfl
  cases isName

theorem ne_endOfFile_of_closer? {kind : TokenKind} (opens : kind.closer?.isSome = true) :
    kind ≠ .endOfFile := by
  rintro rfl
  cases opens

theorem leaves_expectName (s : TokenStream) : Leaves excused expectName s s.ahead.length := by
  by_cases isName : s.current.kind.isNameLike = true
  · have run := (run'_expectName s).trans (if_pos isName)
    exact fares_of_ok run s.isLeftOf_rest
      (TokenStream.length_rest_lt (ne_endOfFile_of_isNameLike isName))
  · exact fares_of_error ((run'_expectName s).trans (if_neg isName)) (.inl rfl)

/-- What is done behind a token of a kind, or else without it. -/
theorem fares_ite_accept {kind : TokenKind} (real : kind ≠ .endOfFile)
    {first second : TokenReader β}
    (taken : s.rest.ahead.length < s.ahead.length → Fares excused first s.rest Q)
    (left : Fares excused second s Q) :
    Fares excused (do if ← accept kind then first else second) s Q := by
  by_cases there : s.current.kind = kind
  · have run := (run'_accept kind s).trans (if_pos there)
    have fewer := TokenStream.length_rest_lt (there ▸ real)
    exact (fares_of_ok (P := fun b s' => b = true ∧ s' = s.rest) run s.isLeftOf_rest
      ⟨rfl, rfl⟩).bind fun b s' same => by rw [same.1, same.2, if_pos rfl]; exact taken fewer
  · refine fares_look ((run'_accept kind s).trans (if_neg there)) ?_
    rwa [if_neg Bool.false_ne_true]

/-- What is done at a token of a kind, or else elsewhere. -/
theorem fares_ite_isAt {kind : TokenKind} {first second : TokenReader β}
    (here : s.current.kind = kind → Fares excused first s Q) (other : Fares excused second s Q) :
    Fares excused (do if ← isAt kind then first else second) s Q := by
  refine fares_look (run'_isAt kind s) ?_
  split
  · next there => exact here (of_decide_eq_true there)
  · exact other

/-- What is done at a token of one of some kinds, or else elsewhere. -/
theorem fares_ite_isAtAny {kinds : List TokenKind} (real : .endOfFile ∉ kinds)
    {first second : TokenReader β}
    (here : s.current.kind ≠ .endOfFile → Fares excused first s Q)
    (other : Fares excused second s Q) :
    Fares excused (do if ← isAtAny kinds then first else second) s Q := by
  refine fares_look (run'_isAtAny kinds s) ?_
  split
  · next there => exact here fun ends => real (ends ▸ List.contains_iff_mem.mp there)
  · exact other

/-! ## Loops -/

/-- What holds behind a step of a loop: if the loop goes on, fewer tokens are left than before. -/
def AfterStep (Inv : σ → TokenStream → Prop) (Q : β → TokenStream → Prop) (n : Nat) :
    σ ⊕ β → TokenStream → Prop
  | .inl a, s => s.ahead.length < n ∧ Inv a s
  | .inr b, s => Q b s

variable {step : σ → TokenReader (σ ⊕ β)} {a : σ}

theorem fares_iterateFrom {Inv : σ → TokenStream → Prop}
    (each : ∀ a s, Inv a s → Fares excused (step a) s (AfterStep Inv Q s.ahead.length))
    (measure : List Token) (bound : s.ahead.length ≤ measure.length) (start : Inv a s) :
    Fares excused (iterateFrom step measure a) s Q := by
  induction measure generalizing a s with
  | nil =>
    refine (each a s start).bind fun next s₁ after => ?_
    cases next with
    | inl b => exact absurd (Nat.lt_of_lt_of_le after.1 bound) (Nat.not_lt_zero _)
    | inr b => exact fares_pure after
  | cons t measure ih =>
    refine (each a s start).bind fun next s₁ after => ?_
    cases next with
    | inl b => exact ih (Nat.le_of_lt_succ (Nat.lt_of_lt_of_le after.1 bound)) after.2
    | inr b => exact fares_pure after

/-- A loop whose steps use up tokens as long as it goes on does not run out of them. -/
theorem fares_iterate (Inv : σ → TokenStream → Prop) (start : Inv a s)
    (each : ∀ a s, Inv a s → Fares excused (step a) s (AfterStep Inv Q s.ahead.length)) :
    Fares excused (iterate a step) s Q :=
  fares_look (run'_get s) (fares_iterateFrom each s.ahead (Nat.le_refl _) start)

/-- A loop that starts with no more than a number of tokens never has more of them. -/
theorem fares_iterate_le {n : Nat} (bound : s.ahead.length ≤ n)
    (each : ∀ a s', s'.ahead.length ≤ n → Fares excused (step a) s'
      (AfterStep (fun _ _ => True) Q s'.ahead.length)) :
    Fares excused (iterate a step) s Q := by
  refine fares_iterate (fun _ s' => s'.ahead.length ≤ n) bound fun a s' inner => ?_
  refine (each a s' inner).mono fun next s₁ after => ?_
  cases next with
  | inl b => exact ⟨after.1, Nat.le_trans (Nat.le_of_lt after.1) inner⟩
  | inr b => exact after

/-- Reads an item and uses up a token for it, or finds none. -/
abbrev FaresIfAny (excused : Prop) (item : TokenReader (Option α)) (s : TokenStream) : Prop :=
  Fares excused item s fun found s' =>
    s'.ahead.length < s.ahead.length + found.elim 1 fun _ => 0

theorem leaves_many {item : TokenReader (Option α)}
    (each : ∀ s', s'.ahead.length ≤ s.ahead.length → FaresIfAny excused item s') :
    Leaves excused (many item) s (s.ahead.length + 1) := by
  refine fares_iterate_le (Nat.le_refl _) fun found s' inner => ?_
  refine (each s' inner).bind fun next s₁ fewer => ?_
  cases next with
  | some a => exact fares_pure ⟨fewer, trivial⟩
  | none => exact fares_pure (Nat.lt_of_lt_of_le fewer (Nat.succ_le_succ inner))

theorem leaves_commaSeparated {item : TokenReader α}
    (each : ∀ s', s'.ahead.length ≤ s.ahead.length → Leaves excused item s' s'.ahead.length) :
    Leaves excused (commaSeparated item) s s.ahead.length := by
  refine fares_iterate_le (Nat.le_refl _) fun found s' inner => ?_
  refine (each s' inner).bind fun a s₁ fewer => ?_
  refine fares_ite_accept (by decide) (fun less => ?_) ?_
  · exact fares_pure ⟨Nat.lt_trans less fewer, trivial⟩
  · exact fares_pure (Nat.lt_of_lt_of_le fewer inner)

theorem leaves_commaList (closer : TokenKind) {item : TokenReader α}
    (each : ∀ s', s'.ahead.length ≤ s.ahead.length → Leaves excused item s' s'.ahead.length) :
    Leaves excused (commaList closer item) s (s.ahead.length + 1) := by
  refine fares_iterate_le (Nat.le_refl _) fun found s' inner => ?_
  refine fares_ite_isAt (fun _ => fares_pure (Nat.lt_succ_of_le inner)) ?_
  refine (each s' inner).bind fun a s₁ fewer => ?_
  refine fares_ite_accept (by decide) (fun less => ?_) ?_
  · exact fares_pure ⟨Nat.lt_trans less fewer, trivial⟩
  · exact fares_pure (Nat.lt_succ_of_le (Nat.le_trans (Nat.le_of_lt fewer) inner))

/-! ## Brackets -/

/-- A group ends behind a token that is in front of all that is left, if it ends at all. -/
theorem groupFrom_cases (opener : Token) (finish : Position) (due : List TokenKind)
    (inner ts : List Token) :
    (∃ found ts', groupFrom opener finish due inner ts = (.ok found, ⟨ts', finish⟩) ∧
        ts' <:+ ts) ∨
      ∃ e s', groupFrom opener finish due inner ts = (.error e, s') ∧
        e.fault.isTextual = true := by
  induction ts generalizing due inner with
  | nil => exact .inr ⟨_, _, rfl, rfl⟩
  | cons t ts ih =>
    have further (due' : List TokenKind) (inner' : List Token) :
        (∃ found ts', groupFrom opener finish due' inner' ts = (.ok found, ⟨ts', finish⟩) ∧
            ts' <:+ t :: ts) ∨
          ∃ e s', groupFrom opener finish due' inner' ts = (.error e, s') ∧
            e.fault.isTextual = true :=
      (ih due' inner').imp_left fun ⟨found, ts', run, left⟩ =>
        ⟨found, ts', run, left.trans (List.suffix_cons t ts)⟩
    rw [groupFrom]
    cases t.kind.closer? with
    | some closer => exact further _ _
    | none =>
      dsimp only
      split
      · split
        · split
          · exact .inl ⟨_, _, rfl, List.suffix_cons t ts⟩
          · exact further _ _
        · exact .inr ⟨_, _, rfl, rfl⟩
      · exact further _ _

theorem leaves_bracketGroup (opens : s.current.kind.closer?.isSome = true) :
    Leaves excused bracketGroup s s.ahead.length := by
  obtain ⟨closer, known⟩ := Option.isSome_iff_exists.mp opens
  have fewer := TokenStream.length_rest_lt (ne_endOfFile_of_closer? opens)
  have run := run'_bracketGroup_of_opens known
  rcases groupFrom_cases s.current s.finish [closer] [] s.rest.ahead with
    ⟨found, ts', ends, left⟩ | ⟨e, s', fails, textual⟩
  · exact fares_of_ok (run.trans ends) ⟨left.trans s.isLeftOf_rest.ahead, rfl⟩
      (Nat.lt_of_le_of_lt left.length_le fewer)
  · exact fares_of_error (run.trans fails) (.inl textual)

/-- A group that is read has used up its bracket. -/
theorem length_lt_of_bracketGroup {inner : List Token} {u : TokenStream}
    (opens : s.current.kind.closer?.isSome = true) (run : bracketGroup.run' s = (.ok inner, u)) :
    u.ahead.length < s.ahead.length := by
  have leaves : Leaves True bracketGroup s s.ahead.length := leaves_bracketGroup opens
  exact (leaves.of_ok run).2

theorem leaves_groupBehind? (token : Token) (s : TokenStream) :
    Leaves excused (groupBehind? token) s (s.ahead.length + 1) := by
  refine fares_look (run'_current s) ?_
  split
  · next there =>
    have opens : s.current.kind = .openParen := by
      simp only [Bool.and_eq_true, decide_eq_true_eq] at there
      exact there.1
    refine (leaves_bracketGroup (by rw [opens]; rfl)).bind fun found s₁ fewer => ?_
    exact fares_pure (Nat.lt_succ_of_lt fewer)
  · exact fares_pure (Nat.lt_succ_self _)

theorem leaves_passExpression (terminators : List TokenKind) (s : TokenStream) :
    Leaves excused (passExpression terminators) s (s.ahead.length + 1) := by
  refine fares_iterate_le (Nat.le_refl _) fun found s' inner => ?_
  refine fares_look (run'_current s') ?_
  split
  · exact fares_pure (Nat.lt_succ_of_le inner)
  · next more =>
    have real : s'.current.kind ≠ .endOfFile := fun ends => more (by rw [ends]; rfl)
    split
    · next opens =>
      refine (leaves_bracketGroup opens).bind fun _ s₁ fewer => ?_
      exact fares_pure ⟨fewer, trivial⟩
    · refine (leaves_advance real).bind fun _ s₁ fewer => ?_
      exact fares_pure ⟨fewer, trivial⟩

/-! ## Names and attributes -/

/-- What is done at a dot in front of a name, or else elsewhere. -/
theorem fares_ite_dotted {first second : TokenReader β}
    (dotted : s.current.kind ≠ .endOfFile → Fares excused first s Q)
    (other : Fares excused second s Q) :
    Fares excused
      (do if (← isAt .dot) && (← peek 1).kind.isNameLike then first else second) s Q := by
  refine fares_look (run'_isAt .dot s) (fares_look (run'_peek 1 s) ?_)
  split
  · next there =>
    have dot : s.current.kind = .dot := of_decide_eq_true (Bool.and_eq_true_iff.mp there).1
    exact dotted (by rw [dot]; decide)
  · exact other

theorem leaves_dottedNames (s : TokenStream) : Leaves excused dottedNames s s.ahead.length := by
  refine (leaves_expectName s).bind fun first s₁ fewer => ?_
  refine fares_iterate_le (Nat.le_refl _) fun found s' inner => ?_
  refine fares_ite_dotted (fun dot => ?_) (fares_pure (Nat.lt_of_le_of_lt inner fewer))
  refine (leaves_advance dot).bind fun _ s₂ less => ?_
  refine (leaves_advance_le s₂).bind fun _ s₃ le => ?_
  exact fares_pure ⟨Nat.lt_of_lt_of_le le less, trivial⟩

theorem fares_attribute? (s : TokenStream) : FaresIfAny excused AttributeReader.attribute? s := by
  refine fares_ite_accept (by decide) (fun fewer => ?_) (fares_pure (Nat.lt_succ_self _))
  refine (leaves_dottedNames s.rest).bind fun found s₁ fewer₁ => ?_
  refine (leaves_groupBehind? found.2 s₁).bind fun inner s₂ fewer₂ => ?_
  have fewer' : s₂.ahead.length < s.ahead.length :=
    Nat.lt_of_lt_of_le fewer₂ (Nat.le_trans fewer₁ (Nat.le_of_lt fewer))
  cases inner with
  | none => exact fares_pure fewer'
  | some inner => exact fares_pure fewer'

theorem leaves_readAttributes (s : TokenStream) :
    Leaves excused readAttributes s (s.ahead.length + 1) := by
  refine (leaves_many fun s' _ => fares_attribute? s').bind fun found s₁ fewer => ?_
  exact fares_pure fewer

end TokenReader

namespace AttributeReader

theorem ne_nil_of_mem_splitFrom (depth : Int) (inner ts : List Token) :
    ∀ item ∈ splitFrom depth inner ts, item ≠ [] := by
  fun_induction splitFrom depth inner ts <;> simp_all

/-- No argument of an attribute is without tokens. -/
theorem ne_nil_of_mem_itemsBetweenCommas (tokens : List Token) :
    ∀ item ∈ itemsBetweenCommas tokens, item ≠ [] :=
  ne_nil_of_mem_splitFrom 0 [] tokens

end AttributeReader

end ViewModifiers.Interface
