import ViewModifiers.Interface.DeclarationReader
import ViewModifiers.Proofs.Interface.Runs

/-!
# What token readers blame

A reader that fails blames a token: the one that comes next, or one that it has used up. So if all
tokens of a stream stand at certain places, its fault is found at one of them. `Blames` says so of
all streams at once, together with what holds of the result: where the result is a token, it stands
at such a place too, since it may be blamed later.
-/

namespace ViewModifiers.Interface

open Source

/-- All tokens of a stream stand at certain places, the end of the file included. -/
def TokenStream.Within (P : Position → Prop) (s : TokenStream) : Prop :=
  ∀ t ∈ s.toList, P t.position

namespace TokenStream

variable {P : Position → Prop} {s : TokenStream}

theorem within_iff : s.Within P ↔ (∀ t ∈ s.ahead, P t.position) ∧ P s.finish := by
  unfold Within toList
  rw [List.forall_mem_append, List.forall_mem_singleton]
  rfl

theorem Within.peek (within : s.Within P) (n : Nat) : P (s.peek n).position := by
  unfold TokenStream.peek
  cases found : s.ahead[n]? with
  | none => exact (within_iff.1 within).2
  | some t => exact (within_iff.1 within).1 t (List.mem_of_getElem? found)

theorem Within.of_ahead {ts : List Token} (within : s.Within P) (fewer : ∀ t ∈ ts, t ∈ s.ahead) :
    Within P ⟨ts, s.finish⟩ := by
  obtain ⟨ahead, finish⟩ := within_iff.1 within
  exact within_iff.2 ⟨fun t there => ahead t (fewer t there), finish⟩

theorem Within.rest (within : s.Within P) : s.rest.Within P :=
  within.of_ahead fun _ there => List.mem_of_mem_tail there

end TokenStream

namespace TokenReader

variable {α β σ : Type} {P : Position → Prop} {good : α → Prop} {fine : β → Prop}

/-! ## Steps -/

/-- From a stream with tokens at certain places a reader comes to such a stream again, with a good
result, or it finds a fault at one of the places. -/
def Blames (P : Position → Prop) (good : α → Prop) (r : TokenReader α) : Prop :=
  ∀ s : TokenStream, s.Within P →
    (∀ a s', r.run' s = (.ok a, s') → s'.Within P ∧ good a) ∧
      ∀ e s', r.run' s = (.error e, s') → P e.position

/-- A reader whose result does not matter. -/
abbrev Stays (P : Position → Prop) (r : TokenReader α) : Prop := Blames P (fun _ => True) r

/-- A run that came to a good result and a stream with tokens at the places. -/
theorem blamed_ok {a : α} {s : TokenStream} {ran : Except SyntaxError α × TokenStream}
    (run : ran = (.ok a, s)) (within : s.Within P) (isGood : good a) :
    (∀ b s', ran = (.ok b, s') → s'.Within P ∧ good b) ∧
      ∀ e s', ran = (.error e, s') → P e.position := by
  subst run
  constructor
  · intro b s' same
    cases same
    exact ⟨within, isGood⟩
  · intro e s' same
    cases same

/-- A run that found a fault at one of the places. -/
theorem blamed_error {e : SyntaxError} {s : TokenStream} {ran : Except SyntaxError α × TokenStream}
    (run : ran = (.error e, s)) (here : P e.position) :
    (∀ b s', ran = (.ok b, s') → s'.Within P ∧ good b) ∧
      ∀ e s', ran = (.error e, s') → P e.position := by
  subst run
  constructor
  · intro b s' same
    cases same
  · intro f s' same
    cases same
    exact here

theorem blames_pure {a : α} (isGood : good a) : Blames P good (pure a) :=
  fun s within => blamed_ok (run'_pure a s) within isGood

theorem stays_pure (a : α) : Stays P (pure a) := blames_pure trivial

theorem Blames.bind {r : TokenReader β} {f : β → TokenReader α} (first : Blames P fine r)
    (second : ∀ b, fine b → Blames P good (f b)) : Blames P good (r >>= f) := by
  intro s within
  obtain ⟨ok, error⟩ := first s within
  rw [run'_bind]
  rcases run : r.run' s with ⟨e | b, s₁⟩
  · exact blamed_error rfl (error e s₁ run)
  · obtain ⟨within, isFine⟩ := ok b s₁ run
    exact second b isFine s₁ within

theorem blames_ite {condition : Prop} [Decidable condition] {r r' : TokenReader α}
    (first : Blames P good r) (second : Blames P good r') :
    Blames P good (if condition then r else r') := by
  split
  · exact first
  · exact second

/-- A look at the tokens ahead. -/
theorem blames_look {r : TokenReader α} {look : TokenStream → α}
    (looks : ∀ s, r.run' s = (.ok (look s), s)) (isGood : ∀ s, s.Within P → good (look s)) :
    Blames P good r :=
  fun s within => blamed_ok (looks s) within (isGood s within)

theorem stays_get : Stays P (get : TokenReader TokenStream) :=
  blames_look run'_get fun _ _ => trivial

/-! ## Single tokens -/

/-- A token at one of some places. -/
abbrev At (P : Position → Prop) (t : Token) : Prop := P t.position

theorem blames_current : Blames P (At P) current :=
  blames_look run'_current fun _ within => within.peek 0

theorem blames_peek (n : Nat) : Blames P (At P) (peek n) :=
  blames_look (run'_peek n) fun _ within => within.peek n

theorem stays_isAt (kind : TokenKind) : Stays P (isAt kind) :=
  blames_look (run'_isAt kind) fun _ _ => trivial

theorem stays_isAtAny (kinds : List TokenKind) : Stays P (isAtAny kinds) :=
  blames_look (run'_isAtAny kinds) fun _ _ => trivial

theorem stays_isAtWord (words : List String) : Stays P (isAtWord words) :=
  blames_look (run'_isAtWord words) fun _ _ => trivial

theorem stays_isAtName : Stays P isAtName := blames_look run'_isAtName fun _ _ => trivial

theorem blames_advance : Blames P (At P) advance :=
  fun s within => blamed_ok (run'_advance s) within.rest (within.peek 0)

theorem blames_failAt {t : Token} (here : At P t) (fault : Fault) :
    Blames P good (failAt t fault) :=
  fun _ _ => blamed_error rfl here

theorem blames_fail (fault : Fault) : Blames P good (fail fault) :=
  blames_current.bind fun _ here => blames_failAt here fault

theorem stays_accept (kind : TokenKind) : Stays P (accept kind) :=
  (stays_isAt kind).bind fun _ _ =>
    blames_ite (blames_advance.bind fun _ _ => stays_pure true) (stays_pure false)

theorem blames_expect (kind : TokenKind) : Blames P (At P) (expect kind) :=
  blames_current.bind fun _ here => blames_ite blames_advance (blames_failAt here _)

theorem blames_expectName : Blames P (At P) expectName :=
  blames_current.bind fun _ here => blames_ite blames_advance (blames_failAt here _)

/-! ## Loops -/

theorem blames_iterateFrom {step : σ → TokenReader (σ ⊕ β)} {inv : σ → Prop}
    (each : ∀ a, inv a → Blames P (Sum.elim inv fine) (step a)) (measure : List Token) {a : σ}
    (start : inv a) : Blames P fine (iterateFrom step measure a) := by
  induction measure generalizing a with
  | nil =>
    refine (each a start).bind fun next holds => ?_
    cases next with
    | inl b => exact blames_fail _
    | inr b => exact blames_pure holds
  | cons t measure ih =>
    refine (each a start).bind fun next holds => ?_
    cases next with
    | inl b => exact ih holds
    | inr b => exact blames_pure holds

theorem blames_iterate {step : σ → TokenReader (σ ⊕ β)} (inv : σ → Prop) {a : σ} (start : inv a)
    (each : ∀ a, inv a → Blames P (Sum.elim inv fine) (step a)) :
    Blames P fine (iterate a step) :=
  stays_get.bind fun s _ => blames_iterateFrom each s.ahead start

/-- A loop whose results do not matter. -/
theorem stays_iterate {step : σ → TokenReader (σ ⊕ β)} (each : ∀ a, Stays P (step a)) (a : σ) :
    Stays P (iterate a step) := by
  refine blames_iterate (fun _ => True) trivial fun a _ s within => ?_
  obtain ⟨ok, error⟩ := each a s within
  refine ⟨fun next s' run => ⟨(ok next s' run).1, ?_⟩, error⟩
  cases next <;> trivial

theorem stays_many {item : TokenReader (Option α)} (each : Stays P item) : Stays P (many item) := by
  refine stays_iterate (fun found => each.bind fun next _ => ?_) []
  cases next with
  | some a => exact stays_pure _
  | none => exact stays_pure _

theorem stays_commaSeparated {item : TokenReader α} (each : Stays P item) :
    Stays P (commaSeparated item) :=
  stays_iterate (fun _ => each.bind fun _ _ => (stays_accept _).bind fun _ _ =>
    blames_ite (stays_pure _) (stays_pure _)) []

theorem stays_commaList (closer : TokenKind) {item : TokenReader α} (each : Stays P item) :
    Stays P (commaList closer item) :=
  stays_iterate (fun _ => (stays_isAt _).bind fun _ _ => blames_ite (stays_pure _)
    (each.bind fun _ _ => (stays_accept _).bind fun _ _ =>
      blames_ite (stays_pure _) (stays_pure _))) []

/-! ## Brackets and names -/

theorem groupFrom_within {opener : Token} (opened : At P opener) {finish : Position}
    (due : List TokenKind) (inner : List Token) {ts : List Token}
    (within : TokenStream.Within P ⟨ts, finish⟩) :
    (∀ found s', groupFrom opener finish due inner ts = (.ok found, s') →
        s'.Within P ∧ True) ∧
      ∀ e s', groupFrom opener finish due inner ts = (.error e, s') → P e.position := by
  induction ts generalizing due inner with
  | nil => exact blamed_error rfl opened
  | cons t ts ih =>
    have later : TokenStream.Within P ⟨ts, finish⟩ := within.rest
    rw [groupFrom]
    split
    · exact ih _ _ later
    · split
      · split
        · split
          · exact blamed_ok rfl later trivial
          · exact ih _ _ later
        · exact blamed_error rfl (within.peek 0)
      · exact ih _ _ later

theorem stays_bracketGroup : Stays P bracketGroup := by
  refine blames_advance.bind fun opener opened => ?_
  split
  · exact blames_failAt opened _
  · exact fun _ within => groupFrom_within opened _ [] within

theorem stays_groupBehind? (token : Token) : Stays P (groupBehind? token) :=
  blames_current.bind fun _ _ =>
    blames_ite (stays_bracketGroup.bind fun _ _ => stays_pure _) (stays_pure _)

theorem stays_passExpression (terminators : List TokenKind) :
    Stays P (passExpression terminators) := by
  refine stays_iterate (fun _ => blames_current.bind fun t _ => ?_) ()
  refine blames_ite (stays_pure _) (blames_ite ?_ ?_)
  · exact stays_bracketGroup.bind fun _ _ => stays_pure _
  · exact blames_advance.bind fun _ _ => stays_pure _

theorem stays_dottedNames : Stays P dottedNames := by
  refine blames_expectName.bind fun first _ => stays_iterate (fun found => ?_) _
  refine (stays_isAt _).bind fun _ _ => (blames_peek 1).bind fun _ _ => ?_
  refine blames_ite ?_ (stays_pure _)
  exact blames_advance.bind fun _ _ => blames_advance.bind fun _ _ => stays_pure _

theorem stays_dottedName : Stays P dottedName := stays_dottedNames.bind fun _ _ => stays_pure _

end TokenReader

end ViewModifiers.Interface
