import ViewModifiers.Proofs.Stylesheet.Grammar
import ViewModifiers.Proofs.Stylesheet.Runs
import ViewModifiers.Proofs.Stylesheet.Typed

/-!
# What readers blame

A reader that fails says what is to blame. Where all numbers ahead can be converted, a reader
without a schema blames nothing but the shape of the stylesheet, and a reader of a type nothing but
that and what its parts blame. One thing more can go wrong: a set takes no values that can change.
So it matters as well which readers give such values.
-/

namespace ViewModifiers.Stylesheet

open Text Numeral

/-- A token that can be converted if it is a number: to a double, and to a whole number if it is
written as one. -/
def Token.Convertible (t : Token) : Prop :=
  t.kind = .number → (readDecimal? t.value.toList).isSome = true ∧ WholeReadable t

/-- All numbers ahead can be converted. -/
def Cursor.Convertible (c : Cursor) : Prop := ∀ t ∈ c.ahead, t.Convertible

namespace Cursor

variable {c : Cursor}

theorem Convertible.current (convertible : c.Convertible) : c.current.Convertible := by
  obtain ⟨ahead, finish⟩ := c
  cases ahead with
  | nil => nofun
  | cons t ts => exact convertible t List.mem_cons_self

theorem Convertible.rest (convertible : c.Convertible) : c.rest.Convertible :=
  fun t there => convertible t (List.mem_of_mem_tail there)

end Cursor

namespace Reader

variable {α β : Type} {blamed : Failure → Prop} {good : α → Prop} {fine : β → Prop}

/-! ## Steps -/

/-- From a cursor whose numbers can be converted, a reader gives something good and leaves such a
cursor again, or it fails and blames what may be blamed. -/
def Behaves (blamed : Failure → Prop) (good : α → Prop) (r : Reader α) : Prop :=
  ∀ c : Cursor, c.Convertible →
    (∀ a c', r.run' c = (.ok a, c') → c'.Convertible ∧ good a) ∧
      ∀ e c', r.run' c = (.error e, c') → blamed e

theorem Behaves.mono {worse : α → Prop} {r : Reader α} (behaves : Behaves blamed good r)
    (weaker : ∀ a, good a → worse a) : Behaves blamed worse r := by
  intro c convertible
  obtain ⟨ok, error⟩ := behaves c convertible
  exact ⟨fun a c' run => (ok a c' run).imp_right (weaker a), error⟩

/-- A run that gave something good and left a cursor whose numbers can be converted. -/
theorem behaved_ok {a : α} {c : Cursor} {ran : Except Failure α × Cursor} (run : ran = (.ok a, c))
    (convertible : c.Convertible) (isGood : good a) :
    (∀ b c', ran = (.ok b, c') → c'.Convertible ∧ good b) ∧
      ∀ e c', ran = (.error e, c') → blamed e := by
  subst run
  constructor
  · intro b c' same
    cases same
    exact ⟨convertible, isGood⟩
  · intro e c' same
    cases same

/-- A run that failed and blames what may be blamed. -/
theorem behaved_error {e : Failure} {c : Cursor} {ran : Except Failure α × Cursor}
    (run : ran = (.error e, c)) (may : blamed e) :
    (∀ b c', ran = (.ok b, c') → c'.Convertible ∧ good b) ∧
      ∀ e c', ran = (.error e, c') → blamed e := by
  subst run
  constructor
  · intro b c' same
    cases same
  · intro f c' same
    cases same
    exact may

theorem behaves_pure {a : α} (isGood : good a) : Behaves blamed good (pure a) :=
  fun c convertible => behaved_ok (run'_pure a c) convertible isGood

theorem behaves_throw {e : Failure} (may : blamed e) : Behaves blamed good (throw e) :=
  fun c _ => behaved_error (run'_throw e c) may

theorem Behaves.bind {r : Reader β} {f : β → Reader α} (first : Behaves blamed fine r)
    (second : ∀ b, fine b → Behaves blamed good (f b)) : Behaves blamed good (r >>= f) := by
  intro c convertible
  obtain ⟨ok, error⟩ := first c convertible
  rcases run : r.run' c with ⟨e | b, c₁⟩
  · exact behaved_error (run'_bind_of_error run) (error e c₁ run)
  · rw [run'_bind_of_ok run]
    obtain ⟨convertible, isFine⟩ := ok b c₁ run
    exact second b isFine c₁ convertible

theorem Behaves.map {r : Reader β} {f : β → α} (behaves : Behaves blamed (fun b => good (f b)) r) :
    Behaves blamed good (f <$> r) := by
  rw [map_eq_pure_bind]
  exact behaves.bind fun b isGood => behaves_pure isGood

theorem behaves_ite {condition : Prop} [Decidable condition] {r r' : Reader α}
    (first : condition → Behaves blamed good r) (second : ¬condition → Behaves blamed good r') :
    Behaves blamed good (if condition then r else r') := by
  split
  next holds => exact first holds
  next fails => exact second fails

/-- A look at the tokens ahead. -/
theorem behaves_look {r : Reader α} {look : Cursor → α} (looks : ∀ c, r.run' c = (.ok (look c), c))
    (isGood : ∀ c : Cursor, c.Convertible → good (look c)) : Behaves blamed good r := by
  intro c convertible
  exact behaved_ok (looks c) convertible (isGood c convertible)

theorem behaves_current : Behaves blamed Token.Convertible current :=
  behaves_look run'_current fun _ convertible => convertible.current

theorem behaves_get : Behaves blamed Cursor.Convertible get :=
  behaves_look run'_get fun _ convertible => convertible

theorem behaves_peek (n : Nat) : Behaves blamed (fun _ => True) (peek n) :=
  behaves_look (run'_peek n) fun _ _ => trivial

theorem behaves_isAt (kind : TokenKind) : Behaves blamed (fun _ => True) (isAt kind) :=
  behaves_look (run'_isAt kind) fun _ _ => trivial

theorem behaves_isAtWord (word : String) : Behaves blamed (fun _ => True) (isAtWord word) :=
  behaves_look (run'_isAtWord word) fun _ _ => trivial

theorem behaves_isAtKey : Behaves blamed (fun _ => True) isAtKey :=
  behaves_look run'_isAtKey fun _ _ => trivial

theorem behaves_advance : Behaves blamed Token.Convertible advance :=
  fun c convertible => behaved_ok (run'_advance c) convertible.rest convertible.current

theorem behaves_set {start : Cursor} (convertible : start.Convertible) :
    Behaves blamed (fun _ => True) (MonadState.set start) :=
  fun _ _ => behaved_ok rfl convertible trivial

theorem behaves_lookingAhead {r : Reader α} (behaves : Behaves blamed good r) :
    Behaves blamed good (lookingAhead r) := by
  intro c convertible
  obtain ⟨ok, error⟩ := behaves c convertible
  rw [run'_lookingAhead]
  rcases run : r.run' c with ⟨e | a, c₁⟩
  · exact behaved_error rfl (error e c₁ run)
  · exact behaved_ok rfl convertible (ok a c₁ run).2

/-- What an attempt may give: something good, or a failure that blames what may be blamed. -/
def Attempted (blamed : Failure → Prop) (good : α → Prop) : Except Failure α → Prop
  | .ok a => good a
  | .error e => blamed e

theorem behaves_attemptFor {r : Reader α} (behaves : Behaves blamed good r)
    (captured : Failure → Bool) :
    Behaves blamed (Attempted blamed good) (attemptFor captured r) := by
  intro c convertible
  obtain ⟨ok, error⟩ := behaves c convertible
  rcases run : r.run' c with ⟨e | a, c₁⟩
  · rw [run'_attemptFor_error run]
    cases captured e with
    | true => exact behaved_ok rfl convertible (error e c₁ run)
    | false => exact behaved_error rfl (error e c₁ run)
  · obtain ⟨left, isGood⟩ := ok a c₁ run
    exact behaved_ok (run'_attemptFor_ok run) left isGood

/-! ## Faults of the stylesheet -/

section Faults

variable (faults : ∀ fault, blamed (.malformed fault))

include faults

theorem behaves_failAt (t : Token) (cause : Cause) : Behaves blamed good (failAt t cause) :=
  behaves_throw (faults _)

theorem behaves_fail (cause : Cause) : Behaves blamed good (fail cause) :=
  behaves_current.bind fun t _ => behaves_failAt faults t cause

theorem behaves_failExpecting (what : Expectation) : Behaves blamed good (failExpecting what) :=
  behaves_current.bind fun t _ => behaves_failAt faults t _

theorem behaves_expectAs (what : Expectation) (kind : TokenKind) :
    Behaves blamed (fun t => t.kind = kind ∧ t.Convertible) (expectAs what kind) := by
  intro c convertible
  rw [run'_expectAs]
  split
  next isKind => exact behaved_ok rfl convertible.rest ⟨isKind, convertible.current⟩
  next => exact behaved_error rfl (faults _)

theorem behaves_expect (kind : TokenKind) :
    Behaves blamed (fun t => t.kind = kind ∧ t.Convertible) (expect kind) :=
  behaves_expectAs faults _ kind

omit faults in
theorem behaves_accept (kind : TokenKind) : Behaves blamed (fun _ => True) (accept kind) :=
  (behaves_isAt kind).bind fun _ _ => behaves_ite
    (fun _ => behaves_advance.bind fun _ _ => behaves_pure trivial) fun _ => behaves_pure trivial

omit faults in
theorem behaves_key : Behaves blamed (fun _ => True) key :=
  behaves_advance.bind fun _ _ => behaves_advance.bind fun _ _ => behaves_pure trivial

/-! ## Lists -/

variable {item : Reader α}

omit faults in
theorem behaves_nextItem (each : Behaves blamed good item) :
    Behaves blamed (fun found => ∀ a b, found = some (a, b) → good a) (nextItem item) := by
  refine (behaves_isAt .closeBracket).bind fun _ _ => behaves_ite (fun _ => behaves_pure nofun) ?_
  refine fun _ => each.bind fun a isGood => (behaves_accept .comma).bind fun _ _ => ?_
  refine behaves_pure fun a' b same => ?_
  cases same
  exact isGood

theorem behaves_itemsFrom (each : Behaves blamed good item) (measure : List Token)
    (found : List α) (before : ∀ a ∈ found, good a) :
    Behaves blamed (fun items => ∀ a ∈ items, good a) (itemsFrom item measure found) := by
  have whole (items : List α) (all : ∀ a ∈ items, good a) :
      Behaves blamed (fun items => ∀ a ∈ items, good a) (pure items.reverse) :=
    behaves_pure fun a there => all a (List.mem_reverse.1 there)
  induction measure generalizing found with
  | nil =>
    rw [itemsFrom]
    refine (behaves_nextItem each).bind fun next isGood => ?_
    split
    · exact whole found before
    · exact whole _ (List.forall_mem_cons.2 ⟨isGood _ _ rfl, before⟩)
    · exact behaves_fail faults _
  | cons t measure ih =>
    rw [itemsFrom]
    refine (behaves_nextItem each).bind fun next isGood => ?_
    split
    · exact whole found before
    · exact whole _ (List.forall_mem_cons.2 ⟨isGood _ _ rfl, before⟩)
    · exact ih _ (List.forall_mem_cons.2 ⟨isGood _ _ rfl, before⟩)

theorem behaves_bracketed (what : Expectation) (each : Behaves blamed good item) :
    Behaves blamed (fun items => ∀ a ∈ items, good a) (bracketed what item) :=
  (behaves_expectAs faults what _).bind fun _ _ => behaves_get.bind fun _ _ =>
    (behaves_itemsFrom faults each _ [] nofun).bind fun _ all =>
      (behaves_expect faults _).bind fun _ _ => behaves_pure all

/-! ## Reading without a schema -/

omit faults in
theorem behaves_decimalOf {text : String} (number : (readDecimal? text.toList).isSome = true) :
    Behaves blamed (fun _ => True) (decimalOf text) := by
  obtain ⟨x, read⟩ := Option.isSome_iff_exists.1 number
  rw [decimalOf, read]
  exact behaves_pure trivial

omit faults in
theorem behaves_integerOf {text : String} (number : (readInteger? text.toList).isSome = true) :
    Behaves blamed (fun _ => True) (integerOf text) := by
  obtain ⟨n, read⟩ := Option.isSome_iff_exists.1 number
  rw [integerOf, read]
  exact behaves_pure trivial

omit faults in
theorem behaves_numberOf {t : Token} (convertible : t.Convertible) (isNumber : t.kind = .number) :
    Behaves blamed (fun _ => True) (numberOf t.value) := by
  obtain ⟨decimal, whole⟩ := convertible isNumber
  refine behaves_ite (fun _ => ?_) fun notFractional => ?_
  · exact (behaves_decimalOf decimal).bind fun _ _ => behaves_pure trivial
  · refine (behaves_integerOf (whole ?_)).bind fun _ _ => behaves_pure trivial
    exact Bool.eq_false_iff.2 notFractional

section Untyped

variable {value : Reader Value} (inside : Behaves blamed (fun _ => True) value)

include inside

omit faults in
theorem behaves_entry : Behaves blamed (fun _ => True) (entry value) :=
  behaves_isAtKey.bind fun _ _ => behaves_ite
    (fun _ => behaves_key.bind fun _ _ => inside.bind fun _ _ => behaves_pure trivial)
    fun _ => inside.bind fun _ _ => behaves_pure trivial

theorem behaves_metadataEntry : Behaves blamed (fun _ => True) (metadataEntry value) :=
  (behaves_expectAs faults _ _).bind fun _ _ => (behaves_expect faults _).bind fun _ _ =>
    inside.bind fun _ _ => behaves_pure trivial

theorem behaves_metadataOver : Behaves blamed (fun _ => True) (metadataOver value) :=
  behaves_current.bind fun _ _ =>
    (behaves_bracketed faults _ (behaves_metadataEntry faults inside)).bind fun _ _ =>
      behaves_pure trivial

theorem behaves_callHeadOver : Behaves blamed (fun _ => True) (callHeadOver value) := by
  refine (behaves_expectAs faults _ _).bind fun _ _ => behaves_current.bind fun _ _ => ?_
  refine behaves_ite (fun _ => ?_) fun _ => behaves_failExpecting faults _
  exact behaves_advance.bind fun _ _ => (behaves_expect faults _).bind fun _ _ =>
    (behaves_metadataOver faults inside).bind fun _ _ => behaves_pure trivial

theorem behaves_argumentsOver : Behaves blamed (fun _ => True) (argumentsOver value) := by
  refine (behaves_accept .comma).bind fun _ _ => ?_
  have entries : Behaves blamed (fun _ => True) (bracketed .argumentList (entry value)) :=
    (behaves_bracketed faults _ (behaves_entry inside)).mono fun _ _ => trivial
  have closing (items : List (Option String × Value)) :
      Behaves blamed (fun _ => True) (do
        let _ ← expect .closeBrace
        return (unkeyed items, keyed items)) :=
    (behaves_expect faults _).bind fun _ _ => behaves_pure trivial
  exact behaves_ite (fun _ => entries.bind fun items _ => closing items) fun _ => closing []

theorem behaves_callOver : Behaves blamed (fun _ => True) (callOver value) :=
  (behaves_callHeadOver faults inside).bind fun _ _ =>
    (behaves_argumentsOver faults inside).bind fun _ _ => behaves_pure trivial

theorem behaves_anyOver : Behaves blamed (fun _ => True) (anyOver value) := by
  refine behaves_current.bind fun t convertible => ?_
  split
  next isNumber =>
    exact behaves_advance.bind fun _ _ => behaves_numberOf convertible isNumber
  next => exact behaves_advance.bind fun _ _ => behaves_pure trivial
  next => exact behaves_advance.bind fun _ _ => behaves_pure trivial
  next => exact behaves_advance.bind fun _ _ => behaves_pure trivial
  next =>
    exact behaves_advance.bind fun _ _ => (behaves_expectAs faults _ _).bind fun _ _ =>
      behaves_pure trivial
  next =>
    exact (behaves_bracketed faults _ (behaves_entry inside)).bind fun _ _ => behaves_pure trivial
  next => exact (behaves_callOver faults inside).bind fun _ _ => behaves_pure trivial
  next => exact behaves_failExpecting faults _

end Untyped

theorem behaves_anyFrom (measure : List Token) :
    Behaves blamed (fun _ => True) (anyFrom measure) := by
  induction measure with
  | nil => exact behaves_anyOver faults (behaves_fail faults _)
  | cons t measure ih => exact behaves_anyOver faults ih

theorem behaves_any : Behaves blamed (fun _ => True) any :=
  behaves_get.bind fun _ _ => behaves_anyFrom faults _

theorem behaves_callHead : Behaves blamed (fun _ => True) callHead :=
  behaves_callHeadOver faults (behaves_any faults)

theorem behaves_anyModifier : Behaves blamed (fun _ => True) anyModifier :=
  (behaves_callOver faults (behaves_any faults)).bind fun _ _ => behaves_pure trivial

theorem behaves_argumentsOfCall (name : String) :
    Behaves blamed (fun _ => True) (argumentsOfCall name) := by
  refine behaves_get.bind fun start convertible => (behaves_callHead faults).bind fun found _ => ?_
  refine behaves_ite (fun _ => ?_) fun _ => behaves_argumentsOver faults (behaves_any faults)
  exact (behaves_set convertible).bind fun _ _ => behaves_fail faults _

/-! ## Values of types -/

variable {safe : Prop} {value : Reader Value}

/-- A reader of values that may stand in a set if they are safe. -/
abbrev Yields (blamed : Failure → Prop) (safe : Prop) (r : Reader Value) : Prop :=
  Behaves blamed (fun v => safe → v.isElement = true) r

theorem yields_number : Yields blamed safe number :=
  (behaves_expectAs faults _ _).bind fun _ number =>
    (behaves_decimalOf (number.2 number.1).1).bind fun _ _ => behaves_pure fun _ => rfl

theorem yields_integer : Yields blamed safe integer := by
  refine behaves_current.bind fun t convertible => behaves_ite (fun isInteger => ?_) fun _ =>
    behaves_failExpecting faults _
  rw [Bool.and_eq_true, decide_eq_true_eq] at isInteger
  refine behaves_advance.bind fun _ _ => (behaves_integerOf ?_).bind fun _ _ =>
    behaves_pure fun _ => rfl
  exact (convertible isInteger.1).2 (isFractional_of_isWhole isInteger.2)

theorem yields_flag : Yields blamed safe flag :=
  (behaves_isAtWord _).bind fun _ _ => behaves_ite
    (fun _ => behaves_advance.bind fun _ _ => behaves_pure fun _ => rfl) fun _ =>
    (behaves_isAtWord _).bind fun _ _ => behaves_ite
      (fun _ => behaves_advance.bind fun _ _ => behaves_pure fun _ => rfl) fun _ =>
      behaves_failExpecting faults _

theorem yields_string : Yields blamed safe string :=
  (behaves_expectAs faults _ _).bind fun _ _ => behaves_pure fun _ => rfl

theorem behaves_atomOrString : Behaves blamed (fun _ => True) atomOrString :=
  behaves_current.bind fun _ _ => behaves_ite
    (fun _ => behaves_advance.bind fun _ _ => behaves_pure trivial) fun _ =>
    behaves_failExpecting faults _

theorem yields_atomText : Yields blamed safe (Value.text <$> atomOrString) :=
  ((behaves_atomOrString faults).mono fun _ _ _ => rfl).map

omit faults in
theorem yields_optional (inside : Yields blamed safe value) :
    Yields blamed safe (optional value) :=
  (behaves_isAtWord _).bind fun _ _ => behaves_ite
    (fun _ => behaves_advance.bind fun _ _ => behaves_pure fun _ => rfl) fun _ => inside

omit faults in
/-- Several values may stand in a set if each of them may. -/
theorem areElements_iff (vs : List Value) :
    Value.areElements vs = true ↔ ∀ v ∈ vs, v.isElement = true := by
  induction vs with
  | nil => simp [Value.areElements]
  | cons v vs ih => simp [Value.areElements, ih]

theorem yields_array (inside : Yields blamed safe value) : Yields blamed safe (array value) :=
  (behaves_bracketed faults _ inside).bind fun items each =>
    behaves_pure fun isSafe => (areElements_iff items).2 fun v there => each v there isSafe

/-- A set of values that may stand in it never goes wrong. -/
theorem yields_set (inside : Yields blamed True value) : Yields blamed safe (set value) := by
  refine (behaves_bracketed faults _ inside).bind fun items each => ?_
  have elements := (areElements_iff items).2 fun v there => each v there trivial
  exact behaves_ite (fun _ => behaves_pure fun _ => rfl) fun notElements =>
    absurd elements notElements

theorem yields_dictionary (inside : Behaves blamed (fun _ => True) value) :
    Yields blamed False (dictionary value) := by
  have keyed : Behaves blamed (fun _ => True) (keyedValue value) :=
    behaves_isAtKey.bind fun _ _ => behaves_ite
      (fun _ => behaves_key.bind fun _ _ => inside.bind fun _ _ => behaves_pure trivial) fun _ =>
      behaves_failExpecting faults _
  exact (behaves_bracketed faults _ keyed).bind fun _ _ => behaves_pure nofun

theorem behaves_templates : Behaves blamed (fun _ => True) templates :=
  (behaves_isAt _).bind fun _ _ => behaves_ite
    (fun _ => (behaves_bracketed faults _ (behaves_atomOrString faults)).mono fun _ _ => trivial)
    fun _ => (behaves_atomOrString faults).bind fun _ _ => behaves_pure trivial

theorem yields_views (place : ViewPlace) : Yields blamed safe (views place) :=
  (behaves_templates faults).bind fun _ _ => behaves_pure fun _ => rfl

theorem yields_textTemplate : Yields blamed safe textTemplate :=
  (behaves_atomOrString faults).bind fun _ _ => behaves_pure fun _ => rfl

theorem yields_binding : Yields blamed safe binding :=
  (behaves_atomOrString faults).bind fun _ _ => behaves_pure fun _ => rfl

theorem yields_event : Yields blamed False event := by
  refine (behaves_isAt _).bind fun _ _ => behaves_ite (fun _ => ?_) fun _ =>
    (behaves_atomOrString faults).bind fun _ _ => behaves_pure nofun
  refine (behaves_argumentsOfCall faults _).bind fun found _ => ?_
  split
  split
  · exact behaves_pure nofun
  · exact behaves_fail faults _

theorem yields_attributeOr (inside : Yields blamed safe value) :
    Yields blamed safe (attributeOr value) := by
  refine (behaves_isAt _).bind fun _ _ => behaves_ite (fun _ => ?_) fun _ =>
    inside.bind fun v isElement => behaves_pure isElement
  refine behaves_get.bind fun start convertible => ?_
  refine (behaves_argumentsOfCall faults _).bind fun found _ => ?_
  split
  split
  · exact behaves_pure fun _ => rfl
  · exact (behaves_set convertible).bind fun _ _ => behaves_fail faults _

/-- A table of members blames what its entries do. -/
theorem yields_member (members : NameTable (Except Failure Value))
    (entries : ∀ name entry, NameTable.get? members name = some entry →
      Attempted blamed (fun v => v.isElement = true) entry) :
    Yields blamed safe (member members) := by
  have ahead : Behaves blamed (fun _ => True) memberAhead :=
    behaves_current.bind fun _ _ => (behaves_peek 1).bind fun _ _ => behaves_ite
      (fun _ => behaves_pure trivial) fun _ => behaves_ite
      (fun _ => behaves_pure trivial) fun _ => behaves_pure trivial
  refine ahead.bind fun found _ => ?_
  split
  · exact behaves_failExpecting faults _
  · split
    · exact behaves_failAt faults _ _
    · next known => exact behaves_throw (entries _ _ known)
    · next known =>
      have isElement := entries _ _ known
      refine behaves_advance.bind fun _ _ => behaves_ite (fun _ => ?_) fun _ => ?_
      · exact behaves_advance.bind fun _ _ => behaves_pure fun _ => isElement
      · exact behaves_pure fun _ => isElement

end Faults

end Reader

end ViewModifiers.Stylesheet
