import ViewModifiers.Dispatch.Arguments
import ViewModifiers.Proofs.Stylesheet.Acceptance

/-!
# Choices of arguments

For each parameter a call may have an item, or leave the parameter to its default. Reading finds
every choice that its items can tell apart: one parameter after the other takes the next item or
leaves it alone, by at most two tokens, and the separator behind an item is all that one parameter
leaves to the next.
-/

namespace ViewModifiers.Dispatch

open Catalog Emit Stylesheet Reader

variable {r : Registry} {listed : Bool} {c : Cursor}

/-! ## Items for parameters -/

/-- A reader accepts tokens in full as an item of a list, with a certain value. -/
def TakesItem (value : Reader Value) (tokens : List Token) (v : Value) : Prop :=
  ∀ next tail finish, EndsItem next →
    value.run' ⟨tokens ++ next :: tail, finish⟩ = (.ok v, ⟨next :: tail, finish⟩)

/-- An item for a parameter: a value that the parameter's type accepts in full, behind the label if
there is one. -/
inductive ItemFor (r : Registry) (p : Parameter) : List Token → Value → Prop where
  | labelled (name colon : Token) (tokens : List Token) (v : Value) (reader : Reader Value)
      (hasLabel : p.hasLabel = true) (isName : name.kind = .name)
      (isLabel : name.value = p.firstName) (isColon : colon.kind = .colon)
      (found : r.find p.type.text = .ok reader) (takes : TakesItem reader tokens v) :
      ItemFor r p (name :: colon :: tokens) v
  | unlabelled (tokens : List Token) (v : Value) (reader : Reader Value)
      (noLabel : p.hasLabel = false) (starts : StartsItem tokens)
      (notKeyed : ¬StartsKeyed tokens) (found : r.find p.type.text = .ok reader)
      (takes : TakesItem reader tokens v) : ItemFor r p tokens v

/-- A choice for parameters in their order: an item for each of them, or none if it has a default.
If a parameter without a label has no item, the next item has a label. -/
inductive Choice (r : Registry) : List Parameter → List (List Token) → List Value → Prop where
  | done : Choice r [] [] []
  | given (p : Parameter) (ps : List Parameter) (tokens : List Token) (items : List (List Token))
      (v : Value) (vs : List Value) (item : ItemFor r p tokens v) (rest : Choice r ps items vs) :
      Choice r (p :: ps) (tokens :: items) (v :: vs)
  | omitted (p : Parameter) (ps : List Parameter) (items : List (List Token)) (vs : List Value)
      (hasDefault : p.hasDefault = true)
      (next : p.hasLabel = false → ∀ tokens ∈ items.head?, StartsKeyed tokens)
      (rest : Choice r ps items vs) : Choice r (p :: ps) items (.omitted :: vs)

/-- The labels of the parameters that have one. -/
def labels (ps : List Parameter) : List String :=
  (ps.filter (·.hasLabel)).map (·.firstName)

theorem labels_cons_of_hasLabel {p : Parameter} {ps : List Parameter} (h : p.hasLabel = true) :
    labels (p :: ps) = p.firstName :: labels ps := by
  rw [labels, List.filter_cons_of_pos h]
  rfl

theorem labels_cons_of_noLabel {p : Parameter} {ps : List Parameter} (h : p.hasLabel = false) :
    labels (p :: ps) = labels ps := by
  rw [labels, List.filter_cons_of_neg (by simp [h])]
  rfl

theorem firstName_ne_of_distinct {p q : Parameter} {ps : List Parameter}
    (distinct : (labels (p :: ps)).Nodup) (hasLabel : p.hasLabel = true) (there : q ∈ ps)
    (qHasLabel : q.hasLabel = true) : q.firstName ≠ p.firstName := by
  rw [labels_cons_of_hasLabel hasLabel, List.nodup_cons] at distinct
  have known : q.firstName ∈ labels ps :=
    List.mem_map_of_mem (List.mem_filter.2 ⟨there, qHasLabel⟩)
  intro same
  exact distinct.1 (same ▸ known)

theorem distinct_tail {p : Parameter} {ps : List Parameter}
    (distinct : (labels (p :: ps)).Nodup) : (labels ps).Nodup := by
  by_cases hasLabel : p.hasLabel = true
  · rw [labels_cons_of_hasLabel hasLabel, List.nodup_cons] at distinct
    exact distinct.2
  · rwa [labels_cons_of_noLabel (Bool.eq_false_iff.2 hasLabel)] at distinct

/-- The next item is for one of the parameters. -/
theorem Choice.next_item {ps : List Parameter} {items : List (List Token)} {vs : List Value}
    (choice : Choice r ps items vs) {tokens : List Token} (next : tokens ∈ items.head?) :
    ∃ p ∈ ps, ∃ v, ItemFor r p tokens v := by
  induction choice with
  | done => cases next
  | given p ps _ items v vs item _ _ =>
    cases next
    exact ⟨p, List.mem_cons_self, v, item⟩
  | omitted p ps items vs _ _ _ ih =>
    obtain ⟨q, there, v, item⟩ := ih next
    exact ⟨q, List.mem_cons_of_mem p there, v, item⟩

/-! ## Separators -/

theorem run'_separator_of_comma {comma : Token} {tail : List Token} {finish : Source.Position}
    (isComma : comma.kind = .comma) :
    separator.run' ⟨comma :: tail, finish⟩ = (.ok (), ⟨tail, finish⟩) := by
  rw [separator, run'_bind_of_ok (run'_accept_cons isComma)]
  rfl

theorem run'_separator_of_close {closing : Token} {tail : List Token} {finish : Source.Position}
    (isClosing : closing.kind = .closeBracket) :
    separator.run' ⟨closing :: tail, finish⟩ = (.ok (), ⟨closing :: tail, finish⟩) := by
  have there : decide ((⟨closing :: tail, finish⟩ : Cursor).current.kind = .closeBracket) = true :=
    decide_eq_true isClosing
  rw [separator, run'_bind_of_ok (run'_accept_cons_of_ne (by simp [isClosing])),
    if_neg (by decide), run'_bind_of_ok (run'_isAt .closeBracket _), there]
  rfl

/-! ## Parameters without an item -/

/-- Whether no argument comes next. -/
def noneLeft (listed : Bool) (c : Cursor) : Bool :=
  !listed || decide (c.current.kind = .closeBracket)

/-- Whether a key comes next. -/
def atKey (c : Cursor) : Bool :=
  decide (c.current.kind = .name) && decide ((c.peek 1).kind = .colon)

theorem noneLeft_of_startsItem {tokens tail : List Token} {finish : Source.Position}
    (starts : StartsItem tokens) : noneLeft true ⟨tokens ++ tail, finish⟩ = false := by
  rw [noneLeft, Bool.not_true, Bool.false_or]
  exact Bool.eq_false_iff.2 starts.not_atClose

theorem atKey_of_startsKeyed {tokens tail : List Token} {finish : Source.Position}
    (keyed : StartsKeyed tokens) : atKey ⟨tokens ++ tail, finish⟩ = true := by
  obtain ⟨name, colon, rest, rfl, isName, isColon⟩ := keyed
  exact Bool.and_eq_true_iff.2 ⟨decide_eq_true isName, decide_eq_true isColon⟩

theorem atKey_eq_false_of_not_startsKeyed {tokens tail : List Token} {next : Token}
    {finish : Source.Position} (starts : StartsItem tokens) (notKeyed : ¬StartsKeyed tokens)
    (ends : EndsItem next) : atKey ⟨tokens ++ next :: tail, finish⟩ = false := by
  have notAtKey := not_atKey_of_not_startsKeyed starts notKeyed ends tail finish
  rw [atKey, ← Bool.decide_and]
  exact decide_eq_false notAtKey

theorem run'_isExhausted (listed : Bool) (c : Cursor) :
    (isExhausted listed).run' c = (.ok (noneLeft listed c), c) := by
  cases listed with
  | false => rfl
  | true => rfl

theorem run'_missing_of_default (cause : Cause) (c : Cursor) :
    (missing true cause).run' c = (.ok .omitted, c) := rfl

/-- A parameter without a label is left out where no argument or a key comes next. -/
theorem run'_positionalArgument_of_absent {type : String} {hasDefault : Bool}
    (absent : (noneLeft listed c || atKey c) = true) :
    (positionalArgument r listed type hasDefault).run' c =
      (missing hasDefault (.missingArgument type)).run' c := by
  rw [positionalArgument, run'_bind_of_ok (run'_isExhausted listed c),
    run'_bind_of_ok (run'_isAtKey c)]
  exact congrArg (fun r => Reader.run' r c) (if_pos absent)

/-- A parameter with a label is left out where its key does not come next. -/
theorem run'_labeledArgument_of_absent {label type : String} {hasDefault : Bool}
    (absent : (noneLeft listed c || !atKey c || decide (c.current.value ≠ label)) = true) :
    (labeledArgument r listed label type hasDefault).run' c =
      (missing hasDefault (.missingLabel label)).run' c := by
  rw [labeledArgument, run'_bind_of_ok (run'_isExhausted listed c),
    run'_bind_of_ok (run'_isAtKey c), run'_bind_of_ok (run'_current c)]
  exact congrArg (fun r => Reader.run' r c) (if_pos absent)

/-- A parameter with a default takes nothing from where no item is for it. -/
theorem run'_argument_of_absent {p : Parameter} (hasDefault : p.hasDefault = true)
    (positional : p.hasLabel = false → (noneLeft listed c || atKey c) = true)
    (labelled : p.hasLabel = true →
      (noneLeft listed c || !atKey c || decide (c.current.value ≠ p.firstName)) = true) :
    (argument r listed p).run' c = (.ok .omitted, c) := by
  unfold argument
  by_cases hasLabel : p.hasLabel = true
  · rw [if_pos hasLabel, run'_labeledArgument_of_absent (labelled hasLabel), hasDefault,
      run'_missing_of_default]
  · have absent := positional (Bool.eq_false_iff.2 hasLabel)
    rw [if_neg hasLabel, run'_positionalArgument_of_absent absent, hasDefault,
      run'_missing_of_default]

/-! ## Parameters with an item -/

/-- Reads an item without a label, or leaves it if there is a default. -/
def takeOrLeave (hasDefault : Bool) (reader : Reader Value) : Reader Value := do
  let result ← if hasDefault then attempt reader else .ok <$> reader
  match result with
  | .error _ => return .omitted
  | .ok value =>
    separator
    return value

/-- Reads an item behind its label. -/
def takeKeyed (reader : Reader Value) : Reader Value := do
  let _ ← key
  let value ← reader
  separator
  return value

theorem run'_positionalArgument_of_present {type : String} {hasDefault : Bool}
    (present : (noneLeft listed c || atKey c) = false) :
    (positionalArgument r listed type hasDefault).run' c =
      (r.reader type >>= takeOrLeave hasDefault).run' c := by
  rw [positionalArgument, run'_bind_of_ok (run'_isExhausted listed c),
    run'_bind_of_ok (run'_isAtKey c)]
  exact congrArg (fun r => Reader.run' r c) (if_neg (Bool.not_eq_true _ ▸ present))

theorem run'_labeledArgument_of_present {label type : String} {hasDefault : Bool}
    (present : (noneLeft listed c || !atKey c || decide (c.current.value ≠ label)) = false) :
    (labeledArgument r listed label type hasDefault).run' c =
      (r.reader type >>= takeKeyed).run' c := by
  rw [labeledArgument, run'_bind_of_ok (run'_isExhausted listed c),
    run'_bind_of_ok (run'_isAtKey c), run'_bind_of_ok (run'_current c)]
  exact congrArg (fun r => Reader.run' r c) (if_neg (Bool.not_eq_true _ ▸ present))

theorem run'_reader_of_found {type : String} {reader : Reader Value}
    (found : r.find type = .ok reader) : (r.reader type).run' c = (.ok reader, c) := by
  rw [Registry.reader, found]
  rfl

/-- What a reader accepts is taken, with or without a default. -/
theorem run'_takeOrLeave {hasDefault : Bool} {reader : Reader Value} {c₁ : Cursor} {v : Value}
    (run : reader.run' c = (.ok v, c₁)) :
    (takeOrLeave hasDefault reader).run' c = (do separator; return v : Reader Value).run' c₁ := by
  unfold takeOrLeave
  cases hasDefault with
  | true => exact run'_bind_of_ok (run'_attempt_of_ok run)
  | false => exact run'_bind_of_ok (run'_map_eq_ok_iff.2 ⟨v, run, rfl⟩)

/-- What a reader does not accept is only left alone where there is a default and the stylesheet is
to blame, and then the cursor goes back. -/
theorem takeOrLeave_eq_ok_of_error {hasDefault : Bool} {reader : Reader Value} {c₁ : Cursor}
    {e : Failure} {v : Value} (read : reader.run' c = (.error e, c₁))
    (run : (takeOrLeave hasDefault reader).run' c = (.ok v, c')) :
    hasDefault = true ∧ e.isStylesheet = true ∧ v = .omitted ∧ c' = c := by
  unfold takeOrLeave at run
  cases hasDefault with
  | false =>
    have failed : (Except.ok <$> reader : Reader (Except Failure Value)).run' c =
        (.error e, c₁) := by
      rw [run'_map, read]
      rfl
    rw [if_neg (by decide), run'_bind_of_error failed] at run
    cases run
  | true =>
    have tried := run'_attempt_of_error read
    rw [if_pos rfl] at run
    by_cases blame : e.isStylesheet = true
    · rw [if_pos blame] at tried
      rw [run'_bind_of_ok tried] at run
      cases run
      exact ⟨rfl, blame, rfl, rfl⟩
    · rw [if_neg blame] at tried
      rw [run'_bind_of_error tried] at run
      cases run

/-- A parameter takes the item that is for it, and looks at the separator behind it. -/
theorem run'_argument_of_item {p : Parameter} {tokens tail : List Token} {next : Token}
    {finish : Source.Position} {v : Value} (item : ItemFor r p tokens v) (ends : EndsItem next) :
    (argument r true p).run' ⟨tokens ++ next :: tail, finish⟩ =
      (do separator; return v : Reader Value).run' ⟨next :: tail, finish⟩ := by
  unfold argument
  cases item with
  | labelled name colon tokens _ reader hasLabel isName isLabel isColon found takes =>
    have keyed : StartsKeyed (name :: colon :: tokens) :=
      ⟨name, colon, tokens, rfl, isName, isColon⟩
    have starts : StartsItem (name :: colon :: tokens) := ⟨name, _, rfl, by simp [isName]⟩
    have present : (noneLeft true ⟨name :: colon :: tokens ++ next :: tail, finish⟩ ||
        !atKey ⟨name :: colon :: tokens ++ next :: tail, finish⟩ ||
        decide (name.value ≠ p.firstName)) = false := by
      rw [noneLeft_of_startsItem starts, atKey_of_startsKeyed keyed, isLabel]
      simp
    have key : Reader.key.run' ⟨name :: colon :: tokens ++ next :: tail, finish⟩ =
        (.ok name.value, ⟨tokens ++ next :: tail, finish⟩) := rfl
    rw [if_pos hasLabel, run'_labeledArgument_of_present present,
      run'_bind_of_ok (run'_reader_of_found found), takeKeyed, run'_bind_of_ok key,
      run'_bind_of_ok (takes next tail finish ends)]
  | unlabelled _ _ reader noLabel starts notKeyed found takes =>
    have present : (noneLeft true ⟨tokens ++ next :: tail, finish⟩ ||
        atKey ⟨tokens ++ next :: tail, finish⟩) = false := by
      rw [noneLeft_of_startsItem starts, atKey_eq_false_of_not_startsKeyed starts notKeyed ends]
      rfl
    rw [if_neg (by simp [noLabel]), run'_positionalArgument_of_present present,
      run'_bind_of_ok (run'_reader_of_found found),
      run'_takeOrLeave (takes next tail finish ends)]

/-! ## All parameters -/

/-- What stands behind the first item of a list. -/
theorem Choice.first_of_separated {item inner : List Token} {items : List (List Token)}
    {closing : Token} (separated : Separated (item :: items) inner)
    (isClosing : closing.kind = .closeBracket) (tail : List Token) :
    ∃ next rest, inner ++ closing :: tail = item ++ next :: rest ∧ EndsItem next := by
  cases separated with
  | last => exact ⟨closing, tail, rfl, .inr isClosing⟩
  | more _ comma isComma _ rest _ =>
    exact ⟨comma, rest ++ closing :: tail, by rw [List.append_assoc]; rfl, .inl isComma⟩

/-- A parameter for which there is no item in a choice takes nothing. -/
theorem Choice.run'_argument_of_omitted {p : Parameter} {ps : List Parameter}
    {items : List (List Token)} {vs : List Value} {inner tail : List Token} {closing : Token}
    {finish : Source.Position} (distinct : (labels (p :: ps)).Nodup)
    (hasDefault : p.hasDefault = true)
    (next : p.hasLabel = false → ∀ tokens ∈ items.head?, StartsKeyed tokens)
    (rest : Choice r ps items vs) (separated : Separated items inner)
    (isClosing : closing.kind = .closeBracket) :
    (argument r true p).run' ⟨inner ++ closing :: tail, finish⟩ =
      (.ok .omitted, ⟨inner ++ closing :: tail, finish⟩) := by
  cases items with
  | nil =>
    rw [separated.eq_nil]
    have none : noneLeft true ⟨[] ++ closing :: tail, finish⟩ = true := decide_eq_true isClosing
    apply run'_argument_of_absent hasDefault
    · intro _
      rw [none]
      rfl
    · intro _
      rw [none]
      rfl
  | cons tokens items =>
    obtain ⟨after, behind, split, ends⟩ := Choice.first_of_separated separated isClosing tail
    rw [split]
    apply run'_argument_of_absent hasDefault
    · intro noLabel
      rw [atKey_of_startsKeyed (next noLabel tokens rfl), Bool.or_true]
    · intro hasLabel
      obtain ⟨q, there, v, item⟩ := rest.next_item (Option.mem_some_self tokens)
      cases item with
      | labelled name colon rest _ _ qHasLabel isName isLabel =>
        have other : name.value ≠ p.firstName := by
          rw [isLabel]
          exact firstName_ne_of_distinct distinct hasLabel there qHasLabel
        exact Bool.or_eq_true_iff.2 (.inr (decide_eq_true other))
      | unlabelled _ _ _ _ starts notKeyed =>
        rw [atKey_eq_false_of_not_startsKeyed starts notKeyed ends, Bool.not_false, Bool.or_true,
          Bool.true_or]

/-- A list of arguments is read as the choice that its items are made for. -/
theorem Choice.run'_argumentValues {ps : List Parameter} {items : List (List Token)}
    {vs : List Value} (choice : Choice r ps items vs) (distinct : (labels ps).Nodup)
    {inner tail : List Token} {closing : Token} {finish : Source.Position}
    (separated : Separated items inner) (isClosing : closing.kind = .closeBracket) :
    (argumentValues r true ps).run' ⟨inner ++ closing :: tail, finish⟩ =
      (.ok vs, ⟨closing :: tail, finish⟩) := by
  induction choice generalizing inner with
  | done =>
    rw [separated.eq_nil]
    rfl
  | given p ps tokens items v vs item rest ih =>
    have later := @ih (distinct_tail distinct)
    rw [argumentValues]
    cases separated with
    | last =>
      have step : (argument r true p).run' ⟨tokens ++ closing :: tail, finish⟩ =
          (.ok v, ⟨closing :: tail, finish⟩) := by
        rw [run'_argument_of_item item (.inr isClosing),
          run'_bind_of_ok (run'_separator_of_close isClosing)]
        rfl
      rw [run'_bind_of_ok step]
      exact run'_bind_of_ok (later .none)
    | more _ comma isComma _ inner separated =>
      have step : (argument r true p).run' ⟨tokens ++ comma :: inner ++ closing :: tail, finish⟩ =
          (.ok v, ⟨inner ++ closing :: tail, finish⟩) := by
        rw [List.append_assoc, List.cons_append, run'_argument_of_item item (.inl isComma),
          run'_bind_of_ok (run'_separator_of_comma isComma)]
        rfl
      rw [run'_bind_of_ok step]
      exact run'_bind_of_ok (later separated)
  | omitted p ps items vs hasDefault next rest ih =>
    have step : (argument r true p).run' ⟨inner ++ closing :: tail, finish⟩ =
        (.ok .omitted, ⟨inner ++ closing :: tail, finish⟩) :=
      rest.run'_argument_of_omitted distinct hasDefault next separated isClosing
    rw [argumentValues, run'_bind_of_ok step]
    exact run'_bind_of_ok (ih (distinct_tail distinct) separated)

/-- Without a list, every parameter has to be left to its default. -/
theorem Choice.run'_argumentValues_of_leftOut {ps : List Parameter} {vs : List Value}
    (choice : Choice r ps [] vs) (c : Cursor) :
    (argumentValues r false ps).run' c = (.ok vs, c) := by
  generalize isNil : ([] : List (List Token)) = items at choice
  induction choice with
  | done => rfl
  | given => cases isNil
  | omitted p ps items vs hasDefault next rest ih =>
    have step : (argument r false p).run' c = (.ok .omitted, c) :=
      run'_argument_of_absent hasDefault (fun _ => rfl) (fun _ => rfl)
    rw [argumentValues, run'_bind_of_ok step]
    exact run'_bind_of_ok (ih isNil)

/-! ## Overloads -/

theorem run'_fillFields_of_open {s : Signature} (h : hiddenField? s = none) (c : Cursor) :
    (fillFields s).run' c = (.ok (), c) := by
  rw [fillFields, h]
  rfl

theorem run'_fillFields_of_hidden {s : Signature} {field : String}
    (h : hiddenField? s = some field) (c : Cursor) :
    (fillFields s).run' c = (.error (fieldFailure field), c) := by
  rw [fillFields, h]
  rfl

theorem run'_closeArguments_of_close {closing brace : Token} {tail : List Token}
    {finish : Source.Position} (isClosing : closing.kind = .closeBracket)
    (isBrace : brace.kind = .closeBrace) :
    (closeArguments true).run' ⟨closing :: brace :: tail, finish⟩ = (.ok (), ⟨tail, finish⟩) := by
  have atEnd : decide ((⟨closing :: brace :: tail, finish⟩ : Cursor).current.kind =
      .closeBracket) = true := decide_eq_true isClosing
  rw [closeArguments, if_pos rfl, run'_bind_of_ok (run'_isAt .closeBracket _), atEnd, if_pos rfl,
    run'_bind_of_ok (run'_advance _), Cursor.rest_cons]
  exact run'_bind_of_ok (run'_expectAs_cons isBrace)

/-- How the rest of a call is read that is written for a choice: the start of its list, the
arguments, and its end. -/
structure ReadsChoice (r : Registry) (s : Signature) (values : List Value) (c c' : Cursor)
    (listed : Bool) (c₁ c₂ : Cursor) : Prop where
  opened : openArguments.run' c = (.ok listed, c₁)
  arguments : (argumentValues r listed s.parameters).run' c₁ = (.ok values, c₂)
  closed : (closeArguments listed).run' c₂ = (.ok (), c')

/-- An overload accepts a call if it can fill its fields, and the call is read from its start to its
end. -/
theorem run'_overloadArguments_eq_ok_iff {s : Signature} {values : List Value} :
    (overloadArguments r s).run' c = (.ok values, c') ↔
      hiddenField? s = none ∧ ∃ listed c₁ c₂, ReadsChoice r s values c c' listed c₁ c₂ := by
  constructor
  · intro run
    obtain ⟨listed, c₁, opened, run⟩ := run'_bind_eq_ok_iff.1 run
    obtain ⟨vs, c₂, within, run⟩ := run'_bind_eq_ok_iff.1 run
    obtain ⟨⟨⟩, c₃, filled, run⟩ := run'_bind_eq_ok_iff.1 run
    obtain ⟨⟨⟩, c₄, closed, run⟩ := run'_bind_eq_ok_iff.1 run
    cases run
    cases hidden : hiddenField? s with
    | none =>
      cases (run'_fillFields_of_open hidden c₂).symm.trans filled
      exact ⟨rfl, listed, c₁, c₂, opened, within, closed⟩
    | some field => cases (run'_fillFields_of_hidden hidden c₂).symm.trans filled
  · rintro ⟨fieldsOpen, listed, c₁, c₂, reads⟩
    rw [overloadArguments, run'_bind_of_ok reads.opened, run'_bind_of_ok reads.arguments,
      run'_bind_of_ok (run'_fillFields_of_open fieldsOpen c₂), run'_bind_of_ok reads.closed]
    rfl

theorem Choice.exists_reads {s : Signature} {items : List (List Token)} {values : List Value}
    (choice : Choice r s.parameters items values) (distinct : (labels s.parameters).Nodup)
    {tokens : List Token} (list : ArgumentList items tokens) (tail : List Token)
    (finish : Source.Position) :
    ∃ listed c₁ c₂,
      ReadsChoice r s values ⟨tokens ++ tail, finish⟩ ⟨tail, finish⟩ listed c₁ c₂ := by
  cases list with
  | leftOut brace isBrace =>
    refine ⟨false, ⟨brace :: tail, finish⟩, ⟨brace :: tail, finish⟩, ?_, ?_, ?_⟩
    · have notComma : brace.kind ≠ .comma := by simp [isBrace]
      rw [openArguments, List.singleton_append, run'_bind_of_ok (run'_accept_cons_of_ne notComma)]
      rfl
    · exact choice.run'_argumentValues_of_leftOut _
    · rw [closeArguments]
      exact run'_bind_of_ok (run'_expectAs_cons isBrace)
  | listed comma brace isComma isBrace _ _ list =>
    obtain ⟨opening, closing, isOpening, isClosing, inner, separated⟩ := list
    have whole : comma :: (opening :: inner ++ [closing]) ++ [brace] ++ tail =
        comma :: opening :: (inner ++ closing :: brace :: tail) := by simp
    rw [whole]
    refine ⟨true, ⟨inner ++ closing :: brace :: tail, finish⟩, ⟨closing :: brace :: tail, finish⟩,
      ?_, ?_, ?_⟩
    · rw [openArguments, run'_bind_of_ok (run'_accept_cons isComma), if_pos rfl,
        run'_bind_of_ok (run'_expectAs_cons isOpening)]
      rfl
    · exact choice.run'_argumentValues distinct separated isClosing
    · exact run'_closeArguments_of_close isClosing isBrace

theorem Choice.run'_overloadArguments_of_open {s : Signature} {items : List (List Token)}
    {values : List Value} (choice : Choice r s.parameters items values)
    (distinct : (labels s.parameters).Nodup) (fieldsOpen : hiddenField? s = none)
    {tokens : List Token} (list : ArgumentList items tokens) (tail : List Token)
    (finish : Source.Position) :
    (overloadArguments r s).run' ⟨tokens ++ tail, finish⟩ = (.ok values, ⟨tail, finish⟩) :=
  run'_overloadArguments_eq_ok_iff.2 ⟨fieldsOpen, choice.exists_reads distinct list tail finish⟩

theorem Choice.run'_overloadArguments_of_hidden {s : Signature} {items : List (List Token)}
    {values : List Value} (choice : Choice r s.parameters items values)
    (distinct : (labels s.parameters).Nodup) {field : String} (hidden : hiddenField? s = some field)
    {tokens : List Token} (list : ArgumentList items tokens) (tail : List Token)
    (finish : Source.Position) :
    ∃ c', (overloadArguments r s).run' ⟨tokens ++ tail, finish⟩ =
      (.error (fieldFailure field), c') := by
  obtain ⟨listed, c₁, c₂, reads⟩ := choice.exists_reads distinct list tail finish
  rw [overloadArguments, run'_bind_of_ok reads.opened, run'_bind_of_ok reads.arguments]
  exact ⟨c₂, run'_bind_of_error (run'_fillFields_of_hidden hidden c₂)⟩

/-- A list of one item with a label, with a comma behind it or without. -/
def labelledCall (label : String) (trailing : Bool) : List Token :=
  [sign .comma, sign .openBracket, word .name label, sign .colon, word .string "x"] ++
    (if trailing then [sign .comma] else []) ++ [sign .closeBracket, sign .closeBrace]

theorem takesItem_string {t : Token} (isString : t.kind = .string) :
    TakesItem string [t] (.text t.value) := by
  intro next tail finish _
  exact run'_bind_of_ok (run'_expectAs_cons isString)

theorem itemFor_labelledCall {label : String} {p : Parameter} (hasLabel : p.hasLabel = true)
    (isLabel : label = p.firstName) (isString : p.type.text = "String") :
    ItemFor .standard p [word .name label, sign .colon, word .string "x"] (.text "x") :=
  .labelled _ _ _ _ string hasLabel rfl isLabel rfl (by rw [isString]; rfl) (takesItem_string rfl)

theorem argumentList_labelledCall (label : String) (trailing : Bool) :
    ArgumentList [[word .name label, sign .colon, word .string "x"]]
      (labelledCall label trailing) := by
  cases trailing with
  | true =>
    exact .listed (sign .comma) (sign .closeBrace) rfl rfl _ _
      (.mk (sign .openBracket) (sign .closeBracket) rfl rfl _
        (.more _ (sign .comma) rfl _ _ .none))
  | false =>
    exact .listed (sign .comma) (sign .closeBrace) rfl rfl _ _
      (.mk (sign .openBracket) (sign .closeBracket) rfl rfl _ (.last _))

/-- A parameter without a label, left to its default, and one with a label. -/
def titled : Signature :=
  ⟨[⟨wildcard, some "size", .named "Unknown" [], true⟩, ⟨"title", none, .named "String" [], false⟩]⟩

theorem choice_titled :
    Choice .standard titled.parameters [[word .name "title", sign .colon, word .string "x"]]
      [.omitted, .text "x"] := by
  refine .omitted _ _ _ _ rfl ?_ (.given _ _ _ _ _ _ (itemFor_labelledCall rfl rfl rfl) .done)
  intro _ tokens there
  cases there
  exact ⟨word .name "title", sign .colon, [word .string "x"], rfl, rfl, rfl⟩

/-- A label that starts with two underscores. -/
def underscored : Signature := ⟨[⟨"__x", none, .named "String" [], false⟩]⟩

end ViewModifiers.Dispatch
