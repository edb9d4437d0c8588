import ViewModifiers.Proofs.Dispatch.Arguments
import ViewModifiers.Proofs.Numeral.Digits
import ViewModifiers.Proofs.Stylesheet.Registry

/-!
# Reading with and without a schema

Whatever an overload accepts has the shape of a list of arguments, whose items go to the parameters
in their order. Reading without a schema takes the same tokens, since both readers go by the same
phrases; only a whole number that is too long for a number stands in the way.
-/

namespace ViewModifiers.Dispatch

open Catalog Emit Numeral Stylesheet Reader Text

variable {mayOmit : Prop} {r : Registry} {c c' : Cursor}

/-! ## Items and parameters -/

/-- An item has the label of a parameter, or none if the parameter has none. -/
inductive Answers (p : Parameter) : List Token → Prop where
  | labelled (name colon : Token) (tokens : List Token) (hasLabel : p.hasLabel = true)
      (isName : name.kind = .name) (isLabel : name.value = p.firstName)
      (isColon : colon.kind = .colon) (value : Phrase FractionReadable .value tokens) :
      Answers p (name :: colon :: tokens)
  | unlabelled (tokens : List Token) (noLabel : p.hasLabel = false)
      (notKeyed : ¬StartsKeyed tokens) (value : Phrase FractionReadable .value tokens) :
      Answers p tokens

/-- Items go to parameters in their order, one to each that is not omitted. Every omitted parameter
has a default. -/
inductive Corresponds (mayOmit : Prop) :
    List Parameter → List (List Token) → List Value → Prop where
  | done : Corresponds mayOmit [] [] []
  | given (p : Parameter) (ps : List Parameter) (tokens : List Token) (items : List (List Token))
      (v : Value) (vs : List Value) (answers : Answers p tokens) (isGiven : v = .omitted → mayOmit)
      (rest : Corresponds mayOmit ps items vs) :
      Corresponds mayOmit (p :: ps) (tokens :: items) (v :: vs)
  | omitted (p : Parameter) (ps : List Parameter) (items : List (List Token)) (vs : List Value)
      (hasDefault : p.hasDefault = true) (rest : Corresponds mayOmit ps items vs) :
      Corresponds mayOmit (p :: ps) items (.omitted :: vs)

theorem Answers.entry {p : Parameter} {tokens : List Token} (answers : Answers p tokens) :
    Phrase FractionReadable .entry tokens := by
  cases answers with
  | labelled name colon tokens _ isName _ isColon value =>
    exact .keyed _ (.pair name colon isName isColon tokens value)
  | unlabelled _ _ _ value => exact .plain tokens value

theorem Corresponds.answers {ps : List Parameter} {items : List (List Token)} {vs : List Value}
    (corresponds : Corresponds mayOmit ps items vs) :
    ∀ tokens ∈ items, ∃ p ∈ ps, Answers p tokens := by
  induction corresponds with
  | done => simp
  | given p ps tokens items v vs answers _ _ ih =>
    intro other there
    rcases List.mem_cons.1 there with rfl | there
    · exact ⟨p, List.mem_cons_self, answers⟩
    · obtain ⟨q, known, answers⟩ := ih other there
      exact ⟨q, List.mem_cons_of_mem p known, answers⟩
  | omitted p ps items vs _ _ ih =>
    intro other there
    obtain ⟨q, known, answers⟩ := ih other there
    exact ⟨q, List.mem_cons_of_mem p known, answers⟩

/-! ## One parameter -/

/-- A separator is a comma, or nothing at the end of the list. -/
theorem separator_eq_ok (run : separator.run' c = (.ok (), c')) :
    (∃ comma : Token, comma.kind = .comma ∧ c.Passes [comma] c') ∨
      (c' = c ∧ c.current.kind = .closeBracket) := by
  obtain ⟨found, c₁, accepted, rest⟩ := run'_bind_eq_ok_iff.1 run
  obtain ⟨ts, passes, which⟩ := usesUp_accept (by decide) c found c₁ accepted
  rcases which with ⟨rfl, comma, isComma, rfl⟩ | ⟨rfl, rfl⟩
  · cases rest
    exact .inl ⟨comma, isComma, passes⟩
  · rw [passes.eq, if_neg (by decide), run'_bind_of_ok (run'_isAt .closeBracket c)] at rest
    by_cases atClose : c.current.kind = .closeBracket
    · rw [if_pos (decide_eq_true atClose)] at rest
      cases rest
      exact .inr ⟨rfl, atClose⟩
    · rw [if_neg (by simpa using atClose)] at rest
      cases rest

theorem missing_eq_ok {hasDefault : Bool} {cause : Cause} {v : Value}
    (run : (missing hasDefault cause).run' c = (.ok v, c')) :
    hasDefault = true ∧ v = .omitted ∧ c' = c := by
  cases hasDefault with
  | false => cases run
  | true =>
    cases run
    exact ⟨rfl, rfl, rfl⟩

/-- What a parameter uses up: nothing if it is omitted, or else an item with its separator. -/
inductive Consumed (mayOmit : Prop) (p : Parameter) (c : Cursor) : Value → Cursor → Prop where
  | omitted (hasDefault : p.hasDefault = true) : Consumed mayOmit p c .omitted c
  | followed (tokens : List Token) (comma : Token) (v : Value) (c' : Cursor)
      (answers : Answers p tokens) (isGiven : v = .omitted → mayOmit)
      (isComma : comma.kind = .comma) (passes : c.Passes (tokens ++ [comma]) c') :
      Consumed mayOmit p c v c'
  | last (tokens : List Token) (v : Value) (c' : Cursor) (answers : Answers p tokens)
      (isGiven : v = .omitted → mayOmit) (passes : c.Passes tokens c')
      (atClose : c'.current.kind = .closeBracket) : Consumed mayOmit p c v c'

/-- An item that is read and the separator behind it. -/
theorem consumed_of_separator {p : Parameter} {tokens : List Token} {v : Value} {c₁ : Cursor}
    (answers : Answers p tokens) (isGiven : v = .omitted → mayOmit) (passes : c.Passes tokens c₁)
    (run : separator.run' c₁ = (.ok (), c')) : Consumed mayOmit p c v c' := by
  rcases separator_eq_ok run with ⟨comma, isComma, behind⟩ | ⟨rfl, atClose⟩
  · exact .followed tokens comma v c' answers isGiven isComma (passes.trans behind)
  · exact .last tokens v c' answers isGiven passes atClose

theorem reader_eq_ok {type : String} {reader : Reader Value}
    (run : (r.reader type).run' c = (.ok reader, c')) : r.find type = .ok reader ∧ c' = c := by
  rw [Registry.reader] at run
  rcases found : r.find type with e | known
  · rw [found] at run
    cases run
  · rw [found] at run
    cases run
    exact ⟨rfl, rfl⟩

/-- An argument without a label that is there is an item, or is left to the default. -/
theorem takeOrLeave_eq_ok {p : Parameter} {reader : Reader Value} {v : Value}
    (typed : IsTyped mayOmit reader) (noLabel : p.hasLabel = false)
    (run : (takeOrLeave p.hasDefault reader).run' c = (.ok v, c')) :
    Consumed mayOmit p c v c' := by
  rcases read : reader.run' c with ⟨e | w, c₁⟩
  · obtain ⟨hasDefault, -, rfl, rfl⟩ := takeOrLeave_eq_ok_of_error read run
    exact .omitted hasDefault
  · rw [run'_takeOrLeave read] at run
    obtain ⟨⟨⟩, c₂, separated, rest⟩ := run'_bind_eq_ok_iff.1 run
    cases rest
    obtain ⟨tokens, passes, value, isGiven⟩ := typed c v c₁ read
    exact consumed_of_separator (.unlabelled tokens noLabel value.not_startsKeyed value) isGiven
      passes separated

/-- An argument with a label is an item with that label. -/
theorem takeKeyed_eq_ok {p : Parameter} {reader : Reader Value} {v : Value}
    (typed : IsTyped mayOmit reader) (hasLabel : p.hasLabel = true) (keyed : atKey c = true)
    (isLabel : c.current.value = p.firstName)
    (run : (takeKeyed reader).run' c = (.ok v, c')) : Consumed mayOmit p c v c' := by
  obtain ⟨isName, isColon⟩ := Bool.and_eq_true_iff.1 keyed
  obtain ⟨k, c₁, named, run⟩ := run'_bind_eq_ok_iff.1 run
  obtain ⟨w, c₂, read, run⟩ := run'_bind_eq_ok_iff.1 run
  obtain ⟨⟨⟩, c₃, separated, rest⟩ := run'_bind_eq_ok_iff.1 run
  cases rest
  obtain ⟨_, passes, name, colon, rfl, isName, isColon, rfl⟩ :=
    usesUpAt_key (of_decide_eq_true isName) (of_decide_eq_true isColon) k c₁ named
  have label : name.value = p.firstName := by
    rw [run'_key, Prod.mk.injEq, Except.ok.injEq] at named
    rw [← named.1, isLabel]
  obtain ⟨tokens, behind, value, isGiven⟩ := typed c₁ v c₂ read
  exact consumed_of_separator (.labelled name colon tokens hasLabel isName label isColon value)
    isGiven (passes.trans behind) separated

/-- What a parameter makes of the place where it is read. -/
theorem argument_eq_ok {p : Parameter} {listed : Bool} {v : Value} (typed : r.AllTyped mayOmit)
    (run : (argument r listed p).run' c = (.ok v, c')) : Consumed mayOmit p c v c' := by
  unfold argument at run
  by_cases hasLabel : p.hasLabel = true
  · rw [if_pos hasLabel] at run
    by_cases absent : (noneLeft listed c || !atKey c ||
        decide (c.current.value ≠ p.firstName)) = true
    · rw [run'_labeledArgument_of_absent absent] at run
      obtain ⟨hasDefault, rfl, rfl⟩ := missing_eq_ok run
      exact .omitted hasDefault
    · rw [run'_labeledArgument_of_present (Bool.eq_false_iff.2 absent)] at run
      obtain ⟨reader, c₁, known, taken⟩ := run'_bind_eq_ok_iff.1 run
      obtain ⟨found, rfl⟩ := reader_eq_ok known
      simp only [Bool.or_eq_true, Bool.not_eq_true', decide_eq_true_eq, not_or, ne_eq,
        Bool.not_eq_false, Decidable.not_not] at absent
      exact takeKeyed_eq_ok (Registry.isTyped_find typed found) hasLabel absent.1.2 absent.2 taken
  · have noLabel := Bool.eq_false_iff.2 hasLabel
    rw [if_neg hasLabel] at run
    by_cases absent : (noneLeft listed c || atKey c) = true
    · rw [run'_positionalArgument_of_absent absent] at run
      obtain ⟨hasDefault, rfl, rfl⟩ := missing_eq_ok run
      exact .omitted hasDefault
    · rw [run'_positionalArgument_of_present (Bool.eq_false_iff.2 absent)] at run
      obtain ⟨reader, c₁, known, taken⟩ := run'_bind_eq_ok_iff.1 run
      obtain ⟨found, rfl⟩ := reader_eq_ok known
      exact takeOrLeave_eq_ok (Registry.isTyped_find typed found) noLabel taken

/-- Without a list, every parameter is omitted. -/
theorem argument_eq_ok_of_leftOut {p : Parameter} {v : Value}
    (run : (argument r false p).run' c = (.ok v, c')) :
    p.hasDefault = true ∧ v = .omitted ∧ c' = c := by
  unfold argument at run
  by_cases hasLabel : p.hasLabel = true
  · rw [if_pos hasLabel, run'_labeledArgument_of_absent rfl] at run
    exact missing_eq_ok run
  · rw [if_neg hasLabel, run'_positionalArgument_of_absent rfl] at run
    exact missing_eq_ok run

/-! ## All parameters -/

/-- Where a list ends, no item starts. -/
theorem no_item_at_close {items : List (List Token)} {inner : List Token}
    (separated : Separated items inner) (starts : ∀ tokens ∈ items, StartsItem tokens)
    (passes : c.Passes inner c') (atClose : c.current.kind = .closeBracket) : items = [] := by
  cases items with
  | nil => rfl
  | cons tokens items =>
    have first := separated.startsItem (starts tokens List.mem_cons_self)
    obtain ⟨ahead, finish⟩ := c
    have isAhead : ahead = inner ++ c'.ahead := passes.ahead
    subst isAhead
    exact (first.not_atClose (decide_eq_true atClose)).elim

/-- Several parameters use up a list of items that go to them. -/
theorem argumentValues_eq_ok {ps : List Parameter} {vs : List Value}
    (typed : r.AllTyped mayOmit) (run : (argumentValues r true ps).run' c = (.ok vs, c')) :
    ∃ items inner, c.Passes inner c' ∧ Separated items inner ∧
      Corresponds mayOmit ps items vs := by
  induction ps generalizing c vs with
  | nil =>
    cases run
    exact ⟨[], [], Cursor.passes_refl _, .none, .done⟩
  | cons p ps ih =>
    rw [argumentValues] at run
    obtain ⟨v, c₁, first, run⟩ := run'_bind_eq_ok_iff.1 run
    obtain ⟨vs, c₂, later, run⟩ := run'_bind_eq_ok_iff.1 run
    cases run
    obtain ⟨items, inner, passes, separated, corresponds⟩ := ih later
    cases argument_eq_ok typed first with
    | omitted hasDefault =>
      exact ⟨items, inner, passes, separated, .omitted p ps items vs hasDefault corresponds⟩
    | followed tokens comma _ _ answers isGiven isComma taken =>
      refine ⟨tokens :: items, tokens ++ comma :: inner, ?_, ?_, ?_⟩
      · have both := taken.trans passes
        rwa [List.append_assoc, List.singleton_append] at both
      · exact .more tokens comma isComma items inner separated
      · exact .given p ps tokens items v vs answers isGiven corresponds
    | last tokens _ _ answers isGiven taken atEnd =>
      -- Behind the last item the list ends, so all other parameters are omitted.
      have starts : ∀ tokens ∈ items, StartsItem tokens := by
        intro other there
        obtain ⟨_, _, answers⟩ := corresponds.answers other there
        exact answers.entry.startsItem (by decide)
      obtain rfl := no_item_at_close separated starts passes atEnd
      obtain rfl := separated.eq_nil
      refine ⟨[tokens], tokens, ?_, .last tokens, ?_⟩
      · have both := taken.trans passes
        rwa [List.append_nil] at both
      · exact .given p ps tokens [] v vs answers isGiven corresponds

theorem argumentValues_eq_ok_of_leftOut {ps : List Parameter} {vs : List Value}
    (run : (argumentValues r false ps).run' c = (.ok vs, c')) :
    c' = c ∧ Corresponds mayOmit ps [] vs := by
  induction ps generalizing c vs with
  | nil =>
    cases run
    exact ⟨rfl, .done⟩
  | cons p ps ih =>
    rw [argumentValues] at run
    obtain ⟨v, c₁, first, run⟩ := run'_bind_eq_ok_iff.1 run
    obtain ⟨vs, c₂, later, run⟩ := run'_bind_eq_ok_iff.1 run
    cases run
    obtain ⟨hasDefault, rfl, rfl⟩ := argument_eq_ok_of_leftOut first
    obtain ⟨rfl, corresponds⟩ := ih later
    exact ⟨rfl, .omitted p ps [] vs hasDefault corresponds⟩

/-! ## Overloads -/

theorem usesUp_openArguments :
    openArguments.UsesUp fun ts listed =>
      (listed = false ∧ ts = []) ∨ ∃ comma opening : Token, listed = true ∧
        comma.kind = .comma ∧ opening.kind = .openBracket ∧ ts = [comma, opening] := by
  intro c
  refine ((usesUp_accept (by decide)) c).bind fun found _ c₁ accepted _ => ?_
  rcases accepted with ⟨rfl, comma, isComma, rfl⟩ | ⟨rfl, rfl⟩
  · refine ((usesUp_expectAs .argumentList (by decide)) c₁).bind fun opening _ _ isOpening _ => ?_
    obtain ⟨rfl, isOpening⟩ := isOpening
    exact usesUpAt_pure (.inr ⟨comma, opening, rfl, isComma, isOpening, rfl⟩)
  · exact usesUpAt_pure (.inl ⟨rfl, rfl⟩)

theorem usesUp_closeArguments (listed : Bool) :
    (closeArguments listed).UsesUp fun ts _ =>
      ∃ brace : Token, brace.kind = .closeBrace ∧
        if listed then ∃ closing : Token, closing.kind = .closeBracket ∧ ts = [closing, brace]
        else ts = [brace] := by
  have ends (c : Cursor) : (do
      let _ ← expectAs .modifierEnd .closeBrace : Reader Unit).UsesUpAt c fun ts _ =>
        ∃ brace : Token, brace.kind = .closeBrace ∧ ts = [brace] := by
    refine ((usesUp_expectAs .modifierEnd (by decide)) c).bind fun brace _ _ isBrace _ => ?_
    obtain ⟨rfl, isBrace⟩ := isBrace
    exact usesUpAt_pure ⟨brace, isBrace, rfl⟩
  intro c
  cases listed with
  | false => exact (ends c).mono fun ts _ h => by simpa using h
  | true =>
    rw [closeArguments, if_pos rfl]
    refine usesUpAt_bind_of_look (run'_isAt .closeBracket c) ?_
    by_cases atClose : c.current.kind = .closeBracket
    · rw [if_pos (decide_eq_true atClose)]
      refine (usesUpAt_advance (by simp [atClose])).bind fun closing _ c₁ taken _ => ?_
      obtain ⟨rfl, rfl⟩ := taken
      refine (ends c₁).mono fun ts _ h => ?_
      obtain ⟨brace, isBrace, rfl⟩ := h
      exact ⟨brace, isBrace, c.current, atClose, rfl⟩
    · rw [if_neg (by simpa using atClose)]
      exact usesUpAt_of_error ⟨_, c, rfl⟩

/-- The tokens that an overload accepts are a list of arguments, and its items go to the
parameters. -/
theorem overloadArguments_eq_ok {s : Signature} {values : List Value}
    (typed : r.AllTyped mayOmit) (run : (overloadArguments r s).run' c = (.ok values, c')) :
    ∃ items used, c.Passes used c' ∧ ArgumentList items used ∧
      Corresponds mayOmit s.parameters items values := by
  obtain ⟨-, listed, c₁, c₂, opened, within, closed⟩ := run'_overloadArguments_eq_ok_iff.1 run
  obtain ⟨start, before, started⟩ := usesUp_openArguments c listed c₁ opened
  obtain ⟨stop, behind, brace, isBrace, stopped⟩ := usesUp_closeArguments listed _ () _ closed
  rcases started with ⟨rfl, rfl⟩ | ⟨comma, opening, rfl, isComma, isOpening, rfl⟩
  · obtain ⟨rfl, corresponds⟩ := argumentValues_eq_ok_of_leftOut within
    obtain rfl : stop = [brace] := by simpa using stopped
    exact ⟨[], [brace], before.trans behind, .leftOut brace isBrace, corresponds⟩
  · obtain ⟨closing, isClosing, rfl⟩ : ∃ closing : Token, closing.kind = .closeBracket ∧
        stop = [closing, brace] := by simpa using stopped
    obtain ⟨items, inner, passes, separated, corresponds⟩ := argumentValues_eq_ok typed within
    refine ⟨items, comma :: (opening :: inner ++ [closing]) ++ [brace], ?_, ?_, corresponds⟩
    · have whole := (before.trans passes).trans behind
      simpa using whole
    · exact .listed comma brace isComma isBrace items _
        (.mk opening closing isOpening isClosing inner separated)

/-! ## Reading without a schema -/

/-- Whatever is read without a schema has only whole numbers that can be read. -/
theorem wholeReadable_of_arguments {used : List Token} {found : List Value × NameTable Value}
    (passes : c.Passes used c') (read : arguments.run' c = (.ok found, c')) :
    ∀ t ∈ used, t.kind = .number → WholeReadable t := by
  obtain ⟨taken, passes', untyped⟩ := usesUp_argumentsOver isValueReader_any c found c' read
  have same : taken = used := List.append_cancel_right (passes'.ahead.symm.trans passes.ahead)
  subst same
  intro t there isNumber
  exact (untyped.isNumber_of_mem there isNumber).2

/-- Reading without a schema uses up arguments whose whole numbers can be read. -/
theorem exists_arguments_of_wholeReadable {used : List Token} (passes : c.Passes used c')
    (phrase : Phrase FractionReadable .arguments used)
    (readable : ∀ t ∈ used, t.kind = .number → WholeReadable t) :
    ∃ found, arguments.run' c = (.ok found, c') := by
  have untyped : Phrase NumberReadable .arguments used :=
    phrase.imp fun t there isNumber fraction => ⟨fraction, readable t there isNumber⟩
  obtain ⟨found, means⟩ := untyped.exists_means
  have read := takes_arguments means c'.ahead c.finish
  have start : (⟨used ++ c'.ahead, c.finish⟩ : Cursor) = c := by
    rw [← passes.ahead]
  have stop : (⟨c'.ahead, c.finish⟩ : Cursor) = c' := by
    rw [← passes.finish]
  rw [start, stop] at read
  exact ⟨found, read⟩

/-- Reading without a schema agrees with every overload of standard types and tables of members.
Where the overload accepts a call, the tokens that it uses up are a list of arguments, whose items
go to the parameters in their order; and reading without a schema uses up the same tokens, exactly
if the whole numbers among them can be read. -/
theorem overloadArguments_agrees (tables : List (String × Registry.MemberTable)) {s : Signature}
    {values : List Value}
    (run : (overloadArguments (.withMembers tables) s).run' c = (.ok values, c')) :
    ∃ items used, c.Passes used c' ∧ ArgumentList items used ∧
      Corresponds (Registry.OffersOmitted tables) s.parameters items values ∧
      ((∃ found, arguments.run' c = (.ok found, c')) ↔
        ∀ t ∈ used, t.kind = .number → WholeReadable t) := by
  obtain ⟨items, used, passes, list, corresponds⟩ :=
    overloadArguments_eq_ok (Registry.allTyped_withMembers tables) run
  have phrase : Phrase FractionReadable .arguments used := by
    refine .arguments items used list fun tokens there => ?_
    obtain ⟨_, _, answers⟩ := corresponds.answers tokens there
    exact answers.entry
  refine ⟨items, used, passes, list, corresponds, ?_, ?_⟩
  · rintro ⟨found, read⟩
    exact wholeReadable_of_arguments passes read
  · exact exists_arguments_of_wholeReadable passes phrase

/-- The items of a call with a comma behind the last one, and an omitted argument in front. -/
theorem titled_agrees :
    (overloadArguments (.withMembers []) titled).run' ⟨labelledCall "title" true, .start⟩ =
        (.ok [.omitted, .text "x"], ⟨[], .start⟩) ∧
      ∃ items used, (⟨labelledCall "title" true, .start⟩ : Cursor).Passes used ⟨[], .start⟩ ∧
        ArgumentList items used ∧
        Corresponds (Registry.OffersOmitted []) titled.parameters items
          [.omitted, .text "x"] ∧
        ((∃ found, arguments.run' ⟨labelledCall "title" true, .start⟩ =
            (.ok found, ⟨[], .start⟩)) ↔
          ∀ t ∈ used, t.kind = .number → WholeReadable t) :=
  ⟨rfl, overloadArguments_agrees [] rfl⟩

/-! ## Numbers that are too long -/

theorem takesItem_number {t : Token} {x : Float} (isNumber : t.kind = .number)
    (isDouble : readDecimal? t.value.toList = some x) : TakesItem number [t] (.decimal x) := by
  intro next tail finish _
  have converted (c : Cursor) : (decimalOf t.value).run' c = (.ok x, c) := by
    rw [decimalOf, isDouble]
    rfl
  rw [number, List.singleton_append, run'_bind_of_ok (run'_expectAs_cons isNumber),
    run'_bind_of_ok (converted _)]
  rfl

/-- A whole number of digits is only read up to the limit. -/
theorem length_le_of_wholeReadable {t : Token} (digits : AllDigits t.value.toList)
    (nonempty : t.value.toList ≠ []) (readable : WholeReadable t) :
    t.value.toList.length ≤ digitLimit := by
  have whole : isFractional t.value = false :=
    isFractional_of_digits fun c there => .inr (isDigit_of_bounds (digits c there))
  exact (readInteger?_isSome_iff digits nonempty).1 (readable whole)

/-- A number with one more digit than a whole number may have. -/
def longNumber : Token := word .number (String.ofList (List.replicate (digitLimit + 1) '1'))

theorem toList_longNumber :
    longNumber.value.toList = List.replicate (digitLimit + 1) '1' := by
  rw [longNumber, word, String.toList_ofList]

theorem allDigits_longNumber : AllDigits longNumber.value.toList := by
  rw [toList_longNumber]
  intro c there
  obtain rfl := List.eq_of_mem_replicate there
  decide

theorem longNumber_ne_nil : longNumber.value.toList ≠ [] := by
  rw [toList_longNumber]
  simp

/-- A double without a label. -/
def measured : Signature := ⟨[⟨wildcard, some "size", .named "Double" [], false⟩]⟩

/-- A list of a long number. -/
def longCall : List Token :=
  [sign .comma, sign .openBracket, longNumber, sign .closeBracket, sign .closeBrace]

/-- An overload takes a double of any length; reading without a schema does not. -/
theorem not_always_agrees :
    ¬∀ (tables : List (String × Registry.MemberTable)) (s : Signature) (c c' : Cursor)
      (values : List Value),
      (overloadArguments (.withMembers tables) s).run' c = (.ok values, c') →
      ∃ found, arguments.run' c = (.ok found, c') := by
  intro claim
  obtain ⟨x, isDouble⟩ := Option.isSome_iff_exists.1
    (readDecimal?_isSome allDigits_longNumber longNumber_ne_nil)
  have takes : TakesItem number [longNumber] (.decimal x) := takesItem_number rfl isDouble
  have choice : Choice (.withMembers []) measured.parameters [[longNumber]] [.decimal x] := by
    refine .given _ _ _ _ _ _ (.unlabelled _ _ number rfl ?_ ?_ rfl takes) .done
    · exact ⟨longNumber, [], rfl, by decide⟩
    · rintro ⟨name, colon, rest, split, _⟩
      cases split
  have list : ArgumentList [[longNumber]] longCall :=
    .listed (sign .comma) (sign .closeBrace) rfl rfl _ _
      (.mk (sign .openBracket) (sign .closeBracket) rfl rfl _ (.last _))
  have run := choice.run'_overloadArguments_of_open (by decide) (by decide) list [] .start
  obtain ⟨found, read⟩ := claim [] measured _ _ _ run
  have passes : (⟨longCall ++ [], .start⟩ : Cursor).Passes longCall ⟨[], .start⟩ := ⟨rfl, rfl⟩
  have readable := wholeReadable_of_arguments passes read
  have short := length_le_of_wholeReadable allDigits_longNumber longNumber_ne_nil
    (readable longNumber (by simp [longCall]) rfl)
  rw [toList_longNumber, List.length_replicate] at short
  omega

end ViewModifiers.Dispatch
