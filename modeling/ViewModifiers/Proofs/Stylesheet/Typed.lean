import ViewModifiers.Proofs.Stylesheet.Untyped
import ViewModifiers.Proofs.Text.NameTable
import ViewModifiers.Stylesheet.Typed

/-!
# What readers of types use up

Every reader of a standard type, and every reader that is built over such readers, uses up a phrase.
It may have whole numbers that are too long for a number, since they are read as doubles too. Only a
table of members can have a reader give the value that stands for an omitted argument.
-/

namespace ViewModifiers.Stylesheet.Reader

open Text

/-- What a reader of a type uses up and gives. The last parameter tells whether it may give the
value of an omitted argument. -/
def IsTyped (mayOmit : Prop) (r : Reader Value) : Prop :=
  r.UsesUp fun ts v => Phrase FractionReadable .value ts ∧ (v = .omitted → mayOmit)

theorem IsTyped.isValueReader {mayOmit : Prop} {r : Reader Value} (typed : IsTyped mayOmit r) :
    IsValueReader FractionReadable r :=
  typed.mono fun _ _ h => h.1

variable {mayOmit : Prop} {value : Reader Value}

/-! ## Scalars -/

theorem isTyped_number : IsTyped mayOmit number := by
  intro c
  refine ((usesUp_expectAs .number (by decide)) c).bind fun t _ c₁ isNumber _ => ?_
  obtain ⟨rfl, isNumber⟩ := isNumber
  intro v c' run
  rw [decimalOf] at run
  rcases number : Numeral.readDecimal? t.value.toList with _ | x
  · rw [number] at run
    cases run
  · rw [number] at run
    cases run
    exact ⟨[], c₁.passes_refl, .number t isNumber fun _ => by rw [number]; rfl, by rintro ⟨⟩⟩

theorem isDigit_of_fraction : isDigit '.' = false ∧ isDigit 'e' = false ∧ isDigit 'E' = false := by
  decide

/-- A text of digits and signs has neither a fraction nor an exponent. -/
theorem isFractional_of_digits {text : String}
    (digits : ∀ x ∈ text.toList, x = '-' ∨ isDigit x = true) : isFractional text = false := by
  obtain ⟨point, lower, upper⟩ := isDigit_of_fraction
  rw [isFractional, List.any_eq_false]
  intro x there fraction
  simp only [Bool.or_eq_true, decide_eq_true_eq] at fraction
  rcases digits x there with rfl | digit
  · exact absurd fraction (by decide)
  · rcases fraction with (rfl | rfl) | rfl
    · rw [point] at digit
      cases digit
    · rw [lower] at digit
      cases digit
    · rw [upper] at digit
      cases digit

theorem isFractional_of_isWhole {text : String} (whole : isWhole text = true) :
    isFractional text = false := by
  have digits := List.all_eq_true.1 (Bool.and_eq_true_iff.1 whole).2
  apply isFractional_of_digits
  intro x there
  rw [← List.takeWhile_append_dropWhile (p := (· = '-')) (l := text.toList)] at there
  rcases List.mem_append.1 there with sign | digit
  · have isSign := List.all_eq_true.1 List.all_takeWhile x sign
    exact .inl (by simpa using isSign)
  · exact .inr (digits x digit)

theorem isTyped_integer : IsTyped mayOmit integer := by
  intro c
  refine usesUpAt_bind_of_look (run'_current c) ?_
  by_cases isInteger : c.current.kind = .number ∧ isWhole c.current.value = true
  · rw [if_pos (by simpa using isInteger)]
    refine (usesUpAt_advance (by simp [isInteger.1])).bind fun t _ c₁ taken _ => ?_
    obtain ⟨rfl, rfl⟩ := taken
    have phrase : Phrase FractionReadable .value [c.current] := by
      refine .number _ isInteger.1 fun fractional => ?_
      rw [isFractional_of_isWhole isInteger.2] at fractional
      cases fractional
    intro v c' run
    rw [integerOf] at run
    rcases number : Numeral.readInteger? c.current.value.toList with _ | n
    · rw [number] at run
      cases run
    · rw [number] at run
      cases run
      exact ⟨[], c₁.passes_refl, phrase, by rintro ⟨⟩⟩
  · rw [if_neg (by simpa using isInteger)]
    exact usesUpAt_failExpecting _ _

/-- Taking the word that comes next. -/
theorem usesUpAt_word {c : Cursor} (isWord : c.current.kind = .name) {v : Value}
    (given : v ≠ .omitted) :
    (do let _ ← advance; return v : Reader Value).UsesUpAt c
      fun ts v => Phrase FractionReadable .value ts ∧ (v = .omitted → mayOmit) := by
  refine (usesUpAt_advance (by simp [isWord])).bind fun t _ c₁ taken _ => ?_
  obtain ⟨rfl, rfl⟩ := taken
  exact usesUpAt_pure ⟨.word _ (.inr (.inr isWord)), fun h => (given h).elim⟩

theorem isTyped_flag : IsTyped mayOmit flag := by
  intro c
  refine usesUpAt_bind_of_look (run'_isAtWord "true" c) ?_
  by_cases isTrue : c.current.kind = .name ∧ c.current.value = "true"
  · rw [if_pos (by simpa using isTrue)]
    exact usesUpAt_word isTrue.1 nofun
  · rw [if_neg (by simpa using isTrue)]
    refine usesUpAt_bind_of_look (run'_isAtWord "false" c) ?_
    by_cases isFalse : c.current.kind = .name ∧ c.current.value = "false"
    · rw [if_pos (by simpa using isFalse)]
      exact usesUpAt_word isFalse.1 nofun
    · rw [if_neg (by simpa using isFalse)]
      exact usesUpAt_failExpecting _ _

theorem isTyped_string : IsTyped mayOmit string := by
  intro c
  refine (usesUp_expectAs .string (by decide) c).map fun ts t isString => ?_
  obtain ⟨rfl, isString⟩ := isString
  exact ⟨.word t (.inl isString), nofun⟩

theorem usesUp_atomOrString :
    atomOrString.UsesUp fun ts _ => Phrase FractionReadable .value ts := by
  intro c
  refine usesUpAt_bind_of_look (run'_current c) ?_
  by_cases isText : c.current.kind = .atom ∨ c.current.kind = .string
  · rw [if_pos (by simpa using isText)]
    have more : c.current.kind ≠ .endOfText := by rcases isText with h | h <;> simp [h]
    refine (usesUpAt_advance more).bind fun t _ c₁ taken _ => ?_
    obtain ⟨rfl, rfl⟩ := taken
    apply usesUpAt_pure
    rcases isText with isAtom | isString
    · exact .word _ (.inr (.inl isAtom))
    · exact .word _ (.inl isString)
  · rw [if_neg (by simpa using isText)]
    exact usesUpAt_failExpecting _ _

/-- What is made of an atom or a string. -/
theorem isTyped_atomOrString {f : String → Value} (given : ∀ s, f s ≠ .omitted) :
    IsTyped mayOmit (f <$> atomOrString) :=
  fun c => (usesUp_atomOrString c).map fun _ s phrase => ⟨phrase, fun h => (given s h).elim⟩

/-! ## Structures -/

theorem isTyped_optional (typed : IsTyped mayOmit value) : IsTyped mayOmit (optional value) := by
  intro c
  refine usesUpAt_bind_of_look (run'_isAtWord "nil" c) ?_
  by_cases isNil : c.current.kind = .name ∧ c.current.value = "nil"
  · rw [if_pos (by simpa using isNil)]
    exact usesUpAt_word isNil.1 nofun
  · rw [if_neg (by simpa using isNil)]
    exact typed c

/-- A list of values in brackets is a value. -/
theorem usesUp_bracketed_values {α : Type} (what : Expectation) {item : Reader α}
    (each : item.UsesUp fun ts _ => Phrase FractionReadable .value ts) :
    (bracketed what item).UsesUp fun ts _ => Phrase FractionReadable .value ts := by
  intro c
  refine (usesUp_bracketed what each c).mono fun ts _ list => ?_
  obtain ⟨items, bracketed, phrases⟩ := list
  refine .list items ts bracketed fun item there => .plain item ?_
  obtain ⟨_, phrase⟩ := phrases item there
  exact phrase

theorem isTyped_array (typed : IsTyped mayOmit value) : IsTyped mayOmit (array value) := by
  intro c
  exact (usesUp_bracketed_values .list typed.isValueReader c).map fun _ _ phrase => ⟨phrase, nofun⟩

theorem isTyped_set (typed : IsTyped mayOmit value) : IsTyped mayOmit (set value) := by
  intro c
  refine (usesUp_bracketed_values .list typed.isValueReader c).bind fun items ts c₁ phrase _ => ?_
  by_cases elements : Value.areElements items = true
  · rw [if_pos elements]
    exact usesUpAt_pure ⟨by rwa [List.append_nil], nofun⟩
  · rw [if_neg elements]
    exact usesUpAt_throw _ _

theorem usesUp_keyedValue (each : IsValueReader FractionReadable value) :
    (keyedValue value).UsesUp fun ts _ => Phrase FractionReadable .pair ts := by
  intro c
  refine usesUpAt_bind_of_look (run'_isAtKey c) ?_
  by_cases atKey : c.current.kind = .name ∧ (c.peek 1).kind = .colon
  · rw [if_pos (by simpa using atKey)]
    exact usesUp_keyAndValue atKey.1 atKey.2 fun k c₁ => (each c₁).map fun _ _ phrase => phrase
  · rw [if_neg (by simpa using atKey)]
    exact usesUpAt_failExpecting _ _

theorem isTyped_dictionary (typed : IsTyped mayOmit value) :
    IsTyped mayOmit (dictionary value) := by
  intro c
  have pairs := usesUp_bracketed .keywordList (usesUp_keyedValue typed.isValueReader) c
  refine pairs.map fun ts _ list => ?_
  obtain ⟨items, bracketed, phrases⟩ := list
  refine ⟨.list items ts bracketed fun item there => .keyed item ?_, nofun⟩
  obtain ⟨_, phrase⟩ := phrases item there
  exact phrase

/-! ## Members -/

/-- What `memberAhead` finds at a cursor. -/
theorem run'_memberAhead (c : Cursor) :
    memberAhead.run' c =
      (.ok (if c.current.kind = .dot ∧ (c.peek 1).kind = .name then some (c.peek 1, 2)
        else if c.current.kind = .atom then some (c.current, 1) else none), c) := by
  rw [memberAhead, run'_bind_of_ok (run'_current c), run'_bind_of_ok (run'_peek 1 c)]
  by_cases dotted : c.current.kind = .dot ∧ (c.peek 1).kind = .name
  · rw [if_pos (by simpa using dotted), if_pos dotted]
    rfl
  · rw [if_neg (by simpa using dotted), if_neg dotted]
    by_cases atom : c.current.kind = .atom
    · rw [if_pos atom, if_pos atom]
      rfl
    · rw [if_neg atom, if_neg atom]
      rfl

/-- The name that is found stands in one or two tokens, which are a value. -/
theorem phrase_of_memberAhead {c : Cursor} {name : Token} {size : Nat}
    (found : memberAhead.run' c = (.ok (some (name, size)), c)) :
    ∃ ts, c.Passes ts (if size = 2 then c.rest.rest else c.rest) ∧
      Phrase FractionReadable .value ts := by
  rw [run'_memberAhead, Prod.mk.injEq, Except.ok.injEq] at found
  have found := found.1
  by_cases dotted : c.current.kind = .dot ∧ (c.peek 1).kind = .name
  · rw [if_pos dotted] at found
    cases found
    rw [Cursor.peek_one] at dotted
    have first : c.Passes [c.current] c.rest := Cursor.passes_rest (by simp [dotted.1])
    have second : c.rest.Passes [c.rest.current] c.rest.rest :=
      Cursor.passes_rest (by simp [dotted.2])
    exact ⟨_, first.trans second, .member _ _ dotted.1 dotted.2⟩
  · rw [if_neg dotted] at found
    by_cases atom : c.current.kind = .atom
    · rw [if_pos atom] at found
      cases found
      exact ⟨_, Cursor.passes_rest (by simp [atom]), .word _ (.inr (.inl atom))⟩
    · rw [if_neg atom] at found
      cases found

/-- A member of a table gives what the table says. -/
theorem isTyped_member {members : NameTable (Except Failure Value)}
    (offers : ∀ name, (name, .ok .omitted) ∈ members → mayOmit) :
    IsTyped mayOmit (member members) := by
  intro c
  obtain ⟨found, look⟩ : ∃ found, memberAhead.run' c = (.ok found, c) := ⟨_, run'_memberAhead c⟩
  refine usesUpAt_bind_of_look look ?_
  rcases found with _ | ⟨name, size⟩
  · exact usesUpAt_failExpecting _ _
  rcases known : NameTable.get? members name.value with _ | e | v
  · simp only [known]
    exact usesUpAt_failAt _ _ _
  · simp only [known]
    exact usesUpAt_throw _ _
  · simp only [known]
    obtain ⟨ts, passes, phrase⟩ := phrase_of_memberAhead look
    have offered : v = .omitted → mayOmit := by
      rintro rfl
      exact offers name.value (NameTable.mem_of_get? known)
    intro w c' run
    by_cases two : size = 2
    · rw [if_pos two] at passes run
      cases run
      exact ⟨ts, passes, phrase, offered⟩
    · rw [if_neg two] at passes run
      cases run
      exact ⟨ts, passes, phrase, offered⟩

/-! ## References -/

theorem usesUp_templates : templates.UsesUp fun ts _ => Phrase FractionReadable .value ts := by
  intro c
  refine usesUpAt_bind_of_look (run'_isAt .openBracket c) ?_
  by_cases listed : c.current.kind = .openBracket
  · rw [if_pos (by simpa using listed)]
    exact usesUp_bracketed_values .list usesUp_atomOrString c
  · rw [if_neg (by simpa using listed)]
    exact (usesUp_atomOrString c).map fun _ _ phrase => phrase

theorem isTyped_views (place : ViewPlace) : IsTyped mayOmit (views place) :=
  fun c => (usesUp_templates c).map fun _ _ phrase => ⟨phrase, nofun⟩

theorem isTyped_textTemplate : IsTyped mayOmit textTemplate := isTyped_atomOrString nofun

theorem isTyped_binding : IsTyped mayOmit binding := isTyped_atomOrString nofun

theorem fractionReadable_phrase {kind : PhraseKind} {ts : List Token}
    (phrase : Phrase NumberReadable kind ts) : Phrase FractionReadable kind ts :=
  phrase.imp fun _ _ _ readable => readable.1

/-- The arguments of a certain call, with its head. -/
theorem usesUp_argumentsOfCall (name : String) :
    (argumentsOfCall name).UsesUp fun ts _ => Phrase FractionReadable .value ts := by
  intro c
  refine usesUpAt_bind_of_look (run'_get c) ?_
  refine ((usesUp_callHeadOver isValueReader_any) c).bind fun found start c₁ head _ => ?_
  by_cases other : found.1 ≠ name
  · simp only [if_pos other]
    exact usesUpAt_of_error ⟨_, _, rfl⟩
  · simp only [if_neg other]
    exact (usesUp_argumentsOver isValueReader_any c₁).mono fun ts _ phrase =>
      fractionReadable_phrase (.call start ts head phrase)

theorem isTyped_event : IsTyped mayOmit event := by
  intro c
  refine usesUpAt_bind_of_look (run'_isAt .openBrace c) ?_
  by_cases call : c.current.kind = .openBrace
  · rw [if_pos (by simpa using call)]
    refine (usesUp_argumentsOfCall eventCall c).bind fun x ts c₁ phrase _ => ?_
    dsimp only
    split
    · exact usesUpAt_pure ⟨by rwa [List.append_nil], nofun⟩
    · exact usesUpAt_fail _ _
  · rw [if_neg (by simpa using call)]
    exact (usesUp_atomOrString c).map fun _ _ phrase => ⟨phrase, nofun⟩

theorem isTyped_attributeOr (typed : IsTyped mayOmit value) :
    IsTyped mayOmit (attributeOr value) := by
  intro c
  refine usesUpAt_bind_of_look (run'_isAt .openBrace c) ?_
  by_cases call : c.current.kind = .openBrace
  · rw [if_pos (by simpa using call)]
    refine usesUpAt_bind_of_look (run'_get c) ?_
    refine (usesUp_argumentsOfCall attributeCall c).bind fun x ts c₁ phrase _ => ?_
    dsimp only
    split
    · exact usesUpAt_pure ⟨by rwa [List.append_nil], nofun⟩
    · exact usesUpAt_of_error ⟨_, _, rfl⟩
  · rw [if_neg (by simpa using call)]
    exact (typed c).map fun _ _ h => ⟨h.1, nofun⟩

end ViewModifiers.Stylesheet.Reader
