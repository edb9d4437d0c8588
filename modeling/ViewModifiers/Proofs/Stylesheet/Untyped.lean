import ViewModifiers.Proofs.Stylesheet.Acceptance
import ViewModifiers.Proofs.Stylesheet.Consumption
import ViewModifiers.Proofs.Stylesheet.Meaning

/-!
# What is read without a schema

The readers without a schema use up phrases with numbers that can be read, and they take every such
phrase as a whole, for what it means. Both directions follow the measure of the nesting.
-/

namespace ViewModifiers.Stylesheet.Reader

open Numeral

variable {α β : Type}

/-- A reader of values uses up phrases with numbers of a certain sort. -/
def IsValueReader (IsNumber : Token → Prop) (r : Reader Value) : Prop :=
  r.UsesUp fun ts _ => Phrase IsNumber .value ts

/-! ## Phrases are used up -/

section Sound

variable {IsNumber : Token → Prop} {value : Reader Value}

theorem usesUp_keyAndValue {c : Cursor} (isKey : c.current.kind = .name)
    (isColon : (c.peek 1).kind = .colon) {f : String → Reader β}
    (each : ∀ k, (f k).UsesUp fun ts _ => Phrase IsNumber .value ts) :
    (key >>= f).UsesUpAt c fun ts _ => Phrase IsNumber .pair ts := by
  refine (usesUpAt_key isKey isColon).bind fun k _ c₁ named _ => ?_
  obtain ⟨name, colon, rfl, isName, isColon, -⟩ := named
  exact (each k c₁).mono fun ts _ phrase => .pair name colon isName isColon ts phrase

theorem usesUp_entry (each : IsValueReader IsNumber value) :
    (entry value).UsesUp fun ts _ => Phrase IsNumber .entry ts := by
  intro c
  refine usesUpAt_bind_of_look (run'_isAtKey c) ?_
  by_cases atKey : c.current.kind = .name ∧ (c.peek 1).kind = .colon
  · rw [if_pos (by simpa using atKey)]
    have pair := usesUp_keyAndValue atKey.1 atKey.2
      (f := fun k => do return (some k, ← value)) fun k c₁ => (each c₁).map fun ts _ h => h
    exact pair.mono fun ts _ phrase => .keyed ts phrase
  · rw [if_neg (by simpa using atKey)]
    exact (each c).map fun ts _ phrase => .plain ts phrase

theorem usesUp_metadataEntry (each : IsValueReader IsNumber value) :
    (metadataEntry value).UsesUp fun ts _ => Phrase IsNumber .pair ts := by
  intro c
  refine ((usesUp_expectAs .metadataKey (by decide)) c).bind fun name _ c₁ isName _ => ?_
  obtain ⟨rfl, isName⟩ := isName
  refine ((usesUp_expect (by decide)) c₁).bind fun colon _ c₂ isColon _ => ?_
  obtain ⟨rfl, isColon⟩ := isColon
  exact (each c₂).map fun ts _ phrase => .pair name colon isName isColon ts phrase

theorem usesUp_callHeadOver (each : IsValueReader IsNumber value) :
    (callHeadOver value).UsesUp fun ts _ => Phrase IsNumber .head ts := by
  intro c
  refine ((usesUp_expectAs .modifierStart (by decide)) c).bind fun brace _ c₁ isBrace _ => ?_
  obtain ⟨rfl, isBrace⟩ := isBrace
  refine usesUpAt_bind_of_look (run'_current c₁) ?_
  by_cases isName : c₁.current.kind = .atom ∨ c₁.current.kind = .name
  · rw [if_pos (by simpa using isName)]
    have more : c₁.current.kind ≠ .endOfText := by rcases isName with h | h <;> simp [h]
    refine (usesUpAt_advance more).bind fun name _ c₂ taken _ => ?_
    obtain ⟨rfl, rfl⟩ := taken
    refine ((usesUp_expect (by decide)) c₂).bind fun comma _ c₃ isComma _ => ?_
    obtain ⟨rfl, isComma⟩ := isComma
    have metadata : (metadataOver value).UsesUpAt c₃ fun ts _ =>
        ∃ items, Bracketed items ts ∧ ∀ tokens ∈ items, Phrase IsNumber .pair tokens := by
      refine usesUpAt_bind_of_look (run'_current c₃) ?_
      have entries := usesUp_bracketed .metadata (usesUp_metadataEntry each) c₃
      exact entries.map fun ts _ list => by simpa using list
    refine metadata.map fun ts _ list => ?_
    obtain ⟨items, bracketed, pairs⟩ := list
    exact .head brace _ comma isBrace isName isComma items ts bracketed pairs
  · rw [if_neg (by simpa using isName)]
    exact usesUpAt_failExpecting _ _

theorem usesUp_argumentsOver (each : IsValueReader IsNumber value) :
    (argumentsOver value).UsesUp fun ts _ => Phrase IsNumber .arguments ts := by
  intro c
  refine ((usesUp_accept (by decide)) c).bind fun listed _ c₁ accepted _ => ?_
  rcases accepted with ⟨rfl, comma, isComma, rfl⟩ | ⟨rfl, rfl⟩
  · refine (usesUp_bracketed .argumentList (usesUp_entry each) c₁).bind fun _ ts c₂ list _ => ?_
    obtain ⟨items, bracketed, entries⟩ := list
    refine ((usesUp_expect (by decide)) c₂).bind fun brace _ _ isBrace _ => ?_
    obtain ⟨rfl, isBrace⟩ := isBrace
    apply usesUpAt_pure
    rw [List.append_nil]
    exact .arguments items _ (.listed comma brace isComma isBrace items ts bracketed)
      (by simpa using entries)
  · have leftOut : (pure [] : Reader (List (Option String × Value))).UsesUpAt c₁
        fun ts _ => ts = [] := usesUpAt_pure rfl
    refine leftOut.bind fun entries _ c₂ none _ => ?_
    subst none
    refine ((usesUp_expect (by decide)) c₂).bind fun brace _ _ isBrace _ => ?_
    obtain ⟨rfl, isBrace⟩ := isBrace
    apply usesUpAt_pure
    exact .arguments [] _ (.leftOut brace isBrace) (by simp)

theorem usesUp_callOver (each : IsValueReader IsNumber value) :
    (callOver value).UsesUp fun ts _ => Phrase IsNumber .value ts := by
  intro c
  refine ((usesUp_callHeadOver each) c).bind fun _ start c₁ head _ => ?_
  exact ((usesUp_argumentsOver each) c₁).map fun ts _ arguments => .call start ts head arguments

theorem usesUp_numberOf {t : Token} {c : Cursor} (kind : t.kind = .number) :
    (numberOf t.value).UsesUpAt c fun ts _ => ts = [] ∧ Phrase NumberReadable .value [t] := by
  intro v c' run
  unfold numberOf at run
  by_cases fractional : isFractional t.value = true
  · rw [if_pos fractional, decimalOf] at run
    rcases number : readDecimal? t.value.toList with _ | x
    · rw [number] at run
      cases run
    · rw [number] at run
      cases run
      have fraction : FractionReadable t := fun _ => by rw [number]; rfl
      have whole : WholeReadable t := fun h => by rw [fractional] at h; cases h
      exact ⟨[], c.passes_refl, rfl, .number t kind ⟨fraction, whole⟩⟩
  · rw [if_neg fractional, integerOf] at run
    rcases number : readInteger? t.value.toList with _ | n
    · rw [number] at run
      cases run
    · rw [number] at run
      cases run
      have fraction : FractionReadable t := fun h => (fractional h).elim
      have whole : WholeReadable t := fun _ => by rw [number]; rfl
      exact ⟨[], c.passes_refl, rfl, .number t kind ⟨fraction, whole⟩⟩

theorem isValueReader_anyOver (each : IsValueReader NumberReadable value) :
    IsValueReader NumberReadable (anyOver value) := by
  intro c
  refine usesUpAt_bind_of_look (run'_current c) ?_
  have taken (more : c.current.kind ≠ .endOfText) {f : Token → Reader Value}
      (rest : ∀ c₁, (f c.current).UsesUpAt c₁ fun ts _ =>
        Phrase NumberReadable .value (c.current :: ts)) :
      (advance >>= f).UsesUpAt c fun ts _ => Phrase NumberReadable .value ts := by
    refine (usesUpAt_advance more).bind fun t _ c₁ h _ => ?_
    obtain ⟨rfl, rfl⟩ := h
    exact rest c₁
  rcases kind : c.current.kind
  case number =>
    refine taken (by simp [kind]) fun c₁ => ?_
    refine (usesUp_numberOf kind).mono fun ts _ number => ?_
    obtain ⟨rfl, phrase⟩ := number
    exact phrase
  case string => exact taken (by simp [kind]) fun _ => usesUpAt_pure (.word _ (.inl kind))
  case atom => exact taken (by simp [kind]) fun _ => usesUpAt_pure (.word _ (.inr (.inl kind)))
  case name => exact taken (by simp [kind]) fun _ => usesUpAt_pure (.word _ (.inr (.inr kind)))
  case dot =>
    refine taken (by simp [kind]) fun c₁ => ?_
    refine (usesUp_expectAs .enumMember (by decide) c₁).map fun ts name h => ?_
    obtain ⟨rfl, isName⟩ := h
    exact .member _ name kind isName
  case openBracket =>
    refine (usesUp_bracketed .list (usesUp_entry each) c).map fun ts _ list => ?_
    obtain ⟨items, bracketed, entries⟩ := list
    exact .list items ts bracketed (by simpa using entries)
  case openBrace => exact (usesUp_callOver each c).map fun ts _ phrase => phrase
  all_goals exact usesUpAt_failExpecting _ _

theorem isValueReader_anyFrom (measure : List Token) :
    IsValueReader NumberReadable (anyFrom measure) := by
  induction measure with
  | nil => exact isValueReader_anyOver fun c => usesUpAt_fail _ _
  | cons _ measure ih => exact isValueReader_anyOver ih

/-- A value that is read without a schema is a phrase. -/
theorem isValueReader_any : IsValueReader NumberReadable any :=
  fun c => usesUpAt_bind_of_look (run'_get c) (isValueReader_anyFrom c.ahead c)

end Sound

/-! ## Phrases are taken as what they mean -/

section Complete

variable {value : Reader Value} {n : Nat} {ts : List Token}

/-- A reader of values that takes tokens up to some length as what they mean. -/
def TakesValues (value : Reader Value) (n : Nat) : Prop :=
  ∀ ts v, Means .value ts v → ts.length ≤ n → value.Takes ts v

theorem takes_key (name colon : Token) : key.Takes [name, colon] name.value :=
  fun _ _ => rfl

theorem takesInList_entry (inside : TakesValues value n) {e : Option String × Value}
    (means : Means .entry ts e) (bound : ts.length ≤ n) : (entry value).TakesInList ts e := by
  intro next tail finish isNext
  cases means with
  | plain _ v means =>
    have phrase := means.phrase
    have notKey := not_atKey_of_not_startsKeyed (phrase.startsItem (by decide))
      phrase.not_startsKeyed isNext tail finish
    have whole := (inside ts v means bound).map (fun v => ((none : Option String), v))
    rw [entry, run'_bind_of_ok (run'_isAtKey _), if_neg (by simpa using notKey)]
    exact whole (next :: tail) finish
  | keyed _ _ pair =>
    cases pair with
    | pair name colon isName isColon ts v means =>
      have bound' : ts.length ≤ n := by
        simp only [List.length_cons] at bound
        omega
      have whole := (inside ts v means bound').map (fun v => (some name.value, v))
      rw [entry, run'_bind_of_ok (run'_isAtKey _), if_pos]
      · exact (takes_key name colon).bind whole (next :: tail) finish
      · simp [Cursor.peek, isName, isColon]

theorem takes_metadataEntry (inside : TakesValues value n) {pair : String × Value}
    (means : Means .pair ts pair) (bound : ts.length ≤ n) :
    (metadataEntry value).Takes ts pair := by
  cases means with
  | pair name colon isName isColon ts v means =>
    have bound' : ts.length ≤ n := by
      simp only [List.length_cons] at bound
      omega
    have whole := (inside ts v means bound').map (fun v => (name.value, v))
    exact (takes_expectAs .metadataKey isName).bind ((takes_expect isColon).bind whole)

theorem takes_metadataOver (inside : TakesValues value n)
    {items : List (List Token × String × Value)} {opening : Token}
    (list : Bracketed (items.map (·.1)) (opening :: ts))
    (pairs : ∀ i ∈ items, Means .pair i.1 i.2) (bound : (opening :: ts).length ≤ n) :
    (metadataOver value).Takes (opening :: ts)
      (metadataOf opening (.ofList (items.map (·.2)))) := by
  intro tail finish
  have each : ∀ i ∈ items, (metadataEntry value).TakesInList i.1 i.2 := by
    intro i there
    have shorter := (list.infix_of_mem (List.mem_map_of_mem there)).length_le
    exact (takes_metadataEntry inside (pairs i there) (by omega)).inList
  have starts : ∀ i ∈ items, StartsItem i.1 :=
    fun i there => (pairs i there).phrase.startsItem (by decide)
  rw [metadataOver, run'_bind_of_ok (run'_current _),
    run'_bind_of_ok (takes_bracketed .metadata list each starts tail finish)]
  rfl

theorem takes_callHeadOver (inside : TakesValues value n) {head : String × Metadata Value}
    (means : Means .head ts head) (bound : ts.length ≤ n) : (callHeadOver value).Takes ts head := by
  cases means with
  | head brace name comma isBrace isName isComma items opening ts list pairs =>
    have named : (decide (name.kind = .atom) || decide (name.kind = .name)) = true := by
      simpa using isName
    have metadata := (takes_metadataOver inside list pairs (by
      simp only [List.length_cons] at bound ⊢
      omega)).map (name.value, ·)
    refine (takes_expectAs .modifierStart isBrace).bind fun tail finish => ?_
    rw [run'_bind_of_ok (run'_current _), List.cons_append, Cursor.current_cons, if_pos named,
      run'_bind_of_ok (run'_advance _)]
    exact (takes_expect isComma).bind metadata tail finish

theorem takes_argumentsOver (inside : TakesValues value n)
    {found : List Value × Text.NameTable Value} (means : Means .arguments ts found)
    (bound : ts.length ≤ n) : (argumentsOver value).Takes ts found := by
  cases means with
  | arguments items ts list entries =>
    have each : ∀ i ∈ items, (entry value).TakesInList i.1 i.2 := by
      intro i there
      have shorter := (list.infix_of_mem (List.mem_map_of_mem there)).length_le
      exact takesInList_entry inside (entries i there) (by omega)
    have starts : ∀ i ∈ items, StartsItem i.1 :=
      fun i there => (entries i there).phrase.startsItem (by decide)
    generalize parts : items.map (·.1) = itemTokens at list
    cases list with
    | leftOut brace isBrace =>
      obtain rfl := List.map_eq_nil_iff.1 parts
      intro tail finish
      rw [argumentsOver, List.singleton_append,
        run'_bind_of_ok (run'_accept_cons_of_ne (by simp [isBrace])), if_neg (by decide),
        run'_bind_of_ok (run'_pure _ _), expect, run'_bind_of_ok (run'_expectAs_cons isBrace)]
      rfl
    | listed comma brace isComma isBrace _ ts list =>
      subst parts
      intro tail finish
      have found := takes_bracketed .argumentList list each starts (brace :: tail) finish
      rw [argumentsOver, List.cons_append, List.cons_append, List.append_assoc,
        List.singleton_append, run'_bind_of_ok (run'_accept_cons isComma), if_pos rfl,
        run'_bind_of_ok found, expect, run'_bind_of_ok (run'_expectAs_cons isBrace)]
      rfl

theorem takes_callOver (inside : TakesValues value n) {start rest : List Token}
    {head : String × Metadata Value} {found : List Value × Text.NameTable Value}
    (isHead : Means .head start head) (areArguments : Means .arguments rest found)
    (bound : (start ++ rest).length ≤ n + 1) :
    (callOver value).Takes (start ++ rest) ⟨head.1, head.2, found.1, found.2⟩ := by
  have startSome := isHead.phrase.length_pos
  have restSome := areArguments.phrase.length_pos
  rw [List.length_append] at bound
  have arguments := (takes_argumentsOver inside areArguments (by omega)).map fun found =>
    (⟨head.1, head.2, found.1, found.2⟩ : Call Value)
  exact (takes_callHeadOver inside isHead (by omega)).bind arguments

/-- Tokens are taken as the value they mean, if the reader of the values inside it takes everything
shorter. -/
theorem takes_anyOver (inside : TakesValues value n) {v : Value} (means : Means .value ts v)
    (bound : ts.length ≤ n + 1) : (anyOver value).Takes ts v := by
  intro tail finish
  rw [anyOver, run'_bind_of_ok (run'_current _)]
  cases means with
  | integer t kind whole k number =>
    rw [List.singleton_append, Cursor.current_cons, kind]
    refine (run'_bind_of_ok (run'_advance _)).trans ?_
    rw [numberOf, if_neg (by simp [whole]), integerOf, number]
    rfl
  | decimal t kind fractional x number =>
    rw [List.singleton_append, Cursor.current_cons, kind]
    refine (run'_bind_of_ok (run'_advance _)).trans ?_
    rw [numberOf, if_pos fractional, decimalOf, number]
    rfl
  | text t kind =>
    rw [List.singleton_append, Cursor.current_cons, kind]
    rfl
  | atom t kind =>
    rw [List.singleton_append, Cursor.current_cons, kind]
    rfl
  | word t kind =>
    rw [List.singleton_append, Cursor.current_cons, kind]
    rfl
  | member dot name isDot isName =>
    rw [List.cons_append, Cursor.current_cons, isDot]
    refine (run'_bind_of_ok (run'_advance _)).trans ?_
    rw [List.singleton_append, Cursor.rest_cons, run'_bind_of_ok (run'_expectAs_cons isName)]
    rfl
  | list items _ list entries =>
    have first : (⟨ts ++ tail, finish⟩ : Cursor).current.kind = .openBracket := by
      obtain ⟨opening, closing, isOpening, _, inner, _⟩ := list
      exact isOpening
    have each : ∀ i ∈ items, (entry value).TakesInList i.1 i.2 := by
      intro i there
      have shorter := list.length_add_two_le (List.mem_map_of_mem there)
      exact takesInList_entry inside (entries i there) (by omega)
    have starts : ∀ i ∈ items, StartsItem i.1 :=
      fun i there => (entries i there).phrase.startsItem (by decide)
    rw [first]
    exact (takes_bracketed .list list each starts).map
      (fun entries => Value.list (entries.map entryValue)) tail finish
  | call start rest head arguments isHead areArguments =>
    have first : (⟨start ++ rest ++ tail, finish⟩ : Cursor).current.kind = .openBrace := by
      cases isHead with
      | head brace _ _ isBrace => exact isBrace
    rw [first]
    exact (takes_callOver inside isHead areArguments bound).map _ tail finish

theorem takesValues_anyFrom (measure : List Token) :
    TakesValues (anyFrom measure) (measure.length + 1) := by
  induction measure with
  | nil =>
    have nothing : TakesValues (fail .endless) 0 := by
      intro ts v means bound
      have some := means.phrase.length_pos
      omega
    exact fun ts v means bound => takes_anyOver nothing means bound
  | cons _ measure ih => exact fun ts v means bound => takes_anyOver ih means bound

/-- Tokens are read as the value that they mean. -/
theorem takes_any {v : Value} (means : Means .value ts v) : any.Takes ts v := by
  intro tail finish
  have bound : ts.length ≤ (ts ++ tail).length + 1 := by
    rw [List.length_append]
    omega
  exact takesValues_anyFrom (ts ++ tail) ts v means bound tail finish

/-- Tokens are read as the arguments that they mean. -/
theorem takes_arguments {found : List Value × Text.NameTable Value}
    (means : Means .arguments ts found) : arguments.Takes ts found :=
  takes_argumentsOver (fun _ _ means _ => takes_any means) means (Nat.le_refl _)

end Complete

end ViewModifiers.Stylesheet.Reader
