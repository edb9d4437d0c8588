import ViewModifiers.Proofs.Stylesheet.Runs

/-!
# The shape of what is read

Which tokens form a value, an entry of a list or the arguments of a call, said without any reader.
Lists are told by their items, each of which is a list of tokens itself.
-/

namespace ViewModifiers.Stylesheet

open Numeral

/-! ## Lists of items -/

/-- What stands behind an item of a list. -/
def EndsItem (next : Token) : Prop := next.kind = .comma ∨ next.kind = .closeBracket

/-- Items with commas between them; a comma may stand behind the last one. -/
inductive Separated : List (List Token) → List Token → Prop where
  | none : Separated [] []
  | last (item : List Token) : Separated [item] item
  | more (item : List Token) (comma : Token) (isComma : comma.kind = .comma)
      (items : List (List Token)) (tokens : List Token) (rest : Separated items tokens) :
      Separated (item :: items) (item ++ comma :: tokens)

/-- Items in square brackets. -/
inductive Bracketed (items : List (List Token)) : List Token → Prop where
  | mk (opening closing : Token) (isOpening : opening.kind = .openBracket)
      (isClosing : closing.kind = .closeBracket) (inner : List Token)
      (separated : Separated items inner) : Bracketed items (opening :: inner ++ [closing])

/-- The rest of a call behind its metadata: items in square brackets and a brace. Brackets without
an item may be left out. -/
inductive ArgumentList : List (List Token) → List Token → Prop where
  | leftOut (brace : Token) (isBrace : brace.kind = .closeBrace) : ArgumentList [] [brace]
  | listed (comma brace : Token) (isComma : comma.kind = .comma)
      (isBrace : brace.kind = .closeBrace) (items : List (List Token)) (tokens : List Token)
      (bracketed : Bracketed items tokens) :
      ArgumentList items (comma :: tokens ++ [brace])

/-! ## Values -/

/-- What may be read without a schema. -/
inductive PhraseKind
  | value
  | pair
  | entry
  | head
  | arguments
  deriving DecidableEq, Repr

/-- Tokens of the shape of something, with numbers of a certain sort. -/
inductive Phrase (IsNumber : Token → Prop) : PhraseKind → List Token → Prop where
  | number (t : Token) (kind : t.kind = .number) (isNumber : IsNumber t) :
      Phrase IsNumber .value [t]
  | word (t : Token) (kind : t.kind = .string ∨ t.kind = .atom ∨ t.kind = .name) :
      Phrase IsNumber .value [t]
  | member (dot name : Token) (isDot : dot.kind = .dot) (isName : name.kind = .name) :
      Phrase IsNumber .value [dot, name]
  | list (items : List (List Token)) (tokens : List Token) (bracketed : Bracketed items tokens)
      (entries : ∀ item ∈ items, Phrase IsNumber .entry item) : Phrase IsNumber .value tokens
  | call (start rest : List Token) (head : Phrase IsNumber .head start)
      (arguments : Phrase IsNumber .arguments rest) : Phrase IsNumber .value (start ++ rest)
  | pair (key colon : Token) (isKey : key.kind = .name) (isColon : colon.kind = .colon)
      (tokens : List Token) (value : Phrase IsNumber .value tokens) :
      Phrase IsNumber .pair (key :: colon :: tokens)
  | plain (tokens : List Token) (value : Phrase IsNumber .value tokens) :
      Phrase IsNumber .entry tokens
  | keyed (tokens : List Token) (pair : Phrase IsNumber .pair tokens) :
      Phrase IsNumber .entry tokens
  | head (brace name comma : Token) (isBrace : brace.kind = .openBrace)
      (isName : name.kind = .atom ∨ name.kind = .name) (isComma : comma.kind = .comma)
      (items : List (List Token)) (tokens : List Token) (bracketed : Bracketed items tokens)
      (pairs : ∀ item ∈ items, Phrase IsNumber .pair item) :
      Phrase IsNumber .head (brace :: name :: comma :: tokens)
  | arguments (items : List (List Token)) (tokens : List Token) (list : ArgumentList items tokens)
      (entries : ∀ item ∈ items, Phrase IsNumber .entry item) : Phrase IsNumber .arguments tokens

/-- A number that is a double if it has a fraction or an exponent. -/
def FractionReadable (t : Token) : Prop :=
  Reader.isFractional t.value = true → (readDecimal? t.value.toList).isSome = true

/-- A number that is a whole number if it has neither a fraction nor an exponent. -/
def WholeReadable (t : Token) : Prop :=
  Reader.isFractional t.value = false → (readInteger? t.value.toList).isSome = true

/-- A number that can be read without a schema. -/
def NumberReadable (t : Token) : Prop := FractionReadable t ∧ WholeReadable t

variable {IsNumber : Token → Prop}

/-! ## Where items stand -/

theorem Separated.infix_of_mem {items : List (List Token)} {item tokens : List Token}
    (separated : Separated items tokens) (there : item ∈ items) : item <:+: tokens := by
  induction separated with
  | none => cases there
  | last _ =>
    obtain rfl := List.mem_singleton.1 there
    exact List.infix_rfl
  | more first comma _ items tokens _ ih =>
    rcases List.mem_cons.1 there with rfl | there
    · exact (List.prefix_append item (comma :: tokens)).isInfix
    · have behind : tokens <:+ first ++ comma :: tokens := ⟨first ++ [comma], by simp⟩
      exact (ih there).trans behind.isInfix

theorem Bracketed.ne_nil {items : List (List Token)} {tokens : List Token}
    (list : Bracketed items tokens) : tokens ≠ [] := by
  obtain ⟨opening, closing, _, _, inner, _⟩ := list
  simp

theorem Bracketed.infix_of_mem {items : List (List Token)} {item tokens : List Token}
    (list : Bracketed items tokens) (there : item ∈ items) : item <:+: tokens := by
  obtain ⟨opening, closing, _, _, inner, separated⟩ := list
  exact (separated.infix_of_mem there).trans ⟨[opening], [closing], rfl⟩

theorem Bracketed.length_add_two_le {items : List (List Token)} {item tokens : List Token}
    (list : Bracketed items tokens) (there : item ∈ items) : item.length + 2 ≤ tokens.length := by
  obtain ⟨opening, closing, _, _, inner, separated⟩ := list
  have shorter := (separated.infix_of_mem there).length_le
  simp only [List.length_cons, List.length_append, List.length_nil]
  omega

theorem ArgumentList.infix_of_mem {items : List (List Token)} {item tokens : List Token}
    (list : ArgumentList items tokens) (there : item ∈ items) : item <:+: tokens := by
  cases list with
  | leftOut => cases there
  | listed comma brace _ _ _ tokens list =>
    exact (list.infix_of_mem there).trans ⟨[comma], [brace], rfl⟩

/-! ## Where items start -/

/-- Tokens that start an item of a list: there is one, and it does not end the list. -/
def StartsItem (tokens : List Token) : Prop :=
  ∃ t rest, tokens = t :: rest ∧ t.kind ≠ .closeBracket

theorem StartsItem.append {tokens : List Token} (starts : StartsItem tokens)
    (more : List Token) : StartsItem (tokens ++ more) := by
  obtain ⟨t, rest, rfl, h⟩ := starts
  exact ⟨t, rest ++ more, rfl, h⟩

theorem Phrase.startsItem {kind : PhraseKind} {tokens : List Token}
    (phrase : Phrase IsNumber kind tokens) (notArguments : kind ≠ .arguments) :
    StartsItem tokens := by
  induction phrase with
  | number t h _ => exact ⟨t, [], rfl, by simp [h]⟩
  | word t h => exact ⟨t, [], rfl, by rcases h with h | h | h <;> simp [h]⟩
  | member dot name h _ => exact ⟨dot, [name], rfl, by simp [h]⟩
  | list items tokens bracketed _ _ =>
    obtain ⟨opening, closing, isOpening, _, inner, _⟩ := bracketed
    exact ⟨opening, inner ++ [closing], rfl, by simp [isOpening]⟩
  | call start rest _ _ ih _ => exact (ih (by simp)).append rest
  | pair key colon h _ tokens _ _ => exact ⟨key, colon :: tokens, rfl, by simp [h]⟩
  | plain tokens _ ih => exact ih (by simp)
  | keyed tokens _ ih => exact ih (by simp)
  | head brace name comma h _ _ items tokens _ _ _ =>
    exact ⟨brace, name :: comma :: tokens, rfl, by simp [h]⟩
  | arguments => exact (notArguments rfl).elim

theorem StartsItem.length_pos {tokens : List Token} (starts : StartsItem tokens) :
    0 < tokens.length := by
  obtain ⟨t, rest, rfl, _⟩ := starts
  simp

theorem ArgumentList.length_pos {items : List (List Token)} {tokens : List Token}
    (list : ArgumentList items tokens) : 0 < tokens.length := by
  cases list with
  | leftOut => simp
  | listed => simp

theorem Phrase.length_pos {kind : PhraseKind} {tokens : List Token}
    (phrase : Phrase IsNumber kind tokens) : 0 < tokens.length := by
  by_cases isArguments : kind = .arguments
  · subst isArguments
    cases phrase with
    | arguments _ _ list _ => exact list.length_pos
  · exact (phrase.startsItem isArguments).length_pos

/-- Items of a list that start, if there are any, where the list does. -/
theorem Separated.startsItem {items : List (List Token)} {item tokens : List Token}
    (separated : Separated (item :: items) tokens) (starts : StartsItem item) :
    StartsItem tokens := by
  cases separated with
  | last => exact starts
  | more _ comma _ _ rest _ => exact starts.append (comma :: rest)

theorem Separated.eq_nil {tokens : List Token} (separated : Separated [] tokens) : tokens = [] := by
  cases separated
  rfl

/-! ## Keys -/

/-- Tokens that start with a key. -/
def StartsKeyed (tokens : List Token) : Prop :=
  ∃ name colon rest, tokens = name :: colon :: rest ∧ name.kind = .name ∧ colon.kind = .colon

theorem Phrase.not_startsKeyed {tokens : List Token} (value : Phrase IsNumber .value tokens) :
    ¬StartsKeyed tokens := by
  rintro ⟨name, colon, rest, h, isName, isColon⟩
  cases value with
  | number => cases h
  | word => cases h
  | member dot _ isDot _ =>
    cases h
    exact absurd (isDot.symm.trans isName) (by decide)
  | list items _ list _ =>
    obtain ⟨opening, closing, isOpening, _, inner, _⟩ := list
    obtain ⟨rfl, _⟩ := List.cons_eq_cons.1 h
    exact absurd (isOpening.symm.trans isName) (by decide)
  | call start rest head _ =>
    cases head with
    | head brace _ _ isBrace =>
      obtain ⟨rfl, _⟩ := List.cons_eq_cons.1 h
      exact absurd (isBrace.symm.trans isName) (by decide)

/-- Behind an item stands no colon, so that a single name is no key. -/
theorem not_atKey_of_not_startsKeyed {tokens : List Token} {next : Token}
    (starts : StartsItem tokens) (notKeyed : ¬StartsKeyed tokens) (ends : EndsItem next)
    (tail : List Token) (finish : Source.Position) :
    ¬((⟨tokens ++ next :: tail, finish⟩ : Cursor).current.kind = .name ∧
      ((⟨tokens ++ next :: tail, finish⟩ : Cursor).peek 1).kind = .colon) := by
  rintro ⟨isName, isColon⟩
  obtain ⟨first, rest, rfl, _⟩ := starts
  cases rest with
  | nil =>
    rcases ends with isComma | isClosing
    · exact absurd (isComma.symm.trans isColon) (by decide)
    · exact absurd (isClosing.symm.trans isColon) (by decide)
  | cons second rest => exact notKeyed ⟨first, second, rest, rfl, isName, isColon⟩

/-! ## Numbers -/

/-- What stands between brackets is a comma or stands in an item. -/
theorem Separated.mem_cases {items : List (List Token)} {tokens : List Token} {t : Token}
    (separated : Separated items tokens) (there : t ∈ tokens) :
    t.kind = .comma ∨ ∃ item ∈ items, t ∈ item := by
  induction separated with
  | none => cases there
  | last item => exact .inr ⟨item, List.mem_cons_self, there⟩
  | more item comma isComma items tokens _ ih =>
    rcases List.mem_append.1 there with inside | behind
    · exact .inr ⟨item, List.mem_cons_self, inside⟩
    · rcases List.mem_cons.1 behind with rfl | behind
      · exact .inl isComma
      · rcases ih behind with isComma | ⟨other, known, inside⟩
        · exact .inl isComma
        · exact .inr ⟨other, List.mem_cons_of_mem item known, inside⟩

theorem Bracketed.mem_of_number {items : List (List Token)} {tokens : List Token} {t : Token}
    (list : Bracketed items tokens) (there : t ∈ tokens) (isNumber : t.kind = .number) :
    ∃ item ∈ items, t ∈ item := by
  obtain ⟨opening, closing, isOpening, isClosing, inner, separated⟩ := list
  simp only [List.mem_append, List.mem_cons, List.not_mem_nil, or_false] at there
  rcases there with (rfl | inside) | rfl
  · exact absurd (isOpening.symm.trans isNumber) (by decide)
  · rcases separated.mem_cases inside with isComma | found
    · exact absurd (isComma.symm.trans isNumber) (by decide)
    · exact found
  · exact absurd (isClosing.symm.trans isNumber) (by decide)

theorem ArgumentList.mem_of_number {items : List (List Token)} {tokens : List Token} {t : Token}
    (list : ArgumentList items tokens) (there : t ∈ tokens) (isNumber : t.kind = .number) :
    ∃ item ∈ items, t ∈ item := by
  cases list with
  | leftOut brace isBrace =>
    obtain rfl := List.mem_singleton.1 there
    exact absurd (isBrace.symm.trans isNumber) (by decide)
  | listed comma brace isComma isBrace _ tokens list =>
    simp only [List.mem_append, List.mem_cons, List.not_mem_nil, or_false] at there
    rcases there with (rfl | inside) | rfl
    · exact absurd (isComma.symm.trans isNumber) (by decide)
    · exact list.mem_of_number inside isNumber
    · exact absurd (isBrace.symm.trans isNumber) (by decide)

/-- Every number in a phrase is of the sort that the phrase has. -/
theorem Phrase.isNumber_of_mem {kind : PhraseKind} {tokens : List Token} {t : Token}
    (phrase : Phrase IsNumber kind tokens) (there : t ∈ tokens) (isNumber : t.kind = .number) :
    IsNumber t := by
  induction phrase with
  | number u _ is =>
    obtain rfl := List.mem_singleton.1 there
    exact is
  | word u kind =>
    obtain rfl := List.mem_singleton.1 there
    rcases kind with h | h | h <;> exact absurd (h.symm.trans isNumber) (by decide)
  | member dot name isDot isName =>
    simp only [List.mem_cons, List.not_mem_nil, or_false] at there
    rcases there with rfl | rfl
    · exact absurd (isDot.symm.trans isNumber) (by decide)
    · exact absurd (isName.symm.trans isNumber) (by decide)
  | list items tokens list _ ih =>
    obtain ⟨item, known, inside⟩ := list.mem_of_number there isNumber
    exact ih item known inside
  | call start rest _ _ ih ih' =>
    rcases List.mem_append.1 there with inside | inside
    · exact ih inside
    · exact ih' inside
  | pair key colon isKey isColon tokens _ ih =>
    rcases List.mem_cons.1 there with rfl | there
    · exact absurd (isKey.symm.trans isNumber) (by decide)
    · rcases List.mem_cons.1 there with rfl | there
      · exact absurd (isColon.symm.trans isNumber) (by decide)
      · exact ih there
  | plain tokens _ ih => exact ih there
  | keyed tokens _ ih => exact ih there
  | head brace name comma isBrace isName isComma items tokens list _ ih =>
    simp only [List.mem_cons] at there
    rcases there with rfl | rfl | rfl | there
    · exact absurd (isBrace.symm.trans isNumber) (by decide)
    · rcases isName with h | h <;> exact absurd (h.symm.trans isNumber) (by decide)
    · exact absurd (isComma.symm.trans isNumber) (by decide)
    · obtain ⟨item, known, inside⟩ := list.mem_of_number there isNumber
      exact ih item known inside
  | arguments items tokens list _ ih =>
    obtain ⟨item, known, inside⟩ := list.mem_of_number there isNumber
    exact ih item known inside

/-- The sort of the numbers may be changed to one that all numbers of the phrase are of. -/
theorem Phrase.imp {IsNumber' : Token → Prop} {kind : PhraseKind} {tokens : List Token}
    (phrase : Phrase IsNumber kind tokens)
    (imp : ∀ t ∈ tokens, t.kind = .number → IsNumber t → IsNumber' t) :
    Phrase IsNumber' kind tokens := by
  induction phrase with
  | number t kind is => exact .number t kind (imp t List.mem_cons_self kind is)
  | word t kind => exact .word t kind
  | member dot name isDot isName => exact .member dot name isDot isName
  | list items tokens list _ ih =>
    refine .list items tokens list fun item known => ih item known fun t inside => ?_
    exact imp t ((list.infix_of_mem known).subset inside)
  | call start rest _ _ ih ih' =>
    exact .call start rest (ih fun t inside => imp t (List.mem_append_left rest inside))
      (ih' fun t inside => imp t (List.mem_append_right start inside))
  | pair key colon isKey isColon tokens _ ih =>
    refine .pair key colon isKey isColon tokens (ih fun t inside => imp t ?_)
    exact List.mem_cons_of_mem key (List.mem_cons_of_mem colon inside)
  | plain tokens _ ih => exact .plain tokens (ih imp)
  | keyed tokens _ ih => exact .keyed tokens (ih imp)
  | head brace name comma isBrace isName isComma items tokens list _ ih =>
    refine .head brace name comma isBrace isName isComma items tokens list fun item known =>
      ih item known fun t inside => imp t ?_
    have within := (list.infix_of_mem known).subset inside
    exact List.mem_append_right [brace, name, comma] within
  | arguments items tokens list _ ih =>
    refine .arguments items tokens list fun item known => ih item known fun t inside => ?_
    exact imp t ((list.infix_of_mem known).subset inside)

end ViewModifiers.Stylesheet
