import ViewModifiers.Proofs.Stylesheet.Grammar

/-!
# What phrases mean

A phrase that can be read means one thing: a value, an entry of a list, or a part of a call. The
meaning is said along the shape of the phrase, without any reader.
-/

namespace ViewModifiers.Stylesheet

open Numeral Text Reader

/-- What a phrase of a kind means. -/
abbrev PhraseKind.Meaning : PhraseKind → Type
  | .value => Value
  | .pair => String × Value
  | .entry => Option String × Value
  | .head => String × Metadata Value
  | .arguments => List Value × NameTable Value

/-- What tokens mean. The items of a list stand beside what they mean. -/
inductive Means : (kind : PhraseKind) → List Token → kind.Meaning → Prop where
  | integer (t : Token) (kind : t.kind = .number) (whole : isFractional t.value = false) (n : Int)
      (number : readInteger? t.value.toList = some n) : Means .value [t] (.integer n)
  | decimal (t : Token) (kind : t.kind = .number) (fractional : isFractional t.value = true)
      (x : Float) (number : readDecimal? t.value.toList = some x) : Means .value [t] (.decimal x)
  | text (t : Token) (kind : t.kind = .string) : Means .value [t] (.text t.value)
  | atom (t : Token) (kind : t.kind = .atom) : Means .value [t] (.atom t.value)
  | word (t : Token) (kind : t.kind = .name) : Means .value [t] (wordValue t.value)
  | member (dot name : Token) (isDot : dot.kind = .dot) (isName : name.kind = .name) :
      Means .value [dot, name] (.member name.value)
  | list (items : List (List Token × Option String × Value)) (tokens : List Token)
      (bracketed : Bracketed (items.map (·.1)) tokens)
      (entries : ∀ i ∈ items, Means .entry i.1 i.2) :
      Means .value tokens (.list ((items.map (·.2)).map entryValue))
  | call (start rest : List Token) (head : String × Metadata Value)
      (arguments : List Value × NameTable Value) (isHead : Means .head start head)
      (areArguments : Means .arguments rest arguments) :
      Means .value (start ++ rest) (.call ⟨head.1, head.2, arguments.1, arguments.2⟩)
  | pair (key colon : Token) (isKey : key.kind = .name) (isColon : colon.kind = .colon)
      (tokens : List Token) (v : Value) (value : Means .value tokens v) :
      Means .pair (key :: colon :: tokens) (key.value, v)
  | plain (tokens : List Token) (v : Value) (value : Means .value tokens v) :
      Means .entry tokens (none, v)
  | keyed (tokens : List Token) (pair : String × Value) (isPair : Means .pair tokens pair) :
      Means .entry tokens (some pair.1, pair.2)
  | head (brace name comma : Token) (isBrace : brace.kind = .openBrace)
      (isName : name.kind = .atom ∨ name.kind = .name) (isComma : comma.kind = .comma)
      (items : List (List Token × String × Value)) (opening : Token) (tokens : List Token)
      (bracketed : Bracketed (items.map (·.1)) (opening :: tokens))
      (pairs : ∀ i ∈ items, Means .pair i.1 i.2) :
      Means .head (brace :: name :: comma :: opening :: tokens)
        (name.value, metadataOf opening (.ofList (items.map (·.2))))
  | arguments (items : List (List Token × Option String × Value)) (tokens : List Token)
      (list : ArgumentList (items.map (·.1)) tokens)
      (entries : ∀ i ∈ items, Means .entry i.1 i.2) :
      Means .arguments tokens (unkeyed (items.map (·.2)), keyed (items.map (·.2)))

/-! ## Meanings and phrases -/

/-- What means something is a phrase. -/
theorem Means.phrase {kind : PhraseKind} {tokens : List Token} {meaning : kind.Meaning}
    (means : Means kind tokens meaning) : Phrase NumberReadable kind tokens := by
  induction means with
  | integer t kind whole n number =>
    have notFractional : FractionReadable t := fun h => by rw [whole] at h; cases h
    exact .number t kind ⟨notFractional, fun _ => by rw [number]; rfl⟩
  | decimal t kind fractional x number =>
    have notWhole : WholeReadable t := fun h => by rw [fractional] at h; cases h
    exact .number t kind ⟨fun _ => by rw [number]; rfl, notWhole⟩
  | text t kind => exact .word t (.inl kind)
  | atom t kind => exact .word t (.inr (.inl kind))
  | word t kind => exact .word t (.inr (.inr kind))
  | member dot name isDot isName => exact .member dot name isDot isName
  | list items tokens bracketed _ ih => exact .list _ tokens bracketed (by simpa using ih)
  | call start rest _ _ _ _ ih ih' => exact .call start rest ih ih'
  | pair key colon isKey isColon tokens _ _ ih => exact .pair key colon isKey isColon tokens ih
  | plain tokens _ _ ih => exact .plain tokens ih
  | keyed tokens _ _ ih => exact .keyed tokens ih
  | head brace name comma isBrace isName isComma items opening tokens bracketed _ ih =>
    exact .head brace name comma isBrace isName isComma _ _ bracketed (by simpa using ih)
  | arguments items tokens list _ ih => exact .arguments _ tokens list (by simpa using ih)

/-- Items that each mean something, beside what they mean. -/
theorem exists_items {kind : PhraseKind} {items : List (List Token)}
    (each : ∀ item ∈ items, ∃ meaning, Means kind item meaning) :
    ∃ paired : List (List Token × kind.Meaning), paired.map (·.1) = items ∧
      ∀ i ∈ paired, Means kind i.1 i.2 := by
  induction items with
  | nil => exact ⟨[], rfl, nofun⟩
  | cons item items ih =>
    obtain ⟨meaning, first⟩ := each item List.mem_cons_self
    obtain ⟨paired, rfl, later⟩ :=
      ih fun other there => each other (List.mem_cons_of_mem item there)
    exact ⟨(item, meaning) :: paired, rfl, List.forall_mem_cons.2 ⟨first, later⟩⟩

/-- Every phrase with numbers that can be read means something. -/
theorem Phrase.exists_means {kind : PhraseKind} {tokens : List Token}
    (phrase : Phrase NumberReadable kind tokens) : ∃ meaning, Means kind tokens meaning := by
  induction phrase with
  | number t kind readable =>
    rcases fractional : isFractional t.value with _ | _
    · obtain ⟨n, number⟩ := Option.isSome_iff_exists.1 (readable.2 fractional)
      exact ⟨_, .integer t kind fractional n number⟩
    · obtain ⟨x, number⟩ := Option.isSome_iff_exists.1 (readable.1 fractional)
      exact ⟨_, .decimal t kind fractional x number⟩
  | word t kind =>
    rcases kind with kind | kind | kind
    · exact ⟨_, .text t kind⟩
    · exact ⟨_, .atom t kind⟩
    · exact ⟨_, .word t kind⟩
  | member dot name isDot isName => exact ⟨_, .member dot name isDot isName⟩
  | list items tokens bracketed _ ih =>
    obtain ⟨paired, rfl, entries⟩ := exists_items ih
    exact ⟨_, .list paired tokens bracketed entries⟩
  | call start rest _ _ ih ih' =>
    obtain ⟨head, isHead⟩ := ih
    obtain ⟨arguments, areArguments⟩ := ih'
    exact ⟨_, .call start rest head arguments isHead areArguments⟩
  | pair key colon isKey isColon tokens _ ih =>
    obtain ⟨v, value⟩ := ih
    exact ⟨_, .pair key colon isKey isColon tokens v value⟩
  | plain tokens _ ih =>
    obtain ⟨v, value⟩ := ih
    exact ⟨_, .plain tokens v value⟩
  | keyed tokens _ ih =>
    obtain ⟨pair, isPair⟩ := ih
    exact ⟨_, .keyed tokens pair isPair⟩
  | head brace name comma isBrace isName isComma items tokens bracketed _ ih =>
    obtain ⟨paired, rfl, pairs⟩ := exists_items ih
    obtain ⟨opening, rest, rfl⟩ := List.exists_cons_of_ne_nil bracketed.ne_nil
    exact ⟨_, .head brace name comma isBrace isName isComma paired opening rest bracketed pairs⟩
  | arguments items tokens list _ ih =>
    obtain ⟨paired, rfl, entries⟩ := exists_items ih
    exact ⟨_, .arguments paired tokens list entries⟩

end ViewModifiers.Stylesheet
