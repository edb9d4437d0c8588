import ViewModifiers.Proofs.Stylesheet.Grammar

/-!
# How deep tokens stand

Brackets and braces enclose tokens. Counting those that are open tells where a call ends: `Closes`
says of tokens that the last of them closes the outermost of the brackets and braces that are open,
and that none before it does. What may be read is balanced (`Phrase.balanced`), so a call ends with
its own brace (`isCall_of_phrases`).
-/

namespace ViewModifiers.Stylesheet

/-- How many brackets and braces are open behind a token, of those that were open before it and its
own. -/
def TokenKind.depthBehind (kind : TokenKind) (n : Nat) : Nat :=
  match kind with
  | .openBrace | .openBracket => n + 1
  | .closeBrace | .closeBracket => n - 1
  | _ => n

/-- Tokens close a number of brackets and braces, the outermost with the last token. -/
def Closes : Nat → List Token → Prop
  | 0, ts => ts = []
  | _ + 1, [] => False
  | n + 1, t :: ts => Closes (t.kind.depthBehind (n + 1)) ts

variable {n : Nat} {ts us : List Token} {t : Token}

theorem closes_zero_iff : Closes 0 ts ↔ ts = [] := by
  rw [Closes]

theorem closes_cons (n : Nat) (t : Token) (ts : List Token) :
    Closes (n + 1) (t :: ts) ↔ Closes (t.kind.depthBehind (n + 1)) ts := by
  rw [Closes]

/-- Where something is open, there is a token that goes on. -/
theorem Closes.exists_cons (closes : Closes (n + 1) ts) :
    ∃ t us, ts = t :: us ∧ Closes (t.kind.depthBehind (n + 1)) us := by
  cases ts with
  | nil => exact closes.elim
  | cons t us => exact ⟨t, us, rfl, (closes_cons n t us).1 closes⟩

/-! ## Balanced tokens -/

/-- Tokens that may stand anywhere inside brackets and braces and leave as many open. -/
def Balanced (ts : List Token) : Prop :=
  ∀ n us, Closes (n + 1) us → Closes (n + 1) (ts ++ us)

theorem balanced_nil : Balanced [] := fun _ _ closes => closes

theorem Balanced.append (first : Balanced ts) (second : Balanced us) : Balanced (ts ++ us) := by
  intro n more closes
  rw [List.append_assoc]
  exact first n _ (second n more closes)

/-- A token that is neither a bracket nor a brace. -/
theorem balanced_cons (level : ∀ n, t.kind.depthBehind n = n) (balanced : Balanced ts) :
    Balanced (t :: ts) := by
  intro n us closes
  rw [List.cons_append, closes_cons, level]
  exact balanced n us closes

theorem Separated.balanced {items : List (List Token)} (separated : Separated items ts)
    (each : ∀ item ∈ items, Balanced item) : Balanced ts := by
  induction separated with
  | none => exact balanced_nil
  | last item => exact each item List.mem_cons_self
  | more item comma isComma items tokens _ ih =>
    obtain ⟨first, later⟩ := List.forall_mem_cons.1 each
    have level (n : Nat) : comma.kind.depthBehind n = n := by
      rw [isComma]
      rfl
    exact first.append (balanced_cons level (ih later))

theorem Bracketed.balanced {items : List (List Token)} (bracketed : Bracketed items ts)
    (each : ∀ item ∈ items, Balanced item) : Balanced ts := by
  obtain ⟨opening, closing, isOpening, isClosing, inner, separated⟩ := bracketed
  intro n us closes
  rw [List.cons_append, List.cons_append, closes_cons, isOpening, List.append_assoc]
  apply separated.balanced each
  rw [List.singleton_append, closes_cons, isClosing]
  exact closes

/-! ## Phrases -/

/-- The tokens of a phrase leave as many brackets and braces open as before; but the head of a call
opens a brace, and its arguments close it. -/
def PhraseKind.Leaves (kind : PhraseKind) (ts : List Token) : Prop :=
  match kind with
  | .value | .pair | .entry => Balanced ts
  | .head => ∃ brace body, brace.kind = .openBrace ∧ ts = brace :: body ∧ Balanced body
  | .arguments => ∀ n us, Closes n us → Closes (n + 1) (ts ++ us)

theorem ArgumentList.leaves {items : List (List Token)} (list : ArgumentList items ts)
    (each : ∀ item ∈ items, Balanced item) : PhraseKind.Leaves .arguments ts := by
  have closed {brace : Token} (isBrace : brace.kind = .closeBrace) (n : Nat) (us : List Token)
      (closes : Closes n us) : Closes (n + 1) (brace :: us) := by
    rw [closes_cons, isBrace]
    exact closes
  intro n us closes
  cases list with
  | leftOut brace isBrace => exact closed isBrace n us closes
  | listed comma brace isComma isBrace _ tokens bracketed =>
    rw [List.cons_append, List.cons_append, closes_cons, isComma, List.append_assoc]
    exact bracketed.balanced each n _ (closed isBrace n us closes)

theorem Phrase.leaves {IsNumber : Token → Prop} {kind : PhraseKind}
    (phrase : Phrase IsNumber kind ts) : kind.Leaves ts := by
  have single {t : Token} (level : ∀ n, t.kind.depthBehind n = n) : Balanced [t] :=
    balanced_cons level balanced_nil
  induction phrase with
  | number t isNumber _ => exact single fun n => by rw [isNumber]; rfl
  | word t isWord =>
    refine single fun n => ?_
    rcases isWord with isString | isAtom | isName
    · rw [isString]; rfl
    · rw [isAtom]; rfl
    · rw [isName]; rfl
  | member dot name isDot isName =>
    refine balanced_cons (fun n => ?_) (single fun n => ?_)
    · rw [isDot]; rfl
    · rw [isName]; rfl
  | list items tokens bracketed _ ih => exact bracketed.balanced ih
  | call start rest _ _ head arguments =>
    obtain ⟨brace, body, isBrace, rfl, balanced⟩ := head
    intro n us closes
    rw [List.append_assoc, List.cons_append, closes_cons, isBrace]
    exact balanced _ _ (arguments _ us closes)
  | pair key colon isKey isColon tokens _ ih =>
    refine balanced_cons (fun n => ?_) (balanced_cons (fun n => ?_) ih)
    · rw [isKey]; rfl
    · rw [isColon]; rfl
  | plain tokens _ ih => exact ih
  | keyed tokens _ ih => exact ih
  | head brace name comma isBrace isName isComma items tokens bracketed _ ih =>
    refine ⟨brace, name :: comma :: tokens, isBrace, rfl, ?_⟩
    refine balanced_cons (fun n => ?_) (balanced_cons (fun n => ?_) (bracketed.balanced ih))
    · rcases isName with isAtom | isName
      · rw [isAtom]; rfl
      · rw [isName]; rfl
    · rw [isComma]; rfl
  | arguments items tokens list _ ih => exact list.leaves ih

/-- Tokens that open a brace and close it with the last one. -/
def IsCall (ts : List Token) : Prop :=
  ∃ brace body, brace.kind = .openBrace ∧ ts = brace :: body ∧ Closes 1 body

/-- The tokens of a call close its brace with the last one. -/
theorem isCall_of_phrases {IsNumber IsNumber' : Token → Prop} {start rest : List Token}
    (head : Phrase IsNumber .head start) (arguments : Phrase IsNumber' .arguments rest) :
    IsCall (start ++ rest) := by
  obtain ⟨brace, body, isBrace, rfl, balanced⟩ := head.leaves
  refine ⟨brace, body ++ rest, isBrace, rfl, balanced 0 rest ?_⟩
  have last := arguments.leaves 0 [] (closes_zero_iff.2 rfl)
  rwa [List.append_nil] at last

/-- Only a closing bracket or brace leaves nothing open. -/
theorem TokenKind.isClosing_of_depthBehind {kind : TokenKind}
    (level : kind.depthBehind (n + 1) = 0) : kind = .closeBracket ∨ kind = .closeBrace := by
  cases kind with
  | closeBracket => exact .inl rfl
  | closeBrace => exact .inr rfl
  | _ => exact absurd level (Nat.succ_ne_zero _)

/-- The last token that closes something is a closing bracket or brace. -/
theorem Closes.exists_last (closes : Closes (n + 1) ts) :
    ∃ before last, ts = before ++ [last] ∧
      (last.kind = .closeBracket ∨ last.kind = .closeBrace) := by
  induction ts generalizing n with
  | nil => exact closes.elim
  | cons t us ih =>
    rw [closes_cons] at closes
    cases level : t.kind.depthBehind (n + 1) with
    | zero =>
      rw [level] at closes
      obtain rfl := closes_zero_iff.1 closes
      exact ⟨[], t, rfl, TokenKind.isClosing_of_depthBehind level⟩
    | succ m =>
      rw [level] at closes
      obtain ⟨before, last, rfl, isLast⟩ := ih closes
      exact ⟨t :: before, last, rfl, isLast⟩

end ViewModifiers.Stylesheet
