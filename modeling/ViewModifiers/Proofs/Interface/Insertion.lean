import ViewModifiers.Proofs.Interface.Bodies

/-!
# Declarations that are not kept, among those that are

A body is read member by member (`Body.step`). A declaration that is not kept is skipped, and so is
what stands behind the type of a property. Skipping may go on into a declaration behind it that is
not kept either, but no further than through its modifiers: what is left is a body with the same
members (`Body.exists_passed`). So the members of a body are the same with and without the
declarations among them that are not kept (`members_of_inserted`).
-/

namespace ViewModifiers.Interface

open Source TokenReader DeclarationReader

variable {ts us : List Token} {m : Members} {p : Position} {body : TokenReader Members}

/-! ## What bodies begin with -/

theorem ne_nil_of_opensMember (opens : opensMember (nextKind ts) = true) : ts ≠ [] := by
  rintro rfl
  cases opens

theorem OpensScope.opensMember {tokens tokens' : List Token} {type : DeclaredType}
    (opens : OpensScope tokens type) (same : shape tokens = shape tokens') (us : List Token) :
    Interface.opensMember (nextKind (tokens' ++ us)) = true := by
  obtain ⟨_, heading', _, _, rest, _, heads, sameHeading, rfl, -, -, -, -, begins⟩ :=
    opens.exists_parts same
  rw [List.append_assoc]
  exact heads.opensMember sameHeading (begins us)

theorem OpensScope.endsItem {tokens tokens' : List Token} {type : DeclaredType}
    (opens : OpensScope tokens type) (same : shape tokens = shape tokens') (us : List Token) :
    EndsItem (tokens' ++ us) := by
  obtain ⟨_, heading', _, _, rest, _, heads, sameHeading, rfl, -, -, -, -, begins⟩ :=
    opens.exists_parts same
  rw [List.append_assoc]
  exact heads.endsItem sameHeading (begins us)

namespace Body

/-- A declaration in front of a body is over where the body begins. -/
theorem endsItem_nextKind (isBody : Body ts m) (ends : EndsItem us) :
    endsItem (nextKind (ts ++ us)) = true := by
  have ofMember {kind : TokenKind} (opens : opensMember kind = true) : endsItem kind = true :=
    (Bool.and_eq_true_iff.1 opens).1
  cases isBody with
  | nil => exact ends.kind
  | separator semicolon =>
    rw [List.cons_append, nextKind_cons, semicolon]
    rfl
  | member declares same =>
    rw [List.append_assoc]
    exact ofMember (declares.opensMember same _)
  | scope opens same =>
    rw [List.append_assoc]
    exact ofMember (opens.opensMember same _)
  | skipped unsupported =>
    rw [List.append_assoc]
    exact ofMember (unsupported.opensMember _)

/-- Skipping in front of a body leaves a body with the same members. -/
theorem exists_passed (isBody : Body ts m) (ends : EndsItem us) (p : Position) :
    ∃ ts', Body ts' m ∧ ts'.length ≤ ts.length ∧
      Steps passStep false ⟨ts ++ us, p⟩ false ⟨ts' ++ us, p⟩ ∧ EndsItem (ts' ++ us) := by
  have stops (here : EndsItem (ts ++ us)) : ∃ ts', Body ts' m ∧ ts'.length ≤ ts.length ∧
      Steps passStep false ⟨ts ++ us, p⟩ false ⟨ts' ++ us, p⟩ ∧ EndsItem (ts' ++ us) :=
    ⟨ts, isBody, Nat.le_refl _, .refl _ _, here⟩
  cases isBody with
  | nil => exact stops ends
  | separator semicolon => exact stops (.begins (by rw [beginsDeclaration, semicolon]))
  | member declares same => exact stops (by rw [List.append_assoc]; exact declares.endsItem same _)
  | scope opens same => exact stops (by rw [List.append_assoc]; exact opens.endsItem same _)
  | skipped unsupported later =>
    obtain ⟨tokens', unsupported', shorter, steps, ends'⟩ := unsupported.exists_passed (_ ++ us) p
    refine ⟨_, .skipped unsupported' later, ?_, ?_, ?_⟩
    · rw [List.length_append, List.length_append]
      exact Nat.add_le_add_right shorter _
    · rw [List.append_assoc, List.append_assoc]
      exact steps
    · rw [List.append_assoc]
      exact ends'

end Body

/-! ## Reading bodies -/

/-- A reader reads tokens as a body with certain members, up to the token that closes it. -/
def ReadsBody (r : TokenReader Members) (closer : TokenKind) (ts : List Token) (m : Members) :
    Prop :=
  ∀ us p, EndsItem us → nextKind us = closer →
    ∃ m', r.run' ⟨ts ++ us, p⟩ = (.ok m', ⟨us, p⟩) ∧ m'.unplaced = m.unplaced

/-- A reader of bodies reads all bodies with less than a number of tokens. -/
def ReadsBodiesBelow (body : TokenReader Members) (n : Nat) : Prop :=
  ∀ ts m, Body ts m → ts.length < n → ReadsBody body .closeBrace ts m

theorem Members.unplaced_append (m n : Members) :
    (m.append n).unplaced = m.unplaced.append n.unplaced := by
  simp only [append, unplaced, DeclaredType.unplacedTypes_eq_map, List.map_append]

theorem DeclaredType.unplaced_holding {type : DeclaredType} {m m' : Members} {q : Position}
    (alike : m'.unplaced = m.unplaced) :
    unplaced { type.holding m' with position := q } = unplaced (type.holding m) := by
  obtain ⟨kind, name, inherits, attributes, modifiers, availability, _, _, _, _, position⟩ := type
  rw [holding, holding, unplaced_eq, unplaced_eq, alike]

section Reading

variable {terminator : TokenKind} {limit : Nat}

/-- A declaration is read and put in front of the members found before. -/
theorem run'_memberStep_of_opensMember {found found' : Members} {s : TokenStream}
    (closer : terminator ∈ [.closeBrace, .endOfFile]) (opens : opensMember (nextKind ts) = true)
    (read : (declaration body found).run' ⟨ts, p⟩ = (.ok found', s)) :
    (memberStep body terminator found).run' ⟨ts, p⟩ = (.ok (.inl found'), s) := by
  have other {kind : TokenKind} (noMember : opensMember kind = false) : nextKind ts ≠ kind := by
    rintro rfl
    rw [opens] at noMember
    cases noMember
  have noMember : opensMember terminator = false :=
    (by decide : ∀ k ∈ [TokenKind.closeBrace, .endOfFile], opensMember k = false) _ closer
  rw [memberStep, run'_bind_of_ok (run'_current _), kind_current, decide_eq_false (other noMember),
    decide_eq_false (other rfl), Bool.or_self, if_neg Bool.false_ne_true, if_neg (other rfl),
    if_neg (other rfl), run'_bind_of_ok read]
  rfl

theorem run'_memberStep_of_semicolon {t : Token} (semicolon : t.kind = .semicolon)
    (closer : terminator ∈ [.closeBrace, .endOfFile]) (found : Members) :
    (memberStep body terminator found).run' ⟨t :: ts, p⟩ = (.ok (.inl found), ⟨ts, p⟩) := by
  have open_ : TokenKind.semicolon ≠ terminator :=
    (by decide : ∀ k ∈ [TokenKind.closeBrace, .endOfFile], TokenKind.semicolon ≠ k) _ closer
  rw [memberStep, run'_bind_of_ok (run'_current _), TokenStream.current_cons, semicolon,
    decide_eq_false open_]
  rfl

/-- A step takes some tokens from the front and leaves a body; what it finds and the members of that
body are certain members. -/
def Advances (body : TokenReader Members) (terminator : TokenKind) (found : Members)
    (ts us : List Token) (p : Position) (m : Members) : Prop :=
  ∃ ts' head tail, Body ts' tail ∧ ts'.length < ts.length ∧
    (memberStep body terminator found).run' ⟨ts ++ us, p⟩ =
      (.ok (.inl (found.adding head)), ⟨ts' ++ us, p⟩) ∧ (head.append tail).unplaced = m.unplaced

/-- A declaration in front of a body is taken, and it may be that more is. -/
theorem advances_of_read {tokens ts' : List Token} {found head tail : Members}
    (closer : terminator ∈ [.closeBrace, .endOfFile])
    (opens : ∀ vs, opensMember (nextKind (tokens ++ vs)) = true)
    (read : (declaration body found).run' ⟨tokens ++ (ts ++ us), p⟩ =
      (.ok (found.adding head), ⟨ts' ++ us, p⟩))
    (later : Body ts' tail) (le : ts'.length ≤ ts.length)
    (whole : (head.append tail).unplaced = m.unplaced) :
    Advances body terminator found (tokens ++ ts) us p m := by
  have some : tokens ≠ [] := ne_nil_of_opensMember (List.append_nil tokens ▸ opens [])
  have step := run'_memberStep_of_opensMember closer (opens _) read
  refine ⟨ts', head, tail, later, ?_, List.append_assoc tokens ts us ▸ step, whole⟩
  rw [List.length_append]
  have := List.length_pos_of_ne_nil some
  omega

/-- A step takes the first declaration of a body, and leaves a body with the members behind it. -/
theorem Body.step (bodies : ReadsBodiesBelow body limit) (isBody : Body ts m)
    (small : ts.length ≤ limit) (closer : terminator ∈ [.closeBrace, .endOfFile])
    (ends : EndsItem us) (p : Position) (found : Members) :
    ts = [] ∧ m = .empty ∨ Advances body terminator found ts us p m := by
  cases isBody with
  | nil => exact .inl ⟨rfl, rfl⟩
  | @separator t ts m semicolon later =>
    exact .inr ⟨ts, .empty, m, later, Nat.lt_succ_self _,
      run'_memberStep_of_semicolon semicolon closer found, rfl⟩
  | @member tokens tokens' ts m n declares same later =>
    obtain ⟨ts₁, later₁, le, steps, ends₁⟩ := later.exists_passed ends p
    obtain ⟨vs, m', left, run, alike⟩ := declares.exists_run' same (later.endsItem_nextKind ends)
      steps ends₁ body found
    have opens := declares.opensMember same
    have whole : (m'.append n).unplaced = (m.append n).unplaced := by
      rw [Members.unplaced_append, Members.unplaced_append, alike]
    right
    rcases left with rfl | rfl
    · exact advances_of_read closer opens run later (Nat.le_refl _) whole
    · exact advances_of_read closer opens run later₁ le whole
  | @scope tokens tokens' inner ts opening closing type m n opens same isOpening isClosing inside
      later =>
    have few : inner.length < limit := by
      simp only [List.length_append, List.length_cons] at small
      omega
    obtain ⟨m', read, alike⟩ :=
      bodies inner m inside few (closing :: (ts ++ us)) p (.brace isClosing) isClosing
    obtain ⟨q, run⟩ := opens.exists_run' same isOpening isClosing read found
    have behind : opening :: (inner ++ closing :: (ts ++ us)) =
        opening :: (inner ++ closing :: ts) ++ us := by
      rw [List.cons_append, List.append_assoc, List.cons_append]
    rw [behind] at run
    refine .inr (advances_of_read closer (opens.opensMember same) run later ?_ ?_)
    · rw [List.length_cons, List.length_append, List.length_cons]
      omega
    · rw [Members.unplaced_append, Members.unplaced_append]
      refine congrArg (fun l => Members.append l n.unplaced) ?_
      simp only [Members.unplaced, DeclaredType.unplacedTypes, DeclaredType.unplaced_holding alike]
  | @skipped tokens ts m unsupported later =>
    obtain ⟨ts₁, later₁, le, steps, ends₁⟩ := later.exists_passed ends p
    have run : (declaration body found).run' ⟨tokens ++ (ts ++ us), p⟩ =
        (.ok (found.adding .empty), ⟨ts₁ ++ us, p⟩) :=
      unsupported.run'_declaration steps ends₁ body found
    exact .inr (advances_of_read closer unsupported.opensMember run later₁ le rfl)

/-- A body is read member by member. -/
theorem Body.exists_steps (bodies : ReadsBodiesBelow body limit) (isBody : Body ts m)
    (small : ts.length ≤ limit) (closer : terminator ∈ [.closeBrace, .endOfFile])
    (ends : EndsItem us) (p : Position) (found : Members) :
    ∃ l, Steps (memberStep body terminator) found ⟨ts ++ us, p⟩ l ⟨us, p⟩ ∧
      l.reversed.unplaced = found.reversed.unplaced.append m.unplaced := by
  -- by the number of tokens: what a step leaves need not be a part of the body
  induction length : ts.length using Nat.strongRecOn generalizing ts m found with
  | ind k ih =>
    subst length
    rcases isBody.step bodies small closer ends p found with
      ⟨rfl, rfl⟩ | ⟨ts', head, tail, later, fewer, first, whole⟩
    · exact ⟨found, .refl _ _, (Members.append_empty _).symm⟩
    · obtain ⟨l, steps, members⟩ := ih _ fewer later (by omega) (found.adding head) rfl
      refine ⟨l, .next first ?_ steps, ?_⟩
      · rw [List.length_append, List.length_append]
        omega
      · rw [members, Members.unplaced_reversed_adding, Members.append_assoc,
          ← Members.unplaced_append, whole]

/-- A body is read if those nested in it are. -/
theorem readsBody_membersWith (bodies : ReadsBodiesBelow body limit) (isBody : Body ts m)
    (small : ts.length ≤ limit) (closer : terminator ∈ [.closeBrace, .endOfFile]) :
    ReadsBody (membersWith body terminator) terminator ts m := by
  intro us p ends closes
  obtain ⟨l, steps, members⟩ := isBody.exists_steps bodies small closer ends p .empty
  have last : (memberStep body terminator l).run' ⟨us, p⟩ = (.ok (.inr l.reversed), ⟨us, p⟩) := by
    rw [memberStep, run'_bind_of_ok (run'_current _), kind_current, decide_eq_true closes]
    rfl
  refine ⟨l.reversed, ?_, members.trans (Members.empty_append _)⟩
  rw [membersWith_eq]
  exact run'_iterate steps last

/-- Bodies nested as deep as there are tokens are read. -/
theorem readsBody_membersFrom (measure : List Token) (isBody : Body ts m)
    (small : ts.length ≤ measure.length) (closer : terminator ∈ [.closeBrace, .endOfFile]) :
    ReadsBody (membersFrom measure terminator) terminator ts m := by
  induction measure generalizing ts m terminator with
  | nil =>
    -- no body is nested where no token is
    have none : ReadsBodiesBelow (fail .nestedTooDeeply) 0 := fun _ _ _ fewer =>
      absurd fewer (Nat.not_lt_zero _)
    exact readsBody_membersWith none isBody small closer
  | cons t measure ih =>
    have bodies : ReadsBodiesBelow (membersFrom measure .closeBrace) (measure.length + 1) :=
      fun _ _ inside fewer => ih inside (Nat.le_of_lt_succ fewer) List.mem_cons_self
    exact readsBody_membersWith bodies isBody small closer

theorem readsBody_members (isBody : Body ts m) (closer : terminator ∈ [.closeBrace, .endOfFile]) :
    ReadsBody (members terminator) terminator ts m := by
  intro us p ends closes
  have small : ts.length ≤ (ts ++ us).length := by
    rw [List.length_append]
    omega
  obtain ⟨m', read, alike⟩ := readsBody_membersFrom _ isBody small closer us p ends closes
  exact ⟨m', (run'_bind_of_ok (run'_get _)).trans read, alike⟩

end Reading

/-! ## Insertions -/

/-- A body of certain members, and a body with these members and with declarations among them that
are not kept, wherever either body stands. -/
inductive Inserted : List Token → List Token → Members → Prop
  | nil : Inserted [] [] .empty
  | separator {t t' : Token} {ts us : List Token} {m : Members} (semicolon : t.kind = .semicolon)
      (semicolon' : t'.kind = .semicolon) (later : Inserted ts us m) :
      Inserted (t :: ts) (t' :: us) m
  | member {tokens tokens' ts us : List Token} {m n : Members} (declares : Declares tokens m)
      (same : shape tokens = shape tokens') (later : Inserted ts us n) :
      Inserted (tokens ++ ts) (tokens' ++ us) (m.append n)
  | scope {tokens tokens' inner inner' ts us : List Token}
      {opening opening' closing closing' : Token} {type : DeclaredType} {m n : Members}
      (opens : OpensScope tokens type) (same : shape tokens = shape tokens')
      (isOpening : opening.kind = .openBrace) (isOpening' : opening'.kind = .openBrace)
      (isClosing : closing.kind = .closeBrace) (isClosing' : closing'.kind = .closeBrace)
      (inside : Inserted inner inner' m) (later : Inserted ts us n) :
      Inserted (tokens ++ opening :: (inner ++ closing :: ts))
        (tokens' ++ opening' :: (inner' ++ closing' :: us))
        (Members.append ⟨[], [type.holding m], [], [], []⟩ n)
  | inserted {tokens ts us : List Token} {m : Members} (unsupported : Unsupported tokens)
      (later : Inserted ts us m) : Inserted ts (tokens ++ us) m

section Inserted

variable {plain full : List Token}

theorem Inserted.bodies (inserted : Inserted plain full m) : Body plain m ∧ Body full m := by
  induction inserted with
  | nil => exact ⟨.nil, .nil⟩
  | separator semicolon semicolon' _ ih =>
    exact ⟨.separator semicolon ih.1, .separator semicolon' ih.2⟩
  | member declares same _ ih => exact ⟨.member declares rfl ih.1, .member declares same ih.2⟩
  | scope opens same isOpening isOpening' isClosing isClosing' _ _ ihInside ihLater =>
    exact ⟨.scope opens rfl isOpening isClosing ihInside.1 ihLater.1,
      .scope opens same isOpening' isClosing' ihInside.2 ihLater.2⟩
  | inserted unsupported _ ih => exact ⟨ih.1, .skipped unsupported ih.2⟩

/-- Declarations that are not kept do not disturb their neighbours: with and without them, a body is
read up to its closing brace, and its members are the same but for where they stand. They are those
that its parts declare. -/
theorem members_of_inserted (inserted : Inserted plain full m) {closing closing' : Token}
    (isClosing : closing.kind = .closeBrace) (isClosing' : closing'.kind = .closeBrace)
    (us us' : List Token) (p p' : Position) :
    ∃ n n', (members .closeBrace).run' ⟨plain ++ closing :: us, p⟩ =
        (.ok n, ⟨closing :: us, p⟩) ∧
      (members .closeBrace).run' ⟨full ++ closing' :: us', p'⟩ =
        (.ok n', ⟨closing' :: us', p'⟩) ∧
      n.unplaced = n'.unplaced ∧ n.unplaced = m.unplaced := by
  obtain ⟨plainBody, fullBody⟩ := inserted.bodies
  have closer : TokenKind.closeBrace ∈ [.closeBrace, .endOfFile] := List.mem_cons_self
  obtain ⟨n, read, alike⟩ :=
    readsBody_members plainBody closer (closing :: us) p (.brace isClosing) isClosing
  obtain ⟨n', read', alike'⟩ :=
    readsBody_members fullBody closer (closing' :: us') p' (.brace isClosing') isClosing'
  exact ⟨n, n', read, read', alike.trans alike'.symm, alike⟩

/-- A case of an enum in a line. -/
def plainCase (line : Nat) : List Token :=
  [⟨.keyword .enumCase, "case", ⟨line, 3⟩⟩, ⟨.identifier, "plain", ⟨line, 8⟩⟩]

/-- A function without parameters in a line. -/
def resetFunction (line : Nat) : List Token :=
  [⟨.keyword .function, "func", ⟨line, 3⟩⟩, ⟨.identifier, "reset", ⟨line, 8⟩⟩,
    ⟨.openParen, "(", ⟨line, 13⟩⟩, ⟨.closeParen, ")", ⟨line, 14⟩⟩]

/-- Another name for a type. -/
def rawAlias : List Token :=
  [⟨.keyword .typeAlias, "typealias", ⟨2, 3⟩⟩, ⟨.identifier, "Raw", ⟨2, 13⟩⟩,
    ⟨.equals, "=", ⟨2, 17⟩⟩, ⟨.identifier, "Int", ⟨2, 19⟩⟩]

/-- An initializer with an attribute and a modifier. -/
def rawInitializer : List Token :=
  [⟨.atSign, "@", ⟨4, 3⟩⟩, ⟨.identifier, "inlinable", ⟨4, 4⟩⟩, ⟨.identifier, "public", ⟨4, 14⟩⟩,
    ⟨.keyword .initializer, "init", ⟨4, 21⟩⟩, ⟨.openParen, "(", ⟨4, 25⟩⟩,
    ⟨.identifier, "raw", ⟨4, 26⟩⟩, ⟨.colon, ":", ⟨4, 29⟩⟩, ⟨.identifier, "Raw", ⟨4, 31⟩⟩,
    ⟨.closeParen, ")", ⟨4, 34⟩⟩]

/-- A brace that closes a body. -/
def closingBrace (line : Nat) : Token := ⟨.closeBrace, "\x7d", ⟨line, 1⟩⟩

/-- The members of a body with these in its second and its third line. -/
def plainResetMembers : Members :=
  ⟨[], [], [⟨"reset", [], [], none, [], [], .always, ⟨3, 3⟩⟩],
    [⟨"plain", [], .always, ⟨2, 8⟩⟩], []⟩

theorem members_of_inserted_style :
    Inserted (plainCase 2 ++ resetFunction 3)
        (rawAlias ++ (plainCase 3 ++ (rawInitializer ++ resetFunction 5))) plainResetMembers ∧
      ∃ n n', (members .closeBrace).run'
          ⟨plainCase 2 ++ resetFunction 3 ++ [closingBrace 4], ⟨5, 1⟩⟩ =
            (.ok n, ⟨[closingBrace 4], ⟨5, 1⟩⟩) ∧
        (members .closeBrace).run'
          ⟨rawAlias ++ (plainCase 3 ++ (rawInitializer ++ resetFunction 5)) ++ [closingBrace 6],
            ⟨7, 1⟩⟩ = (.ok n', ⟨[closingBrace 6], ⟨7, 1⟩⟩) ∧
        n.unplaced = n'.unplaced ∧ n.unplaced = plainResetMembers.unplaced := by
  have noSigns : EndsWithoutDot [] := fun before t none => by simp at none
  have noAttributes : Takes readAttributes [] ([], .always) :=
    ⟨closingBrace 1, .start, .start, rfl, rfl⟩
  have noHeading : Heads [] [] [] .always := @Heads.mk [] [] _ _ noAttributes noSigns nofun
  have isCase : Declares (plainCase 2) ⟨[], [], [], [⟨"plain", [], .always, ⟨2, 8⟩⟩], []⟩ :=
    @Declares.enumCases [] _ _ _ _ _ noHeading ⟨closingBrace 1, .start, .start, rfl, rfl⟩
      (endsWithoutDot_of_getLast? rfl nofun)
  have isFunction : Declares (resetFunction 3)
      ⟨[], [], [⟨"reset", [], [], none, [], [], .always, ⟨3, 3⟩⟩], [], []⟩ :=
    @Declares.function [] _ _ _ _ _ noHeading ⟨closingBrace 1, .start, .start, rfl, rfl⟩
      (endsWithoutDot_of_getLast? rfl nofun) (endsFirmly_of_getLast? rfl rfl)
  have isAlias : Unsupported rawAlias :=
    @Unsupported.mk [] [] _ _ .typeAlias _ _ noAttributes noSigns .nil rfl (by decide)
      (.plain rfl rfl nofun rfl (by decide) (.plain rfl rfl nofun rfl rfl
        (.plain rfl rfl nofun rfl (by decide) .nil)))
  have isInitializer : Unsupported rawInitializer := by
    have inlinable : Takes readAttributes (rawInitializer.take 2)
        ([⟨"inlinable", none⟩], .always) := ⟨closingBrace 1, .start, .start, rfl, rfl⟩
    have modifying : Modifying [⟨.identifier, "public", ⟨4, 14⟩⟩] ["public"] :=
      .word (.inl (by decide)) .nil
    have parameters : Quiet (rawInitializer.drop 4) :=
      @Quiet.group ⟨.openParen, "(", ⟨4, 25⟩⟩ ⟨.closeParen, ")", ⟨4, 34⟩⟩
        [⟨.identifier, "raw", ⟨4, 26⟩⟩, ⟨.colon, ":", ⟨4, 29⟩⟩, ⟨.identifier, "Raw", ⟨4, 31⟩⟩] []
        rfl (.plain rfl rfl (.plain rfl rfl (.plain rfl rfl .nil))) .nil
    exact .mk inlinable (endsWithoutDot_of_getLast? rfl nofun) modifying
      (rfl : (⟨.keyword .initializer, "init", ⟨4, 21⟩⟩ : Token).kind = _) (by decide) parameters
  have last : Inserted (resetFunction 3) (resetFunction 5)
      ⟨[], [], [⟨"reset", [], [], none, [], [], .always, ⟨3, 3⟩⟩], [], []⟩ :=
    .member isFunction (rfl : _ = shape (resetFunction 5)) .nil
  have inserted : Inserted (plainCase 2 ++ resetFunction 3)
      (rawAlias ++ (plainCase 3 ++ (rawInitializer ++ resetFunction 5))) plainResetMembers :=
    .inserted isAlias (.member isCase (rfl : _ = shape (plainCase 3))
      (.inserted isInitializer last))
  exact ⟨inserted, members_of_inserted inserted rfl rfl [] [] ⟨5, 1⟩ ⟨7, 1⟩⟩

/-- The same declarations come from a whole file with and without those that are not kept, on the
level of the file as well as in the bodies nested in it. -/
theorem readSourceFile_of_inserted (inserted : Inserted plain full m) (p p' : Position) :
    ∃ f f', readSourceFile.run' ⟨plain, p⟩ = (.ok f, ⟨[], p⟩) ∧
      readSourceFile.run' ⟨full, p'⟩ = (.ok f', ⟨[], p'⟩) ∧ f.unplaced = f'.unplaced := by
  obtain ⟨plainBody, fullBody⟩ := inserted.bodies
  have closer : TokenKind.endOfFile ∈ [.closeBrace, .endOfFile] := by decide
  obtain ⟨n, read, alike⟩ := readsBody_members plainBody closer [] p .finish rfl
  obtain ⟨n', read', alike'⟩ := readsBody_members fullBody closer [] p' .finish rfl
  rw [List.append_nil] at read read'
  refine ⟨_, _, (run'_bind_of_ok read).trans rfl, (run'_bind_of_ok read').trans rfl, ?_⟩
  have same : n.unplaced = n'.unplaced := alike.trans alike'.symm
  exact congrArg (fun l : Members => (⟨l.imports, l.types, l.functions⟩ : InterfaceFile)) same

end Inserted

end ViewModifiers.Interface
