import ViewModifiers.Proofs.Interface.Brackets
import ViewModifiers.Proofs.Interface.Merging
import ViewModifiers.Proofs.Interface.TypeReading
import ViewModifiers.Proofs.Interface.Written
import ViewModifiers.Proofs.Text.Blank

/-!
# Headings read back

What stands in front of a declaration is read back up to the word that begins it: the attributes
with the availability that they give, and the modifiers. The arguments of an attribute for
availability are a group of tokens without brackets, which is cut at its commas.
-/

namespace ViewModifiers.Interface

open Source Text TokenReader AttributeReader DeclarationReader

/-! ## The arguments of an availability attribute -/

theorem IsWord.toList_ne_nil {name : String} (isWord : IsWord name) : name.toList ≠ [] := by
  obtain ⟨c, cs, characters, -⟩ := isWord
  rw [characters]
  exact List.cons_ne_nil c cs

theorem IsWord.startsPlain {name : String} (isWord : IsWord name) : StartsPlain name.toList := by
  obtain ⟨c, cs, characters, -, first⟩ := isWord
  rw [characters]
  rintro _ ⟨⟩
  rcases blank : isBlank c
  · rfl
  · rcases first with ⟨starts, -⟩ | ⟨rfl, -⟩
    · simp only [isLetter_of_isBlank blank, Bool.false_or, Bool.or_eq_true,
        decide_eq_true_eq] at starts
      rcases starts with rfl | rfl <;> exact absurd blank (by decide)
    · exact absurd blank (by decide)

section Availability

variable {platforms : List (String × String)}

theorem kind_eq_of_isNameLike {kind : TokenKind} (isName : kind.isNameLike = true) :
    kind = .identifier ∨ ∃ word, kind = .keyword word := by
  cases kind with
  | identifier => exact .inl rfl
  | keyword word => exact .inr ⟨word, rfl⟩
  | _ => cases isName

theorem splitFrom_platform {kind : TokenKind} (isName : kind.isNameLike = true)
    (name version comma : String) (p q r : Position) (ts : List Token) :
    splitFrom 0 [] (⟨kind, name, p⟩ :: ⟨.number, version, q⟩ :: ⟨.comma, comma, r⟩ :: ts) =
      [⟨kind, name, p⟩, ⟨.number, version, q⟩] :: splitFrom 0 [] ts := by
  obtain rfl | ⟨word, rfl⟩ := kind_eq_of_isNameLike isName <;> rfl

/-- Taking note of platforms that are written one after the other. -/
theorem exists_splitFrom_platforms (platforms : List (String × String)) (p : Position)
    (ts : List Token) :
    ∃ items, splitFrom 0 [] (placed p (platforms.flatMap platformPieces) ++ ts) =
        items ++ splitFrom 0 [] ts ∧
      (∀ item ∈ items, item.length = 2) ∧ (items = [] ↔ platforms = []) ∧
      ∀ subject notes, items.foldl (noteItem subject) notes =
        { notes with
          platforms := notes.platforms ++ platforms.map fun p => ⟨p.1, some p.2⟩ } := by
  induction platforms generalizing p with
  | nil => exact ⟨[], rfl, nofun, by simp, fun _ notes => by simp⟩
  | cons platform platforms ih =>
    obtain ⟨items, splits, pairs, -, noted⟩ := ih (p.after (spell (platformPieces platform)))
    have isName := isNameLike_wordKind platform.1
    have notStar := wordKind_ne (by rfl : TokenKind.star.isNameLike = false) platform.1
    refine ⟨[⟨wordKind platform.1, platform.1, p⟩,
      ⟨.number, platform.2, (p.after platform.1.toList).next ' '⟩] :: items, ?_,
      List.forall_mem_cons.2 ⟨rfl, pairs⟩, by simp, fun subject notes => ?_⟩
    · rw [List.flatMap_cons, placed_append, List.append_assoc, List.cons_append, ← splits]
      exact splitFrom_platform isName _ _ _ _ _ _ _
    · have first (q : Position) : noteItem subject notes
          [⟨wordKind platform.1, platform.1, p⟩, ⟨.number, platform.2, q⟩] =
            { notes with platforms := notes.platforms ++ [⟨platform.1, some platform.2⟩] } := by
        simp [noteItem, notStar]
      rw [List.foldl_cons, first, noted, List.map_cons]
      simp

/-- Platforms with a star behind them are read as they are listed. -/
theorem availabilityOf_platforms (platforms : List (String × String)) (p q : Position) :
    availabilityOf (placed p (platforms.flatMap platformPieces) ++ [⟨.star, "*", q⟩]) =
      { Availability.always with platforms := platforms.map fun p => ⟨p.1, some p.2⟩ } := by
  obtain ⟨items, splits, pairs, filled, noted⟩ :=
    exists_splitFrom_platforms platforms p [⟨.star, "*", q⟩]
  have last : splitFrom 0 [] [⟨.star, "*", q⟩] = [[⟨.star, "*", q⟩]] := rfl
  rw [last] at splits
  rw [availabilityOf, itemsBetweenCommas, splits]
  cases items with
  | nil =>
    obtain rfl := filled.1 rfl
    simp [longFormPlatform?, givenText, Availability.always]
  | cons item items =>
    obtain ⟨a, b, rfl⟩ := List.length_eq_two.1 (pairs item List.mem_cons_self)
    have long : longFormPlatform? ([a, b] :: items ++ [[⟨.star, "*", q⟩]]) = none := rfl
    have starred (subject : String) (notes : Notes) :
        noteItem subject notes [⟨.star, "*", q⟩] = notes := rfl
    simp only [long, Option.isSome_none, Bool.false_eq_true, if_false, List.foldl_append, noted,
      List.foldl_cons, List.foldl_nil, starred, List.nil_append]
    simp [Availability.always, givenText]

/-- The text of the arguments has no blanks but those behind commas. -/
theorem argumentText_platforms {platforms : List (String × String)}
    (words : ∀ p ∈ platforms, IsWord p.1) (p q : Position) :
    argumentText (placed p (platforms.flatMap platformPieces) ++ [⟨.star, "*", q⟩]) =
      String.join (platforms.map fun p => p.1 ++ p.2 ++ ", ") ++ "*" := by
  have pieces : ∀ p : Position, String.join ((placed p (platforms.flatMap platformPieces)).map
      argumentPiece) = String.join (platforms.map fun p => p.1 ++ p.2 ++ ", ") := by
    induction platforms with
    | nil => exact fun _ => rfl
    | cons platform platforms ih =>
      intro p
      have later := ih fun p there => words p (List.mem_cons_of_mem platform there)
      have isName := kind_eq_of_isNameLike (isNameLike_wordKind platform.1)
      have word (p : Position) :
          argumentPiece ⟨wordKind platform.1, platform.1, p⟩ = platform.1 := by
        rcases isName with kind | ⟨word, kind⟩ <;> rw [kind] <;> rfl
      have first (p : Position) : (placed p (platformPieces platform)).map argumentPiece =
          [platform.1, platform.2, ", "] := by
        rw [platformPieces, placed_word, List.map_cons, word]
        rfl
      rw [List.flatMap_cons, placed_append, List.map_append, first, String.join_append, later,
        List.map_cons, String.join_cons]
      simp [String.append_assoc]
  have star : String.join ([⟨.star, "*", q⟩].map argumentPiece) = "*" := rfl
  have starts :
      StartsPlain (String.join (platforms.map fun p => p.1 ++ p.2 ++ ", ") ++ "*").toList := by
    cases platforms with
    | nil => exact fun c first => by cases first; decide
    | cons platform platforms =>
      rw [List.map_cons, String.join_cons, String.append_assoc, String.append_assoc,
        String.append_assoc, String.toList_append]
      have isWord := words platform List.mem_cons_self
      exact startsPlain_append isWord.startsPlain isWord.toList_ne_nil _
  have ends :
      EndsPlain (String.join (platforms.map fun p => p.1 ++ p.2 ++ ", ") ++ "*").toList := by
    rw [String.toList_append]
    exact endsPlain_concat (by decide) _
  rw [argumentText, List.map_append, String.join_append, pieces, star,
    trimBlanks_eq_self starts ends, String.ofList_toList]

theorem flat_platforms (platforms : List (String × String)) (p q : Position) :
    ∀ t ∈ placed p (platforms.flatMap platformPieces) ++ [⟨.star, "*", q⟩],
      t.kind.closer? = none ∧ t.kind.isCloser = false := by
  induction platforms generalizing p with
  | nil =>
    refine List.forall_mem_singleton.2 ⟨rfl, rfl⟩
  | cons platform platforms ih =>
    have word : (wordKind platform.1).closer? = none ∧ (wordKind platform.1).isCloser = false := by
      obtain kind | ⟨word, kind⟩ := kind_eq_of_isNameLike (isNameLike_wordKind platform.1) <;>
        rw [kind] <;> exact ⟨rfl, rfl⟩
    rw [List.flatMap_cons, placed_append, List.append_assoc]
    refine List.forall_mem_append.2 ⟨?_, ih _⟩
    rw [platformPieces, placed_word]
    refine List.forall_mem_cons.2 ⟨word, ?_⟩
    exact List.forall_mem_cons.2 ⟨⟨rfl, rfl⟩, List.forall_mem_singleton.2 ⟨rfl, rfl⟩⟩

end Availability

/-! ## Attributes -/

section Attributes

variable {ts : List Token}

/-- A parenthesis right behind a word follows it. -/
theorem isFollowedBy_after {name : String} (isWord : IsWord name) (kind k : TokenKind)
    (value : String) (p : Position) :
    Token.isFollowedBy ⟨kind, name, p⟩ ⟨k, value, p.after name.toList⟩ = true := by
  rw [p.after_of_not_mem (isWord.not_mem (by decide)), Token.isFollowedBy, String.length_toList]
  simp

/-- Reads the arguments of an attribute behind the last token of its name, if there are any. -/
def argumentsBehind (name : String) (last : Token) :
    TokenReader (Option (Attribute × Option Availability)) := do
  match ← groupBehind? last with
  | none => return some (⟨name, none⟩, none)
  | some inner =>
    let availability := if name = "available" then some (availabilityOf inner) else none
    return some (⟨name, some (argumentText inner)⟩, availability)

theorem run'_argumentsBehind_some {last : Token} {inner : List Token} {s s' : TokenStream}
    (read : (groupBehind? last).run' s = (.ok (some inner), s')) (name : String) :
    (argumentsBehind name last).run' s = (.ok (some (⟨name, some (argumentText inner)⟩,
      if name = "available" then some (availabilityOf inner) else none)), s') :=
  run'_bind_of_ok read

theorem run'_attribute? {name : String} (isWord : IsWord name) (p q : Position)
    (ts : List Token) (finish : Position) (noDot : nextKind ts ≠ .dot) :
    attribute?.run' ⟨⟨.atSign, "@", p⟩ :: ⟨wordKind name, name, q⟩ :: ts, finish⟩ =
      (argumentsBehind name ⟨wordKind name, name, q⟩).run' ⟨ts, finish⟩ := by
  have nameRead := run'_dottedNames_single (isNameLike_wordKind name) name q finish noDot
  have lastName : lastField '.' (joinWith "." [name]) = name :=
    lastField_of_not_mem (isWord.not_mem (by decide))
  rw [attribute?, run'_bind_of_ok (run'_accept_self _ _ _ _ _), if_pos rfl]
  refine (run'_bind_of_ok nameRead).trans ?_
  change (argumentsBehind (lastField '.' (joinWith "." [name])) _).run' ⟨ts, finish⟩ = _
  rw [lastName]

/-- Platforms that are listed are read, whatever stands behind them. -/
theorem run'_attribute?_available {platforms : List (String × String)}
    (words : ∀ p ∈ platforms, IsWord p.1) (p : Position) (ts : List Token) (finish : Position) :
    attribute?.run' ⟨placed p (availablePieces platforms) ++ ts, finish⟩ =
      (.ok (some ((WrittenAttribute.available platforms).declared,
        (WrittenAttribute.available platforms).availability?)), ⟨ts, finish⟩) := by
  have isWord : IsWord "available" := isWord_of_name rfl (by decide) (by decide)
  have split (q r : Position) : placed q (platforms.flatMap platformPieces) ++
        (placed r [Piece.sign .star, .sign .closeParen] ++ ts) =
      (placed q (platforms.flatMap platformPieces) ++ [⟨.star, "*", r⟩]) ++
        ⟨.closeParen, ")", r.after ['*']⟩ :: ts := by
    rw [List.append_assoc]
    rfl
  have arguments (kind : TokenKind) (q r u v : Position) :
      (groupBehind? ⟨kind, "available", q⟩).run'
          ⟨⟨.openParen, "(", q.after "available".toList⟩ ::
            ((placed r (platforms.flatMap platformPieces) ++ [⟨.star, "*", u⟩]) ++
              ⟨.closeParen, ")", v⟩ :: ts), finish⟩ =
        (.ok (some (placed r (platforms.flatMap platformPieces) ++ [⟨.star, "*", u⟩])),
          ⟨ts, finish⟩) :=
    run'_groupBehind?_some (isFollowedBy_after isWord kind .openParen "(" q) rfl rfl
      (.of_flat (flat_platforms platforms r u)) ts finish
  rw [availablePieces, placed_sign, placed_word, placed_sign, placed_append,
    List.cons_append, List.cons_append, List.cons_append, List.append_assoc, split]
  refine (run'_attribute? isWord p _ _ finish TokenKind.noConfusion).trans ?_
  refine (run'_argumentsBehind_some (arguments _ _ _ _ _) "available").trans ?_
  rw [argumentText_platforms words, if_pos rfl, availabilityOf_platforms]
  rfl

/-- An attribute is read, unless a dot or a parenthesis follows. -/
theorem reads_attribute {a : WrittenAttribute} (writable : a.Writable) :
    Reads attribute? a.pieces (some (a.declared, a.availability?)) fun _ ts =>
      nextKind ts ≠ .dot ∧ nextKind ts ≠ .openParen := by
  intro p ts finish ⟨noDot, noGroup⟩
  cases a with
  | plain name =>
    have noArguments (last : Token) :
        (groupBehind? last).run' ⟨ts, finish⟩ = (.ok none, ⟨ts, finish⟩) :=
      run'_groupBehind?_none finish fun token us same paren =>
        absurd paren (by rwa [same] at noGroup)
    refine (run'_attribute? writable p _ ts finish noDot).trans ?_
    exact run'_bind_of_ok (noArguments _)
  | available platforms =>
    rw [pieces_available, placed_append, placed_space, placed_nil, List.append_nil]
    exact run'_attribute?_available (fun p there => (writable p there).1) p ts finish

theorem run'_attribute?_none {ts : List Token} (finish : Position)
    (noAttribute : nextKind ts ≠ .atSign) :
    attribute?.run' ⟨ts, finish⟩ = (.ok none, ⟨ts, finish⟩) := by
  rw [attribute?, run'_bind_of_ok (run'_accept_none noAttribute finish)]
  rfl

end Attributes

/-! ## What ends a declaration -/

/-- Whether a token of a kind may stand behind a whole declaration. -/
def endsItem : TokenKind → Bool
  | .endOfFile | .closeBrace | .atSign | .semicolon | .identifier => true
  | .keyword word =>
    !([.whereClause, .someOf, .anyOf, .inOut, .throwing, .rethrowing, .asynchronous].contains word)
  | _ => false

/-- Tokens begin with another declaration, or the scope ends in front of them. -/
inductive EndsItem : List Token → Prop
  | finish : EndsItem []
  | brace {t : Token} {ts : List Token} (closes : t.kind = .closeBrace) : EndsItem (t :: ts)
  | begins {t : Token} {ts : List Token} (begins : beginsDeclaration t = true) : EndsItem (t :: ts)
  | modifier {t u : Token} {ts : List Token} (modifies : isModifierWord t = true)
      (next : (beginsDeclaration u || isModifierWord u) = true) : EndsItem (t :: u :: ts)

section Ends

variable {ts : List Token}

theorem EndsItem.kind (ends : EndsItem ts) : endsItem (nextKind ts) = true := by
  cases ends with
  | finish => rfl
  | brace closes => rw [nextKind_cons, closes]; rfl
  | @begins t ts begins =>
    rw [beginsDeclaration] at begins
    rw [nextKind_cons]
    cases kind : t.kind <;> rw [kind] at begins <;> first | rfl | exact begins
  | @modifier t u ts modifies =>
    rw [isModifierWord, Bool.and_eq_true, decide_eq_true_eq] at modifies
    rw [nextKind_cons, modifies.1]
    rfl

theorem EndsItem.ne {kind : TokenKind} (ends : EndsItem ts) (noEnd : endsItem kind = false) :
    nextKind ts ≠ kind := by
  rintro rfl
  rw [ends.kind] at noEnd
  cases noEnd

/-- As the words for packs and for ownership are reserved, a name may stand behind a type. -/
theorem ends_of_not_mem (noStop : nextKind ts ∉ typeStops) : Ends reservedWords typeStops ts := by
  refine ⟨noStop, fun _ w known => ?_⟩
  rw [reservedWords, List.append_assoc]
  exact List.mem_append_right _ known

/-- A type is read up to the end of its declaration. -/
theorem EndsItem.ends (ends : EndsItem ts) : Ends reservedWords typeStops ts := by
  have noEnd : ∀ k ∈ typeStops, endsItem k = false := by decide
  exact ends_of_not_mem fun stop => ends.ne (noEnd _ stop) rfl

end Ends

/-! ## Headings -/

section Headings

variable {ts : List Token}

/-- Tokens begin with the word of a declaration, which does not modify another one. -/
structure BeginsItem (ts : List Token) : Prop where
  begins : ∃ word value p us, ts = ⟨.keyword word, value, p⟩ :: us ∧
    beginsDeclaration ⟨.keyword word, value, p⟩ = true
  noModifier : nextKind ts = .keyword .classType → ∀ finish,
    classModifiesNext.run' ⟨ts, finish⟩ = (.ok false, ⟨ts, finish⟩)

theorem BeginsItem.ne {kind : TokenKind} (begins : BeginsItem ts)
    (noWord : kind.isNameLike = false) : nextKind ts ≠ kind := by
  obtain ⟨word, value, p, us, rfl, -⟩ := begins.begins
  rintro rfl
  cases noWord

theorem BeginsItem.endsItem (begins : BeginsItem ts) : EndsItem ts := by
  obtain ⟨word, value, p, us, rfl, declares⟩ := begins.begins
  exact .begins declares

/-- The only attribute for availability says where a declaration exists. -/
theorem WrittenHeading.Writable.merge_eq {h : WrittenHeading} (writable : h.Writable) :
    (h.attributes.filterMap WrittenAttribute.availability?).foldl Availability.merge .always =
      h.availability := by
  have atMostOne := writable.atMostOne
  rw [WrittenHeading.availability, ← List.head?_filterMap]
  rcases given : h.attributes.filterMap WrittenAttribute.availability? with _ | ⟨a, others⟩
  · rfl
  · rw [given, List.length_cons] at atMostOne
    obtain rfl := List.length_eq_zero_iff.1 (by omega : others.length = 0)
    have listed : a ∈ h.attributes.filterMap WrittenAttribute.availability? := by
      rw [given]
      exact List.mem_cons_self
    obtain ⟨written, -, gives⟩ := List.mem_filterMap.1 listed
    cases written with
    | plain name => cases gives
    | available platforms =>
      cases gives
      exact Availability.always_merge _

/-- The attributes of a declaration are read, with the availability that they give. -/
theorem run'_readAttributes {h : WrittenHeading} (writable : h.Writable) (p finish : Position)
    (noAttribute : nextKind ts ≠ .atSign) (noDot : nextKind ts ≠ .dot)
    (noGroup : nextKind ts ≠ .openParen) :
    readAttributes.run' ⟨placed p (h.attributes.flatMap WrittenAttribute.pieces) ++ ts, finish⟩ =
      (.ok (h.declared, h.availability), ⟨ts, finish⟩) := by
  have filled : ∀ a ∈ h.attributes, 0 < a.pieces.countP Piece.isToken := by
    intro a _
    cases a <;> (rw [WrittenAttribute.pieces, List.countP_cons_of_pos rfl]; exact Nat.succ_pos _)
  have begins : ∀ a ∈ h.attributes, ∀ (q : Position) us, nextKind (placed q a.pieces ++ us) ≠ .dot ∧
      nextKind (placed q a.pieces ++ us) ≠ .openParen := by
    intro a _ q us
    cases a <;> exact ⟨TokenKind.noConfusion, TokenKind.noConfusion⟩
  have read := run'_many (fun a there => reads_attribute (writable.attributes a there)) filled
    (fun a there q us => begins a there q us) (p := p) ⟨noDot, noGroup⟩
    (run'_attribute?_none finish noAttribute)
  rw [readAttributes, run'_bind_of_ok read, List.filterMap_map, List.map_map]
  change (pure (h.declared, (h.attributes.filterMap WrittenAttribute.availability?).foldl
    Availability.merge .always) : TokenReader _).run' ⟨ts, finish⟩ = _
  rw [writable.merge_eq]
  rfl

theorem run'_classModifiesNext (s : TokenStream) :
    classModifiesNext.run' s = (.ok (beginsDeclaration (s.peek 1) && (s.peek 1).kind ≠ .atSign ||
      isModifierWord (s.peek 1)), s) := rfl

theorem wordKind_of_mem_modifierWords {name : String} (known : name ∈ modifierWords) :
    wordKind name = .identifier :=
  (by decide : ∀ w ∈ modifierWords, wordKind w = .identifier) name known

theorem isModifierWord_of_mem {name : String} (known : name ∈ modifierWords) (p : Position) :
    isModifierWord ⟨wordKind name, name, p⟩ = true := by
  rw [isModifierWord, wordKind_of_mem_modifierWords known, List.contains_iff_mem.2 known]
  rfl

theorem reads_modifier {word : String} (known : word ∈ modifierWords) :
    Reads modifier? (wordPieces word) (some word) fun _ ts => nextKind ts ≠ .openParen := by
  intro p ts finish noGroup
  have modifies := isModifierWord_of_mem known p
  have noArguments (last : Token) :
      (groupBehind? last).run' ⟨ts, finish⟩ = (.ok none, ⟨ts, finish⟩) :=
    run'_groupBehind?_none finish fun token us same paren =>
      absurd paren (by rwa [same] at noGroup)
  rw [wordPieces, placed_word, placed_space, placed_nil, List.cons_append, List.nil_append,
    modifier?, run'_bind_of_ok (run'_current _), TokenStream.current_cons,
    run'_bind_of_ok (run'_classModifiesNext _), modifies, Bool.true_or, if_pos rfl,
    run'_bind_of_ok (run'_advance _), TokenStream.rest_cons, run'_bind_of_ok (noArguments _)]
  rfl

theorem run'_modifier?_none (begins : BeginsItem ts) (finish : Position) :
    modifier?.run' ⟨ts, finish⟩ = (.ok none, ⟨ts, finish⟩) := by
  have noModifier := begins.noModifier
  obtain ⟨word, value, p, us, rfl, -⟩ := begins.begins
  have noWord : isModifierWord ⟨.keyword word, value, p⟩ = false := rfl
  rw [modifier?, run'_bind_of_ok (run'_current _), TokenStream.current_cons, noWord]
  by_cases isClass : word = .classType
  · subst isClass
    rw [run'_bind_of_ok (noModifier rfl finish)]
    rfl
  · have notClass : decide (TokenKind.keyword word = .keyword .classType) = false := by
      simpa using isClass
    rw [run'_bind_of_ok (run'_classModifiesNext _), notClass]
    rfl

/-- The modifiers of a declaration are read up to the word that begins it. -/
theorem run'_modifiers {words : List String} (known : ∀ w ∈ words, w ∈ modifierWords)
    (p finish : Position) (begins : BeginsItem ts) :
    modifiers.run' ⟨placed p (words.flatMap wordPieces) ++ ts, finish⟩ =
      (.ok words, ⟨ts, finish⟩) := by
  have filled : ∀ w ∈ words, 0 < (wordPieces w).countP Piece.isToken := by
    intro w _
    rw [wordPieces, List.countP_cons_of_pos rfl]
    exact Nat.succ_pos _
  have apart : ∀ w ∈ words, ∀ (q : Position) us,
      nextKind (placed q (wordPieces w) ++ us) ≠ .openParen :=
    fun w _ _ _ => wordKind_ne rfl w
  have read := run'_many (g := id) (fun w there => reads_modifier (known w there)) filled
    (fun w there q us => apart w there q us) (p := p) (begins.ne rfl)
    (run'_modifier?_none begins finish)
  rwa [List.map_id] at read

/-- A declaration ends where another one begins with its heading. -/
theorem endsItem_heading (h : WrittenHeading) (known : ∀ w ∈ h.modifiers, w ∈ modifierWords)
    {xs : List Piece} (begins : ∀ q, BeginsItem (placed q xs ++ ts)) (p : Position) :
    EndsItem (placed p (h.pieces ++ xs) ++ ts) := by
  rw [WrittenHeading.pieces, List.append_assoc]
  rcases h.attributes with _ | ⟨a, attributes⟩
  · rw [List.flatMap_nil, List.nil_append]
    rcases given : h.modifiers with _ | ⟨w, _ | ⟨v, words⟩⟩
    · exact (begins p).endsItem
    · obtain ⟨word, value, q, us, tokens, declares⟩ := (begins ((p.after w.toList).next ' ')).begins
      have modifies := isModifierWord_of_mem (known w (given ▸ List.mem_cons_self)) p
      change EndsItem (⟨wordKind w, w, p⟩ :: (placed ((p.after w.toList).next ' ') xs ++ ts))
      rw [tokens]
      exact .modifier modifies (by rw [declares]; rfl)
    · have modifies := isModifierWord_of_mem (known w (given ▸ List.mem_cons_self)) p
      have next (q : Position) := isModifierWord_of_mem
        (known v (given ▸ List.mem_cons_of_mem w List.mem_cons_self)) q
      exact .modifier modifies (by rw [next, Bool.or_true])
  · cases a <;> exact .begins rfl

end Headings

end ViewModifiers.Interface
