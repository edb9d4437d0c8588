import ViewModifiers.Proofs.Interface.OperatorScanning
import ViewModifiers.Proofs.Interface.Surroundings

/-!
# Functions named by operators

The name of a function that is an operator is put together from tokens, up to the parameters or to a
clause of generic parameters. As a clause begins with a `<`, the name ends in front of every `<` but
one that it begins with. So a function is read under an operator if and only if no `<` stands behind
the first character of it (`readInterface_operatorText_iff`).
-/

namespace ViewModifiers.Interface

open Source Text TokenReader DeclarationReader Surroundings

variable {x : Piece} {xs : List Piece} {ts : List Token}

/-! ## Names in parts -/

/-- A part of an operator is one token, which begins neither a name nor a parameter list. -/
theorem OperatorPiece.exists_placed (part : OperatorPiece x) :
    ∃ kind, kind.isNameLike = false ∧ kind ∉ [.openParen, .endOfFile] ∧
      (kind = .lessThan ↔ '<' ∈ x.spelling) ∧
      ∀ p xs ts, placed p (x :: xs) ++ ts =
        ⟨kind, String.ofList x.spelling, p⟩ :: (placed (p.after x.spelling) xs ++ ts) := by
  cases part with
  | @sign kind known =>
    have sorts : ∀ k ∈ operatorSigns, k.isNameLike = false ∧ k ∉ [.openParen, .endOfFile] ∧
        (k = .lessThan ↔ '<' ∈ k.label.toList) := by decide
    obtain ⟨noName, noEnd, less⟩ := sorts kind known
    refine ⟨kind, noName, noEnd, less, fun p xs ts => ?_⟩
    rw [placed_sign, Piece.sign, Piece.spelling, String.ofList_toList, List.cons_append]
  | @run cs each some =>
    have noLess : '<' ∉ cs := fun there => absurd (each _ there) (by decide)
    refine ⟨.symbol, rfl, by decide, ?_, fun p xs ts => rfl⟩
    simpa [Piece.run, Piece.spelling] using noLess

theorem OperatorPiece.isToken (part : OperatorPiece x) : x.isToken = true := by
  cases part <;> rfl

/-- The only part of an operator with a `<` in it is that sign. -/
theorem OperatorPiece.eq_lessThan (part : OperatorPiece x) (less : '<' ∈ x.spelling) :
    x = .sign .lessThan := by
  cases part with
  | sign known =>
    have alone : ∀ k ∈ operatorSigns, '<' ∈ k.label.toList → k = .lessThan := by decide
    rw [alone _ known less]
  | run each => exact absurd (each _ less) (by decide)

theorem OperatorPiece.eq_greaterThan (part : OperatorPiece x) {p : Position}
    (greater : nextKind (placed p (x :: xs) ++ ts) = .greaterThan) : x = .sign .greaterThan := by
  cases part with
  | @sign kind known =>
    obtain rfl : kind = .greaterThan := greater
    rfl
  | run => cases greater

/-- A part of an operator begins neither a parameter list nor a name. -/
theorem OperatorPiece.nextKind_placed (part : OperatorPiece x) (p : Position) :
    nextKind (placed p (x :: xs) ++ ts) ≠ .openParen ∧
      (nextKind (placed p (x :: xs) ++ ts)).isNameLike = false := by
  obtain ⟨kind, noName, noEnd, -, tokens⟩ := part.exists_placed
  rw [List.mem_cons, not_or] at noEnd
  rw [tokens, nextKind_cons]
  exact ⟨noEnd.1, noName⟩

/-- Takes one more part of a name, unless it ends. -/
def nameStep (found : List String) : TokenReader (List String ⊕ List String) := do
  let t ← current
  if t.kind = .openParen || t.kind = .endOfFile || (!found.isEmpty && t.kind = .lessThan) then
    return .inr found.reverse
  else return .inl ((← advance).value :: found)

/-- A name without a word is read in parts. -/
theorem run'_functionName_of_noName {s : TokenStream} (noName : s.current.kind.isNameLike = false) :
    functionName.run' s =
      (do let parts ← iterate [] nameStep
          if parts.isEmpty then failAt s.current .expectedFunctionName
          else return String.join parts : TokenReader String).run' s := by
  rw [functionName, run'_bind_of_ok (run'_current s), noName, if_neg Bool.false_ne_true]
  rfl

/-- A part is taken at the start, and behind others if it has no `<` in it. -/
theorem run'_nameStep_part (part : OperatorPiece x) {found : List String}
    (goesOn : found = [] ∨ '<' ∉ x.spelling) (p finish : Position) :
    (nameStep found).run' ⟨placed p (x :: xs) ++ ts, finish⟩ =
      (.ok (.inl (String.ofList x.spelling :: found)),
        ⟨placed (p.after x.spelling) xs ++ ts, finish⟩) := by
  obtain ⟨kind, -, noEnd, less, tokens⟩ := part.exists_placed
  have stays : (decide (kind = .openParen) || decide (kind = .endOfFile) ||
      (!found.isEmpty && decide (kind = .lessThan))) = false := by
    simp only [List.mem_cons, List.not_mem_nil, or_false, not_or] at noEnd
    rcases goesOn with rfl | noLess
    · simp [noEnd]
    · simp [noEnd, less, noLess]
  rw [tokens, nameStep, run'_bind_of_ok (run'_current _), TokenStream.current_cons, stays]
  rfl

/-- Parts without a `<` are taken one by one. -/
theorem steps_nameStep (parts : ∀ x ∈ xs, OperatorPiece x) (noLess : '<' ∉ spell xs)
    (found : List String) (p finish : Position) :
    Steps nameStep found ⟨placed p xs ++ ts, finish⟩
      ((xs.map fun x => String.ofList x.spelling).reverse ++ found) ⟨ts, finish⟩ := by
  induction xs generalizing found p with
  | nil => exact .refl _ _
  | cons x xs ih =>
    rw [spell_cons, List.mem_append, not_or] at noLess
    have later := ih (fun y there => parts y (List.mem_cons_of_mem x there)) noLess.2
      (String.ofList x.spelling :: found) (p.after x.spelling)
    have part := parts x List.mem_cons_self
    rw [List.map_cons, List.reverse_cons, List.append_assoc, List.singleton_append]
    refine .next (run'_nameStep_part part (.inr noLess.1) p finish) ?_ later
    simp only [List.length_append, length_placed, List.countP_cons_of_pos part.isToken]
    omega

theorem join_spellings (xs : List Piece) :
    String.join (xs.map fun x => String.ofList x.spelling) = String.ofList (spell xs) := by
  apply String.toList_inj.1
  rw [String.toList_join, String.toList_ofList, List.flatMap_map]
  simp only [String.toList_ofList]
  rfl

/-- A name in parts is read up to the parameters or to a `<`, if there is none behind its first
part. -/
theorem run'_functionName_parts (parts : ∀ y ∈ x :: xs, OperatorPiece y) (noLess : '<' ∉ spell xs)
    (stops : nextKind ts ∈ [.openParen, .lessThan]) (p finish : Position) :
    functionName.run' ⟨placed p (x :: xs) ++ ts, finish⟩ =
      (.ok (String.ofList (spell (x :: xs))), ⟨ts, finish⟩) := by
  have first := parts x List.mem_cons_self
  have steps : Steps nameStep [] ⟨placed p (x :: xs) ++ ts, finish⟩
      ((xs.map fun x => String.ofList x.spelling).reverse ++ [String.ofList x.spelling])
      ⟨ts, finish⟩ := by
    refine .next (run'_nameStep_part first (.inl rfl) p finish) ?_ (steps_nameStep
      (fun y there => parts y (List.mem_cons_of_mem x there)) noLess _ _ finish)
    simp only [List.length_append, length_placed, List.countP_cons_of_pos first.isToken]
    omega
  have last (found : List String) (some : found ≠ []) :
      (nameStep found).run' ⟨ts, finish⟩ = (.ok (.inr found.reverse), ⟨ts, finish⟩) := by
    have ends : (decide (nextKind ts = .openParen) || decide (nextKind ts = .endOfFile) ||
        (!found.isEmpty && decide (nextKind ts = .lessThan))) = true := by
      simp only [List.mem_cons, List.not_mem_nil, or_false] at stops
      rcases stops with next | next <;> simp [next, some]
    rw [nameStep, run'_bind_of_ok (run'_current _), kind_current, ends]
    rfl
  have collected : ((xs.map fun x => String.ofList x.spelling).reverse ++
      [String.ofList x.spelling]).reverse = (x :: xs).map fun x => String.ofList x.spelling := by
    rw [List.reverse_append, List.reverse_reverse]
    rfl
  have noName : (TokenStream.current ⟨placed p (x :: xs) ++ ts, finish⟩).kind.isNameLike =
      false := by
    rw [kind_current]
    exact (first.nextKind_placed p).2
  rw [run'_functionName_of_noName noName, run'_bind_of_ok (run'_iterate steps (last _ (by simp))),
    collected, ← join_spellings]
  rfl

/-! ## Functions -/

section Functions

variable {h : WrittenHeading} {f : WrittenFunction}

/-- The pieces of a function behind its heading, if its name has some pieces. A space stands behind
the name. -/
def WrittenFunction.piecesNamed (f : WrittenFunction) (name : List Piece) : List Piece :=
  .word "func" :: .space :: (name ++ .space :: f.behindName)

/-- The function under another name. -/
def WrittenFunction.named (f : WrittenFunction) (name : String) : WrittenFunction := { f with name }

theorem WrittenFunction.WritableBehindName.named (writable : f.WritableBehindName)
    (name : String) : (f.named name).WritableBehindName :=
  ⟨writable.distinct, writable.generics, writable.parameters, writable.result⟩

/-- The function as the only member that is declared. -/
def WrittenFunction.alone (f : WrittenFunction) (h : WrittenHeading) : Members :=
  ⟨[], [], [f.declared h.declared h.modifiers h.availability .start], [], []⟩

/-- A function is read behind its word and put in front of the members found before. -/
theorem run'_declarationBehind_function (body : TokenReader Members) (found : Members)
    (attributes : List Attribute) (modifiers : List String) (availability : Availability)
    (p : Position) (us : List Token) (finish : Position) :
    (declarationBehind body found attributes modifiers availability).run'
        ⟨⟨wordKind "func", "func", p⟩ :: us, finish⟩ =
      (do let f ← functionBehindWord ⟨wordKind "func", "func", p⟩ attributes modifiers availability
          return { found with functions := f :: found.functions } : TokenReader Members).run'
        ⟨us, finish⟩ := by
  have isWord : wordKind "func" = .keyword .function := wordKind_spelling .function
  rw [declarationBehind, run'_bind_of_ok (run'_current _), TokenStream.current_cons, isWord,
    run'_bind, ← isWord, run'_function_eq, ← run'_bind]

/-- A parameter list or a clause stands behind the name of a function. -/
theorem nextKind_behindName (f : WrittenFunction) (p : Position) :
    nextKind (placed p f.behindName ++ ts) =
      if f.generics = [] then .openParen else .lessThan := by
  rw [WrittenFunction.behindName]
  cases f.generics <;> rfl

theorem beginsItem_piecesNamed (f : WrittenFunction) (name : List Piece) (q : Position)
    (ts : List Token) : BeginsItem (placed q (f.piecesNamed name) ++ ts) :=
  beginsItem_word (k := .function) rfl (by decide) _ _

theorem stands_piecesNamed (writable : f.WritableBehindName) {name : List Piece}
    (fitting : ∀ rest, Fitting name (' ' :: rest)) : Stands (f.piecesNamed name) := by
  intro rest apart
  exact ⟨Piece.fits_word (isWord_spelling .function) (apart_cons (by decide)), Piece.fits_space _,
    (fitting _).append ⟨Piece.fits_space _, writable.stands rest apart⟩⟩

section Clauses

variable {word : Token} {attributes : List Attribute} {modifiers : List String}
  {availability : Availability} {name : String}

/-- Without generic parameters, a function is read on from its parameters. -/
theorem run'_functionBehindName_none (noClause : nextKind ts ≠ .lessThan) (finish : Position) :
    (functionBehindName word attributes modifiers availability name).run' ⟨ts, finish⟩ =
      (functionBehindClause word attributes modifiers availability name []).run' ⟨ts, finish⟩ :=
  run'_bind_of_ok (run'_isAt_none noClause finish)

/-- An empty clause counts as none. -/
theorem run'_functionBehindName_empty (less greater : String) (p q : Position) (ts : List Token)
    (finish : Position) :
    (functionBehindName word attributes modifiers availability name).run'
        ⟨⟨.lessThan, less, p⟩ :: ⟨.greaterThan, greater, q⟩ :: ts, finish⟩ =
      (functionBehindClause word attributes modifiers availability name []).run' ⟨ts, finish⟩ := by
  have list : (commaList .greaterThan genericParameter).run'
      ⟨⟨.greaterThan, greater, q⟩ :: ts, finish⟩ =
        (.ok [], ⟨⟨.greaterThan, greater, q⟩ :: ts, finish⟩) :=
    run'_iterate (.refl _ _) (run'_bind_of_ok (run'_isAt _ _))
  have clause : genericParameters.run'
      ⟨⟨.lessThan, less, p⟩ :: ⟨.greaterThan, greater, q⟩ :: ts, finish⟩ =
        (.ok [], ⟨ts, finish⟩) := by
    rw [genericParameters, run'_bind_of_ok (run'_expect_self _ _ _ _ _), run'_bind_of_ok list,
      run'_bind_of_ok (run'_expect_self _ _ _ _ _)]
    rfl
  exact (run'_bind_of_ok (run'_isAt _ _)).trans (run'_bind_of_ok clause)

theorem fails_functionBehindClause (noList : nextKind ts ≠ .openParen) (finish : Position) :
    Fails (functionBehindClause word attributes modifiers availability name []) ⟨ts, finish⟩ :=
  (fails_expect noList finish).bind _

/-- A clause that neither is empty nor begins with a name is not read. -/
theorem fails_functionBehindName (less : String) (p : Position)
    (some : nextKind ts ≠ .greaterThan) (noName : (nextKind ts).isNameLike = false)
    (finish : Position) :
    Fails (functionBehindName word attributes modifiers availability name)
      ⟨⟨.lessThan, less, p⟩ :: ts, finish⟩ := by
  have goesOn : (isAt .greaterThan).run' ⟨ts, finish⟩ = (.ok false, ⟨ts, finish⟩) :=
    run'_isAt_none some finish
  have parameter : Fails genericParameter ⟨ts, finish⟩ := (fails_expectName noName finish).bind _
  have list : Fails (commaList .greaterThan genericParameter) ⟨ts, finish⟩ :=
    Fails.iterate ((parameter.bind _).of_run' (run'_bind_of_ok goesOn))
  have clause : Fails genericParameters ⟨⟨.lessThan, less, p⟩ :: ts, finish⟩ :=
    (list.bind _).of_run' (run'_bind_of_ok (run'_expect_self _ _ _ _ _))
  exact (clause.bind _).of_run' (run'_bind_of_ok (run'_isAt _ _))

end Clauses

/-- A function is declared under the name that is read for it. -/
theorem isReadAs_of_run' (writable : f.WritableBehindName) {xs : List Piece} {name : String}
    (reads : ∀ word attributes modifiers availability p q ts finish,
      (functionBehindWord word attributes modifiers availability).run'
          ⟨placed p xs ++ (placed q f.behindName ++ ts), finish⟩ =
        (functionBehindName word attributes modifiers availability name).run'
          ⟨placed q f.behindName ++ ts, finish⟩) :
    IsReadAs h (f.piecesNamed xs) ((f.named name).alone h) := by
  intro body found q us finish ends
  have read (word : Token) (r t : Position) :=
    (reads word h.declared h.modifiers h.availability r t us finish).trans (run'_functionBehindName
      (writable.named name) word h.declared h.modifiers h.availability t finish ends)
  refine ⟨{ found with functions :=
    (f.named name).declared h.declared h.modifiers h.availability q :: found.functions }, ?_, ?_⟩
  · rw [WrittenFunction.piecesNamed, placed_word, placed_space, placed_append, List.cons_append,
      List.append_assoc, placed_space, run'_declarationBehind_function]
    exact run'_bind_of_ok (read _ _ _)
  · simp only [Members.reversed, Members.unplaced, Members.append, WrittenFunction.alone,
      List.reverse_cons, List.map_append, List.append_nil]
    rfl

theorem isNotRead_of_fails {xs : List Piece}
    (fails : ∀ word attributes modifiers availability p q ts finish,
      Fails (functionBehindWord word attributes modifiers availability)
        ⟨placed p xs ++ (placed q f.behindName ++ ts), finish⟩) :
    IsNotRead h (f.piecesNamed xs) := by
  intro body found q us finish _
  rw [WrittenFunction.piecesNamed, placed_word, placed_space, placed_append, List.cons_append,
    List.append_assoc, placed_space]
  exact ((fails _ _ _ _ _ _ _ _).bind _).of_run' (run'_declarationBehind_function _ _ _ _ _ _ _ _)

/-! ## Operators for names -/

/-- A function is read under an operator with no `<` behind its first part. -/
theorem isReadAs_of_parts (writable : f.WritableBehindName)
    (parts : ∀ y ∈ x :: xs, OperatorPiece y) (noLess : '<' ∉ spell xs) :
    IsReadAs h (f.piecesNamed (x :: xs)) ((f.named (String.ofList (spell (x :: xs)))).alone h) := by
  apply isReadAs_of_run' writable
  intro word attributes modifiers availability p q ts finish
  have stops : nextKind (placed q f.behindName ++ ts) ∈ [.openParen, .lessThan] := by
    rw [nextKind_behindName]
    split <;> decide
  exact run'_bind_of_ok (run'_functionName_parts parts noLess stops p finish)

/-- An operator with a `<` in it can be cut at the first one. -/
theorem exists_append_lessThan (parts : ∀ y ∈ xs, OperatorPiece y) (less : '<' ∈ spell xs) :
    ∃ ys zs, xs = ys ++ .sign .lessThan :: zs ∧ '<' ∉ spell ys := by
  induction xs with
  | nil => cases less
  | cons y xs ih =>
    by_cases first : '<' ∈ y.spelling
    · obtain rfl := (parts y List.mem_cons_self).eq_lessThan first
      exact ⟨[], xs, rfl, nofun⟩
    · rw [spell_cons] at less
      have later := (List.mem_append.1 less).resolve_left first
      obtain ⟨ys, zs, rfl, noLess⟩ :=
        ih (fun z there => parts z (List.mem_cons_of_mem y there)) later
      refine ⟨y :: ys, zs, rfl, ?_⟩
      rw [spell_cons, List.mem_append, not_or]
      exact ⟨first, noLess⟩

section Cut

variable {ys zs : List Piece}

/-- The name ends in front of a `<` behind its first part, where a clause is read. -/
theorem run'_functionBehindWord_lessThan (zs : List Piece)
    (parts : ∀ y ∈ x :: ys, OperatorPiece y) (noLess : '<' ∉ spell ys) (word : Token)
    (attributes : List Attribute) (modifiers : List String) (availability : Availability)
    (p : Position) (us : List Token) (finish : Position) :
    ∃ q r, (functionBehindWord word attributes modifiers availability).run'
        ⟨placed p (x :: ys ++ .sign .lessThan :: zs) ++ us, finish⟩ =
      (functionBehindName word attributes modifiers availability
        (String.ofList (spell (x :: ys)))).run'
        ⟨⟨.lessThan, "<", q⟩ :: (placed r zs ++ us), finish⟩ := by
  rw [placed_append, placed_sign, List.append_assoc]
  exact ⟨_, _, run'_bind_of_ok (run'_functionName_parts parts noLess (by simp) p finish)⟩

/-- If the rest of an operator behind a `<` closes an empty clause, the function is read under what
stands in front of it. -/
theorem isReadAs_of_emptyClause (writable : f.WritableBehindName) (plain : f.generics = [])
    (parts : ∀ y ∈ x :: ys, OperatorPiece y) (noLess : '<' ∉ spell ys) :
    IsReadAs h (f.piecesNamed (x :: ys ++ [.sign .lessThan, .sign .greaterThan]))
      ((f.named (String.ofList (spell (x :: ys)))).alone h) := by
  apply isReadAs_of_run' writable
  intro word attributes modifiers availability p q ts finish
  have noClause : nextKind (placed q f.behindName ++ ts) ≠ .lessThan := by
    rw [nextKind_behindName, if_pos plain]
    decide
  obtain ⟨r, r', cut⟩ := run'_functionBehindWord_lessThan [.sign .greaterThan] parts noLess
    word attributes modifiers availability p (placed q f.behindName ++ ts) finish
  rw [cut, run'_functionBehindName_none noClause]
  exact run'_functionBehindName_empty _ _ _ _ _ _

/-- In all other cases, the rest of an operator behind a `<` and what follows it are no clause with
a parameter list behind it. -/
theorem fails_of_noEmptyClause (parts : ∀ z ∈ zs, OperatorPiece z)
    (noClause : ¬(zs = [.sign .greaterThan] ∧ f.generics = [])) {word : Token}
    {attributes : List Attribute} {modifiers : List String} {availability : Availability}
    {name : String} (p q r finish : Position) (ts : List Token) :
    Fails (functionBehindName word attributes modifiers availability name)
      ⟨⟨.lessThan, "<", p⟩ :: (placed q zs ++ (placed r f.behindName ++ ts)), finish⟩ := by
  cases zs with
  | nil =>
    apply fails_functionBehindName <;> rw [placed_nil, List.nil_append, nextKind_behindName]
    · split <;> decide
    · split <;> rfl
  | cons z zs =>
    have first := parts z List.mem_cons_self
    by_cases closes : z = .sign .greaterThan
    · subst closes
      rw [placed_sign, List.cons_append]
      refine Fails.of_run' ?_ (run'_functionBehindName_empty _ _ _ _ _ _)
      apply fails_functionBehindClause
      cases zs with
      | nil =>
        have generic : f.generics ≠ [] := fun none => noClause ⟨rfl, none⟩
        rw [placed_nil, List.nil_append, nextKind_behindName, if_neg generic]
        decide
      | cons z zs =>
        exact ((parts z (List.mem_cons_of_mem _ List.mem_cons_self)).nextKind_placed _).1
    · exact fails_functionBehindName _ _ (fun greater => closes (first.eq_greaterThan greater))
        (first.nextKind_placed q).2 finish

/-- A function is not read, or not under its name, if a `<` stands behind the first part of it. -/
theorem isNotRead_or_isReadAs (writable : f.WritableBehindName)
    (parts : ∀ y ∈ x :: xs, OperatorPiece y) (less : '<' ∈ spell xs) :
    IsNotRead h (f.piecesNamed (x :: xs)) ∨ ∃ name, name ≠ String.ofList (spell (x :: xs)) ∧
      IsReadAs h (f.piecesNamed (x :: xs)) ((f.named name).alone h) := by
  obtain ⟨ys, zs, rfl, noLess⟩ :=
    exists_append_lessThan (fun y there => parts y (List.mem_cons_of_mem x there)) less
  rw [← List.cons_append] at parts ⊢
  have first : ∀ y ∈ x :: ys, OperatorPiece y := fun y there =>
    parts y (List.mem_append_left _ there)
  by_cases clause : zs = [.sign .greaterThan] ∧ f.generics = []
  · obtain ⟨rfl, plain⟩ := clause
    refine .inr ⟨String.ofList (spell (x :: ys)), fun same => ?_,
      isReadAs_of_emptyClause writable plain first noLess⟩
    have two : (spell [Piece.sign .lessThan, Piece.sign .greaterThan]).length = 2 := by decide
    have lengths := congrArg List.length (String.ofList_inj.1 same)
    rw [spell_append, List.length_append, two] at lengths
    omega
  · refine .inl (isNotRead_of_fails fun word attributes modifiers availability p q ts finish => ?_)
    obtain ⟨r, r', cut⟩ := run'_functionBehindWord_lessThan zs first noLess
      word attributes modifiers availability p (placed q f.behindName ++ ts) finish
    exact (fails_of_noEmptyClause (fun z there => parts z (List.mem_append_right _
      (List.mem_cons_of_mem _ there))) clause _ _ _ _ _).of_run' cut

end Cut

end Functions

/-! ## Whole interfaces -/

/-- Behind its first character, an operator has a `<` where its later parts have one. -/
theorem mem_tail_spell_iff (part : OperatorPiece x) :
    '<' ∈ (spell (x :: xs)).tail ↔ '<' ∈ spell xs := by
  have noLess : '<' ∉ x.spelling.tail := by
    intro there
    obtain rfl := part.eq_lessThan (List.mem_of_mem_tail there)
    exact absurd there (by decide)
  have filled : x.spelling ≠ [] := List.ne_nil_of_length_pos part.spelling_length_pos
  rw [spell_cons]
  change '<' ∈ (x.spelling ++ spell xs).tail ↔ _
  rw [List.tail_append_of_ne_nil filled, List.mem_append, or_iff_right noLess]

/-- The text of a function with a space behind its name. -/
def WrittenFunction.operatorText (f : WrittenFunction) (h : WrittenHeading) : String :=
  String.ofList (spell h.pieces) ++ "func " ++ f.name ++ " " ++ String.ofList (spell f.behindName)

theorem operatorText_eq {f : WrittenFunction} (h : WrittenHeading) {xs : List Piece}
    (spelled : spell xs = f.name.toList) :
    f.operatorText h = String.ofList (spell (h.pieces ++ f.piecesNamed xs)) := by
  apply String.toList_inj.1
  simp [WrittenFunction.operatorText, WrittenFunction.piecesNamed, spell_append, spelled]

/-- A function named by an operator is read back from its line, wherever this stands, if and only if
no `<` stands behind the first character of the operator. -/
theorem readInterface_operatorText_iff {s : Surroundings} (around : s.Writable)
    {h : WrittenHeading} (writable : h.Writable) {f : WrittenFunction}
    (behind : f.WritableBehindName) (some : f.name ≠ "")
    (operator : ∀ c ∈ f.name.toList, isOperatorChar c = true)
    (noLine : ¬['/', '/'] <:+: f.name.toList) (noBlock : ¬['/', '*'] <:+: f.name.toList) :
    (readInterface (s.text (f.operatorText h))).map InterfaceFile.unplaced =
      .ok (s.interface (f.alone h)) ↔ '<' ∉ f.name.toList.tail := by
  obtain ⟨xs, spelled, parts, fitting⟩ := exists_operatorPieces operator noLine noBlock
  have begins := beginsItem_piecesNamed f xs
  have stands := stands_piecesNamed behind fitting
  have name : String.ofList (spell xs) = f.name := by rw [spelled, String.ofList_toList]
  rw [operatorText_eq h spelled, ← spelled]
  cases xs with
  | nil => exact absurd name.symm some
  | cons x xs =>
    rw [mem_tail_spell_iff (parts x List.mem_cons_self)]
    constructor
    · intro read less
      rcases isNotRead_or_isReadAs behind parts less with fails | ⟨other, differs, reads⟩
      · obtain ⟨e, failed⟩ := exists_error_of_isNotRead around writable begins stands fails
        rw [failed] at read
        cases read
      · rw [readInterface_of_isReadAs around writable begins stands reads] at read
        have same := functions_eq_of_interface_eq (Except.ok.inj read)
        have names : other = f.name := congrArg DeclaredFunction.name (List.cons.inj same).1
        exact differs (names.trans name.symm)
    · intro noLess
      have reads := isReadAs_of_parts (h := h) behind parts noLess
      rw [name] at reads
      exact readInterface_of_isReadAs around writable begins stands reads

/-- A static function that takes two operands. -/
def binaryFunction (op : String) (operand result : TypeExpr) : WrittenFunction where
  name := op
  generics := []
  parameters := [⟨[], "lhs", none, operand, none⟩, ⟨[], "rhs", none, operand, none⟩]
  result := some result

/-- The line of a static function that takes two operands. -/
def binaryLine (op : String) (operand result : TypeExpr) : String :=
  "static func " ++ op ++ " (lhs: " ++ operand.text ++ ", rhs: " ++ operand.text ++ ") -> " ++
    result.text

/-- The declaration of a static function that takes two operands. -/
def declaredBinary (op : String) (operand result : TypeExpr) : DeclaredFunction where
  name := op
  parameters := [⟨"lhs", none, operand, [], false⟩, ⟨"rhs", none, operand, [], false⟩]
  generics := []
  result := some result
  attributes := []
  modifiers := ["static"]
  availability := .always
  position := .start

theorem spell_behindName_binaryFunction (op : String) (operand result : TypeExpr) :
    spell (binaryFunction op operand result).behindName =
      ("(lhs: " ++ operand.text ++ ", rhs: " ++ operand.text ++ ") -> " ++ result.text).toList := by
  have parameter (name : String) :
      spell (WrittenParameter.mk [] name none operand none).pieces =
        (name ++ ": " ++ operand.text).toList := by
    simp [WrittenParameter.pieces, attributePieces, typedPieces, defaultPieces,
      TypeExpr.spell_pieces,
      TokenKind.label]
  have list : spell (parenPieces
      ((binaryFunction op operand result).parameters.map WrittenParameter.pieces)) = ("(" ++
        joinWith ", " ["lhs: " ++ operand.text, "rhs: " ++ operand.text] ++ ")").toList := by
    apply spell_parenPieces
    simp only [binaryFunction, List.map_cons, List.map_nil, parameter]
    simp
  have arrow : spell (resultPieces (some result)) = (" -> " ++ result.text).toList := by
    simp [resultPieces, TypeExpr.spell_pieces, TokenKind.label]
  have whole : (binaryFunction op operand result).behindName =
      parenPieces ((binaryFunction op operand result).parameters.map WrittenParameter.pieces) ++
        resultPieces (some result) := by
    rw [← List.append_nil (resultPieces _)]
    rfl
  rw [whole, spell_append, list, arrow]
  simp [joinWith]

theorem binaryLine_eq (op : String) (operand result : TypeExpr) :
    binaryLine op operand result =
      (binaryFunction op operand result).operatorText ⟨[], ["static"]⟩ := by
  have static : String.ofList (spell (WrittenHeading.mk [] ["static"]).pieces) = "static " := by
    decide
  have func : "static func " = "static " ++ "func " := by decide
  have list : " (lhs: " = " " ++ "(lhs: " := by decide
  have name : (binaryFunction op operand result).name = op := rfl
  unfold binaryLine
  simp only [WrittenFunction.operatorText, static, name, spell_behindName_binaryFunction,
    String.ofList_toList, func, list, String.append_assoc]

/-- An operator that takes two operands is declared under its own name, wherever its line stands, if
and only if no `<` stands behind its first character. -/
theorem readInterface_binaryLine_iff {s : Surroundings} (around : s.Writable) {op : String}
    (some : op ≠ "") (operator : ∀ c ∈ op.toList, isOperatorChar c = true)
    (noLine : ¬['/', '/'] <:+: op.toList) (noBlock : ¬['/', '*'] <:+: op.toList)
    {operand result : TypeExpr} (isOperand : IsFullType operand) (isResult : IsFullType result) :
    (readInterface (s.text (binaryLine op operand result))).map InterfaceFile.unplaced =
      .ok (s.interface ⟨[], [], [declaredBinary op operand result], [], []⟩) ↔
    '<' ∉ op.toList.tail := by
  have static : (WrittenHeading.mk [] ["static"]).Writable := ⟨nofun, Nat.zero_le 1, by decide⟩
  have parameter (name : String) (isWord : IsWord name) :
      (WrittenParameter.mk [] name none operand none).Writable :=
    ⟨nofun, isWord, nofun, isOperand, nofun⟩
  have behind : (binaryFunction op operand result).WritableBehindName := by
    refine ⟨List.nodup_nil, nofun, List.forall_mem_cons.2 ⟨?_, List.forall_mem_singleton.2 ?_⟩, ?_⟩
    · exact parameter "lhs" (isWord_of_name rfl (by decide) (by decide))
    · exact parameter "rhs" (isWord_of_name rfl (by decide) (by decide))
    · rintro _ ⟨⟩
      exact isResult
  rw [binaryLine_eq]
  exact readInterface_operatorText_iff around static behind some operator noLine noBlock

/-- The type of amounts. -/
def moneyType : TypeExpr := .named "Money" []

/-- An import, and a struct with a property in front of a line. -/
def moneyStruct : Surroundings :=
  .within [.importing ⟨[], []⟩ ["Core"]] ⟨[], ["public"]⟩ .structType moneyType []
    (.among [.property ⟨[], ["static"]⟩ false "zero" moneyType] []) []

theorem readInterface_binaryLine_iff_money :
    moneyStruct.text (binaryLine "<=" moneyType (.named "Bool" [])) =
        String.ofList (List.flatMap String.toList
          ["import Core\n", "public struct Money \x7b\n", "static var zero: Money\n",
            "static func <= (lhs: Money, rhs: Money) -> Bool\n", "\x7d\n"]) ∧
      (readInterface (moneyStruct.text (binaryLine "<=" moneyType (.named "Bool" [])))).map
          InterfaceFile.unplaced =
        .ok (moneyStruct.interface
          ⟨[], [], [declaredBinary "<=" moneyType (.named "Bool" [])], [], []⟩) := by
  have declared (name : String) (known : name ∈ ["Core", "Money", "Bool"]) : IsDeclared name := by
    simp only [List.mem_cons, List.not_mem_nil, or_false] at known
    rcases known with rfl | rfl | rfl <;>
      exact ⟨⟨isWord_of_name rfl (by decide) (by decide), by decide⟩, by decide⟩
  have zero : IsWord "zero" := isWord_of_name rfl (by decide) (by decide)
  have money : IsFullType moneyType := (declared "Money" (by decide)).isFullType
  have operator : ∀ c ∈ "<=".toList, isOperatorChar c = true :=
    List.all_eq_true.1 (by decide +kernel)
  have around : moneyStruct.Writable := by
    refine ⟨List.forall_mem_singleton.2 (.importing _ _ ⟨nofun, by decide, nofun⟩ (by decide)
      (List.forall_mem_singleton.2 (declared _ (by decide)))), ⟨nofun, by decide, by decide⟩,
      ⟨_, declared _ (by decide), rfl⟩, nofun, ⟨List.forall_mem_singleton.2 ?_, nofun⟩, nofun⟩
    exact .property _ _ _ _ ⟨nofun, by decide, by decide⟩ zero money
  exact ⟨by decide +kernel, (readInterface_binaryLine_iff around (by decide) operator
    (by decide +kernel) (by decide +kernel) money (declared "Bool" (by decide)).isFullType).2
    (by decide +kernel)⟩

/-- A struct is not read at all if it has a shift to the left. -/
theorem leftShift_not_read :
    "<<".toList.all isOperatorChar = true ∧
      (readInterface (String.ofList (List.flatMap String.toList
        ["struct Money \x7b\n", "  static func << (lhs: Money, rhs: Money) -> Money\n",
          "\x7d\n"]))).isOk = false := by
  decide +kernel

end ViewModifiers.Interface
