import ViewModifiers.Proofs.Interface.InterfaceReading

/-!
# The surroundings of a line

A line of an interface stands among items, at the top or inside declarations with members, at any
depth. Reading the whole text comes to the line, and goes on behind it with whatever the line was
read as (`Surroundings.arrives`). So what the line declares takes its place among the other
declarations, and nothing is read if the line is not (`Surroundings.readInterface_of_reads`,
`Surroundings.exists_error_of_fails`).
-/

namespace ViewModifiers.Interface

open Source Text TokenReader DeclarationReader

/-- Items around a line, which may stand inside declarations with members. -/
inductive Surroundings
  | among (before after : List WrittenItem)
  | within (before : List WrittenItem) (heading : WrittenHeading) (kind : TypeKind)
      (subject : TypeExpr) (inherits : List TypeExpr) (inside : Surroundings)
      (after : List WrittenItem)

/-- The pieces of a declaration with members behind its heading and up to its members. -/
def openingPieces (kind : TypeKind) (subject : TypeExpr) (inherits : List TypeExpr) : List Piece :=
  .word kind.keyword.spelling :: .space :: (subject.pieces ++
    (inheritedPieces inherits ++ [.space, .sign .openBrace, .newline]))

theorem scopePieces_eq (kind : TypeKind) (subject : TypeExpr) (inherits : List TypeExpr)
    (inside : List Piece) : scopePieces kind subject inherits inside =
      openingPieces kind subject inherits ++ (inside ++ [.sign .closeBrace]) := by
  simp only [scopePieces, openingPieces, List.cons_append, List.append_assoc, List.nil_append]

/-- The declaration with some members that stands at a place. -/
def declaredScope (h : WrittenHeading) (kind : TypeKind) (subject : TypeExpr)
    (inherits : List TypeExpr) (m : Members) (position : Position) : DeclaredType :=
  ⟨kind, subject.text, inherits, h.declared, h.modifiers, h.availability, m.functions, m.cases,
    m.properties, m.types, position⟩

/-- The declaration with some members as the only member of its scope. -/
def scopeAlone (h : WrittenHeading) (kind : TypeKind) (subject : TypeExpr)
    (inherits : List TypeExpr) (m : Members) : Members :=
  ⟨[], [declaredScope h kind subject inherits m .start], [], [], []⟩

/-- A declaration found behind others comes last, with its members, wherever these stand. -/
theorem unplaced_reversed_cons_scope (h : WrittenHeading) (kind : TypeKind) (subject : TypeExpr)
    (inherits : List TypeExpr) (m : Members) (position : Position) (found : Members) :
    Members.unplaced (Members.reversed { found with
        types := declaredScope h kind subject inherits m position :: found.types }) =
      found.reversed.unplaced.append (scopeAlone h kind subject inherits m.unplaced) := by
  simp only [Members.reversed, Members.unplaced, Members.append, List.reverse_cons,
    DeclaredType.unplacedTypes_eq_map, List.map_append, List.map_cons, List.map_nil,
    List.append_nil, scopeAlone, declaredScope, DeclaredType.unplaced_eq]

namespace Surroundings

/-- The text with a line in it. -/
def text (line : String) : Surroundings → String
  | among before after =>
    WrittenItem.text before ++ line ++ "\n" ++ WrittenItem.text after
  | within before h kind subject inherits inside after =>
    WrittenItem.text before ++ String.ofList (spell h.pieces) ++
      String.ofList (spell (openingPieces kind subject inherits)) ++ inside.text line ++ "\x7d\n" ++
      WrittenItem.text after

/-- The pieces of the text with a line in it. -/
def pieces (line : List Piece) : Surroundings → List Piece
  | among before after =>
    WrittenItem.linesOf before ++ (line ++ .newline :: WrittenItem.linesOf after)
  | within before h kind subject inherits inside after =>
    WrittenItem.linesOf before ++ (h.pieces ++
      scopePieces kind subject inherits (inside.pieces line) ++
        .newline :: WrittenItem.linesOf after)

/-- All members of the outermost scope, if the line gives some members. -/
def members (gives : Members) : Surroundings → Members
  | among before after =>
    (WrittenItem.members before).append (gives.append (WrittenItem.members after))
  | within before h kind subject inherits inside after =>
    (WrittenItem.members before).append
      ((scopeAlone h kind subject inherits (inside.members gives)).append
        (WrittenItem.members after))

/-- The whole interface, if the line gives some members. -/
def interface (gives : Members) (s : Surroundings) : InterfaceFile :=
  ⟨(s.members gives).imports, (s.members gives).types, (s.members gives).functions⟩

/-- No name or type around the line is taken for anything else. -/
def Writable : Surroundings → Prop
  | among before after => (∀ item ∈ before, item.Writable) ∧ ∀ item ∈ after, item.Writable
  | within before h kind subject inherits inside after =>
    (∀ item ∈ before, item.Writable) ∧ h.Writable ∧ IsSubject kind subject ∧
      (∀ t ∈ inherits, IsFullType t) ∧ inside.Writable ∧ ∀ item ∈ after, item.Writable

variable {s : Surroundings} {line : List Piece}

/-! ## Scanning -/

theorem ofList_spell_pieces (s : Surroundings) (line : List Piece) :
    String.ofList (spell (s.pieces line)) = s.text (String.ofList (spell line)) := by
  have newline (xs : List Piece) : spell (Piece.newline :: xs) = '\n' :: spell xs := rfl
  have brace : TokenKind.closeBrace.label.toList = ['\x7d'] := rfl
  induction s with
  | among before after =>
    apply String.toList_inj.1
    simp [pieces, text, WrittenItem.text, spell_append, newline]
  | within before h kind subject inherits inside after ih =>
    apply String.toList_inj.1
    rw [text, ← ih]
    simp [pieces, WrittenItem.text, spell_append, scopePieces_eq, newline, brace]

/-- The text fits if the line stands in front of the end of its line. -/
theorem Writable.fitting (writable : s.Writable) (stands : Stands line) (rest : List Char) :
    Fitting (s.pieces line) rest := by
  have items {items : List WrittenItem} (each : ∀ item ∈ items, item.Writable) (rest : List Char) :
      Fitting (WrittenItem.linesOf items) rest :=
    fitting_linesOf (fun item there => (each item there).stands) rest
  induction s generalizing rest with
  | among before after =>
    obtain ⟨first, last⟩ := writable
    refine (items first _).append ((stands _ ?_).append ⟨Piece.fits_newline _, items last rest⟩)
    exact apart_cons (by decide)
  | within before h kind subject inherits inside after ih =>
    obtain ⟨first, heading, isSubject, each, around, last⟩ := writable
    have scope (rest : List Char) := fitting_scopePieces isSubject each (ih around) rest
    exact (items first _).append (((heading.fitting _).append (scope _)).append
      ⟨Piece.fits_newline _, items last rest⟩)

end Surroundings

/-! ## Arriving at a declaration -/

section Arriving

variable {α β : Type} {body : TokenReader Members} {h : WrittenHeading} {xs : List Piece}
  {r : TokenReader α} {s : TokenStream} {ts us : List Token} {finish : Position}
  {Answers : Members → α → Prop}

/-- A reader comes to a declaration, of which the pieces behind its heading are left. Behind the
declaration it succeeds, with an answer to the members that the declaration gives. -/
def Arrives (body : TokenReader Members) (h : WrittenHeading) (xs : List Piece)
    (r : TokenReader α) (s : TokenStream) (ts : List Token) (finish : Position)
    (Answers : Members → α → Prop) : Prop :=
  ∃ (found : Members) (q : Position) (us : List Token) (goesOn : Members → TokenReader α),
    EndsItem us ∧
    r.run' s = (declarationBehind body found h.declared h.modifiers h.availability >>=
      goesOn).run' ⟨placed q xs ++ us, finish⟩ ∧
    ∀ m gives, m.reversed.unplaced = found.reversed.unplaced.append gives →
      ∃ a, (goesOn m).run' ⟨us, finish⟩ = (.ok a, ⟨ts, finish⟩) ∧ Answers gives a

/-- What comes to a declaration does so with another reader behind it. -/
theorem Arrives.bind (arrives : Arrives body h xs r s ts finish Answers) {f : α → TokenReader β}
    {Answers' : Members → β → Prop}
    (later : ∀ gives a, Answers gives a →
      ∃ b, (f a).run' ⟨ts, finish⟩ = (.ok b, ⟨us, finish⟩) ∧ Answers' gives b) :
    Arrives body h xs (r >>= f) s us finish Answers' := by
  obtain ⟨found, q, behind, goesOn, ends, read, answers⟩ := arrives
  refine ⟨found, q, behind, fun m => goesOn m >>= f, ends, ?_, fun m gives given => ?_⟩
  · rw [← bind_assoc, run'_bind, read, ← run'_bind]
  · obtain ⟨a, ran, answer⟩ := answers m gives given
    obtain ⟨b, ran', answer'⟩ := later gives a answer
    exact ⟨b, (run'_bind_of_ok ran).trans ran', answer'⟩

theorem Arrives.of_run' (arrives : Arrives body h xs r s ts finish Answers) {r' : TokenReader α}
    {s' : TokenStream} (same : r'.run' s' = r.run' s) :
    Arrives body h xs r' s' ts finish Answers := by
  obtain ⟨found, q, us, goesOn, ends, read, answers⟩ := arrives
  exact ⟨found, q, us, goesOn, ends, same.trans read, answers⟩

variable {n : Nat} {before after : List WrittenItem} {terminator : TokenKind}

/-- The members of a scope are read up to a declaration among them, and on behind it. -/
theorem arrives_membersWith (bodies : ReadsBodies body n) (first : ∀ item ∈ before, item.Writable)
    (last : ∀ item ∈ after, item.Writable)
    (smallBefore : (WrittenItem.linesOf before).countP Piece.isToken ≤ n)
    (smallAfter : (WrittenItem.linesOf after).countP Piece.isToken ≤ n) (writable : h.Writable)
    (begins : ∀ q ts, BeginsItem (placed q xs ++ ts))
    (closer : terminator ∈ [.closeBrace, .endOfFile]) (p finish : Position) (ends : EndsItem ts)
    (closes : nextKind ts = terminator) :
    Arrives body h xs (membersWith body terminator)
      ⟨placed p (WrittenItem.linesOf before ++
        (h.pieces ++ xs ++ .newline :: WrittenItem.linesOf after)) ++ ts, finish⟩ ts finish
      fun gives l => l.unplaced = (WrittenItem.members before).append
        (gives.append (WrittenItem.members after)) := by
  let q := p.after (spell (WrittenItem.linesOf before))
  let q' := q.after (spell h.pieces)
  let later := placed (q'.after (spell xs)) (.newline :: WrittenItem.linesOf after) ++ ts
  have tokens : placed p (WrittenItem.linesOf before ++
      (h.pieces ++ xs ++ .newline :: WrittenItem.linesOf after)) ++ ts =
      placed p (WrittenItem.linesOf before) ++ (placed q (h.pieces ++ xs) ++ later) := by
    rw [placed_append, placed_append, spell_append, Position.after_append, List.append_assoc,
      List.append_assoc]
  obtain ⟨found, steps, members⟩ := exists_steps_members bodies first smallBefore closer .empty p
    finish (endsItem_heading h writable.modifiers (fun r => begins r later) q)
  -- The declaration uses up a token, so enough steps are left behind it.
  have filled : 0 < (placed q (h.pieces ++ xs)).length := by
    have tokens := countP_pos_of_begins begins
    rw [length_placed, List.countP_append]
    omega
  have shorter : later.length < (placed q (h.pieces ++ xs) ++ later).length :=
    Nat.lt_of_lt_of_eq (Nat.lt_add_of_pos_left filled) List.length_append.symm
  obtain ⟨left, enough, goesOn⟩ := exists_iterate_of_next steps
    (run'_memberStep_declaration writable (fun r => begins r later) closer found q finish)
    (Nat.zero_lt_of_lt shorter)
  have enoughLater := Nat.le_of_lt_succ (Nat.lt_of_lt_of_le shorter enough)
  refine ⟨found, q', later, iterateFrom (memberStep body terminator) left, ?_, ?_, ?_⟩
  · exact endsItem_linesOf last _ ends
  · rw [membersWith_eq, tokens]
    exact goesOn
  · intro m gives given
    obtain ⟨l, steps', members'⟩ :=
      exists_steps_members bodies last smallAfter closer m _ finish ends
    refine ⟨l.reversed, run'_iterateFrom steps' (run'_memberStep_end closes l finish) left
      enoughLater, ?_⟩
    rw [given, members, Members.append_assoc] at members'
    exact members'

/-- What comes to a declaration with members comes to a declaration inside it, and closes its scope
behind that. -/
theorem Arrives.within {h₀ : WrittenHeading} {kind : TypeKind} {subject : TypeExpr}
    {inherits : List TypeExpr} {inside : List Piece} {lines whole : Members → Members}
    {body : TokenReader Members} {r : TokenReader Members}
    (level : Arrives body h₀ (scopePieces kind subject inherits inside) r s ts finish
      fun gives l => l.unplaced = whole gives)
    (isSubject : IsSubject kind subject) (each : ∀ t ∈ inherits, IsFullType t)
    (inner : ∀ p us, EndsItem us → nextKind us = .closeBrace →
      ∃ body', Arrives body' h xs body ⟨placed p inside ++ us, finish⟩ us finish
        fun gives l => l.unplaced = lines gives) :
    ∃ body', Arrives body' h xs r s ts finish fun gives l =>
      l.unplaced = whole (scopeAlone h₀ kind subject inherits (lines gives)) := by
  obtain ⟨found, q, us, goesOn, -, read, answers⟩ := level
  obtain ⟨b, c, scopeRead⟩ := exists_run'_declarationBehind_body body isSubject each inside found
    h₀.declared h₀.modifiers h₀.availability q us finish
  obtain ⟨body', arrives⟩ := inner b (⟨.closeBrace, "\x7d", c⟩ :: us) (.brace rfl) rfl
  have behind (gives m : Members) (given : m.unplaced = lines gives) :
      ∃ l : Members, ((expect .closeBrace >>= fun _ => goesOn { found with
          types := declaredScope h₀ kind subject inherits m q :: found.types }) :
          TokenReader Members).run' ⟨⟨.closeBrace, "\x7d", c⟩ :: us, finish⟩ =
        (.ok l, ⟨ts, finish⟩) ∧
        l.unplaced = whole (scopeAlone h₀ kind subject inherits (lines gives)) := by
    obtain ⟨l, ran, answer⟩ := answers _ _
      (unplaced_reversed_cons_scope h₀ kind subject inherits m q found)
    rw [given] at answer
    exact ⟨l, (run'_bind_of_ok (run'_expect_self _ _ _ _ _)).trans ran, answer⟩
  refine ⟨body', (arrives.bind behind).of_run' (read.trans ?_)⟩
  rw [run'_bind, scopeRead, ← run'_bind]
  simp only [bind_assoc, pure_bind]
  rfl

/-- The members of the outermost scope are read up to a declaration on a line of its own, and on
behind it. -/
theorem Surroundings.arrives {s : Surroundings} (around : s.Writable) (writable : h.Writable)
    (begins : ∀ q ts, BeginsItem (placed q xs ++ ts)) (measure : List Token)
    (small : (s.pieces (h.pieces ++ xs)).countP Piece.isToken ≤ measure.length)
    (closer : terminator ∈ [.closeBrace, .endOfFile]) (p finish : Position) (ends : EndsItem ts)
    (closes : nextKind ts = terminator) :
    ∃ body, Arrives body h xs (membersFrom measure terminator)
      ⟨placed p (s.pieces (h.pieces ++ xs)) ++ ts, finish⟩ ts finish
      fun gives l => l.unplaced = s.members gives := by
  induction s generalizing measure terminator p ts with
  | among before after =>
    obtain ⟨first, last⟩ := around
    have tokens := countP_pos_of_begins begins
    rw [pieces, List.countP_append, List.countP_append, List.countP_append,
      List.countP_cons_of_neg Bool.false_ne_true] at small
    obtain ⟨t, measure, rfl⟩ := List.exists_cons_of_length_pos (l := measure) (by omega)
    rw [List.length_cons] at small
    exact ⟨_, arrives_membersWith (readsBodies_membersFrom measure) first last (by omega)
      (by omega) writable begins closer p finish ends closes⟩
  | within before h₀ kind subject inherits inside after ih =>
    obtain ⟨first, heading, isSubject, each, around, last⟩ := around
    have fewer := countP_scopePieces_lt kind subject inherits (inside.pieces (h.pieces ++ xs))
    rw [pieces, List.countP_append, List.countP_append, List.countP_append,
      List.countP_cons_of_neg Bool.false_ne_true] at small
    obtain ⟨t, measure, rfl⟩ := List.exists_cons_of_length_pos (l := measure) (by omega)
    rw [List.length_cons] at small
    have begins₀ := beginsItem_scopePieces isSubject inherits (inside.pieces (h.pieces ++ xs))
    have level := arrives_membersWith (readsBodies_membersFrom measure) first last (by omega)
      (by omega) heading begins₀ closer p finish ends closes
    exact level.within isSubject each fun q us ends closes =>
      ih around measure (by omega) List.mem_cons_self q ends closes

end Arriving

/-! ## Lines in a whole text -/

namespace Surroundings

variable {s : Surroundings} {h : WrittenHeading} {xs : List Piece} {gives : Members}

/-- A declaration behind its heading is read as some members, whatever is found around it. -/
def IsReadAs (h : WrittenHeading) (xs : List Piece) (gives : Members) : Prop :=
  ∀ (body : TokenReader Members) found q us finish, EndsItem us →
    ∃ m, (declarationBehind body found h.declared h.modifiers h.availability).run'
        ⟨placed q xs ++ us, finish⟩ = (.ok m, ⟨us, finish⟩) ∧
      m.reversed.unplaced = found.reversed.unplaced.append gives

/-- A declaration behind its heading is not read, whatever is found around it. -/
def IsNotRead (h : WrittenHeading) (xs : List Piece) : Prop :=
  ∀ (body : TokenReader Members) found q us finish, EndsItem us →
    Fails (declarationBehind body found h.declared h.modifiers h.availability)
      ⟨placed q xs ++ us, finish⟩

/-- An interface is read up to a declaration on a line of its own, and on behind it. -/
theorem arrives_readSourceFile (around : s.Writable) (writable : h.Writable)
    (begins : ∀ q ts, BeginsItem (placed q xs ++ ts)) (finish : Position) :
    ∃ body, Arrives body h xs readSourceFile
      ⟨placed .start (s.pieces (h.pieces ++ xs)), finish⟩ [] finish
      fun gives f => f.unplaced = s.interface gives := by
  obtain ⟨body, arrives⟩ := arrives around writable begins
    (placed .start (s.pieces (h.pieces ++ xs))) (by rw [length_placed])
    (by decide : TokenKind.endOfFile ∈ [.closeBrace, .endOfFile]) .start finish .finish rfl
  rw [List.append_nil] at arrives
  have read : Arrives body h xs (DeclarationReader.members .endOfFile)
      ⟨placed .start (s.pieces (h.pieces ++ xs)), finish⟩ [] finish
      fun gives l => l.unplaced = s.members gives := arrives.of_run' (run'_bind_of_ok (run'_get _))
  refine ⟨body, read.bind fun gives m given => ⟨_, run'_pure _ _, ?_⟩⟩
  rw [interface, ← given]
  rfl

/-- The text with a line in it is scanned as its tokens. -/
theorem scan_text (around : s.Writable) (writable : h.Writable) (stands : Stands xs) :
    ∃ finish, scan (s.text (String.ofList (spell (h.pieces ++ xs)))) =
      .ok ⟨placed .start (s.pieces (h.pieces ++ xs)), finish⟩ := by
  have line : Stands (h.pieces ++ xs) := fun rest apart =>
    (writable.fitting _).append (stands rest apart)
  rw [← ofList_spell_pieces]
  exact ⟨_, scan_of_fitting (around.fitting line [])⟩

/-- What a declaration on a line of its own is read as takes its place in the interface. -/
theorem readInterface_of_isReadAs (around : s.Writable) (writable : h.Writable)
    (begins : ∀ q ts, BeginsItem (placed q xs ++ ts)) (stands : Stands xs)
    (reads : IsReadAs h xs gives) :
    (readInterface (s.text (String.ofList (spell (h.pieces ++ xs))))).map InterfaceFile.unplaced =
      .ok (s.interface gives) := by
  obtain ⟨finish, scanned⟩ := scan_text around writable stands
  obtain ⟨body, found, q, us, goesOn, ends, read, answers⟩ :=
    arrives_readSourceFile around writable begins finish
  obtain ⟨m, lineRead, given⟩ := reads body found q us finish ends
  obtain ⟨f, ran, answer⟩ := answers m gives given
  rw [run'_bind_of_ok lineRead, ran] at read
  rw [readInterface, scanned, ← answer]
  change (readSourceFile.run' _).1.map InterfaceFile.unplaced = _
  rw [read]
  rfl

/-- Where a declaration is not read, the interface around it is not read either. -/
theorem exists_error_of_isNotRead (around : s.Writable) (writable : h.Writable)
    (begins : ∀ q ts, BeginsItem (placed q xs ++ ts)) (stands : Stands xs)
    (fails : IsNotRead h xs) :
    ∃ e, readInterface (s.text (String.ofList (spell (h.pieces ++ xs)))) = .error e := by
  obtain ⟨finish, scanned⟩ := scan_text around writable stands
  obtain ⟨body, found, q, us, goesOn, ends, read, -⟩ :=
    arrives_readSourceFile around writable begins finish
  obtain ⟨e, u, failed⟩ := ((fails body found q us finish ends).bind goesOn).of_run' read
  refine ⟨e, ?_⟩
  rw [readInterface, scanned]
  exact congrArg Prod.fst failed

/-- The functions that a line gives can be told from the interface. -/
theorem functions_eq_of_interface_eq {gives gives' : Members}
    (same : s.interface gives = s.interface gives') : gives.functions = gives'.functions := by
  have inside (s : Surroundings)
      (functions : (s.members gives).functions = (s.members gives').functions)
      (types : (s.members gives).types = (s.members gives').types) :
      gives.functions = gives'.functions := by
    induction s with
    | among before after =>
      simpa only [members, Members.append, List.append_cancel_left_eq,
        List.append_cancel_right_eq] using functions
    | within before h kind subject inherits inside after ih =>
      simp only [members, Members.append, scopeAlone, declaredScope, List.append_cancel_left_eq,
        List.append_cancel_right_eq, List.cons.injEq, DeclaredType.mk.injEq] at types
      obtain ⟨⟨-, -, -, -, -, -, functions, -, -, nested, -⟩, -⟩ := types
      exact ih functions nested
  exact inside s (congrArg InterfaceFile.functions same) (congrArg InterfaceFile.declarations same)

end Surroundings

end ViewModifiers.Interface
