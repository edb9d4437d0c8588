import ViewModifiers.Proofs.Interface.Brackets
import ViewModifiers.Proofs.Interface.InStep

/-!
# Brackets, names and attributes in step

A bracketed group ends at the same bracket in both streams, unless a brace is open that only the one
behind the declaration closes. So groups, expressions, dotted names and attributes are taken alike.
-/

namespace ViewModifiers.Interface

open Source TokenReader AttributeReader

variable {α : Type} {w : Setting} {s s' : TokenStream}

/-! ## Groups -/

/-- A group ends in both streams alike, unless the brace behind the declaration ends it in one; then
a brace is open at its bottom. -/
theorem groupFrom_inStep {opener : Token} (opener' : Token) {p : Position} (p' : Position)
    {due : List TokenKind} {bottom : TokenKind} {inner inner' ts ts' found : List Token}
    {u : TokenStream}
    (lowest : due.getLast? = some bottom) (part : ts <:+ w.piece) (same : shape ts = shape ts')
    (contents : inner.map Token.content = inner'.map Token.content)
    (run : groupFrom opener p due inner (ts ++ [w.brace]) = (.ok found, u)) :
    (u.ahead = [] ∧ bottom = .closeBrace) ∨
      ∃ found' u', groupFrom opener' p' due inner' (ts' ++ w.behind) = (.ok found', u') ∧
        found.map Token.content = found'.map Token.content ∧ w.Start u u' ∧
        u.ahead.length < ts.length + 1 := by
  induction ts generalizing ts' due inner inner' with
  | nil =>
    have closes : w.brace.kind.isCloser = true := by rw [w.closes]; rfl
    obtain ⟨gone, rfl⟩ := eq_singleton_of_groupFrom closes run
    exact .inl ⟨gone, (Option.some.inj lowest).symm.trans w.closes⟩
  | cons t ts ih =>
    obtain ⟨t', ts', rfl, content, -, later⟩ := exists_cons_of_shape same
    have part' : ts <:+ w.piece := (List.suffix_cons t ts).trans part
    have longer : (t :: inner).map Token.content = (t' :: inner').map Token.content := by
      rw [List.map_cons, List.map_cons, content, contents]
    have kind := Token.kind_eq content
    -- what is said of the group from the next token on
    have further {due' : List TokenKind} (lowest : due'.getLast? = some bottom)
        (run : groupFrom opener p due' (t :: inner) (ts ++ [w.brace]) = (.ok found, u)) :
        (u.ahead = [] ∧ bottom = .closeBrace) ∨
          ∃ found' u',
            groupFrom opener' p' due' (t' :: inner') (ts' ++ w.behind) = (.ok found', u') ∧
              found.map Token.content = found'.map Token.content ∧ w.Start u u' ∧
              u.ahead.length < (t :: ts).length + 1 := by
      refine (ih lowest part' later longer run).imp_right ?_
      rintro ⟨found', u', run', same, start, fewer⟩
      exact ⟨found', u', run', same, start, Nat.lt_succ_of_lt fewer⟩
    obtain ⟨d, later', rfl⟩ : ∃ d later', due = d :: later' :=
      List.exists_cons_of_ne_nil (by rintro rfl; cases lowest)
    rw [List.cons_append] at run
    rw [List.cons_append]
    rcases opens : t.kind.closer? with _ | closer
    · by_cases closes : t.kind.isCloser = true
      · have closes' : t'.kind.isCloser = true := by rw [← kind, closes]
        by_cases first : d = t.kind
        · subst first
          rw [groupFrom_of_due closes] at run
          rw [kind, groupFrom_of_due closes']
          cases later' with
          | nil =>
            cases run
            have along : w.Along ⟨ts ++ [w.brace], p⟩ ⟨ts' ++ w.behind, p'⟩ :=
              .mk ts ts' p p' part' later
            have noDot : t.kind ≠ .dot := by rintro is; rw [is] at closes; cases closes
            have start : w.Start _ _ := ⟨along, Setting.notBare_of_suffix part noDot⟩
            refine .inr ⟨inner'.reverse, _, rfl, ?_, start, ?_⟩
            · rw [List.map_reverse, List.map_reverse, contents]
            · simp
          | cons e later' => exact further lowest run
        · have other : (d :: later').head? ≠ some t.kind := fun is => first (Option.some.inj is)
          rw [groupFrom_of_not_due closes other] at run
          cases run
      · have plain := Bool.eq_false_iff.2 closes
        rw [groupFrom_of_plain opens plain] at run
        rw [groupFrom_of_plain (kind ▸ opens) (kind ▸ plain)]
        exact further lowest run
    · rw [groupFrom_of_opens opens] at run
      rw [groupFrom_of_opens (kind ▸ opens)]
      exact further lowest run

/-- A group in both streams. In the first one it may be a brace that is left open, which the one
behind the declaration closes. -/
theorem inStep_bracketGroup {closer : TokenKind} (opens : s.current.kind.closer? = some closer)
    (along : w.Along s s') :
    InStep (fun t => t.ahead = [] ∧ closer = .closeBrace) bracketGroup bracketGroup s s'
      fun found found' t t' => found.map Token.content = found'.map Token.content ∧
        w.Start t t' ∧ t.ahead.length < s.ahead.length := by
  have next := along.next (by rintro is; rw [is] at opens; cases opens)
  have opens' : s'.current.kind.closer? = some closer := by
    rw [← Token.kind_eq next.content, opens]
  intro found t run
  rw [run'_bracketGroup_of_opens opens] at run
  rw [run'_bracketGroup_of_opens opens']
  obtain ⟨ts, ts', p, p', part, same⟩ := along
  cases ts with
  | nil =>
    rw [List.nil_append, TokenStream.current_cons, w.closes] at opens
    cases opens
  | cons u ts =>
    obtain ⟨u', ts', rfl, -, -, later⟩ := exists_cons_of_shape same
    have ends := groupFrom_inStep u' p' rfl ((List.suffix_cons u ts).trans part) later rfl run
    refine ends.imp_right ?_
    rintro ⟨found', t', run', contents, start, fewer⟩
    refine ⟨found', t', run', contents, start, Nat.lt_of_lt_of_le fewer ?_⟩
    simp

theorem inStep_groupBehind? {t t' : Token} (linked : w.Linked t t' s s') (start : w.Start s s') :
    InStep never (groupBehind? t) (groupBehind? t') s s' fun found found' u u' =>
      found.map (·.map Token.content) = found'.map (·.map Token.content) ∧ w.Start u u' ∧
        u.ahead.length ≤ s.ahead.length := by
  have same : s.current.kind = .openParen ↔ s'.current.kind = .openParen :=
    start.along.kind_iff rfl
  refine inStep_look (run'_current s) (run'_current s') (inStep_ite ?_ (fun here => ?_) fun _ => ?_)
  · by_cases open_ : s.current.kind = .openParen
    · have more : ¬w.Over s := fun isOver => isOver.current_ne (by decide) (by decide) open_
      rw [linked.followed more, open_, same.1 open_]
    · simp [open_, mt same.2 open_]
  · simp only [Bool.and_eq_true, decide_eq_true_eq] at here
    have opens : s.current.kind.closer? = some .closeParen := by rw [here.1]; rfl
    refine (inStep_bracketGroup opens start.along).bind_of_lost ?_ ?_
    · rintro found u ⟨-, impossible⟩
      cases impossible
    · rintro found found' u u' ⟨contents, start, fewer⟩
      exact inStep_pure ⟨congrArg some contents, start, Nat.le_of_lt fewer⟩
  · exact inStep_pure ⟨rfl, start, Nat.le_refl _⟩

/-! ## Expressions -/

/-- A step of an expression in both streams. -/
theorem inStep_passExpression (terminators : List TokenKind) (along : w.Along s s') :
    InStep w.Over (passExpression terminators) (passExpression terminators) s s'
      fun _ _ t t' => w.Along t t' ∧ t.ahead.length ≤ s.ahead.length := by
  refine inStep_iterate (fun _ _ t t' => w.Along t t' ∧ t.ahead.length ≤ s.ahead.length)
    (fun _ _ _ _ inv => inv.1) ?_ ?_ ⟨along, Nat.le_refl _⟩
  · refine fun _ => staysLost_over (fun t => ?_ : ∀ t, Fares True _ t fun _ _ => True)
    refine fares_look (run'_current t) ?_
    split
    · exact fares_pure trivial
    · split
      · next opens => exact (leaves_bracketGroup opens).bind fun _ _ _ => fares_pure trivial
      · exact (leaves_advance_le t).bind fun _ _ _ => fares_pure trivial
  · rintro - - t t' goes ⟨along, le⟩
    have next := along.next_of_not_over goes
    refine inStep_look (run'_current t) (run'_current t') ?_
    have kind := Token.kind_eq next.content
    refine inStep_ite (by rw [kind]) (fun _ => inStep_pure ⟨along, le⟩) fun _ => ?_
    have stop (u u' : TokenStream) (along : w.Along u u')
        (fewer : u.ahead.length < t.ahead.length) :
        InStep w.Over (return .inl () : TokenReader (Unit ⊕ Unit)) (return .inl ()) u u'
          (AfterBoth (fun _ _ t t' => w.Along t t' ∧ t.ahead.length ≤ s.ahead.length)
            (fun _ _ t t' => w.Along t t' ∧ t.ahead.length ≤ s.ahead.length) t.ahead.length) :=
      inStep_pure ⟨fewer, along, Nat.le_trans (Nat.le_of_lt fewer) le⟩
    refine inStep_ite (by rw [kind]) (fun opens => ?_) fun _ => ?_
    · obtain ⟨closer, opens⟩ := Option.isSome_iff_exists.1 opens
      refine (inStep_bracketGroup opens along).bind_of_lost ?_ fun _ _ u u' ends => ?_
      · rintro _ u ⟨none, -⟩ a v run
        cases run
        exact .inr none
      · exact stop u u' ends.2.1.along ends.2.2
    · refine (inStep_advance next).bind fun _ _ u u' took => ?_
      rw [took.rest, took.rest']
      exact stop _ _ next.along next.shorter

/-! ## Names -/

theorem TokenKind.ne_dot_of_isNameLike {kind : TokenKind} (isName : kind.isNameLike = true) :
    kind ≠ .dot := by
  rintro rfl
  cases isName

/-- Names joined by dots, and what holds of the last of them. -/
theorem inStep_dottedNames (along : w.Along s s') :
    InStep never dottedNames dottedNames s s' fun found found' t t' =>
      found.1 = found'.1 ∧ w.Linked found.2 found'.2 t t' ∧ w.Start t t' ∧
        t.ahead.length < s.ahead.length := by
  refine (inStep_expectName along).bind fun first first' t t' ⟨isName, took⟩ => ?_
  have noDot := TokenKind.ne_dot_of_isNameLike isName
  refine inStep_iterate (fun found found' u u' => found.1 = found'.1 ∧
    w.Linked found.2 found'.2 u u' ∧ w.Start u u' ∧ u.ahead.length < s.ahead.length)
    (fun _ _ _ _ inv => inv.2.2.1.along) (fun _ _ isLost => isLost.elim) ?_
    ⟨?_, took.linked, took.start noDot, took.shorter⟩
  · rintro ⟨names, last⟩ ⟨names', last'⟩ u u' - ⟨same, linked, start, fewer⟩
    refine inStep_ite_dotted start.along (fun _ isName next next' => ?_) ?_
    · have noDot := TokenKind.ne_dot_of_isNameLike isName
      refine (inStep_advance next).bind fun _ _ v v' took => ?_
      rw [took.rest, took.rest']
      refine (inStep_advance next').bind fun name name' v v' took => ?_
      have less := Nat.lt_trans took.shorter next.shorter
      refine inStep_pure ⟨less, ?_, took.linked, took.start noDot, Nat.lt_trans less fewer⟩
      show _ :: names = _ :: names'
      rw [show names = names' from same, Token.value_eq took.linked.content]
    · refine inStep_pure ⟨?_, linked, start, fewer⟩
      show names.reverse = names'.reverse
      rw [show names = names' from same]
  · show [first.value] = [first'.value]
    rw [Token.value_eq took.linked.content]

/-! ## Attributes -/

theorem inStep_attribute? (start : w.Start s s')
    (sign : s.current.kind = .atSign ↔ s'.current.kind = .atSign) :
    InStep never attribute? attribute? s s' fun found found' t t' =>
      found = found' ∧ w.Start t t' ∧
        t.ahead.length < s.ahead.length + found.elim 1 fun _ => 0 := by
  refine inStep_ite_accept_of_iff sign (fun here => ?_) fun _ => ?_
  · have next := start.along.next (by rw [here]; decide)
    refine (inStep_dottedNames next.along).bind ?_
    rintro ⟨names, last⟩ ⟨names', last'⟩ t t' ⟨same, linked, start, fewer⟩
    obtain rfl : names = names' := same
    refine (inStep_groupBehind? linked start).bind fun found found' u u' ⟨contents, start, le⟩ => ?_
    have less : u.ahead.length < s.ahead.length :=
      Nat.lt_of_le_of_lt le (Nat.lt_trans fewer next.shorter)
    rcases found with _ | inner <;> rcases found' with _ | inner'
    · exact inStep_pure ⟨rfl, start, less⟩
    · cases contents
    · cases contents
    · obtain ⟨text, availability⟩ := arguments_eq (Option.some.inj contents)
      refine inStep_pure ⟨?_, start, less⟩
      rw [text, availability]
  · exact inStep_pure ⟨rfl, start, Nat.lt_succ_self _⟩

theorem inStep_attributes (lost : TokenStream → Prop) (stays : StaysLost lost attribute?)
    (sign : ∀ t t', ¬lost t → w.Start t t' →
      (t.current.kind = .atSign ↔ t'.current.kind = .atSign)) (start : w.Start s s') :
    InStep lost (many attribute?) (many attribute?) s s' fun found found' t t' =>
      found = found' ∧ w.Start t t' ∧ t.ahead.length ≤ s.ahead.length := by
  have attributes : InStep lost (many attribute?) (many attribute?) s s'
      fun found found' t t' => found.map id = found'.map id ∧ w.Start t t' ∧
        t.ahead.length ≤ s.ahead.length := by
    refine inStep_many (fun _ _ start => start.along) stays ?_ start
    rintro t t' more start -
    refine (inStep_attribute? start (sign t t' more start)).mono (fun _ => False.elim) ?_
    rintro found found' u u' ⟨rfl, start, fewer⟩
    exact ⟨rfl, start, fewer⟩
  refine attributes.imp ?_
  rintro found found' t t' ⟨same, rest⟩
  exact ⟨by simpa using same, rest⟩

theorem inStep_readAttributes (start : w.Start s s') :
    InStep w.Over readAttributes readAttributes s s' fun found found' t t' =>
      found = found' ∧ w.Start t t' ∧ t.ahead.length ≤ s.ahead.length := by
  have stays : StaysLost w.Over attribute? := staysLost_over fares_attribute?
  refine (inStep_attributes w.Over stays ?_ start).bind_of_lost ?_ ?_
  · intro t t' more start
    rw [Token.kind_eq (start.along.next_of_not_over more).content]
  · rintro found t isOver _ _ ⟨⟩
    exact isOver
  · rintro found _ t t' ⟨rfl, start, le⟩
    exact inStep_pure ⟨rfl, start, le⟩

/-- Attributes are read alike if none is behind them. -/
theorem inStep_readAttributes_of_ne (noSign : nextKind w.behind ≠ .atSign) (start : w.Start s s') :
    InStep never readAttributes readAttributes s s' fun found found' t t' =>
      found = found' ∧ w.Along t t' := by
  refine (inStep_attributes never (fun _ isLost => isLost.elim) ?_ start).bind ?_
  · exact fun t t' _ start => start.along.kind_iff_of_ne (by decide) noSign
  · rintro found _ t t' ⟨rfl, start, le⟩
    exact inStep_pure ⟨rfl, start.along⟩

end ViewModifiers.Interface
