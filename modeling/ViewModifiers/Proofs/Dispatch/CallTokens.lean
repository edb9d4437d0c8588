import ViewModifiers.Proofs.Dispatch.Agreement
import ViewModifiers.Proofs.Dispatch.Following
import ViewModifiers.Proofs.Stylesheet.Depth

/-!
# The tokens of a call

What a dispatcher uses up for a call is a brace with everything up to the brace that closes it. So a
call that is read in one text is read in any other text that has the same tokens
(`exists_read_of_same`).
-/

namespace ViewModifiers.Dispatch

open Catalog Stylesheet Stylesheet.Registry Text Reader Cursor

variable {r : Registry} {mayOmit : Prop} {d : Dispatcher} {c c' : Cursor}

/-! ## What is used up -/

theorem usesUp_overloadArguments (typed : r.AllTyped mayOmit) (s : Signature) :
    (overloadArguments r s).UsesUp fun ts _ => Phrase FractionReadable .arguments ts := by
  intro c values c' run
  obtain ⟨items, used, passes, list, corresponds⟩ := overloadArguments_eq_ok typed run
  refine ⟨used, passes, .arguments items used list fun tokens there => ?_⟩
  obtain ⟨_, _, answers⟩ := corresponds.answers tokens there
  exact answers.entry

theorem usesUp_firstOverload (typed : r.AllTyped mayOmit) (m : Modifier) (start : Token)
    (signatures : List Signature) : (firstOverload r m start signatures.zipIdx []).UsesUp
      fun ts _ => Phrase FractionReadable .arguments ts := by
  intro c found c' run
  obtain ⟨k, s, values, rfl, accepts⟩ := (run'_firstOverload_eq_ok_iff _ _ _).1 run
  exact usesUp_overloadArguments typed s c values c' accepts.accepted

theorem usesUp_readModifier (typed : r.AllTyped mayOmit) (m : Modifier) :
    (readModifier r m).UsesUp fun ts _ => IsCall ts := by
  intro c
  refine usesUpAt_bind_of_look (run'_current c) ?_
  refine (usesUp_callHeadOver isValueReader_any c).bind fun ⟨name, metadata⟩ start c₁ head _ => ?_
  by_cases other : name ≠ m.name
  · dsimp only
    rw [if_pos other]
    exact usesUpAt_failAt _ _ _
  · dsimp only
    rw [if_neg other]
    refine (usesUp_firstOverload typed m c.current m.signatures c₁).bind
      fun _ rest _ arguments _ => usesUpAt_pure ?_
    rw [List.append_nil]
    exact isCall_of_phrases head arguments

theorem usesUp_anyModifier : anyModifier.UsesUp fun ts _ => IsCall ts := by
  intro c
  refine UsesUpAt.map (P := fun ts _ => IsCall ts) ?_ fun _ _ isCall => isCall
  refine (usesUp_callHeadOver isValueReader_any c).bind fun _ start c₁ head _ => ?_
  exact (usesUp_argumentsOver isValueReader_any c₁).map
    fun rest _ arguments => isCall_of_phrases head arguments

namespace Dispatcher

/-- What a dispatcher reads is a call. -/
theorem usesUp_read (hostless : d.Hostless (IsTyped mayOmit)) :
    d.read.UsesUp fun ts _ => IsCall ts := by
  have typed : d.registry.AllTyped mayOmit :=
    ⟨hostless.registry.plain, hostless.registry.generic⟩
  intro c found c' run
  rcases head : callHead.run' c with ⟨e | ⟨name, metadata⟩, c₁⟩
  · rw [run'_read_of_no_head head] at run
    cases run
  have content (kind : ContentKind) {v : Value} {c₂ : Cursor}
      (read : (d.readContent kind).run' c = (.ok v, c₂)) :
      ∃ used, c.Passes used c₂ ∧ IsCall used := by
    rw [run'_readContent kind head, hostless.content] at read
    split at read
    · exact usesUp_anyModifier c v c₂ read
    · cases read
  rw [run'_read head] at run
  rcases builtin : (d.readBuiltin name metadata).run' c with ⟨failure | found', c₂⟩
  · rcases text : (d.readContent .text).run' c with ⟨_ | v, c₃⟩
    · rcases image : (d.readContent .image).run' c with ⟨_ | v, c₄⟩
      · rw [builtin, text, image, hostless.custom] at run
        cases run
      · rw [builtin, text, image] at run
        cases run
        exact content .image image
    · rw [builtin, text] at run
      cases run
      exact content .text text
  · rw [builtin] at run
    cases run
    cases known : NameTable.get? d.builtins name with
    | none =>
      rw [readBuiltin_of_none known] at builtin
      cases builtin
    | some reader =>
      rw [readBuiltin_of_some known] at builtin
      obtain ⟨index, m, rfl⟩ := hostless.exists_chunkReader known
      have whole : (d.chunkReader index m).UsesUpAt c fun ts _ => IsCall ts := by
        refine (usesUp_readModifier typed m c).bind fun p ts _ isCall _ => usesUpAt_pure ?_
        rwa [List.append_nil]
      exact whole found c' builtin

/-! ## The same tokens in another text -/

/-- A call that is read is read in front of any other tokens too, as what it is in places that may
differ. -/
theorem exists_read_of_same (hostless : d.Hostless FollowsCalls) {ts us : List Token}
    (isCall : IsCall ts) (same : us.map Token.content = ts.map Token.content)
    {finish : Source.Position} {found : Dispatched}
    (run : d.read.run' ⟨ts, finish⟩ = (.ok found, ⟨[], finish⟩)) (behind : Cursor) :
    ∃ found', found.unplaced = found'.unplaced ∧
      d.read.run' ⟨us ++ behind.ahead, behind.finish⟩ = (.ok found', behind) := by
  obtain ⟨brace, body, isBrace, rfl, closes⟩ := isCall
  cases us with
  | nil => cases same
  | cons brace' body' =>
    obtain ⟨sameBrace, sameBody⟩ := List.cons_eq_cons.1 same
    have isBrace' : brace'.kind = .openBrace := (Token.kind_eq sameBrace).trans isBrace
    -- Behind the call, the first text is over.
    have inside : Alongside ⟨[], finish⟩ behind 1 body.length ⟨body ++ [], finish⟩
        ⟨body' ++ behind.ahead, behind.finish⟩ :=
      .mk body body' sameBody.symm closes (Nat.le_refl _)
    rw [List.append_nil] at inside
    have atCall : AtCall ⟨[], finish⟩ behind 0 body.length ⟨brace :: body, finish⟩
        ⟨brace' :: body' ++ behind.ahead, behind.finish⟩ := ⟨isBrace, isBrace', inside⟩
    cases runsAlike_read hostless atCall with
    | ok a a' s s' first second known =>
      rw [run] at first
      cases first
      obtain ⟨-, rfl⟩ := known.2.eq_behind
      exact ⟨a', known.1, second⟩
    | error e e' s s' first =>
      rw [run] at first
      cases first

end Dispatcher

end ViewModifiers.Dispatch
