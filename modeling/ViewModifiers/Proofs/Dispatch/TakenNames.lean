import ViewModifiers.Dispatch.Module
import ViewModifiers.Proofs.Dispatch.Alternatives

/-!
# Taken names

A class that takes a name with which reading begins leaves a module that is loaded and then fails.
A module whose names are all left to it reads like its dispatcher; where the reader of heads or the
function that attempts a reader is taken, no call is read (`failsAt_of_not_readsCalls`).
-/

namespace ViewModifiers.Dispatch

open Stylesheet Text Reader

namespace Module

variable {m : Module} {c : Cursor}

/-! ## Calls -/

/-- Whether the names are left to a module by which it reads a call. -/
def ReadsCalls (m : Module) : Prop :=
  m.taker? "peek_call_head" = none ∧ m.taker? "attempt" = none

theorem run'_read_of_readsCalls (free : m.ReadsCalls) (c : Cursor) :
    m.read.run' c = m.dispatcher.read.run' c := by
  rw [read, needHead, free.1, needAttempts, free.2, run'_bind_of_ok (run'_pure () c)]
  rcases head : callHead.run' c with ⟨e | ⟨name, metadata⟩, c₁⟩
  · have ahead : (lookingAhead callHead).run' c = (.error e, c) := by rw [run'_lookingAhead, head]
    rw [run'_bind_of_error ahead, Dispatcher.run'_read_of_no_head head]
  · have ahead : (lookingAhead callHead).run' c = (.ok (name, metadata), c) := by
      rw [run'_lookingAhead, head]
    rw [run'_bind_of_ok ahead, run'_bind_of_ok (run'_pure () c)]

theorem read_of_readsCalls (free : m.ReadsCalls) : m.read = m.dispatcher.read :=
  funext (run'_read_of_readsCalls free)

theorem readsCalls_of_accepts {found : Dispatched} {c' : Cursor}
    (run : m.read.run' c = (.ok found, c')) : m.ReadsCalls := by
  obtain ⟨_, _, first, run⟩ := run'_bind_eq_ok_iff.1 run
  obtain ⟨_, _, _, run⟩ := run'_bind_eq_ok_iff.1 run
  obtain ⟨_, _, second, -⟩ := run'_bind_eq_ok_iff.1 run
  constructor
  · cases taker : m.taker? "peek_call_head" with
    | none => rfl
    | some k =>
      rw [needHead, taker] at first
      cases first
  · cases taker : m.taker? "attempt" with
    | none => rfl
    | some k =>
      rw [needAttempts, taker] at second
      cases second

/-- Where one of the names is taken, no call is read. -/
theorem failsAt_of_not_readsCalls (taken : ¬m.ReadsCalls) (c : Cursor) : FailsAt m.read c := by
  rcases run : m.read.run' c with ⟨e | found, c'⟩
  · exact ⟨e, c', run⟩
  · exact absurd (readsCalls_of_accepts run) taken

/-! ## Texts -/

theorem ofText_of_free {α : Type} {r : Reader α} {text : String}
    (free : m.taker? "TokenCursor" = none) : m.ofText r text = Dispatcher.ofText r text := by
  rw [ofText, free]

theorem exists_error_of_taken {α : Type} (taken : m.taker? "TokenCursor" ≠ none) (r : Reader α)
    (text : String) : ∃ e, m.ofText r text = .error e := by
  obtain ⟨k, taker⟩ := Option.ne_none_iff_exists'.1 taken
  exact ⟨_, by rw [ofText, taker]⟩

/-- Whether the names are left to a module by which it reads a text. -/
def ReadsTexts (m : Module) : Prop := m.taker? "TokenCursor" = none ∧ m.ReadsCalls

theorem parseText_of_readsTexts (free : m.ReadsTexts) (text : String) :
    m.parseText text = m.dispatcher.parseText text := by
  rw [parseText, ofText_of_free free.1, readOne, read_of_readsCalls free.2]
  rfl

theorem readsTexts_of_accepts {text : String} {found : Dispatched}
    (accepted : m.parseText text = .ok found) : m.ReadsTexts := by
  have free : m.taker? "TokenCursor" = none := by
    by_contra taken
    obtain ⟨e, failed⟩ := exists_error_of_taken taken m.readOne text
    cases accepted.symm.trans failed
  rw [parseText, ofText_of_free free] at accepted
  cases scanned : scan text with
  | error fault =>
    rw [Dispatcher.ofText, scanned] at accepted
    cases accepted
  | ok c =>
    rw [Dispatcher.ofText, scanned] at accepted
    have run : m.readOne.run' c = (.ok found, (m.readOne.run' c).2) := Prod.ext accepted rfl
    obtain ⟨_, _, read, -⟩ := run'_bind_eq_ok_iff.1 run
    exact ⟨free, readsCalls_of_accepts read⟩

/-! ## Lists -/

/-- Whether the names are left to a module by which it begins to read a list. -/
def BeginsLists (m : Module) : Prop :=
  m.taker? "TokenCursor" = none ∧ m.taker? "TokenKind" = none

theorem parseList_of_beginsLists (free : m.BeginsLists) (text : String) :
    m.parseList text = Dispatcher.ofText
      (do
        let found ← bracketed .modifierList m.read
        Dispatcher.expectEnd .surplusAfterList
        return found) text := by
  rw [parseList, ofText_of_free free.1, readList, needKinds, free.2]
  rfl

/-- Where one of the names is taken, no list is read. -/
theorem exists_error_of_parseList (taken : ¬m.BeginsLists) (text : String) :
    ∃ e, m.parseList text = .error e := by
  by_cases cursors : m.taker? "TokenCursor" = none
  · have kinds : m.taker? "TokenKind" ≠ none := fun free => taken ⟨cursors, free⟩
    obtain ⟨k, taker⟩ := Option.ne_none_iff_exists'.1 kinds
    rw [parseList, ofText_of_free cursors, Dispatcher.ofText]
    split
    · exact ⟨_, rfl⟩
    · next c _ =>
      have fails : FailsAt m.needKinds c := by
        rw [needKinds, taker]
        dsimp only
        split <;> exact ⟨_, _, rfl⟩
      obtain ⟨e, c', run⟩ := fails
      rw [readList, run'_bind_of_error run]
      exact ⟨e, rfl⟩
  · exact exists_error_of_taken cursors _ text

end Module

end ViewModifiers.Dispatch
