import ViewModifiers.Proofs.Stylesheet.Typed

/-!
# Reading members

A member of a table is written behind a dot or as an atom. Either way the table decides what is
read: the value under the name, which uses up the member, or the failure that stands in its place,
which leaves the cursor where it is.
-/

namespace ViewModifiers.Stylesheet

open Reader Text

/-- A cursor in front of a member of a name, and the cursor behind the member. -/
inductive AtMember (name : String) (c : Cursor) : Cursor → Prop
  | dotted (isDot : c.current.kind = .dot) (isName : (c.peek 1).kind = .name)
      (named : (c.peek 1).value = name) : AtMember name c c.rest.rest
  | atom (isAtom : c.current.kind = .atom) (named : c.current.value = name) :
      AtMember name c c.rest

namespace Reader

variable {name : String} {c c' : Cursor} {members : NameTable (Except Failure Value)}

/-- What comes ahead of a member: its name, and how many tokens it takes. -/
theorem exists_memberAhead (here : AtMember name c c') : ∃ token size,
    memberAhead.run' c = (.ok (some (token, size)), c) ∧ token.value = name ∧
      c' = if size = 2 then c.rest.rest else c.rest := by
  rw [run'_memberAhead]
  cases here with
  | dotted isDot isName named => exact ⟨_, 2, by rw [if_pos ⟨isDot, isName⟩], named, rfl⟩
  | atom isAtom named =>
    exact ⟨_, 1, by rw [if_neg (by simp [isAtom]), if_pos isAtom], named, rfl⟩

/-- A value that is given is used up. -/
theorem run'_pass (size : Nat) (v : Value) (c : Cursor) :
    (do
      let _ ← advance
      if size = 2 then
        let _ ← advance
      return v : Reader Value).run' c =
      (.ok v, if size = 2 then c.rest.rest else c.rest) := by
  rw [run'_bind_of_ok (run'_advance c)]
  split <;> rfl

/-- What a table of members gives for a member. -/
theorem run'_member (here : AtMember name c c') {outcome : Except Failure Value}
    (found : members.get? name = some outcome) :
    (member members).run' c = (outcome, if outcome.toBool then c' else c) := by
  obtain ⟨token, size, ahead, rfl, rfl⟩ := exists_memberAhead here
  rw [member, run'_bind_of_ok ahead]
  simp only [found]
  cases outcome with
  | ok v => exact run'_pass size v c
  | error e => rfl

end Reader

end ViewModifiers.Stylesheet
