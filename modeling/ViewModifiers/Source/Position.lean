/-!
# Positions in a text

A position is a line and a column, both counted from one; columns count characters. It is moved
over text one character at a time, so `Position.after` of the text read so far is where reading
stands.
-/

namespace ViewModifiers.Source

/-- A line and a column, counted from one. -/
structure Position where
  line : Nat
  column : Nat
  deriving DecidableEq, Repr, Inhabited

namespace Position

/-- The first position of every text. -/
def start : Position := ⟨1, 1⟩

/-- The position behind one more character. -/
def next (p : Position) (c : Char) : Position :=
  if c = '\n' then ⟨p.line + 1, 1⟩ else ⟨p.line, p.column + 1⟩

/-- The position behind a run of characters. -/
def after (p : Position) (cs : List Char) : Position := cs.foldl next p

@[simp] theorem after_nil (p : Position) : p.after [] = p := rfl

@[simp] theorem after_cons (p : Position) (c : Char) (cs : List Char) :
    p.after (c :: cs) = (p.next c).after cs := rfl

theorem after_append (p : Position) (cs ds : List Char) :
    p.after (cs ++ ds) = (p.after cs).after ds := by
  simp [after]

/-- A text without line ends stays on its line. -/
theorem after_of_not_mem (p : Position) {cs : List Char} (oneLine : '\n' ∉ cs) :
    p.after cs = ⟨p.line, p.column + cs.length⟩ := by
  induction cs generalizing p with
  | nil => rfl
  | cons c cs ih =>
    have other : c ≠ '\n' := fun same => oneLine (same ▸ List.mem_cons_self)
    have later := fun q => ih q fun there => oneLine (List.mem_cons_of_mem c there)
    rw [after_cons, later, next, if_neg other, List.length_cons, Nat.add_assoc,
      Nat.add_comm 1]

end Position

end ViewModifiers.Source
