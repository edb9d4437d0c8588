/-!
# Tables keyed by name

A table lists its entries in the order in which their names first came up. Putting a value under a
name that is there already replaces the value in its place.
-/

namespace ViewModifiers.Text

/-- Entries with distinct names, in the order in which the names came up. -/
abbrev NameTable (α : Type) := List (String × α)

namespace NameTable

variable {α β : Type}

/-- The value under a name. -/
def get? : NameTable α → String → Option α
  | [], _ => none
  | (k, v) :: rest, name => if k = name then some v else get? rest name

/-- Puts a value under a name: in place of the one that is there, or at the end. -/
def put : NameTable α → String → α → NameTable α
  | [], name, value => [(name, value)]
  | (k, v) :: rest, name, value =>
    if k = name then (k, value) :: rest else (k, v) :: put rest name value

/-- Whether a name has a value. -/
def has (t : NameTable α) (name : String) : Bool := (t.get? name).isSome

/-- The names in order. -/
def names (t : NameTable α) : List String := t.map (·.1)

/-- Puts several entries one after the other. -/
def putAll (t : NameTable α) (entries : List (String × α)) : NameTable α :=
  entries.foldl (fun t e => t.put e.1 e.2) t

/-- The table of a list of entries, later ones replacing earlier ones of the same name. -/
def ofList (entries : List (String × α)) : NameTable α := putAll [] entries

theorem get?_put (t : NameTable α) (name other : String) (value : α) :
    (t.put name value).get? other = if name = other then some value else t.get? other := by
  induction t with
  | nil => simp [put, get?]
  | cons e rest ih =>
    obtain ⟨k, v⟩ := e
    by_cases hk : k = name
    · subst hk
      simp only [put, if_pos, get?]
      split <;> rfl
    · simp only [put, if_neg hk, get?, ih]
      by_cases hn : name = other
      · subst hn
        simp [hk]
      · simp [hn]

end NameTable

end ViewModifiers.Text
