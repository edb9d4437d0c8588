import Mathlib.Data.List.Induction
import ViewModifiers.Text.NameTable

/-!
# Looking up names in tables

A table that is put together from entries answers a name by the last entry of that name. In whatever
order they come, it consists of just these last entries.
-/

namespace ViewModifiers.Text.NameTable

variable {α β : Type}

/-- What is found under a name is an entry. -/
theorem mem_of_get? {t : NameTable α} {name : String} {value : α}
    (found : t.get? name = some value) : (name, value) ∈ t := by
  induction t with
  | nil => cases found
  | cons e rest ih =>
    obtain ⟨k, v⟩ := e
    rw [get?] at found
    by_cases h : k = name
    · rw [if_pos h] at found
      cases found
      subst h
      exact List.mem_cons_self
    · rw [if_neg h] at found
      exact List.mem_cons_of_mem _ (ih found)

/-- The names of a table are those under which something is found. -/
theorem mem_names_iff {t : NameTable α} {name : String} :
    name ∈ t.names ↔ (t.get? name).isSome = true := by
  induction t with
  | nil => exact iff_of_false List.not_mem_nil Bool.false_ne_true
  | cons e rest ih =>
    obtain ⟨k, v⟩ := e
    rw [get?]
    by_cases same : k = name
    · rw [if_pos same]
      exact iff_of_true (same ▸ List.mem_cons_self) rfl
    · rw [if_neg same, ← ih]
      exact List.mem_cons.trans (or_iff_right (Ne.symm same))

/-- Where names are distinct, an entry is what is found under its name. -/
theorem get?_of_mem {t : NameTable α} {name : String} {value : α} (distinct : t.names.Nodup)
    (there : (name, value) ∈ t) : t.get? name = some value := by
  induction t with
  | nil => cases there
  | cons e rest ih =>
    obtain ⟨k, v⟩ := e
    obtain ⟨new, later⟩ := List.nodup_cons.1 distinct
    rw [get?]
    rcases List.mem_cons.1 there with same | there
    · cases same
      rw [if_pos rfl]
    · have other : k ≠ name := fun same => new (same ▸ List.mem_map.2 ⟨_, there, rfl⟩)
      rw [if_neg other, ih later there]

/-- A table that is computed from its names. -/
theorem get?_map_name (f : String → α) (keys : List String) (name : String) :
    get? (keys.map fun k => (k, f k)) name = if name ∈ keys then some (f name) else none := by
  induction keys with
  | nil => rfl
  | cons k keys ih =>
    rw [List.map_cons, get?, ih]
    by_cases same : k = name
    · rw [if_pos same, same, if_pos List.mem_cons_self]
    · have elsewhere : name ∈ k :: keys ↔ name ∈ keys := by simp [Ne.symm same]
      rw [if_neg same]
      simp only [elsewhere]

/-- A name that is new goes to the end. -/
theorem put_of_new {t : NameTable α} {name : String} (new : name ∉ t.names) (value : α) :
    t.put name value = t ++ [(name, value)] := by
  induction t with
  | nil => rfl
  | cons e rest ih =>
    obtain ⟨k, v⟩ := e
    have other : k ≠ name := (List.ne_of_not_mem_cons new).symm
    rw [put, if_neg other, ih (List.not_mem_of_not_mem_cons new)]
    rfl

/-- Entries with distinct names are a table as they stand. -/
theorem ofList_of_nodup {entries : List (String × α)} (distinct : (names entries).Nodup) :
    ofList entries = entries := by
  induction entries using List.reverseRecOn with
  | nil => rfl
  | append_singleton before e ih =>
    rw [names, List.map_append, List.nodup_append] at distinct
    obtain ⟨earlier, -, apart⟩ := distinct
    have new : e.1 ∉ names before := fun there =>
      apart e.1 there e.1 (List.mem_singleton_self e.1) rfl
    have rest : putAll [] before = before := ih earlier
    rw [ofList, putAll, List.foldl_append]
    change put (putAll [] before) e.1 e.2 = _
    rw [rest, put_of_new new]

/-- Putting a value adds no entry but its own. -/
theorem mem_put {t : NameTable α} {name : String} {value : α} {e : String × α}
    (there : e ∈ t.put name value) : e = (name, value) ∨ e ∈ t := by
  induction t with
  | nil => exact .inl (List.mem_singleton.1 there)
  | cons first rest ih =>
    obtain ⟨k, v⟩ := first
    rw [put] at there
    by_cases h : k = name
    · rw [if_pos h] at there
      subst h
      rcases List.mem_cons.1 there with rfl | there
      · exact .inl rfl
      · exact .inr (List.mem_cons_of_mem _ there)
    · rw [if_neg h] at there
      rcases List.mem_cons.1 there with rfl | there
      · exact .inr List.mem_cons_self
      · exact (ih there).imp_right (List.mem_cons_of_mem _)

/-- What several entries are put into gets no other entry. -/
theorem mem_putAll {t : NameTable α} {entries : List (String × α)} {e : String × α}
    (there : e ∈ t.putAll entries) : e ∈ entries ∨ e ∈ t := by
  induction entries generalizing t with
  | nil => exact .inr there
  | cons first rest ih =>
    rcases ih (t := t.put first.1 first.2) there with listed | before
    · exact .inl (List.mem_cons_of_mem first listed)
    · rcases mem_put before with rfl | before
      · exact .inl List.mem_cons_self
      · exact .inr before

theorem mem_ofList {entries : List (String × α)} {e : String × α} (there : e ∈ ofList entries) :
    e ∈ entries :=
  (mem_putAll there).resolve_right List.not_mem_nil

/-- The last entry of a name counts, and entries of the table that was there before come last. -/
theorem get?_putAll (t : NameTable α) (entries : List (String × α)) (name : String) :
    (t.putAll entries).get? name =
      ((entries.reverse.find? fun e => e.1 = name).map (·.2)).or (t.get? name) := by
  induction entries generalizing t with
  | nil => simp [putAll]
  | cons e rest ih =>
    have step : t.putAll (e :: rest) = (t.put e.1 e.2).putAll rest := rfl
    rw [step, ih, get?_put, List.reverse_cons, List.find?_append]
    by_cases h : e.1 = name
    · cases rest.reverse.find? (fun e => e.1 = name) <;> simp [h]
    · cases rest.reverse.find? (fun e => e.1 = name) <;> simp [h]

/-- What is found behind some entries is one of them, or was there before. -/
theorem mem_of_get?_putAll {t : NameTable α} {entries : List (String × α)} {name : String}
    {value : α} (found : (t.putAll entries).get? name = some value) :
    (name, value) ∈ entries ∨ t.get? name = some value := by
  rw [get?_putAll, Option.or_eq_some_iff] at found
  rcases found with last | ⟨-, before⟩
  · obtain ⟨⟨key, v⟩, first, rfl⟩ := Option.map_eq_some_iff.1 last
    have same : key = name := by simpa using List.find?_some first
    exact .inl (same ▸ List.mem_reverse.1 (List.mem_of_find?_eq_some first))
  · exact .inr before

/-- What is found in a table of entries is one of them. -/
theorem mem_of_get?_ofList {entries : List (String × α)} {name : String} {value : α}
    (found : (ofList entries).get? name = some value) : (name, value) ∈ entries := by
  rcases mem_of_get?_putAll found with listed | before
  · exact listed
  · cases before

/-- An entry is found if all entries of its name have the same value. -/
theorem get?_putAll_of_mem {t : NameTable α} {entries : List (String × α)} {name : String}
    {value : α} (there : (name, value) ∈ entries)
    (unique : ∀ v, (name, v) ∈ entries → v = value) :
    (t.putAll entries).get? name = some value := by
  rw [get?_putAll]
  cases last : entries.reverse.find? fun e => e.1 = name with
  | none =>
    have other := List.find?_eq_none.1 last _ (List.mem_reverse.2 there)
    exact absurd (decide_eq_true rfl) other
  | some e =>
    obtain ⟨key, v⟩ := e
    obtain rfl : key = name := by simpa using List.find?_some last
    have listed := List.mem_reverse.1 (List.mem_of_find?_eq_some last)
    exact congrArg some (unique v listed)

theorem get?_ofList (entries : List (String × α)) (name : String) :
    (ofList entries).get? name = (entries.reverse.find? fun e => e.1 = name).map (·.2) := by
  rw [ofList, get?_putAll]
  simp [get?]

/-- The entry of a name behind which no other entry has the name. -/
theorem get?_ofList_of_last {before after : List (String × α)} {name : String} {value : α}
    (last : ∀ e ∈ after, e.1 ≠ name) :
    (ofList (before ++ (name, value) :: after)).get? name = some value := by
  have none : after.reverse.find? (fun e => e.1 = name) = none := by
    rw [List.find?_eq_none]
    intro e he
    simpa using last e (List.mem_reverse.1 he)
  rw [get?_ofList, List.reverse_append, List.reverse_cons, List.append_assoc, List.find?_append,
    none]
  simp

theorem get?_ofList_eq_none {entries : List (String × α)} {name : String}
    (absent : ∀ e ∈ entries, e.1 ≠ name) : (ofList entries).get? name = none := by
  rw [get?_ofList, Option.map_eq_none_iff, List.find?_eq_none]
  intro e he
  simpa using absent e (List.mem_reverse.1 he)

/-- Entries without the name at the end do not matter for it. -/
theorem get?_ofList_append_of_absent {entries after : List (String × α)} {name : String}
    (absent : ∀ e ∈ after, e.1 ≠ name) :
    (ofList (entries ++ after)).get? name = (ofList entries).get? name := by
  have none : after.reverse.find? (fun e => e.1 = name) = none := by
    rw [List.find?_eq_none]
    intro e he
    simpa using absent e (List.mem_reverse.1 he)
  rw [get?_ofList, get?_ofList, List.reverse_append, List.find?_append, none, Option.none_or]

/-! ## Changing the values of entries -/

section Map

variable (f : α → β)

theorem get?_map (t : NameTable α) (name : String) :
    get? (t.map fun e => (e.1, f e.2)) name = (t.get? name).map f := by
  induction t with
  | nil => rfl
  | cons e rest ih =>
    obtain ⟨k, v⟩ := e
    rw [List.map_cons, get?, get?, ih]
    split <;> rfl

theorem put_map (t : NameTable α) (name : String) (value : α) :
    put (t.map fun e => (e.1, f e.2)) name (f value) =
      (t.put name value).map fun e => (e.1, f e.2) := by
  induction t with
  | nil => rfl
  | cons e rest ih =>
    obtain ⟨k, v⟩ := e
    rw [List.map_cons, put, put, ih]
    split <;> rfl

theorem putAll_map (t : NameTable α) (entries : List (String × α)) :
    putAll (t.map fun e => (e.1, f e.2)) (entries.map fun e => (e.1, f e.2)) =
      (t.putAll entries).map fun e => (e.1, f e.2) := by
  induction entries generalizing t with
  | nil => rfl
  | cons e entries ih =>
    show putAll (put (t.map fun e => (e.1, f e.2)) e.1 (f e.2)) _ = _
    rw [put_map, ih]
    rfl

theorem ofList_map (entries : List (String × α)) :
    ofList (entries.map fun e => (e.1, f e.2)) =
      (ofList entries).map fun e => (e.1, f e.2) :=
  putAll_map f [] entries

/-- Changing the values of entries changes what is looked up in the same way. -/
theorem get?_ofList_map (entries : List (String × α)) (name : String) :
    (ofList (entries.map fun e => (e.1, f e.2))).get? name =
      ((ofList entries).get? name).map f := by
  rw [ofList_map, get?_map]

end Map

/-! ## The entries that count -/

/-- The entries of a list behind which no other entry has their name. -/
def lastEntries : List (String × α) → List (String × α)
  | [] => []
  | e :: rest => if e.1 ∈ names rest then lastEntries rest else e :: lastEntries rest

theorem lastEntries_sublist (entries : List (String × α)) :
    (lastEntries entries).Sublist entries := by
  induction entries with
  | nil => exact .refl []
  | cons e rest ih =>
    rw [lastEntries]
    split
    · exact ih.cons e
    · exact ih.cons_cons e

/-- A value that is put replaces whatever has its name. -/
theorem perm_put (t : NameTable α) (name : String) (value : α) (distinct : t.names.Nodup) :
    (t.put name value).Perm ((name, value) :: t.filter (·.1 ≠ name)) := by
  induction t with
  | nil => exact .refl _
  | cons e rest ih =>
    obtain ⟨k, v⟩ := e
    obtain ⟨new, later⟩ := List.nodup_cons.1 distinct
    rw [put]
    by_cases same : k = name
    · subst same
      have others : rest.filter (fun e => e.1 ≠ k) = rest := by
        rw [List.filter_eq_self]
        intro e there
        have listed : e.1 ∈ names rest := List.mem_map_of_mem there
        exact decide_eq_true fun other => new (other ▸ listed)
      rw [if_pos rfl, List.filter_cons_of_neg (by simp), others]
    · rw [if_neg same, List.filter_cons_of_pos (by simpa using same)]
      exact ((ih later).cons (k, v)).trans (.swap _ _ _)

theorem nodup_names_put (t : NameTable α) (name : String) (value : α) (distinct : t.names.Nodup) :
    (t.put name value).names.Nodup := by
  have perm : (t.put name value).names.Perm (name :: names (t.filter (·.1 ≠ name))) :=
    (perm_put t name value distinct).map _
  rw [perm.nodup_iff, List.nodup_cons]
  refine ⟨fun there => ?_, distinct.sublist (List.filter_sublist.map _)⟩
  obtain ⟨e, listed, same⟩ := List.mem_map.1 there
  exact absurd same (by simpa using (List.mem_filter.1 listed).2)

/-- What counts of some entries, and of a table to which they are put. -/
theorem perm_putAll (entries : List (String × α)) (t : NameTable α) (distinct : t.names.Nodup) :
    (t.putAll entries).Perm (t.filter (·.1 ∉ names entries) ++ lastEntries entries) := by
  induction entries generalizing t with
  | nil =>
    have all : t.filter (·.1 ∉ names ([] : List (String × α))) = t :=
      List.filter_eq_self.2 fun _ _ => decide_eq_true List.not_mem_nil
    rw [all, lastEntries, List.append_nil]
    exact .refl t
  | cons e rest ih =>
    have later := ih _ (nodup_names_put t e.1 e.2 distinct)
    have kept := (perm_put t e.1 e.2 distinct).filter (·.1 ∉ names rest)
    have behind : (t.filter (·.1 ≠ e.1)).filter (·.1 ∉ names rest) =
        t.filter (·.1 ∉ names (e :: rest)) := by
      rw [List.filter_filter]
      refine List.filter_congr fun x _ => ?_
      have known : x.1 ∈ names (e :: rest) ↔ x.1 = e.1 ∨ x.1 ∈ names rest := List.mem_cons
      simp only [known, not_or, Bool.decide_and, ne_eq, Bool.and_comm]
    rw [List.filter_cons, behind] at kept
    have whole : (t.putAll (e :: rest)).Perm _ := later.trans (kept.append_right _)
    refine whole.trans ?_
    rw [lastEntries]
    by_cases again : e.1 ∈ names rest
    · rw [if_neg (by simpa using again), if_pos again]
    · rw [if_pos (by simpa using again), if_neg again]
      exact (List.perm_middle (a := e)).symm

/-- A table consists of the entries that count. -/
theorem perm_ofList (entries : List (String × α)) :
    (ofList entries).Perm (lastEntries entries) :=
  (perm_putAll entries [] List.nodup_nil).trans (.of_eq (by simp))

/-- A table has all entries of a sort if and only if no entry of the sort is replaced by a later
one. -/
theorem perm_filter_ofList_iff (q : α → Bool) (entries : List (String × α)) :
    ((ofList entries).filter fun e => q e.2).Perm (entries.filter fun e => q e.2) ↔
      entries.Pairwise fun e f => q e.2 = true → e.1 ≠ f.1 := by
  have counted := (perm_ofList entries).filter fun e => q e.2
  rw [counted.congr_left]
  clear counted
  induction entries with
  | nil => simp [lastEntries]
  | cons e rest ih =>
    have shorter := ((lastEntries_sublist rest).filter fun e => q e.2).length_le
    rw [List.pairwise_cons, lastEntries]
    cases isOne : q e.2 with
    | true =>
      have taken (l : List (String × α)) :
          (e :: l).filter (fun e => q e.2) = e :: l.filter fun e => q e.2 :=
        List.filter_cons_of_pos isOne
      rw [taken]
      by_cases again : e.1 ∈ names rest
      · obtain ⟨f, there, same⟩ := List.mem_map.1 again
        rw [if_pos again]
        constructor
        · intro perm
          have lengths := perm.length_eq
          rw [List.length_cons] at lengths
          omega
        · rintro ⟨apart, -⟩
          exact absurd same.symm (apart f there rfl)
      · rw [if_neg again, taken, List.perm_cons]
        refine ih.trans (and_iff_right fun f there _ same => ?_).symm
        have listed : f.1 ∈ names rest := List.mem_map_of_mem there
        exact again (same ▸ listed)
    | false =>
      have passed (l : List (String × α)) :
          (e :: l).filter (fun e => q e.2) = l.filter fun e => q e.2 :=
        List.filter_cons_of_neg (by simp [isOne])
      have same : (if e.1 ∈ names rest then lastEntries rest else e :: lastEntries rest).filter
          (fun e => q e.2) = (lastEntries rest).filter fun e => q e.2 := by
        split
        · rfl
        · exact passed _
      rw [passed, same]
      exact ih.trans (and_iff_right fun _ _ => nofun).symm

end ViewModifiers.Text.NameTable
