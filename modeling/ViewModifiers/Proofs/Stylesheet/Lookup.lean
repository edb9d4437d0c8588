import ViewModifiers.Proofs.Stylesheet.Memory

/-!
# How a registry comes to a reader

The reader of a tree is the one that is registered under the whole spelling, or it is made of the
readers of its parts. `Finds` says so without the walk, and it is just what a search gives
(`search_eq_ok_iff`), so what holds of all readers that are found is shown by induction on how they
are found.
-/

namespace ViewModifiers.Stylesheet

open Text TypeSpelling

namespace TypeSpelling

/-- A tree that can be read is what its whole spelling is read as. -/
theorem Readable.read_text {t : TypeSpelling} (readable : Readable t) : read t.text = t := by
  cases readable with
  | plain _ own => exact own
  | optional _ _ own => exact own
  | array _ _ own => exact own
  | dictionary _ _ _ own => exact own
  | generic _ _ _ own => exact own

end TypeSpelling

namespace Registry

/-- A registry finds a reader for a tree: under its whole spelling, or made of what it finds for the
parts. Only a spelling that is not registered as a whole is taken apart. -/
inductive Finds (r : Registry) : TypeSpelling → Reader Value → Prop
  | whole {t : TypeSpelling} {found : Reader Value}
      (known : NameTable.get? r.plain t.text = some found) : Finds r t found
  | optional {text : String} {wrapped : TypeSpelling} {value : Reader Value}
      (unknown : NameTable.get? r.plain text = none) (part : Finds r wrapped value) :
      Finds r (.optional text wrapped) (.optional value)
  | array {text : String} {element : TypeSpelling} {value : Reader Value}
      (unknown : NameTable.get? r.plain text = none) (part : Finds r element value) :
      Finds r (.array text element) (.array value)
  | dictionary {text : String} {key value : TypeSpelling} {keyReader valueReader : Reader Value}
      (unknown : NameTable.get? r.plain text = none) (keyPart : Finds r key keyReader)
      (valuePart : Finds r value valueReader) :
      Finds r (.dictionary text key value) (.dictionary valueReader)
  | generic {text name : String} {arguments : List TypeSpelling} {factory : Factory}
      {found : Reader Value} {pairs : List (TypeSpelling × Reader Value)}
      (unknown : NameTable.get? r.plain text = none)
      (known : NameTable.get? r.generic name = some factory)
      (each : pairs.map Prod.fst = arguments) (parts : ∀ pair ∈ pairs, Finds r pair.1 pair.2)
      (made : factory.build? (pairs.map Prod.snd) = some found) :
      Finds r (.generic text name arguments) found

variable {r : Registry} {found : Reader Value}

/-- A reader is found if one is found for the parts of a spelling that is not registered. -/
theorem exists_finds_of_unknown {t : TypeSpelling}
    (parts : NameTable.get? r.plain t.text = none → ∃ found, r.Finds t found) :
    ∃ found, r.Finds t found := by
  cases known : NameTable.get? r.plain t.text with
  | none => exact parts known
  | some found => exact ⟨found, .whole known⟩

/-! ## From a search -/

theorem wholeOr_eq_ok {text : String} {parts : Except Failure (Reader Value)}
    (h : r.wholeOr text parts = .ok found) :
    NameTable.get? r.plain text = some found ∨
      NameTable.get? r.plain text = none ∧ parts = .ok found := by
  rw [wholeOr] at h
  cases known : NameTable.get? r.plain text with
  | none =>
    rw [known] at h
    exact .inr ⟨rfl, h⟩
  | some reader =>
    rw [known] at h
    cases h
    exact .inl rfl

theorem applyFactory_eq_ok {text : String} {factory : Factory} {readers : List (Reader Value)}
    (h : (applyFactory text factory readers : Except Failure (Reader Value)) = .ok found) :
    factory.build? readers = some found := by
  unfold applyFactory at h
  split at h
  · next made =>
    cases h
    exact made
  · cases h

mutual

theorem finds_of_search : ∀ {t : TypeSpelling} {found : Reader Value},
    r.search t = .ok found → r.Finds t found
  | .plain text, found, h => by
    rw [search, walk] at h
    rcases wholeOr_eq_ok h with known | ⟨-, made⟩
    · exact .whole known
    · cases made
  | .optional text wrapped, found, h => by
    rw [search, walk] at h
    rcases wholeOr_eq_ok h with known | ⟨unknown, made⟩
    · exact .whole known
    · obtain ⟨value, searched, made⟩ := bind_eq_ok_iff.1 made
      cases made
      exact .optional unknown (finds_of_search searched)
  | .array text element, found, h => by
    rw [search, walk] at h
    rcases wholeOr_eq_ok h with known | ⟨unknown, made⟩
    · exact .whole known
    · obtain ⟨value, searched, made⟩ := bind_eq_ok_iff.1 made
      cases made
      exact .array unknown (finds_of_search searched)
  | .dictionary text key value, found, h => by
    rw [search, walk] at h
    rcases wholeOr_eq_ok h with known | ⟨unknown, made⟩
    · exact .whole known
    · obtain ⟨keyReader, searchedKey, made⟩ := bind_eq_ok_iff.1 made
      obtain ⟨valueReader, searched, made⟩ := bind_eq_ok_iff.1 made
      cases made
      exact .dictionary unknown (finds_of_search searchedKey) (finds_of_search searched)
  | .generic text name arguments, found, h => by
    rw [search, walk] at h
    rcases wholeOr_eq_ok h with known | ⟨unknown, made⟩
    · exact .whole known
    · cases known : NameTable.get? r.generic name with
      | none =>
        rw [known] at made
        cases made
      | some factory =>
        rw [known] at made
        obtain ⟨readers, searched, made⟩ := bind_eq_ok_iff.1 made
        obtain ⟨pairs, each, rfl, parts⟩ := finds_of_searchAll searched
        exact .generic unknown known each parts (applyFactory_eq_ok made)

theorem finds_of_searchAll : ∀ {ts : List TypeSpelling} {readers : List (Reader Value)},
    r.searchAll ts = .ok readers → ∃ pairs : List (TypeSpelling × Reader Value),
      pairs.map Prod.fst = ts ∧ pairs.map Prod.snd = readers ∧
        ∀ pair ∈ pairs, r.Finds pair.1 pair.2
  | [], readers, h => by
    rw [searchAll, walkAll] at h
    cases h
    exact ⟨[], rfl, rfl, nofun⟩
  | t :: ts, readers, h => by
    rw [searchAll, walkAll] at h
    obtain ⟨reader, searched, h⟩ := bind_eq_ok_iff.1 h
    obtain ⟨later, searchedLater, made⟩ := bind_eq_ok_iff.1 h
    cases made
    obtain ⟨pairs, rfl, rfl, parts⟩ := finds_of_searchAll searchedLater
    exact ⟨(t, reader) :: pairs, rfl, rfl,
      List.forall_mem_cons.2 ⟨finds_of_search searched, parts⟩⟩

end

/-! ## To a search -/

theorem wholeOr_of_known {text : String} (known : NameTable.get? r.plain text = some found)
    (parts : Except Failure (Reader Value)) : r.wholeOr text parts = .ok found := by
  rw [wholeOr, known]
  rfl

theorem wholeOr_of_unknown {text : String} (unknown : NameTable.get? r.plain text = none)
    (parts : Except Failure (Reader Value)) : r.wholeOr text parts = parts := by
  rw [wholeOr, unknown]

theorem search_of_known {t : TypeSpelling} (known : NameTable.get? r.plain t.text = some found) :
    r.search t = .ok found := by
  cases t with
  | plain text =>
    rw [search, walk]
    exact wholeOr_of_known known _
  | optional text wrapped =>
    rw [search, walk]
    exact wholeOr_of_known known _
  | array text element =>
    rw [search, walk]
    exact wholeOr_of_known known _
  | dictionary text key value =>
    rw [search, walk]
    exact wholeOr_of_known known _
  | generic text name arguments =>
    rw [search, walk]
    exact wholeOr_of_known known _

theorem searchAll_of_each {pairs : List (TypeSpelling × Reader Value)}
    (each : ∀ pair ∈ pairs, r.search pair.1 = .ok pair.2) :
    r.searchAll (pairs.map Prod.fst) = .ok (pairs.map Prod.snd) := by
  induction pairs with
  | nil =>
    rw [searchAll, List.map_nil, walkAll]
    rfl
  | cons pair pairs ih =>
    obtain ⟨first, later⟩ := List.forall_mem_cons.1 each
    rw [searchAll, List.map_cons, walkAll]
    exact bind_eq_ok_iff.2 ⟨pair.2, first, bind_eq_ok_iff.2 ⟨_, ih later, rfl⟩⟩

theorem Finds.search_eq_ok {t : TypeSpelling} (finds : r.Finds t found) :
    r.search t = .ok found := by
  induction finds with
  | whole known => exact search_of_known known
  | optional unknown _ ih =>
    rw [search, walk, wholeOr_of_unknown unknown]
    exact bind_eq_ok_iff.2 ⟨_, ih, rfl⟩
  | array unknown _ ih =>
    rw [search, walk, wholeOr_of_unknown unknown]
    exact bind_eq_ok_iff.2 ⟨_, ih, rfl⟩
  | dictionary unknown _ _ keyIh ih =>
    rw [search, walk, wholeOr_of_unknown unknown]
    exact bind_eq_ok_iff.2 ⟨_, keyIh, bind_eq_ok_iff.2 ⟨_, ih, rfl⟩⟩
  | generic unknown known each _ made ih =>
    subst each
    rw [search, walk, wholeOr_of_unknown unknown, known]
    refine bind_eq_ok_iff.2 ⟨_, searchAll_of_each ih, ?_⟩
    rw [applyFactory, made]
    rfl

/-- A search gives just the reader that is found. -/
theorem search_eq_ok_iff {t : TypeSpelling} : r.search t = .ok found ↔ r.Finds t found :=
  ⟨finds_of_search, Finds.search_eq_ok⟩

/-- A spelling has just the reader that is found for its tree. -/
theorem find_eq_ok_iff {spelling : String} :
    r.find spelling = .ok found ↔ r.Finds (read spelling) found :=
  search_eq_ok_iff

end Registry

end ViewModifiers.Stylesheet
