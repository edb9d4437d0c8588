import Mathlib.Data.List.Induction
import ViewModifiers.Proofs.Text.NameTable
import ViewModifiers.Stylesheet.Untyped
import ViewModifiers.Stylesheet.ValueSet

/-!
# Values without places

The metadata of a call tell its line and column, which depend on where the call stands in its text.
A value without places has them taken out of all calls in it. What is made of values as they are
read does not look at places: sets, dictionaries, the parameters of an event and the metadata of a
call come out the same, apart from the places in them.
-/

namespace ViewModifiers.Stylesheet

open Text

mutual

/-- A value without the places of the calls in it. -/
def Value.unplaced : Value → Value
  | .list items => .list (allUnplaced items)
  | .pair key value => .pair key value.unplaced
  | .tuple items => .tuple (allUnplaced items)
  | .set items => .set (allUnplaced items)
  | .dictionary entries => .dictionary (entriesUnplaced entries)
  | .call call => .call (callUnplaced call)
  | .anyModifier call => .anyModifier (callUnplaced call)
  | .constant value => .constant value.unplaced
  | .event name params => .event name (entriesUnplaced params)
  | value => value

/-- Several values without places. -/
def allUnplaced : List Value → List Value
  | [] => []
  | v :: vs => v.unplaced :: allUnplaced vs

/-- An entry of a table without places. -/
def entryUnplaced : String × Value → String × Value
  | (key, value) => (key, value.unplaced)

/-- Several entries without places. -/
def entriesUnplaced : List (String × Value) → List (String × Value)
  | [] => []
  | e :: es => entryUnplaced e :: entriesUnplaced es

/-- Metadata without line and column, and without the places in the module. -/
def metadataUnplaced : Metadata Value → Metadata Value
  | ⟨_, _, file, moduleName, source⟩ => ⟨.number 0, 0, file, moduleName.unplaced, source⟩

/-- A call without places. -/
def callUnplaced : Call Value → Call Value
  | ⟨name, metadata, arguments, keywords⟩ =>
    ⟨name, metadataUnplaced metadata, allUnplaced arguments, entriesUnplaced keywords⟩

end

theorem allUnplaced_eq_map (vs : List Value) : allUnplaced vs = vs.map Value.unplaced := by
  induction vs with
  | nil => rfl
  | cons v vs ih => rw [allUnplaced, ih, List.map_cons]

theorem entryUnplaced_eq (e : String × Value) : entryUnplaced e = (e.1, e.2.unplaced) := by
  obtain ⟨key, v⟩ := e
  rw [entryUnplaced]

theorem entriesUnplaced_eq_map (es : List (String × Value)) :
    entriesUnplaced es = es.map fun e => (e.1, e.2.unplaced) := by
  induction es with
  | nil => rfl
  | cons e es ih => rw [entriesUnplaced, ih, List.map_cons, entryUnplaced_eq]

namespace Value

theorem text?_unplaced (v : Value) : v.unplaced.text? = v.text? := by
  cases v <;> rfl

theorem unplaced_eq_text_iff {v : Value} {s : String} : v.unplaced = .text s ↔ v = .text s := by
  cases v with
  | text => rfl
  | _ => exact ⟨nofun, nofun⟩

/-! ## Sets -/

mutual

theorem isElement_unplaced (v : Value) : v.unplaced.isElement = v.isElement := by
  cases v with
  | tuple items => exact areElements_unplaced items
  | constant v => exact isElement_unplaced v
  | _ => rfl

theorem areElements_unplaced (vs : List Value) :
    areElements (allUnplaced vs) = areElements vs := by
  cases vs with
  | nil => rfl
  | cons v vs =>
    rw [allUnplaced, areElements, areElements, isElement_unplaced v, areElements_unplaced vs]

end

theorem exactValue?_unplaced (v : Value) : exactValue? v.unplaced = exactValue? v := by
  cases v <;> rfl

theorem isOmitted_unplaced (v : Value) : v.unplaced.isOmitted = v.isOmitted := by
  cases v <;> rfl

mutual

theorem isSame_unplaced (v w : Value) : isSame v.unplaced w.unplaced = isSame v w := by
  cases v with
  | flag b => exact congrArg (fun x => decide (x = exactValue? (flag b))) (exactValue?_unplaced w)
  | integer n =>
    exact congrArg (fun x => decide (x = exactValue? (integer n))) (exactValue?_unplaced w)
  | decimal x =>
    exact congrArg
      (fun y => (exactValue? (decimal x)).isSome && decide (y = exactValue? (decimal x)))
      (exactValue?_unplaced w)
  | omitted => exact isOmitted_unplaced w
  | tuple vs =>
    cases w with
    | tuple ws => exact areSame_unplaced vs ws
    | _ => rfl
  | set vs =>
    cases w with
    | set ws =>
      have sizes : (allUnplaced vs).length = vs.length ∧ (allUnplaced ws).length = ws.length := by
        rw [allUnplaced_eq_map, allUnplaced_eq_map, List.length_map, List.length_map]
        exact ⟨rfl, rfl⟩
      show (decide ((allUnplaced vs).length = (allUnplaced ws).length) &&
        areAmong (allUnplaced vs) (allUnplaced ws)) = _
      rw [sizes.1, sizes.2, areAmong_unplaced vs ws]
      rfl
    | _ => rfl
  | constant v =>
    cases w with
    | constant w => exact isSame_unplaced v w
    | _ => rfl
  | _ => cases w <;> rfl

theorem areSame_unplaced (vs ws : List Value) :
    areSame (allUnplaced vs) (allUnplaced ws) = areSame vs ws := by
  cases vs with
  | nil => cases ws <;> rfl
  | cons v vs =>
    cases ws with
    | nil => rfl
    | cons w ws =>
      rw [allUnplaced, allUnplaced, areSame, areSame, isSame_unplaced v w, areSame_unplaced vs ws]

theorem areAmong_unplaced (vs ws : List Value) :
    areAmong (allUnplaced vs) (allUnplaced ws) = areAmong vs ws := by
  cases vs with
  | nil => rfl
  | cons v vs =>
    have among :
        (allUnplaced ws).any (fun w => isSame v.unplaced w) = ws.any fun w => isSame v w := by
      rw [allUnplaced_eq_map, List.any_map]
      exact congrArg ws.any (funext fun w => isSame_unplaced v w)
    rw [allUnplaced, areAmong, areAmong, among, areAmong_unplaced vs ws]

end

/-- The same elements are dropped from a set. -/
theorem distinct_unplaced (vs : List Value) :
    distinct (vs.map unplaced) = (distinct vs).map unplaced := by
  induction vs using List.reverseRecOn with
  | nil => rfl
  | append_singleton vs v ih =>
    have known : ((distinct vs).map unplaced).any (fun w => isSame w v.unplaced) =
        (distinct vs).any fun w => isSame w v := by
      rw [List.any_map]
      exact congrArg (distinct vs).any (funext fun w => isSame_unplaced w v)
    rw [List.map_append, List.map_singleton, distinct_concat, distinct_concat, ih, known]
    split
    · rfl
    · rw [List.map_append, List.map_singleton]

/-! ## Pairs -/

theorem pairs_unplaced (v : Value) :
    v.unplaced.pairs = v.pairs.map fun e => (e.1, e.2.unplaced) := by
  cases v with
  | list items =>
    show (allUnplaced items).filterMap _ = (items.filterMap _).map _
    rw [allUnplaced_eq_map, List.filterMap_map, List.map_filterMap]
    congr 1
    funext v
    cases v <;> rfl
  | _ => rfl

end Value

/-! ## Entries and metadata -/

/-- An entry of a list without places. -/
def itemUnplaced (e : Option String × Value) : Option String × Value := (e.1, e.2.unplaced)

/-- The arguments of a call without places. -/
def argumentsUnplaced (found : List Value × NameTable Value) : List Value × NameTable Value :=
  (found.1.map Value.unplaced, found.2.map fun e => (e.1, e.2.unplaced))

namespace Reader

theorem entryValue_unplaced (e : Option String × Value) :
    entryValue (itemUnplaced e) = (entryValue e).unplaced := by
  obtain ⟨_ | key, v⟩ := e
  · rfl
  · rfl

theorem unkeyed_unplaced (entries : List (Option String × Value)) :
    unkeyed (entries.map itemUnplaced) = (unkeyed entries).map Value.unplaced := by
  rw [unkeyed, unkeyed, List.filterMap_map, List.map_filterMap]
  congr 1
  funext e
  obtain ⟨_ | key, v⟩ := e
  · rfl
  · rfl

theorem keyed_unplaced (entries : List (Option String × Value)) :
    keyed (entries.map itemUnplaced) = (keyed entries).map fun e => (e.1, e.2.unplaced) := by
  rw [keyed, keyed, ← NameTable.ofList_map, List.filterMap_map, List.map_filterMap]
  congr 2
  funext e
  obtain ⟨_ | key, v⟩ := e
  · rfl
  · rfl

theorem arguments_unplaced (entries : List (Option String × Value)) :
    argumentsUnplaced (unkeyed entries, keyed entries) =
      (unkeyed (entries.map itemUnplaced), keyed (entries.map itemUnplaced)) := by
  rw [unkeyed_unplaced, keyed_unplaced]
  rfl

theorem moduleNameOf_unplaced (v : Value) :
    moduleNameOf v.unplaced = (moduleNameOf v).unplaced := by
  cases v <;> rfl

/-- What metadata tell apart from the place is told by the values under their keys. -/
theorem metadataOf_unplaced (start : Token) {values unplaced : NameTable Value}
    (same : unplaced = values.map fun e => (e.1, e.2.unplaced)) :
    metadataUnplaced (metadataOf start values) =
      ⟨.number 0, 0, (NameTable.get? unplaced "file").bind Value.text?,
        moduleNameOf ((NameTable.get? unplaced "module").getD .null),
        (NameTable.get? unplaced "source").bind Value.text?⟩ := by
  have text (key : String) : (NameTable.get? unplaced key).bind Value.text? =
      (NameTable.get? values key).bind Value.text? := by
    rw [same, NameTable.get?_map]
    cases NameTable.get? values key with
    | none => rfl
    | some v => exact Value.text?_unplaced v
  have named : moduleNameOf ((NameTable.get? unplaced "module").getD .null) =
      (moduleNameOf ((NameTable.get? values "module").getD .null)).unplaced := by
    rw [same, NameTable.get?_map]
    cases NameTable.get? values "module" with
    | none => rfl
    | some v => exact moduleNameOf_unplaced v
  rw [text, text, named]
  rfl

end Reader

end ViewModifiers.Stylesheet
