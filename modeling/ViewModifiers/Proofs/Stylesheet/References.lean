import ViewModifiers.Catalog.Signature
import ViewModifiers.Proofs.Stylesheet.StandardTypes
import ViewModifiers.Stylesheet.Host

/-!
# Context references

Templates and attributes in the arguments of a call mean something only in the context of the host:
they are context references, and a view is to receive what the host makes of them in their place.
Resolving a value gets to the references that stand in tuples, and to no others
(`replaces_resolve_iff`).
-/

namespace ViewModifiers.Stylesheet

open Catalog Reader Text TypeSpelling

/-! ## References in values -/

mutual

/-- Whether a context reference stands anywhere in a value. -/
def Value.hasReference : Value → Bool
  | .views place _ => contextTypes.contains place.typeName
  | .textTemplate _ | .constant _ | .elementAttribute _ => true
  | .list items | .tuple items | .set items => anyHasReference items
  | .pair _ value => value.hasReference
  | .dictionary entries | .event _ entries => anyEntryHasReference entries
  | .call call | .anyModifier call => callHasReference call
  | _ => false

/-- Whether a context reference stands in any of several values. -/
def anyHasReference : List Value → Bool
  | [] => false
  | v :: vs => v.hasReference || anyHasReference vs

/-- Whether a context reference stands in the value of an entry. -/
def entryHasReference : String × Value → Bool
  | (_, value) => value.hasReference

/-- Whether a context reference stands in the value of any of several entries. -/
def anyEntryHasReference : List (String × Value) → Bool
  | [] => false
  | entry :: entries => entryHasReference entry || anyEntryHasReference entries

/-- Whether a context reference stands anywhere in metadata. -/
def metadataHasReference : Metadata Value → Bool
  | ⟨_, _, _, moduleName, _⟩ => moduleName.hasReference

/-- Whether a context reference stands anywhere in a call. -/
def callHasReference : Call Value → Bool
  | ⟨_, metadata, arguments, keywords⟩ =>
    metadataHasReference metadata || anyHasReference arguments || anyEntryHasReference keywords

end

mutual

/-- Whether a context reference stands in a value where resolving the value does not get: not at the
top, and not in tuples only. -/
def Value.hidesReference : Value → Bool
  | .tuple items => anyHidesReference items
  | .constant value => value.hasReference
  | .views _ _ | .textTemplate _ | .elementAttribute _ | .binding _ | .event _ _ => false
  | value => value.hasReference

/-- Whether any of several values hides a context reference. -/
def anyHidesReference : List Value → Bool
  | [] => false
  | v :: vs => v.hidesReference || anyHidesReference vs

end

variable {v : Value} {vs : List Value}

theorem anyHasReference_eq_false_iff :
    anyHasReference vs = false ↔ ∀ v ∈ vs, v.hasReference = false := by
  induction vs with
  | nil => exact ⟨fun _ => nofun, fun _ => rfl⟩
  | cons v vs ih => rw [anyHasReference, Bool.or_eq_false_iff, ih, List.forall_mem_cons]

theorem anyEntryHasReference_eq_false_iff {entries : List (String × Value)} :
    anyEntryHasReference entries = false ↔ ∀ entry ∈ entries, entry.2.hasReference = false := by
  induction entries with
  | nil => exact ⟨fun _ => nofun, fun _ => rfl⟩
  | cons entry entries ih =>
    obtain ⟨key, v⟩ := entry
    rw [anyEntryHasReference, entryHasReference, Bool.or_eq_false_iff, ih, List.forall_mem_cons]

theorem anyHidesReference_eq_false_iff :
    anyHidesReference vs = false ↔ ∀ v ∈ vs, v.hidesReference = false := by
  induction vs with
  | nil => exact ⟨fun _ => nofun, fun _ => rfl⟩
  | cons v vs ih => rw [anyHidesReference, Bool.or_eq_false_iff, ih, List.forall_mem_cons]

mutual

/-- Where no context reference stands, none is hidden. -/
theorem hidesReference_of_hasReference (v : Value) (without : v.hasReference = false) :
    v.hidesReference = false := by
  cases v with
  | tuple items => exact anyHidesReference_of_anyHasReference items without
  | textTemplate template => cases without
  | constant value => cases without
  | elementAttribute name => cases without
  | views place templates => rfl
  | binding name => rfl
  | event name params => rfl
  | _ => exact without

theorem anyHidesReference_of_anyHasReference (vs : List Value)
    (without : anyHasReference vs = false) : anyHidesReference vs = false := by
  cases vs with
  | nil => rfl
  | cons v vs =>
    obtain ⟨first, later⟩ := Bool.or_eq_false_iff.1 without
    exact Bool.or_eq_false_iff.2 ⟨hidesReference_of_hasReference v first,
      anyHidesReference_of_anyHasReference vs later⟩

end

/-! ## Replacing references -/

mutual

/-- A value is another one in which the host has put something in the place of every context
reference. What has none may stay as it is. -/
inductive Replaces (h : Host) : Value → Value → Prop
  | kept (v : Value) (without : v.hasReference = false) : Replaces h v v
  | views (place : ViewPlace) (templates : List String) :
    Replaces h (.views place templates) (h.children templates)
  | textTemplate (template : String) : Replaces h (.textTemplate template) (h.text template)
  | constant (v w : Value) (inside : Replaces h v w) : Replaces h (.constant v) w
  | elementAttribute (name : String) :
    Replaces h (.elementAttribute name) (h.elementAttribute name)
  | binding (name : String) : Replaces h (.binding name) (h.binding name)
  | event (name : String) (params : List (String × Value)) :
    Replaces h (.event name params) (h.event name params)
  | tuple (vs ws : List Value) (each : ReplacesAll h vs ws) : Replaces h (.tuple vs) (.tuple ws)
  | set (vs ws : List Value) (each : ReplacesAll h vs ws) : Replaces h (.set vs) (.set ws)
  | dictionary (keys : List String) (vs ws : List Value) (each : ReplacesAll h vs ws) :
    Replaces h (.dictionary (keys.zip vs)) (.dictionary (keys.zip ws))

/-- Several values are others with their context references replaced, place by place. -/
inductive ReplacesAll (h : Host) : List Value → List Value → Prop
  | nil : ReplacesAll h [] []
  | cons (v w : Value) (vs ws : List Value) (first : Replaces h v w)
      (later : ReplacesAll h vs ws) : ReplacesAll h (v :: vs) (w :: ws)

end

/-! ## What resolving replaces -/

mutual

/-- Resolving a value replaces all its context references if it hides none of them. -/
theorem replaces_resolve (h : Host) (v : Value) (shown : v.hidesReference = false) {w : Value}
    (resolved : h.resolve v = .ok w) : Replaces h v w := by
  cases v with
  | tuple items =>
    obtain ⟨ws, all, last⟩ := bind_eq_ok_iff.1 resolved
    cases last
    exact .tuple _ _ (replacesAll_resolveAll h items shown all)
  | enumCase type name =>
    unfold Host.resolve at resolved
    split at resolved <;> cases resolved
    exact .kept _ shown
  | views place templates =>
    cases resolved
    exact .views place templates
  | textTemplate template =>
    cases resolved
    exact .textTemplate template
  | constant value =>
    cases resolved
    exact .constant _ _ (.kept _ shown)
  | elementAttribute name =>
    cases resolved
    exact .elementAttribute name
  | binding name =>
    cases resolved
    exact .binding name
  | event name params =>
    cases resolved
    exact .event name params
  | _ =>
    cases resolved
    exact .kept _ shown

theorem replacesAll_resolveAll (h : Host) (vs : List Value)
    (shown : anyHidesReference vs = false) {ws : List Value}
    (resolved : h.resolveAll vs = .ok ws) : ReplacesAll h vs ws := by
  cases vs with
  | nil =>
    cases resolved
    exact .nil
  | cons v vs =>
    obtain ⟨first, later⟩ := Bool.or_eq_false_iff.1 shown
    obtain ⟨w, one, rest⟩ := bind_eq_ok_iff.1 resolved
    obtain ⟨ws, all, last⟩ := bind_eq_ok_iff.1 rest
    cases last
    exact .cons _ _ _ _ (replaces_resolve h v first one) (replacesAll_resolveAll h vs later all)

end

mutual

/-- A context reference that is hidden stands in the resolved value too. -/
theorem hidesReference_of_resolve (h : Host) (v : Value) {w : Value}
    (resolved : h.resolve v = .ok w) (without : w.hasReference = false) :
    v.hidesReference = false := by
  cases v with
  | tuple items =>
    obtain ⟨ws, all, last⟩ := bind_eq_ok_iff.1 resolved
    cases last
    exact anyHidesReference_of_resolveAll h items all without
  | views place templates => rfl
  | textTemplate template => rfl
  | elementAttribute name => rfl
  | binding name => rfl
  | event name params => rfl
  | enumCase type name => rfl
  | _ =>
    cases resolved
    exact without

theorem anyHidesReference_of_resolveAll (h : Host) (vs : List Value) {ws : List Value}
    (resolved : h.resolveAll vs = .ok ws) (without : anyHasReference ws = false) :
    anyHidesReference vs = false := by
  cases vs with
  | nil => rfl
  | cons v vs =>
    obtain ⟨w, one, rest⟩ := bind_eq_ok_iff.1 resolved
    obtain ⟨ws, all, last⟩ := bind_eq_ok_iff.1 rest
    cases last
    obtain ⟨first, later⟩ := Bool.or_eq_false_iff.1 without
    exact Bool.or_eq_false_iff.2 ⟨hidesReference_of_resolve h v one first,
      anyHidesReference_of_resolveAll h vs all later⟩

end

/-! ## What can be resolved -/

mutual

/-- Whether a value can be resolved: no case of an enumerated type with a case named like the
operation stands at its top or in tuples. -/
def Value.isResolvable : Value → Bool
  | .tuple items => areResolvable items
  | .enumCase type _ => !type.members.contains Host.operation
  | _ => true

/-- Whether several values can be resolved. -/
def areResolvable : List Value → Bool
  | [] => true
  | v :: vs => v.isResolvable && areResolvable vs

end

mutual

theorem exists_resolve_of_isResolvable (h : Host) (v : Value) (can : v.isResolvable = true) :
    ∃ w, h.resolve v = .ok w := by
  cases v with
  | tuple items =>
    obtain ⟨ws, all⟩ := exists_resolveAll_of_areResolvable h items can
    exact ⟨.tuple ws, bind_eq_ok_iff.2 ⟨ws, all, rfl⟩⟩
  | enumCase type name =>
    have free : ¬type.members.contains Host.operation = true := by
      simpa [Value.isResolvable] using can
    exact ⟨.enumCase type name, if_neg free⟩
  | _ => exact ⟨_, rfl⟩

theorem exists_resolveAll_of_areResolvable (h : Host) (vs : List Value)
    (can : areResolvable vs = true) : ∃ ws, h.resolveAll vs = .ok ws := by
  cases vs with
  | nil => exact ⟨[], rfl⟩
  | cons v vs =>
    obtain ⟨first, later⟩ := Bool.and_eq_true_iff.1 can
    obtain ⟨w, one⟩ := exists_resolve_of_isResolvable h v first
    obtain ⟨ws, all⟩ := exists_resolveAll_of_areResolvable h vs later
    exact ⟨w :: ws, bind_eq_ok_iff.2 ⟨w, one, bind_eq_ok_iff.2 ⟨ws, all, rfl⟩⟩⟩

end

mutual

theorem exists_error_of_not_isResolvable (h : Host) (v : Value) (cannot : v.isResolvable = false) :
    ∃ type, h.resolve v = .error (.notCallable type) := by
  cases v with
  | tuple items =>
    obtain ⟨type, failed⟩ := exists_error_of_not_areResolvable h items cannot
    exact ⟨type, by rw [Host.resolve, failed]; rfl⟩
  | enumCase type name =>
    have taken : type.members.contains Host.operation = true := by
      simpa [Value.isResolvable] using cannot
    exact ⟨type.name, if_pos taken⟩
  | _ => cases cannot

theorem exists_error_of_not_areResolvable (h : Host) (vs : List Value)
    (cannot : areResolvable vs = false) :
    ∃ type, h.resolveAll vs = .error (.notCallable type) := by
  cases vs with
  | nil => cases cannot
  | cons v vs =>
    cases can : v.isResolvable with
    | false =>
      obtain ⟨type, failed⟩ := exists_error_of_not_isResolvable h v can
      exact ⟨type, by rw [Host.resolveAll, failed]; rfl⟩
    | true =>
      rw [areResolvable, can, Bool.true_and] at cannot
      obtain ⟨w, one⟩ := exists_resolve_of_isResolvable h v can
      obtain ⟨type, failed⟩ := exists_error_of_not_areResolvable h vs cannot
      exact ⟨type, by rw [Host.resolveAll, one, failed]; rfl⟩

end

/-- Whether a value can be resolved is up to the value and not to the host. -/
theorem exists_resolve_iff {h : Host} {v : Value} :
    (∃ w, h.resolve v = .ok w) ↔ v.isResolvable = true := by
  refine ⟨fun ⟨w, resolved⟩ => ?_, exists_resolve_of_isResolvable h v⟩
  cases can : v.isResolvable with
  | true => rfl
  | false =>
    obtain ⟨type, failed⟩ := exists_error_of_not_isResolvable h v can
    cases resolved.symm.trans failed

/-- A host that makes nothing of any reference. -/
def Host.mute : Host := ⟨fun _ => .null, fun _ => .null, fun _ => .null, fun _ => .null,
  fun _ _ => .null⟩

theorem anyEntryHasReference_zip {keys : List String} (without : anyHasReference vs = false) :
    anyEntryHasReference (keys.zip vs) = false := by
  rw [anyEntryHasReference_eq_false_iff]
  intro entry there
  exact anyHasReference_eq_false_iff.1 without entry.2 (List.of_mem_zip there).2

/-- No context reference is left where the host replaces them by something without references. -/
theorem hasReference_of_replaces {v w : Value} (replaces : Replaces .mute v w) :
    w.hasReference = false := by
  induction replaces using Replaces.rec
    (motive_2 := fun _ ws _ => anyHasReference ws = false) with
  | kept _ without => exact without
  | views => rfl
  | textTemplate => rfl
  | constant _ _ _ inside => exact inside
  | elementAttribute => rfl
  | binding => rfl
  | event => rfl
  | tuple _ _ _ each => exact each
  | set _ _ _ each => exact each
  | dictionary _ _ _ _ each => exact anyEntryHasReference_zip each
  | nil => rfl
  | cons _ _ _ _ _ _ first later => exact Bool.or_eq_false_iff.2 ⟨first, later⟩

/-- Resolving a value replaces all its context references, whatever the host makes of them, just if
the value hides none or cannot be resolved. -/
theorem replaces_resolve_iff : (∀ (h : Host) (w : Value), h.resolve v = .ok w → Replaces h v w) ↔
    (v.isResolvable && v.hidesReference) = false := by
  cases can : v.isResolvable with
  | true =>
    obtain ⟨w, resolved⟩ := exists_resolve_of_isResolvable .mute v can
    rw [Bool.true_and]
    refine ⟨fun replaces => ?_, fun shown h w => replaces_resolve h v shown⟩
    exact hidesReference_of_resolve .mute v resolved
      (hasReference_of_replaces (replaces .mute w resolved))
  | false =>
    refine iff_of_true (fun h w resolved => ?_) rfl
    rw [exists_resolve_iff.1 ⟨w, resolved⟩] at can
    cases can

/-- A value that is left as it is has its context references replaced just if it has none. -/
theorem replaces_self_iff : (∀ h : Host, Replaces h v v) ↔ v.hasReference = false := by
  constructor
  · intro replaces
    exact hasReference_of_replaces (replaces .mute)
  · intro without h
    exact .kept v without

end ViewModifiers.Stylesheet
