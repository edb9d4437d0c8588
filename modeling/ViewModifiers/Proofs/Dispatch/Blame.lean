import Mathlib.Data.Nat.Find
import ViewModifiers.Proofs.Dispatch.Arguments
import ViewModifiers.Proofs.Dispatch.Precedence
import ViewModifiers.Proofs.Dispatch.Unavailable
import ViewModifiers.Proofs.Stylesheet.Changeable
import ViewModifiers.Proofs.Stylesheet.ScannedNumbers

/-!
# What a dispatcher blames

A failure that is not the stylesheet's ends the search through the overloads of a modifier. An
overload has none, as long as numbers can be converted, if none of its fields is hidden and none of
its types asks for a set of values that can change (`SteadyOverload`). Then its modifier is read by
the first overload that accepts a call, and a dispatcher of such overloads blames nothing but the
stylesheet for whatever text it does not read, unless readers of the host do.
-/

namespace ViewModifiers.Dispatch

open Catalog Config Emit Stylesheet Stylesheet.Registry Text Reader

variable {α β : Type}

/-- A reader that blames nothing but the stylesheet, as long as numbers can be converted. -/
abbrev BlamesStylesheet (r : Reader α) : Prop :=
  Behaves (fun e => e.isStylesheet = true) (fun _ => True) r

theorem faults_areStylesheet (fault : Fault) : (Failure.malformed fault).isStylesheet = true := rfl

/-! ## Arguments -/

/-- A type that a registry knows and that asks for no set of values that can change, or one that it
does not know. -/
def IsSteadyType (r : Registry) (spelling : String) : Prop :=
  match r.find spelling with
  | .ok _ => (TypeSpelling.read spelling).wantsChangeableSet = false
  | .error e => e.isStylesheet = true

/-- An overload that cannot go wrong except by the stylesheet. -/
structure SteadyOverload (r : Registry) (s : Signature) : Prop where
  noneHidden : hiddenField? s = none
  types : ∀ p ∈ s.parameters, IsSteadyType r p.type.text

section Arguments

variable {r : Registry} {s : Signature} {type label : String}

theorem blamesStylesheet_openArguments : BlamesStylesheet openArguments :=
  (behaves_accept _).bind fun _ _ => behaves_ite
    (fun _ => (behaves_expectAs faults_areStylesheet _ _).bind fun _ _ => behaves_pure trivial)
    fun _ => behaves_pure trivial

theorem blamesStylesheet_isExhausted (listed : Bool) : BlamesStylesheet (isExhausted listed) :=
  behaves_ite (fun _ => behaves_isAt _) fun _ => behaves_pure trivial

theorem blamesStylesheet_separator : BlamesStylesheet separator :=
  (behaves_accept _).bind fun _ _ => behaves_ite (fun _ => behaves_pure trivial) fun _ =>
    (behaves_isAt _).bind fun _ _ => behaves_ite (fun _ => behaves_pure trivial) fun _ =>
      behaves_failExpecting faults_areStylesheet _

theorem blamesStylesheet_missing (hasDefault : Bool) (cause : Cause) :
    BlamesStylesheet (missing hasDefault cause) :=
  behaves_ite (fun _ => behaves_pure trivial) fun _ => behaves_fail faults_areStylesheet _

theorem blamesStylesheet_closeArguments (listed : Bool) :
    BlamesStylesheet (closeArguments listed) := by
  have closing : BlamesStylesheet (do let _ ← expectAs .modifierEnd .closeBrace) :=
    (behaves_expectAs faults_areStylesheet _ _).bind fun _ _ => behaves_pure trivial
  refine behaves_ite (fun _ => ?_) fun _ => closing
  refine (behaves_isAt _).bind fun _ _ => behaves_ite (fun _ => ?_) fun _ => ?_
  · exact behaves_advance.bind fun _ _ => closing
  · refine behaves_current.bind fun t _ => ?_
    have fails : BlamesStylesheet (failAt t (.surplusArgument t) : Reader PUnit) :=
      behaves_failAt faults_areStylesheet _ _
    exact fails.bind fun _ _ => closing

theorem blamesStylesheet_fillFields (steady : SteadyOverload r s) :
    BlamesStylesheet (fillFields s) := by
  rw [fillFields, steady.noneHidden]
  exact behaves_pure trivial

theorem blamesStylesheet_takeOrLeave {reader : Reader Value} (blames : BlamesStylesheet reader)
    (hasDefault : Bool) : BlamesStylesheet (takeOrLeave hasDefault reader) := by
  have taken (v : Value) : BlamesStylesheet (do separator; return v : Reader Value) :=
    blamesStylesheet_separator.bind fun _ _ => behaves_pure trivial
  have read : BlamesStylesheet (Except.ok <$> reader : Reader (Except Failure Value)) := blames.map
  refine behaves_ite (fun _ => (behaves_attemptFor blames _).bind fun result _ => ?_)
    fun _ => read.bind fun result _ => ?_
  · cases result with
    | error e => exact behaves_pure trivial
    | ok v => exact taken v
  · cases result with
    | error e => exact behaves_pure trivial
    | ok v => exact taken v

variable (registry : r.BlamesOnly fun e => e.isStylesheet = true)

include registry

theorem behaves_reader (steady : IsSteadyType r type) :
    Behaves (fun e => e.isStylesheet = true) BlamesStylesheet (r.reader type) := by
  rw [Registry.reader]
  rw [IsSteadyType] at steady
  cases known : r.find type with
  | ok reader =>
    rw [known] at steady
    refine behaves_pure ?_
    exact (yields_find faults_areStylesheet registry steady known).mono fun _ _ => trivial
  | error e =>
    rw [known] at steady
    exact behaves_throw steady

theorem blamesStylesheet_positionalArgument (steady : IsSteadyType r type)
    (listed hasDefault : Bool) :
    BlamesStylesheet (positionalArgument r listed type hasDefault) := by
  refine (blamesStylesheet_isExhausted listed).bind fun _ _ => behaves_isAtKey.bind fun _ _ => ?_
  refine behaves_ite (fun _ => blamesStylesheet_missing _ _) fun _ => ?_
  exact (behaves_reader registry steady).bind fun reader blames =>
    blamesStylesheet_takeOrLeave blames hasDefault

theorem blamesStylesheet_labeledArgument (steady : IsSteadyType r type) (listed hasDefault : Bool) :
    BlamesStylesheet (labeledArgument r listed label type hasDefault) := by
  refine (blamesStylesheet_isExhausted listed).bind fun _ _ => behaves_isAtKey.bind fun _ _ => ?_
  refine behaves_current.bind fun _ _ => ?_
  refine behaves_ite (fun _ => blamesStylesheet_missing _ _) fun _ => ?_
  refine (behaves_reader registry steady).bind fun reader blames => ?_
  exact behaves_key.bind fun _ _ => blames.bind fun _ _ =>
    blamesStylesheet_separator.bind fun _ _ => behaves_pure trivial

theorem blamesStylesheet_argumentValues (listed : Bool) {ps : List Parameter}
    (steady : ∀ p ∈ ps, IsSteadyType r p.type.text) :
    BlamesStylesheet (argumentValues r listed ps) := by
  induction ps with
  | nil => exact behaves_pure trivial
  | cons p ps ih =>
    obtain ⟨first, later⟩ := List.forall_mem_cons.1 steady
    have one : BlamesStylesheet (argument r listed p) := behaves_ite
      (fun _ => blamesStylesheet_labeledArgument registry first listed _)
      fun _ => blamesStylesheet_positionalArgument registry first listed _
    exact one.bind fun _ _ => (ih later).bind fun _ _ => behaves_pure trivial

/-- A steady overload blames nothing but the stylesheet. -/
theorem blamesStylesheet_overloadArguments (steady : SteadyOverload r s) :
    BlamesStylesheet (overloadArguments r s) :=
  blamesStylesheet_openArguments.bind fun listed _ =>
    (blamesStylesheet_argumentValues registry listed steady.types).bind fun _ _ =>
      (blamesStylesheet_fillFields steady).bind fun _ _ =>
        (blamesStylesheet_closeArguments listed).bind fun _ _ => behaves_pure trivial

/-! ## Overloads -/

/-- The overload at an index accepts a call behind its head, and the ones before it fail, for
whatever reason. -/
structure IsFirstToAccept (r : Registry) (signatures : List Signature) (c c' : Cursor) (k : Nat)
    (s : Signature) (values : List Value) : Prop where
  signature : signatures[k]? = some s
  failing : ∀ j < k, ∀ t, signatures[j]? = some t → FailsAt (overloadArguments r t) c
  accepted : (overloadArguments r s).run' c = (.ok values, c')

omit registry in
/-- Of the overloads that accept a call there is a first one. -/
theorem exists_isFirstToAccept {signatures : List Signature} {c c' : Cursor} {values : List Value}
    (there : s ∈ signatures) (accepted : (overloadArguments r s).run' c = (.ok values, c')) :
    ∃ k s values c', IsFirstToAccept r signatures c c' k s values := by
  classical
  obtain ⟨index, overload⟩ := List.getElem?_of_mem there
  have some : ∃ k s values c', signatures[k]? = some s ∧
      (overloadArguments r s).run' c = (.ok values, c') :=
    ⟨index, s, values, c', overload, accepted⟩
  obtain ⟨s, values, c', overload, accepted⟩ := Nat.find_spec some
  refine ⟨Nat.find some, s, values, c', overload, fun j before t overload => ?_, accepted⟩
  rcases run : (overloadArguments r t).run' c with ⟨e | values, c₁⟩
  · exact ⟨e, c₁, run⟩
  · exact absurd ⟨t, values, c₁, overload, run⟩ (Nat.find_min some before)

/-- Where a steady overload fails, the stylesheet is to blame. -/
theorem SteadyOverload.rejectsAt (steady : SteadyOverload r s) {c : Cursor}
    (convertible : c.Convertible) (fails : FailsAt (overloadArguments r s) c) :
    RejectsAt (overloadArguments r s) c := by
  obtain ⟨e, c', run⟩ := fails
  exact ⟨e, c', run, (blamesStylesheet_overloadArguments registry steady c convertible).2 e c' run⟩

variable {m : Modifier}

theorem blamesStylesheet_firstOverload (start : Token) {overloads : List (Signature × Nat)}
    (steady : ∀ s ∈ overloads, SteadyOverload r s.1) {failures : List Failure}
    (blamed : ∀ e ∈ failures, e.isStylesheet = true) :
    BlamesStylesheet (firstOverload r m start overloads failures) := by
  induction overloads generalizing failures with
  | nil =>
    refine behaves_throw ?_
    unfold overloadFailure
    split
    · next same =>
      have there : _ ∈ failures.reverse := same ▸ List.mem_singleton.2 rfl
      exact blamed _ (List.mem_reverse.1 there)
    · rfl
  | cons s rest ih =>
    obtain ⟨first, later⟩ := List.forall_mem_cons.1 steady
    have tried := behaves_attemptFor (blamesStylesheet_overloadArguments registry first)
      Failure.isStylesheet
    refine tried.bind fun result attempted => ?_
    split
    · exact behaves_pure trivial
    · exact ih later (List.forall_mem_cons.2 ⟨attempted, blamed⟩)

theorem blamesStylesheet_readModifier (steady : ∀ s ∈ m.signatures, SteadyOverload r s) :
    BlamesStylesheet (readModifier r m) := by
  refine behaves_current.bind fun start _ => (behaves_callHead faults_areStylesheet).bind ?_
  rintro ⟨name, metadata⟩ -
  refine behaves_ite (fun _ => behaves_failAt faults_areStylesheet _ _) fun _ => ?_
  have each : ∀ s ∈ m.signatures.zipIdx, SteadyOverload r s.1 :=
    fun s there => steady s.1 (List.fst_mem_of_mem_zipIdx there)
  exact (blamesStylesheet_firstOverload registry start each (List.forall_mem_nil _)).bind
    fun _ _ => behaves_pure trivial

/-- A modifier of steady overloads is read by the first of them that accepts a call. -/
theorem run'_readModifier_of_steady (steady : ∀ s ∈ m.signatures, SteadyOverload r s)
    {c c₁ c' : Cursor} {metadata : Metadata Value} (convertible : c.Convertible)
    (head : callHead.run' c = (.ok (m.name, metadata), c₁)) {k : Nat} {s : Signature}
    {values : List Value} (first : IsFirstToAccept r m.signatures c₁ c' k s values) :
    (readModifier r m).run' c = (.ok ⟨m, k, s, values, metadata⟩, c') := by
  have blames : BlamesStylesheet callHead := behaves_callHead faults_areStylesheet
  obtain ⟨behind, -⟩ := (blames c convertible).1 _ _ head
  refine (run'_readModifier_eq_ok_iff head).2 ⟨k, s, values, rfl, first.signature, ?_,
    first.accepted⟩
  intro j before t overload
  exact (steady t (List.mem_of_getElem? overload)).rejectsAt registry behind
    (first.failing j before t overload)

end Arguments

/-! ## Calls -/

namespace Dispatcher

/-- A dispatcher of steady overloads whose other readers blame nothing but the stylesheet. -/
structure Steady (d : Dispatcher) : Prop where
  registry : d.registry.BlamesOnly fun e => e.isStylesheet = true
  overloads : ∀ group ∈ d.chunks, ∀ m ∈ group, ∀ s ∈ m.signatures, SteadyOverload d.registry s
  extras : ∀ e ∈ d.extras, BlamesStylesheet e.2.reader
  custom : BlamesStylesheet d.custom
  content : ∀ kind reader, d.content kind = some reader → BlamesStylesheet reader

variable {d : Dispatcher} (steady : d.Steady)

include steady

theorem blamesStylesheet_readBuiltin (name : String) (metadata : Metadata Value) :
    BlamesStylesheet (d.readBuiltin name metadata) := by
  rw [readBuiltin]
  split
  · next reader found =>
    have listed := NameTable.mem_of_get?_ofList found
    rcases List.mem_append.1 listed with listed | listed
    · obtain ⟨⟨group, index⟩, numbered, listed⟩ := List.mem_flatMap.1 listed
      obtain ⟨m, there, same⟩ := List.mem_map.1 listed
      cases same
      have overloads := steady.overloads group (List.fst_mem_of_mem_zipIdx numbered) m there
      exact (blamesStylesheet_readModifier steady.registry overloads).bind fun _ _ =>
        behaves_pure trivial
    · obtain ⟨e, there, same⟩ := List.mem_map.1 listed
      cases same
      exact (steady.extras e there).bind fun _ _ => behaves_pure trivial
  · exact behaves_throw rfl

theorem blamesStylesheet_readContent (kind : ContentKind) :
    BlamesStylesheet (d.readContent kind) := by
  refine behaves_current.bind fun start _ =>
    (behaves_lookingAhead (behaves_callHead faults_areStylesheet)).bind ?_
  rintro ⟨name, metadata⟩ -
  refine behaves_ite (fun _ => behaves_failAt faults_areStylesheet _ _) fun _ => ?_
  cases known : d.content kind with
  | none => exact behaves_anyModifier faults_areStylesheet
  | some reader => exact steady.content kind reader known

omit steady in
theorem isStylesheet_finalFailure {name : String} {metadata : Metadata Value}
    {builtin custom : Failure} (builtinBlames : builtin.isStylesheet = true)
    (customBlames : custom.isStylesheet = true) :
    (d.finalFailure name metadata builtin custom).isStylesheet = true := by
  unfold finalFailure
  split
  · split
    · rfl
    · exact customBlames
  · exact builtinBlames

theorem blamesStylesheet_read : BlamesStylesheet d.read := by
  refine (behaves_lookingAhead (behaves_callHead faults_areStylesheet)).bind ?_
  rintro ⟨name, metadata⟩ -
  refine (behaves_attemptFor (blamesStylesheet_readBuiltin steady name metadata) _).bind
    fun result builtin => ?_
  split
  · exact behaves_pure trivial
  refine (behaves_attemptFor (blamesStylesheet_readContent steady .text) _).bind fun text _ => ?_
  split
  · exact behaves_pure trivial
  refine (behaves_attemptFor (blamesStylesheet_readContent steady .image) _).bind fun image _ => ?_
  split
  · exact behaves_pure trivial
  refine (behaves_attemptFor steady.custom _).bind fun custom blamed => ?_
  split
  · exact behaves_pure trivial
  · exact behaves_throw (isStylesheet_finalFailure builtin blamed)

/-! ## Texts -/

omit steady in
theorem blamesStylesheet_expectEnd (surplus : Token → Cause) :
    BlamesStylesheet (expectEnd surplus) :=
  (behaves_isAt _).bind fun _ _ => behaves_ite (fun _ => behaves_pure trivial) fun _ =>
    behaves_current.bind fun _ _ => behaves_failAt faults_areStylesheet _ _

/-- Where numbers can be converted, a steady dispatcher blames nothing but the stylesheet. -/
theorem isStylesheet_of_parseText {text : String} {e : Failure} (whole : HasWholeNumbers text)
    (failed : d.parseText text = .error e) : e.isStylesheet = true := by
  rw [parseText, ofText] at failed
  split at failed
  · cases failed
    rfl
  · next c scanned =>
    have reading : BlamesStylesheet d.readOne := (blamesStylesheet_read steady).bind fun _ _ =>
      (blamesStylesheet_expectEnd _).bind fun _ _ => behaves_pure trivial
    exact (reading c (whole.convertible scanned)).2 e _ (Prod.ext failed rfl)

end Dispatcher

end ViewModifiers.Dispatch
