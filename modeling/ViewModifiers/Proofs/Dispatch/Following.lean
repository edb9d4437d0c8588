import ViewModifiers.Proofs.Dispatch.DefaultHost
import ViewModifiers.Proofs.Dispatch.Precedence
import ViewModifiers.Proofs.Stylesheet.Following
import ViewModifiers.Proofs.Stylesheet.Registry

/-!
# Dispatching one call in two texts

A dispatcher without readers of a host goes through a call alike wherever it is written: overloads
that fail, fail alike, and so do all the readers that are tried. What it makes of the call differs
in places at most, and it leaves the cursors behind the call (`runsAlike_read`).
-/

namespace ViewModifiers.Dispatch

open Catalog Stylesheet Stylesheet.Registry Text Reader Cursor

variable {r : Registry} {behind behind' c c' : Cursor} {n j k : Nat}

/-! ## Types -/

section Types

variable {p : Reader Value → Prop} {t : Target} {enums : List Enumeration}
  {readers : NameTable (Reader Value)}

theorem all_withEnums (all : r.All p) (each : ∀ entry ∈ readers, p entry.2) :
    (withEnums r readers).All p := by
  induction readers generalizing r with
  | nil => exact all
  | cons entry readers ih =>
    obtain ⟨first, later⟩ := List.forall_mem_cons.1 each
    exact ih (all.register entry.1 first) later

/-- The enumerated types of a target are read by tables of members. -/
theorem all_target (built : enumReaders t enums = .ok readers) (all : r.All p)
    (members : ∀ table, p (member table)) : (withEnums r readers).All p := by
  refine all_withEnums all fun entry there => ?_
  obtain ⟨e, -, -, table, -, made⟩ := exists_of_mem_enumReaders built there
  obtain ⟨-, -, -, same⟩ := enumReader?_eq_some_iff.1 made
  rw [same]
  exact members table

theorem inherited_followsCalls : Inherited FollowsCalls where
  optional := fun _ => followsCalls_optional
  array := fun _ => followsCalls_array
  dictionary := fun _ => followsCalls_dictionary

theorem followsCalls_standard : standard.All FollowsCalls where
  plain := by
    intro e there
    simp only [standard, List.mem_cons, List.not_mem_nil, or_false] at there
    rcases there with rfl | rfl | rfl | rfl | rfl | rfl | rfl | rfl | rfl | rfl | rfl | rfl
    · exact followsCalls_number
    · exact followsCalls_number
    · exact followsCalls_number
    · exact followsCalls_integer
    · exact followsCalls_flag
    · exact followsCalls_string
    · exact followsCalls_atomOrString Value.text
    · exact followsCalls_event
    · exact followsCalls_views .view
    · exact followsCalls_views .inlineView
    · exact followsCalls_views .toolbarContent
    · exact followsCalls_textTemplate
  generic := by
    intro e there
    simp only [standard, List.mem_cons, List.not_mem_nil, or_false] at there
    rcases there with rfl | rfl | rfl | rfl | rfl
    · exact Factory.keeps_unary fun _ => followsCalls_attributeOr
    · exact Factory.keeps_unary fun _ _ => followsCalls_binding
    · exact Factory.keeps_unary fun _ => followsCalls_set
    · exact Factory.keeps_unary fun _ => followsCalls_array
    · exact Factory.keeps_unary fun _ => followsCalls_optional

end Types

/-! ## Arguments -/

section Arguments

variable {value : Reader Value} {type : String}

/-- The reader of a type is the same in both runs. -/
theorem runsAlike_reader {take : Reader Value → Reader Value}
    {Q : Value → Value → Cursor → Cursor → Prop}
    (each : ∀ reader, r.find type = .ok reader → RunsAlike (take reader) (take reader) c c' Q) :
    RunsAlike (r.reader type >>= take) (r.reader type >>= take) c c' Q := by
  unfold Registry.reader
  cases known : r.find type with
  | ok reader => exact runsAlike_look rfl rfl (each reader known)
  | error e => exact .error e e c c' rfl rfl ⟨rfl, rfl⟩

theorem runsAlike_missing (hasDefault : Bool) (cause : Cause)
    (along : Alongside behind behind' (n + 1) j c c') :
    RunsAlike (missing hasDefault cause) (missing hasDefault cause) c c' fun v v' s s' =>
      v.unplaced = v'.unplaced ∧ Alongside behind behind' (n + 1) j s s' :=
  runsAlike_ite Iff.rfl (fun _ => runsAlike_pure ⟨rfl, along⟩) fun _ => runsAlike_fail _ _

/-- A value is taken together with the separator behind it. -/
theorem runsAlike_taken {v v' : Value} (same : v.unplaced = v'.unplaced)
    (along : Alongside behind behind' (n + 1) j c c') :
    RunsAlike (do separator; return v) (do separator; return v') c c' fun w w' s s' =>
      w.unplaced = w'.unplaced ∧ Alongside behind behind' (n + 1) j s s' := by
  have separated : RunsAlike separator separator c c' fun _ _ s s' =>
      Alongside behind behind' (n + 1) j s s' := by
    refine (runsAlike_accept .comma along).bind fun found found' s s' accepted => ?_
    rcases accepted with ⟨rfl, rfl, i, fewer, along⟩ | ⟨rfl, rfl, along⟩
    · exact runsAlike_pure (along.mono (Nat.le_of_lt fewer))
    · exact runsAlike_ite_isAt .closeBracket along (fun _ => runsAlike_pure along)
        (runsAlike_failExpecting _)
  exact separated.bind fun _ _ s s' along => runsAlike_pure ⟨same, along⟩

theorem followsCalls_takeOrLeave (follows : FollowsCalls value) (hasDefault : Bool) :
    FollowsCalls (takeOrLeave hasDefault value) := by
  intro behind behind' k n c c' j le along
  have read := follows behind behind' k n c c' j le along
  refine runsAlike_ite Iff.rfl (fun _ => ?attempted) fun _ => ?demanded
  case attempted =>
    refine (runsAlike_attemptFor read fun _ _ alike => alike.stylesheet).bind
      fun result result' s s' tried => ?_
    rcases tried with ⟨v, v', rfl, rfl, same, along⟩ | ⟨e, e', rfl, rfl, -, rfl, rfl⟩
    · exact runsAlike_taken same along
    · exact runsAlike_pure ⟨rfl, along⟩
  case demanded =>
    have demanded : RunsAlike (Except.ok <$> value : Reader (Except Failure Value))
        (Except.ok <$> value) c c' fun result result' s s' => ∃ v v', result = .ok v ∧
          result' = .ok v' ∧ v.unplaced = v'.unplaced ∧ Alongside behind behind' (n + 1) j s s' :=
      RunsAlike.map (read.mono fun v v' s s' known => ⟨v, v', rfl, rfl, known⟩)
    refine demanded.bind fun result result' s s' known => ?_
    obtain ⟨v, v', rfl, rfl, same, along⟩ := known
    exact runsAlike_taken same along

theorem noneLeft_eq (listed : Bool) (along : Alongside behind behind' (n + 1) j c c') :
    noneLeft listed c = noneLeft listed c' := by
  rw [noneLeft, noneLeft, along.kind]

theorem atKey_eq (along : Alongside behind behind' (n + 1) j c c') : atKey c = atKey c' := by
  rw [Bool.eq_iff_iff, atKey, atKey, Bool.and_eq_true, Bool.and_eq_true]
  simp only [decide_eq_true_eq]
  exact along.pair_iff .name .colon rfl

variable (registry : r.All FollowsCalls)

include registry

theorem followsCalls_positionalArgument (listed hasDefault : Bool) :
    FollowsCalls (positionalArgument r listed type hasDefault) := by
  intro behind behind' k n c c' j le along
  refine runsAlike_look (run'_isExhausted listed c) (run'_isExhausted listed c') ?_
  refine runsAlike_look (run'_isAtKey c) (run'_isAtKey c') (runsAlike_ite ?_ (fun _ => ?_) ?_)
  · have sameKey : atKey c = atKey c' := atKey_eq along
    rw [noneLeft_eq listed along]
    exact iff_of_eq (congrArg (fun b => (noneLeft listed c' || b) = true) sameKey)
  · exact runsAlike_missing hasDefault _ along
  · intro _
    show RunsAlike (r.reader type >>= takeOrLeave hasDefault)
      (r.reader type >>= takeOrLeave hasDefault) c c' _
    refine runsAlike_reader fun reader known => ?_
    have follows : FollowsCalls reader := registry.of_find inherited_followsCalls known
    exact followsCalls_takeOrLeave follows hasDefault behind behind' k n c c' j le along

theorem followsCalls_labeledArgument (listed hasDefault : Bool) (label : String) :
    FollowsCalls (labeledArgument r listed label type hasDefault) := by
  intro behind behind' k n c c' j le along
  refine runsAlike_look (run'_isExhausted listed c) (run'_isExhausted listed c') ?_
  refine runsAlike_look (run'_isAtKey c) (run'_isAtKey c') ?_
  refine runsAlike_look (run'_current c) (run'_current c') (runsAlike_ite ?_ (fun _ => ?_) ?_)
  · have sameKey : atKey c = atKey c' := atKey_eq along
    rw [noneLeft_eq listed along, along.value]
    exact iff_of_eq (congrArg (fun b => (noneLeft listed c' || !b ||
      decide (c'.current.value ≠ label)) = true) sameKey)
  · exact runsAlike_missing hasDefault _ along
  · intro here
    have keyed : atKey c = true := by
      by_contra notKeyed
      refine here ?_
      rw [show (decide (c.current.kind = .name) && decide ((c.peek 1).kind = .colon)) = false from
        Bool.eq_false_iff.2 notKeyed]
      rw [Bool.not_false, Bool.or_true, Bool.true_or]
    obtain ⟨isName, isColon⟩ := Bool.and_eq_true_iff.1 keyed
    show RunsAlike (r.reader type >>= takeKeyed) (r.reader type >>= takeKeyed) c c' _
    refine runsAlike_reader fun reader known => ?_
    have follows : FollowsCalls reader := registry.of_find inherited_followsCalls known
    refine (runsAlike_key along (of_decide_eq_true isName) (of_decide_eq_true isColon)).bind
      fun _ _ s s' ⟨_, along⟩ => ?_
    exact (follows behind behind' k n s s' j le along).bind
      fun v v' t t' ⟨same, along⟩ => runsAlike_taken same along

theorem followsCalls_argument (listed : Bool) (q : Parameter) :
    FollowsCalls (argument r listed q) := by
  intro behind behind' k n c c' j le along
  refine runsAlike_ite Iff.rfl (fun _ => ?_) fun _ => ?_
  · exact followsCalls_labeledArgument registry listed _ _ behind behind' k n c c' j le along
  · exact followsCalls_positionalArgument registry listed _ behind behind' k n c c' j le along

theorem follows_argumentValues (listed : Bool) (ps : List Parameter) :
    Follows behind behind' k (List.map Value.unplaced) (argumentValues r listed ps)
      (argumentValues r listed ps) := by
  induction ps with
  | nil => exact fun n c c' j le along => runsAlike_pure ⟨rfl, along⟩
  | cons p ps ih =>
    intro n c c' j le along
    refine (followsCalls_argument registry listed p behind behind' k n c c' j le along).bind
      fun v v' s s' ⟨same, along⟩ => ?_
    refine (ih n s s' j le along).bind fun vs vs' t t' ⟨later, along⟩ => runsAlike_pure ⟨?_, along⟩
    rw [List.map_cons, List.map_cons, same, later]

end Arguments

/-! ## Overloads -/

/-- How deep the arguments of a call stand in it. -/
def depthInside (listed : Bool) (n : Nat) : Nat := if listed then n + 2 else n + 1

theorem runsAlike_openArguments (along : Alongside behind behind' (n + 1) j c c') :
    RunsAlike openArguments openArguments c c' fun listed listed' s s' =>
      listed = listed' ∧ Alongside behind behind' (depthInside listed n) j s s' := by
  refine (runsAlike_accept .comma along).bind fun found found' s s' accepted => ?_
  rcases accepted with ⟨rfl, rfl, i, fewer, along⟩ | ⟨rfl, rfl, along⟩
  · refine (runsAlike_expectAs .argumentList .openBracket along).bind
      fun _ _ t t' ⟨_, i', fewer', along⟩ => runsAlike_pure ⟨rfl, along.mono (by omega)⟩
  · exact runsAlike_pure ⟨rfl, along⟩

theorem runsAlike_closeArguments (listed : Bool)
    (along : Alongside behind behind' (depthInside listed n) j c c') :
    RunsAlike (closeArguments listed) (closeArguments listed) c c' fun _ _ s s' =>
      Alongside behind behind' n j s s' := by
  have closing {s s' : Cursor} {i : Nat} (le : i ≤ j)
      (along : Alongside behind behind' (n + 1) i s s') :
      RunsAlike (do let _ ← expectAs .modifierEnd .closeBrace)
        (do let _ ← expectAs .modifierEnd .closeBrace) s s' fun _ _ t t' =>
          Alongside behind behind' n j t t' :=
    (runsAlike_expectAs .modifierEnd .closeBrace along).bind
      fun _ _ t t' ⟨_, i', fewer', along⟩ => runsAlike_pure (along.mono (by omega))
  cases listed with
  | false => exact closing (Nat.le_refl j) along
  | true =>
    refine runsAlike_ite_isAt .closeBracket along (fun isClosing => ?_) ?_
    · refine (runsAlike_advance along).bind fun _ _ s s' ⟨_, _, i, fewer, later⟩ => ?_
      rw [isClosing] at later
      exact closing (Nat.le_of_lt fewer) later
    · exact runsAlike_look (run'_current c) (run'_current c')
        (.error _ _ _ _ rfl rfl ⟨rfl, rfl⟩)

theorem runsAlike_overloadArguments (registry : r.All FollowsCalls) (s : Signature)
    (along : Alongside behind behind' (n + 1) j c c') :
    RunsAlike (overloadArguments r s) (overloadArguments r s) c c' fun vs vs' t t' =>
      vs.map Value.unplaced = vs'.map Value.unplaced ∧ Alongside behind behind' n j t t' := by
  refine (runsAlike_openArguments along).bind fun listed listed' t t' ⟨same, along⟩ => ?_
  subst same
  obtain ⟨m, deeper⟩ : ∃ m, depthInside listed n = m + 1 := by
    cases listed <;> exact ⟨_, rfl⟩
  rw [deeper] at along
  refine (follows_argumentValues registry listed s.parameters m t t' j (Nat.le_refl j) along).bind
    fun vs vs' u u' ⟨same, along⟩ => ?_
  have filled : RunsAlike (fillFields s) (fillFields s) u u' fun _ _ w w' => w = u ∧ w' = u' := by
    unfold fillFields
    split
    · exact runsAlike_throw ⟨rfl, rfl⟩
    · exact runsAlike_pure ⟨rfl, rfl⟩
  refine filled.bind fun _ _ w w' ⟨here, here'⟩ => ?_
  subst here here'
  rw [← deeper] at along
  exact (runsAlike_closeArguments listed along).bind fun _ _ w w' along =>
    runsAlike_pure ⟨same, along⟩

/-- What is said if no overload accepts a call, blames the same in both runs. -/
theorem overloadFailure_blamesAlike (m : Modifier) (start start' : Token)
    {failures failures' : List Failure}
    (alike : List.Forall₂ Failure.BlamesAlike failures failures') :
    (overloadFailure m start failures).BlamesAlike (overloadFailure m start' failures') := by
  cases alike with
  | nil => exact ⟨rfl, rfl⟩
  | cons first rest =>
    cases rest with
    | nil => exact first
    | cons => exact ⟨rfl, rfl⟩

/-- The first overload that accepts a call is the same in both runs. -/
theorem runsAlike_firstOverload (registry : r.All FollowsCalls) (m : Modifier)
    (start start' : Token) (overloads : List (Signature × Nat))
    {failures failures' : List Failure}
    (alike : List.Forall₂ Failure.BlamesAlike failures failures')
    (along : Alongside behind behind' (n + 1) j c c') :
    RunsAlike (firstOverload r m start overloads failures)
      (firstOverload r m start' overloads failures') c c' fun found found' s s' =>
        (found.1, found.2.1, found.2.2.map Value.unplaced) =
            (found'.1, found'.2.1, found'.2.2.map Value.unplaced) ∧
          Alongside behind behind' n j s s' := by
  induction overloads generalizing failures failures' with
  | nil =>
    exact runsAlike_throw (overloadFailure_blamesAlike m start start' (List.rel_reverse alike))
  | cons overload rest ih =>
    have tried := runsAlike_attemptFor (runsAlike_overloadArguments registry overload.1 along)
      fun _ _ alike => alike.stylesheet
    refine tried.bind fun result result' s s' tried => ?_
    rcases tried with ⟨vs, vs', rfl, rfl, same, along⟩ | ⟨e, e', rfl, rfl, blames, rfl, rfl⟩
    · exact runsAlike_pure ⟨congrArg (fun vs => (overload.1, overload.2, vs)) same, along⟩
    · exact ih (.cons blames alike)

/-- A call of a modifier without places. -/
def ParsedModifier.unplaced (p : ParsedModifier) : ParsedModifier :=
  { p with
    arguments := p.arguments.map Value.unplaced
    metadata := metadataUnplaced p.metadata }

theorem runsAlike_readModifier (registry : r.All FollowsCalls) (m : Modifier)
    (atCall : AtCall behind behind' n k c c') :
    RunsAlike (readModifier r m) (readModifier r m) c c' fun p p' s s' =>
      p.unplaced = p'.unplaced ∧ Alongside behind behind' n k s s' := by
  refine runsAlike_look (run'_current c) (run'_current c') ?_
  refine (runsAlike_callHeadOver (follows_any (k := k)) (Nat.le_succ k) atCall).bind
    fun ⟨name, metadata⟩ ⟨name', metadata'⟩ s s' ⟨same, along⟩ => ?_
  obtain ⟨rfl, sameMetadata⟩ := Prod.mk.inj same
  refine runsAlike_ite Iff.rfl (fun _ => runsAlike_failAt _ _ _ _) fun _ => ?_
  refine (runsAlike_firstOverload registry m c.current c'.current m.signatures.zipIdx .nil
    along).bind fun found found' t t' ⟨same, along⟩ => runsAlike_pure ⟨?_, along⟩
  obtain ⟨signature, overload, values⟩ := found
  obtain ⟨signature', overload', values'⟩ := found'
  obtain ⟨rfl, same⟩ := Prod.mk.inj same
  obtain ⟨rfl, same⟩ := Prod.mk.inj same
  have arguments : values.map Value.unplaced = values'.map Value.unplaced := same
  have places : metadataUnplaced metadata = metadataUnplaced metadata' := sameMetadata
  rw [ParsedModifier.unplaced, ParsedModifier.unplaced]
  dsimp only
  rw [arguments, places]

/-! ## The dispatcher -/

/-- What was read, without places. -/
def Payload.unplaced : Payload → Payload
  | .modifier p => .modifier p.unplaced
  | .value v => .value v.unplaced

/-- A dispatched call without places. -/
def Dispatched.unplaced (d : Dispatched) : Dispatched := ⟨d.case, d.payload.unplaced⟩

namespace Dispatcher

/-- A dispatcher without readers of a host: all its types are read by readers with a property. -/
structure Hostless (p : Reader Value → Prop) (d : Dispatcher) : Prop where
  registry : d.registry.All p
  extras : d.extras = []
  custom : d.custom = rejectCustom
  content : ∀ kind, d.content kind = none

variable {d : Dispatcher} {p : Reader Value → Prop}

/-- Built-in modifiers are the only ones that have a reader of their own. -/
theorem Hostless.exists_chunkReader (hostless : d.Hostless p) {name : String}
    {reader : Reader Dispatched} (found : NameTable.get? d.builtins name = some reader) :
    ∃ index m, reader = d.chunkReader index m := by
  have listed := NameTable.mem_of_get?_ofList found
  rw [hostless.extras, List.map_nil, List.append_nil] at listed
  obtain ⟨⟨group, index⟩, -, listed⟩ := List.mem_flatMap.1 listed
  obtain ⟨m, -, same⟩ := List.mem_map.1 listed
  exact ⟨index, m, (congrArg Prod.snd same).symm⟩

section

variable (hostless : d.Hostless FollowsCalls) (atCall : AtCall behind behind' n k c c')

include hostless atCall

theorem runsAlike_readBuiltin (name : String) (metadata metadata' : Metadata Value) :
    RunsAlike (d.readBuiltin name metadata) (d.readBuiltin name metadata') c c'
      fun found found' s s' =>
        found.unplaced = found'.unplaced ∧ Alongside behind behind' n k s s' := by
  cases found : NameTable.get? d.builtins name with
  | none =>
    rw [readBuiltin_of_none found, readBuiltin_of_none found]
    exact runsAlike_throw ⟨rfl, rfl⟩
  | some reader =>
    rw [readBuiltin_of_some found, readBuiltin_of_some found]
    obtain ⟨index, m, rfl⟩ := hostless.exists_chunkReader found
    refine (runsAlike_readModifier hostless.registry m atCall).bind
      fun p p' s s' ⟨same, along⟩ => runsAlike_pure ⟨?_, along⟩
    exact congrArg (fun p => (⟨.chunk index, .modifier p⟩ : Dispatched)) same

theorem runsAlike_readContent (kind : ContentKind) :
    RunsAlike (d.readContent kind) (d.readContent kind) c c' fun v v' s s' =>
      v.unplaced = v'.unplaced ∧ Alongside behind behind' n k s s' := by
  refine runsAlike_look (run'_current c) (run'_current c') ?_
  have head := runsAlike_callHeadOver (follows_any (k := k)) (Nat.le_succ k) atCall
  refine (runsAlike_lookingAhead head).bind
    fun ⟨name, metadata⟩ ⟨name', metadata'⟩ s s' ⟨⟨t, t', same, _⟩, here, here'⟩ => ?_
  subst here here'
  obtain ⟨rfl, -⟩ := Prod.mk.inj same
  rw [hostless.content]
  refine runsAlike_ite Iff.rfl (fun _ => runsAlike_failAt _ _ _ _) fun _ => ?_
  refine (runsAlike_callOver (follows_any (k := k)) (Nat.le_succ k) atCall).bind
    fun call call' s s' ⟨same, along⟩ => runsAlike_pure ⟨?_, along⟩
  exact congrArg Value.anyModifier same

omit hostless atCall in
theorem finalFailure_blamesAlike (name : String) (metadata metadata' : Metadata Value)
    {builtin builtin' custom custom' : Failure} (builtinAlike : builtin.BlamesAlike builtin')
    (customAlike : custom.BlamesAlike custom') :
    (d.finalFailure name metadata builtin custom).BlamesAlike
      (d.finalFailure name metadata' builtin' custom') := by
  unfold finalFailure
  rw [customAlike.modifier]
  split
  · split
    · exact ⟨rfl, rfl⟩
    · exact customAlike
  · exact builtinAlike

/-- **One call in two texts** is read alike. -/
theorem runsAlike_read : RunsAlike d.read d.read c c' fun found found' s s' =>
    found.unplaced = found'.unplaced ∧ Alongside behind behind' n k s s' := by
  have head := runsAlike_callHeadOver (follows_any (k := k)) (Nat.le_succ k) atCall
  refine (runsAlike_lookingAhead head).bind
    fun ⟨name, metadata⟩ ⟨name', metadata'⟩ s s' ⟨⟨t, t', same, _⟩, here, here'⟩ => ?_
  subst here here'
  obtain ⟨rfl, -⟩ := Prod.mk.inj same
  refine (runsAlike_attemptFor (runsAlike_readBuiltin hostless atCall name metadata metadata')
    fun _ _ _ => rfl).bind fun result result' t t' builtin => ?_
  rcases builtin with ⟨found, found', rfl, rfl, known⟩ | ⟨e, e', rfl, rfl, alike, rfl, rfl⟩
  · exact runsAlike_pure known
  refine (runsAlike_attemptFor (runsAlike_readContent hostless atCall .text) fun _ _ _ => rfl).bind
    fun result result' u u' text => ?_
  rcases text with ⟨v, v', rfl, rfl, same, along⟩ | ⟨_, _, rfl, rfl, -, rfl, rfl⟩
  · exact runsAlike_pure ⟨congrArg (fun v => (⟨.anyText, .value v⟩ : Dispatched)) same, along⟩
  refine (runsAlike_attemptFor (runsAlike_readContent hostless atCall .image) fun _ _ _ => rfl).bind
    fun result result' w w' image => ?_
  rcases image with ⟨v, v', rfl, rfl, same, along⟩ | ⟨_, _, rfl, rfl, -, rfl, rfl⟩
  · exact runsAlike_pure ⟨congrArg (fun v => (⟨.anyImage, .value v⟩ : Dispatched)) same, along⟩
  rw [hostless.custom]
  have custom : RunsAlike rejectCustom rejectCustom w w' fun _ _ _ _ => False := runsAlike_fail _ _
  refine (runsAlike_attemptFor custom fun _ _ _ => rfl).bind fun result result' x x' tried => ?_
  rcases tried with ⟨_, _, _, _, no⟩ | ⟨_, _, rfl, rfl, customAlike, rfl, rfl⟩
  · exact no.elim
  · exact runsAlike_throw (finalFailure_blamesAlike name metadata metadata' alike customAlike)

end

end Dispatcher

end ViewModifiers.Dispatch
