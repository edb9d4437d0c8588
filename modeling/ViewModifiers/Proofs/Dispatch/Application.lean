import Mathlib.Data.List.DropRight
import Mathlib.Data.List.Perm.Basic
import ViewModifiers.Dispatch.ParsedModifier
import ViewModifiers.Proofs.Dispatch.Agreement
import ViewModifiers.Proofs.Stylesheet.References
import ViewModifiers.Proofs.Stylesheet.Results

/-!
# What the view receives

A call that was read is applied by one call of the view's operation. The view is meant to receive
the arguments that were given, and no word of those that were left to their defaults. It does so if
no given argument without a label stands behind an omitted one, which would be passed in its place,
if no parameter behind a given argument has the same label, whose argument would be taken instead,
and if the host makes something of each given argument. It cannot make anything of a case of a type
that has a case named like the operation by which references are resolved.
-/

namespace ViewModifiers.Dispatch

open Catalog Stylesheet Text Reader

/-! ## Leaving out what is omitted -/

/-- What is left out at the end is all that is to be left out just if nothing else stands behind
it. -/
theorem rdropWhile_eq_filter_iff {α : Type} (p : α → Bool) (l : List α) :
    l.rdropWhile p = l.filter (fun a => !p a) ↔ l.Pairwise fun a b => p a = true → p b = true := by
  induction l using List.reverseRecOn with
  | nil => simp
  | append_singleton before a ih =>
    rw [List.rdropWhile_concat, List.filter_append, List.pairwise_append]
    cases isOut : p a with
    | true =>
      rw [if_pos rfl, List.filter_cons_of_neg (by simp [isOut]), List.filter_nil, List.append_nil,
        ih]
      simp [isOut]
    | false =>
      rw [if_neg Bool.false_ne_true, List.filter_cons_of_pos (by simp [isOut]), List.filter_nil,
        List.append_cancel_right_eq, eq_comm, List.filter_eq_self]
      constructor
      · intro given
        have none : ∀ b ∈ before, p b = false := fun b there => by simpa using given b there
        refine ⟨List.pairwise_iff_forall_sublist.2 ?_, List.pairwise_singleton _ _, ?_⟩
        · intro b c pair out
          have there := pair.subset (List.mem_cons_self)
          rw [none b there] at out
          cases out
        · intro b there c _ out
          rw [none b there] at out
          cases out
      · rintro ⟨-, -, behind⟩ b there
        have last := behind b there a (List.mem_singleton_self a)
        rw [isOut] at last
        simpa using last

variable {h : Host} {p : ParsedModifier}

theorem arguments_ofGiven_iff (operation : String) (arguments : List Value)
    (keywords : List (String × Value)) :
    (Application.ofGiven operation arguments keywords).arguments =
        arguments.filter (fun v => !v.isOmitted) ↔
      arguments.Pairwise fun v w => v.isOmitted = true → w.isOmitted = true :=
  rdropWhile_eq_filter_iff Value.isOmitted arguments

theorem keywords_ofGiven_iff (operation : String) (arguments : List Value)
    (keywords : List (String × Value)) :
    (Application.ofGiven operation arguments keywords).keywords.Perm
        (keywords.filter fun k => !k.2.isOmitted) ↔
      keywords.Pairwise fun k l => k.2.isOmitted = false → k.1 ≠ l.1 := by
  have table := NameTable.perm_filter_ofList_iff (fun v : Value => !v.isOmitted) keywords
  simp only [Bool.not_eq_true'] at table
  exact table

/-! ## Given arguments -/

namespace ParsedModifier

/-- Those of some arguments that were given. -/
def given (arguments : List (Parameter × Value)) : List (Parameter × Value) :=
  arguments.filter fun a => !a.2.isOmitted

end ParsedModifier

open ParsedModifier

/-- A call of the view's operation passes the arguments that were given, those without a label in
their order and the others under their labels, and no omitted one. -/
structure PassesGiven (h : Host) (p : ParsedModifier) (call : Application) : Prop where
  arguments : call.arguments.map .ok = (given p.unlabelled).map fun a => p.received h a.2
  keywords : (call.keywords.map fun k => (k.1, .ok k.2)).Perm
    ((given p.labelled).map fun a => (a.1.firstName, p.received h a.2))
  noneOmitted : (∀ v ∈ call.arguments, v.isOmitted = false) ∧
    ∀ k ∈ call.keywords, k.2.isOmitted = false

/-- The view receives the arguments that were given: the modifier is applied, and its call of the
view's operation passes them. -/
def ReceivesGiven (h : Host) (p : ParsedModifier) : Prop :=
  ∃ call, p.application h = .ok call ∧ PassesGiven h p call

/-- No given argument is out of reach: none without a label stands behind an omitted one, none with
a label in front of a parameter with the same label, each can be resolved if the modifier needs the
host, and the host makes something of each. -/
structure InReach (h : Host) (p : ParsedModifier) : Prop where
  inFront : p.unlabelled.Pairwise fun a b => a.2.isOmitted = true → b.2.isOmitted = true
  lastOfLabel : p.labelled.Pairwise fun a b => a.2.isOmitted = false → a.1.firstName ≠ b.1.firstName
  resolvable : p.modifier.needsHost = true → ∀ a ∈ given p.bound, a.2.isResolvable = true
  resolved : ∀ a ∈ given p.bound, p.received h a.2 ≠ .ok .omitted

/-! ## What is received of an argument -/

namespace ParsedModifier

/-- What the view receives of an argument that can be resolved. -/
def settled (h : Host) (p : ParsedModifier) (v : Value) : Value :=
  (p.received h v).toOption.getD v

end ParsedModifier

theorem received_omitted (h : Host) (p : ParsedModifier) :
    p.received h .omitted = .ok .omitted := by
  rw [received]
  split <;> rfl

theorem exists_received_iff {v : Value} : (∃ w, p.received h v = .ok w) ↔
    (p.modifier.needsHost = true → v.isResolvable = true) := by
  unfold received
  split
  · next needs => exact exists_resolve_iff.trans ⟨fun can _ => can, fun can => can needs⟩
  · next not => exact iff_of_true ⟨v, rfl⟩ fun needs => absurd needs not

theorem received_eq_ok_settled {v : Value} (can : ∃ w, p.received h v = .ok w) :
    p.received h v = .ok (p.settled h v) := by
  obtain ⟨w, received⟩ := can
  unfold settled
  rw [received]
  rfl

theorem value_eq_omitted {v : Value} (isOmitted : v.isOmitted = true) : v = .omitted := by
  cases v <;> first | rfl | cases isOmitted

/-- What can be received of the given arguments can be received of all. -/
theorem exists_received_of_given
    (can : ∀ a ∈ given p.bound, ∃ w, p.received h a.2 = .ok w) :
    ∀ a ∈ p.bound, ∃ w, p.received h a.2 = .ok w := by
  intro a there
  cases isOmitted : a.2.isOmitted with
  | false => exact can a (List.mem_filter.2 ⟨there, by simp [isOmitted]⟩)
  | true => exact ⟨_, value_eq_omitted isOmitted ▸ received_omitted h p⟩

theorem isOmitted_settled (resolved : ∀ a ∈ given p.bound, (p.settled h a.2).isOmitted = false)
    {a : Parameter × Value} (there : a ∈ p.bound) :
    (p.settled h a.2).isOmitted = a.2.isOmitted := by
  cases isOmitted : a.2.isOmitted with
  | false => exact resolved _ (List.mem_filter.2 ⟨there, by simp [isOmitted]⟩)
  | true =>
    rw [value_eq_omitted isOmitted, settled, received_omitted]
    rfl

theorem mem_bound_of_mem_unlabelled {a : Parameter × Value} (there : a ∈ p.unlabelled) :
    a ∈ p.bound :=
  (List.mem_filter.1 there).1

theorem mem_bound_of_mem_labelled {a : Parameter × Value} (there : a ∈ p.labelled) : a ∈ p.bound :=
  (List.mem_filter.1 there).1

/-! ## The call of the view's operation -/

/-- The call that a modifier makes if all its arguments can be resolved. -/
def expectedCall (h : Host) (p : ParsedModifier) : Application :=
  Application.ofGiven p.modifier.name (p.unlabelled.map fun a => p.settled h a.2)
    (p.labelled.map fun a => (a.1.firstName, p.settled h a.2))

theorem application_of_received (can : ∀ a ∈ p.bound, ∃ w, p.received h a.2 = .ok w) :
    p.application h = .ok (expectedCall h p) := by
  have placed : p.unlabelled.mapM (fun a => p.received h a.2) =
      .ok (p.unlabelled.map fun a => p.settled h a.2) :=
    mapM_eq_ok_map fun a there =>
      received_eq_ok_settled (can a (mem_bound_of_mem_unlabelled there))
  have named : p.labelled.mapM (fun a => do return (a.1.firstName, ← p.received h a.2)) =
      .ok (p.labelled.map fun a => (a.1.firstName, p.settled h a.2)) :=
    mapM_eq_ok_map fun a there => named_eq_ok_iff.2
      ⟨rfl, received_eq_ok_settled (can a (mem_bound_of_mem_labelled there))⟩
  unfold application
  rw [placed, named]
  rfl

/-- A modifier is applied just if all its arguments can be resolved. -/
theorem application_eq_ok_iff {call : Application} : p.application h = .ok call ↔
    (∀ a ∈ p.bound, ∃ w, p.received h a.2 = .ok w) ∧ call = expectedCall h p := by
  constructor
  · intro applied
    have can : ∀ a ∈ p.bound, ∃ w, p.received h a.2 = .ok w := by
      obtain ⟨arguments, placed, later⟩ := bind_eq_ok_iff.1 applied
      obtain ⟨keywords, named, -⟩ := bind_eq_ok_iff.1 later
      intro a there
      cases hasLabel : a.1.hasLabel with
      | false =>
        have listed : a ∈ p.unlabelled := List.mem_filter.2 ⟨there, by simp [hasLabel]⟩
        obtain ⟨w, -, received⟩ := exists_mem_right (mapM_eq_ok_iff.1 placed) listed
        exact ⟨w, received⟩
      | true =>
        have listed : a ∈ p.labelled := List.mem_filter.2 ⟨there, hasLabel⟩
        obtain ⟨k, -, received⟩ := exists_mem_right (mapM_eq_ok_iff.1 named) listed
        exact ⟨k.2, (named_eq_ok_iff.1 received).2⟩
    exact ⟨can, Except.ok.inj (applied.symm.trans (application_of_received can))⟩
  · rintro ⟨can, rfl⟩
    exact application_of_received can

section

variable {arguments : List (Parameter × Value)} (among : ∀ a ∈ arguments, a ∈ p.bound)
  (resolved : ∀ a ∈ given p.bound, (p.settled h a.2).isOmitted = false)
include among resolved

/-- What is to be left out of what the view receives is what was omitted. -/
theorem filter_settled {β : Type} (receive : Parameter × Value → β) (value : β → Value)
    (same : ∀ a, value (receive a) = p.settled h a.2) :
    (arguments.map receive).filter (fun b => !(value b).isOmitted) =
      (given arguments).map receive := by
  rw [List.filter_map]
  refine congrArg (List.map receive) (List.filter_congr fun a there => ?_)
  rw [Function.comp_apply, same, isOmitted_settled resolved (among a there)]

theorem pairwise_settled_iff {β : Type} (receive : Parameter × Value → β) {R : β → β → Prop}
    {S : Parameter × Value → Parameter × Value → Prop}
    (same : ∀ a b, (p.settled h a.2).isOmitted = a.2.isOmitted →
      (p.settled h b.2).isOmitted = b.2.isOmitted → (R (receive a) (receive b) ↔ S a b)) :
    (arguments.map receive).Pairwise R ↔ arguments.Pairwise S := by
  rw [List.pairwise_map]
  exact List.Pairwise.iff_of_mem fun hereA hereB => same _ _
    (isOmitted_settled resolved (among _ hereA)) (isOmitted_settled resolved (among _ hereB))

end

section

variable (resolved : ∀ a ∈ given p.bound, (p.settled h a.2).isOmitted = false)
include resolved

theorem arguments_expectedCall_iff :
    (expectedCall h p).arguments = (given p.unlabelled).map (fun a => p.settled h a.2) ↔
      p.unlabelled.Pairwise fun a b => a.2.isOmitted = true → b.2.isOmitted = true := by
  have among := fun a => mem_bound_of_mem_unlabelled (p := p) (a := a)
  rw [expectedCall, ← filter_settled among resolved (fun a => p.settled h a.2) id fun _ => rfl]
  refine (arguments_ofGiven_iff _ _ _).trans ?_
  apply pairwise_settled_iff among resolved
  intro a b first second
  rw [first, second]

theorem keywords_expectedCall_iff :
    (expectedCall h p).keywords.Perm
        ((given p.labelled).map fun a => (a.1.firstName, p.settled h a.2)) ↔
      p.labelled.Pairwise fun a b => a.2.isOmitted = false → a.1.firstName ≠ b.1.firstName := by
  have among := fun a => mem_bound_of_mem_labelled (p := p) (a := a)
  rw [expectedCall, ← filter_settled among resolved
    (fun a => (a.1.firstName, p.settled h a.2)) Prod.snd fun _ => rfl]
  refine (keywords_ofGiven_iff _ _ _).trans ?_
  apply pairwise_settled_iff among resolved
  intro a b first _
  rw [first]

end

/-! ## What the view receives of a call -/

section

variable (can : ∀ a ∈ p.bound, ∃ w, p.received h a.2 = .ok w)
include can

/-- The received arguments are results just if the values are what is received. -/
theorem map_ok_eq_iff {values : List Value} :
    values.map .ok = (given p.unlabelled).map (fun a => p.received h a.2) ↔
      values = (given p.unlabelled).map fun a => p.settled h a.2 := by
  have each : (given p.unlabelled).map (fun a => p.received h a.2) =
      ((given p.unlabelled).map fun a => p.settled h a.2).map .ok := by
    rw [List.map_map]
    refine List.map_congr_left fun a listed => received_eq_ok_settled (can a ?_)
    exact mem_bound_of_mem_unlabelled (List.mem_of_mem_filter listed)
  rw [each]
  exact (List.map_injective_iff.2 fun _ _ => Except.ok.inj).eq_iff

theorem map_ok_perm_iff {keywords : NameTable Value} :
    (keywords.map fun k => (k.1, .ok k.2)).Perm
        ((given p.labelled).map fun a => (a.1.firstName, p.received h a.2)) ↔
      keywords.Perm ((given p.labelled).map fun a => (a.1.firstName, p.settled h a.2)) := by
  have each : (given p.labelled).map (fun a => (a.1.firstName, p.received h a.2)) =
      ((given p.labelled).map fun a => (a.1.firstName, p.settled h a.2)).map
        fun k => (k.1, .ok k.2) := by
    rw [List.map_map]
    refine List.map_congr_left fun a listed => congrArg _ (received_eq_ok_settled (can a ?_))
    exact mem_bound_of_mem_labelled (List.mem_of_mem_filter listed)
  rw [each]
  refine List.map_perm_map_iff fun k l same => ?_
  injection same with name value
  exact Prod.ext name (Except.ok.inj value)

/-- Where the given arguments are passed, the host makes something of each of them. -/
theorem PassesGiven.resolved (passes : PassesGiven h p (expectedCall h p)) :
    ∀ a ∈ given p.bound, (p.settled h a.2).isOmitted = false := by
  intro a isGiven
  obtain ⟨there, notOmitted⟩ := List.mem_filter.1 isGiven
  cases hasLabel : a.1.hasLabel with
  | false =>
    have listed : a ∈ given p.unlabelled :=
      List.mem_filter.2 ⟨List.mem_filter.2 ⟨there, by simp [hasLabel]⟩, notOmitted⟩
    apply passes.noneOmitted.1
    rw [(map_ok_eq_iff can).1 passes.arguments]
    exact List.mem_map_of_mem listed
  | true =>
    have listed : a ∈ given p.labelled :=
      List.mem_filter.2 ⟨List.mem_filter.2 ⟨there, hasLabel⟩, notOmitted⟩
    apply passes.noneOmitted.2 (a.1.firstName, p.settled h a.2)
    rw [((map_ok_perm_iff can).1 passes.keywords).mem_iff]
    exact List.mem_map_of_mem (f := fun a => (a.1.firstName, p.settled h a.2)) listed

end

theorem noneOmitted_of_resolved {arguments : List (Parameter × Value)}
    (resolved : ∀ a ∈ given p.bound, (p.settled h a.2).isOmitted = false)
    (among : ∀ a ∈ arguments, a ∈ p.bound) :
    ∀ a ∈ given arguments, (p.settled h a.2).isOmitted = false := by
  intro a isGiven
  obtain ⟨there, notOmitted⟩ := List.mem_filter.1 isGiven
  exact resolved a (List.mem_filter.2 ⟨among a there, notOmitted⟩)

theorem passesGiven_expectedCall_iff (can : ∀ a ∈ p.bound, ∃ w, p.received h a.2 = .ok w) :
    PassesGiven h p (expectedCall h p) ↔
      (p.unlabelled.Pairwise fun a b => a.2.isOmitted = true → b.2.isOmitted = true) ∧
      (p.labelled.Pairwise fun a b => a.2.isOmitted = false → a.1.firstName ≠ b.1.firstName) ∧
      ∀ a ∈ given p.bound, (p.settled h a.2).isOmitted = false := by
  constructor
  · intro passes
    have resolved := passes.resolved can
    exact ⟨(arguments_expectedCall_iff resolved).1 ((map_ok_eq_iff can).1 passes.arguments),
      (keywords_expectedCall_iff resolved).1 ((map_ok_perm_iff can).1 passes.keywords), resolved⟩
  · rintro ⟨inFront, lastOfLabel, resolved⟩
    have arguments := (arguments_expectedCall_iff resolved).2 inFront
    have keywords := (keywords_expectedCall_iff resolved).2 lastOfLabel
    refine ⟨(map_ok_eq_iff can).2 arguments, (map_ok_perm_iff can).2 keywords, ?_, ?_⟩
    · intro v there
      rw [arguments] at there
      obtain ⟨a, isGiven, rfl⟩ := List.mem_map.1 there
      exact noneOmitted_of_resolved resolved (fun _ => mem_bound_of_mem_unlabelled) a isGiven
    · intro k there
      rw [keywords.mem_iff] at there
      obtain ⟨a, isGiven, rfl⟩ := List.mem_map.1 there
      exact noneOmitted_of_resolved resolved (fun _ => mem_bound_of_mem_labelled) a isGiven

/-- The host makes something of an argument just if what is received of it is not the
placeholder. -/
theorem isOmitted_settled_iff {v : Value} (can : ∃ w, p.received h v = .ok w) :
    (p.settled h v).isOmitted = false ↔ p.received h v ≠ .ok .omitted := by
  rw [received_eq_ok_settled can, ne_eq, Except.ok.injEq]
  constructor
  · intro given same
    rw [same] at given
    cases given
  · intro other
    by_contra isOmitted
    exact other (value_eq_omitted (by simpa using isOmitted))

theorem receivesGiven_iff (h : Host) (p : ParsedModifier) : ReceivesGiven h p ↔ InReach h p := by
  constructor
  · rintro ⟨call, applied, passes⟩
    obtain ⟨can, rfl⟩ := application_eq_ok_iff.1 applied
    obtain ⟨inFront, lastOfLabel, resolved⟩ := (passesGiven_expectedCall_iff can).1 passes
    refine ⟨inFront, lastOfLabel, fun needs a isGiven => ?_, fun a isGiven => ?_⟩
    · exact exists_received_iff.1 (can a (List.mem_of_mem_filter isGiven)) needs
    · exact (isOmitted_settled_iff (can a (List.mem_of_mem_filter isGiven))).1 (resolved a isGiven)
  · intro reach
    have can : ∀ a ∈ p.bound, ∃ w, p.received h a.2 = .ok w :=
      exists_received_of_given fun a isGiven =>
        exists_received_iff.2 fun needs => reach.resolvable needs a isGiven
    refine ⟨_, application_of_received can, (passesGiven_expectedCall_iff can).2
      ⟨reach.inFront, reach.lastOfLabel, fun a isGiven => ?_⟩⟩
    exact (isOmitted_settled_iff (can a (List.mem_of_mem_filter isGiven))).2
      (reach.resolved a isGiven)

/-! ## Calls that are accepted -/

variable {r : Registry} {s : Signature} {c c' : Cursor} {values : List Value}

theorem length_argumentValues {listed : Bool} {ps : List Parameter}
    (run : (argumentValues r listed ps).run' c = (.ok values, c')) :
    values.length = ps.length := by
  induction ps generalizing c values with
  | nil =>
    cases run
    rfl
  | cons p ps ih =>
    obtain ⟨v, c₁, -, later⟩ := run'_bind_eq_ok_iff.1 run
    obtain ⟨vs, c₂, read, last⟩ := run'_bind_eq_ok_iff.1 later
    cases last
    rw [List.length_cons, List.length_cons, ih read]

/-- An overload that accepts a call has one argument for each of its parameters. -/
theorem length_overloadArguments (run : (overloadArguments r s).run' c = (.ok values, c')) :
    values.length = s.parameters.length := by
  obtain ⟨listed, c₁, -, later⟩ := run'_bind_eq_ok_iff.1 run
  obtain ⟨read, c₂, arguments, later⟩ := run'_bind_eq_ok_iff.1 later
  obtain ⟨-, c₃, -, later⟩ := run'_bind_eq_ok_iff.1 later
  obtain ⟨-, c₄, -, last⟩ := run'_bind_eq_ok_iff.1 later
  cases last
  exact length_argumentValues arguments

/-- The metadata of a call that has none. -/
def bareMetadata : Metadata Value := ⟨.number 1, 1, none, .null, none⟩

/-- A host for which every reference stands for its name. -/
def namingHost : Host where
  children templates := .tuple (templates.map .text)
  text template := .text template
  elementAttribute name := .text name
  binding name := .text name
  event name _ := .text name

/-- A view, a size that may be left out, and two labels of which one may be left out. -/
def overlay : Signature :=
  ⟨[⟨wildcard, some "content", .named "ViewReference" [], false⟩,
    ⟨wildcard, some "size", .named "Int" [], true⟩,
    ⟨"alignment", none, .named "String" [], true⟩,
    ⟨"id", none, .named "String" [], false⟩]⟩

/-- The rest of a call of `overlay` behind its head. -/
def overlayCall : Cursor :=
  ⟨[sign .comma, sign .openBracket, word .atom "badge", sign .comma, word .name "id", sign .colon,
    word .string "x", sign .closeBracket, sign .closeBrace], .start⟩

theorem run'_overlayCall : (overloadArguments .standard overlay).run' overlayCall =
    (.ok [.views .view ["badge"], .omitted, .omitted, .text "x"], ⟨[], .start⟩) := rfl

/-- The call as it is read by the only overload of its modifier. -/
def overlaid : ParsedModifier :=
  ⟨⟨"overlay", [overlay]⟩, 0, overlay, [.views .view ["badge"], .omitted, .omitted, .text "x"],
    bareMetadata⟩

theorem inReach_overlaid : InReach namingHost overlaid where
  inFront := by
    simp [overlaid, overlay, unlabelled, bound, Parameter.hasLabel, Value.isOmitted, wildcard]
  lastOfLabel := by
    simp [overlaid, overlay, labelled, bound, Parameter.hasLabel, Value.isOmitted, wildcard]
  resolvable := by
    simp [overlaid, overlay, given, bound, Value.isOmitted, Value.isResolvable]
  resolved := by
    simp [overlaid, overlay, given, bound, Value.isOmitted, received, Modifier.needsHost,
      Signature.needsHost, typeNeedsContext, contextTypes, Host.resolve, namingHost, pure,
      Except.pure]

/-- A number that may be left out, and a text behind it. -/
def padding : Signature :=
  ⟨[⟨wildcard, some "length", .named "Int" [], true⟩,
    ⟨wildcard, some "edge", .named "String" [], false⟩]⟩

/-- The rest of a call of `padding` behind its head. -/
def paddingCall : Cursor :=
  ⟨[sign .comma, sign .openBracket, word .string "x", sign .closeBracket, sign .closeBrace], .start⟩

theorem run'_paddingCall : (overloadArguments .standard padding).run' paddingCall =
    (.ok [.omitted, .text "x"], ⟨[], .start⟩) := rfl

end ViewModifiers.Dispatch
