import ViewModifiers.Proofs.Dispatch.Application
import ViewModifiers.Proofs.Dispatch.DefaultHost
import ViewModifiers.Proofs.Stylesheet.ReferenceTypes

/-!
# References in what the view receives

The view is meant to receive no context reference, but what the host makes of it. Whether the
arguments of a modifier are resolved at all is decided by the types of its parameters, which are
looked at behind one mark for optional values at most. And resolving an argument gets no further
than into tuples. So the types tell of a modifier whether the view may receive a reference
(`passesReplaced`). Where an argument cannot be resolved the view receives nothing.
-/

namespace ViewModifiers.Dispatch

open Catalog Config Stylesheet Stylesheet.Registry Text Reader
open Interface (TypeExpr)

variable {r : Registry} {s : Signature} {c c' : Cursor} {values : List Value}
  {q : Value → Prop}

/-! ## Arguments by their types -/

theorem gives_missing (omitted : q .omitted) (hasDefault : Bool) (cause : Cause) :
    Gives q (missing hasDefault cause) :=
  gives_ite (gives_pure omitted) (gives_bind fun _ => gives_throw _)

theorem gives_reader {type : String} :
    Gives (fun reader => r.find type = .ok reader) (r.reader type) := by
  unfold Registry.reader
  split
  · next known => exact gives_pure known
  · exact gives_throw _

theorem gives_attempt {α : Type} {p : α → Prop} {reader : Reader α} (gives : Gives p reader) :
    Gives (fun result => ∀ a, result = .ok a → p a) (attempt reader) := by
  intro c result c' run a same
  subst same
  rcases h : reader.run' c with ⟨e | b, c₁⟩
  · rw [run'_attempt_of_error h] at run
    split at run <;> cases run
  · rw [run'_attempt_of_ok h] at run
    cases run
    exact gives c _ _ h

theorem gives_takeOrLeave {reader : Reader Value} (read : Gives q reader) (omitted : q .omitted)
    (hasDefault : Bool) : Gives q (takeOrLeave hasDefault reader) := by
  refine gives_ite ((gives_attempt read).bind fun result has => ?_) ?_
  · cases result with
    | error e => exact gives_pure omitted
    | ok v => exact gives_bind fun _ => gives_pure (has v rfl)
  · have taken : Gives (fun result => ∀ v, result = .ok v → q v)
        (Except.ok <$> reader : Reader (Except Failure Value)) := by
      rw [map_eq_pure_bind]
      refine read.bind fun v has => gives_pure fun w same => ?_
      cases same
      exact has
    refine taken.bind fun result has => ?_
    cases result with
    | error e => exact gives_pure omitted
    | ok v => exact gives_bind fun _ => gives_pure (has v rfl)

section

variable {type : String} (each : ∀ reader, r.find type = .ok reader → Gives q reader)
  (omitted : q .omitted)

include each omitted

theorem gives_positionalArgument (listed hasDefault : Bool) :
    Gives q (positionalArgument r listed type hasDefault) := by
  refine gives_bind fun _ => gives_bind fun _ => gives_ite (gives_missing omitted _ _) ?_
  exact gives_reader.bind fun reader known =>
    gives_takeOrLeave (each reader known) omitted hasDefault

theorem gives_labeledArgument (listed hasDefault : Bool) (label : String) :
    Gives q (labeledArgument r listed label type hasDefault) := by
  refine gives_bind fun _ => gives_bind fun _ => gives_bind fun _ => ?_
  refine gives_ite (gives_missing omitted _ _) ?_
  refine gives_reader.bind fun reader known => gives_bind fun _ => ?_
  exact (each reader known).bind fun v has => gives_bind fun _ => gives_pure has

end

/-- The arguments of an overload are omitted, or read by the readers of the types. -/
theorem gives_argumentValues (listed : Bool) (omitted : q .omitted) {ps : List Parameter}
    (each : ∀ p ∈ ps, ∀ reader, r.find p.type.text = .ok reader → Gives q reader) :
    Gives (fun vs => ∀ v ∈ vs, q v) (argumentValues r listed ps) := by
  induction ps with
  | nil => exact gives_pure nofun
  | cons p ps ih =>
    obtain ⟨first, later⟩ := List.forall_mem_cons.1 each
    have own : Gives q (argument r listed p) :=
      gives_ite (gives_labeledArgument first omitted _ _ _)
        (gives_positionalArgument first omitted _ _)
    rw [argumentValues]
    refine own.bind fun v has => (ih later).bind fun vs all => gives_pure ?_
    exact List.forall_mem_cons.2 ⟨has, all⟩

theorem gives_overloadArguments (omitted : q .omitted)
    (each : ∀ p ∈ s.parameters, ∀ reader, r.find p.type.text = .ok reader → Gives q reader) :
    Gives (fun vs => ∀ v ∈ vs, q v) (overloadArguments r s) :=
  gives_bind fun _ => (gives_argumentValues _ omitted each).bind fun _ all =>
    gives_bind fun _ => gives_bind fun _ => gives_pure all

/-! ## The types of a target -/

variable {t : Target} {e : Enumeration} {enums : List Enumeration}
  {readers : NameTable (Reader Value)} {reader : Reader Value}

/-- Enumerated values are no references. -/
theorem Makes.unreferring (makes : Makes t e (some reader)) : Gives Unreferring reader := by
  refine makes.gives.mono fun v case => ?_
  obtain ⟨k, -, rfl, -⟩ := case
  rfl

theorem tellsReferences_withEnums (registry : r.TellsReferences)
    (each : ∀ entry ∈ readers, Gives Unreferring entry.2) :
    (withEnums r readers).TellsReferences := by
  induction readers generalizing r with
  | nil => exact registry
  | cons entry readers ih =>
    obtain ⟨first, later⟩ := List.forall_mem_cons.1 each
    exact ih (registry.register entry.1 (first.mono fun v without => without.tells)) later

theorem tellsReferences_target (built : enumReaders t enums = .ok readers) :
    (withEnums .standard readers).TellsReferences := by
  refine tellsReferences_withEnums tellsReferences_standard fun entry there => ?_
  obtain ⟨e, -, -, makes⟩ := exists_of_mem_enumReaders built there
  exact makes.unreferring

/-! ## What the view receives -/

variable {h : Host} {p : ParsedModifier} {v : Value}

namespace ParsedModifier

/-- Whether an argument has a context reference that is not replaced for the view. -/
def overlooks (p : ParsedModifier) (v : Value) : Bool :=
  if p.modifier.needsHost then v.isResolvable && v.hidesReference else v.hasReference

/-- Whether a parameter may have such an argument, as its type tells. -/
def mayOverlook (p : ParsedModifier) (q : Parameter) : Bool :=
  let type := TypeSpelling.read q.type.text
  if p.modifier.needsHost then type.mayHide else type.mayRefer

/-- All values that the view's operation is given; none where the modifier cannot be applied. -/
def passed (h : Host) (p : ParsedModifier) : List Value :=
  match p.application h with
  | .ok call => call.arguments ++ call.keywords.map (·.2)
  | .error _ => []

end ParsedModifier

theorem replaces_received_iff :
    (∀ h w, p.received h v = .ok w → Replaces h v w) ↔ p.overlooks v = false := by
  unfold ParsedModifier.received ParsedModifier.overlooks
  split
  · exact replaces_resolve_iff
  · rw [← replaces_self_iff]
    refine ⟨fun replaces h => replaces h v rfl, fun replaces h w same => ?_⟩
    cases same
    exact replaces h

/-- The view is given nothing but what is received of arguments. -/
theorem exists_of_mem_passed (there : v ∈ p.passed h) :
    ∃ a ∈ p.arguments, p.received h a = .ok v := by
  have argument {b : Parameter × Value} (bound : b ∈ p.bound) : b.2 ∈ p.arguments :=
    (List.of_mem_zip bound).2
  unfold ParsedModifier.passed at there
  split at there
  · next call applied =>
    obtain ⟨can, rfl⟩ := application_eq_ok_iff.1 applied
    rcases List.mem_append.1 there with placed | named
    · have kept := (List.dropWhile_sublist _).subset (List.mem_reverse.1 placed)
      obtain ⟨b, unlabelled, rfl⟩ := List.mem_map.1 (List.mem_reverse.1 kept)
      have bound := mem_bound_of_mem_unlabelled unlabelled
      exact ⟨b.2, argument bound, received_eq_ok_settled (can b bound)⟩
    · obtain ⟨k, listed, rfl⟩ := List.mem_map.1 named
      have kept := NameTable.mem_ofList (List.mem_of_mem_filter listed)
      obtain ⟨b, labelled, rfl⟩ := List.mem_map.1 kept
      have bound := mem_bound_of_mem_labelled labelled
      exact ⟨b.2, argument bound, received_eq_ok_settled (can b bound)⟩
  · cases there

/-- Where an argument of a parameter cannot be resolved, the modifier is not applied. -/
theorem passed_of_not_isResolvable (needs : p.modifier.needsHost = true)
    {b : Parameter × Value} (bound : b ∈ p.bound) (cannot : b.2.isResolvable = false) :
    p.passed h = [] := by
  unfold ParsedModifier.passed
  split
  · next call applied =>
    have can := (application_eq_ok_iff.1 applied).1 b bound
    rw [exists_received_iff.1 can needs] at cannot
    cases cannot
  · rfl

/-- What becomes of the context references in the arguments of a call. -/
structure PassesReplaced (p : ParsedModifier) : Prop where
  /-- The view is given nothing but what is received of the arguments. -/
  received : ∀ h : Host, ∀ v ∈ p.passed h, ∃ a ∈ p.arguments, p.received h a = .ok v
  /-- In all of that the host has replaced the references, just if none of them is overlooked. -/
  replaced_iff : (∀ h : Host, ∀ a ∈ p.arguments, ∀ w, p.received h a = .ok w → Replaces h a w) ↔
    ∀ a ∈ p.arguments, p.overlooks a = false
  /-- None is overlooked if the types of the parameters rule it out. -/
  of_types : (∀ q ∈ p.signature.parameters, p.mayOverlook q = false) →
    ∀ a ∈ p.arguments, p.overlooks a = false
  /-- Nothing is given to the view if an argument that is to be resolved cannot be. -/
  nothing : p.modifier.needsHost = true → (∃ a ∈ p.arguments, a.isResolvable = false) →
    ∀ h : Host, p.passed h = []

variable {catalog : Catalog} {config : Configuration} {context : Context} {d : Dispatcher}

theorem overlooks_of_types (registry : d.registry.TellsReferences)
    (types : ∀ q ∈ p.signature.parameters, p.mayOverlook q = false)
    (run : (overloadArguments d.registry p.signature).run' c = (.ok p.arguments, c')) :
    ∀ a ∈ p.arguments, p.overlooks a = false := by
  refine gives_overloadArguments (q := fun a => p.overlooks a = false) ?_ ?_ _ _ _ run
  · unfold ParsedModifier.overlooks
    split <;> rfl
  · intro q there reader known
    have never := types q there
    refine (gives_find registry known).mono fun a tells => ?_
    unfold ParsedModifier.mayOverlook at never
    unfold ParsedModifier.overlooks
    split at never
    · next needs => rw [if_pos needs, tells.hidden never, Bool.and_false]
    · next needs => rw [if_neg needs, tells.references never]

/-- **References in a call that is accepted.** The view is given nothing but the arguments, with the
context references in them replaced by what the host makes of them, just if none of them stands
where the modifier does not look for it. The types of the parameters tell where it may. -/
theorem passesReplaced (built : Dispatcher.build catalog config t context = .ok d)
    (standard : context.registry = .standard)
    (run : (overloadArguments d.registry s).run' c = (.ok values, c')) (m : Modifier) (index : Nat)
    (metadata : Metadata Value) : PassesReplaced ⟨m, index, s, values, metadata⟩ := by
  obtain ⟨-, -, readers, known, registry⟩ := builtFrom_of_build built
  rw [standard] at registry
  have tells := registry ▸ tellsReferences_target known
  refine ⟨fun h v there => exists_of_mem_passed there, ⟨?_, ?_⟩, ?_, ?_⟩
  · intro replaced a there
    exact replaces_received_iff.1 fun h => replaced h a there
  · intro shown h a there
    exact replaces_received_iff.2 (shown a there) h
  · intro types
    exact overlooks_of_types tells types run
  · rintro needs ⟨a, there, cannot⟩ h
    have arguments := List.map_snd_zip (length_overloadArguments run).le
    obtain ⟨b, bound, rfl⟩ := List.mem_map.1 (arguments.symm ▸ there)
    exact passed_of_not_isResolvable needs bound cannot

/-! ## A caption with two marks

The parameter of `caption` is a text or nothing, and its references are resolved. The parameter of
`note` has two marks for optional values, of which only one is looked behind. So nobody resolves the
references of `note`.
-/

namespace Dispatcher

def caption : Modifier where
  name := "caption"
  signatures := [taking (.optional (.named "TextReference" []) false)]

def note : Modifier where
  name := "note"
  signatures := [taking (.optional (.optional (.named "TextReference" []) false) false)]

def noteCatalog : Catalog := ⟨[caption, note], [], [], [], [], [], .empty⟩

def noter : Dispatcher where
  registry := .standard
  chunks := [[caption, note]]
  extras := []
  deprecations := []
  names := fun
    | .text => []
    | .image => []
  custom := rejectCustom
  content := fun _ => none

/-- The rest of a call with one text. -/
def noteArguments : Cursor where
  ahead := [sign .comma, sign .openBracket, word .string "x", sign .closeBracket, sign .closeBrace]
  finish := .start

theorem noter_built : Dispatcher.build noteCatalog .plain ⟨"iOS", [17]⟩ {} = .ok noter :=
  build_of_bare (by decide) rfl

theorem run'_captionArguments :
    (overloadArguments noter.registry
      (taking (.optional (.named "TextReference" []) false))).run' noteArguments =
      (.ok [.textTemplate "x"], ⟨[], .start⟩) := rfl

theorem run'_noteArguments :
    (overloadArguments noter.registry
      (taking (.optional (.optional (.named "TextReference" []) false) false))).run' noteArguments =
      (.ok [.textTemplate "x"], ⟨[], .start⟩) := rfl

/-- A call of `caption` with a reference to a text. -/
def captioned : ParsedModifier :=
  ⟨caption, 0, taking (.optional (.named "TextReference" []) false), [.textTemplate "x"],
    bareMetadata⟩

/-- The view is given what the host makes of the text. -/
theorem captioned_passesReplaced :
    Dispatcher.build noteCatalog .plain ⟨"iOS", [17]⟩ {} = .ok noter ∧
      PassesReplaced captioned ∧ ∀ q ∈ captioned.signature.parameters,
        captioned.mayOverlook q = false := by
  refine ⟨noter_built,
    passesReplaced noter_built rfl run'_captionArguments caption 0 bareMetadata, ?_⟩
  intro q there
  obtain rfl := List.mem_singleton.1 there
  rfl

/-- The view may be given a reference that the host has not replaced. -/
theorem not_always_replaced :
    ¬∀ (catalog : Catalog) (config : Configuration) (target : Target) (d : Dispatcher),
      Dispatcher.build catalog config target {} = .ok d →
      ∀ m ∈ catalog.modifiers, ∀ s ∈ m.signatures, ∀ (c c' : Cursor) (values : List Value),
        (overloadArguments d.registry s).run' c = (.ok values, c') →
        ∀ (index : Nat) (metadata : Metadata Value) (h : Host),
          ∀ v ∈ ParsedModifier.passed h ⟨m, index, s, values, metadata⟩,
            ∃ a ∈ values, Replaces h a v := by
  intro claim
  obtain ⟨a, there, replaces⟩ := claim _ _ _ _ noter_built note (by decide) _ List.mem_cons_self _ _
    _ run'_noteArguments 0 bareMetadata .mute (.textTemplate "x") List.mem_cons_self
  cases hasReference_of_replaces replaces

end Dispatcher

end ViewModifiers.Dispatch
