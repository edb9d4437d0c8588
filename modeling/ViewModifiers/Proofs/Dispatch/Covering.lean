import ViewModifiers.Proofs.Catalog.Merging
import ViewModifiers.Proofs.Dispatch.Agreement

/-!
# Calls of merged signatures

For each overload of a modifier a signature is kept that has its labels and its plain types. A call
can still tell the two apart by what merging does not compare: whether parameters have defaults, how
their types are spelled in full, and whether a field is hidden. Where none of these is in the way,
the kept signature accepts every call that the overload itself would accept.
-/

namespace ViewModifiers.Dispatch

open Catalog Emit Interface Config Stylesheet Reader

/-! ## Readers that act alike -/

/-- Where a reader stops if it accepts what is ahead; else, whether the stylesheet is to blame. -/
def verdict (reader : Reader Value) (c : Cursor) : Except Bool Cursor :=
  match reader.run' c with
  | (.ok _, c') => .ok c'
  | (.error e, _) => .error e.isStylesheet

/-- Wherever a type is read, another one is read in its place with the same verdict. -/
def ReadsLike (r : Registry) (t u : TypeExpr) : Prop :=
  ∀ reader, r.find u.text = .ok reader →
    ∃ reader', r.find t.text = .ok reader' ∧ ∀ c, verdict reader' c = verdict reader c

section

variable {reader reader' : Reader Value} {c c' : Cursor}

theorem exists_ok_of_verdict_eq {v : Value} (same : verdict reader' c = verdict reader c)
    (run : reader.run' c = (.ok v, c')) : ∃ v', reader'.run' c = (.ok v', c') := by
  rw [verdict, verdict, run] at same
  rcases run' : reader'.run' c with ⟨e | v', c₁⟩
  · rw [run'] at same
    cases same
  · rw [run'] at same
    cases same
    exact ⟨v', rfl⟩

theorem exists_error_of_verdict_eq {e : Failure} (same : verdict reader' c = verdict reader c)
    (run : reader.run' c = (.error e, c')) :
    ∃ e' c₁, reader'.run' c = (.error e', c₁) ∧ e'.isStylesheet = e.isStylesheet := by
  rw [verdict, verdict, run] at same
  rcases run' : reader'.run' c with ⟨e' | v', c₁⟩
  · rw [run'] at same
    exact ⟨e', c₁, rfl, Except.error.inj same⟩
  · rw [run'] at same
    cases same

/-- Child content is read alike wherever it stands. -/
theorem verdict_views (place place' : ViewPlace) (c : Cursor) :
    verdict (views place) c = verdict (views place') c := by
  rcases read : templates.run' c with ⟨e | names, c₁⟩
  · rw [verdict, verdict, views, views, run'_bind_of_error read, run'_bind_of_error read]
  · rw [verdict, verdict, views, views, run'_bind_of_ok read, run'_bind_of_ok read]
    rfl

/-- A view reference is read like the builder in whose place it stands. -/
theorem readsLike_standard_views :
    ReadsLike .standard (.named "ViewReference" []) (.named "ToolbarContentReference" []) := by
  intro reader found
  have known : Registry.standard.find "ToolbarContentReference" = .ok (views .toolbarContent) := rfl
  cases known.symm.trans found
  exact ⟨views .view, rfl, verdict_views .view .toolbarContent⟩

end

/-! ## One parameter -/

variable {r : Registry} {listed : Bool} {c c' : Cursor}

/-- What is not accepted is left alone where there is a default and the stylesheet is to blame. -/
theorem run'_takeOrLeave_of_error {reader : Reader Value} {c₁ : Cursor} {e : Failure}
    (run : reader.run' c = (.error e, c₁)) (blame : e.isStylesheet = true) :
    (takeOrLeave true reader).run' c = (.ok .omitted, c) := by
  have tried := run'_attempt_of_error run
  rw [if_pos blame] at tried
  exact run'_bind_of_ok tried

theorem exists_run'_takeOrLeave {hasDefault hasDefault' : Bool} {reader reader' : Reader Value}
    {v : Value} (alike : ∀ c, verdict reader' c = verdict reader c)
    (allowed : v.isOmitted = true → hasDefault' = true)
    (run : (takeOrLeave hasDefault reader).run' c = (.ok v, c')) :
    ∃ v', (takeOrLeave hasDefault' reader').run' c = (.ok v', c') := by
  rcases read : reader.run' c with ⟨e | w, c₁⟩
  · obtain ⟨-, blame, rfl, rfl⟩ := takeOrLeave_eq_ok_of_error read run
    obtain ⟨e', c₂, read', same⟩ := exists_error_of_verdict_eq (alike _) read
    rw [allowed rfl]
    exact ⟨.omitted, run'_takeOrLeave_of_error read' (same.trans blame)⟩
  · obtain ⟨w', read'⟩ := exists_ok_of_verdict_eq (alike c) read
    rw [run'_takeOrLeave read] at run
    obtain ⟨⟨⟩, c₂, separated, rest⟩ := run'_bind_eq_ok_iff.1 run
    cases rest
    exact ⟨w', (run'_takeOrLeave read').trans (run'_bind_of_ok separated)⟩

theorem exists_run'_takeKeyed {reader reader' : Reader Value} {v : Value}
    (alike : ∀ c, verdict reader' c = verdict reader c)
    (run : (takeKeyed reader).run' c = (.ok v, c')) :
    ∃ v', (takeKeyed reader').run' c = (.ok v', c') := by
  obtain ⟨label, c₁, named, run⟩ := run'_bind_eq_ok_iff.1 run
  obtain ⟨w, c₂, read, run⟩ := run'_bind_eq_ok_iff.1 run
  obtain ⟨⟨⟩, c₃, separated, rest⟩ := run'_bind_eq_ok_iff.1 run
  cases rest
  obtain ⟨w', read'⟩ := exists_ok_of_verdict_eq (alike c₁) read
  exact ⟨w', (run'_bind_of_ok named).trans
    ((run'_bind_of_ok read').trans (run'_bind_of_ok separated))⟩

theorem exists_run'_missing {hasDefault hasDefault' : Bool} {cause cause' : Cause} {v : Value}
    (allowed : v.isOmitted = true → hasDefault' = true)
    (run : (missing hasDefault cause).run' c = (.ok v, c')) :
    ∃ v', (missing hasDefault' cause').run' c = (.ok v', c') := by
  obtain ⟨-, rfl, rfl⟩ := missing_eq_ok run
  rw [allowed rfl]
  exact ⟨.omitted, rfl⟩

/-- Where a type is found that an argument is read as, its like is found too. -/
theorem exists_run'_reader {t u : TypeExpr} {take take' : Reader Value → Reader Value} {v : Value}
    (alike : ReadsLike r t u)
    (takes : ∀ reader reader', (∀ c, verdict reader' c = verdict reader c) →
      (take reader).run' c = (.ok v, c') → ∃ v', (take' reader').run' c = (.ok v', c'))
    (run : (r.reader u.text >>= take).run' c = (.ok v, c')) :
    ∃ v', (r.reader t.text >>= take').run' c = (.ok v', c') := by
  obtain ⟨reader, c₁, known, taken⟩ := run'_bind_eq_ok_iff.1 run
  obtain ⟨found, rfl⟩ := reader_eq_ok known
  obtain ⟨reader', found', same⟩ := alike reader found
  obtain ⟨v', taken'⟩ := takes reader reader' same taken
  exact ⟨v', (run'_bind_of_ok (run'_reader_of_found found')).trans taken'⟩

/-- A parameter with the same label takes what another one takes, if its type is read alike and it
has a default where the other one is omitted. -/
theorem exists_run'_argument {q p : Parameter} {v : Value} (named : q.firstName = p.firstName)
    (alike : ReadsLike r q.type p.type) (allowed : v.isOmitted = true → q.hasDefault = true)
    (run : (argument r listed p).run' c = (.ok v, c')) :
    ∃ v', (argument r listed q).run' c = (.ok v', c') := by
  have sameKind : q.hasLabel = p.hasLabel := by rw [Parameter.hasLabel, Parameter.hasLabel, named]
  unfold argument at run ⊢
  by_cases hasLabel : p.hasLabel = true
  · rw [if_pos hasLabel] at run
    rw [sameKind, if_pos hasLabel, named]
    by_cases absent : (noneLeft listed c || !atKey c ||
        decide (c.current.value ≠ p.firstName)) = true
    · rw [run'_labeledArgument_of_absent absent] at run ⊢
      exact exists_run'_missing allowed run
    · have present := Bool.eq_false_iff.2 absent
      rw [run'_labeledArgument_of_present present] at run ⊢
      exact exists_run'_reader alike (fun _ _ => exists_run'_takeKeyed) run
  · rw [if_neg hasLabel] at run
    rw [sameKind, if_neg hasLabel]
    by_cases absent : (noneLeft listed c || atKey c) = true
    · rw [run'_positionalArgument_of_absent absent] at run ⊢
      exact exists_run'_missing allowed run
    · have present := Bool.eq_false_iff.2 absent
      rw [run'_positionalArgument_of_present present] at run ⊢
      exact exists_run'_reader alike (fun _ _ same => exists_run'_takeOrLeave same allowed) run

/-! ## All parameters -/

theorem exists_run'_argumentValues {qs ps : List Parameter} {values : List Value}
    (named : qs.map (·.firstName) = ps.map (·.firstName))
    (alike : List.Forall₂ (fun q p => ReadsLike r q.type p.type) qs ps)
    (allowed : ∀ a ∈ qs.zip values, a.2.isOmitted = true → a.1.hasDefault = true)
    (run : (argumentValues r listed ps).run' c = (.ok values, c')) :
    ∃ values', (argumentValues r listed qs).run' c = (.ok values', c') := by
  induction alike generalizing c values with
  | nil => exact ⟨values, run⟩
  | cons first rest ih =>
    obtain ⟨firstNamed, restNamed⟩ := List.cons.inj named
    obtain ⟨v, c₁, taken, run⟩ := run'_bind_eq_ok_iff.1 run
    obtain ⟨vs, c₂, later, run⟩ := run'_bind_eq_ok_iff.1 run
    cases run
    rw [List.zip_cons_cons, List.forall_mem_cons] at allowed
    obtain ⟨v', taken'⟩ := exists_run'_argument firstNamed first allowed.1 taken
    obtain ⟨vs', later'⟩ := ih restNamed allowed.2 later
    exact ⟨v' :: vs', (run'_bind_of_ok taken').trans (run'_bind_of_ok later')⟩

/-! ## Overloads -/

/-- What a signature needs, beyond the labels, to accept a call that another one accepted with
certain arguments: a default wherever an argument was omitted, types that are read alike, and no
hidden field. -/
structure Serves (r : Registry) (k s : Signature) (values : List Value) : Prop where
  defaults : ∀ a ∈ k.parameters.zip values, a.2.isOmitted = true → a.1.hasDefault = true
  types : List.Forall₂ (fun q p => ReadsLike r q.type p.type) k.parameters s.parameters
  fields : hiddenField? k = none

theorem exists_run'_overloadArguments {k s : Signature} {values : List Value}
    (covers : Covers k s) (serves : Serves r k s values)
    (run : (overloadArguments r s).run' c = (.ok values, c')) :
    ∃ values', (overloadArguments r k).run' c = (.ok values', c') := by
  obtain ⟨-, listed, c₁, c₂, reads⟩ := run'_overloadArguments_eq_ok_iff.1 run
  obtain ⟨values', within⟩ :=
    exists_run'_argumentValues covers.firstNames serves.types serves.defaults reads.arguments
  exact ⟨values', run'_overloadArguments_eq_ok_iff.2
    ⟨serves.fields, listed, c₁, c₂, reads.opened, within, reads.closed⟩⟩

/-- **Merging loses no call** but by what it does not compare. For a call that the signature of some
overload accepts, a signature is kept that covers it, and each kept one that covers it and serves
for the call accepts the call as well. -/
theorem kept_accepts (config : Configuration) (name : String) {valid : List DeclaredFunction}
    {f : DeclaredFunction} (among : f ∈ valid) {values : List Value}
    (run : (overloadArguments r (signatureOf config f)).run' c = (.ok values, c')) :
    (∃ k ∈ signaturesOf config name valid, Covers k (signatureOf config f)) ∧
      ∀ k ∈ signaturesOf config name valid, Covers k (signatureOf config f) →
        Serves r k (signatureOf config f) values →
          ∃ values', (overloadArguments r k).run' c = (.ok values', c') :=
  ⟨exists_mem_signaturesOf config name among,
    fun _ _ covers serves => exists_run'_overloadArguments covers serves run⟩

/-! ## Forms that are kept and forms that are lost -/

/-- An overload with one parameter. -/
def overload (name : String) (p : DeclaredParameter) : DeclaredFunction where
  name := name
  parameters := [p]
  generics := []
  result := none
  attributes := []
  modifiers := []
  availability := .always
  position := .start

/-- The rest of a call with one item behind its head. -/
def callWith (item : List Stylesheet.Token) : Cursor where
  ahead := [sign .comma, sign .openBracket] ++ item ++ [sign .closeBracket, sign .closeBrace]
  finish := .start

/-- A closure with a builder attribute. -/
def builtContent (b : Builder) : DeclaredParameter :=
  ⟨"content", none, .function [] (.named "Content" []) false false, [⟨b.attributeName, none⟩],
    false⟩

/-- A form with a builder of toolbar content, and one with a view builder that covers it. -/
def toolbarForms : List DeclaredFunction :=
  [overload "toolbar" (builtContent .toolbarContent), overload "toolbar" (builtContent .view)]

/-- The configuration in which `toolbar` prefers view references. -/
def preferring : Configuration := { Configuration.plain with preferViewReference := ["toolbar"] }

def toolbarCall : Cursor := callWith [word .name "content", sign .colon, word .atom "badge"]

theorem signaturesOf_toolbarForms : signaturesOf preferring "toolbar" toolbarForms =
    [signatureOf preferring (overload "toolbar" (builtContent .view))] := by
  decide

theorem serves_toolbar : Serves .standard
    (signatureOf preferring (overload "toolbar" (builtContent .view)))
    (signatureOf preferring (overload "toolbar" (builtContent .toolbarContent)))
    [.views .toolbarContent ["badge"]] where
  defaults := by decide
  types := .cons readsLike_standard_views .nil
  fields := by decide

/-- The form with the builder is dropped, and its calls are accepted all the same. -/
theorem kept_accepts_toolbarCall :
    overload "toolbar" (builtContent .toolbarContent) ∈ toolbarForms ∧
      (overloadArguments .standard (signatureOf preferring
          (overload "toolbar" (builtContent .toolbarContent)))).run' toolbarCall =
        (.ok [.views .toolbarContent ["badge"]], ⟨[], .start⟩) ∧
      ∃ k ∈ signaturesOf preferring "toolbar" toolbarForms,
        ∃ values', (overloadArguments .standard k).run' toolbarCall =
          (.ok values', ⟨[], .start⟩) := by
  have among : overload "toolbar" (builtContent .toolbarContent) ∈ toolbarForms :=
    List.mem_cons_self
  have run : (overloadArguments .standard (signatureOf preferring
      (overload "toolbar" (builtContent .toolbarContent)))).run' toolbarCall =
        (.ok [.views .toolbarContent ["badge"]], ⟨[], .start⟩) := rfl
  obtain ⟨⟨k, kept, covers⟩, accepts⟩ := kept_accepts preferring "toolbar" among run
  refine ⟨among, run, k, kept, accepts k kept covers ?_⟩
  rw [signaturesOf_toolbarForms, List.mem_singleton] at kept
  rw [kept]
  exact serves_toolbar

/-- A number that may be left out, or may not. -/
def amount (hasDefault : Bool) : DeclaredParameter :=
  ⟨"amount", none, .named "Double" [], [], hasDefault⟩

/-- Two forms of `fade` with one shape. -/
def fadeForms (p q : DeclaredParameter) : List DeclaredFunction :=
  [overload "fade" p, overload "fade" q]

theorem run'_fade_without_list :
    (overloadArguments .standard (signatureOf .plain (overload "fade" (amount true)))).run'
      ⟨[sign .closeBrace], .start⟩ = (.ok [.omitted], ⟨[], .start⟩) := rfl

/-- Without a word about what is not compared, merging loses calls: here the kept form has no
default. -/
theorem not_kept_accepts :
    ¬∀ (r : Registry) (config : Configuration) (name : String) (valid : List DeclaredFunction)
      (f : DeclaredFunction) (values : List Value) (c c' : Cursor),
      (∀ g ∈ valid, isSupported g = true) → f ∈ valid →
      (overloadArguments r (signatureOf config f)).run' c = (.ok values, c') →
      ∃ k ∈ signaturesOf config name valid, ∃ values' c'',
        (overloadArguments r k).run' c = (.ok values', c'') := by
  intro claim
  obtain ⟨k, kept, values', c'', run⟩ := claim .standard .plain "fade"
    (fadeForms (amount false) (amount true)) (overload "fade" (amount true)) _ _ _ (by decide)
    (List.mem_cons_of_mem _ List.mem_cons_self) run'_fade_without_list
  have first : signaturesOf .plain "fade" (fadeForms (amount false) (amount true)) =
      [signatureOf .plain (overload "fade" (amount false))] := by decide
  rw [first, List.mem_singleton] at kept
  subst kept
  cases run

/-- A parameter with a label, whose type is nested in another one. -/
def nested (outer : String) : DeclaredParameter :=
  ⟨"to", none, .member (.named outer []) "Amount" [], [], false⟩

/-- Nested types of one name that are read differently. -/
def nestedTypes : Registry :=
  (Registry.standard.register "Layer.Amount" .number).register "Scale.Amount" .string

/-- Of two types with the same plain name, the one that is kept may not be read alike. -/
example : signaturesOf .plain "fade" (fadeForms (nested "Layer") (nested "Scale")) =
      [signatureOf .plain (overload "fade" (nested "Layer"))] ∧
    (overloadArguments nestedTypes (signatureOf .plain (overload "fade" (nested "Scale")))).run'
        (callWith [word .name "to", sign .colon, word .string "x"]) =
      (.ok [.text "x"], ⟨[], .start⟩) ∧
    ∃ e c', (overloadArguments nestedTypes
        (signatureOf .plain (overload "fade" (nested "Layer")))).run'
      (callWith [word .name "to", sign .colon, word .string "x"]) = (.error e, c') :=
  ⟨by decide, rfl, _, _, rfl⟩

end ViewModifiers.Dispatch
