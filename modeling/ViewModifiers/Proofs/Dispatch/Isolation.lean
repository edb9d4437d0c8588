import Mathlib.Data.List.Basic
import ViewModifiers.Proofs.Dispatch.Precedence

/-!
# Alternatives do not see each other

A reader of the host may leave the cursor anywhere before it fails. Every alternative is still
started where it would be started alone: the overloads of a modifier behind the head of the call,
everything else at its start. Hence what the dispatcher makes of a call depends on each alternative
only through its outcome from there, and a call that nobody takes leaves the cursor at its start.
-/

namespace ViewModifiers.Dispatch.Dispatcher

open Catalog Emit Stylesheet Text Reader

variable {d d' : Dispatcher} {c c₁ : Cursor} {name : String} {metadata : Metadata Value}

/-- Two dispatchers whose alternatives have the same outcomes from where they belong for a call at a
cursor. Anywhere else their readers may differ, and so may the places where they fail. -/
structure AlikeFrom (c : Cursor) (d d' : Dispatcher) : Prop where
  chunks : d'.chunks = d.chunks
  deprecations : d'.deprecations = d.deprecations
  names : d'.names = d.names
  overloads : ∀ m ∈ d.chunks.flatten, ∀ s ∈ m.signatures, ∀ head c₁,
    callHead.run' c = (.ok head, c₁) →
      (overloadArguments d'.registry s).outcome c₁ = (overloadArguments d.registry s).outcome c₁
  extras : d'.extras.map (fun e => (e.1, e.2.name, e.2.reader.outcome c)) =
    d.extras.map fun e => (e.1, e.2.name, e.2.reader.outcome c)
  content : ∀ kind, (d'.content kind).map (·.outcome c) = (d.content kind).map (·.outcome c)
  custom : d'.custom.outcome c = d.custom.outcome c

/-! ## Built-in readers -/

/-- The outcome of a hand-written type by that of its reader. -/
def extraOutcome (case_ : String) (x : Except Failure (Value × Cursor)) :
    Except Failure (Dispatched × Cursor) :=
  x.map fun read => (⟨.extra case_, .value read.1⟩, read.2)

theorem outcome_extraReader (case_ : String) (e : ExtraModifier) (c : Cursor) :
    (extraReader case_ e).outcome c = extraOutcome case_ (e.reader.outcome c) := by
  rw [extraReader]
  rcases run : e.reader.run' c with ⟨failure | v, c'⟩
  · rw [outcome_bind_of_error run, outcome_of_error run]
    rfl
  · rw [outcome_bind_of_ok run, outcome_of_ok run]
    rfl

theorem outcome_chunkReader_congr (alike : AlikeFrom c d d') (index : Nat) {m : Modifier}
    (there : m ∈ d.chunks.flatten) :
    (d'.chunkReader index m).outcome c = (d.chunkReader index m).outcome c := by
  rw [chunkReader, chunkReader]
  apply outcome_bind_congr
  apply outcome_readModifier_congr
  intro head c₁ hhead s hs
  exact alike.overloads m there s hs head c₁ hhead

/-- The entries of the retained modifiers have the same outcomes under the same names. -/
theorem retained_outcomes (alike : AlikeFrom c d d') :
    ((d'.chunks.zipIdx.flatMap fun (group, index) =>
        group.map fun m => (m.name, d'.chunkReader index m)).map fun e => (e.1, e.2.outcome c)) =
      (d.chunks.zipIdx.flatMap fun (group, index) =>
        group.map fun m => (m.name, d.chunkReader index m)).map fun e => (e.1, e.2.outcome c) := by
  rw [alike.chunks, List.map_flatMap, List.map_flatMap]
  apply List.flatMap_congr
  intro x hx
  rw [List.map_map, List.map_map]
  apply List.map_congr_left
  intro m hm
  have there : m ∈ d.chunks.flatten := List.mem_flatten_of_mem (List.fst_mem_of_mem_zipIdx hx) hm
  simp only [Function.comp_apply, outcome_chunkReader_congr alike x.2 there]

/-- The entries of the hand-written types have the same outcomes under the same names. -/
theorem extra_outcomes (alike : AlikeFrom c d d') :
    ((d'.extras.map fun e => (e.2.name, extraReader e.1 e.2)).map fun e =>
        (e.1, e.2.outcome c)) =
      (d.extras.map fun e => (e.2.name, extraReader e.1 e.2)).map fun e =>
        (e.1, e.2.outcome c) := by
  have outcomes (extras : List (String × ExtraModifier)) :
      ((extras.map fun e => (e.2.name, extraReader e.1 e.2)).map fun e => (e.1, e.2.outcome c)) =
        (extras.map fun e => (e.1, e.2.name, e.2.reader.outcome c)).map fun x =>
          (x.2.1, extraOutcome x.1 x.2.2) := by
    rw [List.map_map, List.map_map]
    apply List.map_congr_left
    intro e _
    simp only [Function.comp_apply, outcome_extraReader]
  rw [outcomes, outcomes, alike.extras]

theorem outcome_readBuiltin_congr (alike : AlikeFrom c d d') :
    (d'.readBuiltin name metadata).outcome c = (d.readBuiltin name metadata).outcome c := by
  have found : (NameTable.get? d'.builtins name).map (fun r => r.outcome c) =
      (NameTable.get? d.builtins name).map fun r => r.outcome c := by
    rw [builtins, builtins, ← NameTable.get?_ofList_map, ← NameTable.get?_ofList_map,
      List.map_append, List.map_append, retained_outcomes alike, extra_outcomes alike]
  have complaint : d'.nameError name = d.nameError name := by
    rw [nameError, nameError, alike.deprecations]
  rcases known : NameTable.get? d.builtins name with _ | r
  · rw [known, Option.map_none, Option.map_eq_none_iff] at found
    rw [readBuiltin_of_none known, readBuiltin_of_none found, complaint]
  · rw [known, Option.map_some, Option.map_eq_some_iff] at found
    obtain ⟨r', known', same⟩ := found
    rw [readBuiltin_of_some known, readBuiltin_of_some known', same]

/-! ## Readers of the host -/

theorem outcome_content_congr (alike : AlikeFrom c d d') (kind : ContentKind) :
    ((d'.content kind).getD anyModifier).outcome c =
      ((d.content kind).getD anyModifier).outcome c := by
  have same := alike.content kind
  rcases known : d.content kind with _ | r
  · rw [known, Option.map_none, Option.map_eq_none_iff] at same
    rw [same]
  · rw [known, Option.map_some, Option.map_eq_some_iff] at same
    obtain ⟨r', known', same⟩ := same
    rw [known', Option.getD_some, Option.getD_some, same]

theorem outcome_readContent_congr (alike : AlikeFrom c d d') (kind : ContentKind)
    (head : callHead.run' c = (.ok (name, metadata), c₁)) :
    (d'.readContent kind).outcome c = (d.readContent kind).outcome c := by
  have run := run'_readContent (d := d) kind head
  have run' := run'_readContent (d := d') kind head
  rw [alike.names] at run'
  by_cases known : (d.names kind).contains name = true
  · rw [if_pos known] at run run'
    have same := outcome_content_congr alike kind
    unfold outcome at same ⊢
    rw [run, run', same]
  · rw [if_neg known] at run run'
    rw [outcome_of_error run, outcome_of_error run']

/-! ## The dispatcher -/

/-- A call that is not taken leaves the cursor where it was. -/
theorem run'_read_error {e : Failure} {c' : Cursor} (failed : d.read.run' c = (.error e, c')) :
    c' = c := by
  rcases head : callHead.run' c with ⟨e₁ | ⟨name, metadata⟩, c₁⟩
  · rw [run'_read_of_no_head head] at failed
    cases failed
    rfl
  · rw [run'_read head] at failed
    rcases builtin : (d.readBuiltin name metadata).run' c with ⟨failure | found, c₂⟩
    · rcases text : (d.readContent .text).run' c with ⟨_ | v, c₃⟩
      · rcases image : (d.readContent .image).run' c with ⟨_ | v, c₄⟩
        · rcases custom : d.custom.run' c with ⟨_ | v, c₅⟩
          · rw [builtin, text, image, custom] at failed
            cases failed
            rfl
          · rw [builtin, text, image, custom] at failed
            cases failed
        · rw [builtin, text, image] at failed
          cases failed
      · rw [builtin, text] at failed
        cases failed
    · rw [builtin] at failed
      cases failed

/-- What becomes of a call depends on each alternative only through its outcome from where it
belongs. -/
theorem run'_read_congr (alike : AlikeFrom c d d') : d'.read.run' c = d.read.run' c := by
  rcases head : callHead.run' c with ⟨e | ⟨name, metadata⟩, c₁⟩
  · rw [run'_read_of_no_head head, run'_read_of_no_head head]
  have builtin : (d'.readBuiltin name metadata).outcome c =
      (d.readBuiltin name metadata).outcome c := outcome_readBuiltin_congr alike
  rw [run'_read head, run'_read head]
  rcases outcome_eq_cases builtin
    with ⟨found, c₂, builtin, builtin'⟩ | ⟨failure, c₂, c₂', builtin, builtin'⟩
  · rw [builtin, builtin']
  rw [builtin, builtin']
  rcases outcome_eq_cases (outcome_readContent_congr alike .text head)
    with ⟨v, c₃, text, text'⟩ | ⟨_, c₃, c₃', text, text'⟩
  · rw [text, text']
  rw [text, text']
  rcases outcome_eq_cases (outcome_readContent_congr alike .image head)
    with ⟨v, c₄, image, image'⟩ | ⟨_, c₄, c₄', image, image'⟩
  · rw [image, image']
  rw [image, image']
  rcases outcome_eq_cases alike.custom
    with ⟨v, c₅, custom, custom'⟩ | ⟨e, c₅, c₅', custom, custom'⟩
  · rw [custom, custom']
  have final : d'.finalFailure name metadata failure e =
      d.finalFailure name metadata failure e := by
    rw [finalFailure, finalFailure, alike.deprecations]
  rw [custom, custom']
  simp only [final]

/-- A reader that rejects the call of `fade` behind its head and takes everything that starts
elsewhere. -/
def strayCustom : Reader Value := fun c =>
  if c = fadeCall then ((rejectCustom.run' fadeCall).1, fadeArguments) else (.ok .null, c)

theorem outcome_strayCustom : strayCustom.outcome fadeCall = rejectCustom.outcome fadeCall := by
  have run : strayCustom.run' fadeCall = ((rejectCustom.run' fadeCall).1, fadeArguments) := by
    rw [run', strayCustom, if_pos rfl]
  rw [outcome, run]
  rfl

def strayFader : Dispatcher := { fader with custom := strayCustom }

theorem strayFader_alike : AlikeFrom fadeCall fader strayFader where
  chunks := rfl
  deprecations := rfl
  names := rfl
  overloads := fun _ _ _ _ _ _ _ => rfl
  extras := rfl
  content := fun _ => rfl
  custom := outcome_strayCustom

end ViewModifiers.Dispatch.Dispatcher
