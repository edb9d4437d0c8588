import ViewModifiers.Proofs.Stylesheet.Memory

/-!
# The history of a registry

A registry is registered with and looked up in, in any order. What it answers to each of these
operations is what it would answer if nothing had ever been looked up in it: only the registrations
before the operation count, and they leave nothing remembered.
-/

namespace ViewModifiers.Stylesheet.Registry

open Text

/-- What is done with a registry. -/
inductive Operation
  | register (name : String) (reader : Reader Value)
  | registerFactory (name : String) (factory : Factory)
  | resolve (spelling : String)
  | contains (spelling : String)

/-- What an operation answers: nothing for a registration, the reader of a spelling or why there is
none, and whether there is one or why that cannot be told. -/
inductive Answer
  | registered
  | reader (found : Except Failure (Reader Value))
  | membership (found : Except Failure Bool)

namespace Operation

/-- Whether an operation registers something. -/
def registers : Operation → Bool
  | register _ _ | registerFactory _ _ => true
  | resolve _ | contains _ => false

end Operation

/-- Performs an operation. -/
def perform (r : Registry) : Operation → Answer × Registry
  | .register name reader => (.registered, r.register name reader)
  | .registerFactory name factory => (.registered, r.registerFactory name factory)
  | .resolve spelling => ((.reader (r.resolve spelling).1), (r.resolve spelling).2)
  | .contains spelling => ((.membership (r.contains spelling).1), (r.contains spelling).2)

/-- The registry behind several operations, one after the other. -/
def after (r : Registry) (operations : List Operation) : Registry :=
  operations.foldl (fun r o => (r.perform o).2) r

/-- The answers to several operations, one after the other. -/
def answers (r : Registry) : List Operation → List Answer
  | [] => []
  | o :: operations => (r.perform o).1 :: (r.perform o).2.answers operations

/-- A new registry in which the registrations among some operations are made, and nothing else. -/
def fresh (operations : List Operation) : Registry := empty.after (operations.filter (·.registers))

variable {r r' : Registry}

/-! ## One operation -/

/-- Two registries with the same types. What they remember may differ. -/
structure SameTypes (r r' : Registry) : Prop where
  plain : r.plain = r'.plain
  generic : r.generic = r'.generic

theorem resolve_types (r : Registry) (spelling : String) : SameTypes (r.resolve spelling).2 r :=
  ⟨rfl, rfl⟩

/-- An operation leads from a registry that comes about to another one. -/
theorem Reached.perform (reached : r.Reached) (o : Operation) : (r.perform o).2.Reached := by
  cases o with
  | register name reader => exact reached.register name reader
  | registerFactory name factory => exact reached.registerFactory name factory
  | resolve spelling => exact reached.resolve spelling
  | contains spelling => exact reached.contains spelling

/-- A lookup changes none of the types. -/
theorem SameTypes.perform_lookup (same : SameTypes r r') {o : Operation}
    (looks : o.registers = false) : SameTypes (r.perform o).2 r' := by
  cases o with
  | register name reader => cases looks
  | registerFactory name factory => cases looks
  | resolve spelling =>
    have unchanged := r.resolve_types spelling
    exact ⟨unchanged.plain.trans same.plain, unchanged.generic.trans same.generic⟩
  | contains spelling =>
    have unchanged := r.resolve_types spelling
    rw [← contains_snd] at unchanged
    exact ⟨unchanged.plain.trans same.plain, unchanged.generic.trans same.generic⟩

/-- A registration changes the same types in the same way, and what was remembered is forgotten. -/
theorem SameTypes.perform_registration (same : SameTypes r r') {o : Operation}
    (registers : o.registers = true) :
    SameTypes (r.perform o).2 (r'.perform o).2 ∧ (r'.perform o).2.remembered = [] := by
  cases o with
  | register name reader =>
    exact ⟨⟨congrArg (NameTable.put · name reader) same.plain, same.generic⟩, rfl⟩
  | registerFactory name factory =>
    exact ⟨⟨same.plain, congrArg (NameTable.put · name factory) same.generic⟩, rfl⟩
  | resolve spelling => cases registers
  | contains spelling => cases registers

/-- Registries with the same types find the same, if what they remember is found without memory
too. -/
theorem SameTypes.resolve_eq (same : SameTypes r r') (recalls : r.Recalls r.remembered)
    (recalls' : r'.Recalls r'.remembered) (spelling : String) :
    (r.resolve spelling).1 = (r'.resolve spelling).1 := by
  calc (r.resolve spelling).1
    _ = r.find spelling := (resolve_of_recalls recalls spelling).1
    _ = r'.find spelling := search_congr same.plain same.generic (TypeSpelling.read spelling)
    _ = (r'.resolve spelling).1 := (resolve_of_recalls recalls' spelling).1.symm

/-- What is told about membership depends on what is found. -/
theorem contains_fst (r : Registry) (spelling : String) :
    (r.contains spelling).1 =
      match (r.resolve spelling).1 with
      | .ok _ => .ok true
      | .error (.unregistered _) => .ok false
      | .error e => .error e := by
  rw [contains]
  rcases r.resolve spelling with ⟨e | _, r'⟩
  · cases e <;> rfl
  · rfl

theorem SameTypes.perform_eq (same : SameTypes r r') (recalls : r.Recalls r.remembered)
    (recalls' : r'.Recalls r'.remembered) (o : Operation) :
    (r.perform o).1 = (r'.perform o).1 := by
  cases o with
  | register name reader => rfl
  | registerFactory name factory => rfl
  | resolve spelling =>
    exact congrArg Answer.reader (same.resolve_eq recalls recalls' spelling)
  | contains spelling =>
    apply congrArg Answer.membership
    rw [contains_fst, contains_fst, same.resolve_eq recalls recalls' spelling]

/-! ## All operations -/

theorem after_append (r : Registry) (first later : List Operation) :
    r.after (first ++ later) = (r.after first).after later :=
  List.foldl_append

theorem fresh_concat (operations : List Operation) (o : Operation) :
    fresh (operations ++ [o]) = if o.registers then ((fresh operations).perform o).2
      else fresh operations := by
  unfold fresh
  rw [List.filter_append, after_append]
  by_cases registers : o.registers = true
  · rw [if_pos registers, List.filter_cons_of_pos registers]
    rfl
  · rw [if_neg registers, List.filter_cons_of_neg registers]
    rfl

/-- Registrations alone leave nothing remembered. -/
theorem remembered_fresh (operations : List Operation) : (fresh operations).remembered = [] := by
  induction operations using List.reverseRecOn with
  | nil => rfl
  | append_singleton operations o ih =>
    rw [fresh_concat]
    split
    · next registers =>
      exact (SameTypes.perform_registration (r := fresh operations) ⟨rfl, rfl⟩ registers).2
    · exact ih

theorem reached_after (operations : List Operation) : (empty.after operations).Reached := by
  induction operations using List.reverseRecOn with
  | nil => exact .empty
  | append_singleton operations o ih =>
    rw [after_append]
    exact ih.perform o

/-- Lookups do not change which types there are. -/
theorem sameTypes_fresh (operations : List Operation) :
    SameTypes (empty.after operations) (fresh operations) := by
  induction operations using List.reverseRecOn with
  | nil => exact ⟨rfl, rfl⟩
  | append_singleton operations o ih =>
    rw [after_append, fresh_concat]
    split
    · next registers => exact (ih.perform_registration registers).1
    · next looks => exact ih.perform_lookup (by simpa using looks)

theorem getElem?_answers (r : Registry) (operations : List Operation) (i : Nat) :
    (r.answers operations)[i]? =
      operations[i]?.map fun o => ((r.after (operations.take i)).perform o).1 := by
  induction operations generalizing r i with
  | nil => rfl
  | cons o operations ih =>
    cases i with
    | zero => rfl
    | succ i =>
      rw [answers, List.getElem?_cons_succ, List.getElem?_cons_succ, ih, List.take_succ_cons]
      rfl

/-- Memory is not seen. Whatever is registered and looked up in a registry, the answer to each
operation is that of a registry with the types it has by then, and no others, that remembers
nothing. -/
theorem answers_eq_fresh (operations : List Operation) (i : Nat) :
    let now := empty.after (operations.take i)
    let new := fresh (operations.take i)
    (empty.answers operations)[i]? = operations[i]?.map (fun o => (new.perform o).1) ∧
      new = ⟨now.plain, now.generic, []⟩ := by
  intro now new
  have same : SameTypes now new := sameTypes_fresh _
  have nothing : new.remembered = [] := remembered_fresh _
  constructor
  · have alike (o : Operation) : (now.perform o).1 = (new.perform o).1 := by
      apply same.perform_eq (reached_after _).recalls
      rw [nothing]
      exact nofun
    rw [getElem?_answers, show (fun o => (now.perform o).1) = _ from funext alike]
  · rw [same.plain, same.generic, ← nothing]

end ViewModifiers.Stylesheet.Registry
