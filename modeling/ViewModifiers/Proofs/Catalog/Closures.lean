import ViewModifiers.Catalog.Validity
import ViewModifiers.Proofs.Catalog.Mapping
import ViewModifiers.Proofs.Interface.Qualification

/-!
# Closures that give a result

A closure without a result is read as an event, and an overload with any other closure is not valid.
The two judgements look for the closure in different places: what a parameter is read as is found
behind any number of optional marks and attributes, validity behind one optional mark and the
attributes inside it. A closure that stands deeper and gives a result is overlooked, and the
overload keeps it as it is (`signatureOf_closures`).
-/

namespace ViewModifiers.Interface.TypeExpr

/-- A type without the optional marks behind it. -/
def behindMarks : TypeExpr → TypeExpr
  | optional wrapped _ => wrapped.behindMarks
  | t => t

/-- Whether a type is a function type. -/
def isFunction : TypeExpr → Bool
  | function .. => true
  | _ => false

/-- Parameters and result of the closure in a type, behind any optional marks, attributes and
specifiers. -/
def innerClosure? : TypeExpr → Option (List TypeExpr × TypeExpr)
  | optional wrapped _ => wrapped.innerClosure?
  | attributed _ _ base => base.innerClosure?
  | function parameters result _ _ => some (parameters, result)
  | _ => none

variable {modules : List String} {t : TypeExpr} {ps : List TypeExpr} {r : TypeExpr}

/-! ## Without modules -/

theorem isEmpty_allWithoutModules (modules : List String) (ts : List TypeExpr) :
    (allWithoutModules modules ts).isEmpty = ts.isEmpty := by
  cases ts <;> rfl

theorem exists_eq_named_of_isModule (isModule : t.isModule modules = true) :
    ∃ m, t = named m [] := by
  fun_cases TypeExpr.isModule modules t with
  | case1 m => exact ⟨m, rfl⟩
  | case2 notNamed => simp [TypeExpr.isModule] at isModule

theorem isSome_path?_withoutModules (modules : List String) (t : TypeExpr) :
    (t.withoutModules modules).path?.isSome = t.path?.isSome := by
  fun_induction TypeExpr.path? t with
  | case1 n as => simp [withoutModules, path?]
  | case2 base n as ih =>
    rw [withoutModules]
    split
    next isModule =>
      obtain ⟨m, rfl⟩ := exists_eq_named_of_isModule isModule
      rfl
    next => simpa [path?] using ih
  | case3 t notNamed notMember =>
    cases t with
    | named n as => exact absurd rfl (notNamed n as)
    | member base n as => exact absurd rfl (notMember base n as)
    | _ => simp [withoutModules, path?]

/-- Modules make no difference to whether a type is the unit type. -/
theorem isVoid_withoutModules (modules : List String) (t : TypeExpr) :
    (t.withoutModules modules).isVoid = t.isVoid := by
  cases t with
  | named n as => simp [withoutModules, isVoid, path?, arguments, isEmpty_allWithoutModules]
  | member base n as =>
    rw [withoutModules, isVoid_member]
    split
    next isModule =>
      obtain ⟨m, rfl⟩ := exists_eq_named_of_isModule isModule
      simp [isVoid, path?, arguments, isEmpty_allWithoutModules]
    next =>
      rw [isVoid_member, isSome_path?_withoutModules, isEmpty_allWithoutModules]
  | tuple es => cases es <;> simp [withoutModules, elementsWithoutModules, isVoid]
  | _ => simp [withoutModules, isVoid, path?]

theorem innerClosure?_withoutModules (modules : List String) (t : TypeExpr) :
    (t.withoutModules modules).innerClosure? = t.innerClosure?.map fun closure =>
      (allWithoutModules modules closure.1, closure.2.withoutModules modules) := by
  fun_induction TypeExpr.innerClosure? t with
  | case1 wrapped i ih => rw [withoutModules, innerClosure?, ih]
  | case2 as s base ih => rw [withoutModules, innerClosure?, ih]
  | case3 ps r a e => rw [withoutModules, innerClosure?, Option.map_some]
  | case4 t notOptional notAttributed notFunction =>
    cases t with
    | optional wrapped i => exact absurd rfl (notOptional wrapped i)
    | attributed as s base => exact absurd rfl (notAttributed as s base)
    | function ps r a e => exact absurd rfl (notFunction ps r a e)
    | member base n as =>
      rw [withoutModules]
      split <;> rfl
    | _ => simp [withoutModules, innerClosure?]

end ViewModifiers.Interface.TypeExpr

namespace ViewModifiers.Catalog

open Interface Config TypeExpr

variable {t : TypeExpr} {ps : List TypeExpr} {r : TypeExpr}

/-! ## What a closure is read as -/

/-- A closure without a result is read as an event. -/
theorem behindMarks_argumentType_of_isVoid (c : Configuration) (f : DeclaredFunction)
    (closure : t.innerClosure? = some (ps, r)) (void : r.isVoid = true) :
    (argumentType c f t).behindMarks = .named "Event" [] := by
  fun_induction TypeExpr.innerClosure? t with
  | case1 wrapped i ih =>
    rw [argumentType, behindMarks]
    exact ih closure
  | case2 as s base ih =>
    rw [argumentType]
    exact ih closure
  | case3 ps' r' a e =>
    cases closure
    rw [argumentType, if_pos void]
    rfl
  | case4 => cases closure

/-- What is read as a function type is a closure that gives a result. -/
theorem isFunction_argumentType_iff (c : Configuration) (f : DeclaredFunction) (t : TypeExpr) :
    (argumentType c f t).behindMarks.isFunction = true ↔
      ∃ ps r, t.innerClosure? = some (ps, r) ∧ r.isVoid = false := by
  fun_induction argumentType c f t with
  | case1 as s base ih => exact ih
  | case2 wrapped i ih => exact ih
  | case3 ps r a e void => simp [behindMarks, isFunction, innerClosure?, void]
  | case4 ps r a e gives =>
    exact iff_of_true rfl ⟨ps, r, rfl, Bool.eq_false_iff.2 gives⟩
  | case5 => simp [behindMarks, isFunction, innerClosure?]
  | case6 => simp [behindMarks, isFunction, innerClosure?]
  | case7 => simp [behindMarks, isFunction, innerClosure?]
  | case8 => simp [behindMarks, isFunction, innerClosure?]
  | case9 => simp [behindMarks, isFunction, innerClosure?]
  | case10 => simp [behindMarks, isFunction, innerClosure?]
  | case11 => simp [behindMarks, isFunction, innerClosure?]
  | case12 t notAttributed notOptional notFunction =>
    cases t with
    | attributed as s base => exact absurd rfl (notAttributed as s base)
    | optional wrapped i => exact absurd rfl (notOptional wrapped i)
    | function ps r a e => exact absurd rfl (notFunction ps r a e)
    | _ => simp [behindMarks, isFunction, innerClosure?]

/-! ## Which closures are overlooked -/

/-- The closure of a parameter gives a result, but is not found where validity looks for it. -/
structure IsOverlooked (p : DeclaredParameter) : Prop where
  noBuilder : builder? p = none
  hidden : closureOf? p.type = none
  gives : ∃ ps r, p.type.innerClosure? = some (ps, r) ∧ r.isVoid = false

/-- A closure is found where any search would find it, if it is found. -/
theorem innerClosure?_of_closureOf? {closure : List TypeExpr × TypeExpr}
    (found : closureOf? t = some closure) : t.innerClosure? = some closure := by
  have behind {t : TypeExpr} (found : t.closure? = some closure) :
      t.innerClosure? = some closure := by
    fun_cases TypeExpr.closure? t with
    | case1 => exact found
    | case2 => exact found
    | case3 => simp [closure?] at found
  fun_cases closureOf? t with
  | case1 wrapped i => exact behind (t := wrapped) found
  | case2 => exact behind (by simpa [closureOf?] using found)

theorem isSupported_eq_true_iff {f : DeclaredFunction} :
    isSupported f = true ↔ ∀ p ∈ f.parameters, invalidParameter? p = none := by
  rw [isSupported, Option.isNone_iff_eq_none, objection?, List.findSome?_eq_none_iff]

/-- An overload is not valid if validity finds a closure that gives a result. -/
theorem isSupported_of_closureOf? {f : DeclaredFunction} {p : DeclaredParameter}
    (there : p ∈ f.parameters) (noBuilder : builder? p = none)
    (found : closureOf? p.type = some (ps, r)) (gives : r.isVoid = false) :
    isSupported f = false := by
  refine Bool.eq_false_iff.2 fun valid => ?_
  have fine := isSupported_eq_true_iff.1 valid p there
  simp [invalidParameter?, invalidClosure?, noBuilder, found, gives] at fine

theorem type_parameterOf_of_builder? (c : Configuration) (f : DeclaredFunction)
    {p : DeclaredParameter} {b : Builder} (known : builder? p = some b) :
    (parameterOf c f p).type = .named b.reference [] := by
  simp [parameterOf, known]

theorem type_parameterOf_of_none (c : Configuration) (f : DeclaredFunction)
    {p : DeclaredParameter} (none : builder? p = none) :
    (parameterOf c f p).type = argumentType c f (p.type.withoutModules c.modulePrefixes) := by
  simp [parameterOf, none]

/-- A parameter is kept with a function type if it has a closure that gives a result, and no
builder. -/
theorem isFunction_parameterOf_iff (c : Configuration) (f : DeclaredFunction)
    (p : DeclaredParameter) :
    (parameterOf c f p).type.behindMarks.isFunction = true ↔
      builder? p = none ∧ ∃ ps r, p.type.innerClosure? = some (ps, r) ∧ r.isVoid = false := by
  cases known : builder? p with
  | some b =>
    rw [type_parameterOf_of_builder? c f known]
    simp [behindMarks, isFunction]
  | none =>
    rw [type_parameterOf_of_none c f known, isFunction_argumentType_iff,
      innerClosure?_withoutModules]
    constructor
    · rintro ⟨_, _, found, gives⟩
      obtain ⟨⟨ps, r⟩, inner, same⟩ := Option.map_eq_some_iff.1 found
      cases same
      exact ⟨rfl, ps, r, inner, by rw [← isVoid_withoutModules, gives]⟩
    · rintro ⟨-, ps, r, inner, gives⟩
      exact ⟨_, _, by rw [inner]; rfl, by rw [isVoid_withoutModules, gives]⟩

/-- What becomes of closures. One that has no builder and gives no result is read as an event,
behind whatever optional marks there are; one that gives a result makes its overload invalid unless
it is overlooked. So a valid overload is kept with function types exactly where it has closures that
are overlooked. -/
theorem signatureOf_closures (c : Configuration) (f : DeclaredFunction) :
    (∀ p ∈ f.parameters, builder? p = none → ∀ ps r, p.type.innerClosure? = some (ps, r) →
      if r.isVoid then (parameterOf c f p).type.behindMarks = .named "Event" []
      else isSupported f = false ∨ IsOverlooked p) ∧
    (isSupported f = true → ((∃ q ∈ (signatureOf c f).parameters,
      q.type.behindMarks.isFunction = true) ↔ ∃ p ∈ f.parameters, IsOverlooked p)) := by
  have judged (p : DeclaredParameter) (there : p ∈ f.parameters) (noBuilder : builder? p = none)
      (ps : List TypeExpr) (r : TypeExpr) (inner : p.type.innerClosure? = some (ps, r))
      (gives : r.isVoid = false) : isSupported f = false ∨ IsOverlooked p := by
    cases found : closureOf? p.type with
    | some closure =>
      obtain rfl : closure = (ps, r) :=
        Option.some.inj ((innerClosure?_of_closureOf? found).symm.trans inner)
      exact .inl (isSupported_of_closureOf? there noBuilder found gives)
    | none => exact .inr ⟨noBuilder, found, ps, r, inner, gives⟩
  constructor
  · intro p there noBuilder ps r inner
    split
    next void =>
      rw [type_parameterOf_of_none c f noBuilder]
      have found : (p.type.withoutModules c.modulePrefixes).innerClosure? =
          some (allWithoutModules c.modulePrefixes ps, r.withoutModules c.modulePrefixes) := by
        rw [innerClosure?_withoutModules, inner]
        rfl
      exact behindMarks_argumentType_of_isVoid c f found (by rw [isVoid_withoutModules, void])
    next gives => exact judged p there noBuilder ps r inner (Bool.eq_false_iff.2 gives)
  · intro valid
    constructor
    · rintro ⟨q, among, kept⟩
      obtain ⟨p, there, rfl⟩ := List.mem_map.1 among
      obtain ⟨noBuilder, ps, r, inner, gives⟩ := (isFunction_parameterOf_iff c f p).1 kept
      refine ⟨p, there, (judged p there noBuilder ps r inner gives).resolve_left ?_⟩
      rw [valid]
      exact Bool.noConfusion
    · rintro ⟨p, there, overlooked⟩
      exact ⟨parameterOf c f p, List.mem_map_of_mem there,
        (isFunction_parameterOf_iff c f p).2 ⟨overlooked.noBuilder, overlooked.gives⟩⟩

/-- A function of a closure that gives a number and stands behind two optional marks. -/
def pickFunction : DeclaredFunction where
  name := "pick"
  parameters := [⟨"_", some "a",
    .optional (.optional (.function [] (.named "Int" []) false false) false) false, [], false⟩]
  generics := []
  result := none
  attributes := []
  modifiers := []
  availability := .always
  position := ⟨1, 1⟩

/-- A valid overload may be kept with a closure that gives a result. -/
theorem not_free_of_closures :
    ¬∀ (c : Configuration) (f : DeclaredFunction), isSupported f = true →
      ∀ q ∈ (signatureOf c f).parameters, q.type.behindMarks.isFunction = false := by
  intro free
  have first := free .plain pickFunction (by decide) _ List.mem_cons_self
  exact Bool.noConfusion first

end ViewModifiers.Catalog
