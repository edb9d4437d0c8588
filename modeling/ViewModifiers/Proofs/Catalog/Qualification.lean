import Mathlib.Data.List.Forall2
import ViewModifiers.Catalog.Validity
import ViewModifiers.Config.Defaults
import ViewModifiers.Proofs.Catalog.Mapping
import ViewModifiers.Proofs.Interface.Qualification

/-!
# Qualified functions

Functions that differ in module qualifiers only are read alike: they have the same signature and the
same builders, and either both of them or none can be read.
-/

namespace ViewModifiers.Catalog

open Interface Config

/-! ## Putting modules in front -/

/-- The second parameter is the first one with a qualified type. -/
def QualifiesParameter (modules : List String) (p q : DeclaredParameter) : Prop :=
  ∃ type, TypeExpr.Qualifies modules p.type type ∧ q = { p with type }

/-- The second generic parameter is the first one with qualified constraints. -/
def QualifiesVariable (modules : List String) (v w : TypeVariable) : Prop :=
  ∃ constraints, TypeExpr.AllQualify modules v.constraints constraints ∧ w = { v with constraints }

/-- The second function is the first one, with names of modules put in front of some of the names at
which chains begin in its parameter types and generic constraints. -/
def QualifiesFunction (modules : List String) (f g : DeclaredFunction) : Prop :=
  ∃ parameters generics, List.Forall₂ (QualifiesParameter modules) f.parameters parameters ∧
    List.Forall₂ (QualifiesVariable modules) f.generics generics ∧
      g = { f with parameters, generics }

/-- No name in a parameter type or a generic constraint is that of a module. -/
structure FunctionAvoidsModules (modules : List String) (f : DeclaredFunction) : Prop where
  parameters : ∀ p ∈ f.parameters, p.type.AvoidsModules modules
  constraints : ∀ v ∈ f.generics, ∀ t ∈ v.constraints, t.AvoidsModules modules

instance (modules : List String) (t : TypeExpr) : Decidable (t.AvoidsModules modules) :=
  inferInstanceAs (Decidable (∀ m ∈ modules, t.mentions m = false))

variable {modules : List String} {c : Configuration} {p q : DeclaredParameter}
  {f g : DeclaredFunction}

/-! ## Views -/

/-- Whether a type demands a view does not depend on modules in front. -/
theorem demandsView_of_qualifies {t u : TypeExpr} (qualifies : t.Qualifies c.modulePrefixes u)
    (avoids : t.AvoidsModules c.modulePrefixes) : demandsView c u = demandsView c t := by
  rcases qualifies.path? with same | ⟨m, isModule, path, before, after⟩
  · rw [demandsView, demandsView, same]
  rw [demandsView, demandsView, before, after]
  cases path with
  | nil => simp [isQualifiedMember, isModule]
  | cons n rest =>
    have other : n ∉ c.modulePrefixes := fun isModule' => by
      have mentioned := TypeExpr.mentions_of_mem_path? before List.mem_cons_self
      rw [avoids n isModule'] at mentioned
      cases mentioned
    rcases rest with _ | ⟨o, rest⟩
    · simp [isQualifiedMember, isModule, other]
    · cases rest <;> simp [isQualifiedMember, other]

theorem any_demandsView_of_qualify {ts us : List TypeExpr}
    (qualify : TypeExpr.AllQualify c.modulePrefixes ts us)
    (avoid : ∀ t ∈ ts, t.AvoidsModules c.modulePrefixes) :
    us.any (demandsView c) = ts.any (demandsView c) := by
  induction ts generalizing us with
  | nil =>
    cases qualify
    rfl
  | cons t ts ih =>
    cases qualify with
    | cons first rest =>
      rw [List.any_cons, List.any_cons, ih rest fun t later => avoid t (.tail _ later),
        demandsView_of_qualifies first (avoid t (.head ts))]

/-- The same generic parameters stand for views. -/
theorem standsForView_of_qualifies (qualifies : QualifiesFunction c.modulePrefixes f g)
    (avoids : FunctionAvoidsModules c.modulePrefixes f) :
    standsForView c g = standsForView c f := by
  obtain ⟨parameters, generics, -, qualify, rfl⟩ := qualifies
  have avoid := avoids.constraints
  funext name
  rw [standsForView, standsForView, DeclaredFunction.constraintsOn, DeclaredFunction.constraintsOn]
  generalize f.generics = before at qualify avoid
  induction qualify with
  | nil => rfl
  | @cons v w vs ws first _ ih =>
    obtain ⟨constraints, bounds, rfl⟩ := first
    by_cases found : v.name = name
    · simpa [found] using any_demandsView_of_qualify bounds (avoid v (.head vs))
    · simpa [found] using ih fun v later => avoid v (.tail _ later)

/-! ## Parameters -/

theorem typeAttributes_of_qualifies {t u : TypeExpr} (qualifies : t.Qualifies modules u) :
    typeAttributes u = typeAttributes t := by
  cases qualifies <;> rfl

/-- A parameter keeps its builder. -/
theorem builder?_of_qualifies (qualifies : QualifiesParameter modules p q) :
    builder? q = builder? p := by
  obtain ⟨type, qualifies, rfl⟩ := qualifies
  rw [builder?, builder?, typeAttributes_of_qualifies qualifies]

/-- A parameter is read as the same one. -/
theorem parameterOf_of_qualifies (qualifies : QualifiesParameter c.modulePrefixes p q)
    (avoids : p.type.AvoidsModules c.modulePrefixes) : parameterOf c f q = parameterOf c f p := by
  have builders := builder?_of_qualifies qualifies
  obtain ⟨type, qualifies, rfl⟩ := qualifies
  rw [parameterOf, parameterOf, builders, TypeExpr.withoutModules_of_qualifies qualifies avoids]

/-! ## Validity -/

theorem closureOf?_of_qualifies {t u : TypeExpr} (qualifies : t.Qualifies modules u) :
    Option.Rel (fun c d => TypeExpr.AllQualify modules c.1 d.1 ∧ c.2.Qualifies modules d.2)
      (closureOf? t) (closureOf? u) := by
  have plain := qualifies.closure?
  cases qualifies with
  | optional inside => exact inside.closure?
  | _ => exact plain

theorem isNone_invalidClosure?_of_qualifies (qualifies : QualifiesParameter modules p q) :
    (invalidClosure? q).isNone = (invalidClosure? p).isNone := by
  have builders := builder?_of_qualifies qualifies
  obtain ⟨type, qualifies, rfl⟩ := qualifies
  have closures := closureOf?_of_qualifies qualifies
  rw [invalidClosure?, invalidClosure?, builders]
  generalize closureOf? p.type = before, closureOf? type = after at closures
  cases closures with
  | none => rfl
  | @some before after alike =>
    obtain ⟨ps, r⟩ := before
    obtain ⟨qs, s⟩ := after
    obtain ⟨parameters, result⟩ := alike
    cases builder? p with
    | some b => cases parameters <;> rfl
    | none =>
      have same : s.isVoid = r.isVoid := result.isVoid
      cases void : r.isVoid <;> simp [same, void]

/-- A parameter stays readable, and does not become so. -/
theorem isNone_invalidParameter?_of_qualifies (focus : "FocusState" ∉ modules)
    (qualifies : QualifiesParameter modules p q) :
    (invalidParameter? q).isNone = (invalidParameter? p).isNone := by
  have closures := isNone_invalidClosure?_of_qualifies qualifies
  obtain ⟨type, qualifies, rfl⟩ := qualifies
  rw [invalidParameter?, invalidParameter?, TypeExpr.mentions_of_qualifies focus qualifies,
    Option.isNone_or, Option.isNone_or, closures]

/-- A function stays readable, and does not become so. -/
theorem isSupported_of_qualifies (focus : "FocusState" ∉ modules)
    (qualifies : QualifiesFunction modules f g) : isSupported g = isSupported f := by
  obtain ⟨parameters, generics, qualify, -, rfl⟩ := qualifies
  rw [isSupported, isSupported, objection?, objection?]
  generalize f.parameters = before at qualify
  induction qualify with
  | nil => rfl
  | @cons p q ps qs first _ ih =>
    have same := isNone_invalidParameter?_of_qualifies focus first
    rw [List.findSome?_cons, List.findSome?_cons]
    cases here : invalidParameter? p <;> cases there : invalidParameter? q <;> simp_all

/-! ## Functions -/

theorem builders_of_qualifies (qualifies : QualifiesFunction modules f g) :
    g.parameters.map builder? = f.parameters.map builder? := by
  obtain ⟨parameters, generics, qualify, -, rfl⟩ := qualifies
  generalize f.parameters = before at qualify
  induction qualify with
  | nil => rfl
  | cons first _ ih => rw [List.map_cons, List.map_cons, builder?_of_qualifies first, ih]

theorem map_parameterOf_of_qualify {ps qs : List DeclaredParameter}
    (qualify : List.Forall₂ (QualifiesParameter c.modulePrefixes) ps qs)
    (avoid : ∀ p ∈ ps, p.type.AvoidsModules c.modulePrefixes) :
    qs.map (parameterOf c f) = ps.map (parameterOf c f) := by
  induction qualify with
  | nil => rfl
  | @cons p q ps qs first _ ih =>
    rw [List.map_cons, List.map_cons, parameterOf_of_qualifies first (avoid p (.head ps)),
      ih fun p later => avoid p (.tail _ later)]

/-- A function keeps its signature. -/
theorem signatureOf_of_qualifies (qualifies : QualifiesFunction c.modulePrefixes f g)
    (avoids : FunctionAvoidsModules c.modulePrefixes f) : signatureOf c g = signatureOf c f := by
  rw [signatureOf, signatureOf, parameterOf_congr (standsForView_of_qualifies qualifies avoids)]
  obtain ⟨parameters, generics, qualify, -, rfl⟩ := qualifies
  rw [map_parameterOf_of_qualify qualify avoids.parameters]

/-- Modules in front of the names in a function make no difference to how it is read. -/
theorem reading_of_qualifies (c : Configuration) {f g : DeclaredFunction}
    (focus : "FocusState" ∉ c.modulePrefixes) (avoids : FunctionAvoidsModules c.modulePrefixes f)
    (qualifies : QualifiesFunction c.modulePrefixes f g) :
    signatureOf c g = signatureOf c f ∧ isSupported g = isSupported f ∧
      g.parameters.map builder? = f.parameters.map builder? :=
  ⟨signatureOf_of_qualifies qualifies avoids, isSupported_of_qualifies focus qualifies,
    builders_of_qualifies qualifies⟩

/-- A function `badge<V>(_ label: V?, count: Binding<Int>, action: @escaping () -> Void)` over a
bound of `V`, the types of its last two parameters given as well. -/
def badge (bound count action : TypeExpr) : DeclaredFunction where
  name := "badge"
  parameters :=
    [⟨"_", some "label", .optional (.named "V" []) false, [], false⟩,
      ⟨"count", none, count, [], false⟩, ⟨"action", none, action, [], false⟩]
  generics := [⟨"V", [bound]⟩]
  result := none
  attributes := []
  modifiers := []
  availability := .always
  position := .start

/-- `badge<V : View>(_ label: V?, count: Binding<Int>, action: @escaping () -> Void)`. -/
def plainBadge : DeclaredFunction :=
  badge (.named "View" []) (.named "Binding" [.named "Int" []])
    (.attributed ["escaping"] none (.function [] (.named "Void" []) false false))

/-- The same with `SwiftUI.View`, `SwiftUI.Binding<Swift.Int>` and `Swift.Void`. -/
def qualifiedBadge : DeclaredFunction :=
  badge (.member (.named "SwiftUI" []) "View" [])
    (.member (.named "SwiftUI" []) "Binding" [.member (.named "Swift" []) "Int" []])
    (.attributed ["escaping"] none
      (.function [] (.member (.named "Swift" []) "Void" []) false false))

theorem avoidsModules_plainBadge : FunctionAvoidsModules Defaults.modulePrefixes plainBadge where
  parameters := by decide
  constraints := by decide

theorem plainBadge_qualifies :
    QualifiesFunction Defaults.modulePrefixes plainBadge qualifiedBadge := by
  have swiftUI : "SwiftUI" ∈ Defaults.modulePrefixes := by decide
  have swift : "Swift" ∈ Defaults.modulePrefixes := by decide
  have label : TypeExpr.Qualifies Defaults.modulePrefixes (.optional (.named "V" []) false)
      (.optional (.named "V" []) false) := .optional (.named .nil)
  have count : TypeExpr.Qualifies Defaults.modulePrefixes (.named "Binding" [.named "Int" []])
      (.member (.named "SwiftUI" []) "Binding" [.member (.named "Swift" []) "Int" []]) :=
    .front swiftUI (.cons (.front swift .nil) .nil)
  have action : TypeExpr.Qualifies Defaults.modulePrefixes
      (.attributed ["escaping"] none (.function [] (.named "Void" []) false false))
      (.attributed ["escaping"] none
        (.function [] (.member (.named "Swift" []) "Void" []) false false)) :=
    .attributed (.function .nil (.front swift .nil))
  exact ⟨_, _, .cons ⟨_, label, rfl⟩ (.cons ⟨_, count, rfl⟩ (.cons ⟨_, action, rfl⟩ .nil)),
    .cons ⟨_, .cons (.front swiftUI .nil) .nil, rfl⟩ .nil, rfl⟩

theorem reading_qualifiedBadge :
    signatureOf .packaged qualifiedBadge = signatureOf .packaged plainBadge ∧
      isSupported qualifiedBadge = isSupported plainBadge ∧
        qualifiedBadge.parameters.map builder? = plainBadge.parameters.map builder? :=
  reading_of_qualifies .packaged (by decide) avoidsModules_plainBadge plainBadge_qualifies

end ViewModifiers.Catalog
