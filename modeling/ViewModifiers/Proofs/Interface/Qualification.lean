import ViewModifiers.Interface.TypeExpr

/-!
# Qualified types

A type may be written with module names in front of the names at which its dotted chains begin.
Whether they are there or not makes no difference to the type without modules, nor to what is asked
of a type as it is written: what its last name is, whether it is a closure, which names it mentions.
-/

namespace ViewModifiers.Interface.TypeExpr

/-! ## Putting modules in front -/

mutual

/-- The second type is the first one, with names of modules put in front of some of the names at
which its chains begin. -/
inductive Qualifies (modules : List String) : TypeExpr → TypeExpr → Prop
  | named {n as bs} : AllQualify modules as bs → Qualifies modules (named n as) (named n bs)
  | front {m n as bs} : m ∈ modules → AllQualify modules as bs →
      Qualifies modules (named n as) (member (named m []) n bs)
  | member {t u n as bs} : Qualifies modules t u → AllQualify modules as bs →
      Qualifies modules (member t n as) (member u n bs)
  | optional {t u i} : Qualifies modules t u → Qualifies modules (optional t i) (optional u i)
  | array {t u} : Qualifies modules t u → Qualifies modules (array t) (array u)
  | dictionary {k l t u} : Qualifies modules k l → Qualifies modules t u →
      Qualifies modules (dictionary k t) (dictionary l u)
  | tuple {es fs} : ElementsQualify modules es fs → Qualifies modules (tuple es) (tuple fs)
  | function {ps qs r s a e} : AllQualify modules ps qs → Qualifies modules r s →
      Qualifies modules (function ps r a e) (function qs s a e)
  | attributed {as s t u} : Qualifies modules t u →
      Qualifies modules (attributed as s t) (attributed as s u)
  | quantified {w t u} : Qualifies modules t u →
      Qualifies modules (quantified w t) (quantified w u)
  | composition {ts us} : AllQualify modules ts us →
      Qualifies modules (composition ts) (composition us)
  | metatype {t u k} : Qualifies modules t u → Qualifies modules (metatype t k) (metatype u k)
  | variadic {t u} : Qualifies modules t u → Qualifies modules (variadic t) (variadic u)

/-- The same of several types. -/
inductive AllQualify (modules : List String) : List TypeExpr → List TypeExpr → Prop
  | nil : AllQualify modules [] []
  | cons {t u ts us} : Qualifies modules t u → AllQualify modules ts us →
      AllQualify modules (t :: ts) (u :: us)

/-- The same of tuple elements, which keep their labels. -/
inductive ElementsQualify (modules : List String) :
    List (Option String × TypeExpr) → List (Option String × TypeExpr) → Prop
  | nil : ElementsQualify modules [] []
  | cons {label t u es fs} : Qualifies modules t u → ElementsQualify modules es fs →
      ElementsQualify modules ((label, t) :: es) ((label, u) :: fs)

end

/-- No name in a type is that of a module. -/
def AvoidsModules (modules : List String) (t : TypeExpr) : Prop :=
  ∀ m ∈ modules, t.mentions m = false

variable {modules : List String} {t u : TypeExpr}

theorem AllQualify.isEmpty {ts us : List TypeExpr} (all : AllQualify modules ts us) :
    us.isEmpty = ts.isEmpty := by
  cases all <;> rfl

theorem ElementsQualify.isEmpty {es fs : List (Option String × TypeExpr)}
    (all : ElementsQualify modules es fs) : fs.isEmpty = es.isEmpty := by
  cases all <;> rfl

/-! ## Names -/

/-- A chain of names stays one, with at most the name of a module more in front. -/
theorem Qualifies.path? (qualifies : Qualifies modules t u) :
    u.path? = t.path? ∨
      ∃ m ∈ modules, ∃ path, t.path? = some path ∧ u.path? = some (m :: path) := by
  fun_induction TypeExpr.path? t generalizing u with
  | case1 n as =>
    cases qualifies with
    | named => exact .inl rfl
    | front isModule => exact .inr ⟨_, isModule, _, rfl, rfl⟩
  | case2 t n as ih =>
    cases qualifies with
    | member base =>
      rw [TypeExpr.path?]
      rcases ih base with same | ⟨m, isModule, path, before, after⟩
      · exact .inl (by rw [same])
      · exact .inr ⟨m, isModule, path ++ [n], by rw [before]; rfl, by rw [after]; rfl⟩
  | case3 t notNamed notMember =>
    cases qualifies with
    | named => exact absurd rfl (notNamed _ _)
    | front => exact absurd rfl (notNamed _ _)
    | member => exact absurd rfl (notMember _ _ _)
    | _ => exact .inl rfl

theorem Qualifies.isSome_path? (qualifies : Qualifies modules t u) :
    u.path?.isSome = t.path?.isSome := by
  rcases qualifies.path? with same | ⟨m, -, path, before, after⟩
  · rw [same]
  · rw [before, after]
    rfl

/-- The names of a chain are mentioned. -/
theorem mentions_of_mem_path? {path : List String} (chain : t.path? = some path) {n : String}
    (there : n ∈ path) : t.mentions n = true := by
  fun_induction TypeExpr.path? t generalizing path with
  | case1 first as =>
    cases chain
    simp [mentions, List.mem_singleton.1 there]
  | case2 t last as ih =>
    obtain ⟨start, before, rfl⟩ := Option.map_eq_some_iff.1 chain
    rcases List.mem_append.1 there with early | late
    · simp [mentions, ih before early]
    · simp [mentions, List.mem_singleton.1 late, before]
  | case3 => cases chain

mutual

/-- Modules in front add no mention of anything that is not a module. -/
theorem mentions_of_qualifies {name : String} (new : name ∉ modules) :
    ∀ {t u : TypeExpr}, Qualifies modules t u → u.mentions name = t.mentions name
  | .named n as, _, .named all => by
    rw [mentions, mentions, anyMentions_of_qualify new all]
  | .named n as, _, .front (m := m) isModule all => by
    have other : (m == name) = false := beq_false_of_ne fun same => new (same ▸ isModule)
    simp [mentions, anyMentions, anyMentions_of_qualify new all, TypeExpr.path?, other]
  | .member t n as, _, .member base all => by
    rw [mentions, mentions, base.isSome_path?, mentions_of_qualifies new base,
      anyMentions_of_qualify new all]
  | .optional t i, _, .optional inside => by rw [mentions, mentions, mentions_of_qualifies new inside]
  | .array t, _, .array inside => by rw [mentions, mentions, mentions_of_qualifies new inside]
  | .dictionary k t, _, .dictionary key value => by
    rw [mentions, mentions, mentions_of_qualifies new key, mentions_of_qualifies new value]
  | .tuple es, _, .tuple all => by rw [mentions, mentions, anyElementMentions_of_qualify new all]
  | .function ps r a e, _, .function all result => by
    rw [mentions, mentions, anyMentions_of_qualify new all, mentions_of_qualifies new result]
  | .attributed as s t, _, .attributed inside => by rw [mentions, mentions, mentions_of_qualifies new inside]
  | .quantified w t, _, .quantified inside => by rw [mentions, mentions, mentions_of_qualifies new inside]
  | .composition ts, _, .composition all => by rw [mentions, mentions, anyMentions_of_qualify new all]
  | .metatype t k, _, .metatype inside => by rw [mentions, mentions, mentions_of_qualifies new inside]
  | .variadic t, _, .variadic inside => by rw [mentions, mentions, mentions_of_qualifies new inside]

theorem anyMentions_of_qualify {name : String} (new : name ∉ modules) :
    ∀ {ts us : List TypeExpr}, AllQualify modules ts us →
      anyMentions name us = anyMentions name ts
  | [], _, .nil => rfl
  | t :: ts, _, .cons first rest => by
    rw [anyMentions, anyMentions, mentions_of_qualifies new first,
      anyMentions_of_qualify new rest]

theorem anyElementMentions_of_qualify {name : String} (new : name ∉ modules) :
    ∀ {es fs : List (Option String × TypeExpr)}, ElementsQualify modules es fs →
      anyElementMentions name fs = anyElementMentions name es
  | [], _, .nil => rfl
  | (l, t) :: es, _, .cons first rest => by
    rw [anyElementMentions, anyElementMentions, mentions_of_qualifies new first,
      anyElementMentions_of_qualify new rest]

end

/-! ## Unit types and closures -/

theorem isVoid_member (t : TypeExpr) (n : String) (as : List TypeExpr) :
    (member t n as).isVoid = (t.path?.isSome && decide (n = "Void") && as.isEmpty) := by
  cases path : t.path? <;> simp [isVoid, TypeExpr.path?, arguments, path]

theorem Qualifies.isVoid (qualifies : Qualifies modules t u) : u.isVoid = t.isVoid := by
  cases qualifies with
  | named all => simp [TypeExpr.isVoid, TypeExpr.path?, arguments, all.isEmpty]
  | front isModule all => simp [TypeExpr.isVoid, TypeExpr.path?, arguments, all.isEmpty]
  | member base all => rw [isVoid_member, isVoid_member, base.isSome_path?, all.isEmpty]
  | tuple all => exact all.isEmpty
  | _ => rfl

/-- A closure stays one, with its parameters and its result qualified. -/
theorem Qualifies.closure? (qualifies : Qualifies modules t u) :
    Option.Rel (fun c d => AllQualify modules c.1 d.1 ∧ Qualifies modules c.2 d.2)
      t.closure? u.closure? := by
  cases qualifies with
  | function all result => exact .some ⟨all, result⟩
  | attributed inside =>
    cases inside with
    | function all result => exact .some ⟨all, result⟩
    | _ => exact .none
  | _ => exact .none

/-! ## Types without modules -/

theorem isModule_named (modules : List String) (n : String) :
    (named n []).isModule modules = modules.contains n := rfl

theorem AvoidsModules.not_isModule (avoids : AvoidsModules modules t) :
    t.isModule modules = false := by
  fun_cases TypeExpr.isModule modules t with
  | case1 n =>
    refine Bool.eq_false_iff.2 fun isModule => ?_
    have mentioned := avoids n (List.contains_iff_mem.1 isModule)
    simp [mentions] at mentioned
  | case2 => rfl

/-- What is qualified is not the bare name of a module unless it was one before. -/
theorem Qualifies.not_isModule (qualifies : Qualifies modules t u)
    (avoids : AvoidsModules modules t) : u.isModule modules = false := by
  have before := avoids.not_isModule
  cases qualifies with
  | named all =>
    cases all with
    | nil => exact before
    | cons => rfl
  | _ => rfl

mutual

/-- Modules in front are gone from a type without modules. -/
theorem withoutModules_of_qualifies :
    ∀ {t u : TypeExpr}, Qualifies modules t u → AvoidsModules modules t →
      u.withoutModules modules = t.withoutModules modules
  | .named n as, _, .named all, avoids => by
    simp only [AvoidsModules, mentions, Bool.or_eq_false_iff, imp_and, forall_and] at avoids
    rw [withoutModules, withoutModules, allWithoutModules_of_qualify all avoids.2]
  | .named n as, _, .front isModule all, avoids => by
    simp only [AvoidsModules, mentions, Bool.or_eq_false_iff, imp_and, forall_and] at avoids
    rw [withoutModules, withoutModules, allWithoutModules_of_qualify all avoids.2, isModule_named,
      if_pos (List.contains_iff_mem.2 isModule)]
  | .member t n as, _, .member base all, avoids => by
    simp only [AvoidsModules, mentions, Bool.or_eq_false_iff, imp_and, forall_and] at avoids
    have own : AvoidsModules modules t := avoids.1.2
    rw [withoutModules, withoutModules, own.not_isModule, base.not_isModule own,
      withoutModules_of_qualifies base own, allWithoutModules_of_qualify all avoids.2]
  | .optional t i, _, .optional inside, avoids => by
    rw [withoutModules, withoutModules, withoutModules_of_qualifies inside avoids]
  | .array t, _, .array inside, avoids => by
    rw [withoutModules, withoutModules, withoutModules_of_qualifies inside avoids]
  | .dictionary k t, _, .dictionary key value, avoids => by
    simp only [AvoidsModules, mentions, Bool.or_eq_false_iff, imp_and, forall_and] at avoids
    rw [withoutModules, withoutModules, withoutModules_of_qualifies key avoids.1,
      withoutModules_of_qualifies value avoids.2]
  | .tuple es, _, .tuple all, avoids => by
    rw [withoutModules, withoutModules, elementsWithoutModules_of_qualify all avoids]
  | .function ps r a e, _, .function all result, avoids => by
    simp only [AvoidsModules, mentions, Bool.or_eq_false_iff, imp_and, forall_and] at avoids
    rw [withoutModules, withoutModules, allWithoutModules_of_qualify all avoids.1,
      withoutModules_of_qualifies result avoids.2]
  | .attributed as s t, _, .attributed inside, avoids => by
    rw [withoutModules, withoutModules, withoutModules_of_qualifies inside avoids]
  | .quantified w t, _, .quantified inside, avoids => by
    rw [withoutModules, withoutModules, withoutModules_of_qualifies inside avoids]
  | .composition ts, _, .composition all, avoids => by
    rw [withoutModules, withoutModules, allWithoutModules_of_qualify all avoids]
  | .metatype t k, _, .metatype inside, avoids => by
    rw [withoutModules, withoutModules, withoutModules_of_qualifies inside avoids]
  | .variadic t, _, .variadic inside, avoids => by
    rw [withoutModules, withoutModules, withoutModules_of_qualifies inside avoids]

theorem allWithoutModules_of_qualify :
    ∀ {ts us : List TypeExpr}, AllQualify modules ts us →
      (∀ m ∈ modules, anyMentions m ts = false) →
      allWithoutModules modules us = allWithoutModules modules ts
  | [], _, .nil, _ => rfl
  | t :: ts, _, .cons first rest, avoid => by
    simp only [anyMentions, Bool.or_eq_false_iff, imp_and, forall_and] at avoid
    rw [allWithoutModules, allWithoutModules, withoutModules_of_qualifies first avoid.1,
      allWithoutModules_of_qualify rest avoid.2]

theorem elementsWithoutModules_of_qualify :
    ∀ {es fs : List (Option String × TypeExpr)}, ElementsQualify modules es fs →
      (∀ m ∈ modules, anyElementMentions m es = false) →
      elementsWithoutModules modules fs = elementsWithoutModules modules es
  | [], _, .nil, _ => rfl
  | (l, t) :: es, _, .cons first rest, avoid => by
    simp only [anyElementMentions, Bool.or_eq_false_iff, imp_and, forall_and] at avoid
    rw [elementsWithoutModules, elementsWithoutModules, withoutModules_of_qualifies first avoid.1,
      elementsWithoutModules_of_qualify rest avoid.2]

end

end ViewModifiers.Interface.TypeExpr
