import ViewModifiers.Proofs.Dispatch.EnumReading
import ViewModifiers.Proofs.Dispatch.TakenNames
import ViewModifiers.Proofs.Emit.Groups
import ViewModifiers.Proofs.Stylesheet.Results

/-!
# The order of the alternatives

Which alternative takes a call of a built dispatcher, and which failure is reported if none does.
The built-in reader of a name comes from the catalog and from the types that the host writes by
hand; behind it stand the readers of `fallbacks` in their order.
-/

namespace ViewModifiers.Dispatch

open Catalog Config Emit Stylesheet Text Reader

/-- The readers that may take a call if its built-in reader does not, in their order, each with the
case of what it reads. -/
def fallbacks (config : Configuration) (context : Context) (name : String) :
    List (UnionCase × Reader Value) :=
  (if config.textModifiers.contains name then
    [(.anyText, (context.content .text).getD anyModifier)] else []) ++
  (if config.imageModifiers.contains name then
    [(.anyImage, (context.content .image).getD anyModifier)] else []) ++
  [(.custom, context.custom)]

/-- What a reader makes of a call, if it accepts the call. -/
def accepted? (c : Cursor) (x : UnionCase × Reader Value) : Option (Dispatched × Cursor) :=
  match x.2.run' c with
  | (.ok v, c') => some (⟨x.1, .value v⟩, c')
  | (.error _, _) => none

theorem accepted?_of_ok {c c' : Cursor} {x : UnionCase × Reader Value} {v : Value}
    (h : x.2.run' c = (.ok v, c')) : accepted? c x = some (⟨x.1, .value v⟩, c') := by
  rw [accepted?, h]

theorem accepted?_eq_none_iff {c : Cursor} {x : UnionCase × Reader Value} :
    accepted? c x = none ↔ FailsAt x.2 c := by
  rw [accepted?, FailsAt]
  rcases x.2.run' c with ⟨e | v, c'⟩
  · simp
  · simp

/-- A reader that is only there on a condition accepts like one that else fails. -/
theorem findSome?_accepted_ite (c : Cursor) (there : Prop) [Decidable there] (case_ : UnionCase)
    (r : Reader Value) (e : Failure) :
    (if there then [(case_, r)] else []).findSome? (accepted? c) =
      match if there then r.run' c else (.error e, c) with
      | (.ok v, c') => some (⟨case_, .value v⟩, c')
      | (.error _, _) => none := by
  by_cases h : there
  · rw [if_pos h, if_pos h, List.findSome?_singleton]
    rfl
  · rw [if_neg h, if_neg h]
    rfl

/-! ## What a dispatcher is built from -/

/-- The parts of a dispatcher by the catalog, the configuration and the host. -/
structure BuiltFrom (catalog : Catalog) (config : Configuration) (context : Context)
    (d : Dispatcher) : Prop where
  positive : 0 < config.chunkSize.toInt.toNat
  chunks : d.chunks = groups config.chunkSize.toInt.toNat catalog.modifiers
  extras : extrasFor context.extras catalog.extraModifierTypes = .ok d.extras
  deprecations : d.deprecations = catalog.deprecations
  textNames : d.names .text = config.textModifiers
  imageNames : d.names .image = config.imageModifiers
  custom : d.custom = context.custom
  content : d.content = context.content

theorem expectFaultless_eq_ok_iff {fault? : Option ModuleFault} {done : Unit} :
    expectFaultless fault? = .ok done ↔ fault? = none := by
  cases fault? with
  | none => exact iff_of_true rfl rfl
  | some fault => exact iff_of_false nofun nofun

section

variable {catalog : Catalog} {config : Configuration} {target : Target} {context : Context}
  {d : Dispatcher} {m : Module}

/-- What a dispatcher is built from, and that nothing is wrong with its module. -/
theorem builtFrom_of_build (built : Dispatcher.build catalog config target context = .ok d) :
    BuiltFrom catalog config context d ∧ moduleFault? catalog config target = none ∧
      ∃ readers, enumReaders target catalog.enums = .ok readers ∧
        d.registry = withEnums context.registry readers := by
  unfold Dispatcher.build at built
  unfold Emit.chunks at built
  by_cases small : config.chunkSize.toInt < 1
  · rw [if_pos small] at built
    cases built
  · rw [if_neg small] at built
    obtain ⟨groups, grouped, built⟩ := bind_eq_ok_iff.1 built
    obtain ⟨_, faultless, built⟩ := bind_eq_ok_iff.1 built
    obtain ⟨readers, known, built⟩ := bind_eq_ok_iff.1 built
    obtain ⟨extras, found, made⟩ := bind_eq_ok_iff.1 built
    cases grouped
    cases made
    exact ⟨⟨by omega, rfl, found, rfl, rfl, rfl, rfl, rfl⟩, expectFaultless_eq_ok_iff.1 faultless,
      readers, mapError_eq_ok_iff.1 known, rfl⟩

theorem Module.build_eq_ok_iff : Module.build catalog config target context = .ok m ↔
    Dispatcher.build catalog config target context = .ok m.dispatcher ∧
      m.taken = takenFirst target catalog.enums := by
  unfold Module.build
  constructor
  · intro built
    obtain ⟨d, own, made⟩ := bind_eq_ok_iff.1 built
    cases made
    exact ⟨own, rfl⟩
  · rintro ⟨own, taken⟩
    rw [own, ← taken]
    rfl

theorem Module.dispatcher_built (built : Module.build catalog config target context = .ok m) :
    Dispatcher.build catalog config target context = .ok m.dispatcher :=
  (Module.build_eq_ok_iff.1 built).1

end

section

variable {modifiers : List Modifier} {deprecations : NameTable String} {config : Configuration}
  {target : Target} {context : Context} {groups : List (List Modifier)}

/-- Without hand-written types and anything that is wrong with the module, all depends on the size
of the chunks and the enumerated types. -/
theorem build_of_readers {enums : List Enumeration} {readers : NameTable (Reader Value)}
    (faultless :
      moduleFault? ⟨modifiers, [], enums, deprecations, [], [], .empty⟩ config target = none)
    (grouped : Emit.chunks config.chunkSize.toInt modifiers = .ok groups)
    (known : enumReaders target enums = .ok readers) :
    Dispatcher.build ⟨modifiers, [], enums, deprecations, [], [], .empty⟩ config target context =
      .ok ⟨withEnums context.registry readers, groups, [], deprecations, fun
        | .text => config.textModifiers
        | .image => config.imageModifiers, context.custom, context.content⟩ := by
  unfold Dispatcher.build
  rw [faultless, grouped, known]
  rfl

theorem build_of_bare
    (faultless :
      moduleFault? ⟨modifiers, [], [], deprecations, [], [], .empty⟩ config target = none)
    (grouped : Emit.chunks config.chunkSize.toInt modifiers = .ok groups) :
    Dispatcher.build ⟨modifiers, [], [], deprecations, [], [], .empty⟩ config target context =
      .ok ⟨context.registry, groups, [], deprecations, fun
        | .text => config.textModifiers
        | .image => config.imageModifiers, context.custom, context.content⟩ := by
  have none : enumReaders target [] = .ok [] := by simp only [enumReaders, List.mergeSort_nil]; rfl
  exact build_of_readers faultless grouped none

end

namespace Dispatcher

variable {d : Dispatcher} {c c₁ : Cursor} {name : String} {metadata : Metadata Value}

/-! ## Built-in readers by name -/

/-- The entries of the retained modifiers, for modifiers that stand in groups of one size. -/
theorem retained_entries {size : Nat} {modifiers : List Modifier} (positive : 0 < size)
    (chunks : d.chunks = groups size modifiers) :
    (d.chunks.zipIdx.flatMap fun (group, index) =>
        group.map fun m => (m.name, d.chunkReader index m)) =
      modifiers.zipIdx.map fun x => (x.1.name, d.chunkReader (groupIndex size x.2) x.1) := by
  have all := flatMap_zipIdx_groups positive (fun m index => (m.name, d.chunkReader index m))
    modifiers 0
  rw [Nat.zero_mul] at all
  rw [chunks]
  exact all

/-- The last hand-written type of a name has it, whatever is retained. -/
theorem builtins_of_extra {before after : List (String × ExtraModifier)} {case_ : String}
    {e : ExtraModifier} (extras : d.extras = before ++ (case_, e) :: after)
    (last : ∀ x ∈ after, x.2.name ≠ e.name) :
    NameTable.get? d.builtins e.name = some (extraReader case_ e) := by
  rw [builtins, extras, List.map_append, List.map_cons, ← List.append_assoc]
  apply NameTable.get?_ofList_of_last
  intro x hx
  obtain ⟨y, hy, rfl⟩ := List.mem_map.1 hx
  exact last y hy

/-- Where no hand-written type has a name, the last retained modifier of the name has it. -/
theorem builtins_of_retained {size : Nat} {before after : List Modifier} {m : Modifier}
    (positive : 0 < size) (chunks : d.chunks = groups size (before ++ m :: after))
    (absent : ∀ x ∈ d.extras, x.2.name ≠ m.name) (last : ∀ n ∈ after, n.name ≠ m.name) :
    NameTable.get? d.builtins m.name =
      some (d.chunkReader (groupIndex size before.length) m) := by
  have others : ∀ x ∈ d.extras.map fun e => (e.2.name, extraReader e.1 e.2), x.1 ≠ m.name := by
    intro x hx
    obtain ⟨y, hy, rfl⟩ := List.mem_map.1 hx
    exact absent y hy
  rw [builtins, NameTable.get?_ofList_append_of_absent others, retained_entries positive chunks,
    List.zipIdx_append, List.zipIdx_cons, List.map_append, List.map_cons, Nat.zero_add]
  apply NameTable.get?_ofList_of_last
  intro x hx
  obtain ⟨y, hy, rfl⟩ := List.mem_map.1 hx
  exact last y.1 (List.fst_mem_of_mem_zipIdx hy)

/-- A name that nobody has. -/
theorem builtins_of_unknown {size : Nat} {modifiers : List Modifier} (positive : 0 < size)
    (chunks : d.chunks = groups size modifiers) (absent : ∀ x ∈ d.extras, x.2.name ≠ name)
    (unknown : ∀ m ∈ modifiers, m.name ≠ name) : NameTable.get? d.builtins name = none := by
  rw [builtins, retained_entries positive chunks]
  apply NameTable.get?_ofList_eq_none
  intro x hx
  rcases List.mem_append.1 hx with hx | hx
  · obtain ⟨y, hy, rfl⟩ := List.mem_map.1 hx
    exact unknown y.1 (List.fst_mem_of_mem_zipIdx hy)
  · obtain ⟨y, hy, rfl⟩ := List.mem_map.1 hx
    exact absent y hy

theorem readBuiltin_of_some {r : Reader Dispatched} (h : NameTable.get? d.builtins name = some r) :
    d.readBuiltin name metadata = r := by
  rw [readBuiltin, h]

theorem readBuiltin_of_none (h : NameTable.get? d.builtins name = none) :
    d.readBuiltin name metadata = throw (.modifier (d.nameError name) metadata) := by
  rw [readBuiltin, h]

theorem run'_extraReader_eq_ok_iff {case_ : String} {e : ExtraModifier} {found : Dispatched}
    {c' : Cursor} :
    (extraReader case_ e).run' c = (.ok found, c') ↔
      ∃ v, e.reader.run' c = (.ok v, c') ∧ found = ⟨.extra case_, .value v⟩ := by
  rw [extraReader, run'_bind_eq_ok_iff]
  constructor
  · rintro ⟨v, c₂, run, hfound⟩
    cases hfound
    exact ⟨v, run, rfl⟩
  · rintro ⟨v, run, rfl⟩
    exact ⟨v, c', run, rfl⟩

theorem run'_chunkReader_eq_ok_iff {index : Nat} {m : Modifier}
    (head : callHead.run' c = (.ok (m.name, metadata), c₁)) {found : Dispatched} {c' : Cursor} :
    (d.chunkReader index m).run' c = (.ok found, c') ↔
      ∃ k s values, AcceptsFirst d.registry m.signatures c₁ c' k s values ∧
        found = ⟨.chunk index, .modifier ⟨m, k, s, values, metadata⟩⟩ := by
  rw [chunkReader, run'_bind_eq_ok_iff]
  constructor
  · rintro ⟨p, c₂, run, hfound⟩
    obtain ⟨k, s, values, rfl, accepts⟩ := (run'_readModifier_eq_ok_iff head).1 run
    cases hfound
    exact ⟨k, s, values, accepts, rfl⟩
  · rintro ⟨k, s, values, accepts, rfl⟩
    exact ⟨_, c', (run'_readModifier_eq_ok_iff head).2 ⟨k, s, values, rfl, accepts⟩, rfl⟩

/-! ## What happens to a call -/

/-- What the built-in reader accepts is the result, whatever else there is to try. -/
theorem run'_read_of_builtin (head : callHead.run' c = (.ok (name, metadata), c₁))
    {found : Dispatched} {c' : Cursor}
    (builtin : (d.readBuiltin name metadata).run' c = (.ok found, c')) :
    d.read.run' c = (.ok found, c') := by
  rw [run'_read head, builtin]

section Fallbacks

variable {catalog : Catalog} {config : Configuration} {context : Context}

/-- The kinds of content whose modifiers have a name, tried before the host's own reader. -/
theorem run'_readContent_text (built : BuiltFrom catalog config context d)
    (head : callHead.run' c = (.ok (name, metadata), c₁)) :
    (d.readContent .text).run' c =
      if config.textModifiers.contains name then
        ((context.content .text).getD anyModifier).run' c
      else (.error (.malformed ⟨.notHandled name .text, c.current.position⟩), c) := by
  rw [run'_readContent .text head, built.textNames, built.content]

theorem run'_readContent_image (built : BuiltFrom catalog config context d)
    (head : callHead.run' c = (.ok (name, metadata), c₁)) :
    (d.readContent .image).run' c =
      if config.imageModifiers.contains name then
        ((context.content .image).getD anyModifier).run' c
      else (.error (.malformed ⟨.notHandled name .image, c.current.position⟩), c) := by
  rw [run'_readContent .image head, built.imageNames, built.content]

/-- If the built-in reader fails, the result is that of the first other reader that accepts; if
there is none, the two failures that count decide what is reported. -/
theorem run'_read_of_fails (built : BuiltFrom catalog config context d)
    (head : callHead.run' c = (.ok (name, metadata), c₁)) {failure : Failure} {c₂ : Cursor}
    (builtin : (d.readBuiltin name metadata).run' c = (.error failure, c₂)) :
    d.read.run' c =
      match (fallbacks config context name).findSome? (accepted? c) with
      | some (found, c') => (.ok found, c')
      | none =>
        match context.custom.run' c with
        | (.ok v, c') => (.ok ⟨.custom, .value v⟩, c')
        | (.error e, _) => (.error (d.finalFailure name metadata failure e), c) := by
  have text := run'_readContent_text built head
  have image := run'_readContent_image built head
  rw [run'_read head, builtin, built.custom, fallbacks, List.findSome?_append,
    List.findSome?_append, findSome?_accepted_ite c _ _ _ _, ← text,
    findSome?_accepted_ite c _ _ _ _, ← image, List.findSome?_singleton]
  rcases (d.readContent .text).run' c with ⟨e | v, c'⟩
  · rcases (d.readContent .image).run' c with ⟨e | v, c'⟩
    · rcases custom : context.custom.run' c with ⟨e | v, c'⟩
      · rw [accepted?_eq_none_iff.2 ⟨e, c', custom⟩]
        rfl
      · rw [accepted?_of_ok custom]
        rfl
    · rfl
  · rfl

end Fallbacks

/-! ## The order -/

/-- A list has a last element with a property, unless it has none at all. -/
theorem absent_or_exists_last {α : Type} (p : α → Prop) [DecidablePred p] (xs : List α) :
    (∀ x ∈ xs, ¬p x) ∨ ∃ before x after, xs = before ++ x :: after ∧ p x ∧ ∀ y ∈ after, ¬p y := by
  induction xs with
  | nil => exact .inl (by simp)
  | cons x xs ih =>
    rcases ih with absent | ⟨before, y, after, rfl, hy, last⟩
    · by_cases hx : p x
      · exact .inr ⟨[], x, xs, rfl, hx, absent⟩
      · exact .inl (by simpa using ⟨hx, absent⟩)
    · exact .inr ⟨x :: before, y, after, rfl, hy, last⟩

/-- The built-in reader of a name takes a call. It is the one of the last hand-written type with
the name or, without such a type, the one of the last retained modifier with the name, which takes
the call by its first overload that accepts what stands behind the head. -/
inductive TakesBuiltin (d : Dispatcher) (size : Nat) (modifiers : List Modifier) (c c₁ : Cursor)
    (name : String) (metadata : Metadata Value) : Dispatched → Cursor → Prop where
  | extra (before after : List (String × ExtraModifier)) (tag : String) (e : ExtraModifier)
      (v : Value) (c' : Cursor) (extras_eq : d.extras = before ++ (tag, e) :: after)
      (named : e.name = name) (last : ∀ x ∈ after, x.2.name ≠ name)
      (run : e.reader.run' c = (.ok v, c')) :
      TakesBuiltin d size modifiers c c₁ name metadata ⟨.extra tag, .value v⟩ c'
  | retained (before after : List Modifier) (m : Modifier) (k : Nat) (s : Signature)
      (values : List Value) (c' : Cursor) (absent : ∀ x ∈ d.extras, x.2.name ≠ name)
      (modifiers_eq : modifiers = before ++ m :: after) (named : m.name = name)
      (last : ∀ n ∈ after, n.name ≠ name)
      (accepts : AcceptsFirst d.registry m.signatures c₁ c' k s values) :
      TakesBuiltin d size modifiers c c₁ name metadata
        ⟨.chunk (groupIndex size before.length), .modifier ⟨m, k, s, values, metadata⟩⟩ c'

/-- The failure that is reported for a name by the failures of its built-in reader and of the host's
own reader. -/
inductive Reports (deprecations : NameTable String) (name : String) (metadata : Metadata Value)
    (builtin custom : Failure) : Failure → Prop where
  | deprecated (message : String) (blamed : custom.isModifierError = true)
      (known : NameTable.get? deprecations name = some message) :
      Reports deprecations name metadata builtin custom
        (.modifier (.deprecated name message) metadata)
  | custom (blamed : custom.isModifierError = true)
      (current : NameTable.get? deprecations name = none) :
      Reports deprecations name metadata builtin custom custom
  | builtin (other : custom.isModifierError = false) :
      Reports deprecations name metadata builtin custom builtin

theorem reports_finalFailure (builtin custom : Failure) :
    Reports d.deprecations name metadata builtin custom
      (d.finalFailure name metadata builtin custom) := by
  unfold finalFailure
  by_cases blamed : custom.isModifierError = true
  · rw [if_pos blamed]
    rcases known : NameTable.get? d.deprecations name with _ | message
    · exact .custom blamed known
    · exact .deprecated message blamed known
  · rw [if_neg blamed]
    exact .builtin (Bool.eq_false_iff.2 blamed)

/-- What the built-in reader of a name makes of a call. -/
theorem run'_readBuiltin_eq_ok_iff {size : Nat} {modifiers : List Modifier} (positive : 0 < size)
    (chunks : d.chunks = groups size modifiers)
    (head : callHead.run' c = (.ok (name, metadata), c₁)) {found : Dispatched} {c' : Cursor} :
    (d.readBuiltin name metadata).run' c = (.ok found, c') ↔
      TakesBuiltin d size modifiers c c₁ name metadata found c' := by
  constructor
  · intro run
    rcases absent_or_exists_last (fun x => x.2.name = name) d.extras with
      absent | ⟨before, ⟨tag, e⟩, after, extras, rfl, last⟩
    · rcases absent_or_exists_last (fun m => m.name = name) modifiers with
        unknown | ⟨before, m, after, rfl, rfl, last⟩
      · rw [readBuiltin_of_none (builtins_of_unknown positive chunks absent unknown)] at run
        cases run
      · rw [readBuiltin_of_some (builtins_of_retained positive chunks absent last)] at run
        obtain ⟨k, s, values, accepts, rfl⟩ := (run'_chunkReader_eq_ok_iff head).1 run
        exact .retained before after m k s values c' absent rfl rfl last accepts
    · rw [readBuiltin_of_some (builtins_of_extra extras last)] at run
      obtain ⟨v, taken, rfl⟩ := run'_extraReader_eq_ok_iff.1 run
      exact .extra before after tag e v c' extras rfl last taken
  · intro takes
    cases takes with
    | extra before after tag e v c' extras named last run =>
      subst named
      rw [readBuiltin_of_some (builtins_of_extra extras last)]
      exact run'_extraReader_eq_ok_iff.2 ⟨v, run, rfl⟩
    | retained before after m k s values c' absent modifiers named last accepts =>
      subst modifiers named
      rw [readBuiltin_of_some (builtins_of_retained positive chunks absent last)]
      exact (run'_chunkReader_eq_ok_iff head).2 ⟨k, s, values, accepts, rfl⟩

/-- What becomes of a call by its alternatives in their order. -/
structure ReadsInOrder (catalog : Catalog) (config : Configuration) (context : Context)
    (d : Dispatcher) (c c₁ : Cursor) (name : String) (metadata : Metadata Value) : Prop where
  /-- What the built-in reader takes is the result, whatever the other readers are. -/
  builtin : ∀ found c',
    TakesBuiltin d config.chunkSize.toInt.toNat catalog.modifiers c c₁ name metadata found c' →
    ∀ names custom content,
      (⟨d.registry, d.chunks, d.extras, d.deprecations, names, custom, content⟩ :
        Dispatcher).read.run' c = (.ok found, c')
  /-- What it does not take is taken by the first other reader that accepts. -/
  fallback :
    (¬∃ found c',
      TakesBuiltin d config.chunkSize.toInt.toNat catalog.modifiers c c₁ name metadata found c') →
    ∀ found c', (fallbacks config context name).findSome? (accepted? c) = some (found, c') →
      d.read.run' c = (.ok found, c')
  /-- If nobody takes the call, two of the failures decide what is reported. -/
  failure :
    (¬∃ found c',
      TakesBuiltin d config.chunkSize.toInt.toNat catalog.modifiers c c₁ name metadata found c') →
    (∀ x ∈ fallbacks config context name, FailsAt x.2 c) →
    ∃ builtin custom reported c₂ c₃,
      (d.readBuiltin name metadata).run' c = (.error builtin, c₂) ∧
      context.custom.run' c = (.error custom, c₃) ∧
      Reports catalog.deprecations name metadata builtin custom reported ∧
      d.read.run' c = (.error reported, c)
  /-- The built-in reader of a name that nobody has complains about the name. -/
  unknown : (∀ x ∈ d.extras, x.2.name ≠ name) → (∀ m ∈ catalog.modifiers, m.name ≠ name) →
    (d.readBuiltin name metadata).run' c = (.error (.modifier (d.nameError name) metadata), c)

theorem readsInOrder_of_builtFrom {catalog : Catalog} {config : Configuration} {context : Context}
    (parts : BuiltFrom catalog config context d)
    (head : callHead.run' c = (.ok (name, metadata), c₁)) :
    ReadsInOrder catalog config context d c c₁ name metadata := by
  have taken {found : Dispatched} {c' : Cursor} :
      (d.readBuiltin name metadata).run' c = (.ok found, c') ↔
        TakesBuiltin d config.chunkSize.toInt.toNat catalog.modifiers c c₁ name metadata found c' :=
    run'_readBuiltin_eq_ok_iff parts.positive parts.chunks head
  refine ⟨?builtin, ?fallback, ?failure, ?unknown⟩
  case builtin =>
    intro found c' takes names custom content
    exact run'_read_of_builtin head (taken.2 takes)
  case fallback =>
    intro free found c' first
    rcases run : (d.readBuiltin name metadata).run' c with ⟨failure | found', c₂⟩
    · rw [run'_read_of_fails parts head run, first]
    · exact (free ⟨found', c₂, taken.1 run⟩).elim
  case failure =>
    intro free fails
    have none : (fallbacks config context name).findSome? (accepted? c) = none := by
      rw [List.findSome?_eq_none_iff]
      intro x hx
      exact accepted?_eq_none_iff.2 (fails x hx)
    rcases run : (d.readBuiltin name metadata).run' c with ⟨failure | found', c₂⟩
    · obtain ⟨e, c₃, custom⟩ := fails (.custom, context.custom) (by simp [fallbacks])
      refine ⟨failure, e, d.finalFailure name metadata failure e, c₂, c₃, rfl, custom, ?_, ?_⟩
      · rw [← parts.deprecations]
        exact reports_finalFailure failure e
      · rw [run'_read_of_fails parts head run, none, custom]
    · exact (free ⟨found', c₂, taken.1 run⟩).elim
  case unknown =>
    intro absent unknown
    rw [readBuiltin_of_none (builtins_of_unknown parts.positive parts.chunks absent unknown)]
    rfl

/-- **The order of the alternatives.** Every built module tries the alternatives of a call in their
order, unless a class has taken a name by which calls are read, and then it reads none. -/
theorem read_in_order {catalog : Catalog} {config : Configuration} {target : Target}
    {context : Context} {m : Module}
    (built : Module.build catalog config target context = .ok m)
    (head : callHead.run' c = (.ok (name, metadata), c₁)) :
    (m.ReadsCalls → m.read.run' c = m.dispatcher.read.run' c ∧
      ReadsInOrder catalog config context m.dispatcher c c₁ name metadata) ∧
    (¬m.ReadsCalls → FailsAt m.read c) := by
  refine ⟨fun free => ⟨Module.run'_read_of_readsCalls free c, ?_⟩,
    fun taken => Module.failsAt_of_not_readsCalls taken c⟩
  exact readsInOrder_of_builtFrom (builtFrom_of_build (Module.dispatcher_built built)).1 head

/-! ## A type that cannot be made

The second overload of `fade` accepts the call of `fadeCall`. The first one has a type that its
factory refuses. That is no fault of a stylesheet, so the second overload is never tried.
-/

def unlabelled (type : Interface.TypeExpr) : Parameter := ⟨wildcard, none, type, false⟩

def fade : Modifier where
  name := "fade"
  signatures := [
    ⟨[unlabelled (.named "Set" [.named "String" [], .named "String" []])]⟩,
    ⟨[unlabelled (.named "String" [])]⟩]

def fadeCatalog : Catalog := ⟨[fade], [], [], [], [], [], .empty⟩

def fader : Dispatcher where
  registry := .standard
  chunks := [[fade]]
  extras := []
  deprecations := []
  names := fun
    | .text => []
    | .image => []
  custom := rejectCustom
  content := fun _ => none

def fadeArguments : Cursor where
  ahead := [sign .comma, sign .openBracket, word .string "x", sign .closeBracket,
    sign .closeBrace]
  finish := .start

def fadeCall : Cursor where
  ahead := [sign .openBrace, word .name "fade", sign .comma, sign .openBracket,
    sign .closeBracket] ++ fadeArguments.ahead
  finish := .start

def fadeMetadata : Metadata Value := ⟨.number 1, 1, none, .null, none⟩

theorem fader_built : Dispatcher.build fadeCatalog .plain ⟨"iOS", [17]⟩ {} = .ok fader :=
  build_of_bare (by decide) rfl

theorem fade_head : callHead.run' fadeCall = (.ok ("fade", fadeMetadata), fadeArguments) := by
  have entries : (bracketed .metadata (metadataEntry any)).run'
      ⟨fadeCall.ahead.drop 3, .start⟩ = (.ok [], fadeArguments) :=
    run'_bracketed_of_empty rfl rfl
  have whole : metadata.run' ⟨fadeCall.ahead.drop 3, .start⟩ = (.ok fadeMetadata, fadeArguments) :=
    run'_bind_of_ok entries
  exact run'_bind_of_ok whole

theorem fadeModule_built : Module.build fadeCatalog .plain ⟨"iOS", [17]⟩ {} = .ok ⟨fader, []⟩ :=
  Module.build_eq_ok_iff.2 ⟨fader_built, rfl⟩

/-- The order holds for the calls of `fade`. -/
theorem fade_read_in_order :
    Module.build fadeCatalog .plain ⟨"iOS", [17]⟩ {} = .ok ⟨fader, []⟩ ∧
      callHead.run' fadeCall = (.ok ("fade", fadeMetadata), fadeArguments) ∧
      ReadsInOrder fadeCatalog .plain {} fader fadeCall fadeArguments "fade" fadeMetadata := by
  obtain ⟨-, order⟩ := (read_in_order fadeModule_built fade_head).1 ⟨rfl, rfl⟩
  exact ⟨fadeModule_built, fade_head, order⟩

theorem run'_read_fade :
    fader.read.run' fadeCall = (.error (.wrongArity "Set<String, String>"), fadeCall) := by
  have builtin : (fader.readBuiltin "fade" fadeMetadata).run' fadeCall =
      (.error (.wrongArity "Set<String, String>"), ⟨fadeArguments.ahead.drop 2, .start⟩) := by
    refine run'_bind_of_error ?_
    rw [run'_readModifier fade_head]
    rfl
  rw [run'_read fade_head, builtin, run'_readContent .text fade_head,
    run'_readContent .image fade_head]
  rfl

/-- It is not enough for an overload to be the first one that accepts a call, even if readers of
values blame nothing but the stylesheet. -/
theorem not_first_accepting_overload :
    ¬∀ (catalog : Catalog) (config : Configuration) (target : Target) (context : Context)
      (loaded : Module) (c c₁ : Cursor) (name : String) (metadata : Metadata Value),
      Module.build catalog config target context = .ok loaded →
      callHead.run' c = (.ok (name, metadata), c₁) →
      ∀ (m : Modifier), m ∈ catalog.modifiers → m.name = name →
      (∀ x ∈ loaded.dispatcher.extras, x.2.name ≠ name) →
      (∀ s ∈ m.signatures, ∀ p ∈ s.parameters, ∀ r,
        loaded.dispatcher.registry.find p.type.text = .ok r →
        ∀ c e c', r.run' c = (.error e, c') → e.isStylesheet = true) →
      ∀ (k : Nat) (s : Signature) (values : List Value) (c' : Cursor), m.signatures[k]? = some s →
      (overloadArguments loaded.dispatcher.registry s).run' c₁ = (.ok values, c') →
      (∀ j < k, ∀ t, m.signatures[j]? = some t →
        FailsAt (overloadArguments loaded.dispatcher.registry t) c₁) →
      ∃ index, loaded.read.run' c =
        (.ok ⟨.chunk index, .modifier ⟨m, k, s, values, metadata⟩⟩, c') := by
  intro claim
  have blamed : ∀ s ∈ fade.signatures, ∀ p ∈ s.parameters, ∀ r,
      fader.registry.find p.type.text = .ok r →
      ∀ c e c', r.run' c = (.error e, c') → e.isStylesheet = true := by
    intro s hs p hp r found c e c' run
    simp only [fade, List.mem_cons, List.not_mem_nil, or_false] at hs
    rcases hs with rfl | rfl
    · obtain rfl := List.mem_singleton.1 hp
      cases found
    · obtain rfl := List.mem_singleton.1 hp
      cases found
      rw [string, run'_bind, run'_expectAs] at run
      by_cases there : c.current.kind = .string
      · rw [if_pos there] at run
        cases run
      · rw [if_neg there] at run
        cases run
        rfl
  have fails : ∀ j < 1, ∀ t, fade.signatures[j]? = some t →
      FailsAt (overloadArguments fader.registry t) fadeArguments := by
    intro j hj t ht
    obtain rfl : j = 0 := by omega
    cases ht
    exact ⟨_, _, rfl⟩
  obtain ⟨index, run⟩ := claim _ _ _ _ _ _ _ _ _ fadeModule_built fade_head fade (by decide) rfl
    (by simp [fader]) blamed 1 _ [.text "x"] ⟨[], .start⟩ rfl rfl fails
  rw [Module.run'_read_of_readsCalls ⟨rfl, rfl⟩, run'_read_fade] at run
  cases run

end Dispatcher

/-! ## A class that takes a name

An interface with a modifier and a type with one case, whose class has the name of something that
reading begins with.
-/

namespace Module

/-- A modifier that takes a text. -/
def dim : Modifier := ⟨"fade", [⟨[Dispatcher.unlabelled (.named "String" [])]⟩]⟩

def takingCatalog (name case_ : String) : Catalog :=
  ⟨[dim], [], [openType name [case_]], [], [], [], .empty⟩

def takingModule (name case_ : String) : Module where
  dispatcher :=
    { Dispatcher.fader with
      registry := withEnums .standard [(name, Reader.member (openTable name [case_]))]
      chunks := [[dim]] }
  taken := [classOf (openType name [case_])]

theorem takingModule_built (name case_ : String)
    (faultless : moduleFault? (takingCatalog name case_) .plain ⟨"iOS", [17]⟩ = none)
    (free : classOrder ∉ (classOf (openType name [case_])).members)
    (takes : normalForm (classOf (openType name [case_])).name ∈ firstNames) :
    Module.build (takingCatalog name case_) .plain ⟨"iOS", [17]⟩ {} =
      .ok (takingModule name case_) := by
  have reads : enumReader? ⟨"iOS", [17]⟩ (openType name [case_]) (openTable name [case_]) =
      .ok (some (Reader.member (openTable name [case_]))) :=
    enumReader?_eq_some_iff.2 ⟨rfl, List.nodup_singleton _, free, rfl⟩
  have known := enumReaders_singleton (targetCases_openType _ _ _) reads
  refine Module.build_eq_ok_iff.2 ⟨build_of_readers faultless rfl known, ?_⟩
  change [classOf (openType name [case_])] = List.filter _ [classOf (openType name [case_])]
  refine (List.filter_eq_self.2 fun k there => ?_).symm
  obtain rfl := List.mem_singleton.1 there
  exact List.contains_iff_mem.2 takes

end Module

end ViewModifiers.Dispatch
