import ViewModifiers.Catalog.Parseable
import ViewModifiers.Emit.ModuleCode
import ViewModifiers.Proofs.Catalog.Partition
import ViewModifiers.Proofs.Dispatch.Precedence

/-!
# Chunks and the cases of a dispatcher

The names of a catalog are cut into groups once for the text of the generated module, and its
modifiers are cut once more for the dispatcher. Both cuts have the same groups, the module declares
one chunk and one case for each of them, and what a dispatcher returns carries a case that is
declared. Hence checking the case of what was read never fails (`chunks_fit`). What the reader of a
modifier takes comes back with the case of its chunk, unless a class has taken a name by which the
module reads calls.
-/

namespace ViewModifiers.Dispatch

open Catalog Config Emit Stylesheet Text Reader

/-! ## Groups of names -/

/-- The names of a catalog in groups of a size. -/
structure Grouped (names : List String) (size : Nat) (gs : List (List String)) : Prop where
  /-- Nothing is lost and the order is kept. -/
  whole : gs.flatten = names
  /-- A group with another one behind it is full. -/
  full : ∀ (k : Nat) (g : List String), gs[k]? = some g → k + 1 < gs.length → g.length = size
  inhabited : ∀ g ∈ gs, 1 ≤ g.length ∧ g.length ≤ size
  /-- The name at an index stands in the group whose number is the quotient. -/
  placed : ∀ i : Nat, gs[i / size]?.bind (·[i % size]?) = names[i]?
  indexed : ∀ (i : Nat) (name : String), names[i]? = some name →
    NameTable.get? (groupIndices size names) name = some (i / size)

theorem grouped_groups {names : List String} {size : Nat} (positive : 0 < size)
    (distinct : names.Nodup) : Grouped names size (groups size names) where
  whole := flatten_groups positive names
  full := fun _ _ there more => length_of_not_last positive there more
  inhabited := fun _ there => length_of_mem_groups positive there
  placed := getElem?_getElem?_groups positive names
  indexed := fun _ _ there => get?_groupIndices distinct there

/-! ## The text of the module -/

theorem infix_joinWith {between s : String} {parts : List String} (there : s ∈ parts) :
    s.toList <:+: (joinWith between parts).toList := by
  induction parts with
  | nil => cases there
  | cons p rest ih =>
    cases rest with
    | nil =>
      obtain rfl := List.mem_singleton.1 there
      exact List.infix_rfl
    | cons q rest =>
      rw [joinWith, String.toList_append, String.toList_append]
      rcases List.mem_cons.1 there with rfl | there
      · exact ((List.prefix_append _ _).trans (List.prefix_append _ _)).isInfix
      · exact (ih there).trans (List.suffix_append _ _).isInfix

/-- What the text of a module says about chunks: a class for each group with its names, a line that
lists the classes, and a tuple of the cases. -/
structure DeclaresChunks (extraTypes : List String) (gs : List (List String))
    (text : String) : Prop where
  classes : ∀ (k : Nat) (g : List String), gs[k]? = some g →
    (chunkCode k g).toList <:+: text.toList
  chunks : ("CHUNKS = (" ++ joinWith ", " ((List.range gs.length).map chunkClass) ++
    (if gs.length = 1 then "," else "") ++ ")").toList <:+: text.toList
  cases : ("    CASES = " ++ replaceChar '\n' ("\n" ++ indent) (tupleLines
    ((List.range gs.length).map (fun k => "chunk" ++ toString k) ++ extraTypes.map extraCase ++
      ["_customRegistryModifier", "_anyTextModifier", "_anyImageModifier"]))).toList <:+:
    text.toList

theorem labels_unionCases (extraTypes : List String) (count : Nat) :
    (unionCases extraTypes count).map (·.label) =
      (List.range count).map (fun k => "chunk" ++ toString k) ++ extraTypes.map extraCase ++
        ["_customRegistryModifier", "_anyTextModifier", "_anyImageModifier"] := by
  simp only [unionCases, List.map_append, List.map_map, List.map_cons, List.map_nil]
  rfl

theorem declaresChunks_of_moduleCode {c : Catalog} {config : Configuration} {command text : String}
    {gs : List (List String)} (grouped : catalogChunks c config = .ok gs)
    (made : moduleCode c config command = .ok text) :
    DeclaresChunks c.extraModifierTypes gs text := by
  obtain ⟨again, grouped', made⟩ := bind_eq_ok_iff.1 made
  obtain rfl : gs = again := Except.ok.inj (grouped.symm.trans grouped')
  obtain ⟨enums, -, made⟩ := bind_eq_ok_iff.1 made
  obtain rfl := Except.ok.inj made
  -- everything in question is part of one block of the module
  have block {s b : String} (within : s.toList <:+: b.toList)
      (listed : b ∈ headerCode command :: c.modifiers.map modifierCode ++
        (if gs.isEmpty then [] else [chunksCode gs]) ++
        [tablesCode c config gs.length, enums, joinWith "\n" dispatcherLines]) :
      s.toList <:+: (joinWith "\n\n\n" (headerCode command :: c.modifiers.map modifierCode ++
        (if gs.isEmpty then [] else [chunksCode gs]) ++
        [tablesCode c config gs.length, enums, joinWith "\n" dispatcherLines]) ++
        "\n").toList := by
    rw [String.toList_append]
    exact (within.trans (infix_joinWith listed)).trans (List.prefix_append _ _).isInfix
  refine ⟨?classes, ?chunks, ?cases⟩
  case classes =>
    intro k g there
    have some : gs.isEmpty = false :=
      List.isEmpty_eq_false_iff.2 (List.ne_nil_of_mem (List.mem_of_getElem? there))
    have within : (chunkCode k g).toList <:+: (chunksCode gs).toList :=
      infix_joinWith (List.mem_map.2 ⟨(g, k), List.mem_zipIdx_iff_getElem?.2 there, rfl⟩)
    exact block within (by simp [some])
  case chunks =>
    exact block (b := tablesCode c config gs.length) (infix_joinWith List.mem_cons_self) (by simp)
  case cases =>
    rw [← labels_unionCases]
    exact block (b := tablesCode c config gs.length) (infix_joinWith (by simp)) (by simp)

/-! ## Cases of what is read -/

theorem map_fst_extrasFor {extras : NameTable ExtraModifier} {types : List String}
    {found : List (String × ExtraModifier)} (made : extrasFor extras types = .ok found) :
    found.map (·.1) = types.map extraCase := by
  have each := mapM_eq_ok_iff.1 made
  clear made
  induction each with
  | nil => rfl
  | @cons t x types found one rest ih =>
    rw [List.map_cons, List.map_cons, ih]
    rcases known : NameTable.get? extras (extraCase t) with _ | e
    · rw [known] at one
      cases one
    · rw [known] at one
      cases one
      rfl

section Dispatcher

variable {catalog : Catalog} {config : Configuration} {context : Context} {d : Dispatcher}
  {c c₁ c' : Cursor} {found : Dispatched}

/-- The dispatcher has a chunk for each group of names, with the modifiers of the names. -/
theorem BuiltFrom.chunkNames (built : BuiltFrom catalog config context d) :
    d.chunks.map (·.map (·.name)) = groups config.chunkSize.toInt.toNat catalog.names := by
  rw [built.chunks, Catalog.names, groups_map]

theorem BuiltFrom.length_chunks (built : BuiltFrom catalog config context d) :
    d.chunks.length = groupCount config.chunkSize.toInt.toNat catalog.modifiers.length := by
  rw [built.chunks, length_groups]

/-- The cases of the dispatcher are those that the module declares. -/
theorem BuiltFrom.cases_eq (built : BuiltFrom catalog config context d) :
    d.cases = unionCases catalog.extraModifierTypes d.chunks.length := by
  have extras : d.extras.map (fun e => UnionCase.extra e.1) =
      catalog.extraModifierTypes.map fun t => .extra (extraCase t) := by
    have named := congrArg (List.map UnionCase.extra) (map_fst_extrasFor built.extras)
    rw [List.map_map, List.map_map] at named
    exact named
  rw [Dispatcher.cases, unionCases, extras]

/-- The case of what the built-in reader of a name takes. -/
theorem case_mem_of_takesBuiltin {name : String} {metadata : Metadata Value}
    (built : BuiltFrom catalog config context d)
    (takes : Dispatcher.TakesBuiltin d config.chunkSize.toInt.toNat catalog.modifiers c c₁ name
      metadata found c') : found.case ∈ d.cases := by
  rw [Dispatcher.cases]
  cases takes with
  | extra before after tag e v c' extras named last run =>
    have there : UnionCase.extra tag ∈ d.extras.map fun e => UnionCase.extra e.1 :=
      List.mem_map.2 ⟨(tag, e), by simp [extras], rfl⟩
    exact List.mem_append_left _ (List.mem_append_right _ there)
  | retained before after m k s values c' absent modifiers named last accepts =>
    have small : groupIndex config.chunkSize.toInt.toNat before.length < d.chunks.length := by
      have low := Nat.div_mul_le_self before.length config.chunkSize.toInt.toNat
      rw [built.length_chunks, lt_groupCount_iff built.positive, modifiers, List.length_append,
        List.length_cons]
      exact Nat.lt_of_le_of_lt low (by omega)
    exact List.mem_append_left _ (List.mem_append_left _
      (List.mem_map.2 ⟨_, List.mem_range.2 small, rfl⟩))

theorem case_mem_of_readBuiltin {name : String} {metadata : Metadata Value}
    (built : BuiltFrom catalog config context d)
    (head : callHead.run' c = (.ok (name, metadata), c₁))
    (run : (d.readBuiltin name metadata).run' c = (.ok found, c')) : found.case ∈ d.cases :=
  case_mem_of_takesBuiltin built
    ((Dispatcher.run'_readBuiltin_eq_ok_iff built.positive built.chunks head).1 run)

/-- The case of what is read is one of the dispatcher. -/
theorem case_mem_of_read (built : BuiltFrom catalog config context d)
    (run : d.read.run' c = (.ok found, c')) : found.case ∈ d.cases := by
  have fixed {case_ : UnionCase} (there : case_ ∈ [.custom, .anyText, .anyImage]) :
      case_ ∈ d.cases := List.mem_append_right _ there
  rcases head : callHead.run' c with ⟨e | ⟨name, metadata⟩, c₁⟩
  · rw [Dispatcher.run'_read_of_no_head head] at run
    cases run
  · rw [Dispatcher.run'_read head] at run
    rcases builtin : (d.readBuiltin name metadata).run' c with ⟨failure | found', c₂⟩
    · rw [builtin] at run
      rcases text : (d.readContent .text).run' c with ⟨e | v, c₃⟩
      · rw [text] at run
        rcases image : (d.readContent .image).run' c with ⟨e | v, c₄⟩
        · rw [image] at run
          rcases custom : d.custom.run' c with ⟨e | v, c₅⟩
          · rw [custom] at run
            cases run
          · rw [custom] at run
            cases run
            exact fixed (by simp)
        · rw [image] at run
          cases run
          exact fixed (by simp)
      · rw [text] at run
        cases run
        exact fixed (by simp)
    · rw [builtin] at run
      cases run
      exact case_mem_of_readBuiltin built head builtin

/-! ## A checked dispatcher -/

/-- What was read, if its case is among those declared. -/
def expectCase (labels : List String) (surprise : Failure) (found : Dispatched) :
    Reader Dispatched :=
  if labels.contains found.case.label then return found else throw surprise

/-- Reads a call and checks the case of everything that is made on the way. -/
def Dispatcher.readChecked (d : Dispatcher) (labels : List String) (surprise : Failure) :
    Reader Dispatched := do
  let (name, metadata) ← lookingAhead callHead
  match ← attemptAny (d.readBuiltin name metadata >>= expectCase labels surprise) with
  | .ok found => return found
  | .error builtinFailure =>
    if let .ok v ← attemptAny (d.readContent .text) then
      expectCase labels surprise ⟨.anyText, .value v⟩
    else if let .ok v ← attemptAny (d.readContent .image) then
      expectCase labels surprise ⟨.anyImage, .value v⟩
    else
      match ← attemptAny d.custom with
      | .ok v => expectCase labels surprise ⟨.custom, .value v⟩
      | .error customFailure =>
        throw (d.finalFailure name metadata builtinFailure customFailure)

theorem expectCase_of_mem {cases : List UnionCase} (surprise : Failure)
    (declared : found.case ∈ cases) :
    expectCase (cases.map (·.label)) surprise found = pure found := by
  rw [expectCase, if_pos (List.contains_iff_mem.2 (List.mem_map_of_mem declared))]

/-- A check of what is read does nothing where all that can be read passes it. -/
theorem run'_bind_of_passes {α : Type} {r : Reader α} {check : α → Reader α}
    (passes : ∀ a c', r.run' c = (.ok a, c') → check a = pure a) :
    (r >>= check).run' c = r.run' c := by
  rw [run'_bind]
  rcases run : r.run' c with ⟨e | a, c'⟩
  · rfl
  · simp only [passes a c' run, run'_pure]

theorem run'_readChecked (built : BuiltFrom catalog config context d) (surprise : Failure)
    (c : Cursor) :
    (d.readChecked (d.cases.map (·.label)) surprise).run' c = d.read.run' c := by
  have declared {case_ : UnionCase} {v : Value} (there : case_ ∈ [.custom, .anyText, .anyImage]) :
      expectCase (d.cases.map (·.label)) surprise ⟨case_, .value v⟩ =
        pure ⟨case_, .value v⟩ :=
    expectCase_of_mem surprise (List.mem_append_right _ there)
  rcases head : callHead.run' c with ⟨e | ⟨name, metadata⟩, c₁⟩
  · have ahead : (lookingAhead callHead).run' c = (.error e, c) := by rw [run'_lookingAhead, head]
    rw [Dispatcher.run'_read_of_no_head head, Dispatcher.readChecked, run'_bind_of_error ahead]
  · have ahead : (lookingAhead callHead).run' c = (.ok (name, metadata), c) := by
      rw [run'_lookingAhead, head]
    have checked : (d.readBuiltin name metadata >>= expectCase (d.cases.map (·.label))
        surprise).run' c = (d.readBuiltin name metadata).run' c :=
      run'_bind_of_passes fun _ _ run =>
        expectCase_of_mem surprise (case_mem_of_readBuiltin built head run)
    rw [Dispatcher.readChecked, run'_bind_of_ok ahead, Dispatcher.run'_read head]
    rcases builtin : (d.readBuiltin name metadata).run' c with ⟨failure | found, c'⟩
    · rw [run'_bind_of_ok (run'_attemptAny_of_error (checked.trans builtin))]
      rcases text : (d.readContent .text).run' c with ⟨e | v, c'⟩
      · simp only [run'_bind_of_ok (run'_attemptAny_of_error text)]
        rcases image : (d.readContent .image).run' c with ⟨e | v, c'⟩
        · simp only [run'_bind_of_ok (run'_attemptAny_of_error image)]
          rcases custom : d.custom.run' c with ⟨e | v, c'⟩
          · rw [run'_bind_of_ok (run'_attemptAny_of_error custom)]
            rfl
          · rw [run'_bind_of_ok (run'_attemptAny_of_ok custom)]
            simp only [declared (v := v) (by simp : UnionCase.custom ∈ _), run'_pure]
        · simp only [run'_bind_of_ok (run'_attemptAny_of_ok image),
            declared (v := v) (by simp : UnionCase.anyImage ∈ _), run'_pure]
      · simp only [run'_bind_of_ok (run'_attemptAny_of_ok text),
          declared (v := v) (by simp : UnionCase.anyText ∈ _), run'_pure]
    · rw [run'_bind_of_ok (run'_attemptAny_of_ok (checked.trans builtin))]
      rfl

/-- What the reader of a modifier takes has the name of the modifier at its head. -/
theorem exists_head_of_readModifier {registry : Registry} {m : Modifier} {p : ParsedModifier}
    (run : (readModifier registry m).run' c = (.ok p, c')) :
    ∃ metadata c₁, callHead.run' c = (.ok (m.name, metadata), c₁) := by
  rw [readModifier, run'_bind_of_ok (run'_current c)] at run
  obtain ⟨⟨name, metadata⟩, c₁, head, run⟩ := run'_bind_eq_ok_iff.1 run
  by_cases other : name ≠ m.name
  · simp only [if_pos other] at run
    cases run
  · rw [not_ne_iff.1 other] at head
    exact ⟨metadata, c₁, head⟩

/-- Without hand-written types, a call that the reader of a modifier takes is the modifier's, in the
chunk of the group in which it stands. -/
theorem run'_read_of_readModifier (built : BuiltFrom catalog config context d)
    (bare : catalog.extraModifierTypes = []) (distinct : catalog.names.Nodup) {i : Nat}
    {m : Modifier} {p : ParsedModifier} (there : catalog.modifiers[i]? = some m)
    (run : (readModifier d.registry m).run' c = (.ok p, c')) :
    d.read.run' c =
      (.ok ⟨.chunk (groupIndex config.chunkSize.toInt.toNat i), .modifier p⟩, c') := by
  obtain ⟨metadata, c₁, head⟩ := exists_head_of_readModifier run
  have noExtras : d.extras = [] := by
    have none := map_fst_extrasFor built.extras
    rw [bare, List.map_nil] at none
    exact List.map_eq_nil_iff.1 none
  obtain ⟨small, isAt⟩ := List.getElem?_eq_some_iff.1 there
  have split : catalog.modifiers =
      catalog.modifiers.take i ++ m :: catalog.modifiers.drop (i + 1) := by
    rw [← isAt, List.getElem_cons_drop, List.take_append_drop]
  have index : (catalog.modifiers.take i).length = i := List.length_take_of_le small.le
  have last : ∀ n ∈ catalog.modifiers.drop (i + 1), n.name ≠ m.name := by
    intro n hn same
    rw [Catalog.names, split, List.map_append, List.map_cons] at distinct
    have once := (List.nodup_cons.1 (List.nodup_append.1 distinct).2.1).1
    exact once (List.mem_map.2 ⟨n, hn, same⟩)
  have reader : NameTable.get? d.builtins m.name =
      some (d.chunkReader (groupIndex config.chunkSize.toInt.toNat i) m) := by
    have chunks := built.chunks
    rw [split] at chunks
    have reader := Dispatcher.builtins_of_retained built.positive chunks (by simp [noExtras]) last
    rwa [index] at reader
  refine Dispatcher.run'_read_of_builtin head ?_
  rw [Dispatcher.readBuiltin_of_some reader, Dispatcher.chunkReader, run'_bind_of_ok run]
  rfl

end Dispatcher

/-! ## Chunks fit -/

/-- Reads a call like the module and checks the case of everything that is made on the way. -/
def Module.readChecked (m : Module) (labels : List String) (surprise : Failure) :
    Reader Dispatched := do
  m.needHead
  let _ ← lookingAhead callHead
  m.needAttempts
  m.dispatcher.readChecked labels surprise

/-- How a module stands to the groups of the names of its catalog. -/
structure DispatchesChunks (catalog : Catalog) (size : Nat) (gs : List (List String))
    (m : Module) : Prop where
  /-- Its chunks hold the modifiers of the groups. -/
  chunks : m.dispatcher.chunks.map (·.map (·.name)) = gs
  cases : m.dispatcher.cases = unionCases catalog.extraModifierTypes gs.length
  /-- A call that the reader of a modifier takes is tagged with the group of the modifier. -/
  tagged : m.ReadsCalls → catalog.extraModifierTypes = [] →
    ∀ (i : Nat) (mod : Modifier), catalog.modifiers[i]? = some mod → ∀ c p c',
      (readModifier m.dispatcher.registry mod).run' c = (.ok p, c') →
      ∃ found, m.read.run' c = (.ok found, c') ∧ found.payload = .modifier p ∧
        found.case.label = "chunk" ++ toString (i / size)
  /-- Where a name by which calls are read is taken, no call is. -/
  refused : ¬m.ReadsCalls → ∀ c, FailsAt m.read c
  /-- No other tag is given than those that the module declares. -/
  declared : ∀ c found c', m.read.run' c = (.ok found, c') →
    found.case.label ∈ (unionCases catalog.extraModifierTypes gs.length).map (·.label)
  /-- Checking tags changes nothing, whatever the failure would be. -/
  unsurprised : ∀ surprise c,
    (m.readChecked ((unionCases catalog.extraModifierTypes gs.length).map (·.label))
      surprise).run' c = m.read.run' c

theorem dispatchesChunks_of_builtFrom {catalog : Catalog} {config : Configuration}
    {context : Context} {m : Module} (distinct : catalog.names.Nodup)
    (built : BuiltFrom catalog config context m.dispatcher) :
    DispatchesChunks catalog config.chunkSize.toInt.toNat
      (groups config.chunkSize.toInt.toNat catalog.names) m := by
  have count : (groups config.chunkSize.toInt.toNat catalog.names).length =
      m.dispatcher.chunks.length := by
    rw [← built.chunkNames, List.length_map]
  have cases_eq := built.cases_eq
  rw [← count] at cases_eq
  refine ⟨built.chunkNames, cases_eq, ?tagged, Module.failsAt_of_not_readsCalls, ?declared,
    ?unsurprised⟩
  case tagged =>
    intro free bare i mod there c p c' run
    rw [Module.run'_read_of_readsCalls free]
    exact ⟨_, run'_read_of_readModifier built bare distinct there run, rfl, rfl⟩
  case declared =>
    intro c found c' run
    rw [Module.run'_read_of_readsCalls (Module.readsCalls_of_accepts run)] at run
    rw [← cases_eq]
    exact List.mem_map_of_mem (case_mem_of_read built run)
  case unsurprised =>
    intro surprise c
    rw [← cases_eq]
    exact run'_bind_congr fun _ _ => run'_bind_congr fun _ _ => run'_bind_congr fun _ c' =>
      run'_readChecked built surprise c'

/-- The names of every catalog of an interface increase, with whatever is found in sources. -/
theorem names_increase (config : Configuration) (source : Interface.InterfaceFile)
    (types : ParseableTypes) :
    ((Catalog.ofSource config source).withParseable types).names.Pairwise (· < ·) := by
  show (Catalog.ofSource config source).names.Pairwise (· < ·)
  rw [names_ofSource]
  exact (increasing_sortedNames _).filter _

/-- For every catalog whose names increase, as those of catalogs of interfaces do, and for every
chunk size from one on, the groups of the names, what the module says about them, and what the
module reads fit together. -/
theorem chunks_fit {catalog : Catalog} {config : Configuration}
    (increasing : catalog.names.Pairwise (· < ·)) (positive : 1 ≤ config.chunkSize.toInt) :
    (∀ made source types,
      ((Catalog.ofSource made source).withParseable types).names.Pairwise (· < ·)) ∧
    ∃ gs, catalogChunks catalog config = .ok gs ∧
      Grouped catalog.names config.chunkSize.toInt.toNat gs ∧
      (∀ command text, moduleCode catalog config command = .ok text →
        DeclaresChunks catalog.extraModifierTypes gs text) ∧
      ∀ target context m, Module.build catalog config target context = .ok m →
        DispatchesChunks catalog config.chunkSize.toInt.toNat gs m := by
  have distinct : catalog.names.Nodup := by
    refine increasing.imp ?_
    rintro name other less rfl
    exact String.lt_irrefl name less
  have grouped : catalogChunks catalog config =
      .ok (groups config.chunkSize.toInt.toNat catalog.names) := by
    rw [catalogChunks, Emit.chunks, if_neg (by omega)]
  refine ⟨names_increase, _, grouped, grouped_groups (by omega) distinct, ?_, ?_⟩
  · intro command text made
    exact declaresChunks_of_moduleCode grouped made
  · intro target context m built
    exact dispatchesChunks_of_builtFrom distinct
      (builtFrom_of_build (Module.dispatcher_built built)).1

/-- The modifiers `blur`, `bold` and `fade` in chunks of two. -/
def threeModifiers : Catalog :=
  ⟨[⟨"blur", []⟩, ⟨"bold", []⟩, Dispatcher.fade], [], [], [], [], [], .empty⟩

def inTwos : Configuration := { Configuration.plain with chunkSize := .count 2 }

/-- Three modifiers fit into two chunks, in the text of the module and in what it reads. -/
theorem three_chunks_fit :
    threeModifiers.names.Pairwise (· < ·) ∧ 1 ≤ inTwos.chunkSize.toInt ∧
      (∃ text, moduleCode threeModifiers inTwos "make" = .ok text ∧
        DeclaresChunks [] [["blur", "bold"], ["fade"]] text) ∧
      ∃ m, Module.build threeModifiers inTwos ⟨"iOS", [17]⟩ {} = .ok m ∧
        DispatchesChunks threeModifiers 2 [["blur", "bold"], ["fade"]] m := by
  have increasing : threeModifiers.names.Pairwise (· < ·) := by decide
  have positive : 1 ≤ inTwos.chunkSize.toInt := by decide
  obtain ⟨gs, grouped, -, declares, dispatches⟩ := (chunks_fit increasing positive).2
  obtain rfl : [["blur", "bold"], ["fade"]] = gs := Except.ok.inj grouped
  have written : ∃ text, moduleCode threeModifiers inTwos "make" = .ok text := by
    simp only [moduleCode, enumsCode, threeModifiers, List.mergeSort_nil]
    exact ⟨_, rfl⟩
  obtain ⟨text, written⟩ := written
  have built : Module.build threeModifiers inTwos ⟨"iOS", [17]⟩ {} = .ok ⟨_, []⟩ :=
    Module.build_eq_ok_iff.2 ⟨build_of_bare (by decide) rfl, rfl⟩
  exact ⟨increasing, positive, ⟨text, written, declares _ _ written⟩,
    _, built, dispatches _ _ _ built⟩

/-- A call that the reader of a modifier takes need not come back: the class of a type may have
taken the function that attempts a reader. -/
theorem not_always_tagged :
    ¬∀ (catalog : Catalog) (config : Configuration) (target : Target) (context : Context)
      (m : Module), catalog.names.Pairwise (· < ·) → 1 ≤ config.chunkSize.toInt →
      catalog.extraModifierTypes = [] → Module.build catalog config target context = .ok m →
      ∀ (i : Nat) (mod : Modifier), catalog.modifiers[i]? = some mod → ∀ c p c',
        (readModifier m.dispatcher.registry mod).run' c = (.ok p, c') →
        ∃ found, m.read.run' c = (.ok found, c') ∧
          found.case.label = "chunk" ++ toString (i / config.chunkSize.toInt.toNat) := by
  intro claim
  have built := Module.takingModule_built "attempt" "once" (by decide) (by decide) (by decide)
  obtain ⟨p, own⟩ : ∃ p, ((readModifier
      (Module.takingModule "attempt" "once").dispatcher.registry Module.dim).run'
        Dispatcher.fadeCall).1 = .ok p := exists_of_isOk (by decide +kernel)
  obtain ⟨found, run, -⟩ := claim _ _ _ _ _ (List.pairwise_singleton _ _) (by decide) rfl built 0 _
    rfl _ _ _ (Prod.ext own rfl)
  cases (Module.readsCalls_of_accepts run).2

end ViewModifiers.Dispatch
