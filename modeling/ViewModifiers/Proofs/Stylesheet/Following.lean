import ViewModifiers.Proofs.Stylesheet.Alongside
import ViewModifiers.Proofs.Stylesheet.Places
import ViewModifiers.Proofs.Stylesheet.Typed

/-!
# Readers that follow a call

The readers of values go through a call alike wherever it is written, and what they give differs in
places at most. Reading without a schema is measured by all tokens ahead, which may be more in one
text than in the other; the tokens of the call itself are enough of a measure.
-/

namespace ViewModifiers.Stylesheet.Reader

open Cursor Numeral Text

variable {α : Type} {c c' behind behind' : Cursor} {n j k : Nat}

/-! ## Reading without a schema -/

theorem run'_decimalOf (text : String) :
    ∃ given, ∀ c : Cursor, (decimalOf text).run' c = (given, c) := by
  unfold decimalOf
  cases readDecimal? text.toList with
  | none => exact ⟨_, fun _ => rfl⟩
  | some x => exact ⟨_, fun _ => rfl⟩

theorem run'_integerOf (text : String) :
    ∃ given, ∀ c : Cursor, (integerOf text).run' c = (given, c) := by
  unfold integerOf
  cases readInteger? text.toList with
  | none => exact ⟨_, fun _ => rfl⟩
  | some n => exact ⟨_, fun _ => rfl⟩

theorem run'_map_of_same {β : Type} {r : Reader β} (f : β → α)
    (same : ∃ given, ∀ c : Cursor, r.run' c = (given, c)) :
    ∃ given, ∀ c : Cursor, (f <$> r).run' c = (given, c) := by
  obtain ⟨given, gives⟩ := same
  exact ⟨given.map f, fun c => by rw [run'_map, gives]⟩

theorem run'_numberOf (text : String) :
    ∃ given, ∀ c : Cursor, (numberOf text).run' c = (given, c) := by
  unfold numberOf
  split
  · exact run'_map_of_same Value.decimal (run'_decimalOf text)
  · exact run'_map_of_same Value.integer (run'_integerOf text)

section Untyped

variable {value value' : Reader Value}

/-- A reader of values that follows a call with not too many tokens. -/
abbrev FollowsValues (behind behind' : Cursor) (k : Nat) (value value' : Reader Value) : Prop :=
  Follows behind behind' k Value.unplaced value value'

theorem follows_entry (inside : FollowsValues behind behind' k value value') :
    Follows behind behind' k itemUnplaced (entry value) (entry value') := by
  intro n c c' j le along
  refine runsAlike_ite_isAtKey along (fun isName isColon => ?_) ?_
  · refine (runsAlike_key along isName isColon).bind fun key key' s s' ⟨same, along⟩ => ?_
    subst same
    refine (inside n s s' j le along).bind fun v v' t t' ⟨same, along⟩ => runsAlike_pure ?_
    exact ⟨congrArg (some key, ·) same, along⟩
  · refine (inside n c c' j le along).bind fun v v' t t' ⟨same, along⟩ => runsAlike_pure ?_
    exact ⟨congrArg (none, ·) same, along⟩

theorem follows_metadataEntry (inside : FollowsValues behind behind' k value value') :
    Follows behind behind' k (fun e => (e.1, e.2.unplaced)) (metadataEntry value)
      (metadataEntry value') := by
  intro n c c' j le along
  refine (runsAlike_expectAs _ .name along).bind fun name name' s s' ⟨named, i, fewer, along⟩ => ?_
  refine (runsAlike_expect .colon along).bind fun _ _ t t' ⟨_, i', fewer', along⟩ => ?_
  refine (inside n t t' i' (by omega) along).bind fun v v' u u' ⟨same, along⟩ => runsAlike_pure ?_
  exact ⟨Prod.ext (Token.value_eq named) same, along.mono (by omega)⟩

theorem follows_metadataOver (inside : FollowsValues behind behind' k value value') :
    Follows behind behind' (k + 1) metadataUnplaced (metadataOver value) (metadataOver value') := by
  intro n c c' j le along
  refine runsAlike_look (run'_current c) (run'_current c') ?_
  have entries := follows_bracketed .metadata (follows_metadataEntry inside)
  refine (entries n c c' j le along).bind fun es es' s s' ⟨same, along⟩ => runsAlike_pure ?_
  refine ⟨?_, along⟩
  have tables : (NameTable.ofList es').map (fun e => (e.1, e.2.unplaced)) =
      (NameTable.ofList es).map fun e => (e.1, e.2.unplaced) := by
    rw [← NameTable.ofList_map, ← NameTable.ofList_map, same]
  rw [metadataOf_unplaced _ rfl, metadataOf_unplaced _ tables.symm]

/-- What the head of a call tells apart from its place. -/
def headUnplaced (head : String × Metadata Value) : String × Metadata Value :=
  (head.1, metadataUnplaced head.2)

/-- The head of a call leaves its brace open. -/
theorem runsAlike_callHeadOver (inside : FollowsValues behind behind' k value value')
    (le : j ≤ k + 1) (atCall : AtCall behind behind' n j c c') :
    RunsAlike (callHeadOver value) (callHeadOver value') c c' fun head head' s s' =>
      headUnplaced head = headUnplaced head' ∧ Alongside behind behind' (n + 1) j s s' := by
  obtain ⟨opens, opens', along⟩ := atCall
  have brace {c : Cursor} (opens : c.current.kind = .openBrace) :
      (expectAs .modifierStart .openBrace).run' c = (.ok c.current, c.rest) := by
    rw [run'_expectAs, if_pos opens]
  have opened : RunsAlike (expectAs .modifierStart .openBrace) (expectAs .modifierStart .openBrace)
      c c' fun _ _ s s' => Alongside behind behind' (n + 1) j s s' :=
    .ok _ _ _ _ (brace opens) (brace opens') along
  refine opened.bind fun _ _ s s' along => ?_
  refine runsAlike_look (run'_current s) (run'_current s') (runsAlike_ite ?_ (fun named => ?_) ?_)
  · rw [along.kind]
  · rw [Bool.or_eq_true, decide_eq_true_eq, decide_eq_true_eq] at named
    have level : s.current.kind.depthBehind (n + 1) = n + 1 := by
      rcases named with isAtom | isName
      · rw [isAtom]; rfl
      · rw [isName]; rfl
    refine (runsAlike_advance along).bind fun _ _ t t' ⟨_, _, i, fewer, later⟩ => ?_
    rw [level] at later
    refine (runsAlike_expect .comma later).bind fun _ _ u u' ⟨_, i', fewer', later⟩ => ?_
    refine (follows_metadataOver inside n u u' i' (by omega) later).bind
      fun m m' w w' ⟨same, later⟩ => runsAlike_pure ?_
    refine ⟨?_, later.mono (by omega)⟩
    rw [along.value, headUnplaced, headUnplaced, same]
  · exact fun _ => runsAlike_failExpecting _

/-- The arguments of a call close its brace. -/
theorem runsAlike_argumentsOver (inside : FollowsValues behind behind' k value value')
    (le : j ≤ k + 1) (along : Alongside behind behind' (n + 1) j c c') :
    RunsAlike (argumentsOver value) (argumentsOver value') c c' fun found found' s s' =>
      argumentsUnplaced found = argumentsUnplaced found' ∧ Alongside behind behind' n j s s' := by
  have closing (es es' : List (Option String × Value)) {s s' : Cursor} {i : Nat} (fewer : i ≤ j)
      (same : es.map itemUnplaced = es'.map itemUnplaced)
      (along : Alongside behind behind' (n + 1) i s s') :
      RunsAlike (do let _ ← expect .closeBrace; return (unkeyed es, keyed es))
        (do let _ ← expect .closeBrace; return (unkeyed es', keyed es')) s s'
        fun found found' s s' =>
          argumentsUnplaced found = argumentsUnplaced found' ∧
            Alongside behind behind' n j s s' := by
    refine (runsAlike_expect .closeBrace along).bind fun _ _ t t' ⟨_, i', fewer', along⟩ => ?_
    refine runsAlike_pure ⟨?_, along.mono (by omega)⟩
    rw [arguments_unplaced, arguments_unplaced, same]
  refine (runsAlike_accept .comma along).bind fun found found' s s' accepted => ?_
  rcases accepted with ⟨rfl, rfl, i, fewer, along⟩ | ⟨rfl, rfl, along⟩
  · have entries := follows_bracketed .argumentList (follows_entry inside)
    refine (entries n s s' i (by omega) along).bind fun es es' t t' ⟨same, along⟩ => ?_
    exact closing es es' (Nat.le_of_lt fewer) same along
  · exact closing [] [] (Nat.le_refl j) rfl along

theorem runsAlike_callOver (inside : FollowsValues behind behind' k value value')
    (le : j ≤ k + 1) (atCall : AtCall behind behind' n j c c') :
    RunsAlike (callOver value) (callOver value') c c' fun call call' s s' =>
      callUnplaced call = callUnplaced call' ∧ Alongside behind behind' n j s s' := by
  refine (runsAlike_callHeadOver inside le atCall).bind
    fun ⟨name, m⟩ ⟨name', m'⟩ s s' ⟨sameHead, along⟩ => ?_
  refine (runsAlike_argumentsOver inside le along).bind
    fun ⟨vs, es⟩ ⟨vs', es'⟩ t t' ⟨sameArguments, along⟩ => runsAlike_pure ⟨?_, along⟩
  obtain ⟨rfl, sameMetadata⟩ := Prod.mk.inj sameHead
  obtain ⟨sameValues, sameEntries⟩ := Prod.mk.inj sameArguments
  rw [callUnplaced, callUnplaced, allUnplaced_eq_map, allUnplaced_eq_map, entriesUnplaced_eq_map,
    entriesUnplaced_eq_map, sameValues, sameEntries]
  exact congrArg (fun m => Call.mk name m _ _) sameMetadata

/-! ## Any value -/

theorem follows_anyOver (inside : FollowsValues behind behind' k value value') :
    FollowsValues behind behind' (k + 1) (anyOver value) (anyOver value') := by
  intro n c c' j le along
  refine runsAlike_look (run'_current c) (run'_current c') ?_
  -- A token that is a value by itself, with what is made of it.
  have single (level : c.current.kind.depthBehind (n + 1) = n + 1) {f f' : Token → Reader Value}
      (later : ∀ s s', Alongside behind behind' (n + 1) j s s' →
        RunsAlike (f c.current) (f' c'.current) s s' fun v v' t t' =>
          v.unplaced = v'.unplaced ∧ Alongside behind behind' (n + 1) j t t') :
      RunsAlike (advance >>= f) (advance >>= f') c c' fun v v' t t' =>
        v.unplaced = v'.unplaced ∧ Alongside behind behind' (n + 1) j t t' := by
    refine (runsAlike_advance along).bind
      fun t t' s s' ⟨isCurrent, isCurrent', i, fewer, along⟩ => ?_
    rw [level] at along
    subst isCurrent isCurrent'
    exact later s s' (along.mono (Nat.le_of_lt fewer))
  rw [← along.kind, ← along.value]
  rcases kind : c.current.kind
  case number =>
    refine single (by rw [kind]; rfl) fun s s' along => ?_
    obtain ⟨given, gives⟩ := run'_numberOf c.current.value
    refine (runsAlike_same gives).mono fun v v' t t' ⟨same, here, here'⟩ => ?_
    subst same here here'
    exact ⟨rfl, along⟩
  case string =>
    exact single (by rw [kind]; rfl) fun s s' along => runsAlike_pure ⟨rfl, along⟩
  case atom =>
    exact single (by rw [kind]; rfl) fun s s' along => runsAlike_pure ⟨rfl, along⟩
  case name =>
    exact single (by rw [kind]; rfl) fun s s' along => runsAlike_pure ⟨rfl, along⟩
  case dot =>
    refine single (by rw [kind]; rfl) fun s s' along => ?_
    refine (runsAlike_expectAs .enumMember .name along).bind
      fun name name' t t' ⟨named, i, fewer, along⟩ => runsAlike_pure ?_
    exact ⟨congrArg Value.member (Token.value_eq named), along.mono (Nat.le_of_lt fewer)⟩
  case openBracket =>
    have entries := follows_bracketed .list (follows_entry inside)
    refine (entries n c c' j le along).bind fun es es' s s' ⟨same, along⟩ => runsAlike_pure ?_
    refine ⟨?_, along⟩
    have values (es : List (Option String × Value)) : allUnplaced (es.map entryValue) =
        (es.map itemUnplaced).map entryValue := by
      rw [allUnplaced_eq_map, List.map_map, List.map_map]
      exact List.map_congr_left fun e _ => (entryValue_unplaced e).symm
    exact congrArg Value.list ((values es).trans (same ▸ (values es').symm))
  case openBrace =>
    obtain ⟨i, fewer, atCall⟩ := along.atCall kind
    refine (runsAlike_callOver inside (by omega) atCall).bind
      fun call call' s s' ⟨same, along⟩ => runsAlike_pure ?_
    exact ⟨congrArg Value.call same, along.mono (Nat.le_of_lt fewer)⟩
  all_goals exact runsAlike_failExpecting _

/-- Two measures that are long enough. -/
theorem follows_anyFrom {measure measure' : List Token} (bound : k ≤ measure.length)
    (bound' : k ≤ measure'.length) :
    FollowsValues behind behind' k (anyFrom measure) (anyFrom measure') := by
  induction measure generalizing measure' k with
  | nil => exact follows_zero.mono bound
  | cons t measure ih =>
    cases measure' with
    | nil => exact follows_zero.mono bound'
    | cons t' measure' =>
      rw [List.length_cons] at bound bound'
      have inside : FollowsValues behind behind' (k - 1) (anyFrom measure) (anyFrom measure') :=
        ih (by omega) (by omega)
      rw [anyFrom, anyFrom]
      exact (follows_anyOver inside).mono (by omega)

theorem follows_any : FollowsValues behind behind' k any any := by
  intro n c c' j le along
  refine runsAlike_look (run'_get c) (run'_get c') ?_
  obtain ⟨i, le', bound, bound', along⟩ := along.exists_le
  refine (follows_anyFrom bound bound' n c c' i (Nat.le_refl i) along).mono
    fun v v' s s' ⟨same, along⟩ => ?_
  exact ⟨same, along.mono le'⟩

end Untyped

/-- The arguments of a certain call, which close its brace. -/
theorem runsAlike_argumentsOfCall (name : String) (atCall : AtCall behind behind' n j c c') :
    RunsAlike (argumentsOfCall name) (argumentsOfCall name) c c' fun found found' s s' =>
      argumentsUnplaced found = argumentsUnplaced found' ∧ Alongside behind behind' n j s s' := by
  refine runsAlike_look (run'_get c) (run'_get c') ?_
  refine (runsAlike_callHeadOver (follows_any (k := j)) (Nat.le_succ j) atCall).bind
    fun head head' s s' ⟨same, along⟩ => ?_
  have named : head.1 = head'.1 := (Prod.mk.inj same).1
  refine runsAlike_ite (by rw [named]) (fun _ => ?_) fun _ => ?_
  · exact .error _ _ _ _ rfl rfl ⟨rfl, rfl⟩
  · exact runsAlike_argumentsOver (follows_any (k := j)) (Nat.le_succ j) along

/-! ## Values of types -/

/-- A reader of values that follows every call. -/
def FollowsCalls (r : Reader Value) : Prop :=
  ∀ behind behind' k, FollowsValues behind behind' k r r

variable {value : Reader Value}

/-- What is made of a number that has been used up. -/
theorem runsAlike_converted {r r' : Reader Value} (same : r = r')
    (looksNowhere : ∃ given, ∀ c : Cursor, r.run' c = (given, c))
    (along : Alongside behind behind' n j c c') :
    RunsAlike r r' c c' fun v v' s s' =>
      v.unplaced = v'.unplaced ∧ Alongside behind behind' n j s s' := by
  subst same
  obtain ⟨given, gives⟩ := looksNowhere
  refine (runsAlike_same gives).mono fun v v' s s' ⟨same, here, here'⟩ => ?_
  subst same here here'
  exact ⟨rfl, along⟩

theorem followsCalls_number : FollowsCalls number := by
  intro behind behind' k n c c' j le along
  refine (runsAlike_expectAs .number .number along).bind fun t t' s s' ⟨same, i, fewer, along⟩ => ?_
  have value : t.value = t'.value := Token.value_eq same
  exact runsAlike_converted (by rw [value])
    (run'_map_of_same Value.decimal (run'_decimalOf t.value)) (along.mono (Nat.le_of_lt fewer))

theorem followsCalls_integer : FollowsCalls integer := by
  intro behind behind' k n c c' j le along
  refine runsAlike_look (run'_current c) (run'_current c') (runsAlike_ite ?_ (fun isWhole => ?_) ?_)
  · rw [along.kind, along.value]
  · rw [Bool.and_eq_true, decide_eq_true_eq] at isWhole
    refine (runsAlike_advance along).bind fun _ _ s s' ⟨_, _, i, fewer, later⟩ => ?_
    rw [isWhole.1] at later
    exact runsAlike_converted (by rw [along.value])
      (run'_map_of_same Value.integer (run'_integerOf c.current.value))
      (later.mono (Nat.le_of_lt fewer))
  · exact fun _ => runsAlike_failExpecting _

/-- A token that is neither a bracket nor a brace is used up, for a value that is known. -/
theorem runsAlike_advance_value (v : Value) (along : Alongside behind behind' (n + 1) j c c')
    (level : c.current.kind.depthBehind (n + 1) = n + 1) :
    RunsAlike (do let _ ← advance; return v) (do let _ ← advance; return v) c c' fun w w' s s' =>
      w.unplaced = w'.unplaced ∧ Alongside behind behind' (n + 1) j s s' := by
  refine (runsAlike_advance along).bind fun _ _ s s' ⟨_, _, i, fewer, later⟩ => runsAlike_pure ?_
  rw [level] at later
  exact ⟨rfl, later.mono (Nat.le_of_lt fewer)⟩

theorem followsCalls_flag : FollowsCalls flag := by
  intro behind behind' k n c c' j le along
  have word (isName : c.current.kind = .name) : c.current.kind.depthBehind (n + 1) = n + 1 := by
    rw [isName]
    rfl
  refine runsAlike_ite_isAtWord "true" along (fun isName => ?_) ?_
  · exact runsAlike_advance_value _ along (word isName)
  · refine runsAlike_ite_isAtWord "false" along (fun isName => ?_) (runsAlike_failExpecting _)
    exact runsAlike_advance_value _ along (word isName)

theorem followsCalls_string : FollowsCalls string := by
  intro behind behind' k n c c' j le along
  refine (runsAlike_expectAs .string .string along).bind
    fun t t' s s' ⟨same, i, fewer, along⟩ => runsAlike_pure ?_
  exact ⟨congrArg Value.text (Token.value_eq same), along.mono (Nat.le_of_lt fewer)⟩

theorem follows_atomOrString : Follows behind behind' k id atomOrString atomOrString := by
  intro n c c' j le along
  refine runsAlike_look (run'_current c) (run'_current c') (runsAlike_ite ?_ (fun isText => ?_) ?_)
  · rw [along.kind]
  · rw [Bool.or_eq_true, decide_eq_true_eq, decide_eq_true_eq] at isText
    have level : c.current.kind.depthBehind (n + 1) = n + 1 := by
      rcases isText with isAtom | isString
      · rw [isAtom]; rfl
      · rw [isString]; rfl
    refine (runsAlike_advance along).bind fun _ _ s s' ⟨_, _, i, fewer, later⟩ => runsAlike_pure ?_
    rw [level] at later
    exact ⟨along.value, later.mono (Nat.le_of_lt fewer)⟩
  · exact fun _ => runsAlike_failExpecting _

/-- What is made of an atom or a string. -/
theorem followsCalls_atomOrString (f : String → Value) : FollowsCalls (f <$> atomOrString) := by
  intro behind behind' k
  exact follows_atomOrString.map fun s s' same => congrArg (fun s => (f s).unplaced) same

/-! ## Structures -/

theorem followsCalls_optional (follows : FollowsCalls value) : FollowsCalls (optional value) := by
  intro behind behind' k n c c' j le along
  refine runsAlike_ite_isAtWord "nil" along (fun isName => ?_) ?_
  · exact runsAlike_advance_value _ along (by rw [isName]; rfl)
  · exact follows behind behind' k n c c' j le along

theorem followsCalls_array (follows : FollowsCalls value) : FollowsCalls (array value) := by
  intro behind behind' k n c c' j le along
  have items := (follows_bracketed .list (follows behind behind' k)).mono (Nat.le_succ k)
  refine (items n c c' j le along).bind fun vs vs' s s' ⟨same, along⟩ => runsAlike_pure ?_
  refine ⟨?_, along⟩
  show Value.tuple (allUnplaced vs) = .tuple (allUnplaced vs')
  rw [allUnplaced_eq_map, allUnplaced_eq_map, same]

theorem followsCalls_set (follows : FollowsCalls value) : FollowsCalls (set value) := by
  intro behind behind' k n c c' j le along
  have items := (follows_bracketed .list (follows behind behind' k)).mono (Nat.le_succ k)
  refine (items n c c' j le along).bind fun vs vs' s s' ⟨same, along⟩ => ?_
  have elements : Value.areElements vs = Value.areElements vs' := by
    rw [← Value.areElements_unplaced vs, ← Value.areElements_unplaced vs', allUnplaced_eq_map,
      allUnplaced_eq_map, same]
  refine runsAlike_ite (by rw [elements]) (fun _ => runsAlike_pure ⟨?_, along⟩) fun _ => ?_
  · show Value.set (allUnplaced (Value.distinct vs)) = .set (allUnplaced (Value.distinct vs'))
    rw [allUnplaced_eq_map, allUnplaced_eq_map, ← Value.distinct_unplaced,
      ← Value.distinct_unplaced, same]
  · exact runsAlike_throw ⟨rfl, rfl⟩

theorem followsCalls_dictionary (follows : FollowsCalls value) :
    FollowsCalls (dictionary value) := by
  intro behind behind' k n c c' j le along
  have keyed : Follows behind behind' k (fun e => (e.1, e.2.unplaced)) (keyedValue value)
      (keyedValue value) := by
    intro n c c' j le along
    refine runsAlike_ite_isAtKey along (fun isName isColon => ?_) (runsAlike_failExpecting _)
    refine (runsAlike_key along isName isColon).bind fun key key' s s' ⟨same, along⟩ => ?_
    subst same
    refine (follows behind behind' k n s s' j le along).bind
      fun v v' t t' ⟨same, along⟩ => runsAlike_pure ⟨?_, along⟩
    exact congrArg (key, ·) same
  have entries := (follows_bracketed .keywordList keyed).mono (Nat.le_succ k)
  refine (entries n c c' j le along).bind fun es es' s s' ⟨same, along⟩ => runsAlike_pure ?_
  refine ⟨?_, along⟩
  show Value.dictionary (entriesUnplaced (NameTable.ofList es)) =
    .dictionary (entriesUnplaced (NameTable.ofList es'))
  rw [entriesUnplaced_eq_map, entriesUnplaced_eq_map, ← NameTable.ofList_map,
    ← NameTable.ofList_map, same]

/-! ## Members -/

theorem followsCalls_member (members : NameTable (Except Failure Value)) :
    FollowsCalls (member members) := by
  intro behind behind' k n c c' j le along
  refine runsAlike_look (run'_memberAhead c) (run'_memberAhead c') ?_
  have dotted := along.pair_iff .dot .name rfl
  by_cases isDotted : c.current.kind = .dot ∧ (c.peek 1).kind = .name
  · rw [if_pos isDotted, if_pos (dotted.1 isDotted)]
    have isName := isDotted.2
    rw [peek_one] at isName
    have atName := along.rest (by rw [isDotted.1]; rfl)
    have behindName := atName.rest (by rw [isName]; rfl)
    dsimp only
    rw [peek_one, peek_one, ← atName.value]
    cases NameTable.get? members c.rest.current.value with
    | none => exact runsAlike_failAt _ _ _ _
    | some found =>
      cases found with
      | error e => exact runsAlike_throw ⟨rfl, rfl⟩
      | ok value => exact .ok value value c.rest.rest c'.rest.rest rfl rfl ⟨rfl, behindName⟩
  · rw [if_neg isDotted, if_neg (dotted.not.1 isDotted), ← along.kind]
    by_cases isAtom : c.current.kind = .atom
    · rw [if_pos isAtom, if_pos isAtom]
      have behindName := along.rest (by rw [isAtom]; rfl)
      dsimp only
      rw [← along.value]
      cases NameTable.get? members c.current.value with
      | none => exact runsAlike_failAt _ _ _ _
      | some found =>
        cases found with
        | error e => exact runsAlike_throw ⟨rfl, rfl⟩
        | ok value => exact .ok value value c.rest c'.rest rfl rfl ⟨rfl, behindName⟩
    · rw [if_neg isAtom, if_neg isAtom]
      exact runsAlike_failExpecting _

/-! ## References -/

theorem follows_templates : Follows behind behind' k id templates templates := by
  intro n c c' j le along
  refine runsAlike_ite_isAt .openBracket along (fun _ => ?_) ?_
  · have items : Follows behind behind' k (List.map id) _ _ :=
      (follows_bracketed .list follows_atomOrString).mono (Nat.le_succ k)
    refine (items n c c' j le along).mono fun vs vs' s s' ⟨same, along⟩ => ?_
    rw [List.map_id, List.map_id] at same
    exact ⟨same, along⟩
  · refine (follows_atomOrString n c c' j le along).bind
      fun t t' s s' ⟨same, along⟩ => runsAlike_pure ⟨?_, along⟩
    exact congrArg (fun t => [t]) same

theorem followsCalls_views (place : ViewPlace) : FollowsCalls (views place) := by
  intro behind behind' k
  exact follows_templates.map fun _ _ same =>
    congrArg (fun ts => (Value.views place ts).unplaced) same

theorem followsCalls_textTemplate : FollowsCalls textTemplate := followsCalls_atomOrString _

theorem followsCalls_binding : FollowsCalls binding := followsCalls_atomOrString _

/-- A text in front of several values is in front of the same values in other places, too. -/
theorem text_cons_cases {vs vs' : List Value}
    (same : vs.map Value.unplaced = vs'.map Value.unplaced) {name : String} {rest : List Value}
    (first : vs = .text name :: rest) :
    ∃ rest', vs' = .text name :: rest' ∧ rest.map Value.unplaced = rest'.map Value.unplaced := by
  subst first
  cases vs' with
  | nil => cases same
  | cons v' rest' =>
    obtain ⟨first, later⟩ := List.cons_eq_cons.1 same
    obtain rfl := Value.unplaced_eq_text_iff.1 first.symm
    exact ⟨rest', rfl, later⟩

/-- The parameters of an event. -/
theorem parameters_unplaced {es es' : NameTable Value} {vs vs' : List Value}
    (entries : (es.map fun e => (e.1, e.2.unplaced)) = es'.map fun e => (e.1, e.2.unplaced))
    (values : vs.map Value.unplaced = vs'.map Value.unplaced) :
    entriesUnplaced (NameTable.putAll es (vs.flatMap Value.pairs)) =
      entriesUnplaced (NameTable.putAll es' (vs'.flatMap Value.pairs)) := by
  have pairs (vs : List Value) : (vs.flatMap Value.pairs).map (fun e => (e.1, e.2.unplaced)) =
      (vs.map Value.unplaced).flatMap Value.pairs := by
    rw [List.map_flatMap, List.flatMap_map]
    exact congrArg (vs.flatMap ·) (funext fun v => (Value.pairs_unplaced v).symm)
  rw [entriesUnplaced_eq_map, entriesUnplaced_eq_map, ← NameTable.putAll_map,
    ← NameTable.putAll_map, pairs, pairs, entries, values]

theorem followsCalls_event : FollowsCalls event := by
  intro behind behind' k n c c' j le along
  refine runsAlike_ite_isAt .openBrace along (fun opens => ?_) ?_
  · obtain ⟨i, fewer, atCall⟩ := along.atCall opens
    refine (runsAlike_argumentsOfCall eventCall atCall).bind
      fun found found' s s' known => ?_
    obtain ⟨vs, es⟩ := found
    obtain ⟨vs', es'⟩ := found'
    obtain ⟨same, along⟩ := known
    obtain ⟨values, entries⟩ := Prod.mk.inj same
    clear same
    dsimp only at values entries ⊢
    split
    · next name rest =>
      obtain ⟨rest', rfl, later⟩ := text_cons_cases values rfl
      refine runsAlike_pure ⟨?_, along.mono (Nat.le_of_lt fewer)⟩
      exact congrArg (Value.event name) (parameters_unplaced entries later)
    · next unnamed =>
      split
      · next name' rest' =>
        obtain ⟨rest, rfl, -⟩ := text_cons_cases values.symm rfl
        exact (unnamed name' rest rfl).elim
      · exact runsAlike_fail _ _
  · exact (followsCalls_atomOrString fun s => .event s []) behind behind' k n c c' j le along

theorem followsCalls_attributeOr (follows : FollowsCalls value) :
    FollowsCalls (attributeOr value) := by
  intro behind behind' k n c c' j le along
  refine runsAlike_ite_isAt .openBrace along (fun opens => ?_) ?_
  · obtain ⟨i, fewer, atCall⟩ := along.atCall opens
    refine runsAlike_look (run'_get c) (run'_get c') ?_
    refine (runsAlike_argumentsOfCall attributeCall atCall).bind
      fun found found' s s' known => ?_
    obtain ⟨vs, es⟩ := found
    obtain ⟨vs', es'⟩ := found'
    obtain ⟨same, along⟩ := known
    obtain ⟨values, entries⟩ := Prod.mk.inj same
    clear same
    dsimp only at values entries ⊢
    split
    · next name =>
      obtain ⟨rest', rfl, later⟩ := text_cons_cases values rfl
      obtain rfl := List.map_eq_nil_iff.1 later.symm
      exact runsAlike_pure ⟨rfl, along.mono (Nat.le_of_lt fewer)⟩
    · next unnamed =>
      split
      · next name =>
        obtain ⟨rest, rfl, later⟩ := text_cons_cases values.symm rfl
        obtain rfl := List.map_eq_nil_iff.1 later.symm
        exact (unnamed name rfl).elim
      · exact .error _ _ _ _ rfl rfl ⟨rfl, rfl⟩
  · refine (follows behind behind' k n c c' j le along).bind
      fun v v' s s' ⟨same, along⟩ => runsAlike_pure ⟨?_, along⟩
    exact congrArg Value.constant same

end ViewModifiers.Stylesheet.Reader
