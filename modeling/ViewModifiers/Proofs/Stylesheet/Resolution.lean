import ViewModifiers.Interface.TypeExpr
import ViewModifiers.Proofs.Stylesheet.Memory
import ViewModifiers.Proofs.Text.NameTable

/-!
# Readers of types that were written out

A type is written out as a text and its reader is found by that text. The text is taken apart along
the type again: what is found is what the type gives from part to part (`find_text`). So every type
of names, generic types, optional types, lists and dictionaries has its own reader, or fails with
the first part that is not registered (`resolve_text`).
-/

namespace ViewModifiers.Stylesheet

open Text Interface

/-! ## Texts of types -/

namespace TypeSpelling

/-- The characters that mark the parts of a spelling. -/
def isMark (c : Char) : Bool := ['<', '>', '[', ']', '(', ')', ',', ':', '?', '!'].contains c

/-- A text without marks and blanks. -/
def Unmarked (cs : List Char) : Prop := ∀ c ∈ cs, isMark c = false ∧ isBlank c = false

instance (cs : List Char) : Decidable (Unmarked cs) :=
  decidable_of_iff ((cs.all fun c => !isMark c && !isBlank c) = true) (by simp [Unmarked])

/-- A text that is read as it stands, and that lists and dictionaries do not cut. -/
structure Proper (cs : List Char) : Prop where
  nonempty : cs ≠ []
  starts : StartsPlain cs
  ends : EndsPlain cs
  enclosed : Enclosed cs

theorem stepDepth_of_unmarked {c : Char} (h : isMark c = false) (depth : Nat) :
    stepDepth depth c = some depth := by
  simp only [isMark, List.contains_cons, List.contains_nil, Bool.or_eq_false_iff,
    beq_eq_false_iff_ne] at h
  simp [stepDepth, depthChange, h]
  rfl

theorem Unmarked.enclosed {cs : List Char} (unmarked : Unmarked cs) : Enclosed cs := by
  induction cs with
  | nil => rfl
  | cons c cs ih =>
    rw [Enclosed, depthAfter?_cons, stepDepth_of_unmarked (unmarked c List.mem_cons_self).1]
    exact ih fun d there => unmarked d (List.mem_cons_of_mem c there)

theorem Unmarked.proper {cs : List Char} (unmarked : Unmarked cs) (nonempty : cs ≠ []) :
    Proper cs where
  nonempty := nonempty
  starts := fun c first => (unmarked c (List.mem_of_head? first)).2
  ends := fun c last => (unmarked c (List.mem_of_getLast? last)).2
  enclosed := unmarked.enclosed

theorem Proper.trimBlanks {cs : List Char} (proper : Proper cs) : trimBlanks cs = cs :=
  trimBlanks_eq_self proper.starts proper.ends

/-- Brackets around a text that does not leave them. -/
theorem enclosed_brackets {opening closing : Char} (opens : stepDepth 0 opening = some 1)
    (closes : stepDepth 1 closing = some 0) {inner : List Char}
    (within : depthAfter? 1 inner = some 1) : Enclosed (opening :: inner ++ [closing]) := by
  rw [Enclosed, List.cons_append, depthAfter?_cons, opens]
  change depthAfter? 1 (inner ++ [closing]) = some 0
  rw [depthAfter?_append within, depthAfter?_cons, closes]
  rfl

/-! ## Forms of texts -/

theorem read_of_proper {s : String} (proper : Proper s.toList) :
    read s = ofForm readPart s (formOf s.toList) := by
  rw [read_eq_readPart, readPart_eq, proper.trimBlanks, String.ofList_toList]

theorem formOf_unmarked {cs : List Char} (unmarked : Unmarked cs) : formOf cs = .plain := by
  rcases last : cs.getLast? with _ | c
  · rw [formOf, last]
  · have noMark := (unmarked c (List.mem_of_getLast? last)).1
    rw [formOf, last]
    split
    · next h => cases h; cases noMark
    · next h => cases h; cases noMark
    · next h => cases h; cases noMark
    · next h => cases h; cases noMark
    · rfl

theorem formOf_optional (cs : List Char) (implicit : Bool) :
    formOf (cs ++ [if implicit then '!' else '?']) = .optional cs := by
  cases implicit <;> simp [formOf]

theorem formOf_brackets (inner : List Char) :
    formOf ('[' :: inner ++ [']']) = bracketForm inner := by
  have last : ('[' :: inner ++ [']']).getLast? = some ']' := List.getLast?_concat
  rw [formOf, last]
  simp

theorem bracketForm_array {element : List Char} (proper : Proper element) :
    bracketForm element = .array element := by
  have whole := splitOutside_append (.inr rfl) proper.enclosed []
  rw [List.append_nil] at whole
  rw [bracketForm, show (0 : Int) = (0 : Nat) from rfl, whole]
  simp [splitOutside]

theorem bracketForm_dictionary {key : List Char} (proper : Proper key) (value : List Char) :
    bracketForm (key ++ ':' :: value) = .dictionary key value := by
  have split := splitOutside_append (.inr rfl) proper.enclosed (':' :: value)
  rw [bracketForm, show (0 : Int) = (0 : Nat) from rfl, split]
  simp [splitOutside]

theorem formOf_generic {name : List Char} (unmarked : Unmarked name) (nonempty : name ≠ [])
    (inner : List Char) :
    formOf (name ++ '<' :: inner ++ ['>']) = .generic name (partsOutside ',' 0 inner) := by
  have before : ∀ c ∈ name, decide (c ≠ '<') = true := by
    intro c there
    have noMark := (unmarked c there).1
    rw [decide_eq_true_eq]
    rintro rfl
    cases noMark
  have taken : (name ++ '<' :: (inner ++ ['>'])).takeWhile (· ≠ '<') = name := by
    rw [List.takeWhile_append_of_pos before, List.takeWhile_cons_of_neg (by decide),
      List.append_nil]
  have shape : name ++ '<' :: inner ++ ['>'] = name ++ '<' :: (inner ++ ['>']) := by simp
  have last : (name ++ '<' :: (inner ++ ['>'])).getLast? = some '>' := by
    rw [← shape, List.getLast?_concat]
  rw [shape, formOf, last]
  simp only [angleForm, taken]
  rw [if_neg]
  · simp
  · simp [nonempty]

/-! ## Arguments of generic types -/

theorem partsOutside_single {cs : List Char} (proper : Proper cs) :
    partsOutside ',' 0 cs = [cs] := by
  have whole := partsOutside_append (.inl rfl) proper.enclosed []
  rw [List.append_nil] at whole
  rw [show (0 : Int) = (0 : Nat) from rfl, whole]
  simp [partsOutside]

theorem partsOutside_comma {cs : List Char} (proper : Proper cs) (rest : List Char) :
    partsOutside ',' 0 (cs ++ ',' :: rest) = cs :: partsOutside ',' 0 rest := by
  have split := partsOutside_append (.inl rfl) proper.enclosed (',' :: rest)
  rw [show (0 : Int) = (0 : Nat) from rfl, split]
  simp [partsOutside, depthChange]

theorem map_partsOutside_blank (cs : List Char) :
    (partsOutside ',' 0 (' ' :: cs)).map readPart = (partsOutside ',' 0 cs).map readPart := by
  obtain ⟨first, later, split⟩ := List.exists_cons_of_ne_nil (partsOutside_ne_nil ',' 0 cs)
  have front : partsOutside ',' 0 (' ' :: cs) = (' ' :: first) :: later := by
    rw [partsOutside, if_neg (by decide), show (0 : Int) + depthChange ' ' = 0 from rfl, split]
    rfl
  rw [front, split, List.map_cons, List.map_cons, readPart, readPart, trimBlanks_blank]

/-- Texts with commas between them are read one by one. -/
theorem map_readPart_joinWith {texts : List String} (nonempty : texts ≠ [])
    (proper : ∀ s ∈ texts, Proper s.toList) :
    (partsOutside ',' 0 (joinWith ", " texts).toList).map readPart = texts.map read := by
  induction texts with
  | nil => exact absurd rfl nonempty
  | cons s rest ih =>
    have own : readPart s.toList = read s :=
      readPart_of_trimBlanks (proper s List.mem_cons_self).trimBlanks
    cases rest with
    | nil =>
      rw [joinWith, partsOutside_single (proper s List.mem_cons_self)]
      simp [own]
    | cons t rest =>
      have later := ih (by simp) fun u there => proper u (List.mem_cons_of_mem s there)
      have text : (joinWith ", " (s :: t :: rest)).toList =
          s.toList ++ ',' :: ' ' :: (joinWith ", " (t :: rest)).toList := by
        simp [joinWith]
      rw [text, partsOutside_comma (proper s List.mem_cons_self), List.map_cons,
        map_partsOutside_blank, later, own]
      rfl

/-- Texts with commas between them keep inside angle brackets. -/
theorem depthAfter?_joinWith {texts : List String} (proper : ∀ s ∈ texts, Proper s.toList) :
    depthAfter? 1 (joinWith ", " texts).toList = some 1 := by
  induction texts with
  | nil => rfl
  | cons s rest ih =>
    have own := (proper s List.mem_cons_self).enclosed.depthAfter? 1
    cases rest with
    | nil => exact own
    | cons t rest =>
      have later := ih fun u there => proper u (List.mem_cons_of_mem s there)
      have text : (joinWith ", " (s :: t :: rest)).toList =
          s.toList ++ ',' :: ' ' :: (joinWith ", " (t :: rest)).toList := by
        simp [joinWith]
      rw [text, depthAfter?_append own]
      exact later

end TypeSpelling

/-- Whether a factory takes a number of arguments. -/
def Factory.Takes (factory : Factory) (count : Nat) : Prop :=
  ∀ readers : List (Reader Value), readers.length = count → (factory.build? readers).isSome = true

theorem Factory.takes_unary (make : Reader Value → Reader Value) :
    (Factory.unary make).Takes 1 := by
  intro readers count
  obtain ⟨reader, rfl⟩ := List.length_eq_one_iff.1 count
  rfl

namespace Registry

open TypeSpelling

variable {r : Registry}

/-! ## Types that are built from registered ones -/

/-- Names joined by dots, none of them with arguments. -/
inductive IsDotted : TypeExpr → Prop
  | named (name : String) (unmarked : Unmarked name.toList) (nonempty : name.toList ≠ []) :
      IsDotted (.named name [])
  | member (base : TypeExpr) (name : String) (dotted : IsDotted base)
      (unmarked : Unmarked name.toList) : IsDotted (.member base name [])

/-- Types of names, generic types, optional types, lists and dictionaries. Every factory that is
registered is given as many arguments as it takes. -/
inductive Resolvable (r : Registry) : TypeExpr → Prop
  | name (t : TypeExpr) (dotted : IsDotted t) : Resolvable r t
  | generic (name : String) (arguments : List TypeExpr) (unmarked : Unmarked name.toList)
      (nonempty : name.toList ≠ []) (given : arguments ≠ [])
      (fits : ∀ factory, NameTable.get? r.generic name = some factory →
        factory.Takes arguments.length)
      (parts : ∀ t ∈ arguments, Resolvable r t) : Resolvable r (.named name arguments)
  | optional (wrapped : TypeExpr) (implicit : Bool) (part : Resolvable r wrapped) :
      Resolvable r (.optional wrapped implicit)
  | array (element : TypeExpr) (part : Resolvable r element) : Resolvable r (.array element)
  | dictionary (key value : TypeExpr) (keyPart : Resolvable r key)
      (valuePart : Resolvable r value) : Resolvable r (.dictionary key value)

mutual

/-- What a type gives from part to part, without its text being read. -/
def build (r : Registry) : TypeExpr → Except Failure (Reader Value)
  | .optional wrapped _ => do return Reader.optional (← r.build wrapped)
  | .array element => do return Reader.array (← r.build element)
  | .dictionary key value => do
    let _ ← r.build key
    return Reader.dictionary (← r.build value)
  | .named name (first :: others) =>
    let text := (TypeExpr.named name (first :: others)).text
    match NameTable.get? r.generic name with
    | none => throw (.unregistered text)
    | some factory => do
      let reader ← r.build first
      applyFactory text factory (reader :: (← r.buildAll others))
  | t =>
    match NameTable.get? r.plain t.text with
    | some reader => return reader
    | none => throw (.unregistered t.text)

/-- What several types give, in order. -/
def buildAll (r : Registry) : List TypeExpr → Except Failure (List (Reader Value))
  | [] => return []
  | t :: ts => do
    let reader ← r.build t
    return reader :: (← r.buildAll ts)

end

mutual

/-- The parts of a type that are not registered, from left to right: names, and generic types whose
name has no factory. -/
def missing (r : Registry) : TypeExpr → List String
  | .optional wrapped _ => r.missing wrapped
  | .array element => r.missing element
  | .dictionary key value => r.missing key ++ r.missing value
  | .named name (first :: others) =>
    match NameTable.get? r.generic name with
    | none => [(TypeExpr.named name (first :: others)).text]
    | some _ => r.missing first ++ r.missingOf others
  | t =>
    match NameTable.get? r.plain t.text with
    | some _ => []
    | none => [t.text]

/-- The parts of several types that are not registered. -/
def missingOf (r : Registry) : List TypeExpr → List String
  | [] => []
  | t :: ts => r.missing t ++ r.missingOf ts

end

/-! ## Texts of such types -/

theorem IsDotted.text {t : TypeExpr} (dotted : IsDotted t) :
    Unmarked t.text.toList ∧ t.text.toList ≠ [] := by
  induction dotted with
  | named name unmarked nonempty =>
    rw [show (TypeExpr.named name []).text = name by
      simp [TypeExpr.text, TypeExpr.texts, TypeExpr.argumentList]]
    exact ⟨unmarked, nonempty⟩
  | member base name _ unmarked ih =>
    have text : (TypeExpr.member base name []).text.toList =
        base.text.toList ++ '.' :: name.toList := by
      simp [TypeExpr.text, TypeExpr.texts, TypeExpr.argumentList]
    rw [text]
    refine ⟨fun c there => ?_, by simp⟩
    rcases List.mem_append.1 there with before | there
    · exact ih.1 c before
    · rcases List.mem_cons.1 there with rfl | behind
      · decide
      · exact unmarked c behind

theorem toList_text_optional (wrapped : TypeExpr) (implicit : Bool) :
    (TypeExpr.optional wrapped implicit).text.toList =
      wrapped.text.toList ++ [if implicit then '!' else '?'] := by
  cases implicit <;> simp [TypeExpr.text]

theorem toList_text_array (element : TypeExpr) :
    (TypeExpr.array element).text.toList = '[' :: element.text.toList ++ [']'] := by
  simp [TypeExpr.text]

theorem toList_text_dictionary (key value : TypeExpr) :
    (TypeExpr.dictionary key value).text.toList =
      '[' :: (key.text.toList ++ ':' :: ' ' :: value.text.toList) ++ [']'] := by
  simp [TypeExpr.text]

theorem toList_text_generic (name : String) {arguments : List TypeExpr} (given : arguments ≠ []) :
    (TypeExpr.named name arguments).text.toList =
      name.toList ++ '<' :: (joinWith ", " (arguments.map TypeExpr.text)).toList ++ ['>'] := by
  simp [TypeExpr.text, TypeExpr.argumentList, TypeExpr.texts_eq_map, given]

theorem Resolvable.proper {t : TypeExpr} (resolvable : r.Resolvable t) : Proper t.text.toList := by
  induction resolvable with
  | name t dotted => exact dotted.text.1.proper dotted.text.2
  | generic name arguments unmarked nonempty given _ _ ih =>
    have front := unmarked.proper nonempty
    have within : depthAfter? 1 (joinWith ", " (arguments.map TypeExpr.text)).toList = some 1 :=
      depthAfter?_joinWith (by simpa using ih)
    rw [toList_text_generic name given]
    exact {
      nonempty := by simp
      starts := by
        rw [List.append_assoc]
        exact startsPlain_append front.starts nonempty _
      ends := endsPlain_concat (by decide) _
      enclosed := by
        rw [List.append_assoc]
        exact front.enclosed.append (enclosed_brackets rfl rfl within) }
  | optional wrapped implicit _ ih =>
    rw [toList_text_optional]
    exact {
      nonempty := by simp
      starts := startsPlain_append ih.starts ih.nonempty _
      ends := endsPlain_concat (by cases implicit <;> decide) _
      enclosed := ih.enclosed.append (by cases implicit <;> rfl) }
  | array element _ ih =>
    rw [toList_text_array]
    exact {
      nonempty := by simp
      starts := fun c first => by cases first; decide
      ends := endsPlain_concat (by decide) _
      enclosed := enclosed_brackets rfl rfl (ih.enclosed.depthAfter? 1) }
  | dictionary key value _ _ ihKey ihValue =>
    have within : depthAfter? 1 (key.text.toList ++ ':' :: ' ' :: value.text.toList) = some 1 := by
      rw [depthAfter?_append (ihKey.enclosed.depthAfter? 1)]
      exact ihValue.enclosed.depthAfter? 1
    rw [toList_text_dictionary]
    exact {
      nonempty := by simp
      starts := fun c first => by cases first; decide
      ends := endsPlain_concat (by decide) _
      enclosed := enclosed_brackets rfl rfl within }

/-! ## Reading such texts -/

theorem read_name {t : TypeExpr} (dotted : IsDotted t) : read t.text = .plain t.text := by
  rw [read_of_proper (dotted.text.1.proper dotted.text.2), formOf_unmarked dotted.text.1]
  rfl

theorem read_optional {wrapped : TypeExpr} {implicit : Bool}
    (part : r.Resolvable wrapped) :
    read (TypeExpr.optional wrapped implicit).text =
      .optional (TypeExpr.optional wrapped implicit).text (read wrapped.text) := by
  rw [read_of_proper (Resolvable.optional wrapped implicit part).proper, toList_text_optional,
    formOf_optional, ofForm, readPart_of_trimBlanks part.proper.trimBlanks]

theorem read_array {element : TypeExpr} (part : r.Resolvable element) :
    read (TypeExpr.array element).text =
      .array (TypeExpr.array element).text (read element.text) := by
  rw [read_of_proper (Resolvable.array element part).proper, toList_text_array, formOf_brackets,
    bracketForm_array part.proper, ofForm, readPart_of_trimBlanks part.proper.trimBlanks]

theorem read_dictionary {key value : TypeExpr} (keyPart : r.Resolvable key)
    (valuePart : r.Resolvable value) :
    read (TypeExpr.dictionary key value).text =
      .dictionary (TypeExpr.dictionary key value).text (read key.text) (read value.text) := by
  have trimmed : trimBlanks (' ' :: value.text.toList) = value.text.toList := by
    rw [trimBlanks_blank, valuePart.proper.trimBlanks]
  rw [read_of_proper (Resolvable.dictionary key value keyPart valuePart).proper,
    toList_text_dictionary, formOf_brackets, bracketForm_dictionary keyPart.proper, ofForm,
    readPart_of_trimBlanks keyPart.proper.trimBlanks, readPart_of_trimBlanks trimmed]

theorem read_generic {name : String} {arguments : List TypeExpr} (unmarked : Unmarked name.toList)
    (nonempty : name.toList ≠ []) (given : arguments ≠ [])
    (proper : Proper (TypeExpr.named name arguments).text.toList)
    (parts : ∀ t ∈ arguments, r.Resolvable t) :
    read (TypeExpr.named name arguments).text =
      .generic (TypeExpr.named name arguments).text name
        (arguments.map fun t => read t.text) := by
  have inner : (partsOutside ',' 0 (joinWith ", " (arguments.map TypeExpr.text)).toList).map
      readPart = (arguments.map TypeExpr.text).map read :=
    map_readPart_joinWith (by simpa using given)
      (by simpa using fun t there => (parts t there).proper)
  rw [read_of_proper proper, toList_text_generic name given, formOf_generic unmarked nonempty,
    ofForm, inner, String.ofList_toList, List.map_map]
  rfl

/-! ## What is found -/

/-- A text with a mark is not registered as a whole. -/
theorem get?_eq_none_of_mark (bare : ∀ e ∈ r.plain, Unmarked e.1.toList) {text : String} {c : Char}
    (there : c ∈ text.toList) (mark : isMark c = true) : NameTable.get? r.plain text = none := by
  rcases known : NameTable.get? r.plain text with _ | reader
  · rfl
  · have noMark := (bare _ (NameTable.mem_of_get? known) c there).1
    rw [mark] at noMark
    cases noMark

theorem wholeOr_of_mark (bare : ∀ e ∈ r.plain, Unmarked e.1.toList) {text : String} {c : Char}
    (there : c ∈ text.toList) (mark : isMark c = true) (parts : Except Failure (Reader Value)) :
    r.wholeOr text parts = parts := by
  rw [wholeOr, get?_eq_none_of_mark bare there mark]

theorem build_name {t : TypeExpr} (dotted : IsDotted t) :
    r.build t = r.wholeOr t.text (throw (.unregistered t.text)) := by
  cases dotted <;> rw [build, wholeOr] <;> first | rfl | nofun

/-- The texts of several types lead to what the types give, if each of them does. -/
theorem searchAll_texts {types : List TypeExpr}
    (each : ∀ t ∈ types, r.find t.text = r.build t) :
    r.searchAll (types.map fun t => read t.text) = r.buildAll types := by
  induction types with
  | nil => rw [List.map_nil, searchAll, walkAll, buildAll]
  | cons t types ih =>
    have first : r.walk _ (read t.text) = r.build t := each t List.mem_cons_self
    have later : r.walkAll _ (types.map fun t => read t.text) = r.buildAll types :=
      ih fun u there => each u (List.mem_cons_of_mem t there)
    rw [List.map_cons, searchAll, walkAll, first, later, buildAll]

/-- The text of a type leads to what the type gives from part to part. -/
theorem find_text (bare : ∀ e ∈ r.plain, Unmarked e.1.toList) {t : TypeExpr}
    (resolvable : r.Resolvable t) : r.find t.text = r.build t := by
  induction resolvable with
  | name t dotted => rw [find, read_name dotted, walk, build_name dotted]
  | generic name arguments unmarked nonempty given fits parts ih =>
    have proper := (Resolvable.generic name arguments unmarked nonempty given fits parts).proper
    have mark : '<' ∈ (TypeExpr.named name arguments).text.toList := by
      simp [toList_text_generic name given]
    obtain ⟨first, others, rfl⟩ := List.exists_cons_of_ne_nil given
    have inner : r.walk _ (read first.text) = r.build first := ih first List.mem_cons_self
    have later : r.walkAll _ (others.map fun t => read t.text) = r.buildAll others :=
      searchAll_texts fun t there => ih t (List.mem_cons_of_mem first there)
    rw [find, read_generic unmarked nonempty given proper parts, walk,
      wholeOr_of_mark bare mark rfl, List.map_cons, walkAll, inner, later, build]
    cases NameTable.get? r.generic name with
    | none => rfl
    | some factory => simp
  | optional wrapped implicit part ih =>
    have inner : r.walk _ (read wrapped.text) = r.build wrapped := ih
    have mark : (if implicit then '!' else '?') ∈
        (TypeExpr.optional wrapped implicit).text.toList := by
      simp [toList_text_optional]
    rw [find, read_optional part, walk, wholeOr_of_mark bare mark (by cases implicit <;> rfl),
      inner, build]
  | array element part ih =>
    have inner : r.walk _ (read element.text) = r.build element := ih
    have mark : '[' ∈ (TypeExpr.array element).text.toList := by simp [toList_text_array]
    rw [find, read_array part, walk, wholeOr_of_mark bare mark rfl, inner, build]
  | dictionary key value keyPart valuePart ihKey ihValue =>
    have innerKey : r.walk _ (read key.text) = r.build key := ihKey
    have innerValue : r.walk _ (read value.text) = r.build value := ihValue
    have mark : '[' ∈ (TypeExpr.dictionary key value).text.toList := by
      simp [toList_text_dictionary]
    rw [find, read_dictionary keyPart valuePart, walk, wholeOr_of_mark bare mark rfl, innerKey,
      innerValue, build]

/-! ## What is missing -/

/-- An outcome that is a failure with the first of some parts, or a result where there is none. -/
def Reports {α : Type} (parts : List String) (outcome : Except Failure α) (holds : α → Prop) :
    Prop :=
  match parts.head? with
  | none => ∃ a, outcome = .ok a ∧ holds a
  | some part => outcome = .error (.unregistered part)

theorem Reports.pure {α : Type} {holds : α → Prop} {a : α} (h : holds a) :
    Reports [] (Pure.pure a) holds :=
  ⟨a, rfl, h⟩

/-- The parts of a first outcome come before those of what follows on it. -/
theorem Reports.bind {α β : Type} {parts later : List String} {outcome : Except Failure α}
    {next : α → Except Failure β} {holds : α → Prop} {holdsLater : β → Prop}
    (first : Reports parts outcome holds)
    (second : ∀ a, holds a → Reports later (next a) holdsLater) :
    Reports (parts ++ later) (outcome >>= next) holdsLater := by
  cases parts with
  | nil =>
    obtain ⟨a, rfl, h⟩ := first
    exact second a h
  | cons part parts =>
    have failed : outcome = .error (.unregistered part) := first
    rw [failed]
    rfl

theorem Reports.map {α β : Type} {parts : List String} {outcome : Except Failure α} {f : α → β}
    {holds : α → Prop} {holdsLater : β → Prop} (first : Reports parts outcome holds)
    (kept : ∀ a, holds a → holdsLater (f a)) :
    Reports parts (outcome >>= fun a => Pure.pure (f a)) holdsLater := by
  have whole := first.bind fun a h => Reports.pure (kept a h)
  rwa [List.append_nil] at whole

/-- A factory that takes its arguments makes a reader of them. -/
theorem reports_applyFactory (text : String) {factory : Factory} {readers : List (Reader Value)}
    (takes : factory.Takes readers.length) :
    Reports [] (applyFactory text factory readers) fun _ => True := by
  obtain ⟨reader, made⟩ := Option.isSome_iff_exists.1 (takes readers rfl)
  rw [applyFactory, made]
  exact .pure trivial

theorem reports_name {t : TypeExpr} (dotted : IsDotted t) :
    Reports (r.missing t) (r.build t) fun _ => True := by
  have parts : r.missing t = match NameTable.get? r.plain t.text with
      | some _ => []
      | none => [t.text] := by
    cases dotted <;> rw [missing] <;> nofun
  rw [parts, build_name dotted, wholeOr]
  cases NameTable.get? r.plain t.text with
  | some reader => exact .pure trivial
  | none => rfl

/-- Several types have readers, or the first part fails that is not registered. -/
theorem reports_buildAll {types : List TypeExpr}
    (each : ∀ t ∈ types, Reports (r.missing t) (r.build t) fun _ => True) :
    Reports (r.missingOf types) (r.buildAll types) fun readers =>
      readers.length = types.length := by
  induction types with
  | nil =>
    rw [missingOf, buildAll]
    exact .pure rfl
  | cons t types ih =>
    have later := ih fun u there => each u (List.mem_cons_of_mem t there)
    rw [missingOf, buildAll]
    exact (each t List.mem_cons_self).bind fun reader _ =>
      later.map fun readers count => congrArg (· + 1) count

/-- A type has a reader, or fails with its first part that is not registered. -/
theorem reports_build {t : TypeExpr} (resolvable : r.Resolvable t) :
    Reports (r.missing t) (r.build t) fun _ => True := by
  induction resolvable with
  | name t dotted => exact reports_name dotted
  | generic name arguments _ _ given fits _ ih =>
    obtain ⟨first, others, rfl⟩ := List.exists_cons_of_ne_nil given
    rw [missing, build]
    rcases known : NameTable.get? r.generic name with _ | factory
    · rfl
    · have later := reports_buildAll fun t there => ih t (List.mem_cons_of_mem first there)
      refine (ih first List.mem_cons_self).bind fun reader _ => ?_
      rw [← List.append_nil (r.missingOf others)]
      refine later.bind fun readers count => reports_applyFactory _ ?_
      rw [List.length_cons, count]
      exact fits factory known
  | optional wrapped implicit _ ih =>
    rw [missing, build]
    exact ih.map fun _ _ => trivial
  | array element _ ih =>
    rw [missing, build]
    exact ih.map fun _ _ => trivial
  | dictionary key value _ _ ihKey ihValue =>
    rw [missing, build]
    exact ihKey.bind fun _ _ => ihValue.map fun _ _ => trivial

/-- Whatever was registered and looked up before: the text of a type leads to what the type gives
from part to part, which is a reader, or a failure with the first part that is not registered. -/
theorem resolve_text (reached : r.Reached) (bare : ∀ e ∈ r.plain, Unmarked e.1.toList)
    {t : TypeExpr} (resolvable : r.Resolvable t) :
    (r.resolve t.text).1 = r.build t ∧
      match (r.missing t).head? with
      | none => ∃ reader, r.build t = .ok reader
      | some part => r.build t = .error (.unregistered part) := by
  refine ⟨by rw [reached.resolve_eq_find, find_text bare resolvable], ?_⟩
  have reports := reports_build resolvable
  rw [Reports] at reports
  split
  · next none =>
    rw [none] at reports
    obtain ⟨reader, built, -⟩ := reports
    exact ⟨reader, built⟩
  · next part some =>
    rw [some] at reports
    exact reports

/-- A set of dictionaries whose lists have elements of a type that is not registered. -/
theorem resolve_nested_text :
    ((standard.resolve "[String]?").2.resolve "Set<[String: Array<Missing.Name>!]>?").1 =
      .error (.unregistered "Missing.Name") := by
  have reached : (standard.resolve "[String]?").2.Reached := reached_standard.resolve _
  have bare : ∀ e ∈ (standard.resolve "[String]?").2.plain, Unmarked e.1.toList := by
    change ∀ e ∈ standard.plain, Unmarked e.1.toList
    decide
  have dotted : IsDotted (.member (.named "Missing" []) "Name" []) :=
    .member _ _ (.named _ (by decide) (by decide)) (by decide)
  have string : IsDotted (.named "String" []) := .named _ (by decide) (by decide)
  have fits : ∀ name, name = "Set" ∨ name = "Array" → ∀ factory,
      NameTable.get? (standard.resolve "[String]?").2.generic name = some factory →
        factory.Takes 1 := by
    rintro name (rfl | rfl) factory known
    · cases known
      exact Factory.takes_unary _
    · cases known
      exact Factory.takes_unary _
  have lists := Resolvable.generic "Array" [_] (by decide) (by decide) (by simp)
    (fits _ (.inr rfl)) (by simpa using Resolvable.name _ dotted)
  have entries := Resolvable.dictionary _ _ (.name _ string) (.optional _ true lists)
  have set := Resolvable.generic "Set" [_] (by decide) (by decide) (by simp) (fits _ (.inl rfl))
    (by simpa using entries)
  obtain ⟨found, failed⟩ := resolve_text reached bare (.optional _ false set)
  have text : (TypeExpr.optional (.named "Set" [.dictionary (.named "String" [])
      (.optional (.named "Array" [.member (.named "Missing" []) "Name" []]) true)]) false).text =
        "Set<[String: Array<Missing.Name>!]>?" := by
    decide
  rw [← text, found]
  exact failed

end Registry

end ViewModifiers.Stylesheet
