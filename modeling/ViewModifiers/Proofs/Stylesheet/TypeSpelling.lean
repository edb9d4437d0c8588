import Mathlib.Data.List.Basic
import ViewModifiers.Proofs.Text.Blank
import ViewModifiers.Stylesheet.TypeSpelling

/-!
# Reading the spelling of a type

The bound on the nesting never shows: a spelling is read by its form, and its parts are read as
spellings of their own (`readPart_eq`). So every part that is read keeps a spelling that is read as
this part again (`readable_read`).

Where a separator stands outside all brackets is a matter of the depth behind each character. A text
that leaves the depth as it was, and has no separator outside its brackets, is passed over as a
whole (`splitOutside_append`, `partsOutside_append`).
-/

namespace ViewModifiers.Stylesheet.TypeSpelling

open Text

/-! ## Parts are shorter than the whole -/

/-- The texts inside a form. -/
def Form.parts : Form → List (List Char)
  | plain => []
  | optional wrapped => [wrapped]
  | array element => [element]
  | dictionary key value => [key, value]
  | generic _ arguments => arguments

theorem length_splitOutside_fst (separator : Char) (depth : Int) (cs : List Char) :
    (splitOutside separator depth cs).1.length ≤ cs.length := by
  induction cs generalizing depth with
  | nil => exact Nat.le_refl 0
  | cons c cs ih =>
    rw [splitOutside]
    split
    · exact Nat.zero_le _
    · exact Nat.succ_le_succ (ih _)

theorem length_splitOutside_snd {separator : Char} {depth : Int} {cs behind : List Char}
    (h : (splitOutside separator depth cs).2 = some behind) : behind.length < cs.length := by
  induction cs generalizing depth with
  | nil => cases h
  | cons c cs ih =>
    rw [splitOutside] at h
    split at h
    · cases h
      exact Nat.lt_succ_self _
    · exact (ih h).trans (Nat.lt_succ_self _)

theorem partsOutside_ne_nil (separator : Char) (depth : Int) (cs : List Char) :
    partsOutside separator depth cs ≠ [] := by
  cases cs with
  | nil => exact List.cons_ne_nil _ _
  | cons c cs =>
    rw [partsOutside]
    split
    · exact List.cons_ne_nil _ _
    · exact List.cons_ne_nil _ _

theorem length_of_mem_partsOutside {separator : Char} {depth : Int} {cs part : List Char}
    (there : part ∈ partsOutside separator depth cs) : part.length ≤ cs.length := by
  induction cs generalizing depth part with
  | nil =>
    obtain rfl := List.mem_singleton.1 there
    exact Nat.le_refl 0
  | cons c cs ih =>
    obtain ⟨first, rest, split⟩ := List.exists_cons_of_ne_nil
      (partsOutside_ne_nil separator (depth + depthChange c) cs)
    rw [partsOutside, split] at there
    have known : ∀ p ∈ first :: rest, p.length ≤ cs.length := fun p within => ih (split ▸ within)
    have tail : ∀ p ∈ rest, p.length ≤ cs.length := fun p within =>
      known p (List.mem_cons_of_mem _ within)
    split at there
    · rcases List.mem_cons.1 there with rfl | there
      · exact Nat.zero_le _
      · exact (known part there).trans (Nat.le_succ _)
    · rcases List.mem_cons.1 there with rfl | there
      · exact Nat.succ_le_succ (known first List.mem_cons_self)
      · exact (tail part there).trans (Nat.le_succ _)

theorem length_of_mem_bracketForm {inner part : List Char}
    (there : part ∈ (bracketForm inner).parts) : part.length ≤ inner.length := by
  rw [bracketForm] at there
  split at there
  · next key value split =>
    have short := length_splitOutside_fst ':' 0 inner
    have shorter := length_splitOutside_snd (congrArg Prod.snd split)
    rw [split] at short
    simp only [Form.parts, List.mem_cons, List.not_mem_nil, or_false] at there
    rcases there with rfl | rfl
    · exact short
    · exact shorter.le
  · next element split =>
    have short := length_splitOutside_fst ':' 0 inner
    rw [split] at short
    simp only [Form.parts, List.mem_singleton] at there
    exact there ▸ short

theorem length_lt_of_mem_angleForm {cs part : List Char}
    (there : part ∈ (angleForm cs).parts) : part.length < cs.length := by
  rw [angleForm] at there
  split at there
  · cases there
  · next proper =>
    have within := length_of_mem_partsOutside there
    have nonempty : (cs.takeWhile (· ≠ '<')).length ≠ cs.length := by simp_all
    have bound := (List.takeWhile_sublist (· ≠ '<') (l := cs)).length_le
    simp only [List.length_dropLast, List.length_drop] at within
    omega

theorem length_lt_of_mem_formOf {cs part : List Char} (there : part ∈ (formOf cs).parts) :
    part.length < cs.length := by
  cases cs with
  | nil => cases there
  | cons c cs =>
    have shorter : (c :: cs).dropLast.length < (c :: cs).length := by simp
    rw [formOf] at there
    split at there
    · exact (List.mem_singleton.1 there) ▸ shorter
    · exact (List.mem_singleton.1 there) ▸ shorter
    · split at there
      · have within := length_of_mem_bracketForm there
        simp only [List.tail_cons, List.length_dropLast, List.length_cons] at within ⊢
        omega
      · cases there
    · exact length_lt_of_mem_angleForm there
    · cases there

/-! ## Reading by the form -/

/-- The tree of a text of some form, whose parts are read in some way. -/
def ofForm (inner : List Char → TypeSpelling) (text : String) : Form → TypeSpelling
  | .plain => plain text
  | .optional wrapped => optional text (inner wrapped)
  | .array element => array text (inner element)
  | .dictionary key value => dictionary text (inner key) (inner value)
  | .generic name arguments => generic text (String.ofList name) (arguments.map inner)

@[simp] theorem text_ofForm (inner : List Char → TypeSpelling) (text : String) (form : Form) :
    (ofForm inner text form).text = text := by
  cases form <;> rfl

theorem ofForm_congr {inner inner' : List Char → TypeSpelling} {form : Form}
    (same : ∀ part ∈ form.parts, inner part = inner' part) (text : String) :
    ofForm inner text form = ofForm inner' text form := by
  cases form with
  | plain => rfl
  | optional wrapped => rw [ofForm, same wrapped (by simp [Form.parts]), ofForm]
  | array element => rw [ofForm, same element (by simp [Form.parts]), ofForm]
  | dictionary key value =>
    rw [ofForm, same key (by simp [Form.parts]), same value (by simp [Form.parts]), ofForm]
  | generic name arguments =>
    have all : arguments.map inner = arguments.map inner' := List.map_congr_left same
    rw [ofForm, all, ofForm]

theorem readFrom_succ (depth : Nat) (cs : List Char) :
    readFrom (depth + 1) cs =
      ofForm (readFrom depth) (String.ofList (trimBlanks cs)) (formOf (trimBlanks cs)) := by
  rw [readFrom]
  cases formOf (trimBlanks cs) <;> rfl

/-- Reads the text of a part. -/
def readPart (cs : List Char) : TypeSpelling := read (String.ofList (trimBlanks cs))

/-- What is read depends neither on the blanks around a text nor on a bound that suffices. -/
theorem readFrom_eq_readPart (depth : Nat) (cs : List Char)
    (bound : (trimBlanks cs).length ≤ depth) : readFrom depth cs = readPart cs := by
  induction depth using Nat.strongRecOn generalizing cs with
  | ind depth ih =>
    rw [readPart, read, String.length_ofList, String.toList_ofList]
    rcases depth with _ | depth
    · rw [Nat.le_zero.1 bound, readFrom, readFrom, trimBlanks_trimBlanks]
    · rcases size : (trimBlanks cs).length with _ | n
      · rw [readFrom_succ, readFrom, trimBlanks_trimBlanks, List.length_eq_zero_iff.1 size]
        rfl
      · rw [readFrom_succ, readFrom_succ, trimBlanks_trimBlanks]
        -- the parts are shorter than both bounds
        refine ofForm_congr (fun part there => ?_) _
        have shorter := length_lt_of_mem_formOf there
        have trimmed := length_trimBlanks_le part
        rw [ih depth (by omega) part (by omega), ih n (by omega) part (by omega)]

/-- A text is read by its form. -/
theorem readPart_eq (cs : List Char) :
    readPart cs = ofForm readPart (String.ofList (trimBlanks cs)) (formOf (trimBlanks cs)) := by
  have enough : (trimBlanks cs).length ≤ (trimBlanks cs).length + 1 := Nat.le_succ _
  rw [← readFrom_eq_readPart _ cs enough, readFrom_succ]
  refine ofForm_congr (fun part there => ?_) _
  have shorter := length_lt_of_mem_formOf there
  have trimmed := length_trimBlanks_le part
  exact readFrom_eq_readPart _ part (by omega)

theorem read_eq_readPart (spelling : String) : read spelling = readPart spelling.toList :=
  readFrom_eq_readPart _ _ ((length_trimBlanks_le _).trans_eq String.length_toList)

/-- A trimmed text is its own spelling. -/
theorem readPart_of_trimBlanks {cs : List Char} {text : String}
    (trimmed : trimBlanks cs = text.toList) : readPart cs = read text := by
  rw [readPart, trimmed, String.ofList_toList]

/-! ## Every part has a spelling of its own -/

/-- A tree in which every part is what its spelling is read as. -/
inductive Readable : TypeSpelling → Prop
  | plain (text : String) (own : read text = plain text) : Readable (plain text)
  | optional (text : String) (wrapped : TypeSpelling) (own : read text = optional text wrapped)
      (part : Readable wrapped) : Readable (optional text wrapped)
  | array (text : String) (element : TypeSpelling) (own : read text = array text element)
      (part : Readable element) : Readable (array text element)
  | dictionary (text : String) (key value : TypeSpelling)
      (own : read text = dictionary text key value) (keyPart : Readable key)
      (valuePart : Readable value) : Readable (dictionary text key value)
  | generic (text name : String) (arguments : List TypeSpelling)
      (own : read text = generic text name arguments)
      (parts : ∀ argument ∈ arguments, Readable argument) : Readable (generic text name arguments)

section

variable {text name : String} {t u : TypeSpelling}

/-- What is inside of a tree that can be read can be read by itself. -/
theorem Readable.wrapped (readable : Readable (.optional text t)) : Readable t := by
  cases readable
  assumption

theorem Readable.element (readable : Readable (.array text t)) : Readable t := by
  cases readable
  assumption

theorem Readable.value (readable : Readable (.dictionary text t u)) : Readable u := by
  cases readable
  assumption

theorem Readable.argument (readable : Readable (.generic text name [t])) : Readable t := by
  cases readable with
  | generic _ _ _ _ parts => exact parts t List.mem_cons_self

end

theorem readable_readPart (cs : List Char) : Readable (readPart cs) := by
  generalize size : cs.length = n
  induction n using Nat.strongRecOn generalizing cs with
  | ind n ih =>
    have own : read (String.ofList (trimBlanks cs)) =
        ofForm readPart (String.ofList (trimBlanks cs)) (formOf (trimBlanks cs)) := readPart_eq cs
    have part (p : List Char) (there : p ∈ (formOf (trimBlanks cs)).parts) :
        Readable (readPart p) := by
      have shorter := length_lt_of_mem_formOf there
      have trimmed := length_trimBlanks_le cs
      exact ih p.length (by omega) p rfl
    rw [readPart_eq]
    generalize formOf (trimBlanks cs) = form at own part
    cases form with
    | plain => exact .plain _ own
    | optional wrapped => exact .optional _ _ own (part wrapped (by simp [Form.parts]))
    | array element => exact .array _ _ own (part element (by simp [Form.parts]))
    | dictionary key value =>
      exact .dictionary _ _ _ own (part key (by simp [Form.parts]))
        (part value (by simp [Form.parts]))
    | generic name arguments =>
      refine .generic _ _ _ own fun argument there => ?_
      obtain ⟨p, known, rfl⟩ := List.mem_map.1 there
      exact part p known

theorem readable_read (spelling : String) : Readable (read spelling) := by
  rw [read_eq_readPart]
  exact readable_readPart _

/-! ## Brackets -/

/-- The depth behind a character, given the depth in front of it; nothing behind a separator outside
all brackets and behind a bracket that closes none. -/
def stepDepth (depth : Nat) (c : Char) : Option Nat :=
  if (c = ',' || c = ':') && depth = 0 then none else ((depth : Int) + depthChange c).toNat?

/-- The depth behind a text. -/
def depthAfter? (depth : Nat) (cs : List Char) : Option Nat := cs.foldlM stepDepth depth

theorem depthAfter?_cons (depth : Nat) (c : Char) (cs : List Char) :
    depthAfter? depth (c :: cs) = (stepDepth depth c).bind (depthAfter? · cs) := rfl

theorem depthAfter?_append {depth d : Nat} {cs : List Char} (passed : depthAfter? depth cs = some d)
    (ds : List Char) : depthAfter? depth (cs ++ ds) = depthAfter? d ds := by
  rw [depthAfter?, List.foldlM_append]
  change (depthAfter? depth cs).bind _ = _
  rw [passed]
  rfl

theorem stepDepth_eq_some {depth d : Nat} {c : Char} (h : stepDepth depth c = some d) :
    ¬((c = ',' ∨ c = ':') ∧ depth = 0) ∧ (d : Int) = depth + depthChange c := by
  rw [stepDepth] at h
  split at h
  · cases h
  · next outside =>
    exact ⟨by simpa using outside, (Int.mem_toNat?.1 h).symm⟩

/-- Inside brackets the same text leads as far up or down as outside. -/
theorem stepDepth_add {depth d : Nat} {c : Char} (h : stepDepth depth c = some d) (k : Nat) :
    stepDepth (depth + k) c = some (d + k) := by
  obtain ⟨outside, value⟩ := stepDepth_eq_some h
  have sum : ((depth + k : Nat) : Int) + depthChange c = ((d + k : Nat) : Int) := by
    push_cast
    omega
  have kept : ((decide (c = ',') || decide (c = ':')) && decide (depth + k = 0)) = false := by
    simp only [Bool.and_eq_false_iff, Bool.or_eq_false_iff, decide_eq_false_iff_not]
    by_cases separates : c = ',' ∨ c = ':'
    · exact .inr fun zero => outside ⟨separates, by omega⟩
    · exact .inl (not_or.1 separates)
  rw [stepDepth, kept, sum]
  rfl

theorem depthAfter?_add {depth d : Nat} {cs : List Char} (passed : depthAfter? depth cs = some d)
    (k : Nat) : depthAfter? (depth + k) cs = some (d + k) := by
  induction cs generalizing depth with
  | nil =>
    cases passed
    rfl
  | cons c cs ih =>
    rw [depthAfter?_cons] at passed ⊢
    obtain ⟨next, step, rest⟩ := Option.bind_eq_some_iff.1 passed
    rw [stepDepth_add step k]
    exact ih rest

/-- A text whose separators are all inside brackets, which are paired. -/
def Enclosed (cs : List Char) : Prop := depthAfter? 0 cs = some 0

theorem Enclosed.depthAfter? {cs : List Char} (enclosed : Enclosed cs) (depth : Nat) :
    depthAfter? depth cs = some depth := by
  simpa using depthAfter?_add enclosed depth

theorem Enclosed.append {cs ds : List Char} (first : Enclosed cs) (second : Enclosed ds) :
    Enclosed (cs ++ ds) := by
  rw [Enclosed, depthAfter?_append first, second]

/-- A text that is passed through does not begin with a separator that counts. -/
theorem exists_depth_behind {separator : Char} (separates : separator = ',' ∨ separator = ':')
    {depth d : Nat} {c : Char} {cs : List Char} (passed : depthAfter? depth (c :: cs) = some d) :
    ∃ next : Nat, ¬((decide (c = separator) && decide ((depth : Int) = 0)) = true) ∧
      (next : Int) = depth + depthChange c ∧ depthAfter? next cs = some d := by
  rw [depthAfter?_cons] at passed
  obtain ⟨next, step, later⟩ := Option.bind_eq_some_iff.1 passed
  obtain ⟨outside, value⟩ := stepDepth_eq_some step
  refine ⟨next, fun here => ?_, value, later⟩
  simp only [Bool.and_eq_true, decide_eq_true_eq] at here
  exact outside ⟨here.1 ▸ separates, by omega⟩

/-- No separator is found before the depth is back at where one counts. -/
theorem splitOutside_append {separator : Char} (separates : separator = ',' ∨ separator = ':')
    {depth d : Nat} {cs : List Char} (passed : depthAfter? depth cs = some d) (rest : List Char) :
    splitOutside separator depth (cs ++ rest) =
      (cs ++ (splitOutside separator d rest).1, (splitOutside separator d rest).2) := by
  induction cs generalizing depth with
  | nil =>
    cases passed
    rfl
  | cons c cs ih =>
    obtain ⟨next, notHere, value, later⟩ := exists_depth_behind separates passed
    rw [List.cons_append, splitOutside, if_neg notHere, ← value, ih later]
    rfl

theorem partsOutside_append {separator : Char} (separates : separator = ',' ∨ separator = ':')
    {depth d : Nat} {cs : List Char} (passed : depthAfter? depth cs = some d) (rest : List Char) :
    partsOutside separator depth (cs ++ rest) =
      (cs ++ (partsOutside separator d rest).headD []) :: (partsOutside separator d rest).tail := by
  induction cs generalizing depth with
  | nil =>
    cases passed
    obtain ⟨first, later, split⟩ := List.exists_cons_of_ne_nil
      (partsOutside_ne_nil separator d rest)
    rw [List.nil_append, split]
    rfl
  | cons c cs ih =>
    obtain ⟨next, notHere, value, later⟩ := exists_depth_behind separates passed
    rw [List.cons_append, partsOutside, if_neg notHere, ← value, ih later]
    rfl

end ViewModifiers.Stylesheet.TypeSpelling
