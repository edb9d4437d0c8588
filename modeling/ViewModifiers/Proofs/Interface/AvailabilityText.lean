import ViewModifiers.Proofs.Dispatch.VersionOrder
import ViewModifiers.Proofs.Interface.Conditional
import ViewModifiers.Proofs.Interface.HeadingReading
import ViewModifiers.Proofs.Interface.Merging

/-!
# Availability read back from its text

The text of a constraint that only lists platforms, between the parentheses of an attribute, is read
back as that constraint. It is not taken for the long form, as the first item is a platform together
with its version; only the star of an empty list is, and this says nothing.

Attributes in front of a declaration are scanned one by one, whatever stands around them
(`exists_steps_front`), and merged as they come. So each adds the platforms that no earlier one
lists (`foldl_merge_listing`), even where a list gives several versions of a platform.
-/

namespace ViewModifiers.Interface

open Source Text Numeral TokenReader AttributeReader
open Dispatch (IsVersionText)

/-! ## What is listed -/

/-- The constraint that lists platforms with their versions, and says nothing else. -/
def Availability.listing (platforms : List (String × String)) : Availability :=
  ⟨platforms.map fun p => ⟨p.1, some p.2⟩, .empty, false, none, none⟩

/-- The text of an attribute for a constraint. -/
def availableText (a : Availability) : String := "@available(" ++ a.text ++ ")"

/-- Platforms that are named by identifiers, and versions that consist of numbers. -/
def IsListable (platforms : List (String × String)) : Prop :=
  ∀ p ∈ platforms, IsIdentifier p.1 ∧ IsVersionText p.2

/-- What each of several lists says about platforms that no earlier list mentions. -/
def listedFirst (lists : List (List (String × String))) : List (String × String) :=
  lists.zipIdx.flatMap fun entry =>
    entry.1.filter fun p => p.1 ∉ (lists.take entry.2).flatten.map (·.1)

/-- A text in which the scanner finds no token, wherever it stands. -/
def IsGap (gap : String) : Prop := ∀ p found, ScansTo gap.toList p found (.ok found)

/-- Attributes in front of a declaration, each with the text behind it. -/
def frontText (written : List (List (String × String) × String)) : String :=
  String.join (written.map fun w => availableText (.listing w.1) ++ w.2)

/-! ## Versions -/

section Versions

variable {sep : Char} {cs first : List Char} {rest : List (List Char)}

/-- A text begins as the first of its pieces, unless that is empty. -/
theorem head?_of_pieces (split : pieces sep cs = first :: rest) (filled : first ≠ []) :
    cs.head? = first.head? := by
  cases cs with
  | nil => exact absurd (List.cons.inj split).1.symm filled
  | cons c cs =>
    obtain ⟨next, later, splits⟩ := List.exists_cons_of_ne_nil (pieces_ne_nil sep cs)
    rw [pieces_cons, splits, cutBefore] at split
    split at split
    · exact absurd (List.cons.inj split).1.symm filled
    · rw [← (List.cons.inj split).1]
      rfl

/-- Runs of digits with dots between them are taken as one number. -/
theorem numberChars_of_pieces (split : pieces '.' cs = first :: rest) (digits : AllDigits first)
    (others : ∀ piece ∈ rest, piece ≠ [] ∧ AllDigits piece) : numberChars cs = cs := by
  induction cs generalizing first rest with
  | nil => rfl
  | cons c cs ih =>
    obtain ⟨next, later, splits⟩ := List.exists_cons_of_ne_nil (pieces_ne_nil '.' cs)
    rw [pieces_cons, splits, cutBefore] at split
    by_cases dot : c = '.'
    · subst dot
      rw [if_pos rfl] at split
      obtain ⟨-, rfl⟩ := List.cons.inj split
      obtain ⟨filled, isDigits⟩ := others next List.mem_cons_self
      obtain ⟨d, ds, rfl⟩ := List.exists_cons_of_ne_nil filled
      have digitNext : cs.head?.any isDigit = true := by
        rw [head?_of_pieces splits filled]
        exact isDigit_of_bounds isDigits.head
      have plain : (isAlphanumeric '.' || decide ('.' = '_')) = false := by decide
      rw [numberChars, plain, if_neg Bool.false_ne_true, digitNext, if_pos (by rfl),
        ih splits isDigits fun piece there => others piece (List.mem_cons_of_mem _ there)]
    · rw [if_neg dot] at split
      obtain ⟨rfl, rfl⟩ := List.cons.inj split
      have digit := isAlphanumeric_of_isDigit (isDigit_of_bounds digits.head)
      rw [numberChars, digit, Bool.true_or, if_pos rfl, ih splits digits.tail others]

theorem isNumber_of_isVersionText {version : String} (isVersion : IsVersionText version) :
    IsNumber version := by
  obtain ⟨first, rest, split⟩ := List.exists_cons_of_ne_nil (pieces_ne_nil '.' version.toList)
  rw [IsVersionText, split] at isVersion
  obtain ⟨⟨filled, digits⟩, others⟩ := List.forall_mem_cons.1 isVersion
  obtain ⟨c, cs, rfl⟩ := List.exists_cons_of_ne_nil filled
  obtain ⟨ds, characters⟩ := List.head?_eq_some_iff.1 (head?_of_pieces split filled)
  have taken := numberChars_of_pieces split digits others
  rw [characters] at taken
  exact ⟨c, ds, characters, isDigit_of_bounds digits.head, taken⟩

theorem IsListable.writable {platforms : List (String × String)} (listable : IsListable platforms) :
    ∀ p ∈ platforms, IsWord p.1 ∧ IsNumber p.2 := fun p there =>
  ⟨(listable p there).1.1, isNumber_of_isVersionText (listable p there).2⟩

theorem IsListable.versions {platforms : List (String × String)} (listable : IsListable platforms) :
    ∀ p ∈ platforms, p.2 ≠ "" := by
  intro p there empty
  obtain ⟨c, cs, characters, -⟩ := (listable.writable p there).2
  rw [empty] at characters
  cases characters

end Versions

/-! ## Merging lists -/

section Merging

variable {lists : List (List (String × String))} {name : String}

theorem listedFirst_concat (before : List (List (String × String)))
    (last : List (String × String)) :
    listedFirst (before ++ [last]) =
      listedFirst before ++ last.filter fun p => p.1 ∉ before.flatten.map (·.1) := by
  have earlier : ∀ entry ∈ before.zipIdx,
      (before ++ [last]).take entry.2 = before.take entry.2 := fun entry there =>
    List.take_append_of_le_length (List.snd_lt_of_mem_zipIdx there).le
  rw [listedFirst, List.zipIdx_append, List.flatMap_append, listedFirst]
  congr 1
  · refine List.flatMap_congr fun entry there => ?_
    rw [earlier entry there]
  · rw [Nat.zero_add, List.zipIdx_singleton, List.flatMap_singleton, List.take_left]

/-- No platform is lost. -/
theorem mem_names_listedFirst :
    name ∈ (listedFirst lists).map (·.1) ↔ name ∈ lists.flatten.map (·.1) := by
  induction lists using List.reverseRecOn with
  | nil => rfl
  | append_singleton before last ih =>
    rw [listedFirst_concat, List.map_append, List.mem_append, ih, List.flatten_concat,
      List.map_append, List.mem_append]
    refine ⟨Or.imp_right fun there => ?_, fun there => ?_⟩
    · exact (List.filter_sublist.map _).subset there
    · rcases there with earlier | there
      · exact .inl earlier
      · by_cases known : name ∈ before.flatten.map (·.1)
        · exact .inl known
        · obtain ⟨p, listed, rfl⟩ := List.mem_map.1 there
          exact .inr (List.mem_map_of_mem (List.mem_filter.2 ⟨listed, decide_eq_true known⟩))

/-- A list adds the platforms that the first one does not mention. -/
theorem merge_listing (first second : List (String × String)) :
    (Availability.listing first).merge (.listing second) =
      .listing (first ++ second.filter fun p => p.1 ∉ first.map (·.1)) := by
  have lists (name : String) :
      (!(Availability.listing first).lists name) = decide (name ∉ first.map (·.1)) := by
    rw [decide_not, Bool.not_inj_iff, Bool.eq_iff_iff, Availability.lists_iff, decide_eq_true_eq,
      Availability.listing, List.map_map]
    rfl
  simp only [Availability.merge, lists]
  simp only [Availability.listing, List.map_append, List.filter_map, NameSet.union_empty]
  rfl

/-- Lists that are merged as they come list each platform as the first of them does that mentions
it. -/
theorem foldl_merge_listing (lists : List (List (String × String))) :
    (lists.map Availability.listing).foldl Availability.merge .always =
      .listing (listedFirst lists) := by
  induction lists using List.reverseRecOn with
  | nil => rfl
  | append_singleton before last ih =>
    have unknown : (last.filter fun p => p.1 ∉ (listedFirst before).map (·.1)) =
        last.filter fun p => p.1 ∉ before.flatten.map (·.1) :=
      List.filter_congr fun p _ => by rw [decide_eq_decide, mem_names_listedFirst]
    rw [List.map_append, List.foldl_append, ih, List.map_singleton, List.foldl_cons,
      List.foldl_nil, merge_listing, unknown, listedFirst_concat]

end Merging

/-! ## Scanning -/

section Scanning

variable {platforms : List (String × String)}

/-- Pieces that fit everywhere are scanned as their tokens, whatever stands around them. -/
theorem scansTo_of_fitting {xs : List Piece} (fitting : ∀ rest, Fitting xs rest) (p : Position)
    (found : Array Token) :
    ScansTo (spell xs) p found (.ok (found ++ (placed p xs).toArray)) :=
  fun _ rest kept => run_of_fitting kept (fitting rest) p found

theorem ScansTo.scan_eq {text : String} {found : Array Token}
    (scans : ScansTo text.toList .start #[] (.ok found)) :
    scan text = .ok ⟨found.toList, Position.start.after text.toList⟩ := by
  have whole := scans [] [] rfl
  rw [List.append_nil] at whole
  rw [scan, Scanner.initial, whole]
  rfl

theorem isGap_separators {gap : String} (separators : gap.toList.all isSeparator = true) :
    IsGap gap := fun _ _ _ rest _ =>
  run_separators gap.toList rest (List.all_eq_true.1 separators)

theorem IsGap.append {gap more : String} (first : IsGap gap) (second : IsGap more) :
    IsGap (gap ++ more) := by
  intro p found
  rw [String.toList_append]
  exact (first p found).append (second _ found)

/-- A remark up to the end of its line is a gap. -/
theorem isGap_remark {remark : String} (oneLine : '\n' ∉ remark.toList) :
    IsGap ("//" ++ remark ++ "\n") := by
  intro p found frames rest _
  have line : '\n' ∉ '/' :: '/' :: remark.toList := by simp [oneLine]
  have ahead : lexeme (Scanner.dropping ⟨p, frames, found⟩) '/'
      (('/' :: remark.toList) ++ '\n' :: rest) =
      .ok (.blank, ('/' :: remark.toList).length + 1) := by
    rw [lexeme, if_neg (by decide), if_pos (by simp)]
    exact congrArg (fun n => Except.ok (Lexeme.blank, n)) (lineSize_line line rest)
  have scanned := (run_of_lexeme ahead rfl).trans (run_newline rest)
  rw [← Position.after_append] at scanned
  change _ = Scanner.run 0 rest ⟨p.after ("//" ++ remark ++ "\n").toList, frames, found⟩
  simpa using scanned

/-- The text of an attribute is what its pieces spell. -/
theorem spell_availablePieces (versions : ∀ p ∈ platforms, p.2 ≠ "") :
    spell (availablePieces platforms) = (availableText (.listing platforms)).toList := by
  have texts : (Availability.listing platforms).platforms.map PlatformRequirement.text =
      platforms.map fun p => p.1 ++ " " ++ p.2 := by
    rw [Availability.listing, List.map_map]
    refine List.map_congr_left fun p there => ?_
    have given : givenText (some p.2) = some p.2 :=
      givenText_eq_some_iff.2 ⟨rfl, versions p there⟩
    simp only [Function.comp, PlatformRequirement.text, PlatformRequirement.given, given]
  have listed : spell (platforms.flatMap platformPieces) =
      (platforms.map fun p => p.1 ++ " " ++ p.2).flatMap fun w => w.toList ++ ", ".toList := by
    clear versions texts
    induction platforms with
    | nil => rfl
    | cons p platforms ih =>
      have first : spell (platformPieces p) = (p.1 ++ " " ++ p.2).toList ++ ", ".toList := by
        rw [String.toList_append, String.toList_append, List.append_assoc, List.append_assoc]
        rfl
      rw [List.flatMap_cons, spell_append, ih, List.map_cons, List.flatMap_cons, first]
  rw [availableText, Availability.text, texts, String.toList_append, String.toList_append,
    toList_joinWith_append, ← listed]
  simp [availablePieces, spell_append, TokenKind.label]

end Scanning

/-! ## Reading -/

section Reading

variable {written : List (List (String × String) × String)}

/-- What is read of an attribute that lists platforms. -/
def listingRead (platforms : List (String × String)) : Attribute × Option Availability :=
  ((WrittenAttribute.available platforms).declared, some (.listing platforms))

theorem toList_frontText_cons (w : List (String × String) × String)
    (written : List (List (String × String) × String)) :
    (frontText (w :: written)).toList =
      (availableText (.listing w.1)).toList ++ (w.2.toList ++ (frontText written).toList) := by
  rw [frontText, List.map_cons, String.join_cons, String.toList_append, String.toList_append,
    List.append_assoc, frontText]

/-- Attributes are scanned and read one by one, whatever stands around them. -/
theorem exists_steps_front (each : ∀ w ∈ written, IsListable w.1 ∧ IsGap w.2) (p : Position)
    (found : Array Token) :
    ∃ tokens : List Token,
      ScansTo (frontText written).toList p found (.ok (found ++ tokens.toArray)) ∧
      ∀ attributes ts finish, Steps (manyStep attribute?) attributes ⟨tokens ++ ts, finish⟩
        ((written.map fun w => listingRead w.1).reverse ++ attributes) ⟨ts, finish⟩ := by
  induction written generalizing p found with
  | nil =>
    refine ⟨[], fun _ _ _ => ?_, fun _ _ _ => .refl _ _⟩
    rw [Array.append_empty]
    rfl
  | cons w written ih =>
    obtain ⟨listable, gap⟩ := each w List.mem_cons_self
    let first := placed p (availablePieces w.1)
    have scansFirst := scansTo_of_fitting (fitting_availablePieces listable.writable) p found
    rw [spell_availablePieces listable.versions] at scansFirst
    obtain ⟨tokens, scans, steps⟩ := ih (fun v there => each v (List.mem_cons_of_mem w there))
      ((p.after (availableText (.listing w.1)).toList).after w.2.toList)
      (found ++ first.toArray)
    refine ⟨first ++ tokens, ?_, fun attributes ts finish => ?_⟩
    · rw [toList_frontText_cons, ← List.append_toArray, ← Array.append_assoc]
      exact scansFirst.append ((gap _ _).append scans)
    · have words : ∀ p ∈ w.1, IsWord p.1 := fun p there => (listable p there).1.1
      have read := run'_attribute?_available words p (tokens ++ ts) finish
      rw [List.append_assoc, List.map_cons, List.reverse_cons, List.append_assoc,
        List.singleton_append]
      have filled : 0 < first.length := Nat.succ_pos _
      refine .next (run'_bind_of_ok read) ?_ (steps (listingRead w.1 :: attributes) ts finish)
      simp only [List.length_append]
      omega

/-- Attributes are read wherever they stand, up to the declaration behind them. -/
theorem exists_readAttributes_front (each : ∀ w ∈ written, IsListable w.1 ∧ IsGap w.2)
    (p : Position) (found : Array Token) :
    ∃ tokens : List Token,
      ScansTo (frontText written).toList p found (.ok (found ++ tokens.toArray)) ∧
      ∀ ts finish, nextKind ts ≠ .atSign →
        readAttributes.run' ⟨tokens ++ ts, finish⟩ =
          (.ok (written.map fun w => (WrittenAttribute.available w.1).declared,
            .listing (listedFirst (written.map (·.1)))), ⟨ts, finish⟩) := by
  obtain ⟨tokens, scans, steps⟩ := exists_steps_front each p found
  refine ⟨tokens, scans, fun ts finish noAttribute => ?_⟩
  have last := run'_attribute?_none finish noAttribute
  have read : (many attribute?).run' ⟨tokens ++ ts, finish⟩ =
      (.ok (written.map fun w => listingRead w.1), ⟨ts, finish⟩) := by
    refine run'_iterate (steps [] ts finish) ((run'_bind_of_ok last).trans ?_)
    rw [List.append_nil, List.reverse_reverse]
    rfl
  have given : (written.map fun w => listingRead w.1).filterMap (·.2) =
      (written.map (·.1)).map Availability.listing := by
    rw [List.filterMap_map, List.map_map]
    exact congrFun (List.filterMap_eq_map (f := fun w => Availability.listing w.1)) written
  have declared : (written.map fun w => listingRead w.1).map (·.1) =
      written.map fun w => (WrittenAttribute.available w.1).declared := List.map_map
  rw [readAttributes, run'_bind_of_ok read, given, foldl_merge_listing, declared]
  rfl

/-- **Availability is read back from its text.** Between the parentheses of an attribute, the text
of a constraint that lists platforms is read as that constraint. Several such attributes in front of
a declaration list, in the order in which they are written, what each of them says about platforms
that no earlier one mentions. This holds wherever they stand, with blanks and remarks between
them. -/
theorem readAttributes_availableText (platforms : List (String × String))
    (listable : IsListable platforms) (written : List (List (String × String) × String))
    (each : ∀ w ∈ written, IsListable w.1 ∧ IsGap w.2) :
    (∃ s, scan (availableText (.listing platforms)) = .ok s ∧
      readAttributes.run' s =
        (.ok ([(WrittenAttribute.available platforms).declared], .listing platforms),
          ⟨[], s.finish⟩)) ∧
    ∀ p found, ∃ tokens : List Token,
      ScansTo (frontText written).toList p found (.ok (found ++ tokens.toArray)) ∧
      ∀ ts finish, nextKind ts ≠ .atSign →
        readAttributes.run' ⟨tokens ++ ts, finish⟩ =
          (.ok (written.map fun w => (WrittenAttribute.available w.1).declared,
            .listing (listedFirst (written.map (·.1)))), ⟨ts, finish⟩) := by
  have alone : ∀ w ∈ [(platforms, "")], IsListable w.1 ∧ IsGap w.2 :=
    List.forall_mem_singleton.2 ⟨listable, isGap_separators rfl⟩
  obtain ⟨tokens, scans, read⟩ := exists_readAttributes_front alone .start #[]
  have text : frontText [(platforms, "")] = availableText (.listing platforms) := by
    simp [frontText]
  have once : listedFirst [platforms] = platforms := by simp [listedFirst]
  have whole := read [] (Position.start.after (availableText (.listing platforms)).toList) nofun
  rw [text] at scans
  rw [List.map_singleton, List.map_singleton, once, List.append_nil] at whole
  rw [Array.empty_append] at scans
  exact ⟨⟨_, scans.scan_eq, whole⟩, exists_readAttributes_front each⟩

/-- A later version of a platform that is listed already does not count. -/
theorem readAttributes_availableText_overlapping :
    (∃ s, scan "@available(iOS 14.0, macOS 10.15.4, *)" = .ok s ∧
      readAttributes.run' s =
        (.ok ([⟨"available", some "iOS14.0, macOS10.15.4, *"⟩],
          ⟨[⟨"iOS", some "14.0"⟩, ⟨"macOS", some "10.15.4"⟩], .empty, false, none, none⟩),
          ⟨[], s.finish⟩)) ∧
    ∀ p found, ∃ tokens : List Token,
      ScansTo ("@available(iOS 14.0, *)\n" ++
        "@available(iOS 15, tvOS 14.2, tvOS 15, *) // later\n").toList p found
        (.ok (found ++ tokens.toArray)) ∧
      ∀ ts finish, nextKind ts ≠ .atSign →
        readAttributes.run' ⟨tokens ++ ts, finish⟩ =
          (.ok ([⟨"available", some "iOS14.0, *"⟩,
            ⟨"available", some "iOS15, tvOS14.2, tvOS15, *"⟩],
            ⟨[⟨"iOS", some "14.0"⟩, ⟨"tvOS", some "14.2"⟩, ⟨"tvOS", some "15"⟩], .empty, false,
              none, none⟩), ⟨ts, finish⟩) := by
  have iOS : IsIdentifier "iOS" := ⟨isWord_of_name rfl (by decide) (by decide), by decide⟩
  have macOS : IsIdentifier "macOS" := ⟨isWord_of_name rfl (by decide) (by decide), by decide⟩
  have tvOS : IsIdentifier "tvOS" := ⟨isWord_of_name rfl (by decide) (by decide), by decide⟩
  have listable : IsListable [("iOS", "14.0"), ("macOS", "10.15.4")] :=
    List.forall_mem_cons.2 ⟨⟨iOS, by decide⟩, List.forall_mem_singleton.2 ⟨macOS, by decide⟩⟩
  have first : IsListable [("iOS", "14.0")] := List.forall_mem_singleton.2 ⟨iOS, by decide⟩
  have second : IsListable [("iOS", "15"), ("tvOS", "14.2"), ("tvOS", "15")] :=
    List.forall_mem_cons.2 ⟨⟨iOS, by decide⟩, List.forall_mem_cons.2 ⟨⟨tvOS, by decide⟩,
      List.forall_mem_singleton.2 ⟨tvOS, by decide⟩⟩⟩
  have remark : IsGap (" " ++ ("//" ++ " later" ++ "\n")) :=
    (isGap_separators (by decide)).append (isGap_remark (by decide))
  exact readAttributes_availableText _ listable
    [([("iOS", "14.0")], "\n"),
      ([("iOS", "15"), ("tvOS", "14.2"), ("tvOS", "15")], " " ++ ("//" ++ " later" ++ "\n"))]
    (List.forall_mem_cons.2 ⟨⟨first, isGap_separators (by decide)⟩,
      List.forall_mem_singleton.2 ⟨second, remark⟩⟩)

end Reading

end ViewModifiers.Interface
