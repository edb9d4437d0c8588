import ViewModifiers.Interface.Report
import ViewModifiers.Proofs.Interface.ReaderBlame
import ViewModifiers.Proofs.Interface.Tiling
import ViewModifiers.Proofs.Source.Excerpt

/-!
# Where faults are found

An error lies at a position of the text, whether the scanner or a reader finds it: the scanner looks
at characters of the text, and a reader blames one of its tokens. So the report of an error shows
the line of the fault, between the lines around it.
-/

namespace ViewModifiers.Interface

open Source Text TokenReader

variable {text : String} {e : SyntaxError}

/-- An interface is not read because the scanner fails, or else the reader of its tokens does. -/
theorem readInterface_eq_error (failed : readInterface text = .error e) :
    scan text = .error e ∨
      ∃ stream s, scan text = .ok stream ∧ readSourceFile.run' stream = (.error e, s) := by
  unfold readInterface at failed
  cases scanned : scan text with
  | error e' =>
    rw [scanned] at failed
    cases failed
    exact .inl rfl
  | ok stream =>
    rw [scanned] at failed
    exact .inr ⟨stream, (readSourceFile.run' stream).2, rfl, Prod.ext failed rfl⟩

/-- Nothing is wrong with a text without characters. -/
theorem ne_empty_of_readInterface (failed : readInterface text = .error e) : text ≠ "" := by
  rintro rfl
  cases failed

/-- An error lies at a position of the text. -/
theorem liesIn_of_readInterface (failed : readInterface text = .error e) :
    e.position.LiesIn text.toList := by
  rcases readInterface_eq_error failed with unscanned | ⟨stream, s, scanned, unread⟩
  · exact liesIn_scan unscanned
  · obtain ⟨_, error⟩ := stays_readSourceFile stream (liesIn_of_scan scanned)
    exact error e s unread

/-- The report of an error says where it is and what it is, and shows the line of the fault with two
lines on either side at most. -/
theorem exists_report (failed : readInterface text = .error e) (file : String) :
    ∃ shown, Excerpt.ShowsPlace text e.position 2 shown ∧
      e.report file text =
        joinWith "\n" (((excerptAt file text e.position).location ++ ": " ++ e.fault.message) ::
          shown) := by
  obtain ⟨n, -, here⟩ := liesIn_of_readInterface failed
  refine ⟨(excerptAt file text e.position).render, ?_, rfl⟩
  rw [here]
  exact Excerpt.showsPlace_around (ne_empty_of_readInterface failed) file n (by decide)

/-- The places that are noted of a text are exact. It is scanned as the tokens of its tiles, each at
the position of the offset of its first character, and the end of the file at that of its length;
these offsets increase. And an error lies at an offset of the text and is shown there. -/
theorem locations_exact (file text : String) :
    (∀ stream, scan text = .ok stream ↔ ∃ tiles, Tiling [] tiles text.toList ∧
      stream = ⟨(tokensFrom text.toList 0 tiles).map Prod.snd,
        .ofOffset text.toList text.toList.length⟩) ∧
    (∀ tiles, Tiling [] tiles text.toList →
      ((tokensFrom text.toList 0 tiles).map Prod.fst ++ [text.toList.length]).Pairwise (· < ·)) ∧
    ∀ e, readInterface text = .error e → e.position.LiesIn text.toList ∧
      ∃ shown, Excerpt.ShowsPlace text e.position 2 shown ∧
        e.report file text =
          joinWith "\n" (((excerptAt file text e.position).location ++ ": " ++
            e.fault.message) :: shown) := by
  refine ⟨fun _ => scan_eq_ok_iff, fun tiles tiling => ?_, fun _ failed => ?_⟩
  · have increasing := (tiling.pairwise_offsets text.toList 0).1
    rwa [Nat.zero_add] at increasing
  · exact ⟨liesIn_of_readInterface failed, exists_report failed file⟩

end ViewModifiers.Interface
