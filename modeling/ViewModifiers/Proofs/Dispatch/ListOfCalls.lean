import ViewModifiers.Proofs.Dispatch.CallTokens
import ViewModifiers.Proofs.Stylesheet.Locality
import ViewModifiers.Proofs.Stylesheet.ScannedNumbers

/-!
# Lists of calls

The texts of several calls are written as one list. Each text is scanned as its own tokens there,
and each call is read as what its text is read as by itself, in places that may differ
(`parseList_listText`). Reading a list begins with the kinds of tokens, by a name that the class of
an enumerated type may have taken, and then it fails.
-/

namespace ViewModifiers.Stylesheet

open Reader Text

/-! ## Items with the same contents -/

/-- Items of two lists are the same, in places that may differ. -/
abbrev SameItems (items items' : List (List Token)) : Prop :=
  List.Forall₂ (fun ts us => us.map Token.content = ts.map Token.content) items items'

variable {items : List (List Token)} {ts us : List Token}

theorem Separated.exists_of_same (separated : Separated items ts)
    (same : us.map Token.content = ts.map Token.content) :
    ∃ items', SameItems items items' ∧ Separated items' us := by
  induction separated generalizing us with
  | none =>
    obtain rfl := List.map_eq_nil_iff.1 same
    exact ⟨[], .nil, .none⟩
  | last item => exact ⟨[us], .cons same .nil, .last us⟩
  | more item comma isComma items tokens _ ih =>
    rw [List.map_append, List.map_cons] at same
    obtain ⟨item', behind, rfl, sameItem, same⟩ := List.map_eq_append_iff.1 same
    obtain ⟨comma', tokens', rfl, sameComma, same⟩ := List.map_eq_cons_iff.1 same
    obtain ⟨items', each, separated⟩ := ih same
    have isComma' : comma'.kind = .comma := (Token.kind_eq sameComma).trans isComma
    refine ⟨item' :: items', .cons sameItem each, ?_⟩
    exact .more item' comma' isComma' items' tokens' separated

theorem Bracketed.exists_of_same (bracketed : Bracketed items ts)
    (same : us.map Token.content = ts.map Token.content) :
    ∃ items', SameItems items items' ∧ Bracketed items' us := by
  obtain ⟨opening, closing, isOpening, isClosing, inner, separated⟩ := bracketed
  rw [List.cons_append, List.map_cons, List.map_append, List.map_singleton] at same
  obtain ⟨opening', behind, rfl, sameOpening, same⟩ := List.map_eq_cons_iff.1 same
  obtain ⟨inner', last, rfl, sameInner, same⟩ := List.map_eq_append_iff.1 same
  obtain ⟨closing', rfl, sameClosing⟩ := List.map_eq_singleton_iff.1 same
  obtain ⟨items', each, separated⟩ := separated.exists_of_same sameInner
  refine ⟨items', each, .mk opening' closing' ?_ ?_ inner' separated⟩
  · exact (Token.kind_eq sameOpening).trans isOpening
  · exact (Token.kind_eq sameClosing).trans isClosing

/-! ## The text of a list -/

/-- The texts of several items as a list, with or without a comma behind the last item. -/
def listText (texts : List String) (trailing : Bool) : String :=
  "[" ++ joinWith ", " texts ++ (if trailing then "," else "") ++ "]"

theorem scansAs_sign {kind : TokenKind}
    (isSign : kind ∈ [.openBrace, .closeBrace, .openBracket, .closeBracket, .comma, .dot]) :
    ScansAs 0 kind.label.toList [sign kind] :=
  scansAs_of_fits (Piece.fits_sign isSign)

theorem scansAs_space : ScansAs 0 [' '] [] := scansAs_of_fits Piece.fits_space

/-- Texts that are scanned as certain items are joined to a text that is scanned as these items with
commas between them; and one more comma may stand behind the last item. -/
theorem exists_scansAs_joinWith {texts : List String}
    (each : List.Forall₂ (fun (text : String) item => ScansAs 0 text.toList item) texts items) :
    ∃ ts, ScansAs 0 (joinWith ", " texts).toList ts ∧ Separated items ts ∧
      (texts ≠ [] → Separated items (ts ++ [sign .comma])) := by
  induction each with
  | nil => exact ⟨[], scansAs_nil, .none, fun some => (some rfl).elim⟩
  | @cons text item texts items first rest ih =>
    cases rest with
    | nil => exact ⟨item, first, .last item, fun _ => .more item (sign .comma) rfl [] [] .none⟩
    | @cons text' item' texts items second rest =>
      obtain ⟨ts, scans, separated, trailing⟩ := ih
      have comma : ScansAs 0 [',', ' '] [sign .comma] :=
        (scansAs_sign (by decide)).append scansAs_space
      have whole : (joinWith ", " (text :: text' :: texts)).toList =
          text.toList ++ ([',', ' '] ++ (joinWith ", " (text' :: texts)).toList) := by
        simp [joinWith]
      rw [whole]
      refine ⟨item ++ sign .comma :: ts, first.append (comma.append scans), ?_, fun _ => ?_⟩
      · exact .more item (sign .comma) rfl _ ts separated
      · rw [List.append_assoc]
        exact .more item (sign .comma) rfl _ _ (trailing (List.cons_ne_nil text' texts))

theorem exists_scan_listText {texts : List String} {trailing : Bool}
    (each : List.Forall₂ (fun (text : String) item => ScansAs 0 text.toList item) texts items)
    (present : trailing = true → texts ≠ []) :
    ∃ c items', scan (listText texts trailing) = .ok c ∧ SameItems items items' ∧
      Bracketed items' c.ahead := by
  obtain ⟨ts, scans, separated, behindLast⟩ := exists_scansAs_joinWith each
  have opening : ScansAs 0 ['['] [sign .openBracket] := scansAs_sign (by decide)
  have closing : ScansAs 0 [']'] [sign .closeBracket] := scansAs_sign (by decide)
  have comma : ScansAs 0 [','] [sign .comma] := scansAs_sign (by decide)
  obtain ⟨inner, within, separated⟩ : ∃ inner,
      ScansAs 0 ((joinWith ", " texts).toList ++ if trailing then [','] else []) inner ∧
        Separated items inner := by
    cases trailing with
    | false => exact ⟨ts ++ [], scans.append scansAs_nil, by rwa [List.append_nil]⟩
    | true => exact ⟨ts ++ [sign .comma], scans.append comma, behindLast (present rfl)⟩
  have spelling : (listText texts trailing).toList =
      ['['] ++ ((joinWith ", " texts).toList ++ if trailing then [','] else []) ++ [']'] := by
    cases trailing <;> simp [listText]
  have whole := (opening.append within).append closing
  rw [← spelling] at whole
  obtain ⟨us, same, run⟩ := whole [] .start []
  rw [List.append_nil, List.append_nil, scanFrom, List.reverse_reverse] at run
  have bracketed : Bracketed items ([sign .openBracket] ++ inner ++ [sign .closeBracket]) :=
    .mk (sign .openBracket) (sign .closeBracket) rfl rfl inner separated
  obtain ⟨items', sameItems, bracketed⟩ := bracketed.exists_of_same same
  exact ⟨⟨us, Source.Position.after .start (listText texts trailing).toList⟩, items', run,
    sameItems, bracketed⟩

end ViewModifiers.Stylesheet

namespace ViewModifiers.Dispatch

open Catalog Config Stylesheet Stylesheet.Registry Text Reader

variable {text : String} {c c' : Cursor} {d : Dispatcher} {mayOmit : Prop} {found : Dispatched}

/-! ## Calls that are read from texts -/

/-- Scanned tokens do not say that the text is over. -/
theorem ne_endOfText_of_scan (scanned : scan text = .ok c) :
    ∀ t ∈ c.ahead, t.kind ≠ .endOfText := by
  refine forall_mem_of_scanFrom (fun d cs l size p ahead t there => ?_) (List.forall_mem_nil _)
    scanned
  cases l with
  | blank => cases there
  | token kind value =>
    obtain rfl := List.mem_singleton.1 there
    exact ne_endOfText_of_lexeme ahead

/-- A closing bracket or brace is the last token of a call. -/
theorem closedOff_of_isCall {ts : List Token} (isCall : IsCall ts) : ClosedOff ts := by
  obtain ⟨brace, body, -, rfl, closes⟩ := isCall
  obtain ⟨before, last, rfl, closing⟩ := closes.exists_last
  intro t isLast
  rw [← List.cons_append, List.getLast?_append, List.getLast?_singleton, Option.some_or] at isLast
  cases isLast
  exact closing

/-- Dispatched calls are the same, in places that may differ. -/
abbrev SameCall (found found' : Dispatched) : Prop := found.unplaced = found'.unplaced

namespace Dispatcher

theorem run'_expectEnd_eq_ok_iff {surplus : Token → Cause} :
    (expectEnd surplus).run' c = (.ok (), c') ↔ c.current.kind = .endOfText ∧ c' = c := by
  rw [expectEnd, isAtEnd, run'_bind_of_ok (run'_isAt .endOfText c)]
  by_cases atEnd : c.current.kind = .endOfText
  · rw [if_pos (decide_eq_true atEnd), run'_pure]
    constructor
    · intro same
      exact ⟨atEnd, (congrArg Prod.snd same).symm⟩
    · rintro ⟨-, rfl⟩
      rfl
  · rw [if_neg (by simpa using atEnd), run'_bind_of_ok (run'_current c)]
    constructor
    · intro run
      cases run
    · intro ⟨isEnd, _⟩
      exact absurd isEnd atEnd

theorem ofText_of_scan {α : Type} (r : Reader α) (scanned : scan text = .ok c) :
    ofText r text = (r.run' c).1 := by
  rw [ofText, scanned]

/-- A text that is accepted is scanned as one call, and all of it is read. -/
theorem exists_of_parseText (hostless : d.Hostless (IsTyped mayOmit))
    (accepted : d.parseText text = .ok found) : ∃ c, scan text = .ok c ∧ IsCall c.ahead ∧
      d.read.run' c = (.ok found, ⟨[], c.finish⟩) := by
  cases scanned : scan text with
  | error fault =>
    rw [parseText, ofText, scanned] at accepted
    cases accepted
  | ok c =>
    rw [parseText, ofText_of_scan _ scanned] at accepted
    have run : d.readOne.run' c = (.ok found, (d.readOne.run' c).2) := Prod.ext accepted rfl
    obtain ⟨_, ⟨ahead, finish⟩, read, ended⟩ := run'_bind_eq_ok_iff.1 run
    obtain ⟨_, _, ends, made⟩ := run'_bind_eq_ok_iff.1 ended
    cases made
    obtain ⟨atEnd, -⟩ := run'_expectEnd_eq_ok_iff.1 ends
    obtain ⟨used, ⟨split, sameFinish⟩, isCall⟩ := usesUp_read hostless c _ _ read
    dsimp only at split sameFinish
    subst sameFinish
    -- A token that is left over was scanned, so the text does not seem to be over there.
    have nothing : ahead = [] := by
      cases ahead with
      | nil => rfl
      | cons t ts =>
        have there : t ∈ c.ahead := by
          rw [split]
          exact List.mem_append_right used List.mem_cons_self
        exact (ne_endOfText_of_scan scanned t there atEnd).elim
    subst nothing
    rw [List.append_nil] at split
    exact ⟨c, rfl, split ▸ isCall, read⟩

/-! ## The list -/

/-- Tokens start an item of a list, and there they are read as a call. -/
structure ReadsInList (r : Reader Dispatched) (item : List Token) (found : Dispatched) : Prop where
  starts : StartsItem item
  gives : r.GivesInList item (SameCall found)

/-- Tokens with the contents of a call that is read by itself. -/
theorem readsInList_of_same (follows : d.Hostless FollowsCalls) {item : List Token}
    (isCall : IsCall c.ahead) (run : d.read.run' c = (.ok found, ⟨[], c.finish⟩))
    (same : item.map Token.content = c.ahead.map Token.content) :
    ReadsInList d.read item found where
  starts := by
    obtain ⟨brace, body, isBrace, split, -⟩ := isCall
    rw [split] at same
    obtain ⟨brace', body', rfl, sameBrace, -⟩ := List.map_eq_cons_iff.1 same
    refine ⟨brace', body', rfl, ?_⟩
    rw [Token.kind_eq sameBrace, isBrace]
    decide
  gives := fun next tail finish _ =>
    exists_read_of_same follows isCall same run ⟨next :: tail, finish⟩

/-- A text that is accepted is scanned as tokens that are read as what it was read as. -/
theorem exists_readsInList_of_parseText (typed : d.Hostless (IsTyped mayOmit))
    (follows : d.Hostless FollowsCalls) (accepted : d.parseText text = .ok found) :
    ∃ item, ScansAs 0 text.toList item ∧ ∀ item' : List Token,
      item'.map Token.content = item.map Token.content → ReadsInList d.read item' found := by
  obtain ⟨c, scanned, isCall, run⟩ := exists_of_parseText typed accepted
  obtain ⟨ts, taken, known⟩ := scansAs_of_scanFrom scanned
  obtain rfl : c.ahead = ts := taken
  obtain ⟨-, scans⟩ := known (closedOff_of_isCall isCall)
  exact ⟨c.ahead, scans (Nat.zero_le _), fun item' same =>
    readsInList_of_same follows isCall run same⟩

/-- Several texts that are accepted, one by one. -/
theorem exists_readsInList_each (typed : d.Hostless (IsTyped mayOmit))
    (follows : d.Hostless FollowsCalls) {texts : List String} {founds : List Dispatched}
    (each : List.Forall₂ (fun text found => d.parseText text = .ok found) texts founds) :
    ∃ items, List.Forall₂ (fun (text : String) item => ScansAs 0 text.toList item) texts items ∧
      ∀ items', SameItems items items' → List.Forall₂ (ReadsInList d.read) items' founds := by
  induction each with
  | nil =>
    refine ⟨[], .nil, fun items' same => ?_⟩
    cases same
    exact .nil
  | cons accepted _ ih =>
    obtain ⟨item, scans, reads⟩ := exists_readsInList_of_parseText typed follows accepted
    obtain ⟨items, scanEach, readEach⟩ := ih
    refine ⟨item :: items, .cons scans scanEach, fun items' same => ?_⟩
    cases same with
    | cons first later => exact .cons (reads _ first) (readEach _ later)

/-- Calls in brackets are read one after the other. -/
theorem exists_run'_calls {r : Reader Dispatched} {items : List (List Token)}
    {founds : List Dispatched} {tokens : List Token}
    (reads : List.Forall₂ (ReadsInList r) items founds) (bracketed : Bracketed items tokens)
    (finish : Source.Position) : ∃ founds', List.Forall₂ SameCall founds founds' ∧
      (Reader.bracketed .modifierList r).run' ⟨tokens, finish⟩ = (.ok founds', ⟨[], finish⟩) := by
  obtain ⟨sameLength, reads⟩ := List.forall₂_iff_zip.1 reads
  have firsts : (items.zip founds).map (·.1) = items :=
    List.map_fst_zip (Nat.le_of_eq sameLength)
  have seconds : (items.zip founds).map (·.2) = founds :=
    List.map_snd_zip (Nat.le_of_eq sameLength.symm)
  have list : Bracketed ((items.zip founds).map (·.1)) tokens := firsts.symm ▸ bracketed
  have gives : ∀ i ∈ items.zip founds, r.GivesInList i.1 (SameCall i.2) :=
    fun i there => (reads there).gives
  obtain ⟨founds', same, run⟩ := exists_run'_bracketed .modifierList list gives
    (fun i there => (reads there).starts) [] finish
  rw [seconds] at same
  rw [List.append_nil] at run
  exact ⟨founds', same, run⟩

end Dispatcher

namespace Module

variable {m : Module}

/-- Where reading a list begins, calls in brackets are a list of them. -/
theorem exists_parseList (free : m.BeginsLists) {items : List (List Token)}
    {founds : List Dispatched} (scanned : scan text = .ok c)
    (reads : List.Forall₂ (Dispatcher.ReadsInList m.read) items founds)
    (bracketed : Bracketed items c.ahead) : ∃ founds', m.parseList text = .ok founds' ∧
      List.Forall₂ SameCall founds founds' := by
  obtain ⟨founds', same, run⟩ := Dispatcher.exists_run'_calls reads bracketed c.finish
  refine ⟨founds', ?_, same⟩
  rw [parseList_of_beginsLists free, Dispatcher.ofText_of_scan _ scanned, run'_bind_of_ok run,
    run'_bind_of_ok (Dispatcher.run'_expectEnd_eq_ok_iff.2 ⟨rfl, rfl⟩)]
  rfl

/-- A module that reads one of several texts reads calls like its dispatcher. -/
theorem readsInList_of_parseText {texts : List String} {items : List (List Token)}
    {founds : List Dispatched}
    (each : List.Forall₂ (fun text found => m.parseText text = .ok found) texts founds)
    (reads : List.Forall₂ (Dispatcher.ReadsInList m.dispatcher.read) items founds) :
    List.Forall₂ (Dispatcher.ReadsInList m.read) items founds := by
  cases each with
  | nil =>
    cases reads
    exact .nil
  | cons accepted _ =>
    rw [read_of_readsCalls (readsTexts_of_accepts accepted).2]
    exact reads

end Module

/-! ## Built modules -/

section

variable {catalog : Catalog} {config : Configuration} {t : Target} {context : Context} {m : Module}

theorem hostless_of_build (built : Module.build catalog config t context = .ok m)
    (noExtras : catalog.extraModifierTypes = []) (standard : context.registry = .standard)
    (custom : context.custom = rejectCustom) (content : ∀ kind, context.content kind = none)
    {p : Reader Value → Prop} (all : Registry.standard.All p)
    (members : ∀ table, p (member table)) : m.dispatcher.Hostless p := by
  obtain ⟨parts, -, readers, known, registry⟩ :=
    builtFrom_of_build (Module.dispatcher_built built)
  refine ⟨?_, ?_, parts.custom.trans custom, fun kind => ?_⟩
  · rw [registry, standard]
    exact all_target known all members
  · have found := parts.extras
    rw [noExtras] at found
    exact (Except.ok.inj found).symm
  · rw [parts.content, content]

/-- **A list of calls is read call by call.** A module that is built without hand-written types and
readers of a host reads several texts as a list in the same order and as the same calls as each of
the texts by itself; only the places of the calls differ, and of the calls in them. It does so
unless a class has taken a name by which reading a list begins, and then it reads no list. -/
theorem parseList_listText (built : Module.build catalog config t context = .ok m)
    (noExtras : catalog.extraModifierTypes = []) (standard : context.registry = .standard)
    (custom : context.custom = rejectCustom) (content : ∀ kind, context.content kind = none)
    {texts : List String} {founds : List Dispatched}
    (each : List.Forall₂ (fun text found => m.parseText text = .ok found) texts founds)
    {trailing : Bool} (present : trailing = true → texts ≠ []) :
    (m.BeginsLists → ∃ founds', m.parseList (listText texts trailing) = .ok founds' ∧
      List.Forall₂ SameCall founds founds') ∧
    (¬m.BeginsLists → ∃ e, m.parseList (listText texts trailing) = .error e) := by
  refine ⟨fun free => ?_, fun taken => Module.exists_error_of_parseList taken _⟩
  have typed : m.dispatcher.Hostless (IsTyped True) := hostless_of_build built noExtras standard
    custom content allTyped_standard.all fun _ => isTyped_member fun _ _ => trivial
  have follows : m.dispatcher.Hostless FollowsCalls := hostless_of_build built noExtras standard
    custom content followsCalls_standard followsCalls_member
  obtain ⟨items, scans, reads⟩ := Dispatcher.exists_readsInList_each typed follows
    (each.imp fun _ _ accepted =>
      Module.parseText_of_readsTexts (Module.readsTexts_of_accepts accepted) _ ▸ accepted)
  obtain ⟨c, items', scanned, same, bracketed⟩ := exists_scan_listText scans present
  exact Module.exists_parseList free scanned
    (Module.readsInList_of_parseText each (reads items' same)) bracketed

end

namespace Dispatcher

/-- A call of `pin` with a set of texts. -/
def setText : String := "\x7bpin, [], [[\"x\"]]\x7d"

/-- A call of `pin` with a list of dictionaries, on the second line and with a call in its
metadata. -/
def dictionaryText : String := "\n\x7bpin, [module: \x7bown, []\x7d], [[[key: \"x\"]]]\x7d"

/-- Two calls that are read by different overloads, with a comma behind the second one. -/
theorem parseList_setText_dictionaryText :
    Module.build pickCatalog .plain ⟨"iOS", [17]⟩ {} = .ok pickModule ∧ pickModule.BeginsLists ∧
      ∃ found found' founds, pickModule.parseText setText = .ok found ∧
        pickModule.parseText dictionaryText = .ok found' ∧
          pickModule.parseList (listText [setText, dictionaryText] true) = .ok founds ∧
            List.Forall₂ SameCall [found, found'] founds := by
  have free : pickModule.BeginsLists := ⟨rfl, rfl⟩
  obtain ⟨found, accepted⟩ : ∃ found, pickModule.parseText setText = .ok found :=
    exists_of_isOk (by decide +kernel)
  obtain ⟨found', accepted'⟩ : ∃ found, pickModule.parseText dictionaryText = .ok found :=
    exists_of_isOk (by decide +kernel)
  obtain ⟨founds, read, same⟩ := (parseList_listText pickModule_built rfl rfl rfl (fun _ => rfl)
    (.cons accepted (.cons accepted' .nil)) fun _ : true = true => List.cons_ne_nil _ _).1 free
  exact ⟨pickModule_built, free, found, found', founds, accepted, accepted', read, same⟩

/-- Where the class of a type has taken the kinds of tokens, a call is read by itself and not in a
list. -/
theorem not_parseList_listText :
    ¬∀ (catalog : Catalog) (config : Configuration) (t : Target) (context : Context) (m : Module),
      Module.build catalog config t context = .ok m → catalog.extraModifierTypes = [] →
      context.registry = .standard → context.custom = rejectCustom →
      (∀ kind, context.content kind = none) → ∀ (texts : List String) (founds : List Dispatched),
        List.Forall₂ (fun text found => m.parseText text = .ok found) texts founds →
        ∃ founds', m.parseList (listText texts false) = .ok founds' ∧
          List.Forall₂ SameCall founds founds' := by
  intro claim
  have built := Module.takingModule_built "TokenKind" "LBRACKET" (by decide) (by decide) (by decide)
  obtain ⟨found, accepted⟩ : ∃ found, (Module.takingModule "TokenKind" "LBRACKET").parseText
      "\x7bfade, [], [\"x\"]\x7d" = .ok found := exists_of_isOk (by decide +kernel)
  obtain ⟨founds, read, -⟩ := claim _ _ _ _ _ built rfl rfl rfl (fun _ => rfl) _ _
    (.cons accepted .nil)
  have taken : ¬(Module.takingModule "TokenKind" "LBRACKET").BeginsLists :=
    fun free => nomatch free.2
  obtain ⟨e, failed⟩ := Module.exists_error_of_parseList taken (listText _ false)
  cases read.symm.trans failed

end Dispatcher

end ViewModifiers.Dispatch
