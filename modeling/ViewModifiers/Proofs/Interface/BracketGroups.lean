import ViewModifiers.Proofs.Interface.Brackets

/-!
# One group of brackets

A group that is being read comes to an end in one of three places (`GroupEnds`): its bracket is
closed, the input is at its end, or a bracket closes that is not due. Up to there, some brackets are
open and all others pair up (`LeavesOpen`). A further token keeps it so, or is such a place; hence
every group comes to an end, and to a single one (`run'_bracketGroup_iff`). The tokens from an
opening bracket to the one that closes it are the fewest at the front that pair up.
-/

namespace ViewModifiers.Interface

open Source TokenReader

section Open

variable {due : List TokenKind} {ts us inner : List Token} {t : Token}

theorem Balanced.append (first : Balanced ts) (second : Balanced us) : Balanced (ts ++ us) := by
  induction first with
  | nil => exact second
  | plain opens closes _ ih => exact .plain opens closes ih
  | @group opening closing inner ts pair inside _ _ ih =>
    rw [List.cons_append, List.append_assoc, List.cons_append]
    exact .group pair inside ih

/-- Tokens whose brackets pair up, but for some that are open. What closes these is due, what closes
the last one first. -/
inductive LeavesOpen : List TokenKind → List Token → Prop
  | balanced {ts : List Token} (pairs : Balanced ts) : LeavesOpen [] ts
  | opened {due : List TokenKind} {ts inner : List Token} {opening : Token} {closer : TokenKind}
      (before : LeavesOpen due ts) (opens : opening.kind.closer? = some closer)
      (inside : Balanced inner) : LeavesOpen (closer :: due) (ts ++ opening :: inner)

namespace LeavesOpen

theorem balanced_of_nil (nothing : LeavesOpen [] ts) : Balanced ts := by
  cases nothing with
  | balanced pairs => exact pairs

theorem append (leaves : LeavesOpen due ts) (pairs : Balanced us) : LeavesOpen due (ts ++ us) := by
  cases leaves with
  | balanced first => exact .balanced (first.append pairs)
  | opened before opens inside =>
    rw [List.append_assoc, List.cons_append]
    exact .opened before opens (inside.append pairs)

theorem concat_of_opens {closer : TokenKind} (leaves : LeavesOpen due ts)
    (opens : t.kind.closer? = some closer) : LeavesOpen (closer :: due) (ts ++ [t]) :=
  .opened leaves opens .nil

theorem concat_of_plain (leaves : LeavesOpen due ts) (opens : t.kind.closer? = none)
    (closes : t.kind.isCloser = false) : LeavesOpen due (ts ++ [t]) :=
  leaves.append (.plain opens closes .nil)

/-- The bracket that is due closes the last one that is open. -/
theorem concat_of_due (leaves : LeavesOpen (t.kind :: due) ts) : LeavesOpen due (ts ++ [t]) := by
  cases leaves with
  | opened before opens inside =>
    rw [List.append_assoc, List.cons_append]
    exact before.append (.group opens inside .nil)

/-- Going over tokens that leave brackets open makes what closes these due. -/
theorem groupFrom_append (leaves : LeavesOpen due ts) {opener : Token} {p : Position}
    {d : TokenKind} {outer : List TokenKind} {found : List Token} (us : List Token) :
    groupFrom opener p (d :: outer) found (ts ++ us) =
      groupFrom opener p (due ++ d :: outer) (ts.reverse ++ found) us := by
  induction leaves generalizing us with
  | balanced pairs => exact groupFrom_of_balanced pairs
  | @opened due ts inner opening closer _ opens inside ih =>
    rw [List.append_assoc, ih, List.cons_append, groupFrom_of_opens opens,
      groupFrom_of_balanced inside]
    simp only [List.reverse_append, List.reverse_cons, List.append_assoc, List.cons_append,
      List.nil_append]

end LeavesOpen

end Open

/-! ## Where a group ends -/

section Ends

variable {opening : Token} {closer : TokenKind} {p : Position} {ts : List Token}
  {result : Except SyntaxError (List Token) × TokenStream}

/-- How the group ends that a bracket opens in front of some tokens, with what is read and left. -/
inductive GroupEnds (opening : Token) (closer : TokenKind) (p : Position) :
    List Token → Except SyntaxError (List Token) × TokenStream → Prop
  | closed {closing : Token} {inner rest : List Token} (inside : Balanced inner)
      (closes : closing.kind = closer) :
      GroupEnds opening closer p (inner ++ closing :: rest) (.ok inner, ⟨rest, p⟩)
  | unclosed {due : List TokenKind} {ts : List Token} (leaves : LeavesOpen due ts) :
      GroupEnds opening closer p ts
        (.error ⟨.unclosedBracket opening.value, opening.position⟩, ⟨[], p⟩)
  | mismatched {due : List TokenKind} {t : Token} {before rest : List Token}
      (leaves : LeavesOpen due before) (closes : t.kind.isCloser = true)
      (notDue : (due ++ [closer]).head? ≠ some t.kind) :
      GroupEnds opening closer p (before ++ t :: rest)
        (.error ⟨.mismatchedBracket t.value, t.position⟩, ⟨rest, p⟩)

/-- Behind tokens that leave brackets open, every group ends somewhere. -/
theorem LeavesOpen.exists_groupEnds {due : List TokenKind} {before : List Token}
    (leaves : LeavesOpen due before) (opening : Token) (closer : TokenKind) (p : Position)
    (ts : List Token) : ∃ result, GroupEnds opening closer p (before ++ ts) result := by
  induction ts generalizing due before with
  | nil =>
    rw [List.append_nil]
    exact ⟨_, .unclosed leaves⟩
  | cons t ts ih =>
    have goesOn {due : List TokenKind} (leaves : LeavesOpen due (before ++ [t])) :
        ∃ result, GroupEnds opening closer p (before ++ t :: ts) result := by
      have later := ih leaves
      rwa [List.append_assoc, List.singleton_append] at later
    rcases opens : t.kind.closer? with _ | c
    · by_cases closes : t.kind.isCloser = true
      · by_cases isDue : (due ++ [closer]).head? = some t.kind
        · cases due with
          | nil => exact ⟨_, .closed leaves.balanced_of_nil (Option.some.inj isDue).symm⟩
          | cons d due =>
            obtain rfl : d = t.kind := Option.some.inj isDue
            exact goesOn leaves.concat_of_due
        · exact ⟨_, .mismatched leaves closes isDue⟩
      · exact goesOn (leaves.concat_of_plain opens (Bool.eq_false_iff.2 closes))
    · exact goesOn (leaves.concat_of_opens opens)

/-- Where a group ends, reading it stops. -/
theorem GroupEnds.run'_eq (ends : GroupEnds opening closer p ts result)
    (opens : opening.kind.closer? = some closer) :
    bracketGroup.run' ⟨opening :: ts, p⟩ = result := by
  cases ends with
  | @closed closing inner rest inside closes =>
    exact run'_bracketGroup (closes ▸ opens) inside rest p
  | unclosed leaves =>
    rw [run'_bracketGroup_cons opens, ← List.append_nil ts, leaves.groupFrom_append]
    rfl
  | mismatched leaves closes notDue =>
    rw [run'_bracketGroup_cons opens, leaves.groupFrom_append, groupFrom_of_not_due closes notDue]

/-- A group ends in one place, and what reading it gives is what is said of this place. -/
theorem run'_bracketGroup_iff (opens : opening.kind.closer? = some closer) :
    bracketGroup.run' ⟨opening :: ts, p⟩ = result ↔ GroupEnds opening closer p ts result := by
  constructor
  · rintro rfl
    obtain ⟨result, ends⟩ := (LeavesOpen.balanced .nil).exists_groupEnds opening closer p ts
    rw [List.nil_append] at ends
    rwa [ends.run'_eq opens]
  · exact fun ends => ends.run'_eq opens

end Ends

/-! ## The shortest front -/

section Fronts

variable {opening : Token} {closer : TokenKind} {front ts : List Token}

/-- Some tokens at the front of others, the brackets of which pair up. -/
structure PairsAtFront (front ts : List Token) : Prop where
  filled : front ≠ []
  pairs : Balanced front
  atFront : front <+: ts

/-- The fewest tokens at the front that pair up. -/
def IsShortestFront (front ts : List Token) : Prop :=
  PairsAtFront front ts ∧ ∀ other, PairsAtFront other ts → front.length ≤ other.length

/-- Tokens that pair up begin with the group of their first bracket. -/
theorem PairsAtFront.exists_group (atFront : PairsAtFront front (opening :: ts))
    (opens : opening.kind.closer? = some closer) :
    ∃ inner closing more rest, front = opening :: (inner ++ closing :: more) ∧
      ts = inner ++ closing :: rest ∧ Balanced inner ∧ closing.kind = closer := by
  obtain ⟨filled, pairs, behind, tokens⟩ := atFront
  cases pairs with
  | nil => exact absurd rfl filled
  | plain noBracket =>
    obtain ⟨rfl, -⟩ := List.cons.inj tokens
    rw [opens] at noBracket
    cases noBracket
  | @group first closing inner more pair inside =>
    obtain ⟨rfl, rfl⟩ := List.cons.inj tokens
    rw [opens] at pair
    refine ⟨inner, closing, more, more ++ behind, rfl, ?_, inside, (Option.some.inj pair).symm⟩
    exact List.append_assoc inner (closing :: more) behind

/-- A group is the shortest front. -/
theorem isShortestFront_group {closing : Token} {inner rest : List Token}
    (inside : Balanced inner) (pair : opening.kind.closer? = some closing.kind) :
    IsShortestFront (opening :: (inner ++ [closing])) (opening :: (inner ++ closing :: rest)) := by
  refine ⟨⟨List.cons_ne_nil _ _, .group pair inside .nil, rest, by simp⟩, fun other atFront => ?_⟩
  obtain ⟨inner', closing', more, rest', rfl, same, inside', kind⟩ := atFront.exists_group pair
  -- reading the group cannot give two different results
  have run := run'_bracketGroup pair inside rest .start
  rw [same, run'_bracketGroup (kind ▸ pair) inside'] at run
  obtain rfl : inner' = inner := Except.ok.inj (congrArg Prod.fst run)
  simp

end Fronts

/-- Reading a group succeeds exactly if some tokens from its bracket on pair up. It then takes the
fewest of these, and gives what stands inside. Otherwise it fails at its bracket if the input ends
while all brackets that close are due, and else at the first one that is not. -/
theorem bracketGroup_takes_one_group {opening : Token} {closer : TokenKind}
    (opens : opening.kind.closer? = some closer) (ts : List Token) (p : Position) :
    ((∃ inner u, bracketGroup.run' ⟨opening :: ts, p⟩ = (.ok inner, u)) ↔
        ∃ front, PairsAtFront front (opening :: ts)) ∧
      (∀ inner u, bracketGroup.run' ⟨opening :: ts, p⟩ = (.ok inner, u) →
        ∃ closing, IsShortestFront (opening :: (inner ++ [closing])) (opening :: ts) ∧
          opening :: ts = opening :: (inner ++ [closing]) ++ u.ahead ∧ u.finish = p) ∧
      ∀ e u, bracketGroup.run' ⟨opening :: ts, p⟩ = (.error e, u) ↔
        (e = ⟨.unclosedBracket opening.value, opening.position⟩ ∧ u = ⟨[], p⟩ ∧
          ∃ due, LeavesOpen due ts) ∨
        ∃ due before t rest, ts = before ++ t :: rest ∧ LeavesOpen due before ∧
          t.kind.isCloser = true ∧ (due ++ [closer]).head? ≠ some t.kind ∧
          e = ⟨.mismatchedBracket t.value, t.position⟩ ∧ u = ⟨rest, p⟩ := by
  refine ⟨⟨?_, ?_⟩, ?_, fun e u => ⟨fun run => ?_, ?_⟩⟩
  · rintro ⟨inner, u, run⟩
    cases (run'_bracketGroup_iff opens).1 run with
    | @closed closing _ rest inside closes =>
      exact ⟨_, (isShortestFront_group inside (closes ▸ opens)).1⟩
  · rintro ⟨front, atFront⟩
    obtain ⟨inner, closing, -, rest, -, rfl, inside, kind⟩ := atFront.exists_group opens
    exact ⟨inner, ⟨rest, p⟩, run'_bracketGroup (kind ▸ opens) inside rest p⟩
  · intro inner u run
    cases (run'_bracketGroup_iff opens).1 run with
    | @closed closing _ rest inside closes =>
      exact ⟨closing, isShortestFront_group inside (closes ▸ opens), by simp, rfl⟩
  · cases (run'_bracketGroup_iff opens).1 run with
    | unclosed leaves => exact .inl ⟨rfl, rfl, _, leaves⟩
    | mismatched leaves closes notDue =>
      exact .inr ⟨_, _, _, _, rfl, leaves, closes, notDue, rfl, rfl⟩
  · rintro (⟨rfl, rfl, due, leaves⟩ | ⟨due, before, t, rest, rfl, leaves, closes, notDue, rfl, rfl⟩)
    · exact (run'_bracketGroup_iff opens).2 (.unclosed leaves)
    · exact (run'_bracketGroup_iff opens).2 (.mismatched leaves closes notDue)

/-- The group in `([x])}` goes up to the parenthesis, and the one in `([)` fails there. -/
theorem bracketGroup_takes_one_group_nested :
    TokenKind.openParen.closer? = some .closeParen ∧
      (∃ closing, IsShortestFront (⟨.openParen, "(", ⟨1, 1⟩⟩ :: ([⟨.openBracket, "[", ⟨1, 2⟩⟩,
          ⟨.identifier, "x", ⟨1, 3⟩⟩, ⟨.closeBracket, "]", ⟨1, 4⟩⟩] ++ [closing]))
        [⟨.openParen, "(", ⟨1, 1⟩⟩, ⟨.openBracket, "[", ⟨1, 2⟩⟩, ⟨.identifier, "x", ⟨1, 3⟩⟩,
          ⟨.closeBracket, "]", ⟨1, 4⟩⟩, ⟨.closeParen, ")", ⟨1, 5⟩⟩,
          ⟨.closeBrace, "\x7d", ⟨1, 6⟩⟩]) ∧
      bracketGroup.run' ⟨[⟨.openParen, "(", ⟨1, 1⟩⟩, ⟨.openBracket, "[", ⟨1, 2⟩⟩,
          ⟨.closeParen, ")", ⟨1, 3⟩⟩], ⟨1, 4⟩⟩ =
        (.error ⟨.mismatchedBracket ")", ⟨1, 3⟩⟩, ⟨[], ⟨1, 4⟩⟩) := by
  refine ⟨rfl, ?_, ?_⟩
  · have run : bracketGroup.run' ⟨[⟨.openParen, "(", ⟨1, 1⟩⟩, ⟨.openBracket, "[", ⟨1, 2⟩⟩,
          ⟨.identifier, "x", ⟨1, 3⟩⟩, ⟨.closeBracket, "]", ⟨1, 4⟩⟩, ⟨.closeParen, ")", ⟨1, 5⟩⟩,
          ⟨.closeBrace, "\x7d", ⟨1, 6⟩⟩], ⟨1, 7⟩⟩ =
        (.ok [⟨.openBracket, "[", ⟨1, 2⟩⟩, ⟨.identifier, "x", ⟨1, 3⟩⟩,
          ⟨.closeBracket, "]", ⟨1, 4⟩⟩], ⟨[⟨.closeBrace, "\x7d", ⟨1, 6⟩⟩], ⟨1, 7⟩⟩) := rfl
    obtain ⟨closing, shortest, -⟩ := (bracketGroup_takes_one_group rfl _ _).2.1 _ _ run
    exact ⟨closing, shortest⟩
  · refine ((bracketGroup_takes_one_group rfl _ _).2.2 _ _).2 (.inr ⟨[.closeBracket],
      [⟨.openBracket, "[", ⟨1, 2⟩⟩], ⟨.closeParen, ")", ⟨1, 3⟩⟩, [], rfl, ?_, rfl, ?_, rfl, rfl⟩)
    · exact .opened (.balanced .nil) rfl .nil
    · decide

end ViewModifiers.Interface
