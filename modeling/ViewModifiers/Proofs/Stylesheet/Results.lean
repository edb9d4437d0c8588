import Mathlib.Data.List.Forall2
import ViewModifiers.Proofs.Stylesheet.Runs

/-!
# Lists that are computed item by item

A list of results is computed from a list, one item after the other, until the first failure. If
there is none, the two lists correspond item by item.
-/

namespace ViewModifiers.Stylesheet

variable {α β γ ε : Type} {R : α → β → Prop} {xs : List α} {ys : List β}

theorem exists_of_isOk {result : Except ε α} (there : result.isOk = true) :
    ∃ a, result = .ok a := by
  cases result with
  | ok a => exact ⟨a, rfl⟩
  | error e => cases there

theorem exists_mem_right (each : List.Forall₂ R xs ys) {x : α} (there : x ∈ xs) :
    ∃ y ∈ ys, R x y := by
  induction each with
  | nil => cases there
  | cons first _ ih =>
    rcases List.mem_cons.1 there with rfl | there
    · exact ⟨_, List.mem_cons_self, first⟩
    · obtain ⟨y, listed, related⟩ := ih there
      exact ⟨y, List.mem_cons_of_mem _ listed, related⟩

theorem exists_mem_left (each : List.Forall₂ R xs ys) {y : β} (there : y ∈ ys) :
    ∃ x ∈ xs, R x y :=
  exists_mem_right (R := flip R) each.flip there

theorem map_eq_map (each : List.Forall₂ R xs ys) {f : α → γ} {g : β → γ}
    (same : ∀ x y, R x y → g y = f x) : ys.map g = xs.map f := by
  induction each with
  | nil => rfl
  | cons first _ ih => rw [List.map_cons, List.map_cons, same _ _ first, ih]

/-- A list made from the pairs of two others is made from the first one, through the second. -/
theorem forall₂_zip {S : α × β → γ → Prop} {zs : List γ} (first : List.Forall₂ R xs ys)
    (second : List.Forall₂ S (xs.zip ys) zs) :
    List.Forall₂ (fun x z => ∃ y, R x y ∧ S (x, y) z) xs zs := by
  induction first generalizing zs with
  | nil =>
    cases second
    exact .nil
  | cons related _ ih =>
    obtain ⟨z, rest, here, later, rfl⟩ := List.forall₂_cons_left_iff.1 second
    exact .cons ⟨_, related, here⟩ (ih later)

theorem mapError_eq_ok_iff {ε' : Type} {f : ε → ε'} {computed : Except ε α} {a : α} :
    computed.mapError f = .ok a ↔ computed = .ok a := by
  cases computed with
  | error cause => exact iff_of_false nofun nofun
  | ok b => exact ⟨fun same => by cases same; rfl, fun same => by cases same; rfl⟩

/-- An item that is computed under a name. -/
theorem named_eq_ok_iff {name : String} {computed : Except ε α} {entry : String × α} :
    (do return (name, ← computed) : Except ε _) = .ok entry ↔
      entry.1 = name ∧ computed = .ok entry.2 := by
  obtain ⟨key, item⟩ := entry
  cases computed with
  | error cause => exact iff_of_false nofun fun h => nomatch h.2
  | ok found =>
    change Except.ok (name, found) = Except.ok (key, item) ↔ _
    rw [Except.ok.injEq, Except.ok.injEq, Prod.mk.injEq]
    exact and_congr_left' eq_comm

/-- Computing every item of a list, one after the other. -/
theorem mapM_eq_ok_iff {f : α → Except ε β} :
    xs.mapM f = .ok ys ↔ List.Forall₂ (fun x y => f x = .ok y) xs ys := by
  induction xs generalizing ys with
  | nil =>
    rw [List.mapM_nil, List.forall₂_nil_left_iff]
    exact ⟨fun built => by cases built; rfl, fun empty => empty ▸ rfl⟩
  | cons x xs ih =>
    rw [List.mapM_cons, List.forall₂_cons_left_iff]
    constructor
    · intro built
      obtain ⟨y, first, built⟩ := bind_eq_ok_iff.1 built
      obtain ⟨rest, later, built⟩ := bind_eq_ok_iff.1 built
      cases built
      exact ⟨y, rest, first, ih.1 later, rfl⟩
    · rintro ⟨y, rest, first, later, rfl⟩
      exact bind_eq_ok_iff.2 ⟨y, first, bind_eq_ok_iff.2 ⟨rest, ih.2 later, rfl⟩⟩

/-- If every item has a result that is known, so has the list. -/
theorem mapM_eq_ok_map {f : α → Except ε β} {g : α → β} (each : ∀ x ∈ xs, f x = .ok (g x)) :
    xs.mapM f = .ok (xs.map g) := by
  refine mapM_eq_ok_iff.2 ?_
  rw [List.forall₂_map_right_iff, List.forall₂_same]
  exact each

end ViewModifiers.Stylesheet
