import Mathlib.Data.List.Forall2

/-!
Going through a list until an item is refused.
-/
namespace PromptKit

variable {α β ε : Type} {f : α → Except ε β} {e : ε}

theorem exists_ok_of_bind {first : Except ε α} {b : β} (done : first >>= f = .ok b) :
    ∃ a, first = .ok a ∧ f a = .ok b := by
  cases first with
  | error e => cases done
  | ok a => exact ⟨a, rfl, done⟩

theorem eq_ok_of_mapError {δ : Type} {g : ε → δ} {result : Except ε α} {a : α}
    (done : result.mapError g = .ok a) : result = .ok a := by
  cases result with
  | error e => cases done
  | ok own => rw [Except.ok.inj done]

theorem all_or_first (p : α → Prop) (xs : List α) :
    (∀ x ∈ xs, p x) ∨ ∃ before x after, xs = before ++ x :: after ∧ (∀ y ∈ before, p y) ∧ ¬ p x := by
  induction xs with
  | nil => simp
  | cons x rest ih =>
    by_cases good : p x
    · rcases ih with all | ⟨before, y, after, rfl, passed, bad⟩
      · exact .inl (List.forall_mem_cons.mpr ⟨good, all⟩)
      · exact .inr ⟨x :: before, y, after, rfl, List.forall_mem_cons.mpr ⟨good, passed⟩, bad⟩
    · exact .inr ⟨[], x, rest, rfl, by simp, good⟩

theorem mapM_of_ok {xs : List α} (accepted : ∀ x ∈ xs, ∃ y, f x = .ok y) :
    ∃ ys, xs.mapM f = .ok ys ∧ List.Forall₂ (fun x y => f x = .ok y) xs ys := by
  induction xs with
  | nil => exact ⟨[], rfl, .nil⟩
  | cons x rest ih =>
    obtain ⟨⟨y, first⟩, later⟩ := List.forall_mem_cons.mp accepted
    obtain ⟨ys, done, related⟩ := ih later
    refine ⟨y :: ys, ?_, .cons first related⟩
    simp [List.mapM_cons, first, done, bind, Except.bind, pure, Except.pure]

theorem mapM_of_error {before after : List α} {x : α} (accepted : ∀ y ∈ before, ∃ z, f y = .ok z)
    (refused : f x = .error e) : (before ++ x :: after).mapM f = .error e := by
  induction before with
  | nil => simp [List.mapM_cons, refused, bind, Except.bind]
  | cons y rest ih =>
    obtain ⟨⟨z, first⟩, later⟩ := List.forall_mem_cons.mp accepted
    simp [List.mapM_cons, first, ih later, bind, Except.bind]

/-- Going through a list succeeds item by item, just when no item is refused; it stops at the first that is. -/
theorem mapM_pointwise (f : α → Except ε β) (xs : List α) :
    ((∃ ys, xs.mapM f = .ok ys) ↔ ∀ x ∈ xs, ∃ y, f x = .ok y) ∧
    (∀ ys, xs.mapM f = .ok ys → List.Forall₂ (fun x y => f x = .ok y) xs ys) ∧
    ∀ e, xs.mapM f = .error e → ∃ before x after, xs = before ++ x :: after ∧
      (∀ y ∈ before, ∃ z, f y = .ok z) ∧ f x = .error e := by
  rcases all_or_first (fun x => ∃ y, f x = .ok y) xs with all | ⟨before, x, after, rfl, accepted, bad⟩
  · obtain ⟨ys, done, related⟩ := mapM_of_ok all
    rw [done]
    refine ⟨iff_of_true ⟨ys, rfl⟩ all, fun ys' same => ?_, fun e none => (nomatch none)⟩
    rwa [← Except.ok.inj same]
  · cases refused : f x with
    | ok y => exact absurd ⟨y, refused⟩ bad
    | error e =>
      have failed : (before ++ x :: after).mapM f = .error e := mapM_of_error accepted refused
      rw [failed]
      have others : ¬ ∀ y ∈ before ++ x :: after, ∃ z, f y = .ok z := fun all => bad (all x (by simp))
      refine ⟨iff_of_false ?_ others, fun ys none => (nomatch none), fun e' same => ?_⟩
      · rintro ⟨ys, none⟩
        cases none
      · rw [← Except.error.inj same]
        exact ⟨before, x, after, rfl, accepted, refused⟩

end PromptKit
