import Mathlib.Data.List.Forall2

/-!
# Results and lists

General facts about computations that may fail, and about lists.

* `bind_eq_ok_iff`, `bind_eq_error_iff`: a computation in two parts succeeds if both do, and fails
  with the failure of the first part that fails.
* `mapError_bind`: failures can be renamed part by part.
* `lookup_filter_ne`: what stands under a key does not depend on the pairs with another key.
* `sublist_filterMap_of_forall₂`: lists side by side, of which the first shows at most what the
  second shows.
-/

namespace Midrange

/-! ## Results -/

section Results

universe u v

variable {ε ε' : Type u} {α β : Type v}

theorem bind_eq_ok_iff {x : Except ε α} {f : α → Except ε β} {b : β} :
    x >>= f = .ok b ↔ ∃ a, x = .ok a ∧ f a = .ok b := by
  cases x <;> simp [bind, Except.bind]

theorem bind_eq_error_iff {x : Except ε α} {f : α → Except ε β} {e : ε} :
    x >>= f = .error e ↔ x = .error e ∨ ∃ a, x = .ok a ∧ f a = .error e := by
  cases x <;> simp [bind, Except.bind]

theorem mapError_bind (g : ε → ε') (x : Except ε α) (f : α → Except ε β) :
    (x >>= f).mapError g = x.mapError g >>= fun a => (f a).mapError g := by
  cases x <;> rfl

end Results

/-! ## Lists -/

section Lists

variable {α β γ : Type*}

theorem lookup_filter_ne [BEq α] [LawfulBEq α] {key other : α} (h : other ≠ key)
    (pairs : List (α × β)) :
    (pairs.filter fun pair => pair.1 != key).lookup other = pairs.lookup other := by
  induction pairs with
  | nil => rfl
  | cons pair rest ih =>
    obtain ⟨first, value⟩ := pair
    by_cases hfirst : first = key
    · have hother : (other == first) = false := by simpa [hfirst] using h
      rw [List.filter_cons_of_neg (by simpa using hfirst), ih, List.lookup_cons, hother]
    · rw [List.filter_cons_of_pos (by simpa using hfirst), List.lookup_cons, List.lookup_cons, ih]

theorem sublist_filterMap_of_forall₂ {R : α → β → Prop} {f : α → Option γ} {g : β → Option γ}
    (hfg : ∀ a b, R a b → f a = g b ∨ f a = none) {as : List α} {bs : List β}
    (h : List.Forall₂ R as bs) : (as.filterMap f).Sublist (bs.filterMap g) := by
  induction h with
  | nil => exact .refl []
  | @cons a b _ _ hab _ ih =>
    rw [List.filterMap_cons, List.filterMap_cons]
    rcases hfg a b hab with heq | hnone
    · rw [heq]
      cases g b with
      | none => exact ih
      | some c => exact ih.cons_cons c
    · rw [hnone]
      cases g b with
      | none => exact ih
      | some c => exact ih.cons c

end Lists

end Midrange
