import Mathlib.Algebra.BigOperators.Group.Finset.Piecewise

set_option autoImplicit false

/- How many parties of a concurrent system stand at a control point, and how the
number changes when one of them moves on. -/
namespace ControlPoints

variable {ι β : Type} [Fintype ι] [DecidableEq ι] [DecidableEq β]

def countAt (place : ι → β) (point : β) : Nat :=
  (Finset.univ.filter fun i => place i = point).card

omit [DecidableEq ι] in
theorem countAt_eq_sum (place : ι → β) (point : β) :
    countAt place point = ∑ i, if place i = point then 1 else 0 :=
  Finset.card_filter _ _

/-- A move takes one party from its old point and adds one to its new point. -/
theorem countAt_update (place : ι → β) (mover : ι) (next point : β) :
    countAt (Function.update place mover next) point + (if place mover = point then 1 else 0) =
      countAt place point + if next = point then 1 else 0 := by
  have others : ∑ i ∈ Finset.univ.erase mover,
        (if Function.update place mover next i = point then 1 else 0) =
      ∑ i ∈ Finset.univ.erase mover, if place i = point then 1 else 0 := by
    apply Finset.sum_congr rfl
    intro i member
    rw [Function.update_of_ne (Finset.ne_of_mem_erase member)]
  have after := Finset.add_sum_erase Finset.univ
    (fun i => if Function.update place mover next i = point then 1 else 0) (Finset.mem_univ mover)
  have before := Finset.add_sum_erase Finset.univ
    (fun i => if place i = point then 1 else 0) (Finset.mem_univ mover)
  simp only [Function.update_self] at after
  rw [countAt_eq_sum, countAt_eq_sum, ← after, ← before, others]
  omega

omit [DecidableEq ι] in
theorem exists_of_countAt_pos {place : ι → β} {point : β} (positive : 0 < countAt place point) :
    ∃ i, place i = point := by
  obtain ⟨i, member⟩ := Finset.card_pos.mp positive
  exact ⟨i, (Finset.mem_filter.mp member).2⟩

omit [DecidableEq ι] in
theorem countAt_eq_zero {place : ι → β} {point : β} :
    countAt place point = 0 ↔ ∀ i, place i ≠ point := by
  simp only [countAt, Finset.card_eq_zero, Finset.filter_eq_empty_iff, Finset.mem_univ,
    true_implies]

end ControlPoints
