import Mathlib.Data.List.Basic

set_option autoImplicit false

/- Streams of blocks, each of which says in its first item how long it is. -/
namespace Blocks

variable {α : Type} (size : α → Nat)

/-- The block is as long as its first item says. -/
def Whole : List α → Prop
  | [] => False
  | head :: tail => size head = tail.length + 1

instance (block : List α) : Decidable (Whole size block) :=
  match block with
  | [] => .isFalse id
  | head :: tail => inferInstanceAs (Decidable (size head = tail.length + 1))

/-- No block can be taken off the front. -/
def Stuck (items : List α) : Prop := ∀ block rest, items = block ++ rest → ¬ Whole size block

/-- One block after the other, and what is left behind the last. -/
def walk : List α → List (List α) × List α
  | [] => ([], [])
  | head :: tail =>
      if _ : 0 < size head ∧ size head ≤ tail.length + 1 then
        let later := walk ((head :: tail).drop (size head))
        ((head :: tail).take (size head) :: later.1, later.2)
      else ([], head :: tail)
termination_by items => items.length
decreasing_by simp only [List.length_drop, List.length_cons]; omega

variable {size}

@[simp] theorem walk_nil : walk size [] = ([], []) := by rw [walk]

theorem Whole.ne_nil {block : List α} (whole : Whole size block) : block ≠ [] := by
  rintro rfl
  exact whole

theorem whole_const {width : Nat} (positive : 0 < width) (block : List α) :
    Whole (fun _ => width) block ↔ block.length = width := by
  cases block with
  | nil => exact iff_of_false id (Nat.ne_of_lt positive)
  | cons head tail => exact eq_comm

/-- A whole block comes off the front. -/
theorem walk_append {block : List α} (whole : Whole size block) (rest : List α) :
    walk size (block ++ rest) = (block :: (walk size rest).1, (walk size rest).2) := by
  cases block with
  | nil => cases whole
  | cons head tail =>
      have fits : 0 < size head ∧ size head ≤ (tail ++ rest).length + 1 := by
        rw [whole, List.length_append]
        omega
      rw [List.cons_append, walk, dif_pos fits, whole, ← List.cons_append]
      have size : (head :: tail).length = tail.length + 1 := List.length_cons
      rw [List.take_left' size, List.drop_left' size]

theorem walk_flatten {blocks : List (List α)} (whole : ∀ block ∈ blocks, Whole size block)
    (rest : List α) :
    walk size (blocks.flatten ++ rest) = (blocks ++ (walk size rest).1, (walk size rest).2) := by
  induction blocks with
  | nil => rfl
  | cons block later ih =>
      rw [List.flatten_cons, List.append_assoc, walk_append (whole block List.mem_cons_self),
        ih fun other member => whole other (List.mem_cons_of_mem block member)]
      rfl

theorem Stuck.walk {items : List α} (stuck : Stuck size items) : walk size items = ([], items) := by
  cases items with
  | nil => exact walk_nil
  | cons head tail =>
      rw [Blocks.walk, dif_neg]
      rintro ⟨positive, fits⟩
      apply stuck ((head :: tail).take (size head)) _ (List.take_append_drop _ _).symm
      obtain ⟨less, more⟩ := Nat.exists_eq_add_of_lt positive
      rw [Nat.zero_add] at more
      rw [more, List.take_succ_cons, Whole, more, List.length_take]
      omega

/-- What is cut off is the stream again, in whole blocks and with nothing left that
could be one more. -/
theorem walk_exact (size : α → Nat) (items : List α) :
    items = (walk size items).1.flatten ++ (walk size items).2 ∧
      (∀ block ∈ (walk size items).1, Whole size block) ∧ Stuck size (walk size items).2 := by
  cases items with
  | nil =>
      rw [walk_nil]
      refine ⟨rfl, fun _ member => absurd member List.not_mem_nil, ?_⟩
      intro block rest same whole
      exact whole.ne_nil (List.append_eq_nil_iff.mp same.symm).1
  | cons head tail =>
      by_cases fits : 0 < size head ∧ size head ≤ tail.length + 1
      · rw [walk, dif_pos fits]
        obtain ⟨same, whole, stuck⟩ := walk_exact size ((head :: tail).drop (size head))
        refine ⟨?_, ?_, stuck⟩
        · rw [List.flatten_cons, List.append_assoc, ← same, List.take_append_drop]
        · intro block member
          cases List.mem_cons.mp member with
          | inl first =>
              obtain ⟨less, more⟩ := Nat.exists_eq_add_of_lt fits.1
              rw [Nat.zero_add] at more
              rw [first, more, List.take_succ_cons, Whole, more, List.length_take]
              omega
          | inr later => exact whole block later
      · rw [walk, dif_neg fits]
        refine ⟨rfl, fun _ member => absurd member List.not_mem_nil, ?_⟩
        intro block rest same whole
        apply fits
        cases block with
        | nil => cases whole
        | cons first others =>
            obtain ⟨rfl, rfl⟩ := List.cons.inj same
            rw [whole, List.append_eq, List.length_append]
            omega
termination_by items.length
decreasing_by simp only [List.length_drop, List.length_cons]; omega

theorem stuck_of_short {width : Nat} {items : List α} (short : items.length < width) :
    Stuck (fun _ => width) items := by
  rintro block rest rfl whole
  have exactly := (whole_const (by omega) block).mp whole
  rw [List.length_append] at short
  omega

theorem short_of_stuck {width : Nat} (positive : 0 < width) {items : List α}
    (stuck : Stuck (fun _ => width) items) : items.length < width := by
  apply Nat.lt_of_not_le
  intro long
  apply stuck (items.take width) (items.drop width) (List.take_append_drop _ _).symm
  rw [whole_const positive, List.length_take]
  omega

/-- Blocks of one width are cut off by counting. -/
theorem walk_const {width : Nat} (positive : 0 < width) (items : List α) :
    walk (fun _ => width) items =
      ((List.range (items.length / width)).map fun i => (items.drop (width * i)).take width,
        items.drop (width * (items.length / width))) := by
  by_cases short : items.length < width
  · rw [(stuck_of_short short).walk, Nat.div_eq_of_lt short, Nat.mul_zero, List.drop_zero]
    rfl
  · have front : (items.take width).length = width := by
      rw [List.length_take]
      omega
    have fewer : items.length / width = (items.length - width) / width + 1 :=
      Nat.div_eq_sub_div positive (Nat.le_of_not_lt short)
    have next := walk_append ((whole_const positive _).mpr front) (items.drop width)
    rw [List.take_append_drop, walk_const positive (items.drop width), List.length_drop] at next
    rw [next, fewer, List.range_succ_eq_map, List.map_cons, List.map_map, Nat.mul_zero,
      List.drop_zero, List.drop_drop]
    congr 2
    · apply List.map_congr_left
      intro i _
      rw [Function.comp_apply, List.drop_drop, Nat.mul_succ, Nat.add_comm]
    · rw [Nat.mul_succ, Nat.add_comm]
termination_by items.length
decreasing_by rw [List.length_drop]; omega

end Blocks
