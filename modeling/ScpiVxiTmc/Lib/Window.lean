import Mathlib.Logic.Function.Basic

set_option autoImplicit false

/- Windows of consecutive cells on a circle. Cells are any indexed store, and an
offset is at most one turn, so an index wraps at most once and no division is
needed: every index fact below is linear arithmetic. -/
namespace Window

variable {α : Type}

/-- The cell `offset` places after `start` on a circle of `n` cells. -/
def place (n start offset : Nat) : Nat :=
  if start + offset < n then start + offset else start + offset - n

/-- How many places lead from `start` to `stop`. -/
def span (n start stop : Nat) : Nat :=
  if start ≤ stop then stop - start else n - start + stop

/-- The `count` cells from `start` on, in order. -/
def window (n : Nat) (cells : Nat → α) (start count : Nat) : List α :=
  (List.range count).map (fun offset => cells (place n start offset))

theorem place_lt {n start offset : Nat} (inside : start < n) (turn : offset ≤ n) :
    place n start offset < n := by
  unfold place
  split <;> omega

theorem place_zero {n start : Nat} (inside : start < n) : place n start 0 = start := by
  simp [place, inside]

/-- Stepping first and then going on is the same as going one place further. -/
theorem place_place_one {n start offset : Nat} (inside : start < n) (turn : offset + 1 ≤ n) :
    place n (place n start 1) offset = place n start (offset + 1) := by
  unfold place
  split <;> split <;> split <;> omega

/-- Different offsets below one turn are different cells. -/
theorem place_ne {n start near far : Nat} (order : near < far) (turn : far < n) :
    place n start near ≠ place n start far := by
  unfold place
  split <;> split <;> omega

theorem span_lt {n start stop : Nat} (inside : start < n) (stopInside : stop < n) :
    span n start stop < n := by
  unfold span
  split <;> omega

theorem span_eq_zero {n start stop : Nat} (inside : start < n) :
    span n start stop = 0 ↔ start = stop := by
  unfold span
  split <;> omega

theorem place_span {n start stop : Nat} (inside : start < n) (stopInside : stop < n) :
    place n start (span n start stop) = stop := by
  unfold place span
  split <;> split <;> omega

theorem span_place_stop {n start stop : Nat} (inside : start < n) (stopInside : stop < n) :
    span n start (place n stop 1) =
      if span n start stop + 1 < n then span n start stop + 1 else 0 := by
  unfold place span
  split <;> split <;> split <;> split <;> omega

theorem span_place_start {n start stop : Nat} (inside : start < n) (stopInside : stop < n)
    (apart : start ≠ stop) :
    span n (place n start 1) stop + 1 = span n start stop := by
  unfold place span
  split <;> split <;> split <;> omega

@[simp] theorem window_length (n : Nat) (cells : Nat → α) (start count : Nat) :
    (window n cells start count).length = count := by
  simp only [window, List.length_map, List.length_range]

theorem window_succ (n : Nat) (cells : Nat → α) (start count : Nat) :
    window n cells start (count + 1) =
      window n cells start count ++ [cells (place n start count)] := by
  simp only [window, List.range_succ, List.map_append, List.map_cons, List.map_nil]

theorem window_cons {n : Nat} (cells : Nat → α) {start count : Nat} (inside : start < n)
    (turn : count + 1 ≤ n) :
    window n cells start (count + 1) = cells start :: window n cells (place n start 1) count := by
  simp only [window, List.range_succ_eq_map, List.map_cons, List.map_map, place_zero inside]
  congr 1
  apply List.map_congr_left
  intro offset member
  have below : offset < count := List.mem_range.mp member
  simp only [Function.comp, Nat.succ_eq_add_one]
  rw [place_place_one inside (by omega)]

/-- A window depends on its own cells only. -/
theorem window_congr {n : Nat} {cells other : Nat → α} {start count : Nat}
    (same : ∀ offset, offset < count →
      cells (place n start offset) = other (place n start offset)) :
    window n cells start count = window n other start count := by
  apply List.map_congr_left
  intro offset member
  exact same offset (List.mem_range.mp member)

/-- Storing the next cell after a window that is not a whole turn extends it. -/
theorem window_store {n : Nat} (cells : Nat → α) {start count : Nat} (value : α)
    (turn : count < n) :
    window n (Function.update cells (place n start count) value) start (count + 1) =
      window n cells start count ++ [value] := by
  rw [window_succ, Function.update_self]
  congr 1
  apply window_congr
  intro offset below
  rw [Function.update_of_ne (place_ne below turn)]

end Window
