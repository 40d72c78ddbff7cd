import Mathlib.Data.List.DropRight
import ScpiVxiTmc.Lib.Machine

set_option autoImplicit false

/-- A queue that always holds fewer than `n` items, oldest first. -/
structure LossyQueue (α : Type) (n : Nat) where
  items : List α
  bounded : items.length < n

/- The queue counts its items modulo `n`, as a circular store does that has no
flag to tell full from empty: the `n`-th item turns it into an empty queue, and
only what is written after that is kept. -/
namespace LossyQueue

variable {α : Type} {n : Nat}

@[ext] theorem ext {left right : LossyQueue α n} (same : left.items = right.items) :
    left = right := by
  cases left
  cases right
  cases same
  rfl

theorem rtake_length {items : List α} {count : Nat} (within : count ≤ items.length) :
    (items.rtake count).length = count := by
  simp only [List.rtake, List.length_drop]
  omega

/-- The last `count` items do not depend on what precedes a long enough suffix. -/
theorem rtake_append_of_le (front back : List α) (count : Nat) (within : count ≤ back.length) :
    (front ++ back).rtake count = back.rtake count := by
  simp only [List.rtake, List.length_append]
  rw [List.drop_append, List.drop_eq_nil_of_le (by omega), List.nil_append]
  congr 1
  omega

def empty (positive : 0 < n) : LossyQueue α n := ⟨[], positive⟩

/-- Writing keeps the last `(held + written) mod n` of everything in order. -/
def write (queue : LossyQueue α n) (more : List α) : LossyQueue α n :=
  ⟨(queue.items ++ more).rtake ((queue.items.length + more.length) % n), by
    have bounded := queue.bounded
    have small := Nat.mod_le (queue.items.length + more.length) n
    rw [rtake_length (by simpa only [List.length_append] using small)]
    exact Nat.mod_lt _ (by omega)⟩

/-- Reading removes the first `count` items, or all of a shorter queue. -/
def read (queue : LossyQueue α n) (count : Nat) : List α × LossyQueue α n :=
  (queue.items.take count, ⟨queue.items.drop count, by
    have bounded := queue.bounded
    simp only [List.length_drop]
    omega⟩)

theorem write_items (queue : LossyQueue α n) (more : List α) :
    (queue.write more).items =
      (queue.items ++ more).rtake ((queue.items.length + more.length) % n) := rfl

@[simp] theorem read_fst (queue : LossyQueue α n) (count : Nat) :
    (queue.read count).1 = queue.items.take count := rfl

@[simp] theorem read_snd_items (queue : LossyQueue α n) (count : Nat) :
    (queue.read count).2.items = queue.items.drop count := rfl

theorem write_length (queue : LossyQueue α n) (more : List α) :
    (queue.write more).items.length = (queue.items.length + more.length) % n := by
  rw [write_items, rtake_length]
  simpa only [List.length_append] using Nat.mod_le _ n

/-- Writes that fit lose nothing. -/
theorem write_of_fits (queue : LossyQueue α n) (more : List α)
    (fits : queue.items.length + more.length < n) :
    (queue.write more).items = queue.items ++ more := by
  rw [write_items, Nat.mod_eq_of_lt fits, ← List.length_append]
  simp only [List.rtake, Nat.sub_self, List.drop_zero]

/-- Writes that do not fit always lose an item, whatever the items are. -/
theorem write_eq_append_iff (queue : LossyQueue α n) (more : List α) :
    (queue.write more).items = queue.items ++ more ↔ queue.items.length + more.length < n := by
  constructor
  · intro same
    have bounded := (queue.write more).bounded
    rwa [same, List.length_append] at bounded
  · exact write_of_fits queue more

@[simp] theorem write_nil (queue : LossyQueue α n) : queue.write [] = queue := by
  apply ext
  have fits : queue.items.length + ([] : List α).length < n := queue.bounded
  rw [write_of_fits queue [] fits, List.append_nil]

/-- One item: it is added, unless it is the `n`-th and empties the queue. -/
theorem write_singleton (queue : LossyQueue α n) (item : α) :
    (queue.write [item]).items =
      if queue.items.length + 1 < n then queue.items ++ [item] else [] := by
  have bounded := queue.bounded
  split
  · rename_i room
    exact write_of_fits queue [item] room
  · rename_i full
    have turn : queue.items.length + [item].length = n := by
      simp only [List.length_singleton]
      omega
    rw [write_items, turn, Nat.mod_self, List.rtake_zero]

/-- A long write is its first item, then the rest. -/
theorem write_cons (queue : LossyQueue α n) (item : α) (more : List α) :
    queue.write (item :: more) = (queue.write [item]).write more := by
  have bounded := queue.bounded
  apply ext
  rw [write_items, write_items, write_singleton, List.length_cons]
  split
  · simp only [List.append_assoc, List.singleton_append, List.length_append,
      List.length_singleton]
    congr 2
    omega
  · -- The first item completed a turn, so all before the rest is forgotten.
    have turn : queue.items.length + (more.length + 1) = more.length + n := by omega
    have small : more.length % n ≤ more.length := Nat.mod_le _ _
    rw [turn, Nat.add_mod_right, List.nil_append, List.length_nil, Nat.zero_add,
      ← List.singleton_append, ← List.append_assoc, rtake_append_of_le _ _ _ small]

/-- One use of a queue. -/
inductive Op (α : Type)
  | write (items : List α)
  | read (count : Nat)

namespace Op

def written : Op α → List α
  | write items => items
  | read _ => []

end Op

/-- The count an operation reports and the items it delivers, then the queue. -/
def step (queue : LossyQueue α n) : Op α → (Nat × List α) × LossyQueue α n
  | .write items => ((items.length, []), queue.write items)
  | .read count => ((min count queue.items.length, (queue.read count).1), (queue.read count).2)

/-- Every write of the run finds room for all its items. -/
def Fits (queue : LossyQueue α n) : List (Op α) → Prop
  | [] => True
  | op :: rest =>
      queue.items.length + op.written.length < n ∧ Fits (queue.step op).2 rest

theorem step_conserves (queue : LossyQueue α n) (op : Op α)
    (fits : queue.items.length + op.written.length < n) :
    (queue.step op).1.2 ++ (queue.step op).2.items = queue.items ++ op.written := by
  cases op with
  | write items =>
      simp only [step, List.nil_append, Op.written] at fits ⊢
      exact write_of_fits queue items fits
  | read count =>
      simp only [step, read_fst, read_snd_items, List.take_append_drop, Op.written,
        List.append_nil]

/-- A run whose writes all fit is a first-in first-out channel: what was
delivered, then what is still held, is what was held, then what was written. -/
theorem run_conserves (queue : LossyQueue α n) (ops : List (Op α)) (fits : queue.Fits ops) :
    ((Machine.run step queue ops).1.map Prod.snd).flatten ++ (Machine.run step queue ops).2.items =
      queue.items ++ (ops.map Op.written).flatten := by
  induction ops generalizing queue with
  | nil => simp
  | cons op rest ih =>
      have first := step_conserves queue op fits.1
      have later := ih (queue.step op).2 fits.2
      simp only [Machine.run_cons, List.map_cons, List.flatten_cons, List.append_assoc] at later ⊢
      rw [later, ← List.append_assoc, first, List.append_assoc]

end LossyQueue
