import ScpiVxiTmc.Lib.LossyQueue

set_option autoImplicit false

/- A queue whose writes first drop what it holds, beside one whose writes do not,
and when they cannot be told apart. -/
namespace LossyQueue

variable {α : Type} {n : Nat}

/-- Everything held is read and forgotten before the write. -/
def replace (queue : LossyQueue α n) (more : List α) : LossyQueue α n :=
  (queue.read queue.items.length).2.write more

/-- A use of a queue that may also ask how many items it holds. -/
inductive Use (α : Type)
  | op (op : Op α)
  | count

def Use.op? : Use α → Option (Op α)
  | .op act => some act
  | .count => none

/-- What a use reports and delivers, then the queue, with the writes of one of the
two kinds. Only a count reports anything. -/
def observe (put : LossyQueue α n → List α → LossyQueue α n) (queue : LossyQueue α n) :
    Use α → (Int × List α) × LossyQueue α n
  | .op (.write items) => ((0, []), put queue items)
  | .op (.read count) => ((0, (queue.read count).1), (queue.read count).2)
  | .count => ((queue.items.length, []), queue)

/-- A queue of each kind reports and delivers the same in a run from `queue`. -/
def Alike (queue : LossyQueue α n) (uses : List (Use α)) : Prop :=
  (Machine.run (observe write) queue uses).1 = (Machine.run (observe replace) queue uses).1

def Op.IsWrite : Op α → Prop
  | .write _ => True
  | .read _ => False

/-- Every write finds the queue empty. -/
def WritesAlone : LossyQueue α n → List (Op α) → Prop
  | _, [] => True
  | queue, op :: rest => (op.IsWrite → queue.items = []) ∧ WritesAlone (queue.step op).2 rest

theorem read_all (queue : LossyQueue α n) (count : Nat) (all : queue.items.length ≤ count) :
    (queue.read count).2 = (queue.read queue.items.length).2 := by
  apply ext
  rw [read_snd_items, read_snd_items, List.drop_length, List.drop_eq_nil_of_le all]

theorem replace_of_empty (queue : LossyQueue α n) (more : List α) (empty : queue.items = []) :
    queue.replace more = queue.write more := by
  have same : (queue.read queue.items.length).2 = queue := by
    apply ext
    rw [read_snd_items, empty, List.drop_nil]
  rw [replace, same]

/-- What a replaced queue holds does not depend on what it held. -/
theorem replace_items (queue : LossyQueue α n) (more : List α) :
    (queue.replace more).items = more.rtake (more.length % n) := by
  rw [replace, write_items, read_snd_items, List.drop_length, List.nil_append, List.length_nil,
    Nat.zero_add]

theorem replace_length (queue : LossyQueue α n) (more : List α) (short : more.length < n) :
    (queue.replace more).items.length = more.length := by
  rw [replace, write_length, read_snd_items, List.drop_length, List.length_nil, Nat.zero_add,
    Nat.mod_eq_of_lt short]

/-- A count after the write tells the two kinds apart, unless there was nothing
to drop. -/
theorem write_length_eq_replace_length_iff (queue : LossyQueue α n) (more : List α)
    (short : more.length < n) :
    (queue.write more).items.length = (queue.replace more).items.length ↔ queue.items = [] := by
  have bounded := queue.bounded
  rw [write_length, replace_length queue more short, ← List.length_eq_zero_iff]
  by_cases turn : queue.items.length + more.length < n
  · rw [Nat.mod_eq_of_lt turn]
    omega
  · have wrapped : (queue.items.length + more.length) % n =
        queue.items.length + more.length - n := by
      rw [Nat.mod_eq_sub_mod (Nat.le_of_not_lt turn)]
      exact Nat.mod_eq_of_lt (by omega)
    rw [wrapped]
    omega

theorem observe_snd (queue : LossyQueue α n) (op : Op α) :
    (observe write queue (.op op)).2 = (queue.step op).2 := by
  cases op with
  | write items => rfl
  | read count => rfl

theorem observe_alike (queue : LossyQueue α n) (op : Op α)
    (alone : op.IsWrite → queue.items = []) :
    observe replace queue (.op op) = observe write queue (.op op) := by
  cases op with
  | write items => simp only [observe, replace_of_empty queue items (alone trivial)]
  | read count => rfl

/-- A difference between the kinds shows in a count right after it arises. -/
theorem alone_of_alike (queue : LossyQueue α n) (op : Op α) (rest : List (Use α))
    (short : op.written.length < n) (alike : Alike queue (.op op :: .count :: rest)) :
    op.IsWrite → queue.items = [] := by
  intro isWrite
  cases op with
  | read count => cases isWrite
  | write items =>
      have counts := (List.cons.inj (List.cons.inj alike).2).1
      apply (write_length_eq_replace_length_iff queue items short).mp
      exact Int.ofNat.inj (congrArg Prod.fst counts)

/-- The kinds cannot be told apart, wherever the counts are asked for, if and only
if every write finds the queue empty. -/
theorem alike_iff_writesAlone (queue : LossyQueue α n) (ops : List (Op α))
    (short : ∀ op ∈ ops, op.written.length < n) :
    (∀ uses, uses.filterMap Use.op? = ops → Alike queue uses) ↔ WritesAlone queue ops := by
  constructor
  · intro alike
    induction ops generalizing queue with
    | nil => trivial
    | cons op rest ih =>
        have plain : (rest.map Use.op).filterMap Use.op? = rest := by
          rw [List.filterMap_map]
          exact List.filterMap_some
        have alone := alone_of_alike queue op (rest.map Use.op)
          (short op List.mem_cons_self) (alike _ (congrArg (op :: ·) plain))
        refine ⟨alone, ih (queue.step op).2 ?_ ?_⟩
        · intro other member
          exact short other (List.mem_cons_of_mem op member)
        · intro uses same
          have whole := alike (.op op :: uses) (congrArg (op :: ·) same)
          rw [Alike, Machine.run_cons, Machine.run_cons, observe_alike queue op alone,
            observe_snd] at whole
          exact (List.cons.inj whole).2
  · intro alone uses same
    induction uses generalizing queue ops with
    | nil => rfl
    | cons use rest ih =>
        cases use with
        | count => exact congrArg (_ :: ·) (ih queue ops short alone same)
        | op op =>
            subst same
            have later : Alike (queue.step op).2 rest := by
              apply ih (queue.step op).2 (rest.filterMap Use.op?) _ alone.2 rfl
              intro other member
              exact short other (List.mem_cons_of_mem op member)
            rw [Alike, Machine.run_cons, Machine.run_cons, observe_alike queue op alone.1,
              observe_snd]
            exact congrArg (_ :: ·) later

end LossyQueue
