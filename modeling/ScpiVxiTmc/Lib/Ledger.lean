import ScpiVxiTmc.Lib.Machine

set_option autoImplicit false

/- Resources that a program takes, uses and gives back, such as threads, open
files or sessions. A trace lists what it did to them, oldest first. -/
namespace Ledger

inductive Entry (α : Type)
  | opened (resource : α)
  | used (resource : α)
  | closed (resource : α)
  deriving DecidableEq

variable {α : Type} [DecidableEq α]

/-- What is held after one entry. Giving a resource back ends every hold of it. -/
def hold (held : List α) : Entry α → List α
  | .opened resource => held ++ [resource]
  | .used _ => held
  | .closed resource => held.filter (· ≠ resource)

/-- What is held after a trace, in the order it was taken. -/
def live (held : List α) (trace : List (Entry α)) : List α := trace.foldl hold held

/-- `P` holds of every entry and of what is held just before it. -/
def Along (P : List α → Entry α → Prop) : List α → List (Entry α) → Prop
  | _, [] => True
  | held, entry :: rest => P held entry ∧ Along P (hold held entry) rest

/-- Only what is held is used or given back. -/
def UsesHeld (held : List α) : Entry α → Prop
  | .opened _ => True
  | .used resource => resource ∈ held
  | .closed resource => resource ∈ held

/-- What is taken is neither held already nor the reserved resource. -/
def TakesNew (reserved : α) (held : List α) : Entry α → Prop
  | .opened resource => resource ∉ held ∧ resource ≠ reserved
  | .used _ => True
  | .closed _ => True

/-- No use after giving back, no giving back twice, and nothing that was never taken. -/
abbrev Safe : List α → List (Entry α) → Prop := Along UsesHeld

abbrev Fresh (reserved : α) : List α → List (Entry α) → Prop := Along (TakesNew reserved)

@[simp] theorem live_nil (held : List α) : live held [] = held := rfl

@[simp] theorem live_cons (held : List α) (entry : Entry α) (rest : List (Entry α)) :
    live held (entry :: rest) = live (hold held entry) rest := rfl

theorem live_append (held : List α) (front back : List (Entry α)) :
    live held (front ++ back) = live (live held front) back :=
  List.foldl_append

theorem along_append (P : List α → Entry α → Prop) (held : List α)
    (front back : List (Entry α)) :
    Along P held (front ++ back) ↔ Along P held front ∧ Along P (live held front) back := by
  induction front generalizing held with
  | nil => exact (true_and _).symm.to_iff
  | cons entry rest ih =>
      simp only [List.cons_append, Along, live_cons, ih, and_assoc]

/-- Every entry of the trace meets the condition on what the entries before it left. -/
theorem along_at {P : List α → Entry α → Prop} {held : List α} {front back : List (Entry α)}
    {entry : Entry α} (along : Along P held (front ++ entry :: back)) :
    P (live held front) entry :=
  ((along_append P held front (entry :: back)).mp along).2.1

theorem reserved_not_mem_hold {reserved : α} {held : List α} {entry : Entry α}
    (absent : reserved ∉ held) (fresh : TakesNew reserved held entry) :
    reserved ∉ hold held entry := by
  cases entry with
  | opened resource =>
      intro member
      rcases List.mem_append.mp member with old | new
      · exact absent old
      · exact fresh.2 (List.mem_singleton.mp new).symm
  | used resource => exact absent
  | closed resource => exact fun member => absent (List.mem_filter.mp member).1

theorem reserved_not_mem_live {reserved : α} {held : List α} {trace : List (Entry α)}
    (absent : reserved ∉ held) (fresh : Fresh reserved held trace) :
    reserved ∉ live held trace := by
  induction trace generalizing held with
  | nil => exact absent
  | cons entry rest ih => exact ih (reserved_not_mem_hold absent fresh.1) fresh.2

theorem ne_of_opened {reserved : α} {held : List α} {trace : List (Entry α)} {resource : α}
    (fresh : Fresh reserved held trace) (taken : .opened resource ∈ trace) :
    resource ≠ reserved := by
  obtain ⟨front, back, rfl⟩ := List.append_of_mem taken
  exact (along_at fresh).2

/-- A machine that puts out what it does to its resources is safe if each step
is, as long as the environment hands out new ones. -/
theorem exec_safe {σ ι : Type} {step : σ → ι → Option (List (Entry α) × σ)} {reserved : α}
    {J : σ → List α → Prop}
    (keeps : ∀ state input trace after held, J state held →
      step state input = some (trace, after) → Fresh reserved held trace →
      Safe held trace ∧ J after (live held trace))
    {state last : σ} {inputs : List ι} {outputs : List (List (Entry α))} {held : List α}
    (holds : J state held) (moved : Machine.exec step state inputs = some (outputs, last))
    (fresh : Fresh reserved held outputs.flatten) :
    Safe held outputs.flatten ∧ J last (live held outputs.flatten) := by
  induction inputs generalizing state outputs held with
  | nil =>
      obtain ⟨rfl, rfl⟩ := Machine.exec_nil_eq_some.mp moved
      exact ⟨trivial, holds⟩
  | cons input rest ih =>
      obtain ⟨trace, after, later, first, remaining, rfl⟩ := Machine.exec_cons_eq_some.mp moved
      rw [List.flatten_cons, Fresh, along_append] at fresh
      obtain ⟨safe, next⟩ := keeps state input trace after held holds first fresh.1
      obtain ⟨safeLater, lastHolds⟩ := ih next remaining fresh.2
      rw [List.flatten_cons, Safe, along_append, live_append]
      exact ⟨⟨safe, safeLater⟩, lastHolds⟩

end Ledger
