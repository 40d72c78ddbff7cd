import Mathlib.Logic.Function.Basic
import ScpiVxiTmc.Lib.Machine

set_option autoImplicit false

/- Merges of streams. A schedule says which stream gives its next item. -/
namespace Merge

variable {κ α : Type} [DecidableEq κ]

/-- The next item of a stream, if it has one. -/
def pick (streams : κ → List α) (next : κ) : Option (α × (κ → List α)) :=
  match streams next with
  | [] => none
  | item :: rest => some (item, Function.update streams next rest)

/-- Each item goes to the place of `target` that holds an equal one. -/
def InPlace (streams : κ → List α) (schedule : List κ) (target : List α) : Prop :=
  ∀ front next back, schedule = front ++ next :: back →
    (streams next)[front.count next]? = target[front.length]?

theorem count_cons (first : κ) (rest : List κ) (k : κ) :
    (first :: rest).count k = [first].count k + rest.count k := by
  rw [← List.count_append, List.singleton_append]

section
variable {streams : κ → List α} {first : κ} {item : α} {tail : List α}
  (stream : streams first = item :: tail)
include stream

/-- Every stream goes on behind what was taken of it. -/
theorem update_eq_drop (k : κ) :
    Function.update streams first tail k = (streams k).drop ([first].count k) := by
  by_cases same : k = first
  · subst same
    rw [Function.update_self, stream, List.count_singleton_self]
    rfl
  · rw [Function.update_of_ne same, List.count_singleton, if_neg (by simpa using Ne.symm same)]
    rfl

/-- An item taken first goes to the first place. -/
theorem InPlace.cons {rest : List κ} {items : List α}
    (places : InPlace (Function.update streams first tail) rest items) :
    InPlace streams (first :: rest) (item :: items) := by
  intro front next back split
  cases front with
  | nil =>
      cases split
      rw [stream]
      rfl
  | cons head front =>
      cases split
      have place := places front next back rfl
      rw [update_eq_drop stream, List.getElem?_drop, ← count_cons] at place
      exact place

end

/-- A schedule that no stream is too short for takes that many items of each,
and at every place the one that the stream has reached. -/
theorem exec_pick (streams : κ → List α) (schedule : List κ)
    (within : ∀ k, schedule.count k ≤ (streams k).length) :
    ∃ items, Machine.exec pick streams schedule =
        some (items, fun k => (streams k).drop (schedule.count k)) ∧
      items.length = schedule.length ∧ InPlace streams schedule items := by
  induction schedule generalizing streams with
  | nil =>
      refine ⟨[], rfl, rfl, ?_⟩
      intro front next back split
      cases front <;> cases split
  | cons first rest ih =>
      cases stream : streams first with
      | nil =>
          have enough := within first
          rw [stream, List.count_cons_self] at enough
          cases enough
      | cons item tail =>
          have withinRest (k : κ) :
              rest.count k ≤ (Function.update streams first tail k).length := by
            have enough := within k
            rw [count_cons] at enough
            rw [update_eq_drop stream, List.length_drop]
            omega
          rcases ih _ withinRest with ⟨items, ran, size, places⟩
          refine ⟨item :: items, ?_, congrArg (· + 1) size, places.cons stream⟩
          apply Machine.exec_cons_eq_some.mpr
          refine ⟨item, Function.update streams first tail, items, by rw [pick, stream], ?_, rfl⟩
          rw [ran]
          congr 2
          funext k
          rw [update_eq_drop stream, List.drop_drop, ← count_cons]

/-- Two sequences of items that are both in their places are the same. -/
theorem InPlace.eq_iff {streams : κ → List α} {schedule : List κ} {items : List α}
    (places : InPlace streams schedule items) (target : List α)
    (size : items.length = schedule.length) (fits : target.length = schedule.length) :
    items = target ↔ InPlace streams schedule target := by
  constructor
  · intro same
    exact same ▸ places
  · intro others
    apply List.ext_getElem?
    intro place
    by_cases inside : place < schedule.length
    · have split : schedule =
          schedule.take place ++ schedule[place] :: schedule.drop (place + 1) := by
        rw [List.getElem_cons_drop, List.take_append_drop]
      have here := places _ _ _ split
      rw [others _ _ _ split, List.length_take, Nat.min_eq_left (Nat.le_of_lt inside)] at here
      exact here.symm
    · rw [List.getElem?_eq_none (by omega), List.getElem?_eq_none (by omega)]

/-- Items that tell their streams are in the places that the schedule gives them. -/
theorem inPlace_map (name : κ → α) (schedule : List κ) :
    InPlace (fun k => List.replicate (schedule.count k) (name k)) schedule (schedule.map name) := by
  intro front next back split
  have some : front.count next < schedule.count next := by
    rw [split, List.count_append, List.count_cons_self]
    omega
  rw [List.getElem?_replicate_of_lt some, List.getElem?_map, split,
    List.getElem?_append_right (Nat.le_refl _), Nat.sub_self]
  rfl

/-- A stream taken whole and then another one need no look at their items. -/
theorem inPlace_in_turn (streams : κ → List α) {first second : κ} (apart : first ≠ second) :
    InPlace streams
      (List.replicate (streams first).length first ++
        List.replicate (streams second).length second)
      (streams first ++ streams second) := by
  intro front next back split
  have frontIs := congrArg (List.take front.length) split
  rw [List.take_left, List.take_append, List.take_replicate, List.take_replicate,
    List.length_replicate] at frontIs
  have counted : front.count next =
      (if first = next then min front.length (streams first).length else 0) +
        if second = next then min (front.length - (streams first).length) (streams second).length
        else 0 := by
    rw [show front.count next = _ from congrArg (List.count next) frontIs.symm]
    simp only [List.count_append, List.count_replicate, beq_iff_eq]
  have nextIs := congrArg (·[front.length]?) split
  simp only [List.getElem?_append_right (Nat.le_refl front.length), Nat.sub_self,
    List.getElem?_cons_zero, List.getElem?_append, List.length_replicate] at nextIs
  by_cases early : front.length < (streams first).length
  · rw [if_pos early, List.getElem?_replicate_of_lt early] at nextIs
    cases nextIs
    rw [if_pos rfl, if_neg (Ne.symm apart), Nat.min_eq_left (Nat.le_of_lt early)] at counted
    rw [counted, Nat.add_zero, List.getElem?_append_left early]
  · rw [if_neg early, List.getElem?_replicate] at nextIs
    split at nextIs
    · rename_i inside
      cases nextIs
      rw [if_pos rfl, if_neg apart, Nat.min_eq_left (Nat.le_of_lt inside)] at counted
      rw [counted, Nat.zero_add, List.getElem?_append_right (Nat.le_of_not_lt early)]
    · cases nextIs

end Merge
