import ScpiVxiTmc.Lib.Machine
import Mathlib.Data.List.Induction

set_option autoImplicit false

/- Conditions on whole histories of a machine, and when exactly a machine keeps
a promise at every step of its runs. -/
namespace Machine

variable {σ ι ω : Type}

/-- `G` holds of every input, given the inputs before it. -/
def Guarded (G : List ι → ι → Prop) (inputs : List ι) : Prop :=
  ∀ before input, before ++ [input] <+: inputs → G before input

/-- `P` holds at every step of a run: of the inputs and outputs before it, the
state that it finds, its input and what the machine does with it. -/
def Throughout (step : σ → ι → Option (ω × σ))
    (P : List ι → List ω → σ → ι → Option (ω × σ) → Prop) (start : σ) (inputs : List ι) : Prop :=
  ∀ before input, before ++ [input] <+: inputs →
    ∀ outputs state, exec step start before = some (outputs, state) →
      P before outputs state input (step state input)

theorem guarded_nil (G : List ι → ι → Prop) : Guarded G [] := by
  intro before input shorter
  simp at shorter

theorem guarded_concat {G : List ι → ι → Prop} {inputs : List ι} {last : ι} :
    Guarded G (inputs ++ [last]) ↔ Guarded G inputs ∧ G inputs last := by
  constructor
  · intro guarded
    refine ⟨?_, guarded inputs last (List.prefix_refl _)⟩
    intro before input shorter
    exact guarded before input (shorter.trans (List.prefix_append _ _))
  · intro ⟨earlier, now⟩ before input shorter
    rcases List.prefix_concat_iff.mp shorter with same | inside
    · obtain ⟨rfl, sameInput⟩ := List.append_inj' same rfl
      rw [List.singleton_inj] at sameInput
      exact sameInput ▸ now
    · exact earlier before input inside

/-- A guard that does not look back is a condition on each input. -/
theorem guarded_iff_forall {Q : ι → Prop} {inputs : List ι} :
    Guarded (fun _ input => Q input) inputs ↔ ∀ input ∈ inputs, Q input := by
  induction inputs using List.reverseRecOn with
  | nil => exact iff_of_true (guarded_nil _) (List.forall_mem_nil Q)
  | append_singleton inputs last ih =>
      rw [guarded_concat, ih, List.forall_mem_append, List.forall_mem_singleton]

section
variable {step : σ → ι → Option (ω × σ)}
  {P : List ι → List ω → σ → ι → Option (ω × σ) → Prop} {start : σ}

theorem throughout_nil : Throughout step P start [] := by
  intro before input shorter
  simp at shorter

theorem throughout_concat {inputs : List ι} {last : ι} :
    Throughout step P start (inputs ++ [last]) ↔
      Throughout step P start inputs ∧
        ∀ outputs state, exec step start inputs = some (outputs, state) →
          P inputs outputs state last (step state last) :=
  guarded_concat

theorem exec_concat_eq_some {state last : σ} {inputs : List ι} {input : ι} {outputs : List ω} :
    exec step state (inputs ++ [input]) = some (outputs, last) ↔
      ∃ earlier before output, exec step state inputs = some (earlier, before) ∧
        step before input = some (output, last) ∧ outputs = earlier ++ [output] := by
  rw [exec_append_eq_some]
  constructor
  · rintro ⟨before, earlier, late, front, back, rfl⟩
    obtain ⟨output, after, later, moved, stayed, rfl⟩ := exec_cons_eq_some.mp back
    obtain ⟨rfl, rfl⟩ := exec_nil_eq_some.mp stayed
    exact ⟨earlier, before, output, front, moved, rfl⟩
  · rintro ⟨earlier, before, output, front, moved, rfl⟩
    exact ⟨before, earlier, [output], front,
      exec_cons_eq_some.mpr ⟨output, last, [], moved, rfl, rfl⟩, rfl⟩

/-- What is promised of a step that returns is promised of what it returned. -/
theorem returns_iff {Q : ω → σ → Prop} {output : ω} {after : σ} :
    (∃ reply last, some (output, after) = some (reply, last) ∧ Q reply last) ↔
      Q output after := by
  constructor
  · rintro ⟨reply, last, same, promised⟩
    obtain ⟨rfl, rfl⟩ := Prod.mk.inj (Option.some.inj same)
    exact promised
  · intro promised
    exact ⟨output, after, rfl, promised⟩

/-- An invariant of a run that may speak of its history. -/
theorem exec_history {J : List ι → List ω → σ → Prop} (base : J [] [] start)
    (keeps : ∀ before outputs state input output after, J before outputs state →
      step state input = some (output, after) → J (before ++ [input]) (outputs ++ [output]) after)
    {inputs : List ι} {outputs : List ω} {last : σ}
    (moved : exec step start inputs = some (outputs, last)) : J inputs outputs last := by
  induction inputs using List.reverseRecOn generalizing outputs last with
  | nil =>
      obtain ⟨rfl, rfl⟩ := exec_nil_eq_some.mp moved
      exact base
  | append_singleton inputs input ih =>
      obtain ⟨earlier, before, output, front, next, rfl⟩ := exec_concat_eq_some.mp moved
      exact keeps inputs earlier before input output last (ih front) next

/-- Every step of a run that returned returned, with a part of its outputs. -/
theorem throughout_of_exec {A : List ι → List ω → σ → ι → ω → Prop} {inputs : List ι}
    {outputs : List ω} {last : σ} (moved : exec step start inputs = some (outputs, last))
    (holds : ∀ before input, before ++ [input] <+: inputs → ∀ earlier state output,
      earlier ++ [output] <+: outputs → A before earlier state input output) :
    Throughout step (fun before earlier state input result =>
      ∃ output after, result = some (output, after) ∧ A before earlier state input output)
      start inputs := by
  intro before input shorter earlier state front
  obtain ⟨rest, rfl⟩ := shorter
  obtain ⟨middle, early, late, together, _, rfl⟩ := exec_append_eq_some.mp moved
  obtain ⟨same, found, output, first, next, rfl⟩ := exec_concat_eq_some.mp together
  rw [front, Option.some.injEq, Prod.mk.injEq] at first
  obtain ⟨rfl, rfl⟩ := first
  exact ⟨output, middle, next,
    holds before input (List.prefix_append _ _) earlier state output (List.prefix_append _ _)⟩

/-- When a promise `P` is kept. As long as the guard has held, the invariant `J`
holds; there the step keeps the promise if and only if the guard holds of it.
Then a run keeps the promise at every step if and only if its inputs are guarded. -/
theorem throughout_iff_guarded {A : List ι → List ω → σ → ι → Option (ω × σ) → Prop}
    {J : List ι → List ω → σ → Prop} {G : List ι → ι → Prop} {inputs : List ι}
    (assumed : Throughout step A start inputs) (base : J [] [] start)
    (exact : ∀ before outputs state input, J before outputs state →
      A before outputs state input (step state input) →
      (P before outputs state input (step state input) ↔ G before input))
    (keeps : ∀ before outputs state input, J before outputs state →
      A before outputs state input (step state input) → G before input →
      ∃ output after, step state input = some (output, after) ∧
        J (before ++ [input]) (outputs ++ [output]) after) :
    Throughout step P start inputs ↔ Guarded G inputs := by
  suffices both : (Throughout step P start inputs ↔ Guarded G inputs) ∧
      (Guarded G inputs → ∃ outputs state,
        exec step start inputs = some (outputs, state) ∧ J inputs outputs state) from both.1
  induction inputs using List.reverseRecOn with
  | nil =>
      refine ⟨⟨fun _ => guarded_nil G, fun _ => throughout_nil⟩, ?_⟩
      intro _
      exact ⟨[], start, rfl, base⟩
  | append_singleton inputs input ih =>
      obtain ⟨assumedBefore, assumedNow⟩ := throughout_concat.mp assumed
      obtain ⟨same, reaches⟩ := ih assumedBefore
      rw [throughout_concat, guarded_concat, same]
      refine ⟨and_congr_right ?_, ?_⟩
      · intro guarded
        obtain ⟨outputs, state, moved, holds⟩ := reaches guarded
        have now := exact inputs outputs state input holds (assumedNow outputs state moved)
        constructor
        · intro promised
          exact now.mp (promised outputs state moved)
        · intro guard others found movedToo
          rw [moved, Option.some.injEq, Prod.mk.injEq] at movedToo
          obtain ⟨rfl, rfl⟩ := movedToo
          exact now.mpr guard
      · intro ⟨guarded, guard⟩
        obtain ⟨outputs, state, moved, holds⟩ := reaches guarded
        obtain ⟨output, after, next, later⟩ :=
          keeps inputs outputs state input holds (assumedNow outputs state moved) guard
        exact ⟨outputs ++ [output], after,
          exec_concat_eq_some.mpr ⟨outputs, state, output, moved, next, rfl⟩, later⟩

/-- The same where nothing is assumed of the environment. -/
theorem throughout_iff {J : List ι → List ω → σ → Prop} {G : List ι → ι → Prop}
    {inputs : List ι} (base : J [] [] start)
    (exact : ∀ before outputs state input, J before outputs state →
      (P before outputs state input (step state input) ↔ G before input))
    (keeps : ∀ before outputs state input, J before outputs state → G before input →
      ∃ output after, step state input = some (output, after) ∧
        J (before ++ [input]) (outputs ++ [output]) after) :
    Throughout step P start inputs ↔ Guarded G inputs := by
  apply throughout_iff_guarded (A := fun _ _ _ _ _ => True) (J := J)
  · intro before input shorter outputs state moved
    trivial
  · exact base
  · intro before outputs state input holds _
    exact exact before outputs state input holds
  · intro before outputs state input holds _ guard
    exact keeps before outputs state input holds guard

end

end Machine
