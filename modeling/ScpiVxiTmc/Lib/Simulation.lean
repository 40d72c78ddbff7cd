import ScpiVxiTmc.Lib.Routing
import Mathlib.Data.List.Forall2

set_option autoImplicit false

/- Two machines that move together and whose outputs look alike, and one that is
another under a change of names. -/
namespace Machine

variable {σ τ ι κ ω ο ω' ο' : Type}

/-- How two machines may move from related states: both, or neither. -/
abbrev Together (R : σ → τ → Prop) (Q : ω → ω' → Prop) :
    Option (ω × σ) → Option (ω' × τ) → Prop :=
  Option.Rel fun one other => Q one.1 other.1 ∧ R one.2 other.2

theorem rel_map {α β γ δ : Type} {r : α → β → Prop} {r' : γ → δ → Prop} {f : α → γ} {g : β → δ}
    {one : Option α} {other : Option β} (related : Option.Rel r one other)
    (keeps : ∀ a b, r a b → r' (f a) (g b)) : Option.Rel r' (one.map f) (other.map g) := by
  cases related with
  | none => exact .none
  | some both => exact .some (keeps _ _ both)

theorem rel_bind {α β γ δ : Type} {r : α → β → Prop} {r' : γ → δ → Prop} {f : α → Option γ}
    {g : β → Option δ} {one : Option α} {other : Option β} (related : Option.Rel r one other)
    (keeps : ∀ a b, r a b → Option.Rel r' (f a) (g b)) :
    Option.Rel r' (one.bind f) (other.bind g) := by
  cases related with
  | none => exact .none
  | some both => exact keeps _ _ both

/-- Machines that move together at every step move together on every run, and
their outputs are pairwise alike. -/
theorem exec_together {step : σ → ι → Option (ω × σ)} {step' : τ → ι → Option (ω' × τ)}
    {R : σ → τ → Prop} {Q : ω → ω' → Prop}
    (agree : ∀ state state' input, R state state' →
      Together R Q (step state input) (step' state' input))
    {state : σ} {state' : τ} (related : R state state') (inputs : List ι) :
    Together R (List.Forall₂ Q) (exec step state inputs) (exec step' state' inputs) := by
  induction inputs generalizing state state' with
  | nil => exact .some ⟨.nil, related⟩
  | cons input rest ih =>
      apply rel_bind (agree state state' input related)
      intro one other both
      apply rel_map (ih both.2)
      intro later later' ends
      exact ⟨.cons both.1 ends.1, ends.2⟩

/-- What stands in front of machines that move together moves together, if it
dresses up what is alike alike. -/
theorem Fronts.together {front : σ → ι → Option (ω × σ)} {behind : σ → κ → Option (ο × σ)}
    {front' : τ → ι → Option (ω × τ)} {behind' : τ → κ → Option (ο' × τ)}
    {route : ι → Option κ} {own : ι → ω} {dress : ι → ο → ω} {dress' : ι → ο' → ω}
    (fronts : Fronts front behind route own dress)
    (fronts' : Fronts front' behind' route own dress') {R : σ → τ → Prop} {Q : ο → ο' → Prop}
    {P : ω → ω → Prop} (alike : ∀ output, P output output)
    (dressed : ∀ input output output', Q output output' →
      P (dress input output) (dress' input output'))
    (agree : ∀ state state' input, R state state' →
      Together R Q (behind state input) (behind' state' input))
    (state : σ) (state' : τ) (input : ι) (related : R state state') :
    Together R P (front state input) (front' state' input) := by
  cases routed : route input with
  | none =>
      rw [fronts.stays state input routed, fronts'.stays state' input routed]
      exact .some ⟨alike _, related⟩
  | some through =>
      rw [fronts.passes state input through routed, fronts'.passes state' input through routed]
      apply rel_map (agree state state' through related)
      intro one other both
      exact ⟨dressed input _ _ both.1, both.2⟩

/-- A machine that stands at the images of another's states and makes its moves. -/
theorem exec_embed {step : σ → ι → Option (ω × σ)} {step' : τ → κ → Option (ω' × τ)}
    {embed : τ → σ} {name : κ → ι} {shown : ω' → ω}
    (same : ∀ state input, step (embed state) (name input) =
      (step' state input).map fun done => (shown done.1, embed done.2))
    (state : τ) (inputs : List κ) :
    exec step (embed state) (inputs.map name) =
      (exec step' state inputs).map fun done => (done.1.map shown, embed done.2) := by
  induction inputs generalizing state with
  | nil => rfl
  | cons input rest ih =>
      rw [List.map_cons, exec, exec, same]
      cases step' state input with
      | none => rfl
      | some done =>
          simp only [Option.map_some, Option.bind_some, ih, Option.map_map, Function.comp_def,
            List.map_cons]

theorem exec_append (step : σ → ι → Option (ω × σ)) (state : σ) (front back : List ι) :
    exec step state (front ++ back) =
      (exec step state front).bind fun done =>
        (exec step done.2 back).map fun later => (done.1 ++ later.1, later.2) := by
  induction front generalizing state with
  | nil => simp [exec]
  | cons input rest ih =>
      rw [List.cons_append, exec, exec]
      cases step state input with
      | none => rfl
      | some done =>
          simp only [Option.bind_some, ih, Option.map_bind, Option.bind_map, Function.comp_def,
            Option.map_map, List.cons_append]

/-- Batches of inputs are the inputs, one after the other. -/
theorem exec_flatMap (step : σ → ι → Option (ω × σ)) (batch : κ → List ι) (state : σ)
    (inputs : List κ) :
    exec step state (inputs.flatMap batch) =
      (exec (fun state input => exec step state (batch input)) state inputs).map
        fun done => (done.1.flatten, done.2) := by
  induction inputs generalizing state with
  | nil => rfl
  | cons input rest ih =>
      rw [List.flatMap_cons, exec_append, exec]
      cases exec step state (batch input) with
      | none => rfl
      | some done =>
          simp only [Option.bind_some, ih, Option.map_map, Function.comp_def, List.flatten_cons]

end Machine
