import ScpiVxiTmc.Lib.Machine

set_option autoImplicit false

/- A machine in front of another: some inputs it answers by itself and stays as it
is, the others it translates, and dresses up what comes back. -/
namespace Machine

variable {σ ι κ ω ο : Type}

/-- The answers to all inputs, given those of the machine behind to the ones that
go through. -/
def weave (route : ι → Option κ) (own : ι → ω) (dress : ι → ο → ω) : List ι → List ο → List ω
  | [], _ => []
  | input :: rest, outputs =>
      if (route input).isSome then
        (outputs.take 1).map (dress input) ++ weave route own dress rest (outputs.drop 1)
      else own input :: weave route own dress rest outputs

/-- One step of the machine in front, as a step of the one behind or none. -/
structure Fronts (front : σ → ι → Option (ω × σ)) (behind : σ → κ → Option (ο × σ))
    (route : ι → Option κ) (own : ι → ω) (dress : ι → ο → ω) : Prop where
  passes : ∀ state input through, route input = some through →
    front state input = (behind state through).map fun done => (dress input done.1, done.2)
  stays : ∀ state input, route input = none → front state input = some (own input, state)

variable {front : σ → ι → Option (ω × σ)} {behind : σ → κ → Option (ο × σ)}
  {route : ι → Option κ} {own : ι → ω} {dress : ι → ο → ω}

/-- A run of the machine in front is the run of the one behind on what goes through. -/
theorem Fronts.exec_eq (fronts : Fronts front behind route own dress) (state : σ)
    (inputs : List ι) :
    exec front state inputs =
      (exec behind state (inputs.filterMap route)).map fun done =>
        (weave route own dress inputs done.1, done.2) := by
  induction inputs generalizing state with
  | nil => rfl
  | cons input rest ih =>
      cases routed : route input with
      | none =>
          rw [List.filterMap_cons_none routed, exec, fronts.stays state input routed,
            Option.bind_some, ih, Option.map_map]
          simp only [Function.comp_def, weave, routed, Option.isSome_none, Bool.false_eq_true,
            ↓reduceIte]
      | some through =>
          rw [List.filterMap_cons_some routed, exec, fronts.passes state input through routed,
            exec]
          cases moved : behind state through with
          | none => rfl
          | some done =>
              simp only [Option.map_some, Option.bind_some, ih, Option.map_map,
                Function.comp_def, weave, routed, Option.isSome_some, ↓reduceIte,
                List.take_succ_cons, List.take_zero, List.map_cons, List.map_nil,
                List.drop_succ_cons, List.drop_zero, List.singleton_append]

/-- Without the inputs that the machine in front answers by itself, a run ends in
the same state and the other inputs get the same answers. -/
theorem Fronts.exec_filter (fronts : Fronts front behind route own dress) (state : σ)
    (inputs : List ι) :
    exec front state (inputs.filter fun input => (route input).isSome) =
      (exec front state inputs).map fun done =>
        (((inputs.zip done.1).filter fun pair => (route pair.1).isSome).map Prod.snd, done.2) := by
  induction inputs generalizing state with
  | nil => rfl
  | cons input rest ih =>
      cases routed : route input with
      | none =>
          have out : (input :: rest).filter (fun input => (route input).isSome) =
              rest.filter fun input => (route input).isSome := by
            simp [routed]
          rw [out, ih, exec, fronts.stays state input routed, Option.bind_some, Option.map_map]
          simp [Function.comp_def, routed]
      | some through =>
          have kept : (input :: rest).filter (fun input => (route input).isSome) =
              input :: rest.filter fun input => (route input).isSome := by
            simp [routed]
          rw [kept, exec, exec]
          cases moved : front state input with
          | none => rfl
          | some next =>
              simp only [Option.bind_some, ih, Option.map_map, Function.comp_def]
              simp [routed]

end Machine
