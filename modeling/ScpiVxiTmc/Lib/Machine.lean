set_option autoImplicit false

/- Runs of deterministic machines. A machine answers each input with an output;
a total one always moves, a partial one may refuse an input in some states, as a
call that blocks does. A schedule of a concurrent system is a list of inputs that
say which party moves next. -/
namespace Machine

variable {σ τ ι ω : Type}

/-- The outputs of a total machine on `inputs`, with its last state. -/
def run (step : σ → ι → ω × σ) : σ → List ι → List ω × σ
  | state, [] => ([], state)
  | state, input :: rest =>
      let next := step state input
      let later := run step next.2 rest
      (next.1 :: later.1, later.2)

/-- The same for a partial machine: no result if some input is refused. -/
def exec (step : σ → ι → Option (ω × σ)) : σ → List ι → Option (List ω × σ)
  | state, [] => some ([], state)
  | state, input :: rest =>
      (step state input).bind fun next =>
        (exec step next.2 rest).map fun later => (next.1 :: later.1, later.2)

/-- `P` holds of the state and the input at every step of the run. -/
def Along (step : σ → ι → Option (ω × σ)) (P : σ → ι → Prop) : σ → List ι → Prop
  | _, [] => True
  | state, input :: rest =>
      P state input ∧
        ∀ output after, step state input = some (output, after) → Along step P after rest

/-- Two inputs may come in either order: each gets the same answer, and both
orders lead to the same state. -/
structure Commute (step : σ → ι → ω × σ) (state : σ) (first second : ι) : Prop where
  firstOutput : (step state first).1 = (step (step state second).2 first).1
  secondOutput : (step (step state first).2 second).1 = (step state second).1
  last : (step (step state first).2 second).2 = (step (step state second).2 first).2

def Reachable (step : σ → ι → Option (ω × σ)) (start state : σ) : Prop :=
  ∃ inputs outputs, exec step start inputs = some (outputs, state)

@[simp] theorem run_nil (step : σ → ι → ω × σ) (state : σ) : run step state [] = ([], state) :=
  rfl

@[simp] theorem run_cons (step : σ → ι → ω × σ) (state : σ) (input : ι) (rest : List ι) :
    run step state (input :: rest) =
      ((step state input).1 :: (run step (step state input).2 rest).1,
        (run step (step state input).2 rest).2) := rfl

/-- Lock-step simulation: equal outputs and related states at one step give
equal outputs and related states of whole runs. -/
theorem run_simulates {step : σ → ι → ω × σ} {step' : τ → ι → ω × τ} {R : σ → τ → Prop}
    (agree : ∀ state abstract input, R state abstract →
      (step state input).1 = (step' abstract input).1 ∧
        R (step state input).2 (step' abstract input).2)
    (state : σ) (abstract : τ) (inputs : List ι) (related : R state abstract) :
    (run step state inputs).1 = (run step' abstract inputs).1 ∧
      R (run step state inputs).2 (run step' abstract inputs).2 := by
  induction inputs generalizing state abstract with
  | nil => exact ⟨rfl, related⟩
  | cons input rest ih =>
      obtain ⟨sameOutput, relatedNext⟩ := agree state abstract input related
      obtain ⟨sameOutputs, relatedLast⟩ := ih _ _ relatedNext
      refine ⟨?_, relatedLast⟩
      simp only [run_cons, sameOutput, sameOutputs]

/-- What every step keeps, a run keeps. -/
theorem run_invariant {step : σ → ι → ω × σ} {P : σ → Prop}
    (keeps : ∀ state input, P state → P (step state input).2) (state : σ) (inputs : List ι)
    (holds : P state) : P (run step state inputs).2 := by
  induction inputs generalizing state with
  | nil => exact holds
  | cons input rest ih => exact ih (step state input).2 (keeps state input holds)

@[simp] theorem exec_nil (step : σ → ι → Option (ω × σ)) (state : σ) :
    exec step state [] = some ([], state) := rfl

theorem exec_nil_eq_some {step : σ → ι → Option (ω × σ)} {state last : σ} {outputs : List ω} :
    exec step state [] = some (outputs, last) ↔ [] = outputs ∧ state = last := by
  rw [exec_nil, Option.some.injEq, Prod.mk.injEq]

theorem exec_cons_eq_some {step : σ → ι → Option (ω × σ)} {state last : σ} {input : ι}
    {rest : List ι} {outputs : List ω} :
    exec step state (input :: rest) = some (outputs, last) ↔
      ∃ output after later, step state input = some (output, after) ∧
        exec step after rest = some (later, last) ∧ outputs = output :: later := by
  constructor
  · intro moved
    simp only [exec, Option.bind_eq_some_iff, Option.map_eq_some_iff, Prod.mk.injEq] at moved
    obtain ⟨next, first, later, remaining, same, ended⟩ := moved
    refine ⟨next.1, next.2, later.1, first, ?_, same.symm⟩
    rw [remaining, ← ended]
  · rintro ⟨output, after, later, first, remaining, rfl⟩
    simp only [exec, first, Option.bind_some, remaining, Option.map_some]

theorem exec_append_eq_some {step : σ → ι → Option (ω × σ)} {state last : σ}
    {front back : List ι} {outputs : List ω} :
    exec step state (front ++ back) = some (outputs, last) ↔
      ∃ middle early late, exec step state front = some (early, middle) ∧
        exec step middle back = some (late, last) ∧ outputs = early ++ late := by
  induction front generalizing state outputs with
  | nil =>
      constructor
      · intro moved
        exact ⟨state, [], outputs, rfl, moved, rfl⟩
      · rintro ⟨middle, early, late, stayed, moved, rfl⟩
        obtain ⟨rfl, rfl⟩ := exec_nil_eq_some.mp stayed
        exact moved
  | cons input rest ih =>
      simp only [List.cons_append, exec_cons_eq_some, ih]
      constructor
      · rintro ⟨output, after, later, first, ⟨middle, early, late, hEarly, hLate, rfl⟩, rfl⟩
        exact ⟨middle, output :: early, late, ⟨output, after, early, first, hEarly, rfl⟩,
          hLate, rfl⟩
      · rintro ⟨middle, early, late, ⟨output, after, later, first, hLater, rfl⟩, hLate, rfl⟩
        exact ⟨output, after, later ++ late, first, ⟨middle, later, late, hLater, hLate, rfl⟩, rfl⟩

/-- Where the input alone decides whether a step is refused, a run is refused by one
of its inputs. -/
theorem exec_eq_none_iff {step : σ → ι → Option (ω × σ)} {Q : ι → Prop}
    (refuses : ∀ state input, step state input = none ↔ Q input) (state : σ) (inputs : List ι) :
    exec step state inputs = none ↔ ∃ input ∈ inputs, Q input := by
  induction inputs generalizing state with
  | nil => simp [exec]
  | cons input rest ih =>
      simp only [List.mem_cons, exists_eq_or_imp, exec]
      cases moved : step state input with
      | none => exact iff_of_true rfl (Or.inl ((refuses state input).mp moved))
      | some next =>
          have goes : ¬ Q input := by
            rw [← refuses state, moved]
            exact Option.some_ne_none next
          rw [Option.bind_some, Option.map_eq_none_iff, ih, or_iff_right goes]

theorem exec_invariant {step : σ → ι → Option (ω × σ)} {P : σ → Prop}
    (keeps : ∀ state input output after, P state →
      step state input = some (output, after) → P after)
    {state last : σ} {inputs : List ι} {outputs : List ω} (holds : P state)
    (moved : exec step state inputs = some (outputs, last)) : P last := by
  induction inputs generalizing state outputs with
  | nil =>
      obtain ⟨_, rfl⟩ := exec_nil_eq_some.mp moved
      exact holds
  | cons input rest ih =>
      obtain ⟨output, after, later, first, remaining, _⟩ := exec_cons_eq_some.mp moved
      exact ih (keeps state input output after holds first) remaining

theorem along_cons {step : σ → ι → Option (ω × σ)} {P : σ → ι → Prop} {state after : σ}
    {input : ι} {rest : List ι} {output : ω} (moved : step state input = some (output, after)) :
    Along step P state (input :: rest) ↔ P state input ∧ Along step P after rest := by
  constructor
  · intro along
    exact ⟨along.1, along.2 output after moved⟩
  · intro both
    refine ⟨both.1, ?_⟩
    intro other next step
    rw [moved, Option.some.injEq, Prod.mk.injEq] at step
    exact step.2 ▸ both.2

/-- Where a step that meets `P` is refused exactly by `Q`, a run whose steps all meet
`P` is refused exactly where it comes to a step that meets `Q`. -/
theorem exec_refused_iff {step : σ → ι → Option (ω × σ)} {P Q : σ → ι → Prop}
    (refuses : ∀ state input, P state input → (step state input = none ↔ Q state input))
    {state : σ} {inputs : List ι} (along : Along step P state inputs) :
    exec step state inputs = none ↔
      ∃ front input back outputs middle, inputs = front ++ input :: back ∧
        exec step state front = some (outputs, middle) ∧ Q middle input := by
  induction inputs generalizing state with
  | nil =>
      refine iff_of_false (Option.some_ne_none _) ?_
      rintro ⟨front, input, back, _, _, split, _⟩
      exact List.append_ne_nil_of_right_ne_nil front (List.cons_ne_nil input back) split.symm
  | cons input rest ih =>
      cases moved : step state input with
      | none =>
          have refused := (refuses state input along.1).mp moved
          refine iff_of_true ?_ ⟨[], input, rest, [], state, rfl, rfl, refused⟩
          rw [exec, moved, Option.bind_none]
      | some next =>
          rw [exec, moved, Option.bind_some, Option.map_eq_none_iff,
            ih ((along_cons moved).mp along).2]
          constructor
          · rintro ⟨front, other, back, outputs, middle, rfl, ran, refused⟩
            refine ⟨input :: front, other, back, next.1 :: outputs, middle, rfl, ?_, refused⟩
            exact exec_cons_eq_some.mpr ⟨_, _, _, moved, ran, rfl⟩
          · rintro ⟨front, other, back, outputs, middle, split, ran, refused⟩
            cases front with
            | nil =>
                -- the step was made, so it is not the one that is refused
                obtain ⟨rfl, rfl⟩ := List.cons.inj split
                obtain ⟨_, rfl⟩ := exec_nil_eq_some.mp ran
                rw [(refuses state input along.1).mpr refused] at moved
                cases moved
            | cons first front =>
                obtain ⟨rfl, rfl⟩ := List.cons.inj split
                obtain ⟨output, after, later, made, remaining, rfl⟩ := exec_cons_eq_some.mp ran
                rw [moved, Option.some.injEq] at made
                subst made
                exact ⟨front, other, back, later, middle, rfl, remaining, refused⟩

/-- An invariant that only steps meeting `P` keep, and what those steps put out. -/
theorem exec_along {step : σ → ι → Option (ω × σ)} {P : σ → ι → Prop} {J : σ → Prop}
    {Q : ω → Prop}
    (keeps : ∀ state input output after, J state → P state input →
      step state input = some (output, after) → J after ∧ Q output)
    {state last : σ} {inputs : List ι} {outputs : List ω} (holds : J state)
    (along : Along step P state inputs) (moved : exec step state inputs = some (outputs, last)) :
    J last ∧ ∀ output ∈ outputs, Q output := by
  induction inputs generalizing state outputs with
  | nil =>
      rcases exec_nil_eq_some.mp moved with ⟨rfl, rfl⟩
      exact ⟨holds, fun output member => absurd member List.not_mem_nil⟩
  | cons input rest ih =>
      rcases exec_cons_eq_some.mp moved with ⟨output, after, later, first, remaining, rfl⟩
      have guarded := (along_cons first).mp along
      have kept := keeps state input output after holds guarded.1 first
      have tail := ih kept.1 guarded.2 remaining
      exact ⟨tail.1, List.forall_mem_cons.mpr ⟨kept.2, tail.2⟩⟩

theorem Reachable.start (step : σ → ι → Option (ω × σ)) (state : σ) :
    Reachable step state state := ⟨[], [], rfl⟩

theorem Reachable.next {step : σ → ι → Option (ω × σ)} {start state after : σ} {output : ω}
    (reached : Reachable step start state) (input : ι)
    (moved : step state input = some (output, after)) : Reachable step start after := by
  obtain ⟨inputs, outputs, path⟩ := reached
  refine ⟨inputs ++ [input], outputs ++ [output], exec_append_eq_some.mpr ?_⟩
  exact ⟨state, outputs, [output], path,
    exec_cons_eq_some.mpr ⟨output, after, [], moved, rfl, rfl⟩, rfl⟩

theorem Reachable.trans {step : σ → ι → Option (ω × σ)} {start middle last : σ}
    (early : Reachable step start middle) (late : Reachable step middle last) :
    Reachable step start last := by
  obtain ⟨inputs, outputs, path⟩ := early
  obtain ⟨more, answers, onwards⟩ := late
  exact ⟨inputs ++ more, outputs ++ answers,
    exec_append_eq_some.mpr ⟨middle, outputs, answers, path, onwards, rfl⟩⟩

theorem Reachable.invariant {step : σ → ι → Option (ω × σ)} {P : σ → Prop} {start state : σ}
    (reached : Reachable step start state) (holds : P start)
    (keeps : ∀ before input output after, P before →
      step before input = some (output, after) → P after) : P state := by
  obtain ⟨inputs, outputs, path⟩ := reached
  exact exec_invariant keeps holds path

/-- A machine that can make every step of another gets wherever the other does. -/
theorem Reachable.widen {κ ο : Type} {step : σ → ι → Option (ω × σ)}
    {wider : σ → κ → Option (ο × σ)} {start last : σ}
    (makes : ∀ state input output after, step state input = some (output, after) →
      Reachable wider state after)
    (reached : Reachable step start last) : Reachable wider start last :=
  reached.invariant (Reachable.start wider start) fun state input output after soFar moved =>
    soFar.trans (makes state input output after moved)

end Machine
