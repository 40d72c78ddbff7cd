import ScpiVxiTmc.Process

set_option autoImplicit false

/- Which sink threads of the process are in their loops. -/
namespace ScpiVxiTmc

open Machine

namespace Process

section
variable {τ : Type}

/-- The thread calls that came of a step. -/
def Output.calls : Output τ → List (Ledger.Entry τ)
  | .served _ => []
  | .ended => []
  | .called calls => calls

def Input.ioAction : Input τ → IoAction τ
  | .control event _ _ => event.ioAction
  | _ => .keep

theorem output_calls_concat (outputs : List (Output τ)) (output : Output τ) :
    (outputs ++ [output]).flatMap Output.calls = outputs.flatMap Output.calls ++ output.calls := by
  rw [List.flatMap_append, List.flatMap_singleton]

variable [DecidableEq τ] {strings : UsbGadgetStrings}

theorem gadgetStep_effect {gadget after : Gadget τ} {event : GadgetfsEvent τ}
    {calls : List (Ledger.Entry τ)}
    (moved : gadgetStep strings gadget event = some (calls, after)) :
    calls = (gadget.threads.perform event.ioAction).1 ∧
      after.threads = (gadget.threads.perform event.ioAction).2 := by
  obtain ⟨done, handled, same⟩ := Option.map_eq_some_iff.mp moved
  cases same
  exact gadgetfsEvent_effect handled

/-- What a step does to the threads: the calls of the control thread, and a sink thread
is in its loop if it was and is not joined, or has just been created. -/
structure MovesThreads (p : Process τ) (input : Input τ) (output : Output τ) (after : Process τ) :
    Prop where
  calls : output.calls = (p.threads.perform input.ioAction).1
  threads : after.threads = (p.threads.perform input.ioAction).2
  inLoop : ∀ thread, after.sinks thread ≠ none → .closed thread ∉ output.calls ∧
    (p.sinks thread ≠ none ∨ thread = after.threads.sink ∧ .opened thread ∈ output.calls)

theorem movesThreads_of_still {p after : Process τ} {input : Input τ} {output : Output τ}
    (keeps : input.ioAction = .keep) (silent : output.calls = [])
    (threads : after.threads = p.threads)
    (fewer : ∀ thread, after.sinks thread ≠ none → p.sinks thread ≠ none) :
    MovesThreads p input output after := by
  refine ⟨?_, ?_, ?_⟩
  · rw [silent, keeps]
    rfl
  · rw [threads, keeps]
    rfl
  · intro thread inLoop
    rw [silent]
    exact ⟨List.not_mem_nil, Or.inl (fewer thread inLoop)⟩

theorem step_movesThreads {p after : Process τ} {input : Input τ} {output : Output τ}
    (moved : p.step strings input = some (output, after)) : MovesThreads p input output after := by
  cases input with
  | sink thread reads accepted =>
      obtain ⟨locals, inLoop, moved⟩ := Option.bind_eq_some_iff.mp moved
      have fewer (loop : Option SinkLocals) (other : τ)
          (stays : (p.withSink thread loop).sinks other ≠ none) : p.sinks other ≠ none := by
        by_cases same : other = thread
        · rw [same, inLoop]
          exact Option.some_ne_none _
        · simp only [withSink, if_neg same] at stays
          exact stays
      split at moved
      · cases moved
        exact movesThreads_of_still rfl rfl rfl (fewer _)
      · cases moved
        exact movesThreads_of_still rfl rfl rfl (fewer _)
      · cases moved
  | request protocol req =>
      rw [step, Option.ite_none_right_eq_some] at moved
      obtain ⟨done, _, same⟩ := Option.map_eq_some_iff.mp moved.2
      cases same
      exact movesThreads_of_still rfl rfl rfl fun _ => id
  | cmdRead len =>
      obtain ⟨done, _, same⟩ := Option.map_eq_some_iff.mp moved
      cases same
      exact movesThreads_of_still rfl rfl rfl fun _ => id
  | reponseWrite buf msgsrc =>
      cases moved
      exact movesThreads_of_still rfl rfl rfl fun _ => id
  | control event cut opened =>
      rw [step, Option.ite_none_right_eq_some] at moved
      obtain ⟨done, handled, moved⟩ := Option.bind_eq_some_iff.mp moved.2
      obtain ⟨adapter, _, same⟩ := Option.map_eq_some_iff.mp moved
      cases same
      obtain ⟨calls, threads⟩ := gadgetStep_effect handled
      refine ⟨calls, threads, ?_⟩
      intro thread inLoop
      simp only [sinksAfter] at inLoop
      by_cases closed : .closed thread ∈ done.1
      · rw [if_pos closed] at inLoop
        exact absurd rfl inLoop
      · rw [if_neg closed] at inLoop
        refine ⟨closed, ?_⟩
        by_cases created : thread = done.2.threads.sink ∧ .opened thread ∈ done.1
        · exact Or.inr created
        · rw [if_neg created] at inLoop
          exact Or.inl inLoop

end

/-- A host that configures the device, leaves and comes back. -/
def hostComesBack : List (Input Nat) :=
  [.control (configure 1 2) none (some .zero), .control .disconnect (some (.idle [])) none,
    .control (configure 3 4) none (some .zero)]

section
variable {τ : Type} [DecidableEq τ]

/-- Only the recorded sink thread is in its loop, while the device is configured. -/
structure Tracked (ep0 : τ) (actions : List (IoAction τ)) (p : Process τ) : Prop where
  owner : p.threads.ep0 = ep0
  only : ∀ thread, p.sinks thread ≠ none →
    IoAction.configured actions = true ∧ thread = p.threads.sink ∧ thread ≠ ep0

theorem not_opened_stopIo (io : IoThreads τ) (thread : τ) : .opened thread ∉ (stopIo io).1 := by
  have half (one : τ) : .opened thread ∉ stopThread io.ep0 one := by
    unfold stopThread
    split <;> simp
  simp only [stopIo, List.mem_append, not_or]
  exact ⟨half io.source, half io.sink⟩

theorem closed_stopIo {io : IoThreads τ} (exists_sink : io.sink ≠ io.ep0) :
    .closed io.sink ∈ (stopIo io).1 := by
  simp [stopIo, stopThread, exists_sink]

theorem tracked_next {ep0 : τ} {actions : List (IoAction τ)} {held : List τ}
    {p after : Process τ} {input : Input τ} {output : Output τ} (tracked : Tracked ep0 actions p)
    (moves : MovesThreads p input output after) (fresh : Ledger.Fresh ep0 held output.calls)
    (guard : IoAction.StartsIdle actions input.ioAction) :
    Tracked ep0 (actions ++ [input.ioAction]) after := by
  constructor
  · rw [moves.threads, perform_ep0, tracked.owner]
  · intro thread inLoop
    obtain ⟨kept, entered⟩ := moves.inLoop thread inLoop
    rw [moves.calls] at kept entered fresh
    rw [IoAction.StartsIdle] at guard
    rw [moves.threads] at entered ⊢
    rw [IoAction.configured_concat]
    cases action : input.ioAction with
    | start creates =>
        -- no thread was in its loop, so this one has just been created
        rw [action] at guard entered fresh
        cases entered with
        | inl before =>
            obtain ⟨isConfigured, _⟩ := tracked.only thread before
            rw [guard trivial] at isConfigured
            cases isConfigured
        | inr now => exact ⟨rfl, now.1, Ledger.ne_of_opened fresh now.2⟩
    | stop =>
        -- the only one that was there is joined
        rw [action] at kept entered
        cases entered with
        | inl before =>
            obtain ⟨_, rfl, other⟩ := tracked.only thread before
            rw [← tracked.owner] at other
            exact absurd (closed_stopIo other) kept
        | inr now => exact absurd now.2 (not_opened_stopIo p.threads thread)
    | keep =>
        rw [action] at entered
        cases entered with
        | inl before => exact tracked.only thread before
        | inr now => exact absurd now.2 List.not_mem_nil

/-- In a run that sets no configuration over a running one, at most one sink thread is
ever in its loop: the one that is recorded, and none while the device is not configured. -/
theorem one_sink_reads (strings : UsbGadgetStrings) (p last : Process τ) (begun : p.Begun)
    (inputs : List (Input τ)) (outputs : List (Output τ))
    (ran : exec (step strings) p inputs = some (outputs, last))
    (fresh : Ledger.Fresh p.threads.ep0 [] (outputs.flatMap Output.calls))
    (idle : Guarded IoAction.StartsIdle (inputs.map Input.ioAction)) (thread : τ)
    (inLoop : last.sinks thread ≠ none) :
    IoAction.configured (inputs.map Input.ioAction) = true ∧ thread = last.threads.sink := by
  suffices tracked : Tracked p.threads.ep0 (inputs.map Input.ioAction) last by
    obtain ⟨isConfigured, recorded, _⟩ := tracked.only thread inLoop
    exact ⟨isConfigured, recorded⟩
  revert fresh idle
  refine exec_history (J := fun inputs outputs (state : Process τ) =>
    Ledger.Fresh p.threads.ep0 [] (outputs.flatMap Output.calls) →
      Guarded IoAction.StartsIdle (inputs.map Input.ioAction) →
      Tracked p.threads.ep0 (inputs.map Input.ioAction) state) ?_ ?_ ran
  · obtain ⟨left, _, started, ep0, _, _, rfl⟩ := begun
    exact fun _ _ => ⟨rfl, fun _ inLoop => absurd rfl inLoop⟩
  · intro before outputs state input output after earlier moved fresh idle
    rw [output_calls_concat, Ledger.Fresh, Ledger.along_append] at fresh
    rw [List.map_append, List.map_singleton] at idle ⊢
    rw [guarded_concat] at idle
    exact tracked_next (earlier fresh.1 idle.1) (step_movesThreads moved) fresh.2 idle.2

end

theorem one_sink_reads_comes_back :
    ∃ outputs last, exec (step strings) (ofStart ⟨0, ⟨0, [.opened 3], some 3⟩, vxi11Calls⟩ 0 [])
        hostComesBack = some (outputs, last) ∧
      IoAction.configured (hostComesBack.map Input.ioAction) = true ∧ 4 = last.threads.sink := by
  refine ⟨_, _, rfl, one_sink_reads strings _ _ begun_all hostComesBack _ rfl ?_ ?_ 4
    (Option.some_ne_none _)⟩
  · exact ⟨⟨by decide, by decide⟩, ⟨by decide, by decide⟩, trivial, trivial, trivial, trivial,
      ⟨by decide, by decide⟩, ⟨by decide, by decide⟩, trivial⟩
  · show Guarded IoAction.StartsIdle ((([] ++ [_]) ++ [_]) ++ [_])
    simp only [guarded_concat]
    exact ⟨⟨⟨guarded_nil _, fun _ => rfl⟩, nofun⟩, fun _ => rfl⟩

end Process

end ScpiVxiTmc
