import ScpiVxiTmc.Usb.Events

set_option autoImplicit false

/- What holds of the bulk threads over whole histories of host events. -/
namespace ScpiVxiTmc

section
variable {τ : Type}

/-- Whether the device is configured after some events. -/
def configured (events : List (GadgetfsEvent τ)) : Bool :=
  IoAction.configured (events.map GadgetfsEvent.ioAction)

theorem configured_concat (events : List (GadgetfsEvent τ)) (event : GadgetfsEvent τ) :
    configured (events ++ [event]) = event.ioAction.configuredAfter (configured events) := by
  rw [configured, List.map_append]
  exact IoAction.configured_concat _ event.ioAction

/-- No configuration is set while one is. -/
def StartsIdle (before : List (GadgetfsEvent τ)) (event : GadgetfsEvent τ) : Prop :=
  IoAction.StartsIdle (before.map GadgetfsEvent.ioAction) event.ioAction

/-- At the start of `ep0_thread` -/
def Ep0Loop.start (adapter : Adapter) (ep0 : τ) : Ep0Loop τ := ⟨false, ⟨adapter, .ofEp0 ep0⟩⟩

variable [DecidableEq τ]

/-- After the event every thread that was created and not joined is recorded in
`source` or `sink`, and none is left if the event is to stop them. -/
def AccountsAfter (_before : List (GadgetfsEvent τ)) (outputs : List (List (Ledger.Entry τ)))
    (_loop : Ep0Loop τ) (event : GadgetfsEvent τ)
    (result : Option (List (Ledger.Entry τ) × Ep0Loop τ)) : Prop :=
  ∃ calls after, result = some (calls, after) ∧
    after.gadget.threads.Accounts (Ledger.live [] (outputs ++ [calls]).flatten)
      event.ioAction.IsStop

/-- The state of the records before an event, from all that came before it. -/
structure Recorded (ep0 : τ) (before : List (GadgetfsEvent τ))
    (outputs : List (List (Ledger.Entry τ))) (loop : Ep0Loop τ) : Prop where
  ep0 : loop.gadget.threads.ep0 = ep0
  records : loop.gadget.threads.Records (Ledger.live [] outputs.flatten) (configured before)

/-- The threads that an event asks for are created, with ids not in use. -/
def CreatesNew (ep0 : τ) (_before : List (GadgetfsEvent τ))
    (outputs : List (List (Ledger.Entry τ))) (_loop : Ep0Loop τ) (event : GadgetfsEvent τ)
    (calls : List (Ledger.Entry τ)) : Prop :=
  event.ioAction.CreatesSucceed ∧ Ledger.Fresh ep0 (Ledger.live [] outputs.flatten) calls

theorem accountsAfter_iff {strings : UsbGadgetStrings} {ep0 : τ} {before : List (GadgetfsEvent τ)}
    {outputs : List (List (Ledger.Entry τ))} {loop after : Ep0Loop τ} {event : GadgetfsEvent τ}
    {calls : List (Ledger.Entry τ)} (recorded : Recorded ep0 before outputs loop)
    (moved : gadgetfsEvent strings loop event = some (calls, after))
    (creates : CreatesNew ep0 before outputs loop event calls) :
    AccountsAfter before outputs loop event (some (calls, after)) ↔ StartsIdle before event := by
  obtain ⟨rfl, changed⟩ := gadgetfsEvent_effect moved
  obtain ⟨succeed, fresh⟩ := creates
  rw [← recorded.ep0] at fresh
  show _ ↔ (event.ioAction.IsStart → configured before = false)
  rw [← perform_accounts_iff recorded.records succeed fresh, ← changed, ← Ledger.live_append,
    ← List.flatten_concat]
  exact Machine.returns_iff

theorem recorded_next {strings : UsbGadgetStrings} {ep0 : τ} {before : List (GadgetfsEvent τ)}
    {outputs : List (List (Ledger.Entry τ))} {loop after : Ep0Loop τ} {event : GadgetfsEvent τ}
    {calls : List (Ledger.Entry τ)} (recorded : Recorded ep0 before outputs loop)
    (moved : gadgetfsEvent strings loop event = some (calls, after))
    (creates : CreatesNew ep0 before outputs loop event calls)
    (guard : StartsIdle before event) :
    Recorded ep0 (before ++ [event]) (outputs ++ [calls]) after := by
  obtain ⟨rfl, changed⟩ := gadgetfsEvent_effect moved
  obtain ⟨succeed, fresh⟩ := creates
  rw [← recorded.ep0] at fresh
  constructor
  · rw [changed, perform_ep0, recorded.ep0]
  · rw [changed, configured_concat, List.flatten_concat, Ledger.live_append]
    exact perform_records recorded.records succeed fresh guard

/-- Threads are never leaked in exactly the histories that set no configuration
over a running one. -/
theorem never_leaks_iff {strings : UsbGadgetStrings} {adapter : Adapter} {ep0 : τ}
    {events : List (GadgetfsEvent τ)} {outputs : List (List (Ledger.Entry τ))} {last : Ep0Loop τ}
    (ran : Machine.exec (gadgetfsEvent strings) (.start adapter ep0) events =
      some (outputs, last))
    (succeed : ∀ event ∈ events, event.ioAction.CreatesSucceed)
    (fresh : Ledger.Fresh ep0 [] outputs.flatten) :
    Machine.Throughout (gadgetfsEvent strings) AccountsAfter (.start adapter ep0) events ↔
      Machine.Guarded StartsIdle events := by
  have assumed := Machine.throughout_of_exec (A := CreatesNew ep0) ran (by
    intro before event shorter earlier loop calls front
    refine ⟨succeed event (shorter.subset List.mem_concat_self), ?_⟩
    obtain ⟨rest, rfl⟩ := front
    rw [List.append_assoc, List.singleton_append, List.flatten_append, List.flatten_cons] at fresh
    have later := ((Ledger.along_append _ _ _ _).mp fresh).2
    exact ((Ledger.along_append _ _ _ _).mp later).1)
  refine Machine.throughout_iff_guarded assumed (J := Recorded ep0) ⟨rfl, ofEp0_records ep0⟩ ?_ ?_
  · rintro before earlier loop event recorded ⟨calls, after, moved, creates⟩
    rw [moved]
    exact accountsAfter_iff recorded moved creates
  · rintro before earlier loop event recorded ⟨calls, after, moved, creates⟩ guard
    exact ⟨calls, after, moved, recorded_next recorded moved creates guard⟩

end

/-- `SET_CONFIGURATION(1)`, and the ids of the threads it starts. -/
def configure (source sink : Nat) : GadgetfsEvent Nat :=
  .setup ⟨usbDirOut, usbReqSetConfiguration, configValue, 0, 0⟩
    { bareEnv with creates := ⟨some source, some sink⟩ }

theorem never_leaks_reconnect :
    Machine.Throughout (gadgetfsEvent strings) AccountsAfter (.start .init 0)
        [.connect, configure 1 2, .disconnect] ↔
      Machine.Guarded StartsIdle [.connect, configure 1 2, .disconnect] := by
  have ran : Machine.exec (gadgetfsEvent strings) (.start .init 0)
      [.connect, configure 1 2, .disconnect] =
      some ([[], [.opened 1, .opened 2], [.used 1, .closed 1, .used 2, .closed 2]],
        .start .init 0) := rfl
  apply never_leaks_iff ran
  · simp only [List.forall_mem_cons]
    exact ⟨trivial, ⟨rfl, rfl⟩, trivial, List.forall_mem_nil _⟩
  · exact ⟨⟨by decide, by decide⟩, ⟨by decide, by decide⟩, trivial, trivial, trivial, trivial,
      trivial⟩

/-- The second configuration forgets the threads of the first. -/
theorem configure_twice_leaks :
    ∃ outputs last, Machine.exec (gadgetfsEvent strings) (.start .init 0)
        [configure 1 2, configure 3 4] = some (outputs, last) ∧
      Ledger.Fresh 0 [] outputs.flatten ∧
      ¬ Machine.Throughout (gadgetfsEvent strings) AccountsAfter (.start .init 0)
        [configure 1 2, configure 3 4] := by
  refine ⟨[[.opened 1, .opened 2], [.opened 3, .opened 4]], ⟨true, ⟨.init, ⟨0, 3, 4⟩⟩⟩, rfl, ?_, ?_⟩
  · exact ⟨⟨by decide, by decide⟩, ⟨by decide, by decide⟩, ⟨by decide, by decide⟩,
      ⟨by decide, by decide⟩, trivial⟩
  · intro through
    have accounts := Machine.returns_iff.mp
      (through [configure 1 2] (configure 3 4) (List.prefix_refl _) _ _ rfl)
    exact absurd accounts.few (by decide)

section
variable {τ : Type} [DecidableEq τ]

/-- Whatever is cancelled or joined is a thread that was created, is not joined
yet, and is not the control thread. -/
structure JoinsSafely (ep0 : τ) (trace : List (Ledger.Entry τ)) : Prop where
  cancels : ∀ front thread back, trace = front ++ .used thread :: back →
    thread ∈ Ledger.live [] front ∧ thread ≠ ep0
  joins : ∀ front thread back, trace = front ++ .closed thread :: back →
    thread ∈ Ledger.live [] front ∧ thread ≠ ep0

theorem joinsSafely_of_safe {ep0 : τ} {trace : List (Ledger.Entry τ)}
    (safe : Ledger.Safe [] trace) (fresh : Ledger.Fresh ep0 [] trace) : JoinsSafely ep0 trace := by
  have notEp0 {front back : List (Ledger.Entry τ)} (same : trace = front ++ back) :
      ep0 ∉ Ledger.live [] front := by
    rw [same, Ledger.Fresh, Ledger.along_append] at fresh
    exact Ledger.reserved_not_mem_live List.not_mem_nil fresh.1
  constructor
  · intro front thread back same
    have alive : thread ∈ Ledger.live [] front := Ledger.along_at (same ▸ safe)
    exact ⟨alive, fun isEp0 => notEp0 same (isEp0 ▸ alive)⟩
  · intro front thread back same
    have alive : thread ∈ Ledger.live [] front := Ledger.along_at (same ▸ safe)
    exact ⟨alive, fun isEp0 => notEp0 same (isEp0 ▸ alive)⟩

theorem events_joinable {strings : UsbGadgetStrings} {adapter : Adapter} {ep0 : τ}
    {events : List (GadgetfsEvent τ)} {outputs : List (List (Ledger.Entry τ))} {last : Ep0Loop τ}
    (ran : Machine.exec (gadgetfsEvent strings) (.start adapter ep0) events =
      some (outputs, last))
    (fresh : Ledger.Fresh ep0 [] outputs.flatten) :
    Ledger.Safe [] outputs.flatten ∧ last.gadget.threads.ep0 = ep0 ∧
      last.gadget.threads.Joinable (Ledger.live [] outputs.flatten) := by
  apply Ledger.exec_safe (J := fun (loop : Ep0Loop τ) held =>
    loop.gadget.threads.ep0 = ep0 ∧ loop.gadget.threads.Joinable held) _
    ⟨rfl, ofEp0_joinable ep0 []⟩ ran fresh
  intro loop event calls after held invariant moved new
  obtain ⟨sameEp0, joinable⟩ := invariant
  obtain ⟨rfl, changed⟩ := gadgetfsEvent_effect moved
  rw [← sameEp0] at new
  obtain ⟨safe, next⟩ := perform_joinable joinable new
  rw [changed, perform_ep0]
  exact ⟨safe, sameEp0, next⟩

/-- In every run of the control thread, whichever creations fail, cancels and
joins are safe, and so are the handles that the run leaves. -/
theorem joins_are_safe {strings : UsbGadgetStrings} {adapter : Adapter} {ep0 : τ}
    {reads : List (Ep0Read τ)} {outputs : List (List (Ledger.Entry τ))} {thread : Ep0Thread τ}
    (ran : Machine.exec (ep0Round strings) (.start adapter ep0) reads = some (outputs, thread))
    (fresh : Ledger.Fresh ep0 [] outputs.flatten) :
    JoinsSafely ep0 outputs.flatten ∧ thread.gadget.threads.ep0 = ep0 ∧
      thread.gadget.threads.Joinable (Ledger.live [] outputs.flatten) := by
  obtain ⟨calls, loop, ranEvents, sameCalls, sameGadget⟩ := ep0Thread_events ran false
  rw [← sameCalls] at fresh
  obtain ⟨safe, invariant⟩ := events_joinable ranEvents fresh
  rw [← sameCalls, ← sameGadget]
  exact ⟨joinsSafely_of_safe safe fresh, invariant⟩

/-- The creation of the sink fails at first, then both succeed. -/
theorem joins_are_safe_retry :
    JoinsSafely 0 [.opened 1, .used 1, .opened 2, .opened 3, .used 2, .closed 2, .used 3,
        .closed 3] ∧
      (IoThreads.ofEp0 0).ep0 = 0 ∧
      (IoThreads.ofEp0 0).Joinable (Ledger.live [] [.opened 1, .used 1, .opened 2, .opened 3,
        .used 2, .closed 2, .used 3, .closed 3]) := by
  have ran : Machine.exec (ep0Round strings) (.start .init 0)
      [.events [.setup ⟨usbDirOut, usbReqSetConfiguration, configValue, 0, 0⟩
        { bareEnv with creates := ⟨some 1, none⟩ }], .again, .events [configure 2 3, .disconnect]] =
      some ([[.opened 1, .used 1], [],
        [.opened 2, .opened 3, .used 2, .closed 2, .used 3, .closed 3]], .start .init 0) := rfl
  apply joins_are_safe ran
  exact ⟨⟨by decide, by decide⟩, trivial, ⟨by decide, by decide⟩, ⟨by decide, by decide⟩,
    trivial, trivial, trivial, trivial, trivial⟩

/-- Leaving the loop stops the bulk threads: `done` calls `stop_io`, and no
thread is left. -/
structure StopsAtExit (thread : Ep0Thread τ) (trace : List (Ledger.Entry τ)) : Prop where
  called : thread.exit = some (.done true)
  none : Ledger.live [] trace = []

/-- While the device is configured, its source thread is running. -/
theorem source_live {strings : UsbGadgetStrings} {adapter : Adapter} {ep0 : τ}
    {events : List (GadgetfsEvent τ)} {outputs : List (List (Ledger.Entry τ))} {last : Ep0Loop τ}
    (ran : Machine.exec (gadgetfsEvent strings) (.start adapter ep0) events =
      some (outputs, last))
    (succeed : ∀ event ∈ events, event.ioAction.CreatesSucceed)
    (isConfigured : configured events = true) :
    last.gadget.threads.source ∈ Ledger.live [] outputs.flatten := by
  refine Machine.exec_history (J := fun events outputs (loop : Ep0Loop τ) =>
    (∀ event ∈ events, event.ioAction.CreatesSucceed) → configured events = true →
      loop.gadget.threads.source ∈ Ledger.live [] outputs.flatten) ?_ ?_ ran succeed isConfigured
  · intro _ impossible
    cases impossible
  · intro before outputs loop event calls after alive moved created nowConfigured
    obtain ⟨rfl, changed⟩ := gadgetfsEvent_effect moved
    rw [configured_concat] at nowConfigured
    rw [changed, List.flatten_concat, Ledger.live_append]
    have createdBefore : ∀ earlier ∈ before, earlier.ioAction.CreatesSucceed := by
      intro earlier member
      exact created earlier (List.mem_append_left [event] member)
    exact perform_source_live (alive createdBefore) (created event List.mem_concat_self)
      nowConfigured

/-- `connected` is 0 again in the round whose read fails, so `done` never calls
`stop_io`, and the threads of a configured device go on without their owner. -/
theorem exit_leaves_threads {strings : UsbGadgetStrings} {adapter : Adapter} {ep0 : τ}
    {reads : List (Ep0Read τ)} {outputs : List (List (Ledger.Entry τ))} {thread : Ep0Thread τ}
    (ran : Machine.exec (ep0Round strings) (.start adapter ep0) (reads ++ [.failed]) =
      some (outputs, thread))
    (isConfigured : configured (reads.flatMap Ep0Read.batch) = true) :
    ¬ StopsAtExit thread outputs.flatten ∧
      ((∀ event ∈ reads.flatMap Ep0Read.batch, event.ioAction.CreatesSucceed) →
        thread.gadget.threads.source ∈ Ledger.live [] outputs.flatten) := by
  have sameEvents : (reads ++ [Ep0Read.failed]).flatMap Ep0Read.batch =
      reads.flatMap Ep0Read.batch := by
    rw [List.flatMap_append]
    exact List.append_nil _
  refine ⟨?_, ?_⟩
  · intro stops
    obtain ⟨_, before, calls, _, moved, _⟩ := Machine.exec_concat_eq_some.mp ran
    have left := ep0Round_failed moved
    rw [stops.called] at left
    cases left
  · intro succeed
    obtain ⟨calls, loop, ranEvents, sameCalls, sameGadget⟩ := ep0Thread_events ran false
    rw [sameEvents] at ranEvents
    rw [← sameCalls, ← sameGadget]
    exact source_live ranEvents succeed isConfigured

end

theorem exit_leaves_threads_connected :
    ¬ StopsAtExit ⟨⟨.init, ⟨0, 1, 2⟩⟩, some (.done false)⟩
        [Ledger.Entry.opened 1, .opened 2] ∧
      ((∀ event ∈ [.connect, configure 1 2], event.ioAction.CreatesSucceed) →
        1 ∈ Ledger.live [] [Ledger.Entry.opened 1, .opened 2]) := by
  have ran : Machine.exec (ep0Round strings) (.start .init 0)
      ([.events [.connect, configure 1 2]] ++ [.failed]) =
      some ([[.opened 1, .opened 2], []], ⟨⟨.init, ⟨0, 1, 2⟩⟩, some (.done false)⟩) := rfl
  exact exit_leaves_threads ran rfl

/-- A host connects, configures the device, and ep0 fails in the next round. -/
theorem connected_exit_leaks :
    ∃ outputs thread, Machine.exec (ep0Round strings) (.start .init 0)
        [.events [.connect, configure 1 2], .failed] = some (outputs, thread) ∧
      Ledger.Fresh 0 [] outputs.flatten ∧
      configured [.connect, configure 1 2] = true ∧
      Ledger.live [] outputs.flatten = [1, 2] ∧ ¬ StopsAtExit thread outputs.flatten := by
  refine ⟨[[.opened 1, .opened 2], []], ⟨⟨.init, ⟨0, 1, 2⟩⟩, some (.done false)⟩, rfl,
    ⟨⟨by decide, by decide⟩, ⟨by decide, by decide⟩, trivial⟩, rfl, rfl, ?_⟩
  intro stops
  exact absurd stops.called (by decide)

end ScpiVxiTmc
