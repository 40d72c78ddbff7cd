import ScpiVxiTmc.Usb.ThreadHistory

set_option autoImplicit false

/- What becomes of a `SET_CONFIGURATION` whose threads cannot all be created. -/
namespace ScpiVxiTmc

section
variable {τ : Type} [DecidableEq τ]

/-- An acknowledged start has both threads on record, and of a failed one the host
is told and nothing remains. -/
structure StartSettled (before : IoThreads τ) (creates : Creates τ) (run : ControlRun τ) :
    Prop where
  reported : run.ended = .acknowledged → ∃ source sink, creates.source = some source ∧
    creates.sink = some sink ∧ run.gadget.threads.source = source ∧
    run.gadget.threads.sink = sink
  undone : ¬ creates.Succeed → run.ended = .stalled ∧ run.gadget.threads.source = before.ep0 ∧
    run.gadget.threads.sink = before.ep0 ∧ Ledger.live [] run.calls = []

/-- `start_io` returns nothing, so the host gets its status stage in any case. -/
theorem handleControl_start {setup : UsbCtrlrequest} (gadget : Gadget τ)
    (strings : UsbGadgetStrings) (env : ControlEnv τ) (toDevice : setup.bRequestType = usbDirOut)
    (request : setup.bRequest = usbReqSetConfiguration) (value : setup.wValue = configValue) :
    handleControl setup gadget strings env =
      some (acknowledge { gadget with threads := (startIo gadget.threads env.creates).2 }
        (startIo gadget.threads env.creates).1) := by
  have notInterface : usbDirOut ≠ classInterfaceIn := by decide
  have notEndpoint : usbDirOut ≠ classEndpointIn := by decide
  have notDescriptor : usbReqSetConfiguration ≠ usbReqGetDescriptor := by decide
  simp only [handleControl, toDevice, notInterface, notEndpoint, standardRequest, request,
    notDescriptor, setConfiguration, value, ne_eq, not_true_eq_false, ↓reduceIte]

/-- Only a start with nothing to undo is settled. -/
theorem start_settled_iff (setup : UsbCtrlrequest) (gadget : Gadget τ)
    (strings : UsbGadgetStrings) (env : ControlEnv τ) (toDevice : setup.bRequestType = usbDirOut)
    (request : setup.bRequest = usbReqSetConfiguration) (value : setup.wValue = configValue) :
    ∃ run, handleControl setup gadget strings env = some run ∧
      (StartSettled gadget.threads env.creates run ↔ env.creates.Succeed) := by
  refine ⟨_, handleControl_start gadget strings env toDevice request value, ?_⟩
  constructor
  · intro settled
    apply Classical.byContradiction
    intro failed
    cases (settled.undone failed).1
  · intro succeed
    rcases Option.isSome_iff_exists.mp succeed.1 with ⟨source, created⟩
    rcases Option.isSome_iff_exists.mp succeed.2 with ⟨sink, createdToo⟩
    have started : startIo gadget.threads env.creates =
        ([.opened source, .opened sink],
          { gadget.threads with source := source, sink := sink }) := by
      rw [startIo, created, createdToo]
    rw [started]
    refine ⟨?_, ?_⟩
    · intro acknowledged
      exact ⟨source, sink, created, createdToo, rfl, rfl⟩
    · intro failed
      exact absurd succeed failed

/-- `SET_CONFIGURATION(1)` -/
def setConfigurationOne : UsbCtrlrequest := ⟨usbDirOut, usbReqSetConfiguration, configValue, 0, 0⟩

theorem both_created_settled :
    ∃ run, handleControl setConfigurationOne idleGadget strings
        { bareEnv with creates := ⟨some 1, some 2⟩ } = some run ∧
      (StartSettled idleGadget.threads ⟨some 1, some 2⟩ run ↔
        (⟨some 1, some 2⟩ : Creates Nat).Succeed) :=
  start_settled_iff setConfigurationOne idleGadget strings
    { bareEnv with creates := ⟨some 1, some 2⟩ } rfl rfl rfl

/-- No sink can be created: the host is told that all is well, and the source
is cancelled and never joined. -/
theorem sink_failure_acknowledged :
    ∃ run, handleControl setConfigurationOne idleGadget strings
        { bareEnv with creates := ⟨some 1, none⟩ } = some run ∧
      run.ended = .acknowledged ∧ run.calls = [.opened 1, .used 1] ∧
      ¬ StartSettled idleGadget.threads ⟨some 1, none⟩ run := by
  refine ⟨_, rfl, rfl, rfl, ?_⟩
  intro settled
  rcases settled.reported rfl with ⟨source, sink, _, created, _⟩
  cases created

/-- A thread that is not joined and that no handle leads to. -/
structure IoThreads.Lost (io : IoThreads τ) (held : List τ) (thread : τ) : Prop where
  alive : thread ∈ held
  notEp0 : thread ≠ io.ep0
  notSource : thread ≠ io.source
  notSink : thread ≠ io.sink

/-- Neither a start nor a stop finds it again. -/
theorem perform_lost {io : IoThreads τ} {action : IoAction τ} {held : List τ} {thread : τ}
    (lost : io.Lost held thread) (fresh : Ledger.Fresh io.ep0 held (io.perform action).1) :
    (io.perform action).2.Lost (Ledger.live held (io.perform action).1) thread := by
  cases action with
  | keep => exact lost
  | stop =>
      refine ⟨?_, lost.notEp0, lost.notEp0, lost.notEp0⟩
      simp only [IoThreads.perform, stopIo, Ledger.live_append]
      apply mem_live_stopThread.mpr
      refine ⟨mem_live_stopThread.mpr ⟨lost.alive, Or.inr lost.notSource⟩, Or.inr lost.notSink⟩
  | start creates =>
      cases first : creates.source with
      | none =>
          simp only [IoThreads.perform, startIo, first]
          exact lost
      | some source =>
          cases second : creates.sink with
          | none =>
              simp only [IoThreads.perform, startIo, first, second]
              exact ⟨List.mem_append_left [source] lost.alive, lost.notEp0, lost.notEp0,
                lost.notSink⟩
          | some sink =>
              simp only [IoThreads.perform, startIo, first, second] at fresh ⊢
              rcases fresh with ⟨⟨sourceNew, _⟩, ⟨sinkNew, _⟩, _⟩
              have stays := List.mem_append_left [source] lost.alive
              refine ⟨List.mem_append_left [sink] stays, lost.notEp0, ?_, ?_⟩
              · intro (same : thread = source)
                exact sourceNew (same ▸ lost.alive)
              · intro (same : thread = sink)
                exact sinkNew (same ▸ stays)

theorem startIo_lost {io : IoThreads τ} {source : τ} {held : List τ} (noSink : io.sink = io.ep0)
    (fresh : Ledger.Fresh io.ep0 held (startIo io ⟨some source, none⟩).1) :
    (startIo io ⟨some source, none⟩).2.Lost
      (Ledger.live held (startIo io ⟨some source, none⟩).1) source := by
  have notEp0 : source ≠ io.ep0 := fresh.1.2
  exact ⟨List.mem_concat_self, notEp0, notEp0, noSink ▸ notEp0⟩

/-- The source thread of a start that found no sink is joined in no run, however
often the host disconnects or configures the device again. -/
theorem cancelled_source_lost {strings : UsbGadgetStrings} {loop last : Ep0Loop τ} {source : τ}
    {event : GadgetfsEvent τ} {later : List (GadgetfsEvent τ)}
    {outputs : List (List (Ledger.Entry τ))}
    (noSource : loop.gadget.threads.source = loop.gadget.threads.ep0)
    (noSink : loop.gadget.threads.sink = loop.gadget.threads.ep0)
    (starts : event.ioAction = .start ⟨some source, none⟩)
    (ran : Machine.exec (gadgetfsEvent strings) loop (event :: later) = some (outputs, last))
    (fresh : Ledger.Fresh loop.gadget.threads.ep0 [] outputs.flatten) :
    source ∈ Ledger.live [] outputs.flatten := by
  rcases Machine.exec_cons_eq_some.mp ran with ⟨calls, after, outputs, moved, remaining, rfl⟩
  rcases gadgetfsEvent_effect moved with ⟨rfl, changed⟩
  rw [List.flatten_cons, Ledger.Fresh, Ledger.along_append] at fresh
  have joinable : loop.gadget.threads.Joinable [] :=
    ⟨Or.inl noSource, Or.inl noSink, Or.inr ⟨noSource, noSink⟩⟩
  have next := (perform_joinable joinable fresh.1).2
  have lost : (loop.gadget.threads.perform event.ioAction).2.Lost
      (Ledger.live [] (loop.gadget.threads.perform event.ioAction).1) source := by
    rw [starts] at fresh ⊢
    exact startIo_lost noSink fresh.1
  have sameEp0 := perform_ep0 loop.gadget.threads event.ioAction
  rw [← changed] at next lost sameEp0
  rw [List.flatten_cons, Ledger.live_append]
  refine (Ledger.exec_safe (J := fun (now : Ep0Loop τ) held =>
    now.gadget.threads.ep0 = loop.gadget.threads.ep0 ∧ now.gadget.threads.Joinable held ∧
      now.gadget.threads.Lost held source) ?_ ⟨sameEp0, next, lost⟩ remaining fresh.2).2.2.2.alive
  intro now input trace next' held invariant step new
  rcases invariant with ⟨ep0, joinable, lost⟩
  rcases gadgetfsEvent_effect step with ⟨rfl, effect⟩
  rw [← ep0] at new ⊢
  rw [effect, perform_ep0]
  have kept := perform_joinable joinable new
  exact ⟨kept.1, rfl, kept.2, perform_lost lost new⟩

end

end ScpiVxiTmc
