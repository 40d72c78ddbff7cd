import ScpiVxiTmc.Lib.History
import ScpiVxiTmc.Usb.Control

set_option autoImplicit false

/- The event loop of the control thread. -/
namespace ScpiVxiTmc

/-- What the loop looks at in a `struct usb_gadgetfs_event`, and what a request
meets when it is handled. -/
inductive GadgetfsEvent (τ : Type)
  | nop
  | connect
  | setup (request : UsbCtrlrequest) (env : ControlEnv τ)
  | disconnect
  | suspend
  | unhandled

/-- The inner loop: `connected`, and what it works on. -/
structure Ep0Loop (τ : Type) where
  connected : Bool
  gadget : Gadget τ

/-- What a round of the outer loop gets from `poll` and `read`: one of them
fails, the read with `EAGAIN` or otherwise, or there is a batch of events. -/
inductive Ep0Read (τ : Type)
  | pollFailed
  | again
  | failed
  | events (batch : List (GadgetfsEvent τ))

/-- How the outer loop was left, and for `done` whether it called `stop_io`. -/
inductive Ep0Exit
  | pollFailed
  | done (stopped : Bool)
  deriving DecidableEq

structure Ep0Thread (τ : Type) where
  gadget : Gadget τ
  exit : Option Ep0Exit

/-- A thread that enters its loop. -/
def Ep0Thread.start {τ : Type} (adapter : Adapter) (ep0 : τ) : Ep0Thread τ :=
  ⟨⟨adapter, .ofEp0 ep0⟩, none⟩

def GadgetfsEvent.ioAction {τ : Type} : GadgetfsEvent τ → IoAction τ
  | .setup request env => request.ioAction env.creates
  | .disconnect => .stop
  | _ => .keep

/-- The events of a round, none unless the read brings some. -/
def Ep0Read.batch {τ : Type} : Ep0Read τ → List (GadgetfsEvent τ)
  | .events batch => batch
  | _ => []

variable {τ : Type} [DecidableEq τ]

/-- One round of the inner loop, with the thread calls it makes. -/
def gadgetfsEvent (strings : UsbGadgetStrings) (loop : Ep0Loop τ) :
    GadgetfsEvent τ → Option (List (Ledger.Entry τ) × Ep0Loop τ)
  | .nop => some ([], loop)
  | .connect => some ([], { loop with connected := true })
  | .setup request env =>
      (handleControl request loop.gadget strings env).map fun run =>
        (run.calls, ⟨true, run.gadget⟩)
  | .disconnect =>
      let stopped := stopIo loop.gadget.threads
      some (stopped.1, ⟨false, { loop.gadget with threads := stopped.2 }⟩)
  | .suspend => some ([], loop)
  | .unhandled => some ([], loop)

/-- The code at `done`. -/
def ep0Done (loop : Ep0Loop τ) : List (Ledger.Entry τ) × Ep0Thread τ :=
  if loop.connected then
    let stopped := stopIo loop.gadget.threads
    (stopped.1, ⟨{ loop.gadget with threads := stopped.2 }, some (.done true)⟩)
  else ([], ⟨loop.gadget, some (.done false)⟩)

/-- One round of the outer loop. `connected` is declared inside it. -/
def ep0Round (strings : UsbGadgetStrings) (thread : Ep0Thread τ) (read : Ep0Read τ) :
    Option (List (Ledger.Entry τ) × Ep0Thread τ) :=
  match thread.exit with
  | some _ => none
  | none =>
      let loop := ⟨false, thread.gadget⟩
      match read with
      | .pollFailed => some ([], { thread with exit := some .pollFailed })
      | .again => some ([], thread)
      | .failed => some (ep0Done loop)
      | .events batch =>
          (Machine.exec (gadgetfsEvent strings) loop batch).map fun done =>
            (done.1.flatten, { thread with gadget := done.2.gadget })

theorem gadgetfsEvent_effect {strings : UsbGadgetStrings} {loop after : Ep0Loop τ}
    {event : GadgetfsEvent τ} {calls : List (Ledger.Entry τ)}
    (moved : gadgetfsEvent strings loop event = some (calls, after)) :
    calls = (loop.gadget.threads.perform event.ioAction).1 ∧
      after.gadget.threads = (loop.gadget.threads.perform event.ioAction).2 := by
  cases event with
  | setup request env =>
      obtain ⟨run, ran, same⟩ := Option.map_eq_some_iff.mp moved
      obtain ⟨rfl, rfl⟩ := Prod.mk.inj same
      obtain ⟨made, changed⟩ := (handleControl_replies ran).effect
      exact ⟨made, by rw [changed]; rfl⟩
  | nop | connect | disconnect | suspend | unhandled =>
      obtain ⟨rfl, rfl⟩ := Prod.mk.inj (Option.some.inj moved)
      exact ⟨rfl, rfl⟩

/-- No event looks at `connected`. -/
theorem gadgetfsEvent_connected {strings : UsbGadgetStrings} {loop after : Ep0Loop τ}
    {event : GadgetfsEvent τ} {calls : List (Ledger.Entry τ)}
    (moved : gadgetfsEvent strings loop event = some (calls, after)) (connected : Bool) :
    ∃ other, gadgetfsEvent strings ⟨connected, loop.gadget⟩ event = some (calls, other) ∧
      other.gadget = after.gadget := by
  cases event with
  | setup request env => exact ⟨after, moved, rfl⟩
  | nop | connect | disconnect | suspend | unhandled =>
      obtain ⟨rfl, rfl⟩ := Prod.mk.inj (Option.some.inj moved)
      exact ⟨_, rfl, rfl⟩

theorem exec_connected {strings : UsbGadgetStrings} {loop last : Ep0Loop τ}
    {events : List (GadgetfsEvent τ)} {outputs : List (List (Ledger.Entry τ))}
    (moved : Machine.exec (gadgetfsEvent strings) loop events = some (outputs, last))
    (connected : Bool) :
    ∃ other, Machine.exec (gadgetfsEvent strings) ⟨connected, loop.gadget⟩ events =
        some (outputs, other) ∧ other.gadget = last.gadget := by
  induction events generalizing loop outputs connected with
  | nil =>
      obtain ⟨rfl, rfl⟩ := Machine.exec_nil_eq_some.mp moved
      exact ⟨_, rfl, rfl⟩
  | cons event rest ih =>
      obtain ⟨calls, after, later, first, remaining, rfl⟩ := Machine.exec_cons_eq_some.mp moved
      obtain ⟨next, firstToo, same⟩ := gadgetfsEvent_connected first connected
      obtain ⟨other, remainingToo, sameLast⟩ := ih remaining next.connected
      rw [← same] at remainingToo
      exact ⟨other,
        Machine.exec_cons_eq_some.mpr ⟨calls, next, later, firstToo, remainingToo, rfl⟩, sameLast⟩

/-- A round of the outer loop makes the calls of its events and no others. -/
theorem ep0Round_events {strings : UsbGadgetStrings} {thread after : Ep0Thread τ}
    {read : Ep0Read τ} {calls : List (Ledger.Entry τ)}
    (moved : ep0Round strings thread read = some (calls, after)) :
    ∃ outputs last, Machine.exec (gadgetfsEvent strings) ⟨false, thread.gadget⟩ read.batch =
        some (outputs, last) ∧ outputs.flatten = calls ∧ last.gadget = after.gadget := by
  unfold ep0Round at moved
  split at moved
  · cases moved
  · cases read with
    | events batch =>
        obtain ⟨done, ran, same⟩ := Option.map_eq_some_iff.mp moved
        obtain ⟨rfl, rfl⟩ := Prod.mk.inj same
        exact ⟨done.1, done.2, ran, rfl, rfl⟩
    | pollFailed | again | failed =>
        obtain ⟨rfl, rfl⟩ := Prod.mk.inj (Option.some.inj moved)
        exact ⟨[], _, rfl, rfl, rfl⟩

/-- In the round whose read fails no event has set `connected`. -/
theorem ep0Round_failed {strings : UsbGadgetStrings} {thread after : Ep0Thread τ}
    {calls : List (Ledger.Entry τ)}
    (moved : ep0Round strings thread .failed = some (calls, after)) :
    after.exit = some (.done false) := by
  unfold ep0Round at moved
  split at moved
  · cases moved
  · rw [← (Prod.mk.inj (Option.some.inj moved)).2]

/-- The control thread is the switch over events, applied to all the events of
its batches in a row. -/
theorem ep0Thread_events {strings : UsbGadgetStrings} {thread last : Ep0Thread τ}
    {reads : List (Ep0Read τ)} {outputs : List (List (Ledger.Entry τ))}
    (moved : Machine.exec (ep0Round strings) thread reads = some (outputs, last))
    (connected : Bool) :
    ∃ calls loop, Machine.exec (gadgetfsEvent strings) ⟨connected, thread.gadget⟩
        (reads.flatMap Ep0Read.batch) = some (calls, loop) ∧
      calls.flatten = outputs.flatten ∧ loop.gadget = last.gadget := by
  induction reads generalizing thread outputs connected with
  | nil =>
      obtain ⟨rfl, rfl⟩ := Machine.exec_nil_eq_some.mp moved
      exact ⟨[], _, rfl, rfl, rfl⟩
  | cons read rest ih =>
      obtain ⟨calls, after, later, first, remaining, rfl⟩ := Machine.exec_cons_eq_some.mp moved
      obtain ⟨early, middle, front, sameCalls, sameGadget⟩ := ep0Round_events first
      obtain ⟨frontLoop, frontToo, sameFront⟩ := exec_connected front connected
      obtain ⟨late, loop, back, sameLater, sameLast⟩ := ih remaining frontLoop.connected
      rw [← sameGadget, ← sameFront] at back
      refine ⟨early ++ late, loop, ?_, ?_, sameLast⟩
      · rw [List.flatMap_cons]
        exact Machine.exec_append_eq_some.mpr ⟨frontLoop, early, late, frontToo, back, rfl⟩
      · rw [List.flatten_append, sameCalls, sameLater, List.flatten_cons]

end ScpiVxiTmc
