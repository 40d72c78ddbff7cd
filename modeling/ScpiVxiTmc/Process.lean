import ScpiVxiTmc.Instrument
import ScpiVxiTmc.Startup
import ScpiVxiTmc.Usb.CutRound
import ScpiVxiTmc.Usb.EventReads
import ScpiVxiTmc.Usb.ThreadHistory

set_option autoImplicit false

/- The process that `main` starts: the instrument, and the control thread, which
starts and cancels the threads that read from the host. -/
namespace ScpiVxiTmc

open Machine
open Vxi11 (SvcReq Reply replies svcRun)

/-- The locals of a sink thread in its loop. -/
structure SinkLocals where
  buf : RevBuf
  cmdBuf : CmdBuf
  cmdLen : Nat

def SinkLocals.zero : SinkLocals := ⟨Vector.replicate usbBufsize 0, Vector.replicate 100 0, 0⟩

/-- The adapter with the statics of the server, the calls of `vxi11_init` that
succeeded, whether there is a control thread, its handles, and the sink threads that
are in their loops, recorded or not. -/
structure Process (τ : Type) where
  server : VxiServer
  calls : List SvcCall
  control : Bool
  threads : IoThreads τ
  sinks : τ → Option SinkLocals

namespace Process

section
variable {τ : Type} (p : Process τ)

/-- After a start, with what an earlier run left in the message queue. -/
def ofStart (started : Started) (ep0 : τ) (left : List ScpiMsg) : Process τ where
  server :=
    { adapter := { Adapter.init with msgQueue := left }
      error := 0
      reason := 0
      dataLen := 0
      tmpBuf := Vector.replicate vxi11Bufsize 0 }
  calls := started.calls
  control := started.usb.ep0.isSome
  threads := .ofEp0 ep0
  sinks _ := none

/-- The process has been started, and has a message queue, with these messages in it. -/
def BegunWith (left : List ScpiMsg) : Prop :=
  ∃ env started ep0, mainStart .initial env true = some (some started) ∧
    started.retValue = 0 ∧ p = ofStart started ep0 left

/-- The process has been started, and has a message queue. -/
def Begun : Prop := ∃ left, p.BegunWith left

/-- What a sink thread sees of it. -/
def instrument (locals : SinkLocals) : Instrument where
  adapter := p.server.adapter
  buf := locals.buf
  cmdBuf := locals.cmdBuf
  cmdLen := locals.cmdLen
  error := p.server.error
  reason := p.server.reason
  dataLen := p.server.dataLen
  tmpBuf := p.server.tmpBuf

def withAdapter (adapter : Adapter) : Process τ :=
  { p with server := { p.server with adapter := adapter } }

/-- What comes next: a round of a sink thread, a request over one of the transports,
a call of the application, or an event for the control thread, with what a sink thread
that it cancels got done, and how one that it starts enters its loop, if it does. -/
inductive Input (τ : Type)
  | sink (thread : τ) (reads : List SinkRead) (accepted : Bool)
  | request (protocol : Protocol) (req : SvcReq)
  | cmdRead (len : Nat)
  | reponseWrite (buf : Option (List UInt8)) (msgsrc : Int)
  | control (event : GadgetfsEvent τ) (cut : Option Cut) (opened : Option SinkLocals)

/-- What comes of it: what comes of a step of the instrument, the end of a sink
thread, or the thread calls of the control thread. -/
inductive Output (τ : Type)
  | served (output : Instrument.Output)
  | ended
  | called (calls : List (Ledger.Entry τ))

/-- What the cancelled thread leaves of the adapter, if one is. -/
def leaves : Option SinkLocals → Option Cut → Option Adapter
  | none, none => some p.server.adapter
  | some locals, some cut => cutRound (p.instrument locals).sink cut
  | none, some _ => none
  | some _, none => none

variable [DecidableEq τ]

def withSink (thread : τ) (locals : Option SinkLocals) : Process τ :=
  { p with sinks := fun other => if other = thread then locals else p.sinks other }

/-- The sink threads after the control thread has made its calls. -/
def sinksAfter (calls : List (Ledger.Entry τ)) (threads : IoThreads τ)
    (opened : Option SinkLocals) (thread : τ) : Option SinkLocals :=
  if .closed thread ∈ calls then none
  else if thread = threads.sink ∧ .opened thread ∈ calls then opened
  else p.sinks thread

end

variable {τ : Type} [DecidableEq τ]

def step (strings : UsbGadgetStrings) (p : Process τ) : Input τ → Option (Output τ × Process τ)
  | .sink thread reads accepted => (p.sinks thread).bind fun locals =>
      match sinkRound (p.instrument locals).sink reads accepted with
      | .next writes next [] =>
          some (.served (.bulkIn writes), (p.withAdapter next.adapter).withSink thread
            (some ⟨next.buf, next.cmdBuf, next.cmdLen⟩))
      | .closed => some (.ended, p.withSink thread none)
      | _ => none
  | .request protocol req =>
      if .register req.program protocol ∈ p.calls then
        (replies svcRun p.server req).map fun done =>
          (.served (.replied done.1), { p with server := done.2 })
      else none
  | .cmdRead len => (scpiMsgCmdRead p.server.adapter len).map fun done =>
      (.served (.returned done.1.1 done.1.2), p.withAdapter done.2)
  | .reponseWrite buf msgsrc =>
      let done := scpiMsgReponseWrite p.server.adapter buf msgsrc
      some (.served (.returned done.1 []), p.withAdapter done.2)
  | .control event cut opened =>
      if p.control then
        (gadgetStep strings ⟨p.server.adapter, p.threads⟩ event).bind fun done =>
          let handled := p.withAdapter done.2.adapter
          let cancelled :=
            if .closed p.threads.sink ∈ done.1 then p.sinks p.threads.sink else none
          (handled.leaves cancelled cut).map fun adapter =>
            (.called done.1, { handled.withAdapter adapter with
              threads := done.2.threads
              sinks := p.sinksAfter done.1 done.2.threads opened })
      else none

/-- The sink thread in its loop that an event makes the control thread cancel. -/
def cancelledBy (strings : UsbGadgetStrings) (p : Process τ) (event : GadgetfsEvent τ) :
    Option SinkLocals :=
  (gadgetStep strings ⟨p.server.adapter, p.threads⟩ event).bind fun done =>
    if .closed p.threads.sink ∈ done.1 then p.sinks p.threads.sink else none

/-- What the application gets. -/
def Output.taken {τ : Type} : Output τ → List UInt8
  | .served output => output.taken
  | .ended => []
  | .called _ => []

/-- What the host gets. -/
def Output.received {τ : Type} : Output τ → List UInt8
  | .served output => output.received
  | .ended => []
  | .called _ => []

end Process

/-- How far a round has come, with a command as a host is to send it, or any request. -/
inductive PacketCut
  | idle
  | command (transfer : CommandTransfer) (nulFree : 0 ∉ transfer.payload)
      (padded : transfer.payload.length % 4 ≠ 0)
  | request (bytes : List UInt8) (steps printed : Nat)

namespace PacketCut

def cut : PacketCut → Cut
  | .idle => .idle []
  | .command transfer _ _ => .command transfer.bytes []
  | .request bytes steps printed => .request bytes steps printed

/-- What it adds to the commands. -/
def written : PacketCut → List UInt8
  | .idle => []
  | .command transfer _ _ => transfer.payload
  | .request _ _ _ => []

/-- How much of so many bytes it has taken from the responses. -/
def taken (total : Nat) : PacketCut → Nat
  | .idle => 0
  | .command _ _ _ => 0
  | .request _ steps _ => takenAfter total steps

end PacketCut

/-- What happens to the process, each event of the instrument with the thread or the
transport by which it comes. -/
inductive Happening (τ : Type)
  | usb (thread : τ) (packet : SessionPacket) (accepted : Bool)
  | ended (thread : τ) (failed accepted : Bool)
  | vxi (protocol : Protocol) (req : SvcReq)
  | read (len : Nat)
  | respond (bytes : List UInt8)
  | control (event : GadgetfsEvent τ) (cut : Option PacketCut) (opened : Option SinkLocals)

namespace Happening

variable {τ : Type}

def input : Happening τ → Process.Input τ
  | .usb thread packet accepted => .sink thread [.data packet.bytes] accepted
  | .ended thread failed accepted => .sink thread [if failed then .failed else .data []] accepted
  | .vxi protocol req => .request protocol req
  | .read len => .cmdRead len
  | .respond bytes => .reponseWrite (some bytes) 0
  | .control event cut opened => .control event (cut.map PacketCut.cut) opened

/-- What the instrument sees of it. -/
def event? : Happening τ → Option Event
  | .usb _ packet accepted => some (.usb packet accepted)
  | .ended _ _ _ => none
  | .vxi _ req => some (.vxi req)
  | .read len => some (.read len)
  | .respond bytes => some (.respond bytes)
  | .control _ _ _ => none

/-- How far the round had come that it cuts off, if it does. -/
def cut? : Happening τ → Option PacketCut
  | .control _ cut _ => cut
  | _ => none

/-- What it adds to the commands. -/
def command (happening : Happening τ) : List UInt8 :=
  match happening.event? with
  | some event => event.command
  | none => (happening.cut?.getD .idle).written

/-- What it adds to the responses. -/
def response (happening : Happening τ) : List UInt8 :=
  match happening.event? with
  | some event => event.response
  | none => []

end Happening

namespace Queues

variable {τ : Type}

/-- What is left where a round is cut off. -/
def cutOff (q : Queues) (cut : PacketCut) : Queues :=
  ⟨q.commands ++ cut.written, q.responses.drop (cut.taken q.responses.length)⟩

def afterAll (q : Queues) (happening : Happening τ) : Queues :=
  match happening.event? with
  | some event => q.after event
  | none => q.cutOff (happening.cut?.getD .idle)

/-- What a response that is cut off has taken, whether its packets came through or not. -/
def lost (q : Queues) (happening : Happening τ) : List UInt8 :=
  q.responses.take ((happening.cut?.getD .idle).taken q.responses.length)

/-- The rings have room. -/
def FitsIn (q : Queues) (happening : Happening τ) : Prop :=
  match happening.event? with
  | some event => q.Fits event
  | none => q.commands.length + (happening.cut?.getD .idle).written.length ≤ 1023

/-- Nothing else gets what an event of the instrument does. -/
def AnswersIn (q : Queues) (happening : Happening τ) (output : Process.Output τ) : Prop :=
  match happening.event? with
  | some event => ∃ answer, output = .served answer ∧ q.Answers event answer
  | none => ∀ answer, output ≠ .served answer

def processAccount : Account Queues (Happening τ) (Process.Output τ) :=
  ⟨afterAll, FitsIn, AnswersIn⟩

end Queues

theorem Instrument.Holds.of_server {s t : Instrument} {q : Queues} (holds : s.Holds q)
    (same : s.server = t.server) : t.Holds q := by
  have adapter : s.adapter = t.adapter := congrArg VxiServer.adapter same
  have dataLen : s.dataLen = t.dataLen := congrArg VxiServer.dataLen same
  refine ⟨?_, ?_, ?_, ?_, ?_⟩
  · exact adapter ▸ holds.ring
  · exact adapter ▸ holds.inside
  · exact adapter ▸ holds.commands
  · exact adapter ▸ holds.responses
  · exact dataLen ▸ holds.silent

namespace Process

variable {τ : Type}

/-- What a round of any sink thread may rely on. -/
def Holds (p : Process τ) (q : Queues) : Prop := ∀ locals, (p.instrument locals).Holds q

/-- What keeps a happening from coming to pass: there is no such thread in its loop, the
program is not served, or no command was announced. -/
def Waits (p : Process τ) : Happening τ → Prop
  | .usb thread _ _ => p.sinks thread = none
  | .ended thread _ _ => p.sinks thread = none
  | .vxi protocol req => .register req.program protocol ∉ p.calls
  | .read _ => p.server.adapter.scpiSem = 0 ∨ p.server.adapter.msgQueue = []
  | .respond _ => False
  | .control _ _ _ => p.control = false

theorem holds_of_server {p : Process τ} {s : Instrument} {q : Queues} (holds : s.Holds q)
    (same : s.server = p.server) : p.Holds q := fun locals =>
  holds.of_server (same : s.server = (p.instrument locals).server)

theorem cutOff_idle (q : Queues) : q.cutOff .idle = q := by
  rw [Queues.cutOff, PacketCut.written, PacketCut.taken, List.append_nil, List.drop_zero]

/-- What a cut leaves is in the queues. -/
theorem cutRound_holds {p : Process τ} {q : Queues} (holds : p.Holds q) {locals : SinkLocals}
    {cut : PacketCut} (room : q.commands.length + cut.written.length ≤ 1023) {adapter : Adapter}
    (left : cutRound (p.instrument locals).sink cut.cut = some adapter) :
    (p.withAdapter adapter).Holds (q.cutOff cut) := by
  have before := holds locals
  cases cut with
  | idle =>
      cases left
      rw [cutOff_idle]
      exact holds
  | command transfer nulFree padded =>
      rw [PacketCut.cut, cutRound_command _ transfer nulFree padded] at left
      cases left
      intro other
      rw [Queues.cutOff, PacketCut.written, PacketCut.taken, List.drop_zero]
      exact ⟨before.ring, ⟨ByteRing.write_inRange _ _ before.inside.rx, before.inside.tx⟩,
        ByteRing.unread_write before.inside.rx before.commands room, before.responses,
        before.silent⟩
  | request bytes steps printed =>
      have drained := cutRound_request before.ring before.inside left
      have total : (p.instrument locals).adapter.tx.avail = q.responses.length := by
        rw [← before.responses, ByteRing.unread_length]
      intro other
      refine ⟨drained.ring.trans before.ring, drained.inside, ?_, ?_, before.silent⟩
      · rw [Queues.cutOff, PacketCut.written, List.append_nil, ← before.commands]
        exact congrArg ByteRing.unread drained.commands
      · rw [Queues.cutOff, PacketCut.taken, ← total, ← before.responses]
        exact drained.responses

theorem leaves_holds {p : Process τ} {q : Queues} (holds : p.Holds q)
    {cancelled : Option SinkLocals} {cut : Option PacketCut}
    (room : q.commands.length + (cut.getD .idle).written.length ≤ 1023) {adapter : Adapter}
    (left : p.leaves cancelled (cut.map PacketCut.cut) = some adapter) :
    (p.withAdapter adapter).Holds (q.cutOff (cut.getD .idle)) := by
  cases cancelled with
  | none =>
      cases cut with
      | none =>
          cases left
          exact (cutOff_idle q).symm ▸ holds
      | some cut => cases left
  | some locals =>
      cases cut with
      | none => cases left
      | some cut => exact cutRound_holds holds room left

theorem begun_holds {p : Process τ} (begun : p.Begun) : p.Holds ⟨[], []⟩ := by
  obtain ⟨left, _, started, ep0, _, _, rfl⟩ := begun
  exact fun _ => ⟨rfl, ⟨Adapter.init_inRange.rx, Adapter.init_inRange.tx⟩, rfl, rfl, rfl⟩

/-- What is served is an answer of the instrument, and nothing else is served. -/
theorem answersIn_cases {q : Queues} {happening : Happening τ} {output : Output τ}
    (answers : q.AnswersIn happening output) :
    (∃ event answer, happening.event? = some event ∧ output = .served answer ∧
      q.Answers event answer) ∨
    happening.event? = none ∧ output.taken = [] ∧ output.received = [] := by
  unfold Queues.AnswersIn at answers
  cases served : happening.event? with
  | some event =>
      rw [served] at answers
      obtain ⟨answer, same, given⟩ := answers
      exact Or.inl ⟨event, answer, rfl, same, given⟩
  | none =>
      rw [served] at answers
      cases output with
      | served answer => exact absurd rfl (answers answer)
      | ended => exact Or.inr ⟨rfl, rfl, rfl⟩
      | called calls => exact Or.inr ⟨rfl, rfl, rfl⟩

theorem answersIn_conserve {q : Queues} {happening : Happening τ} {output : Output τ}
    (answers : q.AnswersIn happening output) :
    output.taken ++ (q.afterAll happening).commands = q.commands ++ happening.command := by
  unfold Queues.afterAll Happening.command
  rcases answersIn_cases answers with ⟨event, answer, served, rfl, given⟩ | ⟨served, nothing, _⟩
  · rw [served]
    exact Instrument.answers_conserve given
  · rw [served, nothing]
    rfl

variable [DecidableEq τ] {table : UsbGadgetStrings}

/-- A step of the instrument is a round of any sink thread that is in its loop. -/
theorem step_sink (table : UsbGadgetStrings) {p : Process τ} {thread : τ} {locals : SinkLocals}
    (inLoop : p.sinks thread = some locals) {reads : List SinkRead} {accepted : Bool}
    {answer : Instrument.Output} {s : Instrument}
    (moved : (p.instrument locals).step (.transfer reads accepted) = some (answer, s)) :
    ∃ after, p.step table (.sink thread reads accepted) = some (.served answer, after) ∧
      s.server = after.server := by
  simp only [Instrument.step] at moved
  split at moved
  · rename_i writes next round
    cases moved
    refine ⟨(p.withAdapter next.adapter).withSink thread
      (some ⟨next.buf, next.cmdBuf, next.cmdLen⟩), ?_, rfl⟩
    simp only [step, inLoop, Option.bind_some, round]
  · cases moved

theorem step_no_sink {p : Process τ} {thread : τ} (gone : p.sinks thread = none)
    {reads : List SinkRead} {accepted : Bool} :
    p.step table (.sink thread reads accepted) = none := by
  rw [step, gone]
  rfl

/-- No event of the control thread touches the adapter. -/
theorem gadgetStep_adapter {gadget after : Gadget τ} {event : GadgetfsEvent τ}
    {calls : List (Ledger.Entry τ)}
    (moved : gadgetStep table gadget event = some (calls, after)) :
    after.adapter = gadget.adapter := by
  obtain ⟨done, handled, same⟩ := Option.map_eq_some_iff.mp moved
  cases same
  cases event with
  | setup request env =>
      obtain ⟨run, ran, rfl⟩ := Option.map_eq_some_iff.mp handled
      obtain ⟨_, changed⟩ := (handleControl_replies ran).effect
      show run.gadget.adapter = gadget.adapter
      rw [changed]
  | nop | connect | disconnect | suspend | unhandled =>
      cases handled
      rfl

/-- The control thread leaves the queues as its cuts leave them. -/
theorem step_control {p after : Process τ} {q : Queues} (holds : p.Holds q)
    {event : GadgetfsEvent τ} {cut : Option PacketCut} {opened : Option SinkLocals}
    (room : q.commands.length + (cut.getD .idle).written.length ≤ 1023) {output : Output τ}
    (moved : p.step table (.control event (cut.map PacketCut.cut) opened) =
      some (output, after)) :
    (∃ calls, output = .called calls) ∧ after.Holds (q.cutOff (cut.getD .idle)) := by
  rw [step, Option.ite_none_right_eq_some] at moved
  obtain ⟨_, moved⟩ := moved
  obtain ⟨done, handled, moved⟩ := Option.bind_eq_some_iff.mp moved
  obtain ⟨adapter, left, same⟩ := Option.map_eq_some_iff.mp moved
  cases same
  have still : p.withAdapter done.2.adapter = p := by
    rw [gadgetStep_adapter handled]
    rfl
  rw [still] at left ⊢
  exact ⟨⟨done.1, rfl⟩, holds_of_server (leaves_holds holds room left .zero) rfl⟩

/-- What is to come of a happening: an answer out of the queues, and, unless it is one
of the control thread, an answer whenever nothing keeps it. -/
structure Refines (table : UsbGadgetStrings) (p : Process τ) (q : Queues)
    (happening : Happening τ) : Prop where
  comes : ∀ output after, p.step table happening.input = some (output, after) →
    q.AnswersIn happening output ∧ after.Holds (q.afterAll happening)
  waits : (∀ event cut opened, happening ≠ .control event cut opened) →
    (p.step table happening.input = none ↔ p.Waits happening)

theorem refines_of_served {p after : Process τ} {q : Queues} {happening : Happening τ}
    {event : Event} {answer : Instrument.Output} {s : Instrument}
    (served : happening.event? = some event)
    (one : q.Answers event answer ∧ s.Holds (q.after event)) (same : s.server = after.server)
    (moved : p.step table happening.input = some (.served answer, after))
    (ready : ¬ p.Waits happening) : Refines table p q happening := by
  refine ⟨?_, fun _ => iff_of_false (moved ▸ Option.some_ne_none _) ready⟩
  rintro output other again
  rw [moved] at again
  cases again
  simp only [Queues.AnswersIn, Queues.afterAll, served]
  exact ⟨⟨answer, rfl, one.1⟩, holds_of_server one.2 same⟩

theorem refines_of_waits {p : Process τ} {q : Queues} {happening : Happening τ}
    (moved : p.step table happening.input = none) (waits : p.Waits happening) :
    Refines table p q happening := by
  refine ⟨?_, fun _ => iff_of_true moved waits⟩
  rintro output after again
  rw [moved] at again
  cases again

theorem refines_usb {p : Process τ} {q : Queues} (holds : p.Holds q) (thread : τ)
    (packet : SessionPacket) (accepted : Bool) (fits : q.Fits (.usb packet accepted)) :
    Refines table p q (.usb thread packet accepted) := by
  cases inLoop : p.sinks thread with
  | none => exact refines_of_waits (step_no_sink inLoop) inLoop
  | some locals =>
      have one := Instrument.step_refines (holds locals) fits
      cases round : (p.instrument locals).step (.transfer [.data packet.bytes] accepted) with
      | none =>
          obtain ⟨⟨_, isRead⟩, _⟩ := one.2.mp round
          cases isRead
      | some done =>
          obtain ⟨after, moved, same⟩ := step_sink table inLoop round
          apply refines_of_served rfl (one.1 done.1 done.2 round) same moved
          rw [Waits, inLoop]
          exact Option.some_ne_none _

/-- A sink thread that ends leaves everything else as it is. -/
theorem refines_ended {p : Process τ} {q : Queues} (holds : p.Holds q) (thread : τ)
    (failed accepted : Bool) : Refines table p q (.ended thread failed accepted) := by
  cases inLoop : p.sinks thread with
  | none => exact refines_of_waits (step_no_sink inLoop) inLoop
  | some locals =>
      have moved : p.step table (Happening.ended thread failed accepted).input =
          some (.ended, p.withSink thread none) := by
        cases failed <;> simp only [Happening.input, step, inLoop] <;> rfl
      constructor
      · rintro output after again
        rw [moved] at again
        cases again
        refine ⟨nofun, ?_⟩
        show Holds _ (q.cutOff .idle)
        rw [cutOff_idle]
        exact holds_of_server (holds .zero) rfl
      · intro _
        rw [moved, Waits, inLoop]
        exact iff_of_false (Option.some_ne_none _) (Option.some_ne_none _)

theorem refines_vxi {p : Process τ} {q : Queues} (holds : p.Holds q) (protocol : Protocol)
    (req : SvcReq) (fits : q.Fits (.vxi req)) : Refines table p q (.vxi protocol req) := by
  by_cases served : .register req.program protocol ∈ p.calls
  · have one := Instrument.step_refines (holds .zero) fits
    cases replied : replies svcRun p.server req with
    | none =>
        have silent : (p.instrument .zero).step (.request req) = none :=
          congrArg (Option.map _) replied
        obtain ⟨⟨_, isRead⟩, _⟩ := one.2.mp silent
        cases isRead
    | some done =>
        have answered : (p.instrument .zero).step (.request req) =
            some (.replied done.1, (p.instrument .zero).withServer done.2) :=
          congrArg (Option.map _) replied
        have moved : p.step table (Happening.vxi protocol req).input =
            some (.served (.replied done.1), { p with server := done.2 }) := by
          rw [Happening.input, step, if_pos served, replied]
          rfl
        exact refines_of_served rfl (one.1 _ _ answered) rfl moved (not_not_intro served)
  · exact refines_of_waits (if_neg served) served

theorem refines_read {p : Process τ} {q : Queues} (holds : p.Holds q) (len : Nat) :
    Refines table p q (.read len) := by
  cases read : scpiMsgCmdRead p.server.adapter len with
  | none =>
      exact refines_of_waits (congrArg (Option.map _) read)
        (scpiMsgCmdRead_eq_none_iff.mp read)
  | some done =>
      have answered : (p.instrument .zero).step (.cmdRead len) =
          some (.returned done.1.1 done.1.2, { p.instrument .zero with adapter := done.2 }) :=
        congrArg (Option.map _) read
      have moved : p.step table (Happening.read len).input =
          some (.served (.returned done.1.1 done.1.2), p.withAdapter done.2) :=
        congrArg (Option.map _) read
      have one : q.Answers (.read len) _ ∧ Instrument.Holds _ (q.after (.read len)) :=
        Instrument.step_read (holds .zero) answered
      apply refines_of_served rfl one rfl moved
      intro waits
      rw [scpiMsgCmdRead_eq_none_iff.mpr waits] at read
      cases read

/-- One step of the process is one of the queues. -/
theorem step_refines {p : Process τ} {q : Queues} (holds : p.Holds q) {happening : Happening τ}
    (fits : q.FitsIn happening) : Refines table p q happening := by
  cases happening with
  | usb thread packet accepted => exact refines_usb holds thread packet accepted fits
  | ended thread failed accepted => exact refines_ended holds thread failed accepted
  | vxi protocol req => exact refines_vxi holds protocol req fits
  | read len => exact refines_read holds len
  | respond bytes =>
      obtain ⟨after, answered, later⟩ := Instrument.step_respond (holds .zero) fits
      cases answered
      have one : q.Answers (.respond bytes) (.returned 0 []) ∧
          Instrument.Holds _ (q.after (.respond bytes)) := ⟨rfl, later⟩
      exact refines_of_served rfl one rfl rfl id
  | control event cut opened =>
      refine ⟨?_, fun other => absurd rfl (other event cut opened)⟩
      rintro output after moved
      obtain ⟨⟨calls, rfl⟩, later⟩ := step_control holds fits moved
      exact ⟨nofun, later⟩

theorem process_kept (strings : UsbGadgetStrings) :
    Queues.processAccount.Kept (step (τ := τ) strings) Happening.input Holds :=
  fun _ _ _ output after holds fits moved => (step_refines holds fits).comes output after moved

/-- A start at which everything succeeds. -/
theorem begunWith_all (left : List ScpiMsg) :
    (ofStart ⟨0, ⟨0, [.opened 3], some 3⟩, vxi11Calls⟩ 0 left).BegunWith left := by
  obtain ⟨filled, count, built, _⟩ := deviceImage_eq
    (autoconfig_wellFormed initial_wellFormed true) (Vector.replicate 4096 0)
  let usb : UsbEnv := ⟨true, 0, true, Vector.replicate 4096 0, .wrote 3 count, true⟩
  have device : initDevice .initial usb =
      some ((3, [.opened 3]), (Descriptors.initial.autoconfig true).2) :=
    initDevice_wrote rfl built rfl
  refine ⟨⟨true, false, usb, fun _ => true⟩, _, 0, ?_, rfl, rfl⟩
  have begins : usbTmcInit .initial usb = some ⟨0, [.opened 3], some 3⟩ := by
    rw [usbTmcInit, device]
    rfl
  rw [mainStart, scpiAdptInit, begins]
  rfl

theorem begun_all : (ofStart ⟨0, ⟨0, [.opened 3], some 3⟩, vxi11Calls⟩ 0 []).Begun :=
  ⟨[], begunWith_all []⟩

/-- A command, one that is cut off, and after a reconnection a response that is. -/
def hostComesAndGoes : List (Happening Nat) :=
  [.control (configure 1 2) none (some .zero),
    .usb 2 (.command fiveBytes fiveBytes_nulFree Instrument.fiveBytes_padded) true,
    .control .disconnect (some (.command fiveBytes fiveBytes_nulFree Instrument.fiveBytes_padded))
      none,
    .control (configure 3 4) none (some .zero),
    .control .disconnect (some (.request (requestFor 64).bytes 3 0)) none,
    .read 100]

theorem hostComesAndGoes_fits :
    Queues.processAccount.FitsAll ⟨[], []⟩ hostComesAndGoes := by
  refine ⟨?_, ⟨by decide, by decide⟩, ?_, ?_, ?_, trivial, trivial⟩
  · show 0 ≤ 1023
    decide
  · show 10 ≤ 1023
    decide
  · show 10 ≤ 1023
    decide
  · show 10 ≤ 1023
    decide

/-- However often the host comes and goes, the application gets the commands byte for
byte in the order in which they came in, those whose round was cut off after them too. -/
theorem commands_survive_cuts (strings : UsbGadgetStrings) (p last : Process τ) (begun : p.Begun)
    (happenings : List (Happening τ))
    (fits : Queues.processAccount.FitsAll ⟨[], []⟩ happenings) (outputs : List (Output τ))
    (ran : exec (step strings) p (happenings.map Happening.input) = some (outputs, last)) :
    outputs.flatMap Output.taken ++ last.server.adapter.rx.unread =
      happenings.flatMap Happening.command := by
  obtain ⟨answers, holds⟩ := (process_kept strings).exec (begun_holds begun) fits ran
  have left : last.server.adapter.rx.unread = _ := (holds .zero).commands
  rw [left]
  exact answers.balance fun _ _ _ => answersIn_conserve

theorem commands_survive_cuts_comes_and_goes :
    ∃ outputs last, exec (step strings) (ofStart ⟨0, ⟨0, [.opened 3], some 3⟩, vxi11Calls⟩ 0 [])
        (hostComesAndGoes.map Happening.input) = some (outputs, last) ∧
      outputs.flatMap Output.taken ++ last.server.adapter.rx.unread =
        [65, 66, 67, 68, 69] ++ [65, 66, 67, 68, 69] :=
  ⟨_, _, rfl, commands_survive_cuts strings _ _ begun_all hostComesAndGoes hostComesAndGoes_fits
    _ rfl⟩

end Process

end ScpiVxiTmc
