import ScpiVxiTmc.Lib.Account
import ScpiVxiTmc.Usb.Sink
import ScpiVxiTmc.Vxi.ServerRuns

set_option autoImplicit false

/- The instrument as a whole: the sink thread, the network server and the
application, on one adapter. -/
namespace ScpiVxiTmc

open Machine
open Vxi11 (SvcReq Reply replies svcRun)

/-- The adapter, the locals of the sink thread and the statics of the server. -/
structure Instrument where
  adapter : Adapter
  buf : RevBuf
  cmdBuf : CmdBuf
  cmdLen : Nat
  error : Int
  reason : Nat
  dataLen : Nat
  tmpBuf : Vector UInt8 vxi11Bufsize

namespace Instrument

def sink (s : Instrument) : SinkThread := ⟨s.buf, s.cmdBuf, s.cmdLen, s.adapter⟩

def withSink (s : Instrument) (thread : SinkThread) : Instrument :=
  { s with
    adapter := thread.adapter
    buf := thread.buf
    cmdBuf := thread.cmdBuf
    cmdLen := thread.cmdLen }

def server (s : Instrument) : VxiServer := ⟨s.adapter, s.error, s.reason, s.dataLen, s.tmpBuf⟩

def withServer (s : Instrument) (server : VxiServer) : Instrument :=
  { s with
    adapter := server.adapter
    error := server.error
    reason := server.reason
    dataLen := server.dataLen
    tmpBuf := server.tmpBuf }

/-- What may come next: what the host sends for a round of the sink thread, a
request to the network server, or a call of the application. -/
inductive Input
  | transfer (reads : List SinkRead) (accepted : Bool)
  | request (req : SvcReq)
  | cmdRead (len : Nat)
  | reponseWrite (buf : Option (List UInt8)) (msgsrc : Int)

/-- What comes of it: the writes on `source_fd`, a reply, or what a call returns
and stores. -/
inductive Output
  | bulkIn (writes : List (List UInt8))
  | replied (reply : Reply)
  | returned (retValue : Int) (bytes : List UInt8)

/-- None where a round does not end or ends the thread, or a call does not return. -/
def step (s : Instrument) : Input → Option (Output × Instrument)
  | .transfer reads accepted =>
      match sinkRound s.sink reads accepted with
      | .next writes thread [] => some (.bulkIn writes, s.withSink thread)
      | _ => none
  | .request req => (replies svcRun s.server req).map fun done =>
      (.replied done.1, s.withServer done.2)
  | .cmdRead len => (scpiMsgCmdRead s.adapter len).map fun done =>
      (.returned done.1.1 done.1.2, { s with adapter := done.2 })
  | .reponseWrite buf msgsrc =>
      let done := scpiMsgReponseWrite s.adapter buf msgsrc
      some (.returned done.1 [], { s with adapter := done.2 })

/-- After `scpi_adpt_init`, with what the stack happens to hold. -/
def boot (buf : RevBuf) (cmdBuf : CmdBuf) (cmdLen : Nat) : Instrument where
  adapter := .init
  buf := buf
  cmdBuf := cmdBuf
  cmdLen := cmdLen
  error := 0
  reason := 0
  dataLen := 0
  tmpBuf := Vector.replicate vxi11Bufsize 0

/-- From one state of the adapter to the other there are calls of its functions. -/
abbrev Leads (a b : Adapter) : Prop := Machine.Reachable adapterStep a b

theorem Leads.trans {a b c : Adapter} (first : Leads a b) (second : Leads b c) : Leads a c :=
  Machine.Reachable.trans first second

theorem Leads.call {a b : Adapter} (call : AdapterCall) {reply : Int × List UInt8}
    (answered : adapterStep a call = some (reply, b)) : Leads a b :=
  (Machine.Reachable.start _ _).next call answered

theorem leads_reponseRead (a : Adapter) (len : Nat) : Leads a (scpiMsgReponseRead a len).2 :=
  Leads.call (.reponseRead len) rfl

theorem leads_responseLoop (total sended : Nat) (a : Adapter) :
    Leads a (responseLoop total sended a).2 := by
  rw [responseLoop]
  by_cases unsent : sended < total
  · simp only [unsent, ↓reduceDIte]
    exact (leads_reponseRead a _).trans (leads_responseLoop total _ _)
  · simp only [unsent, ↓reduceDIte]
    exact Machine.Reachable.start _ _
termination_by total - sended
decreasing_by
  show total - (sended + min (total - sended) 512) < total - sended
  omega

theorem leads_cmdResponse (a : Adapter) (revBuf : RevBuf) :
    Leads a (usbtmcMsgCmdResponse a revBuf).adapter := by
  unfold usbtmcMsgCmdResponse
  simp only
  split
  · exact Machine.Reachable.start _ _
  · split
    · exact Machine.Reachable.start _ _
    · exact (leads_reponseRead a _).trans (leads_responseLoop _ _ _)

theorem leads_sinkRound {thread next : SinkThread} {reads later : List SinkRead} {accepted : Bool}
    {writes : List (List UInt8)}
    (moved : sinkRound thread reads accepted = .next writes next later) :
    Leads thread.adapter next.adapter := by
  unfold sinkRound at moved
  split at moved
  · cases moved
  · cases moved
  · simp only at moved
    split at moved
    · cases moved
    · unfold sinkDispatch at moved
      simp only at moved
      split at moved
      · unfold sinkCommand at moved
        simp only at moved
        split at moved
        · cases moved
        · cases moved
          simp only
          split
          · exact (Leads.call (.cmdWrite _ accepted) rfl).trans
              (Leads.call (.reponseWrite _ 0) rfl)
          · exact Machine.Reachable.start _ _
      · split at moved
        · cases moved
          exact leads_cmdResponse _ _
        · cases moved
          exact Machine.Reachable.start _ _

theorem leads_vxiStep {server after : VxiServer} {call : VxiCall} {exchange : VxiExchange}
    (moved : vxiStep server call = some (exchange, after)) :
    Leads server.adapter after.adapter := by
  cases call with
  | link call =>
      cases moved
      exact Machine.Reachable.start _ _
  | write argp accepted =>
      rw [vxiStep, deviceWrite_eq, Option.map_eq_some_iff] at moved
      obtain ⟨done, wrote, same⟩ := moved
      cases same
      rw [Option.ite_none_right_eq_some] at wrote
      obtain ⟨_, wrote⟩ := wrote
      split at wrote
      · cases wrote
        exact Leads.call (.cmdWrite argp.data accepted) rfl
      · cases wrote
        exact Machine.Reachable.start _ _
  | read argp =>
      cases moved
      unfold deviceRead
      simp only
      split
      · exact leads_reponseRead server.adapter 0
      · exact Machine.Reachable.start _ _

theorem leads_replies {server after : VxiServer} {req : SvcReq} {reply : Reply}
    (moved : replies svcRun server req = some (reply, after)) :
    Leads server.adapter after.adapter := by
  cases routed : req.call? with
  | none =>
      rw [Vxi11.svcRun_fronts.stays server req routed] at moved
      cases moved
      exact Machine.Reachable.start _ _
  | some call =>
      rw [Vxi11.svcRun_fronts.passes server req call routed, Option.map_eq_some_iff] at moved
      obtain ⟨done, answered, same⟩ := moved
      cases same
      exact leads_vxiStep answered

theorem step_leads {s after : Instrument} {input : Input} {output : Output}
    (moved : s.step input = some (output, after)) : Leads s.adapter after.adapter := by
  cases input with
  | transfer reads accepted =>
      unfold step at moved
      simp only at moved
      split at moved
      · rename_i writes thread round
        cases moved
        exact leads_sinkRound round
      · cases moved
  | request req =>
      obtain ⟨done, answered, same⟩ := Option.map_eq_some_iff.mp moved
      cases same
      exact leads_replies answered
  | cmdRead len =>
      obtain ⟨done, answered, same⟩ := Option.map_eq_some_iff.mp moved
      cases same
      exact Leads.call (.cmdRead len) answered
  | reponseWrite buf msgsrc =>
      cases moved
      exact Leads.call (.reponseWrite buf msgsrc) rfl

/-- Whatever the host, the clients and the application do, the adapter is in a
state that calls of its functions lead to. -/
theorem adapter_reachable (buf : RevBuf) (cmdBuf : CmdBuf) (cmdLen : Nat) (s : Instrument)
    (reached : Machine.Reachable step (boot buf cmdBuf cmdLen) s) : s.adapter.Reachable := by
  apply Machine.Reachable.invariant reached (P := fun s => s.adapter.Reachable)
  · exact Machine.Reachable.start _ _
  · intro before input output after holds moved
    exact Leads.trans holds (step_leads moved)

/-- The instrument after its start, with zeros on the stack. -/
def zeroedBoot : Instrument := boot (Vector.replicate usbBufsize 0) (Vector.replicate 100 0) 0

/-- After a first response of two bytes. -/
theorem adapter_reachable_two_bytes :
    ({ zeroedBoot with adapter := twoBytesWaiting } : Instrument).adapter.Reachable :=
  adapter_reachable _ _ _ _
    ((Machine.Reachable.start _ zeroedBoot).next (.reponseWrite (some [79, 75]) 0) rfl)

end Instrument

/-- What the instrument is for: commands on their way to the application, and
responses on their way to the host. -/
structure Queues where
  commands : List UInt8
  responses : List UInt8

/-- What a request writes to the instrument. -/
def Vxi11.SvcReq.written (req : SvcReq) : List UInt8 :=
  match req.call? with
  | some (.write argp _) => if argp.lid = upo3000Lid then argp.data else []
  | _ => []

/-- A packet as a host is to send them, any request at all, or a call of the
application. -/
inductive Event
  | usb (packet : SessionPacket) (accepted : Bool)
  | vxi (req : SvcReq)
  | read (len : Nat)
  | respond (bytes : List UInt8)

namespace Event

def input : Event → Instrument.Input
  | .usb packet accepted => .transfer [.data packet.bytes] accepted
  | .vxi req => .request req
  | .read len => .cmdRead len
  | .respond bytes => .reponseWrite (some bytes) 0

/-- What it adds to the commands. -/
def command : Event → List UInt8
  | .usb (.command transfer _ _) _ => transfer.payload
  | .usb (.request _ _ _ _) _ => []
  | .vxi req => req.written
  | .read _ => []
  | .respond _ => []

end Event

namespace Queues

def after (q : Queues) : Event → Queues
  | .usb (.command transfer _ _) _ =>
      ⟨q.commands ++ transfer.payload, q.responses ++ transfer.payload⟩
  | .usb (.request _ _ _ _) _ => ⟨q.commands, []⟩
  | .vxi req => ⟨q.commands ++ req.written, q.responses⟩
  | .read len => ⟨q.commands.drop len, q.responses⟩
  | .respond bytes => ⟨q.commands, q.responses ++ bytes⟩

/-- The rings have room, the host asks for enough, and a write fits the buffer on
the stack. -/
def Fits (q : Queues) : Event → Prop
  | .usb (.command transfer _ _) _ =>
      q.commands.length + transfer.payload.length ≤ 1023 ∧
        q.responses.length + transfer.payload.length ≤ 1023
  | .usb (.request header _ _ _) _ => q.responses.length ≤ header.transferSize.toNat
  | .vxi req => ¬ req.Overruns ∧ q.commands.length + req.written.length ≤ 1023
  | .read _ => True
  | .respond bytes => q.responses.length + bytes.length ≤ 1023

/-- How a client is answered. No response ever goes to one: a read brings no data. -/
def Replies (req : SvcReq) (reply : Reply) : Prop :=
  match req.call? with
  | none => reply = req.ownReply
  | some (.link call) => reply = req.replyTo (.link (linkExchange call))
  | some (.write argp _) =>
      reply = req.replyTo (.written ⟨if argp.lid = upo3000Lid then 0 else 4, argp.data.length⟩)
  | some (.read _) => ∃ error reason, reply = req.replyTo (.read ⟨error, reason, []⟩)

def Answers (q : Queues) : Event → Instrument.Output → Prop
  | .usb (.command _ _ _) _, output => output = .bulkIn []
  | .usb (.request header _ _ _) _, output =>
      ∃ writes, output = .bulkIn writes ∧ SessionPacket.Reply q.responses header writes
  | .vxi req, output => ∃ reply, output = .replied reply ∧ Replies req reply
  | .read len, output =>
      output = .returned (q.commands.take len).length (q.commands.take len)
  | .respond _, output => output = .returned 0 []

/-- All this as an account of the instrument. -/
def account : Account Queues Event Instrument.Output := ⟨after, Fits, Answers⟩

end Queues

/-- The rings of the adapter hold the queues. Of the statics of the server, all that
matters is that they hold no data. -/
structure Instrument.Holds (s : Instrument) (q : Queues) : Prop where
  ring : s.adapter.gScpiMsg.msgsrc = 0
  inside : s.adapter.InRange
  commands : s.adapter.rx.unread = q.commands
  responses : s.adapter.tx.unread = q.responses
  silent : s.dataLen = 0

namespace Instrument

theorem holds_write {a : Adapter} {commands bytes : List UInt8} {accepted : Bool}
    (inside : a.InRange) (holds : a.rx.unread = commands)
    (room : commands.length + bytes.length ≤ 1023) :
    (scpiMsgCmdWrite a bytes accepted).2.rx.unread = commands ++ bytes := by
  rw [scpiMsgCmdWrite_rx]
  exact ByteRing.unread_write inside.rx holds room

theorem step_of_round {s : Instrument} {reads : List SinkRead} {accepted : Bool}
    {writes : List (List UInt8)} {next : SinkThread}
    (moved : sinkRound s.sink reads accepted = .next writes next []) :
    s.step (.transfer reads accepted) = some (.bulkIn writes, s.withSink next) := by
  simp only [step, moved]

/-- A command from the host is on its way to the application, and, as a test, to
the host itself. -/
theorem step_command {s : Instrument} {q : Queues} (holds : s.Holds q)
    (transfer : CommandTransfer) (nulFree : 0 ∉ transfer.payload)
    (padded : transfer.payload.length % 4 ≠ 0) (accepted : Bool)
    (room : q.commands.length + transfer.payload.length ≤ 1023)
    (room' : q.responses.length + transfer.payload.length ≤ 1023) :
    ∃ after, s.step (.transfer [.data transfer.bytes] accepted) = some (.bulkIn [], after) ∧
      after.Holds ⟨q.commands ++ transfer.payload, q.responses ++ transfer.payload⟩ := by
  have padding : Align.padding transfer.payload.length ≠ 0 := fun none =>
    padded (Align.padding_eq_zero.mp none)
  obtain ⟨spare, some⟩ := Nat.exists_eq_succ_of_ne_zero padding
  obtain ⟨next, moved, adapter⟩ := sinkRound_transfer s.sink transfer [] accepted
    (List.replicate spare 0 ++ s.sink.buf.toList.drop transfer.bytes.length)
    (by rw [some, List.replicate_succ, List.cons_append])
  rw [CString.takeWhile_eq_self.mpr nulFree, scpiMsgReponseWrite_ring] at adapter
  refine ⟨s.withSink next, step_of_round moved, ?_, ?_, ?_, ?_, holds.silent⟩
  · show next.adapter.gScpiMsg.msgsrc = 0
    rw [adapter]
  · show next.adapter.InRange
    rw [adapter]
    refine ⟨?_, ByteRing.write_inRange _ _ ?_⟩
    · show (scpiMsgCmdWrite s.adapter transfer.payload accepted).2.rx.InRange
      rw [scpiMsgCmdWrite_rx]
      exact ByteRing.write_inRange _ _ holds.inside.rx
    · show (scpiMsgCmdWrite s.adapter transfer.payload accepted).2.tx.InRange
      rw [scpiMsgCmdWrite_tx]
      exact holds.inside.tx
  · show next.adapter.rx.unread = _
    rw [adapter]
    exact holds_write holds.inside holds.commands room
  · show next.adapter.tx.unread = _
    rw [adapter]
    show ((scpiMsgCmdWrite s.adapter transfer.payload accepted).2.tx.write _).2.unread = _
    rw [scpiMsgCmdWrite_tx]
    exact ByteRing.unread_write holds.inside.tx holds.responses room'

theorem responseLoop_rx (total sended : Nat) (a : Adapter) :
    (responseLoop total sended a).2.rx = a.rx := by
  rw [responseLoop]
  by_cases unsent : sended < total
  · simp only [unsent, ↓reduceDIte]
    rw [responseLoop_rx total _ _]
    exact scpiMsgReponseRead_rx a _
  · simp only [unsent, ↓reduceDIte]
termination_by total - sended
decreasing_by
  show total - (sended + min (total - sended) 512) < total - sended
  omega

/-- A response does not touch the commands. -/
theorem usbtmcMsgCmdResponse_rx (a : Adapter) (revBuf : RevBuf) :
    (usbtmcMsgCmdResponse a revBuf).adapter.rx = a.rx := by
  unfold usbtmcMsgCmdResponse
  simp only
  split
  · rfl
  · split
    · rfl
    · exact (responseLoop_rx _ _ _).trans (scpiMsgReponseRead_rx a _)

theorem sinkRound_request_rx {thread next : SinkThread} {request : UsbTmcBulkHeader}
    {accepted : Bool} {writes : List (List UInt8)} (isRequest : request.msgID = requestDevDepMsgIn)
    (moved : sinkRound thread [.data request.bytes] accepted = .next writes next []) :
    next.adapter.rx = thread.adapter.rx := by
  have nonempty : request.bytes ≠ [] := List.cons_ne_nil _ _
  obtain ⟨buf, content, dispatched⟩ := sinkRound_of_packet thread request.bytes []
    accepted nonempty (by show 12 ≤ 512; decide)
  have header := UsbTmcBulkHeader.ofBuf_of_bytes request buf _ content
  have notCommand : requestDevDepMsgIn ≠ devDepMsgOut := by decide
  rw [dispatched] at moved
  simp only [sinkDispatch, header, isRequest, notCommand, ↓reduceIte, sinkRequest,
    SinkRound.next.injEq] at moved
  rw [← moved.2.1]
  exact usbtmcMsgCmdResponse_rx _ _

/-- The host gets all responses that are waiting. -/
theorem step_ask {s : Instrument} {q : Queues} (holds : s.Holds q) (header : UsbTmcBulkHeader)
    (isRequest : header.msgID = requestDevDepMsgIn)
    (noTermchar : header.bmTransferAttributes &&& attribTermchar = 0)
    (sized : header.transferSize.toNat < 2 ^ 31) (accepted : Bool)
    (enough : q.responses.length ≤ header.transferSize.toNat) :
    ∃ writes after, s.step (.transfer [.data header.bytes] accepted) =
        some (.bulkIn writes, after) ∧
      SessionPacket.Reply q.responses header writes ∧ after.Holds ⟨q.commands, []⟩ := by
  obtain ⟨writes, next, moved, reply, pending⟩ := sinkRound_request s.sink q.responses header
    isRequest noTermchar sized [] accepted ⟨holds.ring, holds.inside.tx, holds.responses⟩ enough
  have kept : next.adapter.rx = s.adapter.rx := sinkRound_request_rx isRequest moved
  refine ⟨writes, s.withSink next, step_of_round moved, reply, pending.ring, ?_, ?_,
    pending.unread, holds.silent⟩
  · exact ⟨kept ▸ holds.inside.rx, pending.inside⟩
  · show next.adapter.rx.unread = _
    rw [kept]
    exact holds.commands

theorem short_of_not_overruns {req : SvcReq} {argp : DeviceWriteParms} {accepted : Bool}
    (routed : req.call? = some (.write argp accepted)) (fits : ¬ req.Overruns) :
    argp.data.length ≤ 100 := by
  unfold Vxi11.SvcReq.call? at routed
  split at routed
  · obtain ⟨got, _, same⟩ := Option.map_eq_some_iff.mp routed
    cases same
  · rename_i core eleven
    obtain ⟨got, decoded, same⟩ := Option.map_eq_some_iff.mp routed
    cases same
    by_contra long
    exact fits ⟨core, eleven, got.1, got.2, decoded, Nat.lt_of_not_le long⟩
  · obtain ⟨got, _, same⟩ := Option.map_eq_some_iff.mp routed
    cases same
  · obtain ⟨got, _, same⟩ := Option.map_eq_some_iff.mp routed
    cases same
  · cases routed

/-- What a call to the server does to the adapter, and what it is answered. -/
theorem step_call {s : Instrument} {q : Queues} (holds : s.Holds q) {req : SvcReq}
    {call : VxiCall} (routed : req.call? = some call) (fits : ¬ req.Overruns)
    (room : q.commands.length + req.written.length ≤ 1023) :
    ∃ exchange after, vxiStep s.server call = some (exchange, after) ∧
      Queues.Replies req (req.replyTo exchange) ∧
      (s.withServer after).Holds ⟨q.commands ++ req.written, q.responses⟩ := by
  have untouched (none : req.written = []) : s.Holds ⟨q.commands ++ req.written, q.responses⟩ := by
    rw [none, List.append_nil]
    exact holds
  cases call with
  | link call =>
      refine ⟨_, s.server, rfl, ?_, untouched ?_⟩
      · simp only [Queues.Replies, routed]
      · simp only [Vxi11.SvcReq.written, routed]
  | write argp accepted =>
      have short := short_of_not_overruns routed fits
      rw [vxiStep, deviceWrite_eq, if_pos short]
      by_cases link : argp.lid = upo3000Lid
      · have written : req.written = argp.data := by
          simp only [Vxi11.SvcReq.written, routed, link, ↓reduceIte]
        rw [written] at room ⊢
        rw [if_pos link]
        refine ⟨_, _, rfl, ?_, ?_⟩
        · simp only [Queues.Replies, routed, link, ↓reduceIte]
        · refine ⟨?_, ?_, holds_write holds.inside holds.commands room, ?_, holds.silent⟩
          · show (scpiMsgCmdWrite s.adapter argp.data accepted).2.gScpiMsg.msgsrc = 0
            rw [scpiMsgCmdWrite_gScpiMsg]
            exact holds.ring
          · exact adapterStep_inRange s.adapter (.cmdWrite argp.data accepted) _ _ holds.inside rfl
          · show (scpiMsgCmdWrite s.adapter argp.data accepted).2.tx.unread = _
            rw [scpiMsgCmdWrite_tx]
            exact holds.responses
      · rw [if_neg link]
        refine ⟨_, s.server, rfl, ?_, untouched ?_⟩
        · simp only [Queues.Replies, routed, link, ↓reduceIte]
        · simp only [Vxi11.SvcReq.written, routed, link, ↓reduceIte]
  | read argp =>
      have none : req.written = [] := by simp only [Vxi11.SvcReq.written, routed]
      refine ⟨_, _, rfl, ?_, ?_⟩
      · simp only [Queues.Replies, routed]
        have data : (deviceRead s.server argp).1.data = [] := by
          unfold deviceRead
          simp only
          split
          · exact List.take_zero
          · show s.tmpBuf.toList.take s.dataLen = []
            rw [holds.silent, List.take_zero]
        refine ⟨(deviceRead s.server argp).1.error, (deviceRead s.server argp).1.reason, ?_⟩
        rw [← data]
      · rw [none, List.append_nil]
        by_cases link : argp.lid = upo3000Lid
        · have same : (deviceRead s.server argp).2.adapter = s.adapter := by
            simp only [deviceRead, link, ↓reduceIte]
            show (scpiMsgReponseRead s.adapter 0).2 = s.adapter
            exact scpiMsgReponseRead_zero s.adapter
          have silent : (deviceRead s.server argp).2.dataLen = 0 := by
            simp only [deviceRead, link, ↓reduceIte]
          refine ⟨?_, ?_, ?_, ?_, silent⟩
          · exact (congrArg (·.gScpiMsg.msgsrc) same).trans holds.ring
          · show (deviceRead s.server argp).2.adapter.InRange
            rw [same]
            exact holds.inside
          · exact (congrArg (·.rx.unread) same).trans holds.commands
          · exact (congrArg (·.tx.unread) same).trans holds.responses
        · have same : (deviceRead s.server argp).2 = s.server := by
            simp only [deviceRead, link, ↓reduceIte]
          rw [same]
          exact holds

/-- Any request is answered, and adds to the commands what it writes. -/
theorem step_request {s : Instrument} {q : Queues} (holds : s.Holds q) {req : SvcReq}
    (fits : ¬ req.Overruns) (room : q.commands.length + req.written.length ≤ 1023) :
    ∃ reply after, s.step (.request req) = some (.replied reply, after) ∧
      Queues.Replies req reply ∧ after.Holds ⟨q.commands ++ req.written, q.responses⟩ := by
  cases routed : req.call? with
  | none =>
      have none : req.written = [] := by simp only [Vxi11.SvcReq.written, routed]
      refine ⟨req.ownReply, s, ?_, ?_, ?_⟩
      · rw [step, Vxi11.svcRun_fronts.stays s.server req routed]
        rfl
      · simp only [Queues.Replies, routed]
      · rw [none, List.append_nil]
        exact holds
  | some call =>
      obtain ⟨exchange, after, answered, replies, later⟩ := step_call holds routed fits room
      refine ⟨req.replyTo exchange, s.withServer after, ?_, replies, later⟩
      rw [step, Vxi11.svcRun_fronts.passes s.server req call routed, answered]
      rfl

theorem step_read {s after : Instrument} {q : Queues} {output : Output} (holds : s.Holds q)
    {len : Nat} (moved : s.step (.cmdRead len) = some (output, after)) :
    output = .returned (q.commands.take len).length (q.commands.take len) ∧
      after.Holds ⟨q.commands.drop len, q.responses⟩ := by
  obtain ⟨done, answered, same⟩ := Option.map_eq_some_iff.mp moved
  cases same
  obtain ⟨sem, msg, rest, _, _, reply, last⟩ := scpiMsgCmdRead_eq_some.mp answered
  have count := (ByteRing.read_holds s.adapter.rx _ len holds.inside.rx.holds).1
  have bytes := ByteRing.read_bytes s.adapter.rx len holds.inside.rx
  have left := ByteRing.read_unread s.adapter.rx len holds.inside.rx
  rw [holds.commands] at bytes left
  have size : (s.adapter.rx.read len).1 = (q.commands.take len).length := by
    rw [count, List.length_take]
    show min len s.adapter.rx.unread.length = _
    rw [holds.commands]
  refine ⟨?_, ?_⟩
  · rw [reply, bytes, size]
  · show Holds { s with adapter := done.2 } _
    rw [last]
    exact ⟨holds.ring, ⟨ByteRing.read_inRange _ _ holds.inside.rx, holds.inside.tx⟩, left,
      holds.responses, holds.silent⟩

theorem step_respond {s : Instrument} {q : Queues} (holds : s.Holds q) {bytes : List UInt8}
    (room : q.responses.length + bytes.length ≤ 1023) :
    ∃ after, s.step (.reponseWrite (some bytes) 0) = some (.returned 0 [], after) ∧
      after.Holds ⟨q.commands, q.responses ++ bytes⟩ :=
  ⟨_, rfl, rfl, ⟨holds.inside.rx, ByteRing.write_inRange _ _ holds.inside.tx⟩, holds.commands,
    ByteRing.unread_write holds.inside.tx holds.responses room, holds.silent⟩

/-- One step of the instrument is one of the queues. Only a read may have to wait,
and does so when no command was announced. -/
theorem step_refines {s : Instrument} {q : Queues} (holds : s.Holds q) {event : Event}
    (fits : q.Fits event) :
    (∀ output after, s.step event.input = some (output, after) →
      q.Answers event output ∧ after.Holds (q.after event)) ∧
    (s.step event.input = none ↔
      (∃ len, event = .read len) ∧ (s.adapter.scpiSem = 0 ∨ s.adapter.msgQueue = [])) := by
  have goes {output : Output} {after : Instrument} (answers : q.Answers event output)
      (later : after.Holds (q.after event)) (moved : s.step event.input = some (output, after))
      (other : ∀ len, event ≠ .read len) :
      (∀ output after, s.step event.input = some (output, after) →
        q.Answers event output ∧ after.Holds (q.after event)) ∧
      (s.step event.input = none ↔
        (∃ len, event = .read len) ∧ (s.adapter.scpiSem = 0 ∨ s.adapter.msgQueue = [])) := by
    rw [moved]
    refine ⟨?_, iff_of_false (Option.some_ne_none _) fun both => both.1.elim other⟩
    rintro output' after' same
    cases same
    exact ⟨answers, later⟩
  cases event with
  | usb packet accepted =>
      cases packet with
      | command transfer nulFree padded =>
          obtain ⟨after, moved, later⟩ :=
            step_command holds transfer nulFree padded accepted fits.1 fits.2
          exact goes rfl later moved nofun
      | request header isRequest noTermchar sized =>
          obtain ⟨writes, after, moved, reply, later⟩ :=
            step_ask holds header isRequest noTermchar sized accepted fits
          exact goes ⟨writes, rfl, reply⟩ later moved nofun
  | vxi req =>
      obtain ⟨reply, after, moved, replies, later⟩ := step_request holds fits.1 fits.2
      exact goes ⟨reply, rfl, replies⟩ later moved nofun
  | read len =>
      refine ⟨fun output after moved => step_read holds moved, ?_⟩
      rw [and_iff_right ⟨len, rfl⟩]
      show Option.map _ (scpiMsgCmdRead s.adapter len) = none ↔ _
      rw [Option.map_eq_none_iff]
      exact scpiMsgCmdRead_eq_none_iff
  | respond bytes =>
      obtain ⟨after, moved, later⟩ := step_respond holds fits
      exact goes rfl later moved nofun

theorem instrument_kept : Queues.account.Kept step Event.input Holds :=
  fun _ _ _ output after holds fits moved => (step_refines holds fits).1 output after moved

/-- Every run of the instrument is a run of the two queues. -/
theorem instrument_refines (s last : Instrument) (q : Queues) (holds : s.Holds q)
    (events : List Event) (fits : Queues.account.FitsAll q events) (outputs : List Output)
    (ran : exec step s (events.map Event.input) = some (outputs, last)) :
    Queues.account.AnswersAll q events outputs ∧ last.Holds (events.foldl Queues.after q) :=
  instrument_kept.exec holds fits ran

theorem boot_holds (buf : RevBuf) (cmdBuf : CmdBuf) (cmdLen : Nat) :
    (boot buf cmdBuf cmdLen).Holds ⟨[], []⟩ :=
  ⟨rfl, Adapter.init_inRange, rfl, rfl, rfl⟩

theorem fiveBytes_padded : fiveBytes.payload.length % 4 ≠ 0 := by decide

/-- A command by either transport, one after the other, and a read by the application. -/
def bothTransports : List Event :=
  [.usb (.command fiveBytes fiveBytes_nulFree fiveBytes_padded) true,
    .vxi ⟨.core, 11, [0, 0, 11, 184, 0, 0, 0, 0, 0, 0, 0, 0, 0, 0, 0, 8, 0, 0, 0, 3, 42, 82, 83, 0],
      ⟨true, fun _ => true⟩, true⟩,
    .read 100]

theorem bothTransports_fits : Queues.account.FitsAll ⟨[], []⟩ bothTransports := by
  refine ⟨⟨by decide, by decide⟩, ⟨?_, by decide⟩, trivial, trivial⟩
  rintro ⟨_, _, argp, rest, decoded, long⟩
  cases decoded
  exact absurd long (by decide)

theorem instrument_refines_both_transports :
    ∃ outputs last, exec step zeroedBoot (bothTransports.map Event.input) = some (outputs, last) ∧
      Queues.account.AnswersAll ⟨[], []⟩ bothTransports outputs ∧
      last.Holds (bothTransports.foldl Queues.after ⟨[], []⟩) :=
  ⟨_, _, rfl, instrument_refines zeroedBoot _ _ (boot_holds _ _ _) bothTransports
    bothTransports_fits _ rfl⟩

/-- What the application gets. -/
def Output.taken : Output → List UInt8
  | .bulkIn _ => []
  | .replied _ => []
  | .returned _ bytes => bytes

theorem answers_conserve {q : Queues} {event : Event} {output : Output}
    (answers : q.Answers event output) :
    output.taken ++ (q.after event).commands = q.commands ++ event.command := by
  cases event with
  | usb packet accepted =>
      cases packet with
      | command transfer nulFree padded =>
          cases answers
          rfl
      | request header isRequest noTermchar sized =>
          obtain ⟨writes, rfl, _⟩ := answers
          exact (List.append_nil _).symm
  | vxi req =>
      obtain ⟨reply, rfl, _⟩ := answers
      rfl
  | read len =>
      cases answers
      exact (List.take_append_drop len q.commands).trans (List.append_nil _).symm
  | respond bytes =>
      cases answers
      exact (List.append_nil _).symm

/-- By both transports together, the application gets the commands byte for byte in
the order in which they came in. -/
theorem commands_in_order (s last : Instrument) (q : Queues) (holds : s.Holds q)
    (events : List Event) (fits : Queues.account.FitsAll q events) (outputs : List Output)
    (ran : exec step s (events.map Event.input) = some (outputs, last)) :
    outputs.flatMap Output.taken ++ last.adapter.rx.unread =
      q.commands ++ events.flatMap Event.command := by
  obtain ⟨answers, ends⟩ := instrument_kept.exec holds fits ran
  rw [ends.commands]
  exact answers.balance fun _ _ _ => answers_conserve

theorem commands_in_order_both_transports :
    ∃ outputs last, exec step zeroedBoot (bothTransports.map Event.input) = some (outputs, last) ∧
      outputs.flatMap Output.taken ++ last.adapter.rx.unread =
        [65, 66, 67, 68, 69] ++ [42, 82, 83] :=
  ⟨_, _, rfl, commands_in_order zeroedBoot _ _ (boot_holds _ _ _) bothTransports
    bothTransports_fits _ rfl⟩

end Instrument

/-- What a host takes from the transfer that answers its request: as many bytes behind
the header as the header says. -/
def responseData : List UInt8 → List UInt8
  | _ :: _ :: _ :: _ :: s0 :: s1 :: s2 :: s3 :: _ :: _ :: _ :: _ :: rest =>
      rest.take (le32 s0 s1 s2 s3).toNat
  | _ => []

/-- What the host gets. -/
def Instrument.Output.received : Instrument.Output → List UInt8
  | .bulkIn writes => responseData writes.flatten
  | .replied _ => []
  | .returned _ _ => []

/-- What an event adds to the responses. -/
def Event.response : Event → List UInt8
  | .usb (.command transfer _ _) _ => transfer.payload
  | .usb (.request _ _ _ _) _ => []
  | .vxi _ => []
  | .read _ => []
  | .respond bytes => bytes

namespace Instrument

/-- A host that reads by the header gets what was pending, and none of the padding. -/
theorem responseData_of_reply {pending : List UInt8} {request : UsbTmcBulkHeader}
    {writes : List (List UInt8)} (reply : SessionPacket.Reply pending request writes) :
    responseData writes.flatten = pending := by
  by_cases nothing : pending = []
  · rw [SessionPacket.Reply, if_pos nothing] at reply
    rw [reply, nothing]
    rfl
  · rw [SessionPacket.Reply, if_neg nothing] at reply
    obtain ⟨header, padding, content, _, sized, _⟩ := reply
    rw [content]
    show (pending ++ padding).take (le32 _ _ _ _).toNat = pending
    rw [le32_le32Byte, sized, List.take_left]

theorem answers_conserve_responses {q : Queues} {event : Event} {output : Output}
    (answers : q.Answers event output) :
    output.received ++ (q.after event).responses = q.responses ++ event.response := by
  cases event with
  | usb packet accepted =>
      cases packet with
      | command transfer nulFree padded =>
          cases answers
          rfl
      | request header isRequest noTermchar sized =>
          obtain ⟨writes, rfl, reply⟩ := answers
          exact congrArg (· ++ []) (responseData_of_reply reply)
  | vxi req =>
      obtain ⟨reply, rfl, _⟩ := answers
      exact (List.append_nil _).symm
  | read len =>
      cases answers
      exact (List.append_nil _).symm
  | respond bytes =>
      cases answers
      rfl

/-- The host gets the responses byte for byte in the order in which they were written,
whatever the network clients do. -/
theorem responses_in_order (s last : Instrument) (q : Queues) (holds : s.Holds q)
    (events : List Event) (fits : Queues.account.FitsAll q events) (outputs : List Output)
    (ran : exec step s (events.map Event.input) = some (outputs, last)) :
    outputs.flatMap Output.received ++ last.adapter.tx.unread =
      q.responses ++ events.flatMap Event.response := by
  obtain ⟨answers, ends⟩ := instrument_kept.exec holds fits ran
  rw [ends.responses]
  exact answers.balance fun _ _ _ => answers_conserve_responses

theorem requestFor_isRequest : (requestFor 64).msgID = requestDevDepMsgIn := rfl

theorem requestFor_noTermchar :
    (requestFor 64).bmTransferAttributes &&& attribTermchar = 0 := rfl

theorem requestFor_sized : (requestFor 64).transferSize.toNat < 2 ^ 31 := by decide

/-- A command, two responses, and a request for them. -/
def askedFor : List Event :=
  [.usb (.command fiveBytes fiveBytes_nulFree fiveBytes_padded) true, .respond [79, 75],
    .usb (.request (requestFor 64) requestFor_isRequest requestFor_noTermchar requestFor_sized)
      true]

theorem askedFor_fits : Queues.account.FitsAll ⟨[], []⟩ askedFor :=
  ⟨⟨by decide, by decide⟩, Nat.le_of_ble_eq_true rfl, Nat.le_of_ble_eq_true rfl, trivial⟩

theorem responses_in_order_asked_for :
    ∃ outputs last, exec step zeroedBoot (askedFor.map Event.input) = some (outputs, last) ∧
      outputs.flatMap Output.received ++ last.adapter.tx.unread =
        [65, 66, 67, 68, 69] ++ [79, 75] :=
  ⟨_, _, rfl, responses_in_order zeroedBoot _ _ (boot_holds _ _ _) askedFor askedFor_fits _ rfl⟩

end Instrument

end ScpiVxiTmc
