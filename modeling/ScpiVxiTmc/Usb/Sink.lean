import ScpiVxiTmc.Usb.CmdRead
import ScpiVxiTmc.Usb.Response

set_option autoImplicit false

namespace ScpiVxiTmc

/-- The locals of `simple_sink_thread` that live from one round to the next, and
the globals it works on. -/
structure SinkThread where
  buf : RevBuf
  cmdBuf : CmdBuf
  cmdLen : Nat
  adapter : Adapter

/-- How a round of the loop ends: it does not, it leaves the loop, or it goes on
to the next round with the reads that are left. -/
inductive SinkRound
  | stuck (why : NoReturn)
  | closed
  | next (writes : List (List UInt8)) (thread : SinkThread) (later : List SinkRead)

/-- The case `DEV_DEP_MSG_OUT`. A command goes to the SCPI thread and, as a test,
straight into the response ring. -/
def sinkCommand (thread : SinkThread) (rcvLen : Nat) (reads : List SinkRead) (accepted : Bool) :
    SinkRound :=
  let call := usbtmcMsgCmdRead thread.buf rcvLen thread.cmdBuf thread.cmdLen reads
  match call.outcome with
  | .error why => .stuck why
  | .ok done =>
      let command := done.cmdBuf.toList.take done.cmdLen
      let adapter :=
        if done.retValue = 0 then
          (scpiMsgReponseWrite (scpiMsgCmdWrite thread.adapter command accepted).2
            (some command) 0).2
        else thread.adapter
      .next [] ⟨done.revBuf, done.cmdBuf, done.cmdLen, adapter⟩ call.later

/-- The case `REQUEST_DEV_DEP_MSG_IN` -/
def sinkRequest (thread : SinkThread) (reads : List SinkRead) : SinkRound :=
  let done := usbtmcMsgCmdResponse thread.adapter thread.buf
  .next done.writes { thread with buf := done.revBuf, adapter := done.adapter } reads

/-- The rest of a round, after the first read stored `got` in `buf`. A packet
shorter than a header is reported and then handled like any other. -/
def sinkDispatch (thread : SinkThread) (got : Nat) (reads : List SinkRead) (accepted : Bool) :
    SinkRound :=
  let msgID := (UsbTmcBulkHeader.ofBuf thread.buf).msgID
  if msgID = devDepMsgOut then sinkCommand thread got reads accepted
  else if msgID = requestDevDepMsgIn then sinkRequest thread reads
  else .next [] thread reads

/-- One round of the loop in `simple_sink_thread`, with the kernel's answer to
the `msgsnd` that it may make. -/
def sinkRound (thread : SinkThread) (reads : List SinkRead) (accepted : Bool) : SinkRound :=
  match reads with
  | [] => .stuck .blocked
  | .failed :: _ => .closed
  | .data bytes :: later =>
      let got := bytes.take usbBufsize
      if got = [] then .closed
      else
        let buf := Buffer.store thread.buf 0 got (by
          rw [Nat.zero_add]
          exact List.length_take_le _ _)
        sinkDispatch { thread with buf := buf } got.length later accepted

/-- How the loop stands after some rounds. -/
inductive SinkEnd
  | stuck (why : NoReturn)
  | closed
  | running (thread : SinkThread) (later : List SinkRead)

/-- As many rounds as there are answers, with the writes of each. -/
def sinkLoop (thread : SinkThread) (reads : List SinkRead) :
    List Bool → List (List (List UInt8)) × SinkEnd
  | [] => ([], .running thread reads)
  | accepted :: answers =>
      match sinkRound thread reads accepted with
      | .stuck why => ([], .stuck why)
      | .closed => ([], .closed)
      | .next writes next later =>
          let rest := sinkLoop next later answers
          (writes :: rest.1, rest.2)

/-- A packet of a session, each with what makes it well formed. -/
inductive SessionPacket
  | command (transfer : CommandTransfer) (nulFree : 0 ∉ transfer.payload)
      (padded : transfer.payload.length % 4 ≠ 0)
  | request (header : UsbTmcBulkHeader) (isRequest : header.msgID = requestDevDepMsgIn)
      (noTermchar : header.bmTransferAttributes &&& attribTermchar = 0)
      (sized : header.transferSize.toNat < 2 ^ 31)

namespace SessionPacket

def bytes : SessionPacket → List UInt8
  | .command transfer _ _ => transfer.bytes
  | .request header _ _ _ => header.bytes

/-- The payloads not yet asked for stay few enough for the ring, and for each
request's capacity. -/
def Fits : List UInt8 → List SessionPacket → Prop
  | _, [] => True
  | pending, .command transfer _ _ :: rest =>
      pending.length + transfer.payload.length ≤ 1023 ∧ Fits (pending ++ transfer.payload) rest
  | pending, .request header _ _ _ :: rest =>
      pending.length ≤ header.transferSize.toNat ∧ Fits [] rest

/-- What a request for `pending` bytes makes the device send. -/
def Reply (pending : List UInt8) (request : UsbTmcBulkHeader) (writes : List (List UInt8)) : Prop :=
  if pending = [] then writes = []
  else
    ∃ (header : UsbTmcBulkHeader) (padding : List UInt8),
      writes.flatten = header.bytes ++ (pending ++ padding) ∧
        padding.length = Align.padding pending.length ∧
        header.transferSize.toNat = pending.length ∧
        header.bTag = request.bTag ∧
        header.bmTransferAttributes &&& attribEom ≠ 0

/-- The writes made for each packet of a session that finds `pending`. -/
inductive Answered : List UInt8 → List SessionPacket → List (List (List UInt8)) → Prop
  | finished (pending : List UInt8) : Answered pending [] []
  | command {pending : List UInt8} {transfer : CommandTransfer} {nulFree : 0 ∉ transfer.payload}
      {padded : transfer.payload.length % 4 ≠ 0} {rest : List SessionPacket}
      {others : List (List (List UInt8))}
      (later : Answered (pending ++ transfer.payload) rest others) :
      Answered pending (.command transfer nulFree padded :: rest) ([] :: others)
  | request {pending : List UInt8} {header : UsbTmcBulkHeader}
      {isRequest : header.msgID = requestDevDepMsgIn}
      {noTermchar : header.bmTransferAttributes &&& attribTermchar = 0}
      {sized : header.transferSize.toNat < 2 ^ 31} {rest : List SessionPacket}
      {writes : List (List UInt8)} {others : List (List (List UInt8))}
      (reply : Reply pending header writes) (later : Answered [] rest others) :
      Answered pending (.request header isRequest noTermchar sized :: rest) (writes :: others)

end SessionPacket

/-- The response ring of the thread's adapter holds `pending`. Nothing is said
of its buffers: every packet leaves something in them. -/
structure SinkThread.Pending (thread : SinkThread) (pending : List UInt8) : Prop where
  ring : thread.adapter.gScpiMsg.msgsrc = 0
  inside : thread.adapter.tx.InRange
  unread : thread.adapter.tx.unread = pending

/-- A packet that one read delivers is dispatched from the front of the buffer. -/
theorem sinkRound_of_packet (thread : SinkThread) (packet : List UInt8) (later : List SinkRead)
    (accepted : Bool) (nonempty : packet ≠ []) (fits : packet.length ≤ usbBufsize) :
    ∃ buf, buf.toList = packet ++ thread.buf.toList.drop packet.length ∧
      sinkRound thread (.data packet :: later) accepted =
        sinkDispatch { thread with buf := buf } packet.length later accepted := by
  have whole : packet.take usbBufsize = packet := List.take_of_length_le fits
  have stored : 0 + packet.length ≤ usbBufsize := by omega
  refine ⟨Buffer.store thread.buf 0 packet stored,
    Buffer.store_front_toList thread.buf packet stored, ?_⟩
  simp only [sinkRound, whole, nonempty, ↓reduceIte]

/-- A command that a zero byte follows is queued as a command and as a response,
up to the first zero byte in it. -/
theorem sinkRound_transfer (thread : SinkThread) (transfer : CommandTransfer)
    (later : List SinkRead) (accepted : Bool) (rest : List UInt8)
    (ended : List.replicate (Align.padding transfer.payload.length) 0 ++
      thread.buf.toList.drop transfer.bytes.length = 0 :: rest) :
    ∃ next, sinkRound thread (.data transfer.bytes :: later) accepted = .next [] next later ∧
      next.adapter =
        (scpiMsgReponseWrite
          (scpiMsgCmdWrite thread.adapter (transfer.payload.takeWhile (· ≠ 0)) accepted).2
          (some (transfer.payload.takeWhile (· ≠ 0))) 0).2 := by
  have nonempty : transfer.bytes ≠ [] := List.cons_ne_nil _ _
  obtain ⟨buf, content, dispatched⟩ := sinkRound_of_packet thread transfer.bytes later
    accepted nonempty (Nat.le_of_lt transfer.bytes_length_lt)
  have text : buf.toList = transfer.header.bytes ++ (transfer.payload ++ 0 :: rest) := by
    rw [content, ← ended, CommandTransfer.bytes]
    simp only [List.append_assoc]
  obtain ⟨copied, returned, command⟩ := usbtmcMsgCmdRead_whole transfer buf thread.cmdBuf
    thread.cmdLen later rest text
  have header := UsbTmcBulkHeader.ofBuf_of_bytes transfer.header buf _ text
  rw [dispatched]
  simp only [sinkDispatch, header, transfer.isCommand, ↓reduceIte, sinkCommand, returned, command]
  exact ⟨_, rfl, rfl⟩

/-- A command packet sends nothing and adds its payload to the response ring. -/
theorem sinkRound_command (thread : SinkThread) (pending : List UInt8)
    (transfer : CommandTransfer) (nulFree : 0 ∉ transfer.payload)
    (padded : transfer.payload.length % 4 ≠ 0) (later : List SinkRead) (accepted : Bool)
    (holds : thread.Pending pending) (room : pending.length + transfer.payload.length ≤ 1023) :
    ∃ next, sinkRound thread (.data transfer.bytes :: later) accepted = .next [] next later ∧
      next.Pending (pending ++ transfer.payload) := by
  have padding : Align.padding transfer.payload.length ≠ 0 := fun none =>
    padded (Align.padding_eq_zero.mp none)
  obtain ⟨spare, some⟩ := Nat.exists_eq_succ_of_ne_zero padding
  obtain ⟨next, moved, after⟩ := sinkRound_transfer thread transfer later accepted
    (List.replicate spare 0 ++ thread.buf.toList.drop transfer.bytes.length)
    (by rw [some, List.replicate_succ, List.cons_append])
  rw [CString.takeWhile_eq_self.mpr nulFree, scpiMsgReponseWrite_ring] at after
  have inside := holds.inside
  have fits : thread.adapter.tx.avail + transfer.payload.length < scpiBufMax := by
    rw [← ByteRing.unread_length, holds.unread]
    exact Nat.lt_succ_of_le room
  have written : next.adapter.tx = (thread.adapter.tx.write transfer.payload).2 := by
    rw [after, ← scpiMsgCmdWrite_tx thread.adapter transfer.payload accepted]
  refine ⟨next, moved, ?_, ?_, ?_⟩
  · rw [after]
  · rw [written]
    exact ByteRing.write_inRange _ _ inside
  · rw [written, (ByteRing.write_unread_eq_append_iff _ _ inside).mpr fits, holds.unread]

/-- A request is answered with everything pending. -/
theorem sinkRound_request (thread : SinkThread) (pending : List UInt8)
    (request : UsbTmcBulkHeader) (isRequest : request.msgID = requestDevDepMsgIn)
    (noTermchar : request.bmTransferAttributes &&& attribTermchar = 0)
    (int : request.transferSize.toNat < 2 ^ 31) (later : List SinkRead) (accepted : Bool)
    (holds : thread.Pending pending) (enough : pending.length ≤ request.transferSize.toNat) :
    ∃ writes next, sinkRound thread (.data request.bytes :: later) accepted =
        .next writes next later ∧
      SessionPacket.Reply pending request writes ∧ next.Pending [] := by
  have nonempty : request.bytes ≠ [] := List.cons_ne_nil _ _
  obtain ⟨buf, content, dispatched⟩ := sinkRound_of_packet thread request.bytes later
    accepted nonempty (by show 12 ≤ 512; decide)
  have header := UsbTmcBulkHeader.ofBuf_of_bytes request buf _ content
  have notCommand : requestDevDepMsgIn ≠ devDepMsgOut := by decide
  have inside := holds.inside
  rw [dispatched]
  simp only [sinkDispatch, header, isRequest, notCommand, ↓reduceIte, sinkRequest]
  refine ⟨_, _, rfl, ?_⟩
  by_cases nothing : pending = []
  · have empty : thread.adapter.tx.unread.length = 0 := by
      rw [holds.unread, nothing, List.length_nil]
    obtain ⟨_, silent, same⟩ :=
      usbtmcMsgCmdResponse_refused thread.adapter buf holds.ring (Or.inr empty)
    simp only [SessionPacket.Reply, nothing, ↓reduceIte, silent, same, true_and]
    exact ⟨holds.ring, inside, holds.unread.trans nothing⟩
  · have sent := usbtmcMsgCmdResponse_sent thread.adapter buf holds.ring inside
      (by rw [header]; exact noTermchar) (by rw [holds.unread]; exact nothing)
    rw [header, holds.unread] at sent
    obtain ⟨padding, size, carry⟩ := sent.stream
    obtain ⟨drained, last, lastInside, emptied⟩ := sent.drained
    have small : pending.length < scpiBufMax := by
      rw [← holds.unread, ByteRing.unread_length]
      exact inside.avail_lt
    rw [holds.unread] at size carry
    refine ⟨?_, ?_⟩
    · rw [SessionPacket.Reply, if_neg nothing]
      exact ⟨_, padding, carry.content, size,
        (responseHeader_transferSize_iff request pending.length small).mpr ⟨enough, int⟩, rfl,
        (by decide : attribEom &&& attribEom ≠ 0)⟩
    · rw [last]
      exact ⟨holds.ring, lastInside, emptied⟩

theorem sinkLoop_next {thread next : SinkThread} {reads later : List SinkRead} {accepted : Bool}
    {writes : List (List UInt8)} (moved : sinkRound thread reads accepted = .next writes next later)
    (answers : List Bool) :
    (sinkLoop thread reads (accepted :: answers)).1 =
      writes :: (sinkLoop next later answers).1 := by
  simp only [sinkLoop, moved]

/-- By induction on the packets: what the ring holds between two rounds is what
the commands since the last answer brought. -/
theorem sinkLoop_answers (thread : SinkThread) (pending : List UInt8)
    (sent : List (SessionPacket × Bool)) (holds : thread.Pending pending)
    (fits : SessionPacket.Fits pending (sent.map Prod.fst)) :
    SessionPacket.Answered pending (sent.map Prod.fst)
      (sinkLoop thread (sent.map fun packet => .data packet.1.bytes) (sent.map Prod.snd)).1 := by
  induction sent generalizing thread pending with
  | nil => exact .finished pending
  | cons first rest ih =>
      obtain ⟨packet, accepted⟩ := first
      cases packet with
      | command transfer nulFree padded =>
          obtain ⟨next, moved, nextHolds⟩ := sinkRound_command thread pending transfer nulFree
            padded (rest.map fun packet => .data packet.1.bytes) accepted holds fits.1
          change SessionPacket.Answered pending _
            (sinkLoop thread (.data transfer.bytes :: _) (accepted :: _)).1
          rw [sinkLoop_next moved]
          exact .command (ih next _ nextHolds fits.2)
      | request header isRequest noTermchar sized =>
          obtain ⟨writes, next, moved, reply, nextHolds⟩ := sinkRound_request thread pending header
            isRequest noTermchar sized (rest.map fun packet => .data packet.1.bytes) accepted holds
            fits.1
          change SessionPacket.Answered pending _
            (sinkLoop thread (.data header.bytes :: _) (accepted :: _)).1
          rw [sinkLoop_next moved]
          exact .request reply (ih next _ nextHolds fits.2)

/-- A session from the zeroed adapter loops every command back. -/
theorem session_loops_back (buf : RevBuf) (cmdBuf : CmdBuf) (cmdLen : Nat)
    (sent : List (SessionPacket × Bool)) (fits : SessionPacket.Fits [] (sent.map Prod.fst)) :
    SessionPacket.Answered [] (sent.map Prod.fst)
      (sinkLoop ⟨buf, cmdBuf, cmdLen, .init⟩ (sent.map fun packet => .data packet.1.bytes)
        (sent.map Prod.snd)).1 :=
  sinkLoop_answers _ [] sent ⟨rfl, Adapter.init_inRange.tx, rfl⟩ fits

/-- A command, a request for its response and a request that finds nothing. -/
def shortSession : List (SessionPacket × Bool) :=
  [(.command fiveBytes fiveBytes_nulFree (by decide), true),
    (.request (requestFor 64) rfl rfl (by decide), true),
    (.request (requestFor 64) rfl rfl (by decide), false)]

theorem shortSession_loops_back :
    SessionPacket.Answered [] (shortSession.map Prod.fst)
      (sinkLoop ⟨Vector.replicate usbBufsize 7, Vector.replicate 100 0, 0, .init⟩
        (shortSession.map fun packet => .data packet.1.bytes) (shortSession.map Prod.snd)).1 :=
  session_loops_back _ _ _ shortSession
    ⟨by decide, by decide, by decide, trivial⟩

end ScpiVxiTmc
