import ScpiVxiTmc.Usb.Sink
import ScpiVxiTmc.Usb.SteppedResponse

set_option autoImplicit false

/- A round of the sink thread that `stop_io` cuts short. The thread is cancelled
where it prints, reads, writes or sends a message, and never inside a ring. -/
namespace ScpiVxiTmc

open Machine

/-- What a cancelled thread got done of its round: some reads and nothing that anyone
else sees, a command that is in the ring and not announced, or some steps of a
response, with so many bytes of its last packet printed. -/
inductive Cut
  | idle (reads : List SinkRead)
  | command (bytes : List UInt8) (later : List SinkRead)
  | request (bytes : List UInt8) (steps printed : Nat)

/-- The buffer after the first read of a round that goes on. -/
def SinkThread.received? (thread : SinkThread) (bytes : List UInt8) : Option RevBuf :=
  if bytes.take usbBufsize = [] then none
  else Buffer.store? thread.buf 0 (bytes.take usbBufsize)

/-- What the thread leaves of the adapter; none where it cannot get that far. -/
def cutRound (thread : SinkThread) : Cut → Option Adapter
  | .idle _ => some thread.adapter
  | .command bytes later => (thread.received? bytes).bind fun buf =>
      if (UsbTmcBulkHeader.ofBuf buf).msgID = devDepMsgOut then
        match (usbtmcMsgCmdRead buf (bytes.take usbBufsize).length thread.cmdBuf thread.cmdLen
            later).outcome with
        | .error _ => none
        | .ok done =>
            if done.retValue = 0 then
              some { thread.adapter with
                gScpiMsg := (scpiMsgRxWrite thread.adapter.gScpiMsg
                  (done.cmdBuf.toList.take done.cmdLen)).2 }
            else none
      else none
  | .request bytes steps _ => (thread.received? bytes).bind fun buf =>
      if (UsbTmcBulkHeader.ofBuf buf).msgID = requestDevDepMsgIn then
        (alone senderStep ⟨thread.adapter, .called buf⟩ steps).map fun done => done.2.adapter
      else none

/-- The bytes that a response of so many has taken from the ring after some steps:
one to look at the ring, then a packet each. -/
def takenAfter (total : Nat) : Nat → Nat
  | 0 => 0
  | 1 => 0
  | packets + 2 => min total (usbTmcDataMax + usbBufsize * packets)

/-- The adapter as it was, but for what is gone of the responses. -/
structure Adapter.Drained (a after : Adapter) (taken : Nat) : Prop where
  ring : after.gScpiMsg.msgsrc = a.gScpiMsg.msgsrc
  inside : after.InRange
  commands : after.rx = a.rx
  responses : after.tx.unread = a.tx.unread.drop taken

theorem Adapter.Drained.refl {a : Adapter} (inside : a.InRange) : a.Drained a 0 :=
  ⟨rfl, inside, rfl, rfl⟩

theorem Adapter.Drained.trans {a b c : Adapter} {first second : Nat} (one : a.Drained b first)
    (two : b.Drained c second) : a.Drained c (first + second) := by
  refine ⟨two.ring.trans one.ring, two.inside, two.commands.trans one.commands, ?_⟩
  rw [two.responses, one.responses, List.drop_drop]

/-- One step takes what it reads. -/
theorem senderStep_drained {s : Sending} {writes : List (List UInt8)} {after : Sending}
    (ring : s.adapter.gScpiMsg.msgsrc = 0) (inside : s.adapter.InRange)
    (moved : senderStep s = some (writes, after)) :
    s.adapter.Drained after.adapter s.sender.reads := by
  rw [senderStep_adapter ring moved]
  exact ⟨rfl, ⟨inside.rx, ByteRing.read_inRange _ _ inside.tx⟩, rfl,
    ByteRing.read_unread _ _ inside.tx⟩

theorem alone_zero_eq_some {s last : Sending} {writes : List (List (List UInt8))} :
    alone senderStep s 0 = some (writes, last) ↔ [] = writes ∧ s = last := exec_nil_eq_some

/-- A sender that is back stays as it is. -/
theorem alone_back {a : Adapter} {retValue : Int} {revBuf : RevBuf} {count : Nat}
    {writes : List (List (List UInt8))} {last : Sending}
    (moved : alone senderStep ⟨a, .returned retValue revBuf⟩ count = some (writes, last)) :
    count = 0 ∧ last.adapter = a := by
  cases count with
  | zero =>
      obtain ⟨_, rfl⟩ := alone_zero_eq_some.mp moved
      exact ⟨rfl, rfl⟩
  | succ count =>
      obtain ⟨_, _, _, stepped, _⟩ := alone_succ_eq_some.mp moved
      cases stepped

/-- By induction on the steps, each of which takes a packet or what is left. -/
theorem looping_drained {a : Adapter} {revBuf : RevBuf} {total sended count : Nat}
    {writes : List (List (List UInt8))} {last : Sending} (ring : a.gScpiMsg.msgsrc = 0)
    (inside : a.InRange)
    (moved : alone senderStep ⟨a, .looping revBuf total sended⟩ count = some (writes, last)) :
    a.Drained last.adapter (min (total - sended) (usbBufsize * count)) := by
  induction count generalizing a sended writes with
  | zero =>
      obtain ⟨_, rfl⟩ := alone_zero_eq_some.mp moved
      rw [Nat.mul_zero, Nat.min_zero]
      exact .refl inside
  | succ count ih =>
      obtain ⟨output, after, later, first, rest, _⟩ := alone_succ_eq_some.mp moved
      have step : a.Drained after.adapter (min (total - sended) usbBufsize) :=
        senderStep_drained ring inside first
      by_cases unsent : sended < total
      · simp only [senderStep, unsent, ↓reduceIte, Option.some.injEq, Prod.mk.injEq] at first
        obtain ⟨_, rfl⟩ := first
        have drained := step.trans (ih (step.ring.trans ring) step.inside rest)
        have all : min (total - sended) 512 +
            min (total - (sended + min (total - sended) 512)) (512 * count) =
              min (total - sended) (512 * (count + 1)) := by omega
        exact all ▸ drained
      · simp only [senderStep, unsent, ↓reduceIte, Option.some.injEq, Prod.mk.injEq] at first
        obtain ⟨_, rfl⟩ := first
        rw [(alone_back rest).2, Nat.sub_eq_zero_of_le (Nat.le_of_not_lt unsent), Nat.zero_min]
        exact .refl inside

theorem headed_drained {a : Adapter} {revBuf : RevBuf} {total count : Nat}
    {writes : List (List (List UInt8))} {last : Sending} (ring : a.gScpiMsg.msgsrc = 0)
    (inside : a.InRange)
    (moved : alone senderStep ⟨a, .headed revBuf total⟩ count = some (writes, last)) :
    a.Drained last.adapter (takenAfter total (count + 1)) := by
  cases count with
  | zero =>
      obtain ⟨_, rfl⟩ := alone_zero_eq_some.mp moved
      exact .refl inside
  | succ packets =>
      obtain ⟨output, after, later, first, rest, _⟩ := alone_succ_eq_some.mp moved
      have step : a.Drained after.adapter (min total usbTmcDataMax) :=
        senderStep_drained ring inside first
      cases first
      have drained := step.trans (looping_drained (step.ring.trans ring) step.inside rest)
      have all : min total 500 + min (total - min total 500) (512 * packets) =
          min total (500 + 512 * packets) := by omega
      show a.Drained last.adapter (min total (500 + 512 * packets))
      exact all ▸ drained

/-- A response that is cut off has taken its packets' bytes from the ring, and nobody
gets them again. -/
theorem response_drained {a : Adapter} {buf : RevBuf} {steps : Nat}
    {writes : List (List (List UInt8))} {last : Sending} (ring : a.gScpiMsg.msgsrc = 0)
    (inside : a.InRange)
    (moved : alone senderStep ⟨a, .called buf⟩ steps = some (writes, last)) :
    a.Drained last.adapter (takenAfter a.tx.avail steps) := by
  cases steps with
  | zero =>
      obtain ⟨_, rfl⟩ := alone_zero_eq_some.mp moved
      exact .refl inside
  | succ steps =>
      obtain ⟨output, after, later, first, rest, _⟩ := alone_succ_eq_some.mp moved
      obtain ⟨_, back, _⟩ | ⟨_, goes, _⟩ := senderStep_called a buf
      · cases back.symm.trans first
        obtain ⟨rfl, same⟩ := alone_back rest
        rw [same]
        exact .refl inside
      · cases goes.symm.trans first
        have drained := headed_drained ring inside rest
        rwa [scpiMsgReponseAvailLen_of_ring a ring] at drained

/-- A packet that one read delivers stands at the front of the buffer. -/
theorem received?_of_packet (thread : SinkThread) (packet : List UInt8) (nonempty : packet ≠ [])
    (fits : packet.length ≤ usbBufsize) :
    ∃ buf, thread.received? packet = some buf ∧
      buf.toList = packet ++ thread.buf.toList.drop packet.length := by
  have stored : 0 + packet.length ≤ usbBufsize := by omega
  refine ⟨Buffer.store thread.buf 0 packet stored, ?_,
    Buffer.store_front_toList thread.buf packet stored⟩
  rw [SinkThread.received?, List.take_of_length_le fits, if_neg nonempty,
    Buffer.store?_of_fits _ _ _ stored]

/-- A command that is cut off is in the ring as one that is not. -/
theorem cutRound_command (thread : SinkThread) (transfer : CommandTransfer)
    (nulFree : 0 ∉ transfer.payload) (padded : transfer.payload.length % 4 ≠ 0)
    (later : List SinkRead) :
    cutRound thread (.command transfer.bytes later) =
      some { thread.adapter with
        gScpiMsg := (scpiMsgRxWrite thread.adapter.gScpiMsg transfer.payload).2 } := by
  have padding : Align.padding transfer.payload.length ≠ 0 := fun none =>
    padded (Align.padding_eq_zero.mp none)
  obtain ⟨spare, some⟩ := Nat.exists_eq_succ_of_ne_zero padding
  have short := Nat.le_of_lt transfer.bytes_length_lt
  obtain ⟨buf, received, content⟩ :=
    received?_of_packet thread transfer.bytes (List.cons_ne_nil _ _) short
  have text : buf.toList = transfer.header.bytes ++ (transfer.payload ++
      0 :: (List.replicate spare 0 ++ thread.buf.toList.drop transfer.bytes.length)) := by
    rw [content, CommandTransfer.bytes, some, List.replicate_succ]
    simp only [List.append_assoc, List.cons_append]
  obtain ⟨copied, returned, command⟩ := usbtmcMsgCmdRead_whole transfer buf thread.cmdBuf
    thread.cmdLen later _ text
  have header := UsbTmcBulkHeader.ofBuf_of_bytes transfer.header buf _ text
  rw [CString.takeWhile_eq_self.mpr nulFree] at returned command
  simp only [cutRound, received, Option.bind_some, header, transfer.isCommand, ↓reduceIte,
    List.take_of_length_le short, returned, command]

/-- Of a response that is cut off, the bytes of its packets are gone. -/
theorem cutRound_request {thread : SinkThread} {bytes : List UInt8} {steps printed : Nat}
    {after : Adapter} (ring : thread.adapter.gScpiMsg.msgsrc = 0)
    (inside : thread.adapter.InRange)
    (cut : cutRound thread (.request bytes steps printed) = some after) :
    thread.adapter.Drained after (takenAfter thread.adapter.tx.avail steps) := by
  obtain ⟨buf, _, responds⟩ := Option.bind_eq_some_iff.mp cut
  rw [Option.ite_none_right_eq_some, Option.map_eq_some_iff] at responds
  obtain ⟨_, ⟨writes, last⟩, moved, rfl⟩ := responds
  exact response_drained ring inside moved

end ScpiVxiTmc
