import ScpiVxiTmc.Adapter.Messages
import ScpiVxiTmc.Lib.Packets
import ScpiVxiTmc.Usb.Packet

set_option autoImplicit false

namespace ScpiVxiTmc

/-- The result of `usbtmc_msg_cmd_response`, with what it left in `rev_buf` and
what it gave to `write` on `source_fd`, call by call. -/
structure CmdResponse where
  retValue : Int
  revBuf : RevBuf
  writes : List (List UInt8)
  adapter : Adapter

/-- The loop that sends what did not fit behind the header: the writes it makes
and the adapter after it. -/
def responseLoop (total sended : Nat) (a : Adapter) : List (List UInt8) × Adapter :=
  if unsent : sended < total then
    let responseLen := min (total - sended) usbBufsize
    let filled := reponseReadInto a (Vector.replicate usbBufsize 0) 0 responseLen (by
      rw [Nat.zero_add]
      exact Nat.min_le_right _ _)
    let later := responseLoop total (sended + responseLen) filled.2
    (filled.1.toList.take (Align.up responseLen) :: later.1, later.2)
  else
    ([], a)
termination_by total - sended
decreasing_by
  show total - (sended + min (total - sended) 512) < total - sended
  omega

/-- The header sent: the request's with three fields overwritten. -/
def responseHeader (packet : UsbTmcBulkHeader) (responseTotalLen : Int) : UsbTmcBulkHeader :=
  let hostRcvCap := packet.transferSize.toInt
  { packet with
    msgID := requestDevDepMsgIn
    transferSize := BitVec.ofInt 32
      (if responseTotalLen > hostRcvCap then hostRcvCap else responseTotalLen)
    bmTransferAttributes := attribEom }

/-- The sending part of `usbtmc_msg_cmd_response`, from the first read of the
response on; the buffer already has the header. -/
def sendResponse (a : Adapter) (headed : RevBuf) (total : Nat) : CmdResponse :=
  let responseLen := min total usbTmcDataMax
  let filled := reponseReadInto a headed usbTmcHeaderLen responseLen
    (Nat.add_le_add_left (Nat.min_le_right _ _) usbTmcHeaderLen)
  let later := responseLoop total responseLen filled.2
  ⟨0, filled.1, filled.1.toList.take (Align.up (responseLen + usbTmcHeaderLen)) :: later.1,
    later.2⟩

/-- `usbtmc_msg_cmd_response`; its packet pointer points at the start of `rev_buf`. -/
def usbtmcMsgCmdResponse (a : Adapter) (revBuf : RevBuf) : CmdResponse :=
  let packet := UsbTmcBulkHeader.ofBuf revBuf
  let responseTotalLen := scpiMsgReponseAvailLen a
  if packet.bmTransferAttributes &&& attribTermchar ≠ 0 then
    ⟨-1, revBuf, [], a⟩
  else if responseTotalLen ≤ 0 then
    ⟨-2, revBuf, [], a⟩
  else
    sendResponse a ((responseHeader packet responseTotalLen).putBuf revBuf) responseTotalLen.toNat

theorem responseLoop_done (total : Nat) (a : Adapter) : responseLoop total total a = ([], a) := by
  rw [responseLoop]
  simp only [Nat.lt_irrefl, ↓reduceDIte]

/-- One round of the loop sends the next bytes, filled up with zeros to words. -/
theorem responseLoop_step (total sended : Nat) (a : Adapter) (ring : a.gScpiMsg.msgsrc = 0)
    (inside : a.tx.InRange) (unsent : sended < total)
    (left : a.tx.unread.length = total - sended) (len : Nat)
    (chosen : len = min (total - sended) usbBufsize) :
    responseLoop total sended a =
      ((a.tx.unread.take len ++ List.replicate (Align.padding len) 0) ::
          (responseLoop total (sended + len) (a.withTx (a.tx.read len).2.2)).1,
        (responseLoop total (sended + len) (a.withTx (a.tx.read len).2.2)).2) := by
  have room : 0 + len ≤ usbBufsize := by omega
  obtain ⟨next, content⟩ := reponseReadInto_of_ring a (Vector.replicate usbBufsize 0) 0 len room
    ring inside (by omega)
  have count : (a.tx.unread.take len).length = len := by
    rw [List.length_take]
    omega
  have words : Align.padding len ≤ usbBufsize - len := by
    have bufsize : usbBufsize = 512 := rfl
    unfold Align.padding
    omega
  rw [responseLoop]
  simp only [unsent, ↓reduceDIte, ← chosen, next, content, Prod.mk.injEq, List.cons.injEq,
    and_true]
  rw [List.take_zero, List.nil_append, Nat.zero_add, Vector.toList_replicate, List.drop_replicate,
    Align.up_eq_add_padding, List.take_append, count, Nat.add_sub_cancel_left, List.take_replicate,
    Nat.min_eq_left words]
  rw [List.take_of_length_le (by omega)]

/-- A full packet takes whole words of the queue, so what is sent after it, padding
included, is what the queue still lacked. -/
theorem carry_after_read (a : Adapter) (inside : a.tx.InRange) (header : List UInt8)
    (count words : Nat) (packets : List (List UInt8)) (aligned : count = 4 * words)
    (whole : header.length + count = usbBufsize) (enough : count ≤ a.tx.unread.length)
    (carry : Packets.Carry usbBufsize
      ((a.tx.read count).2.2.unread ++
        List.replicate (Align.padding (a.tx.read count).2.2.unread.length) 0) packets) :
    Packets.Carry usbBufsize
      (header ++ (a.tx.unread ++ List.replicate (Align.padding a.tx.unread.length) 0))
      ((header ++ a.tx.unread.take count) :: packets) := by
  have samePadding : Align.padding (a.tx.unread.length - count) =
      Align.padding a.tx.unread.length := by
    subst aligned
    exact Align.padding_sub_words _ _ enough
  rw [ByteRing.read_unread a.tx count inside, List.length_drop, samePadding] at carry
  exact Packets.Carry.fill count whole enough carry

/-- The loop sends the rest of the queue in full packets and empties the ring. -/
theorem responseLoop_carries (total sended : Nat) (a : Adapter) (ring : a.gScpiMsg.msgsrc = 0)
    (inside : a.tx.InRange) (within : sended ≤ total)
    (left : a.tx.unread.length = total - sended) :
    Packets.Carry usbBufsize
        (a.tx.unread ++ List.replicate (Align.padding a.tx.unread.length) 0)
        (responseLoop total sended a).1 ∧
      ∃ drained, (responseLoop total sended a).2 = a.withTx drained ∧ drained.InRange ∧
        drained.unread = [] := by
  have bufsize : usbBufsize = 512 := rfl
  by_cases unsent : sended < total
  · by_cases more : usbBufsize ≤ total - sended
    · -- A full packet, without padding; the rest of the loop sends the rest.
      have chosen : usbBufsize = min (total - sended) usbBufsize := by omega
      have nextLeft : (a.tx.read usbBufsize).2.2.unread.length =
          total - (sended + usbBufsize) := by
        rw [ByteRing.read_unread a.tx usbBufsize inside, List.length_drop]
        omega
      obtain ⟨carry, drained, last, lastInside, emptied⟩ :=
        responseLoop_carries total (sended + usbBufsize) (a.withTx (a.tx.read usbBufsize).2.2)
          ring (ByteRing.read_inRange a.tx usbBufsize inside) (by omega) nextLeft
      have noPadding : Align.padding usbBufsize = 0 := rfl
      rw [responseLoop_step total sended a ring inside unsent left usbBufsize chosen, noPadding,
        List.replicate_zero, List.append_nil]
      exact ⟨carry_after_read a inside [] usbBufsize 128 _ rfl rfl (by omega) carry,
        drained, last, lastInside, emptied⟩
    · have chosen : total - sended = min (total - sended) usbBufsize := by omega
      have finished : sended + (total - sended) = total := by omega
      rw [responseLoop_step total sended a ring inside unsent left (total - sended) chosen,
        finished, responseLoop_done, ← left, List.take_length]
      refine ⟨Packets.Carry.last ?_, (a.tx.read a.tx.unread.length).2.2, rfl,
        ByteRing.read_inRange a.tx _ inside, ?_⟩
      · rw [List.length_append, List.length_replicate]
        unfold Align.padding
        omega
      · rw [ByteRing.read_unread a.tx _ inside]
        exact List.drop_length
  · have emptied : a.tx.unread = [] := List.eq_nil_of_length_eq_zero (by omega)
    have finished : sended = total := by omega
    rw [finished, responseLoop_done, emptied]
    exact ⟨Packets.Carry.nothing, a.tx, rfl, inside, emptied⟩
termination_by total - sended
decreasing_by omega

/-- The whole queue went out behind the header, in full packets. -/
structure ResponseSent (a : Adapter) (header : UsbTmcBulkHeader) (done : CmdResponse) : Prop where
  succeeds : done.retValue = 0
  stream : ∃ padding, padding.length = Align.padding a.tx.unread.length ∧
    Packets.Carry usbBufsize (header.bytes ++ (a.tx.unread ++ padding)) done.writes
  drained : ∃ ring, done.adapter = a.withTx ring ∧ ring.InRange ∧ ring.unread = []

/-- The request is turned down before anything is touched. -/
theorem usbtmcMsgCmdResponse_refused (a : Adapter) (revBuf : RevBuf)
    (ring : a.gScpiMsg.msgsrc = 0)
    (unanswerable : (UsbTmcBulkHeader.ofBuf revBuf).bmTransferAttributes &&& attribTermchar ≠ 0 ∨
      a.tx.unread.length = 0) :
    (usbtmcMsgCmdResponse a revBuf).retValue ≠ 0 ∧ (usbtmcMsgCmdResponse a revBuf).writes = [] ∧
      (usbtmcMsgCmdResponse a revBuf).adapter = a := by
  unfold usbtmcMsgCmdResponse
  by_cases termchar :
      (UsbTmcBulkHeader.ofBuf revBuf).bmTransferAttributes &&& attribTermchar ≠ 0
  · rw [if_pos termchar]
    exact ⟨(by decide : (-1 : Int) ≠ 0), rfl, rfl⟩
  · have noData : scpiMsgReponseAvailLen a ≤ 0 := by
      rw [scpiMsgReponseAvailLen_of_ring a ring, ← ByteRing.unread_length,
        unanswerable.resolve_left termchar]
      exact Int.le_refl 0
    rw [if_neg termchar, if_pos noData]
    exact ⟨(by decide : (-2 : Int) ≠ 0), rfl, rfl⟩

/-- What the request left in the buffer behind `len` bytes of data, up to the end
of the last word. -/
def padBytes (revBuf : RevBuf) (len : Nat) : List UInt8 :=
  (revBuf.toList.drop (usbTmcHeaderLen + len)).take (Align.padding len)

theorem padding_fits {len : Nat} (fits : len ≤ usbTmcDataMax) :
    Align.padding len ≤ usbBufsize - (usbTmcHeaderLen + len) := by
  have dataMax : usbTmcDataMax = 500 := rfl
  have bufsize : usbBufsize = 512 := rfl
  have headerLen : usbTmcHeaderLen = 12 := rfl
  unfold Align.padding
  omega

theorem padBytes_length (revBuf : RevBuf) {len : Nat} (fits : len ≤ usbTmcDataMax) :
    (padBytes revBuf len).length = Align.padding len := by
  rw [padBytes, List.length_take, List.length_drop, Vector.length_toList,
    Nat.min_eq_left (padding_fits fits)]

/-- The first write takes the header, the front of the queue and, up to the end
of the last word, what the request left in the buffer. -/
theorem sendResponse_step (a : Adapter) (header : UsbTmcBulkHeader) (revBuf : RevBuf)
    (ring : a.gScpiMsg.msgsrc = 0) (inside : a.tx.InRange) (len : Nat)
    (chosen : len = min a.tx.unread.length usbTmcDataMax) :
    ∃ filled, sendResponse a (header.putBuf revBuf) a.tx.unread.length =
      ⟨0, filled, (header.bytes ++ (a.tx.unread.take len ++ padBytes revBuf len)) ::
          (responseLoop a.tx.unread.length len (a.withTx (a.tx.read len).2.2)).1,
        (responseLoop a.tx.unread.length len (a.withTx (a.tx.read len).2.2)).2⟩ := by
  have dataMax : usbTmcDataMax = 500 := rfl
  have bufsize : usbBufsize = 512 := rfl
  have headerLen : usbTmcHeaderLen = 12 := rfl
  have room : usbTmcHeaderLen + len ≤ usbBufsize := by omega
  obtain ⟨next, content⟩ := reponseReadInto_of_ring a (header.putBuf revBuf) usbTmcHeaderLen len
    room ring inside (by omega)
  have count : (a.tx.unread.take len).length = len := by
    rw [List.length_take]
    omega
  have lastWord : Align.up (len + usbTmcHeaderLen) =
      usbTmcHeaderLen + (len + Align.padding len) := by
    rw [← Align.up_eq_add_padding, Nat.add_comm usbTmcHeaderLen]
    exact Align.up_add_words len 3
  refine ⟨(reponseReadInto a (header.putBuf revBuf) usbTmcHeaderLen len room).1, ?_⟩
  simp only [sendResponse, ← chosen, next, content, UsbTmcBulkHeader.putBuf_take, lastWord,
    UsbTmcBulkHeader.putBuf_drop]
  rw [List.append_assoc, List.take_append, UsbTmcBulkHeader.bytes_length,
    List.take_of_length_le (by rw [UsbTmcBulkHeader.bytes_length]; omega),
    Nat.add_sub_cancel_left, List.take_append, count, Nat.add_sub_cancel_left,
    List.take_of_length_le (by omega), padBytes]

/-- The whole queue goes out behind the header, in full packets. -/
theorem sendResponse_sent (a : Adapter) (header : UsbTmcBulkHeader) (revBuf : RevBuf)
    (ring : a.gScpiMsg.msgsrc = 0) (inside : a.tx.InRange) :
    ResponseSent a header (sendResponse a (header.putBuf revBuf) a.tx.unread.length) := by
  have dataMax : usbTmcDataMax = 500 := rfl
  have bufsize : usbBufsize = 512 := rfl
  have headerLen : usbTmcHeaderLen = 12 := rfl
  by_cases short : a.tx.unread.length ≤ usbTmcDataMax
  · have chosen : a.tx.unread.length = min a.tx.unread.length usbTmcDataMax := by omega
    have size := padBytes_length revBuf short
    obtain ⟨filled, sent⟩ :=
      sendResponse_step a header revBuf ring inside a.tx.unread.length chosen
    rw [responseLoop_done, List.take_length] at sent
    rw [sent]
    refine ⟨rfl, ⟨padBytes revBuf _, size, Packets.Carry.last ?_⟩,
      (a.tx.read a.tx.unread.length).2.2, rfl, ByteRing.read_inRange a.tx _ inside, ?_⟩
    · rw [List.length_append, List.length_append, UsbTmcBulkHeader.bytes_length, size]
      unfold Align.padding
      omega
    · rw [ByteRing.read_unread a.tx _ inside]
      exact List.drop_length
  · have chosen : usbTmcDataMax = min a.tx.unread.length usbTmcDataMax := by omega
    obtain ⟨filled, sent⟩ := sendResponse_step a header revBuf ring inside usbTmcDataMax chosen
    have noPadding : padBytes revBuf usbTmcDataMax = [] :=
      List.eq_nil_of_length_eq_zero (padBytes_length revBuf (Nat.le_refl _))
    have nextLeft : (a.tx.read usbTmcDataMax).2.2.unread.length =
        a.tx.unread.length - usbTmcDataMax := by
      rw [ByteRing.read_unread a.tx usbTmcDataMax inside, List.length_drop]
    obtain ⟨carry, drained, last, lastInside, emptied⟩ :=
      responseLoop_carries a.tx.unread.length usbTmcDataMax
        (a.withTx (a.tx.read usbTmcDataMax).2.2) ring
        (ByteRing.read_inRange a.tx usbTmcDataMax inside) (by omega) nextLeft
    have whole := carry_after_read a inside header.bytes usbTmcDataMax 125 _ rfl rfl (by omega)
      carry
    rw [sent, noPadding, List.append_nil]
    exact ⟨rfl, ⟨_, List.length_replicate, whole⟩, drained, last, lastInside, emptied⟩

/-- A request is answered with everything queued, whatever the host can take. -/
theorem usbtmcMsgCmdResponse_sent (a : Adapter) (revBuf : RevBuf)
    (ring : a.gScpiMsg.msgsrc = 0) (inside : a.tx.InRange)
    (noTermchar : (UsbTmcBulkHeader.ofBuf revBuf).bmTransferAttributes &&& attribTermchar = 0)
    (pending : a.tx.unread ≠ []) :
    ResponseSent a (responseHeader (UsbTmcBulkHeader.ofBuf revBuf) a.tx.unread.length)
      (usbtmcMsgCmdResponse a revBuf) := by
  have positive := List.length_pos_iff.mpr pending
  have avail : scpiMsgReponseAvailLen a = a.tx.unread.length := by
    rw [scpiMsgReponseAvailLen_of_ring a ring, ByteRing.unread_length]
  have someData : ¬ ((a.tx.unread.length : Int) ≤ 0) := by omega
  simp only [usbtmcMsgCmdResponse, avail, noTermchar, ne_eq, not_true_eq_false, ↓reduceIte,
    someData, Int.toNat_natCast]
  exact sendResponse_sent a _ revBuf ring inside

/-- What a request does to the queue and to the bulk-in stream. -/
structure StreamIntact (a : Adapter) (packet : UsbTmcBulkHeader) (done : CmdResponse) : Prop where
  refused : packet.bmTransferAttributes &&& attribTermchar ≠ 0 ∨ a.tx.unread.length = 0 →
    done.retValue ≠ 0 ∧ done.writes = [] ∧ done.adapter.tx = a.tx
  sent : packet.bmTransferAttributes &&& attribTermchar = 0 → a.tx.unread.length ≠ 0 →
    done.retValue = 0 ∧
      (∃ (header : UsbTmcBulkHeader) (padding : List UInt8),
        done.writes.flatten = header.bytes ++ (a.tx.unread ++ padding) ∧
          (padding.length : Int) = -(a.tx.unread.length : Int) % 4) ∧
      (∀ write ∈ done.writes, write.length % 4 = 0 ∧ write.length ≤ 512) ∧
      (∀ write ∈ done.writes.dropLast, write.length = 512) ∧
      done.adapter.tx.unread = []

theorem ResponseSent.aligned {a : Adapter} {header : UsbTmcBulkHeader} {done : CmdResponse}
    (sent : ResponseSent a header done) : ∀ write ∈ done.writes, 4 ∣ write.length := by
  obtain ⟨padding, size, carry⟩ := sent.stream
  refine Packets.Carry.dvd carry (by decide) ?_
  rw [List.length_append, List.length_append, UsbTmcBulkHeader.bytes_length, size]
  show 4 ∣ 12 + _
  unfold Align.padding
  omega

/-- No byte of the response is lost, sent twice or padded in the middle. -/
theorem bulk_in_stream_intact (a : Adapter) (revBuf : RevBuf) (reached : a.Reachable)
    (ring : a.gScpiMsg.msgsrc = 0) :
    StreamIntact a (UsbTmcBulkHeader.ofBuf revBuf) (usbtmcMsgCmdResponse a revBuf) := by
  constructor
  · intro unanswerable
    obtain ⟨failed, silent, same⟩ := usbtmcMsgCmdResponse_refused a revBuf ring unanswerable
    exact ⟨failed, silent, congrArg Adapter.tx same⟩
  · intro noTermchar pending
    have sent := usbtmcMsgCmdResponse_sent a revBuf ring reached.inRange.tx noTermchar
      (fun none => pending (congrArg List.length none))
    obtain ⟨padding, size, carry⟩ := sent.stream
    obtain ⟨drained, last, _, emptied⟩ := sent.drained
    refine ⟨sent.succeeds, ⟨_, padding, carry.content, ?_⟩, ?_, carry.full, ?_⟩
    · rw [size]
      unfold Align.padding
      omega
    · intro write member
      exact ⟨Nat.mod_eq_zero_of_dvd (sent.aligned write member), carry.bounded write member⟩
    · rw [last]
      exact emptied

/-- The adapter with the response of two bytes waiting. -/
def twoBytesWaiting : Adapter := (scpiMsgReponseWrite .init (some [79, 75]) 0).2

theorem twoBytesWaiting_reachable : twoBytesWaiting.Reachable :=
  (Machine.Reachable.start _ _).next (.reponseWrite (some [79, 75]) 0) rfl

/-- A request for as many bytes as a host can take. -/
def requestFor (transferSize : BitVec 32) : UsbTmcBulkHeader :=
  ⟨requestDevDepMsgIn, 1, 254, 0, transferSize, 0, 0, 0, 0⟩

theorem twoBytesWaiting_stream_intact :
    StreamIntact twoBytesWaiting
      (UsbTmcBulkHeader.ofBuf ((requestFor 64).putBuf (Vector.replicate usbBufsize 0)))
      (usbtmcMsgCmdResponse twoBytesWaiting
        ((requestFor 64).putBuf (Vector.replicate usbBufsize 0))) :=
  bulk_in_stream_intact _ _ twoBytesWaiting_reachable rfl

/-- The host gets what it asked for and is told the truth about it. -/
def HonoursCapacity (a : Adapter) (cap : Nat) (done : CmdResponse) : Prop :=
  let limit := min a.tx.unread.length cap
  ∃ (header : UsbTmcBulkHeader) (padding : List UInt8),
    done.writes.flatten = header.bytes ++ (a.tx.unread.take limit ++ padding) ∧
      padding.length ≤ 3 ∧
      header.transferSize.toNat = limit ∧
      (header.bmTransferAttributes &&& attribEom ≠ 0 ↔ limit = a.tx.unread.length) ∧
      done.adapter.tx.unread = a.tx.unread.drop limit

/-- The size in the header is the length of the queue exactly when the capacity,
taken as an int, is not smaller. -/
theorem responseHeader_transferSize_iff (packet : UsbTmcBulkHeader) (total : Nat)
    (small : total < scpiBufMax) :
    (responseHeader packet total).transferSize.toNat = total ↔
      total ≤ packet.transferSize.toNat ∧ packet.transferSize.toNat < 2 ^ 31 := by
  have bufMax : scpiBufMax = 1024 := rfl
  have bound := packet.transferSize.isLt
  by_cases int : packet.transferSize.toNat < 2 ^ 31
  · have cap : packet.transferSize.toInt = packet.transferSize.toNat :=
      BitVec.toInt_eq_toNat_of_lt (by omega)
    simp only [responseHeader, cap]
    by_cases less : (total : Int) > packet.transferSize.toNat
    · simp only [less, ↓reduceIte, BitVec.ofInt_natCast, BitVec.toNat_ofNat]
      omega
    · simp only [less, ↓reduceIte, BitVec.ofInt_natCast, BitVec.toNat_ofNat]
      omega
  · -- The conversion to int makes such a capacity negative.
    have negative : packet.transferSize.toInt < 0 := by
      rw [BitVec.toInt_eq_toNat_cond]
      split <;> omega
    have less : (total : Int) > packet.transferSize.toInt := by omega
    simp only [responseHeader, less, ↓reduceIte, BitVec.ofInt_toInt]
    omega

theorem ResponseSent.honoursCapacity_iff {a : Adapter} {packet : UsbTmcBulkHeader}
    {done : CmdResponse} (sent : ResponseSent a (responseHeader packet a.tx.unread.length) done)
    (inside : a.tx.InRange) :
    HonoursCapacity a packet.transferSize.toNat done ↔
      a.tx.unread.length ≤ packet.transferSize.toNat ∧
        packet.transferSize.toNat < 2 ^ 31 := by
  have small : a.tx.unread.length < scpiBufMax := by
    rw [ByteRing.unread_length]
    exact inside.avail_lt
  have size := responseHeader_transferSize_iff packet a.tx.unread.length small
  obtain ⟨padding, paddingLength, carry⟩ := sent.stream
  obtain ⟨drained, last, _, emptied⟩ := sent.drained
  have nothingLeft : done.adapter.tx.unread = [] := by
    rw [last]
    exact emptied
  constructor
  · intro ⟨header, otherPadding, stream, _, told, _, left⟩
    have all : a.tx.unread.length ≤ packet.transferSize.toNat := by
      rw [nothingLeft] at left
      have none := List.drop_eq_nil_iff.mp left.symm
      omega
    have sameHeader : header.bytes = (responseHeader packet a.tx.unread.length).bytes :=
      (List.append_inj (stream.symm.trans carry.content) rfl).1
    rw [UsbTmcBulkHeader.eq_of_bytes_eq sameHeader, Nat.min_eq_left all] at told
    exact size.mp told
  · intro enough
    have whole : min a.tx.unread.length packet.transferSize.toNat = a.tx.unread.length :=
      Nat.min_eq_left enough.1
    have pad := Align.padding_lt a.tx.unread.length
    refine ⟨responseHeader packet a.tx.unread.length, padding, ?_, by omega, ?_, ?_, ?_⟩
    · rw [whole, List.take_length]
      exact carry.content
    · rw [whole]
      exact size.mpr enough
    · rw [whole]
      exact ⟨fun _ => rfl, fun _ => (by decide : attribEom &&& attribEom ≠ 0)⟩
    · rw [whole, List.drop_length]
      exact nothingLeft

/-- The response loop never looks at the capacity, and the header takes it for a
signed number. -/
theorem honours_capacity_iff (a : Adapter) (revBuf : RevBuf) (packet : UsbTmcBulkHeader)
    (received : UsbTmcBulkHeader.ofBuf revBuf = packet) (reached : a.Reachable)
    (ring : a.gScpiMsg.msgsrc = 0) (pending : 1 ≤ a.tx.unread.length)
    (asked : 1 ≤ packet.transferSize.toNat)
    (noTermchar : packet.bmTransferAttributes &&& attribTermchar = 0) :
    HonoursCapacity a packet.transferSize.toNat (usbtmcMsgCmdResponse a revBuf) ↔
      a.tx.unread.length ≤ packet.transferSize.toNat ∧
        packet.transferSize.toNat < 2 ^ 31 := by
  subst received
  have inside := reached.inRange.tx
  exact (usbtmcMsgCmdResponse_sent a revBuf ring inside noTermchar
    (List.length_pos_iff.mp pending)).honoursCapacity_iff inside

/-- Both bytes of the response fit in the 64 that the host can take. -/
theorem honours_capacity_two_of_64 :
    HonoursCapacity twoBytesWaiting 64
        (usbtmcMsgCmdResponse twoBytesWaiting
          ((requestFor 64).putBuf (Vector.replicate usbBufsize 0))) ↔
      2 ≤ 64 ∧ 64 < 2 ^ 31 :=
  honours_capacity_iff twoBytesWaiting _ (requestFor 64) (UsbTmcBulkHeader.ofBuf_putBuf _ _)
    twoBytesWaiting_reachable rfl (by decide) (by decide) (by decide)

/-- A host that can take one byte is told so, and then sent two. -/
theorem two_bytes_for_one :
    twoBytesWaiting.Reachable ∧
      ¬ HonoursCapacity twoBytesWaiting 1
        (usbtmcMsgCmdResponse twoBytesWaiting
          ((requestFor 1).putBuf (Vector.replicate usbBufsize 0))) := by
  refine ⟨twoBytesWaiting_reachable, ?_⟩
  have received := UsbTmcBulkHeader.ofBuf_putBuf (requestFor 1) (Vector.replicate usbBufsize 0)
  have inside := twoBytesWaiting_reachable.inRange.tx
  have sent := usbtmcMsgCmdResponse_sent twoBytesWaiting _ rfl inside
    (by rw [received]; decide) (by decide)
  rw [received] at sent
  rw [show 1 = (requestFor 1).transferSize.toNat from rfl, sent.honoursCapacity_iff inside]
  decide

end ScpiVxiTmc
