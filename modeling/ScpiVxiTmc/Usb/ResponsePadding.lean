import Mathlib.Logic.Function.Basic
import ScpiVxiTmc.Usb.Response

set_option autoImplicit false

/- What a response shows of the receive buffer behind the request. -/
namespace ScpiVxiTmc

/-- Everything that a call of `usbtmc_msg_cmd_response` gives to `write`. -/
def bytesSent (a : Adapter) (revBuf : RevBuf) : List UInt8 :=
  (usbtmcMsgCmdResponse a revBuf).writes.flatten

theorem bytesSent_refused (a : Adapter) (revBuf : RevBuf) (ring : a.gScpiMsg.msgsrc = 0)
    (unanswerable : (UsbTmcBulkHeader.ofBuf revBuf).bmTransferAttributes &&& attribTermchar ≠ 0 ∨
      a.tx.unread.length = 0) : bytesSent a revBuf = [] := by
  rw [bytesSent, (usbtmcMsgCmdResponse_refused a revBuf ring unanswerable).2.1, List.flatten_nil]

/-- Behind a full first packet there is nothing of the buffer. -/
theorem padBytes_min (revBuf : RevBuf) (len : Nat) :
    padBytes revBuf (min len usbTmcDataMax) = padBytes revBuf len := by
  have dataMax : usbTmcDataMax = 500 := rfl
  have bufsize : usbBufsize = 512 := rfl
  have headerLen : usbTmcHeaderLen = 12 := rfl
  by_cases fits : len ≤ usbTmcDataMax
  · rw [Nat.min_eq_left fits]
  · have size := revBuf.length_toList
    rw [Nat.min_eq_right (by omega), padBytes, padBytes, List.drop_eq_nil_of_le (by omega),
      List.drop_eq_nil_of_le (by omega), List.take_nil, List.take_nil]

/-- Only the first write has bytes of the receive buffer; the later ones come from
the ring and a cleared buffer. -/
theorem bytesSent_answered (a : Adapter) (revBuf : RevBuf) (ring : a.gScpiMsg.msgsrc = 0)
    (inside : a.tx.InRange)
    (noTermchar : (UsbTmcBulkHeader.ofBuf revBuf).bmTransferAttributes &&& attribTermchar = 0)
    (pending : a.tx.unread.length ≠ 0) (len : Nat)
    (chosen : len = min a.tx.unread.length usbTmcDataMax) :
    bytesSent a revBuf =
      ((responseHeader (UsbTmcBulkHeader.ofBuf revBuf) a.tx.unread.length).bytes ++
          (a.tx.unread.take len ++ padBytes revBuf a.tx.unread.length)) ++
        (a.tx.unread.drop len ++
          List.replicate (Align.padding (a.tx.unread.length - len)) 0) := by
  have avail : scpiMsgReponseAvailLen a = a.tx.unread.length := by
    rw [scpiMsgReponseAvailLen_of_ring a ring, ByteRing.unread_length]
  have someData : ¬ ((a.tx.unread.length : Int) ≤ 0) := by omega
  have left := ByteRing.read_unread a.tx len inside
  have count : (a.tx.read len).2.2.unread.length = a.tx.unread.length - len := by
    rw [left, List.length_drop]
  obtain ⟨filled, sent⟩ := sendResponse_step a
    (responseHeader (UsbTmcBulkHeader.ofBuf revBuf) a.tx.unread.length) revBuf ring inside len
    chosen
  have later := (responseLoop_carries a.tx.unread.length len (a.withTx (a.tx.read len).2.2) ring
    (ByteRing.read_inRange a.tx len inside) (by omega) count).1.content
  rw [show (a.withTx (a.tx.read len).2.2).tx = (a.tx.read len).2.2 from rfl, count, left] at later
  simp only [bytesSent, usbtmcMsgCmdResponse, avail, noTermchar, ne_eq, not_true_eq_false,
    ↓reduceIte, someData, Int.toNat_natCast]
  rw [sent, List.flatten_cons, later, chosen, padBytes_min]

/-- Two answers to one header from one ring differ where the padding does. -/
theorem bytesSent_eq_iff (a b : Adapter) (one other : RevBuf) (ring : a.gScpiMsg.msgsrc = 0)
    (otherRing : b.gScpiMsg.msgsrc = 0) (same : a.tx = b.tx) (inside : a.tx.InRange)
    (sameHeader : UsbTmcBulkHeader.ofBuf one = UsbTmcBulkHeader.ofBuf other)
    (noTermchar : (UsbTmcBulkHeader.ofBuf one).bmTransferAttributes &&& attribTermchar = 0)
    (pending : a.tx.unread.length ≠ 0) :
    bytesSent a one = bytesSent b other ↔
      padBytes one a.tx.unread.length = padBytes other a.tx.unread.length := by
  have second := bytesSent_answered b other otherRing (same ▸ inside) (sameHeader ▸ noTermchar)
    (same ▸ pending) _ rfl
  rw [← same, ← sameHeader] at second
  rw [bytesSent_answered a one ring inside noTermchar pending _ rfl, second,
    List.append_cancel_right_eq, List.append_cancel_left_eq, List.append_cancel_left_eq]

/-- The bytes sent tell two receive buffers apart by what they hold between the
data and the end of its last word, and by nothing else. -/
theorem padding_independent_iff (a b : Adapter) (one other : RevBuf) (reached : a.Reachable)
    (ring : a.gScpiMsg.msgsrc = 0) (otherRing : b.gScpiMsg.msgsrc = 0) (same : a.tx = b.tx)
    (sameHeader : UsbTmcBulkHeader.ofBuf one = UsbTmcBulkHeader.ofBuf other) :
    bytesSent a one = bytesSent b other ↔
      (UsbTmcBulkHeader.ofBuf one).bmTransferAttributes &&& attribTermchar ≠ 0 ∨
        padBytes one a.tx.unread.length = padBytes other a.tx.unread.length := by
  by_cases termchar : (UsbTmcBulkHeader.ofBuf one).bmTransferAttributes &&& attribTermchar ≠ 0
  · apply iff_of_true _ (Or.inl termchar)
    rw [bytesSent_refused a one ring (Or.inl termchar),
      bytesSent_refused b other otherRing (Or.inl (sameHeader ▸ termchar))]
  · rw [or_iff_right termchar]
    by_cases nothing : a.tx.unread.length = 0
    · have none : Align.padding a.tx.unread.length = 0 := by rw [nothing]; rfl
      apply iff_of_true
      · rw [bytesSent_refused a one ring (Or.inr nothing),
          bytesSent_refused b other otherRing (Or.inr (same ▸ nothing))]
      · rw [padBytes, padBytes, none, List.take_zero, List.take_zero]
    · exact bytesSent_eq_iff a b one other ring otherRing same reached.inRange.tx sameHeader
        (not_not.mp termchar) nothing

/-- A request over a buffer full of one byte. -/
def requestOver (residue : UInt8) : RevBuf :=
  (requestFor 64).putBuf (Vector.replicate usbBufsize residue)

theorem padBytes_requestOver (residue : UInt8) {len : Nat} (fits : len ≤ usbTmcDataMax) :
    padBytes (requestOver residue) len = List.replicate (Align.padding len) residue := by
  rw [padBytes, requestOver, UsbTmcBulkHeader.putBuf_drop, Vector.toList_replicate,
    List.drop_replicate, List.take_replicate, Nat.min_eq_left (padding_fits fits)]

/-- What the buffers hold behind the two bytes of padding does not show. -/
theorem requestOver_padding_independent :
    bytesSent twoBytesWaiting (requestOver 0) = bytesSent twoBytesWaiting
      ((requestFor 64).putBuf
        (Buffer.store (Vector.replicate usbBufsize 0) 16 [7] (by decide))) := by
  apply (padding_independent_iff twoBytesWaiting twoBytesWaiting _ _ twoBytesWaiting_reachable rfl
    rfl rfl ?_).mpr
  · apply Or.inr
    rw [padBytes_requestOver 0 (by decide), padBytes, UsbTmcBulkHeader.putBuf_drop]
    decide
  · rw [requestOver, UsbTmcBulkHeader.ofBuf_putBuf, UsbTmcBulkHeader.ofBuf_putBuf]

theorem bytesSent_requestOver_iff (a : Adapter) (inside : a.tx.InRange)
    (ring : a.gScpiMsg.msgsrc = 0) (short : a.tx.unread.length ≤ usbTmcDataMax) :
    bytesSent a (requestOver 0) = bytesSent a (requestOver 7) ↔ a.tx.unread.length % 4 = 0 := by
  have header (residue : UInt8) : UsbTmcBulkHeader.ofBuf (requestOver residue) = requestFor 64 :=
    UsbTmcBulkHeader.ofBuf_putBuf _ _
  by_cases nothing : a.tx.unread.length = 0
  · apply iff_of_true
    · rw [bytesSent_refused a _ ring (Or.inr nothing), bytesSent_refused a _ ring (Or.inr nothing)]
    · rw [nothing]
  · have noTermchar : (UsbTmcBulkHeader.ofBuf (requestOver 0)).bmTransferAttributes &&&
        attribTermchar = 0 := by
      rw [header 0]
      decide
    have differ : (0 : UInt8) ≠ 7 := by decide
    rw [bytesSent_eq_iff a a _ _ ring ring rfl inside ((header 0).trans (header 7).symm) noTermchar
      nothing, padBytes_requestOver 0 short, padBytes_requestOver 7 short, List.replicate_inj,
      eq_self_iff_true, true_and, or_iff_left differ, Align.padding_eq_zero]

/-- The rest of the receive buffer shows in the answer to some request, unless the
ring has whole words or a full first packet. -/
theorem padding_free_iff (a : Adapter) (reached : a.Reachable) (ring : a.gScpiMsg.msgsrc = 0) :
    Function.FactorsThrough (bytesSent a) UsbTmcBulkHeader.ofBuf ↔
      a.tx.unread.length % 4 = 0 ∨ usbTmcDataMax ≤ a.tx.unread.length := by
  have inside := reached.inRange.tx
  constructor
  · intro independent
    by_cases short : a.tx.unread.length ≤ usbTmcDataMax
    · apply Or.inl
      apply (bytesSent_requestOver_iff a inside ring short).mp
      apply independent
      rw [requestOver, requestOver, UsbTmcBulkHeader.ofBuf_putBuf, UsbTmcBulkHeader.ofBuf_putBuf]
    · apply Or.inr
      omega
  · intro whole one other sameHeader
    have blank (revBuf : RevBuf) : padBytes revBuf a.tx.unread.length = [] := by
      rw [← padBytes_min]
      apply List.eq_nil_of_length_eq_zero
      rw [padBytes_length revBuf (Nat.min_le_right _ _)]
      have dataMax : usbTmcDataMax = 500 := rfl
      unfold Align.padding
      omega
    by_cases refused : (UsbTmcBulkHeader.ofBuf one).bmTransferAttributes &&& attribTermchar ≠ 0 ∨
        a.tx.unread.length = 0
    · rw [bytesSent_refused a one ring refused,
        bytesSent_refused a other ring (sameHeader ▸ refused)]
    · rcases not_or.mp refused with ⟨noTermchar, pending⟩
      rw [bytesSent_eq_iff a a one other ring ring rfl inside sameHeader (not_not.mp noTermchar)
        pending, blank, blank]

/-- Of two bytes of padding the host gets to see both. -/
theorem requestOver_leaks :
    twoBytesWaiting.Reachable ∧ twoBytesWaiting.gScpiMsg.msgsrc = 0 ∧
      UsbTmcBulkHeader.ofBuf (requestOver 0) = UsbTmcBulkHeader.ofBuf (requestOver 7) ∧
      bytesSent twoBytesWaiting (requestOver 0) ≠ bytesSent twoBytesWaiting (requestOver 7) := by
  refine ⟨twoBytesWaiting_reachable, rfl, ?_, ?_⟩
  · rw [requestOver, requestOver, UsbTmcBulkHeader.ofBuf_putBuf, UsbTmcBulkHeader.ofBuf_putBuf]
  · intro same
    have inside := twoBytesWaiting_reachable.inRange.tx
    have whole := (bytesSent_requestOver_iff twoBytesWaiting inside rfl (by decide)).mp same
    exact absurd whole (by decide)

end ScpiVxiTmc
