import ScpiVxiTmc.Usb.Arrivals

set_option autoImplicit false

/- Transfers that arrive in pieces, none of them lost, and what is left of the
command when each piece is stored at the start of the buffer. -/
namespace ScpiVxiTmc

theorem flatten_length_pos {chunks : List (List UInt8)} (unfinished : chunks ≠ [])
    (nonempty : ∀ chunk ∈ chunks, chunk ≠ []) : 0 < chunks.flatten.length := by
  rcases List.exists_mem_of_ne_nil _ unfinished with ⟨chunk, member⟩
  have part := (List.sublist_flatten_of_mem member).length_le
  have positive := List.length_pos_iff.mpr (nonempty chunk member)
  omega

/-- Chunks that together are what is missing all arrive, and with the last of
them it is whole. -/
theorem arrival_chunks (left : Nat) (chunks : List (List UInt8))
    (nonempty : ∀ chunk ∈ chunks, chunk ≠ []) (unfinished : chunks ≠ [])
    (few : chunks.length ≤ left) :
    (arrival chunks.flatten.length left (chunks.map .data)).all = chunks ∧
      (arrival chunks.flatten.length left (chunks.map .data)).ending.IsWhole := by
  induction chunks generalizing left with
  | nil => exact absurd rfl unfinished
  | cons chunk rest ih =>
      have something := nonempty chunk List.mem_cons_self
      have later := fun other member => nonempty other (List.mem_cons_of_mem chunk member)
      rw [List.flatten_cons, List.length_append]
      have got : chunk.take (chunk.length + rest.flatten.length) = chunk :=
        List.take_of_length_le (Nat.le_add_right _ _)
      cases left with
      | zero => exact absurd few (Nat.not_succ_le_zero _)
      | succ left =>
          simp only [List.map_cons, arrival, got, something, ↓reduceIte]
          by_cases done : rest = []
          · simp only [done, List.flatten_nil, List.length_nil, Nat.add_zero, ↓reduceIte]
            exact ⟨rfl, trivial⟩
          · have positive := flatten_length_pos done later
            have part : chunk.length ≠ chunk.length + rest.flatten.length := by omega
            have restFew : rest.length ≤ left := Nat.le_of_succ_le_succ few
            have arrived := ih left later done restFew
            simp only [part, ↓reduceIte, Nat.add_sub_cancel_left]
            exact ⟨congrArg (chunk :: ·) arrived.1, arrived.2⟩

/-- A command transfer that the sink endpoint delivers in pieces. -/
structure SplitTransfer extends CommandTransfer where
  first : List UInt8
  rest : List (List UInt8)
  nulFree : 0 ∉ payload
  pieces : first ++ rest.flatten = toCommandTransfer.bytes
  withHeader : usbTmcHeaderLen ≤ first.length
  nonemptyPieces : ∀ piece ∈ rest, piece ≠ []
  few : rest.length ≤ repeatReadCnt

namespace SplitTransfer

theorem pieces_length (split : SplitTransfer) :
    split.first.length + split.rest.flatten.length = split.bytes.length := by
  rw [← List.length_append, split.pieces]

theorem first_fits (split : SplitTransfer) : 0 + split.first.length ≤ usbBufsize := by
  have total := split.pieces_length
  have bound := split.bytes_length_lt
  omega

/-- The first piece in a zeroed receive buffer. -/
def revBuf (split : SplitTransfer) : RevBuf :=
  Buffer.store (Vector.replicate usbBufsize 0) 0 split.first split.first_fits

/-- The call that the sink thread makes after the first piece. -/
def call (split : SplitTransfer) (cmdBuf : CmdBuf) (cmdLen : Nat) : SinkCall CmdRead :=
  usbtmcMsgCmdRead split.revBuf split.first.length cmdBuf cmdLen (split.rest.map .data)

/-- The call succeeds with the whole command. -/
def Reassembled (split : SplitTransfer) (cmdBuf : CmdBuf) (cmdLen : Nat) : Prop :=
  ∃ done, (split.call cmdBuf cmdLen).outcome = .ok done ∧ done.retValue = 0 ∧
    done.cmdLen = split.payload.length ∧
    done.cmdBuf.toList.take split.payload.length = split.payload

theorem revBuf_toList (split : SplitTransfer) :
    split.revBuf.toList = split.first ++ List.replicate (usbBufsize - split.first.length) 0 := by
  rw [revBuf, Buffer.store_front_toList, Vector.toList_replicate, List.drop_replicate]

theorem prefix_first (split : SplitTransfer) (part : List UInt8) (front : part <+: split.bytes)
    (covered : part.length ≤ split.first.length) : part <+: split.first :=
  List.prefix_of_prefix_length_le front (split.pieces ▸ List.prefix_append _ _) covered

theorem revBuf_header (split : SplitTransfer) :
    UsbTmcBulkHeader.ofBuf split.revBuf = split.header := by
  rcases split.prefix_first split.header.bytes (List.prefix_append _ _) split.withHeader with
    ⟨others, firstSplit⟩
  apply UsbTmcBulkHeader.ofBuf_of_bytes
  rw [revBuf_toList, ← firstSplit, List.append_assoc]

/-- However the transfer is cut, the loop ends with 0 and leaves alone what lies
behind the bytes that came after the first read. -/
theorem call_outcome (split : SplitTransfer) (cmdBuf : CmdBuf) (cmdLen : Nat) :
    ∃ ended, (split.call cmdBuf cmdLen).outcome = rcvFinish ended cmdBuf ∧
      ∀ position, split.rest.flatten.length ≤ position →
        ended.toList.drop position = split.revBuf.toList.drop position := by
  have total := split.pieces_length
  have bound := split.bytes_length_lt
  have size : transfersizeOf (announced split.revBuf) = split.bytes.length := by
    rw [announced, split.revBuf_header, split.transfersize_eq]
  by_cases done : split.rest = []
  · rw [done, List.flatten_nil, List.length_nil] at total
    refine ⟨split.revBuf, ?_, fun _ _ => rfl⟩
    rw [call, usbtmcMsgCmdRead_of_eq _ _ _ _ _ (by omega)]
  · have positive := flatten_length_pos done split.nonemptyPieces
    have missing : (split.bytes.length : Int) = split.first.length + split.rest.flatten.length := by
      omega
    have follows := rcvContinue_follows split.revBuf split.bytes.length split.first.length
      repeatReadCnt (split.rest.map .data) positive missing
    have arrived := arrival_chunks repeatReadCnt split.rest split.nonemptyPieces done split.few
    have outcome := follows.outcome
    rw [arrived.1] at outcome
    cases stored : Buffer.overlay? split.revBuf split.rest with
    | none =>
        rcases (Buffer.overlay?_eq_none _ _).mp stored with ⟨piece, member, leaves⟩
        have part := (List.sublist_flatten_of_mem member).length_le
        omega
    | some ended =>
        refine ⟨ended, ?_, ?_⟩
        · rw [call, usbtmcMsgCmdRead_of_gt _ _ _ _ _ (by omega), size]
          simp only [outcome, stored, Ending.result_of_isWhole arrived.2]
          rfl
        · intro position behind
          apply Buffer.overlay?_drop stored
          intro piece member
          exact Nat.le_trans (List.sublist_flatten_of_mem member).length_le behind

/-- The zeros of the padding and of the buffer follow a command that the first
piece brings whole. -/
theorem revBuf_of_long_first (split : SplitTransfer)
    (long : usbTmcHeaderLen + split.payload.length ≤ split.first.length) :
    ∃ rest, split.revBuf.toList = split.header.bytes ++ (split.payload ++ 0 :: rest) := by
  have total := split.pieces_length
  have bound := split.bytes_length_lt
  have front : split.header.bytes ++ split.payload <+: split.bytes := by
    rw [CommandTransfer.bytes, ← List.append_assoc]
    exact List.prefix_append _ _
  obtain ⟨tail, firstSplit⟩ := split.prefix_first _ front (by rw [List.length_append]; exact long)
  have zeros : tail ++ split.rest.flatten =
      List.replicate (Align.padding split.payload.length) 0 := by
    have pieces := split.pieces
    rw [← firstSplit, CommandTransfer.bytes, List.append_assoc, List.append_assoc] at pieces
    exact List.append_cancel_left (List.append_cancel_left pieces)
  have tailZeros : tail = List.replicate tail.length 0 :=
    (List.append_eq_replicate_iff.mp zeros).2.1
  obtain ⟨spare, room⟩ : ∃ spare, usbBufsize - split.first.length = spare + 1 :=
    ⟨usbBufsize - split.first.length - 1, by omega⟩
  have joined : tail ++ List.replicate (spare + 1) 0 =
      0 :: List.replicate (tail.length + spare) 0 := by
    rw [tailZeros, List.replicate_append_replicate, List.length_replicate, ← Nat.add_assoc,
      List.replicate_succ]
  refine ⟨List.replicate (tail.length + spare) 0, ?_⟩
  rw [revBuf_toList, room, ← joined, ← firstSplit]
  simp only [List.append_assoc]

/-- With the whole command in the first piece, the others reach at most three
bytes into the header. -/
theorem reassembled_of_long_first (split : SplitTransfer) (cmdBuf : CmdBuf) (cmdLen : Nat)
    (long : usbTmcHeaderLen + split.payload.length ≤ split.first.length) :
    split.Reassembled cmdBuf cmdLen := by
  have total := split.pieces_length
  have short := split.short
  have pad := Align.padding_lt split.payload.length
  have size := split.bytes_length
  rw [Align.up_eq_add_padding] at size
  obtain ⟨ended, outcome, untouched⟩ := split.call_outcome cmdBuf cmdLen
  obtain ⟨rest, content⟩ := split.revBuf_of_long_first long
  have reach : split.rest.flatten.length ≤ usbTmcHeaderLen := by
    show _ ≤ 12
    omega
  have text : ended.toList.drop usbTmcHeaderLen = split.payload ++ 0 :: rest := by
    rw [untouched _ reach, content]
    exact List.drop_left' rfl
  obtain ⟨copied, finished, command⟩ :=
    rcvFinish_of_zero ended cmdBuf split.payload rest text (by omega)
  rw [CString.takeWhile_eq_self.mpr split.nulFree] at finished command
  exact ⟨_, outcome.trans finished, rfl, rfl, command⟩

/-- Without it, the place of the command's last byte is never written. -/
theorem not_reassembled_of_short_first (split : SplitTransfer) (cmdBuf : CmdBuf) (cmdLen : Nat)
    (cut : split.first.length < usbTmcHeaderLen + split.payload.length) :
    ¬ split.Reassembled cmdBuf cmdLen := by
  have total := split.pieces_length
  have positive := List.length_pos_iff.mpr split.nonempty
  have pad := Align.padding_lt split.payload.length
  have withHeader := split.withHeader
  have size := split.bytes_length
  rw [Align.up_eq_add_padding] at size
  obtain ⟨ended, outcome, untouched⟩ := split.call_outcome cmdBuf cmdLen
  have cell (position : Nat) (behind : split.rest.flatten.length ≤ position) :
      ended.toList[position]? = split.revBuf.toList[position]? := by
    have same := congrArg (·[0]?) (untouched position behind)
    simpa only [List.getElem?_drop, Nat.add_zero] using same
  have zero : (ended.toList.drop usbTmcHeaderLen)[split.payload.length - 1]? = some 0 := by
    have bound := split.bytes_length_lt
    have headerLen : usbTmcHeaderLen = 12 := rfl
    rw [List.getElem?_drop, cell _ (by omega), revBuf_toList,
      List.getElem?_append_right (by omega), List.getElem?_replicate]
    exact if_pos (by omega)
  intro ⟨done, returned, _, whole, _⟩
  have found := rcvFinish_cmdLen (outcome.symm.trans returned)
  have bounded := CString.strlen_le found zero
  omega

/-- A cut inside the command loses its end; no other cut is noticed. -/
theorem reassembled_iff (split : SplitTransfer) (cmdBuf : CmdBuf) (cmdLen : Nat) :
    split.Reassembled cmdBuf cmdLen ↔
      usbTmcHeaderLen + split.payload.length ≤ split.first.length := by
  constructor
  · intro reassembled
    by_contra cut
    exact split.not_reassembled_of_short_first cmdBuf cmdLen (Nat.lt_of_not_le cut) reassembled
  · exact split.reassembled_of_long_first cmdBuf cmdLen

/-- Its last byte comes in a second piece. -/
def lastByteLater : SplitTransfer where
  toCommandTransfer := fiveBytes
  first := [1, 1, 254, 0, 5, 0, 0, 0, 1, 0, 0, 0, 65, 66, 67, 68]
  rest := [[69, 0, 0, 0]]
  nulFree := fiveBytes_nulFree
  pieces := by decide
  withHeader := by decide
  nonemptyPieces := by decide
  few := by decide

theorem lastByteLater_lost : ¬ lastByteLater.Reassembled (Vector.replicate 100 0) 0 :=
  lastByteLater.not_reassembled_of_short_first _ _ (by decide)

end SplitTransfer

end ScpiVxiTmc
