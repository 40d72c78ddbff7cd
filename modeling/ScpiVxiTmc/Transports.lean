import ScpiVxiTmc.Usb.Sink
import ScpiVxiTmc.Vxi.DeviceCore

set_option autoImplicit false

namespace ScpiVxiTmc

/-- A sink thread whose receive buffer is zero. -/
def zeroedSink (a : Adapter) (cmdBuf : CmdBuf) (cmdLen : Nat) : SinkThread :=
  ⟨Vector.replicate usbBufsize 0, cmdBuf, cmdLen, a⟩

/-- The command comes over USB and over VXI-11 into the same adapter state: both
queue exactly its bytes and post as many messages. -/
def SameHandover (a : Adapter) (transfer : CommandTransfer) (cmdBuf : CmdBuf) (cmdLen : Nat)
    (accepted : Bool) : Prop :=
  ∃ writes next later reply after,
    sinkRound (zeroedSink a cmdBuf cmdLen) [.data transfer.bytes] accepted =
      .next writes next later ∧
    deviceWrite a ⟨upo3000Lid, transfer.payload⟩ accepted = some (reply, after) ∧
    next.adapter.rx.unread = a.rx.unread ++ transfer.payload ∧
    after.rx.unread = a.rx.unread ++ transfer.payload ∧
    next.adapter.msgQueue.length = after.msgQueue.length

/-- USB hands over what stands in front of the first zero byte. -/
theorem sinkRound_of_zeroed (a : Adapter) (transfer : CommandTransfer) (cmdBuf : CmdBuf)
    (cmdLen : Nat) (accepted : Bool) :
    ∃ next, sinkRound (zeroedSink a cmdBuf cmdLen) [.data transfer.bytes] accepted =
        .next [] next [] ∧
      next.adapter.rx = (a.rx.write (transfer.payload.takeWhile (· ≠ 0))).2 ∧
      next.adapter.msgQueue = a.msgQueue ++ if accepted then [⟨1⟩] else [] := by
  have bound := transfer.bytes_length_lt
  obtain ⟨spare, room⟩ : ∃ spare, usbBufsize - transfer.bytes.length = spare + 1 :=
    ⟨usbBufsize - transfer.bytes.length - 1, by omega⟩
  obtain ⟨next, moved, after⟩ := sinkRound_transfer (zeroedSink a cmdBuf cmdLen) transfer []
    accepted (List.replicate (Align.padding transfer.payload.length + spare) 0) (by
      rw [zeroedSink, Vector.toList_replicate, List.drop_replicate, room,
        List.replicate_append_replicate, ← Nat.add_assoc, List.replicate_succ])
  refine ⟨next, moved, ?_, ?_⟩
  · rw [after, scpiMsgReponseWrite_ring]
    exact scpiMsgCmdWrite_rx a _ accepted
  · rw [after, scpiMsgReponseWrite_ring]
    exact scpiMsgCmdWrite_msgQueue a _ accepted

theorem sameHandover_iff (a : Adapter) (transfer : CommandTransfer) (cmdBuf : CmdBuf)
    (cmdLen : Nat) (accepted : Bool) (inside : a.rx.InRange)
    (room : a.rx.unread.length + transfer.payload.length ≤ 1023) :
    SameHandover a transfer cmdBuf cmdLen accepted ↔ 0 ∉ transfer.payload := by
  have short := transfer.short
  have smaller := (List.takeWhile_sublist (l := transfer.payload) (· ≠ 0)).length_le
  have bufMax : scpiBufMax = 1024 := rfl
  have appended (text : List UInt8) (fits : text.length ≤ transfer.payload.length) :
      (a.rx.write text).2.unread = a.rx.unread ++ text := by
    apply (ByteRing.write_unread_eq_append_iff a.rx text inside).mpr
    rw [← ByteRing.unread_length]
    omega
  obtain ⟨next, moved, usbRing, usbQueue⟩ :=
    sinkRound_of_zeroed a transfer cmdBuf cmdLen accepted
  have usbUnread : next.adapter.rx.unread =
      a.rx.unread ++ transfer.payload.takeWhile (· ≠ 0) := by
    rw [usbRing]
    exact appended _ smaller
  rw [← CString.takeWhile_eq_self]
  constructor
  · intro ⟨writes, other, later, _, _, usbMoved, _, usbSame, _⟩
    rw [moved, SinkRound.next.injEq] at usbMoved
    rw [← usbMoved.2.1, usbUnread] at usbSame
    exact List.append_cancel_left usbSame
  · intro free
    refine ⟨[], next, [], _, _, moved, deviceWrite_of_link a _ accepted (by omega), ?_, ?_, ?_⟩
    · rw [usbUnread, free]
    · rw [scpiMsgCmdWrite_rx]
      exact appended _ (Nat.le_refl _)
    · rw [usbQueue, scpiMsgCmdWrite_msgQueue]

/-- A zero byte in a command, as a binary block may have, tells the transports
apart; nothing else does. -/
theorem same_handover_iff (a : Adapter) (transfer : CommandTransfer) (cmdBuf : CmdBuf)
    (cmdLen : Nat) (accepted : Bool) (reached : a.Reachable)
    (room : a.rx.unread.length + transfer.payload.length ≤ 1023) :
    SameHandover a transfer cmdBuf cmdLen accepted ↔ 0 ∉ transfer.payload :=
  sameHandover_iff a transfer cmdBuf cmdLen accepted reached.inRange.rx room

theorem same_handover_five_bytes :
    SameHandover .init fiveBytes (Vector.replicate 100 0) 0 true ↔
      0 ∉ fiveBytes.payload :=
  same_handover_iff .init fiveBytes _ 0 true (Machine.Reachable.start _ _) (by decide)

/-- A block of the two bytes 0 and 1, announced by `#12`. -/
def binaryBlock : CommandTransfer where
  header := fiveBytes.header
  payload := [35, 49, 50, 0, 1]
  isCommand := fiveBytes.isCommand
  sized := rfl
  nonempty := by decide
  short := by decide

theorem binaryBlock_cut :
    Adapter.init.Reachable ∧
      ¬ SameHandover .init binaryBlock (Vector.replicate 100 0) 0 true := by
  refine ⟨Machine.Reachable.start _ _, ?_⟩
  rw [sameHandover_iff _ _ _ _ _ Adapter.init_inRange.rx (by decide)]
  decide

end ScpiVxiTmc
