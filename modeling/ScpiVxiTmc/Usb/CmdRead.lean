import ScpiVxiTmc.Lib.CString
import ScpiVxiTmc.Usb.Packet

set_option autoImplicit false

namespace ScpiVxiTmc

/-- `REPEAT_READ_CNT` -/
abbrev repeatReadCnt : Nat := 10

/-- `cmd_buf` of the sink thread. -/
abbrev CmdBuf := Vector UInt8 100

/-- What comes back from a `read` of `sink_fd`. -/
inductive SinkRead
  | data (bytes : List UInt8)
  | failed

/-- Why a call has no result: it waits for a packet, or it left an array. -/
inductive NoReturn
  | blocked
  | readPastRevBuf
  | scanPastRevBuf
  | copyPastCmdBuf

/-- A call that reads from the sink endpoint: the counts its reads asked for,
what it left for later reads, and its result. -/
structure SinkCall (α : Type) where
  asked : List Int
  later : List SinkRead
  outcome : Except NoReturn α

/-- The result of `usbtmc_msg_cmd_read`, with what it wrote through its pointers. -/
structure CmdRead where
  retValue : Int
  revBuf : RevBuf
  cmdBuf : CmdBuf
  cmdLen : Nat

/-- The length of a transfer. The size is an unsigned int and so is the first
sum; then it becomes an int, whose overflow is taken to wrap. -/
def transfersizeOf (transferSize : BitVec 32) : Int :=
  ((transferSize + 12#32 + 3#32) &&& ~~~3#32).toInt

/-- The code at `rcv_finish` -/
def rcvFinish (revBuf : RevBuf) (cmdBuf : CmdBuf) : Except NoReturn CmdRead :=
  let text := revBuf.toList.drop usbTmcHeaderLen
  match CString.strlen text with
  | none => .error .scanPastRevBuf
  | some cmdLen =>
      match Buffer.store? cmdBuf 0 (text.take cmdLen) with
      | none => .error .copyPastCmdBuf
      | some copied => .ok ⟨0, revBuf, copied, cmdLen⟩

/-- The loop at `rcv_continue`, by the rounds that `REPEAT_READ_CNT` still allows.
It ends with the value to return and the receive buffer; with 0 it goes on to
`rcv_finish`, also after a read that brought nothing. Every read stores at the
start of `rev_buf`, and none brings more than it was asked for. -/
def rcvContinue (transfersize : Int) :
    Nat → RevBuf → Int → List SinkRead → SinkCall (Int × RevBuf)
  | 0, revBuf, _, reads => ⟨[], reads, .ok (-2, revBuf)⟩
  | _ + 1, _, rcvedLen, [] => ⟨[transfersize - rcvedLen], [], .error .blocked⟩
  | _ + 1, revBuf, rcvedLen, .failed :: later =>
      ⟨[transfersize - rcvedLen], later, .ok (0, revBuf)⟩
  | left + 1, revBuf, rcvedLen, .data bytes :: later =>
      let nendLen := transfersize - rcvedLen
      let got := bytes.take nendLen.toNat
      if got = [] then
        ⟨[nendLen], later, .ok (0, revBuf)⟩
      else
        match Buffer.store? revBuf 0 got with
        | none => ⟨[nendLen], later, .error .readPastRevBuf⟩
        | some filled =>
            if transfersize > rcvedLen + got.length then
              let rest := rcvContinue transfersize left filled (rcvedLen + got.length) later
              { rest with asked := nendLen :: rest.asked }
            else
              ⟨[nendLen], later, .ok (0, filled)⟩

/-- `usbtmc_msg_cmd_read`; its packet pointer points at the start of `rev_buf`. -/
def usbtmcMsgCmdRead (revBuf : RevBuf) (rcvLen : Int) (cmdBuf : CmdBuf) (cmdLen : Nat)
    (reads : List SinkRead) : SinkCall CmdRead :=
  let transfersize := transfersizeOf (UsbTmcBulkHeader.ofBuf revBuf).transferSize
  if transfersize = rcvLen then
    ⟨[], reads, rcvFinish revBuf cmdBuf⟩
  else if transfersize < rcvLen then
    ⟨[], reads, .ok ⟨-1, revBuf, cmdBuf, cmdLen⟩⟩
  else
    let rcved := rcvContinue transfersize repeatReadCnt revBuf rcvLen reads
    ⟨rcved.asked, rcved.later, rcved.outcome.bind fun ended =>
      if ended.1 = 0 then rcvFinish ended.2 cmdBuf
      else .ok ⟨ended.1, ended.2, cmdBuf, cmdLen⟩⟩

/-- The bits of the rounded sum are those of the length on the wire. -/
theorem toNat_transfersize (transferSize : BitVec 32) :
    ((transferSize + 12#32 + 3#32) &&& ~~~3#32).toNat =
      (usbTmcHeaderLen + Align.up transferSize.toNat) % 2 ^ 32 := by
  have bound := transferSize.isLt
  rw [Align.toNat_and_not_three]
  simp only [BitVec.toNat_add, BitVec.toNat_ofNat]
  show _ = (12 + (transferSize.toNat + 3) / 4 * 4) % 2 ^ 32
  omega

theorem transfersizeOf_eq (transferSize : BitVec 32) (small : transferSize.toNat + 15 < 2 ^ 31) :
    transfersizeOf transferSize = (usbTmcHeaderLen + Align.up transferSize.toNat : Nat) := by
  have length : usbTmcHeaderLen + Align.up transferSize.toNat < 2 ^ 31 := by
    show 12 + (transferSize.toNat + 3) / 4 * 4 < 2 ^ 31
    omega
  have bits := toNat_transfersize transferSize
  rw [Nat.mod_eq_of_lt (by omega)] at bits
  rw [transfersizeOf, BitVec.toInt_eq_toNat_of_lt (by omega), bits]

theorem CommandTransfer.transfersize_eq (transfer : CommandTransfer) :
    transfersizeOf transfer.header.transferSize = transfer.bytes.length := by
  have short := transfer.short
  have sized := transfer.sized
  rw [transfersizeOf_eq _ (by omega), sized, bytes_length]

/-- The command found is what stands in front of the first zero byte. -/
theorem rcvFinish_of_zero (revBuf : RevBuf) (cmdBuf : CmdBuf) (front rest : List UInt8)
    (content : revBuf.toList.drop usbTmcHeaderLen = front ++ 0 :: rest)
    (short : front.length ≤ 100) :
    ∃ copied, rcvFinish revBuf cmdBuf =
        .ok ⟨0, revBuf, copied, (front.takeWhile (· ≠ 0)).length⟩ ∧
      copied.toList.take (front.takeWhile (· ≠ 0)).length = front.takeWhile (· ≠ 0) := by
  have smaller := (List.takeWhile_sublist (l := front) (· ≠ 0)).length_le
  have text : (front ++ 0 :: rest).take (front.takeWhile (· ≠ 0)).length =
      front.takeWhile (· ≠ 0) := by
    rw [List.take_append_of_le_length smaller]
    exact List.prefix_iff_eq_take.mp (List.takeWhile_prefix _) |>.symm
  have fits : 0 + (front.takeWhile (· ≠ 0)).length ≤ 100 := by omega
  refine ⟨Buffer.store cmdBuf 0 (front.takeWhile (· ≠ 0)) fits, ?_, ?_⟩
  · simp only [rcvFinish, content, CString.strlen_append_zero, text,
      Buffer.store?_of_fits _ _ _ fits]
  · exact Buffer.store_front_take _ _ fits

theorem rcvFinish_cmdLen {revBuf : RevBuf} {cmdBuf : CmdBuf} {done : CmdRead}
    (finished : rcvFinish revBuf cmdBuf = .ok done) :
    CString.strlen (revBuf.toList.drop usbTmcHeaderLen) = some done.cmdLen := by
  simp only [rcvFinish] at finished
  split at finished
  · cases finished
  · rename_i cmdLen found
    split at finished
    · cases finished
    · cases finished
      exact found

/-- A transfer that one read delivers is parsed up to its first zero byte. -/
theorem usbtmcMsgCmdRead_whole (transfer : CommandTransfer) (revBuf : RevBuf) (cmdBuf : CmdBuf)
    (cmdLen : Nat) (reads : List SinkRead) (rest : List UInt8)
    (content : revBuf.toList = transfer.header.bytes ++ (transfer.payload ++ 0 :: rest)) :
    ∃ copied, usbtmcMsgCmdRead revBuf transfer.bytes.length cmdBuf cmdLen reads =
        ⟨[], reads, .ok ⟨0, revBuf, copied, (transfer.payload.takeWhile (· ≠ 0)).length⟩⟩ ∧
      copied.toList.take (transfer.payload.takeWhile (· ≠ 0)).length =
        transfer.payload.takeWhile (· ≠ 0) := by
  have header := UsbTmcBulkHeader.ofBuf_of_bytes transfer.header revBuf _ content
  have data : revBuf.toList.drop usbTmcHeaderLen = transfer.payload ++ 0 :: rest := by
    rw [content]
    exact List.drop_left' rfl
  have short := transfer.short
  obtain ⟨copied, finished, command⟩ :=
    rcvFinish_of_zero revBuf cmdBuf transfer.payload rest data (by omega)
  refine ⟨copied, ?_, command⟩
  simp only [usbtmcMsgCmdRead, header, transfer.transfersize_eq, ↓reduceIte, finished]

/-- The command ABCDE -/
def fiveBytes : CommandTransfer where
  header := ⟨devDepMsgOut, 1, 254, 0, 5, attribEom, 0, 0, 0⟩
  payload := [65, 66, 67, 68, 69]
  isCommand := rfl
  sized := rfl
  nonempty := by decide
  short := by decide

theorem fiveBytes_nulFree : 0 ∉ fiveBytes.payload := by decide

end ScpiVxiTmc
