import ScpiVxiTmc.Usb.LengthTest

set_option autoImplicit false

/- A command that one read brings, over what earlier packets left in the receive
buffer. -/
namespace ScpiVxiTmc

namespace CommandTransfer

/-- The receive buffer after the read. -/
def received (transfer : CommandTransfer) (residue : RevBuf) : RevBuf :=
  Buffer.store residue 0 transfer.bytes (by
    have bound := transfer.bytes_length_lt
    omega)

/-- What stands in the receive buffer behind the payload. -/
def behind (transfer : CommandTransfer) (residue : RevBuf) : List UInt8 :=
  List.replicate (Align.padding transfer.payload.length) 0 ++
    residue.toList.drop transfer.bytes.length

/-- The call succeeds with the payload as the command. -/
def Extracts (transfer : CommandTransfer) (residue : RevBuf) (cmdBuf : CmdBuf) (cmdLen : Nat)
    (reads : List SinkRead) : Prop :=
  ∃ done, (usbtmcMsgCmdRead (transfer.received residue) transfer.bytes.length cmdBuf cmdLen
      reads).outcome = .ok done ∧
    done.retValue = 0 ∧ done.cmdLen = transfer.payload.length ∧
    done.cmdBuf.toList.take done.cmdLen = transfer.payload

theorem received_toList (transfer : CommandTransfer) (residue : RevBuf) :
    (transfer.received residue).toList =
      transfer.header.bytes ++ (transfer.payload ++ transfer.behind residue) := by
  rw [received, Buffer.store_front_toList, behind, bytes]
  simp only [List.append_assoc]

theorem received_text (transfer : CommandTransfer) (residue : RevBuf) :
    (transfer.received residue).toList.drop usbTmcHeaderLen =
      transfer.payload ++ transfer.behind residue := by
  rw [received_toList]
  exact List.drop_left' rfl

theorem received_whole (transfer : CommandTransfer) (residue : RevBuf) (cmdBuf : CmdBuf)
    (cmdLen : Nat) (reads : List SinkRead) :
    usbtmcMsgCmdRead (transfer.received residue) transfer.bytes.length cmdBuf cmdLen reads =
      ⟨[], reads, rcvFinish (transfer.received residue) cmdBuf⟩ := by
  apply usbtmcMsgCmdRead_of_eq
  rw [announced, UsbTmcBulkHeader.ofBuf_of_bytes _ _ _ (transfer.received_toList residue)]
  exact transfer.transfersize_eq

/-- Padding ends the command, and without any it takes a zero left there before. -/
theorem behind_head (transfer : CommandTransfer) (residue : RevBuf) :
    (transfer.behind residue)[0]? = some 0 ↔
      transfer.payload.length % 4 ≠ 0 ∨
        residue.toList[usbTmcHeaderLen + transfer.payload.length]? = some 0 := by
  have size := transfer.bytes_length
  rw [Align.up_eq_add_padding] at size
  by_cases padded : transfer.payload.length % 4 = 0
  · have none := Align.padding_eq_zero.mpr padded
    rw [none, Nat.add_zero] at size
    rw [behind, none, List.replicate_zero, List.nil_append, List.getElem?_drop, size, Nat.add_zero]
    exact (or_iff_right (not_not_intro padded)).symm
  · rcases Nat.exists_eq_succ_of_ne_zero (mt Align.padding_eq_zero.mp padded) with ⟨spare, some⟩
    apply iff_of_true _ (Or.inl padded)
    rw [behind, some, List.replicate_succ, List.cons_append, List.getElem?_cons_zero]

/-- The end of the command is searched for, so it has to be marked. -/
theorem extracts_iff (transfer : CommandTransfer) (nulFree : 0 ∉ transfer.payload)
    (residue : RevBuf) (cmdBuf : CmdBuf) (cmdLen : Nat) (reads : List SinkRead) :
    transfer.Extracts residue cmdBuf cmdLen reads ↔
      transfer.payload.length % 4 ≠ 0 ∨
        residue.toList[usbTmcHeaderLen + transfer.payload.length]? = some 0 := by
  have text := transfer.received_text residue
  rw [← transfer.behind_head residue, Extracts, received_whole]
  constructor
  · intro ⟨done, finished, _, whole, _⟩
    have zero := CString.getElem?_of_strlen (rcvFinish_cmdLen finished)
    rw [text, whole, List.getElem?_append_right (Nat.le_refl _), Nat.sub_self] at zero
    exact zero
  · intro marked
    have short := transfer.short
    rw [← List.head?_eq_getElem?, List.head?_eq_some_iff] at marked
    rcases marked with ⟨rest, ended⟩
    rw [ended] at text
    rcases rcvFinish_of_zero (transfer.received residue) cmdBuf transfer.payload _ text (by omega)
      with ⟨copied, finished, command⟩
    rw [CString.takeWhile_eq_self.mpr nulFree] at finished command
    exact ⟨_, finished, rfl, rfl, command⟩

/-- Two receptions over different residues both yield the payload if and only if
its length is no whole number of words or both residues have a zero behind it. -/
theorem residue_independent_iff (transfer : CommandTransfer) (nulFree : 0 ∉ transfer.payload)
    (one other : RevBuf) (cmdBuf : CmdBuf) (cmdLen : Nat) (reads : List SinkRead) :
    (transfer.Extracts one cmdBuf cmdLen reads ∧ transfer.Extracts other cmdBuf cmdLen reads) ↔
      transfer.payload.length % 4 ≠ 0 ∨
        one.toList[usbTmcHeaderLen + transfer.payload.length]? = some 0 ∧
          other.toList[usbTmcHeaderLen + transfer.payload.length]? = some 0 := by
  rw [transfer.extracts_iff nulFree, transfer.extracts_iff nulFree, or_and_left]

theorem residue_independent_five :
    (fiveBytes.Extracts (Vector.replicate usbBufsize 0) (Vector.replicate 100 0) 0 [] ∧
        fiveBytes.Extracts (Vector.replicate usbBufsize 7) (Vector.replicate 100 0) 0 []) ↔
      fiveBytes.payload.length % 4 ≠ 0 ∨
        (Vector.replicate usbBufsize (0 : UInt8)).toList[
            usbTmcHeaderLen + fiveBytes.payload.length]? = some 0 ∧
          (Vector.replicate usbBufsize (7 : UInt8)).toList[
            usbTmcHeaderLen + fiveBytes.payload.length]? = some 0 :=
  residue_independent_iff fiveBytes fiveBytes_nulFree _ _ _ 0 []

/-- The command FGHI -/
def fourBytes : CommandTransfer where
  header := ⟨devDepMsgOut, 2, 253, 0, 4, attribEom, 0, 0, 0⟩
  payload := [70, 71, 72, 73]
  isCommand := rfl
  sized := rfl
  nonempty := by decide
  short := by decide

/-- After the command ABCDE it is taken for FGHIE. -/
theorem residue_shows :
    ¬ (fourBytes.Extracts (Vector.replicate usbBufsize 0) (Vector.replicate 100 0) 0 [] ∧
      fourBytes.Extracts (fiveBytes.received (Vector.replicate usbBufsize 0))
        (Vector.replicate 100 0) 0 []) := by
  intro both
  rcases (fourBytes.extracts_iff (by decide) _ _ _ _).mp both.2 with padded | marked
  · exact padded rfl
  · rw [received_toList] at marked
    exact absurd marked (by decide)

end CommandTransfer

end ScpiVxiTmc
