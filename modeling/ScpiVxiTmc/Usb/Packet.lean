import Mathlib.Algebra.Group.Nat.Defs
import ScpiVxiTmc.Lib.Align
import ScpiVxiTmc.Lib.Buffer

set_option autoImplicit false

namespace ScpiVxiTmc

/-- `USB_BUFSIZE` -/
abbrev usbBufsize : Nat := 512

/-- `USB_TMC_HEADER_LEN` -/
abbrev usbTmcHeaderLen : Nat := 12

/-- `USB_TMC_DATA_MAX` -/
abbrev usbTmcDataMax : Nat := usbBufsize - usbTmcHeaderLen

/-- `DEV_DEP_MSG_OUT` -/
abbrev devDepMsgOut : UInt8 := 1

/-- `REQUEST_DEV_DEP_MSG_IN` -/
abbrev requestDevDepMsgIn : UInt8 := 2

/-- `USB_TMC_BULK_HEADER_BMTRANSFER_ATTRIB_EOM` -/
abbrev attribEom : UInt8 := 1

/-- `USB_TMC_BULK_HEADER_BMTRANSFER_ATTRIB_TERMCHAR` -/
abbrev attribTermchar : UInt8 := 2

/-- The receive buffer of the sink thread. -/
abbrev RevBuf := Vector UInt8 usbBufsize

/-- `struct usb_tmc_bulk_header`. The members of its union that the code uses
have the transfer size and the attributes in the same place; what they call the
last three bytes differs, and no function reads those. -/
structure UsbTmcBulkHeader where
  msgID : UInt8
  bTag : UInt8
  bTagInverse : UInt8
  reserved : UInt8
  transferSize : BitVec 32
  bmTransferAttributes : UInt8
  last0 : UInt8
  last1 : UInt8
  last2 : UInt8
  deriving DecidableEq

/-- An unsigned int from its bytes in memory; the target is little-endian. -/
def le32 (b0 b1 b2 b3 : UInt8) : BitVec 32 :=
  BitVec.ofNat 32 (b0.toNat + 256 * b1.toNat + 65536 * b2.toNat + 16777216 * b3.toNat)

/-- The byte of an unsigned int at one of the places 0 to 3 in memory. -/
def le32Byte (word : BitVec 32) (place : Nat) : UInt8 := UInt8.ofNat (word.toNat / 256 ^ place)

theorem le32_le32Byte (word : BitVec 32) :
    le32 (le32Byte word 0) (le32Byte word 1) (le32Byte word 2) (le32Byte word 3) = word := by
  have bound := word.isLt
  apply BitVec.eq_of_toNat_eq
  simp only [le32, le32Byte, BitVec.toNat_ofNat, UInt8.toNat_ofNat']
  omega

namespace UsbTmcBulkHeader

/-- The twelve bytes of the packed structure. -/
def bytes (header : UsbTmcBulkHeader) : List UInt8 :=
  [header.msgID, header.bTag, header.bTagInverse, header.reserved,
    le32Byte header.transferSize 0, le32Byte header.transferSize 1,
    le32Byte header.transferSize 2, le32Byte header.transferSize 3,
    header.bmTransferAttributes, header.last0, header.last1, header.last2]

/-- The structure that a pointer to the start of the buffer points at. -/
def ofBuf (buf : RevBuf) : UsbTmcBulkHeader where
  msgID := buf[0]
  bTag := buf[1]
  bTagInverse := buf[2]
  reserved := buf[3]
  transferSize := le32 buf[4] buf[5] buf[6] buf[7]
  bmTransferAttributes := buf[8]
  last0 := buf[9]
  last1 := buf[10]
  last2 := buf[11]

@[simp] theorem bytes_length (header : UsbTmcBulkHeader) :
    header.bytes.length = usbTmcHeaderLen := rfl

/-- A buffer that starts with a header's bytes is read as that header. -/
theorem ofBuf_of_bytes (header : UsbTmcBulkHeader) (buf : RevBuf) (rest : List UInt8)
    (content : buf.toList = header.bytes ++ rest) : ofBuf buf = header := by
  have cell (i : Nat) (inside : i < usbTmcHeaderLen) (bound : i < usbBufsize) :
      buf[i] = header.bytes.get ⟨i, inside⟩ := by
    have listed : i < buf.toList.length := by
      rw [Vector.length_toList]
      exact bound
    rw [← Vector.getElem_toList listed]
    simp only [content]
    exact List.getElem_append_left inside
  simp only [ofBuf, cell 0 (by decide), cell 1 (by decide), cell 2 (by decide),
    cell 3 (by decide), cell 4 (by decide), cell 5 (by decide), cell 6 (by decide),
    cell 7 (by decide), cell 8 (by decide), cell 9 (by decide), cell 10 (by decide),
    cell 11 (by decide), bytes, List.get_eq_getElem, List.getElem_cons_zero,
    List.getElem_cons_succ, le32_le32Byte]

/-- The buffer after stores to all members of the structure at its start. -/
def putBuf (header : UsbTmcBulkHeader) (buf : RevBuf) : RevBuf :=
  Buffer.store buf 0 header.bytes (by show 0 + 12 ≤ 512; decide)

theorem putBuf_toList (header : UsbTmcBulkHeader) (buf : RevBuf) :
    (header.putBuf buf).toList = header.bytes ++ buf.toList.drop usbTmcHeaderLen :=
  Buffer.store_front_toList buf header.bytes _

@[simp] theorem ofBuf_putBuf (header : UsbTmcBulkHeader) (buf : RevBuf) :
    ofBuf (header.putBuf buf) = header :=
  ofBuf_of_bytes header _ _ (header.putBuf_toList buf)

theorem eq_of_bytes_eq {header other : UsbTmcBulkHeader} (same : header.bytes = other.bytes) :
    header = other := by
  have buf : RevBuf := Vector.replicate usbBufsize 0
  have content := header.putBuf_toList buf
  rw [same] at content
  rw [← header.ofBuf_putBuf buf]
  exact ofBuf_of_bytes other _ _ content

theorem putBuf_take (header : UsbTmcBulkHeader) (buf : RevBuf) :
    (header.putBuf buf).toList.take usbTmcHeaderLen = header.bytes :=
  Buffer.store_front_take buf header.bytes _

theorem putBuf_drop (header : UsbTmcBulkHeader) (buf : RevBuf) (len : Nat) :
    (header.putBuf buf).toList.drop (usbTmcHeaderLen + len) =
      buf.toList.drop (usbTmcHeaderLen + len) := by
  apply Buffer.store_drop_of_le
  rw [bytes_length]
  omega

end UsbTmcBulkHeader

/-- A `DEV_DEP_MSG_OUT` transfer as a host sends it, with a command that leaves
room in `cmd_buf`. -/
structure CommandTransfer where
  header : UsbTmcBulkHeader
  payload : List UInt8
  isCommand : header.msgID = devDepMsgOut
  sized : header.transferSize.toNat = payload.length
  nonempty : payload ≠ []
  short : payload.length ≤ 99

namespace CommandTransfer

/-- Header and command, filled up with zeros to whole words. -/
def bytes (transfer : CommandTransfer) : List UInt8 :=
  transfer.header.bytes ++
    (transfer.payload ++ List.replicate (Align.padding transfer.payload.length) 0)

theorem bytes_length (transfer : CommandTransfer) :
    transfer.bytes.length = usbTmcHeaderLen + Align.up transfer.payload.length := by
  rw [bytes, List.length_append, List.length_append, List.length_replicate,
    UsbTmcBulkHeader.bytes_length, Align.up_eq_add_padding]

theorem bytes_length_lt (transfer : CommandTransfer) : transfer.bytes.length < usbBufsize := by
  have short := transfer.short
  have pad := Align.padding_lt transfer.payload.length
  rw [bytes_length, Align.up_eq_add_padding]
  show 12 + _ < 512
  omega

end CommandTransfer

end ScpiVxiTmc
