import ScpiVxiTmc.Usb.CmdRead

set_option autoImplicit false

/- The length test of `usbtmc_msg_cmd_read` against the same length over the
integers. -/
namespace ScpiVxiTmc

/-- The bytes of a transfer whose header announces this size. -/
def wireLength (transferSize : BitVec 32) : Nat := usbTmcHeaderLen + Align.up transferSize.toNat

/-- The same length as an unsigned int holds it. -/
def wantedLength (transferSize : BitVec 32) : Nat := wireLength transferSize % 2 ^ 32

/-- Where that is no negative int, it is the length that the code works with. -/
theorem transfersizeOf_of_half {transferSize : BitVec 32}
    (half : wantedLength transferSize < 2 ^ 31) :
    transfersizeOf transferSize = (wantedLength transferSize : Nat) := by
  have bits : _ = wantedLength transferSize := toNat_transfersize transferSize
  rw [transfersizeOf, BitVec.toInt_eq_toNat_of_lt (by omega), bits]

theorem transfersizeOf_neg {transferSize : BitVec 32}
    (large : 2 ^ 31 ≤ wantedLength transferSize) : transfersizeOf transferSize < 0 := by
  have bits : _ = wantedLength transferSize := toNat_transfersize transferSize
  rw [transfersizeOf, BitVec.toInt_neg_iff, bits]
  omega

/-- What the test makes of the two lengths decides a property of the call. -/
theorem length_test_cases {transferSize : BitVec 32} {rcvLen : Nat} {property whole part : Prop}
    (ofOver : transfersizeOf transferSize < rcvLen → property)
    (ofWhole : wantedLength transferSize < 2 ^ 31 → rcvLen = wantedLength transferSize →
      (property ↔ whole))
    (ofPart : wantedLength transferSize < 2 ^ 31 → rcvLen < wantedLength transferSize →
      (property ↔ part)) :
    property ↔ (wantedLength transferSize < 2 ^ 31 →
      (rcvLen = wantedLength transferSize → whole) ∧
        (rcvLen < wantedLength transferSize → part)) := by
  by_cases half : wantedLength transferSize < 2 ^ 31
  · have size := transfersizeOf_of_half half
    rw [forall_prop_of_true half]
    rcases Nat.lt_trichotomy (wantedLength transferSize) rcvLen with exceeds | same | short
    · apply iff_of_true (ofOver (by omega))
      exact ⟨fun _ => by omega, fun _ => by omega⟩
    · rw [ofWhole half same.symm]
      exact ⟨fun holds => ⟨fun _ => holds, fun _ => by omega⟩, fun both => both.1 same.symm⟩
    · rw [ofPart half short]
      exact ⟨fun holds => ⟨fun _ => by omega, fun _ => holds⟩, fun both => both.2 short⟩
  · have negative := transfersizeOf_neg (Nat.le_of_not_lt half)
    apply iff_of_true (ofOver (by omega))
    exact fun small => absurd small half

theorem rcvFinish_retValue {revBuf : RevBuf} {cmdBuf : CmdBuf} {done : CmdRead}
    (finished : rcvFinish revBuf cmdBuf = .ok done) : done.retValue = 0 := by
  simp only [rcvFinish] at finished
  split at finished
  · cases finished
  · split at finished
    · cases finished
    · cases finished
      rfl

/-- Before anything else a round asks for all that is missing. -/
theorem rcvContinue_asked (transfersize : Int) (left : Nat) (revBuf : RevBuf) (rcvedLen : Int)
    (reads : List SinkRead) :
    (rcvContinue transfersize (left + 1) revBuf rcvedLen reads).asked.head? =
      some (transfersize - rcvedLen) := by
  cases reads with
  | nil => rfl
  | cons read later =>
      cases read with
      | failed => rfl
      | data bytes =>
          simp only [rcvContinue]
          split
          · rfl
          · split
            · rfl
            · split
              · rfl
              · rfl

section
variable (revBuf : RevBuf) (rcvLen : Int) (cmdBuf : CmdBuf) (cmdLen : Nat)
  (reads : List SinkRead)

/-- The size that the header in the receive buffer announces. -/
abbrev announced : BitVec 32 := (UsbTmcBulkHeader.ofBuf revBuf).transferSize

theorem usbtmcMsgCmdRead_of_eq (whole : transfersizeOf (announced revBuf) = rcvLen) :
    usbtmcMsgCmdRead revBuf rcvLen cmdBuf cmdLen reads =
      ⟨[], reads, rcvFinish revBuf cmdBuf⟩ := by
  rw [usbtmcMsgCmdRead, if_pos whole]

theorem usbtmcMsgCmdRead_of_lt (exceeds : transfersizeOf (announced revBuf) < rcvLen) :
    usbtmcMsgCmdRead revBuf rcvLen cmdBuf cmdLen reads =
      ⟨[], reads, .ok ⟨-1, revBuf, cmdBuf, cmdLen⟩⟩ := by
  rw [usbtmcMsgCmdRead, if_neg (Int.ne_of_lt exceeds), if_pos exceeds]

theorem usbtmcMsgCmdRead_of_gt (part : rcvLen < transfersizeOf (announced revBuf)) :
    usbtmcMsgCmdRead revBuf rcvLen cmdBuf cmdLen reads =
      let rcved := rcvContinue (transfersizeOf (announced revBuf)) repeatReadCnt revBuf rcvLen reads
      ⟨rcved.asked, rcved.later, rcved.outcome.bind fun ended =>
        if ended.1 = 0 then rcvFinish ended.2 cmdBuf
        else .ok ⟨ended.1, ended.2, cmdBuf, cmdLen⟩⟩ := by
  rw [usbtmcMsgCmdRead, if_neg (Int.ne_of_gt part), if_neg (Int.not_lt.mpr (Int.le_of_lt part))]

theorem usbtmcMsgCmdRead_asked (part : rcvLen < transfersizeOf (announced revBuf)) :
    (usbtmcMsgCmdRead revBuf rcvLen cmdBuf cmdLen reads).asked.head? =
      some (transfersizeOf (announced revBuf) - rcvLen) := by
  rw [usbtmcMsgCmdRead_of_gt revBuf rcvLen cmdBuf cmdLen reads part]
  exact rcvContinue_asked _ _ _ _ _

theorem usbtmcMsgCmdRead_asked_nil (enough : transfersizeOf (announced revBuf) ≤ rcvLen) :
    (usbtmcMsgCmdRead revBuf rcvLen cmdBuf cmdLen reads).asked = [] := by
  rcases Int.lt_or_eq_of_le enough with exceeds | whole
  · rw [usbtmcMsgCmdRead_of_lt revBuf rcvLen cmdBuf cmdLen reads exceeds]
  · rw [usbtmcMsgCmdRead_of_eq revBuf rcvLen cmdBuf cmdLen reads whole]

/-- The three ways on from the test are told apart by what the call asks for and
returns. -/
theorem complete_iff :
    usbtmcMsgCmdRead revBuf rcvLen cmdBuf cmdLen reads = ⟨[], reads, rcvFinish revBuf cmdBuf⟩ ↔
      transfersizeOf (announced revBuf) = rcvLen := by
  constructor
  · intro completed
    rcases Int.lt_trichotomy (transfersizeOf (announced revBuf)) rcvLen with exceeds | whole | part
    · rw [usbtmcMsgCmdRead_of_lt revBuf rcvLen cmdBuf cmdLen reads exceeds] at completed
      have returned : (-1 : Int) = 0 :=
        rcvFinish_retValue (congrArg SinkCall.outcome completed).symm
      cases returned
    · exact whole
    · have asks := usbtmcMsgCmdRead_asked revBuf rcvLen cmdBuf cmdLen reads part
      rw [completed] at asks
      cases asks
  · exact usbtmcMsgCmdRead_of_eq revBuf rcvLen cmdBuf cmdLen reads

theorem oversized_iff :
    usbtmcMsgCmdRead revBuf rcvLen cmdBuf cmdLen reads =
        ⟨[], reads, .ok ⟨-1, revBuf, cmdBuf, cmdLen⟩⟩ ↔
      transfersizeOf (announced revBuf) < rcvLen := by
  constructor
  · intro refused
    rcases Int.lt_trichotomy (transfersizeOf (announced revBuf)) rcvLen with exceeds | whole | part
    · exact exceeds
    · rw [usbtmcMsgCmdRead_of_eq revBuf rcvLen cmdBuf cmdLen reads whole] at refused
      have returned : (-1 : Int) = 0 := rcvFinish_retValue (congrArg SinkCall.outcome refused)
      cases returned
    · have asks := usbtmcMsgCmdRead_asked revBuf rcvLen cmdBuf cmdLen reads part
      rw [refused] at asks
      cases asks
  · exact usbtmcMsgCmdRead_of_lt revBuf rcvLen cmdBuf cmdLen reads

end

/-- The test finds out how the first read relates to the length on the wire, and
what is missing is asked for to the byte. -/
structure LengthTestExact (revBuf : RevBuf) (rcvLen : Nat) (cmdBuf : CmdBuf) (cmdLen : Nat)
    (reads : List SinkRead) : Prop where
  complete : usbtmcMsgCmdRead revBuf rcvLen cmdBuf cmdLen reads =
      ⟨[], reads, rcvFinish revBuf cmdBuf⟩ ↔ rcvLen = wireLength (announced revBuf)
  oversized : usbtmcMsgCmdRead revBuf rcvLen cmdBuf cmdLen reads =
      ⟨[], reads, .ok ⟨-1, revBuf, cmdBuf, cmdLen⟩⟩ ↔ wireLength (announced revBuf) < rcvLen
  missing : rcvLen < wireLength (announced revBuf) →
    (usbtmcMsgCmdRead revBuf rcvLen cmdBuf cmdLen reads).asked.head? =
      some ((wireLength (announced revBuf) - rcvLen : Nat) : Int)

/-- The test is exact below 2 GiB and at no larger size. -/
theorem length_test_exact_iff (revBuf : RevBuf) (rcvLen : Nat) (cmdBuf : CmdBuf) (cmdLen : Nat)
    (reads : List SinkRead) (withHeader : usbTmcHeaderLen ≤ rcvLen) (fits : rcvLen ≤ usbBufsize) :
    LengthTestExact revBuf rcvLen cmdBuf cmdLen reads ↔
      (announced revBuf).toNat + 15 < 2 ^ 31 := by
  constructor
  · intro judged
    by_contra large
    have length : wireLength (announced revBuf) = 12 + ((announced revBuf).toNat + 3) / 4 * 4 := rfl
    have bound : (announced revBuf).toNat < 2 ^ 32 := (announced revBuf).isLt
    have header : 12 ≤ rcvLen := withHeader
    have small : rcvLen ≤ 512 := fits
    have longer : rcvLen < wireLength (announced revBuf) := by omega
    have enough : transfersizeOf (announced revBuf) ≤ rcvLen := by
      by_cases half : wantedLength (announced revBuf) < 2 ^ 31
      · rw [transfersizeOf_of_half half]
        rw [wantedLength] at half ⊢
        omega
      · have negative := transfersizeOf_neg (Nat.le_of_not_lt half)
        omega
    have asks := judged.missing longer
    rw [usbtmcMsgCmdRead_asked_nil revBuf rcvLen cmdBuf cmdLen reads enough] at asks
    cases asks
  · intro small
    have size : transfersizeOf (announced revBuf) = (wireLength (announced revBuf) : Nat) :=
      transfersizeOf_eq _ small
    refine ⟨?_, ?_, ?_⟩
    · rw [complete_iff, size]
      omega
    · rw [oversized_iff, size]
      omega
    · intro part
      rw [usbtmcMsgCmdRead_asked revBuf rcvLen cmdBuf cmdLen reads (by omega), size]
      congr 1
      omega

theorem length_test_exact_five :
    LengthTestExact (fiveBytes.header.putBuf (Vector.replicate usbBufsize 0)) 20
        (Vector.replicate 100 0) 0 [] ↔
      (announced (fiveBytes.header.putBuf (Vector.replicate usbBufsize 0))).toNat + 15 < 2 ^ 31 :=
  length_test_exact_iff _ 20 _ 0 [] (by decide) (by decide)

/-- The header of a command of 2 GiB -/
def twoGigabytes : UsbTmcBulkHeader :=
  ⟨devDepMsgOut, 1, 254, 0, BitVec.ofNat 32 2147483648, attribEom, 0, 0, 0⟩

/-- Its first packet counts as too long. -/
theorem two_gigabytes_oversized (revBuf : RevBuf) (cmdBuf : CmdBuf) (cmdLen : Nat)
    (reads : List SinkRead) :
    usbtmcMsgCmdRead (twoGigabytes.putBuf revBuf) 512 cmdBuf cmdLen reads =
      ⟨[], reads, .ok ⟨-1, twoGigabytes.putBuf revBuf, cmdBuf, cmdLen⟩⟩ := by
  apply usbtmcMsgCmdRead_of_lt
  rw [announced, UsbTmcBulkHeader.ofBuf_putBuf]
  decide

theorem two_gigabytes_misjudged :
    ¬ LengthTestExact (twoGigabytes.putBuf (Vector.replicate usbBufsize 0)) 512
      (Vector.replicate 100 0) 0 [] := by
  intro judged
  have exceeds := judged.oversized.mp (two_gigabytes_oversized _ _ _ _)
  rw [announced, UsbTmcBulkHeader.ofBuf_putBuf] at exceeds
  exact absurd exceeds (by decide)

end ScpiVxiTmc
