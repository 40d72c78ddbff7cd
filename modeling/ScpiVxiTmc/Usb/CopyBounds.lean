import ScpiVxiTmc.Usb.WholeTransfer

set_option autoImplicit false

/- The reads, the scan and the copy of `usbtmc_msg_cmd_read` against the three
arrays they work on. -/
namespace ScpiVxiTmc

/-- No read asks for more than the receive buffer holds, and the call leaves no
array: if it has no result, then because it waits. -/
structure InBounds (call : SinkCall CmdRead) : Prop where
  asks : ∀ count ∈ call.asked, count ≤ usbBufsize
  stays : ∀ why, call.outcome = .error why → why = .blocked

/-- A zero byte ends the command before it outgrows `cmd_buf`. -/
def CommandEnds (revBuf : RevBuf) : Prop := 0 ∈ (revBuf.toList.drop usbTmcHeaderLen).take 101

theorem rcvFinish_stays_iff (revBuf : RevBuf) (cmdBuf : CmdBuf) :
    (∀ why, rcvFinish revBuf cmdBuf = .error why → why = .blocked) ↔ CommandEnds revBuf := by
  rw [CommandEnds, ← CString.strlen_le_iff, rcvFinish]
  cases found : CString.strlen (revBuf.toList.drop usbTmcHeaderLen) with
  | none =>
      apply iff_of_false
      · intro stays
        cases stays _ rfl
      · intro ends
        rcases ends with ⟨len, _, nothing⟩
        cases nothing
  | some len =>
      have inside := (List.getElem?_eq_some_iff.mp (CString.getElem?_of_strlen found)).1
      have copies : ((revBuf.toList.drop usbTmcHeaderLen).take len).length = len :=
        List.length_take_of_le (Nat.le_of_lt inside)
      have leaves := Buffer.store?_eq_none cmdBuf 0 ((revBuf.toList.drop usbTmcHeaderLen).take len)
      rw [copies, Nat.zero_add] at leaves
      simp only [Option.some.injEq, exists_eq_right']
      cases copied : Buffer.store? cmdBuf 0 ((revBuf.toList.drop usbTmcHeaderLen).take len) with
      | none =>
          apply iff_of_false
          · intro stays
            cases stays _ rfl
          · exact Nat.not_le_of_lt (leaves.mp copied)
      | some filled =>
          apply iff_of_true
          · intro why failed
            cases failed
          · have fits := Buffer.fits_of_store? copied
            omega

/-- No piece is longer than what is missing when it comes. -/
theorem arrival_all_le (missing left : Nat) (reads : List SinkRead) :
    ∀ piece ∈ (arrival missing left reads).all, piece.length ≤ missing := by
  induction left generalizing missing reads with
  | zero => exact fun piece member => absurd member List.not_mem_nil
  | succ left ih =>
      cases reads with
      | nil => exact fun piece member => absurd member List.not_mem_nil
      | cons read later =>
          cases read with
          | failed => exact fun piece member => absurd member List.not_mem_nil
          | data bytes =>
              have short : (bytes.take missing).length ≤ missing := List.length_take_le _ _
              simp only [arrival]
              split
              · exact fun piece member => absurd member List.not_mem_nil
              · split
                · intro piece member
                  rw [List.mem_singleton.mp member]
                  exact short
                · intro piece member
                  rcases List.mem_cons.mp member with same | inRest
                  · rw [same]
                    exact short
                  · have bound := ih (missing - (bytes.take missing).length) later piece inRest
                    omega

namespace SinkThread

/-- Where the length passes for a positive int that the first read does not
exceed: the command ends in time in what the reads leave in the buffer, and what
is missing at first is no more than the buffer holds. -/
def InputsBounded (thread : SinkThread) (rcvLen : Nat) (reads : List SinkRead) : Prop :=
  thread.wanted < 2 ^ 31 →
    (rcvLen = thread.wanted → CommandEnds thread.buf) ∧
      (rcvLen < thread.wanted → thread.wanted - rcvLen ≤ usbBufsize ∧
        ((thread.rest rcvLen reads).ending.IsWhole ∨ (thread.rest rcvLen reads).ending.IsBroken →
          ∀ filled, Buffer.overlay? thread.buf (thread.rest rcvLen reads).all = some filled →
            CommandEnds filled))

variable {thread : SinkThread} {rcvLen : Nat} {reads : List SinkRead}

theorem inBounds_of_over (exceeds : transfersizeOf (announced thread.buf) < rcvLen) :
    InBounds (thread.cmdRead rcvLen reads) := by
  rw [cmdRead, usbtmcMsgCmdRead_of_lt _ _ _ _ _ exceeds]
  refine ⟨?_, ?_⟩
  · exact fun count member => absurd member List.not_mem_nil
  · intro why failed
    cases failed

theorem inBounds_of_whole (half : thread.wanted < 2 ^ 31) (whole : rcvLen = thread.wanted) :
    InBounds (thread.cmdRead rcvLen reads) ↔ CommandEnds thread.buf := by
  have size : transfersizeOf (announced thread.buf) = rcvLen :=
    (transfersizeOf_of_half half).trans (congrArg Int.ofNat whole.symm)
  rw [cmdRead, usbtmcMsgCmdRead_of_eq _ _ _ _ _ size, ← rcvFinish_stays_iff _ thread.cmdBuf]
  constructor
  · exact InBounds.stays
  · intro stays
    exact ⟨fun count member => absurd member List.not_mem_nil, stays⟩

section
variable (half : thread.wanted < 2 ^ 31) (part : rcvLen < thread.wanted)
include half part

/-- The first read asks for the most. -/
theorem asks_iff :
    (∀ count ∈ (thread.cmdRead rcvLen reads).asked, count ≤ usbBufsize) ↔
      thread.wanted - rcvLen ≤ usbBufsize := by
  have bound := (rest_follows reads part).asks
  rw [cmdRead_of_part half part]
  constructor
  · intro asks
    have first := rcvContinue_asked thread.wanted 9 thread.buf rcvLen reads
    have within := asks _ (List.mem_of_head? first)
    omega
  · intro within count member
    have most := bound count member
    omega

/-- The reads fit into the buffer, and the command ends in time in what they leave. -/
theorem outcome_stays_iff :
    (∀ why, (thread.cmdRead rcvLen reads).outcome = .error why → why = .blocked) ↔
      ∃ filled, Buffer.overlay? thread.buf (thread.rest rcvLen reads).all = some filled ∧
        ((thread.rest rcvLen reads).ending.IsWhole ∨ (thread.rest rcvLen reads).ending.IsBroken →
          CommandEnds filled) := by
  rw [cmdRead_outcome half part]
  cases stored : Buffer.overlay? thread.buf (thread.rest rcvLen reads).all with
  | none =>
      apply iff_of_false
      · intro stays
        cases stays _ rfl
      · rintro ⟨filled, nothing, _⟩
        cases nothing
  | some filled =>
      simp only [Option.some.injEq, exists_eq_left']
      cases (thread.rest rcvLen reads).ending with
      | whole last =>
          apply (rcvFinish_stays_iff filled thread.cmdBuf).trans
          exact ⟨fun ends _ => ends, fun ends => ends (Or.inl trivial)⟩
      | broken =>
          apply (rcvFinish_stays_iff filled thread.cmdBuf).trans
          exact ⟨fun ends _ => ends, fun ends => ends (Or.inr trivial)⟩
      | tooMany =>
          apply iff_of_true
          · intro why failed
            cases failed
          · exact fun finished => absurd finished (or_self_iff.mp)
      | waiting =>
          apply iff_of_true
          · intro why failed
            exact (Except.error.inj failed).symm
          · exact fun finished => absurd finished (or_self_iff.mp)

theorem stays_iff (within : thread.wanted - rcvLen ≤ usbBufsize) :
    (∀ why, (thread.cmdRead rcvLen reads).outcome = .error why → why = .blocked) ↔
      ((thread.rest rcvLen reads).ending.IsWhole ∨ (thread.rest rcvLen reads).ending.IsBroken →
        ∀ filled, Buffer.overlay? thread.buf (thread.rest rcvLen reads).all = some filled →
          CommandEnds filled) := by
  rw [outcome_stays_iff half part]
  cases stored : Buffer.overlay? thread.buf (thread.rest rcvLen reads).all with
  | none =>
      rcases (Buffer.overlay?_eq_none _ _).mp stored with ⟨piece, member, leaves⟩
      have bound := arrival_all_le _ _ _ piece member
      omega
  | some filled =>
      simp only [Option.some.injEq, exists_eq_left', forall_eq']

theorem inBounds_of_part :
    InBounds (thread.cmdRead rcvLen reads) ↔ thread.wanted - rcvLen ≤ usbBufsize ∧
      ((thread.rest rcvLen reads).ending.IsWhole ∨ (thread.rest rcvLen reads).ending.IsBroken →
        ∀ filled, Buffer.overlay? thread.buf (thread.rest rcvLen reads).all = some filled →
          CommandEnds filled) := by
  constructor
  · intro bounds
    have within := (asks_iff half part).mp bounds.asks
    exact ⟨within, (stays_iff half part within).mp bounds.stays⟩
  · intro both
    exact ⟨(asks_iff half part).mpr both.1, (stays_iff half part both.1).mpr both.2⟩

end

/-- Nothing in the function bounds what it asks for, scans or copies. -/
theorem in_bounds_iff (thread : SinkThread) (rcvLen : Nat) (reads : List SinkRead) :
    InBounds (thread.cmdRead rcvLen reads) ↔ thread.InputsBounded rcvLen reads :=
  length_test_cases inBounds_of_over inBounds_of_whole inBounds_of_part

/-- The thread when the header of a command of 600 bytes has arrived. -/
def longCommand : SinkThread where
  buf := (UsbTmcBulkHeader.mk devDepMsgOut 1 254 0 (BitVec.ofNat 32 600) attribEom 0 0 0).putBuf
    (Vector.replicate usbBufsize 0)
  cmdBuf := Vector.replicate 100 0
  cmdLen := 0
  adapter := .init

theorem longCommand_wanted : longCommand.wanted = 612 := by
  rw [wanted, announced, longCommand, UsbTmcBulkHeader.ofBuf_putBuf]
  decide

/-- The rest of it is read into a buffer of 512 bytes. -/
theorem longCommand_overruns : ¬ InBounds (longCommand.cmdRead usbTmcHeaderLen []) := by
  intro bounds
  have half : longCommand.wanted < 2 ^ 31 := by
    rw [longCommand_wanted]
    decide
  have part : usbTmcHeaderLen < longCommand.wanted := by
    rw [longCommand_wanted]
    decide
  have within := (asks_iff half part).mp bounds.asks
  rw [longCommand_wanted] at within
  exact absurd within (by decide)

end SinkThread

end ScpiVxiTmc
