import ScpiVxiTmc.Usb.WholeTransfer

set_option autoImplicit false

/- Packets too short for a header. The sink thread reports them and goes on as
with any other; their header ends in what earlier packets left in the buffer. -/
namespace ScpiVxiTmc

/-- A round that finds a packet takes it, and the rounds after it go on behind it. -/
theorem rcvContinue_later_cons (transfersize : Int) (left : Nat) (revBuf : RevBuf)
    (rcvedLen : Int) (read : SinkRead) (later : List SinkRead) :
    (rcvContinue transfersize (left + 1) revBuf rcvedLen (read :: later)).later = later ∨
      ∃ filled more, (rcvContinue transfersize (left + 1) revBuf rcvedLen (read :: later)).later =
        (rcvContinue transfersize left filled more later).later := by
  cases read with
  | failed => exact Or.inl rfl
  | data bytes =>
      simp only [rcvContinue]
      split
      · exact Or.inl rfl
      · split
        · exact Or.inl rfl
        · split
          · exact Or.inr ⟨_, _, rfl⟩
          · exact Or.inl rfl

/-- By induction on the rounds: no more packets are left than there were. -/
theorem rcvContinue_later_le (transfersize : Int) (left : Nat) (revBuf : RevBuf) (rcvedLen : Int)
    (reads : List SinkRead) :
    (rcvContinue transfersize left revBuf rcvedLen reads).later.length ≤ reads.length := by
  induction left generalizing revBuf rcvedLen reads with
  | zero => exact Nat.le_refl _
  | succ left ih =>
      cases reads with
      | nil => exact Nat.le_refl _
      | cons read later =>
          rcases rcvContinue_later_cons transfersize left revBuf rcvedLen read later with
            behind | ⟨filled, more, behind⟩
          · rw [behind]
            exact Nat.le_succ _
          · rw [behind]
            exact Nat.le_succ_of_le (ih filled more later)

/-- The first round waits for a packet or takes one. -/
theorem rcvContinue_takes (transfersize : Int) (left : Nat) (revBuf : RevBuf) (rcvedLen : Int)
    (reads : List SinkRead) :
    (rcvContinue transfersize (left + 1) revBuf rcvedLen reads).outcome = .error .blocked ∨
      (rcvContinue transfersize (left + 1) revBuf rcvedLen reads).later.length < reads.length := by
  cases reads with
  | nil => exact Or.inl rfl
  | cons read later =>
      apply Or.inr
      rcases rcvContinue_later_cons transfersize left revBuf rcvedLen read later with
        behind | ⟨filled, more, behind⟩
      · rw [behind]
        exact Nat.lt_succ_self _
      · rw [behind]
        exact Nat.lt_succ_of_le (rcvContinue_later_le transfersize left filled more later)

/-- The round sends nothing, takes no other packet, and leaves the rings and the
message queue as they were. -/
def SinkThread.Ignores (thread : SinkThread) (later : List SinkRead) (round : SinkRound) : Prop :=
  ∃ next, round = .next [] next later ∧ next.adapter.rx = thread.adapter.rx ∧
    next.adapter.tx = thread.adapter.tx ∧ next.adapter.msgQueue = thread.adapter.msgQueue

namespace SinkThread

variable {thread : SinkThread} {got : Nat}

/-- What the header in the buffer must be for nothing to happen: no command of which
something is missing and none that is complete, unless it is empty and its message
refused; and no request that finds something to send. -/
structure Harmless (thread : SinkThread) (got : Nat) (accepted : Bool) : Prop where
  command : (UsbTmcBulkHeader.ofBuf thread.buf).msgID = devDepMsgOut → thread.wanted < 2 ^ 31 →
    (got = thread.wanted → thread.buf.toList[usbTmcHeaderLen]? = some 0 ∧ accepted = false) ∧
      ¬ got < thread.wanted
  request : (UsbTmcBulkHeader.ofBuf thread.buf).msgID = requestDevDepMsgIn →
    (UsbTmcBulkHeader.ofBuf thread.buf).bmTransferAttributes &&& attribTermchar ≠ 0 ∨
      scpiMsgReponseAvailLen thread.adapter ≤ 0

theorem ignores_of_over (exceeds : transfersizeOf (announced thread.buf) < got)
    (later : List SinkRead) (accepted : Bool) :
    thread.Ignores later (sinkCommand thread got later accepted) := by
  have refused := usbtmcMsgCmdRead_of_lt thread.buf got thread.cmdBuf thread.cmdLen later exceeds
  simp only [sinkCommand, refused]
  exact ⟨_, rfl, rfl, rfl, rfl⟩

theorem behind_header :
    (thread.buf.toList.drop usbTmcHeaderLen)[0]? = thread.buf.toList[usbTmcHeaderLen]? := by
  rw [List.getElem?_drop, Nat.add_zero]

/-- The command is empty exactly when a zero byte comes right behind the header. -/
theorem rcvFinish_empty_iff {done : CmdRead}
    (finished : rcvFinish thread.buf thread.cmdBuf = .ok done) :
    done.cmdBuf.toList.take done.cmdLen = [] ↔ thread.buf.toList[usbTmcHeaderLen]? = some 0 := by
  have found := rcvFinish_cmdLen finished
  have size := done.cmdBuf.length_toList
  rw [← behind_header, List.take_eq_nil_iff]
  constructor
  · intro empty
    have ends := CString.getElem?_of_strlen found
    rcases empty with zero | nothing
    · rwa [zero] at ends
    · rw [nothing] at size
      cases size
  · intro ends
    exact Or.inl (Nat.le_zero.mp (CString.strlen_le found ends))

/-- With a zero byte there the call cannot fail. -/
theorem rcvFinish_of_empty (zero : thread.buf.toList[usbTmcHeaderLen]? = some 0) :
    ∃ copied, rcvFinish thread.buf thread.cmdBuf = .ok ⟨0, thread.buf, copied, 0⟩ := by
  rw [← behind_header, ← List.head?_eq_getElem?, List.head?_eq_some_iff] at zero
  rcases zero with ⟨rest, text⟩
  rcases rcvFinish_of_zero thread.buf thread.cmdBuf [] rest text (Nat.zero_le _) with
    ⟨copied, finished, _⟩
  exact ⟨copied, finished⟩

/-- A command that counts as complete is queued, so it would have to be empty. -/
theorem ignores_of_whole (half : thread.wanted < 2 ^ 31) (whole : got = thread.wanted)
    (later : List SinkRead) (accepted : Bool) :
    thread.Ignores later (sinkCommand thread got later accepted) ↔
      thread.buf.toList[usbTmcHeaderLen]? = some 0 ∧ accepted = false := by
  have size : transfersizeOf (announced thread.buf) = got :=
    (transfersizeOf_of_half half).trans (congrArg Int.ofNat whole.symm)
  have finished := usbtmcMsgCmdRead_of_eq thread.buf got thread.cmdBuf thread.cmdLen later size
  constructor
  · rintro ⟨next, moved, sameRx, _, sameQueue⟩
    simp only [sinkCommand, finished] at moved
    cases outcome : rcvFinish thread.buf thread.cmdBuf with
    | error why =>
        rw [outcome] at moved
        cases moved
    | ok done =>
        have posted := rcvFinish_retValue outcome
        simp only [outcome, posted, ↓reduceIte] at moved
        cases moved
        change (scpiMsgCmdWrite _ _ _).2.rx = _ at sameRx
        change (scpiMsgCmdWrite _ _ _).2.msgQueue = _ at sameQueue
        rw [scpiMsgCmdWrite_rx] at sameRx
        rw [scpiMsgCmdWrite_msgQueue, List.append_right_eq_self] at sameQueue
        refine ⟨(rcvFinish_empty_iff outcome).mp ?_, ?_⟩
        · by_contra some
          apply ByteRing.write_tail_ne thread.adapter.rx some
          · have short := List.length_take_le' done.cmdLen done.cmdBuf.toList
            rw [Vector.length_toList] at short
            exact Nat.lt_of_le_of_lt short (by decide)
          · exact congrArg ByteRing.tail sameRx
        · cases accepted with
          | false => rfl
          | true => cases sameQueue
  · rintro ⟨zero, refused⟩
    rcases rcvFinish_of_empty zero with ⟨copied, empty⟩
    simp only [sinkCommand, finished, empty, ↓reduceIte, refused]
    exact ⟨_, rfl, rfl, rfl, rfl⟩

/-- A command of which something is missing costs the packet that comes next. -/
theorem not_ignores_of_part (half : thread.wanted < 2 ^ 31) (part : got < thread.wanted)
    (later : List SinkRead) (accepted : Bool) :
    ¬ thread.Ignores later (sinkCommand thread got later accepted) := by
  rintro ⟨next, moved, _⟩
  have call : thread.cmdRead got later = _ := cmdRead_of_part half part
  rw [cmdRead] at call
  simp only [sinkCommand, call] at moved
  rcases rcvContinue_takes thread.wanted 9 thread.buf got later with blocked | taken
  · simp only [blocked] at moved
    cases moved
  · split at moved
    · cases moved
    · have same := (SinkRound.next.inj moved).2.2
      rw [same] at taken
      exact Nat.lt_irrefl _ taken

theorem sinkCommand_ignores_iff (later : List SinkRead) (accepted : Bool) :
    thread.Ignores later (sinkCommand thread got later accepted) ↔
      (thread.wanted < 2 ^ 31 →
        (got = thread.wanted →
          thread.buf.toList[usbTmcHeaderLen]? = some 0 ∧ accepted = false) ∧
          ¬ got < thread.wanted) :=
  length_test_cases (fun exceeds => ignores_of_over exceeds later accepted)
    (fun half whole => ignores_of_whole half whole later accepted)
    (fun half part => iff_of_false (not_ignores_of_part half part later accepted) id)

/-- A request is ignored as long as it is not answered. -/
theorem sinkRequest_ignores_iff (later : List SinkRead) :
    thread.Ignores later (sinkRequest thread later) ↔
      (UsbTmcBulkHeader.ofBuf thread.buf).bmTransferAttributes &&& attribTermchar ≠ 0 ∨
        scpiMsgReponseAvailLen thread.adapter ≤ 0 := by
  by_cases termchar :
      (UsbTmcBulkHeader.ofBuf thread.buf).bmTransferAttributes &&& attribTermchar ≠ 0
  · apply iff_of_true _ (Or.inl termchar)
    simp only [sinkRequest, usbtmcMsgCmdResponse, if_pos termchar]
    exact ⟨_, rfl, rfl, rfl, rfl⟩
  · by_cases nothing : scpiMsgReponseAvailLen thread.adapter ≤ 0
    · apply iff_of_true _ (Or.inr nothing)
      simp only [sinkRequest, usbtmcMsgCmdResponse, if_neg termchar, if_pos nothing]
      exact ⟨_, rfl, rfl, rfl, rfl⟩
    · apply iff_of_false
      · rintro ⟨next, moved, _⟩
        simp only [sinkRequest, usbtmcMsgCmdResponse, if_neg termchar, if_neg nothing,
          sendResponse] at moved
        cases moved
      · exact not_or_intro termchar nothing

theorem sinkDispatch_ignores_iff (later : List SinkRead) (accepted : Bool) :
    thread.Ignores later (sinkDispatch thread got later accepted) ↔
      thread.Harmless got accepted := by
  have differ : requestDevDepMsgIn ≠ devDepMsgOut := by decide
  by_cases command : (UsbTmcBulkHeader.ofBuf thread.buf).msgID = devDepMsgOut
  · have notRequest : (UsbTmcBulkHeader.ofBuf thread.buf).msgID ≠ requestDevDepMsgIn := by
      rw [command]
      exact differ.symm
    simp only [sinkDispatch, if_pos command]
    rw [sinkCommand_ignores_iff]
    exact ⟨fun holds => ⟨fun _ => holds, fun request => absurd request notRequest⟩,
      fun harmless => harmless.command command⟩
  · by_cases request : (UsbTmcBulkHeader.ofBuf thread.buf).msgID = requestDevDepMsgIn
    · simp only [sinkDispatch, if_neg command, if_pos request]
      rw [sinkRequest_ignores_iff]
      exact ⟨fun holds => ⟨fun isCommand => absurd isCommand command, fun _ => holds⟩,
        fun harmless => harmless.request request⟩
    · simp only [sinkDispatch, if_neg command, if_neg request]
      apply iff_of_true
      · exact ⟨_, rfl, rfl, rfl, rfl⟩
      · exact ⟨fun isCommand => absurd isCommand command,
          fun isRequest => absurd isRequest request⟩

section
variable (thread : SinkThread) (runt : List UInt8) (short : runt.length < usbTmcHeaderLen)
include short

theorem short_fits : 0 + runt.length ≤ usbBufsize := by
  have bufsize : usbBufsize = 512 := rfl
  have headerLen : usbTmcHeaderLen = 12 := rfl
  omega

/-- The thread with a short packet stored over the front of its buffer. -/
def holding : SinkThread :=
  { thread with buf := Buffer.store thread.buf 0 runt (short_fits runt short) }

theorem sinkRound_short (some : runt ≠ []) (later : List SinkRead) (accepted : Bool) :
    sinkRound thread (.data runt :: later) accepted =
      sinkDispatch (thread.holding runt short) runt.length later accepted := by
  have fits := short_fits runt short
  have whole : runt.take usbBufsize = runt := List.take_of_length_le (by omega)
  simp only [sinkRound, whole, some, ↓reduceIte, holding]

/-- A short packet is ignored only by luck: the thread goes on with it, and what
becomes of it depends on the residue that completes its header. -/
theorem short_packet_ignored_iff (some : runt ≠ []) (later : List SinkRead) (accepted : Bool) :
    thread.Ignores later (sinkRound thread (.data runt :: later) accepted) ↔
      (thread.holding runt short).Harmless runt.length accepted := by
  rw [sinkRound_short thread runt short some, ← sinkDispatch_ignores_iff later accepted]
  rfl

end

theorem ofBuf_msgID {buf : RevBuf} {byte : UInt8} {rest : List UInt8}
    (content : buf.toList = byte :: rest) : (UsbTmcBulkHeader.ofBuf buf).msgID = byte := by
  have first : 0 < buf.toList.length := by
    rw [content]
    exact Nat.succ_pos _
  show buf[0] = byte
  rw [← Vector.getElem_toList first]
  simp only [content, List.getElem_cons_zero]

theorem holding_msgID (thread : SinkThread) (byte : UInt8) (rest : List UInt8)
    (short : (byte :: rest).length < usbTmcHeaderLen) :
    (UsbTmcBulkHeader.ofBuf (thread.holding (byte :: rest) short).buf).msgID = byte := by
  apply ofBuf_msgID
  exact Buffer.store_front_toList thread.buf (byte :: rest) (short_fits _ short)

/-- A short packet that starts like neither message. -/
def Foreign (runt : List UInt8) : Prop :=
  ∃ byte rest, runt = byte :: rest ∧ byte ≠ devDepMsgOut ∧ byte ≠ requestDevDepMsgIn ∧
    runt.length < usbTmcHeaderLen

theorem sinkRound_foreign (thread : SinkThread) {runt : List UInt8} (foreign : Foreign runt)
    (later : List SinkRead) (accepted : Bool) :
    ∃ next, sinkRound thread (.data runt :: later) accepted = .next [] next later ∧
      next.adapter = thread.adapter := by
  rcases foreign with ⟨byte, rest, rfl, notCommand, notRequest, short⟩
  have msgID := holding_msgID thread byte rest short
  rw [sinkRound_short thread _ short (List.cons_ne_nil _ _)]
  simp only [sinkDispatch, msgID, notCommand, notRequest, ↓reduceIte]
  exact ⟨_, rfl, rfl⟩

/-- Any number of them come to nothing, whatever the buffer holds. -/
theorem sinkLoop_foreign (thread : SinkThread) (runts : List (List UInt8 × Bool))
    (later : List SinkRead) (foreign : ∀ runt ∈ runts, Foreign runt.1) :
    ∃ next, sinkLoop thread ((runts.map fun runt => .data runt.1) ++ later)
        (runts.map Prod.snd) = (runts.map fun _ => [], .running next later) ∧
      next.adapter = thread.adapter := by
  induction runts generalizing thread with
  | nil => exact ⟨thread, rfl, rfl⟩
  | cons runt rest ih =>
      rcases sinkRound_foreign thread (foreign runt List.mem_cons_self)
        ((rest.map fun runt => .data runt.1) ++ later) runt.2 with ⟨next, moved, same⟩
      rcases ih next (fun other member => foreign other (List.mem_cons_of_mem runt member)) with
        ⟨last, ran, kept⟩
      refine ⟨last, ?_, kept.trans same⟩
      simp only [List.map_cons, List.cons_append, sinkLoop, moved, ran]

/-- The thread before its first round. -/
def fresh : SinkThread := ⟨Vector.replicate usbBufsize 0, Vector.replicate 100 0, 0, .init⟩

/-- A zero byte is no message at all. -/
theorem zeroByte_ignored :
    fresh.Ignores [.data fiveBytes.bytes]
      (sinkRound fresh [.data [0], .data fiveBytes.bytes] true) := by
  have msgID := holding_msgID fresh 0 [] (by decide)
  apply (short_packet_ignored_iff fresh [0] (by decide) (List.cons_ne_nil _ _) _ _).mpr
  refine ⟨?_, ?_⟩
  · rw [msgID]
    intro command
    exact absurd command (by decide)
  · rw [msgID]
    intro request
    exact absurd request (by decide)

/-- A single byte 1 is taken for a command of no length whose header is not yet
complete, and eats the start of the next packet. -/
theorem oneByte_eats_packet :
    ¬ fresh.Ignores [.data fiveBytes.bytes]
      (sinkRound fresh [.data [1], .data fiveBytes.bytes] true) := by
  have header : UsbTmcBulkHeader.ofBuf (fresh.holding [1] (by decide)).buf =
      ⟨devDepMsgOut, 0, 0, 0, 0, 0, 0, 0, 0⟩ := by
    apply UsbTmcBulkHeader.ofBuf_of_bytes _ _ (List.replicate 500 0)
    rw [holding, Buffer.store_front_toList, fresh, Vector.toList_replicate, List.drop_replicate]
    rfl
  have wanted : (fresh.holding [1] (by decide)).wanted = 12 := by
    rw [SinkThread.wanted, announced, header]
    decide
  intro ignored
  rw [sinkRound_short fresh [1] (by decide) (List.cons_ne_nil _ _)] at ignored
  have harmless : (fresh.holding [1] (by decide)).Harmless [1].length true :=
    (sinkDispatch_ignores_iff _ _).mp ignored
  apply (harmless.command _ _).2
  · rw [wanted]
    decide
  · rw [header]
  · rw [wanted]
    decide

end SinkThread

end ScpiVxiTmc
