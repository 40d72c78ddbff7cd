import ScpiVxiTmc.Usb.Sink
import ScpiVxiTmc.Usb.SplitTransfer

set_option autoImplicit false

/- Whether a command is only accepted once its whole transfer has arrived. -/
namespace ScpiVxiTmc

/-- Every piece that leaves something missing fits into the receive buffer, and
no read fails or comes back empty before the end. -/
structure Arrival.Unbroken (arrived : Arrival) : Prop where
  fits : ∀ piece ∈ arrived.pieces, piece.length ≤ usbBufsize
  ends : ¬ arrived.ending.IsBroken

namespace SinkThread

variable (thread : SinkThread) (rcvLen : Nat) (reads : List SinkRead) (accepted : Bool)

/-- The call that the thread makes for a command. -/
def cmdRead : SinkCall CmdRead :=
  usbtmcMsgCmdRead thread.buf rcvLen thread.cmdBuf thread.cmdLen reads

/-- The length of the transfer that the header in the buffer announces. -/
def wire : Nat := wireLength (announced thread.buf)

def wanted : Nat := wantedLength (announced thread.buf)

/-- What comes after a first read that is too short. -/
def rest : Arrival := arrival (thread.wanted - rcvLen) repeatReadCnt reads

/-- The call fails, leaves the last command alone, and nothing is posted or queued. -/
structure Refuses : Prop where
  fails : ∃ done, (thread.cmdRead rcvLen reads).outcome = .ok done ∧ done.retValue < 0 ∧
    done.cmdBuf = thread.cmdBuf ∧ done.cmdLen = thread.cmdLen
  silent : ∃ next later, sinkCommand thread rcvLen reads accepted = .next [] next later ∧
    next.adapter = thread.adapter

/-- The call still waits for a read, or it refuses the command. -/
def HoldsBack : Prop :=
  (thread.cmdRead rcvLen reads).outcome = .error .blocked ∨ thread.Refuses rcvLen reads accepted

/-- All bytes of the transfer have arrived, or the command is held back. -/
def AcceptsOnlyWhole : Prop :=
  rcvLen + (thread.cmdRead rcvLen reads).received reads = thread.wire ∨
    thread.HoldsBack rcvLen reads accepted

/-- Where the length passes for a positive int that the first read does not
exceed, nothing more is missing and the length did not wrap, or the rest arrives
unbroken and completes only such a length. -/
def InputsSound : Prop :=
  thread.wanted < 2 ^ 31 →
    (rcvLen = thread.wanted → thread.wire < 2 ^ 32) ∧
      (rcvLen < thread.wanted → (thread.rest rcvLen reads).Unbroken ∧
        ((thread.rest rcvLen reads).ending.IsWhole → thread.wire < 2 ^ 32))

variable {thread rcvLen reads accepted}

theorem refuses_of_negative {retValue : Int} {revBuf : RevBuf} (negative : retValue < 0)
    (returned : (thread.cmdRead rcvLen reads).outcome =
      .ok ⟨retValue, revBuf, thread.cmdBuf, thread.cmdLen⟩) :
    thread.Refuses rcvLen reads accepted := by
  refine ⟨⟨_, returned, negative, rfl, rfl⟩, ?_⟩
  rw [cmdRead] at returned
  simp only [sinkCommand, returned, Int.ne_of_lt negative, ↓reduceIte]
  exact ⟨_, _, rfl, rfl⟩

/-- What goes on to `rcv_finish` is not held back, however that ends. -/
theorem not_holdsBack_of_finish {revBuf : RevBuf}
    (finished : (thread.cmdRead rcvLen reads).outcome = rcvFinish revBuf thread.cmdBuf) :
    ¬ thread.HoldsBack rcvLen reads accepted := by
  intro held
  rcases held with blocked | refuses
  · rw [finished, rcvFinish] at blocked
    split at blocked
    · cases blocked
    · split at blocked
      · cases blocked
      · cases blocked
  · rcases refuses.fails with ⟨done, returned, negative, _⟩
    have zero := rcvFinish_retValue (finished.symm.trans returned)
    omega

theorem not_holdsBack_of_overrun
    (overrun : (thread.cmdRead rcvLen reads).outcome = .error .readPastRevBuf) :
    ¬ thread.HoldsBack rcvLen reads accepted := by
  intro held
  rcases held with blocked | refuses
  · rw [overrun] at blocked
    cases blocked
  · rcases refuses.fails with ⟨done, returned, _⟩
    rw [overrun] at returned
    cases returned

theorem rest_follows (reads : List SinkRead) (part : rcvLen < thread.wanted) :
    Follows (thread.wanted - rcvLen) thread.buf reads (thread.rest rcvLen reads)
      (rcvContinue thread.wanted repeatReadCnt thread.buf rcvLen reads) := by
  apply rcvContinue_follows
  · omega
  · omega

section
variable (half : thread.wanted < 2 ^ 31) (part : rcvLen < thread.wanted)
include half part

theorem cmdRead_of_part :
    thread.cmdRead rcvLen reads =
      let rcved := rcvContinue thread.wanted repeatReadCnt thread.buf rcvLen reads
      ⟨rcved.asked, rcved.later, rcved.outcome.bind fun ended =>
        if ended.1 = 0 then rcvFinish ended.2 thread.cmdBuf
        else .ok ⟨ended.1, ended.2, thread.cmdBuf, thread.cmdLen⟩⟩ := by
  have size := transfersizeOf_of_half half
  rw [cmdRead, usbtmcMsgCmdRead_of_gt _ _ _ _ _ (by rw [size]; exact Int.ofNat_lt.mpr part), size]
  rfl

/-- All that the header announces arrives if nothing wraps and the last piece comes. -/
theorem received_eq_wire_iff :
    rcvLen + (thread.cmdRead rcvLen reads).received reads = thread.wire ↔
      thread.wire < 2 ^ 32 ∧
        (∀ piece ∈ (thread.rest rcvLen reads).pieces, piece.length ≤ usbBufsize) ∧
          (thread.rest rcvLen reads).ending.IsWhole := by
  have follows := rest_follows reads part
  have bound := follows.received_le
  have wraps : thread.wanted = thread.wire % 2 ^ 32 := rfl
  rw [cmdRead_of_part half part, ← follows.received_eq]
  show rcvLen + (rcvContinue thread.wanted repeatReadCnt thread.buf rcvLen reads).received reads =
    thread.wire ↔ _
  omega

/-- The outcome of the call, by what arrives. -/
theorem cmdRead_outcome (reads : List SinkRead) :
    (thread.cmdRead rcvLen reads).outcome =
      match Buffer.overlay? thread.buf (thread.rest rcvLen reads).all with
      | none => .error .readPastRevBuf
      | some filled =>
          match (thread.rest rcvLen reads).ending with
          | .whole _ => rcvFinish filled thread.cmdBuf
          | .broken => rcvFinish filled thread.cmdBuf
          | .tooMany => .ok ⟨-2, filled, thread.cmdBuf, thread.cmdLen⟩
          | .waiting => .error .blocked := by
  rw [cmdRead_of_part half part]
  show (rcvContinue thread.wanted repeatReadCnt thread.buf rcvLen reads).outcome.bind _ = _
  rw [(rest_follows reads part).outcome]
  cases Buffer.overlay? thread.buf (thread.rest rcvLen reads).all with
  | none => rfl
  | some filled =>
      cases (thread.rest rcvLen reads).ending with
      | whole last => rfl
      | broken => rfl
      | tooMany => rfl
      | waiting => rfl

/-- Only a wait that is not over, or over for good, holds the command back. -/
theorem holdsBack_iff :
    thread.HoldsBack rcvLen reads accepted ↔
      (thread.rest rcvLen reads).Unbroken ∧ ¬ (thread.rest rcvLen reads).ending.IsWhole := by
  have outcome := cmdRead_outcome half part reads
  cases stored : Buffer.overlay? thread.buf (thread.rest rcvLen reads).all with
  | none =>
      simp only [stored] at outcome
      apply iff_of_false (not_holdsBack_of_overrun outcome)
      intro ⟨unbroken, unfinished⟩
      have tooLong := (Buffer.overlay?_eq_none _ _).mp stored
      rw [Arrival.all, Ending.last_eq_nil unfinished, List.append_nil] at tooLong
      rcases tooLong with ⟨piece, member, leaves⟩
      have fit := unbroken.fits piece member
      omega
  | some filled =>
      simp only [stored] at outcome
      have fits : ∀ piece ∈ (thread.rest rcvLen reads).pieces, piece.length ≤ usbBufsize := by
        intro piece member
        exact Buffer.fits_of_overlay? stored piece (List.mem_append_left _ member)
      cases ending : (thread.rest rcvLen reads).ending with
      | whole last =>
          simp only [ending] at outcome
          apply iff_of_false (not_holdsBack_of_finish outcome)
          exact fun both => both.2 trivial
      | broken =>
          simp only [ending] at outcome
          apply iff_of_false (not_holdsBack_of_finish outcome)
          exact fun both => both.1.ends (ending ▸ trivial)
      | tooMany =>
          simp only [ending] at outcome
          apply iff_of_true (Or.inr (refuses_of_negative (by decide) outcome))
          exact ⟨⟨fits, fun broken => by rw [ending] at broken; exact broken⟩, id⟩
      | waiting =>
          simp only [ending] at outcome
          apply iff_of_true (Or.inl outcome)
          exact ⟨⟨fits, fun broken => by rw [ending] at broken; exact broken⟩, id⟩

/-- With something missing at first, by how the wait for it ends. -/
theorem acceptsOnlyWhole_of_part :
    thread.AcceptsOnlyWhole rcvLen reads accepted ↔
      (thread.rest rcvLen reads).Unbroken ∧
        ((thread.rest rcvLen reads).ending.IsWhole → thread.wire < 2 ^ 32) := by
  rw [AcceptsOnlyWhole, received_eq_wire_iff half part, holdsBack_iff half part]
  constructor
  · intro promised
    rcases promised with ⟨fits, pieces, whole⟩ | ⟨unbroken, unfinished⟩
    · exact ⟨⟨pieces, Ending.not_isBroken_of_isWhole whole⟩, fun _ => fits⟩
    · exact ⟨unbroken, fun whole => absurd whole unfinished⟩
  · intro both
    by_cases whole : (thread.rest rcvLen reads).ending.IsWhole
    · exact Or.inl ⟨both.2 whole, both.1.fits, whole⟩
    · exact Or.inr ⟨both.1, whole⟩

end

theorem acceptsOnlyWhole_of_whole (half : thread.wanted < 2 ^ 31) (whole : rcvLen = thread.wanted) :
    thread.AcceptsOnlyWhole rcvLen reads accepted ↔ thread.wire < 2 ^ 32 := by
  have size : transfersizeOf (announced thread.buf) = (thread.wanted : Nat) :=
    transfersizeOf_of_half half
  have finished : thread.cmdRead rcvLen reads =
      ⟨[], reads, rcvFinish thread.buf thread.cmdBuf⟩ := by
    apply usbtmcMsgCmdRead_of_eq
    rw [size, whole]
  have wraps : thread.wanted = thread.wire % 2 ^ 32 := rfl
  rw [AcceptsOnlyWhole, or_iff_left (not_holdsBack_of_finish (congrArg _ finished)), finished,
    received_nil]
  omega

theorem acceptsOnlyWhole_of_over (exceeds : transfersizeOf (announced thread.buf) < rcvLen) :
    thread.AcceptsOnlyWhole rcvLen reads accepted := by
  have refused : thread.cmdRead rcvLen reads =
      ⟨[], reads, .ok ⟨-1, thread.buf, thread.cmdBuf, thread.cmdLen⟩⟩ :=
    usbtmcMsgCmdRead_of_lt thread.buf rcvLen thread.cmdBuf thread.cmdLen reads exceeds
  apply Or.inr
  apply Or.inr
  exact refuses_of_negative (by decide) (congrArg SinkCall.outcome refused)

/-- A continuation read that fails falls through to the end of the function, so
the promise holds of a transfer only as long as none does. -/
theorem accepts_only_whole_iff (thread : SinkThread) (rcvLen : Nat) (reads : List SinkRead)
    (accepted : Bool) :
    thread.AcceptsOnlyWhole rcvLen reads accepted ↔ thread.InputsSound rcvLen reads :=
  length_test_cases acceptsOnlyWhole_of_over acceptsOnlyWhole_of_whole acceptsOnlyWhole_of_part

/-- The thread when the first four words of the command ABCDE have arrived. -/
def cutShort : SinkThread :=
  ⟨SplitTransfer.lastByteLater.revBuf, Vector.replicate 100 0, 0, .init⟩

theorem cutShort_wanted : cutShort.wanted = 20 := by
  rw [wanted, announced, cutShort, SplitTransfer.revBuf_header]
  decide

/-- Then the endpoint fails, and what there is of the command is taken for all. -/
theorem cutShort_accepted :
    (∃ revBuf, (cutShort.cmdRead 16 [.failed]).outcome = rcvFinish revBuf cutShort.cmdBuf) ∧
      ¬ cutShort.AcceptsOnlyWhole 16 [.failed] true := by
  have half : cutShort.wanted < 2 ^ 31 := by
    rw [cutShort_wanted]
    decide
  have part : 16 < cutShort.wanted := by
    rw [cutShort_wanted]
    decide
  have broken : cutShort.rest 16 [.failed] = ⟨[], .broken⟩ := rfl
  refine ⟨⟨cutShort.buf, ?_⟩, ?_⟩
  · rw [cmdRead_outcome half part, broken]
    rfl
  · rw [acceptsOnlyWhole_of_part half part, broken]
    exact fun sound => sound.1.ends trivial

end SinkThread

end ScpiVxiTmc
