import ScpiVxiTmc.Usb.Control

set_option autoImplicit false

/- What the replies of the control endpoint promise: their lengths, and what a
clear request has done to the queues. -/
namespace ScpiVxiTmc

/-- A request answered with data gets no more than it asked for. -/
def ReplyWithin {τ : Type} (setup : UsbCtrlrequest) (run : ControlRun τ) : Prop :=
  run.ended = .answered → ∀ bytes, .write bytes ∈ run.io → bytes.length ≤ setup.wLength.toNat

/-- The replies of the class requests have one length each; the others are cut to
the length asked for, or are stalls. -/
def fixedReplyLen (setup : UsbCtrlrequest) : Nat :=
  if setup.bRequestType = classInterfaceIn then
    if setup.bRequest = getCapabilities then 24
    else if setup.bRequest = initiateClear ∨ setup.bRequest = checkClearStatus ∨
        setup.bRequest = indicatorPulse then 1
    else 0
  else if setup.bRequestType = classEndpointIn then
    if setup.bRequest = initiateAbortBulkOut ∨ setup.bRequest = checkAbortBulkOutStatus ∨
        setup.bRequest = initiateAbortBulkIn ∨ setup.bRequest = checkAbortBulkInStatus then 2
    else 0
  else 0

section
variable {τ : Type} {setup : UsbCtrlrequest}

theorem answer_within (gadget : Gadget τ) (bytes : List UInt8) :
    ReplyWithin setup (answer gadget bytes) ↔ bytes.length ≤ setup.wLength.toNat := by
  constructor
  · intro within
    exact within rfl bytes (List.mem_singleton.mpr rfl)
  · intro short _ other member
    rw [answer, List.mem_singleton, Ep0Io.write.injEq] at member
    exact member ▸ short

theorem acknowledge_within (gadget : Gadget τ) (calls : List (Ledger.Entry τ)) :
    ReplyWithin setup (acknowledge gadget calls) := by
  intro other
  cases other

theorem stall_within (gadget : Gadget τ) : ReplyWithin setup (stall setup gadget) := by
  intro other
  cases other

theorem interfaceRequest_within (gadget : Gadget τ)
    (type : setup.bRequestType = classInterfaceIn) :
    ReplyWithin setup (interfaceRequest setup gadget) ↔
      fixedReplyLen setup ≤ setup.wLength.toNat := by
  unfold interfaceRequest
  by_cases clear : setup.bRequest = initiateClear
  · simp +decide [clear, type, fixedReplyLen, answer_within]
  · by_cases check : setup.bRequest = checkClearStatus
    · simp +decide [check, type, fixedReplyLen, answer_within]
    · by_cases pulse : setup.bRequest = indicatorPulse
      · simp +decide [pulse, type, fixedReplyLen, answer_within]
      · by_cases capable : setup.bRequest = getCapabilities
        · simp +decide [capable, type, fixedReplyLen, answer_within, capabilities]
        · simp [clear, check, pulse, capable, type, fixedReplyLen, stall_within]

theorem endpointRequest_within (gadget : Gadget τ)
    (type : setup.bRequestType = classEndpointIn) :
    ReplyWithin setup (endpointRequest setup gadget) ↔
      fixedReplyLen setup ≤ setup.wLength.toNat := by
  unfold endpointRequest
  by_cases abortOut : setup.bRequest = initiateAbortBulkOut
  · simp +decide [abortOut, type, fixedReplyLen, answer_within]
  · by_cases checkOut : setup.bRequest = checkAbortBulkOutStatus
    · simp +decide [checkOut, type, fixedReplyLen, answer_within]
    · by_cases abortIn : setup.bRequest = initiateAbortBulkIn
      · simp +decide [abortIn, type, fixedReplyLen, answer_within]
      · by_cases checkIn : setup.bRequest = checkAbortBulkInStatus
        · simp +decide [checkIn, type, fixedReplyLen, answer_within]
        · simp +decide [abortOut, checkOut, abortIn, checkIn, type, fixedReplyLen, stall_within]

/-- A string descriptor is cut to the length asked for. -/
theorem getDescriptor_within (gadget : Gadget τ) {strings : UsbGadgetStrings} {buf : ReplyBuf}
    {run : ControlRun τ} (ran : getDescriptor setup gadget strings buf = some run) :
    ReplyWithin setup run := by
  unfold getDescriptor at ran
  split at ran
  · cases ran
    exact stall_within gadget
  · split at ran
    · dsimp only at ran
      split at ran
      · cases ran
        exact stall_within gadget
      · obtain ⟨got, _, rfl⟩ := Option.map_eq_some_iff.mp ran
        split
        · exact stall_within gadget
        · apply (answer_within gadget _).mpr
          rw [List.length_take]
          split <;> omega
    · cases ran
      exact stall_within gadget

theorem getInterface_within (gadget : Gadget τ) :
    ReplyWithin setup (getInterface setup gadget) := by
  unfold getInterface
  split
  · exact stall_within gadget
  · exact (answer_within gadget _).mpr (List.length_take_le _ _)

theorem setInterface_within (gadget : Gadget τ) (env : ControlEnv τ) :
    ReplyWithin setup (setInterface setup gadget env) := by
  unfold setInterface
  split
  · exact stall_within gadget
  · dsimp only
    split
    · exact stall_within gadget
    · exact acknowledge_within gadget []

variable [DecidableEq τ]

theorem setConfiguration_within (gadget : Gadget τ) (creates : Creates τ) :
    ReplyWithin setup (setConfiguration setup gadget creates) := by
  unfold setConfiguration
  split
  · exact stall_within gadget
  · split
    · exact acknowledge_within _ _
    · split
      · exact acknowledge_within _ _
      · exact stall_within gadget

theorem standardRequest_within (gadget : Gadget τ) {strings : UsbGadgetStrings}
    {env : ControlEnv τ} {run : ControlRun τ}
    (ran : standardRequest setup gadget strings env = some run) : ReplyWithin setup run := by
  unfold standardRequest at ran
  split at ran
  · exact getDescriptor_within gadget ran
  · split at ran
    · exact Option.some.inj ran ▸ setConfiguration_within gadget env.creates
    · split at ran
      · exact Option.some.inj ran ▸ getInterface_within gadget
      · split at ran
        · exact Option.some.inj ran ▸ setInterface_within gadget env
        · exact Option.some.inj ran ▸ stall_within gadget

/-- The class requests never look at the length asked for. -/
theorem reply_within_iff (setup : UsbCtrlrequest) (gadget : Gadget τ)
    (strings : UsbGadgetStrings) (env : ControlEnv τ) :
    (∀ run, handleControl setup gadget strings env = some run → ReplyWithin setup run) ↔
      fixedReplyLen setup ≤ setup.wLength.toNat := by
  unfold handleControl
  by_cases interface : setup.bRequestType = classInterfaceIn
  · simp only [interface, ↓reduceIte, Option.some.injEq, forall_eq']
    exact interfaceRequest_within gadget interface
  · by_cases endpoint : setup.bRequestType = classEndpointIn
    · have apart : classEndpointIn ≠ classInterfaceIn := by decide
      simp only [endpoint, apart, ↓reduceIte, Option.some.injEq, forall_eq']
      exact endpointRequest_within gadget endpoint
    · simp only [interface, endpoint, ↓reduceIte]
      refine iff_of_true (fun run ran => standardRequest_within gadget ran) ?_
      simp only [fixedReplyLen, interface, endpoint, ↓reduceIte]
      exact Nat.zero_le _

end

/-- `GET_CAPABILITIES` by a host that first asks for eight bytes only. -/
def shortCapabilities : UsbCtrlrequest := ⟨classInterfaceIn, getCapabilities, 0, 0, 8⟩

theorem shortCapabilities_overrun :
    ∃ run, handleControl shortCapabilities idleGadget strings bareEnv = some run ∧
      ¬ ReplyWithin shortCapabilities run := by
  refine ⟨answer idleGadget capabilities, rfl, ?_⟩
  rw [answer_within]
  decide

/-- Nothing that was queued can be delivered any more. -/
structure Adapter.Cleared (a : Adapter) : Prop where
  commands : scpiCmdRxAvail a.gScpiMsg = 0
  responses : scpiResponseTxAvail a.gScpiMsg = 0
  available : scpiMsgReponseAvailLen a = 0

/-- Nothing is queued: no command byte, no response byte in the ring, and no
response that is streamed from a buffer of the caller. -/
structure Adapter.Idle (a : Adapter) : Prop where
  commands : a.rx.unread = []
  responses : a.tx.unread = []
  stream : a.gScpiMsg.msgsrc ≠ 0 → a.gScpiMsg.txmsgStreamSize = a.gScpiMsg.txmsgStreamOffset

theorem Adapter.cleared_iff_idle (a : Adapter) : a.Cleared ↔ a.Idle := by
  have commands : a.rx.unread = [] ↔ scpiCmdRxAvail a.gScpiMsg = 0 := by
    rw [← List.length_eq_zero_iff, ByteRing.unread_length]
    rfl
  have responses : a.tx.unread = [] ↔ scpiResponseTxAvail a.gScpiMsg = 0 := by
    rw [← List.length_eq_zero_iff, ByteRing.unread_length]
    rfl
  by_cases ring : a.gScpiMsg.msgsrc = 0
  · constructor
    · intro cleared
      exact ⟨commands.mpr cleared.commands, responses.mpr cleared.responses, absurd ring⟩
    · intro idle
      have none := responses.mp idle.responses
      refine ⟨commands.mp idle.commands, none, ?_⟩
      simp only [scpiMsgReponseAvailLen, ring, ↓reduceIte, none, Int.ofNat_zero]
  · have stream : scpiMsgReponseAvailLen a = 0 ↔
        a.gScpiMsg.txmsgStreamSize = a.gScpiMsg.txmsgStreamOffset := by
      simp only [scpiMsgReponseAvailLen, ring, ↓reduceIte, scpiResponseStreamTxAvail]
      omega
    constructor
    · intro cleared
      exact ⟨commands.mpr cleared.commands, responses.mpr cleared.responses,
        fun _ => stream.mp cleared.available⟩
    · intro idle
      exact ⟨commands.mp idle.commands, responses.mp idle.responses, stream.mpr (idle.stream ring)⟩

/-- `INITIATE_CLEAR`, with the words that the code does not look at. -/
def initiateClearRequest (wValue wIndex wLength : UInt16) : UsbCtrlrequest :=
  ⟨classInterfaceIn, initiateClear, wValue, wIndex, wLength⟩

/-- The device reports success for a clear, and has cleared nothing. -/
theorem initiate_clear_clears_iff {τ : Type} [DecidableEq τ] (wValue wIndex wLength : UInt16)
    (gadget : Gadget τ) (strings : UsbGadgetStrings) (env : ControlEnv τ) :
    (∃ run, handleControl (initiateClearRequest wValue wIndex wLength) gadget strings env =
        some run ∧ run.io = [.write [usbTmcStatusSuccess]] ∧ run.gadget.adapter.Cleared) ↔
      gadget.adapter.Idle := by
  rw [← Adapter.cleared_iff_idle]
  constructor
  · rintro ⟨run, ran, _, cleared⟩
    rw [← Option.some.inj (show some (answer gadget [usbTmcStatusSuccess]) = some run from ran)]
      at cleared
    exact cleared
  · intro cleared
    exact ⟨answer gadget [usbTmcStatusSuccess], rfl, rfl, cleared⟩

/-- A command of one byte is waiting. -/
def waitingGadget : Gadget Nat := ⟨(scpiMsgCmdWrite .init [42] true).2, .ofEp0 0⟩

theorem waitingGadget_not_cleared :
    waitingGadget.adapter.Reachable ∧
      ∃ run, handleControl (initiateClearRequest 0 0 1) waitingGadget strings bareEnv =
          some run ∧
        run.io = [.write [usbTmcStatusSuccess]] ∧ ¬ run.gadget.adapter.Cleared := by
  refine ⟨(Machine.Reachable.start _ _).next (.cmdWrite [42] true) rfl,
    answer waitingGadget [usbTmcStatusSuccess], rfl, rfl, ?_⟩
  intro cleared
  exact absurd cleared.commands (by decide)

end ScpiVxiTmc
