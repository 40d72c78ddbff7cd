import ScpiVxiTmc.Adapter.Messages
import ScpiVxiTmc.Usb.IoThreads
import ScpiVxiTmc.Usb.Strings

set_option autoImplicit false

namespace ScpiVxiTmc

/-- `USB_DIR_IN`, the direction bit of a request type. -/
abbrev usbDirIn : UInt8 := 0x80

/-- `USB_DIR_OUT` -/
abbrev usbDirOut : UInt8 := 0

/-- `USB_RECIP_INTERFACE` -/
abbrev usbRecipInterface : UInt8 := 1

/-- `CONFIG_VALUE` -/
abbrev configValue : UInt16 := 1

/-- `USB_TMC_STATUS_SUCCESS` -/
abbrev usbTmcStatusSuccess : UInt8 := 1

/- Requests of chapter 9 -/
abbrev usbReqGetDescriptor : UInt8 := 6
abbrev usbReqSetConfiguration : UInt8 := 9
abbrev usbReqGetInterface : UInt8 := 10
abbrev usbReqSetInterface : UInt8 := 11

/- Requests of the class, with the number that this device gives to the last -/
abbrev initiateAbortBulkOut : UInt8 := 1
abbrev checkAbortBulkOutStatus : UInt8 := 2
abbrev initiateAbortBulkIn : UInt8 := 3
abbrev checkAbortBulkInStatus : UInt8 := 4
abbrev initiateClear : UInt8 := 5
abbrev checkClearStatus : UInt8 := 6
abbrev getCapabilities : UInt8 := 7
abbrev indicatorPulse : UInt8 := 0xA0

/-- The types of the class requests, to the interface and to an endpoint. -/
abbrev classInterfaceIn : UInt8 := 0xA1
abbrev classEndpointIn : UInt8 := 0xA2

/-- The bytes of `capabilities`. -/
def capabilities : List UInt8 :=
  [0x01, 0, 0x00, 0x01, 0, 0x01] ++
    [0x00, 0x00, 0x00, 0x00, 0x00, 0x00, 0x00, 0x01, 0x07, 0x0f, 0x00, 0x00] ++
    [0, 0, 0, 0, 0, 0]

/-- `struct usb_ctrlrequest`, its words in the byte order of the processor. -/
structure UsbCtrlrequest where
  bRequestType : UInt8
  bRequest : UInt8
  wValue : UInt16
  wIndex : UInt16
  wLength : UInt16

/-- The host waits for data. -/
def UsbCtrlrequest.IsIn (setup : UsbCtrlrequest) : Prop :=
  setup.bRequestType &&& usbDirIn ≠ 0

instance (setup : UsbCtrlrequest) : Decidable setup.IsIn :=
  inferInstanceAs (Decidable (setup.bRequestType &&& usbDirIn ≠ 0))

/-- What a request means for the bulk threads: nothing, unless it sets a
configuration that there is. -/
def UsbCtrlrequest.ioAction {τ : Type} (setup : UsbCtrlrequest) (creates : Creates τ) :
    IoAction τ :=
  if setup.bRequestType = usbDirOut ∧ setup.bRequest = usbReqSetConfiguration then
    if setup.wValue = configValue then .start creates
    else if setup.wValue = 0 then .stop
    else .keep
  else .keep

/-- An I/O call on the descriptor of ep0. -/
inductive Ep0Io
  | read (len : Nat)
  | write (bytes : List UInt8)
  deriving DecidableEq

/-- How a request ends: with data, with an empty status stage, or refused. -/
inductive ControlEnd
  | answered
  | acknowledged
  | stalled
  deriving DecidableEq

/-- What a request meets: the stack under its reply buffer, the errno of each
`GADGETFS_CLEAR_HALT` that fails, and the threads that `start_io` gets. -/
structure ControlEnv (τ : Type) where
  buf : ReplyBuf
  sourceHalt : Option Int
  sinkHalt : Option Int
  creates : Creates τ

/-- What the control thread shares with the rest of the program. -/
structure Gadget (τ : Type) where
  adapter : Adapter
  threads : IoThreads τ

/-- A call of `handle_control` that returned. -/
structure ControlRun (τ : Type) where
  io : List Ep0Io
  ended : ControlEnd
  calls : List (Ledger.Entry τ)
  gadget : Gadget τ

section
variable {τ : Type} (setup : UsbCtrlrequest) (gadget : Gadget τ)

def answer (bytes : List UInt8) : ControlRun τ := ⟨[.write bytes], .answered, [], gadget⟩

/-- A write would stall. -/
def acknowledge (calls : List (Ledger.Entry τ)) : ControlRun τ :=
  ⟨[.read 0], .acknowledged, calls, gadget⟩

/-- The code at `stall`: an I/O request in the wrong direction. -/
def stall : ControlRun τ :=
  ⟨[if setup.IsIn then .read 0 else .write []], .stalled, [], gadget⟩

/-- The switch for requests to the interface. In the test of `GET_CAPABILITIES`
the comparison binds tighter than the mask. -/
def interfaceRequest : ControlRun τ :=
  if setup.bRequest = initiateClear then answer gadget [usbTmcStatusSuccess]
  else if setup.bRequest = checkClearStatus then answer gadget [usbTmcStatusSuccess]
  else if setup.bRequest = getCapabilities then
    if setup.bRequestType.toNat &&& (usbDirIn != usbDirIn).toNat ≠ 0 then stall setup gadget
    else answer gadget capabilities
  else if setup.bRequest = indicatorPulse then answer gadget [usbTmcStatusSuccess]
  else stall setup gadget

/-- The switch for requests to an endpoint. -/
def endpointRequest : ControlRun τ :=
  if setup.bRequest = initiateAbortBulkOut then answer gadget [usbTmcStatusSuccess, 0x00]
  else if setup.bRequest = checkAbortBulkOutStatus then answer gadget [usbTmcStatusSuccess, 0x00]
  else if setup.bRequest = initiateAbortBulkIn then answer gadget [usbTmcStatusSuccess, 0x00]
  else if setup.bRequest = checkAbortBulkInStatus then answer gadget [usbTmcStatusSuccess, 0x00]
  else stall setup gadget

/-- The case `USB_REQ_GET_DESCRIPTOR`; only strings are served here. -/
def getDescriptor (strings : UsbGadgetStrings) (buf : ReplyBuf) : Option (ControlRun τ) :=
  if setup.bRequestType ≠ usbDirIn then some (stall setup gadget)
  else if setup.wValue >>> 8 = usbDtString.toUInt16 then
    let id := (setup.wValue &&& 0xff).toNat
    if id ≠ 0 ∧ setup.wIndex ≠ strings.language then some (stall setup gadget)
    else
      (usbGadgetGetString strings id buf).map fun got =>
        if got.1 < 0 then stall setup gadget
        else
          let tmp := if (setup.wLength.toNat : Int) < got.1 then setup.wLength.toNat else got.1.toNat
          answer gadget (got.2.toList.take tmp)
  else some (stall setup gadget)

/-- The case `USB_REQ_GET_INTERFACE`; there is one altsetting. -/
def getInterface : ControlRun τ :=
  if setup.bRequestType ≠ usbDirIn ||| usbRecipInterface ∨ setup.wIndex ≠ 0 ∨
      setup.wLength > 1 then stall setup gadget
  else answer gadget (([0] : List UInt8).take setup.wLength.toNat)

/-- The case `USB_REQ_SET_INTERFACE`. The errno of the second ioctl replaces that
of the first. -/
def setInterface (env : ControlEnv τ) : ControlRun τ :=
  if setup.bRequestType ≠ usbRecipInterface ∨ setup.wIndex ≠ 0 ∨ setup.wValue ≠ 0 then
    stall setup gadget
  else
    let status := env.sinkHalt.getD (env.sourceHalt.getD 0)
    if status ≠ 0 then stall setup gadget else acknowledge gadget []

variable [DecidableEq τ]

/-- The case `USB_REQ_SET_CONFIGURATION` -/
def setConfiguration (creates : Creates τ) : ControlRun τ :=
  if setup.bRequestType ≠ usbDirOut then stall setup gadget
  else if setup.wValue = configValue then
    let started := startIo gadget.threads creates
    acknowledge { gadget with threads := started.2 } started.1
  else if setup.wValue = 0 then
    let stopped := stopIo gadget.threads
    acknowledge { gadget with threads := stopped.2 } stopped.1
  else stall setup gadget

/-- The switch for the requests of chapter 9. -/
def standardRequest (strings : UsbGadgetStrings) (env : ControlEnv τ) : Option (ControlRun τ) :=
  if setup.bRequest = usbReqGetDescriptor then getDescriptor setup gadget strings env.buf
  else if setup.bRequest = usbReqSetConfiguration then
    some (setConfiguration setup gadget env.creates)
  else if setup.bRequest = usbReqGetInterface then some (getInterface setup gadget)
  else if setup.bRequest = usbReqSetInterface then some (setInterface setup gadget env)
  else some (stall setup gadget)

/-- `handle_control`; none if the search for a string leaves its table. -/
def handleControl (strings : UsbGadgetStrings) (env : ControlEnv τ) : Option (ControlRun τ) :=
  if setup.bRequestType = classInterfaceIn then some (interfaceRequest setup gadget)
  else if setup.bRequestType = classEndpointIn then some (endpointRequest setup gadget)
  else standardRequest setup gadget strings env

end

/-- How gadgetfs takes an I/O call on ep0: data or status in the direction of the
request completes it, the wrong direction stalls. -/
def ep0Verdict (setup : UsbCtrlrequest) : Ep0Io → ControlEnd
  | .read _ => if setup.IsIn then .stalled else .acknowledged
  | .write _ => if setup.IsIn then .answered else .stalled

/-- One I/O call completes the request, and cannot be taken for another end. -/
structure CompletesOnce {τ : Type} (setup : UsbCtrlrequest) (run : ControlRun τ) : Prop where
  once : run.io.length = 1
  answered : run.ended = .answered → setup.IsIn ∧ ∃ bytes, run.io = [.write bytes]
  acknowledged : run.ended = .acknowledged → ¬ setup.IsIn ∧ run.io = [.read 0]
  stalled : run.ended = .stalled → run.io = [if setup.IsIn then .read 0 else .write []]
  verdict : run.io.map (ep0Verdict setup) = [run.ended]

/-- The request is for a string whose search leaves the table. -/
def AsksPastTable (strings : UsbGadgetStrings) (setup : UsbCtrlrequest) : Prop :=
  setup.bRequestType = usbDirIn ∧ setup.bRequest = usbReqGetDescriptor ∧
    setup.wValue >>> 8 = usbDtString.toUInt16 ∧ setup.wIndex = strings.language ∧
    (setup.wValue &&& 0xff).toNat ≠ 0 ∧ SearchLeaves strings (setup.wValue &&& 0xff).toNat

section
variable {τ : Type} [DecidableEq τ] {setup : UsbCtrlrequest}

/-- The three ways in which a request ends. Only an acknowledgement comes with
an action on the bulk threads, and nothing else of the gadget ever changes. -/
inductive Replies (setup : UsbCtrlrequest) (gadget : Gadget τ) : IoAction τ → ControlRun τ → Prop
  | answer (bytes : List UInt8) (isIn : setup.IsIn) :
      Replies setup gadget .keep (answer gadget bytes)
  | acknowledge (action : IoAction τ) (isOut : ¬ setup.IsIn) :
      Replies setup gadget action
        (acknowledge { gadget with threads := (gadget.threads.perform action).2 }
          (gadget.threads.perform action).1)
  | stall : Replies setup gadget .keep (stall setup gadget)

theorem Replies.completes {gadget : Gadget τ} {action : IoAction τ} {run : ControlRun τ}
    (replies : Replies setup gadget action run) : CompletesOnce setup run := by
  cases replies with
  | answer bytes isIn =>
      refine ⟨rfl, fun _ => ⟨isIn, bytes, rfl⟩, fun other => ?_, fun other => ?_, ?_⟩
      · cases other
      · cases other
      · simp only [ScpiVxiTmc.answer, List.map_cons, List.map_nil, ep0Verdict, isIn, ↓reduceIte]
  | acknowledge action isOut =>
      refine ⟨rfl, fun other => ?_, fun _ => ⟨isOut, rfl⟩, fun other => ?_, ?_⟩
      · cases other
      · cases other
      · simp only [ScpiVxiTmc.acknowledge, List.map_cons, List.map_nil, ep0Verdict, isOut,
          ↓reduceIte]
  | stall =>
      refine ⟨rfl, fun other => ?_, fun other => ?_, fun _ => rfl, ?_⟩
      · cases other
      · cases other
      · by_cases isIn : setup.IsIn
        · simp only [ScpiVxiTmc.stall, isIn, ↓reduceIte, List.map_cons, List.map_nil, ep0Verdict]
        · simp only [ScpiVxiTmc.stall, isIn, ↓reduceIte, List.map_cons, List.map_nil, ep0Verdict]

/-- A request changes the bulk threads as its action says, and nothing else. -/
theorem Replies.effect {gadget : Gadget τ} {action : IoAction τ} {run : ControlRun τ}
    (replies : Replies setup gadget action run) :
    run.calls = (gadget.threads.perform action).1 ∧
      run.gadget = { gadget with threads := (gadget.threads.perform action).2 } := by
  cases replies with
  | answer bytes isIn => exact ⟨rfl, rfl⟩
  | acknowledge action isOut => exact ⟨rfl, rfl⟩
  | stall => exact ⟨rfl, rfl⟩

theorem isIn_of_type {type : UInt8} (same : setup.bRequestType = type)
    (bit : type &&& usbDirIn ≠ 0) : setup.IsIn := by
  rw [UsbCtrlrequest.IsIn, same]
  exact bit

theorem not_isIn_of_type {type : UInt8} (same : setup.bRequestType = type)
    (clear : type &&& usbDirIn = 0) : ¬ setup.IsIn := by
  rw [UsbCtrlrequest.IsIn, same, not_not]
  exact clear

theorem interfaceRequest_replies (gadget : Gadget τ)
    (type : setup.bRequestType = classInterfaceIn) :
    Replies setup gadget .keep (interfaceRequest setup gadget) := by
  have isIn := isIn_of_type type (by decide)
  unfold interfaceRequest
  repeat' split
  all_goals first | exact .answer _ isIn | exact .stall

theorem endpointRequest_replies (gadget : Gadget τ)
    (type : setup.bRequestType = classEndpointIn) :
    Replies setup gadget .keep (endpointRequest setup gadget) := by
  have isIn := isIn_of_type type (by decide)
  unfold endpointRequest
  repeat' split
  all_goals first | exact .answer _ isIn | exact .stall

theorem getDescriptor_replies {gadget : Gadget τ} {strings : UsbGadgetStrings} {buf : ReplyBuf}
    {run : ControlRun τ} (ran : getDescriptor setup gadget strings buf = some run) :
    Replies setup gadget .keep run := by
  unfold getDescriptor at ran
  split at ran
  · cases ran
    exact .stall
  · rename_i type
    have isIn := isIn_of_type (not_not.mp type) (by decide)
    split at ran
    · dsimp only at ran
      split at ran
      · cases ran
        exact .stall
      · obtain ⟨got, _, rfl⟩ := Option.map_eq_some_iff.mp ran
        split
        · exact .stall
        · exact .answer _ isIn
    · cases ran
      exact .stall

theorem getInterface_replies (gadget : Gadget τ) :
    Replies setup gadget .keep (getInterface setup gadget) := by
  unfold getInterface
  split
  · exact .stall
  · rename_i wanted
    rw [not_or, not_not] at wanted
    exact .answer _ (isIn_of_type wanted.1 (by decide))

theorem setInterface_replies (gadget : Gadget τ) (env : ControlEnv τ) :
    Replies setup gadget .keep (setInterface setup gadget env) := by
  unfold setInterface
  split
  · exact .stall
  · rename_i wanted
    rw [not_or, not_not] at wanted
    dsimp only
    split
    · exact .stall
    · exact .acknowledge .keep (not_isIn_of_type wanted.1 (by decide))

theorem setConfiguration_replies (gadget : Gadget τ) (creates : Creates τ)
    (request : setup.bRequest = usbReqSetConfiguration) :
    Replies setup gadget (setup.ioAction creates) (setConfiguration setup gadget creates) := by
  unfold setConfiguration UsbCtrlrequest.ioAction
  by_cases type : setup.bRequestType = usbDirOut
  · have isOut := not_isIn_of_type type (by decide)
    by_cases configure : setup.wValue = configValue
    · simp only [type, request, configure, ne_eq, not_true_eq_false, and_self, ↓reduceIte]
      exact .acknowledge (.start creates) isOut
    · by_cases reset : setup.wValue = 0
      · have apart : (0 : UInt16) ≠ configValue := by decide
        simp only [type, request, reset, apart, ne_eq, not_true_eq_false, and_self, ↓reduceIte]
        exact .acknowledge .stop isOut
      · simp only [type, request, configure, reset, ne_eq, not_true_eq_false, and_self,
          ↓reduceIte]
        exact .stall
  · simp only [type, ne_eq, not_false_eq_true, false_and, ↓reduceIte]
    exact .stall

/-- What `handle_control` does, whenever it returns. -/
theorem handleControl_replies {gadget : Gadget τ} {strings : UsbGadgetStrings}
    {env : ControlEnv τ} {run : ControlRun τ}
    (ran : handleControl setup gadget strings env = some run) :
    Replies setup gadget (setup.ioAction env.creates) run := by
  have ofType {type : UInt8} (same : setup.bRequestType = type) (apart : type ≠ usbDirOut) :
      setup.ioAction env.creates = .keep := by
    simp only [UsbCtrlrequest.ioAction, same, apart, false_and, ↓reduceIte]
  unfold handleControl at ran
  split at ran
  · rename_i type
    rw [ofType type (by decide)]
    exact Option.some.inj ran ▸ interfaceRequest_replies gadget type
  · split at ran
    · rename_i type
      rw [ofType type (by decide)]
      exact Option.some.inj ran ▸ endpointRequest_replies gadget type
    · unfold standardRequest at ran
      by_cases configuration : setup.bRequest = usbReqSetConfiguration
      · have apart : usbReqSetConfiguration ≠ usbReqGetDescriptor := by decide
        simp only [configuration, apart, ↓reduceIte, Option.some.injEq] at ran
        exact ran ▸ setConfiguration_replies gadget env.creates configuration
      · have keep : setup.ioAction env.creates = .keep := by
          simp only [UsbCtrlrequest.ioAction, configuration, and_false, ↓reduceIte]
        rw [keep]
        simp only [configuration, ↓reduceIte] at ran
        split at ran
        · exact getDescriptor_replies ran
        · split at ran
          · exact Option.some.inj ran ▸ getInterface_replies gadget
          · split at ran
            · exact Option.some.inj ran ▸ setInterface_replies gadget env
            · exact Option.some.inj ran ▸ .stall

omit [DecidableEq τ] in
/-- Where the search stays inside its table, a descriptor request returns. -/
theorem getDescriptor_eq_none (gadget : Gadget τ) {strings : UsbGadgetStrings} (buf : ReplyBuf)
    (request : setup.bRequest = usbReqGetDescriptor) :
    getDescriptor setup gadget strings buf = none ↔ AsksPastTable strings setup := by
  unfold getDescriptor AsksPastTable
  generalize (setup.wValue &&& 0xff).toNat = id
  generalize usbDtString.toUInt16 = string
  by_cases type : setup.bRequestType = usbDirIn
  · by_cases kind : setup.wValue >>> 8 = string
    · by_cases zero : id = 0
      · simp [type, kind, zero, usbGadgetGetString_eq_none]
      · by_cases language : setup.wIndex = strings.language
        · simp [type, kind, zero, language, request, usbGadgetGetString_eq_none]
        · simp [type, kind, zero, language]
    · simp [type, kind]
  · simp [type]

theorem handleControl_eq_none (gadget : Gadget τ) {strings : UsbGadgetStrings}
    (env : ControlEnv τ) :
    handleControl setup gadget strings env = none ↔ AsksPastTable strings setup := by
  have other {type : UInt8} (same : setup.bRequestType = type) (apart : type ≠ usbDirIn) :
      ¬ AsksPastTable strings setup := by
    intro asks
    exact apart (same ▸ asks.1)
  unfold handleControl
  split
  · rename_i type
    exact iff_of_false (Option.some_ne_none _) (other type (by decide))
  · split
    · rename_i type
      exact iff_of_false (Option.some_ne_none _) (other type (by decide))
    · unfold standardRequest
      split
      · rename_i request
        exact getDescriptor_eq_none gadget env.buf request
      · rename_i another
        repeat' split
        all_goals simp [AsksPastTable, another]

/-- Every request gets its one completion, save one for a string that neither
the table nor an end of it answers. -/
theorem one_completion_iff (setup : UsbCtrlrequest) (gadget : Gadget τ)
    (strings : UsbGadgetStrings) (env : ControlEnv τ) :
    (∃ run, handleControl setup gadget strings env = some run ∧ CompletesOnce setup run) ↔
      ¬ AsksPastTable strings setup := by
  rw [← handleControl_eq_none gadget env]
  constructor
  · rintro ⟨run, ran, _⟩ none
    rw [ran] at none
    cases none
  · intro returns
    obtain ⟨run, ran⟩ := Option.ne_none_iff_exists'.mp returns
    exact ⟨run, ran, (handleControl_replies ran).completes⟩

end

/-- A string literal, with the terminator the compiler adds. -/
def CText.literal (text : List UInt8) : CText := ⟨text ++ [0], by simp⟩

/-- `stringtab`: UNI-T, OSCILLOSCOPE, UPO3000CS, DEMO, Source/Sink -/
def stringtab : List UsbString :=
  [⟨1, some (.literal [85, 78, 73, 45, 84])⟩,
    ⟨2, some (.literal [79, 83, 67, 73, 76, 76, 79, 83, 67, 79, 80, 69])⟩,
    ⟨3, some (.literal [85, 80, 79, 51, 48, 48, 48, 67, 83])⟩,
    ⟨4, some (.literal [68, 69, 77, 79])⟩,
    ⟨5, some (.literal [83, 111, 117, 114, 99, 101, 47, 83, 105, 110, 107])⟩]

/-- `strings` -/
def strings : UsbGadgetStrings := ⟨0x0409, some stringtab⟩

/-- A gadget with no bulk threads, its control thread numbered 0. -/
def idleGadget : Gadget Nat := ⟨.init, .ofEp0 0⟩

/-- Both halts are cleared, and no thread can be created. -/
def bareEnv : ControlEnv Nat := ⟨Vector.replicate 256 0, none, none, ⟨none, none⟩⟩

/-- The host asks for string 6. -/
def stringSix : UsbCtrlrequest := ⟨usbDirIn, usbReqGetDescriptor, 0x0306, 0x0409, 255⟩

theorem stringSix_not_completed :
    ¬ ∃ run, handleControl stringSix idleGadget strings bareEnv = some run ∧
      CompletesOnce stringSix run := by
  rintro ⟨run, ran, _⟩
  have past : AsksPastTable strings stringSix :=
    ⟨rfl, rfl, rfl, rfl, by decide, stringtab, rfl, by simp [stringtab, stringSix]⟩
  rw [(handleControl_eq_none _ _).mpr past] at ran
  cases ran

end ScpiVxiTmc
