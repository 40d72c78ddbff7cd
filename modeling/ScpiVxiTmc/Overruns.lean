import ScpiVxiTmc.Process
import ScpiVxiTmc.Usb.CopyBounds
import ScpiVxiTmc.Usb.PacketDumps

set_option autoImplicit false

/- What the hosts can send that makes the process leave one of its arrays. What its
prints read as strings, and the structures that `msgsnd` and `msgrcv` are given with too
large a size, are left aside; what `empty_out_buf` reads is not. -/
namespace ScpiVxiTmc

open Machine

namespace SinkThread

/-- Where the length passes for a positive int that the first read does not exceed: the
reads fit into the buffer, and the command ends in time in what they leave. -/
def KeepsInside (thread : SinkThread) (rcvLen : Nat) (reads : List SinkRead) : Prop :=
  thread.wanted < 2 ^ 31 →
    (rcvLen = thread.wanted → CommandEnds thread.buf) ∧
      (rcvLen < thread.wanted →
        ∃ filled, Buffer.overlay? thread.buf (thread.rest rcvLen reads).all = some filled ∧
          ((thread.rest rcvLen reads).ending.IsWhole ∨
            (thread.rest rcvLen reads).ending.IsBroken → CommandEnds filled))

/-- The round is for a command, and its call leaves an array. -/
def RoundOverruns (thread : SinkThread) : List SinkRead → Prop
  | .data bytes :: later => ∃ buf, thread.received? bytes = some buf ∧
      (UsbTmcBulkHeader.ofBuf buf).msgID = devDepMsgOut ∧
      ¬ { thread with buf := buf }.KeepsInside (bytes.take usbBufsize).length later
  | _ => False

/-- The round is for a request, and the response is too long to be printed. -/
def ResponseOverruns (thread : SinkThread) (bytes : List UInt8) : Prop :=
  ∃ buf, thread.received? bytes = some buf ∧
    (UsbTmcBulkHeader.ofBuf buf).msgID = requestDevDepMsgIn ∧ TooLong thread.adapter buf

/-- A round that is cut off has left an array before. -/
def CutOverruns (thread : SinkThread) : Cut → Prop
  | .idle reads => thread.RoundOverruns reads
  | .command bytes later => thread.RoundOverruns (.data bytes :: later)
  | .request bytes steps printed => thread.ResponseOverruns bytes ∧
      (4 ≤ steps ∨ steps = 3 ∧ usbBufsize < printed)

/-- What a round prints: the packet it has read, and those of a response. -/
def roundDumps (thread : SinkThread) : List SinkRead → List Nat
  | .data bytes :: _ => (bytes.take usbBufsize).length ::
      (thread.received? bytes).elim [] fun buf =>
        if (UsbTmcBulkHeader.ofBuf buf).msgID = requestDevDepMsgIn then
          responseDumps thread.adapter buf
        else []
  | _ => []

/-- Such reads make the round leave an array. -/
def commandStrays (thread : SinkThread) (reads : List SinkRead) : Bool :=
  match sinkRound thread reads true with
  | .stuck .blocked => false
  | .stuck _ => true
  | _ => false

/-- What a round did before it was cut off made it leave an array. -/
def cutStrays (thread : SinkThread) : Cut → Bool
  | .idle reads => thread.commandStrays reads
  | .command bytes later => thread.commandStrays (.data bytes :: later)
  | .request bytes steps printed => (thread.received? bytes).any fun buf =>
      decide ((UsbTmcBulkHeader.ofBuf buf).msgID = requestDevDepMsgIn) &&
        dumpsStray (cutDumps thread.adapter buf steps printed)

variable {thread : SinkThread} {reads : List SinkRead}

theorem cmdRead_stays_iff {rcvLen : Nat} :
    (∀ why, (thread.cmdRead rcvLen reads).outcome = .error why → why = .blocked) ↔
      thread.KeepsInside rcvLen reads := by
  apply length_test_cases
  · exact fun beyond => (inBounds_of_over beyond).stays
  · intro half whole
    have size : transfersizeOf (announced thread.buf) = rcvLen :=
      (transfersizeOf_of_half half).trans (congrArg Int.ofNat whole.symm)
    rw [cmdRead, usbtmcMsgCmdRead_of_eq _ _ _ _ _ size]
    exact rcvFinish_stays_iff _ _
  · exact outcome_stays_iff

theorem sinkCommand_stuck_iff {rcvLen : Nat} {accepted : Bool} {why : NoReturn} :
    sinkCommand thread rcvLen reads accepted = .stuck why ↔
      (thread.cmdRead rcvLen reads).outcome = .error why := by
  rw [sinkCommand, ← cmdRead]
  cases (thread.cmdRead rcvLen reads).outcome with
  | error other => simp only [SinkRound.stuck.injEq, Except.error.injEq]
  | ok done => simp only [reduceCtorEq]

/-- A round that is stuck and does not wait has left an array. -/
theorem sinkRound_stuck_iff {accepted : Bool} :
    (∃ why, sinkRound thread reads accepted = .stuck why ∧ why ≠ .blocked) ↔
      thread.RoundOverruns reads := by
  cases reads with
  | nil =>
      apply iff_of_false
      · rintro ⟨why, stuck, other⟩
        cases stuck
        exact other rfl
      · exact id
  | cons read later =>
      cases read with
      | failed =>
          apply iff_of_false
          · rintro ⟨why, stuck, _⟩
            cases stuck
          · exact id
      | data bytes =>
          by_cases nothing : bytes.take usbBufsize = []
          · simp only [sinkRound, RoundOverruns, received?, nothing, ↓reduceIte, reduceCtorEq,
              false_and, exists_false]
          · have fits : 0 + (bytes.take usbBufsize).length ≤ usbBufsize := by
              rw [Nat.zero_add]
              exact List.length_take_le _ _
            simp only [sinkRound, RoundOverruns, received?, nothing, ↓reduceIte,
              Buffer.store?_of_fits _ _ _ fits, Option.some.injEq, exists_eq_left']
            rw [sinkDispatch]
            by_cases command : (UsbTmcBulkHeader.ofBuf
                (Buffer.store thread.buf 0 (bytes.take usbBufsize) fits)).msgID = devDepMsgOut
            · simp only [command, ↓reduceIte, true_and]
              rw [← cmdRead_stays_iff]
              push Not
              simp only [sinkCommand_stuck_iff]
            · simp only [command, ↓reduceIte, false_and, iff_false]
              split
              · rintro ⟨why, stuck, _⟩
                cases stuck
              · rintro ⟨why, stuck, _⟩
                cases stuck

theorem commandStrays_iff : thread.commandStrays reads = true ↔ thread.RoundOverruns reads := by
  rw [← @sinkRound_stuck_iff _ _ true, commandStrays]
  cases sinkRound thread reads true with
  | stuck why =>
      cases why with
      | blocked => simp
      | readPastRevBuf | scanPastRevBuf | copyPastCmdBuf => simp
  | closed => simp only [Bool.false_eq_true, reduceCtorEq, false_and, exists_false]
  | next writes next later =>
      simp only [Bool.false_eq_true, reduceCtorEq, false_and, exists_false]

theorem cutStrays_iff {cut : Cut} : thread.cutStrays cut = true ↔ thread.CutOverruns cut := by
  cases cut with
  | idle reads => exact commandStrays_iff
  | command bytes later => exact commandStrays_iff
  | request bytes steps printed =>
      rw [cutStrays, CutOverruns, ResponseOverruns]
      cases thread.received? bytes with
      | none => simp only [Option.any_none, Bool.false_eq_true, reduceCtorEq, false_and,
          exists_false]
      | some buf =>
          simp only [Option.any_some, Bool.and_eq_true, decide_eq_true_eq, cutDumps_stray_iff,
            Option.some.injEq, exists_eq_left', and_assoc]

/-- The packet that has been read is printed inside its array. -/
theorem roundDumps_data_stray_iff {bytes : List UInt8} {later : List SinkRead} :
    dumpsStray (thread.roundDumps (.data bytes :: later)) = true ↔
      thread.ResponseOverruns bytes := by
  have inside : ¬ usbBufsize < (bytes.take usbBufsize).length :=
    Nat.not_lt.mpr (List.length_take_le _ _)
  rw [dumpsStray_iff, roundDumps, ResponseOverruns]
  simp only [List.mem_cons, exists_eq_or_imp, inside, false_or]
  cases thread.received? bytes with
  | none => simp only [Option.elim_none, List.not_mem_nil, reduceCtorEq, false_and, exists_false]
  | some buf =>
      simp only [Option.elim_some, Option.some.injEq, exists_eq_left']
      by_cases asks : (UsbTmcBulkHeader.ofBuf buf).msgID = requestDevDepMsgIn
      · rw [if_pos asks, ← dumpsStray_iff, responseDumps_stray_iff, and_iff_right asks]
      · simp only [asks, ↓reduceIte, List.not_mem_nil, false_and, exists_false]

theorem roundDumps_stray_iff :
    dumpsStray (thread.roundDumps reads) = true ↔
      ∃ bytes later, reads = .data bytes :: later ∧ thread.ResponseOverruns bytes := by
  match reads with
  | [] | .failed :: _ =>
      refine iff_of_false Bool.false_ne_true ?_
      rintro ⟨_, _, same, _⟩
      cases same
  | .data bytes :: later =>
      rw [roundDumps_data_stray_iff]
      constructor
      · exact fun strays => ⟨bytes, later, rfl, strays⟩
      · rintro ⟨_, _, same, strays⟩
        cases same
        exact strays

end SinkThread

variable {τ : Type}

/-- A request for a string that the search does not find in the table. -/
def GadgetfsEvent.Overruns (strings : UsbGadgetStrings) : GadgetfsEvent τ → Prop
  | .setup request _ => AsksPastTable strings request
  | _ => False

namespace Process

variable [DecidableEq τ] (table : UsbGadgetStrings) (p : Process τ)

/-- A round prints more than an array has, or one that is cut off has left an array. -/
def strays : Input τ → Bool
  | .sink thread reads _ => (p.sinks thread).any fun locals =>
      dumpsStray ((p.instrument locals).sink.roundDumps reads)
  | .control event cut _ => p.control && (p.cancelledBy table event).any fun locals =>
      cut.any (p.instrument locals).sink.cutStrays
  | .request _ _ => false
  | .cmdRead _ => false
  | .reponseWrite _ _ => false

/-- The step, none as well where a round strays. -/
def stepInside (p : Process τ) (input : Input τ) : Option (Output τ × Process τ) :=
  if p.strays table input then none else p.step table input

/-- What may come next: the thread is in its loop and the reads are those of a round,
the program is served, a command was announced, or there is a control thread and what
it cancels has got so far. -/
def Comes : Input τ → Prop
  | .sink thread reads accepted => ∃ locals, p.sinks thread = some locals ∧
      sinkRound (p.instrument locals).sink reads accepted ≠ .stuck .blocked ∧
      ∀ writes next later,
        sinkRound (p.instrument locals).sink reads accepted = .next writes next later → later = []
  | .request protocol req => .register req.program protocol ∈ p.calls
  | .cmdRead _ => ¬ (p.server.adapter.scpiSem = 0 ∨ p.server.adapter.msgQueue = [])
  | .reponseWrite _ _ => True
  | .control event cut opened => p.control = true ∧
      ∀ calls gadget,
        gadgetStep table ⟨p.server.adapter, p.threads⟩ event = some (calls, gadget) →
        p.strays table (.control event cut opened) = true ∨
          (p.withAdapter gadget.adapter).leaves (p.cancelledBy table event) cut ≠ none

/-- What makes the process leave an array: a command that is too long or does not end, a
response that is too long to be printed, either of them also in a round that is cut off
afterwards, a write of more than 100 bytes, or a request for a string that is not there. -/
def Overruns : Input τ → Prop
  | .sink thread reads _ => ∃ locals, p.sinks thread = some locals ∧
      ((p.instrument locals).sink.RoundOverruns reads ∨
        ∃ bytes later, reads = .data bytes :: later ∧
          (p.instrument locals).sink.ResponseOverruns bytes)
  | .request _ req => req.Overruns
  | .cmdRead _ => False
  | .reponseWrite _ _ => False
  | .control event cut _ => event.Overruns table ∨
      ∃ locals done, p.cancelledBy table event = some locals ∧ cut = some done ∧
        (p.instrument locals).sink.CutOverruns done

variable {table} {p}

theorem gadgetStep_eq_none_iff {gadget : Gadget τ} {event : GadgetfsEvent τ} :
    gadgetStep table gadget event = none ↔ event.Overruns table := by
  rw [gadgetStep, Option.map_eq_none_iff]
  cases event with
  | setup request env =>
      rw [gadgetfsEvent, Option.map_eq_none_iff]
      exact handleControl_eq_none gadget env
  | nop | connect | disconnect | suspend | unhandled =>
      exact iff_of_false (Option.some_ne_none _) id

theorem stepInside_eq_none_iff {input : Input τ} :
    p.stepInside table input = none ↔
      p.strays table input = true ∨ p.step table input = none := by
  rw [stepInside]
  by_cases out : p.strays table input = true
  · rw [if_pos out]
    exact iff_of_true rfl (Or.inl out)
  · rw [if_neg out, or_iff_right out]

theorem strays_sink_iff {thread : τ} {locals : SinkLocals} (inLoop : p.sinks thread = some locals)
    {reads : List SinkRead} {accepted : Bool} :
    p.strays table (.sink thread reads accepted) = true ↔
      ∃ bytes later, reads = .data bytes :: later ∧
        (p.instrument locals).sink.ResponseOverruns bytes := by
  rw [strays, inLoop, Option.any_some, SinkThread.roundDumps_stray_iff]

theorem strays_control_iff (running : p.control = true) {event : GadgetfsEvent τ}
    {cut : Option Cut} {opened : Option SinkLocals} :
    p.strays table (.control event cut opened) = true ↔
      ∃ locals done, p.cancelledBy table event = some locals ∧ cut = some done ∧
        (p.instrument locals).sink.CutOverruns done := by
  rw [strays, running, Bool.true_and]
  cases p.cancelledBy table event with
  | none => simp
  | some locals =>
      cases cut with
      | none => simp
      | some done => simp [SinkThread.cutStrays_iff]

theorem step_sink_eq_none_iff {thread : τ} {locals : SinkLocals}
    (inLoop : p.sinks thread = some locals) {reads : List SinkRead} {accepted : Bool}
    (comes : p.Comes table (.sink thread reads accepted)) :
    p.step table (.sink thread reads accepted) = none ↔
      (p.instrument locals).sink.RoundOverruns reads := by
  obtain ⟨_, same, ready, whole⟩ := comes
  rw [inLoop, Option.some.injEq] at same
  subst same
  simp only [step, inLoop, Option.bind_some, ← @SinkThread.sinkRound_stuck_iff _ _ accepted]
  cases round : sinkRound (p.instrument locals).sink reads accepted with
  | stuck why => exact iff_of_true rfl ⟨why, rfl, fun waits => ready (waits ▸ round)⟩
  | closed => simp only [reduceCtorEq, false_and, exists_false]
  | next writes next later =>
      cases whole writes next later round
      simp only [reduceCtorEq, false_and, exists_false]

/-- A control thread that goes on with an event leaves what its cut leaves. -/
theorem step_control_eq_none_iff (running : p.control = true) {event : GadgetfsEvent τ}
    {cut : Option Cut} {opened : Option SinkLocals}
    (gotSoFar : ∀ calls gadget,
      gadgetStep table ⟨p.server.adapter, p.threads⟩ event = some (calls, gadget) →
      (p.withAdapter gadget.adapter).leaves (p.cancelledBy table event) cut ≠ none) :
    p.step table (.control event cut opened) = none ↔ event.Overruns table := by
  rw [← gadgetStep_eq_none_iff, step, if_pos running]
  unfold cancelledBy at gotSoFar
  cases handled : gadgetStep table ⟨p.server.adapter, p.threads⟩ event with
  | none => exact iff_of_true rfl rfl
  | some done =>
      have left := gotSoFar done.1 done.2 handled
      rw [handled, Option.bind_some] at left
      refine iff_of_false ?_ (Option.some_ne_none _)
      rw [Option.bind_some, Option.map_eq_none_iff]
      exact left

/-- Of what may come, nothing else stops the process. -/
theorem stepInside_refused_iff {p : Process τ} {input : Input τ} (comes : p.Comes table input) :
    p.stepInside table input = none ↔ p.Overruns table input := by
  rw [stepInside_eq_none_iff]
  cases input with
  | sink thread reads accepted =>
      have ⟨locals, inLoop, _⟩ := comes
      rw [strays_sink_iff inLoop, step_sink_eq_none_iff inLoop comes, or_comm, Overruns, inLoop]
      simp only [Option.some.injEq, exists_eq_left']
  | request protocol req =>
      have served : .register req.program protocol ∈ p.calls := comes
      rw [strays, or_iff_right Bool.false_ne_true, step, if_pos served, Option.map_eq_none_iff,
        Vxi11.replies, Option.map_eq_none_iff]
      exact Vxi11.svcRun_eq_none_iff p.server req
  | cmdRead len =>
      rw [strays, or_iff_right Bool.false_ne_true, step, Option.map_eq_none_iff,
        scpiMsgCmdRead_eq_none_iff]
      exact iff_of_false comes id
  | reponseWrite buf msgsrc =>
      rw [strays, or_iff_right Bool.false_ne_true]
      exact iff_of_false (Option.some_ne_none _) id
  | control event cut opened =>
      obtain ⟨running, gotSoFar⟩ := comes
      rw [Overruns, ← @strays_control_iff _ _ _ _ running event cut opened]
      by_cases out : p.strays table (.control event cut opened) = true
      · exact iff_of_true (Or.inl out) (Or.inr out)
      · rw [or_iff_right out, or_iff_left out]
        exact step_control_eq_none_iff running fun calls gadget handled =>
          (gotSoFar calls gadget handled).resolve_left out

/-- Whatever the hosts send, however their threads are cut off, and whatever fails, the
process stops only where something comes that makes it leave an array. -/
theorem goes_wrong_iff (strings : UsbGadgetStrings) (p : Process τ) (inputs : List (Input τ))
    (comes : Along (stepInside strings) (Comes strings) p inputs) :
    exec (stepInside strings) p inputs = none ↔
      ∃ front input back outputs q, inputs = front ++ input :: back ∧
        exec (stepInside strings) p front = some (outputs, q) ∧ q.Overruns strings input :=
  exec_refused_iff (fun _ _ => stepInside_refused_iff) comes

/-- After a configuration, the host asks for a string that is not there. -/
def asksStringSix : List (Input Nat) :=
  [.control (configure 1 2) none (some .zero), .control (.setup stringSix bareEnv) none none]

theorem stringSix_overruns : (GadgetfsEvent.setup stringSix bareEnv).Overruns strings := by
  show AsksPastTable strings stringSix
  exact ⟨rfl, rfl, rfl, rfl, by decide, stringtab, rfl, by simp [stringtab, stringSix]⟩

theorem asksStringSix_comes :
    Along (stepInside strings) (Comes strings)
      (ofStart ⟨0, ⟨0, [.opened 3], some 3⟩, vxi11Calls⟩ 0 []) asksStringSix := by
  refine ⟨⟨rfl, ?_⟩, ?_⟩
  · intro calls gadget handled
    cases handled
    exact Or.inr (Option.some_ne_none _)
  · intro output after moved
    cases moved
    refine ⟨⟨rfl, ?_⟩, fun _ _ _ => trivial⟩
    intro calls gadget handled
    rw [gadgetStep_eq_none_iff.mpr stringSix_overruns] at handled
    cases handled

theorem goes_wrong_string_six :
    exec (stepInside strings) (ofStart ⟨0, ⟨0, [.opened 3], some 3⟩, vxi11Calls⟩ 0 [])
      asksStringSix = none :=
  (goes_wrong_iff strings _ asksStringSix asksStringSix_comes).mpr
    ⟨[_], _, [], _, _, rfl, rfl, Or.inl stringSix_overruns⟩

end Process

end ScpiVxiTmc
