import ScpiVxiTmc.Adapter.RingCommutation
import ScpiVxiTmc.Lib.Movers
import ScpiVxiTmc.Usb.Response

set_option autoImplicit false

/- `usbtmc_msg_cmd_response` while other threads use the adapter. One step is what
it does from a call of the adapter to the next. -/
namespace ScpiVxiTmc

open Machine

/-- Where the function is: just called, with the header in place, in its loop, or
back. -/
inductive Sender
  | called (revBuf : RevBuf)
  | headed (revBuf : RevBuf) (total : Nat)
  | looping (revBuf : RevBuf) (total sended : Nat)
  | returned (retValue : Int) (revBuf : RevBuf)

structure Sending where
  adapter : Adapter
  sender : Sender

theorem header_room (total : Nat) : usbTmcHeaderLen + min total usbTmcDataMax ≤ usbBufsize :=
  Nat.add_le_add_left (Nat.min_le_right _ _) usbTmcHeaderLen

theorem packet_room (total sended : Nat) :
    0 + min (total - sended) usbBufsize ≤ usbBufsize := by
  rw [Nat.zero_add]
  exact Nat.min_le_right _ _

/-- The next step, with the writes it makes on `source_fd`. -/
def senderStep (s : Sending) : Option (List (List UInt8) × Sending) :=
  match s.sender with
  | .called revBuf =>
      let packet := UsbTmcBulkHeader.ofBuf revBuf
      let responseTotalLen := scpiMsgReponseAvailLen s.adapter
      if packet.bmTransferAttributes &&& attribTermchar ≠ 0 then
        some ([], ⟨s.adapter, .returned (-1) revBuf⟩)
      else if responseTotalLen ≤ 0 then
        some ([], ⟨s.adapter, .returned (-2) revBuf⟩)
      else
        some ([], ⟨s.adapter, .headed ((responseHeader packet responseTotalLen).putBuf revBuf)
          responseTotalLen.toNat⟩)
  | .headed revBuf total =>
      let responseLen := min total usbTmcDataMax
      let filled := reponseReadInto s.adapter revBuf usbTmcHeaderLen responseLen (header_room total)
      some ([filled.1.toList.take (Align.up (responseLen + usbTmcHeaderLen))],
        ⟨filled.2, .looping filled.1 total responseLen⟩)
  | .looping revBuf total sended =>
      if sended < total then
        let responseLen := min (total - sended) usbBufsize
        let filled := reponseReadInto s.adapter (Vector.replicate usbBufsize 0) 0 responseLen
          (packet_room total sended)
        some ([filled.1.toList.take (Align.up responseLen)],
          ⟨filled.2, .looping revBuf total (sended + responseLen)⟩)
      else
        some ([], ⟨s.adapter, .returned 0 revBuf⟩)
  | .returned _ _ => none

/-- What the caller looks at of an answer. Besides the sender only
`device_read_1_svc` asks for the length of the response, and it does not look at it. -/
def AdapterCall.looksAt : AdapterCall → Int × List UInt8 → Int × List UInt8
  | .reponseAvailLen, _ => (0, [])
  | _, reply => reply

/-- A call of the adapter, with what its caller looks at. -/
def observedStep (a : Adapter) (call : AdapterCall) : Option ((Int × List UInt8) × Adapter) :=
  (adapterStep a call).map fun done => (call.looksAt done.1, done.2)

/-- A call of another thread. -/
def bystanderStep (s : Sending) (call : AdapterCall) : Option ((Int × List UInt8) × Sending) :=
  (observedStep s.adapter call).map fun done => (done.1, { s with adapter := done.2 })

/-- What others may do meanwhile: anything with commands, responses that fit the
ring, and what `device_read_1_svc` does, to ask for the length without looking at it
and to read nothing. -/
def Quiet (s : Sending) : AdapterCall → Prop
  | .cmdWrite _ _ => True
  | .cmdRead _ => True
  | .reponseAvailLen => True
  | .reponseRead len => len = 0
  | .reponseWrite buf msgsrc => ∀ bytes, buf = some bytes →
      msgsrc = 0 ∧ s.adapter.tx.avail + bytes.length < scpiBufMax

/-- What the next step reads. -/
def Sender.reads : Sender → Nat
  | .called _ => 0
  | .headed _ total => min total usbTmcDataMax
  | .looping _ total sended => min (total - sended) usbBufsize
  | .returned _ _ => 0

/-- The first step looks at the request and the length: the sender is back, or has all
that waits to send. -/
theorem senderStep_called (a : Adapter) (revBuf : RevBuf) :
    (∃ retValue, senderStep ⟨a, .called revBuf⟩ = some ([], ⟨a, .returned retValue revBuf⟩) ∧
      ((UsbTmcBulkHeader.ofBuf revBuf).bmTransferAttributes &&& attribTermchar = 0 →
        scpiMsgReponseAvailLen a ≤ 0)) ∨
    ∃ headed, senderStep ⟨a, .called revBuf⟩ =
        some ([], ⟨a, .headed headed (scpiMsgReponseAvailLen a).toNat⟩) ∧
      (UsbTmcBulkHeader.ofBuf revBuf).bmTransferAttributes &&& attribTermchar = 0 ∧
      0 < scpiMsgReponseAvailLen a := by
  by_cases termchar : (UsbTmcBulkHeader.ofBuf revBuf).bmTransferAttributes &&& attribTermchar = 0
  · by_cases nothing : scpiMsgReponseAvailLen a ≤ 0
    · refine Or.inl ⟨-2, ?_, fun _ => nothing⟩
      simp only [senderStep, termchar, ne_eq, not_true_eq_false, ↓reduceIte, nothing]
    · have goes : ∃ headed, senderStep ⟨a, .called revBuf⟩ =
          some ([], ⟨a, .headed headed (scpiMsgReponseAvailLen a).toNat⟩) := by
        simp only [senderStep, termchar, ne_eq, not_true_eq_false, ↓reduceIte, nothing]
        exact ⟨_, rfl⟩
      obtain ⟨headed, goes⟩ := goes
      exact Or.inr ⟨headed, goes, termchar, Int.lt_of_not_ge nothing⟩
  · refine Or.inl ⟨-1, ?_, fun other => absurd other termchar⟩
    simp only [senderStep, ne_eq, termchar, not_false_eq_true, ↓reduceIte]

/-- What is still to be sent, once the length is known. -/
def Sender.owes : Sender → Option Nat
  | .called _ => none
  | .headed _ total => some total
  | .looping _ total sended => some (total - sended)
  | .returned _ _ => some 0

/-- All that is to be sent is in the ring. -/
structure Sending.Covered (s : Sending) : Prop where
  ring : s.adapter.gScpiMsg.msgsrc = 0
  inside : s.adapter.InRange
  enough : ∃ owed, s.sender.owes = some owed ∧ owed ≤ s.adapter.tx.avail

theorem Sender.reads_le {q : Sender} {owed : Nat} (owes : q.owes = some owed) :
    q.reads ≤ owed := by
  cases q with
  | called revBuf => cases owes
  | headed revBuf total =>
      cases owes
      exact Nat.min_le_left _ _
  | looping revBuf total sended =>
      cases owes
      exact Nat.min_le_left _ _
  | returned retValue revBuf => exact Nat.zero_le _

theorem reponseReadInto_congr {n : Nat} {a b : Adapter} (buf : Vector UInt8 n) (offset len : Nat)
    (room : offset + len ≤ n) (ring : a.gScpiMsg.msgsrc = 0) (ring' : b.gScpiMsg.msgsrc = 0)
    (same : (a.tx.read len).2.1 = (b.tx.read len).2.1) :
    (reponseReadInto a buf offset len room).1 = (reponseReadInto b buf offset len room).1 ∧
      (reponseReadInto b buf offset len room).2 = b.withTx (b.tx.read len).2.2 := by
  constructor
  · simp only [reponseReadInto, scpiMsgReponseRead_of_ring _ len ring,
      scpiMsgReponseRead_of_ring _ len ring', same]
  · simp only [reponseReadInto, scpiMsgReponseRead_of_ring _ len ring']

/-- A step depends on the adapter through the bytes it reads only, and takes them. -/
theorem senderStep_congr {a b : Adapter} {q : Sender} {owed : Nat} (owes : q.owes = some owed)
    (ring : a.gScpiMsg.msgsrc = 0) (ring' : b.gScpiMsg.msgsrc = 0)
    (same : (a.tx.read q.reads).2.1 = (b.tx.read q.reads).2.1) {writes : List (List UInt8)}
    {after : Sending} (moved : senderStep ⟨a, q⟩ = some (writes, after)) :
    senderStep ⟨b, q⟩ = some (writes, ⟨b.withTx (b.tx.read q.reads).2.2, after.sender⟩) := by
  cases q with
  | called revBuf => cases owes
  | headed revBuf total =>
      have both := reponseReadInto_congr revBuf usbTmcHeaderLen (min total usbTmcDataMax)
        (header_room total) ring ring' same
      simp only [senderStep, Option.some.injEq, Prod.mk.injEq] at moved
      simp only [senderStep, ← moved.1, ← moved.2, both.1, both.2, Sender.reads]
  | looping revBuf total sended =>
      by_cases unsent : sended < total
      · have both := reponseReadInto_congr (Vector.replicate usbBufsize 0) 0
          (min (total - sended) usbBufsize) (packet_room total sended) ring ring' same
        simp only [senderStep, unsent, ↓reduceIte, Option.some.injEq, Prod.mk.injEq] at moved
        simp only [senderStep, unsent, ↓reduceIte, ← moved.1, ← moved.2, both.1, both.2,
          Sender.reads]
      · have nothing : total - sended = 0 := by omega
        simp only [senderStep, unsent, ↓reduceIte, Option.some.injEq, Prod.mk.injEq] at moved
        simp only [senderStep, unsent, ↓reduceIte, ← moved.1, ← moved.2, Sender.reads, nothing]
        rfl
  | returned retValue revBuf => cases moved

/-- What a quiet call does, it does as well after the sender's next read, which
reads the same. -/
structure Swaps (a : Adapter) (call : AdapterCall) (reply : Int × List UInt8) (after : Adapter)
    (len : Nat) : Prop where
  bytes : (after.tx.read len).2.1 = (a.tx.read len).2.1
  later : observedStep (a.withTx (a.tx.read len).2.2) call =
    some (reply, after.withTx (after.tx.read len).2.2)
  ring : after.gScpiMsg.msgsrc = 0
  grown : a.tx.avail ≤ after.tx.avail

theorem scpiMsgCmdWrite_withTx (a : Adapter) (ring : ByteRing) (buf : List UInt8)
    (accepted : Bool) :
    (scpiMsgCmdWrite (a.withTx ring) buf accepted).2 =
      (scpiMsgCmdWrite a buf accepted).2.withTx ring := by
  cases accepted <;> rfl

theorem observedStep_eq_some {a after : Adapter} {call : AdapterCall}
    {seen : Int × List UInt8} :
    observedStep a call = some (seen, after) ↔
      ∃ reply, adapterStep a call = some (reply, after) ∧ call.looksAt reply = seen := by
  simp only [observedStep, Option.map_eq_some_iff, Prod.mk.injEq]
  constructor
  · rintro ⟨done, called, looked, rfl⟩
    exact ⟨done.1, called, looked⟩
  · rintro ⟨reply, called, looked⟩
    exact ⟨(reply, after), called, looked, rfl⟩

theorem observedStep_inRange {a after : Adapter} {call : AdapterCall} {seen : Int × List UInt8}
    (inside : a.InRange) (called : observedStep a call = some (seen, after)) : after.InRange := by
  obtain ⟨reply, answered, _⟩ := observedStep_eq_some.mp called
  exact adapterStep_inRange a call reply after inside answered

theorem quiet_swaps {s : Sending} {call : AdapterCall} {seen : Int × List UInt8}
    {after : Adapter} {len : Nat} (ring : s.adapter.gScpiMsg.msgsrc = 0)
    (inside : s.adapter.InRange) (enough : len ≤ s.adapter.tx.avail) (quiet : Quiet s call)
    (observed : observedStep s.adapter call = some (seen, after)) :
    Swaps s.adapter call seen after len := by
  obtain ⟨reply, called, looked⟩ := observedStep_eq_some.mp observed
  cases call with
  | cmdWrite buf accepted =>
      rw [adapterStep, Option.some.injEq, Prod.mk.injEq] at called
      obtain ⟨rfl, rfl⟩ := called
      have sameTx := scpiMsgCmdWrite_tx s.adapter buf accepted
      refine ⟨by rw [sameTx], observedStep_eq_some.mpr ⟨_, ?_, looked⟩, ?_, by rw [sameTx]⟩
      · rw [adapterStep, scpiMsgCmdWrite_withTx, sameTx]
        rfl
      · rw [scpiMsgCmdWrite_gScpiMsg]
        exact ring
  | cmdRead count =>
      rw [adapterStep, scpiMsgCmdRead_eq_some] at called
      obtain ⟨sem, msg, rest, posted, queued, rfl, rfl⟩ := called
      refine ⟨rfl, observedStep_eq_some.mpr ⟨_, ?_, looked⟩, ring, Nat.le_refl _⟩
      rw [adapterStep, scpiMsgCmdRead_eq_some]
      exact ⟨sem, msg, rest, posted, queued, rfl, rfl⟩
  | reponseAvailLen =>
      rw [adapterStep, Option.some.injEq, Prod.mk.injEq] at called
      obtain ⟨_, rfl⟩ := called
      -- The length differs behind the read; nobody looks at it.
      exact ⟨rfl, observedStep_eq_some.mpr ⟨_, rfl, looked⟩, ring, Nat.le_refl _⟩
  | reponseRead count =>
      obtain rfl : count = 0 := quiet
      rw [adapterStep, Option.some.injEq, scpiMsgReponseRead_of_ring _ 0 ring,
        Prod.mk.injEq] at called
      obtain ⟨rfl, rfl⟩ := called
      refine ⟨rfl, observedStep_eq_some.mpr ⟨_, ?_, looked⟩, ring, Nat.le_refl _⟩
      have ringLater : (s.adapter.withTx (s.adapter.tx.read len).2.2).gScpiMsg.msgsrc = 0 := ring
      rw [adapterStep, scpiMsgReponseRead_of_ring _ 0 ringLater]
      rfl
  | reponseWrite buf msgsrc =>
      cases buf with
      | none =>
          rw [adapterStep, scpiMsgReponseWrite, Option.some.injEq, Prod.mk.injEq] at called
          obtain ⟨rfl, rfl⟩ := called
          exact ⟨rfl, observedStep_eq_some.mpr ⟨_, rfl, looked⟩, ring, Nat.le_refl _⟩
      | some bytes =>
          obtain ⟨rfl, room⟩ := quiet bytes rfl
          rw [adapterStep, scpiMsgReponseWrite_ring, Option.some.injEq, Prod.mk.injEq] at called
          obtain ⟨rfl, rfl⟩ := called
          have commutes := ByteRing.read_write s.adapter.tx bytes len inside.tx room enough
          have grown := ByteRing.write_avail s.adapter.tx bytes inside.tx
          rw [Nat.mod_eq_of_lt room] at grown
          refine ⟨congrArg (·.2.1) commutes, observedStep_eq_some.mpr ⟨_, ?_, looked⟩, rfl, ?_⟩
          · rw [adapterStep, scpiMsgReponseWrite_ring]
            show some _ = some (_, Adapter.withTx _ ((s.adapter.tx.write bytes).2.read len).2.2)
            rw [commutes]
            rfl
          · show s.adapter.tx.avail ≤ (s.adapter.tx.write bytes).2.avail
            omega

/-- A step sends what it reads of what is owed. -/
theorem senderStep_owes {a : Adapter} {q : Sender} {owed : Nat} (owes : q.owes = some owed)
    {writes : List (List UInt8)} {after : Sending}
    (moved : senderStep ⟨a, q⟩ = some (writes, after)) :
    after.sender.owes = some (owed - q.reads) := by
  cases q with
  | called revBuf => cases owes
  | headed revBuf total =>
      cases owes
      cases moved
      rfl
  | looping revBuf total sended =>
      cases owes
      by_cases unsent : sended < total
      · simp only [senderStep, unsent, ↓reduceIte, Option.some.injEq, Prod.mk.injEq] at moved
        simp only [← moved.2, Sender.owes, Sender.reads, Option.some.injEq]
        omega
      · simp only [senderStep, unsent, ↓reduceIte, Option.some.injEq, Prod.mk.injEq] at moved
        simp only [← moved.2, Sender.owes, Option.some.injEq]
        omega
  | returned retValue revBuf => cases moved

theorem covered_own {s after : Sending} {writes : List (List UInt8)} (covered : s.Covered)
    (moved : senderStep s = some (writes, after)) : after.Covered := by
  obtain ⟨owed, owes, enough⟩ := covered.enough
  have same := moved.symm.trans
    (senderStep_congr owes covered.ring covered.ring rfl moved)
  rw [Option.some.injEq, Prod.mk.injEq] at same
  have took : after.adapter = s.adapter.withTx (s.adapter.tx.read s.sender.reads).2.2 :=
    congrArg Sending.adapter same.2
  refine ⟨took ▸ covered.ring, ?_, owed - s.sender.reads, senderStep_owes owes moved, ?_⟩
  · rw [took]
    exact ⟨covered.inside.rx, ByteRing.read_inRange _ _ covered.inside.tx⟩
  · have left := ByteRing.read_avail s.adapter.tx s.sender.reads covered.inside.tx
    rw [took]
    show owed - s.sender.reads ≤ (s.adapter.tx.read s.sender.reads).2.2.avail
    omega

theorem bystanderStep_eq_some {s after : Sending} {call : AdapterCall}
    {reply : Int × List UInt8} :
    bystanderStep s call = some (reply, after) ↔
      ∃ a, observedStep s.adapter call = some (reply, a) ∧ after = ⟨a, s.sender⟩ := by
  simp only [bystanderStep, Option.map_eq_some_iff, Prod.mk.injEq]
  constructor
  · rintro ⟨done, called, rfl, rfl⟩
    exact ⟨done.2, called, rfl⟩
  · rintro ⟨a, called, rfl⟩
    exact ⟨(reply, a), called, rfl, rfl⟩

theorem covered_bystander {s after : Sending} {call : AdapterCall} {reply : Int × List UInt8}
    (covered : s.Covered) (quiet : Quiet s call)
    (called : bystanderStep s call = some (reply, after)) : after.Covered := by
  obtain ⟨a, answered, rfl⟩ := bystanderStep_eq_some.mp called
  obtain ⟨owed, owes, enough⟩ := covered.enough
  have swaps := quiet_swaps covered.ring covered.inside (Nat.zero_le _) quiet answered
  exact ⟨swaps.ring, observedStep_inRange covered.inside answered, owed, owes,
    Nat.le_trans enough swaps.grown⟩

/-- The ring only gets emptier by a step of the sender. -/
theorem quiet_own {s after : Sending} {call : AdapterCall} {writes : List (List UInt8)}
    (covered : s.Covered) (quiet : Quiet s call)
    (moved : senderStep s = some (writes, after)) : Quiet after call := by
  cases call with
  | cmdWrite buf accepted => trivial
  | cmdRead len => trivial
  | reponseAvailLen => trivial
  | reponseRead len => exact quiet
  | reponseWrite buf msgsrc =>
      intro bytes given
      obtain ⟨source, room⟩ := quiet bytes given
      obtain ⟨owed, owes, enough⟩ := covered.enough
      have same := moved.symm.trans
        (senderStep_congr owes covered.ring covered.ring rfl moved)
      rw [Option.some.injEq, Prod.mk.injEq] at same
      have left := ByteRing.read_avail s.adapter.tx s.sender.reads covered.inside.tx
      refine ⟨source, ?_⟩
      rw [same.2]
      show (s.adapter.tx.read s.sender.reads).2.2.avail + bytes.length < scpiBufMax
      omega

theorem own_before_bystander {s middle after : Sending} {call : AdapterCall}
    {reply : Int × List UInt8} {writes : List (List UInt8)} (covered : s.Covered)
    (quiet : Quiet s call) (called : bystanderStep s call = some (reply, middle))
    (moved : senderStep middle = some (writes, after)) :
    ∃ early, senderStep s = some (writes, early) ∧
      bystanderStep early call = some (reply, after) := by
  obtain ⟨a, answered, rfl⟩ := bystanderStep_eq_some.mp called
  obtain ⟨owed, owes, enough⟩ := covered.enough
  have within : s.sender.reads ≤ s.adapter.tx.avail :=
    Nat.le_trans (Sender.reads_le owes) enough
  have swaps := quiet_swaps covered.ring covered.inside within quiet answered
  have stays := senderStep_congr owes swaps.ring swaps.ring rfl moved
  rw [moved, Option.some.injEq, Prod.mk.injEq] at stays
  refine ⟨_, senderStep_congr owes swaps.ring covered.ring swaps.bytes moved, ?_⟩
  rw [stays.2]
  exact bystanderStep_eq_some.mpr ⟨_, swaps.later, rfl⟩

/-- Any step of the sender but the first may come earlier. -/
theorem sender_leftMover : LeftMover senderStep bystanderStep Sending.Covered Quiet where
  ownKeeps _ _ _ covered moved := covered_own covered moved
  otherKeeps _ _ _ _ covered quiet called := covered_bystander covered quiet called
  guarded _ _ _ _ covered quiet moved := quiet_own covered quiet moved
  swaps _ _ _ _ _ _ covered quiet called moved := own_before_bystander covered quiet called moved

/-- The steps of the loop are what the loop does. -/
theorem alone_looping {a b : Adapter} {revBuf buf : RevBuf} {total sended count : Nat}
    {retValue : Int} {writes : List (List (List UInt8))}
    (moved : alone senderStep ⟨a, .looping revBuf total sended⟩ count =
      some (writes, ⟨b, .returned retValue buf⟩)) :
    retValue = 0 ∧ buf = revBuf ∧ responseLoop total sended a = (writes.flatten, b) := by
  induction count generalizing a sended writes with
  | zero => cases exec_nil_eq_some.mp moved |>.2
  | succ count ih =>
      obtain ⟨output, after, later, first, rest, rfl⟩ := alone_succ_eq_some.mp moved
      by_cases unsent : sended < total
      · simp only [senderStep, unsent, ↓reduceIte, Option.some.injEq, Prod.mk.injEq] at first
        obtain ⟨rfl, rfl⟩ := first
        obtain ⟨returns, same, looped⟩ := ih rest
        refine ⟨returns, same, ?_⟩
        rw [responseLoop]
        simp only [unsent, ↓reduceDIte, looped, List.flatten_cons, List.singleton_append]
      · simp only [senderStep, unsent, ↓reduceIte, Option.some.injEq, Prod.mk.injEq] at first
        obtain ⟨rfl, rfl⟩ := first
        cases count with
        | zero =>
            cases exec_nil_eq_some.mp rest |>.2
            cases exec_nil_eq_some.mp rest |>.1
            refine ⟨rfl, rfl, ?_⟩
            rw [responseLoop]
            simp only [unsent, ↓reduceDIte]
            rfl
        | succ count =>
            obtain ⟨_, _, _, stepped, _⟩ := alone_succ_eq_some.mp rest
            cases stepped

theorem alone_headed {a b : Adapter} {headed buf : RevBuf} {total count : Nat}
    {retValue : Int} {writes : List (List (List UInt8))}
    (moved : alone senderStep ⟨a, .headed headed total⟩ count =
      some (writes, ⟨b, .returned retValue buf⟩)) :
    sendResponse a headed total = ⟨retValue, buf, writes.flatten, b⟩ := by
  cases count with
  | zero => cases exec_nil_eq_some.mp moved |>.2
  | succ count =>
      obtain ⟨output, after, later, first, rest, rfl⟩ := alone_succ_eq_some.mp moved
      cases first
      obtain ⟨rfl, rfl, looped⟩ := alone_looping rest
      simp only [sendResponse, looped, List.flatten_cons, List.singleton_append]

/-- Calls of the others are calls of the adapter. -/
theorem exec_bystander {s last : Sending} {calls : List AdapterCall}
    {replies : List (Int × List UInt8)}
    (moved : exec bystanderStep s calls = some (replies, last)) :
    exec observedStep s.adapter calls = some (replies, last.adapter) ∧
      last.sender = s.sender := by
  induction calls generalizing s replies with
  | nil =>
      obtain ⟨rfl, rfl⟩ := exec_nil_eq_some.mp moved
      exact ⟨rfl, rfl⟩
  | cons call rest ih =>
      obtain ⟨reply, after, later, first, remaining, rfl⟩ := exec_cons_eq_some.mp moved
      obtain ⟨a, answered, rfl⟩ := bystanderStep_eq_some.mp first
      obtain ⟨others, same⟩ := ih remaining
      exact ⟨exec_cons_eq_some.mpr ⟨reply, a, later, answered, others, rfl⟩, same⟩

/-- The function did all it did at one moment, between the calls of the others, who
see what they would see then. -/
def AtOnce (a : Adapter) (revBuf : RevBuf) (calls : List AdapterCall)
    (replies : List (Int × List UInt8)) (done : CmdResponse) : Prop :=
  ∃ before after early late middle last, calls = before ++ after ∧ replies = early ++ late ∧
    exec observedStep a before = some (early, middle) ∧
    usbtmcMsgCmdResponse middle revBuf = { done with adapter := last } ∧
    exec observedStep last after = some (late, done.adapter)

/-- Once the length is known, the rest is done at once. -/
theorem atOnce_of_covered {s : Sending} {b : Adapter} {buf : RevBuf} {retValue : Int}
    {turns : List (Turn AdapterCall)} {outputs : List (List (List UInt8) ⊕ (Int × List UInt8))}
    (covered : s.Covered)
    (quiet : Along (turnStep senderStep bystanderStep) (Allowed Quiet) s turns)
    (moved : exec (turnStep senderStep bystanderStep) s turns =
      some (outputs, ⟨b, .returned retValue buf⟩)) :
    ∃ count last, alone senderStep s count =
        some (outputs.filterMap Sum.getLeft?, ⟨last, .returned retValue buf⟩) ∧
      exec observedStep last (turns.filterMap Turn.other?) =
        some (outputs.filterMap Sum.getRight?, b) := by
  obtain ⟨count, middle, mine, others⟩ := sender_leftMover.exec_own_first covered quiet moved
  obtain ⟨called, same⟩ := exec_bystander others
  refine ⟨count, middle.adapter, ?_, called⟩
  rw [mine]
  exact congrArg (fun sender => some (_, Sending.mk middle.adapter sender)) same.symm

/-- A sender that is back makes no more steps. -/
theorem alone_returned {a last : Adapter} {retValue retValue' : Int} {revBuf buf : RevBuf}
    {count : Nat} {writes : List (List (List UInt8))}
    (moved : alone senderStep ⟨a, .returned retValue revBuf⟩ count =
      some (writes, ⟨last, .returned retValue' buf⟩)) :
    writes = [] ∧ last = a ∧ retValue' = retValue ∧ buf = revBuf := by
  cases count with
  | zero =>
      cases exec_nil_eq_some.mp moved |>.2
      cases exec_nil_eq_some.mp moved |>.1
      exact ⟨rfl, rfl, rfl, rfl⟩
  | succ count =>
      obtain ⟨_, _, _, stepped, _⟩ := alone_succ_eq_some.mp moved
      cases stepped

/-- From its first step on, the function is as good as done. -/
theorem alone_called {a last : Adapter} {revBuf buf : RevBuf} {retValue : Int} {count : Nat}
    {writes : List (List UInt8)} {later : List (List (List UInt8))} {after : Sending}
    (first : senderStep ⟨a, .called revBuf⟩ = some (writes, after))
    (moved : alone senderStep after count = some (later, ⟨last, .returned retValue buf⟩)) :
    usbtmcMsgCmdResponse a revBuf = ⟨retValue, buf, (writes :: later).flatten, last⟩ := by
  unfold usbtmcMsgCmdResponse
  simp only [senderStep] at first
  by_cases termchar :
      (UsbTmcBulkHeader.ofBuf revBuf).bmTransferAttributes &&& attribTermchar ≠ 0
  · rw [if_pos termchar] at first ⊢
    cases first
    obtain ⟨rfl, rfl, rfl, rfl⟩ := alone_returned moved
    rfl
  · rw [if_neg termchar] at first ⊢
    by_cases nothing : scpiMsgReponseAvailLen a ≤ 0
    · rw [if_pos nothing] at first ⊢
      cases first
      obtain ⟨rfl, rfl, rfl, rfl⟩ := alone_returned moved
      rfl
    · rw [if_neg nothing] at first ⊢
      cases first
      rw [List.flatten_cons, List.nil_append]
      exact alone_headed moved

/-- The first step leaves the sender back, or with all that it is to send in the ring. -/
theorem covered_called {a : Adapter} {revBuf : RevBuf} {writes : List (List UInt8)}
    {after : Sending} (ring : a.gScpiMsg.msgsrc = 0) (inside : a.InRange)
    (first : senderStep ⟨a, .called revBuf⟩ = some (writes, after)) : after.Covered := by
  obtain ⟨_, back, _⟩ | ⟨_, goes, _⟩ := senderStep_called a revBuf
  · cases back.symm.trans first
    exact ⟨ring, inside, 0, rfl, Nat.zero_le _⟩
  · cases goes.symm.trans first
    refine ⟨ring, inside, _, rfl, ?_⟩
    rw [scpiMsgReponseAvailLen_of_ring a ring]
    exact Nat.le_refl _

/-- Whatever others do between the steps of a response, it is sent as if nobody had
done anything, and they are answered as if it had been sent at once. -/
theorem response_at_once (a : Adapter) (reached : a.Reachable) (ring : a.gScpiMsg.msgsrc = 0)
    (revBuf : RevBuf) (turns : List (Turn AdapterCall))
    (outputs : List (List (List UInt8) ⊕ (Int × List UInt8))) (b : Adapter) (buf : RevBuf)
    (retValue : Int)
    (quiet : Along (turnStep senderStep bystanderStep) (Allowed Quiet) ⟨a, .called revBuf⟩ turns)
    (moved : exec (turnStep senderStep bystanderStep) ⟨a, .called revBuf⟩ turns =
      some (outputs, ⟨b, .returned retValue buf⟩)) :
    AtOnce a revBuf (turns.filterMap Turn.other?) (outputs.filterMap Sum.getRight?)
      ⟨retValue, buf, (outputs.filterMap Sum.getLeft?).flatten, b⟩ := by
  have inside := reached.inRange
  clear reached
  induction turns generalizing a outputs with
  | nil => cases exec_nil_eq_some.mp moved |>.2
  | cons turn rest ih =>
      obtain ⟨output, after, later, first, remaining, rfl⟩ := exec_cons_eq_some.mp moved
      obtain ⟨allowed, quietRest⟩ := (along_cons first).mp quiet
      cases turn with
      | own =>
          obtain ⟨done, stepped, same⟩ := Option.map_eq_some_iff.mp first
          obtain ⟨rfl, rfl⟩ := Prod.mk.inj same
          obtain ⟨count, last, mine, others⟩ :=
            atOnce_of_covered (covered_called ring inside stepped) quietRest remaining
          exact ⟨[], _, [], _, a, last, rfl, rfl, rfl, alone_called stepped mine, others⟩
      | other call =>
          obtain ⟨done, called, same⟩ := Option.map_eq_some_iff.mp first
          obtain ⟨rfl, rfl⟩ := Prod.mk.inj same
          obtain ⟨next, answered, moved⟩ := bystanderStep_eq_some.mp called
          have kept := (quiet_swaps ring inside (Nat.zero_le _) allowed answered).ring
          rw [moved] at quietRest remaining
          obtain ⟨before, afterwards, early, late, middle, last, calls, replies, ran, whole,
            ends⟩ := ih next kept _ quietRest remaining
              (observedStep_inRange inside answered)
          exact ⟨call :: before, afterwards, done.1 :: early, late, middle, last,
            congrArg (call :: ·) calls, congrArg (done.1 :: ·) replies,
            exec_cons_eq_some.mpr ⟨done.1, next, early, answered, ran, rfl⟩, whole, ends⟩

/-- Between the header and the data of a response another one comes in, and the
network server reads. -/
def crossingResponse : List (Turn AdapterCall) :=
  [.own, .other (.reponseWrite (some [33]) 0), .other .reponseAvailLen, .other (.reponseRead 0),
    .own, .own]

/-- The sender in front of a response of two bytes. -/
def twoBytesAsked : Sending :=
  ⟨twoBytesWaiting, .called ((requestFor 64).putBuf (Vector.replicate usbBufsize 0))⟩

theorem crossingResponse_quiet :
    Along (turnStep senderStep bystanderStep) (Allowed Quiet) twoBytesAsked crossingResponse := by
  refine (along_cons rfl).mpr ⟨trivial, (along_cons rfl).mpr ⟨?_, (along_cons rfl).mpr
    ⟨trivial, (along_cons rfl).mpr ⟨rfl, (along_cons rfl).mpr ⟨trivial, (along_cons rfl).mpr
      ⟨trivial, trivial⟩⟩⟩⟩⟩⟩
  rintro bytes given
  cases given
  exact ⟨rfl, by decide⟩

theorem response_at_once_two_bytes :
    ∃ outputs b buf retValue,
      exec (turnStep senderStep bystanderStep) twoBytesAsked crossingResponse =
        some (outputs, ⟨b, .returned retValue buf⟩) ∧
      AtOnce twoBytesWaiting ((requestFor 64).putBuf (Vector.replicate usbBufsize 0))
        [.reponseWrite (some [33]) 0, .reponseAvailLen, .reponseRead 0]
        (outputs.filterMap Sum.getRight?)
        ⟨retValue, buf, (outputs.filterMap Sum.getLeft?).flatten, b⟩ :=
  ⟨_, _, _, _, rfl, response_at_once twoBytesWaiting twoBytesWaiting_reachable rfl _
    crossingResponse _ _ _ _ crossingResponse_quiet rfl⟩

/-- The steps that are left to make, at most, where no response has more than `most`
bytes. -/
def Sender.left (most : Nat) : Sender → Nat
  | .called _ => 3 + (most - usbTmcDataMax + 511) / usbBufsize
  | .headed _ total => 2 + (total - usbTmcDataMax + 511) / usbBufsize
  | .looping _ total sended => 1 + (total - sended + 511) / usbBufsize
  | .returned _ _ => 0

/-- Whoever asks for the length of the response is told `most` at most, unless a
longer stream is handed over. -/
structure Adapter.OffersAtMost (a : Adapter) (most : Nat) : Prop where
  inside : a.InRange
  stream : scpiResponseStreamTxAvail a.gScpiMsg ≤ most

theorem Adapter.OffersAtMost.availLen {a : Adapter} {most : Nat} (offers : a.OffersAtMost most)
    (ringful : scpiBufMax ≤ most + 1) : scpiMsgReponseAvailLen a ≤ most := by
  have bound : a.tx.avail < scpiBufMax := offers.inside.tx.avail_lt
  have stream := offers.stream
  unfold scpiMsgReponseAvailLen
  split
  · show (a.tx.avail : Int) ≤ most
    omega
  · exact stream

/-- A stream of at most so many bytes, if it is a stream. -/
def AdapterCall.Short (most : Nat) : AdapterCall → Prop
  | .reponseWrite (some bytes) msgsrc => msgsrc ≠ 0 → bytes.length ≤ most
  | _ => True

theorem Adapter.OffersAtMost.call {a after : Adapter} {most : Nat} {call : AdapterCall}
    {reply : Int × List UInt8} (offers : a.OffersAtMost most) (short : call.Short most)
    (called : adapterStep a call = some (reply, after)) : after.OffersAtMost most := by
  refine ⟨adapterStep_inRange a call reply after offers.inside called, ?_⟩
  cases call with
  | cmdWrite buf accepted =>
      rw [adapterStep, Option.some.injEq, Prod.mk.injEq] at called
      rw [← called.2, scpiMsgCmdWrite_gScpiMsg]
      exact offers.stream
  | cmdRead len =>
      obtain ⟨sem, msg, rest, _, _, _, rfl⟩ := scpiMsgCmdRead_eq_some.mp called
      exact offers.stream
  | reponseAvailLen =>
      rw [adapterStep, Option.some.injEq, Prod.mk.injEq] at called
      exact called.2 ▸ offers.stream
  | reponseRead len =>
      rw [adapterStep, Option.some.injEq] at called
      rw [← show (scpiMsgReponseRead a len).2 = after from congrArg Prod.snd called]
      unfold scpiMsgReponseRead
      split <;> exact offers.stream
  | reponseWrite buf msgsrc =>
      rw [adapterStep, Option.some.injEq, Prod.mk.injEq] at called
      cases buf with
      | none => exact called.2 ▸ offers.stream
      | some bytes =>
          rw [← called.2, scpiMsgReponseWrite]
          by_cases ring : msgsrc = 0
          · simp only [ring, ↓reduceIte]
            exact offers.stream
          · have bound := short ring
            simp only [ring, ↓reduceIte, scpiResponseStreamTxAvail]
            omega

theorem senderStep_eq_none_iff {s : Sending} {most : Nat} :
    senderStep s = none ↔ s.sender.left most = 0 := by
  rcases s with ⟨a, q⟩
  cases q with
  | called revBuf =>
      refine iff_of_false ?_ (Nat.ne_of_gt (Nat.add_pos_left (by decide) _))
      obtain ⟨_, back, _⟩ | ⟨_, goes, _⟩ := senderStep_called a revBuf
      · exact back ▸ Option.some_ne_none _
      · exact goes ▸ Option.some_ne_none _
  | headed revBuf total =>
      refine iff_of_false (Option.some_ne_none _) ?_
      exact Nat.ne_of_gt (Nat.add_pos_left Nat.two_pos _)
  | looping revBuf total sended =>
      refine iff_of_false ?_ ?_
      · simp only [senderStep]
        split <;> exact Option.some_ne_none _
      · exact Nat.ne_of_gt (Nat.add_pos_left Nat.one_pos _)
  | returned retValue revBuf => exact iff_of_true rfl rfl

theorem senderStep_left {a : Adapter} {q : Sender} {writes : List (List UInt8)} {after : Sending}
    {most : Nat} (bound : scpiMsgReponseAvailLen a ≤ most)
    (moved : senderStep ⟨a, q⟩ = some (writes, after)) :
    after.sender.left most + 1 ≤ q.left most := by
  cases q with
  | called revBuf =>
      obtain ⟨_, back, _⟩ | ⟨_, goes, _⟩ := senderStep_called a revBuf
      · cases back.symm.trans moved
        show 0 + 1 ≤ 3 + (most - 500 + 511) / 512
        omega
      · cases goes.symm.trans moved
        show 2 + ((scpiMsgReponseAvailLen a).toNat - 500 + 511) / 512 + 1 ≤
          3 + (most - 500 + 511) / 512
        omega
  | headed revBuf total =>
      cases moved
      show 1 + (total - min total 500 + 511) / 512 + 1 ≤
        2 + (total - 500 + 511) / 512
      omega
  | looping revBuf total sended =>
      by_cases unsent : sended < total
      · simp only [senderStep, unsent, ↓reduceIte, Option.some.injEq, Prod.mk.injEq] at moved
        rw [← moved.2]
        show 1 + (total - (sended + min (total - sended) 512) + 511) / 512 + 1 ≤
          1 + (total - sended + 511) / 512
        omega
      · simp only [senderStep, unsent, ↓reduceIte, Option.some.injEq, Prod.mk.injEq] at moved
        rw [← moved.2]
        show 0 + 1 ≤ 1 + (total - sended + 511) / 512
        omega
  | returned retValue revBuf => cases moved

/-- What a step does to the adapter is what its read does. -/
theorem senderStep_reads {a : Adapter} {q : Sender} {writes : List (List UInt8)} {after : Sending}
    (moved : senderStep ⟨a, q⟩ = some (writes, after)) :
    after.adapter = (scpiMsgReponseRead a q.reads).2 := by
  cases q with
  | called revBuf =>
      rw [Sender.reads, scpiMsgReponseRead_zero]
      obtain ⟨_, back, _⟩ | ⟨_, goes, _⟩ := senderStep_called a revBuf
      · cases back.symm.trans moved
        rfl
      · cases goes.symm.trans moved
        rfl
  | headed revBuf total =>
      cases moved
      rfl
  | looping revBuf total sended =>
      by_cases unsent : sended < total
      · simp only [senderStep, unsent, ↓reduceIte, Option.some.injEq, Prod.mk.injEq] at moved
        exact (congrArg Sending.adapter moved.2).symm
      · have nothing : total - sended = 0 := by omega
        rw [Sender.reads, nothing, Nat.zero_min, scpiMsgReponseRead_zero]
        simp only [senderStep, unsent, ↓reduceIte, Option.some.injEq, Prod.mk.injEq] at moved
        exact (congrArg Sending.adapter moved.2).symm
  | returned retValue revBuf => cases moved

theorem senderStep_adapter {a : Adapter} {q : Sender} {writes : List (List UInt8)}
    {after : Sending} (ring : a.gScpiMsg.msgsrc = 0)
    (moved : senderStep ⟨a, q⟩ = some (writes, after)) :
    after.adapter = a.withTx (a.tx.read q.reads).2.2 := by
  rw [senderStep_reads moved, scpiMsgReponseRead_of_ring a q.reads ring]

def Turn.isOwn {κ : Type} : Turn κ → Bool
  | .own => true
  | .other _ => false

/-- Whatever others do, a response takes a number of steps that the longest response
bounds, five where that is the ring's, and until it is back it can always make the next. -/
theorem response_comes_back (most : Nat) (ringful : scpiBufMax ≤ most + 1) (s last : Sending)
    (offers : s.adapter.OffersAtMost most) (turns : List (Turn AdapterCall))
    (outputs : List (List (List UInt8) ⊕ (Int × List UInt8)))
    (short : ∀ call, .other call ∈ turns → call.Short most)
    (moved : exec (turnStep senderStep bystanderStep) s turns = some (outputs, last)) :
    turns.countP Turn.isOwn + last.sender.left most ≤ s.sender.left most ∧
      (senderStep last = none ↔ last.sender.left most = 0) := by
  refine ⟨?_, senderStep_eq_none_iff⟩
  induction turns generalizing s outputs with
  | nil =>
      obtain ⟨_, rfl⟩ := exec_nil_eq_some.mp moved
      exact Nat.le_of_eq (Nat.zero_add _)
  | cons turn rest ih =>
      obtain ⟨output, after, later, first, remaining, rfl⟩ := exec_cons_eq_some.mp moved
      have shortRest (call : AdapterCall) (member : .other call ∈ rest) : call.Short most :=
        short call (List.mem_cons_of_mem turn member)
      cases turn with
      | own =>
          obtain ⟨done, stepped, same⟩ := Option.map_eq_some_iff.mp first
          obtain ⟨rfl, rfl⟩ := Prod.mk.inj same
          have fewer := senderStep_left (offers.availLen ringful) stepped
          have kept : done.2.adapter.OffersAtMost most := by
            rw [senderStep_reads stepped]
            exact @Adapter.OffersAtMost.call _ _ _ (.reponseRead s.sender.reads) _ offers trivial rfl
          have bound := ih done.2 kept _ shortRest remaining
          rw [List.countP_cons_of_pos rfl]
          omega
      | other call =>
          obtain ⟨done, called, same⟩ := Option.map_eq_some_iff.mp first
          obtain ⟨rfl, rfl⟩ := Prod.mk.inj same
          obtain ⟨next, observed, moved⟩ := bystanderStep_eq_some.mp called
          obtain ⟨reply, answered, _⟩ := observedStep_eq_some.mp observed
          rw [moved] at remaining
          rw [List.countP_cons_of_neg Bool.false_ne_true]
          exact ih ⟨next, s.sender⟩
            (offers.call (short call (List.mem_cons_self ..)) answered) _ shortRest remaining

theorem crossingResponse_short (call : AdapterCall) (made : .other call ∈ crossingResponse) :
    call.Short 1023 := by
  simp only [crossingResponse, List.mem_cons, List.not_mem_nil, Turn.other.injEq, reduceCtorEq,
    false_or, or_false] at made
  rcases made with rfl | rfl | rfl
  · exact fun stream => absurd rfl stream
  · trivial
  · trivial

theorem response_comes_back_two_bytes :
    ∃ outputs last,
      exec (turnStep senderStep bystanderStep) twoBytesAsked crossingResponse =
        some (outputs, last) ∧
      3 + last.sender.left 1023 ≤ 5 ∧ (senderStep last = none ↔ last.sender.left 1023 = 0) :=
  ⟨_, _, rfl, response_comes_back 1023 (by decide) twoBytesAsked _
    ⟨twoBytesWaiting_reachable.inRange, by decide⟩ crossingResponse _ crossingResponse_short rfl⟩

end ScpiVxiTmc
