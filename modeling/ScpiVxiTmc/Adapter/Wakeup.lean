import Mathlib.Data.Fintype.Basic
import ScpiVxiTmc.Adapter.Messages
import ScpiVxiTmc.Lib.ControlPoints

set_option autoImplicit false

/- The command functions taken apart into their atomic steps, for any number of
writers and the one SCPI thread. -/
namespace ScpiVxiTmc

open ControlPoints

/-- Where a thread is in `scpi_msg_cmd_write`: not in it, before `msgsnd`, or
before `sem_post`. -/
inductive WriterPoint
  | outside
  | wrote
  | sent
  deriving DecidableEq

/-- Where the SCPI thread is in `scpi_msg_cmd_read`: at `sem_wait` or elsewhere,
before `msgrcv`, or before `scpi_msg_rx_read`. -/
inductive ReaderPoint
  | outside
  | waited
  | received
  deriving DecidableEq

/-- What a command buffer of 100 bytes can hold. -/
abbrev ShortCommand := { cmd : List UInt8 // cmd.length ≤ 100 }

structure Threads (ι : Type) where
  adapter : Adapter
  writer : ι → WriterPoint
  reader : ReaderPoint

inductive ThreadStep (ι : Type)
  | rxWrite (i : ι) (cmd : ShortCommand)
  | msgsnd (i : ι)
  | semPost (i : ι)
  | semWait
  | msgrcv
  | rxRead

namespace Threads

variable {ι : Type}

/-- Right after `scpi_adpt_init`, with no call in progress. -/
def start : Threads ι := ⟨.init, fun _ => .outside, .outside⟩

variable [DecidableEq ι]

/-- One atomic step, with the bytes it delivers; none for a thread that is not
at that step or is blocked in it. Every `msgsnd` is accepted. -/
def step (s : Threads ι) : ThreadStep ι → Option (List UInt8 × Threads ι)
  | .rxWrite i cmd =>
      if s.writer i = .outside then
        some ([], { s with
          adapter := { s.adapter with gScpiMsg := (scpiMsgRxWrite s.adapter.gScpiMsg cmd.1).2 }
          writer := Function.update s.writer i .wrote })
      else none
  | .msgsnd i =>
      if s.writer i = .wrote then
        some ([], { s with
          adapter := (msgsnd s.adapter ⟨1⟩ true).2
          writer := Function.update s.writer i .sent })
      else none
  | .semPost i =>
      if s.writer i = .sent then
        some ([], { s with
          adapter := semPost s.adapter
          writer := Function.update s.writer i .outside })
      else none
  | .semWait =>
      if s.reader = .outside then
        (semWait s.adapter).map fun waited => ([], { s with adapter := waited, reader := .waited })
      else none
  | .msgrcv =>
      if s.reader = .waited then
        (msgrcv s.adapter).map fun received =>
          ([], { s with adapter := received.2, reader := .received })
      else none
  | .rxRead =>
      if s.reader = .received then
        let got := scpiMsgRxRead s.adapter.gScpiMsg 100
        some (got.1.2, { s with
          adapter := { s.adapter with gScpiMsg := got.2 }
          reader := .outside })
      else none

/-- The steps of one writer in a row are the whole call. -/
theorem whole_write (s : Threads ι) (i : ι) (cmd : ShortCommand) (idle : s.writer i = .outside) :
    Machine.exec step s [.rxWrite i cmd, .msgsnd i, .semPost i] =
      some ([[], [], []], { s with adapter := (scpiMsgCmdWrite s.adapter cmd.1 true).2 }) := by
  have back : Function.update s.writer i .outside = s.writer := by
    rw [← idle, Function.update_eq_self]
  simp only [Machine.exec, step, idle, ↓reduceIte, Option.bind_some, Function.update_self,
    Function.update_idem, Option.map_some, back]
  rfl

/-- The steps of the reader in a row are the whole call, and block when it does. -/
theorem whole_read (s : Threads ι) (idle : s.reader = .outside) :
    Machine.exec step s [.semWait, .msgrcv, .rxRead] =
      (scpiMsgCmdRead s.adapter 100).map fun done =>
        ([[], [], done.1.2], { s with adapter := done.2 }) := by
  simp only [Machine.exec, step, idle, ↓reduceIte, scpiMsgCmdRead]
  cases semWait s.adapter with
  | none => rfl
  | some waited =>
      simp only [Option.map_some, Option.bind_some, ↓reduceIte]
      cases msgrcv waited with
      | none => rfl
      | some received => rfl

variable [Fintype ι]

/-- Every message has its token: in the semaphore, still with its writer, or
already with the reader; one token more was there from the start. And every
unread byte is covered by a message, a writer before `msgsnd` or the reader. -/
structure Balanced (s : Threads ι) : Prop where
  inRange : s.adapter.rx.InRange
  tokens : s.adapter.scpiSem + countAt s.writer .sent + (if s.reader = .waited then 1 else 0) =
    1 + s.adapter.msgQueue.length
  bytes : s.adapter.rx.avail ≤
    100 * (s.adapter.msgQueue.length + countAt s.writer .wrote +
      if s.reader = .received then 1 else 0)

omit [DecidableEq ι] in
theorem start_balanced : (start : Threads ι).Balanced := by
  have nobody (point : WriterPoint) (inside : point ≠ .outside) :
      countAt (fun _ : ι => WriterPoint.outside) point = 0 :=
    countAt_eq_zero.mpr fun _ same => inside same.symm
  refine ⟨ByteRing.zero_holds.inRange, ?_, Nat.zero_le _⟩
  simp only [start, Adapter.init, nobody .sent (by decide), reduceCtorEq, ↓reduceIte,
    List.length_nil]

theorem balanced_rxWrite {s : Threads ι} (balanced : s.Balanced) (i : ι) (cmd : ShortCommand)
    (idle : s.writer i = .outside) :
    Balanced { s with
      adapter := { s.adapter with gScpiMsg := (scpiMsgRxWrite s.adapter.gScpiMsg cmd.1).2 }
      writer := Function.update s.writer i .wrote } := by
  have sent := countAt_update s.writer i .wrote .sent
  have wrote := countAt_update s.writer i .wrote .wrote
  simp only [idle, reduceCtorEq, ↓reduceIte, Nat.add_zero] at sent wrote
  refine ⟨ByteRing.write_inRange _ cmd.1 balanced.inRange, ?_, ?_⟩
  · simpa only [sent] using balanced.tokens
  · -- An overflow can only lower the number of unread bytes.
    have covered := balanced.bytes
    have short := cmd.2
    have fewer := Nat.mod_le (s.adapter.rx.avail + cmd.1.length) scpiBufMax
    change (s.adapter.rx.write cmd.1).2.avail ≤ 100 * (s.adapter.msgQueue.length +
      countAt (Function.update s.writer i .wrote) .wrote + if s.reader = .received then 1 else 0)
    rw [ByteRing.write_avail _ cmd.1 balanced.inRange, wrote]
    omega

theorem balanced_msgsnd {s : Threads ι} (balanced : s.Balanced) (i : ι)
    (wrote : s.writer i = .wrote) :
    Balanced { s with
      adapter := (ScpiVxiTmc.msgsnd s.adapter ⟨1⟩ true).2
      writer := Function.update s.writer i .sent } := by
  have more := countAt_update s.writer i .sent .sent
  have fewer := countAt_update s.writer i .sent .wrote
  simp only [wrote, reduceCtorEq, ↓reduceIte, Nat.add_zero] at more fewer
  have tokens := balanced.tokens
  have covered := balanced.bytes
  refine ⟨balanced.inRange, ?_, ?_⟩
  · simp only [ScpiVxiTmc.msgsnd, ↓reduceIte, List.length_append, List.length_singleton, more]
    omega
  · simp only [ScpiVxiTmc.msgsnd, ↓reduceIte, List.length_append, List.length_singleton,
      Adapter.rx] at covered ⊢
    omega

theorem balanced_semPost {s : Threads ι} (balanced : s.Balanced) (i : ι)
    (sent : s.writer i = .sent) :
    Balanced { s with
      adapter := ScpiVxiTmc.semPost s.adapter
      writer := Function.update s.writer i .outside } := by
  have fewer := countAt_update s.writer i .outside .sent
  have same := countAt_update s.writer i .outside .wrote
  simp only [sent, reduceCtorEq, ↓reduceIte, Nat.add_zero] at fewer same
  have tokens := balanced.tokens
  refine ⟨balanced.inRange, ?_, ?_⟩
  · simp only [ScpiVxiTmc.semPost]
    omega
  · simpa only [ScpiVxiTmc.semPost, same] using balanced.bytes

omit [DecidableEq ι] in
theorem balanced_semWait {s : Threads ι} (balanced : s.Balanced) {waited : Adapter}
    (idle : s.reader = .outside) (passed : ScpiVxiTmc.semWait s.adapter = some waited) :
    Balanced { s with adapter := waited, reader := .waited } := by
  have tokens := balanced.tokens
  have covered := balanced.bytes
  simp only [idle, reduceCtorEq, ↓reduceIte] at tokens covered
  simp only [ScpiVxiTmc.semWait, Option.ite_none_left_eq_some, Option.some.injEq] at passed
  rcases passed with ⟨positive, rfl⟩
  refine ⟨balanced.inRange, ?_, ?_⟩
  · simp only [↓reduceIte]
    omega
  · simpa only [reduceCtorEq, ↓reduceIte] using covered

omit [DecidableEq ι] in
theorem balanced_msgrcv {s : Threads ι} (balanced : s.Balanced) {received : ScpiMsg × Adapter}
    (waited : s.reader = .waited) (taken : ScpiVxiTmc.msgrcv s.adapter = some received) :
    Balanced { s with adapter := received.2, reader := .received } := by
  have tokens := balanced.tokens
  have covered := balanced.bytes
  simp only [waited, reduceCtorEq, ↓reduceIte] at tokens covered
  cases queue : s.adapter.msgQueue with
  | nil => simp [ScpiVxiTmc.msgrcv, queue] at taken
  | cons msg rest =>
      simp only [ScpiVxiTmc.msgrcv, queue, Option.some.injEq] at taken
      subst taken
      rw [queue, List.length_cons] at tokens covered
      refine ⟨balanced.inRange, ?_, ?_⟩
      · simp only [reduceCtorEq, ↓reduceIte]
        omega
      · simp only [↓reduceIte, Adapter.rx] at covered ⊢
        omega

omit [DecidableEq ι] in
theorem balanced_rxRead {s : Threads ι} (balanced : s.Balanced) (received : s.reader = .received) :
    Balanced { s with
      adapter := { s.adapter with gScpiMsg := (scpiMsgRxRead s.adapter.gScpiMsg 100).2 }
      reader := .outside } := by
  have tokens := balanced.tokens
  have covered := balanced.bytes
  simp only [received, reduceCtorEq, ↓reduceIte] at tokens covered
  refine ⟨ByteRing.read_inRange _ 100 balanced.inRange, ?_, ?_⟩
  · simpa only [reduceCtorEq, ↓reduceIte] using tokens
  · change (s.adapter.rx.read 100).2.2.avail ≤ _
    rw [ByteRing.read_avail _ 100 balanced.inRange]
    simp only [reduceCtorEq, ↓reduceIte]
    omega

/-- Every atomic step keeps both balances, whoever makes it. -/
theorem step_balanced (s : Threads ι) (next : ThreadStep ι) (bytes : List UInt8)
    (after : Threads ι) (balanced : s.Balanced) (moved : s.step next = some (bytes, after)) :
    after.Balanced := by
  cases next with
  | rxWrite i cmd =>
      simp only [step, Option.ite_none_right_eq_some, Option.some.injEq, Prod.mk.injEq] at moved
      obtain ⟨idle, _, rfl⟩ := moved
      exact balanced_rxWrite balanced i cmd idle
  | msgsnd i =>
      simp only [step, Option.ite_none_right_eq_some, Option.some.injEq, Prod.mk.injEq] at moved
      obtain ⟨wrote, _, rfl⟩ := moved
      exact balanced_msgsnd balanced i wrote
  | semPost i =>
      simp only [step, Option.ite_none_right_eq_some, Option.some.injEq, Prod.mk.injEq] at moved
      obtain ⟨sent, _, rfl⟩ := moved
      exact balanced_semPost balanced i sent
  | semWait =>
      simp only [step, Option.ite_none_right_eq_some, Option.map_eq_some_iff,
        Prod.mk.injEq] at moved
      obtain ⟨idle, waited, passed, _, rfl⟩ := moved
      exact balanced_semWait balanced idle passed
  | msgrcv =>
      simp only [step, Option.ite_none_right_eq_some, Option.map_eq_some_iff,
        Prod.mk.injEq] at moved
      obtain ⟨waited, received, taken, _, rfl⟩ := moved
      exact balanced_msgrcv balanced waited taken
  | rxRead =>
      simp only [step, Option.ite_none_right_eq_some, Option.some.injEq, Prod.mk.injEq] at moved
      obtain ⟨received, _, rfl⟩ := moved
      exact balanced_rxRead balanced received

theorem reachable_balanced {s : Threads ι} (reached : Machine.Reachable step start s) :
    s.Balanced :=
  Machine.Reachable.invariant reached start_balanced step_balanced

/-- No wake-up is lost and no command bytes are stranded. -/
structure NothingLost (s : Threads ι) : Prop where
  tokens : s.adapter.scpiSem + countAt s.writer .sent + (if s.reader = .waited then 1 else 0) =
    1 + s.adapter.msgQueue.length
  wakeup : s.reader = .outside → s.step .semWait = none → ∃ i, s.writer i = .sent
  bytes : s.adapter.rx.unread.length ≤
    100 * (s.adapter.msgQueue.length + countAt s.writer .wrote +
      if s.reader = .received then 1 else 0)
  drained : s.adapter.msgQueue = [] → (∀ i, s.writer i = .outside) → s.reader = .outside →
    s.adapter.rx.unread = []

/-- The semaphore blocks the reader only while a writer is about to post it. -/
theorem nothing_lost (s : Threads ι) (reached : Machine.Reachable step start s) :
    s.NothingLost := by
  have balanced := reachable_balanced reached
  have tokens := balanced.tokens
  have covered := balanced.bytes
  rw [← ByteRing.unread_length] at covered
  refine ⟨tokens, ?_, covered, ?_⟩
  · intro idle blocked
    simp only [step, idle, ↓reduceIte, Option.map_eq_none_iff, ScpiVxiTmc.semWait,
      ite_eq_left_iff, reduceCtorEq, imp_false, Decidable.not_not] at blocked
    rw [blocked, idle] at tokens
    simp only [reduceCtorEq, ↓reduceIte] at tokens
    have posting : 0 < countAt s.writer .sent := by omega
    exact exists_of_countAt_pos posting
  · intro noMessage allOutside idle
    have nobody : countAt s.writer .wrote = 0 :=
      countAt_eq_zero.mpr fun i => by rw [allOutside i]; decide
    rw [noMessage, nobody, idle] at covered
    exact List.eq_nil_of_length_eq_zero (Nat.le_zero.mp covered)

/-- One of two writers has stored its byte and not sent its message. -/
def oneWriterWrote : Threads (Fin 2) where
  adapter := { Adapter.init with gScpiMsg := (scpiMsgRxWrite .zero [42]).2 }
  writer := Function.update (fun _ => .outside) 0 .wrote
  reader := .outside

theorem oneWriterWrote_nothing_lost : oneWriterWrote.NothingLost := by
  apply nothing_lost
  exact (Machine.Reachable.start step start).next (.rxWrite 0 ⟨[42], by decide⟩) rfl

end Threads

end ScpiVxiTmc
