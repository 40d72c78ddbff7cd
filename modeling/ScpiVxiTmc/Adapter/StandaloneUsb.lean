import ScpiVxiTmc.Adapter.RingQueues
import ScpiVxiTmc.Lib.History
import ScpiVxiTmc.Lib.ReplacingQueue

set_option autoImplicit false

/- The adapter of the directory `usb` beside the integrated one. Its rings and
their four functions are the same text; it has no semaphore and no messages. -/
namespace ScpiVxiTmc

namespace StandaloneUsb

/-- `scpi_msg_cmd_write` calls `scpi_msg_rx_read`: the bytes at `buf` afterwards,
and the state. The function has no `return`, and its one caller asks for none. -/
def scpiMsgCmdWrite (g : ScpiTxCfg) (buf : List UInt8) : List UInt8 × ScpiTxCfg :=
  let got := scpiMsgRxRead g buf.length
  (got.1.2 ++ buf.drop got.1.2.length, got.2)

/-- `scpi_msg_cmd_read`: the bytes stored at `buf`, and the state. -/
def scpiMsgCmdRead (g : ScpiTxCfg) (len : Nat) : List UInt8 × ScpiTxCfg :=
  let got := scpiMsgRxRead g len
  (got.1.2, got.2)

/-- `scpi_msg_reponse_avail_len` -/
def scpiMsgReponseAvailLen (g : ScpiTxCfg) : Int :=
  if g.msgsrc = 0 then scpiResponseTxAvail g else scpiResponseStreamTxAvail g

/-- `scpi_msg_reponse_read` -/
def scpiMsgReponseRead (g : ScpiTxCfg) (len : Nat) : (Int × List UInt8) × ScpiTxCfg :=
  if g.msgsrc = 0 then
    let got := scpiMsgTxRead g len
    ((0, got.1.2), got.2)
  else
    ((0, []), g)

/-- `scpi_msg_reponse_write`. What is left in the ring is read into `tmp_buf`. -/
def scpiMsgReponseWrite (g : ScpiTxCfg) (buf : Option (List UInt8)) (msgsrc : Int) :
    Int × ScpiTxCfg :=
  match buf with
  | none => (-1, g)
  | some bytes =>
      let g := { g with msgsrc := msgsrc }
      if msgsrc = 0 then
        let cleared :=
          if scpiResponseTxAvail g ≠ 0 then (scpiMsgTxRead g scpiBufMax).2 else g
        (0, (scpiMsgTxWrite cleared bytes).2)
      else
        (0, { g with
                txmsgStremBuf := some bytes
                txmsgStreamSize := bytes.length
                txmsgStreamOffset := 0 })

/-- Writes to the ring source, reads and calls of `scpi_msg_reponse_avail_len` -/
def responseCall (g : ScpiTxCfg) : LossyQueue.Use UInt8 → (Int × List UInt8) × ScpiTxCfg
  | .op (.write buf) =>
      let done := scpiMsgReponseWrite g (some buf) 0
      ((done.1, []), done.2)
  | .op (.read len) => scpiMsgReponseRead g len
  | .count => ((scpiMsgReponseAvailLen g, []), g)

/-- What a command call leaves behind for its caller. -/
inductive CmdExchange
  | wrote (buf left : List UInt8)
  | read (bytes : List UInt8)

namespace CmdExchange

def delivered : CmdExchange → List UInt8
  | wrote _ _ => []
  | read bytes => bytes

def KeepsBuffer : CmdExchange → Prop
  | wrote buf left => left = buf
  | read _ => True

end CmdExchange

/-- Calls of `scpi_msg_cmd_write` and `scpi_msg_cmd_read`; neither ever blocks. -/
def cmdStep (g : ScpiTxCfg) : RingCall → Option (CmdExchange × ScpiTxCfg)
  | .write buf => some (.wrote buf (scpiMsgCmdWrite g buf).1, (scpiMsgCmdWrite g buf).2)
  | .read len => some (.read (scpiMsgCmdRead g len).1, (scpiMsgCmdRead g len).2)

end StandaloneUsb

/-- The same calls of the integrated adapter. -/
def responseCall (a : Adapter) : LossyQueue.Use UInt8 → (Int × List UInt8) × Adapter
  | .op (.write buf) =>
      let done := scpiMsgReponseWrite a (some buf) 0
      ((done.1, []), done.2)
  | .op (.read len) => scpiMsgReponseRead a len
  | .count => ((scpiMsgReponseAvailLen a, []), a)

/-- Both adapters return and deliver the same at every call of a run. -/
def AdaptersAgree (calls : List (LossyQueue.Use UInt8)) : Prop :=
  (Machine.run responseCall .init calls).1 = (Machine.run StandaloneUsb.responseCall .zero calls).1

/-- The response side of `g_scpi_msg` is the queue. -/
structure Responds (g : ScpiTxCfg) (queue : LossyQueue UInt8 scpiBufMax) : Prop where
  source : g.msgsrc = 0
  holds : g.tx.Holds queue

theorem Responds.avail {g : ScpiTxCfg} {queue : LossyQueue UInt8 scpiBufMax}
    (responds : Responds g queue) : scpiResponseTxAvail g = queue.items.length := by
  rw [← responds.holds.items, ByteRing.unread_length]
  rfl

theorem zero_responds : Responds .zero emptyQueue := ⟨rfl, ByteRing.zero_holds⟩

namespace StandaloneUsb

/-- Its writes replace whatever is left in the ring. -/
theorem scpiMsgReponseWrite_responds (g : ScpiTxCfg) (queue : LossyQueue UInt8 scpiBufMax)
    (buf : List UInt8) (responds : Responds g queue) :
    Responds (scpiMsgReponseWrite g (some buf) 0).2 (queue.replace buf) := by
  have counted : scpiResponseTxAvail { g with msgsrc := 0 } = queue.items.length :=
    responds.avail
  simp only [scpiMsgReponseWrite, ↓reduceIte, counted]
  split
  · have cleared := (ByteRing.read_holds g.tx queue scpiBufMax responds.holds).2.2
    rw [LossyQueue.read_all queue scpiBufMax (Nat.le_of_lt queue.bounded)] at cleared
    exact ⟨rfl, (ByteRing.write_holds _ _ buf cleared).2⟩
  · rename_i none
    rw [LossyQueue.replace_of_empty queue buf
      (List.length_eq_zero_iff.mp (Decidable.not_not.mp none))]
    exact ⟨rfl, (ByteRing.write_holds g.tx queue buf responds.holds).2⟩

theorem responseCall_step (g : ScpiTxCfg) (queue : LossyQueue UInt8 scpiBufMax)
    (call : LossyQueue.Use UInt8) (responds : Responds g queue) :
    (responseCall g call).1 = (LossyQueue.observe .replace queue call).1 ∧
      Responds (responseCall g call).2 (LossyQueue.observe .replace queue call).2 := by
  cases call with
  | count =>
      refine ⟨?_, responds⟩
      show (scpiMsgReponseAvailLen g, _) = _
      rw [scpiMsgReponseAvailLen, if_pos responds.source, responds.avail]
      rfl
  | op call =>
      cases call with
      | write buf => exact ⟨rfl, scpiMsgReponseWrite_responds g queue buf responds⟩
      | read len =>
          rcases ByteRing.read_holds g.tx queue len responds.holds with ⟨_, bytes, later⟩
          simp only [responseCall, scpiMsgReponseRead, if_pos responds.source]
          exact ⟨congrArg (fun got => (0, got)) bytes, responds.source, later⟩

end StandaloneUsb

/-- Reading is the same text in both adapters. -/
theorem scpiMsgReponseRead_eq_standalone (a : Adapter) (len : Nat) :
    (scpiMsgReponseRead a len).1 = (StandaloneUsb.scpiMsgReponseRead a.gScpiMsg len).1 ∧
      (scpiMsgReponseRead a len).2.gScpiMsg =
        (StandaloneUsb.scpiMsgReponseRead a.gScpiMsg len).2 := by
  unfold scpiMsgReponseRead StandaloneUsb.scpiMsgReponseRead
  split
  · exact ⟨rfl, rfl⟩
  · exact ⟨rfl, rfl⟩

/-- The integrated adapter differs in its writes, which only append. -/
theorem responseCall_step (a : Adapter) (queue : LossyQueue UInt8 scpiBufMax)
    (call : LossyQueue.Use UInt8) (responds : Responds a.gScpiMsg queue) :
    (responseCall a call).1 = (LossyQueue.observe .write queue call).1 ∧
      Responds (responseCall a call).2.gScpiMsg (LossyQueue.observe .write queue call).2 := by
  cases call with
  | count => exact StandaloneUsb.responseCall_step a.gScpiMsg queue .count responds
  | op call =>
      cases call with
      | write buf =>
          exact ⟨rfl, rfl, (ByteRing.write_holds a.tx queue buf responds.holds).2⟩
      | read len =>
          rcases scpiMsgReponseRead_eq_standalone a len with ⟨sameReply, sameState⟩
          rw [responseCall, sameReply, sameState]
          exact StandaloneUsb.responseCall_step a.gScpiMsg queue (.op (.read len)) responds

theorem adaptersAgree_iff_alike (calls : List (LossyQueue.Use UInt8)) :
    AdaptersAgree calls ↔ LossyQueue.Alike emptyQueue calls := by
  rw [AdaptersAgree, LossyQueue.Alike,
    (Machine.run_simulates responseCall_step .init emptyQueue calls zero_responds).1,
    (Machine.run_simulates StandaloneUsb.responseCall_step .zero emptyQueue calls
      zero_responds).1]

/-- Wherever the available length is asked for between writes and reads, the two
adapters agree if and only if every write finds all earlier responses read. -/
theorem adapters_agree_iff (ops : List RingCall) (short : ∀ op ∈ ops, op.written.length ≤ 1023) :
    (∀ calls, calls.filterMap LossyQueue.Use.op? = ops → AdaptersAgree calls) ↔
      LossyQueue.WritesAlone emptyQueue ops := by
  simp only [adaptersAgree_iff_alike]
  apply LossyQueue.alike_iff_writesAlone
  intro op member
  exact Nat.lt_succ_of_le (short op member)

theorem adapters_agree_write_read :
    (∀ calls, calls.filterMap LossyQueue.Use.op? = [.write [42], .read 1] →
        AdaptersAgree calls) ↔
      LossyQueue.WritesAlone emptyQueue [.write [42], .read 1] :=
  adapters_agree_iff [.write [42], .read 1] (by decide)

/-- The second response joins the first in one adapter and replaces it in the other. -/
theorem second_response_differs :
    (Machine.run responseCall .init [.op (.write [42]), .op (.write [7]), .count]).1 =
        [(0, []), (0, []), (2, [])] ∧
      (Machine.run StandaloneUsb.responseCall .zero
          [.op (.write [42]), .op (.write [7]), .count]).1 = [(0, []), (0, []), (1, [])] ∧
      ¬ AdaptersAgree [.op (.write [42]), .op (.write [7]), .count] := by
  have joined : (Machine.run responseCall .init [.op (.write [42]), .op (.write [7]), .count]).1 =
      [(0, []), (0, []), (2, [])] := rfl
  have replaced : (Machine.run StandaloneUsb.responseCall .zero
      [.op (.write [42]), .op (.write [7]), .count]).1 = [(0, []), (0, []), (1, [])] := rfl
  refine ⟨joined, replaced, ?_⟩
  rw [AdaptersAgree, joined, replaced]
  decide

namespace StandaloneUsb

/-- How many bytes a queue would still hold that no read has asked for. -/
def unasked (calls : List RingCall) : Nat :=
  calls.foldl (fun count call =>
    match call with
    | .write buf => count + buf.length
    | .read len => count - len) 0

/-- After a call, the writes have kept their buffers and the reads have delivered
the front of what was written, all of it once they have asked for that much. -/
structure FifoAfter (before : List RingCall) (earlier : List CmdExchange) (call : RingCall)
    (now : CmdExchange) : Prop where
  keeps : now.KeepsBuffer
  order : (earlier ++ [now]).flatMap CmdExchange.delivered <+:
    (before ++ [call]).flatMap LossyQueue.Op.written
  complete : unasked (before ++ [call]) = 0 →
    (earlier ++ [now]).flatMap CmdExchange.delivered =
      (before ++ [call]).flatMap LossyQueue.Op.written

def CmdFifo (calls : List RingCall) : Prop :=
  Machine.Throughout cmdStep (fun before earlier _ call result =>
    ∃ now after, result = some (now, after) ∧ FifoAfter before earlier call now) .zero calls

/-- Reads that have asked for everything were owed nothing. -/
def OwedNothing (before : List RingCall) (call : RingCall) : Prop :=
  unasked (before ++ [call]) = 0 → (before ++ [call]).flatMap LossyQueue.Op.written = []

theorem scpiMsgRxRead_zero (len : Nat) : scpiMsgRxRead .zero len = ((0, []), .zero) := by
  cases len with
  | zero => rfl
  | succ len => rfl

/-- Nothing ever comes into the ring. -/
theorem cmdStep_zero (call : RingCall) : ∃ now, cmdStep .zero call = some (now, .zero) ∧
    now.KeepsBuffer ∧ now.delivered = [] := by
  cases call with
  | write buf =>
      refine ⟨.wrote buf buf, ?_, rfl, rfl⟩
      simp only [cmdStep, scpiMsgCmdWrite, scpiMsgRxRead_zero]
      rfl
  | read len =>
      refine ⟨.read [], ?_, trivial, rfl⟩
      simp only [cmdStep, scpiMsgCmdRead, scpiMsgRxRead_zero]

theorem delivered_concat {earlier : List CmdExchange} {now : CmdExchange}
    (nothing : earlier.flatMap CmdExchange.delivered = []) (none : now.delivered = []) :
    (earlier ++ [now]).flatMap CmdExchange.delivered = [] := by
  rw [List.flatMap_append, List.flatMap_singleton, nothing, none, List.append_nil]

theorem fifoAfter_iff {before : List RingCall} {earlier : List CmdExchange} {call : RingCall}
    {now : CmdExchange} (keeps : now.KeepsBuffer)
    (nothing : (earlier ++ [now]).flatMap CmdExchange.delivered = []) :
    FifoAfter before earlier call now ↔ OwedNothing before call := by
  constructor
  · intro fifo asked
    rw [← fifo.complete asked, nothing]
  · intro owed
    refine ⟨keeps, ?_, ?_⟩
    · rw [nothing]
      exact List.nil_prefix
    · intro asked
      rw [nothing, owed asked]

/-- The write function reads, so the commands are a queue as long as nobody has
both written some and asked for all of it. -/
theorem cmd_fifo_iff (calls : List RingCall) :
    CmdFifo calls ↔ Machine.Guarded OwedNothing calls := by
  apply Machine.throughout_iff
    (J := fun _ earlier g => g = .zero ∧ earlier.flatMap CmdExchange.delivered = [])
  · exact ⟨rfl, rfl⟩
  · rintro before earlier g call ⟨rfl, nothing⟩
    obtain ⟨now, moved, keeps, none⟩ := cmdStep_zero call
    rw [moved, Machine.returns_iff (Q := fun now _ => FifoAfter before earlier call now)]
    exact fifoAfter_iff keeps (delivered_concat nothing none)
  · rintro before earlier g call ⟨rfl, nothing⟩ _
    obtain ⟨now, moved, _, none⟩ := cmdStep_zero call
    exact ⟨now, .zero, moved, rfl, delivered_concat nothing none⟩

/-- A command of one byte never comes out. -/
theorem written_command_lost : ¬ CmdFifo [.write [42], .read 1] := by
  intro fifo
  obtain ⟨now, after, moved, result⟩ :=
    fifo [.write [42]] (.read 1) (List.prefix_refl _) _ _ rfl
  cases moved
  exact absurd (result.complete rfl) (by decide)

end StandaloneUsb

end ScpiVxiTmc
