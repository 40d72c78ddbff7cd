import ScpiVxiTmc.Adapter.Ring
import ScpiVxiTmc.Lib.Buffer

set_option autoImplicit false

namespace ScpiVxiTmc

/-- `SCPI_TX_CFG_t`, with the three fields of each ring kept together. A stream
buffer is the memory behind its pointer, none for a null pointer. -/
structure ScpiTxCfg where
  rx : ByteRing
  tx : ByteRing
  txmsgStreamSize : Int
  txmsgStreamOffset : Int
  txmsgStremBuf : Option (List UInt8)
  msgsrc : Int

/-- The zeroed global `g_scpi_msg` -/
def ScpiTxCfg.zero : ScpiTxCfg := ⟨.zero, .zero, 0, 0, none, 0⟩

/-- `SCPI_CMD_RX_AVAIL` -/
def scpiCmdRxAvail (g : ScpiTxCfg) : Nat := g.rx.avail

/-- `SCPI_RESPONSE_TX_AVAIL` -/
def scpiResponseTxAvail (g : ScpiTxCfg) : Nat := g.tx.avail

/-- `SCPI_RESPONSE_STREAM_TX_AVAIL` -/
def scpiResponseStreamTxAvail (g : ScpiTxCfg) : Int :=
  g.txmsgStreamSize - g.txmsgStreamOffset

/-- `scpi_msg_tx_read`: the count returned, the bytes stored, the ring left. -/
def scpiMsgTxRead (g : ScpiTxCfg) (len : Nat) : (Nat × List UInt8) × ScpiTxCfg :=
  let done := g.tx.read len
  ((done.1, done.2.1), { g with tx := done.2.2 })

/-- `scpi_msg_tx_write`: `buf` are the `len` bytes at the pointer. -/
def scpiMsgTxWrite (g : ScpiTxCfg) (buf : List UInt8) : Nat × ScpiTxCfg :=
  let done := g.tx.write buf
  (done.1, { g with tx := done.2 })

/-- `scpi_msg_rx_read` -/
def scpiMsgRxRead (g : ScpiTxCfg) (len : Nat) : (Nat × List UInt8) × ScpiTxCfg :=
  let done := g.rx.read len
  ((done.1, done.2.1), { g with rx := done.2.2 })

/-- `scpi_msg_rx_write` -/
def scpiMsgRxWrite (g : ScpiTxCfg) (buf : List UInt8) : Nat × ScpiTxCfg :=
  let done := g.rx.write buf
  (done.1, { g with rx := done.2 })

/-- `scpi_msg_t`. Its `mtext` is never set and never read. -/
structure ScpiMsg where
  msgSrc : Int
  deriving DecidableEq

/-- The globals of the adapter: `g_scpi_msg`, the value of `scpi_sem` and the
messages of the queue `scpi_msgid`, oldest first. -/
structure Adapter where
  gScpiMsg : ScpiTxCfg
  scpiSem : Nat
  msgQueue : List ScpiMsg

namespace Adapter

abbrev rx (a : Adapter) : ByteRing := a.gScpiMsg.rx

abbrev tx (a : Adapter) : ByteRing := a.gScpiMsg.tx

/-- After `scpi_adpt_init`: the semaphore is created with the value 1. -/
def init : Adapter := ⟨.zero, 1, []⟩

end Adapter

/-- `sem_wait` blocks on a zero semaphore. -/
def semWait (a : Adapter) : Option Adapter :=
  if a.scpiSem = 0 then none else some { a with scpiSem := a.scpiSem - 1 }

/-- `sem_post` -/
def semPost (a : Adapter) : Adapter := { a with scpiSem := a.scpiSem + 1 }

/-- `msgsnd` with `IPC_NOWAIT`. Whether the message is accepted is up to the
kernel; a message that is not leaves the queue as it was. -/
def msgsnd (a : Adapter) (msg : ScpiMsg) (accepted : Bool) : Int × Adapter :=
  if accepted then (0, { a with msgQueue := a.msgQueue ++ [msg] }) else (-1, a)

/-- `msgrcv` for any type takes the oldest message, and blocks without one. -/
def msgrcv (a : Adapter) : Option (ScpiMsg × Adapter) :=
  match a.msgQueue with
  | [] => none
  | msg :: rest => some (msg, { a with msgQueue := rest })

/-- `scpi_postmsg`. The length is only printed. -/
def scpiPostmsg (a : Adapter) (msgSrc : Int) (_len : Nat) (accepted : Bool) : Int × Adapter :=
  let sent := msgsnd a ⟨msgSrc⟩ accepted
  if sent.1 < 0 then (-1, sent.2) else (0, semPost sent.2)

/-- `scpi_msg_cmd_write`. The result of `scpi_postmsg` is not looked at. -/
def scpiMsgCmdWrite (a : Adapter) (buf : List UInt8) (accepted : Bool) : Int × Adapter :=
  let retValue := 0
  let wrote := { a with gScpiMsg := (scpiMsgRxWrite a.gScpiMsg buf).2 }
  (retValue, (scpiPostmsg wrote 1 buf.length accepted).2)

/-- `scpi_msg_cmd_read`, when it returns: its result, the bytes stored at `buf`
and the state. There is no result while the semaphore or the queue blocks it. -/
def scpiMsgCmdRead (a : Adapter) (len : Nat) : Option ((Int × List UInt8) × Adapter) :=
  (semWait a).bind fun waited =>
    (msgrcv waited).map fun received =>
      let got := scpiMsgRxRead received.2.gScpiMsg len
      ((got.1.1, got.1.2), { received.2 with gScpiMsg := got.2 })

/-- `scpi_msg_reponse_avail_len` -/
def scpiMsgReponseAvailLen (a : Adapter) : Int :=
  if a.gScpiMsg.msgsrc = 0 then scpiResponseTxAvail a.gScpiMsg
  else scpiResponseStreamTxAvail a.gScpiMsg

/-- `scpi_msg_reponse_read`: the result, the bytes stored at `dst` and the state.
The result is 0 whatever was stored; a stream response is not read at all. -/
def scpiMsgReponseRead (a : Adapter) (len : Nat) : (Int × List UInt8) × Adapter :=
  if a.gScpiMsg.msgsrc = 0 then
    let got := scpiMsgTxRead a.gScpiMsg len
    ((0, got.1.2), { a with gScpiMsg := got.2 })
  else
    ((0, []), a)

/-- `scpi_msg_reponse_write`; `buf` is none for a null pointer, else the `len`
bytes there. The step that would drain the ring first is commented out. -/
def scpiMsgReponseWrite (a : Adapter) (buf : Option (List UInt8)) (msgsrc : Int) :
    Int × Adapter :=
  match buf with
  | none => (-1, a)
  | some bytes =>
      let g := { a.gScpiMsg with msgsrc := msgsrc }
      if msgsrc = 0 then
        (0, { a with gScpiMsg := (scpiMsgTxWrite g bytes).2 })
      else
        (0, { a with gScpiMsg := { g with
                txmsgStremBuf := some bytes
                txmsgStreamSize := bytes.length
                txmsgStreamOffset := 0 } })

/-- A call of one of the functions that `scpi_msg_adpt.h` exports. -/
inductive AdapterCall
  | cmdWrite (buf : List UInt8) (accepted : Bool)
  | cmdRead (len : Nat)
  | reponseAvailLen
  | reponseRead (len : Nat)
  | reponseWrite (buf : Option (List UInt8)) (msgsrc : Int)

/-- What a call returns and stores, and the state after it; none if it blocks. -/
def adapterStep (a : Adapter) : AdapterCall → Option ((Int × List UInt8) × Adapter)
  | .cmdWrite buf accepted =>
      let done := scpiMsgCmdWrite a buf accepted
      some ((done.1, []), done.2)
  | .cmdRead len => scpiMsgCmdRead a len
  | .reponseAvailLen => some ((scpiMsgReponseAvailLen a, []), a)
  | .reponseRead len => some (scpiMsgReponseRead a len)
  | .reponseWrite buf msgsrc =>
      let done := scpiMsgReponseWrite a buf msgsrc
      some ((done.1, []), done.2)

/-- The states that calls of the adapter lead to after its initialisation. -/
abbrev Adapter.Reachable (a : Adapter) : Prop := Machine.Reachable adapterStep .init a

/-- Both rings keep their indices inside their arrays. -/
structure Adapter.InRange (a : Adapter) : Prop where
  rx : a.rx.InRange
  tx : a.tx.InRange

/-- Whatever becomes of the message, a command write changes one ring as
`scpi_msg_rx_write` does and nothing else of `g_scpi_msg`. -/
theorem scpiMsgCmdWrite_gScpiMsg (a : Adapter) (buf : List UInt8) (accepted : Bool) :
    (scpiMsgCmdWrite a buf accepted).2.gScpiMsg = (scpiMsgRxWrite a.gScpiMsg buf).2 := by
  cases accepted <;> rfl

theorem scpiMsgCmdWrite_rx (a : Adapter) (buf : List UInt8) (accepted : Bool) :
    (scpiMsgCmdWrite a buf accepted).2.rx = (a.rx.write buf).2 := by
  rw [Adapter.rx, scpiMsgCmdWrite_gScpiMsg]
  rfl

theorem scpiMsgCmdWrite_tx (a : Adapter) (buf : List UInt8) (accepted : Bool) :
    (scpiMsgCmdWrite a buf accepted).2.tx = a.tx := by
  rw [Adapter.tx, scpiMsgCmdWrite_gScpiMsg]
  rfl

theorem scpiMsgCmdWrite_ret (a : Adapter) (buf : List UInt8) (accepted : Bool) :
    (scpiMsgCmdWrite a buf accepted).1 = 0 := rfl

theorem scpiMsgCmdWrite_msgQueue (a : Adapter) (buf : List UInt8) (accepted : Bool) :
    (scpiMsgCmdWrite a buf accepted).2.msgQueue =
      a.msgQueue ++ if accepted then [⟨1⟩] else [] := by
  cases accepted
  · exact (List.append_nil _).symm
  · rfl

/-- Everything a command read does, with the two conditions for it to return. -/
theorem scpiMsgCmdRead_eq_some {a after : Adapter} {len : Nat} {reply : Int × List UInt8} :
    scpiMsgCmdRead a len = some (reply, after) ↔
      ∃ sem msg rest, a.scpiSem = sem + 1 ∧ a.msgQueue = msg :: rest ∧
        reply = (((a.rx.read len).1 : Int), (a.rx.read len).2.1) ∧
        after = ⟨{ a.gScpiMsg with rx := (a.rx.read len).2.2 }, sem, rest⟩ := by
  constructor
  · intro returned
    simp only [scpiMsgCmdRead, Option.bind_eq_some_iff, Option.map_eq_some_iff,
      Prod.mk.injEq] at returned
    obtain ⟨waited, wait, received, receive, answer, last⟩ := returned
    unfold semWait at wait
    split at wait
    · cases wait
    · rename_i positive
      cases wait
      cases queue : a.msgQueue with
      | nil => simp [msgrcv, queue] at receive
      | cons msg rest =>
          simp only [msgrcv, queue, Option.some.injEq] at receive
          subst receive
          exact ⟨a.scpiSem - 1, msg, rest, by omega, rfl, answer.symm, last.symm⟩
  · rintro ⟨sem, msg, rest, positive, queue, rfl, rfl⟩
    have nonzero : a.scpiSem ≠ 0 := by omega
    simp only [scpiMsgCmdRead, semWait, nonzero, ↓reduceIte, Option.bind_some, msgrcv, queue,
      Option.map_some]
    simp only [scpiMsgRxRead, positive, Nat.add_sub_cancel]

theorem scpiMsgCmdRead_eq_none_iff {a : Adapter} {len : Nat} :
    scpiMsgCmdRead a len = none ↔ a.scpiSem = 0 ∨ a.msgQueue = [] := by
  rw [scpiMsgCmdRead, Option.bind_eq_none_iff]
  by_cases posted : a.scpiSem = 0
  · simp [semWait, posted]
  · cases queued : a.msgQueue with
    | nil => simp [semWait, posted, msgrcv, queued]
    | cons msg rest => simp [semWait, posted, msgrcv, queued]

/-- The adapter with another response ring. -/
def Adapter.withTx (a : Adapter) (ring : ByteRing) : Adapter :=
  { a with gScpiMsg := { a.gScpiMsg with tx := ring } }

/-- A read from the ring source is a read of the response ring. -/
theorem scpiMsgReponseRead_of_ring (a : Adapter) (len : Nat) (ring : a.gScpiMsg.msgsrc = 0) :
    scpiMsgReponseRead a len = ((0, (a.tx.read len).2.1), a.withTx (a.tx.read len).2.2) := by
  simp only [scpiMsgReponseRead, ring, ↓reduceIte, scpiMsgTxRead, Adapter.withTx]

theorem scpiMsgReponseRead_rx (a : Adapter) (len : Nat) :
    (scpiMsgReponseRead a len).2.rx = a.rx := by
  unfold scpiMsgReponseRead
  split <;> rfl

theorem scpiMsgReponseRead_zero (a : Adapter) : (scpiMsgReponseRead a 0).2 = a := by
  unfold scpiMsgReponseRead
  split <;> rfl

theorem scpiMsgReponseRead_length_le (a : Adapter) (len : Nat) :
    (scpiMsgReponseRead a len).1.2.length ≤ len := by
  unfold scpiMsgReponseRead
  split
  · exact ByteRing.read_length_le a.tx len
  · exact Nat.zero_le len

/-- A response read into a buffer that has room for it at an offset. -/
def reponseReadInto {n : Nat} (a : Adapter) (buf : Vector UInt8 n) (offset len : Nat)
    (room : offset + len ≤ n) : Vector UInt8 n × Adapter :=
  let got := scpiMsgReponseRead a len
  (Buffer.store buf offset got.1.2
    (Nat.le_trans (Nat.add_le_add_left (scpiMsgReponseRead_length_le a len) offset) room), got.2)

/-- Reading as much as the queue holds or less stores the front of the queue. -/
theorem reponseReadInto_of_ring {n : Nat} (a : Adapter) (buf : Vector UInt8 n)
    (offset len : Nat) (room : offset + len ≤ n) (ring : a.gScpiMsg.msgsrc = 0)
    (inside : a.tx.InRange) (enough : len ≤ a.tx.unread.length) :
    (reponseReadInto a buf offset len room).2 = a.withTx (a.tx.read len).2.2 ∧
      (reponseReadInto a buf offset len room).1.toList =
        buf.toList.take offset ++ a.tx.unread.take len ++ buf.toList.drop (offset + len) := by
  have bytes := ByteRing.read_bytes a.tx len inside
  have count : (a.tx.unread.take len).length = len := by
    rw [List.length_take]
    exact Nat.min_eq_left enough
  refine ⟨?_, ?_⟩
  · show (scpiMsgReponseRead a len).2 = _
    rw [scpiMsgReponseRead_of_ring a len ring]
  · simp only [reponseReadInto, Buffer.store_toList, scpiMsgReponseRead_of_ring a len ring, bytes,
      count]

theorem scpiMsgReponseAvailLen_of_ring (a : Adapter) (ring : a.gScpiMsg.msgsrc = 0) :
    scpiMsgReponseAvailLen a = a.tx.avail := by
  simp only [scpiMsgReponseAvailLen, ring, ↓reduceIte, scpiResponseTxAvail]

/-- A write to the ring source is a write of the response ring. -/
theorem scpiMsgReponseWrite_ring (a : Adapter) (bytes : List UInt8) :
    scpiMsgReponseWrite a (some bytes) 0 =
      (0, { a with gScpiMsg := { a.gScpiMsg with msgsrc := 0, tx := (a.tx.write bytes).2 } }) :=
  rfl

theorem Adapter.init_inRange : Adapter.init.InRange :=
  ⟨ByteRing.zero_holds.inRange, ByteRing.zero_holds.inRange⟩

/-- No call of the adapter moves an index out of its array. -/
theorem adapterStep_inRange (a : Adapter) (call : AdapterCall) (reply : Int × List UInt8)
    (after : Adapter) (inside : a.InRange) (moved : adapterStep a call = some (reply, after)) :
    after.InRange := by
  cases call with
  | cmdWrite buf accepted =>
      simp only [adapterStep, Option.some.injEq, Prod.mk.injEq] at moved
      obtain ⟨_, rfl⟩ := moved
      refine ⟨?_, ?_⟩
      · rw [Adapter.rx, scpiMsgCmdWrite_gScpiMsg]
        exact ByteRing.write_inRange a.rx buf inside.rx
      · rw [Adapter.tx, scpiMsgCmdWrite_gScpiMsg]
        exact inside.tx
  | cmdRead len =>
      obtain ⟨sem, msg, rest, _, _, _, rfl⟩ := scpiMsgCmdRead_eq_some.mp moved
      exact ⟨ByteRing.read_inRange a.rx len inside.rx, inside.tx⟩
  | reponseAvailLen =>
      simp only [adapterStep, Option.some.injEq, Prod.mk.injEq] at moved
      exact moved.2 ▸ inside
  | reponseRead len =>
      simp only [adapterStep, Option.some.injEq] at moved
      rw [← show (scpiMsgReponseRead a len).2 = after from congrArg Prod.snd moved]
      unfold scpiMsgReponseRead
      split
      · exact ⟨inside.rx, ByteRing.read_inRange a.tx len inside.tx⟩
      · exact inside
  | reponseWrite buf msgsrc =>
      simp only [adapterStep, Option.some.injEq, Prod.mk.injEq] at moved
      obtain ⟨_, rfl⟩ := moved
      cases buf with
      | none => exact inside
      | some bytes =>
          simp only [scpiMsgReponseWrite]
          split
          · exact ⟨inside.rx, ByteRing.write_inRange a.tx bytes inside.tx⟩
          · exact ⟨inside.rx, inside.tx⟩

theorem Adapter.Reachable.inRange {a : Adapter} (reached : a.Reachable) : a.InRange :=
  Machine.Reachable.invariant reached Adapter.init_inRange adapterStep_inRange

end ScpiVxiTmc
