import ScpiVxiTmc.Adapter.Messages

set_option autoImplicit false

namespace ScpiVxiTmc

/-- One call of a ring function: a write of the bytes at the pointer, or a read
of at most a number of bytes. -/
abbrev RingCall := LossyQueue.Op UInt8

/-- Calls of `scpi_msg_rx_write` and `scpi_msg_rx_read` -/
def rxCall (g : ScpiTxCfg) : RingCall → (Nat × List UInt8) × ScpiTxCfg
  | .write buf => (((scpiMsgRxWrite g buf).1, []), (scpiMsgRxWrite g buf).2)
  | .read len => scpiMsgRxRead g len

/-- Calls of `scpi_msg_tx_write` and `scpi_msg_tx_read` -/
def txCall (g : ScpiTxCfg) : RingCall → (Nat × List UInt8) × ScpiTxCfg
  | .write buf => (((scpiMsgTxWrite g buf).1, []), (scpiMsgTxWrite g buf).2)
  | .read len => scpiMsgTxRead g len

/-- The queue both rings start as. -/
def emptyQueue : LossyQueue UInt8 scpiBufMax := LossyQueue.empty (by decide)

section
variable (ring : ScpiTxCfg → ByteRing) (avail : ScpiTxCfg → Nat)
  (call : ScpiTxCfg → RingCall → (Nat × List UInt8) × ScpiTxCfg)

/-- What a run of calls from the zeroed global has to do with the same run of
an abstract queue that counts modulo the array size. -/
structure ActsAsQueue (calls : List RingCall) : Prop where
  inRange : (ring (Machine.run call .zero calls).2).InRange
  replies : (Machine.run call .zero calls).1 =
    (Machine.run LossyQueue.step emptyQueue calls).1
  unread : (ring (Machine.run call .zero calls).2).unread =
    (Machine.run LossyQueue.step emptyQueue calls).2.items
  available : avail (Machine.run call .zero calls).2 =
    (Machine.run LossyQueue.step emptyQueue calls).2.items.length
  lossless : emptyQueue.Fits calls →
    ((Machine.run call .zero calls).1.map Prod.snd).flatten ++
        (ring (Machine.run call .zero calls).2).unread =
      (calls.map LossyQueue.Op.written).flatten

variable {ring avail call}

/-- One simulated step is enough: the run follows by lock-step simulation, and
a run without overflow by the conservation law of the queue. -/
theorem actsAsQueue_of_step (zeroed : (ring .zero).Holds emptyQueue)
    (counts : ∀ g, avail g = (ring g).avail)
    (agree : ∀ g queue next, (ring g).Holds queue →
      (call g next).1 = (queue.step next).1 ∧ (ring (call g next).2).Holds (queue.step next).2)
    (calls : List RingCall) : ActsAsQueue ring avail call calls := by
  obtain ⟨replies, last⟩ := Machine.run_simulates agree .zero emptyQueue calls zeroed
  refine ⟨last.inRange, replies, last.items, ?_, ?_⟩
  · rw [counts, ← last.items, ByteRing.unread_length]
  · intro fits
    have conserved := LossyQueue.run_conserves emptyQueue calls fits
    rw [replies, last.items, conserved]
    rfl

end

theorem rxCall_step (g : ScpiTxCfg) (queue : LossyQueue UInt8 scpiBufMax) (next : RingCall)
    (holds : g.rx.Holds queue) :
    (rxCall g next).1 = (queue.step next).1 ∧ (rxCall g next).2.rx.Holds (queue.step next).2 := by
  cases next with
  | write buf =>
      obtain ⟨count, later⟩ := ByteRing.write_holds g.rx queue buf holds
      exact ⟨congrArg (fun n => (n, [])) count, later⟩
  | read len =>
      obtain ⟨count, bytes, later⟩ := ByteRing.read_holds g.rx queue len holds
      exact ⟨Prod.ext count bytes, later⟩

theorem txCall_step (g : ScpiTxCfg) (queue : LossyQueue UInt8 scpiBufMax) (next : RingCall)
    (holds : g.tx.Holds queue) :
    (txCall g next).1 = (queue.step next).1 ∧ (txCall g next).2.tx.Holds (queue.step next).2 := by
  cases next with
  | write buf =>
      obtain ⟨count, later⟩ := ByteRing.write_holds g.tx queue buf holds
      exact ⟨congrArg (fun n => (n, [])) count, later⟩
  | read len =>
      obtain ⟨count, bytes, later⟩ := ByteRing.read_holds g.tx queue len holds
      exact ⟨Prod.ext count bytes, later⟩

/-- Both rings are byte queues in every run of their calls. -/
theorem rings_act_as_queues (calls : List RingCall) :
    ActsAsQueue ScpiTxCfg.rx scpiCmdRxAvail rxCall calls ∧
      ActsAsQueue ScpiTxCfg.tx scpiResponseTxAvail txCall calls :=
  ⟨actsAsQueue_of_step ByteRing.zero_holds (fun _ => rfl) rxCall_step calls,
    actsAsQueue_of_step ByteRing.zero_holds (fun _ => rfl) txCall_step calls⟩

/-- No byte that was waiting is destroyed: the new bytes all came in behind the
old ones, or the old ones are still there and the caller is told of a failure. -/
def NoSilentOverwrite (before after : ByteRing) (buf : List UInt8) (retValue : Int) : Prop :=
  (after.unread = before.unread ++ buf ∧ after.avail = before.avail + buf.length) ∨
    (before.unread <+: after.unread ∧ retValue < 0)

theorem noSilentOverwrite_write_iff (ring : ByteRing) (buf : List UInt8)
    (inside : ring.InRange) :
    NoSilentOverwrite ring (ring.write buf).2 buf 0 ↔ ring.avail + buf.length < scpiBufMax := by
  rw [← ByteRing.write_unread_eq_append_iff ring buf inside]
  constructor
  · rintro (⟨appended, _⟩ | ⟨_, failed⟩)
    · exact appended
    · exact absurd failed (by decide)
  · intro appended
    have grown := congrArg List.length appended
    rw [List.length_append, ByteRing.unread_length, ByteRing.unread_length] at grown
    exact Or.inl ⟨appended, grown⟩

/-- A write that always reports success, keeps the last bytes that the index
arithmetic can count, and destroys waiting bytes exactly when it is too long. -/
structure OverwritingWrite (before after : ByteRing) (buf : List UInt8) (retValue : Int) :
    Prop where
  succeeds : retValue = 0
  kept : after.unread =
    (before.unread ++ buf).rtake ((before.unread.length + buf.length) % scpiBufMax)
  safe : NoSilentOverwrite before after buf retValue ↔ before.avail + buf.length ≤ 1023

theorem overwritingWrite (ring : ByteRing) (buf : List UInt8) (inside : ring.InRange) :
    OverwritingWrite ring (ring.write buf).2 buf 0 := by
  refine ⟨rfl, ?_, ?_⟩
  · rw [ByteRing.unread_length]
    exact ByteRing.write_unread ring buf inside
  · exact (noSilentOverwrite_write_iff ring buf inside).trans Nat.lt_succ_iff

/-- Neither writer of the adapter looks at the read index of its ring. -/
theorem writes_overwrite_past_capacity (a : Adapter) (buf : List UInt8) (accepted : Bool)
    (reached : a.Reachable) :
    OverwritingWrite a.rx (scpiMsgCmdWrite a buf accepted).2.rx buf
        (scpiMsgCmdWrite a buf accepted).1 ∧
      OverwritingWrite a.tx (scpiMsgReponseWrite a (some buf) 0).2.tx buf
        (scpiMsgReponseWrite a (some buf) 0).1 := by
  have inside := reached.inRange
  rw [scpiMsgCmdWrite_rx, scpiMsgCmdWrite_ret, scpiMsgReponseWrite_ring]
  exact ⟨overwritingWrite a.rx buf inside.rx, overwritingWrite a.tx buf inside.tx⟩

theorem writes_overwrite_past_capacity_init :
    OverwritingWrite Adapter.init.rx (scpiMsgCmdWrite .init [42] true).2.rx [42]
        (scpiMsgCmdWrite .init [42] true).1 ∧
      OverwritingWrite Adapter.init.tx (scpiMsgReponseWrite .init (some [42]) 0).2.tx [42]
        (scpiMsgReponseWrite .init (some [42]) 0).1 :=
  writes_overwrite_past_capacity .init [42] true (Machine.Reachable.start _ _)

/-- The adapter after a one-byte command and a one-byte response. -/
def oneByteQueued : Adapter :=
  (scpiMsgReponseWrite (scpiMsgCmdWrite .init [42] true).2 (some [42]) 0).2

theorem oneByteQueued_reachable : oneByteQueued.Reachable := by
  have first : Machine.Reachable adapterStep .init (scpiMsgCmdWrite .init [42] true).2 :=
    (Machine.Reachable.start _ _).next (.cmdWrite [42] true) rfl
  exact first.next (.reponseWrite (some [42]) 0) rfl

/-- 1023 more bytes make a full ring look empty, and both calls return 0. -/
theorem full_ring_overwritten :
    oneByteQueued.Reachable ∧
      ¬ NoSilentOverwrite oneByteQueued.rx
        (scpiMsgCmdWrite oneByteQueued (List.replicate 1023 7) true).2.rx
        (List.replicate 1023 7) (scpiMsgCmdWrite oneByteQueued (List.replicate 1023 7) true).1 ∧
      ¬ NoSilentOverwrite oneByteQueued.tx
        (scpiMsgReponseWrite oneByteQueued (some (List.replicate 1023 7)) 0).2.tx
        (List.replicate 1023 7)
        (scpiMsgReponseWrite oneByteQueued (some (List.replicate 1023 7)) 0).1 := by
  have inside := oneByteQueued_reachable.inRange
  refine ⟨oneByteQueued_reachable, ?_, ?_⟩
  · rw [scpiMsgCmdWrite_rx, scpiMsgCmdWrite_ret,
      noSilentOverwrite_write_iff oneByteQueued.rx _ inside.rx, List.length_replicate]
    decide
  · rw [scpiMsgReponseWrite_ring,
      noSilentOverwrite_write_iff oneByteQueued.tx _ inside.tx, List.length_replicate]
    decide

end ScpiVxiTmc
