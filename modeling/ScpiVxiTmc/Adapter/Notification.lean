import ScpiVxiTmc.Adapter.Messages

set_option autoImplicit false

/- A command write and the message that is to announce it. -/
namespace ScpiVxiTmc

/-- One message more, and the reader may pass the semaphore once more. -/
structure Notified (before after : Adapter) : Prop where
  message : after.msgQueue = before.msgQueue ++ [⟨1⟩]
  semaphore : after.scpiSem = before.scpiSem + 1

/-- The command ring, the message queue and the semaphore are as before. -/
structure Unannounced (before after : Adapter) : Prop where
  ring : after.rx = before.rx
  messages : after.msgQueue = before.msgQueue
  semaphore : after.scpiSem = before.scpiSem

/-- A command whose message the queue refuses fails and leaves nothing behind,
and one that succeeds is announced. -/
structure AllOrNothing (a : Adapter) (buf : List UInt8) (accepted : Bool) : Prop where
  refused : accepted = false →
    (scpiMsgCmdWrite a buf accepted).1 < 0 ∧ Unannounced a (scpiMsgCmdWrite a buf accepted).2
  succeeds : (scpiMsgCmdWrite a buf accepted).1 = 0 →
    Notified a (scpiMsgCmdWrite a buf accepted).2

theorem scpiMsgCmdWrite_scpiSem (a : Adapter) (buf : List UInt8) (accepted : Bool) :
    (scpiMsgCmdWrite a buf accepted).2.scpiSem =
      a.scpiSem + if accepted then 1 else 0 := by
  cases accepted with
  | false => rfl
  | true => rfl

theorem scpiMsgCmdWrite_notified_iff (a : Adapter) (buf : List UInt8) (accepted : Bool) :
    Notified a (scpiMsgCmdWrite a buf accepted).2 ↔ accepted = true := by
  constructor
  · intro notified
    have raised := notified.semaphore
    rw [scpiMsgCmdWrite_scpiSem] at raised
    cases accepted with
    | false => exact absurd raised (by simp)
    | true => rfl
  · intro accepts
    refine ⟨?_, ?_⟩
    · rw [scpiMsgCmdWrite_msgQueue, accepts, if_pos rfl]
    · rw [scpiMsgCmdWrite_scpiSem, accepts, if_pos rfl]

/-- The result of the post is thrown away, so a refused message is not noticed
and its command stays in the ring. -/
theorem all_or_nothing_iff (a : Adapter) (buf : List UInt8) (accepted : Bool) :
    AllOrNothing a buf accepted ↔ accepted = true := by
  constructor
  · intro promised
    exact (scpiMsgCmdWrite_notified_iff a buf accepted).mp
      (promised.succeeds (scpiMsgCmdWrite_ret a buf accepted))
  · intro accepts
    refine ⟨?_, ?_⟩
    · intro refuses
      rw [accepts] at refuses
      cases refuses
    · intro _
      exact (scpiMsgCmdWrite_notified_iff a buf accepted).mpr accepts

/-- The queue is full when a command of one byte comes. -/
theorem unannounced_command_stays :
    Adapter.init.Reachable ∧ ¬ AllOrNothing .init [42] false ∧
      (scpiMsgCmdWrite .init [42] false).1 = 0 ∧
      (scpiMsgCmdWrite .init [42] false).2.rx.unread = [42] := by
  refine ⟨Machine.Reachable.start _ _, ?_, rfl, ?_⟩
  · intro promised
    exact absurd (promised.refused rfl).1 (by decide)
  · rw [scpiMsgCmdWrite_rx, (ByteRing.write_unread_eq_append_iff _ _
      Adapter.init_inRange.rx).mpr (by decide)]
    rfl

end ScpiVxiTmc
