import ScpiVxiTmc.Adapter.Notification
import ScpiVxiTmc.Vxi.RefusedReads

set_option autoImplicit false

/- What a `device_write` has done, against its reply and against what `create_link`
promised. -/
namespace ScpiVxiTmc

/-- After error 0 all of the data is queued and announced; after any other error
nothing has happened and nothing is reported as written. -/
structure ReplyAgrees (a : Adapter) (data : List UInt8) (resp : DeviceWriteResp)
    (after : Adapter) : Prop where
  written : resp.error = 0 →
    after.rx.unread = a.rx.unread ++ data ∧ after.msgQueue = a.msgQueue ++ [⟨1⟩] ∧
      resp.size = data.length
  refused : resp.error ≠ 0 →
    after.rx = a.rx ∧ after.msgQueue = a.msgQueue ∧ resp.size = 0

/-- On the link the reply always claims success. -/
theorem replyAgrees_of_link_iff (a : Adapter) (data : List UInt8) (accepted : Bool)
    (inside : a.rx.InRange) :
    ReplyAgrees a data ⟨0, data.length⟩ (scpiMsgCmdWrite a data accepted).2 ↔
      accepted = true ∧ a.rx.unread.length + data.length ≤ 1023 := by
  have appends : (scpiMsgCmdWrite a data accepted).2.rx.unread = a.rx.unread ++ data ↔
      a.rx.unread.length + data.length ≤ 1023 := by
    rw [scpiMsgCmdWrite_rx, ByteRing.write_unread_eq_append_iff a.rx data inside,
      ByteRing.unread_length]
    exact Nat.lt_succ_iff
  have posts : (scpiMsgCmdWrite a data accepted).2.msgQueue = a.msgQueue ++ [⟨1⟩] ↔
      accepted = true := by
    rw [scpiMsgCmdWrite_msgQueue]
    cases accepted with
    | false => simp
    | true => simp
  constructor
  · intro agrees
    obtain ⟨appended, posted, _⟩ := agrees.written rfl
    exact ⟨posts.mp posted, appends.mp appended⟩
  · intro ⟨accepts, room⟩
    refine ⟨?_, ?_⟩
    · intro _
      exact ⟨appends.mpr room, posts.mpr accepts, rfl⟩
    · intro failed
      exact absurd rfl failed

/-- Off the link the size is that of the data, although none of it is written. -/
theorem replyAgrees_of_foreign_iff (a : Adapter) (data : List UInt8) :
    ReplyAgrees a data ⟨4, data.length⟩ a ↔ data = [] := by
  have failed : (4 : Int) ≠ 0 := by decide
  constructor
  · intro agrees
    exact List.length_eq_zero_iff.mp (agrees.refused failed).2.2
  · intro empty
    refine ⟨?_, ?_⟩
    · intro succeeded
      exact absurd succeeded failed
    · intro _
      exact ⟨rfl, rfl, List.length_eq_zero_iff.mpr empty⟩

/-- The reply is filled in before anything is done and never looked at again. -/
theorem write_reply_agrees_iff (a : Adapter) (argp : DeviceWriteParms) (accepted : Bool)
    (reached : a.Reachable) (short : argp.data.length ≤ 100) :
    (∃ resp after, deviceWrite a argp accepted = some (resp, after) ∧
        ReplyAgrees a argp.data resp after) ↔
      (argp.lid = upo3000Lid ∧ accepted = true ∧
          a.rx.unread.length + argp.data.length ≤ 1023) ∨
        (argp.lid ≠ upo3000Lid ∧ argp.data = []) := by
  rw [deviceWrite_eq, if_pos short]
  by_cases link : argp.lid = upo3000Lid
  · rw [if_pos link]
    apply Machine.returns_iff.trans
    rw [replyAgrees_of_link_iff a argp.data accepted reached.inRange.rx]
    simp only [link, true_and, ne_eq, not_true_eq_false, false_and, or_false]
  · rw [if_neg link]
    apply Machine.returns_iff.trans
    rw [replyAgrees_of_foreign_iff]
    simp only [link, false_and, ne_eq, not_false_eq_true, true_and, false_or]

theorem write_reply_agrees_two_bytes :
    (∃ resp after, deviceWrite .init ⟨upo3000Lid, [79, 75]⟩ true = some (resp, after) ∧
        ReplyAgrees .init [79, 75] resp after) ↔
      (upo3000Lid = upo3000Lid ∧ true = true ∧
          Adapter.init.rx.unread.length + [79, 75].length ≤ 1023) ∨
        (upo3000Lid ≠ upo3000Lid ∧ ([79, 75] : List UInt8) = []) :=
  write_reply_agrees_iff .init ⟨upo3000Lid, [79, 75]⟩ true (Machine.Reachable.start _ _)
    (by decide)

/-- Two bytes for a link id that is refused are reported as written. -/
theorem refused_write_reports_size :
    Adapter.init.Reachable ∧
      deviceWrite .init ⟨7, [79, 75]⟩ true = some (⟨4, 2⟩, .init) ∧
      ¬ ∃ resp after, deviceWrite .init ⟨7, [79, 75]⟩ true = some (resp, after) ∧
        ReplyAgrees .init [79, 75] resp after := by
  have refused : deviceWrite .init ⟨7, [79, 75]⟩ true = some (⟨4, 2⟩, .init) := by
    rw [deviceWrite_eq]
    rfl
  refine ⟨Machine.Reachable.start _ _, refused, ?_⟩
  intro ⟨resp, after, returned, agrees⟩
  rw [refused] at returned
  obtain ⟨rfl, rfl⟩ := Prod.mk.inj (Option.some.inj returned)
  exact absurd (agrees.refused (by decide)).2.2 (by decide)

/-- Both servers copy the data inside their buffer, and one with a free command
ring behind it queues all of it. -/
structure TakesWhole (a : Adapter) (argp : DeviceWriteParms) (accepted : Bool) : Prop where
  inBounds : deviceWrite a argp accepted ≠ none
  standaloneInBounds : StandaloneVxi.deviceWrite argp ≠ none
  queued : argp.lid = upo3000Lid → a.rx.unread = [] →
    ∃ resp after, deviceWrite a argp accepted = some (resp, after) ∧
      after.rx.unread = argp.data

theorem StandaloneVxi.deviceWrite_eq_none_iff (argp : DeviceWriteParms) :
    StandaloneVxi.deviceWrite argp = none ↔ ¬ argp.data.length ≤ 100 := by
  rw [StandaloneVxi.deviceWrite, Option.map_eq_none_iff, Buffer.store?_eq_none, Nat.zero_add,
    Nat.not_le]

theorem deviceWrite_eq_none_iff (a : Adapter) (argp : DeviceWriteParms) (accepted : Bool) :
    deviceWrite a argp accepted = none ↔ ¬ argp.data.length ≤ 100 := by
  rw [deviceWrite_eq]
  split
  · rename_i fits
    exact iff_of_false (Option.some_ne_none _) (not_not.mpr fits)
  · rename_i leaves
    exact iff_of_true rfl leaves

/-- A server takes what fits its buffer, whatever size it has advertised. -/
theorem takes_whole_iff (a : Adapter) (argp : DeviceWriteParms) (accepted : Bool)
    (reached : a.Reachable) : TakesWhole a argp accepted ↔ argp.data.length ≤ 100 := by
  constructor
  · intro takes
    exact not_not.mp (mt (deviceWrite_eq_none_iff a argp accepted).mpr takes.inBounds)
  · intro fits
    refine ⟨?_, ?_, ?_⟩
    · exact mt (deviceWrite_eq_none_iff a argp accepted).mp (not_not.mpr fits)
    · exact mt (StandaloneVxi.deviceWrite_eq_none_iff argp).mp (not_not.mpr fits)
    · intro link empty
      have room : a.rx.avail + argp.data.length < 1024 := by
        rw [← ByteRing.unread_length, empty, List.length_nil]
        omega
      refine ⟨⟨0, argp.data.length⟩, (scpiMsgCmdWrite a argp.data accepted).2, ?_, ?_⟩
      · rw [deviceWrite_eq, if_pos fits, if_pos link]
      · rw [scpiMsgCmdWrite_rx, (ByteRing.write_unread_eq_append_iff a.rx argp.data
          reached.inRange.rx).mpr room, empty, List.nil_append]

theorem takes_whole_init :
    TakesWhole .init ⟨upo3000Lid, [79, 75]⟩ true ↔ ([79, 75] : List UInt8).length ≤ 100 :=
  takes_whole_iff .init ⟨upo3000Lid, [79, 75]⟩ true (Machine.Reachable.start _ _)

/-- A write of the advertised size. -/
def advertisedWrite : DeviceWriteParms :=
  ⟨(createLink ⟨inst0⟩).lid, List.replicate (createLink ⟨inst0⟩).maxRecvSize 42⟩

theorem advertisedWrite_overruns :
    Adapter.init.Reachable ∧ (createLink ⟨inst0⟩).error = 0 ∧
      advertisedWrite.data.length ≤ (createLink ⟨inst0⟩).maxRecvSize ∧
      ¬ TakesWhole .init advertisedWrite true := by
  refine ⟨Machine.Reachable.start _ _, rfl, ?_, ?_⟩
  · exact Nat.le_of_eq List.length_replicate
  · intro takes
    apply takes.inBounds
    rw [deviceWrite_eq_none_iff, advertisedWrite, List.length_replicate]
    decide

end ScpiVxiTmc
