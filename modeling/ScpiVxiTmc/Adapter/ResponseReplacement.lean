import ScpiVxiTmc.Adapter.StandaloneUsb

set_option autoImplicit false

/- A new response of the standalone adapter in place of the old one. -/
namespace ScpiVxiTmc

namespace StandaloneUsb

/-- A call of `scpi_msg_reponse_write` for the ring source, its buffer none for a
null pointer, or of `scpi_msg_reponse_read`. -/
inductive ReponseCall
  | write (buf : Option (List UInt8))
  | read (len : Nat)

def reponseCall (g : ScpiTxCfg) : ReponseCall → (Int × List UInt8) × ScpiTxCfg
  | .write buf =>
      let done := scpiMsgReponseWrite g buf 0
      ((done.1, []), done.2)
  | .read len => scpiMsgReponseRead g len

/-- `SCPI_RESPONSE_TX_AVAIL()!= 0` as the preprocessor leaves it: the macro has no
parentheses, so only its last arm is compared. -/
def scpiResponseTxAvailTest (g : ScpiTxCfg) : Int :=
  if g.tx.tail ≥ g.tx.head then g.tx.tail - g.tx.head
  else if scpiBufMax - g.tx.head + g.tx.tail ≠ 0 then 1 else 0

/-- The condition is nonzero in the same states all the same. -/
theorem scpiResponseTxAvailTest_ne_zero (g : ScpiTxCfg) :
    scpiResponseTxAvailTest g ≠ 0 ↔ scpiResponseTxAvail g ≠ 0 := by
  simp only [scpiResponseTxAvailTest, scpiResponseTxAvail, ByteRing.avail]
  split
  · omega
  · split <;> omega

/-- After a write there is the end of `buf`, as much of it as the indices can
count, for reads of any lengths, and of a short `buf` that is all. -/
structure Replaces (before : ScpiTxCfg) (buf : List UInt8) (after : ScpiTxCfg) : Prop where
  drains : scpiResponseTxAvailTest before ≠ 0 ↔ before.tx.unread ≠ []
  available : scpiMsgReponseAvailLen after = (buf.length % 1024 : Nat)
  delivered : ∀ lens : List Nat,
    ((Machine.run scpiMsgReponseRead after lens).1.map Prod.snd).flatten =
      (buf.rtake (buf.length % 1024)).take (lens.foldr (· + ·) 0)
  whole : buf.length ≤ 1023 → ∀ len, buf.length ≤ len → (scpiMsgReponseRead after len).1.2 = buf

theorem reponseCall_responds (g : ScpiTxCfg) (call : ReponseCall)
    (responds : ∃ queue, Responds g queue) : ∃ queue, Responds (reponseCall g call).2 queue := by
  rcases responds with ⟨queue, responds⟩
  cases call with
  | write buf =>
      cases buf with
      | none => exact ⟨queue, responds⟩
      | some bytes => exact ⟨_, scpiMsgReponseWrite_responds g queue bytes responds⟩
  | read len => exact ⟨_, (responseCall_step g queue (.op (.read len)) responds).2⟩

/-- Reads of any lengths deliver the front of the queue, one after the other. -/
theorem scpiMsgReponseRead_run (g : ScpiTxCfg) (queue : LossyQueue UInt8 scpiBufMax)
    (lens : List Nat) (responds : Responds g queue) :
    ((Machine.run scpiMsgReponseRead g lens).1.map Prod.snd).flatten =
      queue.items.take (lens.foldr (· + ·) 0) := by
  induction lens generalizing g queue with
  | nil => exact List.take_zero.symm
  | cons len rest ih =>
      have step := responseCall_step g queue (.op (.read len)) responds
      have bytes : (scpiMsgReponseRead g len).1.2 = queue.items.take len := congrArg Prod.snd step.1
      have later := ih _ _ step.2
      simp only [LossyQueue.observe, LossyQueue.read_snd_items] at later
      rw [Machine.run_cons, List.map_cons, List.flatten_cons, bytes, List.foldr_cons, List.take_add]
      exact congrArg _ later

theorem replaces (g : ScpiTxCfg) (queue : LossyQueue UInt8 scpiBufMax) (buf : List UInt8)
    (responds : Responds g queue) : Replaces g buf (scpiMsgReponseWrite g (some buf) 0).2 := by
  have bufMax : scpiBufMax = 1024 := rfl
  have after := scpiMsgReponseWrite_responds g queue buf responds
  have items := queue.replace_items buf
  have all (short : buf.length ≤ 1023) : (queue.replace buf).items = buf := by
    rw [items, Nat.mod_eq_of_lt (by omega), List.rtake, Nat.sub_self, List.drop_zero]
  refine ⟨?_, ?_, ?_, ?_⟩
  · rw [scpiResponseTxAvailTest_ne_zero, scpiResponseTxAvail, ← ByteRing.unread_length, ne_eq,
      List.length_eq_zero_iff]
  · rw [scpiMsgReponseAvailLen, if_pos after.source, after.avail, items,
      LossyQueue.rtake_length (Nat.mod_le _ _)]
  · intro lens
    rw [scpiMsgReponseRead_run _ _ lens after, items]
  · intro short len enough
    have bytes := (responseCall_step _ _ (.op (.read len)) after).1
    rw [show (scpiMsgReponseRead _ len).1.2 = _ from congrArg Prod.snd bytes]
    show (queue.replace buf).items.take len = buf
    rw [all short, List.take_of_length_le enough]

/-- A response takes the place of whatever earlier calls left unread. -/
theorem response_replaces (calls : List ReponseCall) (buf : List UInt8) :
    Replaces (Machine.run reponseCall .zero calls).2 buf
      (scpiMsgReponseWrite (Machine.run reponseCall .zero calls).2 (some buf) 0).2 := by
  have reached := Machine.run_invariant reponseCall_responds .zero calls ⟨_, zero_responds⟩
  rcases reached with ⟨queue, responds⟩
  exact replaces _ queue buf responds

end StandaloneUsb

end ScpiVxiTmc
