import ScpiVxiTmc.Lib.LossyQueue
import ScpiVxiTmc.Lib.Window

set_option autoImplicit false

namespace ScpiVxiTmc

/-- `SCPI_BUF_MAX` -/
abbrev scpiBufMax : Nat := 1024

/-- One circular buffer of `SCPI_TX_CFG_t`: `rxBuf`, `rxHead`, `rxTail`, or the
same three fields of the response side. The indices are plain numbers, as in
the source: nothing but the code keeps them below the size of the array. -/
structure ByteRing where
  buf : Vector UInt8 scpiBufMax
  head : Nat
  tail : Nat
  deriving DecidableEq

namespace ByteRing

/-- A zeroed global. -/
def zero : ByteRing := ⟨Vector.replicate scpiBufMax 0, 0, 0⟩

/-- `SCPI_CMD_RX_AVAIL` and `SCPI_RESPONSE_TX_AVAIL` -/
def avail (ring : ByteRing) : Nat :=
  if ring.tail ≥ ring.head then ring.tail - ring.head
  else scpiBufMax - ring.head + ring.tail

/-- One round of a write loop: the byte is stored, then the tail is tested
before it moves. -/
def putByte (ring : ByteRing) (byte : UInt8) : ByteRing :=
  { ring with
    buf := ring.buf.setIfInBounds ring.tail byte
    tail := if ring.tail ≥ scpiBufMax - 1 then 0 else ring.tail + 1 }

/-- The byte at an index; the code never looks outside the array. -/
def cell (ring : ByteRing) (index : Nat) : UInt8 := ring.buf[index]?.getD 0

/-- One round of a read loop: the head moves with the load and is tested after. -/
def takeByte (ring : ByteRing) : UInt8 × ByteRing :=
  let moved := ring.head + 1
  (ring.cell ring.head, { ring with head := if moved ≥ scpiBufMax then 0 else moved })

/-- A write loop with its counter. It never looks at the head. -/
def write (ring : ByteRing) : List UInt8 → Nat × ByteRing
  | [] => (0, ring)
  | byte :: rest =>
      let later := write (ring.putByte byte) rest
      (later.1 + 1, later.2)

/-- A read loop: its counter, the bytes it hands out and the ring it leaves.
The argument is how far the counter still is from the length asked for. -/
def read (ring : ByteRing) : Nat → Nat × List UInt8 × ByteRing
  | 0 => (0, [], ring)
  | left + 1 =>
      if ring.head ≠ ring.tail then
        let later := read ring.takeByte.2 left
        (later.1 + 1, ring.takeByte.1 :: later.2.1, later.2.2)
      else
        (0, [], ring)

/-- The bytes written and not read, oldest first. -/
def unread (ring : ByteRing) : List UInt8 :=
  Window.window scpiBufMax ring.cell ring.head ring.avail

/-- Both indices are inside the array. -/
structure InRange (ring : ByteRing) : Prop where
  head_lt : ring.head < scpiBufMax
  tail_lt : ring.tail < scpiBufMax

/-- The ring stands for a queue that counts its bytes modulo the array size. -/
structure Holds (ring : ByteRing) (queue : LossyQueue UInt8 scpiBufMax) : Prop where
  inRange : ring.InRange
  items : ring.unread = queue.items

theorem avail_eq_span (ring : ByteRing) :
    ring.avail = Window.span scpiBufMax ring.head ring.tail := rfl

@[simp] theorem unread_length (ring : ByteRing) : ring.unread.length = ring.avail :=
  Window.window_length _ _ _ _

theorem InRange.avail_lt {ring : ByteRing} (inside : ring.InRange) : ring.avail < scpiBufMax := by
  rw [avail_eq_span]
  exact Window.span_lt inside.head_lt inside.tail_lt

theorem InRange.unread_eq_nil {ring : ByteRing} (inside : ring.InRange) :
    ring.unread = [] ↔ ring.head = ring.tail := by
  rw [← List.length_eq_zero_iff, unread_length, avail_eq_span,
    Window.span_eq_zero inside.head_lt]

/-- Every ring in range stands for exactly one queue. -/
def InRange.queue {ring : ByteRing} (inside : ring.InRange) : LossyQueue UInt8 scpiBufMax :=
  ⟨ring.unread, by rw [unread_length]; exact inside.avail_lt⟩

theorem InRange.holds {ring : ByteRing} (inside : ring.InRange) : ring.Holds inside.queue :=
  ⟨inside, rfl⟩

theorem zero_holds : zero.Holds (LossyQueue.empty (by decide)) :=
  ⟨⟨by decide, by decide⟩, rfl⟩

/-- The two ways of moving an index are the same step round the circle. -/
theorem putByte_tail (ring : ByteRing) (bound : ring.tail < scpiBufMax) (byte : UInt8) :
    (ring.putByte byte).tail = Window.place scpiBufMax ring.tail 1 := by
  simp only [putByte, Window.place]
  split <;> split <;> omega

theorem takeByte_head (ring : ByteRing) (inside : ring.InRange) :
    ring.takeByte.2.head = Window.place scpiBufMax ring.head 1 := by
  have bound := inside.head_lt
  simp only [takeByte, Window.place]
  split <;> split <;> omega

theorem putByte_cell (ring : ByteRing) (bound : ring.tail < scpiBufMax) (byte : UInt8) :
    (ring.putByte byte).cell = Function.update ring.cell ring.tail byte := by
  funext index
  by_cases same : index = ring.tail
  · subst same
    simp [cell, putByte, bound]
  · rw [Function.update_of_ne same]
    simp only [cell, putByte, Vector.getElem?_setIfInBounds, Ne.symm same, ↓reduceIte]

theorem putByte_inRange (ring : ByteRing) (inside : ring.InRange) (byte : UInt8) :
    (ring.putByte byte).InRange := by
  refine ⟨inside.head_lt, ?_⟩
  rw [putByte_tail ring inside.tail_lt]
  exact Window.place_lt inside.tail_lt (by decide)

theorem takeByte_inRange (ring : ByteRing) (inside : ring.InRange) :
    ring.takeByte.2.InRange := by
  refine ⟨?_, inside.tail_lt⟩
  rw [takeByte_head ring inside]
  exact Window.place_lt inside.head_lt (by decide)

theorem putByte_holds (ring : ByteRing) (queue : LossyQueue UInt8 scpiBufMax) (byte : UInt8)
    (holds : ring.Holds queue) : (ring.putByte byte).Holds (queue.write [byte]) := by
  have inside := holds.inRange
  have next := putByte_inRange ring inside byte
  have used : queue.items.length = Window.span scpiBufMax ring.head ring.tail := by
    rw [← holds.items, unread_length, avail_eq_span]
  have after : (ring.putByte byte).avail =
      if queue.items.length + 1 < scpiBufMax then queue.items.length + 1 else 0 := by
    rw [avail_eq_span, putByte_tail ring inside.tail_lt, used]
    exact Window.span_place_stop inside.head_lt inside.tail_lt
  refine ⟨next, ?_⟩
  rw [LossyQueue.write_singleton, unread, after]
  split
  · -- The new byte goes into the first cell past the window.
    have tailPlace : ring.tail = Window.place scpiBufMax ring.head queue.items.length := by
      rw [used]
      exact (Window.place_span inside.head_lt inside.tail_lt).symm
    change Window.window scpiBufMax (ring.putByte byte).cell ring.head _ = _
    rw [putByte_cell ring inside.tail_lt, tailPlace,
      Window.window_store ring.cell byte queue.bounded, ← holds.items, unread_length]
    rfl
  · rfl

theorem takeByte_holds (ring : ByteRing) (queue : LossyQueue UInt8 scpiBufMax)
    (holds : ring.Holds queue) (apart : ring.head ≠ ring.tail) :
    queue.items = ring.takeByte.1 :: (queue.read 1).2.items ∧
      ring.takeByte.2.Holds (queue.read 1).2 := by
  have inside := holds.inRange
  have shrink : ring.takeByte.2.avail + 1 = ring.avail := by
    rw [avail_eq_span, avail_eq_span, takeByte_head ring inside]
    exact Window.span_place_start inside.head_lt inside.tail_lt apart
  have bound := inside.avail_lt
  have split : ring.unread = ring.takeByte.1 :: ring.takeByte.2.unread := by
    rw [unread, ← shrink, Window.window_cons ring.cell inside.head_lt (by omega),
      ← takeByte_head ring inside]
    rfl
  have tail : ring.takeByte.2.unread = (queue.read 1).2.items := by
    rw [LossyQueue.read_snd_items, ← holds.items, split, List.drop_one, List.tail_cons]
  exact ⟨by rw [← holds.items, split, tail], takeByte_inRange ring inside, tail⟩

/-- A write loop of any length, through every wrap and past the read index. -/
theorem write_holds (ring : ByteRing) (queue : LossyQueue UInt8 scpiBufMax) (bytes : List UInt8)
    (holds : ring.Holds queue) :
    (ring.write bytes).1 = bytes.length ∧ (ring.write bytes).2.Holds (queue.write bytes) := by
  induction bytes generalizing ring queue with
  | nil =>
      rw [LossyQueue.write_nil]
      exact ⟨rfl, holds⟩
  | cons byte rest ih =>
      obtain ⟨count, later⟩ := ih _ _ (putByte_holds ring queue byte holds)
      rw [LossyQueue.write_cons]
      exact ⟨congrArg (· + 1) count, later⟩

/-- A read loop stops at the length asked for or when the ring is empty. -/
theorem read_holds (ring : ByteRing) (queue : LossyQueue UInt8 scpiBufMax) (len : Nat)
    (holds : ring.Holds queue) :
    (ring.read len).1 = min len queue.items.length ∧
      (ring.read len).2.1 = queue.items.take len ∧
      (ring.read len).2.2.Holds (queue.read len).2 := by
  induction len generalizing ring queue with
  | zero =>
      refine ⟨by simp only [read, Nat.zero_min], by simp only [read, List.take_zero],
        ⟨holds.inRange, ?_⟩⟩
      rw [LossyQueue.read_snd_items, List.drop_zero]
      exact holds.items
  | succ len ih =>
      by_cases apart : ring.head ≠ ring.tail
      · obtain ⟨split, later⟩ := takeByte_holds ring queue holds apart
        obtain ⟨count, bytes, last⟩ := ih _ _ later
        have shorter : queue.items.length = (queue.read 1).2.items.length + 1 := by
          conv_lhs => rw [split]
          exact List.length_cons
        simp only [read, apart, ne_eq, not_false_eq_true, ↓reduceIte]
        refine ⟨by rw [count, shorter]; omega, ?_, ⟨last.inRange, ?_⟩⟩
        · rw [bytes]
          conv_rhs => rw [split]
          rw [List.take_succ_cons]
        · rw [last.items, LossyQueue.read_snd_items, LossyQueue.read_snd_items,
            LossyQueue.read_snd_items, List.drop_drop, Nat.add_comm]
      · have emptyQueue : queue.items = [] := by
          rw [← holds.items, holds.inRange.unread_eq_nil]
          exact Decidable.not_not.mp apart
        simp only [read, apart, ↓reduceIte]
        refine ⟨by simp [emptyQueue], by simp [emptyQueue], ⟨holds.inRange, ?_⟩⟩
        rw [holds.items, LossyQueue.read_snd_items, emptyQueue, List.drop_nil]

theorem read_length_le (ring : ByteRing) (len : Nat) :
    (ring.read len).2.1.length ≤ len := by
  induction len generalizing ring with
  | zero => exact Nat.le_refl 0
  | succ len ih =>
      simp only [read]
      split
      · exact Nat.succ_le_succ (ih _)
      · exact Nat.zero_le _

theorem write_inRange (ring : ByteRing) (bytes : List UInt8) (inside : ring.InRange) :
    (ring.write bytes).2.InRange :=
  (write_holds ring _ bytes inside.holds).2.inRange

theorem read_inRange (ring : ByteRing) (len : Nat) (inside : ring.InRange) :
    (ring.read len).2.2.InRange :=
  (read_holds ring _ len inside.holds).2.2.inRange

theorem write_unread (ring : ByteRing) (bytes : List UInt8) (inside : ring.InRange) :
    (ring.write bytes).2.unread =
      (ring.unread ++ bytes).rtake ((ring.avail + bytes.length) % scpiBufMax) := by
  rw [(write_holds ring _ bytes inside.holds).2.items, LossyQueue.write_items]
  simp only [InRange.queue, unread_length]

theorem write_avail (ring : ByteRing) (bytes : List UInt8) (inside : ring.InRange) :
    (ring.write bytes).2.avail = (ring.avail + bytes.length) % scpiBufMax := by
  rw [← unread_length, (write_holds ring _ bytes inside.holds).2.items, LossyQueue.write_length]
  simp only [InRange.queue, unread_length]

theorem write_tail (ring : ByteRing) (bytes : List UInt8) (bound : ring.tail < scpiBufMax)
    (turn : bytes.length ≤ scpiBufMax) :
    (ring.write bytes).2.tail = Window.place scpiBufMax ring.tail bytes.length := by
  induction bytes generalizing ring with
  | nil => exact (Window.place_zero bound).symm
  | cons byte rest ih =>
      rw [List.length_cons] at turn ⊢
      have moved := putByte_tail ring bound byte
      have inside : (ring.putByte byte).tail < scpiBufMax := by
        rw [moved]
        exact Window.place_lt bound (by decide)
      rw [← Window.place_place_one bound turn, ← moved]
      exact ih (ring.putByte byte) inside (by omega)

/-- A write of less than a turn moves the tail, also one that stands outside. -/
theorem write_tail_ne (ring : ByteRing) {bytes : List UInt8} (some : bytes ≠ [])
    (turn : bytes.length < scpiBufMax) : (ring.write bytes).2.tail ≠ ring.tail := by
  have positive := List.length_pos_iff.mpr some
  by_cases bound : ring.tail < scpiBufMax
  · rw [write_tail ring bytes bound (Nat.le_of_lt turn)]
    intro same
    apply Window.place_ne positive turn
    rw [Window.place_zero bound, same]
  · cases bytes with
    | nil => exact absurd rfl some
    | cons byte rest =>
        have wraps : (ring.putByte byte).tail = 0 := if_pos (by omega)
        have inside : (ring.putByte byte).tail < scpiBufMax := by
          rw [wraps]
          decide
        rw [List.length_cons] at turn
        have later := write_tail (ring.putByte byte) rest inside (by omega)
        have less := Window.place_lt inside (Nat.le_of_lt (Nat.lt_of_succ_lt turn))
        show ((ring.putByte byte).write rest).2.tail ≠ ring.tail
        omega

theorem read_avail (ring : ByteRing) (len : Nat) (inside : ring.InRange) :
    (ring.read len).2.2.avail = ring.avail - len := by
  rw [← unread_length, (read_holds ring _ len inside.holds).2.2.items,
    LossyQueue.read_snd_items, List.length_drop]
  simp only [InRange.queue, unread_length]

/-- A write that fits appends, and only such a write does. -/
theorem write_unread_eq_append_iff (ring : ByteRing) (bytes : List UInt8)
    (inside : ring.InRange) :
    (ring.write bytes).2.unread = ring.unread ++ bytes ↔
      ring.avail + bytes.length < scpiBufMax := by
  rw [(write_holds ring _ bytes inside.holds).2.items]
  simpa only [InRange.queue, unread_length] using
    LossyQueue.write_eq_append_iff inside.queue bytes

/-- A ring that has room for a write holds it behind the rest. -/
theorem unread_write {ring : ByteRing} {held bytes : List UInt8} (inside : ring.InRange)
    (holds : ring.unread = held) (room : held.length + bytes.length ≤ 1023) :
    (ring.write bytes).2.unread = held ++ bytes := by
  have bufMax : scpiBufMax = 1024 := rfl
  rw [← holds]
  apply (write_unread_eq_append_iff ring bytes inside).mpr
  rw [← unread_length, holds]
  omega

theorem read_bytes (ring : ByteRing) (len : Nat) (inside : ring.InRange) :
    (ring.read len).2.1 = ring.unread.take len :=
  (read_holds ring _ len inside.holds).2.1

theorem read_unread (ring : ByteRing) (len : Nat) (inside : ring.InRange) :
    (ring.read len).2.2.unread = ring.unread.drop len :=
  (read_holds ring _ len inside.holds).2.2.items

end ByteRing

end ScpiVxiTmc
