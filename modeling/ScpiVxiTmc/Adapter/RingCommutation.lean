import ScpiVxiTmc.Adapter.RingQueues

set_option autoImplicit false

/- Whether the producer or the consumer of a ring goes first. -/
namespace ScpiVxiTmc

namespace ByteRing

theorem InRange.apart_of_avail {ring : ByteRing} (inside : ring.InRange)
    (some : 0 < ring.avail) : ring.head ≠ ring.tail := by
  intro same
  rw [← unread_length, inside.unread_eq_nil.mpr same] at some
  cases some

theorem putByte_avail (ring : ByteRing) (inside : ring.InRange) (byte : UInt8)
    (room : ring.avail + 1 < scpiBufMax) : (ring.putByte byte).avail = ring.avail + 1 := by
  have grown := write_avail ring [byte] inside
  rw [List.length_singleton, Nat.mod_eq_of_lt room] at grown
  exact grown

theorem takeByte_avail (ring : ByteRing) (inside : ring.InRange) (some : 0 < ring.avail) :
    ring.takeByte.2.avail + 1 = ring.avail := by
  rw [avail_eq_span, avail_eq_span, takeByte_head ring inside]
  exact Window.span_place_start inside.head_lt inside.tail_lt (inside.apart_of_avail some)

/-- The two sides move an index each, and the cells they use are different ones. -/
theorem takeByte_putByte (ring : ByteRing) (inside : ring.InRange) (byte : UInt8)
    (apart : ring.head ≠ ring.tail) :
    (ring.putByte byte).takeByte = (ring.takeByte.1, ring.takeByte.2.putByte byte) := by
  apply Prod.ext
  · show (ring.putByte byte).cell ring.head = ring.cell ring.head
    rw [putByte_cell ring inside.tail_lt, Function.update_of_ne apart]
  · rfl

/-- A byte may be stored before a read loop or after it. -/
theorem read_putByte (ring : ByteRing) (byte : UInt8) (len : Nat) (inside : ring.InRange)
    (room : ring.avail + 1 < scpiBufMax) (enough : len ≤ ring.avail) :
    (ring.putByte byte).read len =
      ((ring.read len).1, (ring.read len).2.1, (ring.read len).2.2.putByte byte) := by
  induction len generalizing ring with
  | zero => rfl
  | succ len ih =>
      have some : 0 < ring.avail := by omega
      have apart := inside.apart_of_avail some
      have grown := putByte_avail ring inside byte room
      have shrunk := takeByte_avail ring inside some
      have apartAfter : (ring.putByte byte).head ≠ (ring.putByte byte).tail := by
        apply (putByte_inRange ring inside byte).apart_of_avail
        omega
      have rest := ih ring.takeByte.2 (takeByte_inRange ring inside) (by omega) (by omega)
      simp only [read, apart, apartAfter, ne_eq, not_false_eq_true, ↓reduceIte,
        takeByte_putByte ring inside byte apart, rest]

/-- So may a whole write loop, by induction on its bytes. -/
theorem read_write (ring : ByteRing) (bytes : List UInt8) (len : Nat) (inside : ring.InRange)
    (room : ring.avail + bytes.length < scpiBufMax) (enough : len ≤ ring.avail) :
    (ring.write bytes).2.read len =
      ((ring.read len).1, (ring.read len).2.1, ((ring.read len).2.2.write bytes).2) := by
  induction bytes generalizing ring with
  | nil => rfl
  | cons byte rest ih =>
      rw [List.length_cons] at room
      have grown := putByte_avail ring inside byte (by omega)
      have first := read_putByte ring byte len inside (by omega) enough
      show ((ring.putByte byte).write rest).2.read len = _
      rw [ih _ (putByte_inRange ring inside byte) (by omega) (by omega), first]
      rfl

/-- The count of a write loop is that of its bytes, wherever it starts. -/
theorem write_count (ring : ByteRing) (bytes : List UInt8) :
    (ring.write bytes).1 = bytes.length := by
  induction bytes generalizing ring with
  | nil => rfl
  | cons byte rest ih => exact congrArg (· + 1) (ih (ring.putByte byte))

end ByteRing

/-- Nothing that fits into a ring with what is in it, and nothing that is in it,
depends on whether it is written or read first. -/
theorem reads_and_writes_commute (a : Adapter) (reached : a.Reachable) (w : List UInt8)
    (len : Nat) :
    (a.rx.unread.length + w.length ≤ 1023 → len ≤ a.rx.unread.length →
        Machine.Commute rxCall a.gScpiMsg (.read len) (.write w)) ∧
      (a.tx.unread.length + w.length ≤ 1023 → len ≤ a.tx.unread.length →
        Machine.Commute txCall a.gScpiMsg (.read len) (.write w)) := by
  have inside := reached.inRange
  have bufMax : scpiBufMax = 1024 := rfl
  rw [ByteRing.unread_length, ByteRing.unread_length]
  constructor
  · intro room enough
    have same := ByteRing.read_write a.rx w len inside.rx (by omega) enough
    refine ⟨?_, ?_, ?_⟩
    · simp only [rxCall, scpiMsgRxRead, scpiMsgRxWrite, same]
    · simp only [rxCall, scpiMsgRxRead, scpiMsgRxWrite, ByteRing.write_count]
    · simp only [rxCall, scpiMsgRxRead, scpiMsgRxWrite, same]
  · intro room enough
    have same := ByteRing.read_write a.tx w len inside.tx (by omega) enough
    refine ⟨?_, ?_, ?_⟩
    · simp only [txCall, scpiMsgTxRead, scpiMsgTxWrite, same]
    · simp only [txCall, scpiMsgTxRead, scpiMsgTxWrite, ByteRing.write_count]
    · simp only [txCall, scpiMsgTxRead, scpiMsgTxWrite, same]

/-- The byte of each ring may be read before or after another is written. -/
theorem oneByteQueued_commutes :
    Machine.Commute rxCall oneByteQueued.gScpiMsg (.read 1) (.write [7]) ∧
      Machine.Commute txCall oneByteQueued.gScpiMsg (.read 1) (.write [7]) := by
  have both := reads_and_writes_commute oneByteQueued oneByteQueued_reachable [7] 1
  exact ⟨both.1 (by decide) (by decide), both.2 (by decide) (by decide)⟩

end ScpiVxiTmc
