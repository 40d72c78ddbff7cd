import ScpiVxiTmc.Adapter.Messages

set_option autoImplicit false

/- A response from its writer to its readers, for both sources. -/
namespace ScpiVxiTmc

/-- Reads of these lengths hand out the rest of a response in order, each as much
as it asks for or is left, and the available length falls by what it delivers. -/
def HandsOut : List UInt8 → Adapter → List Nat → Prop
  | _, _, [] => True
  | rest, a, len :: lens =>
      let done := scpiMsgReponseRead a len
      (done.1.2 = rest.take len ∧
        scpiMsgReponseAvailLen done.2 = scpiMsgReponseAvailLen a - done.1.2.length) ∧
      HandsOut (rest.drop len) done.2 lens

/-- What is written is available, and then handed out to readers of any lengths. -/
def RoundTrips (a : Adapter) (buf : List UInt8) (msgsrc : Int) : Prop :=
  scpiMsgReponseAvailLen (scpiMsgReponseWrite a (some buf) msgsrc).2 = buf.length ∧
    ∀ lens : List Nat, (∀ len ∈ lens, 1 ≤ len) →
      HandsOut buf (scpiMsgReponseWrite a (some buf) msgsrc).2 lens

/-- Nothing reads a response from the caller's buffer. -/
theorem scpiMsgReponseRead_of_stream (a : Adapter) (len : Nat) (stream : a.gScpiMsg.msgsrc ≠ 0) :
    scpiMsgReponseRead a len = ((0, []), a) := by
  simp only [scpiMsgReponseRead, stream, ↓reduceIte]

theorem scpiMsgReponseWrite_msgsrc (a : Adapter) (buf : List UInt8) (msgsrc : Int) :
    (scpiMsgReponseWrite a (some buf) msgsrc).2.gScpiMsg.msgsrc = msgsrc := by
  simp only [scpiMsgReponseWrite]
  split
  · rfl
  · rfl

/-- The available length of the ring, read by read. -/
theorem scpiMsgReponseRead_avail (a : Adapter) (len : Nat) (ring : a.gScpiMsg.msgsrc = 0)
    (inside : a.tx.InRange) :
    scpiMsgReponseAvailLen (scpiMsgReponseRead a len).2 =
      scpiMsgReponseAvailLen a - (scpiMsgReponseRead a len).1.2.length := by
  have still : (a.withTx (a.tx.read len).2.2).gScpiMsg.msgsrc = 0 := ring
  rw [scpiMsgReponseRead_of_ring a len ring, scpiMsgReponseAvailLen_of_ring _ still,
    scpiMsgReponseAvailLen_of_ring a ring]
  show ((a.tx.read len).2.2.avail : Int) = a.tx.avail - (a.tx.read len).2.1.length
  rw [ByteRing.read_avail a.tx len inside, ByteRing.read_bytes a.tx len inside,
    List.length_take, ByteRing.unread_length]
  omega

/-- The ring hands out all that is in it. -/
theorem handsOut_of_ring (a : Adapter) (lens : List Nat) (ring : a.gScpiMsg.msgsrc = 0)
    (inside : a.tx.InRange) : HandsOut a.tx.unread a lens := by
  induction lens generalizing a with
  | nil => trivial
  | cons len lens ih =>
      have reads := scpiMsgReponseRead_of_ring a len ring
      refine ⟨⟨?_, scpiMsgReponseRead_avail a len ring inside⟩, ?_⟩
      · rw [reads]
        exact ByteRing.read_bytes a.tx len inside
      · rw [reads, ← ByteRing.read_unread a.tx len inside]
        exact ih (a.withTx (a.tx.read len).2.2) ring (ByteRing.read_inRange a.tx len inside)

theorem not_handsOut_of_stream (a : Adapter) (buf : List UInt8)
    (stream : a.gScpiMsg.msgsrc ≠ 0) (nonempty : 1 ≤ buf.length) : ¬ HandsOut buf a [1] := by
  intro ⟨⟨delivered, _⟩, _⟩
  rw [scpiMsgReponseRead_of_stream a 1 stream] at delivered
  have lengths := congrArg List.length delivered
  rw [List.length_take, List.length_nil] at lengths
  omega

/-- The ring announces the length of a response only if nothing is left in it. -/
theorem ring_announces_iff (a : Adapter) (buf : List UInt8) (inside : a.tx.InRange)
    (fits : buf.length ≤ 1023) :
    scpiMsgReponseAvailLen (scpiMsgReponseWrite a (some buf) 0).2 = buf.length ↔
      a.tx.unread = [] := by
  have bound : a.tx.avail < 1024 := inside.avail_lt
  have counted : (a.tx.write buf).2.avail = (a.tx.avail + buf.length) % 1024 :=
    ByteRing.write_avail a.tx buf inside
  rw [scpiMsgReponseAvailLen_of_ring _ (scpiMsgReponseWrite_msgsrc a buf 0),
    scpiMsgReponseWrite_ring, ← List.length_eq_zero_iff, ByteRing.unread_length]
  show ((a.tx.write buf).2.avail : Int) = buf.length ↔ _
  omega

/-- Into an empty ring a response goes as it is. -/
theorem write_unread_of_empty (ring : ByteRing) (buf : List UInt8) (inside : ring.InRange)
    (empty : ring.unread = []) (fits : buf.length ≤ 1023) :
    (ring.write buf).2.unread = buf := by
  have drained : ring.avail = 0 := by rw [← ByteRing.unread_length, empty, List.length_nil]
  have room : ring.avail + buf.length < 1024 := by omega
  rw [(ByteRing.write_unread_eq_append_iff ring buf inside).mpr room, empty, List.nil_append]

theorem roundTrips_ring_iff (a : Adapter) (buf : List UInt8) (inside : a.tx.InRange)
    (fits : buf.length ≤ 1023) : RoundTrips a buf 0 ↔ a.tx.unread = [] := by
  rw [RoundTrips, ring_announces_iff a buf inside fits]
  constructor
  · intro both
    exact both.1
  · intro empty
    refine ⟨empty, ?_⟩
    intro lens _
    rw [scpiMsgReponseWrite_ring]
    have handsOut := handsOut_of_ring
      { a with gScpiMsg := { a.gScpiMsg with msgsrc := 0, tx := (a.tx.write buf).2 } } lens rfl
      (ByteRing.write_inRange a.tx buf inside)
    rw [write_unread_of_empty a.tx buf inside empty fits] at handsOut
    exact handsOut

/-- A response survives the ring, and only behind an empty one. The other source
announces its length and is never read. -/
theorem response_round_trip_iff (a : Adapter) (buf : List UInt8) (msgsrc : Int)
    (reached : a.Reachable) (nonempty : 1 ≤ buf.length) (fits : buf.length ≤ 1023) :
    RoundTrips a buf msgsrc ↔ msgsrc = 0 ∧ a.tx.unread = [] := by
  by_cases ring : msgsrc = 0
  · rw [ring, roundTrips_ring_iff a buf reached.inRange.tx fits]
    exact (and_iff_right rfl).symm
  · refine iff_of_false ?_ (fun both => ring both.1)
    intro ⟨_, reads⟩
    have stream : (scpiMsgReponseWrite a (some buf) msgsrc).2.gScpiMsg.msgsrc ≠ 0 := by
      rw [scpiMsgReponseWrite_msgsrc]
      exact ring
    exact not_handsOut_of_stream _ buf stream nonempty (reads [1] (by decide))

theorem response_round_trip_init :
    RoundTrips .init [79, 75] 0 ↔ (0 : Int) = 0 ∧ Adapter.init.tx.unread = [] :=
  response_round_trip_iff .init [79, 75] 0 (Machine.Reachable.start _ _) (by decide) (by decide)

/-- One byte in the caller's buffer is announced and cannot be had. -/
theorem stream_response_lost :
    Adapter.init.Reachable ∧ Adapter.init.tx.unread = [] ∧ ¬ RoundTrips .init [42] 1 := by
  refine ⟨Machine.Reachable.start _ _, rfl, ?_⟩
  intro ⟨_, reads⟩
  exact not_handsOut_of_stream _ [42] (by decide) (by decide) (reads [1] (by decide))

end ScpiVxiTmc
