set_option autoImplicit false

/- Streams sent in packets of a fixed size, of which only the last may be shorter. -/
namespace Packets

variable {α : Type} {size : Nat}

/-- `packets` carry `stream`: together they are it, and all but the last are full. -/
structure Carry (size : Nat) (stream : List α) (packets : List (List α)) : Prop where
  content : packets.flatten = stream
  bounded : ∀ packet ∈ packets, packet.length ≤ size
  full : ∀ packet ∈ packets.dropLast, packet.length = size

theorem Carry.nothing : Carry size ([] : List α) [] :=
  ⟨rfl, fun _ member => absurd member List.not_mem_nil,
    fun _ member => absurd member List.not_mem_nil⟩

theorem Carry.last {packet : List α} (short : packet.length ≤ size) :
    Carry size packet [packet] := by
  refine ⟨by simp only [List.flatten_cons, List.flatten_nil, List.append_nil], ?_,
    fun _ member => absurd member List.not_mem_nil⟩
  intro other member
  rw [List.mem_singleton.mp member]
  exact short

theorem Carry.cons {packet stream : List α} {packets : List (List α)}
    (whole : packet.length = size) (rest : Carry size stream packets) :
    Carry size (packet ++ stream) (packet :: packets) := by
  refine ⟨by rw [List.flatten_cons, rest.content], ?_, ?_⟩
  · intro other member
    cases List.mem_cons.mp member with
    | inl same => exact Nat.le_of_eq (same ▸ whole)
    | inr later => exact rest.bounded other later
  · intro other member
    cases packets with
    | nil => exact absurd member List.not_mem_nil
    | cons second others =>
        rw [List.dropLast_cons_of_ne_nil (List.cons_ne_nil _ _)] at member
        cases List.mem_cons.mp member with
        | inl same => exact same ▸ whole
        | inr later => exact rest.full other later

/-- A packet that starts with a header and is filled up from a queue. -/
theorem Carry.fill {header queue rest : List α} {packets : List (List α)} (count : Nat)
    (whole : header.length + count = size) (enough : count ≤ queue.length)
    (others : Carry size (queue.drop count ++ rest) packets) :
    Carry size (header ++ (queue ++ rest)) ((header ++ queue.take count) :: packets) := by
  have filled : (header ++ queue.take count).length = size := by
    rw [List.length_append, List.length_take, Nat.min_eq_left enough, whole]
  have carry := Carry.cons filled others
  rw [List.append_assoc, ← List.append_assoc (queue.take count), List.take_append_drop] at carry
  exact carry

/-- A unit that divides both the packet size and the stream divides each packet. -/
theorem Carry.dvd {unit : Nat} {stream : List α} {packets : List (List α)}
    (carry : Carry size stream packets) (units : unit ∣ size) (total : unit ∣ stream.length) :
    ∀ packet ∈ packets, unit ∣ packet.length := by
  induction packets generalizing stream with
  | nil => exact fun _ member => absurd member List.not_mem_nil
  | cons first others ih =>
      have content := carry.content
      rw [List.flatten_cons] at content
      intro packet member
      cases others with
      | nil =>
          rw [List.mem_singleton.mp member]
          rw [List.flatten_nil, List.append_nil] at content
          exact content ▸ total
      | cons second rest =>
          rw [← content, List.length_append] at total
          have firstFull : first.length = size := carry.full first List.mem_cons_self
          have restTotal := (Nat.dvd_add_right (firstFull ▸ units)).mp total
          have restCarry : Carry size (second :: rest).flatten (second :: rest) := by
            refine ⟨rfl, fun other later => carry.bounded other (List.mem_cons_of_mem _ later), ?_⟩
            intro other later
            apply carry.full other
            rw [List.dropLast_cons_of_ne_nil (List.cons_ne_nil _ _)]
            exact List.mem_cons_of_mem _ later
          cases List.mem_cons.mp member with
          | inl same => exact same ▸ firstFull ▸ units
          | inr later => exact ih restCarry restTotal packet later

end Packets
