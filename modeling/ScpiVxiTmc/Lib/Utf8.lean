set_option autoImplicit false

/- UTF-8 for code points of at most three bytes. A byte behind the lead holds six
bits over a marker, and the marker is a parameter. -/
namespace Utf8

/-- A sequence from its lead on: the code point, and what follows it. No form need
be the shortest, and surrogates are left out. -/
inductive Takes (marker : Nat) : UInt8 → List UInt8 → Nat → List UInt8 → Prop
  | one {byte : UInt8} {rest : List UInt8} (plain : byte.toNat < 128) :
      Takes marker byte rest byte.toNat rest
  | two {lead last : UInt8} {high low : Nat} {rest : List UInt8}
      (leads : lead.toNat = 192 + high) (highBits : high < 32)
      (ends : last.toNat = marker + low) (lowBits : low < 64) :
      Takes marker lead (last :: rest) (64 * high + low) rest
  | three {lead next last : UInt8} {high middle low : Nat} {rest : List UInt8}
      (leads : lead.toNat = 224 + high) (highBits : high < 16)
      (goesOn : next.toNat = marker + middle) (middleBits : middle < 64)
      (ends : last.toNat = marker + low) (lowBits : low < 64)
      (scalar : ¬ (0xd800 ≤ 4096 * high + 64 * middle + low ∧
        4096 * high + 64 * middle + low ≤ 0xdfff)) :
      Takes marker lead (next :: last :: rest) (4096 * high + 64 * middle + low) rest

/-- Bytes and the code points that they stand for. -/
inductive Encodes (marker : Nat) : List UInt8 → List Nat → Prop
  | nil : Encodes marker [] []
  | cons {lead : UInt8} {tail rest : List UInt8} {point : Nat} {points : List Nat}
      (first : Takes marker lead tail point rest) (later : Encodes marker rest points) :
      Encodes marker (lead :: tail) (point :: points)

def WellFormed (marker : Nat) (bytes : List UInt8) : Prop :=
  ∃ points, Encodes marker bytes points

/-- Bytes that each are a code point of their own. -/
def Plain (bytes : List UInt8) : Prop := ∀ byte ∈ bytes, byte.toNat < 128

/-- The UTF-16 of code points below 2^16, low bytes first. -/
def utf16le (points : List Nat) : List UInt8 :=
  points.flatMap fun point => [UInt8.ofNat point, UInt8.ofNat (point / 256)]

section
variable {marker point : Nat} {lead : UInt8} {tail rest bytes : List UInt8} {points : List Nat}

theorem Takes.append (takes : Takes marker lead tail point rest) (more : List UInt8) :
    Takes marker lead (tail ++ more) point (rest ++ more) := by
  cases takes with
  | one plain => exact .one plain
  | two leads highBits ends lowBits => exact .two leads highBits ends lowBits
  | three leads highBits goesOn middleBits ends lowBits scalar =>
      exact .three leads highBits goesOn middleBits ends lowBits scalar

/-- With a marker a sequence does not reach over a zero byte. -/
theorem Takes.of_append_zero (takes : Takes marker lead (tail ++ 0 :: bytes) point rest)
    (marked : 0 < marker) :
    ∃ between, rest = between ++ 0 :: bytes ∧ Takes marker lead tail point between := by
  generalize whole : tail ++ 0 :: bytes = memory at takes
  have nonzero {byte : UInt8} {low : Nat} (holds : byte.toNat = marker + low) : byte ≠ 0 := by
    intro zero
    rw [zero] at holds
    have none : (0 : UInt8).toNat = 0 := rfl
    omega
  cases takes with
  | one plain => exact ⟨tail, whole.symm, .one plain⟩
  | two leads highBits ends lowBits =>
      cases tail with
      | nil => exact absurd (List.cons.inj whole).1.symm (nonzero ends)
      | cons last between =>
          rcases List.cons.inj whole with ⟨rfl, rfl⟩
          exact ⟨between, rfl, .two leads highBits ends lowBits⟩
  | three leads highBits goesOn middleBits ends lowBits scalar =>
      cases tail with
      | nil => exact absurd (List.cons.inj whole).1.symm (nonzero goesOn)
      | cons next tail =>
          rcases List.cons.inj whole with ⟨rfl, behind⟩
          cases tail with
          | nil => exact absurd (List.cons.inj behind).1.symm (nonzero ends)
          | cons last between =>
              rcases List.cons.inj behind with ⟨rfl, rfl⟩
              exact ⟨between, rfl, .three leads highBits goesOn middleBits ends lowBits scalar⟩

theorem Takes.suffix (takes : Takes marker lead tail point rest) : rest <:+ tail := by
  cases takes with
  | one plain => exact List.suffix_refl _
  | two leads => exact List.suffix_cons _ _
  | three leads => exact (List.suffix_cons _ rest).trans (List.suffix_cons _ _)

theorem Takes.point_lt (takes : Takes marker lead tail point rest) : point < 65536 := by
  cases takes with
  | one plain => omega
  | two => omega
  | three => omega

/-- A lead byte below 128 stands for itself. -/
theorem Takes.of_plain (takes : Takes marker lead tail point rest) (plain : lead.toNat < 128) :
    point = lead.toNat ∧ rest = tail := by
  cases takes with
  | one => exact ⟨rfl, rfl⟩
  | two leads => omega
  | three leads => omega

/-- Sequences with different markers agree on nothing but plain bytes. -/
theorem Takes.plain_of_both {other point' : Nat} {rest' : List UInt8}
    (apart : marker + 64 ≤ other) (takes : Takes marker lead tail point rest)
    (also : Takes other lead tail point' rest') : lead.toNat < 128 := by
  cases takes with
  | one plain => exact plain
  | two =>
      cases also with
      | one plain => exact plain
      | two => omega
      | three leads => omega
  | three =>
      cases also with
      | one plain => exact plain
      | two leads => omega
      | three => omega

theorem encodes_of_plain (marker : Nat) (plain : Plain bytes) :
    Encodes marker bytes (bytes.map UInt8.toNat) := by
  induction bytes with
  | nil => exact .nil
  | cons byte rest ih =>
      have both := List.forall_mem_cons.mp plain
      exact .cons (.one both.1) (ih both.2)

theorem Encodes.points_of_plain (encodes : Encodes marker bytes points) (plain : Plain bytes) :
    points = bytes.map UInt8.toNat := by
  induction encodes with
  | nil => rfl
  | cons first _ ih =>
      have both := List.forall_mem_cons.mp plain
      rcases first.of_plain both.1 with ⟨rfl, rfl⟩
      rw [ih both.2, List.map_cons]

/-- Only plain bytes are well formed with two markers: the first longer sequence
tells them apart. -/
theorem Encodes.plain_of_both {other : Nat} {others : List Nat} (apart : marker + 64 ≤ other)
    (encodes : Encodes marker bytes points) (also : Encodes other bytes others) : Plain bytes := by
  induction encodes generalizing others with
  | nil =>
      intro byte member
      cases member
  | cons first _ ih =>
      cases also with
      | cons firstToo later =>
          have plain := first.plain_of_both apart firstToo
          rcases first.of_plain plain with ⟨rfl, rfl⟩
          rcases firstToo.of_plain plain with ⟨rfl, rfl⟩
          exact List.forall_mem_cons.mpr ⟨plain, ih later⟩

theorem Encodes.length_le (encodes : Encodes marker bytes points) :
    points.length ≤ bytes.length := by
  induction encodes with
  | nil => exact Nat.le_refl 0
  | cons first _ ih => exact Nat.succ_le_succ (Nat.le_trans ih first.suffix.length_le)

theorem Encodes.point_lt (encodes : Encodes marker bytes points) :
    ∀ point ∈ points, point < 65536 := by
  induction encodes with
  | nil =>
      intro point member
      cases member
  | cons first _ ih => exact List.forall_mem_cons.mpr ⟨first.point_lt, ih⟩

end

end Utf8
