import Mathlib.Algebra.Group.Nat.Defs
import ScpiVxiTmc.Lib.Utf8
import ScpiVxiTmc.Usb.StringReplies

set_option autoImplicit false

/- The text of a string descriptor against the UTF-8 of the string. The code asks
for continuation bytes 11xxxxxx where UTF-8 has 10xxxxxx. -/
namespace ScpiVxiTmc

theorem forall_byte {P : UInt8 → Prop} (all : ∀ n : Fin 256, P (UInt8.ofNat n)) (c : UInt8) :
    P c := by
  have bound := all ⟨c.toNat, c.toNat_lt⟩
  rwa [UInt8.ofNat_toNat] at bound

set_option maxRecDepth 4096 in
theorem plain_iff (c : UInt8) : c &&& 0x80 = 0 ↔ c.toNat < 128 := by
  revert c
  exact forall_byte (by decide)

set_option maxRecDepth 4096 in
theorem leadsTwo_iff (c : UInt8) : c &&& 0xe0 = 0xc0 ↔ 192 ≤ c.toNat ∧ c.toNat < 224 := by
  revert c
  exact forall_byte (by decide)

set_option maxRecDepth 4096 in
theorem leadsThree_iff (c : UInt8) : c &&& 0xf0 = 0xe0 ↔ 224 ≤ c.toNat ∧ c.toNat < 240 := by
  revert c
  exact forall_byte (by decide)

set_option maxRecDepth 4096 in
theorem marked_iff (c : UInt8) : c &&& 0xc0 = 0xc0 ↔ 192 ≤ c.toNat := by
  revert c
  exact forall_byte (by decide)

theorem lowBits_toNat (c : UInt8) {mask : UInt8} {k : Nat} (ones : mask.toNat = 2 ^ k - 1) :
    (c &&& mask).toUInt16.toNat = c.toNat % 2 ^ k := by
  rw [UInt8.toNat_toUInt16, UInt8.toNat_and, ones, Nat.and_two_pow_sub_one_eq_mod]

theorem shiftLeft_toNat (a : UInt16) {amount : UInt16} {k : Nat} (places : amount.toNat = k)
    (within : k < 16) (fits : a.toNat * 2 ^ k < 65536) :
    (a <<< amount).toNat = a.toNat * 2 ^ k := by
  rw [UInt16.toNat_shiftLeft, places, Nat.mod_eq_of_lt within, Nat.shiftLeft_eq,
    Nat.mod_eq_of_lt fits]

/-- Bits below all others are added by an or. -/
theorem or_toNat {a b : UInt16} {k n : Nat} (aligned : a.toNat = 2 ^ k * n)
    (small : b.toNat < 2 ^ k) : (a ||| b).toNat = a.toNat + b.toNat := by
  rw [UInt16.toNat_or, aligned, Nat.two_pow_add_eq_or_of_lt small]

theorem unit_toNat {point : Nat} (small : point < 65536) : (UInt16.ofNat point).toNat = point :=
  UInt16.toNat_ofNat_of_lt' small

theorem continuation_eq_some {s rest : List UInt8} {bits : UInt16} :
    continuation s = some (some (bits, rest)) ↔
      ∃ byte, s = byte :: rest ∧ byte.toNat = 192 + bits.toNat ∧ bits.toNat < 64 := by
  have low (c : UInt8) : (c &&& 0x3f).toUInt16.toNat = c.toNat % 64 := lowBits_toNat c (k := 6) rfl
  constructor
  · intro found
    cases s with
    | nil => cases found
    | cons c s =>
        rw [continuation, Option.some.injEq] at found
        split at found
        · cases found
        · rename_i marked
          have high := (marked_iff c).mp (Decidable.not_not.mp marked)
          have byte := c.toNat_lt
          rw [Option.some.injEq, Prod.mk.injEq] at found
          rcases found with ⟨rfl, rfl⟩
          rw [low]
          exact ⟨c, rfl, by omega, by omega⟩
  · rintro ⟨c, rfl, marks, small⟩
    have marked := (marked_iff c).mpr (by omega)
    have same : (c &&& 0x3f).toUInt16 = bits := by
      apply UInt16.toNat_inj.mp
      rw [low]
      omega
    rw [continuation, if_neg (not_not.mpr marked), same]

/-- The unit of a sequence of two bytes. -/
theorem twoBytes_toNat (c : UInt8) {bits : UInt16} (small : bits.toNat < 64) :
    ((c &&& 0x1f).toUInt16 <<< 6 ||| bits).toNat = 64 * (c.toNat % 32) + bits.toNat := by
  have high : (c &&& 0x1f).toUInt16.toNat = c.toNat % 32 := lowBits_toNat c (k := 5) rfl
  have shifted : ((c &&& 0x1f).toUInt16 <<< 6).toNat = 2 ^ 6 * (c.toNat % 32) := by
    rw [shiftLeft_toNat _ (k := 6) rfl (by decide) (by rw [high]; omega), high, Nat.mul_comm]
  have joined := or_toNat shifted small
  omega

/-- The unit of a sequence of three. -/
theorem threeBytes_toNat (c : UInt8) {bits lastBits : UInt16} (small : bits.toNat < 64)
    (lastSmall : lastBits.toNat < 64) :
    ((c &&& 0x0f).toUInt16 <<< 12 ||| bits <<< 6 ||| lastBits).toNat =
      4096 * (c.toNat % 16) + 64 * bits.toNat + lastBits.toNat := by
  have high : (c &&& 0x0f).toUInt16.toNat = c.toNat % 16 := lowBits_toNat c (k := 4) rfl
  have shifted : ((c &&& 0x0f).toUInt16 <<< 12).toNat = 2 ^ 12 * (c.toNat % 16) := by
    rw [shiftLeft_toNat _ (k := 12) rfl (by decide) (by rw [high]; omega), high, Nat.mul_comm]
  have middle : (bits <<< 6).toNat = bits.toNat * 2 ^ 6 :=
    shiftLeft_toNat bits (k := 6) rfl (by decide) (by omega)
  have both : ((c &&& 0x0f).toUInt16 <<< 12 ||| bits <<< 6).toNat =
      2 ^ 6 * (64 * (c.toNat % 16) + bits.toNat) := by
    rw [or_toNat shifted (by omega), shifted, middle]
    omega
  rw [or_toNat both lastSmall, both]
  omega

/-- A marked byte goes on with its low bits. -/
theorem continuation_of_marked {byte : UInt8} {low : Nat} (rest : List UInt8)
    (ends : byte.toNat = 192 + low) (lowBits : low < 64) :
    continuation (byte :: rest) = some (some (UInt16.ofNat low, rest)) := by
  have bits : (UInt16.ofNat low).toNat = low := unit_toNat (by omega)
  exact continuation_eq_some.mpr ⟨byte, rfl, by omega, by omega⟩

theorem utf8Uchar_of_two {lead last : UInt8} {high low : Nat} (rest : List UInt8)
    (leads : lead.toNat = 192 + high) (highBits : high < 32) (ends : last.toNat = 192 + low)
    (lowBits : low < 64) :
    utf8Uchar lead (last :: rest) = some (some (UInt16.ofNat (64 * high + low), rest)) := by
  have notPlain : lead &&& 0x80 ≠ 0 := by
    intro plain
    have small := (plain_iff lead).mp plain
    omega
  have two := (leadsTwo_iff lead).mpr (by omega)
  have bits : (UInt16.ofNat low).toNat = low := unit_toNat (by omega)
  have same : (lead &&& 0x1f).toUInt16 <<< 6 ||| UInt16.ofNat low =
      UInt16.ofNat (64 * high + low) := by
    apply UInt16.toNat_inj.mp
    rw [twoBytes_toNat lead (by omega), bits, unit_toNat (by omega)]
    omega
  rw [utf8Uchar, if_pos notPlain, if_pos two, continuation_of_marked rest ends lowBits, ← same]
  rfl

theorem utf8Uchar_of_three {lead next last : UInt8} {high middle low : Nat} (rest : List UInt8)
    (leads : lead.toNat = 224 + high) (highBits : high < 16) (goesOn : next.toNat = 192 + middle)
    (middleBits : middle < 64) (ends : last.toNat = 192 + low) (lowBits : low < 64)
    (scalar : ¬ (0xd800 ≤ 4096 * high + 64 * middle + low ∧
      4096 * high + 64 * middle + low ≤ 0xdfff)) :
    utf8Uchar lead (next :: last :: rest) =
      some (some (UInt16.ofNat (4096 * high + 64 * middle + low), rest)) := by
  have notPlain : lead &&& 0x80 ≠ 0 := by
    intro plain
    have small := (plain_iff lead).mp plain
    omega
  have notTwo : ¬ lead &&& 0xe0 = 0xc0 := by
    intro two
    have small := (leadsTwo_iff lead).mp two
    omega
  have three := (leadsThree_iff lead).mpr (by omega)
  have bits : (UInt16.ofNat middle).toNat = middle := unit_toNat (by omega)
  have lastBits : (UInt16.ofNat low).toNat = low := unit_toNat (by omega)
  have unit : (UInt16.ofNat (4096 * high + 64 * middle + low)).toNat =
      4096 * high + 64 * middle + low := unit_toNat (by omega)
  have same : (lead &&& 0x0f).toUInt16 <<< 12 ||| UInt16.ofNat middle <<< 6 |||
      UInt16.ofNat low = UInt16.ofNat (4096 * high + 64 * middle + low) := by
    apply UInt16.toNat_inj.mp
    rw [threeBytes_toNat lead (by omega) (by omega), bits, lastBits, unit]
    omega
  have noSurrogate : ¬ (0xd800 ≤ UInt16.ofNat (4096 * high + 64 * middle + low) ∧
      UInt16.ofNat (4096 * high + 64 * middle + low) ≤ 0xdfff) := by
    rw [UInt16.le_iff_toNat_le, UInt16.le_iff_toNat_le, unit]
    exact scalar
  rw [utf8Uchar, if_pos notPlain, if_neg notTwo, if_pos three,
    continuation_of_marked (last :: rest) goesOn middleBits, Option.bind_some]
  simp only [continuation_of_marked rest ends lowBits, Option.map_some, Option.bind_some, same,
    noSurrogate, ↓reduceIte]

/-- A round takes every sequence of UTF-8 with the wrong marker. -/
theorem utf8Uchar_of_takes {lead : UInt8} {tail rest : List UInt8} {point : Nat}
    (takes : Utf8.Takes 192 lead tail point rest) :
    utf8Uchar lead tail = some (some (UInt16.ofNat point, rest)) := by
  cases takes with
  | one plain =>
      have same : lead.toUInt16 = UInt16.ofNat lead.toNat := by
        apply UInt16.toNat_inj.mp
        rw [UInt8.toNat_toUInt16, unit_toNat (by omega)]
      rw [utf8Uchar, if_neg (not_not.mpr ((plain_iff lead).mpr plain)), same]
  | two leads highBits ends lowBits => exact utf8Uchar_of_two rest leads highBits ends lowBits
  | three leads highBits goesOn middleBits ends lowBits scalar =>
      exact utf8Uchar_of_three rest leads highBits goesOn middleBits ends lowBits scalar

/-- It takes nothing else. -/
theorem takes_of_utf8Uchar {c : UInt8} {s rest : List UInt8} {uchar : UInt16}
    (found : utf8Uchar c s = some (some (uchar, rest))) :
    Utf8.Takes 192 c s uchar.toNat rest := by
  have byte := c.toNat_lt
  unfold utf8Uchar at found
  split at found
  · split at found
    · -- two bytes
      rename_i two
      rcases Option.map_eq_some_iff.mp found with ⟨second, next, same⟩
      rcases Option.map_eq_some_iff.mp same with ⟨⟨bits, after⟩, rfl, unit⟩
      rcases continuation_eq_some.mp next with ⟨last, rfl, ends, small⟩
      cases unit
      have leads := (leadsTwo_iff c).mp two
      rw [twoBytes_toNat c small]
      exact .two (by omega) (Nat.mod_lt _ (by decide)) ends small
    · split at found
      · -- three bytes
        rename_i three
        rcases Option.bind_eq_some_iff.mp found with ⟨second, next, found⟩
        cases second with
        | none => cases found
        | some pair =>
            rcases Option.map_eq_some_iff.mp found with ⟨third, last, same⟩
            rcases Option.bind_eq_some_iff.mp same with ⟨lastPair, rfl, unit⟩
            rcases continuation_eq_some.mp next with ⟨nextByte, rfl, goesOn, small⟩
            rcases continuation_eq_some.mp last with ⟨lastByte, split, ends, lastSmall⟩
            have leads := (leadsThree_iff c).mp three
            dsimp only at unit
            split at unit
            · cases unit
            · rename_i scalar
              cases unit
              rw [UInt16.le_iff_toNat_le, UInt16.le_iff_toNat_le,
                threeBytes_toNat c small lastSmall] at scalar
              rw [split, threeBytes_toNat c small lastSmall]
              exact .three (by omega) (Nat.mod_lt _ (by decide)) goesOn small ends lastSmall scalar
      · cases found
  · -- one byte
    rename_i plain
    cases found
    rw [UInt8.toNat_toUInt16]
    exact .one ((plain_iff c).mp (Decidable.not_not.mp plain))

/-- What is well formed for the code comes out as UTF-16, to its end. -/
theorem utf8ToUtf16le_of_encodes {text : List UInt8} {points : List Nat}
    (encodes : Utf8.Encodes 192 text points) (free : 0 ∉ text) (behind : List UInt8) {len : Nat}
    (enough : text.length ≤ len) :
    utf8ToUtf16le (text ++ 0 :: behind) len =
      some ((points.length : Int), points.map UInt16.ofNat) := by
  induction encodes generalizing len with
  | nil =>
      cases len with
      | zero => rfl
      | succ len => rfl
  | @cons lead tail rest point points first later ih =>
      cases len with
      | zero => cases enough
      | succ len =>
          have parts := List.mem_cons.not.mp free
          rw [not_or] at parts
          have shorter := first.suffix.length_le
          rw [List.length_cons] at enough
          have taken := utf8Uchar_of_takes (first.append (0 :: behind))
          have converted : utf8ToUtf16le (rest ++ 0 :: behind) len = _ :=
            ih (fun member => parts.2 (first.suffix.subset member)) (by omega)
          have counted : ¬ ((points.length : Int) < 0) := by omega
          simp only [List.cons_append, utf8ToUtf16le, Ne.symm parts.1, ↓reduceIte, taken,
            Option.bind_some, converted, Option.map_some, counted, List.map_cons, List.length_cons]
          rfl

/-- Nothing else is converted. -/
theorem wellFormed_of_utf8ToUtf16le {text behind : List UInt8} {len : Nat} {count : Int}
    {units : List UInt16} (free : 0 ∉ text) (enough : text.length ≤ len)
    (converted : utf8ToUtf16le (text ++ 0 :: behind) len = some (count, units))
    (succeeds : 0 ≤ count) : Utf8.WellFormed 192 text := by
  induction len generalizing text count units with
  | zero => exact ⟨[], List.eq_nil_of_length_eq_zero (Nat.le_zero.mp enough) ▸ .nil⟩
  | succ len ih =>
      cases text with
      | nil => exact ⟨[], .nil⟩
      | cons lead tail =>
          have parts := List.mem_cons.not.mp free
          rw [not_or] at parts
          simp only [List.cons_append, utf8ToUtf16le, Ne.symm parts.1, ↓reduceIte] at converted
          rcases Option.bind_eq_some_iff.mp converted with ⟨outcome, found, converted⟩
          cases outcome with
          | none =>
              cases converted
              cases succeeds
          | some pair =>
              rcases Option.map_eq_some_iff.mp converted with ⟨later, rest, same⟩
              rcases (takes_of_utf8Uchar found).of_append_zero (by decide) with
                ⟨between, split, takes⟩
              have laterSucceeds : 0 ≤ later.1 := by
                have counts := congrArg Prod.fst same
                dsimp only at counts
                split at counts
                · omega
                · omega
              rw [split] at rest
              have shorter := takes.suffix.length_le
              rw [List.length_cons] at enough
              rcases ih (fun member => parts.2 (takes.suffix.subset member)) (by omega) rest
                laterSucceeds with ⟨points, encodes⟩
              exact ⟨_, .cons takes encodes⟩

theorem le16Bytes_ofNat {point : Nat} (small : point < 65536) :
    le16Bytes (UInt16.ofNat point) = [UInt8.ofNat point, UInt8.ofNat (point / 256)] := by
  have unit := unit_toNat small
  have low : (UInt16.ofNat point).toUInt8 = UInt8.ofNat point := by
    apply UInt8.toNat_inj.mp
    rw [UInt16.toNat_toUInt8, unit, UInt8.toNat_ofNat']
  have high : (UInt16.ofNat point >>> 8).toUInt8 = UInt8.ofNat (point / 256) := by
    apply UInt8.toNat_inj.mp
    rw [UInt16.toNat_toUInt8, UInt16.toNat_shiftRight, unit, Nat.shiftRight_eq_div_pow,
      UInt8.toNat_ofNat']
    rfl
  rw [le16Bytes, low, high]

/-- The units of the code points, as the descriptor holds them. -/
theorem flatMap_le16Bytes {points : List Nat} (small : ∀ point ∈ points, point < 65536) :
    (points.map UInt16.ofNat).flatMap le16Bytes = Utf8.utf16le points := by
  induction points with
  | nil => rfl
  | cons point rest ih =>
      have both := List.forall_mem_cons.mp small
      rw [List.map_cons, List.flatMap_cons, le16Bytes_ofNat both.1, ih both.2]
      rfl

/-- The string that a search for the id comes to first. -/
def UsbGadgetStrings.Lists (table : UsbGadgetStrings) (id : Nat) (s : CText) : Prop :=
  ∃ front entry back, table.strings = some (front ++ entry :: back) ∧
    entry.id.toNat = id ∧ entry.s = some s ∧
    ∀ earlier ∈ front, earlier.s ≠ none ∧ earlier.id.toNat ≠ id

theorem findString_append {id : Nat} {front : List UsbString}
    (others : ∀ earlier ∈ front, earlier.s ≠ none ∧ earlier.id.toNat ≠ id)
    (rest : List UsbString) : findString id (front ++ rest) = findString id rest := by
  induction front with
  | nil => rfl
  | cons entry front ih =>
      have both := List.forall_mem_cons.mp others
      rw [List.cons_append, findString, ih both.2]
      cases text : entry.s with
      | none => exact absurd text both.1.1
      | some s => exact if_neg both.1.2

section
variable {τ : Type} [DecidableEq τ] {setup : UsbCtrlrequest} {table : UsbGadgetStrings}
  {s : CText} (gadget : Gadget τ) (env : ControlEnv τ) (asks : setup.AsksString)
  (language : setup.wIndex = table.language) (fromTable : setup.stringId ≠ 0)
  (listed : table.Lists setup.stringId s)
include asks language fromTable listed

/-- A string of the table is answered from its descriptor alone. -/
theorem handleControl_listed : handleControl setup gadget table env =
    (stringDescriptor s env.buf).map (replyString setup gadget) := by
  rcases listed with ⟨front, entry, back, entries, same, text, others⟩
  have found : findString setup.stringId (front ++ entry :: back) = some (some s) := by
    rw [findString_append others, findString, text]
    exact if_pos same
  rw [handleControl_string gadget asks table env, if_neg (fun other => other.2 language),
    usbGadgetGetString, if_neg fromTable, entries]
  simp only [found, Option.bind_some]

variable (short : s.text.length ≤ 126)
include short

/-- What the code finds well formed is sent as it finds it. -/
theorem handleControl_of_encodes {points : List Nat} (encodes : Utf8.Encodes 192 s.text points) :
    handleControl setup gadget table env =
      some (answer gadget ((descriptorOf (points.map UInt16.ofNat)).take
        (min setup.wLength.toNat (descriptorOf (points.map UInt16.ofNat)).length))) := by
  rcases s.bytes_split with ⟨behind, split⟩
  have limit : unitLimit s = s.text.length := if_neg (by omega)
  have converts := utf8ToUtf16le_of_encodes encodes s.zero_not_mem_text behind (Nat.le_refl _)
  rcases stringDescriptor_replies s env.buf with ⟨count, units, converted, _, outcome⟩
  rw [limit, split, converts, Option.some.injEq, Prod.mk.injEq] at converted
  rcases converted with ⟨rfl, rfl⟩
  rcases outcome with ⟨negative, _⟩ | ⟨_, done, replied, front⟩
  · omega
  · rw [handleControl_listed gadget env asks language fromTable listed, replied, Option.map_some,
      replyString_of_front gadget done _ front]

/-- Everything else stalls. -/
theorem handleControl_of_malformed (malformed : ¬ Utf8.WellFormed 192 s.text) :
    handleControl setup gadget table env = some (stall setup gadget) := by
  rcases s.bytes_split with ⟨behind, split⟩
  have limit : unitLimit s = s.text.length := if_neg (by omega)
  rcases stringDescriptor_replies s env.buf with ⟨count, units, converted, _, outcome⟩
  rw [limit, split] at converted
  rcases outcome with ⟨_, done, refused⟩ | ⟨exact, _⟩
  · rw [handleControl_listed gadget env asks language fromTable listed, refused]
    rfl
  · exact absurd (wellFormed_of_utf8ToUtf16le s.zero_not_mem_text (Nat.le_refl _) converted
      (by omega)) malformed

end

/-- The request is answered if the string is UTF-8, and then with its code points. -/
structure CarriesText {τ : Type} (setup : UsbCtrlrequest) (gadget : Gadget τ) (s : CText)
    (run : ControlRun τ) : Prop where
  accepted : run.ended = .answered ↔ Utf8.WellFormed 128 s.text
  stalled : ¬ Utf8.WellFormed 128 s.text → run = stall setup gadget
  text : ∀ points, Utf8.Encodes 128 s.text points →
    ∃ reply, run.io = [.write reply] ∧ reply.drop 2 = Utf8.utf16le points

/-- Only strings without longer sequences are sent as they are, and only strings
that are malformed for the code and for UTF-8 are refused as they should be. -/
theorem carries_text_iff {τ : Type} [DecidableEq τ] (table : UsbGadgetStrings) (s : CText)
    (setup : UsbCtrlrequest) (gadget : Gadget τ) (env : ControlEnv τ) (asks : setup.AsksString)
    (language : setup.wIndex = table.language) (fromTable : setup.stringId ≠ 0)
    (listed : table.Lists setup.stringId s) (short : s.text.length ≤ 126)
    (room : ∀ points, Utf8.Encodes 128 s.text points →
      2 * (points.length + 1) ≤ setup.wLength.toNat) :
    ∃ run, handleControl setup gadget table env = some run ∧
      (CarriesText setup gadget s run ↔ Utf8.Plain s.text ∨
        ¬ Utf8.WellFormed 128 s.text ∧ ¬ Utf8.WellFormed 192 s.text) := by
  by_cases wellFormed : Utf8.WellFormed 192 s.text
  · rcases wellFormed with ⟨points, encodes⟩
    refine ⟨_, handleControl_of_encodes gadget env asks language fromTable listed short encodes,
      ?_⟩
    constructor
    · intro carries
      rcases carries.accepted.mp rfl with ⟨others, also⟩
      exact Or.inl (also.plain_of_both (by decide) encodes)
    · intro condition
      rcases condition with plain | ⟨_, malformed⟩
      · have utf8 : Utf8.WellFormed 128 s.text := ⟨_, Utf8.encodes_of_plain 128 plain⟩
        refine ⟨iff_of_true rfl utf8, fun other => absurd utf8 other, ?_⟩
        intro others also
        have same : others = points :=
          (also.points_of_plain plain).trans (encodes.points_of_plain plain).symm
        have fits : (descriptorOf (points.map UInt16.ofNat)).length ≤ setup.wLength.toNat := by
          rw [descriptorOf_length, List.length_map, ← same]
          exact room others also
        refine ⟨_, rfl, ?_⟩
        rw [Nat.min_eq_right fits, List.take_length, same, ← flatMap_le16Bytes encodes.point_lt]
        rfl
      · exact absurd ⟨points, encodes⟩ malformed
  · refine ⟨_, handleControl_of_malformed gadget env asks language fromTable listed short
      wellFormed, ?_⟩
    constructor
    · intro carries
      refine Or.inr ⟨?_, wellFormed⟩
      intro utf8
      cases carries.accepted.mpr utf8
    · intro condition
      rcases condition with plain | ⟨malformed, _⟩
      · exact absurd ⟨_, Utf8.encodes_of_plain 192 plain⟩ wellFormed
      · refine ⟨iff_of_false (fun answered => by cases answered) malformed, fun _ => rfl, ?_⟩
        intro points encodes
        exact absurd ⟨points, encodes⟩ malformed

theorem stringtab_lists_two : strings.Lists stringTwo.stringId
    (.literal [79, 83, 67, 73, 76, 76, 79, 83, 67, 79, 80, 69]) := by
  refine ⟨[⟨1, some (.literal [85, 78, 73, 45, 84])⟩], _, _, rfl, rfl, rfl, ?_⟩
  intro earlier member
  cases List.mem_singleton.mp member
  exact ⟨Option.some_ne_none _, by decide⟩

theorem stringTwo_carries_text :
    ∃ run, handleControl stringTwo idleGadget strings bareEnv = some run ∧
      (CarriesText stringTwo idleGadget
          (.literal [79, 83, 67, 73, 76, 76, 79, 83, 67, 79, 80, 69]) run ↔
        Utf8.Plain (CText.literal [79, 83, 67, 73, 76, 76, 79, 83, 67, 79, 80, 69]).text ∨
          ¬ Utf8.WellFormed 128
              (CText.literal [79, 83, 67, 73, 76, 76, 79, 83, 67, 79, 80, 69]).text ∧
            ¬ Utf8.WellFormed 192
              (CText.literal [79, 83, 67, 73, 76, 76, 79, 83, 67, 79, 80, 69]).text) :=
  carries_text_iff strings _ stringTwo idleGadget bareEnv ⟨rfl, rfl, rfl⟩ rfl (by decide)
    stringtab_lists_two (by decide) (fun points encodes => by
      have twelve : points.length ≤ 12 := encodes.length_le
      show 2 * (points.length + 1) ≤ 255
      omega)

/-- The UTF-8 of U+00E9, a letter e with an accent. -/
def eAcute : CText := .literal [0xc3, 0xa9]

/-- A table with this one string. -/
def accentedStrings : UsbGadgetStrings := ⟨0x0409, some [⟨2, some eAcute⟩]⟩

/-- It is well formed, and the device stalls. -/
theorem eAcute_stalled :
    ∃ run, handleControl stringTwo idleGadget accentedStrings bareEnv = some run ∧
      run.ended = .stalled ∧ Utf8.Encodes 128 eAcute.text [0xe9] ∧
      ¬ CarriesText stringTwo idleGadget eAcute run := by
  have text : eAcute.text = [0xc3, 0xa9] := rfl
  have encodes : Utf8.Encodes 128 eAcute.text [0xe9] := by
    have takes : Utf8.Takes 128 0xc3 [0xa9] (64 * 3 + 41) [] :=
      .two rfl (by decide) rfl (by decide)
    rw [text]
    exact .cons takes .nil
  have listed : accentedStrings.Lists stringTwo.stringId eAcute :=
    ⟨[], _, [], rfl, rfl, rfl, fun earlier member => absurd member List.not_mem_nil⟩
  have malformed : ¬ Utf8.WellFormed 192 eAcute.text := by
    rw [text]
    rintro ⟨points, encodes⟩
    cases encodes with
    | cons first later =>
        cases first with
        | one plain => exact absurd plain (by decide)
        | two leads highBits ends lowBits =>
            have last : (0xa9 : UInt8).toNat = 169 := rfl
            omega
  have stalls := handleControl_of_malformed idleGadget bareEnv ⟨rfl, rfl, rfl⟩ rfl (by decide)
    listed (by decide) malformed
  refine ⟨_, stalls, rfl, encodes, ?_⟩
  intro carries
  cases carries.accepted.mpr ⟨_, encodes⟩

end ScpiVxiTmc
