import ScpiVxiTmc.Lib.Xdr

set_option autoImplicit false

/- Laws of data representation routines. Each is a property of a routine that the
basic routines have and that another field keeps. -/
namespace Xdr

variable {α σ τ ρ : Type}

/-- What `w` puts on the wire, `r` takes off it as `received` says, whatever
follows, given memory for as many bytes as came. -/
def Conveys (host : Host) (w r : Routine σ τ) (received : σ → τ) : Prop :=
  ∀ s bytes, w.encode s = some bytes → (∀ size ≤ bytes.length, host.alloc size = true) →
    ∀ rest, r.decode (bytes ++ rest) = some (received s, rest)

/-- A routine finds the end of what it reads by itself: it uses a front of whole
units, and what stands behind makes no difference. -/
structure Delimits (r : Routine σ τ) : Prop where
  whole : ∀ bytes t rest, r.decode bytes = some (t, rest) →
    ∃ used, bytes = used ++ rest ∧ 4 ∣ used.length ∧ r.decode used = some (t, [])
  behind : ∀ bytes t rest, r.decode bytes = some (t, rest) →
    ∀ more, r.decode (bytes ++ more) = some (t, rest ++ more)

/-- Behind what `r` reads, `x` reads so many units. -/
def Uses (r : Routine σ τ) (x : Routine σ ρ) (units : Nat) : Prop :=
  ∀ bytes made rest, x.decode bytes = some (made, rest) →
    ∃ t middle, r.decode bytes = some (t, middle) ∧ middle.length = 4 * units + rest.length

/-- Both accept the same bytes, and what they make of them is related. -/
def Alike (R : τ → τ → Prop) (r r' : Routine σ τ) : Prop :=
  ∀ bytes, (r.decode bytes = none → r'.decode bytes = none) ∧
    ∀ t rest, r.decode bytes = some (t, rest) → ∃ t', r'.decode bytes = some (t', rest) ∧ R t t'

/-- Nothing of what the routine reads needs memory of its own. -/
def InPlace (r : Routine σ τ) : Prop :=
  ∀ s, r.free s = []

theorem word_decode_eq_some {toUnit : α → UInt32} {fromUnit : UInt32 → α}
    {bytes rest : List UInt8} {a : α} :
    (word toUnit fromUnit).decode bytes = some (a, rest) ↔
      ∃ read, bytes = unit read ++ rest ∧ fromUnit read = a := by
  simp only [word, Option.map_eq_some_iff, Prod.mk.injEq]
  constructor
  · rintro ⟨got, read, value, rfl⟩
    exact ⟨got.1, getUnit_eq_some.mp read, value⟩
  · rintro ⟨read, rfl, value⟩
    exact ⟨(read, rest), getUnit_unit read rest, value, rfl⟩

theorem getOpaque_eq_some {count : Nat} {bytes data rest : List UInt8} :
    getOpaque count bytes = some (data, rest) ↔
      ∃ fill, bytes = data ++ fill ++ rest ∧ data.length = count ∧
        fill.length = Align.padding count := by
  have rounded := Align.up_eq_add_padding count
  constructor
  · intro read
    simp only [getOpaque, Option.ite_none_right_eq_some, Option.some.injEq, Prod.mk.injEq] at read
    rcases read with ⟨long, rfl, rfl⟩
    refine ⟨(bytes.drop count).take (Align.padding count), ?_, ?_, ?_⟩
    · rw [← List.take_add, ← rounded, List.take_append_drop]
    · rw [List.length_take]
      omega
    · rw [List.length_take, List.length_drop]
      omega
  · rintro ⟨fill, rfl, rfl, filled⟩
    have long : Align.up data.length ≤ (data ++ fill ++ rest).length := by
      simp only [List.length_append]
      omega
    have front : Align.up data.length = (data ++ fill).length := by
      rw [List.length_append]
      omega
    rw [getOpaque, if_pos long, front, List.drop_left, List.append_assoc, List.take_left]

theorem xdrBytes_decode_eq_some {host : Host} {maxsize : UInt32} {bytes data rest : List UInt8} :
    (xdrBytes host maxsize).decode bytes = some (data, rest) ↔
      ∃ size fill, bytes = unit size ++ (data ++ fill ++ rest) ∧ data.length = size.toNat ∧
        fill.length = Align.padding size.toNat ∧ size ≤ maxsize ∧
        (size ≠ 0 → host.alloc size.toNat = true) := by
  simp only [xdrBytes, Option.bind_eq_some_iff]
  constructor
  · rintro ⟨⟨size, behind⟩, read, chosen⟩
    rw [getUnit_eq_some] at read
    dsimp only at read chosen
    rw [Option.ite_none_left_eq_some] at chosen
    have within := UInt32.not_lt.mp chosen.1
    by_cases empty : size = 0
    · rw [if_pos empty, Option.some.injEq, Prod.mk.injEq] at chosen
      rcases chosen with ⟨_, rfl, rfl⟩
      exact ⟨size, [], read, by rw [empty]; rfl, by rw [empty]; rfl, within,
        fun some => absurd empty some⟩
    · rw [if_neg empty, Option.ite_none_right_eq_some] at chosen
      rcases getOpaque_eq_some.mp chosen.2.2 with ⟨fill, rfl, counted, filled⟩
      exact ⟨size, fill, read, counted, filled, within, fun _ => chosen.2.1⟩
  · rintro ⟨size, fill, rfl, counted, filled, within, room⟩
    refine ⟨_, getUnit_unit _ _, ?_⟩
    rw [if_neg (UInt32.not_lt.mpr within)]
    by_cases empty : size = 0
    · have none : data = [] ∧ fill = [] := by
        rw [empty] at counted filled
        exact ⟨List.length_eq_zero_iff.mp counted, List.length_eq_zero_iff.mp filled⟩
      rw [if_pos empty, none.1, none.2]
      rfl
    · rw [if_neg empty, if_pos (room empty)]
      exact getOpaque_eq_some.mpr ⟨fill, rfl, counted, filled⟩

theorem xdrString_decode_eq_some {host : Host} {maxsize : UInt32} {bytes data rest : List UInt8} :
    (xdrString host maxsize).decode bytes = some (data, rest) ↔
      ∃ size fill, bytes = unit size ++ (data ++ fill ++ rest) ∧ data.length = size.toNat ∧
        fill.length = Align.padding size.toNat ∧ size ≤ maxsize ∧ size + 1 ≠ 0 ∧
        host.alloc (size.toNat + 1) = true := by
  simp only [xdrString, Option.bind_eq_some_iff]
  constructor
  · rintro ⟨⟨size, behind⟩, read, chosen⟩
    rw [getUnit_eq_some] at read
    dsimp only at read chosen
    rw [Option.ite_none_left_eq_some, Option.ite_none_right_eq_some, not_or] at chosen
    rcases chosen with ⟨⟨within, bounded⟩, room, read'⟩
    rcases getOpaque_eq_some.mp read' with ⟨fill, rfl, counted, filled⟩
    exact ⟨size, fill, read, counted, filled, UInt32.not_lt.mp within, bounded, room⟩
  · rintro ⟨size, fill, rfl, counted, filled, within, bounded, room⟩
    refine ⟨_, getUnit_unit _ _, ?_⟩
    have accepted : ¬ (maxsize < size ∨ size + 1 = 0) := by
      rw [not_or]
      exact ⟨UInt32.not_lt.mpr within, bounded⟩
    rw [if_neg accepted, if_pos room]
    exact getOpaque_eq_some.mpr ⟨fill, rfl, counted, filled⟩

theorem conveys_word {host : Host} {toUnit toUnit' : α → UInt32} {fromUnit fromUnit' : UInt32 → α} :
    Conveys host (word toUnit fromUnit) (word toUnit' fromUnit')
      (fun a => fromUnit' (toUnit a)) := by
  intro a bytes put _ rest
  rw [← Option.some.inj put]
  exact word_decode_eq_some.mpr ⟨toUnit a, rfl, rfl⟩

theorem Conveys.congr {host : Host} {w r : Routine σ τ} {received received' : σ → τ}
    (conveys : Conveys host w r received) (same : ∀ s, received s = received' s) :
    Conveys host w r received' := by
  intro s bytes put room rest
  rw [← same s]
  exact conveys s bytes put room rest

theorem conveys_long {host : Host} : Conveys host xdrLong xdrLong id := conveys_word

theorem conveys_uLong {host : Host} : Conveys host xdrULong xdrULong id := conveys_word

theorem conveys_uShort {host : Host} : Conveys host xdrUShort xdrUShort id :=
  (conveys_word).congr UInt16.toUInt16_toUInt32

theorem conveys_char {host : Host} : Conveys host xdrChar xdrChar id :=
  (conveys_word).congr UInt8.toUInt8_toUInt32

theorem conveys_uChar {host : Host} : Conveys host xdrUChar xdrUChar id :=
  (conveys_word).congr UInt8.toUInt8_toUInt32

theorem conveys_void {host : Host} : Conveys host xdrVoid xdrVoid id := by
  intro a bytes put _ rest
  rw [← Option.some.inj put]
  rfl

theorem conveys_bytes {sender host : Host} {maxsize : UInt32} :
    Conveys host (xdrBytes sender maxsize) (xdrBytes host maxsize) id := by
  intro data bytes put room rest
  rw [xdrBytes, Option.ite_none_left_eq_some, Option.some.injEq] at put
  rcases put with ⟨within, rfl⟩
  have bound := maxsize.toNat_lt
  have count : (UInt32.ofNat data.length).toNat = data.length := by
    rw [UInt32.toNat_ofNat']
    omega
  rw [List.append_assoc]
  refine xdrBytes_decode_eq_some.mpr
    ⟨_, List.replicate (Align.padding data.length) 0, rfl, count.symm, ?_, ?_, ?_⟩
  · rw [List.length_replicate, count]
  · rw [UInt32.le_iff_toNat_le, count]
    exact Nat.le_of_not_lt within
  · intro _
    apply room
    have rounded := Align.up_eq_add_padding data.length
    rw [count, List.length_append, unit_length, putOpaque_length]
    omega

theorem conveys_string {sender host : Host} {maxsize : UInt32} :
    Conveys host (xdrString sender maxsize) (xdrString host maxsize)
      (fun s => s.takeWhile (· ≠ 0)) := by
  intro s bytes put room rest
  dsimp only
  rw [xdrString, Option.ite_none_left_eq_some, Option.some.injEq, not_or] at put
  rcases put with ⟨⟨within, bounded⟩, rfl⟩
  generalize s.takeWhile (· ≠ 0) = text at within bounded room ⊢
  have bound := maxsize.toNat_lt
  have count : (UInt32.ofNat text.length).toNat = text.length := by
    rw [UInt32.toNat_ofNat']
    omega
  rw [List.append_assoc]
  refine xdrString_decode_eq_some.mpr
    ⟨_, List.replicate (Align.padding text.length) 0, rfl, count.symm, ?_, ?_, ?_, ?_⟩
  · rw [List.length_replicate, count]
  · rw [UInt32.le_iff_toNat_le, count]
    exact Nat.le_of_not_lt within
  · intro wraps
    have wrapped := congrArg UInt32.toNat wraps
    rw [UInt32.toNat_add, count, UInt32.toNat_one, UInt32.toNat_zero] at wrapped
    omega
  · apply room
    have rounded := Align.up_eq_add_padding text.length
    rw [count, List.length_append, unit_length, putOpaque_length]
    omega

theorem delimits_word {toUnit : α → UInt32} {fromUnit : UInt32 → α} :
    Delimits (word toUnit fromUnit) := by
  constructor
  · intro bytes a rest read
    rcases word_decode_eq_some.mp read with ⟨first, rfl, rfl⟩
    refine ⟨unit first, rfl, Nat.dvd_refl 4, word_decode_eq_some.mpr ⟨first, ?_, rfl⟩⟩
    rw [List.append_nil]
  · intro bytes a rest read more
    rcases word_decode_eq_some.mp read with ⟨first, rfl, rfl⟩
    exact word_decode_eq_some.mpr ⟨first, List.append_assoc _ _ _, rfl⟩

theorem delimits_void : Delimits xdrVoid := by
  constructor
  · intro bytes a rest read
    rw [xdrVoid, Option.some.injEq, Prod.mk.injEq] at read
    exact ⟨[], read.2, Nat.dvd_zero 4, rfl⟩
  · intro bytes a rest read more
    rw [xdrVoid, Option.some.injEq, Prod.mk.injEq] at read
    rw [← read.2]
    rfl

/-- The count, the data and what fills the last unit are whole units. -/
theorem dvd_counted {size : UInt32} {data fill : List UInt8} (counted : data.length = size.toNat)
    (filled : fill.length = Align.padding size.toNat) :
    4 ∣ (unit size ++ (data ++ fill)).length := by
  have rounded := Align.up_eq_add_padding size.toNat
  unfold Align.up at rounded
  simp only [List.length_append, unit_length]
  omega

theorem delimits_bytes {host : Host} {maxsize : UInt32} : Delimits (xdrBytes host maxsize) := by
  constructor
  · intro bytes data rest read
    rcases xdrBytes_decode_eq_some.mp read with ⟨size, fill, rfl, counted, filled, accepted⟩
    refine ⟨unit size ++ (data ++ fill), ?_, dvd_counted counted filled,
      xdrBytes_decode_eq_some.mpr ⟨size, fill, ?_, counted, filled, accepted⟩⟩
    · simp only [List.append_assoc]
    · rw [List.append_nil]
  · intro bytes data rest read more
    rcases xdrBytes_decode_eq_some.mp read with ⟨size, fill, rfl, counted, filled, accepted⟩
    refine xdrBytes_decode_eq_some.mpr ⟨size, fill, ?_, counted, filled, accepted⟩
    simp only [List.append_assoc]

theorem delimits_string {host : Host} {maxsize : UInt32} : Delimits (xdrString host maxsize) := by
  constructor
  · intro bytes data rest read
    rcases xdrString_decode_eq_some.mp read with ⟨size, fill, rfl, counted, filled, accepted⟩
    refine ⟨unit size ++ (data ++ fill), ?_, dvd_counted counted filled,
      xdrString_decode_eq_some.mpr ⟨size, fill, ?_, counted, filled, accepted⟩⟩
    · simp only [List.append_assoc]
    · rw [List.append_nil]
  · intro bytes data rest read more
    rcases xdrString_decode_eq_some.mp read with ⟨size, fill, rfl, counted, filled, accepted⟩
    refine xdrString_decode_eq_some.mpr ⟨size, fill, ?_, counted, filled, accepted⟩
    simp only [List.append_assoc]

@[simp] theorem word_encode_isSome {toUnit : α → UInt32} {fromUnit : UInt32 → α} (a : α) :
    ((word toUnit fromUnit).encode a).isSome = true := rfl

theorem xdrBytes_encode_isSome {host : Host} {maxsize : UInt32} (data : List UInt8) :
    ((xdrBytes host maxsize).encode data).isSome = true ↔ data.length ≤ maxsize.toNat := by
  by_cases beyond : maxsize.toNat < data.length
  · simp [xdrBytes, beyond]
  · simp [xdrBytes, beyond, Nat.le_of_not_lt beyond]

theorem xdrString_encode_isSome {host : Host} (s : List UInt8) :
    ((xdrString host unbounded).encode s).isSome = true ↔
      (s.takeWhile (· ≠ 0)).length < 4294967295 := by
  have bound : unbounded.toNat = 4294967295 := rfl
  rw [xdrString]
  dsimp only
  generalize s.takeWhile (· ≠ 0) = text
  by_cases beyond : unbounded.toNat < text.length ∨ text.length = 4294967295
  · simp only [beyond, ↓reduceIte, Option.isSome_none, Bool.false_eq_true, false_iff]
    omega
  · simp only [beyond, ↓reduceIte, Option.isSome_some, true_iff]
    omega

/-- A proper front of what was read is refused. -/
theorem Delimits.truncated {r : Routine σ τ} (delimits : Delimits r) {cut more : List UInt8}
    {t : τ} (read : r.decode (cut ++ more) = some (t, [])) (missing : more ≠ []) :
    r.decode cut = none := by
  cases early : r.decode cut with
  | none => rfl
  | some got =>
      have late := delimits.behind cut got.1 got.2 early more
      rw [read, Option.some.injEq, Prod.mk.injEq] at late
      exact absurd (List.append_eq_nil_iff.mp late.2.symm).2 missing

namespace Routine

theorem field_encode_eq_some {r : Routine σ (α → τ)} {part : σ → α} {f : XdrProc α} {s : σ}
    {bytes : List UInt8} :
    (r.field part f).encode s = some bytes ↔
      ∃ front back, r.encode s = some front ∧ f.encode (part s) = some back ∧
        bytes = front ++ back := by
  simp only [field, Option.bind_eq_some_iff, Option.map_eq_some_iff]
  constructor
  · rintro ⟨front, first, back, second, rfl⟩
    exact ⟨front, back, first, second, rfl⟩
  · rintro ⟨front, back, first, second, rfl⟩
    exact ⟨front, first, back, second, rfl⟩

@[simp] theorem start_encode_isSome {make : τ} (s : σ) :
    ((start make : Routine σ τ).encode s).isSome = true := rfl

@[simp] theorem field_encode_isSome {r : Routine σ (α → τ)} {part : σ → α} {f : XdrProc α}
    (s : σ) :
    ((r.field part f).encode s).isSome = ((r.encode s).isSome && (f.encode (part s)).isSome) := by
  show ((r.encode s).bind fun front => (f.encode (part s)).map fun back =>
    front ++ back).isSome = _
  cases r.encode s with
  | none => rfl
  | some front => rw [Option.bind_some, Option.isSome_map, Option.isSome_some, Bool.true_and]

theorem field_encode_congr {r r' : Routine σ (α → τ)} {part : σ → α} {f f' : XdrProc α}
    {s s' : σ} (front : r.encode s = r'.encode s')
    (back : f.encode (part s) = f'.encode (part s')) :
    (r.field part f).encode s = (r'.field part f').encode s' := by
  simp only [field, front, back]

theorem field_decode_eq_some {r : Routine σ (α → τ)} {part : σ → α} {f : XdrProc α}
    {bytes rest : List UInt8} {t : τ} :
    (r.field part f).decode bytes = some (t, rest) ↔
      ∃ build middle a, r.decode bytes = some (build, middle) ∧
        f.decode middle = some (a, rest) ∧ t = build a := by
  simp only [field, Option.bind_eq_some_iff, Option.map_eq_some_iff, Prod.mk.injEq]
  constructor
  · rintro ⟨got, first, next, second, rfl, rfl⟩
    exact ⟨got.1, got.2, next.1, first, second, rfl⟩
  · rintro ⟨build, middle, a, first, second, rfl⟩
    exact ⟨(build, middle), first, (a, rest), second, rfl, rfl⟩

end Routine

section

variable {host : Host} {w r : Routine σ (α → τ)} {f g : XdrProc α} {part : σ → α}

theorem conveys_start {make : τ} :
    Conveys host (.start make : Routine σ τ) (.start make) (fun _ => make) := by
  intro s bytes put _ rest
  rw [← Option.some.inj put]
  rfl

theorem Conveys.field {received : σ → α → τ} {receivedPart : α → α}
    (front : Conveys host w r received) (back : Conveys host f g receivedPart) :
    Conveys host (w.field part f) (r.field part g)
      (fun s => received s (receivedPart (part s))) := by
  intro s bytes put room rest
  rcases Routine.field_encode_eq_some.mp put with ⟨first, second, hFirst, hSecond, rfl⟩
  rw [List.length_append] at room
  refine Routine.field_decode_eq_some.mpr ⟨received s, second ++ rest, receivedPart (part s), ?_,
    back (part s) second hSecond (fun size small => room size (by omega)) rest, rfl⟩
  rw [List.append_assoc]
  exact front s first hFirst (fun size small => room size (by omega)) (second ++ rest)

theorem delimits_start {make : τ} : Delimits (.start make : Routine σ τ) := by
  constructor
  · intro bytes t rest read
    rw [Routine.start, Option.some.injEq, Prod.mk.injEq] at read
    exact ⟨[], read.2, Nat.dvd_zero 4, congrArg (fun made => some (made, [])) read.1⟩
  · intro bytes t rest read more
    rw [Routine.start, Option.some.injEq, Prod.mk.injEq] at read
    rw [← read.1, ← read.2]
    rfl

theorem Delimits.field (front : Delimits r) (back : Delimits f) :
    Delimits (r.field part f) := by
  constructor
  · intro bytes t rest read
    rcases Routine.field_decode_eq_some.mp read with ⟨build, middle, a, first, second, rfl⟩
    rcases front.whole _ _ _ first with ⟨used, rfl, units, usedRead⟩
    rcases back.whole _ _ _ second with ⟨used', rfl, units', usedRead'⟩
    refine ⟨used ++ used', (List.append_assoc _ _ _).symm, ?_, ?_⟩
    · rw [List.length_append]
      exact Nat.dvd_add units units'
    · exact Routine.field_decode_eq_some.mpr
        ⟨build, used', a, front.behind _ _ _ usedRead used', usedRead', rfl⟩
  · intro bytes t rest read more
    rcases Routine.field_decode_eq_some.mp read with ⟨build, middle, a, first, second, rfl⟩
    exact Routine.field_decode_eq_some.mpr ⟨build, middle ++ more, a,
      front.behind _ _ _ first more, back.behind _ _ _ second more, rfl⟩

theorem uses_nothing {r : Routine σ τ} : Uses r r 0 := by
  intro bytes made rest read
  exact ⟨made, rest, read, by omega⟩

theorem Uses.word {first : Routine σ ρ} {units : Nat} (uses : Uses first r units)
    {toUnit : α → UInt32} {fromUnit : UInt32 → α} :
    Uses first (r.field part (word toUnit fromUnit)) (units + 1) := by
  intro bytes made rest read
  rcases Routine.field_decode_eq_some.mp read with ⟨build, middle, a, front, back, rfl⟩
  rcases uses _ _ _ front with ⟨t, start, early, counted⟩
  rcases word_decode_eq_some.mp back with ⟨last, rfl, rfl⟩
  refine ⟨t, start, early, ?_⟩
  rw [List.length_append, unit_length] at counted
  omega

theorem alike_start {R : τ → τ → Prop} {make : τ} (related : R make make) :
    Alike R (.start make : Routine σ τ) (.start make) := by
  intro bytes
  refine ⟨id, ?_⟩
  intro t rest read
  rw [Routine.start, Option.some.injEq, Prod.mk.injEq] at read
  rcases read with ⟨rfl, rfl⟩
  exact ⟨make, rfl, related⟩

theorem alike_refl {r : Routine σ τ} : Alike Eq r r := by
  intro bytes
  refine ⟨id, ?_⟩
  intro t rest read
  exact ⟨t, read, rfl⟩

theorem alike_word {R : α → α → Prop} {toUnit toUnit' : α → UInt32}
    {fromUnit fromUnit' : UInt32 → α}
    (related : ∀ read, R (fromUnit read) (fromUnit' read)) :
    Alike R (word toUnit fromUnit) (word toUnit' fromUnit') := by
  intro bytes
  constructor
  · intro short
    rw [word, Option.map_eq_none_iff] at short
    rw [word, Option.map_eq_none_iff]
    exact short
  · intro a rest read
    rcases word_decode_eq_some.mp read with ⟨first, rfl, rfl⟩
    exact ⟨_, word_decode_eq_some.mpr ⟨first, rfl, rfl⟩, related first⟩

theorem Alike.field {Q : α → α → Prop} {R : τ → τ → Prop}
    (front : Alike (fun build build' => ∀ a a', Q a a' → R (build a) (build' a')) w r)
    (back : Alike Q f g) : Alike R (w.field part f) (r.field part g) := by
  intro bytes
  constructor
  · intro refused
    rw [Routine.field, Option.bind_eq_none_iff] at refused ⊢
    intro got' late
    cases early : w.decode bytes with
    | none =>
        rw [(front bytes).1 early] at late
        cases late
    | some got =>
        rcases (front bytes).2 _ _ early with ⟨build', same, _⟩
        have behind := refused got early
        rw [Option.map_eq_none_iff] at behind ⊢
        rw [same, Option.some.injEq] at late
        rw [← late]
        exact (back got.2).1 behind
  · intro t rest read
    rcases Routine.field_decode_eq_some.mp read with ⟨build, middle, a, first, second, rfl⟩
    rcases (front bytes).2 _ _ first with ⟨build', first', related⟩
    rcases (back middle).2 _ _ second with ⟨a', second', relatedPart⟩
    exact ⟨build' a', Routine.field_decode_eq_some.mpr ⟨build', middle, a', first', second', rfl⟩,
      related a a' relatedPart⟩

/-- A relation that is a function shows in what both make of the same bytes. -/
theorem Alike.decode_eq {g : τ → τ} {r r' : Routine σ τ} (alike : Alike (fun t t' => t' = g t) r r')
    (bytes : List UInt8) :
    r'.decode bytes = (r.decode bytes).map fun got => (g got.1, got.2) := by
  cases read : r.decode bytes with
  | none => exact (alike bytes).1 read
  | some got =>
      rcases (alike bytes).2 got.1 got.2 read with ⟨t', read', rfl⟩
      exact read'

theorem inPlace_start {make : τ} : InPlace (.start make : Routine σ τ) :=
  fun _ => rfl

theorem InPlace.word (front : InPlace r) {toUnit : α → UInt32} {fromUnit : UInt32 → α} :
    InPlace (r.field part (word toUnit fromUnit)) := by
  intro s
  show r.free s ++ [] = []
  rw [front s, List.append_nil]

end

section

variable {host : Host} {r : Routine σ τ} {units : Nat} {fast plain : Routine σ τ → Routine σ ρ}

/-- Whether there is a buffer changes how the fields are read, not where they end. -/
theorem inlined_decode (usesFast : Uses r (fast r) units) (usesPlain : Uses r (plain r) units)
    (bytes : List UInt8) :
    (r.inlined host units fast plain).decode bytes =
      (if host.inline then fast r else plain r).decode bytes := by
  have short {x : Routine σ ρ} (uses : Uses r x units) (few : r.leaves units bytes = false) :
      x.decode bytes = none := by
    cases read : x.decode bytes with
    | none => rfl
    | some got =>
        rcases uses _ _ _ read with ⟨t, middle, early, counted⟩
        rw [Routine.leaves, early, Option.any_some, decide_eq_false_iff_not, counted] at few
        omega
  cases inline : host.inline with
  | false => simp only [Routine.inlined, inline, Bool.false_and, Bool.false_eq_true, ↓reduceIte]
  | true =>
      cases there : r.leaves units bytes with
      | true => simp only [Routine.inlined, inline, there, Bool.and_self, ↓reduceIte]
      | false =>
          simp only [Routine.inlined, inline, there, Bool.and_false, Bool.false_eq_true,
            ↓reduceIte]
          rw [short usesFast there, short usesPlain there]

/-- Where the block needs no memory, `XDR_INLINE` chooses between two routines. -/
theorem inlined_eq (usesFast : Uses r (fast r) units) (usesPlain : Uses r (plain r) units)
    (fastInPlace : InPlace (fast r)) (plainInPlace : InPlace (plain r)) :
    r.inlined host units fast plain = if host.inline then fast r else plain r := by
  have decodes : (r.inlined host units fast plain).decode =
      (if host.inline then fast r else plain r).decode :=
    funext (inlined_decode usesFast usesPlain)
  have frees : (r.inlined host units fast plain).free = fun _ => [] :=
    funext plainInPlace
  cases inline : host.inline with
  | false =>
      have encodes : (r.inlined host units fast plain).encode = (plain r).encode := by
        funext s
        simp only [Routine.inlined, inline, Bool.false_eq_true, ↓reduceIte]
      rw [inline] at decodes
      rw [← funext plainInPlace] at frees
      exact Routine.ext encodes decodes frees
  | true =>
      have encodes : (r.inlined host units fast plain).encode = (fast r).encode := by
        funext s
        simp only [Routine.inlined, inline, ↓reduceIte]
      rw [inline] at decodes
      rw [← funext fastInPlace] at frees
      exact Routine.ext encodes decodes frees

end

end Xdr
