import ScpiVxiTmc.Lib.Align

set_option autoImplicit false

/- External data representation. All data is in units of four bytes, the most
significant byte first. One routine serves three operations: it puts a value on
the wire, takes one off it, or gives the memory of a value back. Routines of
records are built field by field. -/
namespace Xdr

variable {α β σ τ ρ : Type}

/-- What a routine meets besides the bytes: whether `XDR_INLINE` hands out a
buffer where the stream has the bytes, and whether `mem_alloc` has a block. -/
structure Host where
  inline : Bool
  alloc : Nat → Bool

/-- A routine on the way to a value of `σ`: it has put the first fields of one on
the wire, or taken off it what is missing to a `τ`. `free` are the blocks that a
value off the wire holds. -/
@[ext]
structure Routine (σ τ : Type) where
  encode : σ → Option (List UInt8)
  decode : List UInt8 → Option (τ × List UInt8)
  free : σ → List Nat

/-- `xdrproc_t`: a routine for all of a value. -/
abbrev XdrProc (α : Type) := Routine α α

def unit (word : UInt32) : List UInt8 :=
  [UInt8.ofNat (word.toNat / 16777216), UInt8.ofNat (word.toNat / 65536),
    UInt8.ofNat (word.toNat / 256), UInt8.ofNat word.toNat]

def ofUnit (b0 b1 b2 b3 : UInt8) : UInt32 :=
  UInt32.ofNat (16777216 * b0.toNat + 65536 * b1.toNat + 256 * b2.toNat + b3.toNat)

/-- `XDR_GETLONG` -/
def getUnit : List UInt8 → Option (UInt32 × List UInt8)
  | b0 :: b1 :: b2 :: b3 :: rest => some (ofUnit b0 b1 b2 b3, rest)
  | _ => none

/-- A value in a unit of its own. -/
def word (toUnit : α → UInt32) (fromUnit : UInt32 → α) : XdrProc α where
  encode a := some (unit (toUnit a))
  decode bytes := (getUnit bytes).map fun got => (fromUnit got.1, got.2)
  free _ := []

/-- `xdr_long`, for a long of 32 bits -/
def xdrLong : XdrProc Int32 := word Int32.toUInt32 UInt32.toInt32

/-- `xdr_u_long`, for an unsigned long of 32 bits -/
def xdrULong : XdrProc UInt32 := word id id

/-- `xdr_enum` -/
def xdrEnum : XdrProc Int32 := word Int32.toUInt32 UInt32.toInt32

/-- `xdr_bool`: any other number is made TRUE, on both ways. -/
def xdrBool : XdrProc Int32 :=
  word (fun value => if value = 0 then 0 else 1) (fun unit => if unit = 0 then 0 else 1)

/-- `xdr_u_short` -/
def xdrUShort : XdrProc UInt16 := word UInt16.toUInt32 UInt32.toUInt16

/-- `xdr_char`, for a char without sign -/
def xdrChar : XdrProc UInt8 := word UInt8.toUInt32 UInt32.toUInt8

/-- `xdr_u_char` -/
def xdrUChar : XdrProc UInt8 := word UInt8.toUInt32 UInt32.toUInt8

/-- `IXDR_PUT_LONG`, `IXDR_GET_LONG` -/
def ixdrLong : XdrProc Int32 := word Int32.toUInt32 UInt32.toInt32

/-- `IXDR_PUT_U_LONG`, `IXDR_GET_U_LONG` -/
def ixdrULong : XdrProc UInt32 := word id id

/-- `IXDR_PUT_BOOL`, `IXDR_GET_BOOL`: a long under another name. -/
def ixdrBool : XdrProc Int32 := ixdrLong

/-- `xdr_void` -/
def xdrVoid : XdrProc Unit :=
  ⟨fun _ => some [], fun bytes => some ((), bytes), fun _ => []⟩

/-- `xdr_opaque`, XDR_ENCODE: zeros fill the last unit. -/
def putOpaque (data : List UInt8) : List UInt8 :=
  data ++ List.replicate (Align.padding data.length) 0

/-- `xdr_opaque`, XDR_DECODE: what fills the last unit is not looked at. -/
def getOpaque (count : Nat) (bytes : List UInt8) : Option (List UInt8 × List UInt8) :=
  if Align.up count ≤ bytes.length then some (bytes.take count, bytes.drop (Align.up count))
  else none

/-- The bound `~0`. -/
def unbounded : UInt32 := 4294967295

/-- `xdr_bytes` -/
def xdrBytes (host : Host) (maxsize : UInt32) : XdrProc (List UInt8) where
  encode data :=
    if maxsize.toNat < data.length then none
    else some (unit (UInt32.ofNat data.length) ++ putOpaque data)
  decode bytes := (getUnit bytes).bind fun got =>
    if maxsize < got.1 then none
    else if got.1 = 0 then some ([], got.2)
    else if host.alloc got.1.toNat then getOpaque got.1.toNat got.2
    else none
  free data := if data.length = 0 then [] else [data.length]

/-- `xdr_string`, for the characters of an array in front of its last zero. A
string ends at its first zero when it is put on the wire, at its count when it
comes off it. -/
def xdrString (host : Host) (maxsize : UInt32) : XdrProc (List UInt8) where
  encode s :=
    let text := s.takeWhile (· ≠ 0)
    if maxsize.toNat < text.length ∨ text.length = 4294967295 then none
    else some (unit (UInt32.ofNat text.length) ++ putOpaque text)
  decode bytes := (getUnit bytes).bind fun got =>
    if maxsize < got.1 ∨ got.1 + 1 = 0 then none
    else if host.alloc (got.1.toNat + 1) then getOpaque got.1.toNat got.2
    else none
  free s := [s.length + 1]

namespace Routine

/-- Before the first field of a record. -/
def start (make : τ) : Routine σ τ :=
  ⟨fun _ => some [], fun bytes => some (make, bytes), fun _ => []⟩

/-- One more field. -/
def field (r : Routine σ (α → τ)) (part : σ → α) (f : XdrProc α) : Routine σ τ where
  encode s := (r.encode s).bind fun front => (f.encode (part s)).map fun back => front ++ back
  decode bytes := (r.decode bytes).bind fun got =>
    (f.decode got.2).map fun next => (got.1 next.1, next.2)
  free s := r.free s ++ f.free (part s)

/-- Whether `XDR_INLINE` finds this many units behind what `r` reads. -/
def leaves (r : Routine σ τ) (units : Nat) (bytes : List UInt8) : Bool :=
  (r.decode bytes).any fun got => decide (4 * units ≤ got.2.length)

/-- Fields of `units` units in all: from the buffer that `XDR_INLINE` hands out,
or else one by one. -/
def inlined (r : Routine σ τ) (host : Host) (units : Nat)
    (fast plain : Routine σ τ → Routine σ ρ) : Routine σ ρ where
  encode s := if host.inline then (fast r).encode s else (plain r).encode s
  decode bytes :=
    if host.inline && r.leaves units bytes then (fast r).decode bytes else (plain r).decode bytes
  free := (plain r).free

end Routine

theorem ofUnit_unit (word : UInt32) :
    ofUnit (UInt8.ofNat (word.toNat / 16777216)) (UInt8.ofNat (word.toNat / 65536))
      (UInt8.ofNat (word.toNat / 256)) (UInt8.ofNat word.toNat) = word := by
  have bound := word.toNat_lt
  apply UInt32.toNat_inj.mp
  simp only [ofUnit, UInt8.toNat_ofNat', UInt32.toNat_ofNat']
  omega

theorem unit_ofUnit (b0 b1 b2 b3 : UInt8) : unit (ofUnit b0 b1 b2 b3) = [b0, b1, b2, b3] := by
  have bound0 := b0.toNat_lt
  have bound1 := b1.toNat_lt
  have bound2 := b2.toNat_lt
  have bound3 := b3.toNat_lt
  have whole : (ofUnit b0 b1 b2 b3).toNat =
      16777216 * b0.toNat + 65536 * b1.toNat + 256 * b2.toNat + b3.toNat := by
    rw [ofUnit, UInt32.toNat_ofNat']
    omega
  simp only [unit, whole, List.cons.injEq, and_true, ← UInt8.toNat_inj, UInt8.toNat_ofNat']
  omega

@[simp] theorem unit_length (word : UInt32) : (unit word).length = 4 := rfl

theorem getUnit_eq_some {bytes rest : List UInt8} {word : UInt32} :
    getUnit bytes = some (word, rest) ↔ bytes = unit word ++ rest := by
  constructor
  · intro read
    rcases bytes with _ | ⟨b0, _ | ⟨b1, _ | ⟨b2, _ | ⟨b3, others⟩⟩⟩⟩
    case cons.cons.cons.cons =>
      simp only [getUnit, Option.some.injEq, Prod.mk.injEq] at read
      rw [← read.1, ← read.2, unit_ofUnit]
      rfl
    all_goals cases read
  · rintro rfl
    exact congrArg (fun found => some (found, rest)) (ofUnit_unit word)

@[simp] theorem getUnit_unit (word : UInt32) (rest : List UInt8) :
    getUnit (unit word ++ rest) = some (word, rest) := getUnit_eq_some.mpr rfl

theorem putOpaque_length (data : List UInt8) :
    (putOpaque data).length = Align.up data.length := by
  rw [putOpaque, List.length_append, List.length_replicate, Align.up_eq_add_padding]

end Xdr
