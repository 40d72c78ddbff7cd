import ScpiVxiTmc.Vxi.Xdr

set_option autoImplicit false

/- What the message routines make of each other's bytes, and of any others. -/
namespace ScpiVxiTmc.Vxi11

open Xdr

/-- A boolean as `xdr_bool` leaves it. -/
def truth (value : BoolT) : BoolT := if value = 0 then 0 else 1

/-- The routine for a boolean among fields that `XDR_INLINE` may have a buffer for. -/
def blockBool (host : Host) : XdrProc BoolT := if host.inline then ixdrBool else xdrBool

/-- Such a boolean after the way from one program to another: where both have
buffers, any number gets through. -/
def carriedBool (sender receiver : Host) (value : BoolT) : BoolT :=
  if sender.inline && receiver.inline then value else truth value

/-- The message with its booleans as `xdr_bool` leaves them. -/
def Message.truthful : (m : Message) → m.Value → m.Value
  | .createLinkParms, p => { p with lockDevice := truth p.lockDevice }
  | .deviceDocmdParms, p => { p with networkOrder := truth p.networkOrder }
  | _, message => message

/-- What arrives of a message. -/
def Message.received (sender receiver : Host) : (m : Message) → m.Value → m.Value
  | .createLinkParms, p =>
      { p with
        lockDevice := carriedBool sender receiver p.lockDevice
        device := p.device.takeWhile (· ≠ 0) }
  | .deviceEnableSrqParms, p => { p with enable := truth p.enable }
  | .deviceDocmdParms, p => { p with networkOrder := carriedBool sender receiver p.networkOrder }
  | _, message => message

/-- What the lengths in the message must keep to. -/
def Message.Sendable : (m : Message) → m.Value → Prop
  | .createLinkParms, p => (p.device.takeWhile (· ≠ 0)).length < 4294967295
  | .deviceWriteParms, p => p.data.length ≤ 4294967295
  | .deviceReadResp, p => p.data.length ≤ 4294967295
  | .deviceEnableSrqParms, p => p.handle.length ≤ 40
  | .deviceDocmdParms, p => p.dataIn.length ≤ 4294967295
  | .deviceDocmdResp, p => p.dataOut.length ≤ 4294967295
  | .deviceSrqParms, p => p.handle.length ≤ 4294967295
  | _, _ => True

theorem toUInt32_eq_zero (value : BoolT) : value.toUInt32 = 0 ↔ value = 0 := by
  constructor
  · intro zero
    have back := congrArg UInt32.toInt32 zero
    rwa [Int32.toInt32_toUInt32] at back
  · rintro rfl
    rfl

theorem conveys_bool {host : Host} : Conveys host xdrBool xdrBool truth := by
  apply conveys_word.congr
  intro value
  by_cases zero : value = 0
  · simp [truth, zero]
  · simp [truth, zero]

theorem blockBool_eq (host : Host) :
    blockBool host = word
      (if host.inline then Int32.toUInt32 else fun value => if value = 0 then 0 else 1)
      (if host.inline then UInt32.toInt32 else fun unit => if unit = 0 then 0 else 1) := by
  cases inline : host.inline with
  | false => simp only [blockBool, inline, Bool.false_eq_true, ↓reduceIte, xdrBool]
  | true => simp only [blockBool, inline, ↓reduceIte, ixdrBool, ixdrLong]

theorem conveys_blockBool {sender receiver : Host} :
    Conveys receiver (blockBool sender) (blockBool receiver) (carriedBool sender receiver) := by
  rw [blockBool_eq, blockBool_eq]
  apply conveys_word.congr
  intro value
  have number := toUInt32_eq_zero value
  cases sends : sender.inline with
  | false =>
      by_cases zero : value = 0
      · cases takes : receiver.inline with
        | false => simp [carriedBool, sends, truth, zero]
        | true => simp [carriedBool, sends, truth, zero]
      · cases takes : receiver.inline with
        | false => simp [carriedBool, sends, truth, zero]
        | true => simp [carriedBool, sends, truth, zero]
  | true =>
      cases takes : receiver.inline with
      | false => simp [carriedBool, sends, takes, truth, number]
      | true => simp [carriedBool, sends, takes]

theorem xdrCreateLinkParms_eq (host : Host) :
    xdrCreateLinkParms host =
      (Routine.start CreateLinkParms.mk
        |>.field (·.clientId) xdrLong
        |>.field (·.lockDevice) (blockBool host)
        |>.field (·.lockTimeout) xdrULong
        |>.field (·.device) (xdrString host unbounded)) := by
  rw [xdrCreateLinkParms, inlined_eq]
  · cases inline : host.inline with
    | false => simp only [blockBool, inline]; rfl
    | true => simp only [blockBool, inline]; rfl
  · exact uses_nothing.word.word.word
  · exact uses_nothing.word.word.word
  · exact inPlace_start.word.word.word
  · exact inPlace_start.word.word.word

theorem xdrDeviceReadParms_eq (host : Host) :
    xdrDeviceReadParms host =
      (Routine.start DeviceReadParms.mk
        |>.field (·.lid) xdrLong
        |>.field (·.requestSize) xdrULong
        |>.field (·.ioTimeout) xdrULong
        |>.field (·.lockTimeout) xdrULong
        |>.field (·.flags) xdrLong
        |>.field (·.termChar) xdrChar) := by
  rw [xdrDeviceReadParms, inlined_eq]
  · exact congrArg (fun r => (Routine.field r _ xdrDeviceFlags).field _ xdrChar) (ite_self _)
  · exact uses_nothing.word.word.word
  · exact uses_nothing.word.word.word
  · exact inPlace_start.word.word.word.word
  · exact inPlace_start.word.word.word.word

theorem xdrDeviceRemoteFunc_eq (host : Host) :
    xdrDeviceRemoteFunc host =
      (Routine.start DeviceRemoteFunc.mk
        |>.field (·.hostAddr) xdrULong
        |>.field (·.hostPort) xdrULong
        |>.field (·.progNum) xdrULong
        |>.field (·.progVers) xdrULong
        |>.field (·.progFamily) xdrEnum) := by
  rw [xdrDeviceRemoteFunc, inlined_eq]
  · exact congrArg (fun r => Routine.field r _ xdrDeviceAddrFamily) (ite_self _)
  · exact uses_nothing.word.word.word.word
  · exact uses_nothing.word.word.word.word
  · exact inPlace_start.word.word.word.word
  · exact inPlace_start.word.word.word.word

theorem xdrDeviceDocmdParms_eq (host : Host) :
    xdrDeviceDocmdParms host =
      (Routine.start DeviceDocmdParms.mk
        |>.field (·.lid) xdrLong
        |>.field (·.flags) xdrLong
        |>.field (·.ioTimeout) xdrULong
        |>.field (·.lockTimeout) xdrULong
        |>.field (·.cmd) xdrLong
        |>.field (·.networkOrder) (blockBool host)
        |>.field (·.datasize) xdrLong
        |>.field (·.dataIn) (xdrBytes host unbounded)) := by
  rw [xdrDeviceDocmdParms, inlined_eq]
  · cases inline : host.inline with
    | false => simp only [blockBool, inline]; rfl
    | true => simp only [blockBool, inline]; rfl
  · exact uses_nothing.word.word.word.word.word
  · exact uses_nothing.word.word.word.word.word
  · exact inPlace_start.word.word.word.word.word.word.word
  · exact inPlace_start.word.word.word.word.word.word.word

theorem message_conveys (sender receiver : Host) (m : Message) :
    Conveys receiver (m.xdr sender) (m.xdr receiver) (m.received sender receiver) := by
  cases m with
  | void => exact conveys_void
  | deviceLink => exact conveys_long
  | deviceError => exact conveys_start.field conveys_long
  | createLinkParms =>
      simp only [Message.xdr, xdrCreateLinkParms_eq]
      exact (((conveys_start.field conveys_long).field conveys_blockBool).field
        conveys_uLong).field conveys_string
  | createLinkResp =>
      exact (((conveys_start.field conveys_long).field conveys_long).field conveys_uShort).field
        conveys_uLong
  | deviceWriteParms =>
      exact ((((conveys_start.field conveys_long).field conveys_uLong).field conveys_uLong).field
        conveys_long).field conveys_bytes
  | deviceWriteResp => exact (conveys_start.field conveys_long).field conveys_uLong
  | deviceReadParms =>
      simp only [Message.xdr, xdrDeviceReadParms_eq]
      exact (((((conveys_start.field conveys_long).field conveys_uLong).field conveys_uLong).field
        conveys_uLong).field conveys_long).field conveys_char
  | deviceReadResp =>
      exact ((conveys_start.field conveys_long).field conveys_long).field conveys_bytes
  | deviceReadStbResp => exact (conveys_start.field conveys_long).field conveys_uChar
  | deviceGenericParms =>
      exact (((conveys_start.field conveys_long).field conveys_long).field conveys_uLong).field
        conveys_uLong
  | deviceRemoteFunc =>
      simp only [Message.xdr, xdrDeviceRemoteFunc_eq]
      exact ((((conveys_start.field conveys_uLong).field conveys_uLong).field conveys_uLong).field
        conveys_uLong).field conveys_long
  | deviceEnableSrqParms =>
      exact ((conveys_start.field conveys_long).field conveys_bool).field conveys_bytes
  | deviceLockParms =>
      exact ((conveys_start.field conveys_long).field conveys_long).field conveys_uLong
  | deviceDocmdParms =>
      simp only [Message.xdr, xdrDeviceDocmdParms_eq]
      exact (((((((conveys_start.field conveys_long).field conveys_long).field
        conveys_uLong).field conveys_uLong).field conveys_long).field conveys_blockBool).field
        conveys_long).field conveys_bytes
  | deviceDocmdResp => exact (conveys_start.field conveys_long).field conveys_bytes
  | deviceSrqParms => exact conveys_start.field conveys_bytes

theorem message_encode_isSome (host : Host) (m : Message) (v : m.Value) :
    ((m.xdr host).encode v).isSome = true ↔ m.Sendable v := by
  have bound : unbounded.toNat = 4294967295 := rfl
  cases m with
  | void => exact iff_of_true rfl trivial
  | deviceLink => exact iff_of_true rfl trivial
  | deviceError => exact iff_of_true rfl trivial
  | createLinkParms =>
      simp only [Message.xdr, xdrCreateLinkParms_eq, blockBool_eq]
      simp [xdrLong, xdrULong, xdrString_encode_isSome, Message.Sendable]
  | createLinkResp => exact iff_of_true rfl trivial
  | deviceWriteParms =>
      simp [Message.xdr, xdrDeviceWriteParms, xdrDeviceLink, xdrDeviceFlags, xdrLong, xdrULong,
        xdrBytes_encode_isSome, Message.Sendable, bound]
  | deviceWriteResp => exact iff_of_true rfl trivial
  | deviceReadParms =>
      simp only [Message.xdr, xdrDeviceReadParms_eq]
      exact iff_of_true rfl trivial
  | deviceReadResp =>
      simp [Message.xdr, xdrDeviceReadResp, xdrDeviceErrorCode, xdrLong, xdrBytes_encode_isSome,
        Message.Sendable, bound]
  | deviceReadStbResp => exact iff_of_true rfl trivial
  | deviceGenericParms => exact iff_of_true rfl trivial
  | deviceRemoteFunc =>
      simp only [Message.xdr, xdrDeviceRemoteFunc_eq]
      exact iff_of_true rfl trivial
  | deviceEnableSrqParms =>
      simp [Message.xdr, xdrDeviceEnableSrqParms, xdrDeviceLink, xdrLong, xdrBool,
        xdrBytes_encode_isSome, Message.Sendable]
  | deviceLockParms => exact iff_of_true rfl trivial
  | deviceDocmdParms =>
      simp only [Message.xdr, xdrDeviceDocmdParms_eq, blockBool_eq]
      simp [xdrLong, xdrULong, xdrBytes_encode_isSome, Message.Sendable, bound]
  | deviceDocmdResp =>
      simp [Message.xdr, xdrDeviceDocmdResp, xdrDeviceErrorCode, xdrLong, xdrBytes_encode_isSome,
        Message.Sendable, bound]
  | deviceSrqParms =>
      simp [Message.xdr, xdrDeviceSrqParms, xdrBytes_encode_isSome, Message.Sendable, bound]

/-- What one program puts on the wire another takes off it, with or without
buffers on either side, and whatever follows. -/
theorem message_round_trip (sender : Host) (m : Message) (v : m.Value)
    (sendable : m.Sendable v) :
    ∃ bytes, (m.xdr sender).encode v = some bytes ∧
      ∀ receiver : Host, (∀ size ≤ bytes.length, receiver.alloc size = true) →
        ∀ rest, (m.xdr receiver).decode (bytes ++ rest) =
          some (m.received sender receiver v, rest) := by
  rcases Option.isSome_iff_exists.mp ((message_encode_isSome sender m v).mpr sendable) with
    ⟨bytes, put⟩
  refine ⟨bytes, put, ?_⟩
  intro receiver memory rest
  exact message_conveys sender receiver m v bytes put memory rest

/-- A request for a link to the instrument, sent by a program that builds it in a
buffer, its flag set to 2. -/
theorem message_round_trip_link :
    ∃ bytes, (xdrCreateLinkParms ⟨true, fun _ => true⟩).encode
        ⟨1, 2, 0, [105, 110, 115, 116, 48]⟩ = some bytes ∧
      ∀ receiver : Host, (∀ size ≤ bytes.length, receiver.alloc size = true) →
        ∀ rest, (xdrCreateLinkParms receiver).decode (bytes ++ rest) =
          some (Message.createLinkParms.received ⟨true, fun _ => true⟩ receiver
            ⟨1, 2, 0, [105, 110, 115, 116, 48]⟩, rest) :=
  message_round_trip ⟨true, fun _ => true⟩ .createLinkParms ⟨1, 2, 0, [105, 110, 115, 116, 48]⟩
    (show 5 < 4294967295 by decide)

theorem message_delimits (host : Host) (m : Message) : Delimits (m.xdr host) := by
  cases m with
  | void => exact delimits_void
  | deviceLink => exact delimits_word
  | deviceError => exact delimits_start.field delimits_word
  | createLinkParms =>
      simp only [Message.xdr, xdrCreateLinkParms_eq, blockBool_eq]
      exact (((delimits_start.field delimits_word).field delimits_word).field
        delimits_word).field delimits_string
  | createLinkResp =>
      exact (((delimits_start.field delimits_word).field delimits_word).field
        delimits_word).field delimits_word
  | deviceWriteParms =>
      exact ((((delimits_start.field delimits_word).field delimits_word).field
        delimits_word).field delimits_word).field delimits_bytes
  | deviceWriteResp => exact (delimits_start.field delimits_word).field delimits_word
  | deviceReadParms =>
      simp only [Message.xdr, xdrDeviceReadParms_eq]
      exact (((((delimits_start.field delimits_word).field delimits_word).field
        delimits_word).field delimits_word).field delimits_word).field delimits_word
  | deviceReadResp =>
      exact ((delimits_start.field delimits_word).field delimits_word).field delimits_bytes
  | deviceReadStbResp => exact (delimits_start.field delimits_word).field delimits_word
  | deviceGenericParms =>
      exact (((delimits_start.field delimits_word).field delimits_word).field
        delimits_word).field delimits_word
  | deviceRemoteFunc =>
      simp only [Message.xdr, xdrDeviceRemoteFunc_eq]
      exact ((((delimits_start.field delimits_word).field delimits_word).field
        delimits_word).field delimits_word).field delimits_word
  | deviceEnableSrqParms =>
      exact ((delimits_start.field delimits_word).field delimits_word).field delimits_bytes
  | deviceLockParms =>
      exact ((delimits_start.field delimits_word).field delimits_word).field delimits_word
  | deviceDocmdParms =>
      simp only [Message.xdr, xdrDeviceDocmdParms_eq, blockBool_eq]
      exact (((((((delimits_start.field delimits_word).field delimits_word).field
        delimits_word).field delimits_word).field delimits_word).field delimits_word).field
        delimits_word).field delimits_bytes
  | deviceDocmdResp => exact (delimits_start.field delimits_word).field delimits_bytes
  | deviceSrqParms => exact delimits_start.field delimits_bytes

/-- Every routine knows from the bytes alone where its message ends: what follows
makes no difference, and no message is the front of another. -/
theorem message_self_delimiting (host : Host) (m : Message) (v : m.Value)
    (bytes rest : List UInt8) (read : (m.xdr host).decode bytes = some (v, rest)) :
    ∃ used, bytes = used ++ rest ∧ 4 ∣ used.length ∧
      (∀ more, (m.xdr host).decode (used ++ more) = some (v, more)) ∧
      ∀ cut missing, used = cut ++ missing → missing ≠ [] → (m.xdr host).decode cut = none := by
  have delimits := message_delimits host m
  rcases delimits.whole bytes v rest read with ⟨used, split, units, whole⟩
  refine ⟨used, split, units, delimits.behind used v [] whole, ?_⟩
  rintro cut missing rfl some
  exact delimits.truncated whole some

/-- A write of three bytes, one of them to fill the unit, in front of another byte. -/
theorem message_self_delimiting_write :
    ∃ used, [0, 0, 11, 184, 0, 0, 0, 0, 0, 0, 0, 0, 0, 0, 0, 8, 0, 0, 0, 3, 42, 82, 83, 0, 7] =
        used ++ [7] ∧ 4 ∣ used.length ∧
      (∀ more, (xdrDeviceWriteParms ⟨true, fun _ => true⟩).decode (used ++ more) =
        some (⟨3000, 0, 0, 8, [42, 82, 83]⟩, more)) ∧
      ∀ cut missing, used = cut ++ missing → missing ≠ [] →
        (xdrDeviceWriteParms ⟨true, fun _ => true⟩).decode cut = none :=
  message_self_delimiting ⟨true, fun _ => true⟩ .deviceWriteParms ⟨3000, 0, 0, 8, [42, 82, 83]⟩
    _ [7] (by decide)

theorem alike_blockBool (alloc : Nat → Bool) :
    Alike (fun value value' => value' = truth value) (blockBool ⟨true, alloc⟩)
      (blockBool ⟨false, alloc⟩) := by
  rw [blockBool_eq, blockBool_eq]
  apply alike_word
  intro read
  by_cases zero : read = 0
  · simp [truth, zero]
  · have number : read.toInt32 ≠ 0 := fun same => zero ((toUInt32_eq_zero read.toInt32).mpr same)
    simp [truth, zero, number]

theorem blockBool_encode (alloc : Nat → Bool) (value : BoolT) :
    (blockBool ⟨false, alloc⟩).encode value = (blockBool ⟨true, alloc⟩).encode (truth value) := by
  by_cases zero : value = 0
  · rw [zero]
    rfl
  · have one : (1 : Int32).toUInt32 = 1 := rfl
    simp [blockBool, xdrBool, ixdrBool, ixdrLong, word, truth, zero, one]

theorem message_alike (alloc : Nat → Bool) (m : Message) :
    Alike (fun v v' => v' = m.truthful v) (m.xdr ⟨true, alloc⟩) (m.xdr ⟨false, alloc⟩) := by
  have same {r : XdrProc m.Value} (plain : ∀ v, m.truthful v = v) :
      Alike (fun v v' => v' = m.truthful v) r r := by
    intro bytes
    exact ⟨id, fun v rest read => ⟨v, read, (plain v).symm⟩⟩
  cases m with
  | createLinkParms =>
      simp only [Message.xdr, xdrCreateLinkParms_eq]
      refine ((((alike_start ?_).field alike_refl).field (alike_blockBool alloc)).field
        alike_refl).field alike_refl
      rintro id _ rfl lock _ rfl timeout _ rfl device _ rfl
      rfl
  | deviceDocmdParms =>
      simp only [Message.xdr, xdrDeviceDocmdParms_eq]
      refine ((((((((alike_start ?_).field alike_refl).field alike_refl).field alike_refl).field
        alike_refl).field alike_refl).field (alike_blockBool alloc)).field alike_refl).field
        alike_refl
      rintro lid _ rfl flags _ rfl io _ rfl lock _ rfl cmd _ rfl order _ rfl size _ rfl data _ rfl
      rfl
  | deviceReadParms =>
      simp only [Message.xdr, xdrDeviceReadParms_eq]
      exact same fun _ => rfl
  | deviceRemoteFunc =>
      simp only [Message.xdr, xdrDeviceRemoteFunc_eq]
      exact same fun _ => rfl
  | _ => exact same fun _ => rfl

theorem message_encode_plain (alloc : Nat → Bool) (m : Message) (v : m.Value) :
    (m.xdr ⟨false, alloc⟩).encode v = (m.xdr ⟨true, alloc⟩).encode (m.truthful v) := by
  cases m with
  | createLinkParms =>
      simp only [Message.xdr, xdrCreateLinkParms_eq]
      exact Routine.field_encode_congr (Routine.field_encode_congr
        (Routine.field_encode_congr rfl (blockBool_encode alloc v.lockDevice)) rfl) rfl
  | deviceDocmdParms =>
      simp only [Message.xdr, xdrDeviceDocmdParms_eq]
      exact Routine.field_encode_congr (Routine.field_encode_congr
        (Routine.field_encode_congr rfl (blockBool_encode alloc v.networkOrder)) rfl) rfl
  | deviceReadParms => simp only [Message.xdr, xdrDeviceReadParms_eq, Message.truthful]
  | deviceRemoteFunc => simp only [Message.xdr, xdrDeviceRemoteFunc_eq, Message.truthful]
  | _ => rfl

/-- With buffers on both ways a message keeps its booleans. -/
theorem truthful_of_received (sender receiver : Host) (m : Message) (v : m.Value)
    (sends : sender.inline = true) (takes : receiver.inline = true)
    (same : m.received sender receiver (m.truthful v) = m.received sender receiver v) :
    m.truthful v = v := by
  cases m with
  | createLinkParms =>
      have locks := congrArg CreateLinkParms.lockDevice same
      simp only [Message.received, Message.truthful, carriedBool, sends, takes, Bool.and_self,
        ↓reduceIte] at locks
      simp only [Message.truthful, locks]
  | deviceDocmdParms =>
      have orders := congrArg DeviceDocmdParms.networkOrder same
      simp only [Message.received, Message.truthful, carriedBool, sends, takes, Bool.and_self,
        ↓reduceIte] at orders
      simp only [Message.truthful, orders]
  | _ => rfl

/-- The fields that `XDR_INLINE` has a buffer for are put on the wire and taken off
it as without one, save that only the plain routines make a boolean 0 or 1. -/
theorem inline_agrees (alloc : Nat → Bool) (m : Message) :
    (∀ bytes, (m.xdr ⟨false, alloc⟩).decode bytes =
      ((m.xdr ⟨true, alloc⟩).decode bytes).map fun got => (m.truthful got.1, got.2)) ∧
    ∀ v bytes, (m.xdr ⟨true, alloc⟩).encode v = some bytes →
      ((m.xdr ⟨false, alloc⟩).encode v = some bytes ↔ m.truthful v = v) := by
  refine ⟨(message_alike alloc m).decode_eq, ?_⟩
  intro v bytes put
  rw [message_encode_plain]
  constructor
  · intro same
    have roomy : ∀ size ≤ bytes.length, (⟨true, fun _ => true⟩ : Host).alloc size = true :=
      fun _ _ => rfl
    have first := message_conveys ⟨true, alloc⟩ ⟨true, fun _ => true⟩ m v bytes put roomy []
    have second := message_conveys ⟨true, alloc⟩ ⟨true, fun _ => true⟩ m _ bytes same roomy []
    rw [first, Option.some.injEq, Prod.mk.injEq] at second
    exact truthful_of_received _ _ m v rfl rfl second.1.symm
  · intro same
    rw [same]
    exact put

end ScpiVxiTmc.Vxi11
