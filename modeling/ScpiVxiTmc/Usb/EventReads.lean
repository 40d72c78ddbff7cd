import ScpiVxiTmc.Lib.Blocks
import ScpiVxiTmc.Lib.Simulation
import ScpiVxiTmc.Usb.Events
import ScpiVxiTmc.Usb.Packet

set_option autoImplicit false

/- The event loop of the control thread, down to the bytes that it reads. -/
namespace ScpiVxiTmc

/-- `NEVENT` -/
abbrev eventMax : Nat := 5

/-- The size of a `struct usb_gadgetfs_event` -/
abbrev usbGadgetfsEventSize : Nat := 12

/-- The array that `ep0_thread` reads into. -/
abbrev EventBuf := Vector UInt8 (eventMax * usbGadgetfsEventSize)

/-- An unsigned short from its bytes in memory. -/
def le16 (b0 b1 : UInt8) : UInt16 := UInt16.ofNat (b0.toNat + 256 * b1.toNat)

/-- `struct usb_gadgetfs_event`: the bytes of its union and its type. -/
structure UsbGadgetfsEvent where
  u : Vector UInt8 8
  type : BitVec 32

/-- The union as a `struct usb_ctrlrequest`. -/
def UsbCtrlrequest.ofUnion (u : Vector UInt8 8) : UsbCtrlrequest where
  bRequestType := u[0]
  bRequest := u[1]
  wValue := le16 u[2] u[3]
  wIndex := le16 u[4] u[5]
  wLength := le16 u[6] u[7]

namespace UsbGadgetfsEvent

/-- The structure in memory. -/
def bytes (event : UsbGadgetfsEvent) : List UInt8 :=
  event.u.toList ++ [le32Byte event.type 0, le32Byte event.type 1, le32Byte event.type 2,
    le32Byte event.type 3]

/-- The structure that a pointer to these bytes points at. -/
def ofBytes : List UInt8 → Option UsbGadgetfsEvent
  | [u0, u1, u2, u3, u4, u5, u6, u7, t0, t1, t2, t3] =>
      some ⟨#v[u0, u1, u2, u3, u4, u5, u6, u7], le32 t0 t1 t2 t3⟩
  | _ => none

/-- The switch over `type`, with what a request meets. -/
def event {τ : Type} (record : UsbGadgetfsEvent) (env : ControlEnv τ) : GadgetfsEvent τ :=
  if record.type = 0 then .nop
  else if record.type = 1 then .connect
  else if record.type = 3 then .setup (.ofUnion record.u) env
  else if record.type = 2 then .disconnect
  else if record.type = 4 then .suspend
  else .unhandled

@[simp] theorem bytes_length (record : UsbGadgetfsEvent) :
    record.bytes.length = usbGadgetfsEventSize := by
  rw [bytes, List.length_append, Vector.length_toList]
  rfl

theorem ofBytes_bytes (record : UsbGadgetfsEvent) : ofBytes record.bytes = some record := by
  rcases record with ⟨⟨⟨cells⟩, size⟩, type⟩
  match cells, size with
  | [_, _, _, _, _, _, _, _], _ =>
      exact congrArg (fun word => some (UsbGadgetfsEvent.mk _ word)) (le32_le32Byte type)

theorem le32Byte_le32 (b0 b1 b2 b3 : UInt8) :
    [le32Byte (le32 b0 b1 b2 b3) 0, le32Byte (le32 b0 b1 b2 b3) 1, le32Byte (le32 b0 b1 b2 b3) 2,
      le32Byte (le32 b0 b1 b2 b3) 3] = [b0, b1, b2, b3] := by
  have byte (b : UInt8) : b.toNat < 256 := b.toNat_lt
  have first := byte b0
  have second := byte b1
  have third := byte b2
  have fourth := byte b3
  simp only [List.cons.injEq, and_true]
  refine ⟨?_, ?_, ?_, ?_⟩ <;>
  · apply UInt8.toNat_inj.mp
    simp only [le32Byte, le32, UInt8.toNat_ofNat', BitVec.toNat_ofNat]
    omega

/-- Any twelve bytes are such a structure. -/
theorem exists_bytes {block : List UInt8} (long : block.length = usbGadgetfsEventSize) :
    ∃ record : UsbGadgetfsEvent, record.bytes = block := by
  match block, long with
  | [u0, u1, u2, u3, u4, u5, u6, u7, t0, t1, t2, t3], _ =>
      refine ⟨⟨#v[u0, u1, u2, u3, u4, u5, u6, u7], le32 t0 t1 t2 t3⟩, ?_⟩
      rw [bytes, le32Byte_le32]
      rfl

theorem exists_map_bytes {blocks : List (List UInt8)}
    (long : ∀ block ∈ blocks, block.length = usbGadgetfsEventSize) :
    ∃ records : List UsbGadgetfsEvent, records.map bytes = blocks := by
  induction blocks with
  | nil => exact ⟨[], rfl⟩
  | cons block rest ih =>
      obtain ⟨record, rfl⟩ := exists_bytes (long block List.mem_cons_self)
      obtain ⟨records, rfl⟩ := ih fun other member => long other (List.mem_cons_of_mem _ member)
      exact ⟨record :: records, rfl⟩

/-- The first structures in the array. -/
def recordsAt (event : EventBuf) (nevent : Nat) : Option (List UsbGadgetfsEvent) :=
  ((List.range nevent).map fun i =>
    (event.toList.drop (usbGadgetfsEventSize * i)).take usbGadgetfsEventSize).mapM ofBytes

theorem mapM_ofBytes (records : List UsbGadgetfsEvent) :
    (records.map bytes).mapM ofBytes = some records := by
  induction records with
  | nil => rfl
  | cons record rest ih =>
      rw [List.map_cons, List.mapM_cons, ofBytes_bytes, ih]
      rfl

/-- What the kernel stored is what the loop finds, whatever is behind it. -/
theorem recordsAt_of_front {event : EventBuf} {records : List UsbGadgetfsEvent}
    {fragment items : List UInt8} (stored : items = (records.map bytes).flatten ++ fragment)
    (short : fragment.length < usbGadgetfsEventSize) (front : items <+: event.toList) :
    recordsAt event (items.length / usbGadgetfsEventSize) = some records := by
  have whole : ∀ block ∈ records.map bytes, Blocks.Whole (fun _ => usbGadgetfsEventSize) block := by
    intro block member
    obtain ⟨record, _, rfl⟩ := List.mem_map.mp member
    exact (Blocks.whole_const (by decide) _).mpr record.bytes_length
  have walked := Blocks.walk_flatten whole fragment
  rw [(Blocks.stuck_of_short short).walk, List.append_nil, ← stored,
    Blocks.walk_const (by decide)] at walked
  have slices := (Prod.mk.inj walked).1
  obtain ⟨behind, same⟩ := front
  rw [recordsAt, ← mapM_ofBytes records, ← slices]
  congr 1
  apply List.map_congr_left
  intro i inside
  -- the structure lies in the part that was stored
  have within : usbGadgetfsEventSize * i + usbGadgetfsEventSize ≤ items.length := by
    have more := Nat.mul_le_mul_left usbGadgetfsEventSize
      (Nat.succ_le_of_lt (List.mem_range.mp inside))
    have all := Nat.mul_div_le items.length usbGadgetfsEventSize
    rw [Nat.mul_succ] at more
    omega
  rw [← same, List.drop_append_of_le_length (by omega), List.take_append_of_le_length]
  rw [List.length_drop]
  omega

end UsbGadgetfsEvent

/-- What a round of the outer loop gets, down to the bytes: what is in the array on
the stack, what the read brings, and what the request of each event meets. -/
inductive Ep0FileRead (τ : Type)
  | pollFailed
  | again
  | failed
  | bytes (stack : EventBuf) (items : List UInt8) (envs : Nat → ControlEnv τ)

/-- The events that the inner loop goes through; none if the read stored more than
the array holds. -/
def Ep0FileRead.decode {τ : Type} : Ep0FileRead τ → Option (Ep0Read τ)
  | .pollFailed => some .pollFailed
  | .again => some .again
  | .failed => some .failed
  | .bytes stack items envs => (Buffer.store? stack 0 items).bind fun event =>
      let nevent := items.length / usbGadgetfsEventSize
      (UsbGadgetfsEvent.recordsAt event nevent).map fun records =>
        .events (records.mapIdx fun i record => record.event (envs i))

/-- A read that the kernel answers with events: as many as fit, and at the end
perhaps a part of one. -/
structure KernelRead (τ : Type) where
  stack : EventBuf
  records : List UsbGadgetfsEvent
  fragment : List UInt8
  envs : Nat → ControlEnv τ
  short : fragment.length < usbGadgetfsEventSize
  fits : usbGadgetfsEventSize * records.length + fragment.length ≤ eventMax * usbGadgetfsEventSize

namespace KernelRead

variable {τ : Type}

def items (read : KernelRead τ) : List UInt8 :=
  (read.records.map UsbGadgetfsEvent.bytes).flatten ++ read.fragment

def fileRead (read : KernelRead τ) : Ep0FileRead τ := .bytes read.stack read.items read.envs

/-- The events that were meant. -/
def events (read : KernelRead τ) : List (GadgetfsEvent τ) :=
  read.records.mapIdx fun i record => record.event (read.envs i)

theorem flatten_bytes_length (records : List UsbGadgetfsEvent) :
    (records.map UsbGadgetfsEvent.bytes).flatten.length =
      usbGadgetfsEventSize * records.length := by
  have twelve : List.length ∘ UsbGadgetfsEvent.bytes = fun _ => usbGadgetfsEventSize :=
    funext UsbGadgetfsEvent.bytes_length
  rw [List.length_flatten, List.map_map, twelve, List.map_const', List.sum_replicate_nat,
    Nat.mul_comm]

theorem decode (read : KernelRead τ) : read.fileRead.decode = some (.events read.events) := by
  have room : 0 + read.items.length ≤ eventMax * usbGadgetfsEventSize := by
    rw [items, List.length_append, flatten_bytes_length, Nat.zero_add]
    exact read.fits
  have front : read.items <+: (Buffer.store read.stack 0 read.items room).toList := by
    rw [Buffer.store_front_toList]
    exact List.prefix_append _ _
  have found : UsbGadgetfsEvent.recordsAt (Buffer.store read.stack 0 read.items room)
      (read.items.length / usbGadgetfsEventSize) = some read.records :=
    UsbGadgetfsEvent.recordsAt_of_front rfl read.short front
  rw [fileRead, Ep0FileRead.decode, Buffer.store?_of_fits _ _ _ room, Option.bind_some]
  exact congrArg (Option.map _) found

/-- Any read that the array has room for is one of these. -/
theorem exists_of_fits (stack : EventBuf) (items : List UInt8) (envs : Nat → ControlEnv τ)
    (room : items.length ≤ eventMax * usbGadgetfsEventSize) :
    ∃ read : KernelRead τ, read.fileRead = .bytes stack items envs := by
  obtain ⟨same, whole, stuck⟩ := Blocks.walk_exact (fun _ => usbGadgetfsEventSize) items
  have short := Blocks.short_of_stuck (by decide) stuck
  obtain ⟨records, blocks⟩ := UsbGadgetfsEvent.exists_map_bytes fun block member =>
    (Blocks.whole_const (by decide) block).mp (whole block member)
  rw [← blocks] at same
  have sizes := congrArg List.length same
  rw [List.length_append, flatten_bytes_length] at sizes
  refine ⟨⟨stack, records, _, envs, short, by omega⟩, ?_⟩
  rw [fileRead, KernelRead.items, ← same]

end KernelRead

variable {τ : Type} [DecidableEq τ]

/-- One round of the outer loop. -/
def ep0FileRound (strings : UsbGadgetStrings) (thread : Ep0Thread τ) (read : Ep0FileRead τ) :
    Option (List (Ledger.Entry τ) × Ep0Thread τ) :=
  read.decode.bind (ep0Round strings thread)

/-- The switch over an event, `connected` left aside. -/
def gadgetStep (strings : UsbGadgetStrings) (gadget : Gadget τ) (event : GadgetfsEvent τ) :
    Option (List (Ledger.Entry τ) × Gadget τ) :=
  (gadgetfsEvent strings ⟨false, gadget⟩ event).map fun done => (done.1, done.2.gadget)

theorem gadgetfsEvent_gadget (strings : UsbGadgetStrings) (loop : Ep0Loop τ)
    (event : GadgetfsEvent τ) :
    (gadgetfsEvent strings loop event).map (fun done => (done.1, done.2.gadget)) =
      gadgetStep strings loop.gadget event := by
  cases event with
  | setup request env =>
      rw [gadgetStep, gadgetfsEvent, gadgetfsEvent, Option.map_map]
  | nop | connect | disconnect | suspend | unhandled => rfl

theorem exec_gadget (strings : UsbGadgetStrings) (loop : Ep0Loop τ)
    (events : List (GadgetfsEvent τ)) :
    (Machine.exec (gadgetfsEvent strings) loop events).map (fun done => (done.1, done.2.gadget)) =
      Machine.exec (gadgetStep strings) loop.gadget events := by
  induction events generalizing loop with
  | nil => rfl
  | cons event rest ih =>
      rw [Machine.exec, Machine.exec, ← gadgetfsEvent_gadget]
      cases gadgetfsEvent strings loop event with
      | none => rfl
      | some done =>
          rw [Option.bind_some, Option.map_some, Option.bind_some, ← ih, Option.map_map,
            Option.map_map]
          rfl

/-- A round of the outer loop goes through its batch and makes the calls in a row. -/
theorem ep0Round_batch (strings : UsbGadgetStrings) (gadget : Gadget τ)
    (batch : List (GadgetfsEvent τ)) :
    ep0Round strings ⟨gadget, none⟩ (.events batch) =
      (Machine.exec (gadgetStep strings) gadget batch).map fun done =>
        (done.1.flatten, ⟨done.2, none⟩) := by
  rw [← exec_gadget strings ⟨false, gadget⟩, Option.map_map]
  rfl

/-- Whatever way the kernel hands its events over, however many in a read, with what
fragments behind them and what left on the stack, the control thread makes the calls
that its switch makes on the events in a row, and leaves the gadget in the same state.
Bytes that the array has room for are always handed over in one of these ways. -/
theorem ep0_reads_are_events (strings : UsbGadgetStrings) (gadget : Gadget τ)
    (reads : List (KernelRead τ)) :
    ((Machine.exec (ep0FileRound strings) ⟨gadget, none⟩ (reads.map KernelRead.fileRead)).map
        (fun done => (done.1.flatten, done.2)) =
      (Machine.exec (gadgetStep strings) gadget (reads.flatMap KernelRead.events)).map
        fun done => (done.1.flatten, ⟨done.2, none⟩)) ∧
    ∀ stack items envs, items.length ≤ eventMax * usbGadgetfsEventSize →
      ∃ read : KernelRead τ, read.fileRead = .bytes stack items envs := by
  refine ⟨?_, KernelRead.exists_of_fits⟩
  have round (gadget : Gadget τ) (read : KernelRead τ) :
      ep0FileRound strings ⟨gadget, none⟩ read.fileRead =
        (Machine.exec (gadgetStep strings) gadget read.events).map fun done =>
          (done.1.flatten, ⟨done.2, none⟩) := by
    rw [ep0FileRound, read.decode, Option.bind_some, ep0Round_batch]
  rw [Machine.exec_embed round gadget reads, Machine.exec_flatMap, Option.map_map, Option.map_map]
  simp only [Function.comp_def, List.flatten_flatten]

end ScpiVxiTmc
