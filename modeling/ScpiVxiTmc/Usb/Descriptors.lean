import ScpiVxiTmc.Lib.Blocks
import ScpiVxiTmc.Usb.Packet
import ScpiVxiTmc.Usb.Strings

set_option autoImplicit false

/- The descriptors that the program writes to the files of gadgetfs. -/
namespace ScpiVxiTmc

/-- `USB_DT_ENDPOINT_SIZE` -/
abbrev usbDtEndpointSize : Nat := 7

/-- `struct usb_device_descriptor` -/
structure UsbDeviceDescriptor where
  bLength : UInt8
  bDescriptorType : UInt8
  bcdUSB : UInt16
  bDeviceClass : UInt8
  bDeviceSubClass : UInt8
  bDeviceProtocol : UInt8
  bMaxPacketSize0 : UInt8
  idVendor : UInt16
  idProduct : UInt16
  bcdDevice : UInt16
  iManufacturer : UInt8
  iProduct : UInt8
  iSerialNumber : UInt8
  bNumConfigurations : UInt8

/-- `struct usb_config_descriptor` -/
structure UsbConfigDescriptor where
  bLength : UInt8
  bDescriptorType : UInt8
  wTotalLength : UInt16
  bNumInterfaces : UInt8
  bConfigurationValue : UInt8
  iConfiguration : UInt8
  bmAttributes : UInt8
  bMaxPower : UInt8

/-- `struct usb_interface_descriptor` -/
structure UsbInterfaceDescriptor where
  bLength : UInt8
  bDescriptorType : UInt8
  bInterfaceNumber : UInt8
  bAlternateSetting : UInt8
  bNumEndpoints : UInt8
  bInterfaceClass : UInt8
  bInterfaceSubClass : UInt8
  bInterfaceProtocol : UInt8
  iInterface : UInt8

/-- `struct usb_endpoint_descriptor`. The last two members are for audio only. -/
structure UsbEndpointDescriptor where
  bLength : UInt8
  bDescriptorType : UInt8
  bEndpointAddress : UInt8
  bmAttributes : UInt8
  wMaxPacketSize : UInt16
  bInterval : UInt8
  bRefresh : UInt8
  bSynchAddress : UInt8

/- The members in memory; the structures are packed and the target is little-endian. -/

def UsbDeviceDescriptor.bytes (d : UsbDeviceDescriptor) : List UInt8 :=
  [d.bLength, d.bDescriptorType] ++ le16Bytes d.bcdUSB ++
    [d.bDeviceClass, d.bDeviceSubClass, d.bDeviceProtocol, d.bMaxPacketSize0] ++
    le16Bytes d.idVendor ++ le16Bytes d.idProduct ++ le16Bytes d.bcdDevice ++
    [d.iManufacturer, d.iProduct, d.iSerialNumber, d.bNumConfigurations]

def UsbConfigDescriptor.bytes (d : UsbConfigDescriptor) : List UInt8 :=
  [d.bLength, d.bDescriptorType] ++ le16Bytes d.wTotalLength ++
    [d.bNumInterfaces, d.bConfigurationValue, d.iConfiguration, d.bmAttributes, d.bMaxPower]

def UsbInterfaceDescriptor.bytes (d : UsbInterfaceDescriptor) : List UInt8 :=
  [d.bLength, d.bDescriptorType, d.bInterfaceNumber, d.bAlternateSetting, d.bNumEndpoints,
    d.bInterfaceClass, d.bInterfaceSubClass, d.bInterfaceProtocol, d.iInterface]

def UsbEndpointDescriptor.bytes (d : UsbEndpointDescriptor) : List UInt8 :=
  [d.bLength, d.bDescriptorType, d.bEndpointAddress, d.bmAttributes] ++
    le16Bytes d.wMaxPacketSize ++ [d.bInterval, d.bRefresh, d.bSynchAddress]

/-- The part of it that is copied. -/
def UsbEndpointDescriptor.standard (d : UsbEndpointDescriptor) : List UInt8 :=
  d.bytes.take usbDtEndpointSize

/-- The globals of the program that make up the descriptors, and `HIGHSPEED`. -/
structure Descriptors where
  highspeed : Bool
  deviceDesc : UsbDeviceDescriptor
  tmcInterface : UsbInterfaceDescriptor
  config : UsbConfigDescriptor
  fsSourceDesc : UsbEndpointDescriptor
  fsSinkDesc : UsbEndpointDescriptor
  fsStatusDesc : UsbEndpointDescriptor
  hsSourceDesc : UsbEndpointDescriptor
  hsSinkDesc : UsbEndpointDescriptor
  hsStatusDesc : UsbEndpointDescriptor

namespace Descriptors

/-- A bulk endpoint, before it has its address. -/
def bulkDesc : UsbEndpointDescriptor := ⟨7, 5, 0, 2, 512, 0, 0, 0⟩

/-- An interrupt endpoint. -/
def statusDesc : UsbEndpointDescriptor := ⟨7, 5, 0, 3, 512, 0, 0, 0⟩

/-- As they are initialised -/
def initial : Descriptors where
  highspeed := false
  deviceDesc := ⟨18, 1, 0x0200, 0, 0, 0, 0, 0xC03E, 0xa4a4, 0x0001, 1, 2, 3, 1⟩
  tmcInterface := ⟨9, 4, 0, 0, 2, 0xfe, 0x03, 0x01, 5⟩
  config := ⟨9, 2, 0x20, 1, 1, 4, 0x80, 1⟩
  fsSourceDesc := bulkDesc
  fsSinkDesc := bulkDesc
  fsStatusDesc := statusDesc
  hsSourceDesc := bulkDesc
  hsSinkDesc := bulkDesc
  hsStatusDesc := statusDesc

/-- `autoconfig`: `-ENODEV` if the controller is not there. -/
def autoconfig (t : Descriptors) (found : Bool) : Int × Descriptors :=
  if found then
    (0, { t with
      highspeed := true
      deviceDesc := { t.deviceDesc with bcdDevice := 0x0100 }
      fsSourceDesc := { t.fsSourceDesc with bEndpointAddress := 0x80 ||| 0x01 }
      hsSourceDesc := { t.hsSourceDesc with bEndpointAddress := 0x80 ||| 0x01 }
      fsSinkDesc := { t.fsSinkDesc with bEndpointAddress := 0 ||| 0x03 }
      hsSinkDesc := { t.hsSinkDesc with bEndpointAddress := 0 ||| 0x03 } })
  else (-19, t)

/-- `fs_eps` -/
def fsEps (t : Descriptors) : List UsbEndpointDescriptor :=
  [t.fsSourceDesc, t.fsSinkDesc, t.fsStatusDesc]

/-- `hs_eps` -/
def hsEps (t : Descriptors) : List UsbEndpointDescriptor :=
  [t.hsSourceDesc, t.hsSinkDesc, t.hsStatusDesc]

end Descriptors

section
variable {n : Nat}

/-- `memcpy` of the first bytes of an object into the buffer; none where it leaves
one of them. -/
def memcpy? (buf : Vector UInt8 n) (cp : Nat) (object : List UInt8) (count : Nat) :
    Option (Vector UInt8 n) :=
  if count ≤ object.length then Buffer.store? buf cp (object.take count) else none

/-- The loop of `build_config`, over what is left of the table and of the count. -/
def endpointLoop (buf : Vector UInt8 n) (cp : Nat) :
    List UsbEndpointDescriptor → Nat → Option (Vector UInt8 n × Nat)
  | _, 0 => some (buf, cp)
  | [], _ + 1 => none
  | ep :: eps, left + 1 => (memcpy? buf cp ep.bytes usbDtEndpointSize).bind fun filled =>
      endpointLoop filled (cp + usbDtEndpointSize) eps left

/-- `build_config`: the buffer and the place behind what it put there. -/
def buildConfig (t : Descriptors) (buf : Vector UInt8 n) (c : Nat)
    (ep : List UsbEndpointDescriptor) : Option (Vector UInt8 n × Nat) :=
  (memcpy? buf c t.config.bytes t.config.bLength.toNat).bind fun buf =>
    let cp := c + t.config.bLength.toNat
    (memcpy? buf cp t.tmcInterface.bytes t.tmcInterface.bLength.toNat).bind fun buf =>
      let cp := cp + t.tmcInterface.bLength.toNat
      (endpointLoop buf cp ep t.tmcInterface.bNumEndpoints.toNat).bind fun done =>
        -- c->wTotalLength
        (Buffer.store? done.1 (c + 2) (le16Bytes (UInt16.ofNat (done.2 - c)))).map fun buf =>
          (buf, done.2)

end

/-- The buffer of `init_device`. -/
abbrev ImageBuf := Vector UInt8 4096

/-- What `init_device` puts there, and how much of it there is to write. -/
def deviceImage (t : Descriptors) (buf : ImageBuf) : Option (ImageBuf × Nat) :=
  (Buffer.store? buf 0 [0, 0, 0, 0]).bind fun buf =>
    (buildConfig t buf 4 t.fsEps).bind fun fs =>
      (if t.highspeed then buildConfig t fs.1 fs.2 t.hsEps else some fs).bind fun done =>
        (memcpy? done.1 done.2 t.deviceDesc.bytes 18).map fun buf => (buf, done.2 + 18)

/-- What `ep_config` puts into its buffer, and how much of it there is to write. -/
def epImage (t : Descriptors) (fs hs : UsbEndpointDescriptor) (buf : Vector UInt8 usbBufsize) :
    Option (Vector UInt8 usbBufsize × Nat) :=
  (Buffer.store? buf 0 [1, 0, 0, 0]).bind fun buf =>
    (memcpy? buf 4 fs.bytes usbDtEndpointSize).bind fun buf =>
      (if t.highspeed then memcpy? buf (4 + usbDtEndpointSize) hs.bytes usbDtEndpointSize
        else some buf).map fun buf =>
          (buf, 4 + usbDtEndpointSize + if t.highspeed then usbDtEndpointSize else 0)

/-- Every descriptor says its own length, and the tables are long enough for the
interface. -/
structure Descriptors.WellFormed (t : Descriptors) : Prop where
  device : t.deviceDesc.bLength = 18
  config : t.config.bLength = 9
  interface : t.tmcInterface.bLength = 9
  fs : ∀ ep ∈ t.fsEps, ep.bLength = 7
  hs : ∀ ep ∈ t.hsEps, ep.bLength = 7
  few : t.tmcInterface.bNumEndpoints.toNat ≤ 3

/-- The tables of the program, once the controller is found. -/
def Descriptors.found : Descriptors := (Descriptors.initial.autoconfig true).2

theorem found_wellFormed : Descriptors.found.WellFormed where
  device := rfl
  config := rfl
  interface := rfl
  fs := by decide
  hs := by decide
  few := by decide

/-- `wTotalLength` as `build_config` computes it. -/
def Descriptors.totalLength (t : Descriptors) : Nat :=
  9 + 9 + usbDtEndpointSize * t.tmcInterface.bNumEndpoints.toNat

/-- The descriptors of a configuration. -/
def Descriptors.configuration (t : Descriptors) (ep : List UsbEndpointDescriptor) :
    List (List UInt8) :=
  { t.config with wTotalLength := UInt16.ofNat t.totalLength }.bytes :: t.tmcInterface.bytes ::
    (ep.take t.tmcInterface.bNumEndpoints.toNat).map UsbEndpointDescriptor.standard

/-- The `wTotalLength` of a configuration descriptor in front of a stream. -/
def wTotalLengthOf : List UInt8 → Option Nat
  | _ :: _ :: low :: high :: _ => some (low.toNat + 256 * high.toNat)
  | _ => none

/-- The configurations, one for each speed. -/
def Descriptors.configurations (t : Descriptors) : List (List (List UInt8)) :=
  if t.highspeed then [t.configuration t.fsEps, t.configuration t.hsEps]
  else [t.configuration t.fsEps]

/-- The descriptors of one endpoint, one for each speed. -/
def Descriptors.endpoint (t : Descriptors) (fs hs : UsbEndpointDescriptor) : List (List UInt8) :=
  if t.highspeed then [fs.standard, hs.standard] else [fs.standard]

/-- One configuration off the front of a stream: as much as its `wTotalLength`
says, cut into descriptors by their `bLength`. -/
def takeConfiguration (image : List UInt8) : Option (List (List UInt8) × List UInt8) :=
  (wTotalLengthOf image).bind fun total =>
    let cut := Blocks.walk UInt8.toNat (image.take total)
    if total ≤ image.length ∧ cut.2 = [] then some (cut.1, image.drop total) else none

/-- What the file for the device is given: a tag, a configuration for each speed,
and the device descriptor at the end. -/
def readDeviceImage (highspeed : Bool) (image : List UInt8) :
    Option (List (List (List UInt8)) × List UInt8) :=
  (takeConfiguration (image.drop 4)).bind fun fs =>
    (if highspeed then (takeConfiguration fs.2).map fun hs => ([fs.1, hs.1], hs.2)
      else some ([fs.1], fs.2)).bind fun configurations =>
        if image.take 4 = [0, 0, 0, 0] ∧ Blocks.Whole UInt8.toNat configurations.2 then
          some configurations
        else none

section
variable {n : Nat} {buf : Vector UInt8 n} {front : List UInt8} {t : Descriptors}

theorem memcpy?_extends (begins : front <+: buf.toList) (object : List UInt8) (count : Nat)
    (within : count ≤ object.length) (room : front.length + count ≤ n) :
    ∃ filled, memcpy? buf front.length object count = some filled ∧
      front ++ object.take count <+: filled.toList := by
  have size : (object.take count).length = count := by
    rw [List.length_take]
    omega
  have fits : front.length + (object.take count).length ≤ n := by omega
  rw [memcpy?, if_pos within, Buffer.store?_of_fits buf front.length _ fits]
  exact ⟨_, rfl, Buffer.store_extends begins _ fits⟩

theorem standard_length (ep : UsbEndpointDescriptor) : ep.standard.length = 7 := rfl

theorem endpointLoop_extends (eps : List UsbEndpointDescriptor) (left : Nat)
    (begins : front <+: buf.toList) (within : left ≤ eps.length)
    (room : front.length + 7 * left ≤ n) :
    ∃ filled, endpointLoop buf front.length eps left = some (filled, front.length + 7 * left) ∧
      front ++ ((eps.take left).map UsbEndpointDescriptor.standard).flatten <+:
        filled.toList := by
  induction left generalizing buf front eps with
  | zero =>
      cases eps <;> exact ⟨buf, rfl, by simpa using begins⟩
  | succ left ih =>
      cases eps with
      | nil => cases within
      | cons ep eps =>
          obtain ⟨next, copied, more⟩ := memcpy?_extends begins ep.bytes usbDtEndpointSize
            (show 7 ≤ 9 by decide) (show front.length + 7 ≤ n by omega)
          have reach : (front ++ ep.standard).length = front.length + 7 := by
            rw [List.length_append, standard_length]
          obtain ⟨filled, looped, all⟩ := ih eps more
            (Nat.le_of_succ_le_succ within) (by rw [← UsbEndpointDescriptor.standard, reach]; omega)
          refine ⟨filled, ?_, ?_⟩
          · rw [endpointLoop, copied, Option.bind_some]
            rw [← UsbEndpointDescriptor.standard, reach] at looped
            rw [looped]
            congr 2
            omega
          · rw [List.take_succ_cons, List.map_cons, List.flatten_cons, ← List.append_assoc]
            exact all

theorem Descriptors.WellFormed.totalLength_le (wellFormed : t.WellFormed) :
    t.totalLength ≤ 39 := by
  have few := wellFormed.few
  show 9 + 9 + 7 * t.tmcInterface.bNumEndpoints.toNat ≤ 39
  omega

theorem Descriptors.configuration_length (t : Descriptors) (eps : List UsbEndpointDescriptor)
    (within : t.tmcInterface.bNumEndpoints.toNat ≤ eps.length) :
    (t.configuration eps).flatten.length = t.totalLength := by
  have copied : ((eps.take t.tmcInterface.bNumEndpoints.toNat).map
      UsbEndpointDescriptor.standard).flatten.length =
        7 * t.tmcInterface.bNumEndpoints.toNat := by
    have seven : List.length ∘ UsbEndpointDescriptor.standard = fun _ => 7 :=
      funext standard_length
    rw [List.length_flatten, List.map_map, seven, List.map_const', List.sum_replicate_nat,
      List.length_take, Nat.min_eq_left within, Nat.mul_comm]
  rw [configuration, List.flatten_cons, List.flatten_cons, List.length_append,
    List.length_append, copied]
  show 9 + (9 + 7 * t.tmcInterface.bNumEndpoints.toNat) =
    9 + 9 + 7 * t.tmcInterface.bNumEndpoints.toNat
  omega

/-- The store to `wTotalLength` changes that member and nothing else. -/
theorem store_totalLength {d : UsbConfigDescriptor} {behind : List UInt8}
    (begins : front ++ (d.bytes ++ behind) <+: buf.toList) (total : UInt16)
    (room : front.length + 4 ≤ n) :
    ∃ filled, Buffer.store? buf (front.length + 2) (le16Bytes total) = some filled ∧
      front ++ ({ d with wTotalLength := total }.bytes ++ behind) <+: filled.toList := by
  have place : (front ++ [d.bLength, d.bDescriptorType]).length = front.length + 2 :=
    List.length_append
  have fits : (front ++ [d.bLength, d.bDescriptorType]).length + (le16Bytes total).length ≤ n := by
    rw [place]
    exact room
  have apart (word : UInt16) : front ++ ({ d with wTotalLength := word }.bytes ++ behind) =
      front ++ [d.bLength, d.bDescriptorType] ++ le16Bytes word ++
        ([d.bNumInterfaces, d.bConfigurationValue, d.iConfiguration, d.bmAttributes,
          d.bMaxPower] ++ behind) := by
    simp only [UsbConfigDescriptor.bytes, List.append_assoc]
  have before := (apart d.wTotalLength).subst (motive := fun items => items <+: buf.toList) begins
  rw [← place, Buffer.store?_of_fits buf _ _ fits, apart]
  exact ⟨_, rfl, Buffer.store_replaces before (le16Bytes total) rfl fits⟩

/-- `build_config` puts a whole configuration behind what is there. -/
theorem buildConfig_extends (wellFormed : t.WellFormed) (eps : List UsbEndpointDescriptor)
    (begins : front <+: buf.toList)
    (within : t.tmcInterface.bNumEndpoints.toNat ≤ eps.length)
    (room : front.length + t.totalLength ≤ n) :
    ∃ filled, buildConfig t buf front.length eps = some (filled, front.length + t.totalLength) ∧
      front ++ (t.configuration eps).flatten <+: filled.toList := by
  have total : t.totalLength = 9 + 9 + 7 * t.tmcInterface.bNumEndpoints.toNat := rfl
  obtain ⟨one, first, begins⟩ :=
    memcpy?_extends begins t.config.bytes 9 (Nat.le_refl 9) (by omega)
  have nine : (front ++ t.config.bytes.take 9).length = front.length + 9 := List.length_append
  obtain ⟨two, second, begins⟩ :=
    memcpy?_extends begins t.tmcInterface.bytes 9 (Nat.le_refl 9) (by omega)
  have eighteen : (front ++ t.config.bytes.take 9 ++ t.tmcInterface.bytes.take 9).length =
      front.length + 9 + 9 := by
    rw [List.length_append, nine]
    rfl
  obtain ⟨three, third, begins⟩ :=
    endpointLoop_extends eps t.tmcInterface.bNumEndpoints.toNat begins within (by omega)
  rw [nine] at second
  rw [eighteen] at third
  rw [List.append_assoc, List.append_assoc] at begins
  obtain ⟨filled, stored, whole⟩ := store_totalLength (d := t.config) begins
    (UInt16.ofNat t.totalLength) (by omega)
  have come : front.length + 9 + 9 + 7 * t.tmcInterface.bNumEndpoints.toNat - front.length =
      t.totalLength := by omega
  refine ⟨filled, ?_, whole⟩
  simp only [buildConfig, wellFormed.config, wellFormed.interface, UInt8.reduceToNat, first,
    Option.bind_some, second, third, come, stored, Option.map_some, Option.some.injEq,
    Prod.mk.injEq, true_and]
  omega

theorem wTotalLengthOf_config (d : UsbConfigDescriptor) (rest : List UInt8) :
    wTotalLengthOf (d.bytes ++ rest) = some d.wTotalLength.toNat := by
  have bound := d.wTotalLength.toNat_lt
  show some (d.wTotalLength.toUInt8.toNat + 256 * (d.wTotalLength >>> 8).toUInt8.toNat) = _
  simp only [UInt16.toNat_toUInt8, UInt16.toNat_shiftRight, UInt16.reduceToNat, Nat.reduceMod,
    Nat.shiftRight_eq_div_pow, Option.some.injEq]
  omega

theorem Descriptors.configuration_whole (wellFormed : t.WellFormed)
    {eps : List UsbEndpointDescriptor} (seven : ∀ ep ∈ eps, ep.bLength = 7) :
    ∀ block ∈ t.configuration eps, Blocks.Whole UInt8.toNat block := by
  intro block member
  rw [configuration, List.mem_cons, List.mem_cons, List.mem_map] at member
  rcases member with rfl | rfl | ⟨ep, taken, rfl⟩
  · exact congrArg UInt8.toNat wellFormed.config
  · exact congrArg UInt8.toNat wellFormed.interface
  · exact congrArg UInt8.toNat (seven ep (List.mem_of_mem_take taken))

/-- A configuration comes off the front as it was put there. -/
theorem takeConfiguration_append (wellFormed : t.WellFormed) {eps : List UsbEndpointDescriptor}
    (seven : ∀ ep ∈ eps, ep.bLength = 7)
    (within : t.tmcInterface.bNumEndpoints.toNat ≤ eps.length) (rest : List UInt8) :
    takeConfiguration ((t.configuration eps).flatten ++ rest) =
      some (t.configuration eps, rest) := by
  have small := wellFormed.totalLength_le
  have long := t.configuration_length eps within
  have word : wTotalLengthOf ((t.configuration eps).flatten ++ rest) = some t.totalLength := by
    rw [Descriptors.configuration, List.flatten_cons, List.append_assoc, wTotalLengthOf_config,
      UInt16.toNat_ofNat', Nat.mod_eq_of_lt (by omega)]
  have cut := Blocks.walk_flatten (t.configuration_whole wellFormed seven) []
  rw [List.append_nil, Blocks.walk_nil, List.append_nil] at cut
  have enough : t.totalLength ≤ ((t.configuration eps).flatten ++ rest).length := by
    rw [List.length_append]
    omega
  rw [takeConfiguration, word, Option.bind_some, List.take_left' long, List.drop_left' long, cut]
  exact if_pos ⟨enough, rfl⟩

theorem prefix_take {items : List UInt8} {count : Nat} (begins : items <+: buf.toList)
    (size : items.length = count) : buf.toList.take count = items := by
  obtain ⟨rest, same⟩ := begins
  rw [← same, List.take_left' size]

theorem Descriptors.configurations_length (wellFormed : t.WellFormed) :
    t.configurations.flatten.flatten.length =
      if t.highspeed then t.totalLength + t.totalLength else t.totalLength := by
  have fs := t.configuration_length t.fsEps wellFormed.few
  have hs := t.configuration_length t.hsEps wellFormed.few
  cases speed : t.highspeed with
  | false => simp [Descriptors.configurations, speed, fs]
  | true =>
      simp only [Descriptors.configurations, speed, ↓reduceIte, List.flatten_cons,
        List.flatten_nil, List.append_nil, List.flatten_append, List.length_append, fs, hs]

/-- The configurations for both speeds, one behind the other. -/
theorem configurations_extend (wellFormed : t.WellFormed) (begins : front <+: buf.toList)
    (room : front.length + t.configurations.flatten.flatten.length ≤ n) :
    ∃ fs filled, buildConfig t buf front.length t.fsEps = some fs ∧
      (if t.highspeed then buildConfig t fs.1 fs.2 t.hsEps else some fs) =
        some (filled, front.length + t.configurations.flatten.flatten.length) ∧
      front ++ t.configurations.flatten.flatten <+: filled.toList := by
  rw [t.configurations_length wellFormed] at room ⊢
  have fsEnd := t.configuration_length t.fsEps wellFormed.few
  cases speed : t.highspeed with
  | false =>
      simp only [speed, Bool.false_eq_true, ↓reduceIte] at room ⊢
      obtain ⟨one, first, begins⟩ := buildConfig_extends wellFormed t.fsEps begins
        wellFormed.few room
      refine ⟨_, one, first, rfl, ?_⟩
      rw [Descriptors.configurations, speed, if_neg Bool.false_ne_true, List.flatten_cons,
        List.flatten_nil, List.append_nil]
      exact begins
  | true =>
      simp only [speed, ↓reduceIte] at room ⊢
      obtain ⟨one, first, begins⟩ := buildConfig_extends wellFormed t.fsEps begins
        wellFormed.few (by omega)
      have reach : (front ++ (t.configuration t.fsEps).flatten).length =
          front.length + t.totalLength := by
        rw [List.length_append, fsEnd]
      obtain ⟨two, second, begins⟩ := buildConfig_extends wellFormed t.hsEps begins
        wellFormed.few (by omega)
      rw [reach, Nat.add_assoc] at second
      refine ⟨_, two, first, second, ?_⟩
      rw [Descriptors.configurations, speed, if_pos rfl, List.flatten_cons, List.flatten_cons,
        List.flatten_nil, List.append_nil, List.flatten_append, ← List.append_assoc]
      exact begins

end

/-- `init_device` has the tag, the configurations and the device descriptor to write,
whatever its stack held. -/
theorem deviceImage_eq {t : Descriptors} (wellFormed : t.WellFormed) (buf : ImageBuf) :
    ∃ filled count, deviceImage t buf = some (filled, count) ∧ count ≤ 4096 ∧
      filled.toList.take count =
        [0, 0, 0, 0] ++ t.configurations.flatten.flatten ++ t.deviceDesc.bytes := by
  have small := wellFormed.totalLength_le
  have both := t.configurations_length wellFormed
  have bound : t.configurations.flatten.flatten.length ≤ 78 := by
    rw [both]
    split <;> omega
  have four : 0 + [0, 0, 0, 0].length ≤ 4096 := by decide
  have tag : [0, 0, 0, 0] <+: (Buffer.store buf 0 [0, 0, 0, 0] four).toList := by
    rw [Buffer.store_front_toList]
    exact List.prefix_append _ _
  obtain ⟨fs, done, first, second, begins⟩ := configurations_extend wellFormed tag
    (show 4 + t.configurations.flatten.flatten.length ≤ 4096 by omega)
  have reach : ([0, 0, 0, 0] ++ t.configurations.flatten.flatten).length =
      4 + t.configurations.flatten.flatten.length := List.length_append
  obtain ⟨filled, third, whole⟩ := memcpy?_extends begins t.deviceDesc.bytes 18
    (Nat.le_refl 18) (by omega)
  rw [reach] at third
  refine ⟨filled, 4 + t.configurations.flatten.flatten.length + 18, ?_, by omega, ?_⟩
  · rw [deviceImage, Buffer.store?_of_fits buf 0 _ four, Option.bind_some]
    show (buildConfig t _ [(0 : UInt8), 0, 0, 0].length t.fsEps).bind _ = _
    rw [first, Option.bind_some, second, Option.bind_some]
    exact congrArg (Option.map _) third
  · apply prefix_take whole
    rw [List.length_append, reach]
    rfl

theorem readDeviceImage_eq {t : Descriptors} (wellFormed : t.WellFormed) :
    readDeviceImage t.highspeed
        ([0, 0, 0, 0] ++ t.configurations.flatten.flatten ++ t.deviceDesc.bytes) =
      some (t.configurations, t.deviceDesc.bytes) := by
  have device : Blocks.Whole UInt8.toNat t.deviceDesc.bytes :=
    congrArg UInt8.toNat wellFormed.device
  have fs := takeConfiguration_append wellFormed wellFormed.fs wellFormed.few
  have hs := takeConfiguration_append wellFormed wellFormed.hs wellFormed.few
  have tag (rest : List UInt8) : ([0, 0, 0, 0] ++ rest).take 4 = [0, 0, 0, 0] ∧
      ([0, 0, 0, 0] ++ rest).drop 4 = rest := ⟨rfl, rfl⟩
  rw [List.append_assoc, readDeviceImage, (tag _).1, (tag _).2]
  cases speed : t.highspeed with
  | false =>
      simp only [Descriptors.configurations, speed, Bool.false_eq_true, ↓reduceIte,
        List.flatten_cons, List.flatten_nil, List.append_nil, fs, Option.bind_some, device,
        and_self]
  | true =>
      simp only [Descriptors.configurations, speed, ↓reduceIte, List.flatten_cons,
        List.flatten_nil, List.append_nil, List.flatten_append, List.append_assoc, fs, hs,
        Option.map_some, Option.bind_some, device, and_self]

/-- What `init_device` writes is read back as its descriptors: each configuration is
as long as its `wTotalLength` says, and each descriptor as its `bLength`. -/
theorem device_image_read_back (t : Descriptors) (wellFormed : t.WellFormed) (buf : ImageBuf) :
    ∃ filled count, deviceImage t buf = some (filled, count) ∧ count ≤ 4096 ∧
      readDeviceImage t.highspeed (filled.toList.take count) =
        some (t.configurations, t.deviceDesc.bytes) := by
  obtain ⟨filled, count, built, within, image⟩ := deviceImage_eq wellFormed buf
  exact ⟨filled, count, built, within, image ▸ readDeviceImage_eq wellFormed⟩

theorem device_image_read_back_found :
    ∃ filled count, deviceImage .found (Vector.replicate 4096 170) = some (filled, count) ∧
      count ≤ 4096 ∧
      readDeviceImage true (filled.toList.take count) =
        some (Descriptors.found.configurations, Descriptors.found.deviceDesc.bytes) :=
  device_image_read_back .found found_wellFormed _

/-- `ep_config` has a tag and the descriptors of the endpoint to write. -/
theorem epImage_eq (t : Descriptors) (fs hs : UsbEndpointDescriptor)
    (buf : Vector UInt8 usbBufsize) :
    ∃ filled count, epImage t fs hs buf = some (filled, count) ∧
      filled.toList.take count = [1, 0, 0, 0] ++ (t.endpoint fs hs).flatten := by
  have four : 0 + [1, 0, 0, 0].length ≤ usbBufsize := by decide
  have tag : [1, 0, 0, 0] <+: (Buffer.store buf 0 [1, 0, 0, 0] four).toList := by
    rw [Buffer.store_front_toList]
    exact List.prefix_append _ _
  obtain ⟨one, first, begins⟩ := memcpy?_extends tag fs.bytes usbDtEndpointSize
    (show 7 ≤ 9 by decide) (show 4 + 7 ≤ 512 by decide)
  rw [epImage, Buffer.store?_of_fits buf 0 _ four, Option.bind_some, Descriptors.endpoint]
  cases speed : t.highspeed with
  | false =>
      refine ⟨one, 11, ?_, prefix_take begins rfl⟩
      exact congrArg (fun done => Option.bind done _) first
  | true =>
      obtain ⟨two, second, whole⟩ := memcpy?_extends begins hs.bytes usbDtEndpointSize
        (show 7 ≤ 9 by decide) (show 4 + 7 + 7 ≤ 512 by decide)
      refine ⟨two, 18, ?_, prefix_take whole rfl⟩
      have filled := congrArg (Option.map fun buf => (buf, 18)) second
      exact (congrArg (fun done => Option.bind done _) first).trans filled

theorem Descriptors.configuration_endpoint (t : Descriptors) {eps : List UsbEndpointDescriptor}
    {ep : UsbEndpointDescriptor} {i : Nat} (used : i < t.tmcInterface.bNumEndpoints.toNat)
    (entry : eps[i]? = some ep) : (t.configuration eps)[2 + i]? = some ep.standard := by
  rw [configuration, Nat.add_comm, List.getElem?_cons_succ, List.getElem?_cons_succ,
    List.getElem?_map, List.getElem?_take_of_lt used, entry]
  rfl

/-- The file of an endpoint gets, speed for speed, the descriptor that the
configurations in the file of the device have for it. -/
theorem endpoint_as_advertised (t : Descriptors) (wellFormed : t.WellFormed) (i : Nat)
    (used : i < t.tmcInterface.bNumEndpoints.toNat) (fs hs : UsbEndpointDescriptor)
    (fsEntry : t.fsEps[i]? = some fs) (hsEntry : t.hsEps[i]? = some hs)
    (buf : Vector UInt8 usbBufsize) :
    ∃ filled count blocks, epImage t fs hs buf = some (filled, count) ∧
      (filled.toList.take count).take 4 = [1, 0, 0, 0] ∧
      Blocks.walk UInt8.toNat ((filled.toList.take count).drop 4) = (blocks, []) ∧
      blocks.map some = t.configurations.map fun configuration => configuration[2 + i]? := by
  obtain ⟨filled, count, built, image⟩ := epImage_eq t fs hs buf
  have fsWhole : Blocks.Whole UInt8.toNat fs.standard :=
    congrArg UInt8.toNat (wellFormed.fs fs (List.mem_of_getElem? fsEntry))
  have hsWhole : Blocks.Whole UInt8.toNat hs.standard :=
    congrArg UInt8.toNat (wellFormed.hs hs (List.mem_of_getElem? hsEntry))
  have whole : ∀ block ∈ t.endpoint fs hs, Blocks.Whole UInt8.toNat block := by
    rw [Descriptors.endpoint]
    cases t.highspeed <;> simp [fsWhole, hsWhole]
  have cut := Blocks.walk_flatten whole []
  rw [List.append_nil, Blocks.walk_nil, List.append_nil] at cut
  refine ⟨filled, count, t.endpoint fs hs, built, ?_, ?_, ?_⟩
  · rw [image]
    rfl
  · rw [image]
    exact cut
  · rw [Descriptors.configurations, Descriptors.endpoint]
    cases t.highspeed with
    | false => exact congrArg (fun entry => [entry]) (t.configuration_endpoint used fsEntry).symm
    | true =>
        have one := (t.configuration_endpoint used fsEntry).symm
        have two := (t.configuration_endpoint used hsEntry).symm
        exact congrArg₂ (fun one two => [one, two]) one two

/-- The endpoint for commands -/
theorem endpoint_as_advertised_sink :
    ∃ filled count blocks,
      epImage .found Descriptors.found.fsSinkDesc Descriptors.found.hsSinkDesc
        (Vector.replicate usbBufsize 170) = some (filled, count) ∧
      (filled.toList.take count).take 4 = [1, 0, 0, 0] ∧
      Blocks.walk UInt8.toNat ((filled.toList.take count).drop 4) = (blocks, []) ∧
      blocks.map some =
        Descriptors.found.configurations.map fun configuration => configuration[2 + 1]? :=
  endpoint_as_advertised .found found_wellFormed 1 (by decide) _ _ rfl rfl _

end ScpiVxiTmc
