import ScpiVxiTmc.Adapter.Messages

set_option autoImplicit false

namespace ScpiVxiTmc

/-- `UPO3000_LID` -/
abbrev upo3000Lid : Int := 3000

/-- `VXI11_BUFSIZE` -/
abbrev vxi11Bufsize : Nat := 2048

/-- The END bit of a read's reason. -/
abbrev reasonEnd : Nat := 4

/-- What the server uses of `Device_WriteParms`. -/
structure DeviceWriteParms where
  lid : Int
  data : List UInt8

/-- `Device_WriteResp` -/
structure DeviceWriteResp where
  error : Int
  size : Nat

/-- `Device_ReadParms`; the server looks at the link id only. -/
structure DeviceReadParms where
  lid : Int
  requestSize : Nat

/-- `Device_ReadResp`, with the bytes its data pointer points at. -/
structure DeviceReadResp where
  error : Int
  reason : Nat
  data : List UInt8
  deriving DecidableEq

/-- What the RPC server keeps from one call to the next: the adapter, and the
static result and buffer of `device_read_1_svc`. -/
structure VxiServer where
  adapter : Adapter
  error : Int
  reason : Nat
  dataLen : Nat
  tmpBuf : Vector UInt8 vxi11Bufsize

/-- `device_write_1_svc`; none when the copy leaves `w_cmd`. The data is copied
before the link id is looked at. -/
def deviceWrite (a : Adapter) (argp : DeviceWriteParms) (accepted : Bool) :
    Option (DeviceWriteResp × Adapter) :=
  (Buffer.store? (Vector.replicate 100 0) 0 argp.data).map fun wCmd =>
    if argp.lid ≠ upo3000Lid then
      (⟨4, argp.data.length⟩, a)
    else
      (⟨0, argp.data.length⟩,
        (scpiMsgCmdWrite a (wCmd.toList.take argp.data.length) accepted).2)

/-- `device_read_1_svc`. The length it reads is never set from the request or
from what is available. -/
def deviceRead (server : VxiServer) (argp : DeviceReadParms) : DeviceReadResp × VxiServer :=
  let responseLen := 0
  let result :=
    if argp.lid = upo3000Lid then
      let filled := reponseReadInto server.adapter server.tmpBuf 0 responseLen (Nat.zero_le _)
      ⟨filled.2, 0, reasonEnd, responseLen, filled.1⟩
    else server
  (⟨result.error, result.reason, result.tmpBuf.toList.take result.dataLen⟩, result)

/-- A write of more than the buffer on the stack does not come back. Any other
hands over the data as it is, or refuses the link id and changes nothing. -/
theorem deviceWrite_eq (a : Adapter) (argp : DeviceWriteParms) (accepted : Bool) :
    deviceWrite a argp accepted =
      if argp.data.length ≤ 100 then
        some (if argp.lid = upo3000Lid then
          (⟨0, argp.data.length⟩, (scpiMsgCmdWrite a argp.data accepted).2)
        else (⟨4, argp.data.length⟩, a))
      else none := by
  by_cases short : argp.data.length ≤ 100
  · have fits : 0 + argp.data.length ≤ 100 := by omega
    by_cases link : argp.lid = upo3000Lid
    · simp only [deviceWrite, Buffer.store?_of_fits _ _ _ fits, Option.map_some, link, ne_eq,
        not_true_eq_false, ↓reduceIte, Buffer.store_front_take, short]
    · simp only [deviceWrite, Buffer.store?_of_fits _ _ _ fits, Option.map_some, link, ne_eq,
        not_false_eq_true, ↓reduceIte, short]
  · have leaves : ¬ 0 + argp.data.length ≤ 100 := by omega
    simp only [deviceWrite, Buffer.store?, leaves, ↓reduceDIte, Option.map_none, short, ↓reduceIte]

/-- VXI-11 hands over the data as it is. -/
theorem deviceWrite_of_link (a : Adapter) (data : List UInt8) (accepted : Bool)
    (short : data.length ≤ 100) :
    deviceWrite a ⟨upo3000Lid, data⟩ accepted =
      some (⟨0, data.length⟩, (scpiMsgCmdWrite a data accepted).2) := by
  simp only [deviceWrite_eq, short, ↓reduceIte]

/-- The calls of `device_read` with these sizes hand out `queue` in order, each
as much as fits, and END comes with the last byte. -/
def DeliversInOrder : List UInt8 → VxiServer → List Nat → Prop
  | _, _, [] => True
  | queue, server, size :: rest =>
      let done := deviceRead server ⟨upo3000Lid, size⟩
      let count := min size (min vxi11Bufsize queue.length)
      (done.1.error = 0 ∧ done.1.data = queue.take count ∧
        done.2.adapter.tx.unread = queue.drop count ∧
        (done.1.reason &&& reasonEnd ≠ 0 ↔ queue.drop count = [])) ∧
      DeliversInOrder (queue.drop count) done.2 rest

/-- A read on the link returns nothing and takes nothing. -/
theorem deviceRead_of_link (server : VxiServer) (size : Nat)
    (ring : server.adapter.gScpiMsg.msgsrc = 0) :
    (deviceRead server ⟨upo3000Lid, size⟩).1 = ⟨0, reasonEnd, []⟩ ∧
      (deviceRead server ⟨upo3000Lid, size⟩).2.adapter = server.adapter := by
  refine ⟨by simp only [deviceRead, ↓reduceIte, List.take_zero], ?_⟩
  show (scpiMsgReponseRead server.adapter 0).2 = server.adapter
  rw [scpiMsgReponseRead_of_ring server.adapter 0 ring]
  rfl

/-- With nothing queued every read is right to return nothing. -/
theorem deliversInOrder_nil (server : VxiServer) (sizes : List Nat)
    (ring : server.adapter.gScpiMsg.msgsrc = 0) (empty : server.adapter.tx.unread = []) :
    DeliversInOrder [] server sizes := by
  induction sizes generalizing server with
  | nil => trivial
  | cons size rest ih =>
      obtain ⟨reply, same⟩ := deviceRead_of_link server size ring
      refine ⟨?_, ?_⟩
      · rw [reply, same, empty, List.drop_nil, List.take_nil]
        exact ⟨rfl, rfl, rfl, fun _ => rfl, fun _ => (by decide : reasonEnd &&& reasonEnd ≠ 0)⟩
      · rw [List.drop_nil]
        exact ih _ (same ▸ ring) (same ▸ empty)

/-- The first read on a queue that is not empty already fails. -/
theorem not_deliversInOrder_cons (server : VxiServer) (queue : List UInt8) (size : Nat)
    (rest : List Nat) (ring : server.adapter.gScpiMsg.msgsrc = 0) (nonempty : queue ≠ [])
    (positive : 1 ≤ size) : ¬ DeliversInOrder queue server (size :: rest) := by
  intro ⟨⟨_, data, _⟩, _⟩
  have some := List.length_pos_iff.mpr nonempty
  rw [(deviceRead_of_link server size ring).1] at data
  have lengths := congrArg List.length data
  rw [List.length_take, List.length_nil] at lengths
  have bufsize : vxi11Bufsize = 2048 := rfl
  omega

/-- Every read reports success and the end of the response, and returns nothing. -/
theorem delivers_in_order_iff (server : VxiServer) (sizes : List Nat)
    (ring : server.adapter.gScpiMsg.msgsrc = 0) (positive : ∀ size ∈ sizes, 1 ≤ size) :
    DeliversInOrder server.adapter.tx.unread server sizes ↔
      server.adapter.tx.unread = [] ∨ sizes = [] := by
  constructor
  · intro delivers
    by_contra neither
    rw [not_or] at neither
    cases sizes with
    | nil => exact neither.2 rfl
    | cons size rest =>
        exact not_deliversInOrder_cons server _ size rest ring neither.1
          (positive size List.mem_cons_self) delivers
  · intro either
    cases either with
    | inl empty =>
        rw [empty]
        exact deliversInOrder_nil server sizes ring empty
    | inr none =>
        rw [none]
        trivial

/-- The server before its first call, with a response of two bytes waiting. -/
def freshServer : VxiServer where
  adapter := (scpiMsgReponseWrite .init (some [79, 75]) 0).2
  error := 0
  reason := 0
  dataLen := 0
  tmpBuf := Vector.replicate vxi11Bufsize 0

theorem freshServer_delivers_nothing_iff :
    DeliversInOrder freshServer.adapter.tx.unread freshServer [64, 1] ↔
      freshServer.adapter.tx.unread = [] ∨ [64, 1] = [] :=
  delivers_in_order_iff freshServer [64, 1] rfl (by decide)

/-- A read of up to 64 bytes leaves both bytes of the response where they are. -/
theorem freshServer_withholds :
    freshServer.adapter.Reachable ∧
      ¬ DeliversInOrder freshServer.adapter.tx.unread freshServer [64] :=
  ⟨(Machine.Reachable.start _ _).next (.reponseWrite (some [79, 75]) 0) rfl,
    not_deliversInOrder_cons freshServer _ 64 [] rfl (by decide) (by decide)⟩

end ScpiVxiTmc
