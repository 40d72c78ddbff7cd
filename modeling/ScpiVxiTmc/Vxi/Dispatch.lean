import ScpiVxiTmc.Lib.Routing
import ScpiVxiTmc.Vxi.RefusedReads
import ScpiVxiTmc.Vxi.WireFormat

set_option autoImplicit false

/- The dispatchers of `vxi11_svc.c` over the procedures of `vxi11_srv_func.c`. A
request comes as the number of a procedure and the bytes of its arguments. -/
namespace ScpiVxiTmc.Vxi11

open Xdr

variable {σ : Type}

/-- A procedure of a server with state `σ`; whether the message queue accepts a
message is up to the system. None if the procedure does not come back. -/
abbrev Procedure (σ α ρ : Type) := Bool → σ → α → Option (ρ × σ)

/-- A procedure whose body is left to write returns its static result, which
nothing sets. -/
def unwritten {α ρ : Type} (result : ρ) : Procedure σ α ρ :=
  fun _ server _ => some (result, server)

def deviceAbort1Svc : Procedure σ DeviceLink DeviceError := unwritten ⟨0⟩
def deviceReadstb1Svc : Procedure σ DeviceGenericParms DeviceReadStbResp := unwritten ⟨0, 0⟩
def deviceTrigger1Svc : Procedure σ DeviceGenericParms DeviceError := unwritten ⟨0⟩
def deviceClear1Svc : Procedure σ DeviceGenericParms DeviceError := unwritten ⟨0⟩
def deviceRemote1Svc : Procedure σ DeviceGenericParms DeviceError := unwritten ⟨0⟩
def deviceLocal1Svc : Procedure σ DeviceGenericParms DeviceError := unwritten ⟨0⟩
def deviceLock1Svc : Procedure σ DeviceLockParms DeviceError := unwritten ⟨0⟩
def deviceUnlock1Svc : Procedure σ DeviceLink DeviceError := unwritten ⟨0⟩
def deviceEnableSrq1Svc : Procedure σ DeviceEnableSrqParms DeviceError := unwritten ⟨0⟩
def deviceDocmd1Svc : Procedure σ DeviceDocmdParms DeviceDocmdResp := unwritten ⟨0, []⟩
def createIntrChan1Svc : Procedure σ DeviceRemoteFunc DeviceError := unwritten ⟨0⟩
def destroyIntrChan1Svc : Procedure σ Unit DeviceError := unwritten ⟨0⟩
def deviceIntrSrq1Svc : Procedure σ DeviceSrqParms Unit := unwritten ()

/-- What the procedures that are written use of their arguments. -/
def CreateLinkParms.used (argp : CreateLinkParms) : ScpiVxiTmc.CreateLinkParms := ⟨argp.device⟩

def DeviceWriteParms.used (argp : DeviceWriteParms) : ScpiVxiTmc.DeviceWriteParms :=
  ⟨argp.lid.toInt, argp.data⟩

def DeviceReadParms.used (argp : DeviceReadParms) : ScpiVxiTmc.DeviceReadParms :=
  ⟨argp.lid.toInt, argp.requestSize.toNat⟩

/-- Their results in the types of the wire. -/
def CreateLinkResp.of (resp : ScpiVxiTmc.CreateLinkResp) : CreateLinkResp :=
  ⟨.ofInt resp.error, .ofInt resp.lid, .ofNat resp.abortPort, .ofNat resp.maxRecvSize⟩

def DeviceWriteResp.of (resp : ScpiVxiTmc.DeviceWriteResp) : DeviceWriteResp :=
  ⟨.ofInt resp.error, .ofNat resp.size⟩

def DeviceReadResp.of (resp : ScpiVxiTmc.DeviceReadResp) : DeviceReadResp :=
  ⟨.ofInt resp.error, .ofNat resp.reason, resp.data⟩

def createLink1Svc : Procedure σ CreateLinkParms CreateLinkResp :=
  fun _ server argp => some (.of (createLink argp.used), server)

def destroyLink1Svc : Procedure σ DeviceLink DeviceError :=
  fun _ server argp => some (⟨.ofInt (destroyLink argp.toInt)⟩, server)

def deviceWrite1Svc : Procedure VxiServer DeviceWriteParms DeviceWriteResp :=
  fun accepted server argp => (deviceWrite server.adapter argp.used accepted).map fun done =>
    (.of done.1, { server with adapter := done.2 })

def deviceRead1Svc : Procedure VxiServer DeviceReadParms DeviceReadResp :=
  fun _ server argp =>
    some (.of (deviceRead server argp.used).1, (deviceRead server argp.used).2)

/-- A case of a dispatcher's switch: the routines for the argument and the result,
and the procedure between them. -/
structure Service (σ : Type) where
  argument : Message
  result : Message
  procedure : Procedure σ argument.Value result.Value

/-- The switch of `device_async_1` -/
def asyncSwitch : Nat → Option (Service σ)
  | 1 => some ⟨.deviceLink, .deviceError, deviceAbort1Svc⟩
  | _ => none

/-- The switch of `device_core_1`. The two servers differ in how they write and read. -/
def coreSwitch (deviceWrite : Procedure σ DeviceWriteParms DeviceWriteResp)
    (deviceRead : Procedure σ DeviceReadParms DeviceReadResp) : Nat → Option (Service σ)
  | 10 => some ⟨.createLinkParms, .createLinkResp, createLink1Svc⟩
  | 11 => some ⟨.deviceWriteParms, .deviceWriteResp, deviceWrite⟩
  | 12 => some ⟨.deviceReadParms, .deviceReadResp, deviceRead⟩
  | 13 => some ⟨.deviceGenericParms, .deviceReadStbResp, deviceReadstb1Svc⟩
  | 14 => some ⟨.deviceGenericParms, .deviceError, deviceTrigger1Svc⟩
  | 15 => some ⟨.deviceGenericParms, .deviceError, deviceClear1Svc⟩
  | 16 => some ⟨.deviceGenericParms, .deviceError, deviceRemote1Svc⟩
  | 17 => some ⟨.deviceGenericParms, .deviceError, deviceLocal1Svc⟩
  | 18 => some ⟨.deviceLockParms, .deviceError, deviceLock1Svc⟩
  | 19 => some ⟨.deviceLink, .deviceError, deviceUnlock1Svc⟩
  | 20 => some ⟨.deviceEnableSrqParms, .deviceError, deviceEnableSrq1Svc⟩
  | 22 => some ⟨.deviceDocmdParms, .deviceDocmdResp, deviceDocmd1Svc⟩
  | 23 => some ⟨.deviceLink, .deviceError, destroyLink1Svc⟩
  | 25 => some ⟨.deviceRemoteFunc, .deviceError, createIntrChan1Svc⟩
  | 26 => some ⟨.void, .deviceError, destroyIntrChan1Svc⟩
  | _ => none

/-- The switch of `device_intr_1` -/
def intrSwitch : Nat → Option (Service σ)
  | 30 => some ⟨.deviceSrqParms, .void, deviceIntrSrq1Svc⟩
  | _ => none

/-- The programs that `vxi11_init` registers. -/
inductive Program
  | async
  | core
  | intr
  deriving DecidableEq

/-- A request, with what it meets in the server: the stream and the memory for its
arguments, and the message queue. -/
structure SvcReq where
  program : Program
  rqProc : Nat
  args : List UInt8
  host : Host
  accepted : Bool

/-- How a dispatcher ends: with `svc_sendreply` or one of the error replies. -/
inductive Reply
  | results (bytes : List UInt8)
  | noproc
  | decode
  | systemerr
  deriving DecidableEq

/-- The reply to a request, and the blocks of its arguments that `svc_freeargs`
gave back. -/
structure Answer where
  reply : Reply
  freed : List Nat

/-- `svc_sendreply` -/
def svcSendreply (host : Host) (m : Message) (result : m.Value) : Reply :=
  ((m.xdr host).encode result).elim .systemerr .results

/-- What the dispatchers do once the switch has chosen: `svc_getargs`, the
procedure, `svc_sendreply` and `svc_freeargs`. Arguments that do not decode are
not freed. -/
def Service.serve (service : Service σ) (server : σ) (req : SvcReq) : Option (Answer × σ) :=
  let xdrArgument := service.argument.xdr req.host
  match xdrArgument.decode req.args with
  | none => some (⟨.decode, []⟩, server)
  | some got => (service.procedure req.accepted server got.1).map fun done =>
      (⟨svcSendreply req.host service.result done.1, xdrArgument.free got.1⟩, done.2)

/-- A dispatcher with this switch. -/
def dispatch (switch : Nat → Option (Service σ)) (server : σ) (req : SvcReq) :
    Option (Answer × σ) :=
  if req.rqProc = 0 then some (⟨.results [], []⟩, server)
  else match switch req.rqProc with
    | none => some (⟨.noproc, []⟩, server)
    | some service => service.serve server req

def deviceAsync1 : σ → SvcReq → Option (Answer × σ) := dispatch asyncSwitch

def deviceCore1 : VxiServer → SvcReq → Option (Answer × VxiServer) :=
  dispatch (coreSwitch deviceWrite1Svc deviceRead1Svc)

def deviceIntr1 : σ → SvcReq → Option (Answer × σ) := dispatch intrSwitch

/-- `svc_run` hands a request to the dispatcher of its program. -/
def svcRun (server : VxiServer) (req : SvcReq) : Option (Answer × VxiServer) :=
  match req.program with
  | .async => deviceAsync1 server req
  | .core => deviceCore1 server req
  | .intr => deviceIntr1 server req

namespace Standalone

def deviceWrite1Svc : Procedure ScpiVxiTmc.DeviceReadResp DeviceWriteParms DeviceWriteResp :=
  fun _ result argp => (StandaloneVxi.deviceWrite argp.used).map fun resp => (.of resp, result)

def deviceRead1Svc : Procedure ScpiVxiTmc.DeviceReadResp DeviceReadParms DeviceReadResp :=
  fun _ result argp =>
    some (.of (StandaloneVxi.deviceRead result argp.used), StandaloneVxi.deviceRead result argp.used)

def deviceCore1 : ScpiVxiTmc.DeviceReadResp → SvcReq →
    Option (Answer × ScpiVxiTmc.DeviceReadResp) :=
  dispatch (coreSwitch deviceWrite1Svc deviceRead1Svc)

/-- The programs of `vxi11_server` are dispatched by the same text. -/
def svcRun (result : ScpiVxiTmc.DeviceReadResp) (req : SvcReq) :
    Option (Answer × ScpiVxiTmc.DeviceReadResp) :=
  match req.program with
  | .async => deviceAsync1 result req
  | .core => deviceCore1 result req
  | .intr => deviceIntr1 result req

end Standalone

end ScpiVxiTmc.Vxi11
