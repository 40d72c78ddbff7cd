import ScpiVxiTmc.Lib.XdrLaws

set_option autoImplicit false

/- The messages of the instrument server on the wire: `vxi11.h` and `vxi11_xdr.c`,
which are the same text in both programs. -/
namespace ScpiVxiTmc.Vxi11

open Xdr

abbrev DeviceLink := Int32

/-- `enum Device_AddrFamily`; `xdr_enum` lets any number through. -/
abbrev DeviceAddrFamily := Int32

abbrev DeviceFlags := Int32

abbrev DeviceErrorCode := Int32

/-- `bool_t` -/
abbrev BoolT := Int32

structure DeviceError where
  error : DeviceErrorCode
  deriving DecidableEq

structure CreateLinkParms where
  clientId : Int32
  lockDevice : BoolT
  lockTimeout : UInt32
  device : List UInt8
  deriving DecidableEq

structure CreateLinkResp where
  error : DeviceErrorCode
  lid : DeviceLink
  abortPort : UInt16
  maxRecvSize : UInt32
  deriving DecidableEq

structure DeviceWriteParms where
  lid : DeviceLink
  ioTimeout : UInt32
  lockTimeout : UInt32
  flags : DeviceFlags
  data : List UInt8
  deriving DecidableEq

structure DeviceWriteResp where
  error : DeviceErrorCode
  size : UInt32
  deriving DecidableEq

structure DeviceReadParms where
  lid : DeviceLink
  requestSize : UInt32
  ioTimeout : UInt32
  lockTimeout : UInt32
  flags : DeviceFlags
  termChar : UInt8
  deriving DecidableEq

structure DeviceReadResp where
  error : DeviceErrorCode
  reason : Int32
  data : List UInt8
  deriving DecidableEq

structure DeviceReadStbResp where
  error : DeviceErrorCode
  stb : UInt8
  deriving DecidableEq

structure DeviceGenericParms where
  lid : DeviceLink
  flags : DeviceFlags
  lockTimeout : UInt32
  ioTimeout : UInt32
  deriving DecidableEq

structure DeviceRemoteFunc where
  hostAddr : UInt32
  hostPort : UInt32
  progNum : UInt32
  progVers : UInt32
  progFamily : DeviceAddrFamily
  deriving DecidableEq

structure DeviceEnableSrqParms where
  lid : DeviceLink
  enable : BoolT
  handle : List UInt8
  deriving DecidableEq

structure DeviceLockParms where
  lid : DeviceLink
  flags : DeviceFlags
  lockTimeout : UInt32
  deriving DecidableEq

structure DeviceDocmdParms where
  lid : DeviceLink
  flags : DeviceFlags
  ioTimeout : UInt32
  lockTimeout : UInt32
  cmd : Int32
  networkOrder : BoolT
  datasize : Int32
  dataIn : List UInt8
  deriving DecidableEq

structure DeviceDocmdResp where
  error : DeviceErrorCode
  dataOut : List UInt8
  deriving DecidableEq

structure DeviceSrqParms where
  handle : List UInt8
  deriving DecidableEq

def xdrDeviceLink : XdrProc DeviceLink := xdrLong

def xdrDeviceAddrFamily : XdrProc DeviceAddrFamily := xdrEnum

def xdrDeviceFlags : XdrProc DeviceFlags := xdrLong

def xdrDeviceErrorCode : XdrProc DeviceErrorCode := xdrLong

def xdrDeviceError : XdrProc DeviceError :=
  Routine.start DeviceError.mk |>.field (·.error) xdrDeviceErrorCode

def xdrCreateLinkParms (host : Host) : XdrProc CreateLinkParms :=
  Routine.start CreateLinkParms.mk
    |>.inlined host 3
      (fun r => r
        |>.field (·.clientId) ixdrLong
        |>.field (·.lockDevice) ixdrBool
        |>.field (·.lockTimeout) ixdrULong)
      (fun r => r
        |>.field (·.clientId) xdrLong
        |>.field (·.lockDevice) xdrBool
        |>.field (·.lockTimeout) xdrULong)
    |>.field (·.device) (xdrString host unbounded)

def xdrCreateLinkResp : XdrProc CreateLinkResp :=
  Routine.start CreateLinkResp.mk
    |>.field (·.error) xdrDeviceErrorCode
    |>.field (·.lid) xdrDeviceLink
    |>.field (·.abortPort) xdrUShort
    |>.field (·.maxRecvSize) xdrULong

def xdrDeviceWriteParms (host : Host) : XdrProc DeviceWriteParms :=
  Routine.start DeviceWriteParms.mk
    |>.field (·.lid) xdrDeviceLink
    |>.field (·.ioTimeout) xdrULong
    |>.field (·.lockTimeout) xdrULong
    |>.field (·.flags) xdrDeviceFlags
    |>.field (·.data) (xdrBytes host unbounded)

def xdrDeviceWriteResp : XdrProc DeviceWriteResp :=
  Routine.start DeviceWriteResp.mk
    |>.field (·.error) xdrDeviceErrorCode
    |>.field (·.size) xdrULong

def xdrDeviceReadParms (host : Host) : XdrProc DeviceReadParms :=
  Routine.start DeviceReadParms.mk
    |>.field (·.lid) xdrDeviceLink
    |>.inlined host 3
      (fun r => r
        |>.field (·.requestSize) ixdrULong
        |>.field (·.ioTimeout) ixdrULong
        |>.field (·.lockTimeout) ixdrULong)
      (fun r => r
        |>.field (·.requestSize) xdrULong
        |>.field (·.ioTimeout) xdrULong
        |>.field (·.lockTimeout) xdrULong)
    |>.field (·.flags) xdrDeviceFlags
    |>.field (·.termChar) xdrChar

def xdrDeviceReadResp (host : Host) : XdrProc DeviceReadResp :=
  Routine.start DeviceReadResp.mk
    |>.field (·.error) xdrDeviceErrorCode
    |>.field (·.reason) xdrLong
    |>.field (·.data) (xdrBytes host unbounded)

def xdrDeviceReadStbResp : XdrProc DeviceReadStbResp :=
  Routine.start DeviceReadStbResp.mk
    |>.field (·.error) xdrDeviceErrorCode
    |>.field (·.stb) xdrUChar

def xdrDeviceGenericParms : XdrProc DeviceGenericParms :=
  Routine.start DeviceGenericParms.mk
    |>.field (·.lid) xdrDeviceLink
    |>.field (·.flags) xdrDeviceFlags
    |>.field (·.lockTimeout) xdrULong
    |>.field (·.ioTimeout) xdrULong

def xdrDeviceRemoteFunc (host : Host) : XdrProc DeviceRemoteFunc :=
  Routine.start DeviceRemoteFunc.mk
    |>.inlined host 4
      (fun r => r
        |>.field (·.hostAddr) ixdrULong
        |>.field (·.hostPort) ixdrULong
        |>.field (·.progNum) ixdrULong
        |>.field (·.progVers) ixdrULong)
      (fun r => r
        |>.field (·.hostAddr) xdrULong
        |>.field (·.hostPort) xdrULong
        |>.field (·.progNum) xdrULong
        |>.field (·.progVers) xdrULong)
    |>.field (·.progFamily) xdrDeviceAddrFamily

def xdrDeviceEnableSrqParms (host : Host) : XdrProc DeviceEnableSrqParms :=
  Routine.start DeviceEnableSrqParms.mk
    |>.field (·.lid) xdrDeviceLink
    |>.field (·.enable) xdrBool
    |>.field (·.handle) (xdrBytes host 40)

def xdrDeviceLockParms : XdrProc DeviceLockParms :=
  Routine.start DeviceLockParms.mk
    |>.field (·.lid) xdrDeviceLink
    |>.field (·.flags) xdrDeviceFlags
    |>.field (·.lockTimeout) xdrULong

def xdrDeviceDocmdParms (host : Host) : XdrProc DeviceDocmdParms :=
  Routine.start DeviceDocmdParms.mk
    |>.field (·.lid) xdrDeviceLink
    |>.field (·.flags) xdrDeviceFlags
    |>.inlined host 5
      (fun r => r
        |>.field (·.ioTimeout) ixdrULong
        |>.field (·.lockTimeout) ixdrULong
        |>.field (·.cmd) ixdrLong
        |>.field (·.networkOrder) ixdrBool
        |>.field (·.datasize) ixdrLong)
      (fun r => r
        |>.field (·.ioTimeout) xdrULong
        |>.field (·.lockTimeout) xdrULong
        |>.field (·.cmd) xdrLong
        |>.field (·.networkOrder) xdrBool
        |>.field (·.datasize) xdrLong)
    |>.field (·.dataIn) (xdrBytes host unbounded)

def xdrDeviceDocmdResp (host : Host) : XdrProc DeviceDocmdResp :=
  Routine.start DeviceDocmdResp.mk
    |>.field (·.error) xdrDeviceErrorCode
    |>.field (·.dataOut) (xdrBytes host unbounded)

def xdrDeviceSrqParms (host : Host) : XdrProc DeviceSrqParms :=
  Routine.start DeviceSrqParms.mk |>.field (·.handle) (xdrBytes host unbounded)

/-- The types that the procedures take and return. -/
inductive Message
  | void
  | deviceLink
  | deviceError
  | createLinkParms
  | createLinkResp
  | deviceWriteParms
  | deviceWriteResp
  | deviceReadParms
  | deviceReadResp
  | deviceReadStbResp
  | deviceGenericParms
  | deviceRemoteFunc
  | deviceEnableSrqParms
  | deviceLockParms
  | deviceDocmdParms
  | deviceDocmdResp
  | deviceSrqParms

namespace Message

abbrev Value : Message → Type
  | void => Unit
  | deviceLink => DeviceLink
  | deviceError => DeviceError
  | createLinkParms => CreateLinkParms
  | createLinkResp => CreateLinkResp
  | deviceWriteParms => DeviceWriteParms
  | deviceWriteResp => DeviceWriteResp
  | deviceReadParms => DeviceReadParms
  | deviceReadResp => DeviceReadResp
  | deviceReadStbResp => DeviceReadStbResp
  | deviceGenericParms => DeviceGenericParms
  | deviceRemoteFunc => DeviceRemoteFunc
  | deviceEnableSrqParms => DeviceEnableSrqParms
  | deviceLockParms => DeviceLockParms
  | deviceDocmdParms => DeviceDocmdParms
  | deviceDocmdResp => DeviceDocmdResp
  | deviceSrqParms => DeviceSrqParms

/-- The routine of each type. -/
def xdr (host : Host) : (m : Message) → XdrProc m.Value
  | void => xdrVoid
  | deviceLink => xdrDeviceLink
  | deviceError => xdrDeviceError
  | createLinkParms => xdrCreateLinkParms host
  | createLinkResp => xdrCreateLinkResp
  | deviceWriteParms => xdrDeviceWriteParms host
  | deviceWriteResp => xdrDeviceWriteResp
  | deviceReadParms => xdrDeviceReadParms host
  | deviceReadResp => xdrDeviceReadResp host
  | deviceReadStbResp => xdrDeviceReadStbResp
  | deviceGenericParms => xdrDeviceGenericParms
  | deviceRemoteFunc => xdrDeviceRemoteFunc host
  | deviceEnableSrqParms => xdrDeviceEnableSrqParms host
  | deviceLockParms => xdrDeviceLockParms
  | deviceDocmdParms => xdrDeviceDocmdParms host
  | deviceDocmdResp => xdrDeviceDocmdResp host
  | deviceSrqParms => xdrDeviceSrqParms host

end Message

end ScpiVxiTmc.Vxi11
