namespace PlatformFirmware.HotPlug

inductive LedKind
  | attention
  | fault
  deriving DecidableEq, Repr

inductive LedState
  | off
  | on
  | blink
  deriving DecidableEq, Repr

def LedKind.code : LedKind → UInt64
  | attention => 1
  | fault => 2

def LedState.code : LedState → UInt64
  | off => 0
  | on => 1
  | blink => 2

structure PortLocation where
  socket : UInt8
  rootComplex : UInt8
  rootPort : UInt8
  deriving DecidableEq, Repr

def PortLocation.word (port : PortLocation) : UInt64 :=
  port.socket.toUInt64 ||| port.rootComplex.toUInt64 <<< 8 ||| port.rootPort.toUInt64 <<< 16

structure PortMapEntry where
  slot : UInt8
  location : PortLocation
  i2cAddress : UInt8
  deriving DecidableEq, Repr

inductive Command
  | enableAlert
  | start
  | notifyChange
  | setLed (port : PortLocation) (kind : LedKind) (state : LedState)
  | clearPortMap
  | setPort (entry : PortMapEntry)
  | lockPortMap
  | setGpioMap (enable : Bool)
  deriving DecidableEq, Repr

namespace Command

def words : Command → List UInt64
  | enableAlert => [1]
  | start => [2]
  | notifyChange => [3]
  | setLed port kind state => [4, port.word, kind.code, state.code]
  | clearPortMap => [5]
  | setPort entry => [6, entry.slot.toUInt64, entry.location.word, entry.i2cAddress.toUInt64]
  | lockPortMap => [7]
  | setGpioMap enable => [8, if enable then 1 else 0]

def portMap (entries : List PortMapEntry) : List Command :=
  [clearPortMap] ++ entries.map setPort ++ [lockPortMap]

end Command

end PlatformFirmware.HotPlug
