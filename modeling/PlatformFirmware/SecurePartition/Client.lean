import PlatformFirmware.Efi.Guid
import PlatformFirmware.Hardware.SecureCall
import PlatformFirmware.SecurePartition.Status

namespace PlatformFirmware.SecurePartition

namespace Function

def version : UInt32 := 0x84000060

def openHandle : UInt32 := 0x84000061

def closeHandle : UInt32 := 0x84000062

def request : UInt32 := 0xC4000066

end Function

structure Version where
  major : UInt16
  minor : UInt16
  deriving DecidableEq, Repr

structure Client where
  id : UInt16
  deriving DecidableEq, Repr

structure Handle where
  client : Client
  number : UInt32
  isOpen : Bool := true
  deriving DecidableEq, Repr

structure Reply where
  word1 : UInt64
  word2 : UInt64
  word3 : UInt64
  deriving DecidableEq, Repr

def Reply.toList (reply : Reply) : List UInt64 := [reply.word1, reply.word2, reply.word3]

variable {σ ε : Type} [SecureMonitor σ]

namespace Client

/-- Only a negative status is a failure: the version itself is in X0. -/
def version (_ : Client) : Firmware σ Version := do
  let answer ← (SecureCall.ofList Function.version []).issue
  if answer.status < 0 then
    MonadExcept.ofExcept (Status.check answer.status)
  return ⟨(answer.x0 >>> 16).toUInt16, answer.x0.toUInt16⟩

def openCall (client : Client) (service : Efi.Guid) : SecureCall :=
  (SecureCall.ofList Function.openHandle
    ((List.range 4).map fun index => (service.word index).toUInt64)).set 7 client.id.toUInt64

def openHandle (client : Client) (service : Efi.Guid) : Firmware σ Handle := do
  let answer ← (client.openCall service).issue
  MonadExcept.ofExcept (Status.check answer.status)
  return ⟨client, answer.x2.toUInt32, true⟩

end Client

namespace Handle

def target (handle : Handle) : UInt64 := handle.client.id.toUInt64 <<< 32 ||| handle.number.toUInt64

def requestCall (handle : Handle) (words : List UInt64) : SecureCall :=
  (SecureCall.ofList Function.request words).set 7 handle.target

def closeCall (handle : Handle) : SecureCall :=
  (SecureCall.ofList Function.closeHandle []).set 7 handle.target

def maxWords : Nat := 5

def request (handle : Handle) (words : List UInt64) : Firmware σ Reply := do
  if words.length = 0 ∨ maxWords < words.length then
    throw .invalidParameter
  let answer ← (handle.requestCall words).issue
  MonadExcept.ofExcept (Status.check answer.status)
  return ⟨answer.x1, answer.x2, answer.x3⟩

def shut (handle : Handle) : EStateM ε σ (Except Efi.Error Unit × Handle) := do
  if handle.isOpen then
    let answer ← handle.closeCall.issue
    return (Status.check answer.status, { handle with isOpen := false })
  else return (.ok (), handle)

/-- A handle that goes out of use is closed, and nobody hears of the status. -/
def drop (handle : Handle) : EStateM ε σ Unit := do
  let _ ← handle.shut

/-- Reports the status. The handle goes out of use with this. -/
def close (handle : Handle) : Firmware σ Unit := do
  let (outcome, closed) ← handle.shut
  closed.drop
  MonadExcept.ofExcept outcome

end Handle

end PlatformFirmware.SecurePartition
