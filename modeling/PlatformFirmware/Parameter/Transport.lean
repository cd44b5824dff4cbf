import PlatformFirmware.ManagementMode.Communicator
import PlatformFirmware.Parameter.Owner

namespace PlatformFirmware.Parameter

abbrev Transport (σ : Type) := Request → Firmware σ Response

namespace Transport

open ManagementMode

variable {σ : Type}

def secureCall [SecureMonitor σ] (function : UInt32) : Transport σ := fun request => do
  let answer ← (request.call function).issue
  MonadExcept.ofExcept answer.check
  return Response.ofAnswer answer

def communicate (execute : Executor σ) (bufferId : UInt8) : Transport (Communicator σ) :=
  fun request communicator =>
    match Communicator.communicate execute bufferId request.toBytes handlerGuid communicator with
    | .error status communicator => .error status.error communicator
    | .ok reply communicator =>
      match Response.ofBytes reply with
      | .ok response => .ok response communicator
      | .error e => .error e communicator

end Transport

inductive Backend
  | secureCall (function : UInt32)
  | communicate (bufferId : UInt8)
  deriving DecidableEq, Repr

namespace Backend

def default : Backend := communicate 0

def transport {σ : Type} [SecureMonitor σ] (backend : Backend) (execute : ManagementMode.Executor σ) :
    Transport (ManagementMode.Communicator σ) :=
  match backend with
  | secureCall function => Transport.secureCall function
  | communicate bufferId => Transport.communicate execute bufferId

end Backend

end PlatformFirmware.Parameter
