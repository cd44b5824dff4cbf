import PlatformFirmware.Parameter.Id
import PlatformFirmware.Parameter.Transport

namespace PlatformFirmware.Parameter

def checkCaller (acl : Acl) : Except Efi.Error Unit :=
  if acl.isEmpty then .error .invalidParameter else .ok ()

namespace Transport

variable {σ : Type}

def check (id : UInt32) (caller : Acl) : Firmware σ Unit := do
  discard (MonadExcept.ofExcept (checkId id))
  MonadExcept.ofExcept (checkCaller caller)

def request (transport : Transport σ) (request : Request) : Firmware σ UInt32 := do
  let response ← transport request
  MonadExcept.ofExcept response.result

def get (transport : Transport σ) (id : UInt32) (readAcl : Acl) : Firmware σ UInt32 := do
  check id readAcl
  transport.request (.get id readAcl)

/-- Writes a parameter. The first write fixes both lists until the parameter is cleared. -/
def set (transport : Transport σ) (id : UInt32) (readAcl writeAcl : Acl) (value : UInt32) :
    Firmware σ Unit := do
  check id writeAcl
  discard (transport.request (.set id readAcl writeAcl value))

def clear (transport : Transport σ) (id : UInt32) (writeAcl : Acl) : Firmware σ Unit := do
  check id writeAcl
  discard (transport.request (.clear id writeAcl))

def clearAll (transport : Transport σ) : Firmware σ Unit :=
  discard (transport.request .clearAll)

end Transport

end PlatformFirmware.Parameter
