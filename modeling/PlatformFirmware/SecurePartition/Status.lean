import PlatformFirmware.Efi.Error

namespace PlatformFirmware.SecurePartition

inductive Status
  | success
  | notSupported
  | invalidParameter
  | noMemory
  | busy
  | queued
  | denied
  | notPresent
  deriving DecidableEq, Repr

namespace Status

def code : Status → Int
  | success => 0
  | notSupported => -1
  | invalidParameter => -2
  | noMemory => -3
  | busy => -4
  | queued => -5
  | denied => -6
  | notPresent => -7

def ofCode? : Int → Option Status
  | 0 => some success
  | -1 => some notSupported
  | -2 => some invalidParameter
  | -3 => some noMemory
  | -4 => some busy
  | -5 => some queued
  | -6 => some denied
  | -7 => some notPresent
  | _ => none

theorem ofCode?_code (status : Status) : ofCode? status.code = some status := by
  cases status <;> rfl

/-- Success where a failure was expected is itself a fault of the device. -/
def error : Status → Efi.Error
  | success => .deviceError
  | notSupported => .unsupported
  | invalidParameter => .invalidParameter
  | noMemory => .outOfResources
  | busy => .notReady
  | queued => .notReady
  | denied => .accessDenied
  | notPresent => .notFound

def name : Status → String
  | success => "Success"
  | notSupported => "NotSupported"
  | invalidParameter => "InvalidParameter"
  | noMemory => "NoMemory"
  | busy => "Busy"
  | queued => "Queued"
  | denied => "Denied"
  | notPresent => "NotPresent"

def check (code : Int) : Except Efi.Error Unit :=
  match ofCode? code with
  | some success => .ok ()
  | some status => .error status.error
  | none => .error .deviceError

end Status

end PlatformFirmware.SecurePartition
