namespace PlatformFirmware.Efi

inductive Error
  | invalidParameter
  | unsupported
  | bufferTooSmall
  | notReady
  | deviceError
  | outOfResources
  | notFound
  | accessDenied
  | timeout
  | alreadyStarted
  /-- A status word that stands for none of the causes above. -/
  | unknown (status : UInt64)
  deriving DecidableEq, Repr

namespace Status

def success : UInt64 := 0

def failure (code : UInt64) : UInt64 := 0x8000000000000000 ||| code

def error? (status : UInt64) : Option Error :=
  if status = success then none
  else if status = failure 2 then some .invalidParameter
  else if status = failure 3 then some .unsupported
  else if status = failure 5 then some .bufferTooSmall
  else if status = failure 6 then some .notReady
  else if status = failure 7 then some .deviceError
  else if status = failure 9 then some .outOfResources
  else if status = failure 14 then some .notFound
  else if status = failure 15 then some .accessDenied
  else if status = failure 18 then some .timeout
  else if status = failure 20 then some .alreadyStarted
  else some (.unknown status)

def toExcept (status : UInt64) : Except Error Unit :=
  match error? status with
  | none => .ok ()
  | some e => .error e

end Status

namespace Error

def status : Error → UInt64
  | invalidParameter => Status.failure 2
  | unsupported => Status.failure 3
  | bufferTooSmall => Status.failure 5
  | notReady => Status.failure 6
  | deviceError => Status.failure 7
  | outOfResources => Status.failure 9
  | notFound => Status.failure 14
  | accessDenied => Status.failure 15
  | timeout => Status.failure 18
  | alreadyStarted => Status.failure 20
  | unknown status => status

/-- A success status read as an error is an unknown one. -/
def ofStatus (status : UInt64) : Error := (Status.error? status).getD (.unknown status)

def message : Error → String
  | invalidParameter => "InvalidParameter"
  | unsupported => "Unsupported"
  | bufferTooSmall => "BufferTooSmall"
  | notReady => "NotReady"
  | deviceError => "DeviceError"
  | outOfResources => "OutOfResources"
  | notFound => "NotFound"
  | accessDenied => "AccessDenied"
  | timeout => "Timeout"
  | alreadyStarted => "AlreadyStarted"
  | unknown status =>
    "Unknown(0x" ++ String.ofList ((Nat.toDigits 16 status.toNat).map Char.toUpper) ++ ")"

end Error

def Status.ofExcept {α : Type} : Except Error α → UInt64
  | .ok _ => Status.success
  | .error e => e.status

end PlatformFirmware.Efi
