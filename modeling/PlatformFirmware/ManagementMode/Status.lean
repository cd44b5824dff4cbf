import PlatformFirmware.Efi.Error

namespace PlatformFirmware.ManagementMode

inductive Status
  | noBuffer
  | bufferNotFound
  | bufferTooSmall
  | bufferInit
  | invalidData
  | notSupported
  | invalidParameter
  | denied
  | noMemory
  | executionFailed
  | invalidResponse
  deriving DecidableEq, Repr

def Status.error : Status → Efi.Error
  | noBuffer => .unsupported
  | bufferNotFound => .unsupported
  | notSupported => .unsupported
  | bufferTooSmall => .bufferTooSmall
  | invalidData => .invalidParameter
  | invalidParameter => .invalidParameter
  | denied => .accessDenied
  | noMemory => .outOfResources
  | bufferInit => .deviceError
  | executionFailed => .deviceError
  | invalidResponse => .deviceError

inductive BufferError
  | tooSmallForHeader
  | tooSmallForMessage
  | invalidRecipient
  | empty
  | nullPointer
  deriving DecidableEq, Repr

end PlatformFirmware.ManagementMode
