import PlatformFirmware.Efi.Guid

namespace PlatformFirmware.ManagementMode

structure Header where
  recipient : Efi.Guid
  messageLength : UInt64
  deriving DecidableEq, Repr

namespace Header

def size : Nat := 24

def toBytes (header : Header) : Bytes := header.recipient.bytes ++ Bytes.word64 header.messageLength

def ofBytes? (bytes : Bytes) : Option Header := do
  let (guid, rest) ← Bytes.split? 16 bytes
  let recipient ← Efi.Guid.ofBytes? guid
  let (messageLength, _) ← Bytes.word64? rest
  return { recipient, messageLength }

@[simp] theorem length_toBytes (header : Header) : header.toBytes.length = size := by
  simp [toBytes, Bytes.word64, header.recipient.length_bytes, size]

end Header

end PlatformFirmware.ManagementMode
