import PlatformFirmware.ManagementMode.Header
import PlatformFirmware.ManagementMode.Status

namespace PlatformFirmware.ManagementMode

structure Buffer where
  id : UInt8
  address : UInt64
  memory : Bytes
  /-- Length of the message last put in from this side. -/
  messageLength : Nat := 0
  recipient : Option Efi.Guid := none
  deriving DecidableEq, Repr

namespace Buffer

def atAddress (address : UInt64) (memory : Bytes) (id : UInt8) : Except BufferError Buffer :=
  if memory.length = 0 then .error .empty
  else if address = 0 then .error .nullPointer
  else .ok { id, address, memory }

def capacity (buffer : Buffer) : Nat := buffer.memory.length - Header.size

def reset (buffer : Buffer) : Buffer :=
  { buffer with memory := Bytes.zero buffer.memory.length, messageLength := 0, recipient := none }

def setRecipient (recipient : Efi.Guid) (buffer : Buffer) : Except BufferError Buffer :=
  if buffer.memory.length < Header.size then .error .tooSmallForHeader
  else .ok { buffer with recipient := some recipient }

def setMessage (message : Bytes) (buffer : Buffer) : Except BufferError Buffer :=
  if buffer.capacity < message.length then .error .tooSmallForMessage
  else
    match buffer.recipient with
    | none => .error .invalidRecipient
    | some recipient =>
      let header : Header := ⟨recipient, UInt64.ofNat message.length⟩
      .ok { buffer with
        messageLength := message.length
        memory := Bytes.write (Bytes.write buffer.memory 0 header.toBytes) Header.size message }

def header (buffer : Buffer) : Except BufferError Header :=
  match Header.ofBytes? buffer.memory with
  | some header => .ok header
  | none => .error .tooSmallForHeader

/-- The message that the header in the memory describes. After a call this is the response, so
neither the header's recipient nor its length is trusted. -/
def message (buffer : Buffer) : Except BufferError Bytes := do
  let header ← buffer.header
  if buffer.recipient.any (· ≠ header.recipient) then
    throw .invalidRecipient
  let length := header.messageLength.toNat
  if buffer.capacity < length then
    throw .tooSmallForMessage
  return Bytes.slice buffer.memory Header.size length

/-- What the other side of the memory does: it overwrites bytes and nothing else. -/
def overwrite (offset : Nat) (data : Bytes) (buffer : Buffer) : Buffer :=
  { buffer with memory := Bytes.write buffer.memory offset data }

theorem length_memory_reset (buffer : Buffer) :
    buffer.reset.memory.length = buffer.memory.length := by
  simp [reset]

end Buffer

end PlatformFirmware.ManagementMode
