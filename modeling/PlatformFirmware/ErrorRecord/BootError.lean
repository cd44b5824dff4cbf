import PlatformFirmware.ErrorRecord.Structure

namespace PlatformFirmware.ErrorRecord

structure BootError where
  errorType : UInt8
  subtype : UInt8
  errorInstance : UInt16
  severity : Severity
  /-- Cut to the room there is in the payload. -/
  message : Bytes
  deriving DecidableEq, Repr

namespace BootError

def sectionGuid : Efi.Guid :=
  .ofFields 0x2826CC9F 0x448C 0x4C2B #v[0x86, 0xB6, 0xA9, 0x53, 0x5C, 0x6B, 0x1E, 0x0B]

def blockStatus : Severity → UInt32
  | .corrected => 0x12
  | _ => 0x11

def status (error : BootError) : BlockStatus where
  blockStatus := blockStatus error.severity
  dataLength := UInt32.ofNat (Layout.entrySize + Layout.payloadSize)
  severity := error.severity.code

def entry (error : BootError) : DataEntry where
  sectionType := ⟨sectionGuid.bytes, sectionGuid.length_bytes⟩
  severity := error.severity.code
  revision := 0x0300
  dataLength := UInt32.ofNat Layout.payloadSize

def payload (error : BootError) : BootPayload where
  errorType := error.errorType
  subtype := error.subtype
  errorInstance := error.errorInstance
  message := Block.padded Layout.messageSize error.message

def slot (error : BootError) : Bytes :=
  error.status.toBytes ++ error.entry.toBytes ++ error.payload.toBytes

theorem length_slot (error : BootError) : error.slot.length = Layout.slotSize := by
  have hs := error.entry.sectionType.2
  have hi := error.entry.fruId.2
  have ht := error.entry.fruText.2
  have hm := error.payload.message.2
  simp only [slot, BlockStatus.toBytes, DataEntry.toBytes, BootPayload.toBytes, Bytes.word16,
    Bytes.word32, Bytes.word64, List.length_append, Bytes.length_littleEndian, List.length_cons,
    List.length_nil, hs, hi, ht, hm]
  rfl

end BootError

end PlatformFirmware.ErrorRecord
