import PlatformFirmware.ErrorRecord.BootError
import PlatformFirmware.Proofs.LittleEndian

namespace PlatformFirmware.ErrorRecord

theorem Block.split?_append {length : Nat} (block : Block length) (rest : Bytes) :
    Block.split? length (block.1 ++ rest) = some (block, rest) := by
  obtain ⟨bytes, rfl⟩ := block
  simp [Block.split?]

namespace BlockStatus

theorem length_toBytes (status : BlockStatus) : status.toBytes.length = Layout.statusSize := by
  simp [toBytes, Bytes.word32, Layout.statusSize]

theorem ofBytes?_toBytes_append (status : BlockStatus) (rest : Bytes) :
    ofBytes? (status.toBytes ++ rest) = some status := by
  simp [ofBytes?, toBytes, Bytes.word32?_word32]

end BlockStatus

namespace DataEntry

theorem length_toBytes (entry : DataEntry) : entry.toBytes.length = Layout.entrySize := by
  simp [toBytes, Bytes.word16, Bytes.word32, Bytes.word64, entry.sectionType.2, entry.fruId.2,
    entry.fruText.2, Layout.entrySize]

theorem ofBytes?_toBytes_append (entry : DataEntry) (rest : Bytes) :
    ofBytes? (entry.toBytes ++ rest) = some entry := by
  simp [ofBytes?, toBytes, Block.split?_append, Bytes.word16?_word16, Bytes.word32?_word32,
    Bytes.word64?_word64, Bytes.byte?]

end DataEntry

theorem BootPayload.ofBytes?_toBytes (payload : BootPayload) :
    ofBytes? payload.toBytes = some payload := by
  have hs := payload.message.split?_append []
  rw [List.append_nil] at hs
  simp [ofBytes?, toBytes, Bytes.word16?_word16, Bytes.byte?, hs]

def parseSlot? (bytes : Bytes) : Option (BlockStatus × DataEntry × BootPayload) := do
  let status ← BlockStatus.ofBytes? bytes
  let entry ← DataEntry.ofBytes? (bytes.drop Layout.statusSize)
  let payload ← BootPayload.ofBytes? (bytes.drop (Layout.statusSize + Layout.entrySize))
  return (status, entry, payload)

namespace BootError

def parsed (error : BootError) : BlockStatus × DataEntry × BootPayload :=
  let severity : UInt32 :=
    if error.severity = .recoverable then 0
    else if error.severity = .fatal then 1
    else if error.severity = .corrected then 2
    else 3
  ({ blockStatus := 0x10 ||| (if error.severity = .corrected then 2 else 1)
     rawDataOffset := 0
     rawDataLength := 0
     dataLength := 136
     severity },
   { sectionType := ⟨[0x9F, 0xCC, 0x26, 0x28, 0x8C, 0x44, 0x2B, 0x4C,
       0x86, 0xB6, 0xA9, 0x53, 0x5C, 0x6B, 0x1E, 0x0B], rfl⟩
     severity
     revision := 0x0300
     validationBits := 0
     flags := 0
     dataLength := 64
     fruId := Block.zero 16
     fruText := Block.zero 20
     timestamp := 0 },
   { errorType := error.errorType
     subtype := error.subtype
     errorInstance := error.errorInstance
     message := ⟨error.message.take 60 ++ List.replicate (60 - error.message.length) 0, by
       simp [Layout.messageSize]; omega⟩ })

theorem blockStatus_eq (severity : Severity) :
    blockStatus severity = 0x10 ||| (if severity = .corrected then 2 else 1) := by
  cases severity <;> rfl

theorem code_eq (severity : Severity) :
    severity.code =
      if severity = .recoverable then 0
      else if severity = .fatal then 1
      else if severity = .corrected then 2
      else 3 := by
  cases severity <;> rfl

theorem parts_eq_parsed (error : BootError) :
    (error.status, error.entry, error.payload) = error.parsed := by
  rw [parsed, ← blockStatus_eq, ← code_eq]
  rfl

theorem parseSlot?_slot (error : BootError) : parseSlot? error.slot = some error.parsed := by
  have hs : BlockStatus.ofBytes? error.slot = some error.status := by
    rw [slot, List.append_assoc, BlockStatus.ofBytes?_toBytes_append]
  have he : DataEntry.ofBytes? (error.slot.drop Layout.statusSize) = some error.entry := by
    rw [slot, List.append_assoc, ← error.status.length_toBytes, List.drop_left,
      DataEntry.ofBytes?_toBytes_append]
  have hp : BootPayload.ofBytes? (error.slot.drop (Layout.statusSize + Layout.entrySize)) =
      some error.payload := by
    rw [slot, ← error.status.length_toBytes, ← error.entry.length_toBytes, ← List.length_append,
      List.drop_left, BootPayload.ofBytes?_toBytes]
  simp [parseSlot?, hs, he, hp, error.parts_eq_parsed]

/-- A recorded error never looks like a free slot. -/
theorem blockStatus_ne_zero (severity : Severity) : blockStatus severity ≠ 0 := by
  cases severity <;> decide

end BootError

end PlatformFirmware.ErrorRecord
