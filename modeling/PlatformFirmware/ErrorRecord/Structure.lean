import PlatformFirmware.Efi.Guid
import PlatformFirmware.ErrorRecord.Layout

namespace PlatformFirmware.ErrorRecord

inductive Severity
  | recoverable
  | fatal
  | corrected
  | none
  deriving DecidableEq, Repr

def Severity.code : Severity → UInt32
  | recoverable => 0
  | fatal => 1
  | corrected => 2
  | none => 3

abbrev Block (length : Nat) := { bytes : Bytes // bytes.length = length }

namespace Block

def zero (length : Nat) : Block length := ⟨Bytes.zero length, by simp⟩

def padded (length : Nat) (bytes : Bytes) : Block length :=
  ⟨bytes.take length ++ Bytes.zero (length - bytes.length), by simp; omega⟩

def split? (length : Nat) (bytes : Bytes) : Option (Block length × Bytes) :=
  if h : length ≤ bytes.length then
    some (⟨bytes.take length, List.length_take_of_le h⟩, bytes.drop length)
  else Option.none

end Block

structure TableHeader where
  reserved1 : UInt64 := 0
  reserved2 : UInt64 := 0
  totalLength : UInt32
  sourceCount : UInt32
  deriving DecidableEq, Repr

namespace TableHeader

def toBytes (header : TableHeader) : Bytes :=
  Bytes.word64 header.reserved1 ++ Bytes.word64 header.reserved2 ++
    Bytes.word32 header.totalLength ++ Bytes.word32 header.sourceCount

def ofBytes? (bytes : Bytes) : Option TableHeader := do
  let (reserved1, rest) ← Bytes.word64? bytes
  let (reserved2, rest) ← Bytes.word64? rest
  let (totalLength, rest) ← Bytes.word32? rest
  let (sourceCount, _) ← Bytes.word32? rest
  return { reserved1, reserved2, totalLength, sourceCount }

end TableHeader

structure SourceHeader where
  entryCount : UInt32
  length : UInt32
  deriving DecidableEq, Repr

namespace SourceHeader

def toBytes (header : SourceHeader) : Bytes :=
  Bytes.word32 header.entryCount ++ Bytes.word32 header.length

def ofBytes? (bytes : Bytes) : Option SourceHeader := do
  let (entryCount, rest) ← Bytes.word32? bytes
  let (length, _) ← Bytes.word32? rest
  return { entryCount, length }

end SourceHeader

structure BlockStatus where
  blockStatus : UInt32
  rawDataOffset : UInt32 := 0
  rawDataLength : UInt32 := 0
  dataLength : UInt32
  severity : UInt32
  deriving DecidableEq, Repr

namespace BlockStatus

def toBytes (status : BlockStatus) : Bytes :=
  Bytes.word32 status.blockStatus ++ Bytes.word32 status.rawDataOffset ++
    Bytes.word32 status.rawDataLength ++ Bytes.word32 status.dataLength ++
    Bytes.word32 status.severity

def ofBytes? (bytes : Bytes) : Option BlockStatus := do
  let (blockStatus, rest) ← Bytes.word32? bytes
  let (rawDataOffset, rest) ← Bytes.word32? rest
  let (rawDataLength, rest) ← Bytes.word32? rest
  let (dataLength, rest) ← Bytes.word32? rest
  let (severity, _) ← Bytes.word32? rest
  return { blockStatus, rawDataOffset, rawDataLength, dataLength, severity }

end BlockStatus

structure DataEntry where
  sectionType : Block 16
  severity : UInt32
  revision : UInt16
  validationBits : UInt8 := 0
  flags : UInt8 := 0
  dataLength : UInt32
  fruId : Block 16 := Block.zero 16
  fruText : Block 20 := Block.zero 20
  timestamp : UInt64 := 0
  deriving DecidableEq, Repr

namespace DataEntry

def toBytes (entry : DataEntry) : Bytes :=
  entry.sectionType.1 ++ Bytes.word32 entry.severity ++ Bytes.word16 entry.revision ++
    [entry.validationBits, entry.flags] ++ Bytes.word32 entry.dataLength ++ entry.fruId.1 ++
    entry.fruText.1 ++ Bytes.word64 entry.timestamp

def ofBytes? (bytes : Bytes) : Option DataEntry := do
  let (sectionType, rest) ← Block.split? 16 bytes
  let (severity, rest) ← Bytes.word32? rest
  let (revision, rest) ← Bytes.word16? rest
  let (validationBits, rest) ← Bytes.byte? rest
  let (flags, rest) ← Bytes.byte? rest
  let (dataLength, rest) ← Bytes.word32? rest
  let (fruId, rest) ← Block.split? 16 rest
  let (fruText, rest) ← Block.split? 20 rest
  let (timestamp, _) ← Bytes.word64? rest
  return { sectionType, severity, revision, validationBits, flags, dataLength, fruId, fruText,
           timestamp }

end DataEntry

structure BootPayload where
  errorType : UInt8
  subtype : UInt8
  errorInstance : UInt16
  message : Block Layout.messageSize
  deriving DecidableEq, Repr

namespace BootPayload

def toBytes (payload : BootPayload) : Bytes :=
  [payload.errorType, payload.subtype] ++ Bytes.word16 payload.errorInstance ++ payload.message.1

def ofBytes? (bytes : Bytes) : Option BootPayload := do
  let (errorType, rest) ← Bytes.byte? bytes
  let (subtype, rest) ← Bytes.byte? rest
  let (errorInstance, rest) ← Bytes.word16? rest
  let (message, _) ← Block.split? Layout.messageSize rest
  return { errorType, subtype, errorInstance, message }

end BootPayload

end PlatformFirmware.ErrorRecord
