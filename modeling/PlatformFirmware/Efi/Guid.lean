import PlatformFirmware.Bytes

namespace PlatformFirmware.Efi

structure Guid where
  bytes : Bytes
  length_bytes : bytes.length = 16 := by decide
  deriving DecidableEq, Repr

namespace Guid

def ofBytes? (bytes : Bytes) : Option Guid :=
  if h : bytes.length = 16 then some ⟨bytes, h⟩ else none

/-- The GUID written `timeLow-timeMid-timeHigh-…`: the three leading fields are stored low byte
first, the last eight bytes in the order written. -/
def ofFields (timeLow : UInt32) (timeMid timeHigh : UInt16) (node : Vector UInt8 8) : Guid where
  bytes := Bytes.word32 timeLow ++ Bytes.word16 timeMid ++ Bytes.word16 timeHigh ++ node.toList
  length_bytes := by simp [Bytes.word32, Bytes.word16]

theorem bytes_inj {guid other : Guid} : guid.bytes = other.bytes ↔ guid = other := by
  cases guid
  cases other
  simp

def word (guid : Guid) (index : Nat) : UInt32 :=
  UInt32.ofNat (Bytes.ofLittleEndian (Bytes.slice guid.bytes (4 * index) 4))

end Guid

end PlatformFirmware.Efi
