import PlatformFirmware.Bytes
import PlatformFirmware.Efi.Firmware
import PlatformFirmware.Efi.Page

namespace PlatformFirmware

structure Region (pages : Nat) where
  address : UInt64
  bytes : Bytes
  length_bytes : bytes.length = pages * Efi.Page.bytes

namespace Region

variable {pages : Nat}

def fill (address : UInt64) (pages : Nat) (byte : UInt8) : Region pages :=
  ⟨address, List.replicate (pages * Efi.Page.bytes) byte, by simp⟩

def atAddress? (address : UInt64) (pages : Nat) : Option (Region pages) :=
  if address = 0 then none else some (fill address pages 0)

def write (region : Region pages) (offset : Nat) (data : Bytes) : Region pages :=
  ⟨region.address, Bytes.write region.bytes offset data, by
    rw [Bytes.length_write, region.length_bytes]⟩

@[simp] theorem address_write (region : Region pages) (offset : Nat) (data : Bytes) :
    (region.write offset data).address = region.address := rfl

def slice (region : Region pages) (offset length : Nat) : Bytes :=
  Bytes.slice region.bytes offset length

def length (region : Region pages) : Nat := region.bytes.length

def isEmpty (_ : Region pages) : Bool := pages = 0

end Region

/-- A provider of reserved memory. It may refuse any request, and a region it refuses to take back
stays with the caller. -/
class ReservedMemory (σ : Type) where
  allocate (pages : Nat) : Firmware σ (Region pages)
  release {pages : Nat} (region : Region pages) : Firmware σ Unit

end PlatformFirmware
