import PlatformFirmware.Efi.Page

namespace PlatformFirmware.ErrorRecord.Layout

def ghesSources : Nat := 8

def ghesEntries : Nat := 23

def scratchSize : Nat := 984

def bertSlots : Nat := 8

def headerSize : Nat := 24

def sourceHeaderSize : Nat := 8

def statusSize : Nat := 20

def entrySize : Nat := 72

def payloadSize : Nat := 64

def messageSize : Nat := 60

def ghesBlockSize : Nat := statusSize + ghesEntries * (entrySize + payloadSize) + scratchSize

def ghesSourceSize : Nat := sourceHeaderSize + ghesBlockSize

def ghesSize : Nat := headerSize + ghesSources * ghesSourceSize

def slotSize : Nat := statusSize + entrySize + payloadSize

def bertSourceSize : Nat := sourceHeaderSize + bertSlots * slotSize

def bertSize : Nat := headerSize + bertSourceSize

def ghesPages : Nat := (Efi.Page.count (UInt64.ofNat ghesSize)).toNat

def bertPages : Nat := (Efi.Page.count (UInt64.ofNat bertSize)).toNat

def ghesSourceOffset (index : Nat) : Nat := headerSize + index * ghesSourceSize

def ghesBlockOffset (index : Nat) : Nat := ghesSourceOffset index + sourceHeaderSize

def bertSourceOffset : Nat := headerSize

def slotOffset (slot : Nat) : Nat := bertSourceOffset + sourceHeaderSize + slot * slotSize

theorem ghesSize_le : ghesSize ≤ ghesPages * Efi.Page.bytes := by decide

theorem bertSize_le : bertSize ≤ bertPages * Efi.Page.bytes := by decide

/-- The last source ends with the table. -/
theorem ghesSourceOffset_sources : ghesSourceOffset ghesSources = ghesSize := by decide

end PlatformFirmware.ErrorRecord.Layout
