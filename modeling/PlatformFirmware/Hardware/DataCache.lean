import PlatformFirmware.Efi.Firmware

namespace PlatformFirmware

class DataCache (σ : Type) where
  /-- Takes the bytes of the range from a write. They may stay in the cache only. -/
  dirty : UInt64 → Nat → σ → σ
  /-- Writes back and invalidates the lines that overlap the range. -/
  clean : UInt64 → Nat → σ → σ

def dirtyCache {σ ε : Type} [DataCache σ] (address : UInt64) (length : Nat) : EStateM ε σ Unit :=
  modify (DataCache.dirty address length)

def cleanCache {σ ε : Type} [DataCache σ] (address : UInt64) (length : Nat) : EStateM ε σ Unit :=
  modify (DataCache.clean address length)

end PlatformFirmware
