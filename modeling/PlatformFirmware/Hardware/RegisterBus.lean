import PlatformFirmware.Efi.Firmware
import PlatformFirmware.Table

namespace PlatformFirmware

/-- Whatever answers register accesses. A read may change its state, and so may the passing of
time. -/
class RegisterBus (σ : Type) where
  read : UInt64 → σ → UInt32 × σ
  write : UInt64 → UInt32 → σ → σ
  stall : Nat → σ → σ

section

variable {σ ε : Type} [RegisterBus σ]

def readRegister (address : UInt64) : EStateM ε σ UInt32 := modifyGet (RegisterBus.read address)

def writeRegister (address : UInt64) (value : UInt32) : EStateM ε σ Unit :=
  modify (RegisterBus.write address value)

def stall (microseconds : Nat) : EStateM ε σ Unit := modify (RegisterBus.stall microseconds)

end

structure RegisterBank where
  registers : Table UInt64 UInt32 := {}

def RegisterBank.register (bank : RegisterBank) (address : UInt64) : UInt32 :=
  bank.registers.getD address 0

instance : RegisterBus RegisterBank where
  read address bank := (bank.register address, bank)
  write address value bank := { bank with registers := bank.registers.insert address value }
  stall _ bank := bank

/-- The timer of a host without a counter of its own: it counts in microseconds and stands still. -/
structure HostTimer where
  counter : UInt64 := 0
  frequency : UInt64 := 1000000

end PlatformFirmware
