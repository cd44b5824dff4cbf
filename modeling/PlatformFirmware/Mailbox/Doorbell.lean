import PlatformFirmware.Hardware.RegisterBus
import PlatformFirmware.Mailbox.Config
import PlatformFirmware.Mailbox.Message

namespace PlatformFirmware.Mailbox

namespace Register

def commandIn : UInt64 := 0x00

def parameter0In : UInt64 := 0x04

def parameter1In : UInt64 := 0x08

def commandOut : UInt64 := 0x10

def parameter0Out : UInt64 := 0x14

def parameter1Out : UInt64 := 0x18

def status : UInt64 := 0x20

def statusMask : UInt64 := 0x24

end Register

namespace Status

def acknowledge : UInt32 := 0x00001

def available : UInt32 := 0x10000

end Status

structure Doorbell where
  address : UInt64
  interval : Nat
  polls : Nat
  deriving DecidableEq, Repr

namespace Doorbell

def stride : UInt64 := 0x1000

def perProcessor : Nat := 8

def blockAddress (index : Nat) (base : UInt64) : UInt64 := base + UInt64.ofNat index * stride

def atBase (config : Config) (index : Nat) (base : UInt64) : Doorbell :=
  ⟨blockAddress index base, config.pollInterval, config.polls⟩

variable {σ : Type} [RegisterBus σ]

def await (doorbell : Doorbell) (bit : UInt32) : Nat → Firmware σ Unit
  | 0 => throw .timeout
  | polls + 1 => do
    stall doorbell.interval
    let status ← readRegister (doorbell.address + Register.status)
    if status &&& bit = 0 then doorbell.await bit polls

/-- The peer starts on the command word, so this is written last. An acknowledge left over from an
earlier message is cleared first. -/
def send (doorbell : Doorbell) (message : Message) : Firmware σ Unit := do
  let status ← readRegister (doorbell.address + Register.status)
  if status &&& Status.acknowledge ≠ 0 then
    writeRegister (doorbell.address + Register.status) Status.acknowledge
  writeRegister (doorbell.address + Register.parameter0In) message.parameter0
  writeRegister (doorbell.address + Register.parameter1In) message.parameter1
  writeRegister (doorbell.address + Register.commandIn) message.command
  doorbell.await Status.acknowledge doorbell.polls
  writeRegister (doorbell.address + Register.status) Status.acknowledge

/-- Clearing the available bit gives the registers back to the peer, so it comes last. -/
def receive (doorbell : Doorbell) : Firmware σ Message := do
  doorbell.await Status.available doorbell.polls
  let parameter0 ← readRegister (doorbell.address + Register.parameter0Out)
  let parameter1 ← readRegister (doorbell.address + Register.parameter1Out)
  let command ← readRegister (doorbell.address + Register.commandOut)
  writeRegister (doorbell.address + Register.status) Status.available
  return { command, parameter0, parameter1 }

def exchange (doorbell : Doorbell) (request : Message) : Firmware σ Message := do
  doorbell.send request
  let response ← doorbell.receive
  MonadExcept.ofExcept (Command.checkResponse request.command response.command)
  return response

/-- Lets an available message raise its interrupt. -/
def unmask (doorbell : Doorbell) : Firmware σ Unit := do
  let mask ← readRegister (doorbell.address + Register.statusMask)
  writeRegister (doorbell.address + Register.statusMask) (mask &&& ~~~Status.available)

end Doorbell

end PlatformFirmware.Mailbox
