import PlatformFirmware.Hardware.ManagementProcessor

namespace PlatformFirmware.Mailbox

structure Config where
  smproBase : UInt64 := 0x100000540000
  pmproBase : UInt64 := 0x100001540000
  socketStride : UInt64 := 0x400000000000
  socketCount : Nat := 2
  /-- Microseconds between two polls. -/
  pollInterval : Nat := 1000
  /-- Microseconds to wait for an acknowledge or a response. -/
  timeout : Nat := 10000000
  deriving DecidableEq, Repr

namespace Config

def processorBase (config : Config) : ManagementProcessor → UInt64
  | .smpro => config.smproBase
  | .pmpro => config.pmproBase

def socketBase (config : Config) (socket : Nat) (processor : ManagementProcessor) :
    Except Efi.Error UInt64 :=
  if socket < config.socketCount then
    .ok (config.processorBase processor + UInt64.ofNat socket * config.socketStride)
  else .error .invalidParameter

/-- The number of polls that fit in the timeout, at least one. Without an interval every
microsecond counts as a poll. -/
def polls (config : Config) : Nat :=
  if config.pollInterval = 0 then max config.timeout 1
  else max (config.timeout / config.pollInterval) 1

theorem one_le_polls (config : Config) : 1 ≤ config.polls := by
  rw [polls]
  split <;> omega

end Config

end PlatformFirmware.Mailbox
