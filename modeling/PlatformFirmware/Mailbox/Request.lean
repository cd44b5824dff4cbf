import PlatformFirmware.Mailbox.I2c

namespace PlatformFirmware.Mailbox

inductive BootStatus
  | notStarted
  | started
  | complete
  | failed
  deriving DecidableEq, Repr

inductive BootStage
  | smpro
  | pmpro
  | atfBl1
  | dde
  | atfBl2
  | ddrInit
  | atfBl31
  | atfBl32
  | uefi
  | os
  deriving DecidableEq, Repr

def BootStatus.code : BootStatus → UInt32
  | notStarted => 0
  | started => 1
  | complete => 2
  | failed => 3

def BootStage.code : BootStage → UInt32
  | smpro => 0
  | pmpro => 1
  | atfBl1 => 2
  | dde => 3
  | atfBl2 => 4
  | ddrInit => 5
  | atfBl31 => 6
  | atfBl32 => 7
  | uefi => 8
  | os => 9

inductive Request
  | readRegister (address : UInt32)
  | writeRegister (address value : UInt32)
  | readI2c (transfer : I2cTransfer) (register : UInt32)
  | writeI2c (transfer : I2cTransfer) (register data : UInt32)
  | bootProgress (stage : BootStage) (status : BootStatus) (checkpoint : UInt32)
  | randomNumber
  | setConfiguration (item : UInt8) (value : UInt32)
  | rasPolling (enable : Bool)
  deriving DecidableEq, Repr

/-- Only an I2C transfer whose fields do not fit has no message. The checkpoint of a boot stage is
spread over both parameter words. -/
def Request.message : Request → Except Efi.Error Message
  | readRegister address => .ok ⟨Command.ofHeader .debug 0x1 0, address, 0⟩
  | writeRegister address value => .ok ⟨Command.ofHeader .debug 0x2 0, address, value⟩
  | readI2c transfer register => (transfer.command 0x4).map fun command => ⟨command, register, 0⟩
  | writeI2c transfer register data =>
    (transfer.command 0x5).map fun command => ⟨command, register, data⟩
  | bootProgress stage status checkpoint =>
    .ok ⟨Command.ofParameters .user 0x6 0 1 0,
      stage.code ||| status.code <<< 8 ||| (checkpoint &&& 0xFFFF) <<< 16, checkpoint >>> 16⟩
  | randomNumber => .ok ⟨Command.ofParameters .user 0x7 0 1 0, 0, 0⟩
  | setConfiguration item value => .ok ⟨Command.ofParameters .user 0x2 0 item 0, value, 0⟩
  | rasPolling enable =>
    .ok ⟨Command.ofParameters .ras 0x1 0 (if enable then 1 else 0) 0, 0, 0⟩

def Message.randomNumber (response : Message) : UInt64 :=
  response.parameter0.toUInt64 ||| response.parameter1.toUInt64 <<< 32

end PlatformFirmware.Mailbox
