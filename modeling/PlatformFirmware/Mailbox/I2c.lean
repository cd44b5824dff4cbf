import PlatformFirmware.Mailbox.Message

namespace PlatformFirmware.Mailbox

inductive I2cProtocol
  | i2c
  | smbus
  deriving DecidableEq, Repr

structure I2cTransfer where
  device : UInt8
  chip : UInt8
  protocol : I2cProtocol
  addressLength : UInt8
  dataLength : UInt8
  deriving DecidableEq, Repr

namespace I2cProtocol

def code : I2cProtocol → UInt8
  | i2c => 0
  | smbus => 1

end I2cProtocol

namespace I2cTransfer

def Valid (transfer : I2cTransfer) : Prop :=
  transfer.device ≤ 1 ∧ transfer.chip ≤ 0x7F ∧ transfer.addressLength ≤ 4 ∧
    transfer.dataLength ≠ 0 ∧ transfer.dataLength ≤ 4

instance (transfer : I2cTransfer) : Decidable transfer.Valid :=
  inferInstanceAs (Decidable (_ ∧ _))

def command (transfer : I2cTransfer) (subtype : UInt8) : Except Efi.Error UInt32 :=
  if transfer.Valid then
    .ok (Command.ofHeader .debug subtype 0 ||| Command.field transfer.device 23 |||
      Command.field transfer.chip 16 ||| Command.field transfer.protocol.code 12 |||
      Command.field transfer.addressLength 8 ||| Command.field transfer.dataLength 0)
  else .error .invalidParameter

def ofCommand (command : UInt32) : I2cTransfer where
  device := ((command &&& 0x00800000) >>> 23).toUInt8
  chip := ((command &&& 0x007F0000) >>> 16).toUInt8
  protocol := if command &&& 0x00001000 = 0 then .i2c else .smbus
  addressLength := ((command &&& 0x00000700) >>> 8).toUInt8
  dataLength := (command &&& 0x000000FF).toUInt8

def dataMask (length : UInt8) : UInt32 :=
  if length < 4 then (1 <<< (8 * length.toUInt32)) - 1 else 0xFFFFFFFF

end I2cTransfer

end PlatformFirmware.Mailbox
