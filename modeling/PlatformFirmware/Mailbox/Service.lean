import PlatformFirmware.Mailbox.Doorbell
import PlatformFirmware.Mailbox.Request

namespace PlatformFirmware.Mailbox.Doorbell

variable {σ : Type} [RegisterBus σ]

def notify (doorbell : Doorbell) (request : Request) : Firmware σ Unit := do
  doorbell.send (← MonadExcept.ofExcept request.message)

def query (doorbell : Doorbell) (request : Request) : Firmware σ Message := do
  doorbell.exchange (← MonadExcept.ofExcept request.message)

def queryRegister (doorbell : Doorbell) (address : UInt32) : Firmware σ UInt32 := do
  let response ← doorbell.query (.readRegister address)
  return response.parameter0

def setRegister (doorbell : Doorbell) (address value : UInt32) : Firmware σ Unit :=
  doorbell.notify (.writeRegister address value)

def readI2c (doorbell : Doorbell) (transfer : I2cTransfer) (register : UInt32) :
    Firmware σ UInt32 := do
  let response ← doorbell.query (.readI2c transfer register)
  return response.parameter0 &&& I2cTransfer.dataMask transfer.dataLength

def writeI2c (doorbell : Doorbell) (transfer : I2cTransfer) (register data : UInt32) :
    Firmware σ Unit :=
  doorbell.notify (.writeI2c transfer register (data &&& I2cTransfer.dataMask transfer.dataLength))

def reportBoot (doorbell : Doorbell) (stage : BootStage) (status : BootStatus)
    (checkpoint : UInt32) : Firmware σ Unit :=
  doorbell.notify (.bootProgress stage status checkpoint)

def randomNumber (doorbell : Doorbell) : Firmware σ UInt64 := do
  let response ← doorbell.query .randomNumber
  return response.randomNumber

def setConfiguration (doorbell : Doorbell) (item : UInt8) (value : UInt32) : Firmware σ Unit :=
  doorbell.notify (.setConfiguration item value)

def setRasPolling (doorbell : Doorbell) (enable : Bool) : Firmware σ Unit :=
  doorbell.notify (.rasPolling enable)

end PlatformFirmware.Mailbox.Doorbell
