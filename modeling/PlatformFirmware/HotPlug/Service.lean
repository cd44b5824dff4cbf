import PlatformFirmware.HotPlug.Command
import PlatformFirmware.SecurePartition.Client

namespace PlatformFirmware.HotPlug

def clientId : UInt16 := 0xABCD

def serviceGuid : Efi.Guid :=
  .ofFields 0x5F5D9C3E 0x1D7B 0x4B1A #v[0x93, 0x2C, 0x6E, 0x11, 0x0D, 0x4A, 0x8B, 0x57]

structure Service where
  client : SecurePartition.Client := ⟨clientId⟩
  guid : Efi.Guid := serviceGuid
  deriving DecidableEq, Repr

/-- A partition that is not there does not support hot-plug. -/
def serviceError : Efi.Error → Efi.Error
  | .notFound => .unsupported
  | e => e

namespace Service

variable {σ : Type} [SecureMonitor σ]

/-- The error of a failed request stands, whatever the close that follows it reports. -/
def deliver (command : Command) (handle : SecurePartition.Handle) : Firmware σ Unit := do
  try
    discard (handle.request command.words)
  catch e =>
    handle.drop
    throw e
  handle.close

def transact (service : Service) (command : Command) : Firmware σ Unit :=
  service.client.openHandle service.guid >>= deliver command

def send (service : Service) (command : Command) : Firmware σ Unit :=
  tryCatch (service.transact command) fun e => throw (serviceError e)

def configurePortMap (service : Service) (entries : List PortMapEntry) : Firmware σ Unit :=
  (Command.portMap entries).forM service.send

end Service

end PlatformFirmware.HotPlug
