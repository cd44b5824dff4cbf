import PlatformFirmware.Efi.Firmware

namespace PlatformFirmware

inductive ManagementProcessor
  | smpro
  | pmpro
  deriving DecidableEq, Repr

class RasPolling (σ : Type) where
  /-- Tells a processor, on every socket, to start or stop polling the error registers. -/
  setPolling : ManagementProcessor → Bool → Firmware σ Unit

end PlatformFirmware
