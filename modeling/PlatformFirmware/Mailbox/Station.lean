import PlatformFirmware.Mailbox.Ownership
import PlatformFirmware.Mailbox.Service

namespace PlatformFirmware.Mailbox

structure Station (σ : Type) where
  ownership : Ownership
  bus : σ

namespace Station

variable {σ α : Type}

def onBus (action : Firmware σ α) : Firmware (Station σ) α :=
  focus Station.bus (fun bus station => { station with bus }) action

def acquire (socket : Nat) (channel : Channel) : Firmware (Station σ) Handle :=
  focus Station.ownership (fun ownership station => { station with ownership })
    (Ownership.acquire socket channel)

def release (handle : Handle) (station : Station σ) : Station σ :=
  { station with ownership := station.ownership.release handle }

/-- Uses a doorbell and releases it, also when its use fails. -/
def withHandle (socket : Nat) (channel : Channel) (use : Handle → Firmware σ α) :
    Firmware (Station σ) α := do
  let handle ← acquire socket channel
  let outcome ← onBus (observing (use handle))
  modify (release handle)
  MonadExcept.ofExcept outcome

def pollingChannel (processor : ManagementProcessor) : Channel := ⟨processor, 0, by decide⟩

def setPolling [RegisterBus σ] (processor : ManagementProcessor) (enable : Bool) :
    Firmware (Station σ) Unit := do
  let station ← get
  (List.range station.ownership.config.socketCount).forM fun socket =>
    withHandle socket (pollingChannel processor) fun handle => handle.doorbell.setRasPolling enable

instance [RegisterBus σ] : RasPolling (Station σ) where
  setPolling := setPolling

end Station

end PlatformFirmware.Mailbox
