import PlatformFirmware.Hardware.SecureCall
import PlatformFirmware.Hardware.RegisterBus
import PlatformFirmware.Hardware.DataCache
import PlatformFirmware.Hardware.ReservedMemory
import PlatformFirmware.Hardware.ManagementProcessor

namespace PlatformFirmware

inductive Event
  | read (address : UInt64) (value : UInt32)
  | write (address : UInt64) (value : UInt32)
  | stall (microseconds : Nat)
  | call (request : SecureCall) (answer : SecureCall.Answer)
  | dirty (address : UInt64) (length : Nat)
  | clean (address : UInt64) (length : Nat)
  | allocate (pages : Nat) (outcome : UInt64 ⊕ Efi.Error)
  | release (address : UInt64) (pages : Nat) (failure : Option Efi.Error)
  | polling (processor : ManagementProcessor) (enable : Bool) (failure : Option Efi.Error)
  deriving DecidableEq, Repr

/-- A platform together with all that was done to it, in order. -/
structure Traced (σ : Type) where
  peer : σ
  events : Array Event := #[]

namespace Traced

variable {σ : Type}

def mapPeer (f : σ → σ) (traced : Traced σ) : Traced σ := { traced with peer := f traced.peer }

def forget (traced : Traced σ) : Traced σ := { traced with events := #[] }

/-- Performs an action on the peer and adds the event its outcome stands for. -/
def observe {α : Type} (success : α → Event) (failure : Efi.Error → Event) (action : Firmware σ α) :
    Firmware (Traced σ) α := fun traced =>
  match action traced.peer with
  | .ok a peer => .ok a ⟨peer, traced.events.push (success a)⟩
  | .error e peer => .error e ⟨peer, traced.events.push (failure e)⟩

instance [RegisterBus σ] : RegisterBus (Traced σ) where
  read address traced :=
    let (value, peer) := RegisterBus.read address traced.peer
    (value, ⟨peer, traced.events.push (.read address value)⟩)
  write address value traced :=
    ⟨RegisterBus.write address value traced.peer, traced.events.push (.write address value)⟩
  stall microseconds traced :=
    ⟨RegisterBus.stall microseconds traced.peer, traced.events.push (.stall microseconds)⟩

instance [SecureMonitor σ] : SecureMonitor (Traced σ) where
  call request traced :=
    let (answer, peer) := SecureMonitor.call request traced.peer
    (answer, ⟨peer, traced.events.push (.call request answer)⟩)

instance [DataCache σ] : DataCache (Traced σ) where
  dirty address length traced :=
    ⟨DataCache.dirty address length traced.peer, traced.events.push (.dirty address length)⟩
  clean address length traced :=
    ⟨DataCache.clean address length traced.peer, traced.events.push (.clean address length)⟩

instance [ReservedMemory σ] : ReservedMemory (Traced σ) where
  allocate pages :=
    observe (fun region => .allocate pages (.inl region.address)) (fun e => .allocate pages (.inr e))
      (ReservedMemory.allocate pages)
  release {pages} region :=
    observe (fun _ => .release region.address pages none)
      (fun e => .release region.address pages (some e)) (ReservedMemory.release region)

instance [RasPolling σ] : RasPolling (Traced σ) where
  setPolling processor enable :=
    observe (fun _ => .polling processor enable none) (fun e => .polling processor enable (some e))
      (RasPolling.setPolling processor enable)

end Traced

end PlatformFirmware
