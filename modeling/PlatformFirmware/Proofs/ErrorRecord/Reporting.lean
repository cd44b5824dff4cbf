import PlatformFirmware.ErrorRecord.Store
import PlatformFirmware.Mailbox.Station
import PlatformFirmware.Proofs.Mailbox.Accesses
import PlatformFirmware.Proofs.Reporting

namespace PlatformFirmware

open SecureCall (Answer)

variable {σ ρ : Type}

namespace Mailbox

def noLog (_ : ρ) : List Event := []

variable {accepted : Answer → Prop}

theorem Ownership.reports_acquire (socket : Nat) (channel : Channel) :
    Reports noLog accepted Efi.Error.IsKnown (Ownership.acquire socket channel) := by
  refine reports_get.bind fun ownership => ?_
  refine Reports.bind (reports_ofExcept fun e he => ?_) fun base => ?_
  · rw [Config.socketBase] at he
    split at he <;> cases he
    trivial
  · split
    · exact reports_throw trivial
    · exact reports_throw trivial
    · exact Reports.bind (reports_modify fun _ => rfl) fun _ => reports_pure _

theorem Doorbell.reports_setRasPolling [RegisterBus ρ] (doorbell : Doorbell) (enable : Bool) :
    Reports (noLog : ρ → _) accepted Efi.Error.IsKnown (doorbell.setRasPolling enable) := by
  refine Reports.bind (reports_ofExcept nofun) fun message => ?_
  intro s
  obtain ⟨left, seen, shown, after, -, hm⟩ := doorbell.makes_send message s
  refine ⟨[], rfl, ?_⟩
  rw [hm.run]
  cases shown with
  | true => exact .value () nofun
  | false => exact .failure _ trivial

namespace Station

theorem reports_withHandle {use : Handle → Firmware ρ Unit}
    (h : ∀ handle, Reports noLog accepted Efi.Error.IsKnown (use handle)) (socket : Nat)
    (channel : Channel) :
    Reports noLog accepted Efi.Error.IsKnown (withHandle socket channel use) := by
  refine Reports.bind ?_ fun handle => ?_
  · exact Reports.focus (fun _ => rfl) (fun _ _ => rfl)
      (Ownership.reports_acquire socket channel)
  · intro s
    refine ⟨[], rfl, ?_⟩
    rw [EStateM.run_bind, onBus, run_focus, run_observing]
    cases hu : (use handle).run s.bus with
    | ok a bus => exact .value a nofun
    | error e bus => exact .failure e ((h handle).known_of_error hu)

theorem reports_setPolling [RegisterBus ρ] (processor : ManagementProcessor) (enable : Bool) :
    Reports (noLog : Station ρ → _) accepted Efi.Error.IsKnown (setPolling processor enable) :=
  reports_get.bind fun _ => reports_forM fun socket =>
    reports_withHandle (fun handle => handle.doorbell.reports_setRasPolling enable) socket _

end Station

end Mailbox

/-- Firmware with the doorbells of the management processors beside it. -/
structure Machine (σ ρ : Type) where
  firmware : σ
  station : Mailbox.Station ρ

namespace Machine

instance [SecureMonitor σ] : SecureMonitor (Machine σ ρ) where
  call request machine :=
    let (answer, firmware) := SecureMonitor.call request machine.firmware
    (answer, { machine with firmware })

instance [DataCache σ] : DataCache (Machine σ ρ) where
  dirty address length machine :=
    { machine with firmware := DataCache.dirty address length machine.firmware }
  clean address length machine :=
    { machine with firmware := DataCache.clean address length machine.firmware }

instance [RegisterBus ρ] : RasPolling (Machine σ ρ) where
  setPolling processor enable :=
    focus Machine.station (fun station machine => { machine with station })
      (RasPolling.setPolling processor enable)

end Machine

namespace ErrorRecord

variable {accepted : Answer → Prop}

theorem reports_observe {α : Type} {success : α → Event} {failure : Efi.Error → Event}
    {action : Firmware σ α} (hs : ∀ a request answer, success a ≠ .call request answer)
    (hk : ∀ s after e, action.run s = .error e after → e.IsKnown) :
    Reports Traced.log accepted Efi.Error.IsKnown (Traced.observe success failure action) := by
  intro traced
  rw [Traced.run_observe]
  cases ha : action.run traced.peer with
  | ok a peer =>
    refine ⟨[success a], Array.toList_push, .value a fun request answer hm => ?_⟩
    exact absurd (List.mem_singleton.1 hm).symm (hs a request answer)
  | error e peer => exact ⟨[failure e], Array.toList_push, .failure e (hk _ _ e ha)⟩

theorem reports_clean [DataCache σ] (address : UInt64) (length : Nat) :
    Reports (Traced.log : Traced σ → _) accepted Efi.Error.IsKnown (cleanCache address length) :=
  fun _ => ⟨[.clean address length], Array.toList_push, .value () (by simp)⟩

theorem reports_secureCall [SecureMonitor σ] (function : UInt32) (arguments : List UInt64) :
    Reports (Traced.log : Traced σ → _) (·.x0 = 0) Efi.Error.IsKnown
      (StoreAction.secureCall function arguments) :=
  reports_check (issues_issue _) (fun _ => Answer.zero_of_check)
    fun _ _ => Answer.isKnown_of_check

theorem reports_onPlatform {α : Type} {action : Firmware (Traced σ) α}
    (h : Reports Traced.log accepted Efi.Error.IsKnown action) :
    Reports Traced.logBeside accepted Efi.Error.IsKnown (StoreAction.onPlatform action) :=
  h.focus (fun _ => rfl) fun _ _ => rfl

theorem reports_store :
    Reports (Traced.logBeside : Store × Traced σ → _) accepted Efi.Error.IsKnown
      StoreAction.store :=
  reports_get.bind fun _ => reports_pure _

theorem reports_setPolling [RegisterBus ρ] (processor : ManagementProcessor) (on : Bool) :
    Reports (Traced.log : Traced (Machine σ ρ) → _) accepted Efi.Error.IsKnown
      (RasPolling.setPolling processor on) := by
  have hm : Reports Mailbox.noLog accepted Efi.Error.IsKnown
      (RasPolling.setPolling processor on : Firmware (Machine σ ρ) Unit) :=
    (Mailbox.Station.reports_setPolling processor on).focus (fun _ => rfl) fun _ _ => rfl
  exact reports_observe nofun fun _ _ _ => hm.known_of_error

theorem reports_detect [SecureMonitor σ] [RegisterBus ρ] (arguments : List UInt64) (on : Bool)
    (detector : Detector) :
    Reports (Traced.logBeside : Store × Traced (Machine σ ρ) → _) (·.x0 = 0) Efi.Error.IsKnown (do
      let s ← StoreAction.store
      StoreAction.onPlatform do
        StoreAction.secureCall s.functions.enable arguments
        match detector.processor? with
        | none => return
        | some processor => RasPolling.setPolling processor on) := by
  refine reports_store.bind fun store => reports_onPlatform ?_
  refine (reports_secureCall _ _).bind fun _ => ?_
  cases detector.processor? with
  | none => exact reports_pure ()
  | some processor => exact reports_setPolling processor on

variable [SecureMonitor σ] [DataCache σ]

theorem reports_publish (functions : Functions) (kind : TableKind) (address : UInt64)
    (size : Nat) :
    Reports (Traced.log : Traced σ → _) (·.x0 = 0) Efi.Error.IsKnown
      (StoreAction.publish functions kind address size) :=
  (reports_clean _ _).bind fun _ => reports_secureCall _ _

theorem reports_publishTables :
    Reports (Traced.logBeside : Store × Traced σ → _) (·.x0 = 0) Efi.Error.IsKnown
      StoreAction.publishTables := by
  refine reports_store.bind fun store => ?_
  split
  · refine Reports.bind (reports_onPlatform ?_) fun _ => reports_modify fun _ => rfl
    exact (reports_publish _ _ _ _).bind fun _ => reports_publish _ _ _ _
  · exact reports_throw trivial

theorem reports_enable [RegisterBus ρ] (on : Bool) (detector : Detector) :
    Reports (Traced.logBeside : Store × Traced (Machine σ ρ) → _) (·.x0 = 0) Efi.Error.IsKnown
      (StoreAction.enable on detector) := by
  rw [StoreAction.enable]
  split
  · exact reports_publishTables.bind fun _ => reports_detect _ _ _
  · exact reports_detect _ _ _

end ErrorRecord

end PlatformFirmware
