import PlatformFirmware.Hardware.Trace
import PlatformFirmware.Proofs.Action

namespace PlatformFirmware.Traced

variable {σ ε α : Type}

@[simp] theorem run_observe (success : α → Event) (failure : Efi.Error → Event)
    (action : Firmware σ α) (traced : Traced σ) :
    (observe success failure action).run traced =
      match action.run traced.peer with
      | .ok a peer => .ok a ⟨peer, traced.events.push (success a)⟩
      | .error e peer => .error e ⟨peer, traced.events.push (failure e)⟩ := rfl

@[simp] theorem allocate_eq [ReservedMemory σ] (pages : Nat) :
    (ReservedMemory.allocate pages : Firmware (Traced σ) (Region pages)) =
      observe (fun region => .allocate pages (.inl region.address)) (fun e => .allocate pages (.inr e))
        (ReservedMemory.allocate pages) := rfl

@[simp] theorem release_eq [ReservedMemory σ] {pages : Nat} (region : Region pages) :
    (ReservedMemory.release region : Firmware (Traced σ) Unit) =
      observe (fun _ => .release region.address pages none)
        (fun e => .release region.address pages (some e)) (ReservedMemory.release region) := rfl

@[simp] theorem setPolling_eq [RasPolling σ] (processor : ManagementProcessor) (enable : Bool) :
    (RasPolling.setPolling processor enable : Firmware (Traced σ) Unit) =
      observe (fun _ => .polling processor enable none) (fun e => .polling processor enable (some e))
        (RasPolling.setPolling processor enable) := rfl

@[simp] theorem run_issue [SecureMonitor σ] (call : SecureCall) (traced : Traced σ) :
    (call.issue : EStateM ε (Traced σ) SecureCall.Answer).run traced =
      .ok (SecureMonitor.call call traced.peer).1
        ⟨(SecureMonitor.call call traced.peer).2,
          traced.events.push (.call call (SecureMonitor.call call traced.peer).1)⟩ := rfl

@[simp] theorem run_cleanCache [DataCache σ] (address : UInt64) (length : Nat)
    (traced : Traced σ) :
    (cleanCache address length : EStateM ε (Traced σ) Unit).run traced =
      .ok () ⟨DataCache.clean address length traced.peer,
        traced.events.push (.clean address length)⟩ := rfl

section Makes

variable {β : Type}

def attach (events : Array Event) :
    EStateM.Result Efi.Error σ α → EStateM.Result Efi.Error (Traced σ) α
  | .ok a peer => .ok a ⟨peer, events⟩
  | .error e peer => .error e ⟨peer, events⟩

theorem outcome_attach (events : Array Event) (result : EStateM.Result Efi.Error σ α) :
    outcome (attach events result) = outcome result := by
  cases result <;> rfl

theorem events_attach (events : Array Event) (result : EStateM.Result Efi.Error σ α) :
    (final (attach events result)).events = events := by
  cases result <;> rfl

/-- Traced or not, an action comes to the same result on a peer, and the trace grows by its
events. -/
structure Makes (plain : Firmware σ α) (traced : Firmware (Traced σ) α) (peer : σ)
    (events : List Event) (result : EStateM.Result Efi.Error σ α) : Prop where
  run : plain.run peer = result
  run_traced (trace : Array Event) :
    traced.run ⟨peer, trace⟩ = attach (trace ++ events.toArray) result

theorem makes_pure (a : α) (peer : σ) : Makes (pure a) (pure a) peer [] (.ok a peer) :=
  ⟨rfl, fun _ => by simp [attach]⟩

theorem makes_throw (e : Efi.Error) (peer : σ) :
    Makes (throw e : Firmware σ α) (throw e) peer [] (.error e peer) :=
  ⟨rfl, fun _ => by simp [attach]⟩

section

variable {plain : Firmware σ α} {traced : Firmware (Traced σ) α} {next : α → Firmware σ β}
  {next' : α → Firmware (Traced σ) β} {peer after : σ} {events later : List Event}

theorem Makes.bind {a : α} {result : EStateM.Result Efi.Error σ β}
    (h : Makes plain traced peer events (.ok a after))
    (h' : Makes (next a) (next' a) after later result) :
    Makes (plain >>= next) (traced >>= next') peer (events ++ later) result := by
  constructor
  · rw [EStateM.run_bind, h.run]
    exact h'.run
  · intro trace
    rw [EStateM.run_bind, h.run_traced, ← List.append_toArray, ← Array.append_assoc]
    exact h'.run_traced _

theorem Makes.bind_error {e : Efi.Error} (h : Makes plain traced peer events (.error e after)) :
    Makes (plain >>= next) (traced >>= next') peer events (.error e after) := by
  constructor
  · rw [EStateM.run_bind, h.run]
  · intro trace
    rw [EStateM.run_bind, h.run_traced]
    rfl

end

variable [RegisterBus σ]

theorem makes_readRegister (address : UInt64) (peer : σ) :
    ∃ value after, Makes (readRegister address) (readRegister address) peer [.read address value]
      (.ok value after) :=
  ⟨_, _, rfl, fun _ => rfl⟩

theorem makes_writeRegister (address : UInt64) (value : UInt32) (peer : σ) :
    ∃ after, Makes (writeRegister address value) (writeRegister address value) peer
      [.write address value] (.ok () after) :=
  ⟨_, rfl, fun _ => rfl⟩

theorem makes_stall (microseconds : Nat) (peer : σ) :
    ∃ after, Makes (stall microseconds) (stall microseconds) peer [.stall microseconds]
      (.ok () after) :=
  ⟨_, rfl, fun _ => rfl⟩

end Makes

end PlatformFirmware.Traced
