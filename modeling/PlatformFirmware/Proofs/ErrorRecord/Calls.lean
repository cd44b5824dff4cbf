import PlatformFirmware.Proofs.ErrorRecord.Follows

namespace PlatformFirmware.ErrorRecord

variable {σ : Type} [ReservedMemory σ] [SecureMonitor σ] [DataCache σ] [RasPolling σ]

def Operation.perform : Operation → StoreAction σ Unit
  | init => StoreAction.init
  | free => StoreAction.free
  | enable on detector => StoreAction.enable on detector
  | record error => StoreAction.record error

theorem perform_follows (operation : Operation) (store : Store) (traced : Traced σ) :
    Follows (operation.Step store) traced.events (operation.perform.run (store, traced)) := by
  cases operation with
  | init => exact init_follows store traced
  | free => exact free_follows store traced
  | enable on detector => exact enable_follows on detector store traced
  | record error => exact record_follows error store traced

structure Call where
  operation : Operation
  events : List Event
  outcome : Except Efi.Error Unit

/-- Makes a call on a platform whose events are recorded from its start to its end. -/
def call (operation : Operation) (store : Store) (platform : σ) : Call × Store × σ :=
  let result := operation.perform.run (store, ({ peer := platform } : Traced σ))
  (⟨operation, (final result).2.events.toList, outcome result⟩, (final result).1,
    (final result).2.peer)

def calls : List Operation → Store → σ → List Call × Store × σ
  | [], store, platform => ([], store, platform)
  | operation :: operations, store, platform =>
    let (first, after, platform) := call operation store platform
    let (later, last, platform) := calls operations after platform
    (first :: later, last, platform)

theorem call_step (operation : Operation) (store : Store) (platform : σ) :
    operation.Step store (call operation store platform).1.events
      (call operation store platform).1.outcome (call operation store platform).2.1 := by
  obtain ⟨events, hs, he⟩ := perform_follows operation store ({ peer := platform } : Traced σ)
  rw [List.nil_append] at he
  rw [call, he]
  exact hs

/-- What holds of the calls made so far and of the store they left holds after any further calls, if
every step keeps it. -/
theorem calls_induction {holds : List Call → Store → Prop}
    (step : ∀ made store operation events r after, holds made store →
      operation.Step store events r after → holds (made ++ [⟨operation, events, r⟩]) after)
    (operations : List Operation) (made : List Call) (store : Store) (platform : σ)
    (h : holds made store) :
    holds (made ++ (calls operations store platform).1) (calls operations store platform).2.1 := by
  induction operations generalizing made store platform with
  | nil => simpa [calls] using h
  | cons operation operations ih =>
    have hs := step made store operation _ _ _ h (call_step operation store platform)
    have hl := ih _ _ (call operation store platform).2.2 hs
    rw [List.append_assoc] at hl
    exact hl

end PlatformFirmware.ErrorRecord
