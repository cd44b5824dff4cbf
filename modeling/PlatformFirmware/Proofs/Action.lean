import PlatformFirmware.Efi.Firmware
import PlatformFirmware.Hardware.RegisterBus

namespace PlatformFirmware

section Running

variable {ε ρ σ α : Type}

@[simp] theorem run_throw (e : ε) (s : σ) : (throw e : EStateM ε σ α).run s = .error e s := rfl

/-- A handler goes on from the state that the failure left. -/
@[simp high] theorem run_tryCatch (action : EStateM ε σ α) (handler : ε → EStateM ε σ α) (s : σ) :
    (tryCatch action handler).run s =
      match action.run s with
      | .ok a t => .ok a t
      | .error e t => (handler e).run t := by
  change EStateM.tryCatch action handler s = match action s with | .ok a t => _ | .error e t => _
  delta EStateM.tryCatch
  cases action s <;> rfl

@[simp] theorem run_discard (action : EStateM ε σ α) (s : σ) :
    (discard action).run s =
      match action.run s with
      | .ok _ t => .ok () t
      | .error e t => .error e t := rfl

@[simp] theorem run_focus (get : ρ → σ) (set : σ → ρ → ρ) (action : EStateM ε σ α) (s : ρ) :
    (focus get set action).run s =
      match action.run (get s) with
      | .ok a t => .ok a (set t s)
      | .error e t => .error e (set t s) := by
  change focus get set action s = _
  rw [focus, EStateM.run]
  cases action (get s) <;> rfl

@[simp] theorem run_ofExcept (outcome : Except ε α) (s : σ) :
    (MonadExcept.ofExcept outcome : EStateM ε σ α).run s =
      match outcome with
      | .ok a => .ok a s
      | .error e => .error e s := by
  cases outcome <;> rfl

@[simp] theorem run_observing (action : EStateM ε σ α) (s : σ) :
    (observing action : EStateM ε σ (Except ε α)).run s =
      match action.run s with
      | .ok a t => .ok (.ok a) t
      | .error e t => .ok (.error e) t := by
  rw [observing, run_tryCatch, EStateM.run_bind]
  cases action.run s <;> rfl

/-- A sequence that ends with a value went on from a value of its first part. -/
theorem exists_of_run_bind {β : Type} {action : EStateM ε σ α} {next : α → EStateM ε σ β} {s t : σ}
    {b : β} (h : (action >>= next).run s = .ok b t) :
    ∃ a middle, action.run s = .ok a middle ∧ (next a).run middle = .ok b t := by
  rw [EStateM.run_bind] at h
  cases ha : action.run s with
  | ok a middle =>
    rw [ha] at h
    exact ⟨a, middle, rfl, h⟩
  | error e middle =>
    rw [ha] at h
    cases h

/-- An action that ends with a value got past its guard. -/
theorem run_of_guard {c : Prop} [Decidable c] {e : ε} {rest : EStateM ε σ α} {s t : σ} {a : α}
    (h : (do
      if c then
        throw e
      rest).run s = .ok a t) : ¬ c ∧ rest.run s = .ok a t := by
  by_cases hc : c
  · rw [if_pos hc] at h
    cases h
  · rw [if_neg hc] at h
    exact ⟨hc, h⟩

end Running

section Registers

variable {ε σ : Type} [RegisterBus σ]

@[simp] theorem run_readRegister (address : UInt64) (s : σ) :
    (readRegister address : EStateM ε σ UInt32).run s =
      .ok (RegisterBus.read address s).1 (RegisterBus.read address s).2 := rfl

@[simp] theorem run_writeRegister (address : UInt64) (value : UInt32) (s : σ) :
    (writeRegister address value : EStateM ε σ Unit).run s =
      .ok () (RegisterBus.write address value s) := rfl

@[simp] theorem run_stall (microseconds : Nat) (s : σ) :
    (stall microseconds : EStateM ε σ Unit).run s = .ok () (RegisterBus.stall microseconds s) := rfl

end Registers

section Results

variable {ε σ α : Type}

def outcome : EStateM.Result ε σ α → Except ε α
  | .ok a _ => .ok a
  | .error e _ => .error e

def final : EStateM.Result ε σ α → σ
  | .ok _ s => s
  | .error _ s => s

def failure? : Except ε α → Option ε
  | .ok _ => none
  | .error e => some e

@[simp] theorem outcome_ok (a : α) (s : σ) : outcome (.ok a s : EStateM.Result ε σ α) = .ok a := rfl

@[simp] theorem outcome_error (e : ε) (s : σ) :
    outcome (.error e s : EStateM.Result ε σ α) = .error e := rfl

@[simp] theorem final_ok (a : α) (s : σ) : final (.ok a s : EStateM.Result ε σ α) = s := rfl

@[simp] theorem final_error (e : ε) (s : σ) : final (.error e s : EStateM.Result ε σ α) = s := rfl

theorem outcome_run_ofExcept (ended : Except ε α) (s : σ) :
    outcome ((MonadExcept.ofExcept ended : EStateM ε σ α).run s) = ended := by
  cases ended <;> rfl

theorem final_run_ofExcept (ended : Except ε α) (s : σ) :
    final ((MonadExcept.ofExcept ended : EStateM ε σ α).run s) = s := by
  cases ended <;> rfl

theorem exists_of_outcome_eq_ok {result : EStateM.Result ε σ α} {a : α}
    (h : outcome result = .ok a) : ∃ s, result = .ok a s := by
  cases result with
  | ok b s =>
    cases h
    exact ⟨s, rfl⟩
  | error e s => cases h

theorem outcome_run_focus {ρ : Type} (get : ρ → σ) (set : σ → ρ → ρ) (action : EStateM ε σ α)
    (s : ρ) : outcome ((focus get set action).run s) = outcome (action.run (get s)) := by
  rw [run_focus]
  cases action.run (get s) <;> rfl

theorem final_run_focus {ρ : Type} (get : ρ → σ) (set : σ → ρ → ρ) (action : EStateM ε σ α)
    (s : ρ) : final ((focus get set action).run s) = set (final (action.run (get s))) s := by
  rw [run_focus]
  cases action.run (get s) <;> rfl

@[simp] theorem failure?_ok (a : α) : failure? (.ok a : Except ε α) = none := rfl

@[simp] theorem failure?_error (e : ε) : failure? (.error e : Except ε α) = some e := rfl

variable {ρ : Type}

@[simp] theorem mapError_ok (f : ε → ρ) (a : α) : (.ok a : Except ε α).mapError f = .ok a := rfl

@[simp] theorem mapError_error (f : ε → ρ) (e : ε) :
    (.error e : Except ε α).mapError f = .error (f e) := rfl

theorem mapError_eq_ok_iff {f : ε → ρ} {ended : Except ε α} {a : α} :
    ended.mapError f = .ok a ↔ ended = .ok a := by
  cases ended <;> simp

theorem exists_of_map_eq_ok {β : Type} {f : α → β} {ended : Except ε α} {b : β}
    (h : ended.map f = .ok b) : ∃ a, ended = .ok a ∧ f a = b := by
  cases ended with
  | ok a => exact ⟨a, rfl, Except.ok.inj h⟩
  | error e => cases h

end Results

end PlatformFirmware
