import PlatformFirmware.Efi.Error

namespace PlatformFirmware

abbrev Firmware (σ : Type) : Type → Type := EStateM Efi.Error σ

variable {ρ σ ε α : Type}

def focus (get : ρ → σ) (set : σ → ρ → ρ) (action : EStateM ε σ α) : EStateM ε ρ α := fun s =>
  match action (get s) with
  | .ok a t => .ok a (set t s)
  | .error e t => .error e (set t s)

end PlatformFirmware
