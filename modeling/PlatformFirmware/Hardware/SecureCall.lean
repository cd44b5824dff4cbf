import PlatformFirmware.Efi.Firmware

namespace PlatformFirmware

structure SecureCall where
  function : UInt32
  registers : Vector UInt64 7 := Vector.replicate 7 0
  deriving DecidableEq, Repr

namespace SecureCall

def ofList (function : UInt32) (words : List UInt64) : SecureCall :=
  ⟨function, Vector.ofFn fun i => words.getD i 0⟩

/-- Sets X`index`. X0 holds the function and is left alone. -/
def set (call : SecureCall) (index : Nat) (value : UInt64) : SecureCall :=
  if index = 0 then call
  else { call with registers := call.registers.setIfInBounds (index - 1) value }

def argument (call : SecureCall) (index : Nat) : UInt64 :=
  if index = 0 then 0 else call.registers.toList.getD (index - 1) 0

theorem argument_ofList (function : UInt32) (words : List UInt64) {index : Nat} (h0 : 0 < index)
    (h : index < 8) : (ofList function words).argument index = words.getD (index - 1) 0 := by
  have hn : index ≠ 0 := by omega
  have hi : index - 1 < 7 := by omega
  simp [argument, ofList, hn, hi]

structure Answer where
  x0 : UInt64 := 0
  x1 : UInt64 := 0
  x2 : UInt64 := 0
  x3 : UInt64 := 0
  deriving DecidableEq, Repr

namespace Answer

def ofStatus (status : Int) : Answer := { x0 := UInt64.ofInt status }

def status (answer : Answer) : Int := answer.x0.toInt64.toInt

def toList (answer : Answer) : List UInt64 := [answer.x0, answer.x1, answer.x2, answer.x3]

def check (answer : Answer) : Except Efi.Error Unit :=
  match answer.status with
  | 0 => .ok ()
  | -1 => .error .unsupported
  | -3 => .error .invalidParameter
  | _ => .error .deviceError

theorem check_eq_ok_iff (answer : Answer) : answer.check = .ok () ↔ answer.status = 0 := by
  rw [check]
  split <;> simp_all

end Answer

end SecureCall

/-- The secure world behind the conduit. It may answer a call in any way. -/
class SecureMonitor (σ : Type) where
  call : SecureCall → σ → SecureCall.Answer × σ

def SecureCall.issue {σ ε : Type} [SecureMonitor σ] (call : SecureCall) :
    EStateM ε σ SecureCall.Answer :=
  modifyGet (SecureMonitor.call call)

structure HostMonitor where

instance : SecureMonitor HostMonitor where
  call _ host := (.ofStatus (-1), host)

end PlatformFirmware
