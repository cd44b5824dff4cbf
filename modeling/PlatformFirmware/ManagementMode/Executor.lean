import PlatformFirmware.Efi.Firmware
import PlatformFirmware.Hardware.SecureCall
import PlatformFirmware.ManagementMode.Buffer

namespace PlatformFirmware.ManagementMode

abbrev BufferAction (σ : Type) : Type → Type := EStateM Status (Buffer × σ)

abbrev Executor (σ : Type) := BufferAction σ Unit

abbrev Handler (σ : Type) := Bytes → EStateM Status σ Bytes

variable {σ ρ α : Type}

namespace BufferAction

def inSecureWorld (action : EStateM Status σ α) : BufferAction σ α :=
  focus (·.2) (fun world s => (s.1, world)) action

def read (f : Buffer → Except BufferError α) (failure : Status) : BufferAction σ α := do
  match f (← get).1 with
  | .ok a => return a
  | .error _ => throw failure

def update (f : Buffer → Except BufferError Buffer) (failure : Status) : BufferAction σ Unit := do
  let buffer ← read f failure
  modify fun s => (buffer, s.2)

def fill (recipient : Efi.Guid) (message : Bytes) (failure : Status) : BufferAction σ Unit := do
  modify fun s => (s.1.reset, s.2)
  update (·.setRecipient recipient) .bufferInit
  update (·.setMessage message) failure

end BufferAction

def Executor.within (get : ρ → σ) (set : σ → ρ → ρ) (execute : Executor σ) : Executor ρ :=
  focus (fun s => (s.1, get s.2)) (fun t s => (t.1, set t.2 s.2)) execute

def checkCall (status : Int) : Except Status Unit :=
  match status with
  | 0 => .ok ()
  | -1 => .error .notSupported
  | -2 => .error .invalidParameter
  | -3 => .error .denied
  | -5 => .error .noMemory
  | _ => .error .executionFailed

def communicateFunction : UInt32 := 0xC4000041

/-- X1 and X3 are cookies that must be zero, X2 is the address of the buffer. -/
def callExecutor [SecureMonitor σ] (function : UInt32) : BufferAction σ Unit := do
  let (buffer, _) ← get
  let answer ← BufferAction.inSecureWorld (SecureCall.ofList function [0, buffer.address]).issue
  MonadExcept.ofExcept (checkCall answer.status)

structure Dispatcher (σ : Type) where
  handlers : List (Efi.Guid × Handler σ) := []

namespace Dispatcher

/-- Takes the place of an earlier handler for the GUID. -/
def register (guid : Efi.Guid) (handler : Handler σ) (dispatcher : Dispatcher σ) : Dispatcher σ :=
  ⟨dispatcher.handlers.filter (·.1 ≠ guid) ++ [(guid, handler)]⟩

def handler? (dispatcher : Dispatcher σ) (guid : Efi.Guid) : Option (Handler σ) :=
  (dispatcher.handlers.find? (·.1 = guid)).map (·.2)

def execute (dispatcher : Dispatcher σ) : BufferAction σ Unit := do
  let header ← BufferAction.read Buffer.header .invalidData
  let request ← BufferAction.read Buffer.message .invalidData
  match dispatcher.handler? header.recipient with
  | none => throw .notSupported
  | some handler =>
    let response ← BufferAction.inSecureWorld (handler request)
    BufferAction.fill header.recipient response .bufferTooSmall

end Dispatcher

namespace Handler

def echo : Handler σ := fun request => return request

def reverse : Handler σ := fun request => return request.reverse

def const (response : Bytes) : Handler σ := fun _ => return response

def fail (status : Status) : Handler σ := fun _ => throw status

end Handler

end PlatformFirmware.ManagementMode
