import PlatformFirmware.ManagementMode.Executor

namespace PlatformFirmware.ManagementMode

structure Communicator (σ : Type) where
  buffers : List Buffer
  secure : σ

namespace Communicator

variable {σ α : Type}

instance [SecureMonitor σ] : SecureMonitor (Communicator σ) where
  call request communicator :=
    let (answer, secure) := SecureMonitor.call request communicator.secure
    (answer, { communicator with secure })

def onBuffer (position : Nat) (buffer : Buffer) (action : BufferAction σ α) :
    EStateM Status (Communicator σ) α :=
  focus (fun communicator => (buffer, communicator.secure))
    (fun s communicator => ⟨communicator.buffers.set position s.1, s.2⟩) action

def exchange (execute : Executor σ) (data : Bytes) (recipient : Efi.Guid) :
    BufferAction σ Bytes := do
  BufferAction.fill recipient data .bufferInit
  execute
  BufferAction.read Buffer.message .invalidResponse

/-- Uses the first buffer with the id. Nothing is changed before the request is known to fit. -/
def communicate (execute : Executor σ) (id : UInt8) (data : Bytes) (recipient : Efi.Guid) :
    EStateM Status (Communicator σ) Bytes := do
  let communicator ← get
  if communicator.buffers.isEmpty then
    throw .noBuffer
  if data.isEmpty then
    throw .invalidData
  match communicator.buffers.findIdx? (·.id = id) with
  | none => throw .bufferNotFound
  | some position =>
    match communicator.buffers[position]? with
    | none => throw .bufferNotFound
    | some buffer =>
      if buffer.memory.length < Header.size + data.length then
        throw .bufferTooSmall
      onBuffer position buffer (exchange execute data recipient)

end Communicator

end PlatformFirmware.ManagementMode
