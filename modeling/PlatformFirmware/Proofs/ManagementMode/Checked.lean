import PlatformFirmware.Proofs.ManagementMode.Exchange

namespace PlatformFirmware.ManagementMode

variable {σ α : Type}

def sum? (a b : Nat) : Option Nat :=
  if a + b < 2 ^ 64 then some (a + b) else none

def range? (memory : Bytes) (start stop : Nat) : Option Bytes :=
  if start ≤ stop ∧ stop ≤ memory.length then some (Bytes.slice memory start (stop - start))
  else none

def copy? (memory : Bytes) (start stop : Nat) (data : Bytes) : Option Bytes :=
  if start ≤ stop ∧ stop ≤ memory.length ∧ stop - start = data.length then
    some (Bytes.write memory start data)
  else none

theorem sum?_of_lt {a b : Nat} (h : a + b < 2 ^ 64) : sum? a b = some (a + b) := if_pos h

theorem range?_of_le {memory : Bytes} {start length : Nat} (h : start + length ≤ memory.length) :
    range? memory start (start + length) = some (Bytes.slice memory start length) := by
  rw [range?, if_pos ⟨Nat.le_add_right _ _, h⟩, Nat.add_sub_cancel_left]

theorem copy?_of_le {memory data : Bytes} {start : Nat}
    (h : start + data.length ≤ memory.length) :
    copy? memory start (start + data.length) data = some (Bytes.write memory start data) :=
  if_pos ⟨Nat.le_add_right _ _, h, Nat.add_sub_cancel_left _ _⟩

theorem copy?_toBytes {memory : Bytes} (header : Header) (h : Header.size ≤ memory.length) :
    copy? memory 0 Header.size header.toBytes = some (Bytes.write memory 0 header.toBytes) := by
  have hz : 0 + header.toBytes.length ≤ memory.length := by simpa using h
  have hc := copy?_of_le hz
  rwa [Nat.zero_add, header.length_toBytes] at hc

namespace Buffer

def header? (buffer : Buffer) : Option (Except BufferError Header) :=
  if buffer.memory.length < Header.size then some (.error .tooSmallForHeader)
  else do
    let guid ← range? buffer.memory 0 16
    let recipient ← Efi.Guid.ofBytes? guid
    let word ← range? buffer.memory 16 Header.size
    return .ok ⟨recipient, UInt64.ofNat (Bytes.ofLittleEndian word)⟩

def message? (buffer : Buffer) : Option (Except BufferError Bytes) := do
  match ← buffer.header? with
  | .error e => return .error e
  | .ok header =>
    let length := header.messageLength.toNat
    if buffer.recipient.any (· ≠ header.recipient) then return .error .invalidRecipient
    else if buffer.capacity < length then return .error .tooSmallForMessage
    else
      let stop ← sum? Header.size length
      let message ← range? buffer.memory Header.size stop
      return .ok message

def setMessage? (message : Bytes) (buffer : Buffer) : Option (Except BufferError Buffer) :=
  if buffer.capacity < message.length then some (.error .tooSmallForMessage)
  else
    match buffer.recipient with
    | none => some (.error .invalidRecipient)
    | some recipient => do
      let header : Header := ⟨recipient, UInt64.ofNat message.length⟩
      let written ← copy? buffer.memory 0 Header.size header.toBytes
      let stop ← sum? Header.size message.length
      let memory ← copy? written Header.size stop message
      return .ok { buffer with messageLength := message.length, memory }

theorem header?_eq (buffer : Buffer) : buffer.header? = some buffer.header := by
  rw [header?, header]
  split
  · next h => rw [Header.ofBytes?_of_lt h]
  · next h =>
    have h := Nat.not_lt.1 h
    have hg : range? buffer.memory 0 16 = some (buffer.memory.take 16) := by
      have h16 : 0 + 16 ≤ buffer.memory.length := Nat.le_trans (by decide) h
      exact range?_of_le h16
    have hw : range? buffer.memory 16 (16 + 8) = some (Bytes.slice buffer.memory 16 8) :=
      range?_of_le h
    have hs : Header.size = 16 + 8 := rfl
    have hr : Efi.Guid.ofBytes? (buffer.memory.take 16) = some ⟨_, Header.length_take_of_le h⟩ :=
      dif_pos _
    simp only [hs, hg, hw, hr, Option.bind_eq_bind, Option.bind_some, Header.ofBytes?_of_le h]
    rfl

theorem message?_eq {buffer : Buffer} (h : buffer.memory.length < 2 ^ 64) :
    buffer.message? = some buffer.message := by
  rw [message?, header?_eq, message]
  cases hh : buffer.header with
  | error e => rfl
  | ok header =>
    have hl := size_le_of_header hh
    simp only [Option.bind_some, bind, Except.bind]
    split
    · rfl
    · split
      · rfl
      · next hc =>
        -- the length is in bounds by now, so the sum is one of the indices of the memory
        rw [capacity] at hc
        have hf : Header.size + header.messageLength.toNat ≤ buffer.memory.length := by omega
        rw [sum?_of_lt (by omega), Option.bind_some, range?_of_le hf]
        rfl

theorem setMessage?_eq (message : Bytes) {buffer : Buffer} (h : buffer.memory.length < 2 ^ 64)
    (hr : buffer.recipient.isSome → Header.size ≤ buffer.memory.length) :
    buffer.setMessage? message = some (buffer.setMessage message) := by
  rw [setMessage?, setMessage]
  split
  · rfl
  · next hc =>
    cases hb : buffer.recipient with
    | none => rfl
    | some recipient =>
      have hl : Header.size ≤ buffer.memory.length := hr (hb ▸ rfl)
      rw [capacity] at hc
      have hm {memory : Bytes} (hs : memory.length = buffer.memory.length) :
          copy? memory Header.size (Header.size + message.length) message =
            some (Bytes.write memory Header.size message) := copy?_of_le (by omega)
      have hs : sum? Header.size message.length = some (Header.size + message.length) :=
        sum?_of_lt (by omega)
      simp only [copy?_toBytes _ hl, hs, hm (Bytes.length_write ..), Option.bind_eq_bind,
        Option.bind_some]
      rfl

end Buffer

/-- Works on a buffer and on the secure world, and ends with a status or, for a fault, with none. -/
abbrev CheckedAction (σ : Type) : Type → Type := EStateM (Option Status) (Buffer × σ)

namespace CheckedAction

def read (access : Buffer → Option (Except BufferError α)) (failure : Status) :
    CheckedAction σ α := do
  match access (← get).1 with
  | some (.ok a) => return a
  | some (.error _) => throw (some failure)
  | none => throw none

def update (access : Buffer → Option (Except BufferError Buffer)) (failure : Status) :
    CheckedAction σ Unit := do
  let buffer ← read access failure
  modify fun s => (buffer, s.2)

theorem run_read (access : Buffer → Option (Except BufferError α)) (failure : Status)
    (s : Buffer × σ) :
    (read access failure).run s =
      match access s.1 with
      | some (.ok a) => .ok a s
      | some (.error _) => .error (some failure) s
      | none => .error none s := by
  simp only [read, EStateM.run_bind]
  change (match access s.1 with
    | some (.ok a) => pure a
    | some (.error _) => throw (some failure)
    | none => throw none : CheckedAction σ α).run s = _
  rcases access s.1 with _ | _ | _ <;> rfl

theorem run_update (access : Buffer → Option (Except BufferError Buffer)) (failure : Status)
    (s : Buffer × σ) :
    (update access failure).run s =
      match access s.1 with
      | some (.ok buffer) => .ok () (buffer, s.2)
      | some (.error _) => .error (some failure) s
      | none => .error none s := by
  rw [update, EStateM.run_bind, run_read]
  rcases access s.1 with _ | _ | _ <;> rfl

end CheckedAction

namespace Communicator

def exchange? (execute : Executor σ) (data : Bytes) (recipient : Efi.Guid) :
    CheckedAction σ Bytes := do
  modify fun s => (s.1.reset, s.2)
  CheckedAction.update (fun buffer => some (buffer.setRecipient recipient)) .bufferInit
  CheckedAction.update (·.setMessage? data) .bufferInit
  EStateM.adaptExcept some execute
  CheckedAction.read Buffer.message? .invalidResponse

def communicate? (execute : Executor σ) (id : UInt8) (data : Bytes) (recipient : Efi.Guid) :
    EStateM (Option Status) (Communicator σ) Bytes := do
  let communicator ← get
  if communicator.buffers.isEmpty then
    throw (some .noBuffer)
  if data.isEmpty then
    throw (some .invalidData)
  match communicator.buffers.findIdx? (·.id = id) with
  | none => throw (some .bufferNotFound)
  | some position =>
    match communicator.buffers[position]? with
    | none => throw (some .bufferNotFound)
    | some buffer =>
      match sum? Header.size data.length with
      | none => throw none
      | some required =>
        if buffer.memory.length < required then
          throw (some .bufferTooSmall)
        focus (fun communicator => (buffer, communicator.secure))
          (fun s communicator => ⟨communicator.buffers.set position s.1, s.2⟩)
          (exchange? execute data recipient)

theorem run_exchange? {execute : Executor σ} {data : Bytes} {recipient : Efi.Guid}
    {buffer : Buffer} {world : σ} (hf : Header.size + data.length ≤ buffer.memory.length)
    (hs : buffer.memory.length < 2 ^ 64)
    (hx : ∀ left later, execute.run (buffer.filled recipient data, world) = .ok () (left, later) →
      left.memory.length < 2 ^ 64) :
    (exchange? execute data recipient).run (buffer, world) =
      (EStateM.adaptExcept some (exchange execute data recipient)).run (buffer, world) := by
  have hb : (modify fun s => (s.1.reset, s.2) : CheckedAction σ Unit).run (buffer, world) =
      .ok () (buffer.reset, world) := rfl
  have hh : Header.size ≤ buffer.memory.length := by omega
  have hm : (buffer.addressed recipient).setMessage? data =
      some (.ok (buffer.filled recipient data)) := by
    have hl : (buffer.addressed recipient).memory.length = buffer.memory.length :=
      Buffer.length_memory_addressed
    rw [Buffer.setMessage?_eq _ (hl ▸ hs) fun _ => hl ▸ hh, Buffer.setMessage_addressed hf]
  rw [EStateM.run_adaptExcept, exchange, exchange?]
  simp only [EStateM.run_bind, hb, CheckedAction.run_update, Buffer.setRecipient_reset hh, hm,
    run_fill _ _ _ _ _ hf, EStateM.run_adaptExcept]
  cases he : execute.run (buffer.filled recipient data, world) with
  | error status s => rfl
  | ok _ s =>
    simp only [CheckedAction.run_read, ManagementMode.run_read, Buffer.message?_eq (hx s.1 s.2 he)]
    cases s.1.message <;> rfl

/-- No index leaves the memory of a buffer and no sum is too large. -/
theorem run_communicate? {execute : Executor σ} {id : UInt8} {data : Bytes} {recipient : Efi.Guid}
    {communicator : Communicator σ}
    (hs : ∀ buffer ∈ communicator.buffers, buffer.memory.length < 2 ^ 64)
    (hd : Header.size + data.length < 2 ^ 64)
    (hx : ∀ buffer left later, communicator.buffers.find? (·.id = id) = some buffer →
      execute.run (buffer.filled recipient data, communicator.secure) = .ok () (left, later) →
        left.memory.length < 2 ^ 64) :
    (communicate? execute id data recipient).run communicator =
      (EStateM.adaptExcept some (communicate execute id data recipient)).run communicator := by
  rw [EStateM.run_adaptExcept, communicate, communicate?]
  simp only [EStateM.run_bind, EStateM.run_get, sum?_of_lt hd]
  by_cases hn : communicator.buffers.isEmpty
  · simp [hn]
  by_cases he : data.isEmpty
  · simp [hn, he]
  cases hi : communicator.buffers.findIdx? (·.id = id) with
  | none => simp [hn, he]
  | some position =>
    cases hb : communicator.buffers[position]? with
    | none => simp [hn, he, hb]
    | some buffer =>
      by_cases hf : buffer.memory.length < Header.size + data.length
      · simp [hn, he, hb, hf]
      · have hfind : communicator.buffers.find? (·.id = id) = some buffer := by
          rw [List.find?_eq_bind_findIdx?_getElem?, hi]
          exact hb
        have hx := run_exchange? (Nat.not_lt.1 hf) (hs buffer (List.mem_of_getElem? hb))
          fun left later => hx buffer left later hfind
        simp only [hn, he, hb, hf, Bool.false_eq_true, if_false, onBuffer, run_focus, hx,
          EStateM.run_adaptExcept]
        cases (exchange execute data recipient).run (buffer, communicator.secure) <;> rfl

end Communicator

end PlatformFirmware.ManagementMode
