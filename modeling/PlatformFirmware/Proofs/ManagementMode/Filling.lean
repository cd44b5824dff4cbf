import PlatformFirmware.ManagementMode.Executor
import PlatformFirmware.Proofs.Action
import PlatformFirmware.Proofs.LittleEndian

namespace PlatformFirmware.ManagementMode

theorem Header.ofBytes?_toBytes_append (header : Header) (rest : Bytes) :
    ofBytes? (header.toBytes ++ rest) = some header := by
  have hs := Bytes.split?_append header.recipient.length_bytes
    (Bytes.word64 header.messageLength ++ rest)
  rw [ofBytes?, toBytes, List.append_assoc, hs]
  simp [Efi.Guid.ofBytes?, header.recipient.length_bytes, Bytes.word64?_word64]

theorem Header.length_take_of_le {bytes : Bytes} (h : size ≤ bytes.length) :
    (bytes.take 16).length = 16 :=
  List.length_take_of_le (Nat.le_trans (by decide) h)

theorem Header.ofBytes?_of_le {bytes : Bytes} (h : size ≤ bytes.length) :
    ofBytes? bytes = some ⟨⟨bytes.take 16, length_take_of_le h⟩,
      UInt64.ofNat (Bytes.ofLittleEndian (Bytes.slice bytes 16 8))⟩ := by
  have h16 : 16 ≤ bytes.length := Nat.le_trans (by decide) h
  have h8 : 8 ≤ (bytes.drop 16).length := by
    rw [List.length_drop]
    exact Nat.le_sub_of_add_le h
  have hg : Efi.Guid.ofBytes? (bytes.take 16) = some ⟨bytes.take 16, length_take_of_le h⟩ :=
    dif_pos _
  simp only [ofBytes?, Bytes.split?, Bytes.word64?, if_pos h16, if_pos h8, Option.bind_eq_bind,
    Option.bind_some, hg, Option.map_some, Option.pure_def]
  rfl

theorem Header.ofBytes?_of_lt {bytes : Bytes} (h : bytes.length < size) : ofBytes? bytes = none := by
  have hs : size = 16 + 8 := rfl
  have hw : Bytes.word64? (bytes.drop 16) = none := by
    have h8 : ¬ 8 ≤ (bytes.drop 16).length := by
      rw [List.length_drop]
      omega
    rw [Bytes.word64?, Bytes.split?, if_neg h8, Option.map_none]
  by_cases h16 : 16 ≤ bytes.length
  · simp [ofBytes?, Bytes.split?, if_pos h16, hw]
  · simp only [ofBytes?, Bytes.split?, if_neg h16, Option.bind_eq_bind, Option.bind_none]

/-- The part of a message that its header describes: the length is one machine word. -/
def described (message : Bytes) : Bytes := message.take (message.length % 2 ^ 64)

theorem described_of_lt {message : Bytes} (h : message.length < 2 ^ 64) :
    described message = message := by
  rw [described, Nat.mod_eq_of_lt h, List.take_length]

namespace Buffer

theorem size_le_of_header {buffer : Buffer} {header : Header} (h : buffer.header = .ok header) :
    Header.size ≤ buffer.memory.length := by
  by_contra hn
  rw [Buffer.header, Header.ofBytes?_of_lt (Nat.not_le.1 hn)] at h
  cases h

def filled (recipient : Efi.Guid) (message : Bytes) (buffer : Buffer) : Buffer :=
  { buffer with
    memory := Header.toBytes ⟨recipient, UInt64.ofNat message.length⟩ ++
      (message ++ Bytes.zero (buffer.memory.length - Header.size - message.length))
    messageLength := message.length
    recipient := some recipient }

def addressed (recipient : Efi.Guid) (buffer : Buffer) : Buffer :=
  { buffer.reset with recipient := some recipient }

variable {recipient : Efi.Guid} {message : Bytes} {buffer : Buffer}

theorem length_memory_addressed :
    (buffer.addressed recipient).memory.length = buffer.memory.length :=
  length_memory_reset buffer

theorem length_memory_filled (h : Header.size + message.length ≤ buffer.memory.length) :
    (buffer.filled recipient message).memory.length = buffer.memory.length := by
  simp [filled]
  omega

theorem setRecipient_reset (h : Header.size ≤ buffer.memory.length) :
    buffer.reset.setRecipient recipient = .ok (buffer.addressed recipient) := by
  rw [setRecipient, length_memory_reset, if_neg (by omega)]
  rfl

theorem write_write_front (memory header message : Bytes)
    (h : header.length + message.length ≤ memory.length) :
    Bytes.write (Bytes.write memory 0 header) header.length message =
      header ++ (message ++ memory.drop (header.length + message.length)) := by
  have hw : Bytes.write memory 0 header = header ++ memory.drop header.length := by
    simp [Bytes.write, List.take_of_length_le (by omega : header.length ≤ memory.length)]
  have hm : message.take (memory.length - header.length) = message :=
    List.take_of_length_le (by omega)
  rw [hw, Bytes.write]
  simp [hm, List.drop_append]

def holding (recipient : Efi.Guid) (message : Bytes) (buffer : Buffer) : Buffer :=
  { buffer with
    memory := Header.toBytes ⟨recipient, UInt64.ofNat message.length⟩ ++
      (message ++ buffer.memory.drop (Header.size + message.length))
    messageLength := message.length
    recipient := some recipient }

theorem length_memory_holding (h : Header.size + message.length ≤ buffer.memory.length) :
    (buffer.holding recipient message).memory.length = buffer.memory.length := by
  simp [holding]
  omega

theorem setMessage_of_fits (hr : buffer.recipient = some recipient)
    (h : Header.size + message.length ≤ buffer.memory.length) :
    buffer.setMessage message = .ok (buffer.holding recipient message) := by
  have hw := write_write_front buffer.memory
    (Header.toBytes ⟨recipient, UInt64.ofNat message.length⟩) message (by simpa using h)
  rw [Header.length_toBytes] at hw
  rw [setMessage, capacity, if_neg (by omega), hr]
  simp only [hw]
  rfl

theorem header_holding :
    (buffer.holding recipient message).header = .ok ⟨recipient, UInt64.ofNat message.length⟩ := by
  rw [header, holding, Header.ofBytes?_toBytes_append]

theorem message_holding (h : Header.size + message.length ≤ buffer.memory.length) :
    (buffer.holding recipient message).message = .ok (described message) := by
  have hm : (UInt64.ofNat message.length).toNat = message.length % 2 ^ 64 := UInt64.toNat_ofNat
  have hle := Nat.mod_le message.length (2 ^ 64)
  have hc : ¬ (buffer.holding recipient message).capacity < message.length % 2 ^ 64 := by
    rw [capacity, length_memory_holding h]
    omega
  have hs : Bytes.slice (buffer.holding recipient message).memory Header.size
      (message.length % 2 ^ 64) = described message := by
    have hh : Header.size = (Header.toBytes ⟨recipient, UInt64.ofNat message.length⟩).length := by
      simp
    rw [Bytes.slice, holding, hh, List.drop_left, List.take_append_of_le_length hle, described]
  have hr : (buffer.holding recipient message).recipient.any (· ≠ recipient) = false := by
    simp [holding]
  rw [Buffer.message, header_holding]
  simp only [bind, Except.bind, hr, hm, hs, if_neg hc]
  rfl

theorem holding_addressed :
    (buffer.addressed recipient).holding recipient message = buffer.filled recipient message := by
  simp [holding, addressed, reset, filled, Bytes.zero, Nat.sub_sub]

theorem header_filled :
    (buffer.filled recipient message).header = .ok ⟨recipient, UInt64.ofNat message.length⟩ := by
  rw [← holding_addressed, header_holding]

section

variable (h : Header.size + message.length ≤ buffer.memory.length)

include h

theorem message_filled : (buffer.filled recipient message).message = .ok (described message) := by
  rw [← holding_addressed]
  exact message_holding (by rwa [length_memory_addressed])

theorem setMessage_addressed :
    (buffer.addressed recipient).setMessage message = .ok (buffer.filled recipient message) := by
  rw [setMessage_of_fits rfl (by rwa [length_memory_addressed]), holding_addressed]

end

theorem setMessage_addressed_of_lt (hh : Header.size ≤ buffer.memory.length)
    (h : buffer.memory.length < Header.size + message.length) :
    (buffer.addressed recipient).setMessage message = .error .tooSmallForMessage := by
  rw [setMessage, capacity, length_memory_addressed]
  exact if_pos (by omega)

end Buffer

variable {σ α : Type}

@[simp] theorem run_read (f : Buffer → Except BufferError α) (failure : Status) (s : Buffer × σ) :
    (BufferAction.read f failure).run s =
      match f s.1 with
      | .ok a => .ok a s
      | .error _ => .error failure s := by
  simp only [BufferAction.read, EStateM.run_bind]
  change (match f s.1 with | .ok a => pure a | .error _ => throw failure : BufferAction σ α).run s = _
  cases f s.1 <;> rfl

@[simp] theorem run_update (f : Buffer → Except BufferError Buffer) (failure : Status)
    (s : Buffer × σ) :
    (BufferAction.update f failure).run s =
      match f s.1 with
      | .ok buffer => .ok () (buffer, s.2)
      | .error _ => .error failure s := by
  rw [BufferAction.update, EStateM.run_bind, run_read]
  cases f s.1 <;> rfl

theorem run_fill (recipient : Efi.Guid) (message : Bytes) (failure : Status) (buffer : Buffer)
    (world : σ) (h : Header.size + message.length ≤ buffer.memory.length) :
    (BufferAction.fill recipient message failure).run (buffer, world) =
      .ok () (buffer.filled recipient message, world) := by
  have hr : (modify fun s => (s.1.reset, s.2) : BufferAction σ Unit).run (buffer, world) =
      .ok () (buffer.reset, world) := rfl
  have hh : Header.size ≤ buffer.memory.length := by omega
  rw [BufferAction.fill, EStateM.run_bind, hr]
  simp only [EStateM.run_bind, run_update, Buffer.setRecipient_reset hh, Buffer.setMessage_addressed h]

theorem run_fill_of_lt (recipient : Efi.Guid) (message : Bytes) (failure : Status) (buffer : Buffer)
    (world : σ) (hh : Header.size ≤ buffer.memory.length)
    (h : buffer.memory.length < Header.size + message.length) :
    (BufferAction.fill recipient message failure).run (buffer, world) =
      .error failure (buffer.addressed recipient, world) := by
  have hr : (modify fun s => (s.1.reset, s.2) : BufferAction σ Unit).run (buffer, world) =
      .ok () (buffer.reset, world) := rfl
  rw [BufferAction.fill, EStateM.run_bind, hr]
  simp only [EStateM.run_bind, run_update, Buffer.setRecipient_reset hh,
    Buffer.setMessage_addressed_of_lt hh h]

end PlatformFirmware.ManagementMode
