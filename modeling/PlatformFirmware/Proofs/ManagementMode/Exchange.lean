import PlatformFirmware.ManagementMode.Communicator
import PlatformFirmware.Proofs.ManagementMode.Filling

namespace PlatformFirmware.ManagementMode

variable {σ : Type}

def shape (buffers : List Buffer) : List (UInt8 × Nat) :=
  buffers.map fun buffer => (buffer.id, buffer.memory.length)

theorem shape_eq_nil {buffers : List Buffer} : shape buffers = [] ↔ buffers = [] :=
  List.map_eq_nil_iff

theorem find?_shape (buffers : List Buffer) (id : UInt8) :
    (shape buffers).find? (·.1 = id) =
      (buffers.find? (·.id = id)).map fun buffer => (buffer.id, buffer.memory.length) := by
  rw [shape, List.find?_map]
  rfl

theorem length_find? (buffers : List Buffer) (id : UInt8) :
    (buffers.find? (·.id = id)).map (·.memory.length) =
      ((shape buffers).find? (·.1 = id)).map (·.2) := by
  rw [find?_shape, Option.map_map]
  rfl

theorem shape_set {buffers : List Buffer} {position : Nat} {buffer other : Buffer}
    (h : buffers[position]? = some buffer) (hi : other.id = buffer.id)
    (hl : other.memory.length = buffer.memory.length) :
    shape (buffers.set position other) = shape buffers := by
  have hs : (shape buffers)[position]? = some (other.id, other.memory.length) := by
    rw [shape, List.getElem?_map, h, hi, hl]
    rfl
  obtain ⟨hp, he⟩ := List.getElem?_eq_some_iff.1 hs
  rw [shape, List.map_set]
  change (shape buffers).set position _ = _
  rw [← he, List.set_getElem_self]

theorem Buffer.filled_filled {recipient : Efi.Guid} {message : Bytes} {buffer : Buffer}
    (h : Header.size + message.length ≤ buffer.memory.length) (other : Efi.Guid) (later : Bytes) :
    (buffer.filled recipient message).filled other later = buffer.filled other later := by
  have hl : (buffer.filled recipient message).memory.length = buffer.memory.length :=
    length_memory_filled h
  rw [filled, hl]
  rfl

theorem Buffer.addressed_filled {recipient : Efi.Guid} {message : Bytes} {buffer : Buffer}
    (h : Header.size + message.length ≤ buffer.memory.length) (other : Efi.Guid) :
    (buffer.filled recipient message).addressed other = buffer.addressed other := by
  rw [addressed, reset, length_memory_filled h]
  rfl

theorem length_lt_of_shape {buffers others : List Buffer} (h : shape others = shape buffers)
    (hs : ∀ buffer ∈ buffers, buffer.memory.length < 2 ^ 64) :
    ∀ buffer ∈ others, buffer.memory.length < 2 ^ 64 := by
  have hb : ∀ size ∈ shape buffers, size.2 < 2 ^ 64 := List.forall_mem_map.2 hs
  rw [← h] at hb
  exact List.forall_mem_map.1 hb

theorem find?_set_position {buffers : List Buffer} {id : UInt8} {position : Nat} {other : Buffer}
    (h : buffers.findIdx? (·.id = id) = some position) (ho : other.id = id) :
    (buffers.set position other).find? (·.id = id) = some other := by
  obtain ⟨hp, -, hb⟩ := List.findIdx?_eq_some_iff_getElem.1 h
  refine List.find?_eq_some_iff_getElem.2 ⟨by simpa using ho, position, by simpa using hp,
    by simp, fun before hlt => ?_⟩
  rw [List.getElem_set_ne (by omega)]
  simpa using hb before hlt

def answer (size : Nat) (request : Bytes) : Option (Handler σ) → EStateM Status σ Bytes
  | none => throw .notSupported
  | some handler => do
    let response ← handler request
    if size < Header.size + response.length then
      throw .bufferTooSmall
    return response

theorem run_answer (size : Nat) (request : Bytes) (handler : Handler σ) (world : σ) :
    (answer size request (some handler)).run world =
      match (handler request).run world with
      | .ok response later =>
        if size < Header.size + response.length then .error .bufferTooSmall later
        else .ok response later
      | .error status later => .error status later := by
  rw [answer, EStateM.run_bind]
  cases (handler request).run world with
  | ok response later =>
    simp only
    split <;> rfl
  | error status later => rfl

theorem run_answer_of_fits {size : Nat} {request response : Bytes} {handler : Handler σ}
    {world later : σ} (ha : (handler request).run world = .ok response later)
    (hf : Header.size + response.length ≤ size) :
    (answer size request (some handler)).run world = .ok response later := by
  rw [run_answer, ha]
  exact if_neg (Nat.not_lt.2 hf)

theorem fits_of_run_answer {size : Nat} {request response : Bytes} {handler : Option (Handler σ)}
    {world later : σ} (h : (answer size request handler).run world = .ok response later) :
    Header.size + response.length ≤ size := by
  cases handler with
  | none => cases h
  | some handler =>
    rw [run_answer] at h
    split at h
    · split at h
      · cases h
      · next hf =>
        cases h
        exact Nat.not_lt.1 hf
    · cases h

section

variable {dispatcher : Dispatcher σ} {recipient : Efi.Guid} {buffer : Buffer}
  {request response : Bytes} {world later : σ}

theorem run_execute_filled (hr : Header.size + request.length ≤ buffer.memory.length) :
    dispatcher.execute.run (buffer.filled recipient request, world) =
      match dispatcher.handler? recipient with
      | none => .error .notSupported (buffer.filled recipient request, world)
      | some handler =>
        match (handler (described request)).run world with
        | .ok response later =>
          (BufferAction.fill recipient response .bufferTooSmall).run
            (buffer.filled recipient request, later)
        | .error status later => .error status (buffer.filled recipient request, later) := by
  rw [Dispatcher.execute]
  simp only [EStateM.run_bind, run_read, Buffer.header_filled, Buffer.message_filled hr,
    BufferAction.inSecureWorld]
  cases dispatcher.handler? recipient with
  | none => rfl
  | some handler =>
    simp only [EStateM.run_bind, run_focus]
    cases (handler (described request)).run world <;> rfl

/-- All that an exchange does with a request that fits. -/
theorem run_exchange_cases (hr : Header.size + request.length ≤ buffer.memory.length) :
    (Communicator.exchange dispatcher.execute request recipient).run (buffer, world) =
      match dispatcher.handler? recipient with
      | none => .error .notSupported (buffer.filled recipient request, world)
      | some handler =>
        match (handler (described request)).run world with
        | .ok response later =>
          if Header.size + response.length ≤ buffer.memory.length then
            .ok (described response) (buffer.filled recipient response, later)
          -- the request is gone from the buffer, and nothing has been put in
          else .error .bufferTooSmall (buffer.addressed recipient, later)
        | .error status later => .error status (buffer.filled recipient request, later) := by
  have hl : (buffer.filled recipient request).memory.length = buffer.memory.length :=
    Buffer.length_memory_filled hr
  rw [Communicator.exchange]
  simp only [EStateM.run_bind, run_fill _ _ _ _ _ hr, run_execute_filled hr]
  cases dispatcher.handler? recipient with
  | none => rfl
  | some handler =>
    cases ha : (handler (described request)).run world with
    | error status later => simp only [ha]
    | ok response later =>
      by_cases hf : Header.size + response.length ≤ buffer.memory.length
      · have hw := run_fill recipient response .bufferTooSmall (buffer.filled recipient request)
          later (by omega)
        simp only [ha, hw, Buffer.filled_filled hr, run_read, Buffer.message_filled hf, if_pos hf]
      · have hw := run_fill_of_lt recipient response .bufferTooSmall
          (buffer.filled recipient request) later (by omega) (by omega)
        simp only [ha, hw, Buffer.addressed_filled hr, if_neg hf]

theorem run_exchange (hr : Header.size + request.length ≤ buffer.memory.length)
    (hl : request.length < 2 ^ 64)
    (hs : ∀ response later,
      (answer buffer.memory.length request (dispatcher.handler? recipient)).run world =
        .ok response later → response.length < 2 ^ 64) :
    ∃ left : Buffer, left.id = buffer.id ∧ left.memory.length = buffer.memory.length ∧
      (Communicator.exchange dispatcher.execute request recipient).run (buffer, world) =
        (BufferAction.inSecureWorld
          (answer buffer.memory.length request (dispatcher.handler? recipient))).run (left, world) ∧
      ∀ response later,
        (answer buffer.memory.length request (dispatcher.handler? recipient)).run world =
          .ok response later → left = buffer.filled recipient response := by
  have hlen : (buffer.filled recipient request).memory.length = buffer.memory.length :=
    Buffer.length_memory_filled hr
  simp only [run_exchange_cases hr, described_of_lt hl, BufferAction.inSecureWorld, run_focus]
  cases hh : dispatcher.handler? recipient with
  | none =>
    refine ⟨buffer.filled recipient request, rfl, hlen, rfl, ?_⟩
    intro response' later' h
    cases h
  | some handler =>
    rw [run_answer]
    cases ha : (handler request).run world with
    | error status later =>
      refine ⟨buffer.filled recipient request, rfl, hlen, by simp only [ha], ?_⟩
      intro response' later' h
      cases h
    | ok response later =>
      by_cases hf : Header.size + response.length ≤ buffer.memory.length
      · have hd := described_of_lt (hs response later (hh ▸ run_answer_of_fits ha hf))
        refine ⟨buffer.filled recipient response, rfl, Buffer.length_memory_filled hf, ?_, ?_⟩
        · simp only [ha, hd, if_pos hf, if_neg (Nat.not_lt.2 hf)]
        · intro response' later' h
          simp only [if_neg (Nat.not_lt.2 hf)] at h
          cases h
          rfl
      · have hn := Nat.not_le.1 hf
        refine ⟨buffer.addressed recipient, rfl, Buffer.length_memory_addressed, ?_, ?_⟩
        · simp only [ha, if_neg hf, if_pos hn]
        · intro response' later' h
          simp only [if_pos hn] at h
          cases h

theorem run_exchange_of_answered {handler : Handler σ}
    (hh : dispatcher.handler? recipient = some handler)
    (hr : Header.size + request.length ≤ buffer.memory.length) (hl : request.length < 2 ^ 64)
    (ha : (handler request).run world = .ok response later)
    (hf : Header.size + response.length ≤ buffer.memory.length) (hs : response.length < 2 ^ 64) :
    (Communicator.exchange dispatcher.execute request recipient).run (buffer, world) =
      .ok response (buffer.filled recipient response, later) := by
  have hn : (answer buffer.memory.length request (dispatcher.handler? recipient)).run world =
      .ok response later := hh ▸ run_answer_of_fits ha hf
  obtain ⟨left, -, -, hx, ho⟩ := run_exchange hr hl fun response' later' h => by
    cases hn.symm.trans h
    exact hs
  rw [hx, BufferAction.inSecureWorld, run_focus, hn, ho response later hn]

end

namespace Communicator

theorem position_of_find? {buffers : List Buffer} {p : Buffer → Bool} {buffer : Buffer}
    (h : buffers.find? p = some buffer) :
    ∃ position, buffers.findIdx? p = some position ∧ buffers[position]? = some buffer := by
  rw [List.find?_eq_bind_findIdx?_getElem?] at h
  exact Option.bind_eq_some_iff.1 h

/-- A request that fits the first buffer with the id is exchanged through it. -/
theorem run_communicate_of_fits {execute : Executor σ} {id : UInt8} {data : Bytes}
    {recipient : Efi.Guid} {communicator : Communicator σ} {position : Nat} {buffer : Buffer}
    (hi : communicator.buffers.findIdx? (·.id = id) = some position)
    (hb : communicator.buffers[position]? = some buffer) (hd : data ≠ [])
    (hf : Header.size + data.length ≤ buffer.memory.length) :
    (communicate execute id data recipient).run communicator =
      (onBuffer position buffer (exchange execute data recipient)).run communicator := by
  have hn : communicator.buffers.isEmpty = false := by
    cases hc : communicator.buffers with
    | nil => simp [hc] at hb
    | cons _ _ => rfl
  have he : data.isEmpty = false := by
    cases data with
    | nil => exact absurd rfl hd
    | cons _ _ => rfl
  simp only [communicate, EStateM.run_bind, EStateM.run_get, hn, he, hi, hb, if_neg (Nat.not_lt.2 hf),
    Bool.false_eq_true, if_false]

/-- The failure of a request that is turned down before it is put into a buffer. -/
def refusal? (communicator : Communicator σ) (id : UInt8) (data : Bytes) : Option Status :=
  if communicator.buffers = [] then some .noBuffer
  else if data = [] then some .invalidData
  else
    match communicator.buffers.find? (·.id = id) with
    | none => some .bufferNotFound
    | some buffer =>
      if buffer.memory.length < Header.size + data.length then some .bufferTooSmall else none

section

variable {communicator : Communicator σ} {id : UInt8} {data : Bytes}

theorem run_communicate_of_refused {status : Status} (h : communicator.refusal? id data = some status)
    (execute : Executor σ) (recipient : Efi.Guid) :
    (communicate execute id data recipient).run communicator = .error status communicator := by
  by_cases hn : communicator.buffers = []
  · obtain rfl : .noBuffer = status := by simpa [refusal?, hn] using h
    simp [communicate, hn]
  by_cases he : data = []
  · obtain rfl : .invalidData = status := by simpa [refusal?, hn, he] using h
    simp [communicate, hn, he]
  cases hf : communicator.buffers.find? (·.id = id) with
  | none =>
    have hi : communicator.buffers.findIdx? (·.id = id) = none :=
      List.findIdx?_eq_none_iff.2 fun buffer hm => by simpa using List.find?_eq_none.1 hf buffer hm
    obtain rfl : .bufferNotFound = status := by simpa [refusal?, hn, he, hf] using h
    simp [communicate, hn, he, hi]
  | some buffer =>
    obtain ⟨position, hi, hb⟩ := position_of_find? hf
    obtain ⟨hl, rfl⟩ : buffer.memory.length < Header.size + data.length ∧
        .bufferTooSmall = status := by simpa [refusal?, hn, he, hf] using h
    simp [communicate, hn, he, hi, hb, hl]

theorem fits_of_refusal?_eq_none (h : communicator.refusal? id data = none) :
    ∃ position buffer, communicator.buffers.findIdx? (·.id = id) = some position ∧
      communicator.buffers[position]? = some buffer ∧ data ≠ [] ∧
      Header.size + data.length ≤ buffer.memory.length := by
  by_cases hn : communicator.buffers = []
  · simp [refusal?, hn] at h
  by_cases he : data = []
  · simp [refusal?, hn, he] at h
  cases hf : communicator.buffers.find? (·.id = id) with
  | none => simp [refusal?, hn, he, hf] at h
  | some buffer =>
    obtain ⟨position, hi, hb⟩ := position_of_find? hf
    have hl : Header.size + data.length ≤ buffer.memory.length := by
      simpa [refusal?, hn, he, hf] using h
    exact ⟨position, buffer, hi, hb, he, hl⟩

end

end Communicator

end PlatformFirmware.ManagementMode
