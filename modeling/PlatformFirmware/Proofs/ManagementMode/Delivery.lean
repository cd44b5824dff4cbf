import Mathlib.Data.List.Induction
import PlatformFirmware.Proofs.ManagementMode.Exchange

namespace PlatformFirmware.ManagementMode

variable {σ : Type}

def Dispatcher.ofList (registrations : List (Efi.Guid × Handler σ)) : Dispatcher σ :=
  registrations.foldl (fun dispatcher entry => dispatcher.register entry.1 entry.2) {}

def lastRegistered? (registrations : List (Efi.Guid × Handler σ)) (guid : Efi.Guid) :
    Option (Handler σ) :=
  (registrations.reverse.find? (·.1 = guid)).map (·.2)

/-- A communication with one handler or none, of which the buffers are given by their ids and
sizes only. -/
def deliver (sizes : List (UInt8 × Nat)) (handler : Option (Handler σ)) (id : UInt8)
    (data : Bytes) : EStateM Status σ Bytes :=
  if sizes = [] then throw .noBuffer
  else if data = [] then throw .invalidData
  else
    match sizes.find? (·.1 = id) with
    | none => throw .bufferNotFound
    | some (_, size) =>
      if size < Header.size + data.length then throw .bufferTooSmall
      else answer size data handler

section

variable {id : UInt8} {data : Bytes}

theorem deliver_of_fits {buffers : List Buffer} {buffer : Buffer} (handler : Option (Handler σ))
    (hd : data ≠ []) (hf : buffers.find? (·.id = id) = some buffer)
    (hr : Header.size + data.length ≤ buffer.memory.length) :
    deliver (shape buffers) handler id data = answer buffer.memory.length data handler := by
  have hb : shape buffers ≠ [] := by
    rintro hn
    rw [shape_eq_nil.1 hn] at hf
    cases hf
  simp only [deliver, if_neg hb, if_neg hd, find?_shape, hf, Option.map_some,
    if_neg (Nat.not_lt.2 hr)]

theorem deliver_of_refused {communicator : Communicator σ} {status : Status}
    (h : communicator.refusal? id data = some status) (handler : Option (Handler σ)) :
    deliver (shape communicator.buffers) handler id data = throw status := by
  by_cases hn : communicator.buffers = []
  · obtain rfl : .noBuffer = status := by simpa [Communicator.refusal?, hn] using h
    simp [deliver, shape_eq_nil, hn]
  by_cases he : data = []
  · obtain rfl : .invalidData = status := by simpa [Communicator.refusal?, hn, he] using h
    simp [deliver, shape_eq_nil, hn, he]
  cases hf : communicator.buffers.find? (·.id = id) with
  | none =>
    obtain rfl : .bufferNotFound = status := by
      simpa [Communicator.refusal?, hn, he, hf] using h
    simp [deliver, shape_eq_nil, hn, he, find?_shape, hf]
  | some buffer =>
    obtain ⟨hl, rfl⟩ : buffer.memory.length < Header.size + data.length ∧
        .bufferTooSmall = status := by simpa [Communicator.refusal?, hn, he, hf] using h
    simp [deliver, shape_eq_nil, hn, he, find?_shape, hf, hl]

end

namespace Dispatcher

theorem handler?_register (dispatcher : Dispatcher σ) (guid other : Efi.Guid) (handler : Handler σ) :
    (dispatcher.register guid handler).handler? other =
      if guid = other then some handler else dispatcher.handler? other := by
  rw [handler?, register, List.find?_append]
  split
  · next h =>
    subst h
    have hn : (dispatcher.handlers.filter (·.1 ≠ guid)).find? (·.1 = guid) = none := by
      simp [List.find?_eq_none]
    rw [hn]
    simp
  · next h =>
    have hf : (dispatcher.handlers.filter (·.1 ≠ guid)).find? (·.1 = other) =
        dispatcher.handlers.find? (·.1 = other) := by
      rw [List.find?_filter]
      congr 1
      funext entry
      by_cases he : entry.1 = other <;> simp [he, Ne.symm h]
    have hs : [(guid, handler)].find? (·.1 = other) = none := by simp [h]
    rw [hf, hs, Option.or_none, handler?]

theorem handler?_ofList (registrations : List (Efi.Guid × Handler σ)) (guid : Efi.Guid) :
    (ofList registrations).handler? guid = lastRegistered? registrations guid := by
  induction registrations using List.reverseRecOn with
  | nil => rfl
  | append_singleton registrations entry ih =>
    have hs : ofList (registrations ++ [entry]) =
        (ofList registrations).register entry.1 entry.2 := by
      rw [ofList, List.foldl_append]
      rfl
    rw [hs, handler?_register, ih, lastRegistered?, lastRegistered?, List.reverse_append,
      List.reverse_singleton, List.singleton_append, List.find?_cons]
    by_cases h : entry.1 = guid <;> simp [h]

end Dispatcher

namespace Communicator

def inSecureWorld {α : Type} (action : EStateM Status σ α) : EStateM Status (Communicator σ) α :=
  focus (·.secure) (fun secure communicator => { communicator with secure }) action

structure Ended (id : UInt8) (recipient : Efi.Guid) (communicator : Communicator σ)
    (action : EStateM Status σ Bytes) (ended : EStateM.Result Status (Communicator σ) Bytes)
    (buffers : List Buffer) : Prop where
  result : ended = (inSecureWorld action).run { communicator with buffers }
  shape : shape buffers = shape communicator.buffers
  response : ∀ response later, action.run communicator.secure = .ok response later →
    ∃ position buffer, communicator.buffers.findIdx? (·.id = id) = some position ∧
      communicator.buffers.find? (·.id = id) = some buffer ∧
      buffers = communicator.buffers.set position (buffer.filled recipient response)

theorem Ended.of_throw (id : UInt8) (recipient : Efi.Guid) (communicator : Communicator σ)
    (status : Status) :
    Ended id recipient communicator (throw status) (.error status communicator)
      communicator.buffers where
  result := rfl
  shape := rfl
  response := by
    intro response later h
    cases h

theorem run_communicate (dispatcher : Dispatcher σ) (id : UInt8) (data : Bytes)
    (recipient : Efi.Guid) {communicator : Communicator σ}
    (hs : ∀ buffer ∈ communicator.buffers, buffer.memory.length < 2 ^ 64) :
    ∃ buffers, Ended id recipient communicator
      (deliver (shape communicator.buffers) (dispatcher.handler? recipient) id data)
      ((communicate dispatcher.execute id data recipient).run communicator) buffers := by
  cases hr : communicator.refusal? id data with
  | some status =>
    rw [run_communicate_of_refused hr, deliver_of_refused hr]
    exact ⟨_, .of_throw id recipient communicator status⟩
  | none =>
    obtain ⟨position, buffer, hi, hb, hd, hr⟩ := fits_of_refusal?_eq_none hr
    have hf : communicator.buffers.find? (·.id = id) = some buffer := by
      rw [List.find?_eq_bind_findIdx?_getElem?, hi]
      exact hb
    have hsize := hs buffer (List.mem_of_getElem? hb)
    obtain ⟨left, hid, hlen, hx, ho⟩ := run_exchange hr (by omega) fun response later h => by
      have hf := fits_of_run_answer h
      omega
    rw [deliver_of_fits _ hd hf hr]
    refine ⟨communicator.buffers.set position left, ?_, shape_set hb hid hlen, ?_⟩
    · rw [run_communicate_of_fits hi hb hd hr, onBuffer, run_focus, hx, inSecureWorld,
        BufferAction.inSecureWorld, run_focus, run_focus]
      cases (answer buffer.memory.length data (dispatcher.handler? recipient)).run
        communicator.secure <;> rfl
    · intro response later h
      exact ⟨position, buffer, hi, hf, ho response later h ▸ rfl⟩

section

variable {id : UInt8} {recipient : Efi.Guid} {communicator : Communicator σ}
  {action : EStateM Status σ Bytes} {ended : EStateM.Result Status (Communicator σ) Bytes}
  {buffers : List Buffer}

theorem Ended.outcome_eq (h : Ended id recipient communicator action ended buffers) :
    outcome ended = outcome (action.run communicator.secure) := by
  rw [h.result]
  exact outcome_run_focus _ _ action _

theorem Ended.final_eq (h : Ended id recipient communicator action ended buffers) :
    final ended = ⟨buffers, final (action.run communicator.secure)⟩ := by
  rw [h.result]
  exact final_run_focus _ _ action _

end

def communicateAll (execute : Executor σ) :
    List (UInt8 × Bytes × Efi.Guid) → Communicator σ →
      List (Except Status Bytes) × Communicator σ
  | [], communicator => ([], communicator)
  | (id, data, recipient) :: requests, communicator =>
    let result := (communicate execute id data recipient).run communicator
    let (later, last) := communicateAll execute requests (final result)
    (outcome result :: later, last)

end Communicator

def deliverAll (sizes : List (UInt8 × Nat)) (handler? : Efi.Guid → Option (Handler σ)) :
    List (UInt8 × Bytes × Efi.Guid) → σ → List (Except Status Bytes) × σ
  | [], world => ([], world)
  | (id, data, recipient) :: requests, world =>
    let result := (deliver sizes (handler? recipient) id data).run world
    let (later, last) := deliverAll sizes handler? requests (final result)
    (outcome result :: later, last)

namespace Communicator

/-- In a conversation no communication depends on what the earlier ones left in the buffers. -/
theorem communicateAll_eq_deliverAll (dispatcher : Dispatcher σ)
    (requests : List (UInt8 × Bytes × Efi.Guid)) (communicator : Communicator σ)
    (hs : ∀ buffer ∈ communicator.buffers, buffer.memory.length < 2 ^ 64) :
    (communicateAll dispatcher.execute requests communicator).1 =
        (deliverAll (shape communicator.buffers) dispatcher.handler? requests
          communicator.secure).1 ∧
      (communicateAll dispatcher.execute requests communicator).2.secure =
        (deliverAll (shape communicator.buffers) dispatcher.handler? requests
          communicator.secure).2 := by
  induction requests generalizing communicator with
  | nil => exact ⟨rfl, rfl⟩
  | cons request requests ih =>
    obtain ⟨id, data, recipient⟩ := request
    obtain ⟨buffers, h⟩ := run_communicate dispatcher id data recipient hs
    have hl := ih (final ((communicate dispatcher.execute id data recipient).run communicator))
    rw [h.final_eq] at hl
    obtain ⟨ho, hw⟩ := hl (length_lt_of_shape h.shape hs)
    simp only [h.shape] at ho hw
    simp only [communicateAll, deliverAll, h.outcome_eq, h.final_eq, ho, hw, and_self]

end Communicator

/-- A communication over the handlers of a list ends as the ids and the sizes of the buffers, the
request and the handler registered last for its recipient say. A response stands alone in its
buffer, with nothing of the request behind it. The sizes are machine words. -/
theorem communicate_delivers (registrations : List (Efi.Guid × Handler σ)) (id : UInt8)
    (data : Bytes) (recipient : Efi.Guid) (communicator : Communicator σ)
    (hs : ∀ buffer ∈ communicator.buffers, buffer.memory.length < 2 ^ 64) :
    let executor := (Dispatcher.ofList registrations).execute
    let ended := (Communicator.communicate executor id data recipient).run communicator
    let delivered := (deliver (shape communicator.buffers)
      (lastRegistered? registrations recipient) id data).run communicator.secure
    outcome ended = outcome delivered ∧
      (final ended).secure = final delivered ∧
      shape (final ended).buffers = shape communicator.buffers ∧
      (∀ other : Communicator σ, shape other.buffers = shape communicator.buffers →
        other.secure = communicator.secure →
        outcome ((Communicator.communicate executor id data recipient).run other) =
          outcome ended) ∧
      ∀ response, outcome ended = .ok response →
        ∃ buffer left, communicator.buffers.find? (·.id = id) = some buffer ∧
          (final ended).buffers.find? (·.id = id) = some left ∧
          left.memory = Header.toBytes ⟨recipient, UInt64.ofNat response.length⟩ ++ response ++
            Bytes.zero (buffer.memory.length - Header.size - response.length) := by
  intro executor ended delivered
  have hx (other : Communicator σ)
      (ho : ∀ buffer ∈ other.buffers, buffer.memory.length < 2 ^ 64) :=
    Communicator.run_communicate (Dispatcher.ofList registrations) id data recipient ho
  simp only [Dispatcher.handler?_ofList] at hx
  obtain ⟨buffers, h⟩ := hx communicator hs
  refine ⟨h.outcome_eq, congrArg Communicator.secure h.final_eq, ?_, ?_, ?_⟩
  · exact (congrArg (shape ·.buffers) h.final_eq).trans h.shape
  · intro other hb hw
    obtain ⟨_, h'⟩ := hx other (length_lt_of_shape hb hs)
    rw [h'.outcome_eq, hb, hw]
    exact h.outcome_eq.symm
  · intro response hr
    obtain ⟨later, hd⟩ := exists_of_outcome_eq_ok (h.outcome_eq.symm.trans hr)
    obtain ⟨position, buffer, hi, hf, hl⟩ := h.response response later hd
    have hid : buffer.id = id := by simpa using List.find?_some hf
    refine ⟨buffer, buffer.filled recipient response, hf, ?_, (List.append_assoc ..).symm⟩
    rw [h.final_eq, hl]
    exact find?_set_position hi hid

def twinCommunicator : Communicator Unit where
  buffers := [{ id := 1, address := 0x80000000, memory := [] },
    { id := 5, address := 0x80001000, memory := List.replicate 30 0xA5, messageLength := 6 },
    { id := 5, address := 0x80002000, memory := List.replicate 25 0x5A }]
  secure := ()

def someGuid : Efi.Guid := ⟨List.replicate 16 7, by decide⟩

def replacedEcho : List (Efi.Guid × Handler Unit) :=
  [(someGuid, Handler.echo), (⟨List.replicate 16 8, by decide⟩, Handler.const []),
    (someGuid, Handler.reverse)]

theorem communicate_delivers_reversed :
    (∀ buffer ∈ twinCommunicator.buffers, buffer.memory.length < 2 ^ 64) ∧
      outcome ((Communicator.communicate (Dispatcher.ofList replacedEcho).execute 5 [1, 2, 3]
        someGuid).run twinCommunicator) = .ok [3, 2, 1] ∧
      ∃ left, (final ((Communicator.communicate (Dispatcher.ofList replacedEcho).execute 5 [1, 2, 3]
          someGuid).run twinCommunicator)).buffers.find? (·.id = 5) = some left ∧
        left.memory = List.replicate 16 7 ++ [3, 0, 0, 0, 0, 0, 0, 0] ++ [3, 2, 1] ++ [0, 0, 0] := by
  have hs : ∀ buffer ∈ twinCommunicator.buffers, buffer.memory.length < 2 ^ 64 := by decide
  obtain ⟨ho, -, -, -, hr⟩ :=
    communicate_delivers replacedEcho 5 [1, 2, 3] someGuid twinCommunicator hs
  have hd : outcome ((deliver (shape twinCommunicator.buffers)
      (lastRegistered? replacedEcho someGuid) 5 [1, 2, 3]).run ()) = .ok [3, 2, 1] := rfl
  have ho := ho.trans hd
  obtain ⟨buffer, left, hb, hl, hm⟩ := hr [3, 2, 1] ho
  cases hb
  exact ⟨hs, ho, left, hl, hm.trans (by decide)⟩

end PlatformFirmware.ManagementMode
