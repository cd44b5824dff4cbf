import PlatformFirmware.Proofs.ManagementMode.Exchange

namespace PlatformFirmware.ManagementMode

variable {σ : Type}

structure Observed (σ : Type) where
  world : σ
  invoked : List Efi.Guid := []

def Handler.observed (guid : Efi.Guid) (handler : Handler σ) : Handler (Observed σ) :=
  fun request => do
    modify fun s => { s with invoked := s.invoked ++ [guid] }
    focus Observed.world (fun world s => { s with world }) (handler request)

theorem Handler.run_observed (guid : Efi.Guid) (handler : Handler σ) (request : Bytes)
    (s : Observed σ) :
    (handler.observed guid request).run s =
      match (handler request).run s.world with
      | .ok response world => .ok response ⟨world, s.invoked ++ [guid]⟩
      | .error status world => .error status ⟨world, s.invoked ++ [guid]⟩ := by
  simp only [observed, EStateM.run_bind, EStateM.run_modify, run_focus]
  cases (handler request).run s.world <;> rfl

def Dispatcher.observed (dispatcher : Dispatcher σ) : Dispatcher (Observed σ) :=
  ⟨dispatcher.handlers.map fun entry => (entry.1, Handler.observed entry.1 entry.2)⟩

theorem Dispatcher.handler?_observed (dispatcher : Dispatcher σ) (guid : Efi.Guid) :
    dispatcher.observed.handler? guid = (dispatcher.handler? guid).map (Handler.observed guid) := by
  have hf : dispatcher.observed.handlers.find? (·.1 = guid) =
      (dispatcher.handlers.find? (·.1 = guid)).map fun entry =>
        (entry.1, Handler.observed entry.1 entry.2) := List.find?_map ..
  rw [handler?, handler?, hf]
  cases h : dispatcher.handlers.find? (·.1 = guid) with
  | none => rfl
  | some entry =>
    obtain rfl : entry.1 = guid := by simpa using List.find?_some h
    rfl

namespace Communicator

section

variable {dispatcher : Dispatcher σ} {communicator : Communicator σ} {id : UInt8} {data : Bytes}
  {recipient : Efi.Guid} {position : Nat} {buffer : Buffer}

/-- All that a communication does with a request that fits. -/
theorem run_communicate_cases (hi : communicator.buffers.findIdx? (·.id = id) = some position)
    (hb : communicator.buffers[position]? = some buffer) (hd : data ≠ [])
    (hr : Header.size + data.length ≤ buffer.memory.length) :
    (communicate dispatcher.execute id data recipient).run communicator =
      match dispatcher.handler? recipient with
      | none => .error .notSupported
        ⟨communicator.buffers.set position (buffer.filled recipient data), communicator.secure⟩
      | some handler =>
        match (handler (described data)).run communicator.secure with
        | .ok response later =>
          if Header.size + response.length ≤ buffer.memory.length then
            .ok (described response)
              ⟨communicator.buffers.set position (buffer.filled recipient response), later⟩
          else .error .bufferTooSmall
            ⟨communicator.buffers.set position (buffer.addressed recipient), later⟩
        | .error status later => .error status
          ⟨communicator.buffers.set position (buffer.filled recipient data), later⟩ := by
  rw [run_communicate_of_fits hi hb hd hr, onBuffer, run_focus, run_exchange_cases hr]
  cases dispatcher.handler? recipient with
  | none => rfl
  | some handler =>
    cases ha : (handler (described data)).run communicator.secure with
    | error status later => simp only [ha]
    | ok response later =>
      by_cases hf : Header.size + response.length ≤ buffer.memory.length
      · simp only [ha, if_pos hf]
      · simp only [ha, if_neg hf]

end

def observed (communicator : Communicator σ) : Communicator (Observed σ) :=
  ⟨communicator.buffers, ⟨communicator.secure, []⟩⟩

def plain (communicator : Communicator (Observed σ)) : Communicator σ :=
  ⟨communicator.buffers, communicator.secure.world⟩

structure Reached (dispatcher : Dispatcher σ) (id : UInt8) (data : Bytes) (recipient : Efi.Guid)
    (communicator : Communicator σ) (ended : EStateM.Result Status (Communicator σ) Bytes)
    (observed : EStateM.Result Status (Communicator (Observed σ)) Bytes) : Prop where
  outcome_eq : outcome observed = outcome ended
  plain_eq : (final observed).plain = final ended
  buffers_eq : ∃ position left, communicator.buffers.findIdx? (·.id = id) = some position ∧
    (final ended).buffers = communicator.buffers.set position left
  shape_eq : shape (final ended).buffers = shape communicator.buffers
  invoked_eq : (final observed).secure.invoked =
    if (dispatcher.handler? recipient).isSome then [recipient] else []
  /-- Other than for want of a handler or of room, only the handler makes it fail. -/
  status (status : Status) (h : outcome ended = .error status) :
    status = .notSupported ∨ status = .bufferTooSmall ∨
      ∃ handler, dispatcher.handler? recipient = some handler ∧
        outcome ((handler (described data)).run communicator.secure) = .error status

theorem reached_of_refusal?_eq_none {communicator : Communicator σ} {id : UInt8} {data : Bytes}
    (h : communicator.refusal? id data = none) (dispatcher : Dispatcher σ) (recipient : Efi.Guid) :
    Reached dispatcher id data recipient communicator
      ((communicate dispatcher.execute id data recipient).run communicator)
      ((communicate dispatcher.observed.execute id data recipient).run communicator.observed) := by
  obtain ⟨position, buffer, hi, hb, hd, hr⟩ := fits_of_refusal?_eq_none h
  have ho : (communicate dispatcher.observed.execute id data recipient).run communicator.observed =
      _ := run_communicate_cases hi hb hd hr
  have hs : shape (communicator.buffers.set position (buffer.filled recipient data)) =
      shape communicator.buffers := shape_set hb rfl (Buffer.length_memory_filled hr)
  rw [run_communicate_cases hi hb hd hr, ho, Dispatcher.handler?_observed]
  cases hh : dispatcher.handler? recipient with
  | none =>
    refine ⟨rfl, rfl, ⟨position, _, hi, rfl⟩, hs, by rw [hh]; rfl, fun status he => ?_⟩
    exact .inl (Except.error.inj he).symm
  | some handler =>
    simp only [Option.map_some, Handler.run_observed]
    have hw : communicator.observed.secure.world = communicator.secure := rfl
    rw [hw]
    cases ha : (handler (described data)).run communicator.secure with
    | error status later =>
      refine ⟨rfl, rfl, ⟨position, _, hi, rfl⟩, hs, by rw [hh]; rfl, fun status he => ?_⟩
      exact .inr (.inr ⟨handler, hh, by rw [ha]; exact he⟩)
    | ok response later =>
      by_cases hf : Header.size + response.length ≤ buffer.memory.length
      · simp only [if_pos hf]
        refine ⟨rfl, rfl, ⟨position, _, hi, rfl⟩, shape_set hb rfl (Buffer.length_memory_filled hf),
          by rw [hh]; rfl, nofun⟩
      · simp only [if_neg hf]
        refine ⟨rfl, rfl, ⟨position, _, hi, rfl⟩, shape_set hb rfl Buffer.length_memory_addressed,
          by rw [hh]; rfl, fun status he => ?_⟩
        exact .inr (.inl (Except.error.inj he).symm)

end Communicator

/-- Whatever the ids and the sizes of the buffers are, and whatever the handlers do. The failures
of a request that is turned down are also those that a handler may return. -/
theorem communicate_touches_one_buffer (dispatcher : Dispatcher σ) (id : UInt8) (data : Bytes)
    (recipient : Efi.Guid) (communicator : Communicator σ) :
    let ended := (Communicator.communicate dispatcher.execute id data recipient).run communicator
    let observed := (Communicator.communicate dispatcher.observed.execute id data recipient).run
      communicator.observed
    (outcome observed = outcome ended ∧ (final observed).plain = final ended) ∧
    shape (final ended).buffers = shape communicator.buffers ∧
    (∀ position, communicator.buffers.findIdx? (·.id = id) ≠ some position →
      (final ended).buffers[position]? = communicator.buffers[position]?) ∧
    (∀ status, communicator.refusal? id data = some status →
      ended = .error status communicator ∧ (final observed).secure.invoked = []) ∧
    (∀ status ∈ [Status.noBuffer, .invalidData, .bufferNotFound], outcome ended = .error status →
      communicator.refusal? id data = some status ∨
        ∃ handler, dispatcher.handler? recipient = some handler ∧
          outcome ((handler (described data)).run communicator.secure) = .error status) ∧
    (final observed).secure.invoked =
      if communicator.refusal? id data = none ∧ (dispatcher.handler? recipient).isSome then
        [recipient]
      else [] := by
  intro ended observed
  cases hr : communicator.refusal? id data with
  | some status =>
    have he : ended = .error status communicator :=
      Communicator.run_communicate_of_refused hr dispatcher.execute recipient
    have hr' : communicator.observed.refusal? id data = some status := hr
    have ho : observed = .error status communicator.observed :=
      Communicator.run_communicate_of_refused hr' dispatcher.observed.execute recipient
    rw [he, ho]
    refine ⟨⟨rfl, rfl⟩, rfl, fun _ _ => rfl, fun other hs => ?_, fun other _ hs => ?_, rfl⟩
    · cases hs
      exact ⟨rfl, rfl⟩
    · cases hs
      exact .inl rfl
  | none =>
    have h : Communicator.Reached dispatcher id data recipient communicator ended observed :=
      Communicator.reached_of_refusal?_eq_none hr dispatcher recipient
    obtain ⟨position, left, hi, hb⟩ := h.buffers_eq
    refine ⟨⟨h.outcome_eq, h.plain_eq⟩, h.shape_eq, fun other hn => ?_, nofun,
      fun status hm hs => ?_, ?_⟩
    · rw [hb, List.getElem?_set_ne]
      rintro rfl
      exact hn hi
    · obtain rfl | rfl | hh := h.status status hs
      · exact absurd hm (by decide)
      · exact absurd hm (by decide)
      · exact .inr hh
    · rw [h.invoked_eq]
      simp

def someRecipient : Efi.Guid := ⟨List.replicate 16 3, by decide⟩

def oneBuffer : Communicator Unit where
  buffers := [{ id := 0, address := 0x80000000, memory := Bytes.zero 32 }]
  secure := ()

/-- A handler that returns one of these failures itself, after the buffer was changed. -/
theorem invalidData_of_handler :
    let dispatcher : Dispatcher Unit :=
      Dispatcher.register someRecipient (Handler.fail .invalidData) {}
    let ended := (Communicator.communicate dispatcher.execute 0 [1] someRecipient).run oneBuffer
    let observed := (Communicator.communicate dispatcher.observed.execute 0 [1] someRecipient).run
      oneBuffer.observed
    outcome ended = .error .invalidData ∧ (final ended).buffers ≠ oneBuffer.buffers ∧
      (final observed).secure.invoked = [someRecipient] := by
  decide

end PlatformFirmware.ManagementMode
