import PlatformFirmware.Proofs.ManagementMode.Delivery
import PlatformFirmware.Proofs.Parameter.Backends
import PlatformFirmware.Simulation.SecureWorld

namespace PlatformFirmware.ManagementMode

variable {σ τ : Type}

def HasRoom (buffers : List Buffer) (id : UInt8) (length : Nat) : Prop :=
  ∃ buffer, buffers.find? (·.id = id) = some buffer ∧ Header.size + length ≤ buffer.memory.length

theorem deliver_of_no_room {buffers : List Buffer} {id : UInt8} {data : Bytes}
    (handler : Option (Handler σ)) (h : ¬ (data ≠ [] ∧ HasRoom buffers id data.length)) :
    ∃ status, deliver (shape buffers) handler id data = throw status := by
  rw [deliver]
  split
  · exact ⟨_, rfl⟩
  split
  · exact ⟨_, rfl⟩
  next hd =>
  rw [find?_shape]
  cases hf : buffers.find? (·.id = id) with
  | none => exact ⟨_, rfl⟩
  | some buffer =>
    have hr : buffer.memory.length < Header.size + data.length :=
      Nat.not_le.1 fun hr => h ⟨hd, buffer, hf, hr⟩
    exact ⟨.bufferTooSmall, if_pos hr⟩

def Handler.Keeps (part : σ → τ) (handler : Handler σ) : Prop :=
  ∀ data world, part (final ((handler data).run world)) = part world

theorem Handler.Keeps.answer {part : σ → τ} {handler : Handler σ} (h : handler.Keeps part)
    (size : Nat) (data : Bytes) (world : σ) :
    part (final ((answer size data (some handler)).run world)) = part world := by
  have hk := h data world
  rw [run_answer]
  cases ha : (handler data).run world with
  | error status later => rwa [ha] at hk
  | ok response later =>
    rw [ha] at hk
    simp only
    split <;> exact hk

end PlatformFirmware.ManagementMode

namespace PlatformFirmware.Parameter

open ManagementMode

variable {σ : Type}

/-- Where the owner is in a secure world. -/
structure Place (σ : Type) where
  get : σ → Owner
  set : Owner → σ → σ
  get_set : ∀ owner world, get (set owner world) = owner

def Place.handler (place : Place σ) : Handler σ := fun data =>
  focus place.get place.set (Owner.handler data)

theorem Owner.serve_of_wellFormed {data : Bytes} (h : Request.WellFormed data) (owner : Owner) :
    ∃ request, Request.toBytes request = data.take 20 ∧
      owner.serve (Request.ofBytes data) = ((owner.store.apply request).1,
        { owner with store := (owner.store.apply request).2 }) := by
  obtain ⟨request, hr⟩ := Request.exists_toBytes_iff.2 h
  refine ⟨request, hr, ?_⟩
  rw [Request.ofBytes_eq_ok_iff.2 hr]
  rfl

theorem Owner.serve_of_malformed {data : Bytes} (h : ¬ Request.WellFormed data) (owner : Owner) :
    owner.serve (Request.ofBytes data) = (⟨.invalid, 0⟩, owner) := by
  rw [Request.ofBytes_of_malformed h]
  rfl

namespace Place

variable (place : Place σ) (data : Bytes) (world : σ)

theorem run_handler :
    (place.handler data).run world =
      .ok ((place.get world).serve (Request.ofBytes data)).1.toBytes
        (place.set ((place.get world).serve (Request.ofBytes data)).2 world) := by
  rw [handler, run_focus, Owner.run_handler_eq]

theorem run_answer (size : Nat) :
    (answer size data (some place.handler)).run world =
      if size < Header.size + 8 then
        .error .bufferTooSmall (place.set ((place.get world).serve (Request.ofBytes data)).2 world)
      else
        .ok ((place.get world).serve (Request.ofBytes data)).1.toBytes
          (place.set ((place.get world).serve (Request.ofBytes data)).2 world) := by
  rw [ManagementMode.run_answer, run_handler]
  simp only [Response.length_toBytes]

/-- A buffer with room for the request but not for the response has no room for a request that
could change the store. -/
theorem get_final_answer_of_lt {size : Nat} (hd : Header.size + data.length ≤ size)
    (hr : size < Header.size + 8) :
    place.get (final ((answer size data (some place.handler)).run world)) = place.get world := by
  have hm : ¬ Request.WellFormed data := fun h => by
    have hl := h.1
    omega
  rw [run_answer, if_pos hr, final_error, place.get_set, Owner.serve_of_malformed hm]

section

variable {buffers : List Buffer} {id : UInt8} {data world}

theorem run_deliver (hd : data ≠ []) (hr : HasRoom buffers id (max data.length 8)) :
    (deliver (shape buffers) (some place.handler) id data).run world =
      .ok ((place.get world).serve (Request.ofBytes data)).1.toBytes
        (place.set ((place.get world).serve (Request.ofBytes data)).2 world) := by
  obtain ⟨buffer, hf, hl⟩ := hr
  rw [deliver_of_fits _ hd hf (by omega), run_answer, if_neg (by omega)]

theorem room_of_deliver {reply : Bytes}
    (h : outcome ((deliver (shape buffers) (some place.handler) id data).run world) = .ok reply) :
    data ≠ [] ∧ HasRoom buffers id (max data.length 8) := by
  by_cases hd : data ≠ [] ∧ HasRoom buffers id data.length
  · obtain ⟨hd, buffer, hf, hl⟩ := hd
    refine ⟨hd, buffer, hf, ?_⟩
    rw [deliver_of_fits _ hd hf hl, run_answer] at h
    split at h
    · cases h
    · omega
  · obtain ⟨status, ht⟩ := deliver_of_no_room (some place.handler) hd
    rw [ht] at h
    cases h

theorem get_final_deliver_of_error {handler : Option (Handler σ)} {status : ManagementMode.Status}
    (hh : ∀ other, handler = some other → other = place.handler ∨ other.Keeps place.get)
    (h : outcome ((deliver (shape buffers) handler id data).run world) = .error status) :
    place.get (final ((deliver (shape buffers) handler id data).run world)) = place.get world := by
  by_cases hd : data ≠ [] ∧ HasRoom buffers id data.length
  · obtain ⟨hd, buffer, hf, hl⟩ := hd
    rw [deliver_of_fits handler hd hf hl] at h ⊢
    cases handler with
    | none => rfl
    | some other =>
      rcases hh other rfl with rfl | hk
      · by_cases hr : buffer.memory.length < Header.size + 8
        · exact place.get_final_answer_of_lt data world hl hr
        · rw [run_answer, if_neg hr] at h
          cases h
      · exact hk.answer _ _ _
  · obtain ⟨other, ht⟩ := deliver_of_no_room handler hd
    rw [ht]
    rfl

end

end Place

/-- A communication that fails leaves the owner as it was, whatever the buffers, the data and the
recipient are. One that the owner answers has eight bytes for an answer: to a request what the store
gave it, and to anything else that it is invalid, with the owner as it was. It is answered if the
first buffer with the id has room for the data and for an answer. The sizes are machine words. -/
theorem communicate_atomic (place : Place σ) (dispatcher : Dispatcher σ) (id : UInt8) (data : Bytes)
    (recipient : Efi.Guid) (communicator : Communicator σ)
    (hs : ∀ buffer ∈ communicator.buffers, buffer.memory.length < 2 ^ 64)
    (hh : ∀ handler, dispatcher.handler? recipient = some handler →
      handler = place.handler ∨ handler.Keeps place.get) :
    let ended := (Communicator.communicate dispatcher.execute id data recipient).run communicator
    let before := place.get communicator.secure
    let after := place.get (final ended).secure
    (∀ status, outcome ended = .error status → after = before) ∧
      (dispatcher.handler? recipient = some place.handler →
        ((∃ reply, outcome ended = .ok reply) ↔
          data ≠ [] ∧ HasRoom communicator.buffers id (max data.length 8)) ∧
        ∀ reply, outcome ended = .ok reply → reply.length = 8 ∧
          (Request.WellFormed data → ∃ request, Request.toBytes request = data.take 20 ∧
            Response.ofBytes reply = .ok (before.store.apply request).1 ∧
            after = { before with store := (before.store.apply request).2 }) ∧
          (¬ Request.WellFormed data →
            Response.ofBytes reply = .ok ⟨.invalid, 0⟩ ∧ after = before)) := by
  intro ended before after
  obtain ⟨buffers, h⟩ := Communicator.run_communicate dispatcher id data recipient hs
  have ha : after = place.get (final _) := congrArg (place.get ·.secure) h.final_eq
  rw [h.outcome_eq, ha]
  refine ⟨fun status hf => place.get_final_deliver_of_error hh hf, ?_⟩
  intro hp
  rw [hp]
  refine ⟨⟨fun ⟨reply, hr⟩ => place.room_of_deliver hr, ?_⟩, ?_⟩
  · rintro ⟨hd, hr⟩
    exact ⟨_, congrArg outcome (place.run_deliver hd hr)⟩
  · intro reply hr
    obtain ⟨hd, hl⟩ := place.room_of_deliver hr
    rw [place.run_deliver hd hl] at hr ⊢
    cases hr
    rw [final_ok, place.get_set]
    refine ⟨Response.length_toBytes _, ?_, ?_⟩
    · intro hw
      obtain ⟨request, hq, hv⟩ := Owner.serve_of_wellFormed hw before
      exact ⟨request, hq, by rw [hv, Response.ofBytes_toBytes], by rw [hv]⟩
    · intro hm
      rw [Owner.serve_of_malformed hm, Response.ofBytes_toBytes]
      exact ⟨rfl, rfl⟩

end PlatformFirmware.Parameter

namespace PlatformFirmware.Simulation

open ManagementMode Parameter

def SecureWorld.place : Place SecureWorld where
  get := SecureWorld.owner
  set owner world := { world with owner }
  get_set _ _ := rfl

def echoAndOwner : Dispatcher SecureWorld :=
  .ofList [(someGuid, Handler.echo), (handlerGuid, SecureWorld.parameterHandler)]

def narrowCommunicator : Communicator SecureWorld where
  buffers := [{ id := 1, address := 0x80000000, memory := List.replicate 30 0xA5 },
    { id := 2, address := 0x80001000, memory := List.replicate 44 0x5A }]
  secure := { owner := { store := (Store.apply (.set 8 ⟨1⟩ ⟨1⟩ 7) {}).2 } }

theorem communicate_atomic_narrow :
    (∀ buffer ∈ narrowCommunicator.buffers, buffer.memory.length < 2 ^ 64) ∧
      (∀ handler, echoAndOwner.handler? handlerGuid = some handler →
        handler = SecureWorld.place.handler ∨ handler.Keeps SecureWorld.place.get) ∧
      (final ((Communicator.communicate echoAndOwner.execute 1 [4, 0, 0, 0] handlerGuid).run
        narrowCommunicator)).secure.owner = narrowCommunicator.secure.owner ∧
      (final ((Communicator.communicate echoAndOwner.execute 2 Request.clearAll.toBytes
        handlerGuid).run narrowCommunicator)).secure.owner.store = {} := by
  have hs : ∀ buffer ∈ narrowCommunicator.buffers, buffer.memory.length < 2 ^ 64 := by decide
  have hp : echoAndOwner.handler? handlerGuid = some SecureWorld.place.handler := rfl
  have hh : ∀ handler, echoAndOwner.handler? handlerGuid = some handler →
      handler = SecureWorld.place.handler ∨ handler.Keeps SecureWorld.place.get := by
    intro handler h
    exact .inl (Option.some.inj (h.symm.trans hp))
  refine ⟨hs, hh, ?_, ?_⟩
  · obtain ⟨he, hr⟩ := communicate_atomic SecureWorld.place echoAndOwner 1 [4, 0, 0, 0] handlerGuid
      narrowCommunicator hs hh
    cases ho : outcome ((Communicator.communicate echoAndOwner.execute 1 [4, 0, 0, 0]
      handlerGuid).run narrowCommunicator) with
    | error status => exact he status ho
    | ok reply =>
      obtain ⟨-, buffer, hf, hl⟩ := (hr hp).1.1 ⟨reply, ho⟩
      cases hf
      exact absurd hl (by decide)
  · obtain ⟨-, hr⟩ := communicate_atomic SecureWorld.place echoAndOwner 2 Request.clearAll.toBytes
      handlerGuid narrowCommunicator hs hh
    obtain ⟨reply, ho⟩ := (hr hp).1.2 ⟨by decide, _, rfl, by decide⟩
    obtain ⟨-, hw, -⟩ := (hr hp).2 reply ho
    obtain ⟨request, hq, -, ha⟩ := hw (by decide)
    have hc := (Request.ofBytes_eq_ok_iff.2 hq).symm.trans (Request.ofBytes_toBytes .clearAll)
    obtain rfl := Except.ok.inj hc
    exact congrArg Owner.store ha

end PlatformFirmware.Simulation
