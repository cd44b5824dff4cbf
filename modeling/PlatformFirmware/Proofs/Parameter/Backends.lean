import PlatformFirmware.Parameter.Service
import PlatformFirmware.Proofs.ManagementMode.Exchange
import PlatformFirmware.Proofs.Parameter.Wire

namespace PlatformFirmware.Parameter

open ManagementMode

/-- The backend leads to the owner: the call has the owner's function, or a dispatcher with the
owner's handler looks at a buffer with room for a request. -/
def Backend.Healthy (dispatcher : Dispatcher Owner) (communicator : Communicator Owner) :
    Backend → Prop
  | secureCall function => communicator.secure.function = function
  | communicate bufferId =>
    dispatcher.handler? handlerGuid = some Owner.handler ∧
      ∃ buffer, communicator.buffers.find? (·.id = bufferId) = some buffer ∧
        44 ≤ buffer.memory.length

structure Restored (communicator after : Communicator Owner) (store : Store) : Prop where
  secure : after.secure = { communicator.secure with store }
  buffers : shape after.buffers = shape communicator.buffers

variable {dispatcher : Dispatcher Owner} {communicator after last : Communicator Owner}
  {store : Store}

theorem Restored.trans {store' : Store} (h : Restored communicator after store)
    (h' : Restored after last store') : Restored communicator last store' := by
  refine ⟨?_, h'.buffers.trans h.buffers⟩
  rw [h'.secure, h.secure]

theorem Restored.healthy {backend : Backend} (h : Restored communicator after store)
    (hb : backend.Healthy dispatcher communicator) : backend.Healthy dispatcher after := by
  cases backend with
  | secureCall function =>
    rw [Backend.Healthy, h.secure]
    exact hb
  | communicate bufferId =>
    obtain ⟨hh, buffer, hf, hl⟩ := hb
    have hs := length_find? communicator.buffers bufferId
    rw [← h.buffers, ← length_find?, hf] at hs
    obtain ⟨other, ho, he⟩ := Option.map_eq_some_iff.1 hs.symm
    exact ⟨hh, other, ho, he ▸ hl⟩

theorem Owner.call_eq (owner : Owner) (request : Request) :
    SecureMonitor.call (request.call owner.function) owner =
      ((owner.store.apply request).1.answer,
        { owner with store := (owner.store.apply request).2 }) := by
  have hf : (request.call owner.function).function = owner.function := rfl
  simp [SecureMonitor.call, hf, Request.ofCall_call, Owner.serve]

theorem Owner.run_handler_eq (owner : Owner) (data : Bytes) :
    (Owner.handler data).run owner =
      .ok (owner.serve (Request.ofBytes data)).1.toBytes
        (owner.serve (Request.ofBytes data)).2 := rfl

theorem Owner.run_handler (owner : Owner) (request : Request) :
    (Owner.handler request.toBytes).run owner =
      .ok (owner.store.apply request).1.toBytes
        { owner with store := (owner.store.apply request).2 } := by
  rw [run_handler_eq, Request.ofBytes_toBytes]
  rfl

theorem run_secureCall {function : UInt32} (h : communicator.secure.function = function)
    (request : Request) :
    ∃ after, (Transport.secureCall function request).run communicator =
        .ok (communicator.secure.store.apply request).1 after ∧
      Restored communicator after (communicator.secure.store.apply request).2 := by
  subst h
  have hc := communicator.secure.call_eq request
  refine ⟨{ communicator with secure := (SecureMonitor.call
    (request.call communicator.secure.function) communicator.secure).2 }, ?_, ?_, rfl⟩
  · have hi : ((request.call communicator.secure.function).issue :
        Firmware (Communicator Owner) SecureCall.Answer).run communicator =
        .ok (SecureMonitor.call (request.call communicator.secure.function) communicator.secure).1
          { communicator with secure := (SecureMonitor.call
            (request.call communicator.secure.function) communicator.secure).2 } := rfl
    rw [Transport.secureCall, EStateM.run_bind, hi, hc]
    simp only [EStateM.run_bind, Response.check_answer, run_ofExcept, EStateM.run_pure,
      Response.ofAnswer_answer]
  · rw [hc]

theorem run_communicate {bufferId : UInt8}
    (h : (Backend.communicate bufferId).Healthy dispatcher communicator) (request : Request) :
    ∃ after, (Transport.communicate dispatcher.execute bufferId request).run communicator =
        .ok (communicator.secure.store.apply request).1 after ∧
      Restored communicator after (communicator.secure.store.apply request).2 := by
  obtain ⟨hh, buffer, hf, hl⟩ := h
  obtain ⟨position, hi, hb⟩ := Communicator.position_of_find? hf
  have hq : Header.size + request.toBytes.length ≤ buffer.memory.length := by simp [Header.size, hl]
  have hd : request.toBytes ≠ [] := fun hn => by simpa [hn] using request.length_toBytes
  -- a response is shorter than any request
  have hp : Header.size + (communicator.secure.store.apply request).1.toBytes.length ≤
      buffer.memory.length := by simp [Header.size]; omega
  have hx := run_exchange_of_answered hh hq (by simp) (communicator.secure.run_handler request) hp
    (by simp)
  have hc : (Communicator.communicate dispatcher.execute bufferId request.toBytes handlerGuid).run
      communicator = _ := Communicator.run_communicate_of_fits hi hb hd hq
  rw [Communicator.onBuffer, run_focus, hx] at hc
  refine ⟨⟨communicator.buffers.set position
    (buffer.filled handlerGuid (communicator.secure.store.apply request).1.toBytes),
    { communicator.secure with store := (communicator.secure.store.apply request).2 }⟩, ?_, rfl, ?_⟩
  · rw [EStateM.run] at hc ⊢
    rw [Transport.communicate, hc]
    simp only [Response.ofBytes_toBytes]
  · exact shape_set hb rfl (Buffer.length_memory_filled hp)

end PlatformFirmware.Parameter
