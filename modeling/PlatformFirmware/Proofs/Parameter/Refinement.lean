import PlatformFirmware.Proofs.Parameter.Backends

namespace PlatformFirmware.Parameter

open ManagementMode

inductive ServiceCall
  | get (id : UInt32) (readAcl : Acl)
  | set (id : UInt32) (readAcl writeAcl : Acl) (value : UInt32)
  | clear (id : UInt32) (writeAcl : Acl)
  | clearAll
  deriving DecidableEq, Repr

namespace ServiceCall

def perform {σ : Type} (transport : Transport σ) : ServiceCall → Firmware σ (Option UInt32)
  | get id readAcl => some <$> transport.get id readAcl
  | set id readAcl writeAcl value => do
    transport.set id readAcl writeAcl value
    return none
  | clear id writeAcl => do
    transport.clear id writeAcl
    return none
  | clearAll => do
    transport.clearAll
    return none

def checked : ServiceCall → Except Efi.Error Unit
  | get id caller => (checkId id).bind fun _ => checkCaller caller
  | set id _ caller _ => (checkId id).bind fun _ => checkCaller caller
  | clear id caller => (checkId id).bind fun _ => checkCaller caller
  | clearAll => .ok ()

def request : ServiceCall → Request
  | get id readAcl => .get id readAcl
  | set id readAcl writeAcl value => .set id readAcl writeAcl value
  | clear id writeAcl => .clear id writeAcl
  | clearAll => .clearAll

def value? (call : ServiceCall) (value : UInt32) : Option UInt32 :=
  match call with
  | get _ _ => some value
  | _ => none

def answer (call : ServiceCall) (store : Store) : Except Efi.Error (Option UInt32) × Store :=
  match call.checked with
  | .error e => (.error e, store)
  | .ok () => ((store.apply call.request).1.result.map call.value?, (store.apply call.request).2)

theorem check_eq {σ : Type} (id : UInt32) (caller : Acl) :
    (Transport.check id caller : Firmware σ Unit) =
      MonadExcept.ofExcept ((checkId id).bind fun _ => checkCaller caller) := by
  rw [Transport.check]
  cases checkId id with
  | error e => rfl
  | ok band => cases checkCaller caller <;> rfl

theorem perform_eq {σ : Type} (transport : Transport σ) (call : ServiceCall) :
    call.perform transport = do
      MonadExcept.ofExcept call.checked
      let value ← transport.request call.request
      return call.value? value := by
  have hd (action : Firmware σ UInt32) (next : Firmware σ (Option UInt32)) :
      (discard action >>= fun _ => next) = action >>= fun _ => next := by
    simp [discard, map_const]
  cases call with
  | get id readAcl =>
    simp only [perform, Transport.get, check_eq, map_eq_pure_bind, bind_assoc]
    rfl
  | set id readAcl writeAcl value =>
    simp only [perform, Transport.set, check_eq, bind_assoc, hd]
    rfl
  | clear id writeAcl =>
    simp only [perform, Transport.clear, check_eq, bind_assoc, hd]
    rfl
  | clearAll =>
    simp only [perform, Transport.clearAll, hd]
    rfl

theorem run_perform {σ : Type} (transport : Transport σ) (call : ServiceCall) (s : σ) :
    (call.perform transport).run s =
      match call.checked with
      | .error e => .error e s
      | .ok () =>
        match (transport call.request).run s with
        | .error e after => .error e after
        | .ok response after =>
          match response.result with
          | .error e => .error e after
          | .ok value => .ok (call.value? value) after := by
  rw [perform_eq, EStateM.run_bind, run_ofExcept]
  cases call.checked with
  | error e => rfl
  | ok checked =>
    simp only [Transport.request, EStateM.run_bind]
    cases (transport call.request).run s with
    | error e after => rfl
    | ok response after =>
      simp only [run_ofExcept]
      cases response.result <;> rfl

end ServiceCall

section

variable {dispatcher : Dispatcher Owner} {communicator : Communicator Owner}

/-- Every healthy backend does to the owner's store what a request asks for. -/
theorem run_transport {backend : Backend} (h : backend.Healthy dispatcher communicator)
    (request : Request) :
    ∃ after, (backend.transport dispatcher.execute request).run communicator =
        .ok (communicator.secure.store.apply request).1 after ∧
      Restored communicator after (communicator.secure.store.apply request).2 := by
  cases backend with
  | secureCall function => exact run_secureCall h request
  | communicate bufferId => exact run_communicate h request

theorem run_perform_answer {backend : Backend} (h : backend.Healthy dispatcher communicator)
    (call : ServiceCall) :
    outcome ((call.perform (backend.transport dispatcher.execute)).run communicator) =
        (call.answer communicator.secure.store).1 ∧
      Restored communicator
        (final ((call.perform (backend.transport dispatcher.execute)).run communicator))
        (call.answer communicator.secure.store).2 := by
  rw [ServiceCall.run_perform, ServiceCall.answer]
  cases call.checked with
  | error e => exact ⟨rfl, rfl, rfl⟩
  | ok checked =>
    obtain ⟨after, hr, hs⟩ := run_transport h call.request
    simp only [hr]
    cases (communicator.secure.store.apply call.request).1.result with
    | error e => exact ⟨rfl, hs⟩
    | ok value => exact ⟨rfl, hs⟩

end

def performAll {σ : Type} [SecureMonitor σ] (execute : Executor σ) :
    List (ServiceCall × Backend) → Communicator σ →
      List (Except Efi.Error (Option UInt32)) × Communicator σ
  | [], communicator => ([], communicator)
  | (call, backend) :: calls, communicator =>
    let result := (call.perform (backend.transport execute)).run communicator
    let (later, last) := performAll execute calls (final result)
    (outcome result :: later, last)

def answers : List ServiceCall → Store → List (Except Efi.Error (Option UInt32)) × Store
  | [], store => ([], store)
  | call :: calls, store =>
    let (answer, after) := call.answer store
    let (later, last) := answers calls after
    (answer :: later, last)

theorem performAll_answers {dispatcher : Dispatcher Owner} (assigned : List (ServiceCall × Backend))
    (communicator : Communicator Owner)
    (h : ∀ call ∈ assigned, call.2.Healthy dispatcher communicator) :
    (performAll dispatcher.execute assigned communicator).1 =
        (answers (assigned.map Prod.fst) communicator.secure.store).1 ∧
      Restored communicator (performAll dispatcher.execute assigned communicator).2
        (answers (assigned.map Prod.fst) communicator.secure.store).2 := by
  induction assigned generalizing communicator with
  | nil => exact ⟨rfl, rfl, rfl⟩
  | cons first calls ih =>
    obtain ⟨call, backend⟩ := first
    obtain ⟨ho, hs⟩ := run_perform_answer (h (call, backend) List.mem_cons_self) call
    have hl := ih (final ((call.perform (backend.transport dispatcher.execute)).run communicator))
      fun other hm => hs.healthy (h other (List.mem_cons_of_mem _ hm))
    have hf := congrArg Owner.store hs.secure
    simp only at hf
    rw [hf] at hl
    obtain ⟨hr, ht⟩ := hl
    refine ⟨?_, hs.trans ht⟩
    change outcome _ :: (performAll dispatcher.execute calls _).1 = _
    rw [ho, hr]
    rfl

/-- A request over any healthy backend is answered as the store answers it and leaves what the store
leaves, so a sequence of calls does not depend on the backends that carry them. -/
theorem backends_refine_store (dispatcher : Dispatcher Owner) (communicator : Communicator Owner) :
    (∀ (backend : Backend) (request : Request), backend.Healthy dispatcher communicator →
      ∃ after, (backend.transport dispatcher.execute request).run communicator =
          .ok (communicator.secure.store.apply request).1 after ∧
        after.secure =
          { communicator.secure with store := (communicator.secure.store.apply request).2 }) ∧
    (∀ assigned other : List (ServiceCall × Backend),
      assigned.map Prod.fst = other.map Prod.fst →
      (∀ call ∈ assigned ++ other, call.2.Healthy dispatcher communicator) →
      (performAll dispatcher.execute assigned communicator).1 =
          (performAll dispatcher.execute other communicator).1 ∧
        (performAll dispatcher.execute assigned communicator).2.secure =
          (performAll dispatcher.execute other communicator).2.secure) := by
  constructor
  · intro backend request hb
    obtain ⟨after, hr, hs⟩ := run_transport hb request
    exact ⟨after, hr, hs.secure⟩
  · intro assigned other he hh
    -- both are what the store itself would answer
    obtain ⟨hr, hs⟩ := performAll_answers assigned communicator
      fun call hm => hh call (List.mem_append_left _ hm)
    obtain ⟨hr', hs'⟩ := performAll_answers other communicator
      fun call hm => hh call (List.mem_append_right _ hm)
    rw [← he] at hr' hs'
    exact ⟨hr.trans hr'.symm, hs.secure.trans hs'.secure.symm⟩

def ownerDispatcher : Dispatcher Owner := Dispatcher.register handlerGuid Owner.handler {}

def smallCommunicator : Communicator Owner where
  buffers := [{ id := 0, address := 0x80000000, memory := List.replicate 44 0xA5 }]
  secure := {}

theorem healthy_smallCommunicator :
    ∀ backend ∈ [Backend.secureCall function, .communicate 0],
      backend.Healthy ownerDispatcher smallCommunicator := by
  have hh : ownerDispatcher.handler? handlerGuid = some Owner.handler := by
    simp [ownerDispatcher, Dispatcher.register, Dispatcher.handler?]
  intro backend hb
  rcases List.mem_cons.1 hb with rfl | hb
  · rfl
  · obtain rfl := List.mem_singleton.1 hb
    exact ⟨hh, _, rfl, by decide⟩

def setAndGet (first second : Backend) : List (ServiceCall × Backend) :=
  [(.set 0x100 ⟨1⟩ ⟨3⟩ 7, first), (.get 0x100 ⟨1⟩, second)]

theorem backends_refine_store_smallCommunicator :
    (∃ after, ((Backend.communicate 0).transport ownerDispatcher.execute
        (.set 0x100 ⟨0x80000001⟩ ⟨3⟩ 7)).run smallCommunicator = .ok ⟨.success, 0⟩ after ∧
      after.secure.store.find? 0x100 = some ⟨7, ⟨0x80000001⟩, ⟨3⟩⟩) ∧
    (performAll ownerDispatcher.execute (setAndGet (.secureCall function) (.communicate 0))
        smallCommunicator).1 =
      (performAll ownerDispatcher.execute (setAndGet (.communicate 0) (.secureCall function))
        smallCommunicator).1 := by
  have h := healthy_smallCommunicator
  refine ⟨?_, ?_⟩
  · obtain ⟨after, hr, hs⟩ := (backends_refine_store ownerDispatcher smallCommunicator).1
      (.communicate 0) (.set 0x100 ⟨0x80000001⟩ ⟨3⟩ 7) (h _ (by simp))
    have ha : (smallCommunicator.secure.store.apply (.set 0x100 ⟨0x80000001⟩ ⟨3⟩ 7)).1 =
        ⟨.success, 0⟩ := by decide
    rw [ha] at hr
    refine ⟨after, hr, ?_⟩
    rw [hs]
    decide
  · refine ((backends_refine_store ownerDispatcher smallCommunicator).2
      (setAndGet (.secureCall function) (.communicate 0))
      (setAndGet (.communicate 0) (.secureCall function)) rfl ?_).1
    intro call hc
    refine h call.2 ?_
    simp only [setAndGet, List.mem_append, List.mem_cons, List.not_mem_nil, or_false] at hc
    rcases hc with (rfl | rfl) | (rfl | rfl) <;> simp

end PlatformFirmware.Parameter
