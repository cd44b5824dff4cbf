import PlatformFirmware.Proofs.Parameter.Refinement
import PlatformFirmware.Proofs.Parameter.Step

namespace PlatformFirmware.Parameter

open ManagementMode (Communicator Dispatcher)

def IsEntry (id : UInt32) : Prop := id.toNat % 8 = 0 ∧ id.toNat < 0x10000

instance (id : UInt32) : Decidable (IsEntry id) := inferInstanceAs (Decidable (_ ∧ _))

theorem Band.of?_ne_none_iff (id : UInt32) : Band.of? id ≠ none ↔ IsEntry id := by
  have hm : id % 8 ≠ 0 ↔ id.toNat % 8 ≠ 0 := by
    rw [ne_eq, ← UInt32.toNat_inj, UInt32.toNat_mod]
    rfl
  have hl (bound : UInt32) : id < bound ↔ id.toNat < bound.toNat := UInt32.lt_iff_toNat_lt
  simp only [of?, IsEntry, hm, hl]
  -- the last of the four bands ends where the storage does
  by_cases h8 : id.toNat % 8 = 0
  · simp only [h8, ne_eq, not_true_eq_false, if_false, true_and]
    split
    · next h => simp; exact Nat.lt_trans h (by decide)
    split
    · next h => simp; exact Nat.lt_trans h (by decide)
    split
    · next h => simp; exact Nat.lt_trans h (by decide)
    split
    · next h => simpa using h
    · next h => simpa using h
  · simp [h8]

theorem checkId_eq (id : UInt32) :
    (∃ band, checkId id = .ok band) ∧ IsEntry id ∨
      checkId id = .error .invalidParameter ∧ ¬ IsEntry id := by
  rw [← Band.of?_ne_none_iff, checkId]
  cases Band.of? id with
  | none => exact .inr ⟨rfl, by simp⟩
  | some band => exact .inl ⟨⟨band, rfl⟩, by simp⟩

theorem requireId_eq_ok_iff (id : UInt32) : Store.requireId id = .ok () ↔ IsEntry id := by
  rw [← Band.of?_ne_none_iff, Store.requireId]
  cases Band.of? id <;> simp

namespace ServiceCall

def Admissible : ServiceCall → Prop
  | get id caller => IsEntry id ∧ caller.bits ≠ 0
  | set id _ caller _ => IsEntry id ∧ caller.bits ≠ 0
  | clear id caller => IsEntry id ∧ caller.bits ≠ 0
  | clearAll => True

instance : (call : ServiceCall) → Decidable call.Admissible
  | get _ _ => inferInstanceAs (Decidable (_ ∧ _))
  | set _ _ _ _ => inferInstanceAs (Decidable (_ ∧ _))
  | clear _ _ => inferInstanceAs (Decidable (_ ∧ _))
  | clearAll => inferInstanceAs (Decidable True)

/-- How a call that reaches the owner ends. The lists of the entry decide. -/
inductive Ends (store : Store) : ServiceCall → Except Efi.Error (Option UInt32) → Prop
  | read {id : UInt32} {readAcl : Acl} (entry : Entry) (hf : store.find? id = some entry)
      (hp : entry.readAcl.intersects readAcl = true) :
      Ends store (get id readAcl) (.ok (some entry.value))
  | notSet {id : UInt32} {readAcl : Acl} (hf : store.find? id = none) :
      Ends store (get id readAcl) (.error .notFound)
  | notReadable {id : UInt32} {readAcl : Acl} (entry : Entry) (hf : store.find? id = some entry)
      (hp : entry.readAcl.intersects readAcl = false) :
      Ends store (get id readAcl) (.error .accessDenied)
  | written {id : UInt32} {readAcl writeAcl : Acl} {value : UInt32}
      (hp : ∀ entry, store.find? id = some entry → entry.writeAcl.intersects writeAcl = true) :
      Ends store (set id readAcl writeAcl value) (.ok none)
  | notWritable {id : UInt32} {readAcl writeAcl : Acl} {value : UInt32} (entry : Entry)
      (hf : store.find? id = some entry) (hp : entry.writeAcl.intersects writeAcl = false) :
      Ends store (set id readAcl writeAcl value) (.error .accessDenied)
  | cleared {id : UInt32} {writeAcl : Acl}
      (hp : ∀ entry, store.find? id = some entry → entry.writeAcl.intersects writeAcl = true) :
      Ends store (clear id writeAcl) (.ok none)
  | notClearable {id : UInt32} {writeAcl : Acl} (entry : Entry) (hf : store.find? id = some entry)
      (hp : entry.writeAcl.intersects writeAcl = false) :
      Ends store (clear id writeAcl) (.error .accessDenied)
  | emptied : Ends store clearAll (.ok none)

theorem check_both (id : UInt32) (caller : Acl) :
    ((checkId id).bind fun _ => checkCaller caller) =
      if IsEntry id ∧ caller.bits ≠ 0 then .ok () else .error .invalidParameter := by
  rcases checkId_eq id with ⟨⟨band, hb⟩, he⟩ | ⟨hb, he⟩
  · rw [hb]
    by_cases hc : caller.bits = 0
    · simp [Except.bind, checkCaller, Acl.isEmpty, hc]
    · simp [Except.bind, checkCaller, Acl.isEmpty, hc, he]
  · rw [hb, if_neg fun h => he h.1]
    rfl

theorem checked_eq (call : ServiceCall) :
    call.checked = if call.Admissible then .ok () else .error .invalidParameter := by
  cases call with
  | get id caller | set id _ caller _ | clear id caller => exact check_both id caller
  | clearAll => rfl

section

variable {call : ServiceCall}

theorem run_perform_of_inadmissible {σ : Type} (h : ¬ call.Admissible) (transport : Transport σ)
    (s : σ) : (call.perform transport).run s = .error .invalidParameter s := by
  rw [run_perform, checked_eq, if_neg h]

/-- What the owner checks of a request has been checked before. -/
theorem ends_of_step {store after : Store} {response : Response} (h : call.Admissible)
    (hs : Store.Step store call.request response after) :
    Ends store call (response.result.map call.value?) := by
  have hone {id : UInt32} {acl : Acl} {entry : Entry} (hf : store.find? id = some entry)
      (hp : entry.writeAcl.intersects acl = true) (other : Entry)
      (ho : store.find? id = some other) : other.writeAcl.intersects acl = true := by
    obtain rfl := Option.some.inj (hf.symm.trans ho)
    exact hp
  have hnone {id : UInt32} {acl : Acl} (hf : store.find? id = none) (other : Entry)
      (ho : store.find? id = some other) : other.writeAcl.intersects acl = true := by
    cases hf.symm.trans ho
  cases call with
  | get id readAcl =>
    cases hs with
    | badId _ hb => exact absurd hb ((Band.of?_ne_none_iff id).2 h.1)
    | denied entry _ _ hf hp => exact .notReadable entry hf hp
    | notSet _ _ hf => exact .notSet hf
    | got entry _ _ hf hp => exact .read entry hf hp
    | unowned ho | created ho | updated _ ho | absent ho | cleared _ ho | emptied ho => cases ho
  | set id readAcl writeAcl value =>
    cases hs with
    | badId _ hb => exact absurd hb ((Band.of?_ne_none_iff id).2 h.1)
    | denied entry _ _ hf hp => exact .notWritable entry hf hp
    | unowned _ _ _ hw => exact absurd (of_decide_eq_true hw) h.2
    | created _ _ hf => exact .written (hnone hf)
    | updated entry _ _ hf hp => exact .written (hone hf hp)
    | notSet ho | got _ ho | absent ho | cleared _ ho | emptied ho => cases ho
  | clear id writeAcl =>
    cases hs with
    | badId _ hb => exact absurd hb ((Band.of?_ne_none_iff id).2 h.1)
    | denied entry _ _ hf hp => exact .notClearable entry hf hp
    | absent _ _ hf => exact .cleared (hnone hf)
    | cleared entry _ _ hf hp => exact .cleared (hone hf hp)
    | notSet ho | got _ ho | unowned ho | created ho | updated _ ho | emptied ho => cases ho
  | clearAll =>
    cases hs with
    | emptied => exact .emptied
    | badId ho | denied _ ho => exact absurd rfl ho
    | notSet ho | got _ ho | unowned ho | created ho | updated _ ho | absent ho | cleared _ ho =>
      cases ho

theorem Ends.status_not_mem {store : Store} {response : Response}
    (h : Ends store call (response.result.map call.value?)) :
    response.status ∉ [.invalid, .fail] := by
  intro hm
  rw [Response.result] at h
  rcases List.mem_cons.1 hm with hs | hm
  · rw [hs] at h
    cases h
  · rw [List.mem_singleton.1 hm] at h
    cases h

end

end ServiceCall

/-- The check before sending and the owner's own agree. A call for no entry of the storage or
without a caller ends at once, whatever the transport is, and leaves all as it was. Any other call,
after any calls over healthy backends and over one of them, is neither invalid nor a failure to the
owner, and ends as the lists of its entry say. -/
theorem gate_agrees_with_owner :
    (∀ (σ : Type) (transport : Transport σ) (call : ServiceCall) (s : σ), ¬ call.Admissible →
      (call.perform transport).run s = .error .invalidParameter s) ∧
    (∀ id, (∃ band, checkId id = .ok band) ↔ Store.requireId id = .ok ()) ∧
    ∀ (dispatcher : Dispatcher Owner) (communicator : Communicator Owner)
      (made : List (ServiceCall × Backend)),
      (∀ call ∈ made, call.2.Healthy dispatcher communicator) →
      let reached := (performAll dispatcher.execute made communicator).2
      ∀ (call : ServiceCall) (backend : Backend), backend.Healthy dispatcher communicator →
        call.Admissible →
        (reached.secure.store.apply call.request).1.status ∉ [.invalid, .fail] ∧
          call.Ends reached.secure.store
            (outcome ((call.perform (backend.transport dispatcher.execute)).run reached)) := by
  refine ⟨fun σ transport call s h => ServiceCall.run_perform_of_inadmissible h transport s, ?_, ?_⟩
  · intro id
    rw [requireId_eq_ok_iff]
    rcases checkId_eq id with ⟨hb, he⟩ | ⟨hb, he⟩
    · exact ⟨fun _ => he, fun _ => hb⟩
    · simp [hb, he]
  · intro dispatcher communicator made hm reached call backend hb ha
    have hr : backend.Healthy dispatcher reached :=
      (performAll_answers made communicator hm).2.healthy hb
    have he := ServiceCall.ends_of_step ha (reached.secure.store.apply_step call.request)
    refine ⟨he.status_not_mem, ?_⟩
    rw [(run_perform_answer hr call).1, ServiceCall.answer, ServiceCall.checked_eq, if_pos ha]
    exact he

def lastEntrySet : ServiceCall := .set 0xFFF8 .none ⟨0x80000000⟩ 7

theorem gate_agrees_with_owner_edges :
    ((ServiceCall.get 0x10000 ⟨1⟩).perform
        ((Backend.communicate 0).transport ownerDispatcher.execute)).run smallCommunicator =
      .error .invalidParameter smallCommunicator ∧
    let reached := (performAll ownerDispatcher.execute [(lastEntrySet, .communicate 0)]
      smallCommunicator).2
    ServiceCall.Ends reached.secure.store (.get 0xFFF8 ⟨1⟩)
      (outcome (((ServiceCall.get 0xFFF8 ⟨1⟩).perform
        ((Backend.secureCall function).transport ownerDispatcher.execute)).run reached)) := by
  have h := healthy_smallCommunicator
  obtain ⟨hn, -, ha⟩ := gate_agrees_with_owner
  refine ⟨hn _ _ (.get 0x10000 ⟨1⟩) smallCommunicator (by decide), ?_⟩
  exact (ha ownerDispatcher smallCommunicator [(lastEntrySet, .communicate 0)]
    (List.forall_mem_singleton.2 (h _ (by simp))) (.get 0xFFF8 ⟨1⟩) (.secureCall function)
    (h _ (by simp)) (by decide)).2

end PlatformFirmware.Parameter
