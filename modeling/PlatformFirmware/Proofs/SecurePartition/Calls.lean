import PlatformFirmware.Proofs.Trace
import PlatformFirmware.SecurePartition.Client

namespace PlatformFirmware

namespace SecureCall

theorem argument_set (call : SecureCall) {index : Nat} (h0 : 0 < index) (h : index < 8)
    (value : UInt64) : (call.set index value).argument index = value := by
  have hl : index - 1 < call.registers.toList.length := by simp; omega
  rw [set, if_neg (by omega), argument, if_neg (by omega)]
  simp [Vector.toList_setIfInBounds, List.getD_eq_getElem?_getD, List.getElem?_set_self hl]

@[simp] theorem function_set (call : SecureCall) (index : Nat) (value : UInt64) :
    (call.set index value).function = call.function := by
  rw [set]
  split <;> rfl

end SecureCall

namespace SecurePartition

theorem Status.check_of_ne {code : Int} (h : code ≠ 0) : ∃ e, check code = .error e := by
  rw [check]
  cases hs : ofCode? code with
  | none => exact ⟨_, rfl⟩
  | some status =>
    cases status with
    | success =>
      unfold ofCode? at hs
      split at hs <;> simp_all
    | notSupported | invalidParameter | noMemory | busy | queued | denied | notPresent =>
      exact ⟨_, rfl⟩

def settle {σ α : Type} (answer : SecureCall.Answer) (value : α) (after : σ) :
    EStateM.Result Efi.Error σ α :=
  match Status.check answer.status with
  | .ok _ => .ok value after
  | .error e => .error e after

section

variable {σ α : Type} {answer : SecureCall.Answer} (value : α) (after : σ)

theorem settle_of_zero (h : answer.status = 0) : settle answer value after = .ok value after := by
  rw [settle, h]
  rfl

theorem settle_of_ne (h : answer.status ≠ 0) :
    ∃ e, Status.check answer.status = .error e ∧ settle answer value after = .error e after := by
  obtain ⟨e, he⟩ := Status.check_of_ne h
  exact ⟨e, he, by rw [settle, he]⟩

@[simp] theorem final_settle : final (settle answer value after) = after := by
  rw [settle]
  split <;> rfl

end

@[simp] theorem Client.function_openCall (client : Client) (service : Efi.Guid) :
    (client.openCall service).function = Function.openHandle :=
  SecureCall.function_set _ _ _

@[simp] theorem Handle.function_requestCall (handle : Handle) (words : List UInt64) :
    (handle.requestCall words).function = Function.request :=
  SecureCall.function_set _ _ _

@[simp] theorem Handle.function_closeCall (handle : Handle) :
    handle.closeCall.function = Function.closeHandle :=
  SecureCall.function_set _ _ _

variable {σ : Type} [SecureMonitor σ]

theorem run_call (call : SecureCall) (monitor : σ) (events : Array Event) :
    ∃ answer after, ∀ ε, (call.issue : EStateM ε (Traced σ) SecureCall.Answer).run
      ⟨monitor, events⟩ = .ok answer ⟨after, events.push (.call call answer)⟩ :=
  ⟨_, _, fun _ => rfl⟩

theorem Client.run_openHandle (client : Client) (service : Efi.Guid) (monitor : σ)
    (events : Array Event) :
    ∃ answer after, (client.openHandle service).run ⟨monitor, events⟩ =
      settle answer ⟨client, answer.x2.toUInt32, true⟩
        (⟨after, events.push (.call (client.openCall service) answer)⟩ : Traced σ) := by
  obtain ⟨answer, after, h⟩ := run_call (client.openCall service) monitor events
  refine ⟨answer, after, ?_⟩
  simp only [openHandle, EStateM.run_bind, h, run_ofExcept, settle]
  cases Status.check answer.status <;> rfl

namespace Handle

section

variable (handle : Handle) (monitor : σ) (events : Array Event) {words : List UInt64}

theorem run_request (h0 : words.length ≠ 0) (h5 : words.length ≤ maxWords) :
    ∃ answer after, (handle.request words).run ⟨monitor, events⟩ =
      settle answer ⟨answer.x1, answer.x2, answer.x3⟩
        (⟨after, events.push (.call (handle.requestCall words) answer)⟩ : Traced σ) := by
  obtain ⟨answer, after, h⟩ := run_call (handle.requestCall words) monitor events
  refine ⟨answer, after, ?_⟩
  have hn : ¬(words.length = 0 ∨ maxWords < words.length) := by omega
  simp only [request, if_neg hn, EStateM.run_bind, h, run_ofExcept, settle]
  cases Status.check answer.status <;> rfl

theorem run_request_of_bad (h : words.length = 0 ∨ maxWords < words.length) :
    (handle.request words).run (⟨monitor, events⟩ : Traced σ) =
      .error .invalidParameter ⟨monitor, events⟩ := by
  rw [request, if_pos h]
  rfl

end

section

variable {handle : Handle} (ho : handle.isOpen = true) (monitor : σ) (events : Array Event)

include ho

theorem run_shut :
    ∃ answer after, ∀ ε, (handle.shut : EStateM ε (Traced σ) _).run ⟨monitor, events⟩ =
      .ok (Status.check answer.status, { handle with isOpen := false })
        ⟨after, events.push (.call handle.closeCall answer)⟩ := by
  obtain ⟨answer, after, h⟩ := run_call handle.closeCall monitor events
  refine ⟨answer, after, fun ε => ?_⟩
  rw [shut, if_pos ho, EStateM.run_bind, h]
  rfl

theorem run_drop :
    ∃ answer after, ∀ ε, (handle.drop : EStateM ε (Traced σ) Unit).run ⟨monitor, events⟩ =
      .ok () ⟨after, events.push (.call handle.closeCall answer)⟩ := by
  obtain ⟨answer, after, h⟩ := run_shut ho monitor events
  refine ⟨answer, after, fun ε => ?_⟩
  rw [drop, EStateM.run_bind, h]
  rfl

/-- The handle that goes out of use at the end is closed by then, so no second call is made. -/
theorem run_close :
    ∃ answer after, handle.close.run ⟨monitor, events⟩ =
      settle answer () (⟨after, events.push (.call handle.closeCall answer)⟩ : Traced σ) := by
  obtain ⟨answer, after, h⟩ := run_shut ho monitor events
  refine ⟨answer, after, ?_⟩
  rw [close, EStateM.run_bind, h, settle]
  cases hc : Status.check answer.status with
  | ok => rfl
  | error e => rfl

end

end Handle

end SecurePartition

end PlatformFirmware
