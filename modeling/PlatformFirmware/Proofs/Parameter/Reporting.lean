import PlatformFirmware.Proofs.Parameter.Gate
import PlatformFirmware.Proofs.Reporting

namespace PlatformFirmware

open SecureCall (Answer)

variable {σ ρ : Type}

namespace ManagementMode

theorem zero_of_checkCall {answer : Answer} (h : checkCall answer.status = .ok ()) :
    answer.x0 = 0 := by
  rw [← Answer.status_eq_zero_iff]
  unfold checkCall at h
  split at h
  · next hz => exact hz
  all_goals cases h

theorem isKnown_error (status : Status) : status.error.IsKnown := by
  cases status <;> trivial

/-- The secure world has the shared memory while it executes, and leaves any bytes in it. -/
def Executor.leaving (writes : σ → Bytes → Bytes) (execute : Executor σ) : Executor σ := fun s =>
  match execute s with
  | .ok a t => .ok a ({ t.1 with memory := writes t.2 t.1.memory }, t.2)
  | .error e t => .error e ({ t.1 with memory := writes t.2 t.1.memory }, t.2)

theorem Executor.leaving_id (execute : Executor σ) :
    execute.leaving (fun _ memory => memory) = execute := by
  funext s
  rw [leaving]
  cases execute s <;> rfl

section

variable {α : Type} {accepted : Answer → Prop}

theorem reports_read (f : Buffer → Except BufferError α) (failure : Status) :
    Reports (Traced.logBeside : Buffer × Traced σ → _) accepted (fun _ => True)
      (BufferAction.read f failure) := by
  refine reports_get.bind fun s => ?_
  cases f s.1 with
  | ok a => exact reports_pure a
  | error _ => exact reports_throw trivial

theorem reports_update (f : Buffer → Except BufferError Buffer) (failure : Status) :
    Reports (Traced.logBeside : Buffer × Traced σ → _) accepted (fun _ => True)
      (BufferAction.update f failure) :=
  (reports_read f failure).bind fun _ => reports_modify fun _ => rfl

theorem reports_fill (recipient : Efi.Guid) (message : Bytes) (failure : Status) :
    Reports (Traced.logBeside : Buffer × Traced σ → _) accepted (fun _ => True)
      (BufferAction.fill recipient message failure) :=
  Reports.bind (reports_modify fun _ => rfl) fun _ =>
    (reports_update _ _).bind fun _ => reports_update _ _

theorem reports_leaving {writes : Traced σ → Bytes → Bytes} {execute : Executor (Traced σ)}
    (h : Reports Traced.logBeside accepted (fun _ => True) execute) :
    Reports Traced.logBeside accepted (fun _ => True) (execute.leaving writes) := by
  intro s
  obtain ⟨made, hl, hr⟩ := h s
  refine ⟨made, ?_, ?_⟩
  · rw [← hl, EStateM.run, EStateM.run, Executor.leaving]
    cases execute s <;> rfl
  · rw [EStateM.run] at hr ⊢
    rw [Executor.leaving]
    cases hx : execute s <;> rwa [hx] at hr

variable [SecureMonitor σ]

theorem reports_callExecutor (function : UInt32) :
    Reports (Traced.logBeside : Buffer × Traced σ → _) (·.x0 = 0) (fun _ => True)
      (callExecutor function) :=
  reports_get.bind fun _ =>
    reports_check ((issues_issue _).focus (fun _ => rfl) (fun _ _ => rfl))
      (fun _ => zero_of_checkCall) (fun _ _ _ => trivial)

end

theorem Buffer.prefix_of_message {buffer : Buffer} {message : Bytes}
    (h : buffer.message = .ok message) : message <+: buffer.memory.drop Header.size := by
  rw [Buffer.message] at h
  cases hh : buffer.header with
  | error e =>
    rw [hh] at h
    cases h
  | ok header =>
    rw [hh] at h
    simp only [bind, Except.bind] at h
    split at h
    · cases h
    split at h
    · cases h
    · cases h
      exact List.take_prefix _ _

namespace Communicator

def log (communicator : Communicator (Traced σ)) : List Event := communicator.secure.log

variable {accepted : Answer → Prop} {execute : Executor (Traced σ)}

theorem reports_exchange (h : Reports Traced.logBeside accepted (fun _ => True) execute)
    (data : Bytes) (recipient : Efi.Guid) :
    Reports Traced.logBeside accepted (fun _ => True) (exchange execute data recipient) :=
  (reports_fill _ _ _).bind fun _ => h.bind fun _ => reports_read _ _

theorem reports_communicate (h : Reports Traced.logBeside accepted (fun _ => True) execute)
    (id : UInt8) (data : Bytes) (recipient : Efi.Guid) :
    Reports log accepted (fun _ => True) (communicate execute id data recipient) := by
  refine reports_get.bind fun communicator => ?_
  refine reports_guard trivial (reports_guard trivial ?_)
  split
  · exact reports_throw trivial
  split
  · exact reports_throw trivial
  · refine reports_guard trivial (Reports.focus ?_ ?_ (reports_exchange h data recipient))
    · exact fun _ => rfl
    · exact fun _ _ => rfl

/-- A reply is what the buffer is left with. -/
theorem message_of_exchange {execute : Executor σ} {data reply : Bytes} {recipient : Efi.Guid}
    {s t : Buffer × σ} (h : (exchange execute data recipient).run s = .ok reply t) :
    t.1.message = .ok reply := by
  obtain ⟨_, _, -, h⟩ := exists_of_run_bind h
  obtain ⟨_, _, -, h⟩ := exists_of_run_bind h
  rw [run_read] at h
  split at h
  · next hm =>
    cases h
    exact hm
  · cases h

theorem message_of_communicate {execute : Executor σ} {id : UInt8} {data reply : Bytes}
    {recipient : Efi.Guid} {communicator after : Communicator σ}
    (h : (communicate execute id data recipient).run communicator = .ok reply after) :
    ∃ position buffer, communicator.buffers.findIdx? (·.id = id) = some position ∧
      after.buffers[position]? = some buffer ∧ buffer.message = .ok reply := by
  rw [communicate, EStateM.run_bind, EStateM.run_get] at h
  have h := (run_of_guard (run_of_guard h).2).2
  split at h
  · cases h
  next position hi =>
  split at h
  · cases h
  next buffer hb =>
  have h := (run_of_guard h).2
  rw [onBuffer, run_focus] at h
  split at h
  · next left hx =>
    cases h
    refine ⟨position, left.1, hi, ?_, message_of_exchange hx⟩
    exact List.getElem?_set_self (List.getElem?_eq_some_iff.1 hb).1
  · cases h

end Communicator

end ManagementMode

namespace Parameter

open ManagementMode (Buffer Communicator Executor)

theorem Status.isKnown_error (status : Status) : status.error.IsKnown := by
  cases status <;> trivial

theorem Status.ofWord_eq_success_iff {word : UInt32} :
    ofWord word = success ↔ word = 0xAABBCC00 := by
  rw [ofWord]
  split
  · next h => simp [h]
  · next h =>
    refine iff_of_false ?_ h
    repeat' split
    all_goals nofun

theorem Response.isKnown_of_result {response : Response} {e : Efi.Error}
    (h : response.result = .error e) : e.IsKnown := by
  rw [result] at h
  split at h
  · cases h
  · cases h
    exact Status.isKnown_error _

theorem Response.word_prefix {bytes : Bytes} {response : Response}
    (h : Response.ofBytes bytes = .ok response) (hs : response.status = .success) :
    Bytes.word32 0xAABBCC00 <+: bytes := by
  rw [ofBytes] at h
  split at h
  · cases h
  · next word value hw =>
    cases h
    obtain ⟨⟨first, rest⟩, hf, hr⟩ := Option.bind_eq_some_iff.1 hw
    obtain ⟨⟨second, rest'⟩, -, hp⟩ := Option.bind_eq_some_iff.1 hr
    cases hp
    rw [Bytes.word32?_eq_some_iff.1 hf, Status.ofWord_eq_success_iff.1 hs]
    exact List.prefix_append _ _

theorem Response.isKnown_of_ofBytes {bytes : Bytes} {e : Efi.Error}
    (h : Response.ofBytes bytes = .error e) : e.IsKnown := by
  rw [ofBytes] at h
  split at h <;> cases h
  trivial

namespace ServiceCall

variable {accepted : Answer → Prop} {log : ρ → List Event} {transport : Transport ρ}

theorem reports_perform (h : ∀ request, Reports log accepted Efi.Error.IsKnown (transport request))
    (call : ServiceCall) : Reports log accepted Efi.Error.IsKnown (call.perform transport) := by
  rw [perform_eq, checked_eq]
  refine (reports_ofExcept fun e he => ?_).bind fun _ =>
    ((h call.request).bind fun response =>
      reports_ofExcept fun e => Response.isKnown_of_result).bind fun value => reports_pure _
  split at he <;> cases he
  trivial

theorem success_of_perform {call : ServiceCall} {s after : ρ} {value : Option UInt32}
    (h : (call.perform transport).run s = .ok value after) :
    ∃ response, (transport call.request).run s = .ok response after ∧
      response.status = .success := by
  rw [run_perform] at h
  split at h
  · cases h
  split at h
  · cases h
  next response after' hr =>
  split at h
  · cases h
  next hv =>
  cases h
  refine ⟨response, hr, ?_⟩
  rw [Response.result] at hv
  split at hv
  · assumption
  · cases hv

end ServiceCall

namespace Transport

theorem reports_secureCall [SecureMonitor σ] (function : UInt32) (request : Request) :
    Reports (Traced.log : Traced σ → _) (·.x0 = 0) Efi.Error.IsKnown
      (Transport.secureCall function request) :=
  reports_checked (issues_issue _)
    (fun _ => Answer.zero_of_check) (fun _ _ => Answer.isKnown_of_check) fun _ => reports_pure _

theorem reports_communicate {execute : Executor (Traced σ)}
    (h : Reports Traced.logBeside (·.x0 = 0) (fun _ => True) execute) (bufferId : UInt8)
    (request : Request) :
    Reports Communicator.log (·.x0 = 0) Efi.Error.IsKnown
      (Transport.communicate execute bufferId request) := by
  intro communicator
  obtain ⟨made, hl, hr⟩ :=
    Communicator.reports_communicate h bufferId request.toBytes handlerGuid communicator
  refine ⟨made, ?_, ?_⟩
  · rw [← hl, EStateM.run, EStateM.run, Transport.communicate]
    split
    · next hc => rw [hc]; rfl
    · next reply after hc =>
      rw [hc]
      cases Response.ofBytes reply <;> rfl
  · rw [EStateM.run] at hr ⊢
    rw [Transport.communicate]
    split
    · exact .failure _ (ManagementMode.isKnown_error _)
    · next reply after hc =>
      rw [hc] at hr
      cases ho : Response.ofBytes reply with
      | error e => exact .failure e (Response.isKnown_of_ofBytes ho)
      | ok response =>
        cases hr with
        | value _ hm => exact .value response hm

theorem word_of_secureCall [SecureMonitor σ] {function : UInt32} {request : Request}
    {s after : Traced σ} {response : Response}
    (h : (Transport.secureCall function request).run s = .ok response after)
    (hs : response.status = .success) :
    ∃ answer, after.log = s.log ++ [.call (request.call function) answer] ∧
      answer.x1.toUInt32 = 0xAABBCC00 := by
  obtain ⟨answer, called, hr, hl⟩ := issues_issue (request.call function) s
  obtain ⟨_, _, ha, h⟩ := exists_of_run_bind h
  cases hr.symm.trans ha
  obtain ⟨_, _, hc, h⟩ := exists_of_run_bind h
  rw [run_ofExcept] at hc
  split at hc
  · cases hc
    cases h
    exact ⟨answer, hl, Status.ofWord_eq_success_iff.1 hs⟩
  · cases hc

theorem word_of_communicate {execute : Executor σ} {bufferId : UInt8} {request : Request}
    {communicator after : Communicator σ} {response : Response}
    (h : (Transport.communicate execute bufferId request).run communicator = .ok response after)
    (hs : response.status = .success) :
    ∃ position buffer, communicator.buffers.findIdx? (·.id = bufferId) = some position ∧
      after.buffers[position]? = some buffer ∧
      Bytes.slice buffer.memory ManagementMode.Header.size 4 = Bytes.word32 0xAABBCC00 := by
  rw [EStateM.run, Transport.communicate] at h
  split at h
  · cases h
  next reply after' hc =>
  split at h
  · next response' ho =>
    cases h
    obtain ⟨position, buffer, hi, hb, hm⟩ := Communicator.message_of_communicate hc
    have hw := (Response.word_prefix ho hs).trans (Buffer.prefix_of_message hm)
    exact ⟨position, buffer, hi, hb, (List.prefix_iff_eq_take.1 hw).symm⟩
  · cases h

end Transport

end Parameter

end PlatformFirmware
