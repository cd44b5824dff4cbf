import PlatformFirmware.Proofs.HotPlug.Sending
import PlatformFirmware.Proofs.Reporting

namespace PlatformFirmware

open SecureCall (Answer)

variable {σ : Type}

namespace SecurePartition

theorem Status.isKnown_of_check {code : Int} {e : Efi.Error} (h : check code = .error e) :
    e.IsKnown := by
  rw [check] at h
  cases hs : ofCode? code with
  | none =>
    rw [hs] at h
    cases h
    trivial
  | some status =>
    rw [hs] at h
    cases status <;> cases h <;> trivial

theorem Status.zero_of_check {answer : Answer} (h : check answer.status = .ok ()) :
    answer.x0 = 0 := by
  by_cases hs : answer.status = 0
  · exact Answer.status_eq_zero_iff.1 hs
  · obtain ⟨e, he⟩ := check_of_ne hs
    cases he.symm.trans h

variable [SecureMonitor σ]

theorem Client.reports_version (client : Client) :
    Reports (Traced.log : Traced σ → _) (0 ≤ ·.status) Efi.Error.IsKnown client.version := by
  refine reports_call (issues_issue _) fun answer => ?_
  by_cases hn : answer.status < 0
  · obtain ⟨e, he⟩ := Status.check_of_ne (Int.ne_of_lt hn)
    refine .inr ⟨e, ?_, Status.isKnown_of_check he⟩
    rw [if_pos hn, he]
    rfl
  · refine .inl ⟨Int.not_lt.1 hn, ?_⟩
    rw [if_neg hn]
    exact reports_pure _

theorem reports_settled {α : Type} (request : SecureCall) (value : Answer → α) :
    Reports (Traced.log : Traced σ → _) (·.x0 = 0) Efi.Error.IsKnown (do
      let answer ← request.issue
      MonadExcept.ofExcept (Status.check answer.status)
      return value answer) :=
  reports_checked (issues_issue request) (fun _ => Status.zero_of_check)
    (fun _ _ => Status.isKnown_of_check) fun _ => reports_pure _

theorem Client.reports_openHandle (client : Client) (service : Efi.Guid) :
    Reports (Traced.log : Traced σ → _) (·.x0 = 0) Efi.Error.IsKnown
      (client.openHandle service) :=
  reports_settled _ _

namespace Handle

theorem reports_request (handle : Handle) (words : List UInt64) :
    Reports (Traced.log : Traced σ → _) (·.x0 = 0) Efi.Error.IsKnown (handle.request words) :=
  reports_guard trivial (reports_settled _ _)

theorem close_of_open {handle : Handle} (h : handle.isOpen = true) :
    (handle.close : Firmware σ Unit) = (do
      let answer ← handle.closeCall.issue
      MonadExcept.ofExcept (Status.check answer.status)) := by
  obtain ⟨client, number, isOpen⟩ := handle
  cases h
  rfl

theorem close_of_closed {handle : Handle} (h : handle.isOpen = false) :
    (handle.close : Firmware σ Unit) = pure () := by
  obtain ⟨client, number, isOpen⟩ := handle
  cases h
  rfl

theorem reports_close (handle : Handle) :
    Reports (Traced.log : Traced σ → _) (·.x0 = 0) Efi.Error.IsKnown handle.close := by
  cases ho : handle.isOpen with
  | false =>
    rw [close_of_closed ho]
    exact reports_pure ()
  | true =>
    rw [close_of_open ho]
    exact reports_check (issues_issue _) (fun _ => Status.zero_of_check)
      (fun _ _ => Status.isKnown_of_check)

end Handle

end SecurePartition

namespace HotPlug

open SecurePartition

theorem isKnown_serviceError {e : Efi.Error} (h : e.IsKnown) : (serviceError e).IsKnown := by
  cases e <;> trivial

theorem isKnown_of_report {answers : List Answer} {e : Efi.Error}
    (h : report answers = .error e) : e.IsKnown := by
  rw [report] at h
  split at h
  · cases h
  · next hf =>
    cases h
    obtain ⟨answer, -, ha⟩ := List.exists_of_findSome?_eq_some hf
    cases hc : Status.check answer.status with
    | ok => cases (hc ▸ ha)
    | error e' =>
      rw [hc] at ha
      cases ha
      exact Status.isKnown_of_check hc

theorem Transaction.mem_answers {service : Service} {command : Command} {transaction : Transaction}
    {request : SecureCall} {answer : Answer}
    (h : .call request answer ∈ transaction.events service command) :
    answer ∈ transaction.answers := by
  cases transaction with
  | refused opened =>
    cases List.mem_singleton.1 h
    exact .head _
  | served opened replied closed =>
    simp only [events, List.mem_cons, Event.call.injEq, List.not_mem_nil, or_false] at h
    simp only [answers, List.mem_cons, List.not_mem_nil, or_false]
    exact h.imp And.right (Or.imp And.right And.right)

theorem mem_answers_of_issued {service : Service} {commands : List Command}
    {transactions : List Transaction} {request : SecureCall} {answer : Answer}
    (h : .call request answer ∈ issued service commands transactions) :
    answer ∈ transactions.flatMap Transaction.answers := by
  obtain ⟨events, he, hm⟩ := List.mem_flatten.1 h
  rw [← List.map_uncurry_zip_eq_zipWith] at he
  obtain ⟨⟨command, transaction⟩, hz, rfl⟩ := List.mem_map.1 he
  exact List.mem_flatMap.2 ⟨transaction, (List.of_mem_zip hz).2, Transaction.mem_answers hm⟩

variable [SecureMonitor σ]

theorem Service.reports_sendAll (service : Service) (commands : List Command) :
    Reports (Traced.log : Traced σ → _) (·.x0 = 0) Efi.Error.IsKnown
      (commands.forM service.send) := by
  rintro ⟨monitor, trace⟩
  obtain ⟨transactions, after, -, hr⟩ := run_sendAll service commands monitor trace
  refine ⟨issued service commands transactions, ?_, ?_⟩
  · rw [hr, final_run_ofExcept]
    simp [Traced.log]
  · rw [hr, outcome_run_ofExcept]
    cases hp : report (transactions.flatMap Transaction.answers) with
    | ok =>
      refine .value () fun request answer hm => ?_
      exact Answer.status_eq_zero_iff.1 (report_eq_ok_iff.1 hp answer (mem_answers_of_issued hm))
    | error e => exact .failure _ (isKnown_serviceError (isKnown_of_report hp))

theorem Service.reports_send (service : Service) (command : Command) :
    Reports (Traced.log : Traced σ → _) (·.x0 = 0) Efi.Error.IsKnown (service.send command) := by
  have h : Reports (Traced.log : Traced σ → _) (·.x0 = 0) Efi.Error.IsKnown
      ([command].forM service.send) := service.reports_sendAll [command]
  simpa [List.forM] using h

theorem Service.reports_configurePortMap (service : Service) (entries : List PortMapEntry) :
    Reports (Traced.log : Traced σ → _) (·.x0 = 0) Efi.Error.IsKnown
      (service.configurePortMap entries) :=
  service.reports_sendAll (Command.portMap entries)

end HotPlug

end PlatformFirmware
