import PlatformFirmware.HotPlug.Service
import PlatformFirmware.Proofs.SecurePartition.Calls

namespace PlatformFirmware.HotPlug

open SecurePartition

/-- The answers to the calls of one command. A handle that was opened takes the request and is
closed, whatever the request was answered with. -/
inductive Transaction
  | refused (opened : SecureCall.Answer) (h : opened.status ≠ 0)
  | served (opened replied closed : SecureCall.Answer) (h : opened.status = 0)

namespace Transaction

def answers : Transaction → List SecureCall.Answer
  | refused opened _ => [opened]
  | served opened replied closed _ => [opened, replied, closed]

def Complete (transaction : Transaction) : Prop := ∀ answer ∈ transaction.answers, answer.status = 0

def events (service : Service) (command : Command) : Transaction → List Event
  | refused opened _ => [.call (service.client.openCall service.guid) opened]
  | served opened replied closed _ =>
    let handle : Handle := ⟨service.client, opened.x2.toUInt32, true⟩
    [.call (service.client.openCall service.guid) opened,
      .call (handle.requestCall command.words) replied, .call handle.closeCall closed]

end Transaction

def report (answers : List SecureCall.Answer) : Except Efi.Error Unit :=
  match answers.findSome? fun answer => failure? (Status.check answer.status) with
  | none => .ok ()
  | some e => .error e

/-- The transactions of commands that are sent one after the other. One that did not complete is
the last. -/
inductive Sent : List Command → List Transaction → Prop
  | done : Sent [] []
  | stopped {command : Command} {commands : List Command} {transaction : Transaction}
    (h : ¬transaction.Complete) : Sent (command :: commands) [transaction]
  | next {command : Command} {commands : List Command} {transaction : Transaction}
    {transactions : List Transaction} (h : transaction.Complete) (hs : Sent commands transactions) :
    Sent (command :: commands) (transaction :: transactions)

def issued (service : Service) (commands : List Command) (transactions : List Transaction) :
    List Event :=
  (List.zipWith (Transaction.events service) commands transactions).flatten

theorem Command.length_words (command : Command) :
    command.words.length ≠ 0 ∧ command.words.length ≤ Handle.maxWords := by
  cases command <;> exact ⟨by simp [Command.words], by simp [Command.words, Handle.maxWords]⟩

section

variable {answer : SecureCall.Answer} {answers : List SecureCall.Answer}

theorem report_nil : report [] = .ok () := rfl

theorem report_cons_of_zero (h : answer.status = 0) : report (answer :: answers) = report answers := by
  rw [report, List.findSome?_cons, h]
  rfl

theorem report_cons_of_error {e : Efi.Error} (h : Status.check answer.status = .error e) :
    report (answer :: answers) = .error e := by
  rw [report, List.findSome?_cons, h]
  rfl

theorem report_append (answers later : List SecureCall.Answer) :
    report (answers ++ later) =
      match report answers with
      | .ok _ => report later
      | .error e => .error e := by
  rw [report, report, List.findSome?_append]
  cases answers.findSome? _ <;> rfl

theorem report_eq_ok_iff : report answers = .ok () ↔ ∀ answer ∈ answers, answer.status = 0 := by
  induction answers with
  | nil => exact ⟨fun _ => nofun, fun _ => rfl⟩
  | cons answer answers ih =>
    rw [List.forall_mem_cons]
    by_cases hz : answer.status = 0
    · rw [report_cons_of_zero hz, ih, and_iff_right hz]
    · obtain ⟨e, he⟩ := Status.check_of_ne hz
      rw [report_cons_of_error he]
      exact ⟨nofun, fun h => absurd h.1 hz⟩

end

theorem report_flatMap_eq_ok_iff {transactions : List Transaction} :
    report (transactions.flatMap Transaction.answers) = .ok () ↔ ∀ t ∈ transactions, t.Complete := by
  simp only [report_eq_ok_iff, List.mem_flatMap]
  exact ⟨fun h t ht answer ha => h answer ⟨t, ht, ha⟩, fun h answer ⟨t, ht, ha⟩ => h t ht answer ha⟩

variable {σ : Type} [SecureMonitor σ]

theorem run_deliver (command : Command) {handle : Handle} (ho : handle.isOpen = true) (monitor : σ)
    (trace : Array Event) :
    ∃ (replied closed : SecureCall.Answer) (after : σ),
      (Service.deliver command handle).run ⟨monitor, trace⟩ =
        (MonadExcept.ofExcept (report [replied, closed]) : Firmware (Traced σ) Unit).run
          ⟨after, (trace.push (.call (handle.requestCall command.words) replied)).push
            (.call handle.closeCall closed)⟩ := by
  obtain ⟨h0, h5⟩ := command.length_words
  obtain ⟨replied, before, hr⟩ := handle.run_request monitor trace h0 h5
  by_cases hz : replied.status = 0
  · rw [settle_of_zero _ _ hz] at hr
    obtain ⟨closed, after, hc⟩ := Handle.run_close ho before
      (trace.push (.call (handle.requestCall command.words) replied))
    refine ⟨replied, closed, after, ?_⟩
    rw [report_cons_of_zero hz]
    by_cases hz' : closed.status = 0
    · rw [settle_of_zero _ _ hz'] at hc
      simp [Service.deliver, hr, hc, report_cons_of_zero hz', report_nil]
    · obtain ⟨e, he, hs⟩ := settle_of_ne () (⟨after, _⟩ : Traced σ) hz'
      rw [hs] at hc
      simp [Service.deliver, hr, hc, report_cons_of_error he]
  · obtain ⟨e, he, hs⟩ := settle_of_ne (⟨replied.x1, replied.x2, replied.x3⟩ : Reply)
      (⟨before, trace.push (.call (handle.requestCall command.words) replied)⟩ : Traced σ) hz
    rw [hs] at hr
    obtain ⟨closed, after, hc⟩ := Handle.run_drop ho before
      (trace.push (.call (handle.requestCall command.words) replied))
    refine ⟨replied, closed, after, ?_⟩
    rw [report_cons_of_error he]
    simp [Service.deliver, hr, hc]

theorem run_transact (service : Service) (command : Command) (monitor : σ) (trace : Array Event) :
    ∃ (transaction : Transaction) (after : σ), (service.transact command).run ⟨monitor, trace⟩ =
      (MonadExcept.ofExcept (report transaction.answers) : Firmware (Traced σ) Unit).run
        ⟨after, trace ++ (transaction.events service command).toArray⟩ := by
  obtain ⟨opened, before, ho⟩ := service.client.run_openHandle service.guid monitor trace
  by_cases hz : opened.status = 0
  · rw [settle_of_zero _ _ hz] at ho
    obtain ⟨replied, closed, after, hd⟩ := run_deliver command
      (rfl : Handle.isOpen ⟨service.client, opened.x2.toUInt32, true⟩ = true) before
      (trace.push (.call (service.client.openCall service.guid) opened))
    refine ⟨.served opened replied closed hz, after, ?_⟩
    rw [Transaction.answers, report_cons_of_zero hz, Service.transact, EStateM.run_bind, ho]
    have ht (first second third : Event) :
        ((trace.push first).push second).push third = trace ++ #[first, second, third] :=
      Array.ext' (by simp)
    rw [ht] at hd
    exact hd
  · obtain ⟨e, he, hs⟩ := settle_of_ne (⟨service.client, opened.x2.toUInt32, true⟩ : Handle)
      (⟨before, trace.push (.call (service.client.openCall service.guid) opened)⟩ : Traced σ) hz
    refine ⟨.refused opened hz, before, ?_⟩
    rw [Transaction.answers, report_cons_of_error he, Service.transact, EStateM.run_bind, ho, hs,
      run_ofExcept, Transaction.events, Array.push_eq_append]

/-- One command: its calls, and the error of the first of them that failed. -/
theorem run_send (service : Service) (command : Command) (monitor : σ) (trace : Array Event) :
    ∃ (transaction : Transaction) (after : σ), (service.send command).run ⟨monitor, trace⟩ =
      (MonadExcept.ofExcept ((report transaction.answers).mapError serviceError) :
        Firmware (Traced σ) Unit).run
        ⟨after, trace ++ (transaction.events service command).toArray⟩ := by
  obtain ⟨transaction, after, h⟩ := run_transact service command monitor trace
  refine ⟨transaction, after, ?_⟩
  rw [Service.send, run_tryCatch, h]
  cases report transaction.answers <;> rfl

/-- Commands are sent until one does not complete. -/
theorem run_sendAll (service : Service) (commands : List Command) (monitor : σ)
    (trace : Array Event) :
    ∃ (transactions : List Transaction) (after : σ), Sent commands transactions ∧
      (commands.forM service.send).run ⟨monitor, trace⟩ =
        (MonadExcept.ofExcept ((report (transactions.flatMap Transaction.answers)).mapError
          serviceError) : Firmware (Traced σ) Unit).run
          ⟨after, trace ++ (issued service commands transactions).toArray⟩ := by
  induction commands generalizing monitor trace with
  | nil => exact ⟨[], monitor, .done, by simp [issued, report_nil]⟩
  | cons command commands ih =>
    obtain ⟨transaction, before, hs⟩ := run_send service command monitor trace
    cases hr : report transaction.answers with
    | ok =>
      obtain ⟨transactions, after, hn, hl⟩ :=
        ih before (trace ++ (transaction.events service command).toArray)
      refine ⟨transaction :: transactions, after, .next (report_eq_ok_iff.1 hr) hn, ?_⟩
      rw [hr] at hs
      rw [List.forM, EStateM.run_bind, hs, List.flatMap_cons, report_append, hr]
      simpa [issued] using hl
    | error e =>
      have hc : ¬transaction.Complete := by
        intro hc
        rw [report_eq_ok_iff.2 hc] at hr
        cases hr
      refine ⟨[transaction], before, .stopped hc, ?_⟩
      rw [List.forM, EStateM.run_bind, hs]
      simp [issued, hr]

end PlatformFirmware.HotPlug
