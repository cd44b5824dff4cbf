import PlatformFirmware.Proofs.HotPlug.Sending

namespace PlatformFirmware.HotPlug

open SecurePartition

/-- X1 to X5 of the requests that replace the port map. -/
def portMapRequests (entries : List PortMapEntry) : List (List UInt64) :=
  [[5, 0, 0, 0, 0]] ++
    entries.map (fun ⟨slot, port, i2cAddress⟩ =>
      [6, slot.toUInt64,
        port.socket.toUInt64 ||| port.rootComplex.toUInt64 <<< 8 ||| port.rootPort.toUInt64 <<< 16,
        i2cAddress.toUInt64, 0]) ++
    [[7, 0, 0, 0, 0]]

def Command.request (command : Command) : List UInt64 := command.words.rightpad Handle.maxWords 0

def requestWords? : Event → Option (List UInt64)
  | .call request _ =>
    if request.function = Function.request then some (request.registers.toList.take 5) else none
  | _ => none

def requests (events : List Event) : List (List UInt64) := events.filterMap requestWords?

theorem portMap_map_request (entries : List PortMapEntry) :
    (Command.portMap entries).map Command.request = portMapRequests entries := by
  simp only [Command.portMap, List.map_append, List.map_map]
  rfl

theorem length_portMap (entries : List PortMapEntry) :
    (Command.portMap entries).length = entries.length + 2 := by
  simp [Command.portMap]

theorem requestWords?_request (handle : Handle) (command : Command) (answer : SecureCall.Answer) :
    requestWords? (.call (handle.requestCall command.words) answer) = some command.request := by
  cases command <;> rfl

/-- What comes before the lock is no request to lock. -/
theorem request_ne_lock {entries : List PortMapEntry} {command : Command}
    (h : command ∈ [Command.clearPortMap] ++ entries.map Command.setPort) :
    command.request ≠ Command.lockPortMap.request := by
  rcases List.mem_append.1 h with h | h
  · rw [List.mem_singleton.1 h]
    decide
  · obtain ⟨entry, -, rfl⟩ := List.mem_map.1 h
    intro he
    exact absurd (List.head_eq_of_cons_eq he) (by decide)

theorem requests_issued_cons (service : Service) (command : Command) (commands : List Command)
    (transaction : Transaction) (transactions : List Transaction) :
    requests (issued service (command :: commands) (transaction :: transactions)) =
      requests (transaction.events service command) ++
        requests (issued service commands transactions) :=
  List.filterMap_append

theorem requests_issued_singleton (service : Service) (command : Command) (commands : List Command)
    (transaction : Transaction) :
    requests (issued service (command :: commands) [transaction]) =
      requests (transaction.events service command) := by
  simp [issued]

namespace Transaction

variable (service : Service) (command : Command)

theorem requests_served (opened replied closed : SecureCall.Answer) (h : opened.status = 0) :
    requests ((served opened replied closed h).events service command) = [command.request] := by
  have hr := requestWords?_request ⟨service.client, opened.x2.toUInt32, true⟩ command replied
  simp only [requests, events, List.filterMap_cons, hr]
  rfl

theorem requests_prefix_singleton (transaction : Transaction) :
    requests (transaction.events service command) <+: [command.request] := by
  cases transaction with
  | refused opened hn => exact List.nil_prefix
  | served opened replied closed hz =>
    have hr := requests_served service command opened replied closed hz
    exact ⟨[], by rw [hr, List.append_nil]⟩

theorem requests_of_complete {transaction : Transaction} (h : transaction.Complete) :
    requests (transaction.events service command) = [command.request] := by
  cases transaction with
  | refused opened hn => exact absurd (h opened (List.mem_singleton_self _)) hn
  | served opened replied closed hz => exact requests_served service command opened replied closed hz

end Transaction

namespace Sent

variable {commands : List Command} {transactions : List Transaction}

theorem length_le (h : Sent commands transactions) : transactions.length ≤ commands.length := by
  induction h with
  | done => exact Nat.le_refl 0
  | stopped => simp
  | next _ _ ih => simpa using ih

theorem length_pos (h : Sent commands transactions) (hc : 0 < commands.length) :
    0 < transactions.length := by
  cases h with
  | done => exact hc
  | stopped => simp
  | next => simp

/-- A command is started when the one before it was completed, and else not. -/
theorem next_iff (h : Sent commands transactions) {i : Nat} (hi : i + 1 < commands.length) :
    i + 1 < transactions.length ↔ ∃ t, transactions[i]? = some t ∧ t.Complete := by
  induction h generalizing i with
  | done => simp at hi
  | stopped hn =>
    refine ⟨fun hl => by simp at hl, fun ⟨t, ht, hc⟩ => ?_⟩
    cases i with
    | zero =>
      cases ht
      exact absurd hc hn
    | succ i => simp at ht
  | next hc hs ih =>
    cases i with
    | zero =>
      have hp := hs.length_pos (by simpa using hi)
      simpa using ⟨fun _ => hc, fun _ => hp⟩
    | succ i => simpa using ih (by simpa using hi)

theorem length_eq (h : Sent commands transactions) (hc : ∀ t ∈ transactions, t.Complete) :
    transactions.length = commands.length := by
  induction h with
  | done => rfl
  | stopped hn => exact absurd (hc _ (List.mem_singleton_self _)) hn
  | next _ _ ih => simpa using ih fun t ht => hc t (List.mem_cons_of_mem _ ht)

theorem requests_prefix (service : Service) (h : Sent commands transactions) :
    requests (issued service commands transactions) <+: commands.map Command.request := by
  induction h with
  | done => exact List.prefix_refl _
  | @stopped command commands transaction _ =>
    rw [requests_issued_singleton]
    exact (transaction.requests_prefix_singleton service command).trans (List.prefix_append _ _)
  | @next command commands transaction transactions hc _ ih =>
    rw [requests_issued_cons, Transaction.requests_of_complete service command hc, List.map_cons]
    exact (List.prefix_cons_inj _).2 ih

/-- The last command is requested only when those before it completed. -/
theorem complete_of_last_requested (service : Service) {front : List Command} {last : Command}
    (h : Sent (front ++ [last]) transactions)
    (hn : ∀ command ∈ front, command.request ≠ last.request)
    (hl : last.request ∈ requests (issued service (front ++ [last]) transactions)) :
    transactions.length = front.length + 1 ∧ ∀ t ∈ transactions.dropLast, t.Complete := by
  induction front generalizing transactions with
  | nil =>
    cases h with
    | stopped => exact ⟨rfl, nofun⟩
    | next _ hs =>
      cases hs
      exact ⟨rfl, nofun⟩
  | cons command front ih =>
    have hc : command.request ≠ last.request := hn command List.mem_cons_self
    cases h with
    | @stopped _ _ transaction _ =>
      rw [List.cons_append, requests_issued_singleton] at hl
      have hm := (transaction.requests_prefix_singleton service command).mem hl
      exact absurd (List.mem_singleton.1 hm).symm hc
    | @next _ _ transaction transactions ht hs =>
      rw [List.cons_append, requests_issued_cons, Transaction.requests_of_complete service command ht,
        List.mem_append] at hl
      rcases hl with hl | hl
      · exact absurd (List.mem_singleton.1 hl).symm hc
      · obtain ⟨hlen, hd⟩ := ih hs (fun c hm => hn c (List.mem_cons_of_mem _ hm)) hl
        refine ⟨by simp [hlen], ?_⟩
        rw [List.dropLast_cons_of_ne_nil (List.ne_nil_of_length_pos (by omega))]
        exact List.forall_mem_cons.2 ⟨ht, hd⟩

end Sent

theorem serviceError_eq : serviceError = fun e => if e = .notFound then .unsupported else e := by
  funext e
  cases e <;> rfl

/-- Whatever the monitor answers: the calls are transactions of the commands in their order, and the
next one begins when all calls of the last were answered with zero. The lock is requested only after
all else went well, and the first failure is the one that is heard of. -/
theorem portMap_locked_last {σ : Type} [SecureMonitor σ] (service : Service)
    (entries : List PortMapEntry) (monitor : σ) (trace : Array Event) :
    let result := (service.configurePortMap entries).run (⟨monitor, trace⟩ : Traced σ)
    ∃ transactions : List Transaction,
      let calls := issued service (Command.portMap entries) transactions
      (final result).events = trace ++ calls.toArray ∧
      0 < transactions.length ∧ transactions.length ≤ entries.length + 2 ∧
      (∀ i, i + 1 < entries.length + 2 →
        (i + 1 < transactions.length ↔ ∃ t, transactions[i]? = some t ∧ t.Complete)) ∧
      requests calls <+: portMapRequests entries ∧
      ([7, 0, 0, 0, 0] ∈ requests calls →
        transactions.length = entries.length + 2 ∧ ∀ t ∈ transactions.dropLast, t.Complete) ∧
      outcome result = ((report (transactions.flatMap Transaction.answers)).mapError fun e =>
        if e = .notFound then .unsupported else e) ∧
      (outcome result = .ok () ↔
        transactions.length = entries.length + 2 ∧ ∀ t ∈ transactions, t.Complete) := by
  intro result
  obtain ⟨transactions, after, hs, hr⟩ := run_sendAll service (Command.portMap entries) monitor trace
  have hlen := length_portMap entries
  have hout : outcome result =
      (report (transactions.flatMap Transaction.answers)).mapError serviceError :=
    (congrArg outcome hr).trans (outcome_run_ofExcept _ _)
  rw [serviceError_eq] at hout
  have hevents : (final result).events =
      trace ++ (issued service (Command.portMap entries) transactions).toArray := by
    rw [show final result = _ from (congrArg final hr).trans (final_run_ofExcept _ _)]
  refine ⟨transactions, hevents, hs.length_pos (by omega), hlen ▸ hs.length_le,
    fun i hi => hs.next_iff (by omega), ?_, ?_, hout, ?_⟩
  · rw [← portMap_map_request]
    exact hs.requests_prefix service
  · intro hl
    simpa using hs.complete_of_last_requested service (fun _ => request_ne_lock) hl
  · rw [hout, ← hlen, mapError_eq_ok_iff, report_flatMap_eq_ok_iff]
    exact ⟨fun h => ⟨hs.length_eq h, h⟩, And.right⟩

end PlatformFirmware.HotPlug
