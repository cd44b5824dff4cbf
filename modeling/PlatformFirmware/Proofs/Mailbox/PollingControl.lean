import PlatformFirmware.Proofs.Mailbox.Accesses
import PlatformFirmware.Proofs.Mailbox.Exclusion

namespace PlatformFirmware

def Event.register? : Event → Option UInt64
  | .read address _ | .write address _ => some address
  | _ => none

namespace Mailbox

open Traced

namespace Station

section

variable {σ α : Type} {ownership : Ownership} {socket : Nat} {channel : Channel}
  (hs : socket < ownership.config.socketCount)

include hs

theorem run_withHandle_of_taken
    (ht : ownership.taken[Ownership.slot socket channel]? = some true)
    (use : Handle → Firmware σ α) (bus : σ) :
    (withHandle socket channel use).run ⟨ownership, bus⟩ = .error .notReady ⟨ownership, bus⟩ := by
  simp [withHandle, acquire, Ownership.acquire, Config.socketBase, hs, ht]

/-- The doorbell is released however its use ended. -/
theorem run_withHandle_of_free
    (ht : ownership.taken[Ownership.slot socket channel]? = some false)
    (use : Handle → Firmware σ α) (bus : σ) :
    let used := (use ⟨socket, channel, ownership.config.doorbell socket channel⟩).run bus
    (withHandle socket channel use).run ⟨ownership, bus⟩ =
      (MonadExcept.ofExcept (outcome used) : Firmware (Station σ) α).run
        ⟨ownership, final used⟩ := by
  intro used
  have hr : ownership.taken.set (Ownership.slot socket channel) false = ownership.taken := by
    obtain ⟨hl, he⟩ := List.getElem?_eq_some_iff.1 ht
    rw [← he, List.set_getElem_self]
  have hu : (use ⟨socket, channel, .atBase ownership.config channel.index
      (ownership.config.processorBase channel.processor +
        UInt64.ofNat socket * ownership.config.socketStride)⟩).run bus = used := rfl
  simp only [withHandle, acquire, Ownership.acquire, Config.socketBase, EStateM.run_bind,
    EStateM.run_get, EStateM.run_set, EStateM.run_pure, EStateM.run_modify, run_focus, run_ofExcept,
    run_observing, onBus, if_pos hs, ht, hu]
  cases used with
  | ok a after => simp [release, Ownership.release, hr]
  | error e after => simp [release, Ownership.release, hr]

end

end Station

/-- What one socket showed of its doorbell: the status found first, those of the wait, and whether
the message was acknowledged. -/
structure Visit where
  left : UInt32
  seen : List UInt32
  acknowledged : Bool

def visitAccesses (config : Config) (channel : Channel) (message : Message) (sockets : List Nat)
    (visits : List Visit) : List Event :=
  (List.zipWith (fun socket visit => (config.doorbell socket channel).sendAccesses message
    visit.left visit.seen visit.acknowledged) sockets visits).flatten

/-- The visits to the sockets of a list and how they end. Only the last of them may be without an
acknowledge. -/
inductive Visited (held : Nat → Prop) (polls : Nat) :
    List Nat → List Visit → Except Efi.Error Unit → Prop
  | done : Visited held polls [] [] (.ok ())
  | held {socket : Nat} {sockets : List Nat} (h : held socket) :
    Visited held polls (socket :: sockets) [] (.error .notReady)
  | ignored {socket : Nat} {sockets : List Nat} {left : UInt32} {seen : List UInt32}
    (hf : ¬held socket) (hw : Waited Status.acknowledge polls seen false) :
    Visited held polls (socket :: sockets) [⟨left, seen, false⟩] (.error .timeout)
  | next {socket : Nat} {sockets : List Nat} {left : UInt32} {seen : List UInt32}
    {visits : List Visit} {ended : Except Efi.Error Unit} (hf : ¬held socket)
    (hw : Waited Status.acknowledge polls seen true) (h : Visited held polls sockets visits ended) :
    Visited held polls (socket :: sockets) (⟨left, seen, true⟩ :: visits) ended

namespace Visited

variable {held : Nat → Prop} {polls : Nat} {sockets : List Nat} {visits : List Visit}
  {ended : Except Efi.Error Unit} (h : Visited held polls sockets visits ended)

include h

theorem length_le : visits.length ≤ sockets.length := by
  induction h with
  | done | held | ignored => simp
  | next _ _ _ ih => exact Nat.succ_le_succ ih

theorem free : ∀ socket ∈ sockets.take visits.length, ¬held socket := by
  induction h with
  | done | held => simp
  | ignored hf => simpa using hf
  | next hf _ _ ih => simpa using ⟨hf, ih⟩

theorem waited : ∀ visit ∈ visits, Waited Status.acknowledge polls visit.seen visit.acknowledged := by
  induction h with
  | done | held => simp
  | ignored _ hw => simpa using hw
  | next _ hw _ ih => simpa using ⟨hw, ih⟩

theorem acknowledged : ∀ visit ∈ visits.dropLast, visit.acknowledged = true := by
  induction h with
  | done | held | ignored => simp
  | @next _ _ _ _ visits _ _ _ _ ih =>
    cases visits with
    | nil => simp
    | cons visit visits => simpa using ih

theorem ended_cases : ended = .ok () ∨ ended = .error .timeout ∨ ended = .error .notReady := by
  induction h with
  | done => exact .inl rfl
  | held => exact .inr (.inr rfl)
  | ignored => exact .inr (.inl rfl)
  | next _ _ _ ih => exact ih

theorem ok_iff : ended = .ok () ↔
    visits.length = sockets.length ∧ ∀ visit ∈ visits, visit.acknowledged = true := by
  induction h with
  | done | held | ignored => simp
  | next _ _ _ ih => simpa using ih

theorem timeout_iff : ended = .error .timeout ↔ ∃ visit ∈ visits, visit.acknowledged = false := by
  induction h with
  | done | held | ignored => simp
  | next _ _ _ ih => simpa using ih

theorem notReady_iff : ended = .error .notReady ↔
    (∀ visit ∈ visits, visit.acknowledged = true) ∧
      ∃ socket, sockets[visits.length]? = some socket ∧ held socket := by
  induction h with
  | done | ignored => simp
  | held hh => simpa using hh
  | next _ _ _ ih => simpa using ih

end Visited

def pollingMessage (enable : Bool) : Message := ⟨if enable then 0xB1000100 else 0xB1000000, 0, 0⟩

namespace Doorbell

variable {σ : Type} [RegisterBus σ] (doorbell : Doorbell)

theorem setRasPolling_eq (enable : Bool) :
    (doorbell.setRasPolling enable : Firmware σ Unit) = doorbell.send (pollingMessage enable) := by
  have hm : Request.message (.rasPolling enable) = .ok (pollingMessage enable) := by
    cases enable <;> rfl
  rw [setRasPolling, notify, hm]
  rfl

def Contains (address : UInt64) : Prop := address - doorbell.address < stride

omit [RegisterBus σ]

theorem contains_add {offset : UInt64} (h : offset < stride) :
    doorbell.Contains (doorbell.address + offset) := by
  rw [Contains, UInt64.add_comm, UInt64.add_sub_cancel]
  exact h

theorem contains_of_mem_rounds {seen : List UInt32} {address : UInt64}
    (h : address ∈ (doorbell.rounds seen).filterMap Event.register?) : doorbell.Contains address := by
  induction seen with
  | nil => cases h
  | cons status seen ih =>
    rcases List.mem_cons.1 h with rfl | h
    · exact doorbell.contains_add (by decide)
    · exact ih h

theorem contains_of_mem_sendAccesses {message : Message} {left : UInt32} {seen : List UInt32}
    {shown : Bool} {address : UInt64}
    (h : address ∈ (doorbell.sendAccesses message left seen shown).filterMap Event.register?) :
    doorbell.Contains address := by
  have hs : doorbell.Contains (doorbell.address + Register.status) :=
    doorbell.contains_add (by decide)
  simp only [sendAccesses, deliverAccesses, List.filterMap_append, List.mem_append] at h
  rcases h with h | h | h | h | h
  · obtain rfl := List.mem_singleton.1 h
    exact hs
  · split at h
    · obtain rfl := List.mem_singleton.1 h
      exact hs
    · cases h
  · simp only [List.filterMap_cons, List.filterMap_nil, Event.register?, List.mem_cons,
      List.not_mem_nil, or_false] at h
    rcases h with rfl | rfl | rfl
    · exact doorbell.contains_add (by decide)
    · exact doorbell.contains_add (by decide)
    · exact doorbell.contains_add (by decide)
  · exact doorbell.contains_of_mem_rounds h
  · split at h
    · obtain rfl := List.mem_singleton.1 h
      exact hs
    · cases h

end Doorbell

/-- Other than the doorbells of the visits nothing is accessed. -/
theorem contains_of_mem_visitAccesses {config : Config} {channel : Channel} {message : Message}
    {sockets : List Nat} {visits : List Visit} {address : UInt64}
    (h : address ∈ (visitAccesses config channel message sockets visits).filterMap Event.register?) :
    ∃ socket ∈ sockets.take visits.length, (config.doorbell socket channel).Contains address := by
  induction sockets generalizing visits with
  | nil => simp [visitAccesses] at h
  | cons socket sockets ih =>
    cases visits with
    | nil => simp [visitAccesses] at h
    | cons visit visits =>
      rw [visitAccesses, List.zipWith_cons_cons, List.flatten_cons, List.filterMap_append] at h
      rcases List.mem_append.1 h with h | h
      · exact ⟨socket, List.mem_cons_self, Doorbell.contains_of_mem_sendAccesses _ h⟩
      · obtain ⟨other, ho, hc⟩ := ih h
        exact ⟨other, List.mem_cons_of_mem _ ho, hc⟩

namespace Station

variable {σ : Type} [RegisterBus σ] {ownership : Ownership} {channel : Channel}

/-- The sockets of a list are visited in its order, and the ownership stays what it was. -/
theorem run_visits {held : Nat → Prop} [DecidablePred held] (enable : Bool) {sockets : List Nat}
    (h : ∀ socket ∈ sockets, socket < ownership.config.socketCount ∧
      ownership.taken[Ownership.slot socket channel]? = some (decide (held socket)))
    (bus : Traced σ) :
    ∃ (visits : List Visit) (ended : Except Efi.Error Unit) (after : σ),
      Visited held ownership.config.polls sockets visits ended ∧
      (sockets.forM fun socket => withHandle socket channel fun handle =>
        handle.doorbell.setRasPolling enable).run ⟨ownership, bus⟩ =
        (MonadExcept.ofExcept ended : Firmware (Station (Traced σ)) Unit).run
          ⟨ownership, ⟨after, bus.events ++ (visitAccesses ownership.config channel
            (pollingMessage enable) sockets visits).toArray⟩⟩ := by
  induction sockets generalizing bus with
  | nil => exact ⟨[], .ok (), bus.peer, .done, by simp [visitAccesses]⟩
  | cons socket sockets ih =>
    obtain ⟨⟨hs, ht⟩, hl⟩ := List.forall_mem_cons.1 h
    by_cases hh : held socket
    · rw [decide_eq_true hh] at ht
      refine ⟨[], .error .notReady, bus.peer, .held hh, ?_⟩
      rw [List.forM, EStateM.run_bind, run_withHandle_of_taken hs ht]
      simp [visitAccesses]
    · rw [decide_eq_false hh] at ht
      obtain ⟨left, seen, shown, after, hw, hm⟩ :=
        (ownership.config.doorbell socket channel).makes_send (pollingMessage enable) bus.peer
      have hr := hm.run_traced bus.events
      have hv := run_withHandle_of_free hs ht
        (fun handle : Handle => handle.doorbell.setRasPolling enable) bus
      simp only [Doorbell.setRasPolling_eq, hr] at hv
      simp only [List.forM, EStateM.run_bind, Doorbell.setRasPolling_eq, hv]
      cases shown with
      | false =>
        refine ⟨[⟨left, seen, false⟩], .error .timeout, after, .ignored hh hw, ?_⟩
        simp [visitAccesses, attach]
      | true =>
        obtain ⟨visits, ended, last, hn, he⟩ := ih hl
          ⟨after, bus.events ++ ((ownership.config.doorbell socket channel).sendAccesses
            (pollingMessage enable) left seen true).toArray⟩
        refine ⟨⟨left, seen, true⟩ :: visits, ended, last, .next hh hw hn, ?_⟩
        simp only [Doorbell.setRasPolling_eq] at he
        simpa [visitAccesses, attach] using he

end Station

theorem Custody.Accounted.run_setPolling {σ : Type} [RegisterBus σ] {config : Config}
    {bus : Traced σ} {custody : Custody (Traced σ)} (h : custody.Accounted config bus)
    (processor : ManagementProcessor) (enable : Bool) :
    let channel : Channel := ⟨processor, 0, by decide⟩
    ∃ (visits : List Visit) (ended : Except Efi.Error Unit) (after : σ),
      Visited (fun socket => (socket, channel) ∈ custody.places) config.polls
        (List.range config.socketCount) visits ended ∧
      (Station.setPolling processor enable).run custody.station =
        (MonadExcept.ofExcept ended : Firmware (Station (Traced σ)) Unit).run
          ⟨custody.station.ownership, ⟨after, bus.events ++ (visitAccesses config channel
            (pollingMessage enable) (List.range config.socketCount) visits).toArray⟩⟩ := by
  intro channel
  obtain rfl := h.config_eq
  obtain rfl := h.bus_eq
  exact Station.run_visits enable (fun socket hs =>
    ⟨List.mem_range.1 hs, h.taken socket channel (List.mem_range.1 hs)⟩) custody.station.bus

/-- Any doorbells may be taken before, by any acquisitions and releases, and any peer may be behind
the registers. -/
theorem setPolling_in_order {σ : Type} [RegisterBus σ] (config : Config) (bus : Traced σ)
    (operations : List Custody.Operation) (processor : ManagementProcessor) (enable : Bool) :
    let custody := operations.foldl Custody.step (Custody.start config bus)
    let channel : Channel := ⟨processor, 0, by decide⟩
    let result := (Station.setPolling processor enable).run custody.station
    ∃ visits : List Visit,
      let accesses := visitAccesses config channel
        ⟨if enable then 0xB1000100 else 0xB1000000, 0, 0⟩ (List.range config.socketCount) visits
      (∀ socket, (config.doorbell socket channel).address =
        (if processor = .smpro then config.smproBase else config.pmproBase) +
          UInt64.ofNat socket * config.socketStride) ∧
      (final result).bus.events = bus.events ++ accesses.toArray ∧
      visits.length ≤ config.socketCount ∧
      (∀ socket < visits.length, (socket, channel) ∉ custody.places) ∧
      (∀ visit ∈ visits, Waited Status.acknowledge config.polls visit.seen visit.acknowledged) ∧
      (∀ visit ∈ visits.dropLast, visit.acknowledged = true) ∧
      (∀ address ∈ accesses.filterMap Event.register?, ∃ socket < visits.length,
        (config.doorbell socket channel).Contains address) ∧
      (outcome result = .ok () ∨ outcome result = .error .timeout ∨
        outcome result = .error .notReady) ∧
      (outcome result = .ok () ↔
        visits.length = config.socketCount ∧ ∀ visit ∈ visits, visit.acknowledged = true) ∧
      (outcome result = .error .timeout ↔ ∃ visit ∈ visits, visit.acknowledged = false) ∧
      (outcome result = .error .notReady ↔ (∀ visit ∈ visits, visit.acknowledged = true) ∧
        visits.length < config.socketCount ∧ (visits.length, channel) ∈ custody.places) ∧
      (final result).ownership = custody.station.ownership := by
  intro custody channel result
  have hc : custody.Accounted config bus := Custody.accounted_foldl config bus operations
  obtain ⟨visits, ended, after, hv, hrun⟩ := hc.run_setPolling processor enable
  have hf : final result = ⟨custody.station.ownership, after, _⟩ :=
    (congrArg final hrun).trans (final_run_ofExcept ended _)
  have ho : outcome result = ended :=
    (congrArg outcome hrun).trans (outcome_run_ofExcept ended _)
  have hl := hv.length_le
  rw [List.length_range] at hl
  have ht : (List.range config.socketCount).take visits.length = List.range visits.length := by
    rw [List.take_range, Nat.min_eq_left hl]
  refine ⟨visits, ?_⟩
  rw [hf, ho]
  refine ⟨fun socket => ?_, rfl, hl, fun socket hs => ?_, hv.waited, hv.acknowledged, fun address ha => ?_,
    hv.ended_cases, ?_, hv.timeout_iff, ?_, rfl⟩
  · rw [← Config.processorBase_eq]
    simp [Config.doorbell, Doorbell.atBase, Doorbell.blockAddress, channel]
  · exact hv.free socket (ht ▸ List.mem_range.2 hs)
  · obtain ⟨socket, hs, hm⟩ := contains_of_mem_visitAccesses ha
    rw [ht] at hs
    exact ⟨socket, List.mem_range.1 hs, hm⟩
  · rw [hv.ok_iff, List.length_range]
  · rw [hv.notReady_iff]
    refine and_congr_right fun _ => ⟨?_, fun ⟨hs, hh⟩ => ⟨_, List.getElem?_range hs, hh⟩⟩
    rintro ⟨socket, hs, hh⟩
    obtain ⟨hb, rfl⟩ := List.getElem?_eq_some_iff.1 hs
    rw [List.getElem_range] at hh
    rw [List.length_range] at hb
    exact ⟨hb, hh⟩

end Mailbox

end PlatformFirmware
