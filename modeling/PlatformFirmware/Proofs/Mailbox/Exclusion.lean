import PlatformFirmware.Mailbox.Station
import PlatformFirmware.Proofs.Action
import Mathlib.Data.List.Perm.Basic

namespace PlatformFirmware.Mailbox

variable {σ : Type}

def Handle.place (handle : Handle) : Nat × Channel := (handle.socket, handle.channel)

def Config.doorbell (config : Config) (socket : Nat) (channel : Channel) : Doorbell :=
  .atBase config channel.index
    (config.processorBase channel.processor + UInt64.ofNat socket * config.socketStride)

theorem Config.processorBase_eq (config : Config) (processor : ManagementProcessor) :
    config.processorBase processor =
      if processor = .smpro then config.smproBase else config.pmproBase := by
  cases processor <;> rfl

structure Custody (σ : Type) where
  station : Station σ
  live : List Handle := []

namespace Custody

inductive Operation
  | acquire (socket : Nat) (channel : Channel)
  /-- The handle at a position among those in use is dropped. -/
  | drop (position : Nat)

def start (config : Config) (bus : σ) : Custody σ := ⟨⟨.vacant config, bus⟩, []⟩

def acquire (socket : Nat) (channel : Channel) (custody : Custody σ) :
    EStateM.Result Efi.Error (Station σ) Handle :=
  (Station.acquire socket channel).run custody.station

def step (custody : Custody σ) : Operation → Custody σ
  | .acquire socket channel =>
    match custody.acquire socket channel with
    | .ok handle station => ⟨station, handle :: custody.live⟩
    | .error _ station => ⟨station, custody.live⟩
  | .drop position =>
    match custody.live[position]? with
    | none => custody
    | some handle => ⟨custody.station.release handle, custody.live.eraseIdx position⟩

def places (custody : Custody σ) : List (Nat × Channel) := custody.live.map Handle.place

/-- The table of owners agrees with the handles in use. -/
structure Accounted (config : Config) (bus : σ) (custody : Custody σ) : Prop where
  config_eq : custody.station.ownership.config = config
  bus_eq : custody.station.bus = bus
  length_taken :
    custody.station.ownership.taken.length = config.socketCount * Channel.perSocket
  taken (socket : Nat) (channel : Channel) (h : socket < config.socketCount) :
    custody.station.ownership.taken[Ownership.slot socket channel]? =
      some (decide ((socket, channel) ∈ custody.places))
  nodup : custody.places.Nodup
  populated (handle : Handle) (h : handle ∈ custody.live) : handle.socket < config.socketCount
  doorbell (handle : Handle) (h : handle ∈ custody.live) :
    handle.doorbell = config.doorbell handle.socket handle.channel

theorem accounted_start (config : Config) (bus : σ) : (start config bus).Accounted config bus where
  config_eq := rfl
  bus_eq := rfl
  length_taken := List.length_replicate
  taken socket channel h := by
    have hs := Ownership.slot_lt channel h
    simp [start, Ownership.vacant, places, hs]
  nodup := List.nodup_nil
  populated handle h := by cases h
  doorbell handle h := by cases h

section

variable {config : Config} {bus : σ} {custody : Custody σ}

theorem Accounted.acquire_eq (h : custody.Accounted config bus) (socket : Nat)
    (channel : Channel) :
    custody.acquire socket channel =
      if socket < config.socketCount then
        if (socket, channel) ∈ custody.places then .error .notReady custody.station
        else .ok ⟨socket, channel, config.doorbell socket channel⟩
          ⟨⟨config, custody.station.ownership.taken.set (Ownership.slot socket channel) true⟩, bus⟩
      else .error .invalidParameter custody.station := by
  obtain ⟨⟨⟨c, taken⟩, b⟩, live⟩ := custody
  obtain rfl : c = config := h.config_eq
  obtain rfl : b = bus := h.bus_eq
  by_cases hp : socket < c.socketCount
  · have ht := h.taken socket channel hp
    simp only at ht
    simp only [acquire, Station.acquire, Ownership.acquire, Config.socketBase, run_focus,
      EStateM.run_bind, EStateM.run_get, run_ofExcept, if_pos hp, ht]
    by_cases hm : (socket, channel) ∈ places ⟨⟨⟨c, taken⟩, b⟩, live⟩
    · simp [hm]
    · simp only [hm, decide_false, if_false]
      rfl
  · simp [acquire, Station.acquire, Ownership.acquire, Config.socketBase, hp]

/-- A place changes hands and no other slot does. -/
theorem getElem?_set_slot {taken : List Bool} {count socket other : Nat} {channel channel' : Channel}
    (hl : taken.length = count * Channel.perSocket) (hs : socket < count) (owned : Bool) :
    (taken.set (Ownership.slot socket channel) owned)[Ownership.slot other channel']? =
      if (other, channel') = (socket, channel) then some owned
      else taken[Ownership.slot other channel']? := by
  by_cases he : (other, channel') = (socket, channel)
  · obtain ⟨rfl, rfl⟩ := Prod.mk.inj he
    have hb := Ownership.slot_lt channel' hs
    rw [← hl] at hb
    rw [if_pos rfl, List.getElem?_set_self hb]
  · rw [if_neg he, List.getElem?_set_ne]
    intro hc
    obtain ⟨rfl, rfl⟩ := Ownership.slot_injective hc
    exact he rfl

theorem Accounted.granted (h : custody.Accounted config bus) {socket : Nat} {channel : Channel}
    (hs : socket < config.socketCount) (hn : (socket, channel) ∉ custody.places) :
    (Custody.mk
      ⟨⟨config, custody.station.ownership.taken.set (Ownership.slot socket channel) true⟩, bus⟩
      (⟨socket, channel, config.doorbell socket channel⟩ :: custody.live)).Accounted config bus where
  config_eq := rfl
  bus_eq := rfl
  length_taken := by rw [List.length_set, h.length_taken]
  taken other channel' ho := by
    rw [getElem?_set_slot h.length_taken hs, h.taken other channel' ho]
    by_cases he : (other, channel') = (socket, channel)
    · simp [places, Handle.place, he]
    · simp [places, Handle.place, he]
  nodup := List.nodup_cons.2 ⟨hn, h.nodup⟩
  populated handle hm := by
    rcases List.mem_cons.1 hm with rfl | hm
    · exact hs
    · exact h.populated handle hm
  doorbell handle hm := by
    rcases List.mem_cons.1 hm with rfl | hm
    · rfl
    · exact h.doorbell handle hm

theorem perm_eraseIdx {live : List Handle} {position : Nat} {handle : Handle}
    (hp : live[position]? = some handle) : (handle :: live.eraseIdx position).Perm live := by
  obtain ⟨hl, rfl⟩ := List.getElem?_eq_some_iff.1 hp
  exact List.getElem_cons_eraseIdx_perm hl

theorem step_drop {position : Nat} {handle : Handle}
    (hp : custody.live[position]? = some handle) :
    custody.step (.drop position) =
      ⟨custody.station.release handle, custody.live.eraseIdx position⟩ := by
  rw [step, hp]

/-- As no other handle is for the same doorbell, dropping one gives up its place and no other. -/
theorem Accounted.mem_places_drop (h : custody.Accounted config bus) {position : Nat}
    {handle : Handle} (hp : custody.live[position]? = some handle) (place : Nat × Channel) :
    place ∈ (custody.step (.drop position)).places ↔
      place ∈ custody.places ∧ place ≠ handle.place := by
  have hm : (handle.place :: (custody.live.eraseIdx position).map Handle.place).Perm
      custody.places := (perm_eraseIdx hp).map Handle.place
  have hn := List.nodup_cons.1 (hm.nodup_iff.2 h.nodup)
  rw [step_drop hp, ← hm.mem_iff]
  constructor
  · intro hl
    refine ⟨List.mem_cons_of_mem _ hl, ?_⟩
    rintro rfl
    exact hn.1 hl
  · rintro ⟨hl, hne⟩
    exact (List.mem_cons.1 hl).resolve_left hne

theorem Accounted.dropped (h : custody.Accounted config bus) {position : Nat} {handle : Handle}
    (hp : custody.live[position]? = some handle) :
    (custody.step (.drop position)).Accounted config bus := by
  have hk := perm_eraseIdx hp
  have hi : handle ∈ custody.live := hk.mem_iff.1 List.mem_cons_self
  have hs {other : Handle} (ho : other ∈ custody.live.eraseIdx position) : other ∈ custody.live :=
    hk.mem_iff.1 (List.mem_cons_of_mem _ ho)
  have hm := h.mem_places_drop hp
  rw [step_drop hp] at hm ⊢
  refine ⟨h.config_eq, h.bus_eq, ?_, ?_, ?_, fun other ho => h.populated other (hs ho),
    fun other ho => h.doorbell other (hs ho)⟩
  · exact List.length_set.trans h.length_taken
  · intro other channel ho
    refine (getElem?_set_slot h.length_taken (h.populated handle hi) false).trans ?_
    rw [h.taken other channel ho]
    change (if (other, channel) = handle.place then _ else _) = _
    by_cases he : (other, channel) = handle.place
    · rw [if_pos he, decide_eq_false fun hc => ((hm _).1 hc).2 he]
    · rw [if_neg he]
      exact congrArg some (decide_eq_decide.2 ⟨fun hc => (hm _).2 ⟨hc, he⟩, fun hc => ((hm _).1 hc).1⟩)
  · exact ((hk.map Handle.place).nodup_iff.2 h.nodup).of_cons

theorem Accounted.step (h : custody.Accounted config bus) (operation : Operation) :
    (custody.step operation).Accounted config bus := by
  cases operation with
  | acquire socket channel =>
    rw [Custody.step, h.acquire_eq]
    by_cases hs : socket < config.socketCount
    · by_cases hm : (socket, channel) ∈ custody.places
      · rw [if_pos hs, if_pos hm]
        exact h
      · rw [if_pos hs, if_neg hm]
        exact h.granted hs hm
    · rw [if_neg hs]
      exact h
  | drop position =>
    cases hp : custody.live[position]? with
    | none =>
      rw [Custody.step, hp]
      exact h
    | some handle => exact h.dropped hp

theorem Accounted.outcome_acquire (h : custody.Accounted config bus) (socket : Nat)
    (channel : Channel) :
    (outcome (custody.acquire socket channel) = .error .invalidParameter ↔
      config.socketCount ≤ socket) ∧
    (outcome (custody.acquire socket channel) = .error .notReady ↔
      socket < config.socketCount ∧ (socket, channel) ∈ custody.places) ∧
    (socket < config.socketCount → (socket, channel) ∉ custody.places →
      outcome (custody.acquire socket channel) =
        .ok ⟨socket, channel, config.doorbell socket channel⟩) := by
  rw [h.acquire_eq]
  by_cases hs : socket < config.socketCount
  · by_cases hm : (socket, channel) ∈ custody.places
    · simp [hs, hm]
    · simp [hs, hm]
  · have hl : config.socketCount ≤ socket := Nat.le_of_not_lt hs
    simp [hs, hl]

theorem Accounted.bus_acquire (h : custody.Accounted config bus) (socket : Nat)
    (channel : Channel) : (final (custody.acquire socket channel)).bus = bus := by
  rw [h.acquire_eq]
  by_cases hs : socket < config.socketCount
  · by_cases hm : (socket, channel) ∈ custody.places
    · simp [hs, hm, h.bus_eq]
    · simp [hs, hm]
  · simp [hs, h.bus_eq]

/-- The doorbell of a dropped handle can be had again. -/
theorem Accounted.reacquire (h : custody.Accounted config bus) {position : Nat} {handle : Handle}
    (hp : custody.live[position]? = some handle) :
    outcome ((custody.step (.drop position)).acquire handle.socket handle.channel) =
      .ok ⟨handle.socket, handle.channel, config.doorbell handle.socket handle.channel⟩ := by
  have hs : handle.socket < config.socketCount := h.populated handle (List.mem_of_getElem? hp)
  have hn : (handle.socket, handle.channel) ∉ (custody.step (.drop position)).places :=
    fun hc => ((h.mem_places_drop hp _).1 hc).2 rfl
  exact ((h.dropped hp).outcome_acquire handle.socket handle.channel).2.2 hs hn

theorem Accounted.acquire_other (h : custody.Accounted config bus) {position : Nat}
    {handle : Handle} (hp : custody.live[position]? = some handle) {socket : Nat}
    {channel : Channel} (hne : (socket, channel) ≠ handle.place) :
    outcome ((custody.step (.drop position)).acquire socket channel) =
      outcome (custody.acquire socket channel) := by
  have hm := h.mem_places_drop hp (socket, channel)
  rw [(h.dropped hp).acquire_eq, h.acquire_eq]
  by_cases hs : socket < config.socketCount
  · by_cases hc : (socket, channel) ∈ custody.places
    · simp [hs, hc, hm.2 ⟨hc, hne⟩]
    · simp [hs, hc, mt hm.1 fun hd => hc hd.1]
  · simp [hs]

end

theorem accounted_foldl (config : Config) (bus : σ) (operations : List Operation) :
    (operations.foldl step (start config bus)).Accounted config bus := by
  suffices h : ∀ custody : Custody σ, custody.Accounted config bus →
      (operations.foldl step custody).Accounted config bus from h _ (accounted_start config bus)
  induction operations with
  | nil => exact fun _ h => h
  | cons operation operations ih => exact fun custody h => ih _ (h.step operation)

/-- In every state that acquisitions and drops lead to. The bus stays as it is, with its clock and
with all that was done to it where it keeps a trace; no two doorbells share a slot of the table. -/
theorem held_exclusively (config : Config) (bus : σ) (operations : List Operation) :
    let custody := operations.foldl step (start config bus)
    custody.places.Nodup ∧ custody.station.bus = bus ∧
    (∀ socket channel, let result := custody.acquire socket channel
      (outcome result = .error .invalidParameter ↔ config.socketCount ≤ socket) ∧
      (outcome result = .error .notReady ↔
        socket < config.socketCount ∧ (socket, channel) ∈ custody.places) ∧
      (socket < config.socketCount → (socket, channel) ∉ custody.places →
        outcome result = .ok ⟨socket, channel, .atBase config channel.index
          ((if channel.processor = .smpro then config.smproBase else config.pmproBase) +
            UInt64.ofNat socket * config.socketStride)⟩) ∧
      (final result).bus = bus) ∧
    (∀ position handle, custody.live[position]? = some handle →
      let dropped := custody.step (.drop position)
      outcome (dropped.acquire handle.socket handle.channel) =
        .ok ⟨handle.socket, handle.channel, config.doorbell handle.socket handle.channel⟩ ∧
      ∀ socket channel, (socket, channel) ≠ handle.place →
        outcome (dropped.acquire socket channel) = outcome (custody.acquire socket channel)) ∧
    (∀ socket channel, socket < config.socketCount →
      Ownership.slot socket channel < custody.station.ownership.taken.length) ∧
    ∀ socket channel other channel', Ownership.slot socket channel = Ownership.slot other channel' →
      (socket, channel) = (other, channel') := by
  intro custody
  have h : custody.Accounted config bus := accounted_foldl config bus operations
  refine ⟨h.nodup, h.bus_eq, ?_, ?_, ?_, ?_⟩
  · intro socket channel result
    obtain ⟨hrefused, hbusy, hgranted⟩ := h.outcome_acquire socket channel
    rw [← Config.processorBase_eq]
    exact ⟨hrefused, hbusy, hgranted, h.bus_acquire socket channel⟩
  · intro position handle hp dropped
    exact ⟨h.reacquire hp, fun socket channel hne => h.acquire_other hp hne⟩
  · intro socket channel hs
    rw [h.length_taken]
    exact Ownership.slot_lt channel hs
  · intro socket channel other channel' he
    obtain ⟨rfl, rfl⟩ := Ownership.slot_injective he
    rfl

end Custody

end PlatformFirmware.Mailbox
