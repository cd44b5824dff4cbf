import PlatformFirmware.Proofs.Mailbox.Confinement
import PlatformFirmware.Proofs.Mailbox.Exclusion

namespace PlatformFirmware.Mailbox

inductive Use
  | send (message : Message)
  | receive
  | exchange (request : Message)
  | unmask
  | queryRegister (address : UInt32)
  | setRegister (address value : UInt32)
  | readI2c (transfer : I2cTransfer) (register : UInt32)
  | writeI2c (transfer : I2cTransfer) (register data : UInt32)
  | reportBoot (stage : BootStage) (status : BootStatus) (checkpoint : UInt32)
  | randomNumber
  | setConfiguration (item : UInt8) (value : UInt32)
  | setRasPolling (enable : Bool)

inductive Reply
  | done
  | message (received : Message)
  | word (value : UInt32)
  | number (value : UInt64)
  deriving DecidableEq

def Use.perform {σ : Type} [RegisterBus σ] (doorbell : Doorbell) : Use → Firmware σ Reply
  | send message => do
    doorbell.send message
    return .done
  | receive => return .message (← doorbell.receive)
  | exchange request => return .message (← doorbell.exchange request)
  | unmask => do
    doorbell.unmask
    return .done
  | queryRegister address => return .word (← doorbell.queryRegister address)
  | setRegister address value => do
    doorbell.setRegister address value
    return .done
  | readI2c transfer register => return .word (← doorbell.readI2c transfer register)
  | writeI2c transfer register data => do
    doorbell.writeI2c transfer register data
    return .done
  | reportBoot stage status checkpoint => do
    doorbell.reportBoot stage status checkpoint
    return .done
  | randomNumber => return .number (← doorbell.randomNumber)
  | setConfiguration item value => do
    doorbell.setConfiguration item value
    return .done
  | setRasPolling enable => do
    doorbell.setRasPolling enable
    return .done

namespace Config

structure Aligned (config : Config) : Prop where
  smpro : 0x1000 ∣ config.smproBase.toNat
  pmpro : 0x1000 ∣ config.pmproBase.toNat
  stride : 0x1000 ∣ config.socketStride.toNat

theorem Aligned.address {config : Config} (h : config.Aligned) (socket : Nat) (channel : Channel) :
    0x1000 ∣ (config.doorbell socket channel).address.toNat := by
  have hb : 0x1000 ∣ (config.processorBase channel.processor).toNat := by
    cases channel.processor with
    | smpro => exact h.smpro
    | pmpro => exact h.pmpro
  have hw : 0x1000 ∣ 2 ^ 64 := by decide
  have hs : 0x1000 ∣ (UInt64.ofNat socket * config.socketStride).toNat := by
    rw [UInt64.toNat_mul]
    exact (Nat.dvd_mod_iff hw).2 (Nat.dvd_mul_left_of_dvd h.stride _)
  have hi : 0x1000 ∣ (UInt64.ofNat channel.index * Doorbell.stride).toNat := by
    rw [UInt64.toNat_mul]
    exact (Nat.dvd_mod_iff hw).2 (Nat.dvd_mul_left _ _)
  change 0x1000 ∣ (config.processorBase channel.processor + UInt64.ofNat socket *
    config.socketStride + UInt64.ofNat channel.index * Doorbell.stride).toNat
  rw [UInt64.toNat_add, UInt64.toNat_add]
  exact (Nat.dvd_mod_iff hw).2 (Nat.dvd_add ((Nat.dvd_mod_iff hw).2 (Nat.dvd_add hb hs)) hi)

theorem toNat_doorbell_default {socket : Nat} (hs : socket < 2) (channel : Channel) :
    (({} : Config).doorbell socket channel).address.toNat =
      (({} : Config).processorBase channel.processor).toNat + socket * 0x400000000000 +
        channel.index * 0x1000 := by
  obtain ⟨processor, index, hi⟩ := channel
  have hp : (({} : Config).processorBase processor).toNat ≤ 0x100001540000 := by
    cases processor <;> decide
  have hn : (UInt64.ofNat socket).toNat = socket :=
    UInt64.toNat_ofNat_of_lt' (Nat.lt_trans hs (by decide))
  have hx : (UInt64.ofNat index).toNat = index :=
    UInt64.toNat_ofNat_of_lt' (Nat.lt_trans hi (by decide))
  have hd : ({} : Config).socketStride.toNat = 0x400000000000 := rfl
  have hb : Doorbell.stride.toNat = 0x1000 := rfl
  change (({} : Config).processorBase processor + UInt64.ofNat socket *
    ({} : Config).socketStride + UInt64.ofNat index * Doorbell.stride).toNat = _
  simp only [UInt64.toNat_add, UInt64.toNat_mul, hn, hx, hd, hb]
  simp only [Doorbell.perProcessor] at hi
  omega

/-- The doorbells of a board as it comes have register blocks of their own. -/
theorem address_default_injective {socket other : Nat} (hs : socket < 2) (ho : other < 2)
    {channel channel' : Channel}
    (h : (({} : Config).doorbell socket channel).address =
      (({} : Config).doorbell other channel').address) :
    (socket, channel) = (other, channel') := by
  have hn := congrArg UInt64.toNat h
  rw [toNat_doorbell_default hs, toNat_doorbell_default ho] at hn
  obtain ⟨processor, index, hi⟩ := channel
  obtain ⟨processor', index', hi'⟩ := channel'
  have h0 : (({} : Config).processorBase .smpro).toNat = 0x100000540000 := rfl
  have h1 : (({} : Config).processorBase .pmpro).toNat = 0x100001540000 := rfl
  simp only [Doorbell.perProcessor] at hi hi'
  cases processor <;> cases processor' <;> simp only [h0, h1] at hn
  · obtain ⟨rfl, rfl⟩ : socket = other ∧ index = index' := by omega
    rfl
  · omega
  · omega
  · obtain ⟨rfl, rfl⟩ : socket = other ∧ index = index' := by omega
    rfl

end Config

end PlatformFirmware.Mailbox

namespace PlatformFirmware.Simulation

open Mailbox

theorem keepsTo_perform {doorbell : Doorbell}
    (ha : DoorbellPeer.block doorbell.address = doorbell.address) (use : Use) :
    KeepsTo doorbell.address (use.perform doorbell) := by
  cases use with
  | send message => exact (keepsTo_send ha message).bind fun _ => .pure _
  | receive => exact (keepsTo_receive ha).bind fun _ => .pure _
  | exchange request => exact (keepsTo_exchange ha request).bind fun _ => .pure _
  | unmask => exact (keepsTo_unmask ha).bind fun _ => .pure _
  | queryRegister address =>
    exact ((keepsTo_query ha (.readRegister address)).bind fun _ => .pure _).bind fun _ => .pure _
  | readI2c transfer register =>
    exact ((keepsTo_query ha (.readI2c transfer register)).bind fun _ => .pure _).bind
      fun _ => .pure _
  | randomNumber =>
    exact ((keepsTo_query ha .randomNumber).bind fun _ => .pure _).bind fun _ => .pure _
  | setRegister | writeI2c | reportBoot | setConfiguration | setRasPolling =>
    exact (keepsTo_notify ha _).bind fun _ => .pure _

def useAll : List (Handle × Use) → DoorbellPeer →
    List (Handle × Except Efi.Error Reply) × DoorbellPeer
  | [], peer => ([], peer)
  | (handle, use) :: later, peer =>
    let result := (use.perform handle.doorbell).run peer
    let (ended, last) := useAll later (final result)
    ((handle, outcome result) :: ended, last)

/-- From peers that are alike at a block, the uses of its handle alone and those among uses of other
blocks come to the same. -/
theorem useAll_alike {handle : Handle} (ha : DoorbellPeer.block handle.doorbell.address =
      handle.doorbell.address) {steps : List (Handle × Use)}
    (hs : ∀ step ∈ steps, step.1 = handle ∨
      DoorbellPeer.block step.1.doorbell.address = step.1.doorbell.address ∧
        handle.doorbell.address ≠ step.1.doorbell.address)
    {p q : DoorbellPeer} (hpq : AlikeAt handle.doorbell.address p q) :
    (useAll steps p).1.filter (·.1 = handle) = (useAll (steps.filter (·.1 = handle)) q).1 ∧
      AlikeAt handle.doorbell.address (useAll steps p).2 (useAll (steps.filter (·.1 = handle)) q).2 := by
  induction steps generalizing p q with
  | nil => exact ⟨rfl, hpq⟩
  | cons step steps ih =>
    obtain ⟨holder, use⟩ := step
    have hl := fun step hm => hs step (List.mem_cons_of_mem _ hm)
    by_cases hh : holder = handle
    · subst hh
      obtain ⟨ho, hf⟩ := (keepsTo_perform ha use).alike hpq
      obtain ⟨hr, hp⟩ := ih hl hf
      simp only [useAll, List.filter_cons_of_pos, decide_true]
      rw [hr, ho]
      exact ⟨rfl, hp⟩
    · obtain ⟨hb, hn⟩ := (hs (holder, use) List.mem_cons_self).resolve_left hh
      have hf := ((keepsTo_perform hb use).apart hn p).symm.trans hpq
      obtain ⟨hr, hp⟩ := ih hl hf
      simp only [useAll, List.filter_cons, hh, decide_false]
      exact ⟨hr, hp⟩

theorem block_eq_of_dvd {a : UInt64} (h : 0x1000 ∣ a.toNat) : DoorbellPeer.block a = a := by
  apply UInt64.toNat_inj.1
  rw [DoorbellPeer.toNat_block]
  omega

/-- Two handles of one platform, used in any order. On the board as it comes, different doorbells
are in different blocks. -/
theorem interleaved_eq_alone (config : Config) (ha : config.Aligned)
    (operations : List Custody.Operation) (peer : DoorbellPeer) {first second : Handle}
    (hf : first ∈ (operations.foldl Custody.step (Custody.start config peer)).live)
    (hs : second ∈ (operations.foldl Custody.step (Custody.start config peer)).live)
    (steps : List (Handle × Use)) (ht : ∀ step ∈ steps, step.1 = first ∨ step.1 = second) :
    (config = {} → first.place ≠ second.place →
      first.doorbell.address ≠ second.doorbell.address) ∧
    (first.doorbell.address ≠ second.doorbell.address →
      ∀ handle, handle = first ∨ handle = second →
        let together := useAll steps peer
        let alone := useAll (steps.filter (·.1 = handle)) peer
        together.1.filter (·.1 = handle) = alone.1 ∧
        (∀ address, DoorbellPeer.block address = handle.doorbell.address →
          together.2.register address = alone.2.register address) ∧
        together.2.pendingAt handle.doorbell.address =
          alone.2.pendingAt handle.doorbell.address) := by
  have hc := Custody.accounted_foldl config peer operations
  have hb {handle : Handle}
      (h : handle ∈ (operations.foldl Custody.step (Custody.start config peer)).live) :
      DoorbellPeer.block handle.doorbell.address = handle.doorbell.address := by
    rw [hc.doorbell handle h]
    exact block_eq_of_dvd (ha.address handle.socket handle.channel)
  constructor
  · rintro rfl hne he
    rw [hc.doorbell first hf, hc.doorbell second hs] at he
    exact hne (Config.address_default_injective (hc.populated first hf) (hc.populated second hs) he)
  · intro hne handle hh together alone
    have hsteps : ∀ step ∈ steps, step.1 = handle ∨
        DoorbellPeer.block step.1.doorbell.address = step.1.doorbell.address ∧
          handle.doorbell.address ≠ step.1.doorbell.address := by
      intro step hm
      rcases hh with rfl | rfl <;> rcases ht step hm with he | he <;> rw [he]
      · exact .inl rfl
      · exact .inr ⟨hb hs, hne⟩
      · exact .inr ⟨hb hf, hne.symm⟩
      · exact .inl rfl
    have hab : DoorbellPeer.block handle.doorbell.address = handle.doorbell.address := by
      rcases hh with rfl | rfl
      · exact hb hf
      · exact hb hs
    obtain ⟨hr, hp⟩ := useAll_alike hab hsteps (.refl _ peer)
    exact ⟨hr, hp.register, hp.pending⟩

def twoSockets : Config := { timeout := 3000 }

def nearChannel : Channel := ⟨.smpro, 2, by decide⟩

def farChannel : Channel := ⟨.pmpro, 3, by decide⟩

def near : Handle := ⟨0, nearChannel, twoSockets.doorbell 0 nearChannel⟩

def far : Handle := ⟨1, farChannel, twoSockets.doorbell 1 farChannel⟩

def usesInTurn : List (Handle × Use) :=
  [(near, .send ⟨0x67000100, 1, 2⟩), (far, .exchange ⟨0x01000000, 3, 4⟩), (near, .receive),
    (far, .unmask), (near, .queryRegister 0x1000)]

def mirrorPeer : DoorbellPeer := (DoorbellPeer.acknowledgeOn 2 {}).respondWith id

theorem interleaved_eq_alone_far :
    twoSockets.Aligned ∧ near.doorbell.address ≠ far.doorbell.address ∧
      (useAll usesInTurn mirrorPeer).1.filter (·.1 = far) =
        (useAll [(far, .exchange ⟨0x01000000, 3, 4⟩), (far, .unmask)] mirrorPeer).1 := by
  have ha : twoSockets.Aligned := ⟨by decide, by decide, by decide⟩
  have hne : near.doorbell.address ≠ far.doorbell.address := by decide
  have hn : near ∈ ([.acquire 0 nearChannel, .acquire 1 farChannel].foldl Custody.step
      (Custody.start twoSockets mirrorPeer)).live := .tail _ (.head _)
  have hf : far ∈ ([.acquire 0 nearChannel, .acquire 1 farChannel].foldl Custody.step
      (Custody.start twoSockets mirrorPeer)).live := .head _
  have ht : ∀ step ∈ usesInTurn, step.1 = near ∨ step.1 = far := by decide
  exact ⟨ha, hne, ((interleaved_eq_alone twoSockets ha _ mirrorPeer hn hf usesInTurn ht).2 hne far
    (.inr rfl)).1⟩

end PlatformFirmware.Simulation
