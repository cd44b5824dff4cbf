import PlatformFirmware.Mailbox.Service
import PlatformFirmware.Proofs.Mailbox.Accesses
import PlatformFirmware.Proofs.Mailbox.Block

namespace PlatformFirmware.Simulation

open Mailbox

/-- Two peers that hold the same in one block and treat messages alike. Their clocks may differ. -/
structure AlikeAt (a : UInt64) (p q : DoorbellPeer) : Prop where
  register (address : UInt64) (h : DoorbellPeer.block address = a) :
    p.register address = q.register address
  pending : p.pendingAt a = q.pendingAt a
  acknowledgeAfter : p.acknowledgeAfter = q.acknowledgeAfter
  responder : p.responder = q.responder

namespace AlikeAt

variable {a : UInt64} {p q r : DoorbellPeer}

theorem refl (a : UInt64) (p : DoorbellPeer) : AlikeAt a p p := ⟨fun _ _ => rfl, rfl, rfl, rfl⟩

theorem symm (h : AlikeAt a p q) : AlikeAt a q p :=
  ⟨fun address ha => (h.register address ha).symm, h.pending.symm, h.acknowledgeAfter.symm,
    h.responder.symm⟩

theorem trans (h : AlikeAt a p q) (h' : AlikeAt a q r) : AlikeAt a p r :=
  ⟨fun address ha => (h.register address ha).trans (h'.register address ha),
    h.pending.trans h'.pending, h.acknowledgeAfter.trans h'.acknowledgeAfter,
    h.responder.trans h'.responder⟩

end AlikeAt

structure Confined (b : UInt64) (change : DoorbellPeer → DoorbellPeer) : Prop where
  alike {p q : DoorbellPeer} (h : AlikeAt b p q) : AlikeAt b (change p) (change q)
  apart {a : UInt64} (h : a ≠ b) (p : DoorbellPeer) : AlikeAt a p (change p)

namespace Confined

variable {b : UInt64} {change later : DoorbellPeer → DoorbellPeer}

theorem id (b : UInt64) : Confined b fun peer => peer := ⟨fun h => h, fun _ p => .refl _ p⟩

theorem comp (h : Confined b change) (h' : Confined b later) :
    Confined b fun peer => later (change peer) :=
  ⟨fun ha => h'.alike (h.alike ha), fun hn p => (h.apart hn p).trans (h'.apart hn (change p))⟩

theorem ite (c : Prop) [Decidable c] (h : Confined b change) (h' : Confined b later) :
    Confined b fun peer => if c then change peer else later peer := by
  by_cases hc : c
  · simpa only [if_pos hc] using h
  · simpa only [if_neg hc] using h'

/-- A change that looks at its block first. -/
theorem of_view {β : Type} (view : DoorbellPeer → β) (change : β → DoorbellPeer → DoorbellPeer)
    (hv : ∀ {p q}, AlikeAt b p q → view p = view q) (hc : ∀ seen, Confined b (change seen)) :
    Confined b fun peer => change (view peer) peer := by
  refine ⟨fun {p q} h => ?_, fun hn p => (hc (view p)).apart hn p⟩
  rw [hv h]
  exact (hc (view q)).alike h

end Confined

namespace DoorbellPeer

variable {b : UInt64}

theorem block_block (address : UInt64) : block (block address) = block address := by
  apply UInt64.toNat_inj.1
  rw [toNat_block, toNat_block]
  omega

theorem confined_setRegister {address : UInt64} (h : block address = b) (value : UInt32) :
    Confined b (setRegister address value) := by
  constructor
  · intro p q hpq
    refine ⟨fun other ho => ?_, hpq.pending, hpq.acknowledgeAfter, hpq.responder⟩
    rw [register_setRegister, register_setRegister, hpq.register other ho]
  · intro a hn p
    refine ⟨fun other ho => ?_, rfl, rfl, rfl⟩
    rw [register_setRegister, if_neg]
    rintro rfl
    exact hn (ho.symm.trans h)

theorem confined_setPending (b : UInt64) (pending : Pending) :
    Confined b (setPending b pending) := by
  have hg (peer : DoorbellPeer) (a : UInt64) : (peer.setPending b pending).pendingAt a =
      if a = b then pending else peer.pendingAt a :=
    peer.pending.getD_insert b a pending {}
  constructor
  · intro p q hpq
    refine ⟨hpq.register, ?_, hpq.acknowledgeAfter, hpq.responder⟩
    rw [hg, hg, if_pos rfl, if_pos rfl]
  · intro a hn p
    refine ⟨fun _ _ => rfl, ?_, rfl, rfl⟩
    rw [hg, if_neg hn]

section

variable (hb : block b = b)

include hb

theorem confined_raise (bit : UInt32) : Confined b (raise b bit) := by
  have hs : block (b + Register.status) = b := block_add hb (by decide)
  exact .of_view (register · (b + Register.status))
    (fun status => setRegister (b + Register.status) (status ||| bit)) (fun h => h.register _ hs)
    (fun status => confined_setRegister hs (status ||| bit))

theorem confined_placeResponse (message : Message) : Confined b (placeResponse b message) := by
  have h0 : block (b + Register.parameter0Out) = b := block_add hb (by decide)
  have h1 : block (b + Register.parameter1Out) = b := block_add hb (by decide)
  have hc : block (b + Register.commandOut) = b := block_add hb (by decide)
  exact ((confined_setRegister h0 message.parameter0).comp
    (confined_setRegister h1 message.parameter1)).comp (confined_setRegister hc message.command)

theorem lastRequest_eq {p q : DoorbellPeer} (h : AlikeAt b p q) :
    p.lastRequest b = q.lastRequest b := by
  rw [lastRequest, lastRequest, h.register _ (block_add hb (by decide)),
    h.register _ (block_add hb (by decide)), h.register _ (block_add hb (by decide))]

theorem confined_answer (respond : Message → Message) :
    Confined b fun peer => (peer.placeResponse b (respond (peer.lastRequest b))).raise b
      Status.available :=
  (Confined.of_view (lastRequest · b) (fun request => placeResponse b (respond request))
    (lastRequest_eq hb) (fun request => confined_placeResponse hb (respond request))).comp
    (confined_raise hb Status.available)

theorem confined_acknowledge : Confined b (acknowledge b) := by
  have hr := confined_raise hb Status.acknowledge
  constructor
  · intro p q h
    have ha := hr.alike h
    rw [acknowledge, acknowledge, ha.responder]
    cases (q.raise b Status.acknowledge).responder with
    | none => exact ha
    | some respond => exact (confined_answer hb respond).alike ha
  · intro a hn p
    have ha := hr.apart hn p
    rw [acknowledge]
    cases (p.raise b Status.acknowledge).responder with
    | none => exact ha
    | some respond => exact ha.trans ((confined_answer hb respond).apart hn _)

theorem confined_onStatusRead : Confined b (onStatusRead b) :=
  .of_view (pendingAt · b) (fun pending peer =>
    let acknowledge := countDown pending.acknowledge
    let available := countDown pending.available
    let counted := peer.setPending b ⟨acknowledge.1, available.1⟩
    let acknowledged := if acknowledge.2 then counted.acknowledge b else counted
    if available.2 then acknowledged.raise b Status.available else acknowledged)
    AlikeAt.pending fun pending =>
      ((confined_setPending b _).comp (.ite ((countDown pending.acknowledge).2 = true)
        (confined_acknowledge hb) (.id b))).comp (.ite ((countDown pending.available).2 = true)
          (confined_raise hb Status.available) (.id b))

end

variable {address : UInt64}

theorem confined_read (h : block address = b) : Confined b fun peer => (peer.read address).2 := by
  have hb : block b = b := h ▸ block_block address
  subst h
  exact .ite _ (confined_onStatusRead hb) (.id _)

theorem read_eq {p q : DoorbellPeer} (h : AlikeAt (block address) p q) :
    (p.read address).1 = (q.read address).1 :=
  ((confined_read rfl).alike h).register address rfl

theorem confined_write (h : block address = b) (value : UInt32) :
    Confined b (write address value) := by
  subst h
  have hw : Confined (block address) fun peer => { peer with writes := peer.writes + 1 } :=
    ⟨fun ha => ⟨ha.register, ha.pending, ha.acknowledgeAfter, ha.responder⟩,
      fun _ _ => ⟨fun _ _ => rfl, rfl, rfl, rfl⟩⟩
  have hc : Confined (block address) fun peer =>
      peer.setRegister address (peer.register address &&& ~~~value) :=
    .of_view (register · address) (fun seen => setRegister address (seen &&& ~~~value))
      (fun ha => ha.register address rfl) (fun _ => confined_setRegister rfl _)
  have hs : Confined (block address) fun peer => (peer.setRegister address value).setPending
      (block address) { peer.pendingAt (block address) with
        acknowledge := peer.acknowledgeAfter } :=
    .of_view (fun peer => (⟨peer.acknowledgeAfter, (peer.pendingAt (block address)).available⟩ :
        Pending))
      (fun pending peer => (peer.setRegister address value).setPending (block address) pending)
      (fun ha => by rw [ha.acknowledgeAfter, ha.pending])
      (fun pending => (confined_setRegister rfl value).comp (confined_setPending _ pending))
  exact hw.comp (.ite _ hc (.ite _ hs (confined_setRegister rfl value)))

theorem confined_stall (b : UInt64) (microseconds : Nat) :
    Confined b (RegisterBus.stall microseconds) :=
  ⟨fun ha => ⟨ha.register, ha.pending, ha.acknowledgeAfter, ha.responder⟩,
    fun _ _ => ⟨fun _ _ => rfl, rfl, rfl, rfl⟩⟩

end DoorbellPeer

/-- An action that comes to the same on peers that are alike at the block, and is felt in no other
block. -/
structure KeepsTo {α : Type} (b : UInt64) (action : Firmware DoorbellPeer α) : Prop where
  alike {p q : DoorbellPeer} (h : AlikeAt b p q) :
    outcome (action.run p) = outcome (action.run q) ∧
      AlikeAt b (final (action.run p)) (final (action.run q))
  apart {a : UInt64} (h : a ≠ b) (p : DoorbellPeer) : AlikeAt a p (final (action.run p))

namespace KeepsTo

variable {α β : Type} {b : UInt64}

theorem pure (a : α) : KeepsTo b (pure a) := ⟨fun h => ⟨rfl, h⟩, fun _ p => .refl _ p⟩

theorem throw (e : Efi.Error) : KeepsTo (α := α) b (throw e) :=
  ⟨fun h => ⟨rfl, h⟩, fun _ p => .refl _ p⟩

theorem ofExcept (ended : Except Efi.Error α) : KeepsTo b (MonadExcept.ofExcept ended) := by
  cases ended with
  | ok a => exact pure a
  | error e => exact throw e

theorem bind {action : Firmware DoorbellPeer α} {next : α → Firmware DoorbellPeer β}
    (h : KeepsTo b action) (h' : ∀ a, KeepsTo b (next a)) : KeepsTo b (action >>= next) := by
  constructor
  · intro p q hpq
    obtain ⟨ho, hf⟩ := h.alike hpq
    rw [EStateM.run_bind, EStateM.run_bind]
    cases hp : action.run p with
    | ok value after =>
      cases hq : action.run q with
      | ok other after' =>
        rw [hp, hq] at ho hf
        obtain rfl : value = other := Except.ok.inj ho
        exact (h' value).alike hf
      | error e after' =>
        rw [hp, hq] at ho
        cases ho
    | error e after =>
      cases hq : action.run q with
      | ok other after' =>
        rw [hp, hq] at ho
        cases ho
      | error e' after' =>
        rw [hp, hq] at ho hf
        obtain rfl : e = e' := Except.error.inj ho
        exact ⟨rfl, hf⟩
  · intro a hn p
    have hf := h.apart hn p
    rw [EStateM.run_bind]
    cases hp : action.run p with
    | ok value after =>
      rw [hp] at hf
      exact hf.trans ((h' value).apart hn after)
    | error e after =>
      rw [hp] at hf
      exact hf

theorem readRegister {address : UInt64} (h : DoorbellPeer.block address = b) :
    KeepsTo b (readRegister address) := by
  have hr := DoorbellPeer.confined_read h
  refine ⟨fun ha => ⟨?_, hr.alike ha⟩, fun hn p => hr.apart hn p⟩
  subst h
  exact congrArg Except.ok (DoorbellPeer.read_eq ha)

theorem writeRegister {address : UInt64} (h : DoorbellPeer.block address = b) (value : UInt32) :
    KeepsTo b (writeRegister address value) := by
  have hw := DoorbellPeer.confined_write h value
  exact ⟨fun ha => ⟨rfl, hw.alike ha⟩, fun hn p => hw.apart hn p⟩

theorem stall (b : UInt64) (microseconds : Nat) : KeepsTo b (stall microseconds) := by
  have hs := DoorbellPeer.confined_stall b microseconds
  exact ⟨fun ha => ⟨rfl, hs.alike ha⟩, fun hn p => hs.apart hn p⟩

end KeepsTo

section

variable {doorbell : Doorbell} (ha : DoorbellPeer.block doorbell.address = doorbell.address)

include ha

theorem keepsTo_read {offset : UInt64} (ho : offset < Doorbell.stride) :
    KeepsTo doorbell.address (readRegister (doorbell.address + offset)) :=
  .readRegister (DoorbellPeer.block_add ha ho)

theorem keepsTo_write {offset : UInt64} (ho : offset < Doorbell.stride) (value : UInt32) :
    KeepsTo doorbell.address (writeRegister (doorbell.address + offset) value) :=
  .writeRegister (DoorbellPeer.block_add ha ho) value

theorem keepsTo_await (bit : UInt32) (polls : Nat) :
    KeepsTo doorbell.address (doorbell.await bit polls) := by
  induction polls with
  | zero => exact .throw .timeout
  | succ polls ih =>
    refine (KeepsTo.stall _ doorbell.interval).bind fun _ =>
      (keepsTo_read ha (by decide)).bind fun status => ?_
    by_cases hs : status &&& bit = 0
    · rw [if_pos hs]
      exact ih
    · rw [if_neg hs]
      exact .pure ()

theorem keepsTo_deliver (message : Message) :
    KeepsTo doorbell.address (doorbell.deliver message) := by
  refine (keepsTo_write ha (by decide) message.parameter0).bind fun _ => ?_
  refine (keepsTo_write ha (by decide) message.parameter1).bind fun _ => ?_
  refine (keepsTo_write ha (by decide) message.command).bind fun _ => ?_
  exact (keepsTo_await ha Status.acknowledge doorbell.polls).bind fun _ =>
    keepsTo_write ha (by decide) Status.acknowledge

theorem keepsTo_send (message : Message) : KeepsTo doorbell.address (doorbell.send message) := by
  rw [Doorbell.send_eq]
  refine (keepsTo_read ha (by decide)).bind fun status => ?_
  have hd := keepsTo_deliver ha message
  by_cases hs : status &&& Status.acknowledge ≠ 0
  · rw [if_pos hs]
    exact (keepsTo_write ha (by decide) Status.acknowledge).bind fun _ => hd
  · rw [if_neg hs]
    exact hd

theorem keepsTo_receive : KeepsTo doorbell.address doorbell.receive := by
  refine (keepsTo_await ha Status.available doorbell.polls).bind fun _ => ?_
  refine (keepsTo_read ha (by decide)).bind fun parameter0 => ?_
  refine (keepsTo_read ha (by decide)).bind fun parameter1 => ?_
  refine (keepsTo_read ha (by decide)).bind fun command => ?_
  exact (keepsTo_write ha (by decide) Status.available).bind fun _ => .pure _

theorem keepsTo_exchange (request : Message) :
    KeepsTo doorbell.address (doorbell.exchange request) :=
  (keepsTo_send ha request).bind fun _ => (keepsTo_receive ha).bind fun response =>
    (KeepsTo.ofExcept _).bind fun _ => .pure response

theorem keepsTo_unmask : KeepsTo doorbell.address doorbell.unmask :=
  (keepsTo_read ha (by decide)).bind fun _ => keepsTo_write ha (by decide) _

theorem keepsTo_notify (request : Request) :
    KeepsTo doorbell.address (doorbell.notify request) :=
  (KeepsTo.ofExcept _).bind fun message => keepsTo_send ha message

theorem keepsTo_query (request : Request) : KeepsTo doorbell.address (doorbell.query request) :=
  (KeepsTo.ofExcept _).bind fun message => keepsTo_exchange ha message

end

end PlatformFirmware.Simulation
