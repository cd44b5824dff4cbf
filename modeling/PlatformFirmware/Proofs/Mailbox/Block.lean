import PlatformFirmware.Proofs.Action
import PlatformFirmware.Simulation.DoorbellPeer

namespace PlatformFirmware.Simulation

open Mailbox

structure Block where
  status : UInt32
  request : Message
  response : Message
  pending : Pending
  acknowledgeAfter : Option Nat
  responder : Option (Message → Message)

namespace Block

def setRegister (offset : UInt64) (value : UInt32) (b : Block) : Block :=
  { b with
    status := if Register.status = offset then value else b.status
    request :=
      ⟨if Register.commandIn = offset then value else b.request.command,
        if Register.parameter0In = offset then value else b.request.parameter0,
        if Register.parameter1In = offset then value else b.request.parameter1⟩
    response :=
      ⟨if Register.commandOut = offset then value else b.response.command,
        if Register.parameter0Out = offset then value else b.response.parameter0,
        if Register.parameter1Out = offset then value else b.response.parameter1⟩ }

def raise (bit : UInt32) (b : Block) : Block := { b with status := b.status ||| bit }

def clear (bit : UInt32) (b : Block) : Block := { b with status := b.status &&& ~~~bit }

def write (offset : UInt64) (value : UInt32) (b : Block) : Block :=
  if offset = Register.status then b.clear value
  else if offset = Register.commandIn then
    { b.setRegister offset value with
      pending := { b.pending with acknowledge := b.acknowledgeAfter } }
  else b.setRegister offset value

def acknowledge (b : Block) : Block :=
  match b.responder with
  | none => b.raise Status.acknowledge
  | some respond =>
    { b.raise Status.acknowledge with response := respond b.request }.raise Status.available

def poll (b : Block) : Block :=
  let acknowledge := DoorbellPeer.countDown b.pending.acknowledge
  let available := DoorbellPeer.countDown b.pending.available
  let counted := { b with pending := ⟨acknowledge.1, available.1⟩ }
  let acknowledged := if acknowledge.2 then counted.acknowledge else counted
  if available.2 then acknowledged.raise Status.available else acknowledged

end Block

namespace DoorbellPeer

section Addresses

theorem block_eq_shift (address : UInt64) : block address = (address >>> 12) <<< 12 := by
  have hm : ∀ i : Fin 64, (~~~(Doorbell.stride - 1)).toBitVec[i] = !decide (i.val < 12) := by decide
  rw [block]
  -- the bits of the mask are known, and its value would be unfolded
  generalize ~~~(Doorbell.stride - 1) = mask at *
  apply UInt64.toBitVec_inj.1
  ext i hi
  have hb : mask.toBitVec[i] = !decide (i < 12) := hm ⟨i, hi⟩
  by_cases h : i < 12
  · simp [hb, h]
  · simp [hb, h, show 12 + (i - 12) = i by omega, BitVec.getLsbD_eq_getElem hi]

theorem toNat_block (address : UInt64) :
    (block address).toNat = address.toNat / 0x1000 * 0x1000 := by
  have h := address.toNat_lt
  rw [block_eq_shift]
  simp [Nat.shiftRight_eq_div_pow, Nat.shiftLeft_eq]
  omega

variable {a offset : UInt64}

theorem block_add (ha : block a = a) (ho : offset < Doorbell.stride) : block (a + offset) = a := by
  have hn := toNat_block a
  rw [ha] at hn
  have h := a.toNat_lt
  have hs : offset.toNat < 0x1000 := UInt64.lt_iff_toNat_lt.1 ho
  have hm := toNat_block (a + offset)
  rw [UInt64.toNat_add] at hm
  apply UInt64.toNat_inj.1
  omega

theorem offset_eq (a offset : UInt64) : a + offset - a = offset := by
  rw [UInt64.add_comm, UInt64.add_sub_cancel]

theorem read_offset (ha : block a = a) (ho : offset < Doorbell.stride) (peer : DoorbellPeer) :
    peer.read (a + offset) =
      if offset = Register.status then
        ((peer.onStatusRead a).register (a + offset), peer.onStatusRead a)
      else (peer.register (a + offset), peer) := by
  rw [read, block_add ha ho, offset_eq]
  split <;> rfl

theorem write_offset (ha : block a = a) (ho : offset < Doorbell.stride) (value : UInt32)
    (peer : DoorbellPeer) :
    peer.write (a + offset) value =
      let counted := { peer with writes := peer.writes + 1 }
      if offset = Register.status then
        counted.setRegister (a + offset) (peer.register (a + offset) &&& ~~~value)
      else if offset = Register.commandIn then
        (counted.setRegister (a + offset) value).setPending a
          { peer.pendingAt a with acknowledge := peer.acknowledgeAfter }
      else counted.setRegister (a + offset) value := by
  rw [write, block_add ha ho, offset_eq]
  rfl

end Addresses

def lastResponse (peer : DoorbellPeer) (doorbell : UInt64) : Message where
  command := peer.register (doorbell + Register.commandOut)
  parameter0 := peer.register (doorbell + Register.parameter0Out)
  parameter1 := peer.register (doorbell + Register.parameter1Out)

def blockAt (peer : DoorbellPeer) (doorbell : UInt64) : Block where
  status := peer.register (doorbell + Register.status)
  request := peer.lastRequest doorbell
  response := peer.lastResponse doorbell
  pending := peer.pendingAt doorbell
  acknowledgeAfter := peer.acknowledgeAfter
  responder := peer.responder

variable (a : UInt64) (peer : DoorbellPeer)

theorem register_setRegister (address other : UInt64) (value : UInt32) :
    (peer.setRegister address value).register other =
      if other = address then value else peer.register other :=
  peer.registers.getD_insert address other value 0

theorem blockAt_setRegister (offset : UInt64) (value : UInt32) :
    (peer.setRegister (a + offset) value).blockAt a = (peer.blockAt a).setRegister offset value := by
  simp only [blockAt, lastRequest, lastResponse, register_setRegister, UInt64.add_right_inj]
  rfl

theorem blockAt_setPending (pending : Pending) :
    (peer.setPending a pending).blockAt a = { peer.blockAt a with pending } := by
  have hp : (peer.setPending a pending).pendingAt a = pending := by
    simp [setPending, pendingAt, Table.getD_insert]
  rw [blockAt, hp]
  rfl

theorem blockAt_raise (bit : UInt32) : (peer.raise a bit).blockAt a = (peer.blockAt a).raise bit := by
  rw [raise, setStatus, blockAt_setRegister]
  rfl

theorem blockAt_placeResponse (message : Message) :
    (peer.placeResponse a message).blockAt a = { peer.blockAt a with response := message } := by
  rw [placeResponse, blockAt_setRegister, blockAt_setRegister, blockAt_setRegister]
  rfl

theorem blockAt_acknowledge : (peer.acknowledge a).blockAt a = (peer.blockAt a).acknowledge := by
  have hr : (peer.raise a Status.acknowledge).responder = peer.responder := rfl
  have hq : ((peer.raise a Status.acknowledge).blockAt a).request = (peer.blockAt a).request := by
    rw [blockAt_raise]
    rfl
  change ((peer.raise a Status.acknowledge).lastRequest a) = peer.lastRequest a at hq
  have hb : (peer.blockAt a).responder = peer.responder := rfl
  rw [acknowledge, Block.acknowledge, hr, hb]
  cases peer.responder with
  | none => exact blockAt_raise a peer Status.acknowledge
  | some respond =>
    simp only
    rw [blockAt_raise, blockAt_placeResponse, blockAt_raise, hq]
    rfl

theorem clock_acknowledge :
    (peer.acknowledge a).stalls = peer.stalls ∧ (peer.acknowledge a).elapsed = peer.elapsed := by
  rw [acknowledge]
  cases (peer.raise a Status.acknowledge).responder <;> exact ⟨rfl, rfl⟩

/-- Only waiting takes time. -/
theorem clock_onStatusRead :
    (peer.onStatusRead a).stalls = peer.stalls ∧ (peer.onStatusRead a).elapsed = peer.elapsed := by
  have hr (bit : UInt32) (other : DoorbellPeer) : (other.raise a bit).stalls = other.stalls ∧
      (other.raise a bit).elapsed = other.elapsed := ⟨rfl, rfl⟩
  have hp (pending : Pending) : (peer.setPending a pending).stalls = peer.stalls ∧
      (peer.setPending a pending).elapsed = peer.elapsed := ⟨rfl, rfl⟩
  rw [onStatusRead]
  cases (countDown (peer.pendingAt a).acknowledge).2 <;>
    cases (countDown (peer.pendingAt a).available).2 <;>
    simp [hr, hp, clock_acknowledge]

theorem blockAt_onStatusRead : (peer.onStatusRead a).blockAt a = (peer.blockAt a).poll := by
  have hp : (peer.blockAt a).pending = peer.pendingAt a := rfl
  rw [onStatusRead, Block.poll, hp]
  cases (countDown (peer.pendingAt a).acknowledge).2 <;>
    cases (countDown (peer.pendingAt a).available).2 <;>
    simp [blockAt_raise, blockAt_acknowledge, blockAt_setPending]

variable {a} {offset : UInt64}

theorem blockAt_write (ha : block a = a) (ho : offset < Doorbell.stride) (value : UInt32) :
    (peer.write (a + offset) value).blockAt a = (peer.blockAt a).write offset value := by
  have hw : { peer with writes := peer.writes + 1 }.blockAt a = peer.blockAt a := rfl
  rw [write_offset ha ho, Block.write]
  by_cases hs : offset = Register.status
  · simp only [hs, if_true, blockAt_setRegister, hw]
    rfl
  · by_cases hc : offset = Register.commandIn
    · subst hc
      simp only [if_neg hs, if_true, blockAt_setPending, blockAt_setRegister, hw]
      rfl
    · simp only [hs, hc, if_false, blockAt_setRegister, hw]

theorem clock_write (ha : block a = a) (ho : offset < Doorbell.stride) (value : UInt32) :
    (peer.write (a + offset) value).stalls = peer.stalls ∧
      (peer.write (a + offset) value).elapsed = peer.elapsed := by
  rw [write_offset ha ho]
  simp only
  split
  · exact ⟨rfl, rfl⟩
  · split <;> exact ⟨rfl, rfl⟩

end DoorbellPeer

end PlatformFirmware.Simulation
