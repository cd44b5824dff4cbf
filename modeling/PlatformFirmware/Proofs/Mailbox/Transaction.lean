import PlatformFirmware.Proofs.Mailbox.Polling

namespace PlatformFirmware.Simulation

open Mailbox

namespace Block

def sent (message : Message) (b : Block) : Block :=
  { b.poll.clear Status.acknowledge with
    request := message
    pending := ⟨b.acknowledgeAfter, b.poll.pending.available⟩ }

theorem clear_of_hidden {b : Block} {bit : UInt32} (h : b.status &&& bit = 0) : b.clear bit = b := by
  have hs : b.status &&& ~~~bit = b.status := by
    apply UInt32.toBitVec_inj.1
    have hb : b.status.toBitVec &&& bit.toBitVec = 0#32 := by
      rw [← UInt32.toBitVec_and, h]
      rfl
    ext i hi
    have hg := congrArg (fun w => w[i]) hb
    simp only [BitVec.getElem_and, BitVec.getElem_zero] at hg
    simp only [UInt32.toBitVec_and, UInt32.toBitVec_not, BitVec.getElem_and, BitVec.getElem_not]
    cases hx : b.status.toBitVec[i] <;> simp_all
  rw [clear, hs]

theorem clear_status_and (b : Block) (bit : UInt32) : (b.clear bit).status &&& bit = 0 := by
  apply UInt32.toBitVec_inj.1
  ext i hi
  simp [clear]

theorem available_clear_acknowledge (b : Block) :
    (b.clear Status.acknowledge).status &&& Status.available = b.status &&& Status.available := by
  have hm : ~~~Status.acknowledge &&& Status.available = Status.available := by decide
  rw [clear, UInt32.and_assoc, hm]

theorem acknowledge_clear_available (b : Block) :
    (b.clear Status.available).status &&& Status.acknowledge = b.status &&& Status.acknowledge := by
  have hm : ~~~Status.available &&& Status.acknowledge = Status.acknowledge := by decide
  rw [clear, UInt32.and_assoc, hm]

theorem acknowledge_polled_sent (message : Message) (b : Block) (reads : Nat) :
    ((b.sent message).polled reads).status &&& Status.acknowledge = 0 ↔
      due b.acknowledgeAfter reads = false := by
  have hz : (b.sent message).status &&& Status.acknowledge = 0 :=
    clear_status_and b.poll Status.acknowledge
  rw [acknowledge_polled]
  exact ⟨fun h => h.2, fun h => ⟨hz, h⟩⟩

end Block

section

variable {doorbell : Doorbell} (ha : DoorbellPeer.block doorbell.address = doorbell.address)
  (peer : DoorbellPeer)

include ha

/-- The message is written to a status without acknowledge. -/
theorem run_send (message : Message) :
    ∃ middle, Reaches doorbell peer middle ((peer.blockAt doorbell.address).sent message) 0 ∧
      (doorbell.send message).run peer =
        (do doorbell.await Status.acknowledge doorbell.polls
            writeRegister (doorbell.address + Register.status) Status.acknowledge :
          Firmware DoorbellPeer Unit).run middle := by
  obtain ⟨looked, hl, hr⟩ := read_status ha peer
  have hc : ∃ cleared, Reaches doorbell peer cleared
      ((peer.blockAt doorbell.address).poll.clear Status.acknowledge) 0 ∧
      (doorbell.send message).run peer =
        (do writeRegister (doorbell.address + Register.parameter0In) message.parameter0
            writeRegister (doorbell.address + Register.parameter1In) message.parameter1
            writeRegister (doorbell.address + Register.commandIn) message.command
            doorbell.await Status.acknowledge doorbell.polls
            writeRegister (doorbell.address + Register.status) Status.acknowledge :
          Firmware DoorbellPeer Unit).run cleared := by
    simp only [Doorbell.send, EStateM.run_bind, run_readRegister, hr]
    by_cases hs : (peer.blockAt doorbell.address).poll.status &&& Status.acknowledge = 0
    · refine ⟨looked, ?_, ?_⟩
      · rw [Block.clear_of_hidden hs]
        exact hl
      · simp [hs]
    · refine ⟨_, hl.write ha (by decide : Register.status < _) Status.acknowledge, ?_⟩
      simp [hs]
  obtain ⟨cleared, hk, hrun⟩ := hc
  have h0 := hk.write ha (by decide : Register.parameter0In < _) message.parameter0
  have h1 := h0.write ha (by decide : Register.parameter1In < _) message.parameter1
  have h2 := h1.write ha (by decide : Register.commandIn < _) message.command
  rw [Block.poll_eq] at h2
  rw [Block.sent, Block.poll_eq]
  exact ⟨_, h2, hrun⟩

theorem run_send_of_acknowledged (message : Message) {k : Nat}
    (hk : peer.acknowledgeAfter = some k) (hl : max k 1 ≤ doorbell.polls) :
    ∃ after, Reaches doorbell peer after
        ((((peer.blockAt doorbell.address).sent message).polled (max k 1)).clear Status.acknowledge)
        (max k 1) ∧
      (doorbell.send message).run peer = .ok () after := by
  obtain ⟨middle, hm, hrun⟩ := run_send ha peer message
  have hd (reads : Nat) : due (peer.blockAt doorbell.address).acknowledgeAfter reads =
      decide (max k 1 ≤ reads) := by
    rw [show (peer.blockAt doorbell.address).acknowledgeAfter = some k from hk]
    rfl
  have hz (i : Nat) (hi : 0 < i) (hn : i < max k 1) :=
    (Block.acknowledge_polled_sent message (peer.blockAt doorbell.address) i).2
      (by rw [hd]; exact decide_eq_false (by omega))
  have hs := mt (Block.acknowledge_polled_sent message (peer.blockAt doorbell.address) (max k 1)).1
    (by simp [hd])
  obtain ⟨acknowledged, hf, hw⟩ := run_await_of_shown ha hm.block (by omega) hl hz hs
  have hc := (hm.trans hf).write ha (by decide : Register.status < _) Status.acknowledge
  rw [Nat.zero_add] at hc
  refine ⟨_, hc, ?_⟩
  rw [hrun, EStateM.run_bind, hw]
  rfl

theorem run_send_of_unacknowledged (message : Message)
    (h : due peer.acknowledgeAfter doorbell.polls = false) :
    ∃ after, Reaches doorbell peer after
        (((peer.blockAt doorbell.address).sent message).polled doorbell.polls) doorbell.polls ∧
      (doorbell.send message).run peer = .error .timeout after := by
  obtain ⟨middle, hm, hrun⟩ := run_send ha peer message
  have hz (i : Nat) (hi : 0 < i) (hn : i ≤ doorbell.polls) :=
    (Block.acknowledge_polled_sent message (peer.blockAt doorbell.address) i).2
      (Bool.eq_false_iff.2 fun hd => Bool.eq_false_iff.1 h (due_mono hd hn))
  obtain ⟨after, hf, hw⟩ := run_await_of_hidden ha hm.block hz
  have ht := hm.trans hf
  rw [Nat.zero_add] at ht
  refine ⟨after, ht, ?_⟩
  rw [hrun, EStateM.run_bind, hw]

/-- A message is taken as the first read that shows it available finds it. -/
theorem run_receive_of_shown {last : Nat} (h0 : 0 < last) (hl : last ≤ doorbell.polls)
    (hz : ∀ i, 0 < i → i < last →
      ((peer.blockAt doorbell.address).polled i).status &&& Status.available = 0)
    (hs : ((peer.blockAt doorbell.address).polled last).status &&& Status.available ≠ 0) :
    ∃ after, Reaches doorbell peer after
        (((peer.blockAt doorbell.address).polled last).clear Status.available) last ∧
      doorbell.receive.run peer =
        .ok ((peer.blockAt doorbell.address).polled last).response after := by
  obtain ⟨shown, hf, hw⟩ := run_await_of_shown ha rfl h0 hl hz hs
  have hr {offset : UInt64} (ho : offset < Doorbell.stride) (hn : offset ≠ Register.status) :
      RegisterBus.read (doorbell.address + offset) shown =
        (shown.register (doorbell.address + offset), shown) := by
    have h := DoorbellPeer.read_offset ha ho shown
    rwa [if_neg hn] at h
  have h0 := hr (by decide : Register.parameter0Out < _) (by decide)
  have h1 := hr (by decide : Register.parameter1Out < _) (by decide)
  have h2 := hr (by decide : Register.commandOut < _) (by decide)
  refine ⟨_, hf.write ha (by decide : Register.status < _) Status.available, ?_⟩
  rw [← hf.block]
  simp only [Doorbell.receive, EStateM.run_bind, hw, run_readRegister, run_writeRegister, h0, h1, h2]
  rfl

/-- A message that is already there is taken after one wait. -/
theorem run_receive_of_available (hp : 0 < doorbell.polls)
    (hs : ((peer.blockAt doorbell.address).polled 1).status &&& Status.available ≠ 0) :
    ∃ after, Reaches doorbell peer after
        (((peer.blockAt doorbell.address).polled 1).clear Status.available) 1 ∧
      doorbell.receive.run peer =
        .ok ((peer.blockAt doorbell.address).polled 1).response after :=
  run_receive_of_shown ha peer Nat.one_pos hp (fun i hi hn => by omega) hs

theorem run_receive_of_hidden
    (hz : ∀ i, 0 < i → i ≤ doorbell.polls →
      ((peer.blockAt doorbell.address).polled i).status &&& Status.available = 0) :
    ∃ after, Reaches doorbell peer after ((peer.blockAt doorbell.address).polled doorbell.polls)
        doorbell.polls ∧
      doorbell.receive.run peer = .error .timeout after := by
  obtain ⟨after, hf, hw⟩ := run_await_of_hidden ha rfl hz
  refine ⟨after, hf, ?_⟩
  rw [Doorbell.receive, EStateM.run_bind, hw]

end

end PlatformFirmware.Simulation
