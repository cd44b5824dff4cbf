import PlatformFirmware.Proofs.Mailbox.Transaction

namespace PlatformFirmware.Mailbox.Config

variable {config : Config}

theorem polls_mul_interval_le (h : 0 < config.pollInterval) :
    config.polls * config.pollInterval ≤ max config.timeout config.pollInterval := by
  have hd := Nat.div_mul_le_self config.timeout config.pollInterval
  rw [polls, if_neg (Nat.ne_of_gt h)]
  rcases Nat.le_total (config.timeout / config.pollInterval) 1 with hl | hl
  · rw [Nat.max_eq_right hl, Nat.one_mul]
    exact Nat.le_max_right _ _
  · rw [Nat.max_eq_left hl]
    exact Nat.le_trans hd (Nat.le_max_left _ _)

theorem timeout_lt_mul_interval (h : 0 < config.pollInterval) :
    config.timeout < (config.polls + 1) * config.pollInterval := by
  have hp : config.timeout / config.pollInterval ≤ config.polls := by
    rw [polls, if_neg (Nat.ne_of_gt h)]
    exact Nat.le_max_left _ _
  calc
    config.timeout < config.pollInterval * (config.timeout / config.pollInterval + 1) :=
      Nat.lt_mul_div_succ _ h
    _ ≤ config.pollInterval * (config.polls + 1) :=
      Nat.mul_le_mul_left _ (Nat.succ_le_succ hp)
    _ = (config.polls + 1) * config.pollInterval := Nat.mul_comm _ _

end PlatformFirmware.Mailbox.Config

namespace PlatformFirmware.Simulation

open Mailbox

/-- The waits for the acknowledge of a message, all polls when it does not come. -/
def sendWaits (acknowledgeAfter : Option Nat) (polls : Nat) : Nat :=
  acknowledgeAfter.elim polls fun reads => min (max reads 1) polls

theorem sendWaits_of_not_due {acknowledgeAfter : Option Nat} {polls : Nat}
    (h : due acknowledgeAfter polls = false) : sendWaits acknowledgeAfter polls = polls := by
  cases acknowledgeAfter with
  | none => rfl
  | some reads =>
    have hl : ¬ max reads 1 ≤ polls := of_decide_eq_false h
    exact Nat.min_eq_right (Nat.le_of_not_le hl)

/-- However a message ends, no acknowledge is left and the message stands in the registers. -/
theorem run_send_timed {doorbell : Doorbell}
    (ha : DoorbellPeer.block doorbell.address = doorbell.address) (peer : DoorbellPeer)
    (message : Message) :
    ∃ after b, Reaches doorbell peer after b (sendWaits peer.acknowledgeAfter doorbell.polls) ∧
      b.status &&& Status.acknowledge = 0 ∧ b.request = message ∧
      (doorbell.send message).run peer =
        if due peer.acknowledgeAfter doorbell.polls then .ok () after
        else .error .timeout after := by
  cases hd : due peer.acknowledgeAfter doorbell.polls with
  | false =>
    obtain ⟨after, hr, hrun⟩ := run_send_of_unacknowledged ha peer message hd
    rw [sendWaits_of_not_due hd]
    exact ⟨after, _, hr, (Block.acknowledge_polled_sent message _ _).2 hd, rfl, hrun⟩
  | true =>
    obtain ⟨reads, hk, hl⟩ := due_eq_true_iff.1 hd
    obtain ⟨after, hr, hrun⟩ := run_send_of_acknowledged ha peer message hk hl
    have hw : sendWaits peer.acknowledgeAfter doorbell.polls = max reads 1 := by
      rw [hk]
      exact Nat.min_eq_left hl
    rw [hw]
    exact ⟨after, _, hr, Block.clear_status_and _ _, rfl, hrun⟩

/-- A message to the peer, in any state of the doorbell. It succeeds exactly if the peer is set to
acknowledge it within the polls, and otherwise times out after all of them. What earlier messages
left, such as an acknowledge or a countdown to one, changes neither this nor the time it takes. -/
theorem send_timing (config : Config) (index : Nat) (base : UInt64)
    (ha : DoorbellPeer.block (Doorbell.blockAddress index base) = Doorbell.blockAddress index base)
    (peer : DoorbellPeer) (message : Message) :
    let doorbell := Doorbell.atBase config index base
    let sent := (doorbell.send message).run peer
    let waits := sendWaits peer.acknowledgeAfter config.polls
    (outcome sent = .ok () ↔
      ∃ reads, peer.acknowledgeAfter = some reads ∧ max reads 1 ≤ config.polls) ∧
    (outcome sent ≠ .ok () → outcome sent = .error .timeout) ∧
    (final sent).stalls = peer.stalls + waits ∧
    (final sent).elapsed = peer.elapsed + waits * config.pollInterval ∧
    (final sent).register (doorbell.address + Register.status) &&& Status.acknowledge = 0 ∧
    (final sent).lastRequest doorbell.address = message ∧
    1 ≤ config.polls ∧
    (0 < config.pollInterval →
      config.polls * config.pollInterval ≤ max config.timeout config.pollInterval ∧
        config.timeout < (config.polls + 1) * config.pollInterval) := by
  intro doorbell sent waits
  have had : DoorbellPeer.block doorbell.address = doorbell.address := ha
  obtain ⟨after, b, hr, hs, hq, hrun⟩ := run_send_timed had peer message
  have hsent : sent = if due peer.acknowledgeAfter config.polls then .ok () after
    else .error .timeout after := hrun
  have hf : final sent = after := by
    rw [hsent]
    split <;> rfl
  have ho : outcome sent = if due peer.acknowledgeAfter config.polls then .ok ()
      else .error .timeout := by
    rw [hsent]
    split <;> rfl
  rw [← hr.block] at hs hq
  rw [hf, ho, ← due_eq_true_iff]
  refine ⟨?_, ?_, hr.stalls, hr.elapsed, hs, hq, config.one_le_polls,
    fun h => ⟨Config.polls_mul_interval_le h, Config.timeout_lt_mul_interval h⟩⟩
  all_goals cases due peer.acknowledgeAfter config.polls <;> simp

def briefConfig : Config := { timeout := 3500 }

def busyDoorbell : Doorbell := .atBase briefConfig 2 0x100000540000

/-- A peer that acknowledges on the third read, with the acknowledge of one message up, that of
another on its way and a message of its own to come. -/
def busyPeer : DoorbellPeer :=
  ((DoorbellPeer.acknowledgeOn 3 {}).respondWith id)
    |>.setStatus busyDoorbell.address 0x10001
    |>.setPending busyDoorbell.address ⟨some 2, some 4⟩

theorem send_timing_busyPeer :
    DoorbellPeer.block busyDoorbell.address = busyDoorbell.address ∧
      outcome ((busyDoorbell.send ⟨0x67000100, 1, 2⟩).run busyPeer) = .ok () ∧
      (final ((busyDoorbell.send ⟨0x67000100, 1, 2⟩).run busyPeer)).stalls = 3 ∧
      (final ((busyDoorbell.send ⟨0x67000100, 1, 2⟩).run busyPeer)).elapsed = 3000 ∧
      briefConfig.polls * briefConfig.pollInterval ≤ 3500 := by
  have ha : DoorbellPeer.block busyDoorbell.address = busyDoorbell.address := by decide
  have hw : sendWaits busyPeer.acknowledgeAfter briefConfig.polls = 3 := by decide
  obtain ⟨ho, -, hs, he, -, -, -, hp⟩ :=
    send_timing briefConfig 2 0x100000540000 ha busyPeer ⟨0x67000100, 1, 2⟩
  rw [hw] at hs he
  exact ⟨ha, ho.2 ⟨3, rfl, by decide⟩, hs, he, (hp (by decide)).1⟩

end PlatformFirmware.Simulation
