import PlatformFirmware.Proofs.Mailbox.Transaction

namespace PlatformFirmware.Simulation

open Mailbox

namespace Block

def Silent (b : Block) : Prop := b.pending.available = none ∧ b.responder = none

/-- A later block with the message of an earlier one, and no other to come. -/
structure Leaves (b later : Block) : Prop where
  silent : later.Silent
  available : later.status &&& Status.available = 0 ↔ b.status &&& Status.available = 0
  response : later.response = b.response

theorem Leaves.trans {b c d : Block} (h : b.Leaves c) (h' : c.Leaves d) : b.Leaves d :=
  ⟨h'.silent, h'.available.trans h.available, h'.response.trans h.response⟩

variable {b : Block}

theorem Silent.leaves_polled (h : b.Silent) (reads : Nat) : b.Leaves (b.polled reads) := by
  obtain ⟨ha, hr⟩ := h
  refine ⟨⟨?_, hr⟩, ?_, ?_⟩
  · simp [polled, remaining, ha]
  · rw [available_polled, ha, hr]
    simp
  · simp [polled, shown, hr]

theorem Silent.leaves_acknowledged (h : b.Silent) : b.Leaves (b.clear Status.acknowledge) := by
  refine ⟨h, ?_, rfl⟩
  rw [available_clear_acknowledge]

theorem Silent.leaves_sent (h : b.Silent) (message : Message) : b.Leaves (b.sent message) := by
  have hp := h.leaves_polled 1
  rw [← poll_eq_polled] at hp
  have hc := hp.trans hp.silent.leaves_acknowledged
  exact ⟨hc.silent, hc.available, hc.response⟩

end Block

section

variable {doorbell : Doorbell} (ha : DoorbellPeer.block doorbell.address = doorbell.address)

include ha

theorem outcome_receive {peer : DoorbellPeer} (h : (peer.blockAt doorbell.address).Silent)
    (hp : 0 < doorbell.polls) :
    outcome (doorbell.receive.run peer) =
      if (peer.blockAt doorbell.address).status &&& Status.available = 0 then .error .timeout
      else .ok (peer.lastResponse doorbell.address) := by
  have hl (reads : Nat) := h.leaves_polled reads
  by_cases hs : (peer.blockAt doorbell.address).status &&& Status.available = 0
  · obtain ⟨after, -, hrun⟩ := run_receive_of_hidden ha peer fun i _ _ => (hl i).available.2 hs
    rw [hrun, if_pos hs]
    rfl
  · obtain ⟨after, -, hrun⟩ := run_receive_of_available ha peer hp (mt (hl 1).available.1 hs)
    rw [hrun, if_neg hs, (hl 1).response]
    rfl

/-- Without an answer to come, an exchange succeeds only with a message that was there before: the
request has to be acknowledged in time, and the message has to repeat its class and subtype. -/
theorem exchange_unanswered (peer : DoorbellPeer) (request : Message)
    (hp : (peer.pendingAt doorbell.address).available = none) (hr : peer.responder = none) :
    outcome ((doorbell.exchange request).run peer) =
      if due peer.acknowledgeAfter doorbell.polls = true ∧
          peer.register (doorbell.address + Register.status) &&& Status.available ≠ 0 then
        (Command.checkResponse request.command
          (peer.lastResponse doorbell.address).command).map fun _ =>
            peer.lastResponse doorbell.address
      else .error .timeout := by
  have hb : (peer.blockAt doorbell.address).Silent := ⟨hp, hr⟩
  cases hd : due peer.acknowledgeAfter doorbell.polls with
  | false =>
    obtain ⟨after, -, hrun⟩ := run_send_of_unacknowledged ha peer request hd
    rw [Doorbell.exchange, EStateM.run_bind, hrun]
    simp
  | true =>
    obtain ⟨k, hk, hl⟩ := due_eq_true_iff.1 hd
    obtain ⟨after, hf, hrun⟩ := run_send_of_acknowledged ha peer request hk hl
    -- from here on only the message that was there before can be taken
    have hs := hb.leaves_sent request
    have hw := hs.trans (hs.silent.leaves_polled (max k 1))
    have hc := hw.trans hw.silent.leaves_acknowledged
    rw [← hf.block] at hc
    have ho := outcome_receive ha hc.silent (by omega)
    have hm : after.lastResponse doorbell.address = peer.lastResponse doorbell.address := hc.response
    rw [hm] at ho
    rw [Doorbell.exchange, EStateM.run_bind, hrun]
    simp only [EStateM.run_bind]
    by_cases hz : (peer.blockAt doorbell.address).status &&& Status.available = 0
    · rw [if_pos (hc.available.2 hz)] at ho
      rw [if_neg (fun h => h.2 hz)]
      cases hv : doorbell.receive.run after with
      | ok response taken => simp [hv] at ho
      | error e taken => simpa [hv] using ho
    · rw [if_neg (mt hc.available.1 hz)] at ho
      rw [if_pos ⟨trivial, hz⟩]
      cases hv : doorbell.receive.run after with
      | error e taken => simp [hv] at ho
      | ok response taken =>
        rw [hv, outcome_ok] at ho
        obtain rfl := Except.ok.inj ho
        simp only [run_ofExcept]
        cases Command.checkResponse request.command
          (peer.lastResponse doorbell.address).command <;> rfl

end

def registerDoorbell : Doorbell := ⟨0x100000540000, 1000, 1⟩

def latePeer : DoorbellPeer :=
  let asked := final ((registerDoorbell.exchange ⟨0x01000000, 0x1000, 0⟩).run
    (DoorbellPeer.acknowledgeOn 1 {}))
  let posted := asked.post registerDoorbell.address ⟨0x01000000, 7, 0⟩ 1
  (posted.read (registerDoorbell.address + Register.status)).2

/-- The late message does not pass for the response to a request of another subtype. -/
theorem exchange_latePeer_of_other_subtype :
    DoorbellPeer.block registerDoorbell.address = registerDoorbell.address ∧
      (latePeer.pendingAt registerDoorbell.address).available = none ∧ latePeer.responder = none ∧
      outcome ((registerDoorbell.exchange ⟨0x02000000, 0x2000, 0⟩).run latePeer) =
        .error .deviceError :=
  ⟨by decide, by decide, rfl,
    (exchange_unanswered (by decide) latePeer ⟨0x02000000, 0x2000, 0⟩ (by decide) rfl).trans rfl⟩

/-- The late answer to one register read passes for the answer to the next. -/
theorem late_response_taken_for_another :
    (latePeer.pendingAt registerDoorbell.address).available = none ∧ latePeer.responder = none ∧
      outcome ((registerDoorbell.exchange ⟨0x01000000, 0x2000, 0⟩).run latePeer) =
        .ok ⟨0x01000000, 7, 0⟩ :=
  ⟨by decide, rfl, rfl⟩

end PlatformFirmware.Simulation
