import PlatformFirmware.Proofs.Mailbox.Transaction

namespace PlatformFirmware.Simulation

open Mailbox

namespace Block

structure Answers (b : Block) (reads : Nat) (respond : Message → Message) : Prop where
  acknowledgeAfter : b.acknowledgeAfter = some reads
  responder : b.responder = some respond

/-- A response is there to be taken, and no acknowledge will put another in its place. -/
structure Holds (b : Block) (response : Message) : Prop where
  available : b.status &&& Status.available ≠ 0
  acknowledge : b.status &&& Status.acknowledge = 0
  settled : b.pending.acknowledge = none
  response : b.response = response

def Idle (b : Block) : Prop :=
  b.status &&& Status.acknowledge = 0 ∧ b.status &&& Status.available = 0

variable {b : Block} {reads : Nat} {respond : Message → Message}

theorem Answers.clear (h : b.Answers reads respond) (bit : UInt32) :
    (b.clear bit).Answers reads respond := ⟨h.acknowledgeAfter, h.responder⟩

theorem Answers.polled (h : b.Answers reads respond) (polls : Nat) :
    (b.polled polls).Answers reads respond := ⟨h.acknowledgeAfter, h.responder⟩

theorem Answers.sent (h : b.Answers reads respond) (message : Message) :
    (b.sent message).Answers reads respond := by
  rw [Block.sent, poll_eq_polled]
  exact ⟨h.acknowledgeAfter, h.responder⟩

/-- The read that acknowledges a request puts its answer in place of whatever was there. -/
theorem Answers.holds (h : b.Answers reads respond) (request : Message) :
    (((b.sent request).polled (max reads 1)).clear Status.acknowledge).Holds (respond request) := by
  have hd : due (b.sent request).pending.acknowledge (max reads 1) = true :=
    due_eq_true_iff.2 ⟨reads, h.acknowledgeAfter, Nat.le_refl _⟩
  have hr := (h.sent request).responder
  refine ⟨?_, clear_status_and _ _, ?_, ?_⟩
  · rw [available_clear_acknowledge]
    intro hz
    have hn := ((available_polled _ _).1 hz).2
    rw [hd, hr] at hn
    simp at hn
  · change remaining (b.sent request).pending.acknowledge (max reads 1) = none
    rw [remaining, if_pos hd]
  · change (if due (b.sent request).pending.acknowledge (max reads 1) = true then _ else _) = _
    rw [if_pos hd, hr]
    rfl

theorem Holds.available_polled {response : Message} (h : b.Holds response) :
    (b.polled 1).status &&& Status.available ≠ 0 :=
  fun hz => h.available ((Block.available_polled b 1).1 hz).1

theorem Holds.response_polled {response : Message} (h : b.Holds response) :
    (b.polled 1).response = response := by
  rw [polled, shown, h.settled]
  exact h.response

theorem Holds.idle_taken {response : Message} (h : b.Holds response) :
    ((b.polled 1).clear Status.available).Idle := by
  refine ⟨?_, clear_status_and _ _⟩
  rw [acknowledge_clear_available, acknowledge_polled, h.settled]
  exact ⟨h.acknowledge, rfl⟩

end Block

section

variable {doorbell : Doorbell} (ha : DoorbellPeer.block doorbell.address = doorbell.address)
  {peer : DoorbellPeer} {reads : Nat} {respond : Message → Message}

include ha

theorem run_exchange_of_answers (h : (peer.blockAt doorbell.address).Answers reads respond)
    (hl : max reads 1 ≤ doorbell.polls) (request : Message) :
    ∃ after b, Reaches doorbell peer after b (max reads 1 + 1) ∧ b.Answers reads respond ∧
      b.Idle ∧
      (doorbell.exchange request).run peer =
        if (respond request).command &&& 0xFFFF0000 = request.command &&& 0xFF000000 then
          .ok (respond request) after
        else .error .deviceError after := by
  obtain ⟨asked, hs, hsend⟩ := run_send_of_acknowledged ha peer request h.acknowledgeAfter hl
  have hh := h.holds request
  rw [← hs.block] at hh
  obtain ⟨after, ht, hreceive⟩ := run_receive_of_available ha asked
    (Nat.le_trans (Nat.le_max_right reads 1) hl) hh.available_polled
  refine ⟨after, _, hs.trans ht, ?_, hh.idle_taken, ?_⟩
  · rw [hs.block]
    exact ((((h.sent request).polled _).clear _).polled 1).clear _
  · rw [Doorbell.exchange, EStateM.run_bind, hsend]
    simp only [EStateM.run_bind, hreceive, hh.response_polled, run_ofExcept]
    by_cases hv : (respond request).command &&& 0xFFFF0000 = request.command &&& 0xFF000000
    · have hc : Command.checkResponse request.command (respond request).command = .ok () :=
        if_pos hv
      rw [hc, if_pos hv]
      rfl
    · have hc : Command.checkResponse request.command (respond request).command =
          .error .deviceError := if_neg hv
      rw [hc, if_neg hv]

end

inductive Traffic
  | notification (message : Message)
  | exchange (request : Message)
  | post (message : Message) (polls : Nat)

def carry (doorbell : Doorbell) (peer : DoorbellPeer) : Traffic → DoorbellPeer
  | .notification message => final ((doorbell.send message).run peer)
  | .exchange request => final ((doorbell.exchange request).run peer)
  | .post message polls => peer.post doorbell.address message polls

section

variable {doorbell : Doorbell} (ha : DoorbellPeer.block doorbell.address = doorbell.address)
  {peer : DoorbellPeer} {reads : Nat} {respond : Message → Message}

include ha

theorem answers_carry (h : (peer.blockAt doorbell.address).Answers reads respond)
    (hl : max reads 1 ≤ doorbell.polls) (traffic : Traffic) :
    ((carry doorbell peer traffic).blockAt doorbell.address).Answers reads respond := by
  cases traffic with
  | notification message =>
    obtain ⟨after, hs, hrun⟩ := run_send_of_acknowledged ha peer message h.acknowledgeAfter hl
    rw [carry, hrun, final_ok, hs.block]
    exact ((h.sent message).polled _).clear _
  | exchange request =>
    obtain ⟨after, b, hr, hb, -, hrun⟩ := run_exchange_of_answers ha h hl request
    have hf : carry doorbell peer (.exchange request) = after := by
      rw [carry, hrun]
      split <;> rfl
    rw [hf, hr.block]
    exact hb
  | post message polls => exact ⟨h.acknowledgeAfter, h.responder⟩

theorem answers_foldl (h : (peer.blockAt doorbell.address).Answers reads respond)
    (hl : max reads 1 ≤ doorbell.polls) (earlier : List Traffic) :
    ((earlier.foldl (carry doorbell) peer).blockAt doorbell.address).Answers reads respond := by
  induction earlier generalizing peer with
  | nil => exact h
  | cons traffic earlier ih => exact ih (answers_carry ha h hl traffic)

/-- In any traffic with a peer that answers in time, an exchange ends with the answer to its own
request, or fails on that answer if it does not repeat class and subtype. It takes one wait more
than the acknowledge and leaves both bits of the status clear. -/
theorem exchange_answered (peer : DoorbellPeer) (hk : peer.acknowledgeAfter = some reads)
    (hr : peer.responder = some respond) (h0 : 1 ≤ reads) (hl : reads ≤ doorbell.polls)
    (earlier : List Traffic) (request : Message) :
    let before := earlier.foldl (carry doorbell) peer
    let asked := (doorbell.exchange request).run before
    outcome asked =
      (if (respond request).command &&& 0xFFFF0000 = request.command &&& 0xFF000000 then
        .ok (respond request)
      else .error .deviceError) ∧
    (final asked).stalls = before.stalls + (reads + 1) ∧
    (final asked).register (doorbell.address + Register.status) &&& Status.acknowledge = 0 ∧
    (final asked).register (doorbell.address + Register.status) &&& Status.available = 0 := by
  intro before asked
  have hm : max reads 1 = reads := Nat.max_eq_left h0
  have hb : (before.blockAt doorbell.address).Answers reads respond :=
    answers_foldl ha ⟨hk, hr⟩ (by omega) earlier
  obtain ⟨after, b, hreach, -, hi, hrun⟩ := run_exchange_of_answers ha hb (by omega) request
  have hf : final asked = after := by
    rw [show asked = _ from hrun]
    split <;> rfl
  have ho : outcome asked =
      if (respond request).command &&& 0xFFFF0000 = request.command &&& 0xFF000000 then
        .ok (respond request)
      else .error .deviceError := by
    rw [show asked = _ from hrun]
    split <;> rfl
  rw [← hreach.block] at hi
  rw [hm] at hreach
  rw [hf]
  exact ⟨ho, hreach.stalls, hi⟩

end

def answeredDoorbell : Doorbell := ⟨0x100000540000, 1000, 2⟩

def echo (request : Message) : Message :=
  ⟨if request.parameter1 = 0 then request.command &&& 0xFF000000 else 0x00FF0000,
    request.parameter0, 7⟩

def echoPeer : DoorbellPeer := (DoorbellPeer.acknowledgeOn 2 {}).respondWith echo

/-- An answer not read, one rejected, and a message that comes during the next exchange. -/
def leftovers : List Traffic :=
  [.notification ⟨0x01000000, 3, 0⟩, .exchange ⟨0x01000000, 4, 1⟩, .post ⟨0x01000000, 5, 0⟩ 4]

theorem exchange_answered_after_leftovers :
    DoorbellPeer.block answeredDoorbell.address = answeredDoorbell.address ∧
      outcome ((answeredDoorbell.exchange ⟨0x01000000, 6, 0⟩).run
        (leftovers.foldl (carry answeredDoorbell) echoPeer)) = .ok ⟨0x01000000, 6, 7⟩ := by
  have ha : DoorbellPeer.block answeredDoorbell.address = answeredDoorbell.address := by decide
  exact ⟨ha, (exchange_answered ha echoPeer rfl rfl (by decide) (by decide) leftovers
    ⟨0x01000000, 6, 0⟩).1⟩

end PlatformFirmware.Simulation
