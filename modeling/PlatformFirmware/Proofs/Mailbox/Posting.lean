import PlatformFirmware.Proofs.Mailbox.Isolation
import PlatformFirmware.Proofs.Mailbox.Transaction

namespace PlatformFirmware.Simulation

open Mailbox

namespace Block

structure Awaiting (b : Block) (left : Option Nat) (acknowledge : UInt32) : Prop where
  available : b.status &&& Status.available = 0
  acknowledge : b.status &&& Status.acknowledge = acknowledge
  settled : b.pending.acknowledge = none
  pending : b.pending.available = left

section

variable {b : Block} {left : Option Nat} {acknowledge : UInt32} (h : b.Awaiting left acknowledge)

include h

theorem Awaiting.available_polled (reads : Nat) :
    (b.polled reads).status &&& Status.available = 0 ↔ due left reads = false := by
  rw [Block.available_polled, h.settled, h.pending, due_none, Bool.false_and, Bool.or_false]
  exact and_iff_right h.available

theorem Awaiting.acknowledge_polled (reads : Nat) :
    (b.polled reads).status &&& Status.acknowledge = acknowledge := by
  have hf : ∀ shown : Bool, flags false shown &&& Status.acknowledge = 0 := by decide
  rw [polled, shown, h.settled, due_none]
  change (b.status ||| flags false _) &&& Status.acknowledge = _
  rw [or_and_eq_or, hf, h.acknowledge, UInt32.or_zero]

theorem Awaiting.response_polled (reads : Nat) : (b.polled reads).response = b.response := by
  rw [polled, shown, h.settled]
  rfl

theorem Awaiting.polled {reads : Nat} (hd : due left reads = false) :
    (b.polled reads).Awaiting (remaining left reads) acknowledge where
  available := (h.available_polled reads).2 hd
  acknowledge := h.acknowledge_polled reads
  settled := by rw [Block.polled, h.settled]; rfl
  pending := by rw [Block.polled, h.pending]

/-- A message that has been taken does not come again. -/
theorem Awaiting.taken {reads : Nat} (hd : due left reads = true) :
    ((b.polled reads).clear Status.available).Awaiting none acknowledge where
  available := clear_status_and _ _
  acknowledge := by rw [acknowledge_clear_available, h.acknowledge_polled]
  settled := by
    change remaining b.pending.acknowledge reads = none
    rw [h.settled]
    rfl
  pending := by
    change remaining b.pending.available reads = none
    rw [h.pending, remaining, if_pos hd]

end

end Block

namespace DoorbellPeer

theorem blockAt_post (peer : DoorbellPeer) (a : UInt64) (message : Message) (polls : Nat) :
    (peer.post a message polls).blockAt a =
      { peer.blockAt a with
        response := message
        pending := { peer.pendingAt a with available := some (max polls 1) } } := by
  rw [post, blockAt_setPending, blockAt_placeResponse]

end DoorbellPeer

def received (doorbell : Doorbell) (peer : DoorbellPeer) : Nat → DoorbellPeer
  | 0 => peer
  | count + 1 => final (doorbell.receive.run (received doorbell peer count))

section

variable {doorbell : Doorbell} (ha : DoorbellPeer.block doorbell.address = doorbell.address)
  {peer : DoorbellPeer} {left : Option Nat} {acknowledge : UInt32}

include ha

/-- A receive that gives up before the message comes leaves it to come. -/
theorem receive_early (h : (peer.blockAt doorbell.address).Awaiting left acknowledge)
    (hd : due left doorbell.polls = false) :
    let after := final (doorbell.receive.run peer)
    outcome (doorbell.receive.run peer) = .error .timeout ∧
      after.stalls = peer.stalls + doorbell.polls ∧
      (after.blockAt doorbell.address).Awaiting (remaining left doorbell.polls) acknowledge ∧
      (after.blockAt doorbell.address).response = (peer.blockAt doorbell.address).response := by
  have hz (reads : Nat) (hr : reads ≤ doorbell.polls) : due left reads = false :=
    Bool.eq_false_iff.2 fun hs => Bool.eq_false_iff.1 hd (due_mono hs hr)
  obtain ⟨after, hf, hrun⟩ := run_receive_of_hidden ha peer fun reads _ hr =>
    (h.available_polled reads).2 (hz reads hr)
  rw [hrun]
  refine ⟨rfl, hf.stalls, ?_, ?_⟩
  · rw [final_error, hf.block]
    exact h.polled hd
  · rw [final_error, hf.block]
    exact h.response_polled doorbell.polls

/-- A receive that is waiting when the message comes takes it. -/
theorem receive_due {reads : Nat}
    (h : (peer.blockAt doorbell.address).Awaiting (some reads) acknowledge) (h0 : 0 < reads)
    (hr : reads ≤ doorbell.polls) :
    let after := final (doorbell.receive.run peer)
    outcome (doorbell.receive.run peer) = .ok (peer.blockAt doorbell.address).response ∧
      after.stalls = peer.stalls + reads ∧
      (after.blockAt doorbell.address).Awaiting none acknowledge := by
  have hz (i : Nat) (hi : i < reads) : due (some reads) i = false := decide_eq_false (by omega)
  have hs : due (some reads) reads = true := decide_eq_true (by omega)
  obtain ⟨after, hf, hrun⟩ := run_receive_of_shown ha peer h0 hr
    (fun i _ hi => (h.available_polled i).2 (hz i hi))
    (mt (h.available_polled reads).1 (by rw [hs]; exact Bool.noConfusion))
  rw [hrun, h.response_polled]
  refine ⟨rfl, hf.stalls, ?_⟩
  rw [final_ok, hf.block]
  exact h.taken hs

/-- The wait for a message goes on from one receive to the next. -/
theorem received_waiting {reads count : Nat}
    (h : (peer.blockAt doorbell.address).Awaiting (some reads) acknowledge)
    (hc : count * doorbell.polls < reads) :
    let after := received doorbell peer count
    after.stalls = peer.stalls + count * doorbell.polls ∧
      (after.blockAt doorbell.address).Awaiting (some (reads - count * doorbell.polls))
        acknowledge ∧
      (after.blockAt doorbell.address).response = (peer.blockAt doorbell.address).response := by
  induction count with
  | zero =>
    rw [Nat.zero_mul]
    exact ⟨rfl, h, rfl⟩
  | succ count ih =>
    rw [Nat.succ_mul] at hc ⊢
    obtain ⟨hs, hw, hm⟩ := ih (by omega)
    have hd : due (some (reads - count * doorbell.polls)) doorbell.polls = false :=
      decide_eq_false (by omega)
    obtain ⟨-, hs', hw', hm'⟩ := receive_early ha hw hd
    refine ⟨?_, ?_, hm'.trans hm⟩
    · rw [← Nat.add_assoc, ← hs]
      exact hs'
    · rw [remaining, hd, if_neg Bool.false_ne_true, Option.map_some, Nat.sub_sub] at hw'
      exact hw'

/-- Once the message is taken there is none to come. -/
theorem received_none {count later : Nat}
    (h : ((received doorbell peer count).blockAt doorbell.address).Awaiting none acknowledge)
    (hl : count ≤ later) :
    ((received doorbell peer later).blockAt doorbell.address).Awaiting none acknowledge := by
  induction hl with
  | refl => exact h
  | step _ ih => exact (receive_early ha ih rfl).2.2.1

end

/-- A message that the peer of a doorbell delivers on the `polls`-th status read from now on, from
any state without a message or an acknowledge to come. The receives up to then time out, each after
all its polls; the one that is waiting takes the message as it was posted, and no later one gets
any. -/
theorem posted_message_taken_once {doorbell : Doorbell} (ha : 0x1000 ∣ doorbell.address.toNat)
    (hn : 1 ≤ doorbell.polls) {peer : DoorbellPeer}
    (hv : peer.register (doorbell.address + Register.status) &&& Status.available = 0)
    (hk : (peer.pendingAt doorbell.address).acknowledge = none) (message : Message) {polls : Nat}
    (hp : 1 ≤ polls) :
    let last := (polls + doorbell.polls - 1) / doorbell.polls
    let after := received doorbell (peer.post doorbell.address message polls)
    let answer count := outcome (doorbell.receive.run (after count))
    1 ≤ last ∧
    (∀ count, count + 1 < last → answer count = .error .timeout ∧
      (after (count + 1)).stalls = (after count).stalls + doorbell.polls) ∧
    answer (last - 1) = .ok message ∧
    (after last).stalls = peer.stalls + polls ∧
    (after last).register (doorbell.address + Register.status) &&& Status.available = 0 ∧
    (after last).register (doorbell.address + Register.status) &&& Status.acknowledge =
      peer.register (doorbell.address + Register.status) &&& Status.acknowledge ∧
    ∀ count, last ≤ count → answer count = .error .timeout ∧
      (after (count + 1)).stalls = (after count).stalls + doorbell.polls := by
  intro last after answer
  have ha := block_eq_of_dvd ha
  have hb := peer.blockAt_post doorbell.address message polls
  rw [Nat.max_eq_left hp] at hb
  have hw : ((peer.post doorbell.address message polls).blockAt doorbell.address).Awaiting
      (some polls) (peer.register (doorbell.address + Register.status) &&& Status.acknowledge) := by
    rw [hb]
    exact ⟨hv, rfl, hk, rfl⟩
  -- the receives before the last one, and what is left to wait for then
  obtain ⟨early, hl, hlow, hhigh⟩ : ∃ early, last = early + 1 ∧
      early * doorbell.polls < polls ∧ polls ≤ early * doorbell.polls + doorbell.polls := by
    refine ⟨(polls - 1) / doorbell.polls, ?_, ?_, ?_⟩
    · rw [← Nat.add_div_right _ hn, ← Nat.sub_add_comm hp]
    · have := Nat.div_mul_le_self (polls - 1) doorbell.polls
      omega
    · have := Nat.lt_mul_div_succ (polls - 1) hn
      rw [Nat.mul_comm, Nat.succ_mul] at this
      omega
  obtain ⟨hs, hwait, hm⟩ := received_waiting ha hw hlow
  obtain ⟨ho, hstalls, hnone⟩ := receive_due ha hwait (by omega) (by omega)
  have hlast : ((after (early + 1)).blockAt doorbell.address).Awaiting none _ := hnone
  rw [hl, Nat.add_sub_cancel]
  refine ⟨Nat.le_add_left 1 early, fun count hc => ?_, ?_, ?_, hlast.available, hlast.acknowledge,
    fun count hc => ?_⟩
  · have hle : (count + 1) * doorbell.polls ≤ early * doorbell.polls :=
      Nat.mul_le_mul_right doorbell.polls (by omega)
    rw [Nat.succ_mul] at hle
    have hc : count * doorbell.polls < polls := by omega
    obtain ⟨-, hwait, -⟩ := received_waiting ha hw hc
    have hd : due (some (polls - count * doorbell.polls)) doorbell.polls = false :=
      decide_eq_false (by omega)
    obtain ⟨ht, hs, -⟩ := receive_early ha hwait hd
    exact ⟨ht, hs⟩
  · rw [hm, hb] at ho
    exact ho
  · calc (after (early + 1)).stalls
        = (after early).stalls + (polls - early * doorbell.polls) := hstalls
      _ = peer.stalls + early * doorbell.polls + (polls - early * doorbell.polls) :=
        congrArg (· + _) hs
      _ = peer.stalls + polls := by omega
  · obtain ⟨ht, hs, -⟩ := receive_early ha (received_none ha hlast hc) rfl
    exact ⟨ht, hs⟩

def patient : Doorbell := ⟨0x100000540000, 1000, 3⟩

def pendingPeer : DoorbellPeer :=
  (((DoorbellPeer.acknowledgeOn 2 {}).respondWith id).setStatus patient.address
    Status.acknowledge).post patient.address ⟨0x01000000, 1, 2⟩ 5

theorem posted_message_taken_once_patient :
    let after := received patient (pendingPeer.post patient.address ⟨0xB5000100, 3, 4⟩ 7)
    outcome (patient.receive.run (after 1)) = .error .timeout ∧
      outcome (patient.receive.run (after 2)) = .ok ⟨0xB5000100, 3, 4⟩ ∧
      (after 3).stalls = 7 ∧ outcome (patient.receive.run (after 10)) = .error .timeout := by
  obtain ⟨-, hearly, hlast, hstalls, -, -, hlate⟩ :=
    @posted_message_taken_once patient (by decide) (by decide) pendingPeer (by decide) (by decide)
      ⟨0xB5000100, 3, 4⟩ 7 (by decide)
  exact ⟨(hearly 1 (by decide)).1, hlast, hstalls, (hlate 10 (by decide)).1⟩

end PlatformFirmware.Simulation
