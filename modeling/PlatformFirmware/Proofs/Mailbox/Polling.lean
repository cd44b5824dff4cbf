import PlatformFirmware.Proofs.Mailbox.Block

namespace PlatformFirmware.Simulation

open Mailbox

def due (pending : Option Nat) (reads : Nat) : Bool := pending.any fun left => max left 1 ≤ reads

def remaining (pending : Option Nat) (reads : Nat) : Option Nat :=
  if due pending reads then none else pending.map (· - reads)

theorem due_eq_true_iff {pending : Option Nat} {reads : Nat} :
    due pending reads = true ↔ ∃ left, pending = some left ∧ max left 1 ≤ reads := by
  cases pending <;> simp [due]

@[simp] theorem due_none (reads : Nat) : due none reads = false := rfl

@[simp] theorem due_zero (pending : Option Nat) : due pending 0 = false := by
  cases pending <;> simp [due]

theorem remaining_zero (pending : Option Nat) : remaining pending 0 = pending := by
  cases pending <;> simp [remaining]

theorem due_mono {pending : Option Nat} {reads later : Nat} (h : due pending reads = true)
    (hl : reads ≤ later) : due pending later = true := by
  obtain ⟨left, hp, hm⟩ := due_eq_true_iff.1 h
  exact due_eq_true_iff.2 ⟨left, hp, Nat.le_trans hm hl⟩

theorem countDown_remaining (pending : Option Nat) (reads : Nat) :
    DoorbellPeer.countDown (remaining pending reads) =
      (remaining pending (reads + 1), due pending (reads + 1) && !due pending reads) := by
  cases pending with
  | none => rfl
  | some left =>
    by_cases hn : max left 1 ≤ reads
    · have hd : due (some left) reads = true := decide_eq_true hn
      have hl : due (some left) (reads + 1) = true := decide_eq_true (by omega)
      rw [remaining, remaining, hd, hl]
      rfl
    · have hd : due (some left) reads = false := decide_eq_false hn
      have hr : remaining (some left) reads = some (left - reads) := by
        rw [remaining, hd]
        rfl
      rw [hr, DoorbellPeer.countDown, hd, Bool.not_false, Bool.and_true]
      by_cases hl : max left 1 ≤ reads + 1
      · have hl' : due (some left) (reads + 1) = true := decide_eq_true hl
        rw [if_pos (by omega), remaining, hl']
        rfl
      · have hl' : due (some left) (reads + 1) = false := decide_eq_false hl
        rw [if_neg (by omega), remaining, hl']
        rfl

def flags (acknowledge available : Bool) : UInt32 :=
  (if acknowledge then Status.acknowledge else 0) ||| (if available then Status.available else 0)

theorem flags_or (p q r s : Bool) : flags p q ||| flags r s = flags (p || r) (q || s) := by
  revert p q r s
  decide

theorem or_and_eq_or (x y z : UInt32) : (x ||| y) &&& z = x &&& z ||| y &&& z :=
  UInt32.toBitVec_inj.1 BitVec.and_or_distrib_right

theorem or_flags_acknowledge (status : UInt32) (p q : Bool) :
    (status ||| flags p q) &&& Status.acknowledge = 0 ↔
      status &&& Status.acknowledge = 0 ∧ p = false := by
  have hf : ∀ p q : Bool, flags p q &&& Status.acknowledge = 0 ↔ p = false := by decide
  rw [or_and_eq_or, UInt32.or_eq_zero_iff, hf]

theorem or_flags_available (status : UInt32) (p q : Bool) :
    (status ||| flags p q) &&& Status.available = 0 ↔
      status &&& Status.available = 0 ∧ q = false := by
  have hf : ∀ p q : Bool, flags p q &&& Status.available = 0 ↔ q = false := by decide
  rw [or_and_eq_or, UInt32.or_eq_zero_iff, hf]

namespace Block

/-- The block once some bits came due, the acknowledge together with the answer of a responder. -/
def shown (b : Block) (acknowledge available : Bool) : Block :=
  { b with
    status := b.status ||| flags acknowledge (available || acknowledge && b.responder.isSome)
    response := if acknowledge then b.responder.elim b.response (· b.request) else b.response }

def polled (b : Block) (reads : Nat) : Block :=
  { b.shown (due b.pending.acknowledge reads) (due b.pending.available reads) with
    pending := ⟨remaining b.pending.acknowledge reads, remaining b.pending.available reads⟩ }

theorem poll_eq (b : Block) :
    b.poll =
      let acknowledge := DoorbellPeer.countDown b.pending.acknowledge
      let available := DoorbellPeer.countDown b.pending.available
      { b.shown acknowledge.2 available.2 with pending := ⟨acknowledge.1, available.1⟩ } := by
  rw [poll]
  generalize DoorbellPeer.countDown b.pending.acknowledge = acknowledge
  generalize DoorbellPeer.countDown b.pending.available = available
  obtain ⟨left, fired⟩ := acknowledge
  obtain ⟨left', fired'⟩ := available
  cases fired <;> cases fired' <;> cases hr : b.responder <;>
    simp [shown, Block.acknowledge, raise, flags, hr, UInt32.or_assoc]

theorem polled_zero (b : Block) : b.polled 0 = b := by
  simp [polled, shown, flags, remaining_zero]

theorem poll_polled (b : Block) (reads : Nat) : (b.polled reads).poll = b.polled (reads + 1) := by
  have ha := countDown_remaining b.pending.acknowledge reads
  have hv := countDown_remaining b.pending.available reads
  have hma : due b.pending.acknowledge reads → due b.pending.acknowledge (reads + 1) :=
    (due_mono · (by omega))
  have hmv : due b.pending.available reads → due b.pending.available (reads + 1) :=
    (due_mono · (by omega))
  rw [poll_eq]
  simp only [polled, shown, ha, hv, UInt32.or_assoc, flags_or]
  generalize due b.pending.acknowledge reads = p at *
  generalize due b.pending.acknowledge (reads + 1) = p' at *
  generalize due b.pending.available reads = q at *
  generalize due b.pending.available (reads + 1) = q' at *
  cases p <;> cases p' <;> cases q <;> cases q' <;> simp_all

theorem poll_eq_polled (b : Block) : b.poll = b.polled 1 := by
  rw [← poll_polled, polled_zero]

theorem acknowledge_polled (b : Block) (reads : Nat) :
    (b.polled reads).status &&& Status.acknowledge = 0 ↔
      b.status &&& Status.acknowledge = 0 ∧ due b.pending.acknowledge reads = false :=
  or_flags_acknowledge _ _ _

theorem available_polled (b : Block) (reads : Nat) :
    (b.polled reads).status &&& Status.available = 0 ↔
      b.status &&& Status.available = 0 ∧
        (due b.pending.available reads ||
          due b.pending.acknowledge reads && b.responder.isSome) = false :=
  or_flags_available _ _ _

end Block

/-- The peer some time later: what its block has become, and the time that has passed. -/
structure Reaches (doorbell : Doorbell) (peer after : DoorbellPeer) (b : Block) (polls : Nat) :
    Prop where
  block : after.blockAt doorbell.address = b
  stalls : after.stalls = peer.stalls + polls
  elapsed : after.elapsed = peer.elapsed + polls * doorbell.interval

theorem Reaches.trans {doorbell : Doorbell} {peer middle after : DoorbellPeer} {b b' : Block}
    {polls polls' : Nat} (h : Reaches doorbell peer middle b polls)
    (h' : Reaches doorbell middle after b' polls') :
    Reaches doorbell peer after b' (polls + polls') := by
  refine ⟨h'.block, ?_, ?_⟩
  · rw [h'.stalls, h.stalls, Nat.add_assoc]
  · rw [h'.elapsed, h.elapsed, Nat.add_mul, Nat.add_assoc]

theorem Reaches.write {doorbell : Doorbell} {peer middle : DoorbellPeer} {b : Block} {polls : Nat}
    {offset : UInt64} (ha : DoorbellPeer.block doorbell.address = doorbell.address)
    (ho : offset < Doorbell.stride) (value : UInt32) (h : Reaches doorbell peer middle b polls) :
    Reaches doorbell peer (RegisterBus.write (doorbell.address + offset) value middle)
      (b.write offset value) polls := by
  have hb := DoorbellPeer.blockAt_write middle ha ho value
  obtain ⟨hs, he⟩ := DoorbellPeer.clock_write middle ha ho value
  rw [h.block] at hb
  exact ⟨hb, hs.trans h.stalls, he.trans h.elapsed⟩

section

variable {doorbell : Doorbell} (ha : DoorbellPeer.block doorbell.address = doorbell.address)
  {peer : DoorbellPeer} {b : Block} {bit : UInt32}

include ha

theorem read_status (peer : DoorbellPeer) :
    ∃ after, Reaches doorbell peer after (peer.blockAt doorbell.address).poll 0 ∧
      RegisterBus.read (doorbell.address + Register.status) peer =
        ((peer.blockAt doorbell.address).poll.status, after) := by
  have hb := DoorbellPeer.blockAt_onStatusRead doorbell.address peer
  obtain ⟨hs, he⟩ := DoorbellPeer.clock_onStatusRead doorbell.address peer
  refine ⟨peer.onStatusRead doorbell.address, ⟨hb, hs, ?_⟩, ?_⟩
  · rw [Nat.zero_mul]
    exact he
  · rw [← hb]
    exact DoorbellPeer.read_offset ha (by decide) peer

theorem run_await_succ (peer : DoorbellPeer) (bit : UInt32) (polls : Nat) :
    ∃ after, Reaches doorbell peer after (peer.blockAt doorbell.address).poll 1 ∧
      (doorbell.await bit (polls + 1)).run peer =
        if (peer.blockAt doorbell.address).poll.status &&& bit = 0 then
          (doorbell.await bit polls).run after
        else .ok () after := by
  have hw : Reaches doorbell peer (RegisterBus.stall doorbell.interval peer)
      (peer.blockAt doorbell.address) 1 := ⟨rfl, rfl, by rw [Nat.one_mul]; rfl⟩
  obtain ⟨after, hf, hr⟩ := read_status ha (RegisterBus.stall doorbell.interval peer)
  rw [hw.block] at hf hr
  refine ⟨after, hw.trans hf, ?_⟩
  simp only [Doorbell.await, EStateM.run_bind, run_stall, run_readRegister, hr]
  split <;> rfl

/-- A wait goes on after `reads` reads and ends with the first read that shows the bit. -/
theorem run_await_later_of_shown {polls reads last : Nat}
    (hp : peer.blockAt doorbell.address = b.polled reads)
    (hr : reads < last) (hl : last ≤ reads + polls)
    (hz : ∀ i, reads < i → i < last → (b.polled i).status &&& bit = 0)
    (hs : (b.polled last).status &&& bit ≠ 0) :
    ∃ after, Reaches doorbell peer after (b.polled last) (last - reads) ∧
      (doorbell.await bit polls).run peer = .ok () after := by
  -- the polls that are left go down as the reads made so far go up
  induction polls generalizing peer reads with
  | zero => omega
  | succ polls ih =>
    obtain ⟨middle, hm, he⟩ := run_await_succ ha peer bit polls
    rw [hp, Block.poll_polled] at hm he
    rw [he]
    by_cases hn : reads + 1 = last
    · subst hn
      rw [if_neg hs]
      refine ⟨middle, ?_, rfl⟩
      rw [Nat.add_sub_cancel_left]
      exact hm
    · rw [if_pos (hz (reads + 1) (by omega) (by omega))]
      obtain ⟨after, hf, hrun⟩ :=
        ih hm.block (by omega) (by omega) fun i hi hl => hz i (by omega) hl
      refine ⟨after, ?_, hrun⟩
      have ht := hm.trans hf
      rwa [show 1 + (last - (reads + 1)) = last - reads by omega] at ht

theorem run_await_later_of_hidden {polls reads : Nat}
    (hp : peer.blockAt doorbell.address = b.polled reads)
    (hz : ∀ i, reads < i → i ≤ reads + polls → (b.polled i).status &&& bit = 0) :
    ∃ after, Reaches doorbell peer after (b.polled (reads + polls)) polls ∧
      (doorbell.await bit polls).run peer = .error .timeout after := by
  induction polls generalizing peer reads with
  | zero => exact ⟨peer, ⟨hp, rfl, by omega⟩, rfl⟩
  | succ polls ih =>
    obtain ⟨middle, hm, he⟩ := run_await_succ ha peer bit polls
    rw [hp, Block.poll_polled] at hm he
    rw [he, if_pos (hz (reads + 1) (by omega) (by omega))]
    obtain ⟨after, hf, hrun⟩ := ih hm.block fun i hi hl => hz i (by omega) (by omega)
    refine ⟨after, ?_, hrun⟩
    have ht := hm.trans hf
    rwa [show 1 + polls = polls + 1 by omega, show reads + 1 + polls = reads + (polls + 1) by omega]
      at ht

theorem run_await_of_shown {polls last : Nat} (hp : peer.blockAt doorbell.address = b)
    (h0 : 0 < last) (hl : last ≤ polls)
    (hz : ∀ i, 0 < i → i < last → (b.polled i).status &&& bit = 0)
    (hs : (b.polled last).status &&& bit ≠ 0) :
    ∃ after, Reaches doorbell peer after (b.polled last) last ∧
      (doorbell.await bit polls).run peer = .ok () after := by
  rw [← b.polled_zero] at hp
  exact run_await_later_of_shown ha hp h0 (by omega) hz hs

/-- A wait fails once all its reads have not shown the bit. -/
theorem run_await_of_hidden {polls : Nat} (hp : peer.blockAt doorbell.address = b)
    (hz : ∀ i, 0 < i → i ≤ polls → (b.polled i).status &&& bit = 0) :
    ∃ after, Reaches doorbell peer after (b.polled polls) polls ∧
      (doorbell.await bit polls).run peer = .error .timeout after := by
  rw [← b.polled_zero] at hp
  have hz' : ∀ i, 0 < i → i ≤ 0 + polls → (b.polled i).status &&& bit = 0 :=
    fun i hi hl => hz i hi (by omega)
  have h := run_await_later_of_hidden ha hp hz'
  rwa [Nat.zero_add] at h

end

end PlatformFirmware.Simulation
