import PlatformFirmware.Mailbox.Doorbell
import PlatformFirmware.Proofs.Trace

namespace PlatformFirmware.Mailbox

open Traced

/-- A wait for a bit: the statuses it saw, one a round, and whether the last of them shows the
bit. -/
structure Waited (bit : UInt32) (polls : Nat) (seen : List UInt32) (shown : Bool) : Prop where
  length_le : seen.length ≤ polls
  hidden : ∀ status ∈ seen.dropLast, status &&& bit = 0
  shown_iff : shown = true ↔ ∃ status, seen.getLast? = some status ∧ status &&& bit ≠ 0
  exhausted : shown = false → seen.length = polls

namespace Waited

variable {bit status : UInt32} {polls : Nat} {seen : List UInt32} {shown : Bool}

theorem zero (bit : UInt32) : Waited bit 0 [] false :=
  ⟨Nat.le_refl 0, by simp, by simp, fun _ => rfl⟩

theorem of_shown (polls : Nat) (h : status &&& bit ≠ 0) : Waited bit (polls + 1) [status] true :=
  ⟨by simp, by simp, by simpa using h, by simp⟩

theorem cons (hs : status &&& bit = 0) (h : Waited bit polls seen shown) :
    Waited bit (polls + 1) (status :: seen) shown := by
  refine ⟨Nat.succ_le_succ h.length_le, ?_, ?_, fun hn => congrArg (· + 1) (h.exhausted hn)⟩
  · cases seen with
    | nil => simp
    | cons first rest => simpa [hs] using h.hidden
  · rw [h.shown_iff]
    cases seen with
    | nil => simp [hs]
    | cons first rest => rw [List.getLast?_cons_cons]

end Waited

namespace Doorbell

variable {σ : Type} [RegisterBus σ] (doorbell : Doorbell)

def rounds (seen : List UInt32) : List Event :=
  seen.flatMap fun status =>
    [.stall doorbell.interval, .read (doorbell.address + Register.status) status]

def deliverAccesses (message : Message) (seen : List UInt32) (shown : Bool) : List Event :=
  [.write (doorbell.address + Register.parameter0In) message.parameter0,
    .write (doorbell.address + Register.parameter1In) message.parameter1,
    .write (doorbell.address + Register.commandIn) message.command] ++
    (doorbell.rounds seen ++
      if shown then [.write (doorbell.address + Register.status) Status.acknowledge] else [])

/-- The accesses that send a message: `left` is the status found first, `seen` are those of the
wait. -/
def sendAccesses (message : Message) (left : UInt32) (seen : List UInt32) (shown : Bool) :
    List Event :=
  [.read (doorbell.address + Register.status) left] ++
    ((if left &&& Status.acknowledge ≠ 0 then
      [.write (doorbell.address + Register.status) Status.acknowledge]
    else []) ++ doorbell.deliverAccesses message seen shown)

def receiveAccesses (message : Message) (seen : List UInt32) (shown : Bool) : List Event :=
  doorbell.rounds seen ++
    if shown then
      [.read (doorbell.address + Register.parameter0Out) message.parameter0,
        .read (doorbell.address + Register.parameter1Out) message.parameter1,
        .read (doorbell.address + Register.commandOut) message.command,
        .write (doorbell.address + Register.status) Status.available]
    else []

theorem rounds_cons (status : UInt32) (seen : List UInt32) :
    doorbell.rounds (status :: seen) =
      [.stall doorbell.interval] ++
        ([.read (doorbell.address + Register.status) status] ++ doorbell.rounds seen) := rfl

theorem makes_await (bit : UInt32) (polls : Nat) (peer : σ) :
    ∃ seen shown after, Waited bit polls seen shown ∧
      Makes (doorbell.await bit polls) (doorbell.await bit polls) peer (doorbell.rounds seen)
        (if shown then .ok () after else .error .timeout after) := by
  induction polls generalizing peer with
  | zero => exact ⟨[], false, peer, .zero bit, makes_throw .timeout peer⟩
  | succ polls ih =>
    obtain ⟨rested, hw⟩ := makes_stall doorbell.interval peer
    obtain ⟨status, looked, hr⟩ :=
      makes_readRegister (doorbell.address + Register.status) rested
    by_cases hb : status &&& bit = 0
    · obtain ⟨seen, shown, after, hl, hm⟩ := ih looked
      refine ⟨status :: seen, shown, after, hl.cons hb, ?_⟩
      rw [rounds_cons]
      refine hw.bind (hr.bind ?_)
      simp only [if_pos hb]
      exact hm
    · refine ⟨[status], true, looked, .of_shown polls hb, ?_⟩
      rw [rounds_cons]
      refine hw.bind (hr.bind ?_)
      simp only [if_neg hb]
      exact makes_pure () looked

def deliver (message : Message) : Firmware σ Unit := do
  writeRegister (doorbell.address + Register.parameter0In) message.parameter0
  writeRegister (doorbell.address + Register.parameter1In) message.parameter1
  writeRegister (doorbell.address + Register.commandIn) message.command
  doorbell.await Status.acknowledge doorbell.polls
  writeRegister (doorbell.address + Register.status) Status.acknowledge

theorem send_eq (message : Message) :
    (doorbell.send message : Firmware σ Unit) =
      (do
        let status ← readRegister (doorbell.address + Register.status)
        if status &&& Status.acknowledge ≠ 0 then
          writeRegister (doorbell.address + Register.status) Status.acknowledge
        doorbell.deliver message) := rfl

theorem makes_deliver (message : Message) (peer : σ) :
    ∃ seen shown after, Waited Status.acknowledge doorbell.polls seen shown ∧
      Makes (doorbell.deliver message) (doorbell.deliver message) peer
        (doorbell.deliverAccesses message seen shown)
        (if shown then .ok () after else .error .timeout after) := by
  obtain ⟨written0, h0⟩ :=
    makes_writeRegister (doorbell.address + Register.parameter0In) message.parameter0 peer
  obtain ⟨written1, h1⟩ :=
    makes_writeRegister (doorbell.address + Register.parameter1In) message.parameter1 written0
  obtain ⟨started, h2⟩ :=
    makes_writeRegister (doorbell.address + Register.commandIn) message.command written1
  obtain ⟨seen, shown, waited, hl, hm⟩ :=
    doorbell.makes_await Status.acknowledge doorbell.polls started
  cases shown with
  | false =>
    refine ⟨seen, false, waited, hl, ?_⟩
    rw [deliverAccesses, if_neg Bool.false_ne_true, List.append_nil]
    exact h0.bind (h1.bind (h2.bind hm.bind_error))
  | true =>
    obtain ⟨after, hc⟩ :=
      makes_writeRegister (doorbell.address + Register.status) Status.acknowledge waited
    exact ⟨seen, true, after, hl, h0.bind (h1.bind (h2.bind (hm.bind hc)))⟩

theorem makes_send (message : Message) (peer : σ) :
    ∃ left seen shown after, Waited Status.acknowledge doorbell.polls seen shown ∧
      Makes (doorbell.send message) (doorbell.send message) peer
        (doorbell.sendAccesses message left seen shown)
        (if shown then .ok () after else .error .timeout after) := by
  obtain ⟨left, looked, hr⟩ := makes_readRegister (doorbell.address + Register.status) peer
  by_cases hb : left &&& Status.acknowledge ≠ 0
  · obtain ⟨cleared, hc⟩ :=
      makes_writeRegister (doorbell.address + Register.status) Status.acknowledge looked
    obtain ⟨seen, shown, after, hl, hm⟩ := doorbell.makes_deliver message cleared
    refine ⟨left, seen, shown, after, hl, ?_⟩
    rw [send_eq, send_eq, sendAccesses, if_pos hb]
    refine hr.bind ?_
    simp only [if_pos hb]
    exact hc.bind hm
  · obtain ⟨seen, shown, after, hl, hm⟩ := doorbell.makes_deliver message looked
    refine ⟨left, seen, shown, after, hl, ?_⟩
    rw [send_eq, send_eq, sendAccesses, if_neg hb]
    refine hr.bind ?_
    simp only [if_neg hb]
    exact hm

theorem makes_receive (peer : σ) :
    ∃ message seen shown after, Waited Status.available doorbell.polls seen shown ∧
      Makes doorbell.receive doorbell.receive peer (doorbell.receiveAccesses message seen shown)
        (if shown then .ok message after else .error .timeout after) := by
  obtain ⟨seen, shown, waited, hl, hm⟩ :=
    doorbell.makes_await Status.available doorbell.polls peer
  cases shown with
  | false =>
    refine ⟨{}, seen, false, waited, hl, ?_⟩
    rw [receiveAccesses, if_neg Bool.false_ne_true, List.append_nil]
    exact hm.bind_error
  | true =>
    obtain ⟨parameter0, read0, h0⟩ :=
      makes_readRegister (doorbell.address + Register.parameter0Out) waited
    obtain ⟨parameter1, read1, h1⟩ :=
      makes_readRegister (doorbell.address + Register.parameter1Out) read0
    obtain ⟨command, read2, h2⟩ :=
      makes_readRegister (doorbell.address + Register.commandOut) read1
    obtain ⟨after, hc⟩ :=
      makes_writeRegister (doorbell.address + Register.status) Status.available read2
    exact ⟨⟨command, parameter0, parameter1⟩, seen, true, after, hl,
      hm.bind (h0.bind (h1.bind (h2.bind (hc.bind (makes_pure _ after)))))⟩

/-- A message is sent and received by these accesses and no others, whatever the peer answers. With
the wait it succeeds or times out, and a message received is made of the words read. -/
theorem transaction_accesses (index : Nat) (base : UInt64) (interval polls : Nat)
    (traced : Traced σ) :
    let doorbell : Doorbell := ⟨blockAddress index base, interval, polls⟩
    doorbell.address = base + UInt64.ofNat index * 0x1000 ∧
    (∀ message, ∃ left seen shown, Waited Status.acknowledge polls seen shown ∧
      outcome ((doorbell.send message).run traced.peer) =
        (if shown then .ok () else .error .timeout) ∧
      (doorbell.send message).run traced =
        attach (traced.events ++ (doorbell.sendAccesses message left seen shown).toArray)
          ((doorbell.send message).run traced.peer)) ∧
    ∃ message seen shown, Waited Status.available polls seen shown ∧
      outcome (doorbell.receive.run traced.peer) =
        (if shown then .ok message else .error .timeout) ∧
      doorbell.receive.run traced =
        attach (traced.events ++ (doorbell.receiveAccesses message seen shown).toArray)
          (doorbell.receive.run traced.peer) := by
  intro doorbell
  refine ⟨rfl, fun message => ?_, ?_⟩
  · obtain ⟨left, seen, shown, after, hw, hm⟩ := doorbell.makes_send message traced.peer
    refine ⟨left, seen, shown, hw, ?_, ?_⟩
    · rw [hm.run]
      cases shown <;> rfl
    · rw [hm.run]
      exact hm.run_traced traced.events
  · obtain ⟨message, seen, shown, after, hw, hm⟩ := doorbell.makes_receive traced.peer
    refine ⟨message, seen, shown, hw, ?_, ?_⟩
    · rw [hm.run]
      cases shown <;> rfl
    · rw [hm.run]
      exact hm.run_traced traced.events

end Doorbell

end PlatformFirmware.Mailbox
