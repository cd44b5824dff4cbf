import PlatformFirmware.Mailbox.Service
import PlatformFirmware.Proofs.Mailbox.Accesses
import PlatformFirmware.Proofs.Mailbox.CommandWord

namespace PlatformFirmware.Mailbox

open Traced

namespace I2cTransfer

variable {transfer : I2cTransfer}

theorem not_valid_iff :
    ¬ transfer.Valid ↔ 1 < transfer.device ∨ 0x7F < transfer.chip ∨ 4 < transfer.addressLength ∨
      transfer.dataLength = 0 ∨ 4 < transfer.dataLength := by
  simp only [Valid, not_and_or, UInt8.not_le, ne_eq, not_not]

theorem command_of_not_valid (h : ¬ transfer.Valid) (subtype : UInt8) :
    transfer.command subtype = .error .invalidParameter :=
  if_neg h

theorem exists_command (h : transfer.Valid) (subtype : UInt8) :
    ∃ word, transfer.command subtype = .ok word :=
  ⟨_, if_pos h⟩

theorem toNat_dataMask {length : UInt8} (h : length ≤ 4) :
    (dataMask length).toNat = 2 ^ (8 * length.toNat) - 1 := by
  have hl : length.toNat ≤ 4 := UInt8.le_iff_toNat_le.1 h
  have hn : length.toNat = 0 ∨ length.toNat = 1 ∨ length.toNat = 2 ∨ length.toNat = 3 ∨
      length.toNat = 4 := by omega
  rcases hn with h | h | h | h | h
  all_goals
    obtain rfl := UInt8.toNat_inj.1 (h.trans (UInt8.toNat_ofNat_of_lt' (by decide)).symm)
    decide

/-- Masked data is what its lowest bytes say. -/
theorem toNat_and_dataMask {length : UInt8} (h : length ≤ 4) (data : UInt32) :
    (data &&& dataMask length).toNat = data.toNat % 256 ^ length.toNat := by
  have hm : (dataMask length).toNat = (2 ^ (8 * length.toNat) - 1) <<< 0 := toNat_dataMask h
  rw [Command.toNat_and 0 _ hm, Nat.pow_zero, Nat.div_one, Nat.mul_one, Nat.pow_mul]

end I2cTransfer

namespace Doorbell

variable {σ : Type} [RegisterBus σ] (doorbell : Doorbell)

/-- How an exchange goes: the register accesses it makes, and the response or the error it ends
with. A response counts if it repeats the class and the subtype over a control byte of zero. -/
inductive Exchanged (request : Message) : List Event → Except Efi.Error Message → Prop
  | unacknowledged {left : UInt32} {seen : List UInt32}
      (hs : Waited Status.acknowledge doorbell.polls seen false) :
      Exchanged request (doorbell.sendAccesses request left seen false) (.error .timeout)
  | unanswered {left : UInt32} {seen looked : List UInt32}
      (hs : Waited Status.acknowledge doorbell.polls seen true)
      (hl : Waited Status.available doorbell.polls looked false) :
      Exchanged request (doorbell.sendAccesses request left seen true ++ doorbell.rounds looked)
        (.error .timeout)
  | rejected {left : UInt32} {seen looked : List UInt32} {response : Message}
      (hs : Waited Status.acknowledge doorbell.polls seen true)
      (hl : Waited Status.available doorbell.polls looked true)
      (hr : Command.header response.command ≠
        { Command.header request.command with control := 0 }) :
      Exchanged request (doorbell.sendAccesses request left seen true ++
        doorbell.receiveAccesses response looked true) (.error .deviceError)
  | answered {left : UInt32} {seen looked : List UInt32} {response : Message}
      (hs : Waited Status.acknowledge doorbell.polls seen true)
      (hl : Waited Status.available doorbell.polls looked true)
      (hr : Command.header response.command =
        { Command.header request.command with control := 0 }) :
      Exchanged request (doorbell.sendAccesses request left seen true ++
        doorbell.receiveAccesses response looked true) (.ok response)

theorem makes_exchange (request : Message) (peer : σ) :
    ∃ events result, doorbell.Exchanged request events (outcome result) ∧
      Makes (doorbell.exchange request) (doorbell.exchange request) peer events result := by
  obtain ⟨left, seen, acknowledged, sent, hs, hsend⟩ := doorbell.makes_send request peer
  cases acknowledged with
  | false => exact ⟨_, .error .timeout sent, .unacknowledged hs, hsend.bind_error⟩
  | true =>
    obtain ⟨response, looked, available, taken, hl, hreceive⟩ := doorbell.makes_receive sent
    cases available with
    | false =>
      refine ⟨_, .error .timeout taken, .unanswered hs hl, hsend.bind ?_⟩
      rw [receiveAccesses, if_neg Bool.false_ne_true, List.append_nil] at hreceive
      exact hreceive.bind_error
    | true =>
      by_cases hr : Command.header response.command =
          { Command.header request.command with control := 0 }
      · refine ⟨_, .ok response taken, .answered hs hl hr, hsend.bind ?_⟩
        rw [← List.append_nil (doorbell.receiveAccesses response looked true)]
        refine hreceive.bind ?_
        simp only [(Command.checkResponse_eq_ok_iff _ _).2 hr]
        exact makes_pure response taken
      · refine ⟨_, .error .deviceError taken, .rejected hs hl hr, hsend.bind ?_⟩
        rw [← List.append_nil (doorbell.receiveAccesses response looked true)]
        refine hreceive.bind ?_
        simp only [Command.checkResponse_of_ne hr]
        exact makes_throw _ taken

section

variable {transfer : I2cTransfer} {command : UInt32}

theorem readI2c_of_not_valid (h : ¬ transfer.Valid) (register : UInt32) (s : σ) :
    (doorbell.readI2c transfer register).run s = .error .invalidParameter s := by
  rw [readI2c, query, Request.message, I2cTransfer.command_of_not_valid h]
  rfl

theorem writeI2c_of_not_valid (h : ¬ transfer.Valid) (register data : UInt32) (s : σ) :
    (doorbell.writeI2c transfer register data).run s = .error .invalidParameter s := by
  rw [writeI2c, notify, Request.message, I2cTransfer.command_of_not_valid h]
  rfl

theorem readI2c_eq (h : transfer.command 0x4 = .ok command) (register : UInt32) :
    (doorbell.readI2c transfer register : Firmware σ UInt32) =
      (do
        let response ← doorbell.exchange ⟨command, register, 0⟩
        return response.parameter0 &&& I2cTransfer.dataMask transfer.dataLength) := by
  rw [readI2c, query, Request.message, h]
  rfl

theorem writeI2c_eq (h : transfer.command 0x5 = .ok command) (register data : UInt32) :
    (doorbell.writeI2c transfer register data : Firmware σ Unit) =
      doorbell.send ⟨command, register, data &&& I2cTransfer.dataMask transfer.dataLength⟩ := by
  rw [writeI2c, notify, Request.message, h]
  rfl

theorem makes_readI2c (h : transfer.command 0x4 = .ok command) (register : UInt32) (peer : σ) :
    ∃ events ended result, doorbell.Exchanged ⟨command, register, 0⟩ events ended ∧
      Makes (doorbell.readI2c transfer register) (doorbell.readI2c transfer register) peer events
        result ∧
      outcome result = ended.map fun response =>
        response.parameter0 &&& I2cTransfer.dataMask transfer.dataLength := by
  obtain ⟨events, asked, he, hm⟩ := doorbell.makes_exchange ⟨command, register, 0⟩ peer
  rw [doorbell.readI2c_eq h, doorbell.readI2c_eq h]
  cases asked with
  | error e after => exact ⟨events, _, _, he, hm.bind_error, rfl⟩
  | ok response after =>
    refine ⟨events, _, .ok _ after, he, ?_, rfl⟩
    rw [← List.append_nil events]
    exact hm.bind (makes_pure _ after)

theorem makes_writeI2c (h : transfer.command 0x5 = .ok command) (register data : UInt32)
    (peer : σ) :
    ∃ left seen shown after, Waited Status.acknowledge doorbell.polls seen shown ∧
      Makes (doorbell.writeI2c transfer register data) (doorbell.writeI2c transfer register data)
        peer
        (doorbell.sendAccesses
          ⟨command, register, data &&& I2cTransfer.dataMask transfer.dataLength⟩ left seen shown)
        (if shown then .ok () after else .error .timeout after) := by
  rw [doorbell.writeI2c_eq h, doorbell.writeI2c_eq h]
  exact doorbell.makes_send _ peer

end

/-- A transfer that does not fit is refused with nothing touched. Any other is asked for by a
command word that gives it back, of the subtype of its direction. What is written is the data modulo
the range of its length, what is read the first word of the response modulo that range, and an
exchange that ends with an error ends the read with the same. -/
theorem i2c_passed_through (transfer : I2cTransfer) (register data : UInt32) (traced : Traced σ) :
    let reading := (doorbell.readI2c transfer register).run traced
    let writing := (doorbell.writeI2c transfer register data).run traced
    if 1 < transfer.device ∨ 0x7F < transfer.chip ∨ 4 < transfer.addressLength ∨
        transfer.dataLength = 0 ∨ 4 < transfer.dataLength then
      reading = .error .invalidParameter traced ∧ writing = .error .invalidParameter traced
    else
      (∃ command events ended, I2cTransfer.ofCommand command = transfer ∧
        Command.header command =
          ⟨MessageClass.debug.code, 0x4, transfer.device * 128 + transfer.chip⟩ ∧
        doorbell.Exchanged ⟨command, register, 0⟩ events ended ∧
        (final reading).events = traced.events ++ events.toArray ∧
        (outcome reading).map UInt32.toNat = ended.map fun response =>
          response.parameter0.toNat % 256 ^ transfer.dataLength.toNat) ∧
      ∃ command parameter1 left seen shown, I2cTransfer.ofCommand command = transfer ∧
        Command.header command =
          ⟨MessageClass.debug.code, 0x5, transfer.device * 128 + transfer.chip⟩ ∧
        parameter1.toNat = data.toNat % 256 ^ transfer.dataLength.toNat ∧
        Waited Status.acknowledge doorbell.polls seen shown ∧
        (final writing).events = traced.events ++
          (doorbell.sendAccesses ⟨command, register, parameter1⟩ left seen shown).toArray ∧
        outcome writing = if shown then .ok () else .error .timeout := by
  intro reading writing
  split
  · next h =>
    rw [← I2cTransfer.not_valid_iff] at h
    exact ⟨doorbell.readI2c_of_not_valid h register traced,
      doorbell.writeI2c_of_not_valid h register data traced⟩
  · next h =>
    have hv : transfer.Valid := not_not.1 (mt I2cTransfer.not_valid_iff.1 h)
    have hl : transfer.dataLength ≤ 4 := hv.2.2.2.2
    constructor
    · obtain ⟨command, hc⟩ := I2cTransfer.exists_command hv 0x4
      obtain ⟨events, ended, result, he, hm, ho⟩ := doorbell.makes_readI2c hc register traced.peer
      have hr : reading = attach _ _ := hm.run_traced traced.events
      refine ⟨command, events, ended, I2cTransfer.ofCommand_command hc,
        I2cTransfer.header_command hc (by decide), he, ?_, ?_⟩
      · rw [hr, events_attach]
      · rw [hr, outcome_attach, ho]
        cases ended with
        | error e => rfl
        | ok response => exact congrArg _ (I2cTransfer.toNat_and_dataMask hl response.parameter0)
    · obtain ⟨command, hc⟩ := I2cTransfer.exists_command hv 0x5
      obtain ⟨left, seen, shown, after, hs, hm⟩ :=
        doorbell.makes_writeI2c hc register data traced.peer
      have hr : writing = attach _ _ := hm.run_traced traced.events
      refine ⟨command, _, left, seen, shown, I2cTransfer.ofCommand_command hc,
        I2cTransfer.header_command hc (by decide), I2cTransfer.toNat_and_dataMask hl data, hs,
        ?_, ?_⟩
      · rw [hr, events_attach]
      · rw [hr, outcome_attach]
        cases shown <;> rfl

end Doorbell

end PlatformFirmware.Mailbox
