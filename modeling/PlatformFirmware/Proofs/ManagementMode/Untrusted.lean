import PlatformFirmware.Proofs.ManagementMode.Checked
import PlatformFirmware.Proofs.ManagementMode.Delivery
import PlatformFirmware.Simulation.SecureWorld

namespace PlatformFirmware.ManagementMode

variable {σ : Type}

def claimedLength (memory : Bytes) : Nat := Bytes.ofLittleEndian (Bytes.slice memory 16 8)

def Genuine (recipient : Efi.Guid) (memory : Bytes) : Prop :=
  memory.take 16 = recipient.bytes ∧ claimedLength memory ≤ memory.length - Header.size

instance (recipient : Efi.Guid) (memory : Bytes) : Decidable (Genuine recipient memory) :=
  inferInstanceAs (Decidable (_ ∧ _))

theorem claimedLength_lt (memory : Bytes) : claimedLength memory < 2 ^ 64 := by
  have hb := Bytes.ofLittleEndian_lt (Bytes.slice memory 16 8)
  have hl : (Bytes.slice memory 16 8).length ≤ 8 := List.length_take_le ..
  exact Nat.lt_of_lt_of_le hb (Nat.pow_le_pow_right (by decide) hl)

namespace Buffer

theorem header_of_le {buffer : Buffer} (h : Header.size ≤ buffer.memory.length) :
    ∃ header, buffer.header = .ok header ∧ header.recipient.bytes = buffer.memory.take 16 ∧
      header.messageLength.toNat = claimedLength buffer.memory := by
  rw [header, Header.ofBytes?_of_le h]
  exact ⟨_, rfl, rfl, UInt64.toNat_ofNat_of_lt' (claimedLength_lt _)⟩

/-- What a buffer with a recipient holds is settled by its bytes. -/
theorem message_eq_ok_iff {recipient : Efi.Guid} {buffer : Buffer} {message : Bytes}
    (hr : buffer.recipient = some recipient) (hl : Header.size ≤ buffer.memory.length) :
    buffer.message = .ok message ↔ Genuine recipient buffer.memory ∧
      message = Bytes.slice buffer.memory Header.size (claimedLength buffer.memory) := by
  obtain ⟨header, hh, hg, hc⟩ := header_of_le hl
  have hn : buffer.recipient.any (· ≠ header.recipient) =
      decide (buffer.memory.take 16 ≠ recipient.bytes) := by
    rw [hr, ← hg, Option.any_some, decide_eq_decide, ne_comm, not_iff_not]
    exact Efi.Guid.bytes_inj.symm
  rw [Buffer.message, hh]
  simp only [bind, Except.bind, hn, hc, capacity, decide_eq_true_eq]
  split
  · next h =>
    have hg : ¬ Genuine recipient buffer.memory := fun hg => h hg.1
    simp [hg]
  · next h =>
    split
    · next hc =>
      have hg : ¬ Genuine recipient buffer.memory := fun hg => Nat.not_le.2 hc hg.2
      simp [hg]
    · next hc =>
      have hg : Genuine recipient buffer.memory := ⟨not_not.1 h, Nat.not_lt.1 hc⟩
      simp only [pure, Except.pure, Except.ok.injEq, hg, true_and, eq_comm]

end Buffer

section

variable {execute : Executor σ} {data : Bytes} {recipient : Efi.Guid} {buffer left : Buffer}
  {later : σ}

theorem run_exchange_of_executed {world : σ}
    (hf : Header.size + data.length ≤ buffer.memory.length)
    (hx : execute.run (buffer.filled recipient data, world) = .ok () (left, later)) :
    (Communicator.exchange execute data recipient).run (buffer, world) =
      (MonadExcept.ofExcept (left.message.mapError fun _ => .invalidResponse) :
        BufferAction σ Bytes).run (left, later) := by
  simp only [Communicator.exchange, EStateM.run_bind, run_fill _ _ _ _ _ hf, hx, run_read,
    run_ofExcept]
  cases left.message <;> rfl

theorem run_communicate_of_executed {communicator : Communicator σ} {id : UInt8} {position : Nat}
    (hi : communicator.buffers.findIdx? (·.id = id) = some position)
    (hp : communicator.buffers[position]? = some buffer) (hd : data ≠ [])
    (hf : Header.size + data.length ≤ buffer.memory.length)
    (hx : execute.run (buffer.filled recipient data, communicator.secure) = .ok () (left, later)) :
    (Communicator.communicate execute id data recipient).run communicator =
      (MonadExcept.ofExcept (left.message.mapError fun _ => .invalidResponse) :
        EStateM Status (Communicator σ) Bytes).run
          ⟨communicator.buffers.set position left, later⟩ := by
  rw [Communicator.run_communicate_of_fits hi hp hd hf, Communicator.onBuffer, run_focus,
    run_exchange_of_executed hf hx]
  cases left.message <;> rfl

end

/-- A secure world that reports success may have rewritten the bytes of the buffer in any way. What
comes back is a message of the recipient that lies in the buffer, or else the response is refused,
and in no case is an index out of the buffer or a sum beyond a machine word. -/
theorem response_of_rewritten {execute : Executor σ} {communicator : Communicator σ} {id : UInt8}
    {data : Bytes} {recipient : Efi.Guid} {buffer : Buffer} {memory : Bytes} {later : σ}
    (hb : communicator.buffers.find? (·.id = id) = some buffer)
    (hs : ∀ buffer ∈ communicator.buffers, buffer.memory.length < 2 ^ 64) (hd : data ≠ [])
    (hf : Header.size + data.length ≤ buffer.memory.length)
    (hm : memory.length = buffer.memory.length)
    (hx : execute.run (buffer.filled recipient data, communicator.secure) =
      .ok () ({ buffer.filled recipient data with memory }, later)) :
    let ended := (Communicator.communicate execute id data recipient).run communicator
    (∀ response, outcome ended = .ok response ↔
      Genuine recipient memory ∧
        response = Bytes.slice memory Header.size (claimedLength memory)) ∧
    (¬ Genuine recipient memory → outcome ended = .error .invalidResponse) ∧
    (final ended).buffers.find? (·.id = id) = some { buffer.filled recipient data with memory } ∧
    (Communicator.communicate? execute id data recipient).run communicator =
      (EStateM.adaptExcept some (Communicator.communicate execute id data recipient)).run
        communicator := by
  intro ended
  obtain ⟨position, hi, hp⟩ := Communicator.position_of_find? hb
  have he : ended = _ := run_communicate_of_executed hi hp hd hf hx
  have hl : Header.size ≤ memory.length := by omega
  have hg (response : Bytes) :
      ({ buffer.filled recipient data with memory }).message = .ok response ↔
        Genuine recipient memory ∧
          response = Bytes.slice memory Header.size (claimedLength memory) :=
    Buffer.message_eq_ok_iff rfl hl
  refine ⟨fun response => ?_, fun hn => ?_, ?_, ?_⟩
  · rw [he, outcome_run_ofExcept, mapError_eq_ok_iff]
    exact hg response
  · rw [he, outcome_run_ofExcept]
    cases hr : ({ buffer.filled recipient data with memory }).message with
    | ok response => exact absurd ((hg response).1 hr).1 hn
    | error e => rfl
  · have hid : buffer.id = id := by simpa using List.find?_some hb
    rw [he, final_run_ofExcept]
    exact find?_set_position hi hid
  · have hsize := hs buffer (List.mem_of_find?_eq_some hb)
    apply Communicator.run_communicate? hs (by omega)
    intro other left later' ho he
    cases hb.symm.trans ho
    cases hx.symm.trans he
    exact hm ▸ hsize

open Simulation (SecureWorld)

def claimingBuffer : Buffer := { id := 3, address := 0x80000000, memory := List.replicate 30 0xA5 }

def claimingCommunicator (length : UInt64) : Communicator SecureWorld where
  buffers := [claimingBuffer]
  secure := { rounds := [{ writes := [(16, Bytes.word64 length)] }] }

def claimedMemory (length : UInt64) : Bytes :=
  someGuid.bytes ++ Bytes.word64 length ++ [1, 2, 3, 0, 0, 0]

theorem response_of_rewritten_claiming :
    outcome ((Communicator.communicate SecureWorld.executeRound 3 [1, 2, 3] someGuid).run
        (claimingCommunicator 5)) = .ok [1, 2, 3, 0, 0] ∧
      outcome ((Communicator.communicate SecureWorld.executeRound 3 [1, 2, 3] someGuid).run
        (claimingCommunicator 0xFFFFFFFFFFFFFFFF)) = .error .invalidResponse := by
  have hb (length : UInt64) :
      (claimingCommunicator length).buffers.find? (·.id = 3) = some claimingBuffer := rfl
  have hs (length : UInt64) :
      ∀ buffer ∈ (claimingCommunicator length).buffers, buffer.memory.length < 2 ^ 64 :=
    List.forall_mem_singleton.2 (by decide)
  have hx (length : UInt64) :
      SecureWorld.executeRound.run
          (claimingBuffer.filled someGuid [1, 2, 3], (claimingCommunicator length).secure) =
        .ok () ({ claimingBuffer.filled someGuid [1, 2, 3] with
          memory := claimedMemory length }, {}) := rfl
  have hd : [1, 2, 3] ≠ ([] : Bytes) := by decide
  have hf : Header.size + [1, 2, 3].length ≤ claimingBuffer.memory.length := by decide
  have hm (length : UInt64) : (claimedMemory length).length = claimingBuffer.memory.length := rfl
  have h (length : UInt64) :=
    response_of_rewritten (hb length) (hs length) hd hf (hm length) (hx length)
  exact ⟨((h 5).1 _).2 (by decide), (h 0xFFFFFFFFFFFFFFFF).2.1 (by decide)⟩

end PlatformFirmware.ManagementMode
