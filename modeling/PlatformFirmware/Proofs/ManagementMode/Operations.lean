import PlatformFirmware.Proofs.ManagementMode.Checked

namespace PlatformFirmware.ManagementMode.Buffer

inductive Operation
  | setRecipient (recipient : Efi.Guid)
  | setMessage (message : Bytes)
  | readMessage
  | readHeader
  | reset
  | overwrite (offset : Nat) (data : Bytes)

inductive Reply
  | done
  | message (message : Bytes)
  | header (header : Header)

/-- Works on a buffer step by step. What was done before a failure stays done, and a failure without
an error is an index out of the memory. -/
abbrev Steps : Type → Type := EStateM (Option BufferError) Buffer

namespace Steps

variable {α : Type}

def look (access : Buffer → Option (Except BufferError α)) : Steps α := do
  match access (← get) with
  | some (.ok a) => return a
  | some (.error e) => throw (some e)
  | none => throw none

def copy (start stop : Nat) (data : Bytes) : Steps Unit := do
  match copy? (← get).memory start stop data with
  | some memory => modify fun buffer => { buffer with memory }
  | none => throw none

def setRecipient (recipient : Efi.Guid) : Steps Unit := do
  if (← get).memory.length < Header.size then
    throw (some .tooSmallForHeader)
  modify fun buffer => { buffer with recipient := some recipient }

def setMessage (message : Bytes) : Steps Unit := do
  let buffer ← get
  if buffer.capacity < message.length then
    throw (some .tooSmallForMessage)
  match buffer.recipient with
  | none => throw (some .invalidRecipient)
  | some recipient =>
    modify fun buffer => { buffer with messageLength := message.length }
    copy 0 Header.size (Header.toBytes ⟨recipient, UInt64.ofNat message.length⟩)
    match sum? Header.size message.length with
    | none => throw none
    | some stop => copy Header.size stop message

theorem run_look (access : Buffer → Option (Except BufferError α)) (buffer : Buffer) :
    (look access).run buffer =
      match access buffer with
      | some (.ok a) => .ok a buffer
      | some (.error e) => .error (some e) buffer
      | none => .error none buffer := by
  simp only [look, EStateM.run_bind, EStateM.run_get]
  rcases access buffer with _ | _ | _ <;> rfl

theorem run_copy_of_eq {start stop : Nat} {data memory : Bytes} {buffer : Buffer}
    (h : copy? buffer.memory start stop data = some memory) :
    (copy start stop data).run buffer = .ok () { buffer with memory } := by
  simp only [copy, EStateM.run_bind, EStateM.run_get, h, EStateM.run_modify]

end Steps

namespace Operation

def perform (buffer : Buffer) : Operation → Except BufferError (Reply × Buffer)
  | setRecipient recipient => (buffer.setRecipient recipient).map (.done, ·)
  | setMessage message => (buffer.setMessage message).map (.done, ·)
  | readMessage => buffer.message.map (.message ·, buffer)
  | readHeader => buffer.header.map (.header ·, buffer)
  | reset => .ok (.done, buffer.reset)
  | overwrite offset data => .ok (.done, buffer.overwrite offset data)

def after (buffer : Buffer) (operation : Operation) : Buffer :=
  match operation.perform buffer with
  | .ok (_, after) => after
  | .error _ => buffer

def steps : Operation → Steps Reply
  | setRecipient recipient => do
    Steps.setRecipient recipient
    return .done
  | setMessage message => do
    Steps.setMessage message
    return .done
  | readMessage => do return .message (← Steps.look Buffer.message?)
  | readHeader => do return .header (← Steps.look Buffer.header?)
  | reset => do
    modify Buffer.reset
    return .done
  | overwrite offset data => do
    Steps.copy offset (offset + data.length) data
    return .done

/-- Only the other side chooses where it writes. -/
def InBounds (size : Nat) : Operation → Prop
  | overwrite offset data => offset + data.length ≤ size
  | _ => True

end Operation

structure Sound (buffer : Buffer) : Prop where
  size_le : buffer.recipient.isSome → Header.size ≤ buffer.memory.length
  messageLength_le : buffer.messageLength ≤ buffer.capacity

section

variable {buffer : Buffer}

theorem Sound.fits (h : buffer.Sound) {message : Bytes} (hr : buffer.recipient.isSome)
    (hc : message.length ≤ buffer.capacity) :
    Header.size + message.length ≤ buffer.memory.length := by
  have hs := h.size_le hr
  rw [capacity] at hc
  omega

theorem exists_setMessage_iff {message : Bytes} :
    (∃ after, buffer.setMessage message = .ok after) ↔
      message.length ≤ buffer.capacity ∧ buffer.recipient.isSome := by
  rw [setMessage]
  split
  · next h => simp [Nat.not_le.2 h]
  · next h =>
    cases hr : buffer.recipient with
    | none => simp
    | some recipient => simpa using Nat.not_lt.1 h

theorem Sound.setMessage_eq (h : buffer.Sound) {message : Bytes} {after : Buffer}
    (ha : buffer.setMessage message = .ok after) :
    ∃ recipient, buffer.recipient = some recipient ∧
      Header.size + message.length ≤ buffer.memory.length ∧
      after = buffer.holding recipient message := by
  obtain ⟨hc, hr⟩ := exists_setMessage_iff.1 ⟨after, ha⟩
  have hf := h.fits hr hc
  obtain ⟨recipient, hb⟩ := Option.isSome_iff_exists.1 hr
  rw [setMessage_of_fits hb hf] at ha
  exact ⟨recipient, hb, hf, (Except.ok.inj ha).symm⟩

theorem Sound.run_setMessage (h : buffer.Sound) (hs : buffer.memory.length < 2 ^ 64)
    (message : Bytes) :
    (Steps.setMessage message).run buffer =
      match buffer.setMessage message with
      | .ok after => .ok () after
      | .error e => .error (some e) buffer := by
  simp only [Steps.setMessage, setMessage, EStateM.run_bind, EStateM.run_get]
  split
  · rfl
  · next hc =>
    cases hr : buffer.recipient with
    | none => rfl
    | some recipient =>
      have hf := h.fits (hr ▸ rfl) (Nat.not_lt.1 hc)
      let counted : Buffer := { buffer with messageLength := message.length }
      have hh (header : Header) : (Steps.copy 0 Header.size header.toBytes).run counted =
          .ok () { counted with memory := Bytes.write buffer.memory 0 header.toBytes } :=
        Steps.run_copy_of_eq (copy?_toBytes header (Nat.le_trans (Nat.le_add_right ..) hf))
      have hm {memory : Bytes} (hl : memory.length = buffer.memory.length) :
          (Steps.copy Header.size (Header.size + message.length) message).run
              { counted with memory } =
            .ok () { counted with memory := Bytes.write memory Header.size message } :=
        Steps.run_copy_of_eq (copy?_of_le (by simpa only [hl] using hf))
      have hc : (modify fun buffer => { buffer with messageLength := message.length } :
          Steps Unit).run buffer = .ok () counted := rfl
      have hlt : Header.size + message.length < 2 ^ 64 := Nat.lt_of_le_of_lt hf hs
      simp only [EStateM.run_bind, hc, hh, sum?_of_lt hlt, hm (Bytes.length_write ..)]
      rw [hr]

theorem run_setRecipient (recipient : Efi.Guid) (buffer : Buffer) :
    (Steps.setRecipient recipient).run buffer =
      match buffer.setRecipient recipient with
      | .ok after => .ok () after
      | .error e => .error (some e) buffer := by
  simp only [Steps.setRecipient, setRecipient, EStateM.run_bind, EStateM.run_get]
  by_cases h : buffer.memory.length < Header.size
  · simp only [if_pos h]
    rfl
  · simp only [if_neg h]
    rfl

theorem Sound.run_steps (h : buffer.Sound) (hs : buffer.memory.length < 2 ^ 64)
    {operation : Operation} (hb : operation.InBounds buffer.memory.length) :
    operation.steps.run buffer =
      match operation.perform buffer with
      | .ok (reply, after) => .ok reply after
      | .error e => .error (some e) buffer := by
  cases operation with
  | setRecipient recipient =>
    simp only [Operation.steps, Operation.perform, EStateM.run_bind, run_setRecipient]
    cases buffer.setRecipient recipient <;> rfl
  | setMessage message =>
    simp only [Operation.steps, Operation.perform, EStateM.run_bind, h.run_setMessage hs]
    cases buffer.setMessage message <;> rfl
  | readMessage =>
    simp only [Operation.steps, Operation.perform, EStateM.run_bind, Steps.run_look,
      message?_eq hs]
    cases buffer.message <;> rfl
  | readHeader =>
    simp only [Operation.steps, Operation.perform, EStateM.run_bind, Steps.run_look, header?_eq]
    cases buffer.header <;> rfl
  | reset => rfl
  | overwrite offset data =>
    simp only [Operation.steps, Operation.perform, EStateM.run_bind,
      Steps.run_copy_of_eq (copy?_of_le hb)]
    rfl

theorem Sound.after (h : buffer.Sound) (operation : Operation) :
    (operation.after buffer).Sound ∧
      (operation.after buffer).memory.length = buffer.memory.length := by
  cases operation with
  | setRecipient recipient =>
    simp only [Operation.after, Operation.perform, setRecipient]
    by_cases hs : buffer.memory.length < Header.size
    · simp only [if_pos hs]
      exact ⟨h, rfl⟩
    · simp only [if_neg hs]
      exact ⟨⟨fun _ => Nat.not_lt.1 hs, h.messageLength_le⟩, rfl⟩
  | setMessage message =>
    simp only [Operation.after, Operation.perform]
    cases hm : buffer.setMessage message with
    | error e => exact ⟨h, rfl⟩
    | ok left =>
      obtain ⟨recipient, -, hf, rfl⟩ := h.setMessage_eq hm
      have hl : (buffer.holding recipient message).memory.length = buffer.memory.length :=
        length_memory_holding hf
      have hc : message.length ≤ (buffer.holding recipient message).capacity := by
        rw [capacity, hl]
        exact Nat.le_sub_of_add_le' hf
      exact ⟨⟨fun _ => hl ▸ Nat.le_trans (Nat.le_add_right ..) hf, hc⟩, hl⟩
  | readMessage =>
    simp only [Operation.after, Operation.perform]
    cases buffer.message <;> exact ⟨h, rfl⟩
  | readHeader =>
    simp only [Operation.after, Operation.perform]
    cases buffer.header <;> exact ⟨h, rfl⟩
  | reset =>
    have hr : ¬ buffer.reset.recipient.isSome := Bool.false_ne_true
    exact ⟨⟨fun hs => absurd hs hr, Nat.zero_le _⟩, length_memory_reset buffer⟩
  | overwrite offset data =>
    have hl : (buffer.overwrite offset data).memory.length = buffer.memory.length :=
      Bytes.length_write ..
    have hc : (buffer.overwrite offset data).capacity = buffer.capacity :=
      congrArg (· - Header.size) hl
    exact ⟨⟨fun hr => hl ▸ h.size_le hr, hc ▸ h.messageLength_le⟩, hl⟩

theorem Sound.foldl (h : buffer.Sound) (operations : List Operation) :
    (operations.foldl Operation.after buffer).Sound ∧
      (operations.foldl Operation.after buffer).memory.length = buffer.memory.length := by
  induction operations generalizing buffer with
  | nil => exact ⟨h, rfl⟩
  | cons operation operations ih =>
    obtain ⟨hs, hl⟩ := h.after operation
    obtain ⟨hs', hl'⟩ := ih hs
    exact ⟨hs', hl'.trans hl⟩

theorem getElem?_holding {recipient : Efi.Guid} {message : Bytes} {position : Nat}
    (h : Header.size + message.length ≤ position) :
    (buffer.holding recipient message).memory[position]? = buffer.memory[position]? := by
  have hl := Header.length_toBytes ⟨recipient, UInt64.ofNat message.length⟩
  rw [holding, ← List.append_assoc, List.getElem?_append_right (by simpa [hl] using h),
    List.getElem?_drop, List.length_append, hl, Nat.add_sub_cancel' h]

end

/-- Whatever was done to a buffer and however small it is, an operation that is carried out step by
step does not index out of the memory, and it leaves the buffer as it was if it fails. The size of
the memory is a machine word. -/
theorem operations_stay_in_bounds (id : UInt8) (address : UInt64) (memory : Bytes)
    (hs : memory.length < 2 ^ 64) (operations : List Operation) :
    let buffer := operations.foldl Operation.after { id, address, memory }
    buffer.memory.length = memory.length ∧
    (buffer.recipient.isSome → 24 ≤ memory.length) ∧
    buffer.messageLength ≤ buffer.capacity ∧
    (∀ operation : Operation, operation.InBounds memory.length →
      operation.steps.run buffer =
        match operation.perform buffer with
        | .ok (reply, after) => .ok reply after
        | .error e => .error (some e) buffer) ∧
    ∀ message,
      ((∃ after, buffer.setMessage message = .ok after) ↔
        message.length ≤ buffer.capacity ∧ buffer.recipient.isSome) ∧
      ∀ after, buffer.setMessage message = .ok after →
        after.message = .ok message ∧
        (∃ header, after.header = .ok header ∧ buffer.recipient = some header.recipient ∧
          header.messageLength.toNat = message.length) ∧
        ∀ position, 24 + message.length ≤ position →
          after.memory[position]? = buffer.memory[position]? := by
  intro buffer
  have hstart : Sound { id, address, memory } := ⟨nofun, Nat.zero_le _⟩
  obtain ⟨h, hl⟩ := hstart.foldl operations
  refine ⟨hl, fun hr => hl ▸ h.size_le hr, h.messageLength_le,
    fun operation hb => ?_, fun message => ⟨exists_setMessage_iff, fun after ha => ?_⟩⟩
  · exact h.run_steps (hl ▸ hs) (hl.symm ▸ hb)
  · obtain ⟨recipient, hr, hf, rfl⟩ := h.setMessage_eq ha
    have hlt : message.length < 2 ^ 64 :=
      Nat.lt_of_le_of_lt (Nat.le_of_add_left_le hf) (hl ▸ hs)
    refine ⟨?_, ⟨_, header_holding, hr, UInt64.toNat_ofNat_of_lt' hlt⟩,
      fun position => getElem?_holding⟩
    rw [message_holding hf, described_of_lt hlt]

def scribbled : List Operation :=
  [.setRecipient ⟨List.replicate 16 0x29, by decide⟩, .setMessage [1, 2, 3],
    .overwrite 25 [0xEE], .readMessage]

theorem operations_stay_in_bounds_scribbled :
    let buffer := scribbled.foldl Operation.after
      { id := 3, address := 0x80000000, memory := List.replicate 30 0xA5 }
    (Operation.setMessage (List.replicate 7 0)).steps.run buffer =
        .error (some .tooSmallForMessage) buffer ∧
      ∃ after, buffer.setMessage [9] = .ok after ∧ after.message = .ok [9] ∧
        after.memory[25]? = some 0xEE ∧ after.memory[26]? = some 3 := by
  intro buffer
  obtain ⟨-, -, -, hx, hm⟩ := operations_stay_in_bounds 3 0x80000000 (List.replicate 30 0xA5)
    (by decide) scribbled
  obtain ⟨hok, hr⟩ := hm [9]
  obtain ⟨after, ha⟩ := hok.2 (by decide)
  obtain ⟨hread, -, hrest⟩ := hr after ha
  exact ⟨hx _ trivial, after, ha, hread, hrest 25 (by decide), hrest 26 (by decide)⟩

end PlatformFirmware.ManagementMode.Buffer
