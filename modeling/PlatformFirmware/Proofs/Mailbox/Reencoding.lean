import PlatformFirmware.Proofs.Mailbox.CommandWord

namespace PlatformFirmware.Mailbox

namespace MessageClass

theorem ofCode_eq_ok_iff {code : UInt8} {messageClass : MessageClass} :
    ofCode code = .ok messageClass ↔ code = messageClass.code := by
  constructor
  · intro h
    unfold ofCode at h
    split at h <;> cases h <;> rfl
  · rintro rfl
    cases messageClass <;> rfl

theorem ofCode_cases (code : UInt8) :
    (∃ messageClass, ofCode code = .ok messageClass) ∨ ofCode code = .error .invalidParameter := by
  unfold ofCode
  split <;> simp

end MessageClass

namespace Command

/-- The fields of a word tile it. -/
theorem toNat_eq_fields (command : UInt32) :
    command.toNat =
      (header command).classCode.toNat * 2 ^ 28 + (header command).subtype.toNat * 2 ^ 24 +
        (header command).control.toNat * 2 ^ 16 + (parameters command).1.toNat * 2 ^ 8 +
        (parameters command).2.toNat * 2 ^ 0 := by
  obtain ⟨hc, hs, hk⟩ := toNat_header command
  obtain ⟨h0, h1⟩ := toNat_parameters command
  rw [hc, hs, hk, h0, h1]
  omega

theorem ofParameters_header {command : UInt32} {messageClass : MessageClass}
    (h : (header command).classCode = messageClass.code) :
    ofParameters messageClass (header command).subtype (header command).control
      (parameters command).1 (parameters command).2 = command := by
  have hs : (header command).subtype.toNat % 16 = (header command).subtype.toNat := by
    rw [(toNat_header command).2.1, Nat.mod_mod]
  apply UInt32.toNat_inj.1
  rw [toNat_ofParameters, ← h, hs, ← toNat_eq_fields]

/-- Fields that were encoded are decoded, the subtype modulo its range. A word of no known class is
refused, and any other is what its decoded fields are encoded as. A response is accepted if it
decodes to the class and the subtype of the request with a control byte of zero, and only then. -/
theorem words_and_fields_agree :
    (∀ (messageClass : MessageClass) (subtype control parameter0 parameter1 : UInt8),
      let command := ofParameters messageClass subtype control parameter0 parameter1
      MessageClass.ofCode (header command).classCode = .ok messageClass ∧
        header command = ⟨messageClass.code, subtype % 16, control⟩ ∧
        parameters command = (parameter0, parameter1)) ∧
    (∀ command : UInt32,
      MessageClass.ofCode (header command).classCode = .error .invalidParameter ∨
      ∃ messageClass, MessageClass.ofCode (header command).classCode = .ok messageClass ∧
        ofParameters messageClass (header command).subtype (header command).control
          (parameters command).1 (parameters command).2 = command) ∧
    ∀ request response : UInt32,
      checkResponse request response =
        if (header response).classCode = (header request).classCode ∧
            (header response).subtype = (header request).subtype ∧
            (header response).control = 0 then .ok ()
        else .error .deviceError := by
  refine ⟨fun messageClass subtype control parameter0 parameter1 => ?_, fun command => ?_,
    fun request response => ?_⟩
  · intro command
    have hh : header command = ⟨messageClass.code, subtype % 16, control⟩ :=
      header_ofParameters_mod ..
    refine ⟨?_, hh, parameters_ofParameters ..⟩
    rw [hh]
    exact MessageClass.ofCode_eq_ok_iff.2 rfl
  · rcases MessageClass.ofCode_cases (header command).classCode with ⟨messageClass, h⟩ | h
    · exact .inr ⟨messageClass, h, ofParameters_header (MessageClass.ofCode_eq_ok_iff.1 h)⟩
    · exact .inl h
  · have he : header response = { header request with control := 0 } ↔
        (header response).classCode = (header request).classCode ∧
          (header response).subtype = (header request).subtype ∧
          (header response).control = 0 := by
      cases header response
      simp
    by_cases h : header response = { header request with control := 0 }
    · rw [if_pos (he.1 h), (checkResponse_eq_ok_iff request response).2 h]
    · rw [if_neg (mt he.2 h), checkResponse_of_ne h]

end Command

end PlatformFirmware.Mailbox
