import Mathlib.Data.Nat.Bitwise
import PlatformFirmware.Mailbox.I2c

namespace PlatformFirmware.Mailbox

namespace Command

theorem and_shiftLeft (n shift width : Nat) :
    n &&& (2 ^ width - 1) <<< shift = n / 2 ^ shift % 2 ^ width * 2 ^ shift := by
  rw [← Nat.shiftLeft_eq, ← Nat.shiftRight_eq_div_pow, ← Nat.and_two_pow_sub_one_eq_mod]
  apply Nat.eq_of_testBit_eq
  intro i
  rw [Nat.shiftLeft_and_distrib, Nat.testBit_and, Nat.testBit_and]
  by_cases h : shift ≤ i
  · simp [Nat.testBit_shiftLeft, Nat.testBit_shiftRight, h]
  · simp [Nat.testBit_shiftLeft, h]

section

variable {word mask : UInt32}

theorem toNat_and (shift width : Nat) (hm : mask.toNat = (2 ^ width - 1) <<< shift) :
    (word &&& mask).toNat = word.toNat / 2 ^ shift % 2 ^ width * 2 ^ shift := by
  rw [UInt32.toNat_and, hm, and_shiftLeft]

theorem toNat_extract (shift : UInt32) (width : Nat) (hs : shift.toNat < 32)
    (hm : mask.toNat = (2 ^ width - 1) <<< shift.toNat) :
    ((word &&& mask) >>> shift).toNat = word.toNat / 2 ^ shift.toNat % 2 ^ width := by
  rw [UInt32.toNat_shiftRight, toNat_and _ _ hm, Nat.mod_eq_of_lt hs, Nat.shiftRight_eq_div_pow,
    Nat.mul_div_cancel _ (Nat.two_pow_pos _)]

end

/-- Words of which one ends where the other begins. -/
theorem toNat_or {high low : UInt32} (width : Nat) (hh : 2 ^ width ∣ high.toNat)
    (hl : low.toNat < 2 ^ width) : (high ||| low).toNat = high.toNat + low.toNat := by
  obtain ⟨n, hn⟩ := hh
  rw [UInt32.toNat_or, hn, Nat.mul_comm, ← Nat.shiftLeft_eq, Nat.shiftLeft_add_eq_or_of_lt hl]

theorem toNat_low_or {high low : UInt32} (width : Nat) (hl : low.toNat < 2 ^ width)
    (hh : 2 ^ width ∣ high.toNat) : (low ||| high).toNat = low.toNat + high.toNat := by
  rw [UInt32.or_comm, toNat_or width hh hl, Nat.add_comm]

theorem toUInt8_eq {word : UInt32} {byte : UInt8} (h : word.toNat = byte.toNat) :
    word.toUInt8 = byte := by
  refine UInt8.toNat_inj.1 ((UInt32.toNat_toUInt8 word).trans ?_)
  rw [h]
  exact Nat.mod_eq_of_lt byte.toNat_lt

theorem toNat_shiftRight {word shift : UInt32} (place : Nat) (hs : shift.toNat = place)
    (hp : place < 32) : (word >>> shift).toNat = word.toNat / 2 ^ place := by
  rw [UInt32.toNat_shiftRight, hs, Nat.mod_eq_of_lt hp, Nat.shiftRight_eq_div_pow]

theorem toNat_shiftLeft {word shift : UInt32} (place : Nat) (hs : shift.toNat = place)
    (hp : place < 32) (hw : word.toNat * 2 ^ place < 2 ^ 32) :
    (word <<< shift).toNat = word.toNat * 2 ^ place := by
  rw [UInt32.toNat_shiftLeft, hs, Nat.mod_eq_of_lt hp, Nat.shiftLeft_eq, Nat.mod_eq_of_lt hw]

theorem toNat_field (value : UInt8) {shift : UInt32} (hs : shift.toNat ≤ 24) :
    (field value shift).toNat = value.toNat * 2 ^ shift.toNat := by
  have hv : value.toUInt32.toNat * 2 ^ shift.toNat < 2 ^ 32 :=
    calc value.toUInt32.toNat * 2 ^ shift.toNat < 2 ^ 8 * 2 ^ shift.toNat :=
          Nat.mul_lt_mul_of_pos_right value.toNat_lt (Nat.two_pow_pos _)
      _ = 2 ^ (8 + shift.toNat) := (Nat.pow_add ..).symm
      _ ≤ 2 ^ 32 := Nat.pow_le_pow_right (by decide) (by omega)
  rw [field, toNat_shiftLeft _ rfl (by omega) hv, UInt8.toNat_toUInt32]

/-- A field that ends where the fields of the word begin. -/
theorem toNat_or_field {word : UInt32} {n : Nat} (shift : UInt32) (value : UInt8)
    (place width : Nat) (hw : word.toNat = n) (hs : shift.toNat = place) (hp : place ≤ 24)
    (hn : 2 ^ width ∣ n) (hv : value.toNat * 2 ^ place < 2 ^ width) :
    (word ||| field value shift).toNat = n + value.toNat * 2 ^ place := by
  subst hw hs
  have hf := toNat_field value hp
  rw [toNat_or width hn (hf ▸ hv), hf]

theorem toNat_ofHeader (messageClass : MessageClass) (subtype control : UInt8) :
    (ofHeader messageClass subtype control).toNat =
      messageClass.code.toNat * 2 ^ 28 + subtype.toNat % 16 * 2 ^ 24 + control.toNat * 2 ^ 16 := by
  have hl := control.toNat_lt
  have hc : (field messageClass.code 28).toNat = messageClass.code.toNat * 2 ^ 28 := by
    cases messageClass <;> rfl
  have hs : (field subtype 24 &&& 0x0F000000).toNat = subtype.toNat % 16 * 2 ^ 24 := by
    have hf : (field subtype 24).toNat = subtype.toNat * 2 ^ 24 := toNat_field _ (by decide)
    rw [toNat_and 24 4 (by decide), hf]
    omega
  have hcs : (field messageClass.code 28 ||| field subtype 24 &&& 0x0F000000).toNat =
      messageClass.code.toNat * 2 ^ 28 + subtype.toNat % 16 * 2 ^ 24 := by
    rw [toNat_or 28 (by omega) (by omega), hc, hs]
  exact toNat_or_field 16 control 16 24 hcs rfl (by decide) (by omega) (by omega)

theorem toNat_ofParameters (messageClass : MessageClass)
    (subtype control parameter0 parameter1 : UInt8) :
    (ofParameters messageClass subtype control parameter0 parameter1).toNat =
      messageClass.code.toNat * 2 ^ 28 + subtype.toNat % 16 * 2 ^ 24 + control.toNat * 2 ^ 16 +
        parameter0.toNat * 2 ^ 8 + parameter1.toNat * 2 ^ 0 := by
  have hl0 := parameter0.toNat_lt
  have hl1 := parameter1.toNat_lt
  have hh := toNat_ofHeader messageClass subtype control
  have h0 := toNat_or_field 8 parameter0 8 16 hh rfl (by decide) (by omega) (by omega)
  exact toNat_or_field 0 parameter1 0 8 h0 rfl (by decide) (by omega) (by omega)

theorem toNat_header (command : UInt32) :
    (header command).classCode.toNat = command.toNat / 2 ^ 28 ∧
      (header command).subtype.toNat = command.toNat / 2 ^ 24 % 16 ∧
      (header command).control.toNat = command.toNat / 2 ^ 16 % 256 := by
  have hb := command.toNat_lt
  have hc : ((command &&& 0xF0000000) >>> 28).toNat = command.toNat / 2 ^ 28 % 2 ^ 4 :=
    toNat_extract 28 4 (by decide) (by decide)
  have hs : ((command &&& 0x0F000000) >>> 24).toNat = command.toNat / 2 ^ 24 % 2 ^ 4 :=
    toNat_extract 24 4 (by decide) (by decide)
  have hk : ((command &&& 0x00FF0000) >>> 16).toNat = command.toNat / 2 ^ 16 % 2 ^ 8 :=
    toNat_extract 16 8 (by decide) (by decide)
  simp only [header, UInt32.toNat_toUInt8]
  omega

theorem toNat_parameters (command : UInt32) :
    (parameters command).1.toNat = command.toNat / 2 ^ 8 % 256 ∧
      (parameters command).2.toNat = command.toNat % 256 := by
  have h0 : ((command &&& 0x0000FF00) >>> 8).toNat = command.toNat / 2 ^ 8 % 2 ^ 8 :=
    toNat_extract 8 8 (by decide) (by decide)
  have h1 : (command &&& 0x000000FF).toNat = command.toNat / 2 ^ 0 % 2 ^ 8 * 2 ^ 0 :=
    toNat_and 0 8 (by decide)
  simp only [parameters, UInt32.toNat_toUInt8]
  omega

theorem header_eq_iff {command : UInt32} {fields : Header} :
    header command = fields ↔
      command.toNat / 2 ^ 28 = fields.classCode.toNat ∧
        command.toNat / 2 ^ 24 % 16 = fields.subtype.toNat ∧
        command.toNat / 2 ^ 16 % 256 = fields.control.toNat := by
  obtain ⟨hc, hs, hk⟩ := toNat_header command
  rw [← hc, ← hs, ← hk, UInt8.toNat_inj, UInt8.toNat_inj, UInt8.toNat_inj]
  cases header command
  cases fields
  simp

theorem code_lt (messageClass : MessageClass) : messageClass.code.toNat < 16 := by
  cases messageClass <;> decide

theorem header_ofParameters_mod (messageClass : MessageClass)
    (subtype control parameter0 parameter1 : UInt8) :
    header (ofParameters messageClass subtype control parameter0 parameter1) =
      ⟨messageClass.code, subtype % 16, control⟩ := by
  have hw := toNat_ofParameters messageClass subtype control parameter0 parameter1
  have hc := code_lt messageClass
  have hk := control.toNat_lt
  have h0 := parameter0.toNat_lt
  have h1 := parameter1.toNat_lt
  have hs : (subtype % 16).toNat = subtype.toNat % 16 := UInt8.toNat_mod ..
  rw [header_eq_iff]
  simp only [hs]
  omega

theorem header_ofParameters (messageClass : MessageClass) {subtype : UInt8}
    (control parameter0 parameter1 : UInt8) (hs : subtype.toNat < 16) :
    header (ofParameters messageClass subtype control parameter0 parameter1) =
      ⟨messageClass.code, subtype, control⟩ := by
  rw [header_ofParameters_mod, UInt8.mod_eq_of_lt (UInt8.lt_iff_toNat_lt.2 hs)]

theorem ofParameters_zero (messageClass : MessageClass) (subtype control : UInt8) :
    ofParameters messageClass subtype control 0 0 = ofHeader messageClass subtype control := by
  have h0 : field 0 8 = 0 := rfl
  have h1 : field 0 0 = 0 := rfl
  rw [ofParameters, h0, h1, UInt32.or_zero, UInt32.or_zero]

theorem header_ofHeader (messageClass : MessageClass) {subtype : UInt8} (control : UInt8)
    (hs : subtype.toNat < 16) :
    header (ofHeader messageClass subtype control) = ⟨messageClass.code, subtype, control⟩ := by
  rw [← ofParameters_zero, header_ofParameters _ _ _ _ hs]

theorem parameters_ofParameters (messageClass : MessageClass)
    (subtype control parameter0 parameter1 : UInt8) :
    parameters (ofParameters messageClass subtype control parameter0 parameter1) =
      (parameter0, parameter1) := by
  have hw := toNat_ofParameters messageClass subtype control parameter0 parameter1
  have h0 := parameter0.toNat_lt
  have h1 := parameter1.toNat_lt
  generalize ofParameters messageClass subtype control parameter0 parameter1 = word at hw
  obtain ⟨hp, hq⟩ := toNat_parameters word
  have hf : (parameters word).1 = parameter0 := UInt8.toNat_inj.1 (by omega)
  have hl : (parameters word).2 = parameter1 := UInt8.toNat_inj.1 (by omega)
  exact Prod.ext hf hl

/-- A response repeats the class and the subtype of its request over a control byte of zero. -/
theorem checkResponse_eq_ok_iff (request response : UInt32) :
    checkResponse request response = .ok () ↔
      header response = { header request with control := 0 } := by
  have hq := request.toNat_lt
  have hr := response.toNat_lt
  have hs : (sentinel request).toNat = request.toNat / 2 ^ 24 % 2 ^ 8 * 2 ^ 24 :=
    toNat_and 24 8 (by decide)
  have hm : (response &&& 0xFFFF0000).toNat = response.toNat / 2 ^ 16 % 2 ^ 16 * 2 ^ 16 :=
    toNat_and 16 16 (by decide)
  have he : checkResponse request response = .ok () ↔
      (response &&& 0xFFFF0000).toNat = (sentinel request).toNat := by
    rw [checkResponse, UInt32.toNat_inj]
    split <;> simp_all
  obtain ⟨hc, ht, -⟩ := toNat_header request
  rw [he, hm, hs, header_eq_iff]
  simp only [hc, ht, UInt8.toNat_zero]
  omega

theorem checkResponse_of_ne {request response : UInt32}
    (h : header response ≠ { header request with control := 0 }) :
    checkResponse request response = .error .deviceError := by
  rw [checkResponse, if_neg]
  intro hs
  exact h ((checkResponse_eq_ok_iff request response).1 (if_pos hs))

end Command

namespace I2cTransfer

variable {transfer : I2cTransfer} {subtype : UInt8} {word : UInt32}

theorem valid_of_command (h : transfer.command subtype = .ok word) : transfer.Valid := by
  by_contra hn
  rw [command, if_neg hn] at h
  cases h

theorem Valid.bounds (h : transfer.Valid) :
    transfer.device.toNat ≤ 1 ∧ transfer.chip.toNat ≤ 127 ∧ transfer.protocol.code.toNat ≤ 1 ∧
      transfer.addressLength.toNat ≤ 4 ∧ transfer.dataLength.toNat ≤ 4 := by
  obtain ⟨hd, hc, ha, -, hl⟩ := h
  have hp : transfer.protocol.code.toNat ≤ 1 := by cases transfer.protocol <;> decide
  exact ⟨UInt8.le_iff_toNat_le.1 hd, UInt8.le_iff_toNat_le.1 hc, hp, UInt8.le_iff_toNat_le.1 ha,
    UInt8.le_iff_toNat_le.1 hl⟩

theorem toNat_command (h : transfer.command subtype = .ok word) :
    word.toNat = subtype.toNat % 16 * 2 ^ 24 + transfer.device.toNat * 2 ^ 23 +
      transfer.chip.toNat * 2 ^ 16 + transfer.protocol.code.toNat * 2 ^ 12 +
      transfer.addressLength.toNat * 2 ^ 8 + transfer.dataLength.toNat * 2 ^ 0 := by
  have hv := valid_of_command h
  rw [command, if_pos hv] at h
  obtain rfl := Except.ok.inj h
  obtain ⟨hd, hc, hp, ha, hl⟩ := hv.bounds
  have h0 : (Command.ofHeader .debug subtype 0).toNat = subtype.toNat % 16 * 2 ^ 24 := by
    rw [Command.toNat_ofHeader]
    simp [MessageClass.code]
  have h1 := Command.toNat_or_field 23 transfer.device 23 24 h0 rfl
    (by decide) (by omega) (by omega)
  have h2 := Command.toNat_or_field 16 transfer.chip 16 23 h1 rfl
    (by decide) (by omega) (by omega)
  have h3 := Command.toNat_or_field 12 transfer.protocol.code 12 16 h2 rfl
    (by decide) (by omega) (by omega)
  have h4 := Command.toNat_or_field 8 transfer.addressLength 8 12 h3 rfl
    (by decide) (by omega) (by omega)
  exact Command.toNat_or_field 0 transfer.dataLength 0 8 h4 rfl (by decide) (by omega) (by omega)

/-- The controller and the target share the control byte. -/
theorem header_command (h : transfer.command subtype = .ok word) (hs : subtype.toNat < 16) :
    Command.header word =
      ⟨MessageClass.debug.code, subtype, transfer.device * 128 + transfer.chip⟩ := by
  have hw := toNat_command h
  obtain ⟨hd, hc, hp, ha, hl⟩ := (valid_of_command h).bounds
  rw [Command.header_eq_iff]
  simp only [MessageClass.code, UInt8.toNat_add, UInt8.toNat_mul, UInt8.toNat_ofNat]
  omega

/-- A transfer that fits is read back from its command word. -/
theorem ofCommand_command (h : transfer.command subtype = .ok word) :
    ofCommand word = transfer := by
  have hw := toNat_command h
  obtain ⟨hd, hc, hp, ha, hl⟩ := (valid_of_command h).bounds
  have hdevice : word.toNat / 2 ^ 23 % 2 ^ 1 = transfer.device.toNat := by omega
  have hchip : word.toNat / 2 ^ 16 % 2 ^ 7 = transfer.chip.toNat := by omega
  have hprotocol : word.toNat / 2 ^ 12 % 2 ^ 1 = transfer.protocol.code.toNat := by omega
  have hlength : word.toNat / 2 ^ 8 % 2 ^ 3 = transfer.addressLength.toNat := by omega
  have hdata : word.toNat / 2 ^ 0 % 2 ^ 8 = transfer.dataLength.toNat := by omega
  have hz : word &&& 0x00001000 = 0 ↔ transfer.protocol.code.toNat = 0 := by
    rw [← UInt32.toNat_inj, Command.toNat_and 12 1 (by decide), hprotocol, UInt32.toNat_zero]
    exact mul_eq_zero_iff_right (by decide)
  have hs : (if word &&& 0x00001000 = 0 then I2cProtocol.i2c else .smbus) = transfer.protocol := by
    simp only [hz]
    cases transfer.protocol <;> rfl
  rw [ofCommand, hs]
  congr 1
  · exact Command.toUInt8_eq ((Command.toNat_extract 23 1 (by decide) (by decide)).trans hdevice)
  · exact Command.toUInt8_eq ((Command.toNat_extract 16 7 (by decide) (by decide)).trans hchip)
  · exact Command.toUInt8_eq ((Command.toNat_extract 8 3 (by decide) (by decide)).trans hlength)
  · refine Command.toUInt8_eq ((Command.toNat_and 0 8 (by decide)).trans ?_)
    rw [hdata, Nat.pow_zero, Nat.mul_one]

end I2cTransfer

end PlatformFirmware.Mailbox
