import PlatformFirmware.Mailbox.Request
import PlatformFirmware.Proofs.Action
import PlatformFirmware.Proofs.Mailbox.CommandWord

namespace PlatformFirmware.Mailbox

inductive Request.Kind
  | readRegister
  | writeRegister
  | readI2c
  | writeI2c
  | bootProgress
  | randomNumber
  | setConfiguration
  | rasPolling
  deriving DecidableEq, Repr

namespace Request.Kind

def all : List Kind :=
  [readRegister, writeRegister, readI2c, writeI2c, bootProgress, randomNumber, setConfiguration,
    rasPolling]

def messageClass : Kind → MessageClass
  | readRegister | writeRegister | readI2c | writeI2c => .debug
  | bootProgress | randomNumber | setConfiguration => .user
  | rasPolling => .ras

def subtype : Kind → UInt8
  | readRegister => 0x1
  | writeRegister => 0x2
  | readI2c => 0x4
  | writeI2c => 0x5
  | bootProgress => 0x6
  | randomNumber => 0x7
  | setConfiguration => 0x2
  | rasPolling => 0x1

def ofHeader? (header : Header) : Option Kind :=
  all.find? fun kind => kind.messageClass.code = header.classCode ∧ kind.subtype = header.subtype

theorem subtype_lt (kind : Kind) : kind.subtype.toNat < 16 := by
  cases kind <;> decide

theorem ofHeader?_eq (kind : Kind) (control : UInt8) :
    ofHeader? ⟨kind.messageClass.code, kind.subtype, control⟩ = some kind := by
  cases kind <;> rfl

end Request.Kind

def BootStage.all : List BootStage :=
  [smpro, pmpro, atfBl1, dde, atfBl2, ddrInit, atfBl31, atfBl32, uefi, os]

def BootStage.ofCode? (code : UInt32) : Option BootStage := all.find? (·.code = code)

def BootStatus.all : List BootStatus := [notStarted, started, complete, failed]

def BootStatus.ofCode? (code : UInt32) : Option BootStatus := all.find? (·.code = code)

theorem BootStage.ofCode?_code (stage : BootStage) : ofCode? stage.code = some stage := by
  cases stage <;> rfl

theorem BootStatus.ofCode?_code (status : BootStatus) : ofCode? status.code = some status := by
  cases status <;> rfl

namespace Request

def kind : Request → Kind
  | readRegister _ => .readRegister
  | writeRegister _ _ => .writeRegister
  | readI2c _ _ => .readI2c
  | writeI2c _ _ _ => .writeI2c
  | bootProgress _ _ _ => .bootProgress
  | randomNumber => .randomNumber
  | setConfiguration _ _ => .setConfiguration
  | rasPolling _ => .rasPolling

/-- What a processor that receives a message takes it for. -/
def ofMessage? (message : Message) : Option Request :=
  match Kind.ofHeader? (Command.header message.command) with
  | none => none
  | some .readRegister => some (.readRegister message.parameter0)
  | some .writeRegister => some (.writeRegister message.parameter0 message.parameter1)
  | some .readI2c => some (.readI2c (.ofCommand message.command) message.parameter0)
  | some .writeI2c =>
    some (.writeI2c (.ofCommand message.command) message.parameter0 message.parameter1)
  | some .bootProgress => do
    let stage ← BootStage.ofCode? (message.parameter0 &&& 0xFF)
    let status ← BootStatus.ofCode? (message.parameter0 >>> 8 &&& 0xFF)
    return .bootProgress stage status (message.parameter0 >>> 16 ||| message.parameter1 <<< 16)
  | some .randomNumber => some .randomNumber
  | some .setConfiguration =>
    some (.setConfiguration (Command.parameters message.command).1 message.parameter0)
  | some .rasPolling => some (.rasPolling ((Command.parameters message.command).1 ≠ 0))

def Fits : Request → Prop
  | readI2c transfer _ => transfer.Valid
  | writeI2c transfer _ _ => transfer.Valid
  | _ => True

variable {request other : Request} {message message' : Message}

theorem exists_message_iff : (∃ message, request.message = .ok message) ↔ request.Fits := by
  cases request with
  | readI2c transfer register =>
    by_cases h : transfer.Valid <;> simp [Request.message, Fits, I2cTransfer.command, h, Except.map]
  | writeI2c transfer register data =>
    by_cases h : transfer.Valid <;> simp [Request.message, Fits, I2cTransfer.command, h, Except.map]
  | _ => exact ⟨fun _ => trivial, fun _ => ⟨_, rfl⟩⟩

theorem header_message (h : request.message = .ok message) :
    ∃ control, Command.header message.command =
      ⟨request.kind.messageClass.code, request.kind.subtype, control⟩ := by
  cases request with
  | readI2c transfer register =>
    obtain ⟨word, hw, rfl⟩ := exists_of_map_eq_ok h
    exact ⟨_, I2cTransfer.header_command hw (Kind.subtype_lt _)⟩
  | writeI2c transfer register data =>
    obtain ⟨word, hw, rfl⟩ := exists_of_map_eq_ok h
    exact ⟨_, I2cTransfer.header_command hw (Kind.subtype_lt _)⟩
  | readRegister | writeRegister =>
    cases h
    exact ⟨0, Command.header_ofHeader _ 0 (by decide)⟩
  | bootProgress | randomNumber | setConfiguration | rasPolling =>
    cases h
    exact ⟨0, Command.header_ofParameters _ 0 _ _ (by decide)⟩

theorem ofHeader?_message (h : request.message = .ok message) :
    Kind.ofHeader? (Command.header message.command) = some request.kind := by
  obtain ⟨control, hc⟩ := header_message h
  rw [hc, Kind.ofHeader?_eq]

theorem toNat_bootProgress (stage : BootStage) (status : BootStatus) (checkpoint : UInt32) :
    (stage.code ||| status.code <<< 8 ||| (checkpoint &&& 0xFFFF) <<< 16).toNat =
      stage.code.toNat + status.code.toNat * 2 ^ 8 + checkpoint.toNat % 2 ^ 16 * 2 ^ 16 := by
  have hg : stage.code.toNat < 10 := by cases stage <;> decide
  have ht : status.code.toNat < 4 := by cases status <;> decide
  have hl : (checkpoint &&& 0xFFFF).toNat = checkpoint.toNat / 2 ^ 0 % 2 ^ 16 * 2 ^ 0 :=
    Command.toNat_and 0 16 (by decide)
  have hc : ((checkpoint &&& 0xFFFF) <<< 16).toNat = (checkpoint &&& 0xFFFF).toNat * 2 ^ 16 :=
    Command.toNat_shiftLeft 16 rfl (by decide) (by omega)
  have hs : (status.code <<< 8).toNat = status.code.toNat * 2 ^ 8 :=
    Command.toNat_shiftLeft 8 rfl (by decide) (by omega)
  have hf : (stage.code ||| status.code <<< 8).toNat = _ :=
    Command.toNat_low_or 8 (by omega) (by omega)
  rw [Command.toNat_low_or 16 (by omega) (by omega)]
  omega

/-- Nothing of stage, status and checkpoint is lost in the two parameter words. -/
theorem bootProgress_words (stage : BootStage) (status : BootStatus) (checkpoint : UInt32) :
    let word := stage.code ||| status.code <<< 8 ||| (checkpoint &&& 0xFFFF) <<< 16
    word &&& 0xFF = stage.code ∧ word >>> 8 &&& 0xFF = status.code ∧
      word >>> 16 ||| (checkpoint >>> 16) <<< 16 = checkpoint := by
  intro word
  have hw : word.toNat = _ := toNat_bootProgress stage status checkpoint
  have hg : stage.code.toNat < 10 := by cases stage <;> decide
  have ht : status.code.toNat < 4 := by cases status <;> decide
  have hb := checkpoint.toNat_lt
  have h8 : (word >>> 8).toNat = word.toNat / 2 ^ 8 :=
    Command.toNat_shiftRight 8 rfl (by decide)
  have h16 : (word >>> 16).toNat = word.toNat / 2 ^ 16 :=
    Command.toNat_shiftRight 16 rfl (by decide)
  have hc : (checkpoint >>> 16).toNat = checkpoint.toNat / 2 ^ 16 :=
    Command.toNat_shiftRight 16 rfl (by decide)
  have hr : ((checkpoint >>> 16) <<< 16).toNat = (checkpoint >>> 16).toNat * 2 ^ 16 :=
    Command.toNat_shiftLeft 16 rfl (by decide) (by omega)
  refine ⟨UInt32.toNat_inj.1 ?_, UInt32.toNat_inj.1 ?_, UInt32.toNat_inj.1 ?_⟩
  · rw [Command.toNat_and 0 8 (by decide)]
    omega
  · rw [Command.toNat_and 0 8 (by decide)]
    omega
  · rw [Command.toNat_low_or 16 (by omega) (by omega)]
    omega

theorem ofMessage?_message (h : request.message = .ok message) :
    ofMessage? message = some request := by
  have hk := ofHeader?_message h
  rw [ofMessage?, hk]
  cases request with
  | readRegister | writeRegister | randomNumber =>
    cases h
    rfl
  | readI2c transfer register | writeI2c transfer register data =>
    obtain ⟨word, hw, rfl⟩ := exists_of_map_eq_ok h
    simp only [kind, I2cTransfer.ofCommand_command hw]
  | bootProgress stage status checkpoint =>
    cases h
    obtain ⟨hs, ht, hc⟩ := bootProgress_words stage status checkpoint
    simp only [kind, hs, ht, hc, BootStage.ofCode?_code, BootStatus.ofCode?_code]
    rfl
  | setConfiguration item value =>
    cases h
    simp only [kind, Command.parameters_ofParameters]
  | rasPolling enable =>
    cases h
    simp only [kind, Command.parameters_ofParameters]
    cases enable <;> rfl

theorem kind_eq_of_accepted {response : UInt32} (h : request.message = .ok message)
    (h' : other.message = .ok message')
    (hr : Command.checkResponse message.command response = .ok ())
    (hr' : Command.checkResponse message'.command response = .ok ()) :
    request.kind = other.kind := by
  obtain ⟨control, hc⟩ := header_message h
  obtain ⟨control', hc'⟩ := header_message h'
  rw [Command.checkResponse_eq_ok_iff, hc] at hr
  rw [Command.checkResponse_eq_ok_iff, hc', hr] at hr'
  have hk := Kind.ofHeader?_eq request.kind 0
  rw [hr', Kind.ofHeader?_eq] at hk
  exact (Option.some.inj hk).symm

end Request

/-- Every request whose fields fit has a message, from which the request is read back, so no two
requests share a message. A response that is accepted for two requests is one for requests of the
same kind. -/
theorem messages_uniquely_decodable (request other : Request) :
    ((∃ message, request.message = .ok message) ↔ request.Fits) ∧
    (∀ message, request.message = .ok message →
      Request.ofMessage? message = some request ∧
        (other.message = .ok message → request = other)) ∧
    (∀ message message' response, request.message = .ok message → other.message = .ok message' →
      Command.checkResponse message.command response = .ok () →
      Command.checkResponse message'.command response = .ok () → request.kind = other.kind) := by
  refine ⟨Request.exists_message_iff, fun message h => ?_, fun message message' response h h' => ?_⟩
  · have hr := Request.ofMessage?_message h
    refine ⟨hr, fun h' => ?_⟩
    have ho := Request.ofMessage?_message h'
    exact Option.some.inj (hr.symm.trans ho)
  · exact Request.kind_eq_of_accepted h h'

def widestTransfer : I2cTransfer := ⟨1, 0x7F, .smbus, 4, 4⟩

def narrowTransfer : I2cTransfer := ⟨0, 0, .i2c, 0, 1⟩

theorem messages_uniquely_decodable_widest :
    (Request.writeI2c widestTransfer 0xFFFFFFFF 0xFFFFFFFF).message =
        .ok ⟨0x05FF1404, 0xFFFFFFFF, 0xFFFFFFFF⟩ ∧
      Request.ofMessage? ⟨0x05FF1404, 0xFFFFFFFF, 0xFFFFFFFF⟩ =
        some (.writeI2c widestTransfer 0xFFFFFFFF 0xFFFFFFFF) ∧
      Command.checkResponse 0x05FF1404 0x0500BEEF = .ok () ∧
      Command.checkResponse 0x05000001 0x0500BEEF = .ok () ∧
      (Request.writeI2c widestTransfer 0xFFFFFFFF 0xFFFFFFFF).kind =
        (Request.writeI2c narrowTransfer 0 0).kind := by
  have hw : (Request.writeI2c widestTransfer 0xFFFFFFFF 0xFFFFFFFF).message =
      .ok ⟨0x05FF1404, 0xFFFFFFFF, 0xFFFFFFFF⟩ := by decide
  have hn : (Request.writeI2c narrowTransfer 0 0).message = .ok ⟨0x05000001, 0, 0⟩ := by decide
  obtain ⟨-, hd, hk⟩ := messages_uniquely_decodable
    (.writeI2c widestTransfer 0xFFFFFFFF 0xFFFFFFFF) (.writeI2c narrowTransfer 0 0)
  exact ⟨hw, (hd _ hw).1, by decide, by decide, hk _ _ 0x0500BEEF hw hn (by decide) (by decide)⟩

end PlatformFirmware.Mailbox
