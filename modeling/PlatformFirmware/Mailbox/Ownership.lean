import PlatformFirmware.Mailbox.Doorbell

namespace PlatformFirmware.Mailbox

structure Channel where
  processor : ManagementProcessor
  index : Fin Doorbell.perProcessor
  deriving DecidableEq, Repr

namespace Channel

def ofIndex (processor : ManagementProcessor) (index : Nat) : Except Efi.Error Channel :=
  if h : index < Doorbell.perProcessor then .ok ⟨processor, index, h⟩ else .error .invalidParameter

def perSocket : Nat := 2 * Doorbell.perProcessor

def slot (channel : Channel) : Nat :=
  match channel.processor with
  | .smpro => channel.index
  | .pmpro => Doorbell.perProcessor + channel.index

theorem slot_lt (channel : Channel) : channel.slot < perSocket := by
  have h := channel.index.isLt
  unfold slot perSocket
  split <;> omega

theorem slot_injective {channel other : Channel} (h : channel.slot = other.slot) :
    channel = other := by
  obtain ⟨p, i⟩ := channel
  obtain ⟨q, j⟩ := other
  have hi := i.isLt
  have hj := j.isLt
  cases p <;> cases q <;> simp only [slot] at h <;> simp <;> omega

end Channel

structure Handle where
  socket : Nat
  channel : Channel
  doorbell : Doorbell
  deriving DecidableEq, Repr

structure Ownership where
  config : Config
  taken : List Bool
  deriving Repr

namespace Ownership

def vacant (config : Config) : Ownership :=
  ⟨config, List.replicate (config.socketCount * Channel.perSocket) false⟩

def slot (socket : Nat) (channel : Channel) : Nat := socket * Channel.perSocket + channel.slot

theorem slot_lt {socket count : Nat} (channel : Channel) (h : socket < count) :
    slot socket channel < count * Channel.perSocket := by
  have hc := channel.slot_lt
  have hm : (socket + 1) * Channel.perSocket ≤ count * Channel.perSocket := Nat.mul_le_mul_right _ h
  rw [Nat.succ_mul] at hm
  unfold slot
  omega

theorem slot_injective {socket other : Nat} {channel channel' : Channel}
    (h : slot socket channel = slot other channel') : socket = other ∧ channel = channel' := by
  have hc := channel.slot_lt
  have hc' := channel'.slot_lt
  simp only [slot, Channel.perSocket, Doorbell.perProcessor] at h hc hc'
  exact ⟨by omega, Channel.slot_injective (by omega)⟩

def acquire (socket : Nat) (channel : Channel) : Firmware Ownership Handle := do
  let ownership ← get
  let base ← MonadExcept.ofExcept (ownership.config.socketBase socket channel.processor)
  match ownership.taken[slot socket channel]? with
  | none => throw .invalidParameter
  | some true => throw .notReady
  | some false =>
    set { ownership with taken := ownership.taken.set (slot socket channel) true }
    return ⟨socket, channel, .atBase ownership.config channel.index base⟩

def release (handle : Handle) (ownership : Ownership) : Ownership :=
  { ownership with taken := ownership.taken.set (slot handle.socket handle.channel) false }

end Ownership

end PlatformFirmware.Mailbox
