import PlatformFirmware.Hardware.RegisterBus
import PlatformFirmware.Mailbox.Doorbell

namespace PlatformFirmware.Simulation

open Mailbox

structure Pending where
  acknowledge : Option Nat := none
  available : Option Nat := none
  deriving DecidableEq, Repr

structure DoorbellPeer where
  registers : Table UInt64 UInt32 := {}
  pending : Table UInt64 Pending := {}
  acknowledgeAfter : Option Nat := none
  responder : Option (Message → Message) := none
  writes : Nat := 0
  /-- Microseconds waited so far, and the number of waits. Neither counter overflows here. -/
  elapsed : Nat := 0
  stalls : Nat := 0

namespace DoorbellPeer

def block (address : UInt64) : UInt64 := address &&& ~~~(Doorbell.stride - 1)

def register (peer : DoorbellPeer) (address : UInt64) : UInt32 := peer.registers.getD address 0

def setRegister (address : UInt64) (value : UInt32) (peer : DoorbellPeer) : DoorbellPeer :=
  { peer with registers := peer.registers.insert address value }

def setStatus (doorbell : UInt64) (value : UInt32) (peer : DoorbellPeer) : DoorbellPeer :=
  peer.setRegister (doorbell + Register.status) value

def lastRequest (peer : DoorbellPeer) (doorbell : UInt64) : Message where
  command := peer.register (doorbell + Register.commandIn)
  parameter0 := peer.register (doorbell + Register.parameter0In)
  parameter1 := peer.register (doorbell + Register.parameter1In)

def acknowledgeOn (polls : Nat) (peer : DoorbellPeer) : DoorbellPeer :=
  { peer with acknowledgeAfter := some (max polls 1) }

def neverAcknowledge (peer : DoorbellPeer) : DoorbellPeer := { peer with acknowledgeAfter := none }

def respondWith (responder : Message → Message) (peer : DoorbellPeer) : DoorbellPeer :=
  { peer with responder := some responder }

def pendingAt (peer : DoorbellPeer) (doorbell : UInt64) : Pending := peer.pending.getD doorbell {}

def setPending (doorbell : UInt64) (pending : Pending) (peer : DoorbellPeer) : DoorbellPeer :=
  { peer with pending := peer.pending.insert doorbell pending }

def placeResponse (doorbell : UInt64) (message : Message) (peer : DoorbellPeer) : DoorbellPeer :=
  ((peer.setRegister (doorbell + Register.parameter0Out) message.parameter0).setRegister
    (doorbell + Register.parameter1Out) message.parameter1).setRegister
    (doorbell + Register.commandOut) message.command

def post (doorbell : UInt64) (message : Message) (polls : Nat) (peer : DoorbellPeer) :
    DoorbellPeer :=
  (peer.placeResponse doorbell message).setPending doorbell
    { peer.pendingAt doorbell with available := some (max polls 1) }

def raise (doorbell : UInt64) (bit : UInt32) (peer : DoorbellPeer) : DoorbellPeer :=
  peer.setStatus doorbell (peer.register (doorbell + Register.status) ||| bit)

def acknowledge (doorbell : UInt64) (peer : DoorbellPeer) : DoorbellPeer :=
  let acknowledged := peer.raise doorbell Status.acknowledge
  match acknowledged.responder with
  | none => acknowledged
  | some respond =>
    (acknowledged.placeResponse doorbell (respond (acknowledged.lastRequest doorbell))).raise
      doorbell Status.available

def countDown : Option Nat → Option Nat × Bool
  | none => (none, false)
  | some reads => if reads ≤ 1 then (none, true) else (some (reads - 1), false)

def onStatusRead (doorbell : UInt64) (peer : DoorbellPeer) : DoorbellPeer :=
  let pending := peer.pendingAt doorbell
  let acknowledge := countDown pending.acknowledge
  let available := countDown pending.available
  let counted := peer.setPending doorbell ⟨acknowledge.1, available.1⟩
  let acknowledged := if acknowledge.2 then counted.acknowledge doorbell else counted
  if available.2 then acknowledged.raise doorbell Status.available else acknowledged

def read (address : UInt64) (peer : DoorbellPeer) : UInt32 × DoorbellPeer :=
  let doorbell := block address
  let peer := if address - doorbell = Register.status then peer.onStatusRead doorbell else peer
  (peer.register address, peer)

/-- A write to the status clears the bits written, and one of the command word starts the
acknowledge. -/
def write (address : UInt64) (value : UInt32) (peer : DoorbellPeer) : DoorbellPeer :=
  let doorbell := block address
  let counted := { peer with writes := peer.writes + 1 }
  if address - doorbell = Register.status then
    counted.setRegister address (counted.register address &&& ~~~value)
  else if address - doorbell = Register.commandIn then
    (counted.setRegister address value).setPending doorbell
      { counted.pendingAt doorbell with acknowledge := counted.acknowledgeAfter }
  else counted.setRegister address value

instance : RegisterBus DoorbellPeer where
  read := read
  write := write
  stall microseconds peer :=
    { peer with elapsed := peer.elapsed + microseconds, stalls := peer.stalls + 1 }

end DoorbellPeer

end PlatformFirmware.Simulation
