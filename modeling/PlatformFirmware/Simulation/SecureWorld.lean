import PlatformFirmware.ManagementMode.Executor
import PlatformFirmware.Parameter.Owner
import PlatformFirmware.Simulation.ScriptedMonitor

namespace PlatformFirmware.Simulation

open ManagementMode

structure Round where
  writes : List (Nat × Bytes) := []
  failure : Option Status := none
  deriving DecidableEq, Repr

structure SecureWorld where
  owner : Parameter.Owner := {}
  script : Option ScriptedMonitor := none
  rounds : List Round := []

namespace SecureWorld

instance : SecureMonitor SecureWorld where
  call request world :=
    match world.script with
    | some script =>
      let (answer, script) := SecureMonitor.call request script
      (answer, { world with script := some script })
    | none =>
      let (answer, owner) := SecureMonitor.call request world.owner
      (answer, { world with owner })

def parameterHandler : Handler SecureWorld := fun data =>
  focus SecureWorld.owner (fun owner world => { world with owner }) (Parameter.Owner.handler data)

/-- Carries out the next round. After the last one buffers are left as they are. -/
def executeRound : BufferAction SecureWorld Unit := do
  let (buffer, world) ← get
  match world.rounds with
  | [] => return
  | round :: rounds =>
    let written := round.writes.foldl (fun buffer write => buffer.overwrite write.1 write.2) buffer
    set (written, { world with rounds })
    match round.failure with
    | none => return
    | some status => throw status

end SecureWorld

end PlatformFirmware.Simulation
