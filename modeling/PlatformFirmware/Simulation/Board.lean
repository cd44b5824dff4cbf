import PlatformFirmware.Hardware.Trace
import PlatformFirmware.Mailbox.Station
import PlatformFirmware.Simulation.DoorbellPeer
import PlatformFirmware.Simulation.Heap
import PlatformFirmware.Simulation.ScriptedMonitor

namespace PlatformFirmware.Simulation

structure Board where
  heap : Heap := {}
  monitor : ScriptedMonitor := {}
  station : Mailbox.Station (Traced DoorbellPeer)

namespace Board

instance : ReservedMemory Board where
  allocate pages :=
    focus Board.heap (fun heap board => { board with heap }) (ReservedMemory.allocate pages)
  release region :=
    focus Board.heap (fun heap board => { board with heap }) (ReservedMemory.release region)

instance : SecureMonitor Board where
  call request board :=
    let (answer, monitor) := SecureMonitor.call request board.monitor
    (answer, { board with monitor })

instance : DataCache Board where
  dirty _ _ board := board
  clean _ _ board := board

instance : RasPolling Board where
  setPolling processor enable :=
    focus Board.station (fun station board => { board with station })
      (RasPolling.setPolling processor enable)

end Board

end PlatformFirmware.Simulation
