import PlatformFirmware.Hardware.SecureCall

namespace PlatformFirmware.Simulation

structure ScriptedMonitor where
  answers : List SecureCall.Answer := []
  deriving DecidableEq, Repr

namespace ScriptedMonitor

def push (answer : SecureCall.Answer) (monitor : ScriptedMonitor) : ScriptedMonitor :=
  ⟨monitor.answers ++ [answer]⟩

instance : SecureMonitor ScriptedMonitor where
  call _ monitor := (monitor.answers.headD {}, ⟨monitor.answers.tail⟩)

end ScriptedMonitor

end PlatformFirmware.Simulation
