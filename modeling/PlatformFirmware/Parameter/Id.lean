import PlatformFirmware.Efi.Error

namespace PlatformFirmware.Parameter

inductive Band
  | preBoot
  | manufacturing
  | user
  | board
  deriving DecidableEq, Repr

def Band.of? (id : UInt32) : Option Band :=
  if id % 8 ≠ 0 then none
  else if id < 0x4000 then some preBoot
  else if id < 0x8000 then some manufacturing
  else if id < 0xC000 then some user
  else if id < 0x10000 then some board
  else none

def checkId (id : UInt32) : Except Efi.Error Band :=
  match Band.of? id with
  | some band => .ok band
  | none => .error .invalidParameter

end PlatformFirmware.Parameter
