import PlatformFirmware.ManagementMode.Buffer

namespace PlatformFirmware.ManagementMode

namespace Dump

def hex (width n : Nat) : String :=
  let digits := (Nat.toDigits 16 n).map Char.toUpper
  String.ofList (List.replicate (width - digits.length) '0' ++ digits)

def char (byte : UInt8) : Char :=
  if 0x20 ≤ byte ∧ byte ≤ 0x7E then Char.ofNat byte.toNat else '.'

def line (offset : Nat) (bytes : Bytes) : String :=
  hex 8 offset ++ ": " ++ String.join (bytes.map fun byte => hex 2 byte.toNat ++ " ") ++
    String.join (List.replicate (16 - bytes.length) "   ") ++ " |" ++
    String.ofList (bytes.map char) ++ "|\n"

def lines (offset : Nat) (bytes : Bytes) : String :=
  if bytes.length ≤ 16 then if bytes.length = 0 then "" else line offset bytes
  else line offset (bytes.take 16) ++ lines (offset + 16) (bytes.drop 16)
termination_by bytes.length

end Dump

def Buffer.dump (buffer : Buffer) : String :=
  "CommunicateBuffer(id: 0x" ++ Dump.hex 1 buffer.id.toNat ++ ". len: 0x" ++
    Dump.hex 1 buffer.memory.length ++ ")\n" ++ Dump.lines 0 buffer.memory

def dumpAll (buffers : List Buffer) : String :=
  "MM Communicator:\n" ++ String.join (buffers.map fun buffer =>
    "Comm Buffer: " ++ buffer.dump ++ "\n")

end PlatformFirmware.ManagementMode
