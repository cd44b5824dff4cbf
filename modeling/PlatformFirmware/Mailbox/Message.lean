import PlatformFirmware.Efi.Error

namespace PlatformFirmware.Mailbox

structure Message where
  command : UInt32 := 0
  parameter0 : UInt32 := 0
  parameter1 : UInt32 := 0
  deriving DecidableEq, Repr

inductive MessageClass
  | debug
  | user
  | ras
  deriving DecidableEq, Repr

namespace MessageClass

def code : MessageClass → UInt8
  | debug => 0x0
  | user => 0x6
  | ras => 0xB

def ofCode (code : UInt8) : Except Efi.Error MessageClass :=
  match code with
  | 0x0 => .ok debug
  | 0x6 => .ok user
  | 0xB => .ok ras
  | _ => .error .invalidParameter

end MessageClass

structure Header where
  classCode : UInt8
  subtype : UInt8
  control : UInt8
  deriving DecidableEq, Repr

namespace Command

def field (value : UInt8) (shift : UInt32) : UInt32 := value.toUInt32 <<< shift

/-- Only the low four bits of the subtype have room in the word. -/
def ofHeader (messageClass : MessageClass) (subtype control : UInt8) : UInt32 :=
  field messageClass.code 28 ||| field subtype 24 &&& 0x0F000000 ||| field control 16

def ofParameters (messageClass : MessageClass) (subtype control parameter0 parameter1 : UInt8) :
    UInt32 :=
  ofHeader messageClass subtype control ||| field parameter0 8 ||| field parameter1 0

def header (command : UInt32) : Header where
  classCode := ((command &&& 0xF0000000) >>> 28).toUInt8
  subtype := ((command &&& 0x0F000000) >>> 24).toUInt8
  control := ((command &&& 0x00FF0000) >>> 16).toUInt8

def parameters (command : UInt32) : UInt8 × UInt8 :=
  (((command &&& 0x0000FF00) >>> 8).toUInt8, (command &&& 0x000000FF).toUInt8)

/-- The class and subtype of a request, which its response repeats over a control byte of zero. -/
def sentinel (request : UInt32) : UInt32 := request &&& 0xFF000000

def checkResponse (request response : UInt32) : Except Efi.Error Unit :=
  if response &&& 0xFFFF0000 = sentinel request then .ok () else .error .deviceError

end Command

end PlatformFirmware.Mailbox
