import PlatformFirmware.Bytes
import PlatformFirmware.Efi.Error
import PlatformFirmware.Parameter.Acl

namespace PlatformFirmware.Parameter

inductive Status
  | success
  | notSet
  | noPermission
  | invalid
  | fail
  deriving DecidableEq, Repr

namespace Status

def word : Status → UInt32
  | success => 0xAABBCC00
  | notSet => 0xAABBCC01
  | noPermission => 0xAABBCC02
  | invalid => 0xAABBCC03
  | fail => 0xAABBCCFF

def ofWord (word : UInt32) : Status :=
  if word = 0xAABBCC00 then success
  else if word = 0xAABBCC01 then notSet
  else if word = 0xAABBCC02 then noPermission
  else if word = 0xAABBCC03 then invalid
  else fail

def error : Status → Efi.Error
  | success => .deviceError
  | notSet => .notFound
  | noPermission => .accessDenied
  | invalid => .invalidParameter
  | fail => .deviceError

end Status

inductive Operation
  | get
  | set
  | clear
  | clearAll
  deriving DecidableEq, Repr

namespace Operation

def code : Operation → UInt32
  | get => 1
  | set => 2
  | clear => 3
  | clearAll => 4

def ofCode (code : UInt32) : Except Status Operation :=
  if code = 1 then .ok get
  else if code = 2 then .ok set
  else if code = 3 then .ok clear
  else if code = 4 then .ok clearAll
  else .error .invalid

end Operation

structure Request where
  operation : Operation
  id : UInt32 := 0
  readAcl : Acl := .none
  writeAcl : Acl := .none
  value : UInt32 := 0
  deriving DecidableEq, Repr

namespace Request

def get (id : UInt32) (readAcl : Acl) : Request := { operation := .get, id, readAcl }

def set (id : UInt32) (readAcl writeAcl : Acl) (value : UInt32) : Request :=
  { operation := .set, id, readAcl, writeAcl, value }

def clear (id : UInt32) (writeAcl : Acl) : Request := { operation := .clear, id, writeAcl }

def clearAll : Request := { operation := .clearAll }

def toBytes (request : Request) : Bytes :=
  Bytes.word32 request.operation.code ++ Bytes.word32 request.id ++
    Bytes.word32 request.readAcl.bits ++ Bytes.word32 request.writeAcl.bits ++
    Bytes.word32 request.value

def words? (bytes : Bytes) : Option (UInt32 × UInt32 × UInt32 × UInt32 × UInt32) := do
  let (operation, rest) ← Bytes.word32? bytes
  let (id, rest) ← Bytes.word32? rest
  let (readAcl, rest) ← Bytes.word32? rest
  let (writeAcl, rest) ← Bytes.word32? rest
  let (value, _) ← Bytes.word32? rest
  return (operation, id, readAcl, writeAcl, value)

/-- A short message and an unknown operation are invalid. What follows the fields is ignored. -/
def ofBytes (bytes : Bytes) : Except Status Request :=
  match words? bytes with
  | none => .error .invalid
  | some (operation, id, readAcl, writeAcl, value) =>
    (Operation.ofCode operation).map fun operation =>
      { operation, id, readAcl := ⟨readAcl⟩, writeAcl := ⟨writeAcl⟩, value }

end Request

structure Response where
  status : Status
  value : UInt32
  deriving DecidableEq, Repr

namespace Response

def toBytes (response : Response) : Bytes :=
  Bytes.word32 response.status.word ++ Bytes.word32 response.value

def words? (bytes : Bytes) : Option (UInt32 × UInt32) := do
  let (status, rest) ← Bytes.word32? bytes
  let (value, _) ← Bytes.word32? rest
  return (status, value)

def ofBytes (bytes : Bytes) : Except Efi.Error Response :=
  match words? bytes with
  | none => .error .deviceError
  | some (status, value) => .ok ⟨Status.ofWord status, value⟩

def result (response : Response) : Except Efi.Error UInt32 :=
  match response.status with
  | .success => .ok response.value
  | status => .error status.error

end Response

end PlatformFirmware.Parameter
