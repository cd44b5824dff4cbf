import PlatformFirmware.Hardware.SecureCall
import PlatformFirmware.ManagementMode.Executor
import PlatformFirmware.Parameter.Store

namespace PlatformFirmware.Parameter

def function : UInt32 := 0xC200FF20

def handlerGuid : Efi.Guid :=
  .ofFields 0xE6B14F4A 0x8B70 0x4D23 #v[0xA1, 0x5C, 0x4E, 0x3D, 0x9B, 0x7A, 0x21, 0x0F]

def Request.call (function : UInt32) (request : Request) : SecureCall :=
  .ofList function [request.operation.code.toUInt64, request.id.toUInt64,
    request.readAcl.bits.toUInt64, request.writeAcl.bits.toUInt64, request.value.toUInt64]

/-- Of every register only the low word counts. -/
def Request.ofCall (call : SecureCall) : Except Status Request :=
  (Operation.ofCode (call.argument 1).toUInt32).map fun operation =>
    { operation
      id := (call.argument 2).toUInt32
      readAcl := ⟨(call.argument 3).toUInt32⟩
      writeAcl := ⟨(call.argument 4).toUInt32⟩
      value := (call.argument 5).toUInt32 }

def Response.answer (response : Response) : SecureCall.Answer :=
  { x1 := response.status.word.toUInt64, x2 := response.value.toUInt64 }

def Response.ofAnswer (answer : SecureCall.Answer) : Response :=
  ⟨Status.ofWord answer.x1.toUInt32, answer.x2.toUInt32⟩

structure Owner where
  function : UInt32 := Parameter.function
  store : Store := {}

namespace Owner

def serve (owner : Owner) (request : Except Status Request) : Response × Owner :=
  match request with
  | .ok request =>
    let (response, store) := owner.store.apply request
    (response, { owner with store })
  | .error status => (⟨status, 0⟩, owner)

instance : SecureMonitor Owner where
  call call owner :=
    if call.function = owner.function then
      let (response, owner) := owner.serve (Request.ofCall call)
      (response.answer, owner)
    else (.ofStatus (-1), owner)

/-- A malformed message is answered like any other, as invalid. -/
def handler : ManagementMode.Handler Owner := fun data => do
  let response ← modifyGet fun owner => owner.serve (Request.ofBytes data)
  return response.toBytes

end Owner

end PlatformFirmware.Parameter
