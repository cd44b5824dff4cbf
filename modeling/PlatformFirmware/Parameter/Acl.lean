namespace PlatformFirmware.Parameter

structure Acl where
  bits : UInt32
  deriving DecidableEq, Repr

namespace Acl

def none : Acl := ⟨0⟩

def isEmpty (acl : Acl) : Bool := acl.bits = 0

def intersects (acl other : Acl) : Bool := acl.bits &&& other.bits ≠ 0

end Acl

end PlatformFirmware.Parameter
