import PlatformFirmware.Parameter.Id
import PlatformFirmware.Parameter.Request
import PlatformFirmware.Table

namespace PlatformFirmware.Parameter

structure Entry where
  value : UInt32
  readAcl : Acl
  writeAcl : Acl
  deriving DecidableEq, Repr

structure Store where
  table : Table UInt32 Entry := {}
  deriving Repr

namespace Store

def find? (store : Store) (id : UInt32) : Option Entry := store.table.get? id

def size (store : Store) : Nat := store.table.size

def isEmpty (store : Store) : Bool := store.size = 0

def requireId (id : UInt32) : Except Status Unit :=
  match Band.of? id with
  | some _ => .ok ()
  | none => .error .invalid

def get (store : Store) (id : UInt32) (readAcl : Acl) : Except Status UInt32 := do
  requireId id
  match store.find? id with
  | none => throw .notSet
  | some entry => if entry.readAcl.intersects readAcl then return entry.value else throw .noPermission

/-- A new parameter needs a write list, or nobody could ever change it. -/
def set (store : Store) (id : UInt32) (readAcl writeAcl : Acl) (value : UInt32) :
    Except Status Store := do
  requireId id
  match store.find? id with
  | some entry =>
    if entry.writeAcl.intersects writeAcl then
      return ⟨store.table.insert id { entry with value }⟩
    else throw .noPermission
  | none =>
    if writeAcl.isEmpty then throw .invalid
    else return ⟨store.table.insert id ⟨value, readAcl, writeAcl⟩⟩

def clear (store : Store) (id : UInt32) (writeAcl : Acl) : Except Status Store := do
  requireId id
  match store.find? id with
  | none => return store
  | some entry =>
    if entry.writeAcl.intersects writeAcl then return ⟨store.table.erase id⟩ else throw .noPermission

def clearAll (_ : Store) : Store := {}

def changed (store : Store) (change : Except Status Store) : Response × Store :=
  match change with
  | .ok store => (⟨.success, 0⟩, store)
  | .error status => (⟨status, 0⟩, store)

def apply (request : Request) (store : Store) : Response × Store :=
  match request.operation with
  | .get =>
    match store.get request.id request.readAcl with
    | .ok value => (⟨.success, value⟩, store)
    | .error status => (⟨status, 0⟩, store)
  | .set =>
    store.changed (store.set request.id request.readAcl request.writeAcl request.value)
  | .clear => store.changed (store.clear request.id request.writeAcl)
  | .clearAll => store.changed (.ok store.clearAll)

theorem find?_insert (table : Table UInt32 Entry) (id other : UInt32) (entry : Entry) :
    (⟨table.insert id entry⟩ : Store).find? other =
      if other = id then some entry else (⟨table⟩ : Store).find? other :=
  table.get?_insert id other entry

theorem find?_erase (table : Table UInt32 Entry) (id other : UInt32) :
    (⟨table.erase id⟩ : Store).find? other =
      if other = id then none else (⟨table⟩ : Store).find? other :=
  table.get?_erase id other

end Store

end PlatformFirmware.Parameter
