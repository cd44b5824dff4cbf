import PlatformFirmware.ErrorRecord.BootError
import PlatformFirmware.ErrorRecord.Format
import PlatformFirmware.Hardware.DataCache
import PlatformFirmware.Hardware.ManagementProcessor
import PlatformFirmware.Hardware.SecureCall

namespace PlatformFirmware.ErrorRecord

inductive TableKind
  | ghes
  | bert
  deriving DecidableEq, Repr

def TableKind.code : TableKind → UInt64
  | ghes => 0
  | bert => 1

inductive Detector
  /-- Trusted firmware itself. -/
  | atf
  | smpro
  | pmpro
  deriving DecidableEq, Repr

namespace Detector

def code : Detector → UInt64
  | atf => 0
  | smpro => 1
  | pmpro => 2

def processor? : Detector → Option ManagementProcessor
  | atf => none
  | smpro => some .smpro
  | pmpro => some .pmpro

end Detector

structure Functions where
  setAddress : UInt32 := 0xC200FF10
  enable : UInt32 := 0xC200FF11
  deriving DecidableEq, Repr

structure Store where
  functions : Functions := {}
  ghes : Option (Region Layout.ghesPages) := none
  bert : Option (Region Layout.bertPages) := none
  published : Bool := false

namespace Store

def isInitialized (store : Store) : Bool := store.ghes.isSome && store.bert.isSome

def ghesSource? (store : Store) (index : Nat) : Option Bytes :=
  if index < Layout.ghesSources then
    store.ghes.map fun region => region.slice (Layout.ghesSourceOffset index) Layout.ghesSourceSize
  else none

def ghesBlockAddress? (store : Store) (index : Nat) : Option UInt64 :=
  if index < Layout.ghesSources then
    store.ghes.map fun region => region.address + UInt64.ofNat (Layout.ghesBlockOffset index)
  else none

def bertTable? (store : Store) : Option Bytes :=
  store.bert.map fun region => region.slice 0 Layout.bertSize

def bertAddress? (store : Store) : Option UInt64 := store.bert.map (·.address)

/-- The region at an address as another agent leaves it. -/
def overwrite (address : UInt64) (offset : Nat) (data : Bytes) (store : Store) : Store :=
  { store with
    ghes := store.ghes.map fun region =>
      if region.address = address then region.write offset data else region
    bert := store.bert.map fun region =>
      if region.address = address then region.write offset data else region }

def slotIsFree (region : Region Layout.bertPages) (slot : Nat) : Bool :=
  (BlockStatus.ofBytes? (region.slice (Layout.slotOffset slot) Layout.statusSize)).any
    (·.blockStatus = 0)

def freeSlot? (region : Region Layout.bertPages) : Option Nat :=
  (List.range Layout.bertSlots).find? (slotIsFree region)

end Store

abbrev StoreAction (σ : Type) : Type → Type := EStateM Efi.Error (Store × σ)

namespace StoreAction

variable {σ α : Type}

def onPlatform (action : Firmware σ α) : StoreAction σ α :=
  focus (·.2) (fun platform s => (s.1, platform)) action

def update (f : Store → Store) : StoreAction σ Unit := modify fun s => (f s.1, s.2)

def store : StoreAction σ Store := return (← get).1

section Writing

variable [DataCache σ] {pages : Nat}

def write (region : Region pages) (offset : Nat) (data : Bytes) : StoreAction σ (Region pages) := do
  onPlatform (dirtyCache (region.address + UInt64.ofNat offset) data.length)
  return region.write offset data

def rewrite (f : Region pages → Region pages) (region : Region pages) :
    StoreAction σ (Region pages) := do
  onPlatform (dirtyCache region.address region.length)
  return f region

end Writing

section Memory

variable [ReservedMemory σ]

def allocate (pages : Nat) : StoreAction σ (Region pages) :=
  tryCatch (onPlatform (ReservedMemory.allocate pages)) fun _ => throw .outOfResources

def release {pages : Nat} (region : Region pages) : StoreAction σ Unit :=
  onPlatform (ReservedMemory.release region)

def freeGhes : StoreAction σ Unit := do
  if let some region := (← store).ghes then
    release region
    update ({ · with ghes := none })

def freeBert : StoreAction σ Unit := do
  if let some region := (← store).bert then
    release region
    update ({ · with bert := none })

/-- Releases both regions. One that the provider refuses to take back stays for a later attempt. -/
def free : StoreAction σ Unit := do
  freeGhes
  freeBert
  update ({ · with published := false })

/-- Allocates and formats both regions, and does nothing in an initialized store. A region left by
an earlier failure is released first. -/
def init [DataCache σ] : StoreAction σ Unit := do
  if (← store).isInitialized then
    return
  free
  let ghes ← allocate Layout.ghesPages
  let bert ← tryCatch (allocate Layout.bertPages) fun e => do
    tryCatch (release ghes) fun _ => return
    throw e
  let ghes ← rewrite formatGhes ghes
  let bert ← rewrite formatBert bert
  update ({ · with ghes := some ghes, bert := some bert })

end Memory

section Detection

variable [SecureMonitor σ] [DataCache σ]

def secureCall (function : UInt32) (arguments : List UInt64) : Firmware σ Unit := do
  let answer ← (SecureCall.ofList function arguments).issue
  MonadExcept.ofExcept answer.check

/-- What was written to the table reaches memory before its address is known. -/
def publish (functions : Functions) (kind : TableKind) (address : UInt64) (size : Nat) :
    Firmware σ Unit := do
  cleanCache address size
  secureCall functions.setAddress [kind.code, address, UInt64.ofNat size]

def publishTables : StoreAction σ Unit := do
  let s ← store
  match s.ghes, s.bert with
  | some ghes, some bert =>
    onPlatform do
      publish s.functions .ghes ghes.address Layout.ghesSize
      publish s.functions .bert bert.address Layout.bertSize
    update ({ · with published := true })
  | _, _ => throw .notReady

def enable [RasPolling σ] (on : Bool) (detector : Detector) : StoreAction σ Unit := do
  if on then
    publishTables
  let s ← store
  onPlatform do
    secureCall s.functions.enable [if on then 1 else 0, detector.code]
    match detector.processor? with
    | none => return
    | some processor => RasPolling.setPolling processor on

end Detection

def record [DataCache σ] (error : BootError) : StoreAction σ Unit := do
  let s ← store
  match s.bert with
  | none => throw .notReady
  | some bert =>
    match Store.freeSlot? bert with
    | none => throw .outOfResources
    | some slot =>
      let offset := Layout.slotOffset slot
      let written ← write bert offset error.slot
      update ({ · with bert := some written })
      if s.published then
        onPlatform (cleanCache (bert.address + UInt64.ofNat offset) Layout.slotSize)

end StoreAction

end PlatformFirmware.ErrorRecord
