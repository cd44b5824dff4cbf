import PlatformFirmware.ErrorRecord.Store
import PlatformFirmware.Hardware.Trace
import PlatformFirmware.Proofs.Action

namespace PlatformFirmware.ErrorRecord

inductive Operation
  | init
  | free
  | enable (on : Bool) (detector : Detector)
  | record (error : BootError)
  deriving DecidableEq, Repr

def released {pages : Nat} (region : Option (Region pages)) : List Event :=
  (region.map fun region => .release region.address pages none).toList

def rewritten {pages : Nat} (region : Region pages) : Event :=
  .dirty region.address (pages * Efi.Page.bytes)

inductive FreeStep (store : Store) : List Event → Except Efi.Error Unit → Store → Prop
  | ghesRefused (ghes : Region Layout.ghesPages) (e : Efi.Error) (h : store.ghes = some ghes) :
      FreeStep store [.release ghes.address Layout.ghesPages (some e)] (.error e) store
  | bertRefused (bert : Region Layout.bertPages) (e : Efi.Error) (h : store.bert = some bert) :
      FreeStep store
        (released store.ghes ++ [.release bert.address Layout.bertPages (some e)]) (.error e)
        { store with ghes := none }
  | done :
      FreeStep store (released store.ghes ++ released store.bert) (.ok ())
        { store with ghes := none, bert := none, published := false }

inductive InitStep (store : Store) : List Event → Except Efi.Error Unit → Store → Prop
  | initialized (h : store.isInitialized) : InitStep store [] (.ok ()) store
  | notFreed {events : List Event} {e : Efi.Error} {after : Store} (h : ¬ store.isInitialized)
      (hf : FreeStep store events (.error e) after) : InitStep store events (.error e) after
  | noGhes {events : List Event} {after : Store} (e : Efi.Error) (h : ¬ store.isInitialized)
      (hf : FreeStep store events (.ok ()) after) :
      InitStep store (events ++ [.allocate Layout.ghesPages (.inr e)]) (.error .outOfResources)
        after
  /-- The first region is given back, and lost if the provider refuses to take it. -/
  | noBert {events : List Event} {after : Store} (ghes : Region Layout.ghesPages) (e : Efi.Error)
      (failure : Option Efi.Error) (h : ¬ store.isInitialized)
      (hf : FreeStep store events (.ok ()) after) :
      InitStep store
        (events ++ [.allocate Layout.ghesPages (.inl ghes.address),
          .allocate Layout.bertPages (.inr e), .release ghes.address Layout.ghesPages failure])
        (.error .outOfResources) after
  | done {events : List Event} {after : Store} (ghes : Region Layout.ghesPages)
      (bert : Region Layout.bertPages) (h : ¬ store.isInitialized)
      (hf : FreeStep store events (.ok ()) after) :
      InitStep store
        (events ++ [.allocate Layout.ghesPages (.inl ghes.address),
          .allocate Layout.bertPages (.inl bert.address), rewritten ghes, rewritten bert])
        (.ok ()) { after with ghes := some (formatGhes ghes), bert := some (formatBert bert) }

def publication (functions : Functions) (kind : TableKind) (address : UInt64) (size : Nat)
    (answer : SecureCall.Answer) : List Event :=
  [.clean address size,
    .call (.ofList functions.setAddress [kind.code, address, UInt64.ofNat size]) answer]

inductive PublishStep (store : Store) : List Event → Except Efi.Error Unit → Store → Prop
  | notReady (h : ¬ store.isInitialized) : PublishStep store [] (.error .notReady) store
  | ghesRefused (ghes : Region Layout.ghesPages) (a : SecureCall.Answer) (e : Efi.Error)
      (hi : store.isInitialized) (hg : store.ghes = some ghes) (ha : a.check = .error e) :
      PublishStep store (publication store.functions .ghes ghes.address Layout.ghesSize a)
        (.error e) store
  | bertRefused (ghes : Region Layout.ghesPages) (bert : Region Layout.bertPages)
      (a b : SecureCall.Answer) (e : Efi.Error) (hg : store.ghes = some ghes)
      (hb : store.bert = some bert) (ha : a.check = .ok ()) (hbc : b.check = .error e) :
      PublishStep store
        (publication store.functions .ghes ghes.address Layout.ghesSize a ++
          publication store.functions .bert bert.address Layout.bertSize b) (.error e) store
  | done (ghes : Region Layout.ghesPages) (bert : Region Layout.bertPages)
      (a b : SecureCall.Answer) (hg : store.ghes = some ghes) (hb : store.bert = some bert)
      (ha : a.check = .ok ()) (hbc : b.check = .ok ()) :
      PublishStep store
        (publication store.functions .ghes ghes.address Layout.ghesSize a ++
          publication store.functions .bert bert.address Layout.bertSize b) (.ok ())
        { store with published := true }

def detection (functions : Functions) (on : Bool) (detector : Detector) : SecureCall :=
  .ofList functions.enable [if on then 1 else 0, detector.code]

inductive DetectStep (functions : Functions) (on : Bool) (detector : Detector) :
    List Event → Except Efi.Error Unit → Prop
  | refused (a : SecureCall.Answer) (e : Efi.Error) (h : a.check = .error e) :
      DetectStep functions on detector [.call (detection functions on detector) a] (.error e)
  | silent (a : SecureCall.Answer) (h : a.check = .ok ()) (hp : detector.processor? = none) :
      DetectStep functions on detector [.call (detection functions on detector) a] (.ok ())
  | polling (a : SecureCall.Answer) (p : ManagementProcessor) (result : Except Efi.Error Unit)
      (h : a.check = .ok ()) (hp : detector.processor? = some p) :
      DetectStep functions on detector
        [.call (detection functions on detector) a, .polling p on (failure? result)] result

inductive EnableStep (on : Bool) (detector : Detector) (store : Store) :
    List Event → Except Efi.Error Unit → Store → Prop
  | notPublished {events : List Event} {e : Efi.Error} {after : Store} (h : on = true)
      (hp : PublishStep store events (.error e) after) :
      EnableStep on detector store events (.error e) after
  | published {events later : List Event} {after : Store} {result : Except Efi.Error Unit}
      (h : on = true) (hp : PublishStep store events (.ok ()) after)
      (hd : DetectStep store.functions on detector later result) :
      EnableStep on detector store (events ++ later) result after
  | off {events : List Event} {result : Except Efi.Error Unit} (h : on = false)
      (hd : DetectStep store.functions on detector events result) :
      EnableStep on detector store events result store

inductive RecordStep (error : BootError) (store : Store) :
    List Event → Except Efi.Error Unit → Store → Prop
  | notReady (h : store.bert = none) : RecordStep error store [] (.error .notReady) store
  | full (bert : Region Layout.bertPages) (h : store.bert = some bert)
      (hs : Store.freeSlot? bert = none) : RecordStep error store [] (.error .outOfResources) store
  | written (bert : Region Layout.bertPages) (slot : Nat) (h : store.bert = some bert)
      (hs : Store.freeSlot? bert = some slot) :
      RecordStep error store
        (.dirty (bert.address + UInt64.ofNat (Layout.slotOffset slot)) Layout.slotSize ::
          if store.published then
            [.clean (bert.address + UInt64.ofNat (Layout.slotOffset slot)) Layout.slotSize]
          else [])
        (.ok ()) { store with bert := some (bert.write (Layout.slotOffset slot) error.slot) }

def Operation.Step : Operation → Store → List Event → Except Efi.Error Unit → Store → Prop
  | init => InitStep
  | free => FreeStep
  | enable on detector => EnableStep on detector
  | record error => RecordStep error

end PlatformFirmware.ErrorRecord
