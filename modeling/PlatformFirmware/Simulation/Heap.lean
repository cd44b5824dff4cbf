import PlatformFirmware.Hardware.ReservedMemory

namespace PlatformFirmware.Simulation

structure Heap where
  /-- Address and pages of every region handed out so far, the first one first. -/
  regions : List (UInt64 × Nat) := []
  releases : Nat := 0
  /-- The number of allocations that succeed. -/
  limit : Option Nat := none
  refusals : Nat := 0
  pinned : List Nat := []

namespace Heap

def allocations (heap : Heap) : Nat := heap.regions.length

def outstanding (heap : Heap) : Nat := heap.allocations - heap.releases

def nextAddress (heap : Heap) : UInt64 :=
  heap.regions.foldl (fun address region =>
    address + UInt64.ofNat ((region.2 + 1) * Efi.Page.bytes)) 0x80000000

def locate? (heap : Heap) (address : UInt64) : Option (Nat × Nat) :=
  (heap.regions.zipIdx.find? fun (region, _) =>
    region.1 ≤ address ∧ (address - region.1).toNat < region.2 * Efi.Page.bytes).map
    fun (region, number) => (number, (address - region.1).toNat)

def address? (heap : Heap) (number : Nat) : Option UInt64 := heap.regions[number]?.map (·.1)

def pin (number : Nat) (heap : Heap) : Heap := { heap with pinned := number :: heap.pinned }

def unpin (heap : Heap) : Heap := { heap with pinned := [] }

def isPinned (heap : Heap) (address : UInt64) : Bool :=
  heap.pinned.any fun number => heap.address? number = some address

instance : ReservedMemory Heap where
  allocate pages heap :=
    if heap.limit.any (· ≤ heap.allocations) then .error .outOfResources heap
    else
      let address := heap.nextAddress
      .ok (.fill address pages 0xA5) { heap with regions := heap.regions ++ [(address, pages)] }
  release region heap :=
    if heap.isPinned region.address then .error .accessDenied heap
    else if 0 < heap.refusals then .error .deviceError { heap with refusals := heap.refusals - 1 }
    else .ok () { heap with releases := heap.releases + 1 }

end Heap

end PlatformFirmware.Simulation
