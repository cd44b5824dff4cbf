import PlatformFirmware.ErrorRecord.Structure
import PlatformFirmware.Hardware.ReservedMemory

namespace PlatformFirmware.ErrorRecord

variable {pages : Nat}

def writeTableHeader (length sources : Nat) (region : Region pages) : Region pages :=
  region.write 0
    (TableHeader.toBytes { totalLength := UInt32.ofNat length, sourceCount := UInt32.ofNat sources })

def writeSourceHeader (offset entries length : Nat) (region : Region pages) : Region pages :=
  region.write offset (SourceHeader.toBytes ⟨UInt32.ofNat entries, UInt32.ofNat length⟩)

def formatGhes (region : Region pages) : Region pages :=
  (List.range Layout.ghesSources).foldl
    (fun region index =>
      region |> writeSourceHeader (Layout.ghesSourceOffset index) Layout.ghesEntries
        Layout.ghesBlockSize)
    (writeTableHeader Layout.ghesSize Layout.ghesSources (.fill region.address pages 0))

def formatBert (region : Region pages) : Region pages :=
  Region.fill region.address pages 0
    |> writeTableHeader Layout.bertSize 1
    |> writeSourceHeader Layout.bertSourceOffset Layout.bertSlots
      (Layout.bertSourceSize - Layout.sourceHeaderSize)

end PlatformFirmware.ErrorRecord
