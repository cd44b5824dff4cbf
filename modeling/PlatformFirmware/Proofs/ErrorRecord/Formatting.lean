import PlatformFirmware.Proofs.ErrorRecord.BootLog

namespace PlatformFirmware.ErrorRecord

def ghesSourceHeader : SourceHeader :=
  ⟨UInt32.ofNat Layout.ghesEntries, UInt32.ofNat Layout.ghesBlockSize⟩

def bertSourceHeader : SourceHeader :=
  ⟨UInt32.ofNat Layout.bertSlots, UInt32.ofNat (Layout.bertSourceSize - Layout.sourceHeaderSize)⟩

namespace Layout

theorem ghesSourceOffset_eq (index : Nat) : ghesSourceOffset index = 24 + index * 4140 := rfl

theorem ghesSourceOffset_add_le {index other : Nat} (h : index < other) :
    ghesSourceOffset index + ghesSourceSize ≤ ghesSourceOffset other := by
  have hi := ghesSourceOffset_eq index
  have ho := ghesSourceOffset_eq other
  have hs : ghesSourceSize = 4140 := rfl
  omega

/-- A block ends with its source. -/
theorem ghesBlockOffset_add (index : Nat) :
    ghesBlockOffset index + ghesBlockSize = ghesSourceOffset index + ghesSourceSize :=
  Nat.add_assoc _ _ _

theorem ghesBlockOffset_add_le {index other : Nat} (h : index < other) :
    ghesBlockOffset index + ghesBlockSize ≤ ghesBlockOffset other := by
  rw [ghesBlockOffset_add]
  exact Nat.le_trans (ghesSourceOffset_add_le h) (Nat.le_add_right _ _)

theorem ghesSourceOffset_sources_le : ghesSourceOffset ghesSources ≤ ghesPages * Efi.Page.bytes :=
  ghesSourceOffset_sources ▸ ghesSize_le

theorem ghesSourceOffset_add_le_length {index : Nat} (h : index < ghesSources) :
    ghesSourceOffset index + ghesSourceSize ≤ ghesPages * Efi.Page.bytes :=
  Nat.le_trans (ghesSourceOffset_add_le h) ghesSourceOffset_sources_le

theorem ghesBlockOffset_add_le_length {index : Nat} (h : index < ghesSources) :
    ghesBlockOffset index + ghesBlockSize ≤ ghesPages * Efi.Page.bytes :=
  ghesBlockOffset_add index ▸ ghesSourceOffset_add_le_length h

end Layout

section Headers

theorem TableHeader.ofBytes?_toBytes_append (header : TableHeader) (rest : Bytes) :
    ofBytes? (header.toBytes ++ rest) = some header := by
  simp [ofBytes?, toBytes, Bytes.word32?_word32, Bytes.word64?_word64]

theorem SourceHeader.ofBytes?_toBytes_append (header : SourceHeader) (rest : Bytes) :
    ofBytes? (header.toBytes ++ rest) = some header := by
  simp [ofBytes?, toBytes, Bytes.word32?_word32]

theorem TableHeader.ofBytes?_of_slice {bytes : Bytes} {header : TableHeader}
    (h : Bytes.slice bytes 0 Layout.headerSize = header.toBytes) :
    ofBytes? bytes = some header := by
  rw [Bytes.slice, List.drop_zero] at h
  rw [← List.take_append_drop Layout.headerSize bytes, h]
  exact header.ofBytes?_toBytes_append _

theorem SourceHeader.ofBytes?_of_slice {bytes : Bytes} {offset : Nat} {header : SourceHeader}
    (h : Bytes.slice bytes offset Layout.sourceHeaderSize = header.toBytes) :
    ofBytes? (bytes.drop offset) = some header := by
  rw [Bytes.slice] at h
  rw [← List.take_append_drop Layout.sourceHeaderSize (bytes.drop offset), h]
  exact header.ofBytes?_toBytes_append _

variable {pages : Nat} (region : Region pages)

theorem slice_writeTableHeader (length sources : Nat)
    (h : Layout.headerSize ≤ pages * Efi.Page.bytes) :
    (writeTableHeader length sources region).slice 0 Layout.headerSize = TableHeader.toBytes
      { totalLength := UInt32.ofNat length, sourceCount := UInt32.ofNat sources } := by
  rw [← TableHeader.length_toBytes { totalLength := _, sourceCount := _ }]
  refine Bytes.slice_write _ _ _ ?_
  rwa [Region.length_bytes, TableHeader.length_toBytes, Nat.zero_add]

theorem slice_writeSourceHeader (offset entries length : Nat)
    (h : offset + Layout.sourceHeaderSize ≤ pages * Efi.Page.bytes) :
    (writeSourceHeader offset entries length region).slice offset Layout.sourceHeaderSize =
      SourceHeader.toBytes ⟨UInt32.ofNat entries, UInt32.ofNat length⟩ := by
  rw [← SourceHeader.length_toBytes ⟨_, _⟩]
  refine Bytes.slice_write _ _ _ ?_
  rwa [Region.length_bytes, SourceHeader.length_toBytes]

/-- A source header is written beside the slice. -/
theorem slice_writeSourceHeader_of_disjoint (offset entries length : Nat) {start size : Nat}
    (h : start + size ≤ offset ∨ offset + Layout.sourceHeaderSize ≤ start) :
    (writeSourceHeader offset entries length region).slice start size =
      region.slice start size := by
  refine Bytes.slice_write_of_disjoint _ _ _ _ _ ?_
  rwa [SourceHeader.length_toBytes]

end Headers

section Sources

variable {pages : Nat}

def writeGhesSources (count : Nat) (region : Region pages) : Region pages :=
  (List.range count).foldl
    (fun region index =>
      writeSourceHeader (Layout.ghesSourceOffset index) Layout.ghesEntries Layout.ghesBlockSize
        region)
    region

theorem formatGhes_eq (region : Region pages) :
    formatGhes region =
      writeGhesSources Layout.ghesSources
        (writeTableHeader Layout.ghesSize Layout.ghesSources (.fill region.address pages 0)) := rfl

theorem writeGhesSources_succ (count : Nat) (region : Region pages) :
    writeGhesSources (count + 1) region =
      writeSourceHeader (Layout.ghesSourceOffset count) Layout.ghesEntries Layout.ghesBlockSize
        (writeGhesSources count region) := by
  rw [writeGhesSources, List.range_succ, List.foldl_append]
  rfl

theorem address_writeGhesSources (count : Nat) (region : Region pages) :
    (writeGhesSources count region).address = region.address := by
  induction count with
  | zero => rfl
  | succ count ih =>
    rw [writeGhesSources_succ, ← ih]
    rfl

theorem bytes_writeGhesSources_congr (count : Nat) {region other : Region pages}
    (h : region.bytes = other.bytes) :
    (writeGhesSources count region).bytes = (writeGhesSources count other).bytes := by
  induction count with
  | zero => exact h
  | succ count ih => simp only [writeGhesSources_succ, writeSourceHeader, Region.write, ih]

theorem slice_writeGhesSources_of_le (count : Nat) (region : Region pages) {start length : Nat}
    (h : start + length ≤ Layout.headerSize) :
    (writeGhesSources count region).slice start length = region.slice start length := by
  induction count with
  | zero => rfl
  | succ count ih =>
    rw [writeGhesSources_succ, ← ih]
    exact slice_writeSourceHeader_of_disjoint _ _ _ _
      (.inl (Nat.le_trans h (Nat.le_add_right _ _)))

theorem slice_writeGhesSources {count index : Nat} (region : Region pages)
    (h : index < count) (hl : Layout.ghesSourceOffset count ≤ pages * Efi.Page.bytes) :
    (writeGhesSources count region).slice (Layout.ghesSourceOffset index)
      Layout.sourceHeaderSize = ghesSourceHeader.toBytes := by
  induction count with
  | zero => cases h
  | succ count ih =>
    have hz : Layout.sourceHeaderSize ≤ Layout.ghesSourceSize := Nat.le_add_right _ _
    have hc := Layout.ghesSourceOffset_add_le (Nat.lt_add_one count)
    rw [writeGhesSources_succ]
    rcases Nat.lt_succ_iff_lt_or_eq.1 h with hi | rfl
    · have hd := Layout.ghesSourceOffset_add_le hi
      rw [slice_writeSourceHeader_of_disjoint _ _ _ _ (.inl (by omega))]
      exact ih hi (by omega)
    · exact slice_writeSourceHeader _ _ _ _ (by omega)

end Sources

section Contents

variable {pages : Nat} (region other : Region pages)

theorem address_formatGhes : (formatGhes region).address = region.address := by
  rw [formatGhes_eq, address_writeGhesSources]
  rfl

theorem bytes_formatGhes : (formatGhes region).bytes = (formatGhes other).bytes := by
  rw [formatGhes_eq, formatGhes_eq]
  exact bytes_writeGhesSources_congr _ rfl

theorem bytes_formatBert : (formatBert region).bytes = (formatBert other).bytes := rfl

end Contents

theorem header_formatGhes (region : Region Layout.ghesPages) :
    (formatGhes region).slice 0 Layout.headerSize = TableHeader.toBytes
      { totalLength := UInt32.ofNat Layout.ghesSize
        sourceCount := UInt32.ofNat Layout.ghesSources } := by
  rw [formatGhes_eq, slice_writeGhesSources_of_le _ _ (Nat.le_refl _)]
  exact slice_writeTableHeader _ _ _ (by decide)

theorem source_formatGhes (region : Region Layout.ghesPages) {index : Nat}
    (h : index < Layout.ghesSources) :
    (formatGhes region).slice (Layout.ghesSourceOffset index) Layout.sourceHeaderSize =
      ghesSourceHeader.toBytes := by
  rw [formatGhes_eq]
  exact slice_writeGhesSources _ h Layout.ghesSourceOffset_sources_le

theorem header_formatBert (region : Region Layout.bertPages) :
    (formatBert region).slice 0 Layout.headerSize = TableHeader.toBytes
      { totalLength := UInt32.ofNat Layout.bertSize, sourceCount := UInt32.ofNat 1 } := by
  rw [formatBert, slice_writeSourceHeader_of_disjoint _ _ _ _ (.inl (by decide))]
  exact slice_writeTableHeader _ _ _ (by decide)

theorem source_formatBert (region : Region Layout.bertPages) :
    (formatBert region).slice Layout.bertSourceOffset Layout.sourceHeaderSize =
      bertSourceHeader.toBytes := by
  rw [formatBert]
  exact slice_writeSourceHeader _ _ _ _ (by decide)

end PlatformFirmware.ErrorRecord
