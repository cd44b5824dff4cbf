import PlatformFirmware.Proofs.ErrorRecord.Formatting

namespace PlatformFirmware.ErrorRecord

/-- The offsets of some sources from an offset on, and where the last one ends. -/
def walk? (bytes : Bytes) : Nat → Nat → Option (List Nat × Nat)
  | 0, offset => some ([], offset)
  | sources + 1, offset => do
    let header ← SourceHeader.ofBytes? (bytes.drop offset)
    let (offsets, last) ← walk? bytes sources
      (offset + Layout.sourceHeaderSize + header.length.toNat)
    return (offset :: offsets, last)

def LaidOut (bytes : Bytes) (offsets : List Nat) : Prop :=
  ∃ header, TableHeader.ofBytes? bytes = some header ∧
    walk? bytes header.sourceCount.toNat Layout.headerSize =
      some (offsets, header.totalLength.toNat) ∧
    header.totalLength.toNat ≤ bytes.length

theorem walk?_of_headers {bytes : Bytes} {header : SourceHeader} {size : Nat}
    (hs : Layout.sourceHeaderSize + header.length.toNat = size) (sources start : Nat)
    (h : ∀ index < sources,
      SourceHeader.ofBytes? (bytes.drop (start + index * size)) = some header) :
    walk? bytes sources start =
      some ((List.range sources).map (start + · * size), start + sources * size) := by
  induction sources generalizing start with
  | zero => simp [walk?]
  | succ sources ih =>
    have h0 := h 0 (Nat.succ_pos sources)
    rw [Nat.zero_mul, Nat.add_zero] at h0
    have hn : start + Layout.sourceHeaderSize + header.length.toNat = start + size := by omega
    have hi := ih (start + size) fun index hl => by
      have hx := h (index + 1) (by omega)
      rwa [Nat.succ_mul, Nat.add_comm (index * size), ← Nat.add_assoc] at hx
    have hm : (List.range sources).map (start + size + · * size) =
        (List.range sources).map ((start + · * size) ∘ Nat.succ) := by
      refine List.map_congr_left fun index _ => ?_
      rw [Function.comp_apply, Nat.succ_mul, Nat.add_assoc, Nat.add_comm size]
    rw [walk?, h0, Option.bind_eq_bind, Option.bind_some, hn, hi, hm, List.range_succ_eq_map,
      List.map_cons, List.map_map, Nat.zero_mul, Nat.succ_mul, Nat.add_comm (sources * size),
      ← Nat.add_assoc]
    rfl

theorem laidOut_of_headers {pages : Nat} {region : Region pages} {header : SourceHeader}
    {sources size total : Nat}
    (hh : region.slice 0 Layout.headerSize = TableHeader.toBytes
      { totalLength := UInt32.ofNat total, sourceCount := UInt32.ofNat sources })
    (hs : ∀ index < sources, region.slice (Layout.headerSize + index * size)
      Layout.sourceHeaderSize = header.toBytes)
    (hz : Layout.sourceHeaderSize + header.length.toNat = size)
    (ht : Layout.headerSize + sources * size = total) (hp : total ≤ pages * Efi.Page.bytes)
    (hc : sources < 2 ^ 32) (hl : total < 2 ^ 32) :
    LaidOut region.bytes ((List.range sources).map (Layout.headerSize + · * size)) := by
  have hw := walk?_of_headers hz sources Layout.headerSize fun index hi =>
    SourceHeader.ofBytes?_of_slice (hs index hi)
  refine ⟨_, TableHeader.ofBytes?_of_slice hh, ?_, ?_⟩
  · rw [UInt32.toNat_ofNat_of_lt' hc, UInt32.toNat_ofNat_of_lt' hl, hw, ht]
  · rwa [UInt32.toNat_ofNat_of_lt' hl, region.length_bytes]

theorem laidOut_formatGhes (region : Region Layout.ghesPages) :
    LaidOut (formatGhes region).bytes
      ((List.range Layout.ghesSources).map Layout.ghesSourceOffset) :=
  laidOut_of_headers (header_formatGhes region) (fun _ hi => source_formatGhes region hi)
    (by decide) (by decide) Layout.ghesSize_le (by decide) (by decide)

def InSlot (slot offset : Nat) : Prop :=
  Layout.slotOffset slot ≤ offset ∧ offset < Layout.slotOffset slot + Layout.slotSize

structure BootTable (region : Region Layout.bertPages) (errors : List BootError) : Prop where
  length_le : errors.length ≤ Layout.bertSlots
  holds : Holds region errors
  rest : ∀ (fresh : Region Layout.bertPages) (offset : Nat),
    (∃ slot < errors.length, InSlot slot offset) ∨
      region.bytes[offset]? = (formatBert fresh).bytes[offset]?

section BootTable

variable {region : Region Layout.bertPages} {errors : List BootError}

theorem bootTable_formatBert (region : Region Layout.bertPages) :
    BootTable (formatBert region) [] where
  length_le := Nat.zero_le _
  holds := holds_formatBert region
  rest fresh offset := .inr (by rw [bytes_formatBert region fresh])

theorem BootTable.record (h : BootTable region errors) (error : BootError)
    (hl : errors.length < Layout.bertSlots) :
    BootTable (region.write (Layout.slotOffset errors.length) error.slot) (errors ++ [error]) where
  length_le := by
    rw [List.length_append]
    exact hl
  holds := h.holds.record error
  rest fresh offset := by
    rw [List.length_append, List.length_singleton]
    by_cases hi : InSlot errors.length offset
    · exact .inl ⟨errors.length, Nat.lt_succ_self _, hi⟩
    · have hw : (region.write (Layout.slotOffset errors.length) error.slot).bytes[offset]? =
          region.bytes[offset]? := by
        rw [Region.write, Bytes.getElem?_write, error.length_slot, if_neg]
        exact fun hc => hi ⟨hc.1, hc.2.1⟩
      rcases h.rest fresh offset with ⟨slot, hs, ho⟩ | ho
      · exact .inl ⟨slot, Nat.lt_succ_of_lt hs, ho⟩
      · exact .inr (hw.trans ho)

theorem BootTable.slice_eq (h : BootTable region errors) {start length : Nat}
    (hl : start + length ≤ Layout.slotOffset 0) :
    region.slice start length = (formatBert region).slice start length := by
  refine List.ext_getElem? fun i => ?_
  simp only [Region.slice, Bytes.slice, List.getElem?_take, List.getElem?_drop]
  split
  · next hi =>
    rcases h.rest region (start + i) with ⟨slot, -, ho, -⟩ | ho
    · have h0 := Layout.slotOffset_eq 0
      have hs := Layout.slotOffset_eq slot
      omega
    · exact ho
  · rfl

theorem BootTable.laidOut (h : BootTable region errors) :
    LaidOut region.bytes [Layout.bertSourceOffset] := by
  have hh := (h.slice_eq (by decide)).trans (header_formatBert region)
  have hs (index : Nat) (hi : index < 1) :
      region.slice (Layout.headerSize + index * Layout.bertSourceSize) Layout.sourceHeaderSize =
        bertSourceHeader.toBytes := by
    obtain rfl : index = 0 := by omega
    exact (h.slice_eq (by decide)).trans (source_formatBert region)
  exact laidOut_of_headers hh hs (by decide) (by decide) Layout.bertSize_le (by decide) (by decide)

end BootTable

structure Formatted (store : Store) : Prop where
  ghes : ∀ ghes, store.ghes = some ghes →
    ∀ fresh : Region Layout.ghesPages, ghes.bytes = (formatGhes fresh).bytes
  bert : ∀ bert, store.bert = some bert → ∃ errors, BootTable bert errors

section Steps

variable {store after : Store} {events : List Event} {r : Except Efi.Error Unit}

/-- Tables that are kept or given back. -/
theorem Formatted.of_kept (h : Formatted store)
    (hg : ∀ ghes, after.ghes = some ghes → store.ghes = some ghes)
    (hb : ∀ bert, after.bert = some bert → store.bert = some bert) : Formatted after where
  ghes ghes hs := h.ghes ghes (hg ghes hs)
  bert bert hs := h.bert bert (hb bert hs)

theorem Formatted.free (h : Formatted store) (hs : FreeStep store events r after) :
    Formatted after := by
  cases hs with
  | ghesRefused => exact h
  | bertRefused => exact h.of_kept nofun fun _ hb => hb
  | done => exact h.of_kept nofun nofun

theorem Formatted.init (h : Formatted store) (hs : InitStep store events r after) :
    Formatted after := by
  cases hs with
  | initialized => exact h
  | notFreed _ hf | noGhes _ _ hf | noBert _ _ _ _ hf => exact h.free hf
  | done ghes bert =>
    constructor
    · rintro _ ⟨⟩ fresh
      exact bytes_formatGhes ghes fresh
    · rintro _ ⟨⟩
      exact ⟨[], bootTable_formatBert bert⟩

theorem Formatted.enable {on : Bool} {detector : Detector} (h : Formatted store)
    (hs : EnableStep on detector store events r after) : Formatted after := by
  cases hs with
  | notPublished _ hp | published _ hp =>
    cases hp <;> exact h.of_kept (fun _ hg => hg) fun _ hb => hb
  | off => exact h

theorem Formatted.record {error : BootError} (h : Formatted store)
    (hs : RecordStep error store events r after) : Formatted after := by
  cases hs with
  | notReady | full => exact h
  | written bert slot hb hs =>
    obtain ⟨errors, ht⟩ := h.bert bert hb
    rw [ht.holds.freeSlot?] at hs
    split at hs
    · next hl =>
      obtain rfl := Option.some.inj hs
      constructor
      · exact h.ghes
      · rintro _ ⟨⟩
        exact ⟨_, ht.record error hl⟩
    · cases hs

theorem Formatted.step {operation : Operation} (h : Formatted store)
    (hs : operation.Step store events r after) : Formatted after := by
  cases operation with
  | init => exact h.init hs
  | free => exact h.free hs
  | enable on detector => exact h.enable hs
  | record error => exact h.record hs

end Steps

theorem Region.length_slice {pages : Nat} (region : Region pages) {offset length : Nat}
    (h : offset + length ≤ pages * Efi.Page.bytes) :
    (region.slice offset length).length = length := by
  rw [Region.slice, Bytes.slice, List.length_take, List.length_drop, region.length_bytes]
  omega

theorem Store.ghesSource?_eq_some_iff {store : Store} {index : Nat} {bytes : Bytes} :
    store.ghesSource? index = some bytes ↔ ∃ ghes, store.ghes = some ghes ∧
      index < Layout.ghesSources ∧
      bytes = ghes.slice (Layout.ghesSourceOffset index) Layout.ghesSourceSize ∧
      bytes.length = Layout.ghesSourceSize := by
  rw [ghesSource?]
  split
  · next hi =>
    rw [Option.map_eq_some_iff]
    constructor
    · rintro ⟨ghes, hg, rfl⟩
      exact ⟨ghes, hg, hi, rfl, Region.length_slice ghes (Layout.ghesSourceOffset_add_le_length hi)⟩
    · rintro ⟨ghes, hg, -, rfl, -⟩
      exact ⟨ghes, hg, rfl⟩
  · next hi =>
    constructor
    · intro h
      cases h
    · rintro ⟨ghes, -, hl, -⟩
      exact absurd hl hi

section

variable {σ : Type} [ReservedMemory σ] [SecureMonitor σ] [DataCache σ] [RasPolling σ]

theorem calls_formatted (operations : List Operation) (functions : Functions) (platform : σ) :
    Formatted (calls operations { functions } platform).2.1 :=
  @calls_induction σ _ _ _ _ (fun _ store => Formatted store)
    (fun _ _ _ _ _ _ h hs => h.step hs) operations [] { functions } platform ⟨nofun, nofun⟩

/-- On every platform and after any calls, the hardware error table is as formatted, and the boot
error table is but for its used slots, which are the first ones. A reader who follows the lengths in
a table finds its sources where the layout has them, and the end of the last source is the end of the
table. -/
theorem tables_keep_layout (operations : List Operation) (functions : Functions) (platform : σ) :
    let store := (calls operations { functions } platform).2.1
    (∀ ghes, store.ghes = some ghes →
      (∀ fresh : Region Layout.ghesPages, ghes.bytes = (formatGhes fresh).bytes) ∧
      LaidOut ghes.bytes ((List.range 8).map Layout.ghesSourceOffset)) ∧
    (∀ bert, store.bert = some bert →
      (∃ used ≤ 8, (∀ slot < 8, Store.slotIsFree bert slot = decide (used ≤ slot)) ∧
        ∀ (fresh : Region Layout.bertPages) offset, (∃ slot < used, InSlot slot offset) ∨
          bert.bytes[offset]? = (formatBert fresh).bytes[offset]?) ∧
      LaidOut bert.bytes [Layout.bertSourceOffset]) ∧
    (∀ index bytes, store.ghesSource? index = some bytes ↔ ∃ ghes, store.ghes = some ghes ∧
      index < 8 ∧ bytes = ghes.slice (Layout.ghesSourceOffset index) Layout.ghesSourceSize ∧
      bytes.length = Layout.ghesSourceSize) ∧
    ∀ index other, index < other →
      Layout.ghesSourceOffset index + Layout.ghesSourceSize ≤ Layout.ghesSourceOffset other ∧
      Layout.ghesBlockOffset index + Layout.ghesBlockSize ≤ Layout.ghesBlockOffset other := by
  intro store
  have h : Formatted store := calls_formatted operations functions platform
  refine ⟨fun ghes hg => ?_, fun bert hb => ?_, fun index bytes => Store.ghesSource?_eq_some_iff,
    fun index other hi =>
      ⟨Layout.ghesSourceOffset_add_le hi, Layout.ghesBlockOffset_add_le hi⟩⟩
  · have hf := h.ghes ghes hg
    refine ⟨hf, ?_⟩
    rw [hf ghes]
    exact laidOut_formatGhes ghes
  · obtain ⟨errors, ht⟩ := h.bert bert hb
    refine ⟨⟨errors.length, ht.length_le, fun slot hs => ?_, ht.rest⟩, ht.laidOut⟩
    exact ht.holds.slotIsFree hs

end

theorem tables_keep_layout_recorded :
    let store := (calls [.init, .record (trainingError 3)] {} plainBoard).2.1
    ∃ ghes bert, store.ghes = some ghes ∧ store.bert = some bert ∧
      LaidOut ghes.bytes [24, 4164, 8304, 12444, 16584, 20724, 24864, 29004] ∧
      LaidOut bert.bytes [24] := by
  intro store
  have hg : store.ghes.isSome := by decide +kernel
  have hb : store.bert.isSome := by decide +kernel
  obtain ⟨ghes, hg⟩ := Option.isSome_iff_exists.1 hg
  obtain ⟨bert, hb⟩ := Option.isSome_iff_exists.1 hb
  obtain ⟨hghes, hbert, -⟩ := tables_keep_layout [.init, .record (trainingError 3)] {} plainBoard
  exact ⟨ghes, bert, hg, hb, (hghes ghes hg).2, (hbert bert hb).2⟩

end PlatformFirmware.ErrorRecord
