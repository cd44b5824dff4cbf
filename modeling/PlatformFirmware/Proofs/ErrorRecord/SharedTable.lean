import PlatformFirmware.Proofs.ErrorRecord.TableLayout

namespace PlatformFirmware.ErrorRecord

def statusWord (region : Region Layout.bertPages) (slot : Nat) : UInt32 :=
  UInt32.ofNat (Bytes.ofLittleEndian (region.slice (Layout.slotOffset slot) 4))

theorem take_slice (memory : Bytes) (offset : Nat) {count length : Nat} (h : count ≤ length) :
    (Bytes.slice memory offset length).take count = Bytes.slice memory offset count := by
  rw [Bytes.slice, Bytes.slice, List.take_take, Nat.min_eq_left h]

/-- Every memory of the right length reads as a status. -/
theorem BlockStatus.ofBytes?_of_le {bytes : Bytes} (h : Layout.statusSize ≤ bytes.length) :
    ∃ status : BlockStatus, ofBytes? bytes = some status ∧
      status.blockStatus = UInt32.ofNat (Bytes.ofLittleEndian (bytes.take 4)) := by
  have hw (start : Nat) (hs : start + 4 ≤ Layout.statusSize) :
      Bytes.word32? (bytes.drop start) =
        some (UInt32.ofNat (Bytes.ofLittleEndian ((bytes.drop start).take 4)),
          bytes.drop (start + 4)) := by
    rw [Bytes.word32?_of_le (by rw [List.length_drop]; omega), List.drop_drop]
  have h0 := hw 0 (by decide)
  rw [List.drop_zero] at h0
  simp [ofBytes?, h0, hw 4 (by decide), hw 8 (by decide), hw 12 (by decide), hw 16 (by decide)]

section Search

variable {region : Region Layout.bertPages} {slot : Nat}

theorem slotIsFree_eq (hs : slot < Layout.bertSlots) :
    Store.slotIsFree region slot = decide (statusWord region slot = 0) := by
  have hf : Layout.slotOffset slot + Layout.slotSize ≤ Layout.bertPages * Efi.Page.bytes :=
    Nat.le_trans (Layout.slotOffset_add_le hs) Layout.bertSize_le
  have hz : Layout.slotSize = Layout.statusSize + 136 := rfl
  have hs : Layout.slotOffset slot + Layout.statusSize ≤ Layout.bertPages * Efi.Page.bytes := by
    omega
  obtain ⟨status, hb, hw⟩ :=
    BlockStatus.ofBytes?_of_le (Nat.le_of_eq (Region.length_slice region hs).symm)
  rw [Region.slice, take_slice _ _ (by decide)] at hw
  rw [Store.slotIsFree, hb, Option.any_some, hw]
  rfl

theorem freeSlot?_eq_some_iff : Store.freeSlot? region = some slot ↔
    slot < Layout.bertSlots ∧ statusWord region slot = 0 ∧
      ∀ earlier < slot, statusWord region earlier ≠ 0 := by
  rw [Store.freeSlot?, List.find?_range_eq_some, List.mem_range]
  constructor
  · rintro ⟨hf, hs, he⟩
    rw [slotIsFree_eq hs] at hf
    refine ⟨hs, of_decide_eq_true hf, fun earlier hl => ?_⟩
    have hn := he earlier hl
    rw [slotIsFree_eq (Nat.lt_trans hl hs)] at hn
    simpa using hn
  · rintro ⟨hs, hz, he⟩
    refine ⟨?_, hs, fun earlier hl => ?_⟩
    · rw [slotIsFree_eq hs]
      exact decide_eq_true hz
    · rw [slotIsFree_eq (Nat.lt_trans hl hs)]
      simpa using he earlier hl

theorem freeSlot?_eq_none_iff : Store.freeSlot? region = none ↔
    ∀ slot < Layout.bertSlots, statusWord region slot ≠ 0 := by
  rw [Store.freeSlot?, List.find?_eq_none]
  refine forall_congr' fun slot => ?_
  rw [List.mem_range]
  refine imp_congr_right fun hs => ?_
  rw [slotIsFree_eq hs, decide_eq_true_iff]

end Search

section Written

variable {slot : Nat} (region : Region Layout.bertPages) (error : BootError)

theorem slice_write_slot (hs : slot < Layout.bertSlots) :
    (region.write (Layout.slotOffset slot) error.slot).slice (Layout.slotOffset slot)
      Layout.slotSize = error.slot := by
  have hf : Layout.slotOffset slot + error.slot.length ≤ region.bytes.length := by
    rw [region.length_bytes, error.length_slot]
    exact Nat.le_trans (Layout.slotOffset_add_le hs) Layout.bertSize_le
  have hr := Bytes.slice_write region.bytes (Layout.slotOffset slot) error.slot hf
  rwa [error.length_slot] at hr

theorem statusWord_write_slot (hs : slot < Layout.bertSlots) :
    statusWord (region.write (Layout.slotOffset slot) error.slot) slot =
      BootError.blockStatus error.severity := by
  have hr : BlockStatus.ofBytes? error.slot = some error.status := by
    rw [BootError.slot, List.append_assoc, BlockStatus.ofBytes?_toBytes_append]
  have hl : Layout.statusSize ≤ error.slot.length :=
    Nat.le_trans (by decide) (Nat.le_of_eq error.length_slot.symm)
  obtain ⟨status, hb, hw⟩ := BlockStatus.ofBytes?_of_le hl
  obtain rfl : error.status = status := Option.some.inj (hr.symm.trans hb)
  rw [← slice_write_slot region error hs, Region.slice, take_slice _ _ (by decide)] at hw
  exact hw.symm

theorem getElem?_write_slot {offset : Nat} (ho : ¬ InSlot slot offset) :
    (region.write (Layout.slotOffset slot) error.slot).bytes[offset]? = region.bytes[offset]? := by
  rw [Region.write, Bytes.getElem?_write, error.length_slot, if_neg]
  exact fun hc => ho ⟨hc.1, hc.2.1⟩

end Written

variable {σ : Type} [DataCache σ]

theorem run_record_of_free {error : BootError} {store : Store} {bert : Region Layout.bertPages}
    {slot : Nat} (hb : store.bert = some bert) (hf : Store.freeSlot? bert = some slot)
    (platform : σ) :
    let address := bert.address + UInt64.ofNat (Layout.slotOffset slot)
    let written := DataCache.dirty address Layout.slotSize platform
    (StoreAction.record error).run (store, platform) =
      .ok () ({ store with bert := some (bert.write (Layout.slotOffset slot) error.slot) },
        if store.published then DataCache.clean address Layout.slotSize written else written) := by
  intro address written
  rw [StoreAction.record, run_store_bind, hb]
  by_cases hp : store.published
  · simp only [hf, StoreAction.write, error.length_slot, if_pos hp]
    rfl
  · simp only [hf, StoreAction.write, error.length_slot, if_neg hp]
    rfl

theorem run_record_of_full {error : BootError} {store : Store} {bert : Region Layout.bertPages}
    (hb : store.bert = some bert) (hf : Store.freeSlot? bert = none) (platform : σ) :
    (StoreAction.record error).run (store, platform) =
      .error .outOfResources (store, platform) := by
  rw [StoreAction.record, run_store_bind, hb]
  simp only [hf]
  rfl

/-- Recording an error, whatever anyone has written to the table: a slot is taken exactly if its
status word is zero and those before it are not. It holds the error and is the only thing changed.
Once the tables are published it is cleaned from the cache after that, and nothing else is. If no
status word is zero, nothing happens at all. -/
theorem record_takes_first_free (error : BootError) (store : Store)
    {bert : Region Layout.bertPages} (hb : store.bert = some bert) (traced : Traced σ) :
    let result := (StoreAction.record error).run (store, traced)
    (∀ slot < 8, statusWord bert slot = 0 → (∀ earlier < slot, statusWord bert earlier ≠ 0) →
      let start := 32 + slot * 156
      let address := bert.address + UInt64.ofNat start
      ∃ table : Region Layout.bertPages,
        result = .ok () ({ store with bert := some table },
          let written := DataCache.dirty address 156 traced.peer
          let events := traced.events.push (.dirty address 156)
          if store.published then
            ⟨DataCache.clean address 156 written, events.push (.clean address 156)⟩
          else ⟨written, events⟩) ∧
        table.address = bert.address ∧
        (∀ offset, ¬ (start ≤ offset ∧ offset < start + 156) →
          table.bytes[offset]? = bert.bytes[offset]?) ∧
        table.slice start 156 = error.slot ∧
        statusWord table slot ≠ 0) ∧
    ((∀ slot < 8, statusWord bert slot ≠ 0) →
      result = .error .outOfResources (store, traced)) := by
  intro result
  constructor
  · intro slot hs hz he start address
    have hf : Store.freeSlot? bert = some slot := freeSlot?_eq_some_iff.2 ⟨hs, hz, he⟩
    refine ⟨bert.write start error.slot, run_record_of_free hb hf traced, rfl,
      fun offset ho => getElem?_write_slot bert error ho, slice_write_slot bert error hs, ?_⟩
    have hw : statusWord (bert.write start error.slot) slot = _ :=
      statusWord_write_slot bert error hs
    rw [hw]
    exact BootError.blockStatus_ne_zero error.severity
  · intro hn
    exact run_record_of_full hb (freeSlot?_eq_none_iff.2 hn) traced

def scribbledTable : Region Layout.bertPages :=
  (Region.fill 0x80000000 Layout.bertPages 0xA5 |>.write (Layout.slotOffset 3) (Bytes.zero 4))
    |>.write (Layout.slotOffset 5) (Bytes.zero 100)

def scribbledStore : Store := { bert := some scribbledTable, published := true }

theorem record_takes_first_free_scribbled :
    scribbledStore.bert = some scribbledTable ∧
      ∃ table : Region Layout.bertPages,
        (StoreAction.record (trainingError 1)).run (scribbledStore, { peer := plainBoard }) =
          .ok () ({ scribbledStore with bert := some table },
            ({ peer := plainBoard
               events := #[.dirty 0x800001F4 156, .clean 0x800001F4 156] } : Traced _)) ∧
        table.slice 500 156 = (trainingError 1).slot ∧
        table.bytes[656]? = some 0xA5 := by
  have hz : statusWord scribbledTable 3 = 0 := by decide +kernel
  have he : ∀ earlier < 3, statusWord scribbledTable earlier ≠ 0 := by decide +kernel
  have hn : scribbledTable.bytes[656]? = some 0xA5 := by decide +kernel
  obtain ⟨table, hr, -, ho, hs, -⟩ := (record_takes_first_free (trainingError 1) scribbledStore rfl
    { peer := plainBoard }).1 3 (by decide) hz he
  exact ⟨rfl, table, hr, hs, (ho 656 (by decide)).trans hn⟩

end PlatformFirmware.ErrorRecord
