import PlatformFirmware.Proofs.ErrorRecord.Calls
import PlatformFirmware.Proofs.ErrorRecord.Parsing
import PlatformFirmware.Simulation.Board

namespace PlatformFirmware.ErrorRecord

theorem TableHeader.length_toBytes (header : TableHeader) :
    header.toBytes.length = Layout.headerSize := by
  simp [toBytes, Bytes.word32, Bytes.word64, Layout.headerSize]

theorem SourceHeader.length_toBytes (header : SourceHeader) :
    header.toBytes.length = Layout.sourceHeaderSize := by
  simp [toBytes, Bytes.word32, Layout.sourceHeaderSize]

theorem Layout.slotOffset_eq (slot : Nat) : slotOffset slot = 32 + slot * 156 := rfl

theorem Layout.slotOffset_add_le {slot : Nat} (h : slot < bertSlots) :
    slotOffset slot + slotSize ≤ bertSize := by
  have h8 : slot < 8 := h
  have ho := slotOffset_eq slot
  have hz : slotSize = 156 := rfl
  have hb : bertSize = 1280 := rfl
  omega

theorem slice_front (memory : Bytes) {size offset length : Nat} (h : offset + length ≤ size) :
    Bytes.slice (Bytes.slice memory 0 size) offset length = Bytes.slice memory offset length := by
  rw [Bytes.slice, Bytes.slice, Bytes.slice, List.drop_zero, List.drop_take, List.take_take,
    Nat.min_eq_left (by omega)]

def slotBytes : Option BootError → Bytes
  | some error => error.slot
  | none => Bytes.zero Layout.slotSize

def Holds (region : Region Layout.bertPages) (errors : List BootError) : Prop :=
  ∀ slot < Layout.bertSlots,
    region.slice (Layout.slotOffset slot) Layout.slotSize = slotBytes errors[slot]?

section Holds

variable {region : Region Layout.bertPages} {errors : List BootError}

theorem holds_formatBert (region : Region Layout.bertPages) : Holds (formatBert region) [] := by
  intro slot hs
  have ho := Layout.slotOffset_eq slot
  have hl := Nat.le_trans (Layout.slotOffset_add_le hs) Layout.bertSize_le
  have hf : (Region.fill region.address Layout.bertPages 0).slice (Layout.slotOffset slot)
      Layout.slotSize = Bytes.zero Layout.slotSize := by
    simp only [Region.slice, Region.fill, Bytes.slice, Bytes.zero, List.drop_replicate,
      List.take_replicate, Nat.min_eq_left (Nat.le_sub_of_add_le' hl)]
  rw [List.getElem?_nil, slotBytes, ← hf]
  -- both headers end where the first slot begins
  refine (Bytes.slice_write_of_disjoint _ _ _ _ _ (.inr ?_)).trans
    (Bytes.slice_write_of_disjoint _ _ _ _ _ (.inr ?_))
  · rw [SourceHeader.length_toBytes, ho]
    exact Nat.le_add_right 32 _
  · rw [TableHeader.length_toBytes, ho]
    exact Nat.le_trans (by decide) (Nat.le_add_right 32 _)

theorem Holds.slotIsFree (h : Holds region errors) {slot : Nat} (hs : slot < Layout.bertSlots) :
    Store.slotIsFree region slot = decide (errors.length ≤ slot) := by
  have hb : region.slice (Layout.slotOffset slot) Layout.statusSize =
      (slotBytes errors[slot]?).take Layout.statusSize := by
    rw [← h slot hs, Region.slice, Region.slice, Bytes.slice, Bytes.slice, List.take_take]
    rfl
  rw [Store.slotIsFree, hb]
  by_cases hl : errors.length ≤ slot
  · rw [List.getElem?_eq_none hl, decide_eq_true hl]
    rfl
  · rw [List.getElem?_eq_getElem (by omega), decide_eq_false hl, slotBytes, BootError.slot,
      List.append_assoc, ← (errors[slot]).status.length_toBytes, List.take_left]
    have hr := (errors[slot]).status.ofBytes?_toBytes_append []
    rw [List.append_nil] at hr
    rw [hr]
    exact decide_eq_false (BootError.blockStatus_ne_zero (errors[slot]).severity)

theorem Holds.freeSlot? (h : Holds region errors) :
    Store.freeSlot? region =
      if errors.length < Layout.bertSlots then some errors.length else none := by
  rw [Store.freeSlot?]
  split
  · next hl =>
    refine List.find?_range_eq_some.2 ⟨?_, List.mem_range.2 hl, fun slot hs => ?_⟩
    · rw [h.slotIsFree hl, decide_eq_true (Nat.le_refl _)]
    · rw [h.slotIsFree (by omega), decide_eq_false (by omega)]
      rfl
  · next hl =>
    refine List.find?_eq_none.2 fun slot hs => ?_
    have hs := List.mem_range.1 hs
    rw [h.slotIsFree hs, decide_eq_false (by omega)]
    exact Bool.false_ne_true

theorem Holds.record (h : Holds region errors) (error : BootError) :
    Holds (region.write (Layout.slotOffset errors.length) error.slot) (errors ++ [error]) := by
  intro slot hs
  have hn := Layout.slotOffset_eq errors.length
  have ho := Layout.slotOffset_eq slot
  have hz : Layout.slotSize = 156 := rfl
  have he := error.length_slot
  by_cases hi : slot = errors.length
  · subst hi
    have hf : Layout.slotOffset errors.length + error.slot.length ≤ region.bytes.length := by
      rw [region.length_bytes]
      exact he ▸ Nat.le_trans (Layout.slotOffset_add_le hs) Layout.bertSize_le
    have hr := Bytes.slice_write region.bytes (Layout.slotOffset errors.length) error.slot hf
    have hg : (errors ++ [error])[errors.length]? = some error := List.getElem?_concat_length
    rw [he] at hr
    rw [hg]
    exact hr
  · have hd : Layout.slotOffset slot + Layout.slotSize ≤ Layout.slotOffset errors.length ∨
        Layout.slotOffset errors.length + error.slot.length ≤ Layout.slotOffset slot := by
      omega
    have hg : (errors ++ [error])[slot]? = errors[slot]? := by
      rcases Nat.lt_or_gt_of_ne hi with hi | hi
      · exact List.getElem?_append_left hi
      · rw [List.getElem?_eq_none (by simp; omega), List.getElem?_eq_none (by omega)]
    rw [hg, ← h slot hs]
    exact Bytes.slice_write_of_disjoint _ _ _ _ _ hd

theorem Holds.append_of_full (h : Holds region errors) (error : BootError)
    (hl : Layout.bertSlots ≤ errors.length) : Holds region (errors ++ [error]) := by
  intro slot hs
  rw [List.getElem?_append_left (by omega)]
  exact h slot hs

end Holds

structure Logged (store : Store) (errors : List BootError) : Prop where
  ghes : store.ghes.isSome
  bert : ∃ bert, store.bert = some bert ∧ Holds bert errors

def recorded? : Operation → Option BootError
  | .record error => some error
  | _ => none

def recordAnswer (earlier : Nat) : Except Efi.Error Unit :=
  if earlier < Layout.bertSlots then .ok () else .error .outOfResources

def recordOutcome? (call : Call) : Option (Except Efi.Error Unit) :=
  (recorded? call.operation).map fun _ => call.outcome

section Steps

variable {store after : Store} {errors : List BootError} {events : List Event}
  {r : Except Efi.Error Unit}

theorem InitStep.logged (h : InitStep store events (.ok ()) after) (hn : ¬ store.isInitialized) :
    Logged after [] := by
  cases h with
  | initialized hi => exact absurd hi hn
  | done ghes bert => exact ⟨rfl, _, rfl, holds_formatBert bert⟩

theorem Logged.isInitialized (h : Logged store errors) : store.isInitialized := by
  obtain ⟨hg, bert, hb, -⟩ := h
  simp [Store.isInitialized, hg, hb]

theorem Logged.init (h : Logged store errors) (hs : InitStep store events r after) :
    after = store := by
  cases hs with
  | initialized => rfl
  | notFreed hn | noGhes _ hn | noBert _ _ _ hn | done _ _ hn => exact absurd h.isInitialized hn

theorem Logged.enable {on : Bool} {detector : Detector} (h : Logged store errors)
    (hs : EnableStep on detector store events r after) : Logged after errors := by
  cases hs with
  | notPublished _ hp | published _ hp _ => cases hp <;> exact ⟨h.ghes, h.bert⟩
  | off => exact h

theorem Logged.record {error : BootError} (h : Logged store errors)
    (hs : RecordStep error store events r after) :
    Logged after (errors ++ [error]) ∧ r = recordAnswer errors.length ∧
      (Layout.bertSlots ≤ errors.length → after = store) := by
  obtain ⟨hg, bert, hb, hh⟩ := h
  have hf := hh.freeSlot?
  cases hs with
  | notReady hn => cases hb.symm.trans hn
  | full old ho hn =>
    obtain rfl : bert = old := Option.some.inj (hb.symm.trans ho)
    have hl : ¬ errors.length < Layout.bertSlots := fun hl => by
      rw [hn, if_pos hl] at hf
      cases hf
    exact ⟨⟨hg, bert, hb, hh.append_of_full error (Nat.le_of_not_lt hl)⟩, (if_neg hl).symm,
      fun _ => rfl⟩
  | written old slot ho hs =>
    obtain rfl : bert = old := Option.some.inj (hb.symm.trans ho)
    have hl : errors.length < Layout.bertSlots := by
      by_contra hl
      rw [hs, if_neg hl] at hf
      cases hf
    rw [hs, if_pos hl] at hf
    obtain rfl : slot = errors.length := Option.some.inj hf
    exact ⟨⟨hg, _, rfl, hh.record error⟩, (if_pos hl).symm, fun hn => absurd hl (by omega)⟩

end Steps

def errorsOf (made : List Call) : List BootError := made.filterMap fun call => recorded? call.operation

def Recorded (made : List Call) (store : Store) : Prop :=
  .free ∉ made.map Call.operation →
    Logged store (errorsOf made) ∧
      made.filterMap recordOutcome? = (List.range (errorsOf made).length).map recordAnswer

theorem errorsOf_append (made : List Call) (last : Call) :
    errorsOf (made ++ [last]) = errorsOf made ++ (recorded? last.operation).toList := by
  rw [errorsOf, List.filterMap_append]
  cases h : recorded? last.operation <;> simp [errorsOf, h]

theorem recordOutcomes_append (made : List Call) (last : Call) :
    (made ++ [last]).filterMap recordOutcome? =
      made.filterMap recordOutcome? ++ (recordOutcome? last).toList := by
  rw [List.filterMap_append]
  cases h : recordOutcome? last <;> simp [h]

theorem Recorded.step {made : List Call} {store after : Store} {operation : Operation}
    {events : List Event} {r : Except Efi.Error Unit} (h : Recorded made store)
    (hs : operation.Step store events r after) :
    Recorded (made ++ [⟨operation, events, r⟩]) after := by
  intro hf
  have hn : .free ∉ made.map Call.operation ∧ operation ≠ .free := by
    simpa [eq_comm] using hf
  obtain ⟨hl, ho⟩ := h hn.1
  rw [errorsOf_append, recordOutcomes_append, ho]
  cases operation with
  | init =>
    obtain rfl := hl.init hs
    simpa [recorded?, recordOutcome?] using hl
  | free => exact absurd rfl hn.2
  | enable on detector => simpa [recorded?, recordOutcome?] using hl.enable hs
  | record error =>
    obtain ⟨hl, rfl, -⟩ := hl.record hs
    refine ⟨hl, ?_⟩
    simp [recorded?, recordOutcome?, List.range_succ]

section

variable {σ : Type} [ReservedMemory σ] [SecureMonitor σ] [DataCache σ] [RasPolling σ]

theorem calls_operations (operations : List Operation) (store : Store) (platform : σ) :
    (calls operations store platform).1.map Call.operation = operations := by
  induction operations generalizing store platform with
  | nil => rfl
  | cons operation operations ih => exact congrArg (operation :: ·) (ih _ _)

theorem calls_logged (operations : List Operation) (store : Store) (platform : σ)
    (h : Logged store []) (hf : .free ∉ operations) :
    Logged (calls operations store platform).2.1 (operations.filterMap recorded?) ∧
      (calls operations store platform).1.filterMap recordOutcome? =
        (List.range (operations.filterMap recorded?).length).map recordAnswer := by
  have hi : Recorded (calls operations store platform).1 (calls operations store platform).2.1 :=
    calls_induction (fun _ _ _ _ _ _ h hs => h.step hs) operations [] store platform
      fun _ => ⟨h, rfl⟩
  have he : errorsOf (calls operations store platform).1 = operations.filterMap recorded? := by
    conv => rhs; rw [← calls_operations operations store platform, List.filterMap_map]
    rfl
  rw [Recorded, calls_operations, he] at hi
  exact hi hf

/-- On every platform, after an initialization that succeeds and as long as nothing is freed: the first
eight records succeed and no later one, the slots read back as the errors recorded, in their order, or
are zero if never reached, and a record that finds the table full changes nothing. -/
theorem boot_errors_logged (store : Store) (platform : σ) (operations : List Operation)
    (hn : ¬ store.isInitialized) (hi : (call .init store platform).1.outcome = .ok ())
    (hf : .free ∉ operations) :
    let started := (call .init store platform).2
    let run := calls operations started.1 started.2
    let errors := operations.filterMap recorded?
    run.1.filterMap recordOutcome? =
      (List.range errors.length).map (fun k => if k < 8 then .ok () else .error .outOfResources) ∧
    (∃ table, run.2.1.bertTable? = some table ∧ ∀ slot < Layout.bertSlots,
      let bytes := Bytes.slice table (Layout.slotOffset slot) Layout.slotSize
      match errors[slot]? with
      | some error => parseSlot? bytes = some error.parsed
      | none => bytes = List.replicate 156 0) ∧
    ∀ error, 8 ≤ errors.length →
      (call (.record error) run.2.1 run.2.2).1.outcome = .error .outOfResources ∧
        (call (.record error) run.2.1 run.2.2).2.1 = run.2.1 := by
  intro started run errors
  have hs : InitStep store _ _ _ := call_step .init store platform
  rw [hi] at hs
  obtain ⟨hl, ho⟩ := calls_logged operations started.1 started.2 (hs.logged hn) hf
  refine ⟨ho, ?_, fun error he => ?_⟩
  · obtain ⟨-, bert, hb, hh⟩ := hl
    refine ⟨bert.slice 0 Layout.bertSize, by rw [Store.bertTable?, hb]; rfl, fun slot hslot => ?_⟩
    have hr : Bytes.slice (bert.slice 0 Layout.bertSize) (Layout.slotOffset slot) Layout.slotSize =
        slotBytes errors[slot]? := by
      rw [Region.slice, slice_front bert.bytes (Layout.slotOffset_add_le hslot)]
      exact hh slot hslot
    intro bytes
    cases he : errors[slot]? with
    | none => exact hr.trans (by rw [he]; rfl)
    | some error =>
      rw [he] at hr
      exact (congrArg parseSlot? hr).trans error.parseSlot?_slot
  · have hr : RecordStep error run.2.1 _ _ _ := call_step (.record error) run.2.1 run.2.2
    obtain ⟨-, hr, hk⟩ := hl.record hr
    exact ⟨hr.trans (if_neg (Nat.not_lt.2 he)), hk he⟩

end

def plainBoard : Simulation.Board where
  station := ⟨.vacant {}, ⟨{}, #[]⟩⟩

def trainingError (number : Nat) : BootError :=
  ⟨0x0A, 0x01, UInt16.ofNat number, .corrected, List.replicate (10 * number) 0x4D⟩

def overfull : List Operation :=
  (List.range 9).flatMap fun number => [.init, .record (trainingError number), .enable true .atf]

theorem boot_errors_logged_overfull :
    (call .init {} plainBoard).1.outcome = .ok () ∧
      let started := (call .init {} plainBoard).2
      let run := calls overfull started.1 started.2
      run.1.filterMap recordOutcome? = List.replicate 8 (.ok ()) ++ [.error .outOfResources] ∧
      ∃ table, run.2.1.bertTable? = some table ∧
        parseSlot? (Bytes.slice table (Layout.slotOffset 7) Layout.slotSize) =
          some (trainingError 7).parsed := by
  have hi : (call .init {} plainBoard).1.outcome = .ok () := by decide +kernel
  obtain ⟨ho, ⟨table, ht, hs⟩, -⟩ :=
    boot_errors_logged {} plainBoard overfull (by decide) hi (by decide)
  exact ⟨hi, ho, table, ht, hs 7 (by decide)⟩

end PlatformFirmware.ErrorRecord
