import PlatformFirmware.Proofs.ErrorRecord.Announcement
import PlatformFirmware.Proofs.ErrorRecord.Flushing

namespace PlatformFirmware.ErrorRecord

/-- The tables proper, without the rest of their last pages. -/
def Store.tableSpans (store : Store) : List Span :=
  (store.ghes.map fun region => ⟨region.address, Layout.ghesSize⟩).toList ++
    (store.bert.map fun region => ⟨region.address, Layout.bertSize⟩).toList

structure Disclosed (events : List Event) (store : Store) : Prop where
  accepted : store.published →
    ∃ bert, store.bert = some bert ∧ lastAccepted store.functions .bert events = some bert.address
  flushed : store.published →
    ∀ span ∈ store.tableSpans, ∀ address, span.Covers address → Flushed address events

namespace Disclosed

variable {store after : Store} {events later : List Event} {r : Except Efi.Error Unit}

theorem of_unpublished (h : store.published = false) : Disclosed events store := by
  constructor <;> simp [h]

/-- What a call leaves published it found published, if it neither writes nor publishes. -/
theorem keep (h : Disclosed events store) (hf : after.functions = store.functions)
    (hs : after.published → store.published ∧ after.bert = store.bert ∧
      ∀ span ∈ after.tableSpans, span ∈ store.tableSpans)
    (ha : later.filterMap (accepted? store.functions .bert) = []) (hw : Unwritten later) :
    Disclosed (events ++ later) after := by
  constructor
  · intro hp
    obtain ⟨hp, hb, -⟩ := hs hp
    obtain ⟨bert, hbert, hl⟩ := h.accepted hp
    refine ⟨bert, hb.trans hbert, ?_⟩
    rw [hf, lastAccepted, List.filterMap_append, ha, List.append_nil]
    exact hl
  · intro hp span hm address hc
    obtain ⟨hp, -, ht⟩ := hs hp
    exact (h.flushed hp span (ht span hm) address hc).append (hw.flushed address)

theorem free (h : Disclosed events store) (hs : FreeStep store later r after) :
    Disclosed (events ++ later) after := by
  have hf : Operation.Step .free store later r after := hs
  refine h.keep hf.functions_eq ?_ (hs.silent.accepted? _) hs.unwritten
  intro hp
  cases hs with
  | ghesRefused => exact ⟨hp, rfl, fun _ hm => hm⟩
  | bertRefused => exact ⟨hp, rfl, fun _ hm => List.mem_append_right _ hm⟩
  | done => cases hp

theorem init (h : Disclosed events store) (hs : InitStep store later r after) :
    Disclosed (events ++ later) after := by
  have hn {later : List Event} {middle : Store} (hf : FreeStep store later (.ok ()) middle) :
      middle.published = false := by
    cases hf
    rfl
  cases hs with
  | initialized => rwa [List.append_nil]
  | notFreed _ hf => exact h.free hf
  -- fresh regions are written and not published
  | noGhes _ _ hf | noBert _ _ _ _ hf | done _ _ _ hf =>
    have hp := hn hf
    exact of_unpublished hp

theorem publish (h : PublishStep store later (.ok ()) after) {detected : List Event}
    (hd : detected.filterMap (accepted? store.functions .bert) = []) (hw : Unwritten detected) :
    Disclosed (events ++ (later ++ detected)) after := by
  have hl : Unwritten (later ++ detected) := h.unwritten.append hw
  obtain ⟨ghes, bert, hg, hb, rfl, ha, hcg, hcb⟩ := h.of_ok
  constructor
  · intro _
    refine ⟨bert, hb, ?_⟩
    simp [lastAccepted, ha, hd]
  · intro _ span hm address hv
    have hm : span = ⟨ghes.address, Layout.ghesSize⟩ ∨ span = ⟨bert.address, Layout.bertSize⟩ := by
      simpa [Store.tableSpans, hg, hb] using hm
    have hf : Flushed address (later ++ detected) := hl.flushed address
    rcases hm with rfl | rfl
    · exact flushed_append_of_clean hf (List.mem_append_left _ hcg) hv
    · exact flushed_append_of_clean hf (List.mem_append_left _ hcb) hv

theorem enable {on : Bool} {detector : Detector} (h : Disclosed events store)
    (hs : EnableStep on detector store later r after) : Disclosed (events ++ later) after := by
  cases hs with
  | notPublished _ hp =>
    obtain ⟨rfl, ha⟩ := hp.of_error
    exact h.keep rfl (fun hp => ⟨hp, rfl, fun _ hm => hm⟩) ha hp.unwritten
  | published _ hp hd => exact publish hp (accepted?_detect hd _) hd.unwritten
  | off _ hd =>
    exact h.keep rfl (fun hp => ⟨hp, rfl, fun _ hm => hm⟩) (accepted?_detect hd _) hd.unwritten

theorem record {error : BootError} (h : Disclosed events store)
    (hs : RecordStep error store later r after) : Disclosed (events ++ later) after := by
  have ha : later.filterMap (accepted? store.functions .bert) = [] :=
    (RecordStep.silent hs).accepted? _
  cases hs with
  | notReady | full => rwa [List.append_nil]
  | written bert slot hb =>
    constructor
    · intro hp
      obtain ⟨old, ho, hl⟩ := h.accepted hp
      obtain rfl : bert = old := Option.some.inj (hb.symm.trans ho)
      refine ⟨_, rfl, ?_⟩
      rw [lastAccepted, List.filterMap_append, ha, List.append_nil]
      exact hl
    · intro hp span hm address hc
      have hp : store.published = true := hp
      have hm : span ∈ store.tableSpans := by
        simpa [Store.tableSpans, hb] using hm
      rw [if_pos hp]
      exact (h.flushed hp span hm address hc).append (flushed_dirty_clean address _ _)

theorem step {operation : Operation} (h : Disclosed events store)
    (hs : operation.Step store later r after) : Disclosed (events ++ later) after := by
  cases operation with
  | init => exact h.init hs
  | free => exact h.free hs
  | enable on detector => exact h.enable hs
  | record error => exact h.record hs

end Disclosed

variable {σ : Type} [ReservedMemory σ] [SecureMonitor σ] [DataCache σ] [RasPolling σ]

/-- On every platform and after any calls: published tables belong to the store, the monitor has last
taken the boot error table at its address, and each byte written to the tables has been cleaned
since. All calls that hand out an address come right after the cleaning of that table. The writes
meant are all there are: no call changes another byte. -/
theorem published_tables_flushed (operations : List Operation) (functions : Functions)
    (platform : σ) :
    let run := calls operations { functions } platform
    let store := run.2.1
    (store.published → ∃ bert, store.bert = some bert ∧
      lastAccepted functions .bert (trace run.1) = some bert.address ∧
      ∀ span ∈ store.tableSpans, ∀ address, span.Covers address →
        Flushed address (trace run.1)) ∧
    Announced functions (trace run.1) ∧
    ∀ operation : Operation,
      let next := call operation store run.2.2
      let dirtied := next.1.events.filterMap dirtied?
      Kept dirtied store.ghes next.2.1.ghes ∧ Kept dirtied store.bert next.2.1.bert := by
  intro run store
  obtain ⟨hf, ha, hd⟩ := @calls_induction σ _ _ _ _
    (fun made store => store.functions = functions ∧ Announced functions (trace made) ∧
      Disclosed (trace made) store)
    (fun made store operation events r after ⟨hf, ha, hd⟩ hs => by
      rw [trace_append_singleton]
      exact ⟨hs.functions_eq.trans hf, ha.append (hf ▸ hs.announced), hd.step hs⟩)
    operations [] { functions } platform
    ⟨rfl, Silent.announced (by simp [Silent, trace]), Disclosed.of_unpublished rfl⟩
  refine ⟨fun hp => ?_, ha, fun operation => (call_step operation store run.2.2).kept⟩
  obtain ⟨bert, hb, hl⟩ := hd.accepted hp
  exact ⟨bert, hb, hf ▸ hl, hd.flushed hp⟩

def reluctantBoard : Simulation.Board where
  heap := { refusals := 1 }
  station := ⟨.vacant {}, ⟨{}, #[]⟩⟩

def publishAndRecord : List Operation :=
  [.init, .enable true .atf, .free, .record ⟨1, 2, 3, .fatal, [0x44]⟩]

theorem published_tables_flushed_reluctant :
    (calls publishAndRecord {} reluctantBoard).2.1.published = true ∧
      ∃ bert, (calls publishAndRecord {} reluctantBoard).2.1.bert = some bert ∧
        lastAccepted {} .bert (trace (calls publishAndRecord {} reluctantBoard).1) =
          some bert.address ∧
        ∀ span ∈ (calls publishAndRecord {} reluctantBoard).2.1.tableSpans, ∀ address,
          span.Covers address →
            Flushed address (trace (calls publishAndRecord {} reluctantBoard).1) := by
  have hp : (calls publishAndRecord {} reluctantBoard).2.1.published = true := by decide +kernel
  exact ⟨hp, (published_tables_flushed publishAndRecord {} reluctantBoard).1 hp⟩

/-- The tables end before their last pages do, and the rest of the pages stays in the cache. -/
theorem page_rest_not_flushed :
    let run := calls [.init, .enable true .atf] {} reluctantBoard
    run.2.1.published = true ∧
      ∃ bert, run.2.1.bert = some bert ∧
        Layout.bertSize < bert.length ∧
        .dirty bert.address bert.length ∈ trace run.1 ∧
        (regionSpan bert).Covers (bert.address + UInt64.ofNat Layout.bertSize) ∧
        ¬ Flushed (bert.address + UInt64.ofNat Layout.bertSize) (trace run.1) := by
  intro run
  have ha : run.2.1.bert.map (·.address) = some 0x8000A000 := by decide +kernel
  obtain ⟨bert, hb, he⟩ := Option.map_eq_some_iff.1 ha
  have hl : bert.length = 4096 := bert.length_bytes
  have hw : .dirty 0x8000A000 4096 ∈ trace run.1 := by decide +kernel
  have hn : (trace run.1).all (fun
      | .clean first length => ¬ Span.Covers ⟨first, length⟩ 0x8000A500
      | _ => true) := by decide +kernel
  refine ⟨by decide +kernel, bert, hb, ?_, ?_, ?_, ?_⟩
  · rw [hl]
    decide
  · rwa [hl, he]
  · rw [regionSpan, he]
    decide
  · rw [he]
    intro hf
    obtain ⟨front, back, ht⟩ := List.append_of_mem hw
    obtain ⟨cleaned, size, hm, hv⟩ := hf front 0x8000A000 4096 back ht (by decide)
    have hm : .clean cleaned size ∈ trace run.1 := by simp [ht, hm]
    exact of_decide_eq_true (List.all_eq_true.1 hn _ hm) hv

end PlatformFirmware.ErrorRecord
