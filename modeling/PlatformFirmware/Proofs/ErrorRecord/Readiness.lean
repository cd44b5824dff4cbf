import PlatformFirmware.Proofs.ErrorRecord.Conservation
import PlatformFirmware.Proofs.ErrorRecord.Enabling
import PlatformFirmware.Proofs.ErrorRecord.Release

namespace PlatformFirmware.ErrorRecord

def Store.isHalfFreed (store : Store) : Bool := store.ghes.isNone && store.bert.isSome

def Halves (events : List Event) : Prop :=
  ∃ address refused e, events =
    [.release address Layout.ghesPages none, .release refused Layout.bertPages (some e)]

/-- Since some call that stopped halfway nothing was taken back. -/
def HalfFreed (made : List Call) : Prop :=
  ∃ front call back, made = front ++ call :: back ∧ Halves call.events ∧ takenBack (trace back) = 0

theorem halfFreed_append_singleton (made : List Call) (last : Call) :
    HalfFreed (made ++ [last]) ↔
      Halves last.events ∨ HalfFreed made ∧ takenBack last.events = 0 := by
  constructor
  · rintro ⟨front, call, back, hm, hh, ht⟩
    rcases List.eq_nil_or_concat back with rfl | ⟨middle, latest, rfl⟩
    · obtain ⟨-, hl⟩ := List.append_inj' hm rfl
      obtain rfl : last = call := List.singleton_inj.1 hl
      exact .inl hh
    · rw [List.concat_eq_append, ← List.cons_append, ← List.append_assoc] at hm
      obtain ⟨rfl, hl⟩ := List.append_inj' hm rfl
      obtain rfl : last = latest := List.singleton_inj.1 hl
      have ht : takenBack (trace middle) + takenBack last.events = 0 := by
        rw [← ht, ← takenBack_append]
        simp [trace]
      exact .inr ⟨⟨front, call, middle, rfl, hh, by omega⟩, by omega⟩
  · rintro (hh | ⟨⟨front, call, back, rfl, hh, hb⟩, ht⟩)
    · exact ⟨made, last, [], rfl, hh, rfl⟩
    · refine ⟨front, call, back ++ [last], by simp, hh, ?_⟩
      rw [trace_append_singleton, takenBack_append, hb, ht]

structure Paired (store : Store) (events : List Event) (after : Store) : Prop where
  bert : (store.ghes.isSome → store.bert.isSome) → after.ghes.isSome → after.bert.isSome
  half : after.isHalfFreed ↔ Halves events ∨ store.isHalfFreed ∧ takenBack events = 0

section Steps

variable {store after : Store} {events : List Event} {r : Except Efi.Error Unit}

theorem not_halves {event : Event} (hm : event ∈ events)
    (hn : ∀ address pages failure, event ≠ .release address pages failure) : ¬ Halves events := by
  rintro ⟨address, refused, e, rfl⟩
  rcases List.mem_cons.1 hm with he | hm
  · exact hn _ _ _ he
  · exact hn _ _ _ (List.mem_singleton.1 hm)

theorem paired_of_quiet (hq : ∀ event ∈ events, concernsMemory event = false)
    (hg : after.ghes = store.ghes) (hb : after.bert.isSome = store.bert.isSome) :
    Paired store events after := by
  have hn : ¬ Halves events := by
    rintro ⟨address, refused, e, rfl⟩
    exact Bool.noConfusion (hq (.release address _ none) (.head _))
  constructor
  · rw [hg, hb]
    exact id
  · simp [Store.isHalfFreed, hg, hb, hn, (balance_of_quiet hq).2.1]

theorem FreeStep.paired (h : FreeStep store events r after) : Paired store events after := by
  cases h with
  | ghesRefused ghes e hg =>
    refine ⟨id, ?_⟩
    simp [Store.isHalfFreed, hg, Halves]
  | bertRefused bert e hb =>
    refine ⟨fun _ h => absurd h Bool.false_ne_true, ?_⟩
    cases hg : store.ghes <;> simp [Store.isHalfFreed, hg, hb, released, Halves, takenBack]
  | done =>
    refine ⟨fun _ h => absurd h Bool.false_ne_true, ?_⟩
    cases hg : store.ghes <;> cases hb : store.bert <;>
      simp [Store.isHalfFreed, hg, hb, released, Halves, takenBack]

/-- Once all is freed, what is asked for next leaves nothing halfway. -/
theorem FreeStep.paired_append (h : FreeStep store events (.ok ()) after) {later : List Event}
    {last : Store} (hp : last.ghes.isSome = last.bert.isSome) {event : Event}
    (hm : event ∈ later) (hn : ∀ address pages failure, event ≠ .release address pages failure) :
    Paired store (events ++ later) last := by
  have ha : after.isHalfFreed = false := by
    cases h
    rfl
  have hl : last.isHalfFreed = false := by
    rw [Store.isHalfFreed, ← hp]
    cases last.ghes <;> rfl
  refine ⟨fun _ => hp ▸ id, ?_⟩
  rw [hl, takenBack_append]
  constructor
  · nofun
  · rintro (hh | ⟨hs, ht⟩)
    · exact absurd hh (not_halves (List.mem_append_right _ hm) hn)
    · have hf := h.paired.half.2 (.inr ⟨hs, by omega⟩)
      rw [ha] at hf
      cases hf

theorem InitStep.paired (h : InitStep store events r after) : Paired store events after := by
  cases h with
  | initialized => exact paired_of_quiet nofun rfl rfl
  | notFreed _ hf => exact hf.paired
  | noGhes _ _ hf | noBert _ _ _ _ hf =>
    have hp : after.ghes.isSome = after.bert.isSome := by
      cases hf
      rfl
    exact hf.paired_append hp (.head _) nofun
  | done _ _ _ hf => exact hf.paired_append rfl (.head _) nofun

theorem Operation.Step.paired {operation : Operation} (h : operation.Step store events r after) :
    Paired store events after := by
  cases operation with
  | init => exact InitStep.paired h
  | free => exact FreeStep.paired h
  | enable on detector =>
    have he := (EnableStep.after_eq h).1
    exact paired_of_quiet (EnableStep.quiet h).1 (he ▸ rfl) (he ▸ rfl)
  | record error =>
    refine paired_of_quiet (RecordStep.quiet h).1 ?_ ?_
    · cases h <;> rfl
    · cases h with
      | notReady | full => rfl
      | written bert slot hb => rw [hb]; rfl

structure Standing (made : List Call) (store : Store) : Prop where
  bert : store.ghes.isSome → store.bert.isSome
  half : store.isHalfFreed ↔ HalfFreed made

namespace Standing

variable {made : List Call}

theorem start (functions : Functions) : Standing [] { functions } := by
  refine ⟨nofun, nofun, ?_⟩
  rintro ⟨front, call, back, hm, -⟩
  simp at hm

theorem step {operation : Operation} (h : Standing made store)
    (hs : operation.Step store events r after) :
    Standing (made ++ [⟨operation, events, r⟩]) after := by
  refine ⟨hs.paired.bert h.bert, ?_⟩
  rw [halfFreed_append_singleton, hs.paired.half, h.half]

theorem isInitialized_iff (h : Standing made store) : store.isInitialized ↔ store.ghes.isSome := by
  rw [Store.isInitialized, Bool.and_eq_true]
  exact ⟨And.left, fun hg => ⟨hg, h.bert hg⟩⟩

theorem bert_iff (h : Standing made store) :
    store.bert.isSome ↔ store.isInitialized ∨ HalfFreed made := by
  rw [← h.half, Store.isInitialized, Store.isHalfFreed]
  cases store.ghes <;> simp

theorem not_both (h : Standing made store) : ¬ (store.isInitialized ∧ HalfFreed made) := by
  rw [← h.half, Store.isInitialized, Store.isHalfFreed]
  cases store.ghes <;> simp

end Standing

theorem RecordStep.outcome_of_none {error : BootError} (h : RecordStep error store events r after)
    (hb : store.bert = none) : r = .error .notReady ∧ after = store := by
  cases h with
  | notReady => exact ⟨rfl, rfl⟩
  | full bert hn | written bert _ hn => cases hb.symm.trans hn

theorem RecordStep.outcome_of_some {error : BootError} (h : RecordStep error store events r after)
    {bert : Region Layout.bertPages} (hb : store.bert = some bert) :
    r = if (Store.freeSlot? bert).isSome then .ok () else .error .outOfResources := by
  cases h with
  | notReady hn => cases hb.symm.trans hn
  | full old ho hs =>
    obtain rfl : bert = old := Option.some.inj (hb.symm.trans ho)
    rw [hs]
    rfl
  | written old slot ho hs =>
    obtain rfl : bert = old := Option.some.inj (hb.symm.trans ho)
    rw [hs]
    rfl

end Steps

section

variable {σ : Type} [ReservedMemory σ] [SecureMonitor σ] [DataCache σ] [RasPolling σ]

/-- What is served after any calls on any platform. Hardware error sources are read from an
initialized store only. The boot error table is also read and written after a release that took the
first region back and not the second, until the second is taken back as well. What was recorded
stays in an initialized store when it is initialized again, and is gone after an initialization that
had to release the rest. -/
theorem served_iff_initialized_or_half_freed (operations : List Operation) (functions : Functions)
    (platform : σ) :
    let run := calls operations { functions } platform
    let store := run.2.1
    (∀ index, (store.ghesSource? index).isSome ↔
      store.isInitialized ∧ index < Layout.ghesSources) ∧
    (store.bertTable?.isSome ↔ store.isInitialized ∨ HalfFreed run.1) ∧
    ¬ (store.isInitialized ∧ HalfFreed run.1) ∧
    ∀ later : σ,
      let recorded := fun error => call (.record error) store later
      let next := call .init store later
      (store.isInitialized ∨ HalfFreed run.1 → ∃ bert, store.bert = some bert ∧ ∀ error,
        (recorded error).1.outcome =
          if (Store.freeSlot? bert).isSome then .ok () else .error .outOfResources) ∧
      (¬ (store.isInitialized ∨ HalfFreed run.1) → ∀ error,
        (recorded error).1.outcome = .error .notReady ∧ (recorded error).2.1 = store) ∧
      (store.isInitialized → next.1.outcome = .ok () ∧ next.2.1 = store) ∧
      (HalfFreed run.1 → next.1.outcome = .ok () →
        next.2.1.isInitialized ∧ ∃ bert, next.2.1.bert = some bert ∧ Holds bert []) := by
  intro run store
  have h : Standing run.1 store :=
    calls_induction (fun _ _ _ _ _ _ h hs => h.step hs) operations [] { functions } platform
      (.start functions)
  refine ⟨fun index => ?_, ?_, h.not_both, fun later => ?_⟩
  · rw [h.isInitialized_iff, Store.ghesSource?]
    by_cases hi : index < Layout.ghesSources <;> simp [hi]
  · rw [← h.bert_iff, Store.bertTable?, Option.isSome_map]
  intro recorded next
  rw [← h.bert_iff]
  refine ⟨fun hb => ?_, fun hb error => ?_, fun hi => ?_, fun hf ho => ?_⟩
  · obtain ⟨bert, hb⟩ := Option.isSome_iff_exists.1 hb
    exact ⟨bert, hb, fun error =>
      RecordStep.outcome_of_some (call_step (.record error) store later) hb⟩
  · exact RecordStep.outcome_of_none (call_step (.record error) store later) (by simpa using hb)
  · have hn : next = (⟨.init, [], .ok ()⟩, store, later) := call_init_of_isInitialized hi later
    rw [hn]
    exact ⟨rfl, rfl⟩
  · have hs : InitStep store next.1.events next.1.outcome next.2.1 := call_step .init store later
    rw [ho] at hs
    have hl := hs.logged fun hi => h.not_both ⟨hi, hf⟩
    exact ⟨hl.isInitialized, hl.bert⟩

end

def pinnedBoard : Simulation.Board where
  heap := { pinned := [1] }
  station := ⟨.vacant {}, ⟨{}, #[]⟩⟩

/-- Acknowledged by a store that is not initialized, and gone once it is. -/
theorem record_lost_after_half_freed :
    let run := calls [.init, .free, .record (trainingError 0)] {} pinnedBoard
    let next := call .init run.2.1 { run.2.2 with heap := run.2.2.heap.unpin }
    run.1.map Call.outcome = [.ok (), .error .accessDenied, .ok ()] ∧
      run.2.1.isInitialized = false ∧ run.2.1.bertTable?.isSome ∧
      run.2.1.bert.map Store.freeSlot? = some (some 1) ∧
      next.1.outcome = .ok () ∧ next.2.1.bert.map Store.freeSlot? = some (some 0) := by
  decide +kernel

end PlatformFirmware.ErrorRecord
