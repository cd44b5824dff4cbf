import PlatformFirmware.Proofs.ErrorRecord.Step
import PlatformFirmware.Proofs.Trace

namespace PlatformFirmware.ErrorRecord

open StoreAction

variable {σ α β : Type}

/-- A run that ends as a step does and adds the events of the step to the trace. -/
def Follows (step : List Event → Except Efi.Error α → Store → Prop) (before : Array Event)
    (result : EStateM.Result Efi.Error (Store × Traced σ) α) : Prop :=
  ∃ events, step events (outcome result) (final result).1 ∧
    (final result).2.events.toList = before.toList ++ events

namespace Follows

variable {before : Array Event}

theorem mono {step next : List Event → Except Efi.Error α → Store → Prop}
    {result : EStateM.Result Efi.Error (Store × Traced σ) α} (h : Follows step before result)
    (hn : ∀ events r after, step events r after → next events r after) : Follows next before result := by
  obtain ⟨events, hs, he⟩ := h
  exact ⟨events, hn _ _ _ hs, he⟩

/-- What comes second starts from the store and the trace that the first part left. -/
theorem bind {action : StoreAction (Traced σ) α} {next : α → StoreAction (Traced σ) β}
    {s : Store × Traced σ} {first : List Event → Except Efi.Error α → Store → Prop}
    {step : List Event → Except Efi.Error β → Store → Prop}
    (h : Follows first before (action.run s))
    (herror : ∀ events e after, first events (.error e) after → step events (.error e) after)
    (hok : ∀ events a after, first events (.ok a) after → ∀ traced : Traced σ,
      Follows (fun later r last => step (events ++ later) r last) traced.events
        ((next a).run (after, traced))) :
    Follows step before ((action >>= next).run s) := by
  obtain ⟨events, hs, he⟩ := h
  rw [EStateM.run_bind]
  cases hr : action.run s with
  | error e t =>
    rw [hr] at hs he
    exact ⟨events, herror _ _ _ hs, he⟩
  | ok a t =>
    rw [hr] at hs he
    obtain ⟨later, hl, ht⟩ := hok events a t.1 hs t.2
    refine ⟨events ++ later, hl, ?_⟩
    rw [ht, ← List.append_assoc, ← he]
    rfl

end Follows

theorem run_store_bind (next : Store → StoreAction σ α) (store : Store) (platform : σ) :
    (StoreAction.store >>= next).run (store, platform) = (next store).run (store, platform) := rfl

theorem update_follows (f : Store → Store) (store : Store) (traced : Traced σ) :
    Follows (fun events r after => events = [] ∧ r = .ok () ∧ after = f store) traced.events
      ((update f).run (store, traced)) :=
  ⟨[], ⟨rfl, rfl, rfl⟩, by simp [update]⟩

section Writing

variable [DataCache σ] {pages : Nat}

theorem write_follows (region : Region pages) (offset : Nat) (data : Bytes) (store : Store)
    (traced : Traced σ) :
    Follows
      (fun events r after =>
        events = [.dirty (region.address + UInt64.ofNat offset) data.length] ∧
          r = .ok (region.write offset data) ∧ after = store)
      traced.events ((StoreAction.write region offset data).run (store, traced)) :=
  ⟨_, ⟨rfl, rfl, rfl⟩, Array.toList_push⟩

theorem rewrite_follows (f : Region pages → Region pages) (region : Region pages) (store : Store)
    (traced : Traced σ) :
    Follows (fun events r after => events = [rewritten region] ∧ r = .ok (f region) ∧ after = store)
      traced.events ((rewrite f region).run (store, traced)) := by
  refine ⟨[rewritten region], ⟨rfl, rfl, rfl⟩, ?_⟩
  rw [rewritten, ← region.length_bytes]
  exact Array.toList_push

end Writing

section Memory

variable [ReservedMemory σ]

theorem release_follows {pages : Nat} (region : Region pages) (store : Store) (traced : Traced σ) :
    Follows (fun events r after => 
      events = [.release region.address pages (failure? r)] ∧ after = store)
      traced.events ((release region).run (store, traced)) := by
  refine ⟨_, ⟨rfl, ?_⟩, ?_⟩ <;>
    cases hr : (ReservedMemory.release region : Firmware σ Unit).run traced.peer <;>
    simp [release, onPlatform, hr]

/-- A region is forgotten once the provider has taken it back, and kept if it refuses. -/
theorem giveBack_follows {pages : Nat} (region : Region pages) (forget : Store → Store)
    (store : Store) (traced : Traced σ) :
    Follows
      (fun events r after =>
        events = [.release region.address pages none] ∧ r = .ok () ∧ after = forget store ∨
        ∃ e, events = [.release region.address pages (some e)] ∧ r = .error e ∧ after = store)
      traced.events ((release region >>= fun _ => update forget).run (store, traced)) := by
  refine (release_follows region store traced).bind ?_ ?_
  · rintro _ e _ ⟨rfl, rfl⟩
    exact .inr ⟨e, rfl, rfl, rfl⟩
  · rintro _ u _ ⟨rfl, rfl⟩ traced
    refine (update_follows _ _ traced).mono ?_
    rintro _ _ _ ⟨rfl, rfl, rfl⟩
    exact .inl ⟨rfl, rfl, rfl⟩

theorem freeGhes_follows (store : Store) (traced : Traced σ) :
    Follows
      (fun events r after =>
        events = released store.ghes ∧ r = .ok () ∧ after = { store with ghes := none } ∨
        ∃ ghes e, store.ghes = some ghes ∧ 
          events = [.release ghes.address Layout.ghesPages (some e)] ∧ r = .error e ∧ after = store)
      traced.events (freeGhes.run (store, traced)) := by
  cases hg : store.ghes with
  | none =>
    have hs : { store with ghes := none } = store := by rw [← hg]
    rw [hs]
    exact ⟨[], by simp [freeGhes, StoreAction.store, hg, released]⟩
  | some ghes =>
    have hr : freeGhes.run (store, traced) =
        (release ghes >>= fun _ => update ({ · with ghes := none })).run (store, traced) := by
      simp [freeGhes, StoreAction.store, hg]
    rw [hr]
    refine (giveBack_follows ghes _ store traced).mono ?_
    rintro events r after (h | ⟨e, h⟩)
    · exact .inl h
    · exact .inr ⟨ghes, e, rfl, h⟩

theorem freeBert_follows (store : Store) (traced : Traced σ) :
    Follows
      (fun events r after =>
        events = released store.bert ∧ r = .ok () ∧ after = { store with bert := none } ∨
        ∃ bert e, store.bert = some bert ∧ 
          events = [.release bert.address Layout.bertPages (some e)] ∧ r = .error e ∧ after = store)
      traced.events (freeBert.run (store, traced)) := by
  cases hb : store.bert with
  | none =>
    have hs : { store with bert := none } = store := by rw [← hb]
    rw [hs]
    exact ⟨[], by simp [freeBert, StoreAction.store, hb, released]⟩
  | some bert =>
    have hr : freeBert.run (store, traced) =
        (release bert >>= fun _ => update ({ · with bert := none })).run (store, traced) := by
      simp [freeBert, StoreAction.store, hb]
    rw [hr]
    refine (giveBack_follows bert _ store traced).mono ?_
    rintro events r after (h | ⟨e, h⟩)
    · exact .inl h
    · exact .inr ⟨bert, e, rfl, h⟩

theorem free_follows (store : Store) (traced : Traced σ) :
    Follows (FreeStep store) traced.events (free.run (store, traced)) := by
  refine (freeGhes_follows store traced).bind ?_ ?_
  · rintro _ e _ (⟨_, h, _⟩ | ⟨ghes, _, hg, rfl, h, rfl⟩)
    · cases h
    · cases h
      exact .ghesRefused ghes e hg
  · rintro _ _ _ (⟨rfl, _, rfl⟩ | ⟨_, _, _, _, h, _⟩) traced
    · refine (freeBert_follows _ traced).bind ?_ ?_
      · rintro _ e _ (⟨_, h, _⟩ | ⟨bert, _, hb, rfl, h, rfl⟩)
        · cases h
        · cases h
          exact .bertRefused bert e hb
      · rintro _ _ _ (⟨rfl, _, rfl⟩ | ⟨_, _, _, _, h, _⟩) traced
        · refine (update_follows _ _ traced).mono ?_
          rintro _ _ _ ⟨rfl, rfl, rfl⟩
          rw [List.append_nil]
          exact .done
        · cases h
    · cases h

theorem allocate_follows (pages : Nat) (store : Store) (traced : Traced σ) :
    Follows
      (fun events r after => after = store ∧
        match r with
        | .ok region => events = [.allocate pages (.inl region.address)]
        | .error e => e = .outOfResources ∧ ∃ cause, events = [.allocate pages (.inr cause)])
      traced.events ((StoreAction.allocate pages).run (store, traced)) := by
  cases ha : (ReservedMemory.allocate pages : Firmware σ (Region pages)).run traced.peer with
  | ok region peer =>
    exact ⟨[.allocate pages (.inl region.address)], by simp [StoreAction.allocate, onPlatform, ha]⟩
  | error e peer =>
    exact ⟨[.allocate pages (.inr e)], by simp [StoreAction.allocate, onPlatform, ha]⟩

/-- The second allocation, which gives the first region back when it fails. -/
theorem allocateBert_follows (ghes : Region Layout.ghesPages) (store : Store) (traced : Traced σ) :
    Follows
      (fun events r after => after = store ∧
        match r with
        | .ok bert => events = [.allocate Layout.bertPages (.inl bert.address)]
        | .error e => e = .outOfResources ∧ ∃ cause failure,
            events = [.allocate Layout.bertPages (.inr cause),
              .release ghes.address Layout.ghesPages failure])
      traced.events
      ((tryCatch (StoreAction.allocate Layout.bertPages) fun e => do
        tryCatch (release ghes) fun _ => return
        throw e).run (store, traced)) := by
  cases ha : (ReservedMemory.allocate Layout.bertPages : Firmware σ _).run traced.peer with
  | ok bert peer =>
    exact ⟨[.allocate Layout.bertPages (.inl bert.address)],
      by simp [StoreAction.allocate, onPlatform, ha]⟩
  | error cause peer =>
    cases hr : (ReservedMemory.release ghes : Firmware σ Unit).run peer with
    | ok _ last =>
      exact ⟨[.allocate Layout.bertPages (.inr cause), .release ghes.address Layout.ghesPages none],
        by simp [StoreAction.allocate, release, onPlatform, ha, hr]⟩
    | error e last =>
      exact ⟨[.allocate Layout.bertPages (.inr cause),
        .release ghes.address Layout.ghesPages (some e)],
        by simp [StoreAction.allocate, release, onPlatform, ha, hr]⟩

theorem init_follows [DataCache σ] (store : Store) (traced : Traced σ) :
    Follows (InitStep store) traced.events (init.run (store, traced)) := by
  rw [init, run_store_bind]
  split
  · next h => exact ⟨[], .initialized h, by simp⟩
  · next h =>
    refine (free_follows store traced).bind (fun _ _ _ hf => .notFreed h hf) ?_
    intro events _ after hf traced
    refine (allocate_follows _ after traced).bind ?_ ?_
    · rintro _ _ _ ⟨rfl, rfl, cause, rfl⟩
      exact .noGhes cause h hf
    · rintro _ ghes _ ⟨rfl, rfl⟩ traced
      refine (allocateBert_follows ghes _ traced).bind ?_ ?_
      · rintro _ _ _ ⟨rfl, rfl, cause, failure, rfl⟩
        exact .noBert ghes cause failure h hf
      · rintro _ bert _ ⟨rfl, rfl⟩ traced
        refine (rewrite_follows formatGhes ghes _ traced).bind nofun ?_
        rintro _ _ _ ⟨rfl, ⟨⟩, rfl⟩ traced
        refine (rewrite_follows formatBert bert _ traced).bind nofun ?_
        rintro _ _ _ ⟨rfl, ⟨⟩, rfl⟩ traced
        refine (update_follows _ _ traced).mono ?_
        rintro _ _ _ ⟨rfl, rfl, rfl⟩
        exact .done ghes bert h hf

end Memory

section Detection

theorem onPlatform_bind (action : Firmware σ α) (next : α → Firmware σ β) :
    (onPlatform (action >>= next) : StoreAction σ β) =
      onPlatform action >>= fun a => onPlatform (next a) := by
  funext s
  change (onPlatform (action >>= next)).run s = (onPlatform action >>= _).run s
  simp only [onPlatform, run_focus, EStateM.run_bind]
  cases action.run s.2 <;> rfl

theorem clean_follows [DataCache σ] (address : UInt64) (length : Nat) (store : Store)
    (traced : Traced σ) :
    Follows (fun events r after => events = [.clean address length] ∧ r = .ok () ∧ after = store)
      traced.events ((onPlatform (cleanCache address length)).run (store, traced)) :=
  ⟨[.clean address length], by simp [onPlatform]⟩

variable [SecureMonitor σ]

theorem secureCall_follows (function : UInt32) (arguments : List UInt64) (store : Store)
    (traced : Traced σ) :
    Follows
      (fun events r after => after = store ∧
        ∃ a, events = [.call (.ofList function arguments) a] ∧ r = a.check)
      traced.events ((onPlatform (secureCall function arguments)).run (store, traced)) := by
  refine ⟨[.call (.ofList function arguments)
    (SecureMonitor.call (.ofList function arguments) traced.peer).1], ?_, ?_⟩ <;>
    cases hc : (SecureMonitor.call (.ofList function arguments) traced.peer).1.check <;>
    simp [secureCall, onPlatform, hc]

theorem publish_follows [DataCache σ] (functions : Functions) (kind : TableKind)
    (address : UInt64) (size : Nat) (store : Store) (traced : Traced σ) :
    Follows
      (fun events r after => after = store ∧
        ∃ a, events = publication functions kind address size a ∧ r = a.check)
      traced.events ((onPlatform (publish functions kind address size)).run (store, traced)) := by
  rw [publish, onPlatform_bind]
  refine (clean_follows address size store traced).bind ?_ ?_
  · rintro _ _ _ ⟨_, h, _⟩
    cases h
  · rintro _ _ _ ⟨rfl, _, rfl⟩ traced
    refine (secureCall_follows _ _ _ traced).mono ?_
    rintro _ _ _ ⟨rfl, a, rfl, rfl⟩
    exact ⟨rfl, a, rfl, rfl⟩

theorem publishTables_follows [DataCache σ] (store : Store) (traced : Traced σ) :
    Follows (PublishStep store) traced.events (publishTables.run (store, traced)) := by
  rw [publishTables, run_store_bind]
  split
  · next ghes bert hg hb =>
    have hi : store.isInitialized := by simp [Store.isInitialized, hg, hb]
    rw [onPlatform_bind, bind_assoc]
    refine (publish_follows _ _ _ _ store traced).bind ?_ ?_
    · rintro _ e _ ⟨rfl, a, rfl, ha⟩
      exact .ghesRefused ghes a e hi hg ha.symm
    · rintro _ _ _ ⟨rfl, a, rfl, ha⟩ traced
      refine (publish_follows _ _ _ _ _ traced).bind ?_ ?_
      · rintro _ e _ ⟨rfl, b, rfl, hc⟩
        exact .bertRefused ghes bert a b e hg hb ha.symm hc.symm
      · rintro _ _ _ ⟨rfl, b, rfl, hc⟩ traced
        refine (update_follows _ _ traced).mono ?_
        rintro _ _ _ ⟨rfl, rfl, rfl⟩
        rw [List.append_nil]
        exact .done ghes bert a b hg hb ha.symm hc.symm
  · next hn =>
    refine ⟨[], .notReady ?_, by simp⟩
    intro hi
    obtain ⟨⟨ghes, hg⟩, bert, hb⟩ : (∃ ghes, store.ghes = some ghes) ∧ ∃ bert, store.bert = some bert := by
      simpa [Store.isInitialized, Option.isSome_iff_exists] using hi
    exact hn ghes bert hg hb

/-- The last part of a call that turns detection on or off. -/
theorem detect_follows [RasPolling σ] (functions : Functions) (on : Bool) (detector : Detector)
    (store : Store) (traced : Traced σ) :
    Follows (fun events r after => DetectStep functions on detector events r ∧ after = store)
      traced.events
      ((onPlatform do
        secureCall functions.enable [if on then 1 else 0, detector.code]
        match detector.processor? with
        | none => return
        | some processor => RasPolling.setPolling processor on).run (store, traced)) := by
  rw [onPlatform_bind]
  refine (secureCall_follows _ _ store traced).bind ?_ ?_
  · rintro _ e _ ⟨rfl, a, rfl, h⟩
    exact ⟨.refused a e h.symm, rfl⟩
  · rintro _ _ _ ⟨rfl, a, rfl, h⟩ traced
    cases hp : detector.processor? with
    | none => exact ⟨[], ⟨.silent a h.symm hp, rfl⟩, by simp [onPlatform]⟩
    | some p =>
      cases hs : (RasPolling.setPolling p on : Firmware σ Unit).run traced.peer with
      | ok _ peer =>
        exact ⟨[.polling p on none], by
          simpa [onPlatform, hs] using .polling a p (.ok ()) h.symm hp⟩
      | error e peer =>
        exact ⟨[.polling p on (some e)], by
          simpa [onPlatform, hs] using .polling a p (.error e) h.symm hp⟩

theorem enable_follows [DataCache σ] [RasPolling σ] (on : Bool) (detector : Detector)
    (store : Store) (traced : Traced σ) :
    Follows (EnableStep on detector store) traced.events
      ((enable on detector).run (store, traced)) := by
  rw [enable]
  cases on with
  | false =>
    rw [if_neg Bool.false_ne_true]
    change Follows _ _ ((StoreAction.store >>= _).run _)
    rw [run_store_bind]
    refine (detect_follows store.functions false detector store traced).mono ?_
    rintro _ _ _ ⟨hd, rfl⟩
    exact .off rfl hd
  | true =>
    rw [if_pos rfl]
    refine (publishTables_follows store traced).bind (fun _ _ _ hp => .notPublished rfl hp) ?_
    intro events _ after hp traced
    have hf : after.functions = store.functions := by cases hp; rfl
    rw [run_store_bind]
    refine (detect_follows after.functions true detector after traced).mono ?_
    rintro _ _ _ ⟨hd, rfl⟩
    exact .published rfl hp (hf ▸ hd)

end Detection

theorem record_follows [DataCache σ] (error : BootError) (store : Store) (traced : Traced σ) :
    Follows (RecordStep error store) traced.events ((record error).run (store, traced)) := by
  rw [record, run_store_bind]
  split
  · next hb => exact ⟨[], .notReady hb, by simp⟩
  · next bert hb =>
    split
    · next hs => exact ⟨[], .full bert hb hs, by simp⟩
    · next slot hs =>
      have hw : RecordStep error store _ _ _ := .written bert slot hb hs
      refine (write_follows bert _ _ store traced).bind nofun ?_
      rintro _ _ _ ⟨rfl, ⟨⟩, rfl⟩ traced
      refine (update_follows _ _ traced).bind nofun ?_
      rintro _ _ _ ⟨rfl, -, rfl⟩ traced
      rw [error.length_slot]
      split
      · next hp =>
        rw [if_pos hp] at hw
        refine (clean_follows _ _ _ traced).mono ?_
        rintro _ _ _ ⟨rfl, rfl, rfl⟩
        exact hw
      · next hp =>
        rw [if_neg hp] at hw
        exact ⟨[], hw, by simp⟩

end PlatformFirmware.ErrorRecord
