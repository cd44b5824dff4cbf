import PlatformFirmware.Proofs.ErrorRecord.Calls
import PlatformFirmware.Simulation.Board

namespace PlatformFirmware.ErrorRecord

def handedOut (events : List Event) : Nat :=
  events.countP fun
    | .allocate _ (.inl _) => true
    | _ => false

def takenBack (events : List Event) : Nat :=
  events.countP fun
    | .release _ _ none => true
    | _ => false

def Store.owned (store : Store) : Nat := store.ghes.isSome.toNat + store.bert.isSome.toNat

/-- The events end with an allocation that failed and the refusal to take back the region that had
been allocated before it. -/
def losesRegion (events : List Event) : Bool :=
  match events.reverse with
  | .release _ _ (some _) :: .allocate _ (.inr _) :: _ => true
  | _ => false

def trace (made : List Call) : List Event := made.flatMap Call.events

theorem trace_append_singleton (made : List Call) (operation : Operation) (events : List Event)
    (r : Except Efi.Error Unit) :
    trace (made ++ [⟨operation, events, r⟩]) = trace made ++ events := by
  simp [trace]

def lost (made : List Call) : Nat := made.countP fun call => losesRegion call.events

theorem handedOut_append (front back : List Event) :
    handedOut (front ++ back) = handedOut front + handedOut back := List.countP_append

theorem takenBack_append (front back : List Event) :
    takenBack (front ++ back) = takenBack front + takenBack back := List.countP_append

theorem handedOut_released {pages : Nat} (region : Option (Region pages)) :
    handedOut (released region) = 0 := by
  cases region <;> rfl

theorem takenBack_released {pages : Nat} (region : Option (Region pages)) :
    takenBack (released region) = region.isSome.toNat := by
  cases region <;> rfl

/-- What is freed is what the provider takes back. -/
theorem FreeStep.balance {store after : Store} {events : List Event} {r : Except Efi.Error Unit}
    (h : FreeStep store events r after) :
    handedOut events = 0 ∧ store.owned = takenBack events + after.owned ∧
      losesRegion events = false := by
  cases h with
  | ghesRefused ghes e hg => exact ⟨rfl, (Nat.zero_add _).symm, rfl⟩
  | bertRefused bert e hb =>
    refine ⟨?_, ?_, ?_⟩
    · rw [handedOut_append, handedOut_released]
      rfl
    · rw [takenBack_append, takenBack_released]
      simp [takenBack, Store.owned]
    · cases store.ghes <;> rfl
  | done =>
    refine ⟨?_, ?_, ?_⟩
    · rw [handedOut_append, handedOut_released, handedOut_released]
    · rw [takenBack_append, takenBack_released, takenBack_released]
      rfl
    · cases store.ghes <;> cases store.bert <;> rfl

theorem FreeStep.owned_of_ok {store after : Store} {events : List Event}
    (h : FreeStep store events (.ok ()) after) : after.owned = 0 := by
  cases h
  rfl

theorem InitStep.balance {store after : Store} {events : List Event} {r : Except Efi.Error Unit}
    (h : InitStep store events r after) :
    handedOut events + store.owned =
      takenBack events + after.owned + (losesRegion events).toNat := by
  cases h with
  | initialized h => simp [handedOut, takenBack, losesRegion]
  | notFreed h hf =>
    obtain ⟨hh, ho, hl⟩ := hf.balance
    simp [hh, ho, hl]
  | @noGhes events after e h hf =>
    obtain ⟨hh, ho, -⟩ := hf.balance
    have hl : losesRegion (events ++ [.allocate Layout.ghesPages (.inr e)]) = false := by
      simp [losesRegion]
    rw [handedOut_append, takenBack_append, hh, ho, hl]
    simp [handedOut, takenBack]
  | noBert ghes e failure h hf =>
    obtain ⟨hh, ho, -⟩ := hf.balance
    rw [handedOut_append, takenBack_append, hh, ho, hf.owned_of_ok]
    -- taken back, the region counts on both sides, and refused it is lost
    cases failure <;> simp [handedOut, takenBack, losesRegion, Nat.add_comm]
  | @done events middle ghes bert h hf =>
    obtain ⟨hh, ho, -⟩ := hf.balance
    rw [handedOut_append, takenBack_append, hh, ho, hf.owned_of_ok]
    simp [handedOut, takenBack, losesRegion, rewritten, Store.owned, Nat.add_comm]

def concernsMemory : Event → Bool
  | .allocate _ _ => true
  | .release _ _ _ => true
  | _ => false

theorem balance_of_quiet {events : List Event} (h : ∀ event ∈ events, concernsMemory event = false) :
    handedOut events = 0 ∧ takenBack events = 0 ∧ losesRegion events = false := by
  refine ⟨?_, ?_, ?_⟩
  · refine List.countP_eq_zero.2 fun event he => ?_
    have hc := h event he
    cases event <;> simp_all [concernsMemory]
  · refine List.countP_eq_zero.2 fun event he => ?_
    have hc := h event he
    cases event <;> simp_all [concernsMemory]
  · cases hr : events.reverse with
    | nil => simp [losesRegion, hr]
    | cons event rest =>
      have hc := h event (List.mem_reverse.1 (hr ▸ List.mem_cons_self))
      cases event <;> simp_all [concernsMemory, losesRegion]

theorem quiet_publication (functions : Functions) (kind : TableKind) (address : UInt64) (size : Nat)
    (a : SecureCall.Answer) :
    ∀ event ∈ publication functions kind address size a, concernsMemory event = false := by
  simp [publication, concernsMemory]

theorem PublishStep.quiet {store after : Store} {events : List Event} {r : Except Efi.Error Unit}
    (h : PublishStep store events r after) :
    (∀ event ∈ events, concernsMemory event = false) ∧ after.owned = store.owned := by
  cases h with
  | notReady h => exact ⟨by simp, rfl⟩
  | ghesRefused ghes a e hi hg ha => exact ⟨quiet_publication _ _ _ _ _, rfl⟩
  | bertRefused ghes bert a b e hg hb ha hc | done ghes bert a b hg hb ha hc =>
    refine ⟨fun event he => ?_, rfl⟩
    rcases List.mem_append.1 he with he | he
    · exact quiet_publication _ _ _ _ _ event he
    · exact quiet_publication _ _ _ _ _ event he

theorem DetectStep.quiet {functions : Functions} {on : Bool} {detector : Detector}
    {events : List Event} {r : Except Efi.Error Unit}
    (h : DetectStep functions on detector events r) :
    ∀ event ∈ events, concernsMemory event = false := by
  cases h <;> simp [concernsMemory]

theorem EnableStep.quiet {on : Bool} {detector : Detector} {store after : Store}
    {events : List Event} {r : Except Efi.Error Unit}
    (h : EnableStep on detector store events r after) :
    (∀ event ∈ events, concernsMemory event = false) ∧ after.owned = store.owned := by
  cases h with
  | notPublished _ hp => exact hp.quiet
  | published _ hp hd =>
    refine ⟨fun event he => ?_, hp.quiet.2⟩
    rcases List.mem_append.1 he with he | he
    · exact hp.quiet.1 event he
    · exact hd.quiet event he
  | off _ hd => exact ⟨hd.quiet, rfl⟩

theorem RecordStep.quiet {error : BootError} {store after : Store} {events : List Event}
    {r : Except Efi.Error Unit} (h : RecordStep error store events r after) :
    (∀ event ∈ events, concernsMemory event = false) ∧ after.owned = store.owned := by
  cases h with
  | notReady h => exact ⟨by simp, rfl⟩
  | full bert h hs => exact ⟨by simp, rfl⟩
  | written bert slot h hs =>
    refine ⟨?_, by simp [Store.owned, h]⟩
    split <;> simp [concernsMemory]

/-- Only an initialization that is undone in vain unbalances the regions, and by one. -/
theorem Operation.Step.balance {operation : Operation} {store after : Store} {events : List Event}
    {r : Except Efi.Error Unit} (h : operation.Step store events r after) :
    handedOut events + store.owned =
      takenBack events + after.owned + (losesRegion events).toNat := by
  cases operation with
  | init => exact InitStep.balance h
  | free =>
    obtain ⟨hh, ho, hl⟩ := FreeStep.balance h
    simp [hh, ho, hl]
  | enable on detector =>
    obtain ⟨hq, ho⟩ := EnableStep.quiet h
    obtain ⟨hh, ht, hl⟩ := balance_of_quiet hq
    simp [hh, ht, hl, ho]
  | record error =>
    obtain ⟨hq, ho⟩ := RecordStep.quiet h
    obtain ⟨hh, ht, hl⟩ := balance_of_quiet hq
    simp [hh, ht, hl, ho]

def Balanced (made : List Call) (store : Store) : Prop :=
  handedOut (trace made) = takenBack (trace made) + store.owned + lost made

theorem Balanced.step {made : List Call} {store after : Store} {operation : Operation}
    {events : List Event} {r : Except Efi.Error Unit} (h : Balanced made store)
    (hs : operation.Step store events r after) :
    Balanced (made ++ [⟨operation, events, r⟩]) after := by
  have hl : lost (made ++ [⟨operation, events, r⟩]) = lost made + (losesRegion events).toNat := by
    rw [lost, List.countP_append, lost]
    cases hr : losesRegion events <;> simp [hr]
  -- the balance of the call is added to that of the calls before it
  have hb := hs.balance
  rw [Balanced] at h ⊢
  rw [trace_append_singleton, hl, handedOut_append, takenBack_append]
  omega

section

variable {σ : Type} [ReservedMemory σ] [SecureMonitor σ] [DataCache σ] [RasPolling σ]

theorem calls_balanced (operations : List Operation) (functions : Functions) (platform : σ) :
    Balanced (calls operations { functions } platform).1
      (calls operations { functions } platform).2.1 := by
  have h : Balanced [] { functions } := rfl
  exact calls_induction (fun _ _ _ _ _ _ h hs => h.step hs) operations [] { functions } platform h

/-- On every platform and after any calls, the provider has handed out and not taken back the
regions that the store owns, unless some initialization failed at its second allocation and was then
refused the release of its first region: each of these loses one region for good. -/
theorem regions_conserved_iff (operations : List Operation) (functions : Functions)
    (platform : σ) :
    handedOut (trace (calls operations { functions } platform).1) =
        takenBack (trace (calls operations { functions } platform).1) +
          (calls operations { functions } platform).2.1.owned +
          lost (calls operations { functions } platform).1 ∧
      (handedOut (trace (calls operations { functions } platform).1) =
          takenBack (trace (calls operations { functions } platform).1) +
            (calls operations { functions } platform).2.1.owned ↔
        ∀ call ∈ (calls operations { functions } platform).1, losesRegion call.events = false) := by
  have h := calls_balanced operations functions platform
  rw [Balanced] at h
  refine ⟨h, ?_⟩
  have hl : lost (calls operations { functions } platform).1 = 0 ↔
      ∀ call ∈ (calls operations { functions } platform).1, losesRegion call.events = false := by
    rw [lost, List.countP_eq_zero]
    simp
  rw [← hl]
  omega

end

/-- A heap that serves one allocation only and refuses the first release. -/
def shortBoard : Simulation.Board where
  heap := { limit := some 1, refusals := 1 }
  station := ⟨.vacant {}, ⟨{}, #[]⟩⟩

/-- The region of a failed initialization stays with nobody, also after all has been freed. -/
theorem region_lost_on_failed_init :
    handedOut (trace (calls [.init, .free] {} shortBoard).1) = 1 ∧
      takenBack (trace (calls [.init, .free] {} shortBoard).1) = 0 ∧
      (calls [.init, .free] {} shortBoard).2.1.owned = 0 := by
  decide +kernel

end PlatformFirmware.ErrorRecord
