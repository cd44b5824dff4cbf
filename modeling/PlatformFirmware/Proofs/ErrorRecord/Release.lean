import Mathlib.Data.List.Infix
import PlatformFirmware.Proofs.ErrorRecord.Loans
import PlatformFirmware.Proofs.ErrorRecord.Publication

namespace PlatformFirmware.ErrorRecord

inductive Inquiry
  | source (index : Nat)
  | blockAddress (index : Nat)
  | table
  | tableAddress
  deriving DecidableEq, Repr

def Inquiry.uses (store : Store) : Inquiry → List Use
  | source index =>
    if index < Layout.ghesSources then
      (store.ghes.map fun ghes => Use.read
        ⟨ghes.address + UInt64.ofNat (Layout.ghesSourceOffset index), Layout.ghesSourceSize⟩).toList
    else []
  | blockAddress index =>
    ((store.ghesBlockAddress? index).map fun address =>
      Use.tell ⟨address, Layout.ghesBlockSize⟩).toList
  | table => (store.bert.map fun bert => Use.read ⟨bert.address, Layout.bertSize⟩).toList
  | tableAddress =>
    (store.bertAddress?.map fun address => Use.tell ⟨address, Layout.bertSize⟩).toList

inductive Visit
  | call (operation : Operation)
  | ask (inquiry : Inquiry)
  deriving DecidableEq, Repr

section Runs

theorem borrows_toList {α : Type} {functions : Functions} {owned : List Span} {found : Option α}
    {use : α → Use} (hl : ∀ a, found = some a → Licensed functions owned (use a))
    (hs : ∀ a held, ledger held (use a) = held) :
    Borrows functions owned (found.map use).toList owned := by
  cases found with
  | none => exact borrows_nil owned
  | some a => exact borrows_use (hl a rfl) (hs a)

theorem Inquiry.borrows (inquiry : Inquiry) (functions : Functions) (store : Store) :
    Borrows functions store.regions (inquiry.uses store) store.regions := by
  cases inquiry with
  | source index =>
    rw [uses]
    split
    · next hi =>
      refine borrows_toList (fun ghes hg => ?_) fun _ _ => rfl
      exact lent_of_ghes hg ⟨_, rfl, Layout.ghesSourceOffset_add_le_length hi⟩
    · exact borrows_nil _
  | blockAddress index =>
    refine borrows_toList (fun address ha => ?_) fun _ _ => rfl
    rw [Store.ghesBlockAddress?] at ha
    split at ha
    · next hi =>
      obtain ⟨ghes, hg, rfl⟩ := Option.map_eq_some_iff.1 ha
      exact lent_of_ghes hg ⟨_, rfl, Layout.ghesBlockOffset_add_le_length hi⟩
    · cases ha
  | table => exact borrows_toList (fun bert hb => lent_bert_table hb) fun _ _ => rfl
  | tableAddress =>
    refine borrows_toList (fun address ha => ?_) fun _ _ => rfl
    obtain ⟨bert, hb, rfl⟩ := Option.map_eq_some_iff.1 ha
    exact lent_bert_table hb

variable {σ : Type} [ReservedMemory σ] [SecureMonitor σ] [DataCache σ] [RasPolling σ]

def uses : List Visit → Store → σ → List Use
  | [], _, _ => []
  | .call operation :: visits, store, platform =>
    let (made, after, platform) := call operation store platform
    operation.uses store made.events ++ uses visits after platform
  | .ask inquiry :: visits, store, platform => inquiry.uses store ++ uses visits store platform

theorem uses_borrow (visits : List Visit) (store : Store) (platform : σ) :
    Borrows store.functions store.regions (uses visits store platform) [] := by
  induction visits generalizing store platform with
  | nil => exact (borrows_nil _).forget (List.nil_sublist _)
  | cons visit visits ih =>
    cases visit with
    | call operation =>
      have hs := call_step operation store platform
      have hl := ih (call operation store platform).2.1 (call operation store platform).2.2
      rw [hs.functions_eq] at hl
      exact hs.borrows.append hl
    | ask inquiry => exact (inquiry.borrows _ store).append (ih store platform)

end Runs

section Apart

def Span.Apart (span other : Span) : Prop :=
  span.length ≤ (other.address - span.address).toNat ∧
    other.length ≤ (span.address - other.address).toNat

instance (span other : Span) : Decidable (span.Apart other) :=
  inferInstanceAs (Decidable (_ ∧ _))

theorem Span.Apart.symm {span other : Span} (h : span.Apart other) : other.Apart span := ⟨h.2, h.1⟩

theorem Span.Apart.not_covers {span other : Span} {address : UInt64} (h : span.Apart other)
    (hc : span.Covers address) : ¬ other.Covers address := by
  intro ho
  obtain ⟨hs, hl⟩ := h
  rw [Covers] at hc ho
  rw [UInt64.toNat_sub] at hs hl hc ho
  have ha := address.toNat_lt
  have hb := span.address.toNat_lt
  have hd := other.address.toNat_lt
  omega

theorem Span.Within.covers {span other : Span} {address : UInt64} (h : span.Within other)
    (hc : span.Covers address) : other.Covers address := by
  obtain ⟨offset, ha, hl⟩ := h
  have hd : address - other.address = (address - span.address) + UInt64.ofNat offset := by
    rw [UInt64.sub_eq_iff_eq_add, UInt64.add_assoc, UInt64.add_comm (UInt64.ofNat offset), ← ha,
      UInt64.sub_add_cancel]
  have ho : (UInt64.ofNat offset).toNat ≤ offset := Nat.mod_le _ _
  rw [Covers] at hc
  rw [Covers, hd, UInt64.toNat_add]
  exact Nat.lt_of_le_of_lt (Nat.mod_le _ _) (by omega)

end Apart

/-- The provider never has a byte on loan twice. -/
def Exclusive (uses : List Use) : Prop :=
  ∀ front, front <+: uses → (loans front).Pairwise Span.Apart

def Use.Touches (functions : Functions) (address : UInt64) : Use → Prop
  | .platform (.release first pages _) => (pagesSpan first pages).Covers address
  | .platform (.dirty first length) | .platform (.clean first length) =>
    Span.Covers ⟨first, length⟩ address
  | .platform (.call request _) =>
    ∃ kind first, request = handOut functions kind first ∧ Span.Covers ⟨first, kind.size⟩ address
  | .platform _ => False
  | .read span | .tell span => span.Covers address

def Ended (held : List Span) (address : UInt64) : Prop := ∀ loan ∈ held, ¬ loan.Covers address

section Released

variable {functions : Functions} {held : List Span} {use : Use} {address : UInt64}

theorem handOut_inj {kind other : TableKind} {first first' : UInt64}
    (h : handOut functions kind first = handOut functions other first') :
    kind = other ∧ first = first' := by
  by_cases hk : kind = other
  · subst hk
    have ha : (handOut functions kind first).argument 2 = first := (argument_handOut kind first).2.1
    rw [h, (argument_handOut kind first').2.1] at ha
    exact ⟨rfl, ha.symm⟩
  · exact absurd h (handOut_ne_handOut hk first first')

theorem Lent.not_ended {span : Span} (h : Lent held span) (hc : span.Covers address) :
    ¬ Ended held address := by
  obtain ⟨loan, hm, hw⟩ := h
  exact fun he => he loan hm (hw.covers hc)

theorem Licensed.not_touches (h : Licensed functions held use) (he : Ended held address) :
    ¬ use.Touches functions address := by
  intro ht
  cases use with
  | read span | tell span => exact Lent.not_ended h ht he
  | platform event =>
    cases event with
    | release first pages failure => exact he _ h ht
    | dirty first length | clean first length => exact Lent.not_ended h ht he
    | call request answer =>
      obtain ⟨kind, first, rfl, hc⟩ := ht
      rcases h with ⟨on, detector, hd⟩ | ⟨other, first', hr, hl⟩
      · exact detection_ne_handOut on detector kind first hd.symm
      · obtain ⟨rfl, rfl⟩ := handOut_inj hr
        exact hl.not_ended hc he
    | _ => exact ht

theorem ended_ledger (h : Ended held address)
    (hl : ∀ pages first, use = .platform (.allocate pages (.inl first)) →
      ¬ (pagesSpan first pages).Covers address) : Ended (ledger held use) address := by
  cases use with
  | platform event =>
    cases event with
    | allocate pages outcome =>
      cases outcome with
      | inl first =>
        intro loan hm
        rcases List.mem_append.1 hm with hm | hm
        · exact h loan hm
        · obtain rfl := List.mem_singleton.1 hm
          exact hl pages first rfl
      | inr e => exact h
    | release first pages failure =>
      cases failure with
      | none => exact fun loan hm => h loan (List.mem_of_mem_erase hm)
      | some e => exact h
    | _ => exact h
  | _ => exact h

theorem ended_foldl (uses : List Use) (h : Ended held address)
    (hl : ∀ pages first, .platform (.allocate pages (.inl first)) ∈ uses →
      ¬ (pagesSpan first pages).Covers address) : Ended (uses.foldl ledger held) address := by
  induction uses generalizing held with
  | nil => exact h
  | cons use uses ih =>
    refine ih (ended_ledger h fun pages first hu => ?_) fun pages first hm => ?_
    · exact hl pages first (hu ▸ List.mem_cons_self)
    · exact hl pages first (List.mem_cons_of_mem _ hm)

/-- The loan that a release ends was the only one with any of its bytes. -/
theorem ended_release {loan : Span} (hp : held.Pairwise Span.Apart) (h : loan ∈ held)
    (hc : loan.Covers address) : Ended (held.erase loan) address := by
  obtain ⟨before, after, -, rfl, he⟩ := List.exists_erase_eq h
  rw [he]
  obtain ⟨-, hl, hb⟩ := List.pairwise_append.1 hp
  obtain ⟨ha, -⟩ := List.pairwise_cons.1 hl
  intro another hn
  rcases List.mem_append.1 hn with hn | hn
  · exact (hb another hn loan List.mem_cons_self).symm.not_covers hc
  · exact (ha another hn).not_covers hc

end Released

section

variable {σ : Type} [ReservedMemory σ] [SecureMonitor σ] [DataCache σ] [RasPolling σ]

theorem FreeStep.cleared {store after : Store} {events : List Event} {r : Except Efi.Error Unit}
    (h : FreeStep store events r after) (hn : ∀ address pages e, .release address pages (some e) ∉ events) :
    r = .ok () ∧ after.ghes = none ∧ after.bert = none ∧ after.published = false := by
  cases h with
  | ghesRefused ghes e => exact absurd (.head _) (hn ghes.address _ e)
  | bertRefused bert e => exact absurd (List.mem_append_right _ (.head _)) (hn bert.address _ e)
  | done => exact ⟨rfl, rfl, rfl, rfl⟩

theorem call_init_of_isInitialized {store : Store} (h : store.isInitialized) (platform : σ) :
    call .init store platform = (⟨.init, [], .ok ()⟩, store, platform) := by
  have hr : (Operation.init.perform).run (store, ({ peer := platform } : Traced σ)) =
      .ok () (store, { peer := platform }) := by
    rw [Operation.perform, StoreAction.init, run_store_bind, if_pos h]
    rfl
  rw [call, hr]
  rfl

/-- Whatever the provider does, a run of calls and questions releases only what is on loan at that
point, all of its pages at once, and uses nothing else. If the provider has no byte on loan twice, no
byte of a released region is touched before it is lent again. An initialized store is not
initialized again, and a store that is freed without a refusal is left with nothing. -/
theorem released_regions_unused (visits : List Visit) (functions : Functions) (platform : σ) :
    (∀ front use back, uses visits { functions } platform = front ++ use :: back →
      Licensed functions (loans front) use) ∧
    (Exclusive (uses visits { functions } platform) → ∀ front first pages middle use back,
      uses visits { functions } platform =
        front ++ .platform (.release first pages none) :: (middle ++ use :: back) →
      pagesSpan first pages ∈ loans front ∧ ∀ address, (pagesSpan first pages).Covers address →
        (∀ count other, .platform (.allocate count (.inl other)) ∈ middle →
          ¬ (pagesSpan other count).Covers address) →
        ¬ use.Touches functions address) ∧
    (∀ (store : Store) (platform : σ), store.isInitialized →
      call .init store platform = (⟨.init, [], .ok ()⟩, store, platform)) ∧
    ∀ (store : Store) (platform : σ),
      let freed := call .free store platform
      (∀ first pages e, .release first pages (some e) ∉ freed.1.events) →
      freed.1.outcome = .ok () ∧ freed.2.1.ghes = none ∧ freed.2.1.bert = none ∧
        freed.2.1.published = false := by
  obtain ⟨last, hl, -⟩ := uses_borrow visits { functions } platform [] (List.Sublist.refl [])
  refine ⟨fun front use back he => hl.licensed he, ?_, ?_, ?_⟩
  · intro hx front first pages middle use back he
    have hm : Licensed functions (loans front) (.platform (.release first pages none)) :=
      hl.licensed he
    refine ⟨hm, fun address hv hn => ?_⟩
    have hu : Licensed functions
        ((front ++ .platform (.release first pages none) :: middle).foldl ledger []) use :=
      hl.licensed (by rw [he, List.append_assoc, List.cons_append])
    rw [List.foldl_append] at hu
    have hc : Ended ((loans front).erase (pagesSpan first pages)) address :=
      ended_release (hx front ⟨_, he.symm⟩) hm hv
    exact hu.not_touches (ended_foldl middle hc hn)
  · exact fun store platform hi => call_init_of_isInitialized hi platform
  · intro store platform freed hn
    exact FreeStep.cleared (call_step .free store platform) hn

end

def retried : List Visit :=
  [.call .init, .call (.enable true .atf), .call .free, .call .free, .call .init, .ask .table]

theorem released_regions_unused_retried :
    Exclusive (uses retried {} reluctantBoard) ∧
      ∃ front middle use, uses retried {} reluctantBoard =
          front ++ .platform (.release 0x80000000 9 none) :: (middle ++ [use]) ∧
        loans front = [⟨0x80000000, 36864⟩, ⟨0x8000A000, 4096⟩] ∧
        ¬ use.Touches {} 0x80000005 := by
  have hx : Exclusive (uses retried {} reluctantBoard) := by
    have hd : ∀ front ∈ (uses retried {} reluctantBoard).inits,
        (loans front).Pairwise Span.Apart := by decide +kernel
    exact fun front hf => hd front ((List.mem_inits _ _).2 hf)
  let front := (uses retried {} reluctantBoard).take 10
  let middle : List Use := [.platform (.release 0x8000A000 1 none),
    .platform (.allocate 9 (.inl 0x8000C000)), .platform (.allocate 1 (.inl 0x80016000)),
    .platform (.dirty 0x8000C000 36864), .platform (.dirty 0x80016000 4096)]
  have he : uses retried {} reluctantBoard = front ++ .platform (.release 0x80000000 9 none) ::
      (middle ++ [.read ⟨0x80016000, 1280⟩]) := by decide +kernel
  have hl : loans front = [⟨0x80000000, 36864⟩, ⟨0x8000A000, 4096⟩] := by decide +kernel
  obtain ⟨-, hu⟩ := (released_regions_unused retried {} reluctantBoard).2.1 hx front 0x80000000 9
    middle (.read ⟨0x80016000, 1280⟩) [] he
  refine ⟨hx, front, middle, _, he, hl, hu 0x80000005 (by decide) ?_⟩
  · intro pages first hf
    simp only [middle, List.mem_cons, Use.platform.injEq, Event.allocate.injEq, Sum.inl.injEq,
      reduceCtorEq, List.not_mem_nil, or_false, false_or] at hf
    rcases hf with ⟨rfl, rfl⟩ | ⟨rfl, rfl⟩ <;> decide

end PlatformFirmware.ErrorRecord
