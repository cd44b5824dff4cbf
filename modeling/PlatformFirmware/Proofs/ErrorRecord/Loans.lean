import PlatformFirmware.Proofs.ErrorRecord.Announcement
import PlatformFirmware.Proofs.ErrorRecord.Flushing

namespace PlatformFirmware.ErrorRecord

def Span.Within (span other : Span) : Prop :=
  ∃ offset, span.address = other.address + UInt64.ofNat offset ∧
    offset + span.length ≤ other.length

theorem Span.within_front {address : UInt64} {length size : Nat} (h : length ≤ size) :
    Within ⟨address, length⟩ ⟨address, size⟩ :=
  ⟨0, (UInt64.add_zero address).symm, (Nat.zero_add length).symm ▸ h⟩

theorem Span.within_refl (span : Span) : span.Within span := within_front (Nat.le_refl _)

theorem slotSpan_within (region : Region Layout.bertPages) {slot : Nat}
    (h : slot < Layout.bertSlots) : (slotSpan region slot).Within (regionSpan region) :=
  ⟨_, rfl, Nat.le_trans (Layout.slotOffset_add_le h) Layout.bertSize_le⟩

/-- What is done with memory: what the platform sees of it, what is looked at, and whose address is
told. -/
inductive Use
  | platform (event : Event)
  | read (span : Span)
  | tell (span : Span)
  deriving DecidableEq, Repr

def ledger (held : List Span) : Use → List Span
  | .platform (.allocate pages (.inl address)) => held ++ [pagesSpan address pages]
  | .platform (.release address pages none) => held.erase (pagesSpan address pages)
  | _ => held

def loans (uses : List Use) : List Span := uses.foldl ledger []

def Lent (held : List Span) (span : Span) : Prop := ∃ loan ∈ held, span.Within loan

/-- The use keeps within the loans, and a release gives back the whole of one. A secure monitor call
either has no address in it or hands out a table. -/
def Licensed (functions : Functions) (held : List Span) : Use → Prop
  | .platform (.release address pages _) => pagesSpan address pages ∈ held
  | .platform (.dirty address length) | .platform (.clean address length) =>
    Lent held ⟨address, length⟩
  | .platform (.call request _) =>
    (∃ on detector, request = detection functions on detector) ∨
      ∃ kind address, request = handOut functions kind address ∧ Lent held ⟨address, kind.size⟩
  | .platform _ => True
  | .read span | .tell span => Lent held span

/-- What a call does with memory. A record looks through the table. It neither borrows nor gives back,
so that it makes no difference when. -/
def Operation.uses (operation : Operation) (store : Store) (events : List Event) : List Use :=
  match operation with
  | record _ =>
    (store.bert.map fun bert => Use.read ⟨bert.address, Layout.bertSize⟩).toList ++
      events.map .platform
  | init | free | enable _ _ => events.map .platform

inductive Lawful (functions : Functions) : List Span → List Use → List Span → Prop
  | nil (held : List Span) : Lawful functions held [] held
  | cons {held last : List Span} {use : Use} {uses : List Use} (h : Licensed functions held use)
      (hl : Lawful functions (ledger held use) uses last) : Lawful functions held (use :: uses) last

/-- Who has some memory on loan may make the uses, and has other memory on loan after them. There
may be more loans, which nobody remembers. -/
def Borrows (functions : Functions) (before : List Span) (uses : List Use) (after : List Span) :
    Prop :=
  ∀ held, before.Sublist held → ∃ last, Lawful functions held uses last ∧ after.Sublist last

section Lawful

variable {functions : Functions} {held middle last : List Span} {use : Use} {uses later : List Use}

theorem Lawful.append (h : Lawful functions held uses middle)
    (h' : Lawful functions middle later last) : Lawful functions held (uses ++ later) last := by
  induction h with
  | nil => exact h'
  | cons hu _ ih => exact .cons hu (ih h')

theorem Lawful.licensed (h : Lawful functions held uses last) {front back : List Use}
    (he : uses = front ++ use :: back) : Licensed functions (front.foldl ledger held) use := by
  induction h generalizing front with
  | nil => simp at he
  | cons hu _ ih =>
    cases front with
    | nil =>
      obtain ⟨rfl, -⟩ := List.cons.inj he
      exact hu
    | cons first front =>
      obtain ⟨rfl, hr⟩ := List.cons.inj he
      exact ih hr

theorem lent_of_mem {span : Span} (h : span ∈ held) : Lent held span :=
  ⟨span, h, span.within_refl⟩

theorem Lent.mono {span : Span} (h : Lent held span) (hs : held ⊆ last) : Lent last span := by
  obtain ⟨loan, hm, hw⟩ := h
  exact ⟨loan, hs hm, hw⟩

theorem Licensed.mono (h : Licensed functions held use) (hs : held ⊆ last) :
    Licensed functions last use := by
  cases use with
  | read span | tell span => exact Lent.mono h hs
  | platform event =>
    cases event with
    | release address pages failure => exact hs h
    | dirty address length | clean address length => exact Lent.mono h hs
    | call request answer =>
      rcases h with hd | ⟨kind, address, hr, hl⟩
      · exact .inl hd
      · exact .inr ⟨kind, address, hr, hl.mono hs⟩
    | _ => trivial

end Lawful

section Borrows

variable {functions : Functions} {owned middle last : List Span} {use : Use}
  {uses later : List Use}

theorem borrows_nil (owned : List Span) : Borrows functions owned [] owned :=
  fun held h => ⟨held, .nil held, h⟩

theorem Borrows.append (h : Borrows functions owned uses middle)
    (h' : Borrows functions middle later last) : Borrows functions owned (uses ++ later) last := by
  intro held ho
  obtain ⟨between, hl, hm⟩ := h held ho
  obtain ⟨final, hl', hf⟩ := h' between hm
  exact ⟨final, hl.append hl', hf⟩

theorem Borrows.forget (h : Borrows functions owned uses middle) (hs : last.Sublist middle) :
    Borrows functions owned uses last := by
  intro held ho
  obtain ⟨between, hl, hm⟩ := h held ho
  exact ⟨between, hl, hs.trans hm⟩

/-- A use of what is owned that neither hands out nor takes back. -/
theorem borrows_use (h : Licensed functions owned use) (hs : ∀ held, ledger held use = held) :
    Borrows functions owned [use] owned := by
  intro held ho
  refine ⟨held, .cons (h.mono ho.subset) ?_, ho⟩
  rw [hs]
  exact .nil held

theorem borrows_allocated (owned : List Span) (pages : Nat) (address : UInt64) :
    Borrows functions owned [.platform (.allocate pages (.inl address))]
      (owned ++ [pagesSpan address pages]) :=
  fun held h =>
    ⟨held ++ [pagesSpan address pages], .cons trivial (.nil _), h.append (List.Sublist.refl _)⟩

theorem borrows_unallocated (owned : List Span) (pages : Nat) (e : Efi.Error) :
    Borrows functions owned [.platform (.allocate pages (.inr e))] owned :=
  borrows_use trivial fun _ => rfl

theorem borrows_refused {pages : Nat} {region : Region pages} (h : regionSpan region ∈ owned)
    (e : Efi.Error) :
    Borrows functions owned [.platform (.release region.address pages (some e))] owned :=
  borrows_use h fun _ => rfl

theorem borrows_rewritten {pages : Nat} {region : Region pages} (h : regionSpan region ∈ owned) :
    Borrows functions owned [.platform (rewritten region)] owned :=
  borrows_use (lent_of_mem h) fun _ => rfl

/-- If the same pages are on loan twice, it may be the other loan that ends. What is left covers the
others all the same. -/
theorem borrows_released {pages : Nat} (region : Option (Region pages)) (others : List Span) :
    Borrows functions ((region.map regionSpan).toList ++ others)
      ((released region).map .platform) others := by
  cases region with
  | none => exact borrows_nil others
  | some region =>
    intro held h
    have hm : regionSpan region ∈ held := h.subset List.mem_cons_self
    refine ⟨held.erase (regionSpan region), .cons hm (.nil _), ?_⟩
    have he : List.Sublist _ (held.erase (regionSpan region)) := h.erase (regionSpan region)
    rwa [Option.map_some, Option.toList_some, List.singleton_append, List.erase_cons_head] at he

/-- Given back or refused, the region is not relied on any more. -/
theorem borrows_given_back {pages : Nat} (region : Region pages) (failure : Option Efi.Error) :
    Borrows functions [regionSpan region] [.platform (.release region.address pages failure)] [] := by
  cases failure with
  | none => exact borrows_released (some region) []
  | some e => exact (borrows_refused (List.mem_singleton_self _) e).forget (List.nil_sublist _)

end Borrows

def Store.regions (store : Store) : List Span :=
  (store.ghes.map regionSpan).toList ++ (store.bert.map regionSpan).toList

section Owned

variable {store : Store} {ghes : Region Layout.ghesPages} {bert : Region Layout.bertPages}

theorem Store.ghes_mem_regions (h : store.ghes = some ghes) : regionSpan ghes ∈ store.regions := by
  simp [regions, h]

theorem Store.bert_mem_regions (h : store.bert = some bert) : regionSpan bert ∈ store.regions := by
  simp [regions, h]

theorem Store.regions_of_some (hg : store.ghes = some ghes) (hb : store.bert = some bert) :
    store.regions = [regionSpan ghes, regionSpan bert] := by
  rw [Store.regions, hg, hb]
  rfl

theorem lent_of_ghes (h : store.ghes = some ghes) {span : Span}
    (hw : span.Within (regionSpan ghes)) : Lent store.regions span :=
  ⟨_, Store.ghes_mem_regions h, hw⟩

theorem lent_of_bert (h : store.bert = some bert) {span : Span}
    (hw : span.Within (regionSpan bert)) : Lent store.regions span :=
  ⟨_, Store.bert_mem_regions h, hw⟩

theorem lent_ghes_table (h : store.ghes = some ghes) :
    Lent store.regions ⟨ghes.address, Layout.ghesSize⟩ :=
  lent_of_ghes h (Span.within_front Layout.ghesSize_le)

theorem lent_bert_table (h : store.bert = some bert) :
    Lent store.regions ⟨bert.address, Layout.bertSize⟩ :=
  lent_of_bert h (Span.within_front Layout.bertSize_le)

end Owned

section Steps

variable {functions : Functions} {store after : Store} {events : List Event}
  {r : Except Efi.Error Unit}

theorem FreeStep.borrows (h : FreeStep store events r after) :
    Borrows functions store.regions (events.map .platform) after.regions := by
  cases h with
  | ghesRefused ghes e hg => exact borrows_refused (Store.ghes_mem_regions hg) e
  | bertRefused bert e hb =>
    have hm : regionSpan bert ∈ (store.bert.map regionSpan).toList := by simp [hb]
    rw [List.map_append]
    exact (borrows_released _ _).append (borrows_refused hm e)
  | done =>
    have hb : Borrows functions ((store.bert.map regionSpan).toList ++ []) _ [] :=
      borrows_released store.bert []
    rw [List.append_nil] at hb
    rw [List.map_append]
    exact (borrows_released _ _).append hb

theorem FreeStep.regions_eq_nil (h : FreeStep store events (.ok ()) after) :
    after.regions = [] := by
  cases h
  rfl

theorem FreeStep.borrows_of_ok (h : FreeStep store events (.ok ()) after) :
    Borrows functions store.regions (events.map .platform) [] :=
  h.regions_eq_nil ▸ h.borrows

theorem InitStep.borrows (h : InitStep store events r after) :
    Borrows functions store.regions (events.map .platform) after.regions := by
  cases h with
  | initialized => exact borrows_nil _
  | notFreed _ hf => exact hf.borrows
  | noGhes e hn hf =>
    rw [List.map_append]
    exact hf.borrows.append (borrows_unallocated _ _ e)
  | @noBert events after ghes e failure hn hf =>
    have ha : Borrows functions [] [.platform (.allocate Layout.ghesPages (.inl ghes.address)),
        .platform (.allocate Layout.bertPages (.inr e))] [regionSpan ghes] :=
      (borrows_allocated [] _ _).append (borrows_unallocated _ _ e)
    have hr : Borrows functions [regionSpan ghes] _ [] := borrows_given_back ghes failure
    rw [hf.regions_eq_nil, List.map_append]
    exact hf.borrows_of_ok.append (ha.append hr)
  | @done events middle ghes bert hn hf =>
    have ha : Borrows functions [] [.platform (.allocate Layout.ghesPages (.inl ghes.address)),
        .platform (.allocate Layout.bertPages (.inl bert.address))]
        [regionSpan ghes, regionSpan bert] :=
      (borrows_allocated [] _ _).append (borrows_allocated _ _ _)
    have hs : Store.regions
        { middle with ghes := some (formatGhes ghes), bert := some (formatBert bert) } =
        [regionSpan ghes, regionSpan bert] := by
      rw [Store.regions_of_some rfl rfl, regionSpan_formatGhes, regionSpan_formatBert]
    have hg : Borrows functions [regionSpan ghes, regionSpan bert] [.platform (rewritten ghes)] _ :=
      borrows_rewritten (.head _)
    have hb : Borrows functions [regionSpan ghes, regionSpan bert] [.platform (rewritten bert)] _ :=
      borrows_rewritten (.tail _ (.head _))
    rw [hs, List.map_append]
    exact hf.borrows_of_ok.append (ha.append (hg.append hb))

theorem borrows_publication (kind : TableKind) {owned : List Span} {address : UInt64}
    (a : SecureCall.Answer) (h : Lent owned ⟨address, kind.size⟩) :
    Borrows functions owned ((publication functions kind address kind.size a).map .platform)
      owned := by
  have hc : Borrows functions owned [.platform (.clean address kind.size)] owned :=
    borrows_use h fun _ => rfl
  exact hc.append (borrows_use (.inr ⟨kind, address, rfl, h⟩) fun _ => rfl)

theorem PublishStep.borrows (h : PublishStep store events r after) :
    Borrows store.functions store.regions (events.map .platform) after.regions := by
  cases h with
  | notReady => exact borrows_nil _
  | ghesRefused ghes a e hi hg ha => exact borrows_publication .ghes a (lent_ghes_table hg)
  | bertRefused ghes bert a b e hg hb | done ghes bert a b hg hb =>
    rw [List.map_append]
    exact (borrows_publication .ghes a (lent_ghes_table hg)).append
      (borrows_publication .bert b (lent_bert_table hb))

theorem DetectStep.borrows {on : Bool} {detector : Detector}
    (h : DetectStep functions on detector events r) (owned : List Span) :
    Borrows functions owned (events.map .platform) owned := by
  have hd (a : SecureCall.Answer) :
      Borrows functions owned [.platform (.call (detection functions on detector) a)] owned :=
    borrows_use (.inl ⟨on, detector, rfl⟩) fun _ => rfl
  cases h with
  | refused a | silent a => exact hd a
  | polling a => exact (hd a).append (borrows_use trivial fun _ => rfl)

theorem EnableStep.borrows {on : Bool} {detector : Detector}
    (h : EnableStep on detector store events r after) :
    Borrows store.functions store.regions (events.map .platform) after.regions := by
  cases h with
  | notPublished _ hp => exact hp.borrows
  | published _ hp hd =>
    rw [List.map_append]
    exact hp.borrows.append (hd.borrows _)
  | off _ hd => exact hd.borrows _

theorem RecordStep.borrows {error : BootError} (h : RecordStep error store events r after) :
    Borrows functions store.regions ((Operation.record error).uses store events) after.regions := by
  cases h with
  | notReady hb =>
    rw [Operation.uses, hb]
    exact borrows_nil _
  | full bert hb hs =>
    rw [Operation.uses, hb]
    exact borrows_use (lent_bert_table hb) fun _ => rfl
  | written bert slot hb hs =>
    have hl : slot < Layout.bertSlots := List.mem_range.1 (List.mem_of_find?_eq_some hs)
    have hw : Lent store.regions (slotSpan bert slot) := lent_of_bert hb (slotSpan_within bert hl)
    have hr : Borrows functions store.regions [.read ⟨bert.address, Layout.bertSize⟩]
        store.regions := borrows_use (lent_bert_table hb) fun _ => rfl
    have hu : Borrows functions store.regions
        [.platform (.dirty (slotSpan bert slot).address Layout.slotSize)] store.regions :=
      borrows_use hw fun _ => rfl
    have hk : Store.regions { store with
        bert := some (bert.write (Layout.slotOffset slot) error.slot) } = store.regions := by
      rw [Store.regions, Store.regions, hb]
      rfl
    rw [hk, Operation.uses, hb, List.map_cons]
    refine hr.append (hu.append ?_)
    split
    · exact borrows_use hw fun _ => rfl
    · exact borrows_nil _

theorem Operation.Step.borrows {operation : Operation} (h : operation.Step store events r after) :
    Borrows store.functions store.regions (operation.uses store events) after.regions := by
  cases operation with
  | init => exact InitStep.borrows h
  | free => exact FreeStep.borrows h
  | enable on detector => exact EnableStep.borrows h
  | record error => exact RecordStep.borrows h

end Steps

end PlatformFirmware.ErrorRecord
