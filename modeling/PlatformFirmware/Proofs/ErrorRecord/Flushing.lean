import PlatformFirmware.Proofs.ErrorRecord.Conservation
import PlatformFirmware.Proofs.ErrorRecord.Formatting

namespace PlatformFirmware.ErrorRecord

structure Span where
  address : UInt64
  length : Nat
  deriving DecidableEq, Repr

/-- Addresses wrap around, as their sums do. -/
def Span.Covers (span : Span) (address : UInt64) : Prop :=
  (address - span.address).toNat < span.length

instance (span : Span) (address : UInt64) : Decidable (span.Covers address) :=
  inferInstanceAs (Decidable (_ < _))

def pagesSpan (address : UInt64) (pages : Nat) : Span := ⟨address, pages * Efi.Page.bytes⟩

def regionSpan {pages : Nat} (region : Region pages) : Span := pagesSpan region.address pages

def slotSpan (region : Region Layout.bertPages) (slot : Nat) : Span :=
  ⟨region.address + UInt64.ofNat (Layout.slotOffset slot), Layout.slotSize⟩

theorem regionSpan_formatGhes {pages : Nat} (region : Region pages) :
    regionSpan (formatGhes region) = regionSpan region := by
  rw [regionSpan, address_formatGhes]
  rfl

theorem regionSpan_formatBert {pages : Nat} (region : Region pages) :
    regionSpan (formatBert region) = regionSpan region := rfl

def dirtied? : Event → Option Span
  | .dirty address length => some ⟨address, length⟩
  | _ => none

theorem dirtied?_rewritten {pages : Nat} (region : Region pages) :
    dirtied? (rewritten region) = some (regionSpan region) := rfl

/-- After each write of the byte there is a cleaning that covers it. -/
def Flushed (address : UInt64) (events : List Event) : Prop :=
  ∀ front first length back, events = front ++ .dirty first length :: back →
    Span.Covers ⟨first, length⟩ address →
    ∃ cleaned size, .clean cleaned size ∈ back ∧ Span.Covers ⟨cleaned, size⟩ address

def Unwritten (events : List Event) : Prop := ∀ first length, .dirty first length ∉ events

section Flushed

variable {address first : UInt64} {length : Nat} {events later : List Event}

theorem Unwritten.append (h : Unwritten events) (h' : Unwritten later) :
    Unwritten (events ++ later) := by
  intro first length hm
  exact (List.mem_append.1 hm).elim (h first length) (h' first length)

theorem Unwritten.flushed (h : Unwritten events) (address : UInt64) : Flushed address events := by
  rintro front first length back rfl
  exact absurd (by simp) (h first length)

theorem Flushed.append (h : Flushed address events) (h' : Flushed address later) :
    Flushed address (events ++ later) := by
  intro front first length back he hc
  rcases List.append_eq_append_iff.1 he with ⟨middle, rfl, rfl⟩ | ⟨middle, rfl, hm⟩
  · exact h' middle first length back rfl hc
  · cases middle with
    | nil => exact h' [] first length back hm.symm hc
    | cons event middle =>
      obtain ⟨rfl, rfl⟩ := List.cons.inj hm
      obtain ⟨cleaned, size, hi, hv⟩ := h front first length middle rfl hc
      exact ⟨cleaned, size, List.mem_append_left _ hi, hv⟩

/-- Whatever was written before, a cleaning covers it. -/
theorem flushed_append_of_clean {cleaned : UInt64} {size : Nat} (h : Flushed address later)
    (hm : .clean cleaned size ∈ later) (hc : Span.Covers ⟨cleaned, size⟩ address) :
    Flushed address (events ++ later) := by
  intro front first length back he hs
  rcases List.append_eq_append_iff.1 he with ⟨middle, rfl, rfl⟩ | ⟨middle, rfl, hb⟩
  · exact h middle first length back rfl hs
  · cases middle with
    | nil => exact h [] first length back hb.symm hs
    | cons event middle =>
      obtain ⟨rfl, rfl⟩ := List.cons.inj hb
      exact ⟨cleaned, size, List.mem_append_right _ hm, hc⟩

theorem flushed_dirty_clean (address first : UInt64) (length : Nat) :
    Flushed address [.dirty first length, .clean first length] := by
  intro front other size back he hc
  cases front with
  | nil =>
    cases he
    exact ⟨first, length, List.mem_singleton_self _, hc⟩
  | cons event front =>
    obtain ⟨-, he⟩ := List.cons.inj he
    have hn : Unwritten [.clean first length] := by simp [Unwritten]
    exact hn.flushed address front other size back he hc

end Flushed

/-- The region after a call was written as a whole, or is the region before it, with the same bytes
outside of the spans. -/
def Kept {pages : Nat} (spans : List Span) (before after : Option (Region pages)) : Prop :=
  ∀ region, after = some region → regionSpan region ∈ spans ∨
    ∃ old, before = some old ∧ old.address = region.address ∧
      ∀ offset, (∃ span ∈ spans, span.Covers (region.address + UInt64.ofNat offset)) ∨
        old.bytes[offset]? = region.bytes[offset]?

theorem kept_refl {pages : Nat} (spans : List Span) (region : Option (Region pages)) :
    Kept spans region region := fun now h => .inr ⟨now, h, rfl, fun _ => .inr rfl⟩

theorem kept_none {pages : Nat} (spans : List Span) (region : Option (Region pages)) :
    Kept spans region none := nofun

theorem slotSpan_covers (region : Region Layout.bertPages) {slot offset : Nat}
    (hl : Layout.slotOffset slot ≤ offset)
    (hu : offset < Layout.slotOffset slot + Layout.slotSize) :
    (slotSpan region slot).Covers (region.address + UInt64.ofNat offset) := by
  obtain ⟨inner, rfl⟩ := Nat.exists_eq_add_of_le hl
  have hi : inner < Layout.slotSize := by omega
  have hd : region.address + UInt64.ofNat (Layout.slotOffset slot + inner) -
      (region.address + UInt64.ofNat (Layout.slotOffset slot)) = UInt64.ofNat inner := by
    rw [UInt64.ofNat_add, ← UInt64.add_assoc, UInt64.add_comm (_ + _) (UInt64.ofNat inner),
      UInt64.add_sub_cancel]
  rw [Span.Covers, slotSpan, hd, UInt64.toNat_ofNat_of_lt' (Nat.lt_trans hi (by decide))]
  exact hi

section Steps

variable {store after : Store} {events : List Event} {r : Except Efi.Error Unit}

theorem unwritten_released {pages : Nat} (region : Option (Region pages)) :
    Unwritten (released region) := by
  cases region <;> simp [Unwritten, released]

theorem FreeStep.unwritten (h : FreeStep store events r after) : Unwritten events := by
  cases h with
  | ghesRefused => simp [Unwritten]
  | bertRefused => exact (unwritten_released _).append (by simp [Unwritten])
  | done => exact (unwritten_released _).append (unwritten_released _)

theorem PublishStep.unwritten (h : PublishStep store events r after) : Unwritten events := by
  cases h <;> simp [Unwritten, publication]

theorem DetectStep.unwritten {functions : Functions} {on : Bool} {detector : Detector}
    (h : DetectStep functions on detector events r) : Unwritten events := by
  cases h <;> simp [Unwritten]

theorem FreeStep.kept (h : FreeStep store events r after) (spans : List Span) :
    Kept spans store.ghes after.ghes ∧ Kept spans store.bert after.bert := by
  cases h with
  | ghesRefused => exact ⟨kept_refl _ _, kept_refl _ _⟩
  | bertRefused => exact ⟨kept_none _ _, kept_refl _ _⟩
  | done => exact ⟨kept_none _ _, kept_none _ _⟩

theorem Operation.Step.kept {operation : Operation} (h : operation.Step store events r after) :
    Kept (events.filterMap dirtied?) store.ghes after.ghes ∧
      Kept (events.filterMap dirtied?) store.bert after.bert := by
  cases operation with
  | init =>
    cases h with
    | initialized => exact ⟨kept_refl _ _, kept_refl _ _⟩
    | notFreed _ hf | noGhes _ _ hf | noBert _ _ _ _ hf => exact hf.kept _
    | done ghes bert =>
      constructor
      · rintro _ ⟨⟩
        rw [regionSpan_formatGhes]
        exact .inl (List.mem_filterMap.2 ⟨_, by simp, dirtied?_rewritten ghes⟩)
      · rintro _ ⟨⟩
        rw [regionSpan_formatBert]
        exact .inl (List.mem_filterMap.2 ⟨_, by simp, dirtied?_rewritten bert⟩)
  | free => exact FreeStep.kept h _
  | enable on detector =>
    cases h with
    | notPublished _ hp => cases hp <;> exact ⟨kept_refl _ _, kept_refl _ _⟩
    | published _ hp _ => cases hp; exact ⟨kept_refl _ _, kept_refl _ _⟩
    | off => exact ⟨kept_refl _ _, kept_refl _ _⟩
  | record error =>
    cases h with
    | notReady | full => exact ⟨kept_refl _ _, kept_refl _ _⟩
    | written bert slot hb hs =>
      refine ⟨kept_refl _ _, ?_⟩
      rintro _ ⟨⟩
      refine .inr ⟨bert, hb, rfl, fun offset => ?_⟩
      by_cases ho : Layout.slotOffset slot ≤ offset ∧
          offset < Layout.slotOffset slot + Layout.slotSize
      · exact .inl ⟨slotSpan bert slot, .head _, slotSpan_covers bert ho.1 ho.2⟩
      · refine .inr ?_
        rw [Region.write, Bytes.getElem?_write, error.length_slot, if_neg (by omega)]

end Steps

end PlatformFirmware.ErrorRecord
