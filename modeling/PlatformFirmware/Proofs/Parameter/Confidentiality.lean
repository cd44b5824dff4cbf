import PlatformFirmware.Proofs.Parameter.History

namespace PlatformFirmware.Parameter

namespace Acl

def Within (acl other : Acl) : Prop := acl.bits &&& other.bits = acl.bits

theorem Within.meets {acl other : Acl} (h : acl.Within other) {list : Acl}
    (hl : list.intersects acl = true) : list.bits &&& other.bits ≠ 0 := by
  rw [Acl.intersects, decide_eq_true_eq] at hl
  intro hz
  apply hl
  rw [← h, UInt32.and_comm acl.bits, ← UInt32.and_assoc, hz, UInt32.zero_and]

end Acl

/-- The entries differ at most in a value that nobody in `reader` may read. -/
structure Entry.Alike (reader : Acl) (entry other : Entry) : Prop where
  readAcl : entry.readAcl = other.readAcl
  writeAcl : entry.writeAcl = other.writeAcl
  value : entry.readAcl.bits &&& reader.bits ≠ 0 → entry.value = other.value

theorem Entry.Alike.permits_eq {reader : Acl} {entry other : Entry} (h : entry.Alike reader other)
    (request : Request) : Store.permits entry request = Store.permits other request := by
  rw [Store.permits, Store.permits, h.readAcl, h.writeAcl]

namespace Store

def Alike (reader : Acl) (store other : Store) : Prop :=
  ∀ id, Option.Rel (Entry.Alike reader) (store.find? id) (other.find? id)

variable {reader : Acl} {store other : Store}

theorem Alike.insert (h : Alike reader store other) (id : UInt32) {entry entry' : Entry}
    (he : entry.Alike reader entry') :
    Alike reader ⟨store.table.insert id entry⟩ ⟨other.table.insert id entry'⟩ := by
  intro asked
  rw [find?_insert, find?_insert]
  split
  · exact .some he
  · exact h asked

theorem Alike.erase (h : Alike reader store other) (id : UInt32) :
    Alike reader ⟨store.table.erase id⟩ ⟨other.table.erase id⟩ := by
  intro asked
  rw [find?_erase, find?_erase]
  split
  · exact .none
  · exact h asked

theorem Alike.apply (h : Alike reader store other) {request : Request}
    (hr : request.operation = .get → request.readAcl.Within reader) :
    (store.apply request).1 = (other.apply request).1 ∧
      Alike reader (store.apply request).2 (other.apply request).2 := by
  by_cases hc : request.operation = .clearAll
  · rw [apply_clearAll store hc, apply_clearAll other hc]
    exact ⟨rfl, fun _ => .none⟩
  by_cases hi : Band.of? request.id = none
  · rw [apply_of_badId store hc hi, apply_of_badId other hc hi]
    exact ⟨rfl, h⟩
  have hf := h request.id
  generalize hs : store.find? request.id = found at hf
  generalize hs' : other.find? request.id = found' at hf
  cases ho : request.operation with
  | clearAll => exact absurd ho hc
  | get =>
    rw [apply_get store ho hi, apply_get other ho hi, hs, hs']
    cases hf with
    | none => exact ⟨rfl, h⟩
    | some he =>
      simp only [← he.permits_eq request]
      split
      · next hp =>
        -- the request has a context of the list, and the reader has all contexts of the request
        rw [permits, ho] at hp
        rw [he.value ((hr ho).meets hp)]
        exact ⟨rfl, h⟩
      · exact ⟨rfl, h⟩
  | set =>
    rw [apply_set store ho hi, apply_set other ho hi, hs, hs']
    cases hf with
    | none =>
      simp only
      split
      · exact ⟨rfl, h⟩
      · exact ⟨rfl, h.insert request.id ⟨rfl, rfl, fun _ => rfl⟩⟩
    | some he =>
      simp only [← he.permits_eq request]
      split
      · exact ⟨rfl, h.insert request.id ⟨he.readAcl, he.writeAcl, fun _ => rfl⟩⟩
      · exact ⟨rfl, h⟩
  | clear =>
    rw [apply_clear store ho hi, apply_clear other ho hi, hs, hs']
    cases hf with
    | none => exact ⟨rfl, h⟩
    | some he =>
      simp only [← he.permits_eq request]
      split
      · exact ⟨rfl, h.erase request.id⟩
      · exact ⟨rfl, h⟩

/-- A reader cannot tell two stores apart that differ only in values out of its reach: whoever else
sets and clears, the responses are the same and the stores stay alike. -/
theorem applyAll_alike (reader : Acl) (store other : Store) (requests : List Request)
    (h : Alike reader store other)
    (hr : ∀ request ∈ requests, request.operation = .get → request.readAcl.Within reader) :
    (applyAll requests store).1 = (applyAll requests other).1 ∧
      Alike reader (applyAll requests store).2 (applyAll requests other).2 := by
  induction requests generalizing store other with
  | nil => exact ⟨rfl, h⟩
  | cons request requests ih =>
    obtain ⟨hf, ha⟩ := h.apply (hr request (by simp))
    obtain ⟨hl, hs⟩ := ih _ _ ha fun later hm => hr later (List.mem_cons_of_mem request hm)
    refine ⟨?_, hs⟩
    simp only [applyAll, hf, hl]

def withSecret (secret : UInt32) : Store :=
  ⟨(Table.insert {} 0x100 ⟨5, ⟨1⟩, ⟨4⟩⟩).insert 0x108 ⟨secret, ⟨2⟩, ⟨4⟩⟩⟩

theorem withSecret_alike (secret other : UInt32) :
    Alike ⟨9⟩ (withSecret secret) (withSecret other) := by
  have he : Alike ⟨9⟩ {} {} := fun _ => .none
  have hs : ¬ (2 : UInt32) &&& 9 ≠ 0 := by decide
  exact (he.insert 0x100 ⟨rfl, rfl, fun _ => rfl⟩).insert 0x108
    ⟨rfl, rfl, fun h => absurd h hs⟩

def probes : List Request :=
  [.get 0x108 ⟨1⟩, .set 0x108 ⟨1⟩ ⟨4⟩ 6, .get 0x108 ⟨9⟩, .get 0x100 ⟨9⟩, .clear 0x108 ⟨4⟩,
    .get 0x108 ⟨1⟩, .set 0x108 ⟨8⟩ ⟨8⟩ 3, .get 0x108 ⟨8⟩]

theorem applyAll_alike_probes :
    (withSecret 7).find? 0x108 ≠ (withSecret 8).find? 0x108 ∧
      (applyAll probes (withSecret 7)).1 = (applyAll probes (withSecret 8)).1 := by
  refine ⟨by decide, (applyAll_alike ⟨9⟩ _ _ probes (withSecret_alike 7 8) ?_).1⟩
  unfold Acl.Within
  decide

end Store

end PlatformFirmware.Parameter
