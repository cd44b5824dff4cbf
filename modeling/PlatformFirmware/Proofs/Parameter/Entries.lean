import Mathlib.Data.List.Nodup
import Mathlib.Data.List.Perm.Subperm
import PlatformFirmware.Proofs.Parameter.Gate
import PlatformFirmware.Proofs.Parameter.History

namespace PlatformFirmware.Parameter

/-- What can be done to a store, with any identifiers and lists. A call may have any registers, and
a message any bytes. -/
inductive Access
  | get (id : UInt32) (readAcl : Acl)
  | set (id : UInt32) (readAcl writeAcl : Acl) (value : UInt32)
  | clear (id : UInt32) (writeAcl : Acl)
  | clearAll
  | apply (request : Request)
  | call (registers : SecureCall)
  | message (data : Bytes)

theorem Owner.serve_snd (owner : Owner) (request : Except Status Request) :
    (owner.serve request).2 =
      match request.toOption with
      | none => owner
      | some request => { owner with store := (owner.store.apply request).2 } := by
  cases request <;> rfl

namespace Access

def after (owner : Owner) : Access → Owner
  | get _ _ => owner
  | set id readAcl writeAcl value =>
    { owner with
      store := (owner.store.changed (owner.store.set id readAcl writeAcl value)).2 }
  | clear id writeAcl =>
    { owner with store := (owner.store.changed (owner.store.clear id writeAcl)).2 }
  | clearAll => { owner with store := owner.store.clearAll }
  | apply request => { owner with store := (owner.store.apply request).2 }
  | call registers => (SecureMonitor.call registers owner).2
  | message data => final ((Owner.handler data).run owner)

def request? (function : UInt32) : Access → Option Request
  | get id readAcl => some (.get id readAcl)
  | set id readAcl writeAcl value => some (.set id readAcl writeAcl value)
  | clear id writeAcl => some (.clear id writeAcl)
  | clearAll => some .clearAll
  | apply request => some request
  | call registers =>
    if registers.function = function then (Request.ofCall registers).toOption else none
  | message data => (Request.ofBytes data).toOption

/-- An access does what its request does, and nothing if it has none. -/
theorem after_eq (owner : Owner) (access : Access) :
    access.after owner =
      match access.request? owner.function with
      | none => owner
      | some request => { owner with store := (owner.store.apply request).2 } := by
  cases access with
  | get id readAcl =>
    have hg := (owner.store.apply_step (.get id readAcl)).eq_of_get rfl
    simp only [after, request?, hg]
  | set | clear | clearAll | apply => rfl
  | call registers =>
    simp only [after, request?, SecureMonitor.call]
    split
    · exact owner.serve_snd (Request.ofCall registers)
    · rfl
  | message data => exact owner.serve_snd (Request.ofBytes data)

theorem foldl_after (accesses : List Access) (owner : Owner) :
    accesses.foldl after owner =
      { owner with
        store := (Store.applyAll (accesses.filterMap (request? owner.function)) owner.store).2 } := by
  induction accesses generalizing owner with
  | nil => rfl
  | cons access accesses ih =>
    rw [List.foldl_cons, ih, after_eq]
    cases hr : access.request? owner.function with
    | none => rw [List.filterMap_cons_none hr]
    | some request =>
      rw [List.filterMap_cons_some hr]
      rfl

end Access

theorem Acl.intersects_self {acl : Acl} (h : acl.bits ≠ 0) : acl.intersects acl = true := by
  simpa [Acl.intersects] using h

namespace Store

structure Sound (store : Store) : Prop where
  valid : ∀ item ∈ store.table.entries, IsEntry item.1 ∧ item.2.writeAcl.bits ≠ 0
  nodup : store.table.keys.Nodup

theorem sound_empty : Sound {} := ⟨nofun, List.nodup_nil⟩

section

variable {store after : Store} {id : UInt32} {entry : Entry} {request : Request}
  {response : Response}

theorem Sound.of_find? (h : store.Sound) (hf : store.find? id = some entry) :
    IsEntry id ∧ entry.writeAcl.bits ≠ 0 :=
  h.valid (id, entry) (Table.mem_entries_of_get? hf)

theorem Sound.insert (h : store.Sound) (hi : IsEntry id) (hw : entry.writeAcl.bits ≠ 0) :
    Sound ⟨store.table.insert id entry⟩ := by
  refine ⟨List.forall_mem_cons.2 ⟨⟨hi, hw⟩, fun item hm => ?_⟩,
    Table.nodup_keys_insert h.nodup id entry⟩
  exact h.valid item (List.mem_of_mem_filter hm)

theorem Sound.erase (h : store.Sound) (id : UInt32) : Sound ⟨store.table.erase id⟩ :=
  ⟨fun item hm => h.valid item (List.mem_of_mem_filter hm), Table.nodup_keys_erase h.nodup id⟩

theorem Sound.step (h : store.Sound) (hs : Step store request response after) : after.Sound := by
  cases hs with
  | badId | denied | notSet | got | unowned | absent => exact h
  | created _ hi _ hw => exact h.insert ((Band.of?_ne_none_iff _).1 hi) (of_decide_eq_false hw)
  | updated entry _ _ hf =>
    obtain ⟨hi, hw⟩ := h.of_find? hf
    exact h.insert hi hw
  | cleared => exact h.erase _
  | emptied => exact sound_empty

theorem Sound.applyAll (h : store.Sound) (requests : List Request) :
    (Store.applyAll requests store).2.Sound := by
  induction requests generalizing store with
  | nil => exact h
  | cons request requests ih => exact ih (h.step (store.apply_step request))

/-- An entry takes eight of the 64 Ki bytes of the storage. -/
theorem Sound.size_le (h : store.Sound) : store.size ≤ 8192 := by
  have hv : ∀ id ∈ store.table.keys, IsEntry id := by
    intro id hi
    obtain ⟨item, hm, rfl⟩ := List.mem_map.1 hi
    exact (h.valid item hm).1
  -- entries start eight bytes apart, so no two of them have the same place in the storage
  have hd : (store.table.keys.map (·.toNat / 8)).Nodup := by
    refine h.nodup.map_on fun id hi other ho he => UInt32.toNat_inj.1 ?_
    have hm := (hv id hi).1
    have hm' := (hv other ho).1
    omega
  have hs : store.table.keys.map (·.toNat / 8) ⊆ List.range 8192 := by
    intro place hp
    obtain ⟨id, hi, rfl⟩ := List.mem_map.1 hp
    have hb := (hv id hi).2
    exact List.mem_range.2 (by omega)
  calc store.size = (store.table.keys.map (·.toNat / 8)).length := by
        simp [size, Table.size, Table.keys]
    _ ≤ (List.range 8192).length := (List.subperm_of_subset hd hs).length_le
    _ = 8192 := List.length_range

theorem Sound.set_owned (h : store.Sound) (hf : store.find? id = some entry) (readAcl : Acl)
    (value : UInt32) :
    ∃ after, store.set id readAcl entry.writeAcl value = .ok after ∧
      after.find? id = some { entry with value } := by
  obtain ⟨hi, hw⟩ := h.of_find? hf
  refine ⟨⟨store.table.insert id { entry with value }⟩, ?_, by rw [find?_insert, if_pos rfl]⟩
  rw [set, (requireId_eq_ok_iff id).2 hi, hf]
  exact if_pos (Acl.intersects_self hw)

theorem Sound.clear_owned (h : store.Sound) (hf : store.find? id = some entry) :
    ∃ after, store.clear id entry.writeAcl = .ok after ∧ after.find? id = none := by
  obtain ⟨hi, hw⟩ := h.of_find? hf
  refine ⟨⟨store.table.erase id⟩, ?_, by rw [find?_erase, if_pos rfl]⟩
  rw [clear, (requireId_eq_ok_iff id).2 hi, hf]
  exact if_pos (Acl.intersects_self hw)

end

end Store

/-- Whatever is done to an empty store, directly or through the owner of any function, its
identifiers are entries of the storage and none occurs twice, so there are no more than the storage
has room for. Nobody is ever locked out of a parameter: its write list is that of the first set since
it was last cleared, and with that list it can be set and cleared. -/
theorem store_entries_valid (function : UInt32) (accesses : List Access) :
    let store := (accesses.foldl Access.after { function }).store
    let served := (Store.applyAll (accesses.filterMap (Access.request? function)) {}).1
    (∀ item ∈ store.table.entries,
      item.1.toNat % 8 = 0 ∧ item.1.toNat < 0x10000 ∧ item.2.writeAcl.bits ≠ 0) ∧
    store.table.keys.Nodup ∧
    store.size ≤ 8192 ∧
    ∀ id entry, store.find? id = some entry →
      (∃ first later, History.liveSets id served = first :: later ∧
        first.writeAcl = entry.writeAcl) ∧
      (∀ readAcl value, ∃ after, store.set id readAcl entry.writeAcl value = .ok after ∧
        after.find? id = some { entry with value }) ∧
      ∃ after, store.clear id entry.writeAcl = .ok after ∧ after.find? id = none := by
  intro store served
  let requests := accesses.filterMap (Access.request? function)
  have he : store = (Store.applyAll requests {}).2 :=
    congrArg Owner.store (Access.foldl_after accesses { function })
  have h : store.Sound := he ▸ Store.sound_empty.applyAll requests
  have hx : History.Explains served store := he ▸ History.explains_applyAll requests
  refine ⟨fun item hm => ?_, h.nodup, h.size_le, fun id entry hf => ?_⟩
  · obtain ⟨⟨ha, hb⟩, hw⟩ := h.valid item hm
    exact ⟨ha, hb, hw⟩
  · exact ⟨hx.exists_creator hf, h.set_owned hf, h.clear_owned hf⟩

def rawAccesses : List Access :=
  [.call (.ofList Parameter.function [2, 0xFFF8, 0, 0x80000000, 7]),
    .call (.ofList Parameter.function [2, 0x10000, 1, 1, 7]),
    .message (Request.set 4 ⟨1⟩ ⟨1⟩ 7).toBytes, .message [2, 0, 0, 0, 8],
    .apply (.set 8 ⟨1⟩ .none 7), .set 0xFFF8 ⟨1⟩ ⟨1⟩ 9, .get 0xFFF8 ⟨1⟩, .clear 0xFFF8 ⟨0x7FFFFFFF⟩]

theorem store_entries_valid_raw :
    let store := (rawAccesses.foldl Access.after {}).store
    store.find? 0xFFF8 = some ⟨7, .none, ⟨0x80000000⟩⟩ ∧ store.size ≤ 8192 ∧
      (∃ after, store.set 0xFFF8 ⟨1⟩ ⟨0x80000000⟩ 8 = .ok after ∧
        after.find? 0xFFF8 = some ⟨8, .none, ⟨0x80000000⟩⟩) ∧
      ∃ after, store.clear 0xFFF8 ⟨0x80000000⟩ = .ok after ∧ after.find? 0xFFF8 = none := by
  intro store
  obtain ⟨-, -, hs, ho⟩ := store_entries_valid Parameter.function rawAccesses
  have hf : store.find? 0xFFF8 = some ⟨7, .none, ⟨0x80000000⟩⟩ := by decide
  obtain ⟨-, hw, hc⟩ := ho 0xFFF8 _ hf
  exact ⟨hf, hs, hw ⟨1⟩ 8, hc⟩

end PlatformFirmware.Parameter
