import PlatformFirmware.Parameter.Store

namespace PlatformFirmware.Parameter.Store

def permits (entry : Entry) (request : Request) : Bool :=
  match request.operation with
  | .get => entry.readAcl.intersects request.readAcl
  | .set => entry.writeAcl.intersects request.writeAcl
  | .clear => entry.writeAcl.intersects request.writeAcl
  | .clearAll => true

inductive Step (store : Store) (request : Request) : Response → Store → Prop
  | badId (ho : request.operation ≠ .clearAll) (hi : Band.of? request.id = none) :
      Step store request ⟨.invalid, 0⟩ store
  | denied (entry : Entry) (ho : request.operation ≠ .clearAll) (hi : Band.of? request.id ≠ none)
      (hf : store.find? request.id = some entry) (hp : permits entry request = false) :
      Step store request ⟨.noPermission, 0⟩ store
  | notSet (ho : request.operation = .get) (hi : Band.of? request.id ≠ none)
      (hf : store.find? request.id = none) : Step store request ⟨.notSet, 0⟩ store
  | got (entry : Entry) (ho : request.operation = .get) (hi : Band.of? request.id ≠ none)
      (hf : store.find? request.id = some entry) (hp : permits entry request = true) :
      Step store request ⟨.success, entry.value⟩ store
  | unowned (ho : request.operation = .set) (hi : Band.of? request.id ≠ none)
      (hf : store.find? request.id = none) (hw : request.writeAcl.isEmpty = true) :
      Step store request ⟨.invalid, 0⟩ store
  | created (ho : request.operation = .set) (hi : Band.of? request.id ≠ none)
      (hf : store.find? request.id = none) (hw : request.writeAcl.isEmpty = false) :
      Step store request ⟨.success, 0⟩
        ⟨store.table.insert request.id ⟨request.value, request.readAcl, request.writeAcl⟩⟩
  | updated (entry : Entry) (ho : request.operation = .set) (hi : Band.of? request.id ≠ none)
      (hf : store.find? request.id = some entry) (hp : permits entry request = true) :
      Step store request ⟨.success, 0⟩
        ⟨store.table.insert request.id { entry with value := request.value }⟩
  | absent (ho : request.operation = .clear) (hi : Band.of? request.id ≠ none)
      (hf : store.find? request.id = none) : Step store request ⟨.success, 0⟩ store
  | cleared (entry : Entry) (ho : request.operation = .clear) (hi : Band.of? request.id ≠ none)
      (hf : store.find? request.id = some entry) (hp : permits entry request = true) :
      Step store request ⟨.success, 0⟩ ⟨store.table.erase request.id⟩
  | emptied (ho : request.operation = .clearAll) : Step store request ⟨.success, 0⟩ {}

section

variable (store : Store) {request : Request}

theorem requireId_of_ne (hi : Band.of? request.id ≠ none) : requireId request.id = .ok () := by
  obtain ⟨band, hb⟩ := Option.ne_none_iff_exists'.1 hi
  rw [requireId, hb]

theorem apply_of_badId (ho : request.operation ≠ .clearAll) (hi : Band.of? request.id = none) :
    store.apply request = (⟨.invalid, 0⟩, store) := by
  have hr : requireId request.id = .error .invalid := by rw [requireId, hi]
  cases hc : request.operation with
  | get =>
    rw [apply, hc, Store.get, hr]
    rfl
  | set =>
    rw [apply, hc, Store.set, hr]
    rfl
  | clear =>
    rw [apply, hc, Store.clear, hr]
    rfl
  | clearAll => exact absurd hc ho

theorem apply_get (ho : request.operation = .get) (hi : Band.of? request.id ≠ none) :
    store.apply request =
      match store.find? request.id with
      | none => (⟨.notSet, 0⟩, store)
      | some entry =>
        if permits entry request then (⟨.success, entry.value⟩, store)
        else (⟨.noPermission, 0⟩, store) := by
  rw [apply, ho, Store.get, requireId_of_ne hi]
  cases store.find? request.id with
  | none => rfl
  | some entry =>
    have hp : permits entry request = entry.readAcl.intersects request.readAcl := by
      rw [permits, ho]
    simp only [hp]
    cases entry.readAcl.intersects request.readAcl <;> rfl

theorem apply_set (ho : request.operation = .set) (hi : Band.of? request.id ≠ none) :
    store.apply request =
      match store.find? request.id with
      | none =>
        if request.writeAcl.isEmpty then (⟨.invalid, 0⟩, store)
        else (⟨.success, 0⟩,
          ⟨store.table.insert request.id ⟨request.value, request.readAcl, request.writeAcl⟩⟩)
      | some entry =>
        if permits entry request then
          (⟨.success, 0⟩, ⟨store.table.insert request.id { entry with value := request.value }⟩)
        else (⟨.noPermission, 0⟩, store) := by
  rw [apply, ho, Store.set, requireId_of_ne hi]
  cases store.find? request.id with
  | none => cases request.writeAcl.isEmpty <;> rfl
  | some entry =>
    have hp : permits entry request = entry.writeAcl.intersects request.writeAcl := by
      rw [permits, ho]
    simp only [hp]
    cases entry.writeAcl.intersects request.writeAcl <;> rfl

theorem apply_clear (ho : request.operation = .clear) (hi : Band.of? request.id ≠ none) :
    store.apply request =
      match store.find? request.id with
      | none => (⟨.success, 0⟩, store)
      | some entry =>
        if permits entry request then (⟨.success, 0⟩, ⟨store.table.erase request.id⟩)
        else (⟨.noPermission, 0⟩, store) := by
  rw [apply, ho, Store.clear, requireId_of_ne hi]
  cases store.find? request.id with
  | none => rfl
  | some entry =>
    have hp : permits entry request = entry.writeAcl.intersects request.writeAcl := by
      rw [permits, ho]
    simp only [hp]
    cases entry.writeAcl.intersects request.writeAcl <;> rfl

theorem apply_clearAll (ho : request.operation = .clearAll) :
    store.apply request = (⟨.success, 0⟩, {}) := by
  rw [apply, ho]
  rfl

end

theorem apply_step (store : Store) (request : Request) :
    Step store request (store.apply request).1 (store.apply request).2 := by
  by_cases hc : request.operation = .clearAll
  · rw [apply_clearAll store hc]
    exact .emptied hc
  by_cases hi : Band.of? request.id = none
  · rw [apply_of_badId store hc hi]
    exact .badId hc hi
  cases ho : request.operation with
  | clearAll => exact absurd ho hc
  | get =>
    rw [apply_get store ho hi]
    cases hf : store.find? request.id with
    | none => exact .notSet ho hi hf
    | some entry =>
      simp only
      cases hp : permits entry request with
      | false => exact .denied entry hc hi hf hp
      | true => exact .got entry ho hi hf hp
  | set =>
    rw [apply_set store ho hi]
    cases hf : store.find? request.id with
    | none =>
      cases hw : request.writeAcl.isEmpty with
      | false => exact .created ho hi hf hw
      | true => exact .unowned ho hi hf hw
    | some entry =>
      simp only
      cases hp : permits entry request with
      | false => exact .denied entry hc hi hf hp
      | true => exact .updated entry ho hi hf hp
  | clear =>
    rw [apply_clear store ho hi]
    cases hf : store.find? request.id with
    | none => exact .absent ho hi hf
    | some entry =>
      simp only
      cases hp : permits entry request with
      | false => exact .denied entry hc hi hf hp
      | true => exact .cleared entry ho hi hf hp

namespace Step

variable {store after : Store} {request : Request} {response : Response}
  (h : Step store request response after)

include h

theorem eq_of_failure (hr : response.status ≠ .success) : after = store := by
  cases h with
  | badId | denied | notSet | unowned => rfl
  | got | created | updated | absent | cleared | emptied => exact absurd rfl hr

theorem eq_of_get (ho : request.operation = .get) : after = store := by
  cases h with
  | badId | denied | notSet | got | unowned | absent => rfl
  | created hs | updated _ hs | cleared _ hs | emptied hs => cases ho.symm.trans hs

/-- A request leaves the entries of other parameters alone. -/
theorem find?_of_ne (ho : request.operation ≠ .clearAll) {other : UInt32} (hn : other ≠ request.id) :
    after.find? other = store.find? other := by
  cases h with
  | badId | denied | notSet | got | unowned | absent => rfl
  | created | updated => rw [Store.find?_insert, if_neg hn]
  | cleared => rw [Store.find?_erase, if_neg hn]
  | emptied he => exact absurd he ho

/-- A request for an entry succeeds if the entry permits it. -/
theorem success_iff (ho : request.operation ≠ .clearAll) (hi : Band.of? request.id ≠ none)
    {entry : Entry} (hf : store.find? request.id = some entry) :
    response.status = .success ↔ permits entry request = true := by
  cases h with
  | badId _ hb => exact absurd hb hi
  | emptied he => exact absurd he ho
  | denied other _ _ hd hp =>
    obtain rfl := Option.some.inj (hf.symm.trans hd)
    simp [hp]
  | notSet _ _ hd | unowned _ _ hd | created _ _ hd | absent _ _ hd =>
    rw [hd] at hf
    cases hf
  | got other _ _ hd hp | updated other _ _ hd hp | cleared other _ _ hd hp =>
    obtain rfl := Option.some.inj (hf.symm.trans hd)
    simp [hp]

end Step

end PlatformFirmware.Parameter.Store
