namespace PlatformFirmware

structure Table (κ α : Type) where
  entries : List (κ × α) := []
  deriving Repr

namespace Table

variable {κ α : Type}

def keys (table : Table κ α) : List κ := table.entries.map (·.1)

def size (table : Table κ α) : Nat := table.entries.length

variable [DecidableEq κ]

def get? (table : Table κ α) (key : κ) : Option α :=
  (table.entries.find? (·.1 = key)).map (·.2)

def getD (table : Table κ α) (key : κ) (default : α) : α := (table.get? key).getD default

def erase (table : Table κ α) (key : κ) : Table κ α := ⟨table.entries.filter (·.1 ≠ key)⟩

def insert (table : Table κ α) (key : κ) (value : α) : Table κ α :=
  ⟨(key, value) :: (table.erase key).entries⟩

@[simp] theorem get?_empty (key : κ) : get? (⟨[]⟩ : Table κ α) key = none := rfl

theorem get?_erase (table : Table κ α) (key other : κ) :
    (table.erase key).get? other = if other = key then none else table.get? other := by
  obtain ⟨entries⟩ := table
  simp only [get?, erase]
  induction entries with
  | nil => simp
  | cons entry entries ih =>
    by_cases he : entry.1 = key <;> by_cases ho : entry.1 = other <;> simp_all

theorem get?_insert (table : Table κ α) (key other : κ) (value : α) :
    (table.insert key value).get? other = if other = key then some value else table.get? other := by
  by_cases h : other = key
  · simp [get?, insert, h]
  · have he := table.get?_erase key other
    simp only [get?, if_neg h] at he ⊢
    simp [insert, Ne.symm h, he]

theorem getD_insert (table : Table κ α) (key other : κ) (value default : α) :
    (table.insert key value).getD other default =
      if other = key then value else table.getD other default := by
  rw [getD, get?_insert]
  split <;> rfl

theorem mem_entries_of_get? {table : Table κ α} {key : κ} {value : α}
    (h : table.get? key = some value) : (key, value) ∈ table.entries := by
  obtain ⟨entry, hf, rfl⟩ := Option.map_eq_some_iff.1 h
  have hk : entry.1 = key := by simpa using List.find?_some hf
  subst hk
  exact List.mem_of_find?_eq_some hf

theorem keys_erase (table : Table κ α) (key : κ) :
    (table.erase key).keys = table.keys.filter (· ≠ key) := by
  simp [keys, erase, List.filter_map, Function.comp_def]

theorem nodup_keys_erase {table : Table κ α} (h : table.keys.Nodup) (key : κ) :
    (table.erase key).keys.Nodup := by
  rw [keys_erase]
  exact h.filter _

theorem nodup_keys_insert {table : Table κ α} (h : table.keys.Nodup) (key : κ) (value : α) :
    (table.insert key value).keys.Nodup := by
  have hk : (table.insert key value).keys = key :: (table.erase key).keys := rfl
  rw [hk]
  exact List.nodup_cons.2 ⟨by simp [keys_erase], nodup_keys_erase h key⟩

end Table

end PlatformFirmware
