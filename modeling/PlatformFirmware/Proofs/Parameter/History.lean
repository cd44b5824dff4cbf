import PlatformFirmware.Proofs.Parameter.Step

namespace PlatformFirmware.Parameter

def Store.applyAll : List Request → Store → List (Request × Response) × Store
  | [], store => ([], store)
  | request :: requests, store =>
    let (response, after) := store.apply request
    let (later, last) := Store.applyAll requests after
    ((request, response) :: later, last)

namespace History

def clears (id : UInt32) (served : Request × Response) : Bool :=
  served.1.operation = .clearAll ∨
    served.1.operation = .clear ∧ served.1.id = id ∧ served.2.status = .success

def sets (id : UInt32) (served : Request × Response) : Bool :=
  served.1.operation = .set ∧ served.1.id = id ∧ served.2.status = .success

/-- The successful sets of a parameter since it was last cleared, the first one first. -/
def liveSets (id : UInt32) (history : List (Request × Response)) : List Request :=
  ((history.reverse.takeWhile fun served => !clears id served).reverse.filter (sets id)).map (·.1)

/-- What the sets of a parameter leave: the lists of the first and the value of the last. -/
def entryOf : List Request → Option Entry
  | [] => none
  | first :: later => some ⟨(later.getLastD first).value, first.readAcl, first.writeAcl⟩

section

variable {id : UInt32} {served : Request × Response} (history : List (Request × Response))

theorem liveSets_of_clears (h : clears id served = true) :
    liveSets id (history ++ [served]) = [] := by
  simp [liveSets, h]

theorem liveSets_of_sets (h : clears id served = false) (hs : sets id served = true) :
    liveSets id (history ++ [served]) = liveSets id history ++ [served.1] := by
  simp [liveSets, h, hs]

theorem liveSets_of_neither (h : clears id served = false) (hs : sets id served = false) :
    liveSets id (history ++ [served]) = liveSets id history := by
  simp [liveSets, h, hs]

end

theorem entryOf_of_none {requests : List Request} (h : entryOf requests = none) (request : Request) :
    entryOf (requests ++ [request]) = some ⟨request.value, request.readAcl, request.writeAcl⟩ := by
  cases requests with
  | nil => rfl
  | cons first later => cases h

theorem entryOf_of_some {requests : List Request} {entry : Entry} (h : entryOf requests = some entry)
    (request : Request) :
    entryOf (requests ++ [request]) = some { entry with value := request.value } := by
  cases requests with
  | nil => cases h
  | cons first later =>
    obtain rfl := Option.some.inj h
    simp [entryOf]

structure Explains (history : List (Request × Response)) (store : Store) : Prop where
  entry (id : UInt32) : store.find? id = entryOf (liveSets id history)
  valid (id : UInt32) (entry : Entry) (h : store.find? id = some entry) : Band.of? id ≠ none

/-- A successful set adds itself to the live sets of its parameter. -/
theorem Explains.insert {history : List (Request × Response)} {store : Store} {request : Request}
    {response : Response} (h : Explains history store) (ho : request.operation = .set)
    (hi : Band.of? request.id ≠ none) (hr : response.status = .success) {entry : Entry}
    (he : entryOf (liveSets request.id history ++ [request]) = some entry) :
    Explains (history ++ [(request, response)]) ⟨store.table.insert request.id entry⟩ := by
  refine ⟨fun id => ?_, fun id other hf => ?_⟩
  · rw [Store.find?_insert]
    by_cases hn : id = request.id
    · subst hn
      rw [if_pos rfl, liveSets_of_sets history (by simp [clears, ho]) (by simp [sets, ho, hr]), he]
    · rw [if_neg hn, liveSets_of_neither history (by simp [clears, ho])
        (by simp [sets, Ne.symm hn])]
      exact h.entry id
  · rw [Store.find?_insert] at hf
    by_cases hn : id = request.id
    · exact hn ▸ hi
    · rw [if_neg hn] at hf
      exact h.valid id other hf

theorem Explains.step {history : List (Request × Response)} {store after : Store}
    {request : Request} {response : Response} (h : Explains history store)
    (hs : Store.Step store request response after) :
    Explains (history ++ [(request, response)]) after := by
  -- a parameter that is neither set nor cleared keeps its live sets
  have hk (id : UInt32) (hc : clears id (request, response) = false)
      (hn : sets id (request, response) = false) :
      store.find? id = entryOf (liveSets id (history ++ [(request, response)])) := by
    rw [liveSets_of_neither history hc hn]
    exact h.entry id
  have hq (ho : request.operation ≠ .clearAll) (hn : response.status ≠ .success) :
      Explains (history ++ [(request, response)]) store :=
    ⟨fun id => hk id (by simp [clears, ho, hn]) (by simp [sets, hn]), h.valid⟩
  cases hs with
  | badId ho hi => exact hq ho (by simp)
  | denied entry ho hi hf hp => exact hq ho (by simp)
  | notSet ho hi hf => exact hq (by simp [ho]) (by simp)
  | unowned ho hi hf hw => exact hq (by simp [ho]) (by simp)
  | got entry ho hi hf hp =>
    exact ⟨fun id => hk id (by simp [clears, ho]) (by simp [sets, ho]), h.valid⟩
  | created ho hi hf hw =>
    exact h.insert ho hi rfl (entryOf_of_none ((h.entry _).symm.trans hf) request)
  | updated entry ho hi hf hp =>
    exact h.insert ho hi rfl (entryOf_of_some ((h.entry _).symm.trans hf) request)
  | absent ho hi hf =>
    refine ⟨fun id => ?_, h.valid⟩
    by_cases hn : id = request.id
    · subst hn
      rw [liveSets_of_clears history (by simp [clears, ho])]
      exact hf
    · exact hk id (by simp [clears, ho, Ne.symm hn]) (by simp [sets, ho])
  | cleared entry ho hi hf hp =>
    refine ⟨fun id => ?_, fun id entry he => ?_⟩
    · rw [Store.find?_erase]
      by_cases hn : id = request.id
      · subst hn
        rw [if_pos rfl, liveSets_of_clears history (by simp [clears, ho])]
        rfl
      · rw [if_neg hn]
        exact hk id (by simp [clears, ho, Ne.symm hn]) (by simp [sets, ho])
    · rw [Store.find?_erase] at he
      by_cases hn : id = request.id
      · rw [if_pos hn] at he
        cases he
      · rw [if_neg hn] at he
        exact h.valid id entry he
  | emptied ho =>
    refine ⟨fun id => ?_, fun id entry he => by cases he⟩
    rw [liveSets_of_clears history (by simp [clears, ho])]
    rfl

/-- The write list of an entry is that of the set that created it. -/
theorem Explains.exists_creator {history : List (Request × Response)} {store : Store} {id : UInt32}
    {entry : Entry} (h : Explains history store) (hf : store.find? id = some entry) :
    ∃ first later, liveSets id history = first :: later ∧ first.writeAcl = entry.writeAcl := by
  have he := h.entry id
  rw [hf] at he
  cases hl : liveSets id history with
  | nil =>
    rw [hl] at he
    cases he
  | cons first later =>
    rw [hl] at he
    cases he
    exact ⟨first, later, rfl, rfl⟩

theorem Explains.applyAll {made : List (Request × Response)} {store : Store}
    (requests : List Request) (h : Explains made store) :
    Explains (made ++ (Store.applyAll requests store).1) (Store.applyAll requests store).2 := by
  induction requests generalizing made store with
  | nil => simpa [Store.applyAll] using h
  | cons request requests ih =>
    have hl := ih (h.step (store.apply_step request))
    rw [List.append_assoc] at hl
    exact hl

theorem explains_applyAll (requests : List Request) :
    Explains (Store.applyAll requests {}).1 (Store.applyAll requests {}).2 := by
  have h : Explains [] {} := ⟨fun id => rfl, fun id entry he => by cases he⟩
  exact h.applyAll requests

end History

/-- Over any history of requests: a parameter is set if some set of it succeeded since it was last
cleared; the first of these sets fixed its lists and the last one its value. The first set's lists
alone decide whom later requests serve. A request touches no other parameter, and one that fails
touches nothing. -/
theorem store_eq_of_history (requests : List Request) :
    (∀ id, (Store.applyAll requests {}).2.find? id =
      History.entryOf (History.liveSets id (Store.applyAll requests {}).1)) ∧
    (∀ (request first : Request) (later : List Request),
      History.liveSets request.id (Store.applyAll requests {}).1 = first :: later →
      (request.operation = .set ∨ request.operation = .clear →
        (((Store.applyAll requests {}).2.apply request).1.status = .success ↔
          first.writeAcl.bits &&& request.writeAcl.bits ≠ 0)) ∧
      (request.operation = .get →
        (((Store.applyAll requests {}).2.apply request).1.status = .success ↔
          first.readAcl.bits &&& request.readAcl.bits ≠ 0))) ∧
    (∀ (request : Request) (other : UInt32), request.operation ≠ .clearAll → other ≠ request.id →
      ((Store.applyAll requests {}).2.apply request).2.find? other =
        (Store.applyAll requests {}).2.find? other) ∧
    (∀ request : Request, ((Store.applyAll requests {}).2.apply request).1.status ≠ .success →
      ((Store.applyAll requests {}).2.apply request).2 = (Store.applyAll requests {}).2) := by
  have h := History.explains_applyAll requests
  have hs := (Store.applyAll requests {}).2.apply_step
  refine ⟨h.entry, ?_, ?_, ?_⟩
  · intro request first later hl
    have hf := h.entry request.id
    rw [hl] at hf
    have hi := h.valid request.id _ hf
    constructor
    · intro ho
      have hc : request.operation ≠ .clearAll := by rcases ho with ho | ho <;> simp [ho]
      rw [(hs request).success_iff hc hi hf]
      rcases ho with ho | ho <;> simp [Store.permits, ho, Acl.intersects]
    · intro ho
      rw [(hs request).success_iff (by simp [ho]) hi hf]
      simp [Store.permits, ho, Acl.intersects]
  · intro request other ho hn
    exact (hs request).find?_of_ne ho hn
  · intro request hr
    exact (hs request).eq_of_failure hr

def threeWriters : List Request :=
  [.set 0x100 ⟨1⟩ ⟨6⟩ 7, .set 0x108 ⟨1⟩ ⟨1⟩ 5, .set 0x100 ⟨8⟩ ⟨2⟩ 9, .clear 0x100 ⟨8⟩]

theorem store_eq_of_threeWriters :
    (Store.applyAll threeWriters {}).2.find? 0x100 = some ⟨9, ⟨1⟩, ⟨6⟩⟩ ∧
      ((Store.applyAll threeWriters {}).2.apply (.clear 0x100 ⟨4⟩)).1.status = .success ∧
      ((Store.applyAll threeWriters {}).2.apply (.get 0x100 ⟨8⟩)).1.status ≠ .success ∧
      ((Store.applyAll threeWriters {}).2.apply (.clear 0x100 ⟨4⟩)).2.find? 0x108 =
        (Store.applyAll threeWriters {}).2.find? 0x108 ∧
      ((Store.applyAll threeWriters {}).2.apply (.get 0x100 ⟨8⟩)).2 =
        (Store.applyAll threeWriters {}).2 := by
  obtain ⟨he, hp, hn, hf⟩ := store_eq_of_history threeWriters
  have hl : History.liveSets 0x100 (Store.applyAll threeWriters {}).1 =
      [.set 0x100 ⟨1⟩ ⟨6⟩ 7, .set 0x100 ⟨8⟩ ⟨2⟩ 9] := by decide
  have hg := mt ((hp (.get 0x100 ⟨8⟩) _ _ hl).2 rfl).1 (by decide)
  refine ⟨?_, ?_, hg, ?_, hf _ hg⟩
  · rw [he, hl]
    rfl
  · exact ((hp (.clear 0x100 ⟨4⟩) _ _ hl).1 (.inr rfl)).2 (by decide)
  · exact hn (.clear 0x100 ⟨4⟩) 0x108 (by decide) (by decide)

end PlatformFirmware.Parameter
