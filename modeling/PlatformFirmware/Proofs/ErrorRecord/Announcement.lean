import PlatformFirmware.Proofs.ErrorRecord.Conservation

namespace PlatformFirmware.ErrorRecord

def TableKind.size : TableKind → Nat
  | ghes => Layout.ghesSize
  | bert => Layout.bertSize

def handOut (functions : Functions) (kind : TableKind) (address : UInt64) : SecureCall :=
  .ofList functions.setAddress [kind.code, address, UInt64.ofNat kind.size]

def accepted? (functions : Functions) (kind : TableKind) : Event → Option UInt64
  | .call request answer =>
    if request = handOut functions kind (request.argument 2) ∧ answer.status = 0 then
      some (request.argument 2)
    else none
  | _ => none

def lastAccepted (functions : Functions) (kind : TableKind) (events : List Event) : Option UInt64 :=
  (events.filterMap (accepted? functions kind)).getLast?

/-- Each call turns detection on or off, or hands out a table that has just been cleaned. -/
def Announced (functions : Functions) (events : List Event) : Prop :=
  ∀ front request answer back, events = front ++ .call request answer :: back →
    (∃ on detector, request = detection functions on detector) ∨
    ∃ kind address, request = handOut functions kind address ∧
      front.getLast? = some (.clean address kind.size)

variable {functions : Functions}

section Accepted

theorem argument_handOut (kind : TableKind) (address : UInt64) :
    (handOut functions kind address).argument 1 = kind.code ∧
      (handOut functions kind address).argument 2 = address ∧
      (handOut functions kind address).argument 3 = UInt64.ofNat kind.size := by
  rw [handOut]
  refine ⟨?_, ?_, ?_⟩ <;> exact SecureCall.argument_ofList _ _ (by decide) (by decide)

/-- The size in X3 tells the two functions apart, even if they have the same number. -/
theorem detection_ne_handOut (on : Bool) (detector : Detector) (kind : TableKind)
    (address : UInt64) : detection functions on detector ≠ handOut functions kind address := by
  intro h
  have hd : (detection functions on detector).argument 3 = 0 :=
    SecureCall.argument_ofList _ _ (by decide) (by decide)
  rw [h, (argument_handOut kind address).2.2] at hd
  cases kind <;> exact absurd hd (by decide)

theorem handOut_ne_handOut {kind other : TableKind} (h : other ≠ kind) (address address' : UInt64) :
    handOut functions other address ≠ handOut functions kind address' := by
  intro he
  have hk : (handOut functions other address).argument 1 = other.code :=
    (argument_handOut other address).1
  rw [he, (argument_handOut kind address').1] at hk
  cases kind <;> cases other <;> first | exact h rfl | exact absurd hk (by decide)

theorem accepted?_publication (kind other : TableKind) (address : UInt64) (a : SecureCall.Answer) :
    (publication functions other address other.size a).filterMap (accepted? functions kind) =
      if other = kind ∧ a.status = 0 then [address] else [] := by
  have hc : accepted? functions kind (.call (handOut functions other address) a) =
      if other = kind ∧ a.status = 0 then some address else none := by
    rw [accepted?, (argument_handOut other address).2.1]
    by_cases ho : other = kind
    · simp [ho]
    · simp [ho, handOut_ne_handOut ho]
  have hp : publication functions other address other.size a =
      [.clean address other.size, .call (handOut functions other address) a] := rfl
  have hn : accepted? functions kind (.clean address other.size) = none := rfl
  rw [hp, List.filterMap_cons_none hn, List.filterMap_cons, hc]
  by_cases h : other = kind ∧ a.status = 0 <;> simp [h]

theorem accepted?_detect {on : Bool} {detector : Detector} {events : List Event}
    {r : Except Efi.Error Unit} (h : DetectStep functions on detector events r) (kind : TableKind) :
    events.filterMap (accepted? functions kind) = [] := by
  have hd (a : SecureCall.Answer) :
      accepted? functions kind (.call (detection functions on detector) a) = none :=
    if_neg fun hc => detection_ne_handOut _ _ _ _ hc.1
  have hp (p : ManagementProcessor) (failure : Option Efi.Error) :
      accepted? functions kind (.polling p on failure) = none := rfl
  cases h <;> simp [hd, hp]

def Silent (events : List Event) : Prop := ∀ request answer, .call request answer ∉ events

theorem Silent.accepted? {events : List Event} (h : Silent events) (kind : TableKind) :
    events.filterMap (accepted? functions kind) = [] := by
  refine List.filterMap_eq_nil_iff.2 fun event he => ?_
  cases event with
  | call request answer => exact absurd he (h request answer)
  | _ => rfl

end Accepted

section Announced

variable {events later : List Event}

theorem Silent.announced (h : Silent events) : Announced functions events := by
  rintro front request answer back rfl
  exact absurd (by simp) (h request answer)

theorem Announced.append (h : Announced functions events) (h' : Announced functions later) :
    Announced functions (events ++ later) := by
  intro front request answer back he
  rcases List.append_eq_append_iff.1 he with ⟨middle, rfl, hm⟩ | ⟨middle, rfl, hm⟩
  · rcases h' middle request answer back hm with hd | ⟨kind, address, hr, hl⟩
    · exact .inl hd
    · refine .inr ⟨kind, address, hr, ?_⟩
      rw [List.getLast?_append, hl]
      rfl
  · cases middle with
    | nil =>
      rcases h' [] request answer back hm.symm with hd | ⟨kind, address, hr, hl⟩
      · exact .inl hd
      · cases hl
    | cons event middle =>
      obtain ⟨rfl, rfl⟩ := List.cons.inj hm
      exact h front request answer middle rfl

theorem announced_publication (kind : TableKind) (address : UInt64) (a : SecureCall.Answer) :
    Announced functions (publication functions kind address kind.size a) := by
  intro front request answer back he
  cases front with
  | nil => cases he
  | cons event front =>
    cases front with
    | nil =>
      obtain ⟨rfl, hr⟩ := List.cons.inj he
      cases hr
      exact .inr ⟨kind, address, rfl, rfl⟩
    | cons event front => cases front <;> cases he

theorem DetectStep.announced {on : Bool} {detector : Detector} {r : Except Efi.Error Unit}
    (h : DetectStep functions on detector events r) : Announced functions events := by
  have hd (a : SecureCall.Answer) (rest : List Event) (hr : Silent rest) :
      Announced functions (.call (detection functions on detector) a :: rest) := by
    intro front request answer back he
    cases front with
    | nil =>
      cases he
      exact .inl ⟨on, detector, rfl⟩
    | cons event front =>
      obtain ⟨rfl, rfl⟩ := List.cons.inj he
      exact absurd (by simp) (hr request answer)
  cases h <;> exact hd _ _ (by simp [Silent])

end Announced

section Steps

variable {store after : Store} {events : List Event} {r : Except Efi.Error Unit}

theorem silent_released {pages : Nat} (region : Option (Region pages)) :
    Silent (released region) := by
  cases region <;> simp [Silent, released]

theorem Silent.append {front back : List Event} (h : Silent front) (h' : Silent back) :
    Silent (front ++ back) := by
  intro request answer hm
  exact (List.mem_append.1 hm).elim (h request answer) (h' request answer)

theorem FreeStep.silent (h : FreeStep store events r after) : Silent events := by
  cases h with
  | ghesRefused => simp [Silent]
  | bertRefused => exact (silent_released _).append (by simp [Silent])
  | done => exact (silent_released _).append (silent_released _)

theorem InitStep.silent (h : InitStep store events r after) : Silent events := by
  cases h with
  | initialized => simp [Silent]
  | notFreed _ hf => exact hf.silent
  | noGhes _ _ hf | noBert _ _ _ _ hf | done _ _ _ hf =>
    exact hf.silent.append (by simp [Silent, rewritten])

theorem PublishStep.announced (h : PublishStep store events r after) :
    Announced store.functions events := by
  cases h with
  | notReady => exact Silent.announced (by simp [Silent])
  | ghesRefused ghes a => exact announced_publication .ghes ghes.address a
  | bertRefused ghes bert a b | done ghes bert a b =>
    exact (announced_publication .ghes ghes.address a).append
      (announced_publication .bert bert.address b)

theorem PublishStep.of_error {e : Efi.Error} (h : PublishStep store events (.error e) after) :
    after = store ∧ events.filterMap (accepted? store.functions .bert) = [] := by
  have hg (ghes : Region Layout.ghesPages) (a : SecureCall.Answer) :
      (publication store.functions .ghes ghes.address Layout.ghesSize a).filterMap
        (accepted? store.functions .bert) = [] :=
    (accepted?_publication .bert .ghes ghes.address a).trans (if_neg (by simp))
  cases h with
  | notReady => exact ⟨rfl, rfl⟩
  | ghesRefused ghes a => exact ⟨rfl, hg ghes a⟩
  | bertRefused ghes bert a b _ _ _ _ hb =>
    have hn : b.status ≠ 0 := by
      rw [ne_eq, ← b.check_eq_ok_iff, hb]
      exact nofun
    refine ⟨rfl, ?_⟩
    rw [List.filterMap_append, hg, List.nil_append]
    exact (accepted?_publication .bert .bert bert.address b).trans (if_neg (by simp [hn]))

theorem PublishStep.of_ok (h : PublishStep store events (.ok ()) after) :
    ∃ ghes bert, store.ghes = some ghes ∧ store.bert = some bert ∧
      after = { store with published := true } ∧
      events.filterMap (accepted? store.functions .bert) = [bert.address] ∧
      .clean ghes.address Layout.ghesSize ∈ events ∧
      .clean bert.address Layout.bertSize ∈ events := by
  cases h with
  | done ghes bert a b hg hb ha hc =>
    refine ⟨ghes, bert, hg, hb, rfl, ?_, by simp [publication], by simp [publication]⟩
    have hp : (publication store.functions .ghes ghes.address Layout.ghesSize a).filterMap
        (accepted? store.functions .bert) = [] :=
      (accepted?_publication .bert .ghes ghes.address a).trans (if_neg (by simp))
    rw [List.filterMap_append, hp, List.nil_append]
    exact (accepted?_publication .bert .bert bert.address b).trans
      (if_pos ⟨rfl, b.check_eq_ok_iff.1 hc⟩)

theorem EnableStep.announced {on : Bool} {detector : Detector}
    (h : EnableStep on detector store events r after) : Announced store.functions events := by
  cases h with
  | notPublished _ hp => exact hp.announced
  | published _ hp hd => exact hp.announced.append hd.announced
  | off _ hd => exact hd.announced

theorem RecordStep.silent {error : BootError} (h : RecordStep error store events r after) :
    Silent events := by
  cases h with
  | notReady | full => simp [Silent]
  | written => split <;> simp [Silent]

theorem Operation.Step.announced {operation : Operation}
    (h : operation.Step store events r after) : Announced store.functions events := by
  cases operation with
  | init => exact (InitStep.silent h).announced
  | free => exact (FreeStep.silent h).announced
  | enable on detector => exact EnableStep.announced h
  | record error => exact (RecordStep.silent h).announced

theorem Operation.Step.functions_eq {operation : Operation}
    (h : operation.Step store events r after) : after.functions = store.functions := by
  cases operation with
  | init =>
    cases h with
    | initialized => rfl
    | notFreed _ hf | noGhes _ _ hf | noBert _ _ _ _ hf | done _ _ _ hf => cases hf <;> rfl
  | free => cases h <;> rfl
  | enable on detector =>
    cases h with
    | notPublished _ hp | published _ hp _ => cases hp <;> rfl
    | off => rfl
  | record error => cases h <;> rfl

end Steps

end PlatformFirmware.ErrorRecord
