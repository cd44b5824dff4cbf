import PlatformFirmware.Proofs.SecurePartition.Step

namespace PlatformFirmware.SecurePartition

def through (number : Nat) (made : List Made) : List Event :=
  (made.filter (·.number = number)).flatMap Made.events

def isClose : Event → Bool
  | .call request _ => request.function = Function.closeHandle
  | _ => false

def isGranted : Event → Bool
  | .call request answer => request.function = Function.openHandle ∧ answer.status = 0
  | _ => false

/-- The client in the high half, and below it the number that the opening was answered with. -/
def target (client : Client) (opened : SecureCall.Answer) : UInt64 :=
  client.id.toUInt64 <<< 32 ||| opened.x2 % 0x100000000

def Carries (function : UInt32) (word : UInt64) (event : Event) : Prop :=
  ∃ request answer, event = .call request answer ∧ request.function = function ∧
    request.argument 7 = word

/-- The calls that one opening leads to, by what has become of its handle. -/
inductive Lifetime (client : Client) : Option Handle → List Event → Prop
  | refused (service : Efi.Guid) (opened : SecureCall.Answer) (h : opened.status ≠ 0) :
    Lifetime client none [.call (client.openCall service) opened]
  | live (service : Efi.Guid) (opened : SecureCall.Answer) (requests : List Event)
    (h : opened.status = 0)
    (hr : ∀ event ∈ requests, Carries Function.request (target client opened) event) :
    Lifetime client (some ⟨client, opened.x2.toUInt32, true⟩)
      (.call (client.openCall service) opened :: requests)
  | closed (service : Efi.Guid) (opened : SecureCall.Answer) (requests : List Event) (last : Event)
    (h : opened.status = 0)
    (hr : ∀ event ∈ requests, Carries Function.request (target client opened) event)
    (hc : Carries Function.closeHandle (target client opened) last) :
    Lifetime client none (.call (client.openCall service) opened :: (requests ++ [last]))

section

variable {client : Client} {handle : Handle} {events : List Event}

theorem target_eq (client : Client) (opened : SecureCall.Answer) :
    Handle.target ⟨client, opened.x2.toUInt32, true⟩ = target client opened := by
  rw [Handle.target, target, UInt64.toUInt64_toUInt32]

theorem carries_requestCall (handle : Handle) (words : List UInt64) (answer : SecureCall.Answer) :
    Carries Function.request handle.target (.call (handle.requestCall words) answer) :=
  ⟨_, answer, rfl, handle.function_requestCall words, SecureCall.argument_set _ (by decide) (by decide) _⟩

theorem carries_closeCall (handle : Handle) (answer : SecureCall.Answer) :
    Carries Function.closeHandle handle.target (.call handle.closeCall answer) :=
  ⟨_, answer, rfl, handle.function_closeCall, SecureCall.argument_set _ (by decide) (by decide) _⟩

theorem Lifetime.isOpen (h : Lifetime client (some handle) events) : handle.isOpen = true := by
  cases h with
  | live => rfl

theorem Lifetime.request (h : Lifetime client (some handle) events) (words : List UInt64)
    (answer : SecureCall.Answer) :
    Lifetime client (some handle) (events ++ [.call (handle.requestCall words) answer]) := by
  cases h with
  | live service opened requests h hr =>
    refine .live service opened _ h fun event he => ?_
    rcases List.mem_append.1 he with he | he
    · exact hr event he
    · rw [List.mem_singleton.1 he, ← target_eq]
      exact carries_requestCall _ words answer

theorem Lifetime.close (h : Lifetime client (some handle) events) (answer : SecureCall.Answer) :
    Lifetime client none (events ++ [.call handle.closeCall answer]) := by
  cases h with
  | live service opened requests h hr =>
    refine .closed service opened requests _ h hr ?_
    rw [← target_eq]
    exact carries_closeCall _ answer

end

namespace Handles

variable (handles : Handles)

theorem live?_append {number : Nat} (entry : Option Handle) :
    live? (handles ++ [entry]) number =
      if number = handles.length then entry else handles.live? number := by
  rw [live?, live?, List.getD_eq_getElem?_getD, List.getD_eq_getElem?_getD]
  by_cases he : number = handles.length
  · subst he
    simp
  · rw [if_neg he, List.getElem?_append]
    by_cases hl : number < handles.length
    · rw [if_pos hl]
    · rw [if_neg hl, List.getElem?_eq_none (by simp; omega),
        List.getElem?_eq_none (Nat.le_of_not_lt hl)]

variable {handles} {number : Nat} {handle : Handle}

theorem getElem?_of_live (h : handles.live? number = some handle) :
    handles[number]? = some (some handle) := by
  rw [live?, List.getD_eq_getElem?_getD] at h
  cases hg : handles[number]? with
  | none =>
    rw [hg] at h
    cases h
  | some entry =>
    rw [hg] at h
    exact congrArg some h

theorem lt_length (h : handles.live? number = some handle) : number < handles.length :=
  (List.getElem?_eq_some_iff.1 (getElem?_of_live h)).1

theorem live?_set (h : handles.live? number = some handle) (other : Nat) :
    live? (handles.set number none) other = if other = number then none else handles.live? other := by
  have hl := lt_length h
  rw [live?, live?, List.getD_eq_getElem?_getD, List.getD_eq_getElem?_getD]
  by_cases he : other = number
  · subst he
    rw [if_pos rfl, List.getElem?_set_self hl]
    rfl
  · rw [if_neg he, List.getElem?_set_ne (Ne.symm he)]

/-- One handle less is live. -/
theorem countP_set (h : handles.live? number = some handle) :
    (handles.set number none).countP Option.isSome + 1 = handles.countP Option.isSome := by
  obtain ⟨hl, hg⟩ := List.getElem?_eq_some_iff.1 (getElem?_of_live h)
  have hp : 0 < handles.countP Option.isSome :=
    List.countP_pos_iff.2 ⟨_, List.getElem_mem hl, by rw [hg]; rfl⟩
  rw [List.countP_set hl, hg]
  simp
  omega

end Handles

structure Tracked (client : Client) (made : List Made) (handles : Handles) : Prop where
  lifetime (number : Nat) (h : number < handles.length) :
    Lifetime client (handles.live? number) (through number made)
  unused (number : Nat) (h : handles.length ≤ number) : through number made = []
  balance : (made.flatMap Made.events).countP isClose + handles.countP Option.isSome =
    (made.flatMap Made.events).countP isGranted

theorem through_append (number : Nat) (made : List Made) (last : Made) :
    through number (made ++ [last]) =
      through number made ++ if last.number = number then last.events else [] := by
  by_cases h : last.number = number
  · simp [through, h]
  · simp [through, h]

theorem countP_events_append (p : Event → Bool) (made : List Made) (last : Made) :
    ((made ++ [last]).flatMap Made.events).countP p =
      (made.flatMap Made.events).countP p + last.events.countP p := by
  simp

namespace Tracked

variable {client : Client} {made : List Made} {handles : Handles}

theorem of_live (h : Tracked client made handles) {number : Nat} {handle : Handle}
    (hl : handles.live? number = some handle) :
    Lifetime client (some handle) (through number made) :=
  hl ▸ h.lifetime number (Handles.lt_length hl)

theorem isOpen (h : Tracked client made handles) {number : Nat} {handle : Handle}
    (hl : handles.live? number = some handle) : handle.isOpen = true :=
  (h.of_live hl).isOpen

/-- An opening adds an entry, and the call that it made. -/
theorem opened (h : Tracked client made handles) {entry : Option Handle} {event : Event}
    (hl : Lifetime client entry [event]) (hc : isClose event = false)
    (hg : isGranted event = entry.isSome) :
    Tracked client (made ++ [⟨handles.length, [event]⟩]) (handles ++ [entry]) := by
  refine ⟨fun number hn => ?_, fun number hn => ?_, ?_⟩
  · rw [Handles.live?_append, through_append]
    by_cases he : number = handles.length
    · rw [if_pos he, if_pos he.symm, h.unused number (Nat.le_of_eq he.symm)]
      exact hl
    · rw [if_neg he, if_neg (Ne.symm he), List.append_nil]
      rw [List.length_append, List.length_singleton] at hn
      exact h.lifetime number (by omega)
  · rw [List.length_append, List.length_singleton] at hn
    have he : handles.length ≠ number := by omega
    rw [through_append, if_neg he, List.append_nil]
    exact h.unused number (by omega)
  · have hb := h.balance
    rw [countP_events_append, countP_events_append, List.countP_append, List.countP_singleton,
      List.countP_singleton, List.countP_singleton, hc, hg]
    simp only [Bool.false_eq_true, if_false]
    omega

/-- A call for a live handle lengthens the calls of that handle and of no other. -/
theorem used (h : Tracked client made handles) {number : Nat} {handle : Handle}
    (hl : handles.live? number = some handle) {after : Handles} {entry : Option Handle}
    {event : Event} (hn : after.length = handles.length)
    (ha : ∀ other, after.live? other = if other = number then entry else handles.live? other)
    (ht : Lifetime client entry (through number made ++ [event]))
    (hg : isGranted event = false)
    (hb : (if isClose event then 1 else 0) + after.countP Option.isSome =
      handles.countP Option.isSome) :
    Tracked client (made ++ [⟨number, [event]⟩]) after := by
  have hm := Handles.lt_length hl
  refine ⟨fun other ho => ?_, fun other ho => ?_, ?_⟩
  · rw [ha, through_append]
    by_cases he : other = number
    · subst he
      rw [if_pos rfl, if_pos rfl]
      exact ht
    · rw [if_neg he, if_neg (Ne.symm he), List.append_nil]
      exact h.lifetime other (hn ▸ ho)
  · have he : number ≠ other := by omega
    rw [through_append, if_neg he, List.append_nil]
    exact h.unused other (hn ▸ ho)
  · have hk := h.balance
    rw [countP_events_append, countP_events_append, List.countP_singleton, List.countP_singleton,
      hg]
    simp only [Bool.false_eq_true, if_false]
    omega

theorem step (h : Tracked client made handles) {last : Made} {after : Handles}
    (hs : Step client handles last after) : Tracked client (made ++ [last]) after := by
  cases hs with
  | granted service answer hz =>
    exact h.opened (.live service answer [] hz nofun) (by rw [isClose, client.function_openCall]; rfl)
      (by simp [isGranted, hz])
  | refused service answer hz =>
    exact h.opened (.refused service answer hz) (by rw [isClose, client.function_openCall]; rfl)
      (by simp [isGranted, hz])
  | requested number handle words answer hl =>
    have hc : isClose (.call (handle.requestCall words) answer) = false := by
      rw [isClose, handle.function_requestCall]
      rfl
    have hg : isGranted (.call (handle.requestCall words) answer) = false := by
      rw [isGranted, handle.function_requestCall]
      rfl
    refine h.used hl rfl (fun other => ?_) ((h.of_live hl).request words answer) hg ?_
    · by_cases he : other = number
      · rw [if_pos he, he, hl]
      · rw [if_neg he]
    · rw [hc]
      simp
  | closed number handle answer hl =>
    have hb := Handles.countP_set hl
    have hc : isClose (.call handle.closeCall answer) = true := by
      rw [isClose, handle.function_closeCall]
      rfl
    have hg : isGranted (.call handle.closeCall answer) = false := by
      rw [isGranted, handle.function_closeCall]
      rfl
    refine h.used hl List.length_set (Handles.live?_set hl) ((h.of_live hl).close answer) hg ?_
    rw [hc, if_pos rfl]
    omega
  | idle number =>
    have ht (other : Nat) : through other (made ++ [⟨number, []⟩]) = through other made := by
      simp only [through_append, ite_self, List.append_nil]
    refine ⟨fun other ho => ?_, fun other ho => ?_, ?_⟩
    · rw [ht]
      exact h.lifetime other ho
    · rw [ht]
      exact h.unused other ho
    · simpa only [countP_events_append, List.countP_nil, Nat.add_zero] using h.balance

end Tracked

theorem tracked_runAll {σ : Type} [SecureMonitor σ] (client : Client) (operations : List Operation)
    {made : List Made} {handles : Handles} (h : Tracked client made handles) (monitor : σ) :
    Tracked client (made ++ (runAll client operations handles monitor).1)
      (runAll client operations handles monitor).2.1 := by
  induction operations generalizing made handles monitor with
  | nil => simpa [runAll] using h
  | cons operation operations ih =>
    have hs := h.step (perform_step client (fun _ _ => h.isOpen) operation monitor)
    have hr := ih hs (operation.perform client handles ({ peer := monitor } : Traced σ)).2.peer
    rw [List.append_assoc] at hr
    exact hr

/-- Whatever the monitor answers, also with one number for several handles. The closes are those of
the openings that succeeded and whose handles are not live any more. -/
theorem handles_closed_once {σ : Type} [SecureMonitor σ] (client : Client)
    (operations : List Operation) (monitor : σ) :
    let made := (runAll client operations [] monitor).1
    let handles := (runAll client operations [] monitor).2.1
    let issued := made.flatMap Made.events
    issued.countP isClose + handles.countP Option.isSome = issued.countP isGranted ∧
    (∀ number, number < handles.length →
      Lifetime client (handles.live? number) (through number made)) ∧
    ∀ number, handles.length ≤ number → through number made = [] := by
  intro made handles issued
  have h0 : Tracked client [] [] := ⟨fun _ hn => absurd hn (Nat.not_lt_zero _), fun _ _ => rfl, rfl⟩
  have h := tracked_runAll client operations h0 monitor
  exact ⟨h.balance, h.lifetime, h.unused⟩

end PlatformFirmware.SecurePartition
