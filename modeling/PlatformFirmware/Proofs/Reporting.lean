import PlatformFirmware.Proofs.Trace

namespace PlatformFirmware

def Efi.Error.IsKnown : Efi.Error → Prop
  | .unknown _ => False
  | _ => True

section Answers

variable {answer : SecureCall.Answer} {e : Efi.Error}

theorem SecureCall.Answer.status_eq_zero_iff : answer.status = 0 ↔ answer.x0 = 0 := by
  rw [status, ← Int64.toInt_zero, Int64.toInt_inj]
  exact ⟨fun h => congrArg Int64.toUInt64 h, fun h => h ▸ rfl⟩

theorem SecureCall.Answer.zero_of_check (h : answer.check = .ok ()) : answer.x0 = 0 :=
  status_eq_zero_iff.1 (answer.check_eq_ok_iff.1 h)

theorem SecureCall.Answer.isKnown_of_check (h : answer.check = .error e) : e.IsKnown := by
  rw [check] at h
  split at h <;> cases h <;> trivial

end Answers

variable {ρ σ ε α β : Type} {accepted : SecureCall.Answer → Prop} {known : ε → Prop}

/-- How an action that made some events may end: with a value if all calls were accepted, or with
an error that is told apart. -/
inductive Reported (accepted : SecureCall.Answer → Prop) (known : ε → Prop) (made : List Event) :
    Except ε α → Prop
  | value (a : α) (h : ∀ request answer, .call request answer ∈ made → accepted answer) :
      Reported accepted known made (.ok a)
  | failure (e : ε) (h : known e) : Reported accepted known made (.error e)

theorem Reported.append {made later : List Event} {ended : Except ε α}
    (hm : ∀ request answer, .call request answer ∈ made → accepted answer)
    (h : Reported accepted known later ended) : Reported accepted known (made ++ later) ended := by
  cases h with
  | value a hl =>
    refine .value a fun request answer hc => ?_
    exact (List.mem_append.1 hc).elim (hm request answer) (hl request answer)
  | failure e hk => exact .failure e hk

/-- From any state, the action adds to the log what it reports. -/
def Reports (log : ρ → List Event) (accepted : SecureCall.Answer → Prop) (known : ε → Prop)
    (action : EStateM ε ρ α) : Prop :=
  ∀ s, ∃ made, log (final (action.run s)) = log s ++ made ∧
    Reported accepted known made (outcome (action.run s))

def Issues (log : ρ → List Event) (request : SecureCall)
    (action : EStateM ε ρ SecureCall.Answer) : Prop :=
  ∀ s, ∃ answer after, action.run s = .ok answer after ∧
    log after = log s ++ [.call request answer]

namespace Traced

def log (traced : Traced σ) : List Event := traced.events.toList

def logBeside {τ : Type} (s : τ × Traced σ) : List Event := s.2.log

end Traced

theorem issues_issue [SecureMonitor σ] (request : SecureCall) :
    Issues Traced.log request (request.issue : EStateM ε (Traced σ) SecureCall.Answer) :=
  fun traced => ⟨_, _, Traced.run_issue request traced, Array.toList_push⟩

theorem Issues.focus {log : ρ → List Event} {request : SecureCall} {get : ρ → σ}
    {set : σ → ρ → ρ} {part : σ → List Event} (hg : ∀ s, part (get s) = log s)
    (hs : ∀ t s, log (set t s) = part t) {action : EStateM ε σ SecureCall.Answer}
    (h : Issues part request action) : Issues log request (focus get set action) := by
  intro s
  obtain ⟨answer, after, hr, hl⟩ := h (get s)
  exact ⟨answer, set after s, by rw [run_focus, hr], by rw [hs, hl, hg]⟩

section Rules

variable {log : ρ → List Event}

theorem Reports.known_of_error {action : EStateM ε ρ α} (h : Reports log accepted known action)
    {s after : ρ} {e : ε} (he : action.run s = .error e after) : known e := by
  obtain ⟨made, -, hr⟩ := h s
  rw [he] at hr
  cases hr with
  | failure _ hk => exact hk

theorem reports_pure (a : α) : Reports log accepted known (pure a) :=
  fun _ => ⟨[], (List.append_nil _).symm, .value a nofun⟩

theorem reports_throw {e : ε} (h : known e) :
    Reports log accepted known (throw e : EStateM ε ρ α) :=
  fun _ => ⟨[], (List.append_nil _).symm, .failure e h⟩

theorem reports_guard {c : Prop} [Decidable c] {e : ε} (hk : known e) {rest : EStateM ε ρ α}
    (h : Reports log accepted known rest) :
    Reports log accepted known (do
      if c then
        throw e
      rest) := by
  by_cases hc : c
  · rw [if_pos hc]
    exact reports_throw hk
  · rw [if_neg hc]
    exact h

theorem reports_ofExcept {ended : Except ε α} (h : ∀ e, ended = .error e → known e) :
    Reports log accepted known (MonadExcept.ofExcept ended) := by
  cases ended with
  | ok a => exact reports_pure a
  | error e => exact reports_throw (h e rfl)

theorem reports_get : Reports log accepted known (get : EStateM ε ρ ρ) :=
  fun s => ⟨[], (List.append_nil _).symm, .value s nofun⟩

theorem reports_modify {f : ρ → ρ} (hf : ∀ s, log (f s) = log s) :
    Reports log accepted known (modify f : EStateM ε ρ Unit) :=
  fun s => ⟨[], (hf s).trans (List.append_nil _).symm, .value () nofun⟩

theorem Reports.bind {action : EStateM ε ρ α} {next : α → EStateM ε ρ β}
    (h : Reports log accepted known action) (hn : ∀ a, Reports log accepted known (next a)) :
    Reports log accepted known (action >>= next) := by
  intro s
  obtain ⟨made, hl, hr⟩ := h s
  rw [EStateM.run_bind]
  cases ha : action.run s with
  | error e after =>
    rw [ha] at hl hr
    cases hr with
    | failure _ hk => exact ⟨made, hl, .failure e hk⟩
  | ok a after =>
    rw [ha] at hl hr
    cases hr with
    | value _ hm =>
      obtain ⟨later, hl', hr'⟩ := hn a after
      exact ⟨made ++ later, by rw [hl', ← List.append_assoc, ← hl]; rfl, hr'.append hm⟩

theorem Reports.focus {get : ρ → σ} {set : σ → ρ → ρ} {part : σ → List Event}
    (hg : ∀ s, part (get s) = log s) (hs : ∀ t s, log (set t s) = part t)
    {action : EStateM ε σ α} (h : Reports part accepted known action) :
    Reports log accepted known (focus get set action) := by
  intro s
  obtain ⟨made, hl, hr⟩ := h (get s)
  refine ⟨made, ?_, by rwa [outcome_run_focus]⟩
  rw [final_run_focus, hs, hl, hg]

theorem reports_forM {items : List β} {action : β → EStateM ε ρ PUnit}
    (h : ∀ item, Reports log accepted known (action item)) :
    Reports log accepted known (items.forM action) := by
  induction items with
  | nil => exact reports_pure PUnit.unit
  | cons item items ih => exact (h item).bind fun _ => ih

/-- What depends on the answer of a call checks it first. -/
theorem reports_call {request : SecureCall} {issue : EStateM ε ρ SecureCall.Answer}
    (hi : Issues log request issue) {next : SecureCall.Answer → EStateM ε ρ α}
    (hn : ∀ answer, accepted answer ∧ Reports log accepted known (next answer) ∨
      ∃ e, next answer = throw e ∧ known e) :
    Reports log accepted known (issue >>= next) := by
  intro s
  obtain ⟨answer, after, hr, hl⟩ := hi s
  rw [EStateM.run_bind, hr]
  rcases hn answer with ⟨ha, hn⟩ | ⟨e, hn, hk⟩
  · obtain ⟨later, hl', hr'⟩ := hn after
    have hm : ∀ other reply, .call other reply ∈ [Event.call request answer] → accepted reply := by
      intro other reply hm
      cases List.mem_singleton.1 hm
      exact ha
    refine ⟨[.call request answer] ++ later, ?_, hr'.append hm⟩
    rw [← List.append_assoc, ← hl]
    exact hl'
  · refine ⟨[.call request answer], ?_, ?_⟩
    · simp only [hn]
      exact hl
    · simp only [hn]
      exact .failure e hk

section Checks

variable {request : SecureCall} {issue : EStateM ε ρ SecureCall.Answer}
  {check : SecureCall.Answer → Except ε Unit} (hi : Issues log request issue)
  (ha : ∀ answer, check answer = .ok () → accepted answer)
  (hk : ∀ answer e, check answer = .error e → known e)

include hi ha hk

theorem reports_checked {rest : SecureCall.Answer → EStateM ε ρ α}
    (hr : ∀ answer, Reports log accepted known (rest answer)) :
    Reports log accepted known (do
      let answer ← issue
      MonadExcept.ofExcept (check answer)
      rest answer) := by
  refine reports_call hi fun answer => ?_
  cases hc : check answer with
  | ok => exact .inl ⟨ha answer hc, hr answer⟩
  | error e => exact .inr ⟨e, rfl, hk answer e hc⟩

theorem reports_check :
    Reports log accepted known (do
      let answer ← issue
      MonadExcept.ofExcept (check answer)) := by
  have h := reports_checked hi ha hk fun _ => (reports_pure () : Reports log accepted known _)
  simpa using h

end Checks

end Rules

end PlatformFirmware
