import PlatformFirmware.Proofs.ErrorRecord.Announcement

namespace PlatformFirmware.ErrorRecord

inductive Act
  | clean (address : UInt64) (length : Nat)
  | call (request : SecureCall)
  | polling (processor : ManagementProcessor) (on : Bool)
  deriving DecidableEq, Repr

def act? : Event → Option Act
  | .clean address length => some (.clean address length)
  | .call request _ => some (.call request)
  | .polling processor on _ => some (.polling processor on)
  | _ => none

def fault? : Event → Option Efi.Error
  | .call _ answer => failure? answer.check
  | .polling _ _ failure => failure
  | _ => none

def publicationActs (functions : Functions) (kind : TableKind) (address : UInt64) : List Act :=
  [.clean address kind.size, .call (handOut functions kind address)]

def detectionActs (functions : Functions) (on : Bool) (detector : Detector) : List Act :=
  .call (detection functions on detector) ::
    match detector with
    | .atf => []
    | .smpro => [.polling .smpro on]
    | .pmpro => [.polling .pmpro on]

namespace Store

def publicationPlan (store : Store) : List Act :=
  match store.ghes, store.bert with
  | some ghes, some bert =>
    publicationActs store.functions .ghes ghes.address ++
      publicationActs store.functions .bert bert.address
  | _, _ => []

def plan (on : Bool) (detector : Detector) (store : Store) : List Act :=
  (if on then store.publicationPlan else []) ++ detectionActs store.functions on detector

end Store

def Accepted (request : SecureCall) (events : List Event) : Prop :=
  ∃ answer, .call request answer ∈ events ∧ answer.status = 0

def Store.Announces (store : Store) (events : List Event) : Prop :=
  ∃ ghes bert, store.ghes = some ghes ∧ store.bert = some bert ∧
    Accepted (handOut store.functions .ghes ghes.address) events ∧
    Accepted (handOut store.functions .bert bert.address) events

/-- The acts were done one after the other, up to the first that failed. -/
inductive Carried : List Act → List Event → Except Efi.Error Unit → Prop
  | done : Carried [] [] (.ok ())
  | stopped {act : Act} {acts : List Act} {event : Event} {e : Efi.Error}
      (ha : act? event = some act) (hf : fault? event = some e) :
      Carried (act :: acts) [event] (.error e)
  | next {act : Act} {acts : List Act} {event : Event} {events : List Event}
      {r : Except Efi.Error Unit} (ha : act? event = some act) (hf : fault? event = none)
      (hs : Carried acts events r) : Carried (act :: acts) (event :: events) r

namespace Carried

variable {acts later : List Act} {events more : List Event} {r : Except Efi.Error Unit}

theorem append (h : Carried acts events (.ok ())) (h' : Carried later more r) :
    Carried (acts ++ later) (events ++ more) r := by
  induction acts generalizing events with
  | nil =>
    cases h
    exact h'
  | cons act acts ih =>
    cases h with
    | next ha hf hs => exact .next ha hf (ih hs)

theorem append_error {e : Efi.Error} (h : Carried acts events (.error e)) (later : List Act) :
    Carried (acts ++ later) events (.error e) := by
  induction acts generalizing events with
  | nil => cases h
  | cons act acts ih =>
    cases h with
    | stopped ha hf => exact .stopped ha hf
    | next ha hf hs => exact .next ha hf (ih hs)

theorem acts_prefix (h : Carried acts events r) : events.map act? <+: acts.map some := by
  induction h with
  | done => exact List.prefix_refl _
  | stopped ha _ =>
    rw [List.map_singleton, ha, List.map_cons]
    exact ⟨_, rfl⟩
  | next ha _ _ ih =>
    rw [List.map_cons, List.map_cons, ha]
    exact (List.prefix_cons_inj _).2 ih

theorem faultless (h : Carried acts events r) : ∀ event ∈ events.dropLast, fault? event = none := by
  induction h with
  | done | stopped => nofun
  | @next _ _ event events _ _ hf hs ih =>
    cases events with
    | nil => nofun
    | cons second events => exact List.forall_mem_cons.2 ⟨hf, ih⟩

theorem acts_of_ok (h : Carried acts events (.ok ())) :
    events.map act? = acts.map some ∧ ∀ event ∈ events, fault? event = none := by
  induction acts generalizing events with
  | nil =>
    cases h
    exact ⟨rfl, nofun⟩
  | cons act acts ih =>
    cases h with
    | next ha hf hs =>
      obtain ⟨hm, hn⟩ := ih hs
      exact ⟨by rw [List.map_cons, List.map_cons, ha, hm], List.forall_mem_cons.2 ⟨hf, hn⟩⟩

theorem fault_of_error {e : Efi.Error} (h : Carried acts events (.error e)) :
    ∃ last, events.getLast? = some last ∧ fault? last = some e := by
  induction acts generalizing events with
  | nil => cases h
  | cons act acts ih =>
    cases h with
    | stopped _ hf => exact ⟨_, rfl, hf⟩
    | @next _ _ event events _ _ _ hs =>
      obtain ⟨last, hl, hf⟩ := ih hs
      exact ⟨last, by rw [List.getLast?_cons, hl, Option.getD_some], hf⟩

theorem eq_ok_iff (h : Carried acts events r) :
    r = .ok () ↔ ∀ event ∈ events, fault? event = none := by
  cases r with
  | ok => exact ⟨fun _ => h.acts_of_ok.2, fun _ => rfl⟩
  | error e =>
    obtain ⟨last, hl, hf⟩ := h.fault_of_error
    refine ⟨nofun, fun hn => ?_⟩
    rw [hn last (List.mem_of_getLast? hl)] at hf
    cases hf

end Carried

section Steps

variable {on : Bool} {detector : Detector} {functions : Functions} {store after : Store}
  {events : List Event} {r : Except Efi.Error Unit}

theorem fault?_call {request : SecureCall} {answer : SecureCall.Answer} {e : Efi.Error}
    (h : answer.check = .error e) : fault? (.call request answer) = some e := by
  rw [fault?, h]
  rfl

theorem fault?_call_of_ok {request : SecureCall} {answer : SecureCall.Answer}
    (h : answer.check = .ok ()) : fault? (.call request answer) = none := by
  rw [fault?, h]
  rfl

theorem carried_publication (kind : TableKind) (address : UInt64) {answer : SecureCall.Answer}
    (h : answer.check = .ok ()) :
    Carried (publicationActs functions kind address)
      (publication functions kind address kind.size answer) (.ok ()) :=
  .next rfl rfl (.next rfl (fault?_call_of_ok h) .done)

theorem carried_publication_refused (kind : TableKind) (address : UInt64)
    {answer : SecureCall.Answer} {e : Efi.Error} (h : answer.check = .error e) :
    Carried (publicationActs functions kind address)
      (publication functions kind address kind.size answer) (.error e) :=
  .next rfl rfl (.stopped rfl (fault?_call h))

theorem Store.publicationPlan_of_some {ghes : Region Layout.ghesPages}
    {bert : Region Layout.bertPages} (hg : store.ghes = some ghes) (hb : store.bert = some bert) :
    store.publicationPlan = publicationActs store.functions .ghes ghes.address ++
      publicationActs store.functions .bert bert.address := by
  rw [publicationPlan, hg, hb]

theorem PublishStep.carried (h : PublishStep store events r after) (hi : store.isInitialized) :
    Carried store.publicationPlan events r := by
  cases h with
  | notReady hn => exact absurd hi hn
  | ghesRefused ghes a e _ hg ha =>
    obtain ⟨bert, hb⟩ := Option.isSome_iff_exists.1 (Bool.and_eq_true_iff.1 hi).2
    rw [Store.publicationPlan_of_some hg hb]
    exact (carried_publication_refused .ghes ghes.address ha).append_error _
  | bertRefused ghes bert a b e hg hb ha hc =>
    rw [Store.publicationPlan_of_some hg hb]
    exact (carried_publication .ghes ghes.address ha).append
      (carried_publication_refused .bert bert.address hc)
  | done ghes bert a b hg hb ha hc =>
    rw [Store.publicationPlan_of_some hg hb]
    exact (carried_publication .ghes ghes.address ha).append
      (carried_publication .bert bert.address hc)

theorem DetectStep.carried (h : DetectStep functions on detector events r) :
    Carried (detectionActs functions on detector) events r := by
  cases h with
  | refused a e h => exact .stopped rfl (fault?_call h)
  | silent a h hp =>
    cases detector with
    | atf => exact .next rfl (fault?_call_of_ok h) .done
    | smpro | pmpro => cases hp
  | polling a p _ h hp =>
    have hd : detectionActs functions on detector =
        [.call (detection functions on detector), .polling p on] := by
      cases detector <;> cases hp <;> rfl
    rw [hd]
    refine .next rfl (fault?_call_of_ok h) ?_
    cases r with
    | ok => exact .next rfl rfl .done
    | error e => exact .stopped rfl rfl

theorem EnableStep.carried (h : EnableStep on detector store events r after)
    (hi : on = true → store.isInitialized) : Carried (store.plan on detector) events r := by
  cases h with
  | notPublished ho hp =>
    rw [Store.plan, if_pos ho]
    exact (hp.carried (hi ho)).append_error _
  | published ho hp hd =>
    rw [Store.plan, if_pos ho]
    exact (hp.carried (hi ho)).append hd.carried
  | off ho hd =>
    subst ho
    exact hd.carried

theorem EnableStep.of_not_ready (h : EnableStep true detector store events r after)
    (hn : ¬ store.isInitialized) : events = [] ∧ r = .error .notReady ∧ after = store := by
  cases h with
  | notPublished _ hp =>
    cases hp with
    | notReady => exact ⟨rfl, rfl, rfl⟩
    | ghesRefused _ _ _ hi => exact absurd hi hn
    | bertRefused ghes bert _ _ _ hg hb => exact absurd (by simp [Store.isInitialized, hg, hb]) hn
  | published _ hp _ =>
    cases hp with
    | done ghes bert _ _ hg hb => exact absurd (by simp [Store.isInitialized, hg, hb]) hn
  | off ho => cases ho

theorem Accepted.append {request : SecureCall} (h : Accepted request events)
    (later : List Event) : Accepted request (events ++ later) := by
  obtain ⟨answer, hm, hs⟩ := h
  exact ⟨answer, List.mem_append_left _ hm, hs⟩

theorem Store.Announces.append (h : store.Announces events) (later : List Event) :
    store.Announces (events ++ later) := by
  obtain ⟨ghes, bert, hg, hb, hag, hab⟩ := h
  exact ⟨ghes, bert, hg, hb, hag.append later, hab.append later⟩

theorem not_announces (h : events.filterMap (accepted? store.functions .bert) = []) :
    ¬ store.Announces events := by
  rintro ⟨ghes, bert, -, -, -, answer, hm, hs⟩
  have hn := List.filterMap_eq_nil_iff.1 h _ hm
  rw [accepted?, if_pos ⟨by rw [(argument_handOut .bert bert.address).2.1], hs⟩] at hn
  cases hn

theorem PublishStep.announces (h : PublishStep store events (.ok ()) after) :
    store.Announces events := by
  cases h with
  | done ghes bert a b hg hb ha hc =>
    refine ⟨ghes, bert, hg, hb, ⟨a, ?_, a.check_eq_ok_iff.1 ha⟩, ⟨b, ?_, b.check_eq_ok_iff.1 hc⟩⟩
    · exact List.mem_append_left _ (.tail _ (.head _))
    · exact List.mem_append_right _ (.tail _ (.head _))

/-- The mark of publication is all that may change. -/
theorem EnableStep.after_eq (h : EnableStep on detector store events r after) :
    after = { store with published := after.published } ∧
      (after.published = true ↔ store.published = true ∨ store.Announces events) := by
  cases h with
  | notPublished _ hp =>
    obtain ⟨rfl, ha⟩ := hp.of_error
    exact ⟨rfl, by simp [not_announces ha]⟩
  | @published _ later _ _ _ hp _ =>
    have ha := hp.announces.append later
    cases hp
    exact ⟨rfl, iff_of_true rfl (.inr ha)⟩
  | off _ hd => exact ⟨rfl, by simp [not_announces (accepted?_detect hd .bert)]⟩

/-- Where an event that the first part of a list lacks stands in the whole. -/
theorem front_of_not_mem {later front back : List Event} {event : Event} (hn : event ∉ events)
    (h : events ++ later = front ++ event :: back) :
    ∃ middle, front = events ++ middle ∧ later = middle ++ event :: back := by
  rcases List.append_eq_append_iff.1 h with ⟨middle, hf, hl⟩ | ⟨middle, rfl, hl⟩
  · exact ⟨middle, hf, hl⟩
  · cases middle with
    | nil => exact ⟨[], by simp, hl.symm⟩
    | cons first middle =>
      obtain ⟨rfl, -⟩ := List.cons.inj hl
      exact absurd (by simp) hn

theorem PublishStep.publishes (h : PublishStep store events r after) {event : Event}
    (hm : event ∈ events) :
    (∃ address length, event = .clean address length) ∨
      ∃ kind address a, event = .call (handOut store.functions kind address) a := by
  have hp (kind : TableKind) {address : UInt64} {a : SecureCall.Answer}
      (hm : event ∈ publication store.functions kind address kind.size a) :
      (∃ address length, event = .clean address length) ∨
        ∃ kind address a, event = .call (handOut store.functions kind address) a := by
    rcases List.mem_cons.1 hm with rfl | hm
    · exact .inl ⟨_, _, rfl⟩
    · exact .inr ⟨kind, address, a, List.mem_singleton.1 hm⟩
  cases h with
  | notReady => cases hm
  | ghesRefused => exact hp .ghes hm
  | bertRefused | done =>
    exact (List.mem_append.1 hm).elim (hp .ghes) (hp .bert)

theorem PublishStep.not_detecting (h : PublishStep store events r after) (on : Bool)
    (detector : Detector) (answer : SecureCall.Answer) :
    .call (detection store.functions on detector) answer ∉ events := by
  intro hm
  rcases h.publishes hm with ⟨_, _, he⟩ | ⟨kind, address, a, he⟩
  · cases he
  · exact detection_ne_handOut on detector kind address (Event.call.inj he).1

theorem PublishStep.not_polling (h : PublishStep store events r after)
    (processor : ManagementProcessor) (told : Bool) (failure : Option Efi.Error) :
    .polling processor told failure ∉ events := by
  intro hm
  rcases h.publishes hm with ⟨_, _, he⟩ | ⟨_, _, _, he⟩ <;> cases he

variable {front back : List Event}

/-- Detection is turned on once both tables are taken. -/
theorem EnableStep.detected (h : EnableStep true detector store events r after)
    {answer : SecureCall.Answer}
    (he : events = front ++ .call (detection store.functions true detector) answer :: back) :
    store.Announces front := by
  cases h with
  | notPublished _ hp =>
    exact absurd (by simp [he]) (hp.not_detecting true detector answer)
  | published _ hp _ =>
    obtain ⟨middle, rfl, -⟩ := front_of_not_mem (hp.not_detecting true detector answer) he
    exact hp.announces.append middle
  | off ho => cases ho

theorem DetectStep.polled (h : DetectStep functions on detector events r)
    {processor : ManagementProcessor} {told : Bool} {failure : Option Efi.Error}
    (he : events = front ++ .polling processor told failure :: back) :
    Accepted (detection functions on detector) front := by
  cases front with
  | nil => cases h <;> cases he
  | cons first front =>
    cases h with
    | refused | silent => simp at he
    | polling a _ _ ha =>
      obtain ⟨rfl, -⟩ := List.cons.inj he
      exact ⟨a, .head _, a.check_eq_ok_iff.1 ha⟩

/-- A processor is told to poll once trusted firmware has agreed. -/
theorem EnableStep.polled (h : EnableStep on detector store events r after)
    {processor : ManagementProcessor} {told : Bool} {failure : Option Efi.Error}
    (he : events = front ++ .polling processor told failure :: back) :
    Accepted (detection store.functions on detector) front := by
  cases h with
  | notPublished _ hp => exact absurd (by simp [he]) (hp.not_polling processor told failure)
  | published _ hp hd =>
    obtain ⟨middle, rfl, hl⟩ := front_of_not_mem (hp.not_polling processor told failure) he
    obtain ⟨answer, hm, hs⟩ := hd.polled hl
    exact ⟨answer, List.mem_append_right _ hm, hs⟩
  | off _ hd => exact hd.polled he

end Steps

variable {σ : Type} [SecureMonitor σ] [DataCache σ] [RasPolling σ]

/-- What turning detection on or off does on any platform, from any store: nothing without the
tables to publish; else the acts of its plan up to the first that fails, and success if none does.
Each step waits for those it depends on, and the tables stay as they are. -/
theorem enable_in_order (on : Bool) (detector : Detector) (store : Store) (traced : Traced σ) :
    let result := (StoreAction.enable on detector).run (store, traced)
    let after := (final result).1
    ∃ events, (final result).2.events.toList = traced.events.toList ++ events ∧
      (on = true → ¬ store.isInitialized → events = [] ∧ outcome result = .error .notReady) ∧
      ((on = true → store.isInitialized) →
        events.map act? <+: (store.plan on detector).map some ∧
        (∀ event ∈ events.dropLast, fault? event = none) ∧
        (outcome result = .ok () ↔ ∀ event ∈ events, fault? event = none) ∧
        (outcome result = .ok () → events.map act? = (store.plan on detector).map some) ∧
        ∀ e, outcome result = .error e →
          ∃ last, events.getLast? = some last ∧ fault? last = some e) ∧
      (∀ front answer back,
        events = front ++ .call (detection store.functions on detector) answer :: back →
          on = true → store.Announces front) ∧
      (∀ front processor told failure back,
        events = front ++ .polling processor told failure :: back →
          Accepted (detection store.functions on detector) front) ∧
      after = { store with published := after.published } ∧
      (after.published = true ↔ store.published = true ∨ store.Announces events) := by
  intro result after
  obtain ⟨events, hs, he⟩ := enable_follows on detector store traced
  refine ⟨events, he, ?_, ?_, ?_, ?_, hs.after_eq⟩
  · rintro rfl hn
    obtain ⟨hv, hr, -⟩ := hs.of_not_ready hn
    exact ⟨hv, hr⟩
  · intro hi
    have hc := hs.carried hi
    refine ⟨hc.acts_prefix, hc.faultless, hc.eq_ok_iff, fun hr => ?_, fun e hr => ?_⟩
    · rw [hr] at hc
      exact hc.acts_of_ok.1
    · rw [hr] at hc
      exact hc.fault_of_error
  · rintro front answer back hf rfl
    exact hs.detected hf
  · intro front processor told failure back hf
    exact hs.polled hf

end PlatformFirmware.ErrorRecord
