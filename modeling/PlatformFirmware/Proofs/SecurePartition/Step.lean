import PlatformFirmware.Proofs.SecurePartition.Calls

namespace PlatformFirmware.SecurePartition

/-- What a client does with its handles, which are numbered in the order of their openings. -/
inductive Operation
  | openHandle (service : Efi.Guid)
  | request (number : Nat) (words : List UInt64)
  | close (number : Nat)
  | drop (number : Nat)

/-- One entry for each opening: its handle while that is live, none if the opening failed and none
once the handle is closed or dropped. -/
abbrev Handles := List (Option Handle)

def Handles.live? (handles : Handles) (number : Nat) : Option Handle := handles.getD number none

structure Made where
  number : Nat
  events : List Event

section

variable {σ : Type}

def Handles.withLive (handles : Handles) (number : Nat) (traced : Traced σ)
    (use : Handle → Handles × Traced σ) : Handles × Traced σ :=
  match handles.live? number with
  | some handle => use handle
  | none => (handles, traced)

namespace Operation

def number (handles : Handles) : Operation → Nat
  | openHandle _ => handles.length
  | request number _ => number
  | close number => number
  | drop number => number

def perform [SecureMonitor σ] (client : Client) (handles : Handles) (traced : Traced σ) :
    Operation → Handles × Traced σ
  | openHandle service =>
    match (client.openHandle service).run traced with
    | .ok handle after => (handles ++ [some handle], after)
    | .error _ after => (handles ++ [none], after)
  | request number words =>
    handles.withLive number traced fun handle =>
      (handles, final ((handle.request words).run traced))
  | close number =>
    handles.withLive number traced fun handle =>
      (handles.set number none, final (handle.close.run traced))
  | drop number =>
    handles.withLive number traced fun handle =>
      (handles.set number none, final ((handle.drop : Firmware (Traced σ) Unit).run traced))

end Operation

end

def runAll {σ : Type} [SecureMonitor σ] (client : Client) :
    List Operation → Handles → σ → List Made × Handles × σ
  | [], handles, monitor => ([], handles, monitor)
  | operation :: operations, handles, monitor =>
    let (after, traced) := operation.perform client handles ({ peer := monitor } : Traced σ)
    let (later, last) := runAll client operations after traced.peer
    (⟨operation.number handles, traced.events.toList⟩ :: later, last)

inductive Step (client : Client) (handles : Handles) : Made → Handles → Prop
  | granted (service : Efi.Guid) (answer : SecureCall.Answer) (h : answer.status = 0) :
    Step client handles ⟨handles.length, [.call (client.openCall service) answer]⟩
      (handles ++ [some ⟨client, answer.x2.toUInt32, true⟩])
  | refused (service : Efi.Guid) (answer : SecureCall.Answer) (h : answer.status ≠ 0) :
    Step client handles ⟨handles.length, [.call (client.openCall service) answer]⟩
      (handles ++ [none])
  | requested (number : Nat) (handle : Handle) (words : List UInt64) (answer : SecureCall.Answer)
    (h : handles.live? number = some handle) :
    Step client handles ⟨number, [.call (handle.requestCall words) answer]⟩ handles
  | closed (number : Nat) (handle : Handle) (answer : SecureCall.Answer)
    (h : handles.live? number = some handle) :
    Step client handles ⟨number, [.call handle.closeCall answer]⟩ (handles.set number none)
  | idle (number : Nat) : Step client handles ⟨number, []⟩ handles

section

variable {σ : Type} [SecureMonitor σ] (client : Client) {handles : Handles}

theorem openHandle_step (service : Efi.Guid) (monitor : σ) :
    let performed := (Operation.openHandle service).perform client handles
      ({ peer := monitor } : Traced σ)
    Step client handles ⟨handles.length, performed.2.events.toList⟩ performed.1 := by
  intro performed
  obtain ⟨answer, after, h⟩ := client.run_openHandle service monitor #[]
  have hp : performed =
      match settle answer ⟨client, answer.x2.toUInt32, true⟩
        (⟨after, #[.call (client.openCall service) answer]⟩ : Traced σ) with
      | .ok handle after => (handles ++ [some handle], after)
      | .error _ after => (handles ++ [none], after) := by
    simp only [performed, Operation.perform, h]
    rfl
  rw [hp]
  by_cases hs : answer.status = 0
  · rw [settle_of_zero _ _ hs]
    exact .granted service answer hs
  · obtain ⟨e, -, he⟩ := settle_of_ne (⟨client, answer.x2.toUInt32, true⟩ : Handle)
      (⟨after, #[.call (client.openCall service) answer]⟩ : Traced σ) hs
    rw [he]
    exact .refused service answer hs

omit [SecureMonitor σ] in
theorem withLive_step {number : Nat} {monitor : σ} {use : Handle → Handles × Traced σ}
    (h : ∀ handle, handles.live? number = some handle →
      Step client handles ⟨number, (use handle).2.events.toList⟩ (use handle).1) :
    let performed := handles.withLive number { peer := monitor } use
    Step client handles ⟨number, performed.2.events.toList⟩ performed.1 := by
  simp only [Handles.withLive]
  cases hl : handles.live? number with
  | none => exact .idle number
  | some handle => exact h handle hl

theorem perform_step (ho : ∀ number handle, handles.live? number = some handle →
      handle.isOpen = true) (operation : Operation) (monitor : σ) :
    let performed := operation.perform client handles ({ peer := monitor } : Traced σ)
    Step client handles ⟨operation.number handles, performed.2.events.toList⟩ performed.1 := by
  cases operation with
  | openHandle service => exact openHandle_step client service monitor
  | request number words =>
    refine withLive_step client fun handle hl => ?_
    by_cases hw : words.length = 0 ∨ Handle.maxWords < words.length
    · rw [handle.run_request_of_bad monitor #[] hw]
      exact .idle number
    · obtain ⟨answer, after, h⟩ :=
        handle.run_request monitor #[] (by omega : words.length ≠ 0) (by omega)
      rw [h, final_settle]
      exact .requested number handle words answer hl
  | close number =>
    refine withLive_step client fun handle hl => ?_
    obtain ⟨answer, after, h⟩ := Handle.run_close (ho number handle hl) monitor #[]
    rw [h, final_settle]
    exact .closed number handle answer hl
  | drop number =>
    refine withLive_step client fun handle hl => ?_
    obtain ⟨answer, after, h⟩ := Handle.run_drop (ho number handle hl) monitor #[]
    rw [h, final_ok]
    exact .closed number handle answer hl

end

end PlatformFirmware.SecurePartition
