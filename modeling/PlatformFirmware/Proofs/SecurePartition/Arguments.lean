import Mathlib.Data.List.Basic
import Mathlib.Data.List.Induction
import PlatformFirmware.Proofs.LittleEndian
import PlatformFirmware.Proofs.SecurePartition.Calls

namespace PlatformFirmware

namespace Bytes

theorem flatMap_slice (bytes : Bytes) (width count : Nat) :
    (List.range count).flatMap (fun index => slice bytes (width * index) width) =
      bytes.take (width * count) := by
  induction count with
  | zero => rfl
  | succ count ih =>
    rw [List.range_succ, List.flatMap_append, ih, Nat.mul_succ, List.take_add,
      List.flatMap_singleton]
    rfl

end Bytes

theorem Efi.Guid.word32_word (guid : Guid) {index : Nat} (h : index < 4) :
    Bytes.word32 (guid.word index) = Bytes.slice guid.bytes (4 * index) 4 := by
  have hg := guid.length_bytes
  refine Bytes.word32_ofLittleEndian (List.length_take_of_le ?_)
  rw [List.length_drop]
  omega

theorem Efi.Guid.flatMap_word32_word (guid : Guid) :
    (List.range 4).flatMap (fun index => Bytes.word32 (guid.word index)) = guid.bytes := by
  have hw : ∀ index ∈ List.range 4,
      Bytes.word32 (guid.word index) = Bytes.slice guid.bytes (4 * index) 4 :=
    fun index hi => guid.word32_word (List.mem_range.1 hi)
  rw [List.flatMap_congr hw, Bytes.flatMap_slice,
    List.take_of_length_le (Nat.le_of_eq guid.length_bytes)]

namespace SecureCall

theorem argument_set_of_ne (call : SecureCall) {index other : Nat} (h : other ≠ index)
    (value : UInt64) : (call.set index value).argument other = call.argument other := by
  rw [set]
  split
  · rfl
  · next hi =>
    rw [argument, argument]
    split
    · rfl
    · next ho =>
      have hn : index - 1 ≠ other - 1 := by omega
      simp only [Vector.toList_setIfInBounds, List.getD_eq_getElem?_getD,
        List.getElem?_set_ne hn]

theorem ofList_append_singleton (function : UInt32) (words : List UInt64) (word : UInt64) :
    ofList function (words ++ [word]) = (ofList function words).set (words.length + 1) word := by
  rw [set, if_neg (Nat.succ_ne_zero _), Nat.add_sub_cancel]
  have hr : Vector.ofFn (fun i : Fin 7 => (words ++ [word]).getD i 0) =
      (Vector.ofFn fun i : Fin 7 => words.getD i 0).setIfInBounds words.length word := by
    ext i hi
    simp only [Vector.getElem_ofFn, Vector.getElem_setIfInBounds hi, List.getD_eq_getElem?_getD]
    grind
  rw [ofList, ofList, hr]

/-- The registers are loaded one after the other, and words that no register is left for are
dropped. -/
theorem ofList_eq_foldl (function : UInt32) (words : List UInt64) :
    ofList function words =
      words.zipIdx.foldl (fun call entry => call.set (entry.2 + 1) entry.1)
        ⟨function, .replicate 7 0⟩ := by
  induction words using List.reverseRecOn with
  | nil => rfl
  | append_singleton words word ih =>
    rw [ofList_append_singleton, ih, List.zipIdx_append, List.foldl_append]
    simp

end SecureCall

namespace SecurePartition

/-- A call whose registers say what is asked of which handle: the words in order, zeros after them,
and in the last register the client above the number. -/
structure Handle.AsksIn (handle : Handle) (words : List UInt64) (call : SecureCall) : Prop where
  function_eq : call.function = Function.request
  word_eq (index : Nat) (h : index < words.length) : call.argument (index + 1) = words[index]
  zero_after (index : Nat) (hl : words.length < index) (h : index ≤ 6) : call.argument index = 0
  client_eq : (call.argument 7).toNat / 2 ^ 32 = handle.client.id.toNat
  number_eq : (call.argument 7).toNat % 2 ^ 32 = handle.number.toNat

structure Client.OpensIn (client : Client) (service : Efi.Guid) (call : SecureCall) : Prop where
  function_eq : call.function = Function.openHandle
  word_lt (index : Nat) (h : index < 4) : (call.argument (index + 1)).toNat < 2 ^ 32
  bytes_eq : (List.range 4).flatMap (fun index =>
    Bytes.littleEndian 4 (call.argument (index + 1)).toNat) = service.bytes
  client_eq : (call.argument 7).toNat = client.id.toNat

namespace Handle

variable (handle : Handle)

/-- The number fits below the client id. -/
theorem toNat_target :
    handle.target.toNat = handle.client.id.toNat * 2 ^ 32 + handle.number.toNat := by
  have hc := handle.client.id.toNat_lt
  have hn := handle.number.toNat_lt
  have hs : (handle.client.id.toUInt64 <<< 32).toNat = handle.client.id.toNat * 2 ^ 32 := by
    have h32 : (32 : UInt64).toNat % 64 = 32 := rfl
    rw [UInt64.toNat_shiftLeft, UInt16.toNat_toUInt64, h32, Nat.shiftLeft_eq]
    exact Nat.mod_eq_of_lt (by omega)
  rw [target, UInt64.toNat_or, hs, UInt32.toNat_toUInt64, ← Nat.shiftLeft_eq,
    Nat.shiftLeft_add_eq_or_of_lt hn]

variable (words : List UInt64)

theorem argument_requestCall {index : Nat} (h0 : 0 < index) (h : index < 7) :
    (handle.requestCall words).argument index = words[index - 1]?.getD 0 := by
  rw [requestCall, SecureCall.argument_set_of_ne _ (by omega),
    SecureCall.argument_ofList _ _ h0 (by omega), List.getD_eq_getElem?_getD]

theorem target_requestCall : (handle.requestCall words).argument 7 = handle.target :=
  SecureCall.argument_set _ (by decide) (by decide) _

/-- Five words leave the last register alone. -/
theorem asksIn_requestCall (h : words.length ≤ maxWords) :
    handle.AsksIn words (handle.requestCall words) := by
  have ht := handle.toNat_target
  have hn := handle.number.toNat_lt
  rw [maxWords] at h
  refine ⟨handle.function_requestCall words, fun index hi => ?_, fun index hl h6 => ?_, ?_, ?_⟩
  · rw [handle.argument_requestCall words (by omega) (by omega), Nat.add_sub_cancel,
      List.getElem?_eq_getElem hi, Option.getD_some]
  · rw [handle.argument_requestCall words (by omega) (by omega),
      List.getElem?_eq_none (by omega), Option.getD_none]
  · rw [target_requestCall]
    omega
  · rw [target_requestCall]
    omega

variable {σ : Type} [SecureMonitor σ] (traced : Traced σ)

/-- Only a request that is refused is not called for. -/
theorem request_refused_iff :
    (outcome ((handle.request words).run traced) = .error .invalidParameter ∧
      (final ((handle.request words).run traced)).events = traced.events) ↔
      words.length = 0 ∨ maxWords < words.length := by
  constructor
  · rintro ⟨-, hk⟩
    by_contra hn
    have h0 : words.length ≠ 0 := by omega
    obtain ⟨answer, after, hr⟩ := handle.run_request traced.peer traced.events h0 (by omega)
    rw [hr, final_settle] at hk
    have hz := congrArg Array.size hk
    rw [Array.size_push] at hz
    omega
  · intro h
    rw [show (handle.request words).run traced = _ from
      handle.run_request_of_bad traced.peer traced.events h]
    exact ⟨rfl, rfl⟩

end Handle

namespace Client

variable (client : Client) (service : Efi.Guid)

theorem argument_openCall {index : Nat} (h : index < 4) :
    (client.openCall service).argument (index + 1) = (service.word index).toUInt64 := by
  rw [openCall, SecureCall.argument_set_of_ne _ (by omega),
    SecureCall.argument_ofList _ _ (by omega) (by omega)]
  simp [h]

theorem opensIn_openCall : client.OpensIn service (client.openCall service) := by
  have hw (index : Nat) (h : index < 4) :
      ((client.openCall service).argument (index + 1)).toNat = (service.word index).toNat := by
    rw [client.argument_openCall service h, UInt32.toNat_toUInt64]
  refine ⟨client.function_openCall service, fun index h => ?_, ?_, ?_⟩
  · rw [hw index h]
    exact (service.word index).toNat_lt
  · have hb : ∀ index ∈ List.range 4,
        Bytes.littleEndian 4 ((client.openCall service).argument (index + 1)).toNat =
          Bytes.word32 (service.word index) := fun index hi => by
      rw [hw index (List.mem_range.1 hi), Bytes.word32]
    rw [List.flatMap_congr hb, service.flatMap_word32_word]
  · rw [openCall, SecureCall.argument_set _ (by decide) (by decide), UInt16.toNat_toUInt64]

end Client

/-- A request without words or with too many is refused and not called for, and no other is. Any
other makes one call, and so does opening a handle, and what was passed is got back from the
registers of the call. A status of zero returns the registers of the answer. -/
theorem calls_carry_arguments {σ : Type} [SecureMonitor σ] (client : Client) (service : Efi.Guid)
    (handle : Handle) (words : List UInt64) (traced : Traced σ) :
    let asked := (handle.request words).run traced
    let opened := (client.openHandle service).run traced
    ((outcome asked = .error .invalidParameter ∧ (final asked).events = traced.events) ↔
      words.length = 0 ∨ 5 < words.length) ∧
    (words.length = 0 ∨ 5 < words.length ∨ ∃ call answer, handle.AsksIn words call ∧
      (final asked).events = traced.events.push (.call call answer) ∧
      (answer.status = 0 → outcome asked = .ok ⟨answer.x1, answer.x2, answer.x3⟩)) ∧
    ∃ call answer, client.OpensIn service call ∧
      (final opened).events = traced.events.push (.call call answer) ∧
      (answer.status = 0 → ∃ number : UInt32, number.toNat = answer.x2.toNat % 2 ^ 32 ∧
        outcome opened = .ok ⟨client, number, true⟩) := by
  intro asked opened
  refine ⟨handle.request_refused_iff words traced, ?_, ?_⟩
  · by_cases h0 : words.length = 0
    · exact .inl h0
    by_cases h5 : words.length ≤ Handle.maxWords
    · obtain ⟨answer, after, hr⟩ := handle.run_request traced.peer traced.events h0 h5
      have ha : asked = settle answer _ _ := hr
      refine .inr (.inr ⟨_, answer, handle.asksIn_requestCall words h5, ?_, fun hs => ?_⟩)
      · rw [ha, final_settle]
      · rw [ha, settle_of_zero _ _ hs, outcome_ok]
    · exact .inr (.inl (Nat.lt_of_not_le h5))
  · obtain ⟨answer, after, hr⟩ := client.run_openHandle service traced.peer traced.events
    have ho : opened = settle answer _ _ := hr
    refine ⟨_, answer, client.opensIn_openCall service, ?_,
      fun hs => ⟨_, UInt64.toNat_toUInt32 _, ?_⟩⟩
    · rw [ho, final_settle]
    · rw [ho, settle_of_zero _ _ hs, outcome_ok]

end SecurePartition

end PlatformFirmware
