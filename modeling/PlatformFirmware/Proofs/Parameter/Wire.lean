import PlatformFirmware.Parameter.Owner
import PlatformFirmware.Proofs.LittleEndian

namespace PlatformFirmware.Parameter

theorem Operation.ofCode_code (operation : Operation) : ofCode operation.code = .ok operation := by
  cases operation <;> rfl

theorem Operation.ofCode_of_ne {code : UInt32}
    (h : ∀ operation : Operation, operation.code ≠ code) : ofCode code = .error .invalid := by
  have h1 : code ≠ 1 := Ne.symm (h .get)
  have h2 : code ≠ 2 := Ne.symm (h .set)
  have h3 : code ≠ 3 := Ne.symm (h .clear)
  have h4 : code ≠ 4 := Ne.symm (h .clearAll)
  rw [ofCode, if_neg h1, if_neg h2, if_neg h3, if_neg h4]

theorem Operation.ofCode_cases (code : UInt32) :
    (∃ operation : Operation, operation.code = code ∧ ofCode code = .ok operation) ∨
      ofCode code = .error .invalid := by
  by_cases h : ∃ operation : Operation, operation.code = code
  · obtain ⟨operation, rfl⟩ := h
    exact .inl ⟨operation, rfl, ofCode_code operation⟩
  · exact .inr (ofCode_of_ne (not_exists.1 h))

theorem Operation.exists_code_iff {code : UInt32} :
    (∃ operation : Operation, operation.code = code) ↔ 1 ≤ code.toNat ∧ code.toNat ≤ 4 := by
  constructor
  · rintro ⟨operation, rfl⟩
    cases operation <;> decide
  · intro ⟨h1, h4⟩
    have hn : code.toNat = 1 ∨ code.toNat = 2 ∨ code.toNat = 3 ∨ code.toNat = 4 := by omega
    rcases hn with h | h | h | h
    · exact ⟨.get, UInt32.toNat_inj.1 h.symm⟩
    · exact ⟨.set, UInt32.toNat_inj.1 h.symm⟩
    · exact ⟨.clear, UInt32.toNat_inj.1 h.symm⟩
    · exact ⟨.clearAll, UInt32.toNat_inj.1 h.symm⟩

theorem Status.ofWord_word (status : Status) : ofWord status.word = status := by
  cases status <;> rfl

namespace Request

@[simp] theorem length_toBytes (request : Request) : request.toBytes.length = 20 := by
  simp [toBytes]

theorem words?_toBytes (request : Request) (rest : Bytes) :
    words? (request.toBytes ++ rest) =
      some (request.operation.code, request.id, request.readAcl.bits, request.writeAcl.bits,
        request.value) := by
  simp [words?, toBytes, Bytes.word32?_word32]

theorem ofBytes_toBytes_append (request : Request) (rest : Bytes) :
    ofBytes (request.toBytes ++ rest) = .ok request := by
  rw [ofBytes, words?_toBytes]
  simp only [Operation.ofCode_code]
  rfl

theorem ofBytes_toBytes (request : Request) : ofBytes request.toBytes = .ok request := by
  have h := request.ofBytes_toBytes_append []
  rwa [List.append_nil] at h

theorem append_of_words? {bytes : Bytes} {operation id readAcl writeAcl value : UInt32}
    (h : words? bytes = some (operation, id, readAcl, writeAcl, value)) :
    ∃ rest, bytes = Bytes.word32 operation ++ Bytes.word32 id ++ Bytes.word32 readAcl ++
      Bytes.word32 writeAcl ++ Bytes.word32 value ++ rest := by
  simp only [words?, Option.bind_eq_bind, Option.bind_eq_some_iff, Prod.exists,
    Bytes.word32?_eq_some_iff, Option.pure_def, Option.some.injEq, Prod.mk.injEq] at h
  obtain ⟨_, _, rfl, _, _, rfl, _, _, rfl, _, _, rfl, _, rest, rfl, rfl, rfl, rfl, rfl, rfl⟩ := h
  exact ⟨rest, by simp only [List.append_assoc]⟩

theorem ofBytes_cases (bytes : Bytes) :
    (∃ request, ofBytes bytes = .ok request ∧ bytes.take 20 = request.toBytes) ∨
      ofBytes bytes = .error .invalid := by
  rw [ofBytes]
  cases hw : words? bytes with
  | none => exact .inr rfl
  | some words =>
    obtain ⟨code, id, readAcl, writeAcl, value⟩ := words
    rcases Operation.ofCode_cases code with ⟨operation, rfl, ho⟩ | ho
    · obtain ⟨rest, rfl⟩ := append_of_words? hw
      have hl := length_toBytes ⟨operation, id, ⟨readAcl⟩, ⟨writeAcl⟩, value⟩
      refine .inl ⟨⟨operation, id, ⟨readAcl⟩, ⟨writeAcl⟩, value⟩, by simp only [ho]; rfl, ?_⟩
      rw [toBytes] at hl ⊢
      exact List.take_left' hl
    · exact .inr (by simp only [ho]; rfl)

theorem ofBytes_eq_ok_iff {bytes : Bytes} {request : Request} :
    ofBytes bytes = .ok request ↔ request.toBytes = bytes.take 20 := by
  constructor
  · intro h
    rcases ofBytes_cases bytes with ⟨request', h', ht⟩ | h'
    · cases h'.symm.trans h
      exact ht.symm
    · cases h'.symm.trans h
  · intro h
    rw [← List.take_append_drop 20 bytes, ← h]
    exact request.ofBytes_toBytes_append _

def WellFormed (bytes : Bytes) : Prop :=
  20 ≤ bytes.length ∧
    1 ≤ Bytes.ofLittleEndian (bytes.take 4) ∧ Bytes.ofLittleEndian (bytes.take 4) ≤ 4

instance (bytes : Bytes) : Decidable (WellFormed bytes) :=
  inferInstanceAs (Decidable (_ ∧ _ ∧ _))

theorem words?_of_le {bytes : Bytes} (h : 20 ≤ bytes.length) :
    ∃ id readAcl writeAcl value, words? bytes =
      some (UInt32.ofNat (Bytes.ofLittleEndian (bytes.take 4)), id, readAcl, writeAcl, value) := by
  have hw (skipped : Nat) (hs : skipped + 4 ≤ 20) :
      Bytes.word32? (bytes.drop skipped) = some (_, (bytes.drop skipped).drop 4) :=
    Bytes.word32?_of_le (by rw [List.length_drop]; omega)
  have h0 := hw 0 (by decide)
  have h4 := hw 4 (by decide)
  have h8 := hw 8 (by decide)
  have h12 := hw 12 (by decide)
  have h16 := hw 16 (by decide)
  simp only [List.drop_zero, List.drop_drop, Nat.reduceAdd] at h0 h4 h8 h12 h16
  simp [words?, h0, h4, h8, h12, h16]

theorem ofLittleEndian_take_toBytes (request : Request) :
    Bytes.ofLittleEndian (request.toBytes.take 4) = request.operation.code.toNat := by
  simp only [toBytes, List.append_assoc]
  exact Bytes.ofLittleEndian_take_word32 _ _

theorem exists_toBytes_iff {bytes : Bytes} :
    (∃ request : Request, request.toBytes = bytes.take 20) ↔ WellFormed bytes := by
  constructor
  · rintro ⟨request, h⟩
    have hl : 20 ≤ bytes.length := by
      have ht := congrArg List.length h
      rw [length_toBytes, List.length_take] at ht
      omega
    have hf : (bytes.take 20).take 4 = bytes.take 4 := by rw [List.take_take]; rfl
    obtain ⟨h1, h4⟩ := Operation.exists_code_iff.1 ⟨request.operation, rfl⟩
    rw [← ofLittleEndian_take_toBytes, h, hf] at h1 h4
    exact ⟨hl, h1, h4⟩
  · rintro ⟨hl, h1, h4⟩
    obtain ⟨id, readAcl, writeAcl, value, hw⟩ := words?_of_le hl
    have hb : Bytes.ofLittleEndian (bytes.take 4) < 2 ^ 32 := Nat.lt_of_le_of_lt h4 (by decide)
    have hn := UInt32.toNat_ofNat_of_lt' hb
    rw [← hn] at h1 h4
    obtain ⟨operation, ho⟩ := Operation.exists_code_iff.2 ⟨h1, h4⟩
    refine ⟨⟨operation, id, ⟨readAcl⟩, ⟨writeAcl⟩, value⟩, ofBytes_eq_ok_iff.1 ?_⟩
    rw [ofBytes, hw]
    simp only [← ho, Operation.ofCode_code]
    rfl

theorem ofBytes_of_malformed {bytes : Bytes} (h : ¬ WellFormed bytes) :
    ofBytes bytes = .error .invalid := by
  rcases ofBytes_cases bytes with ⟨request, -, ht⟩ | hb
  · exact absurd (exists_toBytes_iff.1 ⟨request, ht.symm⟩) h
  · exact hb

end Request

namespace Response

@[simp] theorem length_toBytes (response : Response) : response.toBytes.length = 8 := by
  simp [toBytes]

theorem ofBytes_toBytes_append (response : Response) (rest : Bytes) :
    ofBytes (response.toBytes ++ rest) = .ok response := by
  have hw : words? (response.toBytes ++ rest) = some (response.status.word, response.value) := by
    simp [words?, toBytes, Bytes.word32?_word32]
  rw [ofBytes, hw]
  simp only [Status.ofWord_word]

theorem ofBytes_toBytes (response : Response) : ofBytes response.toBytes = .ok response := by
  have h := response.ofBytes_toBytes_append []
  rwa [List.append_nil] at h

end Response

section Registers

theorem Request.ofCall_call (function : UInt32) (request : Request) :
    ofCall (request.call function) = .ok request := by
  have h (index : Nat) (h0 : 0 < index) (hl : index < 8) :=
    SecureCall.argument_ofList function [request.operation.code.toUInt64, request.id.toUInt64,
      request.readAcl.bits.toUInt64, request.writeAcl.bits.toUInt64, request.value.toUInt64] h0 hl
  rw [ofCall, call, h 1 (by decide) (by decide), h 2 (by decide) (by decide),
    h 3 (by decide) (by decide), h 4 (by decide) (by decide), h 5 (by decide) (by decide)]
  simp [Operation.ofCode_code, Except.map]

theorem Response.ofAnswer_answer (response : Response) : ofAnswer response.answer = response := by
  simp [ofAnswer, answer, Status.ofWord_word]

theorem Response.check_answer (response : Response) : response.answer.check = .ok () := rfl

end Registers

end PlatformFirmware.Parameter
