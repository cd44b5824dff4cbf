import PlatformFirmware.Proofs.Parameter.Wire

namespace PlatformFirmware.Parameter

namespace Response

theorem words?_eq_some_iff {bytes : Bytes} {status value : UInt32} :
    words? bytes = some (status, value) ↔
      Bytes.word32 status ++ Bytes.word32 value = bytes.take 8 := by
  have hl : (Bytes.word32 status ++ Bytes.word32 value).length = 8 := by simp
  constructor
  · intro h
    simp only [words?, Option.bind_eq_bind, Option.bind_eq_some_iff, Prod.exists,
      Bytes.word32?_eq_some_iff, Option.pure_def, Option.some.injEq, Prod.mk.injEq] at h
    obtain ⟨_, _, rfl, _, rest, rfl, rfl, rfl⟩ := h
    rw [← List.append_assoc, List.take_left' hl]
  · intro h
    rw [← List.take_append_drop 8 bytes, ← h]
    simp [words?, Bytes.word32?_word32]

theorem exists_words?_iff {bytes : Bytes} :
    (∃ status value, words? bytes = some (status, value)) ↔ 8 ≤ bytes.length := by
  constructor
  · rintro ⟨status, value, h⟩
    have ht := congrArg List.length (words?_eq_some_iff.1 h)
    rw [List.length_take, List.length_append, Bytes.length_word32, Bytes.length_word32] at ht
    omega
  · intro h
    have h0 : Bytes.word32? bytes = some (_, bytes.drop 4) := Bytes.word32?_of_le (by omega)
    have hl : 4 ≤ (bytes.drop 4).length := by
      rw [List.length_drop]
      omega
    have h4 := Bytes.word32?_of_le hl
    exact ⟨_, _, by simp only [words?, h0, h4, Option.bind_eq_bind, Option.bind_some]; rfl⟩

theorem ofBytes_eq_ok_iff {bytes : Bytes} {response : Response} :
    ofBytes bytes = .ok response ↔
      ∃ word, words? bytes = some (word, response.value) ∧ response.status = .ofWord word := by
  rw [ofBytes]
  cases hw : words? bytes with
  | none => simp
  | some words =>
    obtain ⟨word, value⟩ := words
    constructor
    · rintro ⟨⟩
      exact ⟨word, rfl, rfl⟩
    · rintro ⟨_, ⟨⟩, hs⟩
      simp only [← hs]

/-- Only a short message is refused, whatever its words are. -/
theorem ofBytes_eq_error_iff {bytes : Bytes} {e : Efi.Error} :
    ofBytes bytes = .error e ↔ bytes.length < 8 ∧ e = .deviceError := by
  rw [← Nat.not_le, ← exists_words?_iff, ofBytes]
  cases hw : words? bytes with
  | none => simp [eq_comm]
  | some words =>
    obtain ⟨word, value⟩ := words
    simp

/-- A status that has a word is encoded again as it was, any other becomes the word of a failure. -/
theorem toBytes_of_ofBytes {bytes : Bytes} {response : Response}
    (h : ofBytes bytes = .ok response) :
    response.toBytes = bytes.take 8 ↔
      ∃ status : Status, status.word.toNat = Bytes.ofLittleEndian (bytes.take 4) := by
  obtain ⟨word, hw, hs⟩ := ofBytes_eq_ok_iff.1 h
  have ht := words?_eq_some_iff.1 hw
  have hf : Bytes.ofLittleEndian (bytes.take 4) = word.toNat := by
    rw [← Bytes.ofLittleEndian_take_word32 word (Bytes.word32 response.value), ht, List.take_take]
    rfl
  simp only [hf, UInt32.toNat_inj]
  constructor
  · intro hr
    have hb : words? bytes = some (response.status.word, response.value) :=
      words?_eq_some_iff.2 hr
    cases hw.symm.trans hb
    exact ⟨response.status, rfl⟩
  · rintro ⟨status, rfl⟩
    rw [toBytes, hs, Status.ofWord_word, ht]

end Response

/-- Encoding is undone by decoding whatever follows the message, and decoding by encoding: a message
decodes as a request just if it is long enough and starts with the code of an operation, and then
its first 20 bytes are those of the request. A response is refused just if it is short, and encoded
again as it was just if its first word is that of a status. -/
theorem messages_decode_exactly :
    (∀ (request : Request) (rest : Bytes),
      Request.ofBytes (request.toBytes ++ rest) = .ok request) ∧
    (∀ bytes : Bytes,
      ((∃ request, Request.ofBytes bytes = .ok request) ↔
        20 ≤ bytes.length ∧ 1 ≤ Bytes.ofLittleEndian (bytes.take 4) ∧
          Bytes.ofLittleEndian (bytes.take 4) ≤ 4) ∧
      ∀ request, Request.ofBytes bytes = .ok request → request.toBytes = bytes.take 20) ∧
    (∀ (response : Response) (rest : Bytes),
      Response.ofBytes (response.toBytes ++ rest) = .ok response) ∧
    ∀ bytes : Bytes,
      (∀ e, Response.ofBytes bytes = .error e ↔ bytes.length < 8 ∧ e = .deviceError) ∧
      ∀ response, Response.ofBytes bytes = .ok response →
        (response.toBytes = bytes.take 8 ↔
          ∃ status : Status, status.word.toNat = Bytes.ofLittleEndian (bytes.take 4)) := by
  refine ⟨Request.ofBytes_toBytes_append, fun bytes => ⟨?_, fun request h => ?_⟩,
    Response.ofBytes_toBytes_append, fun bytes => ⟨fun e => ?_, fun response h => ?_⟩⟩
  · simp only [Request.ofBytes_eq_ok_iff]
    exact Request.exists_toBytes_iff
  · exact Request.ofBytes_eq_ok_iff.1 h
  · exact Response.ofBytes_eq_error_iff
  · exact Response.toBytes_of_ofBytes h

end PlatformFirmware.Parameter
