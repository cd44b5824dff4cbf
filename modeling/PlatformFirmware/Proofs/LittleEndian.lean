import Mathlib.Algebra.Ring.Nat
import PlatformFirmware.Bytes

namespace PlatformFirmware.Bytes

theorem ofLittleEndian_littleEndian (width n : Nat) :
    ofLittleEndian (littleEndian width n) = n % 256 ^ width := by
  induction width generalizing n with
  | zero => simp [littleEndian, ofLittleEndian, Nat.mod_one]
  | succ width ih =>
    have hb : (UInt8.ofNat n).toNat = n % 256 := by simp
    rw [littleEndian, ofLittleEndian, ih, hb, Nat.pow_succ, Nat.mul_comm (256 ^ width),
      Nat.mod_mul]

theorem ofLittleEndian_lt (bytes : Bytes) : ofLittleEndian bytes < 256 ^ bytes.length := by
  induction bytes with
  | nil => simp [ofLittleEndian]
  | cons b bs ih =>
    have hb := b.toNat_lt
    simp only [ofLittleEndian, List.length_cons, Nat.pow_succ]
    omega

@[simp] theorem length_word32 (w : UInt32) : (word32 w).length = 4 := length_littleEndian 4 _

theorem split?_append {front : Bytes} {count : Nat} (h : front.length = count) (rest : Bytes) :
    split? count (front ++ rest) = some (front, rest) := by
  subst h
  simp [split?]

theorem word16?_word16 (w : UInt16) (rest : Bytes) :
    word16? (word16 w ++ rest) = some (w, rest) := by
  have hw : ofLittleEndian (littleEndian 2 w.toNat) = w.toNat :=
    (ofLittleEndian_littleEndian 2 _).trans (Nat.mod_eq_of_lt w.toNat_lt)
  simp [word16?, word16, split?_append (length_littleEndian 2 _), hw]

theorem word32?_word32 (w : UInt32) (rest : Bytes) :
    word32? (word32 w ++ rest) = some (w, rest) := by
  have hw : ofLittleEndian (littleEndian 4 w.toNat) = w.toNat :=
    (ofLittleEndian_littleEndian 4 _).trans (Nat.mod_eq_of_lt w.toNat_lt)
  simp [word32?, word32, split?_append (length_littleEndian 4 _), hw]

theorem word64?_word64 (w : UInt64) (rest : Bytes) :
    word64? (word64 w ++ rest) = some (w, rest) := by
  have hw : ofLittleEndian (littleEndian 8 w.toNat) = w.toNat :=
    (ofLittleEndian_littleEndian 8 _).trans (Nat.mod_eq_of_lt w.toNat_lt)
  simp [word64?, word64, split?_append (length_littleEndian 8 _), hw]

theorem ofLittleEndian_take_word32 (w : UInt32) (rest : Bytes) :
    ofLittleEndian ((word32 w ++ rest).take 4) = w.toNat := by
  rw [List.take_left' (length_word32 w), word32, ofLittleEndian_littleEndian]
  exact Nat.mod_eq_of_lt w.toNat_lt

theorem word32_ofLittleEndian {bytes : Bytes} (h : bytes.length = 4) :
    word32 (UInt32.ofNat (ofLittleEndian bytes)) = bytes := by
  have hb := ofLittleEndian_lt bytes
  rw [h] at hb
  have hw : (UInt32.ofNat (ofLittleEndian bytes)).toNat = ofLittleEndian bytes :=
    UInt32.toNat_ofNat_of_lt' hb
  rw [word32, hw, ← h, littleEndian_ofLittleEndian]

theorem word32?_eq_some_iff {bytes rest : Bytes} {w : UInt32} :
    word32? bytes = some (w, rest) ↔ bytes = word32 w ++ rest := by
  refine ⟨fun h => ?_, fun h => h ▸ word32?_word32 w rest⟩
  rw [word32?, split?] at h
  split at h
  · next hl =>
    obtain ⟨rfl, rfl⟩ := Prod.mk.inj (Option.some.inj h)
    rw [word32_ofLittleEndian (List.length_take_of_le hl), List.take_append_drop]
  · cases h

theorem word32?_of_le {bytes : Bytes} (h : 4 ≤ bytes.length) :
    word32? bytes = some (UInt32.ofNat (ofLittleEndian (bytes.take 4)), bytes.drop 4) := by
  rw [word32?, split?, if_pos h]
  rfl

end PlatformFirmware.Bytes
