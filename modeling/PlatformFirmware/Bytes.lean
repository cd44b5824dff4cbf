namespace PlatformFirmware

abbrev Bytes := List UInt8

namespace Bytes

def zero (length : Nat) : Bytes := List.replicate length 0

def slice (memory : Bytes) (offset length : Nat) : Bytes := (memory.drop offset).take length

/-- Writes `data` at `offset`. What lies beyond the end of the memory is cut off, so the memory
keeps its length. -/
def write (memory : Bytes) (offset : Nat) (data : Bytes) : Bytes :=
  memory.take offset ++ data.take (memory.length - offset) ++ memory.drop (offset + data.length)

def littleEndian : Nat → Nat → Bytes
  | 0, _ => []
  | width + 1, n => UInt8.ofNat n :: littleEndian width (n / 256)

def ofLittleEndian : Bytes → Nat
  | [] => 0
  | b :: bs => b.toNat + 256 * ofLittleEndian bs

def word16 (w : UInt16) : Bytes := littleEndian 2 w.toNat

def word32 (w : UInt32) : Bytes := littleEndian 4 w.toNat

def word64 (w : UInt64) : Bytes := littleEndian 8 w.toNat

def split? (count : Nat) (bytes : Bytes) : Option (Bytes × Bytes) :=
  if count ≤ bytes.length then some (bytes.take count, bytes.drop count) else none

def byte? : Bytes → Option (UInt8 × Bytes)
  | [] => none
  | b :: bs => some (b, bs)

def word16? (bytes : Bytes) : Option (UInt16 × Bytes) :=
  (split? 2 bytes).map fun (head, rest) => (UInt16.ofNat (ofLittleEndian head), rest)

def word32? (bytes : Bytes) : Option (UInt32 × Bytes) :=
  (split? 4 bytes).map fun (head, rest) => (UInt32.ofNat (ofLittleEndian head), rest)

def word64? (bytes : Bytes) : Option (UInt64 × Bytes) :=
  (split? 8 bytes).map fun (head, rest) => (UInt64.ofNat (ofLittleEndian head), rest)

@[simp] theorem length_zero (length : Nat) : (zero length).length = length := by simp [zero]

@[simp] theorem length_write (memory : Bytes) (offset : Nat) (data : Bytes) :
    (write memory offset data).length = memory.length := by
  simp only [write, List.length_append, List.length_take, List.length_drop]
  omega

/-- A write that fits is read back. -/
theorem slice_write (memory : Bytes) (offset : Nat) (data : Bytes)
    (h : offset + data.length ≤ memory.length) :
    slice (write memory offset data) offset data.length = data := by
  have ho : (memory.take offset).length = offset := by simp; omega
  have hd : data.take (memory.length - offset) = data := List.take_of_length_le (by omega)
  rw [slice, write, hd, List.append_assoc]
  conv => lhs; rw [← ho]
  simp

/-- A write changes the bytes it covers and no others. -/
theorem getElem?_write (memory : Bytes) (offset : Nat) (data : Bytes) (i : Nat) :
    (write memory offset data)[i]? =
      if offset ≤ i ∧ i < offset + data.length ∧ i < memory.length then data[i - offset]?
      else memory[i]? := by
  simp only [write, List.getElem?_append, List.getElem?_take, List.getElem?_drop,
    List.length_append, List.length_take]
  grind

theorem slice_write_of_disjoint (memory : Bytes) (offset : Nat) (data : Bytes) (start length : Nat)
    (h : start + length ≤ offset ∨ offset + data.length ≤ start) :
    slice (write memory offset data) start length = slice memory start length := by
  apply List.ext_getElem?
  intro i
  simp only [slice, List.getElem?_take, List.getElem?_drop, getElem?_write]
  grind

@[simp] theorem length_littleEndian (width n : Nat) : (littleEndian width n).length = width := by
  induction width generalizing n with
  | zero => rfl
  | succ width ih => simp [littleEndian, ih]

theorem littleEndian_ofLittleEndian (bytes : Bytes) :
    littleEndian bytes.length (ofLittleEndian bytes) = bytes := by
  induction bytes with
  | nil => rfl
  | cons b bs ih =>
    have hb := b.toNat_lt
    have hd : (b.toNat + 256 * ofLittleEndian bs) / 256 = ofLittleEndian bs := by omega
    have hm : UInt8.ofNat (b.toNat + 256 * ofLittleEndian bs) = b := by
      apply UInt8.toNat_inj.1
      rw [UInt8.toNat_ofNat']
      omega
    simp [littleEndian, ofLittleEndian, hd, hm, ih]

end Bytes

end PlatformFirmware
