import Mathlib.Data.List.GetD
import Mathlib.Data.UInt

/-!
# Buffers of bytes

A buffer is a number of bytes that may be written, and what is there. `store` writes some bytes at
an offset, or fails when one of them would stand past the end. `load` reads; what is read past the
end is whatever `byte` says. `bitAt` reads a run of bytes as a bit mask.
-/

set_option autoImplicit false

namespace ZipGateway.Lib

open List

/-- A buffer of bytes. -/
structure Buffer where
  size : ℕ
  byte : ℕ → UInt8

namespace Buffer

/-- The buffer with some bytes written at an offset. -/
def write (buffer : Buffer) (offset : ℕ) (bytes : List UInt8) : Buffer where
  size := buffer.size
  byte := fun i ↦
    if offset ≤ i ∧ i < offset + bytes.length then bytes.getD (i - offset) 0 else buffer.byte i

/-- Writes some bytes at an offset, if there is room for all of them. -/
def store (buffer : Buffer) (offset : ℕ) (bytes : List UInt8) : Option Buffer :=
  if offset + bytes.length ≤ buffer.size then some (buffer.write offset bytes) else none

/-- The bytes from an offset on. -/
def load (buffer : Buffer) (offset count : ℕ) : List UInt8 :=
  (List.range count).map fun i ↦ buffer.byte (offset + i)

variable {buffer stored : Buffer} {offset count i : ℕ} {bytes : List UInt8}

@[simp]
theorem size_write : (buffer.write offset bytes).size = buffer.size :=
  rfl

theorem byte_write : (buffer.write offset bytes).byte i =
    if offset ≤ i ∧ i < offset + bytes.length then bytes.getD (i - offset) 0 else buffer.byte i :=
  rfl

/-- What was written is there. -/
theorem byte_write_of_mem (hstart : offset ≤ i) (hend : i < offset + bytes.length) :
    (buffer.write offset bytes).byte i = bytes.getD (i - offset) 0 :=
  if_pos ⟨hstart, hend⟩

/-- The bytes in front of what was written stay. -/
theorem byte_write_of_lt
    (hstart : i < offset) : (buffer.write offset bytes).byte i = buffer.byte i :=
  if_neg fun h ↦ absurd h.1 (Nat.not_le_of_lt hstart)

/-- The bytes behind what was written stay. -/
theorem byte_write_of_ge (hend : offset + bytes.length ≤ i) :
    (buffer.write offset bytes).byte i = buffer.byte i :=
  if_neg fun h ↦ absurd h.2 (Nat.not_lt_of_le hend)

/-- A write with room for it. -/
theorem store_of_le (hroom : offset + bytes.length ≤ buffer.size) :
    buffer.store offset bytes = some (buffer.write offset bytes) :=
  if_pos hroom

/-- A byte of what was read. -/
theorem getD_load
    (hi : i < count) : (buffer.load offset count).getD i 0 = buffer.byte (offset + i) := by
  simp [load, getD_eq_getElem?_getD, hi]

end Buffer

/-! ### Bytes at a place -/

/-- Some bytes stand in a memory from a place on. -/
def StandsAt (memory : ℕ → UInt8) (start : ℕ) (bytes : List UInt8) : Prop :=
  ∀ i < bytes.length, memory (start + i) = bytes.getD i 0

section StandsAt

variable {memory other : ℕ → UInt8} {buffer : Buffer} {start offset : ℕ}
  {bytes first second : List UInt8}

theorem standsAt_nil : StandsAt memory start [] := fun _ hi ↦ absurd hi (Nat.not_lt_zero _)

/-- Bytes stand in two memories that agree on them. -/
theorem StandsAt.congr (hstands : StandsAt memory start bytes)
    (hagree : ∀ i, start ≤ i → i < start + bytes.length → other i = memory i) :
    StandsAt other start bytes :=
  fun i hi ↦ (hagree _ (Nat.le_add_right ..) (Nat.add_lt_add_left hi start)).trans (hstands i hi)

/-- Two runs of bytes stand one behind the other. -/
theorem standsAt_append :
    StandsAt memory start (first ++ second) ↔
      StandsAt memory start first ∧ StandsAt memory (start + first.length) second := by
  constructor
  · intro hstands
    refine ⟨fun i hi ↦ ?_, fun i hi ↦ ?_⟩
    · have hbyte := hstands i (by rw [length_append]; omega)
      rw [hbyte, List.getD_append _ _ _ _ hi]
    · have hbyte := hstands (first.length + i) (by rw [length_append]; omega)
      rw [Nat.add_assoc, hbyte, getD_append_right _ _ _ _ (Nat.le_add_right ..),
        Nat.add_sub_cancel_left]
  · rintro ⟨hfirst, hsecond⟩ i hi
    rw [length_append] at hi
    rcases Nat.lt_or_ge i first.length with hbefore | hbehind
    · rw [hfirst i hbefore, List.getD_append _ _ _ _ hbefore]
    · have hbyte := hsecond (i - first.length) (by omega)
      rw [Nat.add_assoc, Nat.add_sub_cancel' hbehind] at hbyte
      rw [hbyte, getD_append_right _ _ _ _ hbehind]

theorem standsAt_write : StandsAt (buffer.write offset bytes).byte offset bytes := by
  intro i hi
  rw [Buffer.byte_write_of_mem (Nat.le_add_right ..) (Nat.add_lt_add_left hi offset),
    Nat.add_sub_cancel_left]

/-- A write in front of some bytes, or behind them, leaves them. -/
theorem StandsAt.write (hstands : StandsAt buffer.byte start bytes)
    (hapart : offset + first.length ≤ start ∨ start + bytes.length ≤ offset) :
    StandsAt (buffer.write offset first).byte start bytes := by
  refine hstands.congr fun i hstart hend ↦ ?_
  rcases hapart with hbefore | hbehind
  · exact Buffer.byte_write_of_ge (hbefore.trans hstart)
  · exact Buffer.byte_write_of_lt (hend.trans_le hbehind)

/-- What is written where some bytes end stands behind them. -/
theorem StandsAt.write_behind (hstands : StandsAt buffer.byte start first)
    (hoffset : offset = start + first.length) :
    StandsAt (buffer.write offset second).byte start (first ++ second) := by
  subst hoffset
  exact standsAt_append.mpr ⟨hstands.write (.inr le_rfl), standsAt_write⟩

/-- The bytes that stand at a place, as a list. -/
theorem StandsAt.map_range (hstands : StandsAt memory start bytes) :
    (List.range bytes.length).map (fun i ↦ memory (start + i)) = bytes := by
  refine ext_getElem (by simp) fun i hmap hi ↦ ?_
  have hbyte := hstands i hi
  rw [getD_eq_getElem?_getD, List.getElem?_eq_getElem hi, Option.getD_some] at hbyte
  rw [← hbyte]
  simp only [getElem_map, getElem_range]

/-- What stands at a place is what is read there. -/
theorem StandsAt.load_eq (hstands : StandsAt buffer.byte start bytes) :
    buffer.load start bytes.length = bytes :=
  hstands.map_range

end StandsAt

/-! ### Bit masks -/

/-- The bit at a place of a bit mask. -/
def bitAt (byte : ℕ → UInt8) (place : ℕ) : Bool := (byte (place / 8)).toNat.testBit (place % 8)

/-- Two bytes with the same bits are equal. -/
theorem byte_eq_of_testBit {first second : UInt8}
    (hbits : ∀ place < 8, first.toNat.testBit place = second.toNat.testBit place) :
    first = second := by
  apply UInt8.toNat_inj.mp
  apply Nat.eq_of_testBit_eq
  intro place
  by_cases hplace : place < 8
  · exact hbits place hplace
  · have hpow : 2 ^ 8 ≤ 2 ^ place := Nat.pow_le_pow_right (by decide) (Nat.le_of_not_lt hplace)
    rw [Nat.testBit_lt_two_pow (first.toNat_lt.trans_le hpow),
      Nat.testBit_lt_two_pow (second.toNat_lt.trans_le hpow)]

/-- Two masks list the same places exactly when their bytes are the same. -/
theorem bitAt_ext_iff {first second : ℕ → UInt8} :
    (∀ place, bitAt first place = bitAt second place) ↔ ∀ i, first i = second i := by
  constructor
  · intro hbits i
    apply byte_eq_of_testBit
    intro place hplace
    have hbit := hbits (8 * i + place)
    have hbyte : (8 * i + place) / 8 = i := by omega
    have hrest : (8 * i + place) % 8 = place := by omega
    rw [bitAt, bitAt, hbyte, hrest] at hbit
    exact hbit
  · intro hbytes place
    rw [bitAt, bitAt, hbytes]

end ZipGateway.Lib
