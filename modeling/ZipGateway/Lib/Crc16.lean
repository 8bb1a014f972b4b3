import Mathlib.Data.List.Basic

/-!
# Sixteen-bit cyclic redundancy checks

A check value is computed bit by bit, most significant bit first, with a generator polynomial that
is a parameter. `crc16_crcBytes` is the property that receivers use: a string followed by its own
check value, high byte first, has the check value zero.
-/

set_option autoImplicit false

namespace ZipGateway.Lib

open List

/-- One bit of the message goes into the check value. -/
def crcBit (poly crc : BitVec 16) (bit : Bool) : BitVec 16 :=
  if bit ^^ crc.msb then (crc <<< 1) ^^^ poly else crc <<< 1

/-- One byte of the message goes into the check value, most significant bit first. -/
def crcByte (poly crc : BitVec 16) (byte : UInt8) : BitVec 16 :=
  (List.range 8).foldl (fun crc i ↦ crcBit poly crc (byte.toBitVec.getMsbD i)) crc

/-- The check value of a string, from an initial value. -/
def crc16 (poly init : BitVec 16) (bytes : List UInt8) : BitVec 16 :=
  bytes.foldl (crcByte poly) init

/-- A check value as two bytes, the high one first. -/
def crcBytes (crc : BitVec 16) : List UInt8 :=
  [⟨crc.extractLsb' 8 8⟩, ⟨crc.extractLsb' 0 8⟩]

@[simp]
theorem length_crcBytes (crc : BitVec 16) : (crcBytes crc).length = 2 :=
  rfl

/-- A bit that agrees with the top of the check value only shifts it. -/
theorem crcBit_msb (poly crc : BitVec 16) : crcBit poly crc crc.msb = crc <<< 1 := by
  simp [crcBit]

/-- The first `count` bits of a byte that agrees with the top byte of the check value only shift
it. -/
theorem foldl_crcBit_top (poly crc : BitVec 16) (count : ℕ) (hcount : count ≤ 8) :
    (List.range count).foldl (fun value i ↦
      crcBit poly value ((crc.extractLsb' 8 8).getMsbD i)) crc = crc <<< count := by
  induction count with
  | zero => simp
  | succ count ih =>
    have htop : (crc.extractLsb' 8 8).getMsbD count = (crc <<< count).msb := by
      rw [BitVec.msb_eq_getLsbD_last, BitVec.getMsbD_eq_getLsbD]
      simp only [BitVec.getLsbD_extractLsb', BitVec.getLsbD_shiftLeft]
      have hindex : 8 + (8 - 1 - count) = 16 - 1 - count := by omega
      rw [hindex]
      simp [show count < 8 by omega, show ¬ 15 < count by omega,
        show 8 - 1 - count < 8 by omega]
    rw [range_succ, foldl_append, ih (by omega)]
    simp only [foldl_cons, foldl_nil]
    rw [htop, crcBit_msb, ← BitVec.shiftLeft_add]

/-- A byte that is the top byte of the check value shifts it out. -/
theorem crcByte_top (poly crc : BitVec 16) :
    crcByte poly crc ⟨crc.extractLsb' 8 8⟩ = crc <<< 8 :=
  foldl_crcBit_top poly crc 8 (Nat.le_refl 8)

/-- A string followed by its check value has the check value zero. -/
theorem crc16_crcBytes (poly init : BitVec 16) (bytes : List UInt8) :
    crc16 poly init (bytes ++ crcBytes (crc16 poly init bytes)) = 0 := by
  unfold crc16
  rw [foldl_append]
  generalize bytes.foldl (crcByte poly) init = crc
  simp only [crcBytes, foldl_cons, foldl_nil]
  have hlow : crc.extractLsb' 0 8 = (crc <<< 8).extractLsb' 8 8 := by
    ext i hi
    simp only [BitVec.getElem_extractLsb', BitVec.getLsbD_shiftLeft]
    simp [show 8 + i < 16 by omega]
  rw [crcByte_top, hlow, crcByte_top, ← BitVec.shiftLeft_add]
  simp

end ZipGateway.Lib
