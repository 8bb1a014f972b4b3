import ZipGateway.MulticastGroups.Model

/-!
# The distance of two node masks

What `mcast_nodemask_distance` computes byte by byte is said here in terms of the bits of the masks:
the distance is infinite unless every bit of the old mask is in the new one, and it is then the
number of bits that are missing in the old one (`mcastNodemaskDistance_toNat`). The 16 bit sum does
not overflow, because a mask has only 4008 bits.
-/

set_option autoImplicit false

namespace ZipGateway.MulticastGroups

open List ZipGateway.Nodemask

/-- Every bit of the old mask is in the new one. -/
def IsSubset (old new : Nodemask) : Prop :=
  ∀ bit, bit8Tst bit old = true → bit8Tst bit new = true

/-- The number of bits of the new mask that are not in the old one. -/
def missing (old new : Nodemask) : ℕ :=
  (Finset.univ.filter fun bit ↦ bit8Tst bit new = true ∧ bit8Tst bit old ≠ true).card

/-! ### Bytes -/

/-- The number of bits that are set in a byte. -/
def bitCount (byte : UInt8) : ℕ :=
  (Finset.univ.filter fun place : Fin 8 ↦ byte.toNat.testBit place = true).card

theorem bitCount_le (byte : UInt8) : bitCount byte ≤ 8 :=
  (Finset.card_le_univ _).trans (by simp)

theorem forall_byte {property : UInt8 → Prop}
    (hall : ∀ value : Fin 256, property (UInt8.ofNat value)) (byte : UInt8) : property byte := by
  have hbyte := hall ⟨byte.toNat, byte.toNat_lt⟩
  rwa [UInt8.ofNat_toNat] at hbyte

/-- Taking away the lowest bit leaves one bit less. -/
theorem bitCount_and_sub_one (byte : UInt8) :
    0 < byte → bitCount (byte &&& (byte - 1)) + 1 = bitCount byte :=
  @forall_byte (fun byte ↦ 0 < byte → bitCount (byte &&& (byte - 1)) + 1 = bitCount byte)
    (by decide +kernel) byte

theorem countBits_eq (tmp : UInt8) (dist : UInt16) :
    countBits tmp dist = dist + UInt16.ofNat (bitCount tmp) := by
  induction tmp, dist using countBits.induct with
  | case1 tmp dist hpos ih =>
    rw [countBits, if_pos hpos, ih, ← bitCount_and_sub_one tmp hpos, UInt16.ofNat_add,
      UInt16.add_assoc, UInt16.add_comm 1]
    rfl
  | case2 tmp dist hzero =>
    have htmp : tmp = 0 := by
      rw [UInt8.lt_iff_toNat_lt, UInt8.toNat_zero, not_lt, Nat.le_zero] at hzero
      exact UInt8.toNat_inj.mp hzero
    rw [countBits, if_neg hzero, htmp, show bitCount 0 = 0 from by decide]
    exact (UInt16.add_zero dist).symm

/-- A byte has no bit outside another one when each of its bits is there. -/
theorem and_not_eq_zero (old new : UInt8) :
    old &&& ~~~new = 0 ↔
      ∀ place : ℕ, old.toNat.testBit place = true → new.toNat.testBit place = true := by
  have hbit (byte : UInt8) (place : ℕ) : byte.toNat.testBit place = byte.toBitVec.getLsbD place :=
    rfl
  rw [← UInt8.toBitVec_inj]
  constructor
  · intro hzero place hold
    have hplace := congrArg (fun bits ↦ BitVec.getLsbD bits place) hzero
    have hlt : place < 8 := BitVec.lt_of_getLsbD hold
    simp only [UInt8.toBitVec_and, UInt8.toBitVec_not, BitVec.getLsbD_and,
      BitVec.getLsbD_not] at hplace
    rw [hbit] at hold ⊢
    simpa [hold, hlt] using hplace
  · intro hall
    apply BitVec.eq_of_getLsbD_eq
    intro place hlt
    have hplace := hall place
    rw [hbit, hbit] at hplace
    simp only [UInt8.toBitVec_and, UInt8.toBitVec_not, BitVec.getLsbD_and, BitVec.getLsbD_not, hlt,
      decide_true, Bool.true_and]
    cases hold : old.toBitVec.getLsbD place with
    | false => simp
    | true => simp [hplace hold]

theorem mcastByteDistance_eq (old new : UInt8) :
    mcastByteDistance old new =
      if old &&& ~~~new = 0 then UInt16.ofNat (bitCount (old ^^^ new)) else mcastDistInf := by
  rw [mcastByteDistance]
  by_cases hsame : old = new
  · subst hsame
    rw [if_pos rfl, UInt8.and_not_self, if_pos rfl, UInt8.xor_self]
    decide
  · rw [if_neg hsame]
    by_cases hsubset : old &&& ~~~new = 0
    · rw [if_neg (not_not.mpr hsubset), if_pos hsubset, countBits_eq]
      exact UInt16.zero_add _
    · rw [if_pos hsubset, if_neg hsubset]

theorem ofNat_bitCount_ne_inf (byte : UInt8) : UInt16.ofNat (bitCount byte) ≠ mcastDistInf := by
  intro heq
  have hvalue := congrArg UInt16.toNat heq
  have hle := bitCount_le byte
  rw [UInt16.toNat_ofNat', Nat.mod_eq_of_lt (by omega)] at hvalue
  rw [hvalue] at hle
  exact absurd hle (by decide)

/-! ### Masks -/

/-- The loop over the bytes of two masks. -/
theorem nodemaskDistanceFrom_eq (old new : Nodemask) (bytes : List (Fin nodemaskSize))
    (dist : UInt16) :
    nodemaskDistanceFrom old new bytes dist =
      if ∀ ii ∈ bytes, old ii &&& ~~~new ii = 0 then
        dist + UInt16.ofNat (bytes.map fun ii ↦ bitCount (old ii ^^^ new ii)).sum
      else mcastDistInf := by
  induction bytes generalizing dist with
  | nil => simp [nodemaskDistanceFrom]
  | cons ii rest ih =>
    rw [nodemaskDistanceFrom, mcastByteDistance_eq]
    by_cases hfirst : old ii &&& ~~~new ii = 0
    · rw [if_pos hfirst, if_neg (ofNat_bitCount_ne_inf _), ih]
      simp only [forall_mem_cons, hfirst, true_and, map_cons, sum_cons,
        UInt16.ofNat_add, UInt16.add_assoc]
    · rw [if_neg hfirst, if_pos rfl, if_neg]
      intro hall
      exact hfirst (hall ii mem_cons_self)

/-- The bit at a place of a byte. -/
def bitAt (ii : Fin nodemaskSize) (place : Fin 8) : Fin (8 * nodemaskSize) :=
  ⟨8 * ii + place, by have := ii.isLt; have := place.isLt; omega⟩

theorem byteOf_bitAt (ii : Fin nodemaskSize) (place : Fin 8) : byteOf (bitAt ii place) = ii := by
  apply Fin.ext
  show (8 * (ii : ℕ) + place) / 8 = ii
  have := place.isLt
  omega

theorem bit8Tst_bitAt (ii : Fin nodemaskSize) (place : Fin 8) (mask : Nodemask) :
    bit8Tst (bitAt ii place) mask = (mask ii).toNat.testBit place := by
  have hplace : ((bitAt ii place : Fin _) : ℕ) % 8 = place := by
    show (8 * (ii : ℕ) + place) % 8 = place
    have := place.isLt
    omega
  rw [bit8Tst, byteOf_bitAt, hplace]

theorem bitAt_byteOf (bit : Fin (8 * nodemaskSize)) :
    bitAt (byteOf bit) ⟨bit % 8, Nat.mod_lt _ (by decide)⟩ = bit :=
  Fin.ext (Nat.div_add_mod _ _)

/-- One mask is a subset of another when each byte is. -/
theorem isSubset_iff (old new : Nodemask) :
    IsSubset old new ↔ ∀ ii, old ii &&& ~~~new ii = 0 := by
  constructor
  · intro hsubset ii
    rw [and_not_eq_zero]
    intro place hold
    have hlt : place < 8 := BitVec.lt_of_getLsbD (x := (old ii).toBitVec) hold
    have hbit := hsubset (bitAt ii ⟨place, hlt⟩)
    rw [bit8Tst_bitAt, bit8Tst_bitAt] at hbit
    exact hbit hold
  · intro hall bit hold
    rw [← bitAt_byteOf bit, bit8Tst_bitAt] at hold ⊢
    exact (and_not_eq_zero _ _).mp (hall _) _ hold

/-- Two masks with the same bits are the same. -/
theorem eq_of_isSubset {old new : Nodemask} (hforth : IsSubset old new) (hback : IsSubset new old) :
    old = new := by
  funext ii
  apply UInt8.toNat_inj.mp
  apply Nat.eq_of_testBit_eq
  intro place
  have hold := (and_not_eq_zero _ _).mp ((isSubset_iff old new).mp hforth ii) place
  have hnew := (and_not_eq_zero _ _).mp ((isSubset_iff new old).mp hback ii) place
  exact Bool.eq_iff_iff.mpr ⟨hold, hnew⟩

/-- A subset that misses nothing is the whole mask. -/
theorem missing_eq_zero {old new : Nodemask} (hsubset : IsSubset old new) :
    missing old new = 0 ↔ old = new := by
  constructor
  · intro hzero
    refine eq_of_isSubset hsubset fun bit hbit ↦ ?_
    by_contra hold
    have hmem := Finset.filter_eq_empty_iff.mp (Finset.card_eq_zero.mp hzero)
    exact hmem (Finset.mem_univ bit) ⟨hbit, hold⟩
  · rintro rfl
    rw [missing, Finset.card_eq_zero, Finset.filter_eq_empty_iff]
    rintro bit - ⟨hin, hout⟩
    exact hout hin

/-- The missing bits, byte by byte. -/
theorem missing_eq_sum {old new : Nodemask} (hsubset : IsSubset old new) :
    missing old new = ∑ ii, bitCount (old ii ^^^ new ii) := by
  rw [missing, Finset.card_eq_sum_card_fiberwise (f := byteOf) (t := Finset.univ)
    (fun _ _ ↦ Finset.mem_coe.mpr (Finset.mem_univ _))]
  refine Finset.sum_congr rfl fun ii _ ↦ ?_
  symm
  refine Finset.card_bij (fun place _ ↦ bitAt ii place) ?_ ?_ ?_
  · intro place hplace
    rw [Finset.mem_filter, UInt8.toNat_xor, Nat.testBit_xor] at hplace
    rw [Finset.mem_filter, Finset.mem_filter, bit8Tst_bitAt, bit8Tst_bitAt]
    have hbit := hsubset (bitAt ii place)
    rw [bit8Tst_bitAt, bit8Tst_bitAt] at hbit
    refine ⟨⟨Finset.mem_univ _, ?_⟩, byteOf_bitAt ii place⟩
    obtain ⟨-, hxor⟩ := hplace
    cases hold : (old ii).toNat.testBit place <;> cases hnew : (new ii).toNat.testBit place <;>
      simp_all
  · intro place _ other _ heq
    have hvalue := congrArg Fin.val heq
    simp only [bitAt] at hvalue
    exact Fin.ext (by omega)
  · intro bit hbit
    rw [Finset.mem_filter, Finset.mem_filter] at hbit
    obtain ⟨⟨-, hnew, hold⟩, hbyte⟩ := hbit
    refine ⟨⟨bit % 8, Nat.mod_lt _ (by decide)⟩, ?_, hbyte ▸ bitAt_byteOf bit⟩
    rw [← bitAt_byteOf bit, bit8Tst_bitAt, hbyte] at hnew hold
    rw [Finset.mem_filter, UInt8.toNat_xor, Nat.testBit_xor, hnew]
    simpa using hold

theorem missing_le (old new : Nodemask) : missing old new ≤ 4008 :=
  (Finset.card_le_univ _).trans (by simp [nodemaskSize])

/-- What `mcast_nodemask_distance` computes. -/
theorem mcastNodemaskDistance_toNat (old new : Nodemask) [Decidable (IsSubset old new)] :
    (mcastNodemaskDistance old new).toNat =
      if IsSubset old new then missing old new else 0xFFFF := by
  have hforall : (∀ ii ∈ List.finRange nodemaskSize, old ii &&& ~~~new ii = 0) ↔
      IsSubset old new := by
    rw [isSubset_iff]
    exact ⟨fun h ii ↦ h ii (mem_finRange ii), fun h ii _ ↦ h ii⟩
  rw [mcastNodemaskDistance, nodemaskDistanceFrom_eq]
  by_cases hsubset : IsSubset old new
  · rw [if_pos (hforall.mpr hsubset), if_pos hsubset, missing_eq_sum hsubset, Fin.sum_univ_def,
      UInt16.zero_add, UInt16.toNat_ofNat', Nat.mod_eq_of_lt]
    rw [← Fin.sum_univ_def, ← missing_eq_sum hsubset]
    have := missing_le old new
    omega
  · rw [if_neg (fun h ↦ hsubset (hforall.mp h)), if_neg hsubset]
    rfl

end ZipGateway.MulticastGroups
