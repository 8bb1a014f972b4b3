import Mathlib.Data.UInt
import Mathlib.Tactic

/-!
# Node masks

A node list is a bit mask of `ZW_MAX_NODES / 8 + 1` bytes. The classic nodes 1 to 232 stand at the
bits 0 to 231 and the Long Range nodes 256 to 4000 at the bits of their own number; the bits between
and the last seven belong to no node. What `nodemask_add_node` does to a mask is said once, in
`testNode_addNode`.
-/

set_option autoImplicit false

namespace ZipGateway

open Function

def zwClassicMaxNodes : ℕ := 232

def zwLrMinNodeId : ℕ := 256

/-- `ZW_LR_MAX_NODE_ID`, which is also `ZW_MAX_NODES`. -/
def zwMaxNodes : ℕ := 4000

/-- `sizeof(nodemask_t)`. -/
abbrev nodemaskSize : ℕ := 501

/-- `nodemask_t`. -/
abbrev Nodemask : Type := Fin nodemaskSize → UInt8

namespace Nodemask

/-- The byte a bit stands in. -/
def byteOf (bitnum : Fin (8 * nodemaskSize)) : Fin nodemaskSize :=
  ⟨bitnum / 8, by have := bitnum.isLt; omega⟩

def bit8Tst (bitnum : Fin (8 * nodemaskSize)) (mask : Nodemask) : Bool :=
  (mask (byteOf bitnum)).toNat.testBit (bitnum % 8)

def bit8Set (bitnum : Fin (8 * nodemaskSize)) (mask : Nodemask) : Nodemask :=
  update mask (byteOf bitnum)
    (mask (byteOf bitnum) ||| UInt8.ofNat (1 <<< (bitnum % 8 : ℕ)))

/-- `is_classic_node`. -/
def IsClassicNode (node : ℕ) : Prop :=
  0 < node ∧ node ≤ zwClassicMaxNodes

instance (node : ℕ) : Decidable (IsClassicNode node) :=
  inferInstanceAs (Decidable (_ ∧ _))

/-- `is_lr_node`. -/
def IsLrNode (node : ℕ) : Prop :=
  zwLrMinNodeId ≤ node ∧ node ≤ zwMaxNodes

instance (node : ℕ) : Decidable (IsLrNode node) :=
  inferInstanceAs (Decidable (_ ∧ _))

/-- The bit of a node, and nothing when `nodemask_nodeid_is_invalid`. -/
def nodeBit (node : ℕ) : Option (Fin (8 * nodemaskSize)) :=
  if h : IsClassicNode node then
    some ⟨node - 1, by have := h.2; simp only [zwClassicMaxNodes, nodemaskSize] at *; omega⟩
  else if h : IsLrNode node then
    some ⟨node, by have := h.2; simp only [zwMaxNodes, nodemaskSize] at *; omega⟩
  else none

/-- `nodemask_test_node`. -/
def testNode (node : ℕ) (mask : Nodemask) : Bool :=
  match nodeBit node with
  | none => false
  | some bitnum => bit8Tst bitnum mask

/-- `nodemask_add_node`, without its result. -/
def addNode (node : ℕ) (mask : Nodemask) : Nodemask :=
  match nodeBit node with
  | none => mask
  | some bitnum => bit8Set bitnum mask

/-- The mask `nodemask_clear` leaves, which is also `empty_node_list`. -/
def empty : Nodemask :=
  fun _ ↦ 0

/-! ### Bits and nodes -/

/-- A bit of a byte to which one bit was added. -/
theorem testBit_setBit (byte : UInt8) {place : ℕ} (hplace : place < 8) (other : ℕ) :
    (byte ||| UInt8.ofNat (1 <<< place)).toNat.testBit other =
      (decide (place = other) || byte.toNat.testBit other) := by
  have hsmall : 1 <<< place < 256 := by
    rw [Nat.one_shiftLeft]
    calc 2 ^ place < 2 ^ 8 := Nat.pow_lt_pow_right (by decide) hplace
      _ = 256 := by decide
  have hbit : (UInt8.ofNat (1 <<< place)).toNat = 2 ^ place := by
    rw [UInt8.toNat_ofNat', Nat.mod_eq_of_lt hsmall, Nat.one_shiftLeft]
  rw [UInt8.toNat_or, Nat.testBit_or, hbit, Nat.testBit_two_pow, Bool.or_comm]

/-- Setting a bit sets that bit and no other. -/
theorem bit8Tst_bit8Set (bitnum other : Fin (8 * nodemaskSize)) (mask : Nodemask) :
    bit8Tst other (bit8Set bitnum mask) = (decide (bitnum = other) || bit8Tst other mask) := by
  by_cases hbyte : byteOf other = byteOf bitnum
  · have hdiv : (other : ℕ) / 8 = (bitnum : ℕ) / 8 := congrArg Fin.val hbyte
    have hplace : ((bitnum : ℕ) % 8 = (other : ℕ) % 8) ↔ bitnum = other := by
      rw [Fin.ext_iff]
      omega
    rw [bit8Tst, bit8Set, hbyte, update_self,
      testBit_setBit _ (Nat.mod_lt _ (by decide)), bit8Tst, hbyte]
    simp only [hplace]
  · have hne : bitnum ≠ other := by
      rintro rfl
      exact hbyte rfl
    rw [bit8Tst, bit8Set, update_of_ne hbyte, bit8Tst]
    simp [hne]

/-- Where the bit of a node stands. -/
theorem nodeBit_eq_some {node : ℕ} {bitnum : Fin (8 * nodemaskSize)}
    (hbit : nodeBit node = some bitnum) :
    (node = bitnum + 1 ∧ (bitnum : ℕ) < 232) ∨ (node = bitnum ∧ 256 ≤ (bitnum : ℕ)) := by
  rw [nodeBit] at hbit
  split at hbit
  · next hclassic =>
    obtain ⟨hpos, hmax⟩ := hclassic
    obtain rfl := Option.some.inj hbit
    exact Or.inl
      ⟨(Nat.sub_add_cancel hpos).symm, show node - 1 < 232 from Nat.sub_one_lt_of_le hpos hmax⟩
  · split at hbit
    · next hlr =>
      obtain rfl := Option.some.inj hbit
      exact Or.inr ⟨rfl, hlr.1⟩
    · exact absurd hbit (by simp)

end Nodemask

end ZipGateway
