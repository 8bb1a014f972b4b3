import Mathlib.Data.List.GetD
import ZipGateway.ProvisioningList.Model

/-!
# The invariant of a provisioning list

`RepInv` is what the rest of the module relies on in a provisioning list: the DSK of a slot in use
is a block of the length that the slot says, no two slots have the same DSK, and no slot has two
TLVs of a type. Each part of a call keeps it. As a map, a list says about a DSK what is in the slot
of it (`entryOf`).
-/

set_option autoImplicit false

namespace ZipGateway.ProvisioningList

open Function List ZipGateway.Lib

/-! ### The invariant -/

/-- A slot is in use. -/
def Provision.Used (provision : Provision) : Prop := provision.dskLen ≠ 0

instance (provision : Provision) : Decidable provision.Used :=
  inferInstanceAs (Decidable (_ ≠ _))

/-- The invariant of a slot. -/
structure Provision.Ok (provision : Provision) : Prop where
  long : provision.Used → ¬ provision.dskLen < 4
  dsk : provision.Used →
    ∃ block, provision.dsk = some block ∧ block.length = provision.dskLen.toNat
  blank : ¬ provision.Used → provision.tlvList = []
  types : (provision.tlvList.map Tlv.type).Nodup
  values : ∀ tlv ∈ provision.tlvList, tlv.value ≠ [] ∧ tlv.value.length < 256

/-- Two slots in use have different DSKs. -/
def Apart (first second : Provision) : Prop :=
  first.Used → second.Used → first.dsk ≠ second.dsk

/-- The invariant of the list. -/
structure RepInv (slots : Slots) : Prop where
  ok : ∀ i, (slots i).Ok
  apart : ∀ i j, i ≠ j → Apart (slots i) (slots j)

theorem Apart.symm {first second : Provision} (hapart : Apart first second) : Apart second first :=
  fun hsecond hfirst heq ↦ hapart hfirst hsecond heq.symm

theorem blank_not_used : ¬ Provision.blank.Used := fun h ↦ h rfl

theorem blank_ok : Provision.blank.Ok where
  long h := absurd h blank_not_used
  dsk h := absurd h blank_not_used
  blank _ := rfl
  types := nodup_nil
  values := fun _ h ↦ absurd h not_mem_nil

/-! ### The calls keep the invariant -/

section Calls

variable {slots : Slots}

/-- One slot is changed to a good one whose DSK is in no other slot. -/
theorem RepInv.update (hinv : RepInv slots) (i : Fin provisioningListSize) {provision : Provision}
    (hok : provision.Ok) (hapart : ∀ j, j ≠ i → Apart provision (slots j)) :
    RepInv (update slots i provision) := by
  refine ⟨?_, ?_⟩
  · intro j
    by_cases hj : j = i
    · rw [hj, update_self]
      exact hok
    · rw [update_of_ne hj]
      exact hinv.ok j
  · intro j k hne
    by_cases hj : j = i
    · subst hj
      rw [update_self, update_of_ne hne.symm]
      exact hapart k hne.symm
    · rw [update_of_ne hj]
      by_cases hk : k = i
      · subst hk
        rw [update_self]
        exact (hapart j hj).symm
      · rw [update_of_ne hk]
        exact hinv.apart j k hne

/-- A change that keeps the DSK of a slot keeps the invariant. -/
theorem RepInv.modify (hinv : RepInv slots) (i : Fin provisioningListSize)
    {change : Provision → Provision} (hok : (change (slots i)).Ok)
    (hlen : (change (slots i)).dskLen = (slots i).dskLen)
    (hdsk : (change (slots i)).dsk = (slots i).dsk) : RepInv (slots.modify i change) := by
  apply hinv.update i hok
  intro j hj hused hother
  rw [hdsk]
  exact hinv.apart i j (Ne.symm hj) (by rw [Provision.Used, ← hlen]; exact hused) hother

theorem removed_ok (provision : Provision) : provision.removed.Ok where
  long h := absurd rfl h
  dsk h := absurd rfl h
  blank _ := rfl
  types := nodup_nil
  values := fun _ h ↦ absurd h not_mem_nil

theorem removed_apart (provision other : Provision) : Apart provision.removed other :=
  fun h ↦ absurd rfl h

/-- A DSK that is not found is in no slot. -/
theorem RepInv.apart_of_devGet (hinv : RepInv slots) {dsk : List UInt8} (hlong : ¬ dsk.length < 4)
    (hnone : devGet dsk slots = none) (j : Fin provisioningListSize) (hused : (slots j).Used) :
    (slots j).dsk ≠ some dsk := by
  intro heq
  rw [devGet, if_neg hlong] at hnone
  have htest := firstSlot_none.mp hnone j
  obtain ⟨block, hblock, hlength⟩ := (hinv.ok j).dsk hused
  obtain rfl : block = dsk := Option.some.inj (hblock.symm.trans heq)
  simp [Provision.hasDsk, heq, hlength] at htest

theorem RepInv.pvsDevAdd (hinv : RepInv slots) {dsk : Octets} (bootmode : UInt32)
    (hlong : ¬ dsk.val.length < 4) (hnone : devGet dsk.val slots = none) :
    RepInv (pvsDevAdd dsk bootmode slots) := by
  have hlen : (UInt8.ofNat dsk.val.length).toNat = dsk.val.length := by
    rw [UInt8.toNat_ofNat']
    exact Nat.mod_eq_of_lt dsk.property
  unfold ProvisioningList.pvsDevAdd
  split
  · exact hinv
  · next i hfound =>
    apply hinv.update i
    · refine ⟨fun _ ↦ ?_, fun _ ↦ ⟨dsk.val, rfl, hlen.symm⟩, fun _ ↦ rfl, nodup_nil,
        fun _ h ↦ absurd h not_mem_nil⟩
      rw [UInt8.lt_iff_toNat_lt, hlen]
      exact hlong
    · intro j _ _ hused heq
      exact hinv.apart_of_devGet hlong hnone j hused heq.symm

/-- Neither the boot mode nor the status of a slot matters for the invariant. -/
theorem Provision.Ok.congr {provision other : Provision} (hok : provision.Ok)
    (hdsk : other.dsk = provision.dsk) (hlen : other.dskLen = provision.dskLen)
    (htlvs : other.tlvList = provision.tlvList) : other.Ok := by
  obtain ⟨hlong, hblock, hblank, htypes, hvalues⟩ := hok
  refine ⟨?_, ?_, ?_, ?_, ?_⟩
  · rw [Provision.Used, hlen]
    exact hlong
  · rw [Provision.Used, hlen, hdsk]
    exact hblock
  · rw [Provision.Used, hlen, htlvs]
    exact hblank
  · rw [htlvs]
    exact htypes
  · rw [htlvs]
    exact hvalues

theorem RepInv.clear (hinv : RepInv slots) : RepInv (clear slots) := by
  have hblank : ∀ i, ¬ (ProvisioningList.clear slots i).Used := by
    intro i
    unfold ProvisioningList.clear
    split_ifs with hzero
    · exact fun hused ↦ hused hzero
    · exact fun hused ↦ hused rfl
  refine ⟨?_, fun i _ _ hused ↦ absurd hused (hblank i)⟩
  intro i
  unfold ProvisioningList.clear
  split_ifs
  · exact hinv.ok i
  · exact removed_ok _

/-- A new value for a TLV keeps the types. -/
theorem map_type_replaceTlv (new : Tlv) (tlvs : List Tlv) :
    (replaceTlv new tlvs).map Tlv.type = tlvs.map Tlv.type := by
  induction tlvs with
  | nil => rfl
  | cons tlv rest ih =>
    rw [replaceTlv]
    split_ifs with htype
    · rw [map_cons, map_cons, htype]
    · rw [map_cons, map_cons, ih]

theorem mem_replaceTlv {new tlv : Tlv} {tlvs : List Tlv} (hmem : tlv ∈ replaceTlv new tlvs) :
    tlv = new ∨ tlv ∈ tlvs := by
  induction tlvs with
  | nil => exact absurd hmem not_mem_nil
  | cons first rest ih =>
    rw [replaceTlv] at hmem
    split_ifs at hmem
    · rcases mem_cons.mp hmem with hnew | hrest
      · exact Or.inl hnew
      · exact Or.inr (mem_cons_of_mem _ hrest)
    · rcases mem_cons.mp hmem with rfl | hrest
      · exact Or.inr mem_cons_self
      · exact (ih hrest).imp_right (mem_cons_of_mem _)

theorem removeTlv_sublist (type : UInt8) (tlvs : List Tlv) :
    (removeTlv type tlvs).Sublist tlvs := by
  induction tlvs with
  | nil => exact List.Sublist.refl _
  | cons tlv rest ih =>
    rw [removeTlv]
    split_ifs
    · exact sublist_cons_self _ _
    · exact ih.cons_cons _

theorem tlvGet_isSome_iff {type : UInt8} {tlvs : List Tlv} :
    (tlvGet type tlvs).isSome ↔ type ∈ tlvs.map Tlv.type := by
  simp [tlvGet, List.find?_isSome]

/-- A TLV is set in a slot in use. -/
theorem Provision.Ok.pvsTlvSet {provision : Provision} (hok : provision.Ok) (hused : provision.Used)
    (type : UInt8) {value : Octets} (hvalue : value.val ≠ []) :
    { provision with tlvList := pvsTlvSet ⟨type, value.val⟩ provision.tlvList }.Ok := by
  refine ⟨hok.long, hok.dsk, fun hblank ↦ absurd hused hblank, ?_, ?_⟩
  · show ((ProvisioningList.pvsTlvSet ⟨type, value.val⟩ provision.tlvList).map Tlv.type).Nodup
    unfold ProvisioningList.pvsTlvSet
    split_ifs with hfound
    · rw [map_type_replaceTlv]
      exact hok.types
    · rw [map_cons, nodup_cons]
      exact ⟨fun hmem ↦ hfound (tlvGet_isSome_iff.mpr hmem), hok.types⟩
  · have hnew : ∀ tlv ∈ ProvisioningList.pvsTlvSet ⟨type, value.val⟩ provision.tlvList,
        tlv = ⟨type, value.val⟩ ∨ tlv ∈ provision.tlvList := by
      intro tlv hmem
      unfold ProvisioningList.pvsTlvSet at hmem
      split_ifs at hmem
      · exact mem_replaceTlv hmem
      · exact mem_cons.mp hmem
    intro tlv hmem
    rcases hnew tlv hmem with rfl | hold
    · exact ⟨hvalue, value.property⟩
    · exact hok.values tlv hold

/-- A TLV is taken out of a slot in use. -/
theorem Provision.Ok.removeTlv {provision : Provision} (hok : provision.Ok) (hused : provision.Used)
    (type : UInt8) : { provision with tlvList := removeTlv type provision.tlvList }.Ok := by
  have hsublist := removeTlv_sublist type provision.tlvList
  refine ⟨hok.long, hok.dsk, fun hblank ↦ absurd hused hblank, ?_, ?_⟩
  · exact hok.types.sublist (hsublist.map Tlv.type)
  · exact fun tlv hmem ↦ hok.values tlv (hsublist.subset hmem)

end Calls

/-! ### The map of a list -/

/-- The boot mode, the status and the values of the TLVs of a slot. -/
def Provision.view (provision : Provision) : UInt32 × UInt32 × (UInt8 → Option (List UInt8)) :=
  (provision.bootmode, provision.status, fun type ↦ (tlvGet type provision.tlvList).map Tlv.value)

/-- The search for a DSK of four bytes or more sees the slots in use only. -/
theorem hasDsk_used {dsk : List UInt8} (hlong : ¬ dsk.length < 4) {provision : Provision}
    (htest : provision.hasDsk dsk = true) : provision.Used := by
  intro hzero
  simp only [Provision.hasDsk, Bool.and_eq_true, beq_iff_eq] at htest
  have hlen := htest.1
  rw [hzero] at hlen
  have hzero' : (0 : UInt8).toNat = 0 := rfl
  omega

end ZipGateway.ProvisioningList
