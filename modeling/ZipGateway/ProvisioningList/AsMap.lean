import ZipGateway.Lib.SlotMap
import ZipGateway.ProvisioningList.Calls
import ZipGateway.ProvisioningList.Invariant

/-!
# The provisioning list as a map

What the list is for: a partial map from DSKs to a boot mode, a status and the values of TLVs
(`PvsMap`), with the calls as operations on it (`mapStep`). The calls of the list refine these
(`perform_refines`): a slot in use holds its DSK (`Provision.content`), and the slots together hold
the map. The searches and the iterator are then lookups of the map.
-/

set_option autoImplicit false

namespace ZipGateway.ProvisioningList

open Function ZipGateway.Lib

/-! ### The map -/

/-- A boot mode, a status and the values of TLVs by their type. -/
abbrev View := UInt32 × UInt32 × (UInt8 → Option (List UInt8))

/-- The map that a provisioning list stands for. -/
abbrev PvsMap := PartialMap (List UInt8) View

/-- What a `struct provision *` points to. -/
inductive Target where
  | null
  | unused
  | entry (dsk : List UInt8)

inductive MapCall where
  | clear
  | add (room : Bool) (dsk : List UInt8) (bootmode : UInt32)
  | set (room : Bool) (dsk : List UInt8) (bootmode : UInt32)
  | remove (dsk : List UInt8)
  | bootmodeSet (target : Target) (bootmode : UInt32)
  | statusSet (target : Target) (status : UInt32)
  | tlvSet (room tlvRoom : Bool) (target : Target) (type : UInt8) (value : Option (List UInt8))
  | tlvRemove (target : Target) (type : UInt8)

/-- An entry is added, if its DSK is long enough and there is room for it. -/
noncomputable def mapAdd (room : Bool) (dsk : List UInt8) (bootmode : UInt32) (map : PvsMap) :
    PvsMap × Bool :=
  if 4 ≤ dsk.length ∧ map.keys.ncard < provisioningListSize ∧ room = true then
    (update map dsk (some (bootmode, pvsStatusPending, fun _ ↦ none)), true)
  else (map, false)

/-- One call on the map: the map after it, and whether the call succeeds. -/
noncomputable def mapStep (map : PvsMap) : MapCall → PvsMap × Bool
  | .clear => (fun _ ↦ none, true)
  | .add room dsk bootmode =>
    match map dsk with
    | some _ => (map, false)
    | none => mapAdd room dsk bootmode map
  | .set room dsk bootmode =>
    match map dsk with
    | some (_, status, tlvs) => (update map dsk (some (bootmode, status, tlvs)), true)
    | none => mapAdd room dsk bootmode map
  | .remove dsk => (update map dsk none, (map dsk).isSome)
  | .bootmodeSet .null _ => (map, false)
  | .bootmodeSet .unused _ => (map, true)
  | .bootmodeSet (.entry dsk) bootmode =>
    (update map dsk ((map dsk).map fun view ↦ (bootmode, view.2)), true)
  | .statusSet .null _ => (map, false)
  | .statusSet .unused _ => (map, true)
  | .statusSet (.entry dsk) status =>
    (update map dsk ((map dsk).map fun view ↦ (view.1, status, view.2.2)), true)
  | .tlvSet room tlvRoom (.entry dsk) type (some value) =>
    match map dsk with
    | some (bootmode, status, tlvs) =>
      if value ≠ [] ∧ room = true ∧ ((tlvs type).isSome ∨ tlvRoom = true) then
        (update map dsk (some (bootmode, status, update tlvs type (some value))), true)
      else (map, false)
    | none => (map, false)
  | .tlvSet _ _ _ _ _ => (map, false)
  | .tlvRemove (.entry dsk) type =>
    match map dsk with
    | some (bootmode, status, tlvs) =>
      if (tlvs type).isSome then
        (update map dsk (some (bootmode, status, update tlvs type none)), true)
      else (map, false)
    | none => (map, false)
  | .tlvRemove _ _ => (map, false)

/-! ### The map of the slots -/

/-- What a slot holds. -/
def Provision.content (provision : Provision) : Option (List UInt8 × View) :=
  if provision.dskLen = 0 then none else provision.dsk.map fun dsk ↦ (dsk, provision.view)

/-- A slot as a target. -/
def targetOf (slots : Slots) : Option (Fin provisioningListSize) → Target
  | none => .null
  | some i =>
    match (slots i).content with
    | none => .unused
    | some (dsk, _) => .entry dsk

def Call.onMap (slots : Slots) : Call → MapCall
  | .clear => .clear
  | .devAdd room dsk bootmode => .add room dsk.val bootmode
  | .devSet room dsk bootmode => .set room dsk.val bootmode
  | .devRemove dsk => .remove dsk.val
  | .bootmodeSet pvs bootmode => .bootmodeSet (targetOf slots pvs) bootmode
  | .statusSet pvs status => .statusSet (targetOf slots pvs) status
  | .tlvSet room tlvRoom pvs type value =>
    .tlvSet room tlvRoom (targetOf slots pvs) type (value.map Subtype.val)
  | .tlvRemove pvs type => .tlvRemove (targetOf slots pvs) type

/-- The list with the map beside it: each call is made on both. -/
noncomputable def jointStep {platform : Platform} (state : Store × PvsMap)
    (input : Call × Persisted platform) : Store × PvsMap :=
  (state.1.step input, (mapStep state.2 (input.1.onMap state.1.slots)).1)

/-- The list is empty, and so is the map. -/
def emptyJoint (file : List UInt8) : Store × PvsMap := (⟨emptySlots, file⟩, fun _ ↦ none)

/-- The slots hold the map; a slot that is not in use has neither a DSK nor TLVs. -/
structure Tracks (slots : Slots) (map : PvsMap) : Prop where
  inv : RepInv slots
  unused : ∀ i, ¬ (slots i).Used → (slots i).dsk = none
  holds : Holds Provision.content slots map

section Tracks

variable {slots : Slots} {map : PvsMap}

theorem Provision.content_eq_some_iff {provision : Provision} {dsk : List UInt8} {view : View} :
    provision.content = some (dsk, view) ↔
      provision.Used ∧ provision.dsk = some dsk ∧ provision.view = view := by
  unfold Provision.content Provision.Used
  split_ifs with hzero
  · simp [hzero]
  · simp [hzero]

/-- A good slot holds something if and only if it is in use. -/
theorem Provision.Ok.content_eq_none_iff {provision : Provision} (hok : provision.Ok) :
    provision.content = none ↔ ¬ provision.Used := by
  constructor
  · intro hnone hused
    obtain ⟨block, hblock, -⟩ := hok.dsk hused
    have hsome := Provision.content_eq_some_iff.mpr ⟨hused, hblock, rfl⟩
    rw [hnone] at hsome
    exact absurd hsome (by simp)
  · intro hunused
    exact if_pos (not_not.mp hunused)

/-- The test of `provisioning_list_dev_get`, for a good slot and a DSK that is long enough. -/
theorem Provision.Ok.hasDsk_iff {provision : Provision} (hok : provision.Ok) {dsk : List UInt8}
    (hlong : ¬ dsk.length < 4) :
    provision.hasDsk dsk = true ↔ ∃ view, provision.content = some (dsk, view) := by
  constructor
  · intro htest
    have hused := hasDsk_used hlong htest
    simp only [Provision.hasDsk, Bool.and_eq_true, beq_iff_eq] at htest
    exact ⟨_, Provision.content_eq_some_iff.mpr ⟨hused, htest.2, rfl⟩⟩
  · rintro ⟨view, hcontent⟩
    obtain ⟨hused, hdsk, -⟩ := Provision.content_eq_some_iff.mp hcontent
    obtain ⟨block, hblock, hlength⟩ := hok.dsk hused
    obtain rfl : block = dsk := Option.some.inj (hblock.symm.trans hdsk)
    simp [Provision.hasDsk, hdsk, hlength]

/-- The keys of the map are long enough. -/
theorem Tracks.key_length (htracks : Tracks slots map) {dsk : List UInt8} {view : View}
    (hkey : map dsk = some view) : ¬ dsk.length < 4 := by
  obtain ⟨i, hi⟩ := (htracks.holds.lookup dsk view).mp hkey
  obtain ⟨hused, hdsk, -⟩ := Provision.content_eq_some_iff.mp hi
  obtain ⟨block, hblock, hlength⟩ := (htracks.inv.ok i).dsk hused
  obtain rfl : block = dsk := Option.some.inj (hblock.symm.trans hdsk)
  have hlong := (htracks.inv.ok i).long hused
  rw [UInt8.lt_iff_toNat_lt] at hlong
  rw [hlength]
  exact hlong

theorem Tracks.short_key (htracks : Tracks slots map) {dsk : List UInt8} (hshort : dsk.length < 4) :
    map dsk = none := by
  cases hmap : map dsk with
  | none => rfl
  | some view => exact absurd hshort (htracks.key_length hmap)

/-- `provisioning_list_dev_get` is a lookup of the map, and it returns the slot that holds the
DSK. -/
theorem Tracks.devGet_content (htracks : Tracks slots map) (dsk : List UInt8) :
    ((devGet dsk slots).bind fun i ↦ (slots i).content) =
      (map dsk).map fun view ↦ (dsk, view) := by
  unfold devGet
  split_ifs with hshort
  · rw [htracks.short_key hshort]
    rfl
  · exact htracks.holds.firstSlot_key fun i ↦ (htracks.inv.ok i).hasDsk_iff hshort

theorem Tracks.devGet_some (htracks : Tracks slots map) {dsk : List UInt8}
    {i : Fin provisioningListSize} (hfound : devGet dsk slots = some i) :
    (slots i).content = some (dsk, (slots i).view) ∧ map dsk = some (slots i).view := by
  have hlong : ¬ dsk.length < 4 := by
    intro hshort
    rw [devGet, if_pos hshort] at hfound
    exact absurd hfound (by simp)
  rw [devGet, if_neg hlong] at hfound
  obtain ⟨view, hview⟩ := ((htracks.inv.ok i).hasDsk_iff hlong).mp (firstSlot_some hfound)
  obtain ⟨-, -, rfl⟩ := Provision.content_eq_some_iff.mp hview
  exact ⟨hview, htracks.holds.of_slot hview⟩

theorem Tracks.devGet_none (htracks : Tracks slots map) {dsk : List UInt8}
    (hnone : devGet dsk slots = none) : map dsk = none := by
  have hcontent := htracks.devGet_content dsk
  rw [hnone, Option.bind_none] at hcontent
  exact Option.map_eq_none_iff.mp hcontent.symm

/-- The map has as many keys as there are slots that hold something. -/
theorem Tracks.ncard_keys (htracks : Tracks slots map) :
    map.keys.ncard = (contents Provision.content slots).length := by
  have hkeys : map.keys = { dsk | ∃ view, map dsk = some view ∧ true = true } := by
    ext dsk
    simp [PartialMap.keys, Option.ne_none_iff_exists']
  rw [hkeys, htracks.holds.ncard_keys fun _ ↦ true, List.filter_true]

/-- There is room in the map if and only if there is a slot that is not in use. -/
theorem Tracks.ncard_lt_iff (htracks : Tracks slots map) :
    map.keys.ncard < provisioningListSize ↔ ∃ i, ¬ (slots i).Used := by
  rw [htracks.ncard_keys, length_contents_lt_iff]
  exact exists_congr fun i ↦ (htracks.inv.ok i).content_eq_none_iff

/-- A slot that holds a DSK is changed and holds it still. -/
theorem Tracks.change (htracks : Tracks slots map) {i : Fin provisioningListSize} {dsk : List UInt8}
    {view : View} (change : Provision → Provision) (hcontent : (slots i).content = some (dsk, view))
    (hok : (change (slots i)).Ok) (hlen : (change (slots i)).dskLen = (slots i).dskLen)
    (hdsk : (change (slots i)).dsk = (slots i).dsk) :
    Tracks (slots.modify i change) (update map dsk (some (change (slots i)).view)) := by
  obtain ⟨hused, hblock, -⟩ := Provision.content_eq_some_iff.mp hcontent
  have hused' : (change (slots i)).Used := by
    rw [Provision.Used, hlen]
    exact hused
  refine ⟨htracks.inv.modify i hok hlen hdsk, ?_, ?_⟩
  · intro j hunused
    rw [Slots.modify] at hunused ⊢
    by_cases hj : j = i
    · rw [hj, update_self] at hunused
      exact absurd hused' hunused
    · rw [update_of_ne hj] at hunused ⊢
      exact htracks.unused j hunused
  · exact htracks.holds.replace i hcontent
      (Provision.content_eq_some_iff.mpr ⟨hused', hdsk.trans hblock, rfl⟩)

/-- A slot that is not in use is changed and is not in use still. -/
theorem Tracks.touch (htracks : Tracks slots map) {i : Fin provisioningListSize}
    (change : Provision → Provision) (hunused : ¬ (slots i).Used) (hok : (change (slots i)).Ok)
    (hlen : (change (slots i)).dskLen = (slots i).dskLen) (hdsk : (change (slots i)).dsk = none) :
    Tracks (slots.modify i change) map := by
  have hunused' : ¬ (change (slots i)).Used := by
    rw [Provision.Used, hlen]
    exact hunused
  refine ⟨?_, ?_, ?_⟩
  · exact htracks.inv.modify i hok hlen (hdsk.trans (htracks.unused i hunused).symm)
  · intro j hother
    rw [Slots.modify] at hother ⊢
    by_cases hj : j = i
    · rw [hj, update_self]
      exact hdsk
    · rw [update_of_ne hj] at hother ⊢
      exact htracks.unused j hother
  · apply htracks.holds.same i
    rw [hok.content_eq_none_iff.mpr hunused', (htracks.inv.ok i).content_eq_none_iff.mpr hunused]

/-- A slot that holds a DSK is removed. -/
theorem Tracks.remove (htracks : Tracks slots map) {i : Fin provisioningListSize} {dsk : List UInt8}
    {view : View} (hcontent : (slots i).content = some (dsk, view)) :
    Tracks (slots.modify i Provision.removed) (update map dsk none) := by
  refine ⟨htracks.inv.update i (removed_ok _) fun _ _ ↦ removed_apart _ _, ?_, ?_⟩
  · intro j hunused
    rw [Slots.modify] at hunused ⊢
    by_cases hj : j = i
    · rw [hj, update_self]
      rfl
    · rw [update_of_ne hj] at hunused ⊢
      exact htracks.unused j hunused
  · exact htracks.holds.erase i hcontent (if_pos rfl)

/-! ### The calls refine the calls on the map -/

/-- What a call does is what the call on the map does. -/
def Refines (slots : Slots) (map : PvsMap) (call : Call) : Prop :=
  Tracks (perform slots call).1 (mapStep map (call.onMap slots)).1 ∧
    (perform slots call).2.ok = (mapStep map (call.onMap slots)).2

theorem Tracks.clear (htracks : Tracks slots map) : Refines slots map .clear := by
  have hinv := htracks.inv.clear
  have hblank : ∀ i, ¬ (ProvisioningList.clear slots i).Used := by
    intro i
    unfold ProvisioningList.clear
    split_ifs with hzero
    · exact fun hused ↦ hused hzero
    · exact fun hused ↦ hused rfl
  refine ⟨⟨hinv, ?_, Holds.empty fun i ↦ (hinv.ok i).content_eq_none_iff.mpr (hblank i)⟩, rfl⟩
  intro i _
  show (ProvisioningList.clear slots i).dsk = none
  unfold ProvisioningList.clear
  split_ifs with hzero
  · exact htracks.unused i (not_not.mpr hzero)
  · rfl

/-- A slot as `pvs_dev_add` fills it. -/
def Provision.added (dsk : Octets) (bootmode : UInt32) : Provision where
  dsk := some dsk.val
  dskLen := UInt8.ofNat dsk.val.length
  status := pvsStatusPending
  bootmode := bootmode
  tlvList := []

theorem Provision.used_added {dsk : Octets} (bootmode : UInt32) (hlong : ¬ dsk.val.length < 4) :
    (Provision.added dsk bootmode).Used := by
  intro hzero
  have hlen : (UInt8.ofNat dsk.val.length).toNat = dsk.val.length := by
    rw [UInt8.toNat_ofNat']
    exact Nat.mod_eq_of_lt dsk.property
  have hzero' : UInt8.ofNat dsk.val.length = 0 := hzero
  rw [hzero', UInt8.toNat_zero] at hlen
  omega

theorem pvsDevAdd_of_slot {dsk : Octets} {bootmode : UInt32} {i : Fin provisioningListSize}
    (hfound : firstSlot (fun provision : Provision ↦ provision.dskLen == 0) slots = some i) :
    pvsDevAdd dsk bootmode slots = update slots i (Provision.added dsk bootmode) := by
  unfold pvsDevAdd
  rw [hfound]
  rfl

/-- A new entry, for a DSK that is not in the map. -/
theorem Tracks.pvsDevAdd (htracks : Tracks slots map) {dsk : Octets} (bootmode : UInt32)
    (hlong : ¬ dsk.val.length < 4) (hnone : devGet dsk.val slots = none)
    {i : Fin provisioningListSize}
    (hfound : firstSlot (fun provision : Provision ↦ provision.dskLen == 0) slots = some i) :
    Tracks (pvsDevAdd dsk bootmode slots)
      (update map dsk.val (some (bootmode, pvsStatusPending, fun _ ↦ none))) := by
  have hunused : ¬ (slots i).Used := not_not.mpr (beq_iff_eq.mp (firstSlot_some hfound))
  have hused := Provision.used_added bootmode hlong
  refine ⟨htracks.inv.pvsDevAdd bootmode hlong hnone, ?_, ?_⟩
  · rw [pvsDevAdd_of_slot hfound]
    intro j hother
    by_cases hj : j = i
    · rw [hj, update_self] at hother
      exact absurd hused hother
    · rw [update_of_ne hj] at hother ⊢
      exact htracks.unused j hother
  · rw [pvsDevAdd_of_slot hfound]
    exact htracks.holds.insert i ((htracks.inv.ok i).content_eq_none_iff.mpr hunused)
      (htracks.devGet_none hnone) (Provision.content_eq_some_iff.mpr ⟨hused, rfl, rfl⟩)

theorem Tracks.pvsDevAddIn (htracks : Tracks slots map) (room : Bool) {dsk : Octets}
    (bootmode : UInt32) (hlong : ¬ dsk.val.length < 4) (hnone : devGet dsk.val slots = none) :
    Tracks (pvsDevAddIn room dsk bootmode slots).1 (mapAdd room dsk.val bootmode map).1 ∧
      (pvsDevAddIn room dsk bootmode slots).2.ok = (mapAdd room dsk.val bootmode map).2 := by
  unfold ProvisioningList.pvsDevAddIn mapAdd
  cases hfound : firstSlot (fun provision : Provision ↦ provision.dskLen == 0) slots with
  | none =>
    have hfull : ¬ map.keys.ncard < provisioningListSize := by
      rw [htracks.ncard_lt_iff]
      rintro ⟨i, hunused⟩
      have htest := firstSlot_none.mp hfound i
      rw [beq_eq_false_iff_ne] at htest
      exact hunused htest
    rw [if_neg fun h ↦ hfull h.2.1]
    exact ⟨htracks, rfl⟩
  | some i =>
    have hunused : ¬ (slots i).Used := not_not.mpr (beq_iff_eq.mp (firstSlot_some hfound))
    have hroom : map.keys.ncard < provisioningListSize := htracks.ncard_lt_iff.mpr ⟨i, hunused⟩
    dsimp only
    cases room with
    | false =>
      simp only [Bool.false_eq_true, and_false, if_false]
      refine ⟨?_, rfl⟩
      apply htracks.touch _ hunused
      · exact (htracks.inv.ok i).congr (htracks.unused i hunused).symm rfl rfl
      · rfl
      · rfl
    | true =>
      simp only [if_true, and_true, not_lt.mp hlong, hroom]
      exact ⟨htracks.pvsDevAdd bootmode hlong hnone hfound, rfl⟩

theorem Tracks.devAdd (htracks : Tracks slots map) (room : Bool) (dsk : Octets)
    (bootmode : UInt32) : Refines slots map (.devAdd room dsk bootmode) := by
  unfold Refines
  simp only [perform, Call.onMap, mapStep, devAddIn]
  by_cases hshort : dsk.val.length < 4
  · rw [if_pos hshort, htracks.short_key hshort, mapAdd,
      if_neg fun h ↦ absurd hshort (not_lt.mpr h.1)]
    exact ⟨htracks, rfl⟩
  · rw [if_neg hshort]
    cases hfound : devGet dsk.val slots with
    | none =>
      rw [htracks.devGet_none hfound, if_neg (by simp)]
      exact htracks.pvsDevAddIn room bootmode hshort hfound
    | some i =>
      rw [(htracks.devGet_some hfound).2, Option.isSome_some, if_pos (Eq.refl true)]
      exact ⟨htracks, rfl⟩

theorem Tracks.devSet (htracks : Tracks slots map) (room : Bool) (dsk : Octets)
    (bootmode : UInt32) : Refines slots map (.devSet room dsk bootmode) := by
  unfold Refines
  simp only [perform, Call.onMap, mapStep, devSetIn]
  by_cases hshort : dsk.val.length < 4
  · rw [if_pos hshort, htracks.short_key hshort, mapAdd,
      if_neg fun h ↦ absurd hshort (not_lt.mpr h.1)]
    exact ⟨htracks, rfl⟩
  · rw [if_neg hshort]
    cases hfound : devGet dsk.val slots with
    | none =>
      rw [htracks.devGet_none hfound]
      dsimp only
      exact htracks.pvsDevAddIn room bootmode hshort hfound
    | some i =>
      obtain ⟨hcontent, hmap⟩ := htracks.devGet_some hfound
      rw [hmap]
      refine ⟨?_, rfl⟩
      simp only [ProvisioningList.devSet, if_neg hshort, hfound]
      exact htracks.change _ hcontent ((htracks.inv.ok i).congr rfl rfl rfl) rfl rfl

theorem Tracks.devRemove (htracks : Tracks slots map) (dsk : Octets) :
    Refines slots map (.devRemove dsk) := by
  unfold Refines
  simp only [perform, Call.onMap, mapStep, ProvisioningList.devRemove]
  cases hfound : devGet dsk.val slots with
  | none =>
    have hmap := htracks.devGet_none hfound
    rw [← hmap, update_eq_self, hmap]
    exact ⟨htracks, rfl⟩
  | some i =>
    obtain ⟨hcontent, hmap⟩ := htracks.devGet_some hfound
    rw [hmap]
    exact ⟨htracks.remove hcontent, rfl⟩

/-- What a slot points to: nothing in the list, or an entry of the map. -/
theorem Tracks.targetOf_some (htracks : Tracks slots map) (i : Fin provisioningListSize) :
    (¬ (slots i).Used ∧ targetOf slots (some i) = .unused) ∨
      ∃ dsk, (slots i).Used ∧ (slots i).content = some (dsk, (slots i).view) ∧
        targetOf slots (some i) = .entry dsk ∧ map dsk = some (slots i).view := by
  cases hcontent : (slots i).content with
  | none =>
    left
    refine ⟨(htracks.inv.ok i).content_eq_none_iff.mp hcontent, ?_⟩
    simp only [targetOf, hcontent]
  | some pair =>
    right
    obtain ⟨dsk, view⟩ := pair
    obtain ⟨hused, -, rfl⟩ := Provision.content_eq_some_iff.mp hcontent
    refine ⟨dsk, hused, rfl, ?_, htracks.holds.of_slot hcontent⟩
    simp only [targetOf, hcontent]

theorem Tracks.bootmodeSet (htracks : Tracks slots map) (pvs : Option (Fin provisioningListSize))
    (bootmode : UInt32) : Refines slots map (.bootmodeSet pvs bootmode) := by
  unfold Refines
  cases pvs with
  | none => exact ⟨htracks, rfl⟩
  | some i =>
    have hok : { slots i with bootmode := bootmode }.Ok := (htracks.inv.ok i).congr rfl rfl rfl
    obtain ⟨hunused, htarget⟩ | ⟨dsk, -, hcontent, htarget, hmap⟩ := htracks.targetOf_some i
    · simp only [perform, Call.onMap, htarget, mapStep, ProvisioningList.bootmodeSet]
      refine ⟨?_, rfl⟩
      exact htracks.touch _ hunused hok rfl (htracks.unused i hunused)
    · simp only [perform, Call.onMap, htarget, mapStep, ProvisioningList.bootmodeSet, hmap,
        Option.map_some]
      exact ⟨htracks.change _ hcontent hok rfl rfl, rfl⟩

theorem Tracks.statusSet (htracks : Tracks slots map) (pvs : Option (Fin provisioningListSize))
    (status : UInt32) : Refines slots map (.statusSet pvs status) := by
  unfold Refines
  cases pvs with
  | none => exact ⟨htracks, rfl⟩
  | some i =>
    have hok : { slots i with status := status }.Ok := (htracks.inv.ok i).congr rfl rfl rfl
    obtain ⟨hunused, htarget⟩ | ⟨dsk, -, hcontent, htarget, hmap⟩ := htracks.targetOf_some i
    · simp only [perform, Call.onMap, htarget, mapStep, ProvisioningList.statusSet]
      refine ⟨?_, rfl⟩
      exact htracks.touch _ hunused hok rfl (htracks.unused i hunused)
    · simp only [perform, Call.onMap, htarget, mapStep, ProvisioningList.statusSet, hmap,
        Option.map_some]
      exact ⟨htracks.change _ hcontent hok rfl rfl, rfl⟩

theorem tlvGet_cons (type : UInt8) (tlv : Tlv) (rest : List Tlv) :
    tlvGet type (tlv :: rest) = if tlv.type = type then some tlv else tlvGet type rest := by
  unfold tlvGet
  split_ifs with htype
  · exact List.find?_cons_of_pos (beq_iff_eq.mpr htype)
  · exact List.find?_cons_of_neg (by simpa using htype)

theorem tlvGet_replaceTlv_self {new : Tlv} {tlvs : List Tlv}
    (hfound : (tlvGet new.type tlvs).isSome) :
    tlvGet new.type (replaceTlv new tlvs) = some new := by
  induction tlvs with
  | nil => exact absurd hfound (by simp [tlvGet])
  | cons tlv rest ih =>
    rw [replaceTlv]
    split_ifs with htype
    · rw [tlvGet_cons, if_pos rfl]
    · rw [tlvGet_cons, if_neg htype] at hfound
      rw [tlvGet_cons, if_neg htype]
      exact ih hfound

theorem tlvGet_replaceTlv_of_ne {new : Tlv} {type : UInt8} (hne : new.type ≠ type)
    (tlvs : List Tlv) : tlvGet type (replaceTlv new tlvs) = tlvGet type tlvs := by
  induction tlvs with
  | nil => rfl
  | cons tlv rest ih =>
    rw [replaceTlv]
    split_ifs with htype
    · rw [tlvGet_cons, if_neg hne, tlvGet_cons, if_neg (htype ▸ hne)]
    · rw [tlvGet_cons, tlvGet_cons, ih]

/-- The values of a list of TLVs after one was set. -/
theorem tlvGet_pvsTlvSet (type : UInt8) (value : List UInt8) (tlvs : List Tlv) :
    (fun other ↦ (tlvGet other (pvsTlvSet ⟨type, value⟩ tlvs)).map Tlv.value) =
      update (fun other ↦ (tlvGet other tlvs).map Tlv.value) type (some value) := by
  funext other
  rw [pvsTlvSet]
  by_cases hother : other = type
  · subst hother
    rw [update_self]
    split_ifs with hfound
    · have hself : tlvGet other (replaceTlv ⟨other, value⟩ tlvs) = some ⟨other, value⟩ :=
        tlvGet_replaceTlv_self hfound
      rw [hself, Option.map_some]
    · rw [tlvGet_cons, if_pos rfl, Option.map_some]
  · rw [update_of_ne hother]
    have hne : type ≠ other := Ne.symm hother
    split_ifs with hfound
    · rw [tlvGet_replaceTlv_of_ne hne]
    · rw [tlvGet_cons, if_neg hne]

theorem tlvGet_eq_none_iff {type : UInt8} {tlvs : List Tlv} :
    tlvGet type tlvs = none ↔ type ∉ tlvs.map Tlv.type := by
  rw [← tlvGet_isSome_iff, Option.not_isSome_iff_eq_none]

/-- The values of a list of TLVs after one was taken out. -/
theorem tlvGet_removeTlv (type : UInt8) {tlvs : List Tlv} (htypes : (tlvs.map Tlv.type).Nodup) :
    (fun other ↦ (tlvGet other (removeTlv type tlvs)).map Tlv.value) =
      update (fun other ↦ (tlvGet other tlvs).map Tlv.value) type none := by
  funext other
  induction tlvs with
  | nil =>
    rw [removeTlv]
    by_cases hother : other = type
    · rw [hother, update_self]
      rfl
    · rw [update_of_ne hother]
  | cons tlv rest ih =>
    rw [List.map_cons, List.nodup_cons] at htypes
    have hrest := ih htypes.2
    rw [removeTlv]
    by_cases hother : other = type
    · subst hother
      rw [update_self] at hrest ⊢
      split_ifs with htype
      · rw [tlvGet_eq_none_iff.mpr (htype ▸ htypes.1)]
        rfl
      · rw [tlvGet_cons, if_neg htype]
        exact hrest
    · rw [update_of_ne hother] at hrest ⊢
      split_ifs with htype
      · rw [tlvGet_cons, if_neg fun heq ↦ hother (heq.symm.trans htype)]
      · rw [tlvGet_cons, tlvGet_cons]
        split_ifs
        · rfl
        · exact hrest

theorem removeTlv_of_none {type : UInt8} {tlvs : List Tlv} (hnone : tlvGet type tlvs = none) :
    removeTlv type tlvs = tlvs := by
  induction tlvs with
  | nil => rfl
  | cons tlv rest ih =>
    rw [tlvGet_cons] at hnone
    split_ifs at hnone with htype
    rw [removeTlv, if_neg htype, ih hnone]

theorem Tracks.tlvSet (htracks : Tracks slots map) (room tlvRoom : Bool)
    (pvs : Option (Fin provisioningListSize)) (type : UInt8) (value : Option Octets) :
    Refines slots map (.tlvSet room tlvRoom pvs type value) := by
  unfold Refines
  cases pvs with
  | none =>
    cases value with
    | none => exact ⟨htracks, rfl⟩
    | some value => exact ⟨htracks, rfl⟩
  | some i =>
    cases value with
    | none =>
      simp only [perform, Call.onMap, Option.map_none, tlvSetIn]
      cases targetOf slots (some i) <;> exact ⟨htracks, rfl⟩
    | some value =>
      obtain ⟨hunused, htarget⟩ | ⟨dsk, hused, hcontent, htarget, hmap⟩ := htracks.targetOf_some i
      · simp only [perform, Call.onMap, htarget, mapStep, tlvSetIn]
        rw [if_neg fun h ↦ hunused h.1]
        exact ⟨htracks, rfl⟩
      · simp only [perform, Call.onMap, htarget, mapStep, tlvSetIn, Option.map_some, hmap,
          Provision.view, Option.isSome_map]
        by_cases hset : value.val ≠ [] ∧ room = true ∧
            ((tlvGet type (slots i).tlvList).isSome ∨ tlvRoom = true)
        · obtain ⟨hvalue, hroom, hthere⟩ := hset
          have hslot : (slots i).dskLen ≠ 0 ∧ value.val ≠ [] := ⟨hused, hvalue⟩
          rw [if_pos hslot, if_pos hroom, if_pos (by simpa using hthere),
            if_pos ⟨hvalue, hroom, hthere⟩]
          refine ⟨?_, rfl⟩
          have hchange := htracks.change
            (fun provision ↦
              { provision with tlvList := pvsTlvSet ⟨type, value.val⟩ provision.tlvList })
            hcontent ((htracks.inv.ok i).pvsTlvSet hused type hvalue) rfl rfl
          simp only [Provision.view, tlvGet_pvsTlvSet] at hchange
          simp only [ProvisioningList.tlvSet, if_pos hslot]
          exact hchange
        · rw [if_neg hset]
          have hfail : (if (slots i).dskLen ≠ 0 ∧ value.val ≠ [] then
              if room = true then
                if ((tlvGet type (slots i).tlvList).isSome || tlvRoom) = true then
                  (ProvisioningList.tlvSet (some i) type (some value) slots, Answer.result true)
                else (slots, Answer.result false)
              else (slots, Answer.result false)
            else (slots, Answer.result false)) = (slots, Answer.result false) := by
            split_ifs with hslot hroom hthere
            · exact absurd ⟨hslot.2, hroom, by simpa using hthere⟩ hset
            · rfl
            · rfl
            · rfl
          rw [hfail]
          exact ⟨htracks, rfl⟩

theorem Tracks.tlvRemove (htracks : Tracks slots map) (pvs : Option (Fin provisioningListSize))
    (type : UInt8) : Refines slots map (.tlvRemove pvs type) := by
  unfold Refines
  cases pvs with
  | none => exact ⟨htracks, rfl⟩
  | some i =>
    obtain ⟨hunused, htarget⟩ | ⟨dsk, hused, hcontent, htarget, hmap⟩ := htracks.targetOf_some i
    · have hzero : (slots i).dskLen = 0 := not_not.mp hunused
      simp only [perform, Call.onMap, htarget, mapStep, tlvRemoveOk, ProvisioningList.tlvRemove]
      rw [if_pos hzero, hzero]
      exact ⟨htracks, rfl⟩
    · have hused' : ¬ (slots i).dskLen = 0 := hused
      have hlen : ((slots i).dskLen != 0) = true := by simpa using hused'
      simp only [perform, Call.onMap, htarget, mapStep, tlvRemoveOk, hmap, Provision.view,
        Option.isSome_map, ProvisioningList.tlvRemove, if_neg hused', hlen, Bool.true_and]
      cases hfound : tlvGet type (slots i).tlvList with
      | none =>
        simp only [removeTlv_of_none hfound, Option.isSome_none, Bool.false_eq_true, if_false,
          Slots.modify, update_eq_self]
        exact ⟨htracks, rfl⟩
      | some tlv =>
        have hchange := htracks.change
          (fun provision ↦ { provision with tlvList := removeTlv type provision.tlvList })
          hcontent ((htracks.inv.ok i).removeTlv hused type) rfl rfl
        simp only [Provision.view, tlvGet_removeTlv type (htracks.inv.ok i).types] at hchange
        exact ⟨hchange, rfl⟩

/-- Every call on a list refines the call on its map. -/
theorem perform_refines (htracks : Tracks slots map) (call : Call) : Refines slots map call := by
  cases call with
  | clear => exact htracks.clear
  | devAdd room dsk bootmode => exact htracks.devAdd room dsk bootmode
  | devSet room dsk bootmode => exact htracks.devSet room dsk bootmode
  | devRemove dsk => exact htracks.devRemove dsk
  | bootmodeSet pvs bootmode => exact htracks.bootmodeSet pvs bootmode
  | statusSet pvs status => exact htracks.statusSet pvs status
  | tlvSet room tlvRoom pvs type value => exact htracks.tlvSet room tlvRoom pvs type value
  | tlvRemove pvs type => exact htracks.tlvRemove pvs type

end Tracks

end ZipGateway.ProvisioningList
