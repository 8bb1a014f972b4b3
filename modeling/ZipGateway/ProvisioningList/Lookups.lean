import ZipGateway.ProvisioningList.AsMap

/-!
# The searches of the provisioning list

The searches and the iterator of a list whose slots hold a map are lookups of the map (`Agrees`,
`IterAgrees`). `list_is_map` puts this together with the refinement of the calls, for every list
that is reached from the empty one. The iterator has room for DSKs of up to 16 bytes, so it does not
list a longer one, though the list takes it (`long_dsk_not_listed`).
-/

set_option autoImplicit false

namespace ZipGateway.ProvisioningList

open Function List ZipGateway.Lib

/-! ### The searches -/

/-- What a search for a slot with a good DSK may return. -/
structure Finds (slots : Slots) (map : PvsMap) (good : List UInt8 → Prop)
    (found : Option (Fin provisioningListSize)) : Prop where
  slot : ∀ i, found = some i →
    ∃ dsk view, (slots i).content = some (dsk, view) ∧ map dsk = some view ∧ good dsk
  nothing : found = none → ∀ dsk view, map dsk = some view → ¬ good dsk

/-- The searches of a list agree with a map. -/
structure Agrees (slots : Slots) (map : PvsMap) : Prop where
  devGet : ∀ dsk, ((devGet dsk slots).map fun i ↦ (slots i).view) = map dsk
  tlvGet : ∀ pvs type, (provisioningListTlvGet pvs type slots).map Tlv.value =
    match targetOf slots pvs with
    | .entry dsk => (map dsk).bind fun view ↦ view.2.2 type
    | _ => none
  tlvDskGet : ∀ dsk type, (tlvDskGet dsk type slots).map Tlv.value =
    (map dsk).bind fun view ↦ view.2.2 type
  homeid : ∀ homeid, Finds slots map (fun dsk ↦ 12 ≤ dsk.length ∧ homeidOf dsk = homeid)
    (devGetHomeid homeid slots)
  challenge : ∀ challenge : List UInt8, 2 < challenge.length →
    Finds slots map (fun dsk ↦ (challenge.take 16).length ≤ dsk.length ∧
      (dsk.take (challenge.take 16).length).drop 2 = (challenge.take 16).drop 2)
      (devMatchChallenge challenge slots)
  count : getCount slots = map.keys.ncard
  pending : ∀ included, pendingCount included slots =
    { dsk | ∃ view, map dsk = some view ∧ view.2.1 = pvsStatusPending ∧
      (view.1 = pvsBootmodeSmartStart ∨ view.1 = pvsBootmodeLongRangeSmartStart) ∧
      included dsk = false }.ncard

section Searches

variable {slots : Slots} {map : PvsMap}

theorem Tracks.map_devGet (htracks : Tracks slots map) (dsk : List UInt8) :
    ((devGet dsk slots).map fun i ↦ (slots i).view) = map dsk := by
  cases hfound : ProvisioningList.devGet dsk slots with
  | none => exact (htracks.devGet_none hfound).symm
  | some i => exact (htracks.devGet_some hfound).2.symm

theorem Tracks.map_tlvGet (htracks : Tracks slots map) (pvs : Option (Fin provisioningListSize))
    (type : UInt8) : (provisioningListTlvGet pvs type slots).map Tlv.value =
      match targetOf slots pvs with
      | .entry dsk => (map dsk).bind fun view ↦ view.2.2 type
      | _ => none := by
  cases pvs with
  | none => rfl
  | some i =>
    obtain ⟨hunused, htarget⟩ | ⟨dsk, hused, -, htarget, hmap⟩ := htracks.targetOf_some i
    · rw [htarget, provisioningListTlvGet, if_pos (not_not.mp hunused)]
      rfl
    · rw [htarget, provisioningListTlvGet, if_neg hused]
      dsimp only
      rw [hmap]
      rfl

theorem Tracks.map_tlvDskGet (htracks : Tracks slots map) (dsk : List UInt8) (type : UInt8) :
    (tlvDskGet dsk type slots).map Tlv.value = (map dsk).bind fun view ↦ view.2.2 type := by
  unfold tlvDskGet
  cases hfound : ProvisioningList.devGet dsk slots with
  | none =>
    rw [htracks.devGet_none hfound]
    rfl
  | some i =>
    rw [(htracks.devGet_some hfound).2]
    rfl

/-- The length of the DSK that a slot holds. -/
theorem Tracks.length_content (htracks : Tracks slots map) {i : Fin provisioningListSize}
    {dsk : List UInt8} {view : View} (hcontent : (slots i).content = some (dsk, view)) :
    (slots i).dskLen.toNat = dsk.length := by
  obtain ⟨hused, hdsk, -⟩ := Provision.content_eq_some_iff.mp hcontent
  obtain ⟨block, hblock, hlength⟩ := (htracks.inv.ok i).dsk hused
  rw [← hlength, Option.some.inj (hblock.symm.trans hdsk)]

/-- A slot with a DSK is in use and holds it. -/
theorem Tracks.content_of_dsk (htracks : Tracks slots map) {i : Fin provisioningListSize}
    {dsk : List UInt8} (hdsk : (slots i).dsk = some dsk) :
    (slots i).content = some (dsk, (slots i).view) := by
  have hused : (slots i).Used := by
    by_contra hunused
    rw [htracks.unused i hunused] at hdsk
    exact absurd hdsk (by simp)
  exact Provision.content_eq_some_iff.mpr ⟨hused, hdsk, rfl⟩

theorem Tracks.devGetBy (htracks : Tracks slots map) (minLen : ℕ) (test : List UInt8 → Bool) :
    Finds slots map (fun dsk ↦ minLen ≤ dsk.length ∧ test dsk = true)
      (devGetBy minLen test slots) := by
  constructor
  · intro i hfound
    have htest := firstSlot_some hfound
    simp only [Bool.and_eq_true, decide_eq_true_eq, Option.any_eq_true] at htest
    obtain ⟨hlen, dsk, hdsk, hgood⟩ := htest
    have hcontent := htracks.content_of_dsk hdsk
    rw [htracks.length_content hcontent] at hlen
    exact ⟨dsk, _, hcontent, htracks.holds.of_slot hcontent, hlen, hgood⟩
  · rintro hfound dsk view hmap ⟨hlen, hgood⟩
    obtain ⟨i, hi⟩ := (htracks.holds.lookup dsk view).mp hmap
    have hfalse := firstSlot_none.mp hfound i
    rw [(Provision.content_eq_some_iff.mp hi).2.1, htracks.length_content hi] at hfalse
    simp [hlen, hgood] at hfalse

theorem Finds.mono {good good' : List UInt8 → Prop} (hiff : ∀ dsk, good dsk ↔ good' dsk)
    {found : Option (Fin provisioningListSize)} (hfinds : Finds slots map good found) :
    Finds slots map good' found := by
  rwa [← funext fun dsk ↦ propext (hiff dsk)]

theorem Tracks.challenge (htracks : Tracks slots map) {challenge : List UInt8}
    (hlong : 2 < challenge.length) :
    Finds slots map (fun dsk ↦ (challenge.take 16).length ≤ dsk.length ∧
      (dsk.take (challenge.take 16).length).drop 2 = (challenge.take 16).drop 2)
      (devMatchChallenge challenge slots) := by
  rw [devMatchChallenge, if_neg (not_le.mpr hlong), pvsDevGetIdx]
  have htwo : 2 ≤ (challenge.take 16).length := by
    rw [length_take]
    omega
  have hlength : ((challenge.take 16).drop 2).length + 2 = (challenge.take 16).length := by
    rw [length_drop]
    omega
  apply (htracks.devGetBy _ _).mono
  intro dsk
  have htake : (dsk.take (challenge.take 16).length).drop 2 =
      (dsk.drop 2).take ((challenge.take 16).drop 2).length := by
    rw [drop_take (i := 2) (l := dsk), length_drop (i := 2)]
  rw [hlength, beq_iff_eq, htake]

/-- The slots with a property, as pairs of the map. -/
theorem Tracks.length_filter (htracks : Tracks slots map) (test : Provision → Bool)
    (good : List UInt8 × View → Bool)
    (hunused : ∀ i, (slots i).content = none → test (slots i) = false)
    (hused : ∀ i dsk view, (slots i).content = some (dsk, view) →
      test (slots i) = good (dsk, view)) :
    ((List.finRange provisioningListSize).filter fun i ↦ test (slots i)).length =
      { dsk | ∃ view, map dsk = some view ∧ good (dsk, view) = true }.ncard := by
  rw [htracks.holds.ncard_keys good, contents, filter_filterMap,
    length_filterMap_eq_countP, countP_eq_length_filter]
  congr 2
  funext i
  cases hcontent : (slots i).content with
  | none => simp [hunused i hcontent]
  | some pair =>
    rw [hused i pair.1 pair.2 hcontent]
    by_cases hgood : good pair = true
    · simp [hgood]
    · simp [hgood]

theorem Tracks.agrees (htracks : Tracks slots map) : Agrees slots map where
  devGet := htracks.map_devGet
  tlvGet := htracks.map_tlvGet
  tlvDskGet := htracks.map_tlvDskGet
  homeid homeid := by
    rw [devGetHomeid]
    apply (htracks.devGetBy 12 _).mono
    intro dsk
    rw [beq_iff_eq]
  challenge _ hlong := htracks.challenge hlong
  count := by
    have hcount := htracks.length_filter (fun provision ↦ provision.dskLen != 0) (fun _ ↦ true)
      (fun i hnone ↦ by
        simpa [Provision.Used] using (htracks.inv.ok i).content_eq_none_iff.mp hnone)
      (fun i _ _ hsome ↦ by simpa [Provision.Used] using (Provision.content_eq_some_iff.mp hsome).1)
    rw [getCount, hcount, htracks.holds.ncard_keys fun _ ↦ true, filter_true, htracks.ncard_keys]
  pending included := by
    have hcount := htracks.length_filter (isPending included)
      (fun pair ↦ pair.2.2.1 == pvsStatusPending &&
        (pair.2.1 == pvsBootmodeSmartStart || pair.2.1 == pvsBootmodeLongRangeSmartStart) &&
        !included pair.1)
      (fun i hnone ↦ ?_) (fun i dsk view hsome ↦ ?_)
    · rw [pendingCount, hcount]
      simp only [Bool.and_eq_true, Bool.or_eq_true, beq_iff_eq, Bool.not_eq_true', and_assoc]
    · have hzero : (slots i).dskLen = 0 :=
        not_not.mp ((htracks.inv.ok i).content_eq_none_iff.mp hnone)
      simp [isPending, hzero]
    · obtain ⟨hused, hdsk, rfl⟩ := Provision.content_eq_some_iff.mp hsome
      have hlen : ((slots i).dskLen != 0) = true := by simpa [Provision.Used] using hused
      simp [isPending, hlen, hdsk, Provision.view]

end Searches

/-! ### The iterator -/

/-- The calls of `provisioning_list_iter_get_next` on an iterator, each with the list at that
time. -/
def iterWalk : Iter → List Slots → List (Option (Fin provisioningListSize))
  | _, [] => []
  | iter, slots :: rest => (iterGetNext iter slots).1 :: iterWalk (iterGetNext iter slots).2 rest

/-- An iterator lists each DSK of a map that has room in it once, in any order. -/
structure IterAgrees (iter : Iter) (map : PvsMap) : Prop where
  cnt : iter.cnt = iter.entries.length
  next : iter.next = 0
  nodup : iter.entries.Nodup
  mem : ∀ dsk, dsk ∈ iter.entries ↔ map dsk ≠ none ∧ dsk.length ≤ provisioningListDskMaxSize

section Iterator

variable {slots : Slots} {map : PvsMap}

theorem Tracks.iterEntry (htracks : Tracks slots map) (i : Fin provisioningListSize) :
    iterEntry (slots i) = ((slots i).content.filter fun pair ↦
      decide (pair.1.length ≤ provisioningListDskMaxSize)).map Prod.fst := by
  unfold ProvisioningList.iterEntry
  cases hcontent : (slots i).content with
  | none =>
    rw [htracks.unused i ((htracks.inv.ok i).content_eq_none_iff.mp hcontent)]
    simp
  | some pair =>
    obtain ⟨dsk, view⟩ := pair
    have hlength := htracks.length_content hcontent
    obtain ⟨hused, hdsk, -⟩ := Provision.content_eq_some_iff.mp hcontent
    have hlong := (htracks.inv.ok i).long hused
    rw [hdsk, hlength]
    by_cases hfits : dsk.length ≤ provisioningListDskMaxSize
    · rw [if_neg (not_or.mpr ⟨hlong, not_lt.mpr hfits⟩),
        Option.filter_some_pos (by simpa using hfits)]
      rfl
    · rw [if_pos (Or.inr (not_le.mp hfits)), Option.filter_some_neg (by simpa using hfits)]
      rfl

/-- The DSKs in the slots that have room in an iterator. -/
def iterKeys (slots : Slots) : List (List UInt8) :=
  ((contents Provision.content slots).filter fun pair ↦
    decide (pair.1.length ≤ provisioningListDskMaxSize)).map Prod.fst

theorem Tracks.iterEntries (htracks : Tracks slots map) :
    ((List.finRange provisioningListSize).filterMap fun i ↦ ProvisioningList.iterEntry (slots i)) =
      iterKeys slots := by
  simp only [htracks.iterEntry]
  rw [iterKeys, contents, filter_filterMap, map_filterMap]

theorem Tracks.iteratorGet_eq (htracks : Tracks slots map) (id : UInt32) :
    iteratorGet id slots = ⟨(iterKeys slots).length, 0, id, iterKeys slots⟩ := by
  unfold ProvisioningList.iteratorGet
  split_ifs with hzero
  · have hcount := htracks.agrees.count
    rw [hzero, htracks.ncard_keys] at hcount
    have hempty : contents Provision.content slots = [] := eq_nil_of_length_eq_zero hcount.symm
    rw [iterKeys, hempty]
    rfl
  · rw [htracks.iterEntries]

theorem Tracks.mem_iterKeys (htracks : Tracks slots map) (dsk : List UInt8) :
    dsk ∈ iterKeys slots ↔ map dsk ≠ none ∧ dsk.length ≤ provisioningListDskMaxSize := by
  simp only [iterKeys, mem_map, mem_filter, Prod.exists, htracks.holds.mem_contents,
    decide_eq_true_eq, exists_and_right, exists_eq_right, Option.ne_none_iff_exists']

theorem Tracks.nodup_iterKeys (htracks : Tracks slots map) : (iterKeys slots).Nodup :=
  htracks.holds.nodup_contents.sublist (filter_sublist.map Prod.fst)

theorem Tracks.iteratorGet (htracks : Tracks slots map) (id : UInt32) :
    IterAgrees (iteratorGet id slots) map := by
  have hnodup := htracks.nodup_iterKeys
  have hmem := htracks.mem_iterKeys
  rw [htracks.iteratorGet_eq]
  generalize iterKeys slots = keys at hnodup hmem
  exact ⟨rfl, rfl, hnodup, hmem⟩

/-- An entry of an iterator is looked up in the list as it is then. -/
theorem Tracks.iterGetIndex (htracks : Tracks slots map) {iter : Iter}
    (hcnt : iter.cnt = iter.entries.length) (idx : ℕ) :
    ((iterGetIndex iter idx slots).map fun i ↦ (slots i).view) = (iter.entries[idx]?).bind map := by
  unfold ProvisioningList.iterGetIndex
  split_ifs with hend
  · rw [List.getElem?_eq_none (hcnt ▸ hend)]
    rfl
  · cases iter.entries[idx]? with
    | none => rfl
    | some dsk => exact htracks.map_devGet dsk

/-- The next entry is the one at the position of the iterator. -/
theorem iterGetNext_eq (iter : Iter) (slots : Slots) :
    iterGetNext iter slots = (iterGetIndex iter iter.next slots,
      if iter.cnt ≤ iter.next then iter else { iter with next := iter.next + 1 }) := by
  unfold iterGetNext iterGetIndex
  split_ifs
  · rfl
  · rfl

/-- The calls of `provisioning_list_iter_get_next` go through the entries in their order. -/
theorem iterWalk_getElem? (lists : List Slots) {iter : Iter} (hcnt : iter.cnt = iter.entries.length)
    (k : ℕ) {slots : Slots} (hslots : lists[k]? = some slots) :
    (iterWalk iter lists)[k]? = some (iterGetIndex iter (iter.next + k) slots) := by
  induction lists generalizing iter k with
  | nil => exact absurd hslots (by simp)
  | cons first rest ih =>
    rw [iterWalk, iterGetNext_eq]
    cases k with
    | zero =>
      obtain rfl : first = slots := by simpa using hslots
      rfl
    | succ k =>
      rw [List.getElem?_cons_succ] at hslots ⊢
      split_ifs with hend
      · rw [ih hcnt k hslots]
        simp only [ProvisioningList.iterGetIndex]
        rw [if_pos (by omega), if_pos (by omega)]
      · have hmoved : { iter with next := iter.next + 1 }.cnt = iter.entries.length := hcnt
        rw [ih hmoved k hslots]
        simp only [ProvisioningList.iterGetIndex]
        rw [show iter.next + 1 + k = iter.next + (k + 1) by omega]

end Iterator

/-! ### Runs -/

theorem mapAdd_failed {room : Bool} {dsk : List UInt8} {bootmode : UInt32} {map : PvsMap}
    (hfailed : (mapAdd room dsk bootmode map).2 = false) :
      (mapAdd room dsk bootmode map).1 = map := by
  unfold mapAdd at hfailed ⊢
  split_ifs at hfailed ⊢
  rfl

variable {slots : Slots} {map : PvsMap}

/-- A call that fails leaves the map as it is. -/
theorem mapStep_failed (call : MapCall) (hfailed : (mapStep map call).2 = false) :
    (mapStep map call).1 = map := by
  cases call with
  | clear => exact absurd hfailed (by simp [mapStep])
  | add room dsk bootmode =>
    simp only [mapStep] at hfailed ⊢
    cases hmap : map dsk with
    | none =>
      rw [hmap] at hfailed
      exact mapAdd_failed hfailed
    | some view => rfl
  | set room dsk bootmode =>
    simp only [mapStep] at hfailed ⊢
    cases hmap : map dsk with
    | none =>
      rw [hmap] at hfailed
      exact mapAdd_failed hfailed
    | some view =>
      rw [hmap] at hfailed
      exact absurd hfailed (by simp)
  | remove dsk =>
    simp only [mapStep] at hfailed ⊢
    rw [← Option.not_isSome_iff_eq_none.mp (by simpa using hfailed), update_eq_self]
  | bootmodeSet target bootmode =>
    cases target with
    | null => rfl
    | unused => rfl
    | entry dsk => exact absurd hfailed (by simp [mapStep])
  | statusSet target status =>
    cases target with
    | null => rfl
    | unused => rfl
    | entry dsk => exact absurd hfailed (by simp [mapStep])
  | tlvSet room tlvRoom target type value =>
    cases target with
    | null => rfl
    | unused => rfl
    | entry dsk =>
      cases value with
      | none => rfl
      | some value =>
        simp only [mapStep] at hfailed ⊢
        cases hmap : map dsk with
        | none => rfl
        | some view =>
          rw [hmap] at hfailed
          dsimp only at hfailed ⊢
          split_ifs at hfailed ⊢
          rfl
  | tlvRemove target type =>
    cases target with
    | null => rfl
    | unused => rfl
    | entry dsk =>
      simp only [mapStep] at hfailed ⊢
      cases hmap : map dsk with
      | none => rfl
      | some view =>
        rw [hmap] at hfailed
        dsimp only at hfailed ⊢
        split_ifs at hfailed ⊢
        rfl

theorem tracks_run {platform : Platform} (file : List UInt8)
    (inputs : List (Call × Persisted platform)) :
    Tracks (run jointStep (emptyJoint file) inputs).1.slots
      (run jointStep (emptyJoint file) inputs).2 := by
  have hstart : Tracks (emptyJoint file).1.slots (emptyJoint file).2 := by
    refine ⟨⟨fun _ ↦ blank_ok, fun _ _ _ hused ↦ absurd hused blank_not_used⟩, fun _ _ ↦ rfl, ?_⟩
    exact Holds.empty fun _ ↦ rfl
  have hstep : ∀ (state : Store × PvsMap) (input : Call × Persisted platform),
      Tracks state.1.slots state.2 →
        Tracks (jointStep state input).1.slots (jointStep state input).2 :=
    fun state input htracks ↦ (perform_refines htracks input.1).1
  exact run_invariant hstep hstart inputs

theorem Tracks.devGet_eq (htracks : Tracks slots map)
    {i : Fin provisioningListSize} {dsk : List UInt8} {view : View}
    (hcontent : (slots i).content = some (dsk, view)) : devGet dsk slots = some i := by
  have hlookup := htracks.devGet_content dsk
  rw [htracks.holds.of_slot hcontent] at hlookup
  cases hfound : ProvisioningList.devGet dsk slots with
  | none =>
    rw [hfound] at hlookup
    exact absurd hlookup (by simp)
  | some j =>
    rw [htracks.holds.unique i j dsk view _ hcontent (htracks.devGet_some hfound).1]

theorem pvsDevAddIn_pvs {room : Bool} {dsk : Octets} {bootmode : UInt32}
    (hlong : ¬ dsk.val.length < 4)
    (htracks : Tracks (pvsDevAddIn room dsk bootmode slots).1 map) {i : Fin provisioningListSize}
    (hpvs : (pvsDevAddIn room dsk bootmode slots).2.pvs = some i) :
    devGet dsk.val (pvsDevAddIn room dsk bootmode slots).1 = some i := by
  revert htracks hpvs
  unfold pvsDevAddIn
  cases hfound : firstSlot (fun provision : Provision ↦ provision.dskLen == 0) slots with
  | none =>
    intro _ hpvs
    exact absurd hpvs (by simp [Answer.slot])
  | some j =>
    cases room with
    | false =>
      intro _ hpvs
      exact absurd hpvs (by simp [Answer.slot])
    | true =>
      simp only [if_true]
      intro htracks hpvs
      obtain rfl : j = i := by simpa [Answer.slot] using hpvs
      have hcontent : (Provision.added dsk bootmode).content =
          some (dsk.val, (Provision.added dsk bootmode).view) :=
        Provision.content_eq_some_iff.mpr ⟨Provision.used_added bootmode hlong, rfl, rfl⟩
      rw [pvsDevAdd_of_slot hfound] at htracks ⊢
      exact htracks.devGet_eq (by rw [update_self]; exact hcontent)

/-- A call that returns a slot returns the one that holds its DSK. -/
theorem perform_pvs (htracks : Tracks slots map) (call : Call)
    {i : Fin provisioningListSize} (hpvs : (perform slots call).2.pvs = some i) :
    ∃ room dsk bootmode, (call = .devAdd room dsk bootmode ∨ call = .devSet room dsk bootmode) ∧
      devGet dsk.val (perform slots call).1 = some i := by
  have hafter := (perform_refines htracks call).1
  cases call with
  | devAdd room dsk bootmode =>
    refine ⟨room, dsk, bootmode, Or.inl rfl, ?_⟩
    simp only [perform, devAddIn] at hpvs hafter ⊢
    by_cases hshort : dsk.val.length < 4
    · rw [if_pos hshort] at hpvs
      exact absurd hpvs (by simp [Answer.slot])
    · rw [if_neg hshort] at hpvs hafter ⊢
      by_cases hthere : (devGet dsk.val slots).isSome
      · rw [if_pos hthere] at hpvs
        exact absurd hpvs (by simp [Answer.slot])
      · rw [if_neg hthere] at hpvs hafter ⊢
        exact pvsDevAddIn_pvs hshort hafter hpvs
  | devSet room dsk bootmode =>
    refine ⟨room, dsk, bootmode, Or.inr rfl, ?_⟩
    simp only [perform, devSetIn] at hpvs hafter ⊢
    by_cases hshort : dsk.val.length < 4
    · rw [if_pos hshort] at hpvs
      exact absurd hpvs (by simp [Answer.slot])
    · rw [if_neg hshort] at hpvs hafter ⊢
      cases hfound : devGet dsk.val slots with
      | none =>
        rw [hfound] at hpvs hafter
        dsimp only at hpvs hafter ⊢
        exact pvsDevAddIn_pvs hshort hafter hpvs
      | some j =>
        rw [hfound] at hpvs hafter
        obtain rfl : j = i := by simpa [Answer.slot] using hpvs
        obtain ⟨hused, hdsk, -⟩ := Provision.content_eq_some_iff.mp (htracks.devGet_some hfound).1
        simp only [devSet, if_neg hshort, hfound] at hafter ⊢
        refine hafter.devGet_eq (Provision.content_eq_some_iff.mpr ⟨?_, ?_, rfl⟩)
        · rw [Slots.modify, update_self]
          exact hused
        · rw [Slots.modify, update_self]
          exact hdsk
  | clear => simp only [perform, Answer.result, reduceCtorEq] at hpvs
  | devRemove dsk => simp only [perform, Answer.result, reduceCtorEq] at hpvs
  | bootmodeSet pvs bootmode => simp only [perform, Answer.result, reduceCtorEq] at hpvs
  | statusSet pvs status => simp only [perform, Answer.result, reduceCtorEq] at hpvs
  | tlvSet room tlvRoom pvs type value =>
    simp only [perform, tlvSetIn] at hpvs
    split at hpvs
    · split_ifs at hpvs <;> exact absurd hpvs (by simp [Answer.result])
    · exact absurd hpvs (by simp [Answer.result])
  | tlvRemove pvs type => simp only [perform, Answer.result, reduceCtorEq] at hpvs

/-- What holds for the list and its map in a state of a run. -/
structure IsMap (slots : Slots) (map : PvsMap) : Prop where
  finite : map.keys.Finite
  unique : ∀ i j dsk, (slots i).Used → (slots j).Used → (slots i).dsk = some dsk →
    (slots j).dsk = some dsk → i = j
  types : ∀ i, ((slots i).tlvList.map Tlv.type).Nodup
  unused : ∀ i, ¬ (slots i).Used → (slots i).dsk = none ∧ (slots i).tlvList = []
  agrees : Agrees slots map
  iterator : ∀ id, IterAgrees (iteratorGet id slots) map
  answer : ∀ call, (perform slots call).2.ok = (mapStep map (call.onMap slots)).2
  pvs : ∀ call i, (perform slots call).2.pvs = some i →
    ∃ room dsk bootmode, (call = .devAdd room dsk bootmode ∨ call = .devSet room dsk bootmode) ∧
      devGet dsk.val (perform slots call).1 = some i
  failed : ∀ call, (perform slots call).2.ok = false → (mapStep map (call.onMap slots)).1 = map

theorem Tracks.isMap (htracks : Tracks slots map) : IsMap slots map where
  finite := htracks.holds.finite_keys
  unique i j dsk hi hj hdsk hdsk' := by
    by_contra hne
    exact htracks.inv.apart i j hne hi hj (hdsk.trans hdsk'.symm)
  types i := (htracks.inv.ok i).types
  unused i hunused := ⟨htracks.unused i hunused, (htracks.inv.ok i).blank hunused⟩
  agrees := htracks.agrees
  iterator := htracks.iteratorGet
  answer call := (perform_refines htracks call).2
  pvs call _ hpvs := perform_pvs htracks call hpvs
  failed call hfailed := by
    apply mapStep_failed
    rw [← (perform_refines htracks call).2]
    exact hfailed

/-- Every list that is reached from the empty one is the map that the calls make of the empty map,
whatever is left in the file. A slot that an iterator returns is the entry that the map then has for
the DSK of the iterator at that place. -/
theorem list_is_map (platform : Platform) (file : List UInt8) :
    (∀ inputs : List (Call × Persisted platform),
      IsMap (run jointStep (emptyJoint file) inputs).1.slots
        (run jointStep (emptyJoint file) inputs).2) ∧
    ∀ (inputs : List (Call × Persisted platform)) (id : UInt32)
      (moments : List (List (Call × Persisted platform))) (k : ℕ)
      (moment : List (Call × Persisted platform)), moments[k]? = some moment →
      ∃ found,
        (iterWalk (iteratorGet id (run jointStep (emptyJoint file) inputs).1.slots)
          (moments.map fun moment ↦ (run jointStep (emptyJoint file) moment).1.slots))[k]? =
            some found ∧
        (found.map fun i ↦ ((run jointStep (emptyJoint file) moment).1.slots i).view) =
          ((iteratorGet id (run jointStep (emptyJoint file) inputs).1.slots).entries[k]?).bind
            (run jointStep (emptyJoint file) moment).2 := by
  refine ⟨fun inputs ↦ (tracks_run file inputs).isMap, ?_⟩
  intro inputs id moments k moment hmoment
  have hiter := (tracks_run file inputs).iteratorGet id
  have hslots : (moments.map fun moment ↦ (run jointStep (emptyJoint file) moment).1.slots)[k]? =
      some (run jointStep (emptyJoint file) moment).1.slots := by
    rw [List.getElem?_map, hmoment, Option.map_some]
  refine ⟨_, iterWalk_getElem? _ hiter.cnt k hslots, ?_⟩
  rw [hiter.next, Nat.zero_add]
  exact (tracks_run file moment).iterGetIndex hiter.cnt k

/-- A DSK of 17 bytes is in the list, and no iterator lists it. -/
theorem long_dsk_not_listed :
    ¬ ∀ (platform : Platform) (file : List UInt8) (inputs : List (Call × Persisted platform))
      (id : UInt32) (dsk : List UInt8),
      dsk ∈ (iteratorGet id (run jointStep (emptyJoint file) inputs).1.slots).entries ↔
        (run jointStep (emptyJoint file) inputs).2 dsk ≠ none := by
  intro hclaim
  have hiter := (tracks_run [] [((.devAdd true ⟨List.replicate 17 0, by decide⟩ 0 : Call),
    (.failed [] : Persisted .bits32))]).iteratorGet 0
  have hmem := (hclaim .bits32 [] [(.devAdd true ⟨List.replicate 17 0, by decide⟩ 0, .failed [])] 0
    (List.replicate 17 0)).mpr ?_
  · exact absurd ((hiter.mem _).mp hmem).2 (by decide)
  · have hempty : PartialMap.keys (fun _ ↦ none : PvsMap) = ∅ := by
      ext dsk
      simp [PartialMap.keys]
    simp [jointStep, emptyJoint, Call.onMap, mapStep, mapAdd, hempty]

end ZipGateway.ProvisioningList
