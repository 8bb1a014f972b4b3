import ZipGateway.Lib.Ring
import ZipGateway.Lib.Run
import ZipGateway.MulticastGroups.Distance

/-!
# The group manager refines a set of groups ordered by use

The abstract manager is a list of group ids, the most recently returned one first, together with the
masks of these groups. `Represents` says that the table of the source holds such a list: the
circular list of use age is the list, its members are the groups in use, and their masks differ.
`Served` says which group a request gets and what happens to the masks. Every call keeps the
representation and serves its request (`getId_served`), and by induction so does every sequence of
calls (`groups_refine_lru`).
-/

set_option autoImplicit false

namespace ZipGateway.MulticastGroups

open ZipGateway.Nodemask ZipGateway.Lib Function List

/-! ### The abstract manager -/

/-- An id of the first `count` groups. -/
def IsIdUpTo (count : ℕ) (id : UInt8) : Prop :=
  id ≠ 0 ∧ id.toNat ≤ count

/-- An id of a group. -/
def IsId (maxGroups : MaxGroups) (id : UInt8) : Prop :=
  IsIdUpTo maxGroups.count id

/-- Make a group the most recently used one. -/
def touch (id : UInt8) (order : List UInt8) : List UInt8 :=
  id :: order.erase id

/-- The ids in the order of their last return, the last returned one first. The ids that were
returned are given newest first; a request for no nodes returns the id zero, which is no group. -/
def recency : List UInt8 → List UInt8
  | [] => []
  | id :: older => if id = 0 then recency older else touch id (recency older)

/-- The links of the list of use age. -/
def Manager.links (manager : Manager) : Links UInt8 where
  next := fun id ↦ (manager.groups id).next
  prev := fun id ↦ (manager.groups id).prev

/-- The manager holds the groups of `order`, the most recently used one first. -/
structure Represents (maxGroups : MaxGroups) (manager : Manager) (order : List UInt8) : Prop where
  /-- The circular list of use age is the order: each id once, with `next` and `prev` inverse. -/
  ring : manager.links.IsRing order
  /-- The list starts at the head, which is zero when it is empty. -/
  head : manager.useAgeHead = order.head?.getD 0
  /-- The list has exactly the groups in use. -/
  members : ∀ id, id ∈ order ↔ IsId maxGroups id ∧ (manager.groups id).inUse = true
  /-- The masks of two groups differ. -/
  masks : ∀ id ∈ order, ∀ other ∈ order,
    (manager.groups id).nlist = (manager.groups other).nlist → id = other

/-- No group can be expanded to the mask. -/
def NoneNear (manager : Manager) (order : List UInt8) (mask : Nodemask) : Prop :=
  ∀ group ∈ order, IsSubset (manager.groups group).nlist mask →
    255 ≤ missing (manager.groups group).nlist mask

/-- Every group is in use and `id` is the least recently used one. -/
def Recycled (maxGroups : MaxGroups) (manager : Manager) (order : List UInt8) (mask : Nodemask)
    (id : UInt8) : Prop :=
  NoneNear manager order mask ∧
    (∀ group, IsId maxGroups group → (manager.groups group).inUse = true) ∧
    order.getLast? = some id

/-- Which group a request for some nodes gets. -/
inductive Chosen (maxGroups : MaxGroups) (manager : Manager) (order : List UInt8) (mask : Nodemask)
    (id : UInt8) : Prop
  /-- A group with this mask. -/
  | same : id ∈ order → (manager.groups id).nlist = mask → Chosen maxGroups manager order mask id
  /-- There is none, and the group is a closest one among the subsets. -/
  | closest : (∀ group ∈ order, (manager.groups group).nlist ≠ mask) → id ∈ order →
      IsSubset (manager.groups id).nlist mask → missing (manager.groups id).nlist mask < 255 →
      (∀ group ∈ order, IsSubset (manager.groups group).nlist mask →
        missing (manager.groups id).nlist mask ≤ missing (manager.groups group).nlist mask) →
      Chosen maxGroups manager order mask id
  /-- There is no subset near enough, and the group is the first unused one. -/
  | unused : NoneNear manager order mask → IsId maxGroups id →
      (manager.groups id).inUse = false →
      (∀ group, IsId maxGroups group → (manager.groups group).inUse = false → id ≤ group) →
      Chosen maxGroups manager order mask id
  /-- No group is unused either, and the group is the least recently used one. -/
  | oldest : Recycled maxGroups manager order mask id → Chosen maxGroups manager order mask id

/-- How a request is served. -/
structure Served (maxGroups : MaxGroups) (before : Manager) (order : List UInt8) (mask : Nodemask)
    (id : UInt8) (after : Manager) : Prop where
  /-- A request for no nodes gets no group and changes nothing. -/
  nothing : mask = empty → id = 0 ∧ after = before
  /-- Any other request gets a group that has its mask from then on. -/
  stored : mask ≠ empty → id ≠ 0 ∧ mcastGroupGetNodemaskById maxGroups after id = some mask
  /-- The group is chosen by the rules. -/
  chosen : mask ≠ empty → Chosen maxGroups before order mask id
  /-- No group loses a node except by being recycled. -/
  kept : ∀ group ∈ order, (after.groups group).inUse = true ∧
    (IsSubset (before.groups group).nlist (after.groups group).nlist ∨
      (group = id ∧ Recycled maxGroups before order mask id))

/-! ### The list of use age -/

/-- The groups are the same up to their links. -/
structure SameGroups (before after : Manager) : Prop where
  inUse : ∀ id, (after.groups id).inUse = (before.groups id).inUse
  nlist : ∀ id, (after.groups id).nlist = (before.groups id).nlist

theorem SameGroups.trans {first middle last : Manager} (hfirst : SameGroups first middle)
    (hlast : SameGroups middle last) : SameGroups first last :=
  ⟨fun id ↦ (hlast.inUse id).trans (hfirst.inUse id),
    fun id ↦ (hlast.nlist id).trans (hfirst.nlist id)⟩

/-- A field of the groups, after a group is stored that has the same value in it. -/
theorem field_update_same {α : Type} (field : McastGroup → α) (groups : UInt8 → McastGroup)
    (id : UInt8) {new : McastGroup} (hsame : field new = field (groups id)) :
    (fun other ↦ field (update groups id new other)) = fun other ↦ field (groups other) :=
  (comp_update field groups id new).trans (update_eq_iff.mpr ⟨hsame, fun _ _ ↦ rfl⟩)

theorem sameGroups_setNext (id value : UInt8) (manager : Manager) :
    SameGroups manager (manager.setNext id value) :=
  ⟨congrFun (field_update_same McastGroup.inUse _ id rfl),
    congrFun (field_update_same McastGroup.nlist _ id rfl)⟩

theorem sameGroups_setPrev (id value : UInt8) (manager : Manager) :
    SameGroups manager (manager.setPrev id value) :=
  ⟨congrFun (field_update_same McastGroup.inUse _ id rfl),
    congrFun (field_update_same McastGroup.nlist _ id rfl)⟩

theorem sameGroups_setHead (id : UInt8) (manager : Manager) :
    SameGroups manager (manager.setHead id) :=
  ⟨fun _ ↦ rfl, fun _ ↦ rfl⟩

theorem links_setNext (id value : UInt8) (manager : Manager) :
    (manager.setNext id value).links =
      { manager.links with next := update manager.links.next id value } :=
  congrArg₂ Links.mk (comp_update McastGroup.next _ id _)
    (field_update_same McastGroup.prev _ id rfl)

theorem links_setPrev (id value : UInt8) (manager : Manager) :
    (manager.setPrev id value).links =
      { manager.links with prev := update manager.links.prev id value } :=
  congrArg₂ Links.mk (field_update_same McastGroup.next _ id rfl)
    (comp_update McastGroup.prev _ id _)

theorem links_setHead (id : UInt8) (manager : Manager) :
    (manager.setHead id).links = manager.links :=
  rfl

variable (groupId : UInt8) (maxGroups : MaxGroups) (manager : Manager)

theorem links_remove :
    (mcastGroupUseAgeElementRemove groupId manager).links = manager.links.remove groupId := by
  rw [mcastGroupUseAgeElementRemove, links_setPrev, links_setNext]
  rfl

theorem links_insertHead : (mcastGroupUseAgeElementInsertHead groupId manager).links =
      manager.links.insertHead manager.useAgeHead groupId := by
  rw [mcastGroupUseAgeElementInsertHead, links_setHead, links_setNext, links_setPrev, links_setPrev,
    links_setNext]
  rfl

theorem sameGroups_remove : SameGroups manager (mcastGroupUseAgeElementRemove groupId manager) :=
  (sameGroups_setNext ..).trans (sameGroups_setPrev ..)

theorem sameGroups_insertHead :
    SameGroups manager (mcastGroupUseAgeElementInsertHead groupId manager) :=
  ((((sameGroups_setNext ..).trans (sameGroups_setPrev ..)).trans (sameGroups_setPrev ..)).trans
    (sameGroups_setNext ..)).trans (sameGroups_setHead ..)

/-- A list of use age with its head. -/
def UseAge (manager : Manager) (order : List UInt8) : Prop :=
  manager.links.IsRing order ∧ manager.useAgeHead = order.head?.getD 0

/-- A group that has just been used is the first of the list. -/
theorem useAge_update {manager : Manager} {order : List UInt8} (huse : UseAge manager order)
    {groupId : UInt8} (hmem : groupId ∈ order) :
    UseAge (mcastGroupUseAgeUpdate groupId manager) (touch groupId order) ∧
      SameGroups manager (mcastGroupUseAgeUpdate groupId manager) := by
  obtain ⟨hring, hhead⟩ := huse
  cases order with
  | nil => exact absurd hmem not_mem_nil
  | cons head rest =>
    have hhead : manager.useAgeHead = head := hhead
    rw [mcastGroupUseAgeUpdate]
    by_cases hsame : groupId = manager.useAgeHead
    · rw [if_pos hsame]
      obtain rfl : groupId = head := hsame.trans hhead
      rw [touch, erase_cons_head]
      exact ⟨⟨hring, hhead⟩, fun _ ↦ rfl, fun _ ↦ rfl⟩
    · rw [if_neg hsame]
      have hne : groupId ≠ head := fun h ↦ hsame (h.trans hhead.symm)
      have hrest : groupId ∈ rest := (mem_cons.mp hmem).resolve_left hne
      have hremoved := hring.remove hrest
      have hout : groupId ∉ head :: rest.erase groupId := by
        rw [mem_cons, not_or]
        exact ⟨hne, (nodup_cons.mp hring.1).2.not_mem_erase⟩
      refine ⟨⟨?_, rfl⟩, (sameGroups_remove ..).trans (sameGroups_insertHead ..)⟩
      rw [touch, erase_cons_tail (by simpa using hne.symm), links_insertHead, links_remove]
      show (Links.insertHead _ manager.useAgeHead _).IsRing _
      rw [hhead]
      exact hremoved.insertHead hout

/-- A new group is the first of the list. -/
theorem useAge_insertNew {manager : Manager} {order : List UInt8} (huse : UseAge manager order)
    (hids : 0 ∉ order) {groupId : UInt8} (hnew : groupId ∉ order) :
    UseAge (mcastGroupUseAgeElementInsertNew groupId manager) (groupId :: order) ∧
      SameGroups manager (mcastGroupUseAgeElementInsertNew groupId manager) := by
  obtain ⟨hring, hhead⟩ := huse
  rw [mcastGroupUseAgeElementInsertNew]
  cases order with
  | nil =>
    have hhead : manager.useAgeHead = 0 := hhead
    rw [if_pos hhead]
    refine ⟨⟨?_, rfl⟩, ((sameGroups_setPrev ..).trans (sameGroups_setNext ..)).trans
      (sameGroups_setHead ..)⟩
    rw [links_setHead, links_setNext, links_setPrev]
    exact Links.isRing_single manager.links groupId
  | cons head rest =>
    have hhead : manager.useAgeHead = head := hhead
    have hne : manager.useAgeHead ≠ 0 := by
      rw [hhead]
      rintro rfl
      exact hids mem_cons_self
    rw [if_neg hne]
    refine ⟨⟨?_, rfl⟩, sameGroups_insertHead ..⟩
    rw [links_insertHead, hhead]
    exact hring.insertHead hnew

/-! ### The loop over the groups -/

/-- The distance of a group to the mask. -/
def distanceTo (manager : Manager) (mask : Nodemask) (id : UInt8) : ℕ :=
  (mcastNodemaskDistance (manager.groups id).nlist mask).toNat

/-- What the loop knows after the groups up to `count`. -/
structure ScanOk (manager : Manager) (mask : Nodemask) (count : ℕ) (scan : Scan) : Prop where
  candidate : (scan.candidate = 0 ∧ scan.lowestDist.toInt = 255) ∨
    (IsIdUpTo count scan.candidate ∧ (manager.groups scan.candidate).inUse = true ∧
      scan.lowestDist.toInt = distanceTo manager mask scan.candidate ∧
      distanceTo manager mask scan.candidate < 255)
  lowest : ∀ group, IsIdUpTo count group → (manager.groups group).inUse = true →
    scan.lowestDist.toInt ≤ distanceTo manager mask group
  unused : (scan.firstUnused = 0 ∧
      ∀ group, IsIdUpTo count group → (manager.groups group).inUse = true) ∨
    (IsIdUpTo count scan.firstUnused ∧ (manager.groups scan.firstUnused).inUse = false ∧
      ∀ group, IsIdUpTo count group → (manager.groups group).inUse = false →
        scan.firstUnused ≤ group)

theorem isIdUpTo_succ {count : ℕ} (hcount : count < 255) (id : UInt8) :
    IsIdUpTo (count + 1) id ↔ IsIdUpTo count id ∨ id = UInt8.ofNat (count + 1) := by
  have hvalue : (UInt8.ofNat (count + 1)).toNat = count + 1 := by
    rw [UInt8.toNat_ofNat', Nat.mod_eq_of_lt (by omega)]
  have hzero : id ≠ 0 ↔ id.toNat ≠ 0 := by
    rw [Ne, ← UInt8.toNat_inj]
    rfl
  rw [IsIdUpTo, IsIdUpTo, hzero, ← UInt8.toNat_inj, hvalue]
  omega

theorem toInt_toInt16 {dist : UInt16} (hdist : dist.toNat < 255) :
    dist.toInt16.toInt = (dist.toNat : ℤ) :=
  BitVec.toInt_eq_toNat_of_lt (x := dist.toBitVec) (by
    show 2 * dist.toNat < 2 ^ 16
    omega)

section Next

variable {manager : Manager} {mask : Nodemask} {count : ℕ} {scan : Scan}

/-- The candidate of the groups before is one of the groups up to the next. -/
theorem ScanOk.candidate_succ (hscan : ScanOk manager mask count scan) (hcount : count < 255) :
    (scan.candidate = 0 ∧ scan.lowestDist.toInt = 255) ∨
      (IsIdUpTo (count + 1) scan.candidate ∧ (manager.groups scan.candidate).inUse = true ∧
        scan.lowestDist.toInt = distanceTo manager mask scan.candidate ∧
        distanceTo manager mask scan.candidate < 255) := by
  rcases hscan.candidate with hnone | ⟨hid, hrest⟩
  · exact Or.inl hnone
  · exact Or.inr ⟨(isIdUpTo_succ hcount _).mpr (Or.inl hid), hrest⟩

/-- A group in use becomes the candidate when it is nearer than those before. -/
theorem ScanOk.next_inUse (hscan : ScanOk manager mask count scan) (hcount : count < 255)
    (huse : (manager.groups (UInt8.ofNat (count + 1))).inUse = true) :
    ScanOk manager mask (count + 1) (scanGroup manager mask scan count) := by
  have hsucc := isIdUpTo_succ hcount
  have hnew : IsIdUpTo (count + 1) (UInt8.ofNat (count + 1)) := (hsucc _).mpr (Or.inr rfl)
  have hstep : scanGroup manager mask scan count =
      if (distanceTo manager mask (UInt8.ofNat (count + 1)) : ℤ) < scan.lowestDist.toInt then
        { scan with
          lowestDist := (mcastNodemaskDistance
            (manager.groups (UInt8.ofNat (count + 1))).nlist mask).toInt16
          candidate := UInt8.ofNat (count + 1) }
      else scan := if_pos huse
  have hunused : (scan.firstUnused = 0 ∧
      ∀ group, IsIdUpTo (count + 1) group → (manager.groups group).inUse = true) ∨
    (IsIdUpTo (count + 1) scan.firstUnused ∧ (manager.groups scan.firstUnused).inUse = false ∧
      ∀ group, IsIdUpTo (count + 1) group → (manager.groups group).inUse = false →
        scan.firstUnused ≤ group) := by
    rcases hscan.unused with ⟨hzero, hall⟩ | ⟨hid, hfree, hleast⟩
    · refine Or.inl ⟨hzero, fun group hgroup ↦ ?_⟩
      rcases (hsucc group).mp hgroup with hold | rfl
      · exact hall group hold
      · exact huse
    · refine Or.inr ⟨(hsucc _).mpr (Or.inl hid), hfree, fun group hgroup hgroupFree ↦ ?_⟩
      rcases (hsucc group).mp hgroup with hold | rfl
      · exact hleast group hold hgroupFree
      · exact absurd huse (by rw [hgroupFree]; decide)
  rw [hstep]
  split
  · next hnear =>
    have hsmall : distanceTo manager mask (UInt8.ofNat (count + 1)) < 255 := by
      rcases hscan.candidate with ⟨-, hinf⟩ | ⟨-, -, heq, hlt⟩ <;> omega
    refine ⟨Or.inr ⟨hnew, huse, toInt_toInt16 hsmall, hsmall⟩, ?_, hunused⟩
    intro group hgroup hgroupUse
    refine (toInt_toInt16 hsmall).trans_le ?_
    rcases (hsucc group).mp hgroup with hold | rfl
    · exact le_of_lt (lt_of_lt_of_le hnear (hscan.lowest group hold hgroupUse))
    · exact le_rfl
  · next hfar =>
    refine ⟨hscan.candidate_succ hcount, ?_, hunused⟩
    intro group hgroup hgroupUse
    rcases (hsucc group).mp hgroup with hold | rfl
    · exact hscan.lowest group hold hgroupUse
    · exact not_lt.mp hfar

/-- The first group that is not in use is remembered. -/
theorem ScanOk.next_unused (hscan : ScanOk manager mask count scan) (hcount : count < 255)
    (hfree : (manager.groups (UInt8.ofNat (count + 1))).inUse = false) :
    ScanOk manager mask (count + 1) (scanGroup manager mask scan count) := by
  have hsucc := isIdUpTo_succ hcount
  have huse : ¬ (manager.groups (UInt8.ofNat (count + 1))).inUse = true := by
    rw [hfree]
    decide
  have hlowest : ∀ group, IsIdUpTo (count + 1) group → (manager.groups group).inUse = true →
      scan.lowestDist.toInt ≤ distanceTo manager mask group := by
    intro group hgroup hgroupUse
    rcases (hsucc group).mp hgroup with hold | rfl
    · exact hscan.lowest group hold hgroupUse
    · exact absurd hgroupUse huse
  rw [show scanGroup manager mask scan count = if scan.firstUnused = 0 then
    { scan with firstUnused := UInt8.ofNat (count + 1) } else scan from if_neg huse]
  rcases hscan.unused with ⟨hzero, hall⟩ | ⟨hid, hunusedFree, hleast⟩
  · rw [if_pos hzero]
    refine ⟨hscan.candidate_succ hcount, hlowest,
      Or.inr ⟨(hsucc _).mpr (Or.inr rfl), hfree, fun group hgroup hgroupFree ↦ ?_⟩⟩
    rcases (hsucc group).mp hgroup with hold | rfl
    · exact absurd (hall group hold) (by rw [hgroupFree]; decide)
    · exact UInt8.le_refl _
  · rw [if_neg hid.1]
    refine ⟨hscan.candidate_succ hcount, hlowest,
      Or.inr ⟨(hsucc _).mpr (Or.inl hid), hunusedFree, fun group hgroup hgroupFree ↦ ?_⟩⟩
    rcases (hsucc group).mp hgroup with hold | rfl
    · exact hleast group hold hgroupFree
    · have hvalue : (UInt8.ofNat (count + 1)).toNat = count + 1 := by
        rw [UInt8.toNat_ofNat', Nat.mod_eq_of_lt (by omega)]
      rw [UInt8.le_iff_toNat_le, hvalue]
      exact hid.2.trans (Nat.le_succ _)

end Next

/-- What the loop finds. -/
theorem scanOk_scanGroups (mask : Nodemask) :
    ScanOk manager mask maxGroups.count (scanGroups maxGroups manager mask) := by
  have hloop (count : ℕ) (hcount : count ≤ 255) : ScanOk manager mask count
      ((List.range count).foldl (scanGroup manager mask)
        { candidate := 0, firstUnused := 0, lowestDist := 0xFF }) := by
    induction count with
    | zero =>
      have hnone (group : UInt8) : ¬ IsIdUpTo 0 group := by
        rintro ⟨hne, hle⟩
        exact hne (UInt8.toNat_inj.mp (Nat.le_zero.mp hle))
      exact ⟨Or.inl ⟨rfl, rfl⟩, fun group hgroup ↦ absurd hgroup (hnone group),
        Or.inl ⟨rfl, fun group hgroup ↦ absurd hgroup (hnone group)⟩⟩
    | succ count ih =>
      rw [range_succ, foldl_append]
      have hscan := ih (by omega)
      cases huse : (manager.groups (UInt8.ofNat (count + 1))).inUse with
      | true => exact hscan.next_inUse (by omega) huse
      | false => exact hscan.next_unused (by omega) huse
  exact hloop _ maxGroups.le

/-! ### One call -/

theorem mem_touch {id group : UInt8} {order : List UInt8} :
    group ∈ touch id order ↔ group = id ∨ group ∈ order := by
  rw [touch, mem_cons]
  by_cases hgroup : group = id
  · simp [hgroup]
  · rw [mem_erase_of_ne hgroup]

/-- What the call leaves in the table: the group has the mask and is in use, the other groups are as
before. -/
structure Entered (before after : Manager) (mask : Nodemask) (id : UInt8) : Prop where
  inUse : (after.groups id).inUse = true
  nlist : (after.groups id).nlist = mask
  others : ∀ group, group ≠ id → (after.groups group).inUse = (before.groups group).inUse ∧
    (after.groups group).nlist = (before.groups group).nlist

/-- A table with a group that has a new mask represents the order in which this group is first. -/
theorem Represents.entered {maxGroups : MaxGroups} {before after : Manager} {order : List UInt8}
    (hrep : Represents maxGroups before order) {mask : Nodemask} {id : UInt8}
    (hid : IsId maxGroups id) (huse : UseAge after (touch id order))
    (hentered : Entered before after mask id)
    (hfresh : ∀ group ∈ order, group ≠ id → (before.groups group).nlist ≠ mask) :
    Represents maxGroups after (touch id order) := by
  refine ⟨huse.1, huse.2, ?_, ?_⟩
  · intro group
    rw [mem_touch]
    by_cases hgroup : group = id
    · subst hgroup
      simp only [true_or, true_iff]
      exact ⟨hid, hentered.inUse⟩
    · rw [(hentered.others group hgroup).1, hrep.members]
      simp only [hgroup, false_or]
  · intro group hgroup other hother heq
    rw [mem_touch] at hgroup hother
    by_cases hsame : group = id
    · subst hsame
      by_contra hne
      have hne' : other ≠ group := fun h ↦ hne h.symm
      rw [hentered.nlist, (hentered.others other hne').2] at heq
      exact hfresh other (hother.resolve_left hne') hne' heq.symm
    · by_cases hsame' : other = id
      · subst hsame'
        rw [hentered.nlist, (hentered.others group hsame).2] at heq
        exact absurd heq (hfresh group (hgroup.resolve_left hsame) hsame)
      · rw [(hentered.others group hsame).2, (hentered.others other hsame').2] at heq
        exact hrep.masks group (hgroup.resolve_left hsame) other (hother.resolve_left hsame') heq

/-- The request has its mask stored, and the other groups lose nothing. -/
theorem Entered.served {maxGroups : MaxGroups} {before after : Manager} {order : List UInt8}
    (hrep : Represents maxGroups before order) {mask : Nodemask} {id : UInt8}
    (hmask : mask ≠ empty) (hid : IsId maxGroups id) (hentered : Entered before after mask id)
    (hchosen : Chosen maxGroups before order mask id)
    (hkept : id ∈ order → IsSubset (before.groups id).nlist mask ∨
      Recycled maxGroups before order mask id) :
    Served maxGroups before order mask id after := by
  refine ⟨fun h ↦ absurd h hmask, fun _ ↦ ⟨hid.1, ?_⟩, fun _ ↦ hchosen, ?_⟩
  · have hvalid : ¬ (id = 0 ∨ maxGroups.count < id.toNat) := by
      rintro (hzero | hlarge)
      · exact hid.1 hzero
      · exact absurd hid.2 (not_le.mpr hlarge)
    rw [mcastGroupGetNodemaskById, if_neg hvalid, if_pos hentered.inUse, hentered.nlist]
  · intro group hgroup
    by_cases hsame : group = id
    · subst hsame
      refine ⟨hentered.inUse, ?_⟩
      rw [hentered.nlist]
      rcases hkept hgroup with hsubset | hrecycled
      · exact Or.inl hsubset
      · exact Or.inr ⟨rfl, hrecycled⟩
    · obtain ⟨hinUse, hnlist⟩ := hentered.others group hsame
      rw [hinUse, hnlist]
      exact ⟨((hrep.members group).mp hgroup).2, Or.inl fun _ h ↦ h⟩

section Choice

variable {maxGroups : MaxGroups} {manager : Manager} {order : List UInt8} {mask : Nodemask}
  {scan : Scan}

open Classical in
theorem distanceTo_eq (manager : Manager) (mask : Nodemask) (group : UInt8) :
    distanceTo manager mask group =
      if IsSubset (manager.groups group).nlist mask then missing (manager.groups group).nlist mask
      else 0xFFFF :=
  mcastNodemaskDistance_toNat _ _

theorem isSubset_of_distanceTo_lt {group : UInt8} (hlt : distanceTo manager mask group < 255) :
    IsSubset (manager.groups group).nlist mask ∧
      distanceTo manager mask group = missing (manager.groups group).nlist mask := by
  rw [distanceTo_eq] at hlt ⊢
  by_cases hsubset : IsSubset (manager.groups group).nlist mask
  · exact ⟨hsubset, if_pos hsubset⟩
  · rw [if_neg hsubset] at hlt
    omega

theorem distanceTo_of_isSubset {group : UInt8}
    (hsubset : IsSubset (manager.groups group).nlist mask) :
    distanceTo manager mask group = missing (manager.groups group).nlist mask := by
  rw [distanceTo_eq, if_pos hsubset]

/-- The candidate of the loop is a closest group. -/
theorem Represents.candidate (hrep : Represents maxGroups manager order)
    (hscan : ScanOk manager mask maxGroups.count scan) (hcandidate : scan.candidate ≠ 0) :
    scan.candidate ∈ order ∧ IsId maxGroups scan.candidate ∧
      IsSubset (manager.groups scan.candidate).nlist mask ∧
      missing (manager.groups scan.candidate).nlist mask < 255 ∧
      scan.lowestDist.toInt = missing (manager.groups scan.candidate).nlist mask ∧
      ∀ group ∈ order, IsSubset (manager.groups group).nlist mask →
        missing (manager.groups scan.candidate).nlist mask ≤
          missing (manager.groups group).nlist mask := by
  rcases hscan.candidate with ⟨hzero, -⟩ | ⟨hid, hinUse, hlowest, hlt⟩
  · exact absurd hzero hcandidate
  · obtain ⟨hsubset, hdistance⟩ := isSubset_of_distanceTo_lt hlt
    rw [hdistance] at hlowest hlt
    refine ⟨(hrep.members _).mpr ⟨hid, hinUse⟩, hid, hsubset, hlt, hlowest, ?_⟩
    intro group hgroup hgroupSubset
    obtain ⟨hgroupId, hgroupUse⟩ := (hrep.members group).mp hgroup
    have hle := hscan.lowest group hgroupId hgroupUse
    rw [hlowest, distanceTo_of_isSubset hgroupSubset] at hle
    exact Int.ofNat_le.mp hle

/-- Without a candidate no group is near. -/
theorem Represents.noneNear (hrep : Represents maxGroups manager order)
    (hscan : ScanOk manager mask maxGroups.count scan) (hcandidate : scan.candidate = 0) :
    NoneNear manager order mask := by
  intro group hgroup hsubset
  obtain ⟨hid, hinUse⟩ := (hrep.members group).mp hgroup
  have hle := hscan.lowest group hid hinUse
  rw [distanceTo_of_isSubset hsubset] at hle
  rcases hscan.candidate with ⟨-, hinf⟩ | ⟨hid', -⟩
  · rw [hinf] at hle
    exact_mod_cast hle
  · exact absurd hcandidate hid'.1

/-- Without a near group none has the mask. -/
theorem NoneNear.ne (hnone : NoneNear manager order mask) {group : UInt8} (hgroup : group ∈ order) :
    (manager.groups group).nlist ≠ mask := by
  intro heq
  have hsubset : IsSubset (manager.groups group).nlist mask := by
    rw [heq]
    exact fun _ h ↦ h
  have hzero := (missing_eq_zero hsubset).mpr heq
  have hfar := hnone group hgroup hsubset
  omega

end Choice

theorem useAge_setNlist {manager : Manager} {order : List UInt8} (huse : UseAge manager order)
    (id : UInt8) (mask : Nodemask) : UseAge (manager.setNlist id mask) order := by
  have hlinks : (manager.setNlist id mask).links = manager.links :=
    congrArg₂ Links.mk (field_update_same McastGroup.next _ id rfl)
      (field_update_same McastGroup.prev _ id rfl)
  exact ⟨hlinks ▸ huse.1, huse.2⟩

theorem useAge_setInUse {manager : Manager} {order : List UInt8} (huse : UseAge manager order)
    (id : UInt8) : UseAge (manager.setInUse id) order := by
  have hlinks : (manager.setInUse id).links = manager.links :=
    congrArg₂ Links.mk (field_update_same McastGroup.next _ id rfl)
      (field_update_same McastGroup.prev _ id rfl)
  exact ⟨hlinks ▸ huse.1, huse.2⟩

/-- Changing links, and storing the mask before or after, enters the mask. -/
theorem SameGroups.entered_setNlist {before middle : Manager} (hsame : SameGroups before middle)
    {id : UInt8} (hinUse : (before.groups id).inUse = true) (mask : Nodemask) :
    Entered before (middle.setNlist id mask) mask id := by
  refine ⟨?_, ?_, fun group hgroup ↦ ?_⟩
  · simpa [Manager.setNlist] using (hsame.inUse id).trans hinUse
  · simp [Manager.setNlist]
  · simp only [Manager.setNlist, update_of_ne hgroup]
    exact ⟨hsame.inUse group, hsame.nlist group⟩

theorem SameGroups.entered {before middle after : Manager} (hsame : SameGroups middle after)
    {mask : Nodemask} {id : UInt8} (hentered : Entered before middle mask id) :
    Entered before after mask id := by
  refine ⟨(hsame.inUse id).trans hentered.inUse, (hsame.nlist id).trans hentered.nlist,
    fun group hgroup ↦ ?_⟩
  rw [hsame.inUse, hsame.nlist]
  exact hentered.others group hgroup

section Call

variable {maxGroups : MaxGroups} {manager : Manager} {order : List UInt8} {mask : Nodemask}

theorem Represents.zero_not_mem (hrep : Represents maxGroups manager order) : 0 ∉ order :=
  fun hzero ↦ ((hrep.members 0).mp hzero).1.1 rfl

/-- A call that finds a near group. -/
theorem served_candidate (hrep : Represents maxGroups manager order) (hmask : mask ≠ empty)
    {scan : Scan} (hscan : ScanOk manager mask maxGroups.count scan)
    (hcandidate : scan.candidate ≠ 0) :
    let after := mcastGroupUseAgeUpdate scan.candidate
      (if scan.lowestDist ≠ 0 then manager.setNlist scan.candidate mask else manager)
    Represents maxGroups after (touch scan.candidate order) ∧
      Served maxGroups manager order mask scan.candidate after := by
  intro after
  obtain ⟨hmem, hid, hsubset, hlt, hlowest, hclosest⟩ := hrep.candidate hscan hcandidate
  have hinUse := ((hrep.members _).mp hmem).2
  have hexact : scan.lowestDist = 0 ↔ (manager.groups scan.candidate).nlist = mask := by
    rw [← missing_eq_zero hsubset, ← Int16.toInt_inj, hlowest]
    exact Int.natCast_eq_zero
  have hexpanded : Entered manager
      (if scan.lowestDist ≠ 0 then manager.setNlist scan.candidate mask else manager) mask
      scan.candidate := by
    split
    · exact SameGroups.entered_setNlist ⟨fun _ ↦ rfl, fun _ ↦ rfl⟩ hinUse mask
    · next hzero => exact ⟨hinUse, hexact.mp (not_not.mp hzero), fun _ _ ↦ ⟨rfl, rfl⟩⟩
  have huse : UseAge
      (if scan.lowestDist ≠ 0 then manager.setNlist scan.candidate mask else manager) order := by
    split
    · exact useAge_setNlist ⟨hrep.ring, hrep.head⟩ _ _
    · exact ⟨hrep.ring, hrep.head⟩
  obtain ⟨huse', hsame⟩ := useAge_update huse hmem
  have hentered := hsame.entered hexpanded
  -- A group with the mask has the distance zero, so that the candidate has the mask too.
  have hunique : ∀ group ∈ order, (manager.groups group).nlist = mask →
      (manager.groups scan.candidate).nlist = mask := by
    intro group hgroup heq
    have hle := hclosest group hgroup (by rw [heq]; exact fun _ h ↦ h)
    rw [heq, (missing_eq_zero (fun _ h ↦ h)).mpr rfl] at hle
    exact (missing_eq_zero hsubset).mp (Nat.le_zero.mp hle)
  refine ⟨hrep.entered hid huse' hentered ?_,
    hentered.served hrep hmask hid ?_ (fun _ ↦ Or.inl hsubset)⟩
  · intro group hgroup hne heq
    exact hne (hrep.masks group hgroup _ hmem (heq.trans (hunique group hgroup heq).symm))
  · by_cases hequal : (manager.groups scan.candidate).nlist = mask
    · exact Chosen.same hmem hequal
    · exact Chosen.closest (fun group hgroup heq ↦ hequal (hunique group hgroup heq)) hmem hsubset
        hlt hclosest

/-- A call that recycles the oldest group. -/
theorem served_oldest (hrep : Represents maxGroups manager order) (hmask : mask ≠ empty)
    (hnone : NoneNear manager order mask)
    (hfull : ∀ group, IsId maxGroups group → (manager.groups group).inUse = true) :
    let oldest := mcastGroupUseAgeGetOldest manager
    let after := (mcastGroupUseAgeUpdate oldest manager).setNlist oldest mask
    Represents maxGroups after (touch oldest order) ∧
      Served maxGroups manager order mask oldest after := by
  intro oldest after
  -- There is a first group, so the list of use age is not empty.
  have hone : IsId maxGroups 1 := ⟨by decide, maxGroups.pos⟩
  have hmemOne : (1 : UInt8) ∈ order := (hrep.members 1).mpr ⟨hone, hfull 1 hone⟩
  have hlast : order.getLast? = some oldest := by
    cases horder : order with
    | nil => exact absurd hmemOne (by rw [horder]; exact not_mem_nil)
    | cons head rest =>
      have hring : manager.links.IsRing (head :: rest) := horder ▸ hrep.ring
      have hhead : manager.useAgeHead = head := by rw [hrep.head, horder]; rfl
      rw [List.getLast?_eq_getLast_of_ne_nil (cons_ne_nil _ _), ← hring.prev_head, ← hhead]
      rfl
  have hmem : oldest ∈ order := mem_of_getLast? hlast
  obtain ⟨hid, hinUse⟩ := (hrep.members oldest).mp hmem
  obtain ⟨huse, hsame⟩ := useAge_update ⟨hrep.ring, hrep.head⟩ hmem
  have hentered : Entered manager after mask oldest := hsame.entered_setNlist hinUse mask
  have hrecycled : Recycled maxGroups manager order mask oldest := ⟨hnone, hfull, hlast⟩
  exact ⟨hrep.entered hid (useAge_setNlist huse _ _) hentered
    (fun group hgroup _ ↦ hnone.ne hgroup),
    hentered.served hrep hmask hid (Chosen.oldest hrecycled) (fun _ ↦ Or.inr hrecycled)⟩

/-- A call that takes the first unused group. -/
theorem served_unused (hrep : Represents maxGroups manager order) (hmask : mask ≠ empty)
    (hnone : NoneNear manager order mask) {id : UInt8} (hid : IsId maxGroups id)
    (hfree : (manager.groups id).inUse = false)
    (hleast : ∀ group, IsId maxGroups group → (manager.groups group).inUse = false → id ≤ group) :
    let after := (mcastGroupUseAgeElementInsertNew id (manager.setInUse id)).setNlist id mask
    Represents maxGroups after (touch id order) ∧ Served maxGroups manager order mask id after := by
  intro after
  have hnew : id ∉ order := by
    intro hmem
    have hinUse := ((hrep.members id).mp hmem).2
    rw [hfree] at hinUse
    exact absurd hinUse (by decide)
  obtain ⟨huse, hsame⟩ := useAge_insertNew (useAge_setInUse ⟨hrep.ring, hrep.head⟩ id)
    hrep.zero_not_mem hnew
  have hentered : Entered manager after mask id := by
    have hset : Entered (manager.setInUse id) after mask id :=
      hsame.entered_setNlist (by simp [Manager.setInUse]) mask
    refine ⟨hset.inUse, hset.nlist, fun group hgroup ↦ ?_⟩
    obtain ⟨hinUse, hnlist⟩ := hset.others group hgroup
    rw [hinUse, hnlist]
    simp [Manager.setInUse, update_of_ne hgroup]
  have htouch : touch id order = id :: order := by rw [touch, erase_of_not_mem hnew]
  refine ⟨hrep.entered hid ?_ hentered (fun group hgroup _ ↦ hnone.ne hgroup),
    hentered.served hrep hmask hid (Chosen.unused hnone hid hfree hleast)
      (fun hmem ↦ absurd hmem hnew)⟩
  rw [htouch]
  exact useAge_setNlist huse _ _

/-- Every call serves its request and keeps the groups in the order of their use. -/
theorem getId_served (hrep : Represents maxGroups manager order) (mask : Nodemask) :
    Represents maxGroups (mcastGroupGetIdByNodemask maxGroups mask manager).2
        (if (mcastGroupGetIdByNodemask maxGroups mask manager).1 = 0 then order
          else touch (mcastGroupGetIdByNodemask maxGroups mask manager).1 order) ∧
      Served maxGroups manager order mask (mcastGroupGetIdByNodemask maxGroups mask manager).1
        (mcastGroupGetIdByNodemask maxGroups mask manager).2 := by
  have hscan := scanOk_scanGroups maxGroups manager mask
  by_cases hmask : mask = empty
  · rw [mcastGroupGetIdByNodemask, if_pos hmask]
    refine ⟨hrep, fun _ ↦ ⟨rfl, rfl⟩, fun h ↦ absurd hmask h, fun h ↦ absurd hmask h, ?_⟩
    intro group hgroup
    exact ⟨((hrep.members group).mp hgroup).2, Or.inl fun _ h ↦ h⟩
  · by_cases hcandidate : (scanGroups maxGroups manager mask).candidate = 0
    · have hnone := hrep.noneNear hscan hcandidate
      rcases hscan.unused with ⟨hzero, hfull⟩ | ⟨hid, hfree, hleast⟩
      · obtain ⟨hrep', hserved⟩ := served_oldest hrep hmask hnone hfull
        have hne := (hserved.stored hmask).1
        rw [mcastGroupGetIdByNodemask, if_neg hmask]
        simp only [hcandidate, hzero, ne_eq, not_true_eq_false, if_false, if_true]
        rw [if_neg hne]
        exact ⟨hrep', hserved⟩
      · obtain ⟨hrep', hserved⟩ := served_unused hrep hmask hnone hid hfree hleast
        rw [mcastGroupGetIdByNodemask, if_neg hmask]
        simp only [hcandidate, ne_eq, not_true_eq_false, if_false]
        rw [if_neg hid.1]
        rw [if_neg hid.1]
        exact ⟨hrep', hserved⟩
    · obtain ⟨hrep', hserved⟩ := served_candidate hrep hmask hscan hcandidate
      rw [mcastGroupGetIdByNodemask, if_neg hmask]
      simp only [ne_eq, hcandidate, not_false_eq_true, if_true, if_false]
      exact ⟨hrep', hserved⟩

end Call

/-! ### Every sequence of calls -/

/-- One call, with the ids returned until now, newest first. -/
def serve (maxGroups : MaxGroups) (state : Manager × List UInt8) (mask : Nodemask) :
    Manager × List UInt8 :=
  ((mcastGroupGetIdByNodemask maxGroups mask state.1).2,
    (mcastGroupGetIdByNodemask maxGroups mask state.1).1 :: state.2)

/-- The manager holds the groups in the order in which they were last returned. -/
def Refines (maxGroups : MaxGroups) (state : Manager × List UInt8) : Prop :=
  Represents maxGroups state.1 (recency state.2)

theorem represents_init : Represents maxGroups mcastGroupInit [] := by
  refine ⟨trivial, rfl, fun id ↦ ?_, fun id hid ↦ absurd hid not_mem_nil⟩
  simp [mcastGroupInit]

/-- After any sequence of calls the table holds the groups in the order in which they were last
returned, and the next call, whatever its mask, is served by the rules. -/
theorem groups_refine_lru (requests : List Nodemask) :
    Represents maxGroups (run (serve maxGroups) (mcastGroupInit, []) requests).1
        (recency (run (serve maxGroups) (mcastGroupInit, []) requests).2) ∧
      ∀ mask, Served maxGroups (run (serve maxGroups) (mcastGroupInit, []) requests).1
        (recency (run (serve maxGroups) (mcastGroupInit, []) requests).2) mask
        (mcastGroupGetIdByNodemask maxGroups mask
          (run (serve maxGroups) (mcastGroupInit, []) requests).1).1
        (mcastGroupGetIdByNodemask maxGroups mask
          (run (serve maxGroups) (mcastGroupInit, []) requests).1).2 := by
  have hrep : Represents maxGroups (run (serve maxGroups) (mcastGroupInit, []) requests).1
      (recency (run (serve maxGroups) (mcastGroupInit, []) requests).2) := by
    have hinit : Refines maxGroups (mcastGroupInit, []) := represents_init maxGroups
    have hstep (state : Manager × List UInt8) (mask : Nodemask) (hstate : Refines maxGroups state) :
        Refines maxGroups (serve maxGroups state mask) := by
      have hserved := (getId_served hstate mask).1
      simpa only [Refines, serve, recency] using hserved
    exact run_invariant hstep hinit requests
  exact ⟨hrep, fun mask ↦ (getId_served hrep mask).2⟩

/-- The number of groups that the gateway is built with. -/
def builtGroups : MaxGroups := ⟨100, by decide, by decide⟩

/-- The group of node 1, of node 2, and again of node 1. -/
example : recency (run (serve builtGroups) (mcastGroupInit, [])
    ([1, 2, 1].map fun mask i ↦ if i.val = 0 then mask else 0)).2 = [1, 2] := by
  decide +kernel

end ZipGateway.MulticastGroups
