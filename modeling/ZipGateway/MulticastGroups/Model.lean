import ZipGateway.Nodemask

/-!
# The multicast group manager

The manager keeps a table of multicast groups, each with the mask of its nodes, and a circular list
of the groups in use, ordered by the time of their last use and embedded in the table.
`mcast_group_get_id_by_nodemask` finds the group for a mask: a group that has this mask, or the
group that needs the fewest added nodes, or a fresh one, or the group that was not used for the
longest time.

A group id is a byte; the source stores group `id` at the index `id - 1` of its table, and the model
keys the table by the id. `MCAST_MAX_GROUPS` is a build option. The distances are 16 bit numbers as
in the source, where the loop compares an unsigned one with a signed one after both have been
promoted to `int`.
-/

set_option autoImplicit false

namespace ZipGateway.MulticastGroups

open Function ZipGateway.Nodemask

/-- `MCAST_MAX_GROUPS`: a positive number of groups whose ids fit in `mcast_groupid_t`. -/
structure MaxGroups where
  count : ℕ
  pos : 0 < count
  le : count ≤ 255

/-- `struct mcast_group`. -/
structure McastGroup where
  inUse : Bool
  prev : UInt8
  next : UInt8
  nlist : Nodemask

/-- `mcast_groups_list`, by group id, and `mcast_group_use_age_head`. -/
structure Manager where
  groups : UInt8 → McastGroup
  useAgeHead : UInt8

namespace Manager

/-- `mcast_get_entry(id).next = value`. -/
def setNext (id value : UInt8) (manager : Manager) : Manager :=
  { manager with
    groups := update manager.groups id { manager.groups id with next := value } }

/-- `mcast_get_entry(id).prev = value`. -/
def setPrev (id value : UInt8) (manager : Manager) : Manager :=
  { manager with
    groups := update manager.groups id { manager.groups id with prev := value } }

/-- `nodemask_copy(mcast_get_entry(id).nlist, mask)`. -/
def setNlist (id : UInt8) (mask : Nodemask) (manager : Manager) : Manager :=
  { manager with
    groups := update manager.groups id { manager.groups id with nlist := mask } }

/-- `mcast_get_entry(id).in_use = 1`. -/
def setInUse (id : UInt8) (manager : Manager) : Manager :=
  { manager with
    groups := update manager.groups id { manager.groups id with inUse := true } }

/-- `mcast_group_use_age_head = id`. -/
def setHead (id : UInt8) (manager : Manager) : Manager :=
  { manager with useAgeHead := id }

end Manager

/-! ### The list of use age -/

/-- `mcast_group_use_age_get_oldest`. -/
def mcastGroupUseAgeGetOldest (manager : Manager) : UInt8 :=
  (manager.groups manager.useAgeHead).prev

/-- `mcast_group_use_age_element_remove`. -/
def mcastGroupUseAgeElementRemove (groupId : UInt8) (manager : Manager) : Manager :=
  let next := (manager.groups groupId).next
  let prev := (manager.groups groupId).prev
  (manager.setNext prev next).setPrev next prev

/-- `mcast_group_use_age_element_insert_head`. -/
def mcastGroupUseAgeElementInsertHead (groupId : UInt8) (manager : Manager) : Manager :=
  let head := manager.useAgeHead
  let tail := (manager.groups head).prev
  ((((manager.setNext groupId head).setPrev groupId tail).setPrev head groupId).setNext
    tail groupId).setHead groupId

/-- `mcast_group_use_age_element_insert_new`. -/
def mcastGroupUseAgeElementInsertNew (groupId : UInt8) (manager : Manager) : Manager :=
  if manager.useAgeHead = 0 then
    ((manager.setPrev groupId groupId).setNext groupId groupId).setHead groupId
  else mcastGroupUseAgeElementInsertHead groupId manager

/-- `mcast_group_use_age_update`. Its assertion is that the list is not empty. -/
def mcastGroupUseAgeUpdate (groupId : UInt8) (manager : Manager) : Manager :=
  if groupId = manager.useAgeHead then manager
  else mcastGroupUseAgeElementInsertHead groupId (mcastGroupUseAgeElementRemove groupId manager)

/-! ### The distance of two masks -/

def mcastDistInf : UInt16 := 0xFFFF

/-- The loop that counts the bits of a byte by taking away the lowest one. -/
def countBits (tmp : UInt8) (dist : UInt16) : UInt16 :=
  if 0 < tmp then countBits (tmp &&& (tmp - 1)) (dist + 1) else dist
termination_by tmp.toNat
decreasing_by
  next hpos =>
    have hone : 0 < tmp.toNat := UInt8.lt_iff_toNat_lt.mp hpos
    have hle : (1 : UInt8) ≤ tmp := UInt8.le_iff_toNat_le.mpr hone
    rw [UInt8.toNat_and]
    refine lt_of_le_of_lt Nat.and_le_right ?_
    rw [UInt8.toNat_sub_of_le _ _ hle]
    exact Nat.sub_lt hone one_pos

/-- `mcast_byte_distance`. -/
def mcastByteDistance (old new : UInt8) : UInt16 :=
  if old = new then 0
  else if old &&& ~~~new ≠ 0 then mcastDistInf
  else countBits (old ^^^ new) 0

/-- The loop of `mcast_nodemask_distance` over the bytes that are left. -/
def nodemaskDistanceFrom (oldGroup newGroup : Nodemask) :
    List (Fin nodemaskSize) → UInt16 → UInt16
  | [], dist => dist
  | ii :: rest, dist =>
    if mcastByteDistance (oldGroup ii) (newGroup ii) = mcastDistInf then mcastDistInf
    else nodemaskDistanceFrom oldGroup newGroup rest
      (dist + mcastByteDistance (oldGroup ii) (newGroup ii))

/-- `mcast_nodemask_distance`. -/
def mcastNodemaskDistance (oldGroup newGroup : Nodemask) : UInt16 :=
  nodemaskDistanceFrom oldGroup newGroup (List.finRange nodemaskSize) 0

/-! ### The choice of a group -/

/-- The variables of the loop over the groups. -/
structure Scan where
  candidate : UInt8
  firstUnused : UInt8
  lowestDist : Int16

/-- One turn of the loop. -/
def scanGroup (manager : Manager) (mask : Nodemask) (scan : Scan) (ii : ℕ) : Scan :=
  let id := UInt8.ofNat (ii + 1)
  if (manager.groups id).inUse then
    let tmp := mcastNodemaskDistance (manager.groups id).nlist mask
    if (tmp.toNat : ℤ) < scan.lowestDist.toInt then
      { scan with lowestDist := tmp.toInt16, candidate := id }
    else scan
  else if scan.firstUnused = 0 then { scan with firstUnused := id }
  else scan

/-- The loop over all groups. -/
def scanGroups (maxGroups : MaxGroups) (manager : Manager) (mask : Nodemask) : Scan :=
  (List.range maxGroups.count).foldl (scanGroup manager mask)
    { candidate := 0, firstUnused := 0, lowestDist := 0xFF }

/-- `mcast_group_get_id_by_nodemask`: the id and the manager afterwards. -/
def mcastGroupGetIdByNodemask (maxGroups : MaxGroups) (mask : Nodemask) (manager : Manager) :
    UInt8 × Manager :=
  if mask = empty then (0, manager)
  else
    let scan := scanGroups maxGroups manager mask
    if scan.candidate ≠ 0 then
      -- A group is used again, after it has got the nodes it lacks.
      let expanded :=
        if scan.lowestDist ≠ 0 then manager.setNlist scan.candidate mask else manager
      (scan.candidate, mcastGroupUseAgeUpdate scan.candidate expanded)
    else if scan.firstUnused = 0 then
      -- The oldest group id is recycled.
      let oldest := mcastGroupUseAgeGetOldest manager
      (oldest, (mcastGroupUseAgeUpdate oldest manager).setNlist oldest mask)
    else
      let used := manager.setInUse scan.firstUnused
      (scan.firstUnused,
        (mcastGroupUseAgeElementInsertNew scan.firstUnused used).setNlist scan.firstUnused mask)

/-- `mcast_group_get_nodemask_by_id`: the mask of a group in use. -/
def mcastGroupGetNodemaskById (maxGroups : MaxGroups) (manager : Manager) (groupId : UInt8) :
    Option Nodemask :=
  if groupId = 0 ∨ maxGroups.count < groupId.toNat then none
  else if (manager.groups groupId).inUse then some (manager.groups groupId).nlist
  else none

/-- `mcast_group_init`. -/
def mcastGroupInit : Manager where
  groups := fun _ ↦ { inUse := false, prev := 0, next := 0, nlist := empty }
  useAgeHead := 0

end ZipGateway.MulticastGroups
