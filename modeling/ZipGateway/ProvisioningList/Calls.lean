import ZipGateway.ProvisioningList.Model

/-!
# The calls of the provisioning list

What the calls of `src/src/provisioning_list.c` return, the searches of the list and its iterator.
An allocation may fail here, and so may the writing of the file: what is then in the file is an
input of the run.
-/

set_option autoImplicit false

namespace ZipGateway.ProvisioningList

open ZipGateway.Lib

/-! ### The calls that change the list -/

/-- What a call returns: `PVS_SUCCESS` or not, and the slot when it returns a `struct provision
*`. -/
structure Answer where
  ok : Bool
  pvs : Option (Fin provisioningListSize)
deriving DecidableEq, Repr

/-- The answer of a call that returns a slot, which is `NULL` on an error. -/
def Answer.slot (pvs : Option (Fin provisioningListSize)) : Answer := ⟨pvs.isSome, pvs⟩

/-- The answer of a call that returns a `pvs_result_t`. -/
def Answer.result (ok : Bool) : Answer := ⟨ok, none⟩

/-- `pvs_dev_add`; `room` says whether there is memory for the DSK. -/
def pvsDevAddIn (room : Bool) (dsk : Octets) (bootmode : UInt32) (slots : Slots) : Slots × Answer :=
  match firstSlot (fun provision : Provision ↦ provision.dskLen == 0) slots with
  | none => (slots, .slot none)
  | some i =>
    if room then (pvsDevAdd dsk bootmode slots, .slot (some i))
    else (slots.modify i fun provision ↦ { provision with dsk := none }, .slot none)

/-- `provisioning_list_dev_add`. -/
def devAddIn (room : Bool) (dsk : Octets) (bootmode : UInt32) (slots : Slots) : Slots × Answer :=
  if dsk.val.length < 4 then (slots, .slot none)
  else if (devGet dsk.val slots).isSome then (slots, .slot none)
  else pvsDevAddIn room dsk bootmode slots

/-- `provisioning_list_dev_set`. -/
def devSetIn (room : Bool) (dsk : Octets) (bootmode : UInt32) (slots : Slots) : Slots × Answer :=
  if dsk.val.length < 4 then (slots, .slot none)
  else
    match devGet dsk.val slots with
    | some i => (devSet dsk bootmode slots, .slot (some i))
    | none => pvsDevAddIn room dsk bootmode slots

/-- `provisioning_list_tlv_set`; `room` says whether there is memory for the value, and `tlvRoom`
whether there is memory for another `struct pvs_tlv`. -/
def tlvSetIn (room tlvRoom : Bool) (pvs : Option (Fin provisioningListSize)) (type : UInt8)
    (value : Option Octets) (slots : Slots) : Slots × Answer :=
  match pvs, value with
  | some i, some bytes =>
    if (slots i).dskLen ≠ 0 ∧ bytes.val ≠ [] then
      if room then
        if (tlvGet type (slots i).tlvList).isSome || tlvRoom then
          (tlvSet pvs type value slots, .result true)
        else (slots, .result false)
      else (slots, .result false)
    else (slots, .result false)
  | _, _ => (slots, .result false)

/-- The result of `provisioning_list_tlv_remove`. -/
def tlvRemoveOk (pvs : Option (Fin provisioningListSize)) (type : UInt8) (slots : Slots) : Bool :=
  match pvs with
  | none => false
  | some i => (slots i).dskLen != 0 && (tlvGet type (slots i).tlvList).isSome

/-- The calls, with the outcome of their allocations. -/
inductive Call where
  | clear
  | devAdd (room : Bool) (dsk : Octets) (bootmode : UInt32)
  | devSet (room : Bool) (dsk : Octets) (bootmode : UInt32)
  | devRemove (dsk : Octets)
  | bootmodeSet (pvs : Option (Fin provisioningListSize)) (bootmode : UInt32)
  | statusSet (pvs : Option (Fin provisioningListSize)) (status : UInt32)
  | tlvSet (room tlvRoom : Bool) (pvs : Option (Fin provisioningListSize)) (type : UInt8)
      (value : Option Octets)
  | tlvRemove (pvs : Option (Fin provisioningListSize)) (type : UInt8)

/-- One call: the list after it and what it returns. -/
def perform (slots : Slots) : Call → Slots × Answer
  | .clear => (clear slots, .result true)
  | .devAdd room dsk bootmode => devAddIn room dsk bootmode slots
  | .devSet room dsk bootmode => devSetIn room dsk bootmode slots
  | .devRemove dsk => (devRemove dsk slots, .result (devGet dsk.val slots).isSome)
  | .bootmodeSet pvs bootmode => (bootmodeSet pvs bootmode slots, .result pvs.isSome)
  | .statusSet pvs status => (statusSet pvs status slots, .result pvs.isSome)
  | .tlvSet room tlvRoom pvs type value => tlvSetIn room tlvRoom pvs type value slots
  | .tlvRemove pvs type => (tlvRemove pvs type slots, .result (tlvRemoveOk pvs type slots))

/-- How `pvs_list_persist_in_file` ends: the file is written, or something is left in it. -/
inductive Persisted (platform : Platform) where
  | written (memory : Memory platform)
  | failed (file : List UInt8)

/-- The list and its file. -/
structure Store where
  slots : Slots
  file : List UInt8

/-- `pvs_list_persist_in_file`. -/
def Persisted.file {platform : Platform} (slots : Slots) : Persisted platform → List UInt8
  | .written memory => persistInFile memory slots
  | .failed file => file

/-- One call, and the file that is written when it succeeds. -/
def Store.step {platform : Platform} (store : Store) (input : Call × Persisted platform) : Store :=
  let (slots, answer) := perform store.slots input.1
  ⟨slots, if answer.ok then input.2.file slots else store.file⟩

/-! ### The searches -/

/-- `provisioning_list_get_count`. -/
def getCount (slots : Slots) : ℕ :=
  ((List.finRange provisioningListSize).filter fun i ↦ (slots i).dskLen != 0).length

def pvsBootmodeSmartStart : UInt32 := 1

def pvsBootmodeLongRangeSmartStart : UInt32 := 2

/-- The test of `provisioning_list_pending_count` for a slot. `included` says which DSKs
`rd_lookup_by_dsk` finds. -/
def isPending (included : List UInt8 → Bool) (provision : Provision) : Bool :=
  provision.dskLen != 0 && provision.status == pvsStatusPending &&
    (provision.bootmode == pvsBootmodeSmartStart ||
      provision.bootmode == pvsBootmodeLongRangeSmartStart) &&
    !included (provision.dsk.getD [])

/-- `provisioning_list_pending_count`. -/
def pendingCount (included : List UInt8 → Bool) (slots : Slots) : ℕ :=
  ((List.finRange provisioningListSize).filter fun i ↦ isPending included (slots i)).length

/-- The home id that is made of a DSK. -/
def homeidOf (dsk : List UInt8) : List UInt8 :=
  [dsk.getD 8 0 ||| 0xC0, dsk.getD 9 0, dsk.getD 10 0, dsk.getD 11 0 &&& 0xFE]

/-- A search of the slots in use whose DSK has at least some length and meets a test. -/
def devGetBy (minLen : ℕ) (test : List UInt8 → Bool) (slots : Slots) :
    Option (Fin provisioningListSize) :=
  firstSlot (fun provision : Provision ↦
    decide (minLen ≤ provision.dskLen.toNat) && provision.dsk.any test) slots

/-- `provisioning_list_dev_get_homeid`. -/
def devGetHomeid (homeid : List UInt8) (slots : Slots) : Option (Fin provisioningListSize) :=
  devGetBy 12 (fun dsk ↦ homeidOf dsk == homeid) slots

/-- `pvs_dev_get_idx`. -/
def pvsDevGetIdx (dsk : List UInt8) (startIdx : ℕ) (slots : Slots) :
    Option (Fin provisioningListSize) :=
  devGetBy (dsk.length + startIdx) (fun own ↦ (own.drop startIdx).take dsk.length == dsk) slots

/-- `provisioning_list_dev_match_challenge`. -/
def devMatchChallenge (challenge : List UInt8) (slots : Slots) :
    Option (Fin provisioningListSize) :=
  if challenge.length ≤ 2 then none
  else pvsDevGetIdx ((challenge.take 16).drop 2) 2 slots

/-- `provisioning_list_tlv_get`. -/
def provisioningListTlvGet (pvs : Option (Fin provisioningListSize)) (type : UInt8)
    (slots : Slots) : Option Tlv :=
  match pvs with
  | none => none
  | some i => if (slots i).dskLen = 0 then none else tlvGet type (slots i).tlvList

/-- `provisioning_list_tlv_dsk_get`. -/
def tlvDskGet (dsk : List UInt8) (type : UInt8) (slots : Slots) : Option Tlv :=
  match devGet dsk slots with
  | none => none
  | some i => tlvGet type (slots i).tlvList

/-! ### The iterator -/

abbrev provisioningListDskMaxSize : ℕ := 16

/-- `provisioning_list_iter_t`. -/
structure Iter where
  cnt : ℕ
  next : ℕ
  id : UInt32
  entries : List (List UInt8)
deriving DecidableEq, Repr

/-- The DSK of a slot in an iterator; a blank slot and a DSK that is too large are skipped. -/
def iterEntry (provision : Provision) : Option (List UInt8) :=
  if provision.dskLen < 4 ∨ provisioningListDskMaxSize < provision.dskLen.toNat then none
  else provision.dsk

/-- `provisioning_list_iterator_get`, when there is memory for it. -/
def iteratorGet (id : UInt32) (slots : Slots) : Iter :=
  if getCount slots = 0 then ⟨0, 0, id, []⟩
  else
    let entries := (List.finRange provisioningListSize).filterMap fun i ↦ iterEntry (slots i)
    ⟨entries.length, 0, id, entries⟩

/-- `provisioning_list_iter_get_index`. -/
def iterGetIndex (iter : Iter) (idx : ℕ) (slots : Slots) : Option (Fin provisioningListSize) :=
  if iter.cnt ≤ idx then none else (iter.entries[idx]?).bind fun dsk ↦ devGet dsk slots

/-- `provisioning_list_iter_get_next`: the slot and the iterator behind it. -/
def iterGetNext (iter : Iter) (slots : Slots) : Option (Fin provisioningListSize) × Iter :=
  if iter.cnt ≤ iter.next then (none, iter)
  else
    ((iter.entries[iter.next]?).bind fun dsk ↦ devGet dsk slots,
      { iter with next := iter.next + 1 })

end ZipGateway.ProvisioningList
