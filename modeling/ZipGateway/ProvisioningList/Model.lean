import ZipGateway.Lib.Run
import ZipGateway.Lib.SlotTable

/-!
# The provisioning list

The model of `src/src/provisioning_list.c`: the list, the calls that change it, and the file in
which it is kept.

The file has the structures as they stand in memory, pointers and padding included, each followed by
the bytes it points to. When it is read, a pointer only says whether something follows. So the model
has the layout of the structures, for both sizes of pointers, and the memory as a parameter:
`Memory` has the addresses and the padding of a list that is written, and `Uninit` has what is in
the variables and the blocks that the import reads into. The file is a list of bytes; opening,
reading and writing it and allocating memory do not fail.

In a `Provision`, `dsk` is the block that the pointer points to, and `none` when it points to no
block.
-/

set_option autoImplicit false

namespace ZipGateway.ProvisioningList

open ZipGateway.Lib

/-! ### The list -/

/-- As every target is built; the source has a larger one for a build that does not say. -/
abbrev provisioningListSize : ℕ := 232

/-- `struct pvs_tlv`; its `length` is that of the value. -/
structure Tlv where
  type : UInt8
  value : List UInt8
deriving DecidableEq, Repr

/-- `struct provision`. -/
structure Provision where
  dsk : Option (List UInt8)
  dskLen : UInt8
  status : UInt32
  bootmode : UInt32
  tlvList : List Tlv
deriving DecidableEq, Repr

/-- A slot that was never used. -/
def Provision.blank : Provision := ⟨none, 0, 0, 0, []⟩

/-- `pvs_list`. -/
abbrev Slots := Fin provisioningListSize → Provision

/-- A buffer of bytes that is passed with a length in one byte. -/
abbrev Octets := { bytes : List UInt8 // bytes.length < 256 }

def pvsStatusPending : UInt32 := 0

/-- The test of `provisioning_list_dev_get` for a slot. -/
def Provision.hasDsk (dsk : List UInt8) (provision : Provision) : Bool :=
  provision.dskLen.toNat == dsk.length && provision.dsk == some dsk

/-- `provisioning_list_dev_get`. -/
def devGet (dsk : List UInt8) (slots : Slots) : Option (Fin provisioningListSize) :=
  if dsk.length < 4 then none else firstSlot (Provision.hasDsk dsk) slots

/-- `pvs_dev_add`: the first blank slot is taken, if there is one. -/
def pvsDevAdd (dsk : Octets) (bootmode : UInt32) (slots : Slots) : Slots :=
  match firstSlot (fun provision : Provision ↦ provision.dskLen == 0) slots with
  | none => slots
  | some i =>
    Function.update slots i
      { dsk := some dsk.val
        dskLen := UInt8.ofNat dsk.val.length
        status := pvsStatusPending
        bootmode := bootmode
        tlvList := [] }

/-- One slot is changed. -/
def Slots.modify (slots : Slots) (i : Fin provisioningListSize) (change : Provision → Provision) :
    Slots :=
  Function.update slots i (change (slots i))

/-- `provisioning_list_dev_set`. -/
def devSet (dsk : Octets) (bootmode : UInt32) (slots : Slots) : Slots :=
  if dsk.val.length < 4 then slots
  else
    match devGet dsk.val slots with
    | some i => slots.modify i fun provision ↦ { provision with bootmode := bootmode }
    | none => pvsDevAdd dsk bootmode slots

/-- A slot is removed: its blocks are freed. -/
def Provision.removed (provision : Provision) : Provision :=
  { provision with dsk := none, dskLen := 0, tlvList := [] }

/-- `provisioning_list_dev_remove`. -/
def devRemove (dsk : Octets) (slots : Slots) : Slots :=
  match devGet dsk.val slots with
  | some i => slots.modify i Provision.removed
  | none => slots

/-- `provisioning_list_clear`. -/
def clear (slots : Slots) : Slots := fun i ↦
  if (slots i).dskLen = 0 then slots i else (slots i).removed

/-- `provisioning_list_bootmode_set`. -/
def bootmodeSet (pvs : Option (Fin provisioningListSize)) (bootmode : UInt32) (slots : Slots) :
    Slots :=
  match pvs with
  | none => slots
  | some i => slots.modify i fun provision ↦ { provision with bootmode := bootmode }

/-- `provisioning_list_status_set`. -/
def statusSet (pvs : Option (Fin provisioningListSize)) (status : UInt32) (slots : Slots) : Slots :=
  match pvs with
  | none => slots
  | some i => slots.modify i fun provision ↦ { provision with status := status }

/-- `pvs_tlv_get`. -/
def tlvGet (type : UInt8) (tlvs : List Tlv) : Option Tlv := tlvs.find? fun tlv ↦ tlv.type == type

/-- The first TLV of a type gets a new value. -/
def replaceTlv (new : Tlv) : List Tlv → List Tlv
  | [] => []
  | tlv :: rest => if tlv.type = new.type then new :: rest else tlv :: replaceTlv new rest

/-- `pvs_tlv_set`, with the TLV of the type that is there, or a new one at the front. -/
def pvsTlvSet (new : Tlv) (tlvs : List Tlv) : List Tlv :=
  if (tlvGet new.type tlvs).isSome then replaceTlv new tlvs else new :: tlvs

/-- `provisioning_list_tlv_set`. -/
def tlvSet (pvs : Option (Fin provisioningListSize)) (type : UInt8) (value : Option Octets)
    (slots : Slots) : Slots :=
  match pvs, value with
  | some i, some value =>
    if (slots i).dskLen ≠ 0 ∧ value.val ≠ [] then
      slots.modify i fun provision ↦
        { provision with tlvList := pvsTlvSet ⟨type, value.val⟩ provision.tlvList }
    else slots
  | _, _ => slots

/-- The first TLV of a type is taken out. -/
def removeTlv (type : UInt8) : List Tlv → List Tlv
  | [] => []
  | tlv :: rest => if tlv.type = type then rest else tlv :: removeTlv type rest

/-- `provisioning_list_tlv_remove`. -/
def tlvRemove (pvs : Option (Fin provisioningListSize)) (type : UInt8) (slots : Slots) : Slots :=
  match pvs with
  | none => slots
  | some i =>
    if (slots i).dskLen = 0 then slots
    else slots.modify i fun provision ↦
      { provision with tlvList := removeTlv type provision.tlvList }

/-! ### The layout of the structures -/

/-- The size of the pointers. -/
inductive Platform where
  | bits32
  | bits64
deriving DecidableEq, Repr

/-- The size of a pointer. -/
def Platform.pointer : Platform → ℕ
  | .bits32 => 4
  | .bits64 => 8

/-- The padding before `tlv_list` in `struct provision`. -/
def Platform.provisionGap : Platform → ℕ
  | .bits32 => 0
  | .bits64 => 4

/-- The padding before `value` in `struct pvs_tlv`. -/
def Platform.tlvGap : Platform → ℕ
  | .bits32 => 2
  | .bits64 => 6

/-- A pointer that is not null. -/
structure Pointer (platform : Platform) where
  bytes : List UInt8
  length : bytes.length = platform.pointer
  notNull : bytes.any (· ≠ 0) = true

def nullPointer (platform : Platform) : List UInt8 := List.replicate platform.pointer 0

/-- The bytes of a number of 32 bits. -/
def le32 (number : UInt32) : List UInt8 :=
  [UInt8.ofNat number.toNat, UInt8.ofNat (number.toNat / 256), UInt8.ofNat (number.toNat / 65536),
    UInt8.ofNat (number.toNat / 16777216)]

section File

variable (platform : Platform)

/-! ### Writing the file -/

/-- The memory of a list that is written: the addresses of its blocks, by slot and by the place in
the list of TLVs, and the padding. -/
structure Memory where
  dsk : ℕ → Pointer platform
  tlv : ℕ → ℕ → Pointer platform
  value : ℕ → ℕ → Pointer platform
  padding : ℕ → ℕ → UInt8
  tlvPadding : ℕ → ℕ → ℕ → UInt8

/-- `pvs_store_hdr`. -/
def pvsStoreHdr : List UInt8 := "zgwpvsstorev1.0".toList.map fun c ↦ UInt8.ofNat c.toNat

/-- `pvs_fmt`, printed for a slot. -/
def pvsFmt (ii : ℕ) : List UInt8 :=
  ("pvs entry ".toList.map fun c ↦ UInt8.ofNat c.toNat) ++
    [UInt8.ofNat (48 + ii / 100), UInt8.ofNat (48 + ii / 10 % 10), UInt8.ofNat (48 + ii % 10)]

variable {platform} in
/-- The bytes of a `struct provision`. -/
def provisionBytes (memory : Memory platform) (ii : ℕ) (provision : Provision) : List UInt8 :=
  (memory.dsk ii).bytes ++ [provision.dskLen] ++ (List.range 3).map (memory.padding ii) ++
    le32 provision.status ++ le32 provision.bootmode ++
    (List.range platform.provisionGap).map (fun k ↦ memory.padding ii (3 + k)) ++
    if provision.tlvList = [] then nullPointer platform else (memory.tlv ii 0).bytes

variable {platform} in
/-- The bytes of a `struct pvs_tlv`, at a place in the list of TLVs. -/
def tlvBytes (memory : Memory platform) (ii place : ℕ) (tlv : Tlv) (last : Bool) : List UInt8 :=
  (if last then nullPointer platform else (memory.tlv ii (place + 1)).bytes) ++
    [tlv.type, UInt8.ofNat tlv.value.length] ++
    (List.range platform.tlvGap).map (memory.tlvPadding ii place) ++ (memory.value ii place).bytes

variable {platform} in
/-- The loop of `pvs_list_dev_store` over the TLVs: the bytes, and whether it succeeds. A value of
no bytes cannot be written as one item. -/
def tlvsStore (memory : Memory platform) (ii : ℕ) : ℕ → List Tlv → List UInt8 × Bool
  | _, [] => ([], true)
  | place, tlv :: rest =>
    let bytes := tlvBytes memory ii place tlv (rest = [])
    if tlv.value = [] then (bytes, false)
    else
      let (after, ok) := tlvsStore memory ii (place + 1) rest
      (bytes ++ tlv.value ++ after, ok)

variable {platform} in
/-- `pvs_list_dev_store`, for a slot that is in use. -/
def devStore (memory : Memory platform) (ii : ℕ) (provision : Provision) : List UInt8 × Bool :=
  let (tlvs, ok) := tlvsStore memory ii 0 provision.tlvList
  (pvsFmt ii ++ provisionBytes memory ii provision ++ provision.dsk.getD [] ++ tlvs, ok)

variable {platform} in
/-- The loop of `pvs_list_persist_in_file` over the slots, which stops at the first error. -/
def storeSlots (memory : Memory platform) (slots : Slots) :
    List (Fin provisioningListSize) → List UInt8
  | [] => []
  | i :: rest =>
    if (slots i).dskLen ≠ 0 then
      let (bytes, ok) := devStore memory i (slots i)
      if ok then bytes ++ storeSlots memory slots rest else bytes
    else storeSlots memory slots rest

variable {platform} in
/-- `pvs_list_persist_in_file`: the contents of the file. -/
def persistInFile (memory : Memory platform) (slots : Slots) : List UInt8 :=
  pvsStoreHdr ++ storeSlots memory slots (List.finRange provisioningListSize)

end File

/-- The list when there is no file yet. -/
def emptySlots : Slots := fun _ ↦ Provision.blank

end ZipGateway.ProvisioningList
