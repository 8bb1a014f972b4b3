import Mathlib.Algebra.GroupWithZero.Nat
import ZipGateway.Contiki
import ZipGateway.Lib.Run

/-!
# Temporary associations

The model of `src/src/Bridge_temp_assoc.c`: a Z/IP client that sends to a Z-Wave node is given a
virtual node, under whose id the node sees it. The association of the client to the virtual node is
kept in `temp_association_table`, oldest first; as long as virtual node ids are left a new one is
allocated from the pool, and then the oldest one of the same range that is not locked for a firmware
update is taken for another client. The unsolicited destination has an association of its own
outside the table.

A pointer to an association is the number of its block in the pool, or stands for
`unsol_temp_assoc`. What `temp_assoc_create` reads from the packet in the backup buffer is its
`Request`. The ids of the virtual nodes are a parameter, all of them allocated (`VirtualNodeids`);
how they are allocated and stored is not part of the model.
-/

set_option autoImplicit false

namespace ZipGateway.TempAssoc

open Lib Contiki Function

def maxLrTempAssociations : ℕ := 4

def maxClassicTempAssociations : ℕ := 4

def maxTempAssociations : ℕ := maxLrTempAssociations + maxClassicTempAssociations

instance : NeZero maxTempAssociations := ⟨by decide⟩

/-- `is_classic_node`. -/
def isClassicNode (node : UInt16) : Bool := decide (0 < node ∧ node ≤ 232)

/-- `is_lr_node`. -/
def isLrNode (node : UInt16) : Bool := decide (256 ≤ node ∧ node ≤ 4000)

/-- `UIP_HTONS` on a little-endian machine. -/
def uipHtons (port : UInt16) : UInt16 := port <<< 8 ||| port >>> 8

/-- `lr_temp_assoc_virtual_nodeids`. -/
def lrTempAssocVirtualNodeids : List UInt16 := [4002, 4003, 4004, 4005]

/-- The ids of the virtual nodes, all of them allocated, and distinct. -/
structure VirtualNodeids where
  /-- `temp_assoc_virtual_nodeids`. -/
  nodeids : List UInt16
  full : nodeids.length = maxClassicTempAssociations
  allocated : ∀ id ∈ nodeids, id ≠ 0
  distinct : (nodeids ++ lrTempAssocVirtualNodeids).Nodup

/-- `temp_association_t`. -/
structure TempAssociation where
  virtualId : UInt16
  virtualIdStatic : UInt16
  resourceIp : BitVec 128
  resourceEndpoint : UInt8
  /-- In network byte order. -/
  resourcePort : UInt16
  wasDtls : UInt8
  isLongRange : Bool
deriving DecidableEq

/-- An association after `memset`. -/
def TempAssociation.zero : TempAssociation := ⟨0, 0, 0, 0, 0, 0, false⟩

/-- What an association is looked up by. -/
structure Client where
  ip : BitVec 128
  port : UInt16
  endpoint : UInt8
  wasDtls : UInt8
  isLongRange : Bool
deriving DecidableEq

def TempAssociation.client (a : TempAssociation) : Client :=
  ⟨a.resourceIp, a.resourcePort, a.resourceEndpoint, a.wasDtls, a.isLongRange⟩

/-- A pointer to an association. -/
inductive Pointer
  | pool (i : Fin maxTempAssociations)
  | unsolTempAssoc
deriving DecidableEq

/-- The variables of the module. -/
structure Assocs where
  pool : Fin maxTempAssociations → TempAssociation
  used : Fin maxTempAssociations → Bool
  tempAssociationTable : List (Fin maxTempAssociations)
  unsolTempAssoc : TempAssociation
  tempAssocNextNodeidIdx : ℕ
  lrTempAssocNextNodeidIdx : ℕ
  /-- `temp_assoc_fw_lock.locked_a`. -/
  lockedA : Option Pointer
  /-- `temp_assoc_fw_lock.reset_fw_timer`, with its user data. -/
  resetFwTimer : Option Pointer
  /-- A null pointer was written to. -/
  faulted : Bool

/-- The configuration of the gateway. -/
structure Config where
  unsolicitedDest : BitVec 128
  unsolicitedPort : UInt16
  singleClassicTempAssociation : Bool
  myNodeID : UInt16

/-- A packet that a temporary association is created for. -/
structure Request where
  srcipaddr : BitVec 128
  srcport : UInt16
  sEndpoint : UInt8
  /-- `nodeOfIP` of the destination address. -/
  destNode : UInt16
  wasDtls : UInt8
  /-- `is_assoc_create_in_progress`. -/
  assocCreateInProgress : Bool

/-- The client that the packet is from. -/
def Request.client (request : Request) : Client :=
  ⟨request.srcipaddr, request.srcport, request.sEndpoint, request.wasDtls,
    isLrNode request.destNode⟩

/-- The packet is from the unsolicited destination. -/
def Request.isUnsolicited (config : Config) (request : Request) : Bool :=
  config.unsolicitedDest == request.srcipaddr && config.unsolicitedPort == uipHtons request.srcport

section Create

variable (config : Config) (ids : VirtualNodeids) (request : Request)

/-- `temp_assoc_lookup_by_zip_client`. -/
def lookupByZipClient (s : Assocs) : Option Pointer × Assocs :=
  if request.isUnsolicited config then
    (some .unsolTempAssoc,
      { s with unsolTempAssoc := { s.unsolTempAssoc with
          resourceEndpoint := request.sEndpoint
          wasDtls := request.wasDtls
          resourcePort := uipHtons config.unsolicitedPort
          resourceIp := config.unsolicitedDest
          virtualId := config.myNodeID } })
  else ((s.tempAssociationTable.find? fun i ↦ (s.pool i).client == request.client).map .pool, s)

/-- `check_available_temp_assoc`. -/
def checkAvailableTempAssoc (s : Assocs) : Bool :=
  let classicTempAssociations :=
    if config.singleClassicTempAssociation then 1 else maxClassicTempAssociations
  (isLrNode request.destNode && decide (s.lrTempAssocNextNodeidIdx < maxLrTempAssociations)) ||
    (isClassicNode request.destNode && decide (s.tempAssocNextNodeidIdx < classicTempAssociations))

/-- The new association is given the next virtual node id of its range. -/
def assignVirtualId (i : Fin maxTempAssociations) (s : Assocs) : Assocs :=
  if s.lrTempAssocNextNodeidIdx < lrTempAssocVirtualNodeids.length ∧ isLrNode request.destNode then
    { s with
      pool := update s.pool i { TempAssociation.zero with
        virtualIdStatic := lrTempAssocVirtualNodeids.getD s.lrTempAssocNextNodeidIdx 0
        isLongRange := true }
      lrTempAssocNextNodeidIdx := s.lrTempAssocNextNodeidIdx + 1 }
  else if s.tempAssocNextNodeidIdx < ids.nodeids.length ∧ isClassicNode request.destNode then
    { s with
      pool := update s.pool i { TempAssociation.zero with
        virtualIdStatic := ids.nodeids.getD s.tempAssocNextNodeidIdx 0
        isLongRange := false }
      tempAssocNextNodeidIdx := s.tempAssocNextNodeidIdx + 1 }
  else { s with pool := update s.pool i TempAssociation.zero }

/-- The association may be taken for another client. -/
def isRecyclable (s : Assocs) (i : Fin maxTempAssociations) : Bool :=
  some (.pool i) != s.lockedA && (s.pool i).isLongRange == isLrNode request.destNode

/-- `temp_assoc_get_new_or_reuse_oldest`. -/
def getNewOrReuseOldest (s : Assocs) : Option (Fin maxTempAssociations) × Assocs :=
  let s := if s.tempAssociationTable = [] then { s with lockedA := none, resetFwTimer := none }
    else s
  if checkAvailableTempAssoc config request s then
    match membAlloc s.used with
    | some i => (some i, assignVirtualId ids request i { s with used := membTake s.used i })
    | none => (none, { s with faulted := true })
  else
    match s.tempAssociationTable.find? (isRecyclable request s) with
    | some i => (some i, { s with tempAssociationTable := listRemove s.tempAssociationTable i })
    | none => (none, s)

/-- `memcmp` of two associations from `virtual_id_static` on. -/
def sameFromStaticId (first second : TempAssociation) : Bool :=
  first.virtualIdStatic == second.virtualIdStatic && first.client == second.client

/-- `temp_assoc_add_to_association_table`. -/
def addToAssociationTable (i : Fin maxTempAssociations) (s : Assocs) : Assocs :=
  if s.tempAssociationTable.any fun j ↦ sameFromStaticId (s.pool i) (s.pool j) then
    { s with used := membFree s.used i }
  else { s with tempAssociationTable := listAdd s.tempAssociationTable i }

/-- `temp_assoc_setup_and_save`, after the caller has set `was_dtls`. -/
def setupAndSave (i : Fin maxTempAssociations) (s : Assocs) : Bool × Assocs :=
  let a := { s.pool i with
    wasDtls := request.wasDtls
    resourcePort := request.srcport
    resourceEndpoint := request.sEndpoint
    resourceIp := request.srcipaddr
    isLongRange := isLrNode request.destNode }
  let a := { a with
    virtualId := if request.isUnsolicited config then config.myNodeID else a.virtualIdStatic }
  let s := { s with pool := update s.pool i a }
  if a.virtualId = 0 then (false, { s with used := membFree s.used i })
  else (true, addToAssociationTable i s)

/-- `temp_assoc_create`. -/
def create (s : Assocs) : Option Pointer × Assocs :=
  if request.assocCreateInProgress then (none, s)
  else
    match lookupByZipClient config request s with
    | (some a, s) => (some a, s)
    | (none, s) =>
      match getNewOrReuseOldest config ids request s with
      | (some i, s) =>
        match setupAndSave config request i s with
        | (true, s) => (some (.pool i), s)
        | (false, s) => (none, s)
      | (none, s) => (none, s)

end Create

/-- `temp_assoc_register_fw_lock`. -/
def registerFwLock (a : Pointer) (s : Assocs) : Assocs :=
  { s with lockedA := some a, resetFwTimer := some a }

/-- `temp_assoc_fw_lock_release_on_timeout`, when the timer runs. -/
def fwLockReleaseOnTimeout (s : Assocs) : Assocs :=
  match s.resetFwTimer with
  | some _ => { s with lockedA := none, resetFwTimer := none }
  | none => s

/-- What can happen to the associations. -/
inductive Input
  | create (request : Request)
  | registerFwLock (a : Pointer)
  | fwLockTimeout

def step (config : Config) (ids : VirtualNodeids) (s : Assocs) : Input → Assocs
  | .create request => (create config ids request s).2
  | .registerFwLock a => registerFwLock a s
  | .fwLockTimeout => fwLockReleaseOnTimeout s

/-- `temp_assoc_init`. -/
def Assocs.init : Assocs where
  pool := fun _ ↦ TempAssociation.zero
  used := fun _ ↦ false
  tempAssociationTable := []
  unsolTempAssoc := TempAssociation.zero
  tempAssocNextNodeidIdx := 0
  lrTempAssocNextNodeidIdx := 0
  lockedA := none
  resetFwTimer := none
  faulted := false

end ZipGateway.TempAssoc
