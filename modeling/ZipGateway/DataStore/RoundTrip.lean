import ZipGateway.DataStore.Model

/-!
# What is written is read

A node and the associations are read as they were written, and a node is written without an effect
on the others (`stored_write`). A list of virtual nodes is read as it was written when no node is on
it twice: their number is the key of their table.

The number of peers is not written. It is the number of rows in the table `peer`, and what should
clear that table deletes from a table `peers` that does not exist: a configuration without peers is
read with the peers that were there before. The profile of a peer is read with a zero behind its
name, for which there is no room when the name has 63 bytes or more
(`unpersistPeerProfile_of_select`).
-/

set_option autoImplicit false

namespace ZipGateway.DataStore

open Function List ZipGateway.Lib.RowTable
open ZipGateway.IpAssoc (IpAssociation IpAssocType Ip6Addr maxIpAssociations)
open ZipGateway.ResourceDirectory (NodeState EpState)

/-! ### Columns -/

section Columns

variable {columns idx : ℕ} {binds : List (ℕ × Value)}

theorem columnInt_bindRow (hidx : idx < columns) {v : UInt32}
    (hbound : binds.lookup (idx + 1) = some (.int v.toInt32)) :
    columnInt (bindRow columns binds) idx = v := by
  unfold columnInt
  rw [int_bindRow hidx hbound]
  rfl

theorem columnInt_bindRow_uint16 (hidx : idx < columns) {v : UInt16}
    (hbound : binds.lookup (idx + 1) = some (.int v.toUInt32.toInt32)) :
    (columnInt (bindRow columns binds) idx).toUInt16 = v := by
  rw [columnInt_bindRow hidx hbound]
  exact UInt16.toUInt16_toUInt32 v

theorem columnInt_bindRow_uint8 (hidx : idx < columns) {v : UInt8}
    (hbound : binds.lookup (idx + 1) = some (.int v.toUInt32.toInt32)) :
    (columnInt (bindRow columns binds) idx).toUInt8 = v := by
  rw [columnInt_bindRow hidx hbound]
  exact UInt8.toUInt8_toUInt32 v

theorem readBlock_bindRow (hidx : idx < columns) {block : Block}
    (hbound : binds.lookup (idx + 1) = some (.blob block.val)) :
    readBlock (bindRow columns binds) idx = block := by
  refine Subtype.ext ?_
  unfold readBlock
  dsimp only
  rw [bytes_bindRow_blob hidx hbound, Nat.mod_eq_of_lt block.property, take_length]

theorem nodeState_ofNumber (state : NodeState) :
    ofNumber nodeStates .created (numberOf nodeStates state) = state := by
  cases state <;> rfl

theorem epState_ofNumber (state : EpState) :
    ofNumber epStates .probeAggregatedEndpoints (numberOf epStates state) = state := by
  cases state <;> rfl

theorem ipAssocType_ofNumber (type : IpAssocType) :
    ofNumber ipAssocTypes .unset (numberOf ipAssocTypes type) = type := by
  cases type <;> rfl

theorem length_bytesOf (count number : ℕ) : (bytesOf count number).length = count := by
  induction count generalizing number with
  | zero => rfl
  | succ count ih => rw [bytesOf, length_append, ih, length_singleton]

theorem valueOf_bytesOf (count number : ℕ) :
    valueOf (bytesOf count number) = number % 256 ^ count := by
  induction count generalizing number with
  | zero =>
    rw [pow_zero, Nat.mod_one]
    rfl
  | succ count ih =>
    have hlast : (UInt8.ofNat number).toNat = number % 256 := UInt8.toNat_ofNat'
    have hfold : valueOf (bytesOf count (number / 256) ++ [UInt8.ofNat number]) =
        valueOf (bytesOf count (number / 256)) * 256 + (UInt8.ofNat number).toNat := by
      unfold valueOf
      rw [foldl_append]
      rfl
    rw [bytesOf, hfold, ih, hlast, pow_succ, Nat.mul_comm (256 ^ count), Nat.mod_mul, Nat.mul_comm,
      Nat.add_comm]

theorem copyAddr_addrBytes (addr stale : Ip6Addr) : copyAddr (addrBytes addr) stale = addr := by
  unfold copyAddr addrBytes
  rw [if_pos (length_bytesOf 16 addr.toNat), valueOf_bytesOf]
  refine BitVec.eq_of_toNat_eq ?_
  rw [BitVec.toNat_ofNat]
  have hlt : addr.toNat < 256 ^ 16 := addr.isLt
  rw [Nat.mod_eq_of_lt hlt, Nat.mod_eq_of_lt addr.isLt]

end Columns

/-! ### Nodes -/

section Nodes

theorem readEndpoint_endpointRow (nodeid : UInt16) (e : EndpointEntry) :
    readEndpoint (endpointRow nodeid e) = e := by
  unfold readEndpoint endpointRow
  cases e with
  | mk endpointId installerIconID userIconID state name location agg info =>
    rw [EndpointEntry.mk.injEq]
    refine ⟨columnInt_bindRow_uint8 (by decide) rfl, columnInt_bindRow_uint16 (by decide) rfl,
      columnInt_bindRow_uint16 (by decide) rfl, ?_, readBlock_bindRow (by decide) rfl,
      readBlock_bindRow (by decide) rfl, readBlock_bindRow (by decide) rfl, readBlock_bindRow
        (by decide) rfl⟩
    rw [columnInt_bindRow (v := numberOf epStates state) (by decide) rfl]
    exact epState_ofNumber state

theorem readNode_nodeRow (n : NodeEntry) {eps : Table} (heps : eps.map readEndpoint = n.endpoints) :
    readNode (nodeRow n) eps = { n with refCnt := 0, pcvs := none } := by
  unfold readNode nodeRow
  rw [NodeEntry.mk.injEq]
  refine ⟨columnInt_bindRow (by decide) rfl, columnInt_bindRow (by decide) rfl,
    columnInt_bindRow (by decide) rfl,
    columnInt_bindRow_uint16 (by decide) rfl, columnInt_bindRow_uint8 (by decide) rfl,
    columnInt_bindRow (by decide) rfl, ?_, columnInt_bindRow_uint16 (by decide) rfl,
    columnInt_bindRow_uint16 (by decide) rfl, columnInt_bindRow_uint16 (by decide) rfl,
    columnInt_bindRow_uint8 (by decide) rfl, rfl, ?_, columnInt_bindRow_uint8 (by decide) rfl, heps,
    readBlock_bindRow (by decide) rfl, readBlock_bindRow (by decide) rfl,
    columnInt_bindRow_uint8 (by decide) rfl, columnInt_bindRow_uint16 (by decide) rfl,
    columnInt_bindRow_uint16 (by decide) rfl, readBlock_bindRow (by decide) rfl,
    columnInt_bindRow_uint8 (by decide) rfl, rfl⟩
  · rw [columnInt_bindRow (v := numberOf nodeStates n.state) (by decide) rfl]
    exact nodeState_ofNumber n.state
  · rw [heps, n.counted]

/-- The key of a node in the tables. -/
def keyOf (nodeid : UInt16) : Int32 := nodeid.toUInt32.toInt32

theorem keyOf_injective {first second : UInt16} (h : keyOf first = keyOf second) :
    first = second := by
  have hback := congrArg (fun key : Int32 ↦ key.toUInt32.toUInt16) h
  change first.toUInt32.toUInt16 = second.toUInt32.toUInt16 at hback
  rwa [UInt16.toUInt16_toUInt32, UInt16.toUInt16_toUInt32] at hback

theorem hasKey_nodeRow (n : NodeEntry) :
    Row.hasKey NodeCol.nodeid.ctorIdx (keyOf n.nodeid) (nodeRow n) = true := by
  unfold nodeRow
  rw [hasKey_bindRow (by decide) rfl]
  exact decide_eq_true rfl

theorem hasKey_endpointRow (nodeid : UInt16) (e : EndpointEntry) :
    Row.hasKey EpCol.nodeid.ctorIdx (keyOf nodeid) (endpointRow nodeid e) = true := by
  unfold endpointRow
  rw [hasKey_bindRow (by decide) rfl]
  exact decide_eq_true rfl

/-- What the data store keeps of a node: not the fields of the running gateway. -/
def NodeEntry.persisted (n : NodeEntry) : NodeEntry := { n with refCnt := 0, pcvs := none }

variable {db : Db}

/-- The tables after a node has been written. -/
theorem rdDataStoreNvmWrite_eq (n : NodeEntry) (db : Db) :
    rdDataStoreNvmWrite n db = { db with
      nodes := deleteWhere NodeCol.nodeid.ctorIdx (keyOf n.nodeid) db.nodes ++ [nodeRow n]
      endpoints := deleteWhere EpCol.nodeid.ctorIdx (keyOf n.nodeid) db.endpoints ++
        n.endpoints.map (endpointRow n.nodeid) } := by
  unfold rdDataStoreNvmWrite rdDataStoreNvmFree
  dsimp only
  change ({ db with
    nodes := (insertKeyed NodeCol.nodeid.ctorIdx (nodeRow n)
      (deleteWhere NodeCol.nodeid.ctorIdx (keyOf n.nodeid) db.nodes)).getD _
    endpoints := _ } : Db) = _
  rw [insertKeyed_deleteWhere (hasKey_nodeRow n)]
  rfl

/-- A node is read as it was written. -/
theorem read_write_self (n : NodeEntry) (db : Db) :
    rdDataStoreRead n.nodeid (rdDataStoreNvmWrite n db) =
      some (n.persisted, nodeCopies (nodeRow n) (n.endpoints.map (endpointRow n.nodeid))) := by
  have hnodes : select NodeCol.nodeid.ctorIdx (keyOf n.nodeid)
      (deleteWhere NodeCol.nodeid.ctorIdx (keyOf n.nodeid) db.nodes ++ [nodeRow n]) =
        [nodeRow n] := by
    rw [select_append, select_deleteWhere_self, nil_append, select_of_forall]
    intro row hrow
    rw [mem_singleton.mp hrow]
    exact hasKey_nodeRow n
  have hendpoints : select EpCol.nodeid.ctorIdx (keyOf n.nodeid)
      (deleteWhere EpCol.nodeid.ctorIdx (keyOf n.nodeid) db.endpoints ++
        n.endpoints.map (endpointRow n.nodeid)) = n.endpoints.map (endpointRow n.nodeid) := by
    rw [select_append, select_deleteWhere_self, nil_append, select_of_forall]
    intro row hrow
    obtain ⟨e, -, rfl⟩ := mem_map.mp hrow
    exact hasKey_endpointRow n.nodeid e
  have hread : (n.endpoints.map (endpointRow n.nodeid)).map readEndpoint = n.endpoints := by
    rw [map_map]
    exact map_id'' (fun e ↦ readEndpoint_endpointRow n.nodeid e) n.endpoints
  rw [rdDataStoreNvmWrite_eq]
  unfold rdDataStoreRead
  dsimp only
  change ((select NodeCol.nodeid.ctorIdx (keyOf n.nodeid) _).head?.map fun row ↦
    (readNode row (select EpCol.nodeid.ctorIdx (keyOf n.nodeid) _),
      nodeCopies row (select EpCol.nodeid.ctorIdx (keyOf n.nodeid) _))) = _
  rw [hnodes, hendpoints, List.head?_cons, Option.map_some, readNode_nodeRow n hread]
  rfl

/-- The reads of other nodes see neither what is deleted nor what is put in. -/
theorem read_congr {nodeid : UInt16} {first second : Db}
    (hnodes : select NodeCol.nodeid.ctorIdx (keyOf nodeid) first.nodes =
      select NodeCol.nodeid.ctorIdx (keyOf nodeid) second.nodes)
    (hendpoints : select EpCol.nodeid.ctorIdx (keyOf nodeid) first.endpoints =
      select EpCol.nodeid.ctorIdx (keyOf nodeid) second.endpoints) :
    rdDataStoreRead nodeid first = rdDataStoreRead nodeid second := by
  unfold rdDataStoreRead
  dsimp only
  change ((select NodeCol.nodeid.ctorIdx (keyOf nodeid) first.nodes).head?.map fun row ↦
    (readNode row (select EpCol.nodeid.ctorIdx (keyOf nodeid) first.endpoints),
      nodeCopies row (select EpCol.nodeid.ctorIdx (keyOf nodeid) first.endpoints))) = _
  rw [hnodes, hendpoints]
  rfl

theorem read_write_of_ne {nodeid : UInt16} (n : NodeEntry) (hne : nodeid ≠ n.nodeid) (db : Db) :
    rdDataStoreRead nodeid (rdDataStoreNvmWrite n db) = rdDataStoreRead nodeid db := by
  have hkey : keyOf n.nodeid ≠ keyOf nodeid := fun h ↦ hne (keyOf_injective h).symm
  have hnodes : select NodeCol.nodeid.ctorIdx (keyOf nodeid) [nodeRow n] = [] := by
    refine select_of_forall_not ?_
    intro row hrow
    rw [mem_singleton.mp hrow]
    exact hasKey_of_ne (hasKey_nodeRow n) hkey
  have hendpoints :
      select EpCol.nodeid.ctorIdx (keyOf nodeid) (n.endpoints.map (endpointRow n.nodeid)) = [] := by
    refine select_of_forall_not ?_
    intro row hrow
    obtain ⟨e, -, rfl⟩ := mem_map.mp hrow
    exact hasKey_of_ne (hasKey_endpointRow n.nodeid e) hkey
  rw [rdDataStoreNvmWrite_eq]
  refine read_congr ?_ ?_
  · rw [select_append, select_deleteWhere_of_ne hkey, hnodes, append_nil]
  · rw [select_append, select_deleteWhere_of_ne hkey, hendpoints, append_nil]

/-- What a read allocates is large enough for what it copies there. -/
theorem copies_fit {nodeid : UInt16} {n : NodeEntry} {copies : List Copy}
    (hread : rdDataStoreRead nodeid db = some (n, copies)) {copy : Copy} (hcopy : copy ∈ copies) :
    copy.copied ≤ copy.allocated := by
  have hblock : ∀ row idx, (blockCopy row idx).copied ≤ (blockCopy row idx).allocated := by
    intro row idx
    unfold blockCopy rdDataMemAlloc
    dsimp only
    rw [Nat.mod_mod]
  have hentry : ∀ size < 256, (entryCopy size).copied ≤ (entryCopy size).allocated := by
    intro size hsize
    unfold entryCopy rdDataMemAlloc
    rw [Nat.mod_eq_of_lt hsize]
  obtain ⟨row, -, heq⟩ := Option.map_eq_some_iff.mp hread
  rw [← (Prod.mk.inj heq).2] at hcopy
  rcases mem_append.mp hcopy with hcopy | hcopy
  · simp only [mem_cons, not_mem_nil, or_false] at hcopy
    rcases hcopy with rfl | rfl | rfl | rfl
    · exact hentry _ (by decide)
    · exact hblock _ _
    · exact hblock _ _
    · exact hblock _ _
  · obtain ⟨ep, -, hcopy⟩ := mem_flatMap.mp hcopy
    simp only [endpointCopies, mem_cons, not_mem_nil, or_false] at hcopy
    rcases hcopy with rfl | rfl | rfl | rfl | rfl
    · exact hentry _ (by decide)
    · exact hblock _ _
    · exact hblock _ _
    · exact hblock _ _
    · exact hblock _ _

/-- The node database that the tables hold. -/
def stored (db : Db) (nodeid : UInt16) :
    Option NodeEntry := (rdDataStoreRead nodeid db).map Prod.fst

/-- To write a node is to update one entry. -/
theorem stored_write (n : NodeEntry) (db : Db) :
    stored (rdDataStoreNvmWrite n db) = update (stored db) n.nodeid (some n.persisted) := by
  funext nodeid
  unfold stored
  by_cases heq : nodeid = n.nodeid
  · rw [heq, read_write_self, update_self]
    rfl
  · rw [read_write_of_ne n heq, update_of_ne heq]

end Nodes

/-! ### Associations and virtual nodes -/

section Lists

theorem readIpAssociation_ipAssociationRow (stale : Ip6Addr) (a : IpAssociation) :
    readIpAssociation stale (ipAssociationRow a) = a := by
  unfold readIpAssociation ipAssociationRow
  cases a with
  | mk virtualId type resourceIp resourceEndpoint resourcePort virtualEndpoint grouping hanNodeid
      hanEndpoint wasDtls markRemoval =>
    rw [IpAssociation.mk.injEq]
    refine ⟨columnInt_bindRow_uint16 (by decide) rfl, ?_, ?_,
      columnInt_bindRow_uint8 (by decide) rfl,
      columnInt_bindRow_uint16 (by decide) rfl, columnInt_bindRow_uint8 (by decide) rfl,
      columnInt_bindRow_uint8 (by decide) rfl, columnInt_bindRow_uint16 (by decide) rfl,
      columnInt_bindRow_uint8 (by decide) rfl, columnInt_bindRow_uint8 (by decide) rfl,
      columnInt_bindRow_uint8 (by decide) rfl⟩
    · rw [columnInt_bindRow (v := numberOf ipAssocTypes type) (by decide) rfl]
      exact ipAssocType_ofNumber type
    · rw [bytes_bindRow_blob (by decide) rfl]
      exact copyAddr_addrBytes resourceIp stale

/-- The associations are read as they were written, where the pool has a block for each. -/
theorem unpersistAssociation_persist (stale : Ip6Addr) {table : List IpAssociation}
    (hlength : table.length ≤ maxIpAssociations) (db : Db) :
    rdDatastoreUnpersistAssociation stale (rdDataStorePersistAssociations table db) = table := by
  unfold rdDatastoreUnpersistAssociation rdDataStorePersistAssociations
  rw [deleteFrom_ipAssociation]
  dsimp only
  rw [nil_append, take_of_length_le (by rwa [length_map]), map_map]
  exact map_id'' (fun a ↦ readIpAssociation_ipAssociationRow stale a) table

def virtualNodeRow (nodeid : UInt16) : Row :=
  bindRow 1 [bindExInt VnCol.virtualId.ctorIdx nodeid.toUInt32]

theorem columnInt_virtualNodeRow (nodeid : UInt16) :
    (columnInt (virtualNodeRow nodeid) VnCol.virtualId.ctorIdx).toUInt16 = nodeid :=
  columnInt_bindRow_uint16 (by decide) rfl

theorem virtualNodeRow_injective {first second : UInt16}
    (h : virtualNodeRow first = virtualNodeRow second) : first = second := by
  rw [← columnInt_virtualNodeRow first, h, columnInt_virtualNodeRow]

/-- The rows of virtual nodes differ in their key. -/
theorem insertKeyed_virtualNodeRow (nodeid : UInt16) (nodelist : List UInt16) :
    insertKeyed VnCol.virtualId.ctorIdx (virtualNodeRow nodeid) (nodelist.map virtualNodeRow) =
      if nodeid ∈ nodelist then none else some ((nodelist ++ [nodeid]).map virtualNodeRow) := by
  have hsame : ((nodelist.map virtualNodeRow).any fun other ↦
      other[VnCol.virtualId.ctorIdx]? = (virtualNodeRow nodeid)[VnCol.virtualId.ctorIdx]?) = true ↔
        nodeid ∈ nodelist := by
    rw [any_map, any_eq_true]
    constructor
    · rintro ⟨other, hmem, heq⟩
      have hcolumn : virtualNodeRow other = virtualNodeRow nodeid :=
        congrArg (fun value : Option Value ↦ [value.getD .null]) (of_decide_eq_true heq)
      exact virtualNodeRow_injective hcolumn ▸ hmem
    · exact fun hmem ↦ ⟨nodeid, hmem, decide_eq_true rfl⟩
  unfold insertKeyed
  by_cases hmem : nodeid ∈ nodelist
  · rw [if_pos (hsame.mpr hmem), if_pos hmem]
  · rw [if_neg (fun h ↦ hmem (hsame.mp h)), if_neg hmem, map_append]
    rfl

theorem insertVirtualNodes_cons (nodeid : UInt16) (rest before : List UInt16) :
    insertVirtualNodes (nodeid :: rest) (before.map virtualNodeRow) =
      if nodeid ∈ before then before.map virtualNodeRow
      else insertVirtualNodes rest ((before ++ [nodeid]).map virtualNodeRow) := by
  have hinsert := insertKeyed_virtualNodeRow nodeid before
  unfold virtualNodeRow at hinsert ⊢
  rw [insertVirtualNodes, hinsert]
  split_ifs
  · rfl
  · rfl

/-- All virtual nodes are put in exactly when none is there already and none is put in twice. -/
theorem insertVirtualNodes_eq_iff (nodelist before : List UInt16) (hbefore : before.Nodup) :
    insertVirtualNodes nodelist (before.map virtualNodeRow) =
      (before ++ nodelist).map virtualNodeRow ↔ (before ++ nodelist).Nodup := by
  induction nodelist generalizing before with
  | nil =>
    rw [append_nil]
    exact iff_of_true rfl hbefore
  | cons nodeid rest ih =>
    have hassoc : before ++ nodeid :: rest = before ++ [nodeid] ++ rest := by
      rw [append_assoc, singleton_append]
    rw [insertVirtualNodes_cons]
    by_cases hmem : nodeid ∈ before
    · rw [if_pos hmem]
      refine iff_of_false ?_ ?_
      · intro heq
        have hlength := congrArg List.length heq
        rw [length_map, length_map, length_append, length_cons] at hlength
        omega
      · intro hnodup
        exact (nodup_append.mp hnodup).2.2 nodeid hmem nodeid mem_cons_self rfl
    · rw [if_neg hmem, hassoc]
      refine ih (before ++ [nodeid]) (nodup_append.mpr ⟨hbefore, nodup_singleton _, ?_⟩)
      rintro other hother _ hsingle rfl
      exact hmem (mem_singleton.mp hsingle ▸ hother)

/-- The virtual nodes that are put in are the first of the list. -/
theorem exists_insertVirtualNodes (nodelist before : List UInt16) :
    ∃ put, put <+: nodelist ∧
      insertVirtualNodes nodelist
        (before.map virtualNodeRow) = (before ++ put).map virtualNodeRow := by
  induction nodelist generalizing before with
  | nil => exact ⟨[], prefix_refl _, by rw [append_nil]; rfl⟩
  | cons nodeid rest ih =>
    rw [insertVirtualNodes_cons]
    by_cases hmem : nodeid ∈ before
    · rw [if_pos hmem]
      exact ⟨[], nil_prefix, by rw [append_nil]⟩
    · rw [if_neg hmem]
      obtain ⟨put, hput, heq⟩ := ih (before ++ [nodeid])
      refine ⟨nodeid :: put, (prefix_cons_inj nodeid).mpr hput, ?_⟩
      rw [append_assoc, singleton_append] at heq
      exact heq

/-- The virtual nodes are read as they were written exactly when none is on the list twice. -/
theorem unpersistVirtualNodes_persist_iff {nodelist : List UInt16}
    (hlength : nodelist.length ≤ maxClassicTempAssociations) (db : Db) :
    rdDatastoreUnpersistVirtualNodes maxClassicTempAssociations
      (rdDatastorePersistVirtualNodes nodelist db) = nodelist ↔ nodelist.Nodup := by
  obtain ⟨put, hput, heq⟩ := exists_insertVirtualNodes nodelist []
  rw [map_nil, nil_append] at heq
  have hiff := insertVirtualNodes_eq_iff nodelist [] nodup_nil
  rw [map_nil, nil_append, heq] at hiff
  have hread : (put.map virtualNodeRow).map
      (fun row ↦ (columnInt row VnCol.virtualId.ctorIdx).toUInt16) = put := by
    rw [map_map]
    exact map_id'' columnInt_virtualNodeRow put
  unfold rdDatastoreUnpersistVirtualNodes rdDatastorePersistVirtualNodes
  rw [deleteFrom_virtualNodes]
  dsimp only
  rw [heq, take_of_length_le (by rw [length_map]; exact hput.length_le.trans hlength),
    hread, ← hiff]
  exact ⟨fun h ↦ by rw [h], fun h ↦ map_injective_iff.mpr (fun _ _ ↦ virtualNodeRow_injective) h⟩

end Lists

/-! ### The gateway configuration -/

section Gateway

variable {db : Db} {cfg : GwConfig} {profiles : List PeerProfile} {behind : ℕ → UInt8}

theorem toNat_port (port1 port2 : UInt8) :
    (port2.toUInt32 <<< 8 ||| port1.toUInt32).toNat = port2.toNat * 256 + port1.toNat := by
  have hport2 : port2.toNat < 2 ^ 8 := port2.toNat_lt
  rw [UInt32.toNat_or, UInt32.toNat_shiftLeft, UInt8.toNat_toUInt32, UInt8.toNat_toUInt32]
  change port2.toNat <<< 8 % 2 ^ 32 ||| port1.toNat = _
  rw [Nat.mod_eq_of_lt (by rw [Nat.shiftLeft_eq]; omega),
    ← Nat.shiftLeft_add_eq_or_of_lt port1.toNat_lt, Nat.shiftLeft_eq]

theorem port1_of_port (port1 port2 : UInt8) :
    ((port2.toUInt32 <<< 8 ||| port1.toUInt32) &&& 0xff).toUInt8 = port1 := by
  have hport1 : port1.toNat < 2 ^ 8 := port1.toNat_lt
  refine UInt8.toNat_inj.mp ?_
  rw [UInt32.toNat_toUInt8, UInt32.toNat_and, toNat_port]
  change ((port2.toNat * 256 + port1.toNat) &&& (2 ^ 8 - 1)) % 2 ^ 8 = _
  rw [Nat.and_two_pow_sub_one_eq_mod]
  omega

theorem port2_of_port (port1 port2 : UInt8) :
    ((port2.toUInt32 <<< 8 ||| port1.toUInt32) >>> 8 &&& 0xff).toUInt8 = port2 := by
  have hport1 : port1.toNat < 2 ^ 8 := port1.toNat_lt
  have hport2 : port2.toNat < 2 ^ 8 := port2.toNat_lt
  refine UInt8.toNat_inj.mp ?_
  rw [UInt32.toNat_toUInt8, UInt32.toNat_and, UInt32.toNat_shiftRight, toNat_port]
  change (((port2.toNat * 256 + port1.toNat) >>> 8) &&& (2 ^ 8 - 1)) % 2 ^ 8 = _
  rw [Nat.and_two_pow_sub_one_eq_mod, Nat.shiftRight_eq_div_pow]
  omega

def peerKey (index : ℕ) : Int32 := (UInt32.ofNat index).toInt32

theorem peerKey_injective {first second : ℕ} (hfirst : first < 2 ^ 32) (hsecond : second < 2 ^ 32)
    (h : peerKey first = peerKey second) : first = second := by
  have hback := congrArg (fun key : Int32 ↦ key.toUInt32.toNat) h
  change (UInt32.ofNat first).toNat = (UInt32.ofNat second).toNat at hback
  rwa [UInt32.toNat_ofNat', UInt32.toNat_ofNat', Nat.mod_eq_of_lt hfirst,
    Nat.mod_eq_of_lt hsecond] at hback

theorem hasKey_peerRow (index : ℕ) (profile : PeerProfile) (key : Int32) :
    Row.hasKey PeerCol.id.ctorIdx key (peerRow behind (UInt32.ofNat index) profile) = decide
      (peerKey index = key) :=
  hasKey_bindRow (by decide) rfl key

/-- A profile that is read has what was in the one that was written: its address, its ports and its
name. Nothing is stored behind it. -/
structure ProfileRead.Same (read : ProfileRead) (written : PeerProfile) : Prop where
  addr : read.profile.peerIpv6Addr = written.peerIpv6Addr
  port1 : read.profile.port1 = written.port1
  port2 : read.profile.port2 = written.port2
  length : read.profile.peerNameLength = written.peerNameLength
  name : ∀ behind, read.profile.name behind = written.name behind
  inside : read.overrun = []

theorem length_name (profile : PeerProfile) (behind : ℕ → UInt8) :
    (profile.name behind).length = profile.peerNameLength.toNat := by
  have hlt : profile.peerNameLength.toNat < 256 := profile.peerNameLength.toNat_lt
  unfold PeerProfile.name
  rw [length_take, length_append, length_map, length_range]
  omega

/-- A name that ends in the array is there, whatever is behind the profile. -/
theorem name_eq_take {profile : PeerProfile}
    (hshort : profile.peerNameLength.toNat ≤ sizeofPeerName) (behind : ℕ → UInt8) :
    profile.name behind = profile.peerName.take profile.peerNameLength.toNat :=
  take_append_of_le_length (hshort.trans_eq profile.sized.symm)

/-- The zero behind a name is stored in the profile when the name is shorter than the array. -/
theorem overrun_storeName_iff (profile : PeerProfile) (name : List UInt8) :
    (profile.storeName (name ++ [0])).overrun = [] ↔ name.length < sizeofPeerName := by
  unfold PeerProfile.storeName
  dsimp only
  rw [drop_eq_nil_iff, length_append, length_singleton]
  omega

/-- A name that is stored is the one of the profile. -/
theorem name_storeName {profile : PeerProfile} {name : List UInt8}
    (hshort : name.length < sizeofPeerName) (hlength : profile.peerNameLength.toNat = name.length)
    (behind : ℕ → UInt8) : (profile.storeName (name ++ [0])).profile.name behind = name := by
  have hfits : (profile.storeName (name ++ [0])).profile.peerNameLength.toNat ≤ sizeofPeerName :=
    hlength.trans_le hshort.le
  rw [name_eq_take hfits]
  change List.take profile.peerNameLength.toNat
    ((name ++ [(0 : UInt8)] ++ profile.peerName.drop (name ++ [(0 : UInt8)]).length).take
      sizeofPeerName) = name
  rw [hlength, take_take, min_eq_left hshort.le, append_assoc, take_left]

/-- The profile of a row is the one it was made of, if there is room for its name and the zero. -/
theorem unpersistPeerProfile_of_select (into : PeerProfile) {index : ℕ} {profile : PeerProfile}
    (hrow : (select PeerCol.id.ctorIdx (peerKey index) db.peer).head? =
      some (peerRow behind (UInt32.ofNat index) profile)) :
    (rdDatastoreUnpersistPeerProfile into (UInt32.ofNat index) db).Same profile ↔
      profile.peerNameLength.toNat < sizeofPeerName := by
  have hlt : profile.peerNameLength.toNat < 256 := profile.peerNameLength.toNat_lt
  have hport : columnInt (peerRow behind (UInt32.ofNat index) profile) PeerCol.port.ctorIdx =
      profile.port2.toUInt32 <<< 8 ||| profile.port1.toUInt32 := columnInt_bindRow (by decide) rfl
  have haddr : Row.bytes (peerRow behind (UInt32.ofNat index) profile) PeerCol.ip.ctorIdx =
      addrBytes profile.peerIpv6Addr := bytes_bindRow_blob (by decide) rfl
  have hname : Row.bytes (peerRow behind (UInt32.ofNat index) profile) PeerCol.name.ctorIdx =
      profile.name behind := bytes_bindRow_text (by decide) rfl
  have hblock : (readBlock (peerRow behind (UInt32.ofNat index) profile) PeerCol.name.ctorIdx).val =
      profile.name behind := by
    unfold readBlock
    dsimp only
    rw [hname, length_name, Nat.mod_eq_of_lt hlt, ← length_name profile behind, take_length]
  unfold peerKey at hrow
  unfold rdDatastoreUnpersistPeerProfile
  rw [hrow]
  dsimp only
  rw [hport, haddr, port1_of_port, port2_of_port, copyAddr_addrBytes, hblock]
  have hlength : UInt8.ofNat (profile.name behind).length = profile.peerNameLength := by
    rw [length_name, UInt8.ofNat_toNat]
  rw [hlength]
  constructor
  · intro hsame
    rw [← length_name profile behind]
    exact (overrun_storeName_iff _ _).mp hsame.inside
  · intro hshort
    have hname : (profile.name behind).length < sizeofPeerName :=
      (length_name profile behind).trans_lt hshort
    refine ⟨rfl, rfl, rfl, rfl, fun other ↦ ?_, (overrun_storeName_iff _ _).mpr hname⟩
    refine (name_storeName hname ?_ other).trans ?_
    · exact (length_name profile behind).symm
    · rw [name_eq_take hshort.le, name_eq_take hshort.le]

/-- The rows of peers with other indices than the `count` that follow `start`. -/
def otherPeers (start count : ℕ) (peer : Table) : Table :=
  peer.filter fun row ↦ !(List.range' start count).any fun index ↦ Row.hasKey PeerCol.id.ctorIdx
    (peerKey index) row

/-- The rows of profiles, from an index. -/
def peerRows (behind : ℕ → UInt8) (start : ℕ) (profiles : List PeerProfile) : Table :=
  (profiles.zipIdx start).map fun entry ↦ peerRow behind (UInt32.ofNat entry.2) entry.1

theorem persistPeerProfile_eq (index : ℕ) (profile : PeerProfile) (db : Db) :
    rdDatastorePersistPeerProfile behind (UInt32.ofNat index) profile db = { db with
      peer := deleteWhere PeerCol.id.ctorIdx
        (peerKey index) db.peer ++ [peerRow behind (UInt32.ofNat index) profile] } := by
  have hkey : Row.hasKey PeerCol.id.ctorIdx (peerKey index)
      (peerRow behind (UInt32.ofNat index) profile) = true := by
    rw [hasKey_peerRow]
    exact decide_eq_true rfl
  unfold rdDatastorePersistPeerProfile
  dsimp only
  change ({ db with peer :=
    (insertKeyed PeerCol.id.ctorIdx (peerRow behind (UInt32.ofNat index) profile)
    (deleteWhere PeerCol.id.ctorIdx (peerKey index) db.peer)).getD _ } : Db) = _
  rw [insertKeyed_deleteWhere hkey]
  rfl

/-- The profiles take the place of the rows with their indices. -/
theorem foldl_persistPeerProfile (profiles : List PeerProfile) (start : ℕ)
    (hbound : start + profiles.length ≤ 2 ^ 32) (db : Db) :
    (profiles.zipIdx start).foldl (fun db entry ↦
      rdDatastorePersistPeerProfile behind (UInt32.ofNat entry.2) entry.1 db) db =
      { db with peer := otherPeers start profiles.length db.peer ++
        peerRows behind start profiles } := by
  induction profiles generalizing start db with
  | nil =>
    have hall : otherPeers start 0 db.peer = db.peer := filter_eq_self.mpr fun _ _ ↦ rfl
    rw [length_nil, hall]
    unfold peerRows
    rw [zipIdx_nil, map_nil, append_nil]
    rfl
  | cons profile rest ih =>
    rw [length_cons] at hbound
    have hnew : otherPeers (start + 1) rest.length [peerRow behind (UInt32.ofNat start) profile] =
        [peerRow behind (UInt32.ofNat start) profile] := by
      refine filter_eq_self.mpr ?_
      intro row hrow
      rw [mem_singleton.mp hrow, Bool.not_eq_true', any_eq_false]
      intro index hindex
      rw [hasKey_peerRow, decide_eq_true_iff]
      intro heq
      have hrange := mem_range'_1.mp hindex
      have := peerKey_injective (by omega) (by omega) heq
      omega
    have hothers : otherPeers (start + 1) rest.length
      (deleteWhere PeerCol.id.ctorIdx (peerKey start) db.peer) =
        otherPeers start (rest.length + 1) db.peer := by
      unfold otherPeers deleteWhere
      rw [filter_filter]
      refine filter_congr ?_
      intro row _
      rw [range'_succ, any_cons, Bool.not_or, Bool.and_comm]
    have happend : ∀ first second : Table, otherPeers (start + 1) rest.length (first ++ second) =
        otherPeers (start + 1) rest.length first ++ otherPeers (start + 1) rest.length second :=
      fun first second ↦ filter_append _ _
    rw [zipIdx_cons, foldl_cons, ih (start + 1) (by omega), persistPeerProfile_eq]
    dsimp only
    rw [happend, hnew, hothers, append_assoc]
    rfl

/-- The database when a configuration has been written, with the profiles of its peers. -/
theorem persistGateway_eq (cfg : GwConfig) (profiles : List PeerProfile)
    (hbound : profiles.length < 2 ^ 32) (db : Db) :
    persistGateway behind cfg profiles db = { db with
      gw := [bindRow 3
        [bindExInt GwCol.mode.ctorIdx cfg.mode.toUInt32,
          bindExInt GwCol.showlock.ctorIdx cfg.showlock.toUInt32,
          bindExInt GwCol.peerProfile.ctorIdx cfg.peerProfile.toUInt32]]
      peer := otherPeers 1 profiles.length db.peer ++ peerRows behind 1 profiles } := by
  have hconfig : rdDatastorePersistGwConfig cfg db = { db with
      gw := [bindRow 3
        [bindExInt GwCol.mode.ctorIdx cfg.mode.toUInt32,
          bindExInt GwCol.showlock.ctorIdx cfg.showlock.toUInt32,
          bindExInt GwCol.peerProfile.ctorIdx cfg.peerProfile.toUInt32]] } := by
    unfold rdDatastorePersistGwConfig
    simp only [deleteFrom_gw, deleteFrom_peers, ite_self, nil_append]
  unfold persistGateway
  rw [hconfig]
  exact foldl_persistPeerProfile profiles 1 (by omega) _

/-- The configuration is read with the number of rows in the table of peers. -/
theorem unpersistGwConfig_persist (cfg : GwConfig) (profiles : List PeerProfile)
    (hbound : profiles.length < 2 ^ 32) (db : Db) :
    rdDatastoreUnpersistGwConfig (persistGateway behind cfg profiles db) =
      { cfg with actualPeers :=
          UInt8.ofNat ((otherPeers 1 profiles.length db.peer).length + profiles.length) } := by
  rw [persistGateway_eq cfg profiles hbound]
  unfold rdDatastoreUnpersistGwConfig
  dsimp only
  rw [GwConfig.mk.injEq]
  refine ⟨columnInt_bindRow_uint8 (by decide) rfl, columnInt_bindRow_uint8 (by decide) rfl,
    columnInt_bindRow_uint8 (by decide) rfl, ?_⟩
  rw [length_append]
  unfold peerRows
  rw [length_map, length_zipIdx]

/-- Each profile is read as it was written, if there is room for its name and the zero. -/
theorem unpersistPeerProfile_persist (into : PeerProfile) (cfg : GwConfig)
    (profiles : List PeerProfile) (hbound : profiles.length + 1 < 2 ^ 32) (db : Db) {i : ℕ}
    {profile : PeerProfile} (hprofile : profiles[i]? = some profile) :
    (rdDatastoreUnpersistPeerProfile into (UInt32.ofNat (i + 1))
        (persistGateway behind cfg profiles db)).Same profile ↔
      profile.peerNameLength.toNat < sizeofPeerName := by
  obtain ⟨hi, -⟩ := List.getElem?_eq_some_iff.mp hprofile
  have hown : Row.hasKey PeerCol.id.ctorIdx (peerKey (i + 1))
      (peerRow behind (UInt32.ofNat (i + 1)) profile) = true := by
    rw [hasKey_peerRow]
    exact decide_eq_true rfl
  have hothers : ∀ row ∈ otherPeers 1 profiles.length db.peer,
      Row.hasKey PeerCol.id.ctorIdx (peerKey (i + 1)) row = false := by
    intro row hrow
    have hnone := (mem_filter.mp hrow).2
    rw [Bool.not_eq_true', any_eq_false] at hnone
    exact Bool.eq_false_iff.mpr (hnone (i + 1) (mem_range'_1.mpr ⟨by omega, by omega⟩))
  have honly : ∀ row ∈ peerRows behind 1 profiles, Row.hasKey PeerCol.id.ctorIdx
      (peerKey (i + 1)) row = true → row = peerRow behind (UInt32.ofNat (i + 1)) profile := by
    intro row hrow hkey
    obtain ⟨⟨found, index⟩, hentry, rfl⟩ := mem_map.mp hrow
    have hrange := mem_zipIdx hentry
    rw [hasKey_peerRow, decide_eq_true_iff] at hkey
    obtain rfl := peerKey_injective (by omega) (by omega) hkey
    have hfound := (mem_zipIdx_iff_le_and_getElem?_sub.mp hentry).2
    dsimp only at hfound
    rw [Nat.add_sub_cancel, hprofile] at hfound
    rw [Option.some.inj hfound]
  refine unpersistPeerProfile_of_select into (?_ : _ = some (peerRow behind _ profile))
  rw [persistGateway_eq cfg profiles (by omega)]
  dsimp only
  rw [select_append, select_of_forall_not hothers, nil_append]
  have hmem : peerRow behind (UInt32.ofNat (i + 1)) profile ∈
      select PeerCol.id.ctorIdx (peerKey (i + 1)) (peerRows behind 1 profiles) := by
    refine mem_filter.mpr ⟨mem_map.mpr ⟨(profile, i + 1), ?_, rfl⟩, hown⟩
    refine mem_zipIdx_iff_le_and_getElem?_sub.mpr ⟨Nat.le_add_left 1 i, ?_⟩
    dsimp only
    rw [Nat.add_sub_cancel, hprofile]
  cases hselect : select PeerCol.id.ctorIdx (peerKey (i + 1)) (peerRows behind 1 profiles) with
  | nil =>
    rw [hselect] at hmem
    exact absurd hmem not_mem_nil
  | cons row rest =>
    have hrow :=
      mem_filter.mp (hselect ▸ mem_cons_self : row ∈ select _ _ (peerRows behind 1 profiles))
    rw [List.head?_cons, honly row hrow.1 hrow.2]

end Gateway

/-! ### The whole database -/

/-- The associations of the gateway: there is one block of the pool for each. -/
abbrev AssociationTable : Type := { table : List IpAssociation // table.length ≤ maxIpAssociations }

/-- The virtual nodes of the gateway. -/
abbrev VirtualNodeList : Type :=
  { nodelist : List UInt16 // nodelist.length ≤ maxClassicTempAssociations }

/-- A gateway configuration with the profiles of its peers. -/
structure GatewaySettings where
  config : GwConfig
  profiles : List PeerProfile
  counted : profiles.length = config.actualPeers.toNat
deriving DecidableEq, Repr

/-- What is written to a database is read from it; associations are read where an address was, and
profiles where a profile was. -/
structure RoundTrip (stale : Ip6Addr) (into : PeerProfile) (behind : ℕ → UInt8) (db : Db)
    (n : NodeEntry) (associations : AssociationTable)
    (nodelist : VirtualNodeList) (settings : GatewaySettings) : Prop where
  node : stored (rdDataStoreNvmWrite n db) n.nodeid = some n.persisted
  other_nodes : ∀ nodeid, nodeid ≠ n.nodeid →
    rdDataStoreRead nodeid (rdDataStoreNvmWrite n db) = rdDataStoreRead nodeid db
  fits : ∀ nodeid found copies, rdDataStoreRead nodeid db = some (found, copies) →
    ∀ copy ∈ copies, copy.copied ≤ copy.allocated
  associations : rdDatastoreUnpersistAssociation stale
    (rdDataStorePersistAssociations associations.val db) = associations.val
  virtual_nodes : rdDatastoreUnpersistVirtualNodes maxClassicTempAssociations
    (rdDatastorePersistVirtualNodes nodelist.val db) = nodelist.val
  config : rdDatastoreUnpersistGwConfig
    (persistGateway behind settings.config settings.profiles db) = settings.config
  profiles : ∀ i profile, settings.profiles[i]? = some profile →
    (rdDatastoreUnpersistPeerProfile into (UInt32.ofNat (i + 1))
      (persistGateway behind settings.config settings.profiles db)).Same profile

/-- The rows of peers that the profiles of a configuration do not take the place of. -/
def strayPeers (settings : GatewaySettings) (db : Db) : Table :=
  otherPeers 1 settings.profiles.length db.peer

/-- The number of peers is right when no row of another peer is left, as far as eight bits tell. -/
theorem config_iff (behind : ℕ → UInt8) (settings : GatewaySettings) (db : Db) :
    rdDatastoreUnpersistGwConfig (persistGateway behind settings.config settings.profiles db) =
      settings.config ↔ (strayPeers settings db).length % 256 = 0 := by
  have hlt : settings.config.actualPeers.toNat < 256 := settings.config.actualPeers.toNat_lt
  rw [unpersistGwConfig_persist _ _ (by rw [settings.counted]; omega)]
  have hfield : ∀ count : UInt8, ({ settings.config with actualPeers := count } : GwConfig) =
      settings.config ↔ count = settings.config.actualPeers :=
    fun count ↦ ⟨fun h ↦ congrArg GwConfig.actualPeers h, fun h ↦ by rw [h]⟩
  refine (hfield _).trans ?_
  rw [← UInt8.toNat_inj, UInt8.toNat_ofNat', settings.counted]
  unfold strayPeers
  rw [settings.counted]
  omega

/-- All that is written is read as it was, whatever the database, exactly when no virtual node is
written twice, no row of another peer is left in the table of peers, and the name of each peer is
shorter than the array for it. -/
theorem roundTrip_iff (stale : Ip6Addr) (into : PeerProfile) (behind : ℕ → UInt8) (db : Db)
    (n : NodeEntry) (associations : AssociationTable) (nodelist : VirtualNodeList)
    (settings : GatewaySettings) : RoundTrip stale into behind db n associations nodelist settings ↔
      nodelist.val.Nodup ∧ (strayPeers settings db).length % 256 = 0 ∧
        ∀ profile ∈ settings.profiles, profile.peerNameLength.toNat < sizeofPeerName := by
  have hlt : settings.config.actualPeers.toNat < 256 := settings.config.actualPeers.toNat_lt
  constructor
  · intro h
    refine ⟨(unpersistVirtualNodes_persist_iff nodelist.property db).mp h.virtual_nodes,
      (config_iff behind settings db).mp h.config, fun profile hmem ↦ ?_⟩
    obtain ⟨i, hi⟩ := mem_iff_getElem?.mp hmem
    exact (unpersistPeerProfile_persist into _ _ (by rw [settings.counted]; omega) db hi).mp
      (h.profiles i profile hi)
  · rintro ⟨hnodup, hstray, hnames⟩
    constructor
    · rw [stored_write, update_self]
    · exact fun nodeid hne ↦ read_write_of_ne n hne db
    · exact fun nodeid found copies hread copy hcopy ↦ copies_fit hread hcopy
    · exact unpersistAssociation_persist stale associations.property db
    · exact (unpersistVirtualNodes_persist_iff nodelist.property db).mpr hnodup
    · exact (config_iff behind settings db).mpr hstray
    · intro i profile hprofile
      exact (unpersistPeerProfile_persist into _ _
        (by rw [settings.counted]; omega) db hprofile).mpr
        (hnames profile (mem_of_getElem? hprofile))

/-- An empty database. -/
def emptyDb : Db := ⟨[], [], [], [], [], []⟩

/-- The portal mode with one peer, at the address 1 and port 0x1234. -/
def onePeer : GatewaySettings :=
  ⟨⟨1, 0, 1, 1⟩, [⟨1, 0x34, 0x12, 1, 0x61 :: List.replicate 62 0, rfl⟩], rfl⟩

def noPeers : GatewaySettings := ⟨⟨1, 0, 0, 0⟩, [], rfl⟩

/-- A node without endpoints. -/
def bareNode : NodeEntry where
  wakeUpInterval := 0
  lastAwake := 0
  lastUpdate := 0
  nodeid := 1
  securityFlags := 0
  mode := 0
  state := .created
  manufacturerID := 0
  productType := 0
  productID := 0
  nodeType := 0
  refCnt := 0
  nEndpoints := 0
  nAggEndpoints := 0
  endpoints := []
  nodename := ⟨[], Nat.zero_lt_succ 255⟩
  dsk := ⟨[], Nat.zero_lt_succ 255⟩
  nodeVersionCapAndZwaveSw := 0
  probeFlags := 0
  nodePropertiesFlags := 0
  nodeCcVersions := ⟨[], Nat.zero_lt_succ 255⟩
  nodeIsZwsProbed := 0
  pcvs := none
  counted := rfl

/-- When the peers are reset, the gateway still reads that there is one. -/
theorem reset_keeps_peer :
    ¬ ∀ (stale : Ip6Addr) (into : PeerProfile) (behind : ℕ → UInt8) (db : Db) (n : NodeEntry)
      (associations : AssociationTable) (nodelist : VirtualNodeList) (settings : GatewaySettings),
      RoundTrip stale into behind db n associations nodelist settings := by
  intro hall
  have hconfig := (hall 0 noProfile (fun _ ↦ 0)
    (persistGateway (fun _ ↦ 0) onePeer.config onePeer.profiles emptyDb) bareNode ⟨[], by decide⟩
    ⟨[], by decide⟩ noPeers).config
  have hread :
      (rdDatastoreUnpersistGwConfig (persistGateway (fun _ ↦ 0) noPeers.config noPeers.profiles
      (persistGateway (fun _ ↦ 0) onePeer.config onePeer.profiles emptyDb))).actualPeers = 1 := by
    decide +kernel
  rw [hconfig] at hread
  exact absurd hread (by decide)

end ZipGateway.DataStore
