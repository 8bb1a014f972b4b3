import ZipGateway.IpAssoc.Model
import ZipGateway.Lib.RowTable
import ZipGateway.ResourceDirectory.Model

/-!
# The data store

`src/src/RD_DataStore_Sqlite.c` keeps the node database, the IP associations, the virtual nodes and
the gateway configuration in the tables of a database. Each table is written and read by functions
of its own, which bind and read its columns by their positions; a position is that of a constructor
in the enumeration of the columns. The tables are lists of rows in the order of the insertions.

The lengths of names and other blocks have eight bits, and so has the size that the allocator is
asked for. What a read allocates, and how many bytes it copies there, is part of its result.
-/

set_option autoImplicit false

namespace ZipGateway.DataStore

open List ZipGateway.Lib.RowTable
open ZipGateway.IpAssoc (IpAssociation IpAssocType Ip6Addr maxIpAssociations)
open ZipGateway.ResourceDirectory (NodeState EpState)

/-! ### Columns -/

/-- Node table columns. -/
inductive NodeCol where
  | nodeid
  | wakeUpInterval
  | lastAwake
  | lastUpdate
  | securityFlags
  | mode
  | state
  | manufacturerID
  | productType
  | productID
  | nodeType
  | nAggEndpoints
  | name
  | dsk
  | nodeVersionCapAndZwaveSw
  | probeFlags
  | propertiesFlags
  | ccVersions
  | nodeIsZwsProbed

/-- Endpoint table columns. -/
inductive EpCol where
  | endpointid
  | nodeid
  | info
  | aggr
  | name
  | location
  | state
  | installerIconID
  | userIconID

/-- IP association columns. -/
inductive IpaCol where
  | virtualId
  | type
  | resourceIp
  | resourceEndpoint
  | resourcePort
  | virtualEndpoint
  | grouping
  | hanNodeid
  | hanEndpoint
  | wasDtls
  | markRemoval

/-- The column of the virtual nodes. -/
inductive VnCol where
  | virtualId

/-- Gateway columns. -/
inductive GwCol where
  | mode
  | showlock
  | peerProfile

/-- Peer columns. -/
inductive PeerCol where
  | id
  | ip
  | port
  | name

/-- `sqlite3_bind_ex_int`. -/
def bindExInt (idx : ℕ) (val : UInt32) : ℕ × Value := (idx + 1, .int val.toInt32)

/-- `sqlite3_bind_ex_blob`. -/
def bindExBlob (idx : ℕ) (bytes : List UInt8) : ℕ × Value := (idx + 1, .blob bytes)

/-- `sqlite3_column_int`, as it is assigned to an unsigned field. -/
def columnInt (row : Row) (idx : ℕ) : UInt32 := (Row.int row idx).toUInt32

/-! ### Entries -/

/-- A block whose length is kept in eight bits. A missing block is an empty one. -/
abbrev Block : Type := { bytes : List UInt8 // bytes.length < 256 }

/-- `rd_ep_database_entry_t`. -/
structure EndpointEntry where
  endpointId : UInt8
  installerIconID : UInt16
  userIconID : UInt16
  state : EpState
  endpointName : Block
  endpointLocation : Block
  endpointAgg : Block
  endpointInfo : Block
deriving DecidableEq, Repr

/-- `rd_node_database_entry_t`, without the block `not_used`. `pcvs` is the address of the state of
a version probe. The number of endpoints is kept with their list. -/
structure NodeEntry where
  wakeUpInterval : UInt32
  lastAwake : UInt32
  lastUpdate : UInt32
  nodeid : UInt16
  securityFlags : UInt8
  mode : UInt32
  state : NodeState
  manufacturerID : UInt16
  productType : UInt16
  productID : UInt16
  nodeType : UInt8
  refCnt : UInt8
  nEndpoints : UInt8
  nAggEndpoints : UInt8
  endpoints : List EndpointEntry
  nodename : Block
  dsk : Block
  nodeVersionCapAndZwaveSw : UInt8
  probeFlags : UInt16
  nodePropertiesFlags : UInt16
  nodeCcVersions : Block
  nodeIsZwsProbed : UInt8
  pcvs : Option ℕ
  counted : nEndpoints = UInt8.ofNat endpoints.length
deriving DecidableEq, Repr

/-- `Gw_Config_St_t`. -/
structure GwConfig where
  mode : UInt8
  showlock : UInt8
  peerProfile : UInt8
  actualPeers : UInt8
deriving DecidableEq, Repr

/-- The size of `peerName`. -/
def sizeofPeerName : ℕ := 63

/-- `Gw_PeerProfile_St_t`. The length of the name may be larger than the array. -/
structure PeerProfile where
  peerIpv6Addr : Ip6Addr
  port1 : UInt8
  port2 : UInt8
  peerNameLength : UInt8
  peerName : List UInt8
  sized : peerName.length = sizeofPeerName
deriving DecidableEq, Repr

/-- A profile that was cleared. -/
def noProfile : PeerProfile := ⟨0, 0, 0, 0, List.replicate sizeofPeerName 0, length_replicate⟩

/-- The bytes from the beginning of `peerName` on that its length names, with those behind the
profile where the array ends before. -/
def PeerProfile.name (profile : PeerProfile) (behind : ℕ → UInt8) : List UInt8 :=
  (profile.peerName ++ (List.range 256).map behind).take profile.peerNameLength.toNat

/-! ### Numbers and bytes -/

/-- The numbers of `rd_node_state_t`. -/
def nodeStates : List NodeState :=
  [.created, .probeNodeInfo, .probeProductId, .enumerateEndpoints, .findEndpoints,
    .checkWuCcVersion, .getWuCap, .setWakeUpInterval, .assignReturnRoute, .probeWakeUpInterval,
    .probeEndpoints, .mdnsProbe, .mdnsEpProbe, .done, .probeFail, .failing]

/-- The numbers of `rd_ep_state_t`. -/
def epStates : List EpState :=
  [.probeAggregatedEndpoints, .probeInfo, .probeSec2C2Info, .probeSec2C1Info, .probeSec2C0Info,
    .probeSec0Info, .probeZwavePlus, .mdnsProbe, .mdnsProbeInProgress, .probeDone, .probeFail,
    .probeVersion]

/-- The numbers of `ip_assoc_type_t`. -/
def ipAssocTypes : List IpAssocType := [.unset, .permanentIpAssoc, .localIpAssoc, .proxyIpAssoc]

/-- The number of a value of an enumeration. -/
def numberOf {Enum : Type} [DecidableEq Enum] (values : List Enum) (value : Enum) : UInt32 :=
  UInt32.ofNat (values.idxOf value)

/-- The value of an enumeration with a number; a number that no value has is read as the first. -/
def ofNumber {Enum : Type} (values : List Enum) (first : Enum) (number : UInt32) : Enum :=
  values.getD number.toNat first

/-- The last `count` bytes of a number, the most significant first. -/
def bytesOf : ℕ → ℕ → List UInt8
  | 0, _ => []
  | count + 1, number => bytesOf count (number / 256) ++ [UInt8.ofNat number]

/-- The number that bytes make. -/
def valueOf (bytes : List UInt8) : ℕ := bytes.foldl (fun value byte ↦ value * 256 + byte.toNat) 0

def addrBytes (addr : Ip6Addr) : List UInt8 := bytesOf 16 addr.toNat

/-- The address that is copied from sixteen bytes; another number of bytes leaves the address as it
was. -/
def copyAddr (bytes : List UInt8) (addr : Ip6Addr) : Ip6Addr :=
  if bytes.length = 16 then BitVec.ofNat 128 (valueOf bytes) else addr

/-! ### Memory -/

/-- `sizeof(rd_node_database_entry_t)` on a platform with pointers of 64 bits. -/
def sizeofNodeEntry : ℕ := 120

/-- `sizeof(rd_ep_database_entry_t)` on such a platform. -/
def sizeofEndpointEntry : ℕ := 64

/-- The block of memory that `rd_data_mem_alloc` returns: its size has eight bits. -/
def rdDataMemAlloc (size : ℕ) : ℕ := size % 256

/-- An allocation, and what is copied there. -/
structure Copy where
  allocated : ℕ
  copied : ℕ
deriving DecidableEq, Repr

/-- An entry that is allocated and filled. -/
def entryCopy (size : ℕ) : Copy := ⟨rdDataMemAlloc size, size⟩

/-- A block that is read from a column: its length is cut to eight bits. -/
def readBlock (row : Row) (idx : ℕ) : Block :=
  let bytes := Row.bytes row idx
  ⟨bytes.take (bytes.length % 256), (length_take_le _ _).trans_lt (Nat.mod_lt _ (by decide))⟩

/-- The allocation for such a block. -/
def blockCopy (row : Row) (idx : ℕ) : Copy :=
  let len := (Row.bytes row idx).length % 256
  ⟨rdDataMemAlloc len, len⟩

/-! ### The database -/

/-- The tables of the database that this file reads. -/
structure Db where
  nodes : Table
  endpoints : Table
  ipAssociation : Table
  virtualNodes : Table
  gw : Table
  peer : Table
deriving DecidableEq, Repr

/-- `datastore_exec_sql("DELETE FROM ..")`. There is an error, and nothing else, when there is no
such table. -/
def deleteFrom (name : String) (db : Db) : Db :=
  match name with
  | "nodes" => { db with nodes := [] }
  | "endpoints" => { db with endpoints := [] }
  | "ip_association" => { db with ipAssociation := [] }
  | "virtual_nodes" => { db with virtualNodes := [] }
  | "gw" => { db with gw := [] }
  | "peer" => { db with peer := [] }
  | _ => db

@[simp] theorem deleteFrom_ipAssociation (db : Db) :
    deleteFrom "ip_association" db = { db with ipAssociation := [] } := rfl

@[simp] theorem deleteFrom_virtualNodes (db : Db) :
    deleteFrom "virtual_nodes" db = { db with virtualNodes := [] } := rfl

@[simp] theorem deleteFrom_gw (db : Db) : deleteFrom "gw" db = { db with gw := [] } := rfl

/-- There is no table `peers`. -/
@[simp] theorem deleteFrom_peers (db : Db) : deleteFrom "peers" db = db := rfl

/-! ### The node database -/

/-- The endpoint of a row. -/
def readEndpoint (row : Row) : EndpointEntry where
  endpointId := (columnInt row EpCol.endpointid.ctorIdx).toUInt8
  installerIconID := (columnInt row EpCol.installerIconID.ctorIdx).toUInt16
  userIconID := (columnInt row EpCol.userIconID.ctorIdx).toUInt16
  state := ofNumber epStates .probeAggregatedEndpoints (columnInt row EpCol.state.ctorIdx)
  endpointName := readBlock row EpCol.name.ctorIdx
  endpointLocation := readBlock row EpCol.location.ctorIdx
  endpointAgg := readBlock row EpCol.aggr.ctorIdx
  endpointInfo := readBlock row EpCol.info.ctorIdx

/-- What is allocated for it. -/
def endpointCopies (row : Row) : List Copy :=
  [entryCopy sizeofEndpointEntry, blockCopy row EpCol.name.ctorIdx,
    blockCopy row EpCol.location.ctorIdx,
    blockCopy row EpCol.aggr.ctorIdx, blockCopy row EpCol.info.ctorIdx]

/-- The node of a row, with the endpoints of their rows. -/
def readNode (row : Row) (eps : Table) : NodeEntry where
  wakeUpInterval := columnInt row NodeCol.wakeUpInterval.ctorIdx
  lastAwake := columnInt row NodeCol.lastAwake.ctorIdx
  lastUpdate := columnInt row NodeCol.lastUpdate.ctorIdx
  nodeid := (columnInt row NodeCol.nodeid.ctorIdx).toUInt16
  securityFlags := (columnInt row NodeCol.securityFlags.ctorIdx).toUInt8
  mode := columnInt row NodeCol.mode.ctorIdx
  state := ofNumber nodeStates .created (columnInt row NodeCol.state.ctorIdx)
  manufacturerID := (columnInt row NodeCol.manufacturerID.ctorIdx).toUInt16
  productType := (columnInt row NodeCol.productType.ctorIdx).toUInt16
  productID := (columnInt row NodeCol.productID.ctorIdx).toUInt16
  nodeType := (columnInt row NodeCol.nodeType.ctorIdx).toUInt8
  refCnt := 0
  nEndpoints := UInt8.ofNat (eps.map readEndpoint).length
  nAggEndpoints := (columnInt row NodeCol.nAggEndpoints.ctorIdx).toUInt8
  endpoints := eps.map readEndpoint
  nodename := readBlock row NodeCol.name.ctorIdx
  dsk := readBlock row NodeCol.dsk.ctorIdx
  nodeVersionCapAndZwaveSw := (columnInt row NodeCol.nodeVersionCapAndZwaveSw.ctorIdx).toUInt8
  probeFlags := (columnInt row NodeCol.probeFlags.ctorIdx).toUInt16
  nodePropertiesFlags := (columnInt row NodeCol.propertiesFlags.ctorIdx).toUInt16
  nodeCcVersions := readBlock row NodeCol.ccVersions.ctorIdx
  nodeIsZwsProbed := (columnInt row NodeCol.nodeIsZwsProbed.ctorIdx).toUInt8
  pcvs := none
  counted := rfl

/-- What is allocated for it. -/
def nodeCopies (row : Row) (eps : Table) : List Copy :=
  [entryCopy sizeofNodeEntry, blockCopy row NodeCol.name.ctorIdx, blockCopy row NodeCol.dsk.ctorIdx,
    blockCopy row NodeCol.ccVersions.ctorIdx] ++ eps.flatMap endpointCopies

/-- `rd_data_store_read`: the node, and what has been allocated for it. -/
def rdDataStoreRead (nodeID : UInt16) (db : Db) : Option (NodeEntry × List Copy) :=
  let key := nodeID.toUInt32.toInt32
  (select NodeCol.nodeid.ctorIdx key db.nodes).head?.map fun row ↦
    let eps := select EpCol.nodeid.ctorIdx key db.endpoints
    (readNode row eps, nodeCopies row eps)

def nodeRow (n : NodeEntry) : Row :=
  bindRow 19
    [bindExInt NodeCol.nodeid.ctorIdx n.nodeid.toUInt32,
      bindExInt NodeCol.wakeUpInterval.ctorIdx n.wakeUpInterval,
      bindExInt NodeCol.lastAwake.ctorIdx n.lastAwake,
      bindExInt NodeCol.lastUpdate.ctorIdx n.lastUpdate,
      bindExInt NodeCol.securityFlags.ctorIdx n.securityFlags.toUInt32,
      bindExInt NodeCol.mode.ctorIdx n.mode,
      bindExInt NodeCol.state.ctorIdx (numberOf nodeStates n.state),
      bindExInt NodeCol.manufacturerID.ctorIdx n.manufacturerID.toUInt32,
      bindExInt NodeCol.productType.ctorIdx n.productType.toUInt32,
      bindExInt NodeCol.productID.ctorIdx n.productID.toUInt32,
      bindExInt NodeCol.nodeType.ctorIdx n.nodeType.toUInt32,
      bindExInt NodeCol.nAggEndpoints.ctorIdx n.nAggEndpoints.toUInt32,
      bindExInt NodeCol.nodeVersionCapAndZwaveSw.ctorIdx n.nodeVersionCapAndZwaveSw.toUInt32,
      bindExInt NodeCol.probeFlags.ctorIdx n.probeFlags.toUInt32,
      bindExInt NodeCol.propertiesFlags.ctorIdx n.nodePropertiesFlags.toUInt32,
      bindExBlob NodeCol.name.ctorIdx n.nodename.val,
      bindExBlob NodeCol.dsk.ctorIdx n.dsk.val,
      bindExBlob NodeCol.ccVersions.ctorIdx n.nodeCcVersions.val,
      bindExInt NodeCol.nodeIsZwsProbed.ctorIdx n.nodeIsZwsProbed.toUInt32]

def endpointRow (nodeid : UInt16) (e : EndpointEntry) : Row :=
  bindRow 9
    [bindExInt EpCol.endpointid.ctorIdx e.endpointId.toUInt32,
      bindExInt EpCol.nodeid.ctorIdx nodeid.toUInt32,
      bindExBlob EpCol.info.ctorIdx e.endpointInfo.val,
      bindExBlob EpCol.aggr.ctorIdx e.endpointAgg.val,
      bindExBlob EpCol.name.ctorIdx e.endpointName.val,
      bindExBlob EpCol.location.ctorIdx e.endpointLocation.val,
      bindExInt EpCol.state.ctorIdx (numberOf epStates e.state),
      bindExInt EpCol.installerIconID.ctorIdx e.installerIconID.toUInt32,
      bindExInt EpCol.userIconID.ctorIdx e.userIconID.toUInt32]

/-- `rd_data_store_nvm_free`. -/
def rdDataStoreNvmFree (nodeid : UInt16) (db : Db) : Db :=
  { db with
    nodes := deleteWhere NodeCol.nodeid.ctorIdx nodeid.toUInt32.toInt32 db.nodes
    endpoints := deleteWhere EpCol.nodeid.ctorIdx nodeid.toUInt32.toInt32 db.endpoints }

/-- `rd_data_store_nvm_write`, and `rd_data_store_update`. A row that cannot be put in is only
logged. -/
def rdDataStoreNvmWrite (n : NodeEntry) (db : Db) : Db :=
  let db := rdDataStoreNvmFree n.nodeid db
  { db with
    nodes := (insertKeyed NodeCol.nodeid.ctorIdx (nodeRow n) db.nodes).getD db.nodes
    endpoints := db.endpoints ++ n.endpoints.map (endpointRow n.nodeid) }

/-! ### IP associations -/

def ipAssociationRow (a : IpAssociation) : Row :=
  bindRow 11
    [bindExInt IpaCol.virtualId.ctorIdx a.virtualId.toUInt32,
      bindExInt IpaCol.type.ctorIdx (numberOf ipAssocTypes a.type),
      bindExBlob IpaCol.resourceIp.ctorIdx (addrBytes a.resourceIp),
      bindExInt IpaCol.resourceEndpoint.ctorIdx a.resourceEndpoint.toUInt32,
      bindExInt IpaCol.resourcePort.ctorIdx a.resourcePort.toUInt32,
      bindExInt IpaCol.virtualEndpoint.ctorIdx a.virtualEndpoint.toUInt32,
      bindExInt IpaCol.grouping.ctorIdx a.grouping.toUInt32,
      bindExInt IpaCol.hanNodeid.ctorIdx a.hanNodeid.toUInt32,
      bindExInt IpaCol.hanEndpoint.ctorIdx a.hanEndpoint.toUInt32,
      bindExInt IpaCol.wasDtls.ctorIdx a.wasDtls.toUInt32,
      bindExInt IpaCol.markRemoval.ctorIdx a.markRemoval.toUInt32]

/-- The association of a row, in a block of the pool where an address was. -/
def readIpAssociation (stale : Ip6Addr) (row : Row) : IpAssociation where
  virtualId := (columnInt row IpaCol.virtualId.ctorIdx).toUInt16
  type := ofNumber ipAssocTypes .unset (columnInt row IpaCol.type.ctorIdx)
  resourceIp := copyAddr (Row.bytes row IpaCol.resourceIp.ctorIdx) stale
  resourceEndpoint := (columnInt row IpaCol.resourceEndpoint.ctorIdx).toUInt8
  resourcePort := (columnInt row IpaCol.resourcePort.ctorIdx).toUInt16
  virtualEndpoint := (columnInt row IpaCol.virtualEndpoint.ctorIdx).toUInt8
  grouping := (columnInt row IpaCol.grouping.ctorIdx).toUInt8
  hanNodeid := (columnInt row IpaCol.hanNodeid.ctorIdx).toUInt16
  hanEndpoint := (columnInt row IpaCol.hanEndpoint.ctorIdx).toUInt8
  wasDtls := (columnInt row IpaCol.wasDtls.ctorIdx).toUInt8
  markRemoval := (columnInt row IpaCol.markRemoval.ctorIdx).toUInt8

/-- `rd_data_store_persist_associations`. -/
def rdDataStorePersistAssociations (table : List IpAssociation) (db : Db) : Db :=
  let db := deleteFrom "ip_association" db
  { db with ipAssociation := db.ipAssociation ++ table.map ipAssociationRow }

/-- `rd_datastore_unpersist_association`, into an empty table: it stops when all blocks of the pool
are used. -/
def rdDatastoreUnpersistAssociation (stale : Ip6Addr) (db : Db) : List IpAssociation :=
  (db.ipAssociation.take maxIpAssociations).map (readIpAssociation stale)

/-! ### Virtual nodes -/

/-- `MAX_CLASSIC_TEMP_ASSOCIATIONS`: the virtual nodes that the gateway keeps a list of. -/
def maxClassicTempAssociations : ℕ := 4

/-- The rows of virtual nodes are put in up to the first that cannot be. -/
def insertVirtualNodes : List UInt16 → Table → Table
  | [], table => table
  | nodeid :: rest, table =>
    match insertKeyed VnCol.virtualId.ctorIdx
        (bindRow 1 [bindExInt VnCol.virtualId.ctorIdx nodeid.toUInt32]) table with
    | some table => insertVirtualNodes rest table
    | none => table

/-- `rd_datastore_persist_virtual_nodes`. -/
def rdDatastorePersistVirtualNodes (nodelist : List UInt16) (db : Db) : Db :=
  let db := deleteFrom "virtual_nodes" db
  { db with virtualNodes := insertVirtualNodes nodelist db.virtualNodes }

/-- `rd_datastore_unpersist_virtual_nodes`. -/
def rdDatastoreUnpersistVirtualNodes (maxNodeCount : ℕ) (db : Db) : List UInt16 :=
  (db.virtualNodes.take maxNodeCount).map fun row ↦ (columnInt row VnCol.virtualId.ctorIdx).toUInt16

/-! ### The gateway configuration -/

/-- `rd_datastore_persist_gw_config`. -/
def rdDatastorePersistGwConfig (cfg : GwConfig) (db : Db) : Db :=
  let db := deleteFrom "gw" db
  let db := if cfg.actualPeers = 0 then deleteFrom "peers" db else db
  { db with
    gw := db.gw ++ [bindRow 3
      [bindExInt GwCol.mode.ctorIdx cfg.mode.toUInt32,
        bindExInt GwCol.showlock.ctorIdx cfg.showlock.toUInt32,
        bindExInt GwCol.peerProfile.ctorIdx cfg.peerProfile.toUInt32]] }

/-- `rd_datastore_unpersist_gw_config`: the peers are counted. -/
def rdDatastoreUnpersistGwConfig (db : Db) : GwConfig :=
  match db.gw with
  | row :: _ =>
    ⟨(columnInt row GwCol.mode.ctorIdx).toUInt8, (columnInt row GwCol.showlock.ctorIdx).toUInt8,
      (columnInt row GwCol.peerProfile.ctorIdx).toUInt8, UInt8.ofNat db.peer.length⟩
  | [] => ⟨0, 0, 0, 0⟩

def peerRow (behind : ℕ → UInt8) (index : UInt32) (profile : PeerProfile) : Row :=
  bindRow 4
    [bindExInt PeerCol.id.ctorIdx index,
      bindExBlob PeerCol.ip.ctorIdx (addrBytes profile.peerIpv6Addr),
      bindExInt PeerCol.port.ctorIdx (profile.port2.toUInt32 <<< 8 ||| profile.port1.toUInt32),
      (PeerCol.name.ctorIdx + 1, .text (profile.name behind))]

/-- `rd_datastore_persist_peer_profile`, with the bytes behind the profile. -/
def rdDatastorePersistPeerProfile (behind : ℕ → UInt8) (index : UInt32) (profile : PeerProfile)
    (db : Db) : Db :=
  let peer := deleteWhere PeerCol.id.ctorIdx index.toInt32 db.peer
  { db with peer := (insertKeyed PeerCol.id.ctorIdx (peerRow behind index profile) peer).getD peer }

/-- A profile that is read, and the bytes that the read stores behind its end. -/
structure ProfileRead where
  profile : PeerProfile
  overrun : List UInt8
deriving DecidableEq, Repr

/-- Bytes are stored from the beginning of `peerName` on. -/
def PeerProfile.storeName (profile : PeerProfile) (bytes : List UInt8) : ProfileRead where
  profile :=
    { profile with
      peerName := (bytes ++ profile.peerName.drop bytes.length).take sizeofPeerName
      sized := by
        rw [length_take, length_append, length_drop, profile.sized]
        omega }
  overrun := bytes.drop sizeofPeerName

/-- `rd_datastore_unpersist_peer_profile`, into a profile. A zero is stored behind the name. -/
def rdDatastoreUnpersistPeerProfile (into : PeerProfile) (index : UInt32) (db : Db) : ProfileRead :=
  match (select PeerCol.id.ctorIdx index.toInt32 db.peer).head? with
  | some row =>
    let name := (readBlock row PeerCol.name.ctorIdx).val
    let profile :=
      { into with
        peerNameLength := UInt8.ofNat name.length
        port1 := (columnInt row PeerCol.port.ctorIdx &&& 0xff).toUInt8
        port2 := (columnInt row PeerCol.port.ctorIdx >>> 8 &&& 0xff).toUInt8
        peerIpv6Addr := copyAddr (Row.bytes row PeerCol.ip.ctorIdx) into.peerIpv6Addr }
    profile.storeName (name ++ [0])
  | none => ⟨noProfile, []⟩

/-- The gateway configuration is written, and with it the profiles of its peers, from index 1. -/
def persistGateway (behind : ℕ → UInt8) (cfg : GwConfig) (profiles : List PeerProfile) (db : Db) :
    Db :=
  (profiles.zipIdx 1).foldl (fun db (profile, index) ↦
    rdDatastorePersistPeerProfile behind (UInt32.ofNat index) profile db)
    (rdDatastorePersistGwConfig cfg db)

end ZipGateway.DataStore
