import ZipGateway.Nodemask
import ZipGateway.Lib.SlotTable

/-!
# The node database of the resource directory

The node database of `src/src/RD_internal.c` has one slot for every node id. This module has the
entries of nodes and endpoints, and the calls that make and free an entry: `rd_register_new_node`
and `rd_remove_node` of `src/src/ResourceDirectory.c`. What a call asks the rest of the gateway
(whether a node is virtual, whether there is memory) is an argument of it.
-/

set_option autoImplicit false

namespace ZipGateway.ResourceDirectory

open Function ZipGateway.Lib

/-- `rd_node_state_t`. -/
inductive NodeState where
  | created
  | probeNodeInfo
  | probeProductId
  | enumerateEndpoints
  | findEndpoints
  | checkWuCcVersion
  | getWuCap
  | setWakeUpInterval
  | assignReturnRoute
  | probeWakeUpInterval
  | probeEndpoints
  | mdnsProbe
  | mdnsEpProbe
  | done
  | probeFail
  | failing
deriving DecidableEq, Repr

/-- `rd_ep_state_t`. -/
inductive EpState where
  | probeAggregatedEndpoints
  | probeInfo
  | probeSec2C2Info
  | probeSec2C1Info
  | probeSec2C0Info
  | probeSec0Info
  | probeZwavePlus
  | mdnsProbe
  | mdnsProbeInProgress
  | probeDone
  | probeFail
  | probeVersion
deriving DecidableEq, Repr

/-- `rd_ep_database_entry_t`: the fields that name an endpoint and place it in its node. -/
structure EpEntry where
  endpointId : UInt8
  state : EpState
  endpointName : Option (List UInt8)
  endpointNameLen : UInt8
  endpointLocation : Option (List UInt8)
  endpointLocLen : UInt8
deriving DecidableEq, Repr

/-- An entry as `rd_add_endpoint` makes it. -/
def EpEntry.fresh (epid : UInt8) : EpEntry := ⟨epid, .probeInfo, none, 0, none, 0⟩

/-- `rd_node_database_entry_t`: the state of the interview, the endpoints and the DSK. The block
`dsk` points to has `dskLen` bytes, and there is none when `dskLen` is 0: the two fields are one
list here. The field `nodeid` of an entry is the number of its slot. -/
structure NodeEntry where
  state : NodeState
  nEndpoints : UInt8
  nAggEndpoints : UInt8
  endpoints : List EpEntry
  dsk : { bytes : List UInt8 // bytes.length < 256 }
deriving DecidableEq, Repr

def noDsk : { bytes : List UInt8 // bytes.length < 256 } := ⟨[], by simp⟩

/-- An entry as `rd_node_entry_alloc` makes it. -/
def NodeEntry.fresh : NodeEntry := ⟨.created, 0, 0, [], noDsk⟩

/-- `ndb`. -/
abbrev Ndb := Fin zwMaxNodes → Option NodeEntry

/-- The slot of a node id, with the check of `rd_node_get_raw`. -/
def slotOf (nodeid : UInt16) : Option (Fin zwMaxNodes) :=
  if h : 1 ≤ nodeid.toNat ∧
    nodeid.toNat ≤ zwMaxNodes then some ⟨nodeid.toNat - 1, by omega⟩ else none

/-- `rd_add_endpoint`; `allocated` says whether there is memory for the entry. -/
def NodeEntry.addEndpoint (allocated : Bool) (epid : UInt8) (n : NodeEntry) : NodeEntry :=
  if allocated then
    { n with endpoints := n.endpoints ++ [.fresh epid], nEndpoints := n.nEndpoints + 1 }
  else n

/-- What `rd_register_new_node` asks: `is_virtual_node`, `rd_get_node_mode` after
`update_protocol_info`, the memory for the two entries. -/
structure Registration where
  isVirtual : Bool
  entryAllocated : Bool
  nonListening : Bool
  justAdded : Bool
  endpointAllocated : Bool
deriving DecidableEq, Repr

/-- A node that is registered again is interviewed again, unless its interview is under way. -/
def NodeEntry.reprobe (n : NodeEntry) : NodeEntry :=
  if n.state = .failing ∨ n.state = .probeFail ∨ n.state = .done then
    { n with state := .created, endpoints := n.endpoints.map fun ep ↦
      { ep with state := .probeInfo } }
  else n

/-- The entry of a new node, when it could be allocated. -/
def NodeEntry.registered (answers : Registration) : NodeEntry :=
  let n : NodeEntry :=
    if answers.nonListening && !answers.justAdded then { NodeEntry.fresh with state := .probeFail }
    else .fresh
  if answers.endpointAllocated then n.addEndpoint true 0
  else { n with state := .probeFail }

/-- `rd_register_new_node`, up to the start of the interview. An id that is not a node id stops at
the assertion. -/
def registerNewNode (node : UInt16) (answers : Registration) (ndb : Ndb) : Ndb :=
  if answers.isVirtual then ndb
  else if ¬ (Nodemask.IsClassicNode node.toNat ∨ Nodemask.IsLrNode node.toNat) then ndb
  else
    match slotOf node with
    | none => ndb
    | some slot =>
      match ndb slot with
      | some n => update ndb slot (some n.reprobe)
      | none =>
        if answers.entryAllocated then update ndb slot (some (.registered answers)) else ndb

/-- `rd_remove_node`: the entry is freed. -/
def removeNode (node : UInt16) (ndb : Ndb) : Ndb :=
  match slotOf node with
  | none => ndb
  | some slot => update ndb slot none

end ZipGateway.ResourceDirectory
