import ZipGateway.Lib.Scratch
import ZipGateway.ResourceDirectory.References

/-!
# Reports of an interview

The callbacks of `src/src/ResourceDirectory.c` take what a node reports about an endpoint into
blocks from `rd_data_mem_alloc`. The lengths of the blocks have eight bits, and so has the size that
the allocator is asked for. A report has a length of its own, and what is read of it is part of the
result.

The assertion that only the security states ask for secure command classes is taken as compiled out.
-/

set_option autoImplicit false

namespace ZipGateway.ResourceDirectory.Interview

open Lib

/-! ### Blocks and entries -/

/-- A pointer to a block; a null pointer has a block without bytes. -/
structure Pointer where
  isNull : Bool
  block : Scratch
  size_of_isNull : isNull = true → block.size = 0

/-- A null pointer. -/
def null : Pointer := ⟨true, ⟨⟨0, fun _ ↦ 0⟩, fun _ ↦ false, true⟩, fun _ ↦ rfl⟩

/-- Bytes are stored. -/
def Pointer.put (p : Pointer) (offset : ℕ) (bytes : List UInt8) : Pointer :=
  ⟨p.isNull, p.block.put offset bytes, p.size_of_isNull⟩

/-- `rd_data_mem_alloc`; `malloc` gives nothing, or a block with some bytes in it. -/
def rdDataMemAlloc (malloc : UInt8 → Option (ℕ → UInt8)) (size : UInt8) : Pointer :=
  (malloc size).elim null fun bytes ↦
    ⟨false, ⟨⟨size.toNat, bytes⟩, fun _ ↦ false, true⟩, fun hnull ↦ absurd hnull Bool.false_ne_true⟩

/-- A length that a copy or an address is computed with, as it comes out of a subtraction. -/
def sizeT (n : ℤ) : ℕ := (n % 2 ^ 64).toNat

/-- `rd_node_database_entry_t`, as far as the callbacks use it. -/
structure ProbedNode where
  nodeid : UInt16
  mode : UInt32
  nodeType : UInt8
  securityFlags : UInt8
  nodePropertiesFlags : UInt16
  nodeVersionCapAndZwaveSw : UInt8
  probeFlags : UInt16
  nodeIsZwsProbed : UInt8
  /-- `rd_node_cc_versions_set_default` has been called. -/
  ccVersionsDefault : Bool

/-- `rd_ep_database_entry_t`, with its node. -/
structure Endpoint where
  endpointId : UInt8
  state : EpState
  endpointInfo : Pointer
  endpointInfoLen : UInt8
  endpointAgg : Pointer
  endpointAggrLen : UInt8
  node : ProbedNode

/-- What a callback leaves: the entry, which bytes of the report it has read, by their index and
number, and whether it goes on with `rd_ep_probe_update`. -/
structure Parsed where
  ep : Endpoint
  reads : List (ℕ × ℕ)
  updated : Bool

/-- Bytes of a report. -/
def slice (frame : ℕ → UInt8) (start count : ℕ) :
    List UInt8 := (List.range count).map fun i ↦ frame (start + i)

/-! ### Aggregated members -/

def bit8CountLoop : ℕ → UInt8 → ℕ
  | 0, _ => 0
  | fuel + 1, n => if n = 0 then 0 else bit8CountLoop fuel (n &&& (n - 1)) + 1

/-- `bit8_count`. Each round takes one of eight bits away. -/
def bit8Count (n : UInt8) : UInt8 := .ofNat (bit8CountLoop 8 n)

/-- `count_array_bits`. -/
def countArrayBits (a : ℕ → UInt8) (length : UInt8) : UInt8 :=
  (List.range length.toNat).foldl (fun c i ↦ c + bit8Count (a i)) 0

/-- The places that the loop over a mask finds, from `j` on. -/
def maskLoop : ℕ → UInt8 → ℕ → List ℕ
  | 0, _, _ => []
  | fuel + 1, c, j =>
    if c = 0 then [] else (if c &&& 1 = 1 then [j] else []) ++ maskLoop fuel (c >>> 1) (j + 1)

/-- The endpoints that the masks name. -/
def members (a : ℕ → UInt8) (length : UInt8) : List UInt8 :=
  (List.range length.toNat).flatMap fun i ↦ (maskLoop 8 (a i) 0).map fun j ↦ .ofNat (8 * i + j + 1)

/-- `ep->endpoint_agg[ep->endpoint_aggr_len] = member`, and one more. -/
def storeMember (stored : Pointer × UInt8) (member : UInt8) : Pointer × UInt8 :=
  (stored.1.put stored.2.toNat [member], stored.2 + 1)

/-- `rd_ep_aggregated_members_get_callback`. -/
def rdEpAggregatedMembersGetCallback (malloc : UInt8 → Option (ℕ → UInt8)) (complete : Bool)
    (frame : ℕ → UInt8) (ep : Endpoint) : Parsed :=
  if ep.state ≠ .probeAggregatedEndpoints then ⟨ep, [], false⟩
  else if complete then
    let numberOfBitMasks := frame 3
    let masks := fun i ↦ frame (4 + i)
    let stored := (members masks numberOfBitMasks).foldl storeMember
      (rdDataMemAlloc malloc (countArrayBits masks numberOfBitMasks), 0)
    ⟨{ ep with endpointAgg := stored.1, endpointAggrLen := stored.2, state := .probeDone },
      [(3, 1), (4, numberOfBitMasks.toNat)], true⟩
  else ⟨{ ep with state := .probeDone }, [], true⟩

/-! ### Capabilities -/

/-- `rd_ep_capability_get_callback`. -/
def rdEpCapabilityGetCallback (malloc : UInt8 → Option (ℕ → UInt8)) (complete : Bool)
    (frame : ℕ → UInt8) (cmdLength : UInt16) (ep : Endpoint) : Parsed :=
  if complete then
    if ep.endpointId = frame 2 &&& 0x7F then
      let p := rdDataMemAlloc malloc (cmdLength.toUInt8 - 3)
      if p.isNull then
        ⟨{ ep with endpointInfo := p, endpointInfoLen := 0, state := .probeFail }, [(2, 1)], true⟩
      else
        let count := sizeT (cmdLength.toNat - 3)
        ⟨{ ep with
            endpointInfo := p.put 0 (slice frame 3 count)
            endpointInfoLen := cmdLength.toUInt8 - 3
            state := .probeSec2C2Info },
          [(2, 1), (3, count)], true⟩
    else ⟨{ ep with state := .probeFail }, [(2, 1)], true⟩
  else ⟨{ ep with state := .probeFail }, [], true⟩

/-! ### Secure command classes -/

def nodeFlagSecurity0 : UInt8 := 0x01

/-- `NODE_FLAGS_SECURITY2`, of its three flags. -/
def nodeFlagsSecurity2 : UInt8 := 0x10 ||| 0x20 ||| 0x40

def rdNodeFlagJustAdded : UInt16 := 0x02

def rdNodeFlagAddedByMe : UInt16 := 0x04

/-- The flag that a state asks about. -/
def probedFlag : EpState → UInt8
  | .probeSec2C2Info => 0x40
  | .probeSec2C1Info => 0x20
  | .probeSec2C0Info => 0x10
  | .probeSec0Info => nodeFlagSecurity0
  | _ => 0

/-- `ep->state++`; behind the last state there is none. -/
def nextState : EpState → EpState
  | .probeAggregatedEndpoints => .probeInfo
  | .probeInfo => .probeSec2C2Info
  | .probeSec2C2Info => .probeSec2C1Info
  | .probeSec2C1Info => .probeSec2C0Info
  | .probeSec2C0Info => .probeSec0Info
  | .probeSec0Info => .probeZwavePlus
  | .probeZwavePlus => .mdnsProbe
  | .mdnsProbe => .mdnsProbeInProgress
  | .mdnsProbeInProgress => .probeDone
  | .probeDone => .probeFail
  | .probeFail => .probeVersion
  | .probeVersion => .probeVersion

/-- The node itself was added by another controller, and is new. -/
def Endpoint.AddedByOther (ep : Endpoint) : Prop :=
  ep.endpointId = 0 ∧ ep.node.nodePropertiesFlags &&& rdNodeFlagAddedByMe = 0 ∧
    ep.node.nodePropertiesFlags &&& rdNodeFlagJustAdded ≠ 0

instance (ep : Endpoint) : Decidable ep.AddedByOther := inferInstanceAs (Decidable (_ ∧ _))

/-- `header_len`. -/
def headerLen (state : EpState) : ℕ := if state = .probeSec0Info then 3 else 2

/-- The bytes of a report are put behind `endpoint_info`, with a mark in between, in a new block. -/
def Endpoint.extendInfo (malloc : UInt8 → Option (ℕ → UInt8)) (frame : ℕ → UInt8)
    (cmdLength : UInt16) (header : ℕ) (ep : Endpoint) : Endpoint × List (ℕ × ℕ) :=
  let count := cmdLength.toNat - header
  let size := ep.endpointInfoLen + 2 + cmdLength.toUInt8 - .ofNat header
  let p := rdDataMemAlloc malloc size
  if p.isNull then (ep, [])
  else
    let p := if ep.endpointInfo.isNull then p
      else p.put 0 (ep.endpointInfo.block.buffer.load 0 ep.endpointInfoLen.toNat)
    let p := p.put ep.endpointInfoLen.toNat [0xF1, 0x00]
    let p := p.put (ep.endpointInfoLen.toNat + 2) (slice frame header count)
    ({ ep with endpointInfo := p, endpointInfoLen := size }, [(header, count)])

/-- `rd_ep_secure_commands_get_callback`. -/
def rdEpSecureCommandsGetCallback (malloc : UInt8 → Option (ℕ → UInt8)) (complete : Bool)
    (frame : ℕ → UInt8) (cmdLength : UInt16) (ep : Endpoint) : Parsed :=
  let flag := probedFlag ep.state
  let lowered :=
    if ep.AddedByOther then ep.node.securityFlags &&& ~~~flag else ep.node.securityFlags
  let extended :=
    if complete ∧ headerLen ep.state < cmdLength.toNat then
      ep.extendInfo malloc frame cmdLength (headerLen ep.state)
    else (ep, [])
  let securityFlags := if complete ∧ ep.endpointId = 0 then lowered ||| flag else lowered
  let state :=
    if 0 < ep.endpointId ∨ ep.state = .probeSec0Info then .probeVersion else nextState ep.state
  ⟨{ extended.1 with state, node := { ep.node with securityFlags } }, extended.2, true⟩

/-! ### Node information -/

/-- `rd_ep_supports_cmd_class_nonsec`. -/
def Endpoint.supportsCmdClassNonsec (ep : Endpoint) (cls : UInt16) : Prop :=
  ep.endpointInfo.isNull = false ∧ ep.node.mode &&& modeFlagsDeleted = 0 ∧
    scanClasses cls ⟨false, false, 0⟩
      ((ep.endpointInfo.block.buffer.load 0 ep.endpointInfoLen.toNat).drop 2) &&& 1 ≠ 0

instance (ep : Endpoint) (cls : UInt16) : Decidable (ep.supportsCmdClassNonsec cls) :=
  inferInstanceAs (Decidable (_ ∧ _))

/-- The flags of a scheme are taken away when its command class is not supported. -/
def Endpoint.downgrade (cls : UInt16) (flags : UInt8) (ep : Endpoint) : Endpoint :=
  if ep.supportsCmdClassNonsec cls then ep
  else { ep with node := { ep.node with securityFlags := ep.node.securityFlags &&& ~~~flags } }

/-- What is known of the versions of the node itself is forgotten. -/
def Endpoint.forgetVersions (ep : Endpoint) : Endpoint :=
  if ep.endpointId = 0 then
    { ep with
      node := { ep.node with
        ccVersionsDefault := true
        nodeVersionCapAndZwaveSw := 0
        probeFlags := rdNodeProbeNeverStarted
        nodeIsZwsProbed := 0 } }
  else ep

/-- What the new node information says about the security of the node, and that nothing is known of
its versions. -/
def Endpoint.settle (ep : Endpoint) : Endpoint :=
  (if ep.AddedByOther then (ep.downgrade 0x9F nodeFlagsSecurity2).downgrade 0x98 nodeFlagSecurity0
    else ep).forgetVersions

/-- The node information, with the two command classes behind it. -/
def Pointer.putNif (p : Pointer) (nif : ℕ → UInt8) (nifLen : UInt8) : Pointer :=
  ((p.put 0 (slice nif 1 (sizeT (nifLen.toNat - 1)))).put (sizeT (nifLen.toNat - 1)) [0x68]).put
    nifLen.toNat [0x23]

/-- `rd_nif_request_notify`, for the endpoint that `nif_request_ep` points to. -/
def rdNifRequestNotify (malloc : UInt8 → Option (ℕ → UInt8)) (bStatus : UInt8) (bNodeID : UInt16)
    (nif : ℕ → UInt8) (nifLen : UInt8) (ep : Endpoint) : Parsed :=
  if ep.state ≠ .probeInfo then ⟨ep, [], false⟩
  else if bStatus ≠ 0 ∧ ep.node.nodeid = bNodeID then
    let ep := { ep with node := { ep.node with nodeType := nif 0 } }
    let p := rdDataMemAlloc malloc (nifLen + 1)
    if p.isNull then ⟨{ ep with endpointInfo := p, state := .probeFail }, [(0, 1)], true⟩
    else
      let ep := { ep with
        endpointInfo := p.putNif nif nifLen
        endpointInfoLen := nifLen + 1 }.settle
      ⟨{ ep with state := nextState ep.state }, [(0, 1), (1, sizeT (nifLen.toNat - 1))], true⟩
  else ⟨{ ep with state := .probeFail }, [], true⟩

/-! ### Reports that arrive -/

/-- A report that one of the callbacks gets. -/
inductive Report
  | aggregatedMembers (complete : Bool) (frame : ℕ → UInt8) (cmdLength : UInt16)
  | capability (complete : Bool) (frame : ℕ → UInt8) (cmdLength : UInt16)
  | secureCommands (complete : Bool) (frame : ℕ → UInt8) (cmdLength : UInt16)
  | nodeInfo (bStatus : UInt8) (bNodeID : UInt16) (nif : ℕ → UInt8) (nifLen : UInt8)

def Report.length : Report → ℕ
  | aggregatedMembers _ _ cmdLength => cmdLength.toNat
  | capability _ _ cmdLength => cmdLength.toNat
  | secureCommands _ _ cmdLength => cmdLength.toNat
  | nodeInfo _ _ _ nifLen => nifLen.toNat

/-- A report, with the state of the interview and of the node when it arrives, and with what the
allocator does. -/
structure Arrival where
  report : Report
  state : EpState
  node : ProbedNode
  malloc : UInt8 → Option (ℕ → UInt8)

/-- The report is parsed. -/
def parse (ep : Endpoint) (arrival : Arrival) : Parsed :=
  let ep := { ep with state := arrival.state, node := arrival.node }
  match arrival.report with
  | .aggregatedMembers complete frame _ =>
    rdEpAggregatedMembersGetCallback arrival.malloc complete frame ep
  | .capability complete frame cmdLength =>
    rdEpCapabilityGetCallback arrival.malloc complete frame cmdLength ep
  | .secureCommands complete frame cmdLength =>
    rdEpSecureCommandsGetCallback arrival.malloc complete frame cmdLength ep
  | .nodeInfo bStatus bNodeID nif nifLen =>
    rdNifRequestNotify arrival.malloc bStatus bNodeID nif nifLen ep

/-- The entry after a report. -/
def step (ep : Endpoint) (arrival : Arrival) : Endpoint := (parse ep arrival).ep

/-- A block and its length belong together: nothing was stored outside the block, and what was
stored are the first bytes, as many as the length says. -/
structure Holds (p : Pointer) (len : UInt8) : Prop where
  inside : p.block.inside = true
  room : len.toNat ≤ p.block.size
  stored : ∀ i, p.block.written i = true ↔ i < len.toNat

/-- Both blocks of an entry have their lengths. -/
structure Endpoint.Whole (ep : Endpoint) : Prop where
  info : Holds ep.endpointInfo ep.endpointInfoLen
  agg : Holds ep.endpointAgg ep.endpointAggrLen

/-- A report of secure command classes adds to what is known; the others replace it. -/
def Report.Extends : Report → Prop
  | secureCommands .. => True
  | _ => False

/-- A report is parsed without harm: only bytes of it are read, the blocks have their lengths
afterwards, and what was there is kept by a report that extends it. -/
structure Harmless (ep : Endpoint) (arrival : Arrival) : Prop where
  reads : ∀ read ∈ (parse ep arrival).reads, read.1 + read.2 ≤ arrival.report.length
  whole : (step ep arrival).Whole
  keeps : arrival.report.Extends →
    ∀ i < ep.endpointInfoLen.toNat, (step ep arrival).endpointInfo.block.byte i =
      ep.endpointInfo.block.byte i

/-- What a report has to be like. -/
def Fits (ep : Endpoint) (arrival : Arrival) : Prop :=
  match arrival.report with
  | .aggregatedMembers complete frame cmdLength =>
    arrival.state = .probeAggregatedEndpoints → complete = true →
      4 + (frame 3).toNat ≤ cmdLength.toNat ∧
        (members (fun i ↦ frame (4 + i)) (frame 3)).length < 256 ∧
          (arrival.malloc (.ofNat (members (fun i ↦ frame (4 + i)) (frame 3)).length) = none →
            (members (fun i ↦ frame (4 + i)) (frame 3)).length = 0)
  | .capability complete frame cmdLength =>
    complete = true → 3 ≤ cmdLength.toNat ∧
      (ep.endpointId = frame 2 &&& 0x7F → arrival.malloc (cmdLength.toUInt8 - 3) ≠ none →
        cmdLength.toNat ≤ 258)
  | .secureCommands complete _ cmdLength =>
    complete = true → headerLen arrival.state < cmdLength.toNat →
      arrival.malloc
        (ep.endpointInfoLen + 2 + cmdLength.toUInt8 - .ofNat (headerLen arrival.state)) ≠ none →
        ep.endpointInfoLen.toNat + 2 + (cmdLength.toNat - headerLen arrival.state) < 256
  | .nodeInfo bStatus bNodeID _ nifLen =>
    arrival.state = .probeInfo → bStatus ≠ 0 → arrival.node.nodeid = bNodeID →
      1 ≤ nifLen.toNat ∧ (arrival.malloc (nifLen + 1) = none → ep.endpointInfoLen = 0) ∧
        (arrival.malloc (nifLen + 1) ≠ none → nifLen.toNat < 255)

end ZipGateway.ResourceDirectory.Interview
