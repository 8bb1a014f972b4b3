import Mathlib.Data.List.Basic
import Mathlib.Logic.Function.Iterate

/-!
# The class version probe

`src/src/RD_probe_cc_version.c`: when a node has been interviewed, the gateway asks it for the
versions of the command classes in `controlled_cc_v`, one after the other, and, when it has version
3 of the Version class, for its version capabilities and its Z-Wave software. The machine moves by
posting events to itself, `pcv_fsm_post_event`, always as the last thing it does; so a run is a
sequence of steps, and a step is one call of `pcv_fsm_post_event`, with the callback of the request
that it sends.

What becomes of a request is the environment's choice, `Setting.outcome`. `ZW_SendRequest` may
refuse it; else its callback is called once, with a report or without one. The table
`controlled_cc_v` is any list of entries followed by the entry with the class 0xffff.
-/

set_option autoImplicit false

namespace ZipGateway.ProbeCcVersion

/-- `cc_version_pair_t`. -/
structure CcVersionPair where
  commandClass : UInt16
  version : UInt8
deriving DecidableEq, Repr

/-- `controlled_cc_v`: the entries before the entry that ends it. -/
structure Table where
  entries : List CcVersionPair
  before_mark : ∀ entry ∈ entries, entry.commandClass ≠ 0xffff

/-- The entry that ends the table. -/
def endMark : CcVersionPair := ⟨0xffff, 0xff⟩

/-- `controlled_cc_v[idx]`. There is nothing behind the end mark. -/
def Table.read (table : Table) (idx : UInt8) : Option CcVersionPair :=
  (table.entries ++ [endMark])[idx.toNat]?

/-- `rd_node_database_entry_t`, as far as the probe is concerned. A missing `node_cc_versions` is an
empty list; the mode is kept as the flag `MODE_FLAGS_DELETED`. -/
structure Node where
  nodeid : UInt16
  deleted : Bool
  nodeCcVersions : List CcVersionPair
  probeFlags : UInt8
  nodeVersionCapAndZwaveSw : UInt8
  nodeIsZwsProbed : Bool
deriving DecidableEq, Repr

/-- `RD_NODE_FLAG_PROBE_STARTED`. -/
def probeStarted : UInt8 := 1

/-- `RD_NODE_FLAG_PROBE_FAILED`. -/
def probeFailed : UInt8 := 2

/-- `RD_NODE_FLAG_PROBE_HAS_COMPLETED`. -/
def probeHasCompleted : UInt8 := 3

def commandClassVersion : UInt16 := 0x86

def versionVersionV3 : UInt8 := 3

def supported : UInt8 := 5

/-! ### The node -/

/-- `1 << ((bSecureClass << 1) | bControlled)`. -/
def supportBit (secure controlled : Bool) : UInt8 :=
  if secure then if controlled then 8 else 4 else if controlled then 2 else 1

/-- The loop of `rd_ep_class_support` over the bytes that are left of the node information. -/
def classSupportFrom (cls : UInt16) : List UInt8 → Bool → Bool → UInt8 → UInt8
  | [], _, _, result => result
  | [c], secure, controlled, result =>
    if c.toUInt16 ≠ 0xEF ∧ c.toUInt16 = cls then result ||| supportBit secure controlled else result
  | c :: next :: rest, secure, controlled, result =>
    if c &&& 0xF0 = 0xF0 then
      let c := c.toUInt16 <<< 8 ||| next.toUInt16
      if c = 0xF100 then classSupportFrom cls rest true false result
      else if c = cls then
        classSupportFrom cls rest secure controlled (result ||| supportBit secure controlled)
      else classSupportFrom cls rest secure controlled result
    else if c = 0xEF then classSupportFrom cls (next :: rest) secure true result
    else if c.toUInt16 = cls then
      classSupportFrom cls (next :: rest) secure controlled
        (result ||| supportBit secure controlled)
    else classSupportFrom cls (next :: rest) secure controlled result

/-- `rd_ep_class_support`. A missing `endpoint_info` is an empty list. -/
def rdEpClassSupport (n : Node) (endpointInfo : List UInt8) (cls : UInt16) : UInt8 :=
  if n.deleted then 0 else classSupportFrom cls (endpointInfo.drop 2) false false 0

/-- `rd_node_cc_version_get`. -/
def rdNodeCcVersionGet (n : Node) (commandClass : UInt16) : UInt8 :=
  if n.deleted then 0
  else ((n.nodeCcVersions.find? fun pair ↦ pair.commandClass = commandClass).map
    CcVersionPair.version).getD 0

/-- The first pair of a class gets the version. -/
def setVersion (commandClass : UInt16) (version : UInt8) : List CcVersionPair → List CcVersionPair
  | [] => []
  | pair :: rest =>
    if pair.commandClass = commandClass then { pair with version := version } :: rest
    else pair :: setVersion commandClass version rest

/-- `rd_node_cc_version_set`. -/
def rdNodeCcVersionSet (commandClass : UInt16) (version : UInt8) (n : Node) : Node :=
  if n.deleted then n
    else { n with nodeCcVersions := setVersion commandClass version n.nodeCcVersions }

/-! ### The machine -/

/-- `pcv_state_t`. -/
inductive PcvState where
  | idle
  | sendVersionCcGet
  | lastReport
  | checkIfV3
  | sendVersionCapGet
  | sendVersionZwsGet
  | versionProbeDone
deriving DecidableEq, Repr

/-- `pcv_event_t`. -/
inductive PcvEvent where
  | initial
  | start
  | ccProbed
  | ccNotSupport
  | versionCcReportRecv
  | versionCcCallbackFail
  | notLast
  | versionCcDone
  | isV3
  | notV3
  | versionCapReportRecv
  | versionCapCallbackFail
  | capProbed
  | versionZwsReportRecv
  | versionZwsCallbackFail
  | zwsProbed
  | zwsNotSupport
deriving DecidableEq, Repr

/-- The requests of the probe. -/
inductive Request where
  /-- `VERSION_COMMAND_CLASS_GET`, for a class of the table. -/
  | versionCc (commandClass : UInt16)
  | versionCapabilities
  | versionZwaveSoftware
deriving DecidableEq, Repr

/-- What becomes of a request. -/
inductive Outcome where
  /-- `ZW_SendRequest` returns false. -/
  | refused
  /-- The callback is told that the request failed, or that no report has come. -/
  | failed
  /-- The callback is given a report. -/
  | report (pCmd : List UInt8)
deriving DecidableEq, Repr

/-- `requestedCommandClass` of a version report. -/
def reportedClass (pCmd : List UInt8) : UInt8 := pCmd.getD 2 0

/-- `commandClassVersion` of a version report. -/
def reportedVersion (pCmd : List UInt8) : UInt8 := pCmd.getD 3 0

/-- A request succeeds when it is answered; the version of a class must be at least 1, and it must
be the version of this class. -/
def Outcome.succeeds (request : Request) : Outcome → Bool
  | .refused | .failed => false
  | .report pCmd =>
    match request with
    | .versionCc cls => decide (reportedClass pCmd = cls.toUInt8 ∧ 1 ≤ reportedVersion pCmd)
    | .versionCapabilities | .versionZwaveSoftware => true

/-- What comes next. -/
inductive Control where
  /-- `pcv_fsm_post_event` is called. -/
  | post (ev : PcvEvent)
  /-- It has returned, and nothing is under way. -/
  | returned
  /-- The table was read behind its end mark. -/
  | pastEnd
deriving DecidableEq, Repr

/-- The node, `ProbeCCVersionState_t`, what comes next, and what has been done: the requests, newest
first, whether all of them succeeded, and the calls of the callback, with the status and the probe
flags. -/
structure Probe where
  node : Node
  probeCcIdx : UInt8
  state : PcvState
  control : Control
  requests : List Request
  allSucceeded : Bool
  calls : List (UInt8 × UInt8)
deriving DecidableEq, Repr

/-- What a run depends on. The outcomes are numbered in the order of the requests. -/
structure Setting where
  table : Table
  endpointInfo : List UInt8
  outcome : ℕ → Outcome

/-- The state is set and an event is posted. -/
def Probe.post (state : PcvState) (ev : PcvEvent) (s : Probe) : Probe :=
  { s with state := state, control := .post ev }

/-- The probe flags are set. -/
def Probe.flag (flags : UInt8) (s : Probe) :
    Probe := { s with node := { s.node with probeFlags := flags } }

/-- The index moves to the next class. -/
def Probe.advance (s : Probe) : Probe := { s with probeCcIdx := s.probeCcIdx + 1 }

def Probe.callback (status : UInt8) (s : Probe) : Probe :=
  { s with calls := (status, s.node.probeFlags) :: s.calls }

/-- `cc_version_callback`, for the class that was asked for. -/
def ccVersionCallback (cls : UInt16) (pCmd : Option (List UInt8)) (s : Probe) : Probe :=
  match pCmd with
  | some pCmd =>
    if reportedClass pCmd = cls.toUInt8 then
      if 1 ≤ reportedVersion pCmd then
        (Probe.advance
          { s with
            node := rdNodeCcVersionSet cls.toUInt8.toUInt16 (reportedVersion pCmd) s.node }).post
          .lastReport .versionCcReportRecv
      else (s.flag probeFailed).advance.post .lastReport .versionCcCallbackFail
    else (s.flag probeFailed).advance.post .lastReport .versionCcCallbackFail
  | none => (s.flag probeFailed).advance.post .lastReport .versionCcCallbackFail

/-- `version_capabilities_callback`. -/
def versionCapabilitiesCallback (pCmd : Option (List UInt8)) (s : Probe) : Probe :=
  match pCmd with
  | some pCmd =>
    Probe.post .sendVersionZwsGet .versionCapReportRecv
      { s with node := { s.node with nodeVersionCapAndZwaveSw := pCmd.getD 2 0 } }
  | none => (s.flag probeFailed).post .versionProbeDone .versionCapCallbackFail

/-- `version_zwave_software_callback`, which leaves the probe flags alone. -/
def versionZwaveSoftwareCallback (pCmd : Option (List UInt8)) (s : Probe) : Probe :=
  match pCmd with
  | some _ =>
    Probe.post .versionProbeDone .versionZwsReportRecv
      { s with node := { s.node with nodeIsZwsProbed := true } }
  | none => s.post .versionProbeDone .versionZwsCallbackFail

/-- The callback of a request. -/
def Request.answer (pCmd : Option (List UInt8)) : Request → Probe → Probe
  | .versionCc cls => ccVersionCallback cls pCmd
  | .versionCapabilities => versionCapabilitiesCallback pCmd
  | .versionZwaveSoftware => versionZwaveSoftwareCallback pCmd

/-- `ZW_SendRequest`, with the callback when the request is taken. -/
def sendRequest (outcome : Outcome) (request : Request) (s : Probe) : Probe :=
  let s := { s with
    requests := request :: s.requests
    allSucceeded := s.allSucceeded && outcome.succeeds request }
  match outcome with
  | .refused => s.flag probeFailed
  | .failed => request.answer none s
  | .report pCmd => request.answer (some pCmd) s

/-- The three bits of the version capabilities. -/
def zwsSupported (properties : UInt8) : Bool :=
  properties &&& 1 ≠ 0 ∧ properties &&& 2 ≠ 0 ∧ properties &&& 4 ≠ 0

/-- `pcv_fsm_post_event`. -/
def pcvFsmPostEvent (c : Setting) (ev : PcvEvent) (s : Probe) : Probe :=
  match s.state with
  | .idle =>
    if ev = .initial then { s with probeCcIdx := 0 }.post .sendVersionCcGet .start else s
  | .sendVersionCcGet =>
    if ev = .start ∨ ev = .notLast then
      match c.table.read s.probeCcIdx with
      | none => { s with control := .pastEnd }
      | some entry =>
        if rdEpClassSupport s.node c.endpointInfo entry.commandClass &&& supported ≠ 0 then
          if rdNodeCcVersionGet s.node entry.commandClass = 0 then
            sendRequest (c.outcome s.requests.length) (.versionCc entry.commandClass) s
          else s.advance.post .lastReport .ccProbed
        else s.advance.post .lastReport .ccNotSupport
    else s
  | .lastReport =>
    if ev = .versionCcReportRecv ∨ ev = .ccProbed ∨ ev = .ccNotSupport ∨
      ev = .versionCcCallbackFail then
      match c.table.read s.probeCcIdx with
      | none => { s with control := .pastEnd }
      | some entry =>
        if entry.commandClass ≠ 0xffff then s.post .sendVersionCcGet .notLast
        else s.post .checkIfV3 .versionCcDone
    else s
  | .checkIfV3 =>
    if ev = .versionCcDone then
      if rdNodeCcVersionGet s.node commandClassVersion = versionVersionV3 then
        s.post .sendVersionCapGet .isV3
      else s.post .versionProbeDone .notV3
    else s
  | .sendVersionCapGet =>
    if ev = .isV3 then
      if s.node.nodeVersionCapAndZwaveSw = 0 then
        sendRequest (c.outcome s.requests.length) .versionCapabilities s
      else s.post .sendVersionZwsGet .capProbed
    else s
  | .sendVersionZwsGet =>
    if ev = .versionCapReportRecv ∨ ev = .capProbed then
      if zwsSupported s.node.nodeVersionCapAndZwaveSw then
        if s.node.nodeIsZwsProbed = false then
          sendRequest (c.outcome s.requests.length) .versionZwaveSoftware s
        else s.post .versionProbeDone .zwsProbed
      else s.post .versionProbeDone .zwsNotSupport
    else s
  | .versionProbeDone =>
    if ev = .zwsNotSupport ∨ ev = .versionZwsReportRecv ∨ ev = .notV3 ∨
        ev = .versionZwsCallbackFail ∨ ev = .versionCapCallbackFail ∨ ev = .zwsProbed then
      if s.node.probeFlags = probeFailed then s.callback 1
      else (s.flag probeHasCompleted).callback 0
    else s

/-- A step: the posted event is handled. -/
def step (c : Setting) (s : Probe) : Probe :=
  match s.control with
  | .post ev => pcvFsmPostEvent c ev { s with control := .returned }
  | .returned | .pastEnd => s

/-- `rd_ep_probe_cc_version`. -/
def rdEpProbeCcVersion (myNodeId : UInt16) (n : Node) : Probe :=
  if n.nodeid = myNodeId then
    Probe.callback 0 ⟨n, 0, .idle, .returned, [], true, []⟩
  else ⟨{ n with probeFlags := probeStarted }, 0, .idle, .post .initial, [], true, []⟩

/-- The probe after some steps. -/
def probeAfter (c : Setting) (myNodeId : UInt16) (n : Node) (steps : ℕ) : Probe :=
  (step c)^[steps] (rdEpProbeCcVersion myNodeId n)

end ZipGateway.ProbeCcVersion
