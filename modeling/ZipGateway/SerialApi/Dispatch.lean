import ZipGateway.Nodemask
import ZipGateway.SerialApi.SendBuffers

/-!
# What the serial API does with a request

`Dispatch` in `src/src/serialapi/Serialapi.c` gets a frame of the Z-Wave module and calls what has
been registered for it. Where a frame has a command of its own inside, this is copied to `pCmd` and
handed on with its length. The memory in which the frame stands goes on behind it, and in front of
it.

The assertion that there are no promiscuous frames under Long Range is taken as compiled out.
-/

set_option autoImplicit false

namespace ZipGateway.SerialApi.Dispatch

open Lib

/-! ### Calls -/

/-- The registered functions: those of `struct SerialAPI_Callbacks`, and the `cbFunc` variables. -/
inductive Callback
  | applicationControllerUpdate
  | applicationCommandHandler
  | applicationCommandHandlerBridge
  | serialAPIStarted
  | zwSendNodeInformation
  | zwSendData
  | zwSendDataBridge
  | zwSendTestFrame
  | zwSendDataMultiBridge
  | memoryPutBuffer
  | zwSetDefault
  | zwControllerChange
  | zwNewController
  | removeNodeFromNetwork
  | addNodeToNetwork
  | zwReplicationSendData
  | zwAssignReturnRoute
  | zwDeleteReturnRoute
  | zwAssignSUCReturnRoute
  | zwSendSUCID
  | zwDeleteSUCReturnRoute
  | zwSetLearnMode
  | zwSetSlaveLearnMode
  | zwSetSUCNodeID
  | zwRequestNodeNodeNeighborUpdate
  | zwRequestNetworkUpdate
  | zwRemoveFailedNode
  | zwReplaceFailedNode
deriving DecidableEq, Repr

structure TxStatusType where
  wTransmitTicks : UInt16
  bRepeaters : UInt8
  incoming : List UInt8
  bACKChannelNo : UInt8
  bLastTxChannelNo : UInt8
  bRouteSchemeState : UInt8
  pLastUsedRoute : List UInt8
  bRouteTries : UInt8
  lastFailedFrom : UInt8
  lastFailedTo : UInt8
  bUsedTxpower : UInt8
  bMeasuredNoiseFloor : UInt8
  bAckDestinationUsedTxPower : UInt8
  bDestinationAckMeasuredRSSI : UInt8
  bDestinationckMeasuredNoiseFloor : UInt8
deriving DecidableEq, Repr

/-- `LEARN_INFO`; there is no `pCmd` when it is a null pointer. -/
structure LearnInfo where
  bStatus : UInt8
  bSource : UInt16
  pCmd : Option (List UInt8)
  bLen : UInt8
deriving DecidableEq, Repr

/-- A call with its arguments, or a command to the module that `Dispatch` gives itself. Where `pCmd`
is handed on, the call has as many of its bytes as the length says. -/
inductive Call
  | applicationControllerUpdate (bStatus : UInt8) (bNodeID : UInt16) (pCmd : List UInt8)
      (bLen : UInt8) (homeId : Option (List UInt8))
  | applicationCommandHandler (rxStatus : UInt8) (destNode sourceNode : UInt16) (pCmd : List UInt8)
    (cmdLength : UInt8)
  | applicationCommandHandlerBridge (rxStatus : UInt8) (destNode sourceNode : UInt16)
      (pCmd : List UInt8) (cmdLength : UInt8)
  | serialAPIStarted (pData : List UInt8) (pLen : UInt8)
  | plain (callback : Callback)
  | ofStatus (callback : Callback) (bStatus : UInt8)
  | ofTxStatus (callback : Callback) (txStatus : UInt8) (report : Option TxStatusType)
  | ofLearnInfo (callback : Callback) (info : LearnInfo)
  | ofNodes (callback : Callback) (bStatus : UInt8) (orgID newID : UInt16)
  | memoryGetId
  | enableLR
  | watchdogStart
deriving DecidableEq, Repr

/-- The bytes that a call hands on, with the length that it names. -/
def Call.command : Call → List UInt8 × UInt8
  | applicationControllerUpdate _ _ pCmd bLen _ => (pCmd, bLen)
  | applicationCommandHandler _ _ _ pCmd cmdLength => (pCmd, cmdLength)
  | applicationCommandHandlerBridge _ _ _ pCmd cmdLength => (pCmd, cmdLength)
  | serialAPIStarted pData pLen => (pData, pLen)
  | ofLearnInfo _ info => (info.pCmd.getD [], info.bLen)
  | _ => ([], 0)

/-- The variables of the module that `Dispatch` looks at. -/
structure Module where
  /-- Which of the functions are registered. -/
  isSet : Callback → Bool
  lrEnabled : Bool
  byLen : UInt8
  pCmd : ℕ → UInt8
  /-- What `is_nodeid_basetype_8` finds when it asks. -/
  isNodeidBasetype8 : Bool
  /-- `ZW_GECKO_CHIP_TYPE` of the chip. -/
  isGecko : Bool
  /-- What stands on the stack where `txStatusReport` is. -/
  stack : TxStatusType

/-- What `Dispatch` leaves: its calls in their order, the command buffer, and the variables that it
sets itself. -/
structure Outcome where
  calls : List Call
  pCmd : Scratch
  isSet : Callback → Bool
  lrEnabled : Bool

/-- No call. -/
def Module.quiet (m : Module) : Outcome :=
  ⟨[], ⟨⟨bufSize, m.pCmd⟩, fun _ ↦ false, true⟩, m.isSet, m.lrEnabled⟩

/-! ### Parts of a frame -/

def idxType : ℤ := 1

def idxCmd : ℤ := 2

/-- Bytes from an index on. -/
def slice (pData : ℤ → UInt8) (start : ℤ) (count : ℕ) : List UInt8 :=
  (List.range count).map fun i : ℕ ↦ pData (start + i)

/-- How many bytes a node id has. -/
def Module.width (m : Module) : ℤ := if m.lrEnabled then 2 else 1

def Module.nodeId (m : Module) (pData : ℤ → UInt8) (i : ℤ) : UInt16 :=
  if m.lrEnabled then (pData i).toUInt16 <<< 8 ||| (pData (i + 1)).toUInt16 else (pData i).toUInt16

/-- `length` bytes are copied to `pCmd`, and handed on. -/
def Module.passing (m : Module) (pData : ℤ → UInt8) (start : ℤ) (length : UInt8)
    (before : List Call) (call : List UInt8 → Call) : Outcome :=
  let pCmd := m.quiet.pCmd.put 0 (slice pData start length.toNat)
  { m.quiet with calls := before ++ [call (pCmd.buffer.load 0 length.toNat)], pCmd }

/-- `DetectBufferOverflow`. -/
def DetectBufferOverflow (len : UInt8) : Prop := bufSize < len.toNat

instance (len : UInt8) : Decidable (DetectBufferOverflow len) := inferInstanceAs (Decidable (_ < _))

/-- Bytes with a length in front are handed on when they fit in `pCmd` and in the frame. -/
def Module.checked (m : Module) (pData : ℤ → UInt8) (len start : ℤ) (length : UInt8)
    (before : List Call) (call : List UInt8 → Call) : Outcome :=
  if DetectBufferOverflow length ∨ len < start + length.toNat then { m.quiet with calls := before }
  else m.passing pData start length before call

/-! ### The branches -/

/-- `UPDATE_STATE_NODE_INFO_FOREIGN_HOMEID_RECEIVED` and
`UPDATE_STATE_NODE_INFO_SMARTSTART_HOMEID_RECEIVED_LR`. -/
def IsHomeIdUpdate (bStatus : UInt8) : Prop := bStatus = 0x85 ∨ bStatus = 0x87

instance (bStatus : UInt8) : Decidable (IsHomeIdUpdate bStatus) :=
  inferInstanceAs (Decidable (_ ∨ _))

/-- Where the node information of such an update begins. -/
def Module.nifStart (m : Module) : ℤ := idxData + 1 + (m.width + 1) + 4 + 1

/-- Its length, in a byte. -/
def Module.nifLength (m : Module) (pData : ℤ → UInt8) : UInt8 := 3 + pData (m.nifStart - 1)

def Module.homeIdUpdate (m : Module) (pData : ℤ → UInt8) (len : ℤ) : Outcome :=
  if len < idxCmd + 8 then m.quiet
  else if len < m.nifStart + (m.nifLength pData).toNat then m.quiet
  else
    m.passing pData m.nifStart (m.nifLength pData) [] fun pCmd ↦
      .applicationControllerUpdate (pData idxData) (m.nodeId pData (idxData + 1)) pCmd
        (m.nifLength pData) (some (slice pData (idxData + 1 + (m.width + 1)) 4))

/-- An update with `UPDATE_STATE_INCLUDED_NODE_INFO_RECEIVED`. -/
def Module.includedUpdate (m : Module) (pData : ℤ → UInt8) (len : ℤ) : Outcome :=
  let j := idxData + 2 + m.width
  if len < j + 5 then m.quiet
  else
    m.passing pData j 5 [] fun pCmd ↦
      .applicationControllerUpdate (pData idxData) (m.nodeId pData (idxData + 2)) pCmd 5 none

/-- Any other update. -/
def Module.nodeInfoUpdate (m : Module) (pData : ℤ → UInt8) (len : ℤ) : Outcome :=
  if len < idxCmd + (m.width + 1) then m.quiet
  else
    let bLen := pData (idxData + (1 + m.width))
    m.checked pData len (idxData + (1 + m.width) + 1) bLen [] fun pCmd ↦
      .applicationControllerUpdate (pData idxData) (m.nodeId pData (idxData + 1)) pCmd bLen none

/-- `FUNC_ID_ZW_APPLICATION_CONTROLLER_UPDATE`. -/
def Module.controllerUpdate (m : Module) (pData : ℤ → UInt8) (len : ℤ) : Outcome :=
  if ¬ m.isSet .applicationControllerUpdate then m.quiet
  else if IsHomeIdUpdate (pData idxData) then m.homeIdUpdate pData len
  else if pData idxData = 0x86 then m.includedUpdate pData len
  else m.nodeInfoUpdate pData len

/-- `nodemask_nodeid_is_invalid`. -/
def NodeidIsInvalid (node : UInt16) : Prop :=
  ¬ Nodemask.IsClassicNode node.toNat ∧ ¬ Nodemask.IsLrNode node.toNat

instance (node : UInt16) : Decidable (NodeidIsInvalid node) := inferInstanceAs (Decidable (_ ∧ _))

/-- What is done about an invalid node id: the module is asked, and may be set to the long ones. -/
def Module.settleNodeId (m : Module) (sourceNode : UInt16) : List Call :=
  if NodeidIsInvalid sourceNode then
    .memoryGetId :: if m.isNodeidBasetype8 ∧ m.lrEnabled then [.enableLR] else []
  else []

/-- `FUNC_ID_APPLICATION_COMMAND_HANDLER`. -/
def Module.commandHandler (m : Module) (pData : ℤ → UInt8) (len : ℤ) : Outcome :=
  if ¬ m.isSet .applicationCommandHandler then m.quiet
  else if len ≤ idxData + (m.width + 1) then m.quiet
  else
    let sourceNode := m.nodeId pData (idxData + 1)
    let length := pData (idxData + (1 + m.width))
    m.checked pData len (idxData + (1 + m.width) + 1) length (m.settleNodeId sourceNode) fun pCmd ↦
      .applicationCommandHandler (pData idxData) 0 sourceNode pCmd length

/-- `FUNC_ID_PROMISCUOUS_APPLICATION_COMMAND_HANDLER`. -/
def Module.promiscuousCommandHandler (m : Module) (pData : ℤ → UInt8) (len : ℤ) : Outcome :=
  if ¬ m.isSet .applicationCommandHandler then m.quiet
  else
    let length := pData (idxData + 2)
    m.checked pData len (idxData + 2 + 1) length [] fun pCmd ↦
      .applicationCommandHandler (pData idxData) (pData ((m.byLen.toNat : ℤ) - 1)).toUInt16
        (pData (idxData + 1)).toUInt16 pCmd length

/-- `FUNC_ID_APPLICATION_COMMAND_HANDLER_BRIDGE`. -/
def Module.commandHandlerBridge (m : Module) (pData : ℤ → UInt8) (len : ℤ) : Outcome :=
  if ¬ m.isSet .applicationCommandHandlerBridge then m.quiet
  else if len ≤ idxData + (2 * m.width + 1) then m.quiet
  else
    let destNode := m.nodeId pData (idxData + 1)
    let sourceNode := m.nodeId pData (idxData + (1 + m.width))
    let length := pData (idxData + (1 + m.width + m.width))
    m.checked pData len (idxData + (1 + m.width + m.width) + 1) length [] fun pCmd ↦
      .applicationCommandHandlerBridge (pData idxData) destNode sourceNode pCmd length

/-- A callback that is given the status behind the function id. -/
def Module.statusCallback (m : Module) (callback : Callback) (call : UInt8 → Call)
    (pData : ℤ → UInt8) : Outcome :=
  if m.isSet callback then { m.quiet with calls := [call (pData (idxData + 1))] } else m.quiet

/-- A callback without arguments. -/
def Module.plainCallback (m : Module) (callback : Callback) : Outcome :=
  if m.isSet callback then { m.quiet with calls := [.plain callback] } else m.quiet

/-- The callback is cleared. -/
def Outcome.clear (outcome : Outcome) (callback : Callback) : Outcome :=
  { outcome with isSet := fun other ↦ outcome.isSet other && other != callback }

/-- The report behind the status; a short one leaves the last fields as they are on the stack. -/
def Module.txStatusReport (m : Module) (pData : ℤ → UInt8) (len : ℤ) : TxStatusType :=
  let report := { m.stack with
    wTransmitTicks := (pData 5).toUInt16 <<< 8 ||| (pData 6).toUInt16
    bRepeaters := pData 7
    incoming := slice pData 8 5
    bACKChannelNo := pData 13
    bLastTxChannelNo := pData 14
    bRouteSchemeState := pData 15
    pLastUsedRoute := slice pData 16 5
    bRouteTries := pData 21
    lastFailedFrom := pData 22
    lastFailedTo := pData 23 }
  if 29 ≤ len then
    { report with
      bUsedTxpower := pData 24
      bMeasuredNoiseFloor := pData 25
      bAckDestinationUsedTxPower := pData 26
      bDestinationAckMeasuredRSSI := pData 27
      bDestinationckMeasuredNoiseFloor := pData 28 }
  else report

/-- `FUNC_ID_ZW_SEND_DATA` and `FUNC_ID_ZW_SEND_DATA_BRIDGE`. -/
def Module.sendDone (m : Module) (callback : Callback) (pData : ℤ → UInt8) (len : ℤ) : Outcome :=
  (m.statusCallback callback (fun txStatus ↦
    .ofTxStatus callback txStatus (if 24 ≤ len then some (m.txStatusReport pData len) else none))
      pData).clear callback

/-- `ADD_NODE_STATUS_ADDING_END_NODE` and `ADD_NODE_STATUS_ADDING_CONTROLLER`. -/
def IsAdding (bStatus : UInt8) : Prop := bStatus = 3 ∨ bStatus = 4

instance (bStatus : UInt8) : Decidable (IsAdding bStatus) := inferInstanceAs (Decidable (_ ∨ _))

/-- The four requests that add and remove nodes. -/
def Module.learnInfo (m : Module) (callback : Callback) (pData : ℤ → UInt8) (len : ℤ) : Outcome :=
  if ¬ m.isSet callback then m.quiet
  else
    let bStatus := pData (idxData + 1)
    if IsAdding bStatus then
      if len ≤ idxData + (2 * m.width + 1) then m.quiet
      else
        let bSource := m.nodeId pData (idxData + 2)
        let bLen := pData (idxData + (2 + m.width))
        m.checked pData len (idxData + (2 + m.width) + 1) bLen [] fun pCmd ↦
          .ofLearnInfo callback ⟨bStatus, bSource, some pCmd, bLen⟩
    else { m.quiet with calls := [.ofLearnInfo callback ⟨bStatus, 0, none, 0⟩] }

/-- `FUNC_ID_ZW_SET_LEARN_MODE`. -/
def Module.setLearnMode (m : Module) (pData : ℤ → UInt8) (len : ℤ) : Outcome :=
  if ¬ m.isSet .zwSetLearnMode then m.quiet
  else if len ≤ idxData + (m.width + 2) then m.quiet
  else
    let bSource := m.nodeId pData (idxData + 2)
    let bLen := pData (idxData + (2 + m.width))
    m.checked pData len (idxData + (2 + m.width) + 1) bLen [] fun pCmd ↦
      .ofLearnInfo .zwSetLearnMode ⟨pData (idxData + 1), bSource, some pCmd, bLen⟩

/-- `FUNC_ID_ZW_SET_SLAVE_LEARN_MODE`. -/
def Module.setSlaveLearnMode (m : Module) (pData : ℤ → UInt8) : Outcome :=
  if m.isSet .zwSetSlaveLearnMode then
    { m.quiet with
      calls := [.ofNodes .zwSetSlaveLearnMode (pData (idxData + 1)) (pData (idxData + 2)).toUInt16
        (pData (idxData + 3)).toUInt16] }
  else m.quiet

/-- `FUNC_ID_SERIALAPI_STARTED`. -/
def Module.started (m : Module) (pData : ℤ → UInt8) (len : ℤ) : Outcome :=
  let length := pData (idxData + 2)
  let outcome :=
    if ¬ m.isSet .serialAPIStarted ∨ len ≤ idxData + 2 then m.quiet
    else m.checked pData len (idxData + 2 + 1) length [] fun pCmd ↦ .serialAPIStarted pCmd length
  { outcome with
    calls := outcome.calls ++ if m.isGecko then [.watchdogStart] else []
    lrEnabled := false }

/-! ### The switch -/

/-- The function ids that `Dispatch` knows. -/
inductive FuncId
  | zwApplicationControllerUpdate
  | applicationCommandHandler
  | promiscuousApplicationCommandHandler
  | applicationCommandHandlerBridge
  | zwSendNodeInformation
  | zwSendDataBridge
  | zwSendData
  | zwSendTestFrame
  | zwSendDataMultiBridge
  | memoryPutBuffer
  | zwSetDefault
  | zwControllerChange
  | zwCreateNewPrimary
  | zwRemoveNodeFromNetwork
  | zwAddNodeToNetwork
  | zwReplicationSendData
  | zwAssignReturnRoute
  | zwDeleteReturnRoute
  | zwAssignSucReturnRoute
  | zwSendSucId
  | zwDeleteSucReturnRoute
  | zwSetLearnMode
  | zwSetSlaveLearnMode
  | zwSetSucNodeId
  | zwRequestNodeNeighborUpdate
  | zwRequestNetworkUpdate
  | zwRemoveFailedNodeId
  | zwReplaceFailedNode
  | serialapiStarted
deriving DecidableEq, Repr

def FuncId.ofByte : UInt8 → Option FuncId
  | 0x49 => some zwApplicationControllerUpdate
  | 0x04 => some applicationCommandHandler
  | 0xD1 => some promiscuousApplicationCommandHandler
  | 0xA8 => some applicationCommandHandlerBridge
  | 0x12 => some zwSendNodeInformation
  | 0xA9 => some zwSendDataBridge
  | 0x13 => some zwSendData
  | 0xBE => some zwSendTestFrame
  | 0xAB => some zwSendDataMultiBridge
  | 0x24 => some memoryPutBuffer
  | 0x42 => some zwSetDefault
  | 0x4D => some zwControllerChange
  | 0x4C => some zwCreateNewPrimary
  | 0x4B => some zwRemoveNodeFromNetwork
  | 0x4A => some zwAddNodeToNetwork
  | 0x45 => some zwReplicationSendData
  | 0x46 => some zwAssignReturnRoute
  | 0x47 => some zwDeleteReturnRoute
  | 0x51 => some zwAssignSucReturnRoute
  | 0x57 => some zwSendSucId
  | 0x55 => some zwDeleteSucReturnRoute
  | 0x50 => some zwSetLearnMode
  | 0xA4 => some zwSetSlaveLearnMode
  | 0x54 => some zwSetSucNodeId
  | 0x48 => some zwRequestNodeNeighborUpdate
  | 0x53 => some zwRequestNetworkUpdate
  | 0x61 => some zwRemoveFailedNodeId
  | 0x63 => some zwReplaceFailedNode
  | 0x0A => some serialapiStarted
  | _ => none

/-- A branch of the switch. -/
def Module.handle (m : Module) (pData : ℤ → UInt8) (len : ℤ) : FuncId → Outcome
  | .zwApplicationControllerUpdate => m.controllerUpdate pData len
  | .applicationCommandHandler => m.commandHandler pData len
  | .promiscuousApplicationCommandHandler => m.promiscuousCommandHandler pData len
  | .applicationCommandHandlerBridge => m.commandHandlerBridge pData len
  | .zwSendNodeInformation =>
    m.statusCallback .zwSendNodeInformation (.ofStatus .zwSendNodeInformation) pData
  | .zwSendDataBridge => m.sendDone .zwSendDataBridge pData len
  | .zwSendData => m.sendDone .zwSendData pData len
  | .zwSendTestFrame =>
    (m.statusCallback .zwSendTestFrame (.ofStatus .zwSendTestFrame) pData).clear .zwSendTestFrame
  | .zwSendDataMultiBridge =>
    m.statusCallback .zwSendDataMultiBridge (.ofStatus .zwSendDataMultiBridge) pData
  | .memoryPutBuffer => m.plainCallback .memoryPutBuffer
  | .zwSetDefault => m.plainCallback .zwSetDefault
  | .zwControllerChange => m.learnInfo .zwControllerChange pData len
  | .zwCreateNewPrimary => m.learnInfo .zwNewController pData len
  | .zwRemoveNodeFromNetwork => m.learnInfo .removeNodeFromNetwork pData len
  | .zwAddNodeToNetwork => m.learnInfo .addNodeToNetwork pData len
  | .zwReplicationSendData =>
    m.statusCallback .zwReplicationSendData (.ofStatus .zwReplicationSendData) pData
  | .zwAssignReturnRoute =>
    m.statusCallback .zwAssignReturnRoute (.ofStatus .zwAssignReturnRoute) pData
  | .zwDeleteReturnRoute =>
    m.statusCallback .zwDeleteReturnRoute (.ofStatus .zwDeleteReturnRoute) pData
  | .zwAssignSucReturnRoute =>
    m.statusCallback .zwAssignSUCReturnRoute (.ofStatus .zwAssignSUCReturnRoute) pData
  | .zwSendSucId =>
    m.statusCallback .zwSendSUCID (fun txStatus ↦ .ofTxStatus .zwSendSUCID txStatus none) pData
  | .zwDeleteSucReturnRoute =>
    m.statusCallback .zwDeleteSUCReturnRoute (.ofStatus .zwDeleteSUCReturnRoute) pData
  | .zwSetLearnMode => m.setLearnMode pData len
  | .zwSetSlaveLearnMode => m.setSlaveLearnMode pData
  | .zwSetSucNodeId => m.statusCallback .zwSetSUCNodeID (.ofStatus .zwSetSUCNodeID) pData
  | .zwRequestNodeNeighborUpdate =>
    m.statusCallback .zwRequestNodeNodeNeighborUpdate
      (.ofStatus .zwRequestNodeNodeNeighborUpdate) pData
  | .zwRequestNetworkUpdate =>
    m.statusCallback .zwRequestNetworkUpdate (.ofStatus .zwRequestNetworkUpdate) pData
  | .zwRemoveFailedNodeId =>
    m.statusCallback .zwRemoveFailedNode (.ofStatus .zwRemoveFailedNode) pData
  | .zwReplaceFailedNode =>
    m.statusCallback .zwReplaceFailedNode (.ofStatus .zwReplaceFailedNode) pData
  | .serialapiStarted => m.started pData len

/-- `Dispatch`. -/
def dispatch (m : Module) (pData : ℤ → UInt8) (len : UInt16) : Outcome :=
  if len.toNat ≤ idxData then m.quiet
  else if pData idxType = 1 then m.quiet
  else
    match FuncId.ofByte (pData idxCmd) with
    | none => m.quiet
    | some funcId => m.handle pData len.toNat funcId

end ZipGateway.SerialApi.Dispatch
