import ZipGateway.TempAssoc.Model
import ZipGateway.TransmitStatus

/-!
# Packets for classic nodes

The model of what `src/src/ClassicZIPNode.c` and `src/src/Bridge_ip_assoc.c` do with a packet for a
Z-Wave node before it is sent on: the checks of its headers, the commands that the gateway answers
itself (naming, version, IP associations, each of them also inside a Supervision Get), and the IP
association through which it is forwarded.

A frame of `ZW_SendDataAppl`, a reply of `ZW_SendDataZIP` or a request to the Serial API that has
not ended is an `Operation` in `pending`, with the callback it was given. The answers of the modules
around are an argument (`Answers`). `log` records under which `cause` each completion function was
called; no function reads them. The content of the frames that are sent is not modelled, apart from
the flags of the Z/IP acknowledgements.
-/

set_option autoImplicit false

namespace ZipGateway.ClassicZipNode

open Lib Contiki TempAssoc

/-! ### Constants -/

abbrev maxIpAssociations : ℕ := 200

/-- `sizeof(classic_txBuf)`, that is `UIP_BUFSIZE - UIP_IPUDPH_LEN`. -/
def classicTxBufSize : ℕ := 1544 - 48

def zipHeaderSize : ℕ := 7

def commandClassZip : UInt8 := 0x23

def commandClassIpAssociation : UInt8 := 0x5C

def commandClassZipNaming : UInt8 := 0x68

def commandClassSupervision : UInt8 := 0x6C

def commandClassVersion : UInt8 := 0x86

def commandClassMultiChannelV2 : UInt8 := 0x60

def commandClassAssociationV2 : UInt8 := 0x85

def commandClassMultiChannelAssociationV2 : UInt8 := 0x8E

/-- `ASSOCIATION_SET`, `ASSOCIATION_GET` and `ASSOCIATION_REMOVE`. -/
def associationSet : UInt8 := 0x01

@[inherit_doc associationSet]
def associationGet : UInt8 := 0x02

@[inherit_doc associationSet]
def associationRemove : UInt8 := 0x04

def versionCommandClassGet : UInt8 := 0x13

def supervisionGet : UInt8 := 0x01

/-- `ZIP_PACKET_FLAGS0_ACK_REQ`. -/
def flags0AckReq : UInt8 := 0x80

/-- `ZIP_PACKET_FLAGS0_ACK_RES`. -/
def flags0AckRes : UInt8 := 0x40

/-- `ZIP_PACKET_FLAGS0_NACK_RES`. -/
def flags0NackRes : UInt8 := 0x20

/-- `ZIP_PACKET_FLAGS0_NACK_WAIT`. -/
def flags0NackWait : UInt8 := 0x10

/-- `ZIP_PACKET_FLAGS1_HDR_EXT_INCL`. -/
def flags1HdrExtIncl : UInt8 := 0x80

/-- `ZIP_PACKET_FLAGS1_ZW_CMD_INCL`. -/
def flags1ZwCmdIncl : UInt8 := 0x40

/-- `ZIP_PACKET_FLAGS1_SECURE_ORIGIN`. -/
def flags1SecureOrigin : UInt8 := 0x10

/-! ### Packets, associations and the state -/

/-- A packet in `uip_buf`. The ports are in network byte order. -/
structure Packet where
  destIp : BitVec 128
  /-- `destipaddr.u16[4]`. -/
  destMagic : UInt16
  srcIp : BitVec 128
  proto : UInt8
  icmpType : UInt8
  srcPort : UInt16
  destPort : UInt16
  /-- `uip_buf[UIP_LLH_LEN+3] == FLOW_FROM_TUNNEL`. -/
  fromTunnel : Bool
  /-- The buffer from the UDP payload on. It goes on behind the end of the packet. -/
  buffer : List UInt8
  /-- `uip_len` without the IPv6 header. -/
  length : ℕ

/-- A byte of the buffer from the UDP payload on. -/
def Packet.byte (p : Packet) (i : ℕ) : UInt8 := p.buffer.getD i 0

/-- The source and the destination endpoint of the Z/IP header. -/
def Packet.sEndpoint (p : Packet) : UInt8 := p.byte 5

@[inherit_doc Packet.sEndpoint]
def Packet.dEndpoint (p : Packet) : UInt8 := p.byte 6

/-- `ip_assoc_type_t`; `unset` is the value after `memset`. -/
inductive IpAssocType
  | unset
  | permanent
  | local_
  | proxy
deriving DecidableEq, Repr

/-- `ip_association_t`. -/
structure IpAssociation where
  virtualId : UInt16
  type : IpAssocType
  resourceIp : BitVec 128
  resourceEndpoint : UInt8
  resourcePort : UInt16
  virtualEndpoint : UInt8
  grouping : UInt8
  hanNodeid : UInt16
  hanEndpoint : UInt8
  wasDtls : Bool
  markRemoval : Bool
deriving DecidableEq

/-- An association after `memset`. -/
def IpAssociation.zero : IpAssociation := ⟨0, .unset, 0, 0, 0, 0, 0, 0, 0, false, false⟩

/-- `ZW_COMMAND_IP_ASSOCIATION_SET`, and `ZW_COMMAND_IP_ASSOCIATION_REMOVE`, which has the same
fields. -/
structure IpAssociationCommand where
  groupingIdentifier : UInt8
  resourceIP : BitVec 128
  endpoint : UInt8

/-- The address in 16 bytes. -/
def ipOfBytes (bytes : List UInt8) : BitVec 128 :=
  bytes.foldl (fun ip byte ↦ ip <<< 8 ||| (byte.toBitVec.setWidth 128)) 0

/-- The command that starts at `payload`. -/
def IpAssociationCommand.ofPayload (payload : List UInt8) : IpAssociationCommand :=
  ⟨payload.getD 2 0, ipOfBytes ((List.range 16).map fun i ↦ payload.getD (3 + i) 0),
    payload.getD 19 0⟩

/-- The callbacks that are given to operations. -/
inductive Callback
  /-- `ClassicZIPNode_CallSendCompleted_cb`. -/
  | callSendCompleted
  /-- `report_send_complete_callback_wrapper`. -/
  | reportSendComplete
  /-- `NOP_Callback`. -/
  | nop
  /-- `send_using_temp_assoc_callback`. -/
  | sendUsingTempAssoc
  /-- `forward_to_ip_assoc_proxy_callback`. -/
  | forwardToIpAssocProxy
  /-- `send_ip_association_cmd_callback`. -/
  | sendIpAssociationCmd (a : Fin maxIpAssociations)
  /-- `ip_assoc_remove_callback`. -/
  | ipAssocRemove (a : Fin maxIpAssociations)
  /-- `assign_return_route_callback`. -/
  | assignReturnRoute
  /-- `ip_assoc_virtual_add_callback`. -/
  | ipAssocVirtualAdd
  /-- `ip_assoc_continue_with_next_marked_for_removal`. -/
  | continueRemoval
deriving DecidableEq

/-- An operation that has not ended, and the ticket for which it was started. -/
structure Operation where
  callback : Callback
  ticket : Option ℕ
deriving DecidableEq

/-- What was done. -/
inductive Event
  /-- The completion function of a ticket is called, in a step that is taken for `cause`. -/
  | completed (ticket : ℕ) (cause : Option ℕ) (status : UInt8)
  /-- The call with the ticket returned. -/
  | returned (ticket : ℕ) (result : Bool)
deriving DecidableEq

/-- `ip_assoc_create_complete_cb`. -/
inductive CreateCallback
  | permanent
  | proxy
deriving DecidableEq

/-- `ip_assoc_virtual_add_callback_state`, in use. -/
structure VirtualAdd where
  cmd : IpAssociationCommand
  type : IpAssocType
  wasDtls : Bool

/-- The variables of both modules, with the operations and the log. -/
structure State where
  /-- `backup_len`. -/
  backupLen : ℕ
  /-- `backup_buf`. -/
  backup : Option Packet
  /-- `cbCompletedFunc`. -/
  completedFunc : Option ℕ
  /-- `__fromMailbox`. -/
  fromMailbox : Bool
  /-- `__requeued`. -/
  requeued : Bool
  /-- `cur_flags0`. -/
  curFlags0 : UInt8
  /-- `nak_wait_timer` is running. -/
  nakWaitTimer : Bool
  /-- `zip_payload_len`. -/
  zipPayloadLen : ℕ
  createCompleteCb : Option CreateCallback
  virtualAdd : Option VirtualAdd
  /-- `ip_association_for_assign_return_route_cb`. -/
  returnRoute : Option (Fin maxIpAssociations)
  /-- The memory of `ip_association_pool`. -/
  pool : Fin maxIpAssociations → IpAssociation
  /-- The allocated blocks of `ip_association_pool`. -/
  used : Fin maxIpAssociations → Bool
  /-- `ip_association_table`. -/
  table : List (Fin maxIpAssociations)
  /-- `number_of_ip_assocs_marked_for_removal`. -/
  marked : ℕ
  /-- The flags of the Z/IP acknowledgements that were sent, newest first. -/
  udpStatus : List UInt8
  /-- The number of calls so far. -/
  calls : ℕ
  pending : List Operation
  cause : Option ℕ
  log : List Event

/-- The gateway after its start, with the associations read from the data store. -/
def State.init (pool : Fin maxIpAssociations → IpAssociation) (used : Fin maxIpAssociations → Bool)
    (table : List (Fin maxIpAssociations)) : State where
  backupLen := 0
  backup := none
  completedFunc := none
  fromMailbox := false
  requeued := false
  curFlags0 := 0
  nakWaitTimer := false
  zipPayloadLen := 0
  createCompleteCb := none
  virtualAdd := none
  returnRoute := none
  pool := pool
  used := used
  table := table
  marked := 0
  udpStatus := []
  calls := 0
  pending := []
  cause := none
  log := []

/-! ### The modules around -/

/-- The states of the network management that are told apart. -/
inductive NmState
  | idle
  | waitForProbeBySis
  | other
deriving DecidableEq

/-- What `ZW_SendDataZIP` does with the callback: it calls it before it returns, later, or not at
all. It is lost for an IPv4 client of a node that has no IPv4 address yet, and when `dtls_send` has
no session or cannot write to it. -/
inductive ZipAnswer
  | now (status : UInt8)
  | later
  | lost
deriving DecidableEq

/-- The replies that are sent with a callback. -/
inductive Reply
  | version
  | ipAssociation
  | supervision
deriving DecidableEq

/-- The answers of the modules around in one step. -/
structure Answers where
  nodeOfIP : BitVec 128 → UInt16
  /-- `bridge_state == initialized`. -/
  bridgeInitialized : Bool
  /-- `NetworkManagement_getState`. -/
  nmState : NmState
  /-- `mb_is_busy`. -/
  mbIsBusy : Bool
  /-- `rd_get_node_state` of the destination is below `STATUS_MDNS_PROBE`. -/
  probing : Bool
  /-- `get_queue_state() == QS_SENDING_FIRST`. -/
  sendingFirst : Bool
  /-- `bSendNAck`. -/
  sendNAck : Bool
  /-- `ZW_command_handler_run` of a naming command returns `COMMAND_HANDLED`. -/
  namingHandled : Bool
  /-- `rd_get_ep` finds the endpoint. -/
  endpointKnown : Bool
  /-- `rd_ep_class_support` of the endpoint. -/
  epSupports : UInt8 → Bool
  /-- `SupportsCmdClass` or `SupportsCmdClassSecure`. -/
  supportsCmdClass : UInt16 → UInt8 → Bool
  /-- `rd_node_exists`. -/
  nodeExists : UInt16 → Bool
  /-- `temp_assoc_create` returns an association. -/
  tempAssoc : Bool
  /-- `ZW_SendDataAppl` takes a frame. -/
  sendDataAppl : Bool
  /-- `ZW_SetSlaveLearnMode` takes the request for a virtual node. -/
  learnModeAdd : Bool
  /-- `ZW_SetSlaveLearnMode` takes the removal of the virtual node of an association. -/
  learnModeRemove : Fin maxIpAssociations → Bool
  /-- `ZW_AssignReturnRoute` takes the request. -/
  assignReturnRoute : Bool
  sendDataZip : Reply → ZipAnswer

/-! ### Completion -/

/-- An operation is started. -/
def State.start (st : State) (callback : Callback) : State :=
  { st with pending := ⟨callback, st.cause⟩ :: st.pending }

/-- `memb_free` of an association. -/
def State.free (st : State) (a : Fin maxIpAssociations) : State :=
  { st with used := membFree st.used a }

/-- `SendUDPStatus`. -/
def sendUdpStatus (flags0 : UInt8) (st : State) : State :=
  { st with udpStatus := flags0 :: st.udpStatus }

/-- `ClassicZIPNode_CallSendCompleted_cb`. -/
def callSendCompletedCb (status : UInt8) (st : State) : State :=
  let released := { st with backupLen := 0, completedFunc := none }
  match st.completedFunc with
  | none => released
  | some ticket => { released with log := .completed ticket st.cause status :: st.log }

/-- `report_send_completed`. -/
def reportSendCompleted (status : UInt8) (st : State) : State :=
  { callSendCompletedCb status st with nakWaitTimer := false }

/-- `send_zip_ack`. -/
def sendZipAck (ans : Answers) (status : UInt8) (st : State) : State :=
  if status = transmitCompleteOk then sendUdpStatus flags0AckRes st
  else if ans.sendNAck then sendUdpStatus flags0NackRes st
  else st

/-- `ClassicZIPNode_SendDataAppl`, where the caller does `refused` when the frame is not taken. -/
def sendDataAppl (ans : Answers) (callback : Callback) (refused : State → State) (st : State) :
    State :=
  if ans.sendDataAppl then st.start callback else refused st

/-- `ZW_SendDataZIP` of a reply, with `callback` as its callback. -/
def sendDataZip (ans : Answers) (reply : Reply) (callback : Callback)
    (run : UInt8 → State → State) (st : State) : State :=
  match ans.sendDataZip reply with
  | .now status => run status st
  | .later => st.start callback
  | .lost => st

/-! ### Removal of IP associations -/

/-- `ip_assoc_find_first_marked_for_removal`. -/
def ipAssocFindFirstMarkedForRemoval (st : State) : Option (Fin maxIpAssociations) :=
  st.table.find? fun a ↦ (st.pool a).markRemoval

/-- `ip_assoc_remove`, where `next` is `ip_assoc_continue_with_next_marked_for_removal`. -/
def ipAssocRemove (ans : Answers) (next : State → State) (a : Fin maxIpAssociations) (st : State) :
    State :=
  let removed := { st with table := listRemove st.table a }
  let continued :=
    if (st.pool a).type = .permanent ∧ ans.learnModeRemove a = true then
      removed.start .continueRemoval
    else next removed
  continued.free a

/-- `ip_assoc_abort`. -/
def ipAssocAbort (ans : Answers) (next : State → State) (a : Option (Fin maxIpAssociations))
    (status : UInt8) (st : State) : State :=
  match a with
  | none => reportSendCompleted status st
  | some a => reportSendCompleted status (ipAssocRemove ans next a st)

/-- `ip_assoc_remove_callback`. -/
def ipAssocRemoveCallback (ans : Answers) (next : State → State) (status : UInt8)
    (a : Fin maxIpAssociations) (st : State) : State :=
  if status = transmitCompleteOk ∨ status = transmitCompleteNoAck then ipAssocRemove ans next a st
  else reportSendCompleted transmitCompleteOk (sendZipAck ans transmitCompleteFail st)

/-- `ip_assoc_setup_and_send_assoc_remove_cmd`. -/
def ipAssocSetupAndSendAssocRemoveCmd (ans : Answers) (next : State → State)
    (a : Fin maxIpAssociations) (st : State) : State :=
  if ans.nodeExists (st.pool a).hanNodeid then
    sendDataAppl ans (.ipAssocRemove a)
      (fun st ↦ ipAssocAbort ans next (some a) transmitCompleteError
        (sendZipAck ans transmitCompleteError st)) st
  else ipAssocRemoveCallback ans next transmitCompleteOk a st

/-- `ip_assoc_continue_with_next_marked_for_removal`, where `removeAll` is
`ip_assoc_remove_all_marked_for_removal`. -/
def continueWithNext (ans : Answers) (removeAll : State → State) (st : State) : State :=
  let counted := { st with marked := st.marked - 1 }
  if counted.marked ≠ 0 then removeAll counted
  else reportSendCompleted transmitCompleteOk (sendZipAck ans transmitCompleteOk counted)

/-- `ip_assoc_remove_all_marked_for_removal`. It is only called when something is marked, and the
number of marked associations goes down before it is called again, so that number bounds the
calls. -/
def removeAllMarked (ans : Answers) : ℕ → State → State
  | 0, st => st
  | fuel + 1, st =>
    match ipAssocFindFirstMarkedForRemoval st with
    | some a =>
      ipAssocSetupAndSendAssocRemoveCmd ans (continueWithNext ans (removeAllMarked ans fuel)) a st
    | none =>
      reportSendCompleted transmitCompleteOk (sendZipAck ans transmitCompleteOk st)

/-- `ip_assoc_remove_all_marked_for_removal`. -/
def ipAssocRemoveAllMarkedForRemoval (ans : Answers) (st : State) : State :=
  removeAllMarked ans st.marked st

/-- `ip_assoc_continue_with_next_marked_for_removal`. -/
def ipAssocContinueWithNextMarkedForRemoval (ans : Answers) (st : State) : State :=
  continueWithNext ans (ipAssocRemoveAllMarkedForRemoval ans) st

/-- What an association is compared with by `ip_assoc_find_and_mark_for_removal`. -/
def IpAssociation.removalMatches (hanNodeid : UInt16) (hanEndpoint groupingId : UInt8)
    (resourceIp : BitVec 128) (a : IpAssociation) : Bool :=
  decide (a.hanNodeid = hanNodeid ∧ (hanEndpoint = 0 ∨ a.hanEndpoint = hanEndpoint) ∧
    (groupingId = 0 ∨ a.grouping = groupingId) ∧ (resourceIp = 0 ∨ resourceIp = a.resourceIp))

/-- `ip_assoc_find_and_mark_for_removal`. A null `resource_ip` is treated as the zero address. -/
def ipAssocFindAndMarkForRemoval (hanNodeid : UInt16) (hanEndpoint groupingId : UInt8)
    (resourceIp : BitVec 128) (st : State) : State :=
  let found := fun a ↦ (st.pool a).removalMatches hanNodeid hanEndpoint groupingId resourceIp
  { st with
    pool := fun a ↦
      if a ∈ st.table ∧ found a = true then { st.pool a with markRemoval := true } else st.pool a
    marked := st.table.countP found }

/-! ### Creation of IP associations -/

/-- `ip_assoc_abort`. -/
def abort (ans : Answers) (a : Option (Fin maxIpAssociations)) (status : UInt8) (st : State) :
    State :=
  ipAssocAbort ans (ipAssocContinueWithNextMarkedForRemoval ans) a status st

/-- `send_ip_association_cmd`. -/
def sendIpAssociationCmd (ans : Answers) (a : Fin maxIpAssociations) (st : State) : State :=
  sendDataAppl ans (.sendIpAssociationCmd a)
    (fun st ↦ abort ans (some a) transmitCompleteError (sendZipAck ans transmitCompleteError st)) st

/-- What `ip_assoc_create_permanent_callback` and `ip_assoc_create_proxy_callback` do, apart from
the frame that they set up. -/
def createCallback (ans : Answers) (a : Option (Fin maxIpAssociations)) (st : State) : State :=
  match a with
  | none => abort ans none transmitCompleteError (sendZipAck ans transmitCompleteError st)
  | some a => sendIpAssociationCmd ans a st

/-- `ip_assoc_call_create_complete_cb`. -/
def ipAssocCallCreateCompleteCb (ans : Answers) (a : Option (Fin maxIpAssociations)) (st : State) :
    State :=
  let cleared := { st with createCompleteCb := none }
  match st.createCompleteCb with
  | none => cleared
  | some _ => createCallback ans a cleared

/-- `ip_assoc_find_existing`, for the packet in `backup_buf`. -/
def ipAssocFindExisting (ans : Answers) (st : State) (p : Packet) (type : IpAssocType)
    (wasDtls : Bool) : Option (Fin maxIpAssociations) :=
  st.table.find? fun a ↦ decide ((st.pool a).type = type ∧
    ans.nodeOfIP p.destIp = (st.pool a).hanNodeid ∧ (st.pool a).resourceIp = p.srcIp ∧
    (st.pool a).resourcePort = p.srcPort ∧ (st.pool a).resourceEndpoint = p.sEndpoint ∧
    (st.pool a).wasDtls = wasDtls)

/-- `ip_assoc_add_to_association_table`. -/
def ipAssocAddToAssociationTable (a : Fin maxIpAssociations) (st : State) : State :=
  if st.table.any fun other ↦ decide (st.pool a = st.pool other) then
    st.free a
  else { st with table := listAdd st.table a }

/-- `ip_assoc_create`. The result says whether it is `BRIDGE_OK`. -/
def ipAssocCreate (ans : Answers) (p : Packet) (type : IpAssocType) (cmd : IpAssociationCommand)
    (createCompletedCb : CreateCallback) (wasDtls : Bool) (st : State) : State × Bool :=
  if st.createCompleteCb.isSome then (st, false)
  else
    let st := { st with createCompleteCb := some createCompletedCb }
    match ipAssocFindExisting ans st p type wasDtls with
    | some a =>
      let st := { st with
        pool := Function.update st.pool a { st.pool a with hanEndpoint := p.dEndpoint } }
      (ipAssocCallCreateCompleteCb ans (some a) st, true)
    | none =>
      if ans.learnModeAdd then
        let st := { st with virtualAdd := some ⟨cmd, type, wasDtls⟩ }
        (st.start .ipAssocVirtualAdd, true)
      else (ipAssocCallCreateCompleteCb ans none { st with virtualAdd := none }, false)

/-- `ip_assoc_create_local`. The other fields of the block keep what they had when it was freed. -/
def ipAssocCreateLocal (ans : Answers) (p : Packet) (cmd : IpAssociationCommand) (st : State) :
    State × Option (Fin maxIpAssociations) :=
  match membAlloc st.used with
  | none => (st, none)
  | some a =>
    let created := { st.pool a with
      type := .local_
      resourceIp := cmd.resourceIP
      resourcePort := uipHtons 41230
      resourceEndpoint := cmd.endpoint
      grouping := cmd.groupingIdentifier
      hanNodeid := ans.nodeOfIP p.destIp
      hanEndpoint := p.dEndpoint }
    let st := { st with
      used := membTake st.used a
      pool := Function.update st.pool a created }
    (ipAssocAddToAssociationTable a st, some a)

/-! ### IP Association commands -/

/-- The checks of `handle_ip_association_set` on the command classes that the endpoint and its node
support. -/
def setSupported (ans : Answers) (node : UInt16) (lendpoint : UInt8) (cmd : IpAssociationCommand) :
    Bool :=
  if ans.nodeOfIP cmd.resourceIP ≠ 0 then
    if lendpoint = 0 ∧ cmd.endpoint = 0 then ans.epSupports commandClassAssociationV2
    else if lendpoint = 0 then ans.epSupports commandClassMultiChannelAssociationV2
    else if cmd.endpoint = 0 then
      ans.supportsCmdClass node commandClassMultiChannelV2 &&
        ans.epSupports commandClassAssociationV2
    else
      ans.supportsCmdClass node commandClassMultiChannelV2 &&
        ans.epSupports commandClassMultiChannelAssociationV2
  else if lendpoint = 0 then ans.epSupports commandClassAssociationV2
  else ans.epSupports commandClassMultiChannelV2 || ans.epSupports commandClassAssociationV2

/-- The label `abort` of `handle_ip_association_set`, and its error exits. -/
def rejectSet (ans : Answers) (st : State) : State :=
  reportSendCompleted transmitCompleteError (sendZipAck ans transmitCompleteError st)

/-- `handle_ip_association_set`. -/
def handleIpAssociationSet (ans : Answers) (p : Packet) (payload : List UInt8) (wasDtls : Bool)
    (st : State) : State :=
  let cmd := IpAssociationCommand.ofPayload payload
  let node := ans.nodeOfIP p.destIp
  if !ans.endpointKnown || !setSupported ans node p.dEndpoint cmd then rejectSet ans st
  else if ans.nodeOfIP cmd.resourceIP ≠ 0 then
    if p.dEndpoint = 0 ∧ cmd.endpoint ≠ 0 ∧
        ans.supportsCmdClass node commandClassMultiChannelAssociationV2 = false then
      -- the association is proxied
      let created := ipAssocCreate ans p .proxy cmd .proxy wasDtls st
      if created.2 then created.1 else rejectSet ans created.1
    else
      let created := ipAssocCreateLocal ans p cmd st
      match created.2 with
      | none => rejectSet ans created.1
      | some a => sendIpAssociationCmd ans a created.1
  else
    let created := ipAssocCreate ans p .permanent cmd .permanent wasDtls st
    if created.2 then created.1 else rejectSet ans created.1

/-- `handle_ip_association_get`. A short command is reported, and then answered all the same. -/
def handleIpAssociationGet (ans : Answers) (len : ℕ) (st : State) : State :=
  let acked := sendZipAck ans transmitCompleteOk st
  let checked := if len < 4 then reportSendCompleted transmitCompleteOk acked else acked
  sendDataZip ans .ipAssociation .reportSendComplete reportSendCompleted checked

/-- `handle_ip_association_remove`. -/
def handleIpAssociationRemove (ans : Answers) (p : Packet) (payload : List UInt8) (st : State) :
    State :=
  let cmd := IpAssociationCommand.ofPayload payload
  if st.marked ≠ 0 then
    reportSendCompleted transmitCompleteError (sendZipAck ans transmitCompleteError st)
  else
    let st := ipAssocFindAndMarkForRemoval
      (ans.nodeOfIP p.destIp) p.dEndpoint cmd.groupingIdentifier cmd.resourceIP st
    if st.marked ≠ 0 then ipAssocRemoveAllMarkedForRemoval ans st
    else reportSendCompleted transmitCompleteOk (sendZipAck ans transmitCompleteOk st)

/-- `handle_ip_association`. -/
def handleIpAssociation (ans : Answers) (p : Packet) (payload : List UInt8) (len : ℕ)
    (wasDtls : Bool) (st : State) : State :=
  let cmd := payload.getD 1 0
  if ans.sendingFirst = true ∧ cmd ≠ associationGet then
    callSendCompletedCb transmitCompleteNoAck st
  else if cmd = associationSet then handleIpAssociationSet ans p payload wasDtls st
  else if cmd = associationRemove then handleIpAssociationRemove ans p payload st
  else if cmd = associationGet then handleIpAssociationGet ans len st
  else reportSendCompleted transmitCompleteOk st

/-! ### Commands that the gateway answers itself -/

/-- `handle_version` answers the command: it asks for a class of which the gateway has a version. -/
def versionHandled (payload : List UInt8) (len : ℕ) : Bool :=
  decide (3 ≤ len ∧ payload.getD 1 0 = versionCommandClassGet ∧
    (payload.getD 2 0 = commandClassZipNaming ∨ payload.getD 2 0 = commandClassIpAssociation ∨
      payload.getD 2 0 = commandClassZip))

/-- `handle_version`. -/
def handleVersion (ans : Answers) (payload : List UInt8) (len : ℕ) (ackReq : Bool) (st : State) :
    State × Bool :=
  if versionHandled payload len then
    let acked := if ackReq then sendUdpStatus flags0AckRes st else st
    (sendDataZip ans .version .callSendCompleted callSendCompletedCb acked, true)
  else (st, false)

/-- The cases of `proxy_command_handler` other than supervision. The lengths are taken from
`zip_payload_len`, as a byte. -/
def answerCommand (ans : Answers) (p : Packet) (wasDtls ackReq : Bool) (payload : List UInt8)
    (st : State) : State × Bool :=
  let cmdClass := payload.getD 0 0
  let len := st.zipPayloadLen % 256
  if cmdClass = commandClassIpAssociation then
    let waiting := if ackReq then { st with nakWaitTimer := true } else st
    (handleIpAssociation ans p payload len wasDtls waiting, true)
  else if cmdClass = commandClassZipNaming then
    let acked := if ackReq then sendUdpStatus flags0AckRes st else st
    if ans.namingHandled then (callSendCompletedCb transmitCompleteOk acked, true)
    else (acked, false)
  else if cmdClass = commandClassVersion then handleVersion ans payload len ackReq st
  else (st, false)

/-- `proxy_command_handler`, with `proxy_supervision_command_handler`: the command inside a
Supervision Get starts four bytes on, and the report follows when the command was handled. -/
def proxyCommandHandler (ans : Answers) (p : Packet) (wasDtls ackReq : Bool) :
    List UInt8 → State → State × Bool
  | cmdClass :: cmd :: sessionid :: length :: encapsulated, st =>
    if cmdClass = commandClassSupervision ∧ cmd = supervisionGet then
      let inner := proxyCommandHandler ans p wasDtls ackReq encapsulated st
      if inner.2 then
        (sendDataZip ans .supervision .callSendCompleted callSendCompletedCb inner.1, true)
      else (inner.1, false)
    else
      answerCommand ans p wasDtls ackReq (cmdClass :: cmd :: sessionid :: length :: encapsulated) st
  | payload, st => answerCommand ans p wasDtls ackReq payload st

/-! ### Z/IP packets -/

/-- The codes of `return_codes_zip_ext_hdr_t`. -/
inductive ExtHdrCode
  | success
  | dropFrame
  | optError
deriving DecidableEq

/-- The loop of `parse_CC_ZIP_EXT_HDR` at the option at `pos`. Every option is longer than one byte,
so the length of the header bounds the turns. -/
def parseOptions (bytes : List UInt8) (length : ℕ) : ℕ → ℕ → ExtHdrCode
  | 0, pos => if pos = length then .success else .dropFrame
  | fuel + 1, pos =>
    if pos < length then
      let type := bytes.getD pos 0
      let optionLength := bytes.getD (pos + 1) 0
      if type &&& 0x7F = 4 ∧ optionLength < 2 then .optError
      else if type &&& 0x7F ≠ 2 ∧ type &&& 0x7F ≠ 4 ∧ type &&& 0x80 ≠ 0 then .optError
      else parseOptions bytes length fuel (pos + optionLength.toNat + 2)
    else if pos = length then .success
    else .dropFrame

/-- `parse_CC_ZIP_EXT_HDR`. -/
def parseCcZipExtHdr (bytes : List UInt8) (length : ℕ) : ExtHdrCode :=
  parseOptions bytes length length 0

/-- `uint16_t` subtraction. -/
def sub16 (a b : ℕ) : ℕ := (a + 65536 - b % 65536) % 65536

/-- What the packet headers lead to in `ClassicZIPUDP_input`. -/
inductive Header
  | drop
  | error
  /-- The command starts at the offset and has the length. -/
  | command (offset length : ℕ)
deriving DecidableEq

/-- The checks of `ClassicZIPUDP_input` on the Z/IP header and its extension. -/
def Packet.header (p : Packet) (len : ℕ) (secure : Bool) : Header :=
  let flags1 := p.byte 3
  let payloadLen := sub16 len zipHeaderSize
  let first := p.byte zipHeaderSize
  if flags1 &&& flags1SecureOrigin ≠ 0 ∧ secure = false then .drop
  else if flags1 &&& flags1HdrExtIncl ≠ 0 then
    -- the size that the extension gives for itself counts its own byte
    if first = 1 ∨ payloadLen + 1 < first.toNat then .drop
    else
      let size := sub16 first.toNat 1
      match parseCcZipExtHdr (p.buffer.drop (zipHeaderSize + 1)) size with
      | .dropFrame => .drop
      | .optError => .error
      | .success => .command (zipHeaderSize + size + 1) (sub16 payloadLen (size + 1))
  else .command zipHeaderSize payloadLen

/-- `ip_assoc_lookup_by_virtual_node`. -/
def ipAssocLookupByVirtualNode (st : State) (virtnode : UInt16) : Option (Fin maxIpAssociations) :=
  st.table.find? fun a ↦ decide ((st.pool a).virtualId = virtnode)

/-- The frame is put back: the mailbox or the network management is busy, or the node is being
probed. -/
def mustRequeue (ans : Answers) (st : State) : Bool :=
  decide ((st.fromMailbox = false ∧ st.requeued = false ∧ ans.mbIsBusy = true) ∨
    (ans.nmState ≠ .idle ∧ ans.nmState ≠ .waitForProbeBySis) ∨ ans.probing = true)

/-- The IP association through which the packet is forwarded. -/
def forwardedThrough (ans : Answers) (p : Packet) (st : State) : Option (Fin maxIpAssociations) :=
  if ans.nodeOfIP p.srcIp ≠ 0 then ipAssocLookupByVirtualNode st (ans.nodeOfIP p.srcIp) else none

end ZipGateway.ClassicZipNode
