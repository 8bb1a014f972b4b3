import ZipGateway.Contiki
import ZipGateway.NodeQueue.Model

/-!
# The mailbox

The model of `src/src/Mailbox.c`. Packets for nodes that are asleep wait in `mb_list`, in blocks of
`mb_memb`, until their node wakes up. The state machine `mb_state_transition` then hands them to
`ClassicZIPNode_input` one by one, or sends them to the proxy that has pushed them, or pings the
clients that wait for them; `last_entry` is its cursor in the list.

The other modules are the environment: `Answers` has what they return during one step. Of
`ClassicZIPNode.c` the model has that it takes no frame while it has not reported the one it took
before. The callbacks of transmissions that the model does not follow, of the WakeUp No More
Information frame, of pings and of the probe, may come at any time and any number of times. Time is
not modelled, but for the age of the entries. A node that `ZW_SendDataZIP_ack` cannot ping is
reported at once, and so may a frame be that `ClassicZIPNode_input` takes.

A block keeps what was written to it when it is freed. Every packet that is posted has a serial
number, `lastSent` is the one of the packet that was sent last, and `log` has what was done, newest
first; no function reads these. The log has, too, every place where the state machine follows
`last_entry`, with whether that is an entry of the list.

Not modelled are the commands that only send answers (`MAILBOX_CONFIGURATION_GET`, and
`MAILBOX_QUEUE_FULL` and `MAILBOX_WAITING` of `MAILBOX_QUEUE`), `black_list_crc16`, which nothing
reads, and `mb_probe_node_callback`, which nothing calls.
-/

set_option autoImplicit false

namespace ZipGateway.Mailbox

open Lib Contiki NodeQueue

/-! ### Entries -/

abbrev maxMailboxEntries : ℕ := 2000

def commandClassMailbox : UInt8 := 0x69

def mailboxQueue : UInt8 := 0x04

def disableMailbox : UInt8 := 0

def enableMailboxService : UInt8 := 1

def enableMailboxProxyForwarding : UInt8 := 2

def mailboxPush : UInt8 := 0

def mailboxPop : UInt8 := 1

def mailboxWaiting : UInt8 := 2

def mailboxPing : UInt8 := 3

def mailboxAck : UInt8 := 4

def mailboxNak : UInt8 := 5

def mailboxQueueFull : UInt8 := 6

def zipPacketFlags0NackRes : UInt8 := 0x20

def zipPacketFlags0NackWait : UInt8 := 0x10

def zipPacketFlags1MoreInformation : UInt8 := 0x20

def uipProtoIcmp6 : UInt8 := 58

def icmp6EchoRequest : UInt8 := 128

/-- An IPv6 address. -/
abbrev Address := List UInt8

/-- The unspecified address. -/
def unspecified : Address := List.replicate 16 0

def destIpAddr (data : List UInt8) : Address := (data.drop 24).take 16

/-- `is_more_info_set`. -/
def isMoreInfoSet (data : List UInt8) : Bool :=
  byteAt data (uipIpUdpHLen + 3) &&& zipPacketFlags1MoreInformation != 0

/-- `mailbox_t`. -/
structure Entry where
  data : List UInt8
  dataLen : ℕ
  handle : UInt8
  proxy : Address
  waitingEnabled : Bool
  /-- The waiting timer runs. -/
  waitingTimer : Bool
  queuedTime : ℕ
  serial : ℕ

/-- A cleared block. -/
def Entry.zero : Entry := ⟨[], 0, 0, unspecified, false, false, 0, 0⟩

def Entry.bytes (entry : Entry) : List UInt8 := entry.data.take entry.dataLen

/-- Bytes are copied to the start of a buffer. -/
def overwrite (bytes buffer : List UInt8) : List UInt8 := bytes ++ buffer.drop bytes.length

/-! ### State -/

/-- The states of `mb_state`. -/
inductive State
  | idle
  | probeWakeupInterval
  | sending
  | sendingThroughProxy
  | sendingFromProxy
  | sendingLastFromProxy
  | sendNoMoreInfo
  | sendNoMoreInfoDelayed
  | sendingPing
  | pingZipclients
deriving DecidableEq, Repr

/-- `mb_event_t`. -/
inductive Event
  | sendDone
  | wakeup
  | pop
  | popLast
  | timeout
  | pingReq
  | timeToPing
  | transition
  | frameSentToNode
deriving DecidableEq, Repr

/-- A frame that `ClassicZIPNode_input` has taken. -/
inductive Flight
  | entry (serial : ℕ)
  /-- A frame that a proxy pops. -/
  | popped
deriving DecidableEq, Repr

/-- What the module did. -/
inductive Act
  /-- `mb_post_uipbuf` fills in a block. -/
  | posted (serial : ℕ) (proxy : Option Address) (handle : UInt8) (bytes : List UInt8)
  /-- `mb_free_entry`, and whether the block was allocated. -/
  | freed (serial : ℕ) (allocated : Bool)
  /-- The state machine frees an entry because packet `sent` was delivered. -/
  | delivered (serial sent : ℕ)
  /-- The state machine follows `last_entry`, and whether that is an entry of the list. -/
  | cursor (listed : Bool)
  /-- `ClassicZIPNode_input` is called. -/
  | handed (flight : Flight)
  /-- `ClassicZIPNode_input` has taken a frame. -/
  | taken (flight : Flight)
  /-- `ClassicZIPNode_input` reports a frame that it has taken. -/
  | reported (flight : Flight)
  /-- `send_mb_proxy_queue_command` for an entry: the handle that is left over in the first free
  block before, and the command that is sent. There are none if no block is free. -/
  | queueCommand (serial : ℕ) (command : UInt8) (leftOver : Option UInt8)
    (sent : Option (List UInt8))
  /-- `SendUDPStatus` to the sender of an entry. -/
  | udpStatus (serial : ℕ) (flags : UInt8)
  /-- `mb_send_queue_full`. -/
  | queueFull
  /-- A packet is forwarded to the proxy service, if a block is free. -/
  | forwarded (command : Option (List UInt8))
  | forwardedWakeup (node : UInt16)
  | forwardedFailing (node : UInt16)
  /-- `mb_send_proxy_status`, and whether its assertion holds. -/
  | proxyStatus (mode handle : UInt8) (asserted : Bool)
  /-- A client is pinged. -/
  | ping
  | noMoreInformation (node : UInt16)
  | wakeUpIntervalGet (node : UInt16)
deriving DecidableEq

/-- The variables of the module, with the log. -/
structure MailboxState where
  /-- The memory of `mb_memb`. -/
  blocks : Fin maxMailboxEntries → Entry
  /-- The allocated blocks of `mb_memb`. -/
  used : Fin maxMailboxEntries → Bool
  mbList : List (Fin maxMailboxEntries)
  state : State
  node : UInt16
  /-- The remote address of `udp_session`. -/
  ripaddr : Address
  /-- The remote port of `udp_session`. -/
  rport : UInt16
  handle : UInt8
  sendNoMore : Bool
  txStatus : UInt8
  lastEntry : Option (Fin maxMailboxEntries)
  broadcastWun : Bool
  noMoreTimer : Bool
  /-- `cfg.mb_conf_mode`. -/
  mbConfMode : UInt8
  /-- The frame that `ClassicZIPNode_input` has taken and not reported. -/
  inFlight : Option Flight
  lastSent : ℕ
  lastSerial : ℕ
  log : List Act

/-- What becomes of a frame that is given to `ClassicZIPNode_input`. -/
inductive InputOutcome
  /-- It is taken, and reported later. -/
  | taken
  /-- `ClassicZIPNode_input` returns `FALSE`. -/
  | refused
  /-- It is reported at once, and `TRUE` is returned. -/
  | reported (status : UInt8)

/-- What the other modules answer during a step. -/
structure Answers where
  /-- `clock_seconds`. -/
  clockSeconds : ℕ
  /-- `is_more_info_set` of the packet in the buffer. -/
  moreInfo : Bool
  /-- `ClassicZIPNode_input` for the packet of an entry. -/
  input : Fin maxMailboxEntries → InputOutcome
  /-- `ClassicZIPNode_input` for the packet in the buffer. -/
  inputPopped : InputOutcome
  /-- The status with which the ping for an entry is reported at once. -/
  ping : Fin maxMailboxEntries → Option UInt8
  /-- The status with which the ping for a proxy is reported at once. -/
  pingReq : Option UInt8
  /-- `ZW_SendDataAppl`. -/
  sendDataAppl : Bool
  /-- `ZW_SendRequest`. -/
  sendRequest : Bool
  /-- The node that wakes up is in the database. -/
  nodeKnown : Bool
  /-- The node that wakes up was failing, or does so ahead of time. -/
  aheadOfTime : Bool
  /-- `rd_get_node_state` of the destination of a packet is `STATUS_FAILING`. -/
  nodeFailing : Bool
  /-- The node is in probe or in firmware upgrade. -/
  nodeBusy : Bool
  /-- The network management is idle. -/
  networkIdle : Bool
  /-- `rd_probe_in_progress`. -/
  probeInProgress : Bool

/-- The addresses of the nodes. -/
structure Config where
  /-- `nodeOfIP`. -/
  nodeOfIp : Address → UInt16
  /-- `ipOfNode`. -/
  ipOfNode : UInt16 → Address

/-! ### Blocks -/

namespace MailboxState

/-- An act is logged. -/
def act (s : MailboxState) (act : Act) : MailboxState := { s with log := act :: s.log }

/-- A block with some of its fields changed. -/
def modify (s : MailboxState) (i : Fin maxMailboxEntries) (change : Entry → Entry) : MailboxState :=
  { s with blocks := Function.update s.blocks i (change (s.blocks i)) }

/-- `mb_free_entry`. -/
def freeEntry (s : MailboxState) (i : Fin maxMailboxEntries) : MailboxState :=
  { s.modify i fun entry ↦ { entry with waitingTimer := false } with
    mbList := listRemove s.mbList i
    used := membFree s.used i
    log := .freed (s.blocks i).serial (s.used i) :: s.log }

/-- `last_entry` is followed. -/
def follow (s : MailboxState) (lastEntry : Option (Fin maxMailboxEntries)) : MailboxState :=
  s.act (.cursor (lastEntry.any fun i ↦ i ∈ s.mbList))

end MailboxState

/-- `memb_free_count`. -/
def membFreeCount (used : Fin maxMailboxEntries → Bool) : ℕ :=
  (List.finRange maxMailboxEntries).countP fun i ↦ !used i

/-- The bytes of a `MAILBOX_QUEUE` command. -/
def queueCommand (command handle : UInt8) (bytes : List UInt8) : List UInt8 :=
  [commandClassMailbox, mailboxQueue, command, handle] ++ bytes

/-- The handle that is left over in the first free block. -/
def leftOverHandle (s : MailboxState) : Option UInt8 :=
  (membAlloc s.used).map fun m ↦ (s.blocks m).handle

/-- `send_mb_proxy_queue_command`. The command is built in the first free block, and has the handle
that is in that block. -/
def sendMbProxyQueueCommand (command : UInt8) (i : Fin maxMailboxEntries) (s : MailboxState) :
    MailboxState :=
  match membAlloc s.used with
  | none => s.act (.queueCommand (s.blocks i).serial command (leftOverHandle s) none)
  | some m =>
    let t := s.modify m fun entry ↦
      { entry with
        data := overwrite (queueCommand command entry.handle (s.blocks i).bytes) entry.data }
    t.act (.queueCommand (t.blocks i).serial command (leftOverHandle s)
      (some ((t.blocks m).data.take ((t.blocks i).dataLen + 4))))

/-! ### Purges -/

/-- `mb_failing_notify_byip` drops an entry: it is for the address, and older than 11 minutes. -/
def isDropped (ip : Address) (now : ℕ) (entry : Entry) : Bool :=
  destIpAddr entry.data == ip && entry.queuedTime + 11 * 60 < now

/-- An entry is dropped, and its sender is told if it is a client. -/
def dropEntry (s : MailboxState) (i : Fin maxMailboxEntries) : MailboxState :=
  let s := if isZipPkt (s.blocks i).data && (s.blocks i).proxy == unspecified then
      s.act (.udpStatus (s.blocks i).serial zipPacketFlags0NackRes)
    else s
  s.freeEntry i

/-- `mb_failing_notify_byip`. -/
def mbFailingNotifyByip (ip : Address) (now : ℕ) (s : MailboxState) : MailboxState :=
  (s.mbList.filter fun i ↦ isDropped ip now (s.blocks i)).foldl dropEntry s

/-- `mb_purge_messages`. -/
def mbPurgeMessages (config : Config) (answers : Answers) (node : UInt16) (s : MailboxState) :
    MailboxState :=
  if s.mbConfMode = enableMailboxProxyForwarding then s.act (.forwardedFailing node)
  else mbFailingNotifyByip (config.ipOfNode node) answers.clockSeconds s

/-! ### Posts -/

/-- `mb_post_uipbuf` queues or forwards this packet. -/
def isPostable (data : List UInt8) : Bool :=
  !(byteAt data 6 == uipProtoIcmp6 && byteAt data 40 != icmp6EchoRequest) && uipIpUdpHLen ≤
    data.length

/-- The packet is forwarded to the proxy service, from the first free block. -/
def forward (config : Config) (data : List UInt8) (s : MailboxState) : MailboxState :=
  match membAlloc s.used with
  | none => s.act (.forwarded none)
  | some m =>
    let command := [commandClassMailbox, mailboxQueue, mailboxPush,
      (config.nodeOfIp (destIpAddr data)).toUInt8] ++ data
    let s := s.modify m fun entry ↦
      { entry with
        dataLen := data.length
        data := overwrite command entry.data
        waitingEnabled := isZipPkt data }
    s.act (.forwarded (some command))

/-- `mb_post_uipbuf` allocates a block and fills it in. Only a packet of a proxy has a handle. -/
def fillBlock (answers : Answers) (data : List UInt8) (proxy : Option Address) (handle : UInt8)
    (m : Fin maxMailboxEntries) (s : MailboxState) : MailboxState :=
  { s.modify m fun entry ↦
      { dataLen := data.length
        waitingEnabled := isZipPkt data
        data := overwrite data entry.data
        queuedTime := answers.clockSeconds
        waitingTimer := true
        proxy := proxy.getD unspecified
        handle := if proxy.isSome then handle else entry.handle
        serial := s.lastSerial + 1 } with
    used := membTake s.used m
    lastSerial := s.lastSerial + 1
    log := .posted (s.lastSerial + 1) proxy handle data :: s.log }

/-- `mb_post_uipbuf`. -/
def mbPostUipbuf (config : Config) (answers : Answers) (data : List UInt8) (proxy : Option Address)
    (handle : UInt8) (s : MailboxState) : MailboxState :=
  if !isPostable data || s.mbConfMode = disableMailbox then s
  else if s.mbConfMode = enableMailboxProxyForwarding then forward config data s
  else
    match membAlloc s.used with
    | none => if proxy.isNone then s.act .queueFull else s
    | some m =>
      let s := fillBlock answers data proxy handle m s
      if proxy.isSome && membFreeCount s.used = 1 then
        (sendMbProxyQueueCommand mailboxQueueFull m s).freeEntry m
      else
        let s := { s with mbList := listAdd s.mbList m }
        if answers.nodeFailing then
          mbPurgeMessages config answers (config.nodeOfIp (destIpAddr data)) s
        else s

/-- `send_waiting_timeout`. -/
def sendWaitingTimeout (i : Fin maxMailboxEntries) (s : MailboxState) : MailboxState :=
  if !(s.blocks i).waitingEnabled then s
  else if (s.blocks i).proxy = unspecified then
    s.act (.udpStatus (s.blocks i).serial (zipPacketFlags0NackRes ||| zipPacketFlags0NackWait))
  else sendMbProxyQueueCommand mailboxWaiting i s

/-! ### The state machine -/

/-- `ClassicZIPNode_input`: a frame is not taken while another one is not reported. -/
def classicZIPNodeInput (flight : Flight) (outcome : InputOutcome) (s : MailboxState) :
    MailboxState × InputOutcome :=
  let s := s.act (.handed flight)
  match outcome with
  | .reported status => (s, .reported status)
  | .refused => if s.inFlight.isSome then (s, .reported transmitCompleteRequeue) else (s, .refused)
  | .taken =>
    if s.inFlight.isSome then (s, .reported transmitCompleteRequeue)
    else ({ s with inFlight := some flight, log := .taken flight :: s.log }, .taken)

/-- The state machine goes to `MB_STATE_IDLE`. -/
def goIdle (s : MailboxState) : MailboxState := { s with state := .idle }

/-- `mb_send_no_more_information`, in `MB_STATE_SEND_NO_MORE_INFO`. -/
def mbSendNoMoreInformation (answers : Answers) (s : MailboxState) : MailboxState :=
  if !s.broadcastWun then
    let s := s.act (.noMoreInformation s.node)
    if answers.sendDataAppl then s else goIdle { s with txStatus := transmitCompleteFail }
  else goIdle { s with broadcastWun := false, txStatus := transmitCompleteOk }

/-- `mb_send_proxy_status`. -/
def mbSendProxyStatus (s : MailboxState) : MailboxState :=
  if s.rport = 0 then s
  else s.act (.proxyStatus
    (if s.txStatus = transmitCompleteOk then mailboxAck else mailboxNak) s.handle
    s.lastEntry.isSome)

/-- The state machine goes to `MB_STATE_SEND_NO_MORE_INFO`. -/
def goSendNoMoreInfo (answers : Answers) (s : MailboxState) : MailboxState :=
  mbSendNoMoreInformation answers (mbSendProxyStatus { s with state := .sendNoMoreInfo })

/-- `MB_STATE_SENDING`, when the node has no further entries. -/
def nothingToSend (answers : Answers) (s : MailboxState) : MailboxState :=
  if s.sendNoMore then goSendNoMoreInfo answers s
  else { s with state := .sendNoMoreInfoDelayed, noMoreTimer := true }

/-- The state machine frees the entry of the packet that was sent. -/
def deliver (s : MailboxState) (i : Fin maxMailboxEntries) : MailboxState :=
  (s.act (.delivered (s.blocks i).serial s.lastSent)).freeEntry i

/-- `MB_EVENT_SEND_DONE` in `MB_STATE_SENDING`, up to the search for the next entry. -/
def sentEntry (s : MailboxState) (i : Fin maxMailboxEntries) : MailboxState :=
  let s := s.follow (some i)
  if s.txStatus = transmitCompleteOk then deliver s i else s

/-- `MB_STATE_SENDING`, when `last_entry` goes through the given entries: the next entry of the node
is sent. If `ClassicZIPNode_input` reports it at once, the state machine goes on from there before
`ClassicZIPNode_input` returns. -/
def sendFrom (config : Config) (answers : Answers) :
    List (Fin maxMailboxEntries) → MailboxState → MailboxState
  | [], s => nothingToSend answers { s with lastEntry := none }
  | i :: rest, s =>
    let s := s.follow (some i)
    if config.nodeOfIp (destIpAddr (s.blocks i).data) = s.node then
      let s := { s with
        lastEntry := some i
        sendNoMore := s.sendNoMore && !isMoreInfoSet (s.blocks i).data
        lastSent := (s.blocks i).serial }
      match classicZIPNodeInput (.entry (s.blocks i).serial) (answers.input i) s with
      | (s, .taken) => s
      | (s, .refused) => goSendNoMoreInfo answers s
      | (s, .reported status) =>
        sendFrom config answers rest (sentEntry { s with txStatus := status } i)
    else sendFrom config answers rest s

def fromLastEntry (s : MailboxState) : List (Fin maxMailboxEntries) :=
  match s.lastEntry with
  | none => []
  | some i => i :: listAfter s.mbList i

/-- `MB_STATE_SENDING`. -/
def sending (config : Config) (answers : Answers) (event : Event) (s : MailboxState) :
    MailboxState :=
  match event with
  | .sendDone =>
    match s.lastEntry with
    | none =>
      sendFrom config answers [] (if s.txStatus = transmitCompleteOk then s.follow none else s)
    | some i => sendFrom config answers (listAfter s.mbList i) (sentEntry s i)
  | .transition => sendFrom config answers s.mbList s
  | _ => sendFrom config answers (fromLastEntry s) s

/-- The state machine goes to `MB_STATE_SENDING`. -/
def goSending (config : Config) (answers : Answers) (s : MailboxState) : MailboxState :=
  sending config answers .transition { s with state := .sending }

/-- `MB_STATE_PROBE_WAKEUP_INTERVAL`. -/
def probeWakeupInterval (config : Config) (answers : Answers) (event : Event) (s : MailboxState) :
    MailboxState :=
  match event with
  | .transition =>
    let s := s.act (.wakeUpIntervalGet s.node)
    if answers.sendRequest then s else goSending config answers s
  | .sendDone => goSending config answers s
  | _ => s

/-- `MB_STATE_PING_ZIPCLIENTS`, when `last_entry` goes through the given entries: the next client
that is online is pinged. -/
def pingFrom (answers : Answers) : List (Fin maxMailboxEntries) → MailboxState → MailboxState
  | [], s => goIdle { s with lastEntry := none }
  | i :: rest, s =>
    let s := { s with lastEntry := some i }.follow (some i)
    if !(s.blocks i).waitingEnabled then pingFrom answers rest s
    else if (s.blocks i).proxy = unspecified then
      let s := s.act .ping
      match answers.ping i with
      | none => s
      | some status =>
        pingFrom answers rest (({ s with txStatus := status }.follow (some i)).modify i fun entry ↦
          { entry with waitingEnabled := status = transmitCompleteOk })
    else sendMbProxyQueueCommand mailboxPing i s

/-- `MB_STATE_PING_ZIPCLIENTS`. -/
def pingZipclients (answers : Answers) (event : Event) (s : MailboxState) : MailboxState :=
  match event with
  | .transition => pingFrom answers (fromLastEntry s) s
  | .sendDone =>
    match s.lastEntry with
    | none => pingFrom answers [] (s.follow none)
    | some i =>
      pingFrom answers (listAfter s.mbList i) ((s.follow (some i)).modify i fun entry ↦
        { entry with waitingEnabled := s.txStatus = transmitCompleteOk })
  | _ => s

/-- The entries that the proxy has pushed under the handle. -/
def proxyEntries (s : MailboxState) : List (Fin maxMailboxEntries) :=
  s.mbList.filter fun i ↦ (s.blocks i).proxy == s.ripaddr && s.handle == (s.blocks i).handle

/-- The next entry is sent to the proxy. -/
def sendProxyEntry (answers : Answers) (s : MailboxState) : MailboxState :=
  match proxyEntries s with
  | [] => goIdle { s with lastEntry := none }
  | i :: others =>
    let last := !answers.moreInfo && others.isEmpty
    sendMbProxyQueueCommand (if last then 8 ||| mailboxPop else mailboxPop) i
      ({ s with lastEntry := some i, lastSent := (s.blocks i).serial }.follow (some i))

/-- `MB_STATE_SENDING_THROUGH_PROXY`. -/
def sendingThroughProxy (answers : Answers) (event : Event) (s : MailboxState) : MailboxState :=
  match event with
  | .timeout => goIdle s
  | .transition => sendProxyEntry answers s
  | .sendDone =>
    if s.txStatus = transmitCompleteOk then
      let s := s.follow s.lastEntry
      match s.lastEntry with
      | none => sendProxyEntry answers s
      | some i => sendProxyEntry answers (deliver s i)
    else sendProxyEntry answers s
  | _ => s

/-- `MB_EVENT_SEND_DONE` for a frame that a proxy has popped. -/
def sentFromProxy (answers : Answers) (s : MailboxState) : MailboxState :=
  if s.state = .sendingFromProxy then goIdle (mbSendProxyStatus s) else goSendNoMoreInfo answers s

/-- A frame is popped by a proxy. -/
def popFrame (answers : Answers) (s : MailboxState) : MailboxState :=
  match classicZIPNodeInput .popped answers.inputPopped s with
  | (s, .taken) => s
  | (s, .refused) => sentFromProxy answers { s with txStatus := transmitCompleteFail }
  | (s, .reported status) => sentFromProxy answers { s with txStatus := status }

/-- `MB_STATE_IDLE`. -/
def idle (config : Config) (answers : Answers) (event : Event) (s : MailboxState) : MailboxState :=
  match event with
  | .timeToPing =>
    pingFrom answers s.mbList { s with lastEntry := s.mbList.head?, state := .pingZipclients }
  | .pingReq =>
    let s := s.act .ping
    { s with txStatus := answers.pingReq.getD s.txStatus, state := .sendingPing }
  | .wakeup =>
    if s.node = 0 then
      sendProxyEntry answers { s with lastEntry := s.mbList.head?, state := .sendingThroughProxy }
    else if answers.nodeKnown then
      if answers.aheadOfTime then
        probeWakeupInterval config answers .transition { s with state := .probeWakeupInterval }
      else goSending config answers s
    else mbSendNoMoreInformation answers { s with state := .sendNoMoreInfo }
  | .pop => popFrame answers { s with state := .sendingFromProxy }
  | .popLast => popFrame answers { s with state := .sendingLastFromProxy }
  | _ => s

/-- `MB_STATE_SEND_NO_MORE_INFO_DELAYED`. -/
def sendNoMoreInfoDelayed (answers : Answers) (event : Event) (s : MailboxState) : MailboxState :=
  match event with
  | .timeout =>
    if answers.nodeBusy then { s with noMoreTimer := true }
    else mbSendNoMoreInformation answers { s with state := .sendNoMoreInfo }
  | .frameSentToNode => { s with noMoreTimer := true }
  | _ => s

/-- `mb_state_transition`. -/
def mbStateTransition (config : Config) (answers : Answers) (event : Event) (s : MailboxState) :
    MailboxState :=
  match s.state with
  | .idle => idle config answers event s
  | .probeWakeupInterval => probeWakeupInterval config answers event s
  | .pingZipclients => pingZipclients answers event s
  | .sendingThroughProxy => sendingThroughProxy answers event s
  | .sending => sending config answers event s
  | .sendNoMoreInfoDelayed => sendNoMoreInfoDelayed answers event s
  | .sendNoMoreInfo =>
    match event with
    | .transition => goSendNoMoreInfo answers s
    | .sendDone => goIdle s
    | _ => s
  | .sendingFromProxy | .sendingLastFromProxy =>
    if event = .sendDone then sentFromProxy answers s else s
  | .sendingPing => goIdle (mbSendProxyStatus s)

/-- A transmission is reported. -/
def mbSendDone (config : Config) (answers : Answers) (status : UInt8) (s : MailboxState) :
    MailboxState :=
  mbStateTransition config answers .sendDone { s with txStatus := status }

/-! ### Steps -/

/-- What can happen to the mailbox. -/
inductive Input
  /-- `mb_post_uipbuf` for a packet of a client. -/
  | post (data : List UInt8)
  /-- `MAILBOX_PUSH`. -/
  | push (ripaddr : Address) (handle : UInt8) (data : List UInt8)
  /-- `MAILBOX_POP`. -/
  | pop (ripaddr : Address) (rport : UInt16) (handle : UInt8) (node : UInt16) (last : Bool)
  /-- `MAILBOX_PING`. -/
  | ping (ripaddr : Address) (rport : UInt16) (handle : UInt8)
  /-- `MAILBOX_ACK` and `MAILBOX_NAK`. -/
  | ack (ok : Bool)
  /-- `MAILBOX_WAKEUP_NOTIFICATION`. -/
  | wakeupNotification (ripaddr : Address) (rport : UInt16) (handle : UInt8)
  /-- `MAILBOX_NODE_FAILING`. -/
  | nodeFailing (ip : Address)
  /-- `MAILBOX_CONFIGURATION_SET`. -/
  | configurationSet (properties1 : UInt8)
  /-- `mb_purge_messages` and `mb_failing_notify`. -/
  | purgeMessages (node : UInt16)
  /-- `mb_wakeup_event`. -/
  | wakeup (node : UInt16) (isBroadcast : Bool)
  /-- `mb_send_done_event`: the frame that was taken is reported. -/
  | sendDoneEvent (status : UInt8)
  /-- `mb_send_done`: the WakeUp No More Information frame is reported. -/
  | sendDone (status : UInt8)
  /-- `mb_udp_ping_reply`. -/
  | udpPingReply (status : UInt8)
  /-- `mb_probe_wakeup_callback`. -/
  | probeWakeupCallback
  /-- `send_ping_timeout`. -/
  | sendPingTimeout
  /-- `send_waiting_timeout`. -/
  | sendWaitingTimeout (i : Fin maxMailboxEntries)
  /-- `no_more_timeout`. -/
  | noMoreTimeout
  /-- `mb_put_node_to_sleep_later`. -/
  | putNodeToSleepLater (node : UInt16)
  /-- `mb_node_transmission_ok_event`. -/
  | nodeTransmissionOkEvent (node : UInt16)
  /-- `mb_abort_sending`. -/
  | abortSending
  /-- `mb_init`. -/
  | init

/-- `mb_is_busy`. -/
def mbIsBusy (s : MailboxState) : Bool :=
  !(s.state = .idle || s.state = .sendingPing || s.state = .pingZipclients ||
    s.state = .sendNoMoreInfoDelayed)

/-- `mb_wakeup_event`. -/
def mbWakeupEvent (config : Config) (answers : Answers) (node : UInt16) (isBroadcast : Bool)
    (s : MailboxState) : MailboxState :=
  if !answers.networkIdle then s
  else if s.mbConfMode = enableMailboxService then
    if !answers.probeInProgress && s.state = .idle then
      mbStateTransition config answers .wakeup
        { s with node := node, sendNoMore := true, broadcastWun := isBroadcast }
    else s
  else if s.mbConfMode = enableMailboxProxyForwarding then s.act (.forwardedWakeup node)
  else s

/-- `mb_init`; the state of the state machine stays. -/
def mbInit (s : MailboxState) : MailboxState :=
  { s with blocks := fun _ ↦ .zero, used := fun _ ↦ false, mbList := [] }

/-- One step of the mailbox. -/
def step (config : Config) (s : MailboxState) : Input × Answers → MailboxState
  | (.post data, answers) => mbPostUipbuf config answers data none 0 s
  | (.push ripaddr handle data, answers) => mbPostUipbuf config answers data (some ripaddr) handle s
  | (.pop ripaddr rport handle node last, answers) =>
    if s.state = .idle then
      mbStateTransition config answers (if last then .popLast else .pop)
        { s with
          node := node
          handle := handle
          ripaddr := ripaddr
          rport := rport
          sendNoMore := true }
    else s
  | (.ping ripaddr rport handle, answers) =>
    mbStateTransition config answers .pingReq
      { s with ripaddr := ripaddr, rport := rport, handle := handle }
  | (.ack ok, answers) =>
    mbSendDone config answers (if ok then transmitCompleteOk else transmitCompleteFail) s
  | (.wakeupNotification ripaddr rport handle, answers) =>
    mbStateTransition config answers .wakeup
      { s with
        node := 0
        handle := handle
        ripaddr := ripaddr
        rport := rport
        broadcastWun := false }
  | (.nodeFailing ip, answers) => mbFailingNotifyByip ip answers.clockSeconds s
  | (.configurationSet properties1, _) => { s with mbConfMode := properties1 &&& 7 }
  | (.purgeMessages node, answers) => mbPurgeMessages config answers node s
  | (.wakeup node isBroadcast, answers) => mbWakeupEvent config answers node isBroadcast s
  | (.sendDoneEvent status, answers) =>
    match s.inFlight with
    | none => s
    | some flight =>
      mbSendDone config answers status { s with inFlight := none, log := .reported flight :: s.log }
  | (.sendDone status, answers) => mbSendDone config answers status s
  | (.udpPingReply status, answers) => mbSendDone config answers status s
  | (.probeWakeupCallback, answers) => mbStateTransition config answers .sendDone s
  | (.sendPingTimeout, answers) => mbStateTransition config answers .timeToPing s
  | (.sendWaitingTimeout i, _) => if (s.blocks i).waitingTimer then sendWaitingTimeout i s else s
  | (.noMoreTimeout, answers) =>
    if s.noMoreTimer then mbStateTransition config answers .timeout { s with noMoreTimer := false }
    else s
  | (.putNodeToSleepLater node, _) =>
    if s.state = .idle then
      { s with noMoreTimer := true, state := .sendNoMoreInfoDelayed, node := node }
    else s
  | (.nodeTransmissionOkEvent node, answers) =>
    if s.node = node then mbStateTransition config answers .frameSentToNode s else s
  | (.abortSending, _) => if mbIsBusy s then { s with state := .idle } else s
  | (.init, _) => mbInit s

def MailboxState.powerUp (mbConfMode : UInt8) : MailboxState where
  blocks := fun _ ↦ .zero
  used := fun _ ↦ false
  mbList := []
  state := .idle
  node := 0
  ripaddr := unspecified
  rport := 0
  handle := 0
  sendNoMore := false
  txStatus := 0
  lastEntry := none
  broadcastWun := false
  noMoreTimer := false
  mbConfMode := mbConfMode
  inFlight := none
  lastSent := 0
  lastSerial := 0
  log := []

end ZipGateway.Mailbox
