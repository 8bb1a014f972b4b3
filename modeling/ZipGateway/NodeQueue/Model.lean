import Mathlib.Data.Fintype.Basic
import ZipGateway.Lib.Run
import ZipGateway.TransmitStatus

/-!
# Node queues

The model of `src/src/node_queue.c`: packets for nodes wait in the first-attempt queue or in the
long queue, one at a time is handed to `ClassicZIPNode_input`, and `queue_send_done` decides from
the reported status whether it is dropped, tried again from the long queue, or left to the mailbox.

Of `ClassicZIPNode.c` the model has what bears on the queues: the backup of the packet that is being
sent, the callback that is told about it, and the places where a packet is refused or given back.
What else it does with a packet, and when, is the environment's: the `Outcome` of an input, later
completions with any status, and inputs by the mailbox. A queue is the list of its packets; that the
common pool of packets is exhausted, and that the life of a packet ends, are inputs. Bytes behind
the end of a packet read as 0.

A packet has the number it arrived under, so that the copies that are made of it can be recognised,
and the log has, newest first, which packets were handed over with which flag and which were moved
to the long queue; no function reads either.
-/

set_option autoImplicit false

namespace ZipGateway.NodeQueue

open Lib

/-! ### Packets -/

def uipIpUdpHLen : ℕ := 48

def dtlsPort : UInt16 := 41230

def zwavePort : UInt16 := 4123

def uipProtoUdp : UInt8 := 17

def commandClassZip : UInt8 := 0x23

def commandZipPacket : UInt8 := 0x02

def commandZipKeepAlive : UInt8 := 0x03

def zipPacketFlags1HdrExtIncl : UInt8 := 0x80

def commandClassWakeUp : UInt8 := 0x84

def wakeUpNoMoreInformation : UInt8 := 0x08

def modeFrequentlyListening : UInt16 := 3

def modeMailbox : UInt16 := 4

/-- A byte of a packet. -/
def byteAt (bytes : List UInt8) (i : ℕ) : UInt8 := bytes.getD i 0

/-- The destination port of the UDP header. -/
def destPort (bytes : List UInt8) : UInt16 :=
  (byteAt bytes 42).toUInt16 <<< 8 ||| (byteAt bytes 43).toUInt16

/-- `is_zip_pkt`. -/
def isZipPkt (bytes : List UInt8) : Bool :=
  byteAt bytes 6 == uipProtoUdp && (destPort bytes == dtlsPort || destPort bytes == zwavePort) &&
    byteAt bytes uipIpUdpHLen == commandClassZip && byteAt bytes (uipIpUdpHLen + 1) ==
      commandZipPacket

/-- `is_wu_no_more_info_frame`. -/
def isWuNoMoreInfoFrame (bytes : List UInt8) : Bool :=
  let payload := uipIpUdpHLen + 7
  let extHdrLen := if byteAt bytes (uipIpUdpHLen + 3) &&& zipPacketFlags1HdrExtIncl ≠ 0 then
      (byteAt bytes payload).toNat
    else 0
  isZipPkt bytes && byteAt bytes (payload + extHdrLen) == commandClassWakeUp &&
    byteAt bytes (payload + extHdrLen + 1) == wakeUpNoMoreInformation

/-- A packet with the number it arrived under. -/
structure Packet where
  bytes : List UInt8
  arrival : ℕ
deriving DecidableEq, Repr

/-- `isPacketRequeued`: the flag is the lowest bit of the first byte of the packet. -/
def isPacketRequeued (bytes : List UInt8) : Bool := byteAt bytes 0 &&& 1 != 0

/-- `setPacketRequeued`. -/
def setPacketRequeued (bytes : List UInt8) : List UInt8 :=
  match bytes with
  | [] => []
  | byte :: rest => (byte ||| 1) :: rest

/-- One step of division by the reflected polynomial. -/
def crc32Bit (crc : UInt32) : UInt32 :=
  if crc &&& 1 = 1 then (crc >>> 1) ^^^ 0xEDB88320 else crc >>> 1

/-- An entry of `crc32_tab`. -/
def crc32Tab (byte : UInt32) : UInt32 := crc32Bit^[8] byte

/-- `crc32`. -/
def crc32 (bytes : List UInt8) (crc : UInt32) : UInt32 :=
  bytes.foldl (fun crc byte ↦ crc32Tab ((crc ^^^ byte.toUInt32) &&& 0xFF) ^^^ (crc >>> 8))
    (crc ^^^ 0xFFFFFFFF) ^^^ 0xFFFFFFFF

/-! ### State -/

/-- `enum en_queue_state`. -/
inductive QueueState
  | idle
  | sendingFirst
  | sendingLong
deriving DecidableEq, Repr

/-- The functions that `ClassicZIPNode_input` is given as `completedFunc`. -/
inductive CompletedFunc
  | queueSendDone
  | mbSendDoneEvent
deriving DecidableEq, Repr

/-- What is done with a packet. -/
inductive Act
  /-- The packet is handed to `ClassicZIPNode_input` with `bRequeued`. -/
  | handed (arrival : ℕ) (requeued : Bool)
  /-- `queue_send_done` moves the packet to the long queue after a status. -/
  | moved (arrival : ℕ) (status : UInt8)
  /-- `queue_send_done` leaves the packet to the mailbox. -/
  | mailed (arrival : ℕ)
deriving DecidableEq, Repr

/-- The table of check values has places. -/
scoped instance neZero_two : @NeZero ℕ Zero.ofOfNat0 2 := Nat.instNeZeroSucc

/-- The variables of the module, with those of `ClassicZIPNode.c` that it depends on. -/
structure Queues where
  firstAttemptQueue : List Packet
  longQueue : List Packet
  queueState : QueueState
  blackListCrc32 : Fin 2 → UInt32
  /-- The static counter of `add_fingerprint_uip_buf`. -/
  blackListNext : Fin 2
  backupBuf : Packet
  backupLen : ℕ
  cbCompletedFunc : Option CompletedFunc
  /-- The number of packets that arrived. -/
  arrivals : ℕ
  log : List Act

/-- The configuration of the gateway. -/
structure Config where
  /-- `nodeOfIP` of the destination address. -/
  nodeOfIP : List UInt8 → UInt16
  /-- `nodemask_nodeid_is_invalid`. -/
  nodeIdIsInvalid : UInt16 → Bool
  /-- `cfg.mb_conf_mode != DISABLE_MAILBOX`. -/
  mailboxEnabled : Bool

/-- What the rest of the gateway answers during a step: `rd_get_node_mode`, and whether the pool of
packets has a free one. -/
structure Answers where
  nodeMode : UInt16 → UInt16
  poolFree : Bool

/-- `uip_packetqueue_alloc`. -/
def packetqueueAlloc (answers : Answers) (queue : List Packet) (packet : Packet) : List Packet :=
  if answers.poolFree then queue ++ [packet] else queue

/-! ### Arriving packets -/

/-- `check_fingerprint_uip_buf`, with the check value cut to 16 bits. -/
def checkFingerprint (bytes : List UInt8) (s : Queues) : Bool :=
  let crc := (crc32 bytes 0xFFFF).toUInt16.toUInt32
  decide (∃ i, crc = s.blackListCrc32 i)

/-- `add_fingerprint_uip_buf`. -/
def addFingerprint (bytes : List UInt8) (s : Queues) : Queues :=
  { s with
    blackListCrc32 := Function.update s.blackListCrc32 s.blackListNext (crc32 bytes 0xFFFF)
    blackListNext := s.blackListNext + 1 }

/-- `queued_elements_existes`. -/
def queuedElementsExist (config : Config) (node : UInt16) (s : Queues) : Bool :=
  s.longQueue.any fun packet ↦ config.nodeOfIP packet.bytes == node

/-- The packet is for DTLS, or answered at once, or a duplicate: it does not come to the queues. -/
def notForQueues (bytes : List UInt8) (decrypted : Bool) (s : Queues) : Bool :=
  (destPort bytes == dtlsPort && !decrypted) ||
    ((destPort bytes == dtlsPort || destPort bytes == zwavePort) &&
      byteAt bytes uipIpUdpHLen == commandClassZip &&
      byteAt bytes (uipIpUdpHLen + 1) == commandZipKeepAlive) ||
    checkFingerprint bytes s

/-- The packet goes directly to the long queue. -/
def useLongQueue (config : Config) (answers : Answers) (node : UInt16) (s : Queues) : Bool :=
  (!config.mailboxEnabled || answers.nodeMode node != modeMailbox) &&
    (queuedElementsExist config node s ||
      answers.nodeMode node &&& 0xFF == modeFrequentlyListening ||
      (s.firstAttemptQueue.isEmpty && s.longQueue.isEmpty))

/-- `node_input_queued`. -/
def nodeInputQueued (config : Config) (answers : Answers) (bytes : List UInt8) (node : UInt16)
    (decrypted : Bool) (s : Queues) : Queues :=
  if notForQueues bytes decrypted s then s
  else
    let s := addFingerprint bytes s
    let packet : Packet := ⟨bytes, s.arrivals + 1⟩
    let s := { s with arrivals := s.arrivals + 1 }
    if useLongQueue config answers node s then
      { s with longQueue := packetqueueAlloc answers s.longQueue packet }
    else { s with firstAttemptQueue := packetqueueAlloc answers s.firstAttemptQueue packet }

/-! ### Completions -/

/-- The frame is one that `queue_move_to_mailbox` takes. -/
def movesToMailbox (config : Config) (nodeMode : UInt16) (bytes : List UInt8) : Bool :=
  config.mailboxEnabled && nodeMode == modeMailbox && !isWuNoMoreInfoFrame bytes

/-- The frame goes to the mailbox or, marked as re-queued if `mark` says so, to the long queue. -/
def requeue (config : Config) (answers : Answers) (nodeMode : UInt16) (mark : Bool) (status : UInt8)
    (sent : Packet) (s : Queues) : Queues :=
  if movesToMailbox config nodeMode sent.bytes then { s with log := .mailed sent.arrival :: s.log }
  else
    let bytes := if mark then setPacketRequeued sent.bytes else sent.bytes
    { s with
      longQueue := packetqueueAlloc answers s.longQueue { sent with bytes := bytes }
      log := .moved sent.arrival status :: s.log }

/-- The queue that is being sent from. -/
def sendingQueue (s : Queues) : List Packet :=
  match s.queueState with
  | .idle => []
  | .sendingFirst => s.firstAttemptQueue
  | .sendingLong => s.longQueue

/-- `uip_packetqueue_pop` of the queue that is being sent from, which then is idle. -/
def popSending (s : Queues) : Queues :=
  match s.queueState with
  | .idle => s
  | .sendingFirst =>
    { s with firstAttemptQueue := s.firstAttemptQueue.tail, queueState := .idle }
  | .sendingLong => { s with longQueue := s.longQueue.tail, queueState := .idle }

/-- `queue_send_done`; `sent` is the buffer of the frame, if there is one. -/
def queueSendDone (config : Config) (answers : Answers) (status : UInt8) (sent : Option Packet)
    (s : Queues) : Queues :=
  match s.queueState, sendingQueue s with
  | .idle, _ => s
  | _, [] => { s with queueState := .idle }
  | queueState, data :: _ =>
    let nodeMode := answers.nodeMode (config.nodeOfIP data.bytes)
    if status = transmitCompleteRequeue then { s with queueState := .idle }
    else if status = transmitCompleteRequeueQueued then
      match sent with
      | none => popSending s
      | some sent =>
        popSending (requeue config answers nodeMode (nodeMode &&& 0xFF != modeFrequentlyListening)
          status sent s)
    else
      match queueState, sent with
      | .sendingFirst, some sent =>
        if status = transmitCompleteNoAck ∧ sent.bytes ≠ [] then
          popSending (requeue config answers nodeMode true status sent s)
        else popSending s
      | _, _ => popSending s

/-- `ClassicZIPNode_CallSendCompleted_cb`. -/
def callSendCompleted (config : Config) (answers : Answers) (status : UInt8) (s : Queues) :
    Queues :=
  let sent : Packet := { s.backupBuf with bytes := s.backupBuf.bytes.take s.backupLen }
  let after := { s with backupLen := 0, cbCompletedFunc := none }
  match s.cbCompletedFunc with
  | some .queueSendDone => queueSendDone config answers status (some sent) after
  | _ => after

/-! ### Sending -/

/-- What `ClassicZIPNode_input` does with a packet that it takes. -/
inductive Outcome
  /-- It reports a status at once. -/
  | completes (status : UInt8)
  /-- It returns `FALSE`, as long as the bridge is not ready. -/
  | refuses
  /-- It will report later. -/
  | pending

/-- `ClassicZIPNode_input` for a packet of the queues. -/
def classicZIPNodeInput (config : Config) (answers : Answers) (packet : Packet) (outcome : Outcome)
    (s : Queues) : Queues :=
  if config.nodeIdIsInvalid (config.nodeOfIP packet.bytes) then
    queueSendDone config answers transmitCompleteError (some packet) s
  else if 0 < s.backupLen then
    queueSendDone config answers transmitCompleteRequeue (some packet) s
  else
    let s := { s with
      cbCompletedFunc := some .queueSendDone
      backupBuf := packet
      backupLen := packet.bytes.length }
    match outcome with
    | .completes status => callSendCompleted config answers status s
    | .refuses => queueSendDone config answers transmitCompleteFail none { s with backupLen := 0 }
    | .pending => s

/-- The queue that `process_node_queues` sends from. -/
def nextQueueState (s : Queues) : QueueState :=
  if s.firstAttemptQueue ≠ [] then .sendingFirst
  else if s.longQueue ≠ [] then .sendingLong
  else .idle

/-- `process_node_queues`. -/
def processNodeQueues (config : Config) (answers : Answers) (outcome : Outcome) (s : Queues) :
    Queues :=
  if s.queueState ≠ .idle then s
  else
    let s := { s with queueState := nextQueueState s }
    match sendingQueue s with
    | [] => s
    | packet :: _ =>
      if packet.bytes = [] then popSending s
      else
        classicZIPNodeInput config answers packet outcome
          { s with log := .handed packet.arrival (isPacketRequeued packet.bytes) :: s.log }

/-! ### Steps -/

/-- What can happen to the queues. -/
inductive Input
  /-- A packet for a node arrives. -/
  | arrive (bytes : List UInt8) (node : UInt16) (decrypted : Bool)
  | process (outcome : Outcome)
  /-- A transmission is reported. -/
  | complete (status : UInt8)
  /-- The mailbox hands a packet to `ClassicZIPNode_input`. -/
  | mailboxInput (bytes : List UInt8)
  /-- The life of a packet of the first-attempt queue ends. -/
  | expireFirst (k : ℕ)
  /-- The life of a packet of the long queue ends. -/
  | expireLong (k : ℕ)
  /-- `ClassicZIPNode_init`. -/
  | classicInit
  /-- `node_queue_init`. -/
  | init

/-- One step, with the answers of the rest of the gateway. -/
def step (config : Config) (s : Queues) : Input × Answers → Queues
  | (.arrive bytes node decrypted, answers) => nodeInputQueued config answers bytes node decrypted s
  | (.process outcome, answers) => processNodeQueues config answers outcome s
  | (.complete status, answers) => callSendCompleted config answers status s
  | (.mailboxInput bytes, _) =>
    if 0 < s.backupLen then s
    else
      { s with
        cbCompletedFunc := some .mbSendDoneEvent
        backupBuf := ⟨bytes, 0⟩
        backupLen := bytes.length }
  | (.expireFirst k, _) => { s with firstAttemptQueue := s.firstAttemptQueue.eraseIdx k }
  | (.expireLong k, _) => { s with longQueue := s.longQueue.eraseIdx k }
  | (.classicInit, _) => { s with backupLen := 0 }
  | (.init, _) => { s with firstAttemptQueue := [], longQueue := [], queueState := .idle }

def Queues.powerUp : Queues where
  firstAttemptQueue := []
  longQueue := []
  queueState := .idle
  blackListCrc32 := fun _ ↦ 0
  blackListNext := 0
  backupBuf := ⟨[], 0⟩
  backupLen := 0
  cbCompletedFunc := none
  arrivals := 0
  log := []

end ZipGateway.NodeQueue
