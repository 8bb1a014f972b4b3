import ZipGateway.Lib.Block
import ZipGateway.Lib.Crc16
import ZipGateway.Lib.Run
import ZipGateway.TsParam

/-!
# The Transport Service

The model of `src/libs2/transport_service/transport_service2.c` and of its state table in
`transport2_fsm.c`, as the gateway builds them (`ZIPGW`): a sender that cuts a datagram into
fragments and answers segment requests, and a receiver that puts fragments together in one buffer.

`Ts` holds the static variables: the two control blocks `Scb` and `Rcb`, the transmit buffer, the
state of the table and the flags. The environment `Env` answers `TS_SEND_RAW` and `rand`; both
answers may depend on the whole state, so every behaviour is some `Env`. Timers are pending or not,
and a pending one may expire at any time; their durations and the measured round-trip times are not
modelled. A received frame is the memory at its pointer together with its length, because the
handlers read header bytes without looking at the length.

`send_last_frag` repeats its call of `TS_SEND_RAW` until it is taken, so here the call is always
taken; the code after the jump is never reached. A length that wraps around lets `reply_frag_req`
copy beyond its buffer; what such a copy leaves behind is only modelled as the bytes it read.

`log` records, newest first, the frames taken for transmission, the datagrams handed to the
application, the frames received and how the local sends went. No function reads it.
-/

set_option autoImplicit false

namespace ZipGateway.TransportService

open Function Lib

/-! ### The state table -/

/-- `TRANSPORT2_STATES`. -/
inductive T2State
  | idle
  | receiving
  | sendFragComplete
  | sendFragReq
  | sendFragWait
  | findMissFrag
  | sendFrag
  | sendLastFrag
  | waitAck
deriving DecidableEq, Repr

/-- `TRANSPORT2_EVENTS`, those of the table. -/
inductive T2Event
  | startRecv
  | recvNewFrag
  | noSessionId
  | sendFragComplete
  | noSendFragComplete
  | success
  | success2
  | success3
  | fragRxTimer
  | missingFrag
  | missingFragBcast
  | scastDiffNode
  | bcastDiffNode
  | diffSession
  | subseqDiffSession
  | fragReqComplWaitDiffNode
  | fragReqComplWaitDiffSession
  | recvFragReq
  | recvLastFrag
  | recvFragCompl
  | tieBreak
  | duplFrame
  | fragReqOrCompl
  | startSend
  | sendNewFrag
  | sendNxtMissFrag
  | sentMissFrag
  | recvFragWait
  | sendLastFrag
  | sendLastMissFrag
  | fragComplTimer
  | fragComplTimer2
  | fragComplTimerReq
  | failureLastFrag2
  | fail
deriving DecidableEq, Repr

/-- `trans`: the state table. -/
def trans : List (T2State × T2Event × T2State) :=
  [(.idle, .startRecv, .receiving),
    (.idle, .startSend, .sendFrag),
    (.idle, .sendNewFrag, .sendFrag),
    (.sendFrag, .sendNewFrag, .sendFrag),
    (.receiving, .sendNewFrag, .sendFrag),
    (.waitAck, .sendNewFrag, .sendFrag),
    (.receiving, .recvNewFrag, .receiving),
    (.receiving, .duplFrame, .idle),
    (.receiving, .noSessionId, .sendFragWait),
    (.receiving, .scastDiffNode, .sendFragWait),
    (.sendFrag, .scastDiffNode, .sendFragWait),
    (.waitAck, .scastDiffNode, .sendFragWait),
    (.receiving, .diffSession, .idle),
    (.receiving, .subseqDiffSession, .sendFragWait),
    (.receiving, .fragReqComplWaitDiffNode, .idle),
    (.receiving, .fragReqComplWaitDiffSession, .idle),
    (.sendFragWait, .success, .receiving),
    (.sendFragWait, .success2, .sendFrag),
    (.sendFragWait, .success3, .waitAck),
    (.sendFragComplete, .success, .idle),
    (.sendFragReq, .success, .receiving),
    (.receiving, .fragRxTimer, .findMissFrag),
    (.idle, .fragRxTimer, .idle),
    (.receiving, .bcastDiffNode, .receiving),
    (.receiving, .recvLastFrag, .findMissFrag),
    (.waitAck, .sendFragComplete, .sendFragComplete),
    (.receiving, .recvFragCompl, .idle),
    (.waitAck, .fragReqOrCompl, .waitAck),
    (.waitAck, .fragRxTimer, .idle),
    (.receiving, .fragReqOrCompl, .receiving),
    (.sendFrag, .fragReqOrCompl, .receiving),
    (.findMissFrag, .missingFrag, .sendFragReq),
    (.findMissFrag, .missingFragBcast, .idle),
    (.findMissFrag, .sendFragComplete, .sendFragComplete),
    (.findMissFrag, .noSendFragComplete, .idle),
    (.sendFrag, .recvFragWait, .sendFrag),
    (.receiving, .recvFragWait, .sendFrag),
    (.sendFrag, .sendLastFrag, .sendLastFrag),
    (.sendFrag, .sendLastMissFrag, .sendLastFrag),
    (.sendLastFrag, .success, .waitAck),
    (.waitAck, .fragComplTimer, .sendLastFrag),
    (.waitAck, .fragComplTimerReq, .idle),
    (.waitAck, .fragComplTimer2, .idle),
    (.waitAck, .failureLastFrag2, .idle),
    (.waitAck, .recvFragReq, .sendFrag),
    (.receiving, .recvFragReq, .sendFrag),
    (.waitAck, .recvFragCompl, .idle),
    (.sendFrag, .sendNxtMissFrag, .sendFrag),
    (.sendFrag, .fragComplTimer, .idle),
    (.sendFrag, .fragComplTimerReq, .idle),
    (.sendFrag, .sentMissFrag, .waitAck),
    (.sendFrag, .tieBreak, .receiving),
    (.sendLastFrag, .tieBreak, .receiving),
    (.waitAck, .recvFragWait, .sendFrag),
    (.sendLastFrag, .fail, .idle),
    (.waitAck, .tieBreak, .receiving)]

/-- `find_transition`, which searches the table from its end, and the state it leads to. -/
def nextState (state : T2State) (event : T2Event) : T2State :=
  match trans.reverse.find? (fun entry ↦ entry.1 = state ∧ entry.2.1 = event) with
  | some entry => entry.2.2
  | none => state

/-! ### Constants and state -/

def commandClassTransportService : UInt8 := 0x55

def commandFirstFragment : UInt8 := 0xC0

def commandSubsequentFragment : UInt8 := 0xE0

/-- `COMMAND_SEGMENT_REQUEST_V2`. -/
def commandSegmentRequest : UInt8 := 0xC8

/-- `COMMAND_SEGMENT_COMPLETE_V2`. -/
def commandSegmentComplete : UInt8 := 0xE8

/-- `COMMAND_SEGMENT_WAIT_V2`. -/
def commandSegmentWait : UInt8 := 0xF0

def datagramSizeMax : ℕ := 200

/-- `FRAGMENTMAXPAYLOAD`. -/
def fragmentMaxPayloadMax : ℕ := 47

def firstFragNonpayloadLength : ℕ := 6

def subseqFragNonpayloadLength : ℕ := 7

def firstHdrLen : ℕ := 4

def subseqHdrLen : ℕ := 5

/-- The session id that stands for no receive session. -/
def noSession : ℕ := 0x10

/-- `S2_TRANSMIT_COMPLETE_OK`. -/
def transmitCompleteOk : UInt8 := 0x00

/-- `S2_TRANSMIT_COMPLETE_FAIL`. -/
def transmitCompleteFail : UInt8 := 0x02

/-- `struct sending_cntrl_blk`. The datagram is the memory at its pointer. `completedFunc` is the
number of the send it was given with. -/
structure Scb where
  datalenToSend : ℕ
  missingOffset : ℕ
  offset : ℕ
  remainingDataLen : ℕ
  p : TsParam
  completedFunc : Option ℕ
  sessionId : ℕ
  pendingSegments : UInt8
  datagram : ℕ → UInt8
  datagramLen : ℕ
  sending : Bool
  flagRepliedFragReq : Bool
  transmissionAborted : ℕ
  /-- `frag_compl_list`, which has fifteen entries; see `Scb.fragCompl`. -/
  fragComplList : Fin 15 → Bool
  flagSendFragWait : Bool
  flagReplyFragReq : Bool
  fragWaitP : TsParam
  flagFcTimerExpiredOnce : Bool
  currentDnode : UInt16
  doesNotFitInFirstFrag : Bool
  resetTimer : Bool
  waitRestartTimer : Bool
  timerBtwn2Frags : Bool

/-- `struct receiving_cntrl_blk`, with the fragment of the frame that is being received. The bit
mask and the datagram buffer are given by position. -/
structure Rcb where
  p : TsParam
  sessionId : ℕ
  pendingSegments : UInt8
  fragment : ℕ → UInt8
  fragmentLen : ℕ
  flagRetryFragReqOnce : Bool
  fcTimer : Bool
  rxTimer : Bool
  /-- `rx_data.state`: a segment request has been sent since the last fragment. -/
  rxDataState : Bool
  recvFragComplList : Fin 16 → Bool
  datagramData : ℕ → UInt8
  curRecvdDataSize : ℕ
  currentSnode : UInt16
  bytesRecvdBitmask : ℕ → Bool
  datagramSize : ℕ

/-- The callback a frame was handed to `TS_SEND_RAW` with. -/
inductive RawCallback
  | sendData
  | lastFrag
  | replyFragReq
deriving DecidableEq, Repr

/-- What the module did, for the log. -/
inductive Act
  /-- A call of `ZW_TransportService_SendData` returned true, or false. -/
  | returned (call : ℕ) (result : Bool)
  /-- The `completedFunc` of a call was called. -/
  | completed (call : ℕ) (status : UInt8)
  /-- `TS_SEND_RAW` took a frame. -/
  | sent (snode dnode : UInt16) (frame : List UInt8)
  /-- A frame was given to `TransportService_ApplicationCommandHandler`. -/
  | received (p : TsParam) (cmd : ℕ → UInt8) (cmdLength : UInt8)
  /-- `send_frag_complete_cmd` handed the datagram of a session to the application. -/
  | delivered (session : ℕ) (snode dnode : UInt16) (datagram : List UInt8)
  /-- A divisor was zero. -/
  | dividedByZero

/-- The static variables of the module, with the log. -/
structure Ts where
  currentState : T2State
  flagTieBroken : Bool
  flagInitializeOnce : Bool
  /-- `FragmentMaxPayload`. -/
  fragmentMaxPayload : ℕ
  /-- `t2_txBuf`. -/
  txBuf : List UInt8
  scb : Scb
  rcb : Rcb
  myNodeId : UInt8
  /-- The transmissions whose callback has not come yet. -/
  outstanding : List RawCallback
  /-- The number of the last call of `ZW_TransportService_SendData`. -/
  lastCall : ℕ
  log : List Act

/-- The environment of the module. -/
structure Env where
  /-- `TS_SEND_RAW`: does it take the frame. -/
  sendRaw : Ts → TsParam → List UInt8 → Bool
  /-- `rand`. -/
  rand : Ts → ℕ

/-- The parameters that `memset` leaves. -/
def zeroParam : TsParam := ⟨0, 0, 0, 0, 0, 0, 0⟩

/-- The state at power-up: all statics are zero, except `flag_initialize_once`. -/
def Ts.powerUp (myNodeId : UInt8) : Ts where
  currentState := .idle
  flagTieBroken := false
  flagInitializeOnce := true
  fragmentMaxPayload := 0
  txBuf := List.replicate 54 0
  scb :=
    { datalenToSend := 0, missingOffset := 0, offset := 0, remainingDataLen := 0, p := zeroParam
      completedFunc := none, sessionId := 0, pendingSegments := 0, datagram := fun _ ↦ 0
      datagramLen := 0, sending := false, flagRepliedFragReq := false, transmissionAborted := 0
      fragComplList := fun _ ↦ false, flagSendFragWait := false, flagReplyFragReq := false
      fragWaitP := zeroParam, flagFcTimerExpiredOnce := false, currentDnode := 0
      doesNotFitInFirstFrag := false, resetTimer := false, waitRestartTimer := false
      timerBtwn2Frags := false }
  rcb :=
    { p := zeroParam, sessionId := 0, pendingSegments := 0, fragment := fun _ ↦ 0, fragmentLen := 0
      flagRetryFragReqOnce := false, fcTimer := false, rxTimer := false, rxDataState := false
      recvFragComplList := fun _ ↦ false, datagramData := fun _ ↦ 0, curRecvdDataSize := 0
      currentSnode := 0, bytesRecvdBitmask := fun _ ↦ false, datagramSize := 0 }
  myNodeId := myNodeId
  outstanding := []
  lastCall := 0
  log := []

/-- The state with the sending control block changed. -/
def Ts.modifyScb (s : Ts) (change : Scb → Scb) : Ts := { s with scb := change s.scb }

/-- The state with the receiving control block changed. -/
def Ts.modifyRcb (s : Ts) (change : Rcb → Rcb) : Ts := { s with rcb := change s.rcb }

/-- The state with an act added to the log. -/
def Ts.record (s : Ts) (act : Act) : Ts := { s with log := act :: s.log }

/-- `t2_sm_post_event`. -/
def postEvent (event : T2Event) (s : Ts) : Ts :=
  { s with currentState := nextState s.currentState event }

/-- `ZW_TransportService_Is_Sending`. -/
def isSending (s : Ts) : Bool :=
  match s.currentState with
  | .sendFrag | .sendLastFrag | .waitAck => true
  | _ => false

/-- `ZW_TransportService_Is_Receving`. -/
def isReceiving (s : Ts) : Bool :=
  match s.currentState with
  | .receiving | .sendFragComplete | .sendFragReq | .sendFragWait | .findMissFrag => true
  | _ => false

/-- The entry of `frag_compl_list` for a session. The list has no entry 15; the byte after it is
`flag_send_frag_wait`. -/
def Scb.fragCompl (scb : Scb) (session : ℕ) : Bool :=
  if h : session < 15 then scb.fragComplList ⟨session, h⟩ else scb.flagSendFragWait

/-- Setting an entry of `frag_compl_list`. -/
def Scb.setFragCompl (scb : Scb) (session : ℕ) (value : Bool) : Scb :=
  if h : session < 15 then
    { scb with fragComplList := update scb.fragComplList ⟨session, h⟩ value }
  else { scb with flagSendFragWait := value }

/-! ### Frames -/

/-- `len` bytes of memory from a position on. -/
def readMem (memory : ℕ → UInt8) (start len : ℕ) : List UInt8 :=
  (List.range len).map fun i ↦ memory (start + i)

/-- The check value of a frame, `zgw_crc16` from `0x1D0F`. -/
def frameCrc (bytes : List UInt8) : BitVec 16 := crc16 0x1021 0x1D0F bytes

/-- `add_crc`. -/
def addCrc (bytes : List UInt8) : List UInt8 := bytes ++ crcBytes (frameCrc bytes)

/-- The first fragment of a datagram of `len` bytes, with `count` bytes of it. -/
def firstFragment (session : ℕ) (datagram : ℕ → UInt8) (len count : ℕ) : List UInt8 :=
  addCrc ([commandClassTransportService, commandFirstFragment ||| UInt8.ofNat (len / 256 % 8),
    UInt8.ofNat len, UInt8.ofNat (session * 16)] ++ readMem datagram 0 count)

/-- A subsequent fragment of a datagram of `len` bytes, with `count` bytes of it from `offset`
on. -/
def subseqFragment (session : ℕ) (datagram : ℕ → UInt8) (len offset count : ℕ) : List UInt8 :=
  addCrc ([commandClassTransportService, commandSubsequentFragment ||| UInt8.ofNat (len / 256 % 8),
    UInt8.ofNat len, UInt8.ofNat (session * 16) ||| UInt8.ofNat (offset / 256 % 8),
    UInt8.ofNat offset] ++ readMem datagram offset count)

/-- A frame is put into the transmit buffer. -/
def Ts.load (s : Ts) (frame : List UInt8) : Ts :=
  { s with txBuf := frame ++ s.txBuf.drop frame.length }

/-! ### Sending -/

/-- `TS_SEND_RAW` with an optional callback: the frame is taken or not. -/
def sendRaw (env : Env) (snode dnode : UInt16) (txFlags : UInt8) (frame : List UInt8)
    (callback : Option RawCallback) (s : Ts) : Ts × Bool :=
  let p : TsParam :=
    { snode := snode, dnode := dnode, sendpoint := 0, dendpoint := 0
      txFlags := txFlags ||| transmitOptionAck, rxFlags := 0, scheme := noScheme }
  if env.sendRaw s p frame then
    ({ s with
        outstanding := s.outstanding ++ callback.toList
        log := .sent snode dnode frame :: s.log }, true)
  else (s, false)

/-- `completedFunc` of the current send is called, if there is one. -/
def callCompleted (status : UInt8) (s : Ts) : Ts :=
  match s.scb.completedFunc with
  | some call => s.record (.completed call status)
  | none => s

/-- `pending_segments`: a quotient rounded up. -/
def segments (size unit : ℕ) : UInt8 :=
  UInt8.ofNat (size / unit + if size % unit = 0 then 0 else 1)

/-- The log notes a division by zero. -/
def checkDivisor (unit : ℕ) (s : Ts) : Ts := if unit = 0 then s.record .dividedByZero else s

/-- `send_last_frag`. -/
def sendLastFrag (s : Ts) : Ts :=
  let s := s.modifyRcb fun rcb ↦ { rcb with fcTimer := false }
  let s := s.modifyScb fun scb ↦
    { scb with resetTimer := true, sending := false, pendingSegments := 0 }
  let overhead := if s.scb.doesNotFitInFirstFrag then subseqFragNonpayloadLength
    else firstFragNonpayloadLength
  let s := { s with
    outstanding := s.outstanding ++ [.lastFrag]
    log := .sent s.scb.p.snode s.scb.p.dnode (s.txBuf.take (overhead + s.scb.datalenToSend)) ::
      s.log }
  if s.scb.p.txFlags = receiveStatusTypeBroad ∨ s.scb.p.dnode = 0xFF then
    postEvent .missingFragBcast s
  else
    postEvent .success (s.modifyRcb fun rcb ↦ { rcb with fcTimer := true })

/-- `send_frag_wait_cmd`. -/
def sendFragWaitCmd (env : Env) (s : Ts) : Ts :=
  let s := s.modifyScb fun scb ↦ { scb with resetTimer := true }
  let q := s.scb.fragWaitP
  if s.scb.sending then
    let frame := [commandClassTransportService, commandSegmentWait, s.scb.pendingSegments]
    postEvent .success2 (sendRaw env q.dnode q.snode q.txFlags frame (some .sendData) s).1
  else
    let s := if s.rcb.sessionId = noSession then
        s.modifyRcb fun rcb ↦ { rcb with pendingSegments := 0 }
      else
        (checkDivisor s.rcb.curRecvdDataSize s).modifyRcb fun rcb ↦
          { rcb with pendingSegments := segments rcb.datagramSize rcb.curRecvdDataSize }
    let frame := [commandClassTransportService, commandSegmentWait, s.rcb.pendingSegments]
    postEvent .success (sendRaw env q.dnode q.snode q.txFlags frame none s).1

/-- A fragment wait is sent now, or by the callback of the next fragment while sending. -/
def askToWait (env : Env) (s : Ts) : Ts :=
  if s.scb.sending then s.modifyScb fun scb ↦ { scb with flagSendFragWait := true }
  else sendFragWaitCmd env s

/-- The choice of `FragmentMaxPayload` from the transmit flags. -/
def fragmentMaxPayloadFor (txFlags : UInt8) : ℕ :=
  if txFlags &&& transmitOptionExplore ≠ 0 then fragmentMaxPayloadMax - 8
  else if txFlags &&& transmitOptionNoRoute = 0 then fragmentMaxPayloadMax - 8
  else fragmentMaxPayloadMax

def nextSessionId (env : Env) (s : Ts) : ℕ :=
  let session := if s.scb.sessionId = 0 then env.rand s % 0xF else s.scb.sessionId + 1
  if 0xF < session then 0 else session

/-- The control block of a send session at its first fragment. -/
def Scb.startSession (scb : Scb) (session maxPayload : ℕ) : Scb :=
  let scb := { scb.setFragCompl session false with sessionId := session }
  if maxPayload < scb.datagramLen then
    { scb with remainingDataLen := scb.datagramLen - maxPayload, datalenToSend := maxPayload }
  else { scb with remainingDataLen := scb.datagramLen, datalenToSend := scb.datagramLen }

/-- The first part of `send_first_frag`: the session is set up and its first fragment stands in the
transmit buffer. -/
def loadFirstFrag (env : Env) (s : Ts) : Ts :=
  let maxPayload := fragmentMaxPayloadFor s.scb.p.txFlags
  let s := { s with
    scb := s.scb.startSession (nextSessionId env s) maxPayload
    fragmentMaxPayload := maxPayload }
  let s := s.load
    (firstFragment s.scb.sessionId s.scb.datagram s.scb.datagramLen s.scb.datalenToSend)
  (checkDivisor s.scb.datalenToSend s).modifyScb fun scb ↦
    { scb with pendingSegments := segments scb.remainingDataLen scb.datalenToSend }

/-- The fragment in the transmit buffer, of which `overhead` bytes are not payload, is
transmitted. -/
def transmitFragment (env : Env) (overhead : ℕ) (callback : RawCallback) (s : Ts) : Ts × Bool :=
  let s := s.modifyScb fun scb ↦ { scb with resetTimer := true }
  sendRaw env s.scb.p.snode s.scb.p.dnode s.scb.p.txFlags
    (s.txBuf.take (overhead + s.scb.datalenToSend)) (some callback) s

/-- `send_first_frag`. -/
def sendFirstFrag (env : Env) (s : Ts) : Ts :=
  let s := loadFirstFrag env s
  if s.scb.datagramLen ≤ s.fragmentMaxPayload then
    sendLastFrag (postEvent .sendLastFrag
      (s.modifyScb fun scb ↦ { scb with doesNotFitInFirstFrag := false }))
  else
    match transmitFragment env firstFragNonpayloadLength .sendData s with
    | (s, true) => postEvent .sendNewFrag (s.modifyScb fun scb ↦ { scb with sending := true })
    | (s, false) => s

/-- The first part of `send_subseq_frag`: how much is left, and how much of it goes into the next
fragment. -/
def subseqCursor (s : Ts) : Ts :=
  (s.modifyRcb fun rcb ↦ { rcb with fcTimer := false }).modifyScb fun scb ↦
    let remaining := if scb.remainingDataLen = 0 then scb.datagramLen else scb.remainingDataLen
    { scb with
      remainingDataLen := remaining
      datalenToSend := min s.fragmentMaxPayload remaining }

/-- The next fragment is put into the transmit buffer. -/
def loadSubseqFrag (s : Ts) : Ts :=
  let s := s.modifyScb fun scb ↦ { scb with offset := scb.datagramLen - scb.remainingDataLen }
  s.load (subseqFragment s.scb.sessionId s.scb.datagram s.scb.datagramLen s.scb.offset
    s.scb.datalenToSend)

/-- The end of `send_subseq_frag`: the cursor moves over a fragment that has been taken. -/
def advanceCursor (s : Ts) : Ts :=
  (checkDivisor s.scb.datalenToSend s).modifyScb fun scb ↦
    let remaining := if s.fragmentMaxPayload ≤ scb.remainingDataLen then
      scb.remainingDataLen - s.fragmentMaxPayload else scb.remainingDataLen
    { scb with
      remainingDataLen := remaining
      pendingSegments := segments remaining scb.datalenToSend }

/-- `send_subseq_frag`. -/
def sendSubseqFrag (env : Env) (s : Ts) : Ts :=
  let s := subseqCursor s
  if s.scb.fragCompl s.scb.sessionId then s
  else
    let s := loadSubseqFrag s
    if s.scb.remainingDataLen ≤ s.fragmentMaxPayload then
      sendLastFrag (postEvent .sendLastFrag
        (s.modifyScb fun scb ↦ { scb with doesNotFitInFirstFrag := true }))
    else
      match transmitFragment env subseqFragNonpayloadLength .sendData s with
      | (s, true) => postEvent .sendNewFrag (advanceCursor s)
      | (s, false) => postEvent .sendNewFrag s

/-- `datalen_to_send` of a fragment that is sent again, a `uint16_t`. -/
def resendLen (maxPayload missingOffset datagramLen : ℕ) : ℕ :=
  if datagramLen < missingOffset + maxPayload then (datagramLen + 65536 - missingOffset) % 65536
  else maxPayload

/-- The first part of `reply_frag_req`: the missing fragment is put into the transmit buffer. -/
def loadMissingFrag (s : Ts) : Ts :=
  let s := s.modifyScb fun scb ↦
    { scb with datalenToSend := resendLen s.fragmentMaxPayload scb.missingOffset scb.datagramLen }
  s.load (subseqFragment s.scb.sessionId s.scb.datagram s.scb.datagramLen s.scb.missingOffset
    s.scb.datalenToSend)

/-- `reply_frag_req`. -/
def replyFragReq (env : Env) (s : Ts) : Ts :=
  if s.scb.fragCompl s.scb.sessionId then s
  else
    let s := loadMissingFrag s
    if s.scb.missingOffset + s.scb.datalenToSend = s.scb.datagramLen then
      let s := s.modifyScb fun scb ↦ { scb with doesNotFitInFirstFrag := true }
      let s := postEvent .sendLastMissFrag s
      sendLastFrag (s.modifyScb fun scb ↦ { scb with flagRepliedFragReq := true })
    else
      let callback := if s.scb.sending then RawCallback.sendData else .replyFragReq
      let s := (transmitFragment env subseqFragNonpayloadLength callback s).1
      let s := s.modifyScb fun scb ↦ { scb with flagRepliedFragReq := true }
      s.modifyRcb fun rcb ↦ { rcb with fcTimer := true }

/-- `ZCB_ts_senddata_cb`. -/
def tsSenddataCb (env : Env) (s : Ts) : Ts :=
  if s.scb.flagReplyFragReq then
    replyFragReq env (s.modifyScb fun scb ↦ { scb with flagReplyFragReq := false })
  else if s.scb.flagSendFragWait then
    sendFragWaitCmd env (s.modifyScb fun scb ↦ { scb with flagSendFragWait := false })
  else
    s.modifyScb fun scb ↦
      { scb with timerBtwn2Frags := decide (scb.transmissionAborted ≠ scb.sessionId) }

/-- `ZCB_temp_callback_reply_frag_req`. -/
def tempCallbackReplyFragReq (status : UInt8) (s : Ts) : Ts :=
  postEvent .sentMissFrag (if status ≠ transmitCompleteOk then callCompleted status s else s)

/-- `fc_timer_expired`. -/
def fcTimerExpired (s : Ts) : Ts :=
  if s.scb.flagRepliedFragReq then
    let s := s.modifyScb fun scb ↦
      { scb with
        transmissionAborted := scb.sessionId
        flagRepliedFragReq := false
        currentDnode := 0 }
    callCompleted transmitCompleteFail (postEvent .fragComplTimerReq s)
  else if s.scb.transmissionAborted = s.scb.sessionId then callCompleted transmitCompleteFail s
  else if s.scb.flagFcTimerExpiredOnce then
    let s := s.modifyScb fun scb ↦
      { scb with flagFcTimerExpiredOnce := false, currentDnode := 0 }
    postEvent .fragComplTimer2 (callCompleted transmitCompleteFail s)
  else
    sendLastFrag ((postEvent .fragComplTimer s).modifyScb fun scb ↦
      { scb with flagFcTimerExpiredOnce := true })

/-- `ZW_TransportService_SendData`. -/
def sendData (env : Env) (p : TsParam) (data : ℕ → UInt8) (dataLength : ℕ) (s : Ts) : Ts :=
  let call := s.lastCall + 1
  let s := { s with lastCall := call }.modifyScb fun scb ↦ { scb with resetTimer := true }
  if isSending s || isReceiving s then
    (s.record (.completed call transmitCompleteFail)).record (.returned call false)
  else
    let s := s.modifyScb fun scb ↦
      { scb with
        datagram := data
        p := p
        datagramLen := dataLength
        completedFunc := some call
        sending := false
        flagRepliedFragReq := false
        transmissionAborted := 0x11
        flagSendFragWait := false
        flagReplyFragReq := false
        flagFcTimerExpiredOnce := false
        remainingDataLen := 0
        currentDnode := p.dnode }
    (sendFirstFrag env (postEvent .startSend s)).record (.returned call true)

/-! ### Receiving -/

/-- `discard_all_received_fragments`. -/
def discardAllReceivedFragments (s : Ts) : Ts :=
  s.modifyRcb fun rcb ↦
    { rcb with
      datagramData := fun _ ↦ 0
      p := zeroParam
      pendingSegments := 0
      sessionId := noSession
      currentSnode := 0
      bytesRecvdBitmask := fun _ ↦ false }

/-- `get_next_missing_offset`: the first byte from the second on that has not been received, or 0
when there is none in the datagram. The mask has 26 bytes. -/
def getNextMissingOffset (rcb : Rcb) : ℕ :=
  match (List.range 208).find? fun i ↦ i ≠ 0 ∧ rcb.bytesRecvdBitmask i = false with
  | none => 0
  | some missing => if rcb.datagramSize ≤ missing then 0 else missing

/-- `mark_frag_received`: `none` when it returns 1. -/
def markFragReceived (offset size : ℕ) (s : Ts) : Option Ts :=
  if offset ≠ 0 ∧ s.rcb.bytesRecvdBitmask 0 = false then none
  else some (s.modifyRcb fun rcb ↦
    { rcb with
      bytesRecvdBitmask := fun i ↦ decide (offset ≤ i ∧ i < offset + size) ||
        rcb.bytesRecvdBitmask i })

/-- `send_frag_complete_cmd`. -/
def sendFragCompleteCmd (env : Env) (s : Ts) : Ts :=
  if h : s.rcb.sessionId < 16 then
    let q := s.rcb.p
    let frame := [commandClassTransportService, commandSegmentComplete,
      UInt8.ofNat (s.rcb.sessionId * 16)]
    let s' := s.modifyScb fun scb ↦ { scb with resetTimer := true }
    let s' := (sendRaw env q.dnode q.snode q.txFlags frame none s').1
    let s' := s'.record (.delivered s.rcb.sessionId q.snode q.dnode
      (readMem s.rcb.datagramData 0 s.rcb.datagramSize))
    postEvent .success (s'.modifyRcb fun rcb ↦
      { rcb with
        recvFragComplList := update rcb.recvFragComplList ⟨s.rcb.sessionId, h⟩ true
        sessionId := noSession
        currentSnode := 0
        rxTimer := false })
  else s

/-- The segment request for a missing offset. -/
def segmentRequest (session offset : ℕ) : List UInt8 :=
  [commandClassTransportService, commandSegmentRequest,
    UInt8.ofNat (session * 16) ||| UInt8.ofNat (offset / 256 % 8), UInt8.ofNat offset]

/-- `send_frag_req_cmd`. A refused frame is tried once more while `flag_retry_frag_req_once` is
set. -/
def sendFragReqCmd (env : Env) (s : Ts) : Ts :=
  let missing := getNextMissingOffset s.rcb
  if missing = 0 then postEvent .success s
  else if 0xF < s.rcb.sessionId then s
  else
    let q := s.rcb.p
    let frame := segmentRequest s.rcb.sessionId missing
    let s := (s.load frame).modifyScb fun scb ↦ { scb with resetTimer := true }
    let s := match sendRaw env q.dnode q.snode q.txFlags frame none s with
      | (s, true) => s
      | (s, false) =>
        if s.rcb.flagRetryFragReqOnce then
          (sendRaw env q.dnode q.snode q.txFlags frame none
            (s.modifyRcb fun rcb ↦ { rcb with flagRetryFragReqOnce := false })).1
        else s
    (postEvent .success s).modifyRcb fun rcb ↦ { rcb with rxDataState := true, rxTimer := true }

/-- `find_missing`. The offset goes through a `uint8_t`. -/
def findMissing (env : Env) (s : Ts) : Ts :=
  if getNextMissingOffset s.rcb % 256 ≠ 0 then
    if s.rcb.p.rxFlags = receiveStatusTypeBroad then discardAllReceivedFragments s
    else sendFragReqCmd env (postEvent .missingFrag s)
  else if s.rcb.p.rxFlags = receiveStatusTypeBroad then s
  else sendFragCompleteCmd env (postEvent .sendFragComplete s)

/-- `rx_timer_expired`. -/
def rxTimerExpired (env : Env) (s : Ts) : Ts :=
  let s := s.modifyRcb fun rcb ↦ { rcb with rxTimer := false }
  let s := postEvent .fragRxTimer s
  if s.rcb.rxDataState ∧ getNextMissingOffset s.rcb ≠ 0 then discardAllReceivedFragments s
  else findMissing env s

/-- The session id in a byte of a frame. -/
def sessionIdOf (byte : UInt8) : ℕ := byte.toNat / 16

def datagramSizeOf (cmd : ℕ → UInt8) : ℕ := (cmd 1).toNat % 8 * 256 + (cmd 2).toNat

/-- The offset in a subsequent fragment. -/
def datagramOffsetOf (cmd : ℕ → UInt8) : ℕ := (cmd 3).toNat % 8 * 256 + (cmd 4).toNat

/-- The check value of a received frame is right. -/
def crcValid (cmd : ℕ → UInt8) (cmdLength : ℕ) : Bool := frameCrc (readMem cmd 0 cmdLength) = 0

/-- A transmission is given up when a fragment arrives after a tie break. -/
def abortIfTieBroken (s : Ts) : Ts :=
  if s.flagTieBroken then
    s.modifyScb fun scb ↦ { scb with transmissionAborted := scb.sessionId }
  else s

/-- The end of the case `COMMAND_FIRST_FRAGMENT` of `receive`: the fragment passes all checks. The
mask is cleared, and `mark_frag_received` marks the bytes of this fragment. -/
def storeFirstFragment (env : Env) (cmd : ℕ → UInt8) (size : ℕ) (s : Ts) : Ts :=
  let s := s.modifyRcb fun rcb ↦
    { rcb with
      rxTimer := true
      sessionId := sessionIdOf (cmd 3)
      recvFragComplList :=
        update rcb.recvFragComplList (Fin.ofNat 16 (sessionIdOf (cmd 3))) false
      curRecvdDataSize := size
      datagramSize := datagramSizeOf cmd
      currentSnode := rcb.p.snode
      datagramData := fun i ↦ if i < size then cmd (firstHdrLen + i) else rcb.datagramData i
      bytesRecvdBitmask := fun i ↦ decide (i < size) }
  if size = datagramSizeOf cmd then sendFragCompleteCmd env (postEvent .sendFragComplete s)
  else s.modifyRcb fun rcb ↦ { rcb with rxDataState := false }

/-- The case `COMMAND_FIRST_FRAGMENT` of `receive`. -/
def receiveFirstFragment (env : Env) (s : Ts) : Ts :=
  let s := abortIfTieBroken s
  let cmd := s.rcb.fragment
  if s.rcb.fragmentLen ≤ firstFragNonpayloadLength then postEvent .recvNewFrag s
  else if !crcValid cmd s.rcb.fragmentLen then postEvent .recvNewFrag s
  else if sessionIdOf (cmd 3) ≠ s.rcb.sessionId ∧ s.rcb.sessionId ≠ noSession then
    postEvent .diffSession s
  else if datagramSizeMax < datagramSizeOf cmd then postEvent .diffSession s
  else storeFirstFragment env cmd (s.rcb.fragmentLen - firstFragNonpayloadLength) s

/-- A fragment that cannot belong to the datagram takes a receiver back to idle. -/
def dropDuplicate (s : Ts) : Ts :=
  if s.currentState = .receiving then postEvent .duplFrame s else s

/-- The end of the case `COMMAND_SUBSEQUENT_FRAGMENT` of `receive`: the fragment passes all checks
but the one for a first fragment. -/
def storeSubseqFragment (env : Env) (cmd : ℕ → UInt8) (offset size : ℕ) (s : Ts) : Ts :=
  match markFragReceived offset size s with
  | none => askToWait env (postEvent .subseqDiffSession s)
  | some s =>
    let s := s.modifyRcb fun rcb ↦
      { rcb with
        datagramSize := datagramSizeOf cmd
        datagramData := fun i ↦
          if offset ≤ i ∧ i < offset + size then cmd (subseqHdrLen + (i - offset))
          else rcb.datagramData i }
    if datagramSizeOf cmd ≤ offset + size then findMissing env (postEvent .recvLastFrag s)
    else s.modifyRcb fun rcb ↦ { rcb with rxDataState := false }

/-- The case `COMMAND_SUBSEQUENT_FRAGMENT` of `receive`. -/
def receiveSubseqFragment (env : Env) (s : Ts) : Ts :=
  let s := abortIfTieBroken s
  let cmd := s.rcb.fragment
  let session := sessionIdOf (cmd 3)
  let offset := datagramOffsetOf cmd
  let size := s.rcb.fragmentLen - subseqFragNonpayloadLength
  if s.rcb.fragmentLen ≤ subseqFragNonpayloadLength then postEvent .recvNewFrag s
  else if !crcValid cmd s.rcb.fragmentLen then postEvent .recvNewFrag s
  else if s.rcb.recvFragComplList (Fin.ofNat 16 session) then dropDuplicate s
  else if session ≠ s.rcb.sessionId ∧ s.rcb.sessionId ≠ noSession then postEvent .diffSession s
  else
    let s := s.modifyRcb fun rcb ↦ { rcb with curRecvdDataSize := size }
    if datagramSizeMax < offset + size then dropDuplicate s
    else if datagramSizeMax < datagramSizeOf cmd then postEvent .diffSession s
    else storeSubseqFragment env cmd offset size
      (s.modifyRcb fun rcb ↦ { rcb with rxTimer := true })

/-- The checks that `receive` makes of a segment request and of a segment complete. -/
def controlAccepted (s : Ts) : Option T2Event :=
  let session := sessionIdOf (s.rcb.fragment 2)
  if session = s.scb.transmissionAborted then some .fragReqComplWaitDiffSession
  else if session ≠ s.scb.sessionId then some .fragReqComplWaitDiffSession
  else if s.rcb.p.snode ≠ s.scb.currentDnode ∧ s.rcb.currentSnode ≠ 0 then
    some .fragReqComplWaitDiffNode
  else none

/-- The case `COMMAND_SEGMENT_REQUEST_V2` of `receive`. -/
def receiveSegmentRequest (env : Env) (s : Ts) : Ts :=
  let s := postEvent .fragReqOrCompl s
  match controlAccepted s with
  | some event => postEvent event s
  | none =>
    let s := s.modifyRcb fun rcb ↦ { rcb with fcTimer := false }
    let s := s.modifyScb fun scb ↦
      { scb with
        missingOffset := (s.rcb.fragment 2).toNat % 8 * 256 + (s.rcb.fragment 3).toNat }
    let s := postEvent .recvFragReq s
    if s.scb.sending then s.modifyScb fun scb ↦ { scb with flagReplyFragReq := true }
    else replyFragReq env s

/-- The case `COMMAND_SEGMENT_COMPLETE_V2` of `receive`. -/
def receiveSegmentComplete (s : Ts) : Ts :=
  let s := postEvent .fragReqOrCompl s
  match controlAccepted s with
  | some event => postEvent event s
  | none =>
    let s := s.modifyRcb fun rcb ↦ { rcb with fcTimer := false }
    let s := s.modifyScb fun scb ↦
      { scb.setFragCompl scb.sessionId true with currentDnode := 0 }
    postEvent .recvFragCompl (callCompleted transmitCompleteOk s)

/-- The case `COMMAND_SEGMENT_WAIT_V2` of `receive`. -/
def receiveSegmentWait (env : Env) (s : Ts) : Ts :=
  if s.scb.fragCompl s.scb.sessionId then postEvent .duplFrame s
  else
    let s := postEvent .recvFragWait s
    let s := s.modifyScb fun scb ↦ { scb with transmissionAborted := scb.sessionId }
    let s := tsSenddataCb env s
    let s := s.modifyRcb fun rcb ↦ { rcb with pendingSegments := rcb.fragment 2 }
    s.modifyScb fun scb ↦ { scb with waitRestartTimer := true }

/-- `receive`. -/
def receive (env : Env) (s : Ts) : Ts :=
  let command := s.rcb.fragment 1 &&& 0xF8
  if s.rcb.fragment 0 ≠ commandClassTransportService then s
  else if command = commandFirstFragment then receiveFirstFragment env s
  else if command = commandSubsequentFragment then receiveSubseqFragment env s
  else if command = commandSegmentRequest then receiveSegmentRequest env s
  else if command = commandSegmentComplete then receiveSegmentComplete s
  else if command = commandSegmentWait then receiveSegmentWait env s
  else s

/-- The tie break: a fragment from the node we are sending to, which has the higher node id. -/
def tieBreak (p : TsParam) (s : Ts) : Ts :=
  if isSending s ∧ s.scb.p.dnode = p.snode ∧ s.myNodeId.toUInt16 < p.snode then
    { postEvent .tieBreak s with flagTieBroken := true }
  else s

/-- The frame comes from a third node while a datagram is received from, or sent to, another. -/
def fromThirdNode (p : TsParam) (s : Ts) : Bool :=
  decide (p.snode ≠ s.rcb.currentSnode ∧ s.rcb.currentSnode ≠ 0 ∨
    p.snode ≠ s.scb.currentDnode ∧ s.scb.currentDnode ≠ 0)

/-- The receiving control block is set up at the first frame. -/
def initializeOnce (s : Ts) : Ts :=
  if s.flagInitializeOnce then
    { s with flagInitializeOnce := false }.modifyRcb fun rcb ↦
      { rcb with
        p := zeroParam
        pendingSegments := 0
        sessionId := noSession
        flagRetryFragReqOnce := true
        curRecvdDataSize := 0
        currentSnode := 0
        datagramData := fun _ ↦ 0
        bytesRecvdBitmask := fun _ ↦ false }
  else s

/-- The end of `TransportService_ApplicationCommandHandler`: the frame is taken. -/
def takeFrame (env : Env) (p : TsParam) (cmd : ℕ → UInt8) (cmdLength : UInt8) (s : Ts) : Ts :=
  let s := match s.currentState with
    | .idle => postEvent .startRecv s
    | .receiving => postEvent .recvNewFrag s
    | _ => s
  let s := initializeOnce s
  receive env (s.modifyRcb fun rcb ↦
    { rcb with fragment := cmd, p := p, fragmentLen := cmdLength.toNat })

/-- `TransportService_ApplicationCommandHandler`. -/
def applicationCommandHandler (env : Env) (p : TsParam) (cmd : ℕ → UInt8) (cmdLength : UInt8)
    (s : Ts) : Ts :=
  let s := s.record (.received p cmd cmdLength)
  let s := tieBreak p (s.modifyScb fun scb ↦ { scb with resetTimer := true })
  if p.snode = p.dnode then s
  else if datagramSizeMax < cmdLength.toNat then s
  else
    let s := s.modifyScb fun scb ↦ { scb with fragWaitP := p }
    if fromThirdNode p s ∧ p.rxFlags = receiveStatusTypeSingle then
      if s.currentState = .sendFragWait then s
      else askToWait env (postEvent .scastDiffNode s)
    else if fromThirdNode p s ∧ p.rxFlags = receiveStatusTypeBroad then postEvent .bcastDiffNode s
    else if s.rcb.sessionId = noSession ∧ cmd 1 &&& 0xF8 = commandSubsequentFragment then
      if datagramSizeMax < datagramSizeOf cmd then postEvent .diffSession s
      else askToWait env (postEvent .subseqDiffSession s)
    else takeFrame env p cmd cmdLength s

/-! ### Steps -/

/-- What the module can be given. -/
inductive Input
  /-- `ZW_TransportService_SendData` is called. -/
  | sendData (p : TsParam) (data : ℕ → UInt8) (dataLength : UInt16)
  /-- A frame is received. -/
  | receive (p : TsParam) (cmd : ℕ → UInt8) (cmdLength : UInt8)
  /-- The callback of the `k`-th outstanding transmission. -/
  | rawCallback (k : ℕ) (status : UInt8)
  /-- A pending timer expires. -/
  | fcTimer
  | rxTimer
  | resetTimer
  | waitRestartTimer
  | timerBtwn2Frags

/-- The callback of a transmission. `ZCB_temp_callback_last_frag` only keeps the transmit status. -/
def rawCallback (env : Env) (status : UInt8) (kind : RawCallback) (s : Ts) : Ts :=
  match kind with
  | .sendData => tsSenddataCb env s
  | .lastFrag => s
  | .replyFragReq => tempCallbackReplyFragReq status s

/-- One step of the machine. A timer that is not pending does not expire. -/
def step (env : Env) (s : Ts) : Input → Ts
  | .sendData p data dataLength => sendData env p data dataLength.toNat s
  | .receive p cmd cmdLength => applicationCommandHandler env p cmd cmdLength s
  | .rawCallback k status =>
    match s.outstanding[k]? with
    | none => s
    | some kind => rawCallback env status kind { s with outstanding := s.outstanding.eraseIdx k }
  | .fcTimer =>
    if s.rcb.fcTimer then fcTimerExpired (s.modifyRcb fun rcb ↦ { rcb with fcTimer := false })
      else s
  | .rxTimer => if s.rcb.rxTimer then rxTimerExpired env s else s
  | .resetTimer =>
    if s.scb.resetTimer then
      discardAllReceivedFragments
        { s.modifyScb (fun scb ↦ { scb with resetTimer := false }) with currentState := .idle }
    else s
  | .waitRestartTimer =>
    if s.scb.waitRestartTimer then
      sendFirstFrag env (s.modifyScb fun scb ↦ { scb with waitRestartTimer := false })
    else s
  | .timerBtwn2Frags =>
    if s.scb.timerBtwn2Frags then
      sendSubseqFrag env (s.modifyScb fun scb ↦ { scb with timerBtwn2Frags := false })
    else s

/-- A radio that takes every frame, with the same random number every time. -/
def takesAll : Env where
  sendRaw := fun _ _ _ ↦ true
  rand := fun _ ↦ 1

/-- The memory at the pointer to a frame. -/
def frameMem (frame : List UInt8) : ℕ → UInt8 := fun i ↦ frame.getD i 0

/-- A frame is received. -/
def Input.frame (p : TsParam) (frame : List UInt8) : Input :=
  .receive p (frameMem frame) (UInt8.ofNat frame.length)

end ZipGateway.TransportService
