import ZipGateway.Contiki
import ZipGateway.Lib.Run
import ZipGateway.TransmitStatus
import ZipGateway.TsParam

/-!
# The send queues

The model of `src/src/transport/ZW_SendDataAppl.c`. Two queues share the blocks of `session_memb`:
the application queue `session_list`, from which one session at a time is handed to `send_endpoint`,
and the low-level queue `send_data_list`, from which one frame at a time is handed to the
transceiver or to the transport service. `lock` and `lock_ll` say that one is under way. A block has
one `next` pointer, through which it is linked into either list; as none is ever in both
(`OwnershipOk`), they are two lists here.

The callbacks of sessions run the application and the security layers, which may call this module
again, so the machine has a stack: when a callback is called from a place that goes on afterwards,
that place is pushed as a `Frame`, every call that follows may be one that the callback makes, and
the input `ret` is the return of the callback. Timers, events and the reports of transmissions come
from the main loop, and so only when the stack is empty. `process_post` is not modelled, the events
may come at any time.

What `send_endpoint` makes of a session is an input: it is refused, or goes to `send_data`, or a
security layer takes it and calls `ZW_SendDataAppl_CallbackEx` later, once (`pending`), or at once.
The reports of a frame that was handed over may come at any time and any number of times (`raw`).
Time is not modelled. The events of the emergency, resend and soft reset timers may be in the event
queue when their timer is stopped, so that they may come at any time and the model does not say when
these timers run. The back-off timer is read by `SEND_EVENT_SEND_NEXT`, and the discard timers are
callback timers, which do not expire after they were stopped.

Every allocation of a block has a serial number, every initialization a new epoch, and `log` has
what was done, newest first; no function reads these.
-/

set_option autoImplicit false

namespace ZipGateway.SendDataAppl

open Lib Contiki

/-! ### State -/

/-- The number of blocks of `session_memb`. -/
abbrev numSessions : ℕ := 8

def metaDataMaxDataSize : ℕ := 48

def commandClassNoOperation : UInt8 := 0x00

def commandClassNoOperationLr : UInt8 := 0x04

/-- `COMMAND_CLASS_FIRMWARE_UPDATE_MD_V4`. -/
def commandClassFirmwareUpdateMd : UInt8 := 0x7A

/-- `FIRMWARE_UPDATE_ACTIVATION_SET_V4`. -/
def firmwareUpdateActivationSet : UInt8 := 0x08

/-- The callback of a session with its user pointer. -/
inductive Callback
  | null
  /-- `ZW_SendDataAppl_CallbackEx` with a session of the application queue. -/
  | callbackEx (i : Fin numSessions)
  /-- A function of the application or of a security layer. -/
  | external (user : ℕ)
deriving DecidableEq, Repr

/-- `send_data_appl_session_t` with its frame buffer. -/
structure Session where
  param : TsParam
  /-- `param.discard_timeout` is not 0. -/
  discardTimeout : Bool
  frameData : List UInt8
  callback : Callback
  /-- The discard timer runs. -/
  discardTimer : Bool
  resetSpan : Bool
  serial : ℕ

/-- A cleared block. -/
def Session.zero : Session := ⟨⟨0, 0, 0, 0, 0, 0, 0⟩, false, [], .null, false, false, 0⟩

/-- The security layer that took a session. -/
inductive Layer
  | s0
  | s2
deriving DecidableEq, Repr

/-- A session that a security layer has taken and not reported: the user pointer it will report
with, and the epoch in which it took the session. -/
structure Token where
  block : Fin numSessions
  layer : Layer
  epoch : ℕ
deriving DecidableEq, Repr

/-- Why `send_data_callback_func` is called. -/
inductive Cause
  /-- The frame of session `serial` is reported. -/
  | report (serial : ℕ)
  | emergency
  | refused
deriving DecidableEq, Repr

/-- What the module did. -/
inductive Act
  /-- `send_first` hands a session to `send_endpoint`. -/
  | handed (serial : ℕ)
  /-- `send_data_callback_func` takes a session off the low-level queue. -/
  | completed (serial : ℕ) (cause : Cause)
  /-- The callback of a session is called. -/
  | told (serial : ℕ) (callback : Callback) (status : UInt8)
  /-- `memb_free` of the block of a session, whether it was allocated, and whether it was in a
  queue. -/
  | freed (serial : ℕ) (allocated queued : Bool)
  /-- `ZW_SendDataAbort`. -/
  | abortedRaw
  /-- `sec2_reset_span`. -/
  | resetSpan (node : UInt16)
deriving DecidableEq, Repr

/-- A place that waits for the return of a callback. -/
inductive Frame
  /-- `send_data_callback_func`, for a frame that did not fail. -/
  | completed
  /-- `send_data_callback_func`, for a frame that failed. -/
  | failed (i : Fin numSessions)
  /-- `sec0_abort_all_tx_sessions`. -/
  | abortS0
  /-- `SEND_EVENT_SEND_NEXT_LL`, when the transport service has called back and returns `rc`. -/
  | sendNextLl (rc : Bool)
deriving DecidableEq, Repr

/-- The variables of the module, with the stack and the log. -/
structure SendQueues where
  /-- The memory of `session_memb`. -/
  blocks : Fin numSessions → Session
  /-- The allocated blocks of `session_memb`. -/
  used : Fin numSessions → Bool
  sessionList : List (Fin numSessions)
  sendDataList : List (Fin numSessions)
  lock : Bool
  lockLl : Bool
  resendCounter : UInt8
  currentSession : Option (Fin numSessions)
  currentSessionLl : Option (Fin numSessions)
  /-- The back-off timer has not expired. -/
  backoffTimer : Bool
  /-- The sessions that the security layers have not reported yet. -/
  pending : List Token
  /-- The sessions whose frames were handed over, newest first. -/
  raw : List ℕ
  frames : List Frame
  epoch : ℕ
  lastSerial : ℕ
  log : List Act

/-- The configuration of the gateway. -/
structure Config where
  /-- `CommandAnalyzerIsGet`. -/
  commandAnalyzerIsGet : UInt8 → UInt8 → Bool
  /-- `is_lr_node`. -/
  isLrNode : UInt16 → Bool
  /-- `MyNodeID`. -/
  myNodeID : UInt16

/-! ### Blocks -/

/-- A block with some of its fields changed. -/
def SendQueues.modify (s : SendQueues) (i : Fin numSessions) (change : Session → Session) :
    SendQueues :=
  { s with blocks := Function.update s.blocks i (change (s.blocks i)) }

/-- `memb_alloc` of a block, which gets the next serial number. -/
def SendQueues.allocate (s : SendQueues) (i : Fin numSessions) : SendQueues :=
  { s.modify i fun session ↦ { session with serial := s.lastSerial + 1 } with
    used := membTake s.used i
    lastSerial := s.lastSerial + 1 }

/-- `memb_free`. -/
def SendQueues.free (s : SendQueues) (i : Fin numSessions) : SendQueues :=
  { s with
    used := membFree s.used i
    log := .freed (s.blocks i).serial (s.used i) (i ∈ s.sessionList ∨ i ∈ s.sendDataList) :: s.log }

/-- The callback of a session is called, if it has one. -/
def SendQueues.tell (s : SendQueues) (i : Fin numSessions) (status : UInt8) : SendQueues :=
  if (s.blocks i).callback = .null then s
  else { s with log := .told (s.blocks i).serial (s.blocks i).callback status :: s.log }

/-! ### Completions -/

/-- The SPAN of the destination is reset after a firmware activation that was sent. -/
def resetSpan (i : Fin numSessions) (status : UInt8) (s : SendQueues) : SendQueues :=
  if status = transmitCompleteOk ∧ (s.blocks i).resetSpan then
    { s.modify i fun session ↦ { session with resetSpan := false } with
      log := .resetSpan (s.blocks i).param.dnode :: s.log }
  else s

/-- `ZW_SendDataAppl_CallbackEx`; `ts` is whether there is a status report. When the session is not
one of the application queue its callback may be this function again, which then does nothing. -/
def zwSendDataApplCallbackEx (config : Config) (status : UInt8) (ts : Bool) (i : Fin numSessions)
    (s : SendQueues) : SendQueues :=
  if !s.lock then s
  else
    let session := s.blocks i
    let isGet :=
      config.commandAnalyzerIsGet (session.frameData.getD 0 0) (session.frameData.getD 1 0)
    let s := { s with
      lock := false
      backoffTimer := s.backoffTimer || (status = transmitCompleteOk && ts && isGet) }
    ((resetSpan i status s).free i).tell i status

/-- The callback of a session of the low-level queue. -/
def runCallback (config : Config) (i : Fin numSessions) (status : UInt8) (ts : Bool)
    (s : SendQueues) : SendQueues :=
  match (s.blocks i).callback with
  | .callbackEx j => zwSendDataApplCallbackEx config status ts j (s.tell i status)
  | _ => s.tell i status

/-- `do_discard_timeout_memb`. -/
def doDiscardTimeoutMemb (config : Config) (i : Fin numSessions) (s : SendQueues) : SendQueues :=
  let s := { s with sendDataList := listRemove s.sendDataList i }
  runCallback config i transmitCompleteFail false (s.free i)

/-- `send_data_callback_func`, up to the return of the callback. -/
def sendDataCallbackFunc (config : Config) (cause : Cause) (status : UInt8) (ts : Bool)
    (s : SendQueues) : SendQueues :=
  if !s.lockLl then s
  else if status = transmitCompleteFail then
    if s.resendCounter = (0 : UInt8) then
      match s.sendDataList with
      | [] => { s with lockLl := false }
      | i :: rest =>
        runCallback config i status ts
          { s with
            sendDataList := rest
            frames := .failed i :: s.frames
            log := .completed (s.blocks i).serial cause :: s.log }
    else { s with lockLl := false }
  else
    match s.sendDataList with
    | [] => s
    | i :: rest =>
      let s := { s with
        sendDataList := rest
        resendCounter := 0
        frames := .completed :: s.frames
        log := .completed (s.blocks i).serial cause :: s.log }
      runCallback config i status ts (s.free i)

/-! ### Sending -/

/-- A session with its frame buffer and its callback. -/
def Session.filled (p : TsParam) (discardTimeout : Bool) (data : List UInt8) (callback : Callback)
    (session : Session) : Session :=
  { session with
    param := p
    discardTimeout := discardTimeout
    frameData := data
    callback := callback }

/-- `send_data`; `fb` is whether the frame buffer can be created. A block whose frame buffer cannot
be created stays allocated. -/
def sendData (p : TsParam) (discardTimeout : Bool) (data : List UInt8) (cb : Callback) (fb : Bool)
    (s : SendQueues) : SendQueues × Bool :=
  match membAlloc s.used with
  | none => (s, false)
  | some i =>
    let s := s.allocate i
    if !fb then (s, false)
    else
      let s := s.modify i fun session ↦
        { session.filled p discardTimeout data cb with
          discardTimer := session.discardTimer || discardTimeout }
      ({ s with sendDataList := listAdd s.sendDataList i }, true)

/-- What `send_endpoint` makes of a session. -/
inductive EndpointOutcome
  /-- It returns `FALSE`. -/
  | refused
  /-- It gives the frame to `send_data`. -/
  | direct (data : List UInt8) (fb : Bool)
  /-- A security layer takes the session. -/
  | secure (layer : Layer)
  /-- A security layer calls back at once and returns `rc`. -/
  | secureAtOnce (status : UInt8) (ts rc : Bool)

/-- The callback with `TRANSMIT_COMPLETE_ERROR` when `send_endpoint` has returned `FALSE`. -/
def endpointReturned (config : Config) (i : Fin numSessions) (rc : Bool) (s : SendQueues) :
    SendQueues :=
  if rc then s else zwSendDataApplCallbackEx config transmitCompleteError false i s

/-- `send_first`. -/
def sendFirst (config : Config) (outcome : EndpointOutcome) (s : SendQueues) : SendQueues :=
  match s.sessionList with
  | [] => { s with currentSession := none }
  | i :: rest =>
    let session := s.blocks i
    let s := { s with
      sessionList := rest
      currentSession := some i
      lock := true
      log := .handed session.serial :: s.log }
    match outcome with
    | .refused => endpointReturned config i false s
    | .direct data fb =>
      let (s, rc) := sendData session.param session.discardTimeout data (.callbackEx i) fb s
      endpointReturned config i rc s
    | .secure layer => { s with pending := s.pending ++ [⟨i, layer, s.epoch⟩] }
    | .secureAtOnce status ts rc =>
      endpointReturned config i rc (zwSendDataApplCallbackEx config status ts i s)

/-- `ZW_SendDataAppl`; `fb` is whether the frame buffer can be created. -/
def zwSendDataAppl (config : Config) (p : TsParam) (discardTimeout : Bool) (data : List UInt8)
    (callback : Callback) (fb : Bool) (s : SendQueues) : SendQueues :=
  match membAlloc s.used with
  | none => s
  | some i =>
    let isActivation := data.getD 0 0 = commandClassFirmwareUpdateMd ∧
      data.getD 1 0 = firmwareUpdateActivationSet
    let s := (s.allocate i).modify i fun session ↦
      { session with resetSpan := session.resetSpan || isActivation }
    if !fb then s.free i
    else
      let data := if data.getD 0 0 = commandClassNoOperation ∧ config.isLrNode p.dnode then
          [commandClassNoOperationLr, 0]
        else data
      let s := s.modify i (Session.filled p discardTimeout data callback)
      { s with sessionList := listAdd s.sessionList i }

/-- The handle that `ZW_SendDataAppl` returns for a session. -/
def handle (i : Fin numSessions) : UInt8 := UInt8.ofNat (i + 1)

/-- One turn of `sec0_abort_all_tx_sessions`: the next session of the layer is reported as
failed. -/
def abortS0 (config : Config) (s : SendQueues) : SendQueues :=
  match s.pending.find? fun token ↦ token.layer = .s0 with
  | none => s
  | some token =>
    zwSendDataApplCallbackEx config transmitCompleteFail false token.block
      { s with pending := s.pending.erase token, frames := .abortS0 :: s.frames }

/-- `ZW_SendDataApplAbort` for the block of a handle. -/
def abortBlock (config : Config) (i : Fin numSessions) (s : SendQueues) : SendQueues :=
  if s.currentSession = some i then abortS0 config { s with log := .abortedRaw :: s.log }
  else if i ∈ s.sessionList then
    runCallback config i transmitCompleteFail false
      (SendQueues.free { s with sessionList := listRemove s.sessionList i } i)
  else s

/-- `ZW_SendDataApplAbort`. -/
def zwSendDataApplAbort (config : Config) (handle : UInt8) (s : SendQueues) : SendQueues :=
  if h : handle.toNat ≠ 0 ∧ handle.toNat - 1 < numSessions then
    abortBlock config ⟨handle.toNat - 1, h.2⟩ s
  else s

/-- What becomes of a frame that is handed to the transceiver or to the transport service. -/
inductive RawOutcome
  /-- It is taken, and reported later. -/
  | taken
  /-- It is refused. -/
  | refused
  /-- The transport service reports it at once and returns `rc`. -/
  | reported (status : UInt8) (ts rc : Bool)

/-- The end of `SEND_EVENT_SEND_NEXT_LL`. -/
def rawReturned (config : Config) (rc : Bool) (s : SendQueues) : SendQueues :=
  if rc then s else sendDataCallbackFunc config .refused transmitCompleteFail false s

/-- A session whose frame is sent: the discard timer is stopped, and a frame that goes from the
gateway to the transceiver gets the source `0x00ff`. -/
def Session.sent (config : Config) (session : Session) : Session :=
  { session with
    discardTimer := session.discardTimer && !session.discardTimeout
    param := if session.frameData.length < metaDataMaxDataSize ∧
        session.param.snode = config.myNodeID then
        { session.param with snode := 0xFF }
      else session.param }

/-- The frame of session `serial` goes to the transceiver, or to the transport service if it is too
long, which is refused when the node does not have it. -/
def handOver (config : Config) (outcome : RawOutcome) (serial : ℕ) (s : SendQueues) : SendQueues :=
  match outcome with
  | .taken => rawReturned config true { s with raw := serial :: s.raw }
  | .refused => rawReturned config false s
  | .reported status ts rc =>
    sendDataCallbackFunc config (.report serial) status ts
      { s with raw := serial :: s.raw, frames := .sendNextLl rc :: s.frames }

/-- `SEND_EVENT_SEND_NEXT_LL`. -/
def sendNextLl (config : Config) (outcome : RawOutcome) (s : SendQueues) : SendQueues :=
  match s.sendDataList with
  | [] => { s with currentSessionLl := none }
  | i :: _ =>
    if s.lockLl then { s with currentSessionLl := some i }
    else
      handOver config outcome (s.blocks i).serial
        { s.modify i (Session.sent config) with currentSessionLl := some i, lockLl := true }

/-- `ZW_SendDataAppl_init`. The sessions of the S0 layer report to a module that is not locked, and
`memb_init` clears the discard timers with the blocks. -/
def zwSendDataApplInit (s : SendQueues) : SendQueues :=
  { s with
    lock := false
    lockLl := false
    pending := s.pending.filter fun token ↦ token.layer ≠ .s0
    sessionList := []
    sendDataList := []
    used := fun _ ↦ false
    blocks := fun _ ↦ .zero
    epoch := s.epoch + 1 }

/-! ### Steps -/

/-- What can happen to the module. -/
inductive Input
  | sendDataAppl (p : TsParam) (discardTimeout : Bool) (data : List UInt8) (user : Option ℕ)
    (fb : Bool)
  /-- A security layer sends a frame. -/
  | sendData (p : TsParam) (discardTimeout : Bool) (data : List UInt8) (user : ℕ) (fb : Bool)
  | abort (handle : UInt8)
  /-- A security layer reports its `k`-th session. -/
  | securityDone (k : ℕ) (status : UInt8) (ts : Bool)
  /-- The callback on top of the stack returns. -/
  | ret
  /-- `SEND_EVENT_SEND_NEXT`. -/
  | sendNext (outcome : EndpointOutcome)
  /-- `SEND_EVENT_SEND_NEXT_LL`. -/
  | sendNextLl (outcome : RawOutcome)
  /-- The `k`-th frame that was handed over is reported. -/
  | rawReport (k : ℕ) (status : UInt8) (ts : Bool)
  | emergencyTimeout
  | backoffTimeout
  | resendLockupTimeout
  /-- The soft reset timer expires; `gecko` is whether the chip is one that is reset. -/
  | softResetTimeout (gecko : Bool)
  | discardTimeout (i : Fin numSessions)
  | init

/-- What comes from the main loop, when no callback is running. -/
def mainLoopStep (config : Config) (s : SendQueues) : Input → SendQueues
  | .sendNext outcome => if !s.lock && !s.backoffTimer then sendFirst config outcome s else s
  | .sendNextLl outcome => sendNextLl config outcome s
  | .rawReport k status ts =>
    match s.raw[k]? with
    | none => s
    | some serial => sendDataCallbackFunc config (.report serial) status ts s
  | .emergencyTimeout => sendDataCallbackFunc config .emergency transmitCompleteFail false s
  | .backoffTimeout => { s with backoffTimer := false }
  | .resendLockupTimeout => { s with resendCounter := s.resendCounter + 1 }
  | .softResetTimeout gecko => if gecko then { s with resendCounter := 0 } else s
  | .discardTimeout i =>
    if (s.blocks i).discardTimer then
      doDiscardTimeoutMemb config i
        (s.modify i fun session ↦ { session with discardTimer := false })
    else s
  | .init => zwSendDataApplInit s
  | _ => s

/-- The return of a callback. -/
def returnStep (config : Config) (s : SendQueues) : SendQueues :=
  match s.frames with
  | [] => s
  | .completed :: rest => { s with frames := rest, lockLl := false }
  | .failed i :: rest => { SendQueues.free { s with frames := rest } i with lockLl := false }
  | .abortS0 :: rest => abortS0 config { s with frames := rest }
  | .sendNextLl rc :: rest => rawReturned config rc { s with frames := rest }

/-- One step of the machine. -/
def step (config : Config) (s : SendQueues) (input : Input) : SendQueues :=
  match input with
  | .sendDataAppl p discardTimeout data user fb =>
    zwSendDataAppl config p discardTimeout data (user.elim .null .external) fb s
  | .sendData p discardTimeout data user fb =>
    (sendData p discardTimeout data (.external user) fb s).1
  | .abort handle => zwSendDataApplAbort config handle s
  | .securityDone k status ts =>
    match s.pending[k]? with
    | none => s
    | some token =>
      zwSendDataApplCallbackEx config status ts token.block
        { s with pending := s.pending.eraseIdx k }
  | .ret => returnStep config s
  | input => if s.frames.isEmpty then mainLoopStep config s input else s

def SendQueues.powerUp : SendQueues where
  blocks := fun _ ↦ .zero
  used := fun _ ↦ false
  sessionList := []
  sendDataList := []
  lock := false
  lockLl := false
  resendCounter := 0
  currentSession := none
  currentSessionLl := none
  backoffTimer := false
  pending := []
  raw := []
  frames := []
  epoch := 0
  lastSerial := 0
  log := []

end ZipGateway.SendDataAppl
