import ZipGateway.SecurityS2.Model

/-!
# The inclusion state machine of Security 2

The model of `src/libs2/inclusion/s2_inclusion.c`, built for a controller: the table of transitions,
the actions of the including and of the joining node, and the functions through which frames,
timeouts, reports of transmissions and the decisions of the user come in. `Context` has the fields
of `struct S2` that this file uses, its static variables and the key store.

Three kinds of functions that the machine calls are outside: `S2_send_frame`, `S2_send_data` and the
event handler. A call of one of them is pushed on the stack with what the caller does afterwards,
and `ret` is its return. `S2_send_frame` only puts the frame in a queue. `S2_send_data` may fail
while it is running, and then it reports to `s2_inclusion_send_done` before it returns. The event
handler may call the functions of this file that stand for decisions of the user. All other inputs
come from the main loop, when the stack is empty. Timers are logged and not modelled, a timeout may
come at any time.

`buf` is the memory from the first byte of the frame that was received last, of which `length` bytes
belong to the frame. The array `m_frame_rules` is read one entry behind its end for one command, and
what is found there is part of the environment. The buffer for the frames to send is shared with the
report of the supported commands that `S2.c` makes (`commandsSupportedGet`). `log` has what was
done, newest first; no function reads it.
-/

set_option autoImplicit false

namespace ZipGateway.Inclusion

open Lib SecurityS2

/-! ### Constants -/

/-- `KEX_GET`, the first of the commands of an inclusion. -/
def kexGet : UInt8 := 0x04

def kexReport : UInt8 := 0x05

def kexSet : UInt8 := 0x06

def kexFail : UInt8 := 0x07

def publicKeyReport : UInt8 := 0x08

/-- `SECURITY_2_NETWORK_KEY_GET`. -/
def networkKeyGet : UInt8 := 0x09

/-- `SECURITY_2_NETWORK_KEY_REPORT`. -/
def networkKeyReport : UInt8 := 0x0A

/-- `SECURITY_2_NETWORK_KEY_VERIFY`. -/
def networkKeyVerify : UInt8 := 0x0B

/-- `SECURITY_2_TRANSFER_END`. -/
def transferEnd : UInt8 := 0x0C

/-- `SECURITY_2_COMMANDS_SUPPORTED_REPORT`. -/
def commandsSupportedReport : UInt8 := 0x0E

/-- `KEX_FAIL_KEX_KEY` and the other reasons of a `KEX_FAIL` frame. -/
def kexFailKexKey : UInt8 := 0x01

@[inherit_doc kexFailKexKey]
def kexFailKexScheme : UInt8 := 0x02

@[inherit_doc kexFailKexKey]
def kexFailKexCurves : UInt8 := 0x03

@[inherit_doc kexFailKexKey]
def kexFailDecrypt : UInt8 := 0x05

@[inherit_doc kexFailKexKey]
def kexFailCancel : UInt8 := 0x06

@[inherit_doc kexFailKexKey]
def kexFailAuth : UInt8 := 0x07

@[inherit_doc kexFailKexKey]
def kexFailKeyGet : UInt8 := 0x08

@[inherit_doc kexFailKexKey]
def kexFailKeyVerify : UInt8 := 0x09

@[inherit_doc kexFailKexKey]
def kexFailKeyReport : UInt8 := 0x0A

/-- `SECURITY_2_SCHEME_1_SUPPORT`, the only bit of `SECURITY_2_SCHEME_SUPPORT_MASK`. -/
def scheme1Support : UInt8 := 0x02

/-- `KEX_REPORT_CURVE_25519`, the only bit of `KEX_REPORT_CURVE_MASK`. -/
def curve25519 : UInt8 := 0x01

/-- `KEY_CLASS_S2_UNAUTHENTICATED` and the other bits of a set of keys. -/
def keyClassUnauthenticated : UInt8 := 0x01

@[inherit_doc keyClassUnauthenticated]
def keyClassAuthenticated : UInt8 := 0x02

@[inherit_doc keyClassUnauthenticated]
def keyClassAccess : UInt8 := 0x04

@[inherit_doc keyClassUnauthenticated]
def keyClassAuthenticatedLr : UInt8 := 0x08

@[inherit_doc keyClassUnauthenticated]
def keyClassAccessLr : UInt8 := 0x10

@[inherit_doc keyClassUnauthenticated]
def keyClassS0 : UInt8 := 0x80

/-- `SECURITY_2_KEY_MASK`. -/
def keyMask : UInt8 := 0x87

/-- `SECURITY_2_ECHO_ON`. -/
def echoOn : UInt8 := 0x01

/-- `SECURITY_2_CSA_ON`. -/
def csaOn : UInt8 := 0x02

/-- `SECURITY_2_JOINING_NODE`. -/
def joiningNode : UInt8 := 0x00

/-- `SECURITY_2_INCLUDING_NODE`. -/
def includingNode : UInt8 := 0x01

/-- `SECURITY_2_KEY_REQ_COMPLETE`. -/
def keyReqComplete : UInt8 := 0x01

/-- `SECURITY_2_KEY_VERIFIED`. -/
def keyVerified : UInt8 := 0x02

def tempKeySecure : UInt8 := 5

def networkKeySecure : UInt8 := 6

def nonSecure : UInt8 := 0xFF

def maxRetryCount : UInt8 := 3

def noRetries : UInt8 := 0

def queueFull : UInt8 := 0xFF

/-- `TA1_TIMEOUT`, which is the length of most timeouts, in units of ten milliseconds. -/
def seconds10 : ℕ := 1000

/-- `TA3_TIMEOUT` and `TB1_TIMEOUT`. -/
def seconds30 : ℕ := 3000

/-- `TB0_TIMEOUT`. -/
def seconds60 : ℕ := 6000

/-- `TAI1_TIMEOUT`, the time for a decision of the user. -/
def seconds240 : ℕ := 24000

def isLrNode (node : UInt16) : Bool := decide (256 ≤ node ∧ node ≤ 4000)

/-! ### The context -/

/-- `s2_inclusion_state_t`, without the wildcard `S2_INC_STATE_ANY`. -/
inductive IncState
  | idle
  | awaitingKexGet
  | awaitingKexReport
  | awaitingKeyUserAccept
  | awaitingKexSet
  | awaitingPubKeyA
  | awaitingPubKeyB
  | awaitingUserAccept
  | awaitingUserAAccept
  | pendingEchoKexReport
  | echoKexSetSending
  | awaitingEchoKexSet
  | awaitingEchoKexReport
  | awaitingNetKeyGet
  | awaitingNetKeyReport
  | awaitingNetKeyVerify
  | awaitingTransferEnd
  | keyExchanged
  | sendingFinalTransferEnd
  | errorSent
deriving DecidableEq, Repr

/-- `s2_inclusion_event_t`, without the wildcard `S2_EVT_ANY`. The event `unnamed` stands for a
command byte that is no event of the source's enumeration. -/
inductive Event
  | kexReportRecv
  | pubKeyRecvB
  | pubKeyRecvA
  | kexGetRecv
  | kexSetRecv
  | echoKexReportRecv
  | netKeyReportRecv
  | echoKexSetRecv
  | netKeyGetRecv
  | netKeyVerifyRecv
  | transferEndRecv
  | inclusionErrorRecv
  | includingStart
  | joiningStart
  | includingAccept
  | includingReject
  | includingDecryptFailed
  | sendFinalTransferEnd
  | netKeyVerifyFinalRecv
  | inclusionRetry
  | inclusionTimeout
  | inclusionError
  | inclusionErrorSent
  | inclusionSendDone
  | inclusionSendFailed
  | discoveryComplete
  | noKeysGranted
  | unnamed
deriving DecidableEq, Repr

/-- `inclusion_mode`. -/
inductive InclusionMode
  | csa
  | ssa
deriving DecidableEq, Repr

/-- What the event handler is told, `zwave_event_t`. -/
inductive Push
  | inclusionInitiated (peer : Connection)
  | kexReport (peer : Connection) (securityKeys : UInt8) (csa : Bool)
  | publicKeyChallenge (peer : Connection) (publicKey : List UInt8) (grantedKeys dskLength : UInt8)
  | inclusionComplete (peer : Connection) (exchangedKeys : UInt8)
  | joiningComplete (peer : Connection) (exchangedKeys : UInt8)
  | joiningNeverStarted (peer : Connection) (exchangedKeys : UInt8)
  | inclusionFailed (peer : Connection) (kexFailType : UInt8)
deriving DecidableEq

/-- What the machine did, for the log. -/
inductive Act
  /-- `s2_inclusion_including_start` started an inclusion. -/
  | includingStarted
  /-- A frame of the other node was given to `s2_inclusion_post_event_internal`. -/
  | received (src : Connection) (buf : ℕ → UInt8) (length : ℕ)
  /-- `S2_send_frame` was called, for a frame that was sent before or not. -/
  | sentFrame (con : Connection) (frame : List UInt8) (again : Bool)
  /-- `S2_send_data` was called, for a frame that was sent before or not. -/
  | sentData (con : Connection) (frame : List UInt8) (again : Bool)
  /-- `s2_inclusion_set_timeout` was called. -/
  | setTimeout (interval : ℕ)
  /-- `s2_inclusion_stop_timeout` was called. -/
  | stopTimeout
  /-- `S2_network_key_update` was called. -/
  | networkKeyUpdate (classId : UInt8) (key : List UInt8) (tempKeyExpand : Bool)
  /-- The event handler was called. -/
  | pushed (push : Push)

/-- What a function does after a function outside has returned. -/
inductive Rest
  | done
  | setTimeout (interval : ℕ)
  | netKeyReport
  | post (event : Event)
  | pushFailed (failType : UInt8)
  | sendPubKeyA
  | sendKexReport
deriving DecidableEq

/-- A call of a function outside. -/
inductive Frame
  /-- `s2_inclusion_send_frame` has called `S2_send_frame`. -/
  | sendFrame (rest : Rest)
  /-- `s2_inclusion_send_data` has called `S2_send_data`. -/
  | sendData (rest : Rest)
  /-- `s2_send_echo_kex_set` has called `S2_send_data`. -/
  | sendEcho
  /-- The event handler was called. -/
  | handler (rest : Rest)
deriving DecidableEq

/-- The part of `struct S2` that the inclusion uses, the static variables of the file, and the keys
of the key store by their class. -/
structure Context where
  csaSupport : UInt8
  kexSetByte2 : UInt8
  schemeSupport : UInt8
  curveSupport : UInt8
  keyGranted : UInt8
  keyExchange : UInt8
  keyRequested : UInt8
  kexReportKeys : UInt8
  loadedKeys : BitVec 8
  /-- `inclusion_peer`. -/
  peer : Connection
  buf : ℕ → UInt8
  length : ℕ
  /-- `inclusion_state`. -/
  state : IncState
  /-- `inclusion_mode`. -/
  mode : InclusionMode
  kexFailCode : UInt8
  inclusionBuf : List UInt8
  inclusionBufLength : ℕ
  publicKey : List UInt8
  /-- `m_retry_counter`. -/
  retryCounter : UInt8
  /-- `m_schemes`, `m_curves` and `m_keys`. -/
  schemes : UInt8
  curves : UInt8
  keys : UInt8
  /-- What `keystore_network_key_read` finds. -/
  networkKeys : UInt8 → Option Block
  /-- A loop that does not end was entered. -/
  hung : Bool
  /-- The calls of functions outside that have not returned, the innermost first. -/
  stack : List Frame
  /-- What was done, newest first. -/
  log : List Act

/-- An entry of `m_frame_rules`. -/
structure FrameRule where
  length : UInt8
  encryptionSupport : UInt8
  ruleA : UInt8
  ruleB : UInt8
deriving DecidableEq

/-- The functions outside that only give an answer, and the memory behind `m_frame_rules`. -/
structure Env where
  /-- `keystore_public_key_read`. -/
  publicKey : Context → List UInt8
  /-- The temporary key that is derived from the two public keys and the private key. -/
  tempKey : Context → List UInt8
  rulesBeyond : FrameRule

/-- Entry in the log. -/
def Context.note (ctx : Context) (act : Act) : Context :=
  { ctx with log := act :: ctx.log }

/-- Call of a function outside. -/
def Context.push (ctx : Context) (frame : Frame) : Context :=
  { ctx with stack := frame :: ctx.stack }

/-- `memcpy` to the beginning of a buffer. -/
def overwrite (bytes buffer : List UInt8) : List UInt8 :=
  bytes ++ buffer.drop bytes.length

/-- The frame in `u.inclusion_buf`. -/
def Context.frame (ctx : Context) : List UInt8 :=
  ctx.inclusionBuf.take ctx.inclusionBufLength

/-- A frame of these bytes is built in `u.inclusion_buf`. -/
def Context.build (ctx : Context) (bytes : List UInt8) : Context :=
  { ctx with inclusionBuf := overwrite bytes ctx.inclusionBuf, inclusionBufLength := bytes.length }

/-! ### The table of transitions -/

/-- `s2_action_t`. -/
inductive Action
  | noAction
  | abort
  | resendFrame
  | resendData
  | sendKexGet
  | kexRepRecv
  | sendKexSet
  | sendPubKeyA
  | doEcdhCalcA
  | sendEchoKexReport
  | sendErrorCancel
  | sendErrorDecrypt
  | sendNetKeyReport
  | sendTransferEnd
  | inclusionComplete
  | checkNoKeys
  | joiningStart
  | timeoutTb1Set
  | sendKexReport
  | sendPubKeyB
  | pubKeyARecv
  | doEcdhCalcB
  | sendEchoKexSet
  | sendNetKeyGet
  | sendNetKeyVerify
  | sendFinalTransferEnd
  | joiningComplete
  | remoteError
  | joiningNeverStarted
deriving DecidableEq, Repr

/-- `s2_transition_t`. A wildcard is `none`. -/
structure Transition where
  state : Option IncState
  event : Option Event
  action : Action
  newState : Option IncState
deriving DecidableEq, Repr

/-- A row of a state that leads to a state. -/
def goes (state : IncState) (event : Event) (action : Action) (newState : IncState) : Transition :=
  ⟨some state, some event, action, some newState⟩

/-- A row of a state that leaves the state as it is. -/
def stays (state : IncState) (event : Event) (action : Action) : Transition :=
  ⟨some state, some event, action, none⟩

/-- The rows of `s2_transition_table` for the including node. -/
def includingTransitions : List Transition := [
  goes .idle .includingStart .sendKexGet .awaitingKexReport,
  goes .awaitingKexReport .kexReportRecv .kexRepRecv .awaitingKeyUserAccept,
  stays .awaitingKexReport .inclusionRetry .resendFrame,
  goes .awaitingKeyUserAccept .includingAccept .sendKexSet .awaitingPubKeyB,
  goes .awaitingKeyUserAccept .includingReject .sendErrorCancel .errorSent,
  stays .awaitingKeyUserAccept .kexReportRecv .noAction,
  stays .awaitingPubKeyB .kexReportRecv .noAction,
  stays .awaitingPubKeyB .inclusionRetry .resendFrame,
  goes .awaitingPubKeyB .pubKeyRecvB .sendPubKeyA .awaitingUserAccept,
  goes .awaitingUserAccept .includingAccept .doEcdhCalcA .awaitingEchoKexSet,
  goes .awaitingUserAccept .includingReject .sendErrorCancel .errorSent,
  stays .awaitingUserAccept .inclusionRetry .resendFrame,
  stays .awaitingUserAccept .kexReportRecv .noAction,
  stays .awaitingUserAccept .pubKeyRecvB .noAction,
  goes .awaitingEchoKexSet .echoKexSetRecv .sendEchoKexReport .awaitingNetKeyGet,
  stays .awaitingEchoKexSet .inclusionRetry .resendFrame,
  goes .awaitingEchoKexSet .includingDecryptFailed .sendErrorDecrypt .errorSent,
  stays .awaitingEchoKexSet .kexReportRecv .noAction,
  stays .awaitingEchoKexSet .pubKeyRecvB .noAction,
  goes .awaitingNetKeyGet .netKeyGetRecv .sendNetKeyReport .awaitingNetKeyVerify,
  goes .awaitingNetKeyGet .sendFinalTransferEnd .checkNoKeys .idle,
  stays .awaitingNetKeyGet .inclusionRetry .resendData,
  stays .awaitingNetKeyGet .kexReportRecv .noAction,
  stays .awaitingNetKeyGet .pubKeyRecvB .noAction,
  stays .awaitingNetKeyGet .echoKexSetRecv .noAction,
  stays .awaitingNetKeyGet .netKeyVerifyRecv .noAction,
  goes .awaitingNetKeyVerify .netKeyVerifyFinalRecv .sendTransferEnd .awaitingTransferEnd,
  goes .awaitingNetKeyVerify .netKeyVerifyRecv .sendTransferEnd .awaitingNetKeyGet,
  stays .awaitingNetKeyVerify .inclusionRetry .resendData,
  stays .awaitingNetKeyVerify .kexReportRecv .noAction,
  stays .awaitingNetKeyVerify .pubKeyRecvB .noAction,
  stays .awaitingNetKeyVerify .echoKexSetRecv .noAction,
  stays .awaitingNetKeyVerify .netKeyGetRecv .noAction,
  goes .awaitingTransferEnd .transferEndRecv .inclusionComplete .idle,
  stays .awaitingTransferEnd .inclusionRetry .resendData,
  stays .awaitingTransferEnd .kexReportRecv .noAction,
  stays .awaitingTransferEnd .pubKeyRecvB .noAction,
  stays .awaitingTransferEnd .echoKexSetRecv .noAction,
  stays .awaitingTransferEnd .netKeyGetRecv .noAction,
  stays .awaitingTransferEnd .netKeyVerifyRecv .noAction,
  stays .awaitingTransferEnd .netKeyVerifyFinalRecv .noAction]

/-- The rows of `s2_transition_table` for the joining node. -/
def joiningTransitions : List Transition := [
  goes .idle .joiningStart .joiningStart .awaitingKexGet,
  goes .awaitingKexGet .discoveryComplete .timeoutTb1Set .awaitingKexGet,
  goes .awaitingKexGet .kexGetRecv .sendKexReport .awaitingKexSet,
  goes .awaitingKexGet .includingReject .noAction .idle,
  goes .awaitingKexGet .inclusionTimeout .joiningNeverStarted .idle,
  goes .awaitingKexSet .kexSetRecv .sendPubKeyB .awaitingPubKeyA,
  stays .awaitingKexSet .inclusionRetry .resendFrame,
  stays .awaitingKexSet .kexGetRecv .noAction,
  goes .awaitingPubKeyA .pubKeyRecvA .pubKeyARecv .awaitingUserAAccept,
  stays .awaitingPubKeyA .inclusionRetry .resendFrame,
  stays .awaitingPubKeyA .kexGetRecv .noAction,
  stays .awaitingPubKeyA .kexSetRecv .noAction,
  goes .awaitingUserAAccept .includingAccept .doEcdhCalcB .echoKexSetSending,
  goes .awaitingUserAAccept .includingReject .abort .idle,
  stays .awaitingUserAAccept .kexGetRecv .noAction,
  stays .awaitingUserAAccept .kexSetRecv .noAction,
  stays .awaitingUserAAccept .pubKeyRecvA .noAction,
  goes .echoKexSetSending .inclusionSendFailed .noAction .echoKexSetSending,
  goes .echoKexSetSending .inclusionSendDone .noAction .echoKexSetSending,
  goes .echoKexSetSending .inclusionRetry .sendEchoKexSet .echoKexSetSending,
  goes .echoKexSetSending .echoKexReportRecv .sendNetKeyGet .awaitingNetKeyReport,
  stays .echoKexSetSending .kexGetRecv .noAction,
  stays .echoKexSetSending .kexSetRecv .noAction,
  stays .echoKexSetSending .pubKeyRecvA .noAction,
  goes .awaitingNetKeyReport .netKeyReportRecv .sendNetKeyVerify .keyExchanged,
  stays .awaitingNetKeyReport .inclusionRetry .resendData,
  stays .awaitingNetKeyReport .kexGetRecv .noAction,
  stays .awaitingNetKeyReport .kexSetRecv .noAction,
  stays .awaitingNetKeyReport .pubKeyRecvA .noAction,
  stays .awaitingNetKeyReport .echoKexReportRecv .noAction,
  goes .awaitingNetKeyReport .noKeysGranted .sendFinalTransferEnd .sendingFinalTransferEnd,
  goes .keyExchanged .transferEndRecv .sendNetKeyGet .awaitingNetKeyReport,
  stays .keyExchanged .inclusionRetry .resendData,
  stays .keyExchanged .kexGetRecv .noAction,
  stays .keyExchanged .kexSetRecv .noAction,
  stays .keyExchanged .pubKeyRecvA .noAction,
  stays .keyExchanged .echoKexReportRecv .noAction,
  stays .keyExchanged .netKeyReportRecv .noAction,
  goes .keyExchanged .sendFinalTransferEnd .sendFinalTransferEnd .sendingFinalTransferEnd,
  stays .sendingFinalTransferEnd .inclusionRetry .resendData,
  goes .sendingFinalTransferEnd .inclusionSendDone .joiningComplete .idle,
  stays .sendingFinalTransferEnd .kexGetRecv .noAction,
  stays .sendingFinalTransferEnd .kexSetRecv .noAction,
  stays .sendingFinalTransferEnd .pubKeyRecvA .noAction,
  stays .sendingFinalTransferEnd .echoKexReportRecv .noAction,
  stays .sendingFinalTransferEnd .netKeyReportRecv .noAction,
  stays .sendingFinalTransferEnd .sendFinalTransferEnd .noAction,
  stays .sendingFinalTransferEnd .transferEndRecv .noAction]

/-- The last rows of `s2_transition_table`, which belong to no side. -/
def commonTransitions : List Transition := [
  goes .errorSent .inclusionSendDone .abort .idle,
  goes .idle .inclusionTimeout .noAction .idle,
  ⟨some .idle, none, .noAction, some .idle⟩,
  ⟨none, some .inclusionTimeout, .abort, some .idle⟩,
  ⟨none, some .inclusionErrorSent, .noAction, some .errorSent⟩,
  ⟨none, some .inclusionErrorRecv, .remoteError, some .idle⟩,
  ⟨none, some .inclusionError, .abort, some .idle⟩,
  ⟨none, some .includingDecryptFailed, .noAction, none⟩,
  ⟨none, some .inclusionSendDone, .noAction, none⟩,
  ⟨none, some .inclusionSendFailed, .abort, some .idle⟩,
  ⟨none, some .discoveryComplete, .noAction, none⟩,
  ⟨none, none, .abort, some .idle⟩]

/-- `s2_transition_table`. -/
def transitionTable : List Transition :=
  includingTransitions ++ joiningTransitions ++ commonTransitions

/-- The row is for the event in the state. -/
def Transition.matches (row : Transition) (state : IncState) (event : Event) : Bool :=
  (row.state == none || row.state == some state) && (row.event == none || row.event == some event)

/-- The first row of the table for the event in the state. -/
def lookup (state : IncState) (event : Event) : Option Transition :=
  transitionTable.find? (·.matches state event)

/-- `process_event`, over what performs the action. -/
def dispatch (perform : Action → Context → Context) (event : Event) (ctx : Context) : Context :=
  match lookup ctx.state event with
  | none => ctx
  | some row => perform row.action { ctx with state := row.newState.getD ctx.state }

/-! ### Calls of functions outside -/

/-- The class to which `S2_send_data` changes the one of the connection, for a long range node. -/
def convertNormalToLr (con : Connection) : Connection :=
  if isLrNode con.rNode then
    if con.classId = accessKeySlot then { con with classId := lrAccessKeySlot }
    else if con.classId = authenticatedKeySlot then { con with classId := lrAuthenticatedKeySlot }
    else con
  else con

/-- `s2_inclusion_send_frame`, until `S2_send_frame` returns. -/
def sendFrame (again : Bool) (rest : Rest) (ctx : Context) : Context :=
  (ctx.note (.sentFrame ctx.peer ctx.frame again)).push (.sendFrame rest)

/-- `S2_send_data` is called, from the function of the stack frame. -/
def callSendData (again : Bool) (frame : Frame) (ctx : Context) : Context :=
  let ctx := ctx.note (.sentData ctx.peer ctx.frame again)
  { ctx with peer := convertNormalToLr ctx.peer }.push frame

/-- `s2_inclusion_send_data`, until `S2_send_data` returns. -/
def sendData (again : Bool) (rest : Rest) (ctx : Context) : Context :=
  callSendData again (.sendData rest) ctx

def callHandler (push : Push) (rest : Rest) (ctx : Context) : Context :=
  (ctx.note (.pushed push)).push (.handler rest)

/-- `S2_network_key_update`. -/
def networkKeyUpdate (classId : UInt8) (key : List UInt8) (tempKeyExpand : Bool) (ctx : Context) :
    Context :=
  let ctx := ctx.note (.networkKeyUpdate classId key tempKeyExpand)
  if classId.toNat < nSecClass then
    { ctx with loadedKeys := ctx.loadedKeys ||| BitVec.twoPow 8 classId.toNat }
  else ctx

/-- `m_key_slot_pair`. -/
def keySlotPairs : List (UInt8 × UInt8) :=
  [(keyClassUnauthenticated, 0), (keyClassAuthenticated, authenticatedKeySlot),
    (keyClassAccess, accessKeySlot), (keyClassAuthenticatedLr, lrAuthenticatedKeySlot),
    (keyClassAccessLr, lrAccessKeySlot)]

/-- `s2_restore_keys`. -/
def restoreKeys (ctx : Context) : Context :=
  keySlotPairs.foldl
    (fun ctx pair ↦
      match ctx.networkKeys pair.1 with
      | some key => networkKeyUpdate pair.2 key.toList false ctx
      | none => ctx)
    { ctx with loadedKeys := 0 }

/-- `inclusion_failed_evt_push`. -/
def inclusionFailedEvtPush (failType : UInt8) (ctx : Context) : Context :=
  let ctx := restoreKeys (ctx.note .stopTimeout)
  callHandler (.inclusionFailed ctx.peer failType) .done ctx

/-- `inclusion_failed_frame_send`, which is only called for frames that are not encrypted. -/
def inclusionFailedFrameSend (error : UInt8) (rest : Rest) (ctx : Context) : Context :=
  let ctx := { ctx with kexFailCode := error }.build [commandClassSecurity2, kexFail, error]
  sendFrame false rest { ctx with retryCounter := maxRetryCount }

/-- A `KEX_FAIL` frame is sent, and then the event `S2_INCLUSION_ERROR_SENT` processed. -/
def refuse (error : UInt8) (ctx : Context) : Context :=
  inclusionFailedFrameSend error (.post .inclusionErrorSent) ctx

/-- A frame is built and sent for the first time with `S2_send_frame`. -/
def sendNewFrame (bytes : List UInt8) (rest : Rest) (ctx : Context) : Context :=
  sendFrame false rest { ctx.build bytes with retryCounter := maxRetryCount }

/-- A frame is built and sent for the first time with `S2_send_data`, under a class and with
options. -/
def sendNewData (bytes : List UInt8) (classId txOptions : UInt8) (rest : Rest) (ctx : Context) :
    Context :=
  let ctx := ctx.build bytes
  sendData false rest
    { ctx with peer := { ctx.peer with classId, txOptions }, retryCounter := maxRetryCount }

/-- The `n` bytes of the received frame from a position on. -/
def Context.received (ctx : Context) (position n : ℕ) : List UInt8 :=
  (List.range n).map fun i ↦ ctx.buf (position + i)

/-! ### The actions of the including node -/

/-- `s2_send_kex_get`. -/
def sendKexGet (ctx : Context) : Context :=
  sendNewFrame [commandClassSecurity2, kexGet] (.setTimeout seconds10) ctx

/-- `s2_kex_rep_recv`, with the three functions that validate the frame. -/
def kexRepRecv (ctx : Context) : Context :=
  let ctx := ctx.note .stopTimeout
  let ctx := { ctx with schemeSupport := ctx.buf 3 &&& scheme1Support }
  if ctx.schemeSupport &&& scheme1Support = 0 then refuse kexFailKexScheme ctx
  else
    let ctx := { ctx with curveSupport := ctx.buf 4 &&& curve25519 }
    if ctx.curveSupport &&& curve25519 = 0 then refuse kexFailKexCurves ctx
    else
      let offered :=
        if isLrNode ctx.peer.rNode then
          ctx.buf 5 &&& ~~~(keyClassUnauthenticated ||| keyClassS0)
        else ctx.buf 5
      let ctx :=
        { ctx with
          kexReportKeys := ctx.buf 5
          keyExchange := offered
          keyGranted := offered &&& keyMask }
      if ctx.keyGranted = 0 then refuse kexFailKexKey ctx
      else
        let ctx := { ctx with csaSupport := ctx.buf 2 }
        callHandler (.kexReport ctx.peer ctx.keyGranted (ctx.buf 2 &&& 2 != 0))
          (.setTimeout seconds240) ctx

/-- The third byte of the `KEX_SET` frame: the bit for authentication by the client. -/
def kexSetFlags (mode : InclusionMode) : UInt8 :=
  match mode with
  | .csa => csaOn
  | .ssa => 0

/-- `s2_send_kex_set`. -/
def sendKexSet (ctx : Context) : Context :=
  let ctx := ctx.note .stopTimeout
  sendNewFrame
    [commandClassSecurity2, kexSet, kexSetFlags ctx.mode, scheme1Support, curve25519,
      ctx.keyGranted]
    (.setTimeout seconds10) ctx

/-- `s2_send_transfer_end`. -/
def sendTransferEnd (ctx : Context) : Context :=
  let ctx := ctx.note .stopTimeout
  let ctx := networkKeyUpdate tempKeySecure (ctx.publicKey.take 16) true ctx
  sendNewData [commandClassSecurity2, transferEnd, keyVerified] tempKeySecure 0
    (.setTimeout seconds10) ctx

/-- `s2_send_pub_key_a`, until the event handler returns. -/
def sendPubKeyA (ctx : Context) : Context :=
  let ctx := ctx.note .stopTimeout
  let dskLength : UInt8 :=
    if ctx.keyGranted &&& (keyClassAuthenticated ||| keyClassAccess) ≠ 0 ∧ ctx.mode = .ssa then 2
    else 0
  let ctx := { ctx with publicKey := ctx.received 3 32 }
  callHandler (.publicKeyChallenge ctx.peer (ctx.received 3 32) ctx.keyGranted dskLength)
    .sendPubKeyA ctx

/-- The rest of `s2_send_pub_key_a`. -/
def sendPubKeyARest (env : Env) (ctx : Context) : Context :=
  let key := env.publicKey ctx
  let hides := ctx.mode = .csa ∧ ctx.keyGranted &&& ~~~(keyClassS0 ||| keyClassUnauthenticated) ≠ 0
  sendNewFrame
    ([commandClassSecurity2, publicKeyReport, includingNode] ++
      if hides then overwrite [0, 0, 0, 0] key else key)
    (.setTimeout seconds240) ctx

/-- `s2_do_ecdh_calc_a`. -/
def doEcdhCalcA (env : Env) (ctx : Context) : Context :=
  let ctx := { ctx with publicKey := overwrite (env.tempKey ctx) ctx.publicKey }
  networkKeyUpdate tempKeySecure (ctx.publicKey.take 16) true ctx

/-- The value of an `inclusion_mode` as a number. -/
def InclusionMode.value (mode : InclusionMode) : ℕ :=
  match mode with
  | .csa => 0
  | .ssa => 1

/-- The last condition of `validate_echo_kex_set`: the comparison is the condition of the
conditional expression, whose value is the one of a mode. -/
def validCsaBit (mode : InclusionMode) (flags : UInt8) : Bool :=
  let bit := if flags &&& csaOn = csaOn then 1 else 0
  (if mode.value = bit then InclusionMode.csa.value else InclusionMode.ssa.value) != 0

/-- `validate_echo_kex_set` finds no difference. -/
def validEchoKexSet (ctx : Context) : Bool :=
  ctx.schemeSupport == ctx.buf 3 && ctx.curveSupport == ctx.buf 4 && ctx.keyGranted == ctx.buf 5 &&
    validCsaBit ctx.mode (ctx.buf 2)

/-- `s2_send_echo_kex_report`. -/
def sendEchoKexReport (ctx : Context) : Context :=
  let ctx := ctx.note .stopTimeout
  if validEchoKexSet ctx then
    sendNewData
      [commandClassSecurity2, kexReport, ctx.csaSupport ||| echoOn, ctx.schemeSupport,
        ctx.curveSupport, ctx.kexReportKeys]
      tempKeySecure txVerifyDelivery (.setTimeout seconds10) { ctx with keyExchange := 0 }
  else refuse kexFailAuth ctx

/-- `validate_requested_key` accepts the key: one bit, and the one of a key that was granted. -/
def validRequestedKey (granted requested : UInt8) : Bool :=
  requested &&& (requested - 1) == 0 && requested &&& granted != 0

/-- `translate_keyslot_to_read_for_LR`. -/
def translateKeyslot (requested : UInt8) (node : UInt16) : UInt8 :=
  if isLrNode node then
    if requested = keyClassAuthenticated then keyClassAuthenticatedLr
    else if requested = keyClassAccess then keyClassAccessLr
    else requested
  else requested

/-- The frame of `s2_send_net_key_report`. The bytes of the key are those that were in the buffer
when the key store does not have the key. -/
def networkKeyReportFrame (ctx : Context) (requested : UInt8) : List UInt8 :=
  let key := ((ctx.networkKeys (translateKeyslot requested ctx.peer.rNode)).map
    fun key ↦ key.toList).getD ((ctx.inclusionBuf.drop 3).take 16)
  [commandClassSecurity2, networkKeyReport, requested] ++ key

/-- `s2_send_net_key_report`, until `S2_send_data` returns. -/
def sendNetKeyReport (ctx : Context) : Context :=
  let ctx := ctx.note .stopTimeout
  let requested := ctx.buf 2
  if validRequestedKey ctx.keyGranted requested then
    let ctx :=
      { ctx with keyRequested := requested, keyExchange := ctx.keyExchange ||| requested }
    sendNewData (networkKeyReportFrame ctx requested) tempKeySecure 0 .netKeyReport ctx
  else refuse kexFailKeyGet { ctx with keyRequested := 0 }

/-- The rest of `s2_send_net_key_report`. -/
def sendNetKeyReportRest (ctx : Context) : Context :=
  let ctx := ctx.note (.setTimeout seconds10)
  if ctx.inclusionBuf.getD 2 0 = keyClassS0 then
    networkKeyUpdate networkKeySecure ((ctx.inclusionBuf.drop 3).take 16) false ctx
  else ctx

/-- `s2_inclusion_complete`. -/
def inclusionComplete (ctx : Context) : Context :=
  if ctx.buf 1 = transferEnd ∧ ctx.buf 2 &&& (keyReqComplete ||| keyVerified) = keyReqComplete then
    let ctx := restoreKeys (ctx.note .stopTimeout)
    callHandler (.inclusionComplete ctx.peer ctx.keyExchange) .done ctx
  else inclusionFailedFrameSend kexFailKeyVerify (.pushFailed kexFailKeyVerify) ctx

/-- `s2_check_no_keys`. -/
def checkNoKeys (ctx : Context) : Context :=
  if ctx.keyGranted ≠ 0 then inclusionFailedEvtPush ctx.kexFailCode ctx else inclusionComplete ctx

/-! ### The actions of the joining node -/

/-- `s2_joining_start`. -/
def joiningStart (ctx : Context) : Context :=
  { ctx with peer := { ctx.peer with txOptions := 0 } }.note (.setTimeout seconds60)

/-- `s2_send_kex_report`, until the event handler returns. -/
def sendKexReport (ctx : Context) : Context :=
  let ctx := { ctx.note .stopTimeout with networkKeys := fun _ ↦ none }
  callHandler (.inclusionInitiated ctx.peer) .sendKexReport ctx

/-- The rest of `s2_send_kex_report`. -/
def sendKexReportRest (ctx : Context) : Context :=
  let ctx := { ctx with csaSupport := kexSetFlags ctx.mode }
  sendNewFrame
    [commandClassSecurity2, kexReport, ctx.csaSupport, ctx.schemes, ctx.curves, ctx.keys]
    (.setTimeout seconds240) ctx

/-- One bit is selected at most, and one that is supported. -/
def validSelection (selected supported : UInt8) : Bool :=
  selected &&& (selected - 1) == 0 && selected &&& supported != 0

/-- `s2_send_pub_key_b`. -/
def sendPubKeyB (env : Env) (ctx : Context) : Context :=
  let ctx := ctx.note .stopTimeout
  if validSelection (ctx.buf 3) ctx.schemes then
    let ctx := { ctx with schemeSupport := ctx.buf 3 }
    if validSelection (ctx.buf 4) ctx.curves then
      let ctx := { ctx with curveSupport := ctx.buf 4 }
      if ~~~ctx.keys &&& ctx.buf 5 = 0 then
        let ctx := { ctx with keyGranted := ctx.buf 5 }
        if ctx.buf 2 &&& csaOn ≠ 0 ∧ ctx.mode ≠ .csa then refuse kexFailKexKey ctx
        else
          let ctx :=
            { ctx with
              mode := if ctx.buf 2 &&& csaOn ≠ 0 then ctx.mode else .ssa
              keyExchange := 0x01
              kexSetByte2 := ctx.buf 2 }
          let key := env.publicKey ctx
          let hides :=
            ctx.mode = .ssa ∧ ctx.keyGranted &&& ~~~(keyClassS0 ||| keyClassUnauthenticated) ≠ 0
          sendNewFrame
            ([commandClassSecurity2, publicKeyReport, joiningNode] ++
              if hides then overwrite [0, 0] key else key)
            (.setTimeout seconds10) ctx
      else refuse kexFailKexKey ctx
    else refuse kexFailKexCurves ctx
  else refuse kexFailKexScheme ctx

/-- `s2_pub_key_a_recv`. -/
def pubKeyARecv (ctx : Context) : Context :=
  let ctx := (ctx.note .stopTimeout).note (.setTimeout seconds240)
  let ctx := { ctx with publicKey := ctx.received 3 32 }
  let dskLength : UInt8 :=
    if ctx.keyGranted &&& (keyClassAuthenticated ||| keyClassAccess) ≠ 0 ∧ ctx.mode = .csa then 4
    else 0
  callHandler (.publicKeyChallenge ctx.peer (ctx.received 3 32) ctx.keyGranted dskLength) .done ctx

/-- `s2_send_echo_kex_set`, until `S2_send_data` returns. -/
def sendEchoKexSet (again : Bool) (ctx : Context) : Context :=
  let ctx := { ctx.note .stopTimeout with retryCounter := ctx.retryCounter - 1 }
  let ctx := ctx.build
    [commandClassSecurity2, kexSet, ctx.kexSetByte2 ||| echoOn, ctx.schemeSupport, ctx.curveSupport,
      ctx.keyGranted]
  callSendData again .sendEcho
    { ctx with
      peer := { ctx.peer with classId := tempKeySecure, txOptions := txVerifyDelivery } }

/-- `s2_do_ecdh_calc_b`. -/
def doEcdhCalcB (env : Env) (ctx : Context) : Context :=
  let ctx := { ctx with publicKey := overwrite (env.tempKey ctx) ctx.publicKey }
  let ctx := networkKeyUpdate tempKeySecure (ctx.publicKey.take 16) true ctx
  sendEchoKexSet false { ctx with retryCounter := 24 }

/-- The loop of `s2_send_net_key_get`, which ends after at most eight shifts or never. -/
def advanceKey (granted : UInt8) : ℕ → UInt8 → Option UInt8
  | 0, _ => none
  | n + 1, key => if key &&& granted ≠ 0 then some key else advanceKey granted n (key <<< 1)

/-- `validate_echo_kex_report` finds no difference. -/
def validEchoKexReport (ctx : Context) : Bool :=
  ctx.schemes == ctx.buf 3 && ctx.curves == ctx.buf 4 && ctx.keys == ctx.buf 5 &&
    ctx.csaSupport ||| echoOn == ctx.buf 2

/-- The received frame is a transfer end in which the key is not verified, or the exchange
complete. -/
def badTransferEnd (ctx : Context) : Bool :=
  ctx.buf 1 == transferEnd && ctx.buf 2 &&& (keyReqComplete ||| keyVerified) != keyVerified

/-- `s2_send_net_key_get`, over what processes the event that no keys were granted. -/
def sendNetKeyGet (noKeysGranted : Context → Context) (ctx : Context) : Context :=
  let ctx := ctx.note .stopTimeout
  if ctx.buf 1 = kexReport ∧ validEchoKexReport ctx = false then refuse kexFailAuth ctx
  else if badTransferEnd ctx then
    inclusionFailedFrameSend kexFailKeyVerify (.post .inclusionError) ctx
  else if ctx.keyGranted = 0 then noKeysGranted ctx
  else
    match advanceKey ctx.keyGranted 9 ctx.keyExchange with
    | none => { ctx with hung := true }
    | some key =>
      sendNewData [commandClassSecurity2, networkKeyGet, key] tempKeySecure txVerifyDelivery
        (.setTimeout seconds10) { ctx with keyExchange := key }

/-- `s2_send_net_key_verify`. -/
def sendNetKeyVerify (ctx : Context) : Context :=
  let ctx := ctx.note .stopTimeout
  let receivedKey := ctx.buf 2
  if receivedKey = ctx.keyExchange then
    let ctx :=
      { ctx with
        networkKeys :=
          Function.update ctx.networkKeys receivedKey (some (padBlock (ctx.received 3 16)))
        keyExchange := ctx.keyExchange <<< 1 }
    let ctx := networkKeyUpdate networkKeySecure (ctx.received 3 16) false ctx
    sendNewData [commandClassSecurity2, networkKeyVerify] networkKeySecure 0
      (.setTimeout seconds10) ctx
  else refuse kexFailKeyReport ctx

/-- `s2_send_final_transfer_end`. -/
def sendFinalTransferEnd (ctx : Context) : Context :=
  let ctx := ctx.note .stopTimeout
  if badTransferEnd ctx then
    inclusionFailedFrameSend kexFailKeyVerify (.post .inclusionError) ctx
  else
    sendNewData [commandClassSecurity2, transferEnd, keyReqComplete] tempKeySecure 0 .done ctx

/-- `s2_joining_complete`, for one of its two events. -/
def joiningComplete (push : Connection → UInt8 → Push) (ctx : Context) : Context :=
  let ctx := restoreKeys ctx
  callHandler (push ctx.peer ctx.keyGranted) .done ctx

/-! ### Processing of events -/

/-- The actions that process no further event themselves. -/
def perform (env : Env) (action : Action) (ctx : Context) : Context :=
  match action with
  | .noAction => ctx
  | .abort => inclusionFailedEvtPush ctx.kexFailCode ctx
  | .resendFrame => sendFrame true .done ctx
  | .resendData => sendData true .done ctx
  | .sendKexGet => sendKexGet ctx
  | .kexRepRecv => kexRepRecv ctx
  | .sendKexSet => sendKexSet ctx
  | .sendPubKeyA => sendPubKeyA ctx
  | .doEcdhCalcA => doEcdhCalcA env ctx
  | .sendEchoKexReport => sendEchoKexReport ctx
  | .sendErrorCancel => inclusionFailedFrameSend kexFailCancel .done ctx
  | .sendErrorDecrypt => inclusionFailedFrameSend kexFailDecrypt .done ctx
  | .sendNetKeyReport => sendNetKeyReport ctx
  | .sendTransferEnd => sendTransferEnd ctx
  | .inclusionComplete => inclusionComplete ctx
  | .checkNoKeys => checkNoKeys ctx
  | .joiningStart => joiningStart ctx
  | .timeoutTb1Set => (ctx.note .stopTimeout).note (.setTimeout seconds30)
  | .sendKexReport => sendKexReport ctx
  | .sendPubKeyB => sendPubKeyB env ctx
  | .pubKeyARecv => pubKeyARecv ctx
  | .doEcdhCalcB => doEcdhCalcB env ctx
  | .sendEchoKexSet => sendEchoKexSet true ctx
  -- The event that no keys were granted never leads back to this action.
  | .sendNetKeyGet => ctx
  | .sendNetKeyVerify => sendNetKeyVerify ctx
  | .sendFinalTransferEnd => sendFinalTransferEnd ctx
  | .joiningComplete => joiningComplete .joiningComplete ctx
  | .remoteError => inclusionFailedEvtPush (ctx.buf 2) ctx
  | .joiningNeverStarted => joiningComplete .joiningNeverStarted ctx

/-- The action of a row of the table. -/
def performAction (env : Env) (action : Action) (ctx : Context) : Context :=
  match action with
  | .sendNetKeyGet => sendNetKeyGet (dispatch (perform env) .noKeysGranted) ctx
  | action => perform env action ctx

/-- `process_event`. -/
def processEvent (env : Env) (event : Event) (ctx : Context) : Context :=
  dispatch (performAction env) event ctx

/-- What follows the return of a function outside. -/
def resume (env : Env) (rest : Rest) (ctx : Context) : Context :=
  match rest with
  | .done => ctx
  | .setTimeout interval => ctx.note (.setTimeout interval)
  | .netKeyReport => sendNetKeyReportRest ctx
  | .post event => processEvent env event ctx
  | .pushFailed failType => inclusionFailedEvtPush failType ctx
  | .sendPubKeyA => sendPubKeyARest env ctx
  | .sendKexReport => sendKexReportRest ctx

/-- The function outside that was called last returns, with this answer if it sends something. -/
def ret (env : Env) (success : Bool) (ctx : Context) : Context :=
  match ctx.stack with
  | [] => ctx
  | .sendFrame rest :: stack | .sendData rest :: stack =>
    resume env rest
      { ctx with stack, retryCounter := if success then ctx.retryCounter - 1 else queueFull }
  | .sendEcho :: stack => { ctx with stack }.note (.setTimeout seconds10)
  | .handler rest :: stack => resume env rest { ctx with stack }

/-! ### Received frames -/

def singleRuleSupport : UInt8 := 0

def dualRuleSupport : UInt8 := 1

def echoSupport : UInt8 := 2

/-- `m_frame_rules`. -/
def frameRules : List FrameRule := [
  ⟨2, singleRuleSupport, nonSecure, nonSecure⟩,
  ⟨6, echoSupport, nonSecure, tempKeySecure⟩,
  ⟨6, echoSupport, nonSecure, tempKeySecure⟩,
  ⟨3, dualRuleSupport, nonSecure, tempKeySecure⟩,
  ⟨35, singleRuleSupport, nonSecure, nonSecure⟩,
  ⟨3, singleRuleSupport, tempKeySecure, tempKeySecure⟩,
  ⟨19, singleRuleSupport, tempKeySecure, tempKeySecure⟩,
  ⟨2, singleRuleSupport, networkKeySecure, networkKeySecure⟩,
  ⟨3, singleRuleSupport, tempKeySecure, tempKeySecure⟩]

/-- `m_key_slot_key_class_pair`. -/
def keySlotKeyClass : List UInt8 :=
  [keyClassUnauthenticated, keyClassAuthenticated, keyClassAccess, keyClassAuthenticated,
    keyClassAccess, 0x00, keyClassS0]

/-- What `s2_inclusion_post_event_internal` makes of a frame. -/
inductive Outcome
  /-- It is no command of an inclusion, or there is none. -/
  | ignored
  /-- It is too short. -/
  | tooShort
  /-- It was not encrypted as it has to be. -/
  | refused
  /-- It is an event. -/
  | event (event : Event)
deriving DecidableEq

/-- The class of a network key verify is that of the key that was requested last, or of one that was
exchanged before. -/
def validVerifyClass (ctx : Context) : Bool :=
  match keySlotKeyClass[ctx.peer.classId.toNat]? with
  | none => false
  | some keyClass => ctx.keyRequested == keyClass || ctx.keyExchange &&& keyClass != 0

/-- The frame was encrypted as the rule says. -/
def validClass (rule : FrameRule) (ctx : Context) : Bool :=
  let cryptRule :=
    if rule.encryptionSupport = echoSupport ∧ ctx.buf 2 &&& echoOn ≠ 0 then rule.ruleB
      else rule.ruleA
  if cryptRule = networkKeySecure then validVerifyClass ctx
  else cryptRule == ctx.peer.classId ||
    (rule.encryptionSupport == dualRuleSupport && ctx.peer.classId == rule.ruleB)

/-- The event of a frame that was accepted. -/
def frameEvent (ctx : Context) : Event :=
  let flag := ctx.buf 2 &&& 1 != 0
  if ctx.buf 1 = kexGet then .kexGetRecv
  else if ctx.buf 1 = kexReport then if flag then .echoKexReportRecv else .kexReportRecv
  else if ctx.buf 1 = kexSet then if flag then .echoKexSetRecv else .kexSetRecv
  else if ctx.buf 1 = kexFail then .inclusionErrorRecv
  else if ctx.buf 1 = publicKeyReport then if flag then .pubKeyRecvA else .pubKeyRecvB
  else if ctx.buf 1 = networkKeyGet then .netKeyGetRecv
  else if ctx.buf 1 = networkKeyReport then .netKeyReportRecv
  else if ctx.buf 1 = networkKeyVerify then
    if ctx.keyExchange = ctx.keyGranted then .netKeyVerifyFinalRecv else .netKeyVerifyRecv
  else if ctx.buf 1 = transferEnd then
    if (0 - ctx.keyExchange) &&& ctx.keyGranted ≠ 0 then .transferEndRecv else .sendFinalTransferEnd
  else .unnamed

/-- What `s2_inclusion_post_event_internal` makes of the frame in the context. -/
def outcome (env : Env) (ctx : Context) : Outcome :=
  let index := (ctx.buf 1 - kexGet).toNat
  let rule := frameRules.getD index env.rulesBeyond
  if frameRules.length < index ∨ ctx.state = .idle then .ignored
  else if ctx.length < rule.length.toNat then .tooShort
  else if validClass rule ctx then .event (frameEvent ctx)
  else .refused

/-- `s2_inclusion_post_event_internal`. -/
def postEventInternal (env : Env) (ctx : Context) : Context :=
  match outcome env ctx with
  | .ignored => ctx
  | .tooShort => processEvent env .inclusionError ctx
  | .refused => refuse kexFailAuth ctx
  | .event event => processEvent env event ctx

/-- The context in which `s2_inclusion_post_event` gives a frame to the state machine, if it
does. -/
def accept (src : Connection) (buf : ℕ → UInt8) (length : ℕ) (ctx : Context) : Option Context :=
  if src.rxOptions &&& rxMulticast = rxMulticast then none
  else
    let peer := if ctx.state = .awaitingKexGet then src else ctx.peer
    if peer.rNode = src.rNode then
      some ({ ctx with buf, length, peer := { peer with classId := src.classId } }.note
        (.received src buf length))
    else none

/-- `s2_inclusion_post_event`, for a frame that `S2.c` has put in the context. -/
def postEvent (env : Env) (src : Connection) (buf : ℕ → UInt8) (length : ℕ) (ctx : Context) :
    Context :=
  match accept src buf length ctx with
  | none => { ctx with buf, length }
  | some ctx => postEventInternal env ctx

/-! ### The machine -/

/-- The inputs of the machine. -/
inductive Input
  /-- `s2_inclusion_including_start`. -/
  | includingStart (con : Connection)
  /-- `s2_inclusion_joining_start`. -/
  | joiningStart (con : Connection) (csa : Bool)
  /-- `s2_inclusion_key_grant`. -/
  | keyGrant (accepts : Bool) (keys : UInt8) (csa : Bool)
  /-- `s2_inclusion_challenge_response`. -/
  | challengeResponse (accepts : Bool) (response : List UInt8)
  /-- `s2_inclusion_neighbor_discovery_complete`. -/
  | neighborDiscoveryComplete
  /-- `s2_inclusion_abort`. -/
  | abort
  /-- `s2_inclusion_post_event`. -/
  | received (src : Connection) (buf : ℕ → UInt8) (length : ℕ)
  /-- `s2_inclusion_decryption_failure`. -/
  | decryptionFailure (src : Connection)
  /-- `S2.c` answers a request for the supported commands, and uses the buffer of the inclusion. -/
  | commandsSupportedGet (classes : List UInt8)
  /-- `s2_inclusion_notify_timeout`. -/
  | timeout
  /-- `s2_inclusion_send_done`. -/
  | sendDone (success : Bool)
  /-- The function outside that was called last returns. -/
  | ret (success : Bool)

/-- `inclusion_mode` for a request for authentication by the client. -/
def modeOf (csa : Bool) : InclusionMode :=
  if csa then .csa else .ssa

/-- `s2_inclusion_including_start`. -/
def includingStart (env : Env) (con : Connection) (ctx : Context) : Context :=
  if ctx.state = .idle then
    processEvent env .includingStart
      ({ ctx with peer := { con with txOptions := 0 }, mode := .ssa, kexFailCode := 0 }.note
        .includingStarted)
  else ctx

/-- `s2_inclusion_joining_start`. -/
def startJoining (env : Env) (con : Connection) (csa : Bool) (ctx : Context) : Context :=
  let keys :=
    if isLrNode con.lNode then ctx.keys &&& ~~~(keyClassUnauthenticated ||| keyClassS0)
      else ctx.keys
  processEvent env .joiningStart
    { ctx with peer := con, mode := modeOf csa, kexFailCode := 0, keys }

/-- `s2_inclusion_key_grant`. -/
def keyGrant (env : Env) (accepts : Bool) (keys : UInt8) (csa : Bool) (ctx : Context) : Context :=
  if accepts then
    processEvent env .includingAccept { ctx with mode := modeOf csa, keyGranted := keys }
  else processEvent env .includingReject ctx

/-- `s2_inclusion_challenge_response`. -/
def challengeResponse (env : Env) (accepts : Bool) (response : List UInt8) (ctx : Context) :
    Context :=
  if accepts then
    processEvent env .includingAccept { ctx with publicKey := overwrite response ctx.publicKey }
  else processEvent env .includingReject ctx

/-- The report of the supported commands is built in the buffer, as far as it fits. -/
def commandsSupportedGet (classes : List UInt8) (ctx : Context) : Context :=
  let report := [commandClassSecurity2, commandsSupportedReport]
  { ctx with
    inclusionBuf :=
      overwrite (if classes.length + 2 > 40 then report else report ++ classes) ctx.inclusionBuf }

/-- `s2_inclusion_notify_timeout`. -/
def notifyTimeout (env : Env) (ctx : Context) : Context :=
  if ctx.state = .echoKexSetSending ∧ ctx.retryCounter ≠ noRetries ∧
    ctx.retryCounter ≠ queueFull then
    processEvent env .inclusionRetry ctx
  else processEvent env .inclusionTimeout ctx

/-- `s2_inclusion_send_done`. -/
def sendDone (env : Env) (success : Bool) (ctx : Context) : Context :=
  if ctx.retryCounter = queueFull then
    processEvent env .inclusionRetry { ctx with retryCounter := maxRetryCount }
  else if success then processEvent env .inclusionSendDone ctx
  else if ctx.retryCounter ≠ noRetries ∧ ctx.state ≠ .echoKexSetSending then
    processEvent env .inclusionRetry ctx
  else processEvent env .inclusionSendFailed ctx

/-- The calls that the event handler may make. -/
def Input.isUserCall : Input → Bool
  | .includingStart _ | .joiningStart _ _ | .keyGrant _ _ _ | .challengeResponse _ _
  | .neighborDiscoveryComplete | .abort => true
  | _ => false

/-- The input can come while these functions outside are running. -/
def Input.possible (input : Input) (stack : List Frame) : Bool :=
  match stack, input with
  | [], .ret _ => false
  | [], _ => true
  | _ :: _, .ret _ => true
  | .sendData _ :: _, .sendDone _ => true
  | .sendEcho :: _, .sendDone _ => true
  | .handler _ :: _, input => input.isUserCall
  | _, _ => false

/-- An input that is possible is processed. -/
def process (env : Env) (ctx : Context) (input : Input) : Context :=
  match input with
  | .includingStart con => includingStart env con ctx
  | .joiningStart con csa => startJoining env con csa ctx
  | .keyGrant accepts keys csa => keyGrant env accepts keys csa ctx
  | .challengeResponse accepts response => challengeResponse env accepts response ctx
  | .neighborDiscoveryComplete => processEvent env .discoveryComplete ctx
  | .abort => processEvent env .includingReject ctx
  | .received src buf length => postEvent env src buf length ctx
  | .decryptionFailure src =>
    if src.rNode = ctx.peer.rNode then processEvent env .includingDecryptFailed ctx else ctx
  | .commandsSupportedGet classes => commandsSupportedGet classes ctx
  | .timeout => notifyTimeout env ctx
  | .sendDone success => sendDone env success ctx
  | .ret success => ret env success ctx

/-- One step of the machine. -/
def step (env : Env) (ctx : Context) (input : Input) : Context :=
  if ctx.hung = false ∧ input.possible ctx.stack then process env ctx input else ctx

/-- A context in which no inclusion is under way. -/
def atRest (ctx : Context) : Context :=
  { ctx with state := .idle, hung := false, stack := [], log := [] }

end ZipGateway.Inclusion
