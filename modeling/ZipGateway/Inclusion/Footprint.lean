import ZipGateway.Inclusion.Model

/-!
# The including node: which transitions it takes

The states, inputs and stack frames of a run in which the context is never used to join another
network. `move` reads the table of transitions, and `fits_move` says for each action of the
including node in which state and for which event the table has it, and where it leads. The table is
finite, so this is checked by evaluation; everything that follows splits on the action only.

The second part is the frame conditions of the functions that all actions share: what they log, and
that a step of the machine that does not send anything new leaves the rest of the context as it is.
-/

set_option autoImplicit false

namespace ZipGateway.Inclusion

open Lib SecurityS2

/-! ### The table -/

instance : Fintype IncState where
  elems := ⟨([.idle, .awaitingKexGet, .awaitingKexReport, .awaitingKeyUserAccept, .awaitingKexSet,
      .awaitingPubKeyA, .awaitingPubKeyB, .awaitingUserAccept, .awaitingUserAAccept,
      .pendingEchoKexReport, .echoKexSetSending, .awaitingEchoKexSet, .awaitingEchoKexReport,
      .awaitingNetKeyGet, .awaitingNetKeyReport, .awaitingNetKeyVerify, .awaitingTransferEnd,
      .keyExchanged, .sendingFinalTransferEnd, .errorSent] : List IncState),
    by decide⟩
  complete x := by cases x <;> decide

instance : Fintype Event where
  elems := ⟨([.kexReportRecv, .pubKeyRecvB, .pubKeyRecvA, .kexGetRecv, .kexSetRecv,
    .echoKexReportRecv,
      .netKeyReportRecv, .echoKexSetRecv, .netKeyGetRecv, .netKeyVerifyRecv, .transferEndRecv,
      .inclusionErrorRecv, .includingStart, .joiningStart, .includingAccept, .includingReject,
      .includingDecryptFailed, .sendFinalTransferEnd, .netKeyVerifyFinalRecv, .inclusionRetry,
      .inclusionTimeout, .inclusionError, .inclusionErrorSent, .inclusionSendDone,
      .inclusionSendFailed, .discoveryComplete, .noKeysGranted, .unnamed] : List Event),
    by decide⟩
  complete x := by cases x <;> decide

def IncState.including : IncState → Bool
  | .idle | .awaitingKexReport | .awaitingKeyUserAccept | .awaitingPubKeyB | .awaitingUserAccept
  | .awaitingEchoKexSet | .awaitingNetKeyGet | .awaitingNetKeyVerify | .awaitingTransferEnd
  | .errorSent => true
  | _ => false

/-- The states in which a frame is resent with `S2_send_frame`. -/
def IncState.resendsFrame : IncState → Bool
  | .awaitingKexReport | .awaitingPubKeyB | .awaitingUserAccept | .awaitingEchoKexSet => true
  | _ => false

/-- The states in which a frame is resent with `S2_send_data`. -/
def IncState.resendsData : IncState → Bool
  | .awaitingNetKeyGet | .awaitingNetKeyVerify | .awaitingTransferEnd => true
  | _ => false

/-- The action and the new state that the table has for an event. -/
def move (state : IncState) (event : Event) : Action × IncState :=
  match lookup state event with
  | none => (.noAction, state)
  | some row => (row.action, row.newState.getD state)

/-- The rows of the table for a state. -/
def rowsOf (state : IncState) : List Transition :=
  transitionTable.filter fun row ↦ row.state == none || row.state == some state

/-- `move` over the rows for the state, which is faster to evaluate for all events of a state. -/
def moveAmong (rows : List Transition) (state : IncState) (event : Event) : Action × IncState :=
  match rows.find? fun row ↦ row.event == none || row.event == some event with
  | none => (.noAction, state)
  | some row => (row.action, row.newState.getD state)

theorem move_eq_moveAmong (state : IncState) (event : Event) :
    move state event = moveAmong (rowsOf state) state event := by
  have hfind : lookup state event =
      (rowsOf state).find? fun row ↦ row.event == none || row.event == some event := by
    unfold lookup rowsOf
    rw [List.find?_filter]
    simp only [Transition.matches, Bool.decide_and, Bool.decide_eq_true]
  rw [move, moveAmong, hfind]

/-- What the table has for the including node. -/
def Fits (state : IncState) (event : Event) (newState : IncState) (action : Action) : Prop :=
  match action with
  | .noAction => newState = state ∨ event = .inclusionErrorSent ∧ newState = .errorSent
  | .abort | .remoteError => newState = .idle
  | .resendFrame => newState = state ∧ state.resendsFrame = true ∧ event = .inclusionRetry
  | .resendData => newState = state ∧ state.resendsData = true ∧ event = .inclusionRetry
  | .sendKexGet => state = .idle ∧ event = .includingStart ∧ newState = .awaitingKexReport
  | .kexRepRecv =>
    state = .awaitingKexReport ∧ event = .kexReportRecv ∧ newState = .awaitingKeyUserAccept
  | .sendKexSet =>
    state = .awaitingKeyUserAccept ∧ event = .includingAccept ∧ newState = .awaitingPubKeyB
  | .sendPubKeyA => state = .awaitingPubKeyB ∧ event = .pubKeyRecvB ∧ newState = .awaitingUserAccept
  | .doEcdhCalcA =>
    state = .awaitingUserAccept ∧ event = .includingAccept ∧ newState = .awaitingEchoKexSet
  | .sendEchoKexReport =>
    state = .awaitingEchoKexSet ∧ event = .echoKexSetRecv ∧ newState = .awaitingNetKeyGet
  | .sendErrorCancel | .sendErrorDecrypt => newState = .errorSent
  | .sendNetKeyReport =>
    state = .awaitingNetKeyGet ∧ event = .netKeyGetRecv ∧ newState = .awaitingNetKeyVerify
  | .sendTransferEnd =>
    state = .awaitingNetKeyVerify ∧
      (event = .netKeyVerifyFinalRecv ∧ newState = .awaitingTransferEnd ∨
        event = .netKeyVerifyRecv ∧ newState = .awaitingNetKeyGet)
  | .inclusionComplete =>
    state = .awaitingTransferEnd ∧ event = .transferEndRecv ∧ newState = .idle
  | .checkNoKeys => state = .awaitingNetKeyGet ∧ event = .sendFinalTransferEnd ∧ newState = .idle
  | _ => False

instance (state : IncState) (event : Event) (newState : IncState) :
    DecidablePred (Fits state event newState) := by
  intro action
  unfold Fits
  cases action <;> infer_instance

/-- The transitions of the including node. -/
theorem fits_move : ∀ (state : IncState) (event : Event), state.including = true →
    event ≠ .joiningStart → Fits state event (move state event).2 (move state event).1 := by
  simp only [move_eq_moveAmong]
  decide +kernel

/-- The including node stays one. -/
theorem including_move : ∀ (state : IncState) (event : Event), state.including = true →
    event ≠ .joiningStart → (move state event).2.including = true := by
  simp only [move_eq_moveAmong]
  decide +kernel

/-- A refusal is not followed by a retry. -/
theorem move_inclusionErrorSent : ∀ state : IncState, state.including = true →
    (move state .inclusionErrorSent).1 = .noAction ∧
      ((move state .inclusionErrorSent).2 = .idle ∨
        (move state .inclusionErrorSent).2 = .errorSent) := by
  decide +kernel

theorem processEvent_eq (env : Env) (event : Event) (ctx : Context) :
    processEvent env event ctx =
      performAction env (move ctx.state event).1
        { ctx with state := (move ctx.state event).2 } := by
  unfold processEvent dispatch move
  cases lookup ctx.state event with
  | none => rfl
  | some row => rfl

/-! ### Runs of the including node -/

/-- The context is not used to join a network. -/
def Input.including : Input → Bool
  | .joiningStart _ _ => false
  | _ => true

/-- The event is made of a frame. -/
def Event.isReceived : Event → Bool
  | .kexReportRecv | .pubKeyRecvB | .pubKeyRecvA | .kexGetRecv | .kexSetRecv | .echoKexReportRecv
  | .netKeyReportRecv | .echoKexSetRecv | .netKeyGetRecv | .netKeyVerifyRecv
  | .netKeyVerifyFinalRecv | .transferEndRecv | .sendFinalTransferEnd | .inclusionErrorRecv
  | .unnamed => true
  | _ => false

/-- The calls of functions outside that the including node makes. -/
def Frame.including : Frame → Bool
  | .sendFrame .done | .sendFrame (.setTimeout _) | .sendFrame (.post .inclusionErrorSent)
  | .sendFrame (.pushFailed _) => true
  | .sendData .done | .sendData (.setTimeout _) | .sendData .netKeyReport => true
  | .handler .done | .handler (.setTimeout _) | .handler .sendPubKeyA => true
  | _ => false

/-- A frame was refused, and the machine is about to enter `S2_ERROR_SENT`. -/
def Refusing (ctx : Context) : Prop :=
  ctx.stack = [.sendFrame (.post .inclusionErrorSent)]

/-! ### Received frames -/

theorem frameEvent_isReceived (ctx : Context) : (frameEvent ctx).isReceived = true := by
  unfold frameEvent
  simp only [apply_ite Event.isReceived]
  simp only [Event.isReceived, ite_self]

/-- The event is made of an echo of the `KEX_SET` frame. -/
theorem frameEvent_echoKexSetRecv {ctx : Context} (hevent : frameEvent ctx = .echoKexSetRecv) :
    ctx.buf 1 = kexSet ∧ ctx.buf 2 &&& 1 ≠ 0 := by
  unfold frameEvent at hevent
  dsimp only at hevent
  rcases ite_eq_iff.mp hevent with ⟨-, hevent⟩ | ⟨-, hevent⟩
  · cases hevent
  rcases ite_eq_iff.mp hevent with ⟨-, hevent⟩ | ⟨-, hevent⟩
  · split_ifs at hevent
  rcases ite_eq_iff.mp hevent with ⟨hcommand, hevent⟩ | ⟨-, hevent⟩
  · rcases ite_eq_iff.mp hevent with ⟨hflag, -⟩ | ⟨-, hevent⟩
    · exact ⟨hcommand, by simpa using hflag⟩
    · cases hevent
  -- The commands that follow make other events.
  simp only [ite_eq_iff] at hevent
  simp at hevent

theorem frameEvent_netKeyVerify {ctx : Context} {event : Event} (hevent : frameEvent ctx = event)
    (hverify : event = .netKeyVerifyFinalRecv ∨ event = .netKeyVerifyRecv) :
    ctx.buf 1 = networkKeyVerify ∧
      (event = .netKeyVerifyFinalRecv → ctx.keyExchange = ctx.keyGranted) := by
  unfold frameEvent at hevent
  dsimp only at hevent
  rcases hverify with rfl | rfl
  · simp only [ite_eq_iff] at hevent
    simp at hevent
    simp [hevent]
  · simp only [ite_eq_iff] at hevent
    simp at hevent
    simp [hevent]

/-- A frame that is an event was encrypted as its rule says. -/
theorem outcome_event {env : Env} {ctx : Context} {event : Event}
    (houtcome : outcome env ctx = .event event) :
    validClass (frameRules.getD (ctx.buf 1 - kexGet).toNat env.rulesBeyond) ctx = true ∧
      frameEvent ctx = event := by
  unfold outcome at houtcome
  dsimp only at houtcome
  split_ifs at houtcome with _ _ hvalid
  exact ⟨hvalid, Outcome.event.inj houtcome⟩

/-- What the including node makes of a frame of the other node. -/
theorem accept_including {src : Connection} {buf : ℕ → UInt8} {length : ℕ} {ctx ctx' : Context}
    (hstate : ctx.state.including = true) (haccept : accept src buf length ctx = some ctx') :
    ctx.peer.rNode = src.rNode ∧
      ctx' = { ctx with buf, length, peer := { ctx.peer with classId := src.classId } }.note
        (.received src buf length) := by
  have hother : ctx.state ≠ .awaitingKexGet := by
    intro hjoining
    rw [hjoining] at hstate
    cases hstate
  unfold accept at haccept
  dsimp only at haccept
  rw [if_neg hother] at haccept
  split_ifs at haccept with _ hnode
  exact ⟨hnode, (Option.some.inj haccept).symm⟩

/-! ### Acts without a transmission -/

/-- The act is about a timer or a key. -/
def Act.isQuiet : Act → Bool
  | .setTimeout _ | .stopTimeout | .networkKeyUpdate _ _ _ => true
  | _ => false

/-- Only keys changed, and nothing but timers and keys is in the new part of the log. -/
def Quiet (ctx ctx' : Context) : Prop :=
  ∃ acts loadedKeys publicKey, (∀ act ∈ acts, act.isQuiet = true) ∧
    ctx' = { ctx with loadedKeys, publicKey, log := acts ++ ctx.log }

theorem Quiet.trans {first second third : Context} (hfirst : Quiet first second)
    (hsecond : Quiet second third) : Quiet first third := by
  obtain ⟨earlier, _, _, hearlier, rfl⟩ := hfirst
  obtain ⟨later, loadedKeys, publicKey, hlater, rfl⟩ := hsecond
  refine ⟨later ++ earlier, loadedKeys, publicKey, ?_, by simp⟩
  intro act hact
  rcases List.mem_append.mp hact with hact | hact
  · exact hlater act hact
  · exact hearlier act hact

theorem Quiet.stack {ctx ctx' : Context} (hquiet : Quiet ctx ctx') : ctx'.stack = ctx.stack := by
  obtain ⟨_, _, _, _, rfl⟩ := hquiet
  rfl

theorem quiet_note (ctx : Context) {act : Act} (hact : act.isQuiet = true) :
    Quiet ctx (ctx.note act) :=
  ⟨[act], ctx.loadedKeys, ctx.publicKey, by simpa using hact, rfl⟩

theorem quiet_stopTimeout (ctx : Context) : Quiet ctx (ctx.note .stopTimeout) :=
  quiet_note ctx rfl

theorem quiet_publicKey (ctx : Context) (publicKey : List UInt8) :
    Quiet ctx { ctx with publicKey } :=
  ⟨[], ctx.loadedKeys, publicKey, by simp, rfl⟩

theorem quiet_networkKeyUpdate (ctx : Context) (classId : UInt8) (key : List UInt8) (temp : Bool) :
    Quiet ctx (networkKeyUpdate classId key temp ctx) := by
  unfold networkKeyUpdate
  dsimp only
  split_ifs
  · exact ⟨[.networkKeyUpdate classId key temp], _, ctx.publicKey, by simp [Act.isQuiet], rfl⟩
  · exact quiet_note ctx rfl

theorem quiet_restoreKeys (ctx : Context) : Quiet ctx (restoreKeys ctx) := by
  have hstart : Quiet ctx { ctx with loadedKeys := 0 } :=
    ⟨[], 0, ctx.publicKey, by simp, rfl⟩
  unfold restoreKeys
  -- Each key that the key store has is one more quiet step.
  generalize keySlotPairs = pairs
  generalize { ctx with loadedKeys := 0 } = start at hstart ⊢
  induction pairs generalizing start with
  | nil => exact hstart
  | cons pair rest ih =>
    rw [List.foldl_cons]
    refine ih _ ?_
    cases start.networkKeys pair.1 with
    | none => exact hstart
    | some key => exact hstart.trans (quiet_networkKeyUpdate _ _ _ _)

theorem quiet_doEcdhCalcA (env : Env) (ctx : Context) : Quiet ctx (doEcdhCalcA env ctx) := by
  unfold doEcdhCalcA
  exact (quiet_publicKey ctx _).trans (quiet_networkKeyUpdate _ _ _ _)

theorem quiet_sendNetKeyReportRest (ctx : Context) : Quiet ctx (sendNetKeyReportRest ctx) := by
  unfold sendNetKeyReportRest
  dsimp only
  split_ifs
  · exact (quiet_note ctx rfl).trans (quiet_networkKeyUpdate _ _ _ _)
  · exact quiet_note ctx rfl

/-! ### First transmissions -/

section Send

variable {ctx : Context} {rest : Rest} {bytes : List UInt8}

@[simp]
theorem build_frame (ctx : Context) (bytes : List UInt8) : (ctx.build bytes).frame = bytes := by
  simp [Context.frame, Context.build, overwrite]

@[simp]
theorem sendNewFrame_frame : (sendNewFrame bytes rest ctx).frame = bytes :=
  build_frame ctx bytes

/-- A first transmission with `S2_send_frame`, written out. -/
theorem sendNewFrame_eq (ctx : Context) (bytes : List UInt8) (rest : Rest) :
    sendNewFrame bytes rest ctx =
      { ctx with
        inclusionBuf := overwrite bytes ctx.inclusionBuf
        inclusionBufLength := bytes.length
        retryCounter := maxRetryCount
        stack := .sendFrame rest :: ctx.stack
        log := .sentFrame ctx.peer bytes false :: ctx.log } := by
  have hframe : Context.frame { ctx.build bytes with retryCounter := maxRetryCount } = bytes :=
    build_frame ctx bytes
  unfold sendNewFrame sendFrame
  rw [hframe]
  rfl

@[simp]
theorem sendNewFrame_log :
    (sendNewFrame bytes rest ctx).log = .sentFrame ctx.peer bytes false :: ctx.log :=
  congrArg (fun frame ↦ Act.sentFrame ctx.peer frame false :: ctx.log) (build_frame ctx bytes)

@[simp]
theorem sendNewData_log {classId txOptions : UInt8} :
    (sendNewData bytes classId txOptions rest ctx).log =
      .sentData { ctx.peer with classId, txOptions } bytes false :: ctx.log :=
  congrArg (fun frame ↦ Act.sentData { ctx.peer with classId, txOptions } frame false :: ctx.log)
    (build_frame ctx bytes)

theorem sendEchoKexSet_log (again : Bool) (ctx : Context) :
    (sendEchoKexSet again ctx).log =
      .sentData { ctx.peer with classId := tempKeySecure, txOptions := txVerifyDelivery }
        [commandClassSecurity2, kexSet, ctx.kexSetByte2 ||| echoOn, ctx.schemeSupport,
          ctx.curveSupport, ctx.keyGranted] again :: .stopTimeout :: ctx.log :=
  congrArg
    (fun frame ↦ Act.sentData
      { ctx.peer with classId := tempKeySecure, txOptions := txVerifyDelivery } frame again ::
      .stopTimeout :: ctx.log)
    (build_frame { ctx.note .stopTimeout with retryCounter := ctx.retryCounter - 1 } _)

/-- A `KEX_FAIL` frame is a frame like the others. -/
theorem inclusionFailedFrameSend_eq (error : UInt8) (rest : Rest) (ctx : Context) :
    inclusionFailedFrameSend error rest ctx =
      sendNewFrame [commandClassSecurity2, kexFail, error] rest { ctx with kexFailCode := error } :=
  rfl

end Send

/-- A failure that is told to the event handler: a quiet step, and the call. -/
theorem inclusionFailedEvtPush_eq (failType : UInt8) (ctx : Context) :
    ∃ quiet, Quiet ctx quiet ∧ inclusionFailedEvtPush failType ctx =
      callHandler (.inclusionFailed quiet.peer failType) .done quiet :=
  ⟨_, (quiet_stopTimeout ctx).trans (quiet_restoreKeys _), rfl⟩

/-- The public key of the other node is put to the user: a quiet step, and the call. -/
theorem sendPubKeyA_eq (ctx : Context) :
    ∃ quiet key dskLength, Quiet ctx quiet ∧ sendPubKeyA ctx =
      callHandler (.publicKeyChallenge quiet.peer key quiet.keyGranted dskLength)
        .sendPubKeyA quiet :=
  ⟨_, _, _, (quiet_stopTimeout ctx).trans (quiet_publicKey _ _), rfl⟩

/-! ### A run -/

/-- An environment whose keys are all zero. -/
def sampleEnv : Env where
  publicKey _ := List.replicate 32 0
  tempKey _ := List.replicate 16 0
  rulesBeyond := ⟨0, 0, 0, 0⟩

/-- A context whose key store has all keys. -/
def sampleContext : Context where
  csaSupport := 0
  kexSetByte2 := 0
  schemeSupport := 0
  curveSupport := 0
  keyGranted := 0
  keyExchange := 0
  keyRequested := 0
  kexReportKeys := 0
  loadedKeys := 0
  peer := ⟨0, 0, 0, 0, 0, 0⟩
  buf _ := 0
  length := 0
  state := .idle
  mode := .ssa
  kexFailCode := 0
  inclusionBuf := List.replicate 40 0
  inclusionBufLength := 0
  publicKey := List.replicate 32 0
  retryCounter := 0
  schemes := scheme1Support
  curves := curve25519
  keys := keyMask
  networkKeys _ := some (padBlock [])
  hung := false
  stack := []
  log := []

/-- A frame of node 5 that was encrypted under a class. -/
def frameOf (classId : UInt8) (bytes : List UInt8) : Input :=
  .received ⟨1, 5, 0, 0, 0, classId⟩ (fun i ↦ bytes.getD i 0) bytes.length

/-- Node 5 asks for the keys and is granted them, the public keys are exchanged, and the frames of
the exchange are echoed. Every frame is sent at once. -/
def grantInputs (keys : UInt8) : List Input :=
  [.includingStart ⟨1, 5, 0, 0, 0, nonSecure⟩, .ret true, .sendDone true,
    frameOf nonSecure [commandClassSecurity2, kexReport, 0, scheme1Support, curve25519, keys],
    .ret true, .keyGrant true keys false, .ret true, .sendDone true,
    frameOf nonSecure
      ([commandClassSecurity2, publicKeyReport, joiningNode] ++ List.replicate 32 0),
    .ret true, .ret true, .sendDone true, .challengeResponse true [],
    frameOf tempKeySecure [commandClassSecurity2, kexSet, echoOn, scheme1Support, curve25519, keys],
    .ret true, .sendDone true]

/-- Node 5 asks for a key and uses a key of the class to verify it, and is sent the end of the
transfer. -/
def transferInputs (key classId : UInt8) : List Input :=
  [frameOf tempKeySecure [commandClassSecurity2, networkKeyGet, key], .ret true, .sendDone true,
    frameOf classId [commandClassSecurity2, networkKeyVerify], .ret true, .sendDone true]

end ZipGateway.Inclusion
