import ZipGateway.Inclusion.Observed

/-!
# Frames that are handed to the send layer

Each action of the inclusion machine hands over at most one frame, as the last thing that it does
before a function outside returns. `Deed` says what an action does in this respect: which function
it calls, whether the frame is a new one or the last one again, and what becomes of
`m_retry_counter`. The echo of a `KEX_SET` frame is counted apart: its counter is set to the number
of timeouts that fit into the time for the user, and it is decremented before the call and not after
it.
-/

set_option autoImplicit false

namespace ZipGateway.Inclusion

open Lib List SecurityS2

/-- A frame is given to the send layer: a new one, the echo of a `KEX_SET` frame for the first time,
or the last frame again. -/
inductive HandOver
  | first
  | echo
  | again
deriving DecidableEq, Repr

def Act.handOver : Act → Option HandOver
  | .sentFrame _ _ again => some (if again then .again else .first)
  | .sentData _ frame again =>
    some (if again then .again else if frame.getD 1 0 = kexSet then .echo else .first)
  | _ => none

/-- `TBI1_TIMEOUT / TB5_TIMEOUT`. -/
def echoRetryCount : UInt8 := 24

/-- What an action does with the send layer. -/
inductive Deed
  | nothing
  | told (rest : Rest)
  | firstFrame (rest : Rest)
  | firstData (rest : Rest)
  | againFrame
  | againData
  | echo
  | echoAgain
deriving DecidableEq

/-- The call with which the action ends. -/
def Deed.call : Deed → Option Frame
  | .nothing => none
  | .told rest => some (.handler rest)
  | .firstFrame rest => some (.sendFrame rest)
  | .firstData rest => some (.sendData rest)
  | .againFrame => some (.sendFrame .done)
  | .againData => some (.sendData .done)
  | .echo | .echoAgain => some .sendEcho

def Deed.handOver : Deed → Option HandOver
  | .nothing | .told _ => none
  | .firstFrame _ | .firstData _ => some .first
  | .againFrame | .againData | .echoAgain => some .again
  | .echo => some .echo

/-- The frame is handed over again. -/
def Deed.isAgain : Deed → Bool
  | .againFrame | .againData | .echoAgain => true
  | _ => false

/-- `m_retry_counter` when the frame is handed over. -/
def Deed.retry (counter : UInt8) : Deed → UInt8
  | .nothing | .told _ | .againFrame | .againData => counter
  | .firstFrame _ | .firstData _ => maxRetryCount
  | .echo => echoRetryCount - 1
  | .echoAgain => counter - 1

/-- The second context is the first one after the deed, as far as the send layer is concerned. -/
structure Does (deed : Deed) (before after : Context) : Prop where
  stack : after.stack = deed.call.toList ++ before.stack
  log : ∃ acts, after.log = acts ++ before.log ∧ acts.filterMap Act.handOver = deed.handOver.toList
  retry : after.retryCounter = deed.retry before.retryCounter

section Does

variable {deed : Deed} {before middle after : Context}

theorem does_nothing (hstack : after.stack = before.stack) (hlog : after.log = before.log)
    (hretry : after.retryCounter = before.retryCounter) : Does .nothing before after :=
  ⟨hstack, ⟨[], hlog, rfl⟩, hretry⟩

/-- Nothing was handed over before. -/
theorem Does.prepared (hafter : Does deed middle after) {acts : List Act}
    (hstack : middle.stack = before.stack) (hlog : middle.log = acts ++ before.log)
    (hacts : acts.filterMap Act.handOver = [])
    (hretry : middle.retryCounter = before.retryCounter) : Does deed before after := by
  obtain ⟨later, hlater, hhanded⟩ := hafter.log
  refine ⟨hstack ▸ hafter.stack, ⟨later ++ acts, ?_, ?_⟩, hretry ▸ hafter.retry⟩
  · rw [hlater, hlog, append_assoc]
  · rw [filterMap_append, hacts, hhanded, append_nil]

/-- Only the stack, the log and the counter matter before. -/
theorem Does.rebase (hafter : Does deed middle after) (hstack : middle.stack = before.stack)
    (hlog : middle.log = before.log) (hretry : middle.retryCounter = before.retryCounter) :
    Does deed before after :=
  @Does.prepared deed before middle after hafter [] hstack hlog rfl hretry

theorem Does.stopped (hafter : Does deed (before.note .stopTimeout) after) :
    Does deed before after :=
  @Does.prepared deed before _ after hafter [.stopTimeout] rfl rfl rfl rfl

theorem handOver_of_isQuiet {acts : List Act} (hacts : ∀ act ∈ acts, act.isQuiet = true) :
    acts.filterMap Act.handOver = [] := by
  refine filterMap_eq_nil_iff.mpr fun act hact ↦ ?_
  cases act <;> first | rfl | cases hacts _ hact

/-- Keys and timers are not handed over. -/
theorem Does.quiet (hquiet : Quiet before middle) (hafter : Does deed middle after) :
    Does deed before after := by
  obtain ⟨acts, loadedKeys, publicKey, hacts, rfl⟩ := hquiet
  exact @Does.prepared deed before _ after hafter acts rfl rfl (handOver_of_isQuiet hacts) rfl

/-- Keys and timers are all that changes. -/
theorem does_of_quiet (hquiet : Quiet before after) : Does .nothing before after :=
  Does.quiet hquiet (does_nothing rfl rfl rfl)

end Does

section Actions

variable (ctx : Context)

theorem does_callHandler (push : Push) (rest : Rest) :
    Does (.told rest) ctx (callHandler push rest ctx) :=
  ⟨rfl, ⟨[Act.pushed push], rfl, rfl⟩, rfl⟩

theorem does_resendFrame : Does .againFrame ctx (sendFrame true .done ctx) :=
  ⟨rfl, ⟨[Act.sentFrame ctx.peer ctx.frame true], rfl, rfl⟩, rfl⟩

theorem does_resendData : Does .againData ctx (sendData true .done ctx) :=
  ⟨rfl, ⟨[Act.sentData ctx.peer ctx.frame true], rfl, rfl⟩, rfl⟩

theorem does_sendNewFrame (bytes : List UInt8) (rest : Rest) :
    Does (.firstFrame rest) ctx (sendNewFrame bytes rest ctx) :=
  ⟨rfl, ⟨[Act.sentFrame ctx.peer bytes false], sendNewFrame_log, rfl⟩, rfl⟩

theorem does_sendNewData (bytes : List UInt8) (classId txOptions : UInt8) (rest : Rest)
    (hbytes : bytes.getD 1 0 ≠ kexSet) :
    Does (.firstData rest) ctx (sendNewData bytes classId txOptions rest ctx) := by
  refine ⟨rfl,
    ⟨[Act.sentData { ctx.peer with classId, txOptions } bytes false], sendNewData_log, ?_⟩, rfl⟩
  simp only [Act.handOver, Bool.false_eq_true, if_false, if_neg hbytes, filterMap_cons,
    filterMap_nil]
  rfl

theorem does_inclusionFailedFrameSend (error : UInt8) (rest : Rest) :
    Does (.firstFrame rest) ctx (inclusionFailedFrameSend error rest ctx) :=
  (does_sendNewFrame { ctx with kexFailCode := error }
    [commandClassSecurity2, kexFail, error] rest).rebase
    rfl rfl rfl

theorem does_refuse (error : UInt8) :
    Does (.firstFrame (.post .inclusionErrorSent)) ctx (refuse error ctx) :=
  does_inclusionFailedFrameSend ctx error _

theorem does_inclusionFailedEvtPush (failType : UInt8) :
    Does (.told .done) ctx (inclusionFailedEvtPush failType ctx) := by
  obtain ⟨quiet, hquiet, hpush⟩ := inclusionFailedEvtPush_eq failType ctx
  rw [hpush]
  exact Does.quiet hquiet (does_callHandler quiet _ _)

theorem does_joiningComplete (push : Connection → UInt8 → Push) :
    Does (.told .done) ctx (joiningComplete push ctx) :=
  Does.quiet (quiet_restoreKeys ctx) (does_callHandler _ _ _)

/-- The echo is built and handed over, with the counter decremented before. -/
theorem does_sendEchoKexSet : Does .echoAgain ctx (sendEchoKexSet true ctx) :=
  ⟨rfl, ⟨[_, Act.stopTimeout], rfl, rfl⟩, rfl⟩

/-- The echo is handed over for the first time, with its own count of resends. -/
theorem does_firstEcho :
    Does .echo ctx (sendEchoKexSet false { ctx with retryCounter := echoRetryCount }) :=
  ⟨rfl, ⟨[_, .stopTimeout], sendEchoKexSet_log false _, rfl⟩, rfl⟩

theorem does_doEcdhCalcB (env : Env) : Does .echo ctx (doEcdhCalcB env ctx) := by
  unfold doEcdhCalcB
  generalize overwrite (env.tempKey ctx) ctx.publicKey = publicKey
  have hquiet := (quiet_publicKey ctx publicKey).trans
    (quiet_networkKeyUpdate _ tempKeySecure (publicKey.take 16) true)
  exact Does.quiet hquiet (does_firstEcho _)

/-- The deeds of an action. A frame is handed over again only by the actions that do nothing
else. -/
def Action.allows : Action → Deed → Prop
  | .resendFrame, deed => deed = .againFrame
  | .resendData, deed => deed = .againData
  | .sendEchoKexSet, deed => deed = .echoAgain
  | _, deed => deed.isAgain = false

theorem does_kexRepRecv :
    ∃ deed, Action.kexRepRecv.allows deed ∧ Does deed ctx (kexRepRecv ctx) := by
  unfold kexRepRecv
  extract_lets stopped scheme curve offered keys csa
  split_ifs
  · refine ⟨.firstFrame (.post .inclusionErrorSent), rfl, Does.stopped ?_⟩
    exact (does_refuse scheme _).rebase rfl rfl rfl
  · refine ⟨.firstFrame (.post .inclusionErrorSent), rfl, Does.stopped ?_⟩
    exact (does_refuse curve _).rebase rfl rfl rfl
  · refine ⟨.firstFrame (.post .inclusionErrorSent), rfl, Does.stopped ?_⟩
    exact (does_refuse keys _).rebase rfl rfl rfl
  · refine ⟨.told (.setTimeout seconds240), rfl, Does.stopped ?_⟩
    exact (does_callHandler csa _ _).rebase rfl rfl rfl

theorem does_sendPubKeyA : Does (.told .sendPubKeyA) ctx (sendPubKeyA ctx) := by
  obtain ⟨quiet, key, dskLength, hquiet, hpush⟩ := sendPubKeyA_eq ctx
  rw [hpush]
  exact Does.quiet hquiet (does_callHandler quiet _ _)

theorem does_sendEchoKexReport :
    ∃ deed, Action.sendEchoKexReport.allows deed ∧ Does deed ctx (sendEchoKexReport ctx) := by
  unfold sendEchoKexReport
  extract_lets stopped
  split_ifs
  · refine ⟨.firstData (.setTimeout seconds10), rfl, Does.stopped ?_⟩
    exact (does_sendNewData { stopped with keyExchange := 0 } _ _ _ _
      (by simp [kexReport, kexSet])).rebase rfl rfl rfl
  · refine ⟨.firstFrame (.post .inclusionErrorSent), rfl, Does.stopped ?_⟩
    exact does_refuse stopped _

theorem does_sendNetKeyReport :
    ∃ deed, Action.sendNetKeyReport.allows deed ∧ Does deed ctx (sendNetKeyReport ctx) := by
  unfold sendNetKeyReport
  extract_lets stopped requested exchanged
  have hreport : (networkKeyReportFrame exchanged requested).getD 1 0 ≠ kexSet := by
    have hkind : (networkKeyReportFrame exchanged requested).getD 1 0 = networkKeyReport := rfl
    rw [hkind]
    decide
  split_ifs
  · refine ⟨.firstData .netKeyReport, rfl, Does.stopped ?_⟩
    exact (does_sendNewData exchanged _ _ _ _ hreport).rebase rfl rfl rfl
  · refine ⟨.firstFrame (.post .inclusionErrorSent), rfl, Does.stopped ?_⟩
    exact (does_refuse { stopped with keyRequested := 0 } _).rebase rfl rfl rfl

theorem does_sendTransferEnd :
    Does (.firstData (.setTimeout seconds10)) ctx (sendTransferEnd ctx) :=
  (Does.quiet (quiet_networkKeyUpdate _ _ _ _) (does_sendNewData _ _ _ _ _ (by decide))).stopped

theorem does_inclusionComplete :
    ∃ deed, Action.inclusionComplete.allows deed ∧ Does deed ctx (inclusionComplete ctx) := by
  unfold inclusionComplete
  split_ifs
  · refine ⟨.told .done, rfl, Does.stopped ?_⟩
    exact Does.quiet (quiet_restoreKeys _) (does_callHandler _ _ _)
  · exact ⟨.firstFrame (.pushFailed kexFailKeyVerify), rfl, does_inclusionFailedFrameSend ctx _ _⟩

theorem does_checkNoKeys :
    ∃ deed, Action.checkNoKeys.allows deed ∧ Does deed ctx (checkNoKeys ctx) := by
  unfold checkNoKeys
  split_ifs
  · exact ⟨.told .done, rfl, does_inclusionFailedEvtPush ctx _⟩
  · obtain ⟨deed, hallows, hdoes⟩ := does_inclusionComplete ctx
    exact ⟨deed, hallows, hdoes⟩

theorem does_sendKexReport : Does (.told .sendKexReport) ctx (sendKexReport ctx) := by
  refine Does.stopped ?_
  exact (does_callHandler { ctx.note .stopTimeout with networkKeys := fun _ ↦ none } _ _).rebase
    rfl rfl rfl

theorem does_sendPubKeyB (env : Env) :
    ∃ deed, Action.sendPubKeyB.allows deed ∧ Does deed ctx (sendPubKeyB env ctx) := by
  unfold sendPubKeyB
  extract_lets stopped scheme curve granted selected key hides
  split_ifs
  · refine ⟨.firstFrame (.post .inclusionErrorSent), rfl, Does.stopped ?_⟩
    exact (does_refuse granted _).rebase rfl rfl rfl
  · refine ⟨.firstFrame (.setTimeout seconds10), rfl, Does.stopped ?_⟩
    exact (does_sendNewFrame selected _ _).rebase rfl rfl rfl
  · refine ⟨.firstFrame (.setTimeout seconds10), rfl, Does.stopped ?_⟩
    exact (does_sendNewFrame selected _ _).rebase rfl rfl rfl
  · refine ⟨.firstFrame (.post .inclusionErrorSent), rfl, Does.stopped ?_⟩
    exact (does_refuse curve _).rebase rfl rfl rfl
  · refine ⟨.firstFrame (.post .inclusionErrorSent), rfl, Does.stopped ?_⟩
    exact (does_refuse scheme _).rebase rfl rfl rfl
  · refine ⟨.firstFrame (.post .inclusionErrorSent), rfl, Does.stopped ?_⟩
    exact does_refuse stopped _

theorem does_pubKeyARecv : Does (.told .done) ctx (pubKeyARecv ctx) := by
  have htold : Does (.told .done) ((ctx.note .stopTimeout).note (.setTimeout seconds240))
      (pubKeyARecv ctx) :=
    (does_callHandler _ _ _).rebase rfl rfl rfl
  exact @Does.prepared _ ctx _ _ htold [.setTimeout seconds240, .stopTimeout] rfl rfl rfl rfl

theorem does_sendNetKeyVerify :
    ∃ deed, Action.sendNetKeyVerify.allows deed ∧ Does deed ctx (sendNetKeyVerify ctx) := by
  unfold sendNetKeyVerify
  extract_lets stopped receivedKey stored loaded
  split_ifs
  · have hsent : Does (.firstData (.setTimeout seconds10)) stored _ :=
      Does.quiet (quiet_networkKeyUpdate _ _ _ _)
        (does_sendNewData loaded [commandClassSecurity2, networkKeyVerify]
        networkKeySecure 0 (.setTimeout seconds10) (by decide))
    refine ⟨.firstData (.setTimeout seconds10), rfl, Does.stopped ?_⟩
    exact hsent.rebase rfl rfl rfl
  · refine ⟨.firstFrame (.post .inclusionErrorSent), rfl, Does.stopped ?_⟩
    exact does_refuse stopped _

theorem does_sendFinalTransferEnd :
    ∃ deed, Action.sendFinalTransferEnd.allows deed ∧ Does deed ctx (sendFinalTransferEnd ctx) := by
  unfold sendFinalTransferEnd
  extract_lets stopped
  split_ifs
  · refine ⟨.firstFrame (.post .inclusionError), rfl, Does.stopped ?_⟩
    exact does_inclusionFailedFrameSend stopped _ _
  · refine ⟨.firstData .done, rfl, Does.stopped ?_⟩
    exact does_sendNewData stopped _ _ _ _ (by decide)

theorem does_sendNetKeyGet (env : Env) (hstate : ctx.state = .awaitingNetKeyReport) :
    ∃ deed, Action.sendNetKeyGet.allows deed ∧ Does deed ctx
      (performAction env .sendNetKeyGet ctx) := by
  have hstopped : (ctx.note .stopTimeout).state = .awaitingNetKeyReport := hstate
  unfold performAction sendNetKeyGet
  dsimp only
  split
  · refine ⟨.firstFrame (.post .inclusionErrorSent), rfl, Does.stopped ?_⟩
    exact does_refuse _ _
  split
  · refine ⟨.firstFrame (.post .inclusionError), rfl, Does.stopped ?_⟩
    exact does_inclusionFailedFrameSend _ _ _
  split
  · rw [dispatch_noKeysGranted _ env hstopped]
    obtain ⟨deed, hallows, hdoes⟩ :=
      does_sendFinalTransferEnd { ctx.note .stopTimeout with state := .sendingFinalTransferEnd }
    exact ⟨deed, hallows, Does.stopped (hdoes.rebase rfl rfl rfl)⟩
  split
  · refine ⟨.nothing, rfl, Does.stopped ?_⟩
    exact does_nothing rfl rfl rfl
  · refine ⟨.firstData (.setTimeout seconds10), rfl, Does.stopped ?_⟩
    exact (does_sendNewData _ _ _ _ _ (by simp [networkKeyGet, kexSet])).rebase rfl rfl rfl

/-- Each action has one of its deeds. -/
theorem does_performAction (env : Env) (action : Action)
    (hstate : action = .sendNetKeyGet → ctx.state = .awaitingNetKeyReport) :
    ∃ deed, action.allows deed ∧ Does deed ctx (performAction env action ctx) := by
  cases action with
  | noAction => exact ⟨.nothing, rfl, does_nothing rfl rfl rfl⟩
  | abort => exact ⟨.told .done, rfl, does_inclusionFailedEvtPush ctx _⟩
  | remoteError => exact ⟨.told .done, rfl, does_inclusionFailedEvtPush ctx _⟩
  | resendFrame => exact ⟨.againFrame, rfl, does_resendFrame ctx⟩
  | resendData => exact ⟨.againData, rfl, does_resendData ctx⟩
  | sendKexGet => exact ⟨.firstFrame (.setTimeout seconds10), rfl, does_sendNewFrame ctx _ _⟩
  | kexRepRecv => exact does_kexRepRecv ctx
  | sendKexSet =>
    exact ⟨.firstFrame (.setTimeout seconds10), rfl, Does.stopped (does_sendNewFrame _ _ _)⟩
  | sendPubKeyA => exact ⟨.told .sendPubKeyA, rfl, does_sendPubKeyA ctx⟩
  | doEcdhCalcA => exact ⟨.nothing, rfl, does_of_quiet (quiet_doEcdhCalcA env ctx)⟩
  | sendEchoKexReport => exact does_sendEchoKexReport ctx
  | sendErrorCancel => exact ⟨.firstFrame .done, rfl, does_inclusionFailedFrameSend ctx _ _⟩
  | sendErrorDecrypt => exact ⟨.firstFrame .done, rfl, does_inclusionFailedFrameSend ctx _ _⟩
  | sendNetKeyReport => exact does_sendNetKeyReport ctx
  | sendTransferEnd => exact ⟨.firstData (.setTimeout seconds10), rfl, does_sendTransferEnd ctx⟩
  | inclusionComplete => exact does_inclusionComplete ctx
  | checkNoKeys => exact does_checkNoKeys ctx
  | joiningStart =>
    exact ⟨.nothing, rfl, @Does.prepared .nothing ctx _ _ (does_nothing rfl rfl rfl)
      [.setTimeout seconds60]
      rfl rfl rfl rfl⟩
  | timeoutTb1Set =>
    exact ⟨.nothing, rfl, @Does.prepared .nothing ctx _ _ (does_nothing rfl rfl rfl)
      [.setTimeout seconds30, .stopTimeout] rfl rfl rfl rfl⟩
  | sendKexReport => exact ⟨.told .sendKexReport, rfl, does_sendKexReport ctx⟩
  | sendPubKeyB => exact does_sendPubKeyB ctx env
  | pubKeyARecv => exact ⟨.told .done, rfl, does_pubKeyARecv ctx⟩
  | doEcdhCalcB => exact ⟨.echo, rfl, does_doEcdhCalcB ctx env⟩
  | sendEchoKexSet => exact ⟨.echoAgain, rfl, does_sendEchoKexSet ctx⟩
  | sendNetKeyGet => exact does_sendNetKeyGet ctx env (hstate rfl)
  | sendNetKeyVerify => exact does_sendNetKeyVerify ctx
  | sendFinalTransferEnd => exact does_sendFinalTransferEnd ctx
  | joiningComplete => exact ⟨.told .done, rfl, does_joiningComplete ctx _⟩
  | joiningNeverStarted => exact ⟨.told .done, rfl, does_joiningComplete ctx _⟩

/-- Processing an event has one of the deeds of the action that the table has for it. -/
theorem does_processEvent (env : Env) (event : Event) :
    ∃ deed, (move ctx.state event).1.allows deed ∧ Does deed ctx (processEvent env event ctx) := by
  rw [processEvent_eq]
  obtain ⟨deed, hallows, hdoes⟩ := does_performAction { ctx with state := (move ctx.state event).2 }
    env (move ctx.state event).1 fun haction ↦ (move_sendNetKeyGet ctx.state event haction).1
  exact ⟨deed, hallows, hdoes.rebase rfl rfl rfl⟩

end Actions

end ZipGateway.Inclusion
