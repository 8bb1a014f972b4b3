import ZipGateway.TransportService.Model

/-!
# What the two halves leave alone

The sending half of the module and the receiving half share a state. `Ts.sendView` is what decides
about the completion of a send, and `Ts.recvView` what decides about the datagram that is being
received; the lemmas say which functions leave which of the two alone. The invariants of the two
halves are stated on the views, so that a function of the other half needs no argument of its own.
-/

set_option autoImplicit false

namespace ZipGateway.TransportService

open Lib

/-! ### The views -/

/-- The act says how a local send went. -/
def Act.isCompletion : Act → Bool
  | .returned .. => true
  | .completed .. => true
  | _ => false

/-- The act is about received frames and datagrams. -/
def Act.isReception : Act → Bool
  | .received .. => true
  | .delivered .. => true
  | _ => false

/-- What decides about the completion of a send. -/
structure SendView where
  completedFunc : Option ℕ
  currentDnode : UInt16
  lastCall : ℕ
  log : List Act

/-- What decides about the datagram that is being received. -/
structure RecvView where
  rcb : Rcb
  flagInitializeOnce : Bool
  log : List Act

def Ts.sendView (s : Ts) : SendView where
  completedFunc := s.scb.completedFunc
  currentDnode := s.scb.currentDnode
  lastCall := s.lastCall
  log := s.log.filter Act.isCompletion

/-- The receiving view of a state: without the timer of the sender, which is kept in the receiving
control block, and without the number of pending segments, which only goes into frames. -/
def Ts.recvView (s : Ts) : RecvView where
  rcb := { s.rcb with pendingSegments := 0, fcTimer := false }
  flagInitializeOnce := s.flagInitializeOnce
  log := s.log.filter Act.isReception

/-- Both views of the states are the same. -/
structure Neutral (s after : Ts) : Prop where
  sendView : after.sendView = s.sendView
  recvView : after.recvView = s.recvView

section Closure

variable {s t : Ts}

theorem Neutral.refl (s : Ts) : Neutral s s :=
  ⟨rfl, rfl⟩

theorem Neutral.postEvent {event : T2Event} (h : Neutral s t) : Neutral s (postEvent event t) :=
  ⟨h.sendView, h.recvView⟩

theorem Neutral.checkDivisor {unit : ℕ} (h : Neutral s t) : Neutral s (checkDivisor unit t) := by
  unfold TransportService.checkDivisor
  split_ifs
  · exact ⟨h.sendView, h.recvView⟩
  · exact h

theorem Neutral.sendRaw {env : Env} {snode dnode : UInt16} {txFlags : UInt8} {frame : List UInt8}
    {callback : Option RawCallback} (h : Neutral s t) :
    Neutral s (sendRaw env snode dnode txFlags frame callback t).1 := by
  unfold TransportService.sendRaw
  dsimp only
  split_ifs
  · exact ⟨h.sendView, h.recvView⟩
  · exact h

theorem Neutral.of_sendRaw_eq {env : Env} {snode dnode : UInt16} {txFlags : UInt8}
    {frame : List UInt8} {callback : Option RawCallback} {after : Ts} {taken : Bool}
    (h : Neutral s t)
    (heq : TransportService.sendRaw env snode dnode txFlags frame callback t = (after, taken)) :
    Neutral s after := by
  have hsent : Neutral s (TransportService.sendRaw env snode dnode txFlags frame callback t).1 :=
    h.sendRaw
  rwa [heq] at hsent

theorem Neutral.modifyScb {change : Scb → Scb} (h : Neutral s t)
    (hcompleted : (change t.scb).completedFunc = t.scb.completedFunc)
    (hdnode : (change t.scb).currentDnode = t.scb.currentDnode) :
    Neutral s (t.modifyScb change) := by
  refine ⟨?_, h.recvView⟩
  rw [← h.sendView]
  unfold Ts.sendView Ts.modifyScb
  rw [hcompleted, hdnode]

theorem Neutral.modifyRcb {change : Rcb → Rcb} (h : Neutral s t)
    (hchange : { change t.rcb with pendingSegments := 0, fcTimer := false } =
      { t.rcb with pendingSegments := 0, fcTimer := false }) : Neutral s (t.modifyRcb change) := by
  refine ⟨h.sendView, ?_⟩
  rw [← h.recvView]
  unfold Ts.recvView Ts.modifyRcb
  dsimp only
  rw [hchange]

theorem Neutral.load {frame : List UInt8} (h : Neutral s t) : Neutral s (t.load frame) :=
  ⟨h.sendView, h.recvView⟩

end Closure

/-! ### The sending half -/

section Sending

variable {s t : Ts} {env : Env}

theorem Neutral.sendLastFrag (h : Neutral s t) : Neutral s (sendLastFrag t) := by
  have hstopped : Neutral s (t.modifyRcb fun rcb ↦ { rcb with fcTimer := false }) :=
    h.modifyRcb rfl
  have hsent : Neutral s ((t.modifyRcb fun rcb ↦ { rcb with fcTimer := false }).modifyScb fun scb ↦
      { scb with resetTimer := true, sending := false, pendingSegments := 0 }) :=
    hstopped.modifyScb rfl rfl
  unfold TransportService.sendLastFrag
  dsimp only
  split
  · exact .postEvent ⟨hsent.sendView, hsent.recvView⟩
  · exact .postEvent (.modifyRcb ⟨hsent.sendView, hsent.recvView⟩ rfl)

theorem Neutral.sendFragWaitCmd (h : Neutral s t) : Neutral s (sendFragWaitCmd env t) := by
  have hreset : Neutral s (t.modifyScb fun scb ↦ { scb with resetTimer := true }) :=
    h.modifyScb rfl rfl
  unfold TransportService.sendFragWaitCmd
  dsimp only
  split
  · exact .postEvent (.sendRaw hreset)
  · split
    · exact .postEvent (.sendRaw (.modifyRcb hreset rfl))
    · exact .postEvent (.sendRaw (.modifyRcb (.checkDivisor hreset) rfl))

theorem Neutral.askToWait (h : Neutral s t) : Neutral s (askToWait env t) := by
  unfold TransportService.askToWait
  split_ifs
  · exact .modifyScb h rfl rfl
  · exact h.sendFragWaitCmd

theorem startSession_completedFunc (scb : Scb) (session maxPayload : ℕ) :
    (scb.startSession session maxPayload).completedFunc = scb.completedFunc ∧
      (scb.startSession session maxPayload).currentDnode = scb.currentDnode := by
  unfold Scb.startSession Scb.setFragCompl
  dsimp only
  split_ifs <;> exact ⟨rfl, rfl⟩

theorem Neutral.loadFirstFrag (h : Neutral s t) : Neutral s (loadFirstFrag env t) := by
  have hstart : Neutral s { t with
      scb := t.scb.startSession (nextSessionId env t) (fragmentMaxPayloadFor t.scb.p.txFlags)
      fragmentMaxPayload := fragmentMaxPayloadFor t.scb.p.txFlags } := by
    obtain ⟨hcompleted, hdnode⟩ := startSession_completedFunc t.scb (nextSessionId env t)
      (fragmentMaxPayloadFor t.scb.p.txFlags)
    have hscb : Neutral s (t.modifyScb fun scb ↦
        scb.startSession (nextSessionId env t) (fragmentMaxPayloadFor t.scb.p.txFlags)) :=
      h.modifyScb hcompleted hdnode
    exact ⟨hscb.sendView, hscb.recvView⟩
  unfold TransportService.loadFirstFrag
  exact .modifyScb (.checkDivisor (.load hstart)) rfl rfl

theorem Neutral.transmitFragment {overhead : ℕ} {callback : RawCallback} (h : Neutral s t) :
    Neutral s (transmitFragment env overhead callback t).1 := by
  unfold TransportService.transmitFragment
  exact .sendRaw (.modifyScb h rfl rfl)

theorem Neutral.of_transmitFragment_eq {overhead : ℕ} {callback : RawCallback} {after : Ts}
    {taken : Bool} (h : Neutral s t)
    (heq : TransportService.transmitFragment env overhead callback t = (after, taken)) :
    Neutral s after := by
  have hsent : Neutral s (TransportService.transmitFragment env overhead callback t).1 :=
    h.transmitFragment
  rwa [heq] at hsent

theorem Neutral.sendFirstFrag (h : Neutral s t) : Neutral s (sendFirstFrag env t) := by
  have hloaded : Neutral s (TransportService.loadFirstFrag env t) := h.loadFirstFrag
  unfold TransportService.sendFirstFrag
  generalize TransportService.loadFirstFrag env t = loaded at hloaded ⊢
  dsimp only
  split_ifs
  · exact .sendLastFrag (.postEvent (.modifyScb hloaded rfl rfl))
  · split
    · rename_i after heq
      exact .postEvent (.modifyScb (hloaded.of_transmitFragment_eq heq) rfl rfl)
    · rename_i after heq
      exact hloaded.of_transmitFragment_eq heq

theorem Neutral.subseqCursor (h : Neutral s t) : Neutral s (subseqCursor t) :=
  .modifyScb (.modifyRcb h rfl) rfl rfl

theorem Neutral.loadSubseqFrag (h : Neutral s t) : Neutral s (loadSubseqFrag t) :=
  .load (.modifyScb h rfl rfl)

theorem Neutral.advanceCursor (h : Neutral s t) : Neutral s (advanceCursor t) :=
  .modifyScb (.checkDivisor h) rfl rfl

theorem Neutral.sendSubseqFrag (h : Neutral s t) : Neutral s (sendSubseqFrag env t) := by
  have hcursor : Neutral s (TransportService.subseqCursor t) := h.subseqCursor
  have hloaded : Neutral s (TransportService.loadSubseqFrag (TransportService.subseqCursor t)) :=
    hcursor.loadSubseqFrag
  unfold TransportService.sendSubseqFrag
  dsimp only
  split_ifs
  · exact hcursor
  · exact .sendLastFrag (.postEvent (.modifyScb hloaded rfl rfl))
  · split
    · rename_i after heq
      exact .postEvent (.advanceCursor (hloaded.of_transmitFragment_eq heq))
    · rename_i after heq
      exact .postEvent (hloaded.of_transmitFragment_eq heq)

theorem Neutral.loadMissingFrag (h : Neutral s t) : Neutral s (loadMissingFrag t) :=
  .load (.modifyScb h rfl rfl)

theorem Neutral.replyFragReq (h : Neutral s t) : Neutral s (replyFragReq env t) := by
  have hloaded : Neutral s (TransportService.loadMissingFrag t) := h.loadMissingFrag
  unfold TransportService.replyFragReq
  split_ifs with hcomplete
  · exact h
  · dsimp only
    split
    · exact .sendLastFrag (.modifyScb (.postEvent (.modifyScb hloaded rfl rfl)) rfl rfl)
    · exact .modifyRcb (.modifyScb (.transmitFragment hloaded) rfl rfl) rfl

theorem Neutral.tsSenddataCb (h : Neutral s t) : Neutral s (tsSenddataCb env t) := by
  unfold TransportService.tsSenddataCb
  split_ifs with hreply hwait
  · exact .replyFragReq (.modifyScb h rfl rfl)
  · exact .sendFragWaitCmd (.modifyScb h rfl rfl)
  · exact .modifyScb h rfl rfl

theorem Neutral.receiveSegmentRequest (h : Neutral s t) :
    Neutral s (receiveSegmentRequest env t) := by
  unfold TransportService.receiveSegmentRequest
  dsimp only
  split
  · exact .postEvent (.postEvent h)
  · split_ifs with hsending
    · exact .modifyScb (.postEvent (.modifyScb (.modifyRcb (.postEvent h) rfl) rfl rfl)) rfl rfl
    · exact .replyFragReq (.postEvent (.modifyScb (.modifyRcb (.postEvent h) rfl) rfl rfl))

theorem Neutral.receiveSegmentWait (h : Neutral s t) : Neutral s (receiveSegmentWait env t) := by
  unfold TransportService.receiveSegmentWait
  split_ifs with hcomplete
  · exact .postEvent h
  · exact .modifyScb (.modifyRcb (.tsSenddataCb (.modifyScb (.postEvent h) rfl rfl)) rfl) rfl rfl

theorem Neutral.tieBreak {p : TsParam} (h : Neutral s t) : Neutral s (tieBreak p t) := by
  unfold TransportService.tieBreak
  split_ifs
  · exact ⟨h.sendView, h.recvView⟩
  · exact h

theorem Neutral.abortIfTieBroken (h : Neutral s t) : Neutral s (abortIfTieBroken t) := by
  unfold TransportService.abortIfTieBroken
  split_ifs
  · exact .modifyScb h rfl rfl
  · exact h

end Sending

/-! ### The receiving half -/

section Receiving

variable (env : Env) (s : Ts)

theorem sendView_sendFragCompleteCmd : (sendFragCompleteCmd env s).sendView = s.sendView := by
  unfold sendFragCompleteCmd
  split_ifs
  · exact (Neutral.sendRaw ((Neutral.refl s).modifyScb rfl rfl)).sendView
  · rfl

theorem sendView_sendFragReqCmd : (sendFragReqCmd env s).sendView = s.sendView := by
  unfold sendFragReqCmd
  dsimp only
  split_ifs
  · rfl
  · rfl
  · have hloaded : Neutral s ((s.load (segmentRequest s.rcb.sessionId
        (getNextMissingOffset s.rcb))).modifyScb fun scb ↦ { scb with resetTimer := true }) :=
      .modifyScb (.load (.refl s)) rfl rfl
    refine Eq.trans (b := Ts.sendView _) rfl ?_
    split
    · rename_i after heq
      exact (hloaded.of_sendRaw_eq heq).sendView
    · rename_i after heq
      have hsent := (hloaded.of_sendRaw_eq heq).sendView
      split_ifs
      · exact (Neutral.sendRaw (.refl _)).sendView.trans hsent
      · exact hsent

theorem sendView_findMissing : (findMissing env s).sendView = s.sendView := by
  unfold findMissing
  split_ifs
  · rfl
  · exact sendView_sendFragReqCmd env _
  · rfl
  · exact sendView_sendFragCompleteCmd env _

theorem sendView_rxTimerExpired : (rxTimerExpired env s).sendView = s.sendView := by
  unfold rxTimerExpired
  dsimp only
  split_ifs
  · rfl
  · exact sendView_findMissing env _

theorem sendView_receiveFirstFragment : (receiveFirstFragment env s).sendView = s.sendView := by
  have habort := (Neutral.abortIfTieBroken (.refl s)).sendView
  unfold receiveFirstFragment
  dsimp only
  split_ifs
  · exact habort
  · exact habort
  · exact habort
  · exact habort
  · refine Eq.trans ?_ habort
    unfold storeFirstFragment
    dsimp only
    split_ifs
    · exact sendView_sendFragCompleteCmd env _
    · rfl

theorem sendView_dropDuplicate : (dropDuplicate s).sendView = s.sendView := by
  unfold dropDuplicate
  split_ifs <;> rfl

theorem sendView_storeSubseqFragment (cmd : ℕ → UInt8) (offset size : ℕ) :
    (storeSubseqFragment env cmd offset size s).sendView = s.sendView := by
  unfold storeSubseqFragment
  split
  · exact (Neutral.askToWait (.postEvent (.refl s))).sendView
  · rename_i marked hmark
    have hmarked : marked.sendView = s.sendView := by
      unfold markFragReceived at hmark
      split_ifs at hmark
      rw [← Option.some.inj hmark]
      rfl
    dsimp only
    split_ifs
    · exact (sendView_findMissing env _).trans hmarked
    · exact hmarked

theorem sendView_receiveSubseqFragment : (receiveSubseqFragment env s).sendView = s.sendView := by
  have habort := (Neutral.abortIfTieBroken (.refl s)).sendView
  unfold receiveSubseqFragment
  dsimp only
  split_ifs
  · exact habort
  · exact habort
  · exact (sendView_dropDuplicate _).trans habort
  · exact habort
  · exact (sendView_dropDuplicate _).trans habort
  · exact habort
  · exact (sendView_storeSubseqFragment env _ _ _ _).trans habort

/-- `takeFrame` moves the state table, sets the control block up and gives the frame to
`receive`. -/
theorem takeFrame_eq (p : TsParam) (cmd : ℕ → UInt8) (cmdLength : UInt8) :
    ∃ state, takeFrame env p cmd cmdLength s =
      receive env ((initializeOnce { s with currentState := state }).modifyRcb fun rcb ↦
        { rcb with fragment := cmd, p := p, fragmentLen := cmdLength.toNat }) := by
  unfold takeFrame
  dsimp only
  split
  · exact ⟨_, rfl⟩
  · exact ⟨_, rfl⟩
  · exact ⟨s.currentState, rfl⟩

theorem sendView_initializeOnce : (initializeOnce s).sendView = s.sendView := by
  unfold initializeOnce
  split_ifs <;> rfl

end Receiving

/-! ### The completion of sends -/

section Completing

variable (env : Env) (s : Ts)

theorem sendView_returned (call : ℕ) (result : Bool) :
    (s.record (.returned call result)).sendView =
      { s.sendView with log := .returned call result :: s.sendView.log } :=
  rfl

theorem recvView_callCompleted
    (status : UInt8) : (callCompleted status s).recvView = s.recvView := by
  unfold callCompleted
  split <;> rfl

theorem recvView_tempCallbackReplyFragReq (status : UInt8) :
    (tempCallbackReplyFragReq status s).recvView = s.recvView := by
  unfold tempCallbackReplyFragReq
  split_ifs
  · exact recvView_callCompleted s status
  · rfl

theorem recvView_fcTimerExpired : (fcTimerExpired s).recvView = s.recvView := by
  unfold fcTimerExpired
  split_ifs
  · exact recvView_callCompleted _ _
  · exact recvView_callCompleted _ _
  · exact recvView_callCompleted _ _
  · exact (Neutral.sendLastFrag (.modifyScb (.postEvent (.refl s)) rfl rfl)).recvView

theorem recvView_returned (call : ℕ) (result : Bool) :
    (s.record (.returned call result)).recvView = s.recvView :=
  rfl

theorem recvView_sendData (p : TsParam) (data : ℕ → UInt8) (dataLength : ℕ) :
    (sendData env p data dataLength s).recvView = s.recvView := by
  unfold sendData
  dsimp only
  split_ifs
  · rfl
  · rw [recvView_returned, (Neutral.sendFirstFrag (.refl _)).recvView]
    rfl

theorem recvView_receiveSegmentComplete : (receiveSegmentComplete s).recvView = s.recvView := by
  unfold receiveSegmentComplete
  dsimp only
  split
  · rfl
  · change (callCompleted transmitCompleteOk _).recvView = _
    rw [recvView_callCompleted]
    rfl

theorem recvView_rawCallback (status : UInt8) (kind : RawCallback) :
    (rawCallback env status kind s).recvView = s.recvView := by
  cases kind with
  | sendData => exact (Neutral.tsSenddataCb (.refl s)).recvView
  | lastFrag => rfl
  | replyFragReq => exact recvView_tempCallbackReplyFragReq s status

end Completing

end ZipGateway.TransportService
