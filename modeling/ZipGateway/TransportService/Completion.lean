import ZipGateway.TransportService.Footprint

/-!
# How often a send completes

`ZW_TransportService_SendData` takes a `completedFunc`. Its header promises that the function is
called once for a call that returns true and not at all for one that returns false. The control
block has no field that says whether the function has been called; `current_dnode`, which is the
destination while a send is open and zero afterwards, comes nearest to one. Of the places that call
`completedFunc` only three look at it or clear it, and a busy `ZW_TransportService_SendData` calls
it before it returns false.

`SendStep` says what one step of the machine can do to the completion of sends, as long as no step
takes a branch that calls `completedFunc` for a send that is not open or that leaves the send open.
Over any run of such steps every accepted call completes at most once and a refused one never.
-/

set_option autoImplicit false

namespace ZipGateway.TransportService

open Lib List

/-! ### Counting -/

/-- The act is a call of the `completedFunc` of this call of `ZW_TransportService_SendData`. -/
def Act.completes (call : ℕ) : Act → Bool
  | .completed other _ => decide (other = call)
  | _ => false

/-- How often the `completedFunc` of a call has been called. -/
def completions (call : ℕ) (log : List Act) : ℕ := log.countP (Act.completes call)

/-- What the header of the module promises: `completedFunc` is called at most once for each call,
and not at all for a call that returned false. -/
def CompletesAtMostOnce (log : List Act) : Prop :=
  ∀ call, completions call log ≤ 1 ∧ (.returned call false ∈ log → completions call log = 0)

theorem completions_filter (call : ℕ) (log : List Act) :
    completions call (log.filter Act.isCompletion) = completions call log := by
  unfold completions
  rw [countP_filter]
  apply countP_congr
  intro act _
  cases act <;> simp [Act.completes, Act.isCompletion]

/-- The promise only looks at how the local sends went. -/
theorem completesAtMostOnce_filter (log : List Act) :
    CompletesAtMostOnce (log.filter Act.isCompletion) ↔ CompletesAtMostOnce log := by
  unfold CompletesAtMostOnce
  simp only [completions_filter, mem_filter, Act.isCompletion, and_true]

theorem completions_completed (call other : ℕ) (status : UInt8) (log : List Act) :
    completions call (.completed other status :: log) =
      completions call log + if other = call then 1 else 0 := by
  unfold completions
  rw [countP_cons]
  simp [Act.completes]

theorem completions_returned (call other : ℕ) (result : Bool) (log : List Act) :
    completions call (.returned other result :: log) = completions call log := by
  unfold completions
  rw [countP_cons]
  simp [Act.completes]

/-! ### What a step can do -/

/-- The current send completes and is closed. -/
def SendView.complete (status : UInt8) (v : SendView) : SendView where
  completedFunc := v.completedFunc
  currentDnode := 0
  lastCall := v.lastCall
  log := match v.completedFunc with
    | some call => .completed call status :: v.log
    | none => v.log

/-- A call is accepted. -/
def SendView.accept (dnode : UInt16) (v : SendView) : SendView where
  completedFunc := some (v.lastCall + 1)
  currentDnode := dnode
  lastCall := v.lastCall + 1
  log := .returned (v.lastCall + 1) true :: v.log

/-- What a step may do to the sending view: nothing, accept a call, or complete an open send. -/
inductive SendStep (v : SendView) : SendView → Prop
  | skip : SendStep v v
  | accept (dnode : UInt16) : SendStep v (v.accept dnode)
  | complete (status : UInt8) (hopen : v.currentDnode ≠ 0) : SendStep v (v.complete status)

/-- The invariant: besides the promise, the `completedFunc` of an open send has not been called, and
the numbers of calls to come have not been used. -/
structure CompletionInv (v : SendView) : Prop where
  promise : CompletesAtMostOnce v.log
  completed_le : ∀ call, v.lastCall < call → completions call v.log = 0
  returned_le : ∀ call result, .returned call result ∈ v.log → call ≤ v.lastCall
  current_le : ∀ call, v.completedFunc = some call → call ≤ v.lastCall
  current_accepted : ∀ call, v.completedFunc = some call → .returned call false ∉ v.log
  open_pending : ∀ call, v.completedFunc = some call → v.currentDnode ≠ 0 →
    completions call v.log = 0

theorem CompletionInv.powerUp (myNodeId : UInt8) :
    CompletionInv (Ts.powerUp myNodeId).sendView where
  promise := fun _ ↦ ⟨Nat.zero_le 1, fun hreturned ↦ absurd hreturned not_mem_nil⟩
  completed_le := fun _ _ ↦ rfl
  returned_le := fun _ _ hreturned ↦ absurd hreturned not_mem_nil
  current_le := fun _ hcurrent ↦ nomatch hcurrent
  current_accepted := fun _ hcurrent ↦ nomatch hcurrent
  open_pending := fun _ hcurrent ↦ nomatch hcurrent

theorem CompletionInv.accept {v : SendView} (h : CompletionInv v) (dnode : UInt16) :
    CompletionInv (v.accept dnode) := by
  have hfresh : .returned (v.lastCall + 1) false ∉ v.log := by
    intro hreturned
    have hle := h.returned_le _ _ hreturned
    omega
  refine ⟨?_, ?_, ?_, ?_, ?_, ?_⟩
  · intro call
    simp only [SendView.accept, completions_returned, mem_cons, Act.returned.injEq,
      Bool.false_eq_true, and_false, false_or]
    exact h.promise call
  · intro call hcall
    simp only [SendView.accept] at hcall ⊢
    rw [completions_returned]
    exact h.completed_le call (by omega)
  · intro call result hreturned
    simp only [SendView.accept, mem_cons, Act.returned.injEq] at hreturned ⊢
    rcases hreturned with ⟨rfl, -⟩ | hreturned
    · exact Nat.le_refl _
    · exact Nat.le_succ_of_le (h.returned_le call result hreturned)
  · intro call hcurrent
    obtain rfl : v.lastCall + 1 = call := Option.some.inj hcurrent
    exact Nat.le_refl _
  · intro call hcurrent
    obtain rfl : v.lastCall + 1 = call := Option.some.inj hcurrent
    simpa [SendView.accept] using hfresh
  · intro call hcurrent _
    obtain rfl : v.lastCall + 1 = call := Option.some.inj hcurrent
    simp only [SendView.accept, completions_returned]
    exact h.completed_le _ (Nat.lt_succ_self _)

theorem CompletionInv.complete {v : SendView} (h : CompletionInv v) (status : UInt8)
    (hopen : v.currentDnode ≠ 0) : CompletionInv (v.complete status) := by
  have hclosed : ∀ call, (v.complete status).completedFunc = some call →
      (v.complete status).currentDnode ≠ 0 → completions call (v.complete status).log = 0 :=
    fun _ _ hne ↦ absurd rfl hne
  cases hcurrent : v.completedFunc with
  | none =>
    have hlog : (v.complete status).log = v.log := by simp only [SendView.complete, hcurrent]
    exact ⟨hlog ▸ h.promise, hlog ▸ h.completed_le, hlog ▸ h.returned_le, h.current_le,
      hlog ▸ h.current_accepted, hclosed⟩
  | some current =>
    have hlog : (v.complete status).log = .completed current status :: v.log := by
      simp only [SendView.complete, hcurrent]
    have hpending := h.open_pending current hcurrent hopen
    have hreturned : ∀ call result, .returned call result ∈ (v.complete status).log →
        .returned call result ∈ v.log := by
      intro call result hmem
      rw [hlog] at hmem
      exact (mem_cons.mp hmem).resolve_left nofun
    refine ⟨?_, ?_, ?_, h.current_le, ?_, hclosed⟩
    · intro call
      rw [hlog, completions_completed]
      by_cases hcall : current = call
      · subst hcall
        refine ⟨by simp [hpending], ?_⟩
        intro hmem
        exact absurd (hreturned current false (hlog ▸ hmem)) (h.current_accepted current hcurrent)
      · rw [if_neg hcall]
        exact ⟨(h.promise call).1, fun hmem ↦
          (h.promise call).2 (hreturned call false (hlog ▸ hmem))⟩
    · intro call hcall
      have hle := h.current_le current hcurrent
      have hlast : v.lastCall < call := hcall
      rw [hlog, completions_completed, if_neg (by omega)]
      exact h.completed_le call hlast
    · intro call result hmem
      exact h.returned_le call result (hreturned call result hmem)
    · intro call hcall hmem
      exact h.current_accepted call hcall (hreturned call false hmem)

theorem SendStep.inv {v after : SendView} (hstep : SendStep v after) (h : CompletionInv v) :
    CompletionInv after := by
  cases hstep with
  | skip => exact h
  | accept dnode => exact h.accept dnode
  | complete status hopen => exact h.complete status hopen

/-! ### The steps of the machine -/

/-- The frame is a segment complete for the current send session. -/
def completesSession (cmd : ℕ → UInt8) (s : Ts) : Bool :=
  decide (cmd 0 = commandClassTransportService ∧ cmd 1 &&& 0xF8 = commandSegmentComplete ∧
    sessionIdOf (cmd 2) = s.scb.sessionId ∧ sessionIdOf (cmd 2) ≠ s.scb.transmissionAborted)

/-- No step takes a branch that calls `completedFunc` for a send that is closed or leaves it open: a
send is only asked for in the idle state; a segment complete for the session, and a timer that gives
up, only come for an open send; a fragment that is sent again is not reported as failed; and the
timer does not expire for an aborted session. -/
def completionAllowed (s : Ts) : Input → Prop
  | .sendData .. => isSending s = false ∧ isReceiving s = false
  | .receive _ cmd _ => completesSession cmd s → s.scb.currentDnode ≠ 0
  | .rawCallback k status => s.outstanding[k]? = some .replyFragReq → status = transmitCompleteOk
  | .fcTimer =>
    if s.scb.flagRepliedFragReq then s.scb.currentDnode ≠ 0
    else s.scb.transmissionAborted ≠ s.scb.sessionId ∧
      (s.scb.flagFcTimerExpiredOnce → s.scb.currentDnode ≠ 0)
  | _ => True

instance (s : Ts) (input : Input) : Decidable (completionAllowed s input) := by
  cases input <;> unfold completionAllowed <;> infer_instance

theorem SendStep.of_eq {v after : SendView} (h : after = v) : SendStep v after :=
  h ▸ .skip

/-- The code closes a send before it calls `completedFunc`. -/
theorem sendView_callCompleted {s t : Ts} (status : UInt8)
    (hclosed : t.sendView = { s.sendView with currentDnode := 0 }) :
    (callCompleted status t).sendView = s.sendView.complete status := by
  have hcomplete : s.sendView.complete status = t.sendView.complete status := by
    rw [hclosed]
    rfl
  have hdnode : t.scb.currentDnode = 0 := congrArg SendView.currentDnode hclosed
  rw [hcomplete]
  unfold callCompleted
  split
  · rename_i call hcall
    simp only [SendView.complete, Ts.sendView, Ts.record, hcall, hdnode]
    rfl
  · rename_i hnone
    simp only [SendView.complete, Ts.sendView, hnone, hdnode]

theorem sendView_sendData (env : Env) (p : TsParam) (data : ℕ → UInt8) (dataLength : ℕ) (s : Ts)
    (hidle : isSending s = false ∧ isReceiving s = false) :
    (sendData env p data dataLength s).sendView = s.sendView.accept p.dnode := by
  obtain ⟨hsending, hreceiving⟩ := hidle
  unfold sendData
  dsimp only
  rw [if_neg]
  · rw [sendView_returned, (Neutral.sendFirstFrag (.refl _)).sendView]
    rfl
  · intro hbusy
    change (isSending s || isReceiving s) = true at hbusy
    rw [hsending, hreceiving] at hbusy
    exact absurd hbusy Bool.false_ne_true

theorem sendStep_fcTimerExpired {s : Ts}
    (hallowed : completionAllowed s .fcTimer) :
    SendStep s.sendView (fcTimerExpired s).sendView := by
  unfold completionAllowed at hallowed
  unfold fcTimerExpired
  split_ifs at hallowed ⊢ with hreplied haborted honce
  · have hcompleted := sendView_callCompleted (s := s) transmitCompleteFail
      (t := postEvent .fragComplTimerReq (s.modifyScb fun scb ↦
        { scb with
          transmissionAborted := scb.sessionId
          flagRepliedFragReq := false
          currentDnode := 0 })) rfl
    rw [hcompleted]
    exact .complete _ hallowed
  · exact absurd haborted hallowed.1
  · have hcompleted := sendView_callCompleted (s := s) transmitCompleteFail
      (t := s.modifyScb fun scb ↦
        { scb with flagFcTimerExpiredOnce := false, currentDnode := 0 }) rfl
    change SendStep s.sendView (callCompleted transmitCompleteFail _).sendView
    rw [hcompleted]
    exact .complete _ (hallowed.2 honce)
  · exact .of_eq (Neutral.sendLastFrag (.modifyScb (.postEvent (.refl s)) rfl rfl)).sendView

theorem sendStep_receiveSegmentComplete {s t : Ts} (hview : t.sendView = s.sendView)
    (hopen : sessionIdOf (t.rcb.fragment 2) = t.scb.sessionId →
      sessionIdOf (t.rcb.fragment 2) ≠ t.scb.transmissionAborted → s.scb.currentDnode ≠ 0) :
    SendStep s.sendView (receiveSegmentComplete t).sendView := by
  unfold receiveSegmentComplete
  dsimp only
  split
  · exact .of_eq hview
  · rename_i haccepted
    unfold controlAccepted at haccepted
    dsimp only at haccepted
    split_ifs at haccepted with haborted hsession hnode
    have hclosed : (((postEvent .fragReqOrCompl t).modifyRcb fun rcb ↦
        { rcb with fcTimer := false }).modifyScb fun scb ↦
        { scb.setFragCompl scb.sessionId true with currentDnode := 0 }).sendView =
        { s.sendView with currentDnode := 0 } := by
      rw [← hview]
      unfold Scb.setFragCompl Ts.sendView Ts.modifyScb
      dsimp only
      split_ifs <;> rfl
    change SendStep s.sendView (callCompleted transmitCompleteOk _).sendView
    rw [sendView_callCompleted transmitCompleteOk hclosed]
    exact .complete _ (hopen (not_not.mp hsession) haborted)

/-- What `receive` does, when the frame is one that may come. -/
theorem sendStep_receive (env : Env) {s t : Ts} (hview : t.sendView = s.sendView)
    (hopen : completesSession t.rcb.fragment t → s.scb.currentDnode ≠ 0) :
    SendStep s.sendView (receive env t).sendView := by
  unfold receive
  dsimp only
  split_ifs with hclass hfirst hsubseq hrequest hcomplete hwait
  · exact .of_eq hview
  · exact .of_eq ((sendView_receiveFirstFragment env t).trans hview)
  · exact .of_eq ((sendView_receiveSubseqFragment env t).trans hview)
  · exact .of_eq ((Neutral.receiveSegmentRequest (.refl t)).sendView.trans hview)
  · apply sendStep_receiveSegmentComplete hview
    intro hsession haborted
    exact hopen (decide_eq_true ⟨not_not.mp hclass, hcomplete, hsession, haborted⟩)
  · exact .of_eq ((Neutral.receiveSegmentWait (.refl t)).sendView.trans hview)
  · exact .of_eq hview

theorem sendStep_takeFrame (env : Env) {s t : Ts} (p : TsParam) (cmd : ℕ → UInt8)
    (cmdLength : UInt8) (hview : t.sendView = s.sendView)
    (hopen : completesSession cmd t → s.scb.currentDnode ≠ 0) :
    SendStep s.sendView (takeFrame env p cmd cmdLength t).sendView := by
  obtain ⟨state, htake⟩ := takeFrame_eq env t p cmd cmdLength
  rw [htake]
  apply sendStep_receive env
  · exact (sendView_initializeOnce _).trans hview
  · intro hcompletes
    apply hopen
    rw [← hcompletes]
    -- moving the state table and setting the control block up change no session
    unfold initializeOnce
    split_ifs <;> rfl

/-- Up to `receive`, the handler leaves the sessions and the sending view alone. -/
theorem sendStep_applicationCommandHandler (env : Env) {s : Ts} (p : TsParam) (cmd : ℕ → UInt8)
    (cmdLength : UInt8) (hopen : completesSession cmd s → s.scb.currentDnode ≠ 0) :
    SendStep s.sendView (applicationCommandHandler env p cmd cmdLength s).sendView := by
  have hneutral : (tieBreak p ((s.record (.received p cmd cmdLength)).modifyScb fun scb ↦
      { scb with resetTimer := true })).sendView = s.sendView :=
    (Neutral.tieBreak (.refl _)).sendView
  have hsessions : ∀ t, t = tieBreak p ((s.record (.received p cmd cmdLength)).modifyScb fun scb ↦
      { scb with resetTimer := true }) → completesSession cmd t = completesSession cmd s := by
    rintro t rfl
    unfold tieBreak
    split_ifs <;> rfl
  unfold applicationCommandHandler
  dsimp only
  generalize ht : tieBreak p _ = t at hneutral ⊢
  have hcomplete := hsessions t ht.symm
  split_ifs with hself hlong hsingle hwaiting hbroad hsubseq htooLong
  · exact .of_eq hneutral
  · exact .of_eq hneutral
  · exact .of_eq hneutral
  · exact .of_eq ((Neutral.askToWait (.refl _)).sendView.trans hneutral)
  · exact .of_eq hneutral
  · exact .of_eq hneutral
  · exact .of_eq ((Neutral.askToWait (.refl _)).sendView.trans hneutral)
  · refine sendStep_takeFrame env (t := t.modifyScb fun scb ↦ { scb with fragWaitP := p }) p cmd
      cmdLength hneutral ?_
    intro hcompletes
    exact hopen (hcomplete ▸ hcompletes)

/-- Every allowed step does one of the three things to the completion of sends. -/
theorem sendStep_step (env : Env) (s : Ts) (input : Input) (hallowed : completionAllowed s input) :
    SendStep s.sendView (step env s input).sendView := by
  cases input with
  | sendData p data dataLength =>
    unfold step
    rw [sendView_sendData env p data dataLength.toNat s hallowed]
    exact .accept p.dnode
  | receive p cmd cmdLength =>
    exact sendStep_applicationCommandHandler env p cmd cmdLength hallowed
  | rawCallback k status =>
    unfold step
    dsimp only
    split
    · exact .skip
    · rename_i kind hkind
      cases kind with
      | sendData => exact .of_eq (Neutral.tsSenddataCb (.refl _)).sendView
      | lastFrag => exact .skip
      | replyFragReq =>
        have hok : status = transmitCompleteOk := hallowed hkind
        unfold rawCallback tempCallbackReplyFragReq
        rw [if_neg (not_not.mpr hok)]
        exact .skip
  | fcTimer =>
    unfold step
    dsimp only
    split_ifs
    · exact sendStep_fcTimerExpired
        (s := s.modifyRcb fun rcb ↦ { rcb with fcTimer := false }) hallowed
    · exact .skip
  | rxTimer =>
    unfold step
    dsimp only
    split_ifs
    · exact .of_eq (sendView_rxTimerExpired env s)
    · exact .skip
  | resetTimer =>
    unfold step
    dsimp only
    split_ifs <;> exact .skip
  | waitRestartTimer =>
    unfold step
    dsimp only
    split_ifs
    · exact .of_eq (Neutral.sendFirstFrag (.refl _)).sendView
    · exact .skip
  | timerBtwn2Frags =>
    unfold step
    dsimp only
    split_ifs
    · exact .of_eq (Neutral.sendSubseqFrag (.refl _)).sendView
    · exact .skip

/-- Over every run whose steps are allowed, each accepted call completes at most once and a refused
call does not complete. -/
theorem completes_at_most_once (env : Env) (myNodeId : UInt8) (inputs : List Input)
    (hallowed : AllSteps (step env) completionAllowed (Ts.powerUp myNodeId) inputs) :
    CompletesAtMostOnce (run (step env) (Ts.powerUp myNodeId) inputs).log := by
  rw [← completesAtMostOnce_filter]
  have hinv : CompletionInv (run (step env) (Ts.powerUp myNodeId) inputs).sendView :=
    run_invariant_of_allSteps
      (fun s input hinput h ↦ (sendStep_step env s input hinput).inv h) (.powerUp myNodeId) hallowed
  exact hinv.promise

/-- Ten bytes are sent to node 5, which completes session 1. -/
def sendTenBytes : Input :=
  .sendData { zeroParam with snode := 1, dnode := 5 } (fun _ ↦ 0x20) 10

/-- Node 5 completes session 1. -/
def segmentCompleteFromFive : Input :=
  .receive { zeroParam with snode := 5, dnode := 1 }
    (fun i ↦ [commandClassTransportService, commandSegmentComplete, 0x10].getD i 0) 3

theorem completes_at_most_once_twoSends :
    CompletesAtMostOnce (run (step takesAll) (Ts.powerUp 1)
      [sendTenBytes, segmentCompleteFromFive, sendTenBytes, .fcTimer]).log :=
  completes_at_most_once takesAll 1 _
    ⟨by decide +kernel, by decide +kernel, by decide +kernel, by decide +kernel, trivial⟩

/-- When the segment complete of node 5 is repeated, `completedFunc` is called twice. -/
theorem completes_twice_on_repeated_segmentComplete :
    ¬ ∀ (env : Env) (myNodeId : UInt8) (inputs : List Input),
      CompletesAtMostOnce (run (step env) (Ts.powerUp myNodeId) inputs).log := by
  intro hclaim
  have honce := (hclaim takesAll 1
    [sendTenBytes, segmentCompleteFromFive, segmentCompleteFromFive] 1).1
  exact absurd honce (by decide +kernel)

end ZipGateway.TransportService
