import ZipGateway.Mailbox.ProxyQueue

/-!
# The frame in flight

While the mailbox waits in `MB_STATE_SENDING` for the report of a frame, most events must not do
anything. The state takes every event for one that asks it to send the next entry, though, and the
callbacks of transmissions that were given up are taken for the report. `sending_undisturbed` says
which events disturb the mailbox then. That a frame is not in flight twice is up to
`ClassicZIPNode_input`, and holds in every run.
-/

set_option autoImplicit false

namespace ZipGateway.Mailbox

open Lib Contiki List

/-! ### The calls of `ClassicZIPNode_input` -/

/-- `ClassicZIPNode_input` was called. -/
def Act.isHanded : Act → Bool
  | .handed _ => true
  | _ => false

/-- The calls of `ClassicZIPNode_input`. -/
def MailboxState.calls (s : MailboxState) : List Act := s.log.filter Act.isHanded

/-- `ClassicZIPNode_input` is not called, and the state stays. -/
structure Undisturbed (s t : MailboxState) : Prop where
  calls : t.calls = s.calls
  state : t.state = s.state

/-- The input is `mb_send_done_event`. -/
def Input.isSendDoneEvent : Input → Bool
  | .sendDoneEvent _ => true
  | _ => false

/-- The inputs that disturb the mailbox while it waits for the report of a frame. -/
def Disturbs (s : MailboxState) : Input → Prop
  | .sendPingTimeout => True
  | .ping _ _ _ => True
  | .wakeupNotification _ _ _ => True
  | .ack _ => True
  | .sendDone _ => True
  | .udpPingReply _ => True
  | .probeWakeupCallback => True
  | .abortSending => True
  | .nodeTransmissionOkEvent node => s.node = node
  | _ => False

/-- A call was made, or the state is left. -/
def Disturbed (s t : MailboxState) : Prop :=
  s.calls.length < t.calls.length ∨ t.state ≠ .sending

section Calls

variable {s t u : MailboxState} {config : Config} {answers : Answers}

theorem Disturbed.not_undisturbed (hdisturbed : Disturbed s t) (hstate : s.state = .sending) :
    ¬ Undisturbed s t := by
  intro hundisturbed
  rcases hdisturbed with hcalls | hleft
  · rw [hundisturbed.calls] at hcalls
    exact absurd hcalls (lt_irrefl _)
  · exact hleft (hundisturbed.state.trans hstate)

theorem Change.log_suffix (hchange : Change s t) : s.log <:+ t.log := by
  have hcommand : ∀ command i (v : MailboxState),
      v.log <:+ (sendMbProxyQueueCommand command i v).log := by
    intro command i v
    unfold sendMbProxyQueueCommand
    split
    · exact suffix_cons _ _
    · exact suffix_cons _ _
  cases hchange with
  | control hcontrol =>
    obtain ⟨acts, hlog, -⟩ := hcontrol.log
    exact ⟨acts, hlog.symm⟩
  | note act _ => exact suffix_cons _ _
  | take flight _ => exact suffix_cons _ _
  | report flight _ => exact suffix_cons _ _
  | freeEntry i => exact suffix_cons _ _
  | setWaitingEnabled i waitingEnabled => exact suffix_rfl
  | command command i _ => exact hcommand command i s
  | forward config data =>
    unfold Mailbox.forward
    split
    · exact suffix_cons _ _
    · exact suffix_cons _ _
  | post answers data proxy handle m _ => exact suffix_cons _ _
  | postFull answers data proxy handle m _ =>
    have hfilled : s.log <:+ (fillBlock answers data proxy handle m s).log := suffix_cons _ _
    exact (hfilled.trans (hcommand mailboxQueueFull m _)).trans (suffix_cons _ _)
  | init => exact suffix_rfl

/-- Calls are not taken back. -/
theorem Changes.calls_length (hchanges : Changes s t) : s.calls.length ≤ t.calls.length := by
  have hsuffix : s.log <:+ t.log := by
    induction hchanges with
    | refl => exact suffix_rfl
    | tail _ hlast ih => exact ih.trans hlast.log_suffix
  exact (hsuffix.filter Act.isHanded).length_le

theorem Disturbed.of_changes (hchanges : Changes s t) (hdisturbed : Disturbed t u) :
    Disturbed s u :=
  hdisturbed.imp (fun hcalls ↦ hchanges.calls_length.trans_lt hcalls) id

theorem classicZIPNodeInput_calls (flight : Flight) (outcome : InputOutcome) (s : MailboxState) :
    (classicZIPNodeInput flight outcome s).1.calls = .handed flight :: s.calls := by
  unfold classicZIPNodeInput
  cases outcome with
  | reported status => rfl
  | refused =>
    dsimp only
    split_ifs
    · rfl
    · rfl
  | taken =>
    dsimp only
    split_ifs
    · rfl
    · rfl

theorem mbSendNoMoreInformation_state (hstate : s.state ≠ .sending) :
    (mbSendNoMoreInformation answers s).state ≠ .sending := by
  unfold mbSendNoMoreInformation
  split_ifs
  · exact hstate
  · exact State.noConfusion
  · exact State.noConfusion

theorem nothingToSend_state (s : MailboxState) : (nothingToSend answers s).state ≠ .sending := by
  unfold nothingToSend
  split_ifs
  · refine mbSendNoMoreInformation_state ?_
    unfold mbSendProxyStatus
    split_ifs
    · exact State.noConfusion
    · exact State.noConfusion
    · exact State.noConfusion
  · exact State.noConfusion

/-- The search for the next entry ends with a call, or leaves the state. -/
theorem sendFrom_disturbed (list : List (Fin maxMailboxEntries)) (s : MailboxState) :
    Disturbed s (sendFrom config answers list s) := by
  induction list generalizing s with
  | nil => exact Or.inr (nothingToSend_state _)
  | cons i rest ih =>
    unfold sendFrom
    dsimp only
    by_cases hnode : config.nodeOfIp (destIpAddr ((s.follow (some i)).blocks i).data) =
        (s.follow (some i)).node
    · rw [if_pos hnode]
      generalize htaken : classicZIPNodeInput _ _ _ = result
      have hcalls : s.calls.length < result.1.calls.length := by
        rw [← htaken, classicZIPNodeInput_calls]
        exact Nat.lt_succ_self _
      obtain ⟨u, outcome⟩ := result
      cases outcome with
      | taken => exact Or.inl hcalls
      | refused => exact Or.inl (hcalls.trans_le (control_goSendNoMoreInfo u).changes.calls_length)
      | reported status =>
        have hset : Control u { u with txStatus := status } :=
          control_of_same rfl rfl rfl rfl rfl rfl
        have hrest := (hset.changes.trans (sentEntry_changes _ i)).trans
          (sendFrom_changes rest _ : Changes _ (sendFrom config answers rest _))
        exact Or.inl (hcalls.trans_le (Changes.calls_length hrest))
    · rw [if_neg hnode]
      exact (ih _).of_changes (follow_changes s (some i))

theorem sending_disturbed (event : Event) (s : MailboxState) :
    Disturbed s (sending config answers event s) := by
  unfold sending
  split
  · split
    · split_ifs
      · exact (sendFrom_disturbed [] _).of_changes (follow_changes s none)
      · exact sendFrom_disturbed [] s
    · exact (sendFrom_disturbed _ _).of_changes (sentEntry_changes s _)
  · exact sendFrom_disturbed _ s
  · exact sendFrom_disturbed _ s

theorem mbStateTransition_disturbed (hstate : s.state = .sending) (event : Event) :
    Disturbed s (mbStateTransition config answers event s) := by
  unfold mbStateTransition
  rw [hstate]
  exact sending_disturbed event s

/-! ### Posts and purges -/

/-- The state machine does not move. -/
structure Quiet (s t : MailboxState) : Prop extends Undisturbed s t where
  noMoreTimer : t.noMoreTimer = s.noMoreTimer

theorem Quiet.refl (s : MailboxState) : Quiet s s := ⟨⟨rfl, rfl⟩, rfl⟩

theorem Quiet.trans (hfirst : Quiet s t) (hsecond : Quiet t u) : Quiet s u :=
  ⟨⟨hsecond.calls.trans hfirst.calls, hsecond.state.trans hfirst.state⟩,
    hsecond.noMoreTimer.trans hfirst.noMoreTimer⟩

theorem quiet_freeEntry (s : MailboxState) (i : Fin maxMailboxEntries) :
    Quiet s (s.freeEntry i) :=
  ⟨⟨rfl, rfl⟩, rfl⟩

theorem quiet_sendMbProxyQueueCommand (command : UInt8) (i : Fin maxMailboxEntries)
    (s : MailboxState) : Quiet s (sendMbProxyQueueCommand command i s) := by
  unfold sendMbProxyQueueCommand
  split
  · exact ⟨⟨rfl, rfl⟩, rfl⟩
  · exact ⟨⟨rfl, rfl⟩, rfl⟩

theorem quiet_dropEntry (s : MailboxState) (i : Fin maxMailboxEntries) :
    Quiet s (dropEntry s i) := by
  unfold dropEntry
  dsimp only
  split_ifs
  · exact ⟨⟨rfl, rfl⟩, rfl⟩
  · exact ⟨⟨rfl, rfl⟩, rfl⟩

theorem quiet_mbFailingNotifyByip (ip : Address) (now : ℕ) (s : MailboxState) :
    Quiet s (mbFailingNotifyByip ip now s) := by
  unfold mbFailingNotifyByip
  generalize s.mbList.filter (fun i ↦ isDropped ip now (s.blocks i)) = list
  induction list generalizing s with
  | nil => exact .refl s
  | cons i rest ih => exact (quiet_dropEntry s i).trans (ih _)

theorem quiet_mbPurgeMessages (node : UInt16) (s : MailboxState) :
    Quiet s (mbPurgeMessages config answers node s) := by
  unfold mbPurgeMessages
  split_ifs
  · exact ⟨⟨rfl, rfl⟩, rfl⟩
  · exact quiet_mbFailingNotifyByip _ _ s

theorem quiet_forward (data : List UInt8) (s : MailboxState) :
    Quiet s (forward config data s) := by
  unfold forward
  split
  · exact ⟨⟨rfl, rfl⟩, rfl⟩
  · exact ⟨⟨rfl, rfl⟩, rfl⟩

theorem quiet_mbPostUipbuf (data : List UInt8) (proxy : Option Address) (handle : UInt8)
    (s : MailboxState) : Quiet s (mbPostUipbuf config answers data proxy handle s) := by
  unfold mbPostUipbuf
  by_cases hignored : (!isPostable data || s.mbConfMode = disableMailbox) = true
  · rw [if_pos hignored]
    exact .refl s
  · rw [if_neg hignored]
    by_cases hforwarded : s.mbConfMode = enableMailboxProxyForwarding
    · rw [if_pos hforwarded]
      exact quiet_forward data s
    · rw [if_neg hforwarded]
      split
      case h_1 =>
        split_ifs
        · exact ⟨⟨rfl, rfl⟩, rfl⟩
        · exact .refl s
      case h_2 m _ =>
        have hfilled : Quiet s (fillBlock answers data proxy handle m s) := ⟨⟨rfl, rfl⟩, rfl⟩
        have hadded : Quiet s { fillBlock answers data proxy handle m s with
            mbList := listAdd (fillBlock answers data proxy handle m s).mbList m } :=
              ⟨⟨rfl, rfl⟩, rfl⟩
        dsimp only
        split_ifs
        · exact (hfilled.trans (quiet_sendMbProxyQueueCommand _ _ _)).trans
            (quiet_freeEntry _ _)
        · exact hadded.trans (quiet_mbPurgeMessages _ _)
        · exact hadded

theorem quiet_sendWaitingTimeout (i : Fin maxMailboxEntries) (s : MailboxState) :
    Quiet s (sendWaitingTimeout i s) := by
  unfold sendWaitingTimeout
  split_ifs
  · exact .refl s
  · exact ⟨⟨rfl, rfl⟩, rfl⟩
  · exact quiet_sendMbProxyQueueCommand _ _ _

end Calls

/-! ### The timer -/

/-- The timer of `no_more_timeout` runs in `MB_STATE_SEND_NO_MORE_INFO_DELAYED` only. -/
structure TimerOk (s : MailboxState) : Prop where
  delayed : s.noMoreTimer = true → s.state = .sendNoMoreInfoDelayed

section Timer

variable {s t : MailboxState} {config : Config} {answers : Answers}

theorem TimerOk.quiet (hok : TimerOk s) (hquiet : Quiet s t) : TimerOk t := by
  refine ⟨?_⟩
  rw [hquiet.noMoreTimer, hquiet.state]
  exact hok.delayed

theorem TimerOk.of_stopped (hstopped : s.noMoreTimer = false) : TimerOk s := by
  refine ⟨fun hrunning ↦ ?_⟩
  rw [hstopped] at hrunning
  exact absurd hrunning Bool.false_ne_true

theorem TimerOk.stopped (hok : TimerOk s) (hstate : s.state ≠ .sendNoMoreInfoDelayed) :
    s.noMoreTimer = false := by
  by_contra hrunning
  exact hstate (hok.delayed (Bool.not_eq_false _ ▸ hrunning))

theorem mbSendNoMoreInformation_noMoreTimer (s : MailboxState) :
    (mbSendNoMoreInformation answers s).noMoreTimer = s.noMoreTimer := by
  unfold mbSendNoMoreInformation
  split_ifs
  · rfl
  · rfl
  · rfl

theorem mbSendProxyStatus_noMoreTimer (s : MailboxState) :
    (mbSendProxyStatus s).noMoreTimer = s.noMoreTimer := by
  unfold mbSendProxyStatus
  split_ifs
  · rfl
  · rfl
  · rfl

theorem goSendNoMoreInfo_noMoreTimer (s : MailboxState) :
    (goSendNoMoreInfo answers s).noMoreTimer = s.noMoreTimer := by
  unfold goSendNoMoreInfo
  rw [mbSendNoMoreInformation_noMoreTimer, mbSendProxyStatus_noMoreTimer]

theorem classicZIPNodeInput_noMoreTimer (flight : Flight) (outcome : InputOutcome)
    (s : MailboxState) : (classicZIPNodeInput flight outcome s).1.noMoreTimer = s.noMoreTimer := by
  unfold classicZIPNodeInput
  cases outcome with
  | reported status => rfl
  | refused =>
    dsimp only
    split_ifs
    · rfl
    · rfl
  | taken =>
    dsimp only
    split_ifs
    · rfl
    · rfl

theorem sentEntry_noMoreTimer (s : MailboxState) (i : Fin maxMailboxEntries) :
    (sentEntry s i).noMoreTimer = s.noMoreTimer := by
  unfold sentEntry
  dsimp only
  split_ifs
  · rfl
  · rfl

theorem sendMbProxyQueueCommand_noMoreTimer (command : UInt8) (i : Fin maxMailboxEntries)
    (s : MailboxState) : (sendMbProxyQueueCommand command i s).noMoreTimer = s.noMoreTimer := by
  unfold sendMbProxyQueueCommand
  split
  · rfl
  · rfl

theorem sendFrom_timer (list : List (Fin maxMailboxEntries)) (hstopped : s.noMoreTimer = false) :
    TimerOk (sendFrom config answers list s) := by
  induction list generalizing s with
  | nil =>
    unfold sendFrom nothingToSend
    split_ifs
    · exact .of_stopped ((goSendNoMoreInfo_noMoreTimer _).trans hstopped)
    · exact ⟨fun _ ↦ rfl⟩
  | cons i rest ih =>
    unfold sendFrom
    dsimp only
    by_cases hnode : config.nodeOfIp (destIpAddr ((s.follow (some i)).blocks i).data) =
        (s.follow (some i)).node
    · rw [if_pos hnode]
      generalize htaken : classicZIPNodeInput _ _ _ = result
      have hinput : result.1.noMoreTimer = false := by
        rw [← htaken, classicZIPNodeInput_noMoreTimer]
        exact hstopped
      obtain ⟨u, outcome⟩ := result
      cases outcome with
      | taken => exact .of_stopped hinput
      | refused => exact .of_stopped ((goSendNoMoreInfo_noMoreTimer u).trans hinput)
      | reported status => exact ih ((sentEntry_noMoreTimer _ i).trans hinput)
    · rw [if_neg hnode]
      exact ih hstopped

variable (event : Event)

theorem sending_timer (hstopped : s.noMoreTimer = false) :
    TimerOk (sending config answers event s) := by
  unfold sending
  split
  · split
    · split_ifs
      · exact sendFrom_timer [] hstopped
      · exact sendFrom_timer [] hstopped
    · exact sendFrom_timer _ ((sentEntry_noMoreTimer s _).trans hstopped)
  · exact sendFrom_timer _ hstopped
  · exact sendFrom_timer _ hstopped

theorem probeWakeupInterval_timer (hstopped : s.noMoreTimer = false) :
    TimerOk (probeWakeupInterval config answers event s) := by
  unfold probeWakeupInterval goSending
  split
  · dsimp only
    split_ifs
    · exact .of_stopped hstopped
    · exact sending_timer .transition hstopped
  · exact sending_timer .transition hstopped
  · exact .of_stopped hstopped

theorem pingFrom_noMoreTimer (list : List (Fin maxMailboxEntries)) (s : MailboxState) :
    (pingFrom answers list s).noMoreTimer = s.noMoreTimer := by
  induction list generalizing s with
  | nil => rfl
  | cons i rest ih =>
    unfold pingFrom
    dsimp only
    split_ifs
    · exact ih _
    · split
      · rfl
      · exact ih _
    · exact sendMbProxyQueueCommand_noMoreTimer _ _ _

theorem pingZipclients_noMoreTimer (s : MailboxState) :
    (pingZipclients answers event s).noMoreTimer = s.noMoreTimer := by
  unfold pingZipclients
  split
  · exact pingFrom_noMoreTimer _ _
  · split
    · exact pingFrom_noMoreTimer _ _
    · exact pingFrom_noMoreTimer _ _
  · rfl

theorem sendProxyEntry_noMoreTimer (s : MailboxState) :
    (sendProxyEntry answers s).noMoreTimer = s.noMoreTimer := by
  unfold sendProxyEntry
  split
  · rfl
  · exact sendMbProxyQueueCommand_noMoreTimer _ _ _

theorem sendingThroughProxy_noMoreTimer (s : MailboxState) :
    (sendingThroughProxy answers event s).noMoreTimer = s.noMoreTimer := by
  unfold sendingThroughProxy
  split
  · rfl
  · exact sendProxyEntry_noMoreTimer s
  · split_ifs
    · dsimp only
      split
      · exact sendProxyEntry_noMoreTimer _
      · exact sendProxyEntry_noMoreTimer _
    · exact sendProxyEntry_noMoreTimer s
  · rfl

theorem sentFromProxy_noMoreTimer (s : MailboxState) :
    (sentFromProxy answers s).noMoreTimer = s.noMoreTimer := by
  unfold sentFromProxy
  split_ifs
  · exact mbSendProxyStatus_noMoreTimer s
  · exact goSendNoMoreInfo_noMoreTimer s

theorem popFrame_noMoreTimer (s : MailboxState) :
    (popFrame answers s).noMoreTimer = s.noMoreTimer := by
  have hinput := classicZIPNodeInput_noMoreTimer .popped answers.inputPopped s
  unfold popFrame
  generalize classicZIPNodeInput .popped answers.inputPopped s = result at hinput
  obtain ⟨u, outcome⟩ := result
  cases outcome with
  | taken => exact hinput
  | refused => exact (sentFromProxy_noMoreTimer _).trans hinput
  | reported status => exact (sentFromProxy_noMoreTimer _).trans hinput

theorem idle_timer (hstopped : s.noMoreTimer = false) : TimerOk (idle config answers event s) := by
  unfold idle goSending
  split
  · exact .of_stopped ((pingFrom_noMoreTimer _ _).trans hstopped)
  · exact .of_stopped hstopped
  · split_ifs
    · exact .of_stopped ((sendProxyEntry_noMoreTimer _).trans hstopped)
    · exact probeWakeupInterval_timer .transition hstopped
    · exact sending_timer .transition hstopped
    · exact .of_stopped ((mbSendNoMoreInformation_noMoreTimer _).trans hstopped)
  · exact .of_stopped ((popFrame_noMoreTimer _).trans hstopped)
  · exact .of_stopped ((popFrame_noMoreTimer _).trans hstopped)
  · exact .of_stopped hstopped

theorem sendNoMoreInfoDelayed_timer (hstate : s.state = .sendNoMoreInfoDelayed)
    (hevent : event = .timeout → s.noMoreTimer = false) :
    TimerOk (sendNoMoreInfoDelayed answers event s) := by
  unfold sendNoMoreInfoDelayed
  split
  · split_ifs
    · exact ⟨fun _ ↦ hstate⟩
    · exact .of_stopped ((mbSendNoMoreInformation_noMoreTimer _).trans (hevent rfl))
  · exact ⟨fun _ ↦ hstate⟩
  · exact ⟨fun _ ↦ hstate⟩

/-- The event of the timer comes when it has run out. -/
theorem mbStateTransition_timer (hok : TimerOk s) {event : Event}
    (hevent : event = .timeout → s.noMoreTimer = false) :
    TimerOk (mbStateTransition config answers event s) := by
  by_cases hdelayed : s.state = .sendNoMoreInfoDelayed
  · unfold mbStateTransition
    rw [hdelayed]
    exact sendNoMoreInfoDelayed_timer event hdelayed hevent
  · have hstopped := hok.stopped hdelayed
    unfold mbStateTransition
    split
    · exact idle_timer event hstopped
    · exact probeWakeupInterval_timer event hstopped
    · exact .of_stopped ((pingZipclients_noMoreTimer event s).trans hstopped)
    · exact .of_stopped ((sendingThroughProxy_noMoreTimer event s).trans hstopped)
    · exact sending_timer event hstopped
    case h_6 hstate => exact absurd hstate hdelayed
    · split
      · exact .of_stopped ((goSendNoMoreInfo_noMoreTimer s).trans hstopped)
      · exact .of_stopped hstopped
      · exact .of_stopped hstopped
    · split_ifs
      · exact .of_stopped ((sentFromProxy_noMoreTimer s).trans hstopped)
      · exact .of_stopped hstopped
    · split_ifs
      · exact .of_stopped ((sentFromProxy_noMoreTimer s).trans hstopped)
      · exact .of_stopped hstopped
    · exact .of_stopped ((mbSendProxyStatus_noMoreTimer s).trans hstopped)

theorem step_timer (hok : TimerOk s) (input : Input) :
    TimerOk (step config s (input, answers)) := by
  have hsame : ∀ {v : MailboxState}, v.noMoreTimer = s.noMoreTimer → v.state = s.state →
      TimerOk v := by
    intro v htimer hstate
    refine ⟨?_⟩
    rw [htimer, hstate]
    exact hok.delayed
  have htransition : ∀ {v : MailboxState} {event : Event}, v.noMoreTimer = s.noMoreTimer →
      v.state = s.state → event ≠ .timeout → TimerOk (mbStateTransition config answers event v) :=
    fun htimer hstate hevent ↦ mbStateTransition_timer (hsame htimer hstate) fun h ↦ absurd h hevent
  cases input with
  | post data =>
    simp only [step]
    exact hok.quiet (quiet_mbPostUipbuf data none 0 s)
  | push ripaddr handle data =>
    simp only [step]
    exact hok.quiet (quiet_mbPostUipbuf data (some ripaddr) handle s)
  | pop ripaddr rport handle node last =>
    simp only [step]
    split_ifs
    · exact htransition rfl rfl (by simp)
    · exact htransition rfl rfl (by simp)
    · exact hok
  | ping ripaddr rport handle =>
    simp only [step]
    exact htransition rfl rfl (by simp)
  | ack ok =>
    simp only [step, mbSendDone]
    exact htransition rfl rfl (by simp)
  | wakeupNotification ripaddr rport handle =>
    simp only [step]
    exact htransition rfl rfl (by simp)
  | nodeFailing ip =>
    simp only [step]
    exact hok.quiet (quiet_mbFailingNotifyByip ip _ s)
  | configurationSet properties1 => exact hsame rfl rfl
  | purgeMessages node =>
    simp only [step]
    exact hok.quiet (quiet_mbPurgeMessages node s)
  | wakeup node isBroadcast =>
    simp only [step, mbWakeupEvent]
    split_ifs
    · exact hok
    · exact htransition rfl rfl (by simp)
    · exact hok
    · exact hsame rfl rfl
    · exact hok
  | sendDoneEvent status =>
    simp only [step, mbSendDone]
    split
    · exact hok
    · exact htransition rfl rfl (by simp)
  | sendDone status =>
    simp only [step, mbSendDone]
    exact htransition rfl rfl (by simp)
  | udpPingReply status =>
    simp only [step, mbSendDone]
    exact htransition rfl rfl (by simp)
  | probeWakeupCallback =>
    simp only [step]
    exact htransition rfl rfl (by simp)
  | sendPingTimeout =>
    simp only [step]
    exact htransition rfl rfl (by simp)
  | sendWaitingTimeout i =>
    simp only [step]
    split_ifs
    · exact hok.quiet (quiet_sendWaitingTimeout i s)
    · exact hok
  | noMoreTimeout =>
    simp only [step]
    split_ifs
    · exact mbStateTransition_timer (.of_stopped rfl) fun _ ↦ rfl
    · exact hok
  | putNodeToSleepLater node =>
    simp only [step]
    split_ifs
    · exact ⟨fun _ ↦ rfl⟩
    · exact hok
  | nodeTransmissionOkEvent node =>
    simp only [step]
    split_ifs
    · exact htransition rfl rfl (by simp)
    · exact hok
  | abortSending =>
    simp only [step]
    split_ifs with hbusy
    · refine .of_stopped (hok.stopped fun hdelayed ↦ ?_)
      simp [mbIsBusy, hdelayed] at hbusy
    · exact hok
  | init => exact hsame rfl rfl

theorem timerOk_run (config : Config) (mbConfMode : UInt8) (inputs : List (Input × Answers)) :
    TimerOk (run (step config) (.powerUp mbConfMode) inputs) := by
  refine run_invariant (fun state input hstate ↦ ?_) (.of_stopped rfl) inputs
  exact step_timer hstate input.1

end Timer

/-! ### The flights -/

/-- A frame that was taken and not reported is the one in flight. -/
structure FlightOk (s : MailboxState) : Prop where
  taken : ∀ flight, s.log.count (.taken flight) =
    s.log.count (.reported flight) + if s.inFlight = some flight then 1 else 0

section Flights

variable {s t : MailboxState}

/-- Frames are neither taken nor reported. -/
theorem FlightOk.same (hok : FlightOk s) (hinFlight : t.inFlight = s.inFlight) {acts : List Act}
    (hlog : t.log = acts ++ s.log) (htaken : ∀ flight, .taken flight ∉ acts)
    (hreported : ∀ flight, .reported flight ∉ acts) : FlightOk t := by
  refine ⟨fun flight ↦ ?_⟩
  rw [hlog, hinFlight, count_append, count_append, count_eq_zero.mpr (htaken flight),
    count_eq_zero.mpr (hreported flight), Nat.zero_add, Nat.zero_add]
  exact hok.taken flight

theorem FlightOk.command (hok : FlightOk s) (command : UInt8) (i : Fin maxMailboxEntries) :
    FlightOk (sendMbProxyQueueCommand command i s) := by
  unfold sendMbProxyQueueCommand
  split
  · exact hok.same rfl (singleton_append).symm (by simp) (by simp)
  · exact hok.same rfl (singleton_append).symm (by simp) (by simp)

theorem FlightOk.freeEntry (hok : FlightOk s) (i : Fin maxMailboxEntries) :
    FlightOk (s.freeEntry i) :=
  hok.same rfl (singleton_append).symm (by simp) (by simp)

theorem FlightOk.change (hok : FlightOk s) (hchange : Change s t) : FlightOk t := by
  cases hchange with
  | control hcontrol =>
    obtain ⟨acts, hlog, hacts⟩ := hcontrol.log
    refine hok.same hcontrol.inFlight hlog (fun flight hmem ↦ ?_) fun flight hmem ↦ ?_
    · exact absurd (hacts _ hmem) (by simp [Act.isControl])
    · exact absurd (hacts _ hmem) (by simp [Act.isControl])
  | note act hact =>
    refine hok.same rfl (singleton_append).symm (fun flight hmem ↦ ?_) fun flight hmem ↦ ?_
    · rw [← mem_singleton.mp hmem] at hact
      exact absurd hact (by simp [Act.isNote])
    · rw [← mem_singleton.mp hmem] at hact
      exact absurd hact (by simp [Act.isNote])
  | take flight hnone =>
    refine ⟨fun other ↦ ?_⟩
    have hother := hok.taken other
    rw [hnone] at hother
    by_cases hsame : flight = other
    · subst hsame
      simpa [count_cons] using hother
    · simpa [count_cons, hsame] using hother
  | report flight hsome =>
    refine ⟨fun other ↦ ?_⟩
    have hother := hok.taken other
    rw [hsome] at hother
    by_cases hsame : flight = other
    · subst hsame
      simpa [count_cons] using hother
    · simpa [count_cons, hsame] using hother
  | freeEntry i => exact hok.freeEntry i
  | setWaitingEnabled i waitingEnabled => exact hok.same rfl (nil_append _).symm (by simp) (by simp)
  | command command i _ => exact hok.command command i
  | forward config data =>
    unfold Mailbox.forward
    split
    · exact hok.same rfl (singleton_append).symm (by simp) (by simp)
    · exact hok.same rfl (singleton_append).symm (by simp) (by simp)
  | post answers data proxy handle m _ =>
    exact hok.same rfl (singleton_append).symm (by simp) (by simp)
  | postFull answers data proxy handle m _ =>
    have hfilled : FlightOk (fillBlock answers data proxy handle m s) :=
      hok.same rfl (singleton_append).symm (by simp) (by simp)
    exact (hfilled.command mailboxQueueFull m).freeEntry m
  | init => exact hok.same rfl (nil_append _).symm (by simp) (by simp)

theorem flightOk_run (config : Config) (mbConfMode : UInt8) (inputs : List (Input × Answers)) :
    FlightOk (run (step config) (.powerUp mbConfMode) inputs) := by
  refine run_invariant (fun state input hstate ↦ ?_) ⟨fun _ ↦ rfl⟩ inputs
  obtain ⟨input, answers⟩ := input
  exact Changes.invariant (fun hstate hchange ↦ hstate.change hchange)
    (step_changes state input) hstate

end Flights

/-! ### Single delivery -/

section Steps

variable {s : MailboxState} {config : Config} {answers : Answers}

theorem step_disturbed (hstate : s.state = .sending) {input : Input}
    (hdisturbs : Disturbs s input) : Disturbed s (step config s (input, answers)) := by
  have htransition : ∀ {v : MailboxState} {event : Event}, v.calls = s.calls → v.state = s.state →
      Disturbed s (mbStateTransition config answers event v) := by
    intro v event hcalls hsame
    have hdisturbed : Disturbed v (mbStateTransition config answers event v) :=
      mbStateTransition_disturbed (hsame.trans hstate) event
    unfold Disturbed at hdisturbed ⊢
    rwa [hcalls] at hdisturbed
  cases input with
  | sendPingTimeout => exact htransition rfl rfl
  | ping ripaddr rport handle => exact htransition rfl rfl
  | wakeupNotification ripaddr rport handle => exact htransition rfl rfl
  | ack ok => exact htransition rfl rfl
  | sendDone status => exact htransition rfl rfl
  | udpPingReply status => exact htransition rfl rfl
  | probeWakeupCallback => exact htransition rfl rfl
  | nodeTransmissionOkEvent node =>
    have hnode : s.node = node := hdisturbs
    simp only [step]
    rw [if_pos hnode]
    exact htransition rfl rfl
  | abortSending =>
    have hbusy : mbIsBusy s = true := by simp [mbIsBusy, hstate]
    simp only [step]
    rw [if_pos hbusy]
    exact Or.inr State.noConfusion
  | _ => exact hdisturbs.elim

theorem step_undisturbed (hstate : s.state = .sending) (htimer : TimerOk s) {input : Input}
    (hother : input.isSendDoneEvent = false) (hdisturbs : ¬ Disturbs s input) :
    Undisturbed s (step config s (input, answers)) := by
  have hidle : ¬ s.state = .idle := by simp [hstate]
  cases input with
  | post data =>
    simp only [step]
    exact (quiet_mbPostUipbuf data none 0 s).toUndisturbed
  | push ripaddr handle data =>
    simp only [step]
    exact (quiet_mbPostUipbuf data (some ripaddr) handle s).toUndisturbed
  | pop ripaddr rport handle node last =>
    simp only [step]
    rw [if_neg hidle]
    exact ⟨rfl, rfl⟩
  | nodeFailing ip =>
    simp only [step]
    exact (quiet_mbFailingNotifyByip ip _ s).toUndisturbed
  | configurationSet properties1 => exact ⟨rfl, rfl⟩
  | purgeMessages node =>
    simp only [step]
    exact (quiet_mbPurgeMessages node s).toUndisturbed
  | wakeup node isBroadcast =>
    simp only [step, mbWakeupEvent]
    have hbusy : ¬ (!answers.probeInProgress && decide (s.state = .idle)) = true := by simp [hidle]
    rw [if_neg hbusy]
    split_ifs
    · exact ⟨rfl, rfl⟩
    · exact ⟨rfl, rfl⟩
    · exact ⟨rfl, rfl⟩
    · exact ⟨rfl, rfl⟩
  | sendDoneEvent status => exact absurd hother (by simp [Input.isSendDoneEvent])
  | sendWaitingTimeout i =>
    simp only [step]
    split_ifs
    · exact (quiet_sendWaitingTimeout i s).toUndisturbed
    · exact ⟨rfl, rfl⟩
  | noMoreTimeout =>
    have hstopped := htimer.stopped (by simp [hstate])
    simp only [step]
    rw [if_neg (by simp [hstopped])]
    exact ⟨rfl, rfl⟩
  | putNodeToSleepLater node =>
    simp only [step]
    rw [if_neg hidle]
    exact ⟨rfl, rfl⟩
  | nodeTransmissionOkEvent node =>
    have hnode : ¬ s.node = node := hdisturbs
    simp only [step]
    rw [if_neg hnode]
    exact ⟨rfl, rfl⟩
  | init => exact ⟨rfl, rfl⟩
  | _ => exact absurd trivial hdisturbs

end Steps

/-- In every run, no frame is in flight twice. While the mailbox is in `MB_STATE_SENDING` with a
frame in flight, an event other than the report of that frame neither calls `ClassicZIPNode_input`
nor changes the state if and only if it is not one of those that disturb the mailbox. -/
theorem sending_undisturbed (config : Config) (mbConfMode : UInt8)
    (inputs : List (Input × Answers)) :
    (∀ flight, (run (step config) (.powerUp mbConfMode) inputs).log.count (.taken flight) ≤
      (run (step config) (.powerUp mbConfMode) inputs).log.count (.reported flight) + 1) ∧
    ((run (step config) (.powerUp mbConfMode) inputs).state = .sending →
      (run (step config) (.powerUp mbConfMode) inputs).inFlight.isSome = true →
      ∀ (input : Input) (answers : Answers), input.isSendDoneEvent = false →
        (Undisturbed (run (step config) (.powerUp mbConfMode) inputs)
          (step config (run (step config) (.powerUp mbConfMode) inputs) (input, answers)) ↔
        ¬ Disturbs (run (step config) (.powerUp mbConfMode) inputs) input)) := by
  constructor
  · intro flight
    rw [(flightOk_run config mbConfMode inputs).taken flight]
    split_ifs
    · exact le_rfl
    · exact Nat.le_succ _
  · intro hstate _ input answers hother
    constructor
    · intro hundisturbed hdisturbs
      exact (step_disturbed hstate hdisturbs).not_undisturbed hstate hundisturbed
    · exact step_undisturbed hstate (timerOk_run config mbConfMode inputs) hother

/-- A packet is posted, and its node wakes up. -/
def samplePosted : List (Input × Answers) :=
  [(.post samplePacket, sampleAnswers), (.wakeup 7 false, sampleAnswers)]

/-- The timeout of the WakeUp No More Information frame does nothing while the packet is sent. -/
theorem sending_undisturbed_noMoreTimeout :
    Undisturbed (run (step sampleConfig) (.powerUp enableMailboxService) samplePosted)
      (step sampleConfig (run (step sampleConfig) (.powerUp enableMailboxService) samplePosted)
        (.noMoreTimeout, sampleAnswers)) :=
  ((sending_undisturbed sampleConfig enableMailboxService samplePosted).2 (by decide +kernel)
    (by decide +kernel) .noMoreTimeout sampleAnswers rfl).mpr id

/-- The ping timer sends the packet that is in flight once more. -/
theorem sending_disturbed_by_ping_timer :
    ¬ ∀ (config : Config) (mbConfMode : UInt8) (inputs : List (Input × Answers)),
      (run (step config) (.powerUp mbConfMode) inputs).state = .sending →
      (run (step config) (.powerUp mbConfMode) inputs).inFlight.isSome = true →
      ∀ (input : Input) (answers : Answers), input.isSendDoneEvent = false →
        Undisturbed (run (step config) (.powerUp mbConfMode) inputs)
          (step config (run (step config) (.powerUp mbConfMode) inputs) (input, answers)) := by
  intro h
  have hundisturbed := h sampleConfig enableMailboxService samplePosted (by decide +kernel)
    (by decide +kernel) .sendPingTimeout sampleAnswers rfl
  exact absurd hundisturbed.calls (by decide +kernel)

end ZipGateway.Mailbox
