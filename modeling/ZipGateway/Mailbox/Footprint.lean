import ZipGateway.Mailbox.Model

/-!
# What a step of the mailbox is made of

The state machine and the functions around it touch the blocks in a few ways only: an entry is
freed, its `waiting_enabled` is set, a command is built in a free block, a packet is filled in and
put into the list. A frame is given to `ClassicZIPNode_input`, which takes it and reports it.
Everything else they do is `control`: it changes the variables of the state machine and tells
others. `step_changes` says that a step is made of such changes.
-/

set_option autoImplicit false

namespace ZipGateway.Mailbox

open Lib Contiki List

/-! ### Changes -/

/-- The act says nothing about the entries and the frames in flight. -/
def Act.isControl : Act → Bool
  | .posted _ _ _ _ => false
  | .freed _ _ => false
  | .delivered _ _ => false
  | .cursor _ => false
  | .handed _ => false
  | .taken _ => false
  | .reported _ => false
  | .queueCommand _ _ _ _ => false
  | _ => true

/-- The act says what the state machine does with an entry, or with a frame that is not in
flight. -/
def Act.isNote : Act → Bool
  | .delivered _ _ => true
  | .cursor _ => true
  | .handed _ => true
  | _ => false

/-- The blocks and the frame in flight stay, and control acts are logged. -/
structure Control (s t : MailboxState) : Prop where
  blocks : t.blocks = s.blocks
  used : t.used = s.used
  mbList : t.mbList = s.mbList
  lastSerial : t.lastSerial = s.lastSerial
  inFlight : t.inFlight = s.inFlight
  log : ∃ acts, t.log = acts ++ s.log ∧ ∀ act ∈ acts, act.isControl = true

/-- What a step is made of. -/
inductive Change (s : MailboxState) : MailboxState → Prop
  | control {t : MailboxState} : Control s t → Change s t
  | note (act : Act) : act.isNote = true → Change s (s.act act)
  | take (flight : Flight) : s.inFlight = none →
      Change s { s with inFlight := some flight, log := .taken flight :: s.log }
  | report (flight : Flight) : s.inFlight = some flight →
      Change s { s with inFlight := none, log := .reported flight :: s.log }
  | freeEntry (i : Fin maxMailboxEntries) : Change s (s.freeEntry i)
  | setWaitingEnabled (i : Fin maxMailboxEntries) (waitingEnabled : Bool) :
      Change s (s.modify i fun entry ↦ { entry with waitingEnabled := waitingEnabled })
  | command (command : UInt8) (i : Fin maxMailboxEntries) :
      i ∈ s.mbList ∨ (s.blocks i).waitingTimer = true →
      Change s (sendMbProxyQueueCommand command i s)
  | forward (config : Config) (data : List UInt8) : Change s (forward config data s)
  /-- A packet is put into the list. -/
  | post (answers : Answers) (data : List UInt8) (proxy : Option Address) (handle : UInt8)
      (m : Fin maxMailboxEntries) : membAlloc s.used = some m →
      Change s { fillBlock answers data proxy handle m s with
        mbList := listAdd (fillBlock answers data proxy handle m s).mbList m }
  /-- A packet is filled in, and freed again because the mailbox is full. -/
  | postFull (answers : Answers) (data : List UInt8) (proxy : Option Address) (handle : UInt8)
      (m : Fin maxMailboxEntries) : membAlloc s.used = some m →
      Change s ((sendMbProxyQueueCommand mailboxQueueFull m
        (fillBlock answers data proxy handle m s)).freeEntry m)
  | init : Change s (mbInit s)

/-- A sequence of changes. -/
abbrev Changes : MailboxState → MailboxState → Prop := Relation.ReflTransGen Change

section Changes

variable {s t u : MailboxState} {config : Config} {answers : Answers}

/-- What every change keeps is kept by a sequence of changes. -/
theorem Changes.invariant {property : MailboxState → Prop}
    (hchange : ∀ {s t}, property s → Change s t → property t) (hchanges : Changes s t)
    (hstart : property s) : property t := by
  induction hchanges with
  | refl => exact hstart
  | tail _ hlast ih => exact hchange ih hlast

theorem Control.trans (hfirst : Control s t) (hsecond : Control t u) : Control s u := by
  obtain ⟨acts, hlog, hacts⟩ := hfirst.log
  obtain ⟨acts', hlog', hacts'⟩ := hsecond.log
  refine ⟨hsecond.blocks.trans hfirst.blocks, hsecond.used.trans hfirst.used,
    hsecond.mbList.trans hfirst.mbList, hsecond.lastSerial.trans hfirst.lastSerial,
    hsecond.inFlight.trans hfirst.inFlight, acts' ++ acts, ?_, fun act hact ↦ ?_⟩
  · rw [hlog', hlog, append_assoc]
  · rcases mem_append.mp hact with hact | hact
    · exact hacts' act hact
    · exact hacts act hact

/-- Only variables of the state machine change. -/
theorem control_of_same (hblocks : t.blocks = s.blocks) (hused : t.used = s.used)
    (hmbList : t.mbList = s.mbList) (hlastSerial : t.lastSerial = s.lastSerial)
    (hinFlight : t.inFlight = s.inFlight) (hlog : t.log = s.log) : Control s t :=
  ⟨hblocks, hused, hmbList, hlastSerial, hinFlight, [], hlog, fun _ hact ↦ absurd hact not_mem_nil⟩

theorem control_act (s : MailboxState) (act : Act) (hact : act.isControl = true) :
    Control s (s.act act) :=
  ⟨rfl, rfl, rfl, rfl, rfl, [act], rfl, fun _ hother ↦ (mem_singleton.mp hother) ▸ hact⟩

theorem Control.changes (hcontrol : Control s t) : Changes s t := .single (.control hcontrol)

theorem follow_changes (s : MailboxState) (lastEntry : Option (Fin maxMailboxEntries)) :
    Changes s (s.follow lastEntry) :=
  .single (.note _ rfl)

theorem control_goIdle (s : MailboxState) : Control s (goIdle s) :=
  control_of_same rfl rfl rfl rfl rfl rfl

theorem control_mbSendNoMoreInformation (s : MailboxState) :
    Control s (mbSendNoMoreInformation answers s) := by
  unfold mbSendNoMoreInformation
  split_ifs
  · exact control_act s _ rfl
  · exact (control_act s _ rfl).trans (control_of_same rfl rfl rfl rfl rfl rfl)
  · exact control_of_same rfl rfl rfl rfl rfl rfl

theorem control_mbSendProxyStatus (s : MailboxState) : Control s (mbSendProxyStatus s) := by
  unfold mbSendProxyStatus
  split_ifs
  · exact control_of_same rfl rfl rfl rfl rfl rfl
  · exact control_act s _ rfl
  · exact control_act s _ rfl

theorem control_goSendNoMoreInfo (s : MailboxState) : Control s (goSendNoMoreInfo answers s) := by
  have hstate : Control s { s with state := .sendNoMoreInfo } :=
    control_of_same rfl rfl rfl rfl rfl rfl
  exact (hstate.trans (control_mbSendProxyStatus _)).trans (control_mbSendNoMoreInformation _)

theorem control_nothingToSend (s : MailboxState) : Control s (nothingToSend answers s) := by
  unfold nothingToSend
  split_ifs
  · exact control_goSendNoMoreInfo s
  · exact control_of_same rfl rfl rfl rfl rfl rfl

theorem classicZIPNodeInput_changes (flight : Flight) (outcome : InputOutcome) (s : MailboxState) :
    Changes s (classicZIPNodeInput flight outcome s).1 := by
  have hhanded : Changes s (s.act (.handed flight)) := .single (.note _ rfl)
  unfold classicZIPNodeInput
  cases outcome with
  | reported status => exact hhanded
  | refused =>
    dsimp only
    split_ifs
    · exact hhanded
    · exact hhanded
  | taken =>
    dsimp only
    by_cases hbusy : (s.act (.handed flight)).inFlight.isSome = true
    · rw [if_pos hbusy]
      exact hhanded
    · rw [if_neg hbusy]
      exact hhanded.tail (.take flight (Option.not_isSome_iff_eq_none.mp hbusy))

theorem deliver_changes (s : MailboxState) (i : Fin maxMailboxEntries) : Changes s (deliver s i) :=
  (Relation.ReflTransGen.single (.note _ rfl)).tail (.freeEntry i)

theorem sentEntry_changes (s : MailboxState) (i : Fin maxMailboxEntries) :
    Changes s (sentEntry s i) := by
  unfold sentEntry
  dsimp only
  split_ifs
  · exact (follow_changes s (some i)).trans (deliver_changes _ i)
  · exact follow_changes s (some i)

theorem sendFrom_changes (list : List (Fin maxMailboxEntries)) (s : MailboxState) :
    Changes s (sendFrom config answers list s) := by
  induction list generalizing s with
  | nil =>
    refine Control.changes (Control.trans ?_ (control_nothingToSend _))
    exact control_of_same rfl rfl rfl rfl rfl rfl
  | cons i rest ih =>
    unfold sendFrom
    dsimp only
    by_cases hnode : config.nodeOfIp (destIpAddr ((s.follow (some i)).blocks i).data) =
        (s.follow (some i)).node
    · rw [if_pos hnode]
      generalize htaken : classicZIPNodeInput _ _ _ = result
      have hinput : Changes s result.1 := by
        rw [← htaken]
        refine Relation.ReflTransGen.trans ?_ (classicZIPNodeInput_changes _ _ _)
        exact (follow_changes s (some i)).tail (.control (control_of_same rfl rfl rfl rfl rfl rfl))
      obtain ⟨u, outcome⟩ := result
      cases outcome with
      | taken => exact hinput
      | refused => exact hinput.tail (.control (control_goSendNoMoreInfo u))
      | reported status =>
        have hreported : Changes s { u with txStatus := status } :=
          hinput.tail (.control (control_of_same rfl rfl rfl rfl rfl rfl))
        exact (hreported.trans (sentEntry_changes _ i)).trans (ih _)
    · rw [if_neg hnode]
      exact (follow_changes s (some i)).trans (ih _)

variable (event : Event)

theorem sending_changes (s : MailboxState) : Changes s (sending config answers event s) := by
  unfold sending
  split
  · split
    · split_ifs
      · exact (follow_changes s none).trans (sendFrom_changes [] _)
      · exact sendFrom_changes [] s
    · exact (sentEntry_changes s _).trans (sendFrom_changes _ _)
  · exact sendFrom_changes _ s
  · exact sendFrom_changes _ s

theorem goSending_changes (s : MailboxState) : Changes s (goSending config answers s) := by
  have hstate : Control s { s with state := .sending } := control_of_same rfl rfl rfl rfl rfl rfl
  exact hstate.changes.trans (sending_changes .transition _)

theorem probeWakeupInterval_changes (s : MailboxState) :
    Changes s (probeWakeupInterval config answers event s) := by
  unfold probeWakeupInterval
  split
  · dsimp only
    split_ifs
    · exact (control_act s _ rfl).changes
    · exact (control_act s _ rfl).changes.trans (goSending_changes _)
  · exact goSending_changes s
  · exact .refl

theorem pingFrom_changes (list : List (Fin maxMailboxEntries)) (s : MailboxState)
    (hlisted : ∀ i ∈ list, i ∈ s.mbList) : Changes s (pingFrom answers list s) := by
  induction list generalizing s with
  | nil => exact .single (.control (control_of_same rfl rfl rfl rfl rfl rfl))
  | cons i rest ih =>
    have hrest : ∀ j ∈ rest, j ∈ s.mbList := fun j hj ↦ hlisted j (mem_cons_of_mem i hj)
    have hset : Control s { s with lastEntry := some i } := control_of_same rfl rfl rfl rfl rfl rfl
    have hfollow := hset.changes.trans (follow_changes _ (some i))
    unfold pingFrom
    dsimp only
    split_ifs
    · exact hfollow.trans (ih _ hrest)
    · have hping := hfollow.tail (.control (control_act _ .ping rfl))
      split
      · exact hping
      case h_2 status _ =>
        have hstatus : Changes s { ({ s with lastEntry := some i }.follow (some i)).act .ping with
            txStatus := status } := hping.tail (.control (control_of_same rfl rfl rfl rfl rfl rfl))
        have hreply := hstatus.trans (follow_changes _ (some i))
        exact (hreply.tail (.setWaitingEnabled i _)).trans (ih _ hrest)
    · exact hfollow.tail (.command mailboxPing i (Or.inl (hlisted i mem_cons_self)))

theorem pingZipclients_changes {event : Event} (hevent : event ≠ .transition) (s : MailboxState) :
    Changes s (pingZipclients answers event s) := by
  unfold pingZipclients
  split
  · exact absurd rfl hevent
  · split
    · exact (follow_changes s none).trans (pingFrom_changes [] _ fun _ h ↦ absurd h (by simp))
    · refine ((follow_changes s _).tail (.setWaitingEnabled _ _)).trans (pingFrom_changes _ _ ?_)
      exact fun _ h ↦ mem_of_mem_listAfter h
  · exact .refl

theorem sendProxyEntry_changes (s : MailboxState) : Changes s (sendProxyEntry answers s) := by
  unfold sendProxyEntry
  split
  · exact .single (.control (control_of_same rfl rfl rfl rfl rfl rfl))
  case h_2 i others hentries =>
    have hlisted : i ∈ s.mbList := by
      have hmem : i ∈ proxyEntries s := hentries ▸ mem_cons_self
      exact mem_of_mem_filter hmem
    have hset : Control s { s with lastEntry := some i, lastSent := (s.blocks i).serial } :=
      control_of_same rfl rfl rfl rfl rfl rfl
    exact (hset.changes.trans (follow_changes _ (some i))).tail (.command _ i (Or.inl hlisted))

theorem sendingThroughProxy_changes (s : MailboxState) :
    Changes s (sendingThroughProxy answers event s) := by
  unfold sendingThroughProxy
  split
  · exact (control_goIdle s).changes
  · exact sendProxyEntry_changes s
  · split_ifs
    · dsimp only
      split
      · exact (follow_changes s _).trans (sendProxyEntry_changes _)
      · exact ((follow_changes s _).trans (deliver_changes _ _)).trans (sendProxyEntry_changes _)
    · exact sendProxyEntry_changes s
  · exact .refl

theorem control_sentFromProxy (s : MailboxState) : Control s (sentFromProxy answers s) := by
  unfold sentFromProxy
  split_ifs
  · exact (control_mbSendProxyStatus s).trans (control_goIdle _)
  · exact control_goSendNoMoreInfo s

theorem popFrame_changes (s : MailboxState) : Changes s (popFrame answers s) := by
  have hinput := classicZIPNodeInput_changes .popped answers.inputPopped s
  unfold popFrame
  generalize classicZIPNodeInput .popped answers.inputPopped s = result at hinput
  obtain ⟨u, outcome⟩ := result
  have hstatus : ∀ status, Changes s (sentFromProxy answers { u with txStatus := status }) := by
    intro status
    have hset : Control u { u with txStatus := status } := control_of_same rfl rfl rfl rfl rfl rfl
    exact hinput.tail (.control (hset.trans (control_sentFromProxy _)))
  cases outcome with
  | taken => exact hinput
  | refused => exact hstatus transmitCompleteFail
  | reported status => exact hstatus status

theorem idle_changes (s : MailboxState) : Changes s (idle config answers event s) := by
  have hstate : ∀ state, Control s { s with state := state } := fun _ ↦
    control_of_same rfl rfl rfl rfl rfl rfl
  unfold idle
  split
  · have hhead : Control s { s with lastEntry := s.mbList.head?, state := .pingZipclients } :=
      control_of_same rfl rfl rfl rfl rfl rfl
    exact hhead.changes.trans (pingFrom_changes _ _ fun _ h ↦ h)
  · exact (control_act s .ping rfl).changes.tail
      (.control (control_of_same rfl rfl rfl rfl rfl rfl))
  · split_ifs
    · have hhead :
          Control s { s with lastEntry := s.mbList.head?, state := .sendingThroughProxy } :=
        control_of_same rfl rfl rfl rfl rfl rfl
      exact hhead.changes.trans (sendProxyEntry_changes _)
    · exact (hstate _).changes.trans (probeWakeupInterval_changes .transition _)
    · exact goSending_changes s
    · exact ((hstate _).trans (control_mbSendNoMoreInformation _)).changes
  · exact (hstate _).changes.trans (popFrame_changes _)
  · exact (hstate _).changes.trans (popFrame_changes _)
  · exact .refl

theorem control_sendNoMoreInfoDelayed (s : MailboxState) :
    Control s (sendNoMoreInfoDelayed answers event s) := by
  unfold sendNoMoreInfoDelayed
  split
  · split_ifs
    · exact control_of_same rfl rfl rfl rfl rfl rfl
    · refine Control.trans ?_ (control_mbSendNoMoreInformation _)
      exact control_of_same rfl rfl rfl rfl rfl rfl
  · exact control_of_same rfl rfl rfl rfl rfl rfl
  · exact control_of_same rfl rfl rfl rfl rfl rfl

theorem mbStateTransition_changes {event : Event} (hevent : event ≠ .transition)
    (s : MailboxState) : Changes s (mbStateTransition config answers event s) := by
  unfold mbStateTransition
  split
  · exact idle_changes event s
  · exact probeWakeupInterval_changes event s
  · exact pingZipclients_changes hevent s
  · exact sendingThroughProxy_changes event s
  · exact sending_changes event s
  · exact (control_sendNoMoreInfoDelayed event s).changes
  · split
    · exact absurd rfl hevent
    · exact (control_goIdle s).changes
    · exact .refl
  · split_ifs
    · exact (control_sentFromProxy s).changes
    · exact .refl
  · split_ifs
    · exact (control_sentFromProxy s).changes
    · exact .refl
  · exact ((control_mbSendProxyStatus s).trans (control_goIdle _)).changes

theorem mbSendDone_changes (status : UInt8) (s : MailboxState) :
    Changes s (mbSendDone config answers status s) := by
  have hstatus : Control s { s with txStatus := status } := control_of_same rfl rfl rfl rfl rfl rfl
  exact hstatus.changes.trans (mbStateTransition_changes (by simp) _)

end Changes

/-! ### Purges, posts and steps -/

section Steps

variable {s : MailboxState} {config : Config} {answers : Answers}

theorem dropEntry_changes (s : MailboxState) (i : Fin maxMailboxEntries) :
    Changes s (dropEntry s i) := by
  unfold dropEntry
  dsimp only
  split_ifs
  · exact (control_act s _ rfl).changes.tail (.freeEntry i)
  · exact .single (.freeEntry i)

theorem mbFailingNotifyByip_changes (ip : Address) (now : ℕ) (s : MailboxState) :
    Changes s (mbFailingNotifyByip ip now s) := by
  unfold mbFailingNotifyByip
  generalize s.mbList.filter (fun i ↦ isDropped ip now (s.blocks i)) = list
  induction list generalizing s with
  | nil => exact .refl
  | cons i rest ih => exact (dropEntry_changes s i).trans (ih _)

theorem mbPurgeMessages_changes (node : UInt16) (s : MailboxState) :
    Changes s (mbPurgeMessages config answers node s) := by
  unfold mbPurgeMessages
  split_ifs
  · exact (control_act s _ rfl).changes
  · exact mbFailingNotifyByip_changes _ _ s

theorem mbPostUipbuf_changes (data : List UInt8) (proxy : Option Address) (handle : UInt8)
    (s : MailboxState) : Changes s (mbPostUipbuf config answers data proxy handle s) := by
  unfold mbPostUipbuf
  by_cases hignored : (!isPostable data || s.mbConfMode = disableMailbox) = true
  · rw [if_pos hignored]
  · rw [if_neg hignored]
    by_cases hforwarded : s.mbConfMode = enableMailboxProxyForwarding
    · rw [if_pos hforwarded]
      exact .single (.forward config data)
    · rw [if_neg hforwarded]
      split
      case h_1 =>
        split_ifs
        · exact (control_act s _ rfl).changes
        · exact .refl
      case h_2 m halloc =>
        have hpost := Relation.ReflTransGen.single (Change.post answers data proxy handle m halloc)
        dsimp only
        split_ifs
        · exact .single (.postFull answers data proxy handle m halloc)
        · exact hpost.trans (mbPurgeMessages_changes _ _)
        · exact hpost

theorem step_changes (s : MailboxState) (input : Input) :
    Changes s (step config s (input, answers)) := by
  have hcontrol : ∀ {t event}, Control s t → event ≠ .transition →
      Changes s (mbStateTransition config answers event t) := fun hcontrol hevent ↦
    hcontrol.changes.trans (mbStateTransition_changes hevent _)
  cases input with
  | post data =>
    simp only [step]
    exact mbPostUipbuf_changes data none 0 s
  | push ripaddr handle data =>
    simp only [step]
    exact mbPostUipbuf_changes data (some ripaddr) handle s
  | pop ripaddr rport handle node last =>
    simp only [step]
    split_ifs
    · exact hcontrol (control_of_same rfl rfl rfl rfl rfl rfl) (by simp)
    · exact hcontrol (control_of_same rfl rfl rfl rfl rfl rfl) (by simp)
    · exact .refl
  | ping ripaddr rport handle => exact hcontrol (control_of_same rfl rfl rfl rfl rfl rfl) (by simp)
  | ack ok => exact mbSendDone_changes _ s
  | wakeupNotification ripaddr rport handle =>
    exact hcontrol (control_of_same rfl rfl rfl rfl rfl rfl) (by simp)
  | nodeFailing ip => exact mbFailingNotifyByip_changes ip _ s
  | configurationSet properties1 =>
    exact .single (.control (control_of_same rfl rfl rfl rfl rfl rfl))
  | purgeMessages node => exact mbPurgeMessages_changes node s
  | wakeup node isBroadcast =>
    simp only [step, mbWakeupEvent]
    split_ifs
    · exact .refl
    · exact hcontrol (control_of_same rfl rfl rfl rfl rfl rfl) (by simp)
    · exact .refl
    · exact (control_act s _ rfl).changes
    · exact .refl
  | sendDoneEvent status =>
    simp only [step]
    split
    · exact .refl
    case h_2 flight hflight =>
      exact (Relation.ReflTransGen.single (.report flight hflight)).trans
        (mbSendDone_changes status _)
  | sendDone status => exact mbSendDone_changes status s
  | udpPingReply status => exact mbSendDone_changes status s
  | probeWakeupCallback => exact mbStateTransition_changes (by simp) s
  | sendPingTimeout => exact mbStateTransition_changes (by simp) s
  | sendWaitingTimeout i =>
    simp only [step, sendWaitingTimeout]
    split_ifs with htimer
    · exact .refl
    · exact (control_act s _ rfl).changes
    · exact .single (.command mailboxWaiting i (Or.inr htimer))
    · exact .refl
  | noMoreTimeout =>
    simp only [step]
    split_ifs
    · exact hcontrol (control_of_same rfl rfl rfl rfl rfl rfl) (by simp)
    · exact .refl
  | putNodeToSleepLater node =>
    simp only [step]
    split_ifs
    · exact .single (.control (control_of_same rfl rfl rfl rfl rfl rfl))
    · exact .refl
  | nodeTransmissionOkEvent node =>
    simp only [step]
    split_ifs
    · exact mbStateTransition_changes (by simp) s
    · exact .refl
  | abortSending =>
    simp only [step]
    split_ifs
    · exact .single (.control (control_of_same rfl rfl rfl rfl rfl rfl))
    · exact .refl
  | init => exact .single .init

end Steps

end ZipGateway.Mailbox
