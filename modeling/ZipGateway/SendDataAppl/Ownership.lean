import ZipGateway.SendDataAppl.Invariant

/-!
# The send queues own their blocks

Every function of the module keeps the invariant of `Invariant.lean`, and so does every step but
one: `ZW_SendDataAppl_init` frees all blocks and forgets the sessions, and the S2 layer does not
know. Its report of a session from before comes with a pointer to a block that is free, or belongs
to another session by then, and is believed if another session is being sent. `InTime` excludes
that.
-/

set_option autoImplicit false

namespace ZipGateway.SendDataAppl

open Lib Contiki List

/-! ### Completions -/

section Completions

variable {s : SendQueues} {i : Fin numSessions} {config : Config} {status : UInt8} {ts : Bool}

/-- The current session is given up when nothing will report it. -/
theorem Inv.unlock (hinv : Inv s) (hnone : openTokens s = []) (backoffTimer : Bool) :
    Inv { s with lock := false, backoffTimer := backoffTimer } := by
  refine ⟨⟨hinv.serials.bound, hinv.serials.distinct, hinv.serials.used, hinv.serials.listed,
    hinv.serials.nodup⟩, hinv.queues, hinv.stack, fun _ hlock ↦ absurd hlock (by simp), ?_,
    hinv.pending, hinv.sending, hinv.books⟩
  change TokensOk (openTokens s) _ _
  rw [hnone]
  exact ⟨by simp, by simp⟩

theorem resetSpan_used (s : SendQueues) : (resetSpan i status s).used = s.used := by
  unfold resetSpan
  split_ifs <;> rfl

theorem resetSpan_lock (s : SendQueues) : (resetSpan i status s).lock = s.lock := by
  unfold resetSpan
  split_ifs <;> rfl

theorem tell_lock (s : SendQueues) : (s.tell i status).lock = s.lock := by
  unfold SendQueues.tell
  split_ifs <;> rfl

theorem tell_currentSession (s : SendQueues) :
    (s.tell i status).currentSession = s.currentSession := by
  unfold SendQueues.tell
  split_ifs <;> rfl

theorem openTokens_tell (s : SendQueues) : openTokens (s.tell i status) = openTokens s := by
  unfold SendQueues.tell
  split_ifs <;> rfl

theorem Inv.resetSpan (hinv : Inv s) : Inv (resetSpan i status s) := by
  unfold SendDataAppl.resetSpan
  split_ifs
  · have hmodify := hinv.modify (i := i)
      (f := fun session ↦ { session with resetSpan := false }) rfl rfl id rfl
    exact hmodify.log (fun _ ↦ rfl) fun _ ↦ rfl
  · exact hinv

theorem Loose.resetSpan (hloose : Loose s i) : Loose (resetSpan i status s) i := by
  unfold SendDataAppl.resetSpan
  split_ifs
  · exact ⟨hloose.session, hloose.sendData, hloose.current, hloose.failing⟩
  · exact hloose

/-- The current session is reported. -/
theorem inv_callbackEx (hinv : Inv s)
    (hcurrent : s.lock = true → s.currentSession = some i ∧ openTokens s = []) :
    Inv (zwSendDataApplCallbackEx config status ts i s) := by
  unfold zwSendDataApplCallbackEx
  by_cases hlock : s.lock = true
  · rw [if_neg (by simp [hlock])]
    obtain ⟨hcurrent, hnone⟩ := hcurrent hlock
    obtain ⟨hused, hsession, hsendData, hfailing⟩ := hinv.current i hlock hcurrent
    have hunlocked := hinv.unlock hnone (s.backoffTimer ||
      (status = transmitCompleteOk && ts && config.commandAnalyzerIsGet
        ((s.blocks i).frameData.getD 0 0) ((s.blocks i).frameData.getD 1 0)))
    have hloose : Loose { s with
        lock := false
        backoffTimer := s.backoffTimer ||
          (status = transmitCompleteOk && ts && config.commandAnalyzerIsGet
            ((s.blocks i).frameData.getD 0 0) ((s.blocks i).frameData.getD 1 0)) } i :=
      ⟨hsession, hsendData, fun h ↦ absurd h (by simp), hfailing⟩
    refine hunlocked.resetSpan.free_tell ?_ hloose.resetSpan status
    rw [resetSpan_used]
    exact hused
  · rw [if_pos (by simpa using hlock)]
    exact hinv

theorem callbackEx_lock (s : SendQueues) :
    (zwSendDataApplCallbackEx config status ts i s).lock = false := by
  unfold zwSendDataApplCallbackEx
  by_cases hlock : s.lock = true
  · rw [if_neg (by simp [hlock])]
    dsimp only
    rw [tell_lock]
    change (resetSpan i status _).lock = false
    rw [resetSpan_lock]
  · rw [if_pos (by simpa using hlock)]
    simpa using hlock

/-- The callback of a session of the low-level queue, which may report the current session. -/
theorem inv_runCallback (hinv : Inv (s.tell i status))
    (htoken : ∀ j, (s.blocks i).callback.session = some j → s.lock = true →
      s.currentSession = some j ∧ openTokens s = []) : Inv (runCallback config i status ts s) := by
  unfold runCallback
  split
  case h_1 j hcallback =>
    refine inv_callbackEx hinv fun h ↦ ?_
    rw [tell_lock] at h
    rw [tell_currentSession, openTokens_tell]
    exact htoken j (by rw [hcallback]; rfl) h
  case h_2 => exact hinv

/-- The counters and timers do not matter. -/
theorem Inv.other (hinv : Inv s) {resendCounter : UInt8} {backoffTimer : Bool}
    {currentSessionLl : Option (Fin numSessions)} :
    Inv { s with
      resendCounter := resendCounter
      backoffTimer := backoffTimer
      currentSessionLl := currentSessionLl } :=
  ⟨hinv.serials.settles (settles_of_same rfl rfl rfl rfl rfl rfl), hinv.queues,
    hinv.stack, hinv.current, hinv.tokens, hinv.pending, hinv.sending, hinv.books⟩

/-- The low-level queue is locked or unlocked. -/
theorem Inv.setLockLl (hinv : Inv s) {lockLl : Bool} {r : List ℕ}
    (hsending : SendingOk s.blocks s.sendDataList s.frames lockLl r) :
    Inv { s with lockLl := lockLl, raw := r } :=
  ⟨hinv.serials.settles (settles_of_same rfl rfl rfl rfl rfl rfl), hinv.queues,
    hinv.stack, hinv.current, hinv.tokens, hinv.pending, hsending, hinv.books⟩

theorem Inv.unlockLl (hinv : Inv s) : Inv { s with lockLl := false } :=
  hinv.setLockLl (r := s.raw) fun hlock ↦ absurd hlock (by simp)

/-- The stack changes, and still frees the same blocks. -/
theorem Inv.setFrames (hinv : Inv s) {frames : List Frame}
    (hfailing : failing frames = failing s.frames)
    (hstack : StackOk frames) (hsending : SendingOk s.blocks s.sendDataList frames s.lockLl s.raw) :
    Inv { s with frames := frames } := by
  have hqueues := hinv.queues
  refine ⟨hinv.serials.settles (settles_of_same rfl rfl rfl rfl rfl rfl),
    ⟨hqueues.nodup, hqueues.listed, ?_, ?_, hqueues.armed, hqueues.external⟩, hstack,
    fun j hlock hj ↦ ?_, hinv.tokens, hinv.pending, hsending,
    hinv.books.mono (fun _ ↦ rfl) (fun _ h ↦ h) fun _ _ h ↦ hfailing ▸ h⟩
  · exact hfailing ▸ hqueues.failingNodup
  · exact hfailing ▸ hqueues.failing
  · exact hfailing ▸ hinv.current j hlock hj

/-- `send_data_callback_func` waits for the callback of a frame that did not fail. -/
theorem Inv.pushCompleted (hinv : Inv s) (lockLl : Bool) :
    Inv { s with frames := .completed :: s.frames, lockLl := lockLl } := by
  have hpopping : popping (.completed :: s.frames) ≠ false := by simp [popping]
  have hpushed : Inv { s with frames := .completed :: s.frames } :=
    hinv.setFrames rfl (List.Pairwise.cons (fun _ _ _ ↦ by simp) hinv.stack)
      fun _ h ↦ absurd h hpopping
  exact hpushed.setLockLl (r := s.raw) fun _ h ↦ absurd h hpopping

/-- A loose block is left to the stack to be freed. -/
theorem Inv.pushFailed (hinv : Inv s) (hused : s.used i = true) (hloose : Loose s i)
    (lockLl : Bool) :
    Inv { s with frames := .failed i :: s.frames, lockLl := lockLl } := by
  have hqueues := hinv.queues
  have hfailing : failing (.failed i :: s.frames) = i :: failing s.frames := rfl
  refine ⟨hinv.serials.settles (settles_of_same rfl rfl rfl rfl rfl rfl),
    ⟨hqueues.nodup, hqueues.listed, ?_, fun j hj ↦ ?_, hqueues.armed, hqueues.external⟩,
    List.Pairwise.cons (fun _ _ _ ↦ by simp) hinv.stack, fun j hlock hj ↦ ?_, hinv.tokens,
    hinv.pending, fun _ hpopping ↦ absurd hpopping (by simp [popping]),
    hinv.books.mono (fun _ ↦ rfl) (fun _ h ↦ h) fun _ _ h ↦ hfailing ▸ mem_cons_of_mem i h⟩
  · rw [hfailing]
    exact nodup_cons.mpr ⟨hloose.failing, hqueues.failingNodup⟩
  · rcases mem_cons.mp (hfailing ▸ hj) with rfl | hj
    · exact ⟨hused, hloose.session, hloose.sendData⟩
    · exact hqueues.failing j hj
  · have hji : j ≠ i := fun hji ↦ hloose.current hlock (hji ▸ hj)
    obtain ⟨hj, hsession, hsendData, hold⟩ := hinv.current j hlock hj
    refine ⟨hj, hsession, hsendData, fun hnew ↦ ?_⟩
    rcases mem_cons.mp (hfailing ▸ hnew) with h | h
    · exact hji h
    · exact hold h

/-- A session of the low-level queue is freed and reported. -/
theorem Inv.free_runCallback (hinv : Inv s) (hused : s.used i = true) (hloose : Loose s i)
    (htoken : ∀ j, (s.blocks i).callback.session = some j → s.lock = true →
      s.currentSession = some j ∧ openTokens s = []) :
    Inv (runCallback config i status ts (s.free i)) :=
  inv_runCallback (hinv.free_tell hused hloose status) htoken

theorem inv_doDiscardTimeoutMemb (hinv : Inv s) (hmem : i ∈ s.sendDataList)
    (hstopped : (s.blocks i).discardTimer = false)
    (hwaiting : s.lockLl = true → popping s.frames = false → s.sendDataList.head? ≠ some i) :
    Inv (doDiscardTimeoutMemb config i s) := by
  obtain ⟨htaken, hloose⟩ := hinv.takeSendData hmem hstopped hwaiting
  refine htaken.free_runCallback (hinv.queues.listed i (Or.inr hmem)) hloose fun j hsession _ ↦ ?_
  exact (openTokens_take hinv hmem hsession).2

/-- The first session of the low-level queue is completed. Its state before is given for the queue
unlocked, because it is called, too, for a frame that was not handed over. -/
theorem inv_sendDataCallbackFunc {cause : Cause} (hinv : Inv { s with lockLl := false })
    (hhead : s.lockLl = true → ∃ i rest, s.sendDataList = i :: rest ∧
      (s.blocks i).discardTimer = false) :
    Inv (sendDataCallbackFunc config cause status ts s) := by
  unfold sendDataCallbackFunc
  by_cases hlock : s.lockLl = true
  · rw [if_neg (by simp [hlock])]
    have htake : ∀ i rest, s.sendDataList = i :: rest →
        Inv { s with sendDataList := rest, lockLl := false } ∧
        Loose { s with sendDataList := rest, lockLl := false } i ∧ s.used i = true ∧
        ∀ j, (s.blocks i).callback.session = some j →
          s.currentSession = some j ∧ openTokens { s with sendDataList := rest } = [] := by
      intro i rest hlist
      have hmem : i ∈ s.sendDataList := hlist ▸ mem_cons_self
      have hrest : listRemove s.sendDataList i = rest := by
        rw [hlist]
        exact erase_cons_head i rest
      have hstopped : (s.blocks i).discardTimer = false := by
        obtain ⟨k, others, hothers, hstopped⟩ := hhead hlock
        rw [hlist] at hothers
        rw [(List.cons.inj hothers).1]
        exact hstopped
      obtain ⟨htaken, hloose⟩ := hinv.takeSendData hmem hstopped fun h ↦ absurd h (by simp)
      have htokens := fun j ↦ openTokens_take hinv hmem (j := j)
      dsimp only at htaken hloose htokens
      rw [hrest] at htaken hloose htokens
      exact ⟨htaken, hloose, hinv.queues.listed i (Or.inr hmem), fun j hj ↦ (htokens j hj).2⟩
    by_cases hfail : status = transmitCompleteFail
    · rw [if_pos hfail]
      by_cases hcounter : s.resendCounter = 0
      · rw [if_pos hcounter]
        split
        case h_1 => exact hinv
        case h_2 i rest hlist =>
          -- The block is freed when the callback returns.
          obtain ⟨htaken, hloose, hused, htokens⟩ := htake i rest hlist
          have hpushed := (htaken.pushFailed hused hloose s.lockLl).log
            (a := .completed (s.blocks i).serial cause) (fun _ ↦ rfl) fun _ ↦ rfl
          refine inv_runCallback (hpushed.tell status (fun j hj hserial ↦ ?_) ?_)
            fun j hj _ ↦ htokens j hj
          · rw [hpushed.eq_of_serial hused hserial]
            exact mem_cons_self
          · change (Act.completed _ _ :: s.log).countP (Act.tells (s.blocks i).serial) = 0
            simpa [Act.tells] using hinv.books.told.unpaid i ⟨hused, hloose.failing⟩
      · rw [if_neg hcounter]
        exact hinv
    · rw [if_neg hfail]
      split
      case h_1 hlist =>
        obtain ⟨i, rest, hothers, -⟩ := hhead hlock
        rw [hlist] at hothers
        exact absurd hothers (by simp)
      case h_2 i rest hlist =>
        obtain ⟨htaken, hloose, hused, htokens⟩ := htake i rest hlist
        have hpushed := (htaken.pushCompleted s.lockLl).log
          (a := .completed (s.blocks i).serial cause) (fun _ ↦ rfl) fun _ ↦ rfl
        exact hpushed.other.free_runCallback hused
          ⟨hloose.session, hloose.sendData, hloose.current, hloose.failing⟩ fun j hj _ ↦
            htokens j hj
  · have hunlocked : ({ s with lockLl := false } : SendQueues) = s := by
      rw [← (Bool.not_eq_true _).mp hlock]
    rw [if_pos (by simpa using hlock), ← hunlocked]
    exact hinv

end Completions

/-! ### Sending -/

section Sending

variable {s : SendQueues} {i : Fin numSessions} {config : Config}

theorem Loose.modify (hloose : Loose s i) {change : Session → Session} :
    Loose (s.modify i change) i :=
  ⟨hloose.session, hloose.sendData, hloose.current, hloose.failing⟩

/-- Two changes of a block, one after the other. -/
theorem modify_modify {first second f : Session → Session}
    (hchange : second (first (s.blocks i)) = f (s.blocks i)) :
    (s.modify i first).modify i second = s.modify i f := by
  simp [SendQueues.modify, hchange]

/-- What `send_data` does; the callback may report the current session if nothing else does. -/
theorem inv_sendData (hinv : Inv s) (p : TsParam) (discardTimeout : Bool) (data : List UInt8)
    (cb : Callback) (fb : Bool) (htoken : ∀ j, cb.session = some j →
      s.lock = true ∧ s.currentSession = some j ∧ openTokens s = []) :
    Inv (sendData p discardTimeout data cb fb s).1 ∧
      ((sendData p discardTimeout data cb fb s).2 = false →
        openTokens (sendData p discardTimeout data cb fb s).1 = openTokens s ∧
        (sendData p discardTimeout data cb fb s).1.currentSession = s.currentSession) := by
  unfold sendData
  split
  case h_1 => exact ⟨hinv, fun _ ↦ ⟨rfl, rfl⟩⟩
  case h_2 i halloc =>
    obtain ⟨hallocated, hloose, hstopped⟩ := hinv.allocate halloc
    dsimp only
    split_ifs
    · exact ⟨hallocated, fun _ ↦ ⟨openTokens_allocate, rfl⟩⟩
    · refine ⟨?_, fun h ↦ absurd h (by simp)⟩
      obtain ⟨hfilled, htokens⟩ := hallocated.fill hloose
        (f := Session.filled p discardTimeout data cb) hstopped hstopped rfl
      have hblock : ((s.allocate i).modify i (Session.filled p discardTimeout data cb)).blocks i =
          Session.filled p discardTimeout data cb ((s.allocate i).blocks i) := by
        simp [SendQueues.modify]
      have hadded := hfilled.addSendData (allocate_used s i) hloose.modify discardTimeout
        (by rw [hblock]; exact id) fun j hj ↦ ?_
      · rw [modify_modify (f := fun session ↦
          { session.filled p discardTimeout data cb with
            discardTimer := session.discardTimer || discardTimeout })
              (by rw [hstopped]; rfl)] at hadded
        exact hadded
      · rw [htokens, openTokens_allocate]
        rw [hblock] at hj
        exact htoken j hj

theorem inv_zwSendDataAppl (hinv : Inv s) (p : TsParam) (discardTimeout : Bool) (data : List UInt8)
    {callback : Callback} (hcallback : callback.session = none) (fb : Bool) :
    Inv (zwSendDataAppl config p discardTimeout data callback fb s) := by
  unfold zwSendDataAppl
  split
  case h_1 => exact hinv
  case h_2 i halloc =>
    obtain ⟨hallocated, hloose, hstopped⟩ := hinv.allocate halloc
    dsimp only
    generalize hactivated : (fun session : Session ↦
      { session with
        resetSpan := session.resetSpan || decide (data.getD 0 0 = commandClassFirmwareUpdateMd ∧
          data.getD 1 0 = firmwareUpdateActivationSet) }) = activated
    have htimer : (activated ((s.allocate i).blocks i)).discardTimer = false := by
      rw [← hactivated]
      exact hstopped
    have hserial :
        (activated ((s.allocate i).blocks i)).serial = ((s.allocate i).blocks i).serial := by
      rw [← hactivated]
    have hmarked := (hallocated.fill hloose hstopped htimer hserial).1
    have hblock : ((s.allocate i).modify i activated).blocks i =
        activated ((s.allocate i).blocks i) := by
      simp [SendQueues.modify]
    by_cases hfb : (!fb) = true
    · rw [if_pos hfb]
      exact hmarked.free (allocate_used s i) hloose.modify
    · rw [if_neg hfb]
      generalize (if data.getD 0 0 = commandClassNoOperation ∧ config.isLrNode p.dnode = true then
        [commandClassNoOperationLr, 0] else data) = data
      have hfilled :=
        (hmarked.fill hloose.modify (f := Session.filled p discardTimeout data callback)
        (by rw [hblock]; exact htimer) (by rw [hblock]; exact htimer) rfl).1
      refine hfilled.addSession (allocate_used s i) hloose.modify.modify ?_
      simpa [SendQueues.modify, Session.filled] using hcallback

/-- The first session of the application queue becomes the current one. -/
theorem Inv.hand (hinv : Inv s) (hlock : s.lock = false) {rest : List (Fin numSessions)}
    (hlist : s.sessionList = i :: rest) :
    Inv { s with
      sessionList := rest
      currentSession := some i
      lock := true
      log := .handed (s.blocks i).serial :: s.log } ∧ openTokens s = [] := by
  have hmem : i ∈ s.sessionList := hlist ▸ mem_cons_self
  have hrest : listRemove s.sessionList i = rest := by
    rw [hlist]
    exact erase_cons_head i rest
  have hnone : openTokens s = [] := by
    rw [eq_nil_iff_forall_not_mem]
    intro j hj
    have hlocked := (hinv.tokens.current j hj).1
    simp [hlock] at hlocked
  obtain ⟨htaken, hloose⟩ := hinv.takeSession hmem
  rw [hrest] at htaken hloose
  have hlogged := htaken.log (a := .handed (s.blocks i).serial) (fun _ ↦ rfl) fun _ ↦ rfl
  refine ⟨⟨hlogged.serials.settles (settles_of_same rfl rfl rfl rfl rfl rfl),
    hlogged.queues, hlogged.stack, fun j _ hj ↦ ?_, ?_, hlogged.pending, hlogged.sending,
    hlogged.books⟩, hnone⟩
  · obtain rfl := Option.some.inj hj
    exact ⟨hinv.queues.listed i (Or.inl hmem), hloose.session, hloose.sendData, hloose.failing⟩
  · change TokensOk (openTokens s) _ _
    rw [hnone]
    exact ⟨by simp, by simp⟩

/-- A security layer takes the current session. -/
theorem Inv.defer (hinv : Inv s) (hlock : s.lock = true) (hcurrent : s.currentSession = some i)
    (hnone : openTokens s = []) (layer : Layer) :
    Inv { s with pending := s.pending ++ [⟨i, layer, s.epoch⟩] } := by
  have htokens : openTokens { s with pending := s.pending ++ [⟨i, layer, s.epoch⟩] } = [i] := by
    obtain ⟨hqueue, hlayer⟩ := append_eq_nil_iff.mp hnone
    change queueTokens s.blocks s.sendDataList ++ layerTokens (s.pending ++ _) s.epoch = [i]
    rw [hqueue]
    unfold layerTokens at hlayer ⊢
    rw [filter_append, map_append, hlayer]
    simp
  refine ⟨hinv.serials.settles (settles_of_same rfl rfl rfl rfl rfl rfl),
    hinv.queues, hinv.stack, hinv.current, ?_, ⟨fun token htoken ↦ ?_, fun token htoken hs0 ↦ ?_⟩,
    hinv.sending, hinv.books⟩
  · rw [htokens]
    exact ⟨by simp, by simp [hlock, hcurrent]⟩
  · rcases mem_append.mp htoken with htoken | htoken
    · exact hinv.pending.bound token htoken
    · rw [mem_singleton.mp htoken]
  · rcases mem_append.mp htoken with htoken | htoken
    · exact hinv.pending.s0 token htoken hs0
    · rw [mem_singleton.mp htoken]

theorem inv_endpointReturned (hinv : Inv s) {rc : Bool}
    (hcurrent : rc = false → s.lock = true → s.currentSession = some i ∧ openTokens s = []) :
    Inv (endpointReturned config i rc s) := by
  unfold endpointReturned
  split_ifs with hrc
  · exact hinv
  · exact inv_callbackEx hinv (hcurrent (by simpa using hrc))

theorem inv_sendFirst (hinv : Inv s) (hlock : s.lock = false) (outcome : EndpointOutcome) :
    Inv (sendFirst config outcome s) := by
  unfold sendFirst
  split
  case h_1 =>
    exact ⟨hinv.serials.settles (settles_of_same rfl rfl rfl rfl rfl rfl),
      hinv.queues, hinv.stack, fun _ h ↦ absurd h (by simp [hlock]), ⟨hinv.tokens.single, fun j hj ↦
        absurd (hinv.tokens.current j hj).1 (by simp [hlock])⟩, hinv.pending, hinv.sending,
          hinv.books⟩
  case h_2 i rest hlist =>
    obtain ⟨hhanded, hnone⟩ := hinv.hand hlock hlist
    cases outcome with
    | refused => exact inv_endpointReturned hhanded fun _ _ ↦ ⟨rfl, hnone⟩
    | direct data fb =>
      obtain ⟨hsent, hfailed⟩ := inv_sendData hhanded (s.blocks i).param
        (s.blocks i).discardTimeout data (.callbackEx i) fb fun j hj ↦ ⟨rfl, hj, hnone⟩
      refine inv_endpointReturned hsent fun hrc _ ↦ ?_
      obtain ⟨htokens, hcurrent⟩ := hfailed hrc
      exact ⟨hcurrent, htokens.trans hnone⟩
    | secure layer => exact hhanded.defer rfl rfl hnone layer
    | secureAtOnce status ts rc =>
      refine inv_endpointReturned (inv_callbackEx hhanded fun _ ↦ ⟨rfl, hnone⟩) fun _ h ↦ ?_
      rw [callbackEx_lock] at h
      exact absurd h (by simp)

/-- A security layer is done with a session: if it is of the current epoch it was the current
session and nothing else will report it. -/
theorem Inv.report (hinv : Inv s) {token : Token} {pending : List Token}
    (hperm : (token :: pending).Perm s.pending) :
    Inv { s with pending := pending } ∧ (token.epoch = s.epoch →
      s.currentSession = some token.block ∧ openTokens { s with pending := pending } = []) := by
  have hmem : ∀ {other}, other ∈ pending → other ∈ s.pending := fun hother ↦
    hperm.mem_iff.mp (mem_cons_of_mem _ hother)
  have htokens : (openTokens s).Perm (openTokens { s with pending := token :: pending }) :=
    (((hperm.filter _).map Token.block).symm).append_left _
  have hsublist : (openTokens { s with pending := pending }).Sublist
      (openTokens { s with pending := token :: pending }) :=
    (((sublist_cons_self token pending).filter _).map Token.block).append_left _
  refine ⟨⟨hinv.serials.settles (settles_of_same rfl rfl rfl rfl rfl rfl),
    hinv.queues, hinv.stack, hinv.current, ⟨?_, fun j hj ↦ ?_⟩,
    ⟨fun other hother ↦ hinv.pending.bound other (hmem hother),
      fun other hother ↦ hinv.pending.s0 other (hmem hother)⟩, hinv.sending, hinv.books⟩,
    fun hepoch ↦ ?_⟩
  · exact (hsublist.length_le.trans htokens.length_eq.ge).trans hinv.tokens.single
  · exact hinv.tokens.current j (htokens.mem_iff.mpr (hsublist.subset hj))
  · have hcons : (openTokens s).Perm (token.block :: openTokens { s with pending := pending }) := by
      refine htokens.trans ?_
      change (queueTokens s.blocks s.sendDataList ++ layerTokens (token :: pending) s.epoch).Perm _
      unfold layerTokens
      rw [filter_cons_of_pos (by simpa using hepoch), map_cons]
      exact perm_middle
    have hlength := hcons.length_eq
    have hsingle := hinv.tokens.single
    rw [length_cons] at hlength
    exact ⟨(hinv.tokens.current _ (hcons.mem_iff.mpr mem_cons_self)).2,
      length_eq_zero_iff.mp (by omega)⟩

theorem inv_abortS0 (hinv : Inv s) : Inv (abortS0 config s) := by
  unfold abortS0
  split
  case h_1 => exact hinv
  case h_2 token hfound =>
    have hmem := mem_of_find?_eq_some hfound
    have hlayer : token.layer = .s0 := by simpa using List.find?_some hfound
    obtain ⟨hreported, htokens⟩ := hinv.report (perm_cons_erase hmem).symm
    have hpushed :
        Inv { s with pending := s.pending.erase token, frames := .abortS0 :: s.frames } :=
      hreported.setFrames rfl (List.Pairwise.cons (fun _ _ _ ↦ by simp) hreported.stack)
        hreported.sending
    exact inv_callbackEx hpushed fun _ ↦ htokens (hinv.pending.s0 token hmem hlayer)

theorem inv_zwSendDataApplAbort (hinv : Inv s) (handle : UInt8) :
    Inv (zwSendDataApplAbort config handle s) := by
  unfold zwSendDataApplAbort abortBlock
  split_ifs with hhandle hcurrent hmem
  · exact inv_abortS0 (hinv.log (fun _ ↦ rfl) fun _ ↦ rfl)
  · obtain ⟨htaken, hloose⟩ := hinv.takeSession hmem
    have hexternal := hinv.queues.external _ hmem
    refine htaken.free_runCallback (hinv.queues.listed _ (Or.inl hmem)) hloose fun j hj ↦ ?_
    rw [hexternal] at hj
    exact absurd hj (by simp)
  · exact hinv
  · exact hinv

theorem inv_rawReturned (hinv : Inv { s with lockLl := false }) {rc : Bool}
    (hok : rc = true → Inv s) (hhead : s.lockLl = true → ∃ i rest, s.sendDataList = i :: rest ∧
      (s.blocks i).discardTimer = false) : Inv (rawReturned config rc s) := by
  unfold rawReturned
  split_ifs with hrc
  · exact hok hrc
  · exact inv_sendDataCallbackFunc hinv hhead

/-- A frame that the invariant says is under way. -/
theorem Inv.head (hinv : Inv s) (hpopping : popping s.frames = false) (hlock : s.lockLl = true) :
    ∃ i rest, s.sendDataList = i :: rest ∧ (s.blocks i).discardTimer = false := by
  obtain ⟨i, rest, hlist, hstopped, -⟩ := hinv.sending hlock hpopping
  exact ⟨i, rest, hlist, hstopped⟩

theorem inv_sendNextLl (hinv : Inv s) (hframes : s.frames = []) (outcome : RawOutcome) :
    Inv (sendNextLl config outcome s) := by
  unfold sendNextLl
  split
  case h_1 => exact hinv.other
  case h_2 i rest hlist =>
    split_ifs with hlock
    · exact hinv.other
    · have hsent : Inv (s.modify i (Session.sent config)) :=
        hinv.modify rfl rfl (fun h ↦ (Bool.and_eq_true_iff.mp h).1) rfl
      have hblock :
          (s.modify i (Session.sent config)).blocks i = Session.sent config (s.blocks i) := by
        simp [SendQueues.modify]
      have hstopped : ((s.modify i (Session.sent config)).blocks i).discardTimer = false := by
        rw [hblock]
        by_contra hrunning
        have hboth := Bool.and_eq_true_iff.mp ((Bool.not_eq_false _).mp hrunning)
        have htimeout := (hinv.queues.armed i hboth.1).2
        simp [htimeout] at hboth
      have hcurrent : Inv { s.modify i (Session.sent config) with currentSessionLl := some i } :=
        hsent.other
      have hunlocked : Inv { s.modify i (Session.sent config) with
          currentSessionLl := some i
          lockLl := false } := hcurrent.unlockLl
      have hraw : ∀ {frames : List Frame}, SendingOk (s.modify i (Session.sent config)).blocks
          s.sendDataList frames true ((s.blocks i).serial :: s.raw) := by
        intro frames _ _
        refine ⟨i, rest, hlist, hstopped, ?_⟩
        rw [hblock]
        rfl
      cases outcome with
      | taken => exact hcurrent.setLockLl hraw
      | refused =>
        exact inv_rawReturned hunlocked (fun h ↦ absurd h (by simp)) fun _ ↦
          ⟨i, rest, hlist, hstopped⟩
      | reported status ts rc =>
        refine inv_sendDataCallbackFunc ?_ fun _ ↦ ⟨i, rest, hlist, hstopped⟩
        have hpushed : Inv { s.modify i (Session.sent config) with
            currentSessionLl := some i
            lockLl := false
            frames := .sendNextLl rc :: s.frames } := by
          refine hunlocked.setFrames rfl ?_ fun h ↦ absurd h (by simp)
          rw [hframes]
          exact pairwise_singleton _ _
        exact hpushed.setLockLl fun h ↦ absurd h (by simp)

theorem inv_init (hinv : Inv s) (hframes : s.frames = []) : Inv (zwSendDataApplInit s) := by
  have hserials := hinv.serials.change (.init : Change (fun _ ↦ True) s _)
  have hfailing : failing s.frames = [] := by
    rw [hframes]
    rfl
  refine ⟨hserials, ⟨nodup_nil, by simp [zwSendDataApplInit], ?_, ?_,
    by simp [zwSendDataApplInit, Session.zero], by simp [zwSendDataApplInit]⟩, hinv.stack,
    fun _ h ↦ absurd h (by simp [zwSendDataApplInit]), ?_, ⟨fun token htoken ↦ ?_,
    fun token htoken hs0 ↦ ?_⟩, fun h ↦ absurd h (by simp [zwSendDataApplInit]),
    ⟨⟨hinv.books.told.most, fun j hj ↦ absurd hj.1 (by simp [zwSendDataApplInit]),
      hinv.books.told.fresh⟩,
        ⟨hinv.books.freed.most, fun j hj ↦ absurd hj (by simp [zwSendDataApplInit]),
      hinv.books.freed.fresh⟩, hinv.books.sound⟩⟩
  · change (failing s.frames).Nodup
    rw [hfailing]
    exact nodup_nil
  · change ∀ i ∈ failing s.frames, _
    rw [hfailing]
    simp
  · -- The tokens of the epochs before do not count.
    have hnone : openTokens (zwSendDataApplInit s) = [] := by
      change layerTokens (s.pending.filter fun token ↦ token.layer ≠ .s0) (s.epoch + 1) = []
      unfold layerTokens
      rw [map_eq_nil_iff, filter_eq_nil_iff]
      intro token htoken
      have hbound := hinv.pending.bound token (mem_of_mem_filter htoken)
      simp only [decide_eq_true_eq]
      omega
    rw [hnone]
    exact ⟨by simp, by simp⟩
  · exact (hinv.pending.bound token (mem_of_mem_filter htoken)).trans (Nat.le_succ _)
  · have hlayer := (mem_filter.mp htoken).2
    simp [hs0] at hlayer

theorem inv_returnStep (hinv : Inv s) : Inv (returnStep config s) := by
  unfold returnStep
  split
  case h_1 => exact hinv
  case h_2 rest hframes =>
    have hstack : StackOk rest := (hframes ▸ hinv.stack : StackOk _).of_cons
    exact hinv.unlockLl.setFrames (by rw [hframes]; rfl) hstack fun h ↦ absurd h (by simp)
  case h_3 i rest hframes =>
    have hstack : StackOk rest := (hframes ▸ hinv.stack : StackOk _).of_cons
    have hmem : i ∈ failing s.frames := by
      rw [hframes]
      exact mem_cons_self
    obtain ⟨hused, hsession, hsendData⟩ := hinv.queues.failing i hmem
    refine hinv.unlockLl.free_frames hused hsession hsendData (fun hlock hcurrent ↦ ?_) ?_ hstack
      fun h ↦ absurd h (by simp)
    · exact (hinv.current i hlock hcurrent).2.2.2 hmem
    · change failing rest = (failing s.frames).erase i
      rw [hframes]
      exact (erase_cons_head i _).symm
  case h_4 rest hframes =>
    have hstack : StackOk rest := (hframes ▸ hinv.stack : StackOk _).of_cons
    refine inv_abortS0 (hinv.setFrames (by rw [hframes]; rfl) hstack fun hlock hpopping ↦ ?_)
    exact hinv.sending hlock (by rw [hframes]; exact hpopping)
  case h_5 rc rest hframes =>
    -- Nothing is below this frame.
    have hrest : rest = [] := by
      by_contra hne
      obtain ⟨below, hbelow⟩ := exists_mem_of_ne_nil rest hne
      have hpairs := (pairwise_cons.mp (hframes ▸ hinv.stack : StackOk _)).1 below hbelow rc
      exact hpairs rfl
    have hsending : SendingOk s.blocks s.sendDataList rest s.lockLl s.raw := fun hlock hpopping ↦
      hinv.sending hlock (by rw [hframes]; exact hpopping)
    have hpopped : Inv { s with frames := rest } :=
      hinv.setFrames (by rw [hframes]; rfl) (hframes ▸ hinv.stack : StackOk _).of_cons hsending
    exact inv_rawReturned hpopped.unlockLl (fun _ ↦ hpopped)
      (hpopped.head (by rw [hrest]; rfl))

end Sending

/-! ### Runs -/

section Runs

variable {s : SendQueues} {config : Config}

/-- A security layer reports sessions of the current epoch only, unless no session is being sent. -/
def InTime (s : SendQueues) : Input → Prop
  | .securityDone k _ _ =>
    ∀ token, s.pending[k]? = some token → token.epoch = s.epoch ∨ s.lock = false
  | _ => True

theorem inv_mainLoopStep (hinv : Inv s) (hframes : s.frames = []) (input : Input) :
    Inv (mainLoopStep config s input) := by
  have hpopping : popping s.frames = false := by
    rw [hframes]
    rfl
  unfold mainLoopStep
  split
  case h_1 outcome =>
    split_ifs with hidle
    · exact inv_sendFirst hinv (by simpa using (Bool.and_eq_true_iff.mp hidle).1) outcome
    · exact hinv
  case h_2 outcome => exact inv_sendNextLl hinv hframes outcome
  case h_3 =>
    split
    · exact hinv
    · exact inv_sendDataCallbackFunc hinv.unlockLl (hinv.head hpopping)
  case h_4 => exact inv_sendDataCallbackFunc hinv.unlockLl (hinv.head hpopping)
  case h_5 => exact hinv.other
  case h_6 => exact hinv.other
  case h_7 =>
    split_ifs
    · exact hinv.other
    · exact hinv
  case h_8 i =>
    split_ifs with harmed
    · have hmem := (hinv.queues.armed i harmed).1
      have hstopped := hinv.modify (i := i)
        (f := fun session ↦ { session with discardTimer := false }) rfl rfl
        (fun h ↦ absurd h (by simp)) rfl
      refine inv_doDiscardTimeoutMemb hstopped hmem
        (by simp [SendQueues.modify]) fun hlock _ hhead ↦ ?_
      -- The timer of a frame under way does not run.
      obtain ⟨k, rest, hlist, htimer⟩ := hinv.head hpopping hlock
      have hki : k = i := by
        change s.sendDataList.head? = some i at hhead
        rw [hlist] at hhead
        exact Option.some.inj hhead
      rw [hki] at htimer
      simp [harmed] at htimer
    · exact hinv
  case h_9 => exact inv_init hinv hframes
  case h_10 => exact hinv

theorem inv_step (hinv : Inv s) {input : Input} (hinTime : InTime s input) :
    Inv (step config s input) := by
  unfold step
  split
  case h_1 p discardTimeout data user fb =>
    exact inv_zwSendDataAppl hinv p discardTimeout data (by cases user <;> rfl) fb
  case h_2 p discardTimeout data user fb =>
    exact (inv_sendData hinv p discardTimeout data _ fb fun j hj ↦
      absurd hj (by simp [Callback.session])).1
  case h_3 handle => exact inv_zwSendDataApplAbort hinv handle
  case h_4 k status ts =>
    split
    case h_1 => exact hinv
    case h_2 token htoken =>
      obtain ⟨hreported, htokens⟩ := hinv.report (perm_cons_eraseIdx htoken)
      refine inv_callbackEx hreported fun hlock ↦ htokens ?_
      rcases hinTime token htoken with hepoch | hunlocked
      · exact hepoch
      · change s.lock = true at hlock
        simp [hunlocked] at hlock
  case h_5 => exact inv_returnStep hinv
  case h_6 =>
    split_ifs with hframes
    · exact inv_mainLoopStep hinv (List.isEmpty_iff.mp hframes) _
    · exact hinv

/-- The invariant holds in every run in which the security layers report in time. -/
theorem inv_run {inputs : List Input} (hinTime : AllSteps (step config) InTime .powerUp inputs) :
    Inv (run (step config) .powerUp inputs) := by
  refine run_invariant_of_allSteps ?_ inv_powerUp hinTime
  intro state input hallowed hinv
  exact inv_step hinv hallowed

/-- The blocks of the queues are allocated, no block is twice in the queues, a block is freed once
for each allocation, and never when it is not allocated or in a queue, and no callback is called
twice. -/
structure OwnershipOk (s : SendQueues) : Prop where
  listed : ∀ i, i ∈ s.sessionList ∨ i ∈ s.sendDataList → s.used i = true
  nodup : (s.sessionList ++ s.sendDataList).Nodup
  freed : ∀ serial allocated queued, .freed serial allocated queued ∈ s.log →
    allocated = true ∧ queued = false
  freedOnce : ∀ serial, s.log.countP (Act.frees serial) ≤ 1
  toldOnce : ∀ serial, s.log.countP (Act.tells serial) ≤ 1

/-- In every run in which the S2 layer does not report a session from before an initialization while
another session is being sent, the queues own their blocks. -/
theorem queues_own_blocks (config : Config) (inputs : List Input)
    (hinTime : AllSteps (step config) InTime .powerUp inputs) :
    OwnershipOk (run (step config) .powerUp inputs) := by
  have hinv := inv_run hinTime
  exact ⟨hinv.queues.listed, hinv.queues.nodup, hinv.books.sound, hinv.books.freed.most,
    hinv.books.told.most⟩

end Runs

/-! ### A report from before an initialization -/

/-- The gateway is node 1, and no command is a request. -/
def sampleConfig : Config := ⟨fun _ _ ↦ false, fun _ ↦ false, 1⟩

/-- The application sends a frame to node 5. -/
def sampleSend (user : ℕ) : Input :=
  .sendDataAppl ⟨1, 5, 0, 0, 0, 0, 0⟩ false [0x25, 0x01] (some user) true

/-- The S2 layer has taken a session when the module is initialized, and reports it before another
session is sent. -/
def reportBetween : List Input :=
  [sampleSend 1, .sendNext (.secure .s2), .init, .securityDone 0 transmitCompleteOk true,
    sampleSend 2, .sendNext (.direct [0x25, 0x01] true), .sendNextLl .taken,
      .rawReport 0 transmitCompleteOk true, .ret]

theorem queues_own_blocks_reportBetween :
    (run (step sampleConfig) .powerUp reportBetween).log =
        [.told 2 (.external 2) transmitCompleteOk, .freed 2 true false,
          .told 3 (.callbackEx 0) transmitCompleteOk, .freed 3 true false,
          .completed 3 (.report 3), .handed 2, .handed 1] ∧
      OwnershipOk (run (step sampleConfig) .powerUp reportBetween) := by
  refine ⟨by decide +kernel, queues_own_blocks sampleConfig reportBetween ?_⟩
  refine ⟨trivial, trivial, trivial, fun token _ ↦ Or.inr ?_, trivial, trivial, trivial,
    trivial, trivial, trivial⟩
  decide +kernel

/-- The report of session 2 comes when its block belongs to session 4, which is waiting, and session
3 is being sent: the block of session 4 is freed while it is in the queue. -/
theorem queued_block_freed :
    ¬ ∀ (config : Config) (inputs : List Input),
      OwnershipOk (run (step config) .powerUp inputs) := by
  intro hclaim
  have hok := hclaim sampleConfig
    [sampleSend 1, sampleSend 2, .sendNext (.secure .s2), .securityDone 0 transmitCompleteOk true,
      .sendNext (.secure .s2), .init, sampleSend 3, sampleSend 4,
      .sendNext (.direct [0x25, 0x01] true), .securityDone 0 transmitCompleteOk true]
  have hfreed := hok.freed 4 true true (by decide +kernel)
  exact absurd hfreed.2 (by simp)

end ZipGateway.SendDataAppl
