import ZipGateway.Inclusion.Effects

/-!
# Runs of the inclusion with what is observed

`Observed` is the context together with what the source does not keep: whether the inclusion timer
is running, whether a frame is on its way whose transmission will be reported to
`s2_inclusion_send_done`, and the events that ended the inclusion since it left `S2_INC_IDLE`.
`observe` is one step of the machine of `Model` in which these are kept.

`S2_send_data` of `S2.c` reports at most once to `s2_inclusion_send_done` before it returns: when
the frame that it gives to the radio is refused. Such a report is a failure (`Input.allowed`). When
`S2_send_data` returns and has not reported yet, a frame is on its way: its own, or the one that
made it refuse to send. When it has reported, the frame that failed is not. A frame of
`S2_send_frame` is on its way when it was accepted.

`observe_cases` says what a step can do, in terms of the effects of `Effects`: an input posts an
event (`Posts`), is refused, or is ignored, or a function outside returns (`ret_cases`).
-/

set_option autoImplicit false

namespace ZipGateway.Inclusion

open Lib SecurityS2

/-! ### The machine -/

/-- A context, and what is observed of its run. -/
structure Observed where
  ctx : Context
  /-- The inclusion timer is running. -/
  armed : Bool
  /-- A frame is on its way whose transmission will be reported. -/
  awaiting : Bool
  /-- The function outside that is running was called in the last step, and did not report yet. -/
  fresh : Bool
  /-- The number of events that ended the inclusion since the last one began. -/
  terminals : ℕ

/-- What was logged between two contexts of a run. -/
def newActs (before after : Context) : List Act :=
  after.log.take (after.log.length - before.log.length)

/-- The input can come, and a report of `S2_send_data` is a failure and its first one. -/
def Input.allowed (input : Input) (observed : Observed) : Bool :=
  input.possible observed.ctx.stack &&
    match observed.ctx.stack, input with
    | _ :: _, .sendDone success => observed.fresh && !success
    | _, _ => true

def Input.isTimeout : Input → Bool
  | .timeout => true
  | _ => false

/-- The input is a timeout or a report of a transmission. -/
def Input.isReport : Input → Bool
  | .timeout | .sendDone _ => true
  | _ => false

/-- The calls that are still running while the input is processed. -/
def Input.caller (input : Input) (stack : List Frame) : List Frame :=
  match input with
  | .ret _ => stack.tail
  | _ => stack

/-- A frame is on its way after the input. -/
def Observed.awaits (observed : Observed) (input : Input) : Bool :=
  match observed.ctx.stack, input with
  | [], .sendDone _ => false
  | .sendFrame _ :: _, .ret success => observed.awaiting || success
  | .sendData _ :: _, .ret _ | .sendEcho :: _, .ret _ => observed.awaiting || observed.fresh
  | _, _ => observed.awaiting

/-- One step of the machine. -/
def observe (env : Env) (observed : Observed) (input : Input) : Observed :=
  if observed.ctx.hung = false ∧ input.allowed observed then
    let ctx := step env observed.ctx input
    let acts := newActs observed.ctx ctx
    { ctx
      armed := (acts.findSome? Act.timer).getD (observed.armed && !input.isTimeout)
      awaiting := observed.awaits input
      fresh := decide ((input.caller observed.ctx.stack).length < ctx.stack.length)
      terminals :=
        (if observed.ctx.state = .idle ∧ ctx.state ≠ .idle then 0 else observed.terminals) +
          acts.countP Act.isTerminal }
  else observed

/-- `S2_init_ctx` was called, and no timer is running. -/
def initialized (ctx : Context) : Observed where
  ctx := restoreKeys (atRest ctx)
  armed := false
  awaiting := false
  fresh := false
  terminals := 0

/-! ### The events of the inputs -/

/-- The event of a report of a transmission. -/
def sendDoneEvent (success : Bool) (ctx : Context) : Event :=
  if ctx.retryCounter = queueFull then .inclusionRetry
  else if success then .inclusionSendDone
  else if ctx.retryCounter ≠ noRetries ∧ ctx.state ≠ .echoKexSetSending then .inclusionRetry
  else .inclusionSendFailed

/-- The events that an input can be. -/
inductive Posts (ctx : Context) : Input → Event → Prop
  | includingStart (con : Connection) : Posts ctx (.includingStart con) .includingStart
  | joiningStart (con : Connection) (csa : Bool) : Posts ctx (.joiningStart con csa) .joiningStart
  | accept {input : Input} (huser : input.isUserCall = true) : Posts ctx input .includingAccept
  | reject {input : Input} (huser : input.isUserCall = true) : Posts ctx input .includingReject
  | discoveryComplete : Posts ctx .neighborDiscoveryComplete .discoveryComplete
  | received {src : Connection} {buf : ℕ → UInt8} {length : ℕ} {event : Event}
      (hevent : event.isReceived = true)
      (hnext : event = .transferEndRecv → (0 - ctx.keyExchange) &&& ctx.keyGranted ≠ 0) :
      Posts ctx (.received src buf length) event
  | tooShort {src : Connection} {buf : ℕ → UInt8} {length : ℕ} :
      Posts ctx (.received src buf length) .inclusionError
  | decryptionFailure (src : Connection) :
      Posts ctx (.decryptionFailure src) .includingDecryptFailed
  | timeout : Posts ctx .timeout .inclusionTimeout
  | echo (hstate : ctx.state = .echoKexSetSending) : Posts ctx .timeout .inclusionRetry
  | sendDone (success : Bool) : Posts ctx (.sendDone success) (sendDoneEvent success ctx)

/-- What an input that is no return does: nothing, a refusal, or an effect of an event. -/
inductive Turn (ctx : Context) (input : Input) (ctx' : Context) : Prop
  | ignored (hreport : input.isReport = false) (hproduces : Produces {} ctx ctx')
  | refused (hreceived : ∃ src buf length, input = .received src buf length)
      (hstate : ctx.state ≠ .idle) (hproduces : Produces refusal ctx ctx')
  | posted (event : Event) (retry : UInt8) (effect : Effect) (hposts : Posts ctx input event)
      (hretry : ctx.retryCounter ≠ queueFull → retry = ctx.retryCounter)
      (heffect : effect ∈ effects (move ctx.state event).1)
      (hhung : ctx.hung = false → ((move ctx.state event).1 = .sendNetKeyGet → ctx.keyGranted ≠ 0 →
        advanceKey ctx.keyGranted 9 ctx.keyExchange ≠ none) → ctx'.hung = false)
      (hproduces : Produces effect
        { ctx with state := (move ctx.state event).2, retryCounter := retry } ctx')

section Turn

variable {ctx ctx₁ : Context} {input : Input} {event : Event}

/-- An input is processed as an event, after something that is not observed was done. -/
theorem turn_processEvent (env : Env) {acts : List Act} {retry : UInt8}
    (hposts : Posts ctx input event)
    (hobserved : ctx₁.observed =
      Context.observed { ctx with log := acts ++ ctx.log, retryCounter := retry })
    (hacts : ∀ act ∈ acts, act.timer = none ∧ act.isTerminal = false ∧ act.isKeyUpdate = false)
    (hretry : ctx.retryCounter ≠ queueFull → retry = ctx.retryCounter)
    (hgranted : ctx₁.keyGranted = ctx.keyGranted ∨
      event ≠ .echoKexReportRecv ∧ event ≠ .transferEndRecv) :
    Turn ctx input (processEvent env event ctx₁) := by
  have hstate : ctx₁.state = ctx.state := (congrArg Context.state hobserved :)
  have hhung : ctx₁.hung = ctx.hung := (congrArg Context.hung hobserved :)
  have hexchange : ctx₁.keyExchange = ctx.keyExchange := (congrArg Context.keyExchange hobserved :)
  obtain ⟨effect, heffect, hproduces⟩ := processEvent_produces env event ctx₁
  rw [hstate] at heffect hproduces
  have hmoved : Context.observed { ctx₁ with state := (move ctx.state event).2 } =
      Context.observed
        { ctx with
          log := acts ++ ctx.log, retryCounter := retry, state := (move ctx.state event).2 } :=
    (congrArg (fun observed : Context ↦ { observed with state := (move ctx.state event).2 })
      hobserved :)
  refine .posted event retry effect hposts hretry heffect ?_ ?_
  · intro hnotHung hnext
    refine processEvent_hung env event (hhung.trans hnotHung) fun haction ↦ ?_
    rw [hstate] at haction
    rcases hgranted with hgranted | ⟨hecho, htransfer⟩
    · rw [hgranted, hexchange]
      exact hnext haction
    · rcases (move_sendNetKeyGet ctx.state event haction).2 with ⟨-, rfl⟩ | ⟨-, rfl⟩
      · exact absurd rfl hecho
      · exact absurd rfl htransfer
  · exact Produces.logged hacts (hproduces.rebase hmoved.symm)

/-- An input is processed as an event in a context that is observed to be the same. -/
theorem turn_event (env : Env) (hposts : Posts ctx input event)
    (hobserved : ctx₁.observed = ctx.observed)
    (hother : event ≠ .echoKexReportRecv ∧ event ≠ .transferEndRecv) :
    Turn ctx input (processEvent env event ctx₁) :=
  @turn_processEvent ctx ctx₁ input event env [] ctx.retryCounter hposts hobserved (by simp)
    (fun _ ↦ rfl) (.inr hother)

theorem turn_ignored (hreport : input.isReport = false) (hobserved : ctx₁.observed = ctx.observed) :
    Turn ctx input ctx₁ :=
  .ignored hreport (produces_nothing hobserved)

end Turn

/-! ### Inputs that are no return -/

theorem sendDone_eq (env : Env) (success : Bool) (ctx : Context) :
    sendDone env success ctx = processEvent env (sendDoneEvent success ctx)
      { ctx with
        retryCounter :=
          if ctx.retryCounter = queueFull then maxRetryCount else ctx.retryCounter } := by
  unfold sendDone sendDoneEvent
  split_ifs
  · rfl
  · rfl
  · rfl
  · rfl

/-- The event of the end of a transfer is one when there is a further key. -/
theorem frameEvent_transferEndRecv {ctx : Context} (hevent : frameEvent ctx = .transferEndRecv) :
    (0 - ctx.keyExchange) &&& ctx.keyGranted ≠ 0 := by
  unfold frameEvent at hevent
  dsimp only at hevent
  simp only [ite_eq_iff, reduceCtorEq, and_false, or_false, false_or, and_true] at hevent
  exact hevent.2.2.2.2.2.2.2.2.2

theorem turn_received (env : Env) (src : Connection) (buf : ℕ → UInt8) (length : ℕ)
    (ctx : Context) : Turn ctx (.received src buf length) (postEvent env src buf length ctx) := by
  have hacts : ∀ act ∈ [Act.received src buf length],
      act.timer = none ∧ act.isTerminal = false ∧ act.isKeyUpdate = false := by
    simp [Act.timer, Act.isTerminal, Act.isKeyUpdate]
  unfold postEvent
  cases haccept : accept src buf length ctx with
  | none => exact turn_ignored rfl rfl
  | some ctx₁ =>
    obtain ⟨hobserved, hgranted⟩ : ctx₁.observed =
        Context.observed { ctx with log := [Act.received src buf length] ++ ctx.log } ∧
          ctx₁.keyGranted = ctx.keyGranted := by
      unfold accept at haccept
      dsimp only at haccept
      generalize (if ctx.state = .awaitingKexGet then src else ctx.peer) = peer at haccept
      split_ifs at haccept
      exact Option.some.inj haccept ▸ ⟨rfl, rfl⟩
    have hexchange : ctx₁.keyExchange = ctx.keyExchange :=
      (congrArg Context.keyExchange hobserved :)
    dsimp only
    unfold postEventInternal
    cases houtcome : outcome env ctx₁ with
    | ignored => exact .ignored rfl (Produces.logged hacts (produces_nothing hobserved))
    | tooShort =>
      exact turn_processEvent env .tooShort hobserved hacts (fun _ ↦ rfl) (.inl hgranted)
    | refused =>
      have hstate : ctx₁.state ≠ .idle := by
        intro hidle
        unfold outcome at houtcome
        simp [hidle] at houtcome
      refine .refused ⟨src, buf, length, rfl⟩ ?_ (Produces.logged hacts ?_)
      · rwa [show ctx₁.state = ctx.state from (congrArg Context.state hobserved :)] at hstate
      · exact (produces_refuse ctx₁ kexFailAuth).rebase hobserved.symm
    | event event =>
      obtain ⟨-, hevent⟩ := outcome_event houtcome
      have hposts : Posts ctx (.received src buf length) event := by
        refine .received (hevent ▸ frameEvent_isReceived ctx₁) fun htransfer ↦ ?_
        rw [htransfer] at hevent
        rw [← hexchange, ← hgranted]
        exact frameEvent_transferEndRecv hevent
      exact turn_processEvent env hposts hobserved hacts (fun _ ↦ rfl) (.inl hgranted)

/-- What an input that is no return does. -/
theorem turn_process (env : Env) (ctx : Context) {input : Input}
    (hret : ∀ success, input ≠ .ret success) : Turn ctx input (process env ctx input) := by
  cases input with
  | includingStart con =>
    unfold process includingStart
    dsimp only
    split_ifs with hidle
    · exact @turn_processEvent ctx _ _ _ env [.includingStarted] ctx.retryCounter
        (.includingStart con)
        rfl (by simp [Act.timer, Act.isTerminal, Act.isKeyUpdate]) (fun _ ↦ rfl) (.inl rfl)
    · exact turn_ignored rfl rfl
  | joiningStart con csa => exact turn_event env (.joiningStart con csa) rfl (by decide)
  | keyGrant accepts keys csa =>
    unfold process keyGrant
    dsimp only
    split_ifs
    · exact turn_event env (.accept rfl) rfl (by decide)
    · exact turn_event env (.reject rfl) rfl (by decide)
  | challengeResponse accepts response =>
    unfold process challengeResponse
    dsimp only
    split_ifs
    · exact turn_event env (.accept rfl) rfl (by decide)
    · exact turn_event env (.reject rfl) rfl (by decide)
  | neighborDiscoveryComplete => exact turn_event env .discoveryComplete rfl (by decide)
  | abort => exact turn_event env (.reject rfl) rfl (by decide)
  | received src buf length => exact turn_received env src buf length ctx
  | decryptionFailure src =>
    unfold process
    dsimp only
    split_ifs
    · exact turn_event env (.decryptionFailure src) rfl (by decide)
    · exact turn_ignored rfl rfl
  | commandsSupportedGet classes => exact turn_ignored rfl rfl
  | timeout =>
    unfold process notifyTimeout
    dsimp only
    split_ifs with hecho
    · exact turn_event env (.echo hecho.1) rfl (by decide)
    · exact turn_event env .timeout rfl (by decide)
  | sendDone success =>
    have hother : sendDoneEvent success ctx ≠ .echoKexReportRecv ∧
        sendDoneEvent success ctx ≠ .transferEndRecv := by
      unfold sendDoneEvent
      split_ifs <;> decide
    have hretry : ctx.retryCounter ≠ queueFull →
        (if ctx.retryCounter = queueFull then maxRetryCount else ctx.retryCounter) =
          ctx.retryCounter := fun hfull ↦ if_neg hfull
    unfold process
    dsimp only
    rw [sendDone_eq]
    exact @turn_processEvent ctx _ _ _ env [] _ (.sendDone success) rfl (by simp) hretry
      (.inr hother)
  | ret success => exact absurd rfl (hret success)

/-! ### Returns -/

/-- What a function does after a function outside has returned. -/
def Frame.rest : Frame → Rest
  | .sendFrame rest | .sendData rest | .handler rest => rest
  | .sendEcho => .setTimeout seconds10

/-- The effect of what follows a return, where it is no event. -/
def Rest.effect : Rest → Effect
  | .done => {}
  | .setTimeout _ => Effect.timed {} true
  | .netKeyReport => (Effect.rekeyed {}).timed true
  | .post _ => {}
  | .pushFailed _ => ended.stopped
  | .sendPubKeyA | .sendKexReport => newFrame (.setTimeout seconds240)

/-- The rest of a function is an event. -/
def Rest.isPost : Rest → Bool
  | .post _ => true
  | _ => false

theorem produces_sendNetKeyReportRest (ctx : Context) :
    Produces Rest.netKeyReport.effect ctx (sendNetKeyReportRest ctx) := by
  have hloaded : Produces (Effect.rekeyed {}) (ctx.note (.setTimeout seconds10))
      (sendNetKeyReportRest ctx) := by
    unfold sendNetKeyReportRest
    dsimp only
    split_ifs
    · exact (produces_nothing rfl).loaded
    · obtain ⟨state, stack, hung, log, -, retry, exchange⟩ :=
        @produces_nothing (ctx.note (.setTimeout seconds10)) _ rfl
      exact ⟨state, stack, hung, log, trivial, retry, exchange⟩
  exact hloaded.note_timer rfl

theorem produces_resume (env : Env) (ctx : Context) {rest : Rest} (hpost : rest.isPost = false) :
    Produces rest.effect ctx (resume env rest ctx) := by
  cases rest with
  | done => exact produces_nothing rfl
  | setTimeout interval => exact Produces.note_timer rfl (produces_nothing rfl)
  | netKeyReport => exact produces_sendNetKeyReportRest ctx
  | post event => cases hpost
  | pushFailed failType => exact produces_inclusionFailedEvtPush ctx failType
  | sendPubKeyA => exact produces_sendNewFrame ctx _ _
  | sendKexReport => exact Produces.rebase (produces_sendNewFrame _ _ _) rfl

/-- The return of a function outside: the rest of its caller. -/
theorem ret_eq (env : Env) (success : Bool) {ctx : Context} {frame : Frame} {stack : List Frame}
    (hstack : ctx.stack = frame :: stack) :
    ∃ retry, ret env success ctx =
      resume env frame.rest { ctx with stack, retryCounter := retry } := by
  unfold ret
  rw [hstack]
  cases frame with
  | sendFrame rest => exact ⟨_, rfl⟩
  | sendData rest => exact ⟨_, rfl⟩
  | sendEcho => exact ⟨ctx.retryCounter, rfl⟩
  | handler rest => exact ⟨ctx.retryCounter, rfl⟩

/-! ### Steps -/

/-- A step has the effect, from a context to which the input was applied. -/
structure Advances (observed : Observed) (input : Input) (effect : Effect) (base : Context)
    (observed' : Observed) : Prop where
  produces : Produces effect base observed'.ctx
  armed : observed'.armed = effect.timer.getD (observed.armed && !input.isTimeout)
  awaiting : observed'.awaiting = observed.awaits input
  fresh : observed'.fresh = effect.call.isSome
  terminals : observed'.terminals =
    (if observed.ctx.state = .idle ∧ observed'.ctx.state ≠ .idle then 0 else observed.terminals) +
      effect.terminal.toNat

/-- What a step can do. -/
inductive Happens (observed : Observed) (input : Input) (observed' : Observed) : Prop
  /-- The input cannot come. -/
  | impossible (hsame : observed' = observed)
  | ignored (hallowed : input.allowed observed = true) (hret : ∀ success, input ≠ .ret success)
      (hreport : input.isReport = false)
      (hadvances : Advances observed input {} observed.ctx observed')
  | refused (hallowed : input.allowed observed = true) (hstack : observed.ctx.stack = [])
      (hstate : observed.ctx.state ≠ .idle)
      (hret : ∀ success, input ≠ .ret success) (hreport : input.isReport = false)
      (hadvances : Advances observed input refusal observed.ctx observed')
  | posted (event : Event) (retry : UInt8) (effect : Effect)
    (hallowed : input.allowed observed = true)
      (hret : ∀ success, input ≠ .ret success) (hposts : Posts observed.ctx input event)
      (hretry : observed.ctx.retryCounter ≠ queueFull → retry = observed.ctx.retryCounter)
      (heffect : effect ∈ effects (move observed.ctx.state event).1)
      (hhung : ((move observed.ctx.state event).1 = .sendNetKeyGet → observed.ctx.keyGranted ≠ 0 →
        advanceKey observed.ctx.keyGranted 9 observed.ctx.keyExchange ≠ none) →
          observed'.ctx.hung = false)
      (hadvances : Advances observed input effect
        { observed.ctx with state := (move observed.ctx.state event).2, retryCounter := retry }
        observed')
  | returned (success : Bool) (frame : Frame) (stack : List Frame) (retry : UInt8)
      (hinput : input = .ret success) (hstack : observed.ctx.stack = frame :: stack)
      (hpost : frame.rest.isPost = false)
      (hadvances : Advances observed input frame.rest.effect
        { observed.ctx with stack, retryCounter := retry } observed')
  | posting (success : Bool) (frame : Frame) (stack : List Frame) (retry : UInt8) (event : Event)
      (effect : Effect) (hinput : input = .ret success)
        (hstack : observed.ctx.stack = frame :: stack)
      (hpost : frame.rest = .post event)
      (heffect : effect ∈ effects (move observed.ctx.state event).1)
      (hadvances : Advances observed input effect
        { observed.ctx with
          stack, retryCounter := retry, state := (move observed.ctx.state event).2 }
        observed')

section Steps

variable {env : Env} {observed : Observed} {input : Input}

/-- What is observed of a step that has an effect. -/
theorem advances_of_produces {effect : Effect} {base : Context}
    (hrun : observed.ctx.hung = false ∧ input.allowed observed = true)
    (hproduces : Produces effect base (step env observed.ctx input))
    (hlog : base.log = observed.ctx.log)
    (hstack : base.stack = input.caller observed.ctx.stack) :
    Advances observed input effect base (observe env observed input) := by
  obtain ⟨acts, hnew, htimer, hterminal⟩ := hproduces.log
  have hacts : newActs observed.ctx (step env observed.ctx input) = acts := by
    rw [newActs, hnew, hlog]
    simp
  have hfresh : decide ((input.caller observed.ctx.stack).length <
      (step env observed.ctx input).stack.length) = effect.call.isSome := by
    rw [hproduces.stack, hstack]
    cases effect.call <;> simp
  unfold observe
  rw [if_pos hrun]
  dsimp only
  rw [hacts, htimer, hterminal, hfresh]
  exact ⟨hproduces, rfl, rfl, rfl, rfl⟩

theorem caller_of_not_ret (hret : ∀ success, input ≠ .ret success) (stack : List Frame) :
    input.caller stack = stack := by
  cases input with
  | ret success => exact absurd rfl (hret success)
  | _ => rfl

/-- A frame is only received from the main loop. -/
theorem stack_of_received {src : Connection} {buf : ℕ → UInt8} {length : ℕ}
    (hallowed : Input.allowed (.received src buf length) observed = true) :
    observed.ctx.stack = [] := by
  unfold Input.allowed at hallowed
  cases hstack : observed.ctx.stack with
  | nil => rfl
  | cons frame stack =>
    rw [hstack] at hallowed
    cases frame <;> cases hallowed

/-- An event that is made of a frame comes from the main loop. -/
theorem Posts.stack_of_isReceived {event : Event} (hposts : Posts observed.ctx input event)
    (hallowed : input.allowed observed = true) (hevent : event.isReceived = true) :
    observed.ctx.stack = [] := by
  cases hposts with
  | received _ _ => exact stack_of_received hallowed
  | sendDone success =>
    unfold sendDoneEvent at hevent
    split_ifs at hevent <;> cases hevent
  | _ => cases hevent

/-- What a step can do. -/
theorem observe_happens (env : Env) (observed : Observed) (input : Input) :
    Happens observed input (observe env observed input) := by
  by_cases hrun : observed.ctx.hung = false ∧ input.allowed observed = true
  swap
  · exact .impossible (if_neg hrun)
  have hpossible : input.possible observed.ctx.stack = true := by
    have hallowed := hrun.2
    unfold Input.allowed at hallowed
    exact (Bool.and_eq_true _ _ ▸ hallowed).1
  have hstep : step env observed.ctx input = process env observed.ctx input :=
    if_pos ⟨hrun.1, hpossible⟩
  by_cases hret : ∀ success, input ≠ .ret success
  · have hcaller := caller_of_not_ret hret observed.ctx.stack
    have hturn := turn_process env observed.ctx hret
    rw [← hstep] at hturn
    obtain ⟨hreport, hproduces⟩ | ⟨⟨src, buf, length, rfl⟩, hstate, hproduces⟩ |
      ⟨event, retry, effect, hposts, hretry, heffect, hhung, hproduces⟩ := hturn
    · exact .ignored hrun.2 hret hreport (advances_of_produces hrun hproduces rfl hcaller.symm)
    · exact .refused hrun.2 (stack_of_received hrun.2) hstate hret rfl
        (advances_of_produces hrun hproduces rfl hcaller.symm)
    · have hadvances := advances_of_produces hrun hproduces rfl hcaller.symm
      refine .posted event retry effect hrun.2 hret hposts hretry heffect (fun hnext ↦ ?_) hadvances
      unfold observe
      rw [if_pos hrun]
      exact hhung hrun.1 hnext
  · push Not at hret
    obtain ⟨success, rfl⟩ := hret
    cases hstack : observed.ctx.stack with
    | nil =>
      rw [hstack] at hpossible
      cases hpossible
    | cons frame stack =>
      have hcaller : stack = Input.caller (.ret success) observed.ctx.stack := by
        rw [hstack]
        rfl
      obtain ⟨retry, hresume⟩ := ret_eq env success hstack
      have hresumed : step env observed.ctx (.ret success) =
          resume env frame.rest { observed.ctx with stack, retryCounter := retry } :=
        hstep.trans hresume
      by_cases hpost : frame.rest.isPost = false
      · have hproduces :=
          produces_resume env { observed.ctx with stack, retryCounter := retry } hpost
        rw [← hresumed] at hproduces
        exact .returned success frame stack retry rfl hstack hpost
          (advances_of_produces hrun hproduces rfl hcaller)
      · obtain ⟨event, hevent⟩ : ∃ event, frame.rest = .post event := by
          cases hrest : frame.rest with
          | post event => exact ⟨event, rfl⟩
          | _ => exact absurd (by rw [hrest]; rfl) hpost
        rw [hevent] at hresumed
        obtain ⟨effect, heffect, hproduces⟩ := processEvent_produces env event
          { observed.ctx with stack, retryCounter := retry }
        rw [show processEvent env event { observed.ctx with stack, retryCounter := retry } =
          step env observed.ctx (.ret success) from hresumed.symm] at hproduces
        exact .posting success frame stack retry event effect rfl hstack hevent heffect
          (advances_of_produces hrun hproduces rfl hcaller)

end Steps

/-! ### The calls that are made -/

/-- The calls of functions outside that the machine makes. -/
def Frame.proper : Frame → Bool
  | .sendFrame .done | .sendFrame (.setTimeout _) | .sendFrame (.pushFailed _)
  | .sendFrame (.post .inclusionErrorSent) | .sendFrame (.post .inclusionError) => true
  | .sendData .done | .sendData (.setTimeout _) | .sendData .netKeyReport => true
  | .sendEcho => true
  | .handler .done | .handler (.setTimeout _) | .handler .sendPubKeyA | .handler .sendKexReport =>
    true
  | _ => false

/-- All running calls are calls that the machine makes. -/
def Proper (observed : Observed) : Prop :=
  ∀ frame ∈ observed.ctx.stack, frame.proper = true

theorem effects_proper : ∀ (action : Action), ∀ effect ∈ effects action,
    effect.call.all Frame.proper = true := by
  intro action
  cases action <;> decide

theorem restEffect_proper (rest : Rest) : rest.effect.call.all Frame.proper = true := by
  cases rest <;> rfl

/-- An event that follows a return is one of two. -/
theorem event_of_proper {frame : Frame} {event : Event} (hproper : frame.proper = true)
    (hpost : frame.rest = .post event) :
    frame = .sendFrame (.post event) ∧ (event = .inclusionErrorSent ∨ event = .inclusionError) := by
  cases frame with
  | sendEcho => cases hpost
  | sendFrame rest =>
    obtain rfl : rest = .post event := hpost
    refine ⟨rfl, ?_⟩
    cases event <;> first | exact .inl rfl | exact .inr rfl | cases hproper
  | sendData rest =>
    obtain rfl : rest = .post event := hpost
    cases hproper
  | handler rest =>
    obtain rfl : rest = .post event := hpost
    cases hproper

section Steps

variable {observed observed' : Observed} {input : Input}

theorem Advances.proper {effect : Effect} {base : Context}
    (hadvances : Advances observed input effect base observed')
    (hcall : effect.call.all Frame.proper = true)
    (hbase : ∀ frame ∈ base.stack, frame.proper = true) : Proper observed' := by
  intro frame hframe
  rw [hadvances.produces.stack, List.mem_append] at hframe
  rcases hframe with hnew | hold
  · exact (Option.all_eq_true _ _).mp hcall frame (Option.mem_toList.mp hnew)
  · exact hbase frame hold

/-- The machine only makes such calls. -/
theorem Happens.proper (hhappens : Happens observed input observed') (hproper : Proper observed) :
    Proper observed' := by
  cases hhappens with
  | impossible hsame => exact hsame ▸ hproper
  | ignored _ _ _ hadvances => exact hadvances.proper rfl hproper
  | refused _ _ _ _ _ hadvances => exact hadvances.proper rfl hproper
  | posted event _ effect _ _ _ _ heffect _ hadvances =>
    exact hadvances.proper (effects_proper _ effect heffect) hproper
  | returned _ frame stack _ _ hstack _ hadvances =>
    refine hadvances.proper (restEffect_proper _) fun other hother ↦ hproper other ?_
    exact hstack ▸ List.mem_cons_of_mem _ hother
  | posting _ frame stack _ event effect _ hstack _ heffect hadvances =>
    refine hadvances.proper (effects_proper _ effect heffect) fun other hother ↦ hproper other ?_
    exact hstack ▸ List.mem_cons_of_mem _ hother

/-- Another input than a return, while a function outside is running: a call of the event handler,
or the failure that `S2_send_data` reports. -/
theorem allowed_running {frame : Frame} {stack : List Frame}
    (hallowed : input.allowed observed = true) (hret : ∀ success, input ≠ .ret success)
    (hstack : observed.ctx.stack = frame :: stack) :
    (∃ rest, frame = .handler rest) ∧ input.isUserCall = true ∨
      ((∃ rest, frame = .sendData rest) ∨ frame = .sendEcho) ∧ input = .sendDone false ∧
        observed.fresh = true := by
  unfold Input.allowed at hallowed
  rw [hstack] at hallowed
  obtain ⟨hpossible, hreport⟩ := (Bool.and_eq_true _ _).mp hallowed
  have hfirst : ∀ success, input = .sendDone success →
      input = .sendDone false ∧ observed.fresh = true := by
    rintro success rfl
    obtain ⟨hfresh, hfailed⟩ := (Bool.and_eq_true _ _).mp hreport
    simp only [Bool.not_eq_true'] at hfailed
    exact ⟨hfailed ▸ rfl, hfresh⟩
  cases frame with
  | sendFrame rest => cases input <;> first | exact absurd rfl (hret _) | cases hpossible
  | handler rest =>
    refine .inl ⟨⟨rest, rfl⟩, ?_⟩
    cases input <;> first | exact absurd rfl (hret _) | exact hpossible
  | sendData rest =>
    obtain ⟨success, hinput⟩ : ∃ success, input = .sendDone success := by
      cases input <;> first | exact ⟨_, rfl⟩ | exact absurd rfl (hret _) | cases hpossible
    exact .inr ⟨.inl ⟨rest, rfl⟩, hfirst success hinput⟩
  | sendEcho =>
    obtain ⟨success, hinput⟩ : ∃ success, input = .sendDone success := by
      cases input <;> first | exact ⟨_, rfl⟩ | exact absurd rfl (hret _) | cases hpossible
    exact .inr ⟨.inr rfl, hfirst success hinput⟩

end Steps

end ZipGateway.Inclusion
