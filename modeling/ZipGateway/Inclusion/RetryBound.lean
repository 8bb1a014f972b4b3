import ZipGateway.Inclusion.HandOvers
import ZipGateway.Inclusion.Progress

/-!
# How often a frame is sent

`Tally` counts how often the last frame was handed to the send layer since it was built or refused,
beside what is observed of the run. A frame may be handed over `MAX_RETRY_COUNT` times, and the echo
of a `KEX_SET` frame as often as the timeout fits into the time for the user. A frame that is
refused is tried again from the beginning, when the transmission that stood in its way has ended.

The counter is decremented when `S2_send_data` returns. A failure that `S2_send_data` reports before
it returns leads to the next call within the call, where the counter has still its old value. So the
calls that have not returned have to be taken off the counter (`Spared`): otherwise the calls nest
without end.
-/

set_option autoImplicit false

namespace ZipGateway.Inclusion

open Lib List SecurityS2

/-! ### The tally of a run -/

/-- The call decides about the counter when it returns. -/
def Frame.hands : Frame → Bool
  | .sendFrame _ | .sendData _ => true
  | _ => false

/-- What is observed of a run, and how often the last frame was handed over. -/
structure Tally where
  observed : Observed
  /-- How often the last frame was handed over since it was built or refused. -/
  attempts : ℕ
  /-- How often it may be. -/
  limit : ℕ
  /-- The counter was decremented when it was zero. -/
  wrapped : Bool

/-- The calls that will decide about the counter. -/
def Tally.calls (tally : Tally) : ℕ := tally.observed.ctx.stack.countP Frame.hands

/-- The number of attempts after a frame was handed over. -/
def HandOver.attempts (attempts : ℕ) : HandOver → ℕ
  | .first | .echo => 1
  | .again => attempts + 1

def HandOver.limit (limit : ℕ) : HandOver → ℕ
  | .first => maxRetryCount.toNat
  | .echo => echoRetryCount.toNat
  | .again => limit

/-- The send layer refuses the frame. -/
def Input.refuses (input : Input) (stack : List Frame) : Bool :=
  match stack, input with
  | frame :: _, .ret false => frame.hands
  | _, _ => false

/-- The input comes. `S2_send_data` is idle while it reports a failure, and does not refuse a frame
then. -/
def Tally.takes (tally : Tally) (input : Input) : Bool :=
  !tally.observed.ctx.hung && input.allowed tally.observed &&
    !(input.refuses tally.observed.ctx.stack && decide (1 < tally.calls))

/-- The frames that are handed over between two contexts, the last one first. -/
def handedOver (before after : Context) :
    List HandOver := (newActs before after).filterMap Act.handOver

def tallyStep (env : Env) (tally : Tally) (input : Input) : Tally :=
  if tally.takes input then
    let before := tally.observed.ctx
    let observed := observe env tally.observed input
    let refused := input.refuses before.stack
    let handed := handedOver before observed.ctx
    { observed
      attempts := handed.foldr (fun handOver n ↦ handOver.attempts n)
        (if refused then 0 else tally.attempts)
      limit := handed.foldr (fun handOver n ↦ handOver.limit n)
        (if refused then maxRetryCount.toNat else tally.limit)
      wrapped := tally.wrapped ||
        (before.retryCounter == 0 && observed.ctx.retryCounter == 0xFF && !refused) }
  else tally

/-- The tally when the gateway starts: the counter is zero, and no frame was built. -/
def startTally (ctx : Context) : Tally where
  observed := initialized { ctx with retryCounter := 0 }
  attempts := 0
  limit := 0
  wrapped := false

/-- The last frame was not handed over too often, the calls are not nested deeper than that, and the
counter did not wrap. -/
def Bounded (tally : Tally) : Prop :=
  tally.attempts ≤ tally.limit ∧ tally.calls ≤ tally.limit ∧ tally.wrapped = false

/-- When a failure is reported from inside `S2_send_data`, the counter is larger than the number of
calls in progress. -/
def Spared (tally : Tally) (input : Input) : Prop :=
  tally.takes input = true → input = .sendDone false → tally.observed.ctx.stack.head?.any
    Frame.sends = true → tally.calls < tally.observed.ctx.retryCounter.toNat

/-! ### What a step does with the send layer -/

/-- What an input that is no return does: nothing, a refusal, or a deed of an event. -/
inductive Serves (ctx : Context) (input : Input) (ctx' : Context) : Prop
  | ignored (hstate : ctx'.state = ctx.state) (hdoes : Does .nothing ctx ctx')
  | refused (rest : Rest) (hreceived : ∃ src buf length, input = .received src buf length)
      (hdoes : Does (.firstFrame rest) ctx ctx')
  | posted (event : Event) (retry : UInt8) (deed : Deed)
      (hallows : (move ctx.state event).1.allows deed)
      (hrow : ∀ frame, ctx'.stack = frame :: ctx.stack → frame.sends = true →
        move ctx'.state .inclusionRetry = (.resendData, ctx'.state))
      (hretry : retry = ctx.retryCounter ∨ ctx.retryCounter = queueFull ∧ retry = maxRetryCount)
      (hcounted : event = .inclusionRetry → retry ≠ noRetries ∧ retry ≠ queueFull)
      (hsendDone : ∀ success, input = .sendDone success → event = sendDoneEvent success ctx)
      (hdoes : Does deed { ctx with retryCounter := retry } ctx')

/-- A state in which a frame was given to `S2_send_data` tries again with `S2_send_data`. -/
theorem resends_of_sends :
    ∀ (state : IncState) (event : Event), ∀ effect ∈ effects (move state event).1,
    effect.call.any Frame.sends = true →
      move (effect.newState.getD (move state event).2) .inclusionRetry =
        (.resendData, effect.newState.getD (move state event).2) := by
  simp only [move_eq_moveAmong]
  decide +kernel

/-- Only a retry hands a frame over again. -/
theorem retry_of_again : ∀ (state : IncState) (event : Event) (deed : Deed), deed.isAgain = true →
    (move state event).1.allows deed → event = .inclusionRetry := by
  have hmoves : ∀ (state : IncState) (event : Event), event ≠ .inclusionRetry →
      (move state event).1 ≠ .resendFrame ∧ (move state event).1 ≠ .resendData ∧
        (move state event).1 ≠ .sendEchoKexSet := by
    simp only [move_eq_moveAmong]
    decide +kernel
  intro state event deed hagain hallows
  by_contra hother
  obtain ⟨hframe, hdata, hecho⟩ := hmoves state event hother
  cases haction : (move state event).1 with
  | resendFrame => exact hframe haction
  | resendData => exact hdata haction
  | sendEchoKexSet => exact hecho haction
  | _ =>
    rw [haction] at hallows
    exact Bool.false_ne_true (hallows.symm.trans hagain)

section Serves

variable {ctx ctx₁ : Context} {input : Input} {event : Event}

/-- After a frame was given to `S2_send_data`, the state tries again with `S2_send_data`. -/
theorem processEvent_resends (env : Env) (event : Event) {frame : Frame}
    (hstack : (processEvent env event ctx).stack = frame :: ctx.stack)
    (hsends : frame.sends = true) :
    move (processEvent env event ctx).state .inclusionRetry =
      (.resendData, (processEvent env event ctx).state) := by
  obtain ⟨effect, heffect, hproduces⟩ := processEvent_produces env event ctx
  have hcall : effect.call = some frame := by
    have hpushed := hproduces.stack.symm.trans hstack
    cases hcall : effect.call with
    | none =>
      rw [hcall] at hpushed
      exact absurd hpushed (cons_ne_self frame ctx.stack).symm
    | some other =>
      rw [hcall] at hpushed
      exact congrArg some (List.cons.inj hpushed).1
  rw [hproduces.state]
  exact resends_of_sends ctx.state event effect heffect (by rw [hcall]; exact hsends)

/-- An input is processed as an event, after nothing that concerns the send layer. -/
theorem serves_event (env : Env) {acts : List Act} (hstate : ctx₁.state = ctx.state)
    (hstack : ctx₁.stack = ctx.stack) (hlog : ctx₁.log = acts ++ ctx.log)
    (hacts : acts.filterMap Act.handOver = [])
    (hretry : ctx₁.retryCounter = ctx.retryCounter ∨
      ctx.retryCounter = queueFull ∧ ctx₁.retryCounter = maxRetryCount)
    (hcounted : event = .inclusionRetry → ctx₁.retryCounter ≠ noRetries ∧
      ctx₁.retryCounter ≠ queueFull)
    (hsendDone : ∀ success, input = .sendDone success → event = sendDoneEvent success ctx) :
    Serves ctx input (processEvent env event ctx₁) := by
  obtain ⟨deed, hallows, hdoes⟩ := does_processEvent ctx₁ env event
  refine .posted event ctx₁.retryCounter deed (hstate ▸ hallows)
    (fun frame hframe hsends ↦ ?_) hretry hcounted hsendDone ?_
  · exact processEvent_resends env event (hstack ▸ hframe) hsends
  · exact @Does.prepared deed { ctx with retryCounter := ctx₁.retryCounter } ctx₁ _ hdoes acts
      hstack hlog hacts rfl

/-- An input is processed as another event than a retry, in a context whose stack, log and counter
are the same. -/
theorem serves_other (env : Env) (hstate : ctx₁.state = ctx.state) (hstack : ctx₁.stack = ctx.stack)
    (hlog : ctx₁.log = ctx.log) (hretry : ctx₁.retryCounter = ctx.retryCounter)
    (hother : event ≠ .inclusionRetry)
    (hinput : ∀ success, input ≠ .sendDone success) :
    Serves ctx input (processEvent env event ctx₁) :=
  @serves_event ctx ctx₁ input event env [] hstate hstack hlog rfl (.inl hretry)
    (fun hevent ↦ absurd hevent hother) fun success hsendDone ↦ absurd hsendDone (hinput success)

theorem serves_received (env : Env) (src : Connection) (buf : ℕ → UInt8) (length : ℕ)
    (ctx : Context) : Serves ctx (.received src buf length) (postEvent env src buf length ctx) := by
  unfold postEvent
  cases haccept : accept src buf length ctx with
  | none => exact .ignored rfl (does_nothing rfl rfl rfl)
  | some ctx₁ =>
    obtain ⟨hstate, hstack, hlog, hretry⟩ : ctx₁.state = ctx.state ∧ ctx₁.stack = ctx.stack ∧
        ctx₁.log = [Act.received src buf length] ++ ctx.log ∧
          ctx₁.retryCounter = ctx.retryCounter := by
      unfold accept at haccept
      dsimp only at haccept
      generalize (if ctx.state = .awaitingKexGet then src else ctx.peer) = peer at haccept
      split_ifs at haccept
      exact Option.some.inj haccept ▸ ⟨rfl, rfl, rfl, rfl⟩
    have hreceived : [Act.received src buf length].filterMap Act.handOver = [] := rfl
    have hevent : ∀ event, event ≠ .inclusionRetry →
        Serves ctx (.received src buf length) (processEvent env event ctx₁) := fun event hother ↦
      serves_event env hstate hstack hlog hreceived (.inl hretry)
        (fun hevent ↦ absurd hevent hother) nofun
    dsimp only
    unfold postEventInternal
    cases houtcome : outcome env ctx₁ with
    | ignored =>
      exact .ignored hstate ((does_nothing rfl rfl rfl).prepared hstack hlog hreceived hretry)
    | tooShort => exact hevent .inclusionError (by decide)
    | refused =>
      exact .refused _ ⟨src, buf, length, rfl⟩
        ((does_refuse ctx₁ kexFailAuth).prepared hstack hlog hreceived hretry)
    | event event =>
      obtain ⟨-, hframe⟩ := outcome_event houtcome
      refine hevent event fun hretryEvent ↦ ?_
      have hmade := frameEvent_isReceived ctx₁
      rw [hframe, hretryEvent] at hmade
      cases hmade

/-- What an input that is no return does with the send layer. -/
theorem serves_process (env : Env) (ctx : Context) {input : Input}
    (hret : ∀ success, input ≠ .ret success) : Serves ctx input (process env ctx input) := by
  cases input with
  | includingStart con =>
    unfold process includingStart
    dsimp only
    split_ifs
    · exact @serves_event ctx _ _ _ env [.includingStarted] rfl rfl rfl rfl (.inl rfl) nofun nofun
    · exact .ignored rfl (does_nothing rfl rfl rfl)
  | joiningStart con csa => exact serves_other env rfl rfl rfl rfl (by decide) nofun
  | keyGrant accepts keys csa =>
    unfold process keyGrant
    dsimp only
    split_ifs
    · exact serves_other env rfl rfl rfl rfl (by decide) nofun
    · exact serves_other env rfl rfl rfl rfl (by decide) nofun
  | challengeResponse accepts response =>
    unfold process challengeResponse
    dsimp only
    split_ifs
    · exact serves_other env rfl rfl rfl rfl (by decide) nofun
    · exact serves_other env rfl rfl rfl rfl (by decide) nofun
  | neighborDiscoveryComplete => exact serves_other env rfl rfl rfl rfl (by decide) nofun
  | abort => exact serves_other env rfl rfl rfl rfl (by decide) nofun
  | received src buf length => exact serves_received env src buf length ctx
  | decryptionFailure src =>
    unfold process
    dsimp only
    split_ifs
    · exact serves_other env rfl rfl rfl rfl (by decide) nofun
    · exact .ignored rfl (does_nothing rfl rfl rfl)
  | commandsSupportedGet classes => exact .ignored rfl (does_nothing rfl rfl rfl)
  | timeout =>
    unfold process notifyTimeout
    dsimp only
    split_ifs with hecho
    · exact @serves_event ctx ctx _ _ env [] rfl rfl rfl rfl (.inl rfl) (fun _ ↦ hecho.2) nofun
    · exact serves_other env rfl rfl rfl rfl (by decide) nofun
  | sendDone success =>
    unfold process
    dsimp only
    rw [sendDone_eq]
    refine @serves_event ctx _ _ _ env
      [] rfl rfl rfl rfl ?_ ?_ fun other hother ↦ by cases hother; rfl
    · split_ifs with hfull
      · exact .inr ⟨hfull, rfl⟩
      · exact .inl rfl
    · intro hevent
      unfold sendDoneEvent at hevent
      split_ifs at hevent with hfull hsuccess hretry
      · rw [if_pos hfull]
        exact ⟨(by decide : maxRetryCount ≠ noRetries), (by decide : maxRetryCount ≠ queueFull)⟩
      · rw [if_neg hfull]
        exact ⟨hretry.1, hfull⟩
  | ret success => exact absurd rfl (hret success)

/-- What follows a return does this, where it is no event. -/
def Rest.deed : Rest → Deed
  | .pushFailed _ => .told .done
  | .sendPubKeyA | .sendKexReport => .firstFrame (.setTimeout seconds240)
  | _ => .nothing

theorem does_resume (env : Env) (ctx : Context) {rest : Rest} (hpost : rest.isPost = false) :
    Does rest.deed ctx (resume env rest ctx) := by
  cases rest with
  | done => exact does_nothing rfl rfl rfl
  | setTimeout interval => exact does_of_quiet (quiet_note ctx rfl)
  | netKeyReport => exact does_of_quiet (quiet_sendNetKeyReportRest ctx)
  | post event => cases hpost
  | pushFailed failType => exact does_inclusionFailedEvtPush ctx failType
  | sendPubKeyA => exact does_sendNewFrame ctx _ _
  | sendKexReport =>
    exact (does_sendNewFrame { ctx with csaSupport := kexSetFlags ctx.mode } _ _).rebase rfl rfl rfl

/-- The counter after a function outside has returned. -/
def Frame.counter (success : Bool) (counter : UInt8) (frame : Frame) : UInt8 :=
  if frame.hands then (if success then counter - 1 else queueFull) else counter

theorem ret_counter (env : Env) (success : Bool) {frame : Frame} {stack : List Frame}
    (hstack : ctx.stack = frame :: stack) :
    ret env success ctx =
      resume env frame.rest
        { ctx with stack, retryCounter := frame.counter success ctx.retryCounter } := by
  unfold ret
  rw [hstack]
  cases frame <;> rfl

/-- What a return does with the send layer. -/
theorem does_ret (env : Env) (success : Bool) {frame : Frame} {stack : List Frame}
    (hstack : ctx.stack = frame :: stack) (hproper : frame.proper = true) :
    ∃ deed, deed.isAgain = false ∧
      Does deed { ctx with stack, retryCounter := frame.counter success ctx.retryCounter }
        (ret env success ctx) ∧
      (∀ next, (ret env success ctx).stack = next :: stack → next.sends = true →
        move (ret env success ctx).state .inclusionRetry =
          (.resendData, (ret env success ctx).state)) ∧
      (frame.sends = true → deed = .nothing ∧ (ret env success ctx).state = ctx.state) := by
  rw [ret_counter env success hstack]
  cases hpost : frame.rest.isPost with
  | false =>
    have hdoes := does_resume env
      { ctx with stack, retryCounter := frame.counter success ctx.retryCounter } hpost
    refine ⟨frame.rest.deed, ?_, hdoes, fun next hnext hsends ↦ ?_, fun hsends ↦ ⟨?_, ?_⟩⟩
    · cases frame.rest <;> rfl
    · have hpushed := hdoes.stack.symm.trans hnext
      cases hrest : frame.rest <;> rw [hrest] at hpushed
      all_goals first | exact absurd hpushed (cons_ne_self next stack).symm | skip
      all_goals
        obtain rfl := (List.cons.inj hpushed).1
        cases hsends
    · cases frame with
      | sendData rest => cases rest <;> first | rfl | cases hproper
      | _ => cases hsends
    · have hproduces := produces_resume env
        { ctx with stack, retryCounter := frame.counter success ctx.retryCounter } hpost
      rw [hproduces.state, (Rest.effect_kept frame.rest).1]
      rfl
  | true =>
    obtain ⟨event, hevent⟩ : ∃ event, frame.rest = .post event := by
      cases hrest : frame.rest with
      | post event => exact ⟨event, rfl⟩
      | _ =>
        rw [hrest] at hpost
        cases hpost
    have hother : event ≠ .inclusionRetry := by
      rcases (event_of_proper hproper hevent).2 with rfl | rfl <;> decide
    rw [hevent]
    obtain ⟨deed, hallows, hdoes⟩ := does_processEvent
      { ctx with stack, retryCounter := frame.counter success ctx.retryCounter } env event
    refine ⟨deed, ?_, hdoes, fun next hnext hsends ↦ processEvent_resends env event hnext hsends,
      fun hsends ↦ ?_⟩
    · exact Bool.eq_false_iff.mpr fun hagain ↦ hother (retry_of_again _ event deed hagain hallows)
    · rw [(event_of_proper hproper hevent).1] at hsends
      cases hsends

end Serves

/-! ### What every step keeps -/

/-- Only calls of `S2_send_data` are nested: below any other call there is none that decides about
the counter. -/
def Nests : List Frame → Prop
  | [] => True
  | .sendData _ :: stack => Nests stack
  | _ :: stack => stack.countP Frame.hands = 0

/-- The attempts and the counter make up the limit, where the calls in progress are not taken off
the counter yet; or the last frame was refused. -/
def Counts (attempts limit : ℕ) (counter : UInt8) (calls : ℕ) : Prop :=
  attempts + counter.toNat = limit + calls ∧ calls ≤ counter.toNat ∧ calls ≤ attempts ∧
      limit ≤ echoRetryCount.toNat ∨
    counter = queueFull ∧ attempts = 0 ∧ limit = maxRetryCount.toNat ∧ calls = 0

/-- What every step keeps that is spared. -/
structure Kept (tally : Tally) : Prop where
  proper : Proper tally.observed
  nests : Nests tally.observed.ctx.stack
  counts : Counts tally.attempts tally.limit tally.observed.ctx.retryCounter tally.calls
  resends : tally.observed.ctx.stack.any Frame.sends = true →
    move tally.observed.ctx.state .inclusionRetry = (.resendData, tally.observed.ctx.state)
  wrapped : tally.wrapped = false

/-- A frame of `S2_send_data` decides about the counter. -/
theorem hands_of_sends {frame : Frame} (hsends : frame.sends = true) : frame.hands = true := by
  cases frame <;> first | rfl | cases hsends

theorem sends_of_countP {stack : List Frame} (hcalls : stack.countP Frame.hands = 0) :
    stack.any Frame.sends = false := by
  refine any_eq_false.mpr fun frame hframe hsends ↦ ?_
  exact countP_eq_zero.mp hcalls frame hframe (hands_of_sends hsends)

theorem nests_of_countP {stack : List Frame} (hcalls : stack.countP Frame.hands = 0) :
    Nests stack := by
  cases stack with
  | nil => trivial
  | cons frame stack =>
    rw [countP_cons] at hcalls
    cases frame with
    | sendData rest => simp [Frame.hands] at hcalls
    | _ => exact (Nat.add_eq_zero_iff.mp hcalls).1

theorem Nests.tail {frame : Frame} {stack : List Frame} (hnests : Nests (frame :: stack)) :
    Nests stack := by
  cases frame with
  | sendData rest => exact hnests
  | _ => exact nests_of_countP hnests

/-- Below another call there is none that decides about the counter. -/
theorem Nests.countP_tail {frame : Frame} {stack : List Frame} (hnests : Nests (frame :: stack))
    (hsends : frame.sends = false) : stack.countP Frame.hands = 0 := by
  cases frame with
  | sendData rest => cases hsends
  | _ => exact hnests

/-- The calls stay nested when one is made that may be. -/
theorem nests_call {stack : List Frame} {deed : Deed} (hnests : Nests stack)
    (hroom : deed ≠ .nothing → deed ≠ .againData → stack.countP Frame.hands = 0) :
    Nests (deed.call.toList ++ stack) := by
  cases deed with
  | nothing => exact hnests
  | againData => exact hnests
  | firstData rest => exact hnests
  | told rest => exact hroom nofun nofun
  | firstFrame rest => exact hroom nofun nofun
  | againFrame => exact hroom nofun nofun
  | echo => exact hroom nofun nofun
  | echoAgain => exact hroom nofun nofun

/-- The numbers after a deed. -/
theorem Counts.deed {attempts limit calls : ℕ} {counter : UInt8} {deed : Deed}
    (hcounts : Counts attempts limit counter calls)
    (hroom : deed ≠ .nothing → deed ≠ .againData → calls = 0)
    (hagain : deed.isAgain = true → calls < counter.toNat ∧ counter ≠ queueFull) :
    Counts (deed.handOver.toList.foldr (fun handOver n ↦ handOver.attempts n) attempts)
      (deed.handOver.toList.foldr (fun handOver n ↦ handOver.limit n) limit) (deed.retry counter)
      (deed.call.toList.countP Frame.hands + calls) := by
  cases deed with
  | nothing => simpa [Deed.handOver, Deed.retry, Deed.call] using hcounts
  | told rest => simpa [Deed.handOver, Deed.retry, Deed.call, Frame.hands] using hcounts
  | firstFrame rest =>
    obtain rfl := hroom nofun nofun
    have hfirst : 1 + 3 = 3 + 1 ∧ 1 ≤ 3 ∧ 1 ≤ 1 ∧ 3 ≤ 24 := by decide
    exact .inl hfirst
  | firstData rest =>
    obtain rfl := hroom nofun nofun
    have hfirst : 1 + 3 = 3 + 1 ∧ 1 ≤ 3 ∧ 1 ≤ 1 ∧ 3 ≤ 24 := by decide
    exact .inl hfirst
  | echo =>
    obtain rfl := hroom nofun nofun
    have hfirst : 1 + 23 = 24 + 0 ∧ 0 ≤ 23 ∧ 0 ≤ 1 ∧ 24 ≤ 24 := by decide
    exact .inl hfirst
  | echoAgain =>
    obtain rfl := hroom nofun nofun
    obtain ⟨hless, hfull⟩ := hagain rfl
    obtain ⟨hsum, -, -, hlimit⟩ := hcounts.resolve_right fun hrefused ↦ hfull hrefused.1
    have hone : (counter - 1).toNat = counter.toNat - 1 :=
      UInt8.toNat_sub_of_le _ _ (UInt8.le_iff_toNat_le.mpr hless)
    have hnext : attempts + 1 + (counter - 1).toNat = limit + (0 + 0) ∧
        0 + 0 ≤ (counter - 1).toNat ∧ 0 + 0 ≤ attempts + 1 ∧ limit ≤ echoRetryCount.toNat := by
      omega
    exact .inl hnext
  | _ =>
    obtain ⟨hless, hfull⟩ := hagain rfl
    obtain ⟨hsum, hcalls, hattempts, hlimit⟩ :=
      hcounts.resolve_right fun hrefused ↦ hfull hrefused.1
    have hnext : attempts + 1 + counter.toNat = limit + (1 + calls) ∧ 1 + calls ≤ counter.toNat ∧
        1 + calls ≤ attempts + 1 ∧ limit ≤ echoRetryCount.toNat := by
      omega
    exact .inl hnext

/-- A frame that was handed over has not the mark of a refusal as its counter. -/
theorem Counts.counter_ne {attempts limit calls : ℕ} {counter : UInt8}
    (hcounts : Counts attempts limit counter calls)
    (hattempts : attempts ≠ 0) : counter ≠ queueFull := by
  rintro rfl
  rcases hcounts with ⟨hsum, hcalls, hdone, hlimit⟩ | ⟨-, hnone, -⟩
  · have hfull : queueFull.toNat = 255 := rfl
    have hecho : echoRetryCount.toNat = 24 := rfl
    omega
  · exact hattempts hnone

section Steps

variable {env : Env} {tally : Tally} {input : Input}

/-- The frames that were handed over are those of the deed. -/
theorem handedOver_of_does {deed : Deed} {before base after : Context}
    (hdoes : Does deed base after)
    (hlog : base.log = before.log) : handedOver before after = deed.handOver.toList := by
  obtain ⟨acts, hacts, hhanded⟩ := hdoes.log
  rw [handedOver, newActs, hacts, hlog]
  simpa using hhanded

/-- A step with a deed keeps everything, when there is room for the deed. -/
theorem Kept.advance (hkept : Kept tally) (htakes : tally.takes input = true) {stack : List Frame}
    {retry : UInt8} {deed : Deed}
    (hdoes : Does deed { tally.observed.ctx with stack, retryCounter := retry }
      (observe env tally.observed input).ctx)
    (hnests : Nests stack)
    (hcounts : Counts (if input.refuses tally.observed.ctx.stack then 0 else tally.attempts)
      (if input.refuses tally.observed.ctx.stack then maxRetryCount.toNat else tally.limit) retry
      (stack.countP Frame.hands))
    (hroom : deed ≠ .nothing → deed ≠ .againData → stack.countP Frame.hands = 0)
    (hagain : deed.isAgain = true → stack.countP Frame.hands < retry.toNat ∧ retry ≠ queueFull)
    (hwrap : retry = queueFull → tally.observed.ctx.retryCounter = 0 →
      input.refuses tally.observed.ctx.stack = true)
    (hresends : (observe env tally.observed input).ctx.stack.any Frame.sends = true →
      move (observe env tally.observed input).ctx.state .inclusionRetry =
        (.resendData, (observe env tally.observed input).ctx.state)) :
    Kept (tallyStep env tally input) := by
  have hstack : (observe env tally.observed input).ctx.stack = deed.call.toList ++ stack :=
    hdoes.stack
  have hafter := hcounts.deed hroom hagain
  rw [← countP_append, ← hstack, ← hdoes.retry] at hafter
  unfold tallyStep
  rw [if_pos htakes]
  dsimp only
  rw [@handedOver_of_does deed tally.observed.ctx _ _ hdoes rfl]
  refine ⟨(observe_happens env tally.observed input).proper hkept.proper, ?_, hafter, hresends, ?_⟩
  · rw [hstack]
    exact nests_call hnests hroom
  · rw [hkept.wrapped, Bool.false_or, Bool.eq_false_iff]
    intro hwrapped
    simp only [Bool.and_eq_true, beq_iff_eq, Bool.not_eq_true'] at hwrapped
    obtain ⟨⟨hzero, hfull⟩, hrefused⟩ := hwrapped
    -- Only a refusal leaves the mark, unless the mark was there before.
    have hmark : retry = queueFull := by
      rw [hdoes.retry] at hfull
      cases deed with
      | echoAgain =>
        obtain ⟨hless, -⟩ := hagain rfl
        have hone : (retry - 1).toNat = retry.toNat - 1 :=
          UInt8.toNat_sub_of_le _ _
            (UInt8.le_iff_toNat_le.mpr (Nat.lt_of_le_of_lt (Nat.zero_le _) hless))
        have hvalue : (retry - 1).toNat = 255 := congrArg UInt8.toNat hfull
        have hsmall := retry.toNat_lt
        omega
      | firstFrame rest => exact absurd hfull (by decide : maxRetryCount ≠ 0xFF)
      | firstData rest => exact absurd hfull (by decide : maxRetryCount ≠ 0xFF)
      | echo => exact absurd hfull (by decide : echoRetryCount - 1 ≠ 0xFF)
      | _ => exact hfull
    rw [hwrap hmark hzero] at hrefused
    cases hrefused

/-- What comes is processed by the machine. -/
theorem observe_of_takes (htakes : tally.takes input = true) :
    (observe env tally.observed input).ctx = process env tally.observed.ctx input ∧
      input.allowed tally.observed = true := by
  unfold Tally.takes at htakes
  simp only [Bool.and_eq_true, Bool.not_eq_true'] at htakes
  obtain ⟨⟨hhung, hallowed⟩, -⟩ := htakes
  have hpossible : input.possible tally.observed.ctx.stack = true := by
    have hboth := hallowed
    unfold Input.allowed at hboth
    exact (Bool.and_eq_true _ _ ▸ hboth).1
  refine ⟨?_, hallowed⟩
  unfold observe
  rw [if_pos ⟨hhung, hallowed⟩]
  exact if_pos ⟨hhung, hpossible⟩

theorem any_of_head {stack : List Frame} (hsends : stack.head?.any Frame.sends = true) :
    stack.any Frame.sends = true := by
  cases stack with
  | nil => cases hsends
  | cons frame stack => exact any_cons ▸ Bool.or_eq_true_iff.mpr (.inl hsends)

/-- There is a call in progress, and the counter has its mark not. -/
theorem Kept.calling (hkept : Kept tally)
    (hsends : tally.observed.ctx.stack.head?.any Frame.sends = true) :
    0 < tally.calls ∧ tally.observed.ctx.retryCounter ≠ queueFull ∧
      tally.attempts + tally.observed.ctx.retryCounter.toNat = tally.limit + tally.calls ∧
      tally.calls ≤ tally.observed.ctx.retryCounter.toNat := by
  have hcalls : 0 < tally.calls := by
    by_contra hnone
    have hnot := sends_of_countP (Nat.le_zero.mp (Nat.not_lt.mp hnone))
    rw [any_of_head hsends] at hnot
    cases hnot
  rcases hkept.counts with ⟨hsum, hle, hattempts, hlimit⟩ | ⟨-, -, -, hnone⟩
  · exact ⟨hcalls, hkept.counts.counter_ne (by omega), hsum, hle⟩
  · omega

/-- When a failure is reported from inside `S2_send_data`, the frame is handed over again. -/
theorem Kept.does_retry (hkept : Kept tally) (htakes : tally.takes (.sendDone false) = true)
    (hsends : tally.observed.ctx.stack.head?.any Frame.sends = true) :
    Does .againData tally.observed.ctx (observe env tally.observed (.sendDone false)).ctx ∧
      (observe env tally.observed (.sendDone false)).ctx.state = tally.observed.ctx.state := by
  obtain ⟨hprocess, -⟩ := @observe_of_takes env tally _ htakes
  obtain ⟨hcalls, hfull, -, hle⟩ := hkept.calling hsends
  have hrow := hkept.resends (any_of_head hsends)
  have hecho : tally.observed.ctx.state ≠ .echoKexSetSending := by
    intro hecho
    rw [hecho] at hrow
    exact absurd hrow (by decide)
  have hsome : tally.observed.ctx.retryCounter ≠ noRetries := by
    intro hnone
    rw [hnone] at hle
    exact absurd (Nat.lt_of_lt_of_le hcalls hle) (by decide)
  have hevent : sendDoneEvent false tally.observed.ctx = .inclusionRetry := by
    unfold sendDoneEvent
    rw [if_neg hfull, if_neg Bool.false_ne_true, if_pos ⟨hsome, hecho⟩]
  have hresend : process env tally.observed.ctx (.sendDone false) =
      sendData true .done tally.observed.ctx := by
    unfold process
    dsimp only
    rw [sendDone_eq, hevent, if_neg hfull, processEvent_eq, hrow]
    rfl
  rw [hprocess, hresend]
  exact ⟨does_resendData _, rfl⟩

theorem refuses_of_not_ret (hret : ∀ success, input ≠ .ret success) (stack : List Frame) :
    input.refuses stack = false := by
  cases input with
  | ret success => exact absurd rfl (hret success)
  | _ => cases stack <;> rfl

/-- A state that tries again with `S2_send_data` is not left while such a call is in progress. -/
theorem resends_of_call {stack : List Frame} {deed : Deed} {after : Context}
    (hstack : after.stack = deed.call.toList ++ stack) (hcalls : stack.countP Frame.hands = 0)
    (hrow : ∀ frame, after.stack = frame :: stack → frame.sends = true →
      move after.state .inclusionRetry = (.resendData, after.state))
    (hany : after.stack.any Frame.sends = true) :
    move after.state .inclusionRetry = (.resendData, after.state) := by
  cases hcall : deed.call with
  | none =>
    rw [hstack, hcall, Option.toList_none, nil_append, sends_of_countP hcalls] at hany
    cases hany
  | some frame =>
    rw [hcall] at hstack
    refine hrow frame hstack ?_
    rw [hstack, Option.toList_some, singleton_append, any_cons, sends_of_countP hcalls,
      Bool.or_false] at hany
    exact hany

/-- An input that is no return keeps everything when it is spared. -/
theorem Kept.served (hkept : Kept tally) (htakes : tally.takes input = true)
    (hspared : Spared tally input)
    (hret : ∀ success, input ≠ .ret success) : Kept (tallyStep env tally input) := by
  obtain ⟨hprocess, hallowed⟩ := @observe_of_takes env tally input htakes
  have hrefuses := refuses_of_not_ret hret tally.observed.ctx.stack
  have hcounts : Counts (if input.refuses tally.observed.ctx.stack then 0 else tally.attempts)
      (if input.refuses tally.observed.ctx.stack then maxRetryCount.toNat else tally.limit)
      tally.observed.ctx.retryCounter (tally.observed.ctx.stack.countP Frame.hands) := by
    rw [hrefuses]
    exact hkept.counts
  by_cases hsends : tally.observed.ctx.stack.head?.any Frame.sends = true
  · -- Only the failure of the call itself can come.
    obtain rfl : input = .sendDone false := by
      cases hstack : tally.observed.ctx.stack with
      | nil =>
        rw [hstack] at hsends
        cases hsends
      | cons frame stack =>
        rcases allowed_running hallowed hret hstack with ⟨⟨rest, rfl⟩, -⟩ | ⟨-, hfailed, -⟩
        · rw [hstack] at hsends
          cases hsends
        · exact hfailed
    obtain ⟨hdoes, hstate⟩ := @Kept.does_retry env tally hkept htakes hsends
    obtain ⟨-, hfull, -, -⟩ := hkept.calling hsends
    refine @Kept.advance env tally _ hkept htakes tally.observed.ctx.stack _ _ hdoes
      hkept.nests hcounts
      (fun _ hother ↦ absurd rfl hother) (fun _ ↦ ⟨hspared htakes rfl hsends, hfull⟩)
      (fun hmark ↦ absurd hmark hfull) fun _ ↦ ?_
    rw [hstate]
    exact hkept.resends (any_of_head hsends)
  have hnone : tally.observed.ctx.stack.countP Frame.hands = 0 := by
    cases hstack : tally.observed.ctx.stack with
    | nil => rfl
    | cons frame stack =>
      have hnests := hkept.nests
      rw [hstack] at hsends hnests
      have hframe : frame.hands = false := by
        rcases allowed_running hallowed hret hstack with ⟨⟨rest, rfl⟩, -⟩ | ⟨⟨rest, rfl⟩ | rfl, -⟩
        · rfl
        · exact absurd rfl hsends
        · rfl
      rw [countP_cons_of_neg (by simp [hframe])]
      exact hnests.countP_tail (Bool.eq_false_iff.mpr hsends)
  have hserves := serves_process env tally.observed.ctx hret
  rw [← hprocess] at hserves
  cases hserves with
  | ignored hstate hdoes =>
    refine hkept.advance htakes hdoes hkept.nests hcounts (fun _ _ ↦ hnone) nofun
      (fun hmark hzero ↦ absurd (hzero.symm.trans hmark) (by decide)) fun hany ↦ ?_
    rw [hdoes.stack, show Deed.nothing.call.toList ++ tally.observed.ctx.stack =
      tally.observed.ctx.stack from rfl,
      sends_of_countP hnone] at hany
    cases hany
  | refused rest hreceived hdoes =>
    refine hkept.advance htakes hdoes hkept.nests hcounts (fun _ _ ↦ hnone) nofun
      (fun hmark hzero ↦ absurd (hzero.symm.trans hmark) (by decide)) fun hany ↦ ?_
    rw [hdoes.stack, Deed.call, Option.toList_some, singleton_append, any_cons,
      sends_of_countP hnone] at hany
    cases hany
  | posted event retry deed hallows hrow hretry hcounted hsendDone hdoes =>
    refine hkept.advance htakes hdoes hkept.nests ?_ (fun _ _ ↦ hnone) (fun hagain ↦ ?_) ?_
      fun hany ↦ resends_of_call hdoes.stack hnone hrow hany
    · rcases hretry with rfl | ⟨hfull, rfl⟩
      · exact hcounts
      · -- The frame that was refused is tried from the beginning.
        rcases hcounts with ⟨hsum, hle, hattempts, hlimit⟩ | ⟨-, hzero, hthree, -⟩
        · have hvalue : tally.observed.ctx.retryCounter.toNat = 255 := congrArg UInt8.toNat hfull
          have hecho : echoRetryCount.toNat = 24 := rfl
          omega
        · rw [hzero, hthree, hnone]
          exact .inl ⟨rfl, by decide, by decide, by decide⟩
    · obtain ⟨hsome, hfull⟩ := hcounted (retry_of_again _ event deed hagain hallows)
      refine ⟨?_, hfull⟩
      rw [hnone]
      exact Nat.pos_of_ne_zero fun hzero ↦ hsome (UInt8.toNat_inj.mp hzero)
    · intro hmark hzero
      rcases hretry with rfl | ⟨-, rfl⟩
      · exact absurd (hzero.symm.trans hmark) (by decide)
      · exact absurd hmark (by decide)

/-- A return keeps everything. -/
theorem Kept.returned (hkept : Kept tally) {success : Bool}
    (htakes : tally.takes (.ret success) = true) : Kept (tallyStep env tally (.ret success)) := by
  obtain ⟨hprocess, hallowed⟩ := @observe_of_takes env tally _ htakes
  cases hstack : tally.observed.ctx.stack with
  | nil =>
    unfold Input.allowed at hallowed
    rw [hstack] at hallowed
    cases hallowed
  | cons frame stack =>
    have hproper : frame.proper = true := hkept.proper frame (hstack ▸ mem_cons_self)
    have hnests : Nests (frame :: stack) := hstack ▸ hkept.nests
    obtain ⟨deed, hagain, hdoes, hrow, hsent⟩ := does_ret env success hstack hproper
    rw [show ret env success tally.observed.ctx =
      (observe env tally.observed (.ret success)).ctx from
      hprocess.symm] at hdoes hrow hsent
    have hroom : deed ≠ .nothing → deed ≠ .againData → stack.countP Frame.hands = 0 := by
      intro hdeed _
      refine hnests.countP_tail (Bool.eq_false_iff.mpr fun hsends ↦ hdeed (hsent hsends).1)
    have hcalls : tally.calls = stack.countP Frame.hands + if frame.hands then 1 else 0 := by
      unfold Tally.calls
      rw [hstack, countP_cons]
    have hrefuses :
        Input.refuses (.ret success) tally.observed.ctx.stack = (frame.hands && !success) := by
      rw [hstack]
      cases success with
      | false => exact (Bool.and_true _).symm
      | true => exact (Bool.and_false _).symm
    have hcounts := hkept.counts
    rw [hcalls] at hcounts
    refine hkept.advance htakes hdoes hnests.tail ?_ hroom (fun hother ↦ ?_) ?_ fun hany ↦ ?_
    · rw [hrefuses]
      unfold Frame.counter
      cases hhands : frame.hands with
      | false =>
        rw [hhands] at hcounts
        exact hcounts
      | true =>
        rw [hhands, if_pos rfl] at hcounts
        cases success with
        | true =>
          -- The call is taken off the counter.
          obtain ⟨hsum, hle, hattempts, hlimit⟩ := hcounts.resolve_right fun hrefused ↦
            absurd hrefused.2.2.2 (Nat.succ_ne_zero _)
          have hone : (tally.observed.ctx.retryCounter - 1).toNat =
              tally.observed.ctx.retryCounter.toNat - 1 :=
            UInt8.toNat_sub_of_le _ _
              (UInt8.le_iff_toNat_le.mpr (Nat.le_trans (Nat.le_add_left 1 _) hle))
          have hnext : tally.attempts + (tally.observed.ctx.retryCounter - 1).toNat =
                tally.limit + stack.countP Frame.hands ∧
              stack.countP Frame.hands ≤ (tally.observed.ctx.retryCounter - 1).toNat ∧
              stack.countP Frame.hands ≤ tally.attempts ∧ tally.limit ≤ echoRetryCount.toNat := by
            omega
          exact .inl hnext
        | false =>
          unfold Tally.takes at htakes
          rw [hrefuses, hhands, hcalls, hhands] at htakes
          have hnone : stack.countP Frame.hands = 0 := by
            simp only [Bool.not_false, Bool.and_self, Bool.true_and, if_true, Bool.and_eq_true,
              Bool.not_eq_true', decide_eq_false_iff_not] at htakes
            omega
          rw [hnone]
          exact .inr ⟨rfl, rfl, rfl, rfl⟩
    · rw [hagain] at hother
      cases hother
    · intro hmark hzero
      rw [hrefuses]
      unfold Frame.counter at hmark
      cases hhands : frame.hands with
      | false =>
        rw [hhands, if_neg Bool.false_ne_true] at hmark
        exact absurd (hzero.symm.trans hmark) (by decide)
      | true =>
        rw [hhands, if_pos rfl] at hcounts
        cases success with
        | false => rfl
        | true =>
          -- A call is in progress, so the counter is not zero.
          obtain ⟨-, hle, -, -⟩ :=
            hcounts.resolve_right fun hrefused ↦ absurd hrefused.2.2.2 (Nat.succ_ne_zero _)
          rw [hzero] at hle
          exact absurd hle (Nat.not_succ_le_zero _)
    · by_cases hnone : stack.countP Frame.hands = 0
      · exact resends_of_call hdoes.stack hnone hrow hany
      · -- One of several calls of `S2_send_data` has returned, and nothing else happens.
        have hsends : frame.sends = true := by
          by_contra hother
          exact hnone (hnests.countP_tail (Bool.eq_false_iff.mpr hother))
        obtain ⟨-, hstate⟩ := hsent hsends
        rw [hstate]
        refine hkept.resends ?_
        rw [hstack, any_cons, hsends]
        rfl

/-- Every spared step keeps everything. -/
theorem kept_step (hspared : Spared tally input) (hkept : Kept tally) :
    Kept (tallyStep env tally input) := by
  by_cases htakes : tally.takes input = true
  swap
  · unfold tallyStep
    rwa [if_neg htakes]
  by_cases hret : ∀ success, input ≠ .ret success
  · exact hkept.served htakes hspared hret
  · push Not at hret
    obtain ⟨success, rfl⟩ := hret
    exact hkept.returned htakes

theorem Kept.bounded (hkept : Kept tally) : Bounded tally := by
  rcases hkept.counts with ⟨hsum, hle, hattempts, -⟩ | ⟨-, hzero, -, hnone⟩
  · exact ⟨by omega, by omega, hkept.wrapped⟩
  · exact ⟨hzero ▸ Nat.zero_le _, hnone ▸ Nat.zero_le _, hkept.wrapped⟩

/-- A step that is not spared hands the frame over once too often. -/
theorem Kept.spared_of_bounded (hkept : Kept tally)
    (hbounded : Bounded (tallyStep env tally input)) : Spared tally input := by
  rintro htakes rfl hsends
  by_contra hmore
  obtain ⟨-, -, hsum, hle⟩ := hkept.calling hsends
  obtain ⟨hdoes, -⟩ := @Kept.does_retry env tally hkept htakes hsends
  have hrefuses : Input.refuses (.sendDone false) tally.observed.ctx.stack = false :=
    @refuses_of_not_ret (.sendDone false) nofun _
  have hattempts := hbounded.1
  unfold tallyStep at hattempts
  rw [if_pos htakes] at hattempts
  dsimp only at hattempts
  rw [handedOver_of_does hdoes rfl, hrefuses] at hattempts
  have hfull : tally.attempts + 1 ≤ tally.limit := hattempts
  omega

end Steps

/-- At the start no frame was handed over. -/
theorem kept_start (ctx : Context) : Kept (startTally ctx) := by
  obtain ⟨acts, loadedKeys, -, hrestored⟩ := restoreKeys_eq (atRest { ctx with retryCounter := 0 })
  have hctx : (startTally ctx).observed.ctx = _ := hrestored
  have hstack : (startTally ctx).observed.ctx.stack = [] := by
    rw [hctx]
    rfl
  have hcounter : (startTally ctx).observed.ctx.retryCounter = 0 := by
    rw [hctx]
    rfl
  refine ⟨fun frame hframe ↦ ?_, ?_, .inl ?_, fun hany ↦ ?_, rfl⟩
  · rw [hstack] at hframe
    cases hframe
  · rw [hstack]
    trivial
  · rw [Tally.calls, hstack, hcounter]
    exact ⟨rfl, Nat.le_refl _, Nat.le_refl _, Nat.zero_le _⟩
  · rw [hstack] at hany
    cases hany

/-- In a run no frame is handed over too often, the calls nest no deeper than that and the counter
does not wrap, exactly when each failure that is reported from inside `S2_send_data` finds the
counter larger than the number of calls in progress. -/
theorem retries_bounded_iff (env : Env) (ctx : Context) (inputs : List Input) :
    (∀ way, way <+: inputs → Bounded (run (tallyStep env) (startTally ctx) way)) ↔
      AllSteps (tallyStep env) Spared (startTally ctx) inputs := by
  have hkeep : ∀ tally input, Spared tally input → Kept tally → Kept (tallyStep env tally input) :=
    fun _ _ hspared hkept ↦ kept_step hspared hkept
  have hclaim : ∀ tally, Kept tally → Bounded tally := fun _ hkept ↦ hkept.bounded
  have hbreak : ∀ tally input, Kept tally → Bounded (tallyStep env tally input) →
      Spared tally input :=
    fun _ _ hkept hbounded ↦ hkept.spared_of_bounded hbounded
  exact forall_prefix_run_iff_allSteps_of_invariant hkeep hclaim hbreak (kept_start ctx) inputs

/-- Node 5 is included and echoes its `KEX_SET` frame. The radio refuses the answer, and refuses it
again each time that it is tried from inside `S2_send_data`. -/
theorem retries_bounded_fail :
    ¬ ∀ (env : Env) (ctx : Context) (inputs : List Input),
      Bounded (run (tallyStep env) (startTally ctx) inputs) := by
  intro hbounded
  have hfour : ¬ (run (tallyStep sampleEnv) (startTally sampleContext)
      ((grantInputs keyClassUnauthenticated).take 14 ++
        List.replicate 3 (.sendDone false))).attempts ≤
      (run (tallyStep sampleEnv) (startTally sampleContext)
        ((grantInputs keyClassUnauthenticated).take 14 ++
          List.replicate 3 (.sendDone false))).limit := by
    decide +kernel
  exact hfour (hbounded _ _ _).1

end ZipGateway.Inclusion
