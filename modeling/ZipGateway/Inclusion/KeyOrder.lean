import ZipGateway.Inclusion.KeyWalk

/-!
# The granted keys are asked for in their order

The loop of `s2_send_net_key_get` would not end when `key_exchange` was shifted out of the byte
while granted keys are left. The invariant ties `key_exchange`, `key_granted` and the state to the
keys that were asked for and that have come (`Stands`): in each state of the exchange there is a
place `i` such that `key_exchange` is its bit, and the keys below it have come. The table is checked
by evaluation (`joins_move`).
-/

set_option autoImplicit false

namespace ZipGateway.Inclusion

open Lib List SecurityS2

/-! ### The invariant -/

/-- How the keys stand. -/
inductive Phase
  | none
  | before
  | requesting
  | exchanged
  | final
deriving DecidableEq

/-- How the keys stand in a state. -/
def IncState.phase : IncState → Phase
  | .awaitingPubKeyA | .awaitingUserAAccept | .echoKexSetSending => .before
  | .awaitingNetKeyReport => .requesting
  | .keyExchanged => .exchanged
  | .sendingFinalTransferEnd => .final
  | _ => .none

/-- The keys below this place have come, and the key of the place was asked for in the phase of a
request. -/
structure Keys.At (keys : Keys) (phase : Phase) (granted exchange : UInt8) (i : ℕ) : Prop where
  place : i ≤ 8
  granted : granted = keys.granted
  exchange : exchange = keyBit i
  exchanged : keys.exchanged = keysBelow keys.granted i
  requested : keys.requested = keysBelow keys.granted i ++ if phase = .requesting then
    [keyBit i] else []
  asked : phase = .requesting → keyBit i &&& keys.granted ≠ 0
  last : phase = .final → (0 - keyBit i) &&& keys.granted = 0
  incomplete : phase ≠ .final → keys.completed = false

/-- The keys stand as the state, `key_granted` and `key_exchange` say. -/
def Stands (ctx : Context) (keys : Keys) : Prop :=
  ctx.state.phase ≠ .none → ∃ i, keys.At ctx.state.phase ctx.keyGranted ctx.keyExchange i

section At

variable {keys : Keys} {phase : Phase} {granted exchange key : UInt8} {i : ℕ}

theorem Keys.At.lt_eight (hat : keys.At .requesting granted exchange i) : i < 8 := by
  refine Nat.lt_of_le_of_ne hat.place ?_
  rintro rfl
  exact hat.asked rfl UInt8.zero_and

/-- The keys that were asked for come first among the granted ones. -/
theorem Keys.At.inOrder (hat : keys.At phase granted exchange i) :
    keys.requested <+: keysOf keys.granted := by
  rw [hat.requested]
  split_ifs with hphase
  · subst hphase
    have hsucc := keysBelow_succ keys.granted hat.lt_eight
    rw [if_neg (hat.asked rfl)] at hsucc
    rw [← hsucc]
    exact keysBelow_prefix _ _
  · rw [append_nil]
    exact keysBelow_prefix _ _

/-- When the exchange is complete, all keys have come. -/
theorem Keys.At.complete (hat : keys.At phase granted exchange i)
    (hcompleted : keys.completed = true) :
    keys.requested = keysOf keys.granted ∧ keys.exchanged = keysOf keys.granted := by
  have hfinal : phase = .final := by
    by_contra hother
    exact Bool.false_ne_true ((hat.incomplete hother).symm.trans hcompleted)
  have hall := keysBelow_eq hat.place (hat.last hfinal)
  have hrequested := hat.requested
  rw [hfinal, if_neg (by decide), append_nil, hall] at hrequested
  exact ⟨hrequested, hat.exchanged.trans hall⟩

/-- A new `KEX_SET` frame was accepted. -/
theorem at_accepted (granted : UInt8) :
    Keys.At { granted, requested := [], exchanged := [], completed := false } .before
      granted 1 0 where
  place := Nat.zero_le _
  granted := rfl
  exchange := rfl
  exchanged := rfl
  requested := rfl
  asked := nofun
  last := nofun
  incomplete _ := rfl

/-- The key that the loop finds is asked for. -/
theorem Keys.At.request (hat : keys.At phase granted exchange i)
    (hphase : phase ≠ .requesting ∧ phase ≠ .final)
    (hnext : advanceKey granted 9 exchange = some key) :
    ∃ j, Keys.At { keys with requested := keys.requested ++ [key] } .requesting granted key j := by
  rw [hat.granted, hat.exchange] at hnext
  obtain ⟨j, hj, hkey, hmem, hbelow⟩ := advanceKey_spec hat.place hnext
  have hrequested := hat.requested
  rw [if_neg hphase.1, append_nil, ← hbelow] at hrequested
  refine ⟨j, ?_⟩
  exact {
    place := Nat.le_of_lt hj
    granted := hat.granted
    exchange := hkey
    exchanged := hat.exchanged.trans hbelow.symm
    requested := by rw [hrequested, hkey, if_pos rfl]
    asked := fun _ ↦ hmem
    last := nofun
    incomplete := fun _ ↦ hat.incomplete hphase.2 }

/-- The key that was asked for has come. -/
theorem Keys.At.verify (hat : keys.At .requesting granted exchange i) :
    Keys.At { keys with exchanged := keys.exchanged ++ [exchange] } .exchanged granted
      (exchange <<< 1) (i + 1) := by
  have hi := hat.lt_eight
  have hsucc := keysBelow_succ keys.granted hi
  rw [if_neg (hat.asked rfl)] at hsucc
  have hrequested := hat.requested
  rw [if_pos rfl, ← hsucc] at hrequested
  exact {
    place := hi
    granted := hat.granted
    exchange := by rw [hat.exchange, keyBit_shift i hi]
    exchanged := by rw [hat.exchanged, hat.exchange, ← hsucc]
    requested := by rw [hrequested, if_neg (by decide), append_nil]
    asked := nofun
    last := nofun
    incomplete := fun _ ↦ hat.incomplete (by decide) }

/-- The last end of a transfer is sent when no granted key is left. -/
theorem Keys.At.finish (hat : keys.At phase granted exchange i) (hphase : phase ≠ .requesting)
    (hnone : (0 - exchange) &&& granted = 0) :
    Keys.At { keys with completed := true } .final granted exchange i where
  place := hat.place
  granted := hat.granted
  exchange := hat.exchange
  exchanged := hat.exchanged
  requested := by rw [hat.requested, if_neg hphase, if_neg (by decide)]
  asked := nofun
  last _ := by rwa [hat.granted, hat.exchange] at hnone
  incomplete hother := absurd rfl hother

end At

def IncState.joins : IncState → Bool
  | .idle | .awaitingKexGet | .awaitingKexSet | .errorSent => true
  | state => state.walks

/-- What holds of the keys in every state of a run. -/
structure Walking (walk : Walk) : Prop where
  exchanging : Exchanging walk.observed
  joins : walk.observed.ctx.state.joins = true
  inOrder : walk.keys.requested <+: keysOf walk.keys.granted
  complete : walk.keys.completed = true →
    walk.keys.requested = keysOf walk.keys.granted ∧ walk.keys.exchanged = keysOf walk.keys.granted
  stands : walk.observed.ctx.stack.head?.any Frame.posts = false →
    Stands walk.observed.ctx walk.keys

/-! ### The table -/

/-- The events of a node that joins, apart from the one that no keys are granted, which is processed
in another one. -/
def Event.joins : Event → Bool
  | .includingStart | .noKeysGranted => false
  | _ => true

/-- What the table says about a node that joins. -/
theorem joins_move : ∀ (state : IncState) (event : Event), state.joins = true → event.joins = true →
    (move state event).2.joins = true ∧ (move state event).1.joins = true ∧
    ((move state event).1.leavesKeys →
      (move state event).2.phase = .none ∨ (move state event).2.phase = state.phase) ∧
    ((move state event).1 = .sendPubKeyB → (move state event).2 = .awaitingPubKeyA) ∧
    ((move state event).1 = .sendNetKeyVerify → state = .awaitingNetKeyReport ∧
      (move state event).2 = .keyExchanged) ∧
    ((move state event).1 = .sendFinalTransferEnd →
      state = .keyExchanged ∧ event = .sendFinalTransferEnd ∧
        (move state event).2 = .sendingFinalTransferEnd) := by
  simp only [move_eq_moveAmong]
  decide +kernel

/-- After a frame was refused, no keys are asked for any more. -/
theorem joins_move_failed : ∀ (state : IncState) (event : Event), state.joins = true →
    event = .inclusionErrorSent ∨ event = .inclusionError →
    (move state event).1.leavesKeys ∧ (move state event).2.phase = .none := by
  simp only [move_eq_moveAmong]
  decide +kernel

theorem effects_joins : ∀ action : Action, ∀ effect ∈ effects action,
    effect.newState.all IncState.joins = true := by
  intro action
  cases action <;> decide

/-- Only the search for the next key changes the state by itself. -/
theorem effects_newState : ∀ action : Action, action ≠ .sendNetKeyGet →
    ∀ effect ∈ effects action, effect.newState = none := by
  intro action
  cases action <;> decide

/-! ### What a step does with the keys -/

/-- The context says the same about the keys, and nothing was sent that concerns them. -/
structure Alike (ctx base : Context) : Prop where
  marks : Marked [] ctx base
  state : base.state = ctx.state
  granted : base.keyGranted = ctx.keyGranted
  exchange : base.keyExchange = ctx.keyExchange

/-- What an input does that is no return. -/
inductive Turns (env : Env) (ctx ctx' : Context) : Prop
  | alike (halike : Alike ctx ctx')
  | refused (halike : Alike ctx ctx') (hposts : ctx'.stack.head?.any Frame.posts = true)
  | posted (event : Event) (base : Context) (halike : Alike ctx base) (hevent : event.joins = true)
      (hlast : event = .sendFinalTransferEnd → (0 - ctx.keyExchange) &&& ctx.keyGranted = 0)
      (hctx : ctx' = processEvent env event base)

section Steps

variable {env : Env} {ctx base : Context}

theorem Marked.after {marks : List Mark} {before middle after : Context}
    (hbefore : Marked [] before middle)
    (hafter : Marked marks middle after) : Marked marks before after := by
  obtain ⟨acts, hlog, hacts⟩ := hbefore
  exact hafter.behind acts hlog hacts

theorem alike_of_eq (hlog : base.log = ctx.log) (hstate : base.state = ctx.state)
    (hgranted : base.keyGranted = ctx.keyGranted) (hexchange : base.keyExchange = ctx.keyExchange) :
    Alike ctx base :=
  ⟨⟨[], hlog, rfl⟩, hstate, hgranted, hexchange⟩

theorem alike_of_quiet (hquiet : Quiet ctx base) : Alike ctx base := by
  have hmarks : Marked [] ctx base := Marked.quiet hquiet ⟨[], rfl, rfl⟩
  obtain ⟨acts, loadedKeys, publicKey, -, rfl⟩ := hquiet
  exact ⟨hmarks, rfl, rfl, rfl⟩

/-- An input is processed as an event that is not made of the end of a transfer. -/
theorem turns_event (env : Env) (event : Event) (halike : Alike ctx base)
    (hevent : event.joins = true)
    (hother : event ≠ .sendFinalTransferEnd) : Turns env ctx (processEvent env event base) :=
  .posted event base halike hevent (fun hlast ↦ absurd hlast hother) rfl

/-- The event of a frame, when it is the one that all keys have come. -/
theorem frameEvent_sendFinalTransferEnd (hevent : frameEvent ctx = .sendFinalTransferEnd) :
    (0 - ctx.keyExchange) &&& ctx.keyGranted = 0 := by
  unfold frameEvent at hevent
  dsimp only at hevent
  simp only [ite_eq_iff, reduceCtorEq, and_false, or_false, false_or, and_true] at hevent
  exact not_not.mp hevent.2.2.2.2.2.2.2.2.2

theorem joins_of_isReceived : ∀ event : Event, event.isReceived = true → event.joins = true := by
  intro event
  cases event <;> decide

theorem turns_received (env : Env) (src : Connection) (buf : ℕ → UInt8) (length : ℕ)
    (ctx : Context) : Turns env ctx (postEvent env src buf length ctx) := by
  unfold postEvent
  cases haccept : accept src buf length ctx with
  | none => exact .alike (alike_of_eq rfl rfl rfl rfl)
  | some ctx₁ =>
    have halike : Alike ctx ctx₁ := by
      unfold accept at haccept
      dsimp only at haccept
      generalize (if ctx.state = .awaitingKexGet then src else ctx.peer) = peer at haccept
      split_ifs at haccept
      exact Option.some.inj haccept ▸ ⟨⟨[.received src buf length], rfl, rfl⟩, rfl, rfl, rfl⟩
    dsimp only
    unfold postEventInternal
    cases houtcome : outcome env ctx₁ with
    | ignored => exact .alike halike
    | tooShort => exact turns_event env .inclusionError halike rfl (by decide)
    | refused =>
      refine .refused ⟨halike.marks.after (marked_refuse ctx₁ kexFailAuth), ?_, ?_, ?_⟩ rfl
      · exact halike.state
      · exact halike.granted
      · exact halike.exchange
    | event event =>
      obtain ⟨-, hframe⟩ := outcome_event houtcome
      refine .posted event ctx₁ halike ?_ (fun hlast ↦ ?_) rfl
      · exact joins_of_isReceived event (hframe ▸ frameEvent_isReceived ctx₁)
      · rw [← halike.exchange, ← halike.granted]
        exact frameEvent_sendFinalTransferEnd (hframe.trans hlast)

/-- The state after an event is that of the table, or the one in which the last end of a transfer is
sent. -/
theorem processEvent_joins (env : Env) (event : Event)
    (hjoins : (move ctx.state event).2.joins = true) :
    (processEvent env event ctx).state.joins = true := by
  obtain ⟨effect, heffect, hproduces⟩ := processEvent_produces env event ctx
  have hnew := effects_joins _ effect heffect
  rw [hproduces.state]
  cases hstate : effect.newState with
  | none => exact hjoins
  | some state =>
    rw [hstate] at hnew
    exact hnew

theorem processEvent_state (env : Env) (event : Event)
    (hother : (move ctx.state event).1 ≠ .sendNetKeyGet) :
    (processEvent env event ctx).state = (move ctx.state event).2 := by
  obtain ⟨effect, heffect, hproduces⟩ := processEvent_produces env event ctx
  rw [hproduces.state, effects_newState _ hother effect heffect]
  rfl

/-- What an event does with the keys, from the context before the step on. -/
theorem moves_processEvent (env : Env) (event : Event) (halike : Alike ctx base)
    (haction : (move ctx.state event).1.joins = true) :
    Moves { base with state := (move ctx.state event).2 } (processEvent env event base)
      (move ctx.state event).1 := by
  rw [processEvent_eq, halike.state]
  exact moves_performAction _ env haction fun hget ↦ (move_sendNetKeyGet _ _ hget).1

/-- What an input of a node that joins does with the keys. -/
theorem turns_process (env : Env) (ctx : Context) {input : Input} (hjoins : input.joins = true)
    (hret : ∀ success, input ≠ .ret success) : Turns env ctx (process env ctx input) := by
  cases input with
  | includingStart con => cases hjoins
  | keyGrant accepts keys csa => cases hjoins
  | joiningStart con csa => exact turns_event env _ (alike_of_eq rfl rfl rfl rfl) rfl (by decide)
  | challengeResponse accepts response =>
    unfold process challengeResponse
    dsimp only
    split_ifs
    · exact turns_event env _ (alike_of_eq rfl rfl rfl rfl) rfl (by decide)
    · exact turns_event env _ (alike_of_eq rfl rfl rfl rfl) rfl (by decide)
  | neighborDiscoveryComplete =>
    exact turns_event env _ (alike_of_eq rfl rfl rfl rfl) rfl (by decide)
  | abort => exact turns_event env _ (alike_of_eq rfl rfl rfl rfl) rfl (by decide)
  | received src buf length => exact turns_received env src buf length ctx
  | decryptionFailure src =>
    unfold process
    dsimp only
    split_ifs
    · exact turns_event env _ (alike_of_eq rfl rfl rfl rfl) rfl (by decide)
    · exact .alike (alike_of_eq rfl rfl rfl rfl)
  | commandsSupportedGet classes => exact .alike (alike_of_eq rfl rfl rfl rfl)
  | timeout =>
    unfold process notifyTimeout
    dsimp only
    split_ifs
    · exact turns_event env _ (alike_of_eq rfl rfl rfl rfl) rfl (by decide)
    · exact turns_event env _ (alike_of_eq rfl rfl rfl rfl) rfl (by decide)
  | sendDone success =>
    have hreport : (sendDoneEvent success ctx).joins = true ∧
        sendDoneEvent success ctx ≠ .sendFinalTransferEnd := by
      unfold sendDoneEvent
      split_ifs <;> decide
    unfold process
    dsimp only
    rw [sendDone_eq]
    exact turns_event env _ (alike_of_eq rfl rfl rfl rfl) hreport.1 hreport.2
  | ret success => exact absurd rfl (hret success)

/-- What follows a return says nothing about the keys, where it is no event. -/
theorem alike_resume (env : Env) (ctx : Context) {rest : Rest} (hpost : rest.isPost = false) :
    Alike ctx (resume env rest ctx) := by
  cases rest with
  | done => exact alike_of_eq rfl rfl rfl rfl
  | setTimeout interval => exact ⟨⟨[.setTimeout interval], rfl, rfl⟩, rfl, rfl, rfl⟩
  | netKeyReport => exact alike_of_quiet (quiet_sendNetKeyReportRest ctx)
  | post event => cases hpost
  | pushFailed failType =>
    obtain ⟨quiet, hquiet, hpush⟩ := inclusionFailedEvtPush_eq failType ctx
    have halike := alike_of_quiet hquiet
    refine ⟨marked_inclusionFailedEvtPush ctx failType, ?_, ?_, ?_⟩
    · exact (congrArg Context.state hpush).trans halike.state
    · exact (congrArg Context.keyGranted hpush).trans halike.granted
    · exact (congrArg Context.keyExchange hpush).trans halike.exchange
  | sendPubKeyA => exact ⟨marked_sendNewFrame ctx _ _, rfl, rfl, rfl⟩
  | sendKexReport =>
    exact ⟨(marked_sendNewFrame { ctx with csaSupport := kexSetFlags ctx.mode } _ _).behind
      [] rfl rfl, rfl, rfl, rfl⟩

end Steps

/-! ### Steps -/

section Walking

variable {env : Env} {walk : Walk} {input : Input} {marks : List Mark}

theorem walkStep_of_marked
    (hmarked : Marked marks walk.observed.ctx (observe env walk.observed input).ctx) :
    walkStep env walk input =
      { observed := observe env walk.observed input
        keys := marks.foldr (Mark.record (observe env walk.observed input).ctx.buf)
          walk.keys } := by
  unfold walkStep
  dsimp only
  rw [marksOf_of_marked hmarked rfl]

/-- Nothing is said about the keys: they stand as before when the phase is the same. -/
theorem Walking.keeps (hwalking : Walking walk)
    (hexchanging : Exchanging (observe env walk.observed input))
    (hjoins : (observe env walk.observed input).ctx.state.joins = true)
    (hmarked : Marked [] walk.observed.ctx (observe env walk.observed input).ctx)
    (hstands : (observe env walk.observed input).ctx.stack.head?.any Frame.posts = false →
      Stands (observe env walk.observed input).ctx walk.keys) : Walking
        (walkStep env walk input) := by
  rw [walkStep_of_marked hmarked]
  exact ⟨hexchanging, hjoins, hwalking.inOrder, hwalking.complete, hstands⟩

/-- The keys stand at a place. -/
theorem walking_of_at {observed : Observed} {keys : Keys} {phase : Phase} {i : ℕ}
    (hexchanging : Exchanging observed) (hjoins : observed.ctx.state.joins = true)
    (hphase : observed.ctx.state.phase = phase)
    (hat : keys.At phase observed.ctx.keyGranted observed.ctx.keyExchange i) :
    Walking { observed, keys } :=
  ⟨hexchanging, hjoins, hat.inOrder, hat.complete, fun _ _ ↦ ⟨i, hphase ▸ hat⟩⟩

/-- An event that concerns no keys, or a refusal. -/
theorem Walking.left {event : Event} {base : Context} (hwalking : Walking walk)
    (hexchanging : Exchanging (observe env walk.observed input))
    (halike : Alike walk.observed.ctx base)
    (hctx : (observe env walk.observed input).ctx = processEvent env event base)
    (hjoins : (move walk.observed.ctx.state event).2.joins = true)
    (haction : (move walk.observed.ctx.state event).1.joins = true)
    (hleaves : (move walk.observed.ctx.state event).1.leavesKeys)
    (hphase : (move walk.observed.ctx.state event).2.phase = .none ∨
      (move walk.observed.ctx.state event).2.phase = walk.observed.ctx.state.phase ∧
        Stands walk.observed.ctx walk.keys) :
    Walking (walkStep env walk input) := by
  have hstate :
      (observe env walk.observed input).ctx.state = (move walk.observed.ctx.state event).2 := by
    rw [hctx, processEvent_state env event (by rw [halike.state]; exact hleaves.2.1), halike.state]
  have hmoves := moves_processEvent env event halike haction
  rw [← hctx] at hmoves
  generalize (move walk.observed.ctx.state event).1 = action at hmoves hleaves
  refine hwalking.keeps hexchanging (hstate ▸ hjoins) ?_ fun hposts ↦ ?_
  · cases hmoves with
    | keeps _ hmarks => exact halike.marks.after (hmarks.behind [] rfl rfl)
    | refuses hmarks => exact halike.marks.after (hmarks.behind [] rfl rfl)
    | accepts => exact absurd rfl hleaves.1
    | requests | hangs | grantless => exact absurd rfl hleaves.2.1
    | verifies => exact absurd rfl hleaves.2.2.1
    | completes => exact absurd rfl hleaves.2.2.2
  · cases hmoves with
    | keeps _ _ hgranted hexchange =>
      rw [Stands, hstate]
      intro hsome
      obtain ⟨hsame, hstands⟩ := hphase.resolve_left hsome
      obtain ⟨i, hat⟩ := hstands (hsame ▸ hsome)
      rw [hgranted.trans halike.granted, hexchange.trans halike.exchange, hsame]
      exact ⟨i, hat⟩
    | refuses _ hrefused => exact absurd (hrefused.symm.trans hposts) (by decide)
    | accepts => exact absurd rfl hleaves.1
    | requests | hangs | grantless => exact absurd rfl hleaves.2.1
    | verifies => exact absurd rfl hleaves.2.2.1
    | completes => exact absurd rfl hleaves.2.2.2

/-- After a mark the keys stand at a place. -/
theorem walking_of_marked {phase : Phase}
    (hexchanging : Exchanging (observe env walk.observed input))
    (hjoins : (observe env walk.observed input).ctx.state.joins = true)
    (hmarked : Marked marks walk.observed.ctx (observe env walk.observed input).ctx)
    (hphase : (observe env walk.observed input).ctx.state.phase = phase)
    (hat : ∃ i, (marks.foldr (Mark.record (observe env walk.observed input).ctx.buf) walk.keys).At
      phase (observe env walk.observed input).ctx.keyGranted
      (observe env walk.observed input).ctx.keyExchange i) :
    Walking (walkStep env walk input) := by
  obtain ⟨i, hat⟩ := hat
  rw [walkStep_of_marked hmarked]
  exact walking_of_at hexchanging hjoins hphase hat

/-- An event of a node that joins. -/
theorem Walking.posted {event : Event} {base : Context} (hwalking : Walking walk)
    (hexchanging : Exchanging (observe env walk.observed input))
    (hstands : Stands walk.observed.ctx walk.keys)
    (halike : Alike walk.observed.ctx base) (hevent : event.joins = true)
    (hlast : event = .sendFinalTransferEnd →
      (0 - walk.observed.ctx.keyExchange) &&& walk.observed.ctx.keyGranted = 0)
    (hctx : (observe env walk.observed input).ctx = processEvent env event base) :
    Walking (walkStep env walk input) := by
  obtain ⟨hnew, haction, hphase, haccept, hverify, hfinal⟩ :=
    joins_move _ event hwalking.joins hevent
  by_cases hleaves : (move walk.observed.ctx.state event).1.leavesKeys
  · exact hwalking.left hexchanging halike hctx hnew haction hleaves
      ((hphase hleaves).imp_right fun hsame ↦ ⟨hsame, hstands⟩)
  have hjoins : (observe env walk.observed input).ctx.state.joins = true := by
    rw [hctx]
    exact processEvent_joins env event (by rw [halike.state]; exact hnew)
  have hstate : (move walk.observed.ctx.state event).1 ≠ .sendNetKeyGet →
      (observe env walk.observed input).ctx.state = (move walk.observed.ctx.state event).2 :=
        fun hother ↦ by
    rw [hctx, processEvent_state env event (by rwa [halike.state]), halike.state]
  have hget := move_sendNetKeyGet walk.observed.ctx.state event
  have hmoves := moves_processEvent env event halike haction
  rw [← hctx] at hmoves
  generalize (move walk.observed.ctx.state event).1 =
    action at hmoves hleaves haccept hverify hfinal hstate hget
  cases hmoves with
  | keeps hother => exact absurd hother hleaves
  | hangs hhung => exact absurd (hexchanging.hung.symm.trans hhung) (by decide)
  | refuses hmarks hrefused =>
    exact hwalking.keeps hexchanging hjoins (halike.marks.after (hmarks.behind [] rfl rfl))
      fun hposts ↦
      absurd (hrefused.symm.trans hposts) (by decide)
  | accepts hmarks hgranted hexchange =>
    have hafter := (hstate (by decide)).trans (haccept rfl)
    refine walking_of_marked hexchanging hjoins (halike.marks.after (hmarks.behind [] rfl rfl))
      (congrArg IncState.phase hafter) ⟨0, ?_⟩
    rw [hgranted, hexchange]
    exact at_accepted _
  | requests key hmarks hnext hsame hgranted hexchange =>
    obtain ⟨hwaiting, hfrom⟩ := hget rfl
    obtain ⟨i, hat⟩ :=
      hstands (by rcases hfrom with ⟨hbefore, -⟩ | ⟨hbefore, -⟩ <;> rw [hbefore] <;> decide)
    have hnext' :
        advanceKey walk.observed.ctx.keyGranted 9 walk.observed.ctx.keyExchange = some key := by
      rw [← halike.granted, ← halike.exchange]
      exact hnext
    obtain ⟨j, hrequest⟩ := hat.request
      (by rcases hfrom with ⟨hbefore, -⟩ | ⟨hbefore, -⟩ <;> rw [hbefore] <;> decide) hnext'
    refine walking_of_marked hexchanging hjoins (halike.marks.after (hmarks.behind [] rfl rfl))
      (congrArg IncState.phase (hsame.trans hwaiting)) ⟨j, ?_⟩
    rw [hgranted, hexchange]
    exact halike.granted ▸ hrequest
  | grantless hmarks hnone hsame hgranted hexchange =>
    obtain ⟨-, hfrom⟩ := hget rfl
    obtain ⟨i, hat⟩ :=
      hstands (by rcases hfrom with ⟨hbefore, -⟩ | ⟨hbefore, -⟩ <;> rw [hbefore] <;> decide)
    have hzero : walk.observed.ctx.keyGranted = 0 := halike.granted.symm.trans hnone
    refine walking_of_marked hexchanging hjoins (halike.marks.after (hmarks.behind [] rfl rfl))
      (congrArg IncState.phase hsame) ⟨i, ?_⟩
    rw [hgranted, hexchange]
    have hfinish :=
      hat.finish (by rcases hfrom with ⟨hbefore, -⟩ | ⟨hbefore, -⟩ <;> rw [hbefore] <;> decide)
      (by rw [hzero]; exact UInt8.and_zero)
    rw [← halike.granted, ← halike.exchange] at hfinish
    exact hfinish
  | verifies hmarks hkey hgranted hexchange =>
    obtain ⟨hbefore, hafter⟩ := hverify rfl
    obtain ⟨i, hat⟩ := hstands (by rw [hbefore]; decide)
    rw [hbefore] at hat
    refine walking_of_marked hexchanging hjoins (halike.marks.after (hmarks.behind [] rfl rfl))
      (congrArg IncState.phase ((hstate (by decide)).trans hafter)) ⟨i + 1, ?_⟩
    have hverified := hat.verify
    rw [← halike.granted, ← halike.exchange] at hverified
    rw [hgranted, hexchange, foldr_cons, foldr_nil, Mark.record, hkey]
    exact hverified
  | completes hmarks hgranted hexchange =>
    obtain ⟨hbefore, hend, hafter⟩ := hfinal rfl
    obtain ⟨i, hat⟩ := hstands (by rw [hbefore]; decide)
    have hfinish := hat.finish (by rw [hbefore]; decide) (hlast hend)
    rw [← halike.granted, ← halike.exchange] at hfinish
    refine walking_of_marked hexchanging hjoins (halike.marks.after (hmarks.behind [] rfl rfl))
      (congrArg IncState.phase ((hstate (by decide)).trans hafter)) ⟨i, ?_⟩
    rw [hgranted, hexchange]
    exact hfinish

/-- A return keeps everything. -/
theorem Walking.returned {success : Bool} (hwalking : Walking walk)
    (hexchanging : Exchanging (observe env walk.observed (.ret success)))
    (hctx : (observe env walk.observed (.ret success)).ctx = ret env success walk.observed.ctx) :
    Walking (walkStep env walk (.ret success)) := by
  cases hstack : walk.observed.ctx.stack with
  | nil =>
    have hsame : ret env success walk.observed.ctx = walk.observed.ctx := by
      rw [ret, hstack]
    rw [hsame] at hctx
    refine hwalking.keeps hexchanging (hctx ▸ hwalking.joins) ⟨[], hctx ▸ rfl, rfl⟩ fun hposts ↦ ?_
    rw [hctx] at hposts ⊢
    exact hwalking.stands hposts
  | cons frame stack =>
    obtain ⟨retry, hret⟩ := ret_eq env success hstack
    rw [hret] at hctx
    have halike : Alike walk.observed.ctx { walk.observed.ctx with stack, retryCounter := retry } :=
      alike_of_eq rfl rfl rfl rfl
    by_cases hpost : frame.rest.isPost = false
    · have hresume := alike_resume env { walk.observed.ctx with stack, retryCounter := retry } hpost
      rw [← hctx] at hresume
      have hhead : walk.observed.ctx.stack.head?.any Frame.posts = false := by
        rw [hstack]
        cases frame with
        | sendFrame rest =>
          cases rest with
          | post event => cases hpost
          | _ => rfl
        | _ => rfl
      refine hwalking.keeps hexchanging (hresume.state ▸ hwalking.joins)
        (halike.marks.after hresume.marks) fun _ ↦ ?_
      rw [Stands, hresume.state, hresume.granted, hresume.exchange]
      exact hwalking.stands hhead
    · -- The frame was refused, and the state is left.
      have hproper := hwalking.exchanging.proper frame (hstack ▸ mem_cons_self)
      obtain ⟨event, hevent⟩ : ∃ event, frame.rest = .post event := by
        cases hrest : frame.rest with
        | post event => exact ⟨event, rfl⟩
        | _ => exact absurd (by rw [hrest]; rfl) hpost
      obtain ⟨-, hfailed⟩ := event_of_proper hproper hevent
      have hjoins : event.joins = true := by
        rcases hfailed with rfl | rfl
        · rfl
        · rfl
      rw [hevent] at hctx
      obtain ⟨hnew, haction, -⟩ := joins_move _ event hwalking.joins hjoins
      obtain ⟨hleaves, hphase⟩ := joins_move_failed _ event hwalking.joins hfailed
      exact hwalking.left hexchanging halike hctx hnew haction hleaves (.inl hphase)

/-- Every step of a node that joins keeps the order of the keys. -/
theorem walking_step (hjoins : input.joins = true) (hwalking : Walking walk) :
    Walking (walkStep env walk input) := by
  have hexchanging := (observe_happens env walk.observed input).exchanging hwalking.exchanging
  by_cases hrun : walk.observed.ctx.hung = false ∧ input.allowed walk.observed = true
  swap
  · have hsame : observe env walk.observed input = walk.observed := if_neg hrun
    refine hwalking.keeps hexchanging ?_ ⟨[], ?_, rfl⟩ ?_
    · rw [hsame]
      exact hwalking.joins
    · rw [hsame]
      rfl
    · rw [hsame]
      exact hwalking.stands
  have hctx : (observe env walk.observed input).ctx = process env walk.observed.ctx input := by
    obtain ⟨hpossible, -⟩ := (Bool.and_eq_true _ _).mp hrun.2
    unfold observe
    rw [if_pos hrun]
    exact if_pos ⟨hrun.1, hpossible⟩
  by_cases hret : ∀ success, input ≠ .ret success
  swap
  · push Not at hret
    obtain ⟨success, rfl⟩ := hret
    exact hwalking.returned hexchanging hctx
  have hstands := hwalking.stands (posts_of_allowed hrun.2 hret)
  have hturns := turns_process env walk.observed.ctx hjoins hret
  rw [← hctx] at hturns
  cases hturns with
  | alike halike =>
    refine hwalking.keeps hexchanging (halike.state ▸ hwalking.joins) halike.marks fun _ ↦ ?_
    rw [Stands, halike.state, halike.granted, halike.exchange]
    exact hstands
  | refused halike hposts =>
    exact hwalking.keeps hexchanging (halike.state ▸ hwalking.joins) halike.marks fun hnone ↦
      absurd (hposts.symm.trans hnone) (by decide)
  | posted event base halike hevent hlast hposted =>
    exact hwalking.posted hexchanging hstands halike hevent hlast hposted

/-- Every run of a node that joins keeps the order of the keys. -/
theorem walking_run {inputs : List Input} (hjoins : ∀ input ∈ inputs, input.joins = true)
    (hwalking : Walking walk) : Walking (run (walkStep env) walk inputs) := by
  induction inputs generalizing walk with
  | nil => exact hwalking
  | cons input rest ih =>
    have hstep := @walking_step env walk input (hjoins input mem_cons_self) hwalking
    exact ih (fun other hother ↦ hjoins other (mem_cons_of_mem _ hother)) hstep

/-- At the start no key was asked for. -/
theorem walking_start (ctx : Context) : Walking (startWalk ctx) := by
  obtain ⟨-, hstate, -⟩ := initialized_ctx ctx
  refine ⟨exchanging_initialized ctx, ?_, nil_prefix, nofun, fun _ hsome ↦ ?_⟩
  · exact congrArg IncState.joins hstate
  · exact absurd (congrArg IncState.phase hstate) hsome

/-- The end of a transfer is a request to go on when a granted key has not come yet. -/
theorem Walking.classifies (hwalking : Walking walk) (hstack : walk.observed.ctx.stack = [])
    (hwalks : walk.observed.ctx.state.walks = true) : walk.Classifies := by
  have hsome : ∀ state : IncState, state.walks = true → state.phase ≠ .none := by
    intro state
    cases state <;> decide
  obtain ⟨i, hat⟩ := hwalking.stands (by rw [hstack]; rfl) (hsome _ hwalks)
  intro buf htransfer
  have hevent : frameEvent { walk.observed.ctx with buf } =
      if (0 - walk.observed.ctx.keyExchange) &&& walk.observed.ctx.keyGranted ≠ 0 then
        .transferEndRecv
      else .sendFinalTransferEnd := by
    unfold frameEvent
    simp only [htransfer]
    rfl
  rw [hevent, hat.granted, hat.exchange, hat.exchanged, ← neg_keyBit_iff hat.place]
  split_ifs with hkey
  · exact ⟨fun _ ↦ hkey, fun _ ↦ rfl⟩
  · exact ⟨nofun, fun hmore ↦ absurd hmore hkey⟩

theorem Walking.orderly (hwalking : Walking walk) : walk.Orderly :=
  ⟨hwalking.exchanging.hung, hwalking.inOrder, hwalking.complete, hwalking.classifies⟩

end Walking

/-- Node 5 asks which keys are wanted and grants some of them, the public keys are exchanged, and
the frames of the exchange are echoed. Every frame is sent at once. -/
def joinInputs (keys : UInt8) : List Input :=
  [.joiningStart ⟨1, 5, 0, 0, 0, nonSecure⟩ false,
    frameOf nonSecure [commandClassSecurity2, kexGet],
    .ret true, .ret true, .sendDone true,
    frameOf nonSecure [commandClassSecurity2, kexSet, 0, scheme1Support, curve25519, keys],
    .ret true, .sendDone true, frameOf nonSecure
      ([commandClassSecurity2, publicKeyReport, includingNode] ++ List.replicate 32 0), .ret true,
    .challengeResponse true [], .ret true, .sendDone true,
    frameOf tempKeySecure
      [commandClassSecurity2, kexReport, echoOn, scheme1Support, curve25519, keyMask],
    .ret true, .sendDone true]

/-- Node 5 sends a key, and the end of the transfer. -/
def exchangeInputs (key : UInt8) : List Input :=
  [frameOf tempKeySecure ([commandClassSecurity2, networkKeyReport, key] ++ List.replicate 16 0),
    .ret true,
    .sendDone true, frameOf tempKeySecure [commandClassSecurity2, transferEnd, keyVerified],
      .ret true, .sendDone true]

/-- In every run of a node that joins the loop ends, the keys that are asked for are the granted
ones in their order, each once, and the end of a transfer is a request to go on exactly when a
granted key has not come yet. -/
theorem keys_orderly (env : Env) (ctx : Context) (inputs : List Input)
    (hjoins : ∀ input ∈ inputs, input.joins = true) :
    (run (walkStep env) (startWalk ctx) inputs).Orderly := by
  have hwalking := @walking_run env _ inputs hjoins (walking_start ctx)
  exact hwalking.orderly

/-- Two keys are granted: both are asked for, the one with the lower bit first. -/
theorem keys_orderly_two :
    (run (walkStep sampleEnv) (startWalk sampleContext)
      (joinInputs 0x81 ++ exchangeInputs 0x01 ++ exchangeInputs 0x80)).keys.requested =
        [0x01, 0x80] ∧
    (run (walkStep sampleEnv) (startWalk sampleContext)
      (joinInputs 0x81 ++ exchangeInputs 0x01 ++ exchangeInputs 0x80)).keys.completed = true ∧
    (run (walkStep sampleEnv) (startWalk sampleContext)
      (joinInputs 0x81 ++ exchangeInputs 0x01 ++ exchangeInputs 0x80)).Orderly :=
  ⟨by decide +kernel, by decide +kernel, keys_orderly sampleEnv sampleContext _ (by decide +kernel)⟩

end ZipGateway.Inclusion
