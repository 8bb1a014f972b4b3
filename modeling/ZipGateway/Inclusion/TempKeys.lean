import ZipGateway.Inclusion.Observed

/-!
# Temporary keys after an inclusion

In every state of every run in which no inclusion is under way, neither the temporary key nor the
network key that was exchanged last is loaded, and the derived keys of every loaded class are those
of the key store (`temporary_keys_unloaded`). The machine returns to `S2_INC_IDLE` in two ways: by
an action that restores the keys, or from `S2_AWAITING_KEX_GET`, where nothing was loaded yet. Both
are read from the table of transitions (`keepsKeys_move`).

One action loads a key after a function outside has returned. When the call of `S2_send_data` in
`s2_send_net_key_report` fails at once, the machine sends the frame again, from within the call. The
counter of the retries was set before and is only changed by a return, so the machine cannot give up
there (`Waiting.report`).

`process_event` sets the state before it performs the action. The one function outside that is
called between the two is `S2_send_frame` for the `KEX_FAIL` frame of `s2_inclusion_complete`, which
restores the keys when the call returns (`Context.failing`).
-/

set_option autoImplicit false

namespace ZipGateway.Inclusion

open Lib List SecurityS2

/-! ### Temporary keys and their use -/

/-- The keys in `sg` of a slot. -/
def derivedKeys (aes : BlockCipher) (slot : UInt8) (log : List Act) : Option SecGroup :=
  (derivedFrom slot log).map fun derived ↦
    if derived.2 then tempkeyExpand aes (padBlock derived.1)
    else networkkeyExpand aes (padBlock derived.1)

/-- `s2_inclusion_complete` has called `S2_send_frame`, and not told the failure yet. -/
def Context.failing (ctx : Context) : Bool :=
  match ctx.stack with
  | .sendFrame (.pushFailed _) :: _ => true
  | _ => false

/-- When no inclusion is under way, no temporary key is loaded, and the keys of every loaded class
are those that are expanded from the key store. -/
def KeysRestored (aes : BlockCipher) (ctx : Context) : Prop :=
  ctx.state = .idle → ctx.failing = false →
    ctx.loadedKeys.getLsbD tempKeySecure.toNat = false ∧
    ctx.loadedKeys.getLsbD networkKeySecure.toNat = false ∧
    ∀ pair ∈ keySlotPairs, ctx.loadedKeys.getLsbD pair.2.toNat = true →
      ∃ key, ctx.networkKeys pair.1 = some key ∧
        derivedKeys aes pair.2 ctx.log = some (networkkeyExpand aes key)

theorem KeysFromStore.restored {ctx : Context} (hkeys : KeysFromStore ctx) (aes : BlockCipher) :
    KeysRestored aes ctx := by
  intro _ _
  refine ⟨hkeys.slots _ (by decide), hkeys.slots _ (by decide), fun pair hpair hloaded ↦ ?_⟩
  obtain ⟨key, hkey, hderived⟩ := hkeys.derived pair hpair hloaded
  refine ⟨key, hkey, ?_⟩
  rw [derivedKeys, hderived]
  simp

/-! ### The table -/

/-- The states in which the keys are those of the key store. -/
def IncState.isAtRest : IncState → Bool
  | .idle | .awaitingKexGet => true
  | _ => false

/-- A transition restores the keys, or keeps those of a state in which they are restored. -/
def keepsKeys (state : IncState) (event : Event) (newState : IncState) (effect : Effect) : Bool :=
  let newState := effect.newState.getD newState
  (!newState.isAtRest || effect.keys == .restored || effect.keys == .kept && state.isAtRest ||
    effect.call == some (.sendFrame (.pushFailed kexFailKeyVerify))) &&
  (effect.call != some (.sendData .netKeyReport) ||
    event == .netKeyGetRecv && newState == .awaitingNetKeyVerify && effect.retry == .reset)

theorem keepsKeys_move : ∀ (state : IncState) (event : Event),
    ∀ effect ∈ effects (move state event).1, keepsKeys state event
      (move state event).2 effect = true := by
  simp only [move_eq_moveAmong]
  decide +kernel

/-! ### The invariant -/

/-- The keys are those of the key store in the states for it, and `s2_send_net_key_report` waits for
`S2_send_data` in the state that it has entered. -/
structure Waiting (observed : Observed) : Prop where
  proper : Proper observed
  keys : observed.ctx.state.isAtRest = true → observed.ctx.failing = false →
    KeysFromStore observed.ctx
  report : .sendData .netKeyReport ∈ observed.ctx.stack →
    observed.ctx.state = .awaitingNetKeyVerify ∧
      (∀ frame ∈ observed.ctx.stack, frame = .sendData .done ∨ frame = .sendData .netKeyReport) ∧
      (observed.fresh = true → observed.ctx.retryCounter = maxRetryCount)

section Steps

variable {observed observed' : Observed} {input : Input}

/-- Only a return can come while `S2_send_frame` is running. -/
theorem failing_of_allowed (hallowed : input.allowed observed = true)
    (hret : ∀ success, input ≠ .ret success) : observed.ctx.failing = false := by
  unfold Context.failing
  split
  · rename_i failType stack hstack
    rcases allowed_running hallowed hret hstack with ⟨⟨_, hframe⟩, _⟩ | ⟨⟨_, hframe⟩ | hframe, _⟩
    all_goals cases hframe
  · rfl

/-- A step that keeps the keys and the state. -/
theorem Waiting.same_state {effect : Effect} {base : Context} (hwaiting : Waiting observed)
    (hadvances : Advances observed input effect base observed')
    (hnew : effect.newState = none) (hkept : effect.keys = .kept)
    (hbase : KeyChange.kept.Relates observed.ctx base) (hstate : base.state = observed.ctx.state)
    (hfailing : observed.ctx.failing = false) :
    observed'.ctx.state.isAtRest = true → KeysFromStore observed'.ctx := by
  intro hrest
  have hsame : observed'.ctx.state = observed.ctx.state := by
    rw [hadvances.produces.state, hnew]
    exact hstate
  have hkeys := hadvances.produces.keys
  rw [hkept] at hkeys
  exact ((hwaiting.keys (hsame ▸ hrest) hfailing).kept hbase).kept hkeys

/-- A step that is a transition of the table, from a state in which the keys are as they have to
be. -/
theorem Waiting.moved {effect : Effect} {base : Context} {event : Event}
    (hwaiting : Waiting observed) (hadvances : Advances observed input effect base observed')
    (heffect : effect ∈ effects (move observed.ctx.state event).1)
    (hbase : KeyChange.kept.Relates observed.ctx base)
    (hstate : base.state = (move observed.ctx.state event).2)
    (hfailing : observed.ctx.failing = false) :
    observed'.ctx.state.isAtRest = true → observed'.ctx.failing = false →
      KeysFromStore observed'.ctx := by
  intro hrest hfails
  have hkeeps := (Bool.and_eq_true _ _ ▸ keepsKeys_move observed.ctx.state event effect heffect).1
  have hnew : observed'.ctx.state = effect.newState.getD (move observed.ctx.state event).2 := by
    rw [hadvances.produces.state, hstate]
  have hkeys := hadvances.produces.keys
  rw [← hnew, hrest] at hkeeps
  simp only [Bool.not_true, Bool.false_or, Bool.or_eq_true, Bool.and_eq_true, beq_iff_eq] at hkeeps
  rcases hkeeps with (hrestored | ⟨hkept, hbefore⟩) | hcall
  · rw [hrestored] at hkeys
    exact hkeys
  · rw [hkept] at hkeys
    exact ((hwaiting.keys hbefore hfailing).kept hbase).kept hkeys
  · rw [Context.failing, hadvances.produces.stack, hcall] at hfails
    cases hfails

/-- The transmission of a key is repeated when it fails at once. -/
theorem sendDoneEvent_netKeyReport {ctx : Context} (hstate : ctx.state = .awaitingNetKeyVerify)
    (hretry : ctx.retryCounter = maxRetryCount) : sendDoneEvent false ctx = .inclusionRetry := by
  unfold sendDoneEvent
  rw [hretry, hstate]
  decide

theorem move_netKeyReport_retry : move .awaitingNetKeyVerify .inclusionRetry =
    (.resendData, .awaitingNetKeyVerify) := by
  decide

/-- The transition that sends a key, and the ones that are taken while it is sent. -/
theorem Waiting.posted_report {effect : Effect} {event : Event} {retry : UInt8}
    (hwaiting : Waiting observed) (hallowed : input.allowed observed = true)
    (hret : ∀ success, input ≠ .ret success) (hposts : Posts observed.ctx input event)
    (hretry : observed.ctx.retryCounter ≠ queueFull → retry = observed.ctx.retryCounter)
    (heffect : effect ∈ effects (move observed.ctx.state event).1)
    (hadvances : Advances observed input effect
      { observed.ctx with state := (move observed.ctx.state event).2, retryCounter := retry }
      observed')
    (hmem : .sendData .netKeyReport ∈ observed'.ctx.stack) :
    observed'.ctx.state = .awaitingNetKeyVerify ∧
      (∀ frame ∈ observed'.ctx.stack, frame = .sendData .done ∨ frame = .sendData .netKeyReport) ∧
      (observed'.fresh = true → observed'.ctx.retryCounter = maxRetryCount) := by
  obtain ⟨hnewState, hnewStack, -, -, -, hnewRetry, -⟩ := hadvances.produces
  rw [hnewStack, mem_append, Option.mem_toList] at hmem
  rcases hmem with hcall | hmem
  · have hcall : effect.call = some (.sendData .netKeyReport) := hcall
    have hkeeps := (Bool.and_eq_true _ _ ▸ keepsKeys_move observed.ctx.state event effect heffect).2
    simp only [hcall, bne_self_eq_false, Bool.false_or, Bool.and_eq_true, beq_iff_eq] at hkeeps
    obtain ⟨⟨rfl, hstate⟩, hreset⟩ := hkeeps
    rw [hreset] at hnewRetry
    refine ⟨hnewState.trans hstate, ?_, fun _ ↦ hnewRetry⟩
    rw [hnewStack, hcall, hposts.stack_of_isReceived hallowed rfl]
    simp
  · -- The call of `S2_send_data` is running, and has just reported a failure.
    obtain ⟨hstate, hframes, hfresh⟩ := hwaiting.report hmem
    obtain ⟨top, stack, hstack⟩ := exists_cons_of_ne_nil (ne_nil_of_mem hmem)
    have htop : top = .sendData .done ∨ top = .sendData .netKeyReport :=
      hframes top (hstack ▸ mem_cons_self)
    obtain ⟨⟨_, hhandler⟩, _⟩ | ⟨-, rfl, hfirst⟩ := allowed_running hallowed hret hstack
    · rcases htop with rfl | rfl
      · cases hhandler
      · cases hhandler
    have hcounter := hfresh hfirst
    obtain rfl : event = .inclusionRetry := by
      cases hposts with
      | sendDone => exact sendDoneEvent_netKeyReport hstate hcounter
      | accept huser => cases huser
      | reject huser => cases huser
    rw [hstate, move_netKeyReport_retry] at heffect hnewState
    obtain rfl := mem_singleton.mp heffect
    refine ⟨hnewState, ?_, fun _ ↦ ?_⟩
    · rw [hnewStack]
      exact forall_mem_cons.mpr ⟨.inl rfl, hframes⟩
    · have hkept : retry = observed.ctx.retryCounter := hretry (by rw [hcounter]; decide)
      have hafter : observed'.ctx.retryCounter = retry := hnewRetry
      rw [hafter, hkept, hcounter]

/-- A return to a caller below the transmission of a key. -/
theorem Waiting.returned_report {frame : Frame} {stack : List Frame} {retry : UInt8}
    (hwaiting : Waiting observed) (hstack : observed.ctx.stack = frame :: stack)
    (hadvances : Advances observed input frame.rest.effect
      { observed.ctx with stack, retryCounter := retry } observed')
    (hmem : .sendData .netKeyReport ∈ observed'.ctx.stack) :
    observed'.ctx.state = .awaitingNetKeyVerify ∧
      (∀ frame ∈ observed'.ctx.stack, frame = .sendData .done ∨ frame = .sendData .netKeyReport) ∧
      (observed'.fresh = true → observed'.ctx.retryCounter = maxRetryCount) := by
  obtain ⟨hnewState, hnewStack, -, -, -, -, -⟩ := hadvances.produces
  have hcalls : ∀ rest : Rest, .sendData .netKeyReport ∉ rest.effect.call.toList := by
    intro rest
    cases rest <;> simp [Rest.effect, Effect.timed, Effect.rekeyed, ended, Effect.stopped,
      Effect.restored, newFrame, Effect.retried]
  rw [hnewStack, mem_append] at hmem
  have hbelow : .sendData .netKeyReport ∈ stack := hmem.resolve_left (hcalls _)
  obtain ⟨hstate, hframes, -⟩ :=
    hwaiting.report (hstack ▸ mem_cons_of_mem frame hbelow)
  rw [hstack] at hframes
  obtain ⟨hframe, hrest⟩ := forall_mem_cons.mp hframes
  -- The frame that returns makes no further call and keeps the state.
  obtain ⟨hcall, hnew⟩ : frame.rest.effect.call = none ∧ frame.rest.effect.newState = none := by
    rcases hframe with rfl | rfl
    · exact ⟨rfl, rfl⟩
    · exact ⟨rfl, rfl⟩
  refine ⟨?_, ?_, ?_⟩
  · rw [hnewState, hnew]
    exact hstate
  · rw [hnewStack, hcall]
    exact hrest
  · intro hfresh
    rw [hadvances.fresh, hcall] at hfresh
    cases hfresh

theorem failing_of_rest {frame : Frame} {stack : List Frame}
    (hstack : observed.ctx.stack = frame :: stack)
    (hrest : ∀ failType, frame.rest ≠ .pushFailed failType) : observed.ctx.failing = false := by
  rw [Context.failing, hstack]
  split
  · rename_i failType _ htop
    cases htop
    exact absurd rfl (hrest failType)
  · rfl

/-- A return restores the keys when it is to tell a failure, and loads one only for another
state. -/
theorem Waiting.returned_keys {frame : Frame} {stack : List Frame} {retry : UInt8}
    (hwaiting : Waiting observed) (hstack : observed.ctx.stack = frame :: stack)
    (hpost : frame.rest.isPost = false)
    (hadvances : Advances observed input frame.rest.effect
      { observed.ctx with stack, retryCounter := retry } observed')
    (hatRest : observed'.ctx.state.isAtRest = true) : KeysFromStore observed'.ctx := by
  have hmem : frame ∈ observed.ctx.stack := hstack ▸ mem_cons_self
  have hproper := hwaiting.proper frame hmem
  have hkept : frame.rest.effect.newState = none → frame.rest.effect.keys = .kept →
      (∀ failType, frame.rest ≠ .pushFailed failType) → KeysFromStore observed'.ctx :=
    fun hnew hkeys hrest ↦ hwaiting.same_state hadvances hnew hkeys ⟨rfl, rfl, fun _ ↦ rfl⟩ rfl
      (failing_of_rest hstack hrest) hatRest
  cases hrest : frame.rest with
  | done => exact hkept (by rw [hrest]; rfl) (by rw [hrest]; rfl) (by simp [hrest])
  | setTimeout interval => exact hkept (by rw [hrest]; rfl) (by rw [hrest]; rfl) (by simp [hrest])
  | sendPubKeyA => exact hkept (by rw [hrest]; rfl) (by rw [hrest]; rfl) (by simp [hrest])
  | sendKexReport => exact hkept (by rw [hrest]; rfl) (by rw [hrest]; rfl) (by simp [hrest])
  | post event =>
    rw [hrest] at hpost
    cases hpost
  | pushFailed failType =>
    rw [hrest] at hadvances
    exact hadvances.produces.keys
  | netKeyReport =>
    obtain rfl : frame = .sendData .netKeyReport := by
      cases frame with
      | sendEcho => cases hrest
      | sendData rest => exact congrArg Frame.sendData hrest
      | _ rest =>
        obtain rfl : rest = .netKeyReport := hrest
        cases hproper
    obtain ⟨hstate, -, -⟩ := hwaiting.report hmem
    have hsame : observed'.ctx.state = observed.ctx.state := hadvances.produces.state
    rw [hsame, hstate] at hatRest
    cases hatRest

/-- Every step keeps the invariant. -/
theorem Happens.waiting (hhappens : Happens observed input observed')
    (hwaiting : Waiting observed) : Waiting observed' := by
  have hproper := hhappens.proper hwaiting.proper
  cases hhappens with
  | impossible hsame => exact hsame ▸ hwaiting
  | ignored hallowed hret _ hadvances =>
    refine ⟨hproper, fun hrest _ ↦ ?_, fun hmem ↦ ?_⟩
    · exact hwaiting.same_state hadvances rfl rfl ⟨rfl, rfl, fun _ ↦ rfl⟩ rfl
        (failing_of_allowed hallowed hret) hrest
    · have hstack : observed'.ctx.stack = observed.ctx.stack := hadvances.produces.stack
      obtain ⟨hstate, hframes, -⟩ := hwaiting.report (hstack ▸ hmem)
      refine ⟨hadvances.produces.state.trans hstate, hstack ▸ hframes, fun hfresh ↦ ?_⟩
      rw [hadvances.fresh] at hfresh
      cases hfresh
  | refused _ hstack _ _ _ hadvances =>
    have hfailing : observed.ctx.failing = false := by
      rw [Context.failing, hstack]
    refine ⟨hproper, fun hrest _ ↦ ?_, fun hmem ↦ ?_⟩
    · exact hwaiting.same_state hadvances rfl rfl ⟨rfl, rfl, fun _ ↦ rfl⟩ rfl hfailing hrest
    · rw [hadvances.produces.stack, hstack] at hmem
      simp [refusal, newFrame, Effect.retried] at hmem
  | posted event retry effect hallowed hret hposts hretry heffect _ hadvances =>
    exact ⟨hproper, hwaiting.moved hadvances heffect ⟨rfl, rfl, fun _ ↦ rfl⟩ rfl
        (failing_of_allowed hallowed hret),
      hwaiting.posted_report hallowed hret hposts hretry heffect hadvances⟩
  | returned success frame stack retry hinput hstack hpost hadvances =>
    refine ⟨hproper, fun hrest _ ↦ ?_, hwaiting.returned_report hstack hadvances⟩
    exact hwaiting.returned_keys hstack hpost hadvances hrest
  | posting success frame stack retry event effect hinput hstack hpost heffect hadvances =>
    obtain ⟨rfl, hevent⟩ := event_of_proper
      (hwaiting.proper frame (hstack ▸ mem_cons_self)) hpost
    have hfailing := failing_of_rest hstack (by simp [hpost])
    refine ⟨hproper, hwaiting.moved hadvances heffect ⟨rfl, rfl, fun _ ↦ rfl⟩ rfl hfailing,
      fun hmem ↦ ?_⟩
    rw [hadvances.produces.stack, mem_append, Option.mem_toList] at hmem
    rcases hmem with hcall | hmem
    · have hcall : effect.call = some (.sendData .netKeyReport) := hcall
      have hkeeps :=
        (Bool.and_eq_true _ _ ▸ keepsKeys_move observed.ctx.state event effect heffect).2
      simp only [hcall, bne_self_eq_false, Bool.false_or, Bool.and_eq_true, beq_iff_eq] at hkeeps
      rw [hkeeps.1.1] at hevent
      simp at hevent
    · -- No frame is refused while the transmission of a key is running.
      obtain ⟨-, hframes, -⟩ := hwaiting.report (hstack ▸ mem_cons_of_mem _ hmem)
      have hframe := hframes (.sendFrame (.post event)) (hstack ▸ mem_cons_self)
      simp at hframe

end Steps

/-! ### Runs -/

theorem waiting_initialized (start : Context) : Waiting (initialized start) := by
  obtain ⟨acts, loadedKeys, -, hrestored⟩ := restoreKeys_eq (atRest start)
  have hstack : (initialized start).ctx.stack = [] := by
    rw [initialized, hrestored]
    rfl
  refine ⟨fun frame hframe ↦ ?_, fun _ _ ↦ keysFromStore_restoreKeys (atRest start), fun hmem ↦ ?_⟩
  · rw [hstack] at hframe
    cases hframe
  · rw [hstack] at hmem
    cases hmem

/-- Temporary keys do not outlive an inclusion: in every state of every run of `s2_inclusion.c`
after `S2_init_ctx`, with the inputs in any order and the functions outside failing at any call. -/
theorem temporary_keys_unloaded (aes : BlockCipher) (env : Env) (start : Context)
    (inputs : List Input) :
    KeysRestored aes (run (observe env) (initialized start) inputs).ctx := by
  have hwaiting : Waiting (run (observe env) (initialized start) inputs) :=
    run_invariant
      (fun observed input hbefore ↦ (observe_happens env observed input).waiting hbefore)
      (waiting_initialized start) inputs
  intro hidle hfailing
  have hrest : (run (observe env) (initialized start) inputs).ctx.state.isAtRest = true := by
    rw [hidle]
    rfl
  exact (hwaiting.keys hrest hfailing).restored aes hidle hfailing

end ZipGateway.Inclusion
