import ZipGateway.Inclusion.Observed

/-!
# An inclusion ends, and ends once

Each time the machine leaves `S2_INC_IDLE` it tells at most one end of the inclusion to the event
handler, and when no function is running and an inclusion is under way, the inclusion timer is
running or a transmission will be reported (`inclusion_progresses`).

The second part has one exception. After a frame that cannot be accepted the timer is stopped, a
`KEX_FAIL` frame is given to `S2_send_frame`, and the machine enters `S2_ERROR_SENT`, which it only
leaves by an event. When `S2_send_frame` refuses the frame and nothing else was sent before, no
event follows (`refused_error_hangs`). `RefusalSent` excludes just this.

The table of transitions and the effects of the actions are checked by evaluation
(`progresses_move`). The invariant is `Progressing`: the timer is running, or a function on the
stack will start it, or the state has another way out.
-/

set_option autoImplicit false

namespace ZipGateway.Inclusion

open Lib List SecurityS2

/-! ### Progress and what is counted -/

/-- An inclusion was ended at most once since it began. -/
def EndsOnce (observed : Observed) : Prop :=
  observed.terminals ≤ 1

/-- When no function is running and an inclusion is under way, the timer is running or a
transmission will be reported. -/
def NeverHangs (observed : Observed) : Prop :=
  observed.ctx.stack = [] → observed.ctx.state ≠ .idle →
    observed.ctx.hung = false ∧ (observed.armed = true ∨ observed.awaiting = true)

/-- The `KEX_FAIL` frame for a frame that was not accepted is sent, or there is another way out: the
timer is running, or a transmission will be reported. -/
def RefusalSent (observed : Observed) (input : Input) : Prop :=
  match observed.ctx.stack, input with
  | .sendFrame (.post .inclusionErrorSent) :: _, .ret false =>
    observed.armed = true ∨ observed.awaiting = true
  | _, _ => True

/-! ### The table -/

/-- The function starts the timer when the call returns. -/
def Frame.arms : Frame → Bool
  | .sendFrame (.setTimeout _) | .sendData (.setTimeout _) | .sendData .netKeyReport | .sendEcho
  | .handler (.setTimeout _) | .handler .sendPubKeyA | .handler .sendKexReport => true
  | _ => false

/-- The machine processes an event when the call returns. -/
def Frame.posts : Frame → Bool
  | .sendFrame (.post _) => true
  | _ => false

/-- A failure is told when the call returns. -/
def Frame.fails : Frame → Bool
  | .sendFrame (.pushFailed _) => true
  | _ => false

/-- The call is one of `S2_send_data`. -/
def Frame.sends : Frame → Bool
  | .sendData _ => true
  | _ => false

/-- The states in which the machine waits for a report, and not for a timeout. -/
def IncState.waitsForReport : IncState → Bool
  | .errorSent | .sendingFinalTransferEnd => true
  | _ => false

/-- The state has a way out that is not the timer. -/
def Observed.excused (observed : Observed) : Bool :=
  match observed.ctx.state with
  | .idle => true
  | .errorSent => observed.awaiting
  | .sendingFinalTransferEnd =>
    observed.awaiting || observed.fresh && (observed.ctx.stack.head?.any Frame.sends) ||
      observed.ctx.stack.head? == some (.sendFrame (.post .inclusionError))
  | _ => observed.ctx.stack.head?.any Frame.posts

/-- The timer is running, or will be started, or there is another way out. -/
def Observed.live (observed : Observed) : Bool :=
  observed.armed || observed.ctx.stack.any Frame.arms || observed.excused

def Event.isReport : Event → Bool
  | .inclusionRetry | .inclusionSendDone | .inclusionSendFailed => true
  | _ => false

/-- A transition leads to a state that has a way out. The event after a refusal is treated apart. -/
def keepsLive (state : IncState) (event : Event) (newState : IncState) (effect : Effect) : Bool :=
  event == .inclusionErrorSent || effect.hung || newState == .idle || effect.timer == some true ||
    effect.call.any Frame.arms || (effect.call.any Frame.posts && newState != .errorSent &&
      (newState != .sendingFinalTransferEnd ||
        effect.call == some (.sendFrame (.post .inclusionError)))) ||
    (newState == .sendingFinalTransferEnd && effect.call == some (.sendData .done)) ||
    (effect.timer == none && event != .inclusionTimeout && state != .idle &&
      !(state == .echoKexSetSending && event == .inclusionRetry) &&
      (!state.waitsForReport || newState == state && !event.isReport))

/-- The inclusion ends when this is told, and not before. -/
def keepsEnd (state newState : IncState) (effect : Effect) : Bool :=
  (!effect.terminal || state != .idle && newState == .idle) &&
    (!effect.call.any Frame.fails || state != .idle && newState == .idle && !effect.terminal)

/-- The states of the joining node before it asks for a key. -/
def IncState.beforeKeys : IncState → Bool
  | .awaitingPubKeyA | .awaitingUserAAccept | .echoKexSetSending => true
  | _ => false

/-- The states of the joining node in which it asks for keys. -/
def IncState.exchangesKeys : IncState → Bool
  | .awaitingNetKeyReport | .keyExchanged => true
  | _ => false

/-- The key that is asked for next is known. -/
def keepsExchange (state newState : IncState) (effect : Effect) : Bool :=
  effect.call.any Frame.posts || effect.hung ||
    (!newState.beforeKeys || effect.exchange == .one || effect.exchange == .kept &&
      state.beforeKeys) &&
    (!newState.exchangesKeys ||
      effect.exchange == .single && (state.beforeKeys || state.exchangesKeys) ||
      effect.exchange == .kept && state.exchangesKeys)

theorem progresses_move : ∀ (state : IncState) (event : Event),
    ∀ effect ∈ effects (move state event).1,
      let newState := effect.newState.getD (move state event).2
      keepsLive state event newState effect = true ∧
        keepsEnd state newState effect = true ∧ keepsExchange state newState effect = true := by
  simp only [move_eq_moveAmong]
  decide +kernel

/-! ### Ends of inclusions -/

/-- The inclusion that is under way was not ended yet, and no inclusion twice. -/
structure Counted (observed : Observed) : Prop where
  proper : Proper observed
  under : observed.ctx.state ≠ .idle → observed.terminals = 0
  once : observed.terminals ≤ 1
  failing : observed.ctx.stack.head?.any Frame.fails = true →
    observed.ctx.state = .idle ∧ observed.terminals = 0
  tail : ∀ frame ∈ observed.ctx.stack.tail, frame.fails = false

section Steps

variable {observed observed' : Observed} {input : Input}

/-- Only a return can come while a failure is still to be told. -/
theorem fails_of_allowed (hallowed : input.allowed observed = true)
    (hret : ∀ success, input ≠ .ret success) :
    observed.ctx.stack.head?.any Frame.fails = false := by
  cases hstack : observed.ctx.stack with
  | nil => rfl
  | cons frame stack =>
    rcases allowed_running hallowed hret hstack with ⟨⟨_, rfl⟩, _⟩ | ⟨⟨_, rfl⟩ | rfl, _⟩
    · rfl
    · rfl
    · rfl

/-- After a step, a failure that is still to be told was made in this step. -/
theorem Advances.tail {effect : Effect} {base : Context}
    (hadvances : Advances observed input effect base observed')
    (hbase : ∀ frame ∈ base.stack, frame.fails = false) :
    (∀ frame ∈ observed'.ctx.stack.tail, frame.fails = false) ∧
      (observed'.ctx.stack.head?.any Frame.fails = true → effect.call.any Frame.fails = true) := by
  rw [hadvances.produces.stack]
  cases effect.call with
  | none =>
    refine ⟨fun frame hframe ↦ hbase frame (mem_of_mem_tail hframe), fun hfails ↦ ?_⟩
    cases hstack : base.stack with
    | nil => simp [hstack] at hfails
    | cons frame stack =>
      have hframe := hbase frame (hstack ▸ mem_cons_self)
      simp [hstack, hframe] at hfails
  | some frame => exact ⟨hbase, fun hfails ↦ hfails⟩

/-- A transition of the table. -/
theorem Counted.moved {effect : Effect} {base : Context} {event : Event}
    (hcounted : Counted observed) (hadvances : Advances observed input effect base observed')
    (heffect : effect ∈ effects (move observed.ctx.state event).1)
    (hstate : base.state = (move observed.ctx.state event).2)
    (hbase : ∀ frame ∈ base.stack, frame.fails = false) (hproper : Proper observed') :
    Counted observed' := by
  have hend := (progresses_move observed.ctx.state event effect heffect).2.1
  have hnew : observed'.ctx.state = effect.newState.getD (move observed.ctx.state event).2 := by
    rw [hadvances.produces.state, hstate]
  rw [← hnew] at hend
  simp only [keepsEnd, Bool.and_eq_true, Bool.or_eq_true, Bool.not_eq_true', bne_iff_ne, beq_iff_eq]
    at hend
  obtain ⟨hterminal, hfails⟩ := hend
  obtain ⟨htail, hhead⟩ := hadvances.tail hbase
  have hcount := hadvances.terminals
  -- An inclusion that begins in this step was not ended, and one that was under way neither.
  have hbefore : (if observed.ctx.state = .idle ∧ observed'.ctx.state ≠ .idle then 0
      else observed.terminals) = 0 ∨ observed.ctx.state = .idle ∧ observed'.ctx.state = .idle := by
    split_ifs with hbegins
    · exact .inl rfl
    · by_cases hidle : observed.ctx.state = .idle
      · exact .inr ⟨hidle, by_contra fun hother ↦ hbegins ⟨hidle, hother⟩⟩
      · exact .inl (hcounted.under hidle)
  rcases hbefore with hzero | ⟨hidle, hidle'⟩
  · rw [hzero, Nat.zero_add] at hcount
    refine ⟨hproper, fun hother ↦ ?_, ?_, fun hfailing ↦ ?_, htail⟩
    · rcases hterminal with hnone | ⟨-, hends⟩
      · rw [hcount, hnone]
        rfl
      · exact absurd hends hother
    · rw [hcount]
      exact Bool.toNat_le _
    · rcases hfails with hnone | ⟨⟨-, hends⟩, hnone⟩
      · exact absurd (hhead hfailing) (by simp [hnone])
      · rw [hcount, hnone]
        exact ⟨hends, rfl⟩
  · have hnone : effect.terminal = false := hterminal.resolve_right fun hother ↦ hother.1 hidle
    rw [if_neg (fun hother ↦ hother.2 hidle'), hnone] at hcount
    refine ⟨hproper, fun hother ↦ absurd hidle' hother, hcount ▸ hcounted.once,
      fun hfailing ↦ ?_, htail⟩
    rcases hfails with hnone | ⟨⟨hother, -⟩, -⟩
    · exact absurd (hhead hfailing) (by simp [hnone])
    · exact absurd hidle hother

/-- A step that is no transition. -/
theorem Counted.stays {effect : Effect} {base : Context} (hcounted : Counted observed)
    (hadvances : Advances observed input effect base observed')
    (hnew : effect.newState = none) (hterminal : effect.terminal = false)
    (hcall : effect.call.any Frame.fails = false) (hstate : base.state = observed.ctx.state)
    (hbase : ∀ frame ∈ base.stack, frame.fails = false) (hproper : Proper observed') :
    Counted observed' := by
  have hsame : observed'.ctx.state = observed.ctx.state := by
    rw [hadvances.produces.state, hnew]
    exact hstate
  have hcount : observed'.terminals = observed.terminals := by
    have hnot : ¬(observed.ctx.state = .idle ∧ observed'.ctx.state ≠ .idle) :=
      fun hbegins ↦ hbegins.2 (hsame.trans hbegins.1)
    rw [hadvances.terminals, if_neg hnot, hterminal]
    rfl
  obtain ⟨htail, hhead⟩ := hadvances.tail hbase
  refine ⟨hproper, ?_, hcount ▸ hcounted.once, fun hfailing ↦ ?_, htail⟩
  · rw [hsame, hcount]
    exact hcounted.under
  · exact absurd (hhead hfailing) (by simp [hcall])

theorem Counted.stack_fails (hcounted : Counted observed)
    (hhead : observed.ctx.stack.head?.any Frame.fails = false) :
    ∀ frame ∈ observed.ctx.stack, frame.fails = false := by
  intro frame hframe
  cases hstack : observed.ctx.stack with
  | nil =>
    rw [hstack] at hframe
    cases hframe
  | cons top stack =>
    rw [hstack] at hframe hhead
    rcases mem_cons.mp hframe with rfl | hbelow
    · exact hhead
    · exact hcounted.tail frame (by rw [hstack]; exact hbelow)

/-- What follows the other calls tells no end. -/
theorem frame_effect {frame : Frame} (hproper : frame.proper = true)
    (hpost : frame.rest.isPost = false) (hfails : frame.fails = false) :
    frame.rest.effect.newState = none ∧ frame.rest.effect.terminal = false ∧
      frame.rest.effect.call.any Frame.fails = false := by
  cases frame with
  | sendEcho => exact ⟨rfl, rfl, rfl⟩
  | _ rest =>
    cases rest with
    | post event => cases hpost
    | pushFailed failType => first | (cases hfails; done) | cases hproper
    | _ => exact ⟨rfl, rfl, rfl⟩

/-- Every step keeps the count. -/
theorem Happens.counted (hhappens : Happens observed input observed')
    (hcounted : Counted observed) : Counted observed' := by
  have hproper := hhappens.proper hcounted.proper
  cases hhappens with
  | impossible hsame => exact hsame ▸ hcounted
  | ignored hallowed hret _ hadvances =>
    exact hcounted.stays hadvances rfl rfl rfl rfl
      (hcounted.stack_fails (fails_of_allowed hallowed hret)) hproper
  | refused _ hstack _ _ _ hadvances =>
    exact hcounted.stays hadvances rfl rfl rfl rfl (by simp [hstack]) hproper
  | posted event retry effect hallowed hret _ _ heffect _ hadvances =>
    exact hcounted.moved hadvances heffect rfl
      (hcounted.stack_fails (fails_of_allowed hallowed hret)) hproper
  | posting success frame stack retry event effect _ hstack _ heffect hadvances =>
    exact hcounted.moved hadvances heffect rfl
      (fun other hother ↦ hcounted.tail other (by rw [hstack]; exact hother)) hproper
  | returned success frame stack retry _ hstack hpost hadvances =>
    have htail : ∀ other ∈ stack, other.fails = false :=
      fun other hother ↦ hcounted.tail other (by rw [hstack]; exact hother)
    cases hfails : frame.fails with
    | false =>
      obtain ⟨hnew, hterminal, hcall⟩ := frame_effect
        (hcounted.proper frame (hstack ▸ mem_cons_self)) hpost hfails
      exact hcounted.stays hadvances hnew hterminal hcall rfl htail hproper
    | true =>
      -- The end of the inclusion was not told before, and is told now.
      obtain ⟨hidle, hzero⟩ := hcounted.failing (by rw [hstack]; exact hfails)
      obtain ⟨failType, rfl⟩ : ∃ failType, frame = .sendFrame (.pushFailed failType) := by
        unfold Frame.fails at hfails
        split at hfails
        · exact ⟨_, rfl⟩
        · cases hfails
      have hidle' : observed'.ctx.state = .idle := hadvances.produces.state.trans hidle
      have hcount : observed'.terminals = 1 := by
        rw [hadvances.terminals, if_neg (fun hbegins ↦ hbegins.2 hidle'), hzero]
        rfl
      obtain ⟨hbelow, hhead⟩ := hadvances.tail htail
      exact ⟨hproper, fun hother ↦ absurd hidle' hother, hcount.le,
        fun hfailing ↦ absurd (hhead hfailing) Bool.false_ne_true, hbelow⟩

/-! ### The key that is asked for next -/

/-- The loop that looks for the next key will end. -/
structure Exchanging (observed : Observed) : Prop where
  proper : Proper observed
  hung : observed.ctx.hung = false
  beforeKeys : observed.ctx.stack.head?.any Frame.posts = false →
    observed.ctx.state.beforeKeys = true → observed.ctx.keyExchange = 1
  exchangesKeys : observed.ctx.stack.head?.any Frame.posts = false →
    observed.ctx.state.exchangesKeys = true → singleKey observed.ctx.keyExchange = true

/-- From the first bit on there is a bit of every set that is not empty. -/
theorem advanceKey_one (granted : UInt8) : granted ≠ 0 → advanceKey granted 9 1 ≠ none := by
  have hall : ∀ bits : BitVec 8, UInt8.ofBitVec bits ≠ 0 →
      advanceKey (UInt8.ofBitVec bits) 9 1 ≠ none := by
    decide +kernel
  exact hall granted.toBitVec

/-- From a bit on there is a bit of a set that has one of its multiples. -/
theorem advanceKey_single (key granted : UInt8) : singleKey key = true →
    (0 - key) &&& granted ≠ 0 → advanceKey granted 9 key ≠ none := by
  have hall : ∀ key : BitVec 8, singleKey (.ofBitVec key) = true → ∀ granted : BitVec 8,
      (0 - UInt8.ofBitVec key) &&& UInt8.ofBitVec granted ≠ 0 →
        advanceKey (.ofBitVec granted) 9 (.ofBitVec key) ≠ none := by
    decide +kernel
  exact fun hkey ↦ hall key.toBitVec hkey granted.toBitVec

/-- The next key is found when it is looked for. -/
theorem Exchanging.next {event : Event} (hexchanging : Exchanging observed)
    (hallowed : input.allowed observed = true) (hposts : Posts observed.ctx input event)
    (haction : (move observed.ctx.state event).1 = .sendNetKeyGet)
    (hgranted : observed.ctx.keyGranted ≠ 0) :
    advanceKey observed.ctx.keyGranted 9 observed.ctx.keyExchange ≠ none := by
  rcases (move_sendNetKeyGet _ _ haction).2 with ⟨hstate, rfl⟩ | ⟨hstate, rfl⟩
  · have hstack := hposts.stack_of_isReceived hallowed rfl
    rw [hexchanging.beforeKeys (by rw [hstack]; rfl) (by rw [hstate]; rfl)]
    exact advanceKey_one _ hgranted
  · have hstack := hposts.stack_of_isReceived hallowed rfl
    have hsingle := hexchanging.exchangesKeys (by rw [hstack]; rfl) (by rw [hstate]; rfl)
    generalize hevent : Event.transferEndRecv = event at hposts
    cases hposts with
    | received _ hnext => exact advanceKey_single _ _ hsingle (hnext hevent.symm)
    | sendDone success =>
      unfold sendDoneEvent at hevent
      split_ifs at hevent
    | _ => cases hevent

theorem posts_of_allowed (hallowed : input.allowed observed = true)
    (hret : ∀ success, input ≠ .ret success) :
    observed.ctx.stack.head?.any Frame.posts = false := by
  cases hstack : observed.ctx.stack with
  | nil => rfl
  | cons frame stack =>
    rcases allowed_running hallowed hret hstack with ⟨⟨_, rfl⟩, _⟩ | ⟨⟨_, rfl⟩ | rfl, _⟩
    · rfl
    · rfl
    · rfl

/-- A step that is no transition. -/
theorem Exchanging.stays {effect : Effect} {base : Context} (hexchanging : Exchanging observed)
    (hadvances : Advances observed input effect base observed')
    (hnew : effect.newState = none) (hhung : effect.hung = false) (hkept : effect.exchange = .kept)
    (hbase : base.state = observed.ctx.state ∧ base.hung = observed.ctx.hung ∧
      base.keyExchange = observed.ctx.keyExchange)
    (hposts : observed.ctx.stack.head?.any Frame.posts = false) (hproper : Proper observed') :
    Exchanging observed' := by
  obtain ⟨hstate, hbaseHung, hkey⟩ := hbase
  have hsame : observed'.ctx.state = observed.ctx.state := by
    rw [hadvances.produces.state, hnew]
    exact hstate
  have hexchange : observed'.ctx.keyExchange = observed.ctx.keyExchange := by
    have hrelates := hadvances.produces.exchange
    rw [hkept] at hrelates
    exact hrelates.trans hkey
  refine ⟨hproper, hadvances.produces.not_hung (hbaseHung.trans hexchanging.hung) hhung,
    fun _ ↦ ?_, fun _ ↦ ?_⟩
  · rw [hsame, hexchange]
    exact hexchanging.beforeKeys hposts
  · rw [hsame, hexchange]
    exact hexchanging.exchangesKeys hposts

/-- A transition of the table. -/
theorem Exchanging.moved {effect : Effect} {event : Event} {retry : UInt8}
    (hexchanging : Exchanging observed)
    (hadvances : Advances observed input effect
      { observed.ctx with state := (move observed.ctx.state event).2, retryCounter := retry }
      observed')
    (heffect : effect ∈ effects (move observed.ctx.state event).1)
    (hhung : observed'.ctx.hung = false)
    (hposts : observed.ctx.stack.head?.any Frame.posts = false) (hproper : Proper observed') :
    Exchanging observed' := by
  have hkeeps := (progresses_move observed.ctx.state event effect heffect).2.2
  obtain ⟨hnew, hstack, hbase, -, -, -, hkey⟩ := hadvances.produces
  have hends : effect.hung = false := by
    rw [hbase] at hhung
    exact (Bool.or_eq_false_iff.mp hhung).2
  rw [← hnew] at hkeeps
  simp only [keepsExchange, hends, Bool.or_false, Bool.or_eq_true, Bool.and_eq_true,
    Bool.not_eq_true', beq_iff_eq] at hkeeps
  rcases hkeeps with hcall | ⟨hbefore, hexchanges⟩
  · -- The frame was refused, and the state will be left.
    have hhead : observed'.ctx.stack.head?.any Frame.posts = true := by
      rw [hstack]
      cases hframe : effect.call with
      | none => simp [hframe] at hcall
      | some frame => simpa [hframe] using hcall
    exact ⟨hproper, hhung,
      fun hnone ↦ by simp [hhead] at hnone, fun hnone ↦ by simp [hhead] at hnone⟩
  · refine ⟨hproper, hhung, fun _ hstate ↦ ?_, fun _ hstate ↦ ?_⟩
    · rcases hbefore with (hother | hone) | ⟨hkept, hstate⟩
      · rw [hstate] at hother
        cases hother
      · rw [hone] at hkey
        exact hkey
      · rw [hkept] at hkey
        exact hkey.trans (hexchanging.beforeKeys hposts hstate)
    · rcases hexchanges with (hother | ⟨hsingle, hstate⟩) | ⟨hkept, hstate⟩
      · rw [hstate] at hother
        cases hother
      · rw [hsingle] at hkey
        refine hkey ?_
        rcases hstate with hstate | hstate
        · have hone : observed.ctx.keyExchange = 1 := hexchanging.beforeKeys hposts hstate
          exact hone ▸ rfl
        · exact hexchanging.exchangesKeys hposts hstate
      · rw [hkept] at hkey
        exact hkey ▸ hexchanging.exchangesKeys hposts hstate

/-- After a refusal the state is left. -/
theorem move_errorSent : ∀ state : IncState, move state .inclusionErrorSent =
    (.noAction, if state = .idle then .idle else .errorSent) := by
  decide +kernel

/-- After another failure the inclusion is ended. -/
theorem move_error : ∀ state : IncState, (move state .inclusionError).2 = .idle ∧
    ∀ effect ∈ effects (move state .inclusionError).1,
      effect.hung = false ∧ effect.newState = none := by
  decide +kernel

theorem Rest.effect_kept (rest : Rest) :
    rest.effect.newState = none ∧ rest.effect.hung = false ∧ rest.effect.exchange = .kept := by
  cases rest <;> exact ⟨rfl, rfl, rfl⟩

/-- Every step keeps the next key. -/
theorem Happens.exchanging (hhappens : Happens observed input observed')
    (hexchanging : Exchanging observed) : Exchanging observed' := by
  have hproper := hhappens.proper hexchanging.proper
  cases hhappens with
  | impossible hsame => exact hsame ▸ hexchanging
  | ignored hallowed hret _ hadvances =>
    exact hexchanging.stays hadvances rfl rfl rfl ⟨rfl, rfl, rfl⟩ (posts_of_allowed hallowed hret)
      hproper
  | refused _ hstack _ _ _ hadvances =>
    exact hexchanging.stays hadvances rfl rfl rfl ⟨rfl, rfl, rfl⟩ (by rw [hstack]; rfl) hproper
  | posted event retry effect hallowed hret hposts _ heffect hhung hadvances =>
    exact hexchanging.moved hadvances heffect (hhung (hexchanging.next hallowed hposts))
      (posts_of_allowed hallowed hret) hproper
  | returned success frame stack retry _ hstack hpost hadvances =>
    obtain ⟨hnew, hhung, hkept⟩ := frame.rest.effect_kept
    have hposts : observed.ctx.stack.head?.any Frame.posts = false := by
      rw [hstack]
      cases frame with
      | sendFrame rest => cases rest <;> first | rfl | cases hpost
      | _ => rfl
    exact hexchanging.stays hadvances hnew hhung hkept ⟨rfl, rfl, rfl⟩ hposts hproper
  | posting success frame stack retry event effect _ hstack hpost heffect hadvances =>
    obtain ⟨rfl, hevent⟩ := event_of_proper
      (hexchanging.proper frame (hstack ▸ mem_cons_self)) hpost
    -- The new state is none of those that exchange keys.
    obtain ⟨hstate, hhung⟩ : (observed'.ctx.state = .idle ∨ observed'.ctx.state = .errorSent) ∧
        effect.hung = false := by
      have hnew := hadvances.produces.state
      rcases hevent with rfl | rfl
      · rw [move_errorSent] at heffect hnew
        obtain rfl := mem_singleton.mp heffect
        refine ⟨?_, rfl⟩
        by_cases hidle : observed.ctx.state = .idle
        · exact .inl (by simpa [hidle] using hnew)
        · exact .inr (by simpa [hidle] using hnew)
      · obtain ⟨hidle, heffects⟩ := move_error observed.ctx.state
        obtain ⟨hends, hnone⟩ := heffects effect heffect
        rw [hnone, hidle] at hnew
        exact ⟨.inl hnew, hends⟩
    refine ⟨hproper, hadvances.produces.not_hung hexchanging.hung hhung, fun _ hbefore ↦ ?_,
      fun _ hexchanges ↦ ?_⟩
    · rcases hstate with hstate | hstate
      all_goals
        rw [hstate] at hbefore
        cases hbefore
    · rcases hstate with hstate | hstate
      all_goals
        rw [hstate] at hexchanges
        cases hexchanges

/-! ### Ways out -/

theorem live_of_armed (harmed : observed.armed = true) : observed.live = true := by
  simp [Observed.live, harmed]

theorem live_of_arms {frame : Frame} (hframe : frame ∈ observed.ctx.stack)
    (harms : frame.arms = true) : observed.live = true := by
  have hany : observed.ctx.stack.any Frame.arms = true := any_eq_true.mpr ⟨frame, hframe, harms⟩
  simp [Observed.live, hany]

theorem live_of_excused (hexcused : observed.excused = true) : observed.live = true := by
  simp [Observed.live, hexcused]

theorem live_of_idle (hidle : observed.ctx.state = .idle) : observed.live = true := by
  refine live_of_excused ?_
  rw [Observed.excused, hidle]

/-- In a state that waits for a report, one that will come is a way out. -/
theorem live_of_awaiting (hstate : observed.ctx.state.waitsForReport = true)
    (hawaiting : observed.awaiting = true) : observed.live = true := by
  refine live_of_excused ?_
  unfold IncState.waitsForReport at hstate
  unfold Observed.excused
  split at hstate
  · rename_i hsent
    rw [hsent]
    exact hawaiting
  · rename_i hfinal
    rw [hfinal, hawaiting]
    rfl
  · cases hstate

/-- The ways out when no event follows the function that is running. -/
theorem live_cases (hlive : observed.live = true)
    (hposts : observed.ctx.stack.head?.any Frame.posts = false) :
    observed.ctx.state = .idle ∨ observed.armed = true ∨
      (∃ frame ∈ observed.ctx.stack, frame.arms = true) ∨
      observed.ctx.state.waitsForReport = true ∧
        (observed.awaiting = true ∨
          observed.fresh = true ∧ observed.ctx.stack.head?.any Frame.sends = true) := by
  have hpost : observed.ctx.stack.head? ≠ some (.sendFrame (.post .inclusionError)) := by
    intro hhead
    rw [hhead] at hposts
    cases hposts
  unfold Observed.live at hlive
  rw [Bool.or_eq_true, Bool.or_eq_true, any_eq_true] at hlive
  rcases hlive with (harmed | harms) | hexcused
  · exact .inr (.inl harmed)
  · exact .inr (.inr (.inl harms))
  unfold Observed.excused at hexcused
  split at hexcused
  · exact .inl (by assumption)
  · rename_i hsent
    exact .inr (.inr (.inr ⟨by rw [hsent]; rfl, .inl hexcused⟩))
  · rename_i hfinal
    simp only [Bool.or_eq_true, Bool.and_eq_true, beq_iff_eq, hpost, or_false] at hexcused
    exact .inr (.inr (.inr ⟨by rw [hfinal]; rfl, hexcused⟩))
  · rw [hposts] at hexcused
    cases hexcused

theorem awaits_of_not_report (hret : ∀ success, input ≠ .ret success)
    (hreport : input.isReport = false) : observed.awaits input = observed.awaiting := by
  unfold Observed.awaits
  split
  · cases hreport
  · exact absurd rfl (hret _)
  · exact absurd rfl (hret _)
  · exact absurd rfl (hret _)
  · rfl

theorem isTimeout_of_not_report (hreport : input.isReport = false) : input.isTimeout = false := by
  cases input <;> first | rfl | cases hreport

/-- While `S2_send_data` is running, it reports. -/
theorem isReport_of_sends (hallowed : input.allowed observed = true)
    (hret : ∀ success, input ≠ .ret success)
    (hsends : observed.ctx.stack.head?.any Frame.sends = true) : input = .sendDone false := by
  cases hstack : observed.ctx.stack with
  | nil => simp [hstack] at hsends
  | cons frame stack =>
    rcases allowed_running hallowed hret hstack with ⟨⟨_, rfl⟩, _⟩ | ⟨_, hinput, _⟩
    · simp [hstack, Frame.sends] at hsends
    · exact hinput

/-- A step that keeps the timer and the state keeps the ways out, when it is no report. -/
theorem live_of_kept {effect : Effect} {base : Context}
    (hadvances : Advances observed input effect base observed') (hlive : observed.live = true)
    (hallowed : input.allowed observed = true) (hret : ∀ success, input ≠ .ret success)
    (hreport : input.isReport = false) (htimer : effect.timer = none)
    (hnew : effect.newState = none)
    (hbase : base.state = observed.ctx.state ∧ base.stack = observed.ctx.stack) :
    observed'.live = true := by
  have hstate : observed'.ctx.state = observed.ctx.state := by
    rw [hadvances.produces.state, hnew]
    exact hbase.1
  have harmed' : observed'.armed = observed.armed := by
    rw [hadvances.armed, htimer, isTimeout_of_not_report hreport]
    simp
  have hawaiting' : observed'.awaiting = observed.awaiting := by
    rw [hadvances.awaiting, awaits_of_not_report hret hreport]
  rcases live_cases hlive (posts_of_allowed hallowed hret) with
    hidle | harmed | ⟨frame, hframe, harms⟩ | ⟨hwaits, hawaiting | ⟨-, hsends⟩⟩
  · exact live_of_idle (hstate.trans hidle)
  · exact live_of_armed (harmed'.trans harmed)
  · have hkept : frame ∈ observed'.ctx.stack := by
      rw [hadvances.produces.stack, hbase.2]
      exact mem_append_right _ hframe
    exact live_of_arms hkept harms
  · exact live_of_awaiting (hstate ▸ hwaits) (hawaiting'.trans hawaiting)
  · rw [isReport_of_sends hallowed hret hsends] at hreport
    cases hreport

/-- The events of inputs: not the one after a refusal, and a report is an input that reports. -/
theorem Posts.event_facts {event : Event} (hposts : Posts observed.ctx input event) :
    event ≠ .inclusionErrorSent ∧
      (input.isTimeout = true → event = .inclusionTimeout ∨
        observed.ctx.state = .echoKexSetSending ∧ event = .inclusionRetry) ∧
      (input.isReport = true → event = .inclusionTimeout ∨ event.isReport = true) := by
  cases hposts with
  | received hevent _ =>
    refine ⟨fun hsent ↦ ?_, nofun, nofun⟩
    rw [hsent] at hevent
    cases hevent
  | accept huser =>
    refine ⟨nofun, fun htimeout ↦ ?_, fun hreport ↦ ?_⟩
    · cases input <;> first | (cases htimeout; done) | cases huser
    · cases input <;> first | (cases hreport; done) | cases huser
  | reject huser =>
    refine ⟨nofun, fun htimeout ↦ ?_, fun hreport ↦ ?_⟩
    · cases input <;> first | (cases htimeout; done) | cases huser
    · cases input <;> first | (cases hreport; done) | cases huser
  | timeout => exact ⟨nofun, fun _ ↦ .inl rfl, fun _ ↦ .inl rfl⟩
  | echo hstate => exact ⟨nofun, fun _ ↦ .inr ⟨hstate, rfl⟩, fun _ ↦ .inr rfl⟩
  | sendDone success =>
    unfold sendDoneEvent
    refine ⟨?_, nofun, fun _ ↦ .inr ?_⟩
    · split_ifs <;> nofun
    · split_ifs <;> rfl
  | _ => exact ⟨nofun, nofun, nofun⟩

/-- A transition of the table keeps a way out. -/
theorem live_of_move {effect : Effect} {event : Event} {retry : UInt8}
    (hadvances : Advances observed input effect
      { observed.ctx with state := (move observed.ctx.state event).2, retryCounter := retry }
      observed')
    (hlive : observed.live = true) (hallowed : input.allowed observed = true)
    (hret : ∀ success, input ≠ .ret success) (hposts : Posts observed.ctx input event)
    (heffect : effect ∈ effects (move observed.ctx.state event).1)
    (hhung : observed'.ctx.hung = false) : observed'.live = true := by
  have hkeeps := (progresses_move observed.ctx.state event effect heffect).1
  obtain ⟨hnew, hstack, hbase, -, -, -, -⟩ := hadvances.produces
  have hends : effect.hung = false := by
    rw [hbase] at hhung
    exact (Bool.or_eq_false_iff.mp hhung).2
  obtain ⟨hnotSent, htimeouts, hreports⟩ := hposts.event_facts
  rw [← hnew] at hkeeps
  simp only [keepsLive, hends, Bool.or_false, Bool.or_eq_true, Bool.and_eq_true, Bool.not_eq_true',
    Bool.and_eq_false_iff, beq_iff_eq, bne_iff_ne, beq_eq_false_iff_ne] at hkeeps
  rcases hkeeps with (((((hsent | hidle) | harmed) | harms) | ⟨⟨hpost, hother⟩, hfinal⟩) |
    ⟨hfinal, hcall⟩) | ⟨⟨⟨⟨htimer, htimeout⟩, hunder⟩, hecho⟩, hwaits⟩
  · exact absurd hsent hnotSent
  · exact live_of_idle hidle
  · refine live_of_armed ?_
    rw [hadvances.armed, harmed]
    rfl
  · cases hcall : effect.call with
    | none => simp [hcall] at harms
    | some frame =>
      have hframe : frame ∈ observed'.ctx.stack := by
        rw [hstack, hcall]
        exact mem_cons_self
      exact live_of_arms hframe (by simpa [hcall] using harms)
  · -- The frame is refused, and the state left when the call returns.
    cases hcall : effect.call with
    | none => simp [hcall] at hpost
    | some frame =>
      rw [hcall] at hpost hfinal hstack
      refine live_of_excused ?_
      unfold Observed.excused
      rw [hstack]
      split
      · rfl
      · rename_i hsent
        exact absurd hsent hother
      · rename_i hstate
        have hframe : some frame = some (Frame.sendFrame (.post .inclusionError)) :=
          hfinal.resolve_left fun hne ↦ hne hstate
        rw [Option.some.inj hframe]
        simp
      · exact hpost
  · refine live_of_excused ?_
    unfold Observed.excused
    rw [hfinal, hstack, hadvances.fresh, hcall]
    simp [Frame.sends]
  · -- The timer is kept. A state that waits for a report is kept too, when this is none.
    have hnotTimeout : input.isTimeout = false := by
      by_contra htimed
      rcases htimeouts (by simpa using htimed) with hevent | ⟨hstate, hevent⟩
      · exact htimeout hevent
      · rcases hecho with hecho | hecho
        · exact hecho hstate
        · exact hecho hevent
    have harmed' : observed'.armed = observed.armed := by
      rw [hadvances.armed, htimer, hnotTimeout]
      simp
    rcases live_cases hlive (posts_of_allowed hallowed hret) with
      hidle | harmed | ⟨frame, hframe, harms⟩ | ⟨hstate, hreport⟩
    · exact absurd hidle hunder
    · exact live_of_armed (harmed'.trans harmed)
    · have hkept : frame ∈ observed'.ctx.stack := by
        rw [hstack]
        exact mem_append_right _ hframe
      exact live_of_arms hkept harms
    · rcases hwaits with hnot | ⟨hsame, hnoReport⟩
      · rw [hstate] at hnot
        cases hnot
      have hinput : input.isReport = false := by
        by_contra hreported
        rcases hreports (by simpa using hreported) with hevent | hevent
        · exact htimeout hevent
        · rw [hevent] at hnoReport
          cases hnoReport
      rcases hreport with hawaiting | ⟨-, hsends⟩
      · refine live_of_awaiting (hsame ▸ hstate) ?_
        rw [hadvances.awaiting, awaits_of_not_report hret hinput]
        exact hawaiting
      · rw [isReport_of_sends hallowed hret hsends] at hinput
        cases hinput

/-- What a call that starts the timer does when it returns. -/
theorem frame_arms {frame : Frame} (hproper : frame.proper = true) (harms : frame.arms = true) :
    frame.rest.effect.timer = some true ∨
      ∃ call, frame.rest.effect.call = some call ∧ call.arms = true := by
  cases frame with
  | sendEcho => exact .inl rfl
  | _ rest =>
    cases rest <;> first
      | (cases harms; done)
      | (cases hproper; done)
      | exact .inl rfl
      | exact .inr ⟨_, rfl, rfl⟩

/-- The calls after which nothing follows. -/
theorem frame_done {frame : Frame} (hproper : frame.proper = true)
    (hpost : frame.rest.isPost = false) (harms : frame.arms = false)
    (hfails : frame.fails = false) : frame.rest = .done := by
  cases frame with
  | sendEcho => cases harms
  | _ rest =>
    cases rest <;> first
      | rfl
      | (cases harms; done)
      | (cases hfails; done)
      | (cases hpost; done)
      | cases hproper

/-- A return keeps a way out. -/
theorem live_of_return {success : Bool} {frame : Frame} {stack : List Frame} {retry : UInt8}
    (hcounted : Counted observed) (hlive : observed.live = true)
    (hinput : input = .ret success) (hstack : observed.ctx.stack = frame :: stack)
    (hpost : frame.rest.isPost = false)
    (hadvances : Advances observed input frame.rest.effect
      { observed.ctx with stack, retryCounter := retry } observed') : observed'.live = true := by
  have hproper := hcounted.proper frame (hstack ▸ mem_cons_self)
  have hstate : observed'.ctx.state = observed.ctx.state := by
    rw [hadvances.produces.state, frame.rest.effect_kept.1]
    rfl
  cases harms : frame.arms with
  | true =>
    rcases frame_arms hproper harms with htimer | ⟨call, hcall, hcallArms⟩
    · refine live_of_armed ?_
      rw [hadvances.armed, htimer]
      rfl
    · have hmem : call ∈ observed'.ctx.stack := by
        rw [hadvances.produces.stack, hcall]
        exact mem_cons_self
      exact live_of_arms hmem hcallArms
  | false =>
    cases hfails : frame.fails with
    | true =>
      obtain ⟨hidle, -⟩ := hcounted.failing (by rw [hstack]; exact hfails)
      exact live_of_idle (hstate.trans hidle)
    | false =>
      have hdone := frame_done hproper hpost harms hfails
      rw [hdone] at hadvances
      have hposts : observed.ctx.stack.head?.any Frame.posts = false := by
        rw [hstack]
        cases frame with
        | sendFrame rest =>
          obtain rfl : rest = .done := hdone
          rfl
        | _ => rfl
      have harmed' : observed'.armed = observed.armed := by
        rw [hadvances.armed, hinput]
        exact Bool.and_true _
      -- A call of `S2_send_data` that did not report leaves a frame on its way.
      have hawaits : observed.awaiting = true ∨
          observed.fresh = true ∧ observed.ctx.stack.head?.any Frame.sends = true →
            observed'.awaiting = true := by
        intro hreport
        rw [hadvances.awaiting, hinput]
        unfold Observed.awaits
        rw [hstack] at hreport ⊢
        cases frame <;> rcases hreport with hawaiting | ⟨hfresh, hsends⟩ <;>
          first | (cases hsends; done) | simp [*]
      rcases live_cases hlive hposts with hidle | harmed | ⟨other, hother,
        hotherArms⟩ | ⟨hwaits, hreport⟩
      · exact live_of_idle (hstate.trans hidle)
      · exact live_of_armed (harmed'.trans harmed)
      · rw [hstack] at hother
        rcases mem_cons.mp hother with rfl | hbelow
        · rw [harms] at hotherArms
          cases hotherArms
        · have hmem : other ∈ observed'.ctx.stack := by
            rw [hadvances.produces.stack]
            exact mem_append_right _ hbelow
          exact live_of_arms hmem hotherArms
      · exact live_of_awaiting (hstate ▸ hwaits) (hawaits hreport)

/-- Every step that sends its refusal keeps a way out. -/
theorem Happens.live (hhappens : Happens observed input observed') (hcounted : Counted observed)
    (hhung : observed'.ctx.hung = false) (hsent : RefusalSent observed input)
    (hlive : observed.live = true) : observed'.live = true := by
  cases hhappens with
  | impossible hsame => exact hsame ▸ hlive
  | ignored hallowed hret hreport hadvances =>
    exact live_of_kept hadvances hlive hallowed hret hreport rfl rfl ⟨rfl, rfl⟩
  | refused hallowed hstack _ hret hreport hadvances =>
    exact live_of_kept hadvances hlive hallowed hret hreport rfl rfl ⟨rfl, rfl⟩
  | posted event retry effect hallowed hret hposts _ heffect _ hadvances =>
    exact live_of_move hadvances hlive hallowed hret hposts heffect hhung
  | returned success frame stack retry hinput hstack hpost hadvances =>
    exact live_of_return hcounted hlive hinput hstack hpost hadvances
  | posting success frame stack retry event effect hinput hstack hpost heffect hadvances =>
    obtain ⟨rfl, hevent⟩ := event_of_proper
      (hcounted.proper frame (hstack ▸ mem_cons_self)) hpost
    have hnew := hadvances.produces.state
    rcases hevent with rfl | rfl
    · rw [move_errorSent] at heffect hnew
      obtain rfl := mem_singleton.mp heffect
      by_cases hidle : observed.ctx.state = .idle
      · exact live_of_idle (by simpa [hidle] using hnew)
      have hstate : observed'.ctx.state = .errorSent := by simpa [hidle] using hnew
      rw [hinput] at hadvances hsent
      have harmed' : observed'.armed = observed.armed :=
        hadvances.armed.trans (Bool.and_true _)
      have hawaiting' : observed'.awaiting = (observed.awaiting || success) := by
        rw [hadvances.awaiting]
        unfold Observed.awaits
        rw [hstack]
      cases success with
      | true =>
        refine live_of_awaiting (by rw [hstate]; rfl) ?_
        rw [hawaiting', Bool.or_true]
      | false =>
        unfold RefusalSent at hsent
        rw [hstack] at hsent
        rcases hsent with harmed | hawaiting
        · exact live_of_armed (harmed'.trans harmed)
        · refine live_of_awaiting (by rw [hstate]; rfl) ?_
          rw [hawaiting', hawaiting]
          rfl
    · obtain ⟨hidle, heffects⟩ := move_error observed.ctx.state
      rw [(heffects effect heffect).2, hidle] at hnew
      exact live_of_idle hnew

end Steps

/-! ### Runs -/

theorem initialized_ctx (start : Context) : (initialized start).ctx.stack = [] ∧
    (initialized start).ctx.state = .idle ∧ (initialized start).ctx.hung = false := by
  obtain ⟨acts, loadedKeys, -, hrestored⟩ := restoreKeys_eq (atRest start)
  rw [initialized, hrestored]
  exact ⟨rfl, rfl, rfl⟩

theorem counted_initialized (start : Context) : Counted (initialized start) := by
  obtain ⟨hstack, hstate, -⟩ := initialized_ctx start
  refine ⟨?_, fun _ ↦ rfl, zero_le_one, ?_, ?_⟩
  · intro frame hframe
    rw [hstack] at hframe
    cases hframe
  · exact fun _ ↦ ⟨hstate, rfl⟩
  · simp [hstack]

theorem exchanging_initialized (start : Context) : Exchanging (initialized start) := by
  obtain ⟨hstack, hstate, hhung⟩ := initialized_ctx start
  refine ⟨(counted_initialized start).proper, hhung, fun _ hbefore ↦ ?_, fun _ hexchanges ↦ ?_⟩
  · rw [hstate] at hbefore
    cases hbefore
  · rw [hstate] at hexchanges
    cases hexchanges

/-- The count and the next key are kept by all runs. -/
theorem run_counted (env : Env) (start : Context) (inputs : List Input) :
    Counted (run (observe env) (initialized start) inputs) ∧
      Exchanging (run (observe env) (initialized start) inputs) := by
  have hstep : ∀ observed input, Counted observed ∧ Exchanging observed →
      Counted (observe env observed input) ∧ Exchanging (observe env observed input) := by
    intro observed input hbefore
    exact ⟨(observe_happens env observed input).counted hbefore.1,
      (observe_happens env observed input).exchanging hbefore.2⟩
  exact run_invariant hstep ⟨counted_initialized start, exchanging_initialized start⟩ inputs

/-- Each inclusion is ended at most once, in every run. In every run in which the `KEX_FAIL` frames
are sent or there is another way out, an inclusion that is under way has the timer or a report
before it. -/
theorem inclusion_progresses (env : Env) (start : Context) (inputs : List Input) :
    EndsOnce (run (observe env) (initialized start) inputs) ∧
      (AllSteps (observe env) RefusalSent (initialized start) inputs →
        NeverHangs (run (observe env) (initialized start) inputs)) := by
  refine ⟨(run_counted env start inputs).1.once, fun hsent hstack hstate ↦ ?_⟩
  obtain ⟨hstack₀, hstate₀, -⟩ := initialized_ctx start
  have hlive : (run (observe env) (initialized start) inputs).live = true := by
    have hinvariant : ∀ observed input, RefusalSent observed input →
        (Counted observed ∧ Exchanging observed ∧ observed.live = true) →
        Counted (observe env observed input) ∧ Exchanging (observe env observed input) ∧
          (observe env observed input).live = true := by
      rintro observed input hinput ⟨hcounted, hexchanging, hlive⟩
      have hhappens := observe_happens env observed input
      have hnext := hhappens.exchanging hexchanging
      exact ⟨hhappens.counted hcounted, hnext, hhappens.live hcounted hnext.hung hinput hlive⟩
    exact (run_invariant_of_allSteps hinvariant
      ⟨counted_initialized start, exchanging_initialized start, live_of_idle hstate₀⟩ hsent).2.2
  refine ⟨(run_counted env start inputs).2.hung, ?_⟩
  rcases live_cases hlive (by rw [hstack]; rfl) with
    hidle | harmed | ⟨frame, hframe, -⟩ | ⟨-, hawaiting | ⟨-, hsends⟩⟩
  · exact absurd hidle hstate
  · exact .inl harmed
  · rw [hstack] at hframe
    cases hframe
  · exact .inr hawaiting
  · rw [hstack] at hsends
    cases hsends

/-- In every run the loop of `s2_send_net_key_get` ends. Between two inputs, `key_exchange` is 1
before the first key is asked for, and has at most one bit from then on: none after the S0 key was
accepted. -/
theorem key_search_ends (env : Env) (start : Context) (inputs : List Input) :
    let ctx := (run (observe env) (initialized start) inputs).ctx
    ctx.hung = false ∧ (ctx.stack = [] →
      (ctx.state.beforeKeys = true → ctx.keyExchange = 1) ∧
        (ctx.state.exchangesKeys = true → singleKey ctx.keyExchange = true)) := by
  have hexchanging := (run_counted env start inputs).2
  refine ⟨hexchanging.hung, fun hstack ↦ ?_⟩
  exact ⟨hexchanging.beforeKeys (by rw [hstack]; rfl),
    hexchanging.exchangesKeys (by rw [hstack]; rfl)⟩

instance (observed : Observed) (input : Input) : Decidable (RefusalSent observed input) := by
  unfold RefusalSent
  split <;> infer_instance

/-- The keys are granted and the public keys exchanged, and the node is about to be asked for a
key. -/
theorem inclusion_progresses_grantInputs :
    AllSteps (observe sampleEnv) RefusalSent (initialized sampleContext)
        (grantInputs keyClassUnauthenticated) ∧
      (run (observe sampleEnv) (initialized sampleContext)
        (grantInputs keyClassUnauthenticated)).ctx.state = .awaitingNetKeyGet ∧
      NeverHangs (run (observe sampleEnv) (initialized sampleContext)
        (grantInputs keyClassUnauthenticated)) := by
  have hsent : AllSteps (observe sampleEnv) RefusalSent (initialized sampleContext)
      (grantInputs keyClassUnauthenticated) := by
    decide +kernel
  refine ⟨hsent, by decide +kernel, ?_⟩
  exact (inclusion_progresses sampleEnv sampleContext (grantInputs keyClassUnauthenticated)).2 hsent

/-- Node 5 reports a scheme that is not supported, and `S2_send_frame` refuses the `KEX_FAIL`
frame. -/
def refusedInputs : List Input :=
  [.includingStart ⟨1, 5, 0, 0, 0, nonSecure⟩, .ret true, .sendDone true,
    frameOf nonSecure [commandClassSecurity2, kexReport, 0, 0, curve25519, keyClassUnauthenticated],
    .ret false]

/-- The machine is in `S2_ERROR_SENT`, with the timer stopped and nothing sent. -/
theorem refused_error_hangs :
    ¬ ∀ (env : Env) (start : Context) (inputs : List Input),
      EndsOnce (run (observe env) (initialized start) inputs) ∧
        NeverHangs (run (observe env) (initialized start) inputs) := by
  intro hall
  have hstack :
      (run (observe sampleEnv) (initialized sampleContext) refusedInputs).ctx.stack = [] := by
    decide +kernel
  have hstate : (run (observe sampleEnv) (initialized sampleContext) refusedInputs).ctx.state =
      .errorSent := by
    decide +kernel
  have hlost : (run (observe sampleEnv) (initialized sampleContext) refusedInputs).armed = false ∧
      (run (observe sampleEnv) (initialized sampleContext) refusedInputs).awaiting = false := by
    decide +kernel
  obtain ⟨-, hprogress⟩ := (hall sampleEnv sampleContext refusedInputs).2 hstack (by simp [hstate])
  simp [hlost] at hprogress

end ZipGateway.Inclusion
