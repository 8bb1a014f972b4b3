import ZipGateway.Inclusion.Footprint

/-!
# The class of a retransmission

A frame that the including node sends is handed to `S2_send_frame`, or to `S2_send_data` under a
class. When its transmission fails it is sent again from the same buffer, and the class is the one
that `inclusion_peer` has at that moment. `RetriesKeepClass` says that this is the class of the
first transmission, and `KeysUnderTemp` that a frame that carries a network key goes out under the
temporary key.

A received frame overwrites the class of `inclusion_peer` before it is known whether the frame means
anything. A frame that is then ignored, under another class than the temporary key, while a frame
may still be sent again, is what goes wrong (`key_report_under_other_key`). In a run without such
frames both properties hold (`retries_keep_class`): the machine is in a state that resends with
`S2_send_data` only when the frame in the buffer was first sent under the temporary key, and the
class is still that of the temporary key as long as there is a retry left.
-/

set_option autoImplicit false

namespace ZipGateway.Inclusion

open Lib List SecurityS2

/-! ### The two properties of the log -/

def isNetworkKeyReport (frame : List UInt8) : Bool :=
  frame.take 2 == [commandClassSecurity2, networkKeyReport]

/-- A frame is sent for the first time. -/
def Act.isFirst : Act → Bool
  | .sentFrame _ _ again | .sentData _ _ again => !again
  | _ => false

/-- A frame is sent again. -/
def Act.isAgain : Act → Bool
  | .sentFrame _ _ again | .sentData _ _ again => again
  | _ => false

/-- A network key report is sent. -/
def Act.carriesKey : Act → Bool
  | .sentFrame _ frame _ | .sentData _ frame _ => isNetworkKeyReport frame
  | _ => false

/-- The class under which a frame is given to `S2_send_data`, and none for `S2_send_frame`. -/
def Act.sentUnder : Act → Option UInt8
  | .sentData con _ _ => some con.classId
  | _ => none

/-- How the newest frame was sent for the first time. -/
def firstUnder (log : List Act) : Option (Option UInt8) :=
  (log.find? Act.isFirst).map Act.sentUnder

/-- Every retransmission goes out as the frame did for the first time. -/
def RetriesKeepClass (log : List Act) : Prop :=
  ∀ later act older, log = later ++ act :: older → act.isAgain = true →
    firstUnder older = some act.sentUnder

/-- Every network key report is given to `S2_send_data` under the temporary key. -/
def KeysUnderTemp (log : List Act) : Prop :=
  ∀ act ∈ log, act.carriesKey = true → act.sentUnder = some tempKeySecure

instance (log : List Act) : Decidable (KeysUnderTemp log) :=
  inferInstanceAs
    (Decidable (∀ act ∈ log, act.carriesKey = true → act.sentUnder = some tempKeySecure))

theorem retriesKeepClass_cons {act : Act} {log : List Act} (hlog : RetriesKeepClass log)
    (hact : act.isAgain = true → firstUnder log = some act.sentUnder) :
    RetriesKeepClass (act :: log) := by
  intro later act' older hsplit hagain
  cases later with
  | nil =>
    obtain ⟨rfl, rfl⟩ := List.cons.inj hsplit
    exact hact hagain
  | cons _ later => exact hlog later act' older (List.cons.inj hsplit).2 hagain

theorem keysUnderTemp_cons {act : Act} {log : List Act} (hlog : KeysUnderTemp log)
    (hact : act.carriesKey = true → act.sentUnder = some tempKeySecure) :
    KeysUnderTemp (act :: log) := by
  intro act' hmem
  rcases mem_cons.mp hmem with rfl | hmem
  · exact hact
  · exact hlog act' hmem

/-- A frame is sent. -/
def Act.sends : Act → Bool
  | .sentFrame _ _ _ | .sentData _ _ _ => true
  | _ => false

theorem Act.sends_of_isQuiet {act : Act} (hact : act.isQuiet = true) : act.sends = false := by
  cases act <;> simp_all [Act.isQuiet, Act.sends]

/-- Acts that send nothing change neither how the newest frame was sent first nor whether the log is
right. -/
theorem log_of_not_sends (acts log : List Act) (hacts : ∀ act ∈ acts, act.sends = false) :
    firstUnder (acts ++ log) = firstUnder log ∧
      (RetriesKeepClass log → RetriesKeepClass (acts ++ log)) ∧
      (KeysUnderTemp log → KeysUnderTemp (acts ++ log)) := by
  induction acts with
  | nil => exact ⟨rfl, id, id⟩
  | cons act acts ih =>
    have hact := hacts act mem_cons_self
    obtain ⟨hunder, hretries, hreports⟩ := ih fun act hact ↦ hacts act (mem_cons_of_mem _ hact)
    have hnone : act.isFirst = false ∧ act.isAgain = false ∧ act.carriesKey = false := by
      cases act <;> simp_all [Act.sends, Act.isFirst, Act.isAgain, Act.carriesKey]
    obtain ⟨hfirst, hagain, hkey⟩ := hnone
    refine ⟨?_, fun hlog ↦ ?_, fun hlog ↦ ?_⟩
    · rw [← hunder, cons_append]
      unfold firstUnder
      rw [List.find?_cons_of_neg (by simp [hfirst])]
    · exact retriesKeepClass_cons (hretries hlog) (by simp [hagain])
    · exact keysUnderTemp_cons (hreports hlog) (by simp [hkey])

/-! ### The invariant -/

/-- The stack frame is of `s2_inclusion_send_data`. -/
def Frame.isSendData : Frame → Bool
  | .sendData _ => true
  | _ => false

/-- What holds in every state. -/
structure Base (ctx : Context) : Prop where
  including : ctx.state.including = true
  frames : ∀ frame ∈ ctx.stack, frame.including = true
  retries : RetriesKeepClass ctx.log
  reports : KeysUnderTemp ctx.log

theorem Base.copy {ctx ctx' : Context} (hbase : Base ctx) (hstate : ctx'.state = ctx.state)
    (hstack : ctx'.stack = ctx.stack) (hlog : ctx'.log = ctx.log) : Base ctx' := by
  obtain ⟨hincluding, hframes, hretries, hreports⟩ := hbase
  rw [← hstate] at hincluding
  rw [← hstack] at hframes
  rw [← hlog] at hretries hreports
  exact ⟨hincluding, hframes, hretries, hreports⟩

/-- The frame in the buffer was sent first as a retry in this state sends it. -/
structure Ready (ctx : Context) : Prop where
  data : ctx.state.resendsData = true →
    (∀ frame ∈ ctx.stack, frame.isSendData = true) ∧ firstUnder ctx.log = some (some tempKeySecure)
  frame : ctx.state.resendsFrame = true →
    firstUnder ctx.log = some none ∧ isNetworkKeyReport ctx.frame = false

/-- The class is that of the temporary key, unless nothing can be sent again. -/
def ClassKept (ctx : Context) : Prop :=
  ctx.state.resendsData = true →
    ctx.peer.classId = tempKeySecure ∨ ctx.retryCounter = noRetries ∧ ctx.stack = []

/-- The invariant. -/
def Sound (ctx : Context) : Prop :=
  Base ctx ∧ (Refusing ctx ∨ Ready ctx ∧ ClassKept ctx)

/-- The state is one of those in which nothing is sent again. -/
def IncState.silent (state : IncState) : Bool :=
  !state.resendsData && !state.resendsFrame

theorem ready_of_silent {ctx : Context} (hsilent : ctx.state.silent = true) :
    Ready ctx ∧ ClassKept ctx := by
  simp only [IncState.silent, Bool.and_eq_true, Bool.not_eq_true'] at hsilent
  refine ⟨⟨fun hdata ↦ ?_, fun hframe ↦ ?_⟩, fun hdata ↦ ?_⟩
  · rw [hsilent.1] at hdata
    cases hdata
  · rw [hsilent.2] at hframe
    cases hframe
  · rw [hsilent.1] at hdata
    cases hdata

theorem sound_of_silent {ctx : Context} (hbase : Base ctx) (hsilent : ctx.state.silent = true) :
    Sound ctx :=
  ⟨hbase, Or.inr (ready_of_silent hsilent)⟩

/-! ### Quiet steps -/

section Quiet

variable {ctx ctx' : Context}

theorem Base.quiet (hbase : Base ctx) (hquiet : Quiet ctx ctx') : Base ctx' := by
  obtain ⟨acts, _, _, hacts, rfl⟩ := hquiet
  obtain ⟨-, hretries, hreports⟩ :=
    log_of_not_sends _ ctx.log fun act hact ↦ Act.sends_of_isQuiet (hacts act hact)
  exact ⟨hbase.including, hbase.frames, hretries hbase.retries, hreports hbase.reports⟩

theorem Ready.quiet (hready : Ready ctx) (hquiet : Quiet ctx ctx') : Ready ctx' := by
  obtain ⟨acts, _, _, hacts, rfl⟩ := hquiet
  obtain ⟨hunder, -, -⟩ :=
    log_of_not_sends _ ctx.log fun act hact ↦ Act.sends_of_isQuiet (hacts act hact)
  refine ⟨fun hdata ↦ ?_, fun hframe ↦ ?_⟩
  · exact ⟨(hready.data hdata).1, hunder.trans (hready.data hdata).2⟩
  · exact ⟨hunder.trans (hready.frame hframe).1, (hready.frame hframe).2⟩

theorem ClassKept.quiet (hkept : ClassKept ctx) (hquiet : Quiet ctx ctx') : ClassKept ctx' := by
  obtain ⟨acts, _, _, hacts, rfl⟩ := hquiet
  exact hkept

theorem Sound.quiet (hsound : Sound ctx) (hquiet : Quiet ctx ctx') : Sound ctx' := by
  refine ⟨hsound.1.quiet hquiet, hsound.2.imp (fun hrefusing ↦ ?_) fun hready ↦ ?_⟩
  · obtain ⟨acts, _, _, hacts, rfl⟩ := hquiet
    exact hrefusing
  · exact ⟨hready.1.quiet hquiet, hready.2.quiet hquiet⟩

end Quiet

/-! ### The functions that send -/

section Send

variable {ctx : Context} {rest : Rest}

/-- `S2_send_data` does not change the class of the temporary key. -/
theorem convertNormalToLr_temp {con : Connection} (hclass : con.classId = tempKeySecure) :
    (convertNormalToLr con).classId = tempKeySecure := by
  have haccess : con.classId ≠ accessKeySlot := by
    rw [hclass]
    decide
  have hauthenticated : con.classId ≠ authenticatedKeySlot := by
    rw [hclass]
    decide
  rw [convertNormalToLr, if_neg haccess, if_neg hauthenticated, ite_self, hclass]

/-- A frame is built and sent, in a state that resends with `S2_send_frame` or not at all. -/
theorem sendNewFrame_sound (hbase : Base ctx) (hdata : ctx.state.resendsData = false)
    {bytes : List UInt8} (hbytes : isNetworkKeyReport bytes = false)
    (hrest : (Frame.sendFrame rest).including = true) : Sound (sendNewFrame bytes rest ctx) := by
  have hstate : (sendNewFrame bytes rest ctx).state.resendsData = false := hdata
  refine ⟨⟨hbase.including, ?_, ?_, ?_⟩, Or.inr ⟨⟨fun hresends ↦ ?_, fun _ ↦ ⟨?_, ?_⟩⟩, ?_⟩⟩
  · intro frame hmem
    rcases mem_cons.mp hmem with rfl | hmem
    · exact hrest
    · exact hbase.frames frame hmem
  · rw [sendNewFrame_log]
    exact retriesKeepClass_cons hbase.retries (by simp [Act.isAgain])
  · rw [sendNewFrame_log]
    refine keysUnderTemp_cons hbase.reports fun hkey ↦ ?_
    rw [Act.carriesKey, hbytes] at hkey
    cases hkey
  · rw [hstate] at hresends
    cases hresends
  · rw [sendNewFrame_log]
    rfl
  · rw [sendNewFrame_frame]
    exact hbytes
  · intro hresends
    rw [hstate] at hresends
    cases hresends

/-- A frame of the other node is refused. -/
theorem refuse_sound (hbase : Base ctx) (hstack : ctx.stack = []) (error : UInt8) :
    Sound (refuse error ctx) := by
  have hstack' : (refuse error ctx).stack = [.sendFrame (.post .inclusionErrorSent)] :=
    congrArg (List.cons _) hstack
  have hlog : (refuse error ctx).log =
      .sentFrame ctx.peer [commandClassSecurity2, kexFail, error] false :: ctx.log :=
    sendNewFrame_log
  refine ⟨⟨hbase.including, ?_, ?_, ?_⟩, Or.inl hstack'⟩
  · intro frame hmem
    rw [hstack', mem_singleton] at hmem
    rw [hmem]
    rfl
  · rw [hlog]
    exact retriesKeepClass_cons hbase.retries (by simp [Act.isAgain])
  · rw [hlog]
    exact keysUnderTemp_cons hbase.reports (by simp [Act.carriesKey, isNetworkKeyReport,
      commandClassSecurity2, kexFail, networkKeyReport])

/-- A frame is built and sent under the temporary key. -/
theorem sendNewData_sound (hbase : Base ctx) (hstack : ctx.stack = [])
    (hframe : ctx.state.resendsFrame = false) (bytes : List UInt8) (txOptions : UInt8)
    (hrest : (Frame.sendData rest).including = true) :
    Sound (sendNewData bytes tempKeySecure txOptions rest ctx) := by
  have hstack' : (sendNewData bytes tempKeySecure txOptions rest ctx).stack = [.sendData rest] :=
    congrArg (List.cons _) hstack
  have hstate : (sendNewData bytes tempKeySecure txOptions rest ctx).state.resendsFrame = false :=
    hframe
  refine ⟨⟨hbase.including, ?_, ?_, ?_⟩,
    Or.inr ⟨⟨fun _ ↦ ⟨?_, ?_⟩, fun hresends ↦ ?_⟩, fun _ ↦ Or.inl ?_⟩⟩
  · intro frame hmem
    rw [hstack', mem_singleton] at hmem
    rw [hmem]
    exact hrest
  · rw [sendNewData_log]
    exact retriesKeepClass_cons hbase.retries (by simp [Act.isAgain])
  · rw [sendNewData_log]
    exact keysUnderTemp_cons hbase.reports fun _ ↦ rfl
  · intro frame hmem
    rw [hstack', mem_singleton] at hmem
    rw [hmem]
    rfl
  · rw [sendNewData_log]
    rfl
  · rw [hstate] at hresends
    cases hresends
  · exact convertNormalToLr_temp rfl

/-- The event handler is called, in a state that does not resend with `S2_send_data`. -/
theorem callHandler_sound (hbase : Base ctx) (hready : Ready ctx)
    (hdata : ctx.state.resendsData = false) (push : Push)
    (hrest : (Frame.handler rest).including = true) : Sound (callHandler push rest ctx) := by
  obtain ⟨hunder, hretries, hreports⟩ :=
    log_of_not_sends [.pushed push] ctx.log (by simp [Act.sends])
  have hstate : (callHandler push rest ctx).state.resendsData = false := hdata
  refine ⟨⟨hbase.including, ?_, hretries hbase.retries, hreports hbase.reports⟩,
    Or.inr ⟨⟨fun hresends ↦ ?_, fun hresends ↦ ?_⟩, fun hresends ↦ ?_⟩⟩
  · intro frame hmem
    rcases mem_cons.mp hmem with rfl | hmem
    · exact hrest
    · exact hbase.frames frame hmem
  · rw [hstate] at hresends
    cases hresends
  · exact ⟨hunder.trans (hready.frame hresends).1, (hready.frame hresends).2⟩
  · rw [hstate] at hresends
    cases hresends

theorem inclusionFailedEvtPush_sound (hbase : Base ctx) (hready : Ready ctx)
    (hdata : ctx.state.resendsData = false) (failType : UInt8) :
    Sound (inclusionFailedEvtPush failType ctx) := by
  obtain ⟨quiet, hquiet, heq⟩ := inclusionFailedEvtPush_eq failType ctx
  rw [heq]
  refine callHandler_sound (hbase.quiet hquiet) (hready.quiet hquiet) ?_ _ rfl
  obtain ⟨_, _, _, _, rfl⟩ := hquiet
  exact hdata

/-- An act that sends a frame again changes nothing for the retries that follow. -/
theorem firstUnder_again {act : Act} (hact : act.isFirst = false) (log : List Act) :
    firstUnder (act :: log) = firstUnder log := by
  unfold firstUnder
  rw [List.find?_cons_of_neg (by simp [hact])]

theorem IncState.resendsData_of_resendsFrame : ∀ state : IncState, state.resendsFrame = true →
    state.resendsData = false := by
  decide

theorem IncState.resendsFrame_of_resendsData : ∀ state : IncState, state.resendsData = true →
    state.resendsFrame = false := by
  decide

/-- `S2_RESEND_FRAME_ACTION`. -/
theorem resendFrame_sound (hbase : Base ctx) (hready : Ready ctx)
    (hstate : ctx.state.resendsFrame = true) : Sound (sendFrame true .done ctx) := by
  have hdata := ctx.state.resendsData_of_resendsFrame hstate
  obtain ⟨hunder, hreport⟩ := hready.frame hstate
  have hstate' : (sendFrame true .done ctx).state.resendsData = false := hdata
  refine ⟨⟨hbase.including, ?_, ?_, ?_⟩,
    Or.inr ⟨⟨fun hresends ↦ ?_, fun _ ↦ ⟨?_, hreport⟩⟩, fun hresends ↦ ?_⟩⟩
  · intro frame hmem
    rcases mem_cons.mp hmem with rfl | hmem
    · rfl
    · exact hbase.frames frame hmem
  · exact retriesKeepClass_cons hbase.retries fun _ ↦ hunder
  · refine keysUnderTemp_cons hbase.reports fun hkey ↦ ?_
    rw [Act.carriesKey, hreport] at hkey
    cases hkey
  · rw [hstate'] at hresends
    cases hresends
  · exact (firstUnder_again rfl _).trans hunder
  · rw [hstate'] at hresends
    cases hresends

/-- `S2_RESEND_DATA_ACTION`, under the class of the temporary key. -/
theorem resendData_sound (hbase : Base ctx) (hready : Ready ctx)
    (hstate : ctx.state.resendsData = true) (hclass : ctx.peer.classId = tempKeySecure) :
    Sound (sendData true .done ctx) := by
  have hframe := ctx.state.resendsFrame_of_resendsData hstate
  obtain ⟨hstack, hunder⟩ := hready.data hstate
  have hstate' : (sendData true .done ctx).state.resendsFrame = false := hframe
  refine ⟨⟨hbase.including, ?_, ?_, ?_⟩,
    Or.inr ⟨⟨fun _ ↦ ⟨?_, ?_⟩, fun hresends ↦ ?_⟩, fun _ ↦ Or.inl ?_⟩⟩
  · intro frame hmem
    rcases mem_cons.mp hmem with rfl | hmem
    · rfl
    · exact hbase.frames frame hmem
  · refine retriesKeepClass_cons hbase.retries fun _ ↦ ?_
    rw [hunder, Act.sentUnder, hclass]
  · refine keysUnderTemp_cons hbase.reports fun _ ↦ ?_
    rw [Act.sentUnder, hclass]
  · intro frame hmem
    rcases mem_cons.mp hmem with rfl | hmem
    · rfl
    · exact hstack frame hmem
  · exact (firstUnder_again rfl _).trans hunder
  · rw [hstate'] at hresends
    cases hresends
  · exact convertNormalToLr_temp hclass

end Send

/-! ### The actions -/

section Actions

variable {ctx : Context}

theorem kexRepRecv_sound (hbase : Base ctx) (hstack : ctx.stack = [])
    (hsilent : ctx.state.silent = true) : Sound (kexRepRecv ctx) := by
  have hquiet : Base (ctx.note .stopTimeout) := hbase.quiet (quiet_stopTimeout ctx)
  have hdata : ctx.state.resendsData = false := by
    simp only [IncState.silent, Bool.and_eq_true, Bool.not_eq_true'] at hsilent
    exact hsilent.1
  unfold kexRepRecv
  dsimp only
  split
  · refine refuse_sound ?_ ?_ _
    · exact hquiet.copy rfl rfl rfl
    · exact hstack
  · split
    · refine refuse_sound ?_ ?_ _
      · exact hquiet.copy rfl rfl rfl
      · exact hstack
    · generalize (if isLrNode _ then _ else _ : UInt8) = offered
      split
      · refine refuse_sound ?_ ?_ _
        · exact hquiet.copy rfl rfl rfl
        · exact hstack
      · refine callHandler_sound ?_ (ready_of_silent ?_).1 ?_ _ rfl
        · exact hquiet.copy rfl rfl rfl
        · exact hsilent
        · exact hdata

theorem sendEchoKexReport_sound (hbase : Base ctx) (hstack : ctx.stack = [])
    (hframe : ctx.state.resendsFrame = false) : Sound (sendEchoKexReport ctx) := by
  have hquiet : Base (ctx.note .stopTimeout) := hbase.quiet (quiet_stopTimeout ctx)
  unfold sendEchoKexReport
  dsimp only
  split_ifs
  · refine sendNewData_sound ?_ ?_ ?_ _ _ rfl
    · exact hquiet.copy rfl rfl rfl
    · exact hstack
    · exact hframe
  · exact refuse_sound hquiet hstack _

theorem sendNetKeyReport_sound (hbase : Base ctx) (hstack : ctx.stack = [])
    (hframe : ctx.state.resendsFrame = false) : Sound (sendNetKeyReport ctx) := by
  have hquiet : Base (ctx.note .stopTimeout) := hbase.quiet (quiet_stopTimeout ctx)
  unfold sendNetKeyReport
  dsimp only
  split_ifs
  · refine sendNewData_sound ?_ ?_ ?_ _ _ rfl
    · exact hquiet.copy rfl rfl rfl
    · exact hstack
    · exact hframe
  · refine refuse_sound ?_ ?_ _
    · exact hquiet.copy rfl rfl rfl
    · exact hstack

theorem sendTransferEnd_sound (hbase : Base ctx) (hstack : ctx.stack = [])
    (hframe : ctx.state.resendsFrame = false) : Sound (sendTransferEnd ctx) := by
  unfold sendTransferEnd
  dsimp only
  have hquiet := (quiet_stopTimeout ctx).trans
    (quiet_networkKeyUpdate _ tempKeySecure (ctx.publicKey.take 16) true)
  have hquietBase := hbase.quiet hquiet
  obtain ⟨_, _, _, _, heq⟩ := hquiet
  change Sound (sendNewData _ _ _ _ (networkKeyUpdate _ (ctx.publicKey.take 16) _ _))
  rw [heq] at hquietBase ⊢
  exact sendNewData_sound hquietBase hstack hframe _ _ rfl

theorem inclusionFailedFrameSend_sound (hbase : Base ctx) (hdata : ctx.state.resendsData = false)
    (error : UInt8) {rest : Rest} (hrest : (Frame.sendFrame rest).including = true) :
    Sound (inclusionFailedFrameSend error rest ctx) := by
  rw [inclusionFailedFrameSend_eq]
  refine sendNewFrame_sound ?_ ?_ ?_ hrest
  · exact hbase.copy rfl rfl rfl
  · exact hdata
  · simp [isNetworkKeyReport, commandClassSecurity2, kexFail, networkKeyReport]

theorem inclusionComplete_sound (hbase : Base ctx) (hidle : ctx.state = .idle) :
    Sound (inclusionComplete ctx) := by
  have hsilent : ctx.state.silent = true := by
    rw [hidle]
    rfl
  unfold inclusionComplete
  split_ifs
  · dsimp only
    have hquiet := (quiet_stopTimeout ctx).trans (quiet_restoreKeys _)
    have hquietBase := hbase.quiet hquiet
    have hready := ready_of_silent hsilent
    have hquietReady := hready.1.quiet hquiet
    obtain ⟨_, _, _, _, heq⟩ := hquiet
    rw [heq] at hquietBase hquietReady ⊢
    refine callHandler_sound hquietBase hquietReady ?_ _ rfl
    change ctx.state.resendsData = false
    rw [hidle]
    rfl
  · refine inclusionFailedFrameSend_sound hbase ?_ _ rfl
    rw [hidle]
    rfl

theorem abort_sound (hbase : Base ctx) (hidle : ctx.state = .idle) (failType : UInt8) :
    Sound (inclusionFailedEvtPush failType ctx) := by
  refine inclusionFailedEvtPush_sound hbase (ready_of_silent ?_).1 ?_ failType
  · rw [hidle]
    rfl
  · rw [hidle]
    rfl

/-- An event is processed. Events that stand for frames come from the main loop, a retry finds the
class of the temporary key, and the class is kept when there is nothing to do. -/
theorem processEvent_sound (env : Env) {event : Event} (hbase : Base ctx) (hready : Ready ctx)
    (hevent : event ≠ .joiningStart) (hstack : event.isReceived = true → ctx.stack = [])
    (hkept : (move ctx.state event).1 = .noAction → ClassKept ctx)
    (hretry : event = .inclusionRetry → ctx.state.resendsData = true →
      ctx.peer.classId = tempKeySecure) :
    Sound (processEvent env event ctx) := by
  have hfits := fits_move ctx.state event hbase.including hevent
  have hincluding := including_move ctx.state event hbase.including hevent
  rw [processEvent_eq]
  generalize move ctx.state event = next at hfits hincluding hkept ⊢
  obtain ⟨action, newState⟩ := next
  dsimp only at hfits hincluding hkept ⊢
  have hnew : Base { ctx with state := newState } :=
    ⟨hincluding, hbase.frames, hbase.retries, hbase.reports⟩
  cases action with
  | noAction =>
    rcases hfits with rfl | ⟨-, rfl⟩
    · exact ⟨hnew, Or.inr ⟨⟨hready.data, hready.frame⟩, hkept rfl⟩⟩
    · exact sound_of_silent hnew rfl
  | abort => exact abort_sound hnew hfits _
  | remoteError => exact abort_sound hnew hfits _
  | resendFrame =>
    obtain ⟨rfl, hresends, -⟩ := hfits
    exact resendFrame_sound hnew ⟨hready.data, hready.frame⟩ hresends
  | resendData =>
    obtain ⟨rfl, hresends, hevent⟩ := hfits
    exact resendData_sound hnew ⟨hready.data, hready.frame⟩ hresends (hretry hevent hresends)
  | sendKexGet =>
    obtain ⟨-, -, rfl⟩ := hfits
    refine sendNewFrame_sound hnew rfl ?_ rfl
    decide
  | kexRepRecv =>
    obtain ⟨-, rfl, rfl⟩ := hfits
    exact kexRepRecv_sound hnew (hstack rfl) rfl
  | sendKexSet =>
    obtain ⟨-, -, rfl⟩ := hfits
    refine sendNewFrame_sound (hnew.quiet (quiet_stopTimeout _)) rfl ?_ rfl
    simp [isNetworkKeyReport, commandClassSecurity2, kexSet, networkKeyReport]
  | sendPubKeyA =>
    obtain ⟨hstate, -, rfl⟩ := hfits
    obtain ⟨quiet, key, dskLength, hquiet, heq⟩ :=
      sendPubKeyA_eq { ctx with state := .awaitingUserAccept }
    -- The frame that was sent before is still in the buffer.
    have hready' : Ready { ctx with state := .awaitingUserAccept } := by
      refine ⟨fun hdata ↦ ?_, fun _ ↦ hready.frame ?_⟩
      · cases hdata
      · rw [hstate]
        rfl
    simp only [performAction, perform]
    rw [heq]
    refine callHandler_sound (hnew.quiet hquiet) (hready'.quiet hquiet) ?_ _ rfl
    obtain ⟨_, _, _, _, rfl⟩ := hquiet
    rfl
  | doEcdhCalcA =>
    obtain ⟨hstate, -, rfl⟩ := hfits
    have hready' : Ready { ctx with state := .awaitingEchoKexSet } := by
      refine ⟨fun hdata ↦ ?_, fun _ ↦ hready.frame ?_⟩
      · cases hdata
      · rw [hstate]
        rfl
    have hkept' : ClassKept { ctx with state := .awaitingEchoKexSet } := fun hdata ↦ by cases hdata
    exact Sound.quiet ⟨hnew, Or.inr ⟨hready', hkept'⟩⟩ (quiet_doEcdhCalcA env _)
  | sendEchoKexReport =>
    obtain ⟨-, rfl, rfl⟩ := hfits
    exact sendEchoKexReport_sound hnew (hstack rfl) rfl
  | sendErrorCancel =>
    obtain rfl := hfits
    exact inclusionFailedFrameSend_sound hnew rfl _ rfl
  | sendErrorDecrypt =>
    obtain rfl := hfits
    exact inclusionFailedFrameSend_sound hnew rfl _ rfl
  | sendNetKeyReport =>
    obtain ⟨-, rfl, rfl⟩ := hfits
    exact sendNetKeyReport_sound hnew (hstack rfl) rfl
  | sendTransferEnd =>
    obtain ⟨-, ⟨rfl, rfl⟩ | ⟨rfl, rfl⟩⟩ := hfits
    · exact sendTransferEnd_sound hnew (hstack rfl) rfl
    · exact sendTransferEnd_sound hnew (hstack rfl) rfl
  | inclusionComplete => exact inclusionComplete_sound hnew hfits.2.2
  | checkNoKeys =>
    obtain ⟨-, -, rfl⟩ := hfits
    simp only [performAction, perform, checkNoKeys]
    split_ifs
    · exact abort_sound hnew rfl _
    · exact inclusionComplete_sound hnew rfl
  | _ => exact hfits.elim

end Actions

/-! ### The inputs -/

section Inputs

variable {ctx : Context}

/-- A function outside has returned, and not to the end of a refusal. -/
theorem sound_pop {frame : Frame} {stack : List Frame} (hsound : Sound ctx)
    (hstack : ctx.stack = frame :: stack) (hframe : frame ≠ .sendFrame (.post .inclusionErrorSent))
    (retryCounter : UInt8) :
    Base { ctx with stack, retryCounter } ∧ Ready { ctx with stack, retryCounter } ∧
      ClassKept { ctx with stack, retryCounter } ∧
      (frame.isSendData = false → ctx.state.resendsData = false) := by
  obtain ⟨hbase, hrefusing | ⟨hready, hkept⟩⟩ := hsound
  · rw [Refusing, hstack] at hrefusing
    exact absurd (List.cons.inj hrefusing).1 hframe
  have hall : ctx.state.resendsData = true → frame.isSendData = true ∧
      ∀ frame ∈ stack, frame.isSendData = true := by
    intro hdata
    have hall := (hready.data hdata).1
    rw [hstack] at hall
    exact forall_mem_cons.mp hall
  refine ⟨⟨hbase.including, ?_, hbase.retries, hbase.reports⟩, ⟨fun hdata ↦ ?_, hready.frame⟩,
    fun hdata ↦ ?_, fun hother ↦ ?_⟩
  · intro frame hmem
    refine hbase.frames frame ?_
    rw [hstack]
    exact mem_cons_of_mem _ hmem
  · exact ⟨(hall hdata).2, (hready.data hdata).2⟩
  · rcases hkept hdata with hclass | ⟨-, hempty⟩
    · exact Or.inl hclass
    · rw [hstack] at hempty
      cases hempty
  · cases hdata : ctx.state.resendsData with
    | false => rfl
    | true =>
      rw [(hall hdata).1] at hother
      cases hother

variable (env : Env)

/-- The end of a refusal. -/
theorem errorSent_sound (hbase : Base ctx) : Sound (processEvent env .inclusionErrorSent ctx) := by
  obtain ⟨haction, hstate⟩ := move_inclusionErrorSent ctx.state hbase.including
  have hincluding := including_move ctx.state .inclusionErrorSent hbase.including (by decide)
  rw [processEvent_eq, haction]
  refine sound_of_silent ⟨hincluding, hbase.frames, hbase.retries, hbase.reports⟩ ?_
  rcases hstate with hstate | hstate
  · simp only [performAction, perform, hstate]
    rfl
  · simp only [performAction, perform, hstate]
    rfl

theorem ret_sound (success : Bool) (hsound : Sound ctx) : Sound (ret env success ctx) := by
  unfold ret
  cases hstack : ctx.stack with
  | nil => exact hsound
  | cons frame stack =>
    have hframe : frame.including = true := by
      refine hsound.1.frames frame ?_
      rw [hstack]
      exact mem_cons_self
    cases frame with
    | sendFrame rest =>
      dsimp only
      generalize (if success then ctx.retryCounter - 1 else queueFull) = retryCounter
      by_cases hpost : rest = .post .inclusionErrorSent
      · subst hpost
        refine errorSent_sound env ⟨hsound.1.including, fun frame hmem ↦ ?_, hsound.1.retries,
          hsound.1.reports⟩
        refine hsound.1.frames frame ?_
        rw [hstack]
        exact mem_cons_of_mem _ hmem
      · obtain ⟨hbase, hready, hkept, hdata⟩ :=
          sound_pop hsound hstack (fun h ↦ hpost (Frame.sendFrame.inj h)) retryCounter
        cases rest with
        | done => exact ⟨hbase, Or.inr ⟨hready, hkept⟩⟩
        | setTimeout interval =>
          exact Sound.quiet ⟨hbase, Or.inr ⟨hready, hkept⟩⟩ (quiet_note _ rfl)
        | pushFailed failType =>
          exact inclusionFailedEvtPush_sound hbase hready (hdata rfl) failType
        | post event =>
          cases event
          case inclusionErrorSent => exact absurd rfl hpost
          all_goals cases hframe
        | _ => cases hframe
    | sendData rest =>
      dsimp only
      generalize (if success then ctx.retryCounter - 1 else queueFull) = retryCounter
      obtain ⟨hbase, hready, hkept, -⟩ := sound_pop hsound hstack (by simp) retryCounter
      have hsound' : Sound { ctx with stack, retryCounter } := ⟨hbase, Or.inr ⟨hready, hkept⟩⟩
      cases rest with
      | done => exact hsound'
      | setTimeout interval => exact hsound'.quiet (quiet_note _ rfl)
      | netKeyReport => exact hsound'.quiet (quiet_sendNetKeyReportRest _)
      | _ => cases hframe
    | sendEcho => cases hframe
    | handler rest =>
      obtain ⟨hbase, hready, hkept, hdata⟩ := sound_pop hsound hstack (by simp) ctx.retryCounter
      have hsound' : Sound { ctx with stack } := ⟨hbase, Or.inr ⟨hready, hkept⟩⟩
      cases rest with
      | done => exact hsound'
      | setTimeout interval => exact hsound'.quiet (quiet_note _ rfl)
      | sendPubKeyA =>
        refine sendNewFrame_sound hbase (hdata rfl) ?_ rfl
        simp [isNetworkKeyReport, commandClassSecurity2, publicKeyReport, networkKeyReport]
      | _ => cases hframe

/-- Where an input is processed, no frame is being refused. -/
theorem Sound.settled (hsound : Sound ctx) {input : Input}
    (hpossible : input.possible ctx.stack = true)
    (hret : ∀ success, input ≠ .ret success) : Ready ctx ∧ ClassKept ctx := by
  rcases hsound.2 with hrefusing | hsettled
  · rw [hrefusing] at hpossible
    cases input
    case ret success => exact absurd rfl (hret success)
    all_goals cases hpossible
  · exact hsettled

/-- An event of the user, of a timer or of a transmission that is no retry. -/
theorem event_sound {event : Event} (hbase : Base ctx) (hsettled : Ready ctx ∧ ClassKept ctx)
    (hevent : event ≠ .joiningStart) (hreceived : event.isReceived = false)
    (hretry : event ≠ .inclusionRetry) : Sound (processEvent env event ctx) :=
  processEvent_sound env hbase hsettled.1 hevent (fun h ↦ by rw [hreceived] at h; cases h)
    (fun _ ↦ hsettled.2) fun h ↦ absurd h hretry

theorem move_inclusionError : ∀ state : IncState, state.including = true →
    (move state .inclusionError).1 = .noAction → state.resendsData = false := by
  decide +kernel

/-- The state machine has nothing to do for the frame in the context. -/
def Ignores (env : Env) (ctx : Context) : Prop :=
  match outcome env ctx with
  | .ignored => True
  | .event event => (move ctx.state event).1 = .noAction
  | _ => False

theorem postEventInternal_sound (hbase : Base ctx) (hready : Ready ctx)
    (hstack : ctx.stack = []) (hkept : Ignores env ctx → ClassKept ctx) :
    Sound (postEventInternal env ctx) := by
  unfold postEventInternal
  unfold Ignores at hkept
  cases houtcome : outcome env ctx with
  | ignored =>
    rw [houtcome] at hkept
    exact ⟨hbase, Or.inr ⟨hready, hkept trivial⟩⟩
  | tooShort =>
    refine processEvent_sound env hbase hready (by decide) (fun _ ↦ hstack) (fun hnone hdata ↦ ?_)
      (fun hevent ↦ by cases hevent)
    rw [move_inclusionError ctx.state hbase.including hnone] at hdata
    cases hdata
  | refused => exact refuse_sound hbase hstack _
  | event event =>
    rw [houtcome] at hkept
    have hevent : event.isReceived = true := by
      rw [← (outcome_event houtcome).2]
      exact frameEvent_isReceived ctx
    refine processEvent_sound env hbase hready ?_ (fun _ ↦ hstack) hkept fun hretry ↦ ?_
    · rintro rfl
      cases hevent
    · rw [hretry] at hevent
      cases hevent

/-- The context is used by the including node only, and a frame that is ignored while a frame may be
sent again with `S2_send_data` was encrypted with the temporary key. -/
def KeepsClass (env : Env) (ctx : Context) (input : Input) : Prop :=
  match input with
  | .joiningStart _ _ => False
  | .received src buf length =>
    match accept src buf length ctx with
    | none => True
    | some ctx' =>
      Ignores env ctx' → ctx.state.resendsData = true → ctx.retryCounter ≠ noRetries →
        src.classId = tempKeySecure
  | _ => True

instance (env : Env) (ctx : Context) : Decidable (Ignores env ctx) := by
  unfold Ignores
  cases outcome env ctx <;> infer_instance

instance (env : Env) (ctx : Context) (input : Input) : Decidable (KeepsClass env ctx input) := by
  unfold KeepsClass
  cases input
  case received src buf length =>
    dsimp only
    cases accept src buf length ctx <;> infer_instance
  all_goals infer_instance

theorem postEvent_sound {src : Connection} {buf : ℕ → UInt8} {length : ℕ}
    (hbase : Base ctx) (hsettled : Ready ctx ∧ ClassKept ctx) (hstack : ctx.stack = [])
    (hkeeps : KeepsClass env ctx (.received src buf length)) :
    Sound (postEvent env src buf length ctx) := by
  unfold postEvent
  cases haccept : accept src buf length ctx with
  | none => exact ⟨hbase.copy rfl rfl rfl, Or.inr ⟨⟨hsettled.1.data, hsettled.1.frame⟩, hsettled.2⟩⟩
  | some ctx' =>
    have hclass : Ignores env ctx' → ctx.state.resendsData = true → ctx.retryCounter ≠ noRetries →
        src.classId = tempKeySecure := by
      simpa only [KeepsClass, haccept] using hkeeps
    -- The frame is logged, and its class taken over.
    obtain ⟨-, rfl⟩ := accept_including hbase.including haccept
    obtain ⟨hunder, hretries, hreports⟩ :=
      log_of_not_sends [.received src buf length] ctx.log (by simp [Act.sends])
    refine postEventInternal_sound env ⟨hbase.including, hbase.frames, hretries hbase.retries,
      hreports hbase.reports⟩ ⟨fun hdata ↦ ?_, fun hframe ↦ ?_⟩ hstack fun hignores hdata ↦ ?_
    · exact ⟨(hsettled.1.data hdata).1, hunder.trans (hsettled.1.data hdata).2⟩
    · exact ⟨hunder.trans (hsettled.1.frame hframe).1, (hsettled.1.frame hframe).2⟩
    · by_cases hcounter : ctx.retryCounter = noRetries
      · exact Or.inr ⟨hcounter, hstack⟩
      · exact Or.inl (hclass hignores hdata hcounter)

theorem sendDone_sound (success : Bool) (hbase : Base ctx)
    (hsettled : Ready ctx ∧ ClassKept ctx) : Sound (sendDone env success ctx) := by
  obtain ⟨hready, hkept⟩ := hsettled
  -- A retry is left, so that the class is that of the temporary key.
  have hclass : ctx.retryCounter ≠ noRetries → ctx.state.resendsData = true →
      ctx.peer.classId = tempKeySecure := by
    intro hcounter hdata
    rcases hkept hdata with hclass | ⟨hnone, -⟩
    · exact hclass
    · exact absurd hnone hcounter
  unfold sendDone
  split_ifs with hfull hsuccess hretry
  · have hcounter : ctx.retryCounter ≠ noRetries := by
      rw [hfull]
      decide
    refine processEvent_sound env (hbase.copy rfl rfl rfl) ⟨hready.data, hready.frame⟩ (by decide)
      (fun h ↦ by cases h) (fun _ hdata ↦ Or.inl (hclass hcounter hdata)) fun _ hdata ↦ ?_
    exact hclass hcounter hdata
  · exact event_sound env hbase ⟨hready, hkept⟩ (by decide) rfl (by decide)
  · exact processEvent_sound env hbase hready (by decide) (fun h ↦ by cases h) (fun _ ↦ hkept)
      fun _ hdata ↦ hclass hretry.1 hdata
  · exact event_sound env hbase ⟨hready, hkept⟩ (by decide) rfl (by decide)

theorem commandsSupportedGet_sound (classes : List UInt8) (hbase : Base ctx)
    (hsettled : Ready ctx ∧ ClassKept ctx) : Sound (commandsSupportedGet classes ctx) := by
  -- What is in the buffer now is no network key report.
  have hreport : ∀ (tail : List UInt8) (n : ℕ),
      isNetworkKeyReport ((commandClassSecurity2 :: commandsSupportedReport :: tail).take n) =
        false := by
    intro tail n
    rcases n with _ | _ | n
    · rfl
    · rfl
    · rfl
  refine ⟨hbase.copy rfl rfl rfl, Or.inr ⟨⟨hsettled.1.data, fun hframe ↦ ?_⟩, hsettled.2⟩⟩
  refine ⟨(hsettled.1.frame hframe).1, ?_⟩
  simp only [Context.frame, commandsSupportedGet, overwrite]
  split_ifs
  · exact hreport _ _
  · exact hreport _ _

/-- A step keeps the invariant. -/
theorem step_sound (input : Input) (hkeeps : KeepsClass env ctx input)
    (hsound : Sound ctx) : Sound (step env ctx input) := by
  unfold step
  split_ifs with hpossible
  · cases input with
    | ret success => exact ret_sound env success hsound
    | joiningStart con csa => exact hkeeps.elim
    | received src buf length =>
      refine postEvent_sound env hsound.1 (hsound.settled hpossible.2 (by simp)) ?_ hkeeps
      cases hstack : ctx.stack with
      | nil => rfl
      | cons frame stack =>
        rw [hstack] at hpossible
        cases frame <;> cases hpossible.2
    | includingStart con =>
      obtain ⟨hready, hkept⟩ := hsound.settled hpossible.2 (by simp)
      simp only [process, includingStart]
      split_ifs with hidle
      · obtain ⟨hunder, hretries, hreports⟩ :=
          log_of_not_sends [.includingStarted] ctx.log (by simp [Act.sends])
        refine event_sound env ⟨hsound.1.including, hsound.1.frames, hretries hsound.1.retries,
          hreports hsound.1.reports⟩ (ready_of_silent ?_) (by decide) rfl (by decide)
        change ctx.state.silent = true
        rw [hidle]
        rfl
      · exact hsound
    | keyGrant accepts keys csa =>
      obtain ⟨hready, hkept⟩ := hsound.settled hpossible.2 (by simp)
      simp only [process, keyGrant]
      split_ifs
      · exact event_sound env (hsound.1.copy rfl rfl rfl) ⟨⟨hready.data, hready.frame⟩, hkept⟩
          (by decide) rfl (by decide)
      · exact event_sound env hsound.1 ⟨hready, hkept⟩ (by decide) rfl (by decide)
    | challengeResponse accepts response =>
      obtain ⟨hready, hkept⟩ := hsound.settled hpossible.2 (by simp)
      simp only [process, challengeResponse]
      split_ifs
      · exact event_sound env (hsound.1.copy rfl rfl rfl) ⟨⟨hready.data, hready.frame⟩, hkept⟩
          (by decide) rfl (by decide)
      · exact event_sound env hsound.1 ⟨hready, hkept⟩ (by decide) rfl (by decide)
    | neighborDiscoveryComplete =>
      exact event_sound env hsound.1 (hsound.settled hpossible.2 (by simp))
        (by decide) rfl (by decide)
    | abort =>
      exact event_sound env hsound.1 (hsound.settled hpossible.2 (by simp))
        (by decide) rfl (by decide)
    | decryptionFailure src =>
      simp only [process]
      split_ifs
      · exact event_sound env hsound.1 (hsound.settled hpossible.2 (by simp)) (by decide) rfl
          (by decide)
      · exact hsound
    | commandsSupportedGet classes =>
      exact commandsSupportedGet_sound classes hsound.1 (hsound.settled hpossible.2 (by simp))
    | timeout =>
      have hincluding := hsound.1.including
      simp only [process, notifyTimeout]
      rw [if_neg]
      · exact event_sound env hsound.1 (hsound.settled hpossible.2 (by simp)) (by decide) rfl
          (by decide)
      · rintro ⟨hjoining, -⟩
        rw [hjoining] at hincluding
        cases hincluding
    | sendDone success =>
      exact sendDone_sound env success hsound.1 (hsound.settled hpossible.2 (by simp))
  · exact hsound

end Inputs

/-! ### Whole runs -/

/-- **Classes of retransmissions.** In every run of the including node in which each frame that is
ignored while a retry is left was encrypted with the temporary key, every network key report is
handed to `S2_send_data` under the temporary key, and every retransmission goes out as the frame did
for the first time. -/
theorem retries_keep_class (env : Env) (start : Context) (inputs : List Input)
    (hkeeps : AllSteps (step env) (KeepsClass env) (atRest start) inputs) :
    KeysUnderTemp (run (step env) (atRest start) inputs).log ∧
      RetriesKeepClass (run (step env) (atRest start) inputs).log := by
  have hstart : Sound (atRest start) := by
    refine sound_of_silent ⟨rfl, by simp [atRest], ?_, by simp [KeysUnderTemp, atRest]⟩ rfl
    intro later act older hsplit
    cases later <;> cases hsplit
  have hsound := run_invariant_of_allSteps
    (fun ctx input hkeeps hsound ↦ step_sound env input hkeeps hsound) hstart hkeeps
  exact ⟨hsound.1.reports, hsound.1.retries⟩

/-- Node 5 is granted two keys, and the transmission of the second fails and is repeated. -/
theorem retries_keep_class_secondKey :
    KeysUnderTemp (run (step sampleEnv) (atRest sampleContext)
      (grantInputs 3 ++ transferInputs 1 0 ++
        [frameOf tempKeySecure [commandClassSecurity2, networkKeyGet, 2], .ret true,
          .sendDone false])).log ∧
      RetriesKeepClass (run (step sampleEnv) (atRest sampleContext)
        (grantInputs 3 ++ transferInputs 1 0 ++
          [frameOf tempKeySecure [commandClassSecurity2, networkKeyGet, 2], .ret true,
            .sendDone false])).log :=
  retries_keep_class sampleEnv sampleContext _ (by decide +kernel)

/-- After the second key was sent, node 5 sends a frame under the class of the first key that the
state machine ignores. When the transmission of the second key fails, it is repeated under that
class. -/
theorem key_report_under_other_key :
    ¬ ∀ (env : Env) (start : Context) (inputs : List Input),
      (∀ input ∈ inputs, input.including = true) →
      KeysUnderTemp (run (step env) (atRest start) inputs).log ∧
        RetriesKeepClass (run (step env) (atRest start) inputs).log := by
  intro hclaim
  have hkeys := (hclaim sampleEnv sampleContext
    (grantInputs 3 ++ transferInputs 1 0 ++
      [frameOf tempKeySecure [commandClassSecurity2, networkKeyGet, 2], .ret true,
        frameOf 0 [commandClassSecurity2, security2NonceReport], .sendDone false])
    (by decide)).1
  exact absurd hkeys (by decide +kernel)

end ZipGateway.Inclusion
