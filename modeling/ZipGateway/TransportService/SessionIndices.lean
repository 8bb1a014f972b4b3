import ZipGateway.TransportService.Resend

/-!
# The indices into `frag_compl_list`

`frag_compl_list` has an entry for each of fifteen sessions, although a session id has four bits;
the comment in `struct sending_cntrl_blk` counts sixteen of them. Here is which indices the
functions use in a step. They are inside the array in just the runs in which no session is started
after the one with id 14 (`sessionIndices_iff`).
-/

set_option autoImplicit false

namespace ZipGateway.TransportService

open List ZipGateway.Lib

/-! ### The indices of a step -/

/-- The state in which an accepted call of `ZW_TransportService_SendData` gets to
`send_first_frag`. -/
def sendStarted (p : TsParam) (data : ℕ → UInt8) (dataLength : ℕ) (s : Ts) : Ts :=
  postEvent .startSend
    (({ s with lastCall := s.lastCall + 1 }.modifyScb fun scb ↦
      { scb with resetTimer := true }).modifyScb fun scb ↦
      { scb with
        datagram := data
        p := p
        datagramLen := dataLength
        completedFunc := some (s.lastCall + 1)
        sending := false
        flagRepliedFragReq := false
        transmissionAborted := 0x11
        flagSendFragWait := false
        flagReplyFragReq := false
        flagFcTimerExpiredOnce := false
        remainingDataLen := 0
        currentDnode := p.dnode })

/-- The indices of `ZCB_ts_senddata_cb`: the one of `reply_frag_req`, when a request waits. -/
def tsSenddataCbIndices (s : Ts) : List ℕ :=
  if s.scb.flagReplyFragReq then [s.scb.sessionId] else []

def receiveIndices (s : Ts) : List ℕ :=
  let command := s.rcb.fragment 1 &&& 0xF8
  if s.rcb.fragment 0 ≠ commandClassTransportService then []
  else if command = commandFirstFragment then []
  else if command = commandSubsequentFragment then []
  else if command = commandSegmentRequest then
    if controlAccepted s = none ∧ s.scb.sending = false then [s.scb.sessionId] else []
  else if command = commandSegmentComplete then
    if controlAccepted s = none then [sessionIdOf (s.rcb.fragment 2)] else []
  else if command = commandSegmentWait then
    s.scb.sessionId :: if s.scb.fragCompl s.scb.sessionId then [] else tsSenddataCbIndices s
  else []

/-- The indices into `frag_compl_list` that a step uses. -/
def indices (env : Env) (s : Ts) : Input → List ℕ
  | .sendData p data dataLength =>
    if isSending s || isReceiving s then []
      else [nextSessionId env (sendStarted p data dataLength.toNat s)]
  | .receive p cmd cmdLength => ((handed p cmd cmdLength s).map receiveIndices).getD []
  | .rawCallback k _ => if s.outstanding[k]? = some .sendData then tsSenddataCbIndices s else []
  | .waitRestartTimer =>
    if s.scb.waitRestartTimer then
      [nextSessionId env (s.modifyScb fun scb ↦ { scb with waitRestartTimer := false })]
    else []
  | .timerBtwn2Frags => if s.scb.timerBtwn2Frags then [s.scb.sessionId] else []
  | .fcTimer | .rxTimer | .resetTimer => []

/-- What an index has to be like: it is inside the array, and an entry that is set there changes no
other field. -/
structure Inside (i : ℕ) : Prop where
  bound : i < 15
  alone : ∀ (scb : Scb) (value : Bool),
    scb.setFragCompl i value =
      { scb with fragComplList := (scb.setFragCompl i value).fragComplList }

/-- All the indices of a step are inside the array. -/
def IndicesInside (env : Env) (s : Ts) (input : Input) : Prop := ∀ i ∈ indices env s input, Inside i

/-- A step runs `send_first_frag`. -/
def Starts (s : Ts) : Input → Prop
  | .sendData _ _ _ => ¬ (isSending s || isReceiving s) = true
  | .waitRestartTimer => s.scb.waitRestartTimer = true
  | _ => False

theorem inside_of_lt {i : ℕ} (hi : i < 15) : Inside i := by
  refine ⟨hi, fun scb value ↦ ?_⟩
  unfold Scb.setFragCompl
  rw [dif_pos hi]

/-- The next session gets the id 15 just when the last one had 14. -/
theorem nextSessionId_lt_iff {env : Env} {s : Ts} (hsession : s.scb.sessionId < 15) :
    nextSessionId env s < 15 ↔ s.scb.sessionId ≠ 14 := by
  have hrand : env.rand s % 0xF < 15 := Nat.mod_lt _ (by decide)
  unfold nextSessionId
  dsimp only
  split_ifs <;> omega

/-! ### The session of a step -/

section Session

variable {env : Env} {s : Ts}

theorem sessionId_eq_of_senderView {before after : Ts}
    (hview : after.senderView = before.senderView) : after.scb.sessionId = before.scb.sessionId :=
  congrArg SenderView.sessionId hview

theorem sessionId_sendFirstFrag : (sendFirstFrag env s).scb.sessionId = nextSessionId env s := by
  obtain ⟨remaining, -, hloaded⟩ := senderView_loadFirstFrag env s
  unfold sendFirstFrag
  generalize loadFirstFrag env s = loaded at hloaded ⊢
  have hsession : loaded.scb.sessionId = nextSessionId env s :=
    congrArg SenderView.sessionId hloaded
  rw [← hsession]
  dsimp only
  split_ifs
  · exact (sessionId_eq_of_senderView (senderView_sendLastFrag _)).trans rfl
  · split
    · rename_i after heq
      exact (sessionId_eq_of_senderView (senderView_of_transmitFragment_eq env heq)).trans rfl
    · rename_i after heq
      exact (sessionId_eq_of_senderView (senderView_of_transmitFragment_eq env heq)).trans rfl

theorem sessionId_sendSubseqFrag : (sendSubseqFrag env s).scb.sessionId = s.scb.sessionId := by
  obtain ⟨remaining, -, hview⟩ := senderView_sendSubseqFrag env s
  exact congrArg SenderView.sessionId hview

theorem sessionId_abortIfTieBroken : (abortIfTieBroken s).scb.sessionId = s.scb.sessionId := by
  unfold abortIfTieBroken
  split_ifs <;> rfl

theorem sessionId_tsSenddataCb : (tsSenddataCb env s).scb.sessionId = s.scb.sessionId := by
  unfold tsSenddataCb
  split_ifs
  · exact (sessionId_eq_of_senderView (senderView_replyFragReq env _)).trans rfl
  · exact (sessionId_eq_of_senderView (senderView_sendFragWaitCmd env _)).trans rfl
  · rfl

theorem sessionId_fcTimerExpired : (fcTimerExpired s).scb.sessionId = s.scb.sessionId := by
  unfold fcTimerExpired
  split_ifs
  · exact (sessionId_eq_of_senderView (senderView_callCompleted _ _)).trans rfl
  · exact (sessionId_eq_of_senderView (senderView_callCompleted _ _)).trans rfl
  · exact (sessionId_eq_of_senderView (senderView_callCompleted _ _)).trans rfl
  · exact (sessionId_eq_of_senderView (senderView_sendLastFrag _)).trans rfl

theorem sessionId_receiveFirstFragment : (receiveFirstFragment env s).scb.sessionId =
    s.scb.sessionId := by
  have habort : (abortIfTieBroken s).scb.sessionId = s.scb.sessionId := sessionId_abortIfTieBroken
  unfold receiveFirstFragment
  dsimp only
  split_ifs
  · exact habort
  · exact habort
  · exact habort
  · exact habort
  · exact (sessionId_eq_of_senderView (senderView_storeFirstFragment env _ _ _)).trans habort

theorem sessionId_receiveSubseqFragment : (receiveSubseqFragment env s).scb.sessionId =
    s.scb.sessionId := by
  have habort : (abortIfTieBroken s).scb.sessionId = s.scb.sessionId := sessionId_abortIfTieBroken
  unfold receiveSubseqFragment
  dsimp only
  split_ifs
  · exact habort
  · exact habort
  · exact (sessionId_eq_of_senderView (senderView_dropDuplicate _)).trans habort
  · exact habort
  · exact (sessionId_eq_of_senderView (senderView_dropDuplicate _)).trans habort
  · exact habort
  · exact (sessionId_eq_of_senderView (senderView_storeSubseqFragment env _ _ _ _)).trans habort

theorem sessionId_receiveSegmentRequest : (receiveSegmentRequest env s).scb.sessionId =
    s.scb.sessionId := by
  unfold receiveSegmentRequest
  dsimp only
  split
  · rfl
  · split_ifs
    · rfl
    · exact (sessionId_eq_of_senderView (senderView_replyFragReq env _)).trans rfl

theorem sessionId_receiveSegmentWait : (receiveSegmentWait env s).scb.sessionId =
    s.scb.sessionId := by
  unfold receiveSegmentWait
  split_ifs
  · rfl
  · exact sessionId_tsSenddataCb.trans rfl

theorem sessionId_receive : (receive env s).scb.sessionId = s.scb.sessionId := by
  unfold receive
  dsimp only
  split_ifs
  · rfl
  · exact sessionId_receiveFirstFragment
  · exact sessionId_receiveSubseqFragment
  · exact sessionId_receiveSegmentRequest
  · exact sessionId_eq_of_senderView (senderView_receiveSegmentComplete s)
  · exact sessionId_receiveSegmentWait
  · rfl

theorem sessionId_applicationCommandHandler (p : TsParam) (cmd : ℕ → UInt8) (cmdLength : UInt8) :
    (applicationCommandHandler env p cmd cmdLength s).scb.sessionId = s.scb.sessionId := by
  obtain ⟨t, hhanded, heq⟩ | ⟨-, hview⟩ := applicationCommandHandler_cases env s p cmd cmdLength
  · rw [heq]
    exact sessionId_receive.trans
      (sessionId_eq_of_senderView (senderView_handed s p cmd cmdLength hhanded))
  · exact sessionId_eq_of_senderView hview

/-- An accepted send runs `send_first_frag` in the state `sendStarted`. -/
theorem sessionId_sendData {p : TsParam} {data : ℕ → UInt8} {dataLength : ℕ}
    (hfree : ¬ (isSending s || isReceiving s) = true) :
    (sendData env p data dataLength s).scb.sessionId = nextSessionId env
      (sendStarted p data dataLength s) := by
  rw [← sessionId_sendFirstFrag]
  unfold sendData
  dsimp only
  split_ifs with hbusy
  · exact absurd hbusy hfree
  · rfl

/-- A step that starts no session keeps the session. -/
theorem sessionId_step (env : Env) {s : Ts} {input : Input} (hstarts : ¬ Starts s input) :
    (step env s input).scb.sessionId = s.scb.sessionId := by
  cases input with
  | sendData p data dataLength =>
    unfold step sendData
    dsimp only
    split_ifs with hbusy
    · rfl
    · exact absurd hbusy hstarts
  | receive p cmd cmdLength => exact sessionId_applicationCommandHandler p cmd cmdLength
  | rawCallback k status =>
    unfold step
    dsimp only
    split
    · rfl
    · rename_i kind _
      cases kind with
      | sendData => exact sessionId_tsSenddataCb.trans rfl
      | lastFrag => rfl
      | replyFragReq =>
        exact (sessionId_eq_of_senderView (senderView_tempCallbackReplyFragReq _ status)).trans rfl
  | fcTimer =>
    unfold step
    dsimp only
    split_ifs
    · exact sessionId_fcTimerExpired.trans rfl
    · rfl
  | rxTimer =>
    unfold step
    dsimp only
    split_ifs
    · exact sessionId_eq_of_senderView (senderView_rxTimerExpired env s)
    · rfl
  | resetTimer =>
    unfold step
    dsimp only
    split_ifs <;> rfl
  | waitRestartTimer =>
    have hidle : ¬ s.scb.waitRestartTimer = true := hstarts
    unfold step
    dsimp only
    rw [if_neg hidle]
  | timerBtwn2Frags =>
    unfold step
    dsimp only
    split_ifs
    · exact sessionId_sendSubseqFrag.trans rfl
    · rfl

/-- A step that starts a session gives it the id of its only index. -/
theorem indices_of_starts (env : Env) {s : Ts} {input : Input} (hstarts : Starts s input) :
    ∃ t : Ts, t.scb.sessionId = s.scb.sessionId ∧ indices env s input = [nextSessionId env t] ∧
      (step env s input).scb.sessionId = nextSessionId env t := by
  cases input with
  | sendData p data dataLength =>
    exact ⟨sendStarted p data dataLength.toNat s, rfl, if_neg hstarts, sessionId_sendData hstarts⟩
  | waitRestartTimer =>
    have hpending : s.scb.waitRestartTimer = true := hstarts
    refine ⟨s.modifyScb fun scb ↦ { scb with waitRestartTimer := false }, rfl, if_pos hpending, ?_⟩
    unfold step
    dsimp only
    rw [if_pos hpending]
    exact sessionId_sendFirstFrag
  | receive | rawCallback | fcTimer | rxTimer | resetTimer | timerBtwn2Frags =>
    exact absurd hstarts id

theorem mem_tsSenddataCbIndices {i : ℕ} (hi : i ∈ tsSenddataCbIndices s) : i = s.scb.sessionId := by
  unfold tsSenddataCbIndices at hi
  split_ifs at hi
  · exact mem_singleton.mp hi
  · exact absurd hi not_mem_nil

/-- `receive` uses the id of the session that it has. -/
theorem mem_receiveIndices {i : ℕ} (hi : i ∈ receiveIndices s) : i = s.scb.sessionId := by
  unfold receiveIndices at hi
  dsimp only at hi
  split_ifs at hi with hclass hfirst hsubseq hrequest hreply hcomplete haccepted hwait hover
  · exact absurd hi not_mem_nil
  · exact absurd hi not_mem_nil
  · exact absurd hi not_mem_nil
  · exact mem_singleton.mp hi
  · exact absurd hi not_mem_nil
  · rw [mem_singleton.mp hi]
    unfold controlAccepted at haccepted
    dsimp only at haccepted
    split_ifs at haccepted with haborted hsession hnode
    exact not_not.mp hsession
  · exact absurd hi not_mem_nil
  · exact mem_singleton.mp hi
  · obtain rfl | hi := mem_cons.mp hi
    · rfl
    · exact mem_tsSenddataCbIndices hi
  · exact absurd hi not_mem_nil

/-- Every other step only uses the id of the session that there is. -/
theorem mem_indices {env : Env} {input : Input} (hstarts : ¬ Starts s input) {i : ℕ}
    (hi : i ∈ indices env s input) : i = s.scb.sessionId := by
  cases input with
  | sendData p data dataLength =>
    have hbusy : (isSending s || isReceiving s) = true := not_not.mp hstarts
    unfold indices at hi
    dsimp only at hi
    rw [if_pos hbusy] at hi
    exact absurd hi not_mem_nil
  | receive p cmd cmdLength =>
    unfold indices at hi
    dsimp only at hi
    cases hhanded : handed p cmd cmdLength s with
    | none =>
      rw [hhanded] at hi
      exact absurd hi not_mem_nil
    | some t =>
      rw [hhanded] at hi
      exact (mem_receiveIndices hi).trans
        (sessionId_eq_of_senderView (senderView_handed s p cmd cmdLength hhanded))
  | rawCallback k status =>
    unfold indices at hi
    dsimp only at hi
    split_ifs at hi
    · exact mem_tsSenddataCbIndices hi
    · exact absurd hi not_mem_nil
  | waitRestartTimer =>
    have hidle : ¬ s.scb.waitRestartTimer = true := hstarts
    unfold indices at hi
    dsimp only at hi
    rw [if_neg hidle] at hi
    exact absurd hi not_mem_nil
  | timerBtwn2Frags =>
    unfold indices at hi
    dsimp only at hi
    split_ifs at hi
    · exact mem_singleton.mp hi
    · exact absurd hi not_mem_nil
  | fcTimer | rxTimer | resetTimer => exact absurd hi not_mem_nil

end Session

/-! ### Runs -/

/-- In every run, all indices are inside the array just when no session is started after the one
with id 14. -/
theorem sessionIndices_iff (env : Env) (start : { s : Ts // s.scb.sessionId < 15 })
    (inputs : List Input) : AllSteps (step env) (IndicesInside env) start.val inputs ↔
      AllSteps (step env)
        (fun s input ↦ Starts s input → s.scb.sessionId ≠ 14) start.val inputs := by
  have hkeep : ∀ (s : Ts) (input : Input), (Starts s input → s.scb.sessionId ≠ 14) →
      s.scb.sessionId < 15 → (step env s input).scb.sessionId < 15 := by
    intro s input hother hsession
    by_cases hstarts : Starts s input
    · obtain ⟨t, hsame, -, hafter⟩ := indices_of_starts env hstarts
      rw [hafter, nextSessionId_lt_iff (hsame ▸ hsession), hsame]
      exact hother hstarts
    · rw [sessionId_step env hstarts]
      exact hsession
  refine allSteps_congr_of_kept hkeep (fun s input hsession ↦ ?_) start.property inputs
  unfold IndicesInside
  by_cases hstarts : Starts s input
  · obtain ⟨t, hsame, hindices, -⟩ := indices_of_starts env hstarts
    rw [hindices, forall_mem_singleton, forall_prop_of_true hstarts, ← hsame,
      ← nextSessionId_lt_iff (hsame ▸ hsession)]
    exact ⟨Inside.bound, inside_of_lt⟩
  · refine iff_of_true (fun i hi ↦ ?_) fun hstarts' ↦ absurd hstarts' hstarts
    rw [mem_indices hstarts hi]
    exact inside_of_lt hsession

/-- A second send, after a session with id 14. -/
theorem sessionIndices_fail :
    ¬ ∀ (env : Env) (start : { s : Ts // s.scb.sessionId < 15 }) (inputs : List Input),
    AllSteps (step env) (IndicesInside env) start.val inputs := by
  intro hall
  let start : Ts := (Ts.powerUp 1).modifyScb fun scb ↦ { scb with sessionId := 14 }
  have hinside := (hall takesAll ⟨start, by decide⟩ [.sendData zeroParam (fun _ ↦ 0) 1]).1 15
  exact absurd (hinside (mem_singleton.mpr rfl)).bound (by decide)

end ZipGateway.TransportService
