import ZipGateway.TransportService.Frames
import ZipGateway.TransportService.SenderView

/-!
# The answer to a segment request

`reply_frag_req` copies the requested part of the datagram into the transmit buffer. The offset
comes from the frame and is not compared with the length of the datagram; where it is not below it,
the clamp of the length is zero or wraps around.

`replies` lists the states in which a step calls `reply_frag_req`: at once for a request that is
received between two fragments, and in the callback of the fragment, or at a segment wait, for one
that came while a fragment was on its way. What such a call copies lies inside the datagram exactly
when the session has been completed, so that nothing is copied, or the offset is below the length.
-/

set_option autoImplicit false

namespace ZipGateway.TransportService

open Lib List Relation

/-! ### Where segment requests are answered -/

/-- What `takeFrame` gives to `receive`. -/
def frameTaken (p : TsParam) (cmd : ℕ → UInt8) (cmdLength : UInt8) (s : Ts) : Ts :=
  let s := match s.currentState with
    | .idle => postEvent .startRecv s
    | .receiving => postEvent .recvNewFrag s
    | _ => s
  (initializeOnce s).modifyRcb fun rcb ↦
    { rcb with fragment := cmd, p := p, fragmentLen := cmdLength.toNat }

/-- The state in which `TransportService_ApplicationCommandHandler` gives a frame to `receive`, if
it does. -/
def handed (p : TsParam) (cmd : ℕ → UInt8) (cmdLength : UInt8) (s : Ts) : Option Ts :=
  let s := s.record (.received p cmd cmdLength)
  let s := tieBreak p (s.modifyScb fun scb ↦ { scb with resetTimer := true })
  if p.snode = p.dnode then none
  else if datagramSizeMax < cmdLength.toNat then none
  else
    let s := s.modifyScb fun scb ↦ { scb with fragWaitP := p }
    if fromThirdNode p s ∧ p.rxFlags = receiveStatusTypeSingle then none
    else if fromThirdNode p s ∧ p.rxFlags = receiveStatusTypeBroad then none
    else if s.rcb.sessionId = noSession ∧ cmd 1 &&& 0xF8 = commandSubsequentFragment then none
    else some (frameTaken p cmd cmdLength s)

/-- A frame that is given to `receive` is a segment request. -/
def IsRequest (t : Ts) : Prop :=
  t.rcb.fragment 0 = commandClassTransportService ∧
    t.rcb.fragment 1 &&& 0xF8 = commandSegmentRequest

instance (t : Ts) : Decidable (IsRequest t) := inferInstanceAs (Decidable (_ ∧ _))

def requestedOffset (t : Ts) : ℕ := (t.rcb.fragment 2).toNat % 8 * 256 + (t.rcb.fragment 3).toNat

/-- The state of an accepted segment request, with its offset. -/
def requested (t : Ts) : Ts :=
  postEvent .recvFragReq (((postEvent .fragReqOrCompl t).modifyRcb fun rcb ↦
    { rcb with fcTimer := false }).modifyScb fun scb ↦
      { scb with missingOffset := requestedOffset t })

/-- `ZCB_ts_senddata_cb` answers a request that has been waiting. -/
def repliesOfCallback (s : Ts) : List Ts :=
  if s.scb.flagReplyFragReq then [s.modifyScb fun scb ↦ { scb with flagReplyFragReq := false }]
    else []

/-- The calls of `reply_frag_req` of `receive`. -/
def repliesOfReceive (t : Ts) : List Ts :=
  if IsRequest t then
    if controlAccepted t = none ∧ t.scb.sending = false then [requested t] else []
  else if t.rcb.fragment 0 = commandClassTransportService ∧
      t.rcb.fragment 1 &&& 0xF8 = commandSegmentWait ∧ t.scb.fragCompl t.scb.sessionId = false then
    repliesOfCallback ((postEvent .recvFragWait t).modifyScb fun scb ↦
      { scb with transmissionAborted := scb.sessionId })
  else []

/-- The states in which a step calls `reply_frag_req`. -/
def replies (s : Ts) : Input → List Ts
  | .receive p cmd cmdLength =>
    match handed p cmd cmdLength s with
    | some t => repliesOfReceive t
    | none => []
  | .rawCallback k _ =>
    match s.outstanding[k]? with
    | some .sendData => repliesOfCallback { s with outstanding := s.outstanding.eraseIdx k }
    | _ => []
  | _ => []

/-- `sizeof(t2_txBuf)`. -/
def txBufSize : ℕ := 54

/-- What `reply_frag_req` copies in this state, if anything, is a part of the datagram that is not
empty and not larger than a fragment, and the frame fits into the transmit buffer. -/
def CopiesInside (s : Ts) : Prop :=
  s.scb.fragCompl s.scb.sessionId = false →
    0 < (loadMissingFrag s).scb.datalenToSend ∧
      (loadMissingFrag s).scb.datalenToSend ≤ s.fragmentMaxPayload ∧
      s.scb.missingOffset + (loadMissingFrag s).scb.datalenToSend ≤ s.scb.datagramLen ∧
      (subseqFragment s.scb.sessionId s.scb.datagram s.scb.datagramLen s.scb.missingOffset
        (loadMissingFrag s).scb.datalenToSend).length ≤ txBufSize

instance (s : Ts) : Decidable (CopiesInside s) := inferInstanceAs (Decidable (_ → _))

/-- The request asks for a part of the datagram. One for a session that has been completed need not,
when it is dealt with at once. -/
def RequestInside (t : Ts) : Prop :=
  requestedOffset t < t.scb.datagramLen ∨
    t.scb.fragCompl t.scb.sessionId = true ∧ t.scb.sending = false ∧ t.scb.flagReplyFragReq = false

instance (t : Ts) : Decidable (RequestInside t) := inferInstanceAs (Decidable (_ ∨ _))

/-- A segment request that is received and accepted asks for a part of the datagram. -/
def RequestsInside (s : Ts) : Input → Prop
  | .receive p cmd cmdLength =>
    ∀ t ∈ handed p cmd cmdLength s, IsRequest t → controlAccepted t = none → RequestInside t
  | _ => True

instance : ∀ s input, Decidable (RequestsInside s input)
  | s, .receive p cmd cmdLength => inferInstanceAs (Decidable (∀ t ∈ handed p cmd cmdLength s, _))
  | _, .sendData .. => isTrue trivial
  | _, .rawCallback .. => isTrue trivial
  | _, .fcTimer => isTrue trivial
  | _, .rxTimer => isTrue trivial
  | _, .resetTimer => isTrue trivial
  | _, .waitRestartTimer => isTrue trivial
  | _, .timerBtwn2Frags => isTrue trivial

/-! ### The calls are the ones of the code -/

section Calls

variable (env : Env) (s : Ts) (p : TsParam) (cmd : ℕ → UInt8) (cmdLength : UInt8)

/-- A frame that is handed on goes through `receive`; the others leave the view alone. -/
theorem applicationCommandHandler_cases :
    (∃ t, handed p cmd cmdLength s = some t ∧
      applicationCommandHandler env p cmd cmdLength s = receive env t) ∨
    handed p cmd cmdLength s = none ∧
      (applicationCommandHandler env p cmd cmdLength s).senderView = s.senderView := by
  have hview : (tieBreak p ((s.record (.received p cmd cmdLength)).modifyScb fun scb ↦
      { scb with resetTimer := true })).senderView = s.senderView :=
    senderView_tieBreak _ p
  unfold handed applicationCommandHandler
  dsimp only
  generalize tieBreak p _ = u at hview ⊢
  split_ifs with hself hlong hsingle hwaiting hbroad hsubseq htooLong
  · exact .inr ⟨rfl, hview⟩
  · exact .inr ⟨rfl, hview⟩
  · exact .inr ⟨rfl, hview⟩
  · exact .inr ⟨rfl, (senderView_askToWait env _).trans hview⟩
  · exact .inr ⟨rfl, hview⟩
  · exact .inr ⟨rfl, hview⟩
  · exact .inr ⟨rfl, (senderView_askToWait env _).trans hview⟩
  · exact .inl ⟨_, rfl, rfl⟩

theorem senderView_frameTaken : (frameTaken p cmd cmdLength s).senderView = s.senderView := by
  unfold frameTaken
  dsimp only
  split
  · exact (senderView_initializeOnce _).trans rfl
  · exact (senderView_initializeOnce _).trans rfl
  · exact (senderView_initializeOnce _).trans rfl

theorem senderView_handed {t : Ts} (hhanded : handed p cmd cmdLength s = some t) :
    t.senderView = s.senderView := by
  have hview : (tieBreak p ((s.record (.received p cmd cmdLength)).modifyScb fun scb ↦
      { scb with resetTimer := true })).senderView = s.senderView :=
    senderView_tieBreak _ p
  unfold handed at hhanded
  dsimp only at hhanded
  generalize tieBreak p _ = u at hview hhanded
  split_ifs at hhanded
  rw [← Option.some.inj hhanded]
  exact (senderView_frameTaken _ p cmd cmdLength).trans hview

/-- An accepted request is answered at once, or its answer waits. -/
theorem receiveSegmentRequest_accepted {t : Ts} (haccepted : controlAccepted t = none) :
    receiveSegmentRequest env t =
      if t.scb.sending then (requested t).modifyScb fun scb ↦ { scb with flagReplyFragReq := true }
      else replyFragReq env (requested t) := by
  have haccepted' : controlAccepted (postEvent .fragReqOrCompl t) = none := haccepted
  unfold receiveSegmentRequest
  dsimp only
  rw [haccepted']
  rfl

end Calls

/-! ### One answer -/

/-- The length that is copied, in the three cases of the offset. -/
theorem resendLen_inside {maxPayload missingOffset datagramLen : ℕ}
    (hmax : maxPayload ≤ fragmentMaxPayloadMax) (hpos : 0 < maxPayload) :
    0 < resendLen maxPayload missingOffset datagramLen ∧
        resendLen maxPayload missingOffset datagramLen ≤ maxPayload ∧
        missingOffset + resendLen maxPayload missingOffset datagramLen ≤ datagramLen ↔
      missingOffset < datagramLen := by
  unfold fragmentMaxPayloadMax at hmax
  unfold resendLen
  split_ifs with hlast
  · omega
  · omega

/-- One call of `reply_frag_req` stays inside the datagram exactly when there is nothing to copy or
the offset lies inside. -/
theorem copiesInside_iff {s : Ts} (hinv : SenderInv s.senderView)
    (hset : s.fragmentMaxPayload ≠ 0) : CopiesInside s ↔
      s.scb.fragCompl s.scb.sessionId = true ∨ s.scb.missingOffset < s.scb.datagramLen := by
  have hinside := @resendLen_inside s.fragmentMaxPayload s.scb.missingOffset s.scb.datagramLen
    hinv.payload (Nat.pos_of_ne_zero hset)
  have hlen : (loadMissingFrag s).scb.datalenToSend =
      resendLen s.fragmentMaxPayload s.scb.missingOffset s.scb.datagramLen := rfl
  have hmax : s.fragmentMaxPayload ≤ 47 := hinv.payload
  unfold CopiesInside
  rw [hlen, length_subseqFragment]
  cases hcompleted : s.scb.fragCompl s.scb.sessionId with
  | true => exact iff_of_true (fun hfalse ↦ absurd hfalse.symm Bool.false_ne_true) (.inl rfl)
  | false =>
    constructor
    · intro hcopies
      obtain ⟨hpos, hle, hend, -⟩ := hcopies rfl
      exact .inr (hinside.mp ⟨hpos, hle, hend⟩)
    · rintro (htrue | hoffset) -
      · exact absurd htrue Bool.false_ne_true
      · obtain ⟨hpos, hle, hend⟩ := hinside.mpr hoffset
        refine ⟨hpos, hle, hend, ?_⟩
        have hle' : resendLen s.fragmentMaxPayload s.scb.missingOffset s.scb.datagramLen ≤ 47 :=
          Nat.le_trans hle hmax
        unfold subseqFragNonpayloadLength txBufSize
        omega

/-! ### Steps and runs -/

section Steps

variable {R : ℕ → ℕ → Prop} {v : SenderView} {env : Env}

theorem requestedOffset_lt (t : Ts) : requestedOffset t < 2048 := by
  have hlow := (t.rcb.fragment 3).toNat_lt
  unfold requestedOffset
  omega

/-- An accepted request belongs to a session that is not aborted. -/
theorem open_of_controlAccepted {t : Ts} (haccepted : controlAccepted t = none) :
    t.scb.sessionId ≠ t.scb.transmissionAborted := by
  unfold controlAccepted at haccepted
  dsimp only at haccepted
  split_ifs at haccepted with haborted hsession hnode
  intro hsame
  rw [← hsame] at haborted
  exact haborted (not_not.mp hsession)

theorem senderStep_requested {t : Ts} (haccepted : controlAccepted t = none) (later : Bool)
    (hok : later = true ∨ t.scb.flagReplyFragReq = true → R (requestedOffset t) t.scb.datagramLen) :
    SenderStep R t.senderView
      { t.senderView with
        missingOffset := requestedOffset t
        flagReplyFragReq := later || t.scb.flagReplyFragReq } :=
  .request (requestedOffset t) later (open_of_controlAccepted haccepted) (requestedOffset_lt t) hok

theorem SenderReaches.receiveSegmentRequest {t : Ts} (h : SenderReaches R v t.senderView)
    (hok : controlAccepted t = none → t.scb.sending = true ∨ t.scb.flagReplyFragReq = true →
      R (requestedOffset t) t.scb.datagramLen) :
    SenderReaches R v (receiveSegmentRequest env t).senderView := by
  cases haccepted : controlAccepted t with
  | some event =>
    have hrefused : TransportService.receiveSegmentRequest env t =
        postEvent event (postEvent .fragReqOrCompl t) := by
      have haccepted' : controlAccepted (postEvent .fragReqOrCompl t) = some event := haccepted
      unfold TransportService.receiveSegmentRequest
      dsimp only
      rw [haccepted']
    rw [hrefused]
    exact h
  | none =>
    rw [receiveSegmentRequest_accepted env haccepted]
    have hstep := h.step (senderStep_requested haccepted t.scb.sending (hok haccepted))
    cases hsending : t.scb.sending with
    | true =>
      rw [hsending] at hstep
      exact hstep
    | false =>
      rw [hsending] at hstep
      exact hstep.of_eq (senderView_replyFragReq env _)

theorem SenderReaches.receive {t : Ts} (h : SenderReaches R v t.senderView)
    (hok : IsRequest t → controlAccepted t = none →
      t.scb.sending = true ∨ t.scb.flagReplyFragReq = true → R
        (requestedOffset t) t.scb.datagramLen) :
    SenderReaches R v (receive env t).senderView := by
  unfold TransportService.receive
  dsimp only
  split_ifs with hclass hfirst hsubseq hrequest hcomplete hwait
  · exact h
  · exact h.receiveFirstFragment
  · exact h.receiveSubseqFragment
  · exact h.receiveSegmentRequest (hok ⟨not_not.mp hclass, hrequest⟩)
  · exact h.of_eq (senderView_receiveSegmentComplete _)
  · exact h.receiveSegmentWait
  · exact h

/-- Every step of the module is a sequence of steps of the view. -/
theorem senderReaches_step (env : Env) (s : Ts) (input : Input)
    (hok : ∀ p cmd cmdLength t, input = .receive p cmd cmdLength →
      handed p cmd cmdLength s = some t → IsRequest t → controlAccepted t = none →
      t.scb.sending = true ∨ t.scb.flagReplyFragReq = true → R
        (requestedOffset t) t.scb.datagramLen) :
    SenderReaches R s.senderView (step env s input).senderView := by
  have hrefl : SenderReaches R s.senderView s.senderView := ReflTransGen.refl
  cases input with
  | sendData p data dataLength => exact hrefl.sendData
  | receive p cmd cmdLength =>
    unfold step
    dsimp only
    rcases applicationCommandHandler_cases env s p cmd cmdLength with ⟨t, hhanded, heq⟩ | ⟨-, hview⟩
    · rw [heq]
      exact SenderReaches.receive (hrefl.of_eq (senderView_handed s p cmd cmdLength hhanded))
        (hok p cmd cmdLength t rfl hhanded)
    · exact hrefl.of_eq hview
  | rawCallback k status =>
    unfold step
    dsimp only
    split
    · exact hrefl
    · rename_i kind _
      cases kind with
      | sendData => exact SenderReaches.tsSenddataCb (s := { s with outstanding := _ }) hrefl
      | lastFrag => exact hrefl
      | replyFragReq => exact hrefl.of_eq (senderView_tempCallbackReplyFragReq _ status)
  | fcTimer =>
    unfold step
    dsimp only
    split_ifs
    · exact SenderReaches.fcTimerExpired (s := s.modifyRcb _) hrefl
    · exact hrefl
  | rxTimer =>
    unfold step
    dsimp only
    split_ifs
    · exact hrefl.of_eq (senderView_rxTimerExpired env s)
    · exact hrefl
  | resetTimer =>
    unfold step
    dsimp only
    split_ifs <;> exact hrefl
  | waitRestartTimer =>
    unfold step
    dsimp only
    split_ifs
    · exact SenderReaches.sendFirstFrag (s := s.modifyScb _) hrefl
    · exact hrefl
  | timerBtwn2Frags =>
    unfold step
    dsimp only
    split_ifs
    · exact SenderReaches.sendSubseqFrag (s := s.modifyScb _) hrefl
    · exact hrefl

end Steps

/-! ### The answers of a run -/

section Answers

variable {s t : Ts} {input : Input}

theorem set_of_flagReplyFragReq {v : SenderView} (hinv : SenderInv v)
    (hflag : v.flagReplyFragReq = true) : v.fragmentMaxPayload ≠ 0 := by
  intro hunset
  exact Bool.false_ne_true ((hinv.unset hunset).2.1.symm.trans hflag)

theorem mem_repliesOfCallback (ht : t ∈ repliesOfCallback s) :
    s.scb.flagReplyFragReq = true ∧
      t = s.modifyScb fun scb ↦ { scb with flagReplyFragReq := false } := by
  unfold repliesOfCallback at ht
  split_ifs at ht with hflag
  · exact ⟨hflag, mem_singleton.mp ht⟩
  · exact absurd ht not_mem_nil

/-- An answer is given in a session, and with the offset of the request or of the one that has been
waiting. -/
theorem replies_cases (ht : t ∈ replies s input) :
    (∃ p cmd cmdLength u, input = .receive p cmd cmdLength ∧ handed p cmd cmdLength s = some u ∧
      IsRequest u ∧ controlAccepted u = none ∧ u.scb.sending = false ∧ t = requested u) ∨
    ∃ u : Ts, (∀ R, SenderReaches R s.senderView u.senderView) ∧
      u.scb.flagReplyFragReq = true ∧
        t = u.modifyScb fun scb ↦ { scb with flagReplyFragReq := false } := by
  cases input with
  | receive p cmd cmdLength =>
    unfold replies at ht
    dsimp only at ht
    split at ht
    · rename_i u hhanded
      unfold repliesOfReceive at ht
      split_ifs at ht with hrequest haccepted hwait
      · exact .inl ⟨p, cmd, cmdLength, u, rfl, hhanded, hrequest, haccepted.1, haccepted.2,
          mem_singleton.mp ht⟩
      · exact absurd ht not_mem_nil
      · obtain ⟨hflag, heq⟩ := mem_repliesOfCallback ht
        refine .inr ⟨_, ?_, hflag, heq⟩
        intro R
        have hreaches : SenderReaches R s.senderView u.senderView :=
          SenderReaches.of_eq ReflTransGen.refl (senderView_handed s p cmd cmdLength hhanded)
        exact hreaches.step .abort
      · exact absurd ht not_mem_nil
    · exact absurd ht not_mem_nil
  | rawCallback k status =>
    unfold replies at ht
    dsimp only at ht
    split at ht
    · obtain ⟨hflag, heq⟩ := mem_repliesOfCallback ht
      exact .inr ⟨{ s with outstanding := s.outstanding.eraseIdx k },
        fun _ ↦ ReflTransGen.refl, hflag, heq⟩
    · exact absurd ht not_mem_nil
  | sendData p data dataLength => exact absurd ht not_mem_nil
  | fcTimer => exact absurd ht not_mem_nil
  | rxTimer => exact absurd ht not_mem_nil
  | resetTimer => exact absurd ht not_mem_nil
  | waitRestartTimer => exact absurd ht not_mem_nil
  | timerBtwn2Frags => exact absurd ht not_mem_nil

/-- Whoever answers has a session, whose payload is set. -/
theorem replies_set (hinv : SenderInv s.senderView) (ht : t ∈ replies s input) :
    SenderInv t.senderView ∧ t.fragmentMaxPayload ≠ 0 := by
  rcases replies_cases ht with ⟨p, cmd, cmdLength, u, -, hhanded, -, haccepted, -, rfl⟩ |
    ⟨u, hreaches, hflag, rfl⟩
  · have hu : SenderInv u.senderView := senderView_handed s p cmd cmdLength hhanded ▸ hinv
    have hrequested := senderStep_requested (R := fun _ _ ↦ True) haccepted false fun _ ↦ trivial
    refine ⟨hrequested.inv hu, ?_⟩
    intro hunset
    exact open_of_controlAccepted haccepted (hu.unset hunset).1
  · have hu : SenderInv u.senderView := (hreaches fun _ _ ↦ True).inv hinv
    exact ⟨(SenderStep.answered (R := fun _ _ ↦ True)).inv hu, set_of_flagReplyFragReq hu hflag⟩

/-- When the requests that were accepted lie inside, so does what is answered. -/
theorem replies_offset_lt (hwaiting : s.senderView.Waiting (· < ·))
    (hinside : RequestsInside s input) (ht : t ∈ replies s input) :
    t.scb.fragCompl t.scb.sessionId = true ∨ t.scb.missingOffset < t.scb.datagramLen := by
  rcases replies_cases ht with ⟨p, cmd, cmdLength, u, rfl, hhanded, hrequest, haccepted, -, rfl⟩ |
    ⟨u, hreaches, hflag, rfl⟩
  · rcases hinside _ hhanded hrequest haccepted with hoffset | ⟨hcompleted, -⟩
    · exact .inr hoffset
    · exact .inl hcompleted
  · exact .inr ((hreaches (· < ·)).waiting hwaiting hflag)

/-- A run whose requests lie inside keeps what was asked of the one that waits. -/
theorem waiting_step (env : Env) (hwaiting : s.senderView.Waiting (· < ·))
    (hinside : RequestsInside s input) : (step env s input).senderView.Waiting (· < ·) := by
  refine SenderReaches.waiting ?_ hwaiting
  refine senderReaches_step env s input ?_
  rintro p cmd cmdLength t rfl hhanded hrequest haccepted hlater
  rcases hinside _ hhanded hrequest haccepted with hoffset | ⟨-, hsending, hflag⟩
  · exact hoffset
  · rcases hlater with hlater | hlater
    · exact absurd (hsending.symm.trans hlater) Bool.false_ne_true
    · exact absurd (hflag.symm.trans hlater) Bool.false_ne_true

theorem senderInv_step (env : Env) (hinv : SenderInv s.senderView) :
    SenderInv (step env s input).senderView :=
  (senderReaches_step (R := fun _ _ ↦ True) env s input fun _ _ _ _ _ _ _ _ _ ↦ trivial).inv hinv

/-- Every answer of a run is given in a session. -/
theorem collect_replies_set (env : Env) (inputs : List Input) (hinv : SenderInv s.senderView) :
    ∀ t ∈ collect (step env) replies s inputs,
      SenderInv t.senderView ∧ t.fragmentMaxPayload ≠ 0 := by
  have hkeep : ∀ (s : Ts) (input : Input), True → SenderInv s.senderView →
      SenderInv (step env s input).senderView := fun _ _ _ hinv ↦ senderInv_step env hinv
  exact forall_mem_collect hkeep (fun _ _ _ hinv _ ht ↦ replies_set hinv ht) hinv
    (allSteps_of_forall (fun _ _ ↦ trivial) s inputs)

/-- In a run whose requests lie inside, so do the offsets that are answered. -/
theorem collect_replies_offset_lt (env : Env) {inputs : List Input}
    (hwaiting : s.senderView.Waiting (· < ·))
    (hinside : AllSteps (step env) RequestsInside s inputs) :
    ∀ t ∈ collect (step env) replies s inputs,
      t.scb.fragCompl t.scb.sessionId = true ∨ t.scb.missingOffset < t.scb.datagramLen := by
  have hkeep : ∀ (s : Ts) (input : Input), RequestsInside s input →
      s.senderView.Waiting (· < ·) → (step env s input).senderView.Waiting (· < ·) :=
    fun _ _ hinput hwaiting ↦ waiting_step env hwaiting hinput
  exact forall_mem_collect hkeep
    (fun _ _ hinput hwaiting _ ht ↦ replies_offset_lt hwaiting hinput ht) hwaiting hinside

/-- From power-up on, every call of `reply_frag_req` copies inside the datagram exactly when the
session has been completed or the offset is below the length of the datagram. In a run whose
requests all lie inside, every call does. -/
theorem reply_copies_inside_iff (env : Env) (myNodeId : UInt8) (inputs : List Input) :
    (∀ t ∈ collect (step env) replies (Ts.powerUp myNodeId) inputs,
      CopiesInside t ↔
        t.scb.fragCompl t.scb.sessionId = true ∨ t.scb.missingOffset < t.scb.datagramLen) ∧
    (AllSteps (step env) RequestsInside (Ts.powerUp myNodeId) inputs →
      ∀ t ∈ collect (step env) replies (Ts.powerUp myNodeId) inputs, CopiesInside t) := by
  have hexact : ∀ t ∈ collect (step env) replies (Ts.powerUp myNodeId) inputs,
      CopiesInside t ↔
        t.scb.fragCompl t.scb.sessionId = true ∨ t.scb.missingOffset < t.scb.datagramLen := by
    intro t ht
    obtain ⟨hinv, hset⟩ := collect_replies_set env inputs (.powerUp myNodeId) t ht
    exact copiesInside_iff hinv hset
  refine ⟨hexact, ?_⟩
  intro hinside t ht
  refine (hexact t ht).mpr (collect_replies_offset_lt env ?_ hinside t ht)
  exact fun hflag ↦ absurd hflag Bool.false_ne_true

/-- A send of sixty bytes in session 1 to node 5, which asks for the bytes from 39 on when all have
been sent. -/
def requestOfSecond : List Input :=
  [.sendData ⟨1, 5, 0, 0, 0, 0, 0⟩ (fun _ ↦ 0) 60, .rawCallback 0 0, .timerBtwn2Frags,
    .frame ⟨5, 1, 0, 0, 0, 0, 0⟩ [0x55, 0xC8, 0x10, 39]]

/-- The second fragment is sent again. -/
theorem reply_copies_inside_sixtyBytes :
    AllSteps (step takesAll) RequestsInside (Ts.powerUp 1) requestOfSecond ∧
      ∀ t ∈ collect (step takesAll) replies (Ts.powerUp 1) requestOfSecond, CopiesInside t := by
  have hinside : AllSteps (step takesAll) RequestsInside (Ts.powerUp 1) requestOfSecond := by
    decide +kernel
  exact ⟨hinside, (reply_copies_inside_iff takesAll 1 requestOfSecond).2 hinside⟩

/-- A send of ten bytes in session 1 to node 5, which then asks for the byte after the last one. -/
def requestBehindEnd : List Input :=
  [.sendData ⟨1, 5, 0, 0, 0, 0, 0⟩ (fun _ ↦ 0) 10,
    .frame ⟨5, 1, 0, 0, 0, 0, 0⟩ [0x55, 0xC8, 0x10, 10]]

/-- The request is accepted, and a frame without payload is built. -/
theorem request_behind_end_copies_nothing :
    ¬ ∀ (env : Env) (myNodeId : UInt8) (inputs : List Input),
      ∀ t ∈ collect (step env) replies (Ts.powerUp myNodeId) inputs, CopiesInside t := by
  intro hclaim
  exact absurd (hclaim takesAll 1 requestBehindEnd) (by decide +kernel)

end Answers

/-! ### The fragments of a send -/

/-- The fragments that a step puts into the transmit buffer without being asked: `send_first_frag`
in a call of `ZW_TransportService_SendData` and when the restart timer expires, `send_subseq_frag`
when the timer between two fragments does. Each comes with its offset in the datagram and with the
state after it has been put there. -/
def fragments (env : Env) (s : Ts) : Input → List (ℕ × Ts)
  | .sendData p data dataLength =>
    let call := s.lastCall + 1
    let s := { s with lastCall := call }.modifyScb fun scb ↦ { scb with resetTimer := true }
    if isSending s || isReceiving s then []
    else
      let s := s.modifyScb fun scb ↦
        { scb with
          datagram := data
          p := p
          datagramLen := dataLength.toNat
          completedFunc := some call
          sending := false
          flagRepliedFragReq := false
          transmissionAborted := 0x11
          flagSendFragWait := false
          flagReplyFragReq := false
          flagFcTimerExpiredOnce := false
          remainingDataLen := 0
          currentDnode := p.dnode }
      [(0, loadFirstFrag env (postEvent .startSend s))]
  | .waitRestartTimer =>
    if s.scb.waitRestartTimer then
      [(0, loadFirstFrag env (s.modifyScb fun scb ↦ { scb with waitRestartTimer := false }))]
    else []
  | .timerBtwn2Frags =>
    if s.scb.timerBtwn2Frags ∧ s.scb.fragCompl s.scb.sessionId = false then
      let s := loadSubseqFrag
        (subseqCursor (s.modifyScb fun scb ↦ { scb with timerBtwn2Frags := false }))
      [(s.scb.offset, s)]
    else []
  | _ => []

/-- The fragment has at most `FRAGMENTMAXPAYLOAD` bytes, all of them in the datagram, and fits into
the transmit buffer, which begins with it. -/
structure FragmentFits (offset : ℕ) (s : Ts) : Prop where
  payload : s.scb.datalenToSend ≤ fragmentMaxPayloadMax
  inside : offset + s.scb.datalenToSend ≤ s.scb.datagramLen
  loaded : ∃ frame, frame <+: s.txBuf ∧ frame.length ≤ txBufSize ∧
    (offset = 0 ∧
        frame = firstFragment s.scb.sessionId s.scb.datagram s.scb.datagramLen s.scb.datalenToSend ∨
      frame = subseqFragment s.scb.sessionId s.scb.datagram s.scb.datagramLen offset
        s.scb.datalenToSend)

section Fragments

variable (env : Env) (s : Ts)

theorem startSession_sent (scb : Scb) (session maxPayload : ℕ) :
    (scb.startSession session maxPayload).datagram = scb.datagram ∧
      (scb.startSession session maxPayload).datalenToSend = min maxPayload scb.datagramLen := by
  unfold Scb.startSession Scb.setFragCompl
  dsimp only
  split_ifs with hsession hlong hlong
  · exact ⟨rfl, (Nat.min_eq_left (Nat.le_of_lt hlong)).symm⟩
  · exact ⟨rfl, (Nat.min_eq_right (Nat.le_of_not_lt hlong)).symm⟩
  · exact ⟨rfl, (Nat.min_eq_left (Nat.le_of_lt hlong)).symm⟩
  · exact ⟨rfl, (Nat.min_eq_right (Nat.le_of_not_lt hlong)).symm⟩

/-- `send_first_frag` cuts the first fragment off any datagram. -/
theorem fragmentFits_loadFirstFrag : FragmentFits 0 (loadFirstFrag env s) := by
  obtain ⟨-, hmax⟩ := fragmentMaxPayloadFor_bounds s.scb.p.txFlags
  obtain ⟨-, -, hlen, -⟩ := startSession_fields s.scb (nextSessionId env s)
    (fragmentMaxPayloadFor s.scb.p.txFlags)
  obtain ⟨-, hcount⟩ := startSession_sent s.scb (nextSessionId env s)
    (fragmentMaxPayloadFor s.scb.p.txFlags)
  have hload : ∀ t : Ts, FragmentFits 0 t → ∀ unit, FragmentFits 0
      ((checkDivisor unit t).modifyScb fun scb ↦
        { scb with pendingSegments := segments scb.remainingDataLen scb.datalenToSend }) := by
    intro t ht unit
    unfold checkDivisor
    split_ifs <;> exact ⟨ht.payload, ht.inside, ht.loaded⟩
  have hpayload : (s.scb.startSession (nextSessionId env s)
      (fragmentMaxPayloadFor s.scb.p.txFlags)).datalenToSend ≤ fragmentMaxPayloadMax :=
    hcount ▸ (Nat.min_le_left _ _).trans hmax
  refine hload _ ⟨hpayload, ?_, _, prefix_append _ _, ?_, .inl ⟨rfl, rfl⟩⟩ _
  · refine (Nat.zero_add _).trans_le ?_
    exact (hcount.trans_le (Nat.min_le_right _ _)).trans_eq hlen.symm
  · rw [length_firstFragment]
    exact Nat.add_le_add_left hpayload 6 |>.trans (by decide)

/-- `send_subseq_frag` goes on where the rest begins. -/
theorem fragmentFits_loadSubseqFrag (hinv : SenderInv s.senderView) :
    FragmentFits (s.scb.datagramLen - restOf s) (loadSubseqFrag (subseqCursor s)) := by
  have hrest : restOf s ≤ s.scb.datagramLen := restOf_le hinv.rest
  have hpayload : min s.fragmentMaxPayload (restOf s) ≤ fragmentMaxPayloadMax :=
    (Nat.min_le_left _ _).trans hinv.payload
  refine ⟨hpayload, ?_, _, prefix_append _ _, ?_, .inr rfl⟩
  · have hle : min s.fragmentMaxPayload (restOf s) ≤ restOf s := Nat.min_le_right _ _
    change s.scb.datagramLen - restOf s + min s.fragmentMaxPayload (restOf s) ≤ s.scb.datagramLen
    omega
  · rw [length_subseqFragment]
    exact Nat.add_le_add_left hpayload 7

/-- One step cuts no other fragments. -/
theorem fragmentFits_of_mem {fragment : ℕ × Ts} {input : Input} (hinv : SenderInv s.senderView)
    (hfragment : fragment ∈ fragments env s input) : FragmentFits fragment.1 fragment.2 := by
  cases input with
  | sendData p data dataLength =>
    unfold fragments at hfragment
    dsimp only at hfragment
    split_ifs at hfragment
    · exact absurd hfragment not_mem_nil
    · rw [mem_singleton.mp hfragment]
      exact fragmentFits_loadFirstFrag env _
  | waitRestartTimer =>
    unfold fragments at hfragment
    dsimp only at hfragment
    split_ifs at hfragment
    · rw [mem_singleton.mp hfragment]
      exact fragmentFits_loadFirstFrag env _
    · exact absurd hfragment not_mem_nil
  | timerBtwn2Frags =>
    unfold fragments at hfragment
    dsimp only at hfragment
    split_ifs at hfragment
    · rw [mem_singleton.mp hfragment]
      exact fragmentFits_loadSubseqFrag
        (s.modifyScb fun scb ↦ { scb with timerBtwn2Frags := false }) hinv
    · exact absurd hfragment not_mem_nil
  | receive p cmd cmdLength => exact absurd hfragment not_mem_nil
  | rawCallback k status => exact absurd hfragment not_mem_nil
  | fcTimer => exact absurd hfragment not_mem_nil
  | rxTimer => exact absurd hfragment not_mem_nil
  | resetTimer => exact absurd hfragment not_mem_nil

/-- In every run, each fragment that is sent without being asked for has at most
`FRAGMENTMAXPAYLOAD` bytes, lies inside the datagram and fits into the transmit buffer. The rest to
be sent lies in the datagram, the offset of a segment request has 11 bits, and no session is open
and no request waits before the first send. -/
theorem sender_bounded (env : Env) (myNodeId : UInt8) (inputs : List Input) :
    SenderInv (run (step env) (.powerUp myNodeId) inputs).senderView ∧
      ∀ fragment ∈ collect (step env) (fragments env) (Ts.powerUp myNodeId) inputs,
        FragmentFits fragment.1 fragment.2 := by
  have hkeep : ∀ (s : Ts) (input : Input), True → SenderInv s.senderView →
      SenderInv (step env s input).senderView := fun _ _ _ hinv ↦ senderInv_step env hinv
  have hstart := SenderInv.powerUp myNodeId
  refine ⟨run_invariant (fun s input ↦ hkeep s input trivial) hstart inputs, ?_⟩
  exact forall_mem_collect hkeep (fun s _ _ hinv _ ↦ fragmentFits_of_mem env s hinv) hstart
    (allSteps_of_forall (fun _ _ ↦ trivial) _ inputs)

end Fragments

end ZipGateway.TransportService
