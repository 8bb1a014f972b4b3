import ZipGateway.TransportService.Resend

/-!
# The divisors of the pending segments

Three places divide to compute the pending segments. `send_first_frag` divides by the length of the
first fragment, which is zero for an empty datagram only. `send_subseq_frag` divides by the length
of a fragment that is not the last one, which is a full one. `send_frag_wait_cmd` divides by the
size of the last received fragment unless the receiving control block has no session. The block is
set up at the first frame that goes on to `receive`, and from then on a session comes with the size
of a fragment; before it the session number is zero, which is a session. `DivisorsSet` says what
holds from then on, and `Divisible` what each input must meet for no divisor to be zero.
-/

set_option autoImplicit false

namespace ZipGateway.TransportService

open Lib Relation

/-! ### The view -/

def Act.isDivisionByZero : Act → Bool
  | .dividedByZero => true
  | _ => false

/-- A divisor has been zero since power-up. -/
def Ts.divided (s : Ts) : Bool := s.log.any Act.isDivisionByZero

/-- What decides whether a fragment wait divides by zero, and whether one of the places has. -/
@[ext]
structure DivisorView where
  flagInitializeOnce : Bool
  sessionId : ℕ
  curRecvdDataSize : ℕ
  divided : Bool

/-- The view of a state. -/
def Ts.divisorView (s : Ts) : DivisorView where
  flagInitializeOnce := s.flagInitializeOnce
  sessionId := s.rcb.sessionId
  curRecvdDataSize := s.rcb.curRecvdDataSize
  divided := s.divided

/-- A fragment wait does not divide by zero. -/
def DivisorView.WaitDivides (v : DivisorView) : Prop :=
  v.sessionId = noSession ∨ v.curRecvdDataSize ≠ 0

instance (v : DivisorView) : Decidable v.WaitDivides := inferInstanceAs (Decidable (_ ∨ _))

/-- `flag_initialize_once` has been served, or the receiver has no session. -/
def DivisorView.Ready (v : DivisorView) : Prop :=
  v.flagInitializeOnce = false ∨ v.sessionId = noSession

instance (v : DivisorView) : Decidable v.Ready := inferInstanceAs (Decidable (_ ∨ _))

/-- The control block has been set up, and a session has the size of a fragment. -/
structure DivisorsSet (divided : Bool) (v : DivisorView) : Prop where
  initialized : v.flagInitializeOnce = false
  waitDivides : v.WaitDivides
  divided_eq : v.divided = divided

/-! ### Functions that leave the view alone -/

section Same

variable (env : Env) (s : Ts)

theorem divisorView_sendRaw (snode dnode : UInt16) (txFlags : UInt8) (frame : List UInt8)
    (callback : Option RawCallback) :
    (sendRaw env snode dnode txFlags frame callback s).1.divisorView = s.divisorView := by
  unfold sendRaw
  dsimp only
  split_ifs <;> rfl

theorem divisorView_of_sendRaw_eq {snode dnode : UInt16} {txFlags : UInt8} {frame : List UInt8}
    {callback : Option RawCallback} {before after : Ts} {taken : Bool}
    (heq : sendRaw env snode dnode txFlags frame callback before = (after, taken)) :
    after.divisorView = before.divisorView := by
  rw [← divisorView_sendRaw env before snode dnode txFlags frame callback, heq]

theorem divisorView_transmitFragment (overhead : ℕ) (callback : RawCallback) :
    (transmitFragment env overhead callback s).1.divisorView = s.divisorView :=
  divisorView_sendRaw env _ _ _ _ _ _

theorem divisorView_of_transmitFragment_eq {overhead : ℕ} {callback : RawCallback}
    {before after : Ts}
    {taken : Bool} (heq : transmitFragment env overhead callback before = (after, taken)) :
    after.divisorView = before.divisorView := by
  rw [← divisorView_transmitFragment env before overhead callback, heq]

theorem divisorView_callCompleted (status : UInt8) :
    (callCompleted status s).divisorView = s.divisorView := by
  unfold callCompleted
  split <;> rfl

theorem divisorView_sendLastFrag : (sendLastFrag s).divisorView = s.divisorView := by
  unfold sendLastFrag
  dsimp only
  split_ifs <;> rfl

theorem divisorView_replyFragReq : (replyFragReq env s).divisorView = s.divisorView := by
  unfold replyFragReq
  split_ifs
  · rfl
  · dsimp only
    split
    · exact (divisorView_sendLastFrag _).trans rfl
    · exact (divisorView_transmitFragment env _ _ _).trans rfl

theorem divisorView_tempCallbackReplyFragReq (status : UInt8) :
    (tempCallbackReplyFragReq status s).divisorView = s.divisorView := by
  unfold tempCallbackReplyFragReq
  split_ifs
  · exact divisorView_callCompleted s status
  · rfl

theorem divisorView_fcTimerExpired : (fcTimerExpired s).divisorView = s.divisorView := by
  unfold fcTimerExpired
  split_ifs
  · exact (divisorView_callCompleted _ _).trans rfl
  · exact divisorView_callCompleted _ _
  · exact (divisorView_callCompleted _ _).trans rfl
  · exact (divisorView_sendLastFrag _).trans rfl

theorem divisorView_tieBreak (p : TsParam) : (tieBreak p s).divisorView = s.divisorView := by
  unfold tieBreak
  split_ifs <;> rfl

theorem divisorView_abortIfTieBroken : (abortIfTieBroken s).divisorView = s.divisorView := by
  unfold abortIfTieBroken
  split_ifs <;> rfl

theorem divisorView_dropDuplicate : (dropDuplicate s).divisorView = s.divisorView := by
  unfold dropDuplicate
  split_ifs <;> rfl

theorem divisorView_sendFragReqCmd : (sendFragReqCmd env s).divisorView = s.divisorView := by
  unfold sendFragReqCmd
  dsimp only
  split_ifs
  · rfl
  · rfl
  · refine Eq.trans (b := Ts.divisorView _) rfl ?_
    split
    · rename_i after heq
      exact (divisorView_of_sendRaw_eq env heq).trans rfl
    · rename_i after heq
      have hsent : after.divisorView = s.divisorView :=
        (divisorView_of_sendRaw_eq env heq).trans rfl
      split_ifs
      · exact (divisorView_sendRaw env _ _ _ _ _ _).trans hsent
      · exact hsent

theorem divisorView_receiveSegmentRequest :
    (receiveSegmentRequest env s).divisorView = s.divisorView := by
  unfold receiveSegmentRequest
  dsimp only
  split
  · rfl
  · split_ifs
    · rfl
    · exact (divisorView_replyFragReq env _).trans rfl

theorem divisorView_receiveSegmentComplete : (receiveSegmentComplete s).divisorView =
    s.divisorView := by
  unfold receiveSegmentComplete
  dsimp only
  split
  · rfl
  · exact (divisorView_callCompleted _ _).trans rfl

end Same

/-! ### The three divisions -/

section Divisions

variable (env : Env) (s : Ts)

theorem divisorView_pendingSegments (pending : Scb → UInt8) :
    (s.modifyScb fun scb ↦ { scb with pendingSegments := pending scb }).divisorView =
      s.divisorView :=
  rfl

theorem divisorView_checkDivisor (unit : ℕ) : (checkDivisor unit s).divisorView =
    { s.divisorView with divided := decide (unit = 0) || s.divided } := by
  unfold checkDivisor
  split_ifs with hzero
  · rw [decide_eq_true hzero]
    rfl
  · rw [decide_eq_false hzero]
    rfl

/-- The first fragment is empty exactly when the datagram is. -/
theorem startSession_datalenToSend (scb : Scb) (session : ℕ) {maxPayload : ℕ}
    (hpos : 0 < maxPayload) :
    (scb.startSession session maxPayload).datalenToSend = 0 ↔ scb.datagramLen = 0 := by
  unfold Scb.startSession Scb.setFragCompl
  dsimp only
  split_ifs <;> dsimp only at * <;> omega

theorem divisorView_sendFirstFrag : (sendFirstFrag env s).divisorView =
    { s.divisorView with divided := decide (s.scb.datagramLen = 0) || s.divided } := by
  have hloaded : (loadFirstFrag env s).divisorView =
      { s.divisorView with divided := decide (s.scb.datagramLen = 0) || s.divided } := by
    unfold loadFirstFrag
    dsimp only
    rw [divisorView_pendingSegments, divisorView_checkDivisor]
    have hempty := startSession_datalenToSend s.scb (nextSessionId env s)
      (fragmentMaxPayloadFor_bounds s.scb.p.txFlags).1
    exact DivisorView.ext rfl rfl rfl
      (congrArg (fun b ↦ b || s.divided) (decide_eq_decide.mpr hempty))
  rw [← hloaded]
  unfold sendFirstFrag
  dsimp only
  generalize loadFirstFrag env s = loaded
  split_ifs
  · exact (divisorView_sendLastFrag _).trans rfl
  · split
    · rename_i after heq
      exact (divisorView_of_transmitFragment_eq env heq).trans rfl
    · rename_i after heq
      exact (divisorView_of_transmitFragment_eq env heq).trans rfl

/-- A fragment that is not the last one is a full one. -/
theorem divisorView_sendSubseqFrag (hset : s.fragmentMaxPayload = 0 → restOf s = 0) :
    (sendSubseqFrag env s).divisorView = s.divisorView := by
  have hcursor : (subseqCursor s).divisorView = s.divisorView := rfl
  have hrest : (loadSubseqFrag (subseqCursor s)).scb.remainingDataLen = restOf s := rfl
  have hmax : (loadSubseqFrag (subseqCursor s)).fragmentMaxPayload = s.fragmentMaxPayload := rfl
  have hlen : (loadSubseqFrag (subseqCursor s)).scb.datalenToSend =
      min s.fragmentMaxPayload (restOf s) := rfl
  have hloaded : (loadSubseqFrag (subseqCursor s)).divisorView = s.divisorView := rfl
  unfold sendSubseqFrag
  dsimp only
  generalize loadSubseqFrag (subseqCursor s) = loaded at hrest hmax hlen hloaded ⊢
  split_ifs with hcompleted hlast
  · exact hcursor
  · exact (divisorView_sendLastFrag _).trans hloaded
  · split
    · rename_i after heq
      have hsent : after.divisorView = s.divisorView :=
        (divisorView_of_transmitFragment_eq env heq).trans hloaded
      have hfull : after.scb.datalenToSend ≠ 0 := by
        have hkept : after.scb.datalenToSend = loaded.scb.datalenToSend := by
          have hraw := heq
          unfold transmitFragment sendRaw at hraw
          dsimp only at hraw
          split_ifs at hraw
          · rw [← (Prod.mk.inj hraw).1]
            rfl
          · exact absurd (Prod.mk.inj hraw).2 Bool.false_ne_true
        rw [hkept, hlen]
        omega
      refine Eq.trans (b := (checkDivisor after.scb.datalenToSend after).divisorView) rfl ?_
      rw [divisorView_checkDivisor, decide_eq_false hfull]
      exact hsent
    · rename_i after heq
      exact (divisorView_of_transmitFragment_eq env heq).trans hloaded

/-- A fragment wait divides when no fragment is on its way and the receiver has a session. -/
theorem divisorView_sendFragWaitCmd : (sendFragWaitCmd env s).divisorView =
    { s.divisorView with
      divided := decide (s.scb.sending = false ∧ ¬ s.divisorView.WaitDivides) || s.divided } := by
  unfold sendFragWaitCmd
  dsimp only
  split_ifs with hsending hsession
  · refine (divisorView_sendRaw env _ _ _ _ _ _).trans ?_
    rw [decide_eq_false fun hnot ↦ Bool.false_ne_true (hnot.1.symm.trans hsending)]
    rfl
  · refine (divisorView_sendRaw env _ _ _ _ _ _).trans ?_
    rw [decide_eq_false fun hnot ↦ hnot.2 (.inl hsession)]
    rfl
  · refine (divisorView_sendRaw env _ _ _ _ _ _).trans ?_
    refine (divisorView_checkDivisor _ _).trans ?_
    refine DivisorView.ext rfl rfl rfl (congrArg (fun b ↦ b || s.divided) (decide_eq_decide.mpr ?_))
    constructor
    · intro hzero
      refine ⟨Bool.not_eq_true _ ▸ hsending, ?_⟩
      rintro (hclosed | hset)
      · exact hsession hclosed
      · exact hset hzero
    · rintro ⟨-, hnot⟩
      by_contra hset
      exact hnot (.inr hset)

theorem divisorView_askToWait : (askToWait env s).divisorView =
    { s.divisorView with
      divided := decide (s.scb.sending = false ∧ ¬ s.divisorView.WaitDivides) || s.divided } := by
  unfold askToWait
  split_ifs with hsending
  · rw [decide_eq_false fun hnot ↦ Bool.false_ne_true (hnot.1.symm.trans hsending)]
    rfl
  · exact divisorView_sendFragWaitCmd env s

end Divisions

/-! ### The receiving half, once it has been set up -/

section Receiving

variable {divided : Bool} {env : Env} {s : Ts}

variable {v v' : DivisorView}

theorem DivisorsSet.of_eq (h : DivisorsSet divided v) (heq : v' = v) : DivisorsSet divided v' :=
  heq ▸ h

/-- A fragment wait does no harm here. -/
theorem DivisorsSet.wait {v : DivisorView} (h : DivisorsSet divided v) (sending : Bool) :
    DivisorsSet divided
      { v with divided := decide (sending = false ∧ ¬ v.WaitDivides) || v.divided } := by
  refine ⟨h.initialized, h.waitDivides, ?_⟩
  rw [decide_eq_false fun hnot ↦ hnot.2 h.waitDivides]
  exact h.divided_eq

theorem DivisorsSet.askToWait (h : DivisorsSet divided s.divisorView) :
    DivisorsSet divided (askToWait env s).divisorView :=
  (h.wait s.scb.sending).of_eq (divisorView_askToWait env s)

theorem DivisorsSet.tsSenddataCb (h : DivisorsSet divided s.divisorView) :
    DivisorsSet divided (tsSenddataCb env s).divisorView := by
  unfold TransportService.tsSenddataCb
  split_ifs
  · exact h.of_eq (divisorView_replyFragReq env _)
  · exact (h.wait s.scb.sending).of_eq (divisorView_sendFragWaitCmd env _)
  · exact h

/-- Nothing changes, or the receiver's session is closed. -/
structure Closes (v v' : DivisorView) : Prop where
  initialized : v'.flagInitializeOnce = v.flagInitializeOnce
  divided_eq : v'.divided = v.divided
  closed : v' = v ∨ v'.sessionId = noSession

theorem Closes.of_eq (heq : v' = v) : Closes v v' :=
  ⟨congrArg DivisorView.flagInitializeOnce heq, congrArg DivisorView.divided heq, .inl heq⟩

theorem Closes.of_start {v v' w : DivisorView} (h : Closes v v') (heq : v = w) : Closes w v' :=
  heq ▸ h

theorem Closes.receiver (h : Closes v v') (hreceiver : v.WaitDivides ↔ v.Ready) :
    v'.WaitDivides ↔ v'.Ready := by
  rcases h.closed with heq | hclosed
  · rw [heq]
    exact hreceiver
  · exact iff_of_true (.inl hclosed) (.inr hclosed)

/-- A receiver that has been set up, and has the size of a fragment with its session. -/
theorem DivisorsSet.receiver (h : DivisorsSet divided v) : v.WaitDivides ↔ v.Ready :=
  iff_of_true h.waitDivides (.inl h.initialized)

theorem DivisorsSet.closes (h : DivisorsSet divided v) (hcloses : Closes v v') :
    DivisorsSet divided v' :=
  have hset := hcloses.initialized.trans h.initialized
  ⟨hset, (hcloses.receiver h.receiver).mpr (.inl hset), hcloses.divided_eq.trans h.divided_eq⟩

theorem closes_sendFragCompleteCmd (env : Env) (s : Ts) :
    Closes s.divisorView (sendFragCompleteCmd env s).divisorView := by
  unfold sendFragCompleteCmd
  split_ifs
  · dsimp only
    have hsent := divisorView_sendRaw env (s.modifyScb fun scb ↦ { scb with resetTimer := true })
      s.rcb.p.dnode s.rcb.p.snode s.rcb.p.txFlags
      [commandClassTransportService, commandSegmentComplete,
        UInt8.ofNat (s.rcb.sessionId * 16)] none
    generalize (sendRaw env s.rcb.p.dnode s.rcb.p.snode s.rcb.p.txFlags
      [commandClassTransportService, commandSegmentComplete,
        UInt8.ofNat (s.rcb.sessionId * 16)] none
      (s.modifyScb fun scb ↦ { scb with resetTimer := true })).1 = sent at hsent ⊢
    have hinitialized : sent.flagInitializeOnce = s.flagInitializeOnce :=
      congrArg DivisorView.flagInitializeOnce hsent
    have hdivided : sent.divided = s.divided := congrArg DivisorView.divided hsent
    exact ⟨hinitialized, hdivided, .inr rfl⟩
  · exact .of_eq rfl

theorem closes_findMissing (env : Env) (s : Ts) :
    Closes s.divisorView (findMissing env s).divisorView := by
  unfold findMissing
  split_ifs
  · exact ⟨rfl, rfl, .inr rfl⟩
  · exact .of_eq (divisorView_sendFragReqCmd env _)
  · exact .of_eq rfl
  · exact (closes_sendFragCompleteCmd env _).of_start rfl

theorem closes_rxTimerExpired (env : Env) (s : Ts) :
    Closes s.divisorView (rxTimerExpired env s).divisorView := by
  unfold rxTimerExpired
  dsimp only
  split_ifs
  · exact ⟨rfl, rfl, .inr rfl⟩
  · exact (closes_findMissing env _).of_start rfl

theorem DivisorsSet.sized (h : DivisorsSet divided v)
    (hinitialized : v'.flagInitializeOnce = v.flagInitializeOnce) (hsize : v'.curRecvdDataSize ≠ 0)
    (hdivided : v'.divided = v.divided) : DivisorsSet divided v' :=
  ⟨hinitialized.trans h.initialized, .inr hsize, hdivided.trans h.divided_eq⟩

theorem DivisorsSet.receiveFirstFragment (h : DivisorsSet divided s.divisorView) :
    DivisorsSet divided (receiveFirstFragment env s).divisorView := by
  have habort : DivisorsSet divided (TransportService.abortIfTieBroken s).divisorView :=
    h.of_eq (divisorView_abortIfTieBroken s)
  unfold TransportService.receiveFirstFragment
  dsimp only
  generalize TransportService.abortIfTieBroken s = t at habort ⊢
  split_ifs with hshort
  · exact habort
  · exact habort
  · exact habort
  · exact habort
  · have hsize : t.rcb.fragmentLen - firstFragNonpayloadLength ≠ 0 :=
      Nat.sub_ne_zero_of_lt (Nat.not_le.mp hshort)
    unfold storeFirstFragment
    dsimp only
    split_ifs
    · refine DivisorsSet.closes ?_ (closes_sendFragCompleteCmd env _)
      exact habort.sized rfl hsize rfl
    · exact habort.sized rfl hsize rfl

theorem DivisorsSet.storeSubseqFragment {cmd : ℕ → UInt8} {offset size : ℕ}
    (h : DivisorsSet divided s.divisorView) :
    DivisorsSet divided (storeSubseqFragment env cmd offset size s).divisorView := by
  unfold TransportService.storeSubseqFragment
  split
  · exact DivisorsSet.askToWait (s := postEvent .subseqDiffSession s) h
  · rename_i marked hmark
    have hmarked : DivisorsSet divided marked.divisorView := by
      unfold markFragReceived at hmark
      split_ifs at hmark
      rw [← Option.some.inj hmark]
      exact h
    dsimp only
    split_ifs
    · exact hmarked.closes ((closes_findMissing env _).of_start rfl)
    · exact hmarked

theorem DivisorsSet.receiveSubseqFragment (h : DivisorsSet divided s.divisorView) :
    DivisorsSet divided (receiveSubseqFragment env s).divisorView := by
  have habort : DivisorsSet divided (TransportService.abortIfTieBroken s).divisorView :=
    h.of_eq (divisorView_abortIfTieBroken s)
  unfold TransportService.receiveSubseqFragment
  dsimp only
  generalize TransportService.abortIfTieBroken s = t at habort ⊢
  split_ifs with hshort
  · exact habort
  · exact habort
  · exact habort.of_eq (divisorView_dropDuplicate _)
  · exact habort
  all_goals
    have hsize : t.rcb.fragmentLen - subseqFragNonpayloadLength ≠ 0 :=
      Nat.sub_ne_zero_of_lt (Nat.not_le.mp hshort)
    have hsized : DivisorsSet divided (t.modifyRcb fun rcb ↦ { rcb with
        curRecvdDataSize := t.rcb.fragmentLen - subseqFragNonpayloadLength }).divisorView :=
      habort.sized rfl hsize rfl
  · exact hsized.of_eq (divisorView_dropDuplicate _)
  · exact hsized
  · exact DivisorsSet.storeSubseqFragment (s := (t.modifyRcb _).modifyRcb _) hsized

theorem DivisorsSet.receiveSegmentWait (h : DivisorsSet divided s.divisorView) :
    DivisorsSet divided (receiveSegmentWait env s).divisorView := by
  unfold TransportService.receiveSegmentWait
  split_ifs
  · exact h
  · exact DivisorsSet.tsSenddataCb (s := (postEvent .recvFragWait s).modifyScb fun scb ↦
      { scb with transmissionAborted := scb.sessionId }) h

theorem DivisorsSet.receive (h : DivisorsSet divided s.divisorView) :
    DivisorsSet divided (receive env s).divisorView := by
  unfold TransportService.receive
  dsimp only
  split_ifs
  · exact h
  · exact h.receiveFirstFragment
  · exact h.receiveSubseqFragment
  · exact h.of_eq (divisorView_receiveSegmentRequest env s)
  · exact h.of_eq (divisorView_receiveSegmentComplete s)
  · exact h.receiveSegmentWait
  · exact h

end Receiving

/-! ### Steps and runs -/

section Steps

variable {env : Env} {s : Ts}

/-- A fragment of a third node is answered by a fragment wait. -/
def AsksToWait (p : TsParam) (cmdLength : UInt8) (s : Ts) : Prop :=
  p.snode ≠ p.dnode ∧ cmdLength.toNat ≤ datagramSizeMax ∧ fromThirdNode p s = true ∧
    p.rxFlags = receiveStatusTypeSingle ∧ s.currentState ≠ .sendFragWait

instance (p : TsParam) (cmdLength : UInt8) (s : Ts) : Decidable (AsksToWait p cmdLength s) :=
  inferInstanceAs (Decidable (_ ∧ _ ∧ _ ∧ _ ∧ _))

/-- The condition on an input under which no divisor of its step is zero. A local send is of at
least one byte when it is accepted. A segment wait that arrives before anything was sent is followed
by no restart. While `flag_initialize_once` has not been served, no fragment wait is sent between
two sends. -/
def Divisible (s : Ts) : Input → Prop
  | .sendData _ _ dataLength => isSending s = true ∨ isReceiving s = true ∨ dataLength ≠ 0
  | .receive p _ cmdLength => AsksToWait p cmdLength s → s.scb.sending = false →
      s.divisorView.Ready
  | .rawCallback k _ => s.outstanding[k]? = some .sendData → s.scb.flagReplyFragReq = false →
      s.scb.flagSendFragWait = true → s.scb.sending = false → s.divisorView.Ready
  | .waitRestartTimer => s.scb.waitRestartTimer = true → s.scb.datagramLen ≠ 0
  | _ => True

instance : ∀ s input, Decidable (Divisible s input)
  | _, .sendData .. => inferInstanceAs (Decidable (_ ∨ _ ∨ _))
  | _, .receive .. => inferInstanceAs (Decidable (_ → _ → _))
  | _, .rawCallback .. => inferInstanceAs (Decidable (_ → _ → _ → _ → _))
  | _, .waitRestartTimer => inferInstanceAs (Decidable (_ → _))
  | _, .fcTimer => isTrue trivial
  | _, .rxTimer => isTrue trivial
  | _, .resetTimer => isTrue trivial
  | _, .timerBtwn2Frags => isTrue trivial

/-- The invariant: nothing has been sent before the first payload is chosen, and a session has the
size of a fragment exactly when the receiver has been set up. -/
structure DivisorInv (s : Ts) : Prop where
  sender : SenderInv s.senderView
  receiver : s.divisorView.WaitDivides ↔ s.divisorView.Ready

theorem DivisorInv.powerUp (myNodeId : UInt8) : DivisorInv (Ts.powerUp myNodeId) where
  sender := .powerUp myNodeId
  receiver := by
    have hsession : ¬ (0 : ℕ) = noSession := by decide
    refine iff_of_false (fun hdivides ↦ ?_) fun hready ↦ ?_
    · exact hdivides.elim hsession fun hsize ↦ hsize rfl
    · exact hready.elim (fun hset ↦ Bool.false_ne_true hset.symm) hsession

/-- The view when the places divide by zero in the case `zero`. -/
def DivisorView.dividing (v : DivisorView) (zero : Prop) [Decidable zero] : DivisorView :=
  { v with divided := decide zero || v.divided }

theorem DivisorView.eq_dividing {v v' : DivisorView} {zero : Prop} [Decidable zero] (heq : v' = v)
    (hzero : ¬ zero) : v' = v.dividing zero := by
  rw [heq, DivisorView.dividing, decide_eq_false hzero]
  rfl

theorem DivisorView.dividing_congr {v : DivisorView} {zero zero' : Prop} [Decidable zero]
    [Decidable zero'] (hiff : zero ↔ zero') : v.dividing zero = v.dividing zero' := by
  unfold DivisorView.dividing
  rw [decide_eq_decide.mpr hiff]

theorem tieBreak_sendFragWait (p : TsParam) (s : Ts) :
    (tieBreak p s).currentState = .sendFragWait ↔ s.currentState = .sendFragWait := by
  unfold tieBreak
  split_ifs with htie
  · have hsending : isSending s = true := htie.1
    change nextState s.currentState .tieBreak = .sendFragWait ↔ _
    unfold isSending at hsending
    generalize s.currentState = state at hsending ⊢
    cases state <;> simp at hsending <;> decide
  · exact Iff.rfl

/-- A frame of a third node is not handed on. Any other one either is, or does not divide by
zero. -/
theorem divisorView_applicationCommandHandler (env : Env) (s : Ts) (p : TsParam) (cmd : ℕ → UInt8)
    (cmdLength : UInt8) :
    (∃ t, handed p cmd cmdLength s = some t ∧ ¬ AsksToWait p cmdLength s ∧
      applicationCommandHandler env p cmd cmdLength s = receive env t) ∨
    (applicationCommandHandler env p cmd cmdLength s).divisorView =
      s.divisorView.dividing
        (AsksToWait p cmdLength s ∧ s.scb.sending = false ∧ ¬ s.divisorView.WaitDivides) := by
  have hview : (tieBreak p ((s.record (.received p cmd cmdLength)).modifyScb fun scb ↦
      { scb with resetTimer := true })).divisorView = s.divisorView :=
    divisorView_tieBreak _ p
  have hstate := tieBreak_sendFragWait p ((s.record (.received p cmd cmdLength)).modifyScb fun scb ↦
    { scb with resetTimer := true })
  have hthird :
      fromThirdNode p (tieBreak p ((s.record (.received p cmd cmdLength)).modifyScb fun scb ↦
      { scb with resetTimer := true })) = fromThirdNode p s := by
    unfold tieBreak
    split_ifs <;> rfl
  have hsending : (tieBreak p ((s.record (.received p cmd cmdLength)).modifyScb fun scb ↦
      { scb with resetTimer := true })).scb.sending = s.scb.sending := by
    unfold tieBreak
    split_ifs <;> rfl
  unfold handed applicationCommandHandler
  dsimp only
  generalize tieBreak p _ = u at hview hstate hthird hsending ⊢
  have hthird' : fromThirdNode p (u.modifyScb fun scb ↦ { scb with fragWaitP := p }) =
      fromThirdNode p s := hthird
  rw [hthird']
  have hstate' : u.currentState = .sendFragWait ↔ s.currentState = .sendFragWait := hstate
  split_ifs with hself hlong hsingle hwaiting hbroad hsubseq htooLong
  · exact .inr (DivisorView.eq_dividing hview fun hasks ↦ hasks.1.1 hself)
  · exact .inr (DivisorView.eq_dividing hview fun hasks ↦ Nat.not_le.mpr hlong hasks.1.2.1)
  · exact .inr (DivisorView.eq_dividing hview
      fun hasks ↦ hasks.1.2.2.2.2 (hstate'.mp hwaiting))
  · right
    have hasks : AsksToWait p cmdLength s :=
      ⟨hself, Nat.not_lt.mp hlong, hsingle.1, hsingle.2, fun hwait ↦ hwaiting (hstate'.mpr hwait)⟩
    refine (divisorView_askToWait env _).trans ?_
    have hviews : (postEvent .scastDiffNode (u.modifyScb fun scb ↦
        { scb with fragWaitP := p })).divisorView = s.divisorView := hview
    have hdivided : (postEvent .scastDiffNode (u.modifyScb fun scb ↦
        { scb with fragWaitP := p })).divided = s.divided := congrArg DivisorView.divided hview
    have hsending' : (postEvent .scastDiffNode (u.modifyScb fun scb ↦
        { scb with fragWaitP := p })).scb.sending = s.scb.sending := hsending
    rw [hviews, hdivided, hsending']
    exact DivisorView.dividing_congr (and_iff_right hasks).symm
  · exact .inr (DivisorView.eq_dividing hview fun hasks ↦ hsingle ⟨hasks.1.2.2.1, hasks.1.2.2.2.1⟩)
  · exact .inr (DivisorView.eq_dividing hview fun hasks ↦ hsingle ⟨hasks.1.2.2.1, hasks.1.2.2.2.1⟩)
  · right
    have hwaits : DivisorView.WaitDivides (postEvent .subseqDiffSession (u.modifyScb fun scb ↦
        { scb with fragWaitP := p })).divisorView := .inl hsubseq.1
    refine DivisorView.eq_dividing ?_ fun hasks ↦ hsingle ⟨hasks.1.2.2.1, hasks.1.2.2.2.1⟩
    refine (divisorView_askToWait env _).trans ?_
    rw [decide_eq_false fun hnot ↦ hnot.2 hwaits]
    exact hview
  · exact .inl ⟨_, rfl, fun hasks ↦ hsingle ⟨hasks.2.2.1, hasks.2.2.2.1⟩, rfl⟩

/-- The control block is set up when a frame is handed on. -/
theorem divisorsSet_handed {p : TsParam} {cmd : ℕ → UInt8} {cmdLength : UInt8} {t : Ts}
    (hreceiver : s.divisorView.WaitDivides ↔ s.divisorView.Ready)
    (hhanded : handed p cmd cmdLength s = some t) : DivisorsSet s.divided t.divisorView := by
  have hview : (tieBreak p ((s.record (.received p cmd cmdLength)).modifyScb fun scb ↦
      { scb with resetTimer := true })).divisorView = s.divisorView :=
    divisorView_tieBreak _ p
  have htaken : ∀ u : Ts, u.divisorView = s.divisorView →
      DivisorsSet s.divided (initializeOnce u).divisorView := by
    intro u hu
    have hdivided : u.divided = s.divided := congrArg DivisorView.divided hu
    have hflag : u.flagInitializeOnce = s.flagInitializeOnce :=
      congrArg DivisorView.flagInitializeOnce hu
    unfold initializeOnce
    split_ifs with hfirst
    · exact ⟨rfl, .inl rfl, hdivided⟩
    · have hset : u.flagInitializeOnce = false := Bool.not_eq_true _ ▸ hfirst
      exact ⟨hset, hu ▸ hreceiver.mpr (.inl (hflag.symm.trans hset)), hdivided⟩
  unfold handed at hhanded
  dsimp only at hhanded
  generalize tieBreak p _ = u at hview hhanded
  split_ifs at hhanded
  rw [← Option.some.inj hhanded]
  unfold frameTaken
  dsimp only
  split
  · exact htaken (postEvent .startRecv (u.modifyScb _)) hview
  · exact htaken (postEvent .recvNewFrag (u.modifyScb _)) hview
  · exact htaken (u.modifyScb _) hview

theorem divisorView_returned (s : Ts) (call : ℕ) (result : Bool) :
    (s.record (.returned call result)).divisorView = s.divisorView :=
  rfl

/-- The callback of a fragment. -/
theorem divisorView_callback (env : Env) (hinv : DivisorInv s) {k : ℕ} {status : UInt8}
    (hkind : s.outstanding[k]? = some .sendData) :
    (tsSenddataCb env { s with outstanding := s.outstanding.eraseIdx k }).divisorView =
      s.divisorView.dividing (¬ Divisible s (.rawCallback k status)) := by
  have hdivisible : Divisible s (.rawCallback k status) ↔ (s.scb.flagReplyFragReq = false →
      s.scb.flagSendFragWait = true → s.scb.sending = false → s.divisorView.WaitDivides) := by
    rw [hinv.receiver]
    exact forall_prop_of_true hkind
  unfold tsSenddataCb
  split_ifs with hreply hwait
  · refine DivisorView.eq_dividing ((divisorView_replyFragReq env _).trans rfl) (not_not.mpr ?_)
    exact hdivisible.mpr fun hnone ↦ absurd (hnone.symm.trans hreply) Bool.false_ne_true
  · refine (divisorView_sendFragWaitCmd env _).trans
      (DivisorView.dividing_congr (v := s.divisorView) ?_)
    rw [hdivisible]
    have hnone : s.scb.flagReplyFragReq = false := Bool.not_eq_true _ ▸ hreply
    constructor
    · rintro ⟨hsending, hnot⟩ hdivides
      exact hnot (hdivides hnone hwait hsending)
    · intro hnot
      by_contra hneither
      exact hnot fun _ _ hsending ↦ by_contra fun hdivides ↦ hneither ⟨hsending, hdivides⟩
  · refine DivisorView.eq_dividing rfl (not_not.mpr ?_)
    exact hdivisible.mpr fun _ hset ↦ absurd hset hwait

/-- What a step does to the view: it divides by zero when the input does not meet the condition, and
else keeps the receiver's part. -/
theorem divisorView_step (env : Env) (input : Input) (hinv : DivisorInv s) :
    (step env s input).divisorView = s.divisorView.dividing (¬ Divisible s input) ∨
      Divisible s input ∧ (step env s input).divided = s.divided ∧
        ((step env s input).divisorView.WaitDivides ↔ (step env s input).divisorView.Ready) := by
  have hsame : ∀ t : Ts, Divisible s input → t.divisorView = s.divisorView →
      t.divisorView = s.divisorView.dividing (¬ Divisible s input) :=
    fun t hdivisible hview ↦ DivisorView.eq_dividing hview (not_not.mpr hdivisible)
  cases input with
  | sendData p data dataLength =>
    left
    unfold step sendData
    dsimp only
    split_ifs with hbusy
    · exact hsame _ (or_assoc.mp (.inl ((Bool.or_eq_true _ _).mp hbusy))) rfl
    · have hidle : ¬ (isSending s = true ∨ isReceiving s = true) :=
        fun heither ↦ hbusy ((Bool.or_eq_true _ _).mpr heither)
      rw [divisorView_returned, divisorView_sendFirstFrag]
      refine DivisorView.dividing_congr (v := s.divisorView) ?_
      have hempty : dataLength.toNat = 0 ↔ dataLength = 0 := by
        rw [← UInt16.toNat_inj]
        rfl
      unfold Divisible
      refine hempty.trans ?_
      constructor
      · rintro hzero (hsending | hreceiving | hset)
        · exact hidle (.inl hsending)
        · exact hidle (.inr hreceiving)
        · exact hset hzero
      · exact fun hnot ↦ by_contra fun hset ↦ hnot (.inr (.inr hset))
  | receive p cmd cmdLength =>
    rcases divisorView_applicationCommandHandler env s p cmd cmdLength with
      ⟨t, hhanded, hasks, heq⟩ | hview
    · right
      have hset : DivisorsSet s.divided (receive env t).divisorView :=
        (divisorsSet_handed hinv.receiver hhanded).receive
      refine ⟨fun hasked ↦ absurd hasked hasks, ?_⟩
      unfold step
      dsimp only
      rw [heq]
      exact ⟨hset.divided_eq, hset.receiver⟩
    · left
      refine hview.trans (DivisorView.dividing_congr ?_)
      unfold Divisible
      rw [← hinv.receiver]
      tauto
  | rawCallback k status =>
    left
    unfold step
    dsimp only
    split
    · rename_i hnone
      exact hsame _ (fun hsome ↦ absurd (hnone.symm.trans hsome) (Option.some_ne_none _).symm) rfl
    · rename_i kind hkind
      cases kind with
      | sendData => exact divisorView_callback env hinv hkind
      | lastFrag =>
        exact hsame _ (fun hsome ↦ nomatch (hkind.symm.trans hsome)) rfl
      | replyFragReq =>
        exact hsame _ (fun hsome ↦ nomatch (hkind.symm.trans hsome))
          (divisorView_tempCallbackReplyFragReq _ status)
  | fcTimer =>
    left
    unfold step
    dsimp only
    split_ifs
    · exact hsame _ trivial ((divisorView_fcTimerExpired _).trans rfl)
    · exact hsame _ trivial rfl
  | rxTimer =>
    unfold step
    dsimp only
    split_ifs
    · have hcloses := closes_rxTimerExpired env s
      exact .inr ⟨trivial, hcloses.divided_eq, hcloses.receiver hinv.receiver⟩
    · exact .inl (hsame _ trivial rfl)
  | resetTimer =>
    unfold step
    dsimp only
    split_ifs
    · exact .inr ⟨trivial, rfl, iff_of_true (.inl rfl) (.inr rfl)⟩
    · exact .inl (hsame _ trivial rfl)
  | waitRestartTimer =>
    left
    unfold step
    dsimp only
    split_ifs with hpending
    · refine (divisorView_sendFirstFrag env _).trans (DivisorView.dividing_congr ?_)
      unfold Divisible
      constructor
      · exact fun hempty hset ↦ hset hpending hempty
      · exact fun hnot ↦ by_contra fun hempty ↦ hnot fun _ ↦ hempty
    · exact hsame _ (fun hset ↦ absurd hset hpending) rfl
  | timerBtwn2Frags =>
    left
    unfold step
    dsimp only
    split_ifs
    · refine hsame _ trivial ((divisorView_sendSubseqFrag env _ ?_).trans rfl)
      intro hunset
      have hlen : s.scb.datagramLen = 0 := (hinv.sender.unset hunset).2.2
      exact Nat.le_zero.mp ((restOf_le hinv.sender.rest).trans_eq hlen)
    · exact hsame _ trivial rfl

/-- One step: the invariant is kept, and a divisor is zero in it exactly when the input does not
meet the condition. -/
theorem divisorInv_step (env : Env) (input : Input) (hinv : DivisorInv s) :
    DivisorInv (step env s input) ∧
      ((step env s input).divided = true ↔ ¬ Divisible s input ∨ s.divided = true) := by
  have hsender : SenderInv (step env s input).senderView := senderInv_step env hinv.sender
  rcases divisorView_step env input hinv with hview | ⟨hdivisible, hdivided, hreceiver⟩
  · have hdivided : (step env s input).divided = (decide (¬ Divisible s input) || s.divided) :=
      congrArg DivisorView.divided hview
    refine ⟨⟨hsender, ?_⟩, ?_⟩
    · rw [hview]
      exact hinv.receiver
    · rw [hdivided, Bool.or_eq_true, decide_eq_true_iff]
  · refine ⟨⟨hsender, hreceiver⟩, ?_⟩
    rw [hdivided]
    exact (or_iff_right (not_not.mpr hdivisible)).symm

/-- A zero divisor stays in the log. -/
theorem divided_run (env : Env) {inputs : List Input} (hinv : DivisorInv s)
    (hdivided : s.divided = true) : (run (step env) s inputs).divided = true := by
  induction inputs generalizing s with
  | nil => exact hdivided
  | cons input rest ih =>
    obtain ⟨hinv', hiff⟩ := divisorInv_step env input hinv
    exact ih hinv' (hiff.mpr (.inr hdivided))

theorem divided_run_iff (env : Env) (inputs : List Input) (hinv : DivisorInv s)
    (hundivided : s.divided = false) :
    (run (step env) s inputs).divided = false ↔ AllSteps (step env) Divisible s inputs := by
  induction inputs generalizing s with
  | nil => exact iff_of_true hundivided trivial
  | cons input rest ih =>
    obtain ⟨hinv', hiff⟩ := divisorInv_step env input hinv
    rw [run_cons, allSteps_cons]
    by_cases hdivisible : Divisible s input
    · have hnext : (step env s input).divided = false := by
        rw [← Bool.not_eq_true, hiff]
        rintro (hnot | hdivided)
        · exact hnot hdivisible
        · exact Bool.false_ne_true (hundivided.symm.trans hdivided)
      exact (ih hinv' hnext).trans (and_iff_right hdivisible).symm
    · have hdivided : (run (step env) (step env s input) rest).divided = true :=
        divided_run env hinv' (hiff.mpr (.inl hdivisible))
      refine iff_of_false ?_ fun hall ↦ hdivisible hall.1
      exact fun hnot ↦ Bool.false_ne_true (hnot.symm.trans hdivided)

theorem dividedByZero_mem_iff (s : Ts) : .dividedByZero ∈ s.log ↔ s.divided = true := by
  unfold Ts.divided
  rw [List.any_eq_true]
  constructor
  · exact fun hmem ↦ ⟨_, hmem, rfl⟩
  · rintro ⟨act, hmem, hzero⟩
    cases act with
    | dividedByZero => exact hmem
    | returned call result => exact absurd hzero Bool.false_ne_true
    | completed call status => exact absurd hzero Bool.false_ne_true
    | sent snode dnode frame => exact absurd hzero Bool.false_ne_true
    | received p cmd cmdLength => exact absurd hzero Bool.false_ne_true
    | delivered session snode dnode datagram => exact absurd hzero Bool.false_ne_true

/-- From power-up on, no divisor is zero exactly when every input meets the condition. -/
theorem divisors_nonzero_iff (env : Env) (myNodeId : UInt8) (inputs : List Input) :
    .dividedByZero ∉ (run (step env) (Ts.powerUp myNodeId) inputs).log ↔
      AllSteps (step env) Divisible (Ts.powerUp myNodeId) inputs := by
  rw [dividedByZero_mem_iff, Bool.not_eq_true]
  exact divided_run_iff env inputs (.powerUp myNodeId) rfl

/-- Ten bytes are sent to node 5, and then a frame of node 6 is received, the first one since
power-up. -/
theorem divides_by_zero_before_first_frame :
    ¬ ∀ (env : Env) (myNodeId : UInt8) (inputs : List Input),
      (∀ p data dataLength, .sendData p data dataLength ∈ inputs → dataLength ≠ 0) →
      .dividedByZero ∉ (run (step env) (Ts.powerUp myNodeId) inputs).log := by
  intro hclaim
  have hsends : ∀ p data dataLength, Input.sendData p data dataLength ∈
      [Input.sendData ⟨1, 5, 0, 0, 0, 0, 0⟩ (fun _ ↦ 0) 10,
        .frame ⟨6, 1, 0, 0, 0, 0, 0⟩ [0x55, 0xC0, 20, 0x10, 0, 0, 0, 0]] → dataLength ≠ 0 := by
    intro p data dataLength hmem
    rcases List.mem_cons.mp hmem with heq | hrest
    · rw [(Input.sendData.inj heq).2.2]
      decide
    · exact nomatch List.mem_singleton.mp hrest
  exact hclaim takesAll 1 _ hsends ((dividedByZero_mem_iff _).mpr (by decide +kernel))

end Steps

end ZipGateway.TransportService
