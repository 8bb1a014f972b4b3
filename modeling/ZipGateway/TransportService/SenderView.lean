import ZipGateway.TransportService.Footprint

/-!
# The length and the offsets of a send

`SenderView` holds the fields of the sending half that say how long the datagram is, how much of it
goes into a fragment and from where a requested fragment is taken. The receiving half leaves the
view alone, and the sending half changes it by the six kinds of `SenderStep` only. What the
divisions and the copies of the module rely on is stated on the view and kept by every such step.
-/

set_option autoImplicit false

namespace ZipGateway.TransportService

open Lib Relation

/-! ### The view -/

/-- The fields that decide from where and how much is sent. -/
@[ext]
structure SenderView where
  fragmentMaxPayload : ℕ
  sessionId : ℕ
  transmissionAborted : ℕ
  datagramLen : ℕ
  remainingDataLen : ℕ
  missingOffset : ℕ
  flagReplyFragReq : Bool

/-- The view of a state. -/
def Ts.senderView (s : Ts) : SenderView where
  fragmentMaxPayload := s.fragmentMaxPayload
  sessionId := s.scb.sessionId
  transmissionAborted := s.scb.transmissionAborted
  datagramLen := s.scb.datagramLen
  remainingDataLen := s.scb.remainingDataLen
  missingOffset := s.scb.missingOffset
  flagReplyFragReq := s.scb.flagReplyFragReq

/-! ### Functions that leave the view alone -/

section Same

variable (env : Env) (s : Ts)

theorem senderView_record (act : Act) : (s.record act).senderView = s.senderView :=
  rfl

theorem senderView_sendRaw (snode dnode : UInt16) (txFlags : UInt8) (frame : List UInt8)
    (callback : Option RawCallback) :
    (sendRaw env snode dnode txFlags frame callback s).1.senderView = s.senderView := by
  unfold sendRaw
  dsimp only
  split_ifs <;> rfl

theorem senderView_of_sendRaw_eq {snode dnode : UInt16} {txFlags : UInt8} {frame : List UInt8}
    {callback : Option RawCallback} {before after : Ts} {taken : Bool}
    (heq : sendRaw env snode dnode txFlags frame callback before = (after, taken)) :
    after.senderView = before.senderView := by
  rw [← senderView_sendRaw env before snode dnode txFlags frame callback, heq]

theorem senderView_transmitFragment (overhead : ℕ) (callback : RawCallback) :
    (transmitFragment env overhead callback s).1.senderView = s.senderView :=
  senderView_sendRaw env _ _ _ _ _ _

theorem senderView_of_transmitFragment_eq {overhead : ℕ} {callback : RawCallback}
    {before after : Ts}
    {taken : Bool} (heq : transmitFragment env overhead callback before = (after, taken)) :
    after.senderView = before.senderView := by
  rw [← senderView_transmitFragment env before overhead callback, heq]

theorem senderView_callCompleted (status : UInt8) :
    (callCompleted status s).senderView = s.senderView := by
  unfold callCompleted
  split <;> rfl

theorem senderView_pendingSegments (pending : Scb → UInt8) :
    (s.modifyScb fun scb ↦ { scb with pendingSegments := pending scb }).senderView = s.senderView :=
  rfl

theorem senderView_checkDivisor (unit : ℕ) : (checkDivisor unit s).senderView = s.senderView := by
  unfold checkDivisor
  split_ifs <;> rfl

theorem senderView_sendLastFrag : (sendLastFrag s).senderView = s.senderView := by
  unfold sendLastFrag
  dsimp only
  split_ifs <;> rfl

theorem senderView_sendFragWaitCmd : (sendFragWaitCmd env s).senderView = s.senderView := by
  unfold sendFragWaitCmd
  dsimp only
  split
  · exact senderView_sendRaw env _ _ _ _ _ _
  · refine (senderView_sendRaw env _ _ _ _ _ _).trans ?_
    split
    · rfl
    · exact senderView_checkDivisor _ _

theorem senderView_askToWait : (askToWait env s).senderView = s.senderView := by
  unfold askToWait
  split_ifs
  · rfl
  · exact senderView_sendFragWaitCmd env s

theorem senderView_replyFragReq : (replyFragReq env s).senderView = s.senderView := by
  unfold replyFragReq
  split_ifs
  · rfl
  · dsimp only
    split
    · exact (senderView_sendLastFrag _).trans rfl
    · exact (senderView_transmitFragment env _ _ _).trans rfl

theorem senderView_tempCallbackReplyFragReq (status : UInt8) :
    (tempCallbackReplyFragReq status s).senderView = s.senderView := by
  unfold tempCallbackReplyFragReq
  split_ifs
  · exact senderView_callCompleted s status
  · rfl

theorem senderView_sendFragCompleteCmd : (sendFragCompleteCmd env s).senderView = s.senderView := by
  unfold sendFragCompleteCmd
  split_ifs
  · exact (senderView_sendRaw env _ _ _ _ _ _).trans rfl
  · rfl

theorem senderView_sendFragReqCmd : (sendFragReqCmd env s).senderView = s.senderView := by
  unfold sendFragReqCmd
  dsimp only
  split_ifs
  · rfl
  · rfl
  · refine Eq.trans (b := Ts.senderView _) rfl ?_
    split
    · rename_i after heq
      exact (senderView_of_sendRaw_eq env heq).trans rfl
    · rename_i after heq
      have hsent : after.senderView = s.senderView :=
        (senderView_of_sendRaw_eq env heq).trans rfl
      split_ifs
      · exact (senderView_sendRaw env _ _ _ _ _ _).trans hsent
      · exact hsent

theorem senderView_findMissing : (findMissing env s).senderView = s.senderView := by
  unfold findMissing
  split_ifs
  · rfl
  · exact senderView_sendFragReqCmd env _
  · rfl
  · exact senderView_sendFragCompleteCmd env _

theorem senderView_rxTimerExpired : (rxTimerExpired env s).senderView = s.senderView := by
  unfold rxTimerExpired
  dsimp only
  split_ifs
  · rfl
  · exact senderView_findMissing env _

theorem senderView_storeFirstFragment (cmd : ℕ → UInt8) (size : ℕ) :
    (storeFirstFragment env cmd size s).senderView = s.senderView := by
  unfold storeFirstFragment
  dsimp only
  split_ifs
  · exact senderView_sendFragCompleteCmd env _
  · rfl

theorem senderView_dropDuplicate : (dropDuplicate s).senderView = s.senderView := by
  unfold dropDuplicate
  split_ifs <;> rfl

theorem senderView_storeSubseqFragment (cmd : ℕ → UInt8) (offset size : ℕ) :
    (storeSubseqFragment env cmd offset size s).senderView = s.senderView := by
  unfold storeSubseqFragment
  split
  · exact senderView_askToWait env _
  · rename_i marked hmark
    have hmarked : marked.senderView = s.senderView := by
      unfold markFragReceived at hmark
      split_ifs at hmark
      rw [← Option.some.inj hmark]
      rfl
    dsimp only
    split_ifs
    · exact (senderView_findMissing env _).trans hmarked
    · exact hmarked

theorem senderView_initializeOnce : (initializeOnce s).senderView = s.senderView := by
  unfold initializeOnce
  split_ifs <;> rfl

theorem senderView_tieBreak (p : TsParam) : (tieBreak p s).senderView = s.senderView := by
  unfold tieBreak
  split_ifs <;> rfl

theorem senderView_receiveSegmentComplete : (receiveSegmentComplete s).senderView =
    s.senderView := by
  unfold receiveSegmentComplete
  dsimp only
  split
  · rfl
  · refine (senderView_callCompleted _ _).trans ?_
    unfold Ts.modifyScb Ts.modifyRcb Scb.setFragCompl
    dsimp only
    split_ifs <;> rfl

end Same

/-! ### What a step does to the view -/

/-- What a step may do to the view. `R` is asked of the offset of a request that is answered
later. -/
inductive SenderStep (R : ℕ → ℕ → Prop) (v : SenderView) : SenderView → Prop
  /-- The session is not to be continued. -/
  | abort : SenderStep R v { v with transmissionAborted := v.sessionId }
  /-- `send_first_frag` starts the datagram under another session id. -/
  | start (txFlags : UInt8) (sessionId remaining : ℕ) (hrest : remaining ≤ v.datagramLen) :
      SenderStep R v
        { v with
          fragmentMaxPayload := fragmentMaxPayloadFor txFlags
          sessionId := sessionId
          remainingDataLen := remaining }
  /-- A local send is accepted. -/
  | accept (txFlags : UInt8) (dataLength : UInt16) (sessionId remaining : ℕ)
      (hrest : remaining ≤ dataLength.toNat) :
      SenderStep R v
        { v with
          fragmentMaxPayload := fragmentMaxPayloadFor txFlags
          sessionId := sessionId
          transmissionAborted := 0x11
          datagramLen := dataLength.toNat
          remainingDataLen := remaining
          flagReplyFragReq := false }
  /-- A fragment is requested. -/
  | request (offset : ℕ) (later : Bool) (hopen : v.sessionId ≠ v.transmissionAborted)
      (hoffset : offset < 2048)
        (hok : later = true ∨ v.flagReplyFragReq = true → R offset v.datagramLen) :
      SenderStep R v
        { v with missingOffset := offset, flagReplyFragReq := later || v.flagReplyFragReq }
  /-- A request that was answered later is answered. -/
  | answered : SenderStep R v { v with flagReplyFragReq := false }
  /-- A fragment is cut off the rest. -/
  | cursor (remaining : ℕ) (hrest : v.remainingDataLen ≤ v.datagramLen →
      remaining ≤ v.datagramLen) : SenderStep R v { v with remainingDataLen := remaining }

/-- A sequence of steps. -/
def SenderReaches (R : ℕ → ℕ → Prop) : SenderView → SenderView → Prop := ReflTransGen (SenderStep R)

/-- The invariant of the view. Before the first `send_first_frag` there is no session to answer
for. -/
structure SenderInv (v : SenderView) : Prop where
  payload : v.fragmentMaxPayload ≤ fragmentMaxPayloadMax
  datagramLen_lt : v.datagramLen < 65536
  missingOffset_lt : v.missingOffset < 2048
  rest : v.remainingDataLen ≤ v.datagramLen
  unset : v.fragmentMaxPayload = 0 → v.sessionId = v.transmissionAborted ∧
    v.flagReplyFragReq = false ∧ v.datagramLen = 0

theorem fragmentMaxPayloadFor_bounds (txFlags : UInt8) :
    0 < fragmentMaxPayloadFor txFlags ∧ fragmentMaxPayloadFor txFlags ≤ fragmentMaxPayloadMax := by
  unfold fragmentMaxPayloadFor fragmentMaxPayloadMax
  split_ifs <;> omega

theorem SenderInv.powerUp (myNodeId : UInt8) : SenderInv (Ts.powerUp myNodeId).senderView where
  payload := Nat.zero_le _
  datagramLen_lt := Nat.zero_lt_succ _
  missingOffset_lt := Nat.zero_lt_succ _
  rest := Nat.le_refl 0
  unset := fun _ ↦ ⟨rfl, rfl, rfl⟩

section Invariant

variable {R : ℕ → ℕ → Prop} {v v' : SenderView}

/-- Every step keeps the invariant. -/
theorem SenderStep.inv (hstep : SenderStep R v v') (h : SenderInv v) : SenderInv v' := by
  cases hstep with
  | abort =>
    refine ⟨h.payload, h.datagramLen_lt, h.missingOffset_lt, h.rest, ?_⟩
    intro hunset
    exact ⟨rfl, (h.unset hunset).2⟩
  | start txFlags sessionId remaining hrest =>
    obtain ⟨hpos, hmax⟩ := fragmentMaxPayloadFor_bounds txFlags
    exact ⟨hmax, h.datagramLen_lt, h.missingOffset_lt, hrest,
      fun hunset ↦ absurd hunset (Nat.ne_of_gt hpos)⟩
  | accept txFlags dataLength sessionId remaining hrest =>
    obtain ⟨hpos, hmax⟩ := fragmentMaxPayloadFor_bounds txFlags
    exact ⟨hmax, dataLength.toNat_lt, h.missingOffset_lt, hrest,
      fun hunset ↦ absurd hunset (Nat.ne_of_gt hpos)⟩
  | request offset later hopen hoffset hok =>
    exact ⟨h.payload, h.datagramLen_lt, hoffset, h.rest,
      fun hunset ↦ absurd (h.unset hunset).1 hopen⟩
  | answered =>
    refine ⟨h.payload, h.datagramLen_lt, h.missingOffset_lt, h.rest, ?_⟩
    intro hunset
    obtain ⟨haborted, -, hlen⟩ := h.unset hunset
    exact ⟨haborted, rfl, hlen⟩
  | cursor remaining hrest =>
    exact ⟨h.payload, h.datagramLen_lt, h.missingOffset_lt, hrest h.rest, h.unset⟩

theorem SenderReaches.inv (hreaches : SenderReaches R v v') (h : SenderInv v) : SenderInv v' := by
  induction hreaches with
  | refl => exact h
  | tail _ hstep ih => exact hstep.inv ih

/-- A request that waits for its answer keeps what was asked of it. -/
def SenderView.Waiting (R : ℕ → ℕ → Prop) (v : SenderView) : Prop :=
  v.flagReplyFragReq = true → R v.missingOffset v.datagramLen

theorem SenderStep.waiting (hstep : SenderStep R v v') (h : v.Waiting R) : v'.Waiting R := by
  cases hstep with
  | abort => exact h
  | start txFlags sessionId remaining hrest => exact h
  | accept txFlags dataLength sessionId remaining hrest =>
    exact fun hflag ↦ absurd hflag Bool.false_ne_true
  | request offset later hopen hoffset hok =>
    intro hflag
    exact hok ((Bool.or_eq_true _ _).mp hflag)
  | answered => exact fun hflag ↦ absurd hflag Bool.false_ne_true
  | cursor remaining hrest => exact h

theorem SenderReaches.waiting (hreaches : SenderReaches R v v') (h : v.Waiting R) :
    v'.Waiting R := by
  induction hreaches with
  | refl => exact h
  | tail _ hstep ih => exact hstep.waiting ih

end Invariant

/-! ### The functions that change the view -/

section Reaches

variable {R : ℕ → ℕ → Prop} {v : SenderView} {env : Env} {s : Ts}

theorem SenderReaches.step {w w' : SenderView} (h : SenderReaches R v w)
    (hstep : SenderStep R w w') : SenderReaches R v w' :=
  h.tail hstep

theorem SenderReaches.of_eq {w w' : SenderView} (h : SenderReaches R v w) (heq : w' = w) :
    SenderReaches R v w' :=
  heq ▸ h

theorem startSession_fields (scb : Scb) (session maxPayload : ℕ) :
    (scb.startSession session maxPayload).sessionId = session ∧
      (scb.startSession session maxPayload).transmissionAborted = scb.transmissionAborted ∧
      (scb.startSession session maxPayload).datagramLen = scb.datagramLen ∧
      (scb.startSession session maxPayload).missingOffset = scb.missingOffset ∧
      (scb.startSession session maxPayload).flagReplyFragReq = scb.flagReplyFragReq := by
  unfold Scb.startSession Scb.setFragCompl
  dsimp only
  split_ifs <;> exact ⟨rfl, rfl, rfl, rfl, rfl⟩

theorem startSession_remaining_le (scb : Scb) (session maxPayload : ℕ) :
    (scb.startSession session maxPayload).remainingDataLen ≤ scb.datagramLen := by
  unfold Scb.startSession Scb.setFragCompl
  dsimp only
  split_ifs
  · exact Nat.sub_le _ _
  · exact Nat.le_refl _
  · exact Nat.sub_le _ _
  · exact Nat.le_refl _

theorem senderView_loadFirstFrag (env : Env) (s : Ts) :
    ∃ remaining ≤ s.scb.datagramLen, (loadFirstFrag env s).senderView =
      { s.senderView with
        fragmentMaxPayload := fragmentMaxPayloadFor s.scb.p.txFlags
        sessionId := nextSessionId env s
        remainingDataLen := remaining } := by
  obtain ⟨hsession, haborted, hlen, hoffset, hflag⟩ := startSession_fields s.scb
    (nextSessionId env s) (fragmentMaxPayloadFor s.scb.p.txFlags)
  refine ⟨(s.scb.startSession (nextSessionId env s)
    (fragmentMaxPayloadFor s.scb.p.txFlags)).remainingDataLen, startSession_remaining_le _ _ _, ?_⟩
  unfold loadFirstFrag
  dsimp only
  rw [senderView_pendingSegments, senderView_checkDivisor]
  exact SenderView.ext rfl hsession haborted hlen rfl hoffset hflag

/-- The view after `send_first_frag`: another session id, the payload for the transmit flags and a
new rest. -/
theorem senderView_sendFirstFrag (env : Env) (s : Ts) :
    ∃ sessionId, ∃ remaining ≤ s.scb.datagramLen, (sendFirstFrag env s).senderView =
      { s.senderView with
        fragmentMaxPayload := fragmentMaxPayloadFor s.scb.p.txFlags
        sessionId := sessionId
        remainingDataLen := remaining } := by
  obtain ⟨remaining, hrest, hloaded⟩ := senderView_loadFirstFrag env s
  refine ⟨nextSessionId env s, remaining, hrest, ?_⟩
  rw [← hloaded]
  unfold sendFirstFrag
  dsimp only
  generalize loadFirstFrag env s = loaded
  split_ifs
  · exact (senderView_sendLastFrag _).trans rfl
  · split
    · rename_i after heq
      exact (senderView_of_transmitFragment_eq env heq).trans rfl
    · rename_i after heq
      exact (senderView_of_transmitFragment_eq env heq).trans rfl

theorem SenderReaches.sendFirstFrag (h : SenderReaches R v s.senderView) :
    SenderReaches R v (sendFirstFrag env s).senderView := by
  obtain ⟨sessionId, remaining, hrest, hview⟩ := senderView_sendFirstFrag env s
  rw [hview]
  exact h.step (.start _ sessionId remaining hrest)

theorem SenderReaches.sendData {p : TsParam} {data : ℕ → UInt8} {dataLength : UInt16}
    (h : SenderReaches R v s.senderView) :
    SenderReaches R v (sendData env p data dataLength.toNat s).senderView := by
  unfold TransportService.sendData
  dsimp only
  split_ifs
  · exact h
  · have hopened : ∀ t : Ts, t.scb.p = p →
        t.senderView =
          { s.senderView with
            transmissionAborted := 0x11
            datagramLen := dataLength.toNat
            remainingDataLen := 0
            flagReplyFragReq := false } →
        SenderReaches R v (TransportService.sendFirstFrag env t).senderView := by
      intro t hparam ht
      obtain ⟨sessionId, remaining, hrest, hview⟩ := senderView_sendFirstFrag env t
      have hlen : t.scb.datagramLen = dataLength.toNat := congrArg SenderView.datagramLen ht
      rw [hview, ht, hparam]
      exact h.step (.accept p.txFlags dataLength sessionId remaining (hlen ▸ hrest))
    rw [senderView_record]
    exact hopened _ rfl rfl

/-- The rest that `send_subseq_frag` starts from. -/
def restOf (s : Ts) : ℕ :=
  if s.scb.remainingDataLen = 0 then s.scb.datagramLen else s.scb.remainingDataLen

/-- The rest lies in the datagram. -/
theorem restOf_le (hrest : s.scb.remainingDataLen ≤ s.scb.datagramLen) :
    restOf s ≤ s.scb.datagramLen := by
  unfold restOf
  split_ifs
  · exact Nat.le_refl _
  · exact hrest

theorem senderView_advanceCursor (s : Ts) :
    ∃ remaining ≤ s.scb.remainingDataLen,
      (advanceCursor s).senderView = { s.senderView with remainingDataLen := remaining } := by
  refine ⟨(advanceCursor s).scb.remainingDataLen, ?_, ?_⟩
  · unfold advanceCursor checkDivisor Ts.modifyScb Ts.record
    dsimp only
    split_ifs <;> simp
  · unfold advanceCursor checkDivisor
    split_ifs <;> rfl

/-- `send_subseq_frag` only changes the rest, which does not grow. -/
theorem senderView_sendSubseqFrag (env : Env) (s : Ts) :
    ∃ remaining ≤ restOf s,
      (sendSubseqFrag env s).senderView = { s.senderView with remainingDataLen := remaining } := by
  have hcursor : (subseqCursor s).senderView = { s.senderView with remainingDataLen := restOf s } :=
    rfl
  have hloaded : (loadSubseqFrag (subseqCursor s)).senderView = (subseqCursor s).senderView := rfl
  unfold sendSubseqFrag
  dsimp only
  generalize loadSubseqFrag (subseqCursor s) = loaded at hloaded ⊢
  generalize subseqCursor s = cursor at hcursor hloaded ⊢
  split_ifs
  · exact ⟨restOf s, Nat.le_refl _, hcursor⟩
  · exact ⟨restOf s, Nat.le_refl _, (senderView_sendLastFrag _).trans (hloaded.trans hcursor)⟩
  · split
    · rename_i after heq
      have hsent : after.senderView = { s.senderView with remainingDataLen := restOf s } :=
        ((senderView_of_transmitFragment_eq env heq).trans hloaded).trans hcursor
      obtain ⟨remaining, hle, hadvanced⟩ := senderView_advanceCursor after
      have hrest : after.scb.remainingDataLen = restOf s :=
        congrArg SenderView.remainingDataLen hsent
      refine ⟨remaining, hrest ▸ hle, ?_⟩
      refine Eq.trans (b := (advanceCursor after).senderView) rfl (hadvanced.trans ?_)
      rw [hsent]
    · rename_i after heq
      exact ⟨restOf s, Nat.le_refl _,
        ((senderView_of_transmitFragment_eq env heq).trans hloaded).trans hcursor⟩

theorem SenderReaches.sendSubseqFrag (h : SenderReaches R v s.senderView) :
    SenderReaches R v (sendSubseqFrag env s).senderView := by
  obtain ⟨remaining, hle, hview⟩ := senderView_sendSubseqFrag env s
  rw [hview]
  exact h.step (.cursor remaining fun hrest ↦ hle.trans (restOf_le hrest))

theorem SenderReaches.tsSenddataCb (h : SenderReaches R v s.senderView) :
    SenderReaches R v (tsSenddataCb env s).senderView := by
  unfold TransportService.tsSenddataCb
  split_ifs
  · exact (h.step .answered).of_eq (senderView_replyFragReq env _)
  · exact h.of_eq (senderView_sendFragWaitCmd env _)
  · exact h

theorem SenderReaches.fcTimerExpired (h : SenderReaches R v s.senderView) :
    SenderReaches R v (fcTimerExpired s).senderView := by
  unfold TransportService.fcTimerExpired
  split_ifs
  · exact (h.step .abort).of_eq (senderView_callCompleted _ _)
  · exact h.of_eq (senderView_callCompleted _ _)
  · exact h.of_eq (senderView_callCompleted _ _)
  · exact h.of_eq (senderView_sendLastFrag _)

theorem SenderReaches.abortIfTieBroken (h : SenderReaches R v s.senderView) :
    SenderReaches R v (abortIfTieBroken s).senderView := by
  unfold TransportService.abortIfTieBroken
  split_ifs
  · exact h.step .abort
  · exact h

theorem SenderReaches.receiveFirstFragment (h : SenderReaches R v s.senderView) :
    SenderReaches R v (receiveFirstFragment env s).senderView := by
  have habort : SenderReaches R v (TransportService.abortIfTieBroken s).senderView :=
    h.abortIfTieBroken
  unfold TransportService.receiveFirstFragment
  dsimp only
  split_ifs
  · exact habort
  · exact habort
  · exact habort
  · exact habort
  · exact habort.of_eq (senderView_storeFirstFragment env _ _ _)

theorem SenderReaches.receiveSubseqFragment (h : SenderReaches R v s.senderView) :
    SenderReaches R v (receiveSubseqFragment env s).senderView := by
  have habort : SenderReaches R v (TransportService.abortIfTieBroken s).senderView :=
    h.abortIfTieBroken
  unfold TransportService.receiveSubseqFragment
  dsimp only
  split_ifs
  · exact habort
  · exact habort
  · exact habort.of_eq (senderView_dropDuplicate _)
  · exact habort
  · exact habort.of_eq (senderView_dropDuplicate _)
  · exact habort
  · exact habort.of_eq (senderView_storeSubseqFragment env _ _ _ _)

theorem SenderReaches.receiveSegmentWait (h : SenderReaches R v s.senderView) :
    SenderReaches R v (receiveSegmentWait env s).senderView := by
  unfold TransportService.receiveSegmentWait
  split_ifs
  · exact h
  · refine SenderReaches.of_eq ?_ (Eq.refl _)
    exact SenderReaches.tsSenddataCb (s := (postEvent .recvFragWait s).modifyScb fun scb ↦
      { scb with transmissionAborted := scb.sessionId }) (h.step .abort)

end Reaches

end ZipGateway.TransportService
