import ZipGateway.TransportService.Frames

/-!
# What a send session puts on the air

From the moment a send is accepted until the next session begins, `send_first_frag`,
`send_subseq_frag`, `send_last_frag` and `reply_frag_req` share one transmit buffer and one cursor.
Whatever callbacks and timers come, and however segment requests interrupt the regular order, every
fragment that `TS_SEND_RAW` takes is a `SessionFrame`: it has the bytes of the datagram at its
offset and is as long as it may be.

The session starts without a pending `fc_timer`, which belongs to the session before, and the
segment requests name offsets within the datagram, as those of the receiver do.
-/

set_option autoImplicit false

namespace ZipGateway.TransportService

open Lib List

/-! ### The fragments in the log -/

/-- The frame is a first or a subsequent fragment. -/
def isFragment (frame : List UInt8) : Bool :=
  decide (frame.getD 0 0 = commandClassTransportService ∧
    (frame.getD 1 0 &&& 0xF8 = commandFirstFragment ∨
      frame.getD 1 0 &&& 0xF8 = commandSubsequentFragment))

/-- The fragment that the act puts on the air. -/
def Act.fragment? : Act → Option (List UInt8)
  | .sent _ _ frame => if isFragment frame then some frame else none
  | _ => none

/-- The fragments that have been taken for transmission, newest first. -/
def fragmentsSent (log : List Act) : List (List UInt8) := log.filterMap Act.fragment?

/-- What the sending functions work with. -/
structure SendCursor where
  datagram : ℕ → UInt8
  datagramLen : ℕ
  sessionId : ℕ
  remainingDataLen : ℕ
  datalenToSend : ℕ
  missingOffset : ℕ
  flagRepliedFragReq : Bool
  flagReplyFragReq : Bool
  doesNotFitInFirstFrag : Bool
  fragmentMaxPayload : ℕ
  txBuf : List UInt8
  fcTimer : Bool
  sent : List (List UInt8)

/-- The cursor of a state. -/
def Ts.cursor (s : Ts) : SendCursor where
  datagram := s.scb.datagram
  datagramLen := s.scb.datagramLen
  sessionId := s.scb.sessionId
  remainingDataLen := s.scb.remainingDataLen
  datalenToSend := s.scb.datalenToSend
  missingOffset := s.scb.missingOffset
  flagRepliedFragReq := s.scb.flagRepliedFragReq
  flagReplyFragReq := s.scb.flagReplyFragReq
  doesNotFitInFirstFrag := s.scb.doesNotFitInFirstFrag
  fragmentMaxPayload := s.fragmentMaxPayload
  txBuf := s.txBuf
  fcTimer := s.rcb.fcTimer
  sent := fragmentsSent s.log

/-- The frame that `send_last_frag` transmits. -/
def SendCursor.lastFrame (c : SendCursor) : List UInt8 :=
  c.txBuf.take ((if c.doesNotFitInFirstFrag then subseqFragNonpayloadLength
    else firstFragNonpayloadLength) + c.datalenToSend)

/-- The datagram of a send session, with what had been sent before it. -/
structure Session where
  session : ℕ
  datagram : ℕ → UInt8
  len : ℕ
  maxPayload : ℕ
  before : List (List UInt8)

/-- The frame belongs to the session. -/
def Session.Emits (d : Session) (frame : List UInt8) : Prop :=
  SessionFrame d.session d.datagram d.len d.maxPayload frame

/-- All fragments sent since the session began belong to it. -/
def Session.Emitted (d : Session) (sent : List (List UInt8)) : Prop :=
  ∃ new, sent = new ++ d.before ∧ ∀ frame ∈ new, d.Emits frame

/-- The cursor stands in the datagram of the session. -/
structure SessionCore (d : Session) (c : SendCursor) : Prop where
  datagram : c.datagram = d.datagram
  datagramLen : c.datagramLen = d.len
  sessionId : c.sessionId = d.session
  maxPayload : c.fragmentMaxPayload = d.maxPayload
  remaining_pos : 0 < c.remainingDataLen
  remaining_le : c.remainingDataLen ≤ d.len
  reply : c.flagReplyFragReq = true → c.missingOffset < d.len
  emitted : d.Emitted c.sent

/-- The invariant of a send session. When the timer that repeats the last fragment is pending, that
fragment still stands in the transmit buffer, unless a segment request has been answered since: then
the timer gives up. -/
structure SessionInv (d : Session) (c : SendCursor) : Prop extends SessionCore d c where
  resend : c.fcTimer = true → c.flagRepliedFragReq = false → d.Emits c.lastFrame

theorem Session.Emitted.cons {d : Session} {sent : List (List UInt8)} (h : d.Emitted sent)
    {frame : List UInt8} (hframe : d.Emits frame) : d.Emitted (frame :: sent) := by
  obtain ⟨new, rfl, hnew⟩ := h
  refine ⟨frame :: new, rfl, ?_⟩
  intro other hother
  rcases mem_cons.mp hother with rfl | hold
  · exact hframe
  · exact hnew other hold

/-- Sending a frame of the session keeps the fragments sent within the session. -/
theorem Session.Emitted.sent {d : Session} {log : List Act} (h : d.Emitted (fragmentsSent log))
    {frame : List UInt8} (hframe : isFragment frame = true → d.Emits frame) (snode dnode : UInt16) :
    d.Emitted (fragmentsSent (.sent snode dnode frame :: log)) := by
  unfold fragmentsSent
  rw [filterMap_cons]
  by_cases hfragment : isFragment frame = true
  · simp only [Act.fragment?, hfragment, if_true]
    exact h.cons (hframe hfragment)
  · simp only [Act.fragment?, hfragment]
    exact h

/-! ### The functions of the sender -/

section Functions

variable {d : Session} {env : Env} {s : Ts}

theorem SessionInv.of_cursor {t : Ts} (h : SessionInv d s.cursor) (heq : t.cursor = s.cursor) :
    SessionInv d t.cursor :=
  heq ▸ h

theorem cursor_checkDivisor (unit : ℕ) : (checkDivisor unit s).cursor = s.cursor := by
  unfold checkDivisor
  split_ifs <;> rfl

theorem cursor_returned (s : Ts) (call : ℕ) (result : Bool) :
    (s.record (.returned call result)).cursor = s.cursor :=
  rfl

theorem cursor_callCompleted (status : UInt8) : (callCompleted status s).cursor = s.cursor := by
  unfold callCompleted
  split <;> rfl

theorem SessionCore.sendRaw {snode dnode : UInt16} {txFlags : UInt8} {frame : List UInt8}
    {callback : Option RawCallback} (h : SessionCore d s.cursor)
    (hframe : isFragment frame = true → d.Emits frame) :
    SessionCore d (sendRaw env snode dnode txFlags frame callback s).1.cursor := by
  unfold TransportService.sendRaw
  dsimp only
  split_ifs
  · exact { h with emitted := h.emitted.sent hframe snode dnode }
  · exact h

theorem SessionInv.sendRaw {snode dnode : UInt16} {txFlags : UInt8} {frame : List UInt8}
    {callback : Option RawCallback} (h : SessionInv d s.cursor)
    (hframe : isFragment frame = true → d.Emits frame) :
    SessionInv d (sendRaw env snode dnode txFlags frame callback s).1.cursor := by
  refine ⟨h.toSessionCore.sendRaw hframe, ?_⟩
  unfold TransportService.sendRaw
  dsimp only
  split_ifs <;> exact h.resend

theorem SessionCore.sendLastFrag (h : SessionCore d s.cursor) (hlast : d.Emits s.cursor.lastFrame) :
    SessionInv d (sendLastFrag s).cursor := by
  have hemitted := h.emitted.sent (fun _ ↦ hlast) s.scb.p.snode s.scb.p.dnode
  unfold TransportService.sendLastFrag
  dsimp only
  split
  · exact ⟨{ h with emitted := hemitted }, fun _ _ ↦ hlast⟩
  · exact ⟨{ h with emitted := hemitted }, fun _ _ ↦ hlast⟩

theorem SessionInv.sendFragWaitCmd (h : SessionInv d s.cursor) :
    SessionInv d (sendFragWaitCmd env s).cursor := by
  have hwait : ∀ (count : UInt8) {t : Ts} {snode dnode : UInt16} {txFlags : UInt8}
      {callback : Option RawCallback}, t.cursor = s.cursor → SessionInv d
      (TransportService.sendRaw env snode dnode txFlags
        [commandClassTransportService, commandSegmentWait, count] callback t).1.cursor := by
    intro count t snode dnode txFlags callback ht
    refine (h.of_cursor ht).sendRaw ?_
    intro hfragment
    have hno : isFragment [commandClassTransportService, commandSegmentWait, count] = false := by
      simp only [isFragment, getD_cons_zero, getD_cons_succ]
      decide
    rw [hno] at hfragment
    exact absurd hfragment Bool.false_ne_true
  unfold TransportService.sendFragWaitCmd
  dsimp only
  split
  · exact hwait _ rfl
  · split
    · exact hwait _ rfl
    · exact hwait _ ((cursor_checkDivisor _).trans rfl)

theorem SessionInv.askToWait (h : SessionInv d s.cursor) :
    SessionInv d (askToWait env s).cursor := by
  unfold TransportService.askToWait
  split_ifs
  · exact h.of_cursor rfl
  · exact h.sendFragWaitCmd

theorem take_load (frame : List UInt8) (count : ℕ) (hcount : frame.length = count) :
    (s.load frame).txBuf.take count = frame := by
  subst hcount
  exact take_left

/-- A fragment that stands in the transmit buffer goes out as it is. -/
theorem SessionCore.transmitFragment {overhead : ℕ} {callback : RawCallback}
    (h : SessionCore d s.cursor)
    (hframe : d.Emits (s.txBuf.take (overhead + s.scb.datalenToSend))) :
    SessionCore d (transmitFragment env overhead callback s).1.cursor := by
  unfold TransportService.transmitFragment
  exact SessionCore.sendRaw (s := s.modifyScb fun scb ↦ { scb with resetTimer := true }) h
    fun _ ↦ hframe

theorem transmitFragment_frame (env : Env) (overhead : ℕ) (callback : RawCallback) (s : Ts) :
    (transmitFragment env overhead callback s).1.scb.remainingDataLen = s.scb.remainingDataLen ∧
      (transmitFragment env overhead callback s).1.rcb = s.rcb := by
  unfold transmitFragment sendRaw
  dsimp only
  split_ifs <;> exact ⟨rfl, rfl⟩

/-- While the timer is stopped, nothing has to stand in the transmit buffer afterwards. -/
theorem SessionCore.transmitFragment_stopped (env : Env) (overhead : ℕ) (callback : RawCallback)
    (h : SessionCore d s.cursor) (hframe : d.Emits (s.txBuf.take (overhead + s.scb.datalenToSend)))
    (hstopped : s.rcb.fcTimer = false) :
    SessionInv d (TransportService.transmitFragment env overhead callback s).1.cursor := by
  refine ⟨h.transmitFragment hframe, ?_⟩
  intro hpending
  have hidle :
      (TransportService.transmitFragment env overhead callback s).1.rcb.fcTimer = false := by
    rw [(transmitFragment_frame env overhead callback s).2]
    exact hstopped
  exact absurd (hidle.symm.trans hpending) Bool.false_ne_true

theorem SessionInv.subseqCursor (h : SessionInv d s.cursor) :
    SessionInv d (subseqCursor s).cursor ∧
      (subseqCursor s).scb.datalenToSend = min d.maxPayload s.scb.remainingDataLen ∧
      (subseqCursor s).scb.remainingDataLen = s.scb.remainingDataLen ∧
      (subseqCursor s).rcb.fcTimer = false := by
  have hpos : s.scb.remainingDataLen ≠ 0 := Nat.ne_of_gt h.remaining_pos
  have hle : s.scb.remainingDataLen ≤ d.len := h.remaining_le
  have hmax : s.fragmentMaxPayload = d.maxPayload := h.maxPayload
  have hremaining :
      (TransportService.subseqCursor s).scb.remainingDataLen = s.scb.remainingDataLen :=
    if_neg hpos
  have hlen : (TransportService.subseqCursor s).scb.datalenToSend =
      min d.maxPayload s.scb.remainingDataLen := by
    change min s.fragmentMaxPayload (TransportService.subseqCursor s).scb.remainingDataLen = _
    rw [hremaining, hmax]
  refine ⟨?_, hlen, hremaining, rfl⟩
  have hpos' : 0 < (TransportService.subseqCursor s).scb.remainingDataLen := by
    rw [hremaining]
    exact Nat.pos_of_ne_zero hpos
  have hle' : (TransportService.subseqCursor s).scb.remainingDataLen ≤ d.len := by
    rw [hremaining]
    exact hle
  exact ⟨{ h with remaining_pos := hpos', remaining_le := hle' },
    fun hpending ↦ absurd hpending Bool.false_ne_true⟩

/-- `send_subseq_frag` puts the fragment at the cursor into the transmit buffer. -/
theorem loadSubseqFrag_take (h : SessionCore d s.cursor)
    (hlen : s.scb.datalenToSend = min d.maxPayload s.scb.remainingDataLen) :
    d.Emits ((loadSubseqFrag s).txBuf.take
      (subseqFragNonpayloadLength + (loadSubseqFrag s).scb.datalenToSend)) := by
  have hpos : 0 < s.scb.remainingDataLen := h.remaining_pos
  have hle : s.scb.remainingDataLen ≤ d.len := h.remaining_le
  have hframe : (loadSubseqFrag s).txBuf.take (subseqFragNonpayloadLength + s.scb.datalenToSend) =
      subseqFragment s.cursor.sessionId s.cursor.datagram s.cursor.datagramLen
        (s.cursor.datagramLen - s.scb.remainingDataLen) s.scb.datalenToSend :=
    take_load (s := s.modifyScb fun scb ↦
      { scb with offset := scb.datagramLen - scb.remainingDataLen }) _ _
        (length_subseqFragment _ _ _)
  right
  refine ⟨d.len - s.scb.remainingDataLen, by omega, ?_⟩
  refine hframe.trans ?_
  rw [h.sessionId, h.datagram, h.datagramLen, hlen]
  unfold fragmentAt
  congr 2
  omega

theorem SessionInv.advanceCursor (h : SessionInv d s.cursor)
    (hmore : d.maxPayload < s.scb.remainingDataLen) : SessionInv d (advanceCursor s).cursor := by
  have hmax : s.fragmentMaxPayload = d.maxPayload := h.maxPayload
  have hle : s.scb.remainingDataLen ≤ d.len := h.remaining_le
  have hcursor := (cursor_checkDivisor (s := s) s.scb.datalenToSend)
  have hchecked : SessionInv d (checkDivisor s.scb.datalenToSend s).cursor := h.of_cursor hcursor
  have hremaining : (TransportService.advanceCursor s).scb.remainingDataLen =
      s.scb.remainingDataLen - d.maxPayload := by
    have hsame :
        (checkDivisor s.scb.datalenToSend s).scb.remainingDataLen = s.scb.remainingDataLen :=
      congrArg SendCursor.remainingDataLen hcursor
    unfold TransportService.advanceCursor Ts.modifyScb
    dsimp only
    rw [hsame, hmax, if_pos (Nat.le_of_lt hmore)]
  have hpos : 0 < (TransportService.advanceCursor s).scb.remainingDataLen := by
    rw [hremaining]
    omega
  have hle : (TransportService.advanceCursor s).scb.remainingDataLen ≤ d.len := by
    rw [hremaining]
    omega
  exact { hchecked with remaining_pos := hpos, remaining_le := hle }

theorem SessionInv.sendSubseqFrag (h : SessionInv d s.cursor) :
    SessionInv d (sendSubseqFrag env s).cursor := by
  obtain ⟨hcursor, hlen, hremaining, hstopped⟩ := h.subseqCursor
  unfold TransportService.sendSubseqFrag
  generalize TransportService.subseqCursor s = t at hcursor hlen hremaining hstopped ⊢
  rw [← hremaining] at hlen
  have hloaded : SessionCore d (loadSubseqFrag t).cursor := { hcursor.toSessionCore with }
  have hframe := loadSubseqFrag_take hcursor.toSessionCore hlen
  have hmax : (loadSubseqFrag t).fragmentMaxPayload = d.maxPayload := hloaded.maxPayload
  dsimp only
  split_ifs with hcomplete hlast
  · exact hcursor
  · exact SessionCore.sendLastFrag
      (s := postEvent .sendLastFrag ((loadSubseqFrag t).modifyScb fun scb ↦
      { scb with doesNotFitInFirstFrag := true })) { hloaded with } hframe
  · have hkept := (transmitFragment_frame env subseqFragNonpayloadLength .sendData
      (loadSubseqFrag t)).1
    have hsent : SessionInv d (transmitFragment env subseqFragNonpayloadLength .sendData
        (loadSubseqFrag t)).1.cursor :=
      hloaded.transmitFragment_stopped env _ _ hframe hstopped
    split
    · rename_i after heq
      rw [heq] at hsent hkept
      refine (hsent.advanceCursor ?_).of_cursor rfl
      rw [hkept]
      omega
    · rename_i after heq
      rw [heq] at hsent
      exact hsent.of_cursor rfl

/-- A segment request within the datagram is answered with the fragment that starts there. -/
theorem loadMissingFrag_take (h : SessionCore d s.cursor) (hmissing : s.scb.missingOffset < d.len)
    (hlen : d.len ≤ datagramSizeMax) :
    d.Emits ((loadMissingFrag s).txBuf.take
      (subseqFragNonpayloadLength + (loadMissingFrag s).scb.datalenToSend)) := by
  have hmax : datagramSizeMax = 200 := rfl
  have hresend : resendLen s.cursor.fragmentMaxPayload s.scb.missingOffset s.cursor.datagramLen =
      min d.maxPayload (d.len - s.scb.missingOffset) := by
    rw [h.maxPayload, h.datagramLen]
    unfold resendLen
    split_ifs <;> omega
  have hframe : (loadMissingFrag s).txBuf.take
      (subseqFragNonpayloadLength + (loadMissingFrag s).scb.datalenToSend) =
      subseqFragment s.cursor.sessionId s.cursor.datagram s.cursor.datagramLen s.scb.missingOffset
        (resendLen s.cursor.fragmentMaxPayload s.scb.missingOffset s.cursor.datagramLen) :=
    take_load (s := s.modifyScb fun scb ↦ { scb with
      datalenToSend := resendLen s.fragmentMaxPayload scb.missingOffset scb.datagramLen }) _ _
      (length_subseqFragment _ _ _)
  right
  refine ⟨s.scb.missingOffset, hmissing, hframe.trans ?_⟩
  rw [hresend, h.sessionId, h.datagram, h.datagramLen]
  rfl

theorem SessionInv.replyFragReq (h : SessionInv d s.cursor) (hmissing : s.scb.missingOffset < d.len)
    (hlen : d.len ≤ datagramSizeMax) : SessionInv d (replyFragReq env s).cursor := by
  have hframe := loadMissingFrag_take h.toSessionCore hmissing hlen
  have hloaded : SessionCore d (loadMissingFrag s).cursor := { h.toSessionCore with }
  unfold TransportService.replyFragReq
  split_ifs with hcomplete
  · exact h
  · dsimp only
    split
    · exact SessionCore.sendLastFrag (s := (postEvent .sendLastMissFrag
        ((loadMissingFrag s).modifyScb fun scb ↦
          { scb with doesNotFitInFirstFrag := true })).modifyScb
          fun scb ↦ { scb with flagRepliedFragReq := true }) { hloaded with } hframe
    · have hsent : ∀ callback, SessionCore d (TransportService.transmitFragment env
          subseqFragNonpayloadLength callback (loadMissingFrag s)).1.cursor :=
        fun _ ↦ hloaded.transmitFragment hframe
      exact ⟨{ hsent _ with }, fun _ hreplied ↦ absurd hreplied.symm Bool.false_ne_true⟩

theorem SessionInv.tsSenddataCb (h : SessionInv d s.cursor) (hlen : d.len ≤ datagramSizeMax) :
    SessionInv d (tsSenddataCb env s).cursor := by
  unfold TransportService.tsSenddataCb
  split_ifs with hreply hwait
  · refine SessionInv.replyFragReq ?_ (h.reply hreply) hlen
    exact ⟨{ h.toSessionCore with reply := fun hset ↦ absurd hset Bool.false_ne_true }, h.resend⟩
  · exact SessionInv.sendFragWaitCmd (h.of_cursor rfl)
  · exact h.of_cursor rfl

theorem SessionInv.fcTimerExpired (h : SessionInv d s.cursor) (hpending : s.rcb.fcTimer = true) :
    SessionInv d (fcTimerExpired (s.modifyRcb fun rcb ↦ { rcb with fcTimer := false })).cursor := by
  have hstopped : ∀ {t : Ts}, SessionCore d t.cursor → t.rcb.fcTimer = false →
      SessionInv d t.cursor :=
    fun hcore hidle ↦ ⟨hcore, fun hset ↦ absurd (hidle.symm.trans hset) Bool.false_ne_true⟩
  unfold TransportService.fcTimerExpired
  split_ifs with hreplied haborted honce
  · refine SessionInv.of_cursor ?_ (cursor_callCompleted transmitCompleteFail)
    exact hstopped { h.toSessionCore with } rfl
  · refine SessionInv.of_cursor ?_ (cursor_callCompleted transmitCompleteFail)
    exact hstopped { h.toSessionCore with } rfl
  · change SessionInv d (callCompleted transmitCompleteFail _).cursor
    refine SessionInv.of_cursor ?_ (cursor_callCompleted transmitCompleteFail)
    exact hstopped { h.toSessionCore with } rfl
  · have hlast : d.Emits s.cursor.lastFrame := h.resend hpending (Bool.eq_false_iff.mpr hreplied)
    exact SessionCore.sendLastFrag { h.toSessionCore with } hlast

theorem SessionInv.receiveSegmentRequest (h : SessionInv d s.cursor)
    (hlen : d.len ≤ datagramSizeMax)
    (hmissing : (s.rcb.fragment 2).toNat % 8 * 256 + (s.rcb.fragment 3).toNat < d.len) :
    SessionInv d (receiveSegmentRequest env s).cursor := by
  have hcore : SessionCore d { s.cursor with
      missingOffset := (s.rcb.fragment 2).toNat % 8 * 256 + (s.rcb.fragment 3).toNat } :=
    { h.toSessionCore with reply := fun _ ↦ hmissing }
  unfold TransportService.receiveSegmentRequest
  dsimp only
  split
  · exact h.of_cursor rfl
  · split
    · exact ⟨{ hcore with reply := fun _ ↦ hmissing }, fun hpending ↦
        absurd hpending Bool.false_ne_true⟩
    · refine SessionInv.replyFragReq ?_ hmissing hlen
      exact ⟨{ hcore with }, fun hpending ↦ absurd hpending Bool.false_ne_true⟩

theorem SessionInv.receiveSegmentComplete (h : SessionInv d s.cursor) :
    SessionInv d (receiveSegmentComplete s).cursor := by
  unfold TransportService.receiveSegmentComplete
  dsimp only
  split
  · exact h.of_cursor rfl
  · change SessionInv d (callCompleted transmitCompleteOk _).cursor
    refine SessionInv.of_cursor ?_ (cursor_callCompleted transmitCompleteOk)
    have hkept : ∀ t : Ts, (t.modifyScb fun scb ↦
        { scb.setFragCompl scb.sessionId true with currentDnode := 0 }).cursor = t.cursor := by
      intro t
      unfold Scb.setFragCompl Ts.cursor Ts.modifyScb
      dsimp only
      split_ifs <;> rfl
    rw [hkept]
    exact ⟨{ h.toSessionCore with }, fun hpending ↦ absurd hpending Bool.false_ne_true⟩

theorem SessionInv.receiveSegmentWait (h : SessionInv d s.cursor) (hlen : d.len ≤ datagramSizeMax) :
    SessionInv d (receiveSegmentWait env s).cursor := by
  unfold TransportService.receiveSegmentWait
  split_ifs with hcomplete
  · exact h.of_cursor rfl
  · have hcallback : SessionInv d (TransportService.tsSenddataCb env
        ((postEvent .recvFragWait s).modifyScb fun scb ↦
          { scb with transmissionAborted := scb.sessionId })).cursor :=
      SessionInv.tsSenddataCb (h.of_cursor rfl) hlen
    exact hcallback.of_cursor rfl

/-! ### Control frames -/

/-- The frame is none of the fragments, and when it is a segment request, the offset it asks for
lies within a datagram of `len` bytes. -/
def controlFrame (len : ℕ) (cmd : ℕ → UInt8) : Prop :=
  cmd 1 &&& 0xF8 ≠ commandFirstFragment ∧ cmd 1 &&& 0xF8 ≠ commandSubsequentFragment ∧
    (cmd 1 &&& 0xF8 = commandSegmentRequest → (cmd 2).toNat % 8 * 256 + (cmd 3).toNat < len)

theorem SessionInv.receive (h : SessionInv d s.cursor) (hlen : d.len ≤ datagramSizeMax)
    (hcontrol : controlFrame d.len s.rcb.fragment) : SessionInv d (receive env s).cursor := by
  obtain ⟨hnotFirst, hnotSubseq, hrequest⟩ := hcontrol
  unfold TransportService.receive
  dsimp only
  split_ifs with hclass hasked
  · exact h
  · exact h.receiveSegmentRequest hlen (hrequest hasked)
  · exact h.receiveSegmentComplete
  · exact h.receiveSegmentWait hlen
  · exact h

theorem SessionInv.takeFrame {p : TsParam} {cmd : ℕ → UInt8} {cmdLength : UInt8}
    (h : SessionInv d s.cursor) (hlen : d.len ≤ datagramSizeMax)
    (hcontrol : controlFrame d.len cmd) :
    SessionInv d (takeFrame env p cmd cmdLength s).cursor := by
  have hinit : ∀ t : Ts, (initializeOnce t).cursor = t.cursor := by
    intro t
    unfold initializeOnce
    split_ifs <;> rfl
  unfold TransportService.takeFrame
  dsimp only
  refine SessionInv.receive ?_ hlen hcontrol
  refine h.of_cursor ((hinit _).trans ?_)
  split <;> rfl

theorem SessionInv.applicationCommandHandler {p : TsParam} {cmd : ℕ → UInt8} {cmdLength : UInt8}
    (h : SessionInv d s.cursor) (hlen : d.len ≤ datagramSizeMax)
    (hcontrol : controlFrame d.len cmd) :
    SessionInv d (applicationCommandHandler env p cmd cmdLength s).cursor := by
  have htie : (tieBreak p ((s.record (.received p cmd cmdLength)).modifyScb fun scb ↦
      { scb with resetTimer := true })).cursor = s.cursor := by
    unfold tieBreak
    split_ifs <;> rfl
  unfold TransportService.applicationCommandHandler
  dsimp only
  generalize tieBreak p _ = t at htie ⊢
  have hinv : SessionInv d t.cursor := h.of_cursor htie
  split_ifs
  · exact hinv
  · exact hinv
  · exact hinv.of_cursor rfl
  · exact SessionInv.askToWait (hinv.of_cursor rfl)
  · exact hinv.of_cursor rfl
  · exact hinv.of_cursor rfl
  · exact SessionInv.askToWait (hinv.of_cursor rfl)
  · exact SessionInv.takeFrame (hinv.of_cursor rfl) hlen hcontrol

end Functions

/-! ### The session -/

/-- What may happen during one send session: callbacks, the timers of the sender, and control
frames. No other send is accepted, and no segment wait starts the session anew. -/
def sessionInput (len : ℕ) : Input → Prop
  | .receive _ cmd _ => controlFrame len cmd
  | .rawCallback .. | .fcTimer | .resetTimer | .timerBtwn2Frags => True
  | .sendData .. | .rxTimer | .waitRestartTimer => False

theorem SessionInv.step {d : Session} {env : Env} {s : Ts} {input : Input}
    (h : SessionInv d s.cursor) (hlen : d.len ≤ datagramSizeMax)
    (hinput : sessionInput d.len input) : SessionInv d (step env s input).cursor := by
  cases input with
  | sendData p data dataLength => exact hinput.elim
  | receive p cmd cmdLength => exact h.applicationCommandHandler hlen hinput
  | rawCallback k status =>
    unfold TransportService.step
    dsimp only
    split
    · exact h
    · rename_i kind hkind
      cases kind with
      | sendData => exact SessionInv.tsSenddataCb (h.of_cursor rfl) hlen
      | lastFrag => exact h.of_cursor rfl
      | replyFragReq =>
        unfold rawCallback tempCallbackReplyFragReq
        dsimp only
        split_ifs
        · exact h.of_cursor ((cursor_callCompleted status).trans rfl)
        · exact h.of_cursor rfl
  | fcTimer =>
    unfold TransportService.step
    dsimp only
    split_ifs with hpending
    · exact h.fcTimerExpired hpending
    · exact h
  | rxTimer => exact hinput.elim
  | resetTimer =>
    unfold TransportService.step
    dsimp only
    split_ifs
    · exact h.of_cursor rfl
    · exact h
  | waitRestartTimer => exact hinput.elim
  | timerBtwn2Frags =>
    unfold TransportService.step
    dsimp only
    split_ifs
    · exact SessionInv.sendSubseqFrag (h.of_cursor rfl)
    · exact h

theorem nextSessionId_lt (env : Env) (s : Ts) : nextSessionId env s < 16 := by
  unfold nextSessionId
  dsimp only
  split_ifs <;> omega

/-- The cursor when the first fragment of a datagram stands in the transmit buffer. -/
theorem loadFirstFrag_cursor (env : Env) (s : Ts) (maxPayload : ℕ)
    (hmax : fragmentMaxPayloadFor s.scb.p.txFlags = maxPayload) :
    (loadFirstFrag env s).cursor = { s.cursor with
      sessionId := nextSessionId env s
      fragmentMaxPayload := maxPayload
      remainingDataLen := if maxPayload < s.scb.datagramLen then s.scb.datagramLen - maxPayload
        else s.scb.datagramLen
      datalenToSend := min maxPayload s.scb.datagramLen
      txBuf := (s.load (openingFrame (nextSessionId env s) s.scb.datagram s.scb.datagramLen
        maxPayload)).txBuf } := by
  subst hmax
  unfold loadFirstFrag
  have hchecked : ∀ (t : Ts) (unit : ℕ) (pending : Scb → UInt8),
      ((checkDivisor unit t).modifyScb fun scb ↦
        { scb with pendingSegments := pending scb }).cursor =
        t.cursor := by
    intro t unit pending
    exact cursor_checkDivisor unit
  dsimp only
  rw [hchecked]
  unfold Scb.startSession Scb.setFragCompl Ts.cursor Ts.load openingFrame
  dsimp only
  by_cases hlarge : fragmentMaxPayloadFor s.scb.p.txFlags < s.scb.datagramLen
  · rw [Nat.min_eq_left (Nat.le_of_lt hlarge), if_pos hlarge]
    split_ifs <;> rfl
  · rw [Nat.min_eq_right (Nat.le_of_not_lt hlarge), if_neg hlarge]
    split_ifs <;> rfl

theorem SessionInv.sendFirstFrag (env : Env) {s : Ts} (hpos : 0 < s.scb.datagramLen)
    (hreply : s.scb.flagReplyFragReq = false) (hstopped : s.rcb.fcTimer = false) :
    SessionInv
      { session := nextSessionId env s
        datagram := s.scb.datagram
        len := s.scb.datagramLen
        maxPayload := fragmentMaxPayloadFor s.scb.p.txFlags
        before := fragmentsSent s.log }
      (sendFirstFrag env s).cursor := by
  have hcursor := loadFirstFrag_cursor env s _ rfl
  unfold TransportService.sendFirstFrag
  generalize loadFirstFrag env s = t at hcursor ⊢
  have hcore : SessionCore
      { session := nextSessionId env s
        datagram := s.scb.datagram
        len := s.scb.datagramLen
        maxPayload := fragmentMaxPayloadFor s.scb.p.txFlags
        before := fragmentsSent s.log } t.cursor := by
    have hmaxPos : 0 < fragmentMaxPayloadFor s.scb.p.txFlags := by
      unfold fragmentMaxPayloadFor
      split_ifs <;> decide
    rw [hcursor]
    refine ⟨rfl, rfl, rfl, rfl, ?_, ?_,
      fun hset ↦ absurd (hreply.symm.trans hset) Bool.false_ne_true,
      [], rfl, fun _ hmem ↦ absurd hmem not_mem_nil⟩
    · dsimp only
      split_ifs <;> omega
    · dsimp only
      split_ifs <;> omega
  have hframe : t.txBuf.take (firstFragNonpayloadLength + t.scb.datalenToSend) =
      openingFrame (nextSessionId env s) s.scb.datagram s.scb.datagramLen
        (fragmentMaxPayloadFor s.scb.p.txFlags) := by
    have hbuf : t.txBuf = _ := congrArg SendCursor.txBuf hcursor
    have hcount : t.scb.datalenToSend = _ := congrArg SendCursor.datalenToSend hcursor
    rw [hbuf, hcount]
    exact take_load _ _ (length_firstFragment _ _)
  have hidle : t.rcb.fcTimer = false := (congrArg SendCursor.fcTimer hcursor).trans hstopped
  dsimp only
  split_ifs with hwhole
  · exact SessionCore.sendLastFrag (s := postEvent .sendLastFrag (t.modifyScb fun scb ↦
      { scb with doesNotFitInFirstFrag := false })) { hcore with } (.inl hframe)
  · split
    · rename_i after heq
      have hsent := hcore.transmitFragment_stopped env _ .sendData (.inl hframe) hidle
      rw [heq] at hsent
      exact hsent.of_cursor rfl
    · rename_i after heq
      have hsent := hcore.transmitFragment_stopped env _ .sendData (.inl hframe) hidle
      rw [heq] at hsent
      exact hsent

/-- The session that an accepted call of `ZW_TransportService_SendData` starts. -/
def sessionOf (env : Env) (p : TsParam) (data : ℕ → UInt8) (len : UInt16) (s : Ts) : Session where
  session := (step env s (.sendData p data len)).scb.sessionId
  datagram := data
  len := len.toNat
  maxPayload := fragmentMaxPayloadFor p.txFlags
  before := fragmentsSent s.log

theorem SessionInv.sendData (env : Env) {s : Ts} (p : TsParam) (data : ℕ → UInt8) {len : UInt16}
    (hidle : isSending s = false ∧ isReceiving s = false) (hstopped : s.rcb.fcTimer = false)
    (hpos : 0 < len.toNat) :
    SessionInv (sessionOf env p data len s)
      (TransportService.step env s (.sendData p data len)).cursor ∧
      (sessionOf env p data len s).session < 16 := by
  obtain ⟨hsending, hreceiving⟩ := hidle
  have hfirst : ∃ t : Ts, t.scb.datagramLen = len.toNat ∧ t.scb.datagram = data ∧ t.scb.p = p ∧
      t.scb.flagReplyFragReq = false ∧ t.rcb = s.rcb ∧ t.log = s.log ∧
      TransportService.step env s (.sendData p data len) =
        (TransportService.sendFirstFrag env t).record (.returned (s.lastCall + 1) true) := by
    unfold TransportService.step TransportService.sendData
    dsimp only
    rw [if_neg]
    · refine ⟨_, ?_, ?_, ?_, ?_, ?_, ?_, rfl⟩ <;> rfl
    · intro hbusy
      change (isSending s || isReceiving s) = true at hbusy
      rw [hsending, hreceiving] at hbusy
      exact absurd hbusy Bool.false_ne_true
  obtain ⟨t, hlen, hdata, hp, hreply, hrcb, hlog, hstep⟩ := hfirst
  have hinv := SessionInv.sendFirstFrag env (s := t) (hlen ▸ hpos) hreply (hrcb ▸ hstopped)
  have hsession : (TransportService.step env s (.sendData p data len)).scb.sessionId =
      nextSessionId env t := by
    rw [hstep]
    exact hinv.sessionId
  unfold sessionOf
  rw [hsession, hstep]
  rw [hlen, hdata, hp, hlog] at hinv
  rw [cursor_returned]
  exact ⟨hinv, nextSessionId_lt env t⟩

/-- Every fragment that a send session puts on the air is a frame of the session. -/
theorem sent_emits (env : Env) (s : Ts) (p : TsParam) (data : ℕ → UInt8) (len : UInt16)
    (hidle : isSending s = false ∧ isReceiving s = false) (hstopped : s.rcb.fcTimer = false)
    (hpos : 0 < len.toNat) (hlen : len.toNat ≤ datagramSizeMax) (inputs : List Input)
    (hinputs : ∀ input ∈ inputs, sessionInput len.toNat input) :
    (sessionOf env p data len s).Emitted
      (fragmentsSent (run (step env) s (.sendData p data len :: inputs)).log) := by
  have hstart := (SessionInv.sendData env p data hidle hstopped hpos).1
  rw [run_cons]
  generalize TransportService.step env s (.sendData p data len) = t at hstart ⊢
  have hinv : SessionInv (sessionOf env p data len s)
      (run (TransportService.step env) t inputs).cursor := by
    induction inputs generalizing t with
    | nil => exact hstart
    | cons input rest ih =>
      apply ih
      · intro other hother
        exact hinputs other (mem_cons_of_mem _ hother)
      · exact hstart.step hlen (hinputs input mem_cons_self)
  exact hinv.emitted

end ZipGateway.TransportService
