import ZipGateway.TransportService.Footprint

/-!
# The reassembly buffer

What the receiver does to its one buffer, apart from timers and control frames, is little: it logs a
frame, takes the parameters of a frame, starts a session with a first fragment, adds the bytes of a
subsequent one, hands a datagram out, or clears the buffer. `BufferStep` is this abstract machine,
and `reaches_step` says that every step of the module is a sequence of its steps. The properties of
received datagrams are proved over the abstract machine.

The machine has two parameters: which frames come in, and under which parameters a frame is taken
while there is a session of a node.
-/

set_option autoImplicit false

namespace ZipGateway.TransportService

open Lib List

/-! ### The abstract machine -/

/-- The buffer, with what decides about it. -/
structure Buffer where
  /-- The receiver has been set up: `flag_initialize_once` is clear. -/
  active : Bool
  rxTimer : Bool
  sessionId : ℕ
  /-- `rcb.cmn.p.snode`, which is reported to the application. -/
  snode : UInt16
  currentSnode : UInt16
  bytesRecvdBitmask : ℕ → Bool
  datagramData : ℕ → UInt8
  datagramSize : ℕ
  receptions : List Act

/-- The buffer without a session. -/
def Buffer.clear (b : Buffer) (active : Bool) : Buffer where
  active := active
  rxTimer := b.rxTimer
  sessionId := noSession
  snode := 0
  currentSnode := 0
  bytesRecvdBitmask := fun _ ↦ false
  datagramData := fun _ ↦ 0
  datagramSize := b.datagramSize
  receptions := b.receptions

/-- The buffer after a first fragment with `size` bytes of payload. -/
def Buffer.first (b : Buffer) (cmd : ℕ → UInt8) (size : ℕ) : Buffer where
  active := b.active
  rxTimer := true
  sessionId := sessionIdOf (cmd 3)
  snode := b.snode
  currentSnode := b.snode
  bytesRecvdBitmask := fun i ↦ decide (i < size)
  datagramData := fun i ↦ if i < size then cmd (firstHdrLen + i) else b.datagramData i
  datagramSize := datagramSizeOf cmd
  receptions := b.receptions

/-- The buffer after a subsequent fragment with `size` bytes of payload. -/
def Buffer.subseq (b : Buffer) (cmd : ℕ → UInt8) (size : ℕ) : Buffer where
  active := b.active
  rxTimer := b.rxTimer
  sessionId := b.sessionId
  snode := b.snode
  currentSnode := b.currentSnode
  bytesRecvdBitmask := fun i ↦
    decide (datagramOffsetOf cmd ≤ i ∧ i < datagramOffsetOf cmd + size) || b.bytesRecvdBitmask i
  datagramData := fun i ↦
    if datagramOffsetOf cmd ≤ i ∧ i < datagramOffsetOf cmd + size then
      cmd (subseqHdrLen + (i - datagramOffsetOf cmd))
    else b.datagramData i
  datagramSize := datagramSizeOf cmd
  receptions := b.receptions

/-- The buffer after its datagram has been handed to the application. -/
def Buffer.deliver (b : Buffer) (dnode : UInt16) : Buffer where
  active := b.active
  rxTimer := false
  sessionId := noSession
  snode := b.snode
  currentSnode := 0
  bytesRecvdBitmask := b.bytesRecvdBitmask
  datagramData := b.datagramData
  datagramSize := b.datagramSize
  receptions := .delivered b.sessionId b.snode dnode (readMem b.datagramData 0 b.datagramSize) ::
    b.receptions

/-- The newest thing that happened is the receipt of the frame. -/
def Buffer.Newest (b : Buffer) (p : TsParam) (cmd : ℕ → UInt8) (cmdLength : UInt8) : Prop :=
  ∃ older, b.receptions = .received p cmd cmdLength :: older

/-- The frame is a checked fragment of a kind. -/
structure CheckedFragment (command : UInt8) (cmd : ℕ → UInt8) (cmdLength : UInt8) : Prop where
  commandClass : cmd 0 = commandClassTransportService
  command : cmd 1 &&& 0xF8 = command
  crc : crcValid cmd cmdLength.toNat = true
  size : datagramSizeOf cmd ≤ datagramSizeMax

section Machine

variable (Admits : TsParam → (ℕ → UInt8) → UInt8 → Prop) (Source : UInt16 → TsParam → Prop)

/-- What can happen to the buffer. -/
inductive BufferStep (b : Buffer) : Buffer → Prop
  | receive (p : TsParam) (cmd : ℕ → UInt8) (cmdLength : UInt8) (hadmits : Admits p cmd cmdLength) :
      BufferStep b { b with receptions := .received p cmd cmdLength :: b.receptions }
  | source (p : TsParam) (cmd : ℕ → UInt8) (cmdLength : UInt8) (hnewest : b.Newest p cmd cmdLength)
      (hsource : Source b.currentSnode p) : BufferStep b { b with snode := p.snode }
  | timer (pending : Bool) (hactive : b.active = true) : BufferStep b { b with rxTimer := pending }
  | clear (active : Bool) (hactive : b.active = true → active = true) :
      BufferStep b (b.clear active)
  | first (p : TsParam) (cmd : ℕ → UInt8) (cmdLength : UInt8) (hadmits : Admits p cmd cmdLength)
      (hnewest : b.Newest p cmd cmdLength) (hsnode : b.snode = p.snode) (hactive : b.active = true)
      (hchecked : CheckedFragment commandFirstFragment cmd cmdLength)
      (hlen : firstFragNonpayloadLength < cmdLength.toNat) :
      BufferStep b (b.first cmd (cmdLength.toNat - firstFragNonpayloadLength))
  | subseq (p : TsParam) (cmd : ℕ → UInt8) (cmdLength : UInt8) (hadmits : Admits p cmd cmdLength)
      (hnewest : b.Newest p cmd cmdLength) (hsnode : b.snode = p.snode) (hactive : b.active = true)
      (hchecked : CheckedFragment commandSubsequentFragment cmd cmdLength)
      (hsession : b.sessionId < 16 → sessionIdOf (cmd 3) = b.sessionId) :
      BufferStep b (b.subseq cmd (cmdLength.toNat - subseqFragNonpayloadLength))
  | deliver (dnode : UInt16) (hactive : b.active = true) (hopen : b.sessionId < 16)
      (hcomplete : ∀ i, i ≠ 0 → i < b.datagramSize → i < 208 → b.bytesRecvdBitmask i = true) :
      BufferStep b (b.deliver dnode)

/-- A sequence of steps of the buffer. -/
def Reaches : Buffer → Buffer → Prop := Relation.ReflTransGen (BufferStep Admits Source)

end Machine

/-- The buffer in a view of the receiving half. -/
def RecvView.buffer (v : RecvView) : Buffer where
  active := !v.flagInitializeOnce
  rxTimer := v.rcb.rxTimer
  sessionId := v.rcb.sessionId
  snode := v.rcb.p.snode
  currentSnode := v.rcb.currentSnode
  bytesRecvdBitmask := v.rcb.bytesRecvdBitmask
  datagramData := v.rcb.datagramData
  datagramSize := v.rcb.datagramSize
  receptions := v.log

/-- The buffer of a state. -/
def Ts.buffer (s : Ts) : Buffer := s.recvView.buffer

/-- The frames received and the datagrams handed to the application, newest first. -/
def Ts.receptions (s : Ts) : List Act := s.log.filter Act.isReception

theorem buffer_of_recvView {s t : Ts} (h : t.recvView = s.recvView) : t.buffer = s.buffer :=
  congrArg RecvView.buffer h

/-! ### The functions of the receiver -/

section Functions

variable {Admits : TsParam → (ℕ → UInt8) → UInt8 → Prop} {Source : UInt16 → TsParam → Prop}
  {env : Env} {b : Buffer} {s : Ts}

theorem Reaches.of_eq {b' b'' : Buffer} (h : Reaches Admits Source b b') (heq : b'' = b') :
    Reaches Admits Source b b'' :=
  heq ▸ h

theorem Reaches.of_recvView {t : Ts} (h : Reaches Admits Source b s.buffer)
    (heq : t.recvView = s.recvView) : Reaches Admits Source b t.buffer :=
  h.of_eq (buffer_of_recvView heq)

theorem Reaches.tail {b' b'' : Buffer} (h : Reaches Admits Source b b')
    (hstep : BufferStep Admits Source b' b'') : Reaches Admits Source b b'' :=
  Relation.ReflTransGen.tail h hstep

/-- `get_next_missing_offset` finds a byte, or all bytes but the first are there. -/
theorem getNextMissingOffset_eq_zero {rcb : Rcb} (hnone : getNextMissingOffset rcb % 256 = 0)
    {i : ℕ} (hpos : i ≠ 0) (hi : i < rcb.datagramSize) (hrange : i < 208) :
    rcb.bytesRecvdBitmask i = true := by
  unfold getNextMissingOffset at hnone
  by_contra hmissing
  have hcandidate : decide (i ≠ 0 ∧ rcb.bytesRecvdBitmask i = false) = true :=
    decide_eq_true ⟨hpos, Bool.eq_false_iff.mpr hmissing⟩
  split at hnone
  · rename_i hfind
    have hno := List.find?_eq_none.mp hfind i (mem_range.mpr hrange)
    exact hno hcandidate
  · rename_i missing hfind
    obtain ⟨hbit, k, hk, hget, hbefore⟩ := List.find?_eq_some_iff_getElem.mp hfind
    rw [length_range] at hk
    rw [getElem_range] at hget
    subst hget
    have hne : k ≠ 0 := (of_decide_eq_true hbit).1
    split_ifs at hnone with hbeyond
    · have hearlier := hbefore i (by omega)
      rw [getElem_range, hcandidate] at hearlier
      exact absurd hearlier (by decide)
    · omega

theorem Reaches.sendFragCompleteCmd (h : Reaches Admits Source b s.buffer)
    (hactive : s.buffer.active = true)
    (hcomplete : ∀ i, i ≠ 0 → i < s.rcb.datagramSize → i < 208 → s.rcb.bytesRecvdBitmask i = true) :
    Reaches Admits Source b (sendFragCompleteCmd env s).buffer := by
  unfold TransportService.sendFragCompleteCmd
  split_ifs with hopen
  · refine (h.tail (.deliver s.rcb.p.dnode hactive hopen hcomplete)).of_eq ?_
    dsimp only
    generalize hraw : (TransportService.sendRaw env _ _ _ _ none _).1 = after
    have hneutral : Neutral s after := hraw ▸ .sendRaw (.modifyScb (.refl s) rfl rfl)
    have hsent : after.buffer = s.buffer := buffer_of_recvView hneutral.recvView
    refine Eq.trans (b := { after.buffer with
      rxTimer := false
      sessionId := noSession
      currentSnode := 0
      receptions := .delivered s.rcb.sessionId s.rcb.p.snode s.rcb.p.dnode
        (readMem s.rcb.datagramData 0 s.rcb.datagramSize) :: after.buffer.receptions }) rfl ?_
    rw [hsent]
    rfl
  · exact h

theorem Reaches.discardAllReceivedFragments (h : Reaches Admits Source b s.buffer) :
    Reaches Admits Source b (discardAllReceivedFragments s).buffer :=
  h.tail (.clear s.buffer.active id)

/-- A segment request only sets the timer of the receiver and the two flags that go with it. -/
theorem recvView_sendFragReqCmd (env : Env) (s : Ts) :
    ∃ retry requested pending, (sendFragReqCmd env s).recvView =
      { s.recvView with
        rcb := { s.recvView.rcb with
          flagRetryFragReqOnce := retry
          rxDataState := requested
          rxTimer := pending } } ∧ (s.rcb.rxTimer = true → pending = true) := by
  unfold sendFragReqCmd
  dsimp only
  split_ifs
  · exact ⟨s.rcb.flagRetryFragReqOnce, s.rcb.rxDataState, s.rcb.rxTimer, rfl, id⟩
  · exact ⟨s.rcb.flagRetryFragReqOnce, s.rcb.rxDataState, s.rcb.rxTimer, rfl, id⟩
  · have hloaded : Neutral s ((s.load (segmentRequest s.rcb.sessionId
        (getNextMissingOffset s.rcb))).modifyScb fun scb ↦ { scb with resetTimer := true }) :=
      .modifyScb (.load (.refl s)) rfl rfl
    have hset : ∀ (t : Ts) (retry : Bool),
        t.recvView = { s.recvView with
          rcb := { s.recvView.rcb with flagRetryFragReqOnce := retry } } →
        ∃ retry requested pending, ((postEvent .success t).modifyRcb fun rcb ↦
          { rcb with rxDataState := true, rxTimer := true }).recvView =
          { s.recvView with
            rcb := { s.recvView.rcb with
              flagRetryFragReqOnce := retry
              rxDataState := requested
              rxTimer := pending } } ∧ (s.rcb.rxTimer = true → pending = true) := by
      intro t retry ht
      refine ⟨retry, true, true, ?_, fun _ ↦ rfl⟩
      refine Eq.trans (b := { t.recvView with
        rcb := { t.recvView.rcb with rxDataState := true, rxTimer := true } }) rfl ?_
      rw [ht]
    split
    · rename_i after heq
      exact hset after s.rcb.flagRetryFragReqOnce (hloaded.of_sendRaw_eq heq).recvView
    · rename_i after heq
      have hsent := (hloaded.of_sendRaw_eq heq).recvView
      split_ifs
      · refine hset _ false ((Neutral.sendRaw (.refl _)).recvView.trans ?_)
        rw [← hsent]
        rfl
      · exact hset after s.rcb.flagRetryFragReqOnce hsent

theorem Reaches.findMissing (h : Reaches Admits Source b s.buffer)
    (hactive : s.buffer.active = true) : Reaches Admits Source b (findMissing env s).buffer := by
  unfold TransportService.findMissing
  split_ifs with hmissing hbroad hbroad
  · exact h.discardAllReceivedFragments
  · obtain ⟨retry, requested, pending, hview, -⟩ :=
      recvView_sendFragReqCmd env (postEvent .missingFrag s)
    exact (h.tail (.timer pending hactive)).of_eq (congrArg RecvView.buffer hview)
  · exact h
  · refine Reaches.sendFragCompleteCmd (s := postEvent .sendFragComplete s) h hactive ?_
    intro i hpos hi hrange
    exact getNextMissingOffset_eq_zero (not_not.mp hmissing) hpos hi hrange

theorem Reaches.rxTimerExpired (h : Reaches Admits Source b s.buffer)
    (hactive : s.buffer.active = true) : Reaches Admits Source b (rxTimerExpired env s).buffer := by
  have hexpired : Reaches Admits Source b (postEvent .fragRxTimer
      (s.modifyRcb fun rcb ↦ { rcb with rxTimer := false })).buffer :=
    h.tail (.timer false hactive)
  unfold TransportService.rxTimerExpired
  dsimp only
  split_ifs
  · exact hexpired.discardAllReceivedFragments
  · exact hexpired.findMissing hactive

/-! ### Taking a fragment -/

/-- An admitted frame is being received: it stands in the control block and is the newest in the
log. -/
structure Receiving (Admits : TsParam → (ℕ → UInt8) → UInt8 → Prop) (p : TsParam) (cmd : ℕ → UInt8)
    (cmdLength : UInt8) (s : Ts) : Prop where
  admits : Admits p cmd cmdLength
  active : s.buffer.active = true
  param : s.rcb.p = p
  fragment : s.rcb.fragment = cmd
  fragmentLen : s.rcb.fragmentLen = cmdLength.toNat
  newest : s.buffer.Newest p cmd cmdLength

variable {p : TsParam} {cmd : ℕ → UInt8} {cmdLength : UInt8}

theorem Receiving.of_recvView {t : Ts} (h : Receiving Admits p cmd cmdLength s)
    (hview : t.recvView = s.recvView) : Receiving Admits p cmd cmdLength t := by
  have hrcb := congrArg RecvView.rcb hview
  have hbuffer := buffer_of_recvView hview
  refine ⟨h.admits, hbuffer ▸ h.active, ?_, ?_, ?_, hbuffer ▸ h.newest⟩
  · exact (congrArg Rcb.p hrcb).trans h.param
  · exact (congrArg Rcb.fragment hrcb).trans h.fragment
  · exact (congrArg Rcb.fragmentLen hrcb).trans h.fragmentLen

theorem Reaches.storeFirstFragment (h : Reaches Admits Source b s.buffer)
    (hreceiving : Receiving Admits p cmd cmdLength s)
    (hchecked : CheckedFragment commandFirstFragment cmd cmdLength)
    (hlen : firstFragNonpayloadLength < cmdLength.toNat) :
    Reaches Admits Source b (storeFirstFragment env cmd
      (cmdLength.toNat - firstFragNonpayloadLength) s).buffer := by
  have hsnode : s.buffer.snode = p.snode := congrArg TsParam.snode hreceiving.param
  have hstored := h.tail
    (.first p cmd cmdLength hreceiving.admits hreceiving.newest hsnode hreceiving.active
      hchecked hlen)
  unfold TransportService.storeFirstFragment
  dsimp only
  split_ifs with hwhole
  · refine Reaches.sendFragCompleteCmd (s := postEvent .sendFragComplete (s.modifyRcb _)) hstored
      hreceiving.active ?_
    intro i _ hi _
    apply decide_eq_true
    rw [hwhole]
    exact hi
  · exact hstored

theorem Reaches.storeSubseqFragment (h : Reaches Admits Source b s.buffer)
    (hreceiving : Receiving Admits p cmd cmdLength s)
    (hchecked : CheckedFragment commandSubsequentFragment cmd cmdLength)
    (hsession : s.rcb.sessionId < 16 → sessionIdOf (cmd 3) = s.rcb.sessionId) :
    Reaches Admits Source b (storeSubseqFragment env cmd (datagramOffsetOf cmd)
      (cmdLength.toNat - subseqFragNonpayloadLength) s).buffer := by
  have hsnode : s.buffer.snode = p.snode := congrArg TsParam.snode hreceiving.param
  have hstored := h.tail
    (.subseq p cmd cmdLength hreceiving.admits hreceiving.newest hsnode hreceiving.active hchecked
      hsession)
  unfold TransportService.storeSubseqFragment
  split
  · exact h.of_recvView (Neutral.askToWait (.postEvent (.refl s))).recvView
  · rename_i marked hmark
    unfold markFragReceived at hmark
    split_ifs at hmark
    obtain rfl := Option.some.inj hmark
    dsimp only
    split_ifs
    · exact Reaches.findMissing (s := postEvent .recvLastFrag (Ts.modifyRcb _ _)) hstored
        hreceiving.active
    · exact hstored

theorem Reaches.receiveFirstFragment (h : Reaches Admits Source b s.buffer)
    (hreceiving : Receiving Admits p cmd cmdLength s)
    (hclass : cmd 0 = commandClassTransportService)
    (hcommand : cmd 1 &&& 0xF8 = commandFirstFragment) :
    Reaches Admits Source b (receiveFirstFragment env s).buffer := by
  have hneutral := (Neutral.abortIfTieBroken (.refl s)).recvView
  have habort := h.of_recvView hneutral
  have hreceiving := hreceiving.of_recvView hneutral
  unfold TransportService.receiveFirstFragment
  generalize abortIfTieBroken s = t at habort hreceiving
  dsimp only
  rw [hreceiving.fragment, hreceiving.fragmentLen]
  split_ifs with hshort hcrc hother hlarge
  · exact habort
  · exact habort
  · exact habort
  · exact habort
  · exact habort.storeFirstFragment hreceiving
      ⟨hclass, hcommand, by simpa using hcrc, Nat.not_lt.mp hlarge⟩ (Nat.not_le.mp hshort)

theorem buffer_dropDuplicate (s : Ts) : (dropDuplicate s).buffer = s.buffer := by
  unfold dropDuplicate
  split_ifs <;> rfl

theorem Reaches.receiveSubseqFragment (h : Reaches Admits Source b s.buffer)
    (hreceiving : Receiving Admits p cmd cmdLength s)
    (hclass : cmd 0 = commandClassTransportService)
    (hcommand : cmd 1 &&& 0xF8 = commandSubsequentFragment) :
    Reaches Admits Source b (receiveSubseqFragment env s).buffer := by
  have hneutral := (Neutral.abortIfTieBroken (.refl s)).recvView
  have habort := h.of_recvView hneutral
  have hreceiving := hreceiving.of_recvView hneutral
  unfold TransportService.receiveSubseqFragment
  generalize abortIfTieBroken s = t at habort hreceiving
  dsimp only
  rw [hreceiving.fragment, hreceiving.fragmentLen]
  split_ifs with hshort hcrc hdone hother hbeyond hlarge
  · exact habort
  · exact habort
  · exact habort.of_eq (buffer_dropDuplicate t)
  · exact habort
  · exact habort.of_eq (buffer_dropDuplicate _)
  · exact habort
  · refine Reaches.storeSubseqFragment (habort.tail (.timer true hreceiving.active))
      ⟨hreceiving.admits, hreceiving.active, hreceiving.param, hreceiving.fragment,
        hreceiving.fragmentLen, hreceiving.newest⟩
      ⟨hclass, hcommand, by simpa using hcrc, Nat.not_lt.mp hlarge⟩ ?_
    intro hopen
    by_contra hdifferent
    have hnone : t.rcb.sessionId ≠ noSession := by
      intro hclosed
      have hlt : t.rcb.sessionId < 16 := hopen
      rw [hclosed] at hlt
      exact absurd hlt (by decide)
    exact hother ⟨hdifferent, hnone⟩

theorem Reaches.receive (h : Reaches Admits Source b s.buffer)
    (hreceiving : Receiving Admits p cmd cmdLength s) :
    Reaches Admits Source b (receive env s).buffer := by
  unfold TransportService.receive
  dsimp only
  rw [hreceiving.fragment]
  split_ifs with hclass hfirst hsubseq hrequest hcomplete hwait
  · exact h
  · exact h.receiveFirstFragment hreceiving (not_not.mp hclass) hfirst
  · exact h.receiveSubseqFragment hreceiving (not_not.mp hclass) hsubseq
  · exact h.of_recvView (Neutral.receiveSegmentRequest (.refl s)).recvView
  · exact h.of_recvView (recvView_receiveSegmentComplete s)
  · exact h.of_recvView (Neutral.receiveSegmentWait (.refl s)).recvView
  · exact h

/-- `initializeOnce` leaves an active buffer alone and clears and activates the others. -/
theorem buffer_initializeOnce (s : Ts) :
    (initializeOnce s).buffer = s.buffer ∧ s.buffer.active = true ∨
      (initializeOnce s).buffer = s.buffer.clear true := by
  unfold initializeOnce
  split_ifs with hflag
  · exact .inr rfl
  · exact .inl ⟨rfl, by simp [Ts.buffer, RecvView.buffer, Ts.recvView, hflag]⟩

theorem Reaches.takeFrame (h : Reaches Admits Source b s.buffer) (hadmits : Admits p cmd cmdLength)
    (hnewest : s.buffer.Newest p cmd cmdLength) (hsource : Source s.rcb.currentSnode p)
    (hsourceZero : Source 0 p) :
    Reaches Admits Source b (takeFrame env p cmd cmdLength s).buffer := by
  obtain ⟨state, htake⟩ := takeFrame_eq env s p cmd cmdLength
  rw [htake]
  have hinit : Reaches Admits Source b (initializeOnce { s with currentState := state }).buffer ∧
      (initializeOnce { s with currentState := state }).buffer.active = true ∧
      Source (initializeOnce { s with currentState := state }).buffer.currentSnode p ∧
      (initializeOnce { s with currentState := state }).buffer.Newest p cmd cmdLength := by
    rcases buffer_initializeOnce { s with currentState := state } with ⟨hsame, hactive⟩ | hcleared
    · rw [hsame]
      exact ⟨h, hactive, hsource, hnewest⟩
    · rw [hcleared]
      exact ⟨h.tail (.clear true fun _ ↦ rfl), rfl, hsourceZero, hnewest⟩
  obtain ⟨hreaches, hactive, hcurrent, hlogged⟩ := hinit
  exact Reaches.receive (hreaches.tail (.source p cmd cmdLength hlogged hcurrent))
    ⟨hadmits, hactive, rfl, rfl, rfl, hlogged⟩

/-- The handler does not take the frame of another node than the session's, when it was received as
a singlecast or as a broadcast. -/
def takenSource (currentSnode : UInt16) (p : TsParam) : Prop :=
  currentSnode ≠ 0 → p.snode ≠ currentSnode →
    p.rxFlags ≠ receiveStatusTypeSingle ∧ p.rxFlags ≠ receiveStatusTypeBroad

theorem Reaches.applicationCommandHandler (h : Reaches Admits Source b s.buffer)
    (hadmits : Admits p cmd cmdLength)
    (hsource : ∀ current, current = s.rcb.currentSnode ∨ current = 0 → takenSource current p →
      Source current p) :
    Reaches Admits Source b (applicationCommandHandler env p cmd cmdLength s).buffer := by
  have hneutral : (tieBreak p ((s.record (.received p cmd cmdLength)).modifyScb fun scb ↦
      { scb with resetTimer := true })).recvView =
        (s.record (.received p cmd cmdLength)).recvView :=
    (Neutral.tieBreak (.modifyScb (.refl _) rfl rfl)).recvView
  have hreceived := (h.tail (.receive p cmd cmdLength hadmits)).of_eq (buffer_of_recvView hneutral)
  unfold TransportService.applicationCommandHandler
  dsimp only
  generalize tieBreak p _ = t at hneutral hreceived ⊢
  have hnewest : t.buffer.Newest p cmd cmdLength := by
    rw [buffer_of_recvView hneutral]
    exact ⟨_, rfl⟩
  have hcurrent : t.rcb.currentSnode = s.rcb.currentSnode :=
    congrArg (fun v ↦ v.rcb.currentSnode) hneutral
  have hwait :
      ∀ u : Ts, u.recvView = t.recvView → Reaches Admits Source b (askToWait env u).buffer :=
    fun u hu ↦ hreceived.of_recvView ((Neutral.askToWait (.refl u)).recvView.trans hu)
  split_ifs with hself hlong hsingle hwaiting hbroad hsubseq htooLong
  · exact hreceived
  · exact hreceived
  · exact hreceived
  · exact hwait _ rfl
  · exact hreceived
  · exact hreceived
  · exact hwait _ rfl
  · have htaken : takenSource t.rcb.currentSnode p := by
      intro hopen hother
      have hthird : fromThirdNode p (t.modifyScb fun scb ↦ { scb with fragWaitP := p }) = true :=
        decide_eq_true (.inl ⟨hother, hopen⟩)
      exact ⟨fun hflags ↦ hsingle ⟨hthird, hflags⟩, fun hflags ↦ hbroad ⟨hthird, hflags⟩⟩
    exact Reaches.takeFrame (s := t.modifyScb fun scb ↦ { scb with fragWaitP := p })
      hreceived hadmits
      hnewest (hsource _ (.inl hcurrent) htaken) (hsource 0 (.inr rfl) fun hne ↦ absurd rfl hne)

end Functions

/-! ### Steps of the module -/

variable {Admits : TsParam → (ℕ → UInt8) → UInt8 → Prop} {Source : UInt16 → TsParam → Prop}

/-- Every step of the module is a sequence of steps of the buffer, as long as the timer is only
pending when the receiver has been set up. -/
theorem reaches_step
    (env : Env) (s : Ts) (input : Input) (htimer : s.rcb.rxTimer = true → s.buffer.active = true)
    (hreceive : ∀ p cmd cmdLength, input = .receive p cmd cmdLength → Admits p cmd cmdLength ∧
      ∀ current, current = s.rcb.currentSnode ∨ current = 0 → takenSource current p →
        Source current p) :
    Reaches Admits Source s.buffer (step env s input).buffer := by
  have hrefl : Reaches Admits Source s.buffer s.buffer := Relation.ReflTransGen.refl
  cases input with
  | sendData p data dataLength => exact hrefl.of_recvView (recvView_sendData env s p data _)
  | receive p cmd cmdLength =>
    obtain ⟨hadmits, hsource⟩ := hreceive p cmd cmdLength rfl
    exact hrefl.applicationCommandHandler hadmits hsource
  | rawCallback k status =>
    unfold step
    dsimp only
    split
    · exact hrefl
    · exact hrefl.of_recvView (recvView_rawCallback env _ status _)
  | fcTimer =>
    unfold step
    dsimp only
    split_ifs
    · exact hrefl.of_recvView ((recvView_fcTimerExpired _).trans rfl)
    · exact hrefl
  | rxTimer =>
    unfold step
    dsimp only
    split_ifs with hpending
    · exact hrefl.rxTimerExpired (htimer hpending)
    · exact hrefl
  | resetTimer =>
    unfold step
    dsimp only
    split_ifs
    · exact hrefl.tail (.clear s.buffer.active id)
    · exact hrefl
  | waitRestartTimer =>
    unfold step
    dsimp only
    split_ifs
    · exact hrefl.of_recvView (Neutral.sendFirstFrag (.refl _)).recvView
    · exact hrefl
  | timerBtwn2Frags =>
    unfold step
    dsimp only
    split_ifs
    · exact hrefl.of_recvView (Neutral.sendSubseqFrag (.refl _)).recvView
    · exact hrefl

/-- The timer is only pending when the receiver has been set up. -/
theorem BufferStep.timer_active {b b' : Buffer} (hstep : BufferStep Admits Source b b')
    (h : b.rxTimer = true → b.active = true) : b'.rxTimer = true → b'.active = true := by
  cases hstep with
  | receive p cmd cmdLength hadmits => exact h
  | source p cmd cmdLength hnewest hsource => exact h
  | timer pending hactive => exact fun _ ↦ hactive
  | clear active hactive => exact fun hpending ↦ hactive (h hpending)
  | first p cmd cmdLength hadmits hnewest hsnode hactive hchecked hlen => exact fun _ ↦ hactive
  | subseq p cmd cmdLength hadmits hnewest hsnode hactive hchecked hsession => exact h
  | deliver dnode hactive hopen hcomplete => exact fun _ ↦ hactive

/-- The invariant rule for the buffer: a property that every step of the abstract machine keeps
holds after every run of the module whose frames the machine admits. -/
theorem run_buffer_invariant {allowed : Ts → Input → Prop} {property : Buffer → Prop}
    (hkept : ∀ b b', BufferStep Admits Source b b' → property b → property b') (env : Env)
    (hallowed : ∀ s p cmd cmdLength, allowed s (.receive p cmd cmdLength) → Admits p cmd cmdLength ∧
      ∀ current, current = s.rcb.currentSnode ∨ current = 0 → takenSource current p →
        Source current p)
    {start : Ts} (htimer : start.rcb.rxTimer = true → start.buffer.active = true)
    (hstart : property start.buffer) {inputs : List Input}
    (hinputs : AllSteps (step env) allowed start inputs) :
    property (run (step env) start inputs).buffer := by
  have hinv : property (run (step env) start inputs).buffer ∧
      ((run (step env) start inputs).buffer.rxTimer = true →
        (run (step env) start inputs).buffer.active = true) := by
    refine @run_invariant_of_allSteps _ _ (step env) allowed
      (fun s ↦ property s.buffer ∧ (s.buffer.rxTimer = true → s.buffer.active = true)) ?_ start
      ⟨hstart, htimer⟩ inputs hinputs
    intro s input hinput ⟨hproperty, hactive⟩
    have hreaches : Reaches Admits Source s.buffer (step env s input).buffer := by
      refine reaches_step env s input hactive ?_
      rintro p cmd cmdLength rfl
      exact hallowed s p cmd cmdLength hinput
    generalize (step env s input).buffer = b at hreaches ⊢
    induction hreaches with
    | refl => exact ⟨hproperty, hactive⟩
    | tail _ hstep ih => exact ⟨hkept _ _ hstep ih.1, hstep.timer_active ih.2⟩
  exact hinv.1

end ZipGateway.TransportService
