import ZipGateway.TransportService.Reassembly
import ZipGateway.TransportService.Sender

/-!
# From one end to the other

The fragments of one send session are fed to a receiver without a session. Whatever is lost,
repeated or exchanged, and whatever else happens to the receiver, every datagram it hands to the
application is the one that was sent. When all fragments arrive, the datagram is handed out exactly
once, with two exceptions: a datagram that fits into its first fragment is handed out again each
time that fragment is repeated, since a first fragment does not look at `recv_frag_compl_list`; and
a longer one that is received as a broadcast is never handed out, since `find_missing` returns
before it does so.
-/

set_option autoImplicit false

namespace ZipGateway.TransportService

open Lib List

/-! ### Deliveries -/

/-- The datagram that the act hands to the application. -/
def Act.datagram? : Act → Option (List UInt8)
  | .delivered _ _ _ datagram => some datagram
  | _ => none

/-- The datagrams handed to the application, newest first. -/
def deliveries (log : List Act) : List (List UInt8) := log.filterMap Act.datagram?

theorem deliveries_filter (log : List Act) :
    deliveries (log.filter Act.isReception) = deliveries log := by
  unfold deliveries
  rw [filterMap_filter]
  congr 1
  funext act
  cases act <;> rfl

def Session.data (d : Session) : List UInt8 := readMem d.datagram 0 d.len

/-- A session with a datagram that the receiver has room for. -/
structure Session.Valid (d : Session) : Prop where
  session_lt : d.session < 16
  len_pos : 0 < d.len
  len_le : d.len ≤ datagramSizeMax
  maxPayload_pos : 0 < d.maxPayload
  maxPayload_le : d.maxPayload ≤ fragmentMaxPayloadMax

/-! ### Reading the frames of a session -/

section Reading

variable {d : Session}

theorem toNat_length (frame : List UInt8) (h : frame.length ≤ subseqFragNonpayloadLength + 200) :
    (UInt8.ofNat frame.length).toNat = frame.length := by
  have hoverhead : subseqFragNonpayloadLength = 7 := rfl
  exact UInt8.toNat_ofNat_of_lt' (by simp [UInt8.size]; omega)

/-- A checked first fragment of the session is its opening frame. -/
theorem Session.Emits.first {frame : List UInt8} (h : d.Emits frame) (hvalid : d.Valid)
    (hcommand : frameMem frame 1 &&& 0xF8 = commandFirstFragment) :
    frame = openingFrame d.session d.datagram d.len d.maxPayload := by
  rcases h with hopening | ⟨offset, hoffset, rfl⟩
  · exact hopening
  · have hreads := (subseqFragment_readsAs d.datagram (min d.maxPayload (d.len - offset))
      hvalid.session_lt hvalid.len_le hoffset).1.command
    rw [fragmentAt, hreads] at hcommand
    exact absurd hcommand (by decide)

/-- A checked subsequent fragment of the session is the fragment at its offset. -/
theorem Session.Emits.subseq {frame : List UInt8} (h : d.Emits frame) (hvalid : d.Valid)
    (hcommand : frameMem frame 1 &&& 0xF8 = commandSubsequentFragment) :
    ∃ offset, offset < d.len ∧
      frame = fragmentAt d.session d.datagram d.len d.maxPayload offset := by
  rcases h with rfl | hfragment
  · have hreads := (firstFragment_readsAs d.datagram (min d.maxPayload d.len)
      hvalid.session_lt hvalid.len_le).command
    rw [openingFrame, hreads] at hcommand
    exact absurd hcommand (by decide)
  · exact hfragment

theorem openingFrame_length (hvalid : d.Valid) :
    (UInt8.ofNat (openingFrame d.session d.datagram d.len d.maxPayload).length).toNat =
      firstFragNonpayloadLength + min d.maxPayload d.len := by
  have hmax : datagramSizeMax = 200 := rfl
  have hfirst : firstFragNonpayloadLength = 6 := rfl
  have hsubseq : subseqFragNonpayloadLength = 7 := rfl
  have hle := hvalid.len_le
  have hlength : (openingFrame d.session d.datagram d.len d.maxPayload).length =
      firstFragNonpayloadLength + min d.maxPayload d.len := length_firstFragment _ _
  rw [toNat_length _ (by omega), hlength]

theorem fragmentAt_length (hvalid : d.Valid) (offset : ℕ) :
    (UInt8.ofNat (fragmentAt d.session d.datagram d.len d.maxPayload offset).length).toNat =
      subseqFragNonpayloadLength + min d.maxPayload (d.len - offset) := by
  have hmax : datagramSizeMax = 200 := rfl
  have hle := hvalid.len_le
  have hlength : (fragmentAt d.session d.datagram d.len d.maxPayload offset).length =
      subseqFragNonpayloadLength + min d.maxPayload (d.len - offset) := length_subseqFragment _ _ _
  rw [toNat_length _ (by omega), hlength]

end Reading

/-! ### Only the datagram is handed out -/

/-- What holds of the buffer while only frames of a session come in. -/
structure FaithfulInv (d : Session) (before : List (List UInt8)) (b : Buffer) : Prop where
  firstByte : b.active = true → b.sessionId < 16 → b.bytesRecvdBitmask 0 = true
  size : b.active = true → b.sessionId < 16 → b.datagramSize = d.len
  written : b.active = true → b.sessionId < 16 →
    ∀ i, b.bytesRecvdBitmask i = true → i < d.len → b.datagramData i = d.datagram i
  delivered : ∃ count, deliveries b.receptions = List.replicate count d.data ++ before

/-- The frame that comes in is one of the session. -/
def Session.Admits (d : Session) (_ : TsParam) (cmd : ℕ → UInt8) (cmdLength : UInt8) : Prop :=
  ∃ frame, d.Emits frame ∧ cmd = frameMem frame ∧ cmdLength = UInt8.ofNat frame.length

theorem FaithfulInv.closed {d : Session} {before : List (List UInt8)} {b : Buffer}
    (hclosed : b.active = false ∨ b.sessionId = noSession)
    (hdelivered : ∃ count, deliveries b.receptions = List.replicate count d.data ++ before) :
    FaithfulInv d before b := by
  have hnone : b.active = true → ¬ b.sessionId < 16 := by
    intro hactive hopen
    rcases hclosed with hinactive | hnoSession
    · exact absurd (hinactive.symm.trans hactive) Bool.false_ne_true
    · rw [hnoSession] at hopen
      exact absurd hopen (by decide)
  exact ⟨fun hactive hopen ↦ absurd hopen (hnone hactive),
    fun hactive hopen ↦ absurd hopen (hnone hactive),
    fun hactive hopen ↦ absurd hopen (hnone hactive), hdelivered⟩

theorem FaithfulInv.first {d : Session} {before : List (List UInt8)} {b : Buffer} {cmd : ℕ → UInt8}
    {cmdLength : UInt8} {p : TsParam} (h : FaithfulInv d before b) (hvalid : d.Valid)
    (hadmits : d.Admits p cmd cmdLength)
    (hchecked : CheckedFragment commandFirstFragment cmd cmdLength) :
    FaithfulInv d before (b.first cmd (cmdLength.toNat - firstFragNonpayloadLength)) := by
  obtain ⟨frame, hemits, rfl, rfl⟩ := hadmits
  obtain rfl := hemits.first hvalid hchecked.command
  have hsize : (UInt8.ofNat (openingFrame d.session d.datagram d.len d.maxPayload).length).toNat -
      firstFragNonpayloadLength = min d.maxPayload d.len := by
    rw [openingFrame_length hvalid]
    omega
  have hpos := hvalid.len_pos
  have hmaxPos := hvalid.maxPayload_pos
  rw [hsize]
  refine ⟨?_, ?_, ?_, h.delivered⟩
  · intro _ _
    exact decide_eq_true (by omega)
  · intro _ _
    exact (firstFragment_readsAs d.datagram (min d.maxPayload d.len) hvalid.session_lt
      hvalid.len_le).size
  · intro _ _ i hi _
    have hlt : i < min d.maxPayload d.len := of_decide_eq_true hi
    refine (if_pos hlt).trans ?_
    exact firstFragment_payload d.datagram (min d.maxPayload d.len) hlt

theorem FaithfulInv.subseq {d : Session} {before : List (List UInt8)} {b : Buffer} {cmd : ℕ → UInt8}
    {cmdLength : UInt8} {p : TsParam} (h : FaithfulInv d before b) (hvalid : d.Valid)
    (hadmits : d.Admits p cmd cmdLength)
    (hchecked : CheckedFragment commandSubsequentFragment cmd cmdLength) :
    FaithfulInv d before (b.subseq cmd (cmdLength.toNat - subseqFragNonpayloadLength)) := by
  obtain ⟨frame, hemits, rfl, rfl⟩ := hadmits
  obtain ⟨offset, hoffset, rfl⟩ := hemits.subseq hvalid hchecked.command
  have hsize :
      (UInt8.ofNat (fragmentAt d.session d.datagram d.len d.maxPayload offset).length).toNat -
      subseqFragNonpayloadLength = min d.maxPayload (d.len - offset) := by
    rw [fragmentAt_length hvalid]
    omega
  obtain ⟨hreads, hreadsOffset⟩ := subseqFragment_readsAs d.datagram
    (min d.maxPayload (d.len - offset)) hvalid.session_lt hvalid.len_le hoffset
  rw [hsize]
  refine ⟨?_, ?_, ?_, h.delivered⟩
  · intro hactive hopen
    change (_ || b.bytesRecvdBitmask 0) = true
    rw [h.firstByte hactive hopen, Bool.or_true]
  · intro _ _
    exact hreads.size
  · intro hactive hopen i hi hlt
    unfold Buffer.subseq at hi ⊢
    unfold fragmentAt at hi ⊢
    dsimp only at hi ⊢
    rw [hreadsOffset] at hi ⊢
    by_cases hin : offset ≤ i ∧ i < offset + min d.maxPayload (d.len - offset)
    · rw [if_pos hin, subseqFragment_payload d.datagram _ (by omega)]
      congr 1
      omega
    · rw [if_neg hin]
      rw [decide_eq_false hin, Bool.false_or] at hi
      exact h.written hactive hopen i hi hlt

theorem FaithfulInv.deliver {d : Session} {before : List (List UInt8)} {b : Buffer}
    (h : FaithfulInv d before b) (hvalid : d.Valid) (dnode : UInt16) (hactive : b.active = true)
    (hopen : b.sessionId < 16)
    (hcomplete : ∀ i, i ≠ 0 → i < b.datagramSize → i < 208 → b.bytesRecvdBitmask i = true) :
    FaithfulInv d before (b.deliver dnode) := by
  have hmax : datagramSizeMax = 200 := rfl
  have hle := hvalid.len_le
  have hsize := h.size hactive hopen
  obtain ⟨count, hdelivered⟩ := h.delivered
  have hdata : readMem b.datagramData 0 b.datagramSize = d.data := by
    rw [hsize]
    apply readMem_congr
    intro i hi
    apply h.written hactive hopen i _ hi
    by_cases hzero : i = 0
    · rw [hzero]
      exact h.firstByte hactive hopen
    · exact hcomplete i hzero (by omega) (by omega)
  refine .closed (.inr rfl) ⟨count + 1, ?_⟩
  change readMem b.datagramData 0 b.datagramSize :: deliveries b.receptions = _
  rw [hdata, hdelivered, replicate_succ]
  rfl

theorem FaithfulInv.step {d : Session} {before : List (List UInt8)} (hvalid : d.Valid)
    {Source : UInt16 → TsParam → Prop} {b b' : Buffer} (hstep : BufferStep d.Admits Source b b')
    (h : FaithfulInv d before b) : FaithfulInv d before b' := by
  cases hstep with
  | receive p cmd cmdLength hadmits => exact ⟨h.firstByte, h.size, h.written, h.delivered⟩
  | source p cmd cmdLength hnewest hsource => exact ⟨h.firstByte, h.size, h.written, h.delivered⟩
  | timer pending hactive => exact ⟨h.firstByte, h.size, h.written, h.delivered⟩
  | clear active hactive => exact .closed (.inr rfl) h.delivered
  | first p cmd cmdLength hadmits hnewest hsnode hactive hchecked hlen =>
    exact h.first hvalid hadmits hchecked
  | subseq p cmd cmdLength hadmits hnewest hsnode hactive hchecked hsession =>
    exact h.subseq hvalid hadmits hchecked
  | deliver dnode hactive hopen hcomplete => exact h.deliver hvalid dnode hactive hopen hcomplete

/-- A receiver without a session, which is not sending. -/
structure Fresh (s : Ts) : Prop where
  closed : s.flagInitializeOnce = true ∨ s.rcb.sessionId = noSession
  currentSnode : s.rcb.currentSnode = 0
  currentDnode : s.scb.currentDnode = 0
  rxTimer : s.flagInitializeOnce = true → s.rcb.rxTimer = false

/-- The received frames of an input, if it is one, belong to a session. -/
def Session.feeds (d : Session) : Input → Prop
  | .receive p cmd cmdLength => d.Admits p cmd cmdLength
  | _ => True

/-- Whatever else happens, a receiver that gets frames of one session hands out nothing but the
datagram of the session. -/
theorem only_datagram_delivered (env : Env) {d : Session} (hvalid : d.Valid) {s : Ts}
    (hfresh : Fresh s) (inputs : List Input) (hinputs : ∀ input ∈ inputs, d.feeds input) :
    ∃ count, deliveries (run (step env) s inputs).log =
      List.replicate count d.data ++ deliveries s.log := by
  have hstart : FaithfulInv d (deliveries s.log) s.buffer := by
    refine .closed ?_ ⟨0, deliveries_filter s.log⟩
    rcases hfresh.closed with huntouched | hclosed
    · left
      simp [Ts.buffer, RecvView.buffer, Ts.recvView, huntouched]
    · exact .inr hclosed
  have htimer : s.rcb.rxTimer = true → s.buffer.active = true := by
    intro hpending
    by_contra hinactive
    have huntouched : s.flagInitializeOnce = true := by
      simpa [Ts.buffer, RecvView.buffer, Ts.recvView] using hinactive
    exact absurd ((hfresh.rxTimer huntouched).symm.trans hpending) Bool.false_ne_true
  have hallowed : AllSteps (step env) (fun _ input ↦ d.feeds input) s inputs := by
    clear hstart htimer hfresh
    induction inputs generalizing s with
    | nil => trivial
    | cons input rest ih =>
      refine ⟨hinputs input mem_cons_self, ih ?_⟩
      intro other hother
      exact hinputs other (mem_cons_of_mem _ hother)
  have hinv : FaithfulInv d (deliveries s.log) (run (step env) s inputs).buffer :=
    run_buffer_invariant (fun b b' hstep ↦ .step hvalid hstep) env
      (fun _ _ _ _ hadmits ↦ ⟨hadmits, fun _ _ htaken ↦ htaken⟩) htimer hstart hallowed
  obtain ⟨count, hcount⟩ := hinv.delivered
  exact ⟨count, (deliveries_filter _).symm.trans hcount⟩

/-! ### How the receiver takes a fragment -/

section Taking

variable {env : Env} {s : Ts} {q : TsParam} {cmd : ℕ → UInt8} {cmdLength : UInt8}

theorem receive_first (env : Env) (hclass : s.rcb.fragment 0 = commandClassTransportService)
    (hcommand : s.rcb.fragment 1 &&& 0xF8 = commandFirstFragment) :
    receive env s = receiveFirstFragment env s := by
  unfold receive
  rw [if_neg (not_not.mpr hclass), if_pos hcommand]

theorem receive_subseq (env : Env) (hclass : s.rcb.fragment 0 = commandClassTransportService)
    (hcommand : s.rcb.fragment 1 &&& 0xF8 = commandSubsequentFragment) :
    receive env s = receiveSubseqFragment env s := by
  unfold receive
  rw [if_neg (not_not.mpr hclass), if_neg (by rw [hcommand]; decide), if_pos hcommand]

theorem initializeOnce_rcb {t : Ts} (hrcb : s.rcb = t.rcb)
    (hflag : s.flagInitializeOnce = t.flagInitializeOnce) :
    (initializeOnce s).rcb = (initializeOnce t).rcb := by
  unfold initializeOnce Ts.modifyRcb
  rw [hflag]
  split_ifs
  · dsimp only
    rw [hrcb]
  · exact hrcb

theorem flagInitializeOnce_initializeOnce (s : Ts) :
    (initializeOnce s).flagInitializeOnce = false := by
  unfold initializeOnce
  split_ifs with hflag
  · rfl
  · exact Bool.eq_false_iff.mpr hflag

/-- The control block of the receiver when a frame is given to `receive`. -/
def receivingRcb (q : TsParam) (cmd : ℕ → UInt8) (cmdLength : UInt8) (s : Ts) : Rcb :=
  { (initializeOnce s).rcb with fragment := cmd, p := q, fragmentLen := cmdLength.toNat }

/-- A frame of the node of the session, or any frame while there is no session, is given to
`receive`, unless it is a subsequent fragment without a session. -/
theorem handler_takes (env : Env) (hself : q.snode ≠ q.dnode) (cmd : ℕ → UInt8)
    (hlen : cmdLength.toNat ≤ datagramSizeMax)
    (hsource : s.rcb.currentSnode = 0 ∨ s.rcb.currentSnode = q.snode)
    (hdnode : s.scb.currentDnode = 0)
    (hopen : cmd 1 &&& 0xF8 = commandSubsequentFragment → s.rcb.sessionId ≠ noSession) :
    ∃ t, applicationCommandHandler env q cmd cmdLength s = receive env t ∧
      t.rcb = receivingRcb q cmd cmdLength s ∧ t.flagInitializeOnce = false ∧
      t.log = .received q cmd cmdLength :: s.log := by
  unfold applicationCommandHandler
  dsimp only
  have htie : (tieBreak q ((s.record (.received q cmd cmdLength)).modifyScb fun scb ↦
      { scb with resetTimer := true })).rcb = s.rcb ∧
      (tieBreak q ((s.record (.received q cmd cmdLength)).modifyScb fun scb ↦
      { scb with resetTimer := true })).scb.currentDnode = s.scb.currentDnode ∧
      (tieBreak q ((s.record (.received q cmd cmdLength)).modifyScb fun scb ↦
      { scb with resetTimer := true })).flagInitializeOnce = s.flagInitializeOnce ∧
      (tieBreak q ((s.record (.received q cmd cmdLength)).modifyScb fun scb ↦
      { scb with resetTimer := true })).log = .received q cmd cmdLength :: s.log := by
    unfold tieBreak
    split_ifs <;> exact ⟨rfl, rfl, rfl, rfl⟩
  generalize tieBreak q _ = t at htie ⊢
  obtain ⟨hrcb, hcurrent, hflag, hlog⟩ := htie
  have hthird : fromThirdNode q (t.modifyScb fun scb ↦ { scb with fragWaitP := q }) = false := by
    apply decide_eq_false
    change ¬ (q.snode ≠ t.rcb.currentSnode ∧ t.rcb.currentSnode ≠ 0 ∨
      q.snode ≠ t.scb.currentDnode ∧ t.scb.currentDnode ≠ 0)
    rw [hrcb, hcurrent, hdnode]
    rintro (⟨hother, hne⟩ | ⟨-, hne⟩)
    · rcases hsource with hzero | hsame
      · exact hne hzero
      · exact hother hsame.symm
    · exact hne rfl
  rw [if_neg hself, if_neg (Nat.not_lt.mpr hlen), if_neg (by simp [hthird]),
    if_neg (by simp [hthird]), if_neg]
  · obtain ⟨state, htake⟩ :=
      takeFrame_eq env (t.modifyScb fun scb ↦ { scb with fragWaitP := q }) q cmd cmdLength
    refine ⟨_, htake, ?_, ?_, ?_⟩
    · have hinit := initializeOnce_rcb
        (s := { (t.modifyScb fun scb ↦ { scb with fragWaitP := q }) with currentState := state })
        (t := s) hrcb hflag
      unfold receivingRcb
      rw [← hinit]
      rfl
    · exact flagInitializeOnce_initializeOnce _
    · unfold initializeOnce
      split_ifs <;> exact hlog
  · rintro ⟨hnoSession, hsubseq⟩
    apply hopen hsubseq
    rw [← hrcb]
    exact hnoSession

/-- A subsequent fragment that comes without a session is not taken. -/
theorem handler_drops (env : Env) (hclosed : s.rcb.sessionId = noSession)
    (hsubseq : cmd 1 &&& 0xF8 = commandSubsequentFragment) :
    (applicationCommandHandler env q cmd cmdLength s).recvView =
      (s.record (.received q cmd cmdLength)).recvView := by
  have hneutral : (tieBreak q ((s.record (.received q cmd cmdLength)).modifyScb fun scb ↦
      { scb with resetTimer := true })).recvView =
        (s.record (.received q cmd cmdLength)).recvView :=
    (Neutral.tieBreak (.modifyScb (.refl _) rfl rfl)).recvView
  unfold applicationCommandHandler
  dsimp only
  generalize tieBreak q _ = t at hneutral ⊢
  have hwait : ∀ u : Ts, u.recvView = t.recvView → (askToWait env u).recvView =
      (s.record (.received q cmd cmdLength)).recvView := fun u hu ↦
    (Neutral.askToWait (.refl u)).recvView.trans (hu.trans hneutral)
  split_ifs with hself hlong hsingle hwaiting hbroad hnone htooLong
  · exact hneutral
  · exact hneutral
  · exact hneutral
  · exact hwait _ rfl
  · exact hneutral
  · exact hneutral
  · exact hwait _ rfl
  · refine absurd ⟨?_, hsubseq⟩ hnone
    exact (congrArg (fun v ↦ v.rcb.sessionId) hneutral).trans hclosed

/-- Fragments leave the sending half alone. -/
theorem sendView_fragment (env : Env) (hcommand : cmd 1 &&& 0xF8 = commandFirstFragment ∨
    cmd 1 &&& 0xF8 = commandSubsequentFragment) :
    (applicationCommandHandler env q cmd cmdLength s).sendView = s.sendView := by
  have hneutral : (tieBreak q ((s.record (.received q cmd cmdLength)).modifyScb fun scb ↦
      { scb with resetTimer := true })).sendView = s.sendView :=
    (Neutral.tieBreak (.modifyScb (.refl _) rfl rfl)).sendView
  have hreceive : ∀ u : Ts, u.rcb.fragment = cmd → (receive env u).sendView = u.sendView := by
    rintro u rfl
    by_cases hclass : u.rcb.fragment 0 = commandClassTransportService
    · rcases hcommand with hfirst | hsubseq
      · rw [receive_first env hclass hfirst]
        exact sendView_receiveFirstFragment env u
      · rw [receive_subseq env hclass hsubseq]
        exact sendView_receiveSubseqFragment env u
    · unfold receive
      rw [if_pos hclass]
  unfold applicationCommandHandler
  dsimp only
  generalize tieBreak q _ = t at hneutral ⊢
  have hwait : ∀ u : Ts, u.sendView = t.sendView → (askToWait env u).sendView = s.sendView :=
    fun u hu ↦ (Neutral.askToWait (.refl u)).sendView.trans (hu.trans hneutral)
  split_ifs
  · exact hneutral
  · exact hneutral
  · exact hneutral
  · exact hwait _ rfl
  · exact hneutral
  · exact hneutral
  · exact hwait _ rfl
  · obtain ⟨state, htake⟩ :=
      takeFrame_eq env (t.modifyScb fun scb ↦ { scb with fragWaitP := q }) q cmd cmdLength
    rw [htake, hreceive _ rfl]
    exact (sendView_initializeOnce _).trans hneutral

end Taking

/-! ### Collecting a datagram -/

/-- The receiver holds the bytes in `covered` of the datagram of a session. -/
structure Holding (d : Session) (q : TsParam) (delivered : List (List UInt8)) (covered : ℕ → Prop)
    (v : RecvView) : Prop where
  initialized : v.flagInitializeOnce = false
  sessionId : v.rcb.sessionId = d.session
  param : v.rcb.p = q
  currentSnode : v.rcb.currentSnode = q.snode
  notCompleted : v.rcb.recvFragComplList (Fin.ofNat 16 d.session) = false
  size : v.rcb.datagramSize = d.len
  firstByte : v.rcb.bytesRecvdBitmask 0 = true
  covers : ∀ i, covered i → v.rcb.bytesRecvdBitmask i = true
  written : ∀ i, v.rcb.bytesRecvdBitmask i = true → i < d.len → v.rcb.datagramData i = d.datagram i
  deliveries_eq : deliveries v.log = delivered

/-- The receiver is collecting the datagram of a session: it holds some bytes and its timer is
pending. -/
structure Collecting (d : Session) (q : TsParam) (delivered : List (List UInt8))
    (covered : ℕ → Prop) (v : RecvView) : Prop extends Holding d q delivered covered v where
  rxTimer : v.rcb.rxTimer = true

/-- The receiver has no session. -/
structure Closed (delivered : List (List UInt8)) (v : RecvView) : Prop where
  initialized : v.flagInitializeOnce = false
  sessionId : v.rcb.sessionId = noSession
  currentSnode : v.rcb.currentSnode = 0
  deliveries_eq : deliveries v.log = delivered

section Collecting

variable {d : Session} {q : TsParam} {delivered : List (List UInt8)} {covered : ℕ → Prop}
  {env : Env} {s : Ts}

/-- A complete datagram is handed out. -/
theorem Holding.sendFragCompleteCmd (h : Holding d q delivered covered s.recvView)
    (hvalid : d.Valid) (hfull : ∀ i, i < d.len → s.rcb.bytesRecvdBitmask i = true) :
    Closed (d.data :: delivered) (sendFragCompleteCmd env s).recvView := by
  have hopen : s.rcb.sessionId < 16 := by
    rw [show s.rcb.sessionId = d.session from h.sessionId]
    exact hvalid.session_lt
  have hdata : readMem s.rcb.datagramData 0 s.rcb.datagramSize = d.data := by
    rw [show s.rcb.datagramSize = d.len from h.size]
    exact readMem_congr fun i hi ↦ h.written i (hfull i hi) hi
  unfold TransportService.sendFragCompleteCmd
  rw [dif_pos hopen]
  dsimp only
  generalize hraw : (TransportService.sendRaw env _ _ _ _ none _).1 = after
  have hneutral : Neutral s after := hraw ▸ .sendRaw (.modifyScb (.refl s) rfl rfl)
  refine ⟨?_, rfl, rfl, ?_⟩
  · exact (congrArg RecvView.flagInitializeOnce hneutral.recvView).trans h.initialized
  · change readMem s.rcb.datagramData 0 s.rcb.datagramSize :: deliveries after.recvView.log = _
    rw [hdata, hneutral.recvView, h.deliveries_eq]

theorem Collecting.sendFragReqCmd (h : Collecting d q delivered covered s.recvView) :
    Collecting d q delivered covered (sendFragReqCmd env s).recvView := by
  obtain ⟨retry, requested, pending, hview, hpending⟩ := recvView_sendFragReqCmd env s
  rw [hview]
  exact ⟨{ h.toHolding with }, hpending h.rxTimer⟩

theorem getNextMissingOffset_of_full {rcb : Rcb}
    (hfull : ∀ i, i < rcb.datagramSize → rcb.bytesRecvdBitmask i = true) :
    getNextMissingOffset rcb = 0 := by
  unfold getNextMissingOffset
  split
  · rfl
  · rename_i missing hfind
    have hbit := List.find?_some hfind
    rw [if_pos]
    by_contra hlt
    have hset := hfull missing (Nat.lt_of_not_le hlt)
    have hclear : rcb.bytesRecvdBitmask missing = false := (of_decide_eq_true hbit).2
    exact absurd (hset.symm.trans hclear) (by decide)

/-- `find_missing` hands a complete datagram out, and asks for what is missing from another. -/
theorem Collecting.findMissing (h : Collecting d q delivered covered s.recvView) (hvalid : d.Valid)
    (hq : q.rxFlags ≠ receiveStatusTypeBroad) :
    Collecting d q delivered covered (findMissing env s).recvView ∧
        ¬ (∀ i, i < d.len → s.rcb.bytesRecvdBitmask i = true) ∨
      Closed (d.data :: delivered) (findMissing env s).recvView := by
  have hmax : datagramSizeMax = 200 := rfl
  have hle := hvalid.len_le
  have hsize : s.rcb.datagramSize = d.len := h.size
  have hflags : s.rcb.p.rxFlags ≠ receiveStatusTypeBroad := by
    rw [show s.rcb.p = q from h.param]
    exact hq
  unfold TransportService.findMissing
  by_cases hmissing : getNextMissingOffset s.rcb % 256 ≠ 0
  · left
    rw [if_pos hmissing, if_neg hflags]
    refine ⟨Collecting.sendFragReqCmd (s := postEvent .missingFrag s) h, ?_⟩
    intro hfull
    rw [← hsize] at hfull
    exact hmissing (by rw [getNextMissingOffset_of_full hfull])
  · right
    rw [if_neg hmissing, if_neg hflags]
    refine Holding.sendFragCompleteCmd (s := postEvent .sendFragComplete s) h.toHolding hvalid ?_
    intro i hi
    by_cases hzero : i = 0
    · rw [hzero]
      exact h.firstByte
    · exact getNextMissingOffset_eq_zero (not_not.mp hmissing) hzero (by omega) (by omega)

/-- After a broadcast `find_missing` hands nothing out. -/
theorem Collecting.findMissing_broad (h : Collecting d q delivered covered s.recvView)
    (hq : q.rxFlags = receiveStatusTypeBroad) :
    Collecting d q delivered covered (TransportService.findMissing env s).recvView ∨
      Closed delivered (TransportService.findMissing env s).recvView := by
  have hflags : s.rcb.p.rxFlags = receiveStatusTypeBroad := by
    rw [show s.rcb.p = q from h.param]
    exact hq
  unfold TransportService.findMissing
  rw [if_pos hflags, if_pos hflags]
  split_ifs
  · exact .inr ⟨h.initialized, rfl, rfl, h.deliveries_eq⟩
  · exact .inl h

/-- The bytes of a fragment. -/
def fragmentCovers (d : Session) (offset i : ℕ) : Prop :=
  offset ≤ i ∧ i < offset + min d.maxPayload (d.len - offset)

instance (d : Session) (offset i : ℕ) : Decidable (fragmentCovers d offset i) :=
  inferInstanceAs (Decidable (_ ∧ _))

/-- The state after the bytes of a fragment have been stored, before it is looked whether bytes are
missing. -/
theorem Collecting.store (h : Collecting d q delivered covered s.recvView) (offset : ℕ)
    {cmd : ℕ → UInt8} (hsize : datagramSizeOf cmd = d.len)
    (hpayload : ∀ i, i < min d.maxPayload (d.len - offset) →
      cmd (subseqHdrLen + i) = d.datagram (offset + i)) :
    Collecting d q delivered (fun i ↦ covered i ∨ fragmentCovers d offset i)
      ((s.modifyRcb fun rcb ↦
        { rcb with
          bytesRecvdBitmask := fun i ↦
            decide (offset ≤ i ∧ i < offset + min d.maxPayload (d.len - offset)) ||
              rcb.bytesRecvdBitmask i }).modifyRcb fun rcb ↦
        { rcb with
          datagramSize := datagramSizeOf cmd
          datagramData := fun i ↦
            if offset ≤ i ∧ i < offset + min d.maxPayload (d.len - offset) then
              cmd (subseqHdrLen + (i - offset))
            else rcb.datagramData i }).recvView := by
  refine ⟨⟨h.initialized, h.sessionId, h.param, h.currentSnode, h.notCompleted, hsize, ?_, ?_, ?_,
    h.deliveries_eq⟩, h.rxTimer⟩
  · change (_ || s.rcb.bytesRecvdBitmask 0) = true
    rw [show s.rcb.bytesRecvdBitmask 0 = true from h.firstByte, Bool.or_true]
  · rintro i (hold | hnew)
    · change (_ || s.rcb.bytesRecvdBitmask i) = true
      rw [show s.rcb.bytesRecvdBitmask i = true from h.covers i hold, Bool.or_true]
    · change (decide (fragmentCovers d offset i) || _) = true
      rw [decide_eq_true hnew, Bool.true_or]
  · intro i hi hlt
    change (decide (fragmentCovers d offset i) || s.rcb.bytesRecvdBitmask i) = true at hi
    change (if fragmentCovers d offset i then cmd (subseqHdrLen + (i - offset))
      else s.rcb.datagramData i) = _
    by_cases hin : fragmentCovers d offset i
    · have hfrom := hin.1
      have hto := hin.2
      rw [if_pos hin, hpayload _ (by omega)]
      congr 1
      omega
    · rw [if_neg hin]
      rw [decide_eq_false hin, Bool.false_or] at hi
      exact h.written i hi hlt

/-- The state in which `receive` is called. -/
theorem Collecting.taken (h : Collecting d q delivered covered s.recvView) {t : Ts}
    {cmd : ℕ → UInt8} {cmdLength : UInt8} (hrcb : t.rcb = receivingRcb q cmd cmdLength s)
    (hflag : t.flagInitializeOnce = false) (hlog : t.log = .received q cmd cmdLength :: s.log) :
    Collecting d q delivered covered t.recvView := by
  have hinit : initializeOnce s = s := if_neg (Bool.eq_false_iff.mp h.initialized)
  have hview :
      t.recvView = ⟨{ receivingRcb q cmd cmdLength s with pendingSegments := 0, fcTimer := false },
      false, (.received q cmd cmdLength :: s.log).filter Act.isReception⟩ := by
    unfold Ts.recvView
    rw [hrcb, hflag, hlog]
  rw [hview]
  unfold receivingRcb
  rw [hinit]
  exact ⟨⟨rfl, h.sessionId, rfl, h.currentSnode, h.notCompleted, h.size, h.firstByte, h.covers,
    h.written, h.deliveries_eq⟩, h.rxTimer⟩

theorem Collecting.abortIfTieBroken (h : Collecting d q delivered covered s.recvView) :
    Collecting d q delivered covered (abortIfTieBroken s).recvView := by
  rw [(Neutral.abortIfTieBroken (.refl s)).recvView]
  exact h

theorem abortIfTieBroken_rcb (s : Ts) : (abortIfTieBroken s).rcb = s.rcb := by
  unfold abortIfTieBroken
  split_ifs <;> rfl

/-- A fragment of the session is stored, and when it is the last one of the datagram, it is looked
whether bytes are missing. -/
theorem collecting_receiveSubseqFragment (h : Collecting d q delivered covered s.recvView)
    (hvalid : d.Valid) {offset : ℕ} (hoffset : offset < d.len)
    (hfragment : s.rcb.fragment =
      frameMem (fragmentAt d.session d.datagram d.len d.maxPayload offset))
    (hfragmentLen : s.rcb.fragmentLen =
      subseqFragNonpayloadLength + min d.maxPayload (d.len - offset)) :
    (∃ stored, Collecting d q delivered (fun i ↦ covered i ∨ fragmentCovers d offset i)
      stored.recvView ∧
        receiveSubseqFragment env s = findMissing env stored) ∨
      Collecting d q delivered (fun i ↦ covered i ∨ fragmentCovers d offset i)
        (receiveSubseqFragment env s).recvView := by
  obtain ⟨hreads, hreadsOffset⟩ := subseqFragment_readsAs d.datagram
    (min d.maxPayload (d.len - offset)) hvalid.session_lt hvalid.len_le hoffset
  have hcrc : crcValid (frameMem (fragmentAt d.session d.datagram d.len d.maxPayload offset))
      (subseqFragNonpayloadLength + min d.maxPayload (d.len - offset)) = true := by
    have hvalidCrc := crcValid_addCrc ([commandClassTransportService,
      commandSubsequentFragment ||| UInt8.ofNat (d.len / 256 % 8), UInt8.ofNat d.len,
      UInt8.ofNat (d.session * 16) ||| UInt8.ofNat (offset / 256 % 8), UInt8.ofNat offset] ++
      readMem d.datagram offset (min d.maxPayload (d.len - offset)))
    rw [← length_subseqFragment]
    exact hvalidCrc
  have hpos : 0 < min d.maxPayload (d.len - offset) := by
    have := hvalid.maxPayload_pos
    omega
  have hle := hvalid.len_le
  have habort := h.abortIfTieBroken
  unfold receiveSubseqFragment
  have hrcb := abortIfTieBroken_rcb s
  generalize abortIfTieBroken s = t at habort hrcb
  rw [← hrcb] at hfragment hfragmentLen
  dsimp only
  rw [hfragment, hfragmentLen]
  have hsession :
      sessionIdOf (frameMem (fragmentAt d.session d.datagram d.len d.maxPayload offset) 3) =
      d.session := hreads.session
  have hsame : t.rcb.sessionId = d.session := habort.sessionId
  have hdatagramSize : datagramSizeOf
      (frameMem (fragmentAt d.session d.datagram d.len d.maxPayload offset)) = d.len := hreads.size
  have hdatagramOffset : datagramOffsetOf
      (frameMem (fragmentAt d.session d.datagram d.len d.maxPayload offset)) = offset :=
        hreadsOffset
  have hnotDone : ¬ t.rcb.recvFragComplList (Fin.ofNat 16 d.session) = true :=
    Bool.eq_false_iff.mp habort.notCompleted
  rw [hsession, hsame, hdatagramOffset, hdatagramSize, Nat.add_sub_cancel_left, if_neg (by omega),
    hcrc, if_neg (by decide), if_neg hnotDone, if_neg (by simp),
    if_neg (by omega), if_neg (by omega)]
  have hready : Collecting d q delivered covered ((t.modifyRcb fun rcb ↦
      { rcb with curRecvdDataSize := min d.maxPayload (d.len - offset) }).modifyRcb fun rcb ↦
        { rcb with rxTimer := true }).recvView := ⟨{ habort.toHolding with }, rfl⟩
  have hstored := hready.store offset hdatagramSize
    fun i hi ↦ subseqFragment_payload d.datagram _ hi
  generalize (t.modifyRcb _).modifyRcb _ = ready at hready hstored ⊢
  have hmark : markFragReceived offset (min d.maxPayload (d.len - offset)) ready =
      some (ready.modifyRcb fun rcb ↦
        { rcb with
          bytesRecvdBitmask := fun i ↦
            decide (offset ≤ i ∧ i < offset + min d.maxPayload (d.len - offset)) ||
              rcb.bytesRecvdBitmask i }) := by
    unfold markFragReceived
    rw [if_neg]
    rintro ⟨-, hclear⟩
    exact absurd (hclear.symm.trans hready.firstByte) Bool.false_ne_true
  unfold storeSubseqFragment
  rw [hmark]
  dsimp only
  split_ifs
  · refine .inl ⟨_, ?_, rfl⟩
    exact hstored
  · exact .inr ⟨{ hstored.toHolding with }, hstored.rxTimer⟩

theorem collecting_fragment (h : Collecting d q delivered covered s.recvView) (hvalid : d.Valid)
    (hself : q.snode ≠ q.dnode) (hdnode : s.scb.currentDnode = 0) {offset : ℕ}
    (hoffset : offset < d.len) :
    (∃ stored, Collecting d q delivered (fun i ↦ covered i ∨ fragmentCovers d offset i)
      stored.recvView ∧
        step env s (.frame q (fragmentAt d.session d.datagram d.len d.maxPayload offset)) =
          findMissing env stored) ∨
      Collecting d q delivered (fun i ↦ covered i ∨ fragmentCovers d offset i)
        (step env s (.frame q
          (fragmentAt d.session d.datagram d.len d.maxPayload offset))).recvView := by
  have hreads := (subseqFragment_readsAs d.datagram (min d.maxPayload (d.len - offset))
    hvalid.session_lt hvalid.len_le hoffset).1
  have hlength := fragmentAt_length hvalid offset
  have hle : subseqFragNonpayloadLength + min d.maxPayload (d.len - offset) ≤ datagramSizeMax := by
    have hmax := hvalid.maxPayload_le
    simp only [subseqFragNonpayloadLength, datagramSizeMax, fragmentMaxPayloadMax] at hmax ⊢
    omega
  have hopen : s.rcb.sessionId ≠ noSession := by
    rw [show s.rcb.sessionId = d.session from h.sessionId]
    exact Nat.ne_of_lt hvalid.session_lt
  obtain ⟨t, hhandler, hrcb, hflag, hlog⟩ := handler_takes env hself
    (frameMem (fragmentAt d.session d.datagram d.len d.maxPayload offset)) (hlength ▸ hle)
    (.inr h.currentSnode) hdnode fun _ ↦ hopen
  have htaken := h.taken hrcb hflag hlog
  have hfragment : t.rcb.fragment =
      frameMem (fragmentAt d.session d.datagram d.len d.maxPayload offset) :=
    congrArg Rcb.fragment hrcb
  have hfragmentLen : t.rcb.fragmentLen =
      subseqFragNonpayloadLength + min d.maxPayload (d.len - offset) :=
    (congrArg Rcb.fragmentLen hrcb).trans hlength
  have hreceive :
      step env s (.frame q (fragmentAt d.session d.datagram d.len d.maxPayload offset)) =
      receiveSubseqFragment env t := by
    refine hhandler.trans (receive_subseq env ?_ ?_)
    · rw [hfragment]
      exact hreads.commandClass
    · rw [hfragment]
      exact hreads.command
  rw [hreceive]
  exact collecting_receiveSubseqFragment htaken hvalid hoffset hfragment hfragmentLen

end Collecting

/-! ### The first fragment -/

/-- There is no session and nothing is being sent. -/
structure Idle (delivered : List (List UInt8)) (s : Ts) : Prop where
  closed : s.flagInitializeOnce = true ∨ s.rcb.sessionId = noSession
  currentSnode : s.rcb.currentSnode = 0
  currentDnode : s.scb.currentDnode = 0
  deliveries_eq : deliveries s.log = delivered

section Opening

variable {d : Session} {q : TsParam} {delivered : List (List UInt8)} {env : Env} {s : Ts}

theorem Closed.idle (h : Closed delivered s.recvView) (hdnode : s.scb.currentDnode = 0) :
    Idle delivered s :=
  ⟨.inr h.sessionId, h.currentSnode, hdnode, (deliveries_filter s.log).symm.trans h.deliveries_eq⟩

/-- The first fragment of a datagram is stored; when it is the whole datagram, it is handed out. -/
theorem storeFirstFragment_opening (hvalid : d.Valid) (hflag : s.flagInitializeOnce = false)
    (hparam : s.rcb.p = q) (hdelivered : deliveries s.log = delivered) :
    if d.len ≤ d.maxPayload then
      Closed (d.data :: delivered) (storeFirstFragment env
        (frameMem (openingFrame d.session d.datagram d.len d.maxPayload)) (min d.maxPayload d.len)
        s).recvView
    else
      Collecting d q delivered (· < d.maxPayload) (storeFirstFragment env
        (frameMem (openingFrame d.session d.datagram d.len d.maxPayload)) (min d.maxPayload d.len)
        s).recvView := by
  have hreads := firstFragment_readsAs d.datagram (min d.maxPayload d.len) hvalid.session_lt
    hvalid.len_le
  have hsession : sessionIdOf (frameMem (openingFrame d.session d.datagram d.len d.maxPayload) 3) =
    d.session := hreads.session
  have hsize : datagramSizeOf (frameMem (openingFrame d.session d.datagram d.len d.maxPayload)) =
    d.len := hreads.size
  have hpos := hvalid.len_pos
  have hmaxPos := hvalid.maxPayload_pos
  unfold storeFirstFragment
  dsimp only
  generalize hmodify : s.modifyRcb _ = stored
  have hstored : Collecting d q delivered (· < min d.maxPayload d.len) stored.recvView := by
    subst hmodify
    refine ⟨⟨hflag, hsession, hparam, congrArg TsParam.snode hparam, ?_, hsize,
      decide_eq_true (by omega), fun i hi ↦ decide_eq_true hi, ?_,
      (deliveries_filter s.log).trans hdelivered⟩, rfl⟩
    · change Function.update _ _ _ _ = _
      rw [hsession, Function.update_self]
    · intro i hi _
      have hlt : i < min d.maxPayload d.len := of_decide_eq_true hi
      exact (if_pos hlt).trans (firstFragment_payload d.datagram _ hlt)
  rw [hsize]
  by_cases hfits : d.len ≤ d.maxPayload
  · rw [if_pos hfits, if_pos (Nat.min_eq_right hfits)]
    refine Holding.sendFragCompleteCmd
      (s := postEvent .sendFragComplete stored) hstored.toHolding hvalid ?_
    intro i hi
    exact hstored.covers i (by omega)
  · rw [if_neg hfits, if_neg (by omega)]
    exact ⟨{ hstored.toHolding with covers := fun i hi ↦ hstored.covers i (by omega) },
      hstored.rxTimer⟩

theorem idle_opening (env : Env) (h : Idle delivered s) (hvalid : d.Valid)
    (hself : q.snode ≠ q.dnode) : if d.len ≤ d.maxPayload then
      Closed (d.data :: delivered)
        (step env s (.frame q (openingFrame d.session d.datagram d.len d.maxPayload))).recvView
    else
      Collecting d q delivered (· < d.maxPayload)
        (step env s (.frame q
          (openingFrame d.session d.datagram d.len d.maxPayload))).recvView := by
  have hreads := firstFragment_readsAs d.datagram (min d.maxPayload d.len) hvalid.session_lt
    hvalid.len_le
  have hlength := openingFrame_length hvalid
  have hpos := hvalid.len_pos
  have hmaxPos := hvalid.maxPayload_pos
  have hle : firstFragNonpayloadLength + min d.maxPayload d.len ≤ datagramSizeMax := by
    have hmax := hvalid.maxPayload_le
    simp only [firstFragNonpayloadLength, datagramSizeMax, fragmentMaxPayloadMax] at hmax ⊢
    omega
  obtain ⟨t, hhandler, hrcb, hflag, hlog⟩ := handler_takes env hself
    (frameMem (openingFrame d.session d.datagram d.len d.maxPayload)) (hlength ▸ hle)
    (.inl h.currentSnode) h.currentDnode fun hsubseq ↦
      absurd (hreads.command.symm.trans hsubseq) (by decide)
  have hfragment :
      t.rcb.fragment = frameMem (openingFrame d.session d.datagram d.len d.maxPayload) :=
    congrArg Rcb.fragment hrcb
  have hfragmentLen : t.rcb.fragmentLen = firstFragNonpayloadLength + min d.maxPayload d.len :=
    (congrArg Rcb.fragmentLen hrcb).trans hlength
  have hclosed : t.rcb.sessionId = noSession := by
    rw [hrcb]
    unfold receivingRcb initializeOnce
    dsimp only
    split_ifs with hinit
    · rfl
    · exact h.closed.resolve_left hinit
  have hcrc : crcValid (frameMem (openingFrame d.session d.datagram d.len d.maxPayload))
      (firstFragNonpayloadLength + min d.maxPayload d.len) = true := by
    have hvalidCrc := crcValid_addCrc ([commandClassTransportService,
      commandFirstFragment ||| UInt8.ofNat (d.len / 256 % 8), UInt8.ofNat d.len,
      UInt8.ofNat (d.session * 16)] ++ readMem d.datagram 0 (min d.maxPayload d.len))
    rw [← length_firstFragment]
    exact hvalidCrc
  have hreceive : step env s (.frame q (openingFrame d.session d.datagram d.len d.maxPayload)) =
      storeFirstFragment env (frameMem (openingFrame d.session d.datagram d.len d.maxPayload))
        (min d.maxPayload d.len) (abortIfTieBroken t) := by
    refine hhandler.trans ((receive_first env ?_ ?_).trans ?_)
    · rw [hfragment]
      exact hreads.commandClass
    · rw [hfragment]
      exact hreads.command
    · have hsize : datagramSizeOf
        (frameMem (openingFrame d.session d.datagram d.len d.maxPayload)) = d.len := hreads.size
      have hlen := hvalid.len_le
      unfold receiveFirstFragment
      dsimp only
      rw [abortIfTieBroken_rcb, hfragmentLen, hfragment]
      rw [hcrc, hclosed, hsize, if_neg (by omega), if_neg (by decide), if_neg (by simp),
        if_neg (by omega), Nat.add_sub_cancel_left]
  rw [hreceive]
  apply storeFirstFragment_opening hvalid
  · exact (congrArg RecvView.flagInitializeOnce
      (Neutral.abortIfTieBroken (.refl t)).recvView).trans hflag
  · rw [abortIfTieBroken_rcb, hrcb]
    rfl
  · rw [← deliveries_filter]
    refine (congrArg (fun v ↦ deliveries v.log) (Neutral.abortIfTieBroken (.refl t)).recvView).trans
      ?_
    refine (deliveries_filter t.log).trans ?_
    rw [hlog]
    exact h.deliveries_eq

end Opening

/-! ### Feeding a session -/

section Feeding

variable {d : Session} {q : TsParam} {delivered : List (List UInt8)} {covered : ℕ → Prop}
  {env : Env} {s : Ts}

/-- Frames of a session leave the sending half alone. -/
theorem currentDnode_frame {frame : List UInt8} (hframe : d.Emits frame) (hvalid : d.Valid)
    (hdnode : s.scb.currentDnode = 0) : (step env s (.frame q frame)).scb.currentDnode = 0 := by
  have hcommand : frameMem frame 1 &&& 0xF8 = commandFirstFragment ∨
      frameMem frame 1 &&& 0xF8 = commandSubsequentFragment := by
    rcases hframe with rfl | ⟨offset, hoffset, rfl⟩
    · exact .inl (firstFragment_readsAs d.datagram _ hvalid.session_lt hvalid.len_le).command
    · exact .inr (subseqFragment_readsAs d.datagram _ hvalid.session_lt hvalid.len_le
        hoffset).1.command
  exact (congrArg SendView.currentDnode (sendView_fragment env hcommand)).trans hdnode

theorem closed_fragment (h : Closed delivered s.recvView) (hvalid : d.Valid) {offset : ℕ}
    (hoffset : offset < d.len) :
    Closed delivered
      (step env s (.frame q
        (fragmentAt d.session d.datagram d.len d.maxPayload offset))).recvView := by
  have hcommand := (subseqFragment_readsAs d.datagram (min d.maxPayload (d.len - offset))
    hvalid.session_lt hvalid.len_le hoffset).1.command
  have hdrops : (step env s
      (.frame q (fragmentAt d.session d.datagram d.len d.maxPayload offset))).recvView =
      (s.record (.received q _ _)).recvView := handler_drops env h.sessionId hcommand
  rw [hdrops]
  exact ⟨h.initialized, h.sessionId, h.currentSnode, h.deliveries_eq⟩

/-- Without a session only the opening frame of a datagram that fits into it has an effect: each
time it comes the datagram is handed out. -/
theorem closed_run (hvalid : d.Valid) (hself : q.snode ≠ q.dnode) (rest : List (List UInt8))
    (hrest : ∀ frame ∈ rest, d.Emits frame)
    (hfirst : d.maxPayload < d.len →
      openingFrame d.session d.datagram d.len d.maxPayload ∉ rest)
    (h : Closed delivered s.recvView) (hdnode : s.scb.currentDnode = 0) :
    Closed (List.replicate
      (rest.count (openingFrame d.session d.datagram d.len d.maxPayload)) d.data ++
      delivered) (run (step env) s (rest.map (.frame q))).recvView := by
  induction rest generalizing s delivered with
  | nil => exact h
  | cons frame rest ih =>
    have hframe := hrest frame mem_cons_self
    have hrest' : ∀ other ∈ rest, d.Emits other := fun other hother ↦
      hrest other (mem_cons_of_mem _ hother)
    have hfirst' : d.maxPayload < d.len →
        openingFrame d.session d.datagram d.len d.maxPayload ∉ rest := fun hlong hmem ↦
      hfirst hlong (mem_cons_of_mem _ hmem)
    have hdnode' : (step env s (.frame q frame)).scb.currentDnode = 0 :=
      currentDnode_frame hframe hvalid hdnode
    rw [map_cons, run_cons]
    by_cases hopening : frame = openingFrame d.session d.datagram d.len d.maxPayload
    · subst hopening
      have hfits : d.len ≤ d.maxPayload := by
        by_contra hlong
        exact hfirst (Nat.lt_of_not_le hlong) mem_cons_self
      have hagain := idle_opening env (h.idle hdnode) hvalid hself
      rw [if_pos hfits] at hagain
      rw [count_cons_self, replicate_succ', append_assoc, singleton_append]
      exact ih hrest' hfirst' hagain hdnode'
    · obtain ⟨offset, hoffset, rfl⟩ := hframe.resolve_left hopening
      rw [count_cons_of_ne hopening]
      exact ih hrest' hfirst' (closed_fragment h hvalid hoffset) hdnode'

/-- The bytes of the fragments in a list. -/
def coveredBy (d : Session) (frames : List (List UInt8)) (i : ℕ) : Prop :=
  ∃ offset, offset < d.len ∧ fragmentAt d.session d.datagram d.len d.maxPayload offset ∈ frames ∧
    fragmentCovers d offset i

theorem fragmentAt_injective (hvalid : d.Valid) {first second : ℕ} (hfirst : first < d.len)
    (hsecond : second < d.len)
    (heq : fragmentAt d.session d.datagram d.len d.maxPayload first =
      fragmentAt d.session d.datagram d.len d.maxPayload second) : first = second := by
  have hoffset := (subseqFragment_readsAs d.datagram (min d.maxPayload (d.len - first))
    hvalid.session_lt hvalid.len_le hfirst).2
  have hoffset' := (subseqFragment_readsAs d.datagram (min d.maxPayload (d.len - second))
    hvalid.session_lt hvalid.len_le hsecond).2
  unfold fragmentAt at heq
  rw [heq] at hoffset
  exact hoffset.symm.trans hoffset'

theorem Collecting.mono {covered' : ℕ → Prop} {v : RecvView}
    (h : Collecting d q delivered covered v)
    (hsub : ∀ i, covered' i → covered i) : Collecting d q delivered covered' v :=
  ⟨{ h.toHolding with covers := fun i hi ↦ h.covers i (hsub i hi) }, h.rxTimer⟩

/-- Subsequent fragments have no effect without a session. -/
theorem closed_run_fragments (hvalid : d.Valid) (hself : q.snode ≠ q.dnode)
    (rest : List (List UInt8)) (hrest : ∀ frame ∈ rest, d.Emits frame)
    (hfirst : openingFrame d.session d.datagram d.len d.maxPayload ∉ rest)
    (h : Closed delivered s.recvView) (hdnode : s.scb.currentDnode = 0) :
    Closed delivered (run (step env) s (rest.map (.frame q))).recvView := by
  have hclosed := @closed_run d q delivered env s hvalid hself rest hrest (fun _ ↦ hfirst) h hdnode
  rw [count_eq_zero_of_not_mem hfirst] at hclosed
  exact hclosed

/-- Behind the opening frame there are fragments only. -/
theorem fragments_cons {frame : List UInt8} {rest : List (List UInt8)}
    (hrest : ∀ other ∈ frame :: rest, d.Emits other)
    (hfirst : openingFrame d.session d.datagram d.len d.maxPayload ∉ frame :: rest) :
    (∃ offset, offset < d.len ∧ frame = fragmentAt d.session d.datagram d.len d.maxPayload offset) ∧
      (∀ other ∈ rest, d.Emits other) ∧
        openingFrame d.session d.datagram d.len d.maxPayload ∉ rest :=
  ⟨(hrest frame mem_cons_self).resolve_left fun heq ↦ hfirst (heq ▸ mem_cons_self),
    fun other hother ↦ hrest other (mem_cons_of_mem _ hother), fun hmem ↦
      hfirst (mem_cons_of_mem _ hmem)⟩

/-- While the fragments come in, the datagram is handed out or the bytes add up. -/
theorem collecting_run (hvalid : d.Valid) (hself : q.snode ≠ q.dnode)
    (hq : q.rxFlags ≠ receiveStatusTypeBroad) (rest : List (List UInt8))
    (hrest : ∀ frame ∈ rest, d.Emits frame)
    (hfirst : openingFrame d.session d.datagram d.len d.maxPayload ∉ rest)
    (h : Collecting d q delivered covered s.recvView) (hdnode : s.scb.currentDnode = 0) :
    Closed (d.data :: delivered) (run (step env) s (rest.map (.frame q))).recvView ∨
      Collecting d q delivered (fun i ↦ covered i ∨ coveredBy d rest i)
        (run (step env) s (rest.map (.frame q))).recvView := by
  induction rest generalizing s covered with
  | nil =>
    refine .inr (h.mono ?_)
    rintro i (hold | ⟨_, _, hmem, _⟩)
    · exact hold
    · exact absurd hmem not_mem_nil
  | cons frame rest ih =>
    obtain ⟨⟨offset, hoffset, rfl⟩, hrest', hfirst'⟩ := fragments_cons hrest hfirst
    have hdnode' := @currentDnode_frame d q env s _ (.inr ⟨offset, hoffset, rfl⟩) hvalid hdnode
    rw [map_cons, run_cons]
    -- the fragment leaves a session that has its bytes, or completes the datagram
    have hnext : Closed (d.data :: delivered) (step env s
          (.frame q (fragmentAt d.session d.datagram d.len d.maxPayload offset))).recvView ∨
        Collecting d q delivered (fun i ↦ covered i ∨ fragmentCovers d offset i) (step env s
          (.frame q (fragmentAt d.session d.datagram d.len d.maxPayload offset))).recvView := by
      rcases collecting_fragment h hvalid hself hdnode hoffset with ⟨stored, hstored, heq⟩ | hstored
      · rw [heq]
        rcases hstored.findMissing hvalid hq with ⟨hmissing, -⟩ | hclosed
        · exact .inr hmissing
        · exact .inl hclosed
      · exact .inr hstored
    rcases hnext with hclosed | hcollecting
    · exact .inl (closed_run_fragments hvalid hself rest hrest' hfirst' hclosed hdnode')
    · rcases ih hrest' hfirst' hcollecting hdnode' with hclosed | hmore
      · exact .inl hclosed
      · refine .inr (hmore.mono ?_)
        rintro i (hold | ⟨other, hother, hmem, hin⟩)
        · exact .inl (.inl hold)
        · rcases mem_cons.mp hmem with heq | hlater
          · obtain rfl := fragmentAt_injective hvalid hother hoffset heq
            exact .inl (.inr hin)
          · exact .inr ⟨other, hother, hlater, hin⟩

/-- A broadcast that does not fit into its first fragment is never handed out. -/
theorem broadcast_run (hvalid : d.Valid) (hself : q.snode ≠ q.dnode)
    (hq : q.rxFlags = receiveStatusTypeBroad) (rest : List (List UInt8))
    (hrest : ∀ frame ∈ rest, d.Emits frame)
    (hfirst : openingFrame d.session d.datagram d.len d.maxPayload ∉ rest)
    (h : Collecting d q delivered covered s.recvView) (hdnode : s.scb.currentDnode = 0) :
    Closed delivered (run (step env) s (rest.map (.frame q))).recvView ∨
      ∃ covered, Collecting d q delivered covered
        (run (step env) s (rest.map (.frame q))).recvView := by
  induction rest generalizing s covered with
  | nil => exact .inr ⟨covered, h⟩
  | cons frame rest ih =>
    obtain ⟨⟨offset, hoffset, rfl⟩, hrest', hfirst'⟩ := fragments_cons hrest hfirst
    have hdnode' := @currentDnode_frame d q env s _ (.inr ⟨offset, hoffset, rfl⟩) hvalid hdnode
    rw [map_cons, run_cons]
    rcases collecting_fragment h hvalid hself hdnode hoffset with ⟨stored, hstored, heq⟩ | hstored
    · rcases @Collecting.findMissing_broad _ _ _ _ env _ hstored hq with hcollecting | hclosed
      · rw [← heq] at hcollecting
        exact ih hrest' hfirst' hcollecting hdnode'
      · rw [← heq] at hclosed
        exact .inl (closed_run_fragments hvalid hself rest hrest' hfirst' hclosed hdnode')
    · exact ih hrest' hfirst' hstored hdnode'

/-! ### The last timer -/

theorem closed_rxTimer (h : Closed delivered s.recvView) :
    deliveries (step env s .rxTimer).log = delivered := by
  have hlog : deliveries s.log = delivered := (deliveries_filter s.log).symm.trans h.deliveries_eq
  have hclosed : ¬ s.rcb.sessionId < 16 := by
    rw [show s.rcb.sessionId = noSession from h.sessionId]
    decide
  unfold step
  dsimp only
  split_ifs
  · unfold rxTimerExpired
    dsimp only
    split_ifs
    · exact hlog
    · unfold findMissing
      split_ifs
      · exact hlog
      · obtain ⟨retry, requested, pending, hview, -⟩ := recvView_sendFragReqCmd env
          (postEvent .missingFrag (postEvent .fragRxTimer
            (s.modifyRcb fun rcb ↦ { rcb with rxTimer := false })))
        rw [← deliveries_filter]
        exact (congrArg (fun v ↦ deliveries v.log) hview).trans
          ((deliveries_filter s.log).trans hlog)
      · exact hlog
      · unfold sendFragCompleteCmd
        rw [dif_neg (by exact hclosed)]
        exact hlog
  · exact hlog

theorem collecting_rxTimer (h : Collecting d q delivered covered s.recvView) (hvalid : d.Valid)
    (hq : q.rxFlags ≠ receiveStatusTypeBroad) (hfull : ∀ i, i < d.len → covered i) :
    deliveries (step env s .rxTimer).log = d.data :: delivered := by
  have hmask : ∀ i, i < d.len → s.rcb.bytesRecvdBitmask i = true := fun i hi ↦
    h.covers i (hfull i hi)
  have hexpired : Holding d q delivered covered (postEvent .sendFragComplete (postEvent .fragRxTimer
      (s.modifyRcb fun rcb ↦ { rcb with rxTimer := false }))).recvView := { h.toHolding with }
  have hnone : getNextMissingOffset { s.rcb with rxTimer := false } = 0 := by
    apply getNextMissingOffset_of_full
    intro i hi
    exact hmask i (Nat.lt_of_lt_of_eq hi h.size)
  have hflags : s.rcb.p.rxFlags ≠ receiveStatusTypeBroad := by
    rw [show s.rcb.p = q from h.param]
    exact hq
  have hstep : step env s .rxTimer = sendFragCompleteCmd env (postEvent .sendFragComplete
      (postEvent .fragRxTimer (s.modifyRcb fun rcb ↦ { rcb with rxTimer := false }))) := by
    refine (if_pos h.rxTimer).trans ?_
    unfold rxTimerExpired
    refine (if_neg ?_).trans ?_
    · rintro ⟨-, hmissing⟩
      exact hmissing hnone
    · unfold findMissing
      refine (if_neg ?_).trans (if_neg hflags)
      intro hmissing
      exact hmissing (congrArg (· % 256) hnone)
  rw [hstep, ← deliveries_filter]
  exact (hexpired.sendFragCompleteCmd hvalid hmask).deliveries_eq

theorem broadcast_rxTimer (h : Collecting d q delivered covered s.recvView)
    (hq : q.rxFlags = receiveStatusTypeBroad) :
    deliveries (step env s .rxTimer).log = delivered := by
  have hlog : deliveries s.log = delivered := (deliveries_filter s.log).symm.trans h.deliveries_eq
  have hflags : s.rcb.p.rxFlags = receiveStatusTypeBroad := by
    rw [show s.rcb.p = q from h.param]
    exact hq
  have hstep : step env s .rxTimer = rxTimerExpired env s := if_pos h.rxTimer
  rw [hstep]
  unfold rxTimerExpired
  dsimp only
  split_ifs
  · exact hlog
  · unfold findMissing
    split_ifs with hmissing hbroad hbroad
    · exact hlog
    · exact absurd hflags hbroad
    · exact hlog
    · exact absurd hflags hbroad

end Feeding

/-! ### End to end -/

/-- The opening frame of a session, other frames of it, and then the timer of the receiver. -/
def feed (q : TsParam) (d : Session) (rest : List (List UInt8)) : List Input :=
  .frame q (openingFrame d.session d.datagram d.len d.maxPayload) ::
    (rest.map (.frame q) ++ [.rxTimer])

/-- All regular fragments behind the first are in the list. -/
def Session.AllArrive (d : Session) (rest : List (List UInt8)) : Prop :=
  ∀ offset, 0 < offset → offset < d.len → d.maxPayload ∣ offset →
    fragmentAt d.session d.datagram d.len d.maxPayload offset ∈ rest

/-- The regular fragments cover the datagram. -/
theorem Session.AllArrive.covers {d : Session} {rest : List (List UInt8)} (h : d.AllArrive rest)
    (hvalid : d.Valid) (i : ℕ) (hi : i < d.len) : i < d.maxPayload ∨ coveredBy d rest i := by
  by_cases hfirst : i < d.maxPayload
  · exact .inl hfirst
  · right
    have hdiv := Nat.div_add_mod i d.maxPayload
    have hmod := Nat.mod_lt i hvalid.maxPayload_pos
    refine ⟨d.maxPayload * (i / d.maxPayload), by omega, ?_, ?_⟩
    · exact h _ (by omega) (by omega) (Nat.dvd_mul_right _ _)
    · unfold fragmentCovers
      omega

/-- When all fragments arrive, the datagram is handed out exactly once, unless its only fragment is
repeated or it is a longer broadcast. -/
theorem delivered_once_iff (env : Env) {d : Session} (hvalid : d.Valid) {q : TsParam}
    (hself : q.snode ≠ q.dnode) {s : Ts} (hfresh : Fresh s) (rest : List (List UInt8))
    (hrest : ∀ frame ∈ rest, d.Emits frame)
    (hfirst : d.maxPayload < d.len →
      openingFrame d.session d.datagram d.len d.maxPayload ∉ rest)
    (harrive : d.AllArrive rest) :
    deliveries (run (step env) s (feed q d rest)).log = d.data :: deliveries s.log ↔
      (d.len ≤ d.maxPayload → openingFrame d.session d.datagram d.len d.maxPayload ∉ rest) ∧
        (d.maxPayload < d.len → q.rxFlags ≠ receiveStatusTypeBroad) := by
  have hidle : Idle (deliveries s.log) s :=
    ⟨hfresh.closed, hfresh.currentSnode, hfresh.currentDnode, rfl⟩
  have hopening := idle_opening env hidle hvalid hself
  have hdnode := @currentDnode_frame d q env s _ (.inl rfl) hvalid hfresh.currentDnode
  unfold feed
  rw [run_cons, run_append]
  generalize step env s (.frame q (openingFrame d.session d.datagram d.len d.maxPayload)) =
    opened at *
  generalize deliveries s.log = before at *
  by_cases hfits : d.len ≤ d.maxPayload
  · rw [if_pos hfits] at hopening
    have hclosed := @closed_run d q _ env opened hvalid hself rest hrest hfirst hopening hdnode
    have hend := @closed_rxTimer _ env _ hclosed
    rw [run_cons, run_nil, hend]
    constructor
    · intro honce
      refine ⟨?_, fun hlong ↦ absurd hfits (Nat.not_le.mpr hlong)⟩
      intro _ hmem
      have hlength := congrArg List.length honce
      have hcount := count_pos_iff.mpr hmem
      simp only [length_append, length_replicate, length_cons] at hlength
      omega
    · rintro ⟨hnotRepeated, -⟩
      rw [count_eq_zero_of_not_mem (hnotRepeated hfits)]
      rfl
  · have hlong : d.maxPayload < d.len := Nat.lt_of_not_le hfits
    rw [if_neg hfits] at hopening
    by_cases hq : q.rxFlags = receiveStatusTypeBroad
    · have hnever : deliveries (run (step env) (run (step env) opened (rest.map (.frame q)))
          [.rxTimer]).log = before := by
        rcases @broadcast_run d q _ _ env opened hvalid hself hq rest hrest (hfirst hlong) hopening
          hdnode with hclosed | ⟨covered, hcollecting⟩
        · exact closed_rxTimer hclosed
        · exact broadcast_rxTimer hcollecting hq
      rw [hnever]
      constructor
      · intro honce
        exact absurd (congrArg List.length honce) (by simp)
      · rintro ⟨-, hnotBroad⟩
        exact absurd hq (hnotBroad hlong)
    · have honce : deliveries (run (step env) (run (step env) opened (rest.map (.frame q)))
          [.rxTimer]).log = d.data :: before := by
        rcases @collecting_run d q _ _ env opened hvalid hself hq rest hrest (hfirst hlong) hopening
          hdnode with hclosed | hcollecting
        · exact closed_rxTimer hclosed
        · exact collecting_rxTimer hcollecting hvalid hq (harrive.covers hvalid)
      rw [honce]
      exact ⟨fun _ ↦ ⟨fun hshort ↦ absurd hshort hfits, fun _ ↦ hq⟩, fun _ ↦ rfl⟩

/-- A send session and a receiver for it. -/
structure Transfer where
  senderEnv : Env
  sender : Ts
  p : TsParam
  data : ℕ → UInt8
  len : UInt16
  /-- What happens to the sender after the send has been accepted. -/
  inputs : List Input
  /-- The fragments that the session puts on the air, newest first. -/
  sent : List (List UInt8)
  receiverEnv : Env
  receiver : Ts
  idle : isSending sender = false ∧ isReceiving sender = false
  stopped : sender.rcb.fcTimer = false
  len_pos : 0 < len.toNat
  len_le : len.toNat ≤ datagramSizeMax
  sessionInputs : ∀ input ∈ inputs, sessionInput len.toNat input
  sent_eq : fragmentsSent (run (step senderEnv) sender (.sendData p data len :: inputs)).log =
    sent ++ fragmentsSent sender.log
  fresh : Fresh receiver

def Transfer.session (x : Transfer) : Session := sessionOf x.senderEnv x.p x.data x.len x.sender

/-- The first fragment of a transfer. -/
def Transfer.opening (x : Transfer) : List UInt8 :=
  openingFrame x.session.session x.session.datagram x.session.len x.session.maxPayload

/-- What may happen to the receiver: when it receives a frame, it is one that was sent. -/
def Transfer.Feeds (x : Transfer) : Input → Prop
  | .receive q cmd cmdLength => ∃ frame ∈ x.sent, Input.receive q cmd cmdLength = .frame q frame
  | _ => True

/-- The frames behind the first fragment are frames that were sent, and none of them is lost. A
first fragment is only among them when it is the last fragment too. -/
structure Transfer.Lossless (x : Transfer) (rest : List (List UInt8)) : Prop where
  sent : ∀ frame ∈ rest, frame ∈ x.sent
  opening : x.session.maxPayload < x.session.len → x.opening ∉ rest
  arrive : x.session.AllArrive rest

theorem Transfer.valid (x : Transfer) : x.session.Valid := by
  have hsession := (SessionInv.sendData x.senderEnv x.p x.data x.idle x.stopped x.len_pos).2
  refine ⟨hsession, x.len_pos, x.len_le, ?_, ?_⟩
  · change 0 < fragmentMaxPayloadFor x.p.txFlags
    unfold fragmentMaxPayloadFor
    split_ifs <;> decide
  · change fragmentMaxPayloadFor x.p.txFlags ≤ _
    unfold fragmentMaxPayloadFor
    split_ifs <;> decide

theorem Transfer.emits (x : Transfer) {frame : List UInt8} (hframe : frame ∈ x.sent) :
    x.session.Emits frame := by
  obtain ⟨new, hnew, hemits⟩ := sent_emits x.senderEnv x.sender x.p x.data x.len x.idle x.stopped
    x.len_pos x.len_le x.inputs x.sessionInputs
  have hsame : x.sent = new := append_cancel_right (x.sent_eq.symm.trans hnew)
  exact hemits frame (hsame ▸ hframe)

/-- Every datagram that the receiver of a transfer hands out is the one that was sent; and when no
fragment is lost, it is handed out exactly once if and only if its only fragment is not repeated and
it is not a longer broadcast. -/
theorem transfer_end_to_end (x : Transfer) :
    (∀ inputs : List Input, (∀ input ∈ inputs, x.Feeds input) →
      ∃ count, deliveries (run (step x.receiverEnv) x.receiver inputs).log =
        List.replicate count x.session.data ++ deliveries x.receiver.log) ∧
    ∀ (q : TsParam) (rest : List (List UInt8)), q.snode ≠ q.dnode → x.Lossless rest →
      (deliveries (run (step x.receiverEnv) x.receiver (feed q x.session rest)).log =
          x.session.data :: deliveries x.receiver.log ↔
        (x.session.len ≤ x.session.maxPayload → x.opening ∉ rest) ∧
          (x.session.maxPayload < x.session.len → q.rxFlags ≠ receiveStatusTypeBroad)) := by
  constructor
  · intro inputs hinputs
    apply only_datagram_delivered x.receiverEnv x.valid x.fresh
    intro input hinput
    have hfeeds := hinputs input hinput
    cases input with
    | receive q cmd cmdLength =>
      obtain ⟨frame, hframe, heq⟩ := hfeeds
      obtain ⟨-, hcmd, hlength⟩ := Input.receive.inj heq
      exact ⟨frame, x.emits hframe, hcmd, hlength⟩
    | _ => trivial
  · intro q rest hself hlossless
    exact delivered_once_iff x.receiverEnv x.valid hself x.fresh rest
      (fun frame hframe ↦ x.emits (hlossless.sent frame hframe)) hlossless.opening hlossless.arrive

theorem Fresh.powerUp (myNodeId : UInt8) : Fresh (Ts.powerUp myNodeId) :=
  ⟨.inl rfl, rfl, rfl, fun _ ↦ rfl⟩

/-- Sixty bytes from node 1 to node 5, in two fragments. -/
def sixtyBytes : Transfer where
  senderEnv := takesAll
  sender := Ts.powerUp 1
  p := { zeroParam with snode := 1, dnode := 5 }
  data := UInt8.ofNat
  len := 60
  inputs := [.rawCallback 0 transmitCompleteOk, .timerBtwn2Frags]
  sent := [fragmentAt 1 UInt8.ofNat 60 39 39, openingFrame 1 UInt8.ofNat 60 39]
  receiverEnv := takesAll
  receiver := Ts.powerUp 5
  idle := ⟨rfl, rfl⟩
  stopped := rfl
  len_pos := by decide
  len_le := by decide
  sessionInputs := by
    intro input hinput
    simp only [mem_cons, not_mem_nil, or_false] at hinput
    rcases hinput with rfl | rfl <;> trivial
  sent_eq := by decide +kernel
  fresh := .powerUp 5

/-- Ten bytes from node 1 to node 5, whose only fragment is sent again when the timer expires. -/
def tenBytesTwice : Transfer where
  senderEnv := takesAll
  sender := Ts.powerUp 1
  p := { zeroParam with snode := 1, dnode := 5 }
  data := UInt8.ofNat
  len := 10
  inputs := [.fcTimer]
  sent := [openingFrame 1 UInt8.ofNat 10 39, openingFrame 1 UInt8.ofNat 10 39]
  receiverEnv := takesAll
  receiver := Ts.powerUp 5
  idle := ⟨rfl, rfl⟩
  stopped := rfl
  len_pos := by decide
  len_le := by decide
  sessionInputs := by
    intro input hinput
    simp only [mem_cons, not_mem_nil, or_false] at hinput
    subst hinput
    trivial
  sent_eq := by decide +kernel
  fresh := .powerUp 5

/-- The parameters with which node 5 receives singlecasts of node 1. -/
def fromOneToFive : TsParam := { zeroParam with snode := 1, dnode := 5 }

theorem sixtyBytes_lossless : sixtyBytes.Lossless [fragmentAt 1 UInt8.ofNat 60 39 39] := by
  refine ⟨?_, ?_, ?_⟩
  · intro frame hframe
    rw [mem_singleton.mp hframe]
    exact mem_cons_self
  · intro _
    decide +kernel
  · intro offset hpos hlt hregular
    have hsession : sixtyBytes.session.session = 1 := by decide +kernel
    have hmax : sixtyBytes.session.maxPayload = 39 := by decide
    have hlen : sixtyBytes.session.len = 60 := by decide
    rw [hmax] at hregular
    rw [hlen] at hlt
    obtain ⟨k, rfl⟩ := hregular
    obtain rfl : k = 1 := by omega
    rw [hsession, hmax, hlen]
    exact mem_singleton_self _

theorem transfer_end_to_end_sixtyBytes :
    deliveries (run (step takesAll) (Ts.powerUp 5) (feed fromOneToFive sixtyBytes.session
      [fragmentAt 1 UInt8.ofNat 60 39 39])).log = [sixtyBytes.session.data] :=
  ((transfer_end_to_end sixtyBytes).2 fromOneToFive [fragmentAt 1 UInt8.ofNat 60 39 39] (by decide)
    sixtyBytes_lossless).mpr ⟨fun hshort ↦ absurd hshort (by decide), fun _ ↦ by decide⟩

/-- The receiver of a single fragment that is sent twice hands the datagram out twice. -/
theorem delivered_twice_tenBytes :
    ¬ ∀ (x : Transfer) (q : TsParam) (rest : List (List UInt8)), q.snode ≠ q.dnode →
      x.Lossless rest →
      deliveries (run (step x.receiverEnv) x.receiver (feed q x.session rest)).log =
        x.session.data :: deliveries x.receiver.log := by
  intro hclaim
  have hlossless : tenBytesTwice.Lossless [openingFrame 1 UInt8.ofNat 10 39] := by
    have hmax : tenBytesTwice.session.maxPayload = 39 := by decide
    have hlen : tenBytesTwice.session.len = 10 := by decide
    refine ⟨?_, ?_, ?_⟩
    · intro frame hframe
      rw [mem_singleton.mp hframe]
      exact mem_cons_self
    · rw [hmax, hlen]
      omega
    · intro offset hpos hlt hregular
      have hle := Nat.le_of_dvd hpos hregular
      omega
  have honce := hclaim tenBytesTwice fromOneToFive _ (by decide) hlossless
  exact absurd (congrArg List.length honce) (by decide +kernel)

end ZipGateway.TransportService
