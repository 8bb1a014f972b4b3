import ZipGateway.SecurityS2.Transitions

/-!
# What happens to a SPAN entry

`ZipGateway.SecurityS2.Footprint` says which entries the functions of the module change. Here it is
said how: a sequence number, a nonce that is drawn from the generator, a nonce that is stored in its
place, a new seed, and the changes of the state that go with them (`SpanChange`). Searching for an
entry, registering a nonce, sending a nonce report and decrypting a frame are made of such changes
(`decryptMsg_changes`), and leave the peer and the plaintext that wait to be sent alone.
-/

set_option autoImplicit false

namespace ZipGateway.SecurityS2

open Lib

/-! ### Changes -/

/-- The generator after a nonce was drawn. -/
def advance (aes : BlockCipher) (rng : Drbg) : Drbg := (nextNonceGenerate aes rng).2

/-- What is done to a SPAN entry, other than by `S2_encrypt_and_send` and by a nonce report. -/
inductive SpanChange (aes : BlockCipher) (span : Span) : Span → Prop
  | seq (rxSeq txSeq : UInt8) : SpanChange aes span { span with rxSeq := rxSeq, txSeq := txSeq }
  | advance : SpanChange aes span { span with rng := advance aes span.rng }
  | remoteNonce (nonce : Block) : span.Used →
      SpanChange aes span { span.setRNonce nonce with state := .sosRemoteNonce }
  | instantiate (rng : Drbg) : span.state = .sosLocalNonce →
      SpanChange aes span { span with state := .instantiate, rng := rng }
  | reseed (classId : UInt8) (rng : Drbg) : span.state ≠ .negotiated →
      SpanChange aes span { span with classId := classId, rng := rng }
  | negotiate : span.state = .negotiated ∨ span.state = .instantiate →
      SpanChange aes span { span with state := .negotiated }
  | invalidate : span.Used → SpanChange aes span { span with state := .sos }

/-- The act is no request and no frame for `S2_send_frame`. -/
def Act.isNote : Act → Bool
  | .requested _ _ => false
  | .sentFrame _ _ _ => false
  | _ => true

/-- The act says that a call returned, or how a transmission ended. -/
def Act.isAnswer : Act → Bool
  | .accepted | .sendDone _ => true
  | _ => false

/-- The keys, the home identifier, the SPAN table, the peer, the plaintext, the state of the
machine, the retries and the log stay. -/
structure Quiet (s t : S2) : Prop where
  sg : t.sg = s.sg
  myHomeId : t.myHomeId = s.myHomeId
  spanTable : t.spanTable = s.spanTable
  peer : t.peer = s.peer
  buf : t.buf = s.buf
  fsm : t.fsm = s.fsm
  retry : t.retry = s.retry
  log : t.log = s.log

/-- What the functions for SPAN entries are made of. -/
inductive Change (aes : BlockCipher) (s : S2) : S2 → Prop
  | quiet {t : S2} : Quiet s t → Change aes s t
  | allocate (env : Env) (con : Connection) : lookupSpan con s = none →
      Change aes s (allocateSpan env con s).1
  | span (i : Fin spanTableSize) {new : Span} : SpanChange aes (s.spanTable i) new →
      Change aes s (s.modifySpan i fun _ ↦ new)
  | localNonce (con : Connection) (i : Fin spanTableSize) (nonce : Block) (frame : List UInt8) :
      (s.spanTable i).Used → (s.spanTable i).lnode = con.lNode → (s.spanTable i).rnode = con.rNode →
      frame.getD 3 0 &&& sosBitMask ≠ 0 →
      Change aes s ((s.modifySpan i fun span ↦
        { span.setRNonce nonce with state := .sosLocalNonce, txSeq := span.txSeq + 1 }).logged
          (.sentNoCb con frame))
  | note (act : Act) : act.isNote = true → act.isAnswer = false → Change aes s (s.logged act)
  | mosWait (con : Connection) : s.fsm = .idle ∨ s.fsm = .isMosWaitReply →
      Change aes s { setPeer con [] s with fsm := .isMosWaitReply }

/-- Several changes. -/
def Changes (aes : BlockCipher) : S2 → S2 → Prop := Relation.ReflTransGen (Change aes)

section Changes

variable {env : Env} {s t u : S2}

theorem Changes.refl (aes : BlockCipher) (s : S2) : Changes aes s s := Relation.ReflTransGen.refl

variable {aes : BlockCipher}

theorem Changes.trans (hfirst : Changes aes s t) (hsecond : Changes aes t u) : Changes aes s u :=
  Relation.ReflTransGen.trans hfirst hsecond

theorem Change.changes (hchange : Change aes s t) : Changes aes s t :=
  Relation.ReflTransGen.single hchange

theorem Quiet.changes (hquiet : Quiet s t) : Changes aes s t :=
  (Change.quiet hquiet).changes

/-- What every change keeps, several changes keep. -/
theorem Changes.invariant {property : S2 → Prop}
    (hchange : ∀ s t, Change aes s t → property s → property t) (hchanges : Changes aes s t)
    (hs : property s) : property t := by
  induction hchanges with
  | refl => exact hs
  | tail _ hlast ih => exact hchange _ _ hlast ih

/-- No change touches the keys and the home identifier. -/
theorem Changes.keys (hchanges : Changes aes s t) : t.sg = s.sg ∧ t.myHomeId = s.myHomeId := by
  have hkept : ∀ u v, Change aes u v → u.sg = s.sg ∧ u.myHomeId = s.myHomeId →
      v.sg = s.sg ∧ v.myHomeId = s.myHomeId := by
    intro u v hchange hu
    cases hchange with
    | quiet hquiet => exact ⟨hquiet.sg.trans hu.1, hquiet.myHomeId.trans hu.2⟩
    | _ => exact hu
  exact hchanges.invariant hkept ⟨rfl, rfl⟩

theorem SpanChange.used {span new : Span} (hchange : SpanChange aes span new)
    (hused : span.Used) : new.Used := by
  cases hchange with
  | seq | advance | reseed => exact hused
  | remoteNonce | instantiate | negotiate | invalidate => simp [Span.Used]

/-- The entry that is taken for a connection. -/
theorem allocateSpan_eq (env : Env) (con : Connection) (s : S2) :
    (allocateSpan env con s).1 = (random env s).2.modifySpan (allocateSpan env con s).2 fun span ↦
      { span with
        state := .noSeq
        lnode := con.lNode
        rnode := con.rNode
        txSeq := (random env s).1.get 1 } :=
  rfl

/-- An entry that is in use stays in use. -/
theorem Changes.used (hchanges : Changes aes s t) (i : Fin spanTableSize)
    (hused : (s.spanTable i).Used) : (t.spanTable i).Used := by
  -- An entry is changed alone, so that it is the one of interest or another one.
  have hmodify : ∀ (j : Fin spanTableSize) (change : Span → Span) (w : S2), (w.spanTable i).Used →
      ((w.spanTable j).Used → (change (w.spanTable j)).Used) →
      ((w.modifySpan j change).spanTable i).Used := by
    intro j change w hw hkeeps
    by_cases hj : i = j
    · subst hj
      rw [modifySpan_same]
      exact hkeeps hw
    · rw [modifySpan_other w change hj]
      exact hw
  have hkept : ∀ u v, Change aes u v → (u.spanTable i).Used → (v.spanTable i).Used := by
    intro u v hchange hu
    cases hchange with
    | quiet hquiet =>
      rw [hquiet.spanTable]
      exact hu
    | allocate env con _ =>
      rw [allocateSpan_eq]
      refine hmodify _ _ (random env u).2 hu fun _ ↦ ?_
      simp [Span.Used]
    | span j hspan => exact hmodify _ _ _ hu hspan.used
    | localNonce con j nonce frame =>
      refine hmodify j (fun span ↦
        { span.setRNonce nonce with state := .sosLocalNonce, txSeq := span.txSeq + 1 }) u hu fun _ ↦
          ?_
      simp [Span.Used]
    | note act _ _ => exact hu
    | mosWait con _ => exact hu
  exact hchanges.invariant hkept hused

/-- One entry is changed. -/
theorem modifySpan_changes (i : Fin spanTableSize) (change : Span → Span)
    (hchange : SpanChange aes (s.spanTable i) (change (s.spanTable i))) :
    Changes aes s (s.modifySpan i change) :=
  (Change.span i hchange).changes

theorem modifySpan_modifySpan (s : S2) (i : Fin spanTableSize) (first second : Span → Span) :
    (s.modifySpan i first).modifySpan i second = s.modifySpan i fun span ↦ second (first span) := by
  simp [S2.modifySpan]

end Changes

/-! ### Entries and nonces -/

section Functions

variable (env : Env) (aes : BlockCipher) (conn : Connection) (span : Option (Fin spanTableSize))
  (msg : List UInt8) (i : Fin spanTableSize) (mpan : Option (Fin mpanTableSize)) (s : S2)

theorem random_quiet : Quiet s (random env s).2 := ⟨rfl, rfl, rfl, rfl, rfl, rfl, rfl, rfl⟩

theorem findSpanByNode_changes (con : Connection) (s : S2) :
    Changes aes s (findSpanByNode env con s).1 := by
  unfold findSpanByNode
  split
  · exact Changes.refl aes s
  case h_2 hnone => exact (Change.allocate env con hnone).changes

theorem verifySeq_changes (peer : Connection) (seq : UInt8) (s : S2) :
    Changes aes s (verifySeq env peer seq s).1 := by
  have hfind := findSpanByNode_changes env aes peer s
  unfold verifySeq
  generalize findSpanByNode env peer s = found at hfind ⊢
  obtain ⟨t, i⟩ := found
  dsimp only at hfind ⊢
  split_ifs
  · exact hfind.trans (modifySpan_changes i (fun span ↦ { span with rxSeq := seq }) (.seq seq _))
  · exact hfind

theorem setNodeMos_quiet (node : UInt16) (s : S2) : Quiet s (setNodeMos node s) := by
  obtain ⟨mosList, heq⟩ := setNodeMos_eq s node
  rw [heq]
  exact ⟨rfl, rfl, rfl, rfl, rfl, rfl, rfl, rfl⟩

theorem registerNonce_changes (buf : List UInt8) (s : S2) :
    Changes aes s (registerNonce env buf s).1 := by
  have hverify := verifySeq_changes env aes s.peer (buf.getD 2 0) s
  unfold registerNonce
  generalize verifySeq env s.peer (buf.getD 2 0) s = verified at hverify ⊢
  obtain ⟨t, fresh⟩ := verified
  dsimp only at hverify ⊢
  have hfind := findSpanByNode_changes env aes t.peer t
  cases fresh with
  | false => exact hverify
  | true =>
    rw [if_pos rfl]
    have hused := findSpanByNode_used env t.peer t
    generalize findSpanByNode env t.peer t = found at hfind hused ⊢
    obtain ⟨u, i⟩ := found
    dsimp only at hfind hused ⊢
    have hnonce : Changes aes u (if 20 ≤ buf.length ∧ buf.getD 3 0 &&& sosBitMask ≠ 0 then
        u.modifySpan i fun span ↦
          { span.setRNonce (padBlock (buf.drop 4)) with state := .sosRemoteNonce }
        else u) := by
      split_ifs
      · exact modifySpan_changes _ _ (.remoteNonce _ hused)
      · exact Changes.refl aes u
    generalize (if 20 ≤ buf.length ∧ buf.getD 3 0 &&& sosBitMask ≠ 0 then
        u.modifySpan i fun span ↦
          { span.setRNonce (padBlock (buf.drop 4)) with state := .sosRemoteNonce }
        else u) = stored at hnonce ⊢
    refine hverify.trans (hfind.trans (hnonce.trans ?_))
    split_ifs
    · exact (setNodeMos_quiet _ _).changes
    · exact Changes.refl aes stored

theorem sendNonceReport_changes (con : Connection) (flags : UInt8)
    (s : S2) : Changes aes s (sendNonceReport env con flags s) := by
  have hfind := findSpanByNode_changes env aes con s
  have hspec := findSpanByNode_spec env con s
  unfold sendNonceReport
  generalize findSpanByNode env con s = found at hfind hspec ⊢
  obtain ⟨t, i⟩ := found
  dsimp only at hfind hspec ⊢
  refine hfind.trans ?_
  by_cases hsos : flags &&& sosBitMask ≠ 0
  · rw [if_pos hsos]
    dsimp only
    rw [modifySpan_modifySpan]
    refine (random_quiet env t).changes.trans (Change.changes ?_)
    exact .localNonce con i _ _ hspec.1 hspec.2.1 hspec.2.2 hsos
  · rw [if_neg hsos]
    dsimp only
    refine (modifySpan_changes i (fun span ↦ { span with txSeq := span.txSeq + 1 }) ?_).trans
      (Change.note _ rfl rfl).changes
    exact .seq _ _

/-! ### Received frames -/

theorem findMpanByGroupId_quiet (ownerId : UInt16) (groupId : UInt8) (s : S2) :
    Quiet s (findMpanByGroupId env ownerId groupId s).1 := by
  unfold findMpanByGroupId
  split
  · exact ⟨rfl, rfl, rfl, rfl, rfl, rfl, rfl, rfl⟩
  · exact ⟨rfl, rfl, rfl, rfl, rfl, rfl, rfl, rfl⟩

theorem modifyMpan_quiet (i : Fin mpanTableSize) (change : Mpan → Mpan) :
    Quiet s (s.modifyMpan i change) :=
  ⟨rfl, rfl, rfl, rfl, rfl, rfl, rfl, rfl⟩

theorem nextMpanState_quiet (i : Fin mpanTableSize) : Quiet s (nextMpanState i s) :=
  ⟨rfl, rfl, rfl, rfl, rfl, rfl, rfl, rfl⟩

theorem decryptSpan_changes : Changes aes s (decryptSpan env conn msg s).1 := by
  have hverify := verifySeq_changes env aes conn (msg.getD 2 0) s
  unfold decryptSpan
  split_ifs
  · exact Changes.refl aes s
  · generalize verifySeq env conn (msg.getD 2 0) s = verified at hverify ⊢
    obtain ⟨t, fresh⟩ := verified
    dsimp only at hverify ⊢
    split_ifs
    · exact hverify.trans (findSpanByNode_changes env aes conn t)
    · exact hverify

/-- The entry of a singlecast is the one of the connection. -/
theorem decryptSpan_spec
    (i : Fin spanTableSize) (hspan : (decryptSpan env conn msg s).2 = some (some i)) :
    ((decryptSpan env conn msg s).1.spanTable i).Used ∧
      ((decryptSpan env conn msg s).1.spanTable i).lnode = conn.lNode ∧
      ((decryptSpan env conn msg s).1.spanTable i).rnode = conn.rNode := by
  unfold decryptSpan at hspan ⊢
  split_ifs at hspan ⊢
  · cases hspan
  · generalize verifySeq env conn (msg.getD 2 0) s = verified at hspan ⊢
    obtain ⟨t, fresh⟩ := verified
    cases fresh with
    | false => cases hspan
    | true =>
      obtain rfl : (findSpanByNode env conn t).2 = i := Option.some.inj (Option.some.inj hspan)
      exact findSpanByNode_spec env conn t

theorem clearExtension_changes (ext : List UInt8) (state : ClearState) :
    Changes env.aes state.s (clearExtension env conn span ext state).1.s := by
  unfold clearExtension
  dsimp only
  split_ifs
  · split
    · exact Changes.refl _ _
    case h_2 i =>
      split_ifs with hlocal
      · exact (Change.span i (.instantiate _ hlocal.1)).changes
      · exact Changes.refl _ _
  · exact Changes.refl _ _
  · exact Changes.refl _ _
  · exact (findMpanByGroupId_quiet env _ _ _).changes
  · exact Changes.refl _ _
  · exact (setNodeMos_quiet _ _).changes
  · exact Changes.refl _ _

theorem parseClear_changes (state : ClearState) :
    Changes env.aes state.s (parseClear env conn span msg state).1.s := by
  unfold parseClear
  split_ifs
  · refine parseExtensions_invariant (fun st : ClearState ↦ Changes env.aes state.s st.s)
      (fun ext st hst ↦ ?_) _ _ _ (Changes.refl _ _)
    exact hst.trans (clearExtension_changes env conn span ext st)
  · exact Changes.refl _ _

theorem encryptedExtension_quiet (classId : UInt8) (ext : List UInt8)
    (state : S2 × Connection) : Quiet state.1 (encryptedExtension env classId ext state).1.1 := by
  unfold encryptedExtension
  dsimp only
  split_ifs
  · exact ⟨rfl, rfl, rfl, rfl, rfl, rfl, rfl, rfl⟩
  · have hfind := findMpanByGroupId_quiet env state.2.rNode (ext.getD 2 0) state.1
    exact ⟨hfind.sg, hfind.myHomeId, hfind.spanTable, hfind.peer, hfind.buf, hfind.fsm,
      hfind.retry, hfind.log⟩
  · exact ⟨rfl, rfl, rfl, rfl, rfl, rfl, rfl, rfl⟩

theorem parseEncrypted_changes (classId : UInt8)
    (msg plain : List UInt8) (state : S2 × Connection) :
    Changes aes state.1 (parseEncrypted env classId msg plain state).1.1 := by
  unfold parseEncrypted
  split_ifs
  · refine parseExtensions_invariant (fun st : S2 × Connection ↦ Changes aes state.1 st.1)
      (fun ext st hst ↦ ?_) _ _ _ (Changes.refl _ _)
    exact hst.trans (encryptedExtension_quiet env classId ext st).changes
  · exact Changes.refl _ _

theorem authFail_changes (hused : ∀ i, span = some i → (s.spanTable i).Used) :
    Changes aes s (authFail env conn span mpan s) := by
  have hmpan : Changes aes s (invalidateMpan mpan s) := by
    unfold invalidateMpan
    split
    · exact (modifyMpan_quiet s _ _).changes
    · exact Changes.refl _ _
  have hspan :
      Changes aes (invalidateMpan mpan s) (invalidateSpan span (invalidateMpan mpan s)) := by
    unfold invalidateSpan
    split
    case h_1 i => exact modifySpan_changes _ _ (.invalidate (hmpan.used i (hused i rfl)))
    · exact Changes.refl _ _
  unfold authFail
  dsimp only
  split_ifs
  · exact hmpan.trans hspan
  · exact (hmpan.trans hspan).trans (sendNonceReport_changes env aes conn _ _)
  · exact (hmpan.trans hspan).trans (sendNonceReport_changes env aes conn _ _)

/-- A group that is out of sync is noticed by an idle machine only. -/
theorem gotEncMsgMos_changes (con : Connection) (s : S2) :
    Changes aes s (fsmPostEvent env (.gotEncMsgMos con) s) := by
  have hnote : Changes aes s (setTimeout 10 s) := (Change.note (.setTimeout 10) rfl rfl).changes
  have hwait : s.fsm = .idle ∨ s.fsm = .isMosWaitReply →
      Changes aes s { setPeer con [] (setTimeout 10 s) with fsm := .isMosWaitReply } := fun hidle ↦
    hnote.trans (Change.mosWait (s := setTimeout 10 s) con hidle).changes
  unfold fsmPostEvent
  split
  case h_1 hidle => exact hwait (Or.inl hidle)
  case h_2 hwaits => exact hwait (Or.inr hwaits)
  · exact Changes.refl _ _
  · exact Changes.refl _ _
  · exact Changes.refl _ _
  · exact Changes.refl _ _

theorem followUp_changes : Changes aes s (followUp env conn mpan s).1 := by
  unfold followUp
  split
  · exact Changes.refl _ _
  case h_2 j =>
    dsimp only
    split_ifs
    · have hquiet : Quiet s { s with mpan := some j } := ⟨rfl, rfl, rfl, rfl, rfl, rfl, rfl, rfl⟩
      exact hquiet.changes.trans (gotEncMsgMos_changes env aes _ _)
    · exact (nextMpanState_quiet s j).changes

theorem attemptClass_changes (aad ciphertext : List UInt8) (s : S2) :
    Changes env.aes s (attemptClass env i aad ciphertext s).1 ∧
      ((attemptClass env i aad ciphertext s).1.spanTable i).state = (s.spanTable i).state := by
  unfold attemptClass
  dsimp only
  split_ifs
  · refine ⟨modifySpan_changes i (fun span ↦ { span with
      rng := (nextNonceGenerate env.aes (s.spanTable i).rng).2 }) .advance, ?_⟩
    dsimp only
    rw [modifySpan_same]
  · exact ⟨Changes.refl _ _, rfl⟩

theorem nextClass_changes
    (nonces : Option (Block × Block)) {s : S2} (hstate : (s.spanTable i).state ≠ .negotiated) :
    Changes aes s (nextClass env i nonces s) ∧
      ((nextClass env i nonces s).spanTable i).state = (s.spanTable i).state := by
  unfold nextClass
  dsimp only
  refine ⟨(modifySpan_changes i _ (.reseed _ _ hstate)).trans (Change.note _ rfl rfl).changes, ?_⟩
  simp [S2.logged]

theorem tryClasses_changes (nonces : Option (Block × Block))
    (aad ciphertext : List UInt8) (turns : ℕ) {s : S2}
    (hstate : (s.spanTable i).state = .negotiated ∨ (s.spanTable i).state = .instantiate) :
    Changes env.aes s (tryClasses env conn i mpan nonces aad ciphertext turns s).1 := by
  induction turns generalizing s with
  | zero => exact Changes.refl _ _
  | succ turns ih =>
    obtain ⟨hattempt, hsame⟩ := attemptClass_changes env i aad ciphertext s
    rw [tryClasses]
    generalize attemptClass env i aad ciphertext s = attempt at hattempt hsame ⊢
    obtain ⟨t, plain⟩ := attempt
    dsimp only at hattempt hsame ⊢
    split_ifs with hplain hstop
    · refine hattempt.trans ((modifySpan_changes i (fun span ↦ { span with state := .negotiated })
        (.negotiate (hsame ▸ hstate))).trans ?_)
      exact followUp_changes env env.aes _ mpan _
    · exact hattempt
    · obtain ⟨hnext, hsame'⟩ := nextClass_changes env env.aes i nonces (not_or.mp hstop).2
      exact hattempt.trans (hnext.trans (ih (by rw [hsame', hsame]; exact hstate)))

theorem decryptBody_changes (hdrLen : ℕ) (state : ClearState)
    (hstate : ∀ i, span = some i → (state.s.spanTable i).state = .negotiated ∨
      (state.s.spanTable i).state = .instantiate) :
    Changes env.aes state.s (decryptBody env conn span msg hdrLen state).1 := by
  unfold decryptBody
  cases span with
  | some i =>
    dsimp only
    have hquiet :
        Quiet state.s (if state.s.fsm = .idle ∧ (state.s.spanTable i).state = .instantiate then
        { state.s with workbuf := writeBuf state.s.workbuf 0 (msg.drop hdrLen) }
        else state.s) := by
      split_ifs
      · exact ⟨rfl, rfl, rfl, rfl, rfl, rfl, rfl, rfl⟩
      · exact ⟨rfl, rfl, rfl, rfl, rfl, rfl, rfl, rfl⟩
    generalize (if state.s.fsm = .idle ∧ (state.s.spanTable i).state = .instantiate then
        { state.s with workbuf := writeBuf state.s.workbuf 0 (msg.drop hdrLen) }
        else state.s) = stored at hquiet ⊢
    refine hquiet.changes.trans (tryClasses_changes env _ i _ _ _ _ _ ?_)
    rw [hquiet.spanTable]
    exact hstate i rfl
  | none =>
    cases state.mpan with
    | none => exact Changes.refl _ _
    | some j => exact (nextMpanState_quiet state.s j).changes

theorem decryptParsed_changes (hdrLen : ℕ) (state : ClearState)
    (hused : ∀ i, span = some i → (state.s.spanTable i).Used) :
    Changes env.aes state.s (decryptParsed env conn span msg hdrLen state).1 := by
  unfold decryptParsed
  cases hdecryptable : decryptable conn span state with
  | none => exact authFail_changes env env.aes conn span state.mpan state.s hused
  | some aadConn =>
    have hstate : ∀ i, span = some i → (state.s.spanTable i).state = .negotiated ∨
        (state.s.spanTable i).state = .instantiate := by
      rintro i rfl
      by_contra hneither
      simp [decryptable, hneither] at hdecryptable
    have hbody := decryptBody_changes env aadConn span msg hdrLen state hstate
    dsimp only
    generalize decryptBody env aadConn span msg hdrLen state = body at hbody ⊢
    obtain ⟨t, con, plain⟩ := body
    dsimp only at hbody ⊢
    unfold finishDecrypt
    split_ifs
    · exact hbody.trans (authFail_changes env env.aes con span state.mpan t
        fun i hspan ↦ hbody.used i (hused i hspan))
    · have hencrypted := parseEncrypted_changes env env.aes (spanClass span t) msg plain (t, con)
      generalize parseEncrypted env (spanClass span t) msg plain (t, con) = parsed at hencrypted ⊢
      obtain ⟨⟨u, con'⟩, _ | hdrLen'⟩ := parsed
      · exact hbody.trans hencrypted
      · exact hbody.trans hencrypted

/-- `S2_decrypt_msg` is made of changes. -/
theorem decryptMsg_changes : Changes env.aes s (decryptMsg env conn msg s).1 := by
  unfold decryptMsg
  split_ifs
  · exact Changes.refl _ _
  · have hspan := decryptSpan_changes env env.aes conn msg s
    have hspec := decryptSpan_spec env conn msg s
    generalize decryptSpan env conn msg s = started at hspan hspec ⊢
    obtain ⟨t, _ | span⟩ := started
    · exact hspan
    · have hclear := parseClear_changes env conn span msg ⟨t, none, none⟩
      dsimp only at hspan hclear ⊢
      generalize parseClear env conn span msg ⟨t, none, none⟩ = parsed at hclear ⊢
      obtain ⟨state, _ | hdrLen⟩ := parsed
      · exact hspan.trans hclear
      · refine hspan.trans (hclear.trans (decryptParsed_changes env conn span msg hdrLen state ?_))
        exact fun i hi ↦ hclear.used i (hspec i (congrArg some hi)).1

end Functions

/-! ### Transmissions -/

/-- The property is kept by the changes, where a transmission ends or goes on, and when a nonce is
asked for. -/
structure ChangeClosed (env : Env) (property : S2 → Prop) : Prop
    extends ReportClosed env property where
  change : ∀ {s t : S2}, Change env.aes s t → property s → property t
  nonceGet : ∀ (s : S2) (seq : UInt8), property s →
    property (s.logged (.sentFrame s.peer [commandClassSecurity2, security2NonceGet, seq] none))

namespace ChangeClosed

variable {env : Env} {property : S2 → Prop} (hclosed : ChangeClosed env property) {s t : S2}
include hclosed

theorem changes (hchanges : Changes env.aes s t) (hs : property s) : property t :=
  hchanges.invariant (fun _ _ ↦ hclosed.change) hs

/-- A frame that the radio takes changes a sequence number, and one that it does not take ends the
transmission. -/
theorem sendRaw {frame : List UInt8} {encryption : Option Encryption}
    (hlogged : property (s.logged (.sentFrame s.peer frame encryption))) :
    property (sendRaw env frame encryption s) := by
  unfold SecurityS2.sendRaw
  dsimp only
  split_ifs
  · have hfound := hclosed.changes (findSpanByNode_changes env env.aes s.peer _) hlogged
    exact hclosed.changes (modifySpan_changes _
      (fun span ↦ { span with txSeq := span.txSeq + 1 }) (.seq _ _)) hfound
  · exact hclosed.fsmSendDone _ _ hlogged

theorem sendNonceGet (hs : property s) : property (sendNonceGet env s) := by
  have hfound := hclosed.changes (findSpanByNode_changes env env.aes s.peer s) hs
  unfold SecurityS2.sendNonceGet
  generalize findSpanByNode env s.peer s = found at hfound ⊢
  obtain ⟨t, i⟩ := found
  exact hclosed.sendRaw (hclosed.nonceGet t _ hfound)

theorem encryptAndSendMulti (current : Fin mpanTableSize) (hs : property s) :
    property (encryptAndSendMulti env current s) := by
  have hquiet : Quiet s (encapsulateMulti env current s).1 :=
    ⟨rfl, rfl, rfl, rfl, rfl, rfl, rfl, rfl⟩
  have hbuilt := hclosed.change (.quiet hquiet) hs
  unfold SecurityS2.encryptAndSendMulti
  generalize encapsulateMulti env current s = built at hbuilt ⊢
  obtain ⟨t, frame⟩ := built
  dsimp only at hbuilt ⊢
  split_ifs
  · exact hclosed.change (.note (.sentMulti t.peer frame) rfl rfl) hbuilt
  · exact hclosed.fsmSendDone _ _ hbuilt

end ChangeClosed

section Start

variable (env : Env) (con : Connection) (buf : List UInt8) (s : S2)

/-- A singlecast starts with an encapsulation, or with a question for a nonce. -/
theorem fsmIdle_sendMsg : ∃ t, Changes env.aes s t ∧ t.fsm = s.fsm ∧
    (fsmIdle env (.sendMsg con buf) s =
        sendMsgStateEnter env { setPeer con buf t with retry := 2 } ∨
      fsmIdle env (.sendMsg con buf) s = setTimeout sendDataTimeout (sendNonceGet env
        (setPeer con buf { t with fsm := .waitNonceRaport, retry := 2 }))) := by
  have hspan : Changes env.aes s (spanOk env con s).1 := findSpanByNode_changes env env.aes con s
  have hfsm := (quietClosed_fsm s.fsm).spanOk env con (s := s) rfl
  unfold fsmIdle
  dsimp only
  generalize spanOk env con s = checked at hspan hfsm ⊢
  obtain ⟨t, ok⟩ := checked
  refine ⟨t, hspan, hfsm, ?_⟩
  dsimp only
  split_ifs
  · exact .inl rfl
  · exact .inr rfl

theorem fsmIdle_sendMulticast : ∃ t i, Quiet (setPeer con buf s) t ∧
    fsmIdle env (.sendMulticast con buf) s =
      encryptAndSendMulti env i { t with mpan := some i, fsm := .sendingMsg } :=
  ⟨_, _, findMpanByGroupId_quiet env 0 con.rNode.toUInt8 (setPeer con buf s), rfl⟩

/-- The context in which `send_msg_state_enter` encrypts. -/
def sendingState : S2 :=
  if s.peer.txOptions &&& txVerifyDelivery ≠ 0 then
    setTimeout sendDataTimeout { s with fsm := .verifyingDelivery }
  else { s with fsm := .sendingMsg }

/-- `ctxt->retry--`. -/
def S2.decremented (s : S2) : S2 := { s with retry := s.retry - 1 }

theorem sendMsgStateEnter_eq :
    sendMsgStateEnter env s = (encryptAndSend env (sendingState s)).decremented :=
  rfl

end Start

/-! ### Calls -/

/-- The property is kept by the functions that send a plaintext as well, and by what a change leaves
alone. -/
structure SendClosed (env : Env) (property : S2 → Prop) : Prop
    extends ChangeClosed env property where
  setPeer : ∀ (s : S2) (con : Connection) (buf : List UInt8), s.Idles → property s →
    property (setPeer con buf s)
  mosTimeout : ∀ s : S2, s.fsm = .isMosWaitReply → property s →
    property { s with mpan := none, fsm := .idle }
  empty : ∀ s : S2, s.fsm = .verifyingDelivery → property s → property { s with buf := [] }
  again : ∀ s : S2, s.SendsAgain → property s → property (sendMsgStateEnter env s)
  emptyAgain : ∀ s : S2, s.fsm = .verifyingDelivery → 0 < s.retry → property s →
    property (sendMsgStateEnter env { s with
      buf := []
      peer := { s.peer with txOptions := s.peer.txOptions &&& ~~~txVerifyDelivery } })
  send : ∀ (s : S2) (con : Connection) (buf : Option (List UInt8)) (kind : SendKind), property s →
    property (sendDataAllCast env con buf kind s).1
  /-- It does not depend on the keys. -/
  keys : ∀ (s : S2) (sg : UInt8 → SecGroup) (loadedKeys : BitVec 8), property s →
    property { s with sg := sg, loadedKeys := loadedKeys }

namespace SendClosed

variable {env : Env} {property : S2 → Prop} (hclosed : SendClosed env property) {s : S2}
include hclosed

theorem callClosed : CallClosed env property where
  toReportClosed := hclosed.toReportClosed
  stopTimeout s hs := hclosed.change (.note .stopTimeout rfl rfl) hs
  verifySeq s peer seq hs := hclosed.changes (verifySeq_changes env env.aes peer seq s) hs
  sendNonceReport s con flags hs :=
    hclosed.changes (sendNonceReport_changes env env.aes con flags s) hs
  registerNonce s buf hs := hclosed.changes (registerNonce_changes env env.aes buf s) hs
  setPeer := hclosed.setPeer
  mosWait s con hidle hs := hclosed.change (.mosWait con hidle) hs
  mosTimeout := hclosed.mosTimeout
  empty := hclosed.empty
  again := hclosed.again
  emptyAgain := hclosed.emptyAgain
  send s con buf kind _ hs := hclosed.send s con buf kind hs
  keys := hclosed.keys
  freeMpan s ownerId groupId hs := by
    unfold freeMpan
    split
    · exact hs
    · exact hclosed.change (.quiet (modifyMpan_quiet s _ _)) hs
  initPrng s _ hs :=
    hclosed.change (s := s) (.quiet ⟨rfl, rfl, rfl, rfl, rfl, rfl, rfl, rfl⟩) hs

/-- One call keeps the property, if a command for the inclusion machine in the plaintext buffer
does. -/
theorem enter (call : Call) (hstores : ∀ t plain, call.Stores env s t plain → property t →
    property { t with buf := plain }) (hs : property s) : property (enter env s call) :=
  hclosed.callClosed.enter (fun con buf _ ↦ hclosed.send s con buf .sendMulticast hs)
    (fun src buf _ _ _ ↦ hclosed.changes (decryptMsg_changes env src buf s) hs) hstores hs

end SendClosed

end ZipGateway.SecurityS2
