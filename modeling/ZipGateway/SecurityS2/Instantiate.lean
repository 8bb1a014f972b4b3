import ZipGateway.SecurityS2.Transitions

/-!
# The state `SPAN_INSTANTIATE` does not outlive a call

While `S2_decrypt_msg` reads the clear extensions of a frame, an accepted nonce of the sender puts
the SPAN entry into the state `SPAN_INSTANTIATE`, and stores the nonces from which the class loop
seeds the generator again. The entry leaves the state when a class authenticates the frame, and at
`auth_fail`. It does not leave it at `parse_fail`: when an extension behind the nonce cannot be
parsed, the entry stays as it is, and the next frame of the node seeds the generator from two
variables that nothing has been written to (`instantiate_survives_tornFrame`).

`TornFrame` says of a received frame that it is of this kind. `parseShape` is what decides it about
the frame: the loop over its clear extensions without a context. In a run without such frames, no
entry is left in the state between two calls (`instantiate_transient`).
-/

set_option autoImplicit false

namespace ZipGateway.SecurityS2

open Lib

/-! ### Frames -/

/-- One clear extension without a context: has a nonce of the sender been seen. -/
def shapeExtension (ext : List UInt8) (seen : Bool) : Bool × Bool :=
  if extType ext = typeSn then (seen || extLen ext == 18, true)
  else if extType ext = typeMgrp then (seen, extLen ext == 3)
  else if extType ext = typeMos then (seen, extLen ext == 2)
  else (seen, !extCritical ext)

/-- The clear extensions of a message without a context: has a nonce of the sender been seen, and
the length of the header unless they cannot be parsed. -/
def parseShape (msg : List UInt8) : Bool × Option ℕ :=
  if msg.getD 3 0 &&& extensionBitMask ≠ 0 then
    parseExtensions (msg.length - authTagLen) shapeExtension msg.length 4 (msg.drop 4) false
  else (false, some 4)

/-- The SPAN entry of a connection waits for a nonce of the sender, and a sequence number is new to
it. -/
def awaitsNonce (s : S2) (src : Connection) (seq : UInt8) : Bool :=
  match lookupSpan src s with
  | none => false
  | some i =>
    (s.spanTable i).state == .sosLocalNonce && seqDuplWindowSize ≤ (s.spanTable i).rxSeq - seq

/-- A received singlecast encapsulation whose clear extensions cannot be parsed behind a nonce of
the sender that the SPAN entry waits for. -/
def TornFrame (s : S2) (src : Connection) (buf : List UInt8) : Prop :=
  buf.getD 0 0 = commandClassSecurity2 ∧ buf.getD 1 0 = security2MessageEncapsulation ∧
    src.isMulticast = false ∧ 4 + authTagLen ≤ buf.length ∧ parseShape buf = (true, none) ∧
    awaitsNonce s src (buf.getD 2 0) = true

/-- The call does not bring a torn frame. -/
def BringsWholeFrame (s : S2) : Call → Prop
  | .applicationCommandHandler src buf => ¬ TornFrame s src buf
  | _ => True

/-- A frame whose clear extensions can be parsed, or carry no nonce of the sender before they
cannot, is not torn. -/
theorem bringsWholeFrame_of_shape (s : S2) (src : Connection) {buf : List UInt8}
    (hshape : parseShape buf ≠ (true, none)) :
    BringsWholeFrame s (.applicationCommandHandler src buf) :=
  fun htorn ↦ hshape htorn.2.2.2.2.1

/-! ### The invariant -/

/-- No SPAN entry but possibly one is in the state `SPAN_INSTANTIATE`, and no generator has been
seeded from variables that were not written to. -/
structure SettledExcept (exempt : Option (Fin spanTableSize)) (s : S2) : Prop where
  state : ∀ i, some i ≠ exempt → (s.spanTable i).state ≠ .instantiate
  log : Act.reseeded false ∉ s.log

/-- No SPAN entry is in the state `SPAN_INSTANTIATE`, and no generator has been seeded from
variables that were not written to. -/
abbrev Settled (s : S2) : Prop := SettledExcept none s

section Settled

variable {exempt : Option (Fin spanTableSize)} {s t : S2}

theorem SettledExcept.congr (hsettled : SettledExcept exempt s) (hspan : t.spanTable = s.spanTable)
    (hlog : t.log = s.log) : SettledExcept exempt t :=
  ⟨fun i hi ↦ by rw [hspan]; exact hsettled.state i hi, by rw [hlog]; exact hsettled.log⟩

theorem Settled.except (hsettled : Settled s) (exempt : Option (Fin spanTableSize)) :
    SettledExcept exempt s :=
  ⟨fun i _ ↦ hsettled.state i (by simp), hsettled.log⟩

/-- An entry that gets another state. -/
theorem SettledExcept.modifySpan (hsettled : SettledExcept exempt s) (i : Fin spanTableSize)
    (change : Span → Span)
    (hstate : some i ≠ exempt → (change (s.spanTable i)).state ≠ .instantiate) :
    SettledExcept exempt (s.modifySpan i change) := by
  refine ⟨fun k hk ↦ ?_, hsettled.log⟩
  by_cases hki : k = i
  · subst hki
    rw [modifySpan_same]
    exact hstate hk
  · rw [modifySpan_other s change hki]
    exact hsettled.state k hk

/-- The exempt entry leaves the state. -/
theorem SettledExcept.settle {i : Fin spanTableSize} (hsettled : SettledExcept (some i) s)
    (change : Span → Span) (hstate : (change (s.spanTable i)).state ≠ .instantiate) :
    Settled (s.modifySpan i change) := by
  refine ⟨fun k _ ↦ ?_, hsettled.log⟩
  by_cases hki : k = i
  · subst hki
    rw [modifySpan_same]
    exact hstate
  · rw [modifySpan_other s change hki]
    exact hsettled.state k (by simpa using hki)

/-- The elementary changes keep the invariant. -/
theorem quietClosed_settled : QuietClosed Settled where
  frame hspan _ _ _ hlog hs := hs.congr hspan hlog
  allocateSpan env con s _ hs := by
    unfold allocateSpan
    dsimp only
    exact SettledExcept.modifySpan (s := (random env s).2) (hs.congr rfl rfl) _ _ (by simp)
  span s i change hmoves hs := by
    refine hs.modifySpan i change fun hi ↦ ?_
    rcases hmoves.state with hsame | ⟨_, _, hnew⟩
    · rw [hsame]
      exact hs.state i hi
    · exact hnew
  mpan _ _ _ _ hs := hs.congr rfl rfl

theorem transmitClosed_settled {env : Env}
    (hhook : ∀ s hook, Settled s → Settled (env.hook s hook)) : TransmitClosed env Settled where
  toQuietClosed := quietClosed_settled
  machine _ _ hs := hs.congr rfl rfl
  logged s act hact hs := by
    refine ⟨hs.state, ?_⟩
    simp only [S2.logged, List.mem_cons, not_or]
    exact ⟨fun heq ↦ hact false heq.symm, hs.log⟩
  keys _ _ _ hs := hs.congr rfl rfl
  hook := hhook

theorem SettledExcept.findMpanByGroupId (hsettled : SettledExcept exempt s) (env : Env)
    (ownerId : UInt16) (groupId : UInt8) :
    SettledExcept exempt (findMpanByGroupId env ownerId groupId s).1 :=
  hsettled.congr (findMpanByGroupId_spanTable env s ownerId groupId)
    (findMpanByGroupId_log env s ownerId groupId)

theorem SettledExcept.setNodeMos (hsettled : SettledExcept exempt s) (node : UInt16) :
    SettledExcept exempt (setNodeMos node s) := by
  obtain ⟨mosList, heq⟩ := setNodeMos_eq s node
  rw [heq]
  exact hsettled.congr rfl rfl

end Settled

/-! ### Clear extensions -/

/-- What holds while the clear extensions of a singlecast are read. `before` is the state of the
SPAN entry before, and `seen` says whether a nonce of the sender has been seen. -/
structure ReadingClear (i : Fin spanTableSize) (before : SpanState) (state : ClearState)
    (seen : Bool) : Prop where
  settled : SettledExcept (some i) state.s
  entry : (state.s.spanTable i).state = before ∨
    (before = .sosLocalNonce ∧ (state.s.spanTable i).state = .instantiate ∧ seen = true ∧
      state.nonces.isSome = true)

section Clear

variable (env : Env) (conn : Connection)

theorem readingClear_extension {i : Fin spanTableSize} {before : SpanState} (ext : List UInt8)
    (state : ClearState) (seen : Bool) (hreading : ReadingClear i before state seen) :
    ReadingClear i before (clearExtension env conn (some i) ext state).1
        (shapeExtension ext seen).1 ∧
      (clearExtension env conn (some i) ext state).2 = (shapeExtension ext seen).2 := by
  obtain ⟨hsettled, hentry⟩ := hreading
  unfold clearExtension shapeExtension
  dsimp only
  by_cases hsn : extType ext = typeSn
  · rw [if_pos hsn, if_pos hsn]
    by_cases haccepted : (state.s.spanTable i).state = .sosLocalNonce ∧ extLen ext = 18
    · rw [if_pos haccepted]
      refine ⟨⟨?_, Or.inr ⟨?_, ?_, ?_, rfl⟩⟩, rfl⟩
      · dsimp only
        exact hsettled.modifySpan i _ fun hi ↦ absurd rfl hi
      · rcases hentry with hsame | ⟨hbefore, _⟩
        · rw [← hsame, haccepted.1]
        · exact hbefore
      · simp
      · simp [haccepted.2]
    · rw [if_neg haccepted]
      refine ⟨⟨hsettled, hentry.imp_right ?_⟩, rfl⟩
      rintro ⟨hbefore, hstate, hseen, hnonces⟩
      exact ⟨hbefore, hstate, by simp [hseen], hnonces⟩
  · rw [if_neg hsn, if_neg hsn]
    by_cases hmgrp : extType ext = typeMgrp
    · rw [if_pos hmgrp, if_pos hmgrp]
      by_cases hlen : extLen ext = 3
      · rw [if_neg (not_not.mpr hlen)]
        split_ifs
        · exact ⟨⟨hsettled, hentry⟩, by simp [hlen]⟩
        · refine ⟨⟨hsettled.findMpanByGroupId env _ _, ?_⟩, by simp [hlen]⟩
          dsimp only
          rw [findMpanByGroupId_spanTable]
          exact hentry
      · rw [if_pos hlen]
        exact ⟨⟨hsettled, hentry⟩, by simp [hlen]⟩
    · rw [if_neg hmgrp, if_neg hmgrp]
      by_cases hmos : extType ext = typeMos
      · rw [if_pos hmos, if_pos hmos]
        by_cases hlen : extLen ext = 2
        · rw [if_neg (not_not.mpr hlen)]
          refine ⟨⟨hsettled.setNodeMos _, ?_⟩, by simp [hlen]⟩
          obtain ⟨mosList, heq⟩ := setNodeMos_eq state.s conn.rNode
          dsimp only
          rw [heq]
          exact hentry
        · rw [if_pos hlen]
          exact ⟨⟨hsettled, hentry⟩, by simp [hlen]⟩
      · rw [if_neg hmos, if_neg hmos]
        exact ⟨⟨hsettled, hentry⟩, rfl⟩

/-- The clear extensions of a singlecast, compared with their shape. -/
theorem readingClear_parseClear {i : Fin spanTableSize} (msg : List UInt8) {s : S2}
    (hsettled : Settled s) :
    ReadingClear i (s.spanTable i).state (parseClear env conn (some i) msg ⟨s, none, none⟩).1
        (parseShape msg).1 ∧
      (parseClear env conn (some i) msg ⟨s, none, none⟩).2 = (parseShape msg).2 := by
  unfold parseClear parseShape
  split_ifs
  · exact parseExtensions_simulation (ReadingClear i (s.spanTable i).state)
      (readingClear_extension env conn) _ _ _ ⟨hsettled.except _, Or.inl rfl⟩
  · exact ⟨⟨hsettled.except _, Or.inl rfl⟩, rfl⟩

/-- The clear extensions of a multicast leave the SPAN entries alone. -/
theorem settled_parseClear_multicast (msg : List UInt8) {s : S2} (hsettled : Settled s) :
    Settled (parseClear env conn none msg ⟨s, none, none⟩).1.s := by
  unfold parseClear
  split_ifs
  · refine parseExtensions_invariant (fun state : ClearState ↦ Settled state.s)
      (fun ext state hstate ↦ ?_) _ _ _ hsettled
    unfold clearExtension
    dsimp only
    split_ifs
    · exact hstate
    · exact hstate
    · exact hstate
    · exact hstate.findMpanByGroupId env _ _
    · exact hstate
    · exact hstate.setNodeMos _
    · exact hstate
  · exact hsettled

end Clear

/-! ### Decryption -/

/-- What holds in the class loop: the entry is negotiated, or it waits for an authentic frame and
the nonces are there. -/
structure TryingClasses (i : Fin spanTableSize) (nonces : Option (Block × Block)) (s : S2) :
    Prop where
  settled : SettledExcept (some i) s
  entry : (s.spanTable i).state = .negotiated ∨
    (s.spanTable i).state = .instantiate ∧ nonces.isSome = true

section Decrypt

variable {env : Env} (hhook : ∀ s hook, Settled s → Settled (env.hook s hook))

variable (conn : Connection) {i : Fin spanTableSize}

theorem TryingClasses.attemptClass {nonces : Option (Block × Block)}
    {s : S2} (htrying : TryingClasses i nonces s) (aad ciphertext : List UInt8) :
    TryingClasses i nonces (attemptClass env i aad ciphertext s).1 := by
  unfold SecurityS2.attemptClass
  dsimp only
  split_ifs
  · refine ⟨?_, ?_⟩
    · dsimp only
      exact htrying.settled.modifySpan i _ fun hi ↦ absurd rfl hi
    · dsimp only
      rw [modifySpan_same]
      exact htrying.entry
  · exact htrying

/-- The next class is only tried with the nonces of the frame. -/
theorem TryingClasses.nextClass {nonces : Option (Block × Block)} {s : S2}
    (htrying : TryingClasses i nonces s) (hstate : (s.spanTable i).state ≠ .negotiated) :
    TryingClasses i nonces (nextClass env i nonces s) := by
  obtain ⟨hinstantiate, hnonces⟩ := htrying.entry.resolve_left hstate
  unfold SecurityS2.nextClass
  dsimp only
  have hmodified := htrying.settled.modifySpan i (fun span ↦ { span with
    classId := if nSecClass ≤ ((s.spanTable i).classId + 1).toNat then 0
      else (s.spanTable i).classId + 1
    rng := nextNonceInstantiate env.aes (nonces.getD (env.stackNonces s)).1
      (nonces.getD (env.stackNonces s)).2 (s.sg (if nSecClass ≤ ((s.spanTable i).classId + 1).toNat
        then 0 else (s.spanTable i).classId + 1)).nonceKey }) fun hi ↦ absurd rfl hi
  refine ⟨⟨hmodified.state, ?_⟩, Or.inr ⟨?_, hnonces⟩⟩
  · simp only [S2.logged, List.mem_cons, not_or, hnonces]
    exact ⟨by simp, hmodified.log⟩
  · simp [S2.logged, hinstantiate]

include hhook

theorem settled_followUp (mpan : Option (Fin mpanTableSize)) {s : S2}
    (hsettled : Settled s) : Settled (followUp env conn mpan s).1 := by
  have hclosed := transmitClosed_settled hhook
  unfold followUp
  split
  · exact hsettled
  · dsimp only
    split_ifs
    · exact hclosed.callClosed.fsmPostEvent rfl (hsettled.congr rfl rfl)
    · exact hclosed.nextMpanState _ hsettled

/-- The class loop: after a success no entry is left in the state, otherwise at most the one of the
frame. -/
theorem settled_tryClasses (mpan : Option (Fin mpanTableSize)) {nonces : Option (Block × Block)}
    (aad ciphertext : List UInt8) (turns : ℕ) {s : S2} (htrying : TryingClasses i nonces s) :
    SettledExcept (some i) (tryClasses env conn i mpan nonces aad ciphertext turns s).1 ∧
      ((tryClasses env conn i mpan nonces aad ciphertext turns s).2.2 ≠ [] →
        Settled (tryClasses env conn i mpan nonces aad ciphertext turns s).1) := by
  induction turns generalizing s with
  | zero => exact ⟨htrying.settled, fun hplain ↦ absurd rfl hplain⟩
  | succ turns ih =>
    have hattempt : TryingClasses i nonces (SecurityS2.attemptClass env i aad ciphertext s).1 :=
      htrying.attemptClass aad ciphertext
    rw [tryClasses]
    generalize attemptClass env i aad ciphertext s = attempt at hattempt ⊢
    dsimp only
    split_ifs with hplain hstop
    · have hdone := settled_followUp hhook
        { conn with classId := ((attempt.1.modifySpan i fun span ↦
          { span with state := .negotiated }).spanTable i).classId } mpan
        (hattempt.settled.settle (fun span ↦ { span with state := .negotiated }) (by simp))
      exact ⟨hdone.except _, fun _ ↦ hdone⟩
    · exact ⟨hattempt.settled, fun hplain ↦ absurd rfl hplain⟩
    · exact ih (hattempt.nextClass fun hstate ↦ hstop (Or.inr hstate))

/-- `auth_fail` takes the entry of the frame out of the state. -/
theorem settled_authFail {span : Option (Fin spanTableSize)}
    (mpan : Option (Fin mpanTableSize)) {s : S2} (hsettled : SettledExcept span s) :
    Settled (authFail env conn span mpan s) := by
  have hmpan : SettledExcept span (invalidateMpan mpan s) := by
    cases mpan with
    | none => exact hsettled
    | some j => exact hsettled.congr rfl rfl
  have hspan : Settled (invalidateSpan span (invalidateMpan mpan s)) := by
    cases span with
    | none => exact hmpan
    | some i => exact hmpan.settle (fun span ↦ { span with state := .sos }) (by simp)
  unfold authFail
  dsimp only
  generalize invalidateSpan span (invalidateMpan mpan s) = invalid at hspan ⊢
  by_cases hmulticast : conn.isMulticast
  · rw [if_pos hmulticast]
    exact hspan
  · rw [if_neg hmulticast]
    exact (transmitClosed_settled hhook).sendNonceReport conn _ hspan

theorem settled_finishDecrypt {span : Option (Fin spanTableSize)}
    (mpan : Option (Fin mpanTableSize)) (msg plain : List UInt8) {s : S2}
    (hsettled : SettledExcept span s) (hdone : plain ≠ [] → Settled s) :
    Settled (finishDecrypt env conn span mpan msg plain s).1 := by
  unfold finishDecrypt
  split_ifs with hplain
  · exact settled_authFail hhook conn mpan hsettled
  · have hencrypted : Settled (parseEncrypted env (spanClass span s) msg plain (s, conn)).1.1 := by
      unfold parseEncrypted
      split_ifs
      · refine parseExtensions_invariant (fun state : S2 × Connection ↦ Settled state.1)
          (fun ext state hstate ↦ ?_) _ _ _ (hdone hplain)
        unfold encryptedExtension
        dsimp only
        split_ifs
        · exact hstate
        · exact (hstate.findMpanByGroupId env _ _).congr rfl rfl
        · exact hstate
      · exact hdone hplain
    generalize parseEncrypted env (spanClass span s) msg plain (s, conn) = parsed at hencrypted ⊢
    obtain ⟨⟨t, con⟩, _ | hdrLen⟩ := parsed
    · exact hencrypted
    · exact hencrypted

/-- Behind the clear extensions of a singlecast, every way leads out of the state. -/
theorem settled_decryptParsed (msg : List UInt8)
    (hdrLen : ℕ) {before : SpanState} {state : ClearState} {seen : Bool}
    (hreading : ReadingClear i before state seen) (hbefore : before ≠ .instantiate) :
    Settled (decryptParsed env conn (some i) msg hdrLen state).1 := by
  unfold decryptParsed decryptable
  dsimp only
  by_cases hstate : (state.s.spanTable i).state = .negotiated ∨
      (state.s.spanTable i).state = .instantiate
  · rw [if_pos hstate]
    dsimp only
    have htrying : TryingClasses i state.nonces state.s := by
      refine ⟨hreading.settled, hstate.imp_right fun hinstantiate ↦ ⟨hinstantiate, ?_⟩⟩
      rcases hreading.entry with hsame | ⟨_, _, _, hnonces⟩
      · exact absurd (hsame.symm.trans hinstantiate) hbefore
      · exact hnonces
    unfold decryptBody
    dsimp only
    generalize makeAad state.s.myHomeId conn.rNode conn.lNode (msg.take hdrLen) msg.length = aad
    have hwork : TryingClasses i state.nonces
        (if state.s.fsm = .idle ∧ (state.s.spanTable i).state = .instantiate then
          { state.s with workbuf := writeBuf state.s.workbuf 0 (msg.drop hdrLen) }
        else state.s) := by
      split_ifs
      · exact ⟨htrying.settled.congr rfl rfl, htrying.entry⟩
      · exact htrying
    generalize (if state.s.fsm = .idle ∧ (state.s.spanTable i).state = .instantiate then
          { state.s with workbuf := writeBuf state.s.workbuf 0 (msg.drop hdrLen) }
        else state.s) = work at hwork ⊢
    have hloop := settled_tryClasses hhook conn state.mpan aad (msg.drop hdrLen) nSecClass hwork
    generalize tryClasses env conn i state.mpan state.nonces aad (msg.drop hdrLen) nSecClass work
      = tried at hloop ⊢
    refine settled_finishDecrypt hhook _ _ _ _ hloop.1 fun hplain ↦ hloop.2 fun hempty ↦ ?_
    simp [hempty] at hplain
  · rw [if_neg hstate]
    exact settled_authFail hhook conn state.mpan hreading.settled

theorem settled_decryptParsed_multicast (msg : List UInt8) (hdrLen : ℕ)
    {state : ClearState} (hsettled : Settled state.s) :
    Settled (decryptParsed env conn none msg hdrLen state).1 := by
  unfold decryptParsed
  split
  · exact settled_authFail hhook conn state.mpan hsettled
  · rename_i aadConn _
    have hbody : Settled (decryptBody env aadConn none msg hdrLen state).1 := by
      unfold decryptBody
      dsimp only
      split
      · exact hsettled.congr rfl rfl
      · exact hsettled
    exact settled_finishDecrypt hhook _ _ _ _ hbody fun _ ↦ hbody

end Decrypt

/-! ### Received frames -/

/-- A frame is only taken for an entry that waits for a nonce if the entry did so before. -/
theorem decryptSpan_awaits {env : Env} {conn : Connection} {msg : List UInt8} {s t : S2}
    {i : Fin spanTableSize} (hstarted : decryptSpan env conn msg s = (t, some (some i)))
    (hstate : (t.spanTable i).state = .sosLocalNonce) :
    conn.isMulticast = false ∧ awaitsNonce s conn (msg.getD 2 0) = true := by
  cases hsingle : conn.isMulticast with
  | true => simp [decryptSpan, hsingle] at hstarted
  | false =>
    refine ⟨rfl, ?_⟩
    cases hlookup : lookupSpan conn s with
    | none =>
      obtain ⟨new, k, heq, hnew⟩ := decryptSpan_new env msg hsingle hlookup
      rw [heq] at hstarted
      obtain ⟨rfl, rfl⟩ : new = t ∧ k = i := by simpa using hstarted
      rw [hnew] at hstate
      contradiction
    | some k =>
      rw [decryptSpan_found env msg hsingle hlookup] at hstarted
      split_ifs at hstarted with hfresh
      · obtain ⟨rfl, rfl⟩ : (s.modifySpan k fun span ↦ { span with rxSeq := msg.getD 2 0 }) = t ∧
            k = i := by simpa using hstarted
        rw [modifySpan_same] at hstate
        have hwaits : (s.spanTable k).state = .sosLocalNonce := hstate
        simpa [awaitsNonce, hlookup, hwaits] using hfresh
      · simp at hstarted

section Handle

variable {env : Env} (hhook : ∀ s hook, Settled s → Settled (env.hook s hook))
include hhook

theorem settled_decryptMsg (conn : Connection) (msg : List UInt8) {s : S2} (hsettled : Settled s)
    (hwhole : ¬ (conn.isMulticast = false ∧ 4 + authTagLen ≤ msg.length ∧
      parseShape msg = (true, none) ∧ awaitsNonce s conn (msg.getD 2 0) = true)) :
    Settled (decryptMsg env conn msg s).1 := by
  have hclosed := transmitClosed_settled hhook
  unfold decryptMsg
  by_cases hlen : msg.length < 4 + authTagLen
  · rw [if_pos hlen]
    exact hsettled
  · rw [if_neg hlen]
    have hspan : Settled (decryptSpan env conn msg s).1 := by
      unfold decryptSpan
      dsimp only
      split_ifs
      · exact hsettled
      · exact hclosed.findSpanByNode env conn (hclosed.verifySeq env conn _ hsettled)
      · exact hclosed.verifySeq env conn _ hsettled
    obtain ⟨⟨t, span⟩, hstarted⟩ : ∃ started, decryptSpan env conn msg s = started := ⟨_, rfl⟩
    rw [hstarted] at hspan ⊢
    obtain _ | _ | i := span
    · exact hspan
    · have hclear := settled_parseClear_multicast env conn msg hspan
      dsimp only
      generalize parseClear env conn none msg ⟨t, none, none⟩ = parsed at hclear ⊢
      obtain ⟨state, _ | hdrLen⟩ := parsed
      · exact hclear
      · exact settled_decryptParsed_multicast hhook conn msg hdrLen hclear
    · have hbefore : (t.spanTable i).state ≠ .instantiate := hspan.state i (by simp)
      obtain ⟨hreading, hheader⟩ := readingClear_parseClear env conn msg (i := i) hspan
      dsimp only
      generalize parseClear env conn (some i) msg ⟨t, none, none⟩ = parsed at hreading hheader ⊢
      obtain ⟨state, _ | hdrLen⟩ := parsed
      · -- the list cannot be parsed: then no nonce has been accepted, or the frame is torn
        refine ⟨fun k _ ↦ ?_, hreading.settled.log⟩
        by_cases hk : k = i
        · subst hk
          rcases hreading.entry with hsame | ⟨hawaits, _, hseen, _⟩
          · rw [hsame]
            exact hbefore
          · exfalso
            have hfound := decryptSpan_awaits hstarted hawaits
            exact hwhole ⟨hfound.1, Nat.not_lt.mp hlen, Prod.ext hseen hheader.symm, hfound.2⟩
        · exact hreading.settled.state k (by simpa using hk)
      · exact settled_decryptParsed hhook conn msg hdrLen hreading hbefore

end Handle

/-! ### Calls and runs -/

theorem settled_enter (env : Env) (hhook : ∀ s hook, Settled s → Settled (env.hook s hook)) (s : S2)
    (call : Call) (hwhole : BringsWholeFrame s call) (hsettled : Settled s) :
    Settled (enter env s call) := by
  refine (transmitClosed_settled hhook).enter call ?_ ?_ hsettled
  · intro con bytes _
    have hpeer : Settled (setPeer con bytes s) := hsettled.congr rfl rfl
    exact hpeer.findMpanByGroupId env _ _
  · rintro src buf rfl hclass hcommand
    refine settled_decryptMsg hhook src buf hsettled fun htorn ↦ hwhole ?_
    exact ⟨hclass, hcommand, htorn⟩

/-- In every run from `S2_init_ctx` that brings no torn frame, no SPAN entry is in the state
`SPAN_INSTANTIATE` between two calls, and `S2_decrypt_msg` has never seeded a generator from nonces
that it had not stored while it read the frame. -/
theorem instantiate_transient (env : Env) (hreacts : env.Reacts BringsWholeFrame) (home : UInt32)
    (keystore : Fin 5 → Option Block) (drbg : Drbg) (calls : List Call)
    (hwhole : AllSteps (enter env) BringsWholeFrame (initCtx env home keystore drbg) calls) :
    let s := run (enter env) (initCtx env home keystore drbg) calls
    (∀ i, (s.spanTable i).state ≠ .instantiate) ∧ Act.reseeded false ∉ s.log := by
  intro s
  have hstart : Settled (initCtx env home keystore drbg) := by
    obtain ⟨sg, loadedKeys, heq⟩ := initCtx_eq env home keystore drbg
    rw [heq]
    exact ⟨fun _ _ ↦ by simp [emptyCtx], by simp [emptyCtx]⟩
  have hsettled : Settled s := run_invariant_of_reacts settled_enter hreacts hstart hwhole
  exact ⟨fun i ↦ hsettled.state i (by simp), hsettled.log⟩

/-- Node 2 asks node 1 for a nonce. -/
def sampleNonceGet : Call :=
  .applicationCommandHandler sampleConnection [commandClassSecurity2, security2NonceGet, 5]

/-- Node 2 sends node 1 an encapsulation with the given extensions and nine more bytes. -/
def sampleEncapsulation (seq flags : UInt8) (extensions : List UInt8) : Call :=
  .applicationCommandHandler sampleConnection
    ([commandClassSecurity2, security2MessageEncapsulation, seq, flags] ++ extensions ++
      List.replicate 9 0)

/-- A nonce is asked for and arrives. -/
def sampleNonceExchange : List Call :=
  [sampleNonceGet, sampleEncapsulation 6 1 ([18, 0x41] ++ List.replicate 16 7)]

/-- When a nonce is asked for and arrives, the classes are tried with the nonces of the frame, and
the entry does not keep its state. -/
theorem instantiate_transient_nonceExchange :
    Act.reseeded true ∈ (run (enter sampleEnv) (initCtx sampleEnv 0 (fun _ ↦ none) Drbg.zero)
        sampleNonceExchange).log ∧
      (∀ i, ((run (enter sampleEnv) (initCtx sampleEnv 0 (fun _ ↦ none) Drbg.zero)
        sampleNonceExchange).spanTable i).state ≠ .instantiate) ∧
      Act.reseeded false ∉ (run (enter sampleEnv) (initCtx sampleEnv 0 (fun _ ↦ none) Drbg.zero)
        sampleNonceExchange).log := by
  have hwhole : AllSteps (enter sampleEnv) BringsWholeFrame
      (initCtx sampleEnv 0 (fun _ ↦ none) Drbg.zero) sampleNonceExchange := by
    simp only [sampleNonceExchange, allSteps_cons, allSteps_nil, and_true]
    exact ⟨bringsWholeFrame_of_shape _ _ (by decide +kernel),
      bringsWholeFrame_of_shape _ _ (by decide +kernel)⟩
  refine ⟨by decide +kernel, ?_⟩
  exact instantiate_transient sampleEnv (sampleEnv_reacts _) 0 (fun _ ↦ none) Drbg.zero
    sampleNonceExchange hwhole

/-- An extension that cannot be parsed behind the nonce of the sender leaves the entry in the state
`SPAN_INSTANTIATE`, and the next frame of the node, which carries no nonce, seeds the generator from
variables that were not written to. -/
theorem instantiate_survives_tornFrame :
    (¬ ∀ (env : Env), env.Reacts (fun _ _ ↦ True) → ∀ (home : UInt32)
        (keystore : Fin 5 → Option Block) (drbg : Drbg) (calls : List Call) (i : Fin spanTableSize),
        ((run (enter env) (initCtx env home keystore drbg) calls).spanTable i).state
          ≠ .instantiate) ∧
      ¬ ∀ (env : Env), env.Reacts (fun _ _ ↦ True) → ∀ (home : UInt32)
        (keystore : Fin 5 → Option Block) (drbg : Drbg) (calls : List Call),
        Act.reseeded false ∉ (run (enter env) (initCtx env home keystore drbg) calls).log := by
  constructor
  · intro hclaim
    refine hclaim sampleEnv (sampleEnv_reacts _) 0 (fun _ ↦ none) Drbg.zero
      [sampleNonceGet,
        sampleEncapsulation 6 1 ([18, 0xC1] ++ List.replicate 16 7 ++ [2, 0x45])] 0 ?_
    decide +kernel
  · intro hclaim
    refine hclaim sampleEnv (sampleEnv_reacts _) 0 (fun _ ↦ none) Drbg.zero
      [sampleNonceGet,
        sampleEncapsulation 6 1 ([18, 0xC1] ++ List.replicate 16 7 ++ [2, 0x45]),
        sampleEncapsulation 7 0 []] ?_
    decide +kernel

end ZipGateway.SecurityS2
