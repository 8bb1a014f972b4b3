import ZipGateway.SecurityS2.Changes

/-!
# What is encrypted is what was asked for

`S2_send_data` leaves the plaintext in `ctxt->buf` until it is encrypted, which may be when a nonce
report arrives, and again when the peer asks for it. Between two calls the machine waits with a
plaintext in the states `WAIT_NONCE_RAPORT` and `VERIFYING_DELIVERY`; as long as it does,
`ctxt->buf` and `ctxt->peer` are those of the call, or the plaintext is empty (`PlainInv`).

The command handler uses `ctxt->buf` for the commands that it hands to the inclusion machine, too.
It looks at the state of the machine before it does so for a command that was not encrypted,
`KEX_FAIL` excepted, and does not look for an encrypted one. `Undisturbed` excludes what then goes
wrong.
-/

set_option autoImplicit false

namespace ZipGateway.SecurityS2

open Lib List

/-! ### Requests -/

/-- The machine waits with a plaintext that it may have to encrypt. -/
def S2.Waits (s : S2) : Prop := s.fsm = .waitNonceRaport ∨ s.fsm = .verifyingDelivery

/-- The last call that was accepted, from the newest act on. -/
def lastRequest : List Act → Option (Connection × List UInt8)
  | [] => none
  | .requested con buf :: _ => some (con, buf)
  | _ :: earlier => lastRequest earlier

/-- The plaintext is the one of the call or is empty, and the peer and the class are those of the
call. -/
structure ForRequest (request : Connection × List UInt8) (peer : Connection) (plain : List UInt8) :
    Prop where
  lNode : peer.lNode = request.1.lNode
  rNode : peer.rNode = request.1.rNode
  classId : peer.classId = request.1.classId
  plain : plain = request.2 ∨ plain = []

/-- The peer and the plaintext are for the last call that was accepted. -/
def Ordered (log : List Act) (peer : Connection) (plain : List UInt8) : Prop :=
  ∃ request, lastRequest log = some request ∧ ForRequest request peer plain

theorem S2.Idles.not_waits {s : S2} (hidle : s.Idles) : ¬ s.Waits := by
  rcases hidle with hfsm | hfsm <;> simp [S2.Waits, hfsm]

/-- An empty plaintext is for every request. -/
theorem Ordered.empty {log : List Act} {peer : Connection} {plain : List UInt8}
    (hordered : Ordered log peer plain) (txOptions : UInt8) :
    Ordered log { peer with txOptions := txOptions } [] := by
  obtain ⟨request, hlast, hfor⟩ := hordered
  exact ⟨request, hlast, hfor.lNode, hfor.rNode, hfor.classId, Or.inr rfl⟩

/-! ### Frames -/

/-- What `S2_add_mpan_extensions` leaves in the work buffer, at its offset and of its length. -/
def mpanExtensions (extData : ℕ) (s : S2) : List UInt8 :=
  readBuf (addMpanExtensions extData s).1.workbuf extData (addMpanExtensions extData s).2

/-- The frame is an encapsulation between the nodes of the connection. Behind its header stand MPAN
extensions and the plaintext, encrypted with the key and the next nonce of the generator, and the
tag for the header and the nodes. -/
def Encryption.Seals (aes : BlockCipher) (encryption : Encryption) (con : Connection)
    (frame : List UInt8) : Prop :=
  ∃ home seq flags clear, ∃ extData s,
    let header := encapsulationHeader seq flags clear
    let text := mpanExtensions extData s ++ encryption.plain
    frame = header ++ ccmEncryptAndAuth (aes encryption.key)
      (nextNonceGenerate aes encryption.rng).1
      (makeAad home con.lNode con.rNode header (text.length + header.length + authTagLen)) text

/-- A frame for `S2_send_frame` is a Nonce Get, or an encapsulation that is built from something
with the property. -/
def SentFrom (aes : BlockCipher) (property : Encryption → Prop) (con : Connection)
    (frame : List UInt8) : Option Encryption → Prop
  | none => ∃ seq, frame = [commandClassSecurity2, security2NonceGet, seq]
  | some encryption => encryption.Seals aes con frame ∧ property encryption

/-- Every frame that `S2_send_frame` was given is a Nonce Get, or was encrypted from the plaintext
of the call that was the last one to be accepted by then, or from an empty one. -/
def EncryptedRight (aes : BlockCipher) (log : List Act) : Prop :=
  ∀ con frame encryption earlier, (.sentFrame con frame encryption :: earlier) <:+ log →
    SentFrom aes (fun built ↦ Ordered earlier con built.plain) con frame encryption

/-- What was encrypted was right, and what waits to be encrypted is. -/
structure PlainInv (aes : BlockCipher) (s : S2) : Prop where
  log : EncryptedRight aes s.log
  waits : s.Waits → Ordered s.log s.peer s.buf

/-! ### Runs that are not disturbed -/

/-- The command handler does not answer the command itself or deliver it: it is for the inclusion
machine, or asks for the supported commands. -/
def isOwnCommand (plainText tag : List UInt8) : Prop :=
  plainText ≠ [] ∧ plainText.getD 0 0 = commandClassSecurity2 ∧
    (plainText ++ tag).getD 1 0 ≠ security2CommandsSupportedReport

/-- No encrypted command of the class Security 2 is accepted and no `KEX_FAIL` arrives while the
machine waits with a plaintext. -/
def Undisturbed (env : Env) (s : S2) : Call → Prop
  | .applicationCommandHandler src buf =>
    (buf.getD 1 0 = security2MessageEncapsulation → ∀ t con plainText,
      decryptMsg env src buf s = (t, con, .authOk plainText) → isOwnCommand plainText (msgTag buf) →
        con.isMulticast = false → ¬ (fsmPostEvent env (.gotEncMsg con) t).Waits) ∧
    (buf.getD 1 0 = kexFail → src.isMulticast = false → ¬ s.Waits)
  | _ => True

/-- The environments the module can meet: a callback does nothing, or it calls the module again,
with calls that are allowed where they are made, and with callbacks that are such again. -/
inductive Env.ReactsIn (allowed : Env → S2 → Call → Prop) : Env → Prop
  | silent (env : Env) (hsilent : ∀ s hook, env.hook s hook = s) : Env.ReactsIn allowed env
  | calls (env inner : Env) (hinner : Env.ReactsIn allowed inner) (haes : inner.aes = env.aes)
      (calls : S2 → Hook → List Call)
      (hallowed : ∀ s hook, AllSteps (enter inner) (allowed inner) s (calls s hook))
      (hhook : ∀ s hook, env.hook s hook = run (enter inner) s (calls s hook)) :
      Env.ReactsIn allowed env

/-- What every allowed call keeps, with this cipher and whatever the callbacks do as long as they
keep it, every callback keeps. -/
theorem Env.ReactsIn.hook_invariant {allowed : Env → S2 → Call → Prop} {property : S2 → Prop}
    {aes : BlockCipher}
    (hcall : ∀ (env : Env), env.aes = aes → (∀ s hook, property s → property (env.hook s hook)) →
      ∀ s call, allowed env s call → property s → property (enter env s call))
    {env : Env} (hreacts : env.ReactsIn allowed) (haes : env.aes = aes) :
    ∀ s hook, property s → property (env.hook s hook) := by
  induction hreacts with
  | silent env hsilent =>
    intro s hook hs
    rw [hsilent]
    exact hs
  | calls env inner _ hinner calls hallowed hhook ih =>
    intro s hook hs
    have hsame := hinner.trans haes
    rw [hhook]
    exact run_invariant_of_allSteps (hcall inner hsame (ih hsame)) hs (hallowed s hook)

/-! ### Rules for the invariant -/

section Rules

variable {aes : BlockCipher} {s t : S2} {log : List Act} {act : Act}

theorem lastRequest_note (hnote : act.isNote = true) :
    lastRequest (act :: log) = lastRequest log := by
  cases act <;> first | rfl | exact absurd hnote (by simp [Act.isNote])

/-- Something is logged that is no frame, or a frame that is right. -/
theorem encryptedRight_cons (hlog : EncryptedRight aes log)
    (hact : ∀ con frame encryption, act = .sentFrame con frame encryption →
      SentFrom aes (fun built ↦ Ordered log con built.plain) con frame encryption) :
    EncryptedRight aes (act :: log) := by
  intro con frame encryption earlier hsuffix
  rcases suffix_cons_iff.mp hsuffix with heq | hsuffix
  · obtain ⟨hsame, rfl⟩ := List.cons.inj heq
    exact hact con frame encryption hsame.symm
  · exact hlog con frame encryption earlier hsuffix

theorem encryptedRight_note (hlog : EncryptedRight aes log) (hnote : act.isNote = true) :
    EncryptedRight aes (act :: log) := by
  refine encryptedRight_cons hlog fun con frame encryption heq ↦ ?_
  rw [heq] at hnote
  exact absurd hnote (by simp [Act.isNote])

/-- The plaintext, the peer and the log stay, and the machine does not begin to wait. -/
theorem PlainInv.congr (hinv : PlainInv aes s) (hlog : t.log = s.log)
    (hwaits : t.Waits → s.Waits ∧ t.peer = s.peer ∧ t.buf = s.buf) : PlainInv aes t := by
  refine ⟨hlog ▸ hinv.log, fun h ↦ ?_⟩
  obtain ⟨hs, hpeer, hbuf⟩ := hwaits h
  rw [hlog, hpeer, hbuf]
  exact hinv.waits hs

/-- The machine does not wait. -/
theorem PlainInv.still (hinv : PlainInv aes s) (hlog : t.log = s.log) (hstill : ¬ t.Waits) :
    PlainInv aes t :=
  hinv.congr hlog fun h ↦ absurd h hstill

/-- Something is logged that is not about plaintexts. -/
theorem PlainInv.note (hinv : PlainInv aes s) (hnote : act.isNote = true) :
    PlainInv aes (s.logged act) := by
  refine ⟨encryptedRight_note hinv.log hnote, fun h ↦ ?_⟩
  obtain ⟨request, hlast, hfor⟩ := hinv.waits h
  exact ⟨request, (lastRequest_note hnote).trans hlast, hfor⟩

theorem plainInv_quiet (hquiet : Quiet s t) (hinv : PlainInv aes s) : PlainInv aes t := by
  refine hinv.congr hquiet.log fun h ↦ ⟨?_, hquiet.peer, hquiet.buf⟩
  rw [S2.Waits, hquiet.fsm] at h
  exact h

theorem plainInv_change (hchange : Change aes s t) (hinv : PlainInv aes s) :
    PlainInv aes t := by
  cases hchange with
  | quiet hquiet => exact plainInv_quiet hquiet hinv
  | allocate env con _ => exact hinv.congr rfl fun h ↦ ⟨h, rfl, rfl⟩
  | span i _ => exact hinv.congr rfl fun h ↦ ⟨h, rfl, rfl⟩
  | localNonce con i nonce frame _ _ _ _ =>
    have hspan : PlainInv aes (s.modifySpan i fun span ↦
        { span.setRNonce nonce with state := .sosLocalNonce, txSeq := span.txSeq + 1 }) :=
      hinv.congr rfl fun h ↦ ⟨h, rfl, rfl⟩
    exact hspan.note rfl
  | note act hnote _ => exact hinv.note hnote
  | mosWait con _ => exact hinv.still rfl (by simp [S2.Waits])

theorem plainInv_changes (hchanges : Changes aes s t) (hinv : PlainInv aes s) :
    PlainInv aes t :=
  hchanges.invariant (fun _ _ ↦ plainInv_change) hinv

/-- Changes do not add a request. -/
theorem lastRequest_changes (hchanges : Changes aes s t) :
    lastRequest t.log = lastRequest s.log := by
  have hkept : ∀ u v, Change aes u v → lastRequest u.log = lastRequest s.log →
      lastRequest v.log = lastRequest s.log := by
    intro u v hchange hu
    cases hchange with
    | quiet hquiet => rw [hquiet.log, hu]
    | allocate env con _ => exact hu
    | span i _ => exact hu
    | localNonce con i nonce frame _ _ _ _ => exact hu
    | note act hnote _ => exact (lastRequest_note hnote).trans hu
    | mosWait con _ => exact hu
  exact Changes.invariant hkept hchanges rfl

end Rules

/-! ### Building a frame -/

section Encapsulate

variable (env : Env) (s : S2)

/-- The peer, the plaintext, the keys, the state of the machine, the retries and the log stay. -/
structure Keeps (s t : S2) : Prop where
  peer : t.peer = s.peer
  buf : t.buf = s.buf
  sg : t.sg = s.sg
  fsm : t.fsm = s.fsm
  retry : t.retry = s.retry
  log : t.log = s.log

/-- The SPAN table stays, too. -/
structure KeepsSpans (s t : S2) : Prop extends Keeps s t where
  spanTable : t.spanTable = s.spanTable

theorem Keeps.trans {s t u : S2} (hfirst : Keeps s t) (hsecond : Keeps t u) : Keeps s u :=
  ⟨hsecond.peer.trans hfirst.peer, hsecond.buf.trans hfirst.buf, hsecond.sg.trans hfirst.sg,
    hsecond.fsm.trans hfirst.fsm, hsecond.retry.trans hfirst.retry, hsecond.log.trans hfirst.log⟩

theorem KeepsSpans.refl (s : S2) : KeepsSpans s s := ⟨⟨rfl, rfl, rfl, rfl, rfl, rfl⟩, rfl⟩

theorem KeepsSpans.trans {s t u : S2} (hfirst : KeepsSpans s t) (hsecond : KeepsSpans t u) :
    KeepsSpans s u :=
  ⟨hfirst.toKeeps.trans hsecond.toKeeps, hsecond.spanTable.trans hfirst.spanTable⟩

theorem plainInv_keeps {aes : BlockCipher} {s t : S2} (hkeeps : Keeps s t) (hinv : PlainInv aes s) :
    PlainInv aes t := by
  refine hinv.congr hkeeps.log fun h ↦ ⟨?_, hkeeps.peer, hkeeps.buf⟩
  rw [S2.Waits, hkeeps.fsm] at h
  exact h

theorem findSpanByNode_keeps (con : Connection) : Keeps s (findSpanByNode env con s).1 := by
  unfold findSpanByNode
  split
  · exact ⟨rfl, rfl, rfl, rfl, rfl, rfl⟩
  · exact ⟨rfl, rfl, rfl, rfl, rfl, rfl⟩

theorem addSnExtension_keeps (i : Fin spanTableSize) : Keeps s (addSnExtension env i s).1 := by
  unfold addSnExtension
  split_ifs
  · exact ⟨rfl, rfl, rfl, rfl, rfl, rfl⟩
  · exact ⟨rfl, rfl, rfl, rfl, rfl, rfl⟩

theorem addMgrpExtension_keeps : KeepsSpans s (addMgrpExtension s).1 := by
  unfold addMgrpExtension
  split
  · exact .refl s
  · dsimp only
    split_ifs <;> exact ⟨⟨rfl, rfl, rfl, rfl, rfl, rfl⟩, rfl⟩

theorem addMosExtension_keeps : KeepsSpans s (addMosExtension s).1 := by
  unfold addMosExtension
  split
  · exact .refl s
  · split_ifs <;> exact ⟨⟨rfl, rfl, rfl, rfl, rfl, rfl⟩, rfl⟩

theorem addMpanExtension_keeps (extData k : ℕ) (i : Fin mosListLength) :
    KeepsSpans s (addMpanExtension extData s k i).1 := by
  unfold addMpanExtension
  dsimp only
  split_ifs
  · split
    · exact .refl s
    · exact ⟨⟨rfl, rfl, rfl, rfl, rfl, rfl⟩, rfl⟩
  · exact .refl s

theorem addMpanExtensions_keeps (extData : ℕ) : KeepsSpans s (addMpanExtensions extData s).1 :=
  addMpanExtensions_induction extData (.refl s)
    (fun t k i ht ↦ ht.trans (addMpanExtension_keeps t extData k i))
    fun _ _ ht ↦ ht.trans ⟨⟨rfl, rfl, rfl, rfl, rfl, rfl⟩, rfl⟩

/-- `S2_encrypt_and_send` finds the entry of the peer, seeds its generator when the nonce of the
peer is at hand, and seals the message with this entry. -/
theorem encapsulate_eq : ∃ ready seq flags clear extData t,
    KeepsSpans (addSnExtension env (findSpanByNode env s.peer s).2
      (findSpanByNode env s.peer s).1).1 ready ∧
    encapsulate env s = sealMessage env (findSpanByNode env s.peer s).2
      (encapsulationHeader seq flags clear) (mpanExtensions extData t) ready := by
  unfold encapsulate
  generalize findSpanByNode env s.peer s = found
  obtain ⟨t, i⟩ := found
  dsimp only
  have hclear := (addMgrpExtension_keeps (addSnExtension env i t).1).trans (addMosExtension_keeps _)
  unfold addClearExtensions
  dsimp only
  generalize (addMosExtension (addMgrpExtension (addSnExtension env i t).1).1).1 =
    cleared at hclear ⊢
  exact ⟨_, _, _, _, _, cleared, hclear.trans (addMpanExtensions_keeps cleared _), rfl⟩

/-- `S2_encrypt_and_send` leaves the plaintext and the peer as they are. -/
theorem encapsulate_keeps : Keeps s (encapsulate env s).1 := by
  obtain ⟨ready, seq, flags, clear, extData, t, hready, heq⟩ := encapsulate_eq env s
  have hkeeps := ((findSpanByNode_keeps env s s.peer).trans (addSnExtension_keeps env _ _)).trans
    hready.toKeeps
  rw [heq]
  exact ⟨hkeeps.peer, hkeeps.buf, hkeeps.sg, hkeeps.fsm, hkeeps.retry, hkeeps.log⟩

/-- The frame of `S2_encrypt_and_send` is encrypted from what is logged. -/
theorem encapsulate_seals : (encryption env s).Seals env.aes s.peer (encapsulate env s).2 := by
  obtain ⟨ready, seq, flags, clear, extData, t, hready, heq⟩ := encapsulate_eq env s
  have hkeeps := ((findSpanByNode_keeps env s s.peer).trans (addSnExtension_keeps env _ _)).trans
    hready.toKeeps
  refine ⟨ready.myHomeId, seq, flags, clear, extData, t, ?_⟩
  rw [heq]
  unfold sealMessage encryption
  dsimp only [S2.modifySpan]
  rw [hkeeps.peer, hkeeps.buf, hkeeps.sg, hready.spanTable]

end Encapsulate

/-! ### Transmissions -/

section Transmit

variable {env : Env} (hhook : ∀ s hook, PlainInv env.aes s → PlainInv env.aes (env.hook s hook))
  {s : S2}

theorem plainInv_setTimeout (interval : UInt16) (hinv : PlainInv env.aes s) :
    PlainInv env.aes (setTimeout interval s) :=
  hinv.note rfl

theorem plainInv_sentFrame {aes : BlockCipher} {frame : List UInt8} {encryption : Option Encryption}
    (hsent : SentFrom aes (fun built ↦ Ordered s.log s.peer built.plain) s.peer frame encryption)
    (hinv : PlainInv aes s) : PlainInv aes (s.logged (.sentFrame s.peer frame encryption)) := by
  refine ⟨encryptedRight_cons hinv.log fun con frame' built heq ↦ ?_, hinv.waits⟩
  obtain ⟨rfl, rfl, rfl⟩ := Act.sentFrame.inj heq
  exact hsent

include hhook

theorem changeClosed_plainInv : ChangeClosed env (PlainInv env.aes) where
  hook := hhook
  setTimeout _ interval hinv := plainInv_setTimeout interval hinv
  ended s _ _ hinv := by
    have hidle : PlainInv env.aes { s with fsm := .idle } := hinv.still rfl (by simp [S2.Waits])
    exact hhook _ _ ((hhook _ _ hidle).note rfl)
  change := plainInv_change
  nonceGet _ _ hinv := plainInv_sentFrame ⟨_, rfl⟩ hinv

/-- A plaintext is encrypted that is for the last request. -/
theorem plainInv_encryptAndSend (hinv : PlainInv env.aes s)
    (hordered : Ordered s.log s.peer s.buf) : PlainInv env.aes (encryptAndSend env s) := by
  have hkeeps := encapsulate_keeps env s
  have hseals := encapsulate_seals env s
  have hbuilt := plainInv_keeps hkeeps hinv
  unfold encryptAndSend
  generalize encapsulate env s = built at hkeeps hseals hbuilt ⊢
  obtain ⟨t, frame⟩ := built
  dsimp only at hkeeps hseals hbuilt ⊢
  refine (changeClosed_plainInv hhook).sendRaw (plainInv_sentFrame ?_ hbuilt)
  rw [hkeeps.peer, hkeeps.log]
  exact ⟨hseals, hordered⟩

theorem plainInv_sendMsgStateEnter (hinv : EncryptedRight env.aes s.log)
    (hordered : Ordered s.log s.peer s.buf) : PlainInv env.aes (sendMsgStateEnter env s) := by
  have hsent : PlainInv env.aes (encryptAndSend env (sendingState s)) := by
    unfold sendingState
    split_ifs
    · have hwaits : PlainInv env.aes { s with fsm := .verifyingDelivery } :=
        ⟨hinv, fun _ ↦ hordered⟩
      exact plainInv_encryptAndSend hhook (plainInv_setTimeout _ hwaits) hordered
    · have hsending : PlainInv env.aes { s with fsm := .sendingMsg } := ⟨hinv, fun _ ↦ hordered⟩
      exact plainInv_encryptAndSend hhook hsending hordered
  rw [sendMsgStateEnter_eq]
  generalize encryptAndSend env (sendingState s) = sent at hsent ⊢
  exact hsent.congr rfl fun h ↦ ⟨h, rfl, rfl⟩

/-! ### Calls -/

theorem plainInv_sendMsg {con : Connection} {buf : List UInt8} (hinv : PlainInv env.aes s)
    (hrequest : lastRequest s.log = some (con, buf)) :
    PlainInv env.aes (fsmIdle env (.sendMsg con buf) s) := by
  obtain ⟨t, hspan, -, hstart⟩ := fsmIdle_sendMsg env con buf s
  have hinvt := plainInv_changes hspan hinv
  have hordered : Ordered t.log con buf :=
    ⟨(con, buf), (lastRequest_changes hspan).trans hrequest, rfl, rfl, rfl, Or.inl rfl⟩
  rcases hstart with hstart | hstart
  · rw [hstart]
    exact plainInv_sendMsgStateEnter hhook (s := { setPeer con buf t with retry := 2 }) hinvt.log
      hordered
  · have hwaits :
        PlainInv env.aes (setPeer con buf { t with fsm := .waitNonceRaport, retry := 2 }) :=
      ⟨hinvt.log, fun _ ↦ hordered⟩
    rw [hstart]
    exact plainInv_setTimeout _ ((changeClosed_plainInv hhook).sendNonceGet hwaits)

theorem plainInv_sendMulticast (con : Connection) (buf : List UInt8) (hinv : PlainInv env.aes s) :
    PlainInv env.aes (fsmIdle env (.sendMulticast con buf) s) := by
  obtain ⟨t, i, hmpan, hstart⟩ := fsmIdle_sendMulticast env con buf s
  have hsending : PlainInv env.aes { t with mpan := some i, fsm := .sendingMsg } :=
    hinv.still hmpan.log (by simp [S2.Waits])
  rw [hstart]
  exact (changeClosed_plainInv hhook).encryptAndSendMulti i hsending

/-- A plaintext of a call waits, when it is sent or a nonce is asked for. -/
theorem plainInv_sendDataAllCast (con : Connection) (buf : Option (List UInt8)) (kind : SendKind)
    (hinv : PlainInv env.aes s) : PlainInv env.aes (sendDataAllCast env con buf kind s).1 := by
  have hrequested : ∀ bytes mpan, s.Idles →
      PlainInv env.aes { s.logged (.requested con bytes) with mpan := mpan } := by
    refine fun bytes mpan hidle ↦
      ⟨encryptedRight_cons hinv.log fun _ _ _ heq ↦ absurd heq (by simp), fun hwaits ↦ ?_⟩
    exact absurd hwaits hidle.not_waits
  rcases sendDataAllCast_cases env con buf kind s with
    hcase | ⟨bytes, mpan, hidle, hcase⟩ | ⟨-, bytes, hidle, hcase⟩
  · rwa [hcase]
  · rw [hcase]
    exact (plainInv_sendMsg hhook (hrequested bytes mpan hidle) rfl).note rfl
  · rw [hcase]
    exact (plainInv_sendMulticast hhook con bytes (hrequested bytes s.mpan hidle)).note rfl

/-- A plaintext that is sent again is the one of the call, or none. -/
theorem sendClosed_plainInv : SendClosed env (PlainInv env.aes) where
  toChangeClosed := changeClosed_plainInv hhook
  setPeer _ _ _ hidle hinv := hinv.still rfl hidle.not_waits
  mosTimeout _ _ hinv := hinv.still rfl (by simp [S2.Waits])
  empty _ hfsm hinv := ⟨hinv.log, fun _ ↦ (hinv.waits (Or.inr hfsm)).empty _⟩
  again s hagain hinv := by
    have hwaits : s.Waits := hagain.imp_right And.left
    exact plainInv_sendMsgStateEnter hhook hinv.log (hinv.waits hwaits)
  emptyAgain s hfsm _ hinv :=
    plainInv_sendMsgStateEnter hhook
      (s := { s with
        buf := []
        peer := { s.peer with txOptions := s.peer.txOptions &&& ~~~txVerifyDelivery } })
      hinv.log ((hinv.waits (Or.inr hfsm)).empty _)
  send _ con buf kind hinv := plainInv_sendDataAllCast hhook con buf kind hinv
  keys _ _ _ hinv := hinv.congr rfl fun h ↦ ⟨h, rfl, rfl⟩

/-- Every call that is not disturbed keeps the invariant: a command is handed to the inclusion
machine only while no plaintext waits. -/
theorem plainInv_enter (call : Call) (hundisturbed : Undisturbed env s call)
    (hinv : PlainInv env.aes s) : PlainInv env.aes (enter env s call) := by
  refine (sendClosed_plainInv hhook).enter call (fun t plain hstores ht ↦ ?_) hinv
  refine ht.still rfl ?_
  cases hstores with
  | decrypted hcommand hdecrypted hempty hown hsingle =>
    exact hundisturbed.1 hcommand _ _ _ hdecrypted ⟨hempty, hown⟩ hsingle
  | plain hidle hsingle =>
    rcases hidle with hfsm | hkex
    · simp [S2.Waits, hfsm]
    · exact hundisturbed.2 hkex hsingle

end Transmit

/-- At the start nothing waits. -/
theorem plainInv_initCtx (env : Env) (home : UInt32) (keystore : Fin 5 → Option Block)
    (drbg : Drbg) : PlainInv env.aes (initCtx env home keystore drbg) := by
  obtain ⟨sg, loadedKeys, heq⟩ := initCtx_eq env home keystore drbg
  rw [heq]
  refine ⟨fun con frame encryption earlier hsuffix ↦ ?_,
    fun h ↦ absurd h (by simp [S2.Waits, emptyCtx])⟩
  exact absurd (suffix_nil.mp hsuffix) (by simp)

/-- In every run in which no encrypted command of the class Security 2 is accepted and no `KEX_FAIL`
arrives while a plaintext waits, the frames for `S2_send_frame` are Nonce Gets and encapsulations of
the plaintext of the call that was accepted last, or of none, for the peer and the class of that
call. -/
theorem encrypts_requested (env : Env) (hreacts : env.ReactsIn Undisturbed) (home : UInt32)
    (keystore : Fin 5 → Option Block) (drbg : Drbg) (calls : List Call)
    (hundisturbed : AllSteps (enter env) (Undisturbed env) (initCtx env home keystore drbg) calls) :
    EncryptedRight env.aes (run (enter env) (initCtx env home keystore drbg) calls).log := by
  have hcall : ∀ env' : Env, env'.aes = env.aes →
      (∀ s hook, PlainInv env.aes s → PlainInv env.aes (env'.hook s hook)) →
      ∀ s call, Undisturbed env' s call → PlainInv env.aes s →
        PlainInv env.aes (enter env' s call) := by
    intro env' haes hhook s call hallowed hinv
    rw [← haes] at hhook hinv ⊢
    exact plainInv_enter hhook call hallowed hinv
  have hhook := hreacts.hook_invariant hcall rfl
  have hinv := run_invariant_of_allSteps (hcall env rfl hhook)
    (plainInv_initCtx env home keystore drbg) hundisturbed
  exact hinv.log

def nonceReportFrame (seq : UInt8) : List UInt8 :=
  [commandClassSecurity2, security2NonceReport, seq, sosBitMask] ++ List.replicate 16 7

/-- Node 1 sends a command to node 2, which answers with its nonce. -/
def askAndSend : List Call :=
  [.sendData sampleConnection (some [0x25, 0x01, 0xFF]),
    .applicationCommandHandler sampleConnection (nonceReportFrame 1)]

/-- Meanwhile node 3 says that its inclusion has failed. -/
def askKexFailAndSend : List Call :=
  [.sendData sampleConnection (some [0x25, 0x01, 0xFF]),
    .applicationCommandHandler { sampleConnection with rNode := 3 }
      [commandClassSecurity2, kexFail, 1],
    .applicationCommandHandler sampleConnection (nonceReportFrame 1)]

/-- The plaintexts of the frames, newest first. -/
def encryptedTexts (log : List Act) : List (List UInt8) :=
  log.filterMap fun act ↦ match act with
    | .sentFrame _ _ encryption => encryption.map Encryption.plain
    | _ => none

/-- The command is what is encrypted. -/
theorem encrypts_requested_nonceReport :
    encryptedTexts (run (enter sampleEnv)
        (initCtx sampleEnv 0 (fun _ ↦ some zeroBlock) Drbg.zero) askAndSend).log =
        [[0x25, 0x01, 0xFF]] ∧
      EncryptedRight sampleEnv.aes (run (enter sampleEnv)
        (initCtx sampleEnv 0 (fun _ ↦ some zeroBlock) Drbg.zero) askAndSend).log := by
  refine ⟨by decide +kernel, encrypts_requested sampleEnv (.silent _ fun _ _ ↦ rfl) _ _ _ _ ?_⟩
  simp only [askAndSend, allSteps_cons, allSteps_nil, and_true]
  exact ⟨trivial, fun hencap ↦ absurd hencap (by decide), fun hkex ↦ absurd hkex (by decide)⟩

/-- What was to be sent, newest first. -/
def requestedTexts (log : List Act) : List (List UInt8) :=
  log.filterMap fun act ↦ match act with
    | .requested _ buf => some buf
    | _ => none

theorem mem_requestedTexts {log : List Act} {request : Connection × List UInt8}
    (hlast : lastRequest log = some request) : request.2 ∈ requestedTexts log := by
  induction log with
  | nil => exact absurd hlast (by simp [lastRequest])
  | cons act earlier ih =>
    cases act with
    | requested con buf =>
      obtain rfl := Option.some.inj hlast
      exact mem_cons_self
    | _ => exact ih hlast

/-- What was encrypted, if not empty, was to be sent. -/
theorem EncryptedRight.mem_requestedTexts {aes : BlockCipher} {log : List Act}
    (hright : EncryptedRight aes log) {plain : List UInt8} (hmem : plain ∈ encryptedTexts log) :
    plain = [] ∨ plain ∈ requestedTexts log := by
  obtain ⟨act, hact, heq⟩ := mem_filterMap.mp hmem
  cases act with
  | sentFrame con frame encryption =>
    obtain ⟨built, rfl, rfl⟩ := Option.map_eq_some_iff.mp heq
    obtain ⟨later, earlier, rfl⟩ := append_of_mem hact
    obtain ⟨-, request, hlast, hfor⟩ := hright con frame _ earlier ⟨later, rfl⟩
    rcases hfor.plain with hsame | hempty
    · have hrequested := SecurityS2.mem_requestedTexts hlast
      rw [hsame, requestedTexts, filterMap_append]
      exact Or.inr (mem_append_right _ hrequested)
    · exact Or.inl hempty
  | _ => exact absurd heq (by simp)

/-- The `KEX_FAIL` of node 3 is encrypted and sent to node 2. -/
theorem kexFail_encrypted :
    ¬ ∀ (env : Env), (env.ReactsIn fun _ _ _ ↦ True) → ∀ (home : UInt32)
      (keystore : Fin 5 → Option Block) (drbg : Drbg) (calls : List Call),
      EncryptedRight env.aes (run (enter env) (initCtx env home keystore drbg) calls).log := by
  intro hclaim
  have hright := hclaim sampleEnv (.silent _ fun _ _ ↦ rfl) 0 (fun _ ↦ some zeroBlock) Drbg.zero
    askKexFailAndSend
  have hmem : [commandClassSecurity2, kexFail, 1] ∈ encryptedTexts (run (enter sampleEnv)
      (initCtx sampleEnv 0 (fun _ ↦ some zeroBlock) Drbg.zero) askKexFailAndSend).log := by
    decide +kernel
  rcases hright.mem_requestedTexts hmem with hempty | hrequested
  · exact absurd hempty (by simp)
  · exact absurd hrequested (by decide +kernel)

end ZipGateway.SecurityS2
