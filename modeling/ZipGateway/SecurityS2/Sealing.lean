import ZipGateway.SecurityS2.CcmStandard
import ZipGateway.SecurityS2.Changes

/-!
# Sealing and opening messages

`S2_encrypt_and_send` ends in `sealMessage`, and `S2_decrypt_msg` gets a plaintext from
`decryptBody`. What is sealed is what the standard of the mode gives for the same key, nonce and
additional data (`sealMessage_eq_standard`), and whatever `S2_decrypt_msg` accepts was sealed with a
key of the context (`decryptMsg_sealed`). Of two contexts that are in step, one opens what the other
sealed, and they stay in step, so that a sequence of messages that arrive in order is opened
(`messages_opened`).
-/

set_option autoImplicit false

namespace ZipGateway.SecurityS2

open Lib Ccm List

/-! ### What is opened -/

section Opened

variable (env : Env) {s : S2} {aad ciphertext : List UInt8}

/-- The ciphertext is that of the plaintext, with a key of the context. -/
def SealedBy (s : S2) (aad ciphertext plain : List UInt8) : Prop :=
  ∃ classId nonce, ciphertext = ccmEncryptAndAuth (env.aes (s.sg classId).encKey) nonce aad plain

theorem ccmDecryptAndAuth_sealed (classId : UInt8) (nonce : Block) :
    ccmDecryptAndAuth (env.aes (s.sg classId).encKey) nonce aad ciphertext = [] ∨
      SealedBy env s aad ciphertext
        (ccmDecryptAndAuth (env.aes (s.sg classId).encKey) nonce aad ciphertext) := by
  unfold ccmDecryptAndAuth
  dsimp only
  split_ifs with hshort htag
  · exact .inl rfl
  · refine .inr ⟨classId, nonce, ?_⟩
    rw [ccmEncryptAndAuth, htag, ccmStream_ccmStream, take_append_drop]
  · exact .inl rfl

variable (conn : Connection)

/-- One class that authenticates the frame is enough, and the next one is tried with the same
keys. -/
theorem tryClasses_sealed (i : Fin spanTableSize) (mpan : Option (Fin mpanTableSize))
    (nonces : Option (Block × Block)) (turns : ℕ) :
    (tryClasses env conn i mpan nonces aad ciphertext turns s).2.2 = [] ∨
      SealedBy env s aad ciphertext
        (tryClasses env conn i mpan nonces aad ciphertext turns s).2.2 := by
  induction turns generalizing s with
  | zero => exact .inl rfl
  | succ turns ih =>
    have hattempt : (attemptClass env i aad ciphertext s).1.sg = s.sg ∧
        ((attemptClass env i aad ciphertext s).2 = [] ∨
          SealedBy env s aad ciphertext (attemptClass env i aad ciphertext s).2) := by
      unfold attemptClass
      dsimp only
      split_ifs
      · exact ⟨rfl, ccmDecryptAndAuth_sealed env _ _⟩
      · exact ⟨rfl, .inl rfl⟩
    obtain ⟨hsg, hsealed⟩ := hattempt
    unfold tryClasses
    dsimp only
    split_ifs
    · exact hsealed
    · exact .inl rfl
    · have hrest := @ih (nextClass env i nonces (attemptClass env i aad ciphertext s).1)
      unfold SealedBy at hrest ⊢
      rwa [show (nextClass env i nonces (attemptClass env i aad ciphertext s).1).sg = s.sg
        from hsg] at hrest

/-- The loop ends with a class that authenticates the frame. -/
theorem tryClasses_authentic {i : Fin spanTableSize} (nonces : Option (Block × Block)) (turns : ℕ)
    {after : S2} {plain : List UInt8}
    (hattempt : attemptClass env i aad ciphertext s = (after, plain)) (hplain : plain ≠ []) :
    ∃ conn', tryClasses env conn i none nonces aad ciphertext (turns + 1) s =
      (after.modifySpan i fun span ↦ { span with state := .negotiated }, conn', plain) := by
  unfold tryClasses
  rw [hattempt]
  dsimp only
  rw [if_pos hplain]
  exact ⟨_, rfl⟩

/-- A singlecast is given to the class loop. What the context puts into `workbuf` before is not
read. -/
theorem decryptBody_some (i : Fin spanTableSize) (msg : List UInt8) (hdrLen : ℕ)
    (state : ClearState)
    (haad : makeAad state.s.myHomeId conn.rNode conn.lNode (msg.take hdrLen) msg.length = aad) :
    ∃ workbuf, decryptBody env conn (some i) msg hdrLen state =
      let opened := tryClasses env conn i state.mpan state.nonces aad (msg.drop hdrLen) nSecClass
        { state.s with workbuf := workbuf }
      (opened.1, opened.2.1, if aad = [] then [] else opened.2.2) := by
  subst haad
  by_cases hkeep : state.s.fsm = .idle ∧ (state.s.spanTable i).state = .instantiate
  · refine ⟨writeBuf state.s.workbuf 0 (msg.drop hdrLen), ?_⟩
    unfold decryptBody
    dsimp only
    rw [if_pos hkeep]
  · refine ⟨state.s.workbuf, ?_⟩
    unfold decryptBody
    dsimp only
    rw [if_neg hkeep]

/-- No plaintext is got, or the message behind its header is that plaintext, sealed with a key of
the context for the nodes, the home identifier, the header and the length of the message. -/
theorem decryptBody_sealed (span : Option (Fin spanTableSize)) (msg : List UInt8)
    (hdrLen : ℕ) (state : ClearState) :
    (decryptBody env conn span msg hdrLen state).2.2 = [] ∨
      SealedBy env state.s
        (makeAad state.s.myHomeId conn.rNode conn.lNode (msg.take hdrLen) msg.length)
        (msg.drop hdrLen) (decryptBody env conn span msg hdrLen state).2.2 := by
  cases span with
  | some i =>
    obtain ⟨workbuf, heq⟩ := decryptBody_some env conn i msg hdrLen state rfl
    rw [heq]
    dsimp only
    split_ifs
    · exact .inl rfl
    · exact tryClasses_sealed env (s := { state.s with workbuf := workbuf }) conn i state.mpan
        state.nonces nSecClass
  | none =>
    unfold decryptBody
    dsimp only
    split_ifs
    · exact .inl rfl
    · cases state.mpan with
      | some j => exact ccmDecryptAndAuth_sealed env _ _
      | none => exact .inl rfl

/-- The message was sealed for the connection with a key of the context: behind its header stand the
ciphertext and the tag of some encrypted extensions and the plaintext. The node that it was sent to
is the receiver, and for a multicast the number of a group. -/
def Authentic (s : S2) (conn : Connection) (msg : List UInt8) : DecryptResult → Prop
  | .authOk plainText => ∃ hdrLen extLen receiver plain, plainText = plain.drop extLen ∧
      (conn.isMulticast = false → receiver = conn.lNode) ∧
      SealedBy env s (makeAad s.myHomeId conn.rNode receiver (msg.take hdrLen) msg.length)
        (msg.drop hdrLen) plain
  | _ => True

/-- The connection that the additional data is made for. -/
theorem decryptable_receiver {conn aadConn : Connection} {span : Option (Fin spanTableSize)}
    {state : ClearState} (hready : decryptable conn span state = some aadConn) :
    aadConn.rNode = conn.rNode ∧ (span.isSome → aadConn.lNode = conn.lNode) := by
  unfold decryptable at hready
  split at hready
  · dsimp only at hready
    split_ifs at hready
    cases hready
    exact ⟨rfl, fun _ ↦ rfl⟩
  · split at hready
    · cases hready
    · dsimp only at hready
      split_ifs at hready
      cases hready
      exact ⟨rfl, fun hspan ↦ absurd hspan (by simp)⟩

theorem finishDecrypt_sealed (span : Option (Fin spanTableSize))
    (mpan : Option (Fin mpanTableSize)) (msg plain : List UInt8) :
    match (finishDecrypt env conn span mpan msg plain s).2.2 with
    | .authOk plainText => plain ≠ [] ∧ ∃ extLen, plainText = plain.drop extLen
    | _ => True := by
  unfold finishDecrypt
  split_ifs with hplain
  · trivial
  · generalize parseEncrypted env (spanClass span s) msg plain (s, conn) = parsed
    obtain ⟨⟨t, conn'⟩, _ | extLen⟩ := parsed
    · trivial
    · exact ⟨hplain, extLen, rfl⟩

/-- `S2_decrypt_msg` accepts only messages that were sealed with a key of the context. -/
theorem decryptMsg_sealed (msg : List UInt8) (s : S2) :
    Authentic env s conn msg (decryptMsg env conn msg s).2.2 := by
  unfold decryptMsg
  split_ifs
  · trivial
  have hstarted := (decryptSpan_changes env env.aes conn msg s).keys
  have hsingle : conn.isMulticast = false → (decryptSpan env conn msg s).2 ≠ some none := by
    intro hsingle
    unfold decryptSpan
    rw [hsingle, if_neg Bool.false_ne_true]
    dsimp only
    split_ifs <;> simp
  generalize decryptSpan env conn msg s = started at hstarted hsingle ⊢
  obtain ⟨t, _ | span⟩ := started
  · trivial
  dsimp only at hstarted hsingle ⊢
  have hclear := (parseClear_changes env conn span msg ⟨t, none, none⟩).keys
  generalize parseClear env conn span msg ⟨t, none, none⟩ = parsed at hclear ⊢
  obtain ⟨state, _ | hdrLen⟩ := parsed
  · trivial
  dsimp only at hclear ⊢
  unfold decryptParsed
  cases hready : decryptable conn span state with
  | none => trivial
  | some aadConn =>
    obtain ⟨hremote, hlocal⟩ := decryptable_receiver hready
    have hbody := decryptBody_sealed env aadConn span msg hdrLen state
    dsimp only
    generalize decryptBody env aadConn span msg hdrLen state = body at hbody ⊢
    obtain ⟨u, conn', plain⟩ := body
    have hfinish := finishDecrypt_sealed env (s := u) conn' span state.mpan msg plain
    dsimp only at hbody ⊢
    generalize (finishDecrypt env conn' span state.mpan msg plain u).2.2 = result at hfinish ⊢
    cases result with
    | authOk plainText =>
      obtain ⟨hplain, extLen, rfl⟩ := hfinish
      obtain ⟨classId, nonce, hsealed⟩ := hbody.resolve_left hplain
      rw [hclear.1, hclear.2, hstarted.1, hstarted.2, hremote] at hsealed
      refine ⟨hdrLen, extLen, aadConn.lNode, plain, rfl, fun hsingle' ↦ hlocal ?_, classId,
        nonce, hsealed⟩
      cases span with
      | none => exact absurd rfl (hsingle hsingle')
      | some i => rfl
    | _ => trivial

end Opened

/-! ### Contexts in step -/

/-- A sender and a receiver in step: the same home id, the nodes the other way round, and in the
SPAN entries the same generator and the same class, whose key both have. -/
structure Link where
  sender : S2
  receiver : S2
  outgoing : Fin spanTableSize
  incoming : Fin spanTableSize
  conn : Connection
  homeId : receiver.myHomeId = sender.myHomeId
  nodes : conn.rNode = sender.peer.lNode ∧ conn.lNode = sender.peer.rNode
  generator : (receiver.spanTable incoming).rng = (sender.spanTable outgoing).rng
  classId : (receiver.spanTable incoming).classId = sender.peer.classId
  key : (receiver.sg sender.peer.classId).encKey = (sender.sg sender.peer.classId).encKey
  loaded : receiver.isLoaded sender.peer.classId = true

/-- A message with a header that fits into the buffer of `S2_make_aad`, also behind the numbers of
long range nodes, and that fits into `workbuf` when it is sealed. -/
structure Message where
  header : List UInt8
  encrypted : List UInt8
  payload : List UInt8
  fits : header.length ≤ 56
  text : encrypted ++ payload ≠ []
  short : header.length + (encrypted ++ payload).length + authTagLen ≤ 1302

/-- The encrypted extensions and the payload. -/
def Message.plain (m : Message) : List UInt8 := m.encrypted ++ m.payload

/-- The additional data for a header that fits into the buffer of `S2_make_aad`. -/
theorem length_makeAad (homeId : UInt32) (sender receiver : UInt16) {header : List UInt8}
    (hheader : header.length ≤ 58)
    (msgLen : ℕ) : 0 < (makeAad homeId sender receiver header msgLen).length ∧
      (makeAad homeId sender receiver header msgLen).length < 256 := by
  have hnodes : (aadNodes sender receiver).length ≤ 4 := by
    unfold aadNodes
    split_ifs <;> simp [bytes16]
  unfold makeAad
  rw [if_neg (by omega)]
  simp only [length_append, length_drop, bytes32, octets, length_cons, length_nil]
  omega

/-- What `S2_encrypt_and_send` puts behind the header is the ciphertext and the tag of the standard,
for the key of the class, the next nonce of the SPAN, the additional data of the header and the
encrypted extensions followed by the payload. -/
theorem sealMessage_eq_standard (env : Env) (i : Fin spanTableSize) (header encrypted : List UInt8)
    (s : S2) (hheader : header.length ≤ 58) (htext : (encrypted ++ s.buf).length ≤ 65535) :
    (sealMessage env i header encrypted s).2 = header ++
      parameters.generationEncryption (env.aes (s.sg s.peer.classId).encKey)
        (nonceBytes (nextNonceGenerate env.aes (s.spanTable i).rng).1)
        (makeAad s.myHomeId s.peer.lNode s.peer.rNode header
          ((encrypted ++ s.buf).length + header.length + authTagLen))
        (encrypted ++ s.buf) := by
  obtain ⟨hpos, hlt⟩ := length_makeAad s.myHomeId s.peer.lNode s.peer.rNode hheader
    ((encrypted ++ s.buf).length + header.length + authTagLen)
  have hlink := encryptAndAuth_eq_ccmEncryptAndAuth (env.aes (s.sg s.peer.classId).encKey)
    (nextNonceGenerate env.aes (s.spanTable i).rng).1 ⟨_, hpos, by omega⟩
      ⟨encrypted ++ s.buf, htext⟩
  rw [codes_agree _ _ _ _ hlt, Option.some_inj] at hlink
  rw [hlink]
  rfl

/-- The command of three bytes that switches a device on, behind a header of four bytes. -/
theorem sealMessage_eq_standard_switchOn :
    (sealMessage sampleEnv ⟨0, Nat.zero_lt_succ _⟩ [0x9F, 0x03, 1, 0] []
        { emptyCtx 1 Drbg.zero with buf := [0x25, 0x01, 0xFF] }).2 = [0x9F, 0x03, 1, 0] ++
      parameters.generationEncryption (sampleEnv.aes zeroBlock)
        (nonceBytes (nextNonceGenerate sampleEnv.aes Drbg.zero).1)
        (makeAad 1 0 0 [0x9F, 0x03, 1, 0] 15) [0x25, 0x01, 0xFF] :=
  sealMessage_eq_standard sampleEnv _ _ _ _ (by decide) (by decide)

namespace Link

variable (env : Env) (link : Link) (m : Message)

/-- The sender after the message, and the frame that it builds. -/
def sent : S2 × List UInt8 :=
  sealMessage env link.outgoing m.header m.encrypted { link.sender with buf := m.payload }

/-- The nonce that both sides draw. -/
def nonce : Block := (nextNonceGenerate env.aes (link.sender.spanTable link.outgoing).rng).1

/-- The additional data that both sides make. -/
def aad : List UInt8 :=
  makeAad link.sender.myHomeId link.sender.peer.lNode link.sender.peer.rNode m.header
    (m.plain.length + m.header.length + authTagLen)

/-- What follows the header. -/
def ciphertext : List UInt8 :=
  ccmEncryptAndAuth (env.aes (link.sender.sg link.sender.peer.classId).encKey) (link.nonce env)
    (link.aad m) m.plain

theorem frame_eq : (link.sent env m).2 = m.header ++ link.ciphertext env m := rfl

theorem sent_rng : ((link.sent env m).1.spanTable link.outgoing).rng =
    (nextNonceGenerate env.aes (link.sender.spanTable link.outgoing).rng).2 := by
  simp [sent, sealMessage, S2.modifySpan]

theorem length_frame : (link.sent env m).2.length = m.plain.length + m.header.length +
    authTagLen := by
  rw [frame_eq, length_append, ciphertext, length_ccmEncryptAndAuth]
  omega

/-- The receiver after the message, and what it opens. -/
def opened (nonces : Option (Block × Block)) : S2 × Connection × List UInt8 :=
  decryptBody env link.conn (some link.incoming) (link.sent env m).2 m.header.length
    ⟨link.receiver, none, nonces⟩

/-- The first turn of the class loop authenticates the frame with the class of the entry. -/
theorem opened_eq (nonces : Option (Block × Block)) : ∃ workbuf conn, link.opened env m nonces =
    ({ link.receiver with workbuf := workbuf }.modifySpan link.incoming fun span ↦
      { span with
        rng := (nextNonceGenerate env.aes (link.sender.spanTable link.outgoing).rng).2
        state := .negotiated },
      conn, m.plain) := by
  have hfilled : link.aad m ≠ [] :=
    ne_nil_of_length_pos (length_makeAad _ _ _ (m.fits.trans (by decide)) _).1
  have haad : makeAad link.receiver.myHomeId link.conn.rNode link.conn.lNode
      ((link.sent env m).2.take m.header.length) (link.sent env m).2.length = link.aad m := by
    rw [link.homeId, link.nodes.1, link.nodes.2, link.length_frame, link.frame_eq, take_left]
    rfl
  obtain ⟨workbuf, heq⟩ := decryptBody_some env link.conn link.incoming
    (link.sent env m).2 m.header.length ⟨link.receiver, none, nonces⟩ haad
  have hattempt : attemptClass env link.incoming (link.aad m) (link.ciphertext env m)
      { link.receiver with workbuf := workbuf } =
      ({ link.receiver with workbuf := workbuf }.modifySpan link.incoming fun span ↦
        { span with rng := (nextNonceGenerate env.aes (link.sender.spanTable link.outgoing).rng).2
          }, m.plain) := by
    have hloaded : S2.isLoaded { link.receiver with workbuf := workbuf } link.sender.peer.classId =
      true := link.loaded
    unfold attemptClass
    dsimp only
    rw [link.classId, if_pos hloaded, link.generator, link.key]
    exact congrArg _ (ccmDecryptAndAuth_encrypt _ (link.nonce env) (link.aad m) m.plain)
  obtain ⟨conn, hclasses⟩ := tryClasses_authentic env link.conn nonces 6 hattempt m.text
  rw [link.frame_eq, drop_left] at heq
  refine ⟨workbuf, conn, heq.trans ?_⟩
  dsimp only
  rw [show nSecClass = 6 + 1 from rfl, hclasses, if_neg hfilled, modifySpan_modifySpan]

/-- The link after a message, with the contexts as the two sides leave them. -/
def exchange : Link where
  sender := (link.sent env m).1
  receiver := (link.opened env m none).1
  outgoing := link.outgoing
  incoming := link.incoming
  conn := link.conn
  homeId := by
    obtain ⟨workbuf, conn, heq⟩ := link.opened_eq env m none
    rw [heq]
    exact link.homeId
  nodes := link.nodes
  generator := by
    obtain ⟨workbuf, conn, heq⟩ := link.opened_eq env m none
    rw [heq, modifySpan_same, sent_rng]
  classId := by
    obtain ⟨workbuf, conn, heq⟩ := link.opened_eq env m none
    rw [heq, modifySpan_same]
    exact link.classId
  key := by
    obtain ⟨workbuf, conn, heq⟩ := link.opened_eq env m none
    rw [heq]
    exact link.key
  loaded := by
    obtain ⟨workbuf, conn, heq⟩ := link.opened_eq env m none
    rw [heq]
    exact link.loaded

/-- Messages that arrive in order are all opened. -/
theorem messages_opened (messages : List Message) :
    collect (exchange env)
      (fun link m ↦ [(link.opened env m none).2.2]) link messages = messages.map Message.plain := by
  induction messages generalizing link with
  | nil => rfl
  | cons m rest ih =>
    obtain ⟨workbuf, conn, heq⟩ := link.opened_eq env m none
    rw [collect, ih, heq]
    rfl

/-- The context of a node that has negotiated a SPAN of the class `S2_ACCESS` with another node. -/
def negotiatedCtx (lNode rNode : UInt16) : S2 :=
  ({ emptyCtx 0xC0FFEE Drbg.zero with
    peer := ⟨lNode, rNode, 0, 0, 0, accessKeySlot⟩
    loadedKeys := 4 }).modifySpan ⟨0, Nat.zero_lt_succ _⟩ fun _ ↦
      ⟨Drbg.zero, lNode, rNode, 0, 0, accessKeySlot, .negotiated⟩

/-- Nodes 1 and 2 are in step. -/
def sampleLink : Link where
  sender := negotiatedCtx 1 2
  receiver := negotiatedCtx 2 1
  outgoing := ⟨0, Nat.zero_lt_succ _⟩
  incoming := ⟨0, Nat.zero_lt_succ _⟩
  conn := ⟨2, 1, 0, 0, 0, 0⟩
  homeId := rfl
  nodes := ⟨rfl, rfl⟩
  generator := rfl
  classId := rfl
  key := rfl
  loaded := rfl

/-- A command behind a header without extensions. -/
def sampleMessage (seq value : UInt8) : Message where
  header := [commandClassSecurity2, security2MessageEncapsulation, seq, 0]
  encrypted := []
  payload := [0x25, 0x01, value]
  fits := by simp
  text := by simp
  short := by simp [authTagLen]

/-- Node 1 switches node 2 on, off and on again. -/
theorem messages_opened_switched :
    collect (exchange sampleEnv) (fun link m ↦ [(link.opened sampleEnv m none).2.2]) sampleLink
      [sampleMessage 1 0xFF, sampleMessage 2 0x00, sampleMessage 3 0xFF] =
      [[0x25, 0x01, 0xFF], [0x25, 0x01, 0x00], [0x25, 0x01, 0xFF]] :=
  messages_opened sampleEnv sampleLink _

end Link

end ZipGateway.SecurityS2
