import ZipGateway.SecurityS2.Model

/-!
# Security 2: received frames, and runs of the module

The model of `src/libs2/protocol/S2.c`, second part: `S2_decrypt_msg`, the command handler, the
updates of the keys, and the calls with which the rest of the gateway enters the module.

The two loops of `S2_decrypt_msg` over extensions are one function, `parseExtensions`, with the
handler of an extension and the limit on the header as parameters. An extension is read from the
bytes that start at `ext_data`; bytes behind the frame, which a 16-bit `hdr_len` could only reach by
wrapping around, read as zero. The ciphertext is decrypted in place in the source and restored from
`workbuf` before the next class is tried, so that every attempt sees the received bytes.

`Env.Reacts` says which environments the module can meet: those whose callbacks do nothing but call
the module again, to any finite depth. Its parameter is a condition on every such call.
-/

set_option autoImplicit false

namespace ZipGateway.SecurityS2

open Lib

/-! ### Extensions -/

/-- The length of the extension at `ext_data`. -/
def extLen (ext : List UInt8) : UInt8 := ext.getD 0 0

/-- The type byte of the extension at `ext_data`, with its flags. -/
def extHeader (ext : List UInt8) : UInt8 := ext.getD 1 0

/-- The type of the extension at `ext_data`. -/
def extType (ext : List UInt8) : UInt8 := extHeader ext &&& typeMask

/-- The extension at `ext_data` is followed by another one. -/
def extMore (ext : List UInt8) : Bool := extHeader ext &&& moreFlag != 0

/-- The extension at `ext_data` must be understood. -/
def extCritical (ext : List UInt8) : Bool := extHeader ext &&& criticalFlag != 0

/-- A loop of `S2_decrypt_msg` over extensions. `handle` says what an extension does and whether the
loop goes on; the result is the length of the header, or `none` after a parse failure. Every turn
consumes a byte of `ext`, whose length is enough fuel. -/
def parseExtensions {Local : Type} (limit : ℕ) (handle : List UInt8 → Local → Local × Bool) :
    ℕ → ℕ → List UInt8 → Local → Local × Option ℕ
  | 0, _, _, state => (state, none)
  | fuel + 1, hdrLen, ext, state =>
    let hdrLen := (hdrLen + (extLen ext).toNat) % 65536
    if limit < hdrLen ∨ extLen ext = 0 then (state, none)
    else
      match handle ext state with
      | (state, false) => (state, none)
      | (state, true) =>
        if extMore ext then
          parseExtensions limit handle fuel hdrLen (ext.drop (extLen ext).toNat) state
        else (state, some hdrLen)

/-! ### Decryption -/

/-- What the loop over the clear extensions changes: the context, the variable `mpan`, and the
variables `s_nonce` and `r_nonce`, which hold nothing before an extension fills them. -/
structure ClearState where
  s : S2
  mpan : Option (Fin mpanTableSize)
  nonces : Option (Block × Block)

/-- The frame was received as a multicast. -/
def Connection.isMulticast (conn : Connection) : Bool := conn.rxOptions &&& rxMulticast != 0

/-- One clear extension of `S2_decrypt_msg`. -/
def clearExtension (env : Env) (conn : Connection) (span : Option (Fin spanTableSize))
    (ext : List UInt8) (state : ClearState) : ClearState × Bool :=
  let s := state.s
  if extType ext = typeSn then
    match span with
    | none => (state, true)
    | some i =>
      if (s.spanTable i).state = .sosLocalNonce ∧ extLen ext = 18 then
        let sNonce := padBlock (ext.drop 2)
        let rNonce := (s.spanTable i).rNonce
        let s := s.modifySpan i fun span ↦
          { span with
            state := .instantiate
            rng := nextNonceInstantiate env.aes sNonce rNonce (s.sg span.classId).nonceKey }
        ({ state with s := s, nonces := some (sNonce, rNonce) }, true)
      else (state, true)
  else if extType ext = typeMgrp then
    if extLen ext ≠ 3 then (state, false)
    else if conn.isMulticast then
      ({ state with mpan := lookupMpan conn.rNode (ext.getD 2 0) s }, true)
    else
      let (s, i) := findMpanByGroupId env conn.rNode (ext.getD 2 0) s
      ({ state with s := s, mpan := some i }, true)
  else if extType ext = typeMos then
    if extLen ext ≠ 2 then (state, false)
    else ({ state with s := setNodeMos conn.rNode s }, true)
  else (state, !extCritical ext)

/-- The clear extensions of a message, when its flags announce some. -/
def parseClear (env : Env) (conn : Connection) (span : Option (Fin spanTableSize))
    (msg : List UInt8) (state : ClearState) : ClearState × Option ℕ :=
  if msg.getD 3 0 &&& extensionBitMask ≠ 0 then
    parseExtensions (msg.length - authTagLen) (clearExtension env conn span) msg.length 4
      (msg.drop 4) state
  else (state, some 4)

/-- A MGRP extension in an authentic singlecast: the frame is a follow-up, and either the group is
reported out of sync or its MPAN moves on. -/
def followUp (env : Env) (conn : Connection) (mpan : Option (Fin mpanTableSize)) (s : S2) :
    S2 × Connection :=
  match mpan with
  | none => (s, conn)
  | some j =>
    let conn := { conn with rxOptions := conn.rxOptions ||| rxFollowup }
    if (s.mpanTable j).state = .mos then
      (fsmPostEvent env (.gotEncMsgMos conn) { s with mpan := some j }, conn)
    else (nextMpanState j s, conn)

/-- The step of the class loop of `S2_decrypt_msg` to the next class, with a new seed. -/
def nextClass (env : Env) (i : Fin spanTableSize) (nonces : Option (Block × Block)) (s : S2) : S2 :=
  let class' := (s.spanTable i).classId + 1
  let class' := if nSecClass ≤ class'.toNat then 0 else class'
  let (sNonce, rNonce) := nonces.getD (env.stackNonces s)
  let s := s.modifySpan i fun span ↦
    { span with
      classId := class'
      rng := nextNonceInstantiate env.aes sNonce rNonce (s.sg class').nonceKey }
  s.logged (.reseeded nonces.isSome)

/-- One attempt of the class loop of `S2_decrypt_msg`: the plaintext, empty when the class of the
SPAN has no key or does not authenticate the frame. -/
def attemptClass (env : Env) (i : Fin spanTableSize) (aad ciphertext : List UInt8) (s : S2) :
    S2 × List UInt8 :=
  let classId := (s.spanTable i).classId
  if s.isLoaded classId then
    let (nonce, rng) := nextNonceGenerate env.aes (s.spanTable i).rng
    (s.modifySpan i fun span ↦ { span with rng := rng },
      ccmDecryptAndAuth (env.aes (s.sg classId).encKey) nonce aad ciphertext)
  else (s, [])

/-- The class loop of `S2_decrypt_msg`: the context, the connection and the plaintext, which is
empty when no class authenticates the frame. -/
def tryClasses (env : Env) (conn : Connection) (i : Fin spanTableSize)
    (mpan : Option (Fin mpanTableSize)) (nonces : Option (Block × Block))
    (aad ciphertext : List UInt8) : ℕ → S2 → S2 × Connection × List UInt8
  | 0, s => (s, conn, [])
  | turns + 1, s =>
    let (s, plain) := attemptClass env i aad ciphertext s
    if plain ≠ [] then
      let s := s.modifySpan i fun span ↦ { span with state := .negotiated }
      let (s, conn) := followUp env { conn with classId := (s.spanTable i).classId } mpan s
      (s, conn, plain)
    else if s.fsm ≠ .idle ∨ (s.spanTable i).state = .negotiated then (s, conn, [])
    else tryClasses env conn i mpan nonces aad ciphertext turns (nextClass env i nonces s)

/-- The multicast decryption of `S2_decrypt_msg`. -/
def decryptMulticast (env : Env) (conn : Connection) (j : Fin mpanTableSize)
    (aad ciphertext : List UInt8) (s : S2) : S2 × Connection × List UInt8 :=
  let entry := s.mpanTable j
  let nonce := env.aes (s.sg entry.classId).mpanKey entry.innerState
  (nextMpanState j s, { conn with classId := entry.classId },
    ccmDecryptAndAuth (env.aes (s.sg entry.classId).encKey) nonce aad ciphertext)

/-- One encrypted extension of `S2_decrypt_msg`; `classId` is the class of the SPAN. -/
def encryptedExtension (env : Env) (classId : UInt8) (ext : List UInt8) (state : S2 × Connection) :
    (S2 × Connection) × Bool :=
  let (s, conn) := state
  if extType ext = typeMpan then
    if conn.isMulticast ∨ extLen ext ≠ 19 then (state, false)
    else
      let (s, i) := findMpanByGroupId env conn.rNode (ext.getD 2 0) s
      let s := s.modifyMpan i fun entry ↦
        { entry with innerState := padBlock (ext.drop 3), state := .set, classId := classId }
      ((s, { conn with rxOptions := conn.rxOptions ||| rxFollowup }), true)
  else (state, !extCritical ext)

/-- The tag of a message, which stays in the memory behind its plaintext. -/
def msgTag (msg : List UInt8) : List UInt8 := msg.drop (msg.length - authTagLen)

/-- The encrypted extensions of a message, when its flags announce some. -/
def parseEncrypted (env : Env) (classId : UInt8) (msg plain : List UInt8)
    (state : S2 × Connection) : (S2 × Connection) × Option ℕ :=
  if msg.getD 3 0 &&& encryptedExtensionBitMask ≠ 0 then
    parseExtensions plain.length (encryptedExtension env classId) (msg.length + 1) 0
      (plain ++ msgTag msg) state
  else (state, some 0)

/-- `decrypt_return_code_t`, with the plaintext of a success. -/
inductive DecryptResult
  | authOk (plainText : List UInt8)
  | parseFail
  | authFail
  | sequenceFail
deriving DecidableEq

/-- The MPAN entry of a frame that is not authentic is out of sync. -/
def invalidateMpan (mpan : Option (Fin mpanTableSize)) (s : S2) : S2 :=
  match mpan with
  | some j => s.modifyMpan j fun entry ↦ { entry with state := .mos }
  | none => s

/-- The SPAN entry of a frame that is not authentic is out of sync. -/
def invalidateSpan (span : Option (Fin spanTableSize)) (s : S2) : S2 :=
  match span with
  | some i => s.modifySpan i fun span ↦ { span with state := .sos }
  | none => s

/-- `auth_fail` of `S2_decrypt_msg`. -/
def authFail (env : Env) (conn : Connection) (span : Option (Fin spanTableSize))
    (mpan : Option (Fin mpanTableSize)) (s : S2) : S2 :=
  let s := invalidateSpan span (invalidateMpan mpan s)
  if conn.isMulticast then s
  else sendNonceReport env conn (if mpan.isSome then sosBitMask ||| mosBitMask else sosBitMask) s

/-- The start of `S2_decrypt_msg` before the extensions: the SPAN of a singlecast, or `none` for a
duplicate. -/
def decryptSpan (env : Env) (conn : Connection) (msg : List UInt8) (s : S2) :
    S2 × Option (Option (Fin spanTableSize)) :=
  if conn.isMulticast then (s, some none)
  else
    let (s, fresh) := verifySeq env conn (msg.getD 2 0) s
    if fresh then
      let (s, i) := findSpanByNode env conn s
      (s, some (some i))
    else (s, none)

/-- The part of `S2_decrypt_msg` that decrypts, for a frame with a security header of `hdrLen`
bytes. -/
def decryptBody (env : Env) (conn : Connection) (span : Option (Fin spanTableSize))
    (msg : List UInt8) (hdrLen : ℕ) (state : ClearState) :
    S2 × Connection × List UInt8 :=
  let s := state.s
  let header := msg.take hdrLen
  let ciphertext := msg.drop hdrLen
  let aad := makeAad s.myHomeId conn.rNode conn.lNode header msg.length
  let (s, conn, plain) := match span with
    | some i =>
      let s := if s.fsm = .idle ∧ (s.spanTable i).state = .instantiate then
          { s with workbuf := writeBuf s.workbuf 0 ciphertext }
        else s
      tryClasses env conn i state.mpan state.nonces aad ciphertext nSecClass s
    | none =>
      match state.mpan with
      | some j => decryptMulticast env conn j aad ciphertext s
      | none => (s, conn, [])
  (s, conn, if aad = [] then [] else plain)

/-- The tests of `S2_decrypt_msg` between parsing and decryption: the connection that the additional
data is made for, or `none` when the frame cannot be decrypted. -/
def decryptable (conn : Connection) (span : Option (Fin spanTableSize)) (state : ClearState) :
    Option Connection :=
  match span with
  | some i =>
    let spanState := (state.s.spanTable i).state
    if spanState = .negotiated ∨ spanState = .instantiate then some conn else none
  | none =>
    match state.mpan with
    | none => none
    | some j =>
      let entry := state.s.mpanTable j
      if entry.state = .set then some { conn with lNode := entry.groupId.toUInt16 } else none

def spanClass (span : Option (Fin spanTableSize)) (s : S2) : UInt8 :=
  match span with
  | some i => (s.spanTable i).classId
  | none => 0

/-- The end of `S2_decrypt_msg` behind the decryption. -/
def finishDecrypt (env : Env) (conn : Connection) (span : Option (Fin spanTableSize))
    (mpan : Option (Fin mpanTableSize)) (msg plain : List UInt8) (s : S2) :
    S2 × Connection × DecryptResult :=
  if plain = [] then (authFail env conn span mpan s, conn, .authFail)
  else
    match parseEncrypted env (spanClass span s) msg plain (s, conn) with
    | ((s, conn), none) => (s, conn, .parseFail)
    | ((s, conn), some hdrLen) => (s, conn, .authOk (plain.drop hdrLen))

/-- `S2_decrypt_msg` behind the clear extensions. -/
def decryptParsed (env : Env) (conn : Connection) (span : Option (Fin spanTableSize))
    (msg : List UInt8) (hdrLen : ℕ) (state : ClearState) : S2 × Connection × DecryptResult :=
  match decryptable conn span state with
  | none => (authFail env conn span state.mpan state.s, conn, .authFail)
  | some conn =>
    let (s, conn, plain) := decryptBody env conn span msg hdrLen state
    finishDecrypt env conn span state.mpan msg plain s

/-- `S2_decrypt_msg`: the context, the connection and the result. -/
def decryptMsg (env : Env) (conn : Connection) (msg : List UInt8) (s : S2) :
    S2 × Connection × DecryptResult :=
  if msg.length < 4 + authTagLen then (s, conn, .parseFail)
  else
    match decryptSpan env conn msg s with
    | (s, none) => (s, conn, .sequenceFail)
    | (s, some span) =>
      match parseClear env conn span msg ⟨s, none, none⟩ with
      | (state, none) => (state.s, conn, .parseFail)
      | (state, some hdrLen) => decryptParsed env conn span msg hdrLen state

/-! ### Received commands -/

def security2CommandsSupportedGet : UInt8 := 0x0D

def security2CommandsSupportedReport : UInt8 := 0x0E

def kexFail : UInt8 := 0x07

def unencryptedClass : UInt8 := 0xFF

/-- The answer to `SECURITY_2_COMMANDS_SUPPORTED_GET`, when it fits into its buffer of 40 bytes. -/
def sendCommandsSupported (env : Env) (src : Connection) (s : S2) : S2 :=
  let classes := env.getCommandsSupported src.lNode src.classId
  if 40 < classes.length + 2 then s
  else
    (sendData env src (some ([commandClassSecurity2, security2CommandsSupportedReport] ++ classes))
      s).1

/-- What `S2_application_command_handler` does with a decrypted command. `tag` is the memory behind
it, which the second byte of a command of one byte is read from. -/
def dispatchPlainText (env : Env) (src : Connection) (plainText tag : List UInt8) (s : S2) : S2 :=
  let command := (plainText ++ tag).getD 1 0
  if plainText = [] then s
  else if plainText.getD 0 0 = commandClassSecurity2 ∧
      command ≠ security2CommandsSupportedReport then
    if src.isMulticast then s
    else if command = security2CommandsSupportedGet then sendCommandsSupported env src s
    else env.hook { s with buf := plainText } (.inclusionPostEvent src)
  else
    let src := if isLrNode src.rNode then convertLrToNormalKeyclass src else src
    env.hook s (.msgReceivedEvent src plainText)

/-- The case `SECURITY_2_MESSAGE_ENCAPSULATION` of `S2_application_command_handler`. -/
def handleEncapsulation (env : Env) (src : Connection) (buf : List UInt8) (s : S2) : S2 :=
  match decryptMsg env src buf s with
  | (s, src, .authOk plainText) =>
    dispatchPlainText env src plainText (msgTag buf) (fsmPostEvent env (.gotEncMsg src) s)
  | (s, src, .authFail) =>
    env.hook (fsmPostEvent env (.gotBadEncMsg src) s) (.inclusionDecryptionFailure src)
  | (s, _, .parseFail) => s
  | (s, _, .sequenceFail) => s

/-- `S2_application_command_handler`. -/
def applicationCommandHandler (env : Env) (src : Connection) (buf : List UInt8) (s : S2) : S2 :=
  let command := buf.getD 1 0
  if buf.getD 0 0 ≠ commandClassSecurity2 then s
  else if command = security2NonceGet then
    if src.isMulticast ∨ buf.length < 3 then s
    else
      let (s, fresh) := verifySeq env src (buf.getD 2 0) s
      if fresh then sendNonceReport env src sosBitMask s else s
  else if command = security2NonceReport then fsmPostEvent env (.gotNonceRaport src buf) s
  else if command = security2MessageEncapsulation then handleEncapsulation env src buf s
  else if s.fsm ≠ .idle ∧ command ≠ kexFail then s
  else if src.isMulticast then s
  else
    env.hook { s with buf := buf } (.inclusionPostEvent { src with classId := unencryptedClass })

/-! ### Keys and initialization -/

/-- `S2_network_key_update`. -/
def networkKeyUpdate (env : Env) (classId : UInt8) (netKey : Block) (tempKeyExpand : Bool)
    (s : S2) : S2 :=
  if nSecClass ≤ classId.toNat then s
  else
    let keys := if tempKeyExpand then tempkeyExpand env.aes netKey
      else networkkeyExpand env.aes netKey
    { s with
      sg := Function.update s.sg classId keys
      loadedKeys := s.loadedKeys ||| (1#8 <<< classId.toNat) }

/-- `s2_restore_keys`, with the keys that the keystore holds for the slots of `m_key_slot_pair`. -/
def restoreKeys (env : Env) (keystore : Fin 5 → Option Block) (s : S2) : S2 :=
  (List.finRange 5).foldl (fun s slot ↦
    match keystore slot with
    | none => s
    | some key => networkKeyUpdate env (UInt8.ofNat slot) key false s) { s with loadedKeys := 0 }

/-- A cleared generator. -/
def Drbg.zero : Drbg := ⟨0, zeroBlock, zeroBlock⟩

/-- The cleared context that `S2_init_ctx` starts from, with the state of the static generator. -/
def emptyCtx (home : UInt32) (drbg : Drbg) : S2 where
  sg := fun _ ↦ ⟨zeroBlock, zeroBlock, (zeroBlock, zeroBlock)⟩
  loadedKeys := 0
  myHomeId := home
  peer := ⟨0, 0, 0, 0, 0, 0⟩
  buf := []
  mpan := none
  spanTable := fun _ ↦ ⟨Drbg.zero, 0, 0, 0, 0, 0, .notUsed⟩
  mpanTable := fun _ ↦ ⟨0, 0, zeroBlock, 0, .notUsed⟩
  mosList := fun _ ↦ ⟨0, 0⟩
  fsm := .idle
  retry := 0
  workbuf := fun _ ↦ 0
  drbg := drbg
  log := []

/-- `S2_init_ctx`, with the keys that the keystore holds. -/
def initCtx (env : Env) (home : UInt32) (keystore : Fin 5 → Option Block) (drbg : Drbg) : S2 :=
  restoreKeys env keystore (emptyCtx home drbg)

/-! ### Calls and runs -/

/-- The ways the rest of the gateway enters the module. -/
inductive Call
  | sendData (dst : Connection) (buf : Option (List UInt8))
  | sendDataMulticast (con : Connection) (buf : Option (List UInt8))
  | sendDataWithKeyset (con : Connection) (keyset : Keyset) (payload : Option (List UInt8))
      (kind : SendKind)
  | sendFrameDoneNotify (status : UInt8) (time : UInt16)
  | timeoutNotify
  | applicationCommandHandler (src : Connection) (buf : List UInt8)
  | networkKeyUpdate (classId : UInt8) (netKey : Block) (tempKeyExpand : Bool)
  | restoreKeys (keystore : Fin 5 → Option Block)
  | freeMpan (ownerId : UInt16) (groupId : UInt8)
  | initPrng (entropy : Seed)

/-- One call, as the source runs it. -/
def enter (env : Env) (s : S2) : Call → S2
  | .sendData dst buf => (sendData env dst buf s).1
  | .sendDataMulticast con buf => (sendDataMulticast env con buf s).1
  | .sendDataWithKeyset con keyset payload kind =>
    (sendDataWithKeyset env con keyset payload kind s).1
  | .sendFrameDoneNotify status time => fsmPostEvent env (.sendDone status time) s
  | .timeoutNotify => fsmPostEvent env .timeout s
  | .applicationCommandHandler src buf => applicationCommandHandler env src buf s
  | .networkKeyUpdate classId netKey tempKeyExpand =>
    networkKeyUpdate env classId netKey tempKeyExpand s
  | .restoreKeys keystore => restoreKeys env keystore s
  | .freeMpan ownerId groupId => freeMpan ownerId groupId s
  | .initPrng entropy =>
    { s with drbg := aesCtrDrbgInstantiate env.aes entropy (zeroBlock, zeroBlock) }

/-- The environments the module can meet: a callback does nothing, or it calls the module again,
with calls that are allowed in the contexts in which they are made, with callbacks that are such
again and with the same cipher. -/
inductive Env.Reacts (allowed : S2 → Call → Prop) : Env → Prop
  | silent (env : Env) (hsilent : ∀ s hook, env.hook s hook = s) : Env.Reacts allowed env
  | calls (env inner : Env) (hinner : Env.Reacts allowed inner) (haes : inner.aes = env.aes)
      (calls : S2 → Hook → List Call)
      (hallowed : ∀ s hook, AllSteps (enter inner) allowed s (calls s hook))
      (hhook : ∀ s hook, env.hook s hook = run (enter inner) s (calls s hook)) :
      Env.Reacts allowed env

/-- What every call keeps, whatever the callbacks do as long as they keep it, every callback that
the module can meet keeps. -/
theorem Env.Reacts.hook_invariant {allowed : S2 → Call → Prop} {property : S2 → Prop}
    (hcall : ∀ (env : Env), (∀ s hook, property s → property (env.hook s hook)) →
      ∀ s call, allowed s call → property s → property (enter env s call))
    {env : Env} (hreacts : env.Reacts allowed) :
    ∀ s hook, property s → property (env.hook s hook) := by
  induction hreacts with
  | silent env hsilent =>
    intro s hook hs
    rw [hsilent]
    exact hs
  | calls env inner _ _ calls hallowed hhook ih =>
    intro s hook hs
    rw [hhook]
    exact run_invariant_of_allSteps (hcall inner ih) hs (hallowed s hook)

/-- The invariant rule of the module: what holds initially and what every allowed call keeps,
whatever the callbacks do as long as they keep it, holds at the end of every run of allowed
calls. -/
theorem run_invariant_of_reacts {allowed : S2 → Call → Prop} {property : S2 → Prop}
    (hcall : ∀ (env : Env), (∀ s hook, property s → property (env.hook s hook)) →
      ∀ s call, allowed s call → property s → property (enter env s call))
    {env : Env} (hreacts : env.Reacts allowed) {start : S2} (hstart : property start)
    {calls : List Call} (hallowed : AllSteps (enter env) allowed start calls) :
    property (run (enter env) start calls) :=
  run_invariant_of_allSteps (hcall env (hreacts.hook_invariant hcall)) hstart hallowed

/-- A small environment to evaluate the model in: the cipher adds the key to the block, every frame
is taken and the callbacks do nothing. -/
def sampleEnv : Env where
  aes := xorBlock
  sendFrame := fun _ _ _ ↦ true
  sendFrameMulti := fun _ _ _ ↦ true
  getCommandsSupported := fun _ _ ↦ []
  stackNonces := fun _ ↦ (zeroBlock, zeroBlock)
  hook := fun s _ ↦ s

/-- The connection of node 1 with node 2. -/
def sampleConnection : Connection := ⟨1, 2, 0, 0, 0, 0⟩

theorem sampleEnv_reacts (allowed : S2 → Call → Prop) : sampleEnv.Reacts allowed :=
  .silent sampleEnv fun _ _ ↦ rfl

end ZipGateway.SecurityS2
