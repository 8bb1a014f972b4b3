import Mathlib.Algebra.GroupWithZero.Nat
import ZipGateway.Lib.Run
import ZipGateway.Lib.SlotTable
import ZipGateway.SecurityS2.Crypto

/-!
# Security 2: the context and the transmit state machine

The model of `src/libs2/protocol/S2.c`, first part: the context `struct S2` with its SPAN, MPAN and
MOS tables, the frames the module sends, and `S2_fsm_post_event`. Receiving is modelled in
`ZipGateway.SecurityS2.Receive`.

The sizes are those of a controller (`ZW_CONTROLLER`), as the gateway is built. Pointers into the
tables are indices. `buf` holds the `length` bytes at the source's pointer of that name. The union
in `struct SPAN` is its random generator, and `Span.rNonce` is the other view of the same bytes. The
static generator `s2_ctr_drbg` is a field of the context.

The block cipher, the radio and the code that the module calls back are the environment `Env`. What
the radio answers and what a callback does may depend on the whole context. The inclusion machine
`s2_inclusion.c` is one of the callbacks: all it does to the fields modelled here is to call the
module again. `log` records, newest first, what the module did; no function reads it. Timers are
not modelled, a timeout may be notified at any time.
-/

set_option autoImplicit false

namespace ZipGateway.SecurityS2

open Function Lib

/-! ### Constants -/

def commandClassSecurity2 : UInt8 := 0x9F

def security2NonceGet : UInt8 := 0x01

def security2NonceReport : UInt8 := 0x02

def security2MessageEncapsulation : UInt8 := 0x03

/-- `SECURITY_2_NONCE_REPORT_PROPERTIES1_SOS_BIT_MASK`. -/
def sosBitMask : UInt8 := 0x01

/-- `SECURITY_2_NONCE_REPORT_PROPERTIES1_MOS_BIT_MASK`. -/
def mosBitMask : UInt8 := 0x02

/-- `SECURITY_2_MESSAGE_ENCAPSULATION_PROPERTIES1_EXTENSION_BIT_MASK`. -/
def extensionBitMask : UInt8 := 0x01

/-- `SECURITY_2_MESSAGE_ENCAPSULATION_PROPERTIES1_ENCRYPTED_EXTENSION_BIT_MASK`. -/
def encryptedExtensionBitMask : UInt8 := 0x02

/-- `S2_MSG_EXTHDR_CRITICAL_FLAG`. -/
def criticalFlag : UInt8 := 0x40

/-- `S2_MSG_EXTHDR_MORE_FLAG`. -/
def moreFlag : UInt8 := 0x80

/-- `S2_MSG_EXTHDR_TYPE_MASK`. -/
def typeMask : UInt8 := 0x3F

/-- `S2_MSG_EXTHDR_TYPE_SN`. -/
def typeSn : UInt8 := 1

/-- `S2_MSG_EXTHDR_TYPE_MPAN`. -/
def typeMpan : UInt8 := 2

/-- `S2_MSG_EXTHDR_TYPE_MGRP`. -/
def typeMgrp : UInt8 := 3

/-- `S2_MSG_EXTHDR_TYPE_MOS`. -/
def typeMos : UInt8 := 4

/-- `S2_TXOPTION_VERIFY_DELIVERY`. -/
def txVerifyDelivery : UInt8 := 1

/-- `S2_TXOPTION_SINGLECAST_FOLLOWUP`. -/
def txSinglecastFollowup : UInt8 := 2

/-- `S2_TXOPTION_FIRST_SINGLECAST_FOLLOWUP`. -/
def txFirstSinglecastFollowup : UInt8 := 4

/-- `S2_RXOPTION_MULTICAST`. -/
def rxMulticast : UInt8 := 1

/-- `S2_RXOPTION_FOLLOWUP`. -/
def rxFollowup : UInt8 := 2

/-- `S2_TRANSMIT_COMPLETE_OK`. -/
def transmitCompleteOk : UInt8 := 0x00

/-- `S2_TRANSMIT_COMPLETE_FAIL`. -/
def transmitCompleteFail : UInt8 := 0x02

/-- `S2_TRANSMIT_COMPLETE_VERIFIED`. -/
def transmitCompleteVerified : UInt8 := 0x05

/-- `S2_SEQ_DUPL_WINDOW_SIZE`. -/
def seqDuplWindowSize : UInt8 := 2

def sendDataTimeout : UInt16 := 65000

/-- `AUTHENTICATED_KEY_SLOT`, `ACCESS_KEY_SLOT` and their long range counterparts. -/
def authenticatedKeySlot : UInt8 := 1

@[inherit_doc authenticatedKeySlot]
def accessKeySlot : UInt8 := 2

@[inherit_doc authenticatedKeySlot]
def lrAuthenticatedKeySlot : UInt8 := 3

@[inherit_doc authenticatedKeySlot]
def lrAccessKeySlot : UInt8 := 4

abbrev nSecClass : ℕ := 7

abbrev spanTableSize : ℕ := 254

abbrev mpanTableSize : ℕ := 254

abbrev mosListLength : ℕ := 3

/-! ### The context -/

/-- `span_state_t`. -/
inductive SpanState
  | notUsed
  | noSeq
  | sos
  | sosLocalNonce
  | sosRemoteNonce
  | instantiate
  | negotiated
deriving DecidableEq, Repr

inductive MpanState
  | notUsed
  | set
  | mos
deriving DecidableEq, Repr

/-- `states_t`. -/
inductive FsmState
  | idle
  | waitNonceRaport
  | sendingMsg
  | sendingMulticast
  | verifyingDelivery
  | isMosWaitReply
deriving DecidableEq, Repr

/-- `s2_connection_t`, without the fields that are only passed through to the radio. -/
structure Connection where
  lNode : UInt16
  rNode : UInt16
  txOptions : UInt8
  rxOptions : UInt8
  mgrpGroupId : UInt8
  classId : UInt8
deriving DecidableEq

/-- `struct SPAN`. -/
structure Span where
  rng : Drbg
  lnode : UInt16
  rnode : UInt16
  rxSeq : UInt8
  txSeq : UInt8
  classId : UInt8
  state : SpanState
deriving DecidableEq

/-- `d.r_nonce`: the first sixteen bytes of the union that also holds the generator. -/
def Span.rNonce (span : Span) : Block :=
  padBlock (span.rng.df :: span.rng.v.toList)

/-- A write to `d.r_nonce`. -/
def Span.setRNonce (span : Span) (nonce : Block) : Span :=
  { span with
    rng := { span.rng with
      df := nonce.get 0
      v := padBlock (nonce.toList.drop 1 ++ [span.rng.v.get 15]) } }

/-- `struct MPAN`. -/
structure Mpan where
  ownerId : UInt16
  groupId : UInt8
  innerState : Block
  classId : UInt8
  state : MpanState
deriving DecidableEq

/-- `struct MOS_LIST`. -/
structure MosEntry where
  nodeId : UInt16
  groupId : UInt8
deriving DecidableEq

/-- What `S2_encrypt_and_send` has at hand when it builds a frame, for the log. -/
structure Encryption where
  /-- `ctxt->buf`. -/
  plain : List UInt8
  /-- The encryption key of the class of the peer. -/
  key : Block
  /-- The state in which the SPAN entry of the peer is found. -/
  state : SpanState
  /-- The generator that the nonce is drawn from. -/
  rng : Drbg
deriving DecidableEq

/-- What the module did, for the log. -/
inductive Act
  /-- A call of the `S2_send_data` family starts to send the bytes. -/
  | requested (con : Connection) (buf : List UInt8)
  /-- A call of the `S2_send_data` family returned 1. -/
  | accepted
  /-- `S2_send_done_event` was emitted. -/
  | sendDone (status : UInt8)
  /-- `S2_send_frame` was given a frame, an encapsulation with what it was built from. -/
  | sentFrame (con : Connection) (frame : List UInt8) (encryption : Option Encryption)
  /-- `S2_send_frame_multi` took a frame. -/
  | sentMulti (con : Connection) (frame : List UInt8)
  /-- A frame was given to `S2_send_frame_no_cb`. -/
  | sentNoCb (con : Connection) (frame : List UInt8)
  /-- `S2_set_timeout` was called. -/
  | setTimeout (interval : UInt16)
  /-- `S2_stop_timeout` was called. -/
  | stopTimeout
  /-- `S2_decrypt_msg` seeded the generator of a SPAN again, with nonces that it had stored while it
  read the frame, or with whatever was in these variables. -/
  | reseeded (fromFrame : Bool)
deriving DecidableEq

/-- `struct S2`. The keys from `N_SEC_CLASS` on stand for the memory behind the array. -/
structure S2 where
  sg : UInt8 → SecGroup
  loadedKeys : BitVec 8
  myHomeId : UInt32
  peer : Connection
  buf : List UInt8
  mpan : Option (Fin mpanTableSize)
  spanTable : Fin spanTableSize → Span
  mpanTable : Fin mpanTableSize → Mpan
  mosList : Fin mosListLength → MosEntry
  fsm : FsmState
  retry : UInt8
  workbuf : ℕ → UInt8
  /-- `s2_ctr_drbg`. -/
  drbg : Drbg
  /-- What the module did, newest first. -/
  log : List Act

/-- The functions outside the module that it calls and that may call it again. -/
inductive Hook
  | inclusionSendDone (success : Bool)
  | inclusionPostEvent (src : Connection)
  | inclusionDecryptionFailure (src : Connection)
  | sendDoneEvent (status : UInt8)
  | msgReceivedEvent (src : Connection) (plainText : List UInt8)
  | resynchronizationEvent (remote : UInt16) (seqNo : UInt8) (lnode : UInt16)

/-- The environment of the module. -/
structure Env where
  /-- `AES128_ECB_encrypt`, by key. -/
  aes : BlockCipher
  /-- `S2_send_frame`: does the radio take the frame. -/
  sendFrame : S2 → Connection → List UInt8 → Bool
  /-- `S2_send_frame_multi`. -/
  sendFrameMulti : S2 → Connection → List UInt8 → Bool
  /-- `S2_get_commands_supported`. -/
  getCommandsSupported : UInt16 → UInt8 → List UInt8
  /-- What is in the variables `s_nonce` and `r_nonce` of `S2_decrypt_msg` at its start. -/
  stackNonces : S2 → Block × Block
  hook : S2 → Hook → S2

/-- The context with an action recorded. -/
def S2.logged (s : S2) (act : Act) : S2 := { s with log := act :: s.log }

/-- The context with one SPAN entry changed. -/
def S2.modifySpan (s : S2) (i : Fin spanTableSize) (change : Span → Span) : S2 :=
  { s with spanTable := update s.spanTable i (change (s.spanTable i)) }

/-- The context with one MPAN entry changed. -/
def S2.modifyMpan (s : S2) (i : Fin mpanTableSize) (change : Mpan → Mpan) : S2 :=
  { s with mpanTable := update s.mpanTable i (change (s.mpanTable i)) }

/-- `ctxt->loaded_keys & (1 << class_id)`. -/
def S2.isLoaded (s : S2) (classId : UInt8) : Bool := s.loadedKeys.getLsbD classId.toNat

/-- `len` bytes of a buffer. -/
def readBuf (memory : ℕ → UInt8) (start len : ℕ) : List UInt8 :=
  (List.range len).map fun i ↦ memory (start + i)

/-- `memcpy` into a buffer. -/
def writeBuf (memory : ℕ → UInt8) (start : ℕ) (bytes : List UInt8) : ℕ → UInt8 := fun i ↦
  if start ≤ i ∧ i < start + bytes.length then bytes.getD (i - start) 0 else memory i

/-- `AES_CTR_DRBG_Generate(&s2_ctr_drbg, ..)`. -/
def random (env : Env) (s : S2) : Block × S2 :=
  let (bytes, drbg) := aesCtrDrbgGenerate env.aes s.drbg
  (bytes, { s with drbg := drbg })

/-- An entry of a table picked by a random byte. -/
def randomSlot (n : ℕ) [NeZero n] (byte : UInt8) : Fin n := Fin.ofNat n byte.toNat

/-! ### Tables -/

/-- The search of `find_mpan_by_group_id`: entries of classes without a key are not seen. -/
def lookupMpan (ownerId : UInt16) (groupId : UInt8) (s : S2) : Option (Fin mpanTableSize) :=
  firstSlot (fun entry : Mpan ↦ entry.state != .notUsed && entry.groupId == groupId &&
    entry.ownerId == ownerId && s.isLoaded entry.classId) s.mpanTable

/-- The second half of `find_mpan_by_group_id`: the first unused entry, or a random one. -/
def allocateMpan (env : Env) (ownerId : UInt16) (groupId : UInt8) (s : S2) :
    S2 × Fin mpanTableSize :=
  let (rnd, s) := random env s
  let i := (firstSlot (fun entry : Mpan ↦ entry.state == .notUsed) s.mpanTable).getD
    (randomSlot mpanTableSize (rnd.get 0))
  let (innerState, s) := random env s
  (s.modifyMpan i fun _ ↦
    { ownerId := ownerId
      groupId := groupId
      innerState := innerState
      classId := s.peer.classId
      state := if ownerId ≠ 0 then .mos else .set }, i)

/-- `find_mpan_by_group_id` with `create_new`; without it the function is `lookupMpan`. -/
def findMpanByGroupId (env : Env) (ownerId : UInt16) (groupId : UInt8) (s : S2) :
    S2 × Fin mpanTableSize :=
  match lookupMpan ownerId groupId s with
  | some i => (s, i)
  | none => allocateMpan env ownerId groupId s

/-- The search of `find_span_by_node`. -/
def lookupSpan (con : Connection) (s : S2) : Option (Fin spanTableSize) :=
  firstSlot (fun span : Span ↦
    span.state != .notUsed && span.lnode == con.lNode && span.rnode == con.rNode) s.spanTable

/-- The second half of `find_span_by_node`: the first unused entry, or a random one. -/
def allocateSpan (env : Env) (con : Connection) (s : S2) : S2 × Fin spanTableSize :=
  let (rnd, s) := random env s
  let i := (firstSlot (fun span : Span ↦ span.state == .notUsed) s.spanTable).getD
    (randomSlot spanTableSize (rnd.get 0))
  (s.modifySpan i fun span ↦
    { span with state := .noSeq, lnode := con.lNode, rnode := con.rNode, txSeq := rnd.get 1 }, i)

/-- `find_span_by_node`. -/
def findSpanByNode (env : Env) (con : Connection) (s : S2) : S2 × Fin spanTableSize :=
  match lookupSpan con s with
  | some i => (s, i)
  | none => allocateSpan env con s

/-- `S2_span_ok`. -/
def spanOk (env : Env) (con : Connection) (s : S2) : S2 × Bool :=
  let (s, i) := findSpanByNode env con s
  let span := s.spanTable i
  (s, (span.state == .negotiated || span.state == .sosRemoteNonce) && span.classId == con.classId)

/-- `S2_verify_seq`. -/
def verifySeq (env : Env) (peer : Connection) (seq : UInt8) (s : S2) : S2 × Bool :=
  let (s, i) := findSpanByNode env peer s
  let span := s.spanTable i
  if span.state = .noSeq ∨ seqDuplWindowSize ≤ span.rxSeq - seq then
    (s.modifySpan i fun span ↦ { span with rxSeq := seq }, true)
  else (s, false)

/-- `S2_is_node_mos`. -/
def isNodeMos (nodeId : UInt16) (s : S2) : Bool :=
  (firstSlot (fun entry : MosEntry ↦ entry.nodeId == nodeId) s.mosList).isSome

/-- The test of the transmit options for a singlecast follow-up. -/
def isFollowup (txOptions : UInt8) : Bool :=
  txOptions &&& (txSinglecastFollowup ||| txFirstSinglecastFollowup) != 0

/-- `S2_set_node_mos`. -/
def setNodeMos (node : UInt16) (s : S2) : S2 :=
  if (s.fsm = .verifyingDelivery ∨ s.fsm = .sendingMsg) ∧ isFollowup s.peer.txOptions then
    match s.mpan with
    | none => s
    | some current =>
      match firstSlot (fun entry : MosEntry ↦ entry.nodeId == 0) s.mosList with
      | none => s
      | some i =>
        { s with mosList := update s.mosList i ⟨node, (s.mpanTable current).groupId⟩ }
  else s

/-- `bigint_add` of a one in the last byte, where the carry is lost. -/
def nextInnerState (innerState : Block) : Block := innerState.set 15 (innerState.get 15 + 1)

/-- `next_mpan_state`. -/
def nextMpanState (i : Fin mpanTableSize) (s : S2) : S2 :=
  s.modifyMpan i fun entry ↦ { entry with innerState := nextInnerState entry.innerState }

/-- `S2_free_mpan`: the first entry of the owner and the group, used or not. -/
def freeMpan (ownerId : UInt16) (groupId : UInt8) (s : S2) : S2 :=
  match firstSlot (fun entry : Mpan ↦ entry.groupId == groupId && entry.ownerId == ownerId)
    s.mpanTable with
  | none => s
  | some i => s.modifyMpan i fun entry ↦ { entry with state := .notUsed }

/-- `S2_set_peer`. -/
def setPeer (peer : Connection) (buf : List UInt8) (s : S2) : S2 :=
  { s with peer := peer, buf := buf }

/-- `S2_set_timeout`. -/
def setTimeout (interval : UInt16) (s : S2) : S2 := s.logged (.setTimeout interval)

/-! ### Encapsulations -/

/-- The big-endian bytes of a 16-bit number. -/
def bytes16 (n : UInt16) : List UInt8 := [(n >>> 8).toUInt8, n.toUInt8]

/-- The big-endian bytes of a 32-bit number. -/
def bytes32 (n : UInt32) : List UInt8 :=
  [(n >>> 24).toUInt8, (n >>> 16).toUInt8, (n >>> 8).toUInt8, n.toUInt8]

/-- The node identifiers of `S2_make_aad`: 16-bit ones as soon as one node is a long range node. -/
def aadNodes (sender receiver : UInt16) : List UInt8 :=
  if 0x0100 ≤ sender ∨ 0x0100 ≤ receiver then bytes16 sender ++ bytes16 receiver
  else [sender.toUInt8, receiver.toUInt8]

/-- `S2_make_aad` for the security header of a message; empty when the source returns 0 because its
buffer of 64 bytes is too small. -/
def makeAad (homeId : UInt32) (sender receiver : UInt16) (header : List UInt8) (msgLen : ℕ) :
    List UInt8 :=
  if 64 < header.length - 2 + 8 then []
  else aadNodes sender receiver ++ bytes32 homeId ++ octets msgLen ++ header.drop 2

/-- One turn of the loop of `S2_add_mpan_extensions`, with the number of extensions written so far.
The source does not advance its pointer over the inner state, so an extension is written three bytes
behind the one before it. -/
def addMpanExtension (extData : ℕ) (s : S2) (k : ℕ) (i : Fin mosListLength) : S2 × ℕ :=
  let entry := s.mosList i
  if entry.nodeId = s.peer.rNode then
    match lookupMpan 0 entry.groupId s with
    | none => (s, k)
    | some j =>
      let p := extData + 3 * k
      let memory := writeBuf s.workbuf p
        [19, typeMpan ||| moreFlag ||| criticalFlag, entry.groupId]
      ({ s with
        workbuf := writeBuf memory (p + 3) (s.mpanTable j).innerState.toList
        mosList := update s.mosList i { entry with nodeId := 0 } }, k + 1)
  else (s, k)

/-- `S2_add_mpan_extensions`: the number of bytes it says it has written at offset `extData` of
`workbuf`. -/
def addMpanExtensions (extData : ℕ) (s : S2) : S2 × ℕ :=
  let (s, k) := (List.finRange mosListLength).foldl
    (fun (s, k) i ↦ addMpanExtension extData s k i) (s, 0)
  if k = 0 then (s, 0)
  else
    let last := extData + (k - 1) * 19 + 1
    ({ s with workbuf := update s.workbuf last (s.workbuf last &&& ~~~moreFlag) }, k * 19)

/-- What one turn of the loop and a write to `workbuf` keep, `S2_add_mpan_extensions` keeps. -/
theorem addMpanExtensions_induction {motive : S2 → Prop} {s : S2} (extData : ℕ) (hs : motive s)
    (hturn : ∀ t k i, motive t → motive (addMpanExtension extData t k i).1)
    (hwrite : ∀ t workbuf, motive t → motive { t with workbuf }) :
    motive (addMpanExtensions extData s).1 := by
  have hloop : ∀ (slots : List (Fin mosListLength)) (t : S2) (k : ℕ), motive t →
      motive (slots.foldl (fun (s, k) i ↦ addMpanExtension extData s k i) (t, k)).1 := by
    intro slots
    induction slots with
    | nil => exact fun _ _ ht ↦ ht
    | cons i rest ih => exact fun t k ht ↦ ih _ _ (hturn t k i ht)
  have hlast := hloop (List.finRange mosListLength) s 0 hs
  unfold addMpanExtensions
  dsimp only
  split_ifs
  · exact hlast
  · exact hwrite _ _ hlast

/-- The first step of `S2_encrypt_and_send`: with the receiver's nonce at hand, the generator is
seeded and the sender's nonce becomes an extension. -/
def addSnExtension (env : Env) (i : Fin spanTableSize) (s : S2) : S2 × List (List UInt8) :=
  if (s.spanTable i).state = .sosRemoteNonce then
    let (eiSender, s) := random env s
    let eiReceiver := (s.spanTable i).rNonce
    let s := s.modifySpan i fun span ↦
      { span with
        rng := nextNonceInstantiate env.aes eiSender eiReceiver (s.sg s.peer.classId).nonceKey
        classId := s.peer.classId
        state := .negotiated }
    (s, [[18, criticalFlag ||| typeSn] ++ eiSender.toList])
  else (s, [])

/-- The second step of `S2_encrypt_and_send`: the group of a singlecast follow-up. -/
def addMgrpExtension (s : S2) : S2 × List (List UInt8) :=
  match s.mpan with
  | none => (s, [])
  | some current =>
    if isFollowup s.peer.txOptions then
      let mgrp := if isNodeMos s.peer.rNode s then []
        else [[3, criticalFlag ||| typeMgrp, (s.mpanTable current).groupId]]
      if s.peer.txOptions &&& txFirstSinglecastFollowup ≠ 0 ∧ s.retry = 2 then
        (nextMpanState current s, mgrp)
      else (s, mgrp)
    else (s, [])

/-- The third step of `S2_encrypt_and_send`: a current MPAN that is out of sync is dropped and
reported. -/
def addMosExtension (s : S2) : S2 × List (List UInt8) :=
  match s.mpan with
  | none => (s, [])
  | some current =>
    if (s.mpanTable current).state = .mos then
      ({ s.modifyMpan current fun entry ↦ { entry with state := .notUsed } with mpan := none },
        [[2, typeMos]])
    else (s, [])

/-- The clear extensions of a message. The loop that inserts the more flags of all extensions but
the last one does not advance, it only ever sets the one of the first extension. -/
def clearExtensions (extensions : List (List UInt8)) : List UInt8 :=
  if 1 < extensions.length then extensions.flatten.modify 1 (· ||| moreFlag)
  else extensions.flatten

/-- The flags of an encapsulation with clear and encrypted extensions. -/
def encapsulationFlags (clear encrypted : Bool) : UInt8 :=
  (if clear then extensionBitMask else 0) ||| (if encrypted then encryptedExtensionBitMask else 0)

def encapsulationHeader (seq flags : UInt8) (clear : List UInt8) : List UInt8 :=
  [commandClassSecurity2, security2MessageEncapsulation, seq, flags] ++ clear

/-- The clear extensions that `S2_encrypt_and_send` adds. -/
def addClearExtensions (env : Env) (i : Fin spanTableSize) (s : S2) : S2 × List (List UInt8) :=
  let (s, sn) := addSnExtension env i s
  let (s, mgrp) := addMgrpExtension s
  let (s, mos) := addMosExtension s
  (s, sn ++ mgrp ++ mos)

/-- The end of `S2_encrypt_and_send` before the call of `S2_send_raw`: the encrypted extensions and
the payload are encrypted behind the header with the next nonce of the SPAN. -/
def sealMessage (env : Env) (i : Fin spanTableSize) (header encrypted : List UInt8) (s : S2) :
    S2 × List UInt8 :=
  let plain := encrypted ++ s.buf
  let aad := makeAad s.myHomeId s.peer.lNode s.peer.rNode header
    (plain.length + header.length + authTagLen)
  let (nonce, rng) := nextNonceGenerate env.aes (s.spanTable i).rng
  let s := s.modifySpan i fun span ↦ { span with rng := rng }
  let frame := header ++
    ccmEncryptAndAuth (env.aes (s.sg s.peer.classId).encKey) nonce aad plain
  ({ s with workbuf := writeBuf s.workbuf 0 frame }, frame)

/-- `S2_encrypt_and_send` up to the call of `S2_send_raw`: the frame it builds. -/
def encapsulate (env : Env) (s : S2) : S2 × List UInt8 :=
  let (s, i) := findSpanByNode env s.peer s
  let (s, extensions) := addClearExtensions env i s
  let clear := clearExtensions extensions
  let hdrLen := 4 + clear.length
  let (s, shdrLen) := addMpanExtensions hdrLen s
  let header := encapsulationHeader (s.spanTable i).txSeq
    (encapsulationFlags (extensions ≠ []) (shdrLen ≠ 0)) clear
  sealMessage env i header (readBuf s.workbuf hdrLen shdrLen) s

/-- `S2_encrypt_and_send_multi` up to the call of `S2_send_frame_multi`, for the current MPAN. -/
def encapsulateMulti (env : Env) (current : Fin mpanTableSize) (s : S2) : S2 × List UInt8 :=
  let entry := s.mpanTable current
  let header := encapsulationHeader 0xFF extensionBitMask
    [3, criticalFlag ||| typeMgrp, entry.groupId]
  let aad := makeAad s.myHomeId s.peer.lNode s.peer.rNode header
    (s.buf.length + header.length + authTagLen)
  let nonce := env.aes (s.sg entry.classId).mpanKey entry.innerState
  let s := nextMpanState current s
  let frame := header ++ ccmEncryptAndAuth (env.aes (s.sg entry.classId).encKey) nonce aad s.buf
  ({ s with workbuf := writeBuf s.workbuf 0 frame }, frame)

/-! ### The transmit state machine -/

/-- `S2_post_send_done_event`. -/
def postSendDoneEvent (env : Env) (status : UInt8) (s : S2) : S2 :=
  let s := env.hook s
    (.inclusionSendDone (status == transmitCompleteOk || status == transmitCompleteVerified))
  env.hook (s.logged (.sendDone status)) (.sendDoneEvent status)

/-- A transmission ends: the machine is idle, then the end is reported. -/
def endTransmission (env : Env) (status : UInt8) (s : S2) : S2 :=
  postSendDoneEvent env status { s with fsm := .idle }

/-- `S2_fsm_post_event` on the event `SEND_DONE`. It stands apart because a frame that the radio
does not take posts this event from inside another transition. -/
def fsmSendDone (env : Env) (status : UInt8) (time : UInt16) (s : S2) : S2 :=
  match s.fsm with
  | .idle | .isMosWaitReply => env.hook s (.inclusionSendDone (status == transmitCompleteOk))
  | .waitNonceRaport | .verifyingDelivery =>
    if status = transmitCompleteOk then setTimeout time s else endTransmission env status s
  | .sendingMsg => endTransmission env status s
  | .sendingMulticast => s

/-- `S2_send_raw`, with what is logged of the frame. -/
def sendRaw (env : Env) (frame : List UInt8) (encryption : Option Encryption) (s : S2) : S2 :=
  let taken := env.sendFrame s s.peer frame
  let s := s.logged (.sentFrame s.peer frame encryption)
  if taken then
    let (s, i) := findSpanByNode env s.peer s
    s.modifySpan i fun span ↦ { span with txSeq := span.txSeq + 1 }
  else fsmSendDone env transmitCompleteFail 0 s

/-- `S2_send_nonce_get`. -/
def sendNonceGet (env : Env) (s : S2) : S2 :=
  let (s, i) := findSpanByNode env s.peer s
  sendRaw env [commandClassSecurity2, security2NonceGet, (s.spanTable i).txSeq] none s

/-- What `S2_encrypt_and_send` builds its frame from, for the log. -/
def encryption (env : Env) (s : S2) : Encryption :=
  let (t, i) := findSpanByNode env s.peer s
  { plain := s.buf
    key := (s.sg s.peer.classId).encKey
    state := (t.spanTable i).state
    rng := ((addSnExtension env i t).1.spanTable i).rng }

/-- `S2_encrypt_and_send`. -/
def encryptAndSend (env : Env) (s : S2) : S2 :=
  let (t, frame) := encapsulate env s
  sendRaw env frame (some (encryption env s)) t

/-- `S2_encrypt_and_send_multi`. -/
def encryptAndSendMulti (env : Env) (current : Fin mpanTableSize) (s : S2) : S2 :=
  let (s, frame) := encapsulateMulti env current s
  if env.sendFrameMulti s s.peer frame then s.logged (.sentMulti s.peer frame)
  else fsmSendDone env transmitCompleteFail 0 s

/-- `S2_send_nonce_report`. -/
def sendNonceReport (env : Env) (conn : Connection) (flags : UInt8) (s : S2) : S2 :=
  let (s, i) := findSpanByNode env conn s
  let head := [commandClassSecurity2, security2NonceReport, (s.spanTable i).txSeq, flags]
  let (s, nonce) := if flags &&& sosBitMask ≠ 0 then
      let (rnd, s) := random env s
      (s.modifySpan i fun span ↦ { span.setRNonce rnd with state := .sosLocalNonce }, rnd.toList)
    else (s, [])
  let s := s.modifySpan i fun span ↦ { span with txSeq := span.txSeq + 1 }
  s.logged (.sentNoCb conn (head ++ nonce))

/-- `S2_register_nonce`: the flags of a nonce report that was not a duplicate, else 0. -/
def registerNonce (env : Env) (buf : List UInt8) (s : S2) : S2 × UInt8 :=
  let (s, fresh) := verifySeq env s.peer (buf.getD 2 0) s
  if fresh then
    let (s, i) := findSpanByNode env s.peer s
    let flags := buf.getD 3 0
    let s := if 20 ≤ buf.length ∧ flags &&& sosBitMask ≠ 0 then
        s.modifySpan i fun span ↦
          { span.setRNonce (padBlock (buf.drop 4)) with state := .sosRemoteNonce }
      else s
    let s := if flags &&& mosBitMask ≠ 0 ∧ 3 ≤ buf.length then setNodeMos s.peer.rNode s else s
    (s, flags)
  else (s, 0)

/-- `event_t` with `event_data_t`. -/
inductive Event
  | sendMsg (con : Connection) (buf : List UInt8)
  | sendMulticast (con : Connection) (buf : List UInt8)
  | sendDone (status : UInt8) (time : UInt16)
  | gotNonceGet (con : Connection) (buf : List UInt8)
  | gotNonceRaport (con : Connection) (buf : List UInt8)
  | gotEncMsg (con : Connection)
  | gotBadEncMsg (con : Connection)
  | gotEncMsgMos (con : Connection)
  | timeout

/-- `S2_is_peernode`. -/
def isPeernode (peer : Connection) (s : S2) : Bool :=
  peer.lNode == s.peer.lNode && peer.rNode == s.peer.rNode

/-- `emit_S2_synchronization_event`. -/
def emitSynchronizationEvent (env : Env) (con : Connection) (buf : List UInt8) (s : S2) : S2 :=
  env.hook s (.resynchronizationEvent con.rNode (buf.getD 2 0) con.lNode)

/-- `send_msg_state_enter`. -/
def sendMsgStateEnter (env : Env) (s : S2) : S2 :=
  let s := if s.peer.txOptions &&& txVerifyDelivery ≠ 0 then
      setTimeout sendDataTimeout { s with fsm := .verifyingDelivery }
    else { s with fsm := .sendingMsg }
  let s := encryptAndSend env s
  { s with retry := s.retry - 1 }

/-- The states `IDLE` and `IS_MOS_WAIT_REPLY` of `S2_fsm_post_event`. -/
def fsmIdle (env : Env) (event : Event) (s : S2) : S2 :=
  match event with
  | .sendMsg con buf =>
    let (s, ok) := spanOk env con s
    if ok then sendMsgStateEnter env { setPeer con buf s with retry := 2 }
    else
      let s := sendNonceGet env (setPeer con buf { s with fsm := .waitNonceRaport, retry := 2 })
      setTimeout sendDataTimeout s
  | .gotNonceGet con buf =>
    if 3 ≤ buf.length then
      let (s, fresh) := verifySeq env con (buf.getD 2 0) s
      if fresh then sendNonceReport env con sosBitMask s else s
    else s
  | .gotNonceRaport con buf =>
    let (s, _) := registerNonce env buf (setPeer con buf s)
    emitSynchronizationEvent env con buf s
  | .sendMulticast con buf =>
    let (s, i) := findMpanByGroupId env 0 con.rNode.toUInt8 (setPeer con buf s)
    encryptAndSendMulti env i { s with mpan := some i, fsm := .sendingMsg }
  | .gotEncMsgMos con => { setPeer con [] (setTimeout 10 s) with fsm := .isMosWaitReply }
  | .timeout =>
    if s.fsm = .isMosWaitReply then
      sendNonceReport env s.peer mosBitMask { s with mpan := none, fsm := .idle }
    else s
  | .sendDone status time => fsmSendDone env status time s
  | .gotEncMsg _ | .gotBadEncMsg _ => s

/-- The state `WAIT_NONCE_RAPORT` of `S2_fsm_post_event`. -/
def fsmWaitNonceRaport (env : Env) (event : Event) (s : S2) : S2 :=
  match event with
  | .sendDone status time => fsmSendDone env status time s
  | .timeout => endTransmission env transmitCompleteFail s
  | .gotNonceRaport con buf =>
    if isPeernode con s then
      let (s, flags) := registerNonce env buf s
      if flags &&& sosBitMask ≠ 0 then sendMsgStateEnter env s else s
    else emitSynchronizationEvent env con buf s
  | _ => s

/-- The state `SENDING_MSG` of `S2_fsm_post_event`. -/
def fsmSendingMsg (env : Env) (event : Event) (s : S2) : S2 :=
  match event with
  | .sendDone status time => fsmSendDone env status time s
  | .gotNonceRaport con buf =>
    if isPeernode con s then s else emitSynchronizationEvent env con buf s
  | _ => s

/-- The state `VERIFYING_DELIVERY` of `S2_fsm_post_event`. -/
def fsmVerifyingDelivery (env : Env) (event : Event) (s : S2) : S2 :=
  match event with
  | .sendDone status time => fsmSendDone env status time s
  | .gotEncMsg con =>
    if isPeernode con s then
      if isNodeMos con.rNode s ∧ 0 < s.retry then
        sendMsgStateEnter env
          { s with
            buf := []
            peer := { s.peer with txOptions := s.peer.txOptions &&& ~~~txVerifyDelivery } }
      else endTransmission env transmitCompleteVerified (s.logged .stopTimeout)
    else s
  | .timeout => endTransmission env transmitCompleteOk s
  | .gotNonceRaport con buf =>
    if isPeernode con s then
      let (s, flags) := registerNonce env buf s
      if flags = 0 then s
      else
        let s := if flags = mosBitMask then { s with buf := [] } else s
        if s.retry = 0 then endTransmission env transmitCompleteFail s
        else sendMsgStateEnter env s
    else emitSynchronizationEvent env con buf s
  | _ => s

/-- `S2_fsm_post_event`. Nothing enters the state `SENDING_MULTICAST`, in which the source
asserts. -/
def fsmPostEvent (env : Env) (event : Event) (s : S2) : S2 :=
  match s.fsm with
  | .idle | .isMosWaitReply => fsmIdle env event s
  | .waitNonceRaport => fsmWaitNonceRaport env event s
  | .sendingMsg => fsmSendingMsg env event s
  | .verifyingDelivery => fsmVerifyingDelivery env event s
  | .sendingMulticast => s

/-! ### Sending data -/

def isLrNode (node : UInt16) : Bool := 256 ≤ node ∧ node ≤ 4000

/-- `convert_normal_to_lr_keyclass`. -/
def convertNormalToLrKeyclass (con : Connection) : Connection :=
  if con.classId = accessKeySlot then { con with classId := lrAccessKeySlot }
  else if con.classId = authenticatedKeySlot then { con with classId := lrAuthenticatedKeySlot }
  else con

/-- `convert_lr_to_normal_keyclass`. -/
def convertLrToNormalKeyclass (con : Connection) : Connection :=
  if con.classId = lrAccessKeySlot then { con with classId := accessKeySlot }
  else if con.classId = lrAuthenticatedKeySlot then { con with classId := authenticatedKeySlot }
  else con

/-- `S2_is_send_data_busy`. -/
def isSendDataBusy (s : S2) : Bool := s.fsm != .idle && s.fsm != .isMosWaitReply

/-- The events that `S2_send_data_all_cast` is called with. -/
inductive SendKind
  | sendMsg
  | sendMulticast
  | sendFollowUp
deriving DecidableEq, Repr

/-- The transition that `S2_send_data_all_cast` makes. -/
def startSend (env : Env) (con : Connection) (buf : List UInt8) (kind : SendKind) (s : S2) : S2 :=
  match kind with
  | .sendMulticast => fsmPostEvent env (.sendMulticast con buf) s
  | .sendMsg => fsmPostEvent env (.sendMsg con buf) s
  | .sendFollowUp =>
    let s := match lookupMpan 0 con.mgrpGroupId s with
      | some i => { s with mpan := some i }
      | none => s
    fsmPostEvent env (.sendMsg con buf) s

/-- `S2_send_data_all_cast`; `none` for a null pointer. The call is recorded when it starts to send
and when it returns 1. -/
def sendDataAllCast (env : Env) (con : Connection) (buf : Option (List UInt8)) (kind : SendKind)
    (s : S2) : S2 × Bool :=
  match buf with
  | none => (s, false)
  | some buf =>
    if buf.length = 0 ∨ 1280 < buf.length ∨ isSendDataBusy s then (s, false)
    else ((startSend env con buf kind (s.logged (.requested con buf))).logged .accepted, true)

/-- `S2_send_data`. -/
def sendData (env : Env) (dst : Connection) (buf : Option (List UInt8)) (s : S2) : S2 × Bool :=
  let dst := if isLrNode dst.rNode then convertNormalToLrKeyclass dst else dst
  sendDataAllCast env dst buf .sendMsg s

/-- `S2_send_data_multicast`. -/
def sendDataMulticast (env : Env) (con : Connection) (buf : Option (List UInt8)) (s : S2) :
    S2 × Bool :=
  sendDataAllCast env con buf .sendMulticast s

/-- `zwave_s2_keyset_t`. -/
inductive Keyset
  | zwave
  | zwaveLongRange
  | unknown
deriving DecidableEq, Repr

/-- `S2_send_data_singlecast_with_keyset`, `S2_send_data_multicast_with_keyset` and
`S2_send_data_singlecast_follow_up_with_keyset`, by kind. -/
def sendDataWithKeyset (env : Env) (con : Connection) (keyset : Keyset)
    (payload : Option (List UInt8)) (kind : SendKind) (s : S2) : S2 × Bool :=
  match keyset with
  | .zwave => sendDataAllCast env con payload kind s
  | .zwaveLongRange => sendDataAllCast env (convertNormalToLrKeyclass con) payload kind s
  | .unknown => (s, false)

end ZipGateway.SecurityS2
