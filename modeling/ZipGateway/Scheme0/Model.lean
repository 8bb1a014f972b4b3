import ZipGateway.Lib.Block
import ZipGateway.Lib.Run
import ZipGateway.Lib.SlotTable
import ZipGateway.TsParam

/-!
# Security Scheme 0

The model of `src/src/transport/Security_Scheme0.c`: the nonce table and the nonce blacklist, the
two transmit sessions with their state machine, `encrypt_msg`, and `sec0_decrypt_message` with its
two receive sessions.

The state `S0` holds the module's static variables. The block cipher, the low-level `send_data` and
the application behind a session's callback are the environment `Env`. What `send_data` answers and
what a callback does may depend on the whole state, so every behaviour of the environment is some
`Env`; `Env.Reacts` says which ones the module can meet, those whose callbacks do nothing but call
the module again, to any finite depth. The outputs of the random generator are an input, and a draw
loop that refuses all of them never returns: the machine is then `hung` and takes no further step.
What such a call did before it hung is what it does in the run whose generator has more outputs.

`log` records, newest first, what the module did. A session carries the serial number it was
accepted under, so that its frames and its callbacks can be told apart from those of other sessions;
no function reads the log, a serial number or the list of clients. Time stamps are kept only for the
receive sessions, where they decide which session is free; the durations of the transmit timers are
not modelled, a running timer may expire at any time.
-/

set_option autoImplicit false

namespace ZipGateway.Scheme0

open Function Lib

/-! ### Constants and state -/

/-- An S0 nonce. -/
abbrev Nonce := Vector UInt8 8

/-- The identifier of a nonce, its first byte. -/
def Nonce.ident (nonce : Nonce) : UInt8 := nonce.get 0

def commandClassSecurity : UInt8 := 0x98

def networkKeySet : UInt8 := 0x06

def securityNonceGet : UInt8 := 0x40

def securityNonceReport : UInt8 := 0x80

def securityMessageEncapsulation : UInt8 := 0x81

def securityMessageEncapsulationNonceGet : UInt8 := 0xC1

/-- `SECURITY_MESSAGE_ENCAPSULATION_PROPERTIES1_SEQUENCED_BIT_MASK`. -/
def sequencedBitMask : UInt8 := 0x10

/-- `SECURITY_MESSAGE_ENCAPSULATION_PROPERTIES1_SECOND_FRAME_BIT_MASK`. -/
def secondFrameBitMask : UInt8 := 0x20

def nonceTimeout : ℕ := 10

def maxEncryptedMsgSize : ℕ := 128

/-- The life of a receive session, `CLOCK_SECOND * 10`. -/
def rxSessionTimeout : ℕ := 10000

def transmitCompleteOk : UInt8 := 0x00

def transmitCompleteFail : UInt8 := 0x02

/-- `tx_state_t`. -/
inductive TxState
  | nonceGet
  | nonceGetSent
  | encMsg
  | encMsgSent
  | encMsg2
  | encMsg2Sent
  | txDone
  | txFail
deriving DecidableEq, Repr

/-- `nonce_t`: an entry of the nonce table, live while its timeout is positive. -/
structure NonceEntry where
  src : UInt8
  dst : UInt8
  timeout : ℕ
  replyNonce : Bool
  nonce : Nonce

/-- The entry is a live nonce from `src` to `dst`. -/
def NonceEntry.liveFor (entry : NonceEntry) (src dst : UInt8) : Bool :=
  0 < entry.timeout && entry.src == src && entry.dst == dst

/-- `nonce_blacklist_t`. -/
structure BlacklistEntry where
  nonce : Nonce
  src : UInt8
  dst : UInt8
  inUse : Bool

/-- `sec_tx_session_t`. The payload is the memory from the `data` pointer on, of which `dataLen`
bytes belong to the message. -/
structure TxSession where
  param : TsParam
  data : ℕ → UInt8
  dataLen : ℕ
  state : TxState
  txCode : UInt8
  timer : Bool
  seq : UInt8
  user : ℕ
  callback : Bool
  serial : ℕ

/-- `rx_session_state_t`. -/
inductive RxState
  | rxInit
  | rxEnc1
  | rxEnc2
  | rxSessionDone
deriving DecidableEq, Repr

/-- `rx_session_t`. `msg` is the part of the buffer that `msg_len` counts. -/
structure RxSession where
  snode : UInt8
  dnode : UInt8
  state : RxState
  seqNr : UInt8
  msg : List UInt8
  timeout : ℕ

/-- The callback a low-level transmission was given. -/
inductive RawCallback
  | nonceGet
  | msg1
  | msg2
deriving DecidableEq, Repr

/-- An encapsulation: the frame, the receiver's nonce it was made with, the network keys and the
zero keys of the module when it was made, and whether the zero keys were used. -/
structure Encapsulation where
  frame : List UInt8
  receiver : Nonce
  enckey : Block
  authkey : Block
  enckeyz : Block
  authkeyz : Block
  zeroKeys : Bool
deriving DecidableEq

/-- What the module did, for the log. -/
inductive Act
  /-- `sec0_send_data` took a payload of `len` bytes at `data` as session `serial`. -/
  | accepted (serial : ℕ) (param : TsParam) (data : ℕ → UInt8) (len : ℕ)
  /-- `encrypt_msg` made an encapsulation for session `serial`. -/
  | encrypted (serial : ℕ) (pass2 : Bool) (encapsulation : Encapsulation)
  /-- `send_data` took an encapsulation of session `serial`. -/
  | message (serial : ℕ) (encapsulation : Encapsulation)
  /-- `send_data` took a frame that is not an encapsulation. -/
  | plain (param : TsParam) (frame : List UInt8)
  /-- A session ended in state `TX_DONE` or `TX_FAIL`. -/
  | ended (serial : ℕ) (state : TxState)
  /-- A session's callback was called with a status. -/
  | callback (serial user : ℕ) (status : UInt8)
  /-- `register_nonce` put a nonce into the table. -/
  | registered (src dst : UInt8) (nonce : Nonce)
  /-- `sec0_decrypt_message` verified an authentication tag made with the local nonce `nonce`. -/
  | authenticated (snode dnode : UInt8) (nonce : Nonce)

abbrev nonceTableSize : ℕ := 15

abbrev nonceBlacklistSize : ℕ := 10

abbrev numTxSessions : ℕ := 2

abbrev maxRxSessions : ℕ := 2

/-- The static variables of the module, with the log. -/
structure S0 where
  nonceTable : Fin nonceTableSize → NonceEntry
  nonceBlacklist : Fin nonceBlacklistSize → BlacklistEntry
  blacklistNextElem : Fin nonceBlacklistSize
  txSessions : Fin numTxSessions → TxSession
  rxSessions : Fin maxRxSessions → RxSession
  /-- The static counter of `get_seq`. -/
  seqCounter : UInt8
  enckey : Block
  authkey : Block
  enckeyz : Block
  authkeyz : Block
  /-- The outputs `PRNGOutput` will give. -/
  prng : List Nonce
  /-- `clock_time`. -/
  clock : ℕ
  /-- The low-level transmissions whose callback has not come yet: the slot the callback is given,
  which callback it is, and the session that made the transmission. -/
  outstanding : List (Fin numTxSessions × RawCallback × ℕ)
  /-- The serial number of the last accepted session. -/
  lastSerial : ℕ
  /-- The accepted sessions that have a callback, with the user pointer it is owed with. -/
  clients : List (ℕ × ℕ)
  /-- A draw loop is refusing every output of the generator. -/
  hung : Bool
  /-- What the module did, newest first. -/
  log : List Act

/-- A completion reported to the owner of a session. -/
structure Completion where
  user : ℕ
  status : UInt8

/-- The environment of the module. -/
structure Env where
  /-- `SerialAPI_AES128_Encrypt`: the block cipher, by key. -/
  aes : BlockCipher
  /-- The low-level `send_data`: does it take the frame. -/
  sendData : S0 → TsParam → List UInt8 → Bool
  /-- `secure_learn_active`. -/
  secureLearnActive : S0 → Bool
  /-- `ZW_SendData_scheme_select` for a reply. -/
  schemeSelect : TsParam → UInt8
  /-- The callback of a session. -/
  callback : S0 → Completion → S0

/-! ### Ciphers -/

/-- `aes_ofb`: the keystream is the cipher iterated on the initialization vector. -/
def aesOfb (encrypt : Block → Block) (iv : Block) (data : List UInt8) : List UInt8 :=
  xorStream (fun i ↦ encrypt^[i + 1] iv) data

/-- `aes_cbc_mac`: the authentication tag of a message. -/
def aesCbcMac (encrypt : Block → Block) (iv : Block) (data : List UInt8) : Block :=
  let mac := data.zipIdx.foldl (fun mac (byte, i) ↦
    let mac := mac.set (Fin.ofNat 16 i) (mac.get (Fin.ofNat 16 i) ^^^ byte)
    if i % 16 = 15 then encrypt mac else mac) (encrypt iv)
  if data.length % 16 ≠ 0 then encrypt mac else mac

/-- The initialization vector of an encapsulation: the sender's nonce and the receiver's nonce. -/
def makeIv (sender receiver : Nonce) : Block := sender ++ receiver

/-- The bytes that the tag of an encapsulation covers, `auth_data_t` and the encrypted part. -/
def authData (header snode dnode : UInt8) (encrypted : List UInt8) : List UInt8 :=
  [header, snode, dnode, UInt8.ofNat encrypted.length] ++ encrypted

/-- The first eight bytes of the tag of an encapsulation. -/
def authTag (aes : BlockCipher) (authkey : Block) (iv : Block) (header snode dnode : UInt8)
    (encrypted : List UInt8) : List UInt8 :=
  (aesCbcMac (aes authkey) iv (authData header snode dnode encrypted)).toList.take 8

/-- An encapsulation frame: what `encrypt_msg` leaves in `crypted_msg`. -/
def encapsulation (aes : BlockCipher) (enckey authkey : Block) (header snode dnode : UInt8)
    (sender receiver : Nonce) (plain : List UInt8) : List UInt8 :=
  let iv := makeIv sender receiver
  let encrypted := aesOfb (aes enckey) iv plain
  [commandClassSecurity, header] ++ sender.toList ++ encrypted ++ [receiver.ident] ++
    authTag aes authkey iv header snode dnode encrypted

/-! ### Nonce blacklist -/

/-- `sec0_is_nonce_blacklisted`. -/
def sec0IsNonceBlacklisted (src dst : UInt8) (nonce : Nonce) (s : S0) : Bool :=
  (firstSlot (fun entry : BlacklistEntry ↦
    entry.inUse && entry.nonce == nonce && entry.src == src && entry.dst == dst)
    s.nonceBlacklist).isSome

/-- `sec0_blacklist_add_nonce`. -/
def sec0BlacklistAddNonce (src dst : UInt8) (nonce : Nonce) (s : S0) : S0 :=
  { s with
    nonceBlacklist := update s.nonceBlacklist s.blacklistNextElem ⟨nonce, src, dst, true⟩
    blacklistNextElem := s.blacklistNextElem + 1 }

/-! ### Nonce table -/

/-- `register_nonce`. -/
def registerNonce (src dst : UInt8) (replyNonce : Bool) (nonce : Nonce) (s : S0) : S0 :=
  let overwritten := if replyNonce then
      firstSlot (fun entry : NonceEntry ↦ entry.replyNonce && entry.liveFor src dst) s.nonceTable
    else none
  match overwritten with
  | some i =>
    { s with
      nonceTable := update s.nonceTable i
        { s.nonceTable i with nonce := nonce, timeout := nonceTimeout }
      log := .registered src dst nonce :: s.log }
  | none =>
    match firstSlot (fun entry : NonceEntry ↦ entry.timeout == 0) s.nonceTable with
    | some i =>
      { s with
        nonceTable := update s.nonceTable i ⟨src, dst, nonceTimeout, replyNonce, nonce⟩
        log := .registered src dst nonce :: s.log }
    | none => s

/-- `has_three_nonces`. -/
def hasThreeNonces (src dst : UInt8) (s : S0) : Bool :=
  (List.finRange nonceTableSize).countP (fun i ↦ (s.nonceTable i).liveFor src dst) == 3

/-- `get_nonce`; `none` for `any_nonce`, `some ri` to look for the identifier `ri`. -/
def getNonce (src dst : UInt8) (ri : Option UInt8) (s : S0) : Option Nonce :=
  (firstSlot (fun entry : NonceEntry ↦ entry.liveFor src dst &&
    (match ri with
      | none => true
      | some ident => entry.nonce.ident == ident)) s.nonceTable).map fun i ↦ (s.nonceTable i).nonce

/-- `nonce_clear`. -/
def nonceClear (src dst : UInt8) (s : S0) : S0 :=
  { s with
    nonceTable := fun i ↦
      if (s.nonceTable i).liveFor src dst then { s.nonceTable i with timeout := 0 }
      else s.nonceTable i }

/-- `nonce_timer_timeout`. -/
def nonceTimerTimeout (s : S0) : S0 :=
  { s with nonceTable := fun i ↦ { s.nonceTable i with timeout := (s.nonceTable i).timeout - 1 } }

/-! ### Keys -/

/-- `sec0_set_key`. -/
def sec0SetKey (env : Env) (netkey : Block) (s : S0) : S0 :=
  { s with
    authkey := env.aes netkey (Vector.replicate 16 0x55)
    enckey := env.aes netkey (Vector.replicate 16 0xAA)
    authkeyz := env.aes zeroBlock (Vector.replicate 16 0x55)
    enckeyz := env.aes zeroBlock (Vector.replicate 16 0xAA) }

/-- The test of `encrypt_msg` for a Network Key Set command, on the memory at the data pointer. -/
def looksLikeNetworkKeySet (data : ℕ → UInt8) : Bool :=
  data 0 == commandClassSecurity && data 1 == networkKeySet

/-! ### Transmit sessions -/

/-- A session with some of its fields changed. -/
def S0.modifySession (s : S0) (i : Fin numTxSessions) (change : TxSession → TxSession) : S0 :=
  { s with txSessions := update s.txSessions i (change (s.txSessions i)) }

/-- `get_tx_session_by_node`. -/
def getTxSessionByNode (snode dnode : UInt8) (s : S0) : Option (Fin numTxSessions) :=
  firstSlot (fun session : TxSession ↦
    session.param.dnode == dnode.toUInt16 && session.param.snode == snode.toUInt16) s.txSessions

/-- The draw loop `do aes_random8(nonce) while (refused nonce)`: the first output of the generator
that is not refused, with the outputs after it; `none` while every output is refused. -/
def drawWhile (refused : Nonce → Bool) : List Nonce → Option (Nonce × List Nonce)
  | [] => none
  | nonce :: rest => if refused nonce then drawWhile refused rest else some (nonce, rest)

/-- `get_node_max_frame_size`. -/
def getNodeMaxFrameSize (_dnode : UInt16) : ℕ := 46

/-- The memory from the data pointer on, `len` bytes of it. -/
def readData (data : ℕ → UInt8) (len : ℕ) : List UInt8 := (List.range len).map data

/-- `more_to_send`: the rest of the message does not fit into one frame. -/
def moreToSend (dnode : UInt16) (dataLen : ℕ) : Bool := getNodeMaxFrameSize dnode < dataLen + 20

/-- The number of bytes of the message that go into the next frame. -/
def fragmentLen (dnode : UInt16) (dataLen : ℕ) : ℕ :=
  if moreToSend dnode dataLen then getNodeMaxFrameSize dnode - 20 else dataLen

/-- The security flags `encrypt_msg` puts before a fragment. -/
def fragmentFlags (pass2 more : Bool) (seq : UInt8) : UInt8 :=
  if pass2 then sequencedBitMask ||| secondFrameBitMask ||| (seq &&& 0xF)
  else if more then sequencedBitMask ||| (seq &&& 0xF)
  else 0

/-- The command `encrypt_msg` sends a fragment with. -/
def fragmentHeader (more : Bool) : UInt8 :=
  if more then securityMessageEncapsulationNonceGet else securityMessageEncapsulation

/-- `encrypt_msg`: the encapsulation it leaves in `crypted_msg`, or `none` when the source returns
0. -/
def encryptMsg (env : Env) (i : Fin numTxSessions) (pass2 : Bool) (s : S0) :
    S0 × Option Encapsulation :=
  let session := s.txSessions i
  let snode := session.param.snode.toUInt8
  let dnode := session.param.dnode.toUInt8
  let more := moreToSend session.param.dnode session.dataLen
  let len := fragmentLen session.param.dnode session.dataLen
  match drawWhile (fun nonce ↦ (getNonce dnode snode (some nonce.ident) s).isSome) s.prng with
  | none => ({ s with hung := true }, none)
  | some (own, rest) =>
    let s := { s with prng := rest }
    match getNonce dnode snode none s with
    | none => (s, none)
    | some receiver =>
      let s := nonceClear dnode snode s
      let s := registerNonce snode dnode true own s
      let zeroKeys := looksLikeNetworkKeySet session.data
      let enckey := if zeroKeys then s.enckeyz else s.enckey
      let authkey := if zeroKeys then s.authkeyz else s.authkey
      let frame := encapsulation env.aes enckey authkey (fragmentHeader more) snode dnode
        own receiver (fragmentFlags pass2 more session.seq :: readData session.data len)
      let s := s.modifySession i fun session ↦
        { session with
          data := fun k ↦ session.data (len + k)
          dataLen := session.dataLen - len }
      let enc := ⟨frame, receiver, s.enckey, s.authkey, s.enckeyz, s.authkeyz, zeroKeys⟩
      ({ s with log := .encrypted session.serial pass2 enc :: s.log }, some enc)

/-- The status a session that ends in a state reports. -/
def TxSession.endStatus (session : TxSession) (state : TxState) : UInt8 :=
  if state = .txDone then transmitCompleteOk else session.txCode

/-- The cases `TX_DONE` and `TX_FAIL` of `tx_session_state_set`: the slot becomes free, then the
owner of the session is told. -/
def txSessionEnd (env : Env) (i : Fin numTxSessions) (state : TxState) (s : S0) : S0 :=
  let s := s.modifySession i fun session ↦
    { session with state := state, param := { session.param with dnode := 0 }, timer := false }
  let session := s.txSessions i
  let status := session.endStatus state
  let s := { s with log := .ended session.serial state :: s.log }
  if session.callback then
    env.callback { s with log := .callback session.serial session.user status :: s.log }
      ⟨session.user, status⟩
  else s

/-- A failed transmission: `tx_code` becomes `TRANSMIT_COMPLETE_FAIL` and the session ends. -/
def txSessionFail (env : Env) (i : Fin numTxSessions) (s : S0) : S0 :=
  txSessionEnd env i .txFail
    (s.modifySession i fun session ↦ { session with txCode := transmitCompleteFail })

/-- The state in which a fragment is encrypted, by pass. -/
def passState (pass2 : Bool) : TxState := if pass2 then .encMsg2 else .encMsg

/-- The callback a fragment is transmitted with, by pass. -/
def passCallback (pass2 : Bool) : RawCallback := if pass2 then .msg2 else .msg1

/-- The cases `ENC_MSG` and `ENC_MSG2` of `tx_session_state_set`. -/
def txSessionEncrypt (env : Env) (i : Fin numTxSessions) (pass2 : Bool) (s : S0) : S0 :=
  let s := s.modifySession i fun session ↦
    { session with state := passState pass2, timer := false }
  match encryptMsg env i pass2 s with
  | (s, none) => txSessionFail env i s
  | (s, some enc) =>
    let session := s.txSessions i
    if env.sendData s session.param enc.frame then
      { s with
        outstanding := s.outstanding ++ [(i, passCallback pass2, session.serial)]
        log := .message session.serial enc :: s.log }
    else txSessionFail env i s

/-- `tx_session_state_set`. -/
def txSessionStateSet (env : Env) (i : Fin numTxSessions) (state : TxState) (s : S0) : S0 :=
  match state with
  | .nonceGet =>
    let s := s.modifySession i fun session ↦ { session with state := .nonceGet }
    let param := (s.txSessions i).param
    let frame := [commandClassSecurity, securityNonceGet]
    if env.sendData s param frame then
      let s := { s with
        outstanding := s.outstanding ++ [(i, .nonceGet, (s.txSessions i).serial)]
        log := .plain param frame :: s.log }
      if env.secureLearnActive s then
        s.modifySession i fun session ↦ { session with timer := true }
      else s
    else txSessionFail env i s
  | .nonceGetSent =>
    let s := s.modifySession i fun session ↦ { session with state := .nonceGetSent }
    if env.secureLearnActive s then s
    else s.modifySession i fun session ↦ { session with timer := true }
  | .encMsg => txSessionEncrypt env i false s
  | .encMsgSent =>
    let s := s.modifySession i fun session ↦ { session with state := .encMsgSent }
    if (s.txSessions i).dataLen = 0 then txSessionEnd env i .txDone s
    else s.modifySession i fun session ↦ { session with timer := true }
  | .encMsg2 => txSessionEncrypt env i true s
  | .encMsg2Sent => txSessionEnd env i .txDone s
  | .txDone => txSessionEnd env i .txDone s
  | .txFail => txSessionEnd env i .txFail s

/-- `noce_get_callback`, `msg1_callback` and `msg2_callback`: the state in which the callback is
expected and the state it leads to on success. -/
def RawCallback.transition : RawCallback → TxState × TxState
  | .nonceGet => (.nonceGet, .nonceGetSent)
  | .msg1 => (.encMsg, .encMsgSent)
  | .msg2 => (.encMsg2, .encMsg2Sent)

/-- The callback of a low-level transmission of slot `i`. `noce_get_callback` stores the status even
when the session has moved on. -/
def rawCallback (env : Env) (i : Fin numTxSessions) (kind : RawCallback) (status : UInt8)
    (s : S0) : S0 :=
  let expected := (s.txSessions i).state = kind.transition.1
  let s := if kind = .nonceGet ∨ expected then
      s.modifySession i fun session ↦ { session with txCode := status }
    else s
  if expected then
    txSessionStateSet env i
      (if status = transmitCompleteOk then kind.transition.2 else .txFail) s
  else s

/-- `sec0_send_data`: `FALSE` leaves the state unchanged. -/
def sec0SendData (env : Env) (p : TsParam) (data : ℕ → UInt8) (len : UInt8) (user : ℕ)
    (callback : Bool) (s : S0) : S0 × Bool :=
  match getTxSessionByNode p.snode.toUInt8 p.dnode.toUInt8 s with
  | some _ => (s, false)
  | none =>
    match firstSlot (fun session : TxSession ↦ session.param.dnode == 0) s.txSessions with
    | none => (s, false)
    | some i =>
      let serial := s.lastSerial + 1
      let s := { s with
        seqCounter := s.seqCounter + 1
        lastSerial := serial
        clients := if callback then (serial, user) :: s.clients else s.clients
        log := .accepted serial p data len.toNat :: s.log }
      let s := s.modifySession i fun session ↦
        { session with
          param := p
          data := data
          dataLen := len.toNat
          callback := callback
          user := user
          seq := s.seqCounter
          serial := serial }
      (txSessionStateSet env i .nonceGet s, true)

/-- `sec0_register_nonce`: a nonce report from `src` to `dst`. -/
def sec0RegisterNonce (env : Env) (src dst : UInt8) (nonce : Nonce) (s : S0) : S0 :=
  if sec0IsNonceBlacklisted src dst nonce s then s
  else
    match getTxSessionByNode dst src s with
    | none => s
    | some i =>
      let s := registerNonce src dst false nonce s
      let s := sec0BlacklistAddNonce src dst nonce s
      let session := s.txSessions i
      match session.state with
      | .nonceGetSent | .nonceGet => txSessionStateSet env i .encMsg s
      | .encMsgSent => txSessionStateSet env i .encMsg2 s
      | .encMsg => if 0 < session.dataLen then txSessionStateSet env i .encMsg2 s else s
      | _ => s

/-- `sec0_abort_all_tx_sessions`. -/
def sec0AbortAllTxSessions (env : Env) (s : S0) : S0 :=
  (List.finRange numTxSessions).foldl (fun s i ↦
    if (s.txSessions i).param.dnode = 0 then s else txSessionFail env i s) s

/-! ### Receive sessions -/

/-- `is_free`. -/
def RxSession.isFree (session : RxSession) (clock : ℕ) : Bool :=
  session.state == .rxSessionDone || session.timeout < clock

/-- `get_rx_session_by_nodes`. -/
def getRxSessionByNodes (snode dnode : UInt8) (s : S0) : Option (Fin maxRxSessions) :=
  firstSlot (fun session : RxSession ↦
    !session.isFree s.clock && session.dnode == dnode && session.snode == snode) s.rxSessions

/-- A receive session with some of its fields changed. -/
def S0.modifyRxSession (s : S0) (i : Fin maxRxSessions) (change : RxSession → RxSession) : S0 :=
  { s with rxSessions := update s.rxSessions i (change (s.rxSessions i)) }

/-- `new_rx_session`, with the state `RX_INIT` that its only caller sets. -/
def newRxSession (snode dnode : UInt8) (s : S0) : Option (S0 × Fin maxRxSessions) :=
  (firstSlot (fun session : RxSession ↦ session.isFree s.clock) s.rxSessions).map fun i ↦
    (s.modifyRxSession i fun session ↦
      { session with
        snode := snode
        dnode := dnode
        timeout := s.clock + rxSessionTimeout
        state := .rxInit }, i)

/-- The receive session of a pair of nodes, opened if there is none. -/
def rxSessionFor (snode dnode : UInt8) (s : S0) : Option (S0 × Fin maxRxSessions) :=
  match getRxSessionByNodes snode dnode s with
  | some i => some (s, i)
  | none => newRxSession snode dnode s

/-- `free_rx_session`. -/
def freeRxSession (i : Fin maxRxSessions) (s : S0) : S0 :=
  s.modifyRxSession i fun session ↦ { session with state := .rxSessionDone }

/-- The end of `sec0_decrypt_message`: what an authentic fragment `flags :: payload` does to the
receive session, and the message it completes. -/
def reassemble (i : Fin maxRxSessions) (flags : UInt8) (payload : List UInt8) (s : S0) :
    S0 × List UInt8 :=
  let session := s.rxSessions i
  if flags &&& sequencedBitMask ≠ 0 then
    if flags &&& secondFrameBitMask = 0 then
      (s.modifyRxSession i fun session ↦
        { session with seqNr := flags &&& 0xF, state := .rxEnc1, msg := payload }, [])
    else if session.state ≠ .rxEnc1 ∨ flags &&& 0xF ≠ session.seqNr then (s, [])
    else (freeRxSession i s, session.msg ++ payload)
  else (freeRxSession i s, payload)

/-- The sender's nonce of an encapsulation. -/
def frameSender (encData : List UInt8) : Nonce := Vector.ofFn fun k ↦ encData.getD (2 + k) 0

/-- The encrypted part of an encapsulation. -/
def frameEncrypted (encData : List UInt8) : List UInt8 :=
  (encData.drop 10).take (encData.length - 19)

/-- The identifier of the receiver's nonce in an encapsulation. -/
def frameReceiverIdent (encData : List UInt8) : UInt8 := encData.getD (encData.length - 9) 0

/-- The tag of an encapsulation is the one that the receiver computes. -/
def tagVerifies (aes : BlockCipher) (authkey : Block) (snode dnode : UInt8) (receiver : Nonce)
    (encData : List UInt8) : Bool :=
  authTag aes authkey (makeIv (frameSender encData) receiver) (encData.getD 1 0) snode dnode
    (frameEncrypted encData) == encData.drop (encData.length - 8)

/-- `sec0_decrypt_message`: the decrypted message, empty when the source returns 0. -/
def sec0DecryptMessage (env : Env) (snode dnode : UInt8) (encData : List UInt8) (s : S0) :
    S0 × List UInt8 :=
  if encData.length < 20 then (s, [])
  else if maxEncryptedMsgSize < encData.length - 20 then (s, [])
  else
    match getNonce dnode snode (some (frameReceiverIdent encData)) s with
    | none => (s, [])
    | some receiver =>
      let s := nonceClear dnode snode s
      match rxSessionFor snode dnode s with
      | none => (s, [])
      | some (s, i) =>
        let session := s.rxSessions i
        if session.state ≠ .rxInit ∧
            maxEncryptedMsgSize < session.msg.length + (encData.length - 20) then (s, [])
        else if !tagVerifies env.aes s.authkey snode dnode receiver encData then (s, [])
        else
          let s := { s with log := .authenticated snode dnode receiver :: s.log }
          let plain := aesOfb (env.aes s.enckey) (makeIv (frameSender encData) receiver)
            (frameEncrypted encData)
          reassemble i (plain.getD 0 0) (plain.drop 1) s

/-! ### Nonce requests, initialization -/

/-- `sec0_send_nonce`. -/
def sec0SendNonce (env : Env) (src : TsParam) (s : S0) : S0 :=
  let ownNode := src.dnode.toUInt8
  let peerNode := src.snode.toUInt8
  if hasThreeNonces ownNode peerNode s then s
  else
    match drawWhile (fun nonce ↦ (getNonce ownNode peerNode (some nonce.ident) s).isSome)
      s.prng with
    | none => { s with hung := true }
    | some (nonce, rest) =>
      let s := { s with prng := rest }
      let dst := tsParamMakeReply env.schemeSelect src
      let frame := [commandClassSecurity, securityNonceReport] ++ nonce.toList
      if env.sendData s dst frame then
        registerNonce ownNode peerNode false nonce { s with log := .plain dst frame :: s.log }
      else s

/-- A cleared transmit session. -/
def TxSession.zero : TxSession where
  param := ⟨0, 0, 0, 0, 0, 0, 0⟩
  data := fun _ ↦ 0
  dataLen := 0
  state := .nonceGet
  txCode := 0
  timer := false
  seq := 0
  user := 0
  callback := false
  serial := 0

/-- `sec0_init`: the sessions and the blacklist are cleared, the nonce table is kept. -/
def sec0Init (s : S0) : S0 :=
  { s with
    rxSessions := fun i ↦ { s.rxSessions i with state := .rxSessionDone }
    txSessions := fun _ ↦ TxSession.zero
    nonceBlacklist := fun _ ↦ ⟨Vector.replicate 8 0, 0, 0, false⟩
    blacklistNextElem := 0 }

/-- The state at power-up: all statics are zero. -/
def S0.powerUp (prng : List Nonce) : S0 where
  nonceTable := fun _ ↦ ⟨0, 0, 0, false, Vector.replicate 8 0⟩
  nonceBlacklist := fun _ ↦ ⟨Vector.replicate 8 0, 0, 0, false⟩
  blacklistNextElem := 0
  txSessions := fun _ ↦ TxSession.zero
  rxSessions := fun _ ↦ ⟨0, 0, .rxInit, 0, [], 0⟩
  seqCounter := 0
  enckey := zeroBlock
  authkey := zeroBlock
  enckeyz := zeroBlock
  authkeyz := zeroBlock
  prng := prng
  clock := 0
  outstanding := []
  lastSerial := 0
  clients := []
  hung := false
  log := []

/-! ### Calls and runs -/

/-- The ways the rest of the gateway enters the module. -/
inductive Call
  | init
  | setKey (netkey : Block)
  | sendData (p : TsParam) (data : ℕ → UInt8) (len : UInt8) (user : ℕ) (callback : Bool)
  | nonceReport (src dst : UInt8) (nonce : Nonce)
  /-- The callback of the `k`-th outstanding low-level transmission. -/
  | rawCallback (k : ℕ) (status : UInt8)
  /-- The timer of a transmit session expires. -/
  | txTimeout (i : Fin numTxSessions)
  | abortAll
  | nonceGet (src : TsParam)
  | decrypt (snode dnode : UInt8) (encData : List UInt8)
  /-- The nonce timer ticks. -/
  | nonceTick
  /-- Time passes. -/
  | wait (ticks : ℕ)

/-- One call, as the source runs it. -/
def enter (env : Env) (s : S0) : Call → S0
  | .init => sec0Init s
  | .setKey netkey => sec0SetKey env netkey s
  | .sendData p data len user callback => (sec0SendData env p data len user callback s).1
  | .nonceReport src dst nonce => sec0RegisterNonce env src dst nonce s
  | .rawCallback k status =>
    match s.outstanding[k]? with
    | none => s
    | some (i, kind, _) =>
      rawCallback env i kind status { s with outstanding := s.outstanding.eraseIdx k }
  | .txTimeout i =>
    if (s.txSessions i).timer then
      txSessionFail env i (s.modifySession i fun session ↦ { session with timer := false })
    else s
  | .abortAll => sec0AbortAllTxSessions env s
  | .nonceGet src => sec0SendNonce env src s
  | .decrypt snode dnode encData => (sec0DecryptMessage env snode dnode encData s).1
  | .nonceTick => nonceTimerTimeout s
  | .wait ticks => { s with clock := s.clock + ticks }

/-- One call of the machine: a call whose draw loop never ends leaves the machine hung, and a hung
machine takes no call. -/
def step (env : Env) (s : S0) (call : Call) : S0 :=
  if s.hung then s
  else
    let after := enter env s call
    if after.hung then { s with hung := true } else after

/-- The environments the module can meet: a session's callback does nothing, or calls the module
again, with callbacks that are such again and the same cipher. -/
inductive Env.Reacts : Env → Prop
  | silent (env : Env) (hsilent : ∀ s completion, env.callback s completion = s) : Env.Reacts env
  | calls (env inner : Env) (hinner : Env.Reacts inner) (haes : inner.aes = env.aes)
      (calls : S0 → Completion → List Call)
      (hcallback : ∀ s completion,
        env.callback s completion = run (step inner) s (calls s completion)) : Env.Reacts env

/-- A small environment to evaluate the model in: the cipher adds the key to the block, every frame
is taken and the callbacks do nothing. -/
def sampleEnv : Env where
  aes := xorBlock
  sendData := fun _ _ _ ↦ true
  secureLearnActive := fun _ ↦ false
  schemeSelect := fun _ ↦ 0
  callback := fun s _ ↦ s

theorem sampleEnv_reacts : sampleEnv.Reacts :=
  .silent sampleEnv fun _ _ ↦ rfl

end ZipGateway.Scheme0
