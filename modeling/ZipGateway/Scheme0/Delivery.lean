import ZipGateway.Scheme0.Sessions

/-!
# What a session that is done has delivered

Two questions about a payload that `sec0_send_data` took. Which keys are its fragments encrypted
under (`zero_keys_only_for_key_set_iff`)? And does a peer that feeds the transmitted encapsulations
to `sec0_decrypt_message` obtain it (`delivered_iff`)?

Both fail for some payloads. `encrypt_msg` looks for the Network Key Set command at its cursor,
which after the first fragment stands in the middle of the payload, and it looks at two bytes
whatever the length; `KeySelectionOk` is the exact condition on the payload for the keys to be
chosen as intended. And a session is done after two fragments, whatever is left of the payload;
`Deliverable` is the exact condition for the payload to arrive.

The peer is any state of the module that holds the network keys and, for each encapsulation, the
nonce it was made with (`PeerReady`). Between two encapsulations it may do anything that leaves its
receive sessions alone (`Receives`).
-/

set_option autoImplicit false

namespace ZipGateway.Scheme0

open Lib List

/-! ### Keys -/

def IsNetworkKeySet (data : ℕ → UInt8) (len : ℕ) : Prop :=
  2 ≤ len ∧ data 0 = commandClassSecurity ∧ data 1 = networkKeySet

/-- The encapsulation carries a fragment of the payload, made under the network keys or under the
zero keys as its flag says. -/
def Carries (aes : BlockCipher) (p : TsParam) (data : ℕ → UInt8) (len : ℕ) (pass2 : Bool)
    (enc : Encapsulation) : Prop :=
  ∃ seq, if pass2 then FragmentOf aes p (secondPart data) (len - maxFragment) seq true enc
    else FragmentOf aes p data len seq false enc

/-- Every encapsulation that is made of the payload carries a fragment of it, and it is made under
the zero keys only if the payload is a Network Key Set command. -/
def ZeroKeysOnlyForKeySet (aes : BlockCipher) (log : List Act) (serial : ℕ) (p : TsParam)
    (data : ℕ → UInt8) (len : ℕ) : Prop :=
  ∀ pass2 enc, (pass2, enc) ∈ encryptionsOf serial log →
    Carries aes p data len pass2 enc ∧ (enc.zeroKeys = true → IsNetworkKeySet data len)

/-- Every fragment that the session makes of its payload has been encrypted. -/
def FragmentsEncrypted (log : List Act) (serial len : ℕ) : Prop :=
  (∃ enc, (false, enc) ∈ encryptionsOf serial log) ∧
    (maxFragment < len → ∃ enc, (true, enc) ∈ encryptionsOf serial log)

/-- The payload is a Network Key Set command, or the memory at the start of neither of its fragments
looks like one. -/
def KeySelectionOk (data : ℕ → UInt8) (len : ℕ) : Prop :=
  IsNetworkKeySet data len ∨
    looksLikeNetworkKeySet data = false ∧
      (maxFragment < len → looksLikeNetworkKeySet (secondPart data) = false)

/-- What is made of a payload carries a fragment of it, under the keys that the fragment looks
like. -/
theorem FragmentsMade.carries {aes : BlockCipher} {p : TsParam} {data : ℕ → UInt8} {len : ℕ}
    {made : List (Bool × Encapsulation)} (hmade : FragmentsMade aes p data len made) {pass2 : Bool}
    {enc : Encapsulation} (hmem : (pass2, enc) ∈ made) :
    Carries aes p data len pass2 enc ∧
      if pass2 then maxFragment < len ∧ enc.zeroKeys = looksLikeNetworkKeySet (secondPart data)
      else enc.zeroKeys = looksLikeNetworkKeySet data := by
  obtain rfl | ⟨seq, first, hfirst, rfl | ⟨hlong, second, hsecond, rfl⟩⟩ := hmade
  · exact absurd hmem not_mem_nil
  · obtain ⟨rfl, rfl⟩ := Prod.mk.inj (mem_singleton.mp hmem)
    exact ⟨⟨seq, hfirst⟩, hfirst.1⟩
  · obtain heq | hmem := mem_cons.mp hmem
    · obtain ⟨rfl, rfl⟩ := Prod.mk.inj heq
      exact ⟨⟨seq, hsecond⟩, hlong, hsecond.1⟩
    · obtain ⟨rfl, rfl⟩ := Prod.mk.inj (mem_singleton.mp hmem)
      exact ⟨⟨seq, hfirst⟩, hfirst.1⟩

/-- What a session has sent is the same in the log and in the trace. -/
theorem sentAll_trace {aes : BlockCipher} {s : S0} {serial : ℕ} {p : TsParam} {data : ℕ → UInt8}
    {len : ℕ} : SentAll aes s.trace serial p data len ↔ SentAll aes s.log serial p data len := by
  unfold SentAll FirstSent BothSent
  rw [messagesOf_trace, encryptionsOf_trace]

/-- In every run the fragments of an accepted payload are encrypted in order, each at most once and
under the keys that its own first bytes ask for. When the session ends in `TX_DONE`, all of them are
encrypted, and their encapsulations are the ones that were sent. -/
theorem fragments_encrypted_in_order (env : Env) (hreacts : env.Reacts) (prng : List Nonce)
    (calls : List Call) {serial : ℕ} {p : TsParam} {data : ℕ → UInt8} {len : ℕ}
    (haccepted : .accepted serial p data len ∈ (run (step env) (S0.powerUp prng) calls).log) :
    let log := (run (step env) (S0.powerUp prng) calls).log
    FragmentsMade env.aes p data len (encryptionsOf serial log) ∧
      (.ended serial .txDone ∈ log → SentAll env.aes log serial p data len) := by
  intro log
  obtain ⟨hmade, hdone⟩ := (sessionInv_run env hreacts prng calls).sessionLog serial p data len
    ((mem_trace (by simp [Act.owner])).mpr haccepted)
  rw [encryptionsOf_trace] at hmade
  exact ⟨hmade,
    fun hended ↦ sentAll_trace.mp (hdone ((mem_trace (by simp [Act.owner])).mpr hended))⟩

/-- For every run and every payload accepted in it: the zero keys are used only for a Network Key
Set command if the payload meets `KeySelectionOk`; and once all its fragments are encrypted, only
then. -/
theorem zero_keys_only_for_key_set_iff (env : Env) (hreacts : env.Reacts) (prng : List Nonce)
    (calls : List Call) {serial : ℕ} {p : TsParam} {data : ℕ → UInt8} {len : ℕ}
    (haccepted : .accepted serial p data len ∈ (run (step env) (S0.powerUp prng) calls).log) :
    let log := (run (step env) (S0.powerUp prng) calls).log
    (KeySelectionOk data len → ZeroKeysOnlyForKeySet env.aes log serial p data len) ∧
      (FragmentsEncrypted log serial len →
        (ZeroKeysOnlyForKeySet env.aes log serial p data len ↔ KeySelectionOk data len)) := by
  intro log
  have hmade := ((sessionInv_run env hreacts prng calls).sessionLog serial p data len
    ((mem_trace (by simp [Act.owner])).mpr haccepted)).encryptions
  rw [encryptionsOf_trace] at hmade
  have hsufficient :
      KeySelectionOk data len → ZeroKeysOnlyForKeySet env.aes log serial p data len := by
    intro hok pass2 enc hmem
    obtain ⟨hcarries, hkeys⟩ := hmade.carries hmem
    refine ⟨hcarries, fun hzero ↦ ?_⟩
    obtain hkeySet | ⟨hfirst, hsecond⟩ := hok
    · exact hkeySet
    · rw [hzero] at hkeys
      split_ifs at hkeys
      · exact absurd (hkeys.2.trans (hsecond hkeys.1)) Bool.noConfusion
      · exact absurd (hkeys.trans hfirst) Bool.noConfusion
  refine ⟨hsufficient, fun hencrypted ↦ ⟨fun honly ↦ ?_, hsufficient⟩⟩
  by_cases hkeySet : IsNetworkKeySet data len
  · exact Or.inl hkeySet
  · have hnotZero : ∀ pass2 enc, (pass2, enc) ∈ encryptionsOf serial log → enc.zeroKeys = false :=
      fun pass2 enc hmem ↦ Bool.eq_false_iff.mpr fun hzero ↦
        hkeySet ((honly pass2 enc hmem).2 hzero)
    refine Or.inr ⟨?_, fun hlong ↦ ?_⟩
    · obtain ⟨enc, hmem⟩ := hencrypted.1
      exact (hmade.carries hmem).2.symm.trans (hnotZero false enc hmem)
    · obtain ⟨enc, hmem⟩ := hencrypted.2 hlong
      exact (hmade.carries hmem).2.2.symm.trans (hnotZero true enc hmem)

/-- The calls by which node 1 sends a payload to node 2, which answers with two nonces. -/
def sendCalls (data : ℕ → UInt8) (len : UInt8) : List Call :=
  [.init, .setKey zeroBlock, .sendData ⟨1, 2, 0, 0, 0, 0, 0⟩ data len 0 true,
    .nonceReport 2 1 (Vector.replicate 8 1), .nonceReport 2 1 (Vector.replicate 8 2),
    .rawCallback 0 transmitCompleteOk, .rawCallback 0 transmitCompleteOk,
    .rawCallback 0 transmitCompleteOk]

def afterSend (data : ℕ → UInt8) (len : UInt8) : S0 :=
  run (step sampleEnv)
    (S0.powerUp [Vector.replicate 8 3, Vector.replicate 8 4]) (sendCalls data len)

/-- A payload that is no Network Key Set command, and whose second fragment starts like one. -/
def keySetInside : ℕ → UInt8 := fun k ↦ if k = 26 then 0x98 else if k = 27 then 0x06 else 0x20

/-- The passes of the encapsulations that were made, and whether they are under the zero keys. -/
def passesOf (made : List (Bool × Encapsulation)) : List (Bool × Bool) :=
  made.map fun entry ↦ (entry.1, entry.2.zeroKeys)

theorem exists_of_passesOf {made : List (Bool × Encapsulation)} {passes : List (Bool × Bool)}
    (hpasses : passesOf made = passes) {pass2 zeroKeys : Bool} (hmem : (pass2, zeroKeys) ∈ passes) :
    ∃ enc, (pass2, enc) ∈ made ∧ enc.zeroKeys = zeroKeys := by
  rw [← hpasses] at hmem
  obtain ⟨⟨pass, enc⟩, hmade, heq⟩ := mem_map.mp hmem
  obtain ⟨rfl, rfl⟩ := Prod.mk.inj heq
  exact ⟨enc, hmade, rfl⟩

/-- The theorem on a payload of 28 bytes sent in two fragments. -/
theorem zero_keys_only_for_key_set_iff_afterSend :
    FragmentsEncrypted (afterSend (fun _ ↦ 0x20) 28).log 1 28 ∧
      KeySelectionOk (fun _ ↦ 0x20) 28 ∧
      ZeroKeysOnlyForKeySet sampleEnv.aes (afterSend (fun _ ↦ 0x20) 28).log 1 ⟨1, 2, 0, 0, 0, 0, 0⟩
        (fun _ ↦ 0x20) 28 := by
  have hpasses : passesOf (encryptionsOf 1 (afterSend (fun _ ↦ 0x20) 28).log) =
      [(true, false), (false, false)] := by
    decide +kernel
  have hok : KeySelectionOk (fun _ ↦ 0x20) 28 := Or.inr ⟨by decide, fun _ ↦ by decide⟩
  refine ⟨⟨?_, fun _ ↦ ?_⟩, hok, ?_⟩
  · obtain ⟨enc, hmem, -⟩ := exists_of_passesOf hpasses (mem_cons_of_mem _ mem_cons_self)
    exact ⟨enc, hmem⟩
  · obtain ⟨enc, hmem, -⟩ := exists_of_passesOf hpasses mem_cons_self
    exact ⟨enc, hmem⟩
  · refine (zero_keys_only_for_key_set_iff sampleEnv sampleEnv_reacts
      [Vector.replicate 8 3, Vector.replicate 8 4] (sendCalls (fun _ ↦ 0x20) 28)
      (p := ⟨1, 2, 0, 0, 0, 0, 0⟩) ?_).1 hok
    exact mem_of_getLast? rfl

/-- The theorem on the same payload, whose session is done. -/
theorem fragments_encrypted_in_order_afterSend :
    SentAll sampleEnv.aes (afterSend (fun _ ↦ 0x20) 28).log 1 ⟨1, 2, 0, 0, 0, 0, 0⟩
      (fun _ ↦ 0x20) 28 := by
  refine (fragments_encrypted_in_order sampleEnv sampleEnv_reacts
    [Vector.replicate 8 3, Vector.replicate 8 4] (sendCalls (fun _ ↦ 0x20) 28)
    (p := ⟨1, 2, 0, 0, 0, 0, 0⟩) (mem_of_getLast? rfl)).2 ?_
  have hended : (afterSend (fun _ ↦ 0x20) 28).log[1]? = some (.ended 1 .txDone) := rfl
  exact mem_of_getElem? hended

/-- The second fragment of a payload that is no Network Key Set command is encrypted under the zero
keys. -/
theorem zero_keys_for_keySetInside :
    ¬ ∀ (env : Env), env.Reacts → ∀ (prng : List Nonce) (calls : List Call) (serial : ℕ)
      (p : TsParam) (data : ℕ → UInt8) (len : ℕ),
      .accepted serial p data len ∈ (run (step env) (S0.powerUp prng) calls).log →
      ZeroKeysOnlyForKeySet env.aes
        (run (step env) (S0.powerUp prng) calls).log serial p data len := by
  intro hclaim
  have hpasses : passesOf (encryptionsOf 1 (afterSend keySetInside 28).log) =
      [(true, true), (false, false)] := by
    decide +kernel
  obtain ⟨enc, hmem, hzero⟩ := exists_of_passesOf hpasses mem_cons_self
  have hkeySet := (hclaim sampleEnv sampleEnv_reacts [Vector.replicate 8 3, Vector.replicate 8 4]
    (sendCalls keySetInside 28) 1 ⟨1, 2, 0, 0, 0, 0, 0⟩ keySetInside 28
    (mem_of_getLast? rfl) true enc hmem).2 hzero
  exact absurd hkeySet.2.1 (by decide)

/-! ### Encapsulations taken apart -/

section Frame

variable (aes : BlockCipher) (enckey authkey : Block) (header snode dnode : UInt8)
  (sender receiver : Nonce) (plain : List UInt8)

theorem length_authTag (iv : Block) (encrypted : List UInt8) :
    (authTag aes authkey iv header snode dnode encrypted).length = 8 := by
  simp [authTag]

theorem length_aesOfb (encrypt : Block → Block) (iv : Block) (data : List UInt8) :
    (aesOfb encrypt iv data).length = data.length :=
  length_xorStream _ _

theorem aesOfb_aesOfb (encrypt : Block → Block) (iv : Block) (data : List UInt8) :
    aesOfb encrypt iv (aesOfb encrypt iv data) = data :=
  xorStream_xorStream _ _

/-- An encapsulation in the parts that the receiver takes it apart into. -/
theorem encapsulation_eq :
    encapsulation aes enckey authkey header snode dnode sender receiver plain =
      (commandClassSecurity :: header :: sender.toList) ++
        (aesOfb (aes enckey) (makeIv sender receiver) plain ++ (receiver.ident ::
          authTag aes authkey (makeIv sender receiver) header snode dnode
            (aesOfb (aes enckey) (makeIv sender receiver) plain))) := by
  simp [encapsulation]

theorem length_encapsulation :
    (encapsulation aes enckey authkey header snode dnode sender receiver plain).length =
      19 + plain.length := by
  rw [encapsulation_eq]
  simp only [length_append, length_cons, Vector.length_toList, length_aesOfb,
    length_authTag]
  omega

theorem encapsulation_header :
    (encapsulation aes enckey authkey header snode dnode sender receiver plain).getD 1 0 =
      header := by
  rw [encapsulation_eq]
  rfl

theorem frameSender_encapsulation :
    frameSender (encapsulation aes enckey authkey header snode dnode sender receiver plain) =
      sender := by
  unfold frameSender
  refine Vector.ext fun k hk ↦ ?_
  rw [Vector.getElem_ofFn, encapsulation_eq]
  simp only [cons_append, getD_eq_getElem?_getD]
  rw [Nat.add_comm 2 k, List.getElem?_cons_succ, List.getElem?_cons_succ,
    List.getElem?_append_left (by simpa using hk)]
  simp [hk]

theorem frameEncrypted_encapsulation :
    frameEncrypted (encapsulation aes enckey authkey header snode dnode sender receiver plain) =
      aesOfb (aes enckey) (makeIv sender receiver) plain := by
  unfold frameEncrypted
  rw [length_encapsulation, Nat.add_sub_cancel_left, encapsulation_eq, drop_left' (by simp),
    take_left' (length_aesOfb _ _ _)]

theorem frameReceiverIdent_encapsulation :
    frameReceiverIdent (encapsulation aes enckey authkey header snode dnode sender receiver plain) =
      receiver.ident := by
  unfold frameReceiverIdent
  rw [length_encapsulation, show 19 + plain.length - 9 = 10 + plain.length by omega,
    encapsulation_eq, getD_eq_getElem?_getD, List.getElem?_append_right (by simp),
    List.getElem?_append_right (by simp [length_aesOfb])]
  simp [length_aesOfb]

/-- The tag of an encapsulation verifies under the key it was made with. -/
theorem tagVerifies_encapsulation : tagVerifies aes authkey snode dnode receiver
    (encapsulation aes enckey authkey header snode dnode sender receiver plain) = true := by
  unfold tagVerifies
  rw [frameSender_encapsulation, encapsulation_header, frameEncrypted_encapsulation, beq_iff_eq,
    length_encapsulation, encapsulation_eq, ← append_assoc, append_cons,
    drop_left' ?_]
  simp only [length_append, length_cons, Vector.length_toList, length_aesOfb,
    length_nil]
  omega

end Frame
/-! ### Receive sessions -/

section Receive

variable {snode dnode : UInt8} {s opened : S0} {i : Fin maxRxSessions}

/-- A receive session that is open for a pair of nodes. -/
def RxSession.openFor (session : RxSession) (snode dnode : UInt8) (clock : ℕ) : Bool :=
  !session.isFree clock && session.dnode == dnode && session.snode == snode

/-- The lookup depends only on which receive sessions are open for the pair. -/
theorem getRxSessionByNodes_congr {t : S0} (hopen : ∀ j,
    (t.rxSessions j).openFor snode dnode t.clock = (s.rxSessions j).openFor snode dnode s.clock) :
    getRxSessionByNodes snode dnode t = getRxSessionByNodes snode dnode s := by
  unfold getRxSessionByNodes firstSlot
  refine congrArg (fun test ↦ (List.finRange maxRxSessions).find? test) (funext fun j ↦ ?_)
  exact hopen j

/-- Opening a receive session changes no other part of the state, and the session is then the one
that is found for the pair. -/
theorem rxSessionFor_some (hsession : rxSessionFor snode dnode s = some (opened, i)) :
    opened.enckey = s.enckey ∧ opened.authkey = s.authkey ∧ opened.clock = s.clock ∧
      getRxSessionByNodes snode dnode opened = some i := by
  unfold rxSessionFor at hsession
  split at hsession
  · rename_i j hfound
    rw [Option.some.injEq, Prod.mk.injEq] at hsession
    obtain ⟨rfl, rfl⟩ := hsession
    exact ⟨rfl, rfl, rfl, hfound⟩
  · rename_i hnone
    obtain ⟨j, -, heq⟩ := Option.map_eq_some_iff.mp hsession
    rw [Prod.mk.injEq] at heq
    obtain ⟨rfl, rfl⟩ := heq
    refine ⟨rfl, rfl, rfl, firstSlot_eq_of_unique ?_ fun k hk ↦ ?_⟩
    · simp [S0.modifyRxSession, RxSession.isFree, rxSessionTimeout]
    · -- No other session was open for the pair.
      by_contra hne
      have hclosed := firstSlot_none.mp hnone k
      simp only [S0.modifyRxSession, Function.update_of_ne hne] at hk
      rw [hclosed] at hk
      exact absurd hk (by simp)

/-- The receive session of a pair does not depend on the nonces. -/
theorem rxSessionFor_nonceClear (src dst : UInt8) :
    rxSessionFor snode dnode (nonceClear src dst s) =
      (rxSessionFor snode dnode s).map fun found ↦ (nonceClear src dst found.1, found.2) := by
  have hlookup : getRxSessionByNodes snode dnode (nonceClear src dst s) =
      getRxSessionByNodes snode dnode s := rfl
  unfold rxSessionFor
  rw [hlookup]
  split
  · rfl
  · unfold newRxSession
    rw [Option.map_map]
    rfl

/-- The peer holds the network keys of the sender and the nonce that the encapsulation was made
with. -/
structure PeerReady (snode dnode : UInt8) (enc : Encapsulation) (peer : S0) : Prop where
  enckey : peer.enckey = enc.enckey
  authkey : peer.authkey = enc.authkey
  nonce : getNonce dnode snode (some enc.receiver.ident) peer = some enc.receiver

/-- The peer has a receive session for the pair of nodes, or a free one, and what the session holds
leaves room for a fragment. -/
def RxRoom (snode dnode : UInt8) (peer : S0) : Prop :=
  ∃ opened i, rxSessionFor snode dnode peer = some (opened, i) ∧
    ((opened.rxSessions i).state = .rxInit ∨
      (opened.rxSessions i).msg.length + maxFragment ≤ maxEncryptedMsgSize)

/-- A peer feeds encapsulations in order to `sec0_decrypt_message`, which gives `messages`. Between
two of them it keeps its receive sessions, and none of them expires. -/
inductive Receives (env : Env) (snode dnode : UInt8) :
    S0 → List Encapsulation → List (List UInt8) → Prop
  | nil (peer : S0) : Receives env snode dnode peer [] []
  | cons (peer next : S0) (enc : Encapsulation) (rest : List Encapsulation)
      (messages : List (List UInt8)) (hready : PeerReady snode dnode enc peer)
      (hsessions : next.rxSessions =
        (sec0DecryptMessage env snode dnode enc.frame peer).1.rxSessions)
      (hclock : ∀ i, (next.rxSessions i).isFree next.clock = (next.rxSessions i).isFree peer.clock)
      (hrest : Receives env snode dnode next rest messages) :
      Receives env snode dnode peer (enc :: rest)
        ((sec0DecryptMessage env snode dnode enc.frame peer).2 :: messages)

variable {env : Env} {enc : Encapsulation} {peer : S0}

/-- An encapsulation whose tag does not verify gives no message. -/
theorem decrypt_rejected (hready : PeerReady snode dnode enc peer)
    (hident : frameReceiverIdent enc.frame = enc.receiver.ident)
    (hreject : tagVerifies env.aes enc.authkey snode dnode enc.receiver enc.frame = false) :
    (sec0DecryptMessage env snode dnode enc.frame peer).2 = [] := by
  unfold sec0DecryptMessage
  split_ifs with hshort hlong
  · rfl
  · rfl
  · rw [hident, hready.nonce]
    dsimp only
    split
    · rfl
    · rename_i opened i hsession
      have hkey : opened.authkey = enc.authkey :=
        (rxSessionFor_some hsession).2.1.trans hready.authkey
      rw [hkey, hreject]
      split_ifs with hsize htag
      · rfl
      · rfl
      · simp at htag

/-- An encapsulation made under the keys of the peer reaches the receive session. -/
theorem decrypt_fragment {header flags : UInt8} {own : Nonce} {body : List UInt8}
    (hready : PeerReady snode dnode enc peer)
    (hframe : enc.frame = encapsulation env.aes enc.enckey enc.authkey header snode dnode own
      enc.receiver (flags :: body)) (hbody : body.length ≤ maxFragment)
    (hsession : rxSessionFor snode dnode peer = some (opened, i))
    (hroom : (opened.rxSessions i).state = .rxInit ∨
      (opened.rxSessions i).msg.length + maxFragment ≤ maxEncryptedMsgSize) :
    ∃ base : S0, base.rxSessions = opened.rxSessions ∧
      sec0DecryptMessage env snode dnode enc.frame peer = reassemble i flags body base := by
  have hlength : enc.frame.length = 20 + body.length := by
    rw [hframe, length_encapsulation, length_cons]
    omega
  have hcleared : rxSessionFor snode dnode (nonceClear dnode snode peer) =
      some (nonceClear dnode snode opened, i) := by
    rw [rxSessionFor_nonceClear, hsession]
    rfl
  obtain ⟨henckey, hauthkey, -, -⟩ := rxSessionFor_some hsession
  have hsize : ¬ (((nonceClear dnode snode opened).rxSessions i).state ≠ .rxInit ∧
      maxEncryptedMsgSize < ((nonceClear dnode snode opened).rxSessions i).msg.length +
        (enc.frame.length - 20)) := by
    rintro ⟨hstate, hlong⟩
    rcases hroom with hinit | hroom
    · exact hstate hinit
    · change maxEncryptedMsgSize < (opened.rxSessions i).msg.length + _ at hlong
      omega
  have htag : tagVerifies env.aes (nonceClear dnode snode opened).authkey snode dnode enc.receiver
      enc.frame = true := by
    change tagVerifies env.aes opened.authkey snode dnode enc.receiver enc.frame = true
    rw [hauthkey, hready.authkey, hframe]
    exact tagVerifies_encapsulation env.aes _ _ _ _ _ _ _ _
  have hident : frameReceiverIdent enc.frame = enc.receiver.ident := by
    rw [hframe, frameReceiverIdent_encapsulation]
  have hplain : aesOfb (env.aes (nonceClear dnode snode opened).enckey)
      (makeIv (frameSender enc.frame) enc.receiver) (frameEncrypted enc.frame) = flags :: body := by
    change aesOfb (env.aes opened.enckey) _ _ = _
    rw [henckey, hready.enckey, hframe, frameSender_encapsulation, frameEncrypted_encapsulation,
      aesOfb_aesOfb]
  refine ⟨{ nonceClear dnode snode opened with
    log := .authenticated snode dnode enc.receiver :: opened.log }, rfl, ?_⟩
  unfold sec0DecryptMessage
  rw [if_neg (by omega), if_neg (by simp only [maxEncryptedMsgSize, maxFragment] at *; omega),
    hident, hready.nonce]
  simp only [hcleared]
  rw [if_neg hsize, htag, hplain]
  rfl

end Receive

/-! ### Reassembly -/

/-- The flags of a first fragment: sequenced, not the second frame, with the sequence number. -/
theorem fragmentFlags_first (seq : UInt8) :
    fragmentFlags false true seq &&& sequencedBitMask ≠ 0 ∧
      fragmentFlags false true seq &&& secondFrameBitMask = 0 ∧
      fragmentFlags false true seq &&& 0xF = seq &&& 0xF := by
  have hall : ∀ bits : BitVec 8, fragmentFlags false true ⟨bits⟩ &&& sequencedBitMask ≠ 0 ∧
      fragmentFlags false true ⟨bits⟩ &&& secondFrameBitMask = 0 ∧
      fragmentFlags false true ⟨bits⟩ &&& 0xF = (⟨bits⟩ : UInt8) &&& 0xF := by
    decide +kernel
  exact hall seq.toBitVec

/-- The flags of a second fragment: sequenced, the second frame, with the sequence number. -/
theorem fragmentFlags_second (more : Bool) (seq : UInt8) :
    fragmentFlags true more seq &&& sequencedBitMask ≠ 0 ∧
      fragmentFlags true more seq &&& secondFrameBitMask ≠ 0 ∧
      fragmentFlags true more seq &&& 0xF = seq &&& 0xF := by
  have hall : ∀ bits : BitVec 8, fragmentFlags true more ⟨bits⟩ &&& sequencedBitMask ≠ 0 ∧
      fragmentFlags true more ⟨bits⟩ &&& secondFrameBitMask ≠ 0 ∧
      fragmentFlags true more ⟨bits⟩ &&& 0xF = (⟨bits⟩ : UInt8) &&& 0xF := by
    cases more <;> decide +kernel
  exact hall seq.toBitVec

theorem reassemble_single (i : Fin maxRxSessions) (seq : UInt8) (payload : List UInt8) (s : S0) :
    (reassemble i (fragmentFlags false false seq) payload s).2 = payload := by
  simp [reassemble, fragmentFlags]

theorem reassemble_first (i : Fin maxRxSessions) (seq : UInt8) (payload : List UInt8) (s : S0) :
    reassemble i (fragmentFlags false true seq) payload s =
      (s.modifyRxSession i fun session ↦
        { session with seqNr := seq &&& 0xF, state := .rxEnc1, msg := payload }, []) := by
  obtain ⟨hsequenced, hfirst, hseq⟩ := fragmentFlags_first seq
  simp only [reassemble]
  rw [if_pos hsequenced, if_pos hfirst, hseq]

theorem reassemble_second {i : Fin maxRxSessions} {more : Bool} {seq : UInt8}
    {payload : List UInt8} {s : S0} (hstate : (s.rxSessions i).state = .rxEnc1)
    (hseq : (s.rxSessions i).seqNr = seq &&& 0xF) :
    (reassemble i (fragmentFlags true more seq) payload s).2 =
      (s.rxSessions i).msg ++ payload := by
  obtain ⟨hsequenced, hsecond, hflags⟩ := fragmentFlags_second more seq
  simp only [reassemble]
  rw [if_pos hsequenced, if_neg hsecond, if_neg]
  simp [hstate, hseq, hflags]

/-! ### Delivery -/

theorem length_readData (data : ℕ → UInt8) (len : ℕ) : (readData data len).length = len := by
  simp [readData]

/-- The two fragments of a payload, put together. -/
theorem readData_append (data : ℕ → UInt8) (len : ℕ) :
    readData data maxFragment ++ readData (secondPart data) len =
      readData data (maxFragment + len) := by
  simp only [readData, range_add, map_append, map_map]
  rfl

/-- The payload fits into two fragments, and the memory at the start of neither of them looks like a
Network Key Set command. -/
def Deliverable (data : ℕ → UInt8) (len : ℕ) : Prop :=
  len ≤ 2 * maxFragment ∧ looksLikeNetworkKeySet data = false ∧
    (maxFragment < len → looksLikeNetworkKeySet (secondPart data) = false)

/-- The peer obtains one message, the payload. -/
def Obtains (messages : List (List UInt8)) (data : ℕ → UInt8) (len : ℕ) : Prop :=
  messages.filter (fun message ↦ message ≠ []) = [readData data len]

section Delivered

variable {env : Env} {p : TsParam} {data : ℕ → UInt8} {len : ℕ} {seq : UInt8} {peer : S0}
  {messages : List (List UInt8)}

/-- The identifier of the receiver's nonce in a fragment. -/
theorem FragmentOf.ident {aes : BlockCipher} {pass2 : Bool} {enc : Encapsulation}
    (hfragment : FragmentOf aes p data len seq pass2 enc) :
    frameReceiverIdent enc.frame = enc.receiver.ident := by
  obtain ⟨-, own, hframe⟩ := hfragment
  rw [hframe, frameReceiverIdent_encapsulation]

/-- A fragment that does not look like a Network Key Set command is made under the network keys. -/
theorem FragmentOf.network {aes : BlockCipher} {pass2 : Bool} {enc : Encapsulation}
    (hfragment : FragmentOf aes p data len seq pass2 enc)
    (hkeys : looksLikeNetworkKeySet data = false) :
    ∃ own, enc.frame = encapsulation aes enc.enckey enc.authkey
      (fragmentHeader (moreToSend p.dnode len)) p.snode.toUInt8 p.dnode.toUInt8 own enc.receiver
      (fragmentFlags pass2 (decide (maxFragment < len)) seq ::
        readData data (min maxFragment len)) := by
  obtain ⟨hzero, own, hframe⟩ := hfragment
  rw [hzero, hkeys, fragmentLen_eq] at hframe
  refine ⟨own, ?_⟩
  rw [← moreToSend_eq p.dnode len]
  exact hframe

/-- A payload of one fragment is obtained unless its tag is made under the zero keys. -/
theorem delivered_single (hlen : 1 ≤ len) (hshort : len ≤ maxFragment) {first : Encapsulation}
    (hfragment : FragmentOf env.aes p data len seq false first)
    (hroom : RxRoom p.snode.toUInt8 p.dnode.toUInt8 peer)
    (hreceives : Receives env p.snode.toUInt8 p.dnode.toUInt8 peer [first] messages) :
    (looksLikeNetworkKeySet data = false → Obtains messages data len) ∧
      (tagVerifies env.aes first.authkey p.snode.toUInt8 p.dnode.toUInt8 first.receiver first.frame
        = false → ¬ Obtains messages data len) := by
  cases hreceives with
  | cons peer next enc rest messages hready hsessions hclock hrest =>
    cases hrest with
    | nil =>
      constructor
      · intro hkeys
        obtain ⟨own, hframe⟩ := hfragment.network hkeys
        obtain ⟨opened, i, hsession, hspace⟩ := hroom
        obtain ⟨base, -, hdecrypt⟩ := decrypt_fragment hready hframe
          (by rw [length_readData]; omega) hsession hspace
        unfold Obtains
        rw [hdecrypt, decide_eq_false (by omega), reassemble_single, Nat.min_eq_right hshort]
        have hnonempty : readData data len ≠ [] := by
          rw [← length_pos_iff_ne_nil, length_readData]
          exact hlen
        simp [hnonempty]
      · intro hreject
        unfold Obtains
        rw [decrypt_rejected hready hfragment.ident hreject]
        simp

/-- A payload of two fragments is obtained when it is not longer than that, unless the tag of the
second one is made under the zero keys. -/
theorem delivered_both (hlong : maxFragment < len) (hkeys : looksLikeNetworkKeySet data = false)
    {first second : Encapsulation} (hfirst : FragmentOf env.aes p data len seq false first)
    (hsecond : FragmentOf env.aes p (secondPart data) (len - maxFragment) seq true second)
    (hroom : RxRoom p.snode.toUInt8 p.dnode.toUInt8 peer)
    (hreceives : Receives env p.snode.toUInt8 p.dnode.toUInt8 peer [first, second] messages) :
    (looksLikeNetworkKeySet (secondPart data) = false →
        (Obtains messages data len ↔ len ≤ 2 * maxFragment)) ∧
      (tagVerifies env.aes second.authkey p.snode.toUInt8 p.dnode.toUInt8 second.receiver
        second.frame = false → ¬ Obtains messages data len) := by
  cases hreceives with
  | cons peer next enc rest messages hready hsessions hclock hrest =>
    obtain ⟨own, hframe⟩ := hfirst.network hkeys
    obtain ⟨opened, i, hsession, hspace⟩ := hroom
    obtain ⟨base, hbase, hdecrypt⟩ := decrypt_fragment hready hframe
      (by rw [length_readData]; omega) hsession hspace
    rw [decide_eq_true hlong, Nat.min_eq_left hlong.le, reassemble_first] at hdecrypt
    rw [hdecrypt] at hsessions
    -- The session that the first fragment has opened is the one found for the second.
    have hslot : next.rxSessions i = { opened.rxSessions i with
        seqNr := seq &&& 0xF, state := .rxEnc1, msg := readData data maxFragment } := by
      rw [hsessions]
      simp [S0.modifyRxSession, hbase]
    have hother : ∀ j, j ≠ i → next.rxSessions j = opened.rxSessions j := fun j hj ↦ by
      rw [hsessions]
      simp [S0.modifyRxSession, hbase, hj]
    obtain ⟨-, -, hopenedClock, hfound⟩ := rxSessionFor_some hsession
    have hopen : ∀ j, (next.rxSessions j).openFor p.snode.toUInt8 p.dnode.toUInt8 next.clock =
        (opened.rxSessions j).openFor p.snode.toUInt8 p.dnode.toUInt8 opened.clock := by
      intro j
      unfold RxSession.openFor
      rw [hclock j, ← hopenedClock]
      by_cases hj : j = i
      · rw [hj, hslot]
        have hnotFree : (opened.rxSessions i).isFree opened.clock = false := by
          have htest := firstSlot_some hfound
          simp only [Bool.and_eq_true, Bool.not_eq_true'] at htest
          exact htest.1.1
        have hstillOpen : RxSession.isFree { opened.rxSessions i with
            seqNr := seq &&& 0xF, state := .rxEnc1, msg := readData data maxFragment }
            opened.clock = false := by
          simp only [RxSession.isFree, Bool.or_eq_false_iff] at hnotFree ⊢
          exact ⟨rfl, hnotFree.2⟩
        rw [hnotFree, hstillOpen]
      · rw [hother j hj]
    have hsecondSession : rxSessionFor p.snode.toUInt8 p.dnode.toUInt8 next = some (next, i) := by
      unfold rxSessionFor
      rw [getRxSessionByNodes_congr hopen, hfound]
    cases hrest with
    | cons _ last _ _ messages hready' _ _ hrest =>
      cases hrest with
      | nil =>
        constructor
        · intro hkeys'
          obtain ⟨own', hframe'⟩ := hsecond.network hkeys'
          have hspace' : (next.rxSessions i).state = .rxInit ∨
              (next.rxSessions i).msg.length + maxFragment ≤ maxEncryptedMsgSize := by
            right
            rw [hslot, length_readData]
            decide
          obtain ⟨base', hbase', hdecrypt'⟩ := decrypt_fragment hready' hframe'
            (by rw [length_readData]; omega) hsecondSession hspace'
          have hstate : (base'.rxSessions i).state = .rxEnc1 := by rw [hbase', hslot]
          have hseq : (base'.rxSessions i).seqNr = seq &&& 0xF := by rw [hbase', hslot]
          have hmsg : (base'.rxSessions i).msg = readData data maxFragment := by rw [hbase', hslot]
          unfold Obtains
          rw [hdecrypt, hdecrypt', reassemble_second hstate hseq, hmsg, readData_append]
          have hnonempty : readData data
              (maxFragment + min maxFragment (len - maxFragment)) ≠ [] := by
            rw [← length_pos_iff_ne_nil, length_readData]
            exact Nat.add_pos_left (by decide) _
          simp only [ne_eq, decide_not, filter_cons, decide_true, Bool.not_true,
            Bool.false_eq_true, if_false, hnonempty, decide_false, Bool.not_false, if_true,
            filter_nil, List.cons.injEq, and_true]
          constructor
          · intro heq
            have hlength := congrArg List.length heq
            rw [length_readData, length_readData] at hlength
            omega
          · intro hfits
            rw [show maxFragment + min maxFragment (len - maxFragment) = len by omega]
        · intro hreject
          unfold Obtains
          rw [hdecrypt, decrypt_rejected hready' hsecond.ident hreject]
          simp

end Delivered

/-- For every run, every payload that is no Network Key Set command and whose session ended in
`TX_DONE`, and every peer that is fed its encapsulations: the peer obtains exactly the payload if
the payload is `Deliverable`. If a tag made under the zero keys does not verify under the network
key, it obtains it only then. -/
theorem delivered_iff (env : Env) (hreacts : env.Reacts) (prng : List Nonce) (calls : List Call)
    {serial : ℕ} {p : TsParam} {data : ℕ → UInt8} {len : ℕ}
    (haccepted : .accepted serial p data len ∈ (run (step env) (S0.powerUp prng) calls).log)
    (hdone : .ended serial .txDone ∈ (run (step env) (S0.powerUp prng) calls).log)
    (hlen : 1 ≤ len) (hkeySet : ¬ IsNetworkKeySet data len) {peer : S0}
    (hroom : RxRoom p.snode.toUInt8 p.dnode.toUInt8 peer) {messages : List (List UInt8)}
    (hreceives : Receives env p.snode.toUInt8 p.dnode.toUInt8 peer
      (messagesOf serial (run (step env) (S0.powerUp prng) calls).log).reverse messages) :
    (Deliverable data len → Obtains messages data len) ∧
      ((∀ enc ∈ messagesOf serial (run (step env) (S0.powerUp prng) calls).log,
          enc.zeroKeys = true → tagVerifies env.aes enc.authkey p.snode.toUInt8 p.dnode.toUInt8
            enc.receiver enc.frame = false) →
        Obtains messages data len → Deliverable data len) := by
  have hinv := sessionInv_run env hreacts prng calls
  have hlog := hinv.sessionLog serial p data len
    ((mem_trace (by simp [Act.owner])).mpr haccepted)
  obtain ⟨seq, hsent⟩ := hlog.done ((mem_trace (by simp [Act.owner])).mpr hdone)
  rcases hsent with ⟨hshort, first, hfirst, hfragment, -⟩ |
    ⟨hlong, first, second, hboth, hfirst, hsecond, -⟩
  · rw [messagesOf_trace] at hfirst
    rw [hfirst] at hreceives ⊢
    obtain ⟨hobtains, hreject⟩ := delivered_single hlen hshort hfragment hroom hreceives
    refine ⟨fun hdeliverable ↦ hobtains hdeliverable.2.1, fun htags hobtained ↦ ?_⟩
    refine ⟨by omega, ?_, fun hlong ↦ absurd hshort (Nat.not_le.mpr hlong)⟩
    by_contra hlooks
    rw [Bool.not_eq_false, ← hfragment.1] at hlooks
    exact hreject (htags first (by simp) hlooks) hobtained
  · rw [messagesOf_trace] at hboth
    rw [hboth] at hreceives ⊢
    -- A long payload that looks like a Network Key Set command is one.
    have hkeys : looksLikeNetworkKeySet data = false := by
      by_contra hlooks
      simp only [looksLikeNetworkKeySet, Bool.not_eq_false, Bool.and_eq_true, beq_iff_eq] at hlooks
      exact hkeySet ⟨le_trans (by decide) hlong.le, hlooks.1, hlooks.2⟩
    obtain ⟨hobtains, hreject⟩ := delivered_both hlong hkeys hfirst hsecond hroom hreceives
    refine ⟨fun hdeliverable ↦ (hobtains (hdeliverable.2.2 hlong)).mpr hdeliverable.1,
      fun htags hobtained ↦ ?_⟩
    have hkeys' : looksLikeNetworkKeySet (secondPart data) = false := by
      by_contra hlooks
      rw [Bool.not_eq_false, ← hsecond.1] at hlooks
      exact hreject (htags second (by simp) hlooks) hobtained
    exact ⟨(hobtains hkeys').mp hobtained, hkeys, fun _ ↦ hkeys'⟩

/-- A fragment of a payload of bytes `0x20` from node 1 to node 2, under the keys of `afterSend`. -/
def sampleFragment (header flags own receiver : UInt8) (count : ℕ) : Encapsulation where
  frame := encapsulation sampleEnv.aes (Vector.replicate 16 0xAA) (Vector.replicate 16 0x55) header
    1 2 (Vector.replicate 8 own) (Vector.replicate 8 receiver) (flags :: List.replicate count 0x20)
  receiver := Vector.replicate 8 receiver
  enckey := Vector.replicate 16 0xAA
  authkey := Vector.replicate 16 0x55
  enckeyz := Vector.replicate 16 0xAA
  authkeyz := Vector.replicate 16 0x55
  zeroKeys := false

/-- The first fragment of a long payload of `afterSend`. -/
def sampleFirst : Encapsulation :=
  sampleFragment securityMessageEncapsulationNonceGet 0x11 3 1 26

/-- Node 2, which holds the same keys and has given node 1 a nonce. -/
def samplePeer (nonce : UInt8) : S0 :=
  run (step sampleEnv) (S0.powerUp [Vector.replicate 8 nonce])
    [.init, .setKey zeroBlock, .nonceGet ⟨1, 2, 0, 0, 0, 0, 0⟩]

/-- Node 2 after the first fragment, when it has given node 1 the next nonce. -/
def samplePeerNext : S0 :=
  { (sec0DecryptMessage sampleEnv 1 2 sampleFirst.frame (samplePeer 1)).1 with
    nonceTable := (samplePeer 2).nonceTable }

theorem samplePeer_receives {second : Encapsulation}
    (hsecond : PeerReady 1 2 second samplePeerNext) :
    Receives sampleEnv 1 2 (samplePeer 1) [sampleFirst, second]
      [(sec0DecryptMessage sampleEnv 1 2 sampleFirst.frame (samplePeer 1)).2,
        (sec0DecryptMessage sampleEnv 1 2 second.frame samplePeerNext).2] := by
  refine .cons (samplePeer 1) samplePeerNext sampleFirst [second] _ ?_ rfl ?_ ?_
  · exact ⟨by decide +kernel, by decide +kernel, by decide +kernel⟩
  · decide +kernel
  · exact .cons samplePeerNext
      { (sec0DecryptMessage sampleEnv 1 2 second.frame samplePeerNext).1 with
        clock := samplePeerNext.clock } second [] [] hsecond rfl (fun _ ↦ rfl) (.nil _)

theorem samplePeer_rxRoom : RxRoom 1 2 (samplePeer 1) := by
  unfold RxRoom
  obtain ⟨found, hfound, hinit⟩ : ∃ found, rxSessionFor 1 2 (samplePeer 1) = some found ∧
      (found.1.rxSessions found.2).state = .rxInit := by
    refine ⟨_, rfl, ?_⟩
    decide +kernel
  exact ⟨found.1, found.2, hfound, Or.inl hinit⟩

/-- The theorem on a payload of 28 bytes. -/
theorem delivered_iff_samplePeer :
    Deliverable (fun _ ↦ 0x20) 28 ∧
      Obtains [(sec0DecryptMessage sampleEnv 1 2 sampleFirst.frame (samplePeer 1)).2,
        (sec0DecryptMessage sampleEnv 1 2 (sampleFragment securityMessageEncapsulation 0x31 4 2
          2).frame samplePeerNext).2] (fun _ ↦ 0x20) 28 := by
  have hdeliverable : Deliverable (fun _ ↦ 0x20) 28 := ⟨by decide, by decide, fun _ ↦ by decide⟩
  have hframes : (messagesOf 1 (afterSend (fun _ ↦ 0x20) 28).log).reverse =
      [sampleFirst, sampleFragment securityMessageEncapsulation 0x31 4 2 2] := by
    decide +kernel
  have hready : PeerReady 1 2 (sampleFragment securityMessageEncapsulation 0x31 4 2 2)
      samplePeerNext := ⟨by decide +kernel, by decide +kernel, by decide +kernel⟩
  have hreceives := samplePeer_receives hready
  rw [← hframes] at hreceives
  exact ⟨hdeliverable, (delivered_iff sampleEnv sampleEnv_reacts
    [Vector.replicate 8 3, Vector.replicate 8 4] (sendCalls (fun _ ↦ 0x20) 28)
    (p := ⟨1, 2, 0, 0, 0, 0, 0⟩) (mem_of_getLast? rfl) (mem_of_getElem? (i := 1) rfl)
    (by decide) (fun hkeySet ↦ absurd hkeySet.2.1 (by decide)) samplePeer_rxRoom
    hreceives).1 hdeliverable⟩

/-- A payload of 53 bytes is not obtained, although its session ended in `TX_DONE`. -/
theorem not_delivered_fiftyThree :
    ¬ ∀ (env : Env), env.Reacts → ∀ (prng : List Nonce) (calls : List Call) (serial : ℕ)
      (p : TsParam) (data : ℕ → UInt8) (len : ℕ),
      .accepted serial p data len ∈ (run (step env) (S0.powerUp prng) calls).log →
      .ended serial .txDone ∈ (run (step env) (S0.powerUp prng) calls).log →
      1 ≤ len → ¬ IsNetworkKeySet data len → ∀ (peer : S0),
      RxRoom p.snode.toUInt8 p.dnode.toUInt8 peer → ∀ messages,
      Receives env p.snode.toUInt8 p.dnode.toUInt8 peer
        (messagesOf serial (run (step env) (S0.powerUp prng) calls).log).reverse messages →
      Obtains messages data len := by
  intro hclaim
  have hframes : (messagesOf 1 (afterSend (fun _ ↦ 0x20) 53).log).reverse =
      [sampleFirst, sampleFragment securityMessageEncapsulationNonceGet 0x31 4 2 26] := by
    decide +kernel
  have hready : PeerReady 1 2 (sampleFragment securityMessageEncapsulationNonceGet 0x31 4 2 26)
      samplePeerNext := ⟨by decide +kernel, by decide +kernel, by decide +kernel⟩
  have hreceives := samplePeer_receives hready
  rw [← hframes] at hreceives
  have hobtains := hclaim sampleEnv sampleEnv_reacts
    [Vector.replicate 8 3, Vector.replicate 8 4] (sendCalls (fun _ ↦ 0x20) 53) 1
    ⟨1, 2, 0, 0, 0, 0, 0⟩ (fun _ ↦ 0x20) 53 (mem_of_getLast? rfl)
    (mem_of_getElem? (i := 1) rfl) (by decide)
    (fun hkeySet ↦ absurd hkeySet.2.1 (by decide)) (samplePeer 1) samplePeer_rxRoom _ hreceives
  have hmissing : ¬ Obtains [(sec0DecryptMessage sampleEnv 1 2 sampleFirst.frame (samplePeer 1)).2,
      (sec0DecryptMessage sampleEnv 1 2 (sampleFragment securityMessageEncapsulationNonceGet 0x31 4
        2 26).frame samplePeerNext).2] (fun _ ↦ 0x20) 53 := by
    unfold Obtains
    decide +kernel
  exact hmissing hobtains

end ZipGateway.Scheme0
