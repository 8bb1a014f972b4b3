import ZipGateway.Scheme0.Model

/-!
# What the session machine does to the nonces

The transmit sessions touch the nonce table at one place only, where `encrypt_msg` uses a nonce of
the peer and registers its own. Everything else that the session machine does leaves the table
alone, and what it logs is no authentication. `NonceClosed` says of a property that such changes
keep it, and that the callbacks do; every such property is then kept by the functions of the
machine, up to the encryptions that a nonce report starts.

The invariants of the nonce table are proved from these rules by looking at the functions that
change the table. The other way round, `SameTransmit` says what the nonce exchange and the receiver
leave alone: the transmit sessions.
-/

set_option autoImplicit false

namespace ZipGateway.Scheme0

open Lib

def Act.isAuthenticated : Act → Bool
  | .authenticated .. => true
  | _ => false

/-- The nonce table is the same, and nothing was authenticated. -/
structure SameNonces (s after : S0) : Prop where
  table : after.nonceTable = s.nonceTable
  log : ∃ acts, after.log = acts ++ s.log ∧ ∀ act ∈ acts, act.isAuthenticated = false

/-- A change of other fields. -/
theorem sameNonces_of_eq {s after : S0} (htable : after.nonceTable = s.nonceTable)
    (hlog : after.log = s.log) : SameNonces s after :=
  ⟨htable, [], hlog, by simp⟩

/-- A change of other fields with one act logged. -/
theorem sameNonces_of_act {s after : S0} (act : Act) (htable : after.nonceTable = s.nonceTable)
    (hlog : after.log = act :: s.log) (hact : act.isAuthenticated = false) : SameNonces s after :=
  ⟨htable, [act], hlog, by simpa using hact⟩

/-- The property is kept by changes of the other fields, and by the callbacks. -/
structure NonceClosed (env : Env) (property : S0 → Prop) : Prop where
  same : ∀ {s after : S0}, SameNonces s after → property s → property after
  callback : ∀ s completion, property s → property (env.callback s completion)

/-- A nonce report from `src` to `dst` makes `encrypt_msg` run, for the session in the slot: there
is one that waits for a nonce, or has more to send. -/
def reportTarget (src dst : UInt8) (nonce : Nonce) (s : S0) : Option (Fin numTxSessions × Bool) :=
  if sec0IsNonceBlacklisted src dst nonce s then none
  else
    match getTxSessionByNode dst src s with
    | none => none
    | some i =>
      match (s.txSessions i).state with
      | .nonceGetSent | .nonceGet => some (i, false)
      | .encMsgSent => some (i, true)
      | .encMsg => if 0 < (s.txSessions i).dataLen then some (i, true) else none
      | _ => none

/-- The state in which a nonce report makes `encrypt_msg` run. -/
def afterReport (src dst : UInt8) (nonce : Nonce) (i : Fin numTxSessions) (pass2 : Bool) (s : S0) :
    S0 :=
  (sec0BlacklistAddNonce src dst nonce (registerNonce src dst false nonce s)).modifySession i
    fun session ↦ { session with state := passState pass2, timer := false }

/-! ### What leaves the transmit sessions alone -/

/-- The act is one of the nonce exchange, and not of a transmit session. -/
def Act.isNonceAct : Act → Bool
  | .plain .. => true
  | .registered .. => true
  | .authenticated .. => true
  | _ => false

/-- The transmit sessions and their outstanding callbacks are the same, and nothing was logged for
them. -/
structure SameTransmit (s after : S0) : Prop where
  txSessions : after.txSessions = s.txSessions
  outstanding : after.outstanding = s.outstanding
  lastSerial : after.lastSerial = s.lastSerial
  clients : after.clients = s.clients
  enckey : after.enckey = s.enckey
  authkey : after.authkey = s.authkey
  log : ∃ acts, after.log = acts ++ s.log ∧ ∀ act ∈ acts, act.isNonceAct = true

/-- Nothing was logged. -/
theorem log_extends_refl (s : S0) :
    ∃ acts, s.log = acts ++ s.log ∧ ∀ act ∈ acts, act.isNonceAct = true :=
  ⟨[], rfl, by simp⟩

/-- One act of the nonce exchange was logged. -/
theorem log_extends_cons (s : S0) {act : Act} (hact : act.isNonceAct = true) :
    ∃ acts, act :: s.log = acts ++ s.log ∧ ∀ act ∈ acts, act.isNonceAct = true :=
  ⟨[act], rfl, by simpa using hact⟩

theorem sameTransmit_refl (s : S0) : SameTransmit s s :=
  ⟨rfl, rfl, rfl, rfl, rfl, rfl, log_extends_refl s⟩

theorem sameTransmit_trans {first second third : S0} (hfirst : SameTransmit first second)
    (hsecond : SameTransmit second third) : SameTransmit first third := by
  refine ⟨hsecond.txSessions.trans hfirst.txSessions, hsecond.outstanding.trans hfirst.outstanding,
    hsecond.lastSerial.trans hfirst.lastSerial, hsecond.clients.trans hfirst.clients,
    hsecond.enckey.trans hfirst.enckey, hsecond.authkey.trans hfirst.authkey, ?_⟩
  obtain ⟨early, hearly, hearlyActs⟩ := hfirst.log
  obtain ⟨late, hlate, hlateActs⟩ := hsecond.log
  refine ⟨late ++ early, by rw [hlate, hearly, List.append_assoc], fun act hact ↦ ?_⟩
  rcases List.mem_append.mp hact with hact | hact
  · exact hlateActs act hact
  · exact hearlyActs act hact

theorem sameTransmit_registerNonce (src dst : UInt8) (replyNonce : Bool) (nonce : Nonce) (s : S0) :
    SameTransmit s (registerNonce src dst replyNonce nonce s) := by
  simp only [registerNonce]
  generalize (if replyNonce = true then firstSlot (fun entry : NonceEntry ↦
    entry.replyNonce && entry.liveFor src dst) s.nonceTable else none) = overwritten
  cases overwritten with
  | some i => exact ⟨rfl, rfl, rfl, rfl, rfl, rfl, log_extends_cons s rfl⟩
  | none =>
    dsimp only
    split
    · exact ⟨rfl, rfl, rfl, rfl, rfl, rfl, log_extends_cons s rfl⟩
    · exact sameTransmit_refl s

theorem sameTransmit_reassemble (i : Fin maxRxSessions) (flags : UInt8) (payload : List UInt8)
    (s : S0) : SameTransmit s (reassemble i flags payload s).1 := by
  unfold reassemble
  dsimp only
  split_ifs <;> exact ⟨rfl, rfl, rfl, rfl, rfl, rfl, log_extends_refl s⟩

theorem sameTransmit_rxSessionFor {snode dnode : UInt8} {s after : S0} {i : Fin maxRxSessions}
    (hsession : rxSessionFor snode dnode s = some (after, i)) : SameTransmit s after := by
  unfold rxSessionFor at hsession
  split at hsession
  · rw [Option.some.injEq, Prod.mk.injEq] at hsession
    rw [← hsession.1]
    exact sameTransmit_refl s
  · obtain ⟨j, -, heq⟩ := Option.map_eq_some_iff.mp hsession
    rw [Prod.mk.injEq] at heq
    rw [← heq.1]
    exact ⟨rfl, rfl, rfl, rfl, rfl, rfl, log_extends_refl s⟩

theorem sameTransmit_sec0DecryptMessage (env : Env) (snode dnode : UInt8) (encData : List UInt8)
    (s : S0) : SameTransmit s (sec0DecryptMessage env snode dnode encData s).1 := by
  have hcleared : SameTransmit s (nonceClear dnode snode s) :=
    ⟨rfl, rfl, rfl, rfl, rfl, rfl, log_extends_refl s⟩
  unfold sec0DecryptMessage
  split_ifs with hshort hlong
  · exact sameTransmit_refl s
  · exact sameTransmit_refl s
  · dsimp only
    split
    · exact sameTransmit_refl s
    · split
      · exact hcleared
      · rename_i after j hfor
        have hopen := sameTransmit_trans hcleared (sameTransmit_rxSessionFor hfor)
        split_ifs with hsize htag
        · exact hopen
        · exact hopen
        · refine sameTransmit_trans (sameTransmit_trans hopen ?_) (sameTransmit_reassemble _ _ _ _)
          exact ⟨rfl, rfl, rfl, rfl, rfl, rfl, log_extends_cons after rfl⟩

theorem sameTransmit_sec0SendNonce (env : Env) (src : TsParam) (s : S0) :
    SameTransmit s (sec0SendNonce env src s) := by
  simp only [sec0SendNonce]
  split_ifs with hthree
  · exact sameTransmit_refl s
  · split
    · exact ⟨rfl, rfl, rfl, rfl, rfl, rfl, log_extends_refl s⟩
    · split_ifs with hsent
      · refine sameTransmit_trans ?_ (sameTransmit_registerNonce _ _ _ _ _)
        exact ⟨rfl, rfl, rfl, rfl, rfl, rfl, log_extends_cons s rfl⟩
      · exact ⟨rfl, rfl, rfl, rfl, rfl, rfl, log_extends_refl s⟩

/-- What `encrypt_msg` leaves when it returns 0. -/
theorem encryptMsg_none {env : Env} {i : Fin numTxSessions} {pass2 : Bool} {s after : S0}
    (hencrypt : encryptMsg env i pass2 s = (after, none)) : SameTransmit s after := by
  simp only [encryptMsg] at hencrypt
  split at hencrypt
  · rw [Prod.mk.injEq] at hencrypt
    rw [← hencrypt.1]
    exact ⟨rfl, rfl, rfl, rfl, rfl, rfl, log_extends_refl s⟩
  · split at hencrypt
    · rw [Prod.mk.injEq] at hencrypt
      rw [← hencrypt.1]
      exact ⟨rfl, rfl, rfl, rfl, rfl, rfl, log_extends_refl s⟩
    · simp at hencrypt

/-- The session after `encrypt_msg` has put a fragment into a frame. -/
def TxSession.advanced (session : TxSession) : TxSession :=
  { session with
    data := fun k ↦ session.data (fragmentLen session.param.dnode session.dataLen + k)
    dataLen := session.dataLen - fragmentLen session.param.dnode session.dataLen }

/-- What `encrypt_msg` leaves when it makes a frame: the nonces have changed, then the cursor of the
session has moved over the fragment. -/
theorem encryptMsg_advanced {env : Env} {i : Fin numTxSessions} {pass2 : Bool} {s after : S0}
    {enc : Encapsulation} (hencrypt : encryptMsg env i pass2 s = (after, some enc)) :
    ∃ middle, SameTransmit s middle ∧
      after = { middle.modifySession i fun session ↦ session.advanced with
        log := .encrypted (s.txSessions i).serial pass2 enc :: middle.log } := by
  simp only [encryptMsg] at hencrypt
  split at hencrypt
  · simp at hencrypt
  · split at hencrypt
    · simp at hencrypt
    · rename_i own rest _ _ found _
      have hsame : SameTransmit s (registerNonce (s.txSessions i).param.snode.toUInt8
          (s.txSessions i).param.dnode.toUInt8 true own
          (nonceClear (s.txSessions i).param.dnode.toUInt8 (s.txSessions i).param.snode.toUInt8
            { s with prng := rest })) :=
        @sameTransmit_trans s (nonceClear _ _ { s with prng := rest }) _
          ⟨rfl, rfl, rfl, rfl, rfl, rfl, log_extends_refl s⟩ (sameTransmit_registerNonce _ _ _ _ _)
      simp only [Prod.mk.injEq, Option.some.injEq] at hencrypt
      refine ⟨_, hsame, ?_⟩
      rw [← hencrypt.1, ← hencrypt.2]
      simp only [S0.modifySession, hsame.txSessions]
      rfl

/-! ### Received frames -/

theorem reassemble_nonceTable (i : Fin maxRxSessions) (flags : UInt8) (payload : List UInt8)
    (s : S0) : (reassemble i flags payload s).1.nonceTable = s.nonceTable ∧
      (reassemble i flags payload s).1.log = s.log := by
  unfold reassemble
  dsimp only
  split_ifs <;> exact ⟨rfl, rfl⟩

theorem rxSessionFor_nonceTable {snode dnode : UInt8} {s after : S0} {i : Fin maxRxSessions}
    (hsession : rxSessionFor snode dnode s = some (after, i)) :
    after.nonceTable = s.nonceTable ∧ after.log = s.log := by
  unfold rxSessionFor at hsession
  split at hsession
  · rw [Option.some.injEq, Prod.mk.injEq] at hsession
    rw [← hsession.1]
    exact ⟨rfl, rfl⟩
  · obtain ⟨j, -, heq⟩ := Option.map_eq_some_iff.mp hsession
    rw [Prod.mk.injEq] at heq
    rw [← heq.1]
    exact ⟨rfl, rfl⟩

/-- A received frame uses up the nonces of its pair of nodes, or none. -/
theorem sec0DecryptMessage_nonceTable (env : Env) (snode dnode : UInt8) (encData : List UInt8)
    (s : S0) :
    (sec0DecryptMessage env snode dnode encData s).1.nonceTable = s.nonceTable ∨
      (sec0DecryptMessage env snode dnode encData s).1.nonceTable =
        (nonceClear dnode snode s).nonceTable := by
  unfold sec0DecryptMessage
  split_ifs
  · exact Or.inl rfl
  · exact Or.inl rfl
  · dsimp only
    split
    · exact Or.inl rfl
    · right
      split
      · rfl
      · rename_i after i hsession
        have hafter := (rxSessionFor_nonceTable hsession).1
        split_ifs
        · exact hafter
        · exact hafter
        · rw [(reassemble_nonceTable _ _ _ _).1]
          exact hafter

/-! ### The session machine -/

namespace NonceClosed

variable {env : Env} {property : S0 → Prop} (hclosed : NonceClosed env property) {s : S0}
include hclosed

variable (i : Fin numTxSessions)

theorem modifySession (change : TxSession → TxSession) (hs : property s) :
    property (s.modifySession i change) :=
  hclosed.same (sameNonces_of_eq (s := s) rfl rfl) hs

theorem txSessionEnd (state : TxState) (hs : property s) :
    property (txSessionEnd env i state s) := by
  unfold Scheme0.txSessionEnd
  dsimp only
  split_ifs
  · refine hclosed.callback _ _ (hclosed.same (s := s) ⟨rfl, [_, _], rfl, ?_⟩ hs)
    simp [Act.isAuthenticated]
  · exact hclosed.same (s := s) (sameNonces_of_act _ rfl rfl rfl) hs

theorem txSessionFail (hs : property s) : property (txSessionFail env i s) :=
  hclosed.txSessionEnd i .txFail (hclosed.modifySession i _ hs)

/-- A fragment is sent when its encryption keeps the property. -/
theorem txSessionEncrypt (pass2 : Bool)
    (hencrypted : property (encryptMsg env i pass2 (s.modifySession i fun session ↦
      { session with state := passState pass2, timer := false })).1) :
    property (txSessionEncrypt env i pass2 s) := by
  unfold Scheme0.txSessionEncrypt
  dsimp only
  generalize encryptMsg env i pass2 (s.modifySession i fun session ↦
    { session with state := passState pass2, timer := false }) = encrypted at hencrypted ⊢
  obtain ⟨after, _ | enc⟩ := encrypted
  · exact hclosed.txSessionFail i hencrypted
  · dsimp only
    split_ifs
    · exact hclosed.same (s := after) (sameNonces_of_act _ rfl rfl rfl) hencrypted
    · exact hclosed.txSessionFail i hencrypted

/-- A transition that encrypts nothing. -/
theorem txSessionStateSet (state : TxState)
    (hstate : state ≠ .encMsg ∧ state ≠ .encMsg2) (hs : property s) :
    property (txSessionStateSet env i state s) := by
  have hmodify : ∀ change, property (s.modifySession i change) := fun change ↦
    hclosed.modifySession i change hs
  cases state with
  | nonceGet =>
    simp only [Scheme0.txSessionStateSet]
    split_ifs
    · exact hclosed.same (s := s) (sameNonces_of_act _ rfl rfl rfl) hs
    · exact hclosed.same (s := s) (sameNonces_of_act _ rfl rfl rfl) hs
    · exact hclosed.txSessionFail i (hmodify _)
  | nonceGetSent =>
    simp only [Scheme0.txSessionStateSet]
    split_ifs
    · exact hmodify _
    · exact hclosed.modifySession i _ (hmodify _)
  | encMsg => exact absurd rfl hstate.1
  | encMsgSent =>
    simp only [Scheme0.txSessionStateSet]
    split_ifs
    · exact hclosed.txSessionEnd i .txDone (hmodify _)
    · exact hclosed.modifySession i _ (hmodify _)
  | encMsg2 => exact absurd rfl hstate.2
  | encMsg2Sent => exact hclosed.txSessionEnd i .txDone hs
  | txDone => exact hclosed.txSessionEnd i .txDone hs
  | txFail => exact hclosed.txSessionEnd i .txFail hs

theorem rawCallback (kind : RawCallback) (status : UInt8)
    (hs : property s) : property (rawCallback env i kind status s) := by
  have hstored : property (if kind = .nonceGet ∨ (s.txSessions i).state = kind.transition.1 then
      s.modifySession i fun session ↦ { session with txCode := status } else s) := by
    split_ifs
    · exact hclosed.modifySession i _ hs
    · exact hs
  unfold Scheme0.rawCallback
  dsimp only
  by_cases hexpected : (s.txSessions i).state = kind.transition.1
  · rw [if_pos hexpected]
    refine hclosed.txSessionStateSet i _ ?_ hstored
    split_ifs
    · cases kind <;> decide
    · decide
  · rw [if_neg hexpected]
    exact hstored

theorem sec0SendData (p : TsParam) (data : ℕ → UInt8) (len : UInt8) (user : ℕ)
    (callback : Bool) (hs : property s) :
    property (sec0SendData env p data len user callback s).1 := by
  unfold Scheme0.sec0SendData
  split
  · exact hs
  · split
    · exact hs
    · refine hclosed.txSessionStateSet _ .nonceGet (by decide) (hclosed.same (s := s) ?_ hs)
      exact sameNonces_of_act _ rfl rfl rfl

/-- A nonce report: what has to be shown is that its registration and the encryption that it starts
keep the property. -/
theorem sec0RegisterNonce (src dst : UInt8) (nonce : Nonce)
    (hregistered : property (registerNonce src dst false nonce s))
    (hencrypted : ∀ i pass2, reportTarget src dst nonce s = some (i, pass2) →
      property (encryptMsg env i pass2 (afterReport src dst nonce i pass2 s)).1)
    (hs : property s) : property (sec0RegisterNonce env src dst nonce s) := by
  have hlisted : property (sec0BlacklistAddNonce src dst nonce
      (registerNonce src dst false nonce s)) :=
    hclosed.same (sameNonces_of_eq (s := registerNonce src dst false nonce s) rfl rfl) hregistered
  have hsessions : (sec0BlacklistAddNonce src dst nonce
      (registerNonce src dst false nonce s)).txSessions = s.txSessions :=
    (sameTransmit_registerNonce src dst false nonce s).txSessions
  unfold Scheme0.sec0RegisterNonce
  unfold reportTarget at hencrypted
  split_ifs at hencrypted ⊢ with hblacklisted
  · exact hs
  · cases hfound : getTxSessionByNode dst src s with
    | none => exact hs
    | some i =>
      rw [hfound] at hencrypted
      dsimp only at hencrypted ⊢
      rw [hsessions]
      cases hstate : (s.txSessions i).state with
      | nonceGet =>
        rw [hstate] at hencrypted
        exact hclosed.txSessionEncrypt i false (hencrypted i false rfl)
      | nonceGetSent =>
        rw [hstate] at hencrypted
        exact hclosed.txSessionEncrypt i false (hencrypted i false rfl)
      | encMsg =>
        rw [hstate] at hencrypted
        dsimp only at hencrypted ⊢
        split_ifs at hencrypted ⊢ with hmore
        · exact hclosed.txSessionEncrypt i true (hencrypted i true rfl)
        · exact hlisted
      | encMsgSent =>
        rw [hstate] at hencrypted
        exact hclosed.txSessionEncrypt i true (hencrypted i true rfl)
      | encMsg2 => exact hlisted
      | encMsg2Sent => exact hlisted
      | txDone => exact hlisted
      | txFail => exact hlisted

theorem sec0AbortAllTxSessions (hs : property s) : property (sec0AbortAllTxSessions env s) := by
  change property (run (fun s i ↦
    if (s.txSessions i).param.dnode = 0 then s else Scheme0.txSessionFail env i s) s _)
  refine run_invariant (fun s i hs ↦ ?_) hs _
  split_ifs
  · exact hs
  · exact hclosed.txSessionFail i hs

/-- One call keeps the property, if the functions do that change the nonce table. -/
theorem enter (call : Call)
    (hreport : ∀ src dst nonce, call = .nonceReport src dst nonce →
      property (Scheme0.sec0RegisterNonce env src dst nonce s))
    (hnonce : ∀ src, call = .nonceGet src → property (sec0SendNonce env src s))
    (hdecrypt : ∀ snode dnode encData, call = .decrypt snode dnode encData →
      property (sec0DecryptMessage env snode dnode encData s).1)
    (htick : call = .nonceTick → property (nonceTimerTimeout s)) (hs : property s) :
    property (enter env s call) := by
  have hother : ∀ after : S0, after.nonceTable = s.nonceTable → after.log = s.log →
      property after := fun after htable hlog ↦ hclosed.same (sameNonces_of_eq htable hlog) hs
  cases call with
  | init => exact hother _ rfl rfl
  | setKey netkey => exact hother _ rfl rfl
  | sendData p data len user callback => exact hclosed.sec0SendData p data len user callback hs
  | nonceReport src dst nonce => exact hreport src dst nonce rfl
  | rawCallback k status =>
    simp only [Scheme0.enter]
    split
    · exact hs
    · exact hclosed.rawCallback _ _ _ (hother _ rfl rfl)
  | txTimeout i =>
    simp only [Scheme0.enter]
    split_ifs
    · exact hclosed.txSessionFail i (hclosed.modifySession i _ hs)
    · exact hs
  | abortAll => exact hclosed.sec0AbortAllTxSessions hs
  | nonceGet src => exact hnonce src rfl
  | decrypt snode dnode encData => exact hdecrypt snode dnode encData rfl
  | nonceTick => exact htick rfl
  | wait ticks => exact hother _ rfl rfl

/-- One call of the machine keeps what the call keeps. -/
theorem step (call : Call) (henter : property (Scheme0.enter env s call)) (hs : property s) :
    property (step env s call) := by
  unfold Scheme0.step
  dsimp only
  split_ifs
  · exact hs
  · exact hclosed.same (sameNonces_of_eq (s := s) rfl rfl) hs
  · exact henter

end NonceClosed

/-! ### Runs under a condition -/

/-- The environments the module can meet, when the calls that a callback makes are allowed in the
states in which they are made. -/
inductive Env.ReactsUnder (allowed : S0 → Call → Prop) : Env → Prop
  | silent (env : Env) (hsilent : ∀ s completion, env.callback s completion = s) :
      Env.ReactsUnder allowed env
  | calls (env inner : Env) (hinner : Env.ReactsUnder allowed inner) (haes : inner.aes = env.aes)
      (calls : S0 → Completion → List Call)
      (hallowed : ∀ s completion, AllSteps (step inner) allowed s (calls s completion))
      (hcallback : ∀ s completion,
        env.callback s completion = run (step inner) s (calls s completion)) :
      Env.ReactsUnder allowed env

/-- What every allowed call keeps, whatever the callbacks do as long as they keep it, the callbacks
keep. -/
theorem Env.ReactsUnder.callback_invariant {allowed : S0 → Call → Prop} {property : S0 → Prop}
    (hstep : ∀ (env : Env), (∀ s completion, property s → property (env.callback s completion)) →
      ∀ s call, allowed s call → property s → property (step env s call))
    {env : Env} (hreacts : env.ReactsUnder allowed) :
    ∀ s completion, property s → property (env.callback s completion) := by
  induction hreacts with
  | silent env hsilent =>
    intro s completion hs
    rw [hsilent]
    exact hs
  | calls env inner _ _ calls hallowed hcallback ih =>
    intro s completion hs
    rw [hcallback]
    exact run_invariant_of_allSteps (hstep inner ih) hs (hallowed s completion)

/-- The invariant rule of the module for runs under a condition. -/
theorem run_invariant_of_reactsUnder {allowed : S0 → Call → Prop} {property : S0 → Prop}
    (hstep : ∀ (env : Env), (∀ s completion, property s → property (env.callback s completion)) →
      ∀ s call, allowed s call → property s → property (step env s call))
    {env : Env} (hreacts : env.ReactsUnder allowed) {start : S0} (hstart : property start)
    {calls : List Call} (hallowed : AllSteps (step env) allowed start calls) :
    property (run (step env) start calls) :=
  run_invariant_of_allSteps (hstep env (hreacts.callback_invariant hstep)) hstart hallowed

theorem sampleEnv_reactsUnder (allowed : S0 → Call → Prop) : sampleEnv.ReactsUnder allowed :=
  .silent sampleEnv fun _ _ ↦ rfl

end ZipGateway.Scheme0
