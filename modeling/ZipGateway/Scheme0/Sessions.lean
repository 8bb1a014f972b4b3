import ZipGateway.Scheme0.Footprint

/-!
# What a transmit session has sent

`SessionInv` is the invariant of the transmit sessions over every run: it ties the cursor and the
state of each session slot to the payload that `sec0_send_data` accepted and to the fragments that
the log shows for the session. A session that waits for its first nonce has encrypted nothing; one
in `ENC_MSG` or `ENC_MSG_SENT` has sent exactly its first fragment; one in `ENC_MSG2` has sent two,
and then its payload is longer than one fragment. A session that ended in `TX_DONE` has sent one
fragment when its payload fits into one frame and two otherwise (`SessionLog.done`). Nothing here
says that two fragments are the whole payload, and they need not be.

Everything is stated on the trace of a state, the part of its log that belongs to sessions.
`SameSessions` relates two states that the invariant does not tell apart, and `SessionInv.advance`
is the one rule by which a session moves: one slot changes, and the trace grows by acts of its
session.
-/

set_option autoImplicit false

namespace ZipGateway.Scheme0

open Function Lib List

/-! ### Traces -/

/-- The session an act belongs to. -/
def Act.owner : Act → Option ℕ
  | .accepted serial .. => some serial
  | .encrypted serial .. => some serial
  | .message serial _ => some serial
  | .ended serial _ => some serial
  | _ => none

/-- The acts of the log that belong to sessions, newest first. -/
def S0.trace (s : S0) : List Act := s.log.filter fun act ↦ act.owner.isSome

/-- The encapsulation an act of session `serial` sent. -/
def Act.messageOf (serial : ℕ) : Act → Option Encapsulation
  | .message n enc => if n = serial then some enc else none
  | _ => none

/-- The encryption an act of session `serial` made: the pass, and the encapsulation. -/
def Act.encryptionOf (serial : ℕ) : Act → Option (Bool × Encapsulation)
  | .encrypted n pass2 enc => if n = serial then some (pass2, enc) else none
  | _ => none

/-- The encapsulations of a session, newest first. -/
def messagesOf (serial : ℕ) (log : List Act) : List Encapsulation :=
  log.filterMap (Act.messageOf serial)

/-- The encryptions of a session, newest first. -/
def encryptionsOf (serial : ℕ) (log : List Act) : List (Bool × Encapsulation) :=
  log.filterMap (Act.encryptionOf serial)

variable {aes : BlockCipher} {log : List Act} {serial : ℕ} {act : Act}

theorem messageOf_eq_none (howner : act.owner ≠ some serial) : act.messageOf serial = none := by
  cases act <;> simp_all [Act.owner, Act.messageOf]

theorem encryptionOf_eq_none (howner : act.owner ≠ some serial) :
    act.encryptionOf serial = none := by
  cases act <;> simp_all [Act.owner, Act.encryptionOf]

/-- Acts of other sessions add nothing to the encapsulations of a session. -/
theorem messagesOf_append {acts log : List Act} (hacts : ∀ act ∈ acts, act.owner ≠ some serial) :
    messagesOf serial (acts ++ log) = messagesOf serial log := by
  unfold messagesOf
  rw [filterMap_append, append_left_eq_self, filterMap_eq_nil_iff]
  exact fun act hact ↦ messageOf_eq_none (hacts act hact)

/-- Acts of other sessions add nothing to the encryptions of a session. -/
theorem encryptionsOf_append {acts log : List Act} (hacts : ∀ act ∈ acts, act.owner ≠ some serial) :
    encryptionsOf serial (acts ++ log) = encryptionsOf serial log := by
  unfold encryptionsOf
  rw [filterMap_append, append_left_eq_self, filterMap_eq_nil_iff]
  exact fun act hact ↦ encryptionOf_eq_none (hacts act hact)

/-- The encapsulations of a session are those of the trace. -/
theorem messagesOf_trace (serial : ℕ) (s : S0) :
    messagesOf serial s.trace = messagesOf serial s.log := by
  unfold messagesOf S0.trace
  rw [filterMap_filter]
  refine filterMap_congr fun act _ ↦ ?_
  cases act <;> simp [Act.owner, Act.messageOf]

/-- The encryptions of a session are those of the trace. -/
theorem encryptionsOf_trace (serial : ℕ) (s : S0) :
    encryptionsOf serial s.trace = encryptionsOf serial s.log := by
  unfold encryptionsOf S0.trace
  rw [filterMap_filter]
  refine filterMap_congr fun act _ ↦ ?_
  cases act <;> simp [Act.owner, Act.encryptionOf]

/-- An act of a session is in the log when it is in the trace. -/
theorem mem_trace {s : S0} {act : Act} (howner : act.owner.isSome) :
    act ∈ s.trace ↔ act ∈ s.log := by
  simp [S0.trace, howner]

/-- The states have the same sessions, traces and network keys. -/
structure SameSessions (s after : S0) : Prop where
  txSessions : after.txSessions = s.txSessions
  lastSerial : after.lastSerial = s.lastSerial
  trace : after.trace = s.trace
  enckey : after.enckey = s.enckey
  authkey : after.authkey = s.authkey

theorem sameSessions_trans {first second third : S0} (hfirst : SameSessions first second)
    (hsecond : SameSessions second third) : SameSessions first third :=
  ⟨hsecond.txSessions.trans hfirst.txSessions, hsecond.lastSerial.trans hfirst.lastSerial,
    hsecond.trace.trans hfirst.trace, hsecond.enckey.trans hfirst.enckey,
    hsecond.authkey.trans hfirst.authkey⟩

theorem SameTransmit.sameSessions {s after : S0} (hsame : SameTransmit s after) :
    SameSessions s after := by
  refine ⟨hsame.txSessions, hsame.lastSerial, ?_, hsame.enckey, hsame.authkey⟩
  obtain ⟨acts, hlog, hacts⟩ := hsame.log
  unfold S0.trace
  rw [hlog, filter_append, append_left_eq_self, filter_eq_nil_iff]
  intro act hact
  have hnonce := hacts act hact
  cases act <;> simp_all [Act.owner, Act.isNonceAct]

/-! ### Fragments -/

/-- The bytes of a message that one frame carries. -/
abbrev maxFragment : ℕ := 26

theorem moreToSend_eq (dnode : UInt16) (dataLen : ℕ) :
    moreToSend dnode dataLen = decide (maxFragment < dataLen) := by
  unfold moreToSend getNodeMaxFrameSize
  refine decide_eq_decide.mpr ?_
  simp only [maxFragment]
  omega

theorem fragmentLen_eq (dnode : UInt16) (dataLen : ℕ) :
    fragmentLen dnode dataLen = min maxFragment dataLen := by
  unfold fragmentLen
  rw [moreToSend_eq]
  simp only [maxFragment]
  split_ifs with hmore
  · simp only [decide_eq_true_eq] at hmore
    simp only [getNodeMaxFrameSize]
    omega
  · simp only [decide_eq_true_eq] at hmore
    omega

/-- The payload after its first fragment. -/
def secondPart (data : ℕ → UInt8) : ℕ → UInt8 := fun k ↦ data (maxFragment + k)

/-- The encapsulation carries the fragment at the cursor `data`, `len`: it is made with some nonce
of the sender, under the network keys, or under the zero keys if the fragment looks like a Network
Key Set command. -/
def FragmentOf (aes : BlockCipher) (p : TsParam) (data : ℕ → UInt8) (len : ℕ) (seq : UInt8)
    (pass2 : Bool) (enc : Encapsulation) : Prop :=
  enc.zeroKeys = looksLikeNetworkKeySet data ∧
  ∃ own : Nonce, enc.frame =
    encapsulation aes
      (if enc.zeroKeys then enc.enckeyz else enc.enckey)
      (if enc.zeroKeys then enc.authkeyz else enc.authkey)
      (fragmentHeader (moreToSend p.dnode len)) p.snode.toUInt8 p.dnode.toUInt8 own enc.receiver
      (fragmentFlags pass2 (moreToSend p.dnode len) seq ::
        readData data (fragmentLen p.dnode len))

/-- The session has sent its first fragment and nothing else. -/
def FirstSent (aes : BlockCipher) (log : List Act) (serial : ℕ) (seq : UInt8) (p : TsParam)
    (data : ℕ → UInt8) (len : ℕ) : Prop :=
  ∃ first, messagesOf serial log = [first] ∧ FragmentOf aes p data len seq false first ∧
    encryptionsOf serial log = [(false, first)]

/-- The session has sent a first and a second fragment and nothing else. -/
def BothSent (aes : BlockCipher) (log : List Act) (serial : ℕ) (seq : UInt8) (p : TsParam)
    (data : ℕ → UInt8) (len : ℕ) : Prop :=
  maxFragment < len ∧ ∃ first second, messagesOf serial log = [second, first] ∧
    FragmentOf aes p data len seq false first ∧
    FragmentOf aes p (secondPart data) (len - maxFragment) seq true second ∧
    encryptionsOf serial log = [(true, second), (false, first)]

/-- The session has sent all the fragments it will send. -/
def SentAll (aes : BlockCipher) (log : List Act) (serial : ℕ) (p : TsParam) (data : ℕ → UInt8)
    (len : ℕ) : Prop :=
  ∃ seq, len ≤ maxFragment ∧ FirstSent aes log serial seq p data len ∨
    BothSent aes log serial seq p data len

/-- What a session may have made of its payload, newest first: nothing, the encapsulation of the
first fragment, or, when the payload is longer than that, those of both. -/
def FragmentsMade (aes : BlockCipher) (p : TsParam) (data : ℕ → UInt8) (len : ℕ)
    (made : List (Bool × Encapsulation)) : Prop :=
  made = [] ∨ ∃ seq first, FragmentOf aes p data len seq false first ∧
    (made = [(false, first)] ∨ maxFragment < len ∧ ∃ second,
      FragmentOf aes p (secondPart data) (len - maxFragment) seq true second ∧
        made = [(true, second), (false, first)])

/-! ### The invariant -/

/-- The slot is where the trace of its session says, for an accepted payload. -/
structure SlotOk (aes : BlockCipher) (log : List Act) (session : TxSession) (p : TsParam)
    (data : ℕ → UInt8) (len : ℕ) : Prop where
  waiting : session.state = .nonceGet ∨ session.state = .nonceGetSent →
    session.data = data ∧ session.dataLen = len ∧ messagesOf session.serial log = [] ∧
      encryptionsOf session.serial log = []
  first : session.state = .encMsg ∨ session.state = .encMsgSent →
    session.dataLen = len - maxFragment ∧ (maxFragment < len → session.data = secondPart data) ∧
      FirstSent aes log session.serial session.seq p data len
  more : session.state = .encMsgSent → session.dataLen ≠ 0
  both : session.state = .encMsg2 → BothSent aes log session.serial session.seq p data len
  live : session.state ≠ .txDone → session.state ≠ .txFail →
    session.state ≠ .encMsg2Sent ∧ session.param = p ∧ ∀ state, .ended session.serial state ∉ log

/-- What the trace shows of a session, whether or not it still has a slot. -/
structure SessionLog (aes : BlockCipher) (log : List Act) (serial : ℕ) (p : TsParam)
    (data : ℕ → UInt8) (len : ℕ) : Prop where
  encryptions : FragmentsMade aes p data len (encryptionsOf serial log)
  done : .ended serial .txDone ∈ log → SentAll aes log serial p data len

/-- The invariant of the transmit sessions. -/
structure SessionInv (aes : BlockCipher) (s : S0) : Prop where
  slot : ∀ i, (s.txSessions i).serial ≠ 0 → ∃ p data len,
    .accepted (s.txSessions i).serial p data len ∈ s.trace ∧
      SlotOk aes s.trace (s.txSessions i) p data len
  distinct : ∀ i j, (s.txSessions i).serial ≠ 0 →
    (s.txSessions i).serial = (s.txSessions j).serial → i = j
  slotBound : ∀ i, (s.txSessions i).serial ≤ s.lastSerial
  bound : ∀ act ∈ s.trace, ∀ serial, act.owner = some serial → serial ≤ s.lastSerial
  positive : ∀ serial p data len, .accepted serial p data len ∈ s.trace → serial ≠ 0
  unique : ∀ serial p data len p' data' len', .accepted serial p data len ∈ s.trace →
    .accepted serial p' data' len' ∈ s.trace → p = p' ∧ data = data' ∧ len = len'
  sessionLog : ∀ serial p data len, .accepted serial p data len ∈ s.trace →
    SessionLog aes s.trace serial p data len

section Rules

variable {aes : BlockCipher} {s after : S0}

/-- The invariant does not tell states with the same sessions apart. -/
theorem SessionInv.congr (hinv : SessionInv aes s) (hsame : SameSessions s after) :
    SessionInv aes after := by
  obtain ⟨htx, hlast, htrace, -, -⟩ := hsame
  constructor
  · rw [htx, htrace]
    exact hinv.slot
  · rw [htx]
    exact hinv.distinct
  · rw [htx, hlast]
    exact hinv.slotBound
  · rw [htrace, hlast]
    exact hinv.bound
  · rw [htrace]
    exact hinv.positive
  · rw [htrace]
    exact hinv.unique
  · rw [htrace]
    exact hinv.sessionLog

variable {log acts : List Act} {serial : ℕ}

theorem FirstSent.append {seq : UInt8} {p : TsParam}
    {data : ℕ → UInt8} {len : ℕ} (hacts : ∀ act ∈ acts, act.owner ≠ some serial)
    (hsent : FirstSent aes log serial seq p data len) :
    FirstSent aes (acts ++ log) serial seq p data len := by
  unfold FirstSent
  rw [messagesOf_append hacts, encryptionsOf_append hacts]
  exact hsent

theorem BothSent.append {seq : UInt8} {p : TsParam}
    {data : ℕ → UInt8} {len : ℕ} (hacts : ∀ act ∈ acts, act.owner ≠ some serial)
    (hsent : BothSent aes log serial seq p data len) :
    BothSent aes (acts ++ log) serial seq p data len := by
  unfold BothSent
  rw [messagesOf_append hacts, encryptionsOf_append hacts]
  exact hsent

/-- Acts of other sessions leave a slot where it is. -/
theorem SlotOk.append {session : TxSession} {p : TsParam}
    {data : ℕ → UInt8} {len : ℕ} (hacts : ∀ act ∈ acts, act.owner ≠ some session.serial)
    (hslot : SlotOk aes log session p data len) : SlotOk aes (acts ++ log) session p data len := by
  refine ⟨fun hstate ↦ ?_, fun hstate ↦ ?_, hslot.more, fun hstate ↦ ?_, fun hdone hfail ↦ ?_⟩
  · rw [messagesOf_append hacts, encryptionsOf_append hacts]
    exact hslot.waiting hstate
  · obtain ⟨hlen, hdata, hsent⟩ := hslot.first hstate
    exact ⟨hlen, hdata, hsent.append hacts⟩
  · exact (hslot.both hstate).append hacts
  · obtain ⟨hstate, hparam, hended⟩ := hslot.live hdone hfail
    refine ⟨hstate, hparam, fun state hmem ↦ ?_⟩
    rcases mem_append.mp hmem with hmem | hmem
    · exact hacts _ hmem rfl
    · exact hended state hmem

/-- Acts of other sessions change nothing in what the trace shows of a session. -/
theorem SessionLog.append {p : TsParam} {data : ℕ → UInt8}
    {len : ℕ} (hacts : ∀ act ∈ acts, act.owner ≠ some serial)
    (hlog : SessionLog aes log serial p data len) :
    SessionLog aes (acts ++ log) serial p data len := by
  refine ⟨?_, fun hended ↦ ?_⟩
  · rw [encryptionsOf_append hacts]
    exact hlog.encryptions
  · rcases mem_append.mp hended with hmem | hmem
    · exact absurd rfl (hacts _ hmem)
    · obtain ⟨seq, ⟨hlen, hsent⟩ | hsent⟩ := hlog.done hmem
      · exact ⟨seq, Or.inl ⟨hlen, hsent.append hacts⟩⟩
      · exact ⟨seq, Or.inr (hsent.append hacts)⟩

/-- The rule for a session that moves: slot `i` changes, and the trace grows by acts of its session.
What has to be shown is about this session alone. -/
theorem SessionInv.advance (hinv : SessionInv aes s) (i : Fin numTxSessions) (acts : List Act)
    (hother : ∀ j, j ≠ i → after.txSessions j = s.txSessions j)
    (hserial : (after.txSessions i).serial = (s.txSessions i).serial)
    (hlast : after.lastSerial = s.lastSerial) (htrace : after.trace = acts ++ s.trace)
    (hacts : ∀ act ∈ acts, act.owner = some (s.txSessions i).serial ∧
      ∀ serial p data len, act ≠ .accepted serial p data len)
    (hslot : ∀ p data len, .accepted (s.txSessions i).serial p data len ∈ s.trace →
      SlotOk aes s.trace (s.txSessions i) p data len →
      SessionLog aes s.trace (s.txSessions i).serial p data len →
      SlotOk aes after.trace (after.txSessions i) p data len ∧
        SessionLog aes after.trace (s.txSessions i).serial p data len) :
    SessionInv aes after := by
  have haccepted : ∀ serial p data len, .accepted serial p data len ∈ after.trace →
      .accepted serial p data len ∈ s.trace := by
    intro serial p data len hmem
    rw [htrace] at hmem
    rcases mem_append.mp hmem with hmem | hmem
    · exact absurd rfl ((hacts _ hmem).2 serial p data len)
    · exact hmem
  have hkeep : ∀ act, act ∈ s.trace → act ∈ after.trace := fun act hmem ↦ by
    rw [htrace]
    exact mem_append_right _ hmem
  have hforeign : ∀ serial, serial ≠ (s.txSessions i).serial →
      ∀ act ∈ acts, act.owner ≠ some serial := fun serial hne act hact howner ↦ by
    rw [(hacts act hact).1, Option.some.injEq] at howner
    exact hne howner.symm
  have hserials : ∀ j, (after.txSessions j).serial = (s.txSessions j).serial := fun j ↦ by
    by_cases hj : j = i
    · rw [hj, hserial]
    · rw [hother j hj]
  constructor
  · intro j hj
    rw [hserials] at hj
    obtain ⟨p, data, len, hmem, hok⟩ := hinv.slot j hj
    refine ⟨p, data, len, by rw [hserials]; exact hkeep _ hmem, ?_⟩
    by_cases hij : j = i
    · subst hij
      exact (hslot p data len hmem hok (hinv.sessionLog _ _ _ _ hmem)).1
    · rw [hother j hij, htrace]
      exact hok.append (hforeign _ fun heq ↦ hij (hinv.distinct j i hj heq))
  · intro j k hj heq
    rw [hserials] at hj
    rw [hserials, hserials] at heq
    exact hinv.distinct j k hj heq
  · intro j
    rw [hserials, hlast]
    exact hinv.slotBound j
  · intro act hact serial howner
    rw [htrace] at hact
    rw [hlast]
    rcases mem_append.mp hact with hact | hact
    · rw [(hacts act hact).1, Option.some.injEq] at howner
      rw [← howner]
      exact hinv.slotBound i
    · exact hinv.bound act hact serial howner
  · exact fun serial p data len hmem ↦ hinv.positive serial p data len (haccepted _ _ _ _ hmem)
  · exact fun serial p data len p' data' len' hmem hmem' ↦ hinv.unique serial p data len p' data'
      len' (haccepted _ _ _ _ hmem) (haccepted _ _ _ _ hmem')
  · intro serial p data len hmem
    have hmem := haccepted _ _ _ _ hmem
    by_cases hown : serial = (s.txSessions i).serial
    · subst hown
      obtain ⟨p', data', len', hmem', hok⟩ := hinv.slot i (hinv.positive _ _ _ _ hmem)
      obtain ⟨rfl, rfl, rfl⟩ := hinv.unique _ _ _ _ _ _ _ hmem hmem'
      exact (hslot p data len hmem hok (hinv.sessionLog _ _ _ _ hmem)).2
    · rw [htrace]
      exact (hinv.sessionLog _ _ _ _ hmem).append (hforeign serial hown)

end Rules

/-! ### Transitions -/

/-- What `encrypt_msg` leaves when it makes a frame: the cursor has moved over the fragment, and the
frame is an encapsulation of the fragment. -/
theorem encryptMsg_some {env : Env} {i : Fin numTxSessions} {pass2 : Bool} {s after : S0}
    {enc : Encapsulation} (hencrypt : encryptMsg env i pass2 s = (after, some enc)) :
    after.txSessions = update s.txSessions i (s.txSessions i).advanced ∧
      after.lastSerial = s.lastSerial ∧
      after.trace = .encrypted (s.txSessions i).serial pass2 enc :: s.trace ∧
      FragmentOf env.aes (s.txSessions i).param (s.txSessions i).data (s.txSessions i).dataLen
        (s.txSessions i).seq pass2 enc := by
  obtain ⟨middle, hsame, rfl⟩ := encryptMsg_advanced hencrypt
  refine ⟨?_, hsame.lastSerial, ?_, ?_⟩
  · simp only [S0.modifySession, hsame.txSessions]
  · have htrace := hsame.sameSessions.trace
    simp only [S0.trace] at htrace ⊢
    rw [filter_cons_of_pos rfl]
    exact congrArg _ htrace
  · simp only [encryptMsg] at hencrypt
    split at hencrypt
    · simp at hencrypt
    · split at hencrypt
      · simp at hencrypt
      · rename_i own _ _ _ _ _
        simp only [Prod.mk.injEq, Option.some.injEq] at hencrypt
        obtain ⟨-, rfl⟩ := hencrypt
        exact ⟨rfl, own, rfl⟩

/-- State `t` is state `s` with slot `i` changed, its session kept, and `acts` of that session added
to the trace. -/
structure Moved (i : Fin numTxSessions) (acts : List Act) (s t : S0) : Prop where
  other : ∀ j, j ≠ i → t.txSessions j = s.txSessions j
  serial : (t.txSessions i).serial = (s.txSessions i).serial
  lastSerial : t.lastSerial = s.lastSerial
  trace : t.trace = acts ++ s.trace
  acts : ∀ act ∈ acts, act.owner = some (s.txSessions i).serial ∧
    ∀ serial p data len, act ≠ .accepted serial p data len

theorem moved_modifySession (s : S0) (i : Fin numTxSessions) (change : TxSession → TxSession)
    (hchange : (change (s.txSessions i)).serial = (s.txSessions i).serial) :
    Moved i [] s (s.modifySession i change) := by
  refine ⟨fun j hj ↦ ?_, ?_, rfl, rfl, by simp⟩
  · simp [S0.modifySession, hj]
  · simpa [S0.modifySession] using hchange

theorem moved_refl (s : S0) (i : Fin numTxSessions) : Moved i [] s s :=
  ⟨fun _ _ ↦ rfl, rfl, rfl, rfl, by simp⟩

theorem moved_trans {s t u : S0} {i : Fin numTxSessions} {acts later : List Act}
    (hfirst : Moved i acts s t) (hsecond : Moved i later t u) : Moved i (later ++ acts) s u := by
  refine ⟨fun j hj ↦ (hsecond.other j hj).trans (hfirst.other j hj),
    hsecond.serial.trans hfirst.serial, hsecond.lastSerial.trans hfirst.lastSerial,
    by rw [hsecond.trace, hfirst.trace, append_assoc], fun act hact ↦ ?_⟩
  rcases mem_append.mp hact with hact | hact
  · rw [← hfirst.serial]
    exact hsecond.acts act hact
  · exact hfirst.acts act hact

/-- A move keeps the invariant when the session stands where it should after it. -/
theorem SessionInv.moved {s t : S0} {i : Fin numTxSessions} {acts : List Act}
    (hinv : SessionInv aes s) (hmoved : Moved i acts s t)
    (hslot : ∀ p data len, .accepted (s.txSessions i).serial p data len ∈ s.trace →
      SlotOk aes s.trace (s.txSessions i) p data len →
      SessionLog aes s.trace (s.txSessions i).serial p data len →
      SlotOk aes t.trace (t.txSessions i) p data len ∧
        SessionLog aes t.trace (s.txSessions i).serial p data len) : SessionInv aes t :=
  hinv.advance i acts hmoved.other hmoved.serial hmoved.lastSerial hmoved.trace hmoved.acts hslot

theorem firstSent_cons {serial : ℕ} {seq : UInt8}
    {p : TsParam} {data : ℕ → UInt8} {len : ℕ} (hmessage : act.messageOf serial = none)
    (hencryption : act.encryptionOf serial = none)
    (hsent : FirstSent aes log serial seq p data len) :
    FirstSent aes (act :: log) serial seq p data len := by
  unfold FirstSent messagesOf encryptionsOf
  rw [filterMap_cons_none hmessage, filterMap_cons_none hencryption]
  exact hsent

theorem bothSent_cons {serial : ℕ} {seq : UInt8}
    {p : TsParam} {data : ℕ → UInt8} {len : ℕ} (hmessage : act.messageOf serial = none)
    (hencryption : act.encryptionOf serial = none)
    (hsent : BothSent aes log serial seq p data len) :
    BothSent aes (act :: log) serial seq p data len := by
  unfold BothSent messagesOf encryptionsOf
  rw [filterMap_cons_none hmessage, filterMap_cons_none hencryption]
  exact hsent

theorem sentAll_cons_ended {serial other : ℕ} {state : TxState}
    {p : TsParam} {data : ℕ → UInt8} {len : ℕ} (hsent : SentAll aes log serial p data len) :
    SentAll aes (.ended other state :: log) serial p data len := by
  obtain ⟨seq, ⟨hlen, hsent⟩ | hsent⟩ := hsent
  · exact ⟨seq, Or.inl ⟨hlen, firstSent_cons rfl rfl hsent⟩⟩
  · exact ⟨seq, Or.inr (bothSent_cons rfl rfl hsent)⟩

section Machine

variable {env : Env} {s t : S0} {i : Fin numTxSessions} {acts : List Act}
  (hcallback : ∀ s completion, SessionInv env.aes s →
    SessionInv env.aes (env.callback s completion))

include hcallback

/-- A slot that ends keeps the invariant when its session has sent what a session that ends so has
sent. -/
theorem sessionInv_txSessionEnd {state : TxState} (hstate : state = .txDone ∨ state = .txFail)
    (hinv : SessionInv env.aes s) (hmoved : Moved i acts s t)
    (hend : ∀ p data len, .accepted (s.txSessions i).serial p data len ∈ s.trace →
      SlotOk env.aes s.trace (s.txSessions i) p data len →
      SessionLog env.aes s.trace (s.txSessions i).serial p data len →
      SessionLog env.aes t.trace (s.txSessions i).serial p data len ∧
        (state = .txDone → SentAll env.aes t.trace (s.txSessions i).serial p data len)) :
    SessionInv env.aes (txSessionEnd env i state t) := by
  have hended : ∀ u : S0, u.txSessions = (t.modifySession i fun session ↦ { session with
      state := state, param := { session.param with dnode := 0 }, timer := false }).txSessions →
      u.lastSerial = t.lastSerial → u.trace = .ended (t.txSessions i).serial state :: t.trace →
      SessionInv env.aes u := by
    intro u htx hlast htrace
    have hmodify := moved_modifySession t i (fun session ↦ { session with
      state := state, param := { session.param with dnode := 0 }, timer := false }) rfl
    have hlater : Moved i [.ended (t.txSessions i).serial state] t u := by
      refine ⟨fun j hj ↦ ?_, ?_, hlast, htrace, by simp [Act.owner]⟩
      · rw [htx]
        exact hmodify.other j hj
      · rw [htx]
        exact hmodify.serial
    refine hinv.moved (moved_trans hmoved hlater) fun p data len hmem hok hlog ↦ ?_
    obtain ⟨hlog, hdone⟩ := hend p data len hmem hok hlog
    have hstate' : (u.txSessions i).state = state := by
      rw [htx]
      simp [S0.modifySession]
    constructor
    · refine ⟨fun h ↦ ?_, fun h ↦ ?_, fun h ↦ ?_, fun h ↦ ?_, fun h h' ↦ ?_⟩
      all_goals
        rw [hstate'] at h
        rcases hstate with rfl | rfl <;> simp_all
    · rw [htrace]
      refine ⟨?_, fun hmem ↦ ?_⟩
      · unfold encryptionsOf
        rw [filterMap_cons_none rfl]
        exact hlog.encryptions
      · rcases mem_cons.mp hmem with heq | hmem
        · injection heq with hserial hdoneState
          exact sentAll_cons_ended (hdone hdoneState.symm)
        · exact sentAll_cons_ended (hlog.done hmem)
  unfold txSessionEnd
  dsimp only
  split_ifs with hcall
  · exact hcallback _ _ (hended _ rfl rfl (by simp [S0.trace, S0.modifySession, Act.owner]))
  · exact hended _ rfl rfl (by simp [S0.trace, S0.modifySession, Act.owner])

/-- A session that fails keeps the invariant, whatever it has sent. -/
theorem sessionInv_txSessionFail (hinv : SessionInv env.aes s) (hmoved : Moved i acts s t)
    (hend : ∀ p data len, .accepted (s.txSessions i).serial p data len ∈ s.trace →
      SlotOk env.aes s.trace (s.txSessions i) p data len →
      SessionLog env.aes s.trace (s.txSessions i).serial p data len →
      SessionLog env.aes t.trace (s.txSessions i).serial p data len) :
    SessionInv env.aes (txSessionFail env i t) := by
  have hmodify := moved_modifySession t i
    (fun session ↦ { session with txCode := transmitCompleteFail }) rfl
  refine sessionInv_txSessionEnd hcallback (Or.inr rfl) hinv (moved_trans hmoved hmodify)
    fun p data len hmem hok hlog ↦ ⟨hend p data len hmem hok hlog, by simp⟩

/-- A session that fails without having sent anything more keeps the invariant. -/
theorem sessionInv_txSessionFail_of_moved (hinv : SessionInv env.aes s) (hmoved : Moved i [] s t) :
    SessionInv env.aes (txSessionFail env i t) := by
  refine sessionInv_txSessionFail hcallback hinv hmoved fun p data len hmem hok hlog ↦ ?_
  rw [hmoved.trace]
  exact hlog

/-- The states in which `encrypt_msg` is called, by pass. -/
def EncryptReady (pass2 : Bool) (session : TxSession) : Prop :=
  if pass2 then (session.state = .encMsg ∨ session.state = .encMsgSent) ∧ session.dataLen ≠ 0
  else session.state = .nonceGet ∨ session.state = .nonceGetSent

variable {aes : BlockCipher} {log : List Act} {session : TxSession}

omit hcallback in
/-- The cursor, the trace and the fragment a session is about to encrypt. -/
theorem SlotOk.encryptReady {p : TsParam}
    {data : ℕ → UInt8} {len : ℕ} {pass2 : Bool} (hok : SlotOk aes log session p data len)
    (hready : EncryptReady pass2 session) :
    session.param = p ∧ (∀ state, .ended session.serial state ∉ log) ∧
      if pass2 then maxFragment < len ∧ session.data = secondPart data ∧
        session.dataLen = len - maxFragment ∧
          FirstSent aes log session.serial session.seq p data len
      else session.data = data ∧ session.dataLen = len ∧ messagesOf session.serial log = [] ∧
        encryptionsOf session.serial log = [] := by
  cases pass2 with
  | false =>
    have hstate : session.state = .nonceGet ∨ session.state = .nonceGetSent := hready
    have hlive : session.state ≠ .txDone ∧ session.state ≠ .txFail := by
      rcases hstate with hstate | hstate <;> simp [hstate]
    obtain ⟨-, hparam, hended⟩ := hok.live hlive.1 hlive.2
    exact ⟨hparam, hended, hok.waiting hstate⟩
  | true =>
    obtain ⟨hstate, hmore⟩ :
        (session.state = .encMsg ∨ session.state = .encMsgSent) ∧ session.dataLen ≠ 0 := hready
    have hlive : session.state ≠ .txDone ∧ session.state ≠ .txFail := by
      rcases hstate with hstate | hstate <;> simp [hstate]
    obtain ⟨-, hparam, hended⟩ := hok.live hlive.1 hlive.2
    obtain ⟨hlen, hdata, hsent⟩ := hok.first hstate
    have hlong : maxFragment < len := by omega
    exact ⟨hparam, hended, hlong, hdata hlong, hlen, hsent⟩

omit hcallback in
/-- A fragment that has been encrypted, and perhaps sent, is one of those the session is to send. -/
theorem sessionLog_encrypted
    {p : TsParam} {data : ℕ → UInt8} {len : ℕ} {pass2 : Bool} {enc : Encapsulation}
    (more : List Act)
    (hok : SlotOk aes log session p data len) (hready : EncryptReady pass2 session)
    (hfragment : FragmentOf aes session.param session.data session.dataLen session.seq pass2 enc)
    (hmore : encryptionsOf session.serial more = [])
    (hended : .ended session.serial .txDone ∉ more) :
    SessionLog aes
      (more ++ .encrypted session.serial pass2 enc :: log) session.serial p data len := by
  obtain ⟨hparam, hlive, hcursor⟩ := hok.encryptReady hready
  refine ⟨?_, fun hmem ↦ ?_⟩
  · have hencryptions : encryptionsOf session.serial (more ++ .encrypted session.serial pass2 enc ::
        log) = (pass2, enc) :: encryptionsOf session.serial log := by
      unfold encryptionsOf at hmore ⊢
      rw [filterMap_append, hmore, nil_append]
      simp [Act.encryptionOf]
    rw [hencryptions]
    rw [hparam] at hfragment
    cases pass2 with
    | false =>
      obtain ⟨hdata, hlen, -, hnone⟩ := hcursor
      rw [hdata, hlen] at hfragment
      rw [hnone]
      exact Or.inr ⟨session.seq, enc, hfragment, Or.inl rfl⟩
    | true =>
      obtain ⟨hlong, hdata, hlen, first, -, hfirstFragment, hfirst⟩ := hcursor
      rw [hdata, hlen] at hfragment
      rw [hfirst]
      exact Or.inr ⟨session.seq, first, hfirstFragment, Or.inr ⟨hlong, enc, hfragment, rfl⟩⟩
  · rcases mem_append.mp hmem with hmem | hmem
    · exact absurd hmem hended
    · rcases mem_cons.mp hmem with heq | hmem
      · simp at heq
      · exact absurd hmem (hlive _)

omit hcallback in
/-- Where the slot stands when a fragment has been encrypted and sent. -/
theorem slotOk_sent {p : TsParam} {data : ℕ → UInt8} {len : ℕ} {pass2 : Bool} {enc : Encapsulation}
    (hok : SlotOk aes log session p data len) (hready : EncryptReady pass2 session)
    (hfragment : FragmentOf aes session.param session.data session.dataLen session.seq pass2 enc) :
    SlotOk aes (.message session.serial enc :: .encrypted session.serial pass2 enc :: log)
      (TxSession.advanced { session with state := passState pass2, timer := false }) p
        data len := by
  obtain ⟨hparam, hlive, hcursor⟩ := hok.encryptReady hready
  have hmessages : messagesOf session.serial (.message session.serial enc ::
      .encrypted session.serial pass2 enc :: log) =
      enc :: messagesOf session.serial log := by
    simp [messagesOf, Act.messageOf, filterMap_cons]
  have hencryptions : encryptionsOf session.serial (.message session.serial enc ::
      .encrypted session.serial pass2 enc :: log) =
      (pass2, enc) :: encryptionsOf session.serial log := by
    simp [encryptionsOf, Act.encryptionOf, filterMap_cons]
  have hnotEnded : ∀ state, .ended session.serial state ∉ (.message session.serial enc ::
      .encrypted session.serial pass2 enc :: log : List Act) := by
    simpa using hlive
  rw [hparam] at hfragment
  cases pass2 with
  | false =>
    obtain ⟨hdata, hlen, hnoMessage, hnoEncryption⟩ := hcursor
    rw [hdata, hlen] at hfragment
    refine ⟨by simp [TxSession.advanced, passState], fun _ ↦ ⟨?_, fun hlong ↦ ?_, enc, ?_, ?_, ?_⟩,
      by simp [TxSession.advanced, passState], by simp [TxSession.advanced, passState],
      fun _ _ ↦ ⟨by simp [TxSession.advanced, passState], hparam, hnotEnded⟩⟩
    · simp only [TxSession.advanced, fragmentLen_eq, hlen]
      omega
    · simp only [TxSession.advanced, fragmentLen_eq, hlen, hdata, Nat.min_eq_left hlong.le]
      rfl
    · exact hmessages.trans (by rw [hnoMessage])
    · exact hfragment
    · exact hencryptions.trans (by rw [hnoEncryption])
  | true =>
    obtain ⟨hlong, hdata, hlen, first, hfirst, hfirstFragment, hfirstEncryption⟩ := hcursor
    rw [hdata, hlen] at hfragment
    refine ⟨by simp [TxSession.advanced, passState], by simp [TxSession.advanced, passState],
      by simp [TxSession.advanced, passState], fun _ ↦ ⟨hlong, first, enc, ?_, ?_, ?_, ?_⟩,
      fun _ _ ↦ ⟨by simp [TxSession.advanced, passState], hparam, hnotEnded⟩⟩
    · exact hmessages.trans (by rw [hfirst])
    · exact hfirstFragment
    · exact hfragment
    · exact hencryptions.trans (by rw [hfirstEncryption])

/-- Encrypting and sending a fragment keeps the invariant. -/
theorem sessionInv_txSessionEncrypt {pass2 : Bool} (hinv : SessionInv env.aes s)
    (hready : (s.txSessions i).serial ≠ 0 → EncryptReady pass2 (s.txSessions i)) :
    SessionInv env.aes (txSessionEncrypt env i pass2 s) := by
  have hmodify := moved_modifySession s i
    (fun session ↦ { session with state := passState pass2, timer := false }) rfl
  unfold txSessionEncrypt
  dsimp only
  split
  · rename_i after hencrypt
    have hsame := (encryptMsg_none hencrypt).sameSessions
    refine sessionInv_txSessionFail_of_moved hcallback hinv ⟨fun j hj ↦ ?_, ?_, ?_, ?_, by simp⟩
    · rw [hsame.txSessions, hmodify.other j hj]
    · rw [hsame.txSessions, hmodify.serial]
    · rw [hsame.lastSerial, hmodify.lastSerial]
    · rw [hsame.trace, hmodify.trace]
  · rename_i after enc hencrypt
    obtain ⟨htx, hlast, htrace, hfragment⟩ := encryptMsg_some hencrypt
    have hsession : (s.modifySession i fun session ↦
        { session with state := passState pass2, timer := false }).txSessions i =
        { s.txSessions i with state := passState pass2, timer := false } := by
      simp [S0.modifySession]
    rw [hsession] at htx htrace hfragment
    have hafter : after.txSessions i = TxSession.advanced
        { s.txSessions i with state := passState pass2, timer := false } := by
      rw [htx]
      simp
    have hmoved : Moved i [.encrypted (s.txSessions i).serial pass2 enc] s after := by
      refine ⟨fun j hj ↦ ?_, ?_, hlast, htrace, by simp [Act.owner]⟩
      · rw [htx, update_of_ne hj, hmodify.other j hj]
      · rw [hafter]
        rfl
    split_ifs with hsent
    · have hlater : Moved i [.message (s.txSessions i).serial enc] after { after with
            outstanding := after.outstanding ++
              [(i, passCallback pass2, (after.txSessions i).serial)]
            log := .message (after.txSessions i).serial enc :: after.log } := by
        refine ⟨fun _ _ ↦ rfl, rfl, rfl, ?_, ?_⟩
        · rw [hmoved.serial]
          simp [S0.trace, Act.owner]
        · simp [Act.owner, hmoved.serial]
      refine hinv.moved (moved_trans hmoved hlater) fun p data len hmem hok hlog ↦ ?_
      have hready := hready (hinv.positive _ _ _ _ hmem)
      rw [(moved_trans hmoved hlater).trace]
      refine ⟨?_, sessionLog_encrypted [_] hok hready hfragment rfl (by simp)⟩
      change SlotOk env.aes _ (after.txSessions i) p data len
      rw [hafter]
      exact slotOk_sent hok hready hfragment
    · refine sessionInv_txSessionFail hcallback hinv hmoved fun p data len hmem hok hlog ↦ ?_
      rw [hmoved.trace]
      exact sessionLog_encrypted [] hok (hready (hinv.positive _ _ _ _ hmem)) hfragment
        rfl (by simp)

omit hcallback in
/-- A change of a slot that stays with its session, as timers and low-level results make it. -/
theorem SessionInv.modify (hinv : SessionInv aes s) (change : TxSession → TxSession)
    (hserial : (change (s.txSessions i)).serial = (s.txSessions i).serial)
    (hslot : ∀ p data len, SlotOk aes s.trace (s.txSessions i) p data len →
      SlotOk aes s.trace (change (s.txSessions i)) p data len) :
    SessionInv aes (s.modifySession i change) := by
  refine hinv.moved (moved_modifySession s i change hserial) fun p data len hmem hok hlog ↦ ?_
  have hsession : (s.modifySession i change).txSessions i = change (s.txSessions i) := by
    simp [S0.modifySession]
  rw [hsession]
  exact ⟨hslot p data len hok, hlog⟩

omit hcallback in
theorem sessionInv_nonceGetSent (hinv : SessionInv env.aes s)
    (hstate : (s.txSessions i).state = .nonceGet) :
    SessionInv env.aes (txSessionStateSet env i .nonceGetSent s) := by
  have hsent : SessionInv env.aes
      (s.modifySession i fun session ↦ { session with state := .nonceGetSent }) := by
    refine hinv.modify _ rfl fun p data len hok ↦ ?_
    obtain ⟨-, hparam, hended⟩ := hok.live (by simp [hstate]) (by simp [hstate])
    exact ⟨fun _ ↦ hok.waiting (Or.inl hstate), by simp, by simp, by simp,
      fun _ _ ↦ ⟨by simp, hparam, hended⟩⟩
  simp only [txSessionStateSet]
  split_ifs with hlearn
  · exact hsent
  · exact hsent.modify _ rfl fun p data len hok ↦
      ⟨hok.waiting, hok.first, hok.more, hok.both, hok.live⟩

theorem sessionInv_encMsgSent (hinv : SessionInv env.aes s)
    (hstate : (s.txSessions i).state = .encMsg) :
    SessionInv env.aes (txSessionStateSet env i .encMsgSent s) := by
  have hsession : ((s.modifySession i fun session ↦
      { session with state := .encMsgSent }).txSessions i).dataLen = (s.txSessions i).dataLen := by
    simp [S0.modifySession]
  simp only [txSessionStateSet]
  rw [hsession]
  split_ifs with hempty
  · -- Nothing is left of the payload, so it fitted into the first fragment.
    refine sessionInv_txSessionEnd hcallback (Or.inl rfl) hinv
      (moved_modifySession s i _ rfl) fun p data len hmem hok hlog ↦ ⟨hlog, fun _ ↦ ?_⟩
    obtain ⟨hlen, -, hsent⟩ := hok.first (Or.inl hstate)
    exact ⟨_, Or.inl ⟨by omega, hsent⟩⟩
  · have hsent : SessionInv env.aes
        (s.modifySession i fun session ↦ { session with state := .encMsgSent }) := by
      refine hinv.modify _ rfl fun p data len hok ↦ ?_
      obtain ⟨-, hparam, hended⟩ := hok.live (by simp [hstate]) (by simp [hstate])
      exact ⟨by simp, fun _ ↦ hok.first (Or.inl hstate), fun _ ↦ hempty, by simp,
        fun _ _ ↦ ⟨by simp, hparam, hended⟩⟩
    exact hsent.modify _ rfl fun p data len hok ↦
      ⟨hok.waiting, hok.first, hok.more, hok.both, hok.live⟩

theorem sessionInv_encMsg2Sent (hinv : SessionInv env.aes s)
    (hstate : (s.txSessions i).state = .encMsg2) :
    SessionInv env.aes (txSessionStateSet env i .encMsg2Sent s) :=
  sessionInv_txSessionEnd hcallback (Or.inl rfl) hinv (moved_refl s i)
    fun _ _ _ _ hok hlog ↦ ⟨hlog, fun _ ↦ ⟨_, Or.inr (hok.both hstate)⟩⟩

theorem sessionInv_txFail (hinv : SessionInv env.aes s) :
    SessionInv env.aes (txSessionStateSet env i .txFail s) :=
  sessionInv_txSessionEnd hcallback (Or.inr rfl) hinv (moved_refl s i)
    fun _ _ _ _ _ hlog ↦ ⟨hlog, by simp⟩

theorem sessionInv_rawCallback (kind : RawCallback) (status : UInt8) (hinv : SessionInv env.aes s) :
    SessionInv env.aes (rawCallback env i kind status s) := by
  have hcode : SessionInv env.aes
      (s.modifySession i fun session ↦ { session with txCode := status }) :=
    hinv.modify _ rfl fun p data len hok ↦
      ⟨hok.waiting, hok.first, hok.more, hok.both, hok.live⟩
  have hcodeState : ((s.modifySession i fun session ↦
      { session with txCode := status }).txSessions i).state = (s.txSessions i).state := by
    simp [S0.modifySession]
  unfold rawCallback
  dsimp only
  by_cases hexpected : (s.txSessions i).state = kind.transition.1
  · rw [if_pos hexpected, if_pos (Or.inr hexpected)]
    rw [← hcodeState] at hexpected
    split_ifs with hok
    · cases kind with
      | nonceGet => exact sessionInv_nonceGetSent hcode hexpected
      | msg1 => exact sessionInv_encMsgSent hcallback hcode hexpected
      | msg2 => exact sessionInv_encMsg2Sent hcallback hcode hexpected
    · exact sessionInv_txFail hcallback hcode
  · rw [if_neg hexpected]
    split_ifs with hkind
    · exact hcode
    · exact hinv

omit hcallback in
/-- A payload taken into slot `i` keeps the invariant. -/
theorem SessionInv.accept (hinv : SessionInv aes s) (session : TxSession)
    (htx : t.txSessions = update s.txSessions i session)
    (hserial : session.serial = s.lastSerial + 1) (hlast : t.lastSerial = s.lastSerial + 1)
    (hstate : session.state = .nonceGet)
    (htrace : t.trace = .accepted session.serial session.param session.data session.dataLen ::
      s.trace) : SessionInv aes t := by
  have hfresh : ∀ act ∈ s.trace, act.owner ≠ some session.serial := fun act hact howner ↦ by
    have hbound := hinv.bound act hact _ howner
    omega
  have hmessages : messagesOf session.serial t.trace = [] := by
    rw [htrace]
    unfold messagesOf
    rw [filterMap_cons_none rfl, filterMap_eq_nil_iff]
    exact fun act hact ↦ messageOf_eq_none (hfresh act hact)
  have hencryptions : encryptionsOf session.serial t.trace = [] := by
    rw [htrace]
    unfold encryptionsOf
    rw [filterMap_cons_none rfl, filterMap_eq_nil_iff]
    exact fun act hact ↦ encryptionOf_eq_none (hfresh act hact)
  have hended : ∀ state, .ended session.serial state ∉ t.trace := fun state hmem ↦ by
    rw [htrace] at hmem
    rcases mem_cons.mp hmem with heq | hmem
    · simp at heq
    · exact hfresh _ hmem rfl
  have hforeign : ∀ serial, serial ≠ session.serial → ∀ act ∈ ([.accepted session.serial
      session.param session.data session.dataLen] : List Act), act.owner ≠ some serial := by
    intro serial hne act hact
    simp only [mem_singleton] at hact
    rw [hact]
    simp only [Act.owner, ne_eq, Option.some.injEq]
    exact fun heq ↦ hne heq.symm
  have hself : t.txSessions i = session := by
    rw [htx, update_self]
  have hother : ∀ j, j ≠ i → t.txSessions j = s.txSessions j := fun j hj ↦ by
    rw [htx, update_of_ne hj]
  have holder : ∀ j, (s.txSessions j).serial ≠ session.serial := fun j heq ↦ by
    have hbound := hinv.slotBound j
    omega
  have haccepted : ∀ serial p data len, .accepted serial p data len ∈ t.trace →
      (serial = session.serial ∧ p = session.param ∧ data = session.data ∧ len = session.dataLen) ∨
      serial ≠ session.serial ∧ .accepted serial p data len ∈ s.trace := by
    intro serial p data len hmem
    rw [htrace] at hmem
    rcases mem_cons.mp hmem with heq | hmem
    · injection heq with hserial hp hdata hlen
      exact Or.inl ⟨hserial, hp, hdata, hlen⟩
    · refine Or.inr ⟨fun heq ↦ hfresh _ hmem ?_, hmem⟩
      rw [heq]
      rfl
  constructor
  · intro j hj
    by_cases hij : j = i
    · subst hij
      rw [hself]
      refine ⟨session.param, session.data, session.dataLen, by rw [htrace]; simp, ?_⟩
      exact ⟨fun _ ↦ ⟨rfl, rfl, hmessages, hencryptions⟩, by simp [hstate], by simp [hstate],
        by simp [hstate], fun _ _ ↦ ⟨by simp [hstate], rfl, hended⟩⟩
    · rw [hother j hij] at hj ⊢
      obtain ⟨p, data, len, hmem, hok⟩ := hinv.slot j hj
      rw [htrace]
      exact ⟨p, data, len, mem_cons_of_mem _ hmem,
        hok.append (hforeign _ (holder j))⟩
  · intro j k hj heq
    by_cases hij : j = i <;> by_cases hik : k = i
    · rw [hij, hik]
    · rw [hij, hself, hother k hik] at heq
      exact absurd heq.symm (holder k)
    · rw [hik, hself, hother j hij] at heq
      exact absurd heq (holder j)
    · rw [hother j hij] at hj
      rw [hother j hij, hother k hik] at heq
      exact hinv.distinct j k hj heq
  · intro j
    by_cases hij : j = i
    · rw [hij, hself, hserial, hlast]
    · rw [hother j hij, hlast]
      exact (hinv.slotBound j).trans (Nat.le_succ _)
  · intro act hact serial howner
    rw [htrace] at hact
    rw [hlast]
    rcases mem_cons.mp hact with rfl | hact
    · simp only [Act.owner, Option.some.injEq] at howner
      omega
    · exact (hinv.bound act hact serial howner).trans (Nat.le_succ _)
  · intro serial p data len hmem
    rcases haccepted serial p data len hmem with ⟨heq, -⟩ | ⟨-, hmem⟩
    · omega
    · exact hinv.positive serial p data len hmem
  · intro serial p data len p' data' len' hmem hmem'
    rcases haccepted _ _ _ _ hmem with ⟨heq, rfl, rfl, rfl⟩ | ⟨hne, hmem⟩ <;>
      rcases haccepted _ _ _ _ hmem' with ⟨heq', rfl, rfl, rfl⟩ | ⟨hne', hmem'⟩
    · exact ⟨rfl, rfl, rfl⟩
    · exact absurd heq hne'
    · exact absurd heq' hne
    · exact hinv.unique _ _ _ _ _ _ _ hmem hmem'
  · intro serial p data len hmem
    rcases haccepted _ _ _ _ hmem with ⟨rfl, rfl, rfl, rfl⟩ | ⟨hne, hmem⟩
    · refine ⟨?_, fun hmem ↦ absurd hmem (hended _)⟩
      rw [hencryptions]
      exact Or.inl rfl
    · rw [htrace]
      exact (hinv.sessionLog _ _ _ _ hmem).append (hforeign serial hne)

theorem sessionInv_sec0SendData (p : TsParam) (data : ℕ → UInt8) (len : UInt8) (user : ℕ)
    (callback : Bool) (hinv : SessionInv env.aes s) :
    SessionInv env.aes (sec0SendData env p data len user callback s).1 := by
  unfold sec0SendData
  split
  · exact hinv
  · split
    · exact hinv
    · rename_i i hfree
      -- The slot with its new session, in the state that `tx_session_state_set` gives it.
      have hsession : ∀ u : S0, u.txSessions = update s.txSessions i
          { s.txSessions i with
            param := p
            data := data
            dataLen := len.toNat
            callback := callback
            user := user
            seq := s.seqCounter + 1
            serial := s.lastSerial + 1
            state := .nonceGet } → u.lastSerial = s.lastSerial + 1 →
          u.trace = .accepted (s.lastSerial + 1) p data len.toNat :: s.trace →
          SessionInv env.aes u := fun u htx hlast htrace ↦
        hinv.accept _ htx rfl hlast rfl htrace
      simp only [txSessionStateSet]
      generalize (if callback = true then (s.lastSerial + 1, user) :: s.clients else s.clients)
        = clients
      split_ifs with hsent hlearn
      · refine SessionInv.modify (hsession _ ?_ rfl rfl) _ rfl fun p data len hok ↦
          ⟨hok.waiting, hok.first, hok.more, hok.both, hok.live⟩
        simp [S0.modifySession]
      · refine hsession _ ?_ rfl rfl
        simp [S0.modifySession]
      · refine sessionInv_txSessionFail_of_moved hcallback (hsession _ ?_ rfl rfl) (moved_refl _ i)
        simp [S0.modifySession]

theorem sessionInv_sec0RegisterNonce (src dst : UInt8) (nonce : Nonce)
    (hinv : SessionInv env.aes s) : SessionInv env.aes (sec0RegisterNonce env src dst nonce s) := by
  unfold sec0RegisterNonce
  split_ifs with hblacklisted
  · exact hinv
  · split
    · exact hinv
    · rename_i i hfound
      have hregistered : SessionInv env.aes (sec0BlacklistAddNonce src dst nonce
          (registerNonce src dst false nonce s)) :=
        hinv.congr (sameSessions_trans
          (sameTransmit_registerNonce src dst false nonce s).sameSessions
          ⟨rfl, rfl, rfl, rfl, rfl⟩)
      dsimp only
      split
      · rename_i hstate
        exact sessionInv_txSessionEncrypt hcallback hregistered fun _ ↦ Or.inr hstate
      · rename_i hstate
        exact sessionInv_txSessionEncrypt hcallback hregistered fun _ ↦ Or.inl hstate
      · rename_i hstate
        refine sessionInv_txSessionEncrypt hcallback hregistered fun hserial ↦ ⟨Or.inr hstate, ?_⟩
        obtain ⟨p, data, len, -, hok⟩ := hregistered.slot i hserial
        exact hok.more hstate
      · rename_i hstate
        split_ifs with hmore
        · exact sessionInv_txSessionEncrypt hcallback hregistered fun _ ↦
            ⟨Or.inl hstate, Nat.pos_iff_ne_zero.mp hmore⟩
        · exact hregistered
      · exact hregistered

theorem sessionInv_sec0AbortAllTxSessions (hinv : SessionInv env.aes s) :
    SessionInv env.aes (sec0AbortAllTxSessions env s) := by
  change SessionInv env.aes (run (fun s i ↦
    if (s.txSessions i).param.dnode = 0 then s else txSessionFail env i s) s _)
  refine run_invariant (fun s i hs ↦ ?_) hinv _
  split_ifs with hfree
  · exact hs
  · exact sessionInv_txSessionFail_of_moved hcallback hs (moved_refl s i)

theorem sessionInv_enter (call : Call) (hinv : SessionInv env.aes s) :
    SessionInv env.aes (enter env s call) := by
  cases call with
  | init =>
    -- The cleared slots belong to no session.
    exact ⟨fun i hi ↦ absurd rfl hi, fun i j hi ↦ absurd rfl hi, fun i ↦ Nat.zero_le _, hinv.bound,
      hinv.positive, hinv.unique, hinv.sessionLog⟩
  | setKey netkey =>
    exact ⟨hinv.slot, hinv.distinct, hinv.slotBound, hinv.bound, hinv.positive, hinv.unique,
      hinv.sessionLog⟩
  | sendData p data len user callback =>
    exact sessionInv_sec0SendData hcallback p data len user callback hinv
  | nonceReport src dst nonce => exact sessionInv_sec0RegisterNonce hcallback src dst nonce hinv
  | rawCallback k status =>
    simp only [enter]
    split
    · exact hinv
    · exact sessionInv_rawCallback hcallback _ status (hinv.congr ⟨rfl, rfl, rfl, rfl, rfl⟩)
  | txTimeout i =>
    simp only [enter]
    split_ifs with htimer
    · exact sessionInv_txSessionFail_of_moved hcallback hinv (moved_modifySession s i _ rfl)
    · exact hinv
  | abortAll => exact sessionInv_sec0AbortAllTxSessions hcallback hinv
  | nonceGet src => exact hinv.congr (sameTransmit_sec0SendNonce env src s).sameSessions
  | decrypt snode dnode encData =>
    exact hinv.congr (sameTransmit_sec0DecryptMessage env _ _ _ s).sameSessions
  | nonceTick => exact hinv.congr ⟨rfl, rfl, rfl, rfl, rfl⟩
  | wait ticks => exact hinv.congr ⟨rfl, rfl, rfl, rfl, rfl⟩

theorem sessionInv_step (s : S0) (call : Call) (hinv : SessionInv env.aes s) :
    SessionInv env.aes (step env s call) := by
  unfold step
  dsimp only
  split_ifs with hhung hafter
  · exact hinv
  · exact hinv.congr ⟨rfl, rfl, rfl, rfl, rfl⟩
  · exact sessionInv_enter hcallback call hinv

end Machine

/-- The callbacks of an environment the module can meet keep the invariant. -/
theorem Env.Reacts.sessionInv_callback {env : Env} (hreacts : env.Reacts) :
    ∀ s completion, SessionInv env.aes s → SessionInv env.aes (env.callback s completion) := by
  induction hreacts with
  | silent env hsilent => exact fun s completion hinv ↦ by rwa [hsilent]
  | calls env inner hinner haes calls hcallback ih =>
    intro s completion hinv
    rw [hcallback]
    rw [← haes] at hinv ⊢
    exact run_invariant (fun s call hs ↦ sessionInv_step ih s call hs) hinv _

/-- The invariant holds in every state of every run from power-up. -/
theorem sessionInv_run (env : Env) (hreacts : env.Reacts) (prng : List Nonce) (calls : List Call) :
    SessionInv env.aes (run (step env) (S0.powerUp prng) calls) := by
  have hstart : SessionInv env.aes (S0.powerUp prng) := by
    have hempty : (S0.powerUp prng).trace = [] := rfl
    refine ⟨fun i hi ↦ absurd rfl hi, fun i j hi ↦ absurd rfl hi, fun i ↦ Nat.zero_le _, ?_, ?_, ?_,
      ?_⟩ <;> simp [hempty]
  exact run_invariant (fun s call hs ↦ sessionInv_step hreacts.sessionInv_callback s call hs)
    hstart calls

end ZipGateway.Scheme0
