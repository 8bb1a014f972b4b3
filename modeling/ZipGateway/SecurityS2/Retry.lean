import ZipGateway.SecurityS2.Model

/-!
# The retry counter

`ctxt->retry` is set to 2 when a singlecast is accepted and decremented when `S2_encrypt_and_send`
has returned. `S2_encrypt_and_send` may not return at once: when `S2_send_frame` does not take the
frame, the transmission ends inside it, and `S2_send_done_event` may start the next one, which sets
the counter again. The decrements of the outer calls then come on top of those of the inner one.

`ZipGateway.SecurityS2.Model` lets the callbacks call the module again in one piece. Here the
machine of `S2_fsm_post_event` takes single steps: `pending` is the number of calls of
`S2_encrypt_and_send` on the stack whose callbacks have not returned, and the input `ret` is the
return of the innermost one. What the machine reads in its tables, and whether the radio takes a
frame, are inputs. `wrapped` and `encrypts` are ghost state: the counter was decremented at 0, and
the calls of `S2_encrypt_and_send` for each accepted singlecast, the last one first.
`ZipGateway.SecurityS2.RetrySimulation` shows that it follows the module.
-/

set_option autoImplicit false

namespace ZipGateway.SecurityS2.Retry

open Lib List

/-! ### The machine -/

/-- `struct S2`, as far as the counter is concerned, with the ghost state. The options of the peer
are kept as the flag `S2_TXOPTION_VERIFY_DELIVERY`. -/
structure Machine where
  fsm : FsmState
  retry : UInt8
  verifyDelivery : Bool
  pending : ℕ
  wrapped : Bool
  encrypts : List ℕ
deriving DecidableEq, Repr

/-- `S2_init_ctx`. -/
def Machine.init : Machine := ⟨.idle, 0, false, 0, false, []⟩

/-- `ctxt->retry--`. -/
def decrement (m : Machine) : Machine :=
  { m with retry := m.retry - 1, wrapped := m.wrapped || m.retry == 0 }

/-- A transmission ends: the machine is idle, and `S2_post_send_done_event` calls the inclusion
machine and `S2_send_done_event`. What these do are the next inputs. -/
def endTransmission (m : Machine) : Machine := { m with fsm := .idle }

/-- The event `SEND_DONE`. -/
def fsmSendDone (ok : Bool) (m : Machine) : Machine :=
  match m.fsm with
  | .idle | .isMosWaitReply | .sendingMulticast => m
  | .waitNonceRaport | .verifyingDelivery => if ok then m else endTransmission m
  | .sendingMsg => endTransmission m

/-- `S2_send_raw`. -/
def sendRaw (taken : Bool) (m : Machine) : Machine := if taken then m else fsmSendDone false m

/-- The number of calls for the last singlecast goes up. -/
def countEncrypt : List ℕ → List ℕ
  | [] => []
  | calls :: earlier => (calls + 1) :: earlier

/-- `S2_encrypt_and_send`. -/
def encryptAndSend (taken : Bool) (m : Machine) : Machine :=
  sendRaw taken { m with encrypts := countEncrypt m.encrypts }

/-- `send_msg_state_enter`. After a frame that was not taken the decrement waits for the
callbacks. -/
def sendMsgStateEnter (taken : Bool) (m : Machine) : Machine :=
  let m := encryptAndSend taken
    { m with fsm := if m.verifyDelivery then .verifyingDelivery else .sendingMsg }
  if taken then decrement m else { m with pending := m.pending + 1 }

/-- What can happen. -/
inductive Input where
  /-- `S2_send_data`, or a follow-up, with data that can be sent, to a node whose SPAN is or is not
  in order. -/
  | sendMsg (spanOk verifyDelivery taken : Bool)
  /-- `S2_send_data_multicast`. -/
  | sendMulticast (verifyDelivery taken : Bool)
  /-- `S2_send_frame_done_notify`. -/
  | sendDone (ok : Bool)
  /-- A nonce report, with what `S2_register_nonce` returns for it. -/
  | gotNonceRaport (fromPeer : Bool) (verifyDelivery : Bool) (flags : UInt8) (taken : Bool)
  /-- A message that was decrypted. -/
  | gotEncMsg (fromPeer isNodeMos taken : Bool)
  /-- A follow-up for a group that is out of sync was decrypted. -/
  | gotEncMsgMos (verifyDelivery : Bool)
  /-- `S2_timeout_notify`. -/
  | timeout
  /-- The callbacks return to the innermost `S2_encrypt_and_send` on the stack. -/
  | ret
deriving DecidableEq, Repr

/-- The states `IDLE` and `IS_MOS_WAIT_REPLY` of `S2_fsm_post_event`. -/
def fsmIdle (input : Input) (m : Machine) : Machine :=
  match input with
  | .sendMsg spanOk verifyDelivery taken =>
    let m := { m with verifyDelivery := verifyDelivery, retry := 2, encrypts := 0 :: m.encrypts }
    if spanOk then sendMsgStateEnter taken m else sendRaw taken { m with fsm := .waitNonceRaport }
  | .sendMulticast verifyDelivery taken =>
    sendRaw taken { m with verifyDelivery := verifyDelivery, fsm := .sendingMsg }
  | .gotNonceRaport _ verifyDelivery _ _ => { m with verifyDelivery := verifyDelivery }
  | .gotEncMsgMos verifyDelivery =>
    { m with verifyDelivery := verifyDelivery, fsm := .isMosWaitReply }
  | .timeout => if m.fsm = .isMosWaitReply then { m with fsm := .idle } else m
  | .sendDone ok => fsmSendDone ok m
  | .gotEncMsg _ _ _ | .ret => m

/-- The state `WAIT_NONCE_RAPORT` of `S2_fsm_post_event`. -/
def fsmWaitNonceRaport (input : Input) (m : Machine) : Machine :=
  match input with
  | .sendDone ok => fsmSendDone ok m
  | .timeout => endTransmission m
  | .gotNonceRaport fromPeer _ flags taken =>
    if fromPeer ∧ flags &&& sosBitMask ≠ 0 then sendMsgStateEnter taken m else m
  | _ => m

/-- The state `VERIFYING_DELIVERY` of `S2_fsm_post_event`. -/
def fsmVerifyingDelivery (input : Input) (m : Machine) : Machine :=
  match input with
  | .sendDone ok => fsmSendDone ok m
  | .gotEncMsg fromPeer isNodeMos taken =>
    if fromPeer then
      if isNodeMos ∧ 0 < m.retry then sendMsgStateEnter taken { m with verifyDelivery := false }
      else endTransmission m
    else m
  | .timeout => endTransmission m
  | .gotNonceRaport fromPeer _ flags taken =>
    if fromPeer ∧ flags ≠ 0 then
      if m.retry = 0 then endTransmission m else sendMsgStateEnter taken m
    else m
  | _ => m

/-- `S2_fsm_post_event`. The data functions refuse while the machine is busy. -/
def fsmPostEvent (input : Input) (m : Machine) : Machine :=
  match m.fsm with
  | .idle | .isMosWaitReply => fsmIdle input m
  | .waitNonceRaport => fsmWaitNonceRaport input m
  | .sendingMsg =>
    match input with
    | .sendDone ok => fsmSendDone ok m
    | _ => m
  | .verifyingDelivery => fsmVerifyingDelivery input m
  | .sendingMulticast => m

/-- One input. -/
def step (m : Machine) : Input → Machine
  | .ret => if m.pending = 0 then m else decrement { m with pending := m.pending - 1 }
  | input => fsmPostEvent input m

/-! ### The promises -/

/-- The counter has not wrapped, and no singlecast was encrypted more than twice. -/
structure Sound (m : Machine) : Prop where
  not_wrapped : m.wrapped = false
  at_most_twice : ∀ calls ∈ m.encrypts, calls ≤ 2

/-- All callbacks return. -/
def unwind (m : Machine) : Machine := run step m (List.replicate m.pending .ret)

/-- The counter with which `S2_encrypt_and_send` is called for an input, if it is. -/
def encryptsWith (m : Machine) : Input → Option UInt8
  | .sendMsg spanOk _ _ =>
    if (m.fsm = .idle ∨ m.fsm = .isMosWaitReply) ∧ spanOk then some 2 else none
  | .gotNonceRaport fromPeer _ flags _ =>
    if m.fsm = .waitNonceRaport ∧ fromPeer ∧ flags &&& sosBitMask ≠ 0 ∨
        m.fsm = .verifyingDelivery ∧ fromPeer ∧ flags ≠ 0 ∧ m.retry ≠ 0 then some m.retry
    else none
  | .gotEncMsg fromPeer isNodeMos _ =>
    if m.fsm = .verifyingDelivery ∧ fromPeer ∧ isNodeMos ∧ 0 < m.retry then some m.retry else none
  | _ => none

/-- The condition on a step: when `S2_encrypt_and_send` is called, the counter is larger than the
number of its calls on the stack. -/
def Allowed (m : Machine) (input : Input) : Prop :=
  ∀ retry, encryptsWith m input = some retry → m.pending < retry.toNat

/-! ### The callbacks return -/

theorem toNat_pred {retry : UInt8} (hretry : retry ≠ 0) : (retry - 1).toNat = retry.toNat - 1 := by
  have hpos : 0 < retry.toNat := Nat.pos_of_ne_zero fun hzero ↦ hretry (UInt8.toNat_inj.mp hzero)
  exact UInt8.toNat_sub_of_le retry 1 (UInt8.le_iff_toNat_le.mpr hpos)

theorem sound_decrement_iff (m : Machine) : Sound (decrement m) ↔ Sound m ∧ m.retry ≠ 0 := by
  constructor
  · rintro ⟨hwrapped, htwice⟩
    obtain ⟨hbefore, hretry⟩ := Bool.or_eq_false_iff.mp hwrapped
    exact ⟨⟨hbefore, htwice⟩, ne_of_beq_false hretry⟩
  · rintro ⟨hsound, hretry⟩
    exact ⟨Bool.or_eq_false_iff.mpr ⟨hsound.not_wrapped, beq_false_of_ne hretry⟩,
      hsound.at_most_twice⟩

/-- The callbacks can return when the counter is as large as their number. -/
theorem sound_unwind_iff (m : Machine) :
    Sound (unwind m) ↔ Sound m ∧ m.pending ≤ m.retry.toNat := by
  unfold unwind
  generalize hpending : m.pending = pending
  induction pending generalizing m with
  | zero => exact ⟨fun h ↦ ⟨h, Nat.zero_le _⟩, fun h ↦ h.1⟩
  | succ pending ih =>
    have hret : step m .ret = decrement { m with pending := pending } := by
      unfold step
      dsimp only
      rw [if_neg (by omega), hpending]
      rfl
    rw [replicate_succ, run_cons, hret, ih (decrement { m with pending := pending }) rfl,
      sound_decrement_iff]
    have hsame : Sound { m with pending := pending } ↔ Sound m :=
      ⟨fun h ↦ ⟨h.not_wrapped, h.at_most_twice⟩, fun h ↦ ⟨h.not_wrapped, h.at_most_twice⟩⟩
    rw [hsame]
    change (Sound m ∧ m.retry ≠ 0) ∧ pending ≤ (m.retry - 1).toNat ↔ Sound m ∧
      pending + 1 ≤ m.retry.toNat
    constructor
    · rintro ⟨⟨hsound, hretry⟩, hle⟩
      rw [toNat_pred hretry] at hle
      have hpos : m.retry.toNat ≠ 0 := fun hzero ↦ hretry (UInt8.toNat_inj.mp hzero)
      exact ⟨hsound, by omega⟩
    · rintro ⟨hsound, hle⟩
      have hretry : m.retry ≠ 0 := by
        rintro hzero
        rw [hzero] at hle
        exact absurd hle (Nat.not_succ_le_zero pending)
      rw [toNat_pred hretry]
      exact ⟨⟨hsound, hretry⟩, by omega⟩

/-! ### The invariant -/

/-- The machine waits, and may encrypt the singlecast again. -/
def Machine.Waits (m : Machine) : Prop := m.fsm = .waitNonceRaport ∨ m.fsm = .verifyingDelivery

/-- The callbacks can return, and the counter bounds the calls that are left for the last
singlecast. -/
structure Inv (m : Machine) : Prop where
  sound : Sound m
  unwinds : m.pending ≤ m.retry.toNat
  at_most_two : m.retry.toNat ≤ 2
  budget : m.Waits → m.encrypts.headD 0 + m.retry.toNat ≤ 2

section Encrypt

variable {m : Machine}

theorem sendMsgStateEnter_taken : sendMsgStateEnter true m = decrement { m with
    fsm := if m.verifyDelivery then .verifyingDelivery else .sendingMsg
    encrypts := countEncrypt m.encrypts } :=
  rfl

theorem sendMsgStateEnter_refused : sendMsgStateEnter false m = { m with
    fsm := .idle
    encrypts := countEncrypt m.encrypts
    pending := m.pending + 1 } := by
  unfold sendMsgStateEnter encryptAndSend sendRaw
  cases m.verifyDelivery <;> rfl

theorem le_of_mem_countEncrypt {encrypts : List ℕ} (htwice : ∀ calls ∈ encrypts, calls ≤ 2)
    (hfirst : encrypts.headD 0 ≤ 1) : ∀ calls ∈ countEncrypt encrypts, calls ≤ 2 := by
  cases encrypts with
  | nil => exact htwice
  | cons last earlier =>
    intro calls hmem
    rcases mem_cons.mp hmem with rfl | hmem
    · exact Nat.succ_le_succ hfirst
    · exact htwice calls (mem_cons_of_mem last hmem)

theorem headD_countEncrypt_le
    (encrypts : List ℕ) : (countEncrypt encrypts).headD 0 ≤ encrypts.headD 0 + 1 := by
  cases encrypts with
  | nil => exact Nat.zero_le _
  | cons last earlier => exact le_rfl

/-- A call of `S2_encrypt_and_send` with a counter that is large enough. -/
theorem inv_sendMsgStateEnter (taken : Bool) (hsound : Sound m) (htwo : m.retry.toNat ≤ 2)
    (hbudget : m.encrypts.headD 0 + m.retry.toNat ≤ 2) (hlarge : m.pending < m.retry.toNat) :
    Inv (sendMsgStateEnter taken m) := by
  have hcounted : Sound { m with encrypts := countEncrypt m.encrypts } :=
    ⟨hsound.not_wrapped, le_of_mem_countEncrypt hsound.at_most_twice (by omega)⟩
  have hretry : m.retry ≠ 0 := by
    intro hzero
    rw [hzero] at hlarge
    exact absurd hlarge (Nat.not_lt_zero _)
  have hpred := toNat_pred hretry
  cases taken with
  | true =>
    rw [sendMsgStateEnter_taken]
    refine ⟨(sound_decrement_iff _).mpr ⟨⟨hcounted.not_wrapped, hcounted.at_most_twice⟩, hretry⟩,
      ?_, ?_, ?_⟩
    · change m.pending ≤ (m.retry - 1).toNat
      omega
    · change (m.retry - 1).toNat ≤ 2
      omega
    · intro _
      change (countEncrypt m.encrypts).headD 0 + (m.retry - 1).toNat ≤ 2
      have hhead := headD_countEncrypt_le m.encrypts
      omega
  | false =>
    rw [sendMsgStateEnter_refused]
    refine ⟨⟨hcounted.not_wrapped, hcounted.at_most_twice⟩, hlarge, htwo, ?_⟩
    rintro (hwaits | hwaits) <;> cases hwaits

/-- A call with a counter that is not larger than the number of calls on the stack. -/
theorem not_sound_unwind_sendMsgStateEnter (taken : Bool) (hsmall : m.retry.toNat ≤ m.pending) :
    ¬ Sound (unwind (sendMsgStateEnter taken m)) := by
  rw [sound_unwind_iff]
  rintro ⟨hsound, hle⟩
  cases taken with
  | true =>
    rw [sendMsgStateEnter_taken] at hsound hle
    have hretry : m.retry ≠ 0 := ((sound_decrement_iff _).mp hsound).2
    have hpos : m.retry.toNat ≠ 0 := fun hzero ↦ hretry (UInt8.toNat_inj.mp hzero)
    change m.pending ≤ (m.retry - 1).toNat at hle
    rw [toNat_pred hretry] at hle
    omega
  | false =>
    rw [sendMsgStateEnter_refused] at hle
    change m.pending + 1 ≤ m.retry.toNat at hle
    omega

end Encrypt

/-! ### One step -/

section Steps

variable {m : Machine} {input : Input}

/-- Where a step calls `S2_encrypt_and_send`. -/
theorem step_of_encryptsWith {retry : UInt8} (hencrypts : encryptsWith m input = some retry) :
    ∃ taken before, step m input = sendMsgStateEnter taken before ∧ before.retry = retry ∧
      before.pending = m.pending ∧ before.wrapped = m.wrapped ∧
      (before.encrypts = m.encrypts ∧ before.retry = m.retry ∧ m.Waits ∨
        before.encrypts = 0 :: m.encrypts ∧ retry = 2) := by
  cases input with
  | sendMsg spanOk verifyDelivery taken =>
    unfold encryptsWith at hencrypts
    dsimp only at hencrypts
    split_ifs at hencrypts with hsend
    obtain ⟨hidle, rfl⟩ := hsend
    have htwo : retry = 2 := (Option.some.inj hencrypts).symm
    refine ⟨taken,
      { m with verifyDelivery := verifyDelivery, retry := 2, encrypts := 0 :: m.encrypts }, ?_,
      htwo.symm, rfl, rfl, .inr ⟨rfl, htwo⟩⟩
    change fsmPostEvent _ m = _
    unfold fsmPostEvent
    rcases hidle with hidle | hidle <;> rw [hidle] <;> rfl
  | gotNonceRaport fromPeer verifyDelivery flags taken =>
    unfold encryptsWith at hencrypts
    dsimp only at hencrypts
    split_ifs at hencrypts with hsend
    have hretry : m.retry = retry := Option.some.inj hencrypts
    rcases hsend with ⟨hwait, hpeer, hflags⟩ | ⟨hverify, hpeer, hflags, hleft⟩
    · refine ⟨taken, m, ?_, hretry, rfl, rfl, .inl ⟨rfl, rfl, .inl hwait⟩⟩
      change fsmPostEvent _ m = _
      unfold fsmPostEvent
      rw [hwait]
      exact if_pos ⟨hpeer, hflags⟩
    · refine ⟨taken, m, ?_, hretry, rfl, rfl, .inl ⟨rfl, rfl, .inr hverify⟩⟩
      change fsmPostEvent _ m = _
      unfold fsmPostEvent
      rw [hverify]
      exact (if_pos ⟨hpeer, hflags⟩).trans (if_neg hleft)
  | gotEncMsg fromPeer isNodeMos taken =>
    unfold encryptsWith at hencrypts
    dsimp only at hencrypts
    split_ifs at hencrypts with hsend
    obtain ⟨hverify, hpeer, hmos, hleft⟩ := hsend
    refine ⟨taken, { m with verifyDelivery := false }, ?_, Option.some.inj hencrypts, rfl, rfl,
      .inl ⟨rfl, rfl, .inr hverify⟩⟩
    change fsmPostEvent _ m = _
    unfold fsmPostEvent
    rw [hverify]
    exact (if_pos hpeer).trans (if_pos ⟨hmos, hleft⟩)
  | sendMulticast | sendDone | gotEncMsgMos | timeout | ret =>
    exact absurd hencrypts.symm (Option.some_ne_none retry)

theorem inv_step_of_some {retry : UInt8} (hinv : Inv m)
    (hencrypts : encryptsWith m input = some retry)
    (hlarge : m.pending < retry.toNat) : Inv (step m input) := by
  obtain ⟨taken, before, hstep, rfl, hpending, hwrapped, hcase⟩ := step_of_encryptsWith hencrypts
  rw [hstep]
  rw [← hpending] at hlarge
  rcases hcase with ⟨hsame, hretry, hwaits⟩ | ⟨hnew, htwo⟩
  · have hbudget := hinv.budget hwaits
    rw [← hsame, ← hretry] at hbudget
    refine inv_sendMsgStateEnter taken ⟨hwrapped.trans hinv.sound.not_wrapped, ?_⟩ ?_ hbudget hlarge
    · rw [hsame]
      exact hinv.sound.at_most_twice
    · rw [hretry]
      exact hinv.at_most_two
  · refine inv_sendMsgStateEnter taken ⟨hwrapped.trans hinv.sound.not_wrapped, ?_⟩ ?_ ?_ hlarge
    · rw [hnew]
      exact forall_mem_cons.mpr ⟨Nat.zero_le 2, hinv.sound.at_most_twice⟩
    · rw [htwo]
      exact le_rfl
    · rw [hnew, htwo]
      exact le_rfl

/-- The machine is idle, or stays where it was, and nothing else changes but the options of the
peer. -/
structure Rests (m after : Machine) : Prop where
  retry : after.retry = m.retry
  pending : after.pending = m.pending
  wrapped : after.wrapped = m.wrapped
  encrypts : after.encrypts = m.encrypts
  waits : after.Waits → m.Waits

theorem Rests.inv {after : Machine} (h : Rests m after) (hinv : Inv m) : Inv after where
  sound := by
    refine ⟨h.wrapped.trans hinv.sound.not_wrapped, ?_⟩
    rw [h.encrypts]
    exact hinv.sound.at_most_twice
  unwinds := by
    rw [h.pending, h.retry]
    exact hinv.unwinds
  at_most_two := by
    rw [h.retry]
    exact hinv.at_most_two
  budget := by
    intro hwaits
    rw [h.encrypts, h.retry]
    exact hinv.budget (h.waits hwaits)

theorem rests_self : Rests m m := ⟨rfl, rfl, rfl, rfl, id⟩

theorem not_waits_of_idle {after : Machine} (hidle : after.fsm = .idle) : ¬ after.Waits := by
  rintro (hwaits | hwaits) <;> exact absurd (hidle.symm.trans hwaits) (by decide)

theorem rests_endTransmission : Rests m (endTransmission m) :=
  ⟨rfl, rfl, rfl, rfl, fun hwaits ↦ absurd hwaits (not_waits_of_idle rfl)⟩

theorem rests_fsmSendDone (ok : Bool) : Rests m (fsmSendDone ok m) := by
  unfold fsmSendDone
  split
  · exact rests_self
  · exact rests_self
  · exact rests_self
  · split_ifs
    · exact rests_self
    · exact rests_endTransmission
  · split_ifs
    · exact rests_self
    · exact rests_endTransmission
  · exact rests_endTransmission

theorem rests_sendRaw (taken : Bool) : Rests m (sendRaw taken m) := by
  unfold sendRaw
  split_ifs
  · exact rests_self
  · exact rests_fsmSendDone false

theorem Rests.trans {middle after : Machine} (hfirst : Rests m middle)
    (hsecond : Rests middle after) : Rests m after where
  retry := hsecond.retry.trans hfirst.retry
  pending := hsecond.pending.trans hfirst.pending
  wrapped := hsecond.wrapped.trans hfirst.wrapped
  encrypts := hsecond.encrypts.trans hfirst.encrypts
  waits := fun hwaits ↦ hfirst.waits (hsecond.waits hwaits)

/-- A singlecast that has to wait for a nonce starts with the counter at 2 and no call. -/
theorem inv_waitNonceRaport (hinv : Inv m) (verifyDelivery : Bool) : Inv { m with
    verifyDelivery := verifyDelivery
    retry := 2
    encrypts := 0 :: m.encrypts
    fsm := .waitNonceRaport } where
  sound := ⟨hinv.sound.not_wrapped, forall_mem_cons.mpr ⟨Nat.zero_le 2, hinv.sound.at_most_twice⟩⟩
  unwinds := hinv.unwinds.trans hinv.at_most_two
  at_most_two := le_rfl
  budget := fun _ ↦ le_rfl

theorem inv_fsmIdle_of_none (hinv : Inv m) (hidle : m.fsm = .idle ∨ m.fsm = .isMosWaitReply)
    (hencrypts : encryptsWith m input = none) : Inv (fsmIdle input m) := by
  have hnot : ¬ m.Waits := by
    rintro (hwaits | hwaits) <;> rcases hidle with hidle | hidle <;>
      exact absurd (hidle.symm.trans hwaits) (by decide)
  cases input with
  | sendMsg spanOk verifyDelivery taken =>
    unfold encryptsWith at hencrypts
    dsimp only at hencrypts
    split_ifs at hencrypts with hsend
    have hwait : spanOk = false := Bool.eq_false_iff.mpr fun hok ↦ hsend ⟨hidle, hok⟩
    subst hwait
    exact (rests_sendRaw taken).inv (inv_waitNonceRaport hinv verifyDelivery)
  | sendMulticast verifyDelivery taken =>
    have hstart : Rests m { m with verifyDelivery := verifyDelivery, fsm := .sendingMsg } :=
      ⟨rfl, rfl, rfl, rfl, fun hwaits ↦ by rcases hwaits with hwaits | hwaits <;> cases hwaits⟩
    exact (hstart.trans (rests_sendRaw taken)).inv hinv
  | sendDone ok => exact (rests_fsmSendDone ok).inv hinv
  | gotNonceRaport fromPeer verifyDelivery flags taken =>
    have hpeer : Rests m { m with verifyDelivery := verifyDelivery } := ⟨rfl, rfl, rfl, rfl, id⟩
    exact hpeer.inv hinv
  | gotEncMsg fromPeer isNodeMos taken => exact hinv
  | gotEncMsgMos verifyDelivery =>
    have hmos : Rests m { m with verifyDelivery := verifyDelivery, fsm := .isMosWaitReply } :=
      ⟨rfl, rfl, rfl, rfl, fun hwaits ↦ by rcases hwaits with hwaits | hwaits <;> cases hwaits⟩
    exact hmos.inv hinv
  | timeout =>
    unfold fsmIdle
    dsimp only
    split_ifs
    · exact rests_endTransmission.inv hinv
    · exact hinv
  | ret => exact hinv

theorem rests_fsmWaitNonceRaport_of_none (hwait : m.fsm = .waitNonceRaport)
    (hencrypts : encryptsWith m input = none) : Rests m (fsmWaitNonceRaport input m) := by
  cases input with
  | sendDone ok => exact rests_fsmSendDone ok
  | timeout => exact rests_endTransmission
  | gotNonceRaport fromPeer verifyDelivery flags taken =>
    unfold encryptsWith at hencrypts
    dsimp only at hencrypts
    split_ifs at hencrypts with hsend
    unfold fsmWaitNonceRaport
    dsimp only
    rw [if_neg fun hpeer ↦ hsend (.inl ⟨hwait, hpeer⟩)]
    exact rests_self
  | sendMsg | sendMulticast | gotEncMsg | gotEncMsgMos | ret => exact rests_self

theorem rests_fsmVerifyingDelivery_of_none (hverify : m.fsm = .verifyingDelivery)
    (hencrypts : encryptsWith m input = none) : Rests m (fsmVerifyingDelivery input m) := by
  cases input with
  | sendDone ok => exact rests_fsmSendDone ok
  | timeout => exact rests_endTransmission
  | gotNonceRaport fromPeer verifyDelivery flags taken =>
    unfold encryptsWith at hencrypts
    dsimp only at hencrypts
    split_ifs at hencrypts with hsend
    unfold fsmVerifyingDelivery
    dsimp only
    split_ifs with hpeer hretry
    · exact rests_endTransmission
    · exact absurd (.inr ⟨hverify, hpeer.1, hpeer.2, hretry⟩) hsend
    · exact rests_self
  | gotEncMsg fromPeer isNodeMos taken =>
    unfold encryptsWith at hencrypts
    dsimp only at hencrypts
    split_ifs at hencrypts with hsend
    unfold fsmVerifyingDelivery
    dsimp only
    split_ifs with hpeer hmos
    · exact absurd ⟨hverify, hpeer, hmos⟩ hsend
    · exact rests_endTransmission
    · exact rests_self
  | sendMsg | sendMulticast | gotEncMsgMos | ret => exact rests_self

theorem inv_fsmPostEvent_of_none (hinv : Inv m) (hencrypts : encryptsWith m input = none) :
    Inv (fsmPostEvent input m) := by
  unfold fsmPostEvent
  split
  · rename_i hidle
    exact inv_fsmIdle_of_none hinv (.inl hidle) hencrypts
  · rename_i hidle
    exact inv_fsmIdle_of_none hinv (.inr hidle) hencrypts
  · rename_i hwait
    exact (rests_fsmWaitNonceRaport_of_none hwait hencrypts).inv hinv
  · split
    · exact (rests_fsmSendDone _).inv hinv
    · exact hinv
  · rename_i hverify
    exact (rests_fsmVerifyingDelivery_of_none hverify hencrypts).inv hinv
  · exact hinv

/-- The callbacks return to a call of `S2_encrypt_and_send`. -/
theorem inv_ret (hinv : Inv m) : Inv (step m .ret) := by
  unfold step
  dsimp only
  split_ifs with hnone
  · exact hinv
  · have hle := hinv.unwinds
    have hretry : m.retry ≠ 0 := by
      intro hzero
      rw [hzero] at hle
      exact hnone (Nat.le_zero.mp hle)
    have hpred := toNat_pred hretry
    have htwo := hinv.at_most_two
    refine ⟨(sound_decrement_iff _).mpr
      ⟨⟨hinv.sound.not_wrapped, hinv.sound.at_most_twice⟩, hretry⟩, ?_, ?_, ?_⟩
    · change m.pending - 1 ≤ (m.retry - 1).toNat
      omega
    · change (m.retry - 1).toNat ≤ 2
      omega
    · intro hwaits
      have hbudget := hinv.budget hwaits
      change m.encrypts.headD 0 + (m.retry - 1).toNat ≤ 2
      omega

theorem inv_step (hallowed : Allowed m input) (hinv : Inv m) : Inv (step m input) := by
  cases hencrypts : encryptsWith m input with
  | some retry => exact inv_step_of_some hinv hencrypts (hallowed retry hencrypts)
  | none =>
    cases input with
    | ret => exact inv_ret hinv
    | sendMsg | sendMulticast | sendDone | gotNonceRaport | gotEncMsg | gotEncMsgMos | timeout =>
      exact inv_fsmPostEvent_of_none hinv hencrypts

theorem allowed_of_sound_unwind (hsound : Sound (unwind (step m input))) : Allowed m input := by
  intro retry hencrypts
  by_contra hsmall
  obtain ⟨taken, before, hstep, rfl, hpending, -, -⟩ := step_of_encryptsWith hencrypts
  rw [hstep] at hsound
  refine not_sound_unwind_sendMsgStateEnter taken ?_ hsound
  rw [hpending]
  exact Nat.le_of_not_lt hsmall

end Steps

/-! ### Runs -/

theorem inv_init : Inv .init where
  sound := ⟨rfl, fun _ hmem ↦ absurd hmem not_mem_nil⟩
  unwinds := le_rfl
  at_most_two := Nat.zero_le 2
  budget := fun hwaits ↦ absurd hwaits (not_waits_of_idle rfl)

/-- On the whole way of a run, and when the callbacks return from there, the counter does not wrap
and no singlecast is encrypted more than twice, exactly when every call of `S2_encrypt_and_send`
finds the counter larger than the number of its calls on the stack. -/
theorem retry_bounded_iff (inputs : List Input) :
    (∀ way, way <+: inputs → Sound (unwind (run step .init way))) ↔
      AllSteps step Allowed .init inputs := by
  have hkeep : ∀ m input, Allowed m input → Inv m → Inv (step m input) := fun _ _ ↦ inv_step
  exact forall_prefix_run_iff_allSteps_of_invariant hkeep
    (fun m hinv ↦ (sound_unwind_iff m).mpr ⟨hinv.sound, hinv.unwinds⟩)
    (fun _ _ _ ↦ allowed_of_sound_unwind) inv_init inputs

/-- Three singlecasts, each from the callback of the one before, whose frames are not taken. -/
def threeRefused : List Input :=
  [.sendMsg true true false, .sendMsg true true false, .sendMsg true true false, .ret, .ret, .ret]

/-- When the third one has returned, the counter wraps. -/
theorem three_refused_wrap : ¬ ∀ inputs : List Input, Sound (run step .init inputs) := by
  intro hall
  have hwrapped : (run step .init threeRefused).wrapped = true := by decide
  exact absurd (hwrapped.symm.trans (hall threeRefused).not_wrapped) (by decide)

end ZipGateway.SecurityS2.Retry
