import ZipGateway.SecurityS2.Plaintext
import ZipGateway.SecurityS2.Retry

/-!
# The retry counter of the module

The machine of `ZipGateway.SecurityS2.Retry` follows the module: for every run of the module, with
callbacks that may call it again to any depth, the machine has inputs that lead to the same state
and the same counter, with as many calls of `S2_encrypt_and_send` as there are encapsulations in
the log (`module_followed`). When a frame is not taken, what the callbacks do are the inputs before
the `ret` that belongs to it.
-/

set_option autoImplicit false

namespace ZipGateway.SecurityS2.Retry

open Lib List

/-! ### The relation -/

def isEncapsulation : Act → Bool
  | .sentFrame _ _ (some _) => true
  | _ => false

/-- The flag `S2_TXOPTION_VERIFY_DELIVERY` of a connection. -/
def verifies (con : Connection) : Bool := decide (con.txOptions &&& txVerifyDelivery ≠ 0)

/-- The machine stands where the module stands, and has counted the encapsulations. -/
structure Abstracts (s : S2) (m : Machine) : Prop where
  fsm : m.fsm = s.fsm
  retry : m.retry = s.retry
  verifyDelivery : m.verifyDelivery = verifies s.peer
  encrypts : m.encrypts.sum = s.log.countP isEncapsulation
  waits : m.Waits → m.encrypts ≠ []

/-- The machine has inputs that lead it from the first context to the second one, with the same
calls on its stack. -/
def Follows (s t : S2) : Prop :=
  ∀ m, Abstracts s m → ∃ inputs, Abstracts t (run step m inputs) ∧
    (run step m inputs).pending = m.pending

section Relation

variable {s t u : S2} {m : Machine}

theorem Follows.refl (s : S2) : Follows s s := fun _ habs ↦ ⟨[], habs, rfl⟩

theorem Follows.trans (hfirst : Follows s t) (hsecond : Follows t u) : Follows s u := by
  intro m habs
  obtain ⟨inputs, hmiddle, hpending⟩ := hfirst m habs
  obtain ⟨inputs', hlast, hpending'⟩ := hsecond _ hmiddle
  refine ⟨inputs ++ inputs', ?_, ?_⟩
  · rwa [run_append]
  · rw [run_append, hpending', hpending]

theorem follows_of_same (hfsm : t.fsm = s.fsm) (hretry : t.retry = s.retry)
    (hpeer : t.peer = s.peer) (hcount : t.log.countP isEncapsulation =
      s.log.countP isEncapsulation) : Follows s t := by
  refine fun m habs ↦ ⟨[], ⟨habs.fsm.trans hfsm.symm, habs.retry.trans hretry.symm, ?_,
    habs.encrypts.trans hcount.symm, habs.waits⟩, rfl⟩
  rw [hpeer]
  exact habs.verifyDelivery

theorem follows_of_keeps (hkeeps : Keeps s t) : Follows s t :=
  follows_of_same hkeeps.fsm hkeeps.retry hkeeps.peer (by rw [hkeeps.log])

theorem follows_of_step (hstep : ∀ m, Abstracts s m → ∃ input, Abstracts t (step m input) ∧
    (step m input).pending = m.pending) : Follows s t := by
  intro m habs
  obtain ⟨input, habs', hpending⟩ := hstep m habs
  exact ⟨[input], habs', hpending⟩

theorem step_idle {input : Input} (hinput : input ≠ .ret)
    (hidle : m.fsm = .idle ∨ m.fsm = .isMosWaitReply) : step m input = fsmIdle input m := by
  have hpost : step m input = fsmPostEvent input m := by
    cases input <;> first | rfl | exact absurd rfl hinput
  rw [hpost]
  unfold fsmPostEvent
  rcases hidle with hidle | hidle <;> rw [hidle]

/-- An input of an idle machine. -/
theorem follows_of_idles (hidle : s.Idles) (input : Input)
    (hinput : input ≠ .ret) (hstep : ∀ m, Abstracts s m → Abstracts t (fsmIdle input m) ∧
      (fsmIdle input m).pending = m.pending) : Follows s t := by
  refine follows_of_step fun m habs ↦ ⟨input, ?_⟩
  rw [step_idle hinput (habs.fsm ▸ hidle)]
  exact hstep m habs

theorem follows_change {aes : BlockCipher} (hchange : Change aes s t) : Follows s t := by
  cases hchange with
  | quiet hquiet => exact follows_of_same hquiet.fsm hquiet.retry hquiet.peer (by rw [hquiet.log])
  | allocate | span | localNonce => exact follows_of_same rfl rfl rfl rfl
  | note act hnote _ =>
    refine follows_of_same rfl rfl rfl (countP_cons_of_neg ?_)
    cases act <;> first | exact Bool.false_ne_true | cases hnote
  | mosWait con hidle =>
    refine follows_of_idles hidle (.gotEncMsgMos (verifies con)) nofun fun m habs ↦
      ⟨⟨rfl, habs.retry, rfl, habs.encrypts, ?_⟩, rfl⟩
    rintro (hwaits | hwaits) <;> cases hwaits

/-- A transmission ends. -/
theorem follows_idle (htransmits : s.Transmits) : Follows s { s with fsm := .idle } := by
  refine follows_of_step fun m habs ↦ ⟨.sendDone false, ?_⟩
  have hstep : step m (.sendDone false) = endTransmission m := by
    change fsmPostEvent _ m = _
    unfold fsmPostEvent
    unfold S2.Transmits at htransmits
    rw [← habs.fsm] at htransmits
    rcases htransmits with hfsm | hfsm | hfsm <;>
      simp [hfsm, fsmWaitNonceRaport, fsmVerifyingDelivery, fsmSendDone]
  rw [hstep]
  exact ⟨⟨rfl, habs.retry, habs.verifyDelivery, habs.encrypts,
    fun hwaits ↦ absurd hwaits (not_waits_of_idle rfl)⟩, rfl⟩

end Relation

/-! ### Transmissions -/

section Transmit

variable {env : Env} {s : S2} {frame : List UInt8} {encryption : Option Encryption}

theorem sendRaw_taken (htaken : env.sendFrame s s.peer frame = true) :
    Keeps (s.logged (.sentFrame s.peer frame encryption))
      (SecurityS2.sendRaw env frame encryption s) := by
  have hfound := findSpanByNode_keeps env (s.logged (.sentFrame s.peer frame encryption)) s.peer
  unfold SecurityS2.sendRaw
  dsimp only
  rw [if_pos htaken]
  exact ⟨hfound.peer, hfound.buf, hfound.sg, hfound.fsm, hfound.retry, hfound.log⟩

theorem sendRaw_refused (hrefused : env.sendFrame s s.peer frame = false) :
    SecurityS2.sendRaw env frame encryption s =
      SecurityS2.fsmSendDone env transmitCompleteFail 0
        (s.logged (.sentFrame s.peer frame encryption)) := by
  unfold SecurityS2.sendRaw
  rw [hrefused]
  rfl

variable (hhook : ∀ s hook, Follows s (env.hook s hook))
include hhook

theorem follows_postSendDoneEvent (status : UInt8) :
    Follows s (postSendDoneEvent env status s) := by
  have hreported := hhook s
    (.inclusionSendDone (status == transmitCompleteOk || status == transmitCompleteVerified))
  refine hreported.trans (Follows.trans ?_ (hhook _ (.sendDoneEvent status)))
  exact follows_of_same rfl rfl rfl rfl

theorem changeClosed_followed (start : S2) : ChangeClosed env (Follows start) where
  hook s hook hs := hs.trans (hhook s hook)
  setTimeout _ _ hs := hs.trans (follows_of_same rfl rfl rfl rfl)
  ended _ status htransmits hs :=
    hs.trans ((follows_idle htransmits).trans (follows_postSendDoneEvent hhook status))
  change hchange hs := hs.trans (follows_change hchange)
  nonceGet _ _ hs := hs.trans (follows_of_same rfl rfl rfl rfl)

/-- `send_msg_state_enter` in its new state: when the frame is not taken, the counter is
decremented after the callbacks have returned. -/
theorem encryptAndSend_followed {m : Machine} (habs : Abstracts s m) (hcalls : m.encrypts ≠ [])
    {entered : S2} (hfsm : entered.fsm = if m.verifyDelivery then .verifyingDelivery
      else .sendingMsg) (hretry : entered.retry = s.retry) (hpeer : entered.peer = s.peer)
    (hcount : entered.log.countP isEncapsulation = s.log.countP isEncapsulation) :
    ∃ taken inputs, Abstracts (SecurityS2.encryptAndSend env entered).decremented
        (run step (sendMsgStateEnter taken m) inputs) ∧
      (run step (sendMsgStateEnter taken m) inputs).pending = m.pending := by
  obtain ⟨calls, earlier, hcons⟩ := exists_cons_of_ne_nil hcalls
  have hkeeps := encapsulate_keeps env entered
  unfold SecurityS2.encryptAndSend
  generalize SecurityS2.encryption env entered = encryption
  generalize encapsulate env entered = built at hkeeps ⊢
  obtain ⟨t, frame⟩ := built
  dsimp only at hkeeps ⊢
  have hmore : countEncrypt m.encrypts ≠ [] := by
    rw [hcons]
    exact cons_ne_nil _ _
  have hcounted : (countEncrypt m.encrypts).sum =
      (t.logged (.sentFrame t.peer frame (some encryption))).log.countP isEncapsulation := by
    have hsum := habs.encrypts
    rw [hcons, sum_cons] at hsum
    rw [S2.logged, countP_cons_of_pos rfl, hkeeps.log, hcount, ← hsum, hcons, countEncrypt,
      sum_cons]
    omega
  have hverify : m.verifyDelivery = verifies t.peer := by
    rw [hkeeps.peer, hpeer, habs.verifyDelivery]
  have hsame : m.retry = t.retry := by rw [hkeeps.retry, hretry, habs.retry]
  cases htaken : env.sendFrame t t.peer frame with
  | true =>
    have hsent : Keeps (t.logged (.sentFrame t.peer frame (some encryption)))
        (SecurityS2.sendRaw env frame (some encryption) t) := sendRaw_taken htaken
    generalize SecurityS2.sendRaw env frame (some encryption) t = sent at hsent ⊢
    refine ⟨true, [], ?_, rfl⟩
    rw [run_nil, sendMsgStateEnter_taken]
    refine ⟨?_, ?_, ?_, ?_, fun _ ↦ hmore⟩
    · exact (hsent.fsm.trans (hkeeps.fsm.trans hfsm)).symm
    · exact congrArg (· - 1) (hsame.trans hsent.retry.symm)
    · exact hverify.trans (congrArg verifies hsent.peer.symm)
    · exact hcounted.trans (congrArg _ hsent.log.symm)
  | false =>
    have hidle : Abstracts { t.logged (.sentFrame t.peer frame (some encryption)) with
        fsm := .idle } (sendMsgStateEnter false m) := by
      rw [sendMsgStateEnter_refused]
      exact ⟨rfl, hsame, hverify, hcounted, fun _ ↦ hmore⟩
    have hended : SecurityS2.sendRaw env frame (some encryption) t =
        postSendDoneEvent env transmitCompleteFail
          { t.logged (.sentFrame t.peer frame (some encryption)) with fsm := .idle } := by
      have hbusy : t.fsm = .verifyingDelivery ∨ t.fsm = .sendingMsg := by
        rw [hkeeps.fsm, hfsm]
        split_ifs
        · exact .inl rfl
        · exact .inr rfl
      rw [sendRaw_refused htaken]
      unfold SecurityS2.fsmSendDone
      rcases hbusy with hbusy | hbusy
      · rw [show (t.logged _).fsm = .verifyingDelivery from hbusy]
        exact if_neg (by decide)
      · rw [show (t.logged _).fsm = .sendingMsg from hbusy]
        rfl
    obtain ⟨inputs, hreported, hpending⟩ :=
      follows_postSendDoneEvent hhook transmitCompleteFail _ hidle
    rw [hended]
    generalize postSendDoneEvent env transmitCompleteFail _ = ended at hreported ⊢
    have hwaiting : (sendMsgStateEnter false m).pending = m.pending + 1 := by
      rw [sendMsgStateEnter_refused]
    refine ⟨false, inputs ++ [.ret], ?_⟩
    rw [run_append, run_cons, run_nil]
    generalize run step (sendMsgStateEnter false m) inputs = after at hreported hpending ⊢
    have hret : step after .ret = decrement { after with pending := m.pending } := by
      unfold step
      dsimp only
      rw [if_neg (by omega), hpending, hwaiting, Nat.add_sub_cancel]
    rw [hret]
    exact ⟨⟨hreported.fsm, congrArg (· - 1) hreported.retry, hreported.verifyDelivery,
      hreported.encrypts, hreported.waits⟩, rfl⟩

theorem sendMsgStateEnter_followed {m : Machine} (habs : Abstracts s m) (hcalls : m.encrypts ≠ []) :
    ∃ taken inputs,
      Abstracts (SecurityS2.sendMsgStateEnter env s) (run step (sendMsgStateEnter taken m) inputs) ∧
      (run step (sendMsgStateEnter taken m) inputs).pending = m.pending := by
  have hverify := habs.verifyDelivery
  rw [sendMsgStateEnter_eq]
  unfold sendingState
  split_ifs with hflag
  · exact encryptAndSend_followed hhook habs hcalls
      (by simp [hverify, verifies, hflag, setTimeout, S2.logged]) rfl rfl rfl
  · exact encryptAndSend_followed hhook habs hcalls (by simp_all [verifies]) rfl rfl rfl

/-- Where an input of the machine calls `S2_encrypt_and_send`. -/
theorem follows_sendMsgStateEnter {u : S2} (hinput : ∀ m, Abstracts s m → ∃ before,
    Abstracts u before ∧ before.encrypts ≠ [] ∧ before.pending = m.pending ∧
      ∀ taken, ∃ input, step m input = sendMsgStateEnter taken before) :
    Follows s (SecurityS2.sendMsgStateEnter env u) := by
  intro m habs
  obtain ⟨before, hbefore, hcalls, hpending, hsteps⟩ := hinput m habs
  obtain ⟨taken, inputs, hlast, hkept⟩ := sendMsgStateEnter_followed hhook hbefore hcalls
  obtain ⟨input, hstep⟩ := hsteps taken
  refine ⟨input :: inputs, ?_, ?_⟩
  · rw [run_cons, hstep]
    exact hlast
  · rw [run_cons, hstep, hkept, hpending]

/-- The nonce that was waited for has come, or the peer has lost its nonce. -/
theorem follows_sendAgain (hagain : s.SendsAgain) :
    Follows s (SecurityS2.sendMsgStateEnter env s) := by
  refine follows_sendMsgStateEnter hhook fun m habs ↦ ⟨m, habs, habs.waits ?_, rfl, fun taken ↦
    ⟨.gotNonceRaport true false sosBitMask taken, ?_⟩⟩
  · unfold Machine.Waits
    rw [habs.fsm]
    exact hagain.imp_right And.left
  · change fsmPostEvent _ m = _
    unfold fsmPostEvent
    have hagain' : m.fsm = .waitNonceRaport ∨ m.fsm = .verifyingDelivery ∧ m.retry ≠ 0 := by
      rw [habs.fsm, habs.retry]
      exact hagain
    rcases hagain' with hfsm | ⟨hfsm, hretry⟩
    · have hflags : true = true ∧ sosBitMask &&& sosBitMask ≠ 0 := ⟨rfl, by decide⟩
      rw [hfsm]
      exact (if_pos hflags : (if true = true ∧ sosBitMask &&& sosBitMask ≠ 0 then
        sendMsgStateEnter taken m else m) = _)
    · have hflags : true = true ∧ sosBitMask ≠ 0 := ⟨rfl, by decide⟩
      rw [hfsm]
      change (if true = true ∧ sosBitMask ≠ 0 then
        if m.retry = 0 then endTransmission m else sendMsgStateEnter taken m else m) = _
      rw [if_pos hflags, if_neg hretry]

/-- The peer of a group is out of sync. -/
theorem follows_emptyAgain (hfsm : s.fsm = .verifyingDelivery) (hretry : 0 < s.retry) :
    Follows s (SecurityS2.sendMsgStateEnter env { s with
      buf := []
      peer := { s.peer with txOptions := s.peer.txOptions &&& ~~~txVerifyDelivery } }) := by
  refine follows_sendMsgStateEnter hhook fun m habs ↦ ⟨{ m with verifyDelivery := false },
    ⟨habs.fsm, habs.retry, ?_, habs.encrypts, habs.waits⟩, habs.waits ?_, rfl, fun taken ↦
      ⟨.gotEncMsg true true taken, ?_⟩⟩
  · have hcleared : s.peer.txOptions &&& ~~~txVerifyDelivery &&& txVerifyDelivery = 0 := by
      rw [UInt8.and_assoc, show ~~~txVerifyDelivery &&& txVerifyDelivery = 0 by decide,
        UInt8.and_zero]
    exact (decide_eq_false (not_not.mpr hcleared)).symm
  · exact .inr (habs.fsm.trans hfsm)
  · have hmos : true = true ∧ 0 < m.retry := ⟨rfl, habs.retry ▸ hretry⟩
    have hpost : step m (.gotEncMsg true true taken) =
        fsmVerifyingDelivery (.gotEncMsg true true taken) m := by
      change fsmPostEvent _ m = _
      unfold fsmPostEvent
      rw [habs.fsm, hfsm]
    rw [hpost]
    exact (if_pos hmos : (if true = true ∧ 0 < m.retry then
      sendMsgStateEnter taken { m with verifyDelivery := false } else endTransmission m) = _)

/-! ### Calls -/

variable (con : Connection) (buf : List UInt8)

theorem follows_sendMsg (hidle : s.Idles) :
    Follows s (SecurityS2.fsmIdle env (.sendMsg con buf) s) := by
  obtain ⟨t, hspan, hfsm, hstart⟩ := fsmIdle_sendMsg env con buf s
  have hidlet : t.Idles := by
    unfold S2.Idles
    rwa [hfsm]
  have hzero : ∀ m, Abstracts t m → (0 :: m.encrypts).sum = t.log.countP isEncapsulation :=
    fun m habs ↦ (Nat.zero_add _).trans habs.encrypts
  refine ((changeClosed_followed hhook s).changes hspan (.refl s)).trans ?_
  rcases hstart with hstart | hstart
  · rw [hstart]
    refine follows_sendMsgStateEnter hhook fun m habs ↦ ⟨{ m with
      verifyDelivery := verifies con
      retry := 2
      encrypts := 0 :: m.encrypts }, ?_, cons_ne_nil _ _, rfl, fun taken ↦
        ⟨.sendMsg true (verifies con) taken, step_idle nofun (habs.fsm ▸ hidlet)⟩⟩
    exact ⟨habs.fsm, rfl, rfl, hzero m habs, fun _ ↦ cons_ne_nil _ _⟩
  · have hasked := follows_of_idles (t := setPeer con buf { t with
      fsm := .waitNonceRaport
      retry := 2 }) hidlet (.sendMsg false (verifies con) true) nofun fun m habs ↦
        ⟨⟨rfl, rfl, rfl, hzero m habs, fun _ ↦ cons_ne_nil _ _⟩, rfl⟩
    rw [hstart]
    exact ((changeClosed_followed hhook t).sendNonceGet hasked).trans
      (follows_of_same rfl rfl rfl rfl)

theorem follows_sendMulticast (hidle : s.Idles) :
    Follows s (SecurityS2.fsmIdle env (.sendMulticast con buf) s) := by
  obtain ⟨t, i, hmpan, hstart⟩ := fsmIdle_sendMulticast env con buf s
  rw [hstart]
  refine (changeClosed_followed hhook s).encryptAndSendMulti i
    (follows_of_idles hidle (.sendMulticast (verifies con) true) nofun fun m habs ↦ ?_)
  refine ⟨⟨rfl, habs.retry.trans hmpan.retry.symm, (congrArg verifies hmpan.peer).symm, ?_, ?_⟩,
    rfl⟩
  · exact habs.encrypts.trans (congrArg _ hmpan.log).symm
  · rintro (hwaits | hwaits) <;> cases hwaits

theorem follows_sendDataAllCast (buf : Option (List UInt8)) (kind : SendKind) :
    Follows s (sendDataAllCast env con buf kind s).1 := by
  have hrequested : ∀ bytes mpan, Follows s { s.logged (.requested con bytes) with mpan := mpan } :=
    fun bytes mpan ↦ follows_of_same rfl rfl rfl rfl
  have haccepted : ∀ t : S2, Follows t (t.logged .accepted) :=
    fun t ↦ follows_of_same rfl rfl rfl rfl
  rcases sendDataAllCast_cases env con buf kind s with
    hcase | ⟨bytes, mpan, hidle, hcase⟩ | ⟨-, bytes, hidle, hcase⟩
  · rw [hcase]
    exact .refl s
  · rw [hcase]
    refine (hrequested bytes mpan).trans ((follows_sendMsg hhook con bytes ?_).trans (haccepted _))
    exact hidle
  · rw [hcase]
    refine (hrequested bytes s.mpan).trans
      ((follows_sendMulticast hhook con bytes ?_).trans (haccepted _))
    exact hidle

theorem sendClosed_followed (start : S2) : SendClosed env (Follows start) where
  toChangeClosed := changeClosed_followed hhook start
  setPeer _ con _ hidle hs := by
    refine hs.trans (follows_of_idles hidle (.gotNonceRaport false (verifies con) 0 false) nofun ?_)
    exact fun m habs ↦ ⟨⟨habs.fsm, habs.retry, rfl, habs.encrypts, habs.waits⟩, rfl⟩
  mosTimeout _ hmos hs := by
    refine hs.trans (follows_of_idles (.inr hmos) .timeout nofun fun m habs ↦ ?_)
    rw [show fsmIdle .timeout m = { m with fsm := .idle } from if_pos (habs.fsm.trans hmos)]
    exact ⟨⟨rfl, habs.retry, habs.verifyDelivery, habs.encrypts,
      fun hwaits ↦ absurd hwaits (not_waits_of_idle rfl)⟩, rfl⟩
  empty _ _ hs := hs.trans (follows_of_same rfl rfl rfl rfl)
  again _ hagain hs := hs.trans (follows_sendAgain hhook hagain)
  emptyAgain _ hfsm hretry hs := hs.trans (follows_emptyAgain hhook hfsm hretry)
  send _ con buf kind hs := hs.trans (follows_sendDataAllCast hhook con buf kind)
  keys _ _ _ hs := hs.trans (follows_of_same rfl rfl rfl rfl)

theorem follows_enter (s : S2) (call : Call) : Follows s (enter env s call) :=
  (sendClosed_followed hhook s).enter call
    (fun _ _ _ ht ↦ ht.trans (follows_of_same rfl rfl rfl rfl)) (.refl s)

end Transmit

/-! ### Runs -/

theorem follows_hook {allowed : S2 → Call → Prop} {env : Env} (hreacts : env.Reacts allowed)
    (s : S2) (hook : Hook) : Follows s (env.hook s hook) := by
  induction hreacts generalizing s hook with
  | silent env hsilent =>
    rw [hsilent]
    exact .refl s
  | calls env inner _ _ calls _ hhook ih =>
    rw [hhook]
    exact run_invariant (fun t call ht ↦ ht.trans (follows_enter ih t call)) (.refl s) _

/-- For every run from `S2_init_ctx`, with callbacks that may call the module again, the machine has
inputs that lead to the state, the counter and the number of encapsulations of the module, and no
call of `S2_encrypt_and_send` is left on the stack. -/
theorem module_followed (env : Env) (hreacts : env.Reacts fun _ _ ↦ True) (home : UInt32)
    (keystore : Fin 5 → Option Block) (drbg : Drbg) (calls : List Call) :
    ∃ inputs, Abstracts (run (enter env) (initCtx env home keystore drbg) calls)
        (run step .init inputs) ∧ (run step .init inputs).pending = 0 := by
  have hrun : Follows (initCtx env home keystore drbg)
      (run (enter env) (initCtx env home keystore drbg) calls) :=
    run_invariant (fun s call hs ↦ hs.trans (follows_enter (follows_hook hreacts) s call))
      (.refl _) calls
  refine hrun .init ?_
  obtain ⟨sg, loadedKeys, heq⟩ := initCtx_eq env home keystore drbg
  rw [heq]
  refine ⟨rfl, rfl, by simp [Machine.init, verifies, emptyCtx], rfl, ?_⟩
  rintro (hwaits | hwaits) <;> cases hwaits

end ZipGateway.SecurityS2.Retry
