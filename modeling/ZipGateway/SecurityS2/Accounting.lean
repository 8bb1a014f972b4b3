import Mathlib.Algebra.Ring.Int.Defs
import ZipGateway.SecurityS2.Changes

/-!
# Every accepted transmission is reported once

A call of the `S2_send_data` family that returns 1 promises one `S2_send_done_event`. `S2.owed` is
the number of calls that returned 1, minus the number of events emitted, minus one while the state
machine is transmitting. Every call of the module keeps it (`owed_enter`), although inside a call it
is not constant: a transition that ends a transmission first becomes idle, then calls the inclusion
machine, which may start the next transmission, and emits its event only afterwards.

`account` is what `S2.owed` depends on. The functions that only touch tables and buffers keep it,
and with it everything that is shown here.
-/

set_option autoImplicit false

namespace ZipGateway.SecurityS2

open Lib

/-! ### The account -/

/-- What an action adds to the number of transmissions whose end has not been reported. -/
def Act.delta : Act → ℤ
  | .accepted => 1
  | .sendDone _ => -1
  | _ => 0

/-- The calls that returned 1. -/
def S2.acceptedCount (s : S2) : ℕ := s.log.countP fun act ↦ act matches .accepted

/-- The emissions of `S2_send_done_event`. -/
def S2.doneCount (s : S2) : ℕ := s.log.countP fun act ↦ act matches .sendDone _

/-- The state of the machine and the calls that returned 1 less the events that were emitted. -/
def S2.account (s : S2) : FsmState × ℤ := (s.fsm, (s.log.map Act.delta).sum)

/-- One while the machine transmits. -/
def FsmState.busy : FsmState → ℤ
  | .idle | .isMosWaitReply => 0
  | _ => 1

theorem S2.Idles.busy {s : S2} (hidle : s.Idles) : s.fsm.busy = 0 := by
  rcases hidle with hfsm | hfsm <;> rw [hfsm] <;> rfl

theorem S2.Transmits.busy {s : S2} (htransmits : s.Transmits) : s.fsm.busy = 1 := by
  rcases htransmits with hfsm | hfsm | hfsm <;> rw [hfsm] <;> rfl

/-- The transmissions that are neither reported nor under way. -/
def S2.owed (s : S2) : ℤ := s.account.2 - s.account.1.busy

/-- The log adds up to the difference of the two counts. -/
theorem sum_delta (log : List Act) :
    (log.map Act.delta).sum = (log.countP fun act ↦ act matches .accepted : ℕ) -
      (log.countP fun act ↦ act matches .sendDone _ : ℕ) := by
  induction log with
  | nil => simp
  | cons act rest ih =>
    cases act <;> simp [Act.delta, ih] <;> omega

/-- Nothing is owed when the two counts differ by the transmission under way. -/
theorem owed_eq_zero_iff (s : S2) :
    s.owed = 0 ↔ s.acceptedCount = s.doneCount +
      if s.fsm = .idle ∨ s.fsm = .isMosWaitReply then 0 else 1 := by
  have hsum := sum_delta s.log
  simp only [S2.owed, S2.account, S2.acceptedCount, S2.doneCount, hsum]
  cases s.fsm <;> simp [FsmState.busy] <;> omega

theorem owed_congr {s t : S2} (haccount : t.account = s.account) : t.owed = s.owed := by
  rw [S2.owed, S2.owed, haccount]

@[simp]
theorem owed_logged (s : S2) (act : Act) : (s.logged act).owed = s.owed + act.delta := by
  simp only [S2.owed, S2.account, S2.logged, List.map_cons, List.sum_cons]
  omega

/-- An action that neither accepts nor reports a transmission. -/
theorem owed_logged_neutral (s : S2) {act : Act} (hact : act.delta = 0) :
    (s.logged act).owed = s.owed := by
  rw [owed_logged, hact, add_zero]

/-- A change of the state of the machine. -/
theorem owed_machine (s : S2) (fsm : FsmState) :
    ({ s with fsm := fsm } : S2).owed = s.owed + s.fsm.busy - fsm.busy := by
  simp only [S2.owed, S2.account]
  omega

/-- The table functions keep the account. -/
theorem quietClosed_account (account : FsmState × ℤ) :
    QuietClosed fun s ↦ s.account = account where
  frame := by
    intro s t _ _ _ hfsm hlog hs
    rw [← hs, S2.account, S2.account, hfsm, hlog]
  allocateSpan _ _ _ _ hs := hs
  span _ _ _ _ hs := hs
  mpan _ _ _ _ hs := hs

/-- Nothing is owed for a change. -/
theorem owed_change {aes : BlockCipher} {s t : S2} (hchange : Change aes s t) :
    t.owed = s.owed := by
  cases hchange with
  | quiet hquiet => exact owed_congr (by rw [S2.account, S2.account, hquiet.fsm, hquiet.log])
  | allocate | span => rfl
  | localNonce => exact owed_logged_neutral _ rfl
  | note act _ hanswer =>
    refine owed_logged_neutral s ?_
    cases act <;> first | rfl | cases hanswer
  | mosWait con hidle =>
    change ({ s with fsm := .isMosWaitReply } : S2).owed = s.owed
    rw [owed_machine, S2.Idles.busy hidle, add_zero]
    exact sub_zero _

/-! ### Transmissions -/

section Transmit

variable {env : Env} (hhook : ∀ s hook, (env.hook s hook).owed = s.owed)

theorem owed_setTimeout (interval : UInt16) (s : S2) : (setTimeout interval s).owed = s.owed :=
  owed_logged_neutral s rfl

include hhook

/-- The end of a transmission: the machine becomes idle, and one event is emitted. -/
theorem owed_endTransmission (status : UInt8) {s : S2} (htransmits : s.Transmits) :
    (endTransmission env status s).owed = s.owed := by
  unfold endTransmission postSendDoneEvent
  rw [hhook, owed_logged, hhook, owed_machine, htransmits.busy, Act.delta, FsmState.busy]
  omega

theorem changeClosed_owed (owed : ℤ) : ChangeClosed env fun s ↦ s.owed = owed where
  hook s hook hs := (hhook s hook).trans hs
  setTimeout s interval hs := (owed_setTimeout interval s).trans hs
  ended _ status htransmits hs := (owed_endTransmission hhook status htransmits).trans hs
  change hchange hs := (owed_change hchange).trans hs
  nonceGet s _ hs := (owed_logged_neutral s rfl).trans hs

theorem owed_encryptAndSend (s : S2) : (encryptAndSend env s).owed = s.owed := by
  have hbuilt := owed_congr ((quietClosed_account s.account).encapsulate env rfl)
  unfold encryptAndSend
  dsimp only
  exact (changeClosed_owed hhook s.owed).sendRaw ((owed_logged_neutral _ rfl).trans hbuilt)

/-- `send_msg_state_enter` leaves the machine busy, or has emitted the event already. -/
theorem owed_sendMsgStateEnter (s : S2) :
    (sendMsgStateEnter env s).owed = s.owed + s.fsm.busy - 1 := by
  have hsent := owed_encryptAndSend hhook (sendingState s)
  have henter : (sendingState s).owed = s.owed + s.fsm.busy - 1 := by
    unfold sendingState
    split_ifs
    · rw [owed_setTimeout, owed_machine]
      rfl
    · rw [owed_machine]
      rfl
  rw [henter] at hsent
  rw [sendMsgStateEnter_eq]
  generalize encryptAndSend env (sendingState s) = sent at hsent ⊢
  exact hsent

/-! ### Calls -/

variable (con : Connection)

theorem owed_sendMsg (buf : List UInt8) {s : S2} (hidle : s.Idles) :
    (fsmIdle env (.sendMsg con buf) s).owed = s.owed - 1 := by
  obtain ⟨t, hspan, hfsm, hstart⟩ := fsmIdle_sendMsg env con buf s
  have howed : t.owed = s.owed := (changeClosed_owed hhook s.owed).changes hspan rfl
  rcases hstart with hstart | hstart
  · rw [hstart, owed_sendMsgStateEnter hhook]
    change t.owed + t.fsm.busy - 1 = s.owed - 1
    rw [hfsm, howed, hidle.busy, add_zero]
  · rw [hstart, owed_setTimeout]
    refine (changeClosed_owed hhook (s.owed - 1)).sendNonceGet ?_
    change ({ t with fsm := .waitNonceRaport } : S2).owed = s.owed - 1
    rw [owed_machine, hfsm, howed, hidle.busy, add_zero]
    rfl

theorem owed_sendMulticast (buf : List UInt8) {s : S2} (hidle : s.Idles) :
    (fsmIdle env (.sendMulticast con buf) s).owed = s.owed - 1 := by
  obtain ⟨t, i, hmpan, hstart⟩ := fsmIdle_sendMulticast env con buf s
  have howed : t.owed = s.owed := owed_congr (by rw [S2.account, hmpan.fsm, hmpan.log]; rfl)
  rw [hstart]
  refine (changeClosed_owed hhook (s.owed - 1)).encryptAndSendMulti i ?_
  change ({ t with fsm := .sendingMsg } : S2).owed = s.owed - 1
  rw [owed_machine, hmpan.fsm, howed]
  change s.owed + s.fsm.busy - 1 = s.owed - 1
  rw [hidle.busy, add_zero]

/-- A call of the `S2_send_data` family: what it owes for returning 1 is under way or reported. -/
theorem owed_sendDataAllCast (buf : Option (List UInt8)) (kind : SendKind) (s : S2) :
    (sendDataAllCast env con buf kind s).1.owed = s.owed := by
  rcases sendDataAllCast_cases env con buf kind s with
    hcase | ⟨bytes, mpan, hidle, hcase⟩ | ⟨-, bytes, hidle, hcase⟩
  · rw [hcase]
  · have hrequested : ({ s.logged (.requested con bytes) with mpan := mpan } : S2).owed = s.owed :=
      owed_logged_neutral s rfl
    have hstarted := owed_sendMsg hhook con bytes
      (s := { s.logged (.requested con bytes) with mpan := mpan }) hidle
    rw [hcase, owed_logged, hstarted, hrequested]
    exact sub_add_cancel _ _
  · have hrequested : (s.logged (.requested con bytes)).owed = s.owed := owed_logged_neutral s rfl
    have hstarted := owed_sendMulticast hhook con bytes
      (s := s.logged (.requested con bytes)) hidle
    rw [hcase, owed_logged, hstarted, hrequested]
    exact sub_add_cancel _ _

/-- The machine stays busy when it sends a plaintext again. -/
theorem owed_sendAgain {s : S2} (hbusy : s.fsm.busy = 1) :
    (sendMsgStateEnter env s).owed = s.owed := by
  rw [owed_sendMsgStateEnter hhook, hbusy, add_sub_cancel_right]

/-- What is owed is kept by every call, if the callbacks keep it. -/
theorem sendClosed_owed (owed : ℤ) : SendClosed env fun s ↦ s.owed = owed where
  toChangeClosed := changeClosed_owed hhook owed
  setPeer _ _ _ _ hs := hs
  mosTimeout s hmos hs := by
    have hidle : s.Idles := .inr hmos
    change ({ s with fsm := .idle } : S2).owed = owed
    rw [owed_machine, hidle.busy, add_zero, hs]
    exact sub_zero owed
  empty _ _ hs := hs
  again s hagain hs := (owed_sendAgain hhook hagain.transmits.busy).trans hs
  emptyAgain s hfsm _ hs := by
    refine (owed_sendAgain hhook (s := { s with
      buf := []
      peer := { s.peer with txOptions := s.peer.txOptions &&& ~~~txVerifyDelivery } }) ?_).trans hs
    rw [hfsm]
    rfl
  send s con buf kind hs := (owed_sendDataAllCast hhook con buf kind s).trans hs
  keys _ _ _ hs := hs

end Transmit

theorem owed_enter (env : Env) (hhook : ∀ s hook, (env.hook s hook).owed = s.owed) (s : S2)
    (call : Call) : (enter env s call).owed = s.owed :=
  (sendClosed_owed hhook s.owed).enter call (fun _ _ _ ht ↦ ht) rfl

/-! ### Runs -/

theorem account_restoreKeys (env : Env) (keystore : Fin 5 → Option Block) (s : S2) :
    (restoreKeys env keystore s).account = s.account := by
  obtain ⟨sg, loadedKeys, heq⟩ := restoreKeys_eq env keystore s
  rw [heq]
  rfl

/-- What a call of the `S2_send_data` family returns. -/
def Call.result (env : Env) (s : S2) : Call → Option Bool
  | .sendData dst buf => some (SecurityS2.sendData env dst buf s).2
  | .sendDataMulticast con buf => some (SecurityS2.sendDataMulticast env con buf s).2
  | .sendDataWithKeyset con keyset payload kind =>
    some (SecurityS2.sendDataWithKeyset env con keyset payload kind s).2
  | _ => none

theorem sendDataAllCast_refused {env : Env} {con : Connection} {buf : Option (List UInt8)}
    {kind : SendKind} {s : S2} (hrefused : (sendDataAllCast env con buf kind s).2 = false) :
    (sendDataAllCast env con buf kind s).1 = s := by
  unfold sendDataAllCast at hrefused ⊢
  split at hrefused
  · rfl
  · split_ifs at hrefused with hrefuse
    · exact if_pos hrefuse ▸ rfl

/-- A call that returns 0 has no effect. -/
theorem enter_refused {env : Env} {s : S2} {call : Call}
    (hrefused : call.result env s = some false) : enter env s call = s := by
  cases call with
  | sendData dst buf => exact sendDataAllCast_refused (Option.some.inj hrefused)
  | sendDataMulticast con buf => exact sendDataAllCast_refused (Option.some.inj hrefused)
  | sendDataWithKeyset con keyset payload kind =>
    cases keyset with
    | zwave => exact sendDataAllCast_refused (Option.some.inj hrefused)
    | zwaveLongRange => exact sendDataAllCast_refused (Option.some.inj hrefused)
    | unknown => rfl
  | _ => simp [Call.result] at hrefused

/-- The callbacks that the module can meet keep what is owed: they only make calls. -/
theorem Env.Reacts.owed_hook {allowed : S2 → Call → Prop} {env : Env}
    (hreacts : env.Reacts allowed) (s : S2) (hook : Hook) :
    (env.hook s hook).owed = s.owed := by
  induction hreacts generalizing s hook with
  | silent env hsilent => rw [hsilent]
  | calls env inner _ _ calls _ hhook ih =>
    rw [hhook]
    exact run_invariant (fun t call ht ↦ (owed_enter inner ih t call).trans ht) rfl _

/-- In every run from `S2_init_ctx`, with a radio that may refuse any frame and callbacks that may
call the module again, the calls that returned 1 are as many as the emissions of
`S2_send_done_event`, and one more while the machine is transmitting. A call that returns 0 emits
none. -/
theorem accepted_eq_done_add_busy (env : Env) (hreacts : env.Reacts fun _ _ ↦ True) (home : UInt32)
    (keystore : Fin 5 → Option Block) (drbg : Drbg) (calls : List Call) :
    let s := run (enter env) (initCtx env home keystore drbg) calls
    (s.acceptedCount = s.doneCount +
      if s.fsm = .idle ∨ s.fsm = .isMosWaitReply then 0 else 1) ∧
    ∀ call : Call, call.result env s = some false →
      (enter env s call).doneCount = s.doneCount := by
  intro s
  refine ⟨(owed_eq_zero_iff s).mp ?_, fun call hrefused ↦ by rw [enter_refused hrefused]⟩
  have hstart : (initCtx env home keystore drbg).owed = 0 :=
    owed_congr (account_restoreKeys env keystore _)
  exact run_invariant
    (fun t call ht ↦ (owed_enter env hreacts.owed_hook t call).trans ht) hstart calls

/-- An environment whose radio takes no frame, with the given callbacks. -/
def refusingEnv (hook : S2 → Hook → S2) : Env :=
  { sampleEnv with sendFrame := fun _ _ _ ↦ false, hook := hook }

/-- An application that answers the end of a transmission with the next one. -/
def sampleResend : Hook → List Call
  | .sendDoneEvent _ => [.sendData sampleConnection (some [0x20])]
  | _ => []

/-- With a radio that takes no frame and an application that sends again from inside
`S2_send_done_event`, one call becomes two accepted transmissions, and both are reported. -/
theorem accepted_eq_done_add_busy_resend :
    let env := refusingEnv fun s hook ↦ run (enter (refusingEnv fun s _ ↦ s)) s (sampleResend hook)
    let s := run (enter env) (initCtx env 0 (fun _ ↦ none) Drbg.zero)
      [.sendData sampleConnection (some [0x20])]
    s.acceptedCount = 2 ∧ s.doneCount = 2 ∧
      s.acceptedCount = s.doneCount +
        if s.fsm = .idle ∨ s.fsm = .isMosWaitReply then 0 else 1 := by
  intro env s
  have hreacts : env.Reacts fun _ _ ↦ True :=
    .calls env (refusingEnv fun s _ ↦ s) (.silent _ fun _ _ ↦ rfl) rfl (fun _ ↦ sampleResend)
      (fun t hook ↦ by cases hook <;> simp [sampleResend]) fun _ _ ↦ rfl
  exact ⟨by decide +kernel, by decide +kernel,
    (accepted_eq_done_add_busy env hreacts 0 (fun _ ↦ none) Drbg.zero _).1⟩

end ZipGateway.SecurityS2
