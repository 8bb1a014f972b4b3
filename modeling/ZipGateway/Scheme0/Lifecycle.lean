import ZipGateway.Scheme0.Footprint

/-!
# The life of a transmit session

A session lives in a slot of `tx_sessions`, which is free when its `dnode` is 0. The serial number a
session was accepted under tells it from the other sessions of its slot, and `fateOf` reads from the
log what became of it: that it ended, and what its owner was told. The invariant `Lifecycle` says
that a slot in use holds a session that has not ended and has told its owner nothing, and that every
other accepted session has ended once and has told its owner once, right then. It is kept by every
call, at any depth of callbacks.

The low-level transmissions of a session report to its slot, and not to the session. A report that
comes after the session has ended finds the slot free, and then it is ignored, or finds a later
session there. What saves the later session is only that it is in another state than the one in
which such a report is expected. `Undisturbed` is that condition.
-/

set_option autoImplicit false

namespace ZipGateway.Scheme0

open Function Lib List

/-! ### Fates -/

/-- What becomes of a session. -/
inductive Fate
  /-- It ended in a state. -/
  | ended (state : TxState)
  /-- Its callback was called with the user pointer and a status. -/
  | told (user : ℕ) (status : UInt8)
deriving DecidableEq, Repr

/-- What an act says about the fate of session `serial`. -/
def Act.fateOf (serial : ℕ) : Act → Option Fate
  | .ended n state => if n = serial then some (.ended state) else none
  | .callback n user status => if n = serial then some (.told user status) else none
  | _ => none

/-- The fate of a session, newest first. -/
def fateOf (serial : ℕ) (log : List Act) : List Fate := log.filterMap (Act.fateOf serial)

@[simp]
theorem fateOf_cons (serial : ℕ) (act : Act) (log : List Act) :
    fateOf serial (act :: log) = (act.fateOf serial).toList ++ fateOf serial log := by
  unfold fateOf
  cases hact : act.fateOf serial with
  | none => rw [filterMap_cons_none hact]; rfl
  | some fate => rw [filterMap_cons_some hact]; rfl

/-- The nonce exchange does not bear on the fate of a session. -/
theorem fateOf_append_nonceActs {serial : ℕ} {acts log : List Act}
    (hacts : ∀ act ∈ acts, act.isNonceAct = true) :
    fateOf serial (acts ++ log) = fateOf serial log := by
  unfold fateOf
  rw [filterMap_append, append_left_eq_self, filterMap_eq_nil_iff]
  intro act hact
  have hnonce := hacts act hact
  cases act <;> simp_all [Act.isNonceAct, Act.fateOf]

/-! ### The invariant -/

/-- The slot is in use by session `serial`. -/
def Holds (s : S0) (i : Fin numTxSessions) (serial : ℕ) : Prop :=
  (s.txSessions i).param.dnode ≠ 0 ∧ (s.txSessions i).serial = serial

/-- The session has ended, and its owner, if it has one, was told once. -/
def Finished (s : S0) (serial : ℕ) : Prop :=
  ∃ state,
    (∃ user status, (serial, user) ∈ s.clients ∧
      fateOf serial s.log = [.told user status, .ended state]) ∨
    (∀ user, (serial, user) ∉ s.clients) ∧ fateOf serial s.log = [.ended state]

/-- A session that is in a slot: it was accepted, it has not ended, and the slot has the callback it
was accepted with. -/
structure Running (s : S0) (session : TxSession) : Prop where
  positive : session.serial ≠ 0
  fate : fateOf session.serial s.log = []
  owner : ∀ user, (session.serial, user) ∈ s.clients ↔ session.callback = true ∧ session.user = user

/-- A free slot, of a session that ended or of none. -/
structure Retired (session : TxSession) : Prop where
  /-- A slot that was never used has no callback. -/
  unused : session.serial = 0 → session.callback = false
  /-- The session in the slot is over and its timer is stopped. -/
  ended : session.serial ≠ 0 →
    (session.state = .txDone ∨ session.state = .txFail) ∧ session.timer = false

/-- Every accepted session is in a slot or finished. -/
structure Lifecycle (s : S0) : Prop where
  running : ∀ i, (s.txSessions i).param.dnode ≠ 0 → Running s (s.txSessions i)
  retired : ∀ i, (s.txSessions i).param.dnode = 0 → Retired (s.txSessions i)
  bound : ∀ i, (s.txSessions i).serial ≤ s.lastSerial
  distinct : ∀ i j, (s.txSessions i).serial ≠ 0 →
    (s.txSessions i).serial = (s.txSessions j).serial → i = j
  finished : ∀ serial, serial ≠ 0 → serial ≤ s.lastSerial → (∀ i, ¬ Holds s i serial) →
    Finished s serial
  fresh : ∀ serial, s.lastSerial < serial →
    fateOf serial s.log = [] ∧ ∀ user, (serial, user) ∉ s.clients
  client : ∀ serial user, (serial, user) ∈ s.clients →
    serial ≠ 0 ∧ ∀ user', (serial, user') ∈ s.clients → user' = user

/-- The slot is in use, or was never used: the session machine can run in it. -/
def Active (s : S0) (i : Fin numTxSessions) : Prop :=
  (s.txSessions i).param.dnode ≠ 0 ∨ (s.txSessions i).serial = 0

/-- Every session goes on as it was: those in use may move, the free slots do not, and the fates are
the same. -/
structure Continues (s after : S0) : Prop where
  lastSerial : after.lastSerial = s.lastSerial
  clients : after.clients = s.clients
  fate : ∀ serial, fateOf serial after.log = fateOf serial s.log
  dnode : ∀ i, (after.txSessions i).param.dnode = (s.txSessions i).param.dnode
  serial : ∀ i, (after.txSessions i).serial = (s.txSessions i).serial
  user : ∀ i, (after.txSessions i).user = (s.txSessions i).user
  callback : ∀ i, (after.txSessions i).callback = (s.txSessions i).callback
  ended : ∀ i, ¬ Active s i → (after.txSessions i).state = (s.txSessions i).state ∧
    (after.txSessions i).timer = (s.txSessions i).timer

theorem Continues.active {s after : S0} (hcontinues : Continues s after) (i : Fin numTxSessions) :
    Active after i ↔ Active s i := by
  unfold Active
  rw [hcontinues.dnode, hcontinues.serial]

theorem continues_trans {first second third : S0} (hfirst : Continues first second)
    (hsecond : Continues second third) : Continues first third where
  lastSerial := hsecond.lastSerial.trans hfirst.lastSerial
  clients := hsecond.clients.trans hfirst.clients
  fate := fun serial ↦ (hsecond.fate serial).trans (hfirst.fate serial)
  dnode := fun i ↦ (hsecond.dnode i).trans (hfirst.dnode i)
  serial := fun i ↦ (hsecond.serial i).trans (hfirst.serial i)
  user := fun i ↦ (hsecond.user i).trans (hfirst.user i)
  callback := fun i ↦ (hsecond.callback i).trans (hfirst.callback i)
  ended := fun i hidle ↦ by
    obtain ⟨hstate, htimer⟩ := hfirst.ended i hidle
    obtain ⟨hstate', htimer'⟩ := hsecond.ended i fun hactive ↦ hidle ((hfirst.active i).mp hactive)
    exact ⟨hstate'.trans hstate, htimer'.trans htimer⟩

theorem SameTransmit.continues {s after : S0} (hsame : SameTransmit s after) :
    Continues s after := by
  have hslot := fun i ↦ congrFun hsame.txSessions i
  refine ⟨hsame.lastSerial, hsame.clients, fun serial ↦ ?_, fun i ↦ by rw [hslot], fun i ↦ by
    rw [hslot], fun i ↦ by rw [hslot], fun i ↦ by rw [hslot], fun i _ ↦ by simp [hslot]⟩
  obtain ⟨acts, hlog, hacts⟩ := hsame.log
  rw [hlog]
  exact fateOf_append_nonceActs hacts

/-- A change of the fields of a slot that do not tell which session is there. -/
theorem continues_modifySession {s : S0} {i : Fin numTxSessions} {change : TxSession → TxSession}
    (hactive : Active s i)
    (hdnode : (change (s.txSessions i)).param.dnode = (s.txSessions i).param.dnode)
    (hserial : (change (s.txSessions i)).serial = (s.txSessions i).serial)
    (huser : (change (s.txSessions i)).user = (s.txSessions i).user)
    (hcallback : (change (s.txSessions i)).callback = (s.txSessions i).callback) :
    Continues s (s.modifySession i change) := by
  have hfield : ∀ {Value : Type} (field : TxSession → Value),
      field (change (s.txSessions i)) = field (s.txSessions i) →
      ∀ j, field ((s.modifySession i change).txSessions j) = field (s.txSessions j) := by
    intro Value field hsame j
    by_cases hj : j = i
    · subst hj
      simpa [S0.modifySession] using hsame
    · simp [S0.modifySession, update_of_ne hj]
  refine ⟨rfl, rfl, fun _ ↦ rfl, hfield (·.param.dnode) hdnode, hfield (·.serial) hserial,
    hfield (·.user) huser, hfield (·.callback) hcallback, fun j hidle ↦ ?_⟩
  have hj : j ≠ i := fun hj ↦ hidle (hj ▸ hactive)
  simp [S0.modifySession, update_of_ne hj]

/-- One act is logged that is not the end of a session, and transmissions are started. -/
theorem continues_of_log {s : S0} (act : Act) (hact : ∀ serial, act.fateOf serial = none)
    (outstanding : List (Fin numTxSessions × RawCallback × ℕ)) :
    Continues s { s with outstanding := outstanding, log := act :: s.log } := by
  refine ⟨rfl, rfl, fun serial ↦ ?_, fun _ ↦ rfl, fun _ ↦ rfl, fun _ ↦ rfl, fun _ ↦ rfl,
    fun _ _ ↦ ⟨rfl, rfl⟩⟩
  rw [fateOf_cons, hact]
  rfl

/-! ### Rules for the invariant -/

section Rules

variable {s after : S0} {i : Fin numTxSessions}

/-- What a state that is not the end of a session says about a slot. -/
theorem Lifecycle.active (hinv : Lifecycle s)
    (hstate : (s.txSessions i).state ≠ .txDone ∧ (s.txSessions i).state ≠ .txFail ∨
      (s.txSessions i).timer = true) : Active s i := by
  by_contra hidle
  unfold Active at hidle
  push Not at hidle
  obtain ⟨hover, htimer⟩ := (hinv.retired i hidle.1).ended hidle.2
  rcases hstate with ⟨hdone, hfail⟩ | hrunning
  · rcases hover with hover | hover
    · exact hdone hover
    · exact hfail hover
  · rw [htimer] at hrunning
    exact absurd hrunning (by decide)

theorem Lifecycle.continues (hinv : Lifecycle s) (hcontinues : Continues s after) :
    Lifecycle after := by
  have hholds : ∀ j serial, Holds after j serial ↔ Holds s j serial := by
    intro j serial
    unfold Holds
    rw [hcontinues.dnode, hcontinues.serial]
  refine ⟨fun j hj ↦ ?_, fun j hj ↦ ?_, fun j ↦ ?_, fun j k ↦ ?_, fun serial hpos hbound hnone ↦ ?_,
    fun serial hbound ↦ ?_, ?_⟩
  · rw [hcontinues.dnode] at hj
    obtain ⟨hpos, hfate, howner⟩ := hinv.running j hj
    constructor
    · rw [hcontinues.serial]
      exact hpos
    · rw [hcontinues.serial, hcontinues.fate]
      exact hfate
    · rw [hcontinues.serial, hcontinues.clients, hcontinues.user, hcontinues.callback]
      exact howner
  · rw [hcontinues.dnode] at hj
    have hretired := hinv.retired j hj
    constructor
    · rw [hcontinues.serial, hcontinues.callback]
      exact hretired.unused
    · rw [hcontinues.serial]
      intro hpos
      have hidle : ¬ Active s j := fun hactive ↦ hactive.elim (fun h ↦ h hj) hpos
      rw [(hcontinues.ended j hidle).1, (hcontinues.ended j hidle).2]
      exact hretired.ended hpos
  · rw [hcontinues.serial, hcontinues.lastSerial]
    exact hinv.bound j
  · rw [hcontinues.serial, hcontinues.serial]
    exact hinv.distinct j k
  · rw [hcontinues.lastSerial] at hbound
    have hfinished := hinv.finished serial hpos hbound fun j hj ↦ hnone j ((hholds j serial).mpr hj)
    unfold Finished at hfinished ⊢
    rw [hcontinues.clients, hcontinues.fate]
    exact hfinished
  · rw [hcontinues.lastSerial] at hbound
    rw [hcontinues.clients, hcontinues.fate]
    exact hinv.fresh serial hbound
  · rw [hcontinues.clients]
    exact hinv.client

/-- The session in slot `i` ends: the slot becomes free, and the log has the end and, if the session
has an owner, what the owner is told. -/
theorem Lifecycle.retire (hinv : Lifecycle s) (hactive : Active s i) {state : TxState}
    (hstate : state = .txDone ∨ state = .txFail) {acts : List Act}
    (hacts : (s.txSessions i).callback = false ∧ acts = [.ended (s.txSessions i).serial state] ∨
      (s.txSessions i).callback = true ∧ ∃ status, acts =
        [.callback (s.txSessions i).serial (s.txSessions i).user status,
          .ended (s.txSessions i).serial state])
    (hslot : after.txSessions i = { s.txSessions i with
      state := state, param := { (s.txSessions i).param with dnode := 0 }, timer := false })
    (hother : ∀ j, j ≠ i → after.txSessions j = s.txSessions j)
    (hlast : after.lastSerial = s.lastSerial) (hclients : after.clients = s.clients)
    (hlog : after.log = acts ++ s.log) : Lifecycle after := by
  have hfate : ∀ serial, serial ≠ (s.txSessions i).serial →
      fateOf serial after.log = fateOf serial s.log := by
    intro serial hserial
    rw [hlog]
    rcases hacts with ⟨-, rfl⟩ | ⟨-, status, rfl⟩
    · simp [Act.fateOf, hserial.symm]
    · simp [Act.fateOf, hserial.symm]
  have hfree : (after.txSessions i).param.dnode = 0 := by rw [hslot]
  have hholds : ∀ j serial, Holds after j serial → Holds s j serial ∧ j ≠ i := by
    intro j serial hj
    have hji : j ≠ i := fun hji ↦ hj.1 (hji ▸ hfree)
    refine ⟨?_, hji⟩
    unfold Holds at hj ⊢
    rwa [hother j hji] at hj
  have hserial : ∀ j, (after.txSessions j).serial = (s.txSessions j).serial := by
    intro j
    by_cases hji : j = i
    · rw [hji, hslot]
    · rw [hother j hji]
  refine ⟨fun j hj ↦ ?_, fun j hj ↦ ?_, fun j ↦ ?_, fun j k ↦ ?_, fun serial hpos hbound hnone ↦ ?_,
    fun serial hbound ↦ ?_, ?_⟩
  · obtain ⟨huse, hji⟩ := hholds j _ ⟨hj, rfl⟩
    rw [hother j hji] at huse ⊢
    have hrunning := hinv.running j huse.1
    have hserial : (s.txSessions j).serial ≠ (s.txSessions i).serial := fun hserial ↦
      hji (hinv.distinct j i hrunning.positive hserial)
    refine ⟨hrunning.positive, ?_, ?_⟩
    · rw [hfate _ hserial]
      exact hrunning.fate
    · rw [hclients]
      exact hrunning.owner
  · by_cases hji : j = i
    · rw [hji, hslot]
      refine ⟨fun hunused ↦ ?_, fun _ ↦ ⟨hstate, rfl⟩⟩
      by_cases huse : (s.txSessions i).param.dnode = 0
      · exact (hinv.retired i huse).unused hunused
      · exact absurd hunused (hinv.running i huse).positive
    · rw [hother j hji] at hj ⊢
      exact hinv.retired j hj
  · rw [hserial, hlast]
    exact hinv.bound j
  · rw [hserial, hserial]
    exact hinv.distinct j k
  · rw [hlast] at hbound
    by_cases hserial : serial = (s.txSessions i).serial
    · -- The session that ended: its fate was empty, and the slot has its owner.
      have huse := hactive.resolve_right (hserial ▸ hpos)
      have hrunning := hinv.running i huse
      refine ⟨state, ?_⟩
      rw [hclients, hserial, hlog]
      rcases hacts with ⟨hcallback, rfl⟩ | ⟨hcallback, status, rfl⟩
      · right
        refine ⟨fun user hmem ↦ ?_, by simp [Act.fateOf, hrunning.fate]⟩
        rw [hrunning.owner, hcallback] at hmem
        exact absurd hmem.1 (by decide)
      · left
        refine ⟨(s.txSessions i).user, status, ?_, by simp [Act.fateOf, hrunning.fate]⟩
        exact (hrunning.owner _).mpr ⟨hcallback, rfl⟩
    · have hfinished := hinv.finished serial hpos hbound fun j hj ↦ ?_
      · unfold Finished at hfinished ⊢
        rw [hclients, hfate serial hserial]
        exact hfinished
      · have hji : j ≠ i := fun hji ↦ hserial (by rw [← hj.2, hji])
        refine hnone j ?_
        unfold Holds at hj ⊢
        rwa [hother j hji]
  · rw [hlast] at hbound
    have hserial : serial ≠ (s.txSessions i).serial := by
      have := hinv.bound i
      omega
    rw [hfate serial hserial, hclients]
    exact hinv.fresh serial hbound
  · rw [hclients]
    exact hinv.client

/-- A session is accepted into a free slot. -/
theorem Lifecycle.accept (hinv : Lifecycle s) (hidle : (s.txSessions i).param.dnode = 0)
    {session : TxSession} (hdnode : session.param.dnode ≠ 0)
    (hserial : session.serial = s.lastSerial + 1)
    (hslot : after.txSessions = update s.txSessions i session)
    (hlast : after.lastSerial = s.lastSerial + 1)
    (hclients : after.clients = if session.callback then (session.serial, session.user) :: s.clients
      else s.clients)
    (hfate : ∀ serial, fateOf serial after.log = fateOf serial s.log) : Lifecycle after := by
  have hclient : ∀ serial user, (serial, user) ∈ after.clients ↔
      session.callback = true ∧ serial = session.serial ∧ user = session.user ∨
        (serial, user) ∈ s.clients := by
    intro serial user
    rw [hclients]
    split_ifs with hcallback
    · simp [hcallback]
    · simp [hcallback]
  have hnew : after.txSessions i = session := by rw [hslot, update_self]
  have hother : ∀ j, j ≠ i → after.txSessions j = s.txSessions j := fun j hj ↦ by
    rw [hslot, update_of_ne hj]
  obtain ⟨hnofate, hnoclient⟩ := hinv.fresh (s.lastSerial + 1) (Nat.lt_succ_self _)
  have hold : ∀ j serial, j ≠ i → (Holds after j serial ↔ Holds s j serial) := by
    intro j serial hj
    unfold Holds
    rw [hother j hj]
  refine ⟨fun j hj ↦ ?_, fun j hj ↦ ?_, fun j ↦ ?_, fun j k hpos heq ↦ ?_,
    fun serial hpos hbound hnone ↦ ?_, fun serial hbound ↦ ?_, fun serial user hmem ↦ ?_⟩
  · by_cases hji : j = i
    · rw [hji, hnew]
      refine ⟨by omega, ?_, fun user ↦ ?_⟩
      · rw [hfate, hserial]
        exact hnofate
      · rw [hclient]
        constructor
        · rintro (⟨hcallback, -, huser⟩ | hmem)
          · exact ⟨hcallback, huser.symm⟩
          · exact absurd (hserial ▸ hmem) (hnoclient user)
        · rintro ⟨hcallback, huser⟩
          exact Or.inl ⟨hcallback, rfl, huser.symm⟩
    · rw [hother j hji] at hj ⊢
      have hrunning := hinv.running j hj
      refine ⟨hrunning.positive, ?_, fun user ↦ ?_⟩
      · rw [hfate]
        exact hrunning.fate
      · rw [hclient, ← hrunning.owner]
        refine ⟨fun hmem ↦ hmem.resolve_left ?_, Or.inr⟩
        rintro ⟨-, heq, -⟩
        have := hinv.bound j
        omega
  · have hji : j ≠ i := fun hji ↦ hdnode (by rw [← hnew, ← hji, hj])
    rw [hother j hji] at hj ⊢
    exact hinv.retired j hj
  · rw [hlast]
    by_cases hji : j = i
    · rw [hji, hnew, hserial]
    · rw [hother j hji]
      exact Nat.le_succ_of_le (hinv.bound j)
  · have hj := hinv.bound j
    have hk := hinv.bound k
    by_cases hji : j = i
    · by_cases hki : k = i
      · rw [hji, hki]
      · rw [hji, hnew, hother k hki] at heq
        omega
    · by_cases hki : k = i
      · rw [hki, hnew, hother j hji] at heq
        omega
      · rw [hother j hji] at hpos heq
        rw [hother k hki] at heq
        exact hinv.distinct j k hpos heq
  · have hserial' : serial ≠ session.serial := by
      intro heq
      exact hnone i ⟨by rw [hnew]; exact hdnode, by rw [hnew, heq]⟩
    have hfinished := hinv.finished serial hpos (by omega) fun j hj ↦ ?_
    · unfold Finished at hfinished ⊢
      simp only [hfate, hclient, hserial', false_and, and_false, false_or]
      exact hfinished
    · have hji : j ≠ i := fun hji ↦ hj.1 (hji ▸ hidle)
      exact hnone j ((hold j serial hji).mpr hj)
  · have hfresh := hinv.fresh serial (by omega)
    refine ⟨by rw [hfate, hfresh.1], fun user hmem ↦ ?_⟩
    rcases (hclient serial user).mp hmem with ⟨-, heq, -⟩ | hmem
    · omega
    · exact hfresh.2 user hmem
  · rcases (hclient serial user).mp hmem with ⟨-, heq, huser⟩ | hmem
    · refine ⟨by omega, fun user' hmem' ↦ ?_⟩
      rcases (hclient serial user').mp hmem' with ⟨-, -, huser'⟩ | hmem'
      · rw [huser, huser']
      · exact absurd hmem' (by rw [heq, hserial]; exact hnoclient user')
    · refine ⟨(hinv.client serial user hmem).1, fun user' hmem' ↦ ?_⟩
      rcases (hclient serial user').mp hmem' with ⟨-, heq, -⟩ | hmem'
      · exact absurd hmem (by rw [heq, hserial]; exact hnoclient user)
      · exact (hinv.client serial user hmem).2 user' hmem'

/-- An accepted session with a callback is in a slot and owes the callback, or has called it
once. -/
theorem Lifecycle.told (hinv : Lifecycle s) {serial user : ℕ}
    (hclient : (serial, user) ∈ s.clients) : (∃ i, Holds s i serial) ∧ fateOf serial s.log = [] ∨
      (∀ i, ¬ Holds s i serial) ∧
        ∃ state status, fateOf serial s.log = [.told user status, .ended state] := by
  by_cases hheld : ∃ i, Holds s i serial
  · left
    obtain ⟨i, huse, rfl⟩ := hheld
    exact ⟨⟨i, huse, rfl⟩, (hinv.running i huse).fate⟩
  · right
    push Not at hheld
    have hbound : serial ≤ s.lastSerial := by
      by_contra hbound
      exact (hinv.fresh serial (by omega)).2 user hclient
    obtain ⟨state, ⟨user', status, hclient', hfate⟩ | ⟨hnone, -⟩⟩ :=
      hinv.finished serial (hinv.client serial user hclient).1 hbound hheld
    · rw [(hinv.client serial user hclient).2 user' hclient'] at hfate
      exact ⟨hheld, state, status, hfate⟩
    · exact absurd hclient (hnone user)

/-- A slot is free exactly when the session that it last held, if any, has ended. -/
theorem Lifecycle.free_iff (hinv : Lifecycle s) (i : Fin numTxSessions) :
    (s.txSessions i).param.dnode = 0 ↔
      (s.txSessions i).serial = 0 ∨ fateOf (s.txSessions i).serial s.log ≠ [] := by
  constructor
  · intro hfree
    by_cases hunused : (s.txSessions i).serial = 0
    · exact Or.inl hunused
    · right
      have hheld : ∀ j, ¬ Holds s j (s.txSessions i).serial := fun j hj ↦
        hj.1 (hinv.distinct i j hunused hj.2.symm ▸ hfree)
      obtain ⟨state, ⟨user, status, -, hfate⟩ | ⟨-, hfate⟩⟩ :=
        hinv.finished _ hunused (hinv.bound i) hheld
      · simp [hfate]
      · simp [hfate]
  · intro hover
    by_contra huse
    have hrunning := hinv.running i huse
    exact hover.elim hrunning.positive fun hfate ↦ hfate hrunning.fate

end Rules

/-! ### The session machine -/

section Machine

variable {env : Env} (hcallback : ∀ s completion, Lifecycle s →
  Lifecycle (env.callback s completion)) {s : S0} {i : Fin numTxSessions}
include hcallback

theorem lifecycle_txSessionEnd {state : TxState} (hstate : state = .txDone ∨ state = .txFail)
    (hinv : Lifecycle s) (hactive : Active s i) : Lifecycle (txSessionEnd env i state s) := by
  unfold txSessionEnd
  simp only [S0.modifySession, update_self]
  split_ifs with howner
  · exact hcallback _ _ (hinv.retire hactive hstate (Or.inr ⟨howner, _, rfl⟩)
      (update_self _ _ _) (fun j hj ↦ update_of_ne hj _ _) rfl rfl rfl)
  · exact hinv.retire hactive hstate (Or.inl ⟨by simpa using howner, rfl⟩)
      (update_self _ _ _) (fun j hj ↦ update_of_ne hj _ _) rfl rfl rfl

theorem lifecycle_txSessionFail (hinv : Lifecycle s) (hactive : Active s i) :
    Lifecycle (txSessionFail env i s) := by
  have hcontinues : Continues s (s.modifySession i fun session ↦
      { session with txCode := transmitCompleteFail }) :=
    continues_modifySession hactive rfl rfl rfl rfl
  exact lifecycle_txSessionEnd hcallback (Or.inr rfl) (hinv.continues hcontinues)
    ((hcontinues.active i).mpr hactive)

theorem lifecycle_txSessionEncrypt {pass2 : Bool} (hinv : Lifecycle s) (hactive : Active s i) :
    Lifecycle (txSessionEncrypt env i pass2 s) := by
  have hmodify : Continues s (s.modifySession i fun session ↦
      { session with state := passState pass2, timer := false }) :=
    continues_modifySession hactive rfl rfl rfl rfl
  unfold txSessionEncrypt
  dsimp only
  split
  · rename_i after hencrypt
    have hcontinues := continues_trans hmodify (encryptMsg_none hencrypt).continues
    exact lifecycle_txSessionFail hcallback (hinv.continues hcontinues)
      ((hcontinues.active i).mpr hactive)
  · rename_i after enc hencrypt
    obtain ⟨middle, hsame, rfl⟩ := encryptMsg_advanced hencrypt
    have hmiddle := continues_trans hmodify hsame.continues
    have hadvanced : Continues s (middle.modifySession i fun session ↦ session.advanced) :=
      continues_trans hmiddle (continues_modifySession ((hmiddle.active i).mpr hactive)
        rfl rfl rfl rfl)
    have hcontinues := continues_trans hadvanced (continues_of_log
      (.encrypted ((s.modifySession i fun session ↦
        { session with state := passState pass2, timer := false }).txSessions i).serial pass2 enc)
      (fun _ ↦ rfl) middle.outstanding)
    split_ifs with hsent
    · exact hinv.continues (continues_trans hcontinues (continues_of_log _ (fun _ ↦ rfl) _))
    · exact lifecycle_txSessionFail hcallback (hinv.continues hcontinues)
        ((hcontinues.active i).mpr hactive)

theorem lifecycle_txSessionStateSet (state : TxState) (hinv : Lifecycle s) (hactive : Active s i) :
    Lifecycle (txSessionStateSet env i state s) := by
  have hmodify : ∀ state, Continues s (s.modifySession i fun session ↦
      { session with state := state }) := fun state ↦
    continues_modifySession hactive rfl rfl rfl rfl
  have htimer : ∀ after, Continues s after → Continues s (after.modifySession i fun session ↦
      { session with timer := true }) := fun after hafter ↦
    continues_trans hafter (continues_modifySession ((hafter.active i).mpr hactive) rfl rfl rfl rfl)
  cases state with
  | nonceGet =>
    simp only [txSessionStateSet]
    have hsent := continues_trans (hmodify .nonceGet) (continues_of_log
      (.plain ((s.modifySession i fun session ↦
          { session with state := .nonceGet }).txSessions i).param
        [commandClassSecurity, securityNonceGet]) (fun _ ↦ rfl)
      (s.outstanding ++ [(i, .nonceGet, ((s.modifySession i fun session ↦
          { session with state := .nonceGet }).txSessions i).serial)]))
    split_ifs
    · exact hinv.continues (htimer _ hsent)
    · exact hinv.continues hsent
    · exact lifecycle_txSessionFail hcallback (hinv.continues (hmodify _))
        (((hmodify _).active i).mpr hactive)
  | nonceGetSent =>
    simp only [txSessionStateSet]
    split_ifs
    · exact hinv.continues (hmodify _)
    · exact hinv.continues (htimer _ (hmodify _))
  | encMsg => exact lifecycle_txSessionEncrypt hcallback hinv hactive
  | encMsgSent =>
    simp only [txSessionStateSet]
    split_ifs
    · exact lifecycle_txSessionEnd hcallback (Or.inl rfl) (hinv.continues (hmodify _))
        (((hmodify _).active i).mpr hactive)
    · exact hinv.continues (htimer _ (hmodify _))
  | encMsg2 => exact lifecycle_txSessionEncrypt hcallback hinv hactive
  | encMsg2Sent => exact lifecycle_txSessionEnd hcallback (Or.inl rfl) hinv hactive
  | txDone => exact lifecycle_txSessionEnd hcallback (Or.inl rfl) hinv hactive
  | txFail => exact lifecycle_txSessionEnd hcallback (Or.inr rfl) hinv hactive

/-- A report of a transmission moves the machine only in a state that is not the end of a
session. -/
theorem lifecycle_rawCallback (kind : RawCallback) (status : UInt8) (hinv : Lifecycle s) :
    Lifecycle (rawCallback env i kind status s) := by
  have hstore :
      Continues s (s.modifySession i fun session ↦ { session with txCode := status }) := by
    have hfield : ∀ {Value : Type} (field : TxSession → Value),
        field { s.txSessions i with txCode := status } = field (s.txSessions i) →
        ∀ j, field ((s.modifySession i fun session ↦
          { session with txCode := status }).txSessions j) = field (s.txSessions j) := by
      intro Value field hsame j
      by_cases hj : j = i
      · subst hj
        simpa [S0.modifySession] using hsame
      · simp [S0.modifySession, update_of_ne hj]
    exact ⟨rfl, rfl, fun _ ↦ rfl, hfield (·.param.dnode) rfl, hfield (·.serial) rfl,
      hfield (·.user) rfl, hfield (·.callback) rfl,
      fun j _ ↦ ⟨hfield (·.state) rfl j, hfield (·.timer) rfl j⟩⟩
  unfold rawCallback
  dsimp only
  by_cases hexpected : (s.txSessions i).state = kind.transition.1
  · have hactive : Active s i := by
      refine hinv.active (Or.inl ?_)
      rw [hexpected]
      cases kind <;> decide
    rw [if_pos hexpected, if_pos (Or.inr hexpected)]
    exact lifecycle_txSessionStateSet hcallback _ (hinv.continues hstore)
      ((hstore.active i).mpr hactive)
  · rw [if_neg hexpected]
    split_ifs
    · exact hinv.continues hstore
    · exact hinv

theorem lifecycle_sec0SendData {p : TsParam} (hdnode : p.dnode ≠ 0) (data : ℕ → UInt8) (len : UInt8)
    (user : ℕ) (callback : Bool) (hinv : Lifecycle s) :
    Lifecycle (sec0SendData env p data len user callback s).1 := by
  unfold sec0SendData
  split
  · exact hinv
  · split
    · exact hinv
    · rename_i j hfound
      have hidle : (s.txSessions j).param.dnode = 0 := by simpa using firstSlot_some hfound
      refine lifecycle_txSessionStateSet hcallback .nonceGet ?_ ?_
      · refine hinv.accept hidle hdnode rfl rfl rfl rfl fun serial ↦ ?_
        simp [S0.modifySession, Act.fateOf]
      · left
        simpa [S0.modifySession] using hdnode

theorem lifecycle_sec0RegisterNonce (src dst : UInt8) (nonce : Nonce) (hinv : Lifecycle s) :
    Lifecycle (sec0RegisterNonce env src dst nonce s) := by
  unfold sec0RegisterNonce
  split_ifs with hblacklisted
  · exact hinv
  · split
    · exact hinv
    · rename_i j hfound
      have hsame : SameTransmit s (sec0BlacklistAddNonce src dst nonce
          (registerNonce src dst false nonce s)) :=
        sameTransmit_trans (sameTransmit_registerNonce src dst false nonce s)
          ⟨rfl, rfl, rfl, rfl, rfl, rfl, log_extends_refl _⟩
      have hcontinues := hsame.continues
      dsimp only
      generalize sec0BlacklistAddNonce src dst nonce (registerNonce src dst false nonce s) = middle
        at hcontinues ⊢
      have hmiddle := hinv.continues hcontinues
      have hset : ∀ state, (middle.txSessions j).state ≠ .txDone ∧
          (middle.txSessions j).state ≠ .txFail →
            Lifecycle (txSessionStateSet env j state middle) :=
        fun state hstate ↦ lifecycle_txSessionStateSet hcallback state hmiddle
          (hmiddle.active (Or.inl hstate))
      cases hstate : (middle.txSessions j).state with
      | nonceGet => exact hset _ (by simp [hstate])
      | nonceGetSent => exact hset _ (by simp [hstate])
      | encMsg =>
        dsimp only
        split_ifs
        · exact hset _ (by simp [hstate])
        · exact hmiddle
      | encMsgSent => exact hset _ (by simp [hstate])
      | encMsg2 => exact hmiddle
      | encMsg2Sent => exact hmiddle
      | txDone => exact hmiddle
      | txFail => exact hmiddle

theorem lifecycle_sec0AbortAllTxSessions (hinv : Lifecycle s) :
    Lifecycle (sec0AbortAllTxSessions env s) := by
  change Lifecycle (run (fun s i ↦
    if (s.txSessions i).param.dnode = 0 then s else txSessionFail env i s) s _)
  refine run_invariant (fun s i hinv ↦ ?_) hinv _
  split_ifs with hidle
  · exact hinv
  · exact lifecycle_txSessionFail hcallback hinv (Or.inl hidle)

end Machine

/-! ### Runs -/

/-- The slot is in use by another session than `serial`. -/
def Later (s : S0) (i : Fin numTxSessions) (serial : ℕ) : Prop :=
  (s.txSessions i).param.dnode ≠ 0 ∧ (s.txSessions i).serial ≠ serial

/-- Data is sent to a node, the module is initialized when nothing is going on, and a report of a
transmission whose slot has passed to a later session does not find that session in the state in
which such a report is expected. -/
def Undisturbed (s : S0) : Call → Prop
  | .init => s.outstanding = [] ∧ ∀ i, (s.txSessions i).param.dnode = 0
  | .sendData p .. => p.dnode ≠ 0
  | .rawCallback k _ => ∀ i kind serial, s.outstanding[k]? = some (i, kind, serial) →
      Later s i serial → (s.txSessions i).state ≠ kind.transition.1
  | _ => True

/-- A report of a transmission whose slot has passed to a later session leaves every session as it
is, except for the status code, which no later session reports before it has stored its own. -/
def LaterUnmoved (env : Env) (s : S0) : Call → Prop
  | .rawCallback k status => ∀ i kind serial, s.outstanding[k]? = some (i, kind, serial) →
      Later s i serial →
      (step env s (.rawCallback k status)).log = s.log ∧
        ∃ code, (step env s (.rawCallback k status)).txSessions =
          update s.txSessions i { s.txSessions i with txCode := code }
  | _ => True

/-- A report that is not expected has no effect but on the status code. -/
theorem rawCallback_unexpected (env : Env) {i : Fin numTxSessions} {kind : RawCallback}
    (status : UInt8) {s : S0} (hunexpected : (s.txSessions i).state ≠ kind.transition.1) :
    ∃ code, rawCallback env i kind status s =
      s.modifySession i fun session ↦ { session with txCode := code } := by
  unfold rawCallback
  dsimp only
  rw [if_neg hunexpected]
  by_cases hkind : kind = .nonceGet
  · exact ⟨status, if_pos (Or.inl hkind)⟩
  · refine ⟨(s.txSessions i).txCode, ?_⟩
    rw [if_neg (by simp [hkind, hunexpected])]
    simp only [S0.modifySession, update_eq_self]

theorem laterUnmoved_of_undisturbed (env : Env) (s : S0) (call : Call)
    (hallowed : Undisturbed s call) : LaterUnmoved env s call := by
  cases call with
  | rawCallback k status =>
    intro i kind serial hout hlater
    obtain ⟨code, hcode⟩ := rawCallback_unexpected env status
      (s := { s with outstanding := s.outstanding.eraseIdx k }) (hallowed i kind serial hout hlater)
    have hsame : ∃ code, s.txSessions =
        update s.txSessions i { s.txSessions i with txCode := code } :=
      ⟨(s.txSessions i).txCode, (update_eq_self i s.txSessions).symm⟩
    unfold step
    simp only [enter, hout, hcode]
    split_ifs
    · exact ⟨rfl, hsame⟩
    · exact ⟨rfl, hsame⟩
    · exact ⟨rfl, code, rfl⟩
  | _ => trivial

theorem lifecycle_enter {env : Env}
    (hcallback : ∀ s completion, Lifecycle s → Lifecycle (env.callback s completion)) (s : S0)
    (call : Call) (hallowed : Undisturbed s call) (hinv : Lifecycle s) :
    Lifecycle (enter env s call) := by
  have hother : ∀ after, SameTransmit s after → Lifecycle after := fun after hsame ↦
    hinv.continues hsame.continues
  cases call with
  | init =>
    -- No session is in a slot, so that every accepted one is finished.
    have hnone : ∀ i serial, ¬ Holds s i serial := fun i _ hholds ↦ hholds.1 (hallowed.2 i)
    refine ⟨fun i hi ↦ absurd rfl hi, fun i _ ↦ ⟨fun _ ↦ rfl, fun hpos ↦ absurd rfl hpos⟩,
      fun _ ↦ Nat.zero_le _, fun i j hpos ↦ absurd rfl hpos, fun serial hpos hbound _ ↦
      ?_, hinv.fresh, hinv.client⟩
    exact hinv.finished serial hpos hbound fun i ↦ hnone i serial
  | setKey netkey =>
    exact hinv.continues ⟨rfl, rfl, fun _ ↦ rfl, fun _ ↦ rfl, fun _ ↦ rfl, fun _ ↦ rfl, fun _ ↦ rfl,
      fun _ _ ↦ ⟨rfl, rfl⟩⟩
  | sendData p data len user callback =>
    exact lifecycle_sec0SendData hcallback hallowed data len user callback hinv
  | nonceReport src dst nonce => exact lifecycle_sec0RegisterNonce hcallback src dst nonce hinv
  | rawCallback k status =>
    simp only [enter]
    split
    · exact hinv
    · refine lifecycle_rawCallback hcallback _ _ (hinv.continues ?_)
      exact ⟨rfl, rfl, fun _ ↦ rfl, fun _ ↦ rfl, fun _ ↦ rfl, fun _ ↦ rfl, fun _ ↦ rfl,
        fun _ _ ↦ ⟨rfl, rfl⟩⟩
  | txTimeout i =>
    simp only [enter]
    split_ifs with htimer
    · have hactive := hinv.active (Or.inr htimer)
      have hstopped : Continues s (s.modifySession i fun session ↦
          { session with timer := false }) :=
        continues_modifySession hactive rfl rfl rfl rfl
      exact lifecycle_txSessionFail hcallback (hinv.continues hstopped)
        ((hstopped.active i).mpr hactive)
    · exact hinv
  | abortAll => exact lifecycle_sec0AbortAllTxSessions hcallback hinv
  | nonceGet src => exact hother _ (sameTransmit_sec0SendNonce env src s)
  | decrypt snode dnode encData => exact hother _ (sameTransmit_sec0DecryptMessage env _ _ _ s)
  | nonceTick => exact hother _ ⟨rfl, rfl, rfl, rfl, rfl, rfl, log_extends_refl s⟩
  | wait ticks => exact hother _ ⟨rfl, rfl, rfl, rfl, rfl, rfl, log_extends_refl s⟩

theorem lifecycle_step (env : Env)
    (hcallback : ∀ s completion, Lifecycle s → Lifecycle (env.callback s completion)) (s : S0)
    (call : Call) (hallowed : Undisturbed s call) (hinv : Lifecycle s) :
    Lifecycle (step env s call) := by
  unfold step
  dsimp only
  split_ifs
  · exact hinv
  · exact hinv.continues ⟨rfl, rfl, fun _ ↦ rfl, fun _ ↦ rfl, fun _ ↦ rfl, fun _ ↦ rfl, fun _ ↦ rfl,
      fun _ _ ↦ ⟨rfl, rfl⟩⟩
  · exact lifecycle_enter hcallback s call hallowed hinv

theorem lifecycle_powerUp (prng : List Nonce) : Lifecycle (S0.powerUp prng) where
  running := fun _ hi ↦ absurd rfl hi
  retired := fun _ _ ↦ ⟨fun _ ↦ rfl, fun hpos ↦ absurd rfl hpos⟩
  bound := fun _ ↦ Nat.zero_le _
  distinct := fun _ _ hpos ↦ absurd rfl hpos
  finished := fun _ hpos hbound ↦ absurd (Nat.le_zero.mp hbound) hpos
  fresh := fun _ _ ↦ ⟨rfl, fun _ ↦ not_mem_nil⟩
  client := fun _ _ hmem ↦ absurd hmem not_mem_nil

/-- In every run in which no report finds a later session waiting for one of its own, an accepted
session with a callback is in a slot and owes the callback, or has ended, with the callback called
once, at the end; a slot is free exactly when the session that it last held, if any, has ended; and
no report of an earlier session moves a later one. -/
theorem sessions_told_once (env : Env) (hreacts : env.ReactsUnder Undisturbed) (prng : List Nonce)
    (calls : List Call) (hundisturbed : AllSteps (step env) Undisturbed (S0.powerUp prng) calls) :
    (∀ serial user, (serial, user) ∈ (run (step env) (S0.powerUp prng) calls).clients →
      (∃ i, Holds (run (step env) (S0.powerUp prng) calls) i serial) ∧
          fateOf serial (run (step env) (S0.powerUp prng) calls).log = [] ∨
        (∀ i, ¬ Holds (run (step env) (S0.powerUp prng) calls) i serial) ∧
          ∃ state status, fateOf serial (run (step env) (S0.powerUp prng) calls).log =
            [.told user status, .ended state]) ∧
      (∀ i, ((run (step env) (S0.powerUp prng) calls).txSessions i).param.dnode = 0 ↔
        ((run (step env) (S0.powerUp prng) calls).txSessions i).serial = 0 ∨
          fateOf ((run (step env) (S0.powerUp prng) calls).txSessions i).serial
            (run (step env) (S0.powerUp prng) calls).log ≠ []) ∧
      AllSteps (step env) (LaterUnmoved env) (S0.powerUp prng) calls := by
  have hinv : Lifecycle (run (step env) (S0.powerUp prng) calls) :=
    run_invariant_of_reactsUnder lifecycle_step hreacts (lifecycle_powerUp prng) hundisturbed
  refine ⟨fun serial user hclient ↦ ?_, fun i ↦ ?_, ?_⟩
  · generalize run (step env) (S0.powerUp prng) calls = s at hinv hclient ⊢
    exact hinv.told hclient
  · generalize run (step env) (S0.powerUp prng) calls = s at hinv ⊢
    exact hinv.free_iff i
  · exact allSteps_mono (laterUnmoved_of_undisturbed env) hundisturbed

/-- Session 1 is aborted while its nonce request is in flight, and session 2 takes its slot. The
request of session 2 is reported, then the one of session 1. -/
def reusedSlotCalls : List Call :=
  [.sendData ⟨1, 2, 0, 0, 0, 0, 0⟩ (fun _ ↦ 0x20) 3 7 true, .abortAll,
    .sendData ⟨1, 3, 0, 0, 0, 0, 0⟩ (fun _ ↦ 0x20) 3 8 true, .rawCallback 1 transmitCompleteOk,
    .rawCallback 0 transmitCompleteFail]

/-- The report of session 1 comes when session 2 has gone on to wait for a nonce: session 1 was told
once that it failed, and session 2 is still in the slot. -/
theorem sessions_told_once_reusedSlot :
    (fateOf 1 (run (step sampleEnv) (S0.powerUp []) reusedSlotCalls).log =
        [.told 7 transmitCompleteFail, .ended .txFail] ∧
      ((run (step sampleEnv) (S0.powerUp []) reusedSlotCalls).txSessions 0).state = .nonceGetSent) ∧
      AllSteps (step sampleEnv) (LaterUnmoved sampleEnv) (S0.powerUp []) reusedSlotCalls := by
  refine ⟨⟨by decide +kernel, by decide +kernel⟩, ?_⟩
  refine (sessions_told_once sampleEnv (sampleEnv_reactsUnder _) [] reusedSlotCalls ?_).2.2
  simp only [reusedSlotCalls, allSteps_cons, allSteps_nil, and_true]
  refine ⟨(by decide : (2 : UInt16) ≠ 0), trivial, (by decide : (3 : UInt16) ≠ 0),
    fun i kind serial hout hlater ↦ ?_, fun i kind serial hout hlater ↦ ?_⟩
  · -- The report of session 2 itself.
    have hown : (i, kind, serial) = (0, .nonceGet, 2) := by
      rw [← Option.some.injEq, ← hout]
      decide +kernel
    obtain ⟨rfl, rfl, rfl⟩ : i = 0 ∧ kind = .nonceGet ∧ serial = 2 := by simpa using hown
    exact absurd (by decide +kernel) hlater.2
  · have hstale : (i, kind, serial) = (0, .nonceGet, 1) := by
      rw [← Option.some.injEq, ← hout]
      decide +kernel
    obtain ⟨rfl, rfl, rfl⟩ : i = 0 ∧ kind = .nonceGet ∧ serial = 1 := by simpa using hstale
    decide +kernel

/-- The report of the nonce request of session 1 comes while session 2, in the same slot, waits for
the one of its own request, and ends session 2. -/
theorem later_session_ended_by_report :
    ¬ ∀ (env : Env), env.Reacts → ∀ (prng : List Nonce) (calls : List Call),
      (∀ p data len user callback, .sendData p data len user callback ∈ calls → p.dnode ≠ 0) →
      .init ∉ calls → AllSteps (step env) (LaterUnmoved env) (S0.powerUp prng) calls := by
  intro hclaim
  have hsteps := hclaim sampleEnv sampleEnv_reacts []
    [.sendData ⟨1, 2, 0, 0, 0, 0, 0⟩ (fun _ ↦ 0x20) 3 7 true, .abortAll,
      .sendData ⟨1, 3, 0, 0, 0, 0, 0⟩ (fun _ ↦ 0x20) 3 8 true,
      .rawCallback 0 transmitCompleteFail] (fun p _ _ _ _ hmem ↦ ?_) (by simp)
  · simp only [allSteps_cons, allSteps_nil, and_true] at hsteps
    obtain ⟨-, code, hslots⟩ := hsteps.2.2.2 0 .nonceGet 1 (by decide +kernel)
      ⟨by decide +kernel, by decide +kernel⟩
    have hstate := congrArg (fun slots ↦ (slots 0).state) hslots
    rw [update_self] at hstate
    dsimp only at hstate
    exact absurd hstate (by decide +kernel)
  · simp only [mem_cons, Call.sendData.injEq, reduceCtorEq, not_mem_nil, or_false,
      false_or] at hmem
    rcases hmem with ⟨rfl, -⟩ | ⟨rfl, -⟩
    · decide
    · decide

end ZipGateway.Scheme0
