import ZipGateway.SendDataAppl.Ownership

/-!
# Aborting a session that waits

`ZW_SendDataApplAbort` takes a session out of the application queue, unless its block is
`current_session`: then it aborts what is being sent. But `current_session` is not cleared when the
session is done, and stays until the next session is sent, so that a new session may have got the
block. An abort of that session leaves it in the queue and aborts the transmission that is in
progress for others. For all other sessions that wait the abort does what it should
(`abort_waiting`).
-/

set_option autoImplicit false

namespace ZipGateway.SendDataAppl

open Lib Contiki List

/-! ### Sessions that were handed over -/

def Act.completes : Act → Prop
  | .completed _ _ => True
  | _ => False

/-- No session that waits was handed over. -/
structure WaitingOk (s : SendQueues) : Prop where
  serials : SerialsOk s
  bound : ∀ serial, .handed serial ∈ s.log → serial ≤ s.lastSerial
  waiting : ∀ i ∈ s.sessionList, .handed (s.blocks i).serial ∉ s.log

/-- Session `serial` is not in the application queue, and was not handed over. -/
structure Gone (serial : ℕ) (s : SendQueues) : Prop where
  bound : serial ≤ s.lastSerial
  absent : ∀ i ∈ s.sessionList, (s.blocks i).serial ≠ serial
  unhanded : .handed serial ∉ s.log

section Handed

variable {s t : SendQueues} {config : Config} {serial : ℕ}

theorem Settles.handed (hsettles : Settles Act.completes s t) (hmem : .handed serial ∈ t.log) :
    .handed serial ∈ s.log := by
  rcases hsettles.log _ hmem with hmem | hplain | hcompletes
  · exact hmem
  · exact absurd hplain (by simp [Act.plain])
  · exact hcompletes.elim

theorem step_completes (s : SendQueues) (input : Input) :
    Changes Act.completes s (step config s input) :=
  step_changes s input (fun _ ↦ trivial) (fun _ ↦ trivial) (fun _ ↦ trivial)
    fun _ _ _ _ _ _ _ _ _ _ ↦ trivial

theorem waitingOk_powerUp : WaitingOk SendQueues.powerUp := by
  refine ⟨serialsOk_powerUp, ?_, ?_⟩ <;> simp [SendQueues.powerUp]

theorem WaitingOk.settles (hwaiting : WaitingOk s) (hsettles : Settles Act.completes s t) :
    WaitingOk t where
  serials := hwaiting.serials.settles hsettles.weaken
  bound serial hmem := by
    rw [hsettles.lastSerial]
    exact hwaiting.bound serial (hsettles.handed hmem)
  waiting i hi hmem := by
    rw [hsettles.serial] at hmem
    exact hwaiting.waiting i (hsettles.sessionList.subset hi) (hsettles.handed hmem)

theorem WaitingOk.allocate (hwaiting : WaitingOk s) (i : Fin numSessions) :
    WaitingOk (s.allocate i) where
  serials := hwaiting.serials.allocate i
  bound serial hmem := (hwaiting.bound serial hmem).trans (Nat.le_succ _)
  waiting j hj hmem := by
    by_cases hji : j = i
    · rw [hji, allocate_serial] at hmem
      exact absurd (hwaiting.bound _ hmem) (Nat.not_succ_le_self _)
    · rw [allocate_serial_of_ne s hji] at hmem
      exact hwaiting.waiting j hj hmem

/-- A block that was just allocated was not handed over. -/
theorem WaitingOk.newest (hwaiting : WaitingOk s) {i : Fin numSessions}
    (hsettles : Settles Act.completes (s.allocate i) t) : .handed (t.blocks i).serial ∉ t.log := by
  intro hmem
  rw [hsettles.serial, allocate_serial] at hmem
  exact absurd (hwaiting.bound _ (hsettles.handed hmem)) (Nat.not_succ_le_self _)

theorem WaitingOk.change (hwaiting : WaitingOk s) (hchange : Change Act.completes s t) :
    WaitingOk t := by
  have hserials := hwaiting.serials
  have hserials' := hserials.change hchange
  cases hchange with
  | settles hsettles => exact hwaiting.settles hsettles
  | allocate i => exact hwaiting.allocate i
  | addSession i hsettles =>
    have hfilled := (hwaiting.allocate i).settles hsettles
    refine ⟨hserials', hfilled.bound, fun j hj ↦ ?_⟩
    have hnew := hwaiting.newest hsettles
    rcases mem_listAdd.mp hj with rfl | hj
    · exact hnew
    · exact hfilled.waiting j hj
  | addSendData i hsettles =>
    have hfilled := (hwaiting.allocate i).settles hsettles
    exact ⟨hserials', hfilled.bound, hfilled.waiting⟩
  | hand i rest hlist =>
    have hnodup := hserials.nodup
    rw [hlist] at hnodup
    refine ⟨hserials', fun serial hmem ↦ ?_, fun j hj hmem ↦ ?_⟩
    · rcases mem_cons.mp hmem with heq | hmem
      · obtain rfl := Act.handed.inj heq
        exact hserials.bound i
      · exact hwaiting.bound serial hmem
    · have hlisted : j ∈ s.sessionList := hlist ▸ mem_cons_of_mem i hj
      rcases mem_cons.mp hmem with heq | hmem
      · have hji := hserials.distinct j i (hserials.listed j (Or.inl hlisted)) (Act.handed.inj heq)
        exact (nodup_cons.mp hnodup).1 (hji ▸ hj)
      · exact hwaiting.waiting j hlisted hmem
  | init => exact ⟨hserials', hwaiting.bound, fun i hi ↦ absurd hi (by simp [zwSendDataApplInit])⟩

theorem waiting_run (config : Config) (inputs : List Input) :
    WaitingOk (run (step config) .powerUp inputs) := by
  refine run_invariant (fun state input hstate ↦ ?_) waitingOk_powerUp inputs
  exact Changes.invariant (fun hstate hchange ↦ hstate.change hchange)
    (step_completes state input) hstate

/-- In every run, whatever reports come and how late, the application queue has each session once,
under a number of its own, and no session that waits in it was handed over before. -/
theorem waiting_sessions_kept (config : Config) (inputs : List Input) :
    let s := run (step config) .powerUp inputs
    s.sessionList.Nodup ∧ ∀ i ∈ s.sessionList, .handed (s.blocks i).serial ∉ s.log ∧
      ∀ j, (s.blocks i).serial = (s.blocks j).serial → i = j := by
  obtain ⟨hserials, -, hwaiting⟩ := waiting_run config inputs
  exact ⟨hserials.nodup,
    fun i hi ↦ ⟨hwaiting i hi, fun j ↦ hserials.distinct i j (hserials.listed i (.inl hi))⟩⟩

theorem Gone.settles (hgone : Gone serial s) (hsettles : Settles Act.completes s t) :
    Gone serial t where
  bound := hsettles.lastSerial ▸ hgone.bound
  absent i hi := by
    rw [hsettles.serial]
    exact hgone.absent i (hsettles.sessionList.subset hi)
  unhanded hmem := hgone.unhanded (hsettles.handed hmem)

theorem Gone.allocate (hgone : Gone serial s) (i : Fin numSessions) :
    Gone serial (s.allocate i) where
  bound := hgone.bound.trans (Nat.le_succ _)
  absent j hj := by
    by_cases hji : j = i
    · rw [hji, allocate_serial]
      exact (Nat.lt_succ_of_le hgone.bound).ne'
    · rw [allocate_serial_of_ne s hji]
      exact hgone.absent j hj
  unhanded := hgone.unhanded

theorem Gone.change (hgone : Gone serial s) (hchange : Change Act.completes s t) :
    Gone serial t := by
  cases hchange with
  | settles hsettles => exact hgone.settles hsettles
  | allocate i => exact hgone.allocate i
  | addSession i hsettles =>
    have hfilled := (hgone.allocate i).settles hsettles
    refine ⟨hfilled.bound, fun j hj ↦ ?_, hfilled.unhanded⟩
    have hnew := (hsettles.serial i).trans (allocate_serial s i)
    rcases mem_listAdd.mp hj with rfl | hj
    · exact hnew.trans_ne (Nat.lt_succ_of_le hgone.bound).ne'
    · exact hfilled.absent j hj
  | addSendData i hsettles =>
    have hfilled := (hgone.allocate i).settles hsettles
    exact ⟨hfilled.bound, hfilled.absent, hfilled.unhanded⟩
  | hand i rest hlist =>
    refine ⟨hgone.bound, fun j hj ↦ hgone.absent j (hlist ▸ mem_cons_of_mem i hj), fun hmem ↦ ?_⟩
    rcases mem_cons.mp hmem with heq | hmem
    · exact hgone.absent i (hlist ▸ mem_cons_self) (Act.handed.inj heq).symm
    · exact hgone.unhanded hmem
  | init => exact ⟨hgone.bound, fun i hi ↦ absurd hi (by simp [zwSendDataApplInit]), hgone.unhanded⟩

/-- A session that is gone is never handed over. -/
theorem Gone.after_run (hgone : Gone serial s) (inputs : List Input) :
    Gone serial (run (step config) s inputs) := by
  refine run_invariant (fun state input hstate ↦ ?_) hgone inputs
  exact Changes.invariant (fun hstate hchange ↦ hstate.change hchange)
    (step_completes state input) hstate

end Handed

/-! ### The abort -/

/-- The act is the call of a callback. -/
def Act.isTold : Act → Bool
  | .told _ _ _ => true
  | _ => false

/-- The callback of the session that waits in block `i` is called with `TRANSMIT_COMPLETE_FAIL`, if
it has one. -/
def toldFail (s : SendQueues) (i : Fin numSessions) : List Act :=
  if (s.blocks i).callback = .null then []
  else [.told (s.blocks i).serial (s.blocks i).callback transmitCompleteFail]

/-- What an abort of the session that waits in block `i` has to do. -/
structure AbortOk (config : Config) (s : SendQueues) (i : Fin numSessions) : Prop where
  /-- The session, and no other one, is taken out of the queue. -/
  removed : (step config s (.abort (handle i))).sessionList = listRemove s.sessionList i
  /-- Its callback, and no other one, is called once. -/
  told : (step config s (.abort (handle i))).log.filter Act.isTold =
    toldFail s i ++ s.log.filter Act.isTold
  /-- Its frame is never sent. -/
  unsent : ∀ later : List Input, .handed (s.blocks i).serial ∉
    (run (step config) (step config s (.abort (handle i))) later).log
  /-- What is in progress goes on. -/
  progress : (step config s (.abort (handle i))).currentSession = s.currentSession ∧
    (step config s (.abort (handle i))).lock = s.lock ∧
    (step config s (.abort (handle i))).sendDataList = s.sendDataList ∧
    (step config s (.abort (handle i))).lockLl = s.lockLl ∧
    (step config s (.abort (handle i))).pending = s.pending ∧
    (step config s (.abort (handle i))).raw = s.raw ∧
    (step config s (.abort (handle i))).frames = s.frames ∧
    (∀ j, j ≠ i → (step config s (.abort (handle i))).blocks j = s.blocks j ∧
      (step config s (.abort (handle i))).used j = s.used j) ∧
    (step config s (.abort (handle i))).log.count .abortedRaw = s.log.count .abortedRaw

section Abort

variable {s : SendQueues} {config : Config} {i : Fin numSessions}

theorem step_abort (config : Config) (s : SendQueues) (i : Fin numSessions) :
    step config s (.abort (handle i)) = abortBlock config i s := by
  have htoNat : (handle i).toNat = i + 1 := by
    unfold handle
    have hi : (i : ℕ) < 8 := i.isLt
    rw [UInt8.toNat_ofNat', Nat.mod_eq_of_lt (by omega)]
  have hbound : (handle i).toNat ≠ 0 ∧ (handle i).toNat - 1 < numSessions := by
    rw [htoNat]
    exact ⟨Nat.succ_ne_zero _, i.isLt⟩
  have hindex : (⟨(handle i).toNat - 1, hbound.2⟩ : Fin numSessions) = i := by
    ext
    change (handle i).toNat - 1 = i
    rw [htoNat, Nat.add_sub_cancel]
  change zwSendDataApplAbort config (handle i) s = _
  unfold zwSendDataApplAbort
  rw [dif_pos hbound, hindex]

/-- A session that waits, in a block that is not `current_session`, is taken out, freed and told. -/
theorem abortBlock_waiting (hinv : Inv s) (hwaits : i ∈ s.sessionList)
    (hcurrent : s.currentSession ≠ some i) : abortBlock config i s =
      (SendQueues.free { s with sessionList := listRemove s.sessionList i } i).tell i
        transmitCompleteFail := by
  unfold abortBlock
  rw [if_neg hcurrent, if_pos hwaits]
  have hexternal := hinv.queues.external i hwaits
  unfold runCallback
  split
  case h_1 j hcallback =>
    change (s.blocks i).callback = _ at hcallback
    rw [hcallback] at hexternal
    exact absurd hexternal (by simp [Callback.session])
  case h_2 => rfl

theorem tell_fail (s : SendQueues) (i : Fin numSessions) :
    s.tell i transmitCompleteFail = { s with log := toldFail s i ++ s.log } := by
  unfold SendQueues.tell toldFail
  split_ifs
  · rfl
  · rfl

theorem tell_sessionList (s : SendQueues) (status : UInt8) :
    (s.tell i status).sessionList = s.sessionList := by
  unfold SendQueues.tell
  split_ifs <;> rfl

theorem callbackEx_sessionList (s : SendQueues) (status : UInt8) (ts : Bool) :
    (zwSendDataApplCallbackEx config status ts i s).sessionList = s.sessionList := by
  unfold zwSendDataApplCallbackEx
  by_cases hlock : (!s.lock) = true
  · rw [if_pos hlock]
  · rw [if_neg hlock]
    dsimp only
    rw [tell_sessionList]
    change (resetSpan i status _).sessionList = s.sessionList
    unfold resetSpan
    split_ifs
    · rfl
    · rfl

/-- The abort of a block that is `current_session` leaves the application queue as it is. -/
theorem abortBlock_current (hcurrent : s.currentSession = some i) :
    (abortBlock config i s).sessionList = s.sessionList := by
  unfold abortBlock abortS0
  rw [if_pos hcurrent]
  split
  · rfl
  · rw [callbackEx_sessionList]

/-- In every state that is reached when the S2 layer reports in time, the abort of a session that
waits does what it has to do if and only if the block of the session is not `current_session`. -/
theorem abort_waiting (config : Config) (inputs : List Input)
    (hinTime : AllSteps (step config) InTime .powerUp inputs) (i : Fin numSessions)
    (hwaits : i ∈ (run (step config) .powerUp inputs).sessionList) :
    AbortOk config (run (step config) .powerUp inputs) i ↔
      (run (step config) .powerUp inputs).currentSession ≠ some i := by
  have hinv := inv_run hinTime
  have hwaiting := waiting_run config inputs
  generalize run (step config) .powerUp inputs = s at *
  have hserials := hwaiting.serials
  constructor
  · -- The session stays in the queue.
    intro hok hcurrent
    have hstays := hok.removed
    rw [step_abort, abortBlock_current hcurrent] at hstays
    rw [hstays] at hwaits
    exact ((mem_listRemove hserials.nodup).mp hwaits).1 rfl
  · intro hcurrent
    have hstate : step config s (.abort (handle i)) =
        { SendQueues.free { s with sessionList := listRemove s.sessionList i } i with
          log := toldFail s i ++ .freed (s.blocks i).serial (s.used i)
            (i ∈ listRemove s.sessionList i ∨ i ∈ s.sendDataList) :: s.log } := by
      rw [step_abort, abortBlock_waiting hinv hwaits hcurrent, tell_fail]
      rfl
    have htold : (toldFail s i).filter Act.isTold = toldFail s i ∧
        (toldFail s i).count .abortedRaw = 0 ∧ .handed (s.blocks i).serial ∉ toldFail s i := by
      unfold toldFail
      split_ifs
      · exact ⟨rfl, rfl, by simp⟩
      · exact ⟨rfl, rfl, by simp⟩
    have hgone : Gone (s.blocks i).serial (step config s (.abort (handle i))) := by
      rw [hstate]
      refine ⟨hserials.bound i, fun j hj heq ↦ ?_, fun hhanded ↦ ?_⟩
      · obtain ⟨hji, hlisted⟩ := (mem_listRemove hserials.nodup).mp hj
        exact hji (hserials.distinct j i (hserials.listed j (Or.inl hlisted)) heq)
      · rcases mem_append.mp hhanded with hnew | hold
        · exact htold.2.2 hnew
        · rcases mem_cons.mp hold with heq | hold
          · exact absurd heq (by simp)
          · exact hwaiting.waiting i hwaits hold
    refine ⟨?_, ?_, fun later hhanded ↦ (hgone.after_run later).unhanded hhanded, ?_⟩
    · rw [hstate]
      rfl
    · rw [hstate, filter_append, htold.1, filter_cons_of_neg (by simp [Act.isTold])]
    · rw [hstate, count_append, htold.2.1, count_cons_of_ne (by simp), Nat.zero_add]
      exact ⟨rfl, rfl, rfl, rfl, rfl, rfl, rfl, fun j hji ↦ ⟨rfl, membFree_of_ne s.used hji⟩, rfl⟩

end Abort

/-! ### A block that is used again -/

/-- One session is done, another one is sent, and a third one waits. -/
def abortThird : List Input :=
  [sampleSend 1, .sendNext (.secure .s2), .securityDone 0 transmitCompleteOk true, sampleSend 2,
    .sendNext (.secure .s2), sampleSend 3]

theorem abort_waiting_abortThird :
    (run (step sampleConfig) .powerUp abortThird).sessionList = [1] ∧
      AbortOk sampleConfig (run (step sampleConfig) .powerUp abortThird) 1 := by
  refine ⟨by decide +kernel, (abort_waiting sampleConfig abortThird ?_ 1 (by decide +kernel)).mpr
    (by decide +kernel)⟩
  refine ⟨trivial, trivial, fun token htoken ↦ Or.inl ?_, trivial, trivial, trivial, trivial⟩
  have hown : some token = some ⟨0, .s2, 0⟩ := by
    rw [← htoken]
    decide +kernel
  rw [Option.some.inj hown]
  decide +kernel

/-- Session 2 waits in the block of session 1, which is done. Its abort leaves it in the queue. -/
theorem abort_leaves_session :
    ¬ ∀ (config : Config) (inputs : List Input) (i : Fin numSessions),
      i ∈ (run (step config) .powerUp inputs).sessionList →
        AbortOk config (run (step config) .powerUp inputs) i := by
  intro hclaim
  have hremoved := (hclaim sampleConfig
    [sampleSend 1, .sendNext (.secure .s2), .securityDone 0 transmitCompleteOk true, sampleSend 2] 0
    (by decide +kernel)).removed
  exact absurd hremoved (by decide +kernel)

end ZipGateway.SendDataAppl
