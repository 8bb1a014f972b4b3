import ZipGateway.SendDataAppl.Model

/-!
# What the send queues leave alone

Every function of the module but `ZW_SendDataAppl`, `send_data`, `send_first` and
`ZW_SendDataAppl_init` only takes sessions out: it `Settles`, that is the serial numbers of the
blocks stay, nothing is allocated, both queues become sublists of what they were, and no session is
handed over. `Change` adds what the other four do, and `step_changes` says that a step is made of
changes. It follows that serial numbers name sessions: no two blocks have the same one
(`SerialsOk`), in every run, also in those that break the bookkeeping.
-/

set_option autoImplicit false

namespace ZipGateway.SendDataAppl

open Lib Contiki List

/-! ### Settling sessions -/

/-- The act is neither a hand-over nor a completion. -/
def Act.plain : Act → Bool
  | .handed _ => false
  | .completed _ _ => false
  | _ => true

/-- Sessions are taken out; the log gets plain acts, and those of `extra`. -/
structure Settles (extra : Act → Prop) (s t : SendQueues) : Prop where
  serial : ∀ i, (t.blocks i).serial = (s.blocks i).serial
  lastSerial : t.lastSerial = s.lastSerial
  used : ∀ i, t.used i = true → s.used i = true
  sessionList : t.sessionList.Sublist s.sessionList
  sendDataList : t.sendDataList.Sublist s.sendDataList
  log : ∀ act ∈ t.log, act ∈ s.log ∨ act.plain = true ∨ extra act

section Settling

variable {extra : Act → Prop} {s t u : SendQueues} {config : Config} {i : Fin numSessions}
  {status : UInt8} {ts : Bool}

/-- What is done to the other fields does not matter. -/
theorem settles_of_fields (hblocks : t.blocks = s.blocks)
    (hlastSerial : t.lastSerial = s.lastSerial)
    (hused : t.used = s.used) (hsessionList : t.sessionList.Sublist s.sessionList)
    (hsendDataList : t.sendDataList.Sublist s.sendDataList)
    (hlog : ∀ act ∈ t.log, act ∈ s.log ∨ act.plain = true ∨ extra act) : Settles extra s t :=
  ⟨fun i ↦ by rw [hblocks], hlastSerial, fun _ hi ↦ hused ▸ hi, hsessionList, hsendDataList, hlog⟩

/-- Nothing happens to the blocks, the queues and the log. -/
theorem settles_of_same (hblocks : t.blocks = s.blocks) (hlastSerial : t.lastSerial = s.lastSerial)
    (hused : t.used = s.used) (hsessionList : t.sessionList = s.sessionList)
    (hsendDataList : t.sendDataList = s.sendDataList) (hlog : t.log = s.log) : Settles extra s t :=
  settles_of_fields hblocks hlastSerial hused (hsessionList ▸ List.Sublist.refl _)
    (hsendDataList ▸ List.Sublist.refl _) fun _ hact ↦ Or.inl (hlog ▸ hact)

theorem Settles.refl (s : SendQueues) : Settles extra s s :=
  settles_of_same rfl rfl rfl rfl rfl rfl

theorem Settles.trans (hfirst : Settles extra s t) (hsecond : Settles extra t u) :
    Settles extra s u where
  serial i := (hsecond.serial i).trans (hfirst.serial i)
  lastSerial := hsecond.lastSerial.trans hfirst.lastSerial
  used i hi := hfirst.used i (hsecond.used i hi)
  sessionList := hsecond.sessionList.trans hfirst.sessionList
  sendDataList := hsecond.sendDataList.trans hfirst.sendDataList
  log act hact := by
    rcases hsecond.log act hact with hact | hact
    · exact hfirst.log act hact
    · exact Or.inr hact

/-- What the log gets does not matter. -/
theorem Settles.weaken (hsettles : Settles extra s t) : Settles (fun _ ↦ True) s t :=
  ⟨hsettles.serial, hsettles.lastSerial, hsettles.used, hsettles.sessionList, hsettles.sendDataList,
    fun _ _ ↦ Or.inr (Or.inr trivial)⟩

/-- An act is logged. -/
theorem settles_log {act : Act} (hact : act.plain = true ∨ extra act) :
    Settles extra s { s with log := act :: s.log } := by
  refine settles_of_fields rfl rfl rfl (List.Sublist.refl _)
    (List.Sublist.refl _) fun other hother ↦ ?_
  rcases mem_cons.mp hother with rfl | hother
  · exact Or.inr hact
  · exact Or.inl hother

theorem settles_modify {f : Session → Session}
    (hserial : (f (s.blocks i)).serial = (s.blocks i).serial) :
    Settles extra s (s.modify i f) := by
  refine ⟨fun j ↦ ?_, rfl, fun _ hj ↦ hj, List.Sublist.refl _, List.Sublist.refl _,
    fun _ hact ↦ Or.inl hact⟩
  by_cases hj : j = i
  · subst hj
    simpa [SendQueues.modify] using hserial
  · simp [SendQueues.modify, Function.update_of_ne hj]

theorem settles_free (s : SendQueues) (i : Fin numSessions) : Settles extra s (s.free i) := by
  have hlog : Settles extra s { s with
      log := .freed (s.blocks i).serial (s.used i) (i ∈ s.sessionList ∨ i ∈ s.sendDataList) ::
        s.log } :=
    settles_log (Or.inl rfl)
  refine ⟨fun _ ↦ rfl, rfl, fun j hj ↦ ?_, List.Sublist.refl _, List.Sublist.refl _, hlog.log⟩
  by_cases hji : j = i
  · subst hji
    simp [SendQueues.free] at hj
  · simpa [SendQueues.free, hji] using hj

theorem settles_tell (s : SendQueues) (i : Fin numSessions) (status : UInt8) :
    Settles extra s (s.tell i status) := by
  unfold SendQueues.tell
  split_ifs
  · exact Settles.refl s
  · exact settles_log (Or.inl rfl)

theorem settles_resetSpan (s : SendQueues) : Settles extra s (resetSpan i status s) := by
  unfold resetSpan
  split_ifs
  · exact Settles.trans (t := s.modify i fun session ↦ { session with resetSpan := false })
      (settles_modify rfl) (settles_log (Or.inl rfl))
  · exact Settles.refl s

theorem settles_callbackEx (s : SendQueues) :
    Settles extra s (zwSendDataApplCallbackEx config status ts i s) := by
  unfold zwSendDataApplCallbackEx
  by_cases hlock : (!s.lock) = true
  · rw [if_pos hlock]
    exact Settles.refl s
  · rw [if_neg hlock]
    refine Settles.trans ?_ ((settles_resetSpan _).trans
      ((settles_free _ i).trans (settles_tell _ i status)))
    exact settles_of_same rfl rfl rfl rfl rfl rfl

theorem settles_runCallback (s : SendQueues) :
    Settles extra s (runCallback config i status ts s) := by
  unfold runCallback
  split
  · exact (settles_tell s i status).trans (settles_callbackEx _)
  · exact settles_tell s i status

theorem settles_doDiscardTimeoutMemb (s : SendQueues) :
    Settles extra s (doDiscardTimeoutMemb config i s) := by
  have hremove : Settles extra s { s with sendDataList := listRemove s.sendDataList i } :=
    settles_of_fields rfl rfl rfl (List.Sublist.refl _) erase_sublist
      fun _ hact ↦ Or.inl hact
  exact hremove.trans ((settles_free _ i).trans (settles_runCallback _))

/-- The first session of the low-level queue is completed. -/
theorem settles_sendDataCallbackFunc {cause : Cause} (s : SendQueues)
    (hextra : ∀ i, s.lockLl = true → s.sendDataList.head? = some i →
      extra (.completed (s.blocks i).serial cause)) :
    Settles extra s (sendDataCallbackFunc config cause status ts s) := by
  have hpop : ∀ {i : Fin numSessions} {rest : List (Fin numSessions)} {frames : List Frame}
      {resendCounter : UInt8}, s.lockLl = true → s.sendDataList = i :: rest →
        Settles extra s { s with
        sendDataList := rest
        resendCounter := resendCounter
        frames := frames
        log := .completed (s.blocks i).serial cause :: s.log } := by
    intro i rest frames resendCounter hlock hlist
    have hcompleted := hextra i hlock (by rw [hlist]; rfl)
    refine settles_of_fields rfl rfl rfl (List.Sublist.refl _) ?_
      (settles_log (Or.inr hcompleted)).log
    rw [hlist]
    exact sublist_cons_self i rest
  unfold sendDataCallbackFunc
  by_cases hlock : s.lockLl = true
  · rw [if_neg (by simp [hlock])]
    by_cases hfail : status = transmitCompleteFail
    · rw [if_pos hfail]
      by_cases hcounter : s.resendCounter = 0
      · rw [if_pos hcounter]
        split
        case h_1 hlist => exact settles_of_same rfl rfl rfl rfl rfl rfl
        case h_2 i rest hlist => exact (hpop hlock hlist).trans (settles_runCallback _)
      · rw [if_neg hcounter]
        exact settles_of_same rfl rfl rfl rfl rfl rfl
    · rw [if_neg hfail]
      split
      case h_1 hlist => exact Settles.refl s
      case h_2 i rest hlist =>
        exact (hpop hlock hlist).trans ((settles_free _ i).trans (settles_runCallback _))
  · rw [if_pos (by simpa using hlock)]
    exact Settles.refl s

theorem settles_abortS0 (s : SendQueues) : Settles extra s (abortS0 config s) := by
  unfold abortS0
  split
  · exact Settles.refl s
  · refine Settles.trans ?_ (settles_callbackEx _)
    exact settles_of_same rfl rfl rfl rfl rfl rfl

theorem settles_abortBlock (s : SendQueues) : Settles extra s (abortBlock config i s) := by
  unfold abortBlock
  split_ifs
  · exact (settles_log (Or.inl rfl)).trans (settles_abortS0 _)
  · have hremove : Settles extra s { s with sessionList := listRemove s.sessionList i } :=
      settles_of_fields rfl rfl rfl erase_sublist (List.Sublist.refl _)
        fun _ hact ↦ Or.inl hact
    exact hremove.trans ((settles_free _ i).trans (settles_runCallback _))
  · exact Settles.refl s

theorem settles_zwSendDataApplAbort {handle : UInt8} (s : SendQueues) :
    Settles extra s (zwSendDataApplAbort config handle s) := by
  unfold zwSendDataApplAbort
  split_ifs
  · exact settles_abortBlock s
  · exact Settles.refl s

theorem settles_rawReturned {rc : Bool} (s : SendQueues)
    (hextra : ∀ i, s.lockLl = true → s.sendDataList.head? = some i →
      extra (.completed (s.blocks i).serial .refused)) :
    Settles extra s (rawReturned config rc s) := by
  unfold rawReturned
  split_ifs
  · exact Settles.refl s
  · exact settles_sendDataCallbackFunc s hextra

theorem settles_sendNextLl {outcome : RawOutcome} (s : SendQueues)
    (hrefused : ∀ serial, extra (.completed serial .refused))
    (hown : ∀ serial, extra (.completed serial (.report serial))) :
    Settles extra s (sendNextLl config outcome s) := by
  unfold sendNextLl
  split
  case h_1 => exact settles_of_same rfl rfl rfl rfl rfl rfl
  case h_2 i rest hlist =>
    have hsent : Settles extra s (s.modify i (Session.sent config)) := settles_modify rfl
    split_ifs
    · exact settles_of_same rfl rfl rfl rfl rfl rfl
    · cases outcome with
      | taken => exact hsent.trans (settles_of_same rfl rfl rfl rfl rfl rfl)
      | refused =>
        refine hsent.trans (Settles.trans ?_ (settles_rawReturned _ fun _ _ _ ↦ hrefused _))
        exact settles_of_same rfl rfl rfl rfl rfl rfl
      | reported status ts rc =>
        refine hsent.trans (Settles.trans ?_ (settles_sendDataCallbackFunc _ fun j _ hhead ↦ ?_))
        · exact settles_of_same rfl rfl rfl rfl rfl rfl
        · -- The frame that the transport service reports at once is the first one.
          have hji : i = j := by
            change s.sendDataList.head? = some j at hhead
            rw [hlist] at hhead
            exact Option.some.inj hhead
          subst hji
          change extra (.completed ((s.modify i (Session.sent config)).blocks i).serial
            (.report (s.blocks i).serial))
          rw [hsent.serial]
          exact hown _

theorem settles_returnStep (s : SendQueues)
    (hrefused : ∀ serial, extra (.completed serial .refused)) :
    Settles extra s (returnStep config s) := by
  unfold returnStep
  split
  · exact Settles.refl s
  · exact settles_of_same rfl rfl rfl rfl rfl rfl
  · exact (settles_free s _).trans (settles_of_same rfl rfl rfl rfl rfl rfl)
  · refine Settles.trans ?_ (settles_abortS0 _)
    exact settles_of_same rfl rfl rfl rfl rfl rfl
  · refine Settles.trans ?_ (settles_rawReturned _ fun _ _ _ ↦ hrefused _)
    exact settles_of_same rfl rfl rfl rfl rfl rfl

end Settling

/-! ### What a step can do -/

/-- What a step is made of. -/
inductive Change (extra : Act → Prop) (s : SendQueues) : SendQueues → Prop
  | settles {t : SendQueues} : Settles extra s t → Change extra s t
  | allocate (i : Fin numSessions) : Change extra s (s.allocate i)
  /-- A block is allocated, and becomes a session of the application queue. -/
  | addSession (i : Fin numSessions) {t : SendQueues} : Settles extra (s.allocate i) t →
      Change extra s { t with sessionList := listAdd t.sessionList i }
  /-- A block is allocated, and becomes a session of the low-level queue. -/
  | addSendData (i : Fin numSessions) {t : SendQueues} : Settles extra (s.allocate i) t →
      Change extra s { t with sendDataList := listAdd t.sendDataList i }
  | hand (i : Fin numSessions) (rest : List (Fin numSessions)) : s.sessionList = i :: rest →
      Change extra s { s with
        sessionList := rest
        currentSession := some i
        lock := true
        log := .handed (s.blocks i).serial :: s.log }
  | init : Change extra s (zwSendDataApplInit s)

/-- A sequence of changes. -/
abbrev Changes (extra : Act → Prop) : SendQueues → SendQueues → Prop :=
  Relation.ReflTransGen (Change extra)

section Changes

variable {extra : Act → Prop} {s t : SendQueues} {config : Config}

/-- What every change keeps is kept by a sequence of changes. -/
theorem Changes.invariant {property : SendQueues → Prop}
    (hchange : ∀ {s t}, property s → Change extra s t → property t) (hchanges : Changes extra s t)
    (hstart : property s) : property t := by
  induction hchanges with
  | refl => exact hstart
  | tail _ hlast ih => exact hchange ih hlast

theorem Settles.changes (hsettles : Settles extra s t) : Changes extra s t :=
  .single (.settles hsettles)

theorem allocate_serial (s : SendQueues) (i : Fin numSessions) :
    ((s.allocate i).blocks i).serial = s.lastSerial + 1 := by
  simp [SendQueues.allocate, SendQueues.modify]

theorem sendData_changes (p : TsParam) (discardTimeout : Bool) (data : List UInt8) (cb : Callback)
    (fb : Bool) (s : SendQueues) : Changes extra s (sendData p discardTimeout data cb fb s).1 := by
  unfold sendData
  split
  case h_1 => exact .refl
  case h_2 i halloc =>
    dsimp only
    split_ifs
    · exact .single (.allocate i)
    · exact .single (.addSendData i (settles_modify rfl))

theorem zwSendDataAppl_changes (p : TsParam) (discardTimeout : Bool) (data : List UInt8)
    (callback : Callback) (fb : Bool) (s : SendQueues) :
    Changes extra s (zwSendDataAppl config p discardTimeout data callback fb s) := by
  unfold zwSendDataAppl
  split
  case h_1 => exact .refl
  case h_2 i halloc =>
    dsimp only
    by_cases hfb : (!fb) = true
    · rw [if_pos hfb]
      exact ((Relation.ReflTransGen.single (.allocate i)).tail (.settles (settles_modify rfl))).tail
        (.settles (settles_free _ i))
    · rw [if_neg hfb]
      exact .single (.addSession i (Settles.trans (settles_modify rfl) (settles_modify rfl)))

theorem endpointReturned_changes (i : Fin numSessions) (rc : Bool) (s : SendQueues) :
    Changes extra s (endpointReturned config i rc s) := by
  unfold endpointReturned
  split_ifs
  · exact .refl
  · exact (settles_callbackEx s).changes

theorem sendFirst_changes (outcome : EndpointOutcome) (s : SendQueues) :
    Changes extra s (sendFirst config outcome s) := by
  unfold sendFirst
  split
  case h_1 => exact .single (.settles (settles_of_same rfl rfl rfl rfl rfl rfl))
  case h_2 i rest hlist =>
    have hhand := Relation.ReflTransGen.single (r := Change extra) (.hand i rest hlist)
    cases outcome with
    | refused => exact hhand.trans (endpointReturned_changes i false _)
    | direct data fb =>
      exact hhand.trans ((sendData_changes _ _ _ _ _ _).trans (endpointReturned_changes i _ _))
    | secure layer =>
      exact hhand.tail (.settles (settles_of_same rfl rfl rfl rfl rfl rfl))
    | secureAtOnce status ts rc =>
      exact hhand.trans ((settles_callbackEx _).changes.trans (endpointReturned_changes i rc _))

/-- A step is made of changes; `extra` has to allow the completions that the step can log. -/
theorem step_changes (s : SendQueues) (input : Input)
    (hemergency : ∀ serial, extra (.completed serial .emergency))
    (hrefused : ∀ serial, extra (.completed serial .refused))
    (hown : ∀ serial, extra (.completed serial (.report serial)))
    (hreport : ∀ k status ts serial i, input = .rawReport k status ts → s.frames = [] →
      s.raw[k]? = some serial → s.lockLl = true → s.sendDataList.head? = some i →
      extra (.completed (s.blocks i).serial (.report serial))) :
    Changes extra s (step config s input) := by
  have hmainLoop : ∀ t, (s.frames = [] → Changes extra s t) →
      Changes extra s (if s.frames.isEmpty then t else s) := by
    intro t ht
    split_ifs with hframes
    · exact ht (List.isEmpty_iff.mp hframes)
    · exact .refl
  cases input with
  | sendDataAppl p discardTimeout data user fb => exact zwSendDataAppl_changes _ _ _ _ _ s
  | sendData p discardTimeout data user fb => exact sendData_changes _ _ _ _ _ s
  | abort handle => exact (settles_zwSendDataApplAbort s).changes
  | securityDone k status ts =>
    simp only [step]
    split
    · exact .refl
    · refine (Settles.trans ?_ (settles_callbackEx _)).changes
      exact settles_of_same rfl rfl rfl rfl rfl rfl
  | ret => exact (settles_returnStep s hrefused).changes
  | sendNext outcome =>
    refine hmainLoop _ fun _ ↦ ?_
    simp only [mainLoopStep]
    split_ifs
    · exact sendFirst_changes outcome s
    · exact .refl
  | sendNextLl outcome => exact hmainLoop _ fun _ ↦ (settles_sendNextLl s hrefused hown).changes
  | rawReport k status ts =>
    refine hmainLoop _ fun hframes ↦ ?_
    simp only [mainLoopStep]
    split
    · exact .refl
    case h_2 serial hserial =>
      exact (settles_sendDataCallbackFunc s fun i hlock hhead ↦
        hreport k status ts serial i rfl hframes hserial hlock hhead).changes
  | emergencyTimeout =>
    exact hmainLoop _ fun _ ↦ (settles_sendDataCallbackFunc s fun _ _ _ ↦ hemergency _).changes
  | backoffTimeout =>
    exact hmainLoop _ fun _ ↦ .single (.settles (settles_of_same rfl rfl rfl rfl rfl rfl))
  | resendLockupTimeout =>
    exact hmainLoop _ fun _ ↦ .single (.settles (settles_of_same rfl rfl rfl rfl rfl rfl))
  | softResetTimeout gecko =>
    refine hmainLoop _ fun _ ↦ ?_
    simp only [mainLoopStep]
    split_ifs
    · exact .single (.settles (settles_of_same rfl rfl rfl rfl rfl rfl))
    · exact .refl
  | discardTimeout i =>
    refine hmainLoop _ fun _ ↦ ?_
    simp only [mainLoopStep]
    split_ifs
    · exact ((settles_modify rfl).trans (settles_doDiscardTimeoutMemb _)).changes
    · exact .refl
  | init => exact hmainLoop _ fun _ ↦ .single .init

end Changes

/-! ### Serial numbers -/

/-- Serial numbers name sessions, and no session is twice in the application queue. -/
structure SerialsOk (s : SendQueues) : Prop where
  bound : ∀ i, (s.blocks i).serial ≤ s.lastSerial
  distinct : ∀ i j, (s.blocks i).serial ≠ 0 → (s.blocks i).serial = (s.blocks j).serial → i = j
  used : ∀ i, s.used i = true → (s.blocks i).serial ≠ 0
  listed : ∀ i, i ∈ s.sessionList ∨ i ∈ s.sendDataList → (s.blocks i).serial ≠ 0
  nodup : s.sessionList.Nodup

section Serials

variable {extra : Act → Prop} {s t : SendQueues} {config : Config}

theorem serialsOk_powerUp : SerialsOk SendQueues.powerUp := by
  constructor <;> simp [SendQueues.powerUp, Session.zero]

theorem SerialsOk.settles (hserials : SerialsOk s) (hsettles : Settles (fun _ ↦ True) s t) :
    SerialsOk t where
  bound i := by
    rw [hsettles.serial, hsettles.lastSerial]
    exact hserials.bound i
  distinct i j := by
    rw [hsettles.serial, hsettles.serial]
    exact hserials.distinct i j
  used i hi := by
    rw [hsettles.serial]
    exact hserials.used i (hsettles.used i hi)
  listed i hi := by
    rw [hsettles.serial]
    exact hserials.listed i (hi.imp (fun h ↦ hsettles.sessionList.subset h)
      fun h ↦ hsettles.sendDataList.subset h)
  nodup := hserials.nodup.sublist hsettles.sessionList

theorem allocate_serial_of_ne (s : SendQueues) {i j : Fin numSessions} (hji : j ≠ i) :
    ((s.allocate i).blocks j).serial = (s.blocks j).serial := by
  simp [SendQueues.allocate, SendQueues.modify, Function.update_of_ne hji]

theorem SerialsOk.allocate (hserials : SerialsOk s) (i : Fin numSessions) :
    SerialsOk (s.allocate i) := by
  have hpositive :
      ∀ j, (j ≠ i → (s.blocks j).serial ≠ 0) → ((s.allocate i).blocks j).serial ≠ 0 := by
    intro j hj
    by_cases hji : j = i
    · rw [hji, allocate_serial]
      exact Nat.succ_ne_zero _
    · rw [allocate_serial_of_ne s hji]
      exact hj hji
  refine ⟨fun j ↦ ?_, fun j k hj hjk ↦ ?_, fun j hj ↦ hpositive j fun hji ↦ ?_,
    fun j hj ↦ hpositive j fun _ ↦ hserials.listed j hj, hserials.nodup⟩
  · change _ ≤ s.lastSerial + 1
    by_cases hji : j = i
    · rw [hji, allocate_serial]
    · rw [allocate_serial_of_ne s hji]
      exact (hserials.bound j).trans (Nat.le_succ _)
  · -- The new serial number is larger than all others.
    have hless : ∀ k, (s.blocks k).serial ≠ s.lastSerial + 1 := fun k ↦
      (Nat.lt_succ_of_le (hserials.bound k)).ne
    by_cases hji : j = i <;> by_cases hki : k = i
    · rw [hji, hki]
    · rw [hji, allocate_serial, allocate_serial_of_ne s hki] at hjk
      exact absurd hjk.symm (hless k)
    · rw [hki, allocate_serial, allocate_serial_of_ne s hji] at hjk
      exact absurd hjk (hless j)
    · rw [allocate_serial_of_ne s hji] at hj hjk
      rw [allocate_serial_of_ne s hki] at hjk
      exact hserials.distinct j k hj hjk
  · refine hserials.used j ?_
    simpa [SendQueues.allocate, hji] using hj

/-- The block that was allocated last has a serial number. -/
theorem Settles.newest {i : Fin numSessions} (hsettles : Settles extra (s.allocate i) t) :
    (t.blocks i).serial ≠ 0 := by
  rw [hsettles.serial, allocate_serial]
  exact Nat.succ_ne_zero _

theorem SerialsOk.change (hserials : SerialsOk s) (hchange : Change extra s t) : SerialsOk t := by
  cases hchange with
  | settles hsettles => exact hserials.settles hsettles.weaken
  | allocate i => exact hserials.allocate i
  | addSession i hsettles =>
    have hfilled := (hserials.allocate i).settles hsettles.weaken
    refine ⟨hfilled.bound, hfilled.distinct, hfilled.used, fun j hj ↦ ?_,
      nodup_listAdd hfilled.nodup⟩
    rcases hj with hj | hj
    · rcases mem_listAdd.mp hj with rfl | hj
      · exact hsettles.newest
      · exact hfilled.listed j (Or.inl hj)
    · exact hfilled.listed j (Or.inr hj)
  | addSendData i hsettles =>
    have hfilled := (hserials.allocate i).settles hsettles.weaken
    refine ⟨hfilled.bound, hfilled.distinct, hfilled.used, fun j hj ↦ ?_, hfilled.nodup⟩
    rcases hj with hj | hj
    · exact hfilled.listed j (Or.inl hj)
    · rcases mem_listAdd.mp hj with rfl | hj
      · exact hsettles.newest
      · exact hfilled.listed j (Or.inr hj)
  | hand i rest hlist =>
    have hsublist : rest.Sublist s.sessionList := hlist ▸ sublist_cons_self i rest
    exact ⟨hserials.bound, hserials.distinct, hserials.used,
      fun j hj ↦ hserials.listed j (hj.imp_left fun h ↦ hsublist.subset h),
      hserials.nodup.sublist hsublist⟩
  | init => constructor <;> simp [zwSendDataApplInit, Session.zero]

end Serials

end ZipGateway.SendDataAppl
