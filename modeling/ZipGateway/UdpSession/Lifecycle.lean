import ZipGateway.UdpSession.Model

/-!
# Acknowledged sends are reported once

A session that was allocated is open, with its timer running and its callback not called; or its
callback is running; or it has ended, and its callback was called once. What is done to a session is
done by its own timer, acknowledgement or send report. The invariant is `Inv`, and
`sends_reported_once` is the statement for every run.

Both halves rest on the condition `Timely` on the steps. `cb_udp_send_done` starts the timer of the
block that it was given without looking whether the session is still there, so a send report must
come before its session has ended. And the sequence number is a byte, so an acknowledgement must not
come when another session of the same connection has reached the same number again. `reported_twice`
is a run that breaks the first: the report comes after the acknowledgement, the timer of the free
block expires, and the callback is called again.
-/

set_option autoImplicit false

namespace ZipGateway.UdpSession

open Lib Contiki Function List

/-- How often the callback of a session was called. -/
def tolds (serial : ℕ) (log : List Entry) : ℕ :=
  log.countP fun entry ↦ decide (entry.serial = serial) &&
    match entry.act with
    | .told _ => true
    | _ => false

/-- A send report comes while its session is open, and an acknowledgement while no other session has
its addresses, endpoints and sequence number. -/
def Timely (s : Sessions) : Input → Prop
  | .sendDone position =>
    (s.outstanding[position]?.all fun report ↦
      s.used report.1 && decide ((s.blocks report.1).serial = report.2)) = true
  | .ack serial =>
    ∀ i ∈ s.sessionsList, (s.blocks i).key = s.sent serial → (s.blocks i).serial = serial
  | _ => True

instance decidableTimely (s : Sessions) : ∀ input, Decidable (Timely s input)
  | .sendDone position =>
    inferInstanceAs (Decidable ((s.outstanding[position]?.all fun report ↦
      s.used report.1 && decide ((s.blocks report.1).serial = report.2)) = true))
  | .ack serial =>
    inferInstanceAs (Decidable (∀ i ∈ s.sessionsList,
      (s.blocks i).key = s.sent serial → (s.blocks i).serial = serial))
  | .send _ _ _ | .sendOther | .timeout _ | .ret => inferInstanceAs (Decidable True)

@[simp]
theorem tolds_cons_told (serial other cause : ℕ) (status : UInt8) (log : List Entry) :
    tolds serial (⟨other, cause, .told status⟩ :: log) =
      tolds serial log + if other = serial then 1 else 0 := by
  simp [tolds, countP_cons]

@[simp]
theorem tolds_cons_armed (serial other cause : ℕ) (log : List Entry) :
    tolds serial (⟨other, cause, .armed⟩ :: log) = tolds serial log := by
  simp [tolds]

@[simp]
theorem tolds_cons_freed (serial other cause : ℕ) (log : List Entry) :
    tolds serial (⟨other, cause, .freed⟩ :: log) = tolds serial log := by
  simp [tolds]

/-! ### The invariant -/

/-- The session in a block is open: it waits for its acknowledgement or its timer. -/
structure Opened (s : Sessions) (i : Fin numSessions) : Prop where
  timeout : (s.blocks i).timeout = true
  untold : tolds (s.blocks i).serial s.log = 0

/-- The callback of the session in a block is running. -/
structure Running (s : Sessions) (i : Fin numSessions) : Prop where
  timeout : (s.blocks i).timeout = false
  frame : s.frames = [(i, (s.blocks i).serial)]
  cb : s.hasCb (s.blocks i).serial = true
  told : tolds (s.blocks i).serial s.log = 1

/-- The sessions of the module. -/
structure Inv (s : Sessions) : Prop where
  listed : ∀ i, i ∈ s.sessionsList ↔ s.used i = true
  nodup : s.sessionsList.Nodup
  serials : ∀ i, s.used i = true → 1 ≤ (s.blocks i).serial ∧ (s.blocks i).serial ≤ s.lastSerial
  distinct : ∀ i j, s.used i = true → s.used j = true →
    (s.blocks i).serial = (s.blocks j).serial → i = j
  key : ∀ i, s.used i = true → (s.blocks i).key = s.sent (s.blocks i).serial ∧
    (s.blocks i).cb = s.hasCb (s.blocks i).serial
  /-- The timer of a free block is not running. -/
  free : ∀ i, s.used i = false → (s.blocks i).timeout = false
  frames : ∀ frame ∈ s.frames, s.used frame.1 = true ∧ Running s frame.1
  live : ∀ i, s.used i = true → Opened s i ∨ Running s i
  ended : ∀ n, 1 ≤ n → n ≤ s.lastSerial → (∀ i, s.used i = true → (s.blocks i).serial ≠ n) →
    tolds n s.log = if s.hasCb n then 1 else 0
  fresh : ∀ n, s.lastSerial < n → tolds n s.log = 0
  own : ∀ entry ∈ s.log, entry.cause = entry.serial

theorem inv_init : Inv Sessions.init where
  listed := by simp [Sessions.init]
  nodup := nodup_nil
  serials := by simp [Sessions.init]
  distinct := by simp [Sessions.init]
  key := by simp [Sessions.init]
  free _ _ := rfl
  frames := by simp [Sessions.init]
  live := by simp [Sessions.init]
  ended n hpos hle := by
    have hzero : n ≤ 0 := hle
    omega
  fresh _ _ := rfl
  own := by simp [Sessions.init]

section Steps

variable {s : Sessions} {i : Fin numSessions}

/-- The log grows by an entry that tells no session anything. -/
theorem Inv.log (hinv : Inv s) {entry : Entry} (hown : entry.cause = entry.serial)
    (htolds : ∀ n, tolds n (entry :: s.log) = tolds n s.log) :
    Inv { s with log := entry :: s.log } where
  listed := hinv.listed
  nodup := hinv.nodup
  serials := hinv.serials
  distinct := hinv.distinct
  key := hinv.key
  free := hinv.free
  frames frame hframe := by
    obtain ⟨hused, htimeout, hone, hcb, htold⟩ := hinv.frames frame hframe
    exact ⟨hused, htimeout, hone, hcb, (htolds _).trans htold⟩
  live j hused := by
    rcases hinv.live j hused with ⟨htimeout, huntold⟩ | ⟨htimeout, hone, hcb, htold⟩
    · exact .inl ⟨htimeout, (htolds _).trans huntold⟩
    · exact .inr ⟨htimeout, hone, hcb, (htolds _).trans htold⟩
  ended n hpos hle hgone := (htolds n).trans (hinv.ended n hpos hle hgone)
  fresh n hn := (htolds n).trans (hinv.fresh n hn)
  own := by
    intro other hother
    rcases mem_cons.mp hother with rfl | hmem
    · exact hown
    · exact hinv.own other hmem

/-- Starting the timer of an open session again. -/
theorem inv_arm (hinv : Inv s) (hopen : Opened s i) : Inv (s.arm i (s.blocks i).serial) := by
  have hsame : update s.blocks i { s.blocks i with timeout := true } = s.blocks := by
    rw [show { s.blocks i with timeout := true } = s.blocks i by rw [← hopen.timeout]]
    exact update_eq_self i s.blocks
  unfold Sessions.arm
  rw [hsame]
  exact hinv.log rfl fun n ↦ tolds_cons_armed n _ _ s.log

/-- A state in which the session in a block has ended. -/
def Sessions.closed (s : Sessions) (i : Fin numSessions) : Sessions :=
  { s with
    blocks := update s.blocks i { s.blocks i with timeout := false }
    sessionsList := listRemove s.sessionsList i
    used := membFree s.used i
    frames := []
    log := ⟨(s.blocks i).serial, (s.blocks i).serial, .freed⟩ :: s.log }

/-- A session ends when its callback was called, if it has one. -/
theorem inv_closed (hinv : Inv s)
    (htold : tolds (s.blocks i).serial s.log = if s.hasCb (s.blocks i).serial then 1 else 0)
    (hframes : ∀ j, j ≠ i → ¬ Running s j) : Inv (s.closed i) := by
  have hother : ∀ j, (s.closed i).used j = true → j ≠ i ∧ s.used j = true ∧
      (s.closed i).blocks j = s.blocks j := by
    intro j hj
    by_cases hji : j = i
    · rw [hji] at hj
      simp [Sessions.closed] at hj
    · refine ⟨hji, ?_, update_of_ne hji _ _⟩
      rw [← hj]
      exact (membFree_of_ne s.used hji).symm
  refine ⟨fun j ↦ ?_, nodup_listRemove hinv.nodup, fun j hj ↦ ?_, fun j k hj hk hserial ↦ ?_,
    fun j hj ↦ ?_, fun j hj ↦
      ?_, by simp [Sessions.closed], fun j hj ↦ ?_, fun n hpos hle hgone ↦ ?_,
    fun n hn ↦ ?_, ?_⟩
  · show j ∈ listRemove s.sessionsList i ↔ membFree s.used i j = true
    rw [mem_listRemove hinv.nodup, hinv.listed]
    by_cases hji : j = i
    · simp [hji]
    · simp [hji]
  · obtain ⟨-, hold, hblock⟩ := hother j hj
    rw [hblock]
    exact hinv.serials j hold
  · obtain ⟨-, hold, hblock⟩ := hother j hj
    obtain ⟨-, hold', hblock'⟩ := hother k hk
    rw [hblock, hblock'] at hserial
    exact hinv.distinct j k hold hold' hserial
  · obtain ⟨-, hold, hblock⟩ := hother j hj
    rw [hblock]
    exact hinv.key j hold
  · show (update s.blocks i { s.blocks i with timeout := false } j).timeout = false
    by_cases hji : j = i
    · rw [hji, update_self]
    · rw [update_of_ne hji]
      apply hinv.free
      rw [← hj]
      exact (membFree_of_ne s.used hji).symm
  · obtain ⟨hji, hold, hblock⟩ := hother j hj
    left
    have hopen := (hinv.live j hold).resolve_right (hframes j hji)
    refine ⟨by rw [hblock]; exact hopen.timeout, ?_⟩
    rw [hblock]
    exact (tolds_cons_freed _ _ _ s.log).trans hopen.untold
  · show tolds n (⟨(s.blocks i).serial, (s.blocks i).serial, .freed⟩ :: s.log) = _
    rw [tolds_cons_freed]
    by_cases hn : (s.blocks i).serial = n
    · rw [← hn]
      exact htold
    · refine hinv.ended n hpos hle fun j hj ↦ ?_
      by_cases hji : j = i
      · rw [hji]
        exact hn
      · have hgone' := hgone j ((membFree_of_ne s.used hji).trans hj)
        rwa [show (s.closed i).blocks j = s.blocks j from update_of_ne hji _ _] at hgone'
  · exact (tolds_cons_freed _ _ _ s.log).trans (hinv.fresh n hn)
  · intro entry hentry
    rcases mem_cons.mp hentry with rfl | hmem
    · rfl
    · exact hinv.own entry hmem

/-- The callback of an open session is called. -/
theorem inv_told (hinv : Inv s) (hused : s.used i = true) (hopen : Opened s i)
    (hidle : s.frames = [])
    (hcb : s.hasCb (s.blocks i).serial = true) (status : UInt8) : Inv { s with
      blocks := update s.blocks i { s.blocks i with timeout := false }
      frames := [(i, (s.blocks i).serial)]
      log := ⟨(s.blocks i).serial, (s.blocks i).serial, .told status⟩ :: s.log } := by
  set blocks' := update s.blocks i { s.blocks i with timeout := false } with hblocks
  have hsame : ∀ j, (blocks' j).serial = (s.blocks j).serial ∧ (blocks' j).key = (s.blocks j).key ∧
      (blocks' j).cb = (s.blocks j).cb := by
    intro j
    by_cases hji : j = i
    · simp [hblocks, hji]
    · simp [hblocks, hji]
  have hserial : (blocks' i).serial = (s.blocks i).serial := (hsame i).1
  have hrunning : Running { s with
      blocks := blocks'
      frames := [(i, (s.blocks i).serial)]
      log := ⟨(s.blocks i).serial, (s.blocks i).serial, .told status⟩ :: s.log } i := by
    refine ⟨by simp [hblocks], by simp [hserial], by rw [hserial]; exact hcb, ?_⟩
    show tolds (blocks' i).serial (_ :: s.log) = 1
    rw [hserial, tolds_cons_told, if_pos rfl, hopen.untold]
  refine ⟨hinv.listed, hinv.nodup, fun j hj ↦ ?_, fun j k hj hk hjk ↦ ?_, fun j hj ↦ ?_,
    fun j hj ↦ ?_, ?_, fun j hj ↦ ?_, fun n hpos hle hgone ↦ ?_, fun n hn ↦ ?_, ?_⟩
  · rw [(hsame j).1]
    exact hinv.serials j hj
  · rw [(hsame j).1, (hsame k).1] at hjk
    exact hinv.distinct j k hj hk hjk
  · rw [(hsame j).1, (hsame j).2.1, (hsame j).2.2]
    exact hinv.key j hj
  · show (blocks' j).timeout = false
    by_cases hji : j = i
    · simp [hblocks, hji]
    · simp only [hblocks, update_of_ne hji]
      exact hinv.free j hj
  · intro frame hframe
    rw [mem_singleton.mp hframe]
    exact ⟨hused, hrunning⟩
  · by_cases hji : j = i
    · rw [hji]
      exact .inr hrunning
    · left
      have hopen' := (hinv.live j hj).resolve_right (fun hrun ↦ by simpa [hidle] using hrun.frame)
      have hne : (s.blocks i).serial ≠ (s.blocks j).serial := fun h ↦
        hji (hinv.distinct i j hused hj h).symm
      refine ⟨?_, ?_⟩
      · simp only [hblocks, update_of_ne hji]
        exact hopen'.timeout
      · show tolds (blocks' j).serial (_ :: s.log) = 0
        rw [(hsame j).1, tolds_cons_told, if_neg hne]
        exact hopen'.untold
  · have hne : (s.blocks i).serial ≠ n := by
      rw [← hserial]
      exact hgone i hused
    show tolds n (_ :: s.log) = _
    rw [tolds_cons_told, if_neg hne]
    refine hinv.ended n hpos hle fun j hj ↦ ?_
    rw [← (hsame j).1]
    exact hgone j hj
  · have hne : (s.blocks i).serial ≠ n := by
      have := (hinv.serials i hused).2
      have : s.lastSerial < n := hn
      omega
    show tolds n (_ :: s.log) = 0
    rw [tolds_cons_told, if_neg hne]
    exact hinv.fresh n hn
  · intro entry hentry
    rcases mem_cons.mp hentry with rfl | hmem
    · rfl
    · exact hinv.own entry hmem

/-- An open session is completed by its own event. -/
theorem inv_complete (hinv : Inv s) (hused : s.used i = true) (hopen : Opened s i)
    (hidle : s.frames = []) (status : UInt8) : Inv (s.complete i (s.blocks i).serial status) := by
  unfold Sessions.complete
  by_cases hcb : (s.blocks i).cb = true
  · simp only [if_pos hcb, hidle]
    exact inv_told hinv hused hopen hidle ((hinv.key i hused).2 ▸ hcb) status
  · simp only [if_neg hcb]
    have hfinish : Sessions.finish { s with
        blocks := update s.blocks i { s.blocks i with timeout := false } } i
          (s.blocks i).serial = s.closed i := by
      simp [Sessions.finish, Sessions.closed, hidle]
    rw [hfinish]
    refine inv_closed hinv ?_ fun j _ hrun ↦ by simpa [hidle] using hrun.frame
    rw [hopen.untold, ← (hinv.key i hused).2, if_neg hcb]

/-- The sequence number and the send reports to come. -/
theorem Inv.other (hinv : Inv s) (seqNo : UInt8) (outstanding : List (Fin numSessions × ℕ)) :
    Inv { s with seqNo := seqNo, outstanding := outstanding } where
  listed := hinv.listed
  nodup := hinv.nodup
  serials := hinv.serials
  distinct := hinv.distinct
  key := hinv.key
  free := hinv.free
  frames frame hframe :=
    ⟨(hinv.frames frame hframe).1, (hinv.frames frame hframe).2.1, (hinv.frames frame hframe).2.2,
      (hinv.frames frame hframe).2.3, (hinv.frames frame hframe).2.4⟩
  live j hused := (hinv.live j hused).imp (fun h ↦ ⟨h.1, h.2⟩) fun h ↦ ⟨h.1, h.2, h.3, h.4⟩
  ended := hinv.ended
  fresh := hinv.fresh
  own := hinv.own

/-- The state after a session was opened in a block. -/
def Sessions.opened (s : Sessions) (i : Fin numSessions) (key : Key) (cb : Bool) : Sessions :=
  { s with
    blocks := update s.blocks i ⟨key, cb, true, s.lastSerial + 1⟩
    used := membTake s.used i
    sessionsList := listAdd s.sessionsList i
    lastSerial := s.lastSerial + 1
    sent := update s.sent (s.lastSerial + 1) key
    hasCb := update s.hasCb (s.lastSerial + 1) cb
    log := ⟨s.lastSerial + 1, s.lastSerial + 1, .armed⟩ :: s.log }

/-- The session that was opened is open. -/
theorem opened_opened (hinv : Inv s) (key : Key) (cb : Bool) : Opened (s.opened i key cb) i := by
  refine ⟨by simp [Sessions.opened], ?_⟩
  show tolds (update s.blocks i _ i).serial (_ :: s.log) = 0
  rw [update_self, tolds_cons_armed]
  exact hinv.fresh _ (Nat.lt_succ_self _)

theorem inv_opened (hinv : Inv s) (hunused : s.used i = false) (key : Key) (cb : Bool) :
    Inv (s.opened i key cb) := by
  have hblock : ∀ j, j ≠ i → (s.opened i key cb).blocks j = s.blocks j := fun j hj ↦
    update_of_ne hj _ _
  have hself : (s.opened i key cb).blocks i = ⟨key, cb, true, s.lastSerial + 1⟩ :=
    update_self _ _ _
  have hold : ∀ j, j ≠ i → (s.opened i key cb).used j = true → s.used j = true := fun j hj hused ↦
    (membTake_of_ne s.used hj).symm.trans hused
  have hserial : ∀ j, j ≠ i → (s.opened i key cb).used j = true →
      (s.blocks j).serial ≠ s.lastSerial + 1 := by
    intro j hj hused
    have hbound := (hinv.serials j (hold j hj hused)).2
    omega
  have htolds : ∀ n, tolds n (s.opened i key cb).log = tolds n s.log := fun n ↦
    tolds_cons_armed n _ _ s.log
  have hrunning : ∀ j, j ≠ i → (s.opened i key cb).used j = true → Running s j →
      Running (s.opened i key cb) j := by
    intro j hj hused hrun
    refine ⟨?_, ?_, ?_, ?_⟩
    · rw [hblock j hj]
      exact hrun.timeout
    · rw [hblock j hj]
      exact hrun.frame
    · rw [hblock j hj]
      exact (update_of_ne (hserial j hj hused) _ _).trans hrun.cb
    · rw [hblock j hj, htolds]
      exact hrun.told
  refine ⟨fun j ↦ ?_, nodup_listAdd hinv.nodup, fun j hj ↦ ?_, fun j k hj hk hjk ↦ ?_,
    fun j hj ↦ ?_, fun j hj ↦ ?_, fun frame hframe ↦ ?_, fun j hj ↦ ?_, fun n hpos hle hgone ↦
      ?_, fun n hn ↦ ?_, ?_⟩
  · show j ∈ listAdd s.sessionsList i ↔ membTake s.used i j = true
    rw [mem_listAdd, hinv.listed]
    by_cases hji : j = i
    · simp [hji]
    · simp [hji]
  · show 1 ≤ ((s.opened i key cb).blocks j).serial ∧ _ ≤ s.lastSerial + 1
    by_cases hji : j = i
    · rw [hji, hself]
      exact ⟨Nat.succ_pos _, le_refl _⟩
    · rw [hblock j hji]
      have hbounds := hinv.serials j (hold j hji hj)
      exact ⟨hbounds.1, hbounds.2.trans (Nat.le_succ _)⟩
  · by_cases hji : j = i <;> by_cases hki : k = i
    · rw [hji, hki]
    · rw [hji, hself, hblock k hki] at hjk
      exact absurd hjk.symm (hserial k hki hk)
    · rw [hki, hself, hblock j hji] at hjk
      exact absurd hjk (hserial j hji hj)
    · rw [hblock j hji, hblock k hki] at hjk
      exact hinv.distinct j k (hold j hji hj) (hold k hki hk) hjk
  · show _ = update s.sent (s.lastSerial + 1) key _ ∧
      _ = update s.hasCb (s.lastSerial + 1) cb _
    by_cases hji : j = i
    · rw [hji, hself, update_self, update_self]
      exact ⟨rfl, rfl⟩
    · rw [hblock j hji, update_of_ne (hserial j hji hj), update_of_ne (hserial j hji hj)]
      exact hinv.key j (hold j hji hj)
  · have hji : j ≠ i := by
      rintro rfl
      rw [show (s.opened j key cb).used j = true from membTake_self s.used j] at hj
      exact absurd hj (by simp)
    rw [hblock j hji]
    exact hinv.free j ((membTake_of_ne s.used hji).symm.trans hj)
  · obtain ⟨hused, hrun⟩ := hinv.frames frame hframe
    have hne : frame.1 ≠ i := fun h ↦ by simp [h, hunused] at hused
    have hused' := (membTake_of_ne s.used hne).trans hused
    exact ⟨hused', hrunning frame.1 hne hused' hrun⟩
  · by_cases hji : j = i
    · rw [hji]
      exact .inl (opened_opened hinv key cb)
    · rcases hinv.live j (hold j hji hj) with ⟨htimeout, huntold⟩ | hrun
      · exact .inl
          ⟨by rw [hblock j hji]; exact htimeout, by rw [hblock j hji, htolds]; exact huntold⟩
      · exact .inr (hrunning j hji hj hrun)
  · have hn : n ≠ s.lastSerial + 1 := by
      rintro rfl
      exact hgone i (membTake_self s.used i) (by rw [hself])
    have hbound : n ≤ s.lastSerial + 1 := hle
    show tolds n _ = if update s.hasCb (s.lastSerial + 1) cb n then 1 else 0
    rw [htolds, update_of_ne hn]
    refine hinv.ended n hpos (by omega) fun j hj ↦ ?_
    have hji : j ≠ i := fun h ↦ by simp [h, hunused] at hj
    have hgone' := hgone j ((membTake_of_ne s.used hji).trans hj)
    rwa [hblock j hji] at hgone'
  · have hbound : s.lastSerial + 1 < n := hn
    exact (htolds n).trans (hinv.fresh n (by omega))
  · intro entry hentry
    rcases mem_cons.mp hentry with rfl | hmem
    · rfl
    · exact hinv.own entry hmem

/-- `ZW_SendDataZIP_ack` opens a session in a free block. -/
theorem inv_zwSendDataZipAck (hinv : Inv s) (key : Key) (cb : Bool) (answer : SendDone) :
    Inv (zwSendDataZipAck key cb answer s) := by
  unfold zwSendDataZipAck
  cases halloc : membAlloc s.used with
  | none => exact hinv
  | some i =>
    have hunused := membAlloc_some halloc
    set key' := { key with seq := s.seqNo } with hkey
    have harmed : Sessions.arm { s with
        blocks := update s.blocks i ⟨key', cb, false, s.lastSerial + 1⟩
        used := membTake s.used i
        sessionsList := listAdd s.sessionsList i
        seqNo := s.seqNo + 1
        lastSerial := s.lastSerial + 1
        sent := update s.sent (s.lastSerial + 1) key'
        hasCb := update s.hasCb (s.lastSerial + 1) cb } i (s.lastSerial + 1) =
          { s.opened i key' cb with seqNo := s.seqNo + 1 } := by
      simp [Sessions.arm, Sessions.opened]
    have hopen : Opened { s.opened i key' cb with seqNo := s.seqNo + 1 } i :=
      ⟨(opened_opened hinv key' cb).1, (opened_opened hinv key' cb).2⟩
    have hopened := (inv_opened hinv hunused key' cb).other (s.seqNo + 1) s.outstanding
    simp only [harmed]
    cases answer with
    | now =>
      have hserial : s.lastSerial + 1 =
          ({ s.opened i key' cb with seqNo := s.seqNo + 1 }.blocks i).serial := by
        simp [Sessions.opened]
      simp only [cbUdpSendDone]
      rw [hserial]
      exact inv_arm hopened hopen
    | later => exact hopened.other _ _
    | lost => exact hopened

/-- Every timely step keeps the invariant. -/
theorem inv_step (s : Sessions) (input : Input) (htimely : Timely s input) (hinv : Inv s) :
    Inv (step s input) := by
  -- when no callback is running, the sessions are open
  have hopen : s.frames = [] → ∀ i, s.used i = true → Opened s i := fun hidle i hused ↦
    (hinv.live i hused).resolve_right fun hrun ↦ by simpa [hidle] using hrun.frame
  cases input with
  | send key cb answer => exact inv_zwSendDataZipAck hinv key cb answer
  | sendOther => exact hinv.other _ _
  | sendDone position =>
    simp only [step]
    split
    · rename_i i cause hidle hreport
      simp only [Timely, hreport, Option.all_some, Bool.and_eq_true, decide_eq_true_eq] at htimely
      obtain ⟨hused, hserial⟩ := htimely
      have hopen' := hopen hidle i hused
      rw [← hserial]
      exact inv_arm (hinv.other s.seqNo _) ⟨hopen'.1, hopen'.2⟩
    · exact hinv
  | ack serial =>
    simp only [step]
    split_ifs with hack
    · unfold udpCommandHandler
      cases hfind : s.matching (s.sent serial) with
      | none => exact hinv
      | some i =>
        have hmem : i ∈ s.sessionsList := mem_of_find?_eq_some hfind
        have hkey : (s.blocks i).key = s.sent serial := by
          simpa using List.find?_some hfind
        have hused := (hinv.listed i).mp hmem
        rw [← htimely i hmem hkey]
        exact inv_complete hinv hused (hopen hack.1 i hused) hack.1 transmitCompleteOk
    · exact hinv
  | timeout i =>
    simp only [step]
    split_ifs with hexpired
    · have hused : s.used i = true := by
        by_contra hunused
        have hstopped := hinv.free i (by simpa using hunused)
        rw [hexpired.2] at hstopped
        exact absurd hstopped (by simp)
      exact inv_complete hinv hused (hopen hexpired.1 i hused) hexpired.1 transmitCompleteFail
    · exact hinv
  | ret =>
    simp only [step]
    split
    · exact hinv
    · rename_i i cause rest hframes
      obtain ⟨hused, hrun⟩ := hinv.frames (i, cause) (by rw [hframes]; exact mem_cons_self)
      have hone := hrun.frame
      rw [hframes] at hone
      obtain ⟨hcause, rfl⟩ : cause = (s.blocks i).serial ∧ rest = [] := by simpa using hone
      have hfinish : Sessions.finish { s with frames := [] } i cause = s.closed i := by
        have hsame : update s.blocks i { s.blocks i with timeout := false } = s.blocks := by
          rw [show { s.blocks i with timeout := false } = s.blocks i by rw [← hrun.timeout]]
          exact update_eq_self i s.blocks
        simp [Sessions.finish, Sessions.closed, hsame, hcause]
      rw [hfinish]
      refine inv_closed hinv ?_ fun j hji hrun' ↦ ?_
      · rw [hrun.told, hrun.cb]
        rfl
      · have hother := hrun'.frame
        rw [hframes, List.cons.injEq, Prod.mk.injEq] at hother
        exact hji hother.1.1.symm

end Steps

/-! ### Runs -/

/-- The callback of a session is called once: it was called, or the session is open and its timer is
running, or the callback has not returned yet. -/
def ReportedOnce (s : Sessions) (serial : ℕ) : Prop :=
  (∃ i, s.used i = true ∧ (s.blocks i).serial = serial ∧ (s.blocks i).timeout = true ∧
      tolds serial s.log = 0) ∨
    (∃ i, s.used i = true ∧ (s.blocks i).serial = serial ∧ s.frames = [(i, serial)] ∧
      tolds serial s.log = 1) ∨
    (∀ i, s.used i = true → (s.blocks i).serial ≠ serial) ∧ tolds serial s.log = 1

/-- In every run of timely steps, every session that was allocated for a send with a callback is
open with its timer running and its callback not called, or its callback was called exactly once;
and whatever is done to a session, starting its timer, calling its callback or freeing its block, is
done by an event of that session. -/
theorem sends_reported_once (inputs : List Input)
    (htimely : AllSteps step Timely Sessions.init inputs) :
    (∀ serial, 1 ≤ serial → serial ≤ (run step Sessions.init inputs).lastSerial →
      (run step Sessions.init inputs).hasCb serial = true →
        ReportedOnce (run step Sessions.init inputs) serial) ∧
      ∀ entry ∈ (run step Sessions.init inputs).log, entry.cause = entry.serial := by
  have hinv : Inv (run step Sessions.init inputs) :=
    run_invariant_of_allSteps inv_step inv_init htimely
  generalize run step Sessions.init inputs = s at hinv ⊢
  refine ⟨fun serial hpos hle hcb ↦ ?_, hinv.own⟩
  by_cases hheld : ∃ i, s.used i = true ∧ (s.blocks i).serial = serial
  · obtain ⟨i, hused, rfl⟩ := hheld
    rcases hinv.live i hused with hopen | hrun
    · exact .inl ⟨i, hused, rfl, hopen.timeout, hopen.untold⟩
    · exact .inr (.inl ⟨i, hused, rfl, hrun.frame, hrun.told⟩)
  · push Not at hheld
    refine .inr (.inr ⟨hheld, ?_⟩)
    rw [hinv.ended serial hpos hle hheld, if_pos hcb]

/-- The connection of the sample runs. -/
def sampleKey : Key := ⟨1, 2, 41230, 0, 0, 0⟩

/-- A packet is sent, its send report comes, then its acknowledgement, twice. -/
theorem sends_reported_once_acknowledged :
    ReportedOnce (run step Sessions.init
      [.send sampleKey true .later, .sendDone 0, .ack 1, .ret, .ack 1]) 1 :=
  (sends_reported_once [.send sampleKey true .later, .sendDone 0, .ack 1, .ret, .ack 1]
    (by decide +kernel)).1 1 (by decide) (by decide +kernel) (by decide +kernel)

/-- The send report comes after the acknowledgement: it starts the timer of the free block, and when
that expires the callback is called a second time. -/
theorem reported_twice :
    ¬ ∀ inputs : List Input,
      (∀ serial, 1 ≤ serial → serial ≤ (run step Sessions.init inputs).lastSerial →
        (run step Sessions.init inputs).hasCb serial = true →
          ReportedOnce (run step Sessions.init inputs) serial) ∧
        ∀ entry ∈ (run step Sessions.init inputs).log, entry.cause = entry.serial := by
  intro hall
  have hreported :=
    (hall [.send sampleKey true .later, .ack 1, .ret, .sendDone 0, .timeout 0, .ret]).1 1
    (by decide) (by decide +kernel) (by decide +kernel)
  have htwice : tolds 1 (run step Sessions.init
      [.send sampleKey true .later, .ack 1, .ret, .sendDone 0, .timeout 0, .ret]).log = 2 := by
    decide +kernel
  rcases hreported with ⟨i, -, -, -, hnone⟩ | ⟨i, -, -, -, hone⟩ | ⟨-, hone⟩
  · rw [htwice] at hnone
    exact absurd hnone (by decide)
  · rw [htwice] at hone
    exact absurd hone (by decide)
  · rw [htwice] at hone
    exact absurd hone (by decide)

end ZipGateway.UdpSession
