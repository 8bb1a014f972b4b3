import ZipGateway.Lib.Once
import ZipGateway.Mailbox.SingleDelivery

/-!
# The cursor of the mailbox

While the state machine waits for the report of a frame, for an answer of the proxy or for the reply
to a ping, `last_entry` is the entry that this is about. The entry stays in the list, unless a purge
drops it: `mb_failing_notify_byip` frees old entries of a failing node without a look at
`last_entry`, and `mb_init` empties the list. In a run in which that does not happen, every entry
that the state machine follows is in the list, none is freed twice, and the one that it frees is the
one that was sent (`cursor_valid`).
-/

set_option autoImplicit false

namespace ZipGateway.Mailbox

open Lib Contiki List

/-! ### The entries -/

/-- The state machine waits for something about `last_entry`. -/
def State.holdsCursor : State → Bool
  | .sending => true
  | .sendingThroughProxy => true
  | .pingZipclients => true
  | _ => false

/-- What is followed is in the list, what is freed is allocated, and what is delivered was sent. -/
def Act.isSound : Act → Bool
  | .cursor listed => listed
  | .freed _ allocated => allocated
  | .delivered serial sent => serial == sent
  | _ => true

/-- The entry with the serial number is freed. -/
def Act.frees (n : ℕ) : Act → Bool
  | .freed serial _ => serial == n
  | _ => false

/-- The serial number of a block. -/
def MailboxState.serial (s : MailboxState) (i : Fin maxMailboxEntries) : ℕ := (s.blocks i).serial

/-- The entries of the list are allocated, have different serial numbers and were not freed, and
what was done so far was sound. -/
structure EntriesOk (s : MailboxState) : Prop where
  nodup : s.mbList.Nodup
  listed : ∀ i ∈ s.mbList, s.used i = true
  bound : ∀ i ∈ s.mbList, s.serial i ≤ s.lastSerial
  distinct : ∀ i ∈ s.mbList, ∀ j ∈ s.mbList, s.serial i = s.serial j → i = j
  once : Once Act.frees s.serial (· ∈ s.mbList) s.lastSerial s.log
  sound : ∀ act ∈ s.log, act.isSound = true

section Entries

variable {s t : MailboxState} {i m : Fin maxMailboxEntries} {config : Config} {answers : Answers}

/-- The list stays, and sound acts are logged that free nothing. -/
theorem EntriesOk.mono (hok : EntriesOk s) (hmbList : t.mbList = s.mbList)
    (hused : ∀ i ∈ s.mbList, t.used i = true) (hserial : ∀ i ∈ s.mbList, t.serial i = s.serial i)
    (hlastSerial : t.lastSerial = s.lastSerial) {acts : List Act} (hlog : t.log = acts ++ s.log)
    (hfrees : ∀ act ∈ acts, ∀ n, act.frees n = false) (hsound : ∀ act ∈ acts, act.isSound = true) :
    EntriesOk t := by
  have hcount : ∀ n, t.log.countP (Act.frees n) = s.log.countP (Act.frees n) := by
    intro n
    have hnone : acts.countP (Act.frees n) = 0 :=
      countP_eq_zero.mpr fun act hact ↦ by simp [hfrees act hact n]
    rw [hlog, countP_append, hnone, Nat.zero_add]
  refine ⟨hmbList ▸ hok.nodup, fun i hi ↦ hused i (hmbList ▸ hi), fun i hi ↦ ?_,
    fun i hi j hj hsame ↦ ?_, ⟨fun n ↦ ?_, fun i hi ↦ ?_, fun n hn ↦ ?_⟩, fun act hact ↦ ?_⟩
  · rw [hmbList] at hi
    rw [hserial i hi, hlastSerial]
    exact hok.bound i hi
  · rw [hmbList] at hi hj
    rw [hserial i hi, hserial j hj] at hsame
    exact hok.distinct i hi j hj hsame
  · rw [hcount]
    exact hok.once.most n
  · rw [hmbList] at hi
    rw [hcount, hserial i hi]
    exact hok.once.unpaid i hi
  · rw [hcount]
    exact hok.once.fresh n (hlastSerial ▸ hn)
  · rw [hlog, mem_append] at hact
    rcases hact with hact | hact
    · exact hsound act hact
    · exact hok.sound act hact

theorem isSound_of_isControl {act : Act} (hact : act.isControl = true) : act.isSound = true := by
  cases act <;> first | rfl | exact absurd hact (by simp [Act.isControl])

theorem frees_of_isControl {act : Act} (hact : act.isControl = true) (n : ℕ) :
    act.frees n = false := by
  cases act <;> first | rfl | exact absurd hact (by simp [Act.isControl])

theorem EntriesOk.control (hok : EntriesOk s) (hcontrol : Control s t) : EntriesOk t := by
  obtain ⟨acts, hlog, hacts⟩ := hcontrol.log
  refine hok.mono hcontrol.mbList (fun i hi ↦ ?_) (fun i _ ↦ ?_) hcontrol.lastSerial hlog
    (fun act hact ↦ frees_of_isControl (hacts act hact)) fun act hact ↦
    isSound_of_isControl (hacts act hact)
  · rw [hcontrol.used]
    exact hok.listed i hi
  · unfold MailboxState.serial
    rw [hcontrol.blocks]

/-- A sound act is logged that frees nothing. -/
theorem EntriesOk.act (hok : EntriesOk s) {act : Act} (hsound : act.isSound = true)
    (hfrees : ∀ n, act.frees n = false) : EntriesOk (s.act act) :=
  hok.mono rfl hok.listed (fun _ _ ↦ rfl) rfl (singleton_append).symm
    (fun _ hother ↦ mem_singleton.mp hother ▸ hfrees)
    fun _ hother ↦ mem_singleton.mp hother ▸ hsound

theorem EntriesOk.follow (hok : EntriesOk s) (hi : i ∈ s.mbList) :
    EntriesOk (s.follow (some i)) := by
  refine hok.act ?_ fun _ ↦ rfl
  simp [Act.isSound, hi]

/-- Something but the serial number is written to a block. -/
theorem EntriesOk.modify (hok : EntriesOk s) {change : Entry → Entry}
    (hserial : ∀ entry, (change entry).serial = entry.serial) : EntriesOk (s.modify i change) :=
  hok.mono rfl hok.listed (fun j _ ↦ modify_field s (·.serial) change (hserial _) j) rfl
    (nil_append _).symm (fun _ h ↦ absurd h not_mem_nil) fun _ h ↦ absurd h not_mem_nil

theorem EntriesOk.command (hok : EntriesOk s) (command : UInt8) (i : Fin maxMailboxEntries) :
    EntriesOk (sendMbProxyQueueCommand command i s) := by
  unfold sendMbProxyQueueCommand
  split
  · exact hok.act rfl fun _ ↦ rfl
  · refine EntriesOk.act ?_ rfl fun _ ↦ rfl
    exact hok.modify fun _ ↦ rfl

theorem EntriesOk.forward (hok : EntriesOk s) (data : List UInt8) :
    EntriesOk (forward config data s) := by
  unfold Mailbox.forward
  split
  · exact hok.act rfl fun _ ↦ rfl
  · refine EntriesOk.act ?_ rfl fun _ ↦ rfl
    exact hok.modify fun _ ↦ rfl

theorem freeEntry_serial (s : MailboxState) (i j : Fin maxMailboxEntries) :
    (s.freeEntry i).serial j = s.serial j := by
  unfold MailboxState.freeEntry MailboxState.serial
  dsimp only
  exact modify_field s (·.serial) _ (by rfl) j

/-- A block is freed that was not freed before, and the number of which no other entry has. -/
theorem EntriesOk.freeEntry (hok : EntriesOk s) (hused : s.used i = true)
    (hbound : s.serial i ≤ s.lastSerial) (hunpaid : s.log.countP (Act.frees (s.serial i)) = 0)
    (hother : ∀ j ∈ s.mbList, j ≠ i → s.serial j ≠ s.serial i) : EntriesOk (s.freeEntry i) := by
  have hmem : ∀ {j}, j ∈ listRemove s.mbList i → j ≠ i ∧ j ∈ s.mbList := fun hj ↦
    (mem_listRemove hok.nodup).mp hj
  have hpaid : Once Act.frees s.serial (· ∈ listRemove s.mbList i) s.lastSerial
      (.freed (s.serial i) (s.used i) :: s.log) := by
    refine hok.once.pay (fun n hn ↦ ?_) hunpaid hbound fun j hj ↦ ?_
    · exact (beq_iff_eq.mp hn).symm
    · exact ⟨(hmem hj).2, hother j (hmem hj).2 (hmem hj).1⟩
  refine ⟨nodup_listRemove hok.nodup, fun j hj ↦ ?_, fun j hj ↦ ?_, fun j hj k hk hsame ↦ ?_, ?_,
    fun act hact ↦ ?_⟩
  · exact (membFree_of_ne s.used (hmem hj).1).trans (hok.listed j (hmem hj).2)
  · rw [freeEntry_serial]
    exact hok.bound j (hmem hj).2
  · rw [freeEntry_serial, freeEntry_serial] at hsame
    exact hok.distinct j (hmem hj).2 k (hmem hk).2 hsame
  · exact hpaid.mono fun j hj ↦ ⟨hj, freeEntry_serial s i j⟩
  · rcases mem_cons.mp hact with rfl | hact
    · exact hused
    · exact hok.sound act hact

theorem EntriesOk.freeListed (hok : EntriesOk s) (hi : i ∈ s.mbList) : EntriesOk (s.freeEntry i) :=
  hok.freeEntry (hok.listed i hi) (hok.bound i hi) (hok.once.unpaid i hi) fun j hj hji hsame ↦
    hji (hok.distinct j hj i hi hsame)

theorem EntriesOk.deliver (hok : EntriesOk s) (hi : i ∈ s.mbList)
    (hsent : s.lastSent = s.serial i) : EntriesOk (deliver s i) := by
  have hnoted : EntriesOk (s.act (.delivered (s.blocks i).serial s.lastSent)) := by
    refine hok.act ?_ fun _ ↦ rfl
    rw [hsent]
    exact beq_self_eq_true _
  exact hnoted.freeListed hi

end Entries

/-! ### The cursor -/

/-- While the state machine waits for something about `last_entry`, that is an entry of the list,
and the one that was sent if it waits for a report. -/
structure CursorOk (s : MailboxState) : Prop extends EntriesOk s where
  cursor : s.state.holdsCursor = true →
    ∃ i ∈ s.mbList, s.lastEntry = some i ∧ (s.state ≠ .pingZipclients → s.lastSent = s.serial i)

section Cursor

variable {s t : MailboxState} {i m : Fin maxMailboxEntries} {config : Config} {answers : Answers}

/-- The state machine does not wait for anything about `last_entry`. -/
theorem EntriesOk.cursor_free (hok : EntriesOk s) (hstate : s.state.holdsCursor = false) :
    CursorOk s :=
  ⟨hok, fun hholds ↦ absurd (hstate.symm.trans hholds) Bool.false_ne_true⟩

/-- The state machine does not move, and its entry stays in the list. -/
theorem CursorOk.keep (hok : CursorOk s) (hentries : EntriesOk t) (hstate : t.state = s.state)
    (hlastEntry : t.lastEntry = s.lastEntry) (hlastSent : t.lastSent = s.lastSent)
    (hkept : s.state.holdsCursor = true → ∀ i ∈ s.mbList, s.lastEntry = some i →
      i ∈ t.mbList ∧ t.serial i = s.serial i) : CursorOk t := by
  refine ⟨hentries, fun hholds ↦ ?_⟩
  rw [hstate] at hholds
  obtain ⟨i, hi, hentry, hsent⟩ := hok.cursor hholds
  obtain ⟨hmem, hserial⟩ := hkept hholds i hi hentry
  refine ⟨i, hmem, hlastEntry.trans hentry, fun hping ↦ ?_⟩
  rw [hlastSent, hserial]
  exact hsent (hstate ▸ hping)

/-- Only variables change that the cursor does not depend on. -/
theorem CursorOk.same (hok : CursorOk s) (hcontrol : Control s t) (hstate : t.state = s.state)
    (hlastEntry : t.lastEntry = s.lastEntry) (hlastSent : t.lastSent = s.lastSent) :
    CursorOk t := by
  refine hok.keep (hok.toEntriesOk.control hcontrol) hstate hlastEntry hlastSent fun _ i hi _ ↦ ?_
  unfold MailboxState.serial
  rw [hcontrol.blocks, hcontrol.mbList]
  exact ⟨hi, rfl⟩

theorem mbSendNoMoreInformation_holdsCursor (hstate : s.state.holdsCursor = false) :
    (mbSendNoMoreInformation answers s).state.holdsCursor = false := by
  unfold mbSendNoMoreInformation
  split_ifs
  · exact hstate
  · rfl
  · rfl

theorem mbSendProxyStatus_state (s : MailboxState) : (mbSendProxyStatus s).state = s.state := by
  unfold mbSendProxyStatus
  split_ifs
  · rfl
  · rfl
  · rfl

theorem EntriesOk.goIdle (hok : EntriesOk s) : CursorOk (goIdle s) :=
  (hok.control (control_goIdle s)).cursor_free rfl

theorem EntriesOk.goSendNoMoreInfo (hok : EntriesOk s) : CursorOk (goSendNoMoreInfo answers s) := by
  refine (hok.control (control_goSendNoMoreInfo s)).cursor_free ?_
  refine mbSendNoMoreInformation_holdsCursor ?_
  rw [mbSendProxyStatus_state]
  rfl

theorem EntriesOk.nothingToSend (hok : EntriesOk s) : CursorOk (nothingToSend answers s) := by
  unfold Mailbox.nothingToSend
  split_ifs
  · exact hok.goSendNoMoreInfo
  · refine EntriesOk.cursor_free ?_ rfl
    exact hok.control (control_of_same rfl rfl rfl rfl rfl rfl)

/-- `ClassicZIPNode_input` leaves everything but the frame in flight and the log. -/
theorem classicZIPNodeInput_eq (flight : Flight) (outcome : InputOutcome) (s : MailboxState) :
    ∃ inFlight acts, (classicZIPNodeInput flight outcome s).1 =
        { s with inFlight := inFlight, log := acts ++ s.log } ∧
      ∀ act ∈ acts, act = .handed flight ∨ act = .taken flight := by
  have hhanded : ∀ act ∈ [Act.handed flight], act = .handed flight ∨ act = .taken flight :=
    fun act hact ↦ Or.inl (mem_singleton.mp hact)
  unfold classicZIPNodeInput
  cases outcome with
  | reported status => exact ⟨s.inFlight, [.handed flight], rfl, hhanded⟩
  | refused =>
    dsimp only
    split_ifs
    · exact ⟨s.inFlight, [.handed flight], rfl, hhanded⟩
    · exact ⟨s.inFlight, [.handed flight], rfl, hhanded⟩
  | taken =>
    dsimp only
    split_ifs
    · exact ⟨s.inFlight, [.handed flight], rfl, hhanded⟩
    · refine ⟨some flight, [.taken flight, .handed flight], rfl, fun act hact ↦ ?_⟩
      rcases mem_cons.mp hact with hact | hact
      · exact Or.inr hact
      · exact hhanded act hact

theorem EntriesOk.classicZIPNodeInput (hok : EntriesOk s) (flight : Flight)
    (outcome : InputOutcome) : EntriesOk (classicZIPNodeInput flight outcome s).1 := by
  obtain ⟨inFlight, acts, hinput, hacts⟩ := classicZIPNodeInput_eq flight outcome s
  rw [hinput]
  refine hok.mono rfl hok.listed (fun _ _ ↦ rfl) rfl rfl (fun act hact n ↦ ?_) fun act hact ↦ ?_
  · rcases hacts act hact with rfl | rfl
    · rfl
    · rfl
  · rcases hacts act hact with rfl | rfl
    · rfl
    · rfl

theorem EntriesOk.sentEntry (hok : EntriesOk s) (hi : i ∈ s.mbList)
    (hsent : s.lastSent = s.serial i) : EntriesOk (sentEntry s i) := by
  have hfollowed := hok.follow hi
  unfold Mailbox.sentEntry
  dsimp only
  split_ifs
  · exact hfollowed.deliver hi hsent
  · exact hfollowed

/-- The other entries of the list stay there. -/
theorem mem_sentEntry (hnodup : s.mbList.Nodup) {j : Fin maxMailboxEntries} (hj : j ∈ s.mbList)
    (hji : j ≠ i) : j ∈ (sentEntry s i).mbList := by
  unfold sentEntry
  dsimp only
  split_ifs
  · exact (mem_listRemove hnodup).mpr ⟨hji, hj⟩
  · exact hj

/-- The search for the next entry goes through entries of the list. -/
theorem sendFrom_cursor {list : List (Fin maxMailboxEntries)} (hok : EntriesOk s)
    (hlisted : ∀ i ∈ list, i ∈ s.mbList) (hnodup : list.Nodup) :
    CursorOk (sendFrom config answers list s) := by
  induction list generalizing s with
  | nil =>
    refine EntriesOk.nothingToSend ?_
    exact hok.control (control_of_same rfl rfl rfl rfl rfl rfl)
  | cons i rest ih =>
    have hi := hlisted i mem_cons_self
    have hrest : ∀ j ∈ rest, j ∈ s.mbList := fun j hj ↦ hlisted j (mem_cons_of_mem i hj)
    obtain ⟨hfirst, hnodup'⟩ := nodup_cons.mp hnodup
    have hfollowed := hok.follow hi
    unfold sendFrom
    dsimp only
    by_cases hnode : config.nodeOfIp (destIpAddr ((s.follow (some i)).blocks i).data) =
        (s.follow (some i)).node
    · rw [if_pos hnode]
      generalize htaken : Mailbox.classicZIPNodeInput _ _ _ = result
      have hu : EntriesOk result.1 := by
        rw [← htaken]
        refine EntriesOk.classicZIPNodeInput ?_ _ _
        exact hfollowed.control (control_of_same rfl rfl rfl rfl rfl rfl)
      obtain ⟨hmbList, hentry, hsent⟩ : result.1.mbList = s.mbList ∧ result.1.lastEntry = some i ∧
          result.1.lastSent = result.1.serial i := by
        obtain ⟨inFlight, acts, hinput, -⟩ := classicZIPNodeInput_eq _ _ _
        rw [← htaken, hinput]
        exact ⟨rfl, rfl, rfl⟩
      obtain ⟨u, outcome⟩ := result
      cases outcome with
      | taken => exact ⟨hu, fun _ ↦ ⟨i, hmbList ▸ hi, hentry, fun _ ↦ hsent⟩⟩
      | refused => exact hu.goSendNoMoreInfo
      | reported status =>
        have hstatus : EntriesOk { u with txStatus := status } :=
          hu.control (control_of_same rfl rfl rfl rfl rfl rfl)
        have hsentEntry : EntriesOk (Mailbox.sentEntry { u with txStatus := status } i) :=
          hstatus.sentEntry (hmbList ▸ hi) hsent
        refine ih hsentEntry (fun j hj ↦ ?_) hnodup'
        refine mem_sentEntry hstatus.nodup (hmbList ▸ hrest j hj) fun hji ↦ ?_
        exact hfirst (hji ▸ hj)
    · rw [if_neg hnode]
      exact ih hfollowed hrest hnodup'

theorem goSending_cursor (hok : EntriesOk s) : CursorOk (goSending config answers s) := by
  refine sendFrom_cursor ?_ (fun _ h ↦ h) hok.nodup
  exact hok.control (control_of_same rfl rfl rfl rfl rfl rfl)

theorem sending_cursor (hok : CursorOk s) (hstate : s.state = .sending) {event : Event}
    (hevent : event ≠ .transition) : CursorOk (sending config answers event s) := by
  obtain ⟨i, hi, hentry, hsent⟩ := hok.cursor (by rw [hstate]; rfl)
  have hnodup := nodup_cons_listAfter hok.nodup hi
  unfold sending
  split
  · rw [hentry]
    dsimp only
    refine sendFrom_cursor (hok.toEntriesOk.sentEntry hi (hsent (by simp [hstate]))) (fun j hj ↦ ?_)
      (nodup_cons.mp hnodup).2
    refine mem_sentEntry hok.nodup (mem_of_mem_listAfter hj) fun hji ↦ ?_
    exact (nodup_cons.mp hnodup).1 (hji ▸ hj)
  · exact absurd rfl hevent
  · unfold fromLastEntry
    rw [hentry]
    refine sendFrom_cursor hok.toEntriesOk (fun j hj ↦ ?_) hnodup
    rcases mem_cons.mp hj with rfl | hj
    · exact hi
    · exact mem_of_mem_listAfter hj

theorem probeWakeupInterval_cursor (hok : EntriesOk s) (hstate : s.state.holdsCursor = false)
    (event : Event) : CursorOk (probeWakeupInterval config answers event s) := by
  have hlogged := hok.control (control_act s (.wakeUpIntervalGet s.node) rfl)
  unfold probeWakeupInterval
  split
  · dsimp only
    split_ifs
    · exact hlogged.cursor_free hstate
    · exact goSending_cursor hlogged
  · exact goSending_cursor hok
  · exact hok.cursor_free hstate

theorem sendMbProxyQueueCommand_fields (command : UInt8) (i : Fin maxMailboxEntries)
    (s : MailboxState) : (sendMbProxyQueueCommand command i s).lastEntry = s.lastEntry ∧
      (sendMbProxyQueueCommand command i s).lastSent = s.lastSent ∧
      (sendMbProxyQueueCommand command i s).state = s.state := by
  unfold sendMbProxyQueueCommand
  split
  · exact ⟨rfl, rfl, rfl⟩
  · exact ⟨rfl, rfl, rfl⟩

theorem sendMbProxyQueueCommand_serial (command : UInt8) (i : Fin maxMailboxEntries)
    (s : MailboxState)
    (j : Fin maxMailboxEntries) : (sendMbProxyQueueCommand command i s).serial j = s.serial j := by
  unfold sendMbProxyQueueCommand MailboxState.serial
  split
  · rfl
  · dsimp only [MailboxState.act]
    exact modify_field s (·.serial) _ (by rfl) j

theorem CursorOk.command (hok : CursorOk s) (command : UInt8) (i : Fin maxMailboxEntries) :
    CursorOk (sendMbProxyQueueCommand command i s) := by
  obtain ⟨hlastEntry, hlastSent, hstate⟩ := sendMbProxyQueueCommand_fields command i s
  refine hok.keep (hok.toEntriesOk.command command i) hstate hlastEntry hlastSent fun _ j hj _ ↦ ?_
  rw [sendMbProxyQueueCommand_mbList, sendMbProxyQueueCommand_serial]
  exact ⟨hj, rfl⟩

theorem pingFrom_cursor {list : List (Fin maxMailboxEntries)} (hok : EntriesOk s)
    (hstate : s.state = .pingZipclients) (hlisted : ∀ i ∈ list, i ∈ s.mbList) :
    CursorOk (pingFrom answers list s) := by
  induction list generalizing s with
  | nil =>
    refine EntriesOk.goIdle ?_
    exact hok.control (control_of_same rfl rfl rfl rfl rfl rfl)
  | cons i rest ih =>
    have hi := hlisted i mem_cons_self
    have hrest : ∀ j ∈ rest, j ∈ s.mbList := fun j hj ↦ hlisted j (mem_cons_of_mem i hj)
    have hset : EntriesOk { s with lastEntry := some i } :=
      hok.control (control_of_same rfl rfl rfl rfl rfl rfl)
    have hfollowed : EntriesOk ({ s with lastEntry := some i }.follow (some i)) := hset.follow hi
    have hpinged : EntriesOk (({ s with lastEntry := some i }.follow (some i)).act .ping) :=
      hfollowed.act rfl fun _ ↦ rfl
    unfold pingFrom
    dsimp only
    split_ifs
    · exact ih hfollowed hstate hrest
    · split
      · exact ⟨hpinged, fun _ ↦ ⟨i, hi, rfl, fun hping ↦ absurd hstate hping⟩⟩
      case h_2 status _ =>
        have hstatus : EntriesOk { ({ s with lastEntry := some i }.follow (some i)).act .ping with
            txStatus := status } := hpinged.control (control_of_same rfl rfl rfl rfl rfl rfl)
        have hreplied := hstatus.follow hi
        refine ih ?_ hstate hrest
        exact hreplied.modify fun _ ↦ rfl
    · exact CursorOk.command ⟨hfollowed, fun _ ↦ ⟨i, hi, rfl, fun hping ↦ absurd hstate hping⟩⟩ _ i

theorem pingZipclients_cursor (hok : CursorOk s) (hstate : s.state = .pingZipclients)
    {event : Event} (hevent : event ≠ .transition) : CursorOk (pingZipclients answers event s) := by
  obtain ⟨i, hi, hentry, -⟩ := hok.cursor (by rw [hstate]; rfl)
  unfold pingZipclients
  split
  · exact absurd rfl hevent
  · rw [hentry]
    dsimp only
    refine pingFrom_cursor ?_ hstate fun j hj ↦ mem_of_mem_listAfter hj
    exact (hok.toEntriesOk.follow hi).modify fun _ ↦ rfl
  · exact hok

theorem sendProxyEntry_cursor (hok : EntriesOk s) : CursorOk (sendProxyEntry answers s) := by
  unfold sendProxyEntry
  split
  · refine EntriesOk.goIdle ?_
    exact hok.control (control_of_same rfl rfl rfl rfl rfl rfl)
  case h_2 i others hentries =>
    have hi : i ∈ s.mbList := by
      have hmem : i ∈ proxyEntries s := hentries ▸ mem_cons_self
      exact mem_of_mem_filter hmem
    have hset : EntriesOk { s with lastEntry := some i, lastSent := (s.blocks i).serial } :=
      hok.control (control_of_same rfl rfl rfl rfl rfl rfl)
    exact CursorOk.command ⟨hset.follow hi, fun _ ↦ ⟨i, hi, rfl, fun _ ↦ rfl⟩⟩ _ i

theorem sendingThroughProxy_cursor (hok : CursorOk s) (hstate : s.state = .sendingThroughProxy)
    (event : Event) : CursorOk (sendingThroughProxy answers event s) := by
  obtain ⟨i, hi, hentry, hsent⟩ := hok.cursor (by rw [hstate]; rfl)
  unfold sendingThroughProxy
  split
  · exact hok.toEntriesOk.goIdle
  · exact sendProxyEntry_cursor hok.toEntriesOk
  · split_ifs
    · rw [hentry]
      have hfollowed := hok.toEntriesOk.follow hi
      have hentry' : (s.follow (some i)).lastEntry = some i := hentry
      dsimp only
      rw [hentry']
      exact sendProxyEntry_cursor (hfollowed.deliver hi (hsent (by simp [hstate])))
    · exact sendProxyEntry_cursor hok.toEntriesOk
  · exact hok

theorem EntriesOk.sentFromProxy (hok : EntriesOk s) : CursorOk (sentFromProxy answers s) := by
  unfold Mailbox.sentFromProxy
  split_ifs
  · exact (hok.control (control_mbSendProxyStatus s)).goIdle
  · exact hok.goSendNoMoreInfo

theorem EntriesOk.popFrame (hok : EntriesOk s) (hstate : s.state.holdsCursor = false) :
    CursorOk (popFrame answers s) := by
  have hinput := hok.classicZIPNodeInput .popped answers.inputPopped
  obtain ⟨inFlight, acts, heq, -⟩ := classicZIPNodeInput_eq .popped answers.inputPopped s
  have hsame : (Mailbox.classicZIPNodeInput .popped answers.inputPopped s).1.state = s.state := by
    rw [heq]
  unfold Mailbox.popFrame
  generalize Mailbox.classicZIPNodeInput .popped answers.inputPopped s = result at hinput hsame
  obtain ⟨u, outcome⟩ := result
  have hstatus : ∀ status, EntriesOk { u with txStatus := status } := fun _ ↦
    hinput.control (control_of_same rfl rfl rfl rfl rfl rfl)
  cases outcome with
  | taken => exact hinput.cursor_free (hsame ▸ hstate)
  | refused => exact (hstatus transmitCompleteFail).sentFromProxy
  | reported status => exact (hstatus status).sentFromProxy

theorem idle_cursor (hok : CursorOk s) (event : Event) :
    CursorOk (idle config answers event s) := by
  have hset : ∀ (lastEntry : Option (Fin maxMailboxEntries)) (state : State),
      EntriesOk { s with lastEntry := lastEntry, state := state } := fun _ _ ↦
    hok.toEntriesOk.control (control_of_same rfl rfl rfl rfl rfl rfl)
  unfold idle
  split
  · exact pingFrom_cursor (hset _ _) rfl fun _ h ↦ h
  · refine EntriesOk.cursor_free ?_ rfl
    exact (hok.toEntriesOk.control (control_act s .ping rfl)).control
      (control_of_same rfl rfl rfl rfl rfl rfl)
  · split_ifs
    · exact sendProxyEntry_cursor (hset _ _)
    · exact probeWakeupInterval_cursor (hset s.lastEntry _) rfl .transition
    · exact goSending_cursor hok.toEntriesOk
    · refine EntriesOk.cursor_free ?_ (mbSendNoMoreInformation_holdsCursor rfl)
      exact (hset s.lastEntry _).control (control_mbSendNoMoreInformation _)
  · exact (hset s.lastEntry _).popFrame rfl
  · exact (hset s.lastEntry _).popFrame rfl
  · exact hok

theorem sendNoMoreInfoDelayed_cursor (hok : EntriesOk s) (hstate : s.state = .sendNoMoreInfoDelayed)
    (event : Event) : CursorOk (sendNoMoreInfoDelayed answers event s) := by
  refine (hok.control (control_sendNoMoreInfoDelayed event s)).cursor_free ?_
  have hholds : s.state.holdsCursor = false := by rw [hstate]; rfl
  unfold sendNoMoreInfoDelayed
  split
  · split_ifs
    · exact hholds
    · exact mbSendNoMoreInformation_holdsCursor rfl
  · exact hholds
  · exact hholds

theorem mbStateTransition_cursor (hok : CursorOk s) {event : Event} (hevent : event ≠ .transition) :
    CursorOk (mbStateTransition config answers event s) := by
  unfold mbStateTransition
  split
  case h_1 => exact idle_cursor hok event
  case h_2 hstate => exact probeWakeupInterval_cursor hok.toEntriesOk (by rw [hstate]; rfl) event
  case h_3 hstate => exact pingZipclients_cursor hok hstate hevent
  case h_4 hstate => exact sendingThroughProxy_cursor hok hstate event
  case h_5 hstate => exact sending_cursor hok hstate hevent
  case h_6 hstate => exact sendNoMoreInfoDelayed_cursor hok.toEntriesOk hstate event
  case h_7 =>
    split
    · exact hok.toEntriesOk.goSendNoMoreInfo
    · exact hok.toEntriesOk.goIdle
    · exact hok
  case h_8 =>
    split_ifs
    · exact hok.toEntriesOk.sentFromProxy
    · exact hok
  case h_9 =>
    split_ifs
    · exact hok.toEntriesOk.sentFromProxy
    · exact hok
  case h_10 => exact (hok.toEntriesOk.control (control_mbSendProxyStatus s)).goIdle

end Cursor

/-! ### Purges and posts -/

section Posts

variable {s t : MailboxState} {i m : Fin maxMailboxEntries} {config : Config} {answers : Answers}

theorem CursorOk.dropEntry (hok : CursorOk s) (hi : i ∈ s.mbList)
    (hkept : s.state.holdsCursor = true → s.lastEntry ≠ some i) : CursorOk (dropEntry s i) := by
  have hfree : ∀ {v : MailboxState}, CursorOk v → v.mbList = s.mbList → v.state = s.state →
      v.lastEntry = s.lastEntry → CursorOk (v.freeEntry i) := by
    intro v hv hmbList hstate hlastEntry
    refine hv.keep (hv.toEntriesOk.freeListed (hmbList ▸ hi)) rfl rfl rfl fun hholds j hj hentry ↦
      ?_
    refine ⟨(mem_listRemove hv.nodup).mpr ⟨fun hji ↦ ?_, hj⟩, freeEntry_serial v i j⟩
    rw [hstate] at hholds
    exact hkept hholds (hlastEntry.symm.trans (hji ▸ hentry))
  unfold Mailbox.dropEntry
  dsimp only
  split_ifs
  · exact hfree (hok.same (control_act s _ rfl) rfl rfl rfl) rfl rfl rfl
  · exact hfree hok rfl rfl rfl

theorem dropEntry_fields (s : MailboxState) (i : Fin maxMailboxEntries) :
    (dropEntry s i).mbList = listRemove s.mbList i ∧ (dropEntry s i).state = s.state ∧
      (dropEntry s i).lastEntry = s.lastEntry := by
  unfold dropEntry
  dsimp only
  split_ifs
  · exact ⟨rfl, rfl, rfl⟩
  · exact ⟨rfl, rfl, rfl⟩

theorem foldl_dropEntry_cursor {list : List (Fin maxMailboxEntries)} (hok : CursorOk s)
    (hlisted : ∀ i ∈ list, i ∈ s.mbList) (hnodup : list.Nodup)
    (hkept : s.state.holdsCursor = true → ∀ i ∈ list, s.lastEntry ≠ some i) :
    CursorOk (list.foldl dropEntry s) := by
  induction list generalizing s with
  | nil => exact hok
  | cons i rest ih =>
    obtain ⟨hfirst, hrest⟩ := nodup_cons.mp hnodup
    obtain ⟨hmbList, hstate, hlastEntry⟩ := dropEntry_fields s i
    have hdropped := hok.dropEntry (hlisted i mem_cons_self) fun hholds ↦
      hkept hholds i mem_cons_self
    refine ih hdropped (fun j hj ↦ ?_) hrest fun hholds j hj ↦ ?_
    · rw [hmbList]
      exact (mem_listRemove hok.nodup).mpr
        ⟨fun hji ↦ hfirst (hji ▸ hj), hlisted j (mem_cons_of_mem i hj)⟩
    · rw [hstate] at hholds
      rw [hlastEntry]
      exact hkept hholds j (mem_cons_of_mem i hj)

/-- The entry that the state machine waits for is not dropped. -/
def Spares (ip : Address) (now : ℕ) (s : MailboxState) : Prop :=
  s.state.holdsCursor = true → ∀ i ∈ s.mbList, s.lastEntry = some i →
    isDropped ip now (s.blocks i) = false

theorem mbFailingNotifyByip_cursor (hok : CursorOk s) {ip : Address} {now : ℕ}
    (hspares : Spares ip now s) : CursorOk (mbFailingNotifyByip ip now s) := by
  refine foldl_dropEntry_cursor hok (fun i hi ↦ mem_of_mem_filter hi) (hok.nodup.filter _)
    fun hholds i hi hentry ↦ ?_
  obtain ⟨hmem, hdropped⟩ := mem_filter.mp hi
  rw [hspares hholds i hmem hentry] at hdropped
  exact absurd hdropped Bool.false_ne_true

theorem mbPurgeMessages_cursor (hok : CursorOk s) {node : UInt16}
    (hspares : s.mbConfMode ≠ enableMailboxProxyForwarding →
      Spares (config.ipOfNode node) answers.clockSeconds s) :
    CursorOk (mbPurgeMessages config answers node s) := by
  unfold mbPurgeMessages
  split_ifs with hforwarding
  · exact hok.same (control_act s _ rfl) rfl rfl rfl
  · exact mbFailingNotifyByip_cursor hok (hspares hforwarding)

theorem EntriesOk.not_listed (hok : EntriesOk s) (halloc : membAlloc s.used = some m) :
    m ∉ s.mbList := by
  intro hmem
  have hused := hok.listed m hmem
  simp [membAlloc_some halloc] at hused

/-- A block with a new serial number. -/
structure Fresh (s : MailboxState) (m : Fin maxMailboxEntries) : Prop where
  unlisted : m ∉ s.mbList
  used : s.used m = true
  bound : s.serial m ≤ s.lastSerial
  unpaid : s.log.countP (Act.frees (s.serial m)) = 0
  other : ∀ j ∈ s.mbList, s.serial j ≠ s.serial m

theorem fillBlock_serial_of_ne (data : List UInt8) (proxy : Option Address) (handle : UInt8)
    {j : Fin maxMailboxEntries} (hjm : j ≠ m) :
    (fillBlock answers data proxy handle m s).serial j = s.serial j := by
  unfold MailboxState.serial
  rw [fillBlock_of_ne answers data proxy handle s hjm]

theorem fillBlock_serial_self (data : List UInt8) (proxy : Option Address) (handle : UInt8) :
    (fillBlock answers data proxy handle m s).serial m = s.lastSerial + 1 := by
  unfold fillBlock MailboxState.serial
  dsimp only
  rw [modify_self]

theorem EntriesOk.fillBlock (hok : EntriesOk s) (halloc : membAlloc s.used = some m)
    (data : List UInt8) (proxy : Option Address) (handle : UInt8) :
    EntriesOk (fillBlock answers data proxy handle m s) ∧
      Fresh (fillBlock answers data proxy handle m s) m := by
  have hm := hok.not_listed halloc
  have hne : ∀ {j}, j ∈ s.mbList → j ≠ m := fun hj hjm ↦ hm (hjm ▸ hj)
  have hserial : ∀ {j}, j ∈ s.mbList →
      (Mailbox.fillBlock answers data proxy handle m s).serial j = s.serial j := fun hj ↦
    fillBlock_serial_of_ne data proxy handle (hne hj)
  have hself : (Mailbox.fillBlock answers data proxy handle m s).serial m = s.lastSerial + 1 :=
    fillBlock_serial_self data proxy handle
  have honce :
      Once Act.frees (Mailbox.fillBlock answers data proxy handle m s).serial (· ∈ s.mbList)
      (s.lastSerial + 1) (.posted (s.lastSerial + 1) proxy handle data :: s.log) := by
    refine (hok.once.allocate fun j hj ↦ ?_).skip fun _ ↦ rfl
    exact Or.inr ⟨hj, hserial hj⟩
  refine ⟨⟨hok.nodup, fun j hj ↦ ?_, fun j hj ↦ ?_, fun j hj k hk hsame ↦ ?_, honce,
    fun act hact ↦ ?_⟩, ⟨hm, membTake_self s.used m, hself.le, ?_, fun j hj ↦ ?_⟩⟩
  · exact (membTake_of_ne s.used (hne hj)).trans (hok.listed j hj)
  · rw [hserial hj]
    exact (hok.bound j hj).trans (Nat.le_succ _)
  · rw [hserial hj, hserial hk] at hsame
    exact hok.distinct j hj k hk hsame
  · rcases mem_cons.mp hact with rfl | hact
    · rfl
    · exact hok.sound act hact
  · rw [hself]
    exact hok.once.fresh _ (Nat.lt_succ_self _)
  · rw [hserial hj, hself]
    exact (Nat.lt_succ_of_le (hok.bound j hj)).ne

theorem EntriesOk.listAdd (hok : EntriesOk s) (hfresh : Fresh s m) :
    EntriesOk { s with mbList := listAdd s.mbList m } := by
  refine ⟨nodup_listAdd hok.nodup, fun j hj ↦ ?_, fun j hj ↦ ?_, fun j hj k hk hsame ↦ ?_,
    ⟨hok.once.most, fun j hj ↦ ?_, hok.once.fresh⟩, hok.sound⟩
  · rcases mem_listAdd.mp hj with rfl | hj
    · exact hfresh.used
    · exact hok.listed j hj
  · rcases mem_listAdd.mp hj with rfl | hj
    · exact hfresh.bound
    · exact hok.bound j hj
  · rcases mem_listAdd.mp hj with hjm | hold <;> rcases mem_listAdd.mp hk with hkm | hold'
    · exact hjm.trans hkm.symm
    · exact absurd hsame.symm (hjm ▸ hfresh.other k hold')
    · exact absurd hsame (hkm ▸ hfresh.other j hold)
    · exact hok.distinct j hold k hold' hsame
  · rcases mem_listAdd.mp hj with rfl | hj
    · exact hfresh.unpaid
    · exact hok.once.unpaid j hj

theorem Fresh.command (hfresh : Fresh s m) (command : UInt8) (i : Fin maxMailboxEntries) :
    Fresh (sendMbProxyQueueCommand command i s) m := by
  have hlog : ∃ act, (sendMbProxyQueueCommand command i s).log = act :: s.log ∧
      (∀ n, act.frees n = false) ∧
      (sendMbProxyQueueCommand command i s).lastSerial = s.lastSerial := by
    unfold sendMbProxyQueueCommand
    split
    · exact ⟨_, rfl, fun _ ↦ rfl, rfl⟩
    · exact ⟨_, rfl, fun _ ↦ rfl, rfl⟩
  obtain ⟨act, hlog, hfrees, hlastSerial⟩ := hlog
  refine ⟨?_, ?_, ?_, ?_, fun j hj ↦ ?_⟩
  · rw [sendMbProxyQueueCommand_mbList]
    exact hfresh.unlisted
  · rw [sendMbProxyQueueCommand_used]
    exact hfresh.used
  · rw [sendMbProxyQueueCommand_serial, hlastSerial]
    exact hfresh.bound
  · rw [sendMbProxyQueueCommand_serial, hlog, countP_cons_of_neg (by simp [hfrees])]
    exact hfresh.unpaid
  · rw [sendMbProxyQueueCommand_mbList] at hj
    rw [sendMbProxyQueueCommand_serial, sendMbProxyQueueCommand_serial]
    exact hfresh.other j hj

theorem CursorOk.freeFresh (hok : CursorOk s) (hfresh : Fresh s m) : CursorOk (s.freeEntry m) := by
  refine hok.keep (hok.toEntriesOk.freeEntry hfresh.used hfresh.bound hfresh.unpaid fun j hj _ ↦
    hfresh.other j hj) rfl rfl rfl fun _ j hj _ ↦ ⟨?_, freeEntry_serial s m j⟩
  exact (mem_listRemove hok.nodup).mpr ⟨fun hjm ↦ hfresh.unlisted (hjm ▸ hj), hj⟩

theorem CursorOk.forward (hok : CursorOk s) (data : List UInt8) :
    CursorOk (forward config data s) := by
  have hentries : EntriesOk (Mailbox.forward config data s) := hok.toEntriesOk.forward data
  unfold Mailbox.forward at hentries ⊢
  split at hentries
  · exact hok.keep hentries rfl rfl rfl fun _ _ hi _ ↦ ⟨hi, rfl⟩
  · refine hok.keep hentries rfl rfl rfl fun _ i hi _ ↦ ⟨hi, ?_⟩
    dsimp only [MailboxState.act, MailboxState.serial]
    exact modify_field s (·.serial) _ (by rfl) i

/-- The packet is put into the list. -/
def isQueued (data : List UInt8) (proxy : Option Address) (s : MailboxState) : Bool :=
  isPostable data && s.mbConfMode != disableMailbox && s.mbConfMode !=
    enableMailboxProxyForwarding &&
    (membAlloc s.used).any fun m ↦ !(proxy.isSome && membFreeCount (membTake s.used m) = 1)

theorem mbPostUipbuf_cursor (hok : CursorOk s) (data : List UInt8) (proxy : Option Address)
    (handle : UInt8) (hspares : isQueued data proxy s = true → answers.nodeFailing = true →
      Spares (config.ipOfNode (config.nodeOfIp (destIpAddr data))) answers.clockSeconds s) :
    CursorOk (mbPostUipbuf config answers data proxy handle s) := by
  unfold mbPostUipbuf
  by_cases hignored : (!isPostable data || s.mbConfMode = disableMailbox) = true
  · rw [if_pos hignored]
    exact hok
  · rw [if_neg hignored]
    by_cases hforwarded : s.mbConfMode = enableMailboxProxyForwarding
    · rw [if_pos hforwarded]
      exact hok.forward data
    · rw [if_neg hforwarded]
      split
      case h_1 =>
        split_ifs
        · exact hok.same (control_act s _ rfl) rfl rfl rfl
        · exact hok
      case h_2 m halloc =>
        obtain ⟨hfilled, hfresh⟩ : EntriesOk (fillBlock answers data proxy handle m s) ∧
            Fresh (fillBlock answers data proxy handle m s) m :=
          hok.toEntriesOk.fillBlock halloc data proxy handle
        have hkept : ∀ i ∈ s.mbList, i ≠ m := fun i hi him ↦
          hok.toEntriesOk.not_listed halloc (him ▸ hi)
        dsimp only
        by_cases hfull :
          (proxy.isSome && membFreeCount (fillBlock answers data proxy handle m s).used =
            1) = true
        · rw [if_pos hfull]
          have hcursor : CursorOk (fillBlock answers data proxy handle m s) :=
            hok.keep hfilled rfl rfl rfl fun _ i hi _ ↦
              ⟨hi, fillBlock_serial_of_ne data proxy handle (hkept i hi)⟩
          exact (hcursor.command mailboxQueueFull m).freeFresh (hfresh.command mailboxQueueFull m)
        · rw [if_neg hfull]
          have hcursor : CursorOk { fillBlock answers data proxy handle m s with
              mbList := listAdd (fillBlock answers data proxy handle m s).mbList m } :=
            hok.keep (hfilled.listAdd hfresh) rfl rfl rfl fun _ i hi _ ↦
              ⟨mem_listAdd.mpr (Or.inr hi), fillBlock_serial_of_ne data proxy handle (hkept i hi)⟩
          split_ifs with hfailing
          · refine mbPurgeMessages_cursor hcursor fun _ hholds i hi hentry ↦ ?_
            have hqueued : isQueued data proxy s = true := by
              simp only [Bool.or_eq_true, Bool.not_eq_true', decide_eq_true_eq, not_or,
                Bool.not_eq_false] at hignored
              simp only [isQueued, halloc, Option.any_some, Bool.and_eq_true, bne_iff_ne]
              exact ⟨⟨⟨hignored.1, hignored.2⟩, hforwarded⟩, (Bool.not_eq_true' _).mpr
                (Bool.not_eq_true _ ▸ hfull)⟩
            -- the entry that was just put into the list is not old enough
            by_cases him : i = m
            · unfold isDropped
              simp [him, fillBlock, modify_self]
            · rw [fillBlock_of_ne answers data proxy handle s him]
              exact hspares hqueued hfailing hholds i ((mem_listAdd.mp hi).resolve_left him) hentry
          · exact hcursor

end Posts

/-! ### Runs -/

def purgedAddress (config : Config) (s : MailboxState) : Input × Answers → Option Address
  | (.nodeFailing ip, _) => some ip
  | (.purgeMessages node, _) =>
    if s.mbConfMode = enableMailboxProxyForwarding then none else some (config.ipOfNode node)
  | (.post data, answers) =>
    if isQueued data none s && answers.nodeFailing then
      some (config.ipOfNode (config.nodeOfIp (destIpAddr data)))
    else none
  | (.push ripaddr _ data, answers) =>
    if isQueued data (some ripaddr) s && answers.nodeFailing then
      some (config.ipOfNode (config.nodeOfIp (destIpAddr data)))
    else none
  | _ => none

/-- While the state machine waits for something about `last_entry`, the step neither drops that
entry because its node is failing, nor empties the mailbox. -/
structure Undropped (config : Config) (s : MailboxState) (input : Input × Answers) : Prop where
  spared : ∀ ip, purgedAddress config s input = some ip → Spares ip input.2.clockSeconds s
  kept : input.1 = .init → s.state.holdsCursor = false

section Runs

variable {s : MailboxState} {config : Config}

theorem EntriesOk.init (hok : EntriesOk s) : EntriesOk (mbInit s) := by
  refine ⟨nodup_nil, ?_, ?_, ?_, ⟨hok.once.most, ?_, hok.once.fresh⟩, hok.sound⟩
  · exact fun _ h ↦ absurd h not_mem_nil
  · exact fun _ h ↦ absurd h not_mem_nil
  · exact fun _ h ↦ absurd h not_mem_nil
  · exact fun _ h ↦ absurd h not_mem_nil

theorem cursorOk_powerUp (mbConfMode : UInt8) : CursorOk (.powerUp mbConfMode) := by
  refine EntriesOk.cursor_free ⟨nodup_nil, ?_, ?_, ?_, ⟨?_, ?_, ?_⟩, ?_⟩ rfl
  · exact fun _ h ↦ absurd h not_mem_nil
  · exact fun _ h ↦ absurd h not_mem_nil
  · exact fun _ h ↦ absurd h not_mem_nil
  · exact fun _ ↦ Nat.zero_le 1
  · exact fun _ h ↦ absurd h not_mem_nil
  · exact fun _ _ ↦ rfl
  · exact fun _ h ↦ absurd h not_mem_nil

theorem step_cursor (hok : CursorOk s) {input : Input × Answers}
    (hundropped : Undropped config s input) : CursorOk (step config s input) := by
  have htransition : ∀ {t event answers}, CursorOk t → event ≠ .transition →
      CursorOk (mbStateTransition config answers event t) := fun ht hevent ↦
    mbStateTransition_cursor ht hevent
  have hsame : ∀ {t}, Control s t → t.state = s.state → t.lastEntry = s.lastEntry →
      t.lastSent = s.lastSent → CursorOk t := fun hcontrol hstate hlastEntry hlastSent ↦
    hok.same hcontrol hstate hlastEntry hlastSent
  have hstatus : ∀ {status answers}, CursorOk (mbSendDone config answers status s) :=
    fun {status _} ↦ by
    unfold mbSendDone
    have hset : Control s { s with txStatus := status } := control_of_same rfl rfl rfl rfl rfl rfl
    exact htransition (hsame hset rfl rfl rfl) (by simp)
  obtain ⟨input, answers⟩ := input
  cases input with
  | post data =>
    simp only [step]
    refine mbPostUipbuf_cursor hok data none 0 fun hqueued hfailing ↦ ?_
    exact hundropped.spared _ (by simp [purgedAddress, hqueued, hfailing])
  | push ripaddr handle data =>
    simp only [step]
    refine mbPostUipbuf_cursor hok data (some ripaddr) handle fun hqueued hfailing ↦ ?_
    exact hundropped.spared _ (by simp [purgedAddress, hqueued, hfailing])
  | pop ripaddr rport handle node last =>
    simp only [step]
    have hset : Control s { s with
        node := node, handle := handle, ripaddr := ripaddr, rport := rport, sendNoMore := true } :=
      control_of_same rfl rfl rfl rfl rfl rfl
    split_ifs
    · exact htransition (hsame hset rfl rfl rfl) (by simp)
    · exact htransition (hsame hset rfl rfl rfl) (by simp)
    · exact hok
  | ping ripaddr rport handle =>
    have hset : Control s { s with ripaddr := ripaddr, rport := rport, handle := handle } :=
      control_of_same rfl rfl rfl rfl rfl rfl
    exact htransition (hsame hset rfl rfl rfl) (by simp)
  | ack ok => exact hstatus
  | wakeupNotification ripaddr rport handle =>
    have hset : Control s { s with
        node := 0, handle := handle, ripaddr := ripaddr, rport := rport, broadcastWun := false } :=
      control_of_same rfl rfl rfl rfl rfl rfl
    exact htransition (hsame hset rfl rfl rfl) (by simp)
  | nodeFailing ip =>
    simp only [step]
    exact mbFailingNotifyByip_cursor hok (hundropped.spared ip rfl)
  | configurationSet properties1 =>
    exact hsame (control_of_same rfl rfl rfl rfl rfl rfl) rfl rfl rfl
  | purgeMessages node =>
    simp only [step]
    refine mbPurgeMessages_cursor hok fun hforwarding ↦ ?_
    exact hundropped.spared _ (by simp [purgedAddress, hforwarding])
  | wakeup node isBroadcast =>
    have hset : Control s
        { s with node := node, sendNoMore := true, broadcastWun := isBroadcast } :=
      control_of_same rfl rfl rfl rfl rfl rfl
    simp only [step, mbWakeupEvent]
    split_ifs
    · exact hok
    · exact htransition (hsame hset rfl rfl rfl) (by simp)
    · exact hok
    · exact hsame (control_act s _ rfl) rfl rfl rfl
    · exact hok
  | sendDoneEvent status =>
    simp only [step, mbSendDone]
    split
    · exact hok
    case h_2 flight _ =>
      have hreported : EntriesOk { s with
          inFlight := none, log := .reported flight :: s.log, txStatus := status } :=
        hok.toEntriesOk.mono rfl hok.listed (fun _ _ ↦ rfl) rfl (singleton_append).symm
          (by simp [Act.frees]) (by simp [Act.isSound])
      refine htransition (hok.keep hreported rfl rfl rfl fun _ _ hi _ ↦ ⟨hi, rfl⟩) (by simp)
  | sendDone status => exact hstatus
  | udpPingReply status => exact hstatus
  | probeWakeupCallback => exact htransition hok (by simp)
  | sendPingTimeout => exact htransition hok (by simp)
  | sendWaitingTimeout i =>
    simp only [step, sendWaitingTimeout]
    split_ifs
    · exact hok
    · exact hsame (control_act s _ rfl) rfl rfl rfl
    · exact hok.command mailboxWaiting i
    · exact hok
  | noMoreTimeout =>
    have hset : Control s { s with noMoreTimer := false } := control_of_same rfl rfl rfl rfl rfl rfl
    simp only [step]
    split_ifs
    · exact htransition (hsame hset rfl rfl rfl) (by simp)
    · exact hok
  | putNodeToSleepLater node =>
    simp only [step]
    split_ifs
    · refine EntriesOk.cursor_free ?_ rfl
      exact hok.toEntriesOk.control (control_of_same rfl rfl rfl rfl rfl rfl)
    · exact hok
  | nodeTransmissionOkEvent node =>
    simp only [step]
    split_ifs
    · exact htransition hok (by simp)
    · exact hok
  | abortSending =>
    simp only [step]
    split_ifs
    · exact hok.toEntriesOk.goIdle
    · exact hok
  | init => exact hok.toEntriesOk.init.cursor_free (hundropped.kept rfl)

end Runs

/-- In every run in which no purge drops the entry that the state machine waits for, and the mailbox
is not emptied meanwhile: every entry that the state machine follows is in the list, a block that is
freed is allocated and no entry is freed twice, and the entry that the state machine frees is the
one that was sent. -/
theorem cursor_valid (config : Config) (mbConfMode : UInt8) (inputs : List (Input × Answers))
    (hundropped : AllSteps (step config) (Undropped config) (.powerUp mbConfMode) inputs) :
    (∀ listed, .cursor listed ∈ (run (step config) (.powerUp mbConfMode) inputs).log →
      listed = true) ∧
    (∀ serial allocated, .freed serial allocated ∈
      (run (step config) (.powerUp mbConfMode) inputs).log → allocated = true) ∧
    (∀ serial, (run (step config) (.powerUp mbConfMode) inputs).log.countP (Act.frees serial) ≤ 1) ∧
    ∀ serial sent, .delivered serial sent ∈ (run (step config) (.powerUp mbConfMode) inputs).log →
      serial = sent := by
  have hok : CursorOk (run (step config) (.powerUp mbConfMode) inputs) := by
    refine run_invariant_of_allSteps (fun state input hinput hstate ↦ ?_)
      (cursorOk_powerUp mbConfMode) hundropped
    exact step_cursor hstate hinput
  refine ⟨fun listed hmem ↦ ?_, fun serial allocated hmem ↦ ?_, hok.once.most,
    fun serial sent hmem ↦ ?_⟩
  · exact hok.sound _ hmem
  · exact hok.sound _ hmem
  · exact beq_iff_eq.mp (hok.sound _ hmem)

/-- The packet of a node that is failing since a short time only is sent and freed once. -/
theorem cursor_valid_young :
    (run (step sampleConfig) (.powerUp enableMailboxService)
      [(.post samplePacket, sampleAnswers), (.wakeup 7 false, sampleAnswers),
        (.nodeFailing unspecified, sampleAnswers), (.sendDoneEvent 0, sampleAnswers)]).log.countP
      (Act.frees 1) ≤ 1 := by
  refine (cursor_valid sampleConfig enableMailboxService
    [(.post samplePacket, sampleAnswers), (.wakeup 7 false, sampleAnswers),
      (.nodeFailing unspecified, sampleAnswers), (.sendDoneEvent 0, sampleAnswers)]
    ⟨?_, ?_, ?_, ?_, trivial⟩).2.2.1 1
  · refine ⟨fun ip hip ↦ ?_, fun hinit ↦ Input.noConfusion hinit⟩
    simp [purgedAddress, sampleAnswers] at hip
  · exact ⟨fun ip hip ↦ absurd hip (by simp [purgedAddress]), fun hinit ↦ Input.noConfusion hinit⟩
  · refine ⟨fun ip hip _ i _ _ ↦ ?_, fun hinit ↦ Input.noConfusion hinit⟩
    simp [isDropped, sampleAnswers]
  · exact ⟨fun ip hip ↦ absurd hip (by simp [purgedAddress]), fun hinit ↦ Input.noConfusion hinit⟩

/-- A packet is purged because it is old while it is in flight: its report is taken for an entry
that is not in the list any more, and its block is freed twice. -/
theorem cursor_dangling :
    ¬ ∀ (config : Config) (mbConfMode : UInt8) (inputs : List (Input × Answers)),
      (∀ listed, .cursor listed ∈ (run (step config) (.powerUp mbConfMode) inputs).log →
        listed = true) ∧
      (∀ serial allocated, .freed serial allocated ∈
        (run (step config) (.powerUp mbConfMode) inputs).log → allocated = true) ∧
      (∀ serial, (run (step config) (.powerUp mbConfMode) inputs).log.countP
        (Act.frees serial) ≤ 1) ∧
      ∀ serial sent, .delivered serial sent ∈ (run (step config) (.powerUp mbConfMode) inputs).log →
        serial = sent := by
  intro h
  have hrun := h sampleConfig enableMailboxService
    [(.post samplePacket, sampleAnswers), (.wakeup 7 false, sampleAnswers),
      (.purgeMessages 7, { sampleAnswers with clockSeconds := 1000 }),
      (.sendDoneEvent 0, sampleAnswers)]
  exact absurd (hrun.1 false (by decide +kernel)) (by decide)

end ZipGateway.Mailbox
