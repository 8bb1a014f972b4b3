import ZipGateway.Lib.Once
import ZipGateway.Lib.Pending
import ZipGateway.SendDataAppl.Footprint

/-!
# Blocks and their owners

A block of `session_memb` that is allocated is in one of the two queues, or it is the session that
`send_endpoint` works on, or `send_data_callback_func` is about to free it, or it was leaked. The
invariant `Inv` says that these do not overlap, that a discard timer runs only for a block of the
low-level queue, and that there is at most one session of the application queue that is still to be
reported, the current one: `openTokens` are the places from which `ZW_SendDataAppl_CallbackEx` will
be called.

Here are the rules for the elementary changes: a block is allocated, filled in, put into a queue,
taken out of it, freed, and its callback is called.
-/

set_option autoImplicit false

namespace ZipGateway.SendDataAppl

open Lib Contiki Function List

/-! ### The invariant -/

/-- The blocks that `send_data_callback_func` frees when the callback returns. -/
def failing (frames : List Frame) : List (Fin numSessions) :=
  frames.filterMap fun frame ↦
    match frame with
    | .failed i => some i
    | _ => none

/-- `send_data_callback_func` is waiting for a callback, and will clear `lock_ll`. -/
def popping (frames : List Frame) : Bool :=
  frames.any fun frame ↦
    match frame with
    | .completed => true
    | .failed _ => true
    | _ => false

/-- `SEND_EVENT_SEND_NEXT_LL` comes from the main loop, and is at the bottom of the stack. -/
def StackOk (frames : List Frame) : Prop :=
  frames.Pairwise fun above _ ↦ ∀ rc, above ≠ .sendNextLl rc

/-- The session of the application queue that a callback reports. -/
def Callback.session : Callback → Option (Fin numSessions)
  | .callbackEx i => some i
  | _ => none

/-- The sessions that the low-level queue reports. -/
def queueTokens (blocks : Fin numSessions → Session) (sendDataList : List (Fin numSessions)) :
    List (Fin numSessions) :=
  sendDataList.filterMap fun i ↦ (blocks i).callback.session

/-- The sessions of the current epoch that the security layers report. -/
def layerTokens (pending : List Token) (epoch : ℕ) : List (Fin numSessions) :=
  (pending.filter fun token ↦ token.epoch = epoch).map Token.block

/-- The sessions that are still to be reported to `ZW_SendDataAppl_CallbackEx`. -/
def openTokens (s : SendQueues) : List (Fin numSessions) :=
  queueTokens s.blocks s.sendDataList ++ layerTokens s.pending s.epoch

/-- The act is a call of the callback of session `serial`. -/
def Act.tells (serial : ℕ) : Act → Bool
  | .told n _ _ => n == serial
  | _ => false

/-- The act is the freeing of the block of session `serial`. -/
def Act.frees (serial : ℕ) : Act → Bool
  | .freed n _ _ => n == serial
  | _ => false

/-- The queues, and the blocks that are about to be freed. -/
structure QueuesOk (blocks : Fin numSessions → Session) (used : Fin numSessions → Bool)
    (sessionList sendDataList : List (Fin numSessions)) (frames : List Frame) : Prop where
  nodup : (sessionList ++ sendDataList).Nodup
  listed : ∀ i, i ∈ sessionList ∨ i ∈ sendDataList → used i = true
  failingNodup : (failing frames).Nodup
  failing : ∀ i ∈ failing frames, used i = true ∧ i ∉ sessionList ∧ i ∉ sendDataList
  armed : ∀ i, (blocks i).discardTimer = true → i ∈ sendDataList ∧ (blocks i).discardTimeout = true
  external : ∀ i ∈ sessionList, (blocks i).callback.session = none

/-- The session that `send_endpoint` works on. -/
def CurrentOk (used : Fin numSessions → Bool) (sessionList sendDataList : List (Fin numSessions))
    (frames : List Frame) (lock : Bool) (currentSession : Option (Fin numSessions)) : Prop :=
  ∀ i, lock = true → currentSession = some i →
    used i = true ∧ i ∉ sessionList ∧ i ∉ sendDataList ∧ i ∉ failing frames

/-- At most one session is still to be reported, the current one. -/
structure TokensOk (tokens : List (Fin numSessions)) (lock : Bool)
    (currentSession : Option (Fin numSessions)) : Prop where
  single : tokens.length ≤ 1
  current : ∀ i ∈ tokens, lock = true ∧ currentSession = some i

/-- The sessions that the security layers have are of the current epoch or older, and those of the
S0 layer are of the current one. -/
structure PendingOk (pending : List Token) (epoch : ℕ) : Prop where
  bound : ∀ token ∈ pending, token.epoch ≤ epoch
  s0 : ∀ token ∈ pending, token.layer = .s0 → token.epoch = epoch

/-- While a frame is under way it is the first of the low-level queue, its discard timer is stopped,
and it is the frame that was handed over last. -/
def SendingOk (blocks : Fin numSessions → Session) (sendDataList : List (Fin numSessions))
    (frames : List Frame) (lockLl : Bool) (raw : List ℕ) : Prop :=
  lockLl = true → popping frames = false → ∃ i rest, sendDataList = i :: rest ∧
    (blocks i).discardTimer = false ∧ raw.head? = some (blocks i).serial

/-- What the log says about the sessions: every block is freed once, when it is allocated and in no
queue, and every callback is called once, before that if the session failed. -/
structure BooksOk (blocks : Fin numSessions → Session) (used : Fin numSessions → Bool)
    (frames : List Frame) (lastSerial : ℕ) (log : List Act) : Prop where
  told : Once Act.tells (fun i ↦ (blocks i).serial) (fun i ↦ used i = true ∧ i ∉ failing frames)
    lastSerial log
  freed : Once Act.frees (fun i ↦ (blocks i).serial) (fun i ↦ used i = true) lastSerial log
  sound : ∀ serial allocated queued, .freed serial allocated queued ∈ log →
    allocated = true ∧ queued = false

/-- The invariant of the module. -/
structure Inv (s : SendQueues) : Prop where
  serials : SerialsOk s
  queues : QueuesOk s.blocks s.used s.sessionList s.sendDataList s.frames
  stack : StackOk s.frames
  current : CurrentOk s.used s.sessionList s.sendDataList s.frames s.lock s.currentSession
  tokens : TokensOk (openTokens s) s.lock s.currentSession
  pending : PendingOk s.pending s.epoch
  sending : SendingOk s.blocks s.sendDataList s.frames s.lockLl s.raw
  books : BooksOk s.blocks s.used s.frames s.lastSerial s.log

theorem inv_powerUp : Inv SendQueues.powerUp where
  serials := serialsOk_powerUp
  queues := by constructor <;> simp [SendQueues.powerUp, failing, Session.zero]
  stack := List.Pairwise.nil
  current := fun i hlock ↦ absurd hlock (by simp [SendQueues.powerUp])
  tokens := by constructor <;> simp [openTokens, queueTokens, layerTokens, SendQueues.powerUp]
  pending := by constructor <;> simp [SendQueues.powerUp]
  sending := fun hlock ↦ absurd hlock (by simp [SendQueues.powerUp])
  books := ⟨
    ⟨by simp [SendQueues.powerUp], by simp [SendQueues.powerUp], by simp [SendQueues.powerUp]⟩,
    ⟨by simp [SendQueues.powerUp], by simp [SendQueues.powerUp], by simp [SendQueues.powerUp]⟩,
    by simp [SendQueues.powerUp]⟩

/-! ### Blocks and the log -/

section Blocks

variable {s : SendQueues} {i : Fin numSessions}

/-- Neither in a queue, nor current, nor about to be freed. -/
structure Loose (s : SendQueues) (i : Fin numSessions) : Prop where
  session : i ∉ s.sessionList
  sendData : i ∉ s.sendDataList
  current : s.lock = true → s.currentSession ≠ some i
  failing : i ∉ failing s.frames

/-- A block that is not allocated is loose. -/
theorem Inv.loose_of_unused (hinv : Inv s) (hunused : s.used i = false) : Loose s i := by
  have habsurd : s.used i ≠ true := by simp [hunused]
  exact ⟨fun hi ↦ habsurd (hinv.queues.listed i (Or.inl hi)),
    fun hi ↦ habsurd (hinv.queues.listed i (Or.inr hi)),
    fun hlock hcurrent ↦ habsurd (hinv.current i hlock hcurrent).1,
    fun hi ↦ habsurd (hinv.queues.failing i hi).1⟩

/-- Two allocated blocks with the same serial number are the same. -/
theorem Inv.eq_of_serial (hinv : Inv s) (hused : s.used i = true) {j : Fin numSessions}
    (hserial : (s.blocks j).serial = (s.blocks i).serial) : j = i :=
  (hinv.serials.distinct i j (hinv.serials.used i hused) hserial.symm).symm

section Books

variable {blocks blocks' : Fin numSessions → Session} {used used' : Fin numSessions → Bool}
  {frames frames' : List Frame} {lastSerial : ℕ} {log : List Act}

/-- An act is logged that is neither a callback nor the freeing of a block. -/
theorem BooksOk.skip (hbooks : BooksOk blocks used frames lastSerial log) {act : Act}
    (htells : ∀ serial, act.tells serial = false) (hfrees : ∀ serial, act.frees serial = false) :
    BooksOk blocks used frames lastSerial (act :: log) := by
  refine ⟨hbooks.told.skip htells, hbooks.freed.skip hfrees, fun serial allocated queued hmem ↦ ?_⟩
  rcases mem_cons.mp hmem with rfl | hmem
  · have hself := hfrees serial
    simp [Act.frees] at hself
  · exact hbooks.sound serial allocated queued hmem

/-- The serial numbers stay, and what is still to be told and freed gets less. -/
theorem BooksOk.mono (hbooks : BooksOk blocks used frames lastSerial log)
    (hserial : ∀ i, (blocks' i).serial = (blocks i).serial)
    (hused : ∀ i, used' i = true → used i = true)
    (hfailing : ∀ i, used' i = true → i ∈ failing frames → i ∈ failing frames') :
    BooksOk blocks' used' frames' lastSerial log :=
  ⟨hbooks.told.mono fun i hi ↦ ⟨⟨hused i hi.1, fun h ↦ hi.2 (hfailing i hi.1 h)⟩, hserial i⟩,
    hbooks.freed.mono fun i hi ↦ ⟨hused i hi, hserial i⟩, hbooks.sound⟩

end Books

/-- An act is logged that says nothing about blocks and callbacks. -/
theorem Inv.log (hinv : Inv s) {a : Act} (htells : ∀ serial, a.tells serial = false)
    (hfrees : ∀ serial, a.frees serial = false) : Inv { s with log := a :: s.log } :=
  ⟨hinv.serials.settles (settles_log (Or.inr trivial)), hinv.queues, hinv.stack,
    hinv.current, hinv.tokens, hinv.pending, hinv.sending, hinv.books.skip htells hfrees⟩

/-- A block is freed that is in no queue and not current; if the top of the stack was about to free
it, it is taken off the stack. -/
theorem Inv.free_frames (hinv : Inv s) (hused : s.used i = true) (hsession : i ∉ s.sessionList)
    (hsendData : i ∉ s.sendDataList) (hcurrent : s.lock = true → s.currentSession ≠ some i)
    {frames : List Frame} (hfailing : failing frames = (failing s.frames).erase i)
    (hstack : StackOk frames) (hsending : SendingOk s.blocks s.sendDataList frames s.lockLl s.raw) :
    Inv { s.free i with frames := frames } := by
  have hqueues := hinv.queues
  have hkept : ∀ j, j ≠ i → membFree s.used i j = s.used j := fun j hji ↦ membFree_of_ne s.used hji
  have hmem : ∀ j, j ∈ failing frames ↔ j ≠ i ∧ j ∈ failing s.frames := by
    intro j
    rw [hfailing]
    exact hqueues.failingNodup.mem_erase_iff
  refine ⟨⟨hinv.serials.bound, hinv.serials.distinct, (hinv.serials.settles
    (settles_free s i)).used, hinv.serials.listed, hinv.serials.nodup⟩,
    ⟨hqueues.nodup, fun j hj ↦ ?_, ?_, fun j hj ↦ ?_, hqueues.armed, hqueues.external⟩, hstack,
    fun j hlock hj ↦ ?_, hinv.tokens, hinv.pending, hsending, ?_⟩
  · have hji : j ≠ i := by
      rintro rfl
      exact hj.elim hsession hsendData
    exact (hkept j hji).trans (hqueues.listed j hj)
  · change (failing frames).Nodup
    rw [hfailing]
    exact hqueues.failingNodup.erase i
  · obtain ⟨hji, hj⟩ := (hmem j).mp hj
    exact ⟨(hkept j hji).trans (hqueues.failing j hj).1, (hqueues.failing j hj).2⟩
  · have hji : j ≠ i := fun hji ↦ hcurrent hlock (hji ▸ hj)
    obtain ⟨hj, hsession, hsendData, hold⟩ := hinv.current j hlock hj
    exact ⟨(hkept j hji).trans hj, hsession, hsendData, fun hnew ↦ hold ((hmem j).mp hnew).2⟩
  · have hless : ∀ j, membFree s.used i j = true → s.used j = true ∧ j ≠ i := by
      intro j hj
      have hji : j ≠ i := by
        rintro rfl
        simp at hj
      exact ⟨(hkept j hji).symm.trans hj, hji⟩
    have hbooks : BooksOk s.blocks (membFree s.used i) frames s.lastSerial s.log :=
      hinv.books.mono (fun _ ↦ rfl) (fun j hj ↦ (hless j hj).1)
        fun j hj hold ↦ (hmem j).mpr ⟨(hless j hj).2, hold⟩
    refine ⟨hbooks.told.skip fun _ ↦ rfl, hinv.books.freed.pay (fun serial h ↦ ?_)
      (hinv.books.freed.unpaid i hused) (hinv.serials.bound i) fun j hj ↦
        ⟨(hless j hj).1, fun heq ↦ ?_⟩,
      fun serial allocated queued hfreed ↦ ?_⟩
    · exact (beq_iff_eq.mp h).symm
    · exact (hless j hj).2 (hinv.eq_of_serial hused heq)
    · rcases mem_cons.mp hfreed with heq | hfreed
      · obtain ⟨-, rfl, rfl⟩ := Act.freed.inj heq
        exact ⟨hused, by simp [hsession, hsendData]⟩
      · exact hinv.books.sound serial allocated queued hfreed

/-- A block is freed that nothing holds. -/
theorem Inv.free (hinv : Inv s) (hused : s.used i = true) (hloose : Loose s i) : Inv (s.free i) :=
  hinv.free_frames hused hloose.session hloose.sendData hloose.current
    (erase_of_not_mem hloose.failing).symm hinv.stack hinv.sending

/-- The callback of a session is called for the first time. -/
theorem Inv.tell (hinv : Inv s) (status : UInt8)
    (hheld : ∀ j, s.used j = true → (s.blocks j).serial = (s.blocks i).serial →
      j ∈ failing s.frames)
    (htold : s.log.countP (Act.tells (s.blocks i).serial) = 0) : Inv (s.tell i status) := by
  have hserials := hinv.serials.settles (settles_tell s i status)
  unfold SendQueues.tell at hserials ⊢
  split_ifs at hserials ⊢ with hnull
  · exact hinv
  · have hbooks := hinv.books
    refine ⟨hserials, hinv.queues, hinv.stack, hinv.current, hinv.tokens, hinv.pending,
      hinv.sending, hbooks.told.pay (fun serial h ↦ ?_) htold (hinv.serials.bound i) fun j hj ↦
        ⟨hj, fun heq ↦ ?_⟩,
      hbooks.freed.skip fun _ ↦ rfl, fun serial allocated queued hmem ↦ ?_⟩
    · exact (beq_iff_eq.mp h).symm
    · exact hj.2 (hheld j hj.1 heq)
    · rcases mem_cons.mp hmem with heq | hmem
      · exact absurd heq (by simp)
      · exact hbooks.sound serial allocated queued hmem

/-- A block that nothing holds is freed, and its callback is called. -/
theorem Inv.free_tell (hinv : Inv s) (hused : s.used i = true) (hloose : Loose s i)
    (status : UInt8) : Inv ((s.free i).tell i status) := by
  refine (hinv.free hused hloose).tell status (fun j hj hserial ↦ ?_) ?_
  · have hji := hinv.eq_of_serial hused hserial
    rw [hji] at hj
    simp [SendQueues.free] at hj
  · change (Act.freed _ _ _ :: s.log).countP (Act.tells (s.blocks i).serial) = 0
    simpa [Act.tells] using hinv.books.told.unpaid i ⟨hused, hloose.failing⟩

/-- A field of the blocks that the change of a block keeps. -/
theorem modify_field {Value : Type*} (field : Session → Value) {f : Session → Session}
    (hsame : field (f (s.blocks i)) = field (s.blocks i)) (j : Fin numSessions) :
    field ((s.modify i f).blocks j) = field (s.blocks j) := by
  by_cases hj : j = i
  · subst hj
    simpa [SendQueues.modify] using hsame
  · simp [SendQueues.modify, update_of_ne hj]

/-- The tokens depend on the callbacks of the low-level queue only. -/
theorem openTokens_modify {f : Session → Session}
    (hcallback : (f (s.blocks i)).callback = (s.blocks i).callback) :
    openTokens (s.modify i f) = openTokens s := by
  unfold openTokens queueTokens
  simp only [modify_field (·.callback) hcallback]
  rfl

/-- A block is changed in fields that the invariant does not mention, or its discard timer is
stopped. -/
theorem Inv.modify (hinv : Inv s) {f : Session → Session}
    (hcallback : (f (s.blocks i)).callback = (s.blocks i).callback)
    (htimeout : (f (s.blocks i)).discardTimeout = (s.blocks i).discardTimeout)
    (htimer : (f (s.blocks i)).discardTimer = true → (s.blocks i).discardTimer = true)
    (hserial : (f (s.blocks i)).serial = (s.blocks i).serial) : Inv (s.modify i f) := by
  have hcallbacks := modify_field (·.callback) hcallback
  have htimeouts := modify_field (·.discardTimeout) htimeout
  have hserials := modify_field (·.serial) hserial
  have htimers : ∀ j, ((s.modify i f).blocks j).discardTimer = true →
      (s.blocks j).discardTimer = true := by
    intro j
    by_cases hj : j = i
    · subst hj
      simpa [SendQueues.modify] using htimer
    · simp [SendQueues.modify, update_of_ne hj]
  have hqueues := hinv.queues
  refine ⟨hinv.serials.settles (settles_modify hserial),
    ⟨hqueues.nodup, hqueues.listed, hqueues.failingNodup, hqueues.failing, fun j hj ↦ ?_,
    fun j ↦ ?_⟩, hinv.stack, hinv.current, ?_, hinv.pending, fun hlock hpopping ↦ ?_,
    hinv.books.mono hserials (fun _ h ↦ h) fun _ _ h ↦ h⟩
  · rw [htimeouts]
    exact hqueues.armed j (htimers j hj)
  · rw [hcallbacks]
    exact hqueues.external j
  · rw [openTokens_modify hcallback]
    exact hinv.tokens
  · obtain ⟨k, rest, hlist, hstopped, hraw⟩ := hinv.sending hlock hpopping
    refine ⟨k, rest, hlist, ?_, hraw.trans (by rw [hserials])⟩
    by_contra hrunning
    have hold := htimers k (by simpa using hrunning)
    simp [hstopped] at hold

end Blocks

/-! ### The queues -/

section Queues

variable {s : SendQueues} {i : Fin numSessions}

theorem allocate_field {Value : Type*} (field : Session → Value)
    (hsame : ∀ session serial, field { session with serial := serial } = field session)
    (j : Fin numSessions) : field ((s.allocate i).blocks j) = field (s.blocks j) :=
  modify_field (f := fun session ↦ { session with serial := s.lastSerial + 1 }) field
    (hsame (s.blocks i) (s.lastSerial + 1)) j

theorem openTokens_allocate : openTokens (s.allocate i) = openTokens s :=
  openTokens_modify (f := fun session ↦ { session with serial := s.lastSerial + 1 }) rfl

/-- A block is allocated. -/
theorem Inv.allocate (hinv : Inv s) (halloc : membAlloc s.used = some i) :
    Inv (s.allocate i) ∧ Loose (s.allocate i) i ∧
      ((s.allocate i).blocks i).discardTimer = false := by
  have hunused := membAlloc_some halloc
  have hloose := hinv.loose_of_unused hunused
  have hqueues := hinv.queues
  have hkept : ∀ j, s.used j = true → membTake s.used i j = true := by
    intro j hj
    by_cases hji : j = i
    · rw [hji, membTake_self]
    · rw [membTake_of_ne s.used hji]
      exact hj
  have hnumber : ∀ j, membTake s.used i j = true →
      ((s.allocate i).blocks j).serial = s.lastSerial + 1 ∨
        s.used j = true ∧ ((s.allocate i).blocks j).serial = (s.blocks j).serial := by
    intro j hj
    by_cases hji : j = i
    · exact Or.inl (hji ▸ allocate_serial s i)
    · rw [membTake_of_ne s.used hji] at hj
      exact Or.inr ⟨hj, allocate_serial_of_ne s hji⟩
  have hcallbacks := allocate_field (s := s) (i := i) (·.callback) fun _ _ ↦ rfl
  have htimers := allocate_field (s := s) (i := i) (·.discardTimer) fun _ _ ↦ rfl
  have htimeouts := allocate_field (s := s) (i := i) (·.discardTimeout) fun _ _ ↦ rfl
  refine ⟨⟨hinv.serials.allocate i, ⟨hqueues.nodup, fun j hj ↦ hkept j (hqueues.listed j hj),
    hqueues.failingNodup, fun j hj ↦ ⟨hkept j (hqueues.failing j hj).1, (hqueues.failing j hj).2⟩,
    fun j ↦ ?_, fun j ↦ ?_⟩, hinv.stack, fun j hlock hj ↦ ?_, ?_, hinv.pending,
    fun hlock hpopping ↦ ?_, ⟨hinv.books.told.allocate fun j hj ↦ ?_,
    hinv.books.freed.allocate fun j hj ↦ ?_, hinv.books.sound⟩⟩,
    ⟨hloose.session, hloose.sendData, hloose.current, hloose.failing⟩, ?_⟩
  · rw [htimers, htimeouts]
    exact hqueues.armed j
  · rw [hcallbacks]
    exact hqueues.external j
  · exact ⟨hkept j (hinv.current j hlock hj).1, (hinv.current j hlock hj).2⟩
  · rw [openTokens_allocate]
    exact hinv.tokens
  · obtain ⟨k, rest, hlist, hstopped, hraw⟩ := hinv.sending hlock hpopping
    have hki : k ≠ i := by
      rintro rfl
      refine hloose.sendData ?_
      rw [hlist]
      exact mem_cons_self
    exact ⟨k, rest, hlist, (htimers k).trans hstopped,
      hraw.trans (by rw [allocate_serial_of_ne s hki])⟩
  · exact (hnumber j hj.1).imp_right fun h ↦ ⟨⟨h.1, hj.2⟩, h.2⟩
  · exact hnumber j hj
  · rw [htimers]
    by_contra hrunning
    exact hloose.sendData (hqueues.armed i (by simpa using hrunning)).1

theorem allocate_used (s : SendQueues) (i : Fin numSessions) : (s.allocate i).used i = true :=
  membTake_self s.used i

/-- A loose block is filled in. -/
theorem Inv.fill (hinv : Inv s) (hloose : Loose s i) {f : Session → Session}
    (hstopped : (s.blocks i).discardTimer = false) (htimer : (f (s.blocks i)).discardTimer = false)
    (hserial : (f (s.blocks i)).serial = (s.blocks i).serial) :
    Inv (s.modify i f) ∧ openTokens (s.modify i f) = openTokens s := by
  have hother : ∀ j, j ≠ i → (s.modify i f).blocks j = s.blocks j := by
    intro j hji
    simp [SendQueues.modify, update_of_ne hji]
  have htimers := modify_field (·.discardTimer) (htimer.trans hstopped.symm)
  have hserials := modify_field (·.serial) hserial
  have hqueues := hinv.queues
  have htokens : openTokens (s.modify i f) = openTokens s := by
    unfold openTokens queueTokens
    refine congrArg (· ++ _) (filterMap_congr fun j hj ↦ ?_)
    rw [hother j fun hji ↦ hloose.sendData (hji ▸ hj)]
  refine ⟨⟨hinv.serials.settles (settles_modify hserial),
    ⟨hqueues.nodup, hqueues.listed, hqueues.failingNodup, hqueues.failing, fun j hj ↦ ?_,
    fun j hj ↦ ?_⟩, hinv.stack, hinv.current, ?_, hinv.pending, fun hlock hpopping ↦ ?_,
    hinv.books.mono hserials (fun _ h ↦ h) fun _ _ h ↦ h⟩, htokens⟩
  · rw [htimers] at hj
    have hji : j ≠ i := by
      rintro rfl
      simp [hstopped] at hj
    rw [hother j hji]
    exact hqueues.armed j hj
  · rw [hother j fun hji ↦ hloose.session (hji ▸ hj)]
    exact hqueues.external j hj
  · rw [htokens]
    exact hinv.tokens
  · obtain ⟨k, rest, hlist, hhead, hraw⟩ := hinv.sending hlock hpopping
    exact ⟨k, rest, hlist, (htimers k).trans hhead, hraw.trans (by rw [hserials])⟩

/-- A loose block becomes a session of the application queue. -/
theorem Inv.addSession (hinv : Inv s) (hused : s.used i = true) (hloose : Loose s i)
    (hcallback : (s.blocks i).callback.session = none) :
    Inv { s with sessionList := listAdd s.sessionList i } := by
  have hqueues := hinv.queues
  have hadded : listAdd s.sessionList i = s.sessionList ++ [i] := by
    unfold listAdd listRemove
    rw [erase_of_not_mem hloose.session]
  have hmem : ∀ {j}, j ∈ listAdd s.sessionList i → j ≠ i → j ∈ s.sessionList := fun hj hji ↦
    (mem_listAdd.mp hj).resolve_left hji
  refine ⟨⟨hinv.serials.bound, hinv.serials.distinct, hinv.serials.used, fun j hj ↦ ?_,
    nodup_listAdd hinv.serials.nodup⟩, ⟨?_, fun j hj ↦ ?_, hqueues.failingNodup, fun j hj ↦ ?_,
    hqueues.armed, fun j hj ↦ ?_⟩, hinv.stack, fun j hlock hj ↦ ?_, hinv.tokens, hinv.pending,
    hinv.sending, hinv.books⟩
  · by_cases hji : j = i
    · exact hji ▸ hinv.serials.used i hused
    · exact hinv.serials.listed j (hj.imp_left fun hj ↦ hmem hj hji)
  · change (listAdd s.sessionList i ++ s.sendDataList).Nodup
    rw [hadded, append_assoc, singleton_append, nodup_middle, nodup_cons]
    exact ⟨by simp [hloose.session, hloose.sendData], hqueues.nodup⟩
  · by_cases hji : j = i
    · exact hji ▸ hused
    · exact hqueues.listed j (hj.imp_left fun hj ↦ hmem hj hji)
  · have hji : j ≠ i := fun hji ↦ hloose.failing (hji ▸ hj)
    obtain ⟨hj, hsession, hsendData⟩ := hqueues.failing j hj
    exact ⟨hj, fun hnew ↦ hsession (hmem hnew hji), hsendData⟩
  · by_cases hji : j = i
    · exact hji ▸ hcallback
    · exact hqueues.external j (hmem hj hji)
  · have hji : j ≠ i := fun hji ↦ hloose.current hlock (hji ▸ hj)
    obtain ⟨hj, hsession, hsendData, hfailing⟩ := hinv.current j hlock hj
    exact ⟨hj, fun hnew ↦ hsession (hmem hnew hji), hsendData, hfailing⟩

/-- A loose block becomes a session of the low-level queue, with its discard timer started or
not. -/
theorem Inv.addSendData (hinv : Inv s) (hused : s.used i = true) (hloose : Loose s i) (armed : Bool)
    (harmed : armed = true → (s.blocks i).discardTimeout = true)
    (htoken : ∀ j, (s.blocks i).callback.session = some j →
      s.lock = true ∧ s.currentSession = some j ∧ openTokens s = []) :
    Inv { s.modify i fun session ↦ { session with discardTimer := armed } with
      sendDataList := listAdd s.sendDataList i } := by
  have hqueues := hinv.queues
  have hadded : listAdd s.sendDataList i = s.sendDataList ++ [i] := by
    unfold listAdd listRemove
    rw [erase_of_not_mem hloose.sendData]
  have hmem : ∀ {j}, j ∈ listAdd s.sendDataList i → j ≠ i → j ∈ s.sendDataList := fun hj hji ↦
    (mem_listAdd.mp hj).resolve_left hji
  have hself : i ∈ listAdd s.sendDataList i := mem_listAdd.mpr (Or.inl rfl)
  have hother : ∀ j, j ≠ i → (s.modify i fun session ↦
      { session with discardTimer := armed }).blocks j = s.blocks j := by
    intro j hji
    simp [SendQueues.modify, update_of_ne hji]
  have hcallbacks := modify_field (s := s) (i := i)
    (f := fun session ↦ { session with discardTimer := armed }) (·.callback) rfl
  have hsame := modify_field (s := s) (i := i)
    (f := fun session ↦ { session with discardTimer := armed }) (·.serial) rfl
  have hserials := hinv.serials.settles (settles_modify (i := i)
    (f := fun session ↦ { session with discardTimer := armed }) rfl)
  refine ⟨⟨hserials.bound, hserials.distinct, hserials.used, fun j hj ↦ ?_, hserials.nodup⟩,
    ⟨?_, fun j hj ↦ ?_, hqueues.failingNodup, fun j hj ↦ ?_, fun j hj ↦ ?_, fun j hj ↦ ?_⟩,
    hinv.stack, fun j hlock hj ↦ ?_, ?_, hinv.pending, fun hlock hpopping ↦ ?_,
    hinv.books.mono hsame (fun _ h ↦ h) fun _ _ h ↦ h⟩
  · by_cases hji : j = i
    · exact hji ▸ hserials.used i hused
    · exact hserials.listed j (hj.imp_right fun hj ↦ hmem hj hji)
  · change (s.sessionList ++ listAdd s.sendDataList i).Nodup
    rw [hadded, ← append_assoc, nodup_middle, append_nil, nodup_cons]
    exact ⟨by simp [hloose.session, hloose.sendData], hqueues.nodup⟩
  · by_cases hji : j = i
    · exact hji ▸ hused
    · exact hqueues.listed j (hj.imp_right fun hj ↦ hmem hj hji)
  · have hji : j ≠ i := fun hji ↦ hloose.failing (hji ▸ hj)
    obtain ⟨hj, hsession, hsendData⟩ := hqueues.failing j hj
    exact ⟨hj, hsession, fun hnew ↦ hsendData (hmem hnew hji)⟩
  · by_cases hji : j = i
    · subst hji
      simp only [SendQueues.modify, update_self] at hj ⊢
      exact ⟨hself, harmed hj⟩
    · rw [hother j hji] at hj ⊢
      obtain ⟨hj, htimeout⟩ := hqueues.armed j hj
      exact ⟨mem_listAdd.mpr (Or.inr hj), htimeout⟩
  · rw [hcallbacks]
    exact hqueues.external j hj
  · have hji : j ≠ i := fun hji ↦ hloose.current hlock (hji ▸ hj)
    obtain ⟨hj, hsession, hsendData, hfailing⟩ := hinv.current j hlock hj
    exact ⟨hj, hsession, fun hnew ↦ hsendData (hmem hnew hji), hfailing⟩
  · have hqueue :
        queueTokens (s.modify i fun session ↦ { session with discardTimer := armed }).blocks
        (listAdd s.sendDataList i) =
        queueTokens s.blocks s.sendDataList ++ (s.blocks i).callback.session.toList := by
      unfold queueTokens
      simp only [hcallbacks, hadded, filterMap_append, filterMap_cons, filterMap_nil]
      cases (s.blocks i).callback.session <;> rfl
    change TokensOk
      (queueTokens _ (listAdd s.sendDataList i) ++ layerTokens s.pending s.epoch) s.lock
      s.currentSession
    rw [hqueue]
    cases hsession : (s.blocks i).callback.session with
    | none => simpa [openTokens] using hinv.tokens
    | some j =>
      obtain ⟨hlock, hcurrent, hnone⟩ := htoken j hsession
      obtain ⟨hqueueNone, hlayerNone⟩ := append_eq_nil_iff.mp hnone
      rw [hqueueNone, hlayerNone]
      exact ⟨by simp, by simp [hlock, hcurrent]⟩
  · -- A frame under way is before the new one.
    obtain ⟨k, rest, hlist, hhead, hraw⟩ := hinv.sending hlock hpopping
    have hki : k ≠ i := by
      rintro rfl
      refine hloose.sendData ?_
      rw [hlist]
      exact mem_cons_self
    refine ⟨k, rest ++ [i], ?_, ?_, hraw.trans ?_⟩
    · change listAdd s.sendDataList i = _
      rw [hadded, hlist, cons_append]
    · rw [hother k hki]
      exact hhead
    · rw [hother k hki]

/-- The sessions that are reported, without block `i` of the low-level queue. -/
theorem openTokens_take (hinv : Inv s) (hmem : i ∈ s.sendDataList) {j : Fin numSessions}
    (hsession : (s.blocks i).callback.session = some j) : s.lock = true ∧ s.currentSession =
      some j ∧ openTokens { s with sendDataList := listRemove s.sendDataList i } = [] := by
  have hperm : (openTokens s).Perm
      (j :: openTokens { s with sendDataList := listRemove s.sendDataList i }) := by
    have hqueue := (perm_cons_erase hmem).filterMap fun i ↦ (s.blocks i).callback.session
    rw [filterMap_cons_some (f := fun i ↦ (s.blocks i).callback.session) hsession] at hqueue
    exact hqueue.append_right (layerTokens s.pending s.epoch)
  have hlength := hperm.length_eq
  have hsingle := hinv.tokens.single
  have hcurrent := hinv.tokens.current j (hperm.mem_iff.mpr mem_cons_self)
  rw [length_cons] at hlength
  exact ⟨hcurrent.1, hcurrent.2, length_eq_zero_iff.mp (by omega)⟩

/-- A block whose discard timer is stopped is taken out of the low-level queue. -/
theorem Inv.takeSendData (hinv : Inv s) (hmem : i ∈ s.sendDataList)
    (hstopped : (s.blocks i).discardTimer = false)
    (hwaiting : s.lockLl = true → popping s.frames = false → s.sendDataList.head? ≠ some i) :
    Inv { s with sendDataList := listRemove s.sendDataList i } ∧
      Loose { s with sendDataList := listRemove s.sendDataList i } i := by
  have hqueues := hinv.queues
  have hsublist : (listRemove s.sendDataList i).Sublist s.sendDataList := erase_sublist
  have hnodup := (nodup_append.mp hqueues.nodup).2.1
  have hsettles : Settles (fun _ ↦ True) s { s with sendDataList := listRemove s.sendDataList i } :=
    settles_of_fields rfl rfl rfl (List.Sublist.refl _) hsublist fun _ hact ↦ Or.inl hact
  refine ⟨⟨hinv.serials.settles hsettles, ⟨hqueues.nodup.sublist (hsublist.append_left _),
    fun j hj ↦ hqueues.listed j (hj.imp_right fun h ↦ hsublist.subset h), hqueues.failingNodup,
    fun j hj ↦ ?_, fun j hj ↦ ?_, hqueues.external⟩, hinv.stack, fun j hlock hj ↦
      ?_, ⟨?_, fun j hj ↦ ?_⟩,
    hinv.pending, fun hlock hpopping ↦ ?_, hinv.books⟩, ⟨?_, ?_, fun hlock hcurrent ↦ ?_, ?_⟩⟩
  · obtain ⟨hj, hsession, hsendData⟩ := hqueues.failing j hj
    exact ⟨hj, hsession, fun h ↦ hsendData (hsublist.subset h)⟩
  · obtain ⟨hlisted, htimeout⟩ := hqueues.armed j hj
    have hji : j ≠ i := by
      rintro rfl
      simp [hstopped] at hj
    exact ⟨(mem_listRemove hnodup).mpr ⟨hji, hlisted⟩, htimeout⟩
  · obtain ⟨hj, hsession, hsendData, hfailing⟩ := hinv.current j hlock hj
    exact ⟨hj, hsession, fun h ↦ hsendData (hsublist.subset h), hfailing⟩
  · have hless := ((hsublist.filterMap fun i ↦ (s.blocks i).callback.session).append_right
      (layerTokens s.pending s.epoch)).length_le
    exact hless.trans hinv.tokens.single
  · have hsubset := ((hsublist.filterMap fun i ↦ (s.blocks i).callback.session).append_right
      (layerTokens s.pending s.epoch)).subset
    exact hinv.tokens.current j (hsubset hj)
  · obtain ⟨k, rest, hlist, hhead, hraw⟩ := hinv.sending hlock hpopping
    have hki : k ≠ i := by
      rintro rfl
      exact hwaiting hlock hpopping (by rw [hlist]; rfl)
    refine ⟨k, rest.erase i, ?_, hhead, hraw⟩
    change s.sendDataList.erase i = _
    rw [hlist, erase_cons_tail (by simpa using hki)]
  · exact (disjoint_of_nodup_append hqueues.nodup).symm hmem
  · exact fun h ↦ ((mem_listRemove hnodup).mp h).1 rfl
  · exact (hinv.current i hlock hcurrent).2.2.1 hmem
  · exact fun h ↦ (hqueues.failing i h).2.2 hmem

/-- A block is taken out of the application queue. -/
theorem Inv.takeSession (hinv : Inv s) (hmem : i ∈ s.sessionList) :
    Inv { s with sessionList := listRemove s.sessionList i } ∧
      Loose { s with sessionList := listRemove s.sessionList i } i := by
  have hqueues := hinv.queues
  have hsublist : (listRemove s.sessionList i).Sublist s.sessionList := erase_sublist
  have hsettles : Settles (fun _ ↦ True) s { s with sessionList := listRemove s.sessionList i } :=
    settles_of_fields rfl rfl rfl hsublist (List.Sublist.refl _) fun _ hact ↦ Or.inl hact
  refine ⟨⟨hinv.serials.settles hsettles, ⟨hqueues.nodup.sublist (hsublist.append_right _),
    fun j hj ↦ hqueues.listed j (hj.imp_left fun h ↦ hsublist.subset h), hqueues.failingNodup,
    fun j hj ↦ ?_, hqueues.armed, fun j hj ↦ hqueues.external j (hsublist.subset hj)⟩, hinv.stack,
    fun j hlock hj ↦ ?_, hinv.tokens, hinv.pending, hinv.sending, hinv.books⟩,
    ⟨?_, ?_, fun hlock hcurrent ↦ ?_, ?_⟩⟩
  · obtain ⟨hj, hsession, hsendData⟩ := hqueues.failing j hj
    exact ⟨hj, fun h ↦ hsession (hsublist.subset h), hsendData⟩
  · obtain ⟨hj, hsession, hsendData, hfailing⟩ := hinv.current j hlock hj
    exact ⟨hj, fun h ↦ hsession (hsublist.subset h), hsendData, hfailing⟩
  · exact fun h ↦ ((mem_listRemove hinv.serials.nodup).mp h).1 rfl
  · exact disjoint_of_nodup_append hqueues.nodup hmem
  · exact (hinv.current i hlock hcurrent).2.1 hmem
  · exact fun h ↦ (hqueues.failing i h).2.1 hmem

end Queues

end ZipGateway.SendDataAppl
