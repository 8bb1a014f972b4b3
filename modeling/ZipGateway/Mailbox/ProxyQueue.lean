import ZipGateway.Mailbox.Footprint

/-!
# The commands to the proxy

`send_mb_proxy_queue_command` builds a `MAILBOX_QUEUE` command for an entry in a block that it
allocates for that. Posts of clients may have taken all blocks, only posts of proxies leave one; and
the handle of the command is read from the block that was allocated, not from the entry. The packet
of the entry is right. So the command is right if and only if there is a free block, and the handle
that is left over in the first one is the one that the entry was pushed with
(`queue_command_right`).
-/

set_option autoImplicit false

namespace ZipGateway.Mailbox

open Lib Contiki List

/-! ### The invariant -/

/-- An entry has the packet that was posted under its serial number. -/
structure Known (s : MailboxState) (i : Fin maxMailboxEntries) : Prop where
  posted : ∃ proxy handle, .posted (s.blocks i).serial proxy handle (s.blocks i).bytes ∈ s.log
  length : (s.blocks i).bytes.length = (s.blocks i).dataLen

/-- The entries of the list are allocated and have what was posted, and the commands that were sent
have the packet that was posted, and the handle that was left over. -/
structure StoreOk (s : MailboxState) : Prop where
  nodup : s.mbList.Nodup
  listed : ∀ i ∈ s.mbList, s.used i = true
  known : ∀ i ∈ s.mbList, Known s i
  bound : ∀ serial proxy handle bytes, .posted serial proxy handle bytes ∈ s.log →
    serial ≤ s.lastSerial
  once : ∀ serial proxy handle bytes proxy' handle' bytes',
    .posted serial proxy handle bytes ∈ s.log →
    .posted serial proxy' handle' bytes' ∈ s.log → proxy = proxy' ∧ handle = handle' ∧
      bytes = bytes'
  commands : ∀ serial command leftOver sent, .queueCommand serial command leftOver sent ∈ s.log →
    ∃ proxy handle bytes, .posted serial proxy handle bytes ∈ s.log ∧
      sent = leftOver.map fun handle ↦ queueCommand command handle bytes

/-- Waiting timers run for entries of the list only. -/
def TimersOk (s : MailboxState) : Prop := ∀ i, (s.blocks i).waitingTimer = true → i ∈ s.mbList

section Store

variable {s t : MailboxState} {i m : Fin maxMailboxEntries}

theorem modify_of_ne (s : MailboxState) (change : Entry → Entry) {j : Fin maxMailboxEntries}
    (hji : j ≠ i) : (s.modify i change).blocks j = s.blocks j := by
  simp [MailboxState.modify, Function.update_of_ne hji]

theorem modify_self (s : MailboxState) (i : Fin maxMailboxEntries) (change : Entry → Entry) :
    (s.modify i change).blocks i = change (s.blocks i) := by
  simp [MailboxState.modify]

/-- A field of the blocks that the change of a block keeps. -/
theorem modify_field {Value : Type*} (s : MailboxState) (field : Entry → Value)
    (change : Entry → Entry) (hsame : field (change (s.blocks i)) = field (s.blocks i))
    (j : Fin maxMailboxEntries) : field ((s.modify i change).blocks j) = field (s.blocks j) := by
  by_cases hji : j = i
  · rw [hji, modify_self]
    exact hsame
  · rw [modify_of_ne s change hji]

theorem freeEntry_of_ne (s : MailboxState) {j : Fin maxMailboxEntries} (hji : j ≠ i) :
    (s.freeEntry i).blocks j = s.blocks j := by
  unfold MailboxState.freeEntry
  dsimp only
  exact modify_of_ne s _ hji

theorem fillBlock_of_ne (answers : Answers) (data : List UInt8) (proxy : Option Address)
    (handle : UInt8) (s : MailboxState) {j : Fin maxMailboxEntries} (hjm : j ≠ m) :
    (fillBlock answers data proxy handle m s).blocks j = s.blocks j := by
  unfold fillBlock
  dsimp only
  exact modify_of_ne s _ hjm

/-- An entry stays known when its packet and its serial number stay. -/
theorem Known.mono (hknown : Known s i) (hserial : (t.blocks i).serial = (s.blocks i).serial)
    (hbytes : (t.blocks i).bytes = (s.blocks i).bytes)
    (hlength : (t.blocks i).dataLen = (s.blocks i).dataLen)
    (hlog : ∀ serial proxy handle bytes, .posted serial proxy handle bytes ∈ s.log →
      .posted serial proxy handle bytes ∈ t.log) : Known t i := by
  obtain ⟨proxy, handle, hposted⟩ := hknown.posted
  refine ⟨⟨proxy, handle, ?_⟩, ?_⟩
  · rw [hserial, hbytes]
    exact hlog _ _ _ _ hposted
  · rw [hbytes, hlength]
    exact hknown.length

/-- Nothing is posted, and no command is sent. -/
theorem StoreOk.mono (hstore : StoreOk s) (hnodup : t.mbList.Nodup)
    (hlisted : ∀ i ∈ t.mbList, t.used i = true) (hsubset : ∀ i ∈ t.mbList, i ∈ s.mbList)
    (hserial : ∀ i ∈ t.mbList, (t.blocks i).serial = (s.blocks i).serial)
    (hbytes : ∀ i ∈ t.mbList, (t.blocks i).bytes = (s.blocks i).bytes)
    (hlength : ∀ i ∈ t.mbList, (t.blocks i).dataLen = (s.blocks i).dataLen)
    (hlastSerial : t.lastSerial = s.lastSerial)
    (hposted : ∀ serial proxy handle bytes, .posted serial proxy handle bytes ∈ t.log ↔
      .posted serial proxy handle bytes ∈ s.log)
    (hcommands : ∀ serial command leftOver sent,
      .queueCommand serial command leftOver sent ∈ t.log →
      .queueCommand serial command leftOver sent ∈ s.log) : StoreOk t := by
  refine ⟨hnodup, hlisted, fun i hi ↦ ?_, fun serial proxy handle bytes hmem ↦ ?_,
    fun serial proxy handle bytes proxy' handle' bytes' hmem hmem' ↦ ?_,
    fun serial command leftOver sent hmem ↦ ?_⟩
  · exact (hstore.known i (hsubset i hi)).mono (hserial i hi) (hbytes i hi) (hlength i hi)
      fun _ _ _ _ h ↦ (hposted _ _ _ _).mpr h
  · rw [hlastSerial]
    exact hstore.bound _ _ _ _ ((hposted _ _ _ _).mp hmem)
  · exact hstore.once _ _ _ _ _ _ _ ((hposted _ _ _ _).mp hmem) ((hposted _ _ _ _).mp hmem')
  · obtain ⟨proxy, handle, bytes, hpost, hsent⟩ := hstore.commands _ _ _ _ (hcommands _ _ _ _ hmem)
    exact ⟨proxy, handle, bytes, (hposted _ _ _ _).mpr hpost, hsent⟩

/-- The blocks stay, and acts are logged that say nothing about them. -/
theorem StoreOk.same (hstore : StoreOk s) (hblocks : t.blocks = s.blocks) (hused : t.used = s.used)
    (hmbList : t.mbList = s.mbList) (hlastSerial : t.lastSerial = s.lastSerial)
    (hposted : ∀ serial proxy handle bytes, .posted serial proxy handle bytes ∈ t.log ↔
      .posted serial proxy handle bytes ∈ s.log)
    (hcommands : ∀ serial command leftOver sent,
      .queueCommand serial command leftOver sent ∈ t.log →
      .queueCommand serial command leftOver sent ∈ s.log) : StoreOk t := by
  refine hstore.mono ?_ ?_ ?_ ?_ ?_ ?_ hlastSerial hposted hcommands
  · rw [hmbList]
    exact hstore.nodup
  · rw [hmbList, hused]
    exact hstore.listed
  · rw [hmbList]
    exact fun _ h ↦ h
  · rw [hblocks]
    exact fun _ _ ↦ rfl
  · rw [hblocks]
    exact fun _ _ ↦ rfl
  · rw [hblocks]
    exact fun _ _ ↦ rfl

theorem StoreOk.control (hstore : StoreOk s) (hcontrol : Control s t) : StoreOk t := by
  obtain ⟨acts, hlog, hacts⟩ := hcontrol.log
  have hold : ∀ act, act.isControl = false → (act ∈ t.log ↔ act ∈ s.log) := by
    intro act hact
    rw [hlog, mem_append]
    refine ⟨fun hmem ↦ hmem.resolve_left fun hnew ↦ ?_, Or.inr⟩
    have hcontrolled := hacts act hnew
    simp [hact] at hcontrolled
  exact hstore.same hcontrol.blocks hcontrol.used hcontrol.mbList hcontrol.lastSerial
    (fun _ _ _ _ ↦ hold _ rfl) fun _ _ _ _ hmem ↦ (hold _ rfl).mp hmem

/-- An act is logged that says nothing about the blocks. -/
theorem StoreOk.act (hstore : StoreOk s) {act : Act}
    (hposted : ∀ serial proxy handle bytes, act ≠ .posted serial proxy handle bytes)
    (hcommands : ∀ serial command leftOver sent, act ≠ .queueCommand serial command leftOver sent) :
    StoreOk (s.act act) :=
  hstore.same rfl rfl rfl rfl
    (fun _ _ _ _ ↦ ⟨fun h ↦ (mem_cons.mp h).resolve_left (hposted _ _ _ _).symm,
      mem_cons_of_mem _⟩)
    fun _ _ _ _ h ↦ (mem_cons.mp h).resolve_left (hcommands _ _ _ _).symm

/-- The frame in flight is none of the blocks. -/
theorem StoreOk.setInFlight (hstore : StoreOk s) (flight : Option Flight) :
    StoreOk { s with inFlight := flight } :=
  hstore.same rfl rfl rfl rfl (fun _ _ _ _ ↦ Iff.rfl) fun _ _ _ _ h ↦ h

theorem StoreOk.freeEntry (hstore : StoreOk s) (i : Fin maxMailboxEntries) :
    StoreOk (s.freeEntry i) := by
  have hsame : ∀ {Value : Type} (field : Entry → Value),
      (∀ entry, field { entry with waitingTimer := false } = field entry) →
      ∀ j, field ((s.freeEntry i).blocks j) = field (s.blocks j) := fun field hfield j ↦
    modify_field s field (fun entry ↦ { entry with waitingTimer := false }) (hfield _) j
  have hmem : ∀ {j}, j ∈ listRemove s.mbList i → j ≠ i ∧ j ∈ s.mbList := fun hj ↦
    (mem_listRemove hstore.nodup).mp hj
  refine hstore.mono (nodup_listRemove hstore.nodup) (fun j hj ↦ ?_) (fun j hj ↦ (hmem hj).2)
    (fun j _ ↦ hsame (·.serial) (fun _ ↦ rfl) j) (fun j _ ↦ hsame (·.bytes) (fun _ ↦ rfl) j)
    (fun j _ ↦ hsame (·.dataLen) (fun _ ↦ rfl) j) rfl (fun _ _ _ _ ↦ ?_) fun _ _ _ _ hcommand ↦ ?_
  · exact (membFree_of_ne s.used (hmem hj).1).trans (hstore.listed j (hmem hj).2)
  · exact ⟨fun h ↦ (mem_cons.mp h).resolve_left (by simp), mem_cons_of_mem _⟩
  · exact (mem_cons.mp hcommand).resolve_left (by simp)

theorem StoreOk.setWaitingEnabled (hstore : StoreOk s) (i : Fin maxMailboxEntries)
    (enabled : Bool) : StoreOk (s.modify i fun entry ↦ { entry with waitingEnabled := enabled }) :=
  hstore.mono hstore.nodup hstore.listed (fun _ h ↦ h)
    (fun j _ ↦ modify_field s (·.serial)
      (fun entry ↦ { entry with waitingEnabled := enabled }) rfl j)
    (fun j _ ↦ modify_field s (·.bytes)
      (fun entry ↦ { entry with waitingEnabled := enabled }) rfl j)
    (fun j _ ↦ modify_field s (·.dataLen) (fun entry ↦ { entry with waitingEnabled := enabled })
      rfl j) rfl
    (fun _ _ _ _ ↦ Iff.rfl) fun _ _ _ _ h ↦ h

/-- A free block is not in the list. -/
theorem StoreOk.not_listed (hstore : StoreOk s) (halloc : membAlloc s.used = some m) :
    m ∉ s.mbList := by
  intro hmem
  have hused := hstore.listed m hmem
  simp [membAlloc_some halloc] at hused

/-- Something is written to a free block. -/
theorem StoreOk.modify_free (hstore : StoreOk s) (hm : m ∉ s.mbList) (change : Entry → Entry) :
    StoreOk (s.modify m change) := by
  have hsame : ∀ j ∈ s.mbList, (s.modify m change).blocks j = s.blocks j := fun j hj ↦
    modify_of_ne s change fun hjm ↦ hm (hjm ▸ hj)
  exact hstore.mono hstore.nodup hstore.listed (fun _ h ↦ h) (fun j hj ↦ by rw [hsame j hj])
    (fun j hj ↦ by rw [hsame j hj]) (fun j hj ↦ by rw [hsame j hj]) rfl (fun _ _ _ _ ↦ Iff.rfl)
    fun _ _ _ _ h ↦ h

theorem take_overwrite (bytes buffer : List UInt8) :
    (overwrite bytes buffer).take bytes.length = bytes := by
  unfold overwrite
  rw [take_left']
  rfl

/-- A command is sent for an entry. -/
theorem StoreOk.command (hstore : StoreOk s) (command : UInt8) (hused : s.used i = true)
    (hknown : Known s i) : StoreOk (sendMbProxyQueueCommand command i s) := by
  have hlogged : ∀ {u : MailboxState} {leftOver : Option UInt8} {sent : Option (List UInt8)},
      StoreOk u → Known u i → (∀ proxy handle, .posted (u.blocks i).serial proxy handle
        (u.blocks i).bytes ∈ u.log →
        sent = leftOver.map fun handle ↦ queueCommand command handle (u.blocks i).bytes) →
      StoreOk (u.act (.queueCommand (u.blocks i).serial command leftOver sent)) := by
    intro u leftOver sent hu hi hsent
    have hposted : ∀ serial proxy handle bytes, .posted serial proxy handle bytes ∈
        (u.act (.queueCommand (u.blocks i).serial command leftOver sent)).log ↔
        .posted serial proxy handle bytes ∈ u.log := fun _ _ _ _ ↦
      ⟨fun h ↦ (mem_cons.mp h).resolve_left (by simp), mem_cons_of_mem _⟩
    refine ⟨hu.nodup, hu.listed, fun j hj ↦ (hu.known j hj).mono rfl rfl rfl
      fun _ _ _ _ ↦ (hposted _ _ _ _).mpr, fun _ _ _ _ h ↦
        hu.bound _ _ _ _ ((hposted _ _ _ _).mp h),
      fun _ _ _ _ _ _ _ h h' ↦ hu.once _ _ _ _ _ _ _ ((hposted _ _ _ _).mp h)
        ((hposted _ _ _ _).mp h'), fun serial command' leftOver' sent' hmem ↦ ?_⟩
    rcases mem_cons.mp hmem with heq | hmem
    · obtain ⟨rfl, rfl, rfl, rfl⟩ := Act.queueCommand.inj heq
      obtain ⟨proxy, handle, hpost⟩ := hi.posted
      exact ⟨proxy, handle, _, (hposted _ _ _ _).mpr hpost, hsent proxy handle hpost⟩
    · obtain ⟨proxy, handle, bytes, hpost, hold⟩ := hu.commands _ _ _ _ hmem
      exact ⟨proxy, handle, bytes, (hposted _ _ _ _).mpr hpost, hold⟩
  unfold sendMbProxyQueueCommand
  split
  case h_1 halloc =>
    refine hlogged hstore hknown fun _ _ _ ↦ ?_
    rw [leftOverHandle, halloc]
    rfl
  case h_2 m halloc =>
    have him : i ≠ m := by
      rintro rfl
      simp [membAlloc_some halloc] at hused
    have hblock := modify_of_ne s (fun entry ↦
      { entry with
        data := overwrite (queueCommand command entry.handle (s.blocks i).bytes) entry.data })
      him
    refine hlogged (hstore.modify_free (hstore.not_listed halloc) _)
      (hknown.mono (by rw [hblock]) (by rw [hblock]) (by rw [hblock]) fun _ _ _ _ h ↦ h) fun _ _ _ ↦
        ?_
    rw [hblock, modify_self]
    have hlength : (s.blocks i).dataLen + 4 =
        (queueCommand command (s.blocks m).handle (s.blocks i).bytes).length := by
      rw [← hknown.length]
      simp [queueCommand]
    rw [hlength, take_overwrite, leftOverHandle, halloc]
    rfl

/-- A packet is filled in. -/
theorem StoreOk.fillBlock (hstore : StoreOk s) (halloc : membAlloc s.used = some m)
    (answers : Answers) (data : List UInt8) (proxy : Option Address) (handle : UInt8) :
    StoreOk (fillBlock answers data proxy handle m s) ∧
      Known (fillBlock answers data proxy handle m s) m := by
  have hm := hstore.not_listed halloc
  have hother : ∀ j, j ≠ m →
      (Mailbox.fillBlock answers data proxy handle m s).blocks j = s.blocks j := fun _ hjm ↦
    fillBlock_of_ne answers data proxy handle s hjm
  have hself : ((Mailbox.fillBlock answers data proxy handle m s).blocks m).bytes = data ∧
      ((Mailbox.fillBlock answers data proxy handle m s).blocks m).dataLen = data.length ∧
      ((Mailbox.fillBlock answers data proxy handle m s).blocks m).serial = s.lastSerial + 1 := by
    unfold Mailbox.fillBlock Entry.bytes
    dsimp only
    rw [modify_self]
    exact ⟨take_overwrite _ _, rfl, rfl⟩
  have hnew : ∀ {proxy' handle' bytes'}, .posted (s.lastSerial + 1) proxy' handle' bytes' ∉ s.log :=
    fun h ↦ absurd (hstore.bound _ _ _ _ h) (Nat.not_succ_le_self _)
  refine ⟨⟨hstore.nodup, fun j hj ↦ ?_, fun j hj ↦ ?_, fun serial proxy' handle' bytes' hmem ↦ ?_,
    fun serial proxy' handle' bytes' proxy'' handle'' bytes'' hmem hmem' ↦ ?_,
    fun serial command leftOver sent hmem ↦ ?_⟩, ⟨⟨proxy, handle, ?_⟩, ?_⟩⟩
  · have hjm : j ≠ m := fun hjm ↦ hm (hjm ▸ hj)
    exact (membTake_of_ne s.used hjm).trans (hstore.listed j hj)
  · have hjm : j ≠ m := fun hjm ↦ hm (hjm ▸ hj)
    exact (hstore.known j hj).mono (by rw [hother j hjm]) (by rw [hother j hjm])
      (by rw [hother j hjm]) fun _ _ _ _ ↦ mem_cons_of_mem _
  · rcases mem_cons.mp hmem with heq | hmem
    · exact (Act.posted.inj heq).1.le
    · exact (hstore.bound _ _ _ _ hmem).trans (Nat.le_succ _)
  · rcases mem_cons.mp hmem with heq | hmem <;> rcases mem_cons.mp hmem' with heq' | hmem'
    · obtain ⟨-, rfl, rfl, rfl⟩ := Act.posted.inj heq
      obtain ⟨-, rfl, rfl, rfl⟩ := Act.posted.inj heq'
      exact ⟨rfl, rfl, rfl⟩
    · rw [(Act.posted.inj heq).1] at hmem'
      exact absurd hmem' hnew
    · rw [(Act.posted.inj heq').1] at hmem
      exact absurd hmem hnew
    · exact hstore.once _ _ _ _ _ _ _ hmem hmem'
  · have hold := (mem_cons.mp hmem).resolve_left (by simp)
    obtain ⟨proxy', handle', bytes', hpost, hsent⟩ := hstore.commands _ _ _ _ hold
    exact ⟨proxy', handle', bytes', mem_cons_of_mem _ hpost, hsent⟩
  · rw [hself.1, hself.2.2]
    exact mem_cons_self
  · rw [hself.1, hself.2.1]

/-- A known block is put into the list. -/
theorem StoreOk.listAdd (hstore : StoreOk s) (hused : s.used m = true) (hknown : Known s m) :
    StoreOk { s with mbList := listAdd s.mbList m } := by
  refine ⟨nodup_listAdd hstore.nodup, fun j hj ↦ ?_, fun j hj ↦ ?_, hstore.bound, hstore.once,
    hstore.commands⟩
  · rcases mem_listAdd.mp hj with rfl | hj
    · exact hused
    · exact hstore.listed j hj
  · rcases mem_listAdd.mp hj with rfl | hj
    · exact hknown.mono rfl rfl rfl fun _ _ _ _ h ↦ h
    · exact (hstore.known j hj).mono rfl rfl rfl fun _ _ _ _ h ↦ h

theorem StoreOk.forward (hstore : StoreOk s) (config : Config) (data : List UInt8) :
    StoreOk (forward config data s) := by
  unfold Mailbox.forward
  split
  case h_1 => exact hstore.control (control_act s _ rfl)
  case h_2 m halloc =>
    exact (hstore.modify_free (hstore.not_listed halloc) _).control (control_act _ _ rfl)

/-- The timers of the blocks, when those that are in the list stay there. -/
theorem TimersOk.mono (htimers : TimersOk s) (hmem : ∀ i ∈ s.mbList, i ∈ t.mbList)
    (htimer : ∀ i, (t.blocks i).waitingTimer = true → (s.blocks i).waitingTimer = true) :
    TimersOk t :=
  fun i hi ↦ hmem i (htimers i (htimer i hi))

theorem sendMbProxyQueueCommand_timer (command : UInt8) (i : Fin maxMailboxEntries)
    (s : MailboxState) (j : Fin maxMailboxEntries) :
    ((sendMbProxyQueueCommand command i s).blocks j).waitingTimer = (s.blocks j).waitingTimer := by
  unfold sendMbProxyQueueCommand
  split
  · rfl
  · exact modify_field s (·.waitingTimer) (fun entry ↦
      { entry with
        data := overwrite (queueCommand command entry.handle (s.blocks i).bytes) entry.data })
      rfl j

theorem sendMbProxyQueueCommand_mbList (command : UInt8) (i : Fin maxMailboxEntries)
    (s : MailboxState) : (sendMbProxyQueueCommand command i s).mbList = s.mbList := by
  unfold sendMbProxyQueueCommand
  split <;> rfl

theorem sendMbProxyQueueCommand_used (command : UInt8) (i : Fin maxMailboxEntries)
    (s : MailboxState) : (sendMbProxyQueueCommand command i s).used = s.used := by
  unfold sendMbProxyQueueCommand
  split <;> rfl

/-- The timer of a block that is freed is stopped. -/
theorem TimersOk.freeEntry (htimers : ∀ j, j ≠ i → (s.blocks j).waitingTimer = true → j ∈ s.mbList)
    (hnodup : s.mbList.Nodup) : TimersOk (s.freeEntry i) := by
  intro j hj
  by_cases hji : j = i
  · have hstopped : ((s.freeEntry i).blocks i).waitingTimer = false := by
      simp [MailboxState.freeEntry, modify_self]
    rw [hji, hstopped] at hj
    exact absurd hj (by simp)
  · rw [freeEntry_of_ne s hji] at hj
    exact (mem_listRemove hnodup).mpr ⟨hji, htimers j hji hj⟩

/-- The invariant of the blocks. -/
structure ProxyInv (s : MailboxState) : Prop where
  store : StoreOk s
  timers : TimersOk s

theorem proxyInv_powerUp (mbConfMode : UInt8) : ProxyInv (.powerUp mbConfMode) := by
  refine ⟨⟨nodup_nil, ?_, ?_, ?_, ?_, ?_⟩, ?_⟩
  · exact fun i hi ↦ absurd hi not_mem_nil
  · exact fun i hi ↦ absurd hi not_mem_nil
  · exact fun _ _ _ _ h ↦ absurd h not_mem_nil
  · exact fun _ _ _ _ _ _ _ h ↦ absurd h not_mem_nil
  · exact fun _ _ _ _ h ↦ absurd h not_mem_nil
  · exact fun i hi ↦ absurd hi (by simp [MailboxState.powerUp, Entry.zero])

theorem ProxyInv.change (hinv : ProxyInv s) (hchange : Change s t) : ProxyInv t := by
  have hstore := hinv.store
  cases hchange with
  | control hcontrol =>
    refine ⟨hstore.control hcontrol, hinv.timers.mono ?_ ?_⟩
    · rw [hcontrol.mbList]
      exact fun _ h ↦ h
    · rw [hcontrol.blocks]
      exact fun _ h ↦ h
  | note act hact =>
    refine ⟨hstore.act ?_ ?_, hinv.timers⟩
    · rintro _ _ _ _ rfl
      exact absurd hact (by simp [Act.isNote])
    · rintro _ _ _ _ rfl
      exact absurd hact (by simp [Act.isNote])
  | take flight _ =>
    exact ⟨(hstore.setInFlight (some flight)).act (by simp) (by simp), hinv.timers⟩
  | report flight _ => exact ⟨(hstore.setInFlight none).act (by simp) (by simp), hinv.timers⟩
  | freeEntry i =>
    exact ⟨hstore.freeEntry i, TimersOk.freeEntry (fun j _ hj ↦ hinv.timers j hj) hstore.nodup⟩
  | setWaitingEnabled i enabled =>
    refine ⟨hstore.setWaitingEnabled i enabled, hinv.timers.mono (fun _ h ↦ h) fun j hj ↦ ?_⟩
    rwa [modify_field s (·.waitingTimer) (fun entry ↦
      { entry with waitingEnabled := enabled }) rfl j] at hj
  | command command i hi =>
    have hlisted : i ∈ s.mbList := hi.elim id (hinv.timers i)
    refine ⟨hstore.command command (hstore.listed i hlisted) (hstore.known i hlisted),
      hinv.timers.mono ?_ fun j hj ↦ ?_⟩
    · rw [sendMbProxyQueueCommand_mbList]
      exact fun _ h ↦ h
    · rwa [sendMbProxyQueueCommand_timer] at hj
  | forward config data =>
    refine ⟨hstore.forward config data, ?_⟩
    unfold forward
    split
    · exact hinv.timers
    · refine hinv.timers.mono (fun _ h ↦ h) fun j hj ↦ ?_
      dsimp only [MailboxState.act] at hj
      rwa [modify_field s (·.waitingTimer) _ (by rfl) j] at hj
  | post answers data proxy handle m halloc =>
    obtain ⟨hfilled, hknown⟩ := hstore.fillBlock halloc answers data proxy handle
    refine ⟨hfilled.listAdd (membTake_self s.used m) hknown, fun j hj ↦ ?_⟩
    by_cases hjm : j = m
    · exact mem_listAdd.mpr (Or.inl hjm)
    · rw [fillBlock_of_ne answers data proxy handle s hjm] at hj
      exact mem_listAdd.mpr (Or.inr (hinv.timers j hj))
  | postFull answers data proxy handle m halloc =>
    obtain ⟨hfilled, hknown⟩ := hstore.fillBlock halloc answers data proxy handle
    have hcommanded := hfilled.command mailboxQueueFull (membTake_self s.used m) hknown
    refine ⟨hcommanded.freeEntry m, TimersOk.freeEntry (fun j hjm hj ↦ ?_) hcommanded.nodup⟩
    rw [sendMbProxyQueueCommand_mbList]
    rw [sendMbProxyQueueCommand_timer] at hj
    rw [fillBlock_of_ne answers data proxy handle s hjm] at hj
    exact hinv.timers j hj
  | init =>
    refine ⟨⟨nodup_nil, ?_, ?_, hstore.bound, hstore.once, hstore.commands⟩, ?_⟩
    · exact fun i hi ↦ absurd hi not_mem_nil
    · exact fun i hi ↦ absurd hi not_mem_nil
    · exact fun i hi ↦ absurd hi (by simp [mbInit, Entry.zero])

theorem proxyInv_run (config : Config) (mbConfMode : UInt8) (inputs : List (Input × Answers)) :
    ProxyInv (run (step config) (.powerUp mbConfMode) inputs) := by
  refine run_invariant (fun state input hstate ↦ ?_) (proxyInv_powerUp mbConfMode) inputs
  obtain ⟨input, answers⟩ := input
  exact Changes.invariant (fun hstate hchange ↦ hstate.change hchange)
    (step_changes state input) hstate

end Store

/-- In every run the mailbox lists an entry once, and its block is allocated and has the packet that
was posted under its number. The timer of an entry runs only while it is listed, so that it never
expires in a block that was freed. -/
theorem listed_entries_kept (config : Config) (mbConfMode : UInt8)
    (inputs : List (Input × Answers)) : let s := run (step config) (.powerUp mbConfMode) inputs
    s.mbList.Nodup ∧ (∀ i ∈ s.mbList, s.used i = true ∧ Known s i) ∧
      ∀ i, (s.blocks i).waitingTimer = true → i ∈ s.mbList := by
  obtain ⟨hstore, htimers⟩ := proxyInv_run config mbConfMode inputs
  exact ⟨hstore.nodup, fun i hi ↦ ⟨hstore.listed i hi, hstore.known i hi⟩, htimers⟩

/-- In every run, a `MAILBOX_QUEUE` command for an entry that a proxy has pushed has the handle and
the packet that it was pushed with if and only if a block was free, and the handle that was left
over in the first free block was the same. -/
theorem queue_command_right (config : Config) (mbConfMode : UInt8) (inputs : List (Input × Answers))
    {serial : ℕ} {command handle : UInt8} {leftOver : Option UInt8} {sent : Option (List UInt8)}
    {proxy : Address} {bytes : List UInt8}
    (hcommand : .queueCommand serial command leftOver sent ∈
      (run (step config) (.powerUp mbConfMode) inputs).log)
    (hpushed : .posted serial (some proxy) handle bytes ∈
      (run (step config) (.powerUp mbConfMode) inputs).log) :
    sent = some (queueCommand command handle bytes) ↔ leftOver = some handle := by
  have hstore := (proxyInv_run config mbConfMode inputs).store
  obtain ⟨proxy', handle', bytes', hposted, hsent⟩ := hstore.commands _ _ _ _ hcommand
  obtain ⟨-, -, rfl⟩ := hstore.once _ _ _ _ _ _ _ hposted hpushed
  rw [hsent]
  cases leftOver with
  | none => simp
  | some other => simp [queueCommand]

/-- All addresses are of node 7. -/
def sampleConfig : Config := ⟨fun _ ↦ 7, fun _ ↦ unspecified⟩

/-- Frames are taken, and nothing else is special. -/
def sampleAnswers : Answers where
  clockSeconds := 0
  moreInfo := false
  input := fun _ ↦ .taken
  inputPopped := .taken
  ping := fun _ ↦ none
  pingReq := none
  sendDataAppl := true
  sendRequest := true
  nodeKnown := true
  aheadOfTime := false
  nodeFailing := false
  nodeBusy := false
  networkIdle := true
  probeInProgress := false

/-- A packet that has its headers only. -/
def samplePacket : List UInt8 := List.replicate 48 0

def sampleProxy : Address := List.replicate 16 1

/-- The proxy pushes two packets under handle 5, asks for them and acknowledges the first one, the
block of which is free again when the second one is sent. -/
theorem queue_command_right_acknowledged :
    some (queueCommand (8 ||| mailboxPop) 5 samplePacket) =
        some (queueCommand (8 ||| mailboxPop) 5 samplePacket) ↔
      some (5 : UInt8) = some 5 :=
  queue_command_right sampleConfig enableMailboxService
    [(.push sampleProxy 5 samplePacket, sampleAnswers),
      (.push sampleProxy 5 samplePacket, sampleAnswers),
      (.wakeupNotification sampleProxy 4123 5, sampleAnswers), (.ack true, sampleAnswers)]
    (by decide +kernel : Act.queueCommand 2 (8 ||| mailboxPop) (some 5)
      (some (queueCommand (8 ||| mailboxPop) 5 samplePacket)) ∈ _)
    (by decide +kernel : Act.posted 2 (some sampleProxy) 5 samplePacket ∈ _)

/-- The proxy pushes a packet under handle 5 and asks for it: the command has handle 0. -/
theorem queue_command_stale_handle :
    ¬ ∀ (config : Config) (mbConfMode : UInt8) (inputs : List (Input × Answers)) (serial : ℕ)
      (command handle : UInt8) (leftOver : Option UInt8) (sent : Option (List UInt8))
      (proxy : Address) (bytes : List UInt8),
      .queueCommand serial command leftOver sent ∈
        (run (step config) (.powerUp mbConfMode) inputs).log →
      .posted serial (some proxy) handle bytes ∈
        (run (step config) (.powerUp mbConfMode) inputs).log →
      sent = some (queueCommand command handle bytes) := by
  intro h
  have hsent := h sampleConfig enableMailboxService
    [(.push sampleProxy 5 samplePacket, sampleAnswers),
      (.wakeupNotification sampleProxy 4123 5, sampleAnswers)] 1 (8 ||| mailboxPop) 5 (some 0)
    (some (queueCommand (8 ||| mailboxPop) 0 samplePacket)) sampleProxy samplePacket
    (by decide +kernel) (by decide +kernel)
  exact absurd hsent (by decide)

end ZipGateway.Mailbox
