import ZipGateway.Lib.Run
import ZipGateway.Nodemask

/-!
# Removing a node

`src/src/CC_NetworkManagement.c`: a NODE_REMOVE command puts the protocol into remove mode with
`RemoveNodeStatusUpdate` as its callback, and the session ends with the callback DONE or FAILED,
with a stop command or with the timer. The id of the node is in two places: the REMOVING callback
writes it to the reply in `nms.buf` and to a static variable, and DONE deletes the node of the
static variable and sends the reply. `removal_right_iff` says in which runs these are always the
node that the session has announced.

Of `nms.buf` the model has the bytes of the reply. Other network management commands are accepted
only when no command is in progress, and they leave in these bytes what they please. What else the
gateway does to the resource directory and to the queue of commands is an input, and so is when the
timer fires.
-/

set_option autoImplicit false

namespace ZipGateway.NetworkManagement

open Lib List Nodemask

/-! ### State -/

/-- `ZW_NODE_REMOVE_STATUS_V4_FRAME`. -/
structure NodeRemoveStatus where
  cmdClass : UInt8
  cmd : UInt8
  seqNo : UInt8
  status : UInt8
  nodeid : UInt8
  extendedNodeidMSB : UInt8
  extendedNodeidLSB : UInt8
deriving DecidableEq, Repr

/-- The node that a reader of the frame takes it to be about. -/
def NodeRemoveStatus.named (r : NodeRemoveStatus) : UInt16 :=
  if r.nodeid = 0xff then r.extendedNodeidMSB.toUInt16 <<< 8 ||| r.extendedNodeidLSB.toUInt16
  else r.nodeid.toUInt16

/-- The frame after `memset`. -/
def NodeRemoveStatus.zero : NodeRemoveStatus := ⟨0, 0, 0, 0, 0, 0, 0⟩

/-- `nm_state_t`, as far as the removal looks at it. -/
inductive NmState where
  | idle
  | waitingForNodeRemoval
  | removingAssociations
  | other
deriving DecidableEq, Repr

/-- The nodes with an entry in the resource directory, and the nodes of the queued commands. -/
structure Stored where
  entries : List UInt16
  commands : List UInt16
  entries_ne : 0 ∉ entries
  commands_ne : 0 ∉ commands

/-- The node has an entry or a queued command. -/
def Stored.Has (stored : Stored) (node : UInt16) : Prop :=
  node ∈ stored.entries ∨ node ∈ stored.commands

instance (stored : Stored) (node : UInt16) : Decidable (stored.Has node) :=
  inferInstanceAs (Decidable (_ ∨ _))

/-- A status frame that was sent, with what was deleted before and what the session had
announced. -/
structure Outcome where
  entries : List UInt16
  commands : List UInt16
  named : UInt16
  announced : List UInt16
deriving DecidableEq, Repr

/-- Who was the last to write the node into `nms.buf`. -/
inductive Writer where
  | removing
  | cleared
  | foreign
deriving DecidableEq, Repr

/-- The variables of the removal. `announced`, newest first, and `writer` are ghost state of the
session, and so is `log`, newest first. -/
structure State where
  nmState : NmState
  seq : UInt8
  buf : NodeRemoveStatus
  callback : Bool
  removedNodeid : UInt16
  stored : Stored
  announced : List UInt16
  writer : Writer
  log : List Outcome

def State.powerUp : State where
  nmState := .idle
  seq := 0
  buf := .zero
  callback := false
  removedNodeid := 0
  stored := ⟨[], [], by simp, by simp⟩
  announced := []
  writer := .cleared
  log := []

/-! ### The callback -/

def removeNodeStop : UInt8 := 5

def removeNodeStatusLearnReady : UInt8 := 1

def removeNodeStatusRemovingEndNode : UInt8 := 3

def removeNodeStatusRemovingController : UInt8 := 4

def removeNodeStatusDone : UInt8 := 6

def removeNodeStatusFailed : UInt8 := 7

/-- The node id is neither that of a classic node nor that of a Long Range node. -/
def NodeidIsInvalid (node : UInt16) : Prop := ¬ IsClassicNode node.toNat ∧ ¬ IsLrNode node.toNat

instance (node : UInt16) : Decidable (NodeidIsInvalid node) := inferInstanceAs (Decidable (_ ∧ _))

/-- The reply with the id of a node. -/
def NodeRemoveStatus.withNode (r : NodeRemoveStatus) (node : UInt16) : NodeRemoveStatus :=
  if IsLrNode node.toNat then
    { r with
      nodeid := 0xff
      extendedNodeidMSB := (node >>> 8).toUInt8
      extendedNodeidLSB := (node &&& 0xff).toUInt8 }
  else { r with extendedNodeidMSB := 0, extendedNodeidLSB := 0, nodeid := node.toUInt8 }

/-- `rd_remove_node`. -/
def rdRemoveNode (node : UInt16) (entries : List UInt16) : List UInt16 :=
  if node = 0 then entries else entries.filter (· ≠ node)

/-- `NetworkManagement_queue_purge_node`. -/
def queuePurgeNode (node : UInt16) (commands : List UInt16) : List UInt16 :=
  commands.filter (· ≠ node)

theorem mem_of_mem_rdRemoveNode {node other : UInt16} {entries : List UInt16}
    (hmem : other ∈ rdRemoveNode node entries) : other ∈ entries := by
  unfold rdRemoveNode at hmem
  split_ifs at hmem
  · exact hmem
  · exact mem_of_mem_filter hmem

/-- What is left when a node is deleted. -/
def Stored.delete (stored : Stored) (node : UInt16) : Stored where
  entries := rdRemoveNode node stored.entries
  commands := queuePurgeNode node stored.commands
  entries_ne := fun hzero ↦ stored.entries_ne (mem_of_mem_rdRemoveNode hzero)
  commands_ne := fun hzero ↦ stored.commands_ne (mem_of_mem_filter hzero)

/-- The end of a session: the reply is completed and sent, and the protocol gets a stop without a
callback. -/
def finish (status : UInt8) (entries commands : List UInt16) (s : State) : State :=
  let r := { s.buf with cmdClass := 0x34, cmd := 0x04, status := status, seqNo := s.seq }
  let zeroed := status = removeNodeStatusFailed ∨ NodeidIsInvalid s.removedNodeid
  let r := if zeroed then { r with nodeid := 0, extendedNodeidMSB := 0, extendedNodeidLSB := 0 }
    else r
  { s with
    buf := r
    writer := if zeroed then .cleared else s.writer
    callback := false
    log := ⟨entries, commands, r.named, s.announced⟩ :: s.log }

/-- `RemoveNodeStatusUpdate`. -/
def removeNodeStatusUpdate (status : UInt8) (source : UInt16) (s : State) : State :=
  if status = removeNodeStatusLearnReady then { s with buf := .zero, writer := .cleared }
  else if status = removeNodeStatusRemovingEndNode ∨
    status = removeNodeStatusRemovingController then
    { s with
      buf := s.buf.withNode source
      removedNodeid := source
      announced := source :: s.announced
      writer := .removing }
  else if status = removeNodeStatusDone then
    let left := s.stored.delete s.removedNodeid
    finish status (s.stored.entries.filter (· ∉ left.entries))
      (s.stored.commands.filter (· ∉ left.commands))
      { s with nmState := .removingAssociations, stored := left }
  else if status = removeNodeStatusFailed then finish status [] [] s
  else s

/-- `RemoveTimerExpired`, which takes the callback from the protocol before it calls it. -/
def removeTimerExpired (s : State) : State :=
  removeNodeStatusUpdate removeNodeStatusFailed 0 { s with callback := false }

/-! ### The system -/

/-- What happens to the network management. -/
inductive Input where
  /-- A NODE_REMOVE command, of the peer of the command in progress or of another one. -/
  | nodeRemove (samePeer : Bool) (mode seqNo : UInt8)
  /-- The protocol calls the callback of the remove mode, if it has one. -/
  | status (status : UInt8) (source : UInt16)
  | timeout
  /-- `NetworkManagement_VirtualNodes_removed`. -/
  | virtualNodesRemoved
  /-- A reply has been sent, and `ResetState` is called. -/
  | resetState
  /-- Another command is accepted, or goes on. -/
  | otherCommand (seqNo : UInt8) (buf : NodeRemoveStatus)
  /-- The rest of the gateway changes the resource directory and the queue. -/
  | store (stored : Stored)

/-- The step of the system. -/
def step (s : State) : Input → State
  | .nodeRemove samePeer mode seqNo =>
    if s.nmState = .idle ∨ s.nmState = .waitingForNodeRemoval ∧ samePeer then
      let s := if s.nmState = .idle then { s with seq := seqNo } else s
      if mode = removeNodeStop then removeTimerExpired s
      else
        { s with
          callback := true
          nmState := .waitingForNodeRemoval
          announced := []
          writer := .foreign }
    else s
  | .status status source => if s.callback then removeNodeStatusUpdate status source s else s
  | .timeout => removeTimerExpired s
  | .virtualNodesRemoved =>
    if s.nmState = .removingAssociations then
      { s with log := ⟨[], [], s.buf.named, s.announced⟩ :: s.log }
    else s
  | .resetState => { s with nmState := .idle }
  | .otherCommand seqNo buf =>
    if s.nmState = .idle ∨ s.nmState = .other then
      { s with nmState := .other, seq := seqNo, buf := buf, writer := .foreign }
    else s
  | .store stored => { s with stored := stored }

/-- What was deleted and what the frame names is a node that the session has announced, or nothing
was deleted and the frame names node 0. -/
def Outcome.Right (outcome : Outcome) : Prop :=
  (outcome.entries = [] ∧ outcome.commands = [] ∧ outcome.named = 0) ∨
    ∃ node ∈ outcome.announced,
      (∀ other ∈ outcome.entries, other = node) ∧ (∀ other ∈ outcome.commands, other = node) ∧
        outcome.named = node

/-- When the protocol is done, the buffer was last written by the REMOVING callback of the session,
for a node with a valid id; or it was cleared, or the id is not valid, and the node of the static
variable has no entry and no command. Where the session has written nothing to the buffer or another
command has written there since, the node of the static variable has no entry and no command unless
the session has announced it and the buffer happens to name it, and the buffer names an announced
node or node 0. -/
def Told (s : State) : Input → Prop
  | .status status _ =>
    s.callback = true → status = removeNodeStatusDone →
      match s.writer with
      | .removing => NodeidIsInvalid s.removedNodeid → ¬ s.stored.Has s.removedNodeid
      | .cleared => ¬ s.stored.Has s.removedNodeid
      | .foreign =>
        (s.stored.Has s.removedNodeid →
            ¬ NodeidIsInvalid s.removedNodeid ∧ s.removedNodeid ∈ s.announced ∧
              s.buf.named = s.removedNodeid) ∧
          (¬ NodeidIsInvalid s.removedNodeid → s.buf.named = 0 ∨ s.buf.named ∈ s.announced)
  | _ => True

/-! ### What a status frame names -/

/-- The bytes of a node id give it back. -/
theorem msb_or_lsb (node : UInt16) :
    (node >>> 8).toUInt8.toUInt16 <<< 8 ||| (node &&& 0xff).toUInt8.toUInt16 = node := by
  apply UInt16.toBitVec_inj.mp
  apply BitVec.eq_of_getLsbD_eq
  intro i hi
  simp only [UInt16.toBitVec_or, UInt16.toBitVec_shiftLeft, UInt8.toBitVec_toUInt16,
    UInt16.toBitVec_toUInt8, UInt16.toBitVec_shiftRight, UInt16.toBitVec_and]
  interval_cases i <;> simp

/-- The reply names the node that was written there. -/
theorem named_withNode (r : NodeRemoveStatus) {node : UInt16} (hvalid : ¬ NodeidIsInvalid node) :
    (r.withNode node).named = node := by
  unfold NodeRemoveStatus.withNode
  by_cases hlr : IsLrNode node.toNat
  · rw [if_pos hlr]
    exact msb_or_lsb node
  · rw [if_neg hlr]
    have hclassic : IsClassicNode node.toNat := by
      by_contra hnot
      exact hvalid ⟨hnot, hlr⟩
    have hle : node.toNat ≤ 232 := hclassic.2
    have hbyte : node.toUInt8.toUInt16 = node := by
      apply UInt16.toNat_inj.mp
      rw [UInt8.toNat_toUInt16, UInt16.toNat_toUInt8, Nat.mod_eq_of_lt (by omega)]
    have hne : node.toUInt8 ≠ 0xff := by
      intro heq
      have hnat := congrArg UInt8.toNat heq
      rw [UInt16.toNat_toUInt8, Nat.mod_eq_of_lt (by omega)] at hnat
      have h255 : node.toNat = 255 := hnat
      omega
    unfold NodeRemoveStatus.named
    rw [if_neg hne]
    exact hbyte

/-! ### What is deleted -/

section Deletion

variable {stored : Stored} {node : UInt16}

/-- The entries that are deleted are those of the node. -/
theorem mem_entries_delete {other : UInt16} :
    other ∈ stored.entries.filter (· ∉ (stored.delete node).entries) ↔ other ∈ stored.entries ∧
      other = node := by
  rw [mem_filter, decide_eq_true_iff]
  refine and_congr_right fun hmem ↦ ?_
  change other ∉ rdRemoveNode node stored.entries ↔ other = node
  unfold rdRemoveNode
  split_ifs with hzero
  · constructor
    · exact fun hnot ↦ absurd hmem hnot
    · intro heq
      rw [heq, hzero] at hmem
      exact absurd hmem stored.entries_ne
  · simp [mem_filter, hmem]

/-- The commands that are deleted are those for the node. -/
theorem mem_commands_delete {other : UInt16} :
    other ∈ stored.commands.filter (· ∉ (stored.delete node).commands) ↔
      other ∈ stored.commands ∧ other = node := by
  rw [mem_filter, decide_eq_true_iff]
  refine and_congr_right fun hmem ↦ ?_
  change other ∉ queuePurgeNode node stored.commands ↔ other = node
  simp [queuePurgeNode, mem_filter, hmem]

/-- The outcome of the deletion of a node. -/
def deletion (stored : Stored) (node named : UInt16) (announced : List UInt16) : Outcome where
  entries := stored.entries.filter (· ∉ (stored.delete node).entries)
  commands := stored.commands.filter (· ∉ (stored.delete node).commands)
  named := named
  announced := announced

variable {named : UInt16} {announced : List UInt16}

/-- Nothing is deleted when the node has nothing. -/
theorem deletion_empty_iff :
    (deletion stored node named announced).entries = [] ∧
      (deletion stored node named announced).commands = [] ↔ ¬ stored.Has node := by
  rw [eq_nil_iff_forall_not_mem, eq_nil_iff_forall_not_mem]
  simp only [deletion, mem_entries_delete, mem_commands_delete, Stored.Has, not_or, not_and]
  constructor
  · rintro ⟨hentries, hcommands⟩
    exact ⟨fun hmem ↦ hentries node hmem rfl, fun hmem ↦ hcommands node hmem rfl⟩
  · rintro ⟨hentry, hcommand⟩
    refine ⟨?_, ?_⟩
    · rintro other hmem rfl
      exact hentry hmem
    · rintro other hmem rfl
      exact hcommand hmem

/-- What is deleted is the node, when the node has anything. -/
theorem deletion_only_iff {named other : UInt16} {announced : List UInt16}
    (hhas : stored.Has node) : ((∀ m ∈ (deletion stored node named announced).entries, m = other) ∧
        ∀ m ∈ (deletion stored node named announced).commands, m = other) ↔ node = other := by
  simp only [deletion, mem_entries_delete, mem_commands_delete]
  constructor
  · rintro ⟨hentries, hcommands⟩
    rcases hhas with hentry | hcommand
    · exact hentries node ⟨hentry, rfl⟩
    · exact hcommands node ⟨hcommand, rfl⟩
  · rintro rfl
    exact ⟨fun _ hmem ↦ hmem.2, fun _ hmem ↦ hmem.2⟩

theorem right_deletion_iff : (deletion stored node named announced).Right ↔
      (stored.Has node → node ∈ announced ∧ named = node) ∧ (named = 0 ∨ named ∈ announced) := by
  by_cases hhas : stored.Has node
  · have hsome : ¬ ((deletion stored node named announced).entries = [] ∧
        (deletion stored node named announced).commands = []) := fun hempty ↦
          deletion_empty_iff.mp hempty hhas
    constructor
    · rintro (⟨hentries, hcommands, -⟩ | ⟨other, hmem, hentries, hcommands, hnamed⟩)
      · exact absurd ⟨hentries, hcommands⟩ hsome
      · have hnode : node = other := (deletion_only_iff hhas).mp ⟨hentries, hcommands⟩
        have hnamed : named = node := hnamed.trans hnode.symm
        have hannounced : node ∈ announced := by
          rw [hnode]
          exact hmem
        refine ⟨fun _ ↦ ⟨hannounced, hnamed⟩, .inr ?_⟩
        rw [hnamed]
        exact hannounced
    · rintro ⟨hnode, -⟩
      obtain ⟨hmem, hnamed⟩ := hnode hhas
      have honly : (∀ m ∈ (deletion stored node named announced).entries, m = node) ∧
          ∀ m ∈ (deletion stored node named announced).commands, m = node :=
            (deletion_only_iff hhas).mpr rfl
      exact .inr ⟨node, hmem, honly.1, honly.2, hnamed⟩
  · have hempty : (deletion stored node named announced).entries = [] ∧
        (deletion stored node named announced).commands = [] := deletion_empty_iff.mpr hhas
    obtain ⟨hentries, hcommands⟩ := hempty
    constructor
    · rintro (⟨-, -, hnamed⟩ | ⟨other, hmem, -, -, hnamed⟩)
      · exact ⟨fun h ↦ absurd h hhas, .inl hnamed⟩
      · refine ⟨fun h ↦ absurd h hhas, .inr ?_⟩
        change other ∈ announced at hmem
        change named = other at hnamed
        rw [hnamed]
        exact hmem
    · rintro ⟨-, hnamed | hmem⟩
      · exact .inl ⟨hentries, hcommands, hnamed⟩
      · refine .inr ⟨named, hmem, ?_, ?_, rfl⟩
        · rw [hentries]
          simp
        · rw [hcommands]
          simp

/-- A frame that is sent with nothing deleted. -/
theorem right_nothing (hnamed : named = 0 ∨ named ∈ announced) :
    (⟨[], [], named, announced⟩ : Outcome).Right := by
  rcases hnamed with hzero | hmem
  · exact .inl ⟨rfl, rfl, hzero⟩
  · exact .inr ⟨named, hmem, by simp, by simp, rfl⟩

end Deletion

/-! ### The invariant -/

/-- Who wrote the node into the buffer says what it is; and while the associations of a removed node
are being removed, no session is open and the buffer names a node that the last one announced, or
node 0. -/
structure Kept (s : State) : Prop where
  removing : s.writer = .removing →
    s.removedNodeid ∈ s.announced ∧
      (¬ NodeidIsInvalid s.removedNodeid → s.buf.named = s.removedNodeid)
  cleared : s.writer = .cleared → s.buf.named = 0
  closed : s.nmState = .removingAssociations → s.callback = false
  reply : s.nmState = .removingAssociations → s.buf.named = 0 ∨ s.buf.named ∈ s.announced
  right : ∀ outcome ∈ s.log, outcome.Right

theorem kept_powerUp : Kept State.powerUp where
  removing := nofun
  cleared := fun _ ↦ by decide
  closed := nofun
  reply := nofun
  right := nofun

variable {s : State}

/-- The reply of a session that failed. -/
theorem kept_failed (hkept : Kept s) :
    Kept (removeNodeStatusUpdate removeNodeStatusFailed 0 s) where
  removing := nofun
  cleared := fun _ ↦ rfl
  closed := fun _ ↦ rfl
  reply := fun _ ↦ .inl rfl
  right := by
    intro outcome hmem
    rcases mem_cons.mp hmem with rfl | hold
    · exact right_nothing (.inl rfl)
    · exact hkept.right outcome hold

theorem kept_timerExpired (hkept : Kept s) : Kept (removeTimerExpired s) :=
  kept_failed { hkept with closed := fun _ ↦ rfl }

/-- The node that the reply to DONE names. -/
def doneNamed (s : State) : UInt16 := if NodeidIsInvalid s.removedNodeid then 0 else s.buf.named

/-- The state after DONE: what was deleted is logged, and the reply names what the buffer named if
the id is valid. -/
theorem done_log (source : UInt16) :
    (removeNodeStatusUpdate removeNodeStatusDone source s).log =
      deletion s.stored s.removedNodeid (doneNamed s) s.announced :: s.log := by
  unfold doneNamed
  by_cases hinvalid : NodeidIsInvalid s.removedNodeid
  · rw [if_pos hinvalid]
    change (finish _ _ _ _).log = _
    unfold finish
    simp only [hinvalid, or_true, if_true]
    rfl
  · rw [if_neg hinvalid]
    change (finish _ _ _ _).log = _
    unfold finish
    simp only [hinvalid, or_false,
      show removeNodeStatusDone ≠ removeNodeStatusFailed by decide, if_false]
    rfl

theorem done_named (source : UInt16) :
    (removeNodeStatusUpdate removeNodeStatusDone source s).buf.named = doneNamed s := by
  unfold doneNamed
  by_cases hinvalid : NodeidIsInvalid s.removedNodeid
  · rw [if_pos hinvalid]
    change (finish _ _ _ _).buf.named = _
    unfold finish
    simp only [hinvalid, or_true, if_true]
    rfl
  · rw [if_neg hinvalid]
    change (finish _ _ _ _).buf.named = _
    unfold finish
    simp only [hinvalid, or_false,
      show removeNodeStatusDone ≠ removeNodeStatusFailed by decide, if_false]
    rfl

theorem done_writer (source : UInt16) :
    (removeNodeStatusUpdate removeNodeStatusDone source s).writer =
      if NodeidIsInvalid s.removedNodeid then .cleared else s.writer := by
  change (finish _ _ _ _).writer = _
  unfold finish
  simp only [show removeNodeStatusDone ≠ removeNodeStatusFailed by decide, false_or]

/-- The reply to DONE and the deletion are right exactly when the session was told about the
node. -/
theorem right_done_iff (hkept : Kept s) (hcallback : s.callback = true) (source : UInt16) :
    (deletion s.stored s.removedNodeid (doneNamed s) s.announced).Right ↔
      Told s (.status removeNodeStatusDone source) := by
  rw [right_deletion_iff]
  have hzero : s.removedNodeid = 0 → ¬ s.stored.Has s.removedNodeid := by
    intro heq hhas
    rw [heq] at hhas
    exact hhas.elim s.stored.entries_ne s.stored.commands_ne
  unfold Told doneNamed
  simp only [hcallback, true_imp_iff]
  cases hwriter : s.writer with
  | removing =>
    obtain ⟨hmem, hnamed⟩ := hkept.removing hwriter
    by_cases hinvalid : NodeidIsInvalid s.removedNodeid
    · simp only [hinvalid, if_true, true_imp_iff, true_or, and_true]
      constructor
      · exact fun h hhas ↦ hzero (h hhas).2.symm hhas
      · exact fun h hhas ↦ absurd hhas h
    · simp only [hinvalid, if_false, hnamed hinvalid, hmem, and_self, implies_true, or_true,
        false_imp_iff]
  | cleared =>
    have hbuf : (if NodeidIsInvalid s.removedNodeid then 0 else s.buf.named) = (0 : UInt16) := by
      rw [hkept.cleared hwriter, ite_self]
    rw [hbuf]
    simp only [true_or, and_true]
    constructor
    · exact fun h hhas ↦ hzero (h hhas).2.symm hhas
    · exact fun h hhas ↦ absurd hhas h
  | foreign =>
    by_cases hinvalid : NodeidIsInvalid s.removedNodeid
    · simp only [hinvalid, if_true, true_or, and_true, not_true, false_and, false_imp_iff,
        imp_false]
      constructor
      · exact fun h hhas ↦ hzero (h hhas).2.symm hhas
      · exact fun h hhas ↦ absurd hhas h
    · simp only [hinvalid, if_false, not_false_iff, true_and, true_imp_iff]

/-- DONE keeps the invariant when the session was told about the node. -/
theorem kept_done (hkept : Kept s) (hcallback : s.callback = true) (source : UInt16)
    (htold : Told s (.status removeNodeStatusDone source)) :
    Kept (removeNodeStatusUpdate removeNodeStatusDone source s) where
  removing := by
    rw [done_writer, done_named]
    unfold doneNamed
    split_ifs with hinvalid
    · exact nofun
    · exact hkept.removing
  cleared := by
    rw [done_writer, done_named]
    unfold doneNamed
    split_ifs with hinvalid
    · exact fun _ ↦ rfl
    · exact hkept.cleared
  closed := fun _ ↦ rfl
  reply := by
    intro _
    rw [done_named]
    exact (right_deletion_iff.mp ((right_done_iff hkept hcallback source).mpr htold)).2
  right := by
    intro outcome hmem
    rw [done_log] at hmem
    rcases mem_cons.mp hmem with rfl | hold
    · exact (right_done_iff hkept hcallback source).mpr htold
    · exact hkept.right outcome hold

/-- The callbacks other than DONE keep the invariant. -/
theorem kept_status (hkept : Kept s) (hcallback : s.callback = true) {status : UInt8}
    (source : UInt16)
    (hstatus : status ≠ removeNodeStatusDone) : Kept (removeNodeStatusUpdate status source s) := by
  have hopen : s.nmState ≠ .removingAssociations := by
    intro hstate
    rw [hkept.closed hstate] at hcallback
    exact absurd hcallback Bool.false_ne_true
  unfold removeNodeStatusUpdate
  split_ifs with hready hremoving hfailed
  · exact { hkept with
      removing := nofun
      cleared := fun _ ↦ rfl
      reply := fun _ ↦ .inl rfl }
  · exact {
      removing := fun _ ↦ ⟨mem_cons_self, named_withNode s.buf⟩
      cleared := nofun
      closed := fun hstate ↦ absurd hstate hopen
      reply := fun hstate ↦ absurd hstate hopen
      right := hkept.right }
  · subst hfailed
    exact kept_failed hkept
  · exact hkept

/-- A command to remove a node keeps the invariant. -/
theorem kept_nodeRemove (hkept : Kept s) (samePeer : Bool) (mode seqNo : UInt8) :
    Kept (step s (.nodeRemove samePeer mode seqNo)) := by
  obtain ⟨s', hs'⟩ : ∃ s', s' = if s.nmState = .idle then { s with seq := seqNo } else s := ⟨_, rfl⟩
  have hseq : Kept s' := by
    rw [hs']
    split_ifs
    · exact { hkept with }
    · exact hkept
  have hstep : step s (.nodeRemove samePeer mode seqNo) =
      if s.nmState = .idle ∨ s.nmState = .waitingForNodeRemoval ∧ samePeer then
        if mode = removeNodeStop then removeTimerExpired s'
        else
          { s' with
            callback := true
            nmState := .waitingForNodeRemoval
            announced := []
            writer := .foreign }
      else s := by
    rw [hs']
    rfl
  rw [hstep]
  split_ifs
  · exact kept_timerExpired hseq
  · exact { hseq with removing := nofun, cleared := nofun, closed := nofun, reply := nofun }
  · exact hkept

/-- Every step in which the session was told about the node keeps the invariant. -/
theorem kept_step (input : Input) (htold : Told s input) (hkept : Kept s) :
    Kept (step s input) := by
  cases input with
  | nodeRemove samePeer mode seqNo => exact kept_nodeRemove hkept samePeer mode seqNo
  | status status source =>
    change Kept (if s.callback then removeNodeStatusUpdate status source s else s)
    split_ifs with hcallback
    · by_cases hdone : status = removeNodeStatusDone
      · subst hdone
        exact kept_done hkept hcallback source htold
      · exact kept_status hkept hcallback source hdone
    · exact hkept
  | timeout => exact kept_timerExpired hkept
  | virtualNodesRemoved =>
    change Kept (if s.nmState = .removingAssociations then
      { s with log := ⟨[], [], s.buf.named, s.announced⟩ :: s.log } else s)
    split_ifs with hstate
    · refine { hkept with right := ?_ }
      intro outcome hmem
      rcases mem_cons.mp hmem with rfl | hold
      · exact right_nothing (hkept.reply hstate)
      · exact hkept.right outcome hold
    · exact hkept
  | resetState => exact { hkept with closed := nofun, reply := nofun }
  | otherCommand seqNo buf =>
    change Kept (if s.nmState = .idle ∨ s.nmState = .other then
      { s with nmState := .other, seq := seqNo, buf := buf, writer := .foreign } else s)
    split_ifs
    · exact { hkept with removing := nofun, cleared := nofun, closed := nofun, reply := nofun }
    · exact hkept
  | store stored => exact { hkept with }

/-- A step after which every outcome is right was one in which the session was told about the
node. -/
theorem told_of_right (input : Input) (hkept : Kept s)
    (hright : ∀ outcome ∈ (step s input).log, outcome.Right) : Told s input := by
  cases input with
  | status status source =>
    intro hcallback hdone
    subst hdone
    have hlog : (step s (.status removeNodeStatusDone source)).log =
        deletion s.stored s.removedNodeid (doneNamed s) s.announced :: s.log := by
      change (if s.callback then removeNodeStatusUpdate removeNodeStatusDone source s
        else s).log = _
      rw [if_pos hcallback]
      exact done_log source
    rw [hlog] at hright
    exact (right_done_iff hkept hcallback source).mp (hright _ mem_cons_self) hcallback rfl
  | _ => trivial

/-! ### The nodes that a run removes -/

/-- In a run every deletion and every status frame is about a node that the session has announced,
or nothing is deleted and the frame names node 0, exactly when at every DONE the session was told
about the node. -/
theorem removal_right_iff (inputs : List Input) :
    (∀ way, way <+: inputs → ∀ outcome ∈ (run step State.powerUp way).log, outcome.Right) ↔
      AllSteps step Told State.powerUp inputs :=
  forall_prefix_run_iff_allSteps_of_invariant (fun _ input ↦ kept_step input)
    (fun _ hkept ↦ hkept.right) (fun _ input ↦ told_of_right input) kept_powerUp inputs

/-- Node 5 has an entry. -/
def fifth : Stored := ⟨[5], [], by decide, by decide⟩

/-- Two sessions: the first is stopped after it has announced node 5, and in the second the protocol
is done without having announced a node. -/
def stoppedThenDone : List Input :=
  [.store fifth,
    .nodeRemove true 1 1, .status removeNodeStatusLearnReady 0,
    .status removeNodeStatusRemovingEndNode 5, .nodeRemove true removeNodeStop 2, .resetState,
    .nodeRemove true 1 3, .status removeNodeStatusLearnReady 0, .status removeNodeStatusDone 0]

/-- The second session deletes node 5. -/
theorem stale_node_deleted :
    ¬ ∀ (inputs way : List Input), way <+: inputs →
      ∀ outcome ∈ (run step State.powerUp way).log, outcome.Right := by
  intro hall
  have hlog : (run step State.powerUp stoppedThenDone).log =
      [⟨[5], [], 0, []⟩, ⟨[], [], 0, [5]⟩] := by
    decide +kernel
  have hright := hall stoppedThenDone stoppedThenDone (prefix_refl _) ⟨[5], [], 0, []⟩
  rw [hlog] at hright
  rcases hright mem_cons_self with ⟨hentries, -, -⟩ | ⟨node, hmem, -⟩
  · exact absurd hentries (by decide)
  · exact absurd hmem not_mem_nil

end ZipGateway.NetworkManagement
