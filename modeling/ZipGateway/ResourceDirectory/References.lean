import ZipGateway.Lib.Run
import ZipGateway.ResourceDirectory.Model

/-!
# References to node entries

`rd_get_node_dbe` counts a reference to an entry in `refCnt`, and `rd_free_node_dbe` gives it back.
The queries and updates of `src/src/ResourceDirectory.c` that look a node up take one and give it
back before they return; `withNode` is the shape they share. `sleeping_node_is_in_firmware_upgrade`,
and the look at firmware update frames in `ApplicationCommandHandlerZIP` of `src/src/ZIP_Router.c`,
keep theirs. The counter is a `uint8_t`.

What an update sets off elsewhere (the data store, the mDNS announcements, the failed node list)
takes no reference and is left out.
-/

set_option autoImplicit false

namespace ZipGateway.ResourceDirectory

open Function ZipGateway.Lib

/-! ### Entries -/

/-- `rd_ep_database_entry_t`: the id and the node information; `endpointInfo` is `none` where the
pointer is NULL. -/
structure EpInfo where
  endpointId : UInt8
  endpointInfo : Option (List UInt8)
deriving DecidableEq, Repr

/-- `rd_node_database_entry_t`: the reference count, and the fields that the queries read or
write. -/
structure CacheEntry where
  nodeid : UInt16
  securityFlags : UInt8
  mode : UInt32
  state : NodeState
  nodeType : UInt8
  probeFlags : UInt16
  lastAwake : UInt32
  endpoints : List EpInfo
  refCnt : UInt8
deriving DecidableEq, Repr

/-- `ndb`, and whether an assertion on a reference count has failed. -/
structure NodeCache where
  ndb : Fin zwMaxNodes → Option CacheEntry
  assertionFailed : Bool

def modeMailbox : UInt32 := 4

def modeFirmwareUpgrade : UInt32 := 5

def modeFlagsDeleted : UInt32 := 0x0100

def modeFlagsFailed : UInt32 := 0x0200

def rdNodeProbeNeverStarted : UInt16 := 0

/-- `nodemask_nodeid_is_invalid`, and the slot of an id that is valid. -/
def validSlot (nodeid : UInt16) : Option (Fin zwMaxNodes) :=
  if Nodemask.IsClassicNode nodeid.toNat ∨
    Nodemask.IsLrNode nodeid.toNat then slotOf nodeid else none

/-- The entry in a slot is changed. -/
def NodeCache.modify (s : NodeCache) (slot : Fin zwMaxNodes) (change : CacheEntry → CacheEntry) :
    NodeCache :=
  { s with ndb := update s.ndb slot ((s.ndb slot).map change) }

/-- `rd_get_node_dbe`: the slot of the entry and the entry, if there is one. -/
def rdGetNodeDbe (nodeid : UInt16) (s : NodeCache) :
    NodeCache × Option (Fin zwMaxNodes × CacheEntry) :=
  match validSlot nodeid with
  | none => (s, none)
  | some slot =>
    match s.ndb slot with
    | none => (s, none)
    | some n =>
      let n := { n with refCnt := n.refCnt + 1 }
      ({ s with ndb := update s.ndb slot (some n) }, some (slot, n))

/-- `rd_free_node_dbe`. -/
def rdFreeNodeDbe (slot : Fin zwMaxNodes) (s : NodeCache) : NodeCache :=
  match s.ndb slot with
  | none => s
  | some n =>
    { ndb := update s.ndb slot (some { n with refCnt := n.refCnt - 1 })
      assertionFailed := s.assertionFailed || decide (n.refCnt = 0) }

/-! ### Queries and updates -/

/-- An entry is looked up, used and given back; `missing` is the answer for a node without one. -/
def withNode {α : Type} (nodeid : UInt16) (missing : α) (use : CacheEntry → α × CacheEntry)
    (s : NodeCache) : α × NodeCache :=
  match rdGetNodeDbe nodeid s with
  | (s, none) => (missing, s)
  | (s, some (slot, n)) => ((use n).1, rdFreeNodeDbe slot (s.modify slot fun n ↦ (use n).2))

/-- An entry is only read. -/
def readNode {α : Type} (nodeid : UInt16) (missing : α) (read : CacheEntry → α) (s : NodeCache) :
    α × NodeCache :=
  withNode nodeid missing (fun n ↦ (read n, n)) s

/-- An entry is only changed. -/
def changeNode (nodeid : UInt16) (change : CacheEntry → CacheEntry) (s : NodeCache) : NodeCache :=
  (withNode nodeid () (fun n ↦ ((), change n)) s).2

/-- `rd_get_ep`. -/
def rdGetEp (nodeid : UInt16) (epid : UInt8) (s : NodeCache) : Option EpInfo × NodeCache :=
  readNode nodeid none (fun n ↦ n.endpoints.find? fun ep ↦ ep.endpointId = epid) s

/-- `sleeping_node_is_in_firmware_upgrade`. The reference is kept. -/
def sleepingNodeIsInFirmwareUpgrade (nodeid : UInt16) (s : NodeCache) : Bool × NodeCache :=
  match rdGetNodeDbe nodeid s with
  | (s, none) => (false, s)
  | (s, some (_, n)) => (decide (n.mode = modeFirmwareUpgrade), s)

/-- `rd_get_node_mode`. -/
def rdGetNodeMode (nodeid : UInt16) (s : NodeCache) : UInt32 × NodeCache :=
  readNode nodeid modeFlagsDeleted CacheEntry.mode s

/-- `rd_mark_node_deleted`. -/
def rdMarkNodeDeleted (nodeid : UInt16) (s : NodeCache) : NodeCache :=
  changeNode nodeid (fun n ↦ { n with mode := n.mode ||| modeFlagsDeleted }) s

/-- `rd_get_node_state`. -/
def rdGetNodeState (nodeid : UInt16) (s : NodeCache) : NodeState × NodeCache :=
  readNode nodeid .probeFail CacheEntry.state s

/-- `rd_get_node_probe_flags`. -/
def rdGetNodeProbeFlags (nodeid : UInt16) (s : NodeCache) : UInt16 × NodeCache :=
  readNode nodeid rdNodeProbeNeverStarted CacheEntry.probeFlags s

/-- The variables of the loop of `rd_ep_class_support`. -/
structure ClassScan where
  bSecureClass : Bool
  bControlled : Bool
  result : UInt8

/-- One class of the node information, or a mark. -/
def ClassScan.see (cls c : UInt16) (scan : ClassScan) : ClassScan :=
  if c = 0xF100 then { scan with bSecureClass := true, bControlled := false }
  else if c = 0xEF then { scan with bControlled := true }
  else if c = cls then
    { scan with
      result := scan.result ||| (1 : UInt8) <<<
        ((if scan.bSecureClass then 2 else 0) ||| (if scan.bControlled then 1 else 0)) }
  else scan

/-- The loop of `rd_ep_class_support`. A byte from `0xF0` on and the next one are one class. -/
def scanClasses (cls : UInt16) : ClassScan → List UInt8 → UInt8
  | scan, [] => scan.result
  | scan, [c] => (scan.see cls c.toUInt16).result
  | scan, c :: d :: rest =>
    if c &&& 0xF0 = 0xF0 then scanClasses cls (scan.see cls (c.toUInt16 <<< 8 ||| d.toUInt16)) rest
    else scanClasses cls (scan.see cls c.toUInt16) (d :: rest)

/-- `rd_ep_class_support` of an endpoint of the node. -/
def rdEpClassSupport (n : CacheEntry) (ep : EpInfo) (cls : UInt16) : UInt8 :=
  match ep.endpointInfo with
  | none => 0
  | some info =>
    if n.mode &&& modeFlagsDeleted ≠ 0 then 0 else scanClasses cls ⟨false, false, 0⟩ (info.drop 2)

/-- `SupportsCmdClassFlags`. -/
def supportsCmdClassFlags (nodeid cls : UInt16) (s : NodeCache) : UInt8 × NodeCache :=
  readNode nodeid 0 (fun n ↦ n.endpoints.head?.elim 0 fun ep ↦ rdEpClassSupport n ep cls) s

/-- `SupportsCmdClass`. -/
def supportsCmdClass (nodeid cls : UInt16) (s : NodeCache) : Bool × NodeCache :=
  let (flags, s) := supportsCmdClassFlags nodeid cls s
  (decide (0 < flags &&& 0x1), s)

/-- `SupportsCmdClassSecure`. -/
def supportsCmdClassSecure (nodeid cls : UInt16) (s : NodeCache) : Bool × NodeCache :=
  let (flags, s) := supportsCmdClassFlags nodeid cls s
  (decide (0 < flags &&& 0x4), s)

/-- `SetCacheEntryFlagMasked`. -/
def setCacheEntryFlagMasked (nodeid : UInt16) (value mask : UInt8) (s : NodeCache) : NodeCache :=
  changeNode nodeid (fun n ↦ { n with securityFlags := n.securityFlags &&& ~~~mask ||| value }) s

/-- `GetCacheEntryFlag`; the entry of a virtual node is that of the gateway. -/
def getCacheEntryFlag (isVirtual : Bool) (myNodeId nodeid : UInt16) (s : NodeCache) :
    UInt8 × NodeCache :=
  readNode (if isVirtual then myNodeId else nodeid) 0 CacheEntry.securityFlags s

/-- `isNodeController`. -/
def isNodeController (nodeid : UInt16) (s : NodeCache) : Bool × NodeCache :=
  readNode nodeid false (fun n ↦ n.nodeType = 0x01 || n.nodeType = 0x02) s

/-- `rd_set_failing`. -/
def CacheEntry.setFailing (failing : Bool) (n : CacheEntry) : CacheEntry :=
  let state : NodeState := if failing then .failing else .done
  if n.state ≠ state ∧ (n.state = .failing ∨ n.state = .done) then
    { n with
      state := state
      mode := n.mode &&& ~~~modeFlagsFailed ||| if failing then modeFlagsFailed else 0 }
  else n

/-- `rd_node_is_unreachable`. -/
def rdNodeIsUnreachable (nodeid : UInt16) (s : NodeCache) : NodeCache :=
  changeNode nodeid (fun n ↦
    if n.mode &&& 0xFF ≠ modeMailbox ∧ n.mode &&& 0xFF ≠ modeFirmwareUpgrade then n.setFailing true
    else n) s

/-- `rd_node_is_alive`; `now` is `clock_seconds()`. -/
def rdNodeIsAlive (nodeid : UInt16) (now : UInt32) (s : NodeCache) : NodeCache :=
  changeNode nodeid (fun n ↦ { n with lastAwake := now }.setFailing false) s

/-- What `ApplicationCommandHandlerZIP` does with a frame of the class Firmware Update: a request
report, here with whether its status is 0xFF, a status report, a get, or another command. -/
inductive FirmwareUpdateMd where
  | requestReport (ok : Bool)
  | statusReport
  | get
  | other
deriving DecidableEq, Repr

/-- The mode of a node after such a frame. -/
def CacheEntry.firmwareUpdateMd (command : FirmwareUpdateMd) (n : CacheEntry) : CacheEntry :=
  match command with
  | .requestReport true | .get =>
    if n.mode = modeMailbox then { n with mode := modeFirmwareUpgrade } else n
  | .statusReport => if n.mode = modeFirmwareUpgrade then { n with mode := modeMailbox } else n
  | .requestReport false | .other => n

/-- The look of `ApplicationCommandHandlerZIP` at such a frame. The reference is kept. -/
def applicationCommandHandlerZip (snode : UInt16) (command : FirmwareUpdateMd) (s : NodeCache) :
    NodeCache :=
  match rdGetNodeDbe snode s with
  | (s, none) => s
  | (s, some (slot, _)) => s.modify slot (CacheEntry.firmwareUpdateMd command)

/-- A query or an update. -/
inductive Query where
  | getEp (nodeid : UInt16) (epid : UInt8)
  | inFirmwareUpgrade (nodeid : UInt16)
  | getNodeMode (nodeid : UInt16)
  | markNodeDeleted (nodeid : UInt16)
  | getNodeState (nodeid : UInt16)
  | getNodeProbeFlags (nodeid : UInt16)
  | supportsCmdClass (nodeid cls : UInt16)
  | supportsCmdClassSecure (nodeid cls : UInt16)
  | setCacheEntryFlagMasked (nodeid : UInt16) (value mask : UInt8)
  | getCacheEntryFlag (isVirtual : Bool) (myNodeId nodeid : UInt16)
  | isNodeController (nodeid : UInt16)
  | nodeIsUnreachable (nodeid : UInt16)
  | nodeIsAlive (nodeid : UInt16) (now : UInt32)
  | firmwareUpdateMd (snode : UInt16) (command : FirmwareUpdateMd)
deriving DecidableEq, Repr

/-- One query or update. -/
def query (s : NodeCache) : Query → NodeCache
  | .getEp nodeid epid => (rdGetEp nodeid epid s).2
  | .inFirmwareUpgrade nodeid => (sleepingNodeIsInFirmwareUpgrade nodeid s).2
  | .getNodeMode nodeid => (rdGetNodeMode nodeid s).2
  | .markNodeDeleted nodeid => rdMarkNodeDeleted nodeid s
  | .getNodeState nodeid => (rdGetNodeState nodeid s).2
  | .getNodeProbeFlags nodeid => (rdGetNodeProbeFlags nodeid s).2
  | .supportsCmdClass nodeid cls => (supportsCmdClass nodeid cls s).2
  | .supportsCmdClassSecure nodeid cls => (supportsCmdClassSecure nodeid cls s).2
  | .setCacheEntryFlagMasked nodeid value mask => setCacheEntryFlagMasked nodeid value mask s
  | .getCacheEntryFlag isVirtual myNodeId nodeid =>
    (getCacheEntryFlag isVirtual myNodeId nodeid s).2
  | .isNodeController nodeid => (isNodeController nodeid s).2
  | .nodeIsUnreachable nodeid => rdNodeIsUnreachable nodeid s
  | .nodeIsAlive nodeid now => rdNodeIsAlive nodeid now s
  | .firmwareUpdateMd snode command => applicationCommandHandlerZip snode command s

/-! ### Counting -/

/-- Every reference count is the number of references held, none of which is so large that one more
would not fit, and no assertion has failed. -/
structure Counts (held : Fin zwMaxNodes → ℕ) (s : NodeCache) : Prop where
  refCnt : ∀ slot n, s.ndb slot = some n → n.refCnt.toNat = held slot ∧ held slot < 255
  asserted : s.assertionFailed = false

/-- The id has an entry. -/
def NodeCache.Knows (s : NodeCache) (nodeid : UInt16) : Prop :=
  ∃ slot, validSlot nodeid = some slot ∧ s.ndb slot ≠ none

/-- The query gives back the reference it takes. -/
def GivesBack (s : NodeCache) : Query → Prop
  | .inFirmwareUpgrade nodeid => ¬ s.Knows nodeid
  | .firmwareUpdateMd snode _ => ¬ s.Knows snode
  | _ => True

section Counting

variable {held : Fin zwMaxNodes → ℕ} {s : NodeCache}

/-- `rd_get_node_dbe` finds no entry, or counts one more reference to it. -/
theorem rdGetNodeDbe_cases (nodeid : UInt16) (s : NodeCache) :
    rdGetNodeDbe nodeid s = (s, none) ∧ ¬ s.Knows nodeid ∨
    ∃ slot n, validSlot nodeid = some slot ∧ s.ndb slot = some n ∧
      rdGetNodeDbe nodeid s = ({ s with
        ndb := update s.ndb slot (some { n with refCnt := n.refCnt + 1 }) },
        some (slot, { n with refCnt := n.refCnt + 1 })) := by
  unfold rdGetNodeDbe
  split
  · rename_i hinvalid
    refine .inl ⟨rfl, ?_⟩
    rintro ⟨slot, hslot, -⟩
    exact Option.some_ne_none slot (hslot.symm.trans hinvalid)
  · rename_i slot hslot
    split
    · rename_i hnone
      refine .inl ⟨rfl, ?_⟩
      rintro ⟨slot', hslot', hsome⟩
      rw [Option.some.inj (hslot'.symm.trans hslot)] at hsome
      exact hsome hnone
    · rename_i n hn
      exact .inr ⟨slot, n, hslot, hn, rfl⟩

theorem knows_of_validSlot {nodeid : UInt16} {slot : Fin zwMaxNodes} {n : CacheEntry}
    (hslot : validSlot nodeid = some slot) (hn : s.ndb slot = some n) : s.Knows nodeid :=
  ⟨slot, hslot, fun hnone ↦ Option.some_ne_none n (hn.symm.trans hnone)⟩

/-- A count that is put back where it was. -/
theorem Counts.update (h : Counts held s) {slot : Fin zwMaxNodes} {n n' : CacheEntry}
    (hn : s.ndb slot = some n) (hcount : n'.refCnt = n.refCnt) :
    Counts held { s with ndb := update s.ndb slot (some n') } := by
  refine ⟨?_, h.asserted⟩
  intro other entry hentry
  rcases eq_or_ne other slot with rfl | hother
  · dsimp only at hentry
    rw [update_self] at hentry
    rw [← Option.some.inj hentry, hcount]
    exact h.refCnt other n hn
  · dsimp only at hentry
    rw [update_of_ne hother] at hentry
    exact h.refCnt other entry hentry

/-- What `withNode` leaves behind: the entry as it was used, and every count as it was. -/
theorem withNode_counts {α : Type} (h : Counts held s) (nodeid : UInt16) (missing : α)
    (use : CacheEntry → α × CacheEntry) (huse : ∀ n, (use n).2.refCnt = n.refCnt) :
    Counts held (withNode nodeid missing use s).2 := by
  unfold withNode
  rcases rdGetNodeDbe_cases nodeid s with ⟨hget, -⟩ | ⟨slot, n, -, hn, hget⟩
  · rw [hget]
    exact h
  · rw [hget]
    obtain ⟨hcount, hfits⟩ := h.refCnt slot n hn
    have hpos : (n.refCnt + 1) ≠ 0 := by
      intro hzero
      have htoNat := congrArg UInt8.toNat hzero
      rw [UInt8.toNat_add] at htoNat
      simp only [UInt8.reduceToNat] at htoNat
      omega
    have hback : (use { n with refCnt := n.refCnt + 1 }).2.refCnt - 1 = n.refCnt := by
      rw [huse]
      exact UInt8.add_sub_cancel ..
    have hfreed : rdFreeNodeDbe slot (NodeCache.modify
        { s with
          ndb := update s.ndb slot (some { n with refCnt := n.refCnt + 1 }) }
        slot fun n ↦ (use n).2) =
        { s with
          ndb := update s.ndb slot
            (some { (use { n with refCnt := n.refCnt + 1 }).2 with refCnt := n.refCnt }) } := by
      unfold rdFreeNodeDbe NodeCache.modify
      dsimp only
      rw [update_self, update_self, Option.map_some]
      dsimp only
      rw [hback, huse, decide_eq_false hpos, Bool.or_false, update_idem, update_idem]
    dsimp only
    rw [hfreed]
    exact h.update hn rfl

theorem readNode_counts {α : Type} (h : Counts held s) (nodeid : UInt16) (missing : α)
    (read : CacheEntry → α) : Counts held (readNode nodeid missing read s).2 :=
  withNode_counts h nodeid missing _ fun _ ↦ rfl

theorem changeNode_counts (h : Counts held s) (nodeid : UInt16) (change : CacheEntry → CacheEntry)
    (hchange : ∀ n, (change n).refCnt = n.refCnt) : Counts held (changeNode nodeid change s) :=
  withNode_counts h nodeid () _ hchange

theorem supportsCmdClassFlags_counts (h : Counts held s) (nodeid cls : UInt16) :
    Counts held (supportsCmdClassFlags nodeid cls s).2 :=
  readNode_counts h nodeid 0 _

theorem refCnt_setFailing (failing : Bool)
    (n : CacheEntry) : (n.setFailing failing).refCnt = n.refCnt := by
  unfold CacheEntry.setFailing
  dsimp only
  split_ifs <;> rfl

theorem refCnt_firmwareUpdateMd (command : FirmwareUpdateMd) (n : CacheEntry) :
    (n.firmwareUpdateMd command).refCnt = n.refCnt := by
  unfold CacheEntry.firmwareUpdateMd
  split
  · split_ifs <;> rfl
  · split_ifs <;> rfl
  · split_ifs <;> rfl
  · rfl
  · rfl

/-- A reference that is kept shows in the count. -/
theorem not_counts_of_kept {s' : NodeCache} {slot : Fin zwMaxNodes} {n n' : CacheEntry}
    (h : Counts held s) (hn : s.ndb slot = some n) (hn' : s'.ndb slot = some n')
    (hkept : n'.refCnt = n.refCnt + 1) : ¬ Counts held s' := by
  intro hcounts
  obtain ⟨hcount, hfits⟩ := h.refCnt slot n hn
  obtain ⟨hcount', -⟩ := hcounts.refCnt slot n' hn'
  rw [hkept, UInt8.toNat_add] at hcount'
  simp only [UInt8.reduceToNat] at hcount'
  omega

/-- The firmware check keeps the reference to an entry that it finds. -/
theorem sleepingNodeIsInFirmwareUpgrade_counts_iff (h : Counts held s) (nodeid : UInt16) :
    Counts held (sleepingNodeIsInFirmwareUpgrade nodeid s).2 ↔ ¬ s.Knows nodeid := by
  unfold sleepingNodeIsInFirmwareUpgrade
  rcases rdGetNodeDbe_cases nodeid s with ⟨hget, hunknown⟩ | ⟨slot, n, hslot, hn, hget⟩
  · rw [hget]
    exact iff_of_true h hunknown
  · rw [hget]
    refine iff_of_false ?_ (not_not.mpr (knows_of_validSlot hslot hn))
    exact not_counts_of_kept h hn (update_self ..) rfl

theorem applicationCommandHandlerZip_counts_iff (h : Counts held s) (snode : UInt16)
    (command : FirmwareUpdateMd) :
    Counts held (applicationCommandHandlerZip snode command s) ↔ ¬ s.Knows snode := by
  unfold applicationCommandHandlerZip
  rcases rdGetNodeDbe_cases snode s with ⟨hget, hunknown⟩ | ⟨slot, n, hslot, hn, hget⟩
  · rw [hget]
    exact iff_of_true h hunknown
  · rw [hget]
    refine iff_of_false ?_ (not_not.mpr (knows_of_validSlot hslot hn))
    have hentry : (NodeCache.modify
        { s with
          ndb := update s.ndb slot (some { n with refCnt := n.refCnt + 1 }) }
        slot (CacheEntry.firmwareUpdateMd command)).ndb slot =
        some ({ n with refCnt := n.refCnt + 1 }.firmwareUpdateMd command) := by
      unfold NodeCache.modify
      dsimp only
      rw [update_self, update_self, Option.map_some]
    exact not_counts_of_kept h hn hentry (refCnt_firmwareUpdateMd command _)

/-- A query leaves every count as it found it exactly when it gives back its reference. -/
theorem query_counts_iff (h : Counts held s) (q : Query) :
    Counts held (query s q) ↔ GivesBack s q := by
  cases q with
  | inFirmwareUpgrade nodeid => exact sleepingNodeIsInFirmwareUpgrade_counts_iff h nodeid
  | firmwareUpdateMd snode command => exact applicationCommandHandlerZip_counts_iff h snode command
  | getEp nodeid epid => exact iff_of_true (readNode_counts h nodeid none _) trivial
  | getNodeMode nodeid => exact iff_of_true (readNode_counts h nodeid modeFlagsDeleted _) trivial
  | markNodeDeleted nodeid => exact iff_of_true (changeNode_counts h nodeid _ fun _ ↦ rfl) trivial
  | getNodeState nodeid =>
    exact iff_of_true (readNode_counts h nodeid NodeState.probeFail _) trivial
  | getNodeProbeFlags nodeid =>
    exact iff_of_true (readNode_counts h nodeid rdNodeProbeNeverStarted _) trivial
  | supportsCmdClass nodeid cls =>
    exact iff_of_true (supportsCmdClassFlags_counts h nodeid cls) trivial
  | supportsCmdClassSecure nodeid cls =>
    exact iff_of_true (supportsCmdClassFlags_counts h nodeid cls) trivial
  | setCacheEntryFlagMasked nodeid value mask =>
    exact iff_of_true (changeNode_counts h nodeid _ fun _ ↦ rfl) trivial
  | getCacheEntryFlag isVirtual myNodeId nodeid =>
    exact iff_of_true (readNode_counts h _ 0 _) trivial
  | isNodeController nodeid => exact iff_of_true (readNode_counts h nodeid false _) trivial
  | nodeIsUnreachable nodeid =>
    refine iff_of_true (changeNode_counts h nodeid _ ?_) trivial
    intro n
    split_ifs
    · exact refCnt_setFailing true n
    · rfl
  | nodeIsAlive nodeid now =>
    exact iff_of_true (changeNode_counts h nodeid _ fun n ↦ refCnt_setFailing false _) trivial

end Counting

/-- Along a run of queries and updates every reference count stays the number of references held,
and no assertion fails, exactly when every query gives back its reference. -/
theorem references_counted_iff (held : Fin zwMaxNodes → ℕ) (s : NodeCache) (h : Counts held s)
    (queries : List Query) :
    (∀ way, way <+: queries → Counts held (run query s way)) ↔ AllSteps query GivesBack s queries :=
  @forall_prefix_run_iff_allSteps _ _ query GivesBack (Counts held)
    (fun _ q hcounts ↦ query_counts_iff hcounts q) s h queries

/-- The node database with node 5 only, a sleeping node whose entry nobody refers to. -/
def sleepingNode : NodeCache where
  ndb := fun slot ↦ if slot.val = 4 then some ⟨5, 0, modeMailbox, .done, 0, 3, 0, [], 0⟩ else none
  assertionFailed := false

theorem sleepingNode_counts : Counts (fun _ ↦ 0) sleepingNode := by
  refine ⟨?_, rfl⟩
  intro slot n hn
  have hentry : (if slot.val = 4 then some (⟨5, 0, modeMailbox, .done, 0, 3, 0, [], 0⟩ : CacheEntry)
      else none) = some n := hn
  split_ifs at hentry
  rw [← Option.some.inj hentry]
  exact ⟨rfl, by decide⟩

/-- A mode query, a class query and an alive notification. -/
theorem references_counted_sleepingNode : Counts (fun _ ↦ 0)
    (run query sleepingNode [.getNodeMode 5, .supportsCmdClass 5 0x84, .nodeIsAlive 5 17]) :=
  (references_counted_iff (fun _ ↦ 0) sleepingNode sleepingNode_counts
    [.getNodeMode 5, .supportsCmdClass 5 0x84, .nodeIsAlive 5 17]).mpr
      ⟨trivial, trivial, trivial, trivial⟩ _ List.prefix_rfl

theorem firmware_check_keeps_reference :
    ¬ ∀ (held : Fin zwMaxNodes → ℕ) (s : NodeCache), Counts held s → ∀ queries : List Query,
      Counts held (run query s queries) := by
  intro hclaim
  have hcounts := hclaim (fun _ ↦ 0) sleepingNode sleepingNode_counts [.inFirmwareUpgrade 5]
  refine (query_counts_iff sleepingNode_counts (.inFirmwareUpgrade 5)).mp hcounts ?_
  exact ⟨⟨4, by decide⟩, by decide +kernel, Option.some_ne_none _⟩

end ZipGateway.ResourceDirectory
