import ZipGateway.Lib.Buffer
import ZipGateway.ResourceDirectory.References

/-!
# The node list reports

`BuildNodeListFrame` and `BuildFailedNodeListFrame` of `src/src/CC_NetworkManagement.c`: a report
has a mask of the classic nodes and, behind its length, a mask of the Long Range nodes that is cut
with `find_min_bitmask_len`. The nodes of the first report are those that the Z-Wave module lists,
and `SerialAPI_GetLRNodeList` collects its Long Range nodes from chunks of at most 128 bytes.
`nodeLists_right_iff` says for which nodes the reports list these nodes and no others.

Behind what the module has answered, the serial buffer has what was there before, and so has the
stack behind a local variable. Both are inputs.
-/

set_option autoImplicit false

namespace ZipGateway.NetworkManagement

open Lib List Nodemask ResourceDirectory

/-! ### The masks -/

def maxClassicNodemaskLength : ℕ := zwClassicMaxNodes / 8

def maxLrNodemaskLength : ℕ := (zwMaxNodes - zwLrMinNodeId) / 8

def maxNodemaskLength : ℕ := zwMaxNodes / 8

def zwLrNodemaskOffset : ℕ := zwLrMinNodeId / 8

/-- `find_min_bitmask_len`. -/
def findMinBitmaskLen (buffer : ℕ → UInt8) : ℕ → ℕ
  | 0 => 0
  | length + 1 => if buffer 0 ≠ 0 then findMinBitmaskLen (fun i ↦ buffer (i + 1)) length + 1 else 0

/-- The first bytes of some memory. -/
def bytesOf (byte : ℕ → UInt8) (count : ℕ) : List UInt8 := (List.range count).map byte

/-! ### The list of the module -/

/-- An answer to `FUNC_ID_SERIAL_API_GET_LR_NODES`. -/
structure LrChunk where
  bitmask : List UInt8
  length_le : bitmask.length ≤ 128

/-- The serial buffer from the bit mask of an answer on. -/
def LrChunk.received (chunk : LrChunk) (memory : ℕ → UInt8) : ℕ → UInt8 :=
  fun i ↦ if i < chunk.bitmask.length then chunk.bitmask.getD i 0 else memory i

/-- `SerialAPI_GetLRNodeList` for the answers of the module, of which all but the last say that
there are more nodes. The list has `MAX_LR_NODEMASK_LENGTH` bytes, and a byte more is written before
the function gives up; there is no result when it writes that one. -/
def getLrNodeList (memory : ℕ → UInt8) (bitmaskOffset len : ℕ) (lrNodelist : ℕ → UInt8) :
    List LrChunk → Option (ℕ → UInt8)
  | [] => some lrNodelist
  | chunk :: rest =>
    let memory := chunk.received memory
    let len := len + chunk.bitmask.length
    let start := bitmaskOffset * 128
    if start ≤ maxLrNodemaskLength ∧ maxLrNodemaskLength < start + len then none
    else if 0 < len ∧ maxLrNodemaskLength < start then some lrNodelist
    else
      getLrNodeList memory (bitmaskOffset + 1) len
        (fun i ↦ if start ≤ i ∧ i < start + len then memory (i - start) else lrNodelist i) rest

/-- What the module and the gateway know when a node list is reported. `lrChunks` is empty when Long
Range is not enabled. -/
structure Network where
  sucNodeId : UInt16
  myNodeId : UInt16
  capabilities : UInt8
  initNodes : ℕ → UInt8
  virtualNodesMask : ℕ → UInt8
  lrChunks : List LrChunk
  memory : ℕ → UInt8

/-- `lr_nodelist` when `SerialAPI_GetLRNodeList` has returned. -/
def Network.lrNodelist (network : Network) : Option (ℕ → UInt8) :=
  getLrNodeList network.memory 0 0 (fun _ ↦ 0) network.lrChunks

/-- The byte of the Long Range mask of the module, whose chunks have 128 bytes each. -/
def Network.lrMask (network : Network) (i : ℕ) : UInt8 :=
  match network.lrChunks[i / 128]? with
  | none => 0
  | some chunk => chunk.bitmask.getD (i % 128) 0

/-- The module lists the node, and it is not a virtual one. -/
def Network.Lists (network : Network) (node : ℕ) : Prop :=
  (IsClassicNode node ∧ bitAt network.initNodes (node - 1) ∧
    ¬ bitAt network.virtualNodesMask (node - 1)) ∨
    (zwLrMinNodeId ≤ node ∧ bitAt network.lrMask (node - zwLrMinNodeId))

/-- The frame buffer of the callers: a failed node list report and a node mask. -/
def frameSize : ℕ := 35 + nodemaskSize

/-- `BuildNodeListFrame`: the buffer and the length. There is no result when a byte would be written
past a buffer. -/
def buildNodeListFrame (network : Network) (seq : UInt8) (frame : Buffer) :
    Option (Buffer × ℕ) := do
  let controllerId := network.sucNodeId.toUInt8
  let status : UInt8 := if controllerId.toUInt16 = network.myNodeId then 0 else 1
  let frame ← frame.store 0 [0x52, 0x02, seq, status, controllerId]
  let nlist :=
    bytesOf (fun i ↦ network.initNodes i &&& ~~~network.virtualNodesMask i) maxClassicNodemaskLength
  let frame ← frame.store 5 nlist
  let lrNodelist ← network.lrNodelist
  let lrNodelistLen := findMinBitmaskLen lrNodelist maxLrNodemaskLength
  let frame ← frame.store (5 + maxClassicNodemaskLength)
    [UInt8.ofNat (lrNodelistLen >>> 8), UInt8.ofNat (lrNodelistLen &&& 0xff)]
  let frame ← frame.store (5 + maxClassicNodemaskLength + 2) (bytesOf lrNodelist lrNodelistLen)
  let primary :=
    controllerId = 0 ∧ network.capabilities &&& 0x04 = 0 ∧ network.capabilities &&& 0x01 = 0
  let frame ← if primary then frame.store 3 [0, network.myNodeId.toUInt8] else some frame
  return (frame, maxClassicNodemaskLength + 9 - 2 + lrNodelistLen)

/-! ### The failed nodes -/

/-- The test of `BuildFailedNodeListFrame` on an entry of the resource directory. -/
def CacheEntry.isFailed (n : CacheEntry) : Bool :=
  decide (n.mode &&& modeFlagsFailed ≠ 0 ∧ n.state = .failing) ||
    decide (n.state = .probeFail ∧ n.mode &&& 0xFF ≠ modeMailbox)

/-- The node that stands in a slot is to be listed as failed. -/
def failedSlot (cache : NodeCache) (myNodeId : UInt16) (slot : Fin zwMaxNodes) : Bool :=
  match cache.ndb slot with
  | none => false
  | some n => decide (slot.val + 1 ≠ myNodeId.toNat) && CacheEntry.isFailed n

/-- `nlist` after the loop over the nodes. -/
def failedNodemask (cache : NodeCache) (myNodeId : UInt16) : Nodemask :=
  (List.finRange zwMaxNodes).foldl
    (fun nlist slot ↦ if failedSlot cache myNodeId slot then addNode (slot.val + 1) nlist
      else nlist) empty

/-- The memory from a node mask on. -/
def memoryOf (nlist : Nodemask) (beyond : ℕ → UInt8) : ℕ → UInt8 :=
  fun i ↦ if h : i < nodemaskSize then nlist ⟨i, h⟩ else beyond (i - nodemaskSize)

/-- `BuildFailedNodeListFrame`: the buffer and the length. There is no result when a byte would be
written past the buffer. -/
def buildFailedNodeListFrame (cache : NodeCache) (myNodeId : UInt16) (beyond : ℕ → UInt8)
    (seq : UInt8) (frame : Buffer) : Option (Buffer × ℕ) := do
  let frame ← frame.store 0 [0x52, 0x0C, seq]
  let nlist := memoryOf (failedNodemask cache myNodeId) beyond
  let extended := fun i ↦ nlist (zwLrNodemaskOffset + i)
  let lrLen := findMinBitmaskLen extended maxNodemaskLength
  let frame ← frame.store 3 (bytesOf nlist maxClassicNodemaskLength)
  let frame ← frame.store 32 [UInt8.ofNat (lrLen >>> 8), UInt8.ofNat (lrLen &&& 0xff)]
  let frame ← frame.store 34 [0]
  let frame ← if lrLen ≠ 0 then frame.store 34 (bytesOf extended lrLen) else some frame
  return (frame, 35 + if lrLen ≠ 0 then lrLen - 1 else 0)

/-- The node has an entry that says that it has failed. -/
def Failed (cache : NodeCache) (myNodeId : UInt16) (node : ℕ) : Prop :=
  (IsClassicNode node ∨ IsLrNode node) ∧
    ∃ slot : Fin zwMaxNodes, slot.val + 1 = node ∧ failedSlot cache myNodeId slot = true

/-! ### What a reader makes of a report -/

/-- The length of the extended mask, which stands behind the classic mask. -/
def extendedLength (classicAt : ℕ) (frame : List UInt8) : ℕ :=
  (frame.getD (classicAt + 29) 0).toNat * 256 + (frame.getD (classicAt + 30) 0).toNat

/-- The report lists the node, in the classic mask or in the extended one. -/
def Reports (classicAt : ℕ) (frame : List UInt8) (node : ℕ) : Prop :=
  (IsClassicNode node ∧ bitAt (fun i ↦ frame.getD (classicAt + i) 0) (node - 1)) ∨
    (zwLrMinNodeId ≤ node ∧ (node - zwLrMinNodeId) / 8 < extendedLength classicAt frame ∧
      bitAt (fun i ↦ frame.getD (classicAt + 31 + i) 0) (node - zwLrMinNodeId))

/-- A report was built inside the buffer, it ends with its extended mask, and it lists these nodes
and no others. -/
def RightReport (classicAt : ℕ) (built : Option (Buffer × ℕ)) (nodes : ℕ → Prop) : Prop :=
  ∃ frame length, built = some (frame, length) ∧
    length = classicAt + 31 + extendedLength classicAt (frame.load 0 length) ∧
    ∀ node, Reports classicAt (frame.load 0 length) node ↔ nodes node

/-- The Long Range mask of the module has its bytes that are not 0 in front, the list of the gateway
has the same bytes there, and behind them a 0 or its end. -/
def Network.Packed (network : Network) : Prop :=
  ∃ lrNodelist, network.lrNodelist = some lrNodelist ∧
    ∃ count ≤ maxLrNodemaskLength,
      (∀ i < count, network.lrMask i ≠ 0 ∧ lrNodelist i = network.lrMask i) ∧
        (count < maxLrNodemaskLength → lrNodelist count = 0) ∧ ∀ i, count ≤ i → network.lrMask i = 0

/-- There is a failed Long Range node, and the groups of eight of them that have one come first;
where all groups have one, the byte behind the mask is 0. -/
def FailedPacked (cache : NodeCache) (myNodeId : UInt16) (beyond : ℕ → UInt8) : Prop :=
  ∃ count, 0 < count ∧
    (∀ i, (∃ node, node / 8 = zwLrNodemaskOffset + i ∧ Failed cache myNodeId node) ↔ i < count) ∧
      (count = nodemaskSize - zwLrNodemaskOffset → beyond 0 = 0)

/-! ### The length of a mask -/

/-- The bytes in front of the computed length are not 0. -/
theorem ne_zero_of_lt_findMinBitmaskLen {buffer : ℕ → UInt8} {length i : ℕ}
    (hi : i < findMinBitmaskLen buffer length) : buffer i ≠ 0 := by
  induction length generalizing buffer i with
  | zero => exact absurd hi (Nat.not_lt_zero i)
  | succ length ih =>
    unfold findMinBitmaskLen at hi
    split_ifs at hi with hhead
    · cases i with
      | zero => exact hhead
      | succ i =>
        have htail : i < findMinBitmaskLen (fun i ↦ buffer (i + 1)) length :=
          Nat.lt_of_succ_lt_succ hi
        have hbyte := ih htail
        exact hbyte
    · exact absurd hi (Nat.not_lt_zero i)

theorem findMinBitmaskLen_le (buffer : ℕ → UInt8) (length : ℕ) :
    findMinBitmaskLen buffer length ≤ length := by
  induction length generalizing buffer with
  | zero => exact Nat.le_refl 0
  | succ length ih =>
    unfold findMinBitmaskLen
    split_ifs
    · exact Nat.succ_le_succ (ih _)
    · exact Nat.zero_le _

/-- The byte at the computed length is 0. -/
theorem eq_zero_at_findMinBitmaskLen {buffer : ℕ → UInt8} {length : ℕ}
    (hlt : findMinBitmaskLen buffer length < length) :
    buffer (findMinBitmaskLen buffer length) = 0 := by
  induction length generalizing buffer with
  | zero => exact absurd hlt (Nat.not_lt_zero _)
  | succ length ih =>
    by_cases hhead : buffer 0 = 0
    · have hlen : findMinBitmaskLen buffer (length + 1) = 0 := if_neg (not_not.mpr hhead)
      rw [hlen]
      exact hhead
    · have hlen : findMinBitmaskLen buffer (length + 1) =
          findMinBitmaskLen (fun i ↦ buffer (i + 1)) length + 1 :=
        if_pos hhead
      rw [hlen] at hlt ⊢
      exact ih (Nat.lt_of_succ_lt_succ hlt)

/-- The length is the number of bytes in front of the first 0. -/
theorem findMinBitmaskLen_eq {buffer : ℕ → UInt8} {length count : ℕ} (hle : count ≤ length)
    (hfront : ∀ i < count, buffer i ≠ 0) (hend : count < length → buffer count = 0) :
    findMinBitmaskLen buffer length = count := by
  rcases lt_trichotomy (findMinBitmaskLen buffer length) count with hlt | heq | hgt
  · exact absurd (eq_zero_at_findMinBitmaskLen (hlt.trans_le hle)) (hfront _ hlt)
  · exact heq
  · exact absurd (hend (hgt.trans_le (findMinBitmaskLen_le buffer length)))
      (ne_zero_of_lt_findMinBitmaskLen hgt)

/-! ### Reading a report -/

/-- The two bytes of a length give it back. -/
theorem length_bytes_eq {len : ℕ} (hlen : len < 65536) :
    (UInt8.ofNat (len >>> 8)).toNat * 256 + (UInt8.ofNat (len &&& 0xff)).toNat = len := by
  have hlow : len &&& 0xff = len % 256 := Nat.and_two_pow_sub_one_eq_mod len 8
  have hhigh : len >>> 8 = len / 256 := Nat.shiftRight_eq_div_pow len 8
  rw [hlow, hhigh, UInt8.toNat_ofNat', UInt8.toNat_ofNat']
  omega

/-- A mask of which only the first bytes are sent. -/
def cut (mask : ℕ → UInt8) (len : ℕ) : ℕ → UInt8 := fun i ↦ if i < len then mask i else 0

theorem bitAt_cut {mask : ℕ → UInt8} {len place : ℕ} :
    bitAt (cut mask len) place = true ↔ place / 8 < len ∧ bitAt mask place = true := by
  unfold bitAt cut
  split_ifs with hplace
  · exact ⟨fun h ↦ ⟨hplace, h⟩, fun h ↦ h.2⟩
  · constructor
    · intro hbit
      rw [show (0 : UInt8).toNat = 0 from rfl, Nat.zero_testBit] at hbit
      exact absurd hbit Bool.false_ne_true
    · exact fun h ↦ absurd h.1 hplace

section Reading

variable {classicAt len length : ℕ} {frame : Buffer} {classic extended : ℕ → UInt8}
  {nodes : ℕ → Prop}

/-- What stands in the bytes of a report. -/
structure Layout (classicAt len : ℕ) (frame : Buffer) (classic extended : ℕ → UInt8) : Prop where
  small : len < 65536
  classic : ∀ i < 29, frame.byte (classicAt + i) = classic i
  msb : frame.byte (classicAt + 29) = UInt8.ofNat (len >>> 8)
  lsb : frame.byte (classicAt + 30) = UInt8.ofNat (len &&& 0xff)
  extended : ∀ i < len, frame.byte (classicAt + 31 + i) = extended i

/-- The length that a reader finds is the one that was written. -/
theorem extendedLength_load (hlayout : Layout classicAt len frame classic extended)
    (hroom : classicAt + 31 + len ≤ length) :
    extendedLength classicAt (frame.load 0 length) = len := by
  unfold extendedLength
  rw [Buffer.getD_load (by omega), Buffer.getD_load (by omega), Nat.zero_add, Nat.zero_add,
    hlayout.msb, hlayout.lsb]
  exact length_bytes_eq hlayout.small

/-- The nodes that a reader finds are those of the two masks that were written. -/
theorem reports_load_iff (hlayout : Layout classicAt len frame classic extended)
    (hroom : classicAt + 31 + len ≤ length) (node : ℕ) :
    Reports classicAt (frame.load 0 length) node ↔
      (IsClassicNode node ∧ bitAt classic (node - 1) = true) ∨
        (zwLrMinNodeId ≤ node ∧ bitAt (cut extended len) (node - zwLrMinNodeId) = true) := by
  unfold Reports
  rw [extendedLength_load hlayout hroom, bitAt_cut]
  refine or_congr (and_congr_right fun hclassic ↦ ?_)
    (and_congr_right fun _ ↦ and_congr_right fun hplace ↦ ?_)
  · have hplace : (node - 1) / 8 < 29 := by
      have hle : node ≤ 232 := hclassic.2
      have hpos : 0 < node := hclassic.1
      omega
    unfold bitAt
    dsimp only
    rw [Buffer.getD_load (by omega), Nat.zero_add, hlayout.classic _ hplace]
  · unfold bitAt
    dsimp only
    rw [Buffer.getD_load (by omega), Nat.zero_add, hlayout.extended _ hplace]

/-- A report that was built is right when its length is, and its masks list the nodes. -/
theorem rightReport_iff (hlayout : Layout classicAt len frame classic extended)
    (hroom : classicAt + 31 + len ≤ length) :
    RightReport classicAt (some (frame, length)) nodes ↔
      length = classicAt + 31 + len ∧
        ∀ node, ((IsClassicNode node ∧ bitAt classic (node - 1) = true) ∨
          (zwLrMinNodeId ≤ node ∧ bitAt (cut extended len) (node - zwLrMinNodeId) = true)) ↔
            nodes node := by
  constructor
  · rintro ⟨frame', length', hbuilt, hlength, hnodes⟩
    obtain ⟨rfl, rfl⟩ := Prod.mk.inj (Option.some.inj hbuilt)
    rw [extendedLength_load hlayout hroom] at hlength
    exact ⟨hlength, fun node ↦ (reports_load_iff hlayout hroom node).symm.trans (hnodes node)⟩
  · rintro ⟨hlength, hnodes⟩
    refine ⟨frame, length, rfl, ?_,
      fun node ↦ (reports_load_iff hlayout hroom node).trans (hnodes node)⟩
    rw [extendedLength_load hlayout hroom]
    exact hlength

/-- The masks list the nodes exactly when the classic one does and the extended one is the whole
mask of the Long Range nodes. -/
theorem masks_list_iff {isClassic : ℕ → Prop} {mask : ℕ → UInt8}
    (hclassic : ∀ node, IsClassicNode node → (bitAt classic (node - 1) = true ↔ isClassic node)) :
    (∀ node, ((IsClassicNode node ∧ bitAt classic (node - 1) = true) ∨
        (zwLrMinNodeId ≤ node ∧ bitAt (cut extended len) (node - zwLrMinNodeId) = true)) ↔
      ((IsClassicNode node ∧ isClassic node) ∨
        (zwLrMinNodeId ≤ node ∧ bitAt mask (node - zwLrMinNodeId) = true))) ↔
      ∀ i, cut extended len i = mask i := by
  rw [← bitAt_ext_iff]
  constructor
  · intro hnodes place
    have hnode := hnodes (zwLrMinNodeId + place)
    have hnot : ¬ IsClassicNode (zwLrMinNodeId + place) := by
      rintro ⟨-, hle⟩
      have hle : 256 + place ≤ 232 := hle
      omega
    rw [Nat.add_sub_cancel_left] at hnode
    simp only [hnot, false_and, false_or, Nat.le_add_right, true_and] at hnode
    exact Bool.eq_iff_iff.mpr hnode
  · intro hbits node
    refine or_congr (and_congr_right fun h ↦ hclassic node h) (and_congr_right fun _ ↦ ?_)
    rw [hbits]

end Reading

/-- The bytes of a mask in front of its computed length are the whole of another mask. -/
theorem cut_eq_iff {extended mask : ℕ → UInt8} {bound : ℕ} :
    (∀ i, cut extended (findMinBitmaskLen extended bound) i = mask i) ↔
      ∃ count ≤ bound, (∀ i < count, mask i ≠ 0 ∧ extended i = mask i) ∧
        (count < bound → extended count = 0) ∧ ∀ i, count ≤ i → mask i = 0 := by
  constructor
  · intro hsame
    refine ⟨findMinBitmaskLen extended bound, findMinBitmaskLen_le _ _, fun i hi ↦ ?_,
      eq_zero_at_findMinBitmaskLen, fun i hi ↦ ?_⟩
    · have hbyte : extended i = mask i := by
        rw [← hsame i]
        exact (if_pos hi).symm
      refine ⟨?_, hbyte⟩
      rw [← hbyte]
      exact ne_zero_of_lt_findMinBitmaskLen hi
    · rw [← hsame i]
      exact if_neg (Nat.not_lt_of_le hi)
  · rintro ⟨count, hle, hfront, hend, hrest⟩ i
    have hlen : findMinBitmaskLen extended bound = count := by
      refine findMinBitmaskLen_eq hle (fun i hi ↦ ?_) hend
      rw [(hfront i hi).2]
      exact (hfront i hi).1
    rw [hlen]
    unfold cut
    split_ifs with hi
    · exact (hfront i hi).2
    · exact (hrest i (Nat.le_of_not_lt hi)).symm

/-! ### The node list -/

section NodeList

variable {network : Network} {lrNodelist : ℕ → UInt8}

@[simp]
theorem length_bytesOf (byte : ℕ → UInt8) (count : ℕ) : (bytesOf byte count).length = count := by
  rw [bytesOf, length_map, length_range]

theorem getD_bytesOf (byte : ℕ → UInt8) {count i : ℕ}
    (hi : i < count) : (bytesOf byte count).getD i 0 = byte i := by
  simp [bytesOf, getD_eq_getElem?_getD, hi]

/-- The classic nodes of the module that are not virtual. -/
def Network.classicMask (network : Network) (i : ℕ) : UInt8 :=
  network.initNodes i &&& ~~~network.virtualNodesMask i

/-- The frame of `BuildNodeListFrame` in front of the last writes to its header. -/
def nodeListBytes (network : Network) (seq : UInt8) (frame : Buffer) (lrNodelist : ℕ → UInt8)
    (len : ℕ) : Buffer :=
  let controllerId := network.sucNodeId.toUInt8
  let status : UInt8 := if controllerId.toUInt16 = network.myNodeId then 0 else 1
  (((frame.write 0 [0x52, 0x02, seq, status, controllerId]).write 5
    (bytesOf network.classicMask maxClassicNodemaskLength)).write 34
      [UInt8.ofNat (len >>> 8), UInt8.ofNat (len &&& 0xff)]).write 36 (bytesOf lrNodelist len)

/-- The masks and the length are where a reader looks for them, when nothing but the extended mask
is written behind the classic one and the length. -/
theorem layout_write {classicAt len : ℕ} (frame written : Buffer) (classic extended : ℕ → UInt8)
    (hlen : len < 65536) (hwritten : ∀ i < classicAt + 31, written.byte i =
      ((frame.write classicAt (bytesOf classic maxClassicNodemaskLength)).write (classicAt + 29)
        [UInt8.ofNat (len >>> 8), UInt8.ofNat (len &&& 0xff)]).byte i) :
    Layout classicAt len
      (written.write (classicAt + 31) (bytesOf extended len)) classic extended where
  small := hlen
  classic := by
    intro i hi
    have hwidth : (bytesOf classic maxClassicNodemaskLength).length = 29 := length_bytesOf _ _
    rw [Buffer.byte_write_of_lt (by omega), hwritten _ (by omega),
      Buffer.byte_write_of_lt (by omega),
      Buffer.byte_write_of_mem (by omega) (by omega), Nat.add_sub_cancel_left]
    exact getD_bytesOf _ hi
  msb := by
    rw [Buffer.byte_write_of_lt (by omega), hwritten _ (by omega),
      Buffer.byte_write_of_mem (by omega) (by simp), Nat.sub_self]
    rfl
  lsb := by
    rw [Buffer.byte_write_of_lt (by omega), hwritten _ (by omega),
      Buffer.byte_write_of_mem (by omega) (by simp),
      show classicAt + 30 - (classicAt + 29) = 1 by omega]
    rfl
  extended := by
    intro i hi
    have hwidth : (bytesOf extended len).length = len := length_bytesOf _ _
    rw [Buffer.byte_write_of_mem (by omega) (by omega), Nat.add_sub_cancel_left]
    exact getD_bytesOf _ hi

theorem layout_nodeListBytes (seq : UInt8) (frame : Buffer) {len : ℕ} (hlen : len ≤ 468) :
    Layout 5 len (nodeListBytes network seq frame lrNodelist len) network.classicMask lrNodelist :=
  layout_write _ _ _ _ (by omega) fun _ _ ↦ rfl

/-- A write in front of the masks does not change them. -/
theorem Layout.write_header {classicAt len offset : ℕ} {frame : Buffer}
    {classic extended : ℕ → UInt8} (hlayout : Layout classicAt len frame classic extended)
    {bytes : List UInt8} (hheader : offset + bytes.length ≤ classicAt) :
    Layout classicAt len (frame.write offset bytes) classic extended where
  small := hlayout.small
  classic := fun i hi ↦ (Buffer.byte_write_of_ge (by omega)).trans (hlayout.classic i hi)
  msb := (Buffer.byte_write_of_ge (by omega)).trans hlayout.msb
  lsb := (Buffer.byte_write_of_ge (by omega)).trans hlayout.lsb
  extended := fun i hi ↦ (Buffer.byte_write_of_ge (by omega)).trans (hlayout.extended i hi)

/-- The writes of `BuildNodeListFrame` stay inside the buffer, and the masks are where a reader
looks for them. -/
theorem buildNodeListFrame_layout (hlist : network.lrNodelist = some lrNodelist) (seq : UInt8)
    (before : ℕ → UInt8) : ∃ frame, buildNodeListFrame network seq ⟨frameSize, before⟩ =
        some (frame, 36 + findMinBitmaskLen lrNodelist maxLrNodemaskLength) ∧
      Layout 5 (findMinBitmaskLen lrNodelist maxLrNodemaskLength) frame network.classicMask
        lrNodelist := by
  have hle : findMinBitmaskLen lrNodelist maxLrNodemaskLength ≤ 468 := findMinBitmaskLen_le _ _
  obtain ⟨len, hlen⟩ : ∃ len, findMinBitmaskLen lrNodelist maxLrNodemaskLength = len := ⟨_, rfl⟩
  rw [hlen] at hle ⊢
  have hwidth : (bytesOf lrNodelist len).length = len := length_bytesOf _ _
  have hlayout : Layout 5 len (nodeListBytes network seq ⟨frameSize, before⟩ lrNodelist len)
      network.classicMask lrNodelist := layout_nodeListBytes seq _ hle
  have hlrStore :
      5 + maxClassicNodemaskLength + 2 + (bytesOf lrNodelist len).length ≤ frameSize := by
    change 36 + _ ≤ 536
    omega
  have hclassicStore :
      5 + (bytesOf network.classicMask maxClassicNodemaskLength).length ≤ frameSize := by
    rw [length_bytesOf]
    decide
  unfold buildNodeListFrame
  simp only [hlist, hlen, Option.bind_eq_bind, Option.bind_some, Option.pure_def]
  rw [Buffer.store_of_le (by change 5 ≤ 536; decide), Option.bind_some,
    Buffer.store_of_le hclassicStore,
    Option.bind_some, Buffer.store_of_le (by change 36 ≤ 536; decide), Option.bind_some,
    Buffer.store_of_le hlrStore, Option.bind_some]
  by_cases hprimary :
    network.sucNodeId.toUInt8 = 0 ∧ network.capabilities &&& 0x04 = 0 ∧
      network.capabilities &&& 0x01 = 0
  · have hheader : 3 + [0, network.myNodeId.toUInt8].length ≤ 5 := Nat.le_refl 5
    rw [if_pos hprimary, Buffer.store_of_le (by change 5 ≤ 536; decide), Option.bind_some]
    exact ⟨_, rfl, hlayout.write_header hheader⟩
  · rw [if_neg hprimary]
    exact ⟨_, rfl, hlayout⟩

/-- Clearing the bits of one byte in another one. -/
theorem testBit_and_compl {first second : UInt8} {place : ℕ} (hplace : place < 8) :
    (first &&& ~~~second).toNat.testBit place =
      (first.toNat.testBit place && !second.toNat.testBit place) := by
  rw [UInt8.toNat_and, Nat.testBit_and]
  congr 1
  change (~~~second.toBitVec).getLsbD place = !second.toBitVec.getLsbD place
  rw [BitVec.getLsbD_not, decide_eq_true hplace, Bool.true_and]

theorem bitAt_classicMask (place : ℕ) :
    bitAt network.classicMask place = true ↔
      bitAt network.initNodes place = true ∧ ¬ bitAt network.virtualNodesMask place = true := by
  unfold bitAt Network.classicMask
  rw [testBit_and_compl (Nat.mod_lt _ (by decide)), Bool.and_eq_true, Bool.not_eq_true']
  simp only [Bool.not_eq_true]

theorem rightNodeList_iff (network : Network) (seq : UInt8) (before : ℕ → UInt8) :
    RightReport 5 (buildNodeListFrame network seq ⟨frameSize, before⟩) network.Lists ↔
      network.Packed := by
  cases hlist : network.lrNodelist with
  | none =>
    have hfault : buildNodeListFrame network seq ⟨frameSize, before⟩ = none := by
      unfold buildNodeListFrame
      simp [hlist]
    constructor
    · rintro ⟨frame, length, hbuilt, -⟩
      rw [hfault] at hbuilt
      exact absurd hbuilt (by simp)
    · rintro ⟨lrNodelist, hsome, -⟩
      rw [hlist] at hsome
      exact absurd hsome (by simp)
  | some lrNodelist =>
    obtain ⟨frame, hbuilt, hlayout⟩ := buildNodeListFrame_layout hlist seq before
    have hpacked : network.Packed ↔
        ∀ i, cut lrNodelist (findMinBitmaskLen lrNodelist maxLrNodemaskLength) i =
          network.lrMask i := by
      rw [cut_eq_iff]
      constructor
      · rintro ⟨list, hsome, hrest⟩
        obtain rfl := Option.some.inj (hlist.symm.trans hsome)
        exact hrest
      · exact fun hrest ↦ ⟨lrNodelist, hlist, hrest⟩
    rw [hbuilt, rightReport_iff hlayout (Nat.le_refl _), hpacked,
      ← masks_list_iff fun node _ ↦ bitAt_classicMask (node - 1)]
    exact and_iff_right rfl

end NodeList

/-! ### The failed node list -/

section FailedList

variable {cache : NodeCache} {myNodeId : UInt16}

/-- The bits of the loop over some slots. -/
theorem bit8Tst_foldl (slots : List (Fin zwMaxNodes)) (bitnum : Fin (8 * nodemaskSize))
    (nlist : Nodemask) : bit8Tst bitnum (slots.foldl
        (fun nlist slot ↦ if failedSlot cache myNodeId slot then addNode (slot.val + 1) nlist
          else nlist) nlist) = true ↔
      (∃ slot ∈ slots, failedSlot cache myNodeId slot = true ∧
        nodeBit (slot.val + 1) = some bitnum) ∨ bit8Tst bitnum nlist = true := by
  induction slots generalizing nlist with
  | nil => simp
  | cons slot slots ih =>
    have hhead : bit8Tst bitnum
          (if failedSlot cache myNodeId slot then addNode (slot.val + 1) nlist else nlist) = true ↔
        (failedSlot cache myNodeId slot = true ∧ nodeBit (slot.val + 1) = some bitnum) ∨
          bit8Tst bitnum nlist = true := by
      split_ifs with hfailed
      · unfold addNode
        cases hbit : nodeBit (slot.val + 1) with
        | none => simp
        | some place =>
          dsimp only
          rw [bit8Tst_bit8Set, Bool.or_eq_true, decide_eq_true_iff, Option.some_inj]
          simp [hfailed]
      · simp [hfailed]
    rw [foldl_cons, ih, hhead, ← or_assoc]
    refine or_congr ?_ Iff.rfl
    rw [exists_mem_cons_iff]
    exact or_comm

/-- The bits of the mask of the failed nodes. -/
theorem bit8Tst_failedNodemask (bitnum : Fin (8 * nodemaskSize)) :
    bit8Tst bitnum (failedNodemask cache myNodeId) = true ↔
      ∃ node, nodeBit node = some bitnum ∧ Failed cache myNodeId node := by
  unfold failedNodemask
  rw [bit8Tst_foldl]
  have hempty : ¬ bit8Tst bitnum empty = true := by simp [bit8Tst, empty]
  constructor
  · rintro (⟨slot, -, hfailed, hbit⟩ | hbit)
    · refine ⟨slot.val + 1, hbit, ?_, slot, rfl, hfailed⟩
      by_contra hnot
      rw [not_or] at hnot
      have hnone : nodeBit (slot.val + 1) = none := by
        unfold nodeBit
        rw [dif_neg hnot.1, dif_neg hnot.2]
      rw [hnone] at hbit
      exact absurd hbit (by simp)
    · exact absurd hbit hempty
  · rintro ⟨node, hbit, -, slot, hslot, hfailed⟩
    refine .inl ⟨slot, mem_finRange slot, hfailed, ?_⟩
    rw [hslot]
    exact hbit

/-- The bits of the memory of a mask. -/
theorem bitAt_memoryOf (nlist : Nodemask) (beyond : ℕ → UInt8) {place : ℕ}
    (hplace : place < 8 * nodemaskSize) :
    bitAt (memoryOf nlist beyond) place = bit8Tst ⟨place, hplace⟩ nlist := by
  have hbyte : place / 8 < nodemaskSize := by omega
  unfold bitAt memoryOf
  rw [dif_pos hbyte]
  rfl

/-- The Long Range mask of the failed nodes. -/
def failedLrMask (cache : NodeCache) (myNodeId : UInt16) (i : ℕ) : UInt8 :=
  memoryOf (failedNodemask cache myNodeId) (fun _ ↦ 0) (zwLrNodemaskOffset + i)

/-- The bits of the Long Range mask. -/
theorem bitAt_failedLrMask (place : ℕ) :
    bitAt (failedLrMask cache myNodeId) place = true ↔ Failed cache myNodeId
      (zwLrMinNodeId + place) := by
  have hsame : bitAt (failedLrMask cache myNodeId) place =
      bitAt (memoryOf (failedNodemask cache myNodeId) fun _ ↦ 0) (zwLrMinNodeId + place) := by
    have hdiv : (zwLrMinNodeId + place) / 8 = zwLrNodemaskOffset + place / 8 := by
      change (256 + place) / 8 = 32 + place / 8
      omega
    have hmod : (zwLrMinNodeId + place) % 8 = place % 8 := by
      change (256 + place) % 8 = place % 8
      omega
    unfold bitAt failedLrMask
    rw [hdiv, hmod]
  rw [hsame]
  by_cases hplace : zwLrMinNodeId + place < 8 * nodemaskSize
  · rw [bitAt_memoryOf _ _ hplace, bit8Tst_failedNodemask]
    constructor
    · rintro ⟨node, hbit, hfailed⟩
      rcases nodeBit_eq_some hbit with ⟨-, hlow⟩ | ⟨heq, -⟩
      · have hlow : 256 + place < 232 := hlow
        omega
      · rw [heq] at hfailed
        exact hfailed
    · intro hfailed
      refine ⟨zwLrMinNodeId + place, ?_, hfailed⟩
      have hnot : ¬ IsClassicNode (zwLrMinNodeId + place) := by
        rintro ⟨-, hle⟩
        have hle : 256 + place ≤ 232 := hle
        omega
      unfold nodeBit
      rw [dif_neg hnot, dif_pos (hfailed.1.resolve_left hnot)]
  · constructor
    · intro hbit
      have hbyte : ¬ (zwLrMinNodeId + place) / 8 < nodemaskSize := by
        simp only [nodemaskSize] at hplace ⊢
        omega
      unfold bitAt memoryOf at hbit
      rw [dif_neg hbyte, show (0 : UInt8).toNat = 0 from rfl, Nat.zero_testBit] at hbit
      exact absurd hbit Bool.false_ne_true
    · rintro ⟨⟨-, hle⟩ | ⟨-, hle⟩, -⟩
      · have hle : 256 + place ≤ 232 := hle
        omega
      · have hle : 256 + place ≤ 4000 := hle
        have hplace : ¬ 256 + place < 4008 := hplace
        omega

/-- The bits of the classic mask. -/
theorem bitAt_failed_classic (beyond : ℕ → UInt8) {node : ℕ} (hclassic : IsClassicNode node) :
    bitAt (memoryOf (failedNodemask cache myNodeId) beyond) (node - 1) = true ↔
      Failed cache myNodeId node := by
  have hle : node ≤ 232 := hclassic.2
  have hpos : 0 < node := hclassic.1
  have hplace : node - 1 < 8 * nodemaskSize := by
    simp only [nodemaskSize]
    omega
  rw [bitAt_memoryOf _ _ hplace, bit8Tst_failedNodemask]
  constructor
  · rintro ⟨other, hbit, hfailed⟩
    rcases nodeBit_eq_some hbit with ⟨heq, -⟩ | ⟨-, hhigh⟩
    · have heq : other = node - 1 + 1 := heq
      rw [show node = other by omega]
      exact hfailed
    · have hhigh : 256 ≤ node - 1 := hhigh
      omega
  · intro hfailed
    refine ⟨node, ?_, hfailed⟩
    unfold nodeBit
    rw [dif_pos hclassic]

/-- The failed nodes are those of the two masks. -/
theorem failed_iff (node : ℕ) :
    Failed cache myNodeId node ↔
      (IsClassicNode node ∧ Failed cache myNodeId node) ∨
        (zwLrMinNodeId ≤ node ∧ bitAt (failedLrMask cache myNodeId) (node - zwLrMinNodeId) =
          true) := by
  constructor
  · intro hfailed
    rcases hfailed.1 with hclassic | hlr
    · exact .inl ⟨hclassic, hfailed⟩
    · refine .inr ⟨hlr.1, (bitAt_failedLrMask _).mpr ?_⟩
      rw [Nat.add_sub_cancel' hlr.1]
      exact hfailed
  · rintro (⟨-, hfailed⟩ | ⟨hle, hbit⟩)
    · exact hfailed
    · rw [bitAt_failedLrMask, Nat.add_sub_cancel' hle] at hbit
      exact hbit

/-- A byte of the Long Range mask is not 0 when one of its eight nodes has failed. -/
theorem failedLrMask_ne_zero_iff (i : ℕ) :
    failedLrMask cache myNodeId i ≠ 0 ↔
      ∃ node, node / 8 = zwLrNodemaskOffset + i ∧ Failed cache myNodeId node := by
  constructor
  · intro hne
    by_contra hnone
    apply hne
    apply byte_eq_of_testBit
    intro place hplace
    rw [show (0 : UInt8).toNat = 0 from rfl, Nat.zero_testBit]
    by_contra hbit
    rw [Bool.not_eq_false] at hbit
    apply hnone
    refine ⟨zwLrMinNodeId + (8 * i + place), ?_, (bitAt_failedLrMask _).mp ?_⟩
    · change (256 + (8 * i + place)) / 8 = 32 + i
      omega
    · unfold bitAt
      rw [show (8 * i + place) / 8 = i by omega, show (8 * i + place) % 8 = place by omega]
      exact hbit
  · rintro ⟨node, hdiv, hfailed⟩ hzero
    have hdiv : node / 8 = 32 + i := hdiv
    have hnode : zwLrMinNodeId + (node - 256) = node := by
      change 256 + (node - 256) = node
      omega
    have hbit : bitAt (failedLrMask cache myNodeId) (node - 256) = true := by
      rw [bitAt_failedLrMask, hnode]
      exact hfailed
    unfold bitAt at hbit
    rw [show (node - 256) / 8 =
      i by omega, hzero, show (0 : UInt8).toNat = 0 from rfl, Nat.zero_testBit] at hbit
    exact absurd hbit Bool.false_ne_true

/-- The frame of `BuildFailedNodeListFrame` in front of the extended mask. -/
def failedListBytes (nlist : ℕ → UInt8) (seq : UInt8) (frame : Buffer) (len : ℕ) : Buffer :=
  (((frame.write 0 [0x52, 0x0C, seq]).write 3 (bytesOf nlist maxClassicNodemaskLength)).write 32
    [UInt8.ofNat (len >>> 8), UInt8.ofNat (len &&& 0xff)]).write 34 [0]

theorem layout_failedListBytes (nlist extended : ℕ → UInt8) (seq : UInt8) (frame : Buffer) {len : ℕ}
    (hlen : len ≤ 500) :
    Layout 3 len
      ((failedListBytes nlist seq frame len).write 34 (bytesOf extended len)) nlist extended :=
  layout_write (frame.write 0 [0x52, 0x0C, seq]) _ _ _ (by omega) fun _ hi ↦
    Buffer.byte_write_of_lt (by omega)

/-- The memory from the Long Range part of the mask on. -/
def failedExtended (cache : NodeCache) (myNodeId : UInt16) (beyond : ℕ → UInt8) (i : ℕ) : UInt8 :=
  memoryOf (failedNodemask cache myNodeId) beyond (zwLrNodemaskOffset + i)

/-- The writes of `BuildFailedNodeListFrame` stay inside the buffer, and the masks are where a
reader looks for them. -/
theorem buildFailedNodeListFrame_layout (cache : NodeCache) (myNodeId : UInt16) (beyond : ℕ → UInt8)
    (seq : UInt8) (before : ℕ → UInt8) :
    ∃ frame len, len = findMinBitmaskLen (failedExtended cache myNodeId beyond) maxNodemaskLength ∧
      buildFailedNodeListFrame cache myNodeId beyond seq ⟨frameSize, before⟩ =
        some (frame, 35 + if len ≠ 0 then len - 1 else 0) ∧
      Layout 3 len frame (memoryOf (failedNodemask cache myNodeId) beyond)
        (failedExtended cache myNodeId beyond) := by
  have hle : findMinBitmaskLen (failedExtended cache myNodeId beyond) maxNodemaskLength ≤ 500 :=
    findMinBitmaskLen_le _ _
  obtain ⟨len, hlen⟩ :
      ∃ len, findMinBitmaskLen (failedExtended cache myNodeId beyond) maxNodemaskLength = len :=
    ⟨_, rfl⟩
  have hlen' : findMinBitmaskLen
      (fun i ↦ memoryOf (failedNodemask cache myNodeId) beyond (zwLrNodemaskOffset + i))
        maxNodemaskLength = len := hlen
  rw [hlen] at hle
  have hlayout := layout_failedListBytes (memoryOf (failedNodemask cache myNodeId) beyond)
    (failedExtended cache myNodeId beyond) seq ⟨frameSize, before⟩ hle
  have hclassicStore :
      3 + (bytesOf (memoryOf (failedNodemask cache myNodeId) beyond)
        maxClassicNodemaskLength).length ≤ frameSize := by
    rw [length_bytesOf]
    decide
  have hextended :
      (failedListBytes (memoryOf (failedNodemask cache myNodeId) beyond) seq ⟨frameSize, before⟩
        len).store 34 (bytesOf (failedExtended cache myNodeId beyond) len) =
      some ((failedListBytes (memoryOf (failedNodemask cache myNodeId) beyond) seq
        ⟨frameSize, before⟩ len).write 34
        (bytesOf (failedExtended cache myNodeId beyond) len)) := by
    refine Buffer.store_of_le ?_
    rw [length_bytesOf]
    change 34 + len ≤ 536
    omega
  have hbuilt : buildFailedNodeListFrame cache myNodeId beyond seq ⟨frameSize, before⟩ =
      some (if len ≠ 0 then
          (failedListBytes (memoryOf (failedNodemask cache myNodeId) beyond) seq
            ⟨frameSize, before⟩ len).write 34
            (bytesOf (failedExtended cache myNodeId beyond) len)
        else failedListBytes (memoryOf (failedNodemask cache myNodeId) beyond) seq
          ⟨frameSize, before⟩ len,
        35 + if len ≠ 0 then len - 1 else 0) := by
    unfold buildFailedNodeListFrame
    simp only [hlen', Option.bind_eq_bind, Option.bind_some, Option.pure_def]
    rw [Buffer.store_of_le (by change 3 ≤ 536; decide), Option.bind_some,
      Buffer.store_of_le hclassicStore,
      Option.bind_some, Buffer.store_of_le (by change 34 ≤ 536; decide), Option.bind_some,
      Buffer.store_of_le (by change 35 ≤ 536; decide), Option.bind_some]
    by_cases hzero : len = 0
    · simp only [if_neg (not_not.mpr hzero)]
      rfl
    · simp only [if_pos hzero]
      exact congrArg (fun stored ↦ stored.bind fun frame ↦ some (frame, 35 + (len - 1))) hextended
  refine ⟨_, len, hlen.symm, hbuilt, ?_⟩
  by_cases hzero : len = 0
  · rw [if_neg (not_not.mpr hzero)]
    subst hzero
    exact {
      small := hlayout.small
      classic := fun i hi ↦ (Buffer.byte_write_of_lt (by omega)).symm.trans (hlayout.classic i hi)
      msb := hlayout.msb
      lsb := hlayout.lsb
      extended := nofun }
  · rw [if_pos hzero]
    exact hlayout

theorem rightFailedList_iff (cache : NodeCache) (myNodeId : UInt16) (beyond : ℕ → UInt8)
    (seq : UInt8) (before : ℕ → UInt8) :
    RightReport 3 (buildFailedNodeListFrame cache myNodeId beyond seq ⟨frameSize, before⟩)
      (Failed cache myNodeId) ↔ FailedPacked cache myNodeId beyond := by
  obtain ⟨frame, len, hlen, hbuilt, hlayout⟩ :=
    buildFailedNodeListFrame_layout cache myNodeId beyond seq before
  have hnodes : (∀ node, ((IsClassicNode node ∧
          bitAt (memoryOf (failedNodemask cache myNodeId) beyond) (node - 1) = true) ∨
        (zwLrMinNodeId ≤ node ∧
          bitAt (cut (failedExtended cache myNodeId beyond) len) (node - zwLrMinNodeId) = true)) ↔
        Failed cache myNodeId node) ↔
      ∀ i, cut (failedExtended cache myNodeId beyond) len i = failedLrMask cache myNodeId i := by
    rw [← masks_list_iff fun node hclassic ↦ bitAt_failed_classic beyond hclassic]
    exact forall_congr' fun node ↦ iff_congr Iff.rfl (failed_iff node)
  have hlength : 35 + (if len ≠ 0 then len - 1 else 0) = 3 + 31 + len ↔ len ≠ 0 := by
    split_ifs with hzero
    · exact iff_of_true (by omega) hzero
    · exact iff_of_false (by omega) hzero
  have hroom : 3 + 31 + len ≤ 35 + if len ≠ 0 then len - 1 else 0 := by
    split_ifs <;> omega
  -- inside the mask the memory is the mask, and behind it the mask ends
  have hinside :
      ∀ i < 469, failedExtended cache myNodeId beyond i = failedLrMask cache myNodeId i := by
    intro i hi
    have hbyte : zwLrNodemaskOffset + i < nodemaskSize := by
      change 32 + i < 501
      omega
    unfold failedExtended failedLrMask memoryOf
    rw [dif_pos hbyte, dif_pos hbyte]
  have houtside : ∀ i, 469 ≤ i → failedLrMask cache myNodeId i = 0 := by
    intro i hi
    have hbyte : ¬ zwLrNodemaskOffset + i < nodemaskSize := by
      change ¬ 32 + i < 501
      omega
    unfold failedLrMask memoryOf
    rw [dif_neg hbyte]
  have hend : failedExtended cache myNodeId beyond 469 = beyond 0 := by
    have hbyte : ¬ zwLrNodemaskOffset + 469 < nodemaskSize := by decide
    unfold failedExtended memoryOf
    rw [dif_neg hbyte]
    rfl
  rw [hbuilt, rightReport_iff hlayout hroom, hlength, hnodes]
  unfold FailedPacked
  simp only [← failedLrMask_ne_zero_iff]
  constructor
  · rintro ⟨hzero, hsame⟩
    refine ⟨len, Nat.pos_of_ne_zero hzero, fun i ↦ ?_, fun hall ↦ ?_⟩
    · rw [← hsame i]
      unfold cut
      split_ifs with hi
      · rw [hlen] at hi
        exact iff_of_true (ne_zero_of_lt_findMinBitmaskLen hi) (hlen ▸ hi)
      · exact iff_of_false (not_not.mpr rfl) hi
    · have hlast : len = 469 := hall
      rw [← hend, ← hlast, hlen]
      exact eq_zero_at_findMinBitmaskLen (by rw [← hlen, hlast]; decide)
  · rintro ⟨count, hpos, hblocks, hbeyond⟩
    have hcount : count ≤ 469 := by
      by_contra hgt
      exact (hblocks 469).mpr (by omega) (houtside 469 (Nat.le_refl _))
    have hfound : len = count := by
      rw [hlen]
      refine findMinBitmaskLen_eq (hcount.trans (by decide)) (fun i hi ↦ ?_) fun _ ↦ ?_
      · rw [hinside i (by omega)]
        exact (hblocks i).mpr hi
      · rcases Nat.lt_or_ge count 469 with hlt | hge
        · rw [hinside count hlt]
          by_contra hne
          exact Nat.lt_irrefl count ((hblocks count).mp hne)
        · have hlast : count = 469 := Nat.le_antisymm hcount hge
          rw [hlast, hend]
          exact hbeyond hlast
    refine ⟨by omega, fun i ↦ ?_⟩
    unfold cut
    split_ifs with hi
    · exact hinside i (by omega)
    · by_contra hne
      exact hi (hfound ▸ (hblocks i).mp (Ne.symm hne))

end FailedList

/-! ### Lists that are copied as they are -/

/-- One answer of the module is copied as it is. -/
theorem lrNodelist_single {network : Network} {chunk : LrChunk}
    (hchunks : network.lrChunks = [chunk]) : network.lrNodelist = some network.lrMask := by
  have hle := chunk.length_le
  have hstop : ¬ (0 * 128 ≤ maxLrNodemaskLength ∧
      maxLrNodemaskLength < 0 * 128 + (0 + chunk.bitmask.length)) := by
    rintro ⟨-, hlt⟩
    have hlt : 468 < 0 * 128 + (0 + chunk.bitmask.length) := hlt
    omega
  have hlast : ¬ (0 < 0 + chunk.bitmask.length ∧ maxLrNodemaskLength < 0 * 128) :=
    fun h ↦ absurd h.2 (by decide)
  unfold Network.lrNodelist
  rw [hchunks]
  unfold getLrNodeList
  dsimp only
  rw [if_neg hstop, if_neg hlast]
  refine congrArg some (funext fun i ↦ ?_)
  unfold Network.lrMask LrChunk.received
  rw [hchunks]
  by_cases hi : i < chunk.bitmask.length
  · rw [if_pos ⟨by omega, by omega⟩, Nat.zero_mul, Nat.sub_zero, if_pos hi,
      Nat.div_eq_of_lt (by omega), Nat.mod_eq_of_lt (by omega)]
    rfl
  · rw [if_neg (by omega)]
    by_cases hfirst : i / 128 = 0
    · rw [hfirst, Nat.mod_eq_of_lt (by omega)]
      change 0 = chunk.bitmask.getD i 0
      rw [getD_eq_getElem?_getD, List.getElem?_eq_none (by omega)]
      rfl
    · rw [List.getElem?_eq_none (by simp only [length_singleton]; omega)]

/-- Where the module answers at once, the masks are packed when the bytes of its mask that are not 0
come first. -/
theorem packed_single_iff {network : Network} {chunk : LrChunk}
    (hchunks : network.lrChunks = [chunk]) :
    network.Packed ↔ ∃ count, ∀ i, network.lrMask i ≠ 0 ↔ i < count := by
  have hlist := lrNodelist_single hchunks
  constructor
  · rintro ⟨list, hsome, count, -, hfront, -, hrest⟩
    refine ⟨count, fun i ↦ ⟨fun hne ↦ ?_, fun hi ↦ (hfront i hi).1⟩⟩
    by_contra hge
    exact hne (hrest i (Nat.le_of_not_lt hge))
  · rintro ⟨count, hcount⟩
    have hrest : ∀ i, count ≤ i → network.lrMask i = 0 := by
      intro i hi
      by_contra hne
      exact Nat.not_lt_of_le hi ((hcount i).mp hne)
    have hle : count ≤ maxLrNodemaskLength := by
      by_contra hgt
      have hne := (hcount maxLrNodemaskLength).mpr (Nat.lt_of_not_le hgt)
      apply hne
      unfold Network.lrMask
      rw [hchunks]
      rfl
    exact ⟨network.lrMask, hlist, count, hle, fun i hi ↦ ⟨(hcount i).mpr hi, rfl⟩,
      fun _ ↦ hrest count (Nat.le_refl _), hrest⟩

/-- The node list is right exactly when the Long Range mask of the module is packed, and the failed
node list exactly when the groups of eight Long Range nodes with a failed one are. -/
theorem nodeLists_right_iff (network : Network) (cache : NodeCache) (beyond before : ℕ → UInt8)
    (seq : UInt8) :
    (RightReport 5 (buildNodeListFrame network seq ⟨frameSize, before⟩) network.Lists ↔
      network.Packed) ∧
      (RightReport 3
        (buildFailedNodeListFrame cache network.myNodeId beyond seq ⟨frameSize, before⟩)
          (Failed cache network.myNodeId) ↔
        FailedPacked cache network.myNodeId beyond) :=
  ⟨rightNodeList_iff network seq before,
    rightFailedList_iff cache network.myNodeId beyond seq before⟩

/-- A gateway that is its own SUC, with the one Long Range node 264. -/
def sparseNetwork : Network where
  sucNodeId := 1
  myNodeId := 1
  capabilities := 0
  initNodes := fun i ↦ if i = 0 then 1 else 0
  virtualNodesMask := fun _ ↦ 0
  lrChunks := [⟨[0, 1], by decide⟩]
  memory := fun _ ↦ 0

/-- The node list does not list node 264. -/
theorem sparse_node_missing :
    ¬ ∀ (network : Network) (cache : NodeCache) (beyond before : ℕ → UInt8) (seq : UInt8),
      RightReport 5 (buildNodeListFrame network seq ⟨frameSize, before⟩) network.Lists ∧
        RightReport 3
          (buildFailedNodeListFrame cache network.myNodeId beyond seq ⟨frameSize, before⟩)
          (Failed cache network.myNodeId) := by
  intro hall
  have hright := (hall sparseNetwork ⟨fun _ ↦ none, false⟩ (fun _ ↦ 0) (fun _ ↦ 0) 0).1
  rw [rightNodeList_iff, packed_single_iff rfl] at hright
  obtain ⟨count, hcount⟩ := hright
  have hsecond : 1 < count := (hcount 1).mp (by decide)
  exact (hcount 0).mpr (Nat.lt_of_succ_lt hsecond) (by decide)

end ZipGateway.NetworkManagement
