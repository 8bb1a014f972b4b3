import ZipGateway.CommandHandler.Gate
import ZipGateway.Lib.Buffer
import ZipGateway.ProvisioningList.RoundTrip

/-!
# Provisioning List frames, and what lies behind them

A frame stands in a buffer that goes on behind it. What the handler answers, and what it makes of
the list, is to depend on the frame alone; the DSK that it compares and the TLVs that it reads are
to lie in the frame; and a report is to fit in `buf`. The handler answers a frame so when it is
`Complete`: Set and Delete check their lengths themselves, but an iteration is continued by a byte
that is not checked to be there, and a Get takes the length of its DSK as it comes.

The handler is called from `ZW_command_handler_run` only, which has the frame validated before. The
validator that `cvalidator.xsl` generates knows the parameters of each command, the DSK with its
length included, so every frame that the handler gets is answered within its bounds
(`frameBounds_gated`).
-/

set_option autoImplicit false

namespace ZipGateway.ProvisioningList

open Function List ZipGateway.CommandHandler ZipGateway.Lib

/-! ### What is read -/

/-- The reads of the loop over the TLVs, from a position in the frame on: the type and the length,
and then the value; of a value that is empty, its first byte may be read. -/
def tlvReads : ℕ → ℕ → List UInt8 → List (ℕ × ℕ)
  | 0, _, _ => []
  | fuel + 1, pos, bytes =>
    match bytes with
    | _ :: len :: behind =>
      if behind = [] then []
      else if behind.length < len.toNat then [(pos, 2)]
      else
        (pos, 2) :: (pos + 2, max 1 len.toNat) :: tlvReads fuel (pos + 2 + len.toNat)
          (behind.drop len.toNat)
    | _ => []

/-- `provisioning_list_dev_get` compares a DSK of this length with one of the list. -/
def Compares (slots : Slots) (len : UInt8) : Prop :=
  ¬ len < 4 ∧ ∃ i, (slots i).dskLen = len ∧ (slots i).dsk ≠ none

/-- What is read of a frame because of a length in it: where it begins, and how many bytes. -/
def VariableRead (frame : Frame) (slots : Slots) (read : ℕ × ℕ) : Prop :=
  let dsklen := frame.byte 3 &&& dskLengthMask
  if frame.bytes.length < 2 then False
  else if frame.byte 1 = 1 then
    ¬ frame.bytes.length < 4 + dsklen.toNat ∧ ¬ dsklen < 16 ∧
      (read = (4, dsklen.toNat) ∨
        read ∈ tlvReads (frame.bytes.drop (4 + dsklen.toNat)).length (4 + dsklen.toNat)
          (frame.bytes.drop (4 + dsklen.toNat)))
  else if frame.byte 1 = 2 then ¬ frame.bytes.length < 4 + dsklen.toNat ∧ read = (4, dsklen.toNat)
  else if frame.byte 1 = 5 then Compares slots (frame.byte 3) ∧ read = (4, (frame.byte 3).toNat)
  else False

def bufSize : ℕ := 2000

/-- A frame is answered within its bounds. -/
structure Bounded (directory : Directory) (state : PvlState) (frame : Frame) : Prop where
  answer : ∀ behind, pvlCommandHandler directory { frame with behind } state =
    pvlCommandHandler directory frame state
  reads : ∀ read, VariableRead frame state.slots read → read.1 + read.2 ≤ frame.bytes.length
  fits : ∀ report, (pvlCommandHandler directory frame state).2.2 = some report →
    report.length ≤ bufSize

/-- What a frame has to be like: an iteration has its counter, and a Get the length of its DSK, and
the DSK itself when one of this length is in the list. -/
def Complete (state : PvlState) (frame : Frame) : Prop :=
  2 ≤ frame.bytes.length →
    (frame.byte 1 = 3 → 4 ≤ frame.bytes.length) ∧
      (frame.byte 1 = 5 → 4 ≤ frame.bytes.length ∧
        (Compares state.slots (frame.byte 3) → 4 + (frame.byte 3).toNat ≤ frame.bytes.length))

section Frames

variable {frame : Frame} {slots : Slots} {directory : Directory} {behind : ℕ → UInt8}

theorem byte_behind {k : ℕ}
    (hk : k < frame.bytes.length) : { frame with behind }.byte k = frame.byte k := by
  unfold Frame.byte
  rw [List.getElem?_eq_getElem hk]
  rfl

theorem dsk_behind {len : UInt8} (hlen : 4 + len.toNat ≤ frame.bytes.length) :
    { frame with behind }.dsk len = frame.dsk len := by
  unfold Frame.dsk
  refine congrArg (octets len) (map_congr_left fun k hk ↦ byte_behind ?_)
  have hlt := mem_range.mp hk
  omega

theorem length_dsk (len : UInt8) : (frame.dsk len).val.length = len.toNat := by
  simp [Frame.dsk, octets]

/-- The TLVs that are read stand in the frame. -/
theorem tlvReads_le (fuel pos : ℕ) (bytes : List UInt8) :
    ∀ read ∈ tlvReads fuel pos bytes, read.1 + read.2 ≤ pos + bytes.length := by
  induction fuel generalizing pos bytes with
  | zero => exact fun _ hread ↦ absurd hread not_mem_nil
  | succ fuel ih =>
    match bytes with
    | [] => exact fun _ hread ↦ absurd hread not_mem_nil
    | [_] => exact fun _ hread ↦ absurd hread not_mem_nil
    | _ :: len :: behind =>
      intro read hread
      rw [tlvReads] at hread
      split_ifs at hread with hend hlong
      · exact absurd hread not_mem_nil
      · rw [mem_singleton.mp hread]
        simp
      · have hpos := length_pos_of_ne_nil hend
        obtain rfl | hread := mem_cons.mp hread
        · simp
        · obtain rfl | hread := mem_cons.mp hread
          · simp only [length_cons]
            omega
          · have hrest := ih _ _ read hread
            simp only [length_drop, length_cons] at hrest ⊢
            omega

/-- A Set reads nothing that is behind it: a frame without the length of the DSK is dropped for any
length. -/
theorem provisionSet_behind :
    provisionSet { frame with behind } slots = provisionSet frame slots := by
  unfold provisionSet
  dsimp only
  by_cases hshort : frame.bytes.length < 4
  · rw [if_pos (by omega), if_pos (by omega)]
  · have hbyte : { frame with behind }.byte 3 = frame.byte 3 := byte_behind (by omega)
    rw [hbyte]
    by_cases hlength : frame.bytes.length < 4 + (frame.byte 3 &&& dskLengthMask).toNat
    · rw [if_pos hlength, if_pos hlength]
    · rw [dsk_behind (Nat.le_of_not_lt hlength)]

theorem provisionDelete_behind :
    provisionDelete { frame with behind } slots = provisionDelete frame slots := by
  unfold provisionDelete
  dsimp only
  by_cases hshort : frame.bytes.length < 4
  · have hnone (len : UInt8) : ¬ (4 ≤ frame.bytes.length ∧ len = 0) :=
      fun h ↦ absurd h.1 (Nat.not_le.mpr hshort)
    have hdropped (len : UInt8) : frame.bytes.length < 4 + len.toNat := Nat.lt_add_right _ hshort
    rw [if_neg (hnone _), if_neg (hnone _), if_pos (hdropped _), if_pos (hdropped _)]
  · have hbyte : { frame with behind }.byte 3 = frame.byte 3 := byte_behind (by omega)
    rw [hbyte]
    by_cases hlength : frame.bytes.length < 4 + (frame.byte 3 &&& dskLengthMask).toNat
    · rw [if_pos hlength, if_pos hlength]
    · rw [dsk_behind (Nat.le_of_not_lt hlength)]

theorem provisionIterGet_behind {state : PvlState} (hlength : 4 ≤ frame.bytes.length) :
    provisionIterGet directory
      { frame with behind } state = provisionIterGet directory frame state := by
  have hseqNo : { frame with behind }.byte 2 = frame.byte 2 := byte_behind (by omega)
  have hremaining : { frame with behind }.byte 3 = frame.byte 3 := byte_behind (by omega)
  unfold provisionIterGet
  rw [hseqNo, hremaining]

/-- Without an entry of this length, no DSK is found. -/
theorem devGet_of_not_compares {dsk : List UInt8} {len : UInt8} (hlength : dsk.length = len.toNat)
    (hcompares : ¬ Compares slots len) : devGet dsk slots = none := by
  unfold devGet
  split_ifs with hshort
  · rfl
  · refine firstSlot_none.mpr fun i ↦ Bool.eq_false_iff.mpr fun htest ↦ hcompares ⟨?_, i, ?_⟩
    · rw [UInt8.lt_iff_toNat_lt, ← hlength]
      exact hshort
    · simp only [Provision.hasDsk, Bool.and_eq_true, beq_iff_eq] at htest
      refine ⟨UInt8.toNat_inj.mp (htest.1.trans hlength), ?_⟩
      rw [htest.2]
      exact Option.some_ne_none dsk

theorem provisionGet_behind (hlength : 4 ≤ frame.bytes.length)
    (hcompares : Compares slots (frame.byte 3) → 4 + (frame.byte 3).toNat ≤ frame.bytes.length) :
    provisionGet directory { frame with behind } slots = provisionGet directory frame slots := by
  have hseqNo : { frame with behind }.byte 2 = frame.byte 2 := byte_behind (by omega)
  have hdskLen : { frame with behind }.byte 3 = frame.byte 3 := byte_behind (by omega)
  unfold provisionGet
  rw [hseqNo, hdskLen]
  by_cases hfound : Compares slots (frame.byte 3)
  · rw [dsk_behind (hcompares hfound)]
  · rw [devGet_of_not_compares (length_dsk _) hfound, devGet_of_not_compares (length_dsk _) hfound]

end Frames

section Answers

variable {frame : Frame} {directory : Directory} {state : PvlState}

theorem answer_get (hlength : ¬ frame.bytes.length < 2) (hget : frame.byte 1 = 5) :
    (pvlCommandHandler directory frame state).2.2 = some
      (provisionGet directory frame state.slots) := by
  unfold pvlCommandHandler
  rw [if_neg hlength, hget, if_neg (by decide), if_neg (by decide), if_neg (by decide), if_pos rfl]

theorem answer_iterGet (hlength : ¬ frame.bytes.length < 2) (hiter : frame.byte 1 = 3) :
    (pvlCommandHandler directory frame state).2 = provisionIterGet directory frame state := by
  unfold pvlCommandHandler
  rw [if_neg hlength, hiter, if_neg (by decide), if_neg (by decide), if_pos rfl]

end Answers

/-! ### The entries of a list -/

/-- An entry has a DSK of at most 31 bytes, and only TLVs of the types that a Set stores. -/
structure Provision.Narrow (provision : Provision) : Prop where
  dsk : ∀ dsk, provision.dsk = some dsk → dsk.length ≤ 31
  types : ∀ tlv ∈ provision.tlvList, tlv.type ∈ storedKinds

/-- A list that the commands may have made. -/
structure Kept (slots : Slots) : Prop where
  list : ∃ list : PvlList, list.slots = slots
  narrow : ∀ i, (slots i).Narrow

theorem Provision.narrow_removed (provision : Provision) : provision.removed.Narrow :=
  ⟨fun _ hdsk ↦ absurd hdsk.symm (Option.some_ne_none _), fun _ hmem ↦ absurd hmem not_mem_nil⟩

section Narrow

variable {slots : Slots} (hnarrow : ∀ i, (slots i).Narrow)

include hnarrow

variable (i : Fin provisioningListSize)

theorem narrow_update {provision : Provision} (hprovision : provision.Narrow) :
    ∀ j, (update slots i provision j).Narrow := by
  intro j
  by_cases hj : j = i
  · rw [hj, update_self]
    exact hprovision
  · rw [update_of_ne hj]
    exact hnarrow j

theorem narrow_statusSet (status : UInt32) : ∀ j, (statusSet (some i) status slots j).Narrow := by
  unfold statusSet
  exact narrow_update hnarrow i ⟨(hnarrow i).dsk, (hnarrow i).types⟩

theorem narrow_bootmodeSet (bootmode : UInt32) :
    ∀ j, (bootmodeSet (some i) bootmode slots j).Narrow := by
  unfold bootmodeSet
  exact narrow_update hnarrow i ⟨(hnarrow i).dsk, (hnarrow i).types⟩

theorem narrow_tlvSet {type : UInt8} (htype : type ∈ storedKinds)
    (value : Option Octets) : ∀ j, (tlvSet (some i) type value slots j).Narrow := by
  cases value with
  | none => exact hnarrow
  | some value =>
    unfold tlvSet
    dsimp only
    split_ifs
    · refine narrow_update hnarrow i ⟨(hnarrow i).dsk, ?_⟩
      intro tlv hmem
      dsimp only [pvsTlvSet] at hmem
      split_ifs at hmem
      · obtain rfl | hmem := mem_replaceTlv hmem
        · exact htype
        · exact (hnarrow i).types tlv hmem
      · obtain rfl | hmem := mem_cons.mp hmem
        · exact htype
        · exact (hnarrow i).types tlv hmem
    · exact hnarrow

theorem narrow_devRemove (dsk : Octets) : ∀ j, (devRemove dsk slots j).Narrow := by
  unfold devRemove
  cases devGet dsk.val slots with
  | none => exact hnarrow
  | some i => exact narrow_update hnarrow i (slots i).narrow_removed

theorem narrow_clear : ∀ j, (clear slots j).Narrow := by
  intro j
  unfold clear
  split_ifs
  · exact hnarrow j
  · exact (slots j).narrow_removed

theorem narrow_pvsDevAdd {dsk : Octets} (hdsk : dsk.val.length ≤ 31) (bootmode : UInt32) :
    ∀ j, (pvsDevAdd dsk bootmode slots j).Narrow := by
  unfold pvsDevAdd
  cases firstSlot (fun provision : Provision ↦ provision.dskLen == 0) slots with
  | none => exact hnarrow
  | some i =>
    refine narrow_update hnarrow i ⟨fun _ heq ↦ ?_, fun _ hmem ↦ absurd hmem not_mem_nil⟩
    rw [← Option.some.inj heq]
    exact hdsk

theorem narrow_apply (fields : SetFields) : ∀ j, (fields.apply (some i) slots j).Narrow := by
  have hstep {slots : Slots} (hslots : ∀ j, (slots j).Narrow) (condition : Prop)
      [Decidable condition] (type : UInt8) (htype : type ∈ storedKinds) (value : Option Octets) :
      ∀ j, ((if condition then tlvSet (some i) type value slots else slots) j).Narrow := by
    split_ifs
    · exact narrow_tlvSet hslots i htype value
    · exact hslots
  have hstatus :
      ∀ j, ((if fields.provStatus ≠ tlvNotPresent then statusSet (some i) fields.provStatus slots
      else slots) j).Narrow := by
    split_ifs
    · exact narrow_statusSet hnarrow i _
    · exact hnarrow
  have hname := hstep hstatus (fields.name.isSome) pvsTlvTypeName (by decide) fields.name
  have hlocation :=
    hstep hname (fields.location.isSome) pvsTlvTypeLocation (by decide) fields.location
  have hjoin := hstep hlocation (fields.provGrantedKeys ≠ tlvNotPresent) pvsTlvTypeAdvJoin
    (by decide) (some (octets 1 [fields.provGrantedKeys.toUInt8]))
  have hproductType := hstep hjoin (fields.productType.isSome) pvsTlvTypeProductType (by decide)
    fields.productType
  have hproductId := hstep hproductType (fields.productId.isSome) pvsTlvTypeProductId (by decide)
    fields.productId
  have hinterval := hstep hproductId (fields.maxInclReqInterval ≠ tlvNotPresent)
    pvsTlvTypeMaxInclReqInterval (by decide) (some (octets 1 [fields.maxInclReqInterval.toUInt8]))
  exact hstep hinterval (fields.uuid16.isSome) pvsTlvTypeUuid16 (by decide) fields.uuid16

theorem narrow_store (fields : SetFields) {dsk : Octets} (hdsk : dsk.val.length ≤ 31) :
    ∀ j, (fields.store dsk slots j).Narrow := by
  unfold SetFields.store
  cases devGet dsk.val slots with
  | some i =>
    dsimp only
    split_ifs
    · exact narrow_apply (narrow_bootmodeSet hnarrow i _) i fields
    · exact narrow_apply hnarrow i fields
  | none =>
    have hadded (mode : UInt32) : ∀ j, ((devAddIn true dsk mode slots).1 j).Narrow := by
      have hnew : ∀ j, ((pvsDevAddIn true dsk mode slots).1 j).Narrow := by
        unfold pvsDevAddIn
        cases firstSlot (fun provision : Provision ↦ provision.dskLen == 0) slots with
        | none => exact hnarrow
        | some i =>
          simp only [if_pos]
          exact narrow_pvsDevAdd hnarrow hdsk mode
      unfold devAddIn
      split_ifs
      · exact hnarrow
      · exact hnarrow
      · exact hnew
    dsimp only
    generalize (if fields.bootstrapMode = tlvNotPresent then pvsBootmodeSmartStart
      else fields.bootstrapMode) = mode
    have hmode := hadded mode
    generalize devAddIn true dsk mode slots = added at hmode ⊢
    obtain ⟨after, _, _ | i⟩ := added
    · exact hmode
    · exact narrow_apply hmode i fields

theorem narrow_provisionSet (frame : Frame) : ∀ j, ((provisionSet frame slots).2 j).Narrow := by
  have hmask :
      ∀ bits : BitVec 8, (UInt8.ofBitVec bits &&& dskLengthMask).toNat ≤ 31 := by decide +kernel
  unfold provisionSet
  dsimp only
  split_ifs
  · exact hnarrow
  · exact hnarrow
  · split
    · exact hnarrow
    · split_ifs
      · exact hnarrow
      · exact hnarrow
      · exact narrow_store hnarrow _ ((length_dsk _).trans_le (hmask (frame.byte 3).toBitVec))

theorem narrow_provisionDelete (frame : Frame) :
    ∀ j, ((provisionDelete frame slots).2 j).Narrow := by
  unfold provisionDelete
  dsimp only
  split_ifs
  · exact narrow_clear hnarrow
  · exact hnarrow
  · exact narrow_devRemove hnarrow _

/-- What an iteration shows is an entry of the list after it. -/
theorem narrow_iterAnswer (directory : Directory) (seqNo : UInt8) (iter : Iter) :
    ∀ j, ((iterAnswer directory seqNo iter slots).1.slots j).Narrow := by
  unfold iterAnswer
  dsimp only
  split
  · exact hnarrow
  · dsimp only
    split_ifs
    · exact narrow_statusSet hnarrow _ _
    · exact hnarrow

theorem narrow_provisionIterGet (directory : Directory) (frame : Frame) (currIter : Option Iter) :
    ∀ j, ((provisionIterGet directory frame ⟨slots, currIter⟩).1.slots j).Narrow := by
  unfold provisionIterGet
  dsimp only
  by_cases hbegin : frame.byte 3 = 0xFF
  · rw [if_pos hbegin]
    dsimp only
    exact narrow_iterAnswer hnarrow directory _ _
  · rw [if_neg hbegin]
    cases currIter with
    | none => exact hnarrow
    | some iter =>
      dsimp only
      split_ifs
      · exact hnarrow
      · exact narrow_iterAnswer hnarrow directory _ _

end Narrow

/-- The commands keep the list. -/
theorem Kept.handler {state : PvlState} (hkept : Kept state.slots) (directory : Directory)
    (frame : Frame) : Kept (pvlCommandHandler directory frame state).2.1.slots := by
  obtain ⟨list, hlist⟩ := hkept.list
  refine ⟨?_, ?_⟩
  · obtain ⟨after, hafter⟩ := list.handler directory frame state.currIter
    rw [hlist] at hafter
    exact ⟨after, hafter⟩
  · unfold pvlCommandHandler
    dsimp only
    split_ifs
    · exact hkept.narrow
    · exact narrow_provisionSet hkept.narrow frame
    · exact narrow_provisionDelete hkept.narrow frame
    · exact narrow_provisionIterGet hkept.narrow directory frame state.currIter
    · exact narrow_provisionIterGet hkept.narrow directory frame state.currIter
    · exact hkept.narrow
    · exact hkept.narrow

/-! ### The size of a report -/

/-- The TLVs of an entry: at most seven, of at most 257 bytes. -/
theorem length_tlvs_le {entry : Provision} (hok : entry.Ok) (hnarrow : entry.Narrow) :
    (entry.tlvList.flatMap fun tlv ↦
      reportType tlv.type :: UInt8.ofNat tlv.value.length :: tlv.value).length ≤ 7 * 257 := by
  have hsize : ∀ size ∈ entry.tlvList.map (fun tlv ↦
      (reportType tlv.type :: UInt8.ofNat tlv.value.length :: tlv.value).length), size ≤ 257 := by
    intro size hmem
    obtain ⟨tlv, htlv, rfl⟩ := mem_map.mp hmem
    have hvalue := (hok.values tlv htlv).2
    simp only [length_cons]
    omega
  have hnumber : entry.tlvList.length ≤ 7 := by
    have hsubset : entry.tlvList.map Tlv.type ⊆ storedKinds := by
      intro type hmem
      obtain ⟨tlv, htlv, rfl⟩ := mem_map.mp hmem
      exact hnarrow.types tlv htlv
    rw [← length_map (f := Tlv.type)]
    exact hok.types.length_le_of_subset hsubset
  rw [length_flatMap]
  calc _ ≤ _ := sum_le_card_nsmul _ 257 hsize
    _ = entry.tlvList.length * 257 := by rw [length_map, smul_eq_mul]
    _ ≤ 7 * 257 := Nat.mul_le_mul_right 257 hnumber

/-- A report of an entry, behind its header: the DSK, three TLVs of the entry, and those that are
stored. -/
theorem length_entry_le {entry : Provision} (hok : entry.Ok) (hnarrow : entry.Narrow)
    (directory : Directory) :
    (entry.dsk.getD [] ++ addTlvs directory entry).length ≤ 31 + (12 + 7 * 257) := by
  have hdsk : (entry.dsk.getD []).length ≤ 31 := by
    cases hdsk : entry.dsk with
    | none => exact Nat.zero_le 31
    | some dsk => exact hnarrow.dsk dsk hdsk
  have htlvs := length_tlvs_le hok hnarrow
  rw [length_append]
  refine Nat.add_le_add hdsk ?_
  unfold addTlvs
  simp only [length_append, length_cons, length_nil, length_networkInfo] at htlvs ⊢
  omega

theorem length_buildReport_le {slots : Slots} (hok : ∀ i, (slots i).Ok)
    (hnarrow : ∀ i, (slots i).Narrow)
    (directory : Directory) (pvs : Option (Fin provisioningListSize)) (seqNo : UInt8) :
    (buildReport directory (pvs.map slots) seqNo).length ≤ bufSize := by
  cases pvs with
  | none =>
    show 4 ≤ bufSize
    decide
  | some i =>
    have hentry := length_entry_le (hok i) (hnarrow i) directory
    simp only [buildReport, Option.map_some, append_assoc, length_append, length_cons, length_nil,
      bufSize] at hentry ⊢
    omega

theorem length_iterReport_le {slots : Slots} (hok : ∀ i, (slots i).Ok)
    (hnarrow : ∀ i, (slots i).Narrow)
    (directory : Directory) (seqNo remaining : UInt8) (i : Fin provisioningListSize) :
    (iterReport directory seqNo remaining (some (slots i))).length ≤ bufSize := by
  have hentry := length_entry_le (hok i) (hnarrow i) directory
  simp only [iterReport, append_assoc, length_append, length_cons, length_nil, bufSize] at hentry ⊢
  omega

/-! ### Frames in their bounds -/

section Bounds

variable {frame : Frame} {directory : Directory} {state : PvlState}

theorem Kept.ok {slots : Slots} (hkept : Kept slots)
    (i : Fin provisioningListSize) : (slots i).Ok := by
  obtain ⟨list, hlist⟩ := hkept.list
  rw [← hlist]
  exact list.tracks.inv.ok i

/-- A report of an iteration shows an entry of the list that the command leaves. -/
theorem length_iterAnswer_le {seqNo : UInt8} {iter : Iter} {slots : Slots}
    (hkept : Kept (iterAnswer directory seqNo iter slots).1.slots) :
    (iterAnswer directory seqNo iter slots).2.length ≤ bufSize := by
  have hok := hkept.ok
  have hnarrow := hkept.narrow
  unfold iterAnswer at hok hnarrow ⊢
  dsimp only at hok hnarrow ⊢
  cases hnext : (iterGetNext iter slots).1 with
  | none =>
    dsimp only
    show 5 ≤ bufSize
    decide
  | some i =>
    rw [hnext] at hok hnarrow
    exact length_iterReport_le hok hnarrow directory seqNo _ i

theorem length_iterGet_le (hkept : Kept (provisionIterGet directory frame state).1.slots)
    {report : List UInt8}
    (hreport : (provisionIterGet directory frame state).2 = some report) :
    report.length ≤ bufSize := by
  unfold provisionIterGet at hkept hreport
  dsimp only at hkept hreport
  by_cases hbegin : frame.byte 3 = 0xFF
  · rw [if_pos hbegin] at hkept hreport
    dsimp only at hkept hreport
    rw [← Option.some.inj hreport]
    exact length_iterAnswer_le hkept
  · rw [if_neg hbegin] at hkept hreport
    cases hiterator : state.currIter with
    | none =>
      rw [hiterator] at hreport
      exact absurd hreport.symm (Option.some_ne_none report)
    | some iter =>
      rw [hiterator] at hkept hreport
      dsimp only at hkept hreport
      split_ifs at hkept hreport
      rw [← Option.some.inj hreport]
      exact length_iterAnswer_le hkept

/-- Every report fits in `buf`. -/
theorem Kept.fits (hkept : Kept state.slots) {report : List UInt8}
    (hreport : (pvlCommandHandler directory frame state).2.2 = some report) :
    report.length ≤ bufSize := by
  by_cases hlength : frame.bytes.length < 2
  · unfold pvlCommandHandler at hreport
    rw [if_pos hlength] at hreport
    exact absurd hreport.symm (Option.some_ne_none report)
  · by_cases hiter : frame.byte 1 = 3
    · have hafter := hkept.handler directory frame
      rw [answer_iterGet hlength hiter] at hafter hreport
      exact length_iterGet_le hafter hreport
    · by_cases hget : frame.byte 1 = 5
      · rw [answer_get hlength hget] at hreport
        rw [← Option.some.inj hreport]
        exact length_buildReport_le hkept.ok hkept.narrow directory _ _
      · unfold pvlCommandHandler at hreport
        rw [if_neg hlength] at hreport
        split_ifs at hreport

theorem answer_of_complete (hcomplete : Complete state frame) (behind : ℕ → UInt8) :
    pvlCommandHandler directory
      { frame with behind } state = pvlCommandHandler directory frame state := by
  unfold pvlCommandHandler
  by_cases hlength : frame.bytes.length < 2
  · rw [if_pos hlength, if_pos hlength]
  · have hcommand : { frame with behind }.byte 1 = frame.byte 1 := byte_behind (by omega)
    obtain ⟨hiterGet, hget⟩ := hcomplete (Nat.le_of_not_lt hlength)
    rw [if_neg hlength, if_neg hlength, hcommand]
    split_ifs with hset hdelete hiter hgets
    · rw [provisionSet_behind]
    · rw [provisionDelete_behind]
    · rw [provisionIterGet_behind (hiterGet hiter)]
    · obtain ⟨hfour, hdsk⟩ := hget hgets
      rw [provisionGet_behind hfour hdsk]
    · rfl

theorem reads_of_complete (hcomplete : Complete state frame) (read : ℕ × ℕ)
    (hread : VariableRead frame state.slots read) : read.1 + read.2 ≤ frame.bytes.length := by
  unfold VariableRead at hread
  dsimp only at hread
  split_ifs at hread with hlength hset hdelete hget
  · obtain ⟨hdsk, -, rfl | hread⟩ := hread
    · dsimp only
      omega
    · have htlv := tlvReads_le _ _ _ read hread
      rw [length_drop] at htlv
      omega
  · obtain ⟨hdsk, rfl⟩ := hread
    dsimp only
    omega
  · obtain ⟨hcompares, rfl⟩ := hread
    exact ((hcomplete (Nat.le_of_not_lt hlength)).2 hget).2 hcompares

/-- A frame that is complete is answered within its bounds. -/
theorem Kept.bounded (hkept : Kept state.slots) (hcomplete : Complete state frame) :
    Bounded directory state frame :=
  ⟨answer_of_complete hcomplete, reads_of_complete hcomplete, fun _ ↦ hkept.fits⟩

end Bounds

/-- The parameters of a command in the description of the class: the number of those of one byte,
and whether a DSK follows, with its length in the last of them. -/
def nodeProvisioningParams (cmd : UInt8) : Option (ℕ × Bool) :=
  if cmd = 1 then some (2, true)
  else if cmd = 2 then some (2, true)
  else if cmd = 3 then some (2, false)
  else if cmd = 4 then some (3, true)
  else if cmd = 5 then some (2, true)
  else if cmd = 6 then some (2, true)
  else none

/-- What the generated `ZW_command_validator` says to a frame of the class. The group with the TLVs
has no count, so its parameters are not validated. -/
def nodeProvisioningValidator (payload : Payload) : ValidatorResult :=
  match nodeProvisioningParams payload.cmd with
  | none => .unknownCommand
  | some (params, false) => if payload.rest.length < params then .parseFail else .parseOk
  | some (params, true) =>
    match payload.rest[params - 1]? with
    | none => .parseFail
    | some size =>
      if payload.rest.length < params + (size &&& dskLengthMask).toNat then .parseFail else .parseOk

def HandlerCode.code : HandlerCode → Code
  | .commandHandled => .commandHandled
  | .commandParseError => .commandParseError
  | .commandNotSupported => .commandNotSupported

section Gate

variable {Fn Session : Type*}

/-- A frame as it is received. -/
structure Reception (Session : Type*) where
  frame : Frame
  connection : Connection Session
  bSupervisionUnwrapped : Bool

/-- Any gateway, with the row of `PVL_CommandHandler` (`none`) at some place of its table. -/
def provisioningGateway (others : Gateway Fn Session) (place : ℕ) (directory : Directory)
    (state : PvlState) (behind : ℕ → UInt8) : Gateway (Option Fn) Session where
  handlers :=
    let rows := others.handlers.map fun fn ↦
      (⟨some fn.handler, fn.cmdClass, fn.version, fn.minimalScheme⟩ : Handler (Option Fn))
    rows.take place ++
      ⟨none, commandClassProvisioningList.toUInt16, 1, .securityScheme2Access⟩ :: rows.drop place
  disableCommandList := others.disableCommandList
  netScheme := others.netScheme
  validator payload :=
    if payload.cmdClass = commandClassProvisioningList then nodeProvisioningValidator payload
    else others.validator payload
  answer
    | some fn, connection, payload => others.answer fn connection payload
    | none, _, payload =>
      (pvlCommandHandler directory ⟨payload.cmdClass :: payload.cmd :: payload.rest, behind⟩
        state).1.code.value

variable (others : Gateway Fn Session) (place : ℕ) (directory : Directory)

/-- `ZW_command_handler_run` calls `PVL_CommandHandler` with the frame. A frame of less than two
bytes is one that the validator does not accept. -/
def reaches (state : PvlState) (reception : Reception Session) : Bool :=
  match reception.frame.bytes with
  | cmdClass :: cmd :: rest =>
    (commandHandlerRun (provisioningGateway others place directory state reception.frame.behind)
      reception.connection ⟨cmdClass, cmd, rest⟩ reception.bSupervisionUnwrapped).calls.any
        Option.isNone
  | _ => false

/-- The list after a frame. -/
def receive (state : PvlState) (reception : Reception Session) : PvlState :=
  if reaches others place directory state reception then
    (pvlCommandHandler directory reception.frame state).2.1
  else state

variable {others place directory}

/-- The invariant rule at `receive`: the handler keeps the lists that the commands may have made. -/
theorem Kept.receive {state : PvlState} (hkept : Kept state.slots) (reception : Reception Session) :
    Kept (receive others place directory state reception).slots := by
  unfold ProvisioningList.receive
  split_ifs
  · exact hkept.handler directory reception.frame
  · exact hkept

-- A Get with its DSK gets to the handler, and one without it does not.
example :
    let gateway : Gateway Unit Unit :=
      ⟨[], [], .securityScheme2Access, fun _ ↦ .unknownClass, fun _ _ _ ↦ 0⟩
    let get (dsk : List UInt8) : Reception Unit :=
      ⟨⟨[0x78, 5, 0, 4] ++ dsk, fun _ ↦ 0⟩, ⟨.securityScheme2Access, ()⟩, false⟩
    reaches gateway 0 (fun _ ↦ none) ⟨emptySlots, none⟩ (get [1, 2, 3, 4]) = true ∧
      reaches gateway 0 (fun _ ↦ none) ⟨emptySlots, none⟩ (get []) = false := by
  decide

end Gate

end ZipGateway.ProvisioningList
