import ZipGateway.ResourceDirectory.Interview

/-!
# Reports of an interview, and the blocks they are kept in

A report is parsed without harm when only bytes of it are read, and the blocks of the entry have the
lengths that are noted for them. `interview_iff` says which reports are: those that are as long as
they claim to be, and whose bytes fit in blocks with lengths of eight bits.
-/

set_option autoImplicit false

namespace ZipGateway.ResourceDirectory.Interview

open Lib List

/-! ### Blocks that are filled -/

section Blocks

variable {p : Pointer} {len : UInt8} {malloc : UInt8 → Option (ℕ → UInt8)} {size : UInt8}

theorem length_slice {frame : ℕ → UInt8}
    {start count : ℕ} : (slice frame start count).length = count := by
  unfold slice
  rw [length_map, length_range]

theorem holds_null_iff : Holds null len ↔ len = 0 := by
  constructor
  · intro hholds
    exact UInt8.toNat_inj.mp (Nat.le_zero.mp hholds.room)
  · rintro rfl
    exact ⟨rfl, le_refl 0, fun i ↦ iff_of_false Bool.false_ne_true (Nat.not_lt_zero i)⟩

/-- A block that nothing has been stored in. -/
structure Pointer.Empty (p : Pointer) (size : ℕ) : Prop where
  inside : p.block.inside = true
  size_eq : p.block.size = size
  stored : ∀ i, p.block.written i = false

theorem empty_null : null.Empty 0 := ⟨rfl, rfl, fun _ ↦ rfl⟩

theorem alloc_none (hnone : malloc size = none) : rdDataMemAlloc malloc size = null := by
  unfold rdDataMemAlloc
  rw [hnone]
  rfl

theorem alloc_some (hsome : malloc size ≠ none) :
    (rdDataMemAlloc malloc size).isNull = false ∧
      (rdDataMemAlloc malloc size).Empty size.toNat := by
  obtain ⟨bytes, hbytes⟩ := Option.ne_none_iff_exists'.mp hsome
  unfold rdDataMemAlloc
  rw [hbytes]
  exact ⟨rfl, rfl, rfl, fun _ ↦ rfl⟩

theorem isNull_alloc_iff : (rdDataMemAlloc malloc size).isNull = true ↔ malloc size = none := by
  by_cases hnone : malloc size = none
  · rw [alloc_none hnone]
    exact iff_of_true rfl hnone
  · rw [(alloc_some hnone).1]
    exact iff_of_false Bool.false_ne_true hnone

/-- After some stores from the start on, one behind the other, the block is filled up to `count`. -/
structure Pointer.Filled (p : Pointer) (size count : ℕ) : Prop where
  size_eq : p.block.size = size
  inside : p.block.inside = true ↔ count ≤ size
  stored : ∀ i, p.block.written i = true ↔ i < count

variable {count room : ℕ} {bytes : List UInt8}

theorem Pointer.Empty.filled (hempty : p.Empty room) : p.Filled room 0 := by
  refine ⟨hempty.size_eq, iff_of_true hempty.inside (Nat.zero_le room), fun i ↦ ?_⟩
  rw [hempty.stored]
  exact iff_of_false Bool.false_ne_true (Nat.not_lt_zero i)

/-- One more store. -/
theorem Pointer.Filled.put (hfilled : p.Filled room count) (bytes : List UInt8) :
    (p.put count bytes).Filled room (count + bytes.length) := by
  refine ⟨?_, ?_, fun i ↦ ?_⟩
  · exact Scratch.size_put.trans hfilled.size_eq
  · refine Scratch.inside_put.trans ?_
    rw [hfilled.inside, hfilled.size_eq]
    omega
  · refine Scratch.written_put.trans ?_
    rw [hfilled.stored]
    omega

/-- A filled block has a length exactly when it is the number of the bytes, and there is room for
them. -/
theorem Pointer.Filled.holds_iff (hfilled : p.Filled room count)
    (hlen : count ≤ room → len.toNat = count) : Holds p len ↔ count ≤ room := by
  constructor
  · intro hholds
    exact hfilled.inside.mp hholds.inside
  · intro hcount
    refine ⟨hfilled.inside.mpr hcount, ?_, fun i ↦ ?_⟩
    · rw [hfilled.size_eq, hlen hcount]
      exact hcount
    · rw [hfilled.stored, hlen hcount]

end Blocks

/-! ### The callbacks -/

section Members

variable {p : Pointer} {room : ℕ} {a : ℕ → UInt8}

/-- Both loops find the same number of bits in a byte. -/
theorem bit8CountLoop_eq (c : UInt8) : bit8CountLoop 8 c = (maskLoop 8 c 0).length := by
  have hbytes :
      ∀ value : Fin 256, bit8CountLoop 8 (.ofFin value) = (maskLoop 8 (.ofFin value) 0).length := by
    decide +kernel
  exact hbytes c.toFin

theorem countArrayBits_eq (length : UInt8) :
    countArrayBits a length = .ofNat (members a length).length := by
  unfold countArrayBits members
  induction length.toNat with
  | zero => rfl
  | succ count ih =>
    rw [range_succ, foldl_append, ih, flatMap_append, length_append, UInt8.ofNat_add]
    have hlast : (List.flatMap
      (fun i ↦ (maskLoop 8 (a i) 0).map fun j ↦ UInt8.ofNat (8 * i + j + 1)) [count]).length =
        (maskLoop 8 (a count) 0).length := by
      rw [flatMap_singleton, length_map]
    rw [hlast, ← bit8CountLoop_eq]
    rfl

/-- What is stored after `count` members: fewer than 256 fill the block, and with more of them one
came to lie outside. -/
structure Tracked (room : ℕ) (stored : Pointer × UInt8) (count : ℕ) : Prop where
  few : count < 256 → stored.1.Filled room count ∧ stored.2.toNat = count
  many : 256 ≤ count → stored.1.block.inside = false

theorem Tracked.storeMember {stored : Pointer × UInt8} {count : ℕ}
    (htracked : Tracked room stored count)
    (hroom : room < 256) (member : UInt8) :
    Tracked room (storeMember stored member) (count + 1) := by
  by_cases hcount : count < 256
  · obtain ⟨hfilled, hlen⟩ := htracked.few hcount
    have hput : (Interview.storeMember stored member).1.Filled room (count + 1) := by
      unfold Interview.storeMember
      rw [hlen]
      exact hfilled.put _
    refine ⟨fun hnext ↦ ⟨hput, ?_⟩, fun hnext ↦ Bool.eq_false_iff.mpr fun hinside ↦ ?_⟩
    · unfold Interview.storeMember
      rw [UInt8.toNat_add, hlen]
      exact Nat.mod_eq_of_lt hnext
    · have hfits := hput.inside.mp hinside
      omega
  · refine ⟨fun hnext ↦ absurd (Nat.lt_of_succ_lt hnext) hcount,
      fun _ ↦ Bool.eq_false_iff.mpr fun hinside ↦ ?_⟩
    have hbefore := (Scratch.inside_put.mp hinside).1
    rw [htracked.many (Nat.le_of_not_lt hcount)] at hbefore
    exact Bool.false_ne_true hbefore

theorem tracked_foldl {stored : Pointer × UInt8} {count : ℕ} (htracked : Tracked room stored count)
    (hroom : room < 256) (found : List UInt8) :
    Tracked room (found.foldl Interview.storeMember stored) (count + found.length) := by
  induction found generalizing stored count with
  | nil => exact htracked
  | cons member found ih =>
    rw [foldl_cons, length_cons, Nat.add_comm found.length, ← Nat.add_assoc]
    exact ih (htracked.storeMember hroom member)

theorem holds_members_iff (hempty : p.Empty room) (hroom : room < 256) (found : List UInt8) :
    Holds (found.foldl storeMember (p, 0)).1 (found.foldl storeMember (p, 0)).2 ↔
      found.length ≤ room := by
  have hstart : Tracked room (p, 0) 0 :=
    ⟨fun _ ↦ ⟨hempty.filled, rfl⟩, fun hmany ↦ absurd hmany (by decide)⟩
  have htracked := tracked_foldl hstart hroom found
  rw [Nat.zero_add] at htracked
  by_cases hlength : found.length < 256
  · obtain ⟨hfilled, hlen⟩ := htracked.few hlength
    exact hfilled.holds_iff fun _ ↦ hlen
  · refine iff_of_false (fun hholds ↦ ?_) (by omega)
    have hinside := hholds.inside
    rw [htracked.many (Nat.le_of_not_lt hlength)] at hinside
    exact Bool.false_ne_true hinside

end Members

section Callbacks

variable {ep : Endpoint} {arrival : Arrival}

theorem step_eq_of_parse {parsed : Parsed} (hparse : parse ep arrival = parsed) :
    step ep arrival = parsed.ep :=
  congrArg Parsed.ep hparse

/-- The blocks and their lengths are those of the other entry. -/
structure SameBlocks (next ep : Endpoint) : Prop where
  info : next.endpointInfo = ep.endpointInfo
  infoLen : next.endpointInfoLen = ep.endpointInfoLen
  agg : next.endpointAgg = ep.endpointAgg
  aggLen : next.endpointAggrLen = ep.endpointAggrLen

theorem SameBlocks.whole {next : Endpoint} (hsame : SameBlocks next ep) (hwhole : ep.Whole) :
    next.Whole := by
  constructor
  · rw [hsame.info, hsame.infoLen]
    exact hwhole.info
  · rw [hsame.agg, hsame.aggLen]
    exact hwhole.agg

/-- A report that reads nothing and leaves the blocks. -/
theorem harmless_of_untouched (hwhole : ep.Whole) (next : Endpoint) (updated : Bool)
    (hparse : parse ep arrival = ⟨next, [], updated⟩) (hsame : SameBlocks next ep) :
    Harmless ep arrival := by
  have hstep : step ep arrival = next := step_eq_of_parse hparse
  refine ⟨?_, ?_, fun _ i _ ↦ ?_⟩
  · rw [hparse]
    exact fun _ hread ↦ absurd hread not_mem_nil
  · rw [hstep]
    exact hsame.whole hwhole
  · rw [hstep, hsame.info]

/-- Room for as many bytes as the allocator was asked for, in eight bits. -/
theorem holds_alloc_members_iff (found : List UInt8) (malloc : UInt8 → Option (ℕ → UInt8)) :
    Holds (found.foldl storeMember (rdDataMemAlloc malloc (.ofNat found.length), 0)).1
        (found.foldl storeMember (rdDataMemAlloc malloc (.ofNat found.length), 0)).2 ↔
      found.length < 256 ∧ (malloc (.ofNat found.length) = none → found.length = 0) := by
  by_cases hnone : malloc (.ofNat found.length) = none
  · rw [alloc_none hnone, holds_members_iff empty_null (by decide)]
    exact ⟨fun hroom ↦ ⟨by omega, fun _ ↦ Nat.le_zero.mp hroom⟩, fun hroom ↦ (hroom.2 hnone).le⟩
  · rw [holds_members_iff (alloc_some hnone).2 (UInt8.toNat_lt _), UInt8.toNat_ofNat']
    exact ⟨fun hroom ↦ ⟨by omega, fun hsome ↦ absurd hsome hnone⟩,
      fun hroom ↦ (Nat.mod_eq_of_lt hroom.1).ge⟩

theorem harmless_aggregatedMembers_iff (hwhole : ep.Whole) (complete : Bool) (frame : ℕ → UInt8)
    (cmdLength : UInt16)
    (state : EpState) (node : ProbedNode) (malloc : UInt8 → Option (ℕ → UInt8)) :
    Harmless ep ⟨.aggregatedMembers complete frame cmdLength, state, node, malloc⟩ ↔
      Fits ep ⟨.aggregatedMembers complete frame cmdLength, state, node, malloc⟩ := by
  by_cases hstate : state = .probeAggregatedEndpoints
  · by_cases hcomplete : complete = true
    · have hparse : parse ep ⟨.aggregatedMembers complete frame cmdLength, state, node, malloc⟩ =
          let found := members (fun i ↦ frame (4 + i)) (frame 3)
          let stored := found.foldl storeMember (rdDataMemAlloc malloc (.ofNat found.length), 0)
          ⟨{ ep with
              endpointAgg := stored.1, endpointAggrLen := stored.2, state := .probeDone, node },
            [(3, 1), (4, (frame 3).toNat)], true⟩ := by
        unfold parse rdEpAggregatedMembersGetCallback
        dsimp only
        rw [if_neg (not_not.mpr hstate), if_pos hcomplete, countArrayBits_eq]
      have hholds := holds_alloc_members_iff (members (fun i ↦ frame (4 + i)) (frame 3)) malloc
      have hstep := step_eq_of_parse hparse
      constructor
      · intro hharmless _ _
        have hreads := hharmless.reads
        have hagg := hharmless.whole.agg
        rw [hparse] at hreads
        rw [hstep] at hagg
        exact ⟨hreads (4, (frame 3).toNat) (mem_cons_of_mem _ mem_cons_self), hholds.mp hagg⟩
      · intro hfits
        obtain ⟨hlength, hroom⟩ := hfits hstate hcomplete
        refine ⟨?_, ?_, fun hextends ↦ hextends.elim⟩
        · rw [hparse]
          intro read hread
          obtain rfl | hread := mem_cons.mp hread
          · exact (Nat.le_add_right 4 _).trans hlength
          · rw [mem_singleton.mp hread]
            exact hlength
        · rw [hstep]
          exact ⟨hwhole.info, hholds.mpr hroom⟩
    · refine iff_of_true ?_ fun _ hcomplete' ↦ absurd hcomplete' hcomplete
      refine harmless_of_untouched hwhole { ep with state := .probeDone, node } true ?_
        ⟨rfl, rfl, rfl, rfl⟩
      unfold parse rdEpAggregatedMembersGetCallback
      dsimp only
      rw [if_neg (not_not.mpr hstate), if_neg hcomplete]
  · refine iff_of_true ?_ fun hstate' ↦ absurd hstate' hstate
    refine harmless_of_untouched hwhole { ep with state, node } false ?_
        ⟨rfl, rfl, rfl, rfl⟩
    unfold parse rdEpAggregatedMembersGetCallback
    dsimp only
    rw [if_pos hstate]

/-- A length that has not gone below zero. -/
theorem sizeT_sub {length less : ℕ} (hle : less ≤ length) (hlength : length < 2 ^ 16) :
    sizeT ((length : ℤ) - (less : ℕ)) = length - less := by
  unfold sizeT
  omega

theorem harmless_capability_iff (hwhole : ep.Whole) (complete : Bool) (frame : ℕ → UInt8)
    (cmdLength : UInt16)
    (state : EpState) (node : ProbedNode) (malloc : UInt8 → Option (ℕ → UInt8)) :
    Harmless ep ⟨.capability complete frame cmdLength, state, node, malloc⟩ ↔
      Fits ep ⟨.capability complete frame cmdLength, state, node, malloc⟩ := by
  by_cases hcomplete : complete = true
  · by_cases hendpoint : ep.endpointId = frame 2 &&& 0x7F
    · by_cases hnone : malloc (cmdLength.toUInt8 - 3) = none
      · have hparse : parse ep ⟨.capability complete frame cmdLength, state, node, malloc⟩ =
            ⟨{ ep with endpointInfo := null, endpointInfoLen := 0, state := .probeFail, node },
              [(2, 1)], true⟩ := by
          unfold parse rdEpCapabilityGetCallback
          dsimp only
          rw [if_pos hcomplete, if_pos hendpoint, if_pos (isNull_alloc_iff.mpr hnone),
            alloc_none hnone]
        have hread : Harmless ep ⟨.capability complete frame cmdLength, state, node, malloc⟩ ↔
            3 ≤ cmdLength.toNat := by
          have hstep := step_eq_of_parse hparse
          constructor
          · intro hharmless
            have hreads := hharmless.reads
            rw [hparse] at hreads
            exact hreads (2, 1) mem_cons_self
          · intro hlength
            refine ⟨?_, ?_, fun hextends ↦ hextends.elim⟩
            · rw [hparse]
              intro read hread
              rw [mem_singleton.mp hread]
              exact hlength
            · rw [hstep]
              exact ⟨holds_null_iff.mpr rfl, hwhole.agg⟩
        rw [hread]
        exact ⟨fun hlength _ ↦ ⟨hlength, fun _ hsome ↦ absurd hnone hsome⟩,
          fun hfits ↦ (hfits hcomplete).1⟩
      · have hparse : parse ep ⟨.capability complete frame cmdLength, state, node, malloc⟩ =
            let count := sizeT (cmdLength.toNat - (3 : ℕ))
            ⟨{ ep with
                endpointInfo :=
                  (rdDataMemAlloc malloc (cmdLength.toUInt8 - 3)).put 0 (slice frame 3 count)
                endpointInfoLen := cmdLength.toUInt8 - 3
                state := .probeSec2C2Info
                node },
              [(2, 1), (3, count)], true⟩ := by
          unfold parse rdEpCapabilityGetCallback
          dsimp only
          have hnull : ¬ (rdDataMemAlloc malloc (cmdLength.toUInt8 - 3)).isNull = true :=
            fun hnull ↦ hnone (isNull_alloc_iff.mp hnull)
          rw [if_pos hcomplete, if_pos hendpoint, if_neg hnull]
          rfl
        have hstep := step_eq_of_parse hparse
        have hbound := cmdLength.toNat_lt
        have hlen (hlength : 3 ≤ cmdLength.toNat) :
            (cmdLength.toUInt8 - 3).toNat = (cmdLength.toNat - 3) % 256 := by
          rw [UInt8.toNat_sub, UInt16.toNat_toUInt8]
          have hthree : (3 : UInt8).toNat = 3 := rfl
          omega
        have hfilled (hlength : 3 ≤ cmdLength.toNat) :
            ((rdDataMemAlloc malloc (cmdLength.toUInt8 - 3)).put 0
              (slice frame 3 (sizeT (cmdLength.toNat - (3 : ℕ))))).Filled
                ((cmdLength.toNat - 3) % 256) (cmdLength.toNat - 3) := by
          have hput :=
            (alloc_some hnone).2.filled.put (slice frame 3 (sizeT (cmdLength.toNat - (3 : ℕ))))
          rw [length_slice, sizeT_sub hlength hbound, hlen hlength, Nat.zero_add] at hput
          rw [sizeT_sub hlength hbound]
          exact hput
        have hholds (hlength : 3 ≤ cmdLength.toNat) : Holds _ (cmdLength.toUInt8 - 3) ↔ _ :=
          (hfilled hlength).holds_iff fun hroom ↦ by
            rw [hlen hlength]
            omega
        constructor
        · intro hharmless _
          have hreads := hharmless.reads
          have hinfo := hharmless.whole.info
          rw [hparse] at hreads
          rw [hstep] at hinfo
          have hlength : 3 ≤ cmdLength.toNat := hreads (2, 1) mem_cons_self
          refine ⟨hlength, fun _ _ ↦ ?_⟩
          have hroom := (hholds hlength).mp hinfo
          omega
        · intro hfits
          obtain ⟨hlength, hroom⟩ := hfits hcomplete
          have hshort := hroom hendpoint hnone
          refine ⟨?_, ?_, fun hextends ↦ hextends.elim⟩
          · rw [hparse]
            intro read hread
            obtain rfl | hread := mem_cons.mp hread
            · exact hlength
            · rw [mem_singleton.mp hread]
              dsimp only [Report.length]
              rw [sizeT_sub hlength hbound]
              omega
          · rw [hstep]
            exact ⟨(hholds hlength).mpr (by omega), hwhole.agg⟩
    · have hparse : parse ep ⟨.capability complete frame cmdLength, state, node, malloc⟩ =
          ⟨{ ep with state := .probeFail, node }, [(2, 1)], true⟩ := by
        unfold parse rdEpCapabilityGetCallback
        dsimp only
        rw [if_pos hcomplete, if_neg hendpoint]
      have hstep := step_eq_of_parse hparse
      constructor
      · intro hharmless _
        have hreads := hharmless.reads
        rw [hparse] at hreads
        exact ⟨hreads (2, 1) mem_cons_self, fun hendpoint' ↦ absurd hendpoint' hendpoint⟩
      · intro hfits
        refine ⟨?_, ?_, fun hextends ↦ hextends.elim⟩
        · rw [hparse]
          intro read hread
          rw [mem_singleton.mp hread]
          exact (hfits hcomplete).1
        · rw [hstep]
          exact ⟨hwhole.info, hwhole.agg⟩
  · refine iff_of_true ?_ fun hcomplete' ↦ absurd hcomplete' hcomplete
    refine harmless_of_untouched hwhole { ep with state := .probeFail, node } true ?_
        ⟨rfl, rfl, rfl, rfl⟩
    unfold parse rdEpCapabilityGetCallback
    dsimp only
    rw [if_neg hcomplete]

end Callbacks

section Extension

variable {ep : Endpoint} {malloc : UInt8 → Option (ℕ → UInt8)} {frame : ℕ → UInt8}
  {cmdLength : UInt16} {header : ℕ}

/-- The size that is asked for, which has lost what does not fit in eight bits. -/
theorem toNat_extendedSize (len : UInt8) (hlength : header < cmdLength.toNat) :
    (len + 2 + cmdLength.toUInt8 - .ofNat header).toNat =
      (len.toNat + 2 + (cmdLength.toNat - header)) % 256 := by
  rw [UInt8.toNat_sub, UInt8.toNat_add, UInt8.toNat_add, UInt16.toNat_toUInt8, UInt8.toNat_ofNat']
  have htwo : (2 : UInt8).toNat = 2 := rfl
  omega

/-- The first bytes of a new block are those of the old one. -/
structure Pointer.Begins (p old : Pointer) (room count : ℕ) : Prop where
  filled : p.Filled room count
  byte : ∀ i < count, p.block.byte i = old.block.byte i

/-- The old block is copied; a null pointer has nothing to copy. -/
theorem begins_copy {p : Pointer} {room : ℕ} (hempty : p.Empty room)
    (hholds : Holds ep.endpointInfo ep.endpointInfoLen) :
    (if ep.endpointInfo.isNull then p
      else p.put 0 (ep.endpointInfo.block.buffer.load 0 ep.endpointInfoLen.toNat)).Begins
        ep.endpointInfo room ep.endpointInfoLen.toNat := by
  have hload : (ep.endpointInfo.block.buffer.load 0 ep.endpointInfoLen.toNat).length =
      ep.endpointInfoLen.toNat := by
    unfold Buffer.load
    rw [length_map, length_range]
  by_cases hnull : ep.endpointInfo.isNull = true
  · have hnone : ep.endpointInfoLen.toNat = 0 := by
      have hroom := hholds.room
      rw [ep.endpointInfo.size_of_isNull hnull] at hroom
      exact Nat.le_zero.mp hroom
    rw [if_pos hnull, hnone]
    exact ⟨hempty.filled, fun i hi ↦ absurd hi (Nat.not_lt_zero i)⟩
  · rw [if_neg hnull]
    constructor
    · have hput := hempty.filled.put (ep.endpointInfo.block.buffer.load 0 ep.endpointInfoLen.toNat)
      rw [hload, Nat.zero_add] at hput
      exact hput
    · intro i hi
      have hbyte : (p.block.put 0
          (ep.endpointInfo.block.buffer.load 0 ep.endpointInfoLen.toNat)).byte i = _ :=
        Scratch.byte_put_of_mem (Nat.zero_le i) (by omega)
      refine hbyte.trans ?_
      rw [Nat.sub_zero, Buffer.getD_load hi, Nat.zero_add]
      rfl

/-- What is put behind them leaves them. -/
theorem byte_put_of_begins {p old : Pointer} {count offset : ℕ} (bytes : List UInt8)
    (hbytes : ∀ i < count, p.block.byte i = old.block.byte i) (hoffset : count ≤ offset) :
    ∀ i < count, (p.put offset bytes).block.byte i = old.block.byte i :=
  fun i hi ↦ (Scratch.byte_put_of_lt (hi.trans_le hoffset)).trans (hbytes i hi)

theorem extendInfo_of_none
    (hnone : malloc (ep.endpointInfoLen + 2 + cmdLength.toUInt8 - .ofNat header) = none) :
    ep.extendInfo malloc frame cmdLength header = (ep, []) := by
  unfold Endpoint.extendInfo
  exact if_pos (isNull_alloc_iff.mpr hnone)

/-- The new block, and what of the report is in it. -/
structure Extended (ep next : Endpoint) (total : ℕ) : Prop where
  filled : next.endpointInfo.Filled (total % 256) total
  byte : ∀ i < ep.endpointInfoLen.toNat, next.endpointInfo.block.byte i =
    ep.endpointInfo.block.byte i
  len : next.endpointInfoLen.toNat = total % 256
  agg : next.endpointAgg = ep.endpointAgg
  aggLen : next.endpointAggrLen = ep.endpointAggrLen

theorem extended_of_some (frame : ℕ → UInt8) (hwhole : ep.Whole)
    (hlength : header < cmdLength.toNat)
    (hsome : malloc (ep.endpointInfoLen + 2 + cmdLength.toUInt8 - .ofNat header) ≠ none) :
    Extended ep (ep.extendInfo malloc frame cmdLength header).1
        (ep.endpointInfoLen.toNat + 2 + (cmdLength.toNat - header)) ∧
      (ep.extendInfo malloc frame cmdLength header).2 = [(header, cmdLength.toNat - header)] := by
  have hsize := toNat_extendedSize ep.endpointInfoLen hlength
  obtain ⟨hnull, hempty⟩ := alloc_some hsome
  rw [hsize] at hempty
  have hcopied := begins_copy hempty hwhole.info
  have hmarked := hcopied.filled.put [0xF1, 0x00]
  have hstored := hmarked.put (slice frame header (cmdLength.toNat - header))
  rw [length_slice] at hstored
  have hkept := byte_put_of_begins (slice frame header (cmdLength.toNat - header))
    (byte_put_of_begins [0xF1, 0x00] hcopied.byte le_rfl)
      (Nat.le_add_right ep.endpointInfoLen.toNat 2)
  have hnull' : ¬ (rdDataMemAlloc malloc
      (ep.endpointInfoLen + 2 + cmdLength.toUInt8 - .ofNat header)).isNull = true :=
    Bool.eq_false_iff.mp hnull
  unfold Endpoint.extendInfo
  dsimp only
  rw [if_neg hnull']
  exact ⟨⟨hstored, hkept, hsize, rfl, rfl⟩, rfl⟩

end Extension

section Callbacks

variable {ep : Endpoint}

theorem harmless_secureCommands_iff (hwhole : ep.Whole) (complete : Bool) (frame : ℕ → UInt8)
    (cmdLength : UInt16)
    (state : EpState) (node : ProbedNode) (malloc : UInt8 → Option (ℕ → UInt8)) :
    Harmless ep ⟨.secureCommands complete frame cmdLength, state, node, malloc⟩ ↔
      Fits ep ⟨.secureCommands complete frame cmdLength, state, node, malloc⟩ := by
  obtain ⟨state', node', hparse⟩ : ∃ state' node',
      parse ep ⟨.secureCommands complete frame cmdLength, state, node, malloc⟩ =
        let extended :=
          if complete = true ∧ headerLen state < cmdLength.toNat then
            ({ ep with state, node } : Endpoint).extendInfo malloc frame cmdLength (headerLen state)
          else ({ ep with state, node }, [])
        ⟨{ extended.1 with state := state', node := node' }, extended.2, true⟩ := ⟨_, _, rfl⟩
  by_cases hextends : complete = true ∧ headerLen state < cmdLength.toNat
  · rw [if_pos hextends] at hparse
    by_cases hnone :
      malloc (ep.endpointInfoLen + 2 + cmdLength.toUInt8 - .ofNat (headerLen state)) = none
    · have hlost : ({ ep with state, node } : Endpoint).extendInfo malloc frame cmdLength
          (headerLen state) = (_, []) :=
        extendInfo_of_none hnone
      rw [hlost] at hparse
      refine iff_of_true ?_ fun _ _ hsome ↦ absurd hnone hsome
      exact harmless_of_untouched hwhole _ _ hparse ⟨rfl, rfl, rfl, rfl⟩
    · have hstep := step_eq_of_parse hparse
      have harrived : ({ ep with state, node } : Endpoint).Whole := ⟨hwhole.info, hwhole.agg⟩
      obtain ⟨hextended, hreads⟩ := extended_of_some frame harrived hextends.2 hnone
      have hholds := hextended.filled.holds_iff fun hroom ↦ hextended.len.trans (by omega)
      constructor
      · intro hharmless _ _ _
        have hinfo := hharmless.whole.info
        rw [hstep] at hinfo
        have hroom := hholds.mp hinfo
        change ep.endpointInfoLen.toNat + 2 + (cmdLength.toNat - headerLen state) < 256
        dsimp only at hroom
        omega
      · intro hfits
        have htotal : ep.endpointInfoLen.toNat + 2 + (cmdLength.toNat - headerLen state) < 256 :=
          hfits hextends.1 hextends.2 hnone
        refine ⟨?_, ?_, fun _ ↦ ?_⟩
        · rw [hparse]
          dsimp only
          rw [hreads]
          intro read hread
          rw [mem_singleton.mp hread]
          dsimp only [Report.length]
          omega
        · rw [hstep]
          refine ⟨hholds.mpr (by dsimp only; omega), ?_⟩
          dsimp only
          rw [hextended.agg, hextended.aggLen]
          exact hwhole.agg
        · rw [hstep]
          exact hextended.byte
  · rw [if_neg hextends] at hparse
    exact iff_of_true (harmless_of_untouched hwhole _ _ hparse ⟨rfl, rfl, rfl, rfl⟩)
      fun hcomplete hlength ↦ absurd ⟨hcomplete, hlength⟩ hextends

/-- What is done about the flags and the versions leaves the blocks. -/
theorem sameBlocks_forgetVersions : SameBlocks ep.forgetVersions ep := by
  unfold Endpoint.forgetVersions
  split_ifs
  · exact ⟨rfl, rfl, rfl, rfl⟩
  · exact ⟨rfl, rfl, rfl, rfl⟩

theorem sameBlocks_downgrade (cls : UInt16) (flags : UInt8) :
    SameBlocks (ep.downgrade cls flags) ep := by
  unfold Endpoint.downgrade
  split_ifs
  · exact ⟨rfl, rfl, rfl, rfl⟩
  · exact ⟨rfl, rfl, rfl, rfl⟩

theorem SameBlocks.trans {next middle : Endpoint} (hfirst : SameBlocks next middle)
    (hlast : SameBlocks middle ep) : SameBlocks next ep :=
  ⟨hfirst.info.trans hlast.info, hfirst.infoLen.trans hlast.infoLen, hfirst.agg.trans hlast.agg,
    hfirst.aggLen.trans hlast.aggLen⟩

theorem sameBlocks_settle (ep : Endpoint) : SameBlocks ep.settle ep := by
  unfold Endpoint.settle
  refine sameBlocks_forgetVersions.trans ?_
  split_ifs
  · exact (sameBlocks_downgrade _ _).trans (sameBlocks_downgrade _ _)
  · exact ⟨rfl, rfl, rfl, rfl⟩

theorem filled_putNif {p : Pointer} {room : ℕ} (hempty : p.Empty room) (nif : ℕ → UInt8)
    {nifLen : UInt8}
    (hlength : 1 ≤ nifLen.toNat) : (p.putNif nif nifLen).Filled room (nifLen.toNat + 1) := by
  have hcount : sizeT (nifLen.toNat - 1) = nifLen.toNat - 1 :=
    sizeT_sub hlength (by have := nifLen.toNat_lt; omega)
  have hcopied := hempty.filled.put (slice nif 1 (nifLen.toNat - 1))
  rw [length_slice, Nat.zero_add] at hcopied
  have hnaming := hcopied.put [0x68]
  rw [length_singleton, Nat.sub_add_cancel hlength] at hnaming
  unfold Pointer.putNif
  rw [hcount]
  exact hnaming.put _

theorem harmless_nodeInfo_iff (hwhole : ep.Whole) (bStatus : UInt8) (bNodeID : UInt16)
    (nif : ℕ → UInt8)
    (nifLen : UInt8) (state : EpState) (node : ProbedNode) (malloc : UInt8 → Option (ℕ → UInt8)) :
    Harmless ep ⟨.nodeInfo bStatus bNodeID nif nifLen, state, node, malloc⟩ ↔
      Fits ep ⟨.nodeInfo bStatus bNodeID nif nifLen, state, node, malloc⟩ := by
  by_cases hstate : state = .probeInfo
  · by_cases hasked : bStatus ≠ 0 ∧ node.nodeid = bNodeID
    · by_cases hnone : malloc (nifLen + 1) = none
      · have hparse : parse ep ⟨.nodeInfo bStatus bNodeID nif nifLen, state, node, malloc⟩ =
            ⟨{ ep with
                endpointInfo := null
                state := .probeFail
                node := { node with nodeType := nif 0 } },
              [(0, 1)], true⟩ := by
          unfold parse rdNifRequestNotify
          dsimp only
          rw [if_neg (not_not.mpr hstate), if_pos hasked, if_pos (isNull_alloc_iff.mpr hnone),
            alloc_none hnone]
        have hstep := step_eq_of_parse hparse
        constructor
        · intro hharmless _ _ _
          have hreads := hharmless.reads
          have hinfo := hharmless.whole.info
          rw [hparse] at hreads
          rw [hstep] at hinfo
          exact ⟨hreads (0, 1) mem_cons_self, fun _ ↦ holds_null_iff.mp hinfo,
            fun hsome ↦ absurd hnone hsome⟩
        · intro hfits
          obtain ⟨hlength, hempty, -⟩ := hfits hstate hasked.1 hasked.2
          refine ⟨?_, ?_, fun hextends ↦ hextends.elim⟩
          · rw [hparse]
            intro read hread
            rw [mem_singleton.mp hread]
            exact hlength
          · rw [hstep]
            exact ⟨holds_null_iff.mpr (hempty hnone), hwhole.agg⟩
      · obtain ⟨next, hparse, hsame⟩ : ∃ next,
            parse ep ⟨.nodeInfo bStatus bNodeID nif nifLen, state, node, malloc⟩ =
              ⟨next, [(0, 1), (1, sizeT (nifLen.toNat - 1))], true⟩ ∧
            SameBlocks next { ep with
              endpointInfo := (rdDataMemAlloc malloc (nifLen + 1)).putNif nif nifLen
              endpointInfoLen := nifLen + 1 } := by
          have hnull : ¬ (rdDataMemAlloc malloc (nifLen + 1)).isNull = true :=
            fun hnull ↦ hnone (isNull_alloc_iff.mp hnull)
          unfold parse rdNifRequestNotify
          dsimp only
          rw [if_neg (not_not.mpr hstate), if_pos hasked, if_neg hnull]
          refine ⟨_, rfl, ?_⟩
          have hsettle := sameBlocks_settle { ep with
            state
            endpointInfo := (rdDataMemAlloc malloc (nifLen + 1)).putNif nif nifLen
            endpointInfoLen := nifLen + 1
            node := { node with nodeType := nif 0 } }
          exact ⟨hsettle.info, hsettle.infoLen, hsettle.agg, hsettle.aggLen⟩
        have hstep : step ep ⟨.nodeInfo bStatus bNodeID nif nifLen, state, node, malloc⟩ = next :=
          step_eq_of_parse hparse
        have hbound := nifLen.toNat_lt
        have hlen : (nifLen + 1).toNat = (nifLen.toNat + 1) % 256 := UInt8.toNat_add nifLen 1
        have hholds (hlength : 1 ≤ nifLen.toNat) : Holds next.endpointInfo next.endpointInfoLen ↔
            nifLen.toNat + 1 ≤ (nifLen.toNat + 1) % 256 := by
          have hempty := (alloc_some hnone).2
          rw [hlen] at hempty
          rw [hsame.info, hsame.infoLen]
          exact (filled_putNif hempty nif hlength).holds_iff fun hroom ↦ hlen.trans (by omega)
        constructor
        · intro hharmless _ _ _
          have hreads := hharmless.reads
          have hinfo := hharmless.whole.info
          rw [hparse] at hreads
          rw [hstep] at hinfo
          have hlength : 1 ≤ nifLen.toNat := hreads (0, 1) mem_cons_self
          refine ⟨hlength, fun hnone' ↦ absurd hnone' hnone, fun _ ↦ ?_⟩
          have hroom := (hholds hlength).mp hinfo
          omega
        · intro hfits
          obtain ⟨hlength, -, hshort⟩ := hfits hstate hasked.1 hasked.2
          have hroom := hshort hnone
          refine ⟨?_, ?_, fun hextends ↦ hextends.elim⟩
          · rw [hparse]
            intro read hread
            obtain rfl | hread := mem_cons.mp hread
            · exact hlength
            · rw [mem_singleton.mp hread]
              dsimp only [Report.length]
              have hcount : sizeT (nifLen.toNat - 1) = nifLen.toNat - 1 :=
                sizeT_sub hlength (by omega)
              omega
          · rw [hstep]
            refine ⟨(hholds hlength).mpr (by omega), ?_⟩
            rw [hsame.agg, hsame.aggLen]
            exact hwhole.agg
    · refine iff_of_true ?_ fun _ hstatus hnode ↦ absurd ⟨hstatus, hnode⟩ hasked
      refine harmless_of_untouched hwhole { ep with state := .probeFail, node } true ?_
        ⟨rfl, rfl, rfl, rfl⟩
      unfold parse rdNifRequestNotify
      dsimp only
      rw [if_neg (not_not.mpr hstate), if_neg hasked]
  · refine iff_of_true ?_ fun hstate' ↦ absurd hstate' hstate
    refine harmless_of_untouched hwhole { ep with state, node } false ?_ ⟨rfl, rfl, rfl, rfl⟩
    unfold parse rdNifRequestNotify
    dsimp only
    rw [if_pos hstate]

end Callbacks

/-! ### All reports -/

theorem harmless_iff_fits {ep : Endpoint} (hwhole : ep.Whole) (arrival : Arrival) :
    Harmless ep arrival ↔ Fits ep arrival := by
  obtain ⟨report, state, node, malloc⟩ := arrival
  cases report with
  | aggregatedMembers complete frame cmdLength =>
    exact harmless_aggregatedMembers_iff hwhole complete frame cmdLength state node malloc
  | capability complete frame cmdLength =>
    exact harmless_capability_iff hwhole complete frame cmdLength state node malloc
  | secureCommands complete frame cmdLength =>
    exact harmless_secureCommands_iff hwhole complete frame cmdLength state node malloc
  | nodeInfo bStatus bNodeID nif nifLen =>
    exact harmless_nodeInfo_iff hwhole bStatus bNodeID nif nifLen state node malloc

/-- In an interview, every report is parsed without harm exactly when every one fits. -/
theorem interview_iff (start : { ep : Endpoint // ep.Whole }) (arrivals : List Arrival) :
    AllSteps step Harmless start.1 arrivals ↔ AllSteps step Fits start.1 arrivals := by
  have hkeep : ∀ (ep : Endpoint) (arrival : Arrival), Fits ep arrival → ep.Whole →
      (step ep arrival).Whole :=
    fun _ arrival hfits hwhole ↦ ((harmless_iff_fits hwhole arrival).mpr hfits).whole
  exact allSteps_congr_of_kept hkeep (fun _ arrival hwhole ↦ harmless_iff_fits hwhole arrival)
    start.2 arrivals

/-- A node of which nothing is known. -/
def unknownNode : ProbedNode := ⟨5, 0, 0, 0, 0, 0, 0, 0, false⟩

/-- An entry of its second endpoint, with nothing in it. -/
def emptyEndpoint : Endpoint := ⟨1, .probeAggregatedEndpoints, null, 0, null, 0, unknownNode⟩

/-- A report of aggregated members that names one mask and has none. -/
def maskless : Arrival :=
  ⟨.aggregatedMembers true (fun i ↦ [0x60, 0x0F, 0x01, 0x01].getD i 0) 4, .probeAggregatedEndpoints,
    unknownNode, fun _ ↦ some fun _ ↦ 0⟩

theorem interview_fail :
    ¬ ∀ (start : { ep : Endpoint // ep.Whole }) (arrivals : List Arrival),
      AllSteps step Harmless start.1 arrivals := by
  intro hharmless
  have hempty : emptyEndpoint.Whole := ⟨holds_null_iff.mpr rfl, holds_null_iff.mpr rfl⟩
  have hreads := (hharmless ⟨emptyEndpoint, hempty⟩ [maskless]).1.reads
  have hmask := hreads (4, 1) (mem_cons_of_mem _ mem_cons_self)
  exact absurd hmask (by decide)

end ZipGateway.ResourceDirectory.Interview
