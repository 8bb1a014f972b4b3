import ZipGateway.SerialApi.Dispatch

/-!
# Requests that are confined to their frame

A request is confined when the calls that are made for it depend on the bytes of its frame alone, no
byte is written behind `pCmd`, and what is handed on stands in the frame. The branches that check
the length of what they read are. `dispatch_confined_iff` says what the others need.
-/

set_option autoImplicit false

namespace ZipGateway.SerialApi.Dispatch

open Function Lib List

/-! ### Frames and what lies round them -/

/-- Two memories agree on the frame. -/
def Agrees (len : ℤ) (pData other : ℤ → UInt8) : Prop := ∀ i, 0 ≤ i → i < len → other i = pData i

/-- What a call hands on stands in the frame, with the length that it names. -/
def Call.InFrame (call : Call) (pData : ℤ → UInt8) (len : ℤ) : Prop :=
  ∃ start : ℤ, 0 ≤ start ∧ start + call.command.2.toNat ≤ len ∧
    call.command.1 = slice pData start call.command.2.toNat

/-- No byte was written behind `pCmd`, and nothing is handed on that is not in the frame. -/
def Outcome.Safe (outcome : Outcome) (pData : ℤ → UInt8) (len : ℤ) : Prop :=
  outcome.pCmd.inside = true ∧ ∀ call ∈ outcome.calls, call.InFrame pData len

/-- A branch is confined to a frame: its calls depend on the frame alone, and it is safe. -/
structure Confined (run : (ℤ → UInt8) → Outcome) (pData : ℤ → UInt8) (len : ℤ) : Prop where
  reads : ∀ other, Agrees len pData other → (run other).calls = (run pData).calls
  safe : (run pData).Safe pData len

section Branches

variable {m : Module} {pData other : ℤ → UInt8} {len start i : ℤ} {length : UInt8}
  {before : List Call} {call : List UInt8 → Call}

theorem Agrees.slice (hagree : Agrees len pData other) (hstart : 0 ≤ start) {count : ℕ}
    (hend : start + count ≤ len) : slice other start count = slice pData start count := by
  refine map_congr_left fun k hk ↦ hagree _ (by omega) ?_
  have hlt := mem_range.mp hk
  omega

theorem Agrees.nodeId (hagree : Agrees len pData other) (hstart : 0 ≤ i)
    (hend : i + m.width ≤ len) : m.nodeId other i = m.nodeId pData i := by
  unfold Module.nodeId
  unfold Module.width at hend
  split_ifs at hend ⊢
  · rw [hagree i hstart (by omega), hagree (i + 1) (by omega) (by omega)]
  · rw [hagree i hstart (by omega)]

theorem one_le_width : 1 ≤ m.width := by
  unfold Module.width
  split_ifs <;> decide

theorem length_slice {count : ℕ} : (slice pData start count).length = count := by
  unfold slice
  rw [length_map, length_range]

/-- A call that hands nothing on. -/
theorem inFrame_of_none {call : Call} (hnone : call.command = ([], 0)) (hlen : 0 ≤ len) :
    call.InFrame pData len := by
  refine ⟨0, le_refl 0, ?_, ?_⟩
  · rw [hnone]
    exact hlen
  · rw [hnone]
    rfl

theorem safe_quiet : m.quiet.Safe pData len := ⟨rfl, fun _ hcall ↦ absurd hcall not_mem_nil⟩

/-- `pCmd` is as it was, and no call hands anything on. -/
theorem safe_of_none {outcome : Outcome} (hpCmd : outcome.pCmd = m.quiet.pCmd)
    (hnone : ∀ call ∈ outcome.calls, call.command = ([], 0)) (hlen : 0 ≤ len) :
    outcome.Safe pData len := by
  refine ⟨?_, fun call hcall ↦ inFrame_of_none (hnone call hcall) hlen⟩
  rw [hpCmd]
  rfl

/-- What is handed on is what was copied. -/
theorem calls_passing :
    (m.passing pData start length before call).calls = before ++
      [call (slice pData start length.toNat)] := by
  have hstands :
      StandsAt (Buffer.write ⟨bufSize, m.pCmd⟩ 0 (slice pData start length.toNat)).byte 0 _ :=
    standsAt_write
  have hload := hstands.load_eq
  rw [length_slice] at hload
  exact congrArg (before ++ [call ·]) hload

/-- Bytes of the frame are handed on safely when there is room for them. -/
theorem safe_passing_iff (hstart : 0 ≤ start) (hend : start + length.toNat ≤ len)
    (hbefore : ∀ other ∈ before, other.command = ([], 0))
    (hcall : ∀ bytes, (call bytes).command = (bytes, length)) :
    (m.passing pData start length before call).Safe pData len ↔ length.toNat ≤ bufSize := by
  have hinside : (m.passing pData start length before call).pCmd.inside = true ↔
      length.toNat ≤ bufSize := by
    refine Scratch.inside_put.trans ?_
    rw [length_slice, Nat.zero_add]
    exact and_iff_right rfl
  refine (and_iff_left fun other hother ↦ ?_).trans hinside
  rw [calls_passing] at hother
  obtain hother | hother := mem_append.mp hother
  · exact inFrame_of_none (hbefore other hother) (by omega)
  · rw [mem_singleton.mp hother]
    refine ⟨start, hstart, ?_, ?_⟩
    · rw [hcall]
      exact hend
    · rw [hcall]

/-- With the check of the length they always are. -/
theorem safe_checked (hstart : 0 ≤ start) (hlen : 0 ≤ len)
    (hbefore : ∀ other ∈ before, other.command = ([], 0))
    (hcall : ∀ bytes, (call bytes).command = (bytes, length)) :
    (m.checked pData len start length before call).Safe pData len := by
  unfold Module.checked
  split_ifs with hdrop
  · exact safe_of_none (m := m) rfl hbefore hlen
  · have hroom := not_or.mp hdrop
    exact (safe_passing_iff hstart (Int.not_lt.mp hroom.2) hbefore hcall).mpr
      (Nat.le_of_not_lt hroom.1)

theorem calls_checked (hroom : length.toNat ≤ bufSize) (hfits : start + length.toNat ≤ len) :
    (m.checked pData len start length before call).calls = before ++
      [call (slice pData start length.toNat)] := by
  unfold Module.checked
  have hdrop : ¬ DetectBufferOverflow length := Nat.not_lt.mpr hroom
  rw [if_neg (not_or.mpr ⟨hdrop, Int.not_lt.mpr hfits⟩), calls_passing]

/-- A length that is read behind the frame is never used. -/
theorem checked_congr {before' : List Call} {call' : List UInt8 → Call}
    (hagree : Agrees len pData other) (hi : 0 ≤ i) (hbefore : before' = before)
    (hcall : i < len → (pData i).toNat ≤ bufSize → i + 1 + (pData i).toNat ≤ len → call' = call) :
    m.checked other len (i + 1) (other i) before' call' = m.checked pData len (i + 1)
      (pData i) before call := by
  unfold Module.checked
  by_cases hshort : i < len
  · rw [hagree i hi hshort, hbefore]
    split_ifs with hdrop
    · rfl
    · have hfits := Int.not_lt.mp (not_or.mp hdrop).2
      rw [hcall hshort (Nat.le_of_not_lt (not_or.mp hdrop).1) hfits]
      unfold Module.passing
      rw [hagree.slice (by omega) hfits]
  · have hbehind (bytes : UInt8) : len < i + 1 + bytes.toNat := by omega
    rw [if_pos (Or.inr (hbehind _)), if_pos (Or.inr (hbehind _)), hbefore]

end Branches

/-! ### The branches are confined -/

section Handlers

variable {m : Module} {pData other : ℤ → UInt8} {len : ℤ}

theorem coe_idxData : (idxData : ℤ) = 3 := rfl

/-- A branch whose outcome is the same for every memory that agrees. -/
theorem Confined.of_eq {run : (ℤ → UInt8) → Outcome}
    (heq : ∀ other, Agrees len pData other → run other = run pData)
    (hsafe : (run pData).Safe pData len) : Confined run pData len :=
  ⟨fun other hagree ↦ congrArg Outcome.calls (heq other hagree), hsafe⟩

theorem confined_quiet : Confined (fun _ ↦ m.quiet) pData len := ⟨fun _ _ ↦ rfl, safe_quiet⟩

/-- A branch is confined with what it does for the memories that agree. -/
theorem confined_congr {run run' : (ℤ → UInt8) → Outcome}
    (heq : ∀ other, Agrees len pData other → run other = run' other) :
    Confined run pData len ↔ Confined run' pData len := by
  have hself := heq pData fun _ _ _ ↦ rfl
  constructor
  · intro hconfined
    refine ⟨fun other hagree ↦ ?_, ?_⟩
    · rw [← heq other hagree, ← hself]
      exact hconfined.reads other hagree
    · rw [← hself]
      exact hconfined.safe
  · intro hconfined
    refine ⟨fun other hagree ↦ ?_, ?_⟩
    · rw [heq other hagree, hself]
      exact hconfined.reads other hagree
    · rw [hself]
      exact hconfined.safe

/-- Nothing is done without the callback. -/
theorem confined_unset_iff {run : (ℤ → UInt8) → Outcome} {callback : Callback} {condition : Prop}
    (hset : ¬ m.isSet callback = true) (hquiet : ∀ memory, run memory = m.quiet) :
    Confined run pData len ↔ (m.isSet callback = true → condition) :=
  iff_of_true ((confined_congr fun memory _ ↦ hquiet memory).mpr confined_quiet) fun hset' ↦
    absurd hset' hset

theorem succ_ne_self (byte : UInt8) : byte + 1 ≠ byte := by
  intro heq
  have hbyte := congrArg UInt8.toNat heq
  rw [UInt8.toNat_add] at hbyte
  have hbound := byte.toNat_lt
  have hone : (1 : UInt8).toNat = 1 := rfl
  omega

theorem settleNodeId_none (sourceNode : UInt16) :
    ∀ call ∈ m.settleNodeId sourceNode, call.command = ([], 0) := by
  intro call hcall
  unfold Module.settleNodeId at hcall
  split_ifs at hcall
  · obtain rfl | hcall := mem_cons.mp hcall
    · rfl
    · rw [mem_singleton.mp hcall]
      rfl
  · rw [mem_singleton.mp hcall]
    rfl
  · exact absurd hcall not_mem_nil

theorem no_calls : ∀ call ∈ ([] : List Call), call.command = ([], 0) :=
  fun _ hcall ↦ absurd hcall not_mem_nil

/-- A branch that drops some frames by their length, or without the callback. -/
theorem confined_ite {condition : Prop} [Decidable condition] {run : (ℤ → UInt8) → Outcome}
    (hrun : ¬ condition → Confined run pData len) :
    Confined (fun memory ↦ if condition then m.quiet else run memory) pData len := by
  split_ifs with hcondition
  · exact confined_quiet
  · exact hrun hcondition

/-- Bytes that are handed on behind the check of their length, which is read from the frame. -/
theorem confined_checked {before : (ℤ → UInt8) → List Call}
    {call : (ℤ → UInt8) → List UInt8 → Call} {i : ℤ}
    (hi : 0 ≤ i) (hlen : 0 ≤ len)
    (hbefore : ∀ other, Agrees len pData other → before other = before pData)
    (hcall : i < len → ∀ other, Agrees len pData other → call other = call pData)
    (hnone : ∀ other ∈ before pData, other.command = ([], 0))
    (hcommand : ∀ bytes, (call pData bytes).command = (bytes, pData i)) :
    Confined (fun memory ↦ m.checked memory len (i + 1) (memory i) (before memory) (call memory))
      pData len :=
  Confined.of_eq
    (fun other hagree ↦ checked_congr hagree hi (hbefore other hagree) fun hlength _ _ ↦
      hcall hlength other hagree)
    (safe_checked (by omega) hlen hnone hcommand)

theorem confined_commandHandler (hlen : idxData < len) :
    Confined (m.commandHandler · len) pData len := by
  have hdata := coe_idxData
  have hwidth := one_le_width (m := m)
  refine confined_ite fun _ ↦ confined_ite fun _ ↦ confined_checked (by omega) (by omega)
    (fun other hagree ↦ ?_) (fun hlength other hagree ↦ ?_) (settleNodeId_none _) fun _ ↦ rfl
  · rw [hagree.nodeId (by omega) (by omega)]
  · rw [hagree.nodeId (by omega) (by omega), hagree idxData (by omega) hlen,
      hagree _ (by omega) hlength]

theorem confined_commandHandlerBridge (hlen : idxData < len) :
    Confined (m.commandHandlerBridge · len) pData len := by
  have hdata := coe_idxData
  have hwidth := one_le_width (m := m)
  refine confined_ite fun _ ↦ confined_ite fun _ ↦ confined_checked (by omega) (by omega)
    (fun _ _ ↦ rfl) (fun hlength other hagree ↦ ?_) no_calls fun _ ↦ rfl
  rw [hagree.nodeId (by omega) (by omega), hagree.nodeId (by omega) (by omega),
    hagree idxData (by omega) hlen, hagree _ (by omega) hlength]

theorem confined_setLearnMode (hlen : idxData < len) :
    Confined (m.setLearnMode · len) pData len := by
  have hdata := coe_idxData
  have hwidth := one_le_width (m := m)
  refine confined_ite fun _ ↦ confined_ite fun _ ↦ confined_checked (by omega) (by omega)
    (fun _ _ ↦ rfl) (fun hlength other hagree ↦ ?_) no_calls fun _ ↦ rfl
  rw [hagree.nodeId (by omega) (by omega), hagree (idxData + 1) (by omega) (by omega),
    hagree _ (by omega) hlength]

theorem confined_nodeInfoUpdate (hlen : idxData < len) :
    Confined (m.nodeInfoUpdate · len) pData len := by
  have hdata := coe_idxData
  have hwidth := one_le_width (m := m)
  refine confined_ite fun _ ↦ confined_checked (by omega) (by omega) (fun _ _ ↦ rfl)
    (fun hlength other hagree ↦ ?_) no_calls fun _ ↦ rfl
  rw [hagree.nodeId (by omega) (by omega), hagree idxData (by omega) hlen,
    hagree _ (by omega) hlength]

theorem confined_includedUpdate (hlen : idxData < len) :
    Confined (m.includedUpdate · len) pData len := by
  have hdata := coe_idxData
  have hwidth := one_le_width (m := m)
  refine Confined.of_eq (fun other hagree ↦ ?_) ?_
  · unfold Module.includedUpdate
    dsimp only
    split_ifs with hshort
    · rfl
    · unfold Module.passing
      rw [hagree.nodeId (by omega) (by omega), hagree idxData (by omega) hlen,
        hagree.slice (by omega) (by have : (5 : UInt8).toNat = 5 := rfl; omega)]
  · unfold Module.includedUpdate
    dsimp only
    split_ifs with hshort
    · exact safe_quiet
    · refine (safe_passing_iff (by omega) ?_ no_calls fun _ ↦ rfl).mpr (by decide)
      have : (5 : UInt8).toNat = 5 := rfl
      omega

/-- An update with the home id is confined when the node information has room. The length is a byte,
so that a sum that does not fit counts as a short one. -/
theorem confined_homeIdUpdate_iff (hlen : idxData < len) :
    Confined (m.homeIdUpdate · len) pData len ↔
      (m.nifStart + (m.nifLength pData).toNat ≤ len → (m.nifLength pData).toNat ≤ bufSize) := by
  have hdata := coe_idxData
  have hcmd : idxCmd = 2 := rfl
  have hwidth := one_le_width (m := m)
  have hstart : m.nifStart = idxData + 1 + (m.width + 1) + 4 + 1 := rfl
  have hreads (other : ℤ → UInt8) (hagree : Agrees len pData other) :
      m.homeIdUpdate other len = m.homeIdUpdate pData len := by
    unfold Module.homeIdUpdate
    by_cases hshort : m.nifStart ≤ len
    · have hlength : m.nifLength other = m.nifLength pData :=
        congrArg (3 + ·) (hagree (m.nifStart - 1) (by omega) (by omega))
      have hhomeId : slice other (idxData + 1 + (m.width + 1)) 4 =
          slice pData (idxData + 1 + (m.width + 1)) 4 :=
        hagree.slice (by omega) (by omega)
      rw [hlength, hagree.nodeId (by omega) (by omega), hagree idxData (by omega) hlen, hhomeId]
      split_ifs with hrunt hdrop
      · rfl
      · rfl
      · unfold Module.passing
        rw [hagree.slice (by omega) (Int.not_lt.mp hdrop)]
    · have hbehind (length : UInt8) : len < m.nifStart + length.toNat := by omega
      rw [if_pos (hbehind _), if_pos (hbehind _)]
  have hsafe : (m.homeIdUpdate pData len).Safe pData len ↔
      (m.nifStart + (m.nifLength pData).toNat ≤ len → (m.nifLength pData).toNat ≤ bufSize) := by
    unfold Module.homeIdUpdate
    split_ifs with hrunt hdrop
    · exact iff_of_true safe_quiet fun hfits ↦ by omega
    · exact iff_of_true safe_quiet fun hfits ↦ absurd hdrop (Int.not_lt.mpr hfits)
    · rw [safe_passing_iff (by omega) (Int.not_lt.mp hdrop) no_calls fun _ ↦ rfl]
      exact ⟨fun hroom _ ↦ hroom, fun hroom ↦ hroom (Int.not_lt.mp hdrop)⟩
  exact ⟨fun hconfined ↦ hsafe.mp hconfined.safe,
    fun hroom ↦ Confined.of_eq hreads (hsafe.mpr hroom)⟩

/-- The branch of the updates. -/
theorem confined_controllerUpdate_iff (hlen : idxData < len) :
    Confined (m.controllerUpdate · len) pData len ↔
      (m.isSet .applicationControllerUpdate = true → IsHomeIdUpdate (pData idxData) →
        m.nifStart + (m.nifLength pData).toNat ≤ len → (m.nifLength pData).toNat ≤ bufSize) := by
  have hstatus (other : ℤ → UInt8) (hagree : Agrees len pData other) :
      other idxData = pData idxData :=
    hagree idxData (by decide) hlen
  by_cases hset : m.isSet .applicationControllerUpdate = true
  · by_cases hhome : IsHomeIdUpdate (pData idxData)
    · rw [forall_prop_of_true hset, forall_prop_of_true hhome, ← confined_homeIdUpdate_iff hlen]
      refine confined_congr fun other hagree ↦ ?_
      unfold Module.controllerUpdate
      rw [if_neg (not_not.mpr hset), if_pos (by rw [hstatus other hagree]; exact hhome)]
    · refine iff_of_true ?_ fun _ hupdate ↦ absurd hupdate hhome
      by_cases hincluded : pData idxData = 0x86
      · refine (confined_congr fun other hagree ↦ ?_).mpr (confined_includedUpdate (m := m) hlen)
        unfold Module.controllerUpdate
        rw [if_neg (not_not.mpr hset), hstatus other hagree, if_neg hhome, if_pos hincluded]
      · refine (confined_congr fun other hagree ↦ ?_).mpr (confined_nodeInfoUpdate (m := m) hlen)
        unfold Module.controllerUpdate
        rw [if_neg (not_not.mpr hset), hstatus other hagree, if_neg hhome, if_neg hincluded]
  · exact confined_unset_iff hset fun _ ↦ if_pos hset

theorem confined_started (hlen : idxData < len) : Confined (m.started · len) pData len := by
  have hdata := coe_idxData
  have hnone :
      ∀ call ∈ (if m.isGecko then [Call.watchdogStart] else []), call.command = ([], 0) := by
    intro call hcall
    split_ifs at hcall
    · rw [mem_singleton.mp hcall]
      rfl
    · exact absurd hcall not_mem_nil
  have hconfined :
      Confined (fun memory ↦ if ¬ m.isSet .serialAPIStarted ∨ len ≤ idxData + 2 then m.quiet
      else m.checked memory len (idxData + 2 + 1) (memory (idxData + 2)) [] fun pCmd ↦
        .serialAPIStarted pCmd (memory (idxData + 2))) pData len := by
    refine confined_ite fun _ ↦ confined_checked (by omega) (by omega) (fun _ _ ↦ rfl)
      (fun hlength other hagree ↦ ?_) no_calls fun _ ↦ rfl
    rw [hagree _ (by omega) hlength]
  refine ⟨fun other hagree ↦ congrArg (· ++ _) (hconfined.reads other hagree), hconfined.safe.1,
    fun call hcall ↦ ?_⟩
  obtain hcall | hcall := mem_append.mp hcall
  · exact hconfined.safe.2 call hcall
  · exact inFrame_of_none (hnone call hcall) (by omega)

/-- The destination that a promiscuous frame is reported with is read from the frame when `byLen`,
which belongs to another frame, is not longer. -/
theorem confined_promiscuousCommandHandler_iff (hlen : idxData < len) :
    Confined (m.promiscuousCommandHandler · len) pData len ↔
      (m.isSet .applicationCommandHandler = true →
        (pData (idxData + 2)).toNat ≤ bufSize → idxData + 3 + ((pData (idxData + 2)).toNat : ℤ) ≤
          len → 1 ≤ m.byLen.toNat ∧ (m.byLen.toNat : ℤ) ≤ len) := by
  have hdata := coe_idxData
  have hsafe : (m.promiscuousCommandHandler pData len).Safe pData len := by
    unfold Module.promiscuousCommandHandler
    split_ifs
    · exact safe_checked (by omega) (by omega) no_calls fun _ ↦ rfl
    · exact safe_quiet
  by_cases hset : m.isSet .applicationCommandHandler = true
  · rw [forall_prop_of_true hset]
    constructor
    · intro hconfined hroom hfits
      -- A memory that differs in the last byte of the other frame only.
      by_contra hbyLen
      have hcalls (memory : ℤ → UInt8) (hlength : memory (idxData + 2) = pData (idxData + 2)) :
          (m.promiscuousCommandHandler memory len).calls =
            [.applicationCommandHandler (memory idxData) (memory ((m.byLen.toNat : ℤ) - 1)).toUInt16
              (memory (idxData + 1)).toUInt16
                (slice memory (idxData + 2 + 1) (pData (idxData + 2)).toNat)
              (pData (idxData + 2))] := by
        unfold Module.promiscuousCommandHandler
        rw [if_neg (not_not.mpr hset), hlength]
        exact calls_checked hroom (by omega)
      have hagree : Agrees len pData
          (update pData ((m.byLen.toNat : ℤ) - 1) (pData ((m.byLen.toNat : ℤ) - 1) + 1)) :=
        fun i hi hlt ↦ update_of_ne (by omega) _ _
      have heq := hconfined.reads _ hagree
      rw [hcalls _ (hagree _ (by omega) (by omega)), hcalls pData rfl, update_self] at heq
      have hdest := (Call.applicationCommandHandler.inj (singleton_inj.mp heq)).2.1
      exact succ_ne_self _ (UInt8.toUInt16_inj.mp hdest)
    · intro hbyLen
      refine Confined.of_eq (fun other hagree ↦ ?_) hsafe
      unfold Module.promiscuousCommandHandler
      rw [if_neg (not_not.mpr hset), if_neg (not_not.mpr hset)]
      refine checked_congr hagree (by omega) rfl fun hlength hroom hfits ↦ ?_
      have hdest := hbyLen hroom (by omega)
      rw [hagree idxData (by omega) hlen, hagree (idxData + 1) (by omega) (by omega),
        hagree (idxData + 2) (by omega) hlength, hagree ((m.byLen.toNat : ℤ) - 1) (by omega)
          (by omega)]
  · exact confined_unset_iff hset fun _ ↦ if_pos hset

/-- A status behind the end is a status that may be another one. -/
theorem confined_statusCallback_iff {callback : Callback} {call : UInt8 → Call}
    (hlen : idxData < len)
    (hcall : Function.Injective call) (hnone : ∀ bStatus, (call bStatus).command = ([], 0)) :
    Confined (m.statusCallback callback call ·) pData len ↔
      (m.isSet callback = true → idxData + 1 < len) := by
  have hdata := coe_idxData
  by_cases hset : m.isSet callback = true
  · rw [forall_prop_of_true hset]
    have heq (memory : ℤ → UInt8) :
        m.statusCallback callback call memory =
          { m.quiet with calls := [call (memory (idxData + 1))] } := if_pos hset
    constructor
    · intro hconfined
      by_contra hshort
      have hagree : Agrees len pData (update pData (idxData + 1) (pData (idxData + 1) + 1)) :=
        fun i hi hlt ↦ update_of_ne (by omega) _ _
      have hcalls := hconfined.reads _ hagree
      rw [heq, heq, update_self] at hcalls
      exact succ_ne_self _ (hcall (singleton_inj.mp hcalls))
    · intro hlong
      refine Confined.of_eq (fun other hagree ↦ ?_) ?_
      · rw [heq, heq, hagree _ (by omega) hlong]
      · rw [heq]
        refine safe_of_none (m := m) rfl (fun other hother ↦ ?_) (by omega)
        rw [mem_singleton.mp hother]
        exact hnone _
  · exact confined_unset_iff hset fun _ ↦ if_neg hset

theorem confined_plainCallback {callback : Callback} (hlen : idxData < len) :
    Confined (fun _ ↦ m.plainCallback callback) pData len := by
  refine Confined.of_eq (fun _ _ ↦ rfl) ?_
  unfold Module.plainCallback
  split_ifs
  · refine safe_of_none (m := m) rfl (fun other hother ↦ ?_) (le_of_lt (lt_trans (by decide) hlen))
    rw [mem_singleton.mp hother]
    rfl
  · exact safe_quiet

/-- Which callbacks are cleared makes no difference. -/
theorem confined_clear_iff {run : (ℤ → UInt8) → Outcome} {callback : Callback} :
    Confined (fun memory ↦ (run memory).clear callback) pData len ↔ Confined run pData len :=
  ⟨fun hconfined ↦ ⟨hconfined.reads, hconfined.safe⟩,
    fun hconfined ↦ ⟨hconfined.reads, hconfined.safe⟩⟩

theorem txStatusReport_congr (hagree : Agrees len pData other) (hlong : 24 ≤ len) :
    m.txStatusReport other len = m.txStatusReport pData len := by
  have hslice : slice other 8 5 = slice pData 8 5 := hagree.slice (by omega) (by omega)
  have hroute : slice other 16 5 = slice pData 16 5 := hagree.slice (by omega) (by omega)
  unfold Module.txStatusReport
  rw [hslice, hroute, hagree 5 (by omega) (by omega), hagree 6 (by omega) (by omega),
    hagree 7 (by omega) (by omega), hagree 13 (by omega) (by omega), hagree 14 (by omega)
      (by omega),
    hagree 15 (by omega) (by omega), hagree 21 (by omega) (by omega), hagree 22 (by omega)
    (by omega), hagree 23 (by omega) (by omega)]
  split_ifs
  · rw [hagree 24 (by omega) (by omega), hagree 25 (by omega) (by omega),
      hagree 26 (by omega) (by omega),
      hagree 27 (by omega) (by omega), hagree 28 (by omega) (by omega)]
  · rfl

/-- The report is read only where it stands in the frame. -/
theorem confined_sendDone_iff {callback : Callback} (hlen : idxData < len) :
    Confined (m.sendDone callback · len) pData len ↔
      (m.isSet callback = true → idxData + 1 < len) := by
  refine confined_clear_iff.trans ?_
  have hstatus : Confined (m.statusCallback callback (fun txStatus ↦
      .ofTxStatus callback txStatus (if 24 ≤ len then some (m.txStatusReport pData len) else none))
        ·) pData len ↔ _ :=
    confined_statusCallback_iff hlen (fun first second heq ↦ (Call.ofTxStatus.inj heq).2.1) fun _ ↦
      rfl
  rw [← hstatus]
  refine confined_congr fun other hagree ↦ ?_
  by_cases hlong : 24 ≤ len
  · rw [if_pos hlong, if_pos hlong, txStatusReport_congr hagree hlong]
  · rw [if_neg hlong, if_neg hlong]

/-- Another status, which is answered with another number of calls, or with another call. -/
theorem confined_learnInfo_iff {callback : Callback} (hlen : idxData < len) :
    Confined (m.learnInfo callback · len) pData len ↔
      (m.isSet callback = true → idxData + 1 < len) := by
  have hdata := coe_idxData
  have hwidth := one_le_width (m := m)
  by_cases hset : m.isSet callback = true
  · rw [forall_prop_of_true hset]
    constructor
    · intro hconfined
      by_contra hshort
      have hcalls (bStatus : UInt8) :
          (m.learnInfo callback (update pData (idxData + 1) bStatus) len).calls =
          if IsAdding bStatus then [] else [.ofLearnInfo callback ⟨bStatus, 0, none, 0⟩] := by
        unfold Module.learnInfo
        rw [if_neg (not_not.mpr hset), update_self]
        by_cases hadding : IsAdding bStatus
        · rw [if_pos hadding, if_pos hadding, if_pos (by omega)]
          rfl
        · rw [if_neg hadding, if_neg hadding]
      have hagree (bStatus : UInt8) : Agrees len pData (update pData (idxData + 1) bStatus) :=
        fun i hi hlt ↦ update_of_ne (by omega) _ _
      have hzero := (hconfined.reads _ (hagree 0)).trans (hconfined.reads _ (hagree 3)).symm
      rw [hcalls, hcalls] at hzero
      exact absurd hzero (by simp [IsAdding])
    · intro hlong
      refine Confined.of_eq (fun other hagree ↦ ?_) ?_
      · unfold Module.learnInfo
        rw [if_neg (not_not.mpr hset), if_neg (not_not.mpr hset),
          hagree (idxData + 1) (by omega) hlong]
        dsimp only
        split_ifs with hadding hshort
        · rfl
        · rw [hagree.nodeId (i := idxData + 2) (by omega) (by omega)]
          refine checked_congr hagree (by omega) rfl fun hlength _ _ ↦ ?_
          rw [hagree (idxData + (2 + m.width)) (by omega) hlength]
        · rfl
      · unfold Module.learnInfo
        dsimp only
        rw [if_neg (not_not.mpr hset)]
        split_ifs
        · exact safe_quiet
        · exact safe_checked (by omega) (by omega) no_calls fun _ ↦ rfl
        · refine safe_of_none (m := m) rfl (fun other hother ↦ ?_) (by omega)
          rw [mem_singleton.mp hother]
          rfl
  · exact confined_unset_iff hset fun _ ↦ if_pos hset

theorem confined_setSlaveLearnMode_iff (hlen : idxData < len) :
    Confined (m.setSlaveLearnMode ·) pData len ↔
      (m.isSet .zwSetSlaveLearnMode = true → idxData + 3 < len) := by
  have hdata := coe_idxData
  by_cases hset : m.isSet .zwSetSlaveLearnMode = true
  · rw [forall_prop_of_true hset]
    have heq (memory : ℤ → UInt8) : m.setSlaveLearnMode memory =
        { m.quiet with
          calls := [.ofNodes .zwSetSlaveLearnMode (memory (idxData + 1))
            (memory (idxData + 2)).toUInt16
            (memory (idxData + 3)).toUInt16] } := if_pos hset
    constructor
    · intro hconfined
      by_contra hshort
      have hagree : Agrees len pData (update pData (idxData + 3) (pData (idxData + 3) + 1)) :=
        fun i hi hlt ↦ update_of_ne (by omega) _ _
      have hcalls := hconfined.reads _ hagree
      rw [heq, heq, update_self] at hcalls
      have hnew := (Call.ofNodes.inj (singleton_inj.mp hcalls)).2.2.2
      exact succ_ne_self _ (UInt8.toUInt16_inj.mp hnew)
    · intro hlong
      refine Confined.of_eq (fun other hagree ↦ ?_) ?_
      · rw [heq, heq, hagree _ (by omega) hlong, hagree (idxData + 1) (by omega) (by omega),
          hagree (idxData + 2) (by omega) (by omega)]
      · rw [heq]
        refine safe_of_none (m := m) rfl (fun other hother ↦ ?_) (by omega)
        rw [mem_singleton.mp hother]
        rfl
  · exact confined_unset_iff hset fun _ ↦ if_neg hset

end Handlers

/-! ### All requests -/

section Requests

variable (m : Module) (pData : ℤ → UInt8)

/-- The callback that gets the status behind the function id, with no regard to the end of the
frame. -/
def FuncId.statusCallback : FuncId → Option Callback
  | zwSendNodeInformation => some .zwSendNodeInformation
  | zwSendDataBridge => some .zwSendDataBridge
  | zwSendData => some .zwSendData
  | zwSendTestFrame => some .zwSendTestFrame
  | zwSendDataMultiBridge => some .zwSendDataMultiBridge
  | zwControllerChange => some .zwControllerChange
  | zwCreateNewPrimary => some .zwNewController
  | zwRemoveNodeFromNetwork => some .removeNodeFromNetwork
  | zwAddNodeToNetwork => some .addNodeToNetwork
  | zwReplicationSendData => some .zwReplicationSendData
  | zwAssignReturnRoute => some .zwAssignReturnRoute
  | zwDeleteReturnRoute => some .zwDeleteReturnRoute
  | zwAssignSucReturnRoute => some .zwAssignSUCReturnRoute
  | zwSendSucId => some .zwSendSUCID
  | zwDeleteSucReturnRoute => some .zwDeleteSUCReturnRoute
  | zwSetSucNodeId => some .zwSetSUCNodeID
  | zwRequestNodeNeighborUpdate => some .zwRequestNodeNodeNeighborUpdate
  | zwRequestNetworkUpdate => some .zwRequestNetworkUpdate
  | zwRemoveFailedNodeId => some .zwRemoveFailedNode
  | zwReplaceFailedNode => some .zwReplaceFailedNode
  | _ => none

/-- What a frame has to be like for its branch to keep to it: an update with a home id brings no
more node information than there is room for, the length of the other frame, by which a promiscuous
one is looked at, is not zero and not longer, and a frame whose status is handed on has one. -/
def Module.Fits (len : ℤ) : FuncId → Prop
  | .zwApplicationControllerUpdate =>
    m.isSet .applicationControllerUpdate = true → IsHomeIdUpdate (pData idxData) →
      m.nifStart + (m.nifLength pData).toNat ≤ len → (m.nifLength pData).toNat ≤ bufSize
  | .promiscuousApplicationCommandHandler =>
    m.isSet .applicationCommandHandler = true → (pData (idxData + 2)).toNat ≤ bufSize →
      idxData + 3 + ((pData (idxData + 2)).toNat : ℤ) ≤ len → 1 ≤ m.byLen.toNat ∧
        (m.byLen.toNat : ℤ) ≤ len
  | .zwSetSlaveLearnMode => m.isSet .zwSetSlaveLearnMode = true → idxData + 3 < len
  | funcId => funcId.statusCallback.any m.isSet = true → idxData + 1 < len

variable {m pData} {len : ℤ}

theorem confined_handle_iff (hlen : idxData < len) (funcId : FuncId) :
    Confined (m.handle · len funcId) pData len ↔ m.Fits pData len funcId := by
  have hstatus {callback : Callback} :
      Confined (m.statusCallback callback (.ofStatus callback) ·) pData len ↔
        (m.isSet callback = true → idxData + 1 < len) :=
    confined_statusCallback_iff hlen (fun _ _ heq ↦ (Call.ofStatus.inj heq).2) fun _ ↦ rfl
  have hunread {run : (ℤ → UInt8) → Outcome} (hconfined : Confined run pData len) :
      Confined run pData len ↔ (false = true → idxData + 1 < len) :=
    iff_of_true hconfined fun hfalse ↦ absurd hfalse Bool.false_ne_true
  cases funcId with
  | zwApplicationControllerUpdate => exact confined_controllerUpdate_iff hlen
  | applicationCommandHandler => exact hunread (confined_commandHandler hlen)
  | promiscuousApplicationCommandHandler => exact confined_promiscuousCommandHandler_iff hlen
  | applicationCommandHandlerBridge => exact hunread (confined_commandHandlerBridge hlen)
  | zwSendDataBridge => exact confined_sendDone_iff hlen
  | zwSendData => exact confined_sendDone_iff hlen
  | zwSendTestFrame => exact confined_clear_iff.trans hstatus
  | memoryPutBuffer => exact hunread (confined_plainCallback hlen)
  | zwSetDefault => exact hunread (confined_plainCallback hlen)
  | zwControllerChange => exact confined_learnInfo_iff hlen
  | zwCreateNewPrimary => exact confined_learnInfo_iff hlen
  | zwRemoveNodeFromNetwork => exact confined_learnInfo_iff hlen
  | zwAddNodeToNetwork => exact confined_learnInfo_iff hlen
  | zwSendSucId =>
    exact confined_statusCallback_iff hlen (fun _ _ heq ↦ (Call.ofTxStatus.inj heq).2.1) fun _ ↦ rfl
  | zwSetLearnMode => exact hunread (confined_setLearnMode hlen)
  | zwSetSlaveLearnMode => exact confined_setSlaveLearnMode_iff hlen
  | serialapiStarted => exact hunread (confined_started hlen)
  | _ => exact hstatus

/-- A request is confined to its frame exactly when the branch of its function id is. -/
theorem dispatch_confined_iff (m : Module) (pData : ℤ → UInt8) (len : UInt16) :
    Confined (dispatch m · len) pData len.toNat ↔
      ∀ funcId, idxData < len.toNat → pData idxType ≠ 1 → FuncId.ofByte
        (pData idxCmd) = some funcId → m.Fits pData len.toNat funcId := by
  by_cases hrunt : len.toNat ≤ idxData
  · refine iff_of_true ((confined_congr fun other _ ↦ ?_).mpr (confined_quiet (m := m)))
      fun _ hlen ↦ absurd hrunt (Nat.not_le.mpr hlen)
    exact if_pos hrunt
  · have hlen : (idxData : ℤ) < len.toNat := Int.ofNat_lt.mpr (Nat.lt_of_not_le hrunt)
    have hdata := coe_idxData
    have htype (other : ℤ → UInt8) (hagree : Agrees len.toNat pData other) :
        other idxType = pData idxType :=
      hagree idxType (by decide) (by unfold idxType; omega)
    have hcmd (other : ℤ → UInt8) (hagree : Agrees len.toNat pData other) :
        other idxCmd = pData idxCmd :=
      hagree idxCmd (by decide) (by unfold idxCmd; omega)
    by_cases hresponse : pData idxType = 1
    · refine iff_of_true ((confined_congr fun other hagree ↦ ?_).mpr (confined_quiet (m := m)))
        fun _ _ hrequest ↦ absurd hresponse hrequest
      unfold dispatch
      rw [if_neg hrunt, htype other hagree, if_pos hresponse]
    · cases hfunc : FuncId.ofByte (pData idxCmd) with
      | none =>
        refine iff_of_true ((confined_congr fun other hagree ↦ ?_).mpr (confined_quiet (m := m)))
          fun funcId _ _ hsome ↦ absurd hsome.symm (Option.some_ne_none funcId)
        unfold dispatch
        rw [if_neg hrunt, htype other hagree, if_neg hresponse, hcmd other hagree, hfunc]
      | some funcId =>
        have hhandle : Confined (dispatch m · len) pData len.toNat ↔
            m.Fits pData len.toNat funcId := by
          refine (confined_congr fun other hagree ↦ ?_).trans (confined_handle_iff hlen funcId)
          unfold dispatch
          rw [if_neg hrunt, htype other hagree, if_neg hresponse, hcmd other hagree, hfunc]
        rw [hhandle]
        constructor
        · intro hfits other _ _ heq
          rw [← Option.some.inj heq]
          exact hfits
        · intro hfits
          exact hfits funcId (Nat.lt_of_not_le hrunt) hresponse rfl

/-- A module with one callback, for a node information that is sent. -/
def oneCallback : Module where
  isSet callback := callback == .zwSendNodeInformation
  lrEnabled := false
  byLen := 0
  pCmd := fun _ ↦ 0
  isNodeidBasetype8 := false
  isGecko := false
  stack := ⟨0, 0, [], 0, 0, 0, [], 0, 0, 0, 0, 0, 0, 0, 0⟩

/-- The status of a frame with four bytes is the byte behind it. -/
theorem dispatch_confined_fail :
    ¬ ∀ (m : Module) (pData : ℤ → UInt8) (len : UInt16), Confined
      (dispatch m · len) pData len.toNat := by
  intro hconfined
  have hcalls := (hconfined oneCallback (fun i ↦ if i = idxCmd then 0x12 else 0) 4).reads
    (fun i ↦ if i = idxCmd then 0x12 else if i < 4 then 0 else 1) fun i _ hlt ↦ by
      dsimp only
      rw [if_pos (show i < 4 from hlt)]
  exact absurd hcalls (by decide)

end Requests

end ZipGateway.SerialApi.Dispatch
