import ZipGateway.Lib.Reading

/-!
# The S2 wrapper: when delivery is verified

`sec2_send_data` of `src/src/transport/S2_wrap.c` asks libs2 to verify the delivery of a frame when
the sender or the mailbox wants it, or when the frame is a Get, is a Get for an endpoint, or has a
Get in it. `is_get_in_multi_cmd` looks for the last of these in frames of any class, and it is not
told how long the frame is. The frame lies at the beginning of a memory; what lies behind it is not
the sender's.
-/

set_option autoImplicit false

namespace ZipGateway.S2Wrap.VerifyDelivery

open List ZipGateway.Lib ZipGateway.Lib.Reading

def s2TxoptionVerifyDelivery : UInt8 := 1

def commandClassMultiChannelV4 : UInt8 := 0x60

def multiChannelCmdEncapV2 : UInt8 := 0x0D

/-- An inner command that the scan looks at: where it begins, and its length as the frame has it. -/
structure InnerCommand where
  start : ℕ
  size : ℕ
deriving DecidableEq, Repr

/-- The class, the command and all announced bytes are among the first `n`. -/
def InnerCommand.Inside (n : ℕ) (command : InnerCommand) : Prop :=
  command.start + max 2 command.size ≤ n

/-- The result of the scan, and the inner commands it has looked at. -/
structure Scan where
  found : Bool
  commands : List InnerCommand
deriving DecidableEq, Repr

/-- What `sec2_send_data` knows from elsewhere. -/
structure Flags where
  /-- `p->force_verify_delivery`. -/
  forceVerifyDelivery : Bool
  /-- `mb_is_busy()`. -/
  mbIsBusy : Bool

/-- A frame of at least two bytes. -/
structure Frame where
  bytes : List UInt8
  two : 2 ≤ bytes.length

section Source

-- `isGet` is `CommandAnalyzerIsGet`, whose table is made by the build.
variable (isGet : UInt8 → UInt8 → Bool) (len : ℕ)

/-- The loop of `is_get_in_multi_cmd`, for `noCmd` commands of which the first one begins at
`off`. -/
def isGetInMultiCmdFrom : ℕ → ℕ → Reading Scan
  | 0, _ => pure ⟨false, []⟩
  | noCmd + 1, off => do
    let size ← byte len (off - 1)
    let cmdClass ← byte len off
    let cmd ← byte len (off + 1)
    if isGet cmdClass cmd = true then
      pure ⟨true, [⟨off, size.toNat⟩]⟩
    else do
      let rest ← isGetInMultiCmdFrom noCmd (off + 1 + size.toNat)
      pure ⟨rest.found, ⟨off, size.toNat⟩ :: rest.commands⟩

/-- `is_get_in_multi_cmd`. -/
def isGetInMultiCmd : Reading Scan := do
  let noCmd ← byte len 2
  isGetInMultiCmdFrom isGet len noCmd.toNat 4

/-- The part of the condition of `sec2_send_data` that comes before the scan. -/
def verifiesAtOnce (flags : Flags) : Reading Bool :=
  if flags.forceVerifyDelivery = true ∨ flags.mbIsBusy = true then pure true
  else do
    let cmdClass ← byte len 0
    let cmd ← byte len 1
    if isGet cmdClass cmd = true then pure true
    else if cmdClass = commandClassMultiChannelV4 ∧ cmd = multiChannelCmdEncapV2 then do
      let innerClass ← byte len 4
      let innerCmd ← byte len 5
      pure (isGet innerClass innerCmd)
    else pure false

/-- `s2_con.tx_options` as `sec2_send_data` chooses it. -/
def txOptions (flags : Flags) : Reading UInt8 := do
  if (← verifiesAtOnce isGet len flags) = true then pure s2TxoptionVerifyDelivery
  else do
    let scan ← isGetInMultiCmd isGet len
    pure (if scan.found = true then s2TxoptionVerifyDelivery else 0)

end Source

namespace Frame

variable (isGet : UInt8 → UInt8 → Bool) (flags : Flags) (frame : Frame)

/-- A byte of the frame. -/
def byteAt (i : ℕ) : UInt8 := frame.bytes.getD i 0

/-- The memory begins with the frame. -/
def Holds (memory : ℕ → UInt8) : Prop := ∀ i < frame.bytes.length, memory i = frame.byteAt i

/-- Memories that begin with the frame lead to the same choice. -/
def Determines : Prop :=
  ∀ memory other, frame.Holds memory → frame.Holds other →
    (txOptions isGet frame.bytes.length flags).value memory =
      (txOptions isGet frame.bytes.length flags).value other

/-- Whenever the scan is made, it reads bytes of the frame only and looks at commands inside the
frame only. -/
def ScanInside : Prop :=
  ∀ memory, frame.Holds memory →
    (verifiesAtOnce isGet frame.bytes.length flags).value memory = false →
    (isGetInMultiCmd isGet frame.bytes.length).Confines memory frame.bytes.length ∧
    ∀ command ∈ ((isGetInMultiCmd isGet frame.bytes.length).value memory).commands,
      command.Inside frame.bytes.length

end Frame

/-- The bytes begin with `noCmd` complete commands, each behind its length, or with some up to a
Get. -/
def HoldsCommands (isGet : UInt8 → UInt8 → Bool) : ℕ → List UInt8 → Prop
  | 0, _ => True
  | _ + 1, [] => False
  | noCmd + 1, size :: rest =>
    max 2 size.toNat ≤ rest.length ∧
    (isGet (rest.getD 0 0) (rest.getD 1 0) = false →
      HoldsCommands isGet noCmd (rest.drop size.toNat))

namespace Frame

variable (isGet : UInt8 → UInt8 → Bool) (flags : Flags) (frame : Frame)

/-- The frame is encapsulated for an endpoint. -/
def IsEncap : Prop :=
  frame.byteAt 0 = commandClassMultiChannelV4 ∧ frame.byteAt 1 = multiChannelCmdEncapV2

/-- The class and the command may stand at the fifth and the sixth byte: they are those of the
frame, as far as the frame reaches. -/
def Completes (cmdClass cmd : UInt8) : Prop :=
  (4 < frame.bytes.length → cmdClass = frame.byteAt 4) ∧
    (5 < frame.bytes.length → cmd = frame.byteAt 5)

/-- The choice is made without the frame or with its first two bytes. -/
def Early : Prop :=
  flags.forceVerifyDelivery = true ∨ flags.mbIsBusy = true ∨
    isGet (frame.byteAt 0) (frame.byteAt 1) = true

/-- The frame is encapsulated for an endpoint and has a Get in it, whatever is behind the frame. -/
def EncapsulatesGet : Prop :=
  frame.IsEncap ∧ ∀ cmdClass cmd, frame.Completes cmdClass cmd → isGet cmdClass cmd = true

/-- If the frame is encapsulated for an endpoint, then it has no Get in it, whatever is behind the
frame. -/
def EncapsulatesNoGet : Prop :=
  frame.IsEncap → ∀ cmdClass cmd, frame.Completes cmdClass cmd → isGet cmdClass cmd = false

/-- The third byte is in the frame, and as many complete commands as it says come after it, or some
up to a Get. -/
def HasInnerCommands : Prop :=
  2 < frame.bytes.length ∧ HoldsCommands isGet (frame.byteAt 2).toNat (frame.bytes.drop 3)

end Frame

/-! ### The scan -/

section Scan

variable {isGet : UInt8 → UInt8 → Bool} {frame : Frame} {memory : ℕ → UInt8}

/-- The loop stays inside the frame when the commands are there. -/
theorem scanFrom_inside_iff (hholds : frame.Holds memory) {noCmd off : ℕ} (hoff : 1 ≤ off) :
    ((isGetInMultiCmdFrom isGet frame.bytes.length noCmd off).Confines memory frame.bytes.length ∧
      ∀ command ∈ ((isGetInMultiCmdFrom isGet frame.bytes.length noCmd off).value memory).commands,
        command.Inside frame.bytes.length) ↔
      HoldsCommands isGet noCmd (frame.bytes.drop (off - 1)) := by
  induction noCmd generalizing off with
  | zero => simp [isGetInMultiCmdFrom, HoldsCommands]
  | succ noCmd ih =>
    by_cases hsize : off - 1 < frame.bytes.length
    swap
    · rw [drop_eq_nil_of_le (by omega)]
      simp [isGetInMultiCmdFrom, HoldsCommands, hsize]
    have hsizeByte : memory (off - 1) = frame.bytes[off - 1] := by
      rw [hholds _ hsize, Frame.byteAt, getD_eq_getElem?_getD, List.getElem?_eq_getElem hsize]
      rfl
    have hgetD : ∀ i, (frame.bytes.drop off).getD i 0 = frame.byteAt (off + i) := by
      intro i
      simp [Frame.byteAt, getD_eq_getElem?_getD]
    rw [drop_eq_getElem_cons hsize, show off - 1 + 1 = off by omega, HoldsCommands, hgetD, hgetD,
      Nat.add_zero, drop_drop, length_drop, isGetInMultiCmdFrom]
    by_cases hheader : off + 1 < frame.bytes.length
    swap
    · simp only [confines_bind, confines_byte]
      constructor
      · rintro ⟨⟨-, -, hcmd, -⟩, -⟩
        exact absurd hcmd hheader
      · rintro ⟨hcommand, -⟩
        omega
    have hclass : memory off = frame.byteAt off := hholds off (by omega)
    have hcmd : memory (off + 1) = frame.byteAt (off + 1) := hholds (off + 1) hheader
    simp only [confines_bind, confines_byte, value_bind, value_byte, hsizeByte, hclass, hcmd]
    cases hget : isGet (frame.byteAt off) (frame.byteAt (off + 1)) with
    | true =>
      simp only [if_true, confines_pure, value_pure, forall_mem_singleton, InnerCommand.Inside,
        Bool.true_eq_false, false_implies, and_true]
      omega
    | false =>
      have hnext := @ih (off + 1 + frame.bytes[off - 1].toNat) (by omega)
      rw [show off + 1 + frame.bytes[off - 1].toNat - 1 = off +
        frame.bytes[off - 1].toNat by omega] at hnext
      simp only [Bool.false_eq_true, if_false, confines_bind, value_bind, confines_pure, and_true,
        value_pure, forall_mem_cons, InnerCommand.Inside, forall_const, ← hnext]
      constructor
      · rintro ⟨⟨-, -, -, hconfines⟩, hinside, hcommands⟩
        exact ⟨by omega, hconfines, hcommands⟩
      · rintro ⟨hinside, hconfines, hcommands⟩
        exact ⟨⟨hsize, by omega, hheader, hconfines⟩, by omega, hcommands⟩

/-- The scan stays inside the frame when its inner commands are there. -/
theorem scan_inside_iff (hholds : frame.Holds memory) :
    ((isGetInMultiCmd isGet frame.bytes.length).Confines memory frame.bytes.length ∧
      ∀ command ∈ ((isGetInMultiCmd isGet frame.bytes.length).value memory).commands,
        command.Inside frame.bytes.length) ↔ frame.HasInnerCommands isGet := by
  unfold isGetInMultiCmd Frame.HasInnerCommands
  by_cases hcount : 2 < frame.bytes.length
  swap
  · simp only [confines_bind, confines_byte, hcount, false_and]
  have hnoCmd : memory 2 = frame.byteAt 2 := hholds 2 hcount
  have hloop := @scanFrom_inside_iff isGet frame memory hholds (frame.byteAt 2).toNat 4 (by omega)
  simp only [confines_bind, confines_byte, value_bind, value_byte, hnoCmd, hcount, true_and]
  exact hloop

/-- A Get that is found inside the frame takes six bytes. -/
theorem length_of_found
    (hconfines : (isGetInMultiCmd isGet frame.bytes.length).Confines memory frame.bytes.length)
    (hfound : ((isGetInMultiCmd isGet frame.bytes.length).value memory).found = true) :
    6 ≤ frame.bytes.length := by
  unfold isGetInMultiCmd at hconfines hfound
  simp only [confines_bind, value_bind, value_byte] at hconfines hfound
  cases hcount : (memory 2).toNat with
  | zero =>
    rw [hcount] at hfound
    cases hfound
  | succ noCmd =>
    have hloop := hconfines.2
    rw [hcount, isGetInMultiCmdFrom] at hloop
    simp only [confines_bind, confines_byte] at hloop
    exact hloop.2.2.1

/-- Memories that begin with a frame that has its inner commands lead to the same scan. -/
theorem scan_congr {other : ℕ → UInt8} (hinner : frame.HasInnerCommands isGet)
    (hholds : frame.Holds memory) (hother : frame.Holds other) :
    (isGetInMultiCmd isGet frame.bytes.length).value other =
      (isGetInMultiCmd isGet frame.bytes.length).value memory :=
  congrArg Prod.fst (run_congr ((scan_inside_iff hholds).mpr hinner).1 fun i hi ↦
    (hholds i hi).trans (hother i hi).symm)

end Scan

/-! ### What comes before the scan -/

section Choice

variable {isGet : UInt8 → UInt8 → Bool} {flags : Flags} {frame : Frame} {memory : ℕ → UInt8}

theorem verifiesAtOnce_iff (hholds : frame.Holds memory) :
    (verifiesAtOnce isGet frame.bytes.length flags).value memory = true ↔
      frame.Early isGet flags ∨ frame.IsEncap ∧ isGet (memory 4) (memory 5) = true := by
  have hclass : memory 0 = frame.byteAt 0 := hholds 0 (by have := frame.two; omega)
  have hcmd : memory 1 = frame.byteAt 1 := hholds 1 frame.two
  unfold verifiesAtOnce Frame.Early Frame.IsEncap
  by_cases hflags : flags.forceVerifyDelivery = true ∨ flags.mbIsBusy = true
  · rw [if_pos hflags, value_pure]
    tauto
  rw [if_neg hflags]
  simp only [value_bind, value_byte, hclass, hcmd]
  by_cases hget : isGet (frame.byteAt 0) (frame.byteAt 1) = true
  · rw [if_pos hget, value_pure]
    tauto
  rw [if_neg hget]
  by_cases hencap : frame.byteAt 0 = commandClassMultiChannelV4 ∧
    frame.byteAt 1 = multiChannelCmdEncapV2
  · rw [if_pos hencap]
    simp only [value_bind, value_byte, value_pure]
    tauto
  · rw [if_neg hencap, value_pure]
    constructor
    · intro hfalse
      cases hfalse
    · tauto

/-- The choice is the one for a frame that is to be verified, when it is. -/
theorem txOptions_eq (memory : ℕ → UInt8) :
    (txOptions isGet frame.bytes.length flags).value memory =
      if (verifiesAtOnce isGet frame.bytes.length flags).value memory = true ∨
        ((isGetInMultiCmd isGet frame.bytes.length).value memory).found = true
      then s2TxoptionVerifyDelivery else 0 := by
  unfold txOptions
  rw [value_bind]
  cases (verifiesAtOnce isGet frame.bytes.length flags).value memory with
  | true => simp
  | false => simp

/-- Two memories lead to different choices when one is verified and the other one is not. -/
theorem txOptions_eq_iff (memory other : ℕ → UInt8) :
    (txOptions isGet frame.bytes.length flags).value memory =
        (txOptions isGet frame.bytes.length flags).value other ↔
      ((verifiesAtOnce isGet frame.bytes.length flags).value memory = true ∨
          ((isGetInMultiCmd isGet frame.bytes.length).value memory).found = true ↔
        (verifiesAtOnce isGet frame.bytes.length flags).value other = true ∨
          ((isGetInMultiCmd isGet frame.bytes.length).value other).found = true) := by
  rw [txOptions_eq, txOptions_eq]
  split_ifs with hfirst hsecond hsecond
  · exact iff_of_true rfl (iff_of_true hfirst hsecond)
  · exact iff_of_false (by decide) fun hsame ↦ hsecond (hsame.mp hfirst)
  · exact iff_of_false (by decide) fun hsame ↦ hfirst (hsame.mpr hsecond)
  · exact iff_of_true rfl (iff_of_false hfirst hsecond)

/-- What stands at the fifth and the sixth place behind the beginning of a frame completes it. -/
theorem completes_of_holds (hholds : frame.Holds memory) : frame.Completes (memory 4) (memory 5) :=
  ⟨hholds 4, hholds 5⟩

/-- Every completion stands in some memory behind the frame. -/
theorem exists_memory {cmdClass cmd : UInt8} (hcompletes : frame.Completes cmdClass cmd) :
    ∃ memory, frame.Holds memory ∧ memory 4 = cmdClass ∧ memory 5 = cmd := by
  obtain ⟨hclass, hcmd⟩ := hcompletes
  refine ⟨fun i ↦ if i < frame.bytes.length then frame.byteAt i
    else if i = 4 then cmdClass else cmd,
    fun i hi ↦ if_pos hi, ?_, ?_⟩
  · by_cases hin : 4 < frame.bytes.length
    · exact (if_pos hin).trans (hclass hin).symm
    · exact (if_neg hin).trans (if_pos rfl)
  · by_cases hin : 5 < frame.bytes.length
    · exact (if_pos hin).trans (hcmd hin).symm
    · exact (if_neg hin).trans (if_neg (by decide))

/-- A frame of six bytes has one completion. -/
theorem completes_unique {cmdClass cmd otherClass other : UInt8} (hlength : 6 ≤ frame.bytes.length)
    (hfirst : frame.Completes cmdClass cmd) (hsecond : frame.Completes otherClass other) :
    cmdClass = otherClass ∧ cmd = other :=
  ⟨(hfirst.1 (by omega)).trans (hsecond.1 (by omega)).symm,
    (hfirst.2 hlength).trans (hsecond.2 hlength).symm⟩

end Choice

/-! ### Frames for which the choice is sound -/

section Sound

variable (isGet : UInt8 → UInt8 → Bool) (flags : Flags) (frame : Frame)

/-- The choice depends on the frame only, and the scan stays inside of it, exactly when the choice
is made early, or an encapsulated Get is found in any case, or when in no case one is found and the
inner commands are there. -/
theorem determines_and_scanInside_iff :
    frame.Determines isGet flags ∧ frame.ScanInside isGet flags ↔
      frame.Early isGet flags ∨ frame.EncapsulatesGet isGet ∨
        frame.EncapsulatesNoGet isGet ∧ frame.HasInnerCommands isGet := by
  by_cases hearly : frame.Early isGet flags
  · have hat : ∀ memory, frame.Holds memory →
        (verifiesAtOnce isGet frame.bytes.length flags).value memory = true :=
      fun memory hholds ↦ (verifiesAtOnce_iff hholds).mpr (.inl hearly)
    refine iff_of_true ⟨fun memory other hholds hother ↦ ?_, fun memory hholds hlate ↦ ?_⟩
      (.inl hearly)
    · exact (txOptions_eq_iff memory other).mpr
        (iff_of_true (.inl (hat memory hholds)) (.inl (hat other hother)))
    · rw [hat memory hholds] at hlate
      cases hlate
  have hat : ∀ memory, frame.Holds memory →
      ((verifiesAtOnce isGet frame.bytes.length flags).value memory = true ↔
        frame.IsEncap ∧ isGet (memory 4) (memory 5) = true) :=
    fun memory hholds ↦ (verifiesAtOnce_iff hholds).trans (or_iff_right hearly)
  rw [or_iff_right hearly]
  constructor
  · rintro ⟨hdetermines, hinside⟩
    by_cases hgets : frame.EncapsulatesGet isGet
    · exact .inl hgets
    -- Some completion is no Get: there the scan is made, and the inner commands have to be there.
    obtain ⟨memory, hholds, hlate⟩ : ∃ memory, frame.Holds memory ∧
        (verifiesAtOnce isGet frame.bytes.length flags).value memory = false := by
      unfold Frame.EncapsulatesGet at hgets
      rcases Classical.not_and_iff_not_or_not.mp hgets with hother | hnone
      · obtain ⟨memory, hholds, -⟩ := @exists_memory frame (frame.byteAt 4) (frame.byteAt 5)
          ⟨fun _ ↦ rfl, fun _ ↦ rfl⟩
        exact ⟨memory, hholds, Bool.eq_false_iff.mpr fun hverifies ↦
          hother ((hat memory hholds).mp hverifies).1⟩
      · push Not at hnone
        obtain ⟨cmdClass, cmd, hcompletes, hget⟩ := hnone
        obtain ⟨memory, hholds, rfl, rfl⟩ := exists_memory hcompletes
        exact ⟨memory, hholds, Bool.eq_false_iff.mpr fun hverifies ↦
          hget ((hat memory hholds).mp hverifies).2⟩
    have hscan := hinside memory hholds hlate
    have hinner := (scan_inside_iff hholds).mp hscan
    refine .inr ⟨fun hencap cmdClass cmd hcompletes ↦ ?_, hinner⟩
    -- A completion that is a Get would be verified, so the scan finds a Get, and the completion is
    -- unique.
    by_contra hget
    rw [Bool.not_eq_false] at hget
    obtain ⟨other, hother, hclass, hcmd⟩ := exists_memory hcompletes
    have hverified := (hat other hother).mpr ⟨hencap, hclass ▸ hcmd ▸ hget⟩
    have hsame := (txOptions_eq_iff memory other).mp (hdetermines memory other hholds hother)
    have hfound :=
      (hsame.mpr (.inl hverified)).resolve_left (by rw [hlate]; exact Bool.false_ne_true)
    have hunique :=
      completes_unique (length_of_found hscan.1 hfound) hcompletes (completes_of_holds hholds)
    rw [hunique.1, hunique.2] at hget
    rw [(hat memory hholds).mpr ⟨hencap, hget⟩] at hlate
    cases hlate
  · rintro (⟨hencap, hgets⟩ | ⟨hnone, hinner⟩)
    · have hverified : ∀ memory, frame.Holds memory →
          (verifiesAtOnce isGet frame.bytes.length flags).value memory = true :=
        fun memory hholds ↦ (hat memory hholds).mpr ⟨hencap, hgets _ _ (completes_of_holds hholds)⟩
      refine ⟨fun memory other hholds hother ↦ ?_, fun memory hholds hlate ↦ ?_⟩
      · exact (txOptions_eq_iff memory other).mpr
          (iff_of_true (.inl (hverified memory hholds)) (.inl (hverified other hother)))
      · rw [hverified memory hholds] at hlate
        cases hlate
    · have hlate : ∀ memory, frame.Holds memory →
          ¬ (verifiesAtOnce isGet frame.bytes.length flags).value memory = true := by
        intro memory hholds hverified
        obtain ⟨hencap, hget⟩ := (hat memory hholds).mp hverified
        rw [hnone hencap _ _ (completes_of_holds hholds)] at hget
        cases hget
      refine ⟨fun memory other hholds hother ↦ ?_,
        fun memory hholds _ ↦ (scan_inside_iff hholds).mpr hinner⟩
      rw [txOptions_eq_iff, or_iff_right (hlate memory hholds), or_iff_right (hlate other hother),
        scan_congr hinner hholds hother]

end Sound

/-- A binary switch is turned on. Its value is taken for a number of commands, and what is behind
the frame decides. -/
theorem determines_and_scanInside_fail :
    ¬ ∀ (isGet : UInt8 → UInt8 → Bool) (flags : Flags) (frame : Frame),
      frame.Determines isGet flags ∧ frame.ScanInside isGet flags := by
  intro hsound
  let frame : Frame := ⟨[0x25, 0x01, 0xFF], by decide⟩
  let isGet : UInt8 → UInt8 → Bool := fun cmdClass cmd ↦ cmdClass == 0x20 && cmd == 0x02
  let before : ℕ → UInt8 := fun i ↦ [0x25, 0x01, 0xFF].getD i 0
  let after : ℕ → UInt8 := fun i ↦ [0x25, 0x01, 0xFF, 0x02, 0x20, 0x02].getD i 0
  have hbefore : ∀ i < 3, before i = frame.byteAt i := by decide
  have hafter : ∀ i < 3, after i = frame.byteAt i := by decide
  have hsame := (hsound isGet ⟨false, false⟩ frame).1 before after hbefore hafter
  have hdiffer : (txOptions isGet 3 ⟨false, false⟩).value before ≠
      (txOptions isGet 3 ⟨false, false⟩).value after := by
    decide +kernel
  exact hdiffer hsame

end ZipGateway.S2Wrap.VerifyDelivery
