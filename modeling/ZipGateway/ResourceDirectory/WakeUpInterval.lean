import ZipGateway.ResourceDirectory.Model

/-!
# The choice of a wake up interval

A sleeping node reports the shortest and the longest wake up interval it supports and the step
between two of them. `rd_cap_wake_up_callback` in `src/src/ResourceDirectory.c` chooses the interval
that the gateway sets then. It rounds the default down to a multiple of the step; below the minimum
it adds the remainder that it has taken off. `wakeUpInterval_iff` says for which reports the
interval is one that the node supports.
-/

set_option autoImplicit false

namespace ZipGateway.ResourceDirectory

def defaultWakeUpInterval : UInt32 := 70 * 60

/-- Three bytes of a frame as a number of seconds. -/
def seconds (cmd : ℕ → UInt8) (i : ℕ) : UInt32 :=
  (cmd i).toUInt32 <<< 16 ||| (cmd (i + 1)).toUInt32 <<< 8 ||| (cmd (i + 2)).toUInt32

/-- `minimumWakeUpIntervalSeconds` of a Wake Up Interval Capabilities Report. -/
def minInterval (cmd : ℕ → UInt8) : UInt32 := seconds cmd 2

/-- `maximumWakeUpIntervalSeconds`. -/
def maxInterval (cmd : ℕ → UInt8) : UInt32 := seconds cmd 5

/-- `wakeUpIntervalStepSeconds`, behind the default interval of the node. -/
def intervalStep (cmd : ℕ → UInt8) : UInt32 := seconds cmd 11

/-- The remainder in C: nothing when the divisor is 0. -/
def remainder (a b : UInt32) : Option UInt32 := if b = 0 then none else some (a % b)

/-- The fields of a `rd_node_database_entry_t` that the callback sets. -/
structure WakeUpEntry where
  state : NodeState
  wakeUpInterval : UInt32
deriving DecidableEq, Repr

/-- The interval that is left in an entry, or nothing where the function divides by zero. -/
def chooseInterval (min max step interval : UInt32) : Option UInt32 :=
  if min < defaultWakeUpInterval ∧ defaultWakeUpInterval < max then
    match remainder defaultWakeUpInterval step with
    | none => none
    | some r =>
      if defaultWakeUpInterval - r < min then some (defaultWakeUpInterval + r)
      else some (defaultWakeUpInterval - r)
  else if defaultWakeUpInterval < min then some min
  else if max < defaultWakeUpInterval then some max
  else some interval

/-- `rd_cap_wake_up_callback`, up to the next step of the interview. -/
def rdCapWakeUpCallback (transmitOk : Bool) (cmd : ℕ → UInt8) (e : WakeUpEntry) :
    Option WakeUpEntry :=
  if transmitOk then
    (chooseInterval (minInterval cmd) (maxInterval cmd) (intervalStep cmd) e.wakeUpInterval).map
      fun interval ↦ ⟨.setWakeUpInterval, interval⟩
  else some { e with state := .assignReturnRoute }

/-! ### What is supported -/

/-- An interval that a node with these capabilities supports, or its own maximum, minimum, or the
default. -/
structure Supported (min max step interval : ℕ) : Prop where
  lower : min ≤ interval
  upper : interval ≤ max
  fits : step ∣ interval ∨ interval = min ∨ interval = max ∨ interval = defaultWakeUpInterval.toNat

/-- The callback chooses an interval for an entry with the default interval, and a supported one
when the report has one. -/
def ChoosesSupported (cmd : ℕ → UInt8) (state : NodeState) : Prop :=
  ∃ e, rdCapWakeUpCallback true cmd ⟨state, defaultWakeUpInterval⟩ = some e ∧
    ((minInterval cmd).toNat ≤ (maxInterval cmd).toNat →
      Supported (minInterval cmd).toNat (maxInterval cmd).toNat
        (intervalStep cmd).toNat e.wakeUpInterval.toNat)

/-- The default lies outside the range or on its border; or there is a step, and either a multiple
of it stands between the minimum and the default, or what the default leaves over is half a step, or
reaches the maximum. -/
def StepFits (min max step : ℕ) : Prop :=
  min < 4200 → 4200 < max → 0 < step ∧
    ((∃ k, min ≤ k * step ∧ k * step ≤ 4200) ∨
      (4200 + 4200 % step ≤ max ∧ (2 * (4200 % step) = step ∨ 4200 + 4200 % step = max)))

@[simp] theorem defaultWakeUpInterval_toNat : defaultWakeUpInterval.toNat = 4200 := rfl

theorem remainder_eq_none_iff (a b : UInt32) : remainder a b = none ↔ b.toNat = 0 := by
  simp only [remainder]
  split
  · next h => simp [h]
  · next h => simpa using fun hb ↦ h (UInt32.toNat_inj.mp hb)

/-- There is a multiple of the step between two numbers when the largest one that is not above the
second reaches the first. -/
theorem exists_multiple_iff (min d step : ℕ) :
    (∃ k, min ≤ k * step ∧ k * step ≤ d) ↔ min ≤ d - d % step := by
  constructor
  · rintro ⟨k, hmin, hd⟩
    rcases Nat.eq_zero_or_pos step with rfl | hstep
    · simp only [Nat.mul_zero] at hmin
      omega
    have hk : k ≤ d / step := (Nat.le_div_iff_mul_le hstep).mpr hd
    have hle : k * step ≤ d / step * step := Nat.mul_le_mul_right step hk
    have hdiv := Nat.div_add_mod' d step
    omega
  · intro h
    have hdiv := Nat.div_add_mod' d step
    exact ⟨d / step, by omega, by omega⟩

/-- The remainder on top of a number makes a multiple of the step when it is nothing, or half a
step. -/
theorem dvd_add_mod_iff (d step : ℕ) (hstep : 0 < step) :
    step ∣ d + d % step ↔ 2 * (d % step) = step ∨ d % step = 0 := by
  have hlt := Nat.mod_lt d hstep
  have hsum : d + d % step = step * (d / step) + 2 * (d % step) := by
    have hdiv := Nat.div_add_mod d step
    omega
  rw [hsum, Nat.dvd_add_right (Nat.dvd_mul_right step _)]
  constructor
  · rintro ⟨k, hk⟩
    have hk2 : k < 2 := by
      by_contra hge
      have := Nat.mul_le_mul_left step (Nat.le_of_not_lt hge)
      omega
    interval_cases k <;> omega
  · rintro (h | h)
    · exact ⟨1, by omega⟩
    · exact ⟨0, by omega⟩

/-- The two roundings, as numbers. -/
theorem rounded_toNat {step r : UInt32} (h : remainder defaultWakeUpInterval step = some r) :
    0 < step.toNat ∧ r.toNat = 4200 % step.toNat ∧
      (defaultWakeUpInterval - r).toNat = 4200 - 4200 % step.toNat ∧
      (defaultWakeUpInterval + r).toNat = 4200 + 4200 % step.toNat := by
  have hstep : step ≠ 0 := by
    rintro rfl
    simp [remainder] at h
  have hr : defaultWakeUpInterval % step = r := by simpa [remainder, hstep] using h
  have hpos : 0 < step.toNat := Nat.pos_of_ne_zero fun h0 ↦ hstep (UInt32.toNat_inj.mp h0)
  have hnat : r.toNat = 4200 %
    step.toNat := by rw [← hr, UInt32.toNat_mod, defaultWakeUpInterval_toNat]
  have hle : 4200 % step.toNat ≤ 4200 := Nat.mod_le _ _
  refine ⟨hpos, hnat, ?_, ?_⟩
  · rw [UInt32.toNat_sub_of_le _ _ (by rw [UInt32.le_iff_toNat_le]; simp; omega), hnat,
      defaultWakeUpInterval_toNat]
  · rw [UInt32.toNat_add, hnat, defaultWakeUpInterval_toNat, Nat.mod_eq_of_lt (by omega)]

/-- Inside the range: what is chosen is supported when the step fits. -/
theorem supported_rounded_iff (min max step : ℕ) (hmin : min < 4200) (hmax : 4200 < max)
    (hstep : 0 < step) : Supported min max step
        (if 4200 - 4200 % step < min then 4200 + 4200 % step else 4200 - 4200 % step) ↔
      StepFits min max step := by
  have hfit : StepFits min max step ↔ min ≤ 4200 - 4200 % step ∨
      (4200 + 4200 % step ≤ max ∧ (2 * (4200 % step) = step ∨ 4200 + 4200 % step = max)) := by
    simp only [StepFits, hmin, hmax, hstep, true_and, forall_const, exists_multiple_iff]
  rw [hfit]
  split
  · next hlow =>
    have hne : 4200 % step ≠ 0 := by omega
    constructor
    · rintro ⟨-, hupper, hfits⟩
      refine .inr ⟨hupper, ?_⟩
      rcases hfits with h | h | h | h
      · exact .inl (((dvd_add_mod_iff 4200 step hstep).mp h).resolve_right hne)
      · omega
      · exact .inr h
      · simp only [defaultWakeUpInterval_toNat] at h
        omega
    · rintro (h | ⟨hupper, h⟩)
      · omega
      · refine ⟨by omega, hupper, ?_⟩
        rcases h with h | h
        · exact .inl ((dvd_add_mod_iff 4200 step hstep).mpr (.inl h))
        · exact .inr (.inr (.inl h))
  · next hlow =>
      exact ⟨fun _ ↦ .inl (by omega), fun _ ↦ ⟨by omega, by omega, .inl (Nat.dvd_sub_mod 4200)⟩⟩

/-- The callback chooses a supported interval exactly for the reports whose step fits. -/
theorem wakeUpInterval_iff (cmd : ℕ → UInt8) (state : NodeState) :
    ChoosesSupported cmd state ↔
      StepFits (minInterval cmd).toNat (maxInterval cmd).toNat (intervalStep cmd).toNat := by
  simp only [ChoosesSupported, rdCapWakeUpCallback, if_true, Option.map_eq_some_iff]
  generalize minInterval cmd = min, maxInterval cmd = max, intervalStep cmd = step
  simp only [chooseInterval, UInt32.lt_iff_toNat_lt, defaultWakeUpInterval_toNat]
  split
  · next h =>
    split
    · next hnone =>
      have hzero := (remainder_eq_none_iff _ _).mp hnone
      simpa [StepFits, h.1, h.2] using fun h0 ↦ absurd hzero (Nat.ne_of_gt h0)
    · next r hr =>
      obtain ⟨hpos, -, hsub, hadd⟩ := rounded_toNat hr
      rw [← supported_rounded_iff _ _ _ h.1 h.2 hpos]
      have hle : min.toNat ≤ max.toNat := by omega
      by_cases hlow : 4200 - 4200 % step.toNat < min.toNat
      · simp [hsub, hlow, hle, hadd]
      · simp [hsub, hlow, hle]
  · next h =>
    have hfits : StepFits min.toNat max.toNat step.toNat := fun h1 h2 ↦ absurd ⟨h1, h2⟩ h
    refine iff_of_true ?_ hfits
    split
    · next hmin => exact ⟨_, ⟨_, rfl, rfl⟩, fun hle ↦ ⟨le_refl _, hle, .inr (.inl rfl)⟩⟩
    · next hmin =>
      split
      · next hmax => exact ⟨_, ⟨_, rfl, rfl⟩, fun hle ↦ ⟨hle, le_refl _, .inr (.inr (.inl rfl))⟩⟩
      · next hmax =>
        exact ⟨_, ⟨_, rfl, rfl⟩, fun _ ↦ ⟨by simp; omega, by simp; omega, .inr (.inr (.inr rfl))⟩⟩

def reportWithoutStep : ℕ → UInt8 := fun i ↦ if i = 4 then 60 else if i = 5 then 1 else 0

theorem wakeUpInterval_fail : ¬ ∀ cmd state, ChoosesSupported cmd state := by
  intro h
  obtain ⟨e, he, -⟩ := h reportWithoutStep .getWuCap
  have hnone : rdCapWakeUpCallback true reportWithoutStep ⟨.getWuCap, defaultWakeUpInterval⟩ =
    none := by decide
  simp [hnone] at he

end ZipGateway.ResourceDirectory
