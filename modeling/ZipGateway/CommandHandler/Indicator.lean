import Mathlib.Tactic
import ZipGateway.CommandHandler.Model
import ZipGateway.Lib.Run

/-!
# The indicator

The model of `src/src/CC_Indicator.c`: the three values of the node identify indicator, the frames
that set and get them, and the timer that sets them back when the indicator has blinked often
enough. The script that blinks is known by the arguments of its last call. `indicator_iff` says when
the timer of a run always has the right duration; all else that is asked of the indicator holds in
every run.
-/

set_option autoImplicit false

namespace ZipGateway.CommandHandler.Indicator

open List ZipGateway.Lib

/-! ### Sets -/

/-- The values of the indicator: `g_on_off_period_length`, `g_on_off_num_cycles` and `g_on_time`. -/
structure Values where
  period : UInt8
  cycles : UInt8
  onTime : UInt8

/-- The arguments of `CallExternalBlinker`. -/
structure Blinker where
  onTimeMs : UInt32
  offTimeMs : UInt32
  numCycles : UInt32

/-- The values, the last call of the script, and what `g_indicator_timer` was set to. -/
structure State where
  values : Values
  blinker : Blinker
  timer : Option UInt32

/-- `UpdateIndicator`. The product with `CLOCK_SECOND` has 32 bits. -/
def updateIndicator (v : Values) : State :=
  let blinks := decide (0 < v.period ∧ 0 < v.cycles)
  let counts := blinks && v.cycles != 0xFF
  let periodMs := UInt32.ofNat (v.period.toNat * 100)
  let onTimeMs := if !blinks then 0 else if v.onTime = 0 then periodMs / 2
    else UInt32.ofNat (v.onTime.toNat * 100)
  let totalDurationMs := if counts then UInt32.ofNat (v.period.toNat * v.cycles.toNat * 100) else 0
  { values := v
    blinker :=
      { onTimeMs
        offTimeMs := if blinks then periodMs - onTimeMs else 0
        numCycles := if counts then v.cycles.toUInt32 else 0 }
    timer := if totalDurationMs ≠ 0 then some (totalDurationMs * 1000 / 1000) else none }

/-- `SetIndicator0Value`. -/
def indicator0Values (value : UInt8) : Values := if value = 0 then ⟨0, 0, 0⟩ else ⟨0xFF, 0xFF, 0xFF⟩

/-- `IndicatorHandler_Set_V1`, for the value of the frame. -/
def setV1 (value : UInt8) (s : State) : State × Code :=
  if value < 0x64 ∨ value = 0xFF then (updateIndicator (indicator0Values value), .commandHandled)
  else (s, .commandParseError)

/-- `VG_INDICATOR_SET_V3_VG`. -/
structure Object where
  indicatorId : UInt8
  propertyId : UInt8
  value : UInt8

def nodeIdentify : UInt8 := 0x50
def onOffPeriod : UInt8 := 0x03
def onOffCycles : UInt8 := 0x04
def onTimeProperty : UInt8 := 0x05

/-- The first objects in some bytes. -/
def objects : ℕ → List UInt8 → List Object
  | n + 1, indicatorId :: propertyId :: value :: rest =>
    ⟨indicatorId, propertyId, value⟩ :: objects n rest
  | _, _ => []

/-- What was received until now; a value that was not modified is missing. -/
structure Received where
  period : Option UInt8
  cycles : Option UInt8
  onTime : Option UInt8
  error : Bool

/-- The body of the loop over the objects. -/
def receive (r : Received) (o : Object) : Received :=
  if o.indicatorId = nodeIdentify then
    if o.propertyId = onOffPeriod then { r with period := some o.value }
    else if o.propertyId = onOffCycles then { r with cycles := some o.value }
    else if o.propertyId = onTimeProperty then { r with onTime := some o.value }
    else { r with error := true }
  else { r with error := true }

/-- What is stored when both of the required values were received: an on-time that is too long is
ignored. -/
def storeValues (period cycles : UInt8) (onTime : Option UInt8) : Values :=
  ⟨period, cycles, if onTime.getD 0 > period then 0 else onTime.getD 0⟩

/-- `IndicatorHandler_Set_V3`, for a frame without the two bytes of its command. -/
def setV3 (frame : List UInt8) (s : State) : State × Code :=
  match frame with
  | value :: properties1 :: bytes =>
    let count := (properties1 &&& 0x1F).toNat
    if bytes.length < 3 * count then (s, .commandParseError)
    else if count = 0 then setV1 value s
    else
      let r := (objects count bytes).foldl receive ⟨none, none, none, false⟩
      match r.period, r.cycles with
      | some period, some cycles =>
        (updateIndicator (storeValues period cycles r.onTime),
          if r.error || decide (r.onTime.getD 0 > period) then .commandParseError
            else .commandHandled)
      | _, _ => (s, .commandParseError)
  | _ => (s, .commandParseError)

/-! ### Frames and events -/

/-- `GetIndicator0Value`. -/
def getIndicator0Value (v : Values) : UInt8 := if 0 < v.period ∧ 0 < v.cycles then 0xFF else 0

/-- `ZW_INDICATOR_REPORT_3BYTE_V3_FRAME`, as it is sent for some values. -/
def report (v : Values) : List UInt8 :=
  [0x87, 0x03, getIndicator0Value v, 3, nodeIdentify, onOffPeriod, v.period, nodeIdentify,
    onOffCycles, v.cycles, nodeIdentify, onTimeProperty, v.onTime]

def indicatorSet : UInt8 := 0x01
def indicatorGet : UInt8 := 0x02
def indicatorSupportedGet : UInt8 := 0x04

/-- What a frame does: the state after it, the result of the handler, and the frame that is sent
back. -/
structure Outcome where
  state : State
  code : Code
  reply : Option (List UInt8)

/-- `IndicatorHandler`. `multicast` is the result of `IsZwaveMulticast`. -/
def indicatorHandler (multicast : Bool) (frame : List UInt8) (s : State) : Outcome :=
  match frame with
  | _ :: cmd :: rest =>
    if cmd = indicatorSet then
      let (state, code) := if let [value] := rest then setV1 value s else setV3 rest s
      ⟨state, code, none⟩
    else if cmd = indicatorGet then
      if multicast then ⟨s, .commandHandled, none⟩
      else
        match rest with
        | [] => ⟨s, .commandHandled, some [0x87, 0x03, getIndicator0Value s.values]⟩
        | indicatorId :: _ =>
          ⟨s, .commandHandled, some (if indicatorId = nodeIdentify then report s.values
            else [0x87, 0x03, getIndicator0Value s.values, 1, 0, 0, 0])⟩
    else if cmd = indicatorSupportedGet then
      if multicast then ⟨s, .commandHandled, none⟩
      else
        match rest with
        | [] => ⟨s, .commandParseError, none⟩
        | indicatorId :: _ =>
          ⟨s, .commandHandled, some (if indicatorId = nodeIdentify ∨ indicatorId = 0
            then [0x87, 0x05, nodeIdentify, 0, 1, 0x38] else [0x87, 0x05, 0, 0, 0])⟩
    else ⟨s, .commandNotSupported, none⟩
  | _ => ⟨s, .commandNotSupported, none⟩

/-- The static variables at power-up, and after `IndicatorDefaultSet`. `IndicatorHandler_Init`,
which turns the blinker off at power-up, keeps the values. -/
def start : State := ⟨⟨0, 0, 0⟩, ⟨0, 0, 0⟩, none⟩

/-- A frame arrives, the gateway is reset, or the timer expires when it is armed. -/
inductive Event
  | frame (multicast : Bool) (bytes : List UInt8)
  | reset
  | expire

def step (s : State) : Event → State
  | .frame multicast bytes => (indicatorHandler multicast bytes s).state
  | .reset => start
  | .expire => if s.timer.isSome then { s with values := ⟨0, 0, 0⟩, timer := none } else s

/-! ### What it is for -/

/-- The last value of a property of the indicator in some objects. -/
def lastValue (propertyId : UInt8) (list : List Object) : Option UInt8 :=
  ((list.filter fun o ↦ o.indicatorId = nodeIdentify ∧ o.propertyId = propertyId).getLast?).map
    Object.value

/-- The values that version 1 of the command sets. -/
def onOffValues (value : UInt8) : Option Values :=
  if value < 0x64 ∨ value = 0xFF then some (indicator0Values value) else none

/-- The values that a frame sets, without the two bytes of its command. There are none in a frame
that is too short, or has objects but not both of the required properties. -/
def sentValues (frame : List UInt8) : Option Values :=
  match frame with
  | [value] => onOffValues value
  | value :: properties1 :: bytes =>
    let count := (properties1 &&& 0x1F).toNat
    if bytes.length < 3 * count then none
    else if count = 0 then onOffValues value
    else
      match lastValue onOffPeriod (objects count bytes), lastValue onOffCycles
        (objects count bytes) with
      | some period, some cycles =>
        some ⟨period, cycles, (lastValue onTimeProperty (objects count bytes)).getD 0⟩
      | _, _ => none
  | [] => none

/-- Nothing happens to the values: the frame is no Set, or a Set that has none. -/
def Quiet : Event → Prop
  | .frame _ (_ :: cmd :: frame) => cmd = indicatorSet → sentValues frame = none
  | .frame _ _ => True
  | .reset => False
  | .expire => False

/-- The on-time is not longer than the period, so that the time off does not wrap, and the timer is
armed when the blinks are counted. -/
structure Sound (s : State) : Prop where
  onTime : s.values.onTime ≤ s.values.period
  offTime : s.blinker.onTimeMs.toNat + s.blinker.offTimeMs.toNat ≤ 25500
  armed : s.timer.isSome = true ↔ s.values.period ≠ 0 ∧ s.values.cycles ≠ 0 ∧ s.values.cycles ≠ 0xFF

/-- A timer that is armed has the duration of all blinks. -/
def Timed (s : State) : Prop :=
  ∀ ticks, s.timer = some ticks → ticks.toNat = s.values.period.toNat * s.values.cycles.toNat * 100

/-- What is asked of the indicator in a run. -/
structure Indicates (events : List Event) : Prop where
  sound : Sound (run step start events)
  timed : ∀ way, way <+: events → Timed (run step start way)
  rejected : ∀ multicast cmdClass frame, sentValues frame = none →
    step (run step start events) (.frame multicast (cmdClass :: indicatorSet :: frame)) =
      run step start events
  accepted : ∀ multicast cmdClass frame later,
    (indicatorHandler multicast (cmdClass :: indicatorSet :: frame) (run step start events)).code =
      .commandHandled →
    (∀ e ∈ later, Quiet e) → ∃ v, sentValues frame = some v ∧ ∀ getClass more,
      (indicatorHandler false (getClass :: indicatorGet :: nodeIdentify :: more)
        (run step start
          (events ++ .frame multicast (cmdClass :: indicatorSet :: frame) :: later))).reply =
          some (report v)
  expired : ∀ later, (run step start events).timer.isSome = true → (∀ e ∈ later, Quiet e) →
    ∀ getClass more, (indicatorHandler false (getClass :: indicatorGet :: nodeIdentify :: more)
      (run step start (events ++ .expire :: later))).reply = some (report ⟨0, 0, 0⟩)

/-- The duration of all blinks of a Set, in microseconds, fits in 32 bits, or the blinks are not
counted. -/
def InTime : Event → Prop
  | .frame _ (_ :: cmd :: frame) => cmd = indicatorSet → ∀ v, sentValues frame = some v →
    v.cycles = 0xFF ∨ v.period.toNat * v.cycles.toNat * 100000 < 4294967296
  | _ => True

/-! ### One update -/

section Update

variable {v : Values}

theorem toNat_lt_of_byte (a b : UInt8) : a.toNat * b.toNat * 100 < 4294967296 := by
  have ha := a.toNat_lt
  have hb := b.toNat_lt
  have hmul : a.toNat * b.toNat ≤ 255 * 255 := Nat.mul_le_mul (by omega) (by omega)
  omega

/-- The timer is armed when the blinks are counted, for their duration modulo 32 bits. -/
theorem timer_updateIndicator (v : Values) : (updateIndicator v).timer =
    if v.period ≠ 0 ∧ v.cycles ≠ 0 ∧ v.cycles ≠ 0xFF then
      some (UInt32.ofNat (v.period.toNat * v.cycles.toNat * 100) * 1000 / 1000) else none := by
  have hpos (c : UInt8) : 0 < c ↔ c ≠ 0 := UInt8.pos_iff_ne_zero
  by_cases hcounts : v.period ≠ 0 ∧ v.cycles ≠ 0 ∧ v.cycles ≠ 0xFF
  · obtain ⟨hperiod, hcycles, hforever⟩ := hcounts
    have hzero : UInt32.ofNat (v.period.toNat * v.cycles.toNat * 100) ≠ 0 := by
      intro h
      have hnat := congrArg UInt32.toNat h
      rw [UInt32.toNat_ofNat', Nat.mod_eq_of_lt (toNat_lt_of_byte _ _)] at hnat
      have hp : v.period.toNat ≠ 0 := fun h ↦ hperiod (UInt8.toNat_inj.mp h)
      have hc : v.cycles.toNat ≠ 0 := fun h ↦ hcycles (UInt8.toNat_inj.mp h)
      exact absurd hnat (by positivity)
    have hcount : (decide (0 < v.period ∧ 0 < v.cycles) && v.cycles != 0xFF) = true := by
      simp [hpos, hperiod, hcycles, hforever]
    unfold updateIndicator
    simp only [hcount, if_true]
    rw [if_pos hzero, if_pos ⟨hperiod, hcycles, hforever⟩]
  · have hnot : (decide (0 < v.period ∧ 0 < v.cycles) && v.cycles != 0xFF) = false := by
      simp only [hpos]
      by_cases hperiod : v.period = 0 <;> by_cases hcycles : v.cycles = 0 <;>
        by_cases hforever : v.cycles = 0xFF <;> simp_all
    rw [if_neg hcounts]
    unfold updateIndicator
    simp only [hnot]
    rfl

theorem armed_updateIndicator (v : Values) : (updateIndicator v).timer.isSome = true ↔
    v.period ≠ 0 ∧ v.cycles ≠ 0 ∧ v.cycles ≠ 0xFF := by
  rw [timer_updateIndicator]
  split_ifs with hcounts
  · exact iff_of_true rfl hcounts
  · exact iff_of_false (by simp) hcounts

/-- The duration of the timer is right when the product with the ticks of a second fits. -/
theorem timed_updateIndicator_iff (v : Values) : Timed (updateIndicator v) ↔
    v.cycles = 0xFF ∨ v.period.toNat * v.cycles.toNat * 100000 < 4294967296 := by
  unfold Timed
  rw [timer_updateIndicator]
  have hsmall := toNat_lt_of_byte v.period v.cycles
  have hticks : (UInt32.ofNat (v.period.toNat * v.cycles.toNat * 100) * 1000 / 1000).toNat =
      v.period.toNat * v.cycles.toNat * 100 * 1000 % 4294967296 / 1000 := by
    rw [UInt32.toNat_div, UInt32.toNat_mul, UInt32.toNat_ofNat', Nat.mod_eq_of_lt hsmall]
    rfl
  split_ifs with hcounts
  · have hright : (∀ ticks,
      some (UInt32.ofNat (v.period.toNat * v.cycles.toNat * 100) * 1000 / 1000) = some ticks →
        ticks.toNat = v.period.toNat * v.cycles.toNat * 100) ↔
        v.period.toNat * v.cycles.toNat * 100 * 1000 % 4294967296 / 1000 =
          v.period.toNat * v.cycles.toNat * 100 := by
      rw [← hticks]
      exact ⟨fun h ↦ h _ rfl, fun h ticks hsome ↦ Option.some.inj hsome ▸ h⟩
    refine hright.trans ?_
    simp only [hcounts.2.2, false_or]
    omega
  · refine iff_of_true nofun ?_
    by_cases hforever : v.cycles = 0xFF
    · exact Or.inl hforever
    · refine Or.inr ?_
      have hzero : v.period.toNat * v.cycles.toNat = 0 := by
        by_cases hperiod : v.period = 0
        · rw [hperiod]
          exact Nat.zero_mul _
        · have hcycles : v.cycles = 0 := by
            by_contra hcycles
            exact hcounts ⟨hperiod, hcycles, hforever⟩
          rw [hcycles]
          exact Nat.mul_zero _
      rw [hzero]
      decide

/-- The times of the script add up to the period. -/
theorem offTime_updateIndicator (hle : v.onTime ≤ v.period) :
    (updateIndicator v).blinker.onTimeMs.toNat + (updateIndicator v).blinker.offTimeMs.toNat ≤
      25500 := by
  have hperiod := v.period.toNat_lt
  have honTime : v.onTime.toNat ≤ v.period.toNat := UInt8.le_iff_toNat_le.mp hle
  have hperiodMs : (UInt32.ofNat (v.period.toNat * 100)).toNat = v.period.toNat * 100 := by
    rw [UInt32.toNat_ofNat', Nat.mod_eq_of_lt (by omega)]
  have hadd (onTimeMs : UInt32) (h : onTimeMs.toNat ≤ v.period.toNat * 100) :
      onTimeMs.toNat + (UInt32.ofNat (v.period.toNat * 100) - onTimeMs).toNat ≤ 25500 := by
    rw [UInt32.toNat_sub_of_le _ _ (UInt32.le_iff_toNat_le.mpr (h.trans_eq hperiodMs.symm)),
      hperiodMs]
    omega
  unfold updateIndicator
  cases decide (0 < v.period ∧ 0 < v.cycles) with
  | false =>
    show (0 : UInt32).toNat + (0 : UInt32).toNat ≤ 25500
    decide
  | true =>
    simp only [Bool.not_true, Bool.false_eq_true, if_false, if_true]
    split_ifs
    · refine hadd _ ?_
      rw [UInt32.toNat_div, hperiodMs]
      exact Nat.div_le_self _ _
    · refine hadd _ ?_
      rw [UInt32.toNat_ofNat', Nat.mod_eq_of_lt (by omega)]
      omega

theorem sound_updateIndicator (hle : v.onTime ≤ v.period) : Sound (updateIndicator v) :=
  ⟨hle, offTime_updateIndicator hle, armed_updateIndicator v⟩

end Update

/-! ### One frame -/

section Frame

theorem lastValue_concat (propertyId : UInt8) (list : List Object) (o : Object) :
    lastValue propertyId (list ++ [o]) =
      if o.indicatorId = nodeIdentify ∧ o.propertyId = propertyId then some o.value
      else lastValue propertyId list := by
  unfold lastValue
  rw [filter_append]
  split_ifs with h
  · have hlast :
        [o].filter (fun o ↦ o.indicatorId = nodeIdentify ∧ o.propertyId = propertyId) = [o] :=
      filter_cons_of_pos (decide_eq_true h)
    rw [hlast, List.getLast?_concat, Option.map_some]
  · have hlast :
        [o].filter (fun o ↦ o.indicatorId = nodeIdentify ∧ o.propertyId = propertyId) = [] :=
      filter_cons_of_neg (by simpa using h)
    rw [hlast, append_nil]

/-- An object changes its own value only. -/
theorem receive_eq (r : Received) (o : Object) :
    (receive r o).period = (if o.indicatorId = nodeIdentify ∧
      o.propertyId = onOffPeriod then some o.value else r.period) ∧
      (receive r o).cycles = (if o.indicatorId = nodeIdentify ∧
        o.propertyId = onOffCycles then some o.value else r.cycles) ∧
      (receive r o).onTime = (if o.indicatorId = nodeIdentify ∧
        o.propertyId = onTimeProperty then some o.value else r.onTime) := by
  unfold receive
  by_cases hidentify : o.indicatorId = nodeIdentify
  · by_cases hperiod : o.propertyId = onOffPeriod
    · simp [hidentify, hperiod, onOffPeriod, onOffCycles, onTimeProperty]
    · by_cases hcycles : o.propertyId = onOffCycles
      · simp [hidentify, hcycles, onOffPeriod, onOffCycles, onTimeProperty]
      · by_cases honTime : o.propertyId = onTimeProperty
        · simp [hidentify, honTime, onOffPeriod, onOffCycles, onTimeProperty]
        · simp [hidentify, hperiod, hcycles, honTime]
  · simp [hidentify]

/-- The loop over the objects finds the last values. -/
theorem receive_foldl (list : List Object) :
    (list.foldl receive ⟨none, none, none, false⟩).period = lastValue onOffPeriod list ∧
      (list.foldl receive ⟨none, none, none, false⟩).cycles = lastValue onOffCycles list ∧
      (list.foldl receive ⟨none, none, none, false⟩).onTime = lastValue onTimeProperty list := by
  induction list using List.reverseRecOn with
  | nil => exact ⟨rfl, rfl, rfl⟩
  | append_singleton list o ih =>
    obtain ⟨hperiod, hcycles, honTime⟩ := ih
    obtain ⟨hfirst, hsecond, hthird⟩ := receive_eq (list.foldl receive ⟨none, none, none, false⟩) o
    rw [foldl_concat, hfirst, hsecond, hthird, hperiod, hcycles, honTime]
    exact ⟨(lastValue_concat _ _ _).symm, (lastValue_concat _ _ _).symm,
      (lastValue_concat _ _ _).symm⟩

/-- The values of a Set as they are stored. -/
def stored (v : Values) : Values := storeValues v.period v.cycles (some v.onTime)

theorem stored_le (v : Values) : (stored v).onTime ≤ (stored v).period := by
  show (if v.onTime > v.period then 0 else v.onTime) ≤ v.period
  split_ifs with hlong
  · exact UInt8.zero_le
  · exact UInt8.not_lt.mp hlong

theorem stored_of_le {v : Values} (hle : v.onTime ≤ v.period) : stored v = v := by
  have honTime : (if v.onTime > v.period then 0 else v.onTime) = v.onTime :=
    if_neg (UInt8.not_lt.mpr hle)
  show Values.mk v.period v.cycles (if v.onTime > v.period then 0 else v.onTime) = v
  rw [honTime]

/-- What a Set does that has values, and what one does that has none. -/
structure Sets (sent : Option Values) (s : State) (result : State × Code) : Prop where
  none : sent = none → result.1 = s ∧ result.2 ≠ .commandHandled
  some : ∀ v, sent = some v → result.1 = updateIndicator (stored v) ∧
    (result.2 = .commandHandled → v.onTime ≤ v.period)

theorem sets_setV1 (value : UInt8) (s : State) : Sets (onOffValues value) s (setV1 value s) := by
  have hstored : stored (indicator0Values value) = indicator0Values value ∧
      (indicator0Values value).onTime ≤ (indicator0Values value).period := by
    unfold indicator0Values
    split_ifs
    · exact ⟨rfl, by decide⟩
    · exact ⟨rfl, by decide⟩
  unfold onOffValues setV1
  split_ifs
  · refine ⟨nofun, fun v hv ↦ ?_⟩
    obtain rfl := Option.some.inj hv
    exact ⟨by rw [hstored.1], fun _ ↦ hstored.2⟩
  · exact ⟨fun _ ↦ ⟨rfl, nofun⟩, nofun⟩

theorem sets_setV3 (value properties1 : UInt8) (bytes : List UInt8) (s : State) :
    Sets (sentValues (value :: properties1 :: bytes)) s
      (setV3 (value :: properties1 :: bytes) s) := by
  unfold sentValues setV3
  obtain ⟨hperiod, hcycles, honTime⟩ := receive_foldl (objects (properties1 &&& 0x1F).toNat bytes)
  simp only [hperiod, hcycles, honTime]
  split_ifs with hshort hcount
  · exact ⟨fun _ ↦ ⟨rfl, nofun⟩, nofun⟩
  · exact sets_setV1 value s
  · cases lastValue onOffPeriod (objects (properties1 &&& 0x1F).toNat bytes) with
    | none => exact ⟨fun _ ↦ ⟨rfl, nofun⟩, nofun⟩
    | some period =>
      cases lastValue onOffCycles (objects (properties1 &&& 0x1F).toNat bytes) with
      | none => exact ⟨fun _ ↦ ⟨rfl, nofun⟩, nofun⟩
      | some cycles =>
        refine ⟨nofun, fun v hv ↦ ?_⟩
        obtain rfl := Option.some.inj hv
        refine ⟨rfl, fun hhandled ↦ UInt8.not_lt.mp fun hlong ↦ ?_⟩
        dsimp only at hhandled
        split_ifs at hhandled with herror
        exact herror (Bool.or_eq_true_iff.mpr (Or.inr (decide_eq_true hlong)))

/-- A Set stores its values and updates the indicator; without values it does nothing. -/
theorem sets_indicatorHandler (multicast : Bool) (cmdClass : UInt8) (frame : List UInt8)
    (s : State) :
    Sets (sentValues frame) s
      ((indicatorHandler multicast (cmdClass :: indicatorSet :: frame) s).state,
      (indicatorHandler multicast (cmdClass :: indicatorSet :: frame) s).code) := by
  match frame with
  | [] => exact ⟨fun _ ↦ ⟨rfl, nofun⟩, nofun⟩
  | [value] => exact sets_setV1 value s
  | value :: properties1 :: bytes => exact sets_setV3 value properties1 bytes s

/-- No other frame changes the state. -/
theorem state_of_ne {cmd : UInt8} (hcmd : cmd ≠ indicatorSet) (multicast : Bool) (cmdClass : UInt8)
    (frame : List UInt8) (s : State) :
      (indicatorHandler multicast (cmdClass :: cmd :: frame) s).state = s := by
  unfold indicatorHandler
  simp only [if_neg hcmd]
  cases multicast <;> cases frame <;> simp only [Bool.false_eq_true, if_true, if_false] <;>
    split_ifs <;> rfl

end Frame

/-! ### Runs -/

section Run

variable {events later : List Event}

theorem step_of_quiet {e : Event} (hquiet : Quiet e) (s : State) : step s e = s := by
  match e with
  | .frame multicast (cmdClass :: cmd :: frame) =>
    by_cases hcmd : cmd = indicatorSet
    · subst hcmd
      exact ((sets_indicatorHandler multicast cmdClass frame s).none (hquiet rfl)).1
    · exact state_of_ne hcmd multicast cmdClass frame s
  | .frame _ [] => rfl
  | .frame _ [_] => rfl

theorem run_of_quiet (hquiet : ∀ e ∈ later, Quiet e) (s : State) : run step s later = s := by
  induction later generalizing s with
  | nil => rfl
  | cons e rest ih =>
    rw [run_cons, step_of_quiet (hquiet e mem_cons_self),
      ih fun e he ↦ hquiet e (mem_cons_of_mem _ he)]

/-- Every step keeps the state, sets it back, or updates it with the values of a Set. -/
theorem step_cases (s : State) (e : Event) : Quiet e ∨ e = .reset ∨ e = .expire ∨
    ∃ multicast cmdClass frame v, e = .frame multicast (cmdClass :: indicatorSet :: frame) ∧
      sentValues frame = some v ∧ step s e = updateIndicator (stored v) := by
  match e with
  | .reset => exact Or.inr (Or.inl rfl)
  | .expire => exact Or.inr (Or.inr (Or.inl rfl))
  | .frame _ [] => exact Or.inl trivial
  | .frame _ [_] => exact Or.inl trivial
  | .frame multicast (cmdClass :: cmd :: frame) =>
    by_cases hcmd : cmd = indicatorSet
    · subst hcmd
      cases hsent : sentValues frame with
      | none => exact Or.inl fun _ ↦ hsent
      | some v =>
        exact Or.inr (Or.inr (Or.inr ⟨multicast, cmdClass, frame, v, rfl, hsent,
          ((sets_indicatorHandler multicast cmdClass frame s).some v hsent).1⟩))
    · exact Or.inl fun h ↦ absurd h hcmd

theorem sound_start : Sound start := ⟨by decide, by decide, by decide⟩

theorem sound_step (s : State) (e : Event) (hsound : Sound s) : Sound (step s e) := by
  rcases step_cases s e with hquiet | rfl | rfl | ⟨_, _, _, v, -, -, hstep⟩
  · rwa [step_of_quiet hquiet]
  · exact sound_start
  · show Sound (if s.timer.isSome then { s with values := ⟨0, 0, 0⟩, timer := none } else s)
    split_ifs
    · exact ⟨UInt8.le_refl 0, hsound.offTime, iff_of_false Bool.false_ne_true fun h ↦ h.1 rfl⟩
    · exact hsound
  · rw [hstep]
    exact sound_updateIndicator (stored_le v)

/-- The duration of a stored Set is right just when it is in time. An on-time that is too long makes
no difference. -/
theorem timed_step_iff (s : State) (e : Event) (htimed : Timed s) :
    Timed (step s e) ↔ InTime e := by
  rcases step_cases s e with hquiet | rfl | rfl | ⟨multicast, cmdClass, frame, v, rfl, hsent, hstep⟩
  · rw [step_of_quiet hquiet]
    refine iff_of_true htimed ?_
    match e with
    | .frame _ (_ :: cmd :: frame) =>
      intro hcmd v hv
      rw [hquiet hcmd] at hv
      cases hv
    | .frame _ [] => trivial
    | .frame _ [_] => trivial
  · exact iff_of_true nofun trivial
  · refine iff_of_true ?_ trivial
    unfold step
    split_ifs
    · exact nofun
    · exact htimed
  · rw [hstep, timed_updateIndicator_iff]
    constructor
    · intro h _ w hw
      obtain rfl := Option.some.inj (hsent.symm.trans hw)
      exact h
    · intro h
      exact h rfl v hsent

theorem allSteps_inTime_iff (s : State) :
    AllSteps step (fun _ e ↦ InTime e) s events ↔ ∀ e ∈ events, InTime e := by
  induction events generalizing s with
  | nil => exact iff_of_true trivial fun _ he ↦ absurd he not_mem_nil
  | cons e rest ih => rw [allSteps_cons, ih, forall_mem_cons]

/-- What a Set that is handled leaves, as long as nothing happens to the values. -/
theorem accepted (events : List Event) (multicast : Bool) (cmdClass : UInt8) (frame : List UInt8)
    (hcode : (indicatorHandler multicast (cmdClass :: indicatorSet :: frame)
      (run step start events)).code =
      .commandHandled) (hquiet : ∀ e ∈ later, Quiet e) : ∃ v, sentValues frame = some v ∧
      (run step start
        (events ++ .frame multicast (cmdClass :: indicatorSet :: frame) :: later)).values = v := by
  have hsets := sets_indicatorHandler multicast cmdClass frame (run step start events)
  cases hsent : sentValues frame with
  | none => exact absurd hcode (hsets.none hsent).2
  | some v =>
    refine ⟨v, rfl, ?_⟩
    obtain ⟨hstate, hle⟩ := hsets.some v hsent
    dsimp only at hstate
    rw [run_append, run_cons, run_of_quiet hquiet]
    show (indicatorHandler _ _ _).state.values = v
    rw [hstate, stored_of_le (hle hcode)]
    rfl

/-- What an expiry leaves, as long as nothing happens to the values. -/
theorem expired (events : List Event) (harmed : (run step start events).timer.isSome = true)
    (hquiet : ∀ e ∈ later, Quiet e) :
      (run step start (events ++ .expire :: later)).values = ⟨0, 0, 0⟩ := by
  rw [run_append, run_cons, run_of_quiet hquiet]
  show (if (run step start events).timer.isSome = true then _ else _ : State).values = _
  rw [if_pos harmed]

/-- What is asked of the indicator, apart from the duration of the timer, holds in every run. -/
theorem indicates_iff (events : List Event) :
    Indicates events ↔ ∀ way, way <+: events → Timed (run step start way) := by
  refine ⟨fun h ↦ h.timed,
    fun htimed ↦ ⟨run_invariant sound_step sound_start events, htimed, ?_, ?_, ?_⟩⟩
  · intro multicast cmdClass frame hnone
    exact ((sets_indicatorHandler multicast cmdClass frame _).none hnone).1
  · intro multicast cmdClass frame later hcode hquiet
    obtain ⟨v, hsent, hvalues⟩ := accepted events multicast cmdClass frame hcode hquiet
    refine ⟨v, hsent, fun getClass more ↦ ?_⟩
    rw [← hvalues]
    rfl
  · intro later harmed hquiet getClass more
    rw [← expired events harmed hquiet]
    rfl

end Run

/-- The indicator does what is asked of it in a run just when the duration of all blinks, in
microseconds, fits in 32 bits for every Set of the run. -/
theorem indicator_iff (events : List Event) : Indicates events ↔ ∀ e ∈ events, InTime e :=
  (indicates_iff events).trans
    ((forall_prefix_run_iff_allSteps timed_step_iff (fun _ h ↦ by cases h) events).trans
      (allSteps_inTime_iff start))

/-- With the longest period and the most cycles that are counted, the timer is armed for about a
third of the time. -/
theorem indicator_fail : ¬ ∀ events, Indicates events := by
  intro hindicates
  have htimed :=
    (hindicates [.frame false [0x87, 0x01, 0, 2, 0x50, 0x03, 255, 0x50, 0x04, 254]]).timed _
    prefix_rfl
  exact absurd (htimed 2182032 (by decide +kernel)) (by decide +kernel)

end ZipGateway.CommandHandler.Indicator
