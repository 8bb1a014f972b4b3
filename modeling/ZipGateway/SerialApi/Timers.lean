import ZipGateway.Lib.Run
import ZipGateway.Lib.SlotTable

/-!
# The timers of the serial API

`src/src/serialapi/Serialapi.c` has a table of timers over the callback timers of Contiki:
`ZW_LTimerStart`, `ZW_LTimerRestart` and `ZW_LTimerCancel`, and `timer_timeout`, which runs when a
callback timer expires. It calls the function of the slot first and counts the slot down afterwards.
The function may have cancelled its timer by then, and started another one in the slot. `served_iff`
says that every timer is served in a run exactly when no function leaves such a timer behind, unless
that one goes on forever.

A timer is known by the number of its start, where the source has a function pointer. How long a
timer takes is not modelled: every callback timer that runs may expire.
-/

set_option autoImplicit false

namespace ZipGateway.SerialApi

open Lib List

/-! ### The table -/

/-- The number of entries of `timers`. -/
abbrev timersSize : ℕ := 0x10

def timerForever : UInt8 := 0xFF

/-- `struct ZW_timer`; `running` says that `timer` is in the list of callback timers. -/
structure ZwTimer where
  f : Option ℕ
  repeats : UInt8
  running : Bool
deriving DecidableEq, Repr

/-- What happens to a timer. -/
inductive Event
  | started (timer : ℕ) (repeats : UInt8)
  | invoked (timer : ℕ)
  | cancelled (timer : ℕ)
deriving DecidableEq, Repr

/-- `timers`, the number of the next start, and what has happened, the newest first. -/
structure State where
  timers : Fin timersSize → ZwTimer
  nextTimer : ℕ
  log : List Event

/-- No timer has been started. -/
def State.initial : State := ⟨fun _ ↦ ⟨none, 0, false⟩, 0, []⟩

/-- A slot is written. -/
def State.set (s : State) (i : Fin timersSize) (t : ZwTimer) : State :=
  { s with timers := Function.update s.timers i t }

/-- An entry of the log. -/
def State.note (s : State) (event : Event) : State := { s with log := event :: s.log }

/-- `ZW_LTimerStart`: the handle of the timer. -/
def zwLTimerStart (repeats : UInt8) (s : State) : State × UInt8 :=
  match firstSlot (fun t : ZwTimer ↦ t.f.isNone) s.timers with
  | none => (s, 0xFF)
  | some i =>
    ({ (s.set i ⟨some s.nextTimer, repeats, true⟩).note (.started s.nextTimer repeats) with
        nextTimer := s.nextTimer + 1 }, UInt8.ofNat i.val)

/-- `ZW_LTimerRestart`. -/
def zwLTimerRestart (handle : UInt8) (s : State) : State × Bool :=
  if h : handle.toNat < timersSize then
    (s.set ⟨handle.toNat, h⟩ { s.timers ⟨handle.toNat, h⟩ with running := true }, true)
  else (s, false)

/-- The timer in a slot is cancelled. -/
def State.cancel (s : State) (i : Fin timersSize) : State :=
  let after := s.set i { s.timers i with f := none, running := false }
  match (s.timers i).f with
  | none => after
  | some timer => after.note (.cancelled timer)

/-- `ZW_LTimerCancel`. -/
def zwLTimerCancel (handle : UInt8) (s : State) : State × Bool :=
  if h : handle.toNat < timersSize then (s.cancel ⟨handle.toNat, h⟩, true) else (s, false)

/-- The calls that the rest of the gateway makes. -/
inductive Call
  | start (repeats : UInt8)
  | restart (handle : UInt8)
  | cancel (handle : UInt8)
deriving DecidableEq, Repr

def call (s : State) : Call → State
  | .start repeats => (zwLTimerStart repeats s).1
  | .restart handle => (zwLTimerRestart handle s).1
  | .cancel handle => (zwLTimerCancel handle s).1

/-- The part of `timer_timeout` in front of the count: the function of the slot is called, and makes
these calls. -/
def runFunction (i : Fin timersSize) (calls : List Call) (s : State) : State :=
  match (s.timers i).f with
  | none => s
  | some timer => run call (s.note (.invoked timer)) calls

/-- The count of a slot after a firing. -/
def ZwTimer.decremented (t : ZwTimer) : UInt8 :=
  if 0 < t.repeats ∧ t.repeats ≠ timerForever then t.repeats - 1 else t.repeats

/-- The rest of `timer_timeout`. -/
def countDown (i : Fin timersSize) (s : State) : State :=
  let t := s.timers i
  if t.decremented = 0 then s.set i { t with f := none, repeats := t.decremented }
  else s.set i { t with repeats := t.decremented, running := true }

/-- `timer_timeout`, for a callback timer that has been taken from the list. -/
def timerTimeout (i : Fin timersSize) (calls : List Call) (s : State) : State :=
  countDown i (runFunction i calls s)

/-- The callback timer of a slot is taken from the list. -/
def State.expire (s : State) (i : Fin timersSize) : State :=
  s.set i { s.timers i with running := false }

/-- What happens in a run: a call, or the expiry of a callback timer whose function makes some
calls. -/
inductive Step
  | call (c : Call)
  | expire (i : Fin timersSize) (calls : List Call)
deriving DecidableEq, Repr

/-- One step of a run. -/
def step (s : State) : Step → State
  | .call c => call s c
  | .expire i calls => if (s.timers i).running then timerTimeout i calls (s.expire i) else s

/-! ### What a timer is owed -/

/-- How often a timer is to be invoked; `TIMER_ONE_TIME` is 0. -/
def invocations (repeats : UInt8) : ℕ := if repeats = 0 then 1 else repeats.toNat

/-- What the slot of a timer counts after some invocations. -/
def remaining (repeats : UInt8) (count : ℕ) : ℕ :=
  if repeats = timerForever then 255 else repeats.toNat - count

/-- A timer waits in the table with what it has left. -/
def Pending (s : State) (timer : ℕ) (repeats : UInt8) : Prop :=
  ∃ i, (s.timers i).f = some timer ∧ (s.timers i).running = true ∧
    (s.timers i).repeats.toNat = remaining repeats (s.log.count (.invoked timer))

/-- After a timer was cancelled it has not been invoked. -/
def Silent (log : List Event) (timer : ℕ) : Prop :=
  ∀ later earlier, log = later ++ .cancelled timer :: earlier → .invoked timer ∉ later

/-- A timer that is to be invoked `times` times gets what it is owed. -/
structure Served (times : UInt8 → ℕ) (s : State) (timer : ℕ) (repeats : UInt8) : Prop where
  bounded : repeats ≠ timerForever → s.log.count (.invoked timer) ≤ times repeats
  kept : .cancelled timer ∉ s.log → Pending s timer repeats ∨
    (repeats ≠ timerForever ∧ s.log.count (.invoked timer) = times repeats)
  silent : Silent s.log timer

/-- Every timer that was started gets what it is owed. -/
def AllServed (times : UInt8 → ℕ) (s : State) : Prop :=
  ∀ timer repeats, .started timer repeats ∈ s.log → Served times s timer repeats

/-- The function of a timer that fires leaves its slot to this timer, to nobody, or to a timer that
goes on forever. -/
def LeavesSlot (s : State) : Step → Prop
  | .call _ => True
  | .expire i calls => (s.timers i).running = true → ∀ timer, (s.timers i).f = some timer →
      ∀ other, ((runFunction i calls (s.expire i)).timers i).f = some other →
        other = timer ∨ ((runFunction i calls (s.expire i)).timers i).repeats = timerForever

/-! ### The invariant -/

/-- The invocations of a timer that its slot has been counted down for: all but the one under
way. -/
def counted (firing : Option (Fin timersSize × ℕ)) (s : State) (timer : ℕ) : ℕ :=
  s.log.count (.invoked timer) - if firing.map Prod.snd = some timer then 1 else 0

/-- A slot that holds a timer agrees with the log. -/
structure Holds (firing : Option (Fin timersSize × ℕ)) (s : State) (i : Fin timersSize) (timer : ℕ)
    (repeats : UInt8) : Prop where
  started : .started timer repeats ∈ s.log
  notCancelled : .cancelled timer ∉ s.log
  left : (s.timers i).repeats.toNat = remaining repeats (counted firing s timer)
  more : repeats ≠ timerForever → counted firing s timer < invocations repeats
  running : firing = some (i, timer) ∨ (s.timers i).running = true

/-- The invariant of the runs; in the middle of a firing, with the slot and the timer that fires. -/
structure Inv (firing : Option (Fin timersSize × ℕ)) (s : State) : Prop where
  fresh : ∀ timer, (∃ repeats, .started timer repeats ∈ s.log) ∨ .invoked timer ∈ s.log ∨
    .cancelled timer ∈ s.log → timer < s.nextTimer
  unique : ∀ timer repeats repeats', .started timer repeats ∈ s.log →
    .started timer repeats' ∈ s.log → repeats = repeats'
  held : ∀ i timer, (s.timers i).f = some timer → ∃ repeats, Holds firing s i timer repeats
  distinct : ∀ i j timer, (s.timers i).f = some timer → (s.timers j).f = some timer → i = j
  kept : ∀ timer repeats, .started timer repeats ∈ s.log → .cancelled timer ∉ s.log →
    (∃ i, (s.timers i).f = some timer) ∨
      (repeats ≠ timerForever ∧ s.log.count (.invoked timer) = invocations repeats)
  bounded : ∀ timer repeats, .started timer repeats ∈ s.log → repeats ≠ timerForever →
    s.log.count (.invoked timer) ≤ invocations repeats
  silent : ∀ timer, Silent s.log timer
  fires : ∀ i timer, firing = some (i, timer) →
    .invoked timer ∈ s.log ∧ ∀ j, (s.timers j).f = some timer → j = i

theorem Silent.cons {log : List Event} {timer : ℕ} {event : Event} (h : Silent log timer)
    (hevent : event = .invoked timer → .cancelled timer ∉ log) : Silent (event :: log) timer := by
  intro later earlier hlog hmem
  cases later with
  | nil => simp at hmem
  | cons first later =>
    obtain ⟨rfl, rfl⟩ := List.cons.inj hlog
    rcases mem_cons.mp hmem with hfirst | hlater
    · exact hevent hfirst.symm (by simp)
    · exact h later earlier rfl hlater

@[simp] theorem set_log (s : State) (i : Fin timersSize) (t : ZwTimer) : (s.set i t).log = s.log :=
  rfl

@[simp] theorem set_nextTimer (s : State) (i : Fin timersSize) (t : ZwTimer) :
    (s.set i t).nextTimer = s.nextTimer := rfl

@[simp] theorem set_timers_self (s : State) (i : Fin timersSize)
    (t : ZwTimer) : (s.set i t).timers i = t := by
  simp [State.set]

theorem set_timers_ne (s : State) {i j : Fin timersSize} (t : ZwTimer) (hne : j ≠ i) :
    (s.set i t).timers j = s.timers j := by
  simp [State.set, hne]

@[simp] theorem note_timers (s : State) (event : Event) : (s.note event).timers = s.timers := rfl

@[simp] theorem note_nextTimer (s : State)
    (event : Event) : (s.note event).nextTimer = s.nextTimer := rfl

@[simp] theorem note_log (s : State) (event : Event) : (s.note event).log = event :: s.log := rfl

section Steps

variable {firing : Option (Fin timersSize × ℕ)} {s : State} {i : Fin timersSize}

/-- A slot that keeps its timer and its count may be written. -/
theorem Inv.set_same {t : ZwTimer} (h : Inv firing s) (hf : t.f = (s.timers i).f)
    (hrepeats : ∀ timer, t.f = some timer → t.repeats = (s.timers i).repeats)
    (hrunning : ∀ timer, t.f = some timer → t.running = true) : Inv firing (s.set i t) := by
  have hsame : ∀ j, ((s.set i t).timers j).f = (s.timers j).f := by
    intro j
    by_cases hj : j = i
    · subst hj
      simpa using hf
    · rw [set_timers_ne s t hj]
  refine ⟨h.fresh, h.unique, ?_, ?_, ?_, h.bounded, h.silent, ?_⟩
  · intro j timer hj
    obtain ⟨repeats, hholds⟩ := h.held j timer (hsame j ▸ hj)
    refine ⟨repeats, hholds.started, hholds.notCancelled, ?_, hholds.more, ?_⟩
    · by_cases hji : j = i
      · subst hji
        rw [set_timers_self, hrepeats timer (by simpa using hj)]
        exact hholds.left
      · rw [set_timers_ne s t hji]
        exact hholds.left
    · by_cases hji : j = i
      · subst hji
        exact .inr (by simpa using hrunning timer (by simpa using hj))
      · rw [set_timers_ne s t hji]
        exact hholds.running
  · intro j k timer hj hk
    exact h.distinct j k timer (hsame j ▸ hj) (hsame k ▸ hk)
  · intro timer repeats hstarted hcancelled
    simpa only [hsame, set_log] using h.kept timer repeats hstarted hcancelled
  · intro j timer hfiring
    simpa only [hsame, set_log] using h.fires j timer hfiring

/-- When the timer that fires has left its slot, the table is as outside of a firing. -/
theorem Inv.released {timer : ℕ} (h : Inv (some (i, timer)) s)
    (hgone : (s.timers i).f ≠ some timer) : Inv none s := by
  refine ⟨h.fresh, h.unique, ?_, h.distinct, h.kept, h.bounded, h.silent, by simp⟩
  intro j other hj
  have hne : other ≠ timer := by
    rintro rfl
    exact hgone ((h.fires i other rfl).2 j hj ▸ hj)
  obtain ⟨repeats, hstarted, hcancelled, hleft, hmore, hrunning⟩ := h.held j other hj
  have hcounted : counted (some (i, timer)) s other = counted none s other := by
    simp [counted, Ne.symm hne]
  rw [hcounted] at hleft hmore
  exact ⟨repeats, hstarted, hcancelled, hleft, hmore,
    .inr (hrunning.resolve_left (by simp [Ne.symm hne]))⟩

/-- An event of another timer changes nothing for a slot. -/
theorem Holds.cons {s' : State} {timer : ℕ} {repeats : UInt8} {event : Event}
    (h : Holds firing s i timer repeats)
    (hslot : s'.timers i = s.timers i) (hlog : s'.log = event :: s.log)
    (hcancelled : event ≠ .cancelled timer)
    (hinvoked : event ≠ .invoked timer) : Holds firing s' i timer repeats := by
  have hcounted : counted firing s' timer = counted firing s timer := by
    simp [counted, hlog, count_cons_of_ne hinvoked]
  refine ⟨?_, ?_, ?_, ?_, ?_⟩
  · rw [hlog]
    exact mem_cons_of_mem _ h.started
  · rw [hlog, mem_cons]
    exact fun hmem ↦ hmem.elim (fun heq ↦ hcancelled heq.symm) h.notCancelled
  · rw [hslot, hcounted]
    exact h.left
  · rw [hcounted]
    exact h.more
  · rw [hslot]
    exact h.running

/-- A timer that is held has been started. -/
theorem Inv.held_lt (h : Inv firing s) {timer : ℕ} (hf : (s.timers i).f = some timer) :
    timer < s.nextTimer := by
  obtain ⟨repeats, hholds⟩ := h.held i timer hf
  exact h.fresh timer (.inl ⟨repeats, hholds.started⟩)

/-- A timer starts in a slot that is free. -/
theorem Inv.start (h : Inv firing s) (repeats : UInt8) :
    Inv firing (zwLTimerStart repeats s).1 := by
  unfold zwLTimerStart
  cases hfound : firstSlot (fun t : ZwTimer ↦ t.f.isNone) s.timers with
  | none => exact h
  | some i =>
    have hfree : (s.timers i).f = none := by simpa using firstSlot_some hfound
    have hcount : s.log.count (.invoked s.nextTimer) = 0 :=
      count_eq_zero.mpr fun hmem ↦ Nat.lt_irrefl _ (h.fresh _ (.inr (.inl hmem)))
    refine ⟨?_, ?_, ?_, ?_, ?_, ?_, ?_, ?_⟩
    · intro timer hlog
      simp only [note_log, set_log, mem_cons, Event.started.injEq, reduceCtorEq, false_or] at hlog
      simp only
      rcases hlog with ⟨r, ⟨rfl, -⟩ | hstarted⟩ | hlog | hlog
      · omega
      · exact Nat.lt_succ_of_lt (h.fresh timer (.inl ⟨r, hstarted⟩))
      · exact Nat.lt_succ_of_lt (h.fresh timer (.inr (.inl hlog)))
      · exact Nat.lt_succ_of_lt (h.fresh timer (.inr (.inr hlog)))
    · intro timer r r' hr hr'
      simp only [note_log, set_log, mem_cons, Event.started.injEq] at hr hr'
      rcases hr with ⟨rfl, rfl⟩ | hr
      · rcases hr' with ⟨-, rfl⟩ | hr'
        · rfl
        · exact absurd (h.fresh _ (.inl ⟨r', hr'⟩)) (Nat.lt_irrefl _)
      · rcases hr' with ⟨rfl, -⟩ | hr'
        · exact absurd (h.fresh _ (.inl ⟨r, hr⟩)) (Nat.lt_irrefl _)
        · exact h.unique timer r r' hr hr'
    · intro j timer hj
      by_cases hji : j = i
      · subst hji
        obtain rfl : s.nextTimer = timer := by simpa using hj
        refine ⟨repeats, by simp, ?_, ?_, fun _ ↦ ?_, .inr (by simp)⟩
        · simpa using fun hmem ↦ Nat.lt_irrefl _ (h.fresh _ (.inr (.inr hmem)))
        · by_cases hforever : repeats = timerForever
          · simp [remaining, hforever, timerForever]
          · simp [remaining, hforever, counted, hcount]
        · have hpos : 0 < invocations repeats := by
            unfold invocations
            split_ifs with hzero
            · exact Nat.one_pos
            · exact Nat.pos_of_ne_zero fun h0 ↦ hzero (UInt8.toNat_inj.mp h0)
          simpa [counted, hcount] using hpos
      · have hold : (s.timers j).f = some timer := by simpa [set_timers_ne s _ hji] using hj
        obtain ⟨repeats', hholds⟩ := h.held j timer hold
        exact ⟨repeats', hholds.cons (set_timers_ne s _ hji) rfl (by simp) (by simp)⟩
    · intro j k timer hj hk
      have hslot : ∀ l, ((s.set i ⟨some s.nextTimer, repeats, true⟩).timers l).f = some timer →
          (l = i ∧ timer = s.nextTimer) ∨ (s.timers l).f = some timer := by
        intro l hl
        by_cases hli : l = i
        · subst hli
          exact .inl ⟨rfl, by simpa using hl.symm⟩
        · exact .inr (by simpa [set_timers_ne s _ hli] using hl)
      rcases hslot j hj with ⟨hji, hjnew⟩ | hjold <;> rcases hslot k hk with ⟨hki, hknew⟩ | hkold
      · exact hji.trans hki.symm
      · exact absurd (h.held_lt hkold) (Nat.not_lt.mpr (Nat.le_of_eq hjnew.symm))
      · exact absurd (h.held_lt hjold) (Nat.not_lt.mpr (Nat.le_of_eq hknew.symm))
      · exact h.distinct j k timer hjold hkold
    · intro timer r hstarted hcancelled
      simp only [note_log, set_log, mem_cons, Event.started.injEq, reduceCtorEq,
        false_or] at hstarted hcancelled
      rcases hstarted with ⟨rfl, rfl⟩ | hstarted
      · exact .inl ⟨i, by simp⟩
      · rcases h.kept timer r hstarted hcancelled with ⟨j, hj⟩ | hdone
        · have hji : j ≠ i := by
            rintro rfl
            simp [hfree] at hj
          exact .inl ⟨j, by simpa [set_timers_ne s _ hji] using hj⟩
        · exact .inr (by simpa using hdone)
    · intro timer r hstarted hforever
      simp only [note_log, set_log, mem_cons, Event.started.injEq] at hstarted
      rcases hstarted with ⟨rfl, rfl⟩ | hstarted
      · simp [hcount]
      · simpa using h.bounded timer r hstarted hforever
    · exact fun timer ↦ (h.silent timer).cons (by simp)
    · intro j timer hfiring
      obtain ⟨hinvoked, hslots⟩ := h.fires j timer hfiring
      refine ⟨by simpa using hinvoked, fun k hk ↦ ?_⟩
      by_cases hki : k = i
      · subst hki
        obtain rfl : s.nextTimer = timer := by simpa using hk
        exact absurd (h.fresh _ (.inr (.inl hinvoked))) (Nat.lt_irrefl _)
      · exact hslots k (by simpa [set_timers_ne s _ hki] using hk)

/-- The timer in a slot is cancelled. -/
theorem Inv.cancel (h : Inv firing s) (i : Fin timersSize) : Inv firing (s.cancel i) := by
  unfold State.cancel
  cases hf : (s.timers i).f with
  | none => exact h.set_same hf.symm (by simp) (by simp)
  | some timer =>
    obtain ⟨repeats, hholds⟩ := h.held i timer hf
    have hslot : ∀ {j other},
      ((s.set i { s.timers i with f := none, running := false }).timers j).f = some other →
        j ≠ i ∧ (s.timers j).f = some other := by
      intro j other hj
      by_cases hji : j = i
      · subst hji
        simp at hj
      · exact ⟨hji, by simpa [set_timers_ne s _ hji] using hj⟩
    refine ⟨?_, ?_, ?_, ?_, ?_, ?_, ?_, ?_⟩
    · intro other hlog
      simp only [note_log, set_log, mem_cons, reduceCtorEq, false_or, Event.cancelled.injEq] at hlog
      rcases hlog with ⟨r, hstarted⟩ | hlog | rfl | hlog
      · exact h.fresh other (.inl ⟨r, hstarted⟩)
      · exact h.fresh other (.inr (.inl hlog))
      · exact h.held_lt hf
      · exact h.fresh other (.inr (.inr hlog))
    · intro other r r' hr hr'
      exact h.unique other r r' (by simpa using hr) (by simpa using hr')
    · intro j other hj
      obtain ⟨hji, hold⟩ := hslot hj
      have hne : timer ≠ other := by
        rintro rfl
        exact hji (h.distinct j i timer hold hf)
      obtain ⟨repeats', hholds'⟩ := h.held j other hold
      exact ⟨repeats', hholds'.cons (set_timers_ne s _ hji) rfl (by simpa using hne) (by simp)⟩
    · exact fun j k other hj hk ↦ h.distinct j k other (hslot hj).2 (hslot hk).2
    · intro other r hstarted hcancelled
      simp only [note_log, set_log, mem_cons, reduceCtorEq, false_or, Event.cancelled.injEq, not_or]
        at hstarted hcancelled
      rcases h.kept other r hstarted hcancelled.2 with ⟨j, hj⟩ | hdone
      · have hji : j ≠ i := by
          rintro rfl
          exact hcancelled.1 (by simpa [hf] using hj.symm)
        exact .inl ⟨j, by simpa [set_timers_ne s _ hji] using hj⟩
      · exact .inr (by simpa using hdone)
    · intro other r hstarted hforever
      simpa using h.bounded other r (by simpa using hstarted) hforever
    · exact fun other ↦ (h.silent other).cons (by simp)
    · intro j other hfiring
      obtain ⟨hinvoked, hslots⟩ := h.fires j other hfiring
      exact ⟨by simpa using hinvoked, fun k hk ↦ hslots k (hslot hk).2⟩

/-- One call keeps the invariant. -/
theorem Inv.call (h : Inv firing s) (c : Call) : Inv firing (call s c) := by
  cases c with
  | start repeats => exact h.start repeats
  | restart handle =>
    simp only [SerialApi.call, zwLTimerRestart]
    split
    · exact h.set_same rfl (fun _ _ ↦ rfl) (fun _ _ ↦ rfl)
    · exact h
  | cancel handle =>
    simp only [SerialApi.call, zwLTimerCancel]
    split
    · exact h.cancel _
    · exact h

/-- The function of a slot is called. -/
theorem Inv.invoke {timer : ℕ} (h : Inv none s) (hf : (s.timers i).f = some timer) :
    Inv (some (i, timer)) ((s.expire i).note (.invoked timer)) := by
  have hsame : ∀ j, ((s.expire i).timers j).f = (s.timers j).f := by
    intro j
    by_cases hji : j = i
    · subst hji
      simp [State.expire]
    · rw [State.expire, set_timers_ne s _ hji]
  obtain ⟨repeats, hholds⟩ := h.held i timer hf
  refine ⟨?_, ?_, ?_, ?_, ?_, ?_, ?_, ?_⟩
  · intro other hlog
    simp only [note_log, State.expire, set_log, mem_cons, reduceCtorEq, false_or,
      Event.invoked.injEq] at hlog
    rcases hlog with ⟨r, hstarted⟩ | (rfl | hlog) | hlog
    · exact h.fresh other (.inl ⟨r, hstarted⟩)
    · exact h.held_lt hf
    · exact h.fresh other (.inr (.inl hlog))
    · exact h.fresh other (.inr (.inr hlog))
  · intro other r r' hr hr'
    exact h.unique other r r' (by simpa [State.expire] using hr) (by simpa [State.expire] using hr')
  · intro j other hj
    rw [note_timers, hsame] at hj
    by_cases hji : j = i
    · subst hji
      obtain rfl : timer = other := by simpa [hf] using hj
      have hcounted : counted (some (j, timer)) ((s.expire j).note (.invoked timer)) timer =
          counted none s timer := by
        simp [counted, State.expire]
      refine ⟨repeats, by simpa [State.expire] using hholds.started,
        by simpa [State.expire] using hholds.notCancelled, ?_, ?_, .inl rfl⟩
      · rw [hcounted]
        simpa [State.expire] using hholds.left
      · rw [hcounted]
        exact hholds.more
    · have hne : timer ≠ other := by
        rintro rfl
        exact hji (h.distinct j i timer hj hf)
      obtain ⟨repeats', hholds'⟩ := h.held j other hj
      have hcons : Holds none ((s.expire i).note (.invoked timer)) j other repeats' :=
        hholds'.cons (set_timers_ne s _ hji) rfl (by simp) (by simpa using hne)
      have hcounted : ∀ s' : State, counted (some (i, timer)) s' other = counted none s' other := by
        simp [counted, hne]
      obtain ⟨hstarted, hcancelled, hleft, hmore, hrunning⟩ := hcons
      rw [← hcounted] at hleft hmore
      exact ⟨repeats', hstarted, hcancelled, hleft, hmore, .inr (hrunning.resolve_left (by simp))⟩
  · intro j k other hj hk
    rw [note_timers, hsame] at hj hk
    exact h.distinct j k other hj hk
  · intro other r hstarted hcancelled
    simp only [note_timers, hsame]
    by_cases hother : other = timer
    · subst hother
      exact .inl ⟨i, hf⟩
    · have hne : Event.invoked timer ≠ .invoked other := by simpa using Ne.symm hother
      simpa [State.expire, count_cons_of_ne hne] using
        h.kept other r (by simpa [State.expire] using hstarted)
          (by simpa [State.expire] using hcancelled)
  · intro other r hstarted hforever
    have hold : .started other r ∈ s.log := by simpa [State.expire] using hstarted
    by_cases hother : other = timer
    · subst hother
      obtain rfl := h.unique other repeats r hholds.started hold
      have hmore := hholds.more hforever
      simp only [counted, Option.map_none, reduceCtorEq, if_false] at hmore
      simp [State.expire]
      omega
    · have hne : Event.invoked timer ≠ .invoked other := by simpa using Ne.symm hother
      simpa [State.expire, count_cons_of_ne hne] using h.bounded other r hold hforever
  · intro other
    refine (h.silent other).cons fun heq ↦ ?_
    obtain rfl : timer = other := by simpa using heq
    exact hholds.notCancelled
  · rintro j other hfiring
    obtain ⟨rfl, rfl⟩ := Prod.mk.inj (Option.some.inj hfiring)
    refine ⟨by simp, fun k hk ↦ ?_⟩
    rw [note_timers, hsame] at hk
    exact h.distinct k i timer hk hf

/-- The function of a slot is called, and makes its calls. -/
theorem inv_runFunction {timer : ℕ} (h : Inv none s) (hf : (s.timers i).f = some timer)
    (calls : List Call) : Inv (some (i, timer)) (runFunction i calls (s.expire i)) := by
  have hexpire : ((s.expire i).timers i).f = some timer := by simpa [State.expire] using hf
  simp only [runFunction, hexpire]
  exact run_invariant (fun _ c hinv ↦ hinv.call c) (h.invoke hf) calls

/-- A slot without a timer is counted down. -/
theorem Inv.countDown_free (h : Inv firing s) (hf : (s.timers i).f = none) :
    Inv firing (countDown i s) := by
  rw [countDown]
  split
  · exact h.set_same hf.symm (fun _ ht ↦ by simp at ht) (fun _ ht ↦ by simp at ht)
  · exact h.set_same rfl (fun _ ht ↦ by simp [hf] at ht) (fun _ _ ↦ rfl)

/-- A timer that goes on forever is not counted down. -/
theorem Inv.countDown_forever (h : Inv firing s) (hforever : (s.timers i).repeats = timerForever) :
    Inv firing (countDown i s) := by
  have hsame : (s.timers i).decremented = timerForever := by simp [ZwTimer.decremented, hforever]
  have hne : ¬ timerForever = (0 : UInt8) := by decide
  simp only [countDown, hsame, if_neg hne]
  exact h.set_same rfl (fun _ _ ↦ hforever.symm) (fun _ _ ↦ rfl)

/-- A slot that counts what its timer has left: the count after one more invocation. -/
theorem decremented_remaining {t : ZwTimer} {repeats : UInt8} {count : ℕ}
    (hleft : t.repeats.toNat = remaining repeats count)
    (hmore : repeats ≠ timerForever → count < invocations repeats) :
    (t.decremented = 0 → repeats ≠ timerForever ∧ count + 1 = invocations repeats) ∧
      (t.decremented ≠ 0 → t.decremented.toNat = remaining repeats (count + 1) ∧
        (repeats ≠ timerForever → count + 1 < invocations repeats)) := by
  have hzero : ∀ x : UInt8, x = 0 ↔ x.toNat = 0 := fun x ↦ UInt8.toNat_inj.symm
  have hforever : ∀ x : UInt8, x = timerForever ↔ x.toNat = 255 := fun x ↦ UInt8.toNat_inj.symm
  have hlt : repeats.toNat < 256 := repeats.toNat_lt
  have hdecremented : t.decremented.toNat =
      if 0 < t.repeats.toNat ∧ t.repeats.toNat ≠ 255 then t.repeats.toNat - 1
        else t.repeats.toNat := by
    simp only [ZwTimer.decremented, UInt8.lt_iff_toNat_lt, ne_eq, hforever, UInt8.toNat_zero]
    split_ifs with h
    · rw [UInt8.toNat_sub_of_le _ _ (by rw [UInt8.le_iff_toNat_le]; exact h.1)]
      rfl
    · rfl
  simp only [ne_eq, hzero, hforever, remaining, invocations] at hleft hmore ⊢
  generalize t.decremented.toNat = after at hdecremented ⊢
  generalize t.repeats.toNat = before at hdecremented hleft
  split_ifs at hdecremented hleft hmore ⊢ <;> omega

/-- The slot of the timer that fires is written, with what the timer has left, or cleared when
nothing is left. -/
theorem Inv.settle {timer : ℕ} {repeats : UInt8} {t : ZwTimer} (h : Inv (some (i, timer)) s)
    (hf : (s.timers i).f = some timer) (hstarted : .started timer repeats ∈ s.log)
    (hheld : ∀ other, t.f = some other → timer = other ∧ t.running = true ∧
      .cancelled timer ∉ s.log ∧
      t.repeats.toNat = remaining repeats (s.log.count (.invoked timer)) ∧
      (repeats ≠ timerForever → s.log.count (.invoked timer) < invocations repeats))
    (hdone : t.f = none → repeats ≠ timerForever ∧
      s.log.count (.invoked timer) = invocations repeats) :
    Inv none (s.set i t) := by
  have hrest : ∀ {j other}, j ≠ i → ((s.set i t).timers j).f = some other →
      other ≠ timer ∧ (s.timers j).f = some other := by
    intro j other hji hj
    rw [set_timers_ne s t hji] at hj
    exact ⟨fun heq ↦ hji ((h.fires i timer rfl).2 j (heq ▸ hj)), hj⟩
  refine ⟨h.fresh, h.unique, ?_, ?_, ?_, h.bounded, h.silent, by simp⟩
  · intro j other hj
    by_cases hji : j = i
    · subst hji
      rw [set_timers_self] at hj
      obtain ⟨rfl, hrunning, hcancelled, hleft, hmore⟩ := hheld other hj
      exact ⟨repeats, hstarted,
        hcancelled, by simpa [counted] using hleft, by simpa [counted] using hmore,
        .inr (by simpa using hrunning)⟩
    · obtain ⟨hne, hold⟩ := hrest hji hj
      obtain ⟨r, hholds⟩ := h.held j other hold
      have hcounted : counted (some (i, timer)) s other = counted none (s.set i t) other := by
        simp [counted, Ne.symm hne]
      have hleft := hholds.left
      have hmore := hholds.more
      rw [hcounted] at hleft hmore
      refine ⟨r, hholds.started, hholds.notCancelled, ?_, hmore, .inr ?_⟩
      · rw [set_timers_ne s t hji]
        exact hleft
      · rw [set_timers_ne s t hji]
        exact hholds.running.resolve_left (by simp [Ne.symm hji])
  · intro j k other hj hk
    by_cases hji : j = i <;> by_cases hki : k = i
    · exact hji.trans hki.symm
    · subst hji
      rw [set_timers_self] at hj
      exact absurd (hheld other hj).1.symm (hrest hki hk).1
    · subst hki
      rw [set_timers_self] at hk
      exact absurd (hheld other hk).1.symm (hrest hji hj).1
    · exact h.distinct j k other (hrest hji hj).2 (hrest hki hk).2
  · intro other r hother hcancelled
    by_cases htimer : other = timer
    · subst htimer
      obtain rfl := h.unique other repeats r hstarted hother
      cases ht : t.f with
      | none => exact .inr (hdone ht)
      | some held =>
        obtain rfl := (hheld held ht).1
        exact .inl ⟨i, by simpa using ht⟩
    · rcases h.kept other r hother hcancelled with ⟨j, hj⟩ | hdone'
      · have hji : j ≠ i := by
          rintro rfl
          exact htimer (by simpa [hf] using hj.symm)
        exact .inl ⟨j, by simpa [set_timers_ne s t hji] using hj⟩
      · exact .inr hdone'

/-- The slot of a timer that has just been invoked is counted down. -/
theorem Inv.countDown_fired {timer : ℕ} (h : Inv (some (i, timer)) s)
    (hf : (s.timers i).f = some timer) : Inv none (countDown i s) := by
  obtain ⟨repeats, hholds⟩ := h.held i timer hf
  have hcount : counted (some (i, timer)) s timer + 1 = s.log.count (.invoked timer) := by
    have hpos := count_pos_iff.mpr (h.fires i timer rfl).1
    simp only [counted, Option.map_some, if_true]
    omega
  obtain ⟨hlast, hmore⟩ := decremented_remaining hholds.left hholds.more
  rw [hcount] at hlast hmore
  rw [countDown]
  split
  case isTrue hzero =>
    refine h.settle hf hholds.started (fun other ht ↦ by simp at ht) fun _ ↦ hlast hzero
  case isFalse hzero =>
    refine h.settle hf hholds.started (fun other ht ↦ ?_) fun ht ↦
      absurd (hf.symm.trans ht) (by simp)
    obtain rfl : timer = other := by simpa [hf] using ht
    exact ⟨rfl, rfl, hholds.notCancelled, (hmore hzero).1, (hmore hzero).2⟩

end Steps

/-- One step keeps the invariant when the slot is left. -/
theorem step_keeps (s : State) (input : Step) (hleaves : LeavesSlot s input) (h : Inv none s) :
    Inv none (step s input) := by
  cases input with
  | call c => exact h.call c
  | expire i calls =>
    simp only [step]
    split
    case isFalse => exact h
    case isTrue hrunning =>
      rw [timerTimeout]
      cases hf : (s.timers i).f with
      | none =>
        have hexpire : Inv none (s.expire i) := h.set_same rfl (by simp [hf]) (by simp [hf])
        have hfree : ((s.expire i).timers i).f = none := by simpa [State.expire] using hf
        have hrun : runFunction i calls (s.expire i) = s.expire i := by simp [runFunction, hfree]
        rw [hrun]
        exact hexpire.countDown_free hfree
      | some timer =>
        have hmid := inv_runFunction h hf calls
        cases hleft : ((runFunction i calls (s.expire i)).timers i).f with
        | none => exact (hmid.released (by simp [hleft])).countDown_free hleft
        | some other =>
          rcases hleaves hrunning timer hf other hleft with rfl | hforever
          · exact hmid.countDown_fired hleft
          · by_cases hother : other = timer
            · exact hmid.countDown_fired (hother ▸ hleft)
            · have hreleased := hmid.released (by simpa [hleft] using hother)
              exact hreleased.countDown_forever hforever

theorem initial_inv : Inv none State.initial where
  fresh := by simp [State.initial]
  unique := by simp [State.initial]
  held := by simp [State.initial]
  distinct := by simp [State.initial]
  kept := by simp [State.initial]
  bounded := by simp [State.initial]
  silent := by simp [State.initial, Silent]
  fires := by simp

/-- Outside of a firing every timer is served. -/
theorem Inv.allServed {s : State} (h : Inv none s) : AllServed invocations s := by
  intro timer repeats hstarted
  refine ⟨h.bounded timer repeats hstarted, fun hcancelled ↦ ?_, h.silent timer⟩
  rcases h.kept timer repeats hstarted hcancelled with ⟨i, hi⟩ | hdone
  · obtain ⟨repeats', hholds⟩ := h.held i timer hi
    obtain rfl := h.unique timer repeats' repeats hholds.started hstarted
    exact .inl ⟨i, hi, hholds.running.resolve_left (by simp), by simpa [counted] using hholds.left⟩
  · exact .inr hdone

/-- A timer with a finite count that was left in the slot has been counted down, or is lost. -/
theorem not_allServed_countDown {s : State} {i : Fin timersSize} {timer other : ℕ}
    (h : Inv (some (i, timer)) s) (hf : (s.timers i).f = some other) (hother : other ≠ timer)
    (hfinite : (s.timers i).repeats ≠ timerForever) : ¬ AllServed invocations (countDown i s) := by
  intro hserved
  obtain ⟨repeats, hholds⟩ := h.held i other hf
  have hcounted : counted (some (i, timer)) s other = s.log.count (.invoked other) := by
    simp [counted, Ne.symm hother]
  have hleft := hholds.left
  have hmore := hholds.more
  rw [hcounted] at hleft hmore
  have hrepeats : repeats ≠ timerForever := by
    rintro rfl
    exact hfinite (UInt8.toNat_inj.mp (by simpa [remaining, timerForever] using hleft))
  obtain ⟨-, hnext⟩ := decremented_remaining hleft hmore
  have hlog : (countDown i s).log = s.log := by
    rw [countDown]
    split <;> rfl
  obtain ⟨-, hkept, -⟩ := hserved other repeats (hlog ▸ hholds.started)
  rw [hlog] at hkept
  rcases hkept hholds.notCancelled with ⟨j, hj, -, hpending⟩ | ⟨-, hdone⟩
  · -- the slot that holds it can only be this one
    have hji : j = i := by
      by_contra hji
      have hold : (s.timers j).f = some other := by
        rw [countDown] at hj
        split at hj
        · rwa [set_timers_ne s _ hji] at hj
        · rwa [set_timers_ne s _ hji] at hj
      exact hji (h.distinct j i other hold hf)
    subst hji
    rw [hlog] at hpending
    rw [countDown] at hj hpending
    split at hj
    case isTrue hzero => simp at hj
    case isFalse hzero =>
      rw [if_neg hzero, set_timers_self] at hpending
      have hone := (hnext hzero).1
      have hpos : (s.timers j).decremented.toNat ≠ 0 := fun h0 ↦ hzero (UInt8.toNat_inj.mp h0)
      simp only [remaining, if_neg hrepeats] at hpending hone
      omega
  · exact absurd (hmore hrepeats) (by omega)

theorem step_breaks (s : State) (input : Step) (h : Inv none s)
    (hserved : AllServed invocations (step s input)) : LeavesSlot s input := by
  cases input with
  | call c => trivial
  | expire i calls =>
    intro hrunning timer hf other hleft
    by_contra hbad
    obtain ⟨hother, hfinite⟩ := not_or.mp hbad
    simp only [step, hrunning, if_true, timerTimeout] at hserved
    exact not_allServed_countDown (inv_runFunction h hf calls) hleft hother hfinite hserved

/-- In every run: the timers are served in every state that is reached exactly when every function
leaves its slot. -/
theorem served_iff (steps : List Step) :
    (∀ way, way <+: steps → AllServed invocations (run step State.initial way)) ↔
      AllSteps step LeavesSlot State.initial steps :=
  forall_prefix_run_iff_allSteps_of_invariant step_keeps
    (fun _ ↦ Inv.allServed) step_breaks initial_inv steps

/-- A timer that is started for no invocation is invoked once. -/
theorem served_fail : ¬ ∀ steps way : List Step, way <+: steps →
    AllServed UInt8.toNat (run step State.initial way) := by
  intro h
  have hserved := h [.call (.start 0), .expire 0 []] _ prefix_rfl 0 0 (by decide)
  exact absurd (hserved.bounded (by decide)) (by decide)

end ZipGateway.SerialApi
