import Mathlib.Data.List.Basic

/-!
# Runs of a deterministic machine

A machine is a step function on a state type, driven by inputs. `run` folds the step over a list of
inputs. `AllSteps` says that every step of a run meets a condition on the input and on the state in
which it is taken, and `run_invariant_of_allSteps` is the invariant rule for such runs: a property
that holds initially and is kept by every allowed step holds at the end of the run. Because a prefix
of an allowed run is allowed (`allSteps_append`), it holds in every state passed on the way.
`collect` gathers what the steps of a run give out, and `run_collect_invariant` is the invariant
rule for a state together with what was given out until then.
-/

set_option autoImplicit false

namespace ZipGateway.Lib

open List

variable {State Input Output : Type*}

/-- The state reached from `start` by taking the steps of `inputs` in order. -/
def run (step : State → Input → State) (start : State) (inputs : List Input) : State :=
  inputs.foldl step start

/-- Every step of the run meets `allowed` in the state in which it is taken. -/
def AllSteps (step : State → Input → State) (allowed : State → Input → Prop) :
    State → List Input → Prop
  | _, [] => True
  | start, input :: rest => allowed start input ∧ AllSteps step allowed (step start input) rest

/-- What the steps of the run give out, in order. -/
def collect (step : State → Input → State) (emits : State → Input → List Output) :
    State → List Input → List Output
  | _, [] => []
  | start, input :: rest => emits start input ++ collect step emits (step start input) rest

section Run

variable {step : State → Input → State} {allowed : State → Input → Prop}

@[simp]
theorem run_nil (start : State) : run step start [] = start :=
  rfl

@[simp]
theorem run_cons (start : State) (input : Input) (rest : List Input) :
    run step start (input :: rest) = run step (step start input) rest :=
  rfl

@[simp]
theorem allSteps_nil (start : State) : AllSteps step allowed start [] :=
  trivial

@[simp]
theorem allSteps_cons (start : State) (input : Input) (rest : List Input) :
    AllSteps step allowed start (input :: rest) ↔
      allowed start input ∧ AllSteps step allowed (step start input) rest :=
  Iff.rfl

instance decidableAllSteps [∀ state input, Decidable (allowed state input)] :
    ∀ (start : State) (inputs : List Input), Decidable (AllSteps step allowed start inputs)
  | _, [] => isTrue trivial
  | start, input :: rest =>
    haveI := decidableAllSteps (step start input) rest
    inferInstanceAs
      (Decidable (allowed start input ∧ AllSteps step allowed (step start input) rest))

/-- A run in two pieces is the run of the second piece from where the first one ends. -/
theorem run_append (start : State) (first second : List Input) :
    run step start (first ++ second) = run step (run step start first) second :=
  foldl_append

/-- A run in two pieces meets a condition when both pieces do. -/
theorem allSteps_append (start : State) (first second : List Input) :
    AllSteps step allowed start (first ++ second) ↔
      AllSteps step allowed start first ∧ AllSteps step allowed (run step start first) second := by
  induction first generalizing start with
  | nil => simp
  | cons input rest ih => simp [ih, and_assoc]

/-- A run that meets a condition meets every weaker one. -/
theorem allSteps_mono {weaker : State → Input → Prop}
    (hweaker : ∀ state input, allowed state input → weaker state input) {start : State}
    {inputs : List Input} (hallowed : AllSteps step allowed start inputs) :
    AllSteps step weaker start inputs := by
  induction inputs generalizing start with
  | nil => trivial
  | cons input rest ih => exact ⟨hweaker start input hallowed.1, ih hallowed.2⟩

/-- Two conditions that agree wherever an invariant holds are met by the same runs, when the steps
that meet the second one keep the invariant. -/
theorem allSteps_congr_of_kept {other : State → Input → Prop} {invariant : State → Prop}
    (hkeep : ∀ state input, other state input → invariant state → invariant (step state input))
    (hagree : ∀ state input, invariant state → (allowed state input ↔ other state input))
    {start : State} (hstart : invariant start) (inputs : List Input) :
    AllSteps step allowed start inputs ↔ AllSteps step other start inputs := by
  induction inputs generalizing start with
  | nil => exact Iff.rfl
  | cons input rest ih =>
    have hfirst := hagree start input hstart
    constructor
    · rintro ⟨hallowed, hrest⟩
      have hother := hfirst.mp hallowed
      exact ⟨hother, (ih (hkeep start input hother hstart)).mp hrest⟩
    · rintro ⟨hother, hrest⟩
      exact ⟨hfirst.mpr hother, (ih (hkeep start input hother hstart)).mpr hrest⟩

/-- Two conditions that agree wherever an invariant holds are met by the same runs. -/
theorem allSteps_congr_of_invariant {other : State → Input → Prop} {invariant : State → Prop}
    (hkeep : ∀ state input, invariant state → invariant (step state input))
    (hagree : ∀ state input, invariant state → (allowed state input ↔ other state input))
    {start : State} (hstart : invariant start) (inputs : List Input) :
    AllSteps step allowed start inputs ↔ AllSteps step other start inputs :=
  allSteps_congr_of_kept (fun state input _ ↦ hkeep state input) hagree hstart inputs

/-- The invariant rule: a property of the initial state that every allowed step keeps holds at the
end of every run whose steps are allowed. -/
theorem run_invariant_of_allSteps {property : State → Prop}
    (hstep : ∀ state input, allowed state input → property state → property (step state input))
    {start : State} (hstart : property start) {inputs : List Input}
    (hallowed : AllSteps step allowed start inputs) : property (run step start inputs) := by
  induction inputs generalizing start with
  | nil => exact hstart
  | cons input rest ih =>
    obtain ⟨hfirst, hrest⟩ := hallowed
    exact ih (hstep start input hfirst hstart) hrest

/-- When the allowed steps keep an invariant and every other step breaks a property that follows
from it, the property holds on the whole way of a run exactly when every step of it is allowed. -/
theorem forall_prefix_run_iff_allSteps_of_invariant {property invariant : State → Prop}
    (hkeep : ∀ state input, allowed state input → invariant state → invariant (step state input))
    (hclaim : ∀ state, invariant state → property state)
    (hbreak : ∀ state input, invariant state → property (step state input) → allowed state input)
    {start : State} (hstart : invariant start) (inputs : List Input) :
    (∀ way, way <+: inputs → property (run step start way)) ↔
      AllSteps step allowed start inputs := by
  induction inputs generalizing start with
  | nil =>
    refine ⟨fun _ ↦ trivial, ?_⟩
    intro _ way hway
    rw [prefix_nil.mp hway]
    exact hclaim start hstart
  | cons input rest ih =>
    constructor
    · intro hway
      have hfirst : allowed start input := hbreak start input hstart (hway [input] ⟨rest, rfl⟩)
      refine ⟨hfirst, (ih (hkeep start input hfirst hstart)).mp ?_⟩
      intro way hstarts
      exact hway (input :: way) (cons_prefix_cons.mpr ⟨rfl, hstarts⟩)
    · rintro ⟨hallowed, hrest⟩ way hway
      cases way with
      | nil => exact hclaim start hstart
      | cons first way =>
        obtain ⟨rfl, hstarts⟩ := cons_prefix_cons.mp hway
        exact (ih (hkeep start first hallowed hstart)).mpr hrest way hstarts

/-- The same for a step that keeps a property exactly in the allowed cases. -/
theorem forall_prefix_run_iff_allSteps {property : State → Prop}
    (hstep : ∀ state input, property state → (property (step state input) ↔ allowed state input))
    {start : State} (hstart : property start) (inputs : List Input) :
    (∀ way, way <+: inputs → property (run step start way)) ↔ AllSteps step allowed start inputs :=
  forall_prefix_run_iff_allSteps_of_invariant
    (fun state input hallowed h ↦ (hstep state input h).mpr hallowed)
    (fun _ h ↦ h) (fun state input h ↦ (hstep state input h).mp) hstart inputs

/-- The invariant rule with no condition on the steps. -/
theorem run_invariant {property : State → Prop}
    (hstep : ∀ state input, property state → property (step state input))
    {start : State} (hstart : property start) (inputs : List Input) :
    property (run step start inputs) := by
  induction inputs generalizing start with
  | nil => exact hstart
  | cons input rest ih => exact ih (hstep start input hstart)

/-- The invariant rule for a state together with what was given out until then. -/
theorem run_collect_invariant {emits : State → Input → List Output}
    {property : State → List Output → Prop} (hstep : ∀ state history input, allowed state input →
      property state history → property (step state input) (history ++ emits state input))
    {start : State} {history : List Output} (hstart : property start history) {inputs : List Input}
    (hallowed : AllSteps step allowed start inputs) :
    property (run step start inputs) (history ++ collect step emits start inputs) := by
  induction inputs generalizing start history with
  | nil =>
    rw [collect, append_nil]
    exact hstart
  | cons input rest ih =>
    obtain ⟨hfirst, hrest⟩ := hallowed
    rw [collect, ← append_assoc]
    exact ih (hstep start history input hfirst hstart) hrest

/-- What is given out in a run has a property when every allowed step that keeps an invariant gives
out only such. -/
theorem forall_mem_collect {emits : State → Input → List Output} {invariant : State → Prop}
    {property : Output → Prop}
    (hkeep : ∀ state input, allowed state input → invariant state → invariant (step state input))
    (hemits : ∀ state input, allowed state input → invariant state →
      ∀ output ∈ emits state input, property output)
    {start : State} (hstart : invariant start) {inputs : List Input}
    (hallowed : AllSteps step allowed start inputs) :
    ∀ output ∈ collect step emits start inputs, property output := by
  induction inputs generalizing start with
  | nil => exact fun output hnone ↦ absurd hnone not_mem_nil
  | cons input rest ih =>
    obtain ⟨hfirst, hrest⟩ := hallowed
    intro output houtput
    rcases mem_append.mp houtput with hnow | hlater
    · exact hemits start input hfirst hstart output hnow
    · exact ih (hkeep start input hfirst hstart) hrest output hlater

/-- Every step of a run meets a condition that holds of every step. -/
theorem allSteps_of_forall (hallowed : ∀ state input, allowed state input) (start : State)
    (inputs : List Input) : AllSteps step allowed start inputs := by
  induction inputs generalizing start with
  | nil => trivial
  | cons input rest ih => exact ⟨hallowed start input, ih (step start input)⟩

end Run

end ZipGateway.Lib
