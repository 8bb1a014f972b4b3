import ZipGateway.SendDataAppl.Ownership

/-!
# Whose frame is reported

`send_data_callback_func` is told that a frame was sent, but not which one, and takes the first
session of the low-level queue. While a frame is under way the first session is the one whose frame
was handed over last (`SendingOk`). So the report is taken for the right session as long as it is
that frame that is reported; a late report of a frame that was given up, or a second one of a frame
that is done, does nothing when no frame is under way, and completes the wrong session otherwise.
-/

set_option autoImplicit false

namespace ZipGateway.SendDataAppl

open Lib

/-- A session that is completed by a report is the one whose frame is reported. -/
def Attributed (log : List Act) : Prop :=
  ∀ serial reported, .completed serial (.report reported) ∈ log → serial = reported

/-- What may be logged when completions are attributed right. -/
def Act.attributed : Act → Prop
  | .completed serial (.report reported) => serial = reported
  | .completed _ _ => True
  | _ => False

/-- While a frame is under way, only the frame that was handed over last is reported. -/
def OwnReport (s : SendQueues) : Input → Prop
  | .rawReport k _ _ => s.frames = [] → s.lockLl = true → ∀ serial, s.raw[k]? = some serial →
      s.raw.head? = some serial
  | _ => True

section Attribution

variable {s t : SendQueues} {config : Config}

theorem Attributed.settles (hattributed : Attributed s.log)
    (hsettles : Settles Act.attributed s t) : Attributed t.log := by
  intro serial reported hmem
  rcases hsettles.log _ hmem with hmem | hplain | hnew
  · exact hattributed serial reported hmem
  · exact absurd hplain (by simp [Act.plain])
  · exact hnew

theorem Attributed.change (hattributed : Attributed s.log) (hchange : Change Act.attributed s t) :
    Attributed t.log := by
  cases hchange with
  | settles hsettles => exact hattributed.settles hsettles
  | allocate i => exact hattributed
  | addSession i hsettles =>
    have hfilled := Attributed.settles (s := s.allocate i) hattributed hsettles
    exact hfilled
  | addSendData i hsettles =>
    have hfilled := Attributed.settles (s := s.allocate i) hattributed hsettles
    exact hfilled
  | hand i rest hlist =>
    intro serial reported hmem
    rcases List.mem_cons.mp hmem with heq | hmem
    · exact absurd heq (by simp)
    · exact hattributed serial reported hmem
  | init => exact hattributed

/-- The invariant of runs whose reports are those of the frame under way. -/
structure AttributionOk (s : SendQueues) : Prop where
  inv : Inv s
  attributed : Attributed s.log

theorem attributionOk_powerUp : AttributionOk SendQueues.powerUp :=
  ⟨inv_powerUp, fun _ _ hmem ↦ absurd hmem (by simp [SendQueues.powerUp])⟩

/-- A step whose report is one of the frame under way. -/
theorem attributed_step (hstate : AttributionOk s) {input : Input} (hown : OwnReport s input) :
    Attributed (step config s input).log := by
  have hchanges : Changes Act.attributed s (step config s input) := by
    refine step_changes s input (fun _ ↦ trivial) (fun _ ↦ trivial) (fun _ ↦ rfl)
      fun k status ts serial i hinput hframes hraw hlock hhead ↦ ?_
    subst hinput
    -- The first session is the one whose frame was handed over last.
    obtain ⟨j, rest, hlist, -, hlast⟩ := hstate.inv.sending hlock (by rw [hframes]; rfl)
    rw [hlist] at hhead
    obtain rfl := Option.some.inj hhead
    have hreported := hown hframes hlock serial hraw
    rw [hlast] at hreported
    exact Option.some.inj hreported
  exact Changes.invariant (fun hstate hchange ↦ Attributed.change hstate hchange) hchanges
    hstate.attributed

/-- In every run in which, while a frame is under way, only that frame is reported, every session
that a report completes is the one whose frame is reported. -/
theorem completions_attributed (config : Config) (inputs : List Input)
    (hallowed : AllSteps (step config) (fun s input ↦ InTime s input ∧ OwnReport s input) .powerUp
      inputs) : Attributed (run (step config) .powerUp inputs).log := by
  have hrun : AttributionOk (run (step config) .powerUp inputs) := by
    refine run_invariant_of_allSteps
      (fun s input hallowed hstate ↦ ?_) attributionOk_powerUp hallowed
    exact ⟨inv_step hstate.inv hallowed.1, attributed_step hstate hallowed.2⟩
  exact hrun.attributed

end Attribution

/-! ### A late report -/

/-- The gateway sends a frame of a security layer. -/
def sampleFrame (user : ℕ) : Input :=
  .sendData ⟨1, 5, 0, 0, 0, 0, 0⟩ false [0x98, 0x40] user true

/-- The report of a frame comes after the emergency timer has given the frame up, and before the
next frame is handed over. -/
def lateReport : List Input :=
  [sampleFrame 1, sampleFrame 2, .sendNextLl .taken, .emergencyTimeout, .ret,
    .rawReport 0 transmitCompleteOk true, .sendNextLl .taken, .rawReport 0 transmitCompleteOk true]

theorem completions_attributed_lateReport :
    (run (step sampleConfig) .powerUp lateReport).log =
        [.told 2 (.external 2) transmitCompleteOk, .freed 2 true false, .completed 2 (.report 2),
          .freed 1 true false, .told 1
            (.external 1) transmitCompleteFail, .completed 1 .emergency] ∧
      Attributed (run (step sampleConfig) .powerUp lateReport).log := by
  refine ⟨by decide +kernel, completions_attributed sampleConfig lateReport ?_⟩
  refine ⟨⟨trivial, trivial⟩, ⟨trivial, trivial⟩, ⟨trivial, trivial⟩, ⟨trivial, trivial⟩,
    ⟨trivial, trivial⟩, ⟨trivial, fun _ hlock ↦ ?_⟩, ⟨trivial, trivial⟩,
    ⟨trivial, fun _ _ serial hserial ↦ ?_⟩, trivial⟩
  · exact absurd hlock (by decide +kernel)
  · rw [← hserial]
    decide +kernel

/-- The report of frame 1, which was given up, comes while frame 2 is under way, and completes
session 2. -/
theorem later_session_completed :
    ¬ ∀ (config : Config) (inputs : List Input),
      Attributed (run (step config) .powerUp inputs).log := by
  intro hclaim
  have hattributed := hclaim sampleConfig
    [sampleFrame 1, sampleFrame 2, .sendNextLl .taken, .emergencyTimeout, .ret, .sendNextLl .taken,
      .rawReport 1 transmitCompleteOk true]
  exact absurd (hattributed 2 1 (by decide +kernel)) (by decide)

end ZipGateway.SendDataAppl
