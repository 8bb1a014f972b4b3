import ZipGateway.Lib.Run
import ZipGateway.Lib.Scratch
import ZipGateway.TsParam

/-!
# The classes that are supported under S0

A node that has the S0 key may ask for the command classes that the gateway supports under S0. The
answer has the classes that were registered with `security_set_supported_classes`, and behind them
the ones of `SecureClassesPAN`, as far as there is room. It is sent by the state machine
`Secure_learn`, when that is idle.

A question that is addressed to another node of the gateway gets an empty answer, and with it the
number of the registered classes is set to 0, so that later answers leave these classes out.
`stable_iff` says that the answers are right, and stay so, exactly when this does not happen and no
list is registered that is too long for the buffer.
-/

set_option autoImplicit false

namespace ZipGateway.SecurityLayer

open Lib

/-! ### Constants and state -/

def commandClassSecurity : UInt8 := 0x98

def securityCommandsSupportedReport : UInt8 := 0x03

def securityScheme0 : UInt8 := 7

def keyClassS0 : UInt8 := 0x80

/-- `sizeof(tx.cmd)`. -/
def txSize : ℕ := 64

/-- `SecureClassesPAN`, of which `nSecureClassesPAN` bytes are used. -/
structure PanClasses where
  classes : List UInt8
  /-- The array has 16 bytes. -/
  isShort : classes.length ≤ 16

/-- A report that was given to `ZW_SendDataAppl`. -/
structure Report where
  param : TsParam
  /-- It is sent from `MyNodeID`, and the network has S0. -/
  own : Bool
  /-- What was registered when the report was made. -/
  registered : List UInt8
  frame : List UInt8
  /-- Nothing was written past the end of `tx.cmd`. -/
  inside : Bool
deriving Repr

/-- The states of `Secure_learn`. Learn mode and inclusion are one state. -/
inductive Region
  | idle
  | sendReport
  | learning
deriving DecidableEq, Repr

/-- The state of the module. -/
structure State where
  /-- The classes that `secureCommandClassesList[0]` was set to. -/
  registered : List UInt8
  /-- `secureCommandClassesListCount[0]`. -/
  count : UInt8
  curTsparm : TsParam
  region : Region
  /-- `commandsSupportedRequest_raised`. -/
  requestRaised : Bool
  /-- `tx_done_raised` or `tx_fail_raised`. -/
  txRaised : Bool
  /-- The reports, the newest first. -/
  reports : List Report

/-- The module before anything is registered. -/
def State.initial : State := ⟨[], 0, default, .idle, false, false, []⟩

/-! ### Answers -/

section Answers

variable (pan : PanClasses)

/-- The first three bytes of a report. -/
def header : List UInt8 := [commandClassSecurity, securityCommandsSupportedReport, 0]

/-- `roomLeft`, which is kept in a byte. -/
def roomLeft (s : State) : UInt8 := UInt8.ofNat txSize - 3 - s.count

/-- `copyLen`. -/
def copyLen (s : State) : ℕ :=
  if pan.classes.length < (roomLeft s).toNat then pan.classes.length else (roomLeft s).toNat

/-- The report that is made in a state, in a buffer that has some bytes of older frames. -/
def reportOf (tx : ℕ → UInt8) (own : Bool) (s : State) : Report :=
  let scratch : Scratch := ⟨⟨txSize, tx⟩, fun _ ↦ false, true⟩
  let scratch := scratch.put 0 header
  if own then
    let scratch := scratch.put 3 (s.registered.take s.count.toNat)
    let scratch := scratch.put (3 + s.count.toNat) (pan.classes.take (copyLen pan s))
    let len := s.count.toNat + copyLen pan s
    ⟨s.curTsparm, own, s.registered, scratch.buffer.load 0 ((3 + len) % 256), scratch.inside⟩
  else ⟨s.curTsparm, own, s.registered, scratch.buffer.load 0 3, scratch.inside⟩

/-- `secure_learnIface_send_commands_supported`. -/
def secureLearnIfaceSendCommandsSupported (tx : ℕ → UInt8) (own accepts : Bool) (s : State) :
    State :=
  { s with
    count := if own then s.count else 0
    reports := reportOf pan tx own s :: s.reports
    txRaised := s.txRaised || !accepts }

end Answers

/-! ### The module -/

/-- `security_set_supported_classes`. -/
def securitySetSupportedClasses (classes : List UInt8) (s : State) : State :=
  { s with registered := classes, count := UInt8.ofNat classes.length }

/-- A Security Commands Supported Get. -/
structure Get where
  param : TsParam
  /-- What `ZW_SendData_scheme_select` chooses for the answer. -/
  replyScheme : UInt8
  assignedKeys : UInt8

/-- `security_CommandHandler`, for a Security Commands Supported Get. -/
def securityCommandHandler (get : Get) (s : State) : State :=
  if s.region = .idle ∧ get.assignedKeys &&& keyClassS0 = 0 then s
  else if get.param.scheme = securityScheme0 then
    { s with
      curTsparm := tsParamMakeReply (fun _ ↦ get.replyScheme) get.param
      requestRaised := true }
  else s

/-- What a cycle of the state machine meets. -/
structure Cycle where
  myNodeID : UInt16
  netScheme : UInt8
  /-- A request for learn mode or for an inclusion has been raised. -/
  begins : Bool
  /-- Learn mode or an inclusion comes to its end. -/
  ends : Bool
  /-- `ZW_SendDataAppl` takes a report. -/
  accepts : Bool
  /-- What is in the buffer `tx`. -/
  tx : ℕ → UInt8

/-- A report would be one from `MyNodeID`, with S0. -/
def Cycle.own (cycle : Cycle) (s : State) : Bool :=
  decide (s.curTsparm.snode = cycle.myNodeID) && decide (cycle.netScheme = securityScheme0)

/-- A cycle makes a report. -/
def Cycle.Answers (cycle : Cycle) (s : State) : Prop :=
  s.region = .idle ∧ cycle.begins = false ∧ s.requestRaised = true

instance (cycle : Cycle) (s : State) : Decidable (cycle.Answers s) :=
  inferInstanceAs (Decidable (_ ∧ _))

section Steps

variable (pan : PanClasses)

/-- The reactions of the states. -/
def react (cycle : Cycle) (s : State) : State :=
  match s.region with
  | .idle =>
    if cycle.begins then { s with region := .learning }
    else if s.requestRaised then
      { secureLearnIfaceSendCommandsSupported pan cycle.tx
        (cycle.own s) cycle.accepts s with region := .sendReport }
    else s
  | .sendReport => if s.txRaised then { s with region := .idle } else s
  | .learning => if cycle.ends then { s with region := .idle } else s

/-- `secure_learn_runCycle`. -/
def runCycle (cycle : Cycle) (s : State) : State :=
  { react pan cycle s with requestRaised := false, txRaised := false }

/-- What happens to the module. -/
inductive Event
  | register (classes : List UInt8) (isByte : classes.length < 256)
  | get (get : Get)
  | cycle (cycle : Cycle)
  /-- `send_data_callback`. -/
  | transmitted

/-- What the module does. -/
def step (s : State) : Event → State
  | .register classes _ => securitySetSupportedClasses classes s
  | .get get => securityCommandHandler get s
  | .cycle cycle => runCycle pan cycle s
  | .transmitted => { s with txRaised := true }

end Steps

/-! ### Right answers -/

/-- The report as it should be. -/
def expected (pan : PanClasses) (own : Bool) (registered : List UInt8) : List UInt8 :=
  header ++ if own then registered ++ pan.classes.take (txSize - 3 - registered.length) else []

/-- A report has the right classes, and the buffer has room for it. -/
def Report.Right (pan : PanClasses) (report : Report) : Prop :=
  report.inside = true ∧ report.frame.length ≤ txSize ∧
    report.frame = expected pan report.own report.registered

/-- The reports were right, and whoever asks next gets the right one, from what was registered
alone. -/
def Stable (pan : PanClasses) (s : State) : Prop :=
  (∀ report ∈ s.reports, report.Right pan) ∧ ∀ tx own, (reportOf pan tx own s).Right pan

/-- What has to be so before a step. -/
def Keeps (s : State) : Event → Prop
  | .register classes _ => classes.length ≤ txSize - 3
  | .cycle cycle => cycle.Answers s → cycle.own s = false → s.registered = []
  | _ => True

/-! ### One answer -/

section Answer

variable {pan : PanClasses} {s : State}

/-- A report for another node is always the same. -/
theorem right_reportOf_other (tx : ℕ → UInt8) : (reportOf pan tx false s).Right pan := by
  have hframe : (reportOf pan tx false s).frame = header := standsAt_write.load_eq
  refine ⟨rfl, ?_, hframe⟩
  rw [hframe]
  decide

theorem copyLen_eq : copyLen pan s = min pan.classes.length (roomLeft s).toNat := by
  unfold copyLen
  split_ifs with hfew
  · exact (Nat.min_eq_left hfew.le).symm
  · exact (Nat.min_eq_right (Nat.le_of_not_lt hfew)).symm

theorem copyLen_le : copyLen pan s ≤ pan.classes.length :=
  copyLen_eq.trans_le (Nat.min_le_left ..)

/-- The room that is left behind classes that fit. -/
theorem roomLeft_toNat (hroom : s.count.toNat ≤ txSize - 3) : (roomLeft s).toNat = txSize - 3 -
    s.count.toNat :=
  UInt8.toNat_sub_of_le _ _ (UInt8.le_iff_toNat_le.mpr hroom)

/-- The classes that a report lists, when its size fits into a byte. -/
theorem frame_reportOf (tx : ℕ → UInt8) (hcount : s.count.toNat ≤ s.registered.length)
    (hbyte : 3 + (s.count.toNat + copyLen pan s) < 256) :
    (reportOf pan tx true s).frame =
      header ++ s.registered.take s.count.toNat ++ pan.classes.take (copyLen pan s) := by
  have hlisted : (s.registered.take s.count.toNat).length = s.count.toNat :=
    List.length_take_of_le hcount
  have hothers : (pan.classes.take (copyLen pan s)).length = copyLen pan s :=
    List.length_take_of_le copyLen_le
  let listed := (Buffer.write ⟨txSize, tx⟩ 0 header).write 3 (s.registered.take s.count.toNat)
  have hclasses : StandsAt listed.byte 0 (header ++ s.registered.take s.count.toNat) :=
    standsAt_write.write_behind rfl
  have hend : 3 + s.count.toNat = 0 + (header ++ s.registered.take s.count.toNat).length := by
    rw [List.length_append, hlisted, Nat.zero_add]
    rfl
  have hall : StandsAt (listed.write (3 + s.count.toNat) (pan.classes.take (copyLen pan s))).byte 0
      (header ++ s.registered.take s.count.toNat ++ pan.classes.take (copyLen pan s)) :=
    hclasses.write_behind hend
  have hframe := hall.load_eq
  rw [List.length_append, List.length_append, hlisted, hothers, Nat.add_assoc] at hframe
  change Buffer.load _ 0 ((3 + (s.count.toNat + copyLen pan s)) % 256) = _
  rw [Nat.mod_eq_of_lt hbyte]
  exact hframe

/-- A report stays inside of the buffer exactly when there is room for what is listed. -/
theorem inside_reportOf (tx : ℕ → UInt8) (hcount : s.count.toNat ≤ s.registered.length) :
    (reportOf pan tx true s).inside = true ↔ 3 + s.count.toNat + copyLen pan s ≤ txSize := by
  have hlisted : (s.registered.take s.count.toNat).length = s.count.toNat :=
    List.length_take_of_le hcount
  have hothers : (pan.classes.take (copyLen pan s)).length = copyLen pan s :=
    List.length_take_of_le copyLen_le
  let scratch : Scratch := (Scratch.mk ⟨txSize, tx⟩ (fun _ ↦ false) true).put 0 header
  have hheader : scratch.inside = true := rfl
  have hfirst : (scratch.put 3 (s.registered.take s.count.toNat)).inside = true ↔
      3 + s.count.toNat ≤ txSize := by
    rw [Scratch.inside_put, hlisted]
    exact and_iff_right hheader
  change ((scratch.put 3 _).put (3 + s.count.toNat) _).inside = true ↔ _
  rw [Scratch.inside_put, hothers]
  exact and_iff_right_of_imp fun hfits ↦ hfirst.mpr ((Nat.le_add_right ..).trans hfits)

/-- While the number is the one of the registered classes, and they fit, the report is right. -/
theorem right_reportOf_own (hcount : s.count.toNat = s.registered.length)
    (hshort : s.registered.length ≤ txSize - 3) (tx : ℕ → UInt8) :
      (reportOf pan tx true s).Right pan := by
  have hroom : (roomLeft s).toNat = txSize - 3 - s.registered.length := by
    rw [roomLeft_toNat (hcount.trans_le hshort), hcount]
  have hcopied : copyLen pan s ≤ txSize - 3 - s.registered.length := by
    rw [copyLen_eq, hroom]
    exact Nat.min_le_right ..
  have hfits : 3 + s.count.toNat + copyLen pan s ≤ txSize := by
    have hsize : txSize = 64 := rfl
    omega
  have hothers :
      pan.classes.take (copyLen pan s) = pan.classes.take (txSize - 3 - s.registered.length) := by
    rw [copyLen_eq, hroom, Nat.min_comm]
    exact List.take_eq_take_min.symm
  have hbyte : 3 + (s.count.toNat + copyLen pan s) < 256 :=
    ((Nat.add_assoc ..).symm.trans_le hfits).trans_lt (by decide)
  have hframe := frame_reportOf tx hcount.le hbyte
  refine ⟨(inside_reportOf tx hcount.le).mpr hfits, ?_, ?_⟩
  · rw [hframe, List.length_append, List.length_append, List.length_take, List.length_take]
    have hheader : header.length = 3 := rfl
    omega
  · rw [hframe, hcount, List.take_length, hothers, List.append_assoc]
    rfl

/-- Where the number has been lost, the report is not right. -/
theorem not_right_of_lost (hlost : s.count = 0) (hsome : s.registered ≠ []) (tx : ℕ → UInt8) :
    ¬(reportOf pan tx true s).Right pan := by
  have hcount : s.count.toNat = 0 := congrArg UInt8.toNat hlost
  have hroom : (roomLeft s).toNat = 61 := by
    rw [roomLeft_toNat (hcount.trans_le (Nat.zero_le _)), hcount]
    rfl
  have hpan := pan.isShort
  have hcopied : copyLen pan s = pan.classes.length := by
    rw [copyLen_eq, hroom]
    exact Nat.min_eq_left (by omega)
  have hlength : (reportOf pan tx true s).frame.length = 3 + pan.classes.length := by
    rw [frame_reportOf tx (hcount.trans_le (Nat.zero_le _)) (by omega), hcount, hcopied,
      List.take_length]
    exact List.length_append
  have hexpected : (expected pan true s.registered).length =
      3 + (s.registered.length + min (txSize - 3 - s.registered.length) pan.classes.length) := by
    simp only [expected, if_true, List.length_append, List.length_take]
    rfl
  have hpositive : 0 < s.registered.length := List.length_pos_iff.mpr hsome
  rintro ⟨-, -, hright⟩
  have hsame : (reportOf pan tx true s).frame.length = (expected pan true s.registered).length :=
    congrArg List.length hright
  have hsize : txSize = 64 := rfl
  omega

/-- A list that does not fit is written past the end of the buffer. -/
theorem not_right_of_long (hcount : s.count.toNat = s.registered.length)
    (hlong : txSize - 3 < s.registered.length) (tx : ℕ → UInt8) :
    ¬(reportOf pan tx true s).Right pan := by
  rintro ⟨hinside, -⟩
  have hfits := (inside_reportOf tx hcount.le).mp hinside
  have hsize : txSize = 64 := rfl
  omega

end Answer

/-! ### Runs -/

/-- The reports were right, and the number is the one of the registered classes, which fit. -/
structure Sound (pan : PanClasses) (s : State) : Prop where
  sent : ∀ report ∈ s.reports, report.Right pan
  counts : s.count.toNat = s.registered.length
  isShort : s.registered.length ≤ txSize - 3

section Runs

variable {pan : PanClasses} {s : State}

theorem Sound.right (hsound : Sound pan s) (tx : ℕ → UInt8)
    (own : Bool) : (reportOf pan tx own s).Right pan := by
  cases own with
  | false => exact right_reportOf_other tx
  | true => exact right_reportOf_own hsound.counts hsound.isShort tx

theorem Sound.stable (hsound : Sound pan s) : Stable pan s :=
  ⟨hsound.sent, fun tx own ↦ hsound.right tx own⟩

theorem sound_initial : Sound pan State.initial where
  sent := nofun
  counts := rfl
  isShort := Nat.zero_le _

/-- Only what was registered, the number of it and the reports matter. -/
theorem Sound.congr (hsound : Sound pan s) {t : State} (hregistered : t.registered = s.registered)
    (hcount : t.count = s.count) (hreports : t.reports = s.reports) : Sound pan t where
  sent := hreports ▸ hsound.sent
  counts := by rw [hregistered, hcount, hsound.counts]
  isShort := hregistered ▸ hsound.isShort

/-- A cycle that makes a report does nothing else. -/
theorem runCycle_of_answers {cycle : Cycle} (hanswers : cycle.Answers s) :
    runCycle pan cycle s =
      { s with
        count := if cycle.own s then s.count else 0
        reports := reportOf pan cycle.tx (cycle.own s) s :: s.reports
        region := .sendReport
        requestRaised := false
        txRaised := false } := by
  obtain ⟨hidle, hbegins, hraised⟩ := hanswers
  simp [runCycle, react, secureLearnIfaceSendCommandsSupported, hidle, hbegins, hraised]

/-- A cycle that makes no report leaves what answers depend on. -/
theorem Sound.runCycle_quiet (hsound : Sound pan s) {cycle : Cycle} (hquiet : ¬cycle.Answers s) :
    Sound pan (runCycle pan cycle s) := by
  have hsame : (react pan cycle s).registered = s.registered ∧ (react pan cycle s).count = s.count ∧
      (react pan cycle s).reports = s.reports := by
    unfold react
    cases hregion : s.region with
    | idle =>
      dsimp only
      split_ifs with hbegins hraised
      · exact ⟨rfl, rfl, rfl⟩
      · exact absurd ⟨hregion, Bool.eq_false_iff.mpr hbegins, hraised⟩ hquiet
      · exact ⟨rfl, rfl, rfl⟩
    | sendReport =>
      dsimp only
      split_ifs <;> exact ⟨rfl, rfl, rfl⟩
    | learning =>
      dsimp only
      split_ifs <;> exact ⟨rfl, rfl, rfl⟩
  exact hsound.congr hsame.1 hsame.2.1 hsame.2.2

/-- A report is right, and leaves the next ones right when it is not the one that loses a number. -/
theorem Sound.runCycle_answers (hsound : Sound pan s) {cycle : Cycle} (hanswers : cycle.Answers s)
    (hkeeps : cycle.own s = false → s.registered = []) : Sound pan (runCycle pan cycle s) := by
  rw [runCycle_of_answers hanswers]
  refine ⟨?_, ?_, hsound.isShort⟩
  · exact List.forall_mem_cons.mpr ⟨hsound.right cycle.tx (cycle.own s), hsound.sent⟩
  · cases hown : cycle.own s with
    | true => exact hsound.counts
    | false =>
      change 0 = s.registered.length
      rw [hkeeps hown, List.length_nil]

/-- A report for another node loses the number, not the list. -/
theorem lost_runCycle {cycle : Cycle} (hanswers : cycle.Answers s) (hother : cycle.own s = false) :
    (runCycle pan cycle s).count = 0 ∧ (runCycle pan cycle s).registered = s.registered := by
  rw [runCycle_of_answers hanswers, hother]
  exact ⟨rfl, rfl⟩

/-- A Get changes nothing that answers depend on. -/
theorem Sound.get (hsound : Sound pan s) (get : Get) :
    Sound pan (securityCommandHandler get s) := by
  unfold securityCommandHandler
  split_ifs
  · exact hsound
  · exact hsound.congr rfl rfl rfl
  · exact hsound

/-- A registered list has its own number. -/
theorem toNat_count_register {classes : List UInt8} (hbyte : classes.length < 256) :
    (securitySetSupportedClasses classes s).count.toNat = classes.length :=
  UInt8.toNat_ofNat_of_lt' hbyte

theorem Sound.register (hsound : Sound pan s) {classes : List UInt8} (hbyte : classes.length < 256)
    (hshort : classes.length ≤ txSize - 3) : Sound pan (securitySetSupportedClasses classes s) :=
  ⟨hsound.sent, toNat_count_register hbyte, hshort⟩

/-- The step lemma: a step with which nothing is lost keeps the answers right. -/
theorem sound_step (state : State) (event : Event) (hkeeps : Keeps state event)
    (hsound : Sound pan state) : Sound pan (step pan state event) := by
  cases event with
  | register classes hbyte => exact hsound.register hbyte hkeeps
  | get get => exact hsound.get get
  | cycle cycle =>
    by_cases hanswers : cycle.Answers state
    · exact hsound.runCycle_answers hanswers (hkeeps hanswers)
    · exact hsound.runCycle_quiet hanswers
  | transmitted => exact hsound.congr rfl rfl rfl

/-- Any other step breaks the answers. -/
theorem keeps_of_stable (state : State) (event : Event)
    (hstable : Stable pan (step pan state event)) : Keeps state event := by
  have hright := hstable.2 (fun _ ↦ 0) true
  cases event with
  | register classes hbyte =>
    by_contra hlong
    exact not_right_of_long (toNat_count_register hbyte) (Nat.lt_of_not_le hlong) _ hright
  | get _ => trivial
  | cycle cycle =>
    intro hanswers hother
    by_contra hsome
    have hlost : (runCycle pan cycle state).count = 0 ∧
        (runCycle pan cycle state).registered = state.registered :=
      lost_runCycle hanswers hother
    obtain ⟨hcount, hregistered⟩ := hlost
    rw [← hregistered] at hsome
    exact not_right_of_lost hcount hsome _ hright
  | transmitted => trivial

end Runs

/-- On the whole way of a run, every report was right, and the next one is right, whoever it is for,
exactly when no step registers a list of more than 61 classes, and none answers another node while
some class is registered. -/
theorem stable_iff (pan : PanClasses) (events : List Event) :
    (∀ way, way <+: events → Stable pan (run (step pan) State.initial way)) ↔
      AllSteps (step pan) Keeps State.initial events := by
  have hkeep : ∀ state event, Keeps state event → Sound pan state →
      Sound pan (step pan state event) :=
    sound_step
  have hclaim : ∀ state, Sound pan state → Stable pan state := fun _ hsound ↦ hsound.stable
  have hbreak : ∀ state event, Sound pan state → Stable pan (step pan state event) →
      Keeps state event :=
    fun state event _ ↦ keeps_of_stable state event
  exact forall_prefix_run_iff_allSteps_of_invariant hkeep hclaim hbreak sound_initial events

/-- Two classes are registered. Node 5 asks node 2, a virtual node, and then node 1, which is
`MyNodeID`. The second answer lists no class. -/
theorem stable_fail :
    ¬∀ (pan : PanClasses) (events : List Event) (way : List Event), way <+: events →
      Stable pan (run (step pan) State.initial way) := by
  intro hstable
  let pan : PanClasses := ⟨[], by decide⟩
  let ask (node : UInt16) : Event :=
    .get ⟨{ (default : TsParam) with snode := 5, dnode := node, scheme := 7 }, 7, 0x80⟩
  let cycle : Event := .cycle ⟨1, securityScheme0, false, false, true, fun _ ↦ 0⟩
  let events : List Event :=
    [.register [0x85, 0x59] (by decide), ask 2, cycle, .transmitted, cycle, ask 1, cycle]
  have hreports := (hstable pan events events (List.prefix_refl events)).1
  have hlast := (List.forall_mem_cons.mp hreports).1.2.2
  exact absurd hlast (by decide +kernel)

end ZipGateway.SecurityLayer
