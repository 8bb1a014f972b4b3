import ZipGateway.ProbeCcVersion.Model

/-!
# The class version probe completes

The probe calls its callback once, reports success only when every request succeeded, asks for each
class once, and stays in its table, exactly when the table has between 1 and 255 entries and every
request is taken, is for a class that was not asked for before, and, when it is the one for the
Z-Wave software, is answered or follows a failure (`completes_iff`). The node of the gateway itself
is not asked at all.

`Running` is the invariant of a probe that has not finished, and `remaining` bounds the steps that
are left.
-/

set_option autoImplicit false

namespace ZipGateway.ProbeCcVersion

open List

/-! ### The promise and the condition -/

/-- The classes that were asked for. -/
def classesOf (requests : List Request) : List UInt16 :=
  requests.filterMap fun
    | .versionCc cls => some cls
    | _ => none

/-- What the probe promises. -/
structure Completes (c : Setting) (myNodeId : UInt16) (n : Node) : Prop where
  called_once : ∃ enough, ∀ steps ≥ enough, (probeAfter c myNodeId n steps).calls.length = 1
  success_means_success : ∀ steps, (0, probeHasCompleted) ∈ (probeAfter c myNodeId n steps).calls →
    (probeAfter c myNodeId n steps).allSucceeded = true
  asked_once : ∀ steps, (classesOf (probeAfter c myNodeId n steps).requests).Nodup
  in_table : ∀ steps, (probeAfter c myNodeId n steps).control ≠ .pastEnd

/-- The request that the handling of an event sends. -/
def requestOf (c : Setting) (ev : PcvEvent) (s : Probe) : Option Request :=
  match s.state with
  | .sendVersionCcGet =>
    (c.table.read s.probeCcIdx).bind fun entry ↦
      if (ev = .start ∨ ev = .notLast) ∧
          rdEpClassSupport s.node c.endpointInfo entry.commandClass &&& supported ≠ 0 ∧
          rdNodeCcVersionGet s.node entry.commandClass = 0 then
        some (.versionCc entry.commandClass)
      else none
  | .sendVersionCapGet =>
    if ev = .isV3 ∧ s.node.nodeVersionCapAndZwaveSw = 0 then some .versionCapabilities else none
  | .sendVersionZwsGet =>
    if (ev = .versionCapReportRecv ∨ ev = .capProbed) ∧
        zwsSupported s.node.nodeVersionCapAndZwaveSw = true ∧ s.node.nodeIsZwsProbed = false then
      some .versionZwaveSoftware
    else none
  | _ => none

/-- The condition on a request. -/
structure Allowed (outcome : Outcome) (request : Request) (s : Probe) : Prop where
  taken : outcome ≠ .refused
  fresh : ∀ cls, request = .versionCc cls → cls ∉ classesOf s.requests
  software : request = .versionZwaveSoftware → outcome = .failed → s.node.probeFlags = probeFailed

/-- The condition on the state before a step. -/
def AllowedAt (c : Setting) (s : Probe) : Prop :=
  ∀ ev, s.control = .post ev → ∀ request, requestOf c ev s = some request →
    Allowed (c.outcome s.requests.length) request s

/-! ### The table -/

section Table

variable {table : Table} {idx : UInt8}

theorem Table.read_of_lt (hidx : idx.toNat < table.entries.length) :
    ∃ entry ∈ table.entries, table.read idx = some entry := by
  refine ⟨table.entries[idx.toNat], getElem_mem hidx, ?_⟩
  unfold Table.read
  rw [List.getElem?_append_left hidx, List.getElem?_eq_getElem hidx]

theorem Table.read_of_eq (hidx : idx.toNat = table.entries.length) :
    table.read idx = some endMark := by
  unfold Table.read
  rw [List.getElem?_append_right (Nat.le_of_eq hidx.symm), hidx, Nat.sub_self]
  rfl

theorem Table.read_of_gt (hidx : table.entries.length < idx.toNat) : table.read idx = none := by
  refine List.getElem?_eq_none ?_
  rw [length_append, length_singleton]
  exact hidx

end Table

/-! ### The invariant of a running probe -/

/-- The event is one that the state handles, and the index is in the table. -/
def Handles (c : Setting) (ev : PcvEvent) (s : Probe) : Prop :=
  match s.state with
  | .idle => ev = .initial
  | .sendVersionCcGet => (ev = .start ∨ ev = .notLast) ∧ s.probeCcIdx.toNat < c.table.entries.length
  | .lastReport => (ev = .versionCcReportRecv ∨ ev = .ccProbed ∨ ev = .ccNotSupport ∨
      ev = .versionCcCallbackFail) ∧ s.probeCcIdx.toNat ≤ c.table.entries.length
  | .checkIfV3 => ev = .versionCcDone
  | .sendVersionCapGet => ev = .isV3
  | .sendVersionZwsGet => ev = .versionCapReportRecv ∨ ev = .capProbed
  | .versionProbeDone => ev = .zwsNotSupport ∨ ev = .versionZwsReportRecv ∨ ev = .notV3 ∨
      ev = .versionZwsCallbackFail ∨ ev = .versionCapCallbackFail ∨ ev = .zwsProbed

/-- What was done so far is in order: no call of the callback, a failure is flagged, no class
twice. -/
structure Tidy (s : Probe) : Prop where
  no_calls : s.calls = []
  flagged : s.allSucceeded = false → s.node.probeFlags = probeFailed
  asked_once : (classesOf s.requests).Nodup

/-- The probe is handling an event. -/
structure Running (c : Setting) (ev : PcvEvent) (s : Probe) : Prop where
  posts : s.control = .post ev
  handles : Handles c ev s
  tidy : Tidy s

/-- The probe has called its callback. -/
structure Finished (s : Probe) : Prop where
  returned : s.control = .returned
  called_once : s.calls.length = 1
  success_means_success : (0, probeHasCompleted) ∈ s.calls → s.allSucceeded = true
  asked_once : (classesOf s.requests).Nodup

/-- A bound on the steps that are left. -/
def remaining (c : Setting) (s : Probe) : ℕ :=
  match s.state with
  | .idle => 2 * c.table.entries.length + 7
  | .sendVersionCcGet => 2 * (c.table.entries.length - s.probeCcIdx.toNat) + 5
  | .lastReport => 2 * (c.table.entries.length - s.probeCcIdx.toNat) + 6
  | .checkIfV3 => 4
  | .sendVersionCapGet => 3
  | .sendVersionZwsGet => 2
  | .versionProbeDone => 1

/-- The probe goes on, with fewer steps left than a bound. -/
def GoesOn (c : Setting) (bound : ℕ) (s : Probe) : Prop :=
  ∃ ev, Running c ev s ∧ remaining c s < bound

section Answers

variable {c : Setting} {s : Probe} {outcome : Outcome} {request : Request}

@[simp]
theorem probeFlags_rdNodeCcVersionSet (cls : UInt16) (version : UInt8) (n : Node) :
    (rdNodeCcVersionSet cls version n).probeFlags = n.probeFlags := by
  unfold rdNodeCcVersionSet
  split_ifs <;> rfl

/-- The request is on record. -/
def Probe.sent (outcome : Outcome) (request : Request) (s : Probe) : Probe :=
  { s with
    requests := request :: s.requests
    allSucceeded := s.allSucceeded && outcome.succeeds request }

/-- What the callback of a request that was taken is given. -/
def Outcome.pCmd : Outcome → Option (List UInt8)
  | .report pCmd => some pCmd
  | _ => none

theorem sendRequest_of_taken (htaken : outcome ≠ .refused) :
    sendRequest outcome request s = request.answer outcome.pCmd (s.sent outcome request) := by
  cases outcome with
  | refused => exact absurd rfl htaken
  | failed => rfl
  | report pCmd => rfl

/-- The class callback moves to the next class. A request that does not succeed is flagged. -/
theorem ccVersionCallback_eq (cls : UInt16) (htaken : outcome ≠ .refused) : ∃ node ev,
    (ev = .versionCcReportRecv ∨ ev = .versionCcCallbackFail) ∧
    (node.probeFlags = s.node.probeFlags ∨ node.probeFlags = probeFailed) ∧
    (outcome.succeeds (.versionCc cls) = false → node.probeFlags = probeFailed) ∧
    ccVersionCallback cls outcome.pCmd s =
      (Probe.advance { s with node := node }).post .lastReport ev := by
  have hfailed : (s.flag probeFailed).node.probeFlags = probeFailed := rfl
  cases outcome with
  | refused => exact absurd rfl htaken
  | failed => exact ⟨_, .versionCcCallbackFail, .inr rfl, .inr hfailed, fun _ ↦ hfailed, rfl⟩
  | report pCmd =>
    unfold ccVersionCallback Outcome.pCmd
    dsimp only
    split_ifs with hclass hversion
    · refine ⟨_, .versionCcReportRecv, .inl rfl,
        .inl (probeFlags_rdNodeCcVersionSet _ _ _), ?_, rfl⟩
      intro hfail
      exact absurd ⟨hclass, hversion⟩ (of_decide_eq_false hfail)
    · exact ⟨_, .versionCcCallbackFail, .inr rfl, .inr hfailed, fun _ ↦ hfailed, rfl⟩
    · exact ⟨_, .versionCcCallbackFail, .inr rfl, .inr hfailed, fun _ ↦ hfailed, rfl⟩

/-- A request that was allowed leaves things in order. -/
theorem Tidy.sent (h : Tidy s) (hallowed : Allowed outcome request s) {after : Probe}
    (hcalls : after.calls = s.calls) (hrequests : after.requests = request :: s.requests)
    (hsucceeded : after.allSucceeded = (s.allSucceeded && outcome.succeeds request))
    (hflags : after.node.probeFlags = s.node.probeFlags ∨ after.node.probeFlags = probeFailed)
    (hfailed : outcome.succeeds request = false → after.node.probeFlags = probeFailed) :
    Tidy after where
  no_calls := hcalls.trans h.no_calls
  flagged := by
    intro hnot
    rw [hsucceeded] at hnot
    rcases Bool.and_eq_false_iff.mp hnot with hbefore | hnow
    · rcases hflags with hsame | hset
      · exact hsame.trans (h.flagged hbefore)
      · exact hset
    · exact hfailed hnow
  asked_once := by
    rw [hrequests]
    cases request with
    | versionCc cls => exact nodup_cons.mpr ⟨hallowed.fresh cls rfl, h.asked_once⟩
    | versionCapabilities => exact h.asked_once
    | versionZwaveSoftware => exact h.asked_once

end Answers

/-! ### One step -/

section Steps

variable {c : Setting} {s : Probe} {ev : PcvEvent}

theorem toNat_advance (hidx : s.probeCcIdx.toNat < c.table.entries.length)
    (hsize : c.table.entries.length < 256) :
    s.advance.probeCcIdx.toNat = s.probeCcIdx.toNat + 1 := by
  change (s.probeCcIdx + 1).toNat = s.probeCcIdx.toNat + 1
  rw [UInt8.toNat_add]
  refine Nat.mod_eq_of_lt ?_
  change s.probeCcIdx.toNat + 1 < 256
  omega

theorem goesOn_idle (hstate : s.state = .idle) (hhandles : Handles c ev s) (htidy : Tidy s)
    (hnonempty : c.table.entries ≠ []) : GoesOn c (remaining c s) (pcvFsmPostEvent c ev s) := by
  unfold Handles at hhandles
  rw [hstate] at hhandles
  have hpos : 0 < c.table.entries.length := length_pos_iff.mpr hnonempty
  unfold pcvFsmPostEvent
  rw [hstate]
  dsimp only
  rw [if_pos hhandles]
  refine ⟨.start, ⟨rfl, ⟨.inl rfl, hpos⟩, ⟨htidy.no_calls, htidy.flagged, htidy.asked_once⟩⟩, ?_⟩
  unfold remaining
  rw [hstate]
  change 2 * (c.table.entries.length - 0) + 5 < 2 * c.table.entries.length + 7
  omega

/-- The machine moves to the next class. -/
theorem goesOn_advance (hidx : s.probeCcIdx.toNat < c.table.entries.length)
    (hsize : c.table.entries.length < 256) (htidy : Tidy s)
    (hevent : ev = .versionCcReportRecv ∨ ev = .ccProbed ∨ ev = .ccNotSupport ∨
      ev = .versionCcCallbackFail) :
    GoesOn c (2 * (c.table.entries.length - s.probeCcIdx.toNat) + 5)
      (s.advance.post .lastReport ev) := by
  have hnext := toNat_advance hidx hsize
  refine ⟨ev, ⟨rfl, ⟨hevent, ?_⟩, ⟨htidy.no_calls, htidy.flagged, htidy.asked_once⟩⟩, ?_⟩
  · exact hnext ▸ hidx
  · change 2 * (c.table.entries.length - s.advance.probeCcIdx.toNat) + 6 <
      2 * (c.table.entries.length - s.probeCcIdx.toNat) + 5
    rw [hnext]
    omega

theorem goesOn_sendVersionCcGet (hstate : s.state = .sendVersionCcGet) (hhandles : Handles c ev s)
    (htidy : Tidy s) (hsize : c.table.entries.length < 256)
    (hallowed : ∀ request, requestOf c ev s = some request →
      Allowed (c.outcome s.requests.length) request s) :
    GoesOn c (remaining c s) (pcvFsmPostEvent c ev s) := by
  unfold Handles at hhandles
  unfold requestOf at hallowed
  rw [hstate] at hhandles hallowed
  obtain ⟨hevent, hidx⟩ := hhandles
  obtain ⟨entry, -, hentry⟩ := Table.read_of_lt hidx
  unfold pcvFsmPostEvent remaining
  rw [hstate]
  dsimp only
  rw [if_pos hevent, hentry]
  dsimp only
  rw [hentry] at hallowed
  split_ifs with hsupported hunknown
  · have hsend := hallowed (.versionCc entry.commandClass) (if_pos ⟨hevent, hsupported, hunknown⟩)
    rw [sendRequest_of_taken hsend.taken]
    obtain ⟨node, ev', hev', hflags, hfailed, hresult⟩ :=
      ccVersionCallback_eq
        (s := s.sent (c.outcome s.requests.length) (.versionCc entry.commandClass))
        entry.commandClass hsend.taken
    change GoesOn c _ (ccVersionCallback entry.commandClass _ _)
    rw [hresult]
    refine goesOn_advance (s := { s.sent _ _ with node := node }) hidx hsize ?_ ?_
    · exact htidy.sent hsend rfl rfl rfl hflags hfailed
    · exact hev'.imp_right fun h ↦ .inr (.inr h)
  · exact goesOn_advance hidx hsize htidy (.inr (.inl rfl))
  · exact goesOn_advance hidx hsize htidy (.inr (.inr (.inl rfl)))

theorem goesOn_lastReport (hstate : s.state = .lastReport) (hhandles : Handles c ev s)
    (htidy : Tidy s) : GoesOn c (remaining c s) (pcvFsmPostEvent c ev s) := by
  unfold Handles at hhandles
  rw [hstate] at hhandles
  obtain ⟨hevent, hidx⟩ := hhandles
  unfold pcvFsmPostEvent remaining
  rw [hstate]
  dsimp only
  rw [if_pos hevent]
  have htidy' : ∀ state ev', Tidy (s.post state ev') :=
    fun _ _ ↦ ⟨htidy.no_calls, htidy.flagged, htidy.asked_once⟩
  rcases Nat.lt_or_eq_of_le hidx with hlt | hlast
  · obtain ⟨entry, hmem, hentry⟩ := Table.read_of_lt hlt
    rw [hentry]
    dsimp only
    rw [if_pos (c.table.before_mark entry hmem)]
    exact ⟨.notLast, ⟨rfl, ⟨.inr rfl, hlt⟩, htidy' _ _⟩, Nat.lt_succ_self _⟩
  · rw [Table.read_of_eq hlast]
    dsimp only
    have hmark : ¬ endMark.commandClass ≠ 0xffff := not_not.mpr rfl
    rw [if_neg hmark]
    refine ⟨.versionCcDone, ⟨rfl, rfl, htidy' _ _⟩, ?_⟩
    change 4 < 2 * (c.table.entries.length - s.probeCcIdx.toNat) + 6
    omega

theorem goesOn_checkIfV3 (hstate : s.state = .checkIfV3) (hhandles : Handles c ev s)
    (htidy : Tidy s) : GoesOn c (remaining c s) (pcvFsmPostEvent c ev s) := by
  unfold Handles at hhandles
  rw [hstate] at hhandles
  unfold pcvFsmPostEvent remaining
  rw [hstate]
  dsimp only
  rw [if_pos hhandles]
  have htidy' : ∀ state ev', Tidy (s.post state ev') :=
    fun _ _ ↦ ⟨htidy.no_calls, htidy.flagged, htidy.asked_once⟩
  split_ifs
  · exact ⟨.isV3, ⟨rfl, rfl, htidy' _ _⟩, Nat.lt_succ_self 3⟩
  · exact ⟨.notV3, ⟨rfl, .inr (.inr (.inl rfl)), htidy' _ _⟩, Nat.one_lt_succ_succ 2⟩

theorem goesOn_sendVersionCapGet (hstate : s.state = .sendVersionCapGet) (hhandles : Handles c ev s)
    (htidy : Tidy s)
    (hallowed : ∀ request, requestOf c ev s = some request →
      Allowed (c.outcome s.requests.length) request s) :
    GoesOn c (remaining c s) (pcvFsmPostEvent c ev s) := by
  unfold Handles at hhandles
  unfold requestOf at hallowed
  rw [hstate] at hhandles hallowed
  unfold pcvFsmPostEvent remaining
  rw [hstate]
  dsimp only at hallowed ⊢
  rw [if_pos hhandles]
  split_ifs with hunknown
  · have hsend := hallowed .versionCapabilities (if_pos ⟨hhandles, hunknown⟩)
    rw [sendRequest_of_taken hsend.taken]
    generalize c.outcome s.requests.length = outcome at hsend
    cases outcome with
    | refused => exact absurd rfl hsend.taken
    | failed =>
      exact ⟨.versionCapCallbackFail, ⟨rfl, .inr (.inr (.inr (.inr (.inl rfl)))),
        htidy.sent hsend rfl rfl rfl (.inr rfl) fun _ ↦ rfl⟩, Nat.one_lt_succ_succ 1⟩
    | report pCmd =>
      exact ⟨.versionCapReportRecv, ⟨rfl, .inl rfl, htidy.sent hsend rfl rfl rfl (.inl rfl)
        fun h ↦ absurd h.symm Bool.false_ne_true⟩, Nat.lt_succ_self 2⟩
  · exact ⟨.capProbed, ⟨rfl, .inr rfl, ⟨htidy.no_calls, htidy.flagged, htidy.asked_once⟩⟩,
      Nat.lt_succ_self 2⟩

theorem goesOn_sendVersionZwsGet (hstate : s.state = .sendVersionZwsGet) (hhandles : Handles c ev s)
    (htidy : Tidy s)
    (hallowed : ∀ request, requestOf c ev s = some request →
      Allowed (c.outcome s.requests.length) request s) :
    GoesOn c (remaining c s) (pcvFsmPostEvent c ev s) := by
  unfold Handles at hhandles
  unfold requestOf at hallowed
  rw [hstate] at hhandles hallowed
  unfold pcvFsmPostEvent remaining
  rw [hstate]
  dsimp only at hallowed ⊢
  rw [if_pos hhandles]
  split_ifs with hzws hprobed
  · have hsend := hallowed .versionZwaveSoftware (if_pos ⟨hhandles, hzws, hprobed⟩)
    rw [sendRequest_of_taken hsend.taken]
    generalize houtcome : c.outcome s.requests.length = outcome at hsend
    cases outcome with
    | refused => exact absurd rfl hsend.taken
    | failed =>
      exact ⟨.versionZwsCallbackFail, ⟨rfl, .inr (.inr (.inr (.inl rfl))),
        htidy.sent hsend rfl rfl rfl (.inl rfl) fun _ ↦ hsend.software rfl rfl⟩, Nat.lt_succ_self 1⟩
    | report pCmd =>
      exact ⟨.versionZwsReportRecv, ⟨rfl, .inr (.inl rfl), htidy.sent hsend rfl rfl rfl (.inl rfl)
        fun h ↦ absurd h.symm Bool.false_ne_true⟩, Nat.lt_succ_self 1⟩
  · exact ⟨.zwsProbed, ⟨rfl, .inr (.inr (.inr (.inr (.inr rfl)))),
      ⟨htidy.no_calls, htidy.flagged, htidy.asked_once⟩⟩, Nat.lt_succ_self 1⟩
  · exact ⟨.zwsNotSupport, ⟨rfl, .inl rfl, ⟨htidy.no_calls, htidy.flagged, htidy.asked_once⟩⟩,
      Nat.lt_succ_self 1⟩

theorem finished_versionProbeDone (hstate : s.state = .versionProbeDone)
    (hreturned : s.control = .returned)
    (hhandles : Handles c ev s) (htidy : Tidy s) : Finished (pcvFsmPostEvent c ev s) := by
  unfold Handles at hhandles
  rw [hstate] at hhandles
  unfold pcvFsmPostEvent
  rw [hstate]
  dsimp only
  rw [if_pos hhandles]
  split_ifs with hfailed
  · refine ⟨hreturned, ?_, ?_, htidy.asked_once⟩
    · exact congrArg (fun calls ↦ (List.cons (1, s.node.probeFlags) calls).length) htidy.no_calls
    · intro hmem
      rcases mem_cons.mp hmem with hsame | hbefore
      · have hstatus : (0 : UInt8) = 1 := congrArg Prod.fst hsame
        exact absurd hstatus (by decide)
      · rw [htidy.no_calls] at hbefore
        exact absurd hbefore not_mem_nil
  · refine ⟨hreturned, ?_, ?_, htidy.asked_once⟩
    · exact congrArg (fun calls ↦ (List.cons (0, probeHasCompleted) calls).length) htidy.no_calls
    · intro _
      by_contra hnot
      exact hfailed (htidy.flagged (Bool.eq_false_iff.mpr hnot))

/-- An event that is handled brings the probe closer to its end. -/
theorem goesOn_or_finished (hreturned : s.control = .returned) (hhandles : Handles c ev s)
    (htidy : Tidy s) (hnonempty : c.table.entries ≠ []) (hsize : c.table.entries.length < 256)
    (hallowed : ∀ request, requestOf c ev s = some request →
      Allowed (c.outcome s.requests.length) request s) :
    GoesOn c (remaining c s) (pcvFsmPostEvent c ev s) ∨ Finished (pcvFsmPostEvent c ev s) := by
  cases hstate : s.state with
  | idle => exact .inl (goesOn_idle hstate hhandles htidy hnonempty)
  | sendVersionCcGet => exact .inl (goesOn_sendVersionCcGet hstate hhandles htidy hsize hallowed)
  | lastReport => exact .inl (goesOn_lastReport hstate hhandles htidy)
  | checkIfV3 => exact .inl (goesOn_checkIfV3 hstate hhandles htidy)
  | sendVersionCapGet => exact .inl (goesOn_sendVersionCapGet hstate hhandles htidy hallowed)
  | sendVersionZwsGet => exact .inl (goesOn_sendVersionZwsGet hstate hhandles htidy hallowed)
  | versionProbeDone => exact .inr (finished_versionProbeDone hstate hreturned hhandles htidy)

theorem step_of_post {e : PcvEvent} (hposts : s.control = .post e) :
    step c s = pcvFsmPostEvent c e { s with control := .returned } := by
  unfold step
  rw [hposts]

theorem step_of_returned (hreturned : s.control = .returned) : step c s = s := by
  unfold step
  rw [hreturned]

/-- The condition on the requests, for an event that is handled. -/
theorem AllowedAt.handled (hallowed : AllowedAt c s) (hposts : s.control = .post ev) :
    ∀ request, requestOf c ev { s with control := .returned } = some request →
      Allowed (c.outcome s.requests.length) request { s with control := .returned } := by
  intro request hrequest
  have hsend := hallowed ev hposts request hrequest
  exact ⟨hsend.taken, hsend.fresh, hsend.software⟩

theorem goesOn_or_finished_step (hrunning : Running c ev s) (hnonempty : c.table.entries ≠ [])
    (hsize : c.table.entries.length < 256) (hallowed : AllowedAt c s) :
    GoesOn c (remaining c s) (step c s) ∨ Finished (step c s) := by
  rw [step_of_post hrunning.posts]
  have htidy : Tidy { s with control := .returned } :=
    ⟨hrunning.tidy.no_calls, hrunning.tidy.flagged, hrunning.tidy.asked_once⟩
  exact goesOn_or_finished (s := { s with control := .returned }) rfl hrunning.handles htidy
    hnonempty hsize (hallowed.handled hrunning.posts)

end Steps

/-! ### Whole runs -/

section Runs

variable {c : Setting} {myNodeId : UInt16} {n : Node}

theorem probeAfter_succ (steps : ℕ) :
    probeAfter c myNodeId n (steps + 1) = step c (probeAfter c myNodeId n steps) :=
  Function.iterate_succ_apply' (step c) steps (rdEpProbeCcVersion myNodeId n)

/-- The condition on the table and on the requests. -/
structure Suitable (c : Setting) (myNodeId : UInt16) (n : Node) : Prop where
  nonempty : c.table.entries ≠ []
  size : c.table.entries.length < 256
  allowed : ∀ steps, AllowedAt c (probeAfter c myNodeId n steps)

theorem running_rdEpProbeCcVersion (hother : n.nodeid ≠ myNodeId) :
    Running c .initial (rdEpProbeCcVersion myNodeId n) := by
  unfold rdEpProbeCcVersion
  rw [if_neg hother]
  exact ⟨rfl, rfl, ⟨rfl, fun hfailed ↦ absurd hfailed.symm Bool.false_ne_true, nodup_nil⟩⟩

theorem Suitable.running_or_finished (h : Suitable c myNodeId n) (hother : n.nodeid ≠ myNodeId)
    (steps : ℕ) :
    (∃ ev, Running c ev (probeAfter c myNodeId n steps)) ∨ Finished
      (probeAfter c myNodeId n steps) := by
  induction steps with
  | zero => exact .inl ⟨.initial, running_rdEpProbeCcVersion hother⟩
  | succ steps ih =>
    rw [probeAfter_succ]
    rcases ih with ⟨ev, hrunning⟩ | hfinished
    · rcases goesOn_or_finished_step hrunning h.nonempty h.size
        (h.allowed steps) with ⟨ev', hnext, -⟩ | hdone
      · exact .inl ⟨ev', hnext⟩
      · exact .inr hdone
    · rw [step_of_returned hfinished.returned]
      exact .inr hfinished

/-- The bound on the steps that are left goes down until the probe has finished. -/
theorem Suitable.finished (h : Suitable c myNodeId n) {bound steps : ℕ}
    (hrunning : ∃ ev, Running c ev (probeAfter c myNodeId n steps))
    (hbound : remaining c (probeAfter c myNodeId n steps) < bound) :
    ∃ enough, Finished (probeAfter c myNodeId n enough) := by
  induction bound generalizing steps with
  | zero => exact absurd hbound (Nat.not_lt_zero _)
  | succ bound ih =>
    obtain ⟨ev, hrunning⟩ := hrunning
    have hstep := goesOn_or_finished_step hrunning h.nonempty h.size (h.allowed steps)
    rw [← probeAfter_succ] at hstep
    rcases hstep with ⟨ev', hnext, hless⟩ | hdone
    · exact ih ⟨ev', hnext⟩ (by omega)
    · exact ⟨steps + 1, hdone⟩

theorem probeAfter_of_returned {enough steps : ℕ}
    (hreturned : (probeAfter c myNodeId n enough).control = .returned) (hge : enough ≤ steps) :
    probeAfter c myNodeId n steps = probeAfter c myNodeId n enough := by
  induction hge with
  | refl => rfl
  | step _ ih => rw [probeAfter_succ, ih, step_of_returned hreturned]

theorem Suitable.completes (h : Suitable c myNodeId n) (hother : n.nodeid ≠ myNodeId) :
    Completes c myNodeId n where
  called_once := by
    obtain ⟨enough, hfinished⟩ := h.finished
      (show ∃ ev, Running c ev (probeAfter c myNodeId n 0)
        from ⟨.initial, running_rdEpProbeCcVersion hother⟩)
      (Nat.lt_succ_self _)
    refine ⟨enough, ?_⟩
    intro steps hge
    rw [probeAfter_of_returned hfinished.returned hge]
    exact hfinished.called_once
  success_means_success := by
    intro steps hmem
    rcases h.running_or_finished hother steps with ⟨ev, hrunning⟩ | hfinished
    · rw [hrunning.tidy.no_calls] at hmem
      exact absurd hmem not_mem_nil
    · exact hfinished.success_means_success hmem
  asked_once := by
    intro steps
    rcases h.running_or_finished hother steps with ⟨ev, hrunning⟩ | hfinished
    · exact hrunning.tidy.asked_once
    · exact hfinished.asked_once
  in_table := by
    intro steps hpast
    rcases h.running_or_finished hother steps with ⟨ev, hrunning⟩ | hfinished
    · exact absurd (hrunning.posts.symm.trans hpast) (by simp)
    · exact absurd (hfinished.returned.symm.trans hpast) (by simp)

/-- The node of the gateway is not asked. -/
theorem completes_of_own (hown : n.nodeid = myNodeId) : Completes c myNodeId n := by
  have hstart : rdEpProbeCcVersion myNodeId n =
    Probe.callback 0 ⟨n, 0, .idle, .returned, [], true, []⟩ := if_pos hown
  have hstays : ∀ steps, probeAfter c myNodeId n steps =
      Probe.callback 0 ⟨n, 0, .idle, .returned, [], true, []⟩ := by
    intro steps
    have hreturned : (probeAfter c myNodeId n 0).control = .returned :=
      congrArg Probe.control hstart
    exact (probeAfter_of_returned hreturned (Nat.zero_le steps)).trans hstart
  refine ⟨⟨0, fun steps _ ↦ ?_⟩, fun steps _ ↦ ?_, fun steps ↦ ?_, fun steps ↦ ?_⟩
  · rw [hstays steps]
    rfl
  · rw [hstays steps]
    rfl
  · rw [hstays steps]
    exact nodup_nil
  · rw [hstays steps]
    exact fun hpast ↦ absurd hpast (by simp [Probe.callback])

end Runs

/-! ### The exceptions -/

section Exceptions

variable {c : Setting} {s : Probe} {ev : PcvEvent} {outcome : Outcome} {request : Request}

theorem pcvFsmPostEvent_of_requestOf (hrequest : requestOf c ev s = some request) :
    pcvFsmPostEvent c ev s = sendRequest (c.outcome s.requests.length) request s := by
  unfold requestOf at hrequest
  unfold pcvFsmPostEvent
  cases hstate : s.state with
  | idle | lastReport | checkIfV3 | versionProbeDone =>
    rw [hstate] at hrequest
    exact absurd hrequest.symm (Option.some_ne_none request)
  | sendVersionCcGet =>
    rw [hstate] at hrequest
    obtain ⟨entry, hentry, hsend⟩ := Option.bind_eq_some_iff.mp hrequest
    split_ifs at hsend with hask
    obtain ⟨hevent, hsupported, hunknown⟩ := hask
    dsimp only
    rw [if_pos hevent, hentry]
    dsimp only
    rw [if_pos hsupported, if_pos hunknown, Option.some.inj hsend]
  | sendVersionCapGet =>
    rw [hstate] at hrequest
    dsimp only at hrequest ⊢
    split_ifs at hrequest with hask
    rw [if_pos hask.1, if_pos hask.2, Option.some.inj hrequest]
  | sendVersionZwsGet =>
    rw [hstate] at hrequest
    dsimp only at hrequest ⊢
    split_ifs at hrequest with hask
    rw [if_pos hask.1, if_pos hask.2.1, if_pos hask.2.2, Option.some.inj hrequest]

/-- Nothing but the end of the probe calls the callback. -/
theorem sendRequest_record : (sendRequest outcome request s).calls = s.calls ∧
    (sendRequest outcome request s).requests = request :: s.requests := by
  cases outcome with
  | refused => exact ⟨rfl, rfl⟩
  | failed => cases request <;> exact ⟨rfl, rfl⟩
  | report pCmd =>
    cases request with
    | versionCc cls =>
      change (ccVersionCallback cls (some pCmd) _).calls = s.calls ∧
        (ccVersionCallback cls (some pCmd) _).requests = .versionCc cls :: s.requests
      unfold ccVersionCallback
      dsimp only
      split_ifs <;> exact ⟨rfl, rfl⟩
    | versionCapabilities => exact ⟨rfl, rfl⟩
    | versionZwaveSoftware => exact ⟨rfl, rfl⟩

theorem calls_pcvFsmPostEvent (hstate : s.state ≠ .versionProbeDone) :
    (pcvFsmPostEvent c ev s).calls = s.calls := by
  unfold pcvFsmPostEvent
  cases hs : s.state with
  | versionProbeDone => exact absurd hs hstate
  | idle | checkIfV3 =>
    dsimp only
    split_ifs <;> rfl
  | sendVersionCcGet =>
    dsimp only
    split_ifs
    · split
      · rfl
      · split_ifs
        · exact sendRequest_record.1
        · rfl
        · rfl
    · rfl
  | lastReport =>
    dsimp only
    split_ifs
    · split
      · rfl
      · split_ifs <;> rfl
    · rfl
  | sendVersionCapGet | sendVersionZwsGet =>
    dsimp only
    split_ifs <;> first | rfl | exact sendRequest_record.1

theorem control_pcvFsmPostEvent_of_done (hstate : s.state = .versionProbeDone) :
    (pcvFsmPostEvent c ev s).control = s.control := by
  unfold pcvFsmPostEvent
  rw [hstate]
  dsimp only
  split_ifs <;> rfl

variable {myNodeId : UInt16} {n : Node}

/-- Until the probe has finished there is no call of the callback. -/
theorem calls_of_post (hother : n.nodeid ≠ myNodeId) (steps : ℕ) {ev : PcvEvent}
    (hposts : (probeAfter c myNodeId n steps).control = .post ev) :
      (probeAfter c myNodeId n steps).calls = [] := by
  induction steps generalizing ev with
  | zero => exact (running_rdEpProbeCcVersion (c := c) hother).tidy.no_calls
  | succ steps ih =>
    rw [probeAfter_succ] at hposts ⊢
    generalize probeAfter c myNodeId n steps = s at ih hposts
    cases hcontrol : s.control with
    | returned =>
      rw [step_of_returned hcontrol, hcontrol] at hposts
      exact absurd hposts (by simp)
    | pastEnd =>
      have hstep : step c s = s := by
        unfold step
        rw [hcontrol]
      rw [hstep, hcontrol] at hposts
      exact absurd hposts (by simp)
    | post before =>
      rw [step_of_post hcontrol] at hposts ⊢
      by_cases hdone : s.state = .versionProbeDone
      · rw [control_pcvFsmPostEvent_of_done (s := { s with control := .returned }) hdone] at hposts
        exact absurd hposts (by simp)
      · rw [calls_pcvFsmPostEvent (s := { s with control := .returned }) hdone]
        exact ih hcontrol

/-- A probe that returns without having called its callback never does. -/
theorem not_completes_of_returned (steps : ℕ)
    (hreturned : (probeAfter c myNodeId n steps).control = .returned)
    (hcalls : (probeAfter c myNodeId n steps).calls = []) : ¬ Completes c myNodeId n := by
  intro h
  obtain ⟨enough, hone⟩ := h.called_once
  have hlength := hone (max enough steps) (Nat.le_max_left _ _)
  rw [probeAfter_of_returned hreturned (Nat.le_max_right _ _), hcalls] at hlength
  exact absurd hlength (Nat.zero_ne_one)

/-- Each request of a probe that keeps its promise is allowed. -/
theorem Completes.allowedAt (h : Completes c myNodeId n) (hother : n.nodeid ≠ myNodeId)
    (steps : ℕ) : AllowedAt c (probeAfter c myNodeId n steps) := by
  intro ev hposts request hrequest
  have hnext : probeAfter c myNodeId n (steps + 1) =
      sendRequest (c.outcome (probeAfter c myNodeId n steps).requests.length) request
        { probeAfter c myNodeId n steps with control := .returned } := by
    rw [probeAfter_succ, step_of_post hposts]
    exact pcvFsmPostEvent_of_requestOf hrequest
  have hcalls := calls_of_post hother steps hposts
  refine ⟨?_, ?_, ?_⟩
  · intro hrefused
    rw [hrefused] at hnext
    refine not_completes_of_returned (steps + 1) ?_ ?_ h
    · rw [hnext]
      rfl
    · rw [hnext]
      exact hcalls
  · rintro cls rfl hmem
    have honce := h.asked_once (steps + 1)
    rw [hnext, sendRequest_record.2] at honce
    exact (nodup_cons.mp honce).1 hmem
  · rintro rfl hfailed
    by_contra hflags
    rw [hfailed] at hnext
    have hlast : probeAfter c myNodeId n (steps + 2) = (Probe.flag probeHasCompleted
        { probeAfter c myNodeId n (steps + 1) with control := .returned }).callback 0 := by
      rw [probeAfter_succ (steps + 1),
        step_of_post (e := .versionZwsCallbackFail) (by rw [hnext]; rfl), hnext]
      exact if_neg hflags
    have hsucceeded := h.success_means_success (steps + 2) (by rw [hlast]; exact mem_cons_self)
    rw [hlast, hnext] at hsucceeded
    exact absurd hsucceeded (by simp [Probe.callback, Probe.flag, sendRequest, Outcome.succeeds,
      Request.answer, versionZwaveSoftwareCallback, Probe.post])

/-- At an entry of the table that can be read, the machine moves to the next class. -/
theorem next_of_sendVersionCcGet {entry : CcVersionPair} (hstate : s.state = .sendVersionCcGet)
    (hevent : ev = .start ∨ ev = .notLast) (hentry : c.table.read s.probeCcIdx = some entry)
    (hallowed : ∀ request, requestOf c ev s = some request →
      Allowed (c.outcome s.requests.length) request s) :
    ∃ (after : Probe) (ev' : PcvEvent), (ev' = .versionCcReportRecv ∨ ev' = .ccProbed ∨
        ev' = .ccNotSupport ∨ ev' = .versionCcCallbackFail) ∧ after.probeCcIdx = s.probeCcIdx ∧
      pcvFsmPostEvent c ev s = after.advance.post .lastReport ev' := by
  cases hrequest : requestOf c ev s with
  | some request =>
    have hsend := hallowed request hrequest
    rw [pcvFsmPostEvent_of_requestOf hrequest, sendRequest_of_taken hsend.taken]
    unfold requestOf at hrequest
    rw [hstate, hentry] at hrequest
    dsimp only [Option.bind_some] at hrequest
    split_ifs at hrequest
    obtain ⟨node, ev', hev', -, -, hresult⟩ :=
      ccVersionCallback_eq (s := s.sent (c.outcome s.requests.length) request) entry.commandClass
        hsend.taken
    rw [← Option.some.inj hrequest] at hresult ⊢
    exact ⟨{ s.sent _ _ with node := node }, ev', hev'.imp_right fun h ↦ .inr (.inr h),
      rfl, hresult⟩
  | none =>
    unfold requestOf at hrequest
    rw [hstate, hentry] at hrequest
    dsimp only [Option.bind_some] at hrequest
    split_ifs at hrequest with hask
    unfold pcvFsmPostEvent
    rw [hstate]
    dsimp only
    rw [if_pos hevent, hentry]
    dsimp only
    split_ifs with hsupported hunknown
    · exact absurd ⟨hevent, hsupported, hunknown⟩ hask
    · exact ⟨s, .ccProbed, .inr (.inl rfl), rfl, rfl⟩
    · exact ⟨s, .ccNotSupport, .inr (.inr (.inl rfl)), rfl, rfl⟩

/-- The machine is going through the table. -/
def Scans (ev : PcvEvent) (s : Probe) : Prop :=
  match s.state with
  | .idle => ev = .initial
  | .sendVersionCcGet => ev = .start ∨ ev = .notLast
  | .lastReport =>
    ev = .versionCcReportRecv ∨ ev = .ccProbed ∨ ev = .ccNotSupport ∨ ev = .versionCcCallbackFail
  | _ => False

theorem scans_rdEpProbeCcVersion : Scans .initial (rdEpProbeCcVersion myNodeId n) := by
  unfold rdEpProbeCcVersion
  split_ifs <;> rfl

/-- The index has 8 bits: in a table of 256 entries or more it never gets to the end mark. -/
theorem scans_pcvFsmPostEvent (hscans : Scans ev s) (hsize : 256 ≤ c.table.entries.length)
    (hallowed : ∀ request, requestOf c ev s = some request →
      Allowed (c.outcome s.requests.length) request s) :
    ∃ ev', (pcvFsmPostEvent c ev s).control = .post ev' ∧ Scans ev' (pcvFsmPostEvent c ev s) := by
  obtain ⟨entry, hmem, hentry⟩ :
      ∃ entry ∈ c.table.entries, c.table.read s.probeCcIdx = some entry :=
    Table.read_of_lt (Nat.lt_of_lt_of_le s.probeCcIdx.toNat_lt hsize)
  unfold Scans at hscans
  cases hstate : s.state with
  | checkIfV3 | sendVersionCapGet | sendVersionZwsGet | versionProbeDone =>
    rw [hstate] at hscans
    exact hscans.elim
  | idle =>
    rw [hstate] at hscans
    unfold pcvFsmPostEvent
    rw [hstate]
    dsimp only
    rw [if_pos hscans]
    exact ⟨.start, rfl, .inl rfl⟩
  | sendVersionCcGet =>
    rw [hstate] at hscans
    obtain ⟨after, ev', hev', -, hresult⟩ := next_of_sendVersionCcGet hstate hscans hentry hallowed
    rw [hresult]
    exact ⟨ev', rfl, hev'⟩
  | lastReport =>
    rw [hstate] at hscans
    unfold pcvFsmPostEvent
    rw [hstate]
    dsimp only
    rw [if_pos hscans, hentry]
    dsimp only
    rw [if_pos (c.table.before_mark entry hmem)]
    exact ⟨.notLast, rfl, .inr rfl⟩

theorem Completes.size (h : Completes c myNodeId n) (hother : n.nodeid ≠ myNodeId) :
    c.table.entries.length < 256 := by
  by_contra hsize
  have hscans : ∀ steps, ∃ ev, (probeAfter c myNodeId n steps).control = .post ev ∧
      Scans ev (probeAfter c myNodeId n steps) := by
    intro steps
    induction steps with
    | zero => exact ⟨.initial, (running_rdEpProbeCcVersion (c := c) hother).posts,
      scans_rdEpProbeCcVersion⟩
    | succ steps ih =>
      obtain ⟨ev, hposts, hscans⟩ := ih
      rw [probeAfter_succ, step_of_post hposts]
      exact scans_pcvFsmPostEvent (s := { probeAfter c myNodeId n steps with control := .returned })
        hscans (Nat.le_of_not_lt hsize) ((h.allowedAt hother steps).handled hposts)
  obtain ⟨enough, hone⟩ := h.called_once
  obtain ⟨ev, hposts, -⟩ := hscans enough
  have hlength := hone enough (Nat.le_refl enough)
  rw [calls_of_post hother enough hposts] at hlength
  exact absurd hlength Nat.zero_ne_one

/-- In a table without entries the end mark itself is taken for an entry, and the next one is
read. -/
theorem Completes.nonempty (h : Completes c myNodeId n) (hother : n.nodeid ≠ myNodeId) :
    c.table.entries ≠ [] := by
  intro hempty
  have hread : c.table.read 0 = some endMark := Table.read_of_eq (by rw [hempty]; rfl)
  have hstart := running_rdEpProbeCcVersion (c := c) hother
  have hfirst : probeAfter c myNodeId n 1 =
      Probe.post .sendVersionCcGet .start { rdEpProbeCcVersion myNodeId n with
        control := .returned, probeCcIdx := 0 } := by
    rw [probeAfter_succ 0]
    exact (step_of_post hstart.posts).trans (by
      unfold pcvFsmPostEvent rdEpProbeCcVersion
      rw [if_neg hother]
      rfl)
  obtain ⟨after, ev, hev, hidx, hsecond⟩ := next_of_sendVersionCcGet
    (s := { probeAfter c myNodeId n 1 with control := .returned }) (by rw [hfirst]; rfl)
    (show PcvEvent.start = .start ∨ PcvEvent.start = .notLast from .inl rfl)
    (by rw [hfirst]; exact hread) ((h.allowedAt hother 1).handled (by rw [hfirst]; rfl))
  have hposted : probeAfter c myNodeId n 2 = after.advance.post .lastReport ev := by
    rw [probeAfter_succ 1, step_of_post (e := .start) (by rw [hfirst]; rfl)]
    exact hsecond
  have hpast : c.table.read (after.probeCcIdx + 1) = none := by
    refine Table.read_of_gt ?_
    rw [hidx, hempty, hfirst]
    exact Nat.zero_lt_one
  refine h.in_table 3 ?_
  rw [probeAfter_succ 2, hposted, step_of_post (e := ev) rfl]
  unfold pcvFsmPostEvent
  dsimp only [Probe.post, Probe.advance]
  rw [if_pos hev, hpast]

/-- The probe keeps its promises exactly when the node is the gateway's own, or the table has
between 1 and 255 entries and every request is allowed. -/
theorem completes_iff (c : Setting) (myNodeId : UInt16) (n : Node) :
    Completes c myNodeId n ↔ n.nodeid = myNodeId ∨ Suitable c myNodeId n := by
  by_cases hown : n.nodeid = myNodeId
  · exact ⟨fun _ ↦ .inl hown, fun _ ↦ completes_of_own hown⟩
  · constructor
    · exact fun h ↦ .inr ⟨h.nonempty hown, h.size hown, h.allowedAt hown⟩
    · rintro (hsame | hsuitable)
      · exact absurd hsame hown
      · exact hsuitable.completes hown

/-- A node that supports the Version class, in the middle of its interview. -/
def versionNode : Node := ⟨5, false, [⟨0x86, 0⟩], 0, 0, false⟩

/-- The first request is refused: the callback is never called. -/
theorem refused_never_calls :
    ¬ ∀ (c : Setting) (myNodeId : UInt16) (n : Node), Completes c myNodeId n := by
  intro hall
  have h := hall ⟨⟨[⟨0x86, 0⟩], by simp⟩, [0, 0, 0x86], fun _ ↦ .refused⟩ 1 versionNode
  refine not_completes_of_returned 2 ?_ ?_ h
  · decide +kernel
  · decide +kernel

example : (probeAfter ⟨⟨[⟨0x86, 0⟩], by simp⟩, [0, 0, 0x86], fun _ ↦ .report [0x86, 0x14, 0x86, 2]⟩
  1 versionNode
    6).calls = [(0, probeHasCompleted)] := by decide +kernel

end Exceptions

end ZipGateway.ProbeCcVersion
