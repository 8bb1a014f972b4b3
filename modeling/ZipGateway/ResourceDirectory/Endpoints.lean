import ZipGateway.ResourceDirectory.Model
import ZipGateway.Lib.Run

/-!
# The enumeration of endpoints

A node with Multi Channel is asked how many endpoints it has (`rd_ep_get_callback`) and then for
their ids (`rd_ep_find_callback`), in `src/src/ResourceDirectory.c`. The first callback drops the
known endpoints when their number has changed; the second one appends the ids of each report, and
behind them the aggregated endpoints. Nothing is dropped when the number is the same.
`endpoints_enumerated_iff` says for which sequences of interviews the list of endpoints is what was
announced.
-/

set_option autoImplicit false

namespace ZipGateway.ResourceDirectory

open List ZipGateway.Lib

/-! ### The callbacks -/

/-- A frame that is handed to a callback: the memory at `pCmd` and `cmdLength`. -/
structure Report where
  cmd : ℕ → UInt8
  cmdLength : UInt16

/-- `n_end_points` of an End Point Report, the aggregated ones included. -/
def Report.nEndPoints (report : Report) : ℕ :=
  (report.cmd 3 &&& 0x7f).toNat +
    if 5 ≤ report.cmdLength.toNat then (report.cmd 4 &&& 0x7f).toNat else 0

/-- `n_aggregated_endpoints` of an End Point Report. -/
def Report.nAggregated (report : Report) : UInt8 :=
  if 5 ≤ report.cmdLength.toNat then report.cmd 4 &&& 0x7f else 0

/-- The ids of an End Point Find Report. -/
def Report.epids (report : Report) : List UInt8 :=
  if report.cmd 5 = 0 then []
  else (List.range (report.cmdLength.toNat - 5)).map fun i ↦ report.cmd (i + 5) &&& 0x7f

/-- `reportsToFollow` of an End Point Find Report. -/
def Report.reportsToFollow (report : Report) : UInt8 := report.cmd 2

/-- The ids that `rd_ep_find_callback` adds: those of the report, then as many as there are
aggregated endpoints. They count on from the last id of the report, or from what is on the stack
when it has none. -/
def Report.addedIds (report : Report) (nAggEndpoints garbage : UInt8) : List UInt8 :=
  report.epids ++ (List.range nAggEndpoints.toNat).map fun i ↦
    report.epids.getLast?.getD garbage + UInt8.ofNat i + 1

/-- The ids of a node's endpoints. -/
def NodeEntry.epids (n : NodeEntry) : List UInt8 := n.endpoints.map EpEntry.endpointId

/-- The loops over `rd_add_endpoint`. -/
def NodeEntry.addEndpoints (ids : List UInt8) (n : NodeEntry) : NodeEntry :=
  ids.foldl (fun n id ↦ n.addEndpoint true id) n

/-- The old endpoints are freed, except endpoint 0. -/
def NodeEntry.freeEndpoints (nAggEndpoints : UInt8) (n : NodeEntry) : NodeEntry :=
  { n with endpoints := n.endpoints.take 1, nAggEndpoints := nAggEndpoints, nEndpoints := 1 }

/-- How far the enumeration of the last interview got: the ids that its find reports announced until
now. -/
inductive Enumeration where
  | idle
  | underWay (announced : List UInt8)
  | successful (announced : List UInt8)
deriving DecidableEq, Repr

/-- The entry of a node, whether `find_report_timer` runs, and the enumeration. -/
structure ProbeState where
  n : NodeEntry
  findReportTimer : Bool
  enumeration : Enumeration
deriving DecidableEq, Repr

/-- `rd_ep_get_callback`; `ok` says whether `txStatus` is `TRANSMIT_COMPLETE_OK`. -/
def epGetCallback (ok : Bool) (report : Report) (state : ProbeState) : ProbeState :=
  if ok && state.n.state = .enumerateEndpoints then
    { state with
      n := { (if state.n.nEndpoints.toNat ≠ report.nEndPoints + 1
          then state.n.freeEndpoints report.nAggregated else state.n) with state := .findEndpoints }
      enumeration := .underWay [] }
  else { state with n := { state.n with state := .findEndpoints }, enumeration := .idle }

/-- The enumeration after a find report was taken. -/
def Enumeration.afterFind (report : Report) : Enumeration → Enumeration
  | .underWay announced =>
    if report.reportsToFollow ≠ 0 then .underWay (announced ++ report.epids)
    else .successful (announced ++ report.epids)
  | _ => .idle

/-- The enumeration after it was given up, unless it was done. -/
def Enumeration.abandoned : Enumeration → Enumeration
  | .underWay _ => .idle
  | enumeration => enumeration

/-- `rd_ep_find_callback`; there is memory for `room` endpoints. -/
def epFindCallback (ok : Bool) (report : Report) (garbage : UInt8) (room : ℕ) (state : ProbeState) :
    ProbeState :=
  if ok && state.n.state = .findEndpoints then
    let ids := report.addedIds state.n.nAggEndpoints garbage
    let n := state.n.addEndpoints (ids.take room)
    if room < ids.length then
      { n := { n with state := .probeFail }, findReportTimer := false, enumeration := .idle }
    else if report.reportsToFollow ≠ 0 then
      { n := n, findReportTimer := true, enumeration := state.enumeration.afterFind report }
    else
      { n := { n with state := .checkWuCcVersion }
        findReportTimer := false
        enumeration := state.enumeration.afterFind report }
  else
    { n := { state.n with state := .checkWuCcVersion }
      findReportTimer := false
      enumeration := state.enumeration.abandoned }

/-- `find_report_timed_out`. -/
def findReportTimedOut (state : ProbeState) : ProbeState :=
  if state.findReportTimer then
    { n := { state.n with state := .checkWuCcVersion }
      findReportTimer := false
      enumeration := state.enumeration.abandoned }
  else state

/-! ### Runs -/

/-- What happens to a node. -/
inductive ProbeEvent where
  /-- The node is registered again. -/
  | registerNewNode
  /-- The first steps of the interview are done. -/
  | enumerate
  /-- The node does not support Multi Channel, so a step of the enumeration is left out. -/
  | skip
  /-- A request could not be sent, or a step of the interview failed. -/
  | fail
  /-- The steps behind the enumeration are done. -/
  | finish (failing : Bool)
  | epGetCallback (ok : Bool) (report : Report)
  | epFindCallback (ok : Bool) (report : Report) (garbage : UInt8) (room : ℕ)
  | findReportTimedOut

/-- The state is set and the endpoints stay; an enumeration that is not done is given up. -/
def ProbeState.moveTo (next : NodeState) (state : ProbeState) : ProbeState :=
  { state with n := { state.n with state := next }, enumeration := state.enumeration.abandoned }

/-- The steps of `rd_node_probe_update` that leave the endpoints as they are. -/
def probeSkip (state : ProbeState) : ProbeState :=
  match state.n.state with
  | .enumerateEndpoints => state.moveTo .findEndpoints
  | .findEndpoints => state.moveTo .checkWuCcVersion
  | _ => state

/-- The steps of the interview before the enumeration. -/
def NodeState.isEarly : NodeState → Bool
  | .created | .probeNodeInfo | .probeProductId => true
  | _ => false

/-- The steps of the interview behind the enumeration. -/
def NodeState.isLate : NodeState → Bool
  | .checkWuCcVersion | .getWuCap | .setWakeUpInterval | .assignReturnRoute | .probeWakeUpInterval
  | .probeEndpoints | .mdnsProbe | .mdnsEpProbe | .done | .failing => true
  | _ => false

/-- An event. -/
def probeStep (state : ProbeState) : ProbeEvent → ProbeState
  | .registerNewNode =>
    { state with n := state.n.reprobe, enumeration := state.enumeration.abandoned }
  | .enumerate => if state.n.state.isEarly then state.moveTo .enumerateEndpoints else state
  | .skip => probeSkip state
  | .fail =>
    if state.n.state = .done ∨ state.n.state = .failing then state else state.moveTo .probeFail
  | .finish failing =>
    if state.n.state.isLate then state.moveTo (if failing then .failing else .done) else state
  | .epGetCallback ok report => epGetCallback ok report state
  | .epFindCallback ok report garbage room => epFindCallback ok report garbage room state
  | .findReportTimedOut => findReportTimedOut state

/-- A node that was registered. -/
def ProbeState.initial (answers : Registration) : ProbeState := ⟨.registered answers, false, .idle⟩

/-- The endpoints are endpoint 0, the announced ones, and as many others as there are aggregated
ones. -/
def NodeEntry.HasAnnounced (n : NodeEntry) (announced : List UInt8) : Prop :=
  ∃ aggregated : List UInt8, aggregated.length = n.nAggEndpoints.toNat ∧ aggregated.Nodup ∧
    (∀ id ∈ aggregated, id ≠ 0 ∧ id ∉ announced) ∧
    ∀ id, id ∈ n.epids ↔ id = 0 ∨ id ∈ announced ∨ id ∈ aggregated

/-- What the list of endpoints is to be. -/
structure ProbeState.Enumerated (state : ProbeState) : Prop where
  first : state.n.epids.head? = some 0
  distinct : state.n.epids.Nodup
  counted : state.n.nEndpoints.toNat = state.n.endpoints.length
  complete : ∀ announced, state.enumeration = .successful announced → state.n.HasAnnounced announced

/-- A find report fits to the endpoints that the node has: the ids that it adds are new and distinct
and can be counted in a byte; and when it is the last one of an enumeration, the node has no other
endpoints than endpoint 0 and those that this enumeration announced before. -/
def ReportFits (state : ProbeState) : ProbeEvent → Prop
  | .epFindCallback ok report garbage room =>
    ok = true → state.n.state = .findEndpoints →
      let ids := report.addedIds state.n.nAggEndpoints garbage
      ((ids.take room).Nodup ∧ (∀ id ∈ ids.take room, id ∉ state.n.epids) ∧
        state.n.endpoints.length + (ids.take room).length < 256) ∧
      ∀ announced, state.enumeration = .underWay announced → report.reportsToFollow = 0 →
        ids.length ≤ room → ∀ id ∈ state.n.epids, id = 0 ∨ id ∈ announced
  | _ => True

/-! ### The endpoints after a step -/

variable {enumeration : Enumeration} (ids : List UInt8) {report : Report} (state : ProbeState)
  (answers : Registration) (n : NodeEntry) {announced : List UInt8}

theorem epids_addEndpoints : (n.addEndpoints ids).epids = n.epids ++ ids := by
  unfold NodeEntry.addEndpoints
  induction ids generalizing n with
  | nil => simp
  | cons id rest ih =>
    rw [foldl_cons, ih]
    simp [NodeEntry.epids, NodeEntry.addEndpoint, EpEntry.fresh]

theorem nEndpoints_addEndpoints :
    (n.addEndpoints ids).nEndpoints.toNat = (n.nEndpoints.toNat + ids.length) % 256 := by
  unfold NodeEntry.addEndpoints
  induction ids generalizing n with
  | nil =>
    have hlt := n.nEndpoints.toNat_lt
    simp only [foldl_nil, length_nil]
    omega
  | cons id rest ih =>
    rw [foldl_cons, ih]
    simp only [NodeEntry.addEndpoint, if_true, UInt8.toNat_add, length_cons, UInt8.reduceToNat]
    omega

theorem nAggEndpoints_addEndpoints : (n.addEndpoints ids).nAggEndpoints = n.nAggEndpoints := by
  unfold NodeEntry.addEndpoints
  induction ids generalizing n with
  | nil => rfl
  | cons id rest ih =>
    rw [foldl_cons, ih]
    rfl

theorem length_epids : n.epids.length = n.endpoints.length := length_map ..

theorem epids_reprobe : n.reprobe.epids = n.epids := by
  unfold NodeEntry.reprobe NodeEntry.epids
  split
  · rw [map_map]
    rfl
  · rfl

/-- The parts of an entry that the enumeration is about. -/
structure SameEndpoints (n n' : NodeEntry) : Prop where
  epids : n'.epids = n.epids
  nEndpoints : n'.nEndpoints = n.nEndpoints
  nAggEndpoints : n'.nAggEndpoints = n.nAggEndpoints

theorem sameEndpoints_reprobe : SameEndpoints n n.reprobe := by
  refine ⟨epids_reprobe n, ?_, ?_⟩
  · unfold NodeEntry.reprobe
    split
    · rfl
    · rfl
  · unfold NodeEntry.reprobe
    split
    · rfl
    · rfl

/-- The ids that the enumeration under way announced are ids of endpoints. -/
def ProbeState.Listed (state : ProbeState) : Prop :=
  ∀ announced, state.enumeration = .underWay announced → ∀ id ∈ announced, id ∈ state.n.epids

/-- The endpoints stay, and an enumeration is not begun and not brought to its end. -/
structure Keeps (state state' : ProbeState) : Prop where
  same : SameEndpoints state.n state'.n
  enumeration : state'.enumeration = state.enumeration ∨ state'.enumeration =
    state.enumeration.abandoned ∨ state'.enumeration = .idle ∨ state'.enumeration = .underWay []

theorem abandoned_eq_successful :
    enumeration.abandoned = .successful announced ↔ enumeration = .successful announced := by
  cases enumeration <;> simp [Enumeration.abandoned]

theorem abandoned_ne_underWay (enumeration : Enumeration) (announced : List UInt8) :
    enumeration.abandoned ≠ .underWay announced := by
  cases enumeration <;> simp [Enumeration.abandoned]

theorem Keeps.enumerated {state state' : ProbeState} (hkeeps : Keeps state state')
    (hok : state.Enumerated) : state'.Enumerated := by
  obtain ⟨⟨hepids, hcount, hagg⟩, henumeration⟩ := hkeeps
  constructor
  · rw [hepids]
    exact hok.first
  · rw [hepids]
    exact hok.distinct
  · rw [hcount, ← length_epids, hepids, length_epids]
    exact hok.counted
  · intro announced hsuccess
    have hold : state.enumeration = .successful announced := by
      obtain heq | heq | heq | heq := henumeration
      · rw [← heq, hsuccess]
      · rw [heq, abandoned_eq_successful] at hsuccess
        exact hsuccess
      · rw [heq] at hsuccess
        exact absurd hsuccess (by simp)
      · rw [heq] at hsuccess
        exact absurd hsuccess (by simp)
    have hann := hok.complete announced hold
    unfold NodeEntry.HasAnnounced at hann ⊢
    rw [hepids, hagg]
    exact hann

theorem Keeps.listed {state state' : ProbeState} (hkeeps : Keeps state state')
    (hlisted : state.Listed) : state'.Listed := by
  intro announced hunder id hid
  rw [hkeeps.same.epids]
  obtain heq | heq | heq | heq := hkeeps.enumeration
  · exact hlisted announced (heq ▸ hunder) id hid
  · rw [heq] at hunder
    exact absurd hunder (abandoned_ne_underWay _ _)
  · rw [heq] at hunder
    exact absurd hunder (by simp)
  · rw [heq] at hunder
    rw [← Enumeration.underWay.inj hunder] at hid
    exact absurd hid (by simp)

theorem keeps_refl : Keeps state state := ⟨⟨rfl, rfl, rfl⟩, Or.inl rfl⟩

theorem keeps_moveTo (next : NodeState) (state : ProbeState) : Keeps state (state.moveTo next) :=
  ⟨⟨rfl, rfl, rfl⟩, Or.inr (Or.inl rfl)⟩

/-- The state after an End Point Report with another number of endpoints. -/
def ProbeState.restarted (nAggEndpoints : UInt8) (state : ProbeState) : ProbeState :=
  { state with
    n := { state.n.freeEndpoints nAggEndpoints with state := .findEndpoints }
    enumeration := .underWay [] }

theorem keeps_or_restarted_epGetCallback (ok : Bool) (report : Report) (state : ProbeState) :
    Keeps state (epGetCallback ok report state) ∨
      ∃ nAggEndpoints, epGetCallback ok report state = state.restarted nAggEndpoints := by
  unfold epGetCallback
  split
  · by_cases hcount : state.n.nEndpoints.toNat ≠ report.nEndPoints + 1
    · right
      exact ⟨report.nAggregated, by rw [if_pos hcount]; rfl⟩
    · left
      rw [if_neg hcount]
      exact ⟨⟨rfl, rfl, rfl⟩, Or.inr (Or.inr (Or.inr rfl))⟩
  · left
    exact ⟨⟨rfl, rfl, rfl⟩, Or.inr (Or.inr (Or.inl rfl))⟩

/-- Every step but a find report that is taken keeps the endpoints or restarts the enumeration. -/
theorem keeps_or_restarted (event : ProbeEvent)
    (hevent : ∀ report garbage room, event = .epFindCallback true report garbage room →
      state.n.state ≠ .findEndpoints) :
    Keeps state (probeStep state event) ∨
      ∃ nAggEndpoints, probeStep state event = state.restarted nAggEndpoints := by
  cases event with
  | registerNewNode => exact Or.inl ⟨sameEndpoints_reprobe state.n, Or.inr (Or.inl rfl)⟩
  | enumerate =>
    left
    rw [probeStep]
    split
    · exact keeps_moveTo _ state
    · exact keeps_refl state
  | skip =>
    left
    rw [probeStep, probeSkip]
    split
    · exact keeps_moveTo _ state
    · exact keeps_moveTo _ state
    · exact keeps_refl state
  | fail =>
    left
    rw [probeStep]
    split
    · exact keeps_refl state
    · exact keeps_moveTo _ state
  | finish failing =>
    left
    rw [probeStep]
    split
    · exact keeps_moveTo _ state
    · exact keeps_refl state
  | epGetCallback ok report => exact keeps_or_restarted_epGetCallback ok report state
  | epFindCallback ok report garbage room =>
    left
    have hnot : ¬ ((ok && decide (state.n.state = .findEndpoints)) = true) := by
      intro hboth
      rw [Bool.and_eq_true, decide_eq_true_eq] at hboth
      exact hevent report garbage room (by rw [hboth.1]) hboth.2
    rw [probeStep, epFindCallback, if_neg hnot]
    exact ⟨⟨rfl, rfl, rfl⟩, Or.inr (Or.inl rfl)⟩
  | findReportTimedOut =>
    left
    rw [probeStep, findReportTimedOut]
    split
    · exact ⟨⟨rfl, rfl, rfl⟩, Or.inr (Or.inl rfl)⟩
    · exact keeps_refl state

theorem ProbeState.Enumerated.restarted {state : ProbeState} (hok : state.Enumerated)
    (nAggEndpoints : UInt8) : (state.restarted nAggEndpoints).Enumerated := by
  have hepids : (state.restarted nAggEndpoints).n.epids = state.n.epids.take 1 := by
    unfold ProbeState.restarted NodeEntry.freeEndpoints NodeEntry.epids
    rw [map_take]
  have hlength : (state.restarted nAggEndpoints).n.endpoints.length = 1 := by
    have hfirst := hok.first
    rw [← length_epids, hepids, length_take]
    cases hids : state.n.epids with
    | nil => rw [hids] at hfirst; exact absurd hfirst (by simp)
    | cons id rest => simp
  constructor
  · rw [hepids, List.head?_take]
    exact hok.first
  · rw [hepids]
    exact hok.distinct.sublist (take_sublist 1 _)
  · rw [hlength]
    rfl
  · intro announced hsuccess
    exact absurd hsuccess (by simp [ProbeState.restarted])

theorem listed_restarted (nAggEndpoints : UInt8) (state : ProbeState) :
    (state.restarted nAggEndpoints).Listed := by
  intro announced hunder id hid
  rw [← Enumeration.underWay.inj hunder] at hid
  exact absurd hid (by simp)

/-! ### A find report -/

/-- What a find report that is taken does to the endpoints. -/
theorem epFindCallback_spec {garbage : UInt8} {room : ℕ} {state : ProbeState}
    (hstate : state.n.state = .findEndpoints) :
    let ids := report.addedIds state.n.nAggEndpoints garbage
    let state' := epFindCallback true report garbage room state
    state'.n.epids = state.n.epids ++ ids.take room ∧
      state'.n.nEndpoints.toNat = (state.n.nEndpoints.toNat + (ids.take room).length) % 256 ∧
      state'.n.nAggEndpoints = state.n.nAggEndpoints ∧
      state'.enumeration = if room < ids.length then .idle
        else state.enumeration.afterFind report := by
  have htaken : (true && decide (state.n.state = .findEndpoints)) = true := by simp [hstate]
  intro ids state'
  have hids : report.addedIds state.n.nAggEndpoints garbage = ids := rfl
  have hstate' : state' = epFindCallback true report garbage room state := rfl
  unfold epFindCallback at hstate'
  rw [if_pos htaken] at hstate'
  dsimp only at hstate'
  rw [hids] at hstate'
  have hepids := epids_addEndpoints (ids.take room) state.n
  have hcount := nEndpoints_addEndpoints (ids.take room) state.n
  have hagg := nAggEndpoints_addEndpoints (ids.take room) state.n
  by_cases hroom : room < ids.length
  · rw [if_pos hroom] at hstate' ⊢
    rw [hstate']
    exact ⟨hepids, hcount, hagg, rfl⟩
  · rw [if_neg hroom] at hstate' ⊢
    split at hstate'
    · rw [hstate']
      exact ⟨hepids, hcount, hagg, rfl⟩
    · rw [hstate']
      exact ⟨hepids, hcount, hagg, rfl⟩

theorem afterFind_eq_successful : enumeration.afterFind report = .successful announced ↔
      ∃ before, enumeration = .underWay before ∧ report.reportsToFollow = 0 ∧
        announced = before ++ report.epids := by
  cases enumeration with
  | idle => simp [Enumeration.afterFind]
  | successful before => simp [Enumeration.afterFind]
  | underWay before =>
    rw [Enumeration.afterFind]
    by_cases hlast : report.reportsToFollow = 0
    · simp [hlast, eq_comm]
    · simp [hlast]

theorem afterFind_eq_underWay (hunder : enumeration.afterFind report = .underWay announced) :
    ∃ before, enumeration = .underWay before ∧ announced = before ++ report.epids := by
  cases enumeration with
  | idle => exact absurd hunder (by simp [Enumeration.afterFind])
  | successful before => exact absurd hunder (by simp [Enumeration.afterFind])
  | underWay before =>
    rw [Enumeration.afterFind] at hunder
    split at hunder
    · exact ⟨before, rfl, (Enumeration.underWay.inj hunder).symm⟩
    · exact absurd hunder (by simp)

/-- The ids that a report names are among those it adds. -/
theorem mem_addedIds {nAggEndpoints garbage id : UInt8} (hid : id ∈ report.epids) :
    id ∈ report.addedIds nAggEndpoints garbage := mem_append_left _ hid

theorem ProbeState.Listed.find {state : ProbeState} (hlisted : state.Listed) (report : Report)
    (garbage : UInt8) (room : ℕ) (hstate : state.n.state = .findEndpoints) :
    (epFindCallback true report garbage room state).Listed := by
  obtain ⟨hepids, -, -, henumeration⟩ := @epFindCallback_spec report garbage room state hstate
  intro announced hunder id hid
  rw [henumeration] at hunder
  split at hunder
  · exact absurd hunder (by simp)
  · rename_i hroom
    obtain ⟨before, hbefore, rfl⟩ := afterFind_eq_underWay hunder
    rw [hepids, take_of_length_le (not_lt.mp hroom)]
    obtain hold | hnew := mem_append.mp hid
    · exact mem_append_left _ (hlisted before hbefore id hold)
    · exact mem_append_right _ (mem_addedIds hnew)

/-- The list of ids and their number after a find report, said of the ids that it adds. -/
theorem distinct_counted_iff {state : ProbeState} (hok : state.Enumerated) (added : List UInt8) :
    ((state.n.epids ++ added).Nodup ∧
        (state.n.nEndpoints.toNat + added.length) % 256 = (state.n.epids ++ added).length) ↔
      added.Nodup ∧ (∀ id ∈ added, id ∉ state.n.epids) ∧
        state.n.endpoints.length + added.length < 256 := by
  have hcounted := hok.counted
  rw [nodup_append', length_append, length_epids, hcounted]
  have hdisjoint : List.Disjoint state.n.epids added ↔ ∀ id ∈ added, id ∉ state.n.epids :=
    ⟨fun h id hid hold ↦ h hold hid, fun h id hold hid ↦ h id hid hold⟩
  rw [hdisjoint]
  constructor
  · rintro ⟨⟨-, hnodup, hnew⟩, hcount⟩
    exact ⟨hnodup, hnew, by omega⟩
  · rintro ⟨hnodup, hnew, hcount⟩
    exact ⟨⟨hok.distinct, hnodup, hnew⟩, by omega⟩

/-- When the last report of an enumeration is taken, the endpoints are the announced ones exactly
when there were none but endpoint 0 and those announced before. -/
theorem hasAnnounced_iff {n n' : NodeEntry} {report : Report} {garbage : UInt8}
    {before : List UInt8} (hepids : n'.epids = n.epids ++ report.addedIds n.nAggEndpoints garbage)
    (hagg : n'.nAggEndpoints = n.nAggEndpoints) (hfirst : 0 ∈ n.epids)
    (hlisted : ∀ id ∈ before, id ∈ n.epids) (hdistinct : n'.epids.Nodup) :
    n'.HasAnnounced (before ++ report.epids) ↔ ∀ id ∈ n.epids, id = 0 ∨ id ∈ before := by
  set aggregated := (List.range n.nAggEndpoints.toNat).map fun i ↦
    report.epids.getLast?.getD garbage + UInt8.ofNat i + 1 with haggregated
  have hadded : report.addedIds n.nAggEndpoints garbage = report.epids ++ aggregated := rfl
  have hlength : aggregated.length = n.nAggEndpoints.toNat := by
    rw [haggregated, length_map, length_range]
  rw [hepids, hadded, ← append_assoc] at hdistinct
  obtain ⟨hleft, hnodup, hapart⟩ := nodup_append'.mp hdistinct
  obtain ⟨-, -, hnamed⟩ := nodup_append'.mp hleft
  have hmem : ∀ id, id ∈ n'.epids ↔ id ∈ n.epids ∨ id ∈ report.epids ∨ id ∈ aggregated := by
    intro id
    rw [hepids, hadded, mem_append, mem_append]
  have hother : ∀ id ∈ aggregated, id ≠ 0 ∧ id ∉ before ++ report.epids := by
    intro id hid
    have hnot : id ∉ n.epids ++ report.epids := fun h ↦ hapart h hid
    rw [mem_append, not_or] at hnot
    refine ⟨?_, ?_⟩
    · rintro rfl
      exact hnot.1 hfirst
    · rw [mem_append, not_or]
      exact ⟨fun h ↦ hnot.1 (hlisted id h), hnot.2⟩
  constructor
  · rintro ⟨others, hothers, hothersNodup, hothersNew, hexact⟩ id hid
    -- The aggregated ids of the report are the other ids: there are as many of them.
    have hsub : aggregated ⊆ others := by
      intro other hmember
      obtain hzero | hann | hothers :=
        (hexact other).mp ((hmem other).mpr (Or.inr (Or.inr hmember)))
      · exact absurd hzero (hother other hmember).1
      · exact absurd hann (hother other hmember).2
      · exact hothers
    have hperm : aggregated.Perm others := by
      apply (subperm_of_subset hnodup hsub).perm_of_length_le
      rw [hothers, hagg, hlength]
    have hnotAggregated : id ∉ aggregated :=
      fun h ↦ hapart (mem_append_left _ hid) h
    obtain hzero | hann | hothers := (hexact id).mp ((hmem id).mpr (Or.inl hid))
    · exact Or.inl hzero
    · obtain hbefore | hreport := mem_append.mp hann
      · exact Or.inr hbefore
      · exact absurd hreport (fun h ↦ hnamed hid h)
    · exact absurd (hperm.mem_iff.mpr hothers) hnotAggregated
  · intro honly
    refine ⟨aggregated, by rw [hlength, hagg], hnodup, hother, ?_⟩
    intro id
    rw [hmem, mem_append]
    constructor
    · rintro (hold | hreport | haggr)
      · obtain hzero | hbefore := honly id hold
        · exact Or.inl hzero
        · exact Or.inr (Or.inl (Or.inl hbefore))
      · exact Or.inr (Or.inl (Or.inr hreport))
      · exact Or.inr (Or.inr haggr)
    · rintro (rfl | (hbefore | hreport) | haggr)
      · exact Or.inl hfirst
      · exact Or.inl (hlisted id hbefore)
      · exact Or.inr (Or.inl hreport)
      · exact Or.inr (Or.inr haggr)

/-- A find report is taken: exactly when it fits are the endpoints what they are to be. -/
theorem enumerated_find_iff {state : ProbeState} (hok : state.Enumerated) (hlisted : state.Listed)
    (report : Report) (garbage : UInt8) (room : ℕ) (hstate : state.n.state = .findEndpoints) :
    (epFindCallback true report garbage room state).Enumerated ↔
      ReportFits state (.epFindCallback true report garbage room) := by
  obtain ⟨hepids, hcount, hagg, henumeration⟩ :=
    @epFindCallback_spec report garbage room state hstate
  set ids := report.addedIds state.n.nAggEndpoints garbage with hids
  set state' := epFindCallback true report garbage room state
  have hboth := distinct_counted_iff hok (ids.take room)
  have hzero : 0 ∈ state.n.epids := mem_of_mem_head? hok.first
  have hlast : ∀ before, state.enumeration = .underWay before → report.reportsToFollow = 0 →
      ids.length ≤ room → state'.n.epids.Nodup → (state'.n.HasAnnounced (before ++ report.epids) ↔
        ∀ id ∈ state.n.epids, id = 0 ∨ id ∈ before) := by
    intro before hbefore _ hroom hnodup
    rw [take_of_length_le hroom] at hepids
    exact hasAnnounced_iff hepids hagg hzero (hlisted before hbefore) hnodup
  constructor
  · intro hok' _ _
    have hfits := hboth.mp ⟨hepids ▸ hok'.distinct, by
      rw [← hcount, ← hepids, length_epids]
      exact hok'.counted⟩
    refine ⟨hfits, ?_⟩
    intro announced hunder hend hroom
    apply (hlast announced hunder hend hroom hok'.distinct).mp
    apply hok'.complete
    rw [henumeration, if_neg (not_lt.mpr hroom), afterFind_eq_successful]
    exact ⟨announced, hunder, hend, rfl⟩
  · intro hfits
    obtain ⟨hnew, hannounced⟩ := hfits rfl hstate
    obtain ⟨hnodup, hnumber⟩ := hboth.mpr hnew
    rw [← hepids] at hnodup
    constructor
    · have hfirst := hok.first
      rw [hepids, List.head?_append, hfirst]
      rfl
    · exact hnodup
    · rw [hcount, hnumber, ← hepids, length_epids]
    · intro announced hsuccess
      rw [henumeration] at hsuccess
      split at hsuccess
      · exact absurd hsuccess (by simp)
      · rename_i hroom
        obtain ⟨before, hunder, hend, rfl⟩ := afterFind_eq_successful.mp hsuccess
        exact (hlast before hunder hend (not_lt.mp hroom) hnodup).mpr
          (hannounced before hunder hend (not_lt.mp hroom))

theorem listed_step (event : ProbeEvent) (hlisted : state.Listed) :
    (probeStep state event).Listed := by
  by_cases hfind : ∃ report garbage room, event = .epFindCallback true report garbage room ∧
      state.n.state = .findEndpoints
  · obtain ⟨report, garbage, room, rfl, hstate⟩ := hfind
    exact hlisted.find report garbage room hstate
  · push Not at hfind
    obtain hkeeps | ⟨nAggEndpoints, hrestarted⟩ := keeps_or_restarted state event hfind
    · exact hkeeps.listed hlisted
    · rw [hrestarted]
      exact listed_restarted nAggEndpoints state

theorem enumerated_step_iff {state : ProbeState} (hok : state.Enumerated) (hlisted : state.Listed)
    (event : ProbeEvent) : (probeStep state event).Enumerated ↔ ReportFits state event := by
  by_cases hfind : ∃ report garbage room, event = .epFindCallback true report garbage room ∧
      state.n.state = .findEndpoints
  · obtain ⟨report, garbage, room, rfl, hstate⟩ := hfind
    exact enumerated_find_iff hok hlisted report garbage room hstate
  · push Not at hfind
    have hstep : (probeStep state event).Enumerated := by
      obtain hkeeps | ⟨nAggEndpoints, hrestarted⟩ := keeps_or_restarted state event hfind
      · exact hkeeps.enumerated hok
      · rw [hrestarted]
        exact hok.restarted nAggEndpoints
    refine iff_of_true hstep ?_
    cases event with
    | epFindCallback ok report garbage room =>
      intro htrue hstate
      exact absurd hstate (hfind report garbage room (by rw [htrue]))
    | _ => trivial

theorem listed_initial : (ProbeState.initial answers).Listed := by
  intro announced hunder
  exact absurd hunder (by simp [ProbeState.initial])

theorem endpoints_registered :
    (NodeEntry.registered answers).endpoints =
      (if answers.endpointAllocated then [.fresh 0] else []) ∧
      (NodeEntry.registered answers).nEndpoints = if answers.endpointAllocated then 1 else 0 := by
  unfold NodeEntry.registered
  cases answers.endpointAllocated <;> cases answers.nonListening &&
    !answers.justAdded <;> exact ⟨rfl, rfl⟩

theorem enumerated_initial_iff :
    (ProbeState.initial answers).Enumerated ↔ answers.endpointAllocated = true := by
  constructor
  · intro hok
    have hfirst := hok.first
    by_contra hmemory
    rw [ProbeState.initial, NodeEntry.epids, (endpoints_registered answers).1,
      if_neg hmemory] at hfirst
    exact absurd hfirst (by simp)
  · intro hmemory
    obtain ⟨hendpoints, hnumber⟩ := endpoints_registered answers
    rw [if_pos hmemory] at hendpoints hnumber
    have hepids : (ProbeState.initial answers).n.epids = [0] := by
      rw [ProbeState.initial, NodeEntry.epids, hendpoints]
      rfl
    constructor
    · rw [hepids]
      rfl
    · rw [hepids]
      exact nodup_singleton 0
    · rw [ProbeState.initial, hnumber, hendpoints]
      rfl
    · intro announced hsuccess
      exact absurd hsuccess (by simp [ProbeState.initial])

/-- In every state of a sequence of interviews the list of endpoints is what it is to be, exactly
when there was memory for endpoint 0 and each find report fits to the endpoints that the node
has. -/
theorem endpoints_enumerated_iff (events : List ProbeEvent) :
    (∀ way, way <+: events → (run probeStep (.initial answers) way).Enumerated) ↔
      answers.endpointAllocated = true ∧ AllSteps probeStep ReportFits
        (.initial answers) events := by
  have hall : ∀ way, (run probeStep (.initial answers) way).Listed := fun way ↦
    run_invariant listed_step (listed_initial answers) way
  have hsteps : ∀ state event, state.Enumerated ∧ state.Listed →
      ((probeStep state event).Enumerated ∧ (probeStep state event).Listed ↔
        ReportFits state event) := by
    rintro state event ⟨hok, hlisted⟩
    rw [and_iff_left (listed_step state event hlisted)]
    exact enumerated_step_iff hok hlisted event
  constructor
  · intro hway
    have hstart := hway [] nil_prefix
    refine ⟨(enumerated_initial_iff answers).mp hstart, ?_⟩
    apply (forall_prefix_run_iff_allSteps hsteps ⟨hstart, listed_initial answers⟩ events).mp
    intro way hstarts
    exact ⟨hway way hstarts, hall way⟩
  · rintro ⟨hmemory, hfits⟩ way hstarts
    have hstart := (enumerated_initial_iff answers).mpr hmemory
    exact ((forall_prefix_run_iff_allSteps hsteps ⟨hstart, listed_initial answers⟩ events).mpr
      hfits way hstarts).1

/-- A frame of the given bytes. -/
def Report.ofBytes (bytes : List UInt8) : Report :=
  ⟨fun i ↦ bytes.getD i 0, UInt16.ofNat bytes.length⟩

/-- Two interviews of a node with endpoints 1 and 2. -/
def twoInterviews : List ProbeEvent :=
  let once : List ProbeEvent :=
    [.enumerate, .epGetCallback true (.ofBytes [0x60, 0x08, 0, 2, 0]),
      .epFindCallback true (.ofBytes [0x60, 0x0c, 0, 0xff, 0xff, 1, 2]) 0 10, .finish false]
  once ++ .registerNewNode :: once

/-- After the second interview the node has its endpoints twice. -/
theorem endpoints_doubled :
    ¬ ∀ answers events, (run probeStep (.initial answers) events).Enumerated := by
  intro hall
  have hdistinct := (hall ⟨false, true, false, true, true⟩ twoInterviews).distinct
  exact absurd hdistinct (by decide +kernel)

end ZipGateway.ResourceDirectory
