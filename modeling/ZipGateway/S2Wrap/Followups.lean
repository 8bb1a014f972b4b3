import ZipGateway.S2Wrap.Model

/-!
# The follow-ups of a multicast

`Multicast` is the run of one multicast that was accepted with follow-ups: the reports of its
transmissions and the calls of `sec2_abort_multicast`, in any order. Beside the wrapper it has
`global_mcast_status`, and what was sent: the nodes to which libs2 took a follow-up, and the result
of each follow-up that has ended.

`S2_send_done_event` takes the report for that of the multicast itself when the state is
`MC_SEND_STATE_SEND_FIRST`, and otherwise for that of a follow-up. `sec2_abort_multicast` overwrites
this state. So when a multicast is aborted before its own frame has been reported, that frame is
taken for a follow-up to node 1: its result is appended to what `global_mcast_status` had from the
multicast before (`Spares` excludes this).
-/

set_option autoImplicit false

namespace ZipGateway.S2Wrap

open List ZipGateway.Lib ZipGateway.Nodemask

/-! ### One multicast -/

/-- `mcast_status_t`, without what is said about supervision. -/
structure McastStatus where
  nodeId : ℕ
  ackStatus : Bool
deriving DecidableEq, Repr

def s2TransmitCompleteOk : UInt8 := 0

def s2TransmitCompleteVerified : UInt8 := 5

/-- The transmission has reached its node. -/
def ackStatus (status : UInt8) : Bool :=
  status == s2TransmitCompleteOk || status == s2TransmitCompleteVerified

/-- What `S2_send_done_event` makes of `global_mcast_status`. -/
def globalMcastStatus (mc : McState) (status : UInt8) (entries : List McastStatus) :
    List McastStatus :=
  match mc.state with
  | .idle => entries
  | .sendFirstNofollowup | .sendFirst => []
  | .send | .abort => entries ++ [⟨mc.rNode, ackStatus status⟩]

/-- A multicast that is accepted, with follow-ups. -/
structure Accepted where
  /-- The wrapper before. -/
  wrapper : Wrapper
  /-- `global_mcast_status` before. -/
  entries : List McastStatus
  ticket : ℕ
  request : Request
  nodeList : Nodemask
  isIdle : wrapper.mcState.state = .idle
  isTaken : request.sendable = true ∧ wrapper.current = none

/-- A multicast and its follow-ups. -/
structure Multicast where
  wrapper : Wrapper
  /-- `global_mcast_status`. -/
  entries : List McastStatus
  /-- The frame of the multicast itself has not been reported yet. -/
  first : Bool
  /-- The nodes to which follow-ups were sent. -/
  sent : List ℕ
  /-- The results of the follow-ups that have ended. -/
  results : List McastStatus
  /-- The multicast was aborted. -/
  aborted : Bool
  /-- A follow-up was not taken. -/
  rejected : Bool

/-- The multicast was just accepted. -/
def Accepted.start (accepted : Accepted) : Multicast where
  wrapper := sec2SendMulticast accepted.ticket accepted.request accepted.nodeList true
    accepted.wrapper
  entries := accepted.entries
  first := true
  sent := []
  results := []
  aborted := false
  rejected := false

/-- What can happen during a multicast. -/
inductive Happening
  /-- `sec2_abort_multicast` is called. -/
  | abort
  /-- The transmission in progress is reported with this status, and libs2 takes the next frame or
  not. -/
  | done (status : UInt8) (takes : Bool)

/-- The node for which the next follow-up is, when the frame in progress is reported. -/
def McState.next (mc : McState) : Option ℕ :=
  let node := nextNode mc.destNodemask zwMaxNodes
    (if mc.state = .send then mc.rNode + 1 else mc.rNode)
  if mc.state = .abort ∨ (nodeBit node).isNone then none else some node

/-- libs2 is idle, or busy with a frame of its own. -/
def currentFor (takes : Bool) : Option Owner := if takes then none else some .own

/-- One thing happens. libs2 is busy with another frame when it does not take the next one. Nothing
is reported after the last transmission. -/
def deliver (multicast : Multicast) (happening : Happening) : Multicast :=
  let mc := multicast.wrapper.mcState
  if mc.state = .idle then multicast
  else
    match happening with
    | .abort => { multicast with wrapper := sec2AbortMulticast multicast.wrapper, aborted := true }
    | .done status takes =>
      let wrapper := s2SendDoneEvent (.call multicast.wrapper.mcTicket) status
        { multicast.wrapper with current := currentFor takes }
      { wrapper
        entries := globalMcastStatus mc status multicast.entries
        first := false
        sent :=
          if wrapper.current = some (.call wrapper.mcTicket) then multicast.sent ++
            [wrapper.mcState.rNode]
          else multicast.sent
        results :=
          if multicast.first then multicast.results
          else multicast.results ++ (multicast.sent.getLast?.map (⟨·, ackStatus status⟩)).toList
        aborted := multicast.aborted
        rejected := multicast.rejected || (mc.next.isSome && !takes) }

/-- The multicast and all its follow-ups are over. -/
def Multicast.Over (multicast : Multicast) : Prop := multicast.wrapper.mcState.state = .idle

/-- What has happened to the calls since the multicast was accepted. -/
def Accepted.invoked (accepted : Accepted) (txStatus : UInt8) : List Event :=
  if accepted.request.hasCallback then
    [.invoked accepted.ticket accepted.ticket (.call accepted.ticket) txStatus]
  else []

/-- The follow-ups go to nodes of the mask, in increasing order; at the end, to all of them if the
multicast was not aborted and no follow-up was rejected. At the end `global_mcast_status` has the
results of what was sent, and the callback was invoked once; before it was not. -/
structure Follows (accepted : Accepted) (multicast : Multicast) : Prop where
  ordered : multicast.sent.Pairwise (· < ·)
  inMask : ∀ node ∈ multicast.sent, IsClassicNode node ∧ testNode node accepted.nodeList = true
  complete : multicast.Over → multicast.aborted = false → multicast.rejected = false →
    ∀ node, IsClassicNode node → testNode node accepted.nodeList = true → node ∈ multicast.sent
  statuses : multicast.Over →
    multicast.entries = multicast.results ∧
      multicast.results.map McastStatus.nodeId = multicast.sent
  waits : ¬multicast.Over → multicast.wrapper.log = accepted.start.wrapper.log
  invokes : multicast.Over → ∃ txStatus, multicast.wrapper.log = accepted.invoked txStatus ++
    accepted.start.wrapper.log

/-- The frame of the multicast itself is not reported after the multicast was aborted. -/
def Spares (multicast : Multicast) (happening : Happening) : Prop :=
  match happening with
  | .abort => True
  | .done _ _ => multicast.first = true → multicast.wrapper.mcState.state ≠ .abort

/-! ### The search for the next node -/

/-- The nodes behind the classic ones end the search. -/
theorem nodeBit_isSome {node : ℕ} (hpos : 1 ≤ node) (hle : node ≤ zwClassicMaxNodes + 1) :
    (nodeBit node).isSome = true ↔ node ≤ zwClassicMaxNodes := by
  unfold nodeBit
  by_cases hclassic : IsClassicNode node
  · rw [dif_pos hclassic]
    exact ⟨fun _ ↦ hclassic.2, fun _ ↦ rfl⟩
  · have hlr : ¬IsLrNode node := fun hlr ↦ by
      have hmin : zwLrMinNodeId ≤ zwClassicMaxNodes + 1 := hlr.1.trans hle
      exact absurd hmin (by decide)
    rw [dif_neg hclassic, dif_neg hlr]
    exact ⟨nofun, fun hmax ↦ absurd ⟨hpos, hmax⟩ hclassic⟩

/-- The search finds the first node of the mask from a node on, or the first node behind the classic
ones. -/
theorem nextNode_spec (mask : Nodemask) {fuel node : ℕ} (hpos : 1 ≤ node)
    (hle : node ≤ zwClassicMaxNodes + 1) (hfuel : zwClassicMaxNodes + 1 ≤ node + fuel) :
    node ≤ nextNode mask fuel node ∧ nextNode mask fuel node ≤ zwClassicMaxNodes + 1 ∧
      (∀ other, node ≤ other → other < nextNode mask fuel node → testNode other mask = false) ∧
      (nextNode mask fuel node ≤ zwClassicMaxNodes →
        testNode (nextNode mask fuel node) mask = true) := by
  induction fuel generalizing node with
  | zero =>
    refine ⟨Nat.le_refl node, hle, fun other hfrom hto ↦ absurd hto (Nat.not_lt.mpr hfrom),
      fun hclassic ↦ ?_⟩
    exact absurd (hfuel.trans hclassic) (Nat.not_succ_le_self _)
  | succ fuel ih =>
    rw [nextNode]
    split_ifs with hskip
    · have hclassic := (nodeBit_isSome hpos hle).mp hskip.1
      obtain ⟨hfrom, hto, hbetween, hfound⟩ :=
        @ih (node + 1) (Nat.le_succ_of_le hpos) (Nat.succ_le_succ hclassic) (by omega)
      refine ⟨Nat.le_of_succ_le hfrom, hto, fun other hother hless ↦ ?_, hfound⟩
      rcases Nat.eq_or_lt_of_le hother with rfl | hmore
      · exact hskip.2
      · exact hbetween other hmore hless
    · refine ⟨Nat.le_refl node, hle, fun other hfrom hto ↦ absurd hto (Nat.not_lt.mpr hfrom),
        fun hclassic ↦ ?_⟩
      have hvalid := (nodeBit_isSome hpos hle).mpr hclassic
      exact Bool.not_eq_false _ ▸ fun hnot ↦ hskip ⟨hvalid, hnot⟩

/-! ### The report of a transmission -/

/-- The wrapper is ready to go on with the multicast. -/
structure Ready (accepted : Accepted) (wrapper : Wrapper) : Prop where
  mask : wrapper.mcState.destNodemask = accepted.nodeList
  sendable : wrapper.mcState.sendable = true
  ticket : wrapper.mcTicket = accepted.ticket
  callback : wrapper.s2SendCallback = accepted.request.callback accepted.ticket
  user : wrapper.s2SendUser = accepted.ticket
  log : wrapper.log = accepted.start.wrapper.log

/-- The multicast has ended with this wrapper. -/
structure Ended (accepted : Accepted) (wrapper : Wrapper) : Prop where
  state : wrapper.mcState.state = .idle
  current : wrapper.current ≠ some (.call wrapper.mcTicket)
  log : ∃ txStatus, wrapper.log = accepted.invoked txStatus ++ accepted.start.wrapper.log

/-- What the report of a transmission leads to, when the search for the next node begins at a
node. -/
inductive Continues (accepted : Accepted) (begin : ℕ) (takes : Bool) (later : Wrapper) : Prop
  /-- There is no further node. -/
  | finished (hended : Ended accepted later)
      (hnone : ∀ node, begin ≤ node → IsClassicNode node → testNode node accepted.nodeList = false)
  /-- The next follow-up was not taken. -/
  | rejected (hended : Ended accepted later) (htakes : takes = false)
      (hoffered : (nodeBit (nextNode accepted.nodeList zwMaxNodes begin)).isNone = false)
  /-- The next follow-up is on its way. -/
  | sent (hready : Ready accepted later) (hstate : later.mcState.state = .send)
      (hcurrent : later.current = some (.call later.mcTicket)) (hfrom : begin ≤ later.mcState.rNode)
      (hclassic : IsClassicNode later.mcState.rNode)
        (hmask : testNode later.mcState.rNode accepted.nodeList = true)
      (hbetween : ∀ node, begin ≤ node → node < later.mcState.rNode →
        testNode node accepted.nodeList = false)

section Report

variable {accepted : Accepted} {wrapper : Wrapper} {takes : Bool}

/-- The callback is invoked when the multicast is over. -/
theorem ended_invokeCallback (hready : Ready accepted wrapper)
    (hstate : wrapper.mcState.state = .idle)
    (hcurrent : wrapper.current ≠ some (.call wrapper.mcTicket)) (status : UInt8) :
    Ended accepted (invokeCallback (.call accepted.ticket) status wrapper) := by
  have hcallback := hready.callback
  unfold Request.callback at hcallback
  unfold invokeCallback
  cases hhas : accepted.request.hasCallback with
  | false =>
    rw [hhas, if_neg Bool.false_ne_true] at hcallback
    rw [hcallback]
    refine ⟨hstate, hcurrent, status, ?_⟩
    rw [Accepted.invoked, hhas, if_neg Bool.false_ne_true]
    exact hready.log
  | true =>
    rw [hhas, if_pos rfl] at hcallback
    rw [hcallback]
    refine ⟨hstate, hcurrent, s2zwCodes.getD status.toNat 0, ?_⟩
    rw [Accepted.invoked, hhas, if_pos rfl, ← hready.log, ← hready.user]
    rfl

/-- The wrapper is ready with other values of the search. -/
theorem Ready.searching (hready : Ready accepted wrapper) (state : McSendState) (rNode : ℕ)
    (current : Option Owner) :
    Ready accepted { wrapper with mcState := { wrapper.mcState with state, rNode }, current } :=
  ⟨hready.mask, hready.sendable, hready.ticket, hready.callback, hready.user, hready.log⟩

theorem currentFor_ne (takes : Bool) (ticket : ℕ) : currentFor takes ≠ some (.call ticket) := by
  cases takes
  · exact fun hsome ↦ by cases hsome
  · exact fun hsome ↦ by cases hsome

theorem s2SendData_taken (owner : Owner) {sendable : Bool} (hsendable : sendable = true)
    (hfree : wrapper.current = none) :
    s2SendData owner sendable wrapper = ({ wrapper with current := some owner }, true) :=
  if_pos ⟨hsendable, hfree⟩

theorem s2SendData_busy (owner : Owner) (sendable : Bool) (hbusy : wrapper.current ≠ none) :
    s2SendData owner sendable wrapper = (wrapper, false) :=
  if_neg fun hfree ↦ hbusy hfree.2

/-- The next follow-up is given to libs2. -/
theorem continues_offer {begin : ℕ} (hready : Ready accepted wrapper)
    (hstate : wrapper.mcState.state = .send)
    (hcurrent : wrapper.current = currentFor takes) (hfrom : begin ≤ wrapper.mcState.rNode)
    (hclassic : IsClassicNode wrapper.mcState.rNode)
    (hmask : testNode wrapper.mcState.rNode accepted.nodeList = true)
    (hbetween : ∀ node, begin ≤ node → node < wrapper.mcState.rNode →
      testNode node accepted.nodeList = false)
    (hoffered : (nodeBit (nextNode accepted.nodeList zwMaxNodes begin)).isNone = false) :
    Continues accepted begin takes
      (let sent := s2SendData (.call wrapper.mcTicket) wrapper.mcState.sendable wrapper
      if sent.2 then sent.1 else invokeCallback (.call accepted.ticket) s2TransmitCompleteFail
        sent.1.endMulticast) := by
  cases takes with
  | true =>
    rw [s2SendData_taken _ hready.sendable hcurrent]
    have hsent : Ready accepted { wrapper with current := some (.call wrapper.mcTicket) } :=
      ⟨hready.mask, hready.sendable, hready.ticket, hready.callback, hready.user, hready.log⟩
    exact .sent hsent hstate rfl hfrom hclassic hmask hbetween
  | false =>
    have hbusy : wrapper.current ≠ none := by
      rw [hcurrent]
      exact Option.some_ne_none _
    rw [s2SendData_busy _ _ hbusy]
    refine .rejected ?_ rfl hoffered
    exact ended_invokeCallback (hready.searching .idle _ _) rfl
      (fun hown ↦ currentFor_ne false _ (hcurrent.symm.trans hown)) _

/-- The search for the next node, and what follows. -/
theorem continues_followUp (hready : Ready accepted wrapper)
    (hcurrent : wrapper.current = currentFor takes)
    (hpos : 1 ≤ wrapper.mcState.rNode) (hle : wrapper.mcState.rNode ≤ zwClassicMaxNodes + 1)
    (status : UInt8) :
    Continues accepted wrapper.mcState.rNode takes
      (followUp (.call accepted.ticket) status wrapper) := by
  have hfuel : zwClassicMaxNodes + 1 ≤ wrapper.mcState.rNode + zwMaxNodes :=
    (by decide : zwClassicMaxNodes + 1 ≤ zwMaxNodes).trans (Nat.le_add_left _ _)
  obtain ⟨hfrom, hto, hbetween, hfound⟩ := nextNode_spec wrapper.mcState.destNodemask hpos hle hfuel
  have hvalid := nodeBit_isSome (hpos.trans hfrom) hto
  unfold followUp
  rw [hready.mask] at hfrom hto hbetween hfound hvalid ⊢
  dsimp only
  generalize hnode : nextNode accepted.nodeList zwMaxNodes wrapper.mcState.rNode = node
    at hfrom hto hbetween hfound hvalid ⊢
  by_cases hclassic : node ≤ zwClassicMaxNodes
  · have hsome : ¬(nodeBit node).isNone = true := by
      rw [Option.isNone_iff_eq_none]
      exact Option.isSome_iff_ne_none.mp (hvalid.mpr hclassic)
    rw [if_neg hsome]
    exact continues_offer (hready.searching .send node wrapper.current) rfl hcurrent hfrom
      ⟨hpos.trans hfrom, hclassic⟩ (hfound hclassic) hbetween (hnode ▸ Bool.eq_false_iff.mpr hsome)
  · have hnone : (nodeBit node).isNone = true := by
      rw [Option.isNone_iff_eq_none]
      by_contra hsome
      exact hclassic (hvalid.mp (Option.isSome_iff_ne_none.mpr hsome))
    rw [if_pos hnone]
    refine .finished ?_ fun other hother hother' ↦ ?_
    · exact ended_invokeCallback (hready.searching .idle node _) rfl
        (fun hown ↦ currentFor_ne takes _ (hcurrent.symm.trans hown)) status
    · exact hbetween other hother (Nat.lt_of_le_of_lt hother'.2 (Nat.lt_of_not_le hclassic))

end Report

/-! ### Runs -/

/-- A multicast that is not over yet. In the first phase its own frame has not been reported, then
the last follow-up. -/
structure Delivering (accepted : Accepted) (multicast : Multicast) : Prop where
  ready : Ready accepted multicast.wrapper
  ordered : multicast.sent.Pairwise (· < ·)
  inMask : ∀ node ∈ multicast.sent, IsClassicNode node ∧ testNode node accepted.nodeList = true
  covers : ∀ node, IsClassicNode node → testNode node accepted.nodeList = true →
    node < multicast.wrapper.mcState.rNode → node ∈ multicast.sent
  aborted : multicast.wrapper.mcState.state = .abort → multicast.aborted = true
  phase :
    multicast.first = true ∧
        (multicast.wrapper.mcState.state = .sendFirst ∨ multicast.wrapper.mcState.state = .abort) ∧
        multicast.wrapper.mcState.rNode = 1 ∧ multicast.sent = [] ∧ multicast.results = [] ∨
      multicast.first = false ∧
        (multicast.wrapper.mcState.state = .send ∨ multicast.wrapper.mcState.state = .abort) ∧
        multicast.sent = multicast.results.map McastStatus.nodeId ++
          [multicast.wrapper.mcState.rNode] ∧
        multicast.entries = multicast.results

/-- The multicast is going on, or it is over and everything is as it should be. -/
inductive Delivers (accepted : Accepted) (multicast : Multicast) : Prop
  | going (hdelivering : Delivering accepted multicast)
  | ended (hover : multicast.Over) (hfirst : multicast.first = false)
    (hfollows : Follows accepted multicast)

section Steps

variable {accepted : Accepted} {multicast : Multicast}

theorem Delivering.not_over (hdelivering : Delivering accepted multicast) : ¬multicast.Over := by
  intro hover
  rcases hdelivering.phase with ⟨-, hstate, -⟩ | ⟨-, hstate, -⟩
  · rcases hstate with hstate | hstate <;> cases hover.symm.trans hstate
  · rcases hstate with hstate | hstate <;> cases hover.symm.trans hstate

theorem Delivering.follows (hdelivering : Delivering accepted multicast) :
    Follows accepted multicast where
  ordered := hdelivering.ordered
  inMask := hdelivering.inMask
  complete hover := absurd hover hdelivering.not_over
  statuses hover := absurd hover hdelivering.not_over
  waits _ := hdelivering.ready.log
  invokes hover := absurd hover hdelivering.not_over

theorem Delivers.follows (hdelivers : Delivers accepted multicast) :
    Follows accepted multicast := by
  cases hdelivers with
  | going hdelivering => exact hdelivering.follows
  | ended _ _ hfollows => exact hfollows

/-- The multicast is aborted. -/
theorem Delivering.abort (hdelivering : Delivering accepted multicast) :
    Delivering accepted (deliver multicast .abort) := by
  have hbusy : multicast.wrapper.mcState.state ≠ .idle := hdelivering.not_over
  have hready := hdelivering.ready
  unfold deliver
  dsimp only
  rw [if_neg hbusy, sec2AbortMulticast, if_pos hbusy]
  refine ⟨⟨hready.mask, hready.sendable, hready.ticket, hready.callback, hready.user, hready.log⟩,
    hdelivering.ordered, hdelivering.inMask, hdelivering.covers, fun _ ↦ rfl, ?_⟩
  rcases hdelivering.phase with ⟨hfirst, -, hrest⟩ | ⟨hfirst, -, hrest⟩
  · exact .inl ⟨hfirst, .inr rfl, hrest⟩
  · exact .inr ⟨hfirst, .inr rfl, hrest⟩

/-- The multicast goes on when all follow-ups before a node have been reported. -/
theorem delivers_of_continues {begin : ℕ} {takes : Bool} {later : Wrapper} {sent : List ℕ}
    {results : List McastStatus} (aborted : Bool) {rejected : Bool}
    (hcontinues : Continues accepted begin takes later) (hordered : sent.Pairwise (· < ·))
    (hinMask : ∀ node ∈ sent, IsClassicNode node ∧ testNode node accepted.nodeList = true)
    (hcovers : ∀ node, IsClassicNode node → testNode node accepted.nodeList = true → node < begin →
      node ∈ sent)
    (hbelow : ∀ node ∈ sent, node < begin) (hresults : results.map McastStatus.nodeId = sent)
    (hrejected : takes = false →
      (nodeBit (nextNode accepted.nodeList zwMaxNodes begin)).isNone = false →
      rejected = true) :
    Delivers accepted {
      wrapper := later, entries := results, first := false
      sent := if later.current = some (.call later.mcTicket) then sent ++
        [later.mcState.rNode] else sent
      results, aborted, rejected } := by
  have hended : Ended accepted later →
      (rejected = false → ∀ node, IsClassicNode node → testNode node accepted.nodeList = true →
        node ∈ sent) →
      Delivers accepted {
        wrapper := later, entries := results, first := false
        sent := if later.current = some (.call later.mcTicket) then sent ++
          [later.mcState.rNode] else sent
        results, aborted, rejected } := by
    intro hended hcomplete
    rw [if_neg hended.current]
    refine .ended hended.state rfl ⟨hordered, hinMask, fun _ _ ↦ hcomplete,
      fun _ ↦ ⟨rfl, hresults⟩, ?_, fun _ ↦ hended.log⟩
    exact fun hgoing ↦ absurd hended.state hgoing
  cases hcontinues with
  | finished hover hnone =>
    refine hended hover fun _ node hclassic hmask ↦ ?_
    rcases Nat.lt_or_ge node begin with hless | hmore
    · exact hcovers node hclassic hmask hless
    · exact absurd (hmask.symm.trans (hnone node hmore hclassic)) Bool.noConfusion
  | rejected hover htakes hoffered =>
    exact hended hover fun hnot ↦
      absurd (hnot.symm.trans (hrejected htakes hoffered)) Bool.false_ne_true
  | sent hready hstate hcurrent hfrom hclassic hmask hbetween =>
    rw [if_pos hcurrent]
    refine .going ⟨hready, ?_, ?_, ?_, fun habort ↦ ?_, ?_⟩
    · rw [pairwise_append]
      refine ⟨hordered, pairwise_singleton _ _, fun node hnode other hother ↦ ?_⟩
      rw [mem_singleton.mp hother]
      exact Nat.lt_of_lt_of_le (hbelow node hnode) hfrom
    · intro node hnode
      rcases mem_append.mp hnode with hold | hnew
      · exact hinMask node hold
      · rw [mem_singleton.mp hnew]
        exact ⟨hclassic, hmask⟩
    · intro node hnode htest hless
      refine mem_append_left _ ?_
      rcases Nat.lt_or_ge node begin with hbefore | hmore
      · exact hcovers node hnode htest hbefore
      · exact absurd (htest.symm.trans (hbetween node hmore hless)) Bool.noConfusion
    · cases hstate.symm.trans habort
    · refine .inr ⟨rfl, .inl hstate, ?_, rfl⟩
      rw [hresults]

theorem Ready.busy (hready : Ready accepted multicast.wrapper) (current : Option Owner) :
    Ready accepted { multicast.wrapper with current } :=
  ⟨hready.mask, hready.sendable, hready.ticket, hready.callback, hready.user, hready.log⟩

/-- A follow-up that is not taken is counted as rejected. -/
theorem next_isSome {mc : McState} {begin : ℕ} (hother : mc.state ≠ .abort)
    (hbegin : (if mc.state = .send then mc.rNode + 1 else mc.rNode) = begin)
    (hoffered : (nodeBit (nextNode mc.destNodemask zwMaxNodes begin)).isNone = false) :
    mc.next.isSome = true := by
  rw [McState.next, hbegin, if_neg (not_or.mpr ⟨hother, Bool.eq_false_iff.mp hoffered⟩)]
  rfl

/-- The frame of the multicast itself is reported. -/
theorem Delivering.reportFirst (hdelivering : Delivering accepted multicast)
    (hfirst : multicast.first = true)
    (hstate : multicast.wrapper.mcState.state = .sendFirst) (status : UInt8) (takes : Bool) :
    Delivers accepted (deliver multicast (.done status takes)) := by
  have hready := hdelivering.ready
  obtain ⟨-, -, hnode, hsent, hresults⟩ := hdelivering.phase.resolve_right fun hother ↦
    Bool.false_ne_true (hother.1.symm.trans hfirst)
  have hbusy : multicast.wrapper.mcState.state ≠ .idle := hdelivering.not_over
  have hwrapper : s2SendDoneEvent (.call multicast.wrapper.mcTicket) status
      { multicast.wrapper with current := currentFor takes } =
        followUp (.call accepted.ticket) status
          { multicast.wrapper with current := currentFor takes } := by
    rw [s2SendDoneEvent, congrArg Owner.call hready.ticket]
    simp only [hstate]
  have hcontinues := continues_followUp (hready.busy (currentFor takes))
    rfl (Nat.le_of_eq hnode.symm) (hnode.trans_le (by decide)) status
  unfold deliver
  dsimp only
  rw [if_neg hbusy, hwrapper, globalMcastStatus, hstate, hfirst, hsent, hresults]
  refine delivers_of_continues _ hcontinues List.Pairwise.nil nofun
    ?_ nofun rfl fun htakes hoffered ↦ ?_
  · intro node hclassic _ hless
    exact absurd hclassic.1 (Nat.not_lt.mpr (Nat.le_of_lt_succ (hless.trans_eq hnode)))
  · have hsome := @next_isSome multicast.wrapper.mcState _ (by rw [hstate]; decide)
      (if_neg (by rw [hstate]; decide)) (hready.mask ▸ hoffered)
    rw [hsome, htakes, Bool.not_false, Bool.and_self, Bool.or_true]

/-- A follow-up is reported, and the next one sent. -/
theorem Delivering.reportNext (hdelivering : Delivering accepted multicast)
    (hstate : multicast.wrapper.mcState.state = .send) (status : UInt8) (takes : Bool) :
    Delivers accepted (deliver multicast (.done status takes)) := by
  have hready := hdelivering.ready
  obtain ⟨hfirst, -, hsent, hentries⟩ := hdelivering.phase.resolve_left fun hother ↦ by
    rcases hother.2.1 with hnot | hnot <;> cases hstate.symm.trans hnot
  have hbusy : multicast.wrapper.mcState.state ≠ .idle := hdelivering.not_over
  have hlast : multicast.wrapper.mcState.rNode ∈ multicast.sent := by
    rw [hsent]
    exact mem_append_right _ mem_cons_self
  have hclassic := (hdelivering.inMask _ hlast).1
  have hwrapper : s2SendDoneEvent (.call multicast.wrapper.mcTicket) status
      { multicast.wrapper with current := currentFor takes } =
        followUp (.call accepted.ticket) status
          { multicast.wrapper with
            mcState := { multicast.wrapper.mcState with rNode :=
              multicast.wrapper.mcState.rNode + 1 }
            current := currentFor takes } := by
    rw [s2SendDoneEvent, congrArg Owner.call hready.ticket]
    simp only [hstate]
  have hcontinues := continues_followUp
    (hready.searching multicast.wrapper.mcState.state (multicast.wrapper.mcState.rNode + 1)
      (currentFor takes)) rfl
    (Nat.le_add_left 1 _) (Nat.succ_le_succ hclassic.2) status
  unfold deliver
  dsimp only
  rw [if_neg hbusy, hwrapper, globalMcastStatus, hstate, hfirst, hentries]
  have hgetLast : multicast.sent.getLast? = some multicast.wrapper.mcState.rNode := by
    rw [hsent, List.getLast?_concat]
  rw [hgetLast]
  refine delivers_of_continues _ hcontinues hdelivering.ordered hdelivering.inMask ?_ ?_ ?_
    fun htakes hoffered ↦ ?_
  · intro node hnode hmask hless
    rcases Nat.lt_or_eq_of_le (Nat.le_of_lt_succ hless) with hbefore | rfl
    · exact hdelivering.covers node hnode hmask hbefore
    · exact hlast
  · intro node hnode
    rw [hsent] at hnode
    have hordered := hdelivering.ordered
    rw [hsent, pairwise_append] at hordered
    rcases mem_append.mp hnode with hold | hnew
    · exact Nat.lt_succ_of_lt (hordered.2.2 node hold _ mem_cons_self)
    · rw [mem_singleton.mp hnew]
      exact Nat.lt_succ_self _
  · rw [map_append, hsent]
    rfl
  · have hsome := @next_isSome multicast.wrapper.mcState _ (by rw [hstate]; decide) (if_pos hstate)
      (hready.mask ▸ hoffered)
    rw [hsome, htakes, Bool.not_false, Bool.and_self, Bool.or_true]

/-- A report after the multicast was aborted ends it. -/
theorem Delivering.ended_aborted (hdelivering : Delivering accepted multicast)
    (hstate : multicast.wrapper.mcState.state = .abort) (status : UInt8) (takes : Bool) :
    Ended accepted (s2SendDoneEvent (.call multicast.wrapper.mcTicket) status
      { multicast.wrapper with current := currentFor takes }) := by
  have hready := hdelivering.ready
  have hwrapper : s2SendDoneEvent (.call multicast.wrapper.mcTicket) status
      { multicast.wrapper with current := currentFor takes } =
        invokeCallback (.call accepted.ticket) transmitCompleteNoAck
          { multicast.wrapper with
            mcState := { multicast.wrapper.mcState with
              state := .idle, rNode := multicast.wrapper.mcState.rNode + 1 }
            current := currentFor takes } := by
    rw [s2SendDoneEvent, congrArg Owner.call hready.ticket]
    simp only [hstate]
  rw [hwrapper]
  exact ended_invokeCallback
    (hready.searching .idle (multicast.wrapper.mcState.rNode + 1) (currentFor takes))
      rfl (currentFor_ne takes _)
    transmitCompleteNoAck

/-- A follow-up is reported after the multicast was aborted. -/
theorem Delivering.reportAborted (hdelivering : Delivering accepted multicast)
    (hfirst : multicast.first = false)
    (hstate : multicast.wrapper.mcState.state = .abort) (status : UInt8) (takes : Bool) :
    Delivers accepted (deliver multicast (.done status takes)) := by
  obtain ⟨-, -, hsent, hentries⟩ := hdelivering.phase.resolve_left fun hother ↦
    Bool.false_ne_true (hfirst.symm.trans hother.1)
  have hbusy : multicast.wrapper.mcState.state ≠ .idle := hdelivering.not_over
  have hended := hdelivering.ended_aborted hstate status takes
  have hgetLast : multicast.sent.getLast? = some multicast.wrapper.mcState.rNode := by
    rw [hsent, List.getLast?_concat]
  unfold deliver
  dsimp only
  rw [if_neg hbusy, globalMcastStatus, hstate, hfirst, hentries, hgetLast, if_neg hended.current]
  refine .ended hended.state rfl ⟨hdelivering.ordered, hdelivering.inMask, fun _ hnot ↦ ?_,
    fun _ ↦ ⟨rfl, ?_⟩, fun hgoing ↦ absurd hended.state hgoing, fun _ ↦ hended.log⟩
  · exact absurd (hnot.symm.trans (hdelivering.aborted hstate)) Bool.false_ne_true
  · rw [hsent]
    exact map_append

/-- Every step that is spared keeps the multicast in order. -/
theorem delivers_step {happening : Happening} (hspares : Spares multicast happening)
    (hdelivers : Delivers accepted multicast) :
    Delivers accepted (deliver multicast happening) := by
  cases hdelivers with
  | ended hover hfirst hfollows =>
    have hsame : deliver multicast happening = multicast := if_pos hover
    rw [hsame]
    exact .ended hover hfirst hfollows
  | going hdelivering =>
    cases happening with
    | abort => exact .going hdelivering.abort
    | done status takes =>
      rcases hdelivering.phase with ⟨hfirst, hstate, -⟩ | ⟨hfirst, hstate, -⟩
      · exact hdelivering.reportFirst hfirst (hstate.resolve_right (hspares hfirst)) status takes
      · rcases hstate with hsend | habort
        · exact hdelivering.reportNext hsend status takes
        · exact hdelivering.reportAborted hfirst habort status takes

/-- A step that is not spared leaves an entry for a follow-up that was not sent. -/
theorem Delivers.spares {happening : Happening} (hdelivers : Delivers accepted multicast)
    (hfollows : Follows accepted (deliver multicast happening)) : Spares multicast happening := by
  cases happening with
  | abort => trivial
  | done status takes =>
    intro hfirst habort
    cases hdelivers with
    | ended _ hnot _ => exact Bool.false_ne_true (hnot.symm.trans hfirst)
    | going hdelivering =>
      obtain ⟨-, -, -, hsent, hresults⟩ := hdelivering.phase.resolve_right fun hother ↦
        Bool.false_ne_true (hother.1.symm.trans hfirst)
      have hbusy : multicast.wrapper.mcState.state ≠ .idle := hdelivering.not_over
      have hended := hdelivering.ended_aborted habort status takes
      unfold deliver at hfollows
      dsimp only at hfollows
      rw [if_neg hbusy, globalMcastStatus, habort, hfirst, hresults] at hfollows
      exact append_ne_nil_of_right_ne_nil _ (cons_ne_nil _ _) (hfollows.statuses hended.state).1

/-- The multicast was just accepted. -/
theorem delivers_start (accepted : Accepted) : Delivers accepted accepted.start := by
  have hwrapper : accepted.start.wrapper =
      ({ accepted.wrapper with
        s2SendCallback := accepted.request.callback accepted.ticket
        s2SendUser := accepted.ticket
        mcState := ⟨.sendFirst, 1, accepted.nodeList, accepted.request.sendable⟩
        mcTicket := accepted.ticket
        current := some (.call accepted.ticket) } : Wrapper).note
          (.accepted accepted.ticket accepted.request.hasCallback) := by
    unfold Accepted.start sec2SendMulticast
    dsimp only
    rw [if_pos accepted.isIdle]
    simp only [Wrapper.setSlots, s2SendData, accepted.isTaken.1, accepted.isTaken.2,
      and_self, if_true]
  have hready : Ready accepted accepted.start.wrapper := by
    refine ⟨?_, ?_, ?_, ?_, ?_, rfl⟩ <;> rw [hwrapper] <;> first | rfl | exact accepted.isTaken.1
  have hnode : accepted.start.wrapper.mcState.rNode = 1 := by
    rw [hwrapper]
    rfl
  have hstate : accepted.start.wrapper.mcState.state = .sendFirst := by
    rw [hwrapper]
    rfl
  refine .going ⟨hready, List.Pairwise.nil, nofun, ?_, ?_, .inl ⟨rfl, .inl hstate, hnode, rfl, rfl⟩⟩
  · intro node hclassic _ hless
    exact absurd hclassic.1 (Nat.not_lt.mpr (Nat.le_of_lt_succ (hless.trans_eq hnode)))
  · intro habort
    cases hstate.symm.trans habort

end Steps

/-- The follow-ups of a multicast, `global_mcast_status` and the callback are in order in a run
exactly when the frame of the multicast itself is not reported after `sec2_abort_multicast` was
called. -/
theorem followups_iff (accepted : Accepted) (happenings : List Happening) :
    (∀ way, way <+: happenings → Follows accepted (run deliver accepted.start way)) ↔
      AllSteps deliver Spares accepted.start happenings := by
  have hkeep : ∀ multicast happening, Spares multicast happening → Delivers accepted multicast →
      Delivers accepted (deliver multicast happening) :=
        fun _ _ hspares hdelivers ↦ delivers_step hspares hdelivers
  have hclaim : ∀ multicast, Delivers accepted multicast → Follows accepted multicast :=
    fun _ hdelivers ↦ hdelivers.follows
  have hbreak : ∀ multicast happening, Delivers accepted multicast →
    Follows accepted (deliver multicast happening) →
      Spares multicast happening := fun _ _ hdelivers hfollows ↦ hdelivers.spares hfollows
  exact forall_prefix_run_iff_allSteps_of_invariant hkeep hclaim hbreak
    (delivers_start accepted) happenings

/-- A multicast to node 5, with follow-ups. -/
def acceptedSample : Accepted where
  wrapper := start
  entries := []
  ticket := 0
  request := { sendable := true, hasCallback := true }
  nodeList := addNode 5 empty
  isIdle := rfl
  isTaken := ⟨rfl, rfl⟩

/-- The multicast is aborted before its frame is reported. Node 1 is noted with the result of this
frame, though no follow-up was sent. -/
theorem followups_fail :
    ¬ ∀ (accepted : Accepted) (happenings : List Happening),
      Follows accepted (run deliver accepted.start happenings) := by
  intro hall
  have hfollows := hall acceptedSample [.abort, .done s2TransmitCompleteOk true]
  have hentries :
      (run deliver acceptedSample.start [.abort, .done s2TransmitCompleteOk true]).entries =
      [⟨1, true⟩] := rfl
  have hresults : (run deliver acceptedSample.start
    [.abort, .done s2TransmitCompleteOk true]).results = [] := rfl
  have hsame := (hfollows.statuses rfl).1
  rw [hentries, hresults] at hsame
  cases hsame

end ZipGateway.S2Wrap
