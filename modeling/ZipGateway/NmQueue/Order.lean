import ZipGateway.NmQueue.Model
import Mathlib.Data.List.Nodup

/-!
# What the queue promises

A queued command is started once and in the order of arrival among the commands of its node; its
sender gets one final answer; an awake check wakes the node that was checked; and
`current_executing_node` is set only while a queued command is in progress. `Sound` says so of the
log and the state, and `Allowed` what the steps must meet for it: an awake check that succeeds reads
the node it was made for, and a command that is started is in progress when the handler returns.
Each exception breaks a promise at once (`sound_run_iff`).
-/

set_option autoImplicit false

namespace ZipGateway.NmQueue

open ZipGateway.Lib

/-! ### The promises -/

/-- The numbers of the commands that were started, newest first. -/
def starts (log : List Act) : List ℕ :=
  log.filterMap fun
    | .started number _ => some number
    | _ => none

/-- The numbers of the commands of a node that were started, newest first. -/
def startsOf (node : UInt16) (log : List Act) : List ℕ :=
  log.filterMap fun
    | .started number other => if other = node then some number else none
    | _ => none

/-- How often a command was removed, with its slot freed and a final answer. -/
def finals (number : ℕ) (log : List Act) : ℕ :=
  log.countP fun
    | .removed other _ => decide (other = number)
    | _ => false

/-- The numbers of the commands that wait. -/
def State.numbers (s : State) : List ℕ := s.nmOpQueue.map Element.number

/-- The promises. -/
structure Sound (s : State) : Prop where
  started_once : (starts s.log).Nodup
  in_order : ∀ node, (startsOf node s.log).Pairwise (· > ·)
  one_final : ∀ number, s.numbers.count number + finals number s.log = if number <
    s.next then 1 else 0
  awake_right : ∀ checked woken, .awake checked woken ∈ s.log → checked = woken
  marker : s.currentExecutingNode ≠ 0 → s.running ≠ none

/-- The wake-up of a node starts a command. -/
def Starts (node : UInt16) (h : Handler) (s : State) : Prop :=
  h.isBusy = false ∧ findElement node s ≠ none ∧
    (s.currentExecutingNode = 0 ∨ s.currentExecutingNode = node)

/-- The condition on a step. -/
def Allowed (s : State) : Input → Prop
  | .wakeup node h => Starts node h s → h = .inProgress
  | .awake k ok read h => ok = true → ∀ checked ∈ s.checks[k]?, checked = read ∧
      (Starts read h s → h = .inProgress)
  | .nmDone h => s.currentExecutingNode ≠ 0 → Starts s.currentExecutingNode h s → h = .inProgress
  | _ => True

/-- What holds of the queue besides the promises. -/
structure Queued (s : State) : Prop where
  sorted : s.numbers.Pairwise (· < ·)
  bounded : ∀ e ∈ s.nmOpQueue, e.number < s.next
  nodes : ∀ e ∈ s.nmOpQueue, e.destinationNode ≠ 0
  unstarted : ∀ e ∈ s.nmOpQueue, e.number ∉ starts s.log
  later : ∀ e ∈ s.nmOpQueue, ∀ number ∈ startsOf e.destinationNode s.log, number < e.number
  started_lt : ∀ number ∈ starts s.log, number < s.next

/-! ### Logs -/

section Logs

variable {s : State} {log : List Act} {number : ℕ} {node : UInt16}

theorem startsOf_started (other : UInt16) : startsOf node (.started number other :: log) =
    if other = node then number :: startsOf node log else startsOf node log := by
  split_ifs with hsame
  · exact List.filterMap_cons_some (if_pos hsame)
  · exact List.filterMap_cons_none (if_neg hsame)

@[simp]
theorem finals_removed (other : ℕ) (status : Response) : finals number
    (.removed other status :: log) = finals number log + if other = number then 1 else 0 := by
  unfold finals
  rw [List.countP_cons]
  simp

theorem mem_starts_of_mem_startsOf (hmem : number ∈ startsOf node log) : number ∈ starts log := by
  obtain ⟨act, hact, hnumber⟩ := List.mem_filterMap.mp hmem
  refine List.mem_filterMap.mpr ⟨act, hact, ?_⟩
  cases act with
  | started other node' =>
    dsimp only at hnumber ⊢
    split_ifs at hnumber
    exact hnumber
  | queued other => exact absurd hnumber (by simp)
  | waiting other => exact absurd hnumber (by simp)
  | removed other response => exact absurd hnumber (by simp)
  | awake checked woken => exact absurd hnumber (by simp)
  | mailboxWakeup other => exact absurd hnumber (by simp)

/-- The act says nothing about the promises. -/
def Act.isNote : Act → Bool
  | .queued _ | .waiting _ | .mailboxWakeup _ => true
  | _ => false

theorem Sound.note (h : Sound s) {act : Act} (hact : act.isNote = true) : Sound (s.record act) := by
  cases act with
  | queued other | waiting other | mailboxWakeup other =>
    refine ⟨h.started_once, h.in_order, h.one_final, ?_, h.marker⟩
    intro checked woken hmem
    exact h.awake_right checked woken ((List.mem_cons.mp hmem).resolve_left (by simp))
  | started other node => exact absurd hact Bool.false_ne_true
  | removed other response => exact absurd hact Bool.false_ne_true
  | awake checked woken => exact absurd hact Bool.false_ne_true

theorem Queued.note (h : Queued s) {act : Act} (hact : act.isNote = true) :
    Queued (s.record act) := by
  cases act with
  | queued other | waiting other | mailboxWakeup other =>
    exact ⟨h.sorted, h.bounded, h.nodes, h.unstarted, h.later, h.started_lt⟩
  | started other node => exact absurd hact Bool.false_ne_true
  | removed other response => exact absurd hact Bool.false_ne_true
  | awake checked woken => exact absurd hact Bool.false_ne_true

end Logs

/-! ### Elements of the queue -/

section Elements

variable {s : State} {e : Element} {node : UInt16}

theorem findElement_some (hfind : findElement node s = some e) :
    e ∈ s.nmOpQueue ∧ e.destinationNode = node := by
  have hfound : s.nmOpQueue.find? (fun e ↦ decide (e.destinationNode = node)) = some e := hfind
  have hnode := List.find?_some hfound
  exact ⟨List.mem_of_find?_eq_some hfound, of_decide_eq_true hnode⟩

theorem numbers_removeElement (e : Element) (status : Response) (s : State) :
    (removeElement e status s).numbers = s.numbers.erase e.number := by
  unfold State.numbers removeElement
  dsimp only
  rw [List.erase_eq_eraseP, List.eraseP_map]
  congr 2
  funext other
  rw [Function.comp_apply, beq_eq_decide]
  exact decide_eq_decide.mpr eq_comm

theorem Queued.nodup (h : Queued s) : s.numbers.Nodup := h.sorted.imp Nat.ne_of_lt

/-- The element found is the one of the node that has waited longest. -/
theorem Queued.findElement_le (h : Queued s) (hfind : findElement node s = some e) {other : Element}
    (hmem : other ∈ s.nmOpQueue) (hother : other.destinationNode = node)
    (hne : other.number ≠ e.number) : e.number < other.number := by
  obtain ⟨-, before, after, hqueue, hbefore⟩ := List.find?_eq_some_iff_append.mp hfind
  have hsorted :
      (before.map Element.number ++ e.number :: after.map Element.number).Pairwise (· < ·) := by
    rw [← List.map_cons, ← List.map_append, ← hqueue]
    exact h.sorted
  rw [hqueue] at hmem
  rcases List.mem_append.mp hmem with hmem | hmem
  · have hnot := hbefore other hmem
    rw [decide_eq_true hother] at hnot
    exact absurd hnot Bool.false_ne_true
  · rcases List.mem_cons.mp hmem with rfl | hmem
    · exact absurd rfl hne
    · exact (List.pairwise_cons.mp (List.pairwise_append.mp hsorted).2.1).1 _
        (List.mem_map_of_mem hmem)

theorem mem_removeElement {other : Element} (status : Response)
    (hmem : other ∈ (removeElement e status s).nmOpQueue) : other ∈ s.nmOpQueue :=
  List.mem_of_mem_eraseP hmem

/-- An element that is left has another number. -/
theorem Queued.number_ne (h : Queued s) {other : Element} (status : Response)
    (hmem : other ∈ (removeElement e status s).nmOpQueue) : other.number ≠ e.number := by
  intro hsame
  have hnumber : other.number ∈ (removeElement e status s).numbers := List.mem_map_of_mem hmem
  rw [numbers_removeElement, hsame] at hnumber
  exact h.nodup.not_mem_erase hnumber

theorem Queued.remove (h : Queued s) (status : Response) : Queued (removeElement e status s) where
  sorted := by
    rw [numbers_removeElement]
    exact h.sorted.sublist List.erase_sublist
  bounded := fun other hmem ↦ h.bounded other (mem_removeElement status hmem)
  nodes := fun other hmem ↦ h.nodes other (mem_removeElement status hmem)
  unstarted := fun other hmem ↦ h.unstarted other (mem_removeElement status hmem)
  later := fun other hmem ↦ h.later other (mem_removeElement status hmem)
  started_lt := h.started_lt

/-- A removal is the final answer to an element of the queue. -/
theorem Sound.remove (h : Sound s) (hmem : e ∈ s.nmOpQueue) (status : Response) :
    Sound (removeElement e status s) where
  started_once := h.started_once
  in_order := h.in_order
  one_final := by
    intro number
    have hbefore := h.one_final number
    have hlog : finals number (removeElement e status s).log =
        finals number s.log + if e.number = number then 1 else 0 := finals_removed e.number status
    rw [hlog, numbers_removeElement]
    rcases eq_or_ne e.number number with rfl | hother
    · have hpos : 0 < s.numbers.count e.number :=
        List.count_pos_iff.mpr (List.mem_map_of_mem hmem)
      rw [List.count_erase_self, if_pos rfl]
      have hnext : (removeElement e status s).next = s.next := rfl
      rw [hnext, ← hbefore]
      omega
    · rw [List.count_erase_of_ne hother.symm, if_neg hother]
      exact hbefore
  awake_right := fun checked woken hawake ↦
    h.awake_right checked woken ((List.mem_cons.mp hawake).resolve_left (by simp))
  marker := h.marker

/-- The state in which the handler works on an element of the queue for a node. -/
def startFor (node : UInt16) (e : Element) (s : State) : State :=
  { startElement e s with currentExecutingNode := node }

theorem Sound.startFor (h : Sound s) (hq : Queued s) (hfind : findElement node s = some e) :
    Sound (startFor node e s) where
  started_once := by
    obtain ⟨hmem, -⟩ := findElement_some hfind
    exact List.nodup_cons.mpr ⟨hq.unstarted e hmem, h.started_once⟩
  in_order := by
    intro other
    have hmem := (findElement_some hfind).1
    have hlog : startsOf other (NmQueue.startFor node e s).log =
        if e.destinationNode = other then e.number :: startsOf other s.log
          else startsOf other s.log :=
      startsOf_started e.destinationNode
    rw [hlog]
    split_ifs with hsame
    · refine List.pairwise_cons.mpr ⟨?_, h.in_order other⟩
      rw [← hsame]
      exact hq.later e hmem
    · exact h.in_order other
  one_final := h.one_final
  awake_right := fun checked woken hawake ↦
    h.awake_right checked woken ((List.mem_cons.mp hawake).resolve_left (by simp))
  marker := fun _ ↦ Option.some_ne_none e.number

/-- What is left in the queue has not been started, and comes later. -/
theorem Queued.startRemove (h : Queued s) (hfind : findElement node s = some e)
    (status : Response) : Queued (removeElement e status (startFor node e s)) where
  sorted := (h.remove status).sorted
  bounded := (h.remove status).bounded
  nodes := (h.remove status).nodes
  unstarted := by
    intro other hmem hstarted
    rcases List.mem_cons.mp hstarted with hsame | hbefore
    · exact h.number_ne status hmem hsame
    · exact h.unstarted other (mem_removeElement status hmem) hbefore
  later := by
    intro other hmem number hnumber
    have hlog : startsOf other.destinationNode
      (removeElement e status (NmQueue.startFor node e s)).log =
        if e.destinationNode = other.destinationNode then
          e.number :: startsOf other.destinationNode s.log
        else startsOf other.destinationNode s.log := startsOf_started e.destinationNode
    have hlater := h.later other (mem_removeElement status hmem)
    rw [hlog] at hnumber
    split_ifs at hnumber with hsame
    · rcases List.mem_cons.mp hnumber with rfl | hbefore
      · have hnode := (findElement_some hfind).2
        exact h.findElement_le hfind (mem_removeElement status hmem) (hsame.symm.trans hnode)
          (h.number_ne status hmem)
      · exact hlater number hbefore
    · exact hlater number hnumber
  started_lt := by
    intro number hnumber
    rcases List.mem_cons.mp hnumber with rfl | hbefore
    · exact h.bounded e (findElement_some hfind).1
    · exact h.started_lt number hbefore

end Elements

/-! ### Allowed steps -/

/-- The promises, and what else holds of the queue. -/
structure Inv (s : State) : Prop where
  sound : Sound s
  queued : Queued s

section Steps

variable {s : State} {node : UInt16}

theorem Inv.note (h : Inv s) {act : Act} (hact : act.isNote = true) : Inv (s.record act) :=
  ⟨h.sound.note hact, h.queued.note hact⟩

theorem Inv.remove (h : Inv s) {e : Element} (hmem : e ∈ s.nmOpQueue) (status : Response) :
    Inv (removeElement e status s) :=
  ⟨h.sound.remove hmem status, h.queued.remove status⟩

theorem Inv.startRemove (h : Inv s) {e : Element} (hfind : findElement node s = some e) :
    Inv (removeElement e .ack (startFor node e s)) :=
  ⟨(h.sound.startFor h.queued hfind).remove (findElement_some hfind).1 .ack,
    h.queued.startRemove hfind .ack⟩

/-- The elements of a list that are in the queue, each once, can be removed one after the other. -/
theorem Inv.removeAll {elements : List Element} (h : Inv s)
    (hnodup : (elements.map Element.number).Nodup) (hmem : ∀ e ∈ elements, e ∈ s.nmOpQueue) :
    Inv (elements.foldl (fun s e ↦ removeElement e .nak s) s) := by
  induction elements generalizing s with
  | nil => exact h
  | cons e rest ih =>
    obtain ⟨hfresh, hrest⟩ := List.nodup_cons.mp hnodup
    refine ih (h.remove (hmem e List.mem_cons_self) .nak) hrest ?_
    intro other hother
    have hne : other.number ≠ e.number := by
      intro hsame
      exact hfresh (hsame ▸ List.mem_map_of_mem hother)
    refine (List.mem_eraseP_of_neg ?_).mpr (hmem other (List.mem_cons_of_mem e hother))
    exact fun hsame ↦ hne (of_decide_eq_true hsame)

theorem Inv.purgeNode (h : Inv s) (node : UInt16) : Inv (purgeNode node s) := by
  refine h.removeAll ?_ fun e hmem ↦ (List.mem_filter.mp hmem).1
  exact h.queued.nodup.sublist (List.filter_sublist.map Element.number)

theorem Inv.purgeAll (h : Inv s) : Inv (purgeAll s) := h.removeAll h.queued.nodup fun _ hmem ↦ hmem

/-- An awake check that was started or has come back. -/
theorem Inv.setChecks (h : Inv s) (checks : List UInt16) : Inv { s with checks := checks } where
  sound := ⟨h.sound.started_once, h.sound.in_order, h.sound.one_final, h.sound.awake_right,
    h.sound.marker⟩
  queued := ⟨h.queued.sorted, h.queued.bounded, h.queued.nodes, h.queued.unstarted, h.queued.later,
    h.queued.started_lt⟩

/-- Nothing is in progress, and the marker is clear. -/
theorem Inv.idle (h : Inv s) : Inv { s with running := none, currentExecutingNode := 0 } where
  sound := ⟨h.sound.started_once, h.sound.in_order, h.sound.one_final, h.sound.awake_right,
    fun hset ↦ absurd rfl hset⟩
  queued := ⟨h.queued.sorted, h.queued.bounded, h.queued.nodes, h.queued.unstarted, h.queued.later,
    h.queued.started_lt⟩

/-- A command that is queued gets the next number. -/
theorem Inv.append (h : Inv s) {e : Element} (hnumber : e.number = s.next)
    (hnode : e.destinationNode ≠ 0) :
    Inv { s with nmOpQueue := s.nmOpQueue ++ [e], next := s.next + 1 } where
  sound := by
    refine ⟨h.sound.started_once, h.sound.in_order, ?_, h.sound.awake_right, h.sound.marker⟩
    intro number
    have hbefore := h.sound.one_final number
    have hcount : ((s.nmOpQueue ++ [e]).map Element.number).count number =
        s.numbers.count number + if s.next = number then 1 else 0 := by
      rw [List.map_append, List.count_append, List.map_singleton, List.count_singleton, hnumber]
      simp [State.numbers]
    change ((s.nmOpQueue ++ [e]).map Element.number).count number + finals number s.log =
      if number < s.next + 1 then 1 else 0
    rw [hcount]
    split_ifs at hbefore ⊢ <;> omega
  queued := by
    have hlt : ∀ other ∈ s.numbers, other < e.number := by
      intro other hmem
      obtain ⟨element, helement, rfl⟩ := List.mem_map.mp hmem
      rw [hnumber]
      exact h.queued.bounded element helement
    refine ⟨?_, ?_, ?_, ?_, ?_,
      fun number hmem ↦ Nat.lt_succ_of_lt (h.queued.started_lt number hmem)⟩
    · change ((s.nmOpQueue ++ [e]).map Element.number).Pairwise (· < ·)
      rw [List.map_append]
      refine List.pairwise_append.mpr ⟨h.queued.sorted, List.pairwise_singleton _ _, ?_⟩
      intro other hother last hlast
      rw [List.mem_singleton.mp hlast]
      exact hlt other hother
    · intro other hmem
      rcases List.mem_append.mp hmem with hmem | hmem
      · exact Nat.lt_succ_of_lt (h.queued.bounded other hmem)
      · rw [List.mem_singleton.mp hmem, hnumber]
        exact Nat.lt_succ_self s.next
    · intro other hmem
      rcases List.mem_append.mp hmem with hmem | hmem
      · exact h.queued.nodes other hmem
      · rw [List.mem_singleton.mp hmem]
        exact hnode
    · intro other hmem hstarted
      rcases List.mem_append.mp hmem with hmem | hmem
      · exact h.queued.unstarted other hmem hstarted
      · rw [List.mem_singleton.mp hmem, hnumber] at hstarted
        exact Nat.lt_irrefl s.next (h.queued.started_lt s.next hstarted)
    · intro other hmem number hnumbers
      rcases List.mem_append.mp hmem with hmem | hmem
      · exact h.queued.later other hmem number hnumbers
      · rw [List.mem_singleton.mp hmem] at hnumbers ⊢
        rw [hnumber]
        exact h.queued.started_lt number (mem_starts_of_mem_startsOf hnumbers)

theorem Inv.queueCommand (h : Inv s) (hnode : node ≠ 0) (cmd : List UInt8) :
    Inv (queueCommand node cmd s).1 := by
  unfold NmQueue.queueCommand
  split_ifs with hfull
  · exact h
  · have hroom :
        Inv { s with nmOpQueue := s.nmOpQueue ++ [⟨s.next, node, cmd⟩], next := s.next + 1 } :=
      h.append rfl hnode
    exact (hroom.note (show (Act.queued s.next).isNote = true from rfl)).note
      (show (Act.waiting s.next).isNote = true from rfl)

theorem Inv.queueIfTargetIsMailbox (h : Inv s) (cmd : List UInt8) (mbActiveNode : UInt16)
    (isMailbox taken : Bool) :
    Inv (queueIfTargetIsMailbox cmd mbActiveNode isMailbox taken s).1 := by
  unfold NmQueue.queueIfTargetIsMailbox
  dsimp only
  split_ifs with htarget hactive hmailbox htaken
  · exact h
  · exact (h.setChecks (s.checks ++ [getTargetNode cmd])).queueCommand htarget.1 cmd
  · exact h.queueCommand htarget.1 cmd
  · exact h
  · exact h

end Steps

/-! ### Wake-ups -/

section Wakeups

variable {s : State} {node : UInt16} {h : Handler}

theorem wakeupEvent_of_not_starts (hidle : ¬ Starts node h s) :
    wakeupEvent h.isBusy h.call node s = (s, false) := by
  unfold wakeupEvent
  split
  · rfl
  · rename_i e hfind
    split_ifs with hnode hbusy
    · rfl
    · have hfound : findElement node s ≠ none := by
        rw [hfind]
        exact Option.some_ne_none e
      exact absurd ⟨Bool.eq_false_iff.mpr hbusy, hfound, hnode⟩ hidle
    · rfl

theorem wakeupEvent_of_starts (hstarts : Starts node h s) : ∃ e, findElement node s = some e ∧
    wakeupEvent h.isBusy h.call node s =
      (removeElement e .ack { h.call (startElement e s) with currentExecutingNode := node },
        true) := by
  obtain ⟨hbusy, hfound, hnode⟩ := hstarts
  obtain ⟨e, hfind⟩ := Option.ne_none_iff_exists'.mp hfound
  refine ⟨e, hfind, ?_⟩
  unfold wakeupEvent
  rw [hfind]
  dsimp only
  rw [if_pos hnode, hbusy, if_neg Bool.false_ne_true]

/-- A handler that has the command in progress when it returns keeps the promises. -/
theorem Inv.wakeupEvent (hinv : Inv s) (hallowed : Starts node h s → h = .inProgress) :
    Inv (wakeupEvent h.isBusy h.call node s).1 := by
  by_cases hstarts : Starts node h s
  · obtain ⟨e, hfind, hresult⟩ := wakeupEvent_of_starts hstarts
    rw [hresult, hallowed hstarts]
    exact hinv.startRemove hfind
  · rw [wakeupEvent_of_not_starts hstarts]
    exact hinv

/-- While no command of the queue is executed and none is in progress, the handler leaves the queue
alone. -/
theorem call_of_idle (hnode : s.currentExecutingNode = 0) (hrunning : s.running = none) :
    h.call s = s := by
  have hsame : { s with running := none } = s := by rw [← hrunning]
  induction h with
  | busy => rfl
  | rejected => exact hsame
  | inProgress => rfl
  | done inner rest ihinner ihrest =>
    have hdone : nmDoneEvent inner.isBusy inner.call s = s := by
      unfold nmDoneEvent
      dsimp only
      rw [if_neg (not_not.mpr hnode)]
      exact hsame
    unfold Handler.call
    rw [hdone]
    exact ihrest

/-- The log only grows. -/
theorem suffix_wakeupEvent {busy : Bool} {call : State → State}
    (hcall : ∀ s, s.log <:+ (call s).log) : s.log <:+ (wakeupEvent busy call node s).1.log := by
  unfold NmQueue.wakeupEvent
  split
  · exact List.suffix_rfl
  · rename_i e hfind
    split_ifs
    · exact List.suffix_rfl
    · refine List.IsSuffix.trans ?_ (List.suffix_cons _ _)
      exact (List.suffix_cons _ _).trans (hcall (startElement e s))
    · exact List.suffix_rfl

theorem suffix_call (s : State) : s.log <:+ (h.call s).log := by
  induction h generalizing s with
  | busy => exact List.suffix_rfl
  | rejected => exact List.suffix_rfl
  | inProgress => exact List.suffix_rfl
  | done inner rest ihinner ihrest =>
    refine List.IsSuffix.trans ?_ (ihrest _)
    unfold nmDoneEvent
    dsimp only
    have hwakeup : s.log <:+
        (NmQueue.wakeupEvent inner.isBusy inner.call s.currentExecutingNode
          { s with running := none }).1.log :=
      suffix_wakeupEvent (s := { s with running := none }) ihinner
    split_ifs
    · split
      · rename_i after hafter
        rw [hafter] at hwakeup
        exact hwakeup
      · rename_i after hafter
        rw [hafter] at hwakeup
        exact hwakeup.trans (List.suffix_cons _ _)
    · exact List.suffix_rfl

/-- When network management is done, the next command of the node is started. -/
theorem nmDoneEvent_of_starts (hset : s.currentExecutingNode ≠ 0)
    (hstarts : Starts s.currentExecutingNode h s) : nmDoneEvent h.isBusy h.call s =
      (NmQueue.wakeupEvent h.isBusy h.call s.currentExecutingNode
        { s with running := none }).1 := by
  obtain ⟨e, -, hresult⟩ := wakeupEvent_of_starts (s := { s with running := none }) hstarts
  unfold nmDoneEvent
  dsimp only
  rw [if_pos hset, hresult]

/-- When there is none, or it cannot be started, the marker is cleared. -/
theorem nmDoneEvent_of_not_starts (hset : s.currentExecutingNode ≠ 0)
    (hidle : ¬ Starts s.currentExecutingNode h s) : nmDoneEvent h.isBusy h.call s =
      { s with running := none, currentExecutingNode := 0 }.record
        (.mailboxWakeup s.currentExecutingNode) := by
  have hresult := wakeupEvent_of_not_starts (s := { s with running := none }) hidle
  unfold nmDoneEvent
  dsimp only
  rw [if_pos hset, hresult]

theorem nmDoneEvent_of_clear (hclear : s.currentExecutingNode = 0) :
    nmDoneEvent h.isBusy h.call s = { s with running := none, currentExecutingNode := 0 } := by
  unfold nmDoneEvent
  dsimp only
  rw [if_neg (not_not.mpr hclear), ← hclear]

/-- Network management that is done while the handler works on an element starts it again. -/
theorem not_nodup_of_starts_again {e : Element} {inner : Handler}
    (hfind : findElement node s = some e) (hagain : Starts node inner (startFor node e s))
    {call : State → State} (hcall : ∀ s, s.log <:+ (call s).log) :
    ¬ (starts (call (NmQueue.wakeupEvent inner.isBusy inner.call node
      { startFor node e s with running := none }).1).log).Nodup := by
  obtain ⟨other, hother, hresult⟩ :=
    wakeupEvent_of_starts (s := { startFor node e s with running := none }) hagain
  have hsame : other = e := Option.some.inj (hother.symm.trans hfind)
  subst hsame
  intro hnodup
  have htwice : .started other.number other.destinationNode ::
      .started other.number other.destinationNode :: s.log <:+
        (inner.call (startElement other { startFor node other s with running := none })).log :=
    suffix_call (h := inner) (startElement other { startFor node other s with running := none })
  have hlog : .started other.number other.destinationNode ::
      .started other.number other.destinationNode :: s.log <:+
        (NmQueue.wakeupEvent inner.isBusy inner.call node
          { startFor node other s with running := none }).1.log := by
    rw [hresult]
    exact htwice.trans (List.suffix_cons _ _)
  have hstarts := hnodup.sublist ((hlog.trans (hcall _)).sublist.filterMap _)
  exact (List.nodup_cons.mp hstarts).1 List.mem_cons_self

/-- A command that is not in progress when the handler returns breaks a promise: it has been started
again, or the marker stays set. -/
theorem not_sound_wakeupEvent (hnodes : ∀ e ∈ s.nmOpQueue, e.destinationNode ≠ 0)
    (hstarts : Starts node h s)
    (hreturns : h ≠ .inProgress) : ¬ Sound (NmQueue.wakeupEvent h.isBusy h.call node s).1 := by
  obtain ⟨e, hfind, hresult⟩ := wakeupEvent_of_starts hstarts
  have hnode : node ≠ 0 := by
    obtain ⟨hmem, rfl⟩ := findElement_some hfind
    exact hnodes e hmem
  rw [hresult]
  intro hsound
  have hmarker : (h.call (startElement e s)).running ≠ none := hsound.marker hnode
  cases h with
  | busy => exact Bool.false_ne_true hstarts.1.symm
  | rejected => exact hmarker rfl
  | inProgress => exact hreturns rfl
  | done inner rest =>
    change (rest.call (nmDoneEvent inner.isBusy inner.call (startElement e s))).running ≠
      none at hmarker
    -- the marker before the call decides what happens when network management is done
    rcases hstarts.2.2 with hclear | rfl
    · rw [nmDoneEvent_of_clear (s := startElement e s) hclear, call_of_idle rfl rfl] at hmarker
      exact hmarker rfl
    · by_cases hagain : Starts s.currentExecutingNode inner (startElement e s)
      · have honce : (starts
            (rest.call (nmDoneEvent inner.isBusy inner.call (startElement e s))).log).Nodup :=
          hsound.started_once
        rw [nmDoneEvent_of_starts (s := startElement e s) hnode hagain] at honce
        exact not_nodup_of_starts_again hfind hagain (fun _ ↦ suffix_call (h := rest) _) honce
      · rw [nmDoneEvent_of_not_starts (s := startElement e s) hnode hagain,
          call_of_idle rfl rfl] at hmarker
        exact hmarker rfl

end Wakeups

/-! ### Runs -/

section Runs

variable {s : State}

theorem Inv.nmDoneEvent {h : Handler} (hinv : Inv s)
    (hallowed : s.currentExecutingNode ≠ 0 → Starts s.currentExecutingNode h s → h = .inProgress) :
    Inv (nmDoneEvent h.isBusy h.call s) := by
  by_cases hset : s.currentExecutingNode = 0
  · rw [nmDoneEvent_of_clear hset]
    exact hinv.idle
  · by_cases hstarts : Starts s.currentExecutingNode h s
    · obtain ⟨e, hfind, hresult⟩ := wakeupEvent_of_starts (s := { s with running := none }) hstarts
      rw [nmDoneEvent_of_starts hset hstarts, hresult, hallowed hset hstarts]
      exact hinv.startRemove hfind
    · rw [nmDoneEvent_of_not_starts hset hstarts]
      exact hinv.idle.note rfl

theorem Inv.awake (hinv : Inv s) (node : UInt16) : Inv (s.record (.awake node node)) where
  sound := by
    refine ⟨hinv.sound.started_once, hinv.sound.in_order, hinv.sound.one_final, ?_,
      hinv.sound.marker⟩
    intro checked woken hmem
    rcases List.mem_cons.mp hmem with hsame | hbefore
    · injection hsame with hchecked hwoken
      rw [hchecked, hwoken]
    · exact hinv.sound.awake_right checked woken hbefore
  queued := ⟨hinv.queued.sorted, hinv.queued.bounded, hinv.queued.nodes, hinv.queued.unstarted,
    hinv.queued.later, hinv.queued.started_lt⟩

theorem inv_step {input : Input} (hallowed : Allowed s input) (hinv : Inv s) :
    Inv (step s input) := by
  cases input with
  | command cmd mbActiveNode isMailbox taken =>
    exact hinv.queueIfTargetIsMailbox cmd mbActiveNode isMailbox taken
  | wakeup node h => exact hinv.wakeupEvent hallowed
  | awake k ok read h =>
    unfold step
    dsimp only
    split
    · exact hinv
    · rename_i checked hchecked
      have hleft := hinv.setChecks (s.checks.eraseIdx k)
      cases ok with
      | false => exact hleft
      | true =>
        obtain ⟨rfl, hreturns⟩ := hallowed rfl checked hchecked
        exact (hleft.awake checked).wakeupEvent hreturns
  | nmDone h => exact hinv.nmDoneEvent hallowed
  | nakWaiting k =>
    unfold step
    dsimp only
    split
    · exact hinv
    · rename_i e _
      exact hinv.note (show (Act.waiting e.number).isNote = true from rfl)
  | purgeNode node => exact hinv.purgeNode node
  | purgeAll => exact hinv.purgeAll

/-- A step that is not allowed breaks a promise. -/
theorem allowed_of_sound_step {input : Input} (hinv : Inv s) (hsound : Sound (step s input)) :
    Allowed s input := by
  cases input with
  | command cmd mbActiveNode isMailbox taken => trivial
  | wakeup node h =>
    intro hstarts
    by_contra hreturns
    exact not_sound_wakeupEvent hinv.queued.nodes hstarts hreturns hsound
  | awake k ok read h =>
    intro hok checked hchecked
    have hsame : s.checks[k]? = some checked := hchecked
    subst hok
    have hstep : step s (.awake k true read h) = (NmQueue.wakeupEvent h.isBusy h.call read
        (State.record { s with checks := s.checks.eraseIdx k } (.awake checked read))).1 := by
      unfold step
      dsimp only
      rw [hsame]
      rfl
    rw [hstep] at hsound
    refine ⟨hsound.awake_right checked read ?_, ?_⟩
    · exact (suffix_wakeupEvent fun s ↦ suffix_call s).subset List.mem_cons_self
    · intro hstarts
      by_contra hreturns
      refine not_sound_wakeupEvent ?_ ?_ hreturns hsound
      · exact hinv.queued.nodes
      · exact hstarts
  | nmDone h =>
    intro hset hstarts
    by_contra hreturns
    refine not_sound_wakeupEvent hinv.queued.nodes
      (s := { s with running := none }) hstarts hreturns ?_
    rw [← nmDoneEvent_of_starts hset hstarts]
    exact hsound
  | nakWaiting k => trivial
  | purgeNode node => trivial
  | purgeAll => trivial

theorem inv_powerUp : Inv .powerUp where
  sound := ⟨List.nodup_nil, fun _ ↦ List.Pairwise.nil, fun _ ↦ rfl,
    fun _ _ hmem ↦ absurd hmem List.not_mem_nil, fun hset ↦ absurd rfl hset⟩
  queued := ⟨List.Pairwise.nil, fun _ hmem ↦ absurd hmem List.not_mem_nil,
    fun _ hmem ↦ absurd hmem List.not_mem_nil, fun _ hmem ↦ absurd hmem List.not_mem_nil,
    fun _ hmem ↦ absurd hmem List.not_mem_nil, fun _ hmem ↦ absurd hmem List.not_mem_nil⟩

/-- The queue keeps its promises on the whole way of a run exactly when every awake check that
succeeds reads the node it was made for, and every command that is started is in progress when the
handler returns. -/
theorem sound_run_iff (inputs : List Input) :
    (∀ way, way <+: inputs → Sound (run step .powerUp way)) ↔
      AllSteps step Allowed .powerUp inputs :=
  have hkeep : ∀ s input, Allowed s input → Inv s → Inv (step s input) := fun _ _ ↦ inv_step
  forall_prefix_run_iff_allSteps_of_invariant hkeep (fun _ hinv ↦ hinv.sound)
    (fun _ _ ↦ allowed_of_sound_step) inv_powerUp inputs

/-- A Return Route Delete for node 9, which sleeps. -/
def sleepingNodeCommand : List UInt8 := [0x34, 0x0F, 1, 9]

/-- `ZW_DeleteReturnRoute` is refused, so network management is done before the handler returns: the
marker stays set, and node 9 blocks the others. -/
theorem finished_node_blocks : ¬ ∀ (inputs way : List Input), way <+: inputs →
    Sound (run step .powerUp way) := by
  intro hall
  have hsound := hall _ _ (List.prefix_refl
    [.command sleepingNodeCommand 0 true true, .wakeup 9 (.done .busy .inProgress)])
  have hset : (run step .powerUp
      [.command sleepingNodeCommand 0 true true,
        .wakeup 9 (.done .busy .inProgress)]).currentExecutingNode =
        9 := by decide +kernel
  have hrunning : (run step .powerUp
      [.command sleepingNodeCommand 0 true true, .wakeup 9 (.done .busy .inProgress)]).running =
        none := by
    decide +kernel
  exact hsound.marker (by rw [hset]; decide) hrunning

end Runs

end ZipGateway.NmQueue
