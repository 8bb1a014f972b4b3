import ZipGateway.Lib.Run
import ZipGateway.Nodemask

/-!
# The announcement of the SUC

When the gateway has become SUC, `send_suc_id` of `src/src/ResourceDirectory.c` goes over all nodes.
It sends to one of them and returns; the callback of that takes it to the next one. Where it is, it
keeps in a variable that outlives the announcement. Here announcements start at any time, also while
others wait, and the callbacks arrive in any order, each one once. What a callback says about the
transmission makes no difference. The timer of one second is set for a callback that is missing and
makes the same call, so its expiry counts as the callback; that the late one comes after it is left
out. `announcements_iff` says when every announcement informs all nodes.
-/

set_option autoImplicit false

namespace ZipGateway.ResourceDirectory.SucAnnouncement

open List ZipGateway.Lib

/-! ### The function -/

/-- What is known about the nodes of the network: `MyNodeID`, which nodes have an entry in `ndb`,
the bits of `virtual_nodes_mask`, and which nodes are controllers. -/
structure Network where
  myNodeId : ℕ
  ndb : ℕ → Bool
  virtualNodesMask : ℕ → Bool
  isNodeController : ℕ → Bool

/-- `rd_node_get_raw` is not `NULL`. -/
def rdNodeGetRaw (net : Network) (nodeid : ℕ) : Bool :=
  decide (1 ≤ nodeid ∧ nodeid ≤ zwMaxNodes) && net.ndb nodeid

/-- `is_virtual_node`. -/
def isVirtualNode (net : Network) (nid : ℕ) : Bool :=
  decide (Nodemask.IsClassicNode nid) && net.virtualNodesMask (nid - 1) ||
    decide (nid ≤ 4005 ∧ 4002 ≤ nid)

/-- The nodes that one announcement has sent to, and whether it waits for a callback. When it does
not, it has posted `ZIP_EVENT_ALL_NODES_PROBED`. -/
structure Announcement where
  informed : List ℕ
  waiting : Bool

/-- `send_suc_id`: the turns of the loop that are left, `current_send_suc_id_dest`, and the nodes
that the announcement has sent to. `sent` is the result of `ZW_SendSUCID`; when that is false, the
callback is called at once.
-/
def sendSucId (net : Network) (sent : ℕ → Bool) : ℕ → ℕ → List ℕ → ℕ × Announcement
  | 0, dest, informed => (dest, ⟨informed, false⟩)
  | left + 1, dest, informed =>
    let dest := dest + 1
    if dest = net.myNodeId then sendSucId net sent left dest informed
    else if !rdNodeGetRaw net dest then sendSucId net sent left dest informed
    else if isVirtualNode net dest then sendSucId net sent left dest informed
    else if net.isNodeController dest && !sent dest then sendSucId net sent left dest
      (informed ++ [dest])
    else (dest, ⟨informed ++ [dest], true⟩)

/-- `current_send_suc_id_dest`, all announcements so far, and how many callbacks have arrived. -/
structure State where
  dest : ℕ
  announcements : List Announcement
  callbacks : ℕ

def start : State := ⟨0, [], 0⟩

/-- The gateway has become SUC, and the nodes are probed; or the callback arrives for which an
announcement waits. -/
inductive Event
  | change (sent : ℕ → Bool)
  | callback (announcement : ℕ) (sent : ℕ → Bool)

def step (net : Network) (s : State) : Event → State
  | .change sent =>
    let (dest, new) := sendSucId net sent (zwMaxNodes - s.dest) s.dest []
    { s with dest, announcements := s.announcements ++ [new] }
  | .callback i sent =>
    match s.announcements[i]? with
    | none => s
    | some old =>
      if old.waiting then
        let (dest, new) := sendSucId net sent (zwMaxNodes - s.dest) s.dest old.informed
        { dest, announcements := s.announcements.set i new, callbacks := s.callbacks + 1 }
      else s

/-! ### What it is for -/

/-- A node other than the gateway that is not virtual. -/
def toInform (net : Network) (nodeid : ℕ) : Bool :=
  nodeid ≠ net.myNodeId && rdNodeGetRaw net nodeid && !isVirtualNode net nodeid

/-- No node is informed twice, only those that should be are, and what is missing is still ahead of
an announcement that waits. When it waits no more, nothing is missing. -/
structure Right (net : Network) (s : State) (a : Announcement) : Prop where
  once : a.informed.Nodup
  only : ∀ n ∈ a.informed, toInform net n = true
  all : ∀ n, toInform net n = true → n ∈ a.informed ∨ a.waiting = true ∧ s.dest < n

/-- How often the gateway becomes SUC. -/
def changes (events : List Event) : ℕ :=
  events.countP fun
    | .change _ => true
    | .callback _ _ => false

/-! ### One call -/

section OneCall

variable {net : Network} {sent : ℕ → Bool}

theorem toInform_le {n : ℕ} (hn : toInform net n = true) : 0 < n ∧ n ≤ zwMaxNodes := by
  unfold toInform rdNodeGetRaw at hn
  simp only [Bool.and_eq_true, decide_eq_true_eq] at hn
  exact hn.1.2.1

/-- What one call does: it goes on in the list of nodes, and sends to all that it passes and that
should be informed. It comes to the end of the list, or waits at such a node. -/
structure Walked (net : Network) (left dest : ℕ) (informed : List ℕ) (result : ℕ × Announcement) :
    Prop where
  new : ∃ new, result.2.informed = informed ++ new ∧ new.Pairwise (· < ·) ∧
    ∀ n, n ∈ new ↔ dest < n ∧ n ≤ result.1 ∧ toInform net n = true
  le : dest ≤ result.1
  bound : result.1 ≤ dest + left
  ended : result.2.waiting = false → result.1 = dest + left
  waits : result.2.waiting = true → dest < result.1 ∧ toInform net result.1 = true

/-- A node is passed that is not to be informed. -/
theorem Walked.skip {left dest : ℕ} {informed : List ℕ} {result : ℕ × Announcement}
    (h : Walked net left (dest + 1) informed result) (hskip : toInform net (dest + 1) = false) :
    Walked net (left + 1) dest informed result := by
  obtain ⟨new, hinformed, hsorted, hmem⟩ := h.new
  have hbound := h.bound
  have hle := h.le
  refine ⟨⟨new, hinformed, hsorted, fun n ↦ (hmem n).trans ?_⟩, by omega, by omega,
    fun hended ↦ by rw [h.ended hended]; omega,
    fun hwaits ↦ ⟨by have := h.waits hwaits; omega, (h.waits hwaits).2⟩⟩
  refine and_congr_left fun hn ↦ ⟨fun hlt ↦ by omega, fun hlt ↦ ?_⟩
  have hne : n ≠ dest + 1 := by
    rintro rfl
    rw [hskip] at hn
    cases hn.2
  omega

/-- A node is informed, and the loop goes on. -/
theorem Walked.inform {left dest : ℕ} {informed : List ℕ} {result : ℕ × Announcement}
    (h : Walked net left (dest + 1) (informed ++ [dest + 1]) result)
    (hto : toInform net (dest + 1) = true) : Walked net (left + 1) dest informed result := by
  obtain ⟨new, hinformed, hsorted, hmem⟩ := h.new
  have hbound := h.bound
  have hle := h.le
  refine ⟨⟨(dest + 1) :: new, ?_, ?_,
    fun n ↦ ?_⟩, by omega, by omega, fun hended ↦ by rw [h.ended hended]; omega,
    fun hwaits ↦ ⟨by have := h.waits hwaits; omega, (h.waits hwaits).2⟩⟩
  · rw [hinformed, append_assoc]
    rfl
  · exact pairwise_cons.mpr ⟨fun n hn ↦ ((hmem n).mp hn).1, hsorted⟩
  · rw [mem_cons, hmem]
    constructor
    · rintro (rfl | ⟨hlt, hrest⟩)
      · exact ⟨Nat.lt_succ_self _, hle, hto⟩
      · exact ⟨by omega, hrest⟩
    · rintro ⟨hlt, hrest⟩
      by_cases heq : n = dest + 1
      · exact Or.inl heq
      · exact Or.inr ⟨by omega, hrest⟩

theorem walked_sendSucId (left dest : ℕ) (informed : List ℕ) :
    Walked net left dest informed (sendSucId net sent left dest informed) := by
  induction left generalizing dest informed with
  | zero =>
    refine ⟨⟨[], (append_nil _).symm, List.Pairwise.nil, fun n ↦ ?_⟩, le_rfl, le_rfl,
      fun _ ↦ rfl, nofun⟩
    refine iff_of_false not_mem_nil ?_
    rintro ⟨hlt, hle, -⟩
    exact absurd hle (Nat.not_le.mpr hlt)
  | succ left ih =>
    unfold sendSucId
    have hto : toInform net (dest + 1) =
        (decide (dest + 1 ≠ net.myNodeId) && rdNodeGetRaw net (dest + 1) &&
          !isVirtualNode net (dest + 1)) := rfl
    simp only
    split_ifs with hmy hnone hvirtual hfailed
    · refine (ih _ _).skip ?_
      rw [hto, hmy]
      simp
    · have hraw : rdNodeGetRaw net (dest + 1) = false := by simpa using hnone
      refine (ih _ _).skip ?_
      rw [hto, hraw]
      simp
    · refine (ih _ _).skip ?_
      rw [hto, hvirtual]
      simp
    · refine (ih _ _).inform ?_
      simp_all
    · have hinform : toInform net (dest + 1) = true := by simp_all
      refine ⟨⟨[dest + 1], rfl, pairwise_singleton _ _, fun n ↦ ?_⟩, Nat.le_succ _, by omega, nofun,
        fun _ ↦ ⟨Nat.lt_succ_self _, hinform⟩⟩
      rw [mem_singleton]
      constructor
      · rintro rfl
        exact ⟨Nat.lt_succ_self _, le_rfl, hinform⟩
      · rintro ⟨hlt, hle, -⟩
        exact Nat.le_antisymm hle hlt

end OneCall

/-! ### One announcement -/

section Invariants

variable {net : Network} {s : State}

/-- Every step is a call that goes on from where the variable is, for a new announcement or for one
that waits, or it does nothing. -/
theorem step_cases (s : State) (e : Event) : step net s e = s ∧ changes [e] = 0 ∨
    (∃ result, Walked net (zwMaxNodes - s.dest) s.dest [] result ∧ changes [e] = 1 ∧
      step net s e = ⟨result.1, s.announcements ++ [result.2], s.callbacks⟩) ∨
    ∃ i old result, s.announcements[i]? = some old ∧ old.waiting = true ∧ changes [e] = 0 ∧
      Walked net (zwMaxNodes - s.dest) s.dest old.informed result ∧
      step net s e = ⟨result.1, s.announcements.set i result.2, s.callbacks + 1⟩ := by
  cases e with
  | change sent => exact Or.inr (Or.inl ⟨_, walked_sendSucId _ _ _, rfl, rfl⟩)
  | callback i sent =>
    cases hold : s.announcements[i]? with
    | none =>
      refine Or.inl ⟨?_, rfl⟩
      unfold step
      simp only [hold]
    | some old =>
      by_cases hwaiting : old.waiting = true
      · refine Or.inr (Or.inr
          ⟨i, old, sendSucId net sent (zwMaxNodes - s.dest) s.dest old.informed, hold, hwaiting,
          rfl, walked_sendSucId _ _ _, ?_⟩)
        unfold step
        simp only [hold, hwaiting, if_true]
      · refine Or.inl ⟨?_, rfl⟩
        unfold step
        simp only [hold, hwaiting]
        rfl

theorem changes_cons (e : Event) (rest : List Event) :
    changes (e :: rest) = changes [e] + changes rest := by
  unfold changes
  rw [← countP_append]
  rfl

/-- There is an announcement for each change. -/
theorem length_announcements (s : State) (events : List Event) :
    (run (step net) s events).announcements.length = s.announcements.length + changes events := by
  induction events generalizing s with
  | nil => rfl
  | cons e rest ih =>
    rw [run_cons, ih, changes_cons, ← Nat.add_assoc]
    congr 1
    rcases step_cases s e with ⟨hstep, hzero⟩ | ⟨result, -, hone, hstep⟩ | ⟨i, old, result, -, -,
      hzero, -, hstep⟩
    · rw [hstep, hzero, Nat.add_zero]
    · rw [hstep, hone, length_append, length_singleton]
    · rw [hstep, hzero, length_set, Nat.add_zero]

/-- As long as there is one announcement only, it has informed all nodes up to the variable. -/
def Single (net : Network) (s : State) : Prop :=
  s.dest ≤ zwMaxNodes ∧ (s.announcements = [] → s.dest = 0) ∧ ∀ a, s.announcements = [a] →
    a.informed.Pairwise (· < ·) ∧ (∀ n, n ∈ a.informed ↔ n ≤ s.dest ∧ toInform net n = true) ∧
      (a.waiting = false → s.dest = zwMaxNodes)

theorem single_step (s : State) (e : Event) (hsingle : Single net s) :
    Single net (step net s e) := by
  obtain ⟨hinside, hnone, hone⟩ := hsingle
  rcases step_cases s e with ⟨hstep, -⟩ | ⟨result, hwalked, -, hstep⟩ | ⟨i, old, result, hold, -, -,
    hwalked, hstep⟩
  · rw [hstep]
    exact ⟨hinside, hnone, hone⟩
  · obtain ⟨new, hinformed, hsorted, hmem⟩ := hwalked.new
    have hbound := hwalked.bound
    rw [hstep]
    refine ⟨hbound.trans (by omega), fun h ↦ by simp at h, fun a ha ↦ ?_⟩
    -- a first announcement starts at zero
    obtain ⟨hnil, rfl⟩ : s.announcements = [] ∧ result.2 = a := by
      have hlength := congrArg List.length ha
      rw [length_append, length_singleton, length_singleton] at hlength
      have hnil := length_eq_zero_iff.mp (Nat.succ.inj hlength)
      rw [hnil] at ha
      exact ⟨hnil, (List.cons.inj ha).1⟩
    have hzero := hnone hnil
    rw [nil_append] at hinformed
    rw [hinformed]
    refine ⟨hsorted, fun n ↦ (hmem n).trans ?_, fun hended ↦ ?_⟩
    · rw [hzero]
      exact ⟨fun h ↦ h.2, fun h ↦ ⟨(toInform_le h.2).1, h⟩⟩
    · have hend := hwalked.ended hended
      show result.1 = zwMaxNodes
      omega
  · obtain ⟨new, hinformed, hsorted, hmem⟩ := hwalked.new
    have hbound := hwalked.bound
    have hle := hwalked.le
    rw [hstep]
    refine ⟨hbound.trans (by omega), fun h ↦ ?_, fun a ha ↦ ?_⟩
    · have hnil : s.announcements = [] := by
        have hlength := congrArg List.length h
        rw [length_set] at hlength
        exact length_eq_zero_iff.mp hlength
      rw [hnil] at hold
      cases hold
    · -- the only announcement goes on
      obtain ⟨b, hb⟩ : ∃ b, s.announcements = [b] := by
        have hlength := congrArg List.length ha
        rw [length_set] at hlength
        exact length_eq_one_iff.mp hlength
      obtain ⟨hbefore, hmembefore, -⟩ := hone b hb
      rw [hb] at hold
      obtain ⟨rfl, rfl⟩ : i = 0 ∧ b = old := by
        cases i with
        | zero => exact ⟨rfl, Option.some.inj hold⟩
        | succ i => cases hold
      have heq : [result.2] = [a] := by
        rw [hb] at ha
        exact ha
      obtain rfl := (List.cons.inj heq).1
      refine ⟨?_, fun n ↦ ?_, fun hended ↦ ?_⟩
      · rw [hinformed]
        refine pairwise_append.mpr ⟨hbefore, hsorted, fun m hm n hn ↦ ?_⟩
        exact ((hmembefore m).mp hm).1.trans_lt ((hmem n).mp hn).1
      · rw [hinformed, mem_append, hmembefore, hmem]
        show _ ↔ n ≤ result.1 ∧ _
        constructor
        · rintro (⟨hn, hto⟩ | ⟨-, hn, hto⟩)
          · exact ⟨hn.trans hle, hto⟩
          · exact ⟨hn, hto⟩
        · rintro ⟨hn, hto⟩
          by_cases hbehind : n ≤ s.dest
          · exact Or.inl ⟨hbehind, hto⟩
          · exact Or.inr ⟨by omega, hn, hto⟩
      · have hend := hwalked.ended hended
        show result.1 = zwMaxNodes
        omega

/-- The first node that should be informed is passed by the first announcement, and no later one
sends to it. -/
def Late (first : ℕ) (s : State) : Prop :=
  (s.announcements = [] → s.dest = 0) ∧ (s.announcements ≠ [] → first ≤ s.dest) ∧
    ∀ i a, s.announcements[i]? = some a → 0 < i → first ∉ a.informed

theorem late_step {first : ℕ} (hfirst : toInform net first = true)
    (hleast : ∀ n, toInform net n = true → first ≤ n) (s : State) (e : Event)
    (hlate : Late first s) : Late first (step net s e) := by
  obtain ⟨hnone, hpassed, hlater⟩ := hlate
  have hmax := (toInform_le hfirst).2
  rcases step_cases s e with ⟨hstep, -⟩ | ⟨result, hwalked, -, hstep⟩ | ⟨i, old, result, hold, -, -,
    hwalked, hstep⟩
  · rw [hstep]
    exact ⟨hnone, hpassed, hlater⟩
  · obtain ⟨new, hinformed, -, hmem⟩ := hwalked.new
    have hle := hwalked.le
    rw [hstep]
    refine ⟨fun h ↦ by simp at h, fun _ ↦ ?_, fun j a ha hj ↦ ?_⟩
    · show first ≤ result.1
      by_cases hnil : s.announcements = []
      · cases hwaiting : result.2.waiting with
        | true => exact hleast _ (hwalked.waits hwaiting).2
        | false =>
          have hend := hwalked.ended hwaiting
          omega
      · exact (hpassed hnil).trans hle
    · by_cases hbefore : j < s.announcements.length
      · exact hlater j a ((List.getElem?_append_left hbefore).symm.trans ha) hj
      · -- the new announcement is not the first one, and starts behind the node
        have hlast : [result.2][j - s.announcements.length]? = some a :=
          (List.getElem?_append_right (Nat.le_of_not_lt hbefore)).symm.trans ha
        obtain ⟨hlt, -⟩ := List.getElem?_eq_some_iff.mp hlast
        rw [length_singleton] at hlt
        have hnonempty : s.announcements ≠ [] := ne_nil_of_length_pos (by omega)
        rw [mem_singleton.mp (mem_of_getElem? hlast), hinformed, nil_append, hmem]
        exact fun h ↦ absurd h.1 (Nat.not_lt.mpr (hpassed hnonempty))
  · obtain ⟨new, hinformed, -, hmem⟩ := hwalked.new
    have hnonempty : s.announcements ≠ [] := by
      intro hnil
      rw [hnil] at hold
      cases hold
    rw [hstep]
    refine ⟨fun h ↦ ?_, fun _ ↦ (hpassed hnonempty).trans hwalked.le, fun j a ha hj ↦ ?_⟩
    · have hlength := congrArg List.length h
      rw [length_set] at hlength
      exact absurd (length_eq_zero_iff.mp hlength) hnonempty
    · by_cases heq : i = j
      · subst heq
        obtain ⟨hlt, -⟩ := List.getElem?_eq_some_iff.mp hold
        have ha' : some result.2 = some a := (List.getElem?_set_self hlt).symm.trans ha
        rw [← Option.some.inj ha', hinformed, mem_append, not_or]
        refine ⟨hlater i old hold hj, fun hnew ↦ ?_⟩
        exact absurd ((hmem first).mp hnew).1 (Nat.not_lt.mpr (hpassed hnonempty))
      · exact hlater j a ((List.getElem?_set_ne heq).symm.trans ha) hj

/-- How many steps there can still be that a callback takes. -/
def ahead (s : State) : ℕ := zwMaxNodes - s.dest + s.announcements.countP Announcement.waiting

/-- Every callback that arrives brings the end closer. -/
def Ending (s : State) : Prop :=
  s.dest ≤ zwMaxNodes ∧ s.callbacks + ahead s ≤ zwMaxNodes + s.announcements.length

theorem ending_step (s : State) (e : Event) (hending : Ending s) : Ending (step net s e) := by
  obtain ⟨hinside, hends⟩ := hending
  unfold ahead at hends
  rcases step_cases s e with ⟨hstep, -⟩ | ⟨result, hwalked, -, hstep⟩ |
    ⟨i, old, result, hold, hwaiting, -, hwalked, hstep⟩
  · rw [hstep]
    exact ⟨hinside, hends⟩
  · have hle := hwalked.le
    have hbound := hwalked.bound
    have hone := countP_le_length (p := Announcement.waiting) (l := [result.2])
    rw [length_singleton] at hone
    rw [hstep]
    refine ⟨hbound.trans (by omega), ?_⟩
    show s.callbacks +
      (zwMaxNodes - result.1 + (s.announcements ++ [result.2]).countP Announcement.waiting) ≤
      zwMaxNodes + (s.announcements ++ [result.2]).length
    rw [countP_append, length_append, length_singleton]
    omega
  · have hle := hwalked.le
    have hbound := hwalked.bound
    obtain ⟨hlt, hget⟩ := List.getElem?_eq_some_iff.mp hold
    have hpos : 0 < s.announcements.countP Announcement.waiting :=
      countP_pos_iff.mpr ⟨old, mem_of_getElem? hold, hwaiting⟩
    rw [hstep]
    refine ⟨hbound.trans (by omega), ?_⟩
    show s.callbacks + 1 +
      (zwMaxNodes - result.1 + (s.announcements.set i result.2).countP Announcement.waiting) ≤
      zwMaxNodes + (s.announcements.set i result.2).length
    rw [countP_set hlt, hget, hwaiting, length_set, if_pos rfl]
    cases hagain : result.2.waiting with
    | true =>
      have hfurther := (hwalked.waits hagain).1
      rw [if_pos rfl]
      omega
    | false =>
      rw [if_neg Bool.false_ne_true]
      omega

/-- What is sent to should be informed. -/
def Only (net : Network) (s : State) : Prop :=
  ∀ a ∈ s.announcements, ∀ n ∈ a.informed, toInform net n = true

theorem only_step (s : State) (e : Event) (honly : Only net s) : Only net (step net s e) := by
  rcases step_cases s e with ⟨hstep, -⟩ | ⟨result, hwalked, -, hstep⟩ | ⟨i, old, result, hold, -, -,
    hwalked, hstep⟩
  · rwa [hstep]
  · obtain ⟨new, hinformed, -, hmem⟩ := hwalked.new
    rw [hstep]
    intro a ha n hn
    rcases mem_append.mp ha with hbefore | hlast
    · exact honly a hbefore n hn
    · rw [mem_singleton.mp hlast, hinformed, nil_append] at hn
      exact ((hmem n).mp hn).2.2
  · obtain ⟨new, hinformed, -, hmem⟩ := hwalked.new
    rw [hstep]
    intro a ha n hn
    rcases mem_or_eq_of_mem_set ha with hbefore | rfl
    · exact honly a hbefore n hn
    · rw [hinformed] at hn
      rcases mem_append.mp hn with hinold | hinnew
      · exact honly old (mem_of_getElem? hold) n hinold
      · exact ((hmem n).mp hinnew).2.2

end Invariants

/-! ### All announcements -/

section All

variable {net : Network} {events : List Event}

theorem only_run (net : Network) (events : List Event) : Only net (run (step net) start events) :=
  run_invariant only_step (fun _ ha ↦ absurd ha not_mem_nil) events

theorem right_of_none (hnone : ∀ n, toInform net n = false) :
    ∀ a ∈ (run (step net) start events).announcements, Right net
      (run (step net) start events) a := by
  intro a ha
  have honly := only_run net events a ha
  have hempty : a.informed = [] := eq_nil_iff_forall_not_mem.mpr fun n hn ↦ by
    have hto := honly n hn
    rw [hnone n] at hto
    cases hto
  refine ⟨?_, honly, fun n hn ↦ ?_⟩
  · rw [hempty]
    exact nodup_nil
  · rw [hnone n] at hn
    cases hn

theorem right_of_changes (hchanges : changes events ≤ 1) :
    ∀ a ∈ (run (step net) start events).announcements, Right net
      (run (step net) start events) a := by
  intro a ha
  have hsingle : Single net (run (step net) start events) :=
    run_invariant single_step ⟨Nat.zero_le _, fun _ ↦ rfl, fun _ h ↦ by cases h⟩ events
  have hlength : (run (step net) start events).announcements.length = 0 + changes events :=
    length_announcements start events
  have hpos := length_pos_of_mem ha
  obtain ⟨b, hb⟩ := length_eq_one_iff.mp
    (show (run (step net) start events).announcements.length = 1 by omega)
  rw [hb] at ha
  obtain rfl := mem_singleton.mp ha
  obtain ⟨hsorted, hmem, hended⟩ := hsingle.2.2 a hb
  refine ⟨hsorted.imp fun hlt ↦ hlt.ne, fun n hn ↦ ((hmem n).mp hn).2, fun n hn ↦ ?_⟩
  by_cases hbehind : n ≤ (run (step net) start events).dest
  · exact Or.inl ((hmem n).mpr ⟨hbehind, hn⟩)
  · refine Or.inr ⟨Bool.of_not_eq_false fun hfalse ↦ ?_, Nat.lt_of_not_le hbehind⟩
    rw [hended hfalse] at hbehind
    exact hbehind (toInform_le hn).2

/-- With two changes and a node that should be informed, the second announcement misses the first
such node. -/
theorem not_right_of_changes (hchanges : 2 ≤ changes events) {n : ℕ} (hn : toInform net n = true) :
    ∃ a ∈ (run (step net) start events).announcements, ¬ Right net
      (run (step net) start events) a := by
  have hexists : ∃ n, toInform net n = true := ⟨n, hn⟩
  have hlate : Late (Nat.find hexists) (run (step net) start events) :=
    run_invariant (late_step (Nat.find_spec hexists) fun _ hto ↦ Nat.find_min' hexists hto)
      ⟨fun _ ↦ rfl, fun h ↦ absurd rfl h, fun _ _ h ↦ by cases h⟩ events
  have hlength : (run (step net) start events).announcements.length = 0 + changes events :=
    length_announcements start events
  have hsecond : 1 < (run (step net) start events).announcements.length := by omega
  have hget := List.getElem?_eq_getElem hsecond
  refine ⟨_, mem_of_getElem? hget, fun hright ↦ ?_⟩
  rcases hright.all _ (Nat.find_spec hexists) with hmem | ⟨-, hlt⟩
  · exact hlate.2.2 1 _ hget Nat.one_pos hmem
  · exact absurd hlt (Nat.not_lt.mpr (hlate.2.1 (ne_nil_of_length_pos (Nat.zero_lt_of_lt hsecond))))

/-- All announcements of a run are right just when there is one at most, or no node to inform. -/
theorem right_iff_changes (net : Network) (events : List Event) :
    (∀ a ∈ (run (step net) start events).announcements, Right net (run (step net) start events) a) ↔
      changes events ≤ 1 ∨ ∀ n, toInform net n = false := by
  constructor
  · intro hright
    by_contra hnot
    obtain ⟨hchanges, hsome⟩ := not_or.mp hnot
    obtain ⟨n, hn⟩ := not_forall.mp hsome
    obtain ⟨a, ha, hwrong⟩ :=
      not_right_of_changes (Nat.lt_of_not_le hchanges) (Bool.of_not_eq_false hn)
    exact hwrong (hright a ha)
  · rintro (hchanges | hnone)
    · exact right_of_changes hchanges
    · exact right_of_none hnone

end All

/-- Every announcement of a run informs each node once just when the gateway has become SUC at most
once, or when no node is to be informed. Every announcement ends: there are not more callbacks than
nodes and changes. -/
theorem announcements_iff (net : Network) (events : List Event) :
    ((∀ a ∈ (run (step net) start events).announcements,
      Right net (run (step net) start events) a) ↔
      changes events ≤ 1 ∨ ∀ n, toInform net n = false) ∧
      (run (step net) start events).callbacks ≤ zwMaxNodes + changes events := by
  refine ⟨right_iff_changes net events, ?_⟩
  have hending : Ending (run (step net) start events) :=
    run_invariant ending_step ⟨Nat.zero_le _, le_rfl⟩ events
  have hlength : (run (step net) start events).announcements.length = 0 + changes events :=
    length_announcements start events
  have hbound := hending.2
  rw [hlength, Nat.zero_add] at hbound
  exact (Nat.le_add_right _ _).trans hbound

/-- With the gateway as node 1 and one more node, the second announcement sends to nobody. -/
theorem announcements_fail : ¬ ∀ (net : Network) (events : List Event),
    ∀ a ∈ (run (step net) start events).announcements, Right net
      (run (step net) start events) a := by
  intro hright
  let net : Network := ⟨1, fun n ↦ n == 2, fun _ ↦ false, fun _ ↦ false⟩
  let events : List Event := [.change fun _ ↦ true, .callback 0 fun _ ↦ true, .change fun _ ↦ true]
  rcases (right_iff_changes net events).mp (hright net events) with hchanges | hnone
  · exact absurd hchanges (by decide)
  · exact absurd (hnone 2) (by decide)

end ZipGateway.ResourceDirectory.SucAnnouncement
