import ZipGateway.ResourceDirectory.Model

/-!
# The walk over the endpoints

`rd_ep_first` and `rd_ep_next` in `src/src/RD_internal.c` walk over the endpoints of one node, or of
all nodes when the node id is 0. At the end of a list the walk goes on with the head of the next
node's list. When that list is empty the walk is at its end. `walksRight_iff` says for which
databases it visits every endpoint.
-/

set_option autoImplicit false

namespace ZipGateway.ResourceDirectory

open List

/-- A pointer to an endpoint: the slot of its node (`ep->node`) and its place in the list of that
node. -/
structure EpPlace where
  slot : Fin zwMaxNodes
  index : ℕ
deriving DecidableEq, Repr

/-- `list_head(ndb[slot]->endpoints)`. -/
def listHead (slot : Fin zwMaxNodes) (n : NodeEntry) : Option EpPlace :=
  if n.endpoints.isEmpty then none else some ⟨slot, 0⟩

/-- `list_item_next`. -/
def listItemNext (ndb : Ndb) (ep : EpPlace) : Option EpPlace :=
  match ndb ep.slot with
  | none => none
  | some n => if ep.index + 1 < n.endpoints.length then some ⟨ep.slot, ep.index + 1⟩ else none

/-- The loop in both functions: the head of the first node's list from slot `i` on. -/
def headFrom (ndb : Ndb) (i : ℕ) : Option EpPlace :=
  if h : i < zwMaxNodes then
    match ndb ⟨i, h⟩ with
    | some n => listHead ⟨i, h⟩ n
    | none => headFrom ndb (i + 1)
  else none
termination_by zwMaxNodes - i

/-- `rd_ep_first`. -/
def rdEpFirst (node : UInt16) (ndb : Ndb) : Option EpPlace :=
  if zwMaxNodes < node.toNat ∨
    (zwClassicMaxNodes < node.toNat ∧ node.toNat < zwLrMinNodeId) then none
  else if node = 0 then headFrom ndb 0
  else
    match slotOf node with
    | none => none
    | some slot =>
      match ndb slot with
      | some n => listHead slot n
      | none => none

/-- `rd_ep_next`. The node id of a node's entry is the number of its slot, counted from 1. -/
def rdEpNext (node : UInt16) (ndb : Ndb) (ep : EpPlace) : Option EpPlace :=
  match listItemNext ndb ep with
  | some next => some next
  | none => if node = 0 then headFrom ndb (ep.slot.val + 1) else none

/-- The walk from a pointer until `NULL` visits these endpoints, in this order. -/
inductive Visits (node : UInt16) (ndb : Ndb) : Option EpPlace → List EpPlace → Prop where
  | done : Visits node ndb none []
  | step (ep : EpPlace) {eps : List EpPlace} :
      Visits node ndb (rdEpNext node ndb ep) eps → Visits node ndb (some ep) (ep :: eps)

/-! ### What is to be visited -/

/-- The endpoints of the node in a slot. -/
def endpointsAt (ndb : Ndb) (slot : Fin zwMaxNodes) : List EpPlace :=
  match ndb slot with
  | none => []
  | some n => (List.range n.endpoints.length).map (EpPlace.mk slot)

/-- The endpoints of all nodes, in node order. -/
def allEndpoints (ndb : Ndb) : List EpPlace := (List.finRange zwMaxNodes).flatMap (endpointsAt ndb)

/-- The endpoints of the node with this id. -/
def endpointsOf (ndb : Ndb) (node : UInt16) :
    List EpPlace := (slotOf node).elim [] (endpointsAt ndb)

/-- What the two functions are for. -/
structure WalksRight (ndb : Ndb) : Prop where
  all : Visits 0 ndb (rdEpFirst 0 ndb) (allEndpoints ndb)
  one : ∀ node, node ≠ 0 → Visits node ndb (rdEpFirst node ndb) (endpointsOf ndb node)

/-- A node that has a list, and nothing in it. -/
def Childless (ndb : Ndb) (slot : Fin zwMaxNodes) : Prop :=
  ∃ n, ndb slot = some n ∧ n.endpoints = []

/-- No node without endpoints stands before a node that has some, and there are no endpoints under a
number between the classic node ids and those of Long Range. -/
structure Unbroken (ndb : Ndb) : Prop where
  order : ∀ s t : Fin zwMaxNodes, s < t → Childless ndb s → endpointsAt ndb t = []
  gap : ∀ s : Fin zwMaxNodes, zwClassicMaxNodes ≤ s.val → s.val + 1 < zwLrMinNodeId →
    endpointsAt ndb s = []

theorem Visits.unique {node : UInt16} {ndb : Ndb} {start : Option EpPlace} {eps eps' : List EpPlace}
    (h : Visits node ndb start eps) (h' : Visits node ndb start eps') : eps = eps' := by
  induction h generalizing eps' with
  | done => cases h'; rfl
  | step ep _ ih =>
    cases h' with
    | step _ h' => rw [ih h']

theorem slot_of_mem {ndb : Ndb} {s : Fin zwMaxNodes} {ep : EpPlace} (h : ep ∈ endpointsAt ndb s) :
    ep.slot = s := by
  unfold endpointsAt at h
  split at h
  · simp at h
  · obtain ⟨i, -, rfl⟩ := mem_map.mp h
    rfl

/-! ### The list of one node -/

section List

variable {node : UInt16} {ndb : Ndb} {slot : Fin zwMaxNodes} {n : NodeEntry}

/-- Where the walk goes behind the list of a slot. -/
def behind (node : UInt16) (ndb : Ndb) (slot : Fin zwMaxNodes) : Option EpPlace :=
  if node = 0 then headFrom ndb (slot.val + 1) else none

theorem rdEpNext_inside {i : ℕ} (hn : ndb slot = some n) (hi : i + 1 < n.endpoints.length) :
    rdEpNext node ndb ⟨slot, i⟩ = some ⟨slot, i + 1⟩ := by
  simp [rdEpNext, listItemNext, hn, hi]

theorem rdEpNext_last {i : ℕ} (hn : ndb slot = some n) (hi : i + 1 = n.endpoints.length) :
    rdEpNext node ndb ⟨slot, i⟩ = behind node ndb slot := by
  simp [rdEpNext, listItemNext, hn, hi, behind]

/-- The walk from a place in a list goes through the rest of the list, and on behind it. -/
theorem visits_from {rest : List EpPlace} (hn : ndb slot = some n)
    (hrest : Visits node ndb (behind node ndb slot) rest) (k : ℕ) :
    ∀ i, i + (k + 1) = n.endpoints.length →
      Visits node ndb (some ⟨slot, i⟩) ((List.range' i (k + 1)).map (EpPlace.mk slot) ++ rest) := by
  induction k with
  | zero =>
    intro i hi
    refine .step _ ?_
    rw [rdEpNext_last hn hi]
    exact hrest
  | succ k ih =>
    intro i hi
    refine .step _ ?_
    rw [rdEpNext_inside hn (by omega)]
    exact ih (i + 1) (by omega)

/-- The walk over a list that is not empty. -/
theorem visits_list {rest : List EpPlace} (hn : ndb slot = some n) (hne : n.endpoints ≠ [])
    (hrest : Visits node ndb (behind node ndb slot) rest) :
    Visits node ndb (listHead slot n) (endpointsAt ndb slot ++ rest) := by
  obtain ⟨k, hk⟩ := Nat.exists_eq_succ_of_ne_zero fun h0 ↦ hne (length_eq_zero_iff.mp h0)
  have h := visits_from hn hrest k 0 (by omega)
  simpa [listHead, hne, endpointsAt, hn, range_eq_range', hk] using h

end List

/-! ### The walk over all nodes -/

/-- What the walk over all nodes visits from a slot on: up to the first node without endpoints. -/
def visitedFrom (ndb : Ndb) (i : ℕ) : List EpPlace :=
  if h : i < zwMaxNodes then
    match ndb ⟨i, h⟩ with
    | some n => if n.endpoints = [] then [] else endpointsAt ndb ⟨i, h⟩ ++ visitedFrom ndb (i + 1)
    | none => visitedFrom ndb (i + 1)
  else []
termination_by zwMaxNodes - i

theorem visits_headFrom (ndb : Ndb) (i : ℕ) :
    Visits 0 ndb (headFrom ndb i) (visitedFrom ndb i) := by
  induction i using visitedFrom.induct ndb with
  | case1 i h n hn hempty =>
    rw [headFrom, visitedFrom, dif_pos h, dif_pos h]
    simpa [hn, hempty, listHead] using Visits.done
  | case2 i h n hn hne ih =>
    rw [headFrom, visitedFrom, dif_pos h, dif_pos h]
    simp only [hn, if_neg hne]
    exact visits_list hn hne ih
  | case3 i h hn ih =>
    rw [headFrom, visitedFrom, dif_pos h, dif_pos h]
    simpa only [hn] using ih
  | case4 i h =>
    rw [headFrom, visitedFrom, dif_neg h, dif_neg h]
    exact .done

/-- Behind a node without endpoints nothing is visited. -/
theorem no_childless_before {ndb : Ndb} {ep : EpPlace} (i : ℕ) (hep : ep ∈ visitedFrom ndb i) :
    ∀ s : Fin zwMaxNodes, i ≤ s.val → s < ep.slot → ¬ Childless ndb s := by
  induction i using visitedFrom.induct ndb with
  | case1 i h n hn hempty =>
    rw [visitedFrom, dif_pos h] at hep
    simp [hn, hempty] at hep
  | case2 i h n hn hne ih =>
    rw [visitedFrom, dif_pos h] at hep
    simp only [hn, if_neg hne, mem_append] at hep
    intro s his hs
    rcases Nat.eq_or_lt_of_le his with rfl | hlt
    · rintro ⟨m, hm, hempty⟩
      exact hne (by simpa [hn] using (Option.some.inj (hn.symm.trans hm)) ▸ hempty)
    · rcases hep with hhere | hrest
      · simp only [endpointsAt, hn, mem_map] at hhere
        obtain ⟨j, -, rfl⟩ := hhere
        exact absurd hs (by simp only [Fin.lt_def]; omega)
      · exact ih hrest s hlt hs
  | case3 i h hn ih =>
    rw [visitedFrom, dif_pos h] at hep
    simp only [hn] at hep
    intro s his hs
    rcases Nat.eq_or_lt_of_le his with rfl | hlt
    · rintro ⟨m, hm, -⟩
      simp [hn] at hm
    · exact ih hep s hlt hs
  | case4 i h =>
    rw [visitedFrom, dif_neg h] at hep
    simp at hep

/-- The slots from `i` on, the first one taken off. -/
theorem drop_finRange {i : ℕ} (h : i < zwMaxNodes) :
    (List.finRange zwMaxNodes).drop i = ⟨i, h⟩ :: (List.finRange zwMaxNodes).drop (i + 1) := by
  rw [drop_eq_getElem_cons (by simpa using h)]
  simp

/-- Without such a node before another the walk visits everything. -/
theorem visitedFrom_eq {ndb : Ndb}
    (horder : ∀ s t : Fin zwMaxNodes, s < t → Childless ndb s → endpointsAt ndb t = []) (i : ℕ) :
    visitedFrom ndb i = ((List.finRange zwMaxNodes).drop i).flatMap (endpointsAt ndb) := by
  induction i using visitedFrom.induct ndb with
  | case1 i h n hn hempty =>
    rw [visitedFrom, dif_pos h]
    simp only [hn, if_pos hempty]
    refine (flatMap_eq_nil_iff.mpr fun t ht ↦ ?_).symm
    obtain ⟨j, hj, rfl⟩ := mem_iff_getElem.mp ht
    rcases Nat.eq_zero_or_pos j with rfl | hpos
    · simp [endpointsAt, hn, hempty]
    · refine horder ⟨i, h⟩ _ ?_ ⟨n, hn, hempty⟩
      simp only [getElem_drop, getElem_finRange, Fin.lt_def, Fin.val_cast]
      omega
  | case2 i h n hn hne ih =>
    rw [visitedFrom, dif_pos h, drop_finRange h]
    simp only [hn, if_neg hne, ih, flatMap_cons]
  | case3 i h hn ih =>
    rw [visitedFrom, dif_pos h, drop_finRange h]
    have hnone : endpointsAt ndb ⟨i, h⟩ = [] := by simp [endpointsAt, hn]
    simp only [hn, ih, flatMap_cons, hnone, nil_append]
  | case4 i h =>
    rw [visitedFrom, dif_neg h, drop_eq_nil_of_le (by simpa using Nat.le_of_not_lt h)]
    rfl

theorem visits_all_iff (ndb : Ndb) :
    Visits 0 ndb (rdEpFirst 0 ndb) (allEndpoints ndb) ↔
      ∀ s t : Fin zwMaxNodes, s < t → Childless ndb s → endpointsAt ndb t = [] := by
  have hfirst : rdEpFirst 0 ndb = headFrom ndb 0 := by simp [rdEpFirst]
  rw [hfirst]
  constructor
  · intro h s t hst hs
    have hall := (visits_headFrom ndb 0).unique h
    refine eq_nil_iff_forall_not_mem.mpr fun ep hep ↦ ?_
    have hmem : ep ∈ visitedFrom ndb 0 := by
      rw [hall]
      exact mem_flatMap.mpr ⟨t, mem_finRange t, hep⟩
    exact no_childless_before 0 hmem s (Nat.zero_le _) ((slot_of_mem hep).symm ▸ hst) hs
  · intro h
    have hall := visitedFrom_eq h 0
    rw [drop_zero] at hall
    rw [allEndpoints, ← hall]
    exact visits_headFrom ndb 0

/-! ### The walk over one node -/

theorem visits_at {node : UInt16} {ndb : Ndb} (hnode : node ≠ 0) (slot : Fin zwMaxNodes) :
    Visits node ndb (match ndb slot with | some n => listHead slot n | none => none)
      (endpointsAt ndb slot) := by
  cases hn : ndb slot with
  | none => simpa [endpointsAt, hn] using Visits.done
  | some n =>
    by_cases hempty : n.endpoints = []
    · simpa [endpointsAt, hn, hempty, listHead] using Visits.done
    · have hbehind : Visits node ndb (behind node ndb slot) [] := by
        simpa [behind, hnode] using Visits.done
      simpa using visits_list hn hempty hbehind

theorem visits_one_iff (ndb : Ndb) :
    (∀ node, node ≠ 0 → Visits node ndb (rdEpFirst node ndb) (endpointsOf ndb node)) ↔
      ∀ s : Fin zwMaxNodes, zwClassicMaxNodes ≤ s.val → s.val + 1 < zwLrMinNodeId →
        endpointsAt ndb s = [] := by
  constructor
  · intro h s hs hs'
    have hlt := s.isLt
    have hid : (UInt16.ofNat (s.val + 1)).toNat = s.val + 1 := by
      rw [UInt16.toNat_ofNat', Nat.mod_eq_of_lt]
      unfold zwMaxNodes at hlt
      omega
    have hslot : slotOf (UInt16.ofNat (s.val + 1)) = some s := by
      rw [slotOf, dif_pos (by rw [hid]; omega)]
      simp only [hid, Nat.add_sub_cancel]
    have hvisits := h (UInt16.ofNat (s.val + 1)) fun h0 ↦ by simp [h0] at hid
    rw [endpointsOf, hslot, Option.elim_some, rdEpFirst, hid,
      if_pos (.inr ⟨by omega, by omega⟩)] at hvisits
    exact hvisits.unique .done
  · intro h node hnode
    rw [rdEpFirst, endpointsOf]
    split
    · next hout =>
      have hnil : (slotOf node).elim [] (endpointsAt ndb) = [] := by
        unfold slotOf
        split
        · next hin => exact h _ (by simp only; omega) (by simp only; omega)
        · rfl
      rw [hnil]
      exact .done
    · cases slotOf node with
      | none => exact .done
      | some slot => exact visits_at hnode slot

/-- The walk is right exactly when no empty list breaks it off. -/
theorem walksRight_iff (ndb : Ndb) : WalksRight ndb ↔ Unbroken ndb := by
  constructor
  · rintro ⟨hall, hone⟩
    exact ⟨(visits_all_iff ndb).mp hall, (visits_one_iff ndb).mp hone⟩
  · rintro ⟨horder, hgap⟩
    exact ⟨(visits_all_iff ndb).mpr horder, (visits_one_iff ndb).mpr hgap⟩

/-- A database where node 1 has lost its endpoints and node 2 has one. -/
def brokenOff : Ndb := fun s ↦
  if s.val = 0 then some .fresh
    else if s.val = 1 then some (NodeEntry.fresh.addEndpoint true 0) else none

theorem walksRight_fail : ¬ ∀ ndb, WalksRight ndb := by
  intro h
  have hall := (visits_all_iff brokenOff).mp (h brokenOff).all
  have hsecond := hall ⟨0, by decide⟩ ⟨1, by decide⟩ (by decide) ⟨.fresh, rfl, rfl⟩
  exact absurd hsecond (by simp [endpointsAt, brokenOff, NodeEntry.addEndpoint, NodeEntry.fresh])

end ZipGateway.ResourceDirectory
