import ZipGateway.ResourceDirectory.Model
import ZipGateway.ProvisioningList.Commands
import ZipGateway.Lib.PrefixTable

/-!
# Who has a DSK

`rd_lookup_by_dsk` and `rd_node_add_dsk` of `src/src/RD_internal.c`. The lookup compares as many
bytes as it is given, so it also returns a node whose DSK is longer and only begins with them; the
DSK that is added is taken from the node that the lookup returns. `dsk_ownership_iff` says for which
runs of the database every DSK is held by one node and found there.
-/

set_option autoImplicit false

namespace ZipGateway.ResourceDirectory

open Function ZipGateway.Lib
open ZipGateway.ProvisioningList (Octets Tlv tlvDskGet isValidMdnsName isValidMdnsLocation)

/-! ### The calls -/

def pvsTlvTypeName : UInt8 := 0x32

def pvsTlvTypeLocation : UInt8 := 0x33

/-- `rd_lookup_by_dsk`: the slot of the node. -/
def lookupByDsk (dsk : List UInt8) (ndb : Ndb) : Option (Fin zwMaxNodes) :=
  if dsk = [] then none
  else
    firstSlot (fun entry : Option NodeEntry ↦
      entry.any fun n ↦ decide (dsk.length ≤ n.dsk.val.length) && n.dsk.val.take dsk.length == dsk)
        ndb

/-- What `rd_node_add_dsk` asks: the memory for the DSK, the location and the name, and the
provisioning list. -/
structure DskAnswers where
  dskAllocated : Bool
  locationAllocated : Bool
  nameAllocated : Bool
  pvsList : ProvisioningList.Slots

/-- The location that is provisioned for a DSK goes to endpoint 0. When there is no memory for it,
the pointer is cleared and the length stays. -/
def EpEntry.insertLocation (allocated : Bool) (tlv : Option Tlv) (ep0 : EpEntry) : EpEntry :=
  match tlv with
  | none => ep0
  | some tlv =>
    if tlv.value = [] ∨ ¬ isValidMdnsLocation tlv.value then ep0
    else if allocated then
      { ep0 with
        endpointLocation := some tlv.value
        endpointLocLen := UInt8.ofNat tlv.value.length }
    else { ep0 with endpointLocation := none }

/-- The name of a TLV without a terminating zero. -/
def strippedName (value : List UInt8) : List UInt8 :=
  if value.getLast? = some 0 then value.dropLast else value

/-- The name that is provisioned for a DSK goes to endpoint 0. -/
def EpEntry.insertName (allocated : Bool) (tlv : Option Tlv) (ep0 : EpEntry) : EpEntry :=
  match tlv with
  | none => ep0
  | some tlv =>
    if tlv.value = [] ∨ ¬ isValidMdnsName (strippedName tlv.value) then ep0
    else if allocated then
      { ep0 with
        endpointName := some (strippedName tlv.value)
        endpointNameLen := UInt8.ofNat (strippedName tlv.value).length }
    else { ep0 with endpointName := none }

/-- The entry with its new DSK, or without one when there is no memory. The old DSK of the entry is
replaced; in a build with assertions the call stops there. -/
def NodeEntry.setDsk (dsk : Octets) (answers : DskAnswers) (n : NodeEntry) : NodeEntry :=
  if answers.dskAllocated then
    { n with
      dsk := dsk
      endpoints := n.endpoints.modifyHead fun ep0 ↦
        (ep0.insertLocation answers.locationAllocated
          (tlvDskGet dsk.val pvsTlvTypeLocation answers.pvsList)).insertName answers.nameAllocated
            (tlvDskGet dsk.val pvsTlvTypeName answers.pvsList) }
  else { n with dsk := noDsk }

/-- The node that the lookup of a DSK returns loses its DSK. -/
def removeDsk (dsk : List UInt8) (ndb : Ndb) : Ndb :=
  match lookupByDsk dsk ndb with
  | none => ndb
  | some old => update ndb old ((ndb old).map fun n ↦ { n with dsk := noDsk })

/-- `rd_node_add_dsk`. -/
def nodeAddDsk (node : UInt16) (dsk : Octets) (answers : DskAnswers) (ndb : Ndb) : Ndb :=
  if dsk.val = [] then ndb
  else
    match slotOf node with
    | none => ndb
    | some slot =>
      if (ndb slot).isNone then ndb
      else
        update (removeDsk dsk.val ndb) slot
          ((removeDsk dsk.val ndb slot).map (NodeEntry.setDsk dsk answers))

/-! ### Runs -/

/-- A call of the node database. -/
inductive DskCall where
  | registerNewNode (node : UInt16) (answers : Registration)
  | nodeAddDsk (node : UInt16) (dsk : Octets) (answers : DskAnswers)
  | removeNode (node : UInt16)

/-- The node database, and the slot that each DSK was last added to. -/
structure DskState where
  ndb : Ndb
  addedTo : List UInt8 → Option (Fin zwMaxNodes)

/-- The slot that a call adds a DSK to. -/
def addTarget (node : UInt16) (dsk : Octets) (answers : DskAnswers) (ndb : Ndb) :
    Option (Fin zwMaxNodes) :=
  if dsk.val = [] ∨ ¬ answers.dskAllocated then none
  else (slotOf node).filter fun slot ↦ (ndb slot).isSome

/-- A call. -/
def dskStep (state : DskState) : DskCall → DskState
  | .registerNewNode node answers => { state with ndb := registerNewNode node answers state.ndb }
  | .removeNode node => { state with ndb := removeNode node state.ndb }
  | .nodeAddDsk node dsk answers =>
    { ndb := nodeAddDsk node dsk answers state.ndb
      addedTo :=
        match addTarget node dsk answers state.ndb with
        | none => state.addedTo
        | some slot => update state.addedTo dsk.val (some slot) }

/-- The node database after `rd_init` on an empty data store. -/
def DskState.initial : DskState := ⟨fun _ ↦ none, fun _ ↦ none⟩

/-- No two entries hold the same DSK, and the lookup of a stored DSK returns the node it was last
added to. -/
structure DskOwnership (state : DskState) : Prop where
  unique : ∀ i j n n', state.ndb i = some n → state.ndb j = some n' → n.dsk.val ≠ [] →
    n.dsk = n'.dsk → i = j
  lookup : ∀ i n, state.ndb i = some n → n.dsk.val ≠ [] →
    lookupByDsk n.dsk.val state.ndb = some i ∧ state.addedTo n.dsk.val = some i

/-! ### The table of DSKs -/

/-- The DSK in a slot, which is empty when there is none. -/
def heldDsk (ndb : Ndb) (i : Fin zwMaxNodes) : List UInt8 := (ndb i).elim [] fun n ↦ n.dsk.val

/-- The lookup is the search by prefix. -/
theorem lookupByDsk_eq {dsk : List UInt8} (hdsk : dsk ≠ []) (ndb : Ndb) :
    lookupByDsk dsk ndb = firstPrefix dsk (heldDsk ndb) := by
  rw [lookupByDsk, if_neg hdsk, firstPrefix]
  apply firstSlot_congr
  intro i
  rw [Bool.eq_iff_iff, List.isPrefixOf_iff_prefix, heldDsk]
  cases ndb i with
  | none => simp [hdsk]
  | some n =>
    simp only [Option.any_some, Option.elim_some, Bool.and_eq_true, decide_eq_true_eq, beq_iff_eq]
    constructor
    · rintro ⟨-, htake⟩
      rw [List.prefix_iff_eq_take, htake]
    · intro hstarts
      exact ⟨hstarts.length_le, (List.prefix_iff_eq_take.mp hstarts).symm⟩

theorem heldDsk_update (ndb : Ndb) (i : Fin zwMaxNodes) (entry : Option NodeEntry) :
    heldDsk (update ndb i entry) =
      update (heldDsk ndb) i (entry.elim [] fun n ↦ n.dsk.val) := by
  funext j
  by_cases hj : j = i
  · subst hj
    simp [heldDsk]
  · simp [heldDsk, update_of_ne hj]

theorem dsk_registered (answers : Registration) : (NodeEntry.registered answers).dsk.val = [] := by
  unfold NodeEntry.registered
  cases answers.endpointAllocated <;> cases answers.nonListening && !answers.justAdded <;> rfl

theorem heldDsk_registerNewNode (node : UInt16) (answers : Registration) (ndb : Ndb) :
    heldDsk (registerNewNode node answers ndb) = heldDsk ndb := by
  unfold registerNewNode
  split
  · rfl
  split
  · rfl
  cases slotOf node with
  | none => rfl
  | some slot =>
    have hsame : ∀ n : NodeEntry, n.dsk.val = heldDsk ndb slot →
        heldDsk (update ndb slot (some n)) = heldDsk ndb := by
      intro n hn
      rw [heldDsk_update, Option.elim_some, hn, update_eq_self]
    dsimp only
    cases hslot : ndb slot with
    | some n =>
      apply hsame
      rw [heldDsk, hslot, Option.elim_some, NodeEntry.reprobe]
      split
      · rfl
      · rfl
    | none =>
      dsimp only
      split
      · apply hsame
        rw [heldDsk, hslot, Option.elim_none, dsk_registered]
      · rfl

theorem heldDsk_removeDsk {dsk : List UInt8} (hdsk : dsk ≠ []) (ndb : Ndb) :
    heldDsk (removeDsk dsk ndb) = clearPrefix dsk (heldDsk ndb) := by
  unfold removeDsk clearPrefix
  rw [lookupByDsk_eq hdsk]
  cases firstPrefix dsk (heldDsk ndb) with
  | none => rfl
  | some old =>
    dsimp only
    rw [heldDsk_update]
    cases ndb old with
    | none => rfl
    | some n => rfl

/-- An entry stays when its DSK is taken. -/
theorem isSome_removeDsk (dsk : List UInt8) (ndb : Ndb) (i : Fin zwMaxNodes) :
    (removeDsk dsk ndb i).isSome = (ndb i).isSome := by
  unfold removeDsk
  cases lookupByDsk dsk ndb with
  | none => rfl
  | some old =>
    dsimp only
    by_cases hi : i = old
    · rw [hi, update_self, Option.isSome_map]
    · rw [update_of_ne hi]

theorem heldDsk_removeNode (node : UInt16) (ndb : Ndb) :
    heldDsk (removeNode node ndb) =
      match slotOf node with
      | none => heldDsk ndb
      | some slot => update (heldDsk ndb) slot [] := by
  unfold removeNode
  cases slotOf node with
  | none => rfl
  | some slot => exact heldDsk_update ndb slot none

/-- What `rd_node_add_dsk` does to the table of DSKs, when it has a DSK and finds the node. -/
theorem heldDsk_nodeAddDsk {node : UInt16} {dsk : Octets} (answers : DskAnswers) {ndb : Ndb}
    {slot : Fin zwMaxNodes} (hdsk : dsk.val ≠ []) (hslot : slotOf node = some slot)
    (hnode : (ndb slot).isSome) :
    heldDsk (nodeAddDsk node dsk answers ndb) =
      update (clearPrefix dsk.val (heldDsk ndb)) slot
        (if answers.dskAllocated then dsk.val else []) := by
  have hentry := isSome_removeDsk dsk.val ndb slot
  rw [hnode] at hentry
  obtain ⟨n, hn⟩ := Option.isSome_iff_exists.mp hentry
  have hnone : ¬ (ndb slot).isNone := by
    rw [Option.isNone_iff_eq_none]
    exact Option.isSome_iff_ne_none.mp hnode
  unfold nodeAddDsk
  rw [if_neg hdsk, hslot]
  dsimp only
  rw [if_neg hnone, heldDsk_update, heldDsk_removeDsk hdsk, hn, Option.map_some, Option.elim_some,
    NodeEntry.setDsk]
  split
  · rfl
  · rfl

theorem nodeAddDsk_eq_self {node : UInt16} {dsk : Octets} {answers : DskAnswers} {ndb : Ndb}
    (hnothing : dsk.val = [] ∨ ∀ slot, slotOf node = some slot → (ndb slot).isNone) :
    nodeAddDsk node dsk answers ndb = ndb := by
  unfold nodeAddDsk
  split
  · rfl
  · rename_i hdsk
    cases hslot : slotOf node with
    | none => rfl
    | some slot => exact if_pos (hnothing.resolve_left hdsk slot hslot)

/-! ### The invariant -/

variable {state : DskState}

/-- The ownership of DSKs, said of the table. -/
theorem dskOwnership_iff : DskOwnership state ↔ Found (heldDsk state.ndb) ∧
      ∀ i, heldDsk state.ndb i ≠ [] → state.addedTo (heldDsk state.ndb i) = some i := by
  have hentry : ∀ i, heldDsk state.ndb i ≠ [] →
      ∃ n, state.ndb i = some n ∧ heldDsk state.ndb i = n.dsk.val := by
    intro i hi
    unfold heldDsk at hi ⊢
    cases hn : state.ndb i with
    | none => exact absurd (by rw [hn]; rfl) hi
    | some n => exact ⟨n, rfl, rfl⟩
  have hheld : ∀ {i n}, state.ndb i = some n → heldDsk state.ndb i = n.dsk.val := by
    intro i n hn
    rw [heldDsk, hn, Option.elim_some]
  constructor
  · intro howned
    constructor
    · intro i hi
      obtain ⟨n, hn, heq⟩ := hentry i hi
      rw [heq] at hi ⊢
      rw [← lookupByDsk_eq hi]
      exact (howned.lookup i n hn hi).1
    · intro i hi
      obtain ⟨n, hn, heq⟩ := hentry i hi
      rw [heq] at hi ⊢
      exact (howned.lookup i n hn hi).2
  · rintro ⟨hfound, hadded⟩
    constructor
    · intro i j n n' hi hj hdsk hsame
      rw [← hheld hi] at hdsk
      exact hfound.unique hdsk (by rw [hheld hi, hheld hj, hsame])
    · intro i n hi hdsk
      rw [lookupByDsk_eq hdsk, ← hheld hi]
      rw [← hheld hi] at hdsk
      exact ⟨hfound i hdsk, hadded i hdsk⟩

/-- A DSK that is added fits to those of the other nodes: no node with a higher id holds a proper
prefix of it, and at most one node with a lower id holds a DSK that begins with it. -/
def DskFits (state : DskState) : DskCall → Prop
  | .nodeAddDsk node dsk answers => ∀ slot, addTarget node dsk answers state.ndb = some slot →
      (∀ j, slot < j → heldDsk state.ndb j <+: dsk.val →
        heldDsk state.ndb j = [] ∨ heldDsk state.ndb j = dsk.val) ∧
      ∀ j k, j < k → k < slot → dsk.val <+: heldDsk state.ndb j → ¬ dsk.val <+: heldDsk state.ndb k
  | _ => True

/-- DSKs that go away leave the others owned. -/
theorem DskOwnership.of_fewer {state state' : DskState} (howned : DskOwnership state)
    (hfound : Found (heldDsk state'.ndb)) (hadded : state'.addedTo = state.addedTo)
    (hfewer : ∀ i, heldDsk state'.ndb i ≠ [] → heldDsk state'.ndb i = heldDsk state.ndb i) :
    DskOwnership state' := by
  rw [dskOwnership_iff] at howned ⊢
  refine ⟨hfound, ?_⟩
  intro i hi
  have hsame := hfewer i hi
  rw [hsame] at hi ⊢
  rw [hadded]
  exact howned.2 i hi

theorem DskOwnership.removeNode (howned : DskOwnership state) (node : UInt16) :
    DskOwnership (dskStep state (.removeNode node)) := by
  have hheld := heldDsk_removeNode node state.ndb
  have hfound := (dskOwnership_iff.mp howned).1
  cases hslot : slotOf node with
  | none =>
    rw [hslot] at hheld
    dsimp only at hheld
    refine howned.of_fewer ?_ rfl ?_
    · rw [dskStep, hheld]
      exact hfound
    · intro i _
      rw [dskStep, hheld]
  | some slot =>
    rw [hslot] at hheld
    dsimp only at hheld
    refine howned.of_fewer ?_ rfl ?_
    · rw [dskStep, hheld]
      exact hfound.clear slot
    · intro i hi
      rw [dskStep, hheld] at hi ⊢
      by_cases hne : i = slot
      · rw [hne, update_self] at hi
        exact absurd rfl hi
      · rw [update_of_ne hne]

/-- The lookup's node loses its DSK and there is no memory for the new one. -/
theorem DskOwnership.addFails (howned : DskOwnership state) {node : UInt16} {dsk : Octets}
    {answers : DskAnswers} {slot : Fin zwMaxNodes} (hdsk : dsk.val ≠ [])
    (hslot : slotOf node = some slot)
    (hnode : (state.ndb slot).isSome) (hfail : answers.dskAllocated = false) :
    DskOwnership (dskStep state (.nodeAddDsk node dsk answers)) := by
  have hheld := heldDsk_nodeAddDsk answers hdsk hslot hnode
  rw [hfail, if_neg (by simp)] at hheld
  have htarget : addTarget node dsk answers state.ndb = none := by
    rw [addTarget, hfail]
    exact if_pos (Or.inr (by simp))
  refine howned.of_fewer ?_ ?_ ?_
  · rw [dskStep, hheld]
    exact ((dskOwnership_iff.mp howned).1.clearPrefix dsk.val).clear slot
  · rw [dskStep, htarget]
  · intro i hi
    rw [dskStep, hheld] at hi ⊢
    by_cases hne : i = slot
    · rw [hne, update_self] at hi
      exact absurd rfl hi
    · rw [update_of_ne hne, clearPrefix_eq] at hi ⊢
      split at hi
      · exact absurd rfl hi
      · rename_i hold
        rw [if_neg hold]

/-- A DSK is added: exactly when it fits is every DSK owned after the call. -/
theorem dskOwnership_add_iff (howned : DskOwnership state) {node : UInt16} {dsk : Octets}
    {answers : DskAnswers} {slot : Fin zwMaxNodes} (hdsk : dsk.val ≠ [])
    (hslot : slotOf node = some slot)
    (hnode : (state.ndb slot).isSome) (hok : answers.dskAllocated = true) :
    DskOwnership (dskStep state (.nodeAddDsk node dsk answers)) ↔
      DskFits state (.nodeAddDsk node dsk answers) := by
  have hheld := heldDsk_nodeAddDsk answers hdsk hslot hnode
  rw [hok, if_pos (Eq.refl true)] at hheld
  have htarget : addTarget node dsk answers state.ndb = some slot := by
    rw [addTarget, if_neg (by simp [hdsk, hok]), hslot, Option.filter_some, if_pos hnode]
  rw [dskOwnership_iff] at howned
  have hput := found_put_iff howned.1 hdsk slot
  rw [← hheld] at hput
  rw [DskFits, htarget, dskOwnership_iff]
  constructor
  · rintro ⟨hfound, -⟩ slot' hslot'
    rw [← Option.some.inj hslot']
    exact hput.mp hfound
  · intro hfits
    have hfound := hput.mpr (hfits slot rfl)
    refine ⟨hfound, ?_⟩
    intro i hi
    have hadded : (dskStep state (.nodeAddDsk node dsk answers)).addedTo =
        update state.addedTo dsk.val (some slot) := by
      rw [dskStep, htarget]
    have hndb : (dskStep state (.nodeAddDsk node dsk answers)).ndb =
        nodeAddDsk node dsk answers state.ndb := rfl
    rw [hadded]
    rw [hndb] at hi ⊢
    have hself : heldDsk (nodeAddDsk node dsk answers state.ndb) slot = dsk.val := by
      rw [hheld, update_self]
    by_cases hne : i = slot
    · rw [hne, hself, update_self]
    · have hother : heldDsk (nodeAddDsk node dsk answers state.ndb) i ≠ dsk.val := by
        intro heq
        exact hne (hfound.unique hi (heq.trans hself.symm))
      rw [update_of_ne hother]
      rw [hheld, update_of_ne hne, clearPrefix_eq] at hi ⊢
      split at hi
      · exact absurd rfl hi
      · rename_i hold
        rw [if_neg hold]
        exact howned.2 i hi

theorem dskOwnership_step_iff (howned : DskOwnership state) (call : DskCall) :
    DskOwnership (dskStep state call) ↔ DskFits state call := by
  cases call with
  | registerNewNode node answers =>
    refine iff_of_true ?_ trivial
    have hheld : heldDsk (dskStep state (.registerNewNode node answers)).ndb = heldDsk state.ndb :=
      heldDsk_registerNewNode node answers state.ndb
    refine howned.of_fewer ?_ rfl ?_
    · rw [hheld]
      exact (dskOwnership_iff.mp howned).1
    · intro i _
      rw [hheld]
  | removeNode node => exact iff_of_true (howned.removeNode node) trivial
  | nodeAddDsk node dsk answers =>
    by_cases hnothing : dsk.val = [] ∨ ∀ slot, slotOf node = some slot → (state.ndb slot).isNone
    · have htarget : addTarget node dsk answers state.ndb = none := by
        unfold addTarget
        split
        · rfl
        · rename_i hnot
          rw [not_or] at hnot
          rw [Option.filter_eq_none_iff]
          intro slot hslot
          have hnone := hnothing.resolve_left hnot.1 slot hslot
          rw [Option.isNone_iff_eq_none] at hnone
          simp [hnone]
      have hstep : dskStep state (.nodeAddDsk node dsk answers) = state := by
        rw [dskStep, nodeAddDsk_eq_self hnothing, htarget]
      rw [hstep, DskFits, htarget]
      exact iff_of_true howned fun slot hslot ↦ absurd hslot (by simp)
    · push Not at hnothing
      obtain ⟨hdsk, slot, hslot, hnode⟩ := hnothing
      have hsome : (state.ndb slot).isSome := by
        cases hentry : state.ndb slot with
        | none => rw [hentry] at hnode; exact absurd rfl hnode
        | some n => rfl
      cases hok : answers.dskAllocated with
      | true => exact dskOwnership_add_iff howned hdsk hslot hsome hok
      | false =>
        refine iff_of_true (howned.addFails hdsk hslot hsome hok) ?_
        intro slot' hslot'
        rw [addTarget, hok, if_pos (Or.inr (by simp))] at hslot'
        exact absurd hslot' (by simp)

/-- In every state of a run is each DSK held by one node and found there, exactly when each DSK that
the run adds fits to those of the other nodes. -/
theorem dsk_ownership_iff (calls : List DskCall) :
    (∀ way, way <+: calls → DskOwnership (run dskStep .initial way)) ↔
      AllSteps dskStep DskFits .initial calls := by
  apply forall_prefix_run_iff_allSteps
  · intro state call howned
    exact dskOwnership_step_iff howned call
  · constructor
    · intro i j n n' hi
      exact absurd hi (by simp [DskState.initial])
    · intro i n hi
      exact absurd hi (by simp [DskState.initial])

/-- There is memory for everything, and nothing is provisioned. -/
def plainAnswers : DskAnswers := ⟨true, true, true, fun _ ↦ .blank⟩

/-- Nodes 1 and 2 are registered, node 2 gets a DSK of two bytes, and node 1 gets a DSK that begins
with them. -/
def prefixRun : List DskCall :=
  [.registerNewNode 1 ⟨false, true, false, true, true⟩,
    .registerNewNode 2 ⟨false, true, false, true, true⟩,
    .nodeAddDsk 2 ⟨[1, 2], by simp⟩ plainAnswers, .nodeAddDsk 1 ⟨[1, 2, 3], by simp⟩ plainAnswers]

/-- The lookup of the DSK of node 2 returns node 1. -/
theorem longer_dsk_found : ¬ ∀ calls, DskOwnership (run dskStep .initial calls) := by
  intro hall
  obtain ⟨hheld, hlookup⟩ :
      (((run dskStep .initial prefixRun).ndb ⟨1, by decide⟩).elim [] fun n ↦ n.dsk.val) = [1, 2] ∧
        lookupByDsk [1, 2] (run dskStep .initial prefixRun).ndb = some ⟨0, by decide⟩ := by
    decide +kernel
  cases hentry : (run dskStep .initial prefixRun).ndb ⟨1, by decide⟩ with
  | none =>
    rw [hentry] at hheld
    exact absurd hheld (by simp)
  | some n =>
    rw [hentry, Option.elim_some] at hheld
    have hown := ((hall prefixRun).lookup _ n hentry (by rw [hheld]; simp)).1
    rw [hheld, hlookup] at hown
    exact absurd hown (by decide)

end ZipGateway.ResourceDirectory
