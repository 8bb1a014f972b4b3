import Mathlib.Data.Fintype.Card
import Mathlib.Data.List.GetD
import ZipGateway.TempAssoc.Model

/-!
# The table of temporary associations

The associations in the table have different virtual nodes and different clients. A virtual node id
is given to one block of the pool and stays with it, so that the blocks of the table differ by it
(`TableInv.statics`); a client gets a block only when the lookup has found none for it
(`TableInv.clients`). While `temp_assoc_create` works on a block, that block is out of the table
(`Held`), and `temp_assoc_setup_and_save` puts it at the end.
-/

set_option autoImplicit false

namespace ZipGateway.TempAssoc

open Lib Contiki Function List

/-- The virtual node ids of a range that were given out. -/
def issued (ids : VirtualNodeids) (s : Assocs) : Bool → List UInt16
  | true => lrTempAssocVirtualNodeids.take s.lrTempAssocNextNodeidIdx
  | false => ids.nodeids.take s.tempAssocNextNodeidIdx

/-- The static virtual node id of a block. -/
def Assocs.staticId (s : Assocs) (i : Fin maxTempAssociations) :
    UInt16 := (s.pool i).virtualIdStatic

/-- The client of a block. -/
def Assocs.clientOf (s : Assocs) (i : Fin maxTempAssociations) : Client := (s.pool i).client

/-- The client is not the unsolicited destination. -/
def Solicited (config : Config) (client : Client) : Prop :=
  ¬ (config.unsolicitedDest = client.ip ∧ config.unsolicitedPort = uipHtons client.port)

/-- The table and the blocks in it, while `pending` blocks of the pool are not in the table. -/
structure TableOk (config : Config) (ids : VirtualNodeids) (pending : ℕ) (s : Assocs) : Prop where
  nodup : s.tempAssociationTable.Nodup
  active : ∀ i ∈ s.tempAssociationTable, (s.pool i).virtualId = s.staticId i
  range : ∀ i ∈ s.tempAssociationTable, s.staticId i ∈ issued ids s (s.pool i).isLongRange
  statics : (s.tempAssociationTable.map s.staticId).Nodup
  clients : (s.tempAssociationTable.map s.clientOf).Nodup
  solicited : ∀ i ∈ s.tempAssociationTable, Solicited config (s.clientOf i)
  count : s.tempAssociationTable.length + pending =
    s.tempAssocNextNodeidIdx + s.lrTempAssocNextNodeidIdx
  next : s.tempAssocNextNodeidIdx ≤ maxClassicTempAssociations
  lrNext : s.lrTempAssocNextNodeidIdx ≤ maxLrTempAssociations
  faulted : s.faulted = false

/-- Between two steps the allocated blocks are those in the table. -/
structure TableInv (config : Config) (ids : VirtualNodeids) (s : Assocs) : Prop where
  table : TableOk config ids 0 s
  used : ∀ i, s.used i = true ↔ i ∈ s.tempAssociationTable

/-- A block is out of the table, with a virtual node id of its own. -/
structure Held (config : Config) (ids : VirtualNodeids) (request : Request)
    (i : Fin maxTempAssociations) (s : Assocs) : Prop where
  table : TableOk config ids 1 s
  used : ∀ j, s.used j = true ↔ j = i ∨ j ∈ s.tempAssociationTable
  apart : i ∉ s.tempAssociationTable
  range : s.staticId i ∈ issued ids s (isLrNode request.destNode)
  own : s.staticId i ∉ s.tempAssociationTable.map s.staticId

section Invariant

variable {config : Config} {ids : VirtualNodeids} {request : Request} {s t : Assocs}
  {i : Fin maxTempAssociations} {pending : ℕ}

/-! ### Virtual node ids -/

/-- A virtual node id that was given out is one of its range. -/
theorem issued_subset (s : Assocs) (lr : Bool) :
    issued ids s lr ⊆ if lr then lrTempAssocVirtualNodeids else ids.nodeids := by
  cases lr with
  | true => exact take_subset _ _
  | false => exact take_subset _ _

/-- The virtual node ids that were given out are allocated. -/
theorem ne_zero_of_mem_issued {lr : Bool} {id : UInt16} (hid : id ∈ issued ids s lr) : id ≠ 0 := by
  have hmem := issued_subset s lr hid
  cases lr with
  | true =>
    have hlr : id ∈ lrTempAssocVirtualNodeids := hmem
    rintro rfl
    exact absurd hlr (by decide)
  | false => exact ids.allocated id hmem

/-- The next id of a list is not among those before it. -/
theorem getD_notMem_take {nodeids : List UInt16} (hnodup : nodeids.Nodup) {k : ℕ}
    (hk : k < nodeids.length) : nodeids.getD k 0 ∉ nodeids.take k := by
  rw [getD_eq_getElem _ _ hk]
  intro hmem
  obtain ⟨j, hj, heq⟩ := mem_take_iff_getElem.mp hmem
  have hsame := (List.Nodup.getElem_inj_iff hnodup).mp heq
  omega

theorem getD_mem_take_succ {nodeids : List UInt16} {k : ℕ} (hk : k < nodeids.length) :
    nodeids.getD k 0 ∈ nodeids.take (k + 1) := by
  rw [getD_eq_getElem _ _ hk]
  exact mem_take_iff_getElem.mpr ⟨k, by omega, rfl⟩

/-- The next virtual node id of the classic range was not given out. -/
theorem classic_notMem_issued (hnext : s.tempAssocNextNodeidIdx < ids.nodeids.length) (lr : Bool) :
    ids.nodeids.getD s.tempAssocNextNodeidIdx 0 ∉ issued ids s lr := by
  obtain ⟨hclassic, -, hapart⟩ := nodup_append.mp ids.distinct
  cases lr with
  | true =>
    intro hmem
    have hlr : ids.nodeids.getD s.tempAssocNextNodeidIdx 0 ∈ lrTempAssocVirtualNodeids :=
      issued_subset s true hmem
    rw [getD_eq_getElem _ _ hnext] at hlr
    exact hapart _ (getElem_mem hnext) _ hlr rfl
  | false => exact getD_notMem_take hclassic hnext

/-- The next virtual node id of the long range was not given out. -/
theorem lr_notMem_issued (hnext : s.lrTempAssocNextNodeidIdx < lrTempAssocVirtualNodeids.length)
    (lr : Bool) :
    lrTempAssocVirtualNodeids.getD s.lrTempAssocNextNodeidIdx 0 ∉ issued ids s lr := by
  obtain ⟨-, hlr, hapart⟩ := nodup_append.mp ids.distinct
  cases lr with
  | true => exact getD_notMem_take hlr hnext
  | false =>
    intro hmem
    have hclassic : lrTempAssocVirtualNodeids.getD s.lrTempAssocNextNodeidIdx 0 ∈ ids.nodeids :=
      issued_subset s false hmem
    rw [getD_eq_getElem _ _ hnext] at hclassic
    exact hapart _ hclassic _ (getElem_mem hnext) rfl

/-! ### A block leaves the table -/

/-- The variables change, but not what the table says. -/
theorem TableOk.update {pending' : ℕ} (hok : TableOk config ids pending s)
    (htable : t.tempAssociationTable = s.tempAssociationTable)
    (hpool : ∀ j ∈ s.tempAssociationTable, t.pool j = s.pool j)
    (hissued : ∀ lr, issued ids s lr ⊆ issued ids t lr)
    (hcount : s.tempAssociationTable.length + pending' =
      t.tempAssocNextNodeidIdx + t.lrTempAssocNextNodeidIdx)
    (hnext : t.tempAssocNextNodeidIdx ≤ maxClassicTempAssociations)
    (hlrNext : t.lrTempAssocNextNodeidIdx ≤ maxLrTempAssociations)
    (hfaulted : t.faulted = s.faulted) : TableOk config ids pending' t := by
  have hstatic : ∀ j ∈ s.tempAssociationTable, t.staticId j = s.staticId j :=
    fun j hj ↦ congrArg TempAssociation.virtualIdStatic (hpool j hj)
  have hclient : ∀ j ∈ s.tempAssociationTable, t.clientOf j = s.clientOf j :=
    fun j hj ↦ congrArg TempAssociation.client (hpool j hj)
  refine ⟨htable ▸ hok.nodup, fun j hj ↦ ?_, fun j hj ↦ ?_, ?_, ?_, fun j hj ↦ ?_, htable ▸ hcount,
    hnext, hlrNext, hfaulted.trans hok.faulted⟩
  · rw [htable] at hj
    rw [hstatic j hj, hpool j hj]
    exact hok.active j hj
  · rw [htable] at hj
    rw [hstatic j hj, hpool j hj]
    exact hissued _ (hok.range j hj)
  · rw [htable, map_congr_left hstatic]
    exact hok.statics
  · rw [htable, map_congr_left hclient]
    exact hok.clients
  · rw [htable] at hj
    rw [hclient j hj]
    exact hok.solicited j hj

/-- A block of the table is taken for another client. -/
theorem held_of_recycle (hinv : TableInv config ids s) (hmem : i ∈ s.tempAssociationTable)
    (hrange : (s.pool i).isLongRange = isLrNode request.destNode) :
    Held config ids request i
      { s with tempAssociationTable := listRemove s.tempAssociationTable i } := by
  have hok := hinv.table
  have hsub : listRemove s.tempAssociationTable i ⊆ s.tempAssociationTable := erase_subset
  have hsublist : (listRemove s.tempAssociationTable i).Sublist s.tempAssociationTable :=
    erase_sublist
  have hlength :
      (listRemove s.tempAssociationTable i).length + 1 = s.tempAssociationTable.length := by
    have hpos := length_pos_of_mem hmem
    rw [listRemove, length_erase_of_mem hmem]
    omega
  constructor
  · refine ⟨nodup_listRemove hok.nodup, fun j hj ↦ hok.active j (hsub hj),
      fun j hj ↦ hok.range j (hsub hj), hok.statics.sublist (hsublist.map _),
      hok.clients.sublist (hsublist.map _), fun j hj ↦ hok.solicited j (hsub hj), ?_, hok.next,
      hok.lrNext, hok.faulted⟩
    exact hlength.trans hok.count
  · intro j
    rw [hinv.used j, mem_listRemove hok.nodup]
    constructor
    · intro hj
      by_cases hji : j = i
      · exact Or.inl hji
      · exact Or.inr ⟨hji, hj⟩
    · rintro (rfl | ⟨-, hj⟩)
      · exact hmem
      · exact hj
  · intro hi
    exact ((mem_listRemove hok.nodup).mp hi).1 rfl
  · have hissued := hok.range i hmem
    rwa [hrange] at hissued
  · intro hown
    obtain ⟨j, hj, heq⟩ := mem_map.mp hown
    obtain ⟨hji, hjmem⟩ := (mem_listRemove hok.nodup).mp hj
    exact hji (inj_on_of_nodup_map hok.statics hjmem hmem heq)

/-- A block that is not in the table is given the next virtual node id of the range. -/
theorem held_of_assign (hinv : TableInv config ids s) (hfree : i ∉ s.tempAssociationTable)
    (hpool : ∀ j, j ≠ i → t.pool j = s.pool j) (hused : t.used = membTake s.used i)
    (htable : t.tempAssociationTable = s.tempAssociationTable)
    (hissued : ∀ lr, issued ids s lr ⊆ issued ids t lr)
    (hcount : t.tempAssocNextNodeidIdx + t.lrTempAssocNextNodeidIdx =
      s.tempAssocNextNodeidIdx + s.lrTempAssocNextNodeidIdx + 1)
    (hnext : t.tempAssocNextNodeidIdx ≤ maxClassicTempAssociations)
    (hlrNext : t.lrTempAssocNextNodeidIdx ≤ maxLrTempAssociations)
    (hfaulted : t.faulted = s.faulted)
    (hrange : t.staticId i ∈ issued ids t (isLrNode request.destNode))
    (hnew : ∀ lr, t.staticId i ∉ issued ids s lr) : Held config ids request i t := by
  have hok := hinv.table
  have hkept : ∀ j ∈ s.tempAssociationTable, t.pool j = s.pool j := by
    intro j hj
    refine hpool j ?_
    rintro rfl
    exact hfree hj
  refine ⟨hok.update htable hkept hissued ?_ hnext hlrNext hfaulted, fun j ↦ ?_,
    htable ▸ hfree, hrange, ?_⟩
  · have hlength := hok.count
    omega
  · rw [hused, htable, ← hinv.used j]
    by_cases hji : j = i
    · simp [hji]
    · simp [hji]
  · intro hown
    obtain ⟨j, hj, heq⟩ := mem_map.mp hown
    rw [htable] at hj
    rw [Assocs.staticId, hkept j hj] at heq
    have hold := hok.range j hj
    rw [Assocs.staticId, heq] at hold
    exact hnew _ hold

/-- There is a block for every virtual node id. -/
theorem membAlloc_isSome (hinv : TableInv config ids s)
    (hroom : s.tempAssociationTable.length < maxTempAssociations) :
    ∃ i, membAlloc s.used = some i := by
  by_contra hnone
  have hall : ∀ i, i ∈ s.tempAssociationTable := by
    intro i
    rw [← hinv.used i]
    by_contra hunused
    exact hnone (firstSlot_isSome (i := i) (by simpa using hunused))
  have hcard : (Finset.univ : Finset (Fin maxTempAssociations)).card ≤
      s.tempAssociationTable.toFinset.card :=
    Finset.card_le_card fun i _ ↦ mem_toFinset.mpr (hall i)
  rw [Finset.card_univ, Fintype.card_fin] at hcard
  exact absurd (hcard.trans (toFinset_card_le _)) (by omega)

/-- A virtual node id is left for the request. -/
theorem checkAvailable_cases (havailable : checkAvailableTempAssoc config request s = true) :
    (isLrNode request.destNode = true ∧ s.lrTempAssocNextNodeidIdx < maxLrTempAssociations) ∨
      (isLrNode request.destNode = false ∧ isClassicNode request.destNode = true ∧
        s.tempAssocNextNodeidIdx < maxClassicTempAssociations) := by
  unfold checkAvailableTempAssoc at havailable
  rw [Bool.or_eq_true, Bool.and_eq_true, Bool.and_eq_true, decide_eq_true_iff, decide_eq_true_iff]
    at havailable
  rcases havailable with hlr | ⟨hclassic, hnext⟩
  · exact Or.inl hlr
  · refine Or.inr ⟨?_, hclassic, ?_⟩
    · have hbound := of_decide_eq_true hclassic
      refine decide_eq_false fun hlr ↦ ?_
      have hle : (256 : UInt16) ≤ 232 := UInt16.le_trans hlr.1 hbound.2
      exact absurd hle (by decide)
    · refine hnext.trans_le ?_
      split_ifs
      · decide
      · exact le_refl _

/-- A new association is held, with the next virtual node id of its range. -/
theorem held_of_alloc (hinv : TableInv config ids s)
    (havailable : checkAvailableTempAssoc config request s = true)
    (hfree : i ∉ s.tempAssociationTable) :
    Held config ids request i (assignVirtualId ids request i { s with used := membTake s.used i }) ∧
      (∀ j, j ≠ i → (assignVirtualId ids request i { s with used := membTake s.used i }).pool j =
        s.pool j) ∧
      (assignVirtualId ids request i { s with used := membTake s.used i }).tempAssociationTable =
        s.tempAssociationTable := by
  have hother : ∀ a j, j ≠ i → update s.pool i a j = s.pool j :=
    fun a j hji ↦ update_of_ne hji a s.pool
  unfold assignVirtualId
  rcases checkAvailable_cases havailable with ⟨hlr, hnext⟩ | ⟨hlr, hclassic, hnext⟩
  · have hlength : s.lrTempAssocNextNodeidIdx < lrTempAssocVirtualNodeids.length := hnext
    rw [if_pos ⟨hlength, hlr⟩]
    refine ⟨held_of_assign hinv hfree (hother _) rfl rfl (fun lr ↦ ?_) ?_ hinv.table.next
      hnext rfl ?_
      fun lr ↦ ?_, hother _, rfl⟩
    · cases lr with
      | true => exact take_subset_take_left _ (Nat.le_succ _)
      | false => exact List.Subset.refl _
    · exact (Nat.add_assoc _ _ _).symm
    · rw [hlr]
      dsimp only [Assocs.staticId]
      rw [update_self]
      exact getD_mem_take_succ hlength
    · dsimp only [Assocs.staticId]
      rw [update_self]
      exact lr_notMem_issued hlength lr
  · have hlength : s.tempAssocNextNodeidIdx < ids.nodeids.length := by
      rw [ids.full]
      exact hnext
    rw [if_neg (fun h ↦ by simp [hlr] at h), if_pos ⟨hlength, hclassic⟩]
    refine ⟨held_of_assign hinv hfree
      (hother _) rfl rfl (fun lr ↦ ?_) ?_ hnext hinv.table.lrNext rfl ?_
      fun lr ↦ ?_, hother _, rfl⟩
    · cases lr with
      | true => exact List.Subset.refl _
      | false => exact take_subset_take_left _ (Nat.le_succ _)
    · exact Nat.add_right_comm _ _ _
    · rw [hlr]
      dsimp only [Assocs.staticId]
      rw [update_self]
      exact getD_mem_take_succ hlength
    · dsimp only [Assocs.staticId]
      rw [update_self]
      exact classic_notMem_issued hlength lr

theorem TableInv.lock (hinv : TableInv config ids s) (lockedA resetFwTimer : Option Pointer) :
    TableInv config ids { s with lockedA := lockedA, resetFwTimer := resetFwTimer } := by
  obtain ⟨hok, hused⟩ := hinv
  exact ⟨⟨hok.nodup, hok.active, hok.range, hok.statics, hok.clients, hok.solicited,
    hok.count, hok.next, hok.lrNext, hok.faulted⟩, hused⟩

/-- What `temp_assoc_get_new_or_reuse_oldest` returns: a block that is held, and is not the one that
is locked. -/
structure Obtained (config : Config) (ids : VirtualNodeids) (request : Request) (s : Assocs)
    (i : Fin maxTempAssociations) (t : Assocs) : Prop where
  held : Held config ids request i t
  pool : ∀ j ∈ s.tempAssociationTable, t.pool j = s.pool j
  table : ∀ j ∈ s.tempAssociationTable, j = i ∨ j ∈ t.tempAssociationTable
  older : t.tempAssociationTable ⊆ s.tempAssociationTable
  unlocked : i ∈ s.tempAssociationTable → s.lockedA ≠ some (.pool i)

/-- `temp_assoc_get_new_or_reuse_oldest` returns a block of the right range, if there is one that is
not locked, and never fails to allocate. -/
theorem getNewOrReuseOldest_spec (request : Request) (hinv : TableInv config ids s) :
    (∃ i t, getNewOrReuseOldest config ids request s = (some i, t) ∧
        Obtained config ids request s i t) ∨
      ∃ t, getNewOrReuseOldest config ids request s = (none, t) ∧ TableInv config ids t ∧
        t.pool = s.pool ∧ t.tempAssociationTable = s.tempAssociationTable := by
  obtain ⟨r, hr, hinvr, hpool, htable, hlocked⟩ : ∃ r, r = (if s.tempAssociationTable = [] then
      { s with lockedA := none, resetFwTimer := none } else s) ∧ TableInv config ids r ∧
      r.pool = s.pool ∧ r.tempAssociationTable = s.tempAssociationTable ∧
      (s.tempAssociationTable ≠ [] → r.lockedA = s.lockedA) := by
    refine ⟨_, rfl, ?_⟩
    by_cases hempty : s.tempAssociationTable = []
    · rw [if_pos hempty]
      exact ⟨hinv.lock none none, rfl, rfl, fun h ↦ absurd hempty h⟩
    · rw [if_neg hempty]
      exact ⟨hinv, rfl, rfl, fun _ ↦ rfl⟩
  unfold getNewOrReuseOldest
  rw [← hr]
  dsimp only
  by_cases havailable : checkAvailableTempAssoc config request r = true
  · rw [if_pos havailable]
    have hroom : r.tempAssociationTable.length < maxTempAssociations := by
      have hcount := hinvr.table.count
      have hnext := hinvr.table.next
      have hlrNext := hinvr.table.lrNext
      show r.tempAssociationTable.length < maxLrTempAssociations + maxClassicTempAssociations
      rcases checkAvailable_cases havailable with ⟨-, hless⟩ | ⟨-, -, hless⟩
      · omega
      · omega
    obtain ⟨i, halloc⟩ := membAlloc_isSome hinvr hroom
    have hfree : i ∉ r.tempAssociationTable := by
      rw [← hinvr.used i, membAlloc_some halloc]
      exact Bool.false_ne_true
    obtain ⟨hheld, hkept, hsame⟩ := held_of_alloc hinvr havailable hfree
    rw [halloc]
    refine Or.inl ⟨i, _, rfl, hheld, fun j hj ↦ ?_, fun j hj ↦ Or.inr ?_, ?_, fun hi ↦ ?_⟩
    · rw [← hpool]
      refine hkept j ?_
      rintro rfl
      exact hfree (htable ▸ hj)
    · rw [hsame, htable]
      exact hj
    · rw [hsame, htable]
      exact List.Subset.refl _
    · exact absurd (htable ▸ hi) hfree
  · rw [if_neg havailable]
    cases hfind : r.tempAssociationTable.find? (isRecyclable request r) with
    | none => exact Or.inr ⟨r, rfl, hinvr, hpool, htable⟩
    | some i =>
      have hmem := mem_of_find?_eq_some hfind
      have hrecyclable := List.find?_some hfind
      unfold isRecyclable at hrecyclable
      rw [Bool.and_eq_true, bne_iff_ne, beq_iff_eq] at hrecyclable
      refine Or.inl ⟨i, _, rfl, held_of_recycle hinvr hmem hrecyclable.2, fun j hj ↦ ?_,
        fun j hj ↦ ?_, ?_, fun hi ↦ ?_⟩
      · rw [← hpool]
      · rw [mem_listRemove hinvr.table.nodup, htable]
        by_cases hji : j = i
        · exact Or.inl hji
        · exact Or.inr ⟨hji, hj⟩
      · rw [← htable]
        exact erase_subset
      · rw [← hlocked (ne_nil_of_mem hi)]
        exact hrecyclable.1.symm

/-! ### A block enters the table -/

theorem lookupByZipClient_none {t : Assocs}
    (hlookup : lookupByZipClient config request s = (none, t)) : t = s ∧ request.isUnsolicited
      config = false ∧ ∀ i ∈ s.tempAssociationTable, s.clientOf i ≠ request.client := by
  unfold lookupByZipClient at hlookup
  by_cases hunsolicited : request.isUnsolicited config = true
  · rw [if_pos hunsolicited] at hlookup
    exact absurd (congrArg Prod.fst hlookup) (by simp)
  · rw [if_neg hunsolicited] at hlookup
    refine ⟨(congrArg Prod.snd hlookup).symm, by simpa using hunsolicited, fun i hi heq ↦ ?_⟩
    have hnone := Option.map_eq_none_iff.mp (congrArg Prod.fst hlookup)
    have hother := List.find?_eq_none.mp hnone i hi
    rw [beq_iff_eq] at hother
    exact hother heq

/-- A held block enters the table. -/
theorem tableInv_enter (hheld : Held config ids request i s)
    (htable : t.tempAssociationTable = s.tempAssociationTable ++ [i])
    (hpool : ∀ j, j ≠ i → t.pool j = s.pool j) (hactive : (t.pool i).virtualId = s.staticId i)
    (hstatic : t.staticId i = s.staticId i)
    (hrange : (t.pool i).isLongRange = isLrNode request.destNode)
    (hsolicited : Solicited config (t.clientOf i))
    (hclient : ∀ j ∈ s.tempAssociationTable, s.clientOf j ≠ t.clientOf i) (hused : t.used = s.used)
    (hnext : t.tempAssocNextNodeidIdx = s.tempAssocNextNodeidIdx)
    (hlrNext : t.lrTempAssocNextNodeidIdx = s.lrTempAssocNextNodeidIdx)
    (hfaulted : t.faulted = s.faulted) : TableInv config ids t := by
  obtain ⟨hok, hblocks, hapart, hissued, hown⟩ := hheld
  have hsame : ∀ lr, issued ids t lr = issued ids s lr := by
    intro lr
    cases lr with
    | true => exact congrArg (fun k ↦ lrTempAssocVirtualNodeids.take k) hlrNext
    | false => exact congrArg (fun k ↦ ids.nodeids.take k) hnext
  have hkept : ∀ j ∈ s.tempAssociationTable, t.pool j = s.pool j := by
    intro j hj
    refine hpool j ?_
    rintro rfl
    exact hapart hj
  have hmem : ∀ j ∈ t.tempAssociationTable, j ∈ s.tempAssociationTable ∨ j = i := by
    intro j hj
    rw [htable] at hj
    simpa using hj
  have hstatics : s.tempAssociationTable.map t.staticId = s.tempAssociationTable.map s.staticId :=
    map_congr_left fun j hj ↦ congrArg TempAssociation.virtualIdStatic (hkept j hj)
  have hclients : s.tempAssociationTable.map t.clientOf = s.tempAssociationTable.map s.clientOf :=
    map_congr_left fun j hj ↦ congrArg TempAssociation.client (hkept j hj)
  refine ⟨⟨?_, fun j hj ↦ ?_, fun j hj ↦ ?_, ?_, ?_, fun j hj ↦ ?_, ?_, hnext ▸ hok.next,
    hlrNext ▸ hok.lrNext, hfaulted.trans hok.faulted⟩, fun j ↦ ?_⟩
  · rw [htable]
    exact nodup_append.mpr ⟨hok.nodup, nodup_singleton i, fun j hj k hk hjk ↦
      hapart (by rwa [hjk, mem_singleton.mp hk] at hj)⟩
  · rcases hmem j hj with hold | rfl
    · rw [Assocs.staticId, hkept j hold]
      exact hok.active j hold
    · rw [hactive, hstatic]
  · rw [hsame]
    rcases hmem j hj with hold | rfl
    · rw [Assocs.staticId, hkept j hold]
      exact hok.range j hold
    · rw [hstatic, hrange]
      exact hissued
  · rw [htable, map_append, hstatics]
    refine nodup_append.mpr ⟨hok.statics, nodup_singleton _, fun id hid other hother heq ↦ ?_⟩
    have hnew : other = s.staticId i := (mem_singleton.mp hother).trans hstatic
    exact hown (by rwa [heq, hnew] at hid)
  · rw [htable, map_append, hclients]
    refine nodup_append.mpr ⟨hok.clients, nodup_singleton _, fun client hold other hother ↦ ?_⟩
    obtain ⟨j, hj, rfl⟩ := mem_map.mp hold
    rw [mem_singleton.mp hother]
    exact hclient j hj
  · rcases hmem j hj with hold | rfl
    · rw [Assocs.clientOf, hkept j hold]
      exact hok.solicited j hold
    · exact hsolicited
  · rw [htable, length_append, hnext, hlrNext]
    exact hok.count
  · rw [hused, hblocks j, htable, mem_append, mem_singleton]
    exact Or.comm

/-- The held block becomes the last one of the table, with the client of the request. -/
theorem setupAndSave_spec (hheld : Held config ids request i s)
    (hsolicited : request.isUnsolicited config = false)
    (hclient : ∀ j ∈ s.tempAssociationTable, s.clientOf j ≠ request.client) :
    ∃ t, setupAndSave config request i s = (true, t) ∧ TableInv config ids t ∧
      t.tempAssociationTable = s.tempAssociationTable ++ [i] ∧
      (∀ j, j ≠ i → t.pool j = s.pool j) ∧ t.clientOf i = request.client := by
  have hnonzero : (s.pool i).virtualIdStatic ≠ 0 := ne_zero_of_mem_issued hheld.range
  have hadd : listAdd s.tempAssociationTable i = s.tempAssociationTable ++ [i] := by
    rw [listAdd, listRemove, erase_of_not_mem hheld.apart]
  let a : TempAssociation :=
    ⟨(s.pool i).virtualIdStatic, (s.pool i).virtualIdStatic, request.srcipaddr, request.sEndpoint,
      request.srcport, request.wasDtls, isLrNode request.destNode⟩
  have hkept : ∀ j, j ≠ i → update s.pool i a j = s.pool j :=
    fun j hji ↦ update_of_ne hji a s.pool
  have hself : update s.pool i a i = a := update_self i a s.pool
  have hnew : (s.tempAssociationTable.any fun j ↦
      sameFromStaticId (update s.pool i a i) (update s.pool i a j)) = false := by
    rw [any_eq_false]
    intro j hj
    have hji : j ≠ i := by
      rintro rfl
      exact hheld.apart hj
    rw [hself, hkept j hji, sameFromStaticId, Bool.and_eq_true, beq_iff_eq, beq_iff_eq]
    rintro ⟨-, hsame⟩
    exact hclient j hj hsame.symm
  have hsetup : setupAndSave config request i s = (true, { s with
      pool := update s.pool i a
      tempAssociationTable := s.tempAssociationTable ++ [i] }) := by
    unfold setupAndSave addToAssociationTable
    rw [hsolicited]
    dsimp only
    rw [if_neg Bool.false_ne_true, if_neg hnonzero, ← hadd, hnew]
    rfl
  have hclientOf : TempAssociation.client (update s.pool i a i) = request.client := by
    rw [hself]
    rfl
  refine ⟨_, hsetup, ?_, rfl, hkept, hclientOf⟩
  refine tableInv_enter hheld rfl hkept ?_ ?_ ?_ ?_ ?_ rfl rfl rfl rfl
  · show (update s.pool i a i).virtualId = s.staticId i
    rw [hself]
    rfl
  · show (update s.pool i a i).virtualIdStatic = s.staticId i
    rw [hself]
    rfl
  · show (update s.pool i a i).isLongRange = isLrNode request.destNode
    rw [hself]
  · show Solicited config (update s.pool i a i).client
    rw [hclientOf]
    rintro ⟨hip, hport⟩
    rw [Request.isUnsolicited, Bool.and_eq_false_iff, beq_eq_false_iff_ne, beq_eq_false_iff_ne]
      at hsolicited
    rcases hsolicited with hdiffers | hdiffers
    · exact hdiffers hip
    · exact hdiffers hport
  · intro j hj
    show s.clientOf j ≠ (update s.pool i a i).client
    rw [hclientOf]
    exact hclient j hj

/-! ### Steps -/

/-- The lookup finds the association of the client, whose block is in the table. -/
theorem lookupByZipClient_mem (hinv : TableInv config ids s) (hmem : i ∈ s.tempAssociationTable)
    (hclient : s.clientOf i = request.client) :
    lookupByZipClient config request s = (some (.pool i), s) := by
  have hsolicited : request.isUnsolicited config = false := by
    have hentry := hinv.table.solicited i hmem
    rw [hclient] at hentry
    rw [Request.isUnsolicited, Bool.and_eq_false_iff, beq_eq_false_iff_ne, beq_eq_false_iff_ne]
    exact not_and_or.mp hentry
  have hfind :
      s.tempAssociationTable.find? (fun j ↦ (s.pool j).client == request.client) = some i := by
    cases hfound : s.tempAssociationTable.find? (fun j ↦ (s.pool j).client == request.client) with
    | none =>
      have hother := List.find?_eq_none.mp hfound i hmem
      rw [beq_iff_eq] at hother
      exact absurd hclient hother
    | some j =>
      have hsame := List.find?_some hfound
      rw [beq_iff_eq] at hsame
      rw [inj_on_of_nodup_map hinv.table.clients (mem_of_find?_eq_some hfound) hmem
        (hsame.trans hclient.symm)]
  unfold lookupByZipClient
  rw [hsolicited, if_neg Bool.false_ne_true, hfind]
  rfl

/-- `temp_assoc_create` keeps the table in order, and leaves the association alone that is
locked. -/
theorem create_spec (hinv : TableInv config ids s) :
    TableInv config ids (create config ids request s).2 ∧
      ∀ i ∈ s.tempAssociationTable, s.lockedA = some (.pool i) →
        i ∈ (create config ids request s).2.tempAssociationTable ∧
          (create config ids request s).2.pool i = s.pool i := by
  unfold create
  by_cases hprogress : request.assocCreateInProgress = true
  · rw [if_pos hprogress]
    exact ⟨hinv, fun i hi _ ↦ ⟨hi, rfl⟩⟩
  rw [if_neg hprogress]
  cases hlookup : lookupByZipClient config request s with
  | mk found r =>
    cases found with
    | some a =>
      have hr : TableInv config ids r ∧ r.tempAssociationTable = s.tempAssociationTable ∧
          r.pool = s.pool := by
        unfold lookupByZipClient at hlookup
        split_ifs at hlookup
        · obtain rfl := (congrArg Prod.snd hlookup)
          obtain ⟨hok, hused⟩ := hinv
          exact ⟨⟨⟨hok.nodup, hok.active, hok.range, hok.statics, hok.clients, hok.solicited,
            hok.count, hok.next, hok.lrNext, hok.faulted⟩, hused⟩, rfl, rfl⟩
        · obtain rfl := (congrArg Prod.snd hlookup)
          exact ⟨hinv, rfl, rfl⟩
      exact ⟨hr.1, fun i hi _ ↦ ⟨hr.2.1 ▸ hi, congrFun hr.2.2 i⟩⟩
    | none =>
      obtain ⟨rfl, hsolicited, hclient⟩ := lookupByZipClient_none hlookup
      dsimp only
      rcases getNewOrReuseOldest_spec request hinv with
        ⟨i, t, hnew, hobtained⟩ | ⟨t, hnew, hinvt, hpool, htable⟩
      · rw [hnew]
        dsimp only
        have hclientt : ∀ j ∈ t.tempAssociationTable, t.clientOf j ≠ request.client := by
          intro j hj
          rw [Assocs.clientOf, hobtained.pool j (hobtained.older hj)]
          exact hclient j (hobtained.older hj)
        obtain ⟨u, hsetup, hinvu, htable, hkept, -⟩ :=
          setupAndSave_spec hobtained.held hsolicited hclientt
        rw [hsetup]
        dsimp only
        refine ⟨hinvu, fun j hj hlocked ↦ ?_⟩
        have hji : j ≠ i := by
          rintro rfl
          exact hobtained.unlocked hj hlocked
        have hstays := (hobtained.table j hj).resolve_left hji
        refine ⟨?_, (hkept j hji).trans (hobtained.pool j hj)⟩
        rw [htable]
        exact mem_append_left _ hstays
      · rw [hnew]
        exact ⟨hinvt, fun i hi _ ↦ ⟨htable ▸ hi, congrFun hpool i⟩⟩

/-- Every step keeps the table in order, and leaves the association alone that is locked. -/
theorem step_spec (hinv : TableInv config ids s) (input : Input) :
    TableInv config ids (step config ids s input) ∧
      ∀ i ∈ s.tempAssociationTable, s.lockedA = some (.pool i) →
        i ∈ (step config ids s input).tempAssociationTable ∧
          (step config ids s input).pool i = s.pool i := by
  cases input with
  | create request => exact create_spec hinv
  | registerFwLock a => exact ⟨hinv.lock _ _, fun i hi _ ↦ ⟨hi, rfl⟩⟩
  | fwLockTimeout =>
    simp only [step, fwLockReleaseOnTimeout]
    split
    · exact ⟨hinv.lock _ _, fun i hi _ ↦ ⟨hi, rfl⟩⟩
    · exact ⟨hinv, fun i hi _ ↦ ⟨hi, rfl⟩⟩

theorem tableInv_init : TableInv config ids Assocs.init := by
  refine ⟨⟨nodup_nil, ?_, ?_, nodup_nil, nodup_nil, ?_, rfl, Nat.zero_le _, Nat.zero_le _,
    rfl⟩, ?_⟩ <;> simp [Assocs.init]

end Invariant

/-- In every run, the associations of the table have different virtual node ids and different
clients, and there are no more than the pool has, so that an allocation never fails. The association
that is locked for a firmware update stays as it is, whatever comes next, and a request of a client
whose association is in the table is given that association, and changes nothing. -/
theorem temp_associations_sound (config : Config) (ids : VirtualNodeids) (inputs : List Input)
    (s : Assocs) (hreached : s = run (step config ids) Assocs.init inputs) :
    (s.tempAssociationTable.map fun i ↦ (s.pool i).virtualId).Nodup ∧
    (s.tempAssociationTable.map fun i ↦ (s.pool i).client).Nodup ∧
    s.tempAssociationTable.length ≤ maxTempAssociations ∧ s.faulted = false ∧
    (∀ i ∈ s.tempAssociationTable, s.lockedA = some (.pool i) → ∀ input,
      i ∈ (step config ids s input).tempAssociationTable ∧
        (step config ids s input).pool i = s.pool i) ∧
    ∀ i ∈ s.tempAssociationTable, ∀ request : Request, request.client = (s.pool i).client →
      request.assocCreateInProgress = false →
        create config ids request s = (some (.pool i), s) := by
  have hinv : TableInv config ids s := by
    rw [hreached]
    refine run_invariant (fun state input hstate ↦ ?_) tableInv_init inputs
    exact (step_spec hstate input).1
  have hok := hinv.table
  refine ⟨?_, hok.clients, ?_, hok.faulted,
    fun i hi hlocked input ↦ (step_spec hinv input).2 i hi hlocked,
    fun i hi request hclient hprogress ↦ ?_⟩
  · rw [map_congr_left hok.active]
    exact hok.statics
  · have hcard := hok.nodup.length_le_card
    rwa [Fintype.card_fin] at hcard
  · unfold create
    rw [hprogress, if_neg Bool.false_ne_true, lookupByZipClient_mem hinv hi hclient.symm]

/-- The virtual nodes 10 to 13. -/
def sampleNodeids : VirtualNodeids := ⟨[10, 11, 12, 13], rfl, by simp, by decide +kernel⟩

/-- A gateway whose unsolicited destination is a client with address 1. -/
def sampleConfig : Config := ⟨1, 4123, false, 1⟩

/-- A packet of the client with an address for a node. -/
def packetFrom (address : BitVec 128) (destNode : UInt16) : Request :=
  ⟨address, 0x1B10, 0, destNode, 0, false⟩

/-- Six clients send to node 5, and the association of the first one is locked before the last two
do. -/
def sixClients : List Input :=
  [.create (packetFrom 2 5), .create (packetFrom 3 5), .create (packetFrom 4 5),
    .registerFwLock (.pool 0), .create (packetFrom 5 5), .create (packetFrom 6 5),
    .create (packetFrom 7 300)]

/-- The association of the first client is kept, the one of the second client was taken for the
fifth one, and the first client is given its association again. -/
theorem temp_associations_sound_sixClients :
    (run (step sampleConfig sampleNodeids) Assocs.init sixClients).tempAssociationTable =
      [0, 2, 3, 1, 4] ∧ (create sampleConfig sampleNodeids (packetFrom 2 5)
        (run (step sampleConfig sampleNodeids) Assocs.init sixClients)).1 = some (.pool 0) := by
  refine ⟨by decide +kernel, ?_⟩
  obtain ⟨-, -, -, -, -, hagain⟩ :=
    temp_associations_sound sampleConfig sampleNodeids sixClients _ rfl
  rw [hagain 0 (by decide +kernel) (packetFrom 2 5) (by decide +kernel) rfl]

end ZipGateway.TempAssoc
