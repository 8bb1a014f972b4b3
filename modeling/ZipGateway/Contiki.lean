import ZipGateway.Lib.SlotTable

/-!
# Memory blocks and lists

The models of `memb` and `list` of `src/contiki/core/lib`. A pool of blocks is a table that says
which blocks are allocated: the reference counts of `memb` are only ever 0 and 1. A list is the list
of its blocks from the head on. `list_remove` clears the link of the block that it takes out, so
that a block that is in no list has no next block, and the items that a loop still visits after
`item` are those behind it in the list as it is then.
-/

set_option autoImplicit false

namespace ZipGateway.Contiki

open Lib List

/-- `memb_alloc`: the first block that is not allocated. -/
def membAlloc {n : ℕ} (used : Fin n → Bool) : Option (Fin n) := firstSlot (fun inUse ↦ !inUse) used

/-- The pool with a block allocated. -/
def membTake {n : ℕ} (used : Fin n → Bool) (i : Fin n) : Fin n → Bool := Function.update used i true

/-- `memb_free`. -/
def membFree {n : ℕ} (used : Fin n → Bool) (i : Fin n) : Fin n → Bool :=
  Function.update used i false

theorem membAlloc_some {n : ℕ} {used : Fin n → Bool} {i : Fin n}
    (halloc : membAlloc used = some i) : used i = false := by
  simpa using firstSlot_some halloc

@[simp]
theorem membTake_self {n : ℕ} (used : Fin n → Bool) (i : Fin n) : membTake used i i = true := by
  simp [membTake]

@[simp]
theorem membTake_of_ne {n : ℕ} (used : Fin n → Bool) {i j : Fin n} (hij : j ≠ i) :
    membTake used i j = used j := by
  simp [membTake, hij]

@[simp]
theorem membFree_self {n : ℕ} (used : Fin n → Bool) (i : Fin n) : membFree used i i = false := by
  simp [membFree]

@[simp]
theorem membFree_of_ne {n : ℕ} (used : Fin n → Bool) {i j : Fin n} (hij : j ≠ i) :
    membFree used i j = used j := by
  simp [membFree, hij]

section Lists

variable {Block : Type*} [DecidableEq Block] {list : List Block} {item other : Block}

/-- `list_remove`. -/
def listRemove (list : List Block) (item : Block) : List Block := list.erase item

/-- `list_add`: the item becomes the last one, and is taken out first if it is in the list. -/
def listAdd (list : List Block) (item : Block) : List Block := listRemove list item ++ [item]

/-- The items that a loop visits after `item`, by `list_item_next`. -/
def listAfter (list : List Block) (item : Block) : List Block :=
  (list.dropWhile (fun block ↦ block != item)).drop 1

theorem nodup_listRemove (hnodup : list.Nodup) : (listRemove list item).Nodup :=
  hnodup.erase item

theorem mem_listRemove (hnodup : list.Nodup) :
    other ∈ listRemove list item ↔ other ≠ item ∧ other ∈ list :=
  hnodup.mem_erase_iff

theorem mem_listAdd : other ∈ listAdd list item ↔ other = item ∨ other ∈ list := by
  unfold listAdd listRemove
  rw [mem_append, mem_singleton]
  by_cases hsame : other = item
  · simp [hsame]
  · simp [hsame, mem_erase_of_ne hsame]

theorem nodup_listAdd (hnodup : list.Nodup) : (listAdd list item).Nodup := by
  unfold listAdd
  rw [nodup_append]
  refine ⟨nodup_listRemove hnodup, nodup_singleton item, fun block hblock last hlast ↦ ?_⟩
  rw [mem_singleton.mp hlast]
  exact ((mem_listRemove hnodup).mp hblock).1

/-- Adding an item and taking it out again. -/
theorem listRemove_listAdd (hitem : item ∉ list) : listRemove (listAdd list item) item = list := by
  unfold listAdd listRemove
  rw [erase_of_not_mem hitem, erase_append_right _ hitem, erase_cons_head,
    append_nil]

theorem mem_of_mem_listAfter (hmem : other ∈ listAfter list item) : other ∈ list :=
  (dropWhile_sublist _).subset (mem_of_mem_drop hmem)

/-- The items behind one that is not in the first part of a list. -/
theorem listAfter_append {first second : List Block} (hitem : item ∉ first) :
    listAfter (first ++ second) item = listAfter second item := by
  induction first with
  | nil => rfl
  | cons block rest ih =>
    obtain ⟨hne, hrest⟩ := not_or.mp (mt mem_cons.mpr hitem)
    have hskip : listAfter (block :: (rest ++ second)) item = listAfter (rest ++ second) item := by
      unfold listAfter
      rw [dropWhile_cons_of_pos (by simpa using Ne.symm hne)]
    rw [cons_append, hskip]
    exact ih hrest

/-- A loop from an item on visits no item twice. -/
theorem nodup_cons_listAfter (hnodup : list.Nodup) (hitem : item ∈ list) :
    (item :: listAfter list item).Nodup := by
  induction list with
  | nil => exact absurd hitem not_mem_nil
  | cons first rest ih =>
    obtain ⟨hfirst, hrest⟩ := nodup_cons.mp hnodup
    by_cases hsame : first = item
    · have hafter : listAfter (first :: rest) item = rest := by
        simp [listAfter, hsame]
      rw [hafter, ← hsame]
      exact hnodup
    · have hafter : listAfter (first :: rest) item = listAfter rest item := by
        simp [listAfter, hsame]
      rw [hafter]
      exact ih hrest ((mem_cons.mp hitem).resolve_left (Ne.symm hsame))

end Lists

end ZipGateway.Contiki
