import Mathlib.Data.Fintype.Basic

/-!
# Tables of slots

A table of `n` slots is a function on `Fin n`. `firstSlot` is the linear search that fixed-size
tables are looked up and allocated with: the first slot whose entry satisfies a test. Its two
specifications are `firstSlot_some` and `firstSlot_none`.
-/

set_option autoImplicit false

namespace ZipGateway.Lib

variable {Entry : Type*} {n : ℕ}

/-- The first slot of a table whose entry satisfies a test. -/
def firstSlot (test : Entry → Bool) (table : Fin n → Entry) : Option (Fin n) :=
  (List.finRange n).find? fun i ↦ test (table i)

variable {test : Entry → Bool} {table : Fin n → Entry}

/-- The slot a search returns satisfies the test. -/
theorem firstSlot_some {i : Fin n}
    (hfound : firstSlot test table = some i) : test (table i) = true := by
  unfold firstSlot at hfound
  have htest := List.find?_some hfound
  exact htest

/-- The slots before the one that a search returns do not satisfy the test. -/
theorem firstSlot_before {i j : Fin n}
    (hfound : firstSlot test table = some i) (hbefore : j < i) : test (table j) = false := by
  unfold firstSlot at hfound
  obtain ⟨_, k, hk, hki, hfirst⟩ := List.find?_eq_some_iff_getElem.mp hfound
  rw [List.getElem_finRange] at hki
  have hjk : j.val < k := by
    have hval : k = i.val := congrArg Fin.val hki
    omega
  simpa using hfirst j.val hjk

/-- A search that returns nothing has seen every slot fail the test. -/
theorem firstSlot_none : firstSlot test table = none ↔ ∀ i, test (table i) = false := by
  simp [firstSlot, List.find?_eq_none]

/-- Searches agree when their tests agree slot by slot. -/
theorem firstSlot_congr {Entry' : Type*} {test : Entry → Bool} {table : Fin n → Entry}
    {test' : Entry' → Bool} {table' : Fin n → Entry'}
    (htest : ∀ i, test (table i) = test' (table' i)) :
    firstSlot test table = firstSlot test' table' := by
  unfold firstSlot
  congr 1
  exact funext htest

/-- A search succeeds when some slot satisfies the test. -/
theorem firstSlot_isSome {i : Fin n}
    (htest : test (table i) = true) : ∃ j, firstSlot test table = some j := by
  cases hfound : firstSlot test table with
  | none => exact absurd (firstSlot_none.mp hfound i) (by simp [htest])
  | some j => exact ⟨j, rfl⟩

/-- A search returns a slot when it is the only one that satisfies the test. -/
theorem firstSlot_eq_of_unique {i : Fin n}
    (htest : test (table i) = true) (hunique : ∀ j, test (table j) = true → j = i) :
    firstSlot test table = some i := by
  obtain ⟨j, hfound⟩ := firstSlot_isSome htest
  rw [hfound, hunique j (firstSlot_some hfound)]

end ZipGateway.Lib
