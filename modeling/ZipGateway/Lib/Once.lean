import Mathlib.Data.List.Count
import Mathlib.Order.Nat

/-!
# Things that are done once

A log of acts, newest first, in which some acts are done for a serial number. `Once` says that none
is done twice for the same number, and that it has not been done yet for the numbers that are owed
one: those of certain slots, and those that were not given out so far. The number of a slot that is
owed the act is paid by `Once.pay`, which takes the slots with that number off the list.
-/

set_option autoImplicit false

namespace ZipGateway.Lib

variable {Slot Act : Type*}

/-- The acts that `counts` names are done at most once for each serial number, and not yet for the
slots that are owed one. -/
structure Once (counts : ℕ → Act → Bool) (serial : Slot → ℕ) (owed : Slot → Prop) (last : ℕ)
    (log : List Act) : Prop where
  most : ∀ n, log.countP (counts n) ≤ 1
  unpaid : ∀ i, owed i → log.countP (counts (serial i)) = 0
  fresh : ∀ n, last < n → log.countP (counts n) = 0

section Once

variable {counts : ℕ → Act → Bool} {serial serial' : Slot → ℕ} {owed owed' : Slot → Prop} {last : ℕ}
  {log : List Act} {act : Act}

/-- An act of another kind. -/
theorem Once.skip (honce : Once counts serial owed last log) (hact : ∀ n, counts n act = false) :
    Once counts serial owed last (act :: log) := by
  have hcount : ∀ n, (act :: log).countP (counts n) = log.countP (counts n) := by
    intro n
    rw [List.countP_cons_of_neg (by simp [hact n])]
  exact ⟨fun n ↦ (hcount n).trans_le (honce.most n),
    fun i hi ↦ (hcount _).trans (honce.unpaid i hi),
    fun n hn ↦ (hcount n).trans (honce.fresh n hn)⟩

/-- The act is done for a number for which it was not done yet. -/
theorem Once.pay (honce : Once counts serial owed last log) {paid : ℕ}
    (hact : ∀ n, counts n act = true → n = paid) (hunpaid : log.countP (counts paid) = 0)
    (hgiven : paid ≤ last) (howed : ∀ i, owed' i → owed i ∧ serial i ≠ paid) :
    Once counts serial owed' last (act :: log) := by
  have hother : ∀ n, n ≠ paid → (act :: log).countP (counts n) = log.countP (counts n) := by
    intro n hn
    rw [List.countP_cons_of_neg fun h ↦ hn (hact n h)]
  refine ⟨fun n ↦ ?_, fun i hi ↦ ?_, fun n hn ↦ ?_⟩
  · by_cases hpaid : n = paid
    · rw [hpaid, List.countP_cons, hunpaid]
      split_ifs
      · exact le_refl 1
      · exact Nat.zero_le 1
    · rw [hother n hpaid]
      exact honce.most n
  · rw [hother _ (howed i hi).2]
    exact honce.unpaid i (howed i hi).1
  · rw [hother n (hgiven.trans_lt hn).ne']
    exact honce.fresh n hn

/-- Fewer slots are owed the act. -/
theorem Once.mono (honce : Once counts serial owed last log)
    (howed : ∀ i, owed' i → owed i ∧ serial' i = serial i) : Once counts serial' owed' last log :=
  ⟨honce.most, fun i hi ↦ (howed i hi).2 ▸ honce.unpaid i (howed i hi).1, honce.fresh⟩

/-- A slot gets a new number. -/
theorem Once.allocate (honce : Once counts serial owed last log)
    (howed : ∀ i, owed' i → serial' i = last + 1 ∨ owed i ∧ serial' i = serial i) :
    Once counts serial' owed' (last + 1) log := by
  refine ⟨honce.most, fun i hi ↦ ?_, fun n hn ↦ honce.fresh n ((Nat.lt_succ_self last).trans hn)⟩
  rcases howed i hi with hnew | ⟨hold, hsame⟩
  · rw [hnew]
    exact honce.fresh _ (Nat.lt_succ_self last)
  · rw [hsame]
    exact honce.unpaid i hold

end Once

end ZipGateway.Lib
