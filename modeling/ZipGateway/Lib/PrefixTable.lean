import ZipGateway.Lib.SlotTable

/-!
# Tables of words that are searched by prefix

A table holds a word in each slot; the empty word stands for an empty slot. `firstPrefix` returns
the first slot whose word begins with a key. `Found` says that the search for a word of the table
returns the slot of that word. Clearing a slot keeps it (`Found.clear`). A key that is put into a
slot, after the slot that the search for it returns was cleared, keeps it in exactly the cases of
`found_put_iff`: a later slot must not hold a proper prefix of the key, and of the earlier slots at
most one may hold a word that begins with it.
-/

set_option autoImplicit false

namespace ZipGateway.Lib

open Function List

variable {α : Type*} [DecidableEq α] {n : ℕ} {table : Fin n → List α} {key : List α}

/-- The first slot whose word begins with a key. -/
def firstPrefix (key : List α) (table : Fin n → List α) : Option (Fin n) :=
  firstSlot (fun word ↦ key.isPrefixOf word) table

/-- The search for a word of the table returns its slot. -/
def Found (table : Fin n → List α) : Prop :=
  ∀ i, table i ≠ [] → firstPrefix (table i) table = some i

/-- The table without the word that the search for a key returns. -/
def clearPrefix (key : List α) (table : Fin n → List α) : Fin n → List α :=
  match firstPrefix key table with
  | none => table
  | some old => update table old []

theorem firstPrefix_eq_some_iff {i : Fin n} :
    firstPrefix key table = some i ↔ key <+: table i ∧ ∀ j, j < i → ¬ key <+: table j := by
  constructor
  · intro hfound
    refine ⟨List.isPrefixOf_iff_prefix.mp (firstSlot_some hfound), ?_⟩
    intro j hj hstarts
    have hfalse := firstSlot_before hfound hj
    rw [List.isPrefixOf_iff_prefix.mpr hstarts] at hfalse
    exact absurd hfalse (by simp)
  · rintro ⟨hstarts, hfirst⟩
    obtain ⟨j, hj⟩ := @firstSlot_isSome (List α) n (fun word ↦ key.isPrefixOf word) table i
      (List.isPrefixOf_iff_prefix.mpr hstarts)
    have hji : ¬ i < j := by
      intro hlt
      have hfalse := firstSlot_before hj hlt
      rw [List.isPrefixOf_iff_prefix.mpr hstarts] at hfalse
      exact absurd hfalse (by simp)
    have hij : ¬ j < i := fun hlt ↦ hfirst j hlt (List.isPrefixOf_iff_prefix.mp (firstSlot_some hj))
    rw [firstPrefix, hj, le_antisymm (not_lt.mp hji) (not_lt.mp hij)]

theorem found_iff : Found table ↔ ∀ i j, table i ≠ [] → j < i → ¬ table i <+: table j := by
  constructor
  · intro hfound i j hi hj
    exact (firstPrefix_eq_some_iff.mp (hfound i hi)).2 j hj
  · intro hfirst i hi
    exact firstPrefix_eq_some_iff.mpr ⟨prefix_rfl, fun j hj ↦ hfirst i j hi hj⟩

/-- No word is in two slots. -/
theorem Found.unique (hfound : Found table) {i j : Fin n} (hi : table i ≠ [])
    (heq : table i = table j) : i = j := by
  have hj := hfound j (heq ▸ hi)
  rw [← heq, hfound i hi] at hj
  exact Option.some.inj hj

theorem Found.clear (hfound : Found table) (i : Fin n) : Found (update table i []) := by
  rw [found_iff] at hfound ⊢
  intro k j hk hj
  have hki : k ≠ i := by
    rintro rfl
    exact hk (update_self ..)
  rw [update_of_ne hki] at hk ⊢
  by_cases hji : j = i
  · rw [hji, update_self, prefix_nil]
    exact hk
  · rw [update_of_ne hji]
    exact hfound k j hk hj

theorem Found.clearPrefix (hfound : Found table) (key : List α) :
    Found (clearPrefix key table) := by
  unfold Lib.clearPrefix
  split
  · exact hfound
  · exact hfound.clear _

/-- A slot of the table without the word that the search returns. -/
theorem clearPrefix_eq (key : List α) (table : Fin n → List α) (i : Fin n) :
    clearPrefix key table i = if firstPrefix key table = some i then [] else table i := by
  unfold clearPrefix
  cases hfound : firstPrefix key table with
  | none => simp
  | some old =>
    by_cases hi : i = old
    · simp [hi]
    · simp [update_of_ne hi, Ne.symm hi]

/-- A key is put into a slot: exactly when every search still returns the slot of its word. -/
theorem found_put_iff (hfound : Found table) (hkey : key ≠ []) (target : Fin n) :
    Found (update (clearPrefix key table) target key) ↔
      (∀ j, target < j → table j <+: key → table j = [] ∨ table j = key) ∧
        ∀ j k, j < k → k < target → key <+: table j → ¬ key <+: table k := by
  rw [found_iff]
  constructor
  · intro hput
    constructor
    · intro j hj hstarts
      by_contra hproper
      rw [not_or] at hproper
      have hold : firstPrefix key table ≠ some j := by
        intro hold
        exact hproper.2 (hstarts.eq_of_length_le (firstPrefix_eq_some_iff.mp hold).1.length_le)
      have hword : update (clearPrefix key table) target key j = table j := by
        rw [update_of_ne hj.ne', clearPrefix_eq, if_neg hold]
      refine hput j target (by rw [hword]; exact hproper.1) hj ?_
      rw [hword, update_self]
      exact hstarts
    · intro j k hjk hk hj hstarts
      have hold : firstPrefix key table ≠ some k := by
        intro hold
        exact (firstPrefix_eq_some_iff.mp hold).2 j hjk hj
      refine hput target k (by rw [update_self]; exact hkey) hk ?_
      rw [update_self, update_of_ne hk.ne, clearPrefix_eq, if_neg hold]
      exact hstarts
  · rintro ⟨hlater, hearlier⟩ i j hi hj
    by_cases hit : i = target
    · subst hit
      rw [update_self, update_of_ne hj.ne, clearPrefix_eq]
      intro hstarts
      split at hstarts
      · exact hkey (prefix_nil.mp hstarts)
      · rename_i hold
        -- The search returns an earlier slot, and `j` is a second one.
        rw [firstPrefix_eq_some_iff] at hold
        push Not at hold
        obtain ⟨k, hk, hfirst⟩ := hold hstarts
        exact hearlier k j hk hj hfirst hstarts
    · rw [update_of_ne hit] at hi ⊢
      by_cases hjt : j = target
      · subst hjt
        rw [update_self]
        intro hstarts
        rw [clearPrefix_eq] at hi hstarts
        split at hi
        · exact hi rfl
        · rename_i hold
          rw [if_neg hold] at hstarts
          obtain hempty | hsame := hlater i hj hstarts
          · exact hi hempty
          · rw [← hsame] at hold
            exact hold (hfound i hi)
      · rw [update_of_ne hjt]
        exact found_iff.mp (hfound.clearPrefix key) i j hi hj

end ZipGateway.Lib
