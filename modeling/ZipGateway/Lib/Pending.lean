import Mathlib.Data.List.Perm.Basic
import Mathlib.Data.List.Nodup

/-!
# Lists of pending reports

A pending report is a pair of a key and a value, and the report that arrives is one of the list, by
its position. When the keys are distinct, the report that arrives is the only one with its key, and
the list without it has the reports with the other keys (`mem_eraseIdx_of_nodup_keys`).
-/

set_option autoImplicit false

namespace ZipGateway.Lib

open List

variable {Key Value : Type*} {pending : List (Key × Value)} {k : ℕ} {key : Key} {value : Value}

/-- The report that arrives and the remaining ones are the pending ones. -/
theorem perm_cons_eraseIdx {Item : Type*} {items : List Item} {item : Item} {k : ℕ}
    (hitem : items[k]? = some item) : (item :: items.eraseIdx k).Perm items := by
  obtain ⟨hk, rfl⟩ := List.getElem?_eq_some_iff.mp hitem
  exact getElem_cons_eraseIdx_perm hk

theorem nodup_keys_eraseIdx (hnodup : (pending.map Prod.fst).Nodup)
    (hreport : pending[k]? = some (key, value)) :
    ((pending.eraseIdx k).map Prod.fst).Nodup := by
  have hcons := ((perm_cons_eraseIdx hreport).map Prod.fst).nodup_iff.mpr hnodup
  rw [map_cons] at hcons
  exact hcons.of_cons

/-- What is left after a report has arrived: the reports with another key. -/
theorem mem_eraseIdx_of_nodup_keys (hnodup : (pending.map Prod.fst).Nodup)
    (hreport : pending[k]? = some (key, value)) {report : Key × Value} :
    report ∈ pending.eraseIdx k ↔ report ∈ pending ∧ report.1 ≠ key := by
  have hperm := perm_cons_eraseIdx hreport
  have hcons := (hperm.map Prod.fst).nodup_iff.mpr hnodup
  rw [map_cons, nodup_cons] at hcons
  rw [← hperm.mem_iff, mem_cons]
  constructor
  · intro hmem
    refine ⟨Or.inr hmem, fun hkey ↦ hcons.1 ?_⟩
    exact mem_map.mpr ⟨report, hmem, hkey⟩
  · rintro ⟨rfl | hmem, hkey⟩
    · exact absurd rfl hkey
    · exact hmem

end ZipGateway.Lib
