import Mathlib.Data.Set.Card
import ZipGateway.Lib.SlotTable

/-!
# Tables of slots that hold a map

`content` says what a slot of a table holds: nothing, or a key and a value.
`Holds content table map` says that no key is in two slots and that the slots together are the
partial map `map`. The rules for the operations of such a table are `Holds.same`, `Holds.insert`,
`Holds.replace` and `Holds.erase`; each of them is about one slot. A search of the table for a key
is a lookup of the map (`Holds.firstSlot_key`); the pairs in the slots (`contents`) have distinct
keys and are those of the map; `Holds.ncard_keys` counts them.
-/

set_option autoImplicit false

namespace ZipGateway.Lib

open Function List

variable {Entry Key Value : Type*} {n : ℕ}

abbrev PartialMap (Key Value : Type*) := Key → Option Value

def PartialMap.keys (map : PartialMap Key Value) : Set Key := { key | map key ≠ none }

/-- What the slots of a table hold, in their order. -/
def contents (content : Entry → Option (Key × Value)) (table : Fin n → Entry) :
    List (Key × Value) :=
  (List.finRange n).filterMap fun i ↦ content (table i)

/-- Fewer pairs than slots: a slot is empty. -/
theorem length_contents_lt_iff {content : Entry → Option (Key × Value)} {table : Fin n → Entry} :
    (contents content table).length < n ↔ ∃ i, content (table i) = none := by
  have hle : (contents content table).length ≤ n := by
    have hfilter := length_filterMap_le (fun i ↦ content (table i)) (List.finRange n)
    rwa [length_finRange] at hfilter
  have hfull : (contents content table).length = n ↔ ∀ i, (content (table i)).isSome := by
    rw [contents, length_filterMap_eq_countP]
    have hall := countP_eq_length (l := List.finRange n) (p := fun i ↦ (content (table i)).isSome)
    rw [length_finRange] at hall
    simpa using hall
  rw [lt_iff_le_and_ne, and_iff_right hle, Ne, hfull]
  simp

/-- The slots of a table hold a partial map. -/
structure Holds (content : Entry → Option (Key × Value)) (table : Fin n → Entry)
    (map : PartialMap Key Value) : Prop where
  unique : ∀ i j key value value', content (table i) = some (key, value) →
    content (table j) = some (key, value') → i = j
  lookup : ∀ key value, map key = some value ↔ ∃ i, content (table i) = some (key, value)

namespace Holds

variable {content : Entry → Option (Key × Value)} {table : Fin n → Entry}
  {map : PartialMap Key Value}

/-- A table of empty slots holds the empty map. -/
theorem empty (hempty : ∀ i, content (table i) = none) : Holds content table fun _ ↦ none where
  unique i _ _ _ _ hi := absurd ((hempty i).symm.trans hi) (by simp)
  lookup key value := by simp [hempty]

theorem of_slot (hholds : Holds content table map) {i : Fin n} {key : Key} {value : Value}
    (hslot : content (table i) = some (key, value)) : map key = some value :=
  (hholds.lookup key value).mpr ⟨i, hslot⟩

/-- A key that the map does not have is in no slot. -/
theorem not_slot (hholds : Holds content table map) {key : Key} (hnone : map key = none)
    (i : Fin n) (value : Value) : content (table i) ≠ some (key, value) := by
  intro hslot
  rw [hholds.of_slot hslot] at hnone
  exact absurd hnone (by simp)

/-- A slot is changed, and holds what it held. -/
theorem same (hholds : Holds content table map) (i : Fin n) {entry : Entry}
    (hentry : content entry = content (table i)) :
    Holds content (update table i entry) map := by
  have hcontent : ∀ j, content (update table i entry j) = content (table j) := by
    intro j
    by_cases hj : j = i
    · rw [hj, update_self, hentry]
    · rw [update_of_ne hj]
  constructor
  · intro j k key value value' hj hk
    rw [hcontent] at hj hk
    exact hholds.unique j k key value value' hj hk
  · intro key value
    simp only [hcontent]
    exact hholds.lookup key value

variable [DecidableEq Key]

/-- A slot gets a key and a value. It was empty and the key is new, or it had the key. -/
private theorem put (hholds : Holds content table map) (i : Fin n) {key : Key} {value : Value}
    {entry : Entry} (hentry : content entry = some (key, value))
    (hold : ∀ other value', content (table i) = some (other, value') → other = key)
    (hother : ∀ j value', j ≠ i → content (table j) ≠ some (key, value')) :
    Holds content (update table i entry) (update map key (some value)) := by
  constructor
  · intro j k key' first second hj hk
    by_cases hji : j = i
    · subst hji
      rw [update_self, hentry] at hj
      obtain ⟨rfl, rfl⟩ := Prod.mk.inj (Option.some.inj hj)
      by_contra hne
      rw [update_of_ne (Ne.symm hne)] at hk
      exact hother k second (Ne.symm hne) hk
    · rw [update_of_ne hji] at hj
      by_cases hki : k = i
      · subst hki
        rw [update_self, hentry] at hk
        obtain ⟨rfl, rfl⟩ := Prod.mk.inj (Option.some.inj hk)
        exact absurd hj (hother j first hji)
      · rw [update_of_ne hki] at hk
        exact hholds.unique j k key' first second hj hk
  · intro key' value'
    by_cases hkey : key' = key
    · subst hkey
      rw [update_self]
      constructor
      · intro heq
        exact ⟨i, by rw [update_self, hentry, Option.some.inj heq]⟩
      · rintro ⟨j, hj⟩
        by_cases hji : j = i
        · rw [hji, update_self, hentry] at hj
          rw [(Prod.mk.inj (Option.some.inj hj)).2]
        · rw [update_of_ne hji] at hj
          exact absurd hj (hother j value' hji)
    · rw [update_of_ne hkey, hholds.lookup]
      constructor
      · rintro ⟨j, hj⟩
        have hji : j ≠ i := by
          rintro rfl
          exact hkey (hold key' value' hj)
        exact ⟨j, by rwa [update_of_ne hji]⟩
      · rintro ⟨j, hj⟩
        have hji : j ≠ i := by
          rintro rfl
          rw [update_self, hentry] at hj
          exact hkey (Prod.mk.inj (Option.some.inj hj)).1.symm
        rw [update_of_ne hji] at hj
        exact ⟨j, hj⟩

/-- An empty slot gets a key that the map does not have. -/
theorem insert (hholds : Holds content table map) (i : Fin n) {key : Key} {value : Value}
    {entry : Entry} (hempty : content (table i) = none) (hnew : map key = none)
    (hentry : content entry = some (key, value)) :
    Holds content (update table i entry) (update map key (some value)) := by
  refine hholds.put i hentry ?_ ?_
  · intro other value' hslot
    exact absurd (hempty.symm.trans hslot) (by simp)
  · intro j value' _
    exact hholds.not_slot hnew j value'

/-- A slot gets another value for its key. -/
theorem replace (hholds : Holds content table map) (i : Fin n) {key : Key} {value value' : Value}
    {entry : Entry} (hslot : content (table i) = some (key, value))
    (hentry : content entry = some (key, value')) :
    Holds content (update table i entry) (update map key (some value')) := by
  refine hholds.put i hentry ?_ ?_
  · intro other value'' hother
    rw [hslot] at hother
    exact (Prod.mk.inj (Option.some.inj hother)).1.symm
  · intro j value'' hji hj
    exact hji (hholds.unique j i key value'' value hj hslot)

/-- A slot gets empty. -/
theorem erase (hholds : Holds content table map) (i : Fin n) {key : Key} {value : Value}
    {entry : Entry} (hslot : content (table i) = some (key, value))
    (hentry : content entry = none) :
    Holds content (update table i entry) (update map key none) := by
  constructor
  · intro j k key' first second hj hk
    by_cases hji : j = i
    · rw [hji, update_self, hentry] at hj
      exact absurd hj (by simp)
    by_cases hki : k = i
    · rw [hki, update_self, hentry] at hk
      exact absurd hk (by simp)
    rw [update_of_ne hji] at hj
    rw [update_of_ne hki] at hk
    exact hholds.unique j k key' first second hj hk
  · intro key' value'
    have hslots : (∃ j, content (update table i entry j) = some (key', value')) ↔
        ∃ j, j ≠ i ∧ content (table j) = some (key', value') := by
      constructor
      · rintro ⟨j, hj⟩
        have hji : j ≠ i := by
          rintro rfl
          rw [update_self, hentry] at hj
          exact absurd hj (by simp)
        rw [update_of_ne hji] at hj
        exact ⟨j, hji, hj⟩
      · rintro ⟨j, hji, hj⟩
        exact ⟨j, by rwa [update_of_ne hji]⟩
    rw [hslots]
    by_cases hkey : key' = key
    · subst hkey
      rw [update_self]
      constructor
      · exact fun h ↦ absurd h (by simp)
      · rintro ⟨j, hji, hj⟩
        exact absurd (hholds.unique j i key' value' value hj hslot) hji
    · rw [update_of_ne hkey, hholds.lookup]
      constructor
      · rintro ⟨j, hj⟩
        refine ⟨j, ?_, hj⟩
        rintro rfl
        rw [hslot] at hj
        exact hkey (Prod.mk.inj (Option.some.inj hj)).1.symm
      · rintro ⟨j, -, hj⟩
        exact ⟨j, hj⟩

omit [DecidableEq Key] in
/-- The search for a key is a lookup of the map. -/
theorem firstSlot_key (hholds : Holds content table map) {test : Entry → Bool} {key : Key}
    (htest : ∀ i, test (table i) = true ↔ ∃ value, content (table i) = some (key, value)) :
    ((firstSlot test table).bind fun i ↦ content (table i)) = (map key).map fun value ↦
      (key, value) := by
  cases hfound : firstSlot test table with
  | some i =>
    obtain ⟨value, hvalue⟩ := (htest i).mp (firstSlot_some hfound)
    rw [Option.bind_some, hvalue, hholds.of_slot hvalue, Option.map_some]
  | none =>
    cases hmap : map key with
    | none => rfl
    | some value =>
      obtain ⟨i, hi⟩ := (hholds.lookup key value).mp hmap
      have hfalse := firstSlot_none.mp hfound i
      rw [(htest i).mpr ⟨value, hi⟩] at hfalse
      exact absurd hfalse (by simp)

omit [DecidableEq Key] in
theorem mem_contents (hholds : Holds content table map) {key : Key} {value : Value} :
    (key, value) ∈ contents content table ↔ map key = some value := by
  rw [hholds.lookup, contents, mem_filterMap]
  constructor
  · rintro ⟨i, -, hi⟩
    exact ⟨i, hi⟩
  · rintro ⟨i, hi⟩
    exact ⟨i, mem_finRange i, hi⟩

omit [DecidableEq Key] in
theorem finite_keys (hholds : Holds content table map) : map.keys.Finite := by
  apply (finite_toSet ((contents content table).map Prod.fst)).subset
  intro key hkey
  obtain ⟨value, hvalue⟩ := Option.ne_none_iff_exists'.mp hkey
  exact mem_map.mpr ⟨(key, value), hholds.mem_contents.mpr hvalue, rfl⟩

omit [DecidableEq Key] in
/-- The keys of the slots are distinct. -/
theorem nodup_contents (hholds : Holds content table map) :
    ((contents content table).map Prod.fst).Nodup := by
  rw [contents, List.Nodup, pairwise_map, pairwise_filterMap]
  apply (nodup_finRange n).imp
  rintro i j hne ⟨key, value⟩ hi ⟨key', value'⟩ hj heq
  obtain rfl : key = key' := heq
  exact hne (hholds.unique i j key value value' hi hj)

omit [DecidableEq Key] in
/-- As many slots hold a pair with a property as the map has such keys. -/
theorem ncard_keys (hholds : Holds content table map) (good : Key × Value → Bool) :
    { key | ∃ value, map key = some value ∧ good (key, value) = true }.ncard =
      ((contents content table).filter good).length := by
  classical
  have hnodup : (((contents content table).filter good).map Prod.fst).Nodup :=
    hholds.nodup_contents.sublist (filter_sublist.map Prod.fst)
  have hkeys : { key | ∃ value, map key = some value ∧ good (key, value) = true } =
      (((contents content table).filter good).map Prod.fst).toFinset := by
    ext key
    simp [hholds.mem_contents]
  rw [hkeys, Set.ncard_coe_finset, toFinset_card_of_nodup hnodup, length_map]

end Holds

end ZipGateway.Lib
