import Mathlib.Data.List.Chain
import Mathlib.Data.List.Nodup

/-!
# Doubly linked rings kept in an array

The elements of a ring are indices; two tables give the successor and the predecessor of each. A
list of indices, starting at the head, is the ring of the tables when it has no repetition and every
two neighbours, the last element and the head included, are linked in both directions (`IsRing`).
The three operations are those of a list with a head: `single` starts a ring, `remove` takes an
element out, `insertHead` puts a new element before the head. Each has one lemma that says what it
does to the list, and `prev_head` says that the predecessor of the head is the last element.
-/

set_option autoImplicit false

namespace ZipGateway.Lib

open Function List

variable {Index : Type*}

/-- The tables of a doubly linked ring. -/
structure Links (Index : Type*) where
  next : Index → Index
  prev : Index → Index

namespace Links

/-- Two indices are linked in both directions. -/
def Linked (links : Links Index) (first second : Index) : Prop :=
  links.next first = second ∧ links.prev second = first

/-- The list is the ring of the tables, from its head on. -/
def IsRing (links : Links Index) : List Index → Prop
  | [] => True
  | head :: rest =>
    (head :: rest).Nodup ∧ List.IsChain links.Linked ((head :: rest) ++ [head])

/-- Link an index to itself. -/
def single [DecidableEq Index] (links : Links Index) (element : Index) : Links Index where
  next := update links.next element element
  prev := update links.prev element element

/-- Link the neighbours of an index to each other. -/
def remove [DecidableEq Index] (links : Links Index) (element : Index) : Links Index where
  next := update links.next (links.prev element) (links.next element)
  prev := update links.prev (links.next element) (links.prev element)

/-- Put an index between the last element and the head. -/
def insertHead [DecidableEq Index] (links : Links Index) (head element : Index) : Links Index where
  next := update (update links.next element head) (links.prev head) element
  prev := update (update links.prev element (links.prev head)) head element

section Ring

variable {links : Links Index} {head : Index} {rest : List Index}

theorem IsRing.linked_last (hring : links.IsRing (head :: rest)) :
    links.Linked ((head :: rest).getLast (cons_ne_nil _ _)) head := by
  obtain ⟨-, -, hlast⟩ := isChain_append.mp hring.2
  exact hlast _ (List.getLast?_eq_getLast_of_ne_nil (cons_ne_nil _ _)) _ rfl

/-- The predecessor of the head is the last element. -/
theorem IsRing.prev_head (hring : links.IsRing (head :: rest)) :
    links.prev head = (head :: rest).getLast (cons_ne_nil _ _) :=
  hring.linked_last.2

variable [DecidableEq Index]

theorem isRing_single (links : Links Index) (element : Index) :
    (links.single element).IsRing [element] := by
  refine ⟨nodup_singleton element, ?_⟩
  refine isChain_append.mpr ⟨isChain_singleton _, isChain_singleton _, ?_⟩
  rintro first hfirst second hsecond
  obtain rfl : element = first := Option.some.inj hfirst
  obtain rfl : element = second := Option.some.inj hsecond
  exact ⟨update_self .., update_self ..⟩

/-- An index outside the ring becomes its head. -/
theorem IsRing.insertHead (hring : links.IsRing (head :: rest)) {element : Index}
    (hnew : element ∉ head :: rest) :
    (links.insertHead head element).IsRing (element :: head :: rest) := by
  obtain ⟨hnext, hprev⟩ := hring.linked_last
  set last := (head :: rest).getLast (cons_ne_nil _ _) with hlast
  have hlastMem : last ∈ head :: rest := getLast_mem _
  have hlastNe : last ≠ element := fun h ↦ hnew (h ▸ hlastMem)
  have hheadNe : head ≠ element := fun h ↦ hnew (h ▸ mem_cons_self)
  have hmembers : List.IsChain (links.insertHead head element).Linked (head :: rest) := by
    refine (isChain_append.mp hring.2).1.imp_of_mem_tail_imp ?_
    rintro first second hfirst hsecond ⟨hforth, hback⟩
    have hsecondHead : second ≠ head := fun h ↦ (nodup_cons.mp hring.1).1 (h ▸ hsecond)
    -- The last element has no successor but the head, which is nobody's successor inside the list.
    have hfirstLast : first ≠ links.prev head := by
      rintro rfl
      rw [hprev, hnext] at hforth
      exact hsecondHead hforth.symm
    have hfirstNe : first ≠ element := fun h ↦ hnew (h ▸ hfirst)
    have hsecondNe : second ≠ element :=
      fun h ↦ hnew (h ▸ mem_cons_of_mem _ hsecond)
    constructor
    · show update (update links.next element head) _ _ first = second
      rw [update_of_ne hfirstLast, update_of_ne hfirstNe, hforth]
    · show update (update links.prev element _) _ _ second = first
      rw [update_of_ne hsecondHead, update_of_ne hsecondNe, hback]
  have hfront : (links.insertHead head element).Linked element head := by
    constructor
    · show update (update links.next element head) _ _ element = head
      rw [hprev, update_of_ne hlastNe.symm, update_self]
    · exact update_self ..
  have hclose : (links.insertHead head element).Linked last element := by
    constructor
    · show update (update links.next element head) _ _ last = element
      rw [hprev, update_self]
    · show update (update links.prev element _) _ _ element = last
      rw [update_of_ne hheadNe.symm, update_self, hprev]
  refine ⟨nodup_cons.mpr ⟨hnew, hring.1⟩, ?_⟩
  rw [cons_append]
  refine isChain_cons.mpr ⟨?_, isChain_append.mpr ⟨hmembers, isChain_singleton _, ?_⟩⟩
  · intro second hsecond
    obtain rfl : head = second := Option.some.inj hsecond
    exact hfront
  · intro first hfirst second hsecond
    obtain rfl : last = first :=
      Option.some.inj ((List.getLast?_eq_getLast_of_ne_nil (cons_ne_nil _ _)).symm.trans hfirst)
    obtain rfl : element = second := Option.some.inj hsecond
    exact hclose

/-- Linking the neighbours of an element of a chain to each other takes the element out. -/
theorem isChain_remove {element first last : Index} {before after : List Index}
    (hchain : List.IsChain links.Linked ((before ++ [first]) ++ element :: last :: after))
    (hbefore : element ∉ before ++ [first]) (hafter : element ∉ last :: after) :
    List.IsChain (links.remove element).Linked ((before ++ [first]) ++ last :: after) := by
  obtain ⟨hleft, hright, hjoin⟩ := isChain_append.mp hchain
  obtain ⟨hnext, hrest⟩ := isChain_cons.mp hright
  obtain ⟨-, hprev⟩ : links.Linked first element :=
    hjoin first (by simp) element rfl
  obtain ⟨hforth, hback⟩ : links.Linked element last := hnext last rfl
  have hfirst : links.next first = element := (hjoin first (by simp) element rfl).1
  -- No pair of the remaining chains uses a link that is changed: it would lead to the element.
  have hkeep {part : List Index} (hpart : List.IsChain links.Linked part)
      (hout : element ∉ part) : List.IsChain (links.remove element).Linked part := by
    refine hpart.imp_of_mem_tail_imp ?_
    rintro left right hmem hmem' ⟨hlink, hlink'⟩
    constructor
    · refine (update_of_ne ?_ _ _).trans hlink
      rintro rfl
      rw [hprev, hfirst] at hlink
      exact hout (hlink ▸ mem_of_mem_tail hmem')
    · refine (update_of_ne ?_ _ _).trans hlink'
      rintro rfl
      rw [hforth, hback] at hlink'
      exact hout (hlink' ▸ hmem)
  refine isChain_append.mpr ⟨hkeep hleft hbefore, hkeep hrest hafter, ?_⟩
  intro left hleftLast right hrightHead
  obtain rfl : first = left := by simpa using hleftLast
  obtain rfl : last = right := Option.some.inj hrightHead
  constructor
  · show update links.next (links.prev element) (links.next element) first = last
    rw [hprev, hforth, update_self]
  · show update links.prev (links.next element) (links.prev element) last = first
    rw [hprev, hforth, update_self]

/-- An element other than the head is taken out of the ring. -/
theorem IsRing.remove (hring : links.IsRing (head :: rest)) {element : Index}
    (hmem : element ∈ rest) : (links.remove element).IsRing (head :: rest.erase element) := by
  obtain ⟨hnodup, hchain⟩ := hring
  obtain ⟨hheadRest, hrest⟩ := nodup_cons.mp hnodup
  have hne : head ≠ element := fun h ↦ hheadRest (h ▸ hmem)
  refine ⟨nodup_cons.mpr ⟨fun h ↦ hheadRest (mem_of_mem_erase h), hrest.erase _⟩, ?_⟩
  obtain ⟨before, after, hnot, rfl, herase⟩ := exists_erase_eq hmem
  rw [herase]
  have hafter : element ∉ after := by
    have := (nodup_append.mp hrest).2.1
    exact (nodup_cons.mp this).1
  have hleft : head :: before = (head :: before).dropLast ++
      [(head :: before).getLast (cons_ne_nil _ _)] :=
    (dropLast_append_getLast _).symm
  have hleftNot : element ∉ head :: before := by
    rw [mem_cons, not_or]
    exact ⟨hne.symm, hnot⟩
  have hrightNot : element ∉ after ++ [head] := by
    rw [mem_append, mem_singleton, not_or]
    exact ⟨hafter, hne.symm⟩
  obtain ⟨last, tail, hright⟩ : ∃ last tail, after ++ [head] = last :: tail :=
    exists_cons_of_ne_nil (by simp)
  have hchain' : List.IsChain links.Linked ((head :: before) ++ element :: (after ++ [head])) := by
    rw [cons_append, ← cons_append] at hchain
    simpa only [append_assoc, cons_append] using hchain
  have hgoal : (head :: (before ++ after)) ++ [head] = (head :: before) ++ (after ++ [head]) := by
    simp only [append_assoc, cons_append]
  rw [hgoal, hright, hleft]
  rw [hright, hleft] at hchain'
  exact isChain_remove hchain' (hleft ▸ hleftNot) (hright ▸ hrightNot)

end Ring

end Links

end ZipGateway.Lib
