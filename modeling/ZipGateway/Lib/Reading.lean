import Mathlib.Data.List.Basic

/-!
# Programs that read a memory

`Reading` is a program whose only effect is to read the bytes of a memory, together with the
accesses that it makes. An access is confined to the first `n` bytes when it stays below the limit
that it is made with, and this limit does not lie behind them. The structure carries the proof that
the result depends only on what is read, so that a program that is confined to the first `n` bytes
depends only on them (`Reading.run_congr`).
-/

set_option autoImplicit false

namespace ZipGateway.Lib

open List

/-- A read of some bytes, below a limit or not. -/
structure Access where
  start : ℕ
  size : ℕ
  limit : ℕ
deriving DecidableEq

/-- The bytes that are read are below the limit, and the limit is inside the first `n` bytes. -/
def Access.Confined (n : ℕ) (access : Access) : Prop :=
  access.start + access.size ≤ access.limit ∧ access.limit ≤ n

/-- Two memories have the same bytes in the reach of an access. -/
def Access.Agrees (access : Access) (memory other : ℕ → UInt8) : Prop :=
  ∀ i, access.start ≤ i → i < access.start + access.size → memory i = other i

/-- A program that reads a memory: its value and the accesses that it makes. -/
structure Reading (α : Type) where
  run : (ℕ → UInt8) → α × List Access
  isLocal : ∀ memory other, (∀ access ∈ (run memory).2, access.Agrees memory other) →
    run other = run memory

namespace Reading

variable {α β : Type}

/-- The value of a program. -/
def value (x : Reading α) (memory : ℕ → UInt8) : α := (x.run memory).1

/-- All accesses of a program are confined. -/
def Confines (x : Reading α) (memory : ℕ → UInt8) (n : ℕ) : Prop :=
  ∀ access ∈ (x.run memory).2, access.Confined n

/-- A program that reads nothing. -/
protected def pure (a : α) : Reading α := ⟨fun _ ↦ (a, []), fun _ _ _ ↦ rfl⟩

/-- One program after another. -/
protected def bind (x : Reading α) (f : α → Reading β) : Reading β where
  run := fun memory ↦
    let first := x.run memory
    let second := (f first.1).run memory
    (second.1, first.2 ++ second.2)
  isLocal := by
    intro memory other hagree
    have hfirst := x.isLocal memory other fun access haccess ↦
      hagree access (mem_append_left _ haccess)
    have hsecond := (f (x.run memory).1).isLocal memory other fun access haccess ↦
      hagree access (mem_append_right _ haccess)
    dsimp only
    rw [hfirst, hsecond]

instance : Monad Reading where
  pure := Reading.pure
  bind := Reading.bind

def byte (limit i : ℕ) : Reading UInt8 where
  run := fun memory ↦ (memory i, [⟨i, 1, limit⟩])
  isLocal := by
    intro memory other hagree
    rw [hagree ⟨i, 1, limit⟩ mem_cons_self i (Nat.le_refl i) (Nat.lt_succ_self i)]

/-- Some bytes, of which the first ones are kept. -/
def bytesOf (limit start size kept : ℕ) : Reading (List UInt8) where
  run := fun memory ↦
    ((List.range (min kept size)).map fun i ↦ memory (start + i), [⟨start, size, limit⟩])
  isLocal := by
    intro memory other hagree
    refine Prod.ext (map_congr_left fun i hi ↦ ?_) rfl
    have hlt := mem_range.mp hi
    exact (hagree ⟨start, size, limit⟩ mem_cons_self (start + i) (Nat.le_add_right ..)
      (Nat.add_lt_add_left (Nat.lt_of_lt_of_le hlt (Nat.min_le_right ..)) start)).symm

/-- Some bytes. -/
def bytes (limit start size : ℕ) : Reading (List UInt8) := bytesOf limit start size size

/-! ### Values and accesses -/

section Lemmas

variable (memory : ℕ → UInt8) (n : ℕ)

@[simp]
theorem value_pure (a : α) : (pure a : Reading α).value memory = a := rfl

@[simp]
theorem value_bind (x : Reading α) (f : α → Reading β) :
    (x >>= f).value memory = (f (x.value memory)).value memory := rfl

@[simp]
theorem value_byte (limit i : ℕ) : (byte limit i).value memory = memory i := rfl

@[simp]
theorem confines_pure (a : α) : (pure a : Reading α).Confines memory n :=
  fun _ haccess ↦ absurd haccess not_mem_nil

@[simp]
theorem confines_bind (x : Reading α) (f : α → Reading β) :
    (x >>= f).Confines memory n ↔ x.Confines memory n ∧ (f (x.value memory)).Confines memory n :=
  forall_mem_append

@[simp]
theorem confines_byte {i : ℕ} : (byte n i).Confines memory n ↔ i < n :=
  forall_mem_singleton.trans (and_iff_left (Nat.le_refl n))

@[simp]
theorem confines_bytes {start size : ℕ} : (bytes n start size).Confines memory n ↔
    start + size ≤ n :=
  forall_mem_singleton.trans (and_iff_left (Nat.le_refl n))

variable {memory n}

/-- One program after another is confined when the second one is for every value of the first
one. -/
theorem Confines.bind {x : Reading α} {f : α → Reading β} (hx : x.Confines memory n)
    (hf : ∀ a, (f a).Confines memory n) : (x >>= f).Confines memory n :=
  (confines_bind memory n x f).mpr ⟨hx, hf _⟩

/-- One of two programs is confined when both are. -/
theorem Confines.ite {condition : Prop} [Decidable condition] {x y : Reading α}
    (hx : x.Confines memory n)
    (hy : y.Confines memory n) : (if condition then x else y).Confines memory n := by
  split_ifs
  · exact hx
  · exact hy

/-- One of two programs is confined when the one that is taken is. -/
theorem Confines.ite_of {condition : Prop} [Decidable condition] {x y : Reading α}
    (hx : condition → x.Confines memory n) (hy : ¬condition → y.Confines memory n) :
    (if condition then x else y).Confines memory n := by
  split_ifs with hcondition
  · exact hx hcondition
  · exact hy hcondition

end Lemmas

/-- A program that is confined to the bytes that two memories share runs the same in both. -/
theorem run_congr {x : Reading α} {memory other : ℕ → UInt8} {n : ℕ}
    (hconfines : x.Confines memory n)
    (hagree : ∀ i < n, memory i = other i) : x.run other = x.run memory := by
  refine x.isLocal memory other fun access haccess i _ hi ↦ hagree i ?_
  obtain ⟨hbelow, hlimit⟩ := hconfines access haccess
  omega

end Reading

end ZipGateway.Lib
