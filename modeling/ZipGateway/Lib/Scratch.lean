import ZipGateway.Lib.Buffer

/-!
# Buffers that are used for one frame after another

A `Scratch` buffer remembers which of its bytes have been written since the present frame was begun,
and whether a write has ever gone past its end.
-/

set_option autoImplicit false

namespace ZipGateway.Lib

/-- A buffer in which frames are put together. `written` and `inside` are ghost state. -/
structure Scratch where
  buffer : Buffer
  written : ℕ → Bool
  inside : Bool

namespace Scratch

/-- Bytes are written at an offset, with no regard to the end of the buffer. -/
def put (scratch : Scratch) (offset : ℕ) (bytes : List UInt8) : Scratch where
  buffer := scratch.buffer.write offset bytes
  written := fun i ↦ decide (offset ≤ i ∧ i < offset + bytes.length) || scratch.written i
  inside := scratch.inside && decide (offset + bytes.length ≤ scratch.buffer.size)

/-- The byte at an offset. -/
def byte (scratch : Scratch) (offset : ℕ) : UInt8 := scratch.buffer.byte offset

/-- The size of the buffer. -/
def size (scratch : Scratch) : ℕ := scratch.buffer.size

variable {scratch : Scratch} {offset count i : ℕ} {bytes : List UInt8}

@[simp]
theorem size_put : (scratch.put offset bytes).size = scratch.size :=
  rfl

/-- A write stays inside exactly when it ends there. -/
@[simp]
theorem inside_put :
    (scratch.put offset bytes).inside = true ↔
      scratch.inside = true ∧ offset + bytes.length ≤ scratch.size := by
  simp [put, size]

/-- A byte belongs to the frame when it is written, or has been before. -/
theorem written_put :
    (scratch.put offset bytes).written i = true ↔
      (offset ≤ i ∧ i < offset + bytes.length) ∨ scratch.written i = true := by
  simp [put]

/-- A byte that was written. -/
theorem byte_put_of_mem (hstart : offset ≤ i) (hend : i < offset + bytes.length) :
    (scratch.put offset bytes).byte i = bytes.getD (i - offset) 0 :=
  Buffer.byte_write_of_mem hstart hend

/-- A byte in front of what was written. -/
theorem byte_put_of_lt (hstart : i < offset) : (scratch.put offset bytes).byte i = scratch.byte i :=
  Buffer.byte_write_of_lt hstart

/-- A byte behind what was written. -/
theorem byte_put_of_ge (hend : offset + bytes.length ≤ i) :
    (scratch.put offset bytes).byte i = scratch.byte i :=
  Buffer.byte_write_of_ge hend

/-- The first byte that was written. -/
@[simp]
theorem byte_put_self {value : UInt8} : (scratch.put offset (value :: bytes)).byte offset =
    value := by
  have hend : offset < offset + (value :: bytes).length := by simp
  rw [byte_put_of_mem le_rfl hend, Nat.sub_self]
  rfl

end Scratch

end ZipGateway.Lib
