import Mathlib.Data.Vector.Basic

/-!
# Blocks of sixteen bytes and keystreams

`Block` is the block of a 128-bit cipher. `xorStream` adds a keystream, given block by block, to a
byte string; applied twice with the same keystream it gives the string back
(`xorStream_xorStream`), which is all that the counter and output-feedback modes need of it.
`toBlocks` cuts a byte string into blocks and fills the last one with zeros, the padding of the
message authentication codes, and `cbcChain` chains a cipher over blocks.
-/

set_option autoImplicit false

namespace ZipGateway.Lib

/-- A block of a 128-bit cipher. -/
abbrev Block := Vector UInt8 16

/-- A block cipher under every key: `cipher key block`. -/
abbrev BlockCipher := Block → Block → Block

/-- A block has places. -/
scoped instance neZero_sixteen : @NeZero ℕ Zero.ofOfNat0 16 := Nat.instNeZeroSucc

def zeroBlock : Block := Vector.replicate 16 0

/-- The first sixteen bytes of a string, filled up with zeros. -/
def padBlock (bytes : List UInt8) : Block :=
  Vector.ofFn fun i ↦ bytes.getD i 0

@[simp]
theorem padBlock_toList (block : Block) : padBlock block.toList = block := by
  ext i hi
  simp [padBlock]

/-- The sum of two blocks. -/
def xorBlock (left right : Block) : Block :=
  Vector.zipWith (· ^^^ ·) left right

/-- The byte at position `i` of a keystream given by its blocks. -/
def streamByte (stream : ℕ → Block) (i : ℕ) : UInt8 :=
  (stream (i / 16)).get (Fin.ofNat 16 i)

/-- A byte string with a keystream added to it. -/
def xorStream (stream : ℕ → Block) (bytes : List UInt8) : List UInt8 :=
  bytes.mapIdx fun i byte ↦ byte ^^^ streamByte stream i

@[simp]
theorem length_xorStream (stream : ℕ → Block) (bytes : List UInt8) :
    (xorStream stream bytes).length = bytes.length := by
  simp [xorStream]

/-- Adding the same keystream twice gives the string back. -/
@[simp]
theorem xorStream_xorStream (stream : ℕ → Block) (bytes : List UInt8) :
    xorStream stream (xorStream stream bytes) = bytes := by
  refine List.ext_getElem (by simp) fun i hleft hright ↦ ?_
  simp only [xorStream, List.getElem_mapIdx]
  rw [UInt8.xor_assoc, UInt8.xor_self, UInt8.xor_zero]

/-- The blocks of a byte string, the last one filled up with zeros. -/
def toBlocks (bytes : List UInt8) : List Block :=
  (List.range ((bytes.length + 15) / 16)).map fun i ↦ padBlock (bytes.drop (16 * i))

/-- A cipher chained over blocks, as in a cipher-block-chaining authentication code. -/
def cbcChain (encrypt : Block → Block) (start : Block) (blocks : List Block) : Block :=
  blocks.foldl (fun mac block ↦ encrypt (xorBlock mac block)) start

end ZipGateway.Lib
