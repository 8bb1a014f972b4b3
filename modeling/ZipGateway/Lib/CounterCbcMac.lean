import ZipGateway.Lib.Block

/-!
# Counter mode with a chained authentication code

The generation-encryption process of the CCM mode, with the counter generation and the formatting of
the standard that defines it: the authentication code is chained over the first block, the blocks of
the associated data with their length in front, and the blocks of the payload; it is encrypted with
the counter block 0, and the payload with the ones behind it.
-/

set_option autoImplicit false

namespace ZipGateway.Lib.CounterCbcMac

open List

/-- The octet lengths of the length of the payload and of the tag. -/
structure Parameters where
  q : ℕ
  t : ℕ

/-- The octets of a number, the most significant one first. -/
def octetString (x m : ℕ) :
    List UInt8 := (List.range m).reverse.map fun i ↦ UInt8.ofNat (x / 256 ^ i)

/-- The encoding of the length of the associated data. -/
def encodedLength (a : ℕ) : List UInt8 :=
  if a < 65280 then octetString a 2
  else if a < 4294967296 then [0xFF, 0xFE] ++ octetString a 4
  else [0xFF, 0xFF] ++ octetString a 8

/-- The blocks of the associated data. There are none of them for empty data. -/
def associatedBlocks (associated : List UInt8) : List Block :=
  if associated = [] then [] else toBlocks (encodedLength associated.length ++ associated)

namespace Parameters

variable (p : Parameters)

/-- The flags of the first block. -/
def flags (hasAssociated : Bool) : UInt8 :=
  UInt8.ofNat ((if hasAssociated then 64 else 0) + 8 * ((p.t - 2) / 2) + (p.q - 1))

def firstBlock (nonce : List UInt8) (hasAssociated : Bool) (payloadLength : ℕ) : Block :=
  padBlock ([p.flags hasAssociated] ++ nonce ++ octetString payloadLength p.q)

def counterBlock (nonce : List UInt8) (i : ℕ) : Block :=
  padBlock ([UInt8.ofNat (p.q - 1)] ++ nonce ++ octetString i p.q)

def authenticationCode (cipher : Block → Block) (nonce associated payload : List UInt8) : Block :=
  cbcChain cipher (cipher (p.firstBlock nonce (decide (associated ≠ [])) payload.length))
    (associatedBlocks associated ++ toBlocks payload)

/-- The ciphertext and the tag. -/
def generationEncryption (cipher : Block → Block) (nonce associated payload : List UInt8) :
    List UInt8 :=
  xorStream (fun i ↦ cipher (p.counterBlock nonce (i + 1))) payload ++
    List.zipWith (· ^^^ ·) ((p.authenticationCode cipher nonce associated payload).toList.take p.t)
      ((cipher (p.counterBlock nonce 0)).toList.take p.t)

end Parameters

/-! ### Blocks and chains -/

/-- The blocks of a byte string that is not empty. -/
theorem toBlocks_of_ne_nil {bytes : List UInt8} (hne : bytes ≠ []) :
    toBlocks bytes = padBlock bytes :: toBlocks (bytes.drop 16) := by
  have hpos := length_pos_of_ne_nil hne
  unfold toBlocks
  have hcount : (bytes.length + 15) / 16 = ((bytes.drop 16).length + 15) / 16 + 1 := by
    rw [length_drop]
    omega
  rw [hcount, range_succ_eq_map, map_cons, map_map]
  refine congrArg₂ List.cons rfl (map_congr_left fun i _ ↦ ?_)
  change padBlock (bytes.drop (16 * (i + 1))) = padBlock ((bytes.drop 16).drop (16 * i))
  rw [drop_drop, Nat.mul_succ, Nat.add_comm]

@[simp]
theorem xorBlock_get (left right : Block) (i : Fin 16) :
    (xorBlock left right).get i = left.get i ^^^ right.get i :=
  Vector.getElem_zipWith _

/-- Chains of the identity over the same blocks keep a difference. -/
theorem cbcChain_id_get_inj (blocks : List Block) {start other : Block} {i : Fin 16}
    (heq : (cbcChain id start blocks).get i = (cbcChain id other blocks).get i) :
    start.get i = other.get i := by
  induction blocks generalizing start other with
  | nil => exact heq
  | cons block rest ih =>
    have hnext : (xorBlock start block).get i = (xorBlock other block).get i := ih heq
    rw [xorBlock_get, xorBlock_get] at hnext
    exact (UInt8.xor_left_inj (block.get i)).mp hnext

end ZipGateway.Lib.CounterCbcMac
