import ZipGateway.Lib.Block

/-!
# The ciphers of Security 2

The models of `ccm.c`, `ctr_drbg.c`, `aes_cmac.c`, `nextnonce.c` and `kderiv.c` under
`src/libs2/crypto`, over a block cipher that is a parameter. The parameters of the counter mode with
authentication are the ones it is compiled with: a length field of two bytes, a nonce of thirteen
bytes and a tag of eight.

The only property of these functions that the protocol rests on is `ccmDecryptAndAuth_encrypt`:
decryption with the same key, nonce and additional data gives the plaintext back.
-/

set_option autoImplicit false

namespace ZipGateway.SecurityS2

open Lib

/-! ### Counter mode with authentication -/

/-- `AUTH_TAG_LEN`, the number of bytes of a tag. -/
def authTagLen : ℕ := 8

/-- The octets of a 16-bit length or counter. -/
def octets (n : ℕ) : List UInt8 := [UInt8.ofNat (n / 256), UInt8.ofNat n]

/-- `format_b0`: the first block of the authentication code of a text of `len` bytes. -/
def formatB0 (nonce : Block) (len : ℕ) : Block :=
  padBlock ([0x40 ||| 0x18 ||| 0x01] ++ nonce.toList.take 13 ++ octets len)

/-- `format_aad`: the blocks of the additional data, below 65280 bytes of them. -/
def formatAad (aad : List UInt8) : List Block :=
  padBlock ([0, UInt8.ofNat aad.length] ++ aad.take 14) :: toBlocks (aad.drop 14)

/-- The counter block `i` of `encrypt_or_decrypt`. -/
def ctrBlock (nonce : Block) (i : ℕ) : Block :=
  padBlock ([0x01] ++ nonce.toList.take 13 ++ octets i)

/-- `encrypt_or_decrypt` on the data: block `i` is added to counter block `i + 1`. -/
def ccmStream (encrypt : Block → Block) (nonce : Block) (data : List UInt8) : List UInt8 :=
  xorStream (fun i ↦ encrypt (ctrBlock nonce (i + 1))) data

/-- The tag of a plaintext: the authentication code, added to the encrypted counter block 0. -/
def ccmTag (encrypt : Block → Block) (nonce : Block) (aad plain : List UInt8) : List UInt8 :=
  let mac := cbcChain encrypt (encrypt (formatB0 nonce plain.length))
    (formatAad aad ++ toBlocks plain)
  (xorBlock (encrypt (ctrBlock nonce 0)) mac).toList.take authTagLen

/-- `CCM_encrypt_and_auth`: the ciphertext with its tag. -/
def ccmEncryptAndAuth (encrypt : Block → Block) (nonce : Block) (aad plain : List UInt8) :
    List UInt8 :=
  ccmStream encrypt nonce plain ++ ccmTag encrypt nonce aad plain

/-- `CCM_decrypt_and_auth`: the plaintext, empty when the source returns 0. -/
def ccmDecryptAndAuth (encrypt : Block → Block) (nonce : Block) (aad cipher : List UInt8) :
    List UInt8 :=
  if cipher.length < authTagLen then []
  else
    let plain := ccmStream encrypt nonce (cipher.take (cipher.length - authTagLen))
    if ccmTag encrypt nonce aad plain = cipher.drop (cipher.length - authTagLen) then plain else []

section Ccm

variable (encrypt : Block → Block) (nonce : Block) (aad plain : List UInt8)

@[simp]
theorem length_ccmStream : (ccmStream encrypt nonce plain).length = plain.length := by
  simp [ccmStream]

@[simp]
theorem ccmStream_ccmStream : ccmStream encrypt nonce (ccmStream encrypt nonce plain) = plain := by
  simp [ccmStream]

@[simp]
theorem length_ccmTag : (ccmTag encrypt nonce aad plain).length = authTagLen := by
  simp [ccmTag, authTagLen]

@[simp]
theorem length_ccmEncryptAndAuth :
    (ccmEncryptAndAuth encrypt nonce aad plain).length = plain.length + authTagLen := by
  simp [ccmEncryptAndAuth]

/-- Decryption with the key, the nonce and the additional data of the encryption gives the plaintext
back. -/
theorem ccmDecryptAndAuth_encrypt :
    ccmDecryptAndAuth encrypt nonce aad (ccmEncryptAndAuth encrypt nonce aad plain) = plain := by
  have htake : (ccmEncryptAndAuth encrypt nonce aad plain).take plain.length
      = ccmStream encrypt nonce plain := by
    simp [ccmEncryptAndAuth]
  have hdrop : (ccmEncryptAndAuth encrypt nonce aad plain).drop plain.length
      = ccmTag encrypt nonce aad plain := by
    simp [ccmEncryptAndAuth]
  simp [ccmDecryptAndAuth, htake, hdrop]

end Ccm

/-! ### The deterministic random generator -/

/-- `CTR_DRBG_CTX`. -/
structure Drbg where
  df : UInt8
  v : Block
  k : Block
deriving DecidableEq

/-- Thirty-two bytes, `SEEDLEN`: seeds and the personalization string of a key. -/
abbrev Seed := Block × Block

/-- Addition of one to a number given by its bytes, the least significant one first. -/
def incrementBytes : List UInt8 → List UInt8
  | [] => []
  | byte :: rest => if byte + 1 = 0 then 0 :: incrementBytes rest else (byte + 1) :: rest

/-- `AES_CTR_DRBG_Increment`. -/
def aesCtrDrbgIncrement (block : Block) : Block :=
  padBlock (incrementBytes block.toList.reverse).reverse

/-- `AES_CTR_DRBG_Update`. -/
def aesCtrDrbgUpdate (aes : BlockCipher) (data : Seed) (ctx : Drbg) : Drbg :=
  let first := aesCtrDrbgIncrement ctx.v
  let second := aesCtrDrbgIncrement first
  { ctx with
    k := xorBlock (aes ctx.k first) data.1
    v := xorBlock (aes ctx.k second) data.2 }

/-- `AES_CTR_DRBG_Instantiate`. -/
def aesCtrDrbgInstantiate (aes : BlockCipher) (entropy personal : Seed) : Drbg :=
  aesCtrDrbgUpdate aes (xorBlock entropy.1 personal.1, xorBlock entropy.2 personal.2)
    ⟨0, zeroBlock, zeroBlock⟩

/-- `AES_CTR_DRBG_Generate`, with the `RANDLEN` of 16 bytes. -/
def aesCtrDrbgGenerate (aes : BlockCipher) (ctx : Drbg) : Block × Drbg :=
  let next := aesCtrDrbgIncrement ctx.v
  (aes ctx.k next, aesCtrDrbgUpdate aes (zeroBlock, zeroBlock) { ctx with v := next })

/-! ### Message authentication code -/

/-- `leftshift_onebit`. -/
def leftshiftOnebit (input : Block) : Block :=
  Vector.ofFn fun i ↦ (input.get i <<< 1) ||| (input.toList.getD (i + 1) 0 >>> 7)

/-- A subkey of `generate_subkey` from the block before it. -/
def nextSubkey (block : Block) : Block :=
  if block.get 0 &&& 0x80 = 0 then leftshiftOnebit block
  else xorBlock (leftshiftOnebit block) (padBlock (List.replicate 15 0 ++ [0x87]))

/-- `aes_cmac_calculate`. -/
def aesCmacCalculate (aes : BlockCipher) (key : Block) (message : List UInt8) : Block :=
  let k1 := nextSubkey (aes key zeroBlock)
  let k2 := nextSubkey k1
  let rounds := max 1 ((message.length + 15) / 16)
  let rest := message.drop (16 * (rounds - 1))
  let last := if message.length ≠ 0 ∧ message.length % 16 = 0 then xorBlock (padBlock rest) k1
    else xorBlock (padBlock (rest ++ [0x80])) k2
  cbcChain (aes key) zeroBlock
    ((List.range (rounds - 1)).map (fun i ↦ padBlock (message.drop (16 * i))) ++ [last])

/-! ### Nonces and keys -/

/-- `ckdf_nonce0_expand`. -/
def ckdfNonce0Expand (aes : BlockCipher) (prk : Block) : Seed :=
  let constantEi := List.replicate 15 0x88
  let t1 := aesCmacCalculate aes prk (constantEi ++ [0] ++ constantEi ++ [1])
  (t1, aesCmacCalculate aes prk (t1.toList ++ constantEi ++ [2]))

/-- `next_nonce_instantiate`. -/
def nextNonceInstantiate (aes : BlockCipher) (eiSender eiReceiver : Block) (kNonce : Seed) : Drbg :=
  let x := aesCmacCalculate aes (Vector.replicate 16 0x26) (eiSender.toList ++ eiReceiver.toList)
  aesCtrDrbgInstantiate aes (ckdfNonce0Expand aes x) kNonce

/-- `next_nonce_generate`. -/
def nextNonceGenerate (aes : BlockCipher) (ctx : Drbg) : Block × Drbg := aesCtrDrbgGenerate aes ctx

/-- `struct sec_group`: the keys a network key is expanded to. -/
structure SecGroup where
  encKey : Block
  mpanKey : Block
  nonceKey : Seed
deriving DecidableEq

/-- `generic_expand`. -/
def genericExpand (aes : BlockCipher) (networkKey : Block) (constant : UInt8) : SecGroup :=
  let constantNk := List.replicate 15 constant
  let ccmKey := aesCmacCalculate aes networkKey (constantNk ++ [1])
  let first := aesCmacCalculate aes networkKey (ccmKey.toList ++ constantNk ++ [2])
  let second := aesCmacCalculate aes networkKey (first.toList ++ constantNk ++ [3])
  ⟨ccmKey, aesCmacCalculate aes networkKey (second.toList ++ constantNk ++ [4]), (first, second)⟩

/-- `networkkey_expand`. -/
def networkkeyExpand (aes : BlockCipher) (networkKey : Block) : SecGroup :=
  genericExpand aes networkKey 0x55

/-- `tempkey_expand`. -/
def tempkeyExpand (aes : BlockCipher) (prk : Block) : SecGroup := genericExpand aes prk 0x88

end ZipGateway.SecurityS2
