import ZipGateway.Lib.CounterCbcMac
import ZipGateway.SecurityS2.Ccm

/-!
# Security 2: counter mode with authentication, compared with the standard

`CCM_encrypt_and_auth` against the generation-encryption process of the standard, for additional
data whose length is encoded in two bytes. `format_aad` writes the low byte of the length only, and
a zero in front of it.
-/

set_option autoImplicit false

namespace ZipGateway.SecurityS2.Ccm

open Lib Lib.CounterCbcMac List

/-- `q`, and `t` as it is built for the gateway. -/
def parameters : Parameters := ⟨2, authTagLen⟩

/-- The nonce is the first thirteen bytes at the pointer. -/
def nonceBytes (nonce : Block) : List UInt8 := nonce.toList.take 13

/-- Additional data whose length `format_aad` encodes in two bytes. -/
structure ShortAad where
  bytes : List UInt8
  pos : 1 ≤ bytes.length
  le : bytes.length ≤ 65279

namespace ShortAad

variable (x : ShortAad)

/-- The memory at the pointer. -/
def memory : ℕ → UInt8 := fun i ↦ x.bytes.getD i 0

/-- The argument `aad_len`. -/
def len : UInt32 := UInt32.ofNat x.bytes.length

@[simp]
theorem toNat_len : x.len.toNat = x.bytes.length := by
  have hle := x.le
  exact Nat.mod_eq_of_lt (by omega)

/-- A part of the memory is a part of the data. -/
theorem readBuf_memory {start size : ℕ} (hle : start + size ≤ x.bytes.length) :
    readBuf x.memory start size = (x.bytes.drop start).take size := by
  refine ext_getElem ?_ fun i hleft hright ↦ ?_
  · rw [length_readBuf, length_take, length_drop]
    omega
  · rw [length_readBuf] at hleft
    have hbound : start + i < x.bytes.length := by omega
    simp [readBuf, memory, getD_eq_getElem?_getD, hbound]

/-- The data behind the first block. -/
def rest : List Block := toBlocks (x.bytes.drop 14)

theorem lengthPrefix_len : lengthPrefix x.len = [0, UInt8.ofNat x.bytes.length] := by
  have hshort : x.len < 65280 := by
    rw [UInt32.lt_iff_toNat_lt, x.toNat_len]
    exact Nat.lt_succ_of_le x.le
  have hbyte : x.len.toUInt8 = UInt8.ofNat x.bytes.length := by
    rw [← UInt8.toNat_inj, UInt32.toNat_toUInt8, x.toNat_len]
    exact UInt8.toNat_ofNat'.symm
  unfold lengthPrefix
  rw [if_pos hshort, hbyte]

theorem firstBytes_len : firstBytes x.len = 14 := by
  unfold firstBytes
  rw [lengthPrefix_len]
  rfl

/-- The first block holds fourteen bytes of the data behind its two bytes of length. -/
theorem padBlock_first (high low : UInt8) :
    padBlock ([high, low] ++ readBuf x.memory 0 (min x.bytes.length 14)) = padBlock
      ([high, low] ++ x.bytes) := by
  have htake : ([high, low] ++ x.bytes).take 16 = [high, low] ++ x.bytes.take 14 := rfl
  have hmin : x.bytes.take (min x.bytes.length 14) = x.bytes.take 14 := by
    rw [Nat.min_comm, ← take_take, take_length]
  have hread : readBuf x.memory 0 (min x.bytes.length 14) = x.bytes.take 14 := by
    rw [readBuf_memory x (by omega), drop_zero, hmin]
  rw [hread, ← htake]
  exact padBlock_take (Nat.le_refl 16) _

/-- The bytes behind the first block. -/
theorem readBuf_rest : readBuf x.memory 14 (x.bytes.length - 14) = x.bytes.drop 14 := by
  by_cases hmore : 14 ≤ x.bytes.length
  · rw [readBuf_memory x (by omega), take_of_length_le]
    rw [length_drop]
  · rw [Nat.sub_eq_zero_of_le (by omega), drop_of_length_le (by omega)]
    rfl

/-- The blocks of the source have the low byte of the length only. -/
theorem aadBlocks_eq :
    aadBlocks x.memory x.len = padBlock ([0, UInt8.ofNat x.bytes.length] ++ x.bytes) :: x.rest := by
  unfold aadBlocks rest
  rw [firstBytes_len, lengthPrefix_len, toNat_len, padBlock_first, readBuf_rest]

/-- The blocks of the standard have both bytes of the length. -/
theorem associatedBlocks_eq :
    associatedBlocks x.bytes =
      padBlock ([UInt8.ofNat (x.bytes.length / 256), UInt8.ofNat x.bytes.length] ++ x.bytes) ::
        x.rest := by
  have hne : x.bytes ≠ [] := ne_nil_of_length_pos x.pos
  have hencoded : encodedLength x.bytes.length =
      [UInt8.ofNat (x.bytes.length / 256), UInt8.ofNat x.bytes.length] := by
    unfold encodedLength
    rw [if_pos (Nat.lt_succ_of_le x.le)]
    simp [octetString, range_succ]
  unfold associatedBlocks rest
  rw [if_neg hne, hencoded, toBlocks_of_ne_nil (by simp)]
  rfl

end ShortAad

/-! ### The first block and the counter blocks -/

section Blocks

variable (nonce : Block)

theorem octets_eq_octetString (n : ℕ) : octets n = octetString n 2 := by
  simp [octets, octetString, range_succ]

theorem ctrBlock_eq_counterBlock (i : ℕ) :
    ctrBlock nonce i = parameters.counterBlock (nonceBytes nonce) i := by
  unfold ctrBlock Parameters.counterBlock
  rw [octets_eq_octetString]
  rfl

theorem formatB0_eq_firstBlock (len : ℕ) :
    formatB0 nonce len = parameters.firstBlock (nonceBytes nonce) true len := by
  unfold formatB0 Parameters.firstBlock
  rw [octets_eq_octetString]
  rfl

end Blocks

/-- A plaintext of up to 65535 bytes. -/
abbrev ShortText := { bytes : List UInt8 // bytes.length ≤ 65535 }

/-! ### The functions that the protocol is modelled with -/

section Protocol

variable (cipher : Block → Block) (nonce : Block) (x : ShortAad)

/-- The tag of the protocol's model. -/
theorem ccmTag_eq_tagOf (text : List UInt8) :
    (authenticationCode cipher nonce x.memory x.len text).map (tagOf cipher nonce) =
      some (ccmTag cipher nonce x.bytes text) := by
  have hsmall : x.len.toNat - firstBytes x.len < 2 ^ 31 := by
    have hle := x.le
    rw [x.toNat_len]
    omega
  have hfirst : padBlock ([0, UInt8.ofNat x.bytes.length] ++ x.bytes.take 14) =
      padBlock ([0, UInt8.ofNat x.bytes.length] ++ x.bytes) :=
    padBlock_take (Nat.le_refl 16) ([0, UInt8.ofNat x.bytes.length] ++ x.bytes)
  unfold authenticationCode ccmTag SecurityS2.formatAad
  rw [formatAad_eq_some cipher _ hsmall, x.aadBlocks_eq, hfirst, Option.map_some, Option.map_some,
    Option.some_inj]
  have hchain (start : Block) (front back : List Block) :
      cbcChain cipher (cbcChain cipher start front) back = cbcChain cipher start (front ++ back) :=
    foldl_append.symm
  rw [hchain]
  unfold tagOf xorBlock
  dsimp only
  rw [Vector.toList_zipWith, take_zipWith]
  rfl

/-- `CCM_encrypt_and_auth` block by block is the encryption of the protocol's model. -/
theorem encryptAndAuth_eq_ccmEncryptAndAuth (text : ShortText) :
    (encryptAndAuth cipher nonce x.memory x.len text.val).map Prod.fst =
      some (ccmEncryptAndAuth cipher nonce x.bytes text.val) := by
  have htag := ccmTag_eq_tagOf cipher nonce x text.val
  rw [encryptAndAuth_eq _ _ _ _ (Nat.lt_succ_of_le text.property)]
  cases hcode : authenticationCode cipher nonce x.memory x.len text.val with
  | none =>
    rw [hcode] at htag
    exact absurd htag (by simp)
  | some code =>
    rw [hcode] at htag
    unfold ccmEncryptAndAuth
    rw [← Option.some_inj.mp htag]
    rfl

end Protocol

/-! ### Conformance to the standard -/

section Conformance

variable (cipher : Block → Block) (nonce : Block) (x : ShortAad) (plain : ShortText)

/-- The code of the source, with the low byte of the length only. -/
theorem authenticationCode_eq :
    authenticationCode cipher nonce x.memory x.len plain.val =
      some (cbcChain cipher
        (cipher (xorBlock (cipher (parameters.firstBlock (nonceBytes nonce) true plain.val.length))
        (padBlock ([0, UInt8.ofNat x.bytes.length] ++ x.bytes))))
          (x.rest ++ toBlocks plain.val)) := by
  have hsmall : x.len.toNat - firstBytes x.len < 2 ^ 31 := by
    have hle := x.le
    rw [x.toNat_len]
    omega
  unfold authenticationCode
  rw [formatAad_eq_some cipher _ hsmall, Option.map_some, x.aadBlocks_eq, formatB0_eq_firstBlock]
  unfold cbcChain
  rw [foldl_append]
  rfl

/-- The code of the standard, with both bytes of it. -/
theorem standard_authenticationCode_eq :
    parameters.authenticationCode cipher (nonceBytes nonce) x.bytes plain.val =
      cbcChain cipher
        (cipher (xorBlock (cipher (parameters.firstBlock (nonceBytes nonce) true plain.val.length))
        (padBlock ([UInt8.ofNat (x.bytes.length / 256), UInt8.ofNat x.bytes.length] ++ x.bytes))))
        (x.rest ++ toBlocks plain.val) := by
  have hne : x.bytes ≠ [] := ne_nil_of_length_pos x.pos
  unfold Parameters.authenticationCode
  rw [decide_eq_true hne, x.associatedBlocks_eq]
  rfl

/-- The output is the one of the standard when the tag is. -/
theorem encryptAndAuth_eq_iff {code : Block}
    (hcode : authenticationCode cipher nonce x.memory x.len plain.val = some code) :
    (encryptAndAuth cipher nonce x.memory x.len plain.val).map Prod.fst =
        some (parameters.generationEncryption cipher (nonceBytes nonce) x.bytes plain.val) ↔
      tagOf cipher nonce code =
        tagOf cipher nonce
          (parameters.authenticationCode cipher (nonceBytes nonce) x.bytes plain.val) := by
  have hstream : keystream cipher nonce = fun i ↦
      cipher (parameters.counterBlock (nonceBytes nonce) (i + 1)) := by
    funext i
    exact congrArg cipher (ctrBlock_eq_counterBlock nonce (i + 1))
  have htag : List.zipWith (· ^^^ ·)
      ((parameters.authenticationCode cipher (nonceBytes nonce) x.bytes plain.val).toList.take
        authTagLen)
      ((cipher (parameters.counterBlock (nonceBytes nonce) 0)).toList.take authTagLen) =
        tagOf cipher nonce
          (parameters.authenticationCode cipher (nonceBytes nonce) x.bytes plain.val) := by
    unfold tagOf
    rw [ctrBlock_eq_counterBlock, zipWith_comm_of_comm]
    exact UInt8.xor_comm
  rw [encryptAndAuth_eq _ _ _ _ (Nat.lt_succ_of_le plain.property), hcode]
  unfold Parameters.generationEncryption
  rw [← hstream]
  change some (_ ++ _) =
    some (_ ++ List.zipWith _ (List.take authTagLen _) (List.take authTagLen _)) ↔ _
  rw [htag, Option.some_inj, append_right_inj]

/-- The first byte of a tag. -/
theorem head_tagOf (code : Block) :
    (tagOf cipher nonce code).getD 0 0 = (cipher (ctrBlock nonce 0)).get 0 ^^^ code.get 0 := by
  simp [tagOf, authTagLen, Vector.get, getD_eq_getElem?_getD]

theorem padBlock_get_zero (byte : UInt8)
    (rest : List UInt8) : (padBlock (byte :: rest)).get 0 = byte :=
  Vector.getElem_ofFn _

/-- With the identity as the block function, the two codes differ where the lengths do. -/
theorem codes_differ (hlong : 256 ≤ x.bytes.length) :
    (encryptAndAuth id nonce x.memory x.len plain.val).map Prod.fst ≠
      some (parameters.generationEncryption id (nonceBytes nonce) x.bytes plain.val) := by
  intro heq
  have htag :=
    (encryptAndAuth_eq_iff id nonce x plain (authenticationCode_eq id nonce x plain)).mp heq
  have hhead := congrArg (fun tag ↦ tag.getD 0 0) htag
  rw [head_tagOf, head_tagOf, UInt8.xor_right_inj, standard_authenticationCode_eq] at hhead
  have hstart := cbcChain_id_get_inj _ hhead
  simp only [id, xorBlock_get, UInt8.xor_right_inj, cons_append, padBlock_get_zero] at hstart
  have hzero : 0 = UInt8.ofNat (x.bytes.length / 256) := hstart
  have htoNat := congrArg UInt8.toNat hzero
  rw [UInt8.toNat_ofNat'] at htoNat
  have hle := x.le
  change 0 = x.bytes.length / 256 % 256 at htoNat
  omega

/-- Below 256 bytes of additional data, the high byte of their length is zero. -/
theorem codes_agree (hshort : x.bytes.length < 256) :
    (encryptAndAuth cipher nonce x.memory x.len plain.val).map Prod.fst =
      some (parameters.generationEncryption cipher (nonceBytes nonce) x.bytes plain.val) := by
  have hzero : UInt8.ofNat (x.bytes.length / 256) = 0 := by
    rw [Nat.div_eq_of_lt hshort]
    rfl
  rw [encryptAndAuth_eq_iff cipher nonce x plain (authenticationCode_eq cipher nonce x plain),
    standard_authenticationCode_eq, hzero]

end Conformance

/-- `CCM_encrypt_and_auth` gives the ciphertext and the tag of the standard, for every block
function, key, nonce and plaintext, exactly when there are less than 256 bytes of additional
data. -/
theorem conforms_iff (x : ShortAad) :
    (∀ (aes : BlockCipher) (key nonce : Block) (plain : ShortText),
      (encryptAndAuth (aes key) nonce x.memory x.len plain.val).map Prod.fst =
        some (parameters.generationEncryption (aes key) (nonceBytes nonce) x.bytes plain.val)) ↔
      x.bytes.length < 256 := by
  constructor
  · intro hall
    by_contra hlong
    exact codes_differ zeroBlock x ⟨[], Nat.zero_le _⟩ (Nat.le_of_not_lt hlong)
      (hall (fun _ ↦ id) zeroBlock zeroBlock ⟨[], Nat.zero_le _⟩)
  · intro hshort aes key nonce plain
    exact codes_agree (aes key) nonce x plain hshort

/-- The tag for 256 bytes of additional data is not the one of the standard. -/
theorem conformance_fails :
    ¬ ∀ (x : ShortAad) (aes : BlockCipher) (key nonce : Block) (plain : ShortText),
      (encryptAndAuth (aes key) nonce x.memory x.len plain.val).map Prod.fst =
        some (parameters.generationEncryption (aes key) (nonceBytes nonce) x.bytes plain.val) := by
  intro hall
  have hlength : (List.replicate 256 (0 : UInt8)).length = 256 := length_replicate
  exact codes_differ zeroBlock ⟨List.replicate 256 0, by omega, by omega⟩
    ⟨[1], by decide⟩ hlength.ge (hall _ (fun _ ↦ id) zeroBlock zeroBlock _)

end ZipGateway.SecurityS2.Ccm
