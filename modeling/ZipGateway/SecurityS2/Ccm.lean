import ZipGateway.SecurityS2.Model

/-!
# Security 2: counter mode with authentication, block by block

The model of `ccm.c` with its loops, its lengths and its buffers that are encrypted in place, as it
is built for the gateway: `q` is 2, `n` is 13 and `t` is 8. Additional data is the memory at a
pointer and a length of 32 bits; a conversion to `int` wraps around. A text is a buffer, and the
array `blocks[1]` is not kept, because it is filled anew before every use.

`encryptAndAuth_eq` connects the loops to the functions that the protocol is modelled with, and
`ccm_roundTrip_iff` says for which lengths of the additional data a text that was encrypted can be
decrypted.
-/

set_option autoImplicit false

namespace ZipGateway.SecurityS2.Ccm

open Lib List

/-! ### The authentication code -/

abbrev blockSize : ℕ := 16

/-- `memcpy`, `memset`, `bit_xor` and `ciph_block`: the next block of the code, for up to sixteen
bytes. -/
def absorb (cipher : Block → Block) (block : Block) (bytes : List UInt8) : Block :=
  cipher (xorBlock block (padBlock bytes))

/-- The conversion of an `uint32_t` to an `int`. -/
def toInt (n : UInt32) : ℤ := if n.toNat < 2 ^ 31 then n.toNat else n.toNat - 2 ^ 32

/-- The number of blocks of `format_aad` and `format_payload_block`: one more for a rest. -/
def blockCount (len : ℤ) : ℤ := len.tdiv blockSize + if len.tmod blockSize ≠ 0 then 1 else 0

/-- A turn of the loop of `format_aad`; `none` when `memcpy` is called with the `size_t` of a
negative number. -/
def formatAadTurn (cipher : Block → Block) (aad : ℕ → UInt8) (first : ℕ) (newAadLen : ℤ)
    (block : Block) (i : ℕ) : Option Block :=
  let offset := first + i * blockSize
  if i = blockCount newAadLen - 1 ∧ newAadLen.tmod blockSize ≠ 0 then
    if newAadLen.tmod blockSize < 0 then none
    else some (absorb cipher block (readBuf aad offset (newAadLen.tmod blockSize).toNat))
  else some (absorb cipher block (readBuf aad offset blockSize))

/-- The encoding of the length in `format_aad`, in front of the additional data. The third branch of
the source is for lengths of more than 32 bits. -/
def lengthPrefix (aadLen : UInt32) : List UInt8 :=
  if aadLen < 65280 then [0x0, aadLen.toUInt8] else [0xFF, 0xFE, 0, 1, 0, 0]

/-- `format_aad`, from the block before it. -/
def formatAad (cipher : Block → Block) (aad : ℕ → UInt8) (aadLen : UInt32) (block : Block) :
    Option Block :=
  let first := blockSize - (lengthPrefix aadLen).length
  let block := absorb cipher block (lengthPrefix aadLen ++ readBuf aad 0 (min aadLen.toNat first))
  if first < aadLen.toNat then
    let newAadLen := toInt (aadLen - UInt32.ofNat first)
    (List.range (blockCount newAadLen).toNat).foldlM
      (formatAadTurn cipher aad first newAadLen) block
  else some block

/-- A turn of the loop of `format_payload_block`. -/
def formatPayloadTurn (cipher : Block → Block) (text : List UInt8) (len : UInt16) (block : Block)
    (i : ℕ) : Block :=
  let offset := i * blockSize
  if i = blockCount len.toNat - 1 ∧ len.toNat % blockSize ≠ 0 then
    absorb cipher block ((text.drop offset).take (len.toNat % blockSize))
  else absorb cipher block ((text.drop offset).take blockSize)

/-- `format_payload_block`. -/
def formatPayloadBlock (cipher : Block → Block) (text : List UInt8) (len : UInt16) (block : Block) :
    Block :=
  (List.range (blockCount len.toNat).toNat).foldl (formatPayloadTurn cipher text len) block

/-! ### The counter mode -/

/-- `ENCRYPT` and `DECRYPT`. -/
inductive Mode
  | encrypt
  | decrypt
deriving DecidableEq, Repr

/-- `bit_xor`. -/
def bitXor (block next : List UInt8) (size : ℕ) : List UInt8 :=
  next.mapIdx fun i byte ↦ if i < size then block.getD i 0 ^^^ byte else byte

/-- What `encrypt_or_decrypt` changes. -/
structure CounterState where
  data : List UInt8
  length : UInt16
  block : Block
  mac : List UInt8

/-- A turn of the loop of `encrypt_or_decrypt`. -/
def counterTurn (cipher : Block → Block) (nonce : Block) (mode : Mode) (st : CounterState) (i : ℕ) :
    CounterState :=
  let ctr := cipher (ctrBlock nonce i)
  if i = 0 ∧ mode = .encrypt then { st with mac := bitXor ctr.toList st.mac authTagLen }
  else if i = 0 ∧ mode = .decrypt then { st with block := ctr }
  else
    let offset := (i - 1) * blockSize
    let size := if 16 ≤ st.length then blockSize else st.length.toNat
    { st with
      data := st.data.take offset ++ bitXor ctr.toList (st.data.drop offset) size
      length := st.length - 16 }

/-- `encrypt_or_decrypt`. -/
def encryptOrDecrypt (cipher : Block → Block) (nonce : Block) (mode : Mode) (numCtrBlks : UInt16)
    (st : CounterState) : CounterState :=
  (List.range numCtrBlks.toNat).foldl (counterTurn cipher nonce mode) st

/-- `CCM_encrypt_and_auth`: the buffer behind the call and the number that is returned. `none`
stands for an access outside of a buffer. -/
def encryptAndAuth (cipher : Block → Block) (nonce : Block) (aad : ℕ → UInt8) (aadLen : UInt32)
    (text : List UInt8) : Option (List UInt8 × UInt32) :=
  let len := UInt16.ofNat text.length
  let counterBlocks := len / 16 + 1 + if len % 16 ≠ 0 then 1 else 0
  match formatAad cipher aad aadLen (cipher (formatB0 nonce len.toNat)) with
  | none => none
  | some block =>
    let block := formatPayloadBlock cipher text len block
    let st := encryptOrDecrypt cipher nonce .encrypt counterBlocks ⟨text, len, block, block.toList⟩
    some (st.data ++ st.mac.take authTagLen, len.toUInt32 + 8)

/-- `CCM_decrypt_and_auth`: the buffer behind the call and the number that is returned. The arrays
`blocks` and `mac` are not initialized; both are written before they are read when a counter block
is used at all. -/
def decryptAndAuth (cipher : Block → Block) (nonce : Block) (aad : ℕ → UInt8) (aadLen : UInt32)
    (text : List UInt8) : Option (List UInt8 × UInt16) :=
  let len := UInt32.ofNat text.length - 8
  let numCounterBlocks := len / 16 + 1 + if len % 16 ≠ 0 then 1 else 0
  if UInt32.ofNat text.length < 8 then some (text, 0)
  else
    let st := encryptOrDecrypt cipher nonce .decrypt numCounterBlocks.toUInt16
      ⟨text, len.toUInt16, zeroBlock, zeroBlock.toList⟩
    let mac := (bitXor (st.data.drop len.toNat) st.block.toList authTagLen).take authTagLen
    match formatAad cipher aad aadLen (cipher (formatB0 nonce len.toUInt16.toNat)) with
    | none => none
    | some block =>
      let block := formatPayloadBlock cipher st.data len.toUInt16 block
      if block.toList.take authTagLen ≠ mac then some (st.data, 0) else some (st.data, len.toUInt16)

/-! ### Pieces of a text -/

section Pieces

/-- Bytes behind the sixteenth one are not seen. -/
theorem padBlock_take {n : ℕ} (hn : blockSize ≤ n) (bytes : List UInt8) :
    padBlock (bytes.take n) = padBlock bytes := by
  unfold padBlock
  congr 1
  funext i
  rw [getD_eq_getElem?_getD, getD_eq_getElem?_getD, List.getElem?_take_of_lt (i.isLt.trans_le hn)]

theorem blockCount_natCast (n : ℕ) : blockCount n = ((n + 15) / 16 : ℕ) := by
  unfold blockCount
  have hdiv : (n : ℤ).tdiv blockSize = (n / 16 : ℕ) := rfl
  have hmod : (n : ℤ).tmod blockSize = (n % 16 : ℕ) := rfl
  rw [hdiv, hmod]
  split_ifs <;> omega

/-- The number of bytes that a turn takes from a text of `n` bytes. -/
def pieceSize (n i : ℕ) : ℕ := if i + 1 = (n + 15) / 16 ∧ n % 16 ≠ 0 then n % 16 else 16

theorem add_pieceSize_le {n i : ℕ} (hi : i < (n + 15) / 16) : i * 16 + pieceSize n i ≤ n := by
  unfold pieceSize
  split_ifs <;> omega

/-- A turn takes a block of the text, the last one filled up with zeros. -/
theorem padBlock_piece {n i : ℕ} {bytes : List UInt8} (hlength : bytes.length = n) :
    padBlock ((bytes.drop (i * 16)).take (pieceSize n i)) = padBlock (bytes.drop (i * 16)) := by
  unfold pieceSize
  split_ifs with hlast
  · rw [take_of_length_le]
    rw [length_drop, hlength]
    omega
  · exact padBlock_take (Nat.le_refl 16) _

/-- The loops over a text chain the cipher over its blocks. -/
theorem foldl_absorb (cipher : Block → Block) (block : Block) (bytes : List UInt8) :
    (List.range ((bytes.length + 15) / 16)).foldl (fun block i ↦
        absorb cipher block ((bytes.drop (i * 16)).take (pieceSize bytes.length i))) block =
      cbcChain cipher block (toBlocks bytes) := by
  unfold cbcChain toBlocks
  rw [foldl_map]
  refine foldl_ext _ _ _ fun block i _ ↦ ?_
  unfold absorb
  rw [padBlock_piece rfl, Nat.mul_comm]

end Pieces

/-! ### The authentication code -/

section AuthenticationCode

variable (cipher : Block → Block)

/-- The last turn of the source is the one before the number of blocks. -/
theorem last_iff {n i : ℕ} :
    ((i : ℤ) = blockCount n - 1 ∧ n % blockSize ≠ 0) ↔ (i + 1 = (n + 15) / 16 ∧ n % 16 ≠ 0) := by
  rw [blockCount_natCast]
  refine and_congr_left fun _ ↦ ?_
  omega

/-- A turn takes the next piece of the text. -/
theorem formatPayloadTurn_eq (text : List UInt8) {len : UInt16} (block : Block) (i : ℕ) :
    formatPayloadTurn cipher text len block i =
      absorb cipher block ((text.drop (i * 16)).take (pieceSize len.toNat i)) := by
  unfold formatPayloadTurn pieceSize
  dsimp only
  simp only [last_iff]
  split_ifs
  · rfl
  · rfl

/-- The code of a text depends on its bytes only, not on what stands behind them in the buffer. -/
theorem formatPayloadBlock_eq {text : List UInt8} {len : UInt16} (hlen : len.toNat ≤ text.length)
    (block : Block) :
    formatPayloadBlock cipher text len block = cbcChain cipher block
      (toBlocks (text.take len.toNat)) := by
  have hlength : (text.take len.toNat).length = len.toNat := length_take_of_le hlen
  rw [← foldl_absorb, hlength]
  unfold formatPayloadBlock
  rw [blockCount_natCast, Int.toNat_natCast]
  refine foldl_ext _ _ _ fun block i hi ↦ ?_
  have hle := add_pieceSize_le (mem_range.mp hi)
  have hpiece : ((text.take len.toNat).drop (i * 16)).take (pieceSize len.toNat i) =
      (text.drop (i * 16)).take (pieceSize len.toNat i) := by
    rw [drop_take, take_take, Nat.min_eq_left (by omega)]
  rw [hpiece, formatPayloadTurn_eq]

/-- A part of the memory that has been read. -/
theorem take_drop_readBuf (memory : ℕ → UInt8) (start : ℕ) {n offset size : ℕ}
    (hle : offset + size ≤ n) :
    ((readBuf memory start n).drop offset).take size = readBuf memory (start + offset) size := by
  refine ext_getElem ?_ fun i hleft hright ↦ ?_
  · simp only [readBuf, length_take, length_drop, length_map, length_range]
    omega
  · simp [readBuf, Nat.add_assoc]

@[simp]
theorem length_readBuf (memory : ℕ → UInt8)
    (start len : ℕ) : (readBuf memory start len).length = len := by
  simp [readBuf]

/-- A loop none of whose turns fails. -/
theorem foldlM_eq_some {State Turn : Type} {turn : State → Turn → Option State}
    {next : State → Turn → State}
    {turns : List Turn} (hturn : ∀ state, ∀ i ∈ turns, turn state i = some (next state i))
    (state : State) : turns.foldlM turn state = some (turns.foldl next state) := by
  induction turns generalizing state with
  | nil => rfl
  | cons i rest ih =>
    rw [foldlM_cons, hturn state i mem_cons_self]
    exact ih (fun state j hj ↦ hturn state j (mem_cons_of_mem i hj)) _

/-- The number of bytes of additional data that stand in the first block. -/
def firstBytes (aadLen : UInt32) : ℕ := blockSize - (lengthPrefix aadLen).length

theorem firstBytes_eq (aadLen : UInt32) :
    firstBytes aadLen = if aadLen.toNat < 65280 then 14 else 10 := by
  unfold firstBytes lengthPrefix
  have hlt : aadLen < 65280 ↔ aadLen.toNat < 65280 := UInt32.lt_iff_toNat_lt
  simp only [hlt]
  split_ifs
  · rfl
  · rfl

/-- The bytes of additional data behind the first block. -/
theorem toNat_sub_firstBytes {aadLen : UInt32} (hmore : firstBytes aadLen < aadLen.toNat) :
    (aadLen - UInt32.ofNat (firstBytes aadLen)).toNat = aadLen.toNat - firstBytes aadLen := by
  have hlt := aadLen.toNat_lt
  have hfirst : (UInt32.ofNat (firstBytes aadLen)).toNat = firstBytes aadLen := by
    rw [UInt32.toNat_ofNat']
    exact Nat.mod_eq_of_lt (by omega)
  rw [UInt32.toNat_sub_of_le _ _ (UInt32.le_iff_toNat_le.mpr (by omega)), hfirst]

/-- The blocks that `format_aad` adds to the code. -/
def aadBlocks (aad : ℕ → UInt8) (aadLen : UInt32) : List Block :=
  padBlock (lengthPrefix aadLen ++ readBuf aad 0 (min aadLen.toNat (firstBytes aadLen))) ::
    toBlocks (readBuf aad (firstBytes aadLen) (aadLen.toNat - firstBytes aadLen))

/-- A turn takes the next piece of the additional data. -/
theorem formatAadTurn_eq (aad : ℕ → UInt8) {first n i : ℕ} (block : Block) :
    formatAadTurn cipher aad first n block i =
      some (absorb cipher block (readBuf aad (first + i * 16) (pieceSize n i))) := by
  have hmod : (n : ℤ).tmod blockSize = (n % 16 : ℕ) := rfl
  have hlast := @last_iff n i
  unfold formatAadTurn pieceSize
  dsimp only
  rw [hmod]
  by_cases hrest : i + 1 = (n + 15) / 16 ∧ n % 16 ≠ 0
  · rw [if_pos hrest, if_pos (by exact_mod_cast hlast.mpr hrest), if_neg (by omega),
      Int.toNat_natCast]
  · rw [if_neg hrest, if_neg fun h ↦ hrest (hlast.mp (by exact_mod_cast h))]

/-- While the bytes behind the first block are not too many for an `int`, all of them are added. -/
theorem formatAad_eq_some (aad : ℕ → UInt8) {aadLen : UInt32}
    (hsmall : aadLen.toNat - firstBytes aadLen < 2 ^ 31)
    (block : Block) :
    formatAad cipher aad aadLen block = some (cbcChain cipher block (aadBlocks aad aadLen)) := by
  unfold formatAad aadBlocks
  change (if firstBytes aadLen < aadLen.toNat then _ else _) = _
  split_ifs with hmore
  · have hint : toInt (aadLen - UInt32.ofNat (firstBytes aadLen)) =
        (aadLen.toNat - firstBytes aadLen : ℕ) := by
      unfold toInt
      rw [toNat_sub_firstBytes hmore, if_pos hsmall]
    change List.foldlM (formatAadTurn cipher aad (firstBytes aadLen)
      (toInt (aadLen - UInt32.ofNat (firstBytes aadLen))))
      _ (List.range (blockCount (toInt (aadLen - UInt32.ofNat (firstBytes aadLen)))).toNat) = _
    rw [hint, blockCount_natCast, Int.toNat_natCast]
    generalize aadLen.toNat - firstBytes aadLen = n
    have hturn : ∀ block, ∀ i ∈ List.range ((n + 15) / 16),
        formatAadTurn cipher aad (firstBytes aadLen) n block i = some (absorb cipher block
          (((readBuf aad (firstBytes aadLen) n).drop (i * 16)).take (pieceSize n i))) := by
      intro block i hi
      rw [take_drop_readBuf _ _ (add_pieceSize_le (mem_range.mp hi))]
      exact formatAadTurn_eq cipher aad block
    have hchain := foldl_absorb cipher
      (absorb cipher block
        (lengthPrefix aadLen ++ readBuf aad 0 (min aadLen.toNat (firstBytes aadLen))))
      (readBuf aad (firstBytes aadLen) n)
    rw [length_readBuf] at hchain
    exact (foldlM_eq_some hturn _).trans (congrArg some hchain)
  · have hnil :
        toBlocks (readBuf aad (firstBytes aadLen) (aadLen.toNat - firstBytes aadLen)) = [] := by
      rw [Nat.sub_eq_zero_of_le (Nat.le_of_not_lt hmore)]
      simp [toBlocks]
    rw [hnil]
    rfl

/-- Too many bytes behind the first block are a negative number, so that no block of them is
added. -/
theorem blockCount_neg (m : ℕ) : blockCount (-m) = -(m / 16 : ℕ) + if m % 16 ≠ 0 then 1 else 0 := by
  unfold blockCount
  have hdiv : (-(m : ℤ)).tdiv blockSize = -(m / 16 : ℕ) := Int.neg_tdiv ..
  have hmod : (-(m : ℤ)).tmod blockSize = -(m % 16 : ℕ) := Int.neg_tmod ..
  rw [hdiv, hmod]
  congr 1
  exact if_congr (by omega) rfl rfl

/-- The five largest lengths are the ones whose last block has a negative size. -/
theorem formatAad_eq_none_iff (aad : ℕ → UInt8) (aadLen : UInt32) (block : Block) :
    formatAad cipher aad aadLen block = none ↔ 2 ^ 32 ≤ aadLen.toNat + 5 := by
  by_cases hsmall : aadLen.toNat - firstBytes aadLen < 2 ^ 31
  · rw [formatAad_eq_some cipher aad hsmall]
    have hfirst := firstBytes_eq aadLen
    split_ifs at hfirst <;> simp <;> omega
  · have hlt := aadLen.toNat_lt
    have hfirst : firstBytes aadLen = 10 := by
      rw [firstBytes_eq]
      exact if_neg (by omega)
    have hmore : firstBytes aadLen < aadLen.toNat := by omega
    have hint : toInt (aadLen - UInt32.ofNat (firstBytes aadLen)) =
        -(2 ^ 32 + 10 - aadLen.toNat : ℕ) := by
      unfold toInt
      rw [toNat_sub_firstBytes hmore, if_neg hsmall, hfirst]
      omega
    unfold formatAad
    change (if firstBytes aadLen < aadLen.toNat then _ else _) = _ ↔ _
    rw [if_pos hmore]
    change List.foldlM (formatAadTurn cipher aad (firstBytes aadLen)
      (toInt (aadLen - UInt32.ofNat (firstBytes aadLen))))
      _ (List.range (blockCount (toInt (aadLen - UInt32.ofNat (firstBytes aadLen)))).toNat) = _ ↔ _
    rw [hint]
    have hm : 2 ^ 32 ≤ aadLen.toNat + 5 ↔ 2 ^ 32 + 10 - aadLen.toNat ≤ 15 := by omega
    have hpos : 11 ≤ 2 ^ 32 + 10 - aadLen.toNat := by omega
    rw [hm]
    generalize 2 ^ 32 + 10 - aadLen.toNat = m at hpos
    by_cases hfew : m ≤ 15
    · have hcount : blockCount (-m) = 1 := by
        rw [blockCount_neg, if_pos (by omega)]
        omega
      have hmod : (-(m : ℤ)).tmod blockSize = -(m % 16 : ℕ) := Int.neg_tmod ..
      rw [hcount]
      change formatAadTurn cipher aad (firstBytes aadLen) (-m) _ 0 >>= _ = none ↔ _
      unfold formatAadTurn
      dsimp only
      rw [hcount, hmod, if_pos (by omega), if_pos (by omega)]
      exact iff_of_true rfl hfew
    · have hcount : (blockCount (-m)).toNat = 0 := by
        rw [blockCount_neg]
        split_ifs <;> omega
      rw [hcount]
      exact iff_of_false (by simp) hfew

end AuthenticationCode

/-! ### The counter mode -/

section CounterMode

variable (cipher : Block → Block) (nonce : Block)

/-- The keystream: the first counter block is kept for the tag. -/
def keystream (i : ℕ) : Block := cipher (ctrBlock nonce (i + 1))

/-- A buffer with the keystream added to its first `n` bytes. -/
def streamed (stream : ℕ → Block) (n : ℕ) (data : List UInt8) : List UInt8 :=
  data.mapIdx fun j byte ↦ if j < n then byte ^^^ streamByte stream j else byte

@[simp]
theorem length_streamed (stream : ℕ → Block) (n : ℕ) (data : List UInt8) :
    (streamed stream n data).length = data.length := by
  simp [streamed]

theorem getElem?_streamed (stream : ℕ → Block) (n : ℕ) (data : List UInt8) (j : ℕ) :
    (streamed stream n data)[j]? = data[j]?.map fun byte ↦ if j < n then byte ^^^
      streamByte stream j else byte :=
  List.getElem?_mapIdx

theorem getElem?_bitXor (block next : List UInt8) (size j : ℕ) :
    (bitXor block next size)[j]? = next[j]?.map fun byte ↦ if j < size then block.getD j 0 ^^^ byte
      else byte :=
  List.getElem?_mapIdx

/-- A byte of the keystream in its block. -/
theorem streamByte_eq (stream : ℕ → Block) {m j : ℕ} (hle : m * 16 ≤ j) (hlt : j < m * 16 + 16) :
    streamByte stream j = (stream m).toList.getD (j - m * 16) 0 := by
  have hdiv : j / 16 = m := by omega
  have hmod : j % 16 = j - m * 16 := by omega
  have hbound : j - m * 16 < 16 := by omega
  unfold streamByte
  rw [hdiv]
  simp [Vector.get, Fin.ofNat, hmod, getD_eq_getElem?_getD, hbound]

/-- The next block of the keystream is added behind the ones before it. -/
theorem streamed_next (stream : ℕ → Block) (data : List UInt8) {m size : ℕ} (hsize : size ≤ 16)
    (hlength : m * 16 ≤ data.length) :
    (streamed stream (m * 16) data).take (m * 16) ++
        bitXor (stream m).toList ((streamed stream (m * 16) data).drop (m * 16)) size =
      streamed stream (m * 16 + size) data := by
  have htake : ((streamed stream (m * 16) data).take (m * 16)).length = m * 16 := by
    rw [length_take, length_streamed, Nat.min_eq_left hlength]
  refine ext_getElem? fun j ↦ ?_
  rw [getElem?_streamed]
  by_cases hj : j < m * 16
  · rw [List.getElem?_append_left (by omega), List.getElem?_take_of_lt hj, getElem?_streamed]
    simp only [if_pos hj, if_pos (Nat.lt_add_right size hj)]
  · have hidx : m * 16 + (j - m * 16) = j := by omega
    rw [List.getElem?_append_right (by omega), htake, getElem?_bitXor, List.getElem?_drop, hidx,
      getElem?_streamed, Option.map_map]
    refine congrArg (fun change ↦ data[j]?.map change) (funext fun byte ↦ ?_)
    change (if j - m * 16 < size then _ ^^^ (if j < m * 16 then _ else byte)
      else if j < m * 16 then _ else byte) = _
    rw [if_neg hj]
    by_cases hin : j < m * 16 + size
    · have hbyte : streamByte stream j = (stream m).toList.getD (j - m * 16) 0 :=
        streamByte_eq stream (by omega) (by omega)
      rw [if_pos (by omega), if_pos hin, UInt8.xor_comm, hbyte]
    · rw [if_neg (by omega), if_neg hin]

/-- The length that is left after some turns. -/
theorem ofNat_sub_blockSize {n : ℕ} (hle : 16 ≤ n) :
    UInt16.ofNat n - 16 = UInt16.ofNat (n - 16) := by
  rw [UInt16.ofNat_sub hle]
  rfl

/-- The turns of `encrypt_or_decrypt` behind the first one add the keystream to the text. -/
theorem foldl_counterTurn (mode : Mode) {st : CounterState} {len : ℕ}
    (hlen : st.length = UInt16.ofNat len)
    (hlt : len < 65536) (hlength : len ≤ st.data.length) {turns : ℕ}
    (hturns : turns * 16 < len + 16) :
    let after := ((List.range turns).map Nat.succ).foldl (counterTurn cipher nonce mode) st
    after.data = streamed (keystream cipher nonce) (min (turns * 16) len) st.data ∧
      (turns * 16 ≤ len → after.length = UInt16.ofNat (len - turns * 16)) ∧
      after.block = st.block ∧ after.mac = st.mac := by
  induction turns with
  | zero =>
    refine ⟨?_, fun _ ↦ hlen, rfl, rfl⟩
    refine ext_getElem? fun j ↦ ?_
    rw [getElem?_streamed]
    simp
  | succ turns ih =>
    obtain ⟨hdata, hleft, hblock, hmac⟩ := ih (by omega)
    rw [range_succ, map_append, foldl_append]
    set before := ((List.range turns).map Nat.succ).foldl (counterTurn cipher nonce mode) st
    have hmin : min (turns * 16) len = turns * 16 := Nat.min_eq_left (by omega)
    rw [hmin] at hdata
    have hleft := hleft (by omega)
    have htoNat : before.length.toNat = len - turns * 16 := by
      rw [hleft, UInt16.toNat_ofNat']
      exact Nat.mod_eq_of_lt (by omega)
    have hsize : (if 16 ≤ before.length then blockSize else before.length.toNat) =
        min 16 (len - turns * 16) := by
      have hiff : 16 ≤ before.length ↔ 16 ≤ len - turns * 16 := by
        rw [UInt16.le_iff_toNat_le, htoNat]
        rfl
      rw [htoNat]
      simp only [hiff]
      split_ifs with hfull
      · exact (Nat.min_eq_left hfull).symm
      · exact (Nat.min_eq_right (Nat.le_of_not_le hfull)).symm
    have hnext : turns * 16 + min 16 (len - turns * 16) = min ((turns + 1) * 16) len := by omega
    have hturn : counterTurn cipher nonce mode before (turns + 1) =
        { before with
          data := before.data.take (turns * 16) ++
            bitXor (keystream cipher nonce turns).toList (before.data.drop (turns * 16))
              (min 16 (len - turns * 16))
          length := before.length - 16 } := by
      unfold counterTurn
      dsimp only
      rw [if_neg fun h ↦ Nat.succ_ne_zero turns h.1,
        if_neg fun h ↦ Nat.succ_ne_zero turns h.1, hsize]
      rfl
    change (counterTurn cipher nonce mode before (turns + 1)).data = _ ∧
      (_ → (counterTurn cipher nonce mode before (turns + 1)).length = _) ∧
      (counterTurn cipher nonce mode before (turns + 1)).block = _ ∧
      (counterTurn cipher nonce mode before (turns + 1)).mac = _
    rw [hturn]
    refine ⟨?_, fun hle ↦ ?_, hblock, hmac⟩
    · dsimp only
      rw [hdata, streamed_next _ _ (Nat.min_le_left ..) (by omega), hnext]
    · change before.length - 16 = _
      rw [hleft, ofNat_sub_blockSize (by omega)]
      congr 1
      omega

/-- The first turn of the loop, with the counter block that the tag is encrypted with. -/
theorem encryptOrDecrypt_spec (mode : Mode) {st : CounterState} {len : ℕ}
    (hlen : st.length = UInt16.ofNat len) (hlt : len < 65536) (hlength : len ≤ st.data.length)
    {numCtrBlks : UInt16} (hcount : numCtrBlks.toNat = (len + 15) / 16 + 1) :
    let after := encryptOrDecrypt cipher nonce mode numCtrBlks st
    after.data = streamed (keystream cipher nonce) len st.data ∧
      after.block = (match mode with
        | .encrypt => st.block
        | .decrypt => cipher (ctrBlock nonce 0)) ∧
      after.mac = (match mode with
        | .encrypt => bitXor (cipher (ctrBlock nonce 0)).toList st.mac authTagLen
        | .decrypt => st.mac) := by
  unfold encryptOrDecrypt
  rw [hcount, range_succ_eq_map, foldl_cons]
  have hmin : min ((len + 15) / 16 * 16) len = len := Nat.min_eq_right (by omega)
  have hturns : (len + 15) / 16 * 16 < len + 16 := by omega
  cases mode with
  | encrypt =>
    let first := { st with mac := bitXor (cipher (ctrBlock nonce 0)).toList st.mac authTagLen }
    have hfirst : first.length = UInt16.ofNat len := hlen
    have hrun := foldl_counterTurn cipher nonce .encrypt hfirst hlt hlength hturns
    rw [hmin] at hrun
    exact ⟨hrun.1, hrun.2.2.1, hrun.2.2.2⟩
  | decrypt =>
    let first := { st with block := cipher (ctrBlock nonce 0) }
    have hfirst : first.length = UInt16.ofNat len := hlen
    have hrun := foldl_counterTurn cipher nonce .decrypt hfirst hlt hlength hturns
    rw [hmin] at hrun
    exact ⟨hrun.1, hrun.2.2.1, hrun.2.2.2⟩

/-- The number of counter blocks in `CCM_encrypt_and_auth`. -/
theorem toNat_counterBlocks (len : UInt16) :
    (len / 16 + 1 + if len % 16 ≠ 0 then 1 else 0).toNat = (len.toNat + 15) / 16 + 1 := by
  have hlt := len.toNat_lt
  have hrest : len % 16 ≠ 0 ↔ len.toNat % 16 ≠ 0 := by
    rw [Ne, ← UInt16.toNat_inj, UInt16.toNat_mod]
    rfl
  have hdiv : (len / 16).toNat = len.toNat / 16 := UInt16.toNat_div ..
  rw [UInt16.toNat_add, UInt16.toNat_add, hdiv]
  simp only [hrest]
  split_ifs
  · change ((len.toNat / 16 + 1) % 65536 + 1) % 65536 = _
    omega
  · change ((len.toNat / 16 + 1) % 65536 + 0) % 65536 = _
    omega

/-- The number of counter blocks in `CCM_decrypt_and_auth`. -/
theorem toNat_numCounterBlocks {len : UInt32} (hsmall : len.toNat < 65536) :
    (len / 16 + 1 + if len % 16 ≠ 0 then 1 else 0).toUInt16.toNat = (len.toNat + 15) / 16 + 1 := by
  have hrest : len % 16 ≠ 0 ↔ len.toNat % 16 ≠ 0 := by
    rw [Ne, ← UInt32.toNat_inj, UInt32.toNat_mod]
    rfl
  have hdiv : (len / 16).toNat = len.toNat / 16 := UInt32.toNat_div ..
  rw [UInt32.toNat_toUInt16, UInt32.toNat_add, UInt32.toNat_add, hdiv]
  simp only [hrest]
  split_ifs
  · change ((len.toNat / 16 + 1) % 4294967296 + 1) % 4294967296 % 65536 = _
    omega
  · change ((len.toNat / 16 + 1) % 4294967296 + 0) % 4294967296 % 65536 = _
    omega

theorem getElem?_xorStream (stream : ℕ → Block) (bytes : List UInt8) (j : ℕ) :
    (xorStream stream bytes)[j]? = bytes[j]?.map fun byte ↦ byte ^^^ streamByte stream j :=
  List.getElem?_mapIdx

/-- The bytes behind a text are left alone. -/
theorem streamed_append (stream : ℕ → Block) (text rest : List UInt8) :
    streamed stream text.length (text ++ rest) = xorStream stream text ++ rest := by
  refine ext_getElem? fun j ↦ ?_
  rw [getElem?_streamed]
  by_cases hj : j < text.length
  · rw [List.getElem?_append_left hj, List.getElem?_append_left (by simpa using hj),
      getElem?_xorStream]
    simp only [if_pos hj]
  · rw [List.getElem?_append_right (by omega), List.getElem?_append_right (by simpa using hj),
      length_xorStream]
    simp only [if_neg hj]
    exact Option.map_id' ..

/-- The first bytes of a sum. -/
theorem take_bitXor {block next : List UInt8} {size : ℕ} (hblock : size ≤ block.length) :
    (bitXor block next size).take size = List.zipWith (· ^^^ ·) (block.take size)
      (next.take size) := by
  refine ext_getElem? fun j ↦ ?_
  by_cases hj : j < size
  · have hbound : j < block.length := by omega
    rw [List.getElem?_take_of_lt hj, getElem?_bitXor, List.getElem?_zipWith,
      List.getElem?_take_of_lt hj, List.getElem?_take_of_lt hj, List.getElem?_eq_getElem hbound]
    cases next[j]? with
    | none => rfl
    | some byte =>
      simp only [Option.map_some, if_pos hj]
      rw [getD_eq_getElem?_getD, List.getElem?_eq_getElem hbound]
      rfl
  · rw [List.getElem?_eq_none (by rw [length_take]; omega),
      List.getElem?_eq_none (by rw [length_zipWith, length_take]; omega)]

/-- The sum of two byte strings of one length, undone. -/
theorem eq_zipWith_xor_iff {code tag pad : List UInt8} (hcode : code.length = pad.length)
    (htag : tag.length = pad.length) :
    code = List.zipWith (· ^^^ ·) tag pad ↔ tag = List.zipWith (· ^^^ ·) pad code := by
  induction pad generalizing code tag with
  | nil =>
    rw [length_eq_zero_iff.mp hcode, length_eq_zero_iff.mp htag]
  | cons byte pad ih =>
    obtain ⟨c, code, rfl⟩ := exists_cons_of_length_eq_add_one hcode
    obtain ⟨t, tag, rfl⟩ := exists_cons_of_length_eq_add_one htag
    have hbyte : c = t ^^^ byte ↔ t = byte ^^^ c := by
      constructor
      · rintro rfl
        rw [UInt8.xor_comm t, ← UInt8.xor_assoc, UInt8.xor_self, UInt8.zero_xor]
      · rintro rfl
        rw [UInt8.xor_comm byte, UInt8.xor_assoc, UInt8.xor_self, UInt8.xor_zero]
    rw [zipWith_cons_cons, zipWith_cons_cons, List.cons.injEq, List.cons.injEq, hbyte,
      ih (Nat.succ.inj hcode) (Nat.succ.inj htag)]

end CounterMode

/-! ### The two functions -/

section Functions

variable (cipher : Block → Block) (nonce : Block) (aad : ℕ → UInt8) (aadLen : UInt32)

/-- The tag for an authentication code: the sum of its first bytes with the encrypted counter block
0. -/
def tagOf (code : Block) : List UInt8 :=
  List.zipWith (· ^^^ ·) ((cipher (ctrBlock nonce 0)).toList.take authTagLen)
    (code.toList.take authTagLen)

@[simp]
theorem length_tagOf (code : Block) : (tagOf cipher nonce code).length = authTagLen := by
  simp [tagOf, authTagLen]

/-- The code of additional data and a text, or `none` when the additional data cannot be read. -/
def authenticationCode (text : List UInt8) : Option Block :=
  (formatAad cipher aad aadLen (cipher (formatB0 nonce text.length))).map fun block ↦
    cbcChain cipher block (toBlocks text)

/-- What `CCM_encrypt_and_auth` leaves in the buffer and returns. -/
theorem encryptAndAuth_eq {text : List UInt8} (hlt : text.length < 65536) :
    encryptAndAuth cipher nonce aad aadLen text =
      (authenticationCode cipher nonce aad aadLen text).map fun code ↦
        (xorStream (keystream cipher nonce) text ++ tagOf cipher nonce code,
          (UInt16.ofNat text.length).toUInt32 + 8) := by
  have hlen : (UInt16.ofNat text.length).toNat = text.length := Nat.mod_eq_of_lt hlt
  unfold encryptAndAuth authenticationCode
  dsimp only
  rw [hlen]
  cases formatAad cipher aad aadLen (cipher (formatB0 nonce text.length)) with
  | none => rfl
  | some block =>
    dsimp only [Option.map_some]
    rw [formatPayloadBlock_eq cipher hlen.le, hlen, take_length]
    set code := cbcChain cipher block (toBlocks text)
    have hcount := toNat_counterBlocks (UInt16.ofNat text.length)
    rw [hlen] at hcount
    let start : CounterState := ⟨text, UInt16.ofNat text.length, code, code.toList⟩
    have hstart : start.length = UInt16.ofNat text.length := rfl
    obtain ⟨hdata, -, hmac⟩ :=
      encryptOrDecrypt_spec cipher nonce .encrypt hstart hlt (Nat.le_refl _) hcount
    rw [hdata, hmac]
    dsimp only
    have htext := streamed_append (keystream cipher nonce) text []
    rw [append_nil, append_nil] at htext
    rw [htext, take_bitXor (by simp [authTagLen])]
    rfl

/-- What `CCM_decrypt_and_auth` leaves in the buffer and returns. -/
theorem decryptAndAuth_eq {text tag : List UInt8} (hlt : text.length < 65536)
    (htag : tag.length = authTagLen) : decryptAndAuth cipher nonce aad aadLen (text ++ tag) =
      (authenticationCode cipher nonce aad aadLen (xorStream (keystream cipher nonce) text)).map
        fun code ↦
        (xorStream (keystream cipher nonce) text ++ tag,
          if tag = tagOf cipher nonce code then UInt16.ofNat text.length else 0) := by
  have hlength : (text ++ tag).length = text.length + 8 := by
    rw [length_append, htag]
    rfl
  have htoNat : (UInt32.ofNat (text ++ tag).length).toNat = text.length + 8 := by
    rw [hlength]
    exact Nat.mod_eq_of_lt (by omega)
  have hlong : ¬ UInt32.ofNat (text ++ tag).length < 8 := by
    rw [UInt32.lt_iff_toNat_lt, htoNat]
    exact Nat.not_lt.mpr (Nat.le_add_left 8 _)
  have hlen : (UInt32.ofNat (text ++ tag).length - 8).toNat = text.length := by
    rw [UInt32.toNat_sub_of_le _ _ (UInt32.not_lt.mp hlong), htoNat]
    rfl
  have hlen16 : (UInt32.ofNat (text ++ tag).length - 8).toUInt16 = UInt16.ofNat text.length := by
    rw [← UInt16.toNat_inj, UInt32.toNat_toUInt16, hlen]
    exact UInt16.toNat_ofNat'.symm
  unfold decryptAndAuth authenticationCode
  dsimp only
  rw [if_neg hlong, hlen16]
  have hcount := toNat_numCounterBlocks (hlen.trans_lt hlt)
  rw [hlen] at hcount
  let start : CounterState := ⟨text ++ tag, UInt16.ofNat text.length, zeroBlock, zeroBlock.toList⟩
  have hstart : start.length = UInt16.ofNat text.length := rfl
  have hroom : text.length ≤ start.data.length := hlength.symm ▸ Nat.le_add_right ..
  obtain ⟨hdata, hblock, -⟩ := encryptOrDecrypt_spec cipher nonce .decrypt hstart hlt hroom hcount
  have hlen' : (UInt16.ofNat text.length).toNat = text.length := Nat.mod_eq_of_lt hlt
  rw [hdata, hblock, hlen, hlen', streamed_append, length_xorStream]
  cases formatAad cipher aad aadLen (cipher (formatB0 nonce text.length)) with
  | none => rfl
  | some block =>
    dsimp only [Option.map_some]
    have htake : (UInt16.ofNat text.length).toNat ≤
        (xorStream (keystream cipher nonce) text ++ tag).length := by
      rw [hlen', length_append, length_xorStream]
      exact Nat.le_add_right ..
    have hplain : (xorStream (keystream cipher nonce) text ++ tag).take text.length =
        xorStream (keystream cipher nonce) text := take_left' (length_xorStream ..)
    have htail : (xorStream (keystream cipher nonce) text ++ tag).drop text.length = tag :=
      drop_left' (length_xorStream ..)
    rw [formatPayloadBlock_eq cipher htake, hlen', hplain, htail, take_bitXor htag.ge]
    set code := cbcChain cipher block (toBlocks (xorStream (keystream cipher nonce) text))
    have hverify : code.toList.take authTagLen =
        List.zipWith (· ^^^ ·) tag ((cipher (ctrBlock nonce 0)).toList.take authTagLen) ↔
          tag = tagOf cipher nonce code :=
      eq_zipWith_xor_iff (by simp) (by simp [htag, authTagLen])
    rw [take_of_length_le htag.le]
    by_cases heq : tag = tagOf cipher nonce code
    · rw [if_neg (not_not.mpr (hverify.mpr heq)), if_pos heq]
    · rw [if_pos fun h ↦ heq (hverify.mp h), if_neg heq]

end Functions

/-! ### Round trips -/

/-- A plaintext of 1 to 65535 bytes. -/
structure Plaintext where
  bytes : List UInt8
  pos : 1 ≤ bytes.length
  le : bytes.length ≤ 65535

/-- A text that has been encrypted is decrypted again, and is refused as soon as its tag has been
altered. -/
def RoundTrips (cipher : Block → Block) (nonce : Block) (aad : ℕ → UInt8) (aadLen : UInt32)
    (plain : List UInt8) : Prop :=
  ∃ output returned, encryptAndAuth cipher nonce aad aadLen plain = some (output, returned) ∧
    output.length = plain.length + authTagLen ∧ returned.toNat = output.length ∧
      (∃ restored len, decryptAndAuth cipher nonce aad aadLen output = some (restored, len) ∧
        len.toNat = plain.length ∧ restored.take plain.length = plain) ∧
      ∀ tag, tag.length = authTagLen → tag ≠ output.drop plain.length →
        ∃ rest, decryptAndAuth cipher nonce aad aadLen (output.take plain.length ++ tag) =
          some (rest, 0)

theorem authenticationCode_eq_none_iff (cipher : Block → Block) (nonce : Block) (aad : ℕ → UInt8)
    (aadLen : UInt32)
    (text : List UInt8) :
    authenticationCode cipher nonce aad aadLen text = none ↔ 2 ^ 32 ≤ aadLen.toNat + 5 := by
  unfold authenticationCode
  rw [Option.map_eq_none_iff, formatAad_eq_none_iff]

/-- Under every key, with every nonce, additional data and plaintext, the round trip works exactly
when the length of the additional data is not one of the five largest ones of 32 bits. -/
theorem ccm_roundTrip_iff (aes : BlockCipher) (key nonce : Block) (aad : ℕ → UInt8)
    (aadLen : UInt32) (plain : Plaintext) :
    RoundTrips (aes key) nonce aad aadLen plain.bytes ↔ aadLen.toNat + 5 < 2 ^ 32 := by
  have hlt : plain.bytes.length < 65536 := Nat.lt_succ_of_le plain.le
  unfold RoundTrips
  rw [encryptAndAuth_eq _ _ _ _ hlt]
  cases hcode : authenticationCode (aes key) nonce aad aadLen plain.bytes with
  | none =>
    have hbad := (authenticationCode_eq_none_iff ..).mp hcode
    exact iff_of_false (by simp) (Nat.not_lt.mpr hbad)
  | some code =>
    have hgood : aadLen.toNat + 5 < 2 ^ 32 := by
      by_contra hbad
      rw [(authenticationCode_eq_none_iff ..).mpr (Nat.not_lt.mp hbad)] at hcode
      exact absurd hcode (by simp)
    refine iff_of_true ?_ hgood
    set cipher := xorStream (keystream (aes key) nonce) plain.bytes
    have hcipher : cipher.length = plain.bytes.length := length_xorStream ..
    have hdecrypt : ∀ tag : List UInt8, tag.length = authTagLen →
        decryptAndAuth (aes key) nonce aad aadLen (cipher ++ tag) =
          some (plain.bytes ++ tag,
            if tag = tagOf (aes key) nonce code then UInt16.ofNat plain.bytes.length else 0) := by
      intro tag htag
      rw [decryptAndAuth_eq _ _ _ _ (hcipher.trans_lt hlt) htag, xorStream_xorStream,
        hcode, hcipher]
      rfl
    refine ⟨cipher ++ tagOf (aes key) nonce code, _, rfl, ?_, ?_, ?_, ?_⟩
    · rw [length_append, hcipher, length_tagOf]
    · rw [length_append, hcipher, length_tagOf, UInt32.toNat_add, UInt16.toNat_toUInt32,
        UInt16.toNat_ofNat', Nat.mod_eq_of_lt hlt]
      have hsum : plain.bytes.length + 8 < 2 ^ 32 := by omega
      exact Nat.mod_eq_of_lt hsum
    · refine ⟨_, _, hdecrypt _ (length_tagOf ..), ?_, ?_⟩
      · rw [if_pos rfl]
        exact Nat.mod_eq_of_lt hlt
      · exact take_left' rfl
    · intro tag htag hne
      rw [drop_left' hcipher] at hne
      rw [take_left' hcipher]
      exact ⟨_, (hdecrypt tag htag).trans (by rw [if_neg hne])⟩

/-- With additional data of 4294967295 bytes, the size of the last block is negative. -/
theorem roundTrip_fails :
    ¬ ∀ (aes : BlockCipher) (key nonce : Block) (aad : ℕ → UInt8) (aadLen : UInt32)
        (plain : Plaintext),
      RoundTrips (aes key) nonce aad aadLen plain.bytes := by
  intro hall
  obtain ⟨output, returned, hencrypt, -⟩ := hall xorBlock zeroBlock zeroBlock (fun _ ↦ 0) 4294967295
    ⟨[1], by decide, by decide⟩
  revert hencrypt
  rw [encryptAndAuth_eq _ _ _ _ (by decide), (authenticationCode_eq_none_iff ..).mpr (by decide)]
  simp

end ZipGateway.SecurityS2.Ccm
