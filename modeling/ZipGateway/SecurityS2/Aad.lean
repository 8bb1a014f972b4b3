import ZipGateway.SecurityS2.Receive

/-!
# Security 2: the additional authenticated data

`S2_make_aad` as `S2_decrypt_msg` calls it. A frame with a Long Range node has two bytes more in
front of its header than one with two classic nodes, and the test for room in the buffer counts
those of a classic frame. `aad_injective` says that the data of two frames with one layout are
different, and which frames of different layouts have the same data.
-/

set_option autoImplicit false

namespace ZipGateway.SecurityS2

open Lib List

/-! ### Big-endian numbers -/

section BigEndian

theorem toNat_shiftRight_toUInt8 (n : UInt16) : (n >>> 8).toUInt8.toNat = n.toNat / 256 := by
  have hlt := n.toNat_lt
  rw [UInt16.toNat_toUInt8, UInt16.toNat_shiftRight]
  change n.toNat >>> 8 % 2 ^ 8 = n.toNat / 256
  rw [Nat.shiftRight_eq_div_pow]
  omega

/-- The two bytes of a number. -/
theorem bytes16_eq_iff {n : UInt16} {high low : UInt8} :
    bytes16 n = [high, low] ↔ n.toNat = high.toNat * 256 + low.toNat := by
  have hn := n.toNat_lt
  have hhigh := high.toNat_lt
  have hlow := low.toNat_lt
  unfold bytes16
  rw [List.cons.injEq, List.cons.injEq, ← UInt8.toNat_inj, ← UInt8.toNat_inj,
    toNat_shiftRight_toUInt8, UInt16.toNat_toUInt8]
  simp only [and_true]
  omega

/-- The octets of a length. -/
theorem octets_eq_iff {n : ℕ} (hn : n < 65536) {high low : UInt8} :
    octets n = [high, low] ↔ n = high.toNat * 256 + low.toNat := by
  have hhigh := high.toNat_lt
  have hlow := low.toNat_lt
  unfold octets
  rw [List.cons.injEq, List.cons.injEq, ← UInt8.toNat_inj, ← UInt8.toNat_inj, UInt8.toNat_ofNat',
    UInt8.toNat_ofNat']
  simp only [and_true]
  omega

theorem toNat_byte_of_shift (n : UInt32) (amount : UInt32) (hamount : amount.toNat < 32) :
    (n >>> amount).toUInt8.toNat = n.toNat / 2 ^ amount.toNat % 256 := by
  rw [UInt32.toNat_toUInt8, UInt32.toNat_shiftRight, Nat.mod_eq_of_lt hamount,
    Nat.shiftRight_eq_div_pow]

theorem toNat_shift24 (n : UInt32) : (n >>> 24).toUInt8.toNat = n.toNat / 16777216 % 256 :=
  toNat_byte_of_shift n 24 (by decide)

theorem toNat_shift16 (n : UInt32) : (n >>> 16).toUInt8.toNat = n.toNat / 65536 % 256 :=
  toNat_byte_of_shift n 16 (by decide)

theorem toNat_shift8 (n : UInt32) : (n >>> 8).toUInt8.toNat = n.toNat / 256 % 256 :=
  toNat_byte_of_shift n 8 (by decide)

/-- The four bytes of a number. -/
theorem bytes32_eq_iff {n : UInt32} {a b c d : UInt8} :
    bytes32 n = [a, b, c, d] ↔
      n.toNat = a.toNat * 16777216 + b.toNat * 65536 + c.toNat * 256 + d.toNat := by
  have hn := n.toNat_lt
  have ha := a.toNat_lt
  have hb := b.toNat_lt
  have hc := c.toNat_lt
  have hd := d.toNat_lt
  unfold bytes32
  simp only [List.cons.injEq, and_true]
  rw [← UInt8.toNat_inj, ← UInt8.toNat_inj, ← UInt8.toNat_inj, ← UInt8.toNat_inj,
    toNat_shift24, toNat_shift16, toNat_shift8, UInt32.toNat_toUInt8]
  omega

/-- The upper half of a number of four bytes. -/
theorem pieces_high {home : ℕ} (hhome : home < 2 ^ 32) :
    home / 16777216 % 256 * 256 + home / 65536 % 256 = home / 65536 := by
  omega

/-- The lower half of a number of four bytes, in front of a length. -/
theorem pieces_low {home len : ℕ} (hlen : len < 65536) :
    home / 256 % 256 * 16777216 + home % 2 ^ 8 * 65536 + len / 256 % 2 ^ 8 * 256 + len % 2 ^ 8 =
      home % 65536 * 65536 + len := by
  omega

theorem bytes16_inj {n m : UInt16} : bytes16 n = bytes16 m ↔ n = m := by
  refine ⟨fun heq ↦ UInt16.toNat_inj.mp ?_, congrArg bytes16⟩
  exact (bytes16_eq_iff.mp rfl).trans (bytes16_eq_iff.mp heq.symm).symm

theorem bytes32_inj {n m : UInt32} : bytes32 n = bytes32 m ↔ n = m := by
  refine ⟨fun heq ↦ UInt32.toNat_inj.mp ?_, congrArg bytes32⟩
  exact (bytes32_eq_iff.mp rfl).trans (bytes32_eq_iff.mp heq.symm).symm

theorem octets_inj {n m : ℕ} (hn : n < 65536) (hm : m < 65536) : octets n = octets m ↔ n = m := by
  refine ⟨fun heq ↦ ?_, congrArg octets⟩
  exact ((octets_eq_iff hn).mp rfl).trans ((octets_eq_iff hm).mp heq.symm).symm

/-- The pieces of two lists are the same when the first ones have one length. -/
theorem append_eq_iff {a b c d : List UInt8} (hlength : a.length = b.length) :
    a ++ c = b ++ d ↔ a = b ∧ c = d := by
  constructor
  · exact fun heq ↦ append_inj heq hlength
  · rintro ⟨rfl, rfl⟩
    rfl

end BigEndian

/-! ### The calls -/

/-- A call of `S2_make_aad` in `S2_decrypt_msg`: the loop over the clear extensions of a frame has
ended with this length of the header. -/
structure AadCall where
  sender : UInt16
  receiver : UInt16
  homeId : UInt32
  msg : List UInt8
  hdrLen : ℕ
  long : 4 + authTagLen ≤ msg.length
  small : msg.length < 65536
  parsed : ∃ env conn span state, (parseClear env conn span msg state).2 = some hdrLen

namespace AadCall

/-- The bytes of the header from the third one on. -/
def header (x : AadCall) : List UInt8 := (x.msg.take x.hdrLen).drop 2

/-- The data that is made; empty when the function returns 0. -/
def aad (x : AadCall) : List UInt8 :=
  makeAad x.homeId x.sender x.receiver (x.msg.take x.hdrLen) x.msg.length

/-- One of the nodes is a Long Range node. -/
def IsLongRange (x : AadCall) : Prop := 0x0100 ≤ x.sender ∨ 0x0100 ≤ x.receiver

/-- The number of bytes that are written. The number that is given to `memcpy` is a `size_t`. -/
def written (x : AadCall) : ℕ :=
  if x.aad = [] then 0
  else (aadNodes x.sender x.receiver).length + 6 + (x.hdrLen + 2 ^ 64 - 2) % 2 ^ 64

/-- The size test misses the two bytes more of a Long Range frame, or the length of the header has
wrapped around to less than the two bytes that are left out. -/
def Slips (x : AadCall) : Prop := x.hdrLen < 2 ∨ x.IsLongRange ∧ 56 < x.hdrLen

/-- The fields of two calls are the same. -/
def Same (x y : AadCall) : Prop :=
  x.sender = y.sender ∧ x.receiver = y.receiver ∧ x.homeId = y.homeId ∧
    x.msg.length = y.msg.length ∧ x.header = y.header

/-- The fields of a Long Range call are those of a classic one, read two bytes later. -/
def Shifted (x y : AadCall) : Prop :=
  ¬ x.IsLongRange ∧ y.IsLongRange ∧ y.sender.toNat = x.sender.toNat * 256 + x.receiver.toNat ∧
    y.receiver.toNat = x.homeId.toNat / 65536 ∧
      y.homeId.toNat = x.homeId.toNat % 65536 * 65536 + x.msg.length ∧
        x.header = octets y.msg.length ++ y.header

/-! ### The length -/

/-- The loop over extensions ends inside its limit. -/
theorem parseExtensions_le {Local : Type} {limit : ℕ} {handle : List UInt8 → Local → Local × Bool}
    {fuel hdrLen : ℕ} {ext : List UInt8} {state : Local} {found : ℕ}
    (hfound : (parseExtensions limit handle fuel hdrLen ext state).2 = some found) :
    found ≤ limit := by
  induction fuel generalizing hdrLen ext state with
  | zero => exact absurd hfound (by simp [parseExtensions])
  | succ fuel ih =>
    unfold parseExtensions at hfound
    dsimp only at hfound
    split_ifs at hfound with hlimit hmore
    · split at hfound
      · exact absurd hfound (by simp)
      · exact ih hfound
    · split at hfound
      · exact absurd hfound (by simp)
      · have hle := not_lt.mp (not_or.mp hlimit).1
        rw [Option.some_inj.mp hfound] at hle
        exact hle

variable (x y : AadCall)

/-- The header is a part of the message. -/
theorem hdrLen_le : x.hdrLen ≤ x.msg.length := by
  obtain ⟨env, conn, span, state, hparsed⟩ := x.parsed
  have hlong := x.long
  unfold parseClear at hparsed
  split_ifs at hparsed
  · exact (parseExtensions_le hparsed).trans (Nat.sub_le _ _)
  · rw [← Option.some_inj.mp hparsed]
    exact (Nat.le_add_right _ _).trans hlong

/-- The data of a call, when there is room for it by the test. -/
theorem aad_eq : x.aad =
    if 64 < x.hdrLen - 2 + 8 then []
    else aadNodes x.sender x.receiver ++ bytes32 x.homeId ++ octets x.msg.length ++ x.header := by
  unfold aad makeAad header
  rw [length_take, Nat.min_eq_left x.hdrLen_le]

theorem length_aadNodes_le (sender receiver : UInt16) : (aadNodes sender receiver).length ≤ 4 := by
  unfold aadNodes
  split_ifs
  · exact Nat.le_refl 4
  · exact Nat.le_add_right 2 2

theorem length_aadNodes_classic
    (hclassic : ¬ x.IsLongRange) : (aadNodes x.sender x.receiver).length = 2 := by
  unfold AadCall.IsLongRange at hclassic
  unfold aadNodes
  rw [if_neg hclassic]
  rfl

/-- Apart from the slip, the function stays inside its buffer. -/
theorem written_le (hslip : ¬ x.Slips) : x.written ≤ 64 := by
  obtain ⟨hlong, hrange⟩ := not_or.mp hslip
  have hwrap : (x.hdrLen + 2 ^ 64 - 2) % 2 ^ 64 = x.hdrLen - 2 := by
    have hle := x.hdrLen_le
    have hsmall := x.small
    omega
  unfold written
  split_ifs with hzero
  · exact Nat.zero_le 64
  · rw [hwrap]
    have hroom : ¬ 64 < x.hdrLen - 2 + 8 := by
      intro hover
      apply hzero
      rw [x.aad_eq, if_pos hover]
    by_cases hlr : x.IsLongRange
    · have hle := length_aadNodes_le x.sender x.receiver
      have hshort : ¬ 56 < x.hdrLen := fun h ↦ hrange ⟨hlr, h⟩
      omega
    · rw [x.length_aadNodes_classic hlr]
      omega

/-! ### The data -/

/-- The data of a call that is not refused, as the numbers of two bytes, four bytes and two bytes
behind the nodes. -/
theorem aad_of_ne_nil (hne : x.aad ≠ []) :
    x.aad = aadNodes x.sender x.receiver ++
      (bytes32 x.homeId ++ (octets x.msg.length ++ x.header)) := by
  have haad := x.aad_eq
  split_ifs at haad with hroom
  · exact absurd haad hne
  · rw [haad, append_assoc, append_assoc]

variable {x y}

theorem aadNodes_longRange (hlr : x.IsLongRange) :
    aadNodes x.sender x.receiver = bytes16 x.sender ++ bytes16 x.receiver :=
  if_pos hlr

theorem aadNodes_classic (hclassic : ¬ x.IsLongRange) :
    aadNodes x.sender x.receiver = [x.sender.toUInt8, x.receiver.toUInt8] :=
  if_neg hclassic

/-- The nodes of a classic call have one byte. -/
theorem nodes_lt (hclassic : ¬ x.IsLongRange) : x.sender.toNat < 256 ∧ x.receiver.toNat < 256 := by
  obtain ⟨hsender, hreceiver⟩ := not_or.mp hclassic
  have hsender : x.sender.toNat < (0x0100 : UInt16).toNat :=
    UInt16.lt_iff_toNat_lt.mp (UInt16.not_le.mp hsender)
  have hreceiver : x.receiver.toNat < (0x0100 : UInt16).toNat :=
    UInt16.lt_iff_toNat_lt.mp (UInt16.not_le.mp hreceiver)
  exact ⟨hsender, hreceiver⟩

/-- A node of one byte is told by it. -/
theorem toNat_toUInt8_of_lt {node : UInt16} (hnode : node.toNat < 256) :
    node.toUInt8.toNat = node.toNat := by
  rw [UInt16.toNat_toUInt8]
  exact Nat.mod_eq_of_lt hnode

/-- The nodes of two calls with one layout are the same when their bytes are. -/
theorem aadNodes_eq_iff (hlayout : x.IsLongRange ↔ y.IsLongRange) :
    aadNodes x.sender x.receiver = aadNodes y.sender y.receiver ↔
      x.sender = y.sender ∧ x.receiver = y.receiver := by
  by_cases hlr : x.IsLongRange
  · rw [aadNodes_longRange hlr, aadNodes_longRange (hlayout.mp hlr), append_eq_iff (by rfl),
      bytes16_inj, bytes16_inj]
  · have hlr' : ¬ y.IsLongRange := fun h ↦ hlr (hlayout.mpr h)
    obtain ⟨hxs, hxr⟩ := nodes_lt hlr
    obtain ⟨hys, hyr⟩ := nodes_lt hlr'
    rw [aadNodes_classic hlr, aadNodes_classic hlr', List.cons.injEq, List.cons.injEq,
      ← UInt8.toNat_inj,
      ← UInt8.toNat_inj, toNat_toUInt8_of_lt hxs, toNat_toUInt8_of_lt hxr, toNat_toUInt8_of_lt hys,
      toNat_toUInt8_of_lt hyr, UInt16.toNat_inj, UInt16.toNat_inj]
    simp only [and_true]

/-- The data of two calls with one layout are the same when their fields are. -/
theorem aad_eq_iff_same (hx : x.aad ≠ []) (hy : y.aad ≠ [])
    (hlayout : x.IsLongRange ↔ y.IsLongRange) : x.aad = y.aad ↔ x.Same y := by
  have hlength : (aadNodes x.sender x.receiver).length = (aadNodes y.sender y.receiver).length := by
    by_cases hlr : x.IsLongRange
    · rw [aadNodes_longRange hlr, aadNodes_longRange (hlayout.mp hlr)]
      rfl
    · rw [length_aadNodes_classic x hlr, length_aadNodes_classic y fun h ↦ hlr (hlayout.mpr h)]
  rw [aad_of_ne_nil x hx, aad_of_ne_nil y hy, append_eq_iff hlength, append_eq_iff (by rfl),
    append_eq_iff (by rfl),
    aadNodes_eq_iff hlayout, bytes32_inj, octets_inj x.small y.small, and_assoc]
  rfl

/-- The data of a classic call and of a Long Range call are the same when the fields are shifted. -/
theorem aad_eq_iff_shifted (hx : x.aad ≠ []) (hy : y.aad ≠ []) (hclassic : ¬ x.IsLongRange)
    (hlr : y.IsLongRange) : x.aad = y.aad ↔ x.Shifted y := by
  obtain ⟨hsender, hreceiver⟩ := nodes_lt hclassic
  have hhome := x.homeId.toNat_lt
  have hlen := x.small
  -- the pieces of the classic data, cut where those of the Long Range data end
  have hcut : x.aad = [x.sender.toUInt8, x.receiver.toUInt8] ++
      ([(x.homeId >>> 24).toUInt8, (x.homeId >>> 16).toUInt8] ++
        ([(x.homeId >>> 8).toUInt8, x.homeId.toUInt8, UInt8.ofNat (x.msg.length / 256),
          UInt8.ofNat x.msg.length] ++
          x.header)) := by
    rw [aad_of_ne_nil x hx, aadNodes_classic hclassic]
    rfl
  have hpieces : y.aad =
      bytes16 y.sender ++
        (bytes16 y.receiver ++ (bytes32 y.homeId ++ (octets y.msg.length ++ y.header))) := by
    rw [aad_of_ne_nil y hy, aadNodes_longRange hlr, append_assoc]
  rw [hcut, hpieces, append_eq_iff (by rfl), append_eq_iff (by rfl), append_eq_iff (by rfl)]
  rw [eq_comm, bytes16_eq_iff, toNat_toUInt8_of_lt hsender, toNat_toUInt8_of_lt hreceiver]
  rw [@eq_comm _ [(x.homeId >>> 24).toUInt8, _], bytes16_eq_iff, toNat_shift24, toNat_shift16]
  rw [@eq_comm _ _ (bytes32 y.homeId), bytes32_eq_iff, toNat_shift8, UInt32.toNat_toUInt8,
    UInt8.toNat_ofNat', UInt8.toNat_ofNat']
  rw [pieces_high hhome, pieces_low hlen]
  unfold Shifted
  simp only [hclassic, hlr, not_false_iff, true_and]

/-- Two calls are one classic and one Long Range call, or they have one layout. -/
theorem aad_eq_iff (hx : x.aad ≠ []) (hy : y.aad ≠ []) :
    x.aad = y.aad ↔ x.Same y ∨ x.Shifted y ∨ y.Shifted x := by
  have hsame : x.Same y → (x.IsLongRange ↔ y.IsLongRange) := by
    rintro ⟨hsender, hreceiver, -⟩
    unfold IsLongRange
    rw [hsender, hreceiver]
  by_cases hxlr : x.IsLongRange
  · have hnot : ¬ x.Shifted y := fun h ↦ h.1 hxlr
    by_cases hylr : y.IsLongRange
    · have hnot' : ¬ y.Shifted x := fun h ↦ h.1 hylr
      rw [aad_eq_iff_same hx hy (iff_of_true hxlr hylr)]
      simp only [hnot, hnot', or_false]
    · have hdiff : ¬ x.Same y := fun h ↦ hylr ((hsame h).mp hxlr)
      rw [eq_comm, aad_eq_iff_shifted hy hx hylr hxlr]
      simp only [hnot, hdiff, false_or]
  · have hnot : ¬ y.Shifted x := fun h ↦ hxlr h.2.1
    by_cases hylr : y.IsLongRange
    · have hdiff : ¬ x.Same y := fun h ↦ hxlr ((hsame h).mpr hylr)
      rw [aad_eq_iff_shifted hx hy hxlr hylr]
      simp only [hnot, hdiff, false_or, or_false]
    · have hnot' : ¬ x.Shifted y := fun h ↦ hylr h.2.1
      rw [aad_eq_iff_same hx hy (iff_of_false hxlr hylr)]
      simp only [hnot, hnot', or_false]

end AadCall

/-! ### When two calls give the same data -/

/-- Apart from the slip of the size test, `S2_make_aad` returns 0 or stays inside its buffer, and
the data of two calls are the same exactly when their fields are, or when one is a classic call and
the other one the Long Range call whose fields are shifted by two bytes. -/
theorem aad_injective (x y : AadCall) :
    (x.Slips ∨ x.written ≤ 64) ∧
      (x.Slips ∨ y.Slips ∨ x.aad = [] ∨ y.aad = [] ∨
        (x.aad = y.aad ↔ x.Same y ∨ x.Shifted y ∨ y.Shifted x)) := by
  constructor
  · exact or_iff_not_imp_left.mpr x.written_le
  · by_cases hx : x.aad = []
    · exact .inr (.inr (.inl hx))
    · by_cases hy : y.aad = []
      · exact .inr (.inr (.inr (.inl hy)))
      · exact .inr (.inr (.inr (.inr (AadCall.aad_eq_iff hx hy))))

/-- A frame of 256 bytes from node 1 to node 5, with a MOS extension. -/
def classicCall : AadCall where
  sender := 1
  receiver := 5
  homeId := 0x01000100
  msg := [0x9F, 0x03, 1, 1, 2, 4] ++ List.replicate 250 0
  hdrLen := 6
  long := by decide +kernel
  small := by decide +kernel
  parsed := ⟨sampleEnv, sampleConnection, none,
    ⟨emptyCtx 0x01000100 Drbg.zero, none, none⟩, by decide +kernel⟩

/-- A frame of 257 bytes from the Long Range node 261 to the Long Range node 256, with no
extension. -/
def longRangeCall : AadCall where
  sender := 0x0105
  receiver := 0x0100
  homeId := 0x01000100
  msg := [0x9F, 0x03, 2, 4] ++ List.replicate 253 0
  hdrLen := 4
  long := by decide +kernel
  small := by decide +kernel
  parsed := ⟨sampleEnv, sampleConnection, none,
    ⟨emptyCtx 0x01000100 Drbg.zero, none, none⟩, by decide +kernel⟩

/-- The two frames have the same data. -/
theorem layouts_collide :
    ¬ ∀ x y : AadCall, x.written ≤ 64 ∧ (x.aad ≠ [] → x.aad = y.aad → x.Same y) := by
  intro hall
  have hsame := (hall classicCall longRangeCall).2 (by decide +kernel) (by decide +kernel)
  exact absurd hsame.1 (by decide)

end ZipGateway.SecurityS2
