import ZipGateway.TransportService.Model

/-!
# Fragments read back

The sender builds fragments in three places, with two header sizes and a packed eleven bit size and
offset; the receiver takes them apart again. For datagrams of up to `DATAGRAM_SIZE_MAX` bytes the
receiver reads back what the sender put in, and the check value is right.

`SessionFrame` is what a send session may put on the air: the first fragment, and for every offset
within the datagram the fragment that starts there and is as long as it may be. The regular
fragments are those whose offset is a multiple of `FragmentMaxPayload`; the others answer segment
requests.
-/

set_option autoImplicit false

namespace ZipGateway.TransportService

open Lib

/-! ### Memory and lists -/

@[simp]
theorem length_readMem (memory : ℕ → UInt8) (start len : ℕ) :
    (readMem memory start len).length = len := by
  simp [readMem]

theorem readMem_congr {first second : ℕ → UInt8} {len : ℕ}
    (h : ∀ i, i < len → first i = second i) : readMem first 0 len = readMem second 0 len := by
  unfold readMem
  apply List.map_congr_left
  intro i hi
  simpa using h i (List.mem_range.mp hi)

theorem readMem_frameMem (frame : List UInt8) :
    readMem (frameMem frame) 0 frame.length = frame := by
  apply List.ext_getElem
  · simp
  · intro i hi hframe
    simp [readMem, frameMem, hframe]

theorem length_addCrc (bytes : List UInt8) : (addCrc bytes).length = bytes.length + 2 := by
  simp [addCrc]

/-- The byte of a checked frame behind its header. -/
theorem frameMem_payload (header : List UInt8) (memory : ℕ → UInt8) (start count i : ℕ)
    (hi : i < count) :
    frameMem (addCrc (header ++ readMem memory start count)) (header.length + i) =
      memory (start + i) := by
  have hbehind : ¬ header.length + i < header.length := by omega
  simp [frameMem, addCrc, List.getElem?_append, readMem, hi, hbehind]

/-- The check value of a frame that the sender built is right. -/
theorem crcValid_addCrc (bytes : List UInt8) :
    crcValid (frameMem (addCrc bytes)) (addCrc bytes).length = true := by
  unfold crcValid
  rw [readMem_frameMem]
  exact decide_eq_true (crc16_crcBytes 0x1021 0x1D0F bytes)

/-! ### Header fields -/

theorem sessionIdOf_ofNat {session : ℕ} (h : session < 16) :
    sessionIdOf (UInt8.ofNat (session * 16)) = session := by
  unfold sessionIdOf
  rw [UInt8.toNat_ofNat_of_lt' (by simp [UInt8.size]; omega)]
  omega

/-- What the receiver reads from a fragment header. -/
structure ReadsAs (cmd : ℕ → UInt8) (command : UInt8) (session len : ℕ) : Prop where
  commandClass : cmd 0 = commandClassTransportService
  command : cmd 1 &&& 0xF8 = command
  size : datagramSizeOf cmd = len
  session : sessionIdOf (cmd 3) = session

section Headers

variable {session len : ℕ} (datagram : ℕ → UInt8) (count : ℕ)

theorem sizeHigh_eq_zero (hlen : len ≤ datagramSizeMax) : UInt8.ofNat (len / 256 % 8) = 0 := by
  have hmax : datagramSizeMax = 200 := rfl
  have hzero : len / 256 = 0 := by omega
  rw [hzero]
  rfl

theorem toNat_ofNat_size (hlen : len ≤ datagramSizeMax) : (UInt8.ofNat len).toNat = len := by
  have hmax : datagramSizeMax = 200 := rfl
  exact UInt8.toNat_ofNat_of_lt' (by simp [UInt8.size]; omega)

theorem firstFragment_readsAs (hsession : session < 16) (hlen : len ≤ datagramSizeMax) :
    ReadsAs (frameMem (firstFragment session datagram len count)) commandFirstFragment session
      len := by
  have hone : frameMem (firstFragment session datagram len count) 1 =
      commandFirstFragment ||| 0 := by
    rw [← sizeHigh_eq_zero hlen]
    rfl
  refine ⟨rfl, ?_, ?_, sessionIdOf_ofNat hsession⟩
  · rw [hone]
    decide
  · unfold datagramSizeOf
    rw [hone]
    change _ + (UInt8.ofNat len).toNat = len
    rw [toNat_ofNat_size hlen]
    simp [commandFirstFragment]

theorem subseqFragment_readsAs {offset : ℕ} (hsession : session < 16)
    (hlen : len ≤ datagramSizeMax) (hoffset : offset < len) :
    ReadsAs (frameMem (subseqFragment session datagram len offset count)) commandSubsequentFragment
      session len ∧
    datagramOffsetOf (frameMem (subseqFragment session datagram len offset count)) = offset := by
  have hone : frameMem (subseqFragment session datagram len offset count) 1 =
      commandSubsequentFragment ||| 0 := by
    rw [← sizeHigh_eq_zero hlen]
    rfl
  have hoffsetMax : offset ≤ datagramSizeMax := by omega
  have hthree : frameMem (subseqFragment session datagram len offset count) 3 =
      UInt8.ofNat (session * 16) := by
    change UInt8.ofNat (session * 16) ||| UInt8.ofNat (offset / 256 % 8) = _
    rw [sizeHigh_eq_zero hoffsetMax]
    simp
  refine ⟨⟨rfl, ?_, ?_, ?_⟩, ?_⟩
  · rw [hone]
    decide
  · unfold datagramSizeOf
    rw [hone]
    change _ + (UInt8.ofNat len).toNat = len
    rw [toNat_ofNat_size hlen]
    simp [commandSubsequentFragment]
  · rw [hthree]
    exact sessionIdOf_ofNat hsession
  · unfold datagramOffsetOf
    rw [hthree]
    change _ + (UInt8.ofNat offset).toNat = offset
    rw [toNat_ofNat_size hoffsetMax, UInt8.toNat_ofNat_of_lt' (by simp [UInt8.size]; omega)]
    omega

theorem length_firstFragment :
    (firstFragment session datagram len count).length = firstFragNonpayloadLength + count := by
  simp [firstFragment, length_addCrc, firstFragNonpayloadLength]
  omega

theorem length_subseqFragment (offset : ℕ) :
    (subseqFragment session datagram len offset count).length =
      subseqFragNonpayloadLength + count := by
  simp [subseqFragment, length_addCrc, subseqFragNonpayloadLength]
  omega

theorem firstFragment_payload {i : ℕ} (hi : i < count) :
    frameMem (firstFragment session datagram len count) (firstHdrLen + i) = datagram i := by
  have hpayload := frameMem_payload [commandClassTransportService,
    commandFirstFragment ||| UInt8.ofNat (len / 256 % 8), UInt8.ofNat len,
    UInt8.ofNat (session * 16)] datagram 0 count i hi
  rwa [Nat.zero_add] at hpayload

theorem subseqFragment_payload {offset i : ℕ} (hi : i < count) :
    frameMem (subseqFragment session datagram len offset count) (subseqHdrLen + i) =
      datagram (offset + i) :=
  frameMem_payload [commandClassTransportService,
    commandSubsequentFragment ||| UInt8.ofNat (len / 256 % 8), UInt8.ofNat len,
    UInt8.ofNat (session * 16) ||| UInt8.ofNat (offset / 256 % 8), UInt8.ofNat offset]
    datagram offset count i hi

end Headers

/-! ### The frames of a session -/

/-- The fragment of a datagram that starts at an offset, as long as it may be. -/
def fragmentAt (session : ℕ) (datagram : ℕ → UInt8) (len maxPayload offset : ℕ) : List UInt8 :=
  subseqFragment session datagram len offset (min maxPayload (len - offset))

/-- The first fragment of a session. -/
def openingFrame (session : ℕ) (datagram : ℕ → UInt8) (len maxPayload : ℕ) : List UInt8 :=
  firstFragment session datagram len (min maxPayload len)

/-- The frame is one that a send session may put on the air. -/
def SessionFrame (session : ℕ) (datagram : ℕ → UInt8) (len maxPayload : ℕ)
    (frame : List UInt8) : Prop :=
  frame = openingFrame session datagram len maxPayload ∨
    ∃ offset, offset < len ∧ frame = fragmentAt session datagram len maxPayload offset

end ZipGateway.TransportService
