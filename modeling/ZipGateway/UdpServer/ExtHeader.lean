import ZipGateway.Lib.Scratch
import ZipGateway.ClassicZipNode.Scheme

/-!
# The encoder of the header extension

`add_ext_header` appends an option to the header extension of a Z/IP packet. While the extension has
at most 255 bytes, its first byte is its size. Behind that, an option with the size stands in front
of the others: the call that crosses 255 moves them to make room for it.

All sizes are kept in 16 bits, also the one that is compared with the size of the buffer.
`right_iff` says that the extension is what the calls have asked for exactly when no call gets past
this comparison because of an overflow.
-/

set_option autoImplicit false

namespace ZipGateway.UdpServer.ExtHeader

open Lib
open ClassicZipNode (zipHeaderSize sub16 flags1HdrExtIncl)

/-! ### Options and calls -/

/-- A length of two bytes. -/
def length16 (high low : UInt8) : ℕ := high.toNat * 256 + low.toNat

/-- The number of bytes that the length of an option has. -/
inductive OptLenSize
  | one
  | two
deriving DecidableEq, Repr

/-- `opt_len_size`. -/
def OptLenSize.toNat : OptLenSize → ℕ
  | one => 1
  | two => 2

/-- An option of the header extension. -/
structure ExtOption where
  type : UInt8
  value : List UInt8
  lenSize : OptLenSize
deriving DecidableEq

def ExtOption.size (option : ExtOption) : ℕ := 1 + option.lenSize.toNat + option.value.length

/-- The length of an option, as it stands in the packet. -/
def ExtOption.lengthField (option : ExtOption) : List UInt8 :=
  match option.lenSize with
  | .one => [UInt8.ofNat option.value.length]
  | .two => [UInt8.ofNat (option.value.length / 256), UInt8.ofNat option.value.length]

/-- The bytes of an option. -/
def ExtOption.encoded (option : ExtOption) : List UInt8 :=
  option.type :: (option.lengthField ++ option.value)

/-- A call of `add_ext_header`, apart from the packet. -/
structure Call where
  bufsize : ℤ
  option : ExtOption
  /-- `opt_len` is a `uint16_t`. -/
  isWord : option.value.length < 65536
  /-- The option is not the one with the length of the extension. -/
  isOther : option.type &&& optionTypeMask ≠ extZipPacketHeaderLength

/-- The length is too large for the one byte that it should have. -/
def Call.TooLong (call : Call) : Prop := call.option.lenSize = .one ∧ 255 < call.option.value.length

instance (call : Call) : Decidable call.TooLong := inferInstanceAs (Decidable (_ ∧ _))

/-! ### The encoder -/

section Packet

variable (packet : ℕ → UInt8)

/-- The packet has a header extension. -/
def Extended : Prop := packet 3 &&& flags1HdrExtIncl ≠ 0

instance : Decidable (Extended packet) := inferInstanceAs (Decidable (_ ≠ _))

/-- The first option has the size of the extension. -/
def HasLengthOption : Prop :=
  packet zipHeaderSize = 0xFF ∧
    packet (zipHeaderSize + 1) &&& optionTypeMask = extZipPacketHeaderLength

instance : Decidable (HasLengthOption packet) := inferInstanceAs (Decidable (_ ∧ _))

/-- The size of the extension that a packet has. -/
def payloadSize : ℕ :=
  if HasLengthOption packet then length16 (packet (zipHeaderSize + 3)) (packet (zipHeaderSize + 4))
  else (packet zipHeaderSize).toNat

/-- `payload_size_before`. -/
def payloadSizeBefore : ℕ := if Extended packet then payloadSize packet else 0

/-- `new_option_offset`. -/
def newOptionOffset : ℕ := if Extended packet then payloadSize packet else 1

/-- The option with the size is already there. -/
def LongAlready : Prop := Extended packet ∧ HasLengthOption packet

instance : Decidable (LongAlready packet) := inferInstanceAs (Decidable (_ ∧ _))

/-- `payload_size_after`, without the option for the size. -/
def payloadSizeAfter (option : ExtOption) : ℕ := (newOptionOffset packet + option.size) % 65536

/-- The option for the size has to be added. -/
def NeedsLengthOption (option : ExtOption) : Prop :=
  255 < payloadSizeAfter packet option ∧ ¬LongAlready packet

instance (option : ExtOption) : Decidable (NeedsLengthOption packet option) :=
  inferInstanceAs (Decidable (_ ∧ _))

/-- `required_buffer_size`. -/
def requiredBufferSize (option : ExtOption) : ℕ :=
  (zipHeaderSize + payloadSizeAfter packet option + if NeedsLengthOption packet option then 4
    else 0) % 65536

/-- The size in the option for it. -/
def putLengthOption (total : ℕ) (scratch : Scratch) : Scratch :=
  (scratch.put zipHeaderSize [0xFF]).put (zipHeaderSize + 1)
    [optionCriticalFlag ||| extZipPacketHeaderLength, 2, UInt8.ofNat (total / 256),
      UInt8.ofNat total]

/-- `memmove` of what follows the first byte of the extension. -/
def moveOptions (total : ℕ) (scratch : Scratch) : Scratch :=
  scratch.put (zipHeaderSize + 5) (scratch.buffer.load (zipHeaderSize + 1) (total - 1))

/-- The flag for the header extension. -/
def putFlag (scratch : Scratch) : Scratch := scratch.put 3 [scratch.byte 3 ||| flags1HdrExtIncl]

/-- The buffer at the start of a call. -/
def Call.scratch (call : Call) : Scratch where
  buffer := ⟨call.bufsize.toNat, packet⟩
  written := fun _ ↦ false
  inside := true

/-- `add_ext_header`: the packet with what was written, and the number of bytes that were added. -/
def addExtHeader (call : Call) : Scratch × ℕ :=
  let after := payloadSizeAfter packet call.option
  if call.TooLong then (call.scratch packet, 0)
  else if call.bufsize < requiredBufferSize packet call.option then (call.scratch packet, 0)
  else
    let stored :=
      (call.scratch packet).put (zipHeaderSize + newOptionOffset packet) call.option.encoded
    if NeedsLengthOption packet call.option then
      let total := (after + 4) % 65536
      (putFlag (putLengthOption total (moveOptions after stored)),
        sub16 total (payloadSizeBefore packet))
    else if 255 < after then
      (putFlag (putLengthOption after stored), sub16 after (payloadSizeBefore packet))
    else (putFlag (stored.put zipHeaderSize [UInt8.ofNat after]),
      sub16 after (payloadSizeBefore packet))

/-! ### Decoding -/

/-- The length of the option at a position. -/
def lengthAt (pos : ℕ) : OptLenSize → ℕ
  | .one => (packet (pos + 1)).toNat
  | .two => length16 (packet (pos + 1)) (packet (pos + 2))

/-- The option at a position. -/
def optionAt (pos : ℕ) (lenSize : OptLenSize) : ExtOption where
  type := packet pos
  value := (List.range (lengthAt packet pos lenSize)).map fun i ↦
    packet (pos + 1 + lenSize.toNat + i)
  lenSize := lenSize

/-- The options from a position on, of whose lengths the sizes are known. They have to end where the
extension does. -/
def decodeFrom (stop : ℕ) : List OptLenSize → ℕ → Option (List ExtOption)
  | [], pos => if pos = stop then some [] else none
  | lenSize :: rest, pos =>
    let option := optionAt packet pos lenSize
    (decodeFrom stop rest (pos + option.size)).map (option :: ·)

/-- The options of a packet. -/
def decode (lenSizes : List OptLenSize) : Option (List ExtOption) :=
  if Extended packet then
    decodeFrom packet (zipHeaderSize + payloadSize packet) lenSizes
      (if HasLengthOption packet then zipHeaderSize + 5 else zipHeaderSize + 1)
  else if lenSizes = [] then some []
  else none

end Packet

/-! ### Runs -/

/-- A packet without a header extension. -/
structure BarePacket where
  byte : ℕ → UInt8
  isBare : ¬Extended byte

/-- A packet, with what the calls for it have said. -/
structure Encoder where
  packet : ℕ → UInt8
  /-- The options of the calls that did not return 0. -/
  options : List ExtOption
  /-- The sum of what the calls have returned. -/
  sum : ℕ

/-- The start of a run. -/
def BarePacket.start (bare : BarePacket) : Encoder := ⟨bare.byte, [], 0⟩

/-- One call. -/
def Encoder.step (encoder : Encoder) (call : Call) : Encoder :=
  let added := addExtHeader encoder.packet call
  { packet := added.1.byte
    options := if added.2 = 0 then encoder.options else encoder.options ++ [call.option]
    sum := encoder.sum + added.2 }

/-- The extension has the options of the calls that did not return 0, and its size is the sum of
what they returned. -/
def Encoder.Decodes (encoder : Encoder) : Prop :=
  decode encoder.packet (encoder.options.map ExtOption.lenSize) = some encoder.options ∧
    payloadSizeBefore encoder.packet = encoder.sum

/-- A call does what it should. -/
structure Right (encoder : Encoder) (call : Call) : Prop where
  inside : (addExtHeader encoder.packet call).1.inside = true
  untouched : (addExtHeader encoder.packet call).2 = 0 →
    (∀ i, (addExtHeader encoder.packet call).1.written i = false) ∧
      (encoder.step call).packet = encoder.packet
  decodes : (encoder.step call).Decodes

/-- The size of an extension with some options, without the option for the size. -/
def area (options : List ExtOption) : ℕ := 1 + (options.map ExtOption.size).sum

/-- The size of an extension with some options. -/
def total (options : List ExtOption) : ℕ :=
  if options = [] then 0 else if area options ≤ 255 then area options else area options + 4

/-- There is room for the option in the buffer and in the sizes of 16 bits, unless the call is
rejected. -/
def Spares (encoder : Encoder) (call : Call) : Prop :=
  call.TooLong ∨ call.bufsize < requiredBufferSize encoder.packet call.option ∨
    (total (encoder.options ++ [call.option]) < 65536 ∧
      (zipHeaderSize + total (encoder.options ++ [call.option]) : ℕ) ≤ call.bufsize)

end ZipGateway.UdpServer.ExtHeader
