import ZipGateway.Lib.Scratch
import ZipGateway.ClassicZipNode.Scheme

/-!
# The Z/IP packets that are sent

`ZW_SendData_UDP` puts a Z/IP packet together on the stack: the header, an extension with the format
of the encapsulation and, for a command that came by multicast or broadcast, an option that says so,
and the payload. The buffer has room for the largest payload and the first of the two options. So
the payload is written past the end of the buffer when there are both options and it is the largest
one, or one byte shorter (`assembled_fits_iff`).
-/

set_option autoImplicit false

namespace ZipGateway.UdpServer.SendData

open Lib List
open ClassicZipNode
  (zipHeaderSize commandClassZip flags0AckReq flags1HdrExtIncl flags1ZwCmdIncl flags1SecureOrigin)

def maxUdpPayloadLen : ℕ := 512

def maxZipHeaderSize : ℕ := zipHeaderSize + 5

def zwaveMulticastAddressing : UInt8 := 5

def receiveStatusTypeMask : UInt8 := 0x0C

def receiveStatusTypeBroad : UInt8 := 0x04

def receiveStatusTypeMulti : UInt8 := 0x08

/-- What a packet has of a `zwave_connection_t`. -/
structure Connection where
  scheme : UInt8
  rxFlags : UInt8
  lendpoint : UInt8
  rendpoint : UInt8

/-- The command came by multicast or broadcast. -/
def Connection.Many (c : Connection) : Prop :=
  c.rxFlags &&& receiveStatusTypeMask = receiveStatusTypeMulti ∨
    c.rxFlags &&& receiveStatusTypeMask = receiveStatusTypeBroad

instance (c : Connection) : Decidable c.Many := inferInstanceAs (Decidable (_ ∨ _))

/-- What is sent, and the state of the gateway for it. -/
structure Send where
  data : List UInt8
  ackreq : Bool
  /-- `net_scheme`. -/
  netScheme : UInt8
  seqNo : UInt8
  /-- What is on the stack where `udp_buffer` is. -/
  stack : ℕ → UInt8
  /-- `datalen` is a `u16_t`. -/
  isWord : data.length < 65536

/-- `udp_buffer` and what `udp_send_wrap` sends of it. -/
structure Sent where
  udpBuffer : Scratch
  length : ℕ

/-- The two bytes of the format of the encapsulation. -/
def efiOfScheme (scheme : UInt8) : UInt8 × UInt8 :=
  if scheme = useCrc16 then (efiSecLevelNone, efiFlagCrc16)
  else if scheme = securityScheme0 then (efiSecS0, 0)
  else if scheme = securityScheme2Unauthenticated then (efiSecS2Unauthenticated, 0)
  else if scheme = securityScheme2Authenticated then (efiSecS2Authenticated, 0)
  else if scheme = securityScheme2Access then (efiSecS2Access, 0)
  else (efiSecLevelNone, 0)

/-- `udp_buffer` at the start of the function. -/
def Send.udpBuffer (send : Send) : Scratch where
  buffer := ⟨maxUdpPayloadLen + maxZipHeaderSize, send.stack⟩
  written := fun _ ↦ false
  inside := true

/-- The fixed header of the packet. -/
def Send.header (send : Send) (c : Connection) : List UInt8 :=
  let flags0 := if send.ackreq then flags0AckReq else 0
  let included :=
    if send.data.length = 0 then flags1HdrExtIncl else flags1ZwCmdIncl ||| flags1HdrExtIncl
  let flags1 := if c.scheme ≠ noScheme then included ||| flags1SecureOrigin else included
  [commandClassZip, commandZipPacket, flags0, flags1, send.seqNo, c.lendpoint, c.rendpoint]

def Send.formatOption (send : Send) (c : Connection) : List UInt8 :=
  let efi := efiOfScheme (if c.scheme = securitySchemeUdp then send.netScheme else c.scheme)
  [optionCriticalFlag ||| encapsulationFormatInfo, 2, efi.1, efi.2]

def multicastOption (c : Connection) : List UInt8 :=
  if c.Many then [zwaveMulticastAddressing, 0] else []

/-- `ZW_SendData_UDP`. -/
def zwSendDataUdp (c : Connection) (send : Send) : Option Sent :=
  if maxUdpPayloadLen + maxZipHeaderSize < send.data.length + maxZipHeaderSize then none
  else
    let header := send.udpBuffer.put 0 (send.header c)
    let format := header.put zipHeaderSize (0 :: send.formatOption c)
    let i := 1 + (send.formatOption c).length
    let multicast := format.put (zipHeaderSize + i) (multicastOption c)
    let i := i + (multicastOption c).length
    let sized := multicast.put zipHeaderSize [UInt8.ofNat i]
    some
      { udpBuffer := sized.put (zipHeaderSize + i) send.data
        length := zipHeaderSize + send.data.length + i }

/-- The connection that `__ZW_SendDataZIP` makes: everything but the addresses and the ports is
zero. -/
def zeroConnection : Connection := ⟨0, 0, 0, 0⟩

/-- `ZW_SendDataZIP`. `rnode` is the node that has the remote address; the commands for a node go to
`ZW_SendDataAppl`. -/
def zwSendDataZip (c : Connection) (rnode : ℕ) (send : Send) : Option Sent :=
  if rnode ≠ 0 then none else zwSendDataUdp c send

/-- The ways on which a packet is put together. -/
inductive Way
  /-- `ZW_SendData_UDP`, for a command that is bridged from a node. -/
  | udp (c : Connection)
  /-- `ZW_SendDataZIP`. -/
  | zip (c : Connection) (rnode : ℕ)
  /-- `__ZW_SendDataZIP`. -/
  | plain (rnode : ℕ)

/-- The connection that is used. -/
def Way.connection : Way → Connection
  | udp c => c
  | zip c _ => c
  | plain _ => zeroConnection

/-- The command goes to a node, so that there is no packet. -/
def Way.ToNode : Way → Prop
  | udp _ => False
  | zip _ rnode => rnode ≠ 0
  | plain rnode => rnode ≠ 0

/-- The packet that is put together. -/
def Way.assembled : Way → Send → Option Sent
  | udp c, send => zwSendDataUdp c send
  | zip c rnode, send => zwSendDataZip c rnode send
  | plain rnode, send => zwSendDataZip zeroConnection rnode send

/-- A packet fits into the buffer, and the length of its extension is that of the options in it;
behind them is the payload. -/
structure Sent.Fits (sent : Sent) (c : Connection) (send : Send) : Prop where
  inside : sent.udpBuffer.inside = true
  header : StandsAt sent.udpBuffer.byte 0 (send.header c)
  recorded : (sent.udpBuffer.byte zipHeaderSize).toNat = 1 +
    (send.formatOption c ++ multicastOption c).length
  options : StandsAt sent.udpBuffer.byte (zipHeaderSize + 1)
    (send.formatOption c ++ multicastOption c)
  payload : StandsAt sent.udpBuffer.byte
    (zipHeaderSize + (sent.udpBuffer.byte zipHeaderSize).toNat) send.data
  length : sent.length = zipHeaderSize + (sent.udpBuffer.byte zipHeaderSize).toNat +
    send.data.length

/-- The payload leaves room for the second option. -/
def LeavesRoom (way : Way) (send : Send) : Prop :=
  way.connection.Many → way.ToNode ∨ send.data.length + 2 ≤ maxUdpPayloadLen ∨
    maxUdpPayloadLen < send.data.length

/-! ### The writes -/

section Writes

variable (c : Connection) (send : Send)

/-- The buffer once the options are there. -/
def withOptions : Scratch :=
  ((send.udpBuffer.put 0 (send.header c)).put zipHeaderSize (0 :: send.formatOption c)).put
    (zipHeaderSize + (1 + (send.formatOption c).length)) (multicastOption c)

/-- The length of the extension. -/
def extensionSize : ℕ := 1 + (send.formatOption c).length + (multicastOption c).length

/-- The packet of `ZW_SendData_UDP`. -/
def sentUdp : Sent where
  udpBuffer := ((withOptions c send).put zipHeaderSize [UInt8.ofNat (extensionSize c send)]).put
    (zipHeaderSize + extensionSize c send) send.data
  length := zipHeaderSize + send.data.length + extensionSize c send

theorem zwSendDataUdp_eq :
    zwSendDataUdp c send = if maxUdpPayloadLen < send.data.length then none else some
      (sentUdp c send) :=
  if_congr Nat.add_lt_add_iff_right rfl rfl

theorem length_multicastOption : (multicastOption c).length = if c.Many then 2 else 0 := by
  unfold multicastOption
  split_ifs
  · rfl
  · rfl

theorem extensionSize_eq : extensionSize c send = if c.Many then 7 else 5 := by
  have hformat : (send.formatOption c).length = 4 := rfl
  rw [extensionSize, length_multicastOption, hformat]
  split_ifs
  · rfl
  · rfl

theorem standsAt_withOptions :
    StandsAt (withOptions c send).buffer.byte 0 (send.header c) ∧
      StandsAt (withOptions c send).buffer.byte (zipHeaderSize + 1)
        (send.formatOption c ++ multicastOption c) := by
  have hheader : StandsAt (send.udpBuffer.put 0 (send.header c)).buffer.byte 0 (send.header c) :=
    standsAt_write
  have hformat : StandsAt ((send.udpBuffer.put 0 (send.header c)).put zipHeaderSize
      (0 :: send.formatOption c)).buffer.byte zipHeaderSize ([0] ++ send.formatOption c) :=
        standsAt_write
  refine ⟨?_, standsAt_append.mpr ⟨?_, standsAt_write⟩⟩
  · exact (hheader.write (.inr (Nat.le_refl 7))).write (.inr (Nat.le_add_right 7 _))
  · exact (standsAt_append.mp hformat).2.write (.inr (Nat.le_refl _))

/-- Where everything stands in the packet. -/
theorem standsAt_sentUdp :
    StandsAt (sentUdp c send).udpBuffer.byte 0 (send.header c) ∧
      (sentUdp c send).udpBuffer.byte zipHeaderSize = UInt8.ofNat (extensionSize c send) ∧
      StandsAt (sentUdp c send).udpBuffer.byte (zipHeaderSize + 1)
        (send.formatOption c ++ multicastOption c) ∧
      StandsAt (sentUdp c send).udpBuffer.byte
        (zipHeaderSize + extensionSize c send) send.data := by
  obtain ⟨hheader, hoptions⟩ := standsAt_withOptions c send
  have hsize : StandsAt
    ((withOptions c send).put zipHeaderSize [UInt8.ofNat (extensionSize c send)]).buffer.byte
      zipHeaderSize [UInt8.ofNat (extensionSize c send)] := standsAt_write
  have hbehind : extensionSize c send = 1 + (send.formatOption c ++ multicastOption c).length := by
    rw [extensionSize, length_append, Nat.add_assoc]
  refine ⟨?_, ?_, ?_, standsAt_write⟩
  · exact (hheader.write (.inr (Nat.le_refl 7))).write (.inr (Nat.le_add_right 7 _))
  · have hapart : zipHeaderSize + 1 ≤ zipHeaderSize + extensionSize c send :=
      Nat.add_le_add_left (Nat.le_trans (Nat.le_add_right 1 _) hbehind.ge) _
    have hkept : StandsAt (sentUdp c send).udpBuffer.byte zipHeaderSize
        [UInt8.ofNat (extensionSize c send)] :=
      hsize.write (.inr hapart)
    exact hkept 0 Nat.zero_lt_one
  · have hapart : zipHeaderSize + [UInt8.ofNat (extensionSize c send)].length ≤ zipHeaderSize + 1 :=
      Nat.le_refl _
    refine (hoptions.write (.inl hapart)).write (.inr ?_)
    omega

/-- The last write is the one that can go past the end. -/
theorem inside_sentUdp :
    (sentUdp c send).udpBuffer.inside = true ↔
      extensionSize c send + send.data.length ≤ maxUdpPayloadLen + 5 := by
  have hoptions : (withOptions c send).inside = true := by
    refine Scratch.inside_put.mpr
      ⟨Scratch.inside_put.mpr ⟨Scratch.inside_put.mpr ⟨rfl, ?_⟩, ?_⟩, ?_⟩
    · show 0 + 7 ≤ 524
      decide
    · show 7 + 5 ≤ 524
      decide
    · rw [length_multicastOption]
      show 7 + 5 + (if c.Many then 2 else 0) ≤ 524
      split_ifs
      · decide
      · decide
  have hsized : ((withOptions c send).put zipHeaderSize
      [UInt8.ofNat (extensionSize c send)]).inside = true := by
    refine Scratch.inside_put.mpr ⟨hoptions, ?_⟩
    show 7 + 1 ≤ 524
    decide
  refine Scratch.inside_put.trans ((and_iff_right hsized).trans ?_)
  show 7 + extensionSize c send + send.data.length ≤ 524 ↔
    extensionSize c send + send.data.length ≤ 517
  omega

/-- A packet that is put together fits when there is room for its second option. -/
theorem fits_sentUdp_iff :
    (sentUdp c send).Fits c send ↔
      (c.Many → send.data.length + 2 ≤ maxUdpPayloadLen) ∧ send.data.length ≤ maxUdpPayloadLen := by
  obtain ⟨hheader, hsize, hoptions, hpayload⟩ := standsAt_sentUdp c send
  have hextension := extensionSize_eq c send
  have hrecorded :
      ((sentUdp c send).udpBuffer.byte zipHeaderSize).toNat = extensionSize c send := by
    rw [hsize, UInt8.toNat_ofNat', hextension]
    split_ifs
    · rfl
    · rfl
  have hroom : extensionSize c send + send.data.length ≤ maxUdpPayloadLen + 5 ↔
      (c.Many → send.data.length + 2 ≤ maxUdpPayloadLen) ∧ send.data.length ≤ maxUdpPayloadLen := by
    rw [hextension]
    split_ifs with hmany
    · simp only [hmany, true_imp_iff]
      omega
    · simp only [hmany, false_imp_iff, true_and]
      omega
  rw [← hroom, ← inside_sentUdp]
  refine ⟨Sent.Fits.inside, fun hinside ↦ ⟨hinside, hheader, ?_, hoptions, ?_, ?_⟩⟩
  · rw [hrecorded, extensionSize, length_append, Nat.add_assoc]
  · rw [hrecorded]
    exact hpayload
  · rw [hrecorded]
    show zipHeaderSize + send.data.length + extensionSize c send = _
    omega

end Writes

theorem zwSendDataUdp_eq_some_iff {c : Connection} {send : Send} {sent : Sent} :
    zwSendDataUdp c send = some sent ↔ send.data.length ≤ maxUdpPayloadLen ∧
      sentUdp c send = sent := by
  rw [zwSendDataUdp_eq]
  split_ifs with hlarge
  · exact iff_of_false nofun fun hboth ↦ absurd hboth.1 (Nat.not_le.mpr hlarge)
  · rw [Option.some_inj]
    exact (and_iff_right (Nat.not_lt.mp hlarge)).symm

theorem zwSendDataZip_eq_some_iff {c : Connection} {rnode : ℕ} {send : Send} {sent : Sent} :
    zwSendDataZip c rnode send = some sent ↔
      ¬rnode ≠ 0 ∧ send.data.length ≤ maxUdpPayloadLen ∧ sentUdp c send = sent := by
  unfold zwSendDataZip
  split_ifs with hnode
  · exact iff_of_false nofun fun hall ↦ hall.1 hnode
  · rw [zwSendDataUdp_eq_some_iff, and_iff_right hnode]

/-- The packet that is put together on a way. -/
theorem assembled_eq_some_iff {way : Way} {send : Send} {sent : Sent} :
    way.assembled send = some sent ↔
      ¬way.ToNode ∧ send.data.length ≤ maxUdpPayloadLen ∧ sentUdp way.connection send = sent := by
  cases way with
  | udp c => exact zwSendDataUdp_eq_some_iff.trans (and_iff_right not_false).symm
  | zip c rnode => exact zwSendDataZip_eq_some_iff
  | plain rnode => exact zwSendDataZip_eq_some_iff

/-- The packet that is put together fits into the buffer exactly when the payload leaves room for
the option that says that a command came by multicast or broadcast, if it did. -/
theorem assembled_fits_iff (way : Way) (send : Send) :
    (∀ sent, way.assembled send = some sent → sent.Fits way.connection send) ↔
      LeavesRoom way send := by
  constructor
  · intro hfits hmany
    by_contra hnone
    obtain ⟨hnode, hnot⟩ := not_or.mp hnone
    obtain ⟨hlarge, haccepted⟩ := not_or.mp hnot
    have hsent := hfits _ (assembled_eq_some_iff.mpr ⟨hnode, Nat.not_lt.mp haccepted, rfl⟩)
    exact hlarge (((fits_sentUdp_iff _ _).mp hsent).1 hmany)
  · intro hroom sent hsent
    obtain ⟨hnode, haccepted, rfl⟩ := assembled_eq_some_iff.mp hsent
    refine (fits_sentUdp_iff _ _).mpr ⟨fun hmany ↦ ?_, haccepted⟩
    rcases hroom hmany with hto | hfits | hrejected
    · exact absurd hto hnode
    · exact hfits
    · exact absurd hrejected (Nat.not_lt.mpr haccepted)

/-- The largest payload. -/
def largestSend : Send where
  data := List.replicate maxUdpPayloadLen 0
  ackreq := false
  netScheme := noScheme
  seqNo := 0
  stack := fun _ ↦ 0
  isWord := by
    rw [length_replicate]
    decide

/-- The largest payload of a command that came by multicast is written past the end of the
buffer. -/
theorem assembled_fits_fail :
    ¬∀ (way : Way) (send : Send) (sent : Sent),
      way.assembled send = some sent → sent.Fits way.connection send := by
  intro hall
  have hlength : largestSend.data.length = maxUdpPayloadLen := length_replicate
  have hmany : (⟨noScheme, receiveStatusTypeMulti, 0, 0⟩ : Connection).Many := by decide
  have hsent := hall (.udp ⟨noScheme, receiveStatusTypeMulti, 0, 0⟩) largestSend _
    (assembled_eq_some_iff.mpr ⟨not_false, hlength.le, rfl⟩)
  have hroom := ((fits_sentUdp_iff _ _).mp hsent).1 hmany
  rw [hlength] at hroom
  exact absurd hroom (by decide)

end ZipGateway.UdpServer.SendData
