import ZipGateway.ClassicZipNode.Model
import ZipGateway.UdpServer.Options

/-!
# The scheme of a forwarded packet

`ClassicZIPUDP_input` keeps the scheme for the frame to a node in `zw.scheme`: the flag for a secure
origin leaves the choice to the transport, otherwise there is none, and an Encapsulation Format
Information option overwrites either. `forwardedScheme` is the scheme in the parameters of the
frame, when the packet is sent on to a node: through an IP association whose virtual node it is
addressed from, or through a temporary association. The commands that `proxy_command_handler`
answers itself are not sent on.
-/

set_option autoImplicit false

namespace ZipGateway.ClassicZipNode

open ZipGateway.UdpServer

/-- `ENCAPSULATION_FORMAT_INFO`, with or without the critical flag. -/
def isEfi (option : Tlv) : Bool :=
  option.type &&& 0x7F == 4

/-- The loop of `parse_CC_ZIP_EXT_HDR` with `zw.scheme`. -/
def parseOptionsScheme (bytes : List UInt8) (length : ℕ) :
    ℕ → ℕ → UInt8 → ExtHdrCode × UInt8
  | 0, pos, scheme => (if pos = length then .success else .dropFrame, scheme)
  | fuel + 1, pos, scheme =>
    if pos < length then
      let option := tlvAt bytes pos
      if option.type &&& 0x7F = 2 then
        parseOptionsScheme bytes length fuel (pos + option.length.toNat + 2) scheme
      else if option.type &&& 0x7F = 4 then
        if option.length < 2 then (.optError, scheme)
        else parseOptionsScheme bytes length fuel (pos + option.length.toNat + 2)
          (efiToShceme option.value0 option.value1)
      else if option.type &&& 0x80 ≠ 0 then (.optError, scheme)
      else parseOptionsScheme bytes length fuel (pos + option.length.toNat + 2) scheme
    else (if pos = length then .success else .dropFrame, scheme)

/-- The bytes of the header extension behind its length, and their number. -/
def Packet.extension (p : Packet) : List UInt8 × ℕ :=
  (p.buffer.drop (zipHeaderSize + 1), sub16 (p.byte zipHeaderSize).toNat 1)

/-- `zw.scheme` once the headers of the packet are parsed. -/
def Packet.zwScheme (p : Packet) : UInt8 :=
  let scheme := if p.byte 3 &&& flags1SecureOrigin ≠ 0 then autoScheme else noScheme
  if p.byte 3 &&& flags1HdrExtIncl ≠ 0 then
    (parseOptionsScheme p.extension.1 p.extension.2 p.extension.2 0 scheme).2
  else scheme

/-- The scheme of the frame that `ClassicZIPUDP_input` gives to `ClassicZIPNode_SendDataAppl` for
the packet, if it does. -/
def forwardedScheme (ans : Answers) (p : Packet) (len : ℕ) (secure : Bool) (st : State) :
    Option UInt8 :=
  if ans.bridgeInitialized = false ∧ ans.nmState ≠ .waitForProbeBySis then none
  else if p.byte 0 = commandClassZip ∧ p.byte 1 = 0x02 then
    match p.header len secure with
    | .drop | .error => none
    | .command offset length =>
      let st := { st with zipPayloadLen := length, curFlags0 := p.byte 2 }
      if p.byte 3 &&& flags1ZwCmdIncl = 0 ∨ length = 0 ∨ classicTxBufSize < length then none
      else if mustRequeue ans st then none
      else if (forwardedThrough ans p st).isSome then some p.zwScheme
      else if (proxyCommandHandler ans p secure (p.byte 2 &&& flags0AckReq != 0)
        (p.buffer.drop offset) st).2 then none
      else if ans.tempAssoc then some p.zwScheme
      else none
  else none

/-- The options of the packet as `parse_CC_ZIP_EXT_HDR` reads them. -/
def Packet.options (p : Packet) : List Tlv :=
  if p.byte 3 &&& flags1HdrExtIncl ≠ 0 then
    tlvs p.extension.1 p.extension.2 p.extension.2 0
  else []

/-- The loop with the scheme ends as the loop without it. -/
theorem parseOptionsScheme_fst (bytes : List UInt8) (length fuel pos : ℕ) (scheme : UInt8) :
    (parseOptionsScheme bytes length fuel pos scheme).1 = parseOptions bytes length fuel pos := by
  induction fuel generalizing pos scheme with
  | zero => rfl
  | succ fuel ih =>
    rw [parseOptionsScheme, parseOptions]
    by_cases hpos : pos < length
    · rw [if_pos hpos, if_pos hpos]
      show (if (tlvAt bytes pos).type &&& 0x7F = 2 then _ else _ : ExtHdrCode × UInt8).1 =
        if (tlvAt bytes pos).type &&& 0x7F = 4 ∧ (tlvAt bytes pos).length < 2 then _
        else if (tlvAt bytes pos).type &&& 0x7F ≠ 2 ∧ (tlvAt bytes pos).type &&& 0x7F ≠ 4 ∧
          (tlvAt bytes pos).type &&& 0x80 ≠ 0 then _
        else parseOptions bytes length fuel (pos + (tlvAt bytes pos).length.toNat + 2)
      by_cases htwo : (tlvAt bytes pos).type &&& 0x7F = 2
      · simp [htwo, ih]
      · by_cases hfour : (tlvAt bytes pos).type &&& 0x7F = 4
        · by_cases hshort : (tlvAt bytes pos).length < 2
          · simp [hfour, hshort]
          · simp [hfour, hshort, ih]
        · by_cases hcritical : (tlvAt bytes pos).type &&& 0x80 = 0
          · simp [htwo, hfour, hcritical, ih]
          · simp [htwo, hfour, hcritical]
    · rw [if_neg hpos, if_neg hpos]

/-- An extension that is parsed leaves the scheme of its options. -/
theorem parseOptionsScheme_snd {bytes : List UInt8} {length fuel pos : ℕ} {scheme : UInt8}
    (hsuccess : (parseOptionsScheme bytes length fuel pos scheme).1 = .success) :
    (parseOptionsScheme bytes length fuel pos scheme).2 =
      schemeAfter isEfi (tlvs bytes length fuel pos) scheme := by
  induction fuel generalizing pos scheme with
  | zero => rfl
  | succ fuel ih =>
    rw [parseOptionsScheme] at hsuccess ⊢
    rw [tlvs]
    by_cases hpos : pos < length
    · rw [if_pos hpos] at hsuccess ⊢
      rw [if_pos hpos, schemeAfter, List.foldl_cons, ← schemeAfter]
      dsimp only at hsuccess ⊢
      by_cases htwo : (tlvAt bytes pos).type &&& 0x7F = 2
      · rw [if_pos htwo] at hsuccess ⊢
        have hnot : ¬ isEfi (tlvAt bytes pos) = true := by simp [isEfi, htwo]
        rw [if_neg hnot]
        exact ih hsuccess
      · rw [if_neg htwo] at hsuccess ⊢
        by_cases hfour : (tlvAt bytes pos).type &&& 0x7F = 4
        · rw [if_pos hfour] at hsuccess ⊢
          have hefi : isEfi (tlvAt bytes pos) = true := by simp [isEfi, hfour]
          rw [if_pos hefi]
          split at hsuccess
          · exact absurd hsuccess (by simp)
          · next hlong =>
            rw [if_neg hlong]
            exact ih hsuccess
        · rw [if_neg hfour] at hsuccess ⊢
          have hnot : ¬ isEfi (tlvAt bytes pos) = true := by simp [isEfi, hfour]
          rw [if_neg hnot]
          split at hsuccess
          · exact absurd hsuccess (by simp)
          · next hplain =>
            rw [if_neg hplain]
            exact ih hsuccess
    · rw [if_neg hpos, if_neg hpos]
      rfl

/-- A gateway that is up and idle, for node 5 and the virtual node 10, with a transport that takes
frames. -/
def idleAnswers : Answers where
  nodeOfIP ip := UInt16.ofBitVec (ip.setWidth 16)
  bridgeInitialized := true
  nmState := .idle
  mbIsBusy := false
  probing := false
  sendingFirst := false
  sendNAck := true
  namingHandled := true
  endpointKnown := true
  epSupports _ := true
  supportsCmdClass _ _ := true
  nodeExists _ := true
  tempAssoc := true
  sendDataAppl := true
  learnModeAdd := true
  learnModeRemove _ := true
  assignReturnRoute := true
  sendDataZip _ := .later

end ZipGateway.ClassicZipNode
