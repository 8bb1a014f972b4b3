import Mathlib.Data.List.Induction
import ZipGateway.TsParam

/-!
# The options of a Z/IP header extension

A header extension is a sequence of options, each with a type, a length and a value. The
Encapsulation Format Information option names the security level of the command; `efi_to_shceme`
turns it into a scheme. The gateway parses the options in two places, in a loop that overwrites the
scheme at each such option; `unprivileged_schemeAfter` says that the last one decides.
-/

set_option autoImplicit false

namespace ZipGateway.UdpServer

def commandZipPacket : UInt8 := 0x02

/-- `ZIP_EXT_HDR_OPTION_TYPE_MASK`. -/
def optionTypeMask : UInt8 := 0x7F

/-- `ZIP_EXT_HDR_OPTION_CRITICAL_FLAG`. -/
def optionCriticalFlag : UInt8 := 0x80

def encapsulationFormatInfo : UInt8 := 4

def extZipPacketHeaderLength : UInt8 := 6

def multicastDestinationAddress : UInt8 := 7

def autoScheme : UInt8 := 0xFE

def useCrc16 : UInt8 := 0xFD

def securityScheme0 : UInt8 := 7

def securityScheme2Unauthenticated : UInt8 := 1

def securityScheme2Authenticated : UInt8 := 2

def securityScheme2Access : UInt8 := 3

def securitySchemeUdp : UInt8 := 4

def efiSecLevelNone : UInt8 := 0x00

def efiSecS0 : UInt8 := 0x80

def efiSecS2Unauthenticated : UInt8 := 0x01

def efiSecS2Authenticated : UInt8 := 0x02

def efiSecS2Access : UInt8 := 0x04

def efiFlagCrc16 : UInt8 := 1

/-- `efi_to_shceme`. -/
def efiToShceme (ext1 ext2 : UInt8) : UInt8 :=
  if ext1 = efiSecLevelNone then
    if ext2 &&& efiFlagCrc16 ≠ 0 then useCrc16 else noScheme
  else if ext1 = efiSecS0 then securityScheme0
  else if ext1 = efiSecS2Unauthenticated then securityScheme2Unauthenticated
  else if ext1 = efiSecS2Authenticated then securityScheme2Authenticated
  else if ext1 = efiSecS2Access then securityScheme2Access
  else noScheme

/-- The security levels that an option can name. -/
def IsSecureLevel (level : UInt8) : Prop :=
  level = efiSecS0 ∨ level = efiSecS2Unauthenticated ∨ level = efiSecS2Authenticated ∨
    level = efiSecS2Access

instance (level : UInt8) : Decidable (IsSecureLevel level) :=
  inferInstanceAs (Decidable (_ ∨ _))

/-- The schemes that claim no security. -/
def Unprivileged (scheme : UInt8) : Prop :=
  scheme = noScheme ∨ scheme = useCrc16

instance (scheme : UInt8) : Decidable (Unprivileged scheme) :=
  inferInstanceAs (Decidable (_ ∨ _))

/-- A scheme made from an option claims no security exactly when the option names no level. -/
theorem unprivileged_efiToShceme (ext1 ext2 : UInt8) :
    Unprivileged (efiToShceme ext1 ext2) ↔ ¬ IsSecureLevel ext1 := by
  rw [efiToShceme]
  by_cases hnone : ext1 = efiSecLevelNone
  · rw [if_pos hnone, hnone]
    split <;> decide
  · rw [if_neg hnone]
    simp only [IsSecureLevel]
    split
    · next hs0 => simp [hs0, Unprivileged, securityScheme0, noScheme, useCrc16]
    · next hs0 =>
      split
      · next hlow =>
        simp [hlow, Unprivileged, securityScheme2Unauthenticated, noScheme, useCrc16]
      · next hlow =>
        split
        · next hmiddle =>
          simp [hmiddle, Unprivileged, securityScheme2Authenticated, noScheme, useCrc16]
        · next hmiddle =>
          split
          · next haccess =>
            simp [haccess, Unprivileged, securityScheme2Access, noScheme, useCrc16]
          · next haccess => simp [hs0, hlow, hmiddle, haccess, Unprivileged]

/-- An option: `tlv_t` with the first two bytes of its value. -/
structure Tlv where
  type : UInt8
  length : UInt8
  value0 : UInt8
  value1 : UInt8
deriving DecidableEq

/-- The option at a position. -/
def tlvAt (bytes : List UInt8) (pos : ℕ) : Tlv where
  type := bytes.getD pos 0
  length := bytes.getD (pos + 1) 0
  value0 := bytes.getD (pos + 2) 0
  value1 := bytes.getD (pos + 3) 0

/-- The options from a position to the end of the extension, at most `fuel` of them. -/
def tlvs (bytes : List UInt8) (stop : ℕ) : ℕ → ℕ → List Tlv
  | 0, _ => []
  | fuel + 1, pos =>
    if pos < stop then
      tlvAt bytes pos :: tlvs bytes stop fuel (pos + (tlvAt bytes pos).length.toNat + 2)
    else []

/-- The scheme after the options, when those that `isEfi` recognises set it. -/
def schemeAfter (isEfi : Tlv → Bool) (options : List Tlv) (scheme : UInt8) : UInt8 :=
  options.foldl (fun scheme option ↦
    if isEfi option then efiToShceme option.value0 option.value1 else scheme) scheme

/-- The last option that `isEfi` recognises names a security level. -/
def NamesSecureLevel (isEfi : Tlv → Bool) (options : List Tlv) : Prop :=
  ∃ option, (options.filter isEfi).getLast? = some option ∧ IsSecureLevel option.value0

/-- The last option decides: from a scheme without security, the scheme after the options has none
exactly when the last option names no level. -/
theorem unprivileged_schemeAfter (isEfi : Tlv → Bool) (options : List Tlv) {scheme : UInt8}
    (hscheme : Unprivileged scheme) :
    Unprivileged (schemeAfter isEfi options scheme) ↔ ¬ NamesSecureLevel isEfi options := by
  induction options using List.reverseRecOn with
  | nil =>
    constructor
    · rintro - ⟨option, hoption, -⟩
      exact absurd hoption (by simp)
    · intro _
      exact hscheme
  | append_singleton options option ih =>
    have happend : schemeAfter isEfi (options ++ [option]) scheme =
        if isEfi option then efiToShceme option.value0 option.value1
        else schemeAfter isEfi options scheme := by
      rw [schemeAfter, List.foldl_append]
      rfl
    rw [happend]
    by_cases hefi : isEfi option = true
    · have hlast : NamesSecureLevel isEfi (options ++ [option]) ↔ IsSecureLevel option.value0 := by
        simp [NamesSecureLevel, List.filter_append, hefi]
      rw [if_pos hefi, unprivileged_efiToShceme, hlast]
    · have hlast : NamesSecureLevel isEfi (options ++ [option]) ↔
          NamesSecureLevel isEfi options := by
        simp [NamesSecureLevel, List.filter_append, hefi]
      rw [if_neg hefi, ih, hlast]

end ZipGateway.UdpServer
