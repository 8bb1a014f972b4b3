import Mathlib.Data.Nat.Notation

/-!
# Transmit status codes

The `TRANSMIT_COMPLETE_*` codes that completions of transmissions are reported with.
-/

set_option autoImplicit false

namespace ZipGateway

def transmitCompleteOk : UInt8 := 0x00

def transmitCompleteNoAck : UInt8 := 0x01

def transmitCompleteFail : UInt8 := 0x02

def transmitCompleteRequeueQueued : UInt8 := 0xFD

def transmitCompleteRequeue : UInt8 := 0xFE

def transmitCompleteError : UInt8 := 0xFF

end ZipGateway
