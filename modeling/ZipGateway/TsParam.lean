import Mathlib.Data.Nat.Notation

/-!
# Transmission parameters

`TsParam` is the part of `ts_param_t` that the transport modules read: the nodes and end points of a
transmission, its flags and its security scheme. The node mask and the queueing options of the
source's structure are read by none of the modelled functions.
-/

set_option autoImplicit false

namespace ZipGateway

/-- `ts_param_t`: how a frame was received or is to be transmitted. -/
structure TsParam where
  /-- Source node. -/
  snode : UInt16
  /-- Destination node. -/
  dnode : UInt16
  /-- Source end point. -/
  sendpoint : UInt8
  /-- Destination end point. -/
  dendpoint : UInt8
  /-- Transmit flags. -/
  txFlags : UInt8
  /-- Receive flags. -/
  rxFlags : UInt8
  /-- Security scheme. -/
  scheme : UInt8
deriving DecidableEq, Repr, Inhabited

def transmitOptionAck : UInt8 := 0x01

/-- `TRANSMIT_OPTION_LOW_POWER`, which has the value of `RECEIVE_STATUS_LOW_POWER`. -/
def transmitOptionLowPower : UInt8 := 0x02

def transmitOptionAutoRoute : UInt8 := 0x04

def transmitOptionNoRoute : UInt8 := 0x10

def transmitOptionExplore : UInt8 := 0x20

def receiveStatusTypeSingle : UInt8 := 0x00

def receiveStatusTypeBroad : UInt8 := 0x04

def noScheme : UInt8 := 0xFF

/-- `ts_param_make_reply`: the parameters of a reply. The scheme is chosen by
`ZW_SendData_scheme_select`, an argument here. -/
def tsParamMakeReply (schemeSelect : TsParam → UInt8) (src : TsParam) : TsParam where
  snode := src.dnode
  dnode := src.snode
  sendpoint := src.dendpoint
  dendpoint := src.sendpoint
  txFlags := (if src.rxFlags &&& transmitOptionLowPower ≠ 0 then transmitOptionLowPower else 0) |||
    transmitOptionAck ||| transmitOptionExplore ||| transmitOptionAutoRoute
  rxFlags := 0
  scheme := schemeSelect src

end ZipGateway
