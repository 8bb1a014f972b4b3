import ZipGateway.Contiki
import ZipGateway.Lib.Run
import ZipGateway.TransmitStatus

/-!
# Acknowledged Z/IP sends

The model of the transmit sessions of `src/src/ZW_udp_server.c`: `ZW_SendDataZIP_ack` sends a Z/IP
packet that asks for an acknowledgement, and reports through `cbFunc` when the acknowledgement comes
or a timer runs out. A session lives in a block of `udp_tx_sessions_memb`. Its timer and the user
pointer of the UDP send both point to the block.

The layers below report that the packet is sent by `cb_udp_send_done`, before `ZW_SendData_UDP`
returns, later, or not at all; `outstanding` has the reports to come, with the block that they
carry. The callback of a session may send again, so it runs as inputs of its own: `frames` has the
session whose callback is running, and `ret` is its return. Durations are not modelled, a running
timer may expire at any time.

Every session has a serial number. An acknowledgement is an input with the serial number of the
session for whose packet the peer sent it: it carries the addresses, endpoints and sequence number
of that packet (`sent`), at any later time and as often as it likes. `log` has what was done to each
session and by the event of which session, newest first. No function reads the serial numbers.
-/

set_option autoImplicit false

namespace ZipGateway.UdpSession

open Lib Contiki Function

/-- The number of blocks in `udp_tx_sessions_memb`. -/
abbrev numSessions : ℕ := 4

/-- What an acknowledgement is matched by: the addresses, the port and the endpoints of a
connection, and the sequence number of the packet. -/
structure Key where
  dstIp : BitVec 128
  srcIp : BitVec 128
  dstPort : UInt16
  srcEp : UInt8
  dstEp : UInt8
  seq : UInt8
deriving DecidableEq

/-- `struct udp_tx_session`. The callback is kept as the flag that there is one, the timer as the
flag that it is running. -/
structure Session where
  key : Key
  cb : Bool
  timeout : Bool
  serial : ℕ

/-- What is done to a session. -/
inductive Act
  /-- Its timer is started. -/
  | armed
  /-- Its callback is called. -/
  | told (status : UInt8)
  /-- Its block is freed. -/
  | freed
deriving DecidableEq

/-- Something done to the session `serial` by an event of the session `cause`. -/
structure Entry where
  serial : ℕ
  cause : ℕ
  act : Act
deriving DecidableEq

/-- When `cb_udp_send_done` is called. -/
inductive SendDone
  | now
  | later
  | lost
deriving DecidableEq

/-- The variables of the module, with what is outstanding and the log. -/
structure Sessions where
  /-- The memory of `udp_tx_sessions_memb`. -/
  blocks : Fin numSessions → Session
  /-- The allocated blocks of `udp_tx_sessions_memb`. -/
  used : Fin numSessions → Bool
  /-- `udp_tx_sessions_list`. -/
  sessionsList : List (Fin numSessions)
  /-- `seqNo`. -/
  seqNo : UInt8
  /-- The send reports to come: the block and the session that sent. -/
  outstanding : List (Fin numSessions × ℕ)
  /-- The blocks whose callback is running, with the session whose event led to it. -/
  frames : List (Fin numSessions × ℕ)
  /-- The serial number of the last session. -/
  lastSerial : ℕ
  /-- The key of the packet of each session. -/
  sent : ℕ → Key
  /-- Which sessions have a callback. -/
  hasCb : ℕ → Bool
  log : List Entry

/-- Memory after `memset`. -/
def Session.zero : Session := ⟨⟨0, 0, 0, 0, 0, 0⟩, false, false, 0⟩

/-- The module after the start of the gateway. -/
def Sessions.init : Sessions where
  blocks _ := Session.zero
  used _ := false
  sessionsList := []
  seqNo := 0
  outstanding := []
  frames := []
  lastSerial := 0
  sent _ := ⟨0, 0, 0, 0, 0, 0⟩
  hasCb _ := false
  log := []

/-- The timer of a block is started by an event of the session `cause`. -/
def Sessions.arm (s : Sessions) (i : Fin numSessions) (cause : ℕ) : Sessions :=
  { s with
    blocks := update s.blocks i { s.blocks i with timeout := true }
    log := ⟨(s.blocks i).serial, cause, .armed⟩ :: s.log }

/-- `cb_udp_send_done`, for the packet of the session `cause`. -/
def cbUdpSendDone (i : Fin numSessions) (cause : ℕ) (s : Sessions) : Sessions := s.arm i cause

/-- The end of a session: `list_remove` and `memb_free`. -/
def Sessions.finish (s : Sessions) (i : Fin numSessions) (cause : ℕ) : Sessions :=
  { s with
    sessionsList := listRemove s.sessionsList i
    used := membFree s.used i
    log := ⟨(s.blocks i).serial, cause, .freed⟩ :: s.log }

/-- The timer has stopped; the callback is called if there is one, and the session ends when it
returns. -/
def Sessions.complete (s : Sessions) (i : Fin numSessions) (cause : ℕ) (status : UInt8) :
    Sessions :=
  let stopped := { s with blocks := update s.blocks i { s.blocks i with timeout := false } }
  if (s.blocks i).cb then
    { stopped with
      frames := (i, cause) :: s.frames
      log := ⟨(s.blocks i).serial, cause, .told status⟩ :: s.log }
  else stopped.finish i cause

/-- `ack_session_timeout`. -/
def ackSessionTimeout (i : Fin numSessions) (s : Sessions) : Sessions :=
  s.complete i (s.blocks i).serial transmitCompleteFail

/-- The session that `UDPCommandHandler` finds for an acknowledgement. -/
def Sessions.matching (s : Sessions) (key : Key) : Option (Fin numSessions) :=
  s.sessionsList.find? fun i ↦ decide ((s.blocks i).key = key)

/-- `UDPCommandHandler`, for an acknowledgement of the packet of the session `serial`. -/
def udpCommandHandler (serial : ℕ) (s : Sessions) : Sessions :=
  match s.matching (s.sent serial) with
  | none => s
  | some i => s.complete i serial transmitCompleteOk

/-- `ZW_SendDataZIP_ack`, for a peer that is not a Z-Wave address: `key` has the addresses and
endpoints of the connection. -/
def zwSendDataZipAck (key : Key) (cb : Bool) (answer : SendDone) (s : Sessions) : Sessions :=
  match membAlloc s.used with
  | none => s
  | some i =>
    let serial := s.lastSerial + 1
    let session : Session := ⟨{ key with seq := s.seqNo }, cb, false, serial⟩
    let opened := { s with
      blocks := update s.blocks i session
      used := membTake s.used i
      sessionsList := listAdd s.sessionsList i
      seqNo := s.seqNo + 1
      lastSerial := serial
      sent := update s.sent serial { key with seq := s.seqNo }
      hasCb := update s.hasCb serial cb }
    let armed := opened.arm i serial
    match answer with
    | .now => cbUdpSendDone i serial armed
    | .later => { armed with outstanding := (i, serial) :: armed.outstanding }
    | .lost => armed

/-- What can happen. -/
inductive Input
  /-- `ZW_SendDataZIP_ack` is called. -/
  | send (key : Key) (cb : Bool) (answer : SendDone)
  /-- Another packet is sent by `ZW_SendData_UDP`. -/
  | sendOther
  /-- The send report at this position arrives. -/
  | sendDone (position : ℕ)
  /-- An acknowledgement for the packet of the session arrives. -/
  | ack (serial : ℕ)
  /-- The timer of the block expires. -/
  | timeout (i : Fin numSessions)
  /-- The callback that is running returns. -/
  | ret

/-- One step. The events come from the main loop, so only the calls of a callback that is running
and its return come before it has returned. -/
def step (s : Sessions) : Input → Sessions
  | .send key cb answer => zwSendDataZipAck key cb answer s
  | .sendOther => { s with seqNo := s.seqNo + 1 }
  | .sendDone position =>
    match s.frames, s.outstanding[position]? with
    | [], some (i, cause) =>
      cbUdpSendDone i cause { s with outstanding := s.outstanding.eraseIdx position }
    | _, _ => s
  | .ack serial =>
    if s.frames = [] ∧ 1 ≤ serial ∧ serial ≤ s.lastSerial then udpCommandHandler serial s else s
  | .timeout i =>
    if s.frames = [] ∧ (s.blocks i).timeout = true then ackSessionTimeout i s else s
  | .ret =>
    match s.frames with
    | [] => s
    | (i, cause) :: rest => { s with frames := rest }.finish i cause

end ZipGateway.UdpSession
