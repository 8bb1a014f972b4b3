import ZipGateway.ClassicZipNode.Model
import ZipGateway.UdpServer.Options

/-!
# The command handler of the UDP server

`UDPCommandHandler` takes a Z/IP packet addressed to the gateway itself. It parses the header
extension, decides the scheme under which the command is to be seen, and puts the command into
`async_queue`, from which `do_app_handler` hands it to `ApplicationIpCommandHandler`: at once, or
after a delay when the packet came by multicast, or together with a later packet when the packet
itself does not say that it has a command. A packet stays in the queue for at most its lifetime.

The transmit sessions that an acknowledgement ends are modelled in `UdpSession`; here such a packet
only returns early. The size of `struct async_state` depends on the compiler, so the largest payload
that fits with it into the buffer is a parameter. The log has the calls of the application handler,
newest first, each with the packet it is for.
-/

set_option autoImplicit false

namespace ZipGateway.UdpServer

open ClassicZipNode (zipHeaderSize commandClassZip sub16 flags0AckReq flags0AckRes flags0NackWait
  flags1HdrExtIncl flags1ZwCmdIncl flags1SecureOrigin)

/-- The arguments of `UDPCommandHandler`. -/
structure Received where
  /-- The buffer from the UDP payload on. It goes on behind the end of the packet. -/
  data : List UInt8
  len : ℕ
  receivedSecure : Bool
  /-- The packet was sent to the link local all routers address. -/
  toAllRouters : Bool

/-- A byte of the buffer. -/
def Received.byte (received : Received) (i : ℕ) : UInt8 :=
  received.data.getD i 0

/-- `struct async_state` with the command, and the packet that it is from. -/
structure AsyncState where
  ackReq : Bool
  scheme : UInt8
  seq : UInt8
  lendpoint : UInt8
  rendpoint : UInt8
  payload : List UInt8
  source : Received

/-- A call of `ApplicationIpCommandHandler`. -/
structure Handed where
  scheme : UInt8
  payload : List UInt8
  source : Received

/-- The queue and the log. -/
structure Server where
  asyncQueue : List AsyncState
  log : List Handed

/-- What the loop over the options leads to. -/
inductive OptResult where
  | drop
  | optError
  | parsed (scheme : UInt8)
deriving DecidableEq

/-- `ENCAPSULATION_FORMAT_INFO | 0x80`. -/
def criticalEfi : UInt8 := 0x84

/-- The loop over the options of `UDPCommandHandler`, at the option at `pos`. Every option is longer
than one byte, so the end of the extension bounds the turns. -/
def parseOptions (data : List UInt8) (stop : ℕ) : ℕ → ℕ → UInt8 → OptResult
  | 0, pos, scheme => if pos = stop then .parsed scheme else .drop
  | fuel + 1, pos, scheme =>
    if pos < stop then
      let opt := tlvAt data pos
      if opt.type = criticalEfi then
        if opt.length < 2 then .optError
        else parseOptions data stop fuel (pos + opt.length.toNat + 2)
          (efiToShceme opt.value0 opt.value1)
      else if opt.type &&& 0x80 ≠ 0 then .optError
      else parseOptions data stop fuel (pos + opt.length.toNat + 2) scheme
    else if pos = stop then .parsed scheme
    else .drop

/-- The end of the header extension: its first byte is its length. -/
def Received.extensionEnd (received : Received) : ℕ :=
  zipHeaderSize + (received.byte zipHeaderSize).toNat

/-- The header extension and what follows it: where the command starts, its length, and the scheme
that an option gives. -/
def Received.extension (received : Received) (payloadLen : ℕ) : Option (OptResult × ℕ × ℕ) :=
  if received.byte 3 &&& flags1HdrExtIncl ≠ 0 then
    let size := (received.byte zipHeaderSize).toNat
    if size = 0 ∨ payloadLen < size then none
    else some (parseOptions received.data received.extensionEnd received.extensionEnd
      (zipHeaderSize + 1) autoScheme, received.extensionEnd, payloadLen - size)
  else some (.parsed autoScheme, zipHeaderSize, payloadLen)

/-- The scheme of the connection: an option decides it, otherwise the flag of the packet, which
counts only when the packet was received secure. -/
def connScheme (received : Received) (scheme : UInt8) : UInt8 :=
  if scheme = autoScheme then
    if received.byte 3 &&& flags1SecureOrigin ≠ 0 ∧ received.receivedSecure = true then
      securitySchemeUdp
    else noScheme
  else scheme

/-- `do_app_handler`: everything in the queue is handed to the application. -/
def doAppHandler (server : Server) : Server where
  asyncQueue := []
  log := (server.asyncQueue.map fun entry ↦
    (⟨entry.scheme, entry.payload, entry.source⟩ : Handed)).reverse ++ server.log

/-- The part of `UDPCommandHandler` behind the header extension. -/
def enqueue (received : Received) (offset length : ℕ) (scheme : UInt8) (server : Server) :
    Server :=
  let entry : AsyncState :=
    { ackReq := received.byte 2 &&& flags0AckReq != 0 &&
        !(received.toAllRouters && received.byte 3 &&& flags1ZwCmdIncl != 0)
      scheme := connScheme received scheme
      seq := received.byte 4
      lendpoint := received.byte 6
      rendpoint := received.byte 5
      payload := (received.data.drop offset).take length
      source := received }
  let queued := { server with asyncQueue := server.asyncQueue ++ [entry] }
  if received.byte 3 &&& flags1ZwCmdIncl ≠ 0 then
    -- A multicast packet is handled by the timer.
    if received.toAllRouters then queued else doAppHandler queued
  else queued

/-- `UDPCommandHandler`. `hasAddress` says that the gateway has a global address, `memory` that the
queue takes the packet. -/
def udpCommandHandler (maxPayload : ℕ) (received : Received) (hasAddress memory : Bool)
    (server : Server) : Server :=
  if received.byte 0 ≠ commandClassZip then server
  else if received.toAllRouters = true ∧ hasAddress = false then server
  else if received.byte 1 ≠ 0x02 then server
  else
    let payloadLen := sub16 received.len zipHeaderSize
    if maxPayload < payloadLen then server
    else if received.byte 2 &&& (flags0AckRes ||| flags0NackWait) ≠ 0 then server
    else
      match received.extension payloadLen with
      | some (.parsed scheme, offset, length) =>
        if length = 0 then server
        else if memory = false then server
        else enqueue received offset length scheme server
      | _ => server

/-- What can happen. -/
inductive Input where
  /-- A packet for `UDPCommandHandler`. -/
  | packet (received : Received) (hasAddress memory : Bool)
  /-- `zw_udp_timer` expires. -/
  | timer
  /-- The lifetime of the packet at the position of the queue is over. -/
  | expire (position : ℕ)

/-- One input. -/
def step (maxPayload : ℕ) (server : Server) : Input → Server
  | .packet received hasAddress memory =>
    udpCommandHandler maxPayload received hasAddress memory server
  | .timer => doAppHandler server
  | .expire position => { server with asyncQueue := server.asyncQueue.eraseIdx position }

/-- The server after the start of the gateway. -/
def Server.init : Server where
  asyncQueue := []
  log := []

end ZipGateway.UdpServer
