import ZipGateway.Lib.Run
import ZipGateway.Nodemask
import ZipGateway.TransmitStatus

/-!
# The S2 wrapper: sending

The sending half of `src/src/transport/S2_wrap.c`, which puts the gateway's transport on top of
libs2. There is one slot for a callback and one for its context pointer; each send saves both,
overwrites them, and restores them when libs2 refuses the frame. `S2_send_done_event` invokes the
callback in the slot, after it has sent the single cast follow-ups of a multicast.

libs2 sends one frame at a time. It refuses a frame while it is busy, and it sends frames of its
own: command reports and the frames of an inclusion. When a transmission ends, libs2 becomes idle,
tells the inclusion machine, which may start a frame of its own at once, and then calls
`S2_send_done_event`. Here `current` is the transmission in progress, and `due` has the
transmissions that have ended and whose `S2_send_done_event` has not been called yet, the last one
first. After an accepted frame and after the callback the wrapper does nothing more, so what happens
within these calls is as if it happened right after them.

Each call has a number, which stands for its callback and its context pointer as well. The log,
newest first, has the results of the calls and the callbacks that were invoked, each with the
transmission whose `S2_send_done_event` did it. The multicast part of the source is compiled with
`TEST_MULTICAST_TX`.
-/

set_option autoImplicit false

namespace ZipGateway.S2Wrap

open ZipGateway.Nodemask

/-- `mc_state.state`. -/
inductive McSendState where
  | idle
  | sendFirst
  | send
  | sendFirstNofollowup
  | abort
deriving DecidableEq, Repr

/-- The part of `mc_state` that decides about the follow-ups. -/
structure McState where
  state : McSendState
  rNode : ℕ
  destNodemask : Nodemask
  /-- Whether libs2 takes the data: they are there, and from 1 to 1280 bytes long. -/
  sendable : Bool

/-- Who started a transmission. -/
inductive Owner where
  /-- A call of the wrapper, for its frame or, for a multicast, one of its follow-ups. -/
  | call (ticket : ℕ)
  /-- libs2 itself. -/
  | own
deriving DecidableEq, Repr

/-- What happens to the calls. -/
inductive Event where
  /-- The call returned 1. -/
  | accepted (ticket : ℕ) (hasCallback : Bool)
  /-- The call returned 0. -/
  | refused (ticket : ℕ)
  /-- The callback of a call was invoked with the context pointer of a call. -/
  | invoked (callback user : ℕ) (cause : Owner) (txStatus : UInt8)
deriving DecidableEq, Repr

/-- The wrapper and the part of libs2 it depends on. -/
structure Wrapper where
  /-- `s2_send_callback`. -/
  s2SendCallback : Option ℕ
  /-- `s2_send_user`. -/
  s2SendUser : ℕ
  mcState : McState
  /-- The call whose multicast `mc_state` is about. -/
  mcTicket : ℕ
  current : Option Owner
  due : List (Owner × UInt8)
  calls : ℕ
  log : List Event

/-- The arguments of a send that the wrapper and libs2 look at. -/
structure Request where
  /-- Whether libs2 takes the data: they are there, and from 1 to 1280 bytes long. -/
  sendable : Bool
  /-- The callback is not null. -/
  hasCallback : Bool

/-- `S2_send_data_all_cast`: the frame is taken when it can be sent and libs2 is not busy. -/
def s2SendData (owner : Owner) (sendable : Bool) (wrapper : Wrapper) : Wrapper × Bool :=
  if sendable = true ∧ wrapper.current = none then
    ({ wrapper with current := some owner }, true)
  else (wrapper, false)

/-- The callback and the context pointer of a call are put into the slots. -/
def Wrapper.setSlots (callback : Option ℕ) (user : ℕ) (wrapper : Wrapper) : Wrapper :=
  { wrapper with s2SendCallback := callback, s2SendUser := user }

/-- The callback of a call, if it has one. -/
def Request.callback (request : Request) (ticket : ℕ) : Option ℕ :=
  if request.hasCallback then some ticket else none

/-- Note an event. -/
def Wrapper.note (event : Event) (wrapper : Wrapper) : Wrapper :=
  { wrapper with log := event :: wrapper.log }

/-- `sec2_send_data`, as the call `ticket`. -/
def sec2SendData (ticket : ℕ) (request : Request) (wrapper : Wrapper) : Wrapper :=
  let cbSave := wrapper.s2SendCallback
  let userSave := wrapper.s2SendUser
  let set := wrapper.setSlots (request.callback ticket) ticket
  let sent := s2SendData (.call ticket) request.sendable set
  if sent.2 then sent.1.note (.accepted ticket request.hasCallback)
  else (sent.1.setSlots cbSave userSave).note (.refused ticket)

/-- `sec2_send_multicast`, as the call `ticket`. The slot for the callback is overwritten before it
is saved. -/
def sec2SendMulticast (ticket : ℕ) (request : Request) (nodeList : Nodemask)
    (sendScFollowups : Bool) (wrapper : Wrapper) : Wrapper :=
  if wrapper.mcState.state = .idle then
    let mc : McState :=
      { state := if sendScFollowups then .sendFirst else .sendFirstNofollowup
        rNode := 1
        destNodemask := nodeList
        sendable := request.sendable }
    let first := { wrapper with
      mcState := mc
      mcTicket := ticket
      s2SendCallback := request.callback ticket }
    let cbSave := first.s2SendCallback
    let userSave := first.s2SendUser
    let set := first.setSlots (request.callback ticket) ticket
    let sent := s2SendData (.call ticket) request.sendable set
    if sent.2 then sent.1.note (.accepted ticket request.hasCallback)
    else
      let restored := sent.1.setSlots cbSave userSave
      { restored with mcState := { restored.mcState with state := .idle } }.note (.refused ticket)
  else wrapper.note (.refused ticket)

/-- `sec2_abort_multicast`. -/
def sec2AbortMulticast (wrapper : Wrapper) : Wrapper :=
  if wrapper.mcState.state ≠ .idle then
    { wrapper with mcState := { wrapper.mcState with state := .abort } }
  else wrapper

/-- `s2zw_codes`. -/
def s2zwCodes : List UInt8 :=
  [transmitCompleteOk, transmitCompleteNoAck, transmitCompleteFail, 0, 0, transmitCompleteOk]

def s2TransmitCompleteFail : UInt8 := 2

/-- The end of `S2_send_done_event`: the callback is taken out of its slot and invoked. -/
def invokeCallback (cause : Owner) (status : UInt8) (wrapper : Wrapper) : Wrapper :=
  match wrapper.s2SendCallback with
  | none => wrapper
  | some callback =>
    { wrapper with s2SendCallback := none }.note
      (.invoked callback wrapper.s2SendUser cause (s2zwCodes.getD status.toNat 0))

/-- The search for the next node of the mask, from a node on: the first valid node in the mask, or
the first invalid one. `fuel` bounds the nodes to look at. -/
def nextNode (mask : Nodemask) : ℕ → ℕ → ℕ
  | 0, node => node
  | fuel + 1, node =>
    if (nodeBit node).isSome ∧ testNode node mask = false then nextNode mask fuel (node + 1)
    else node

/-- The multicast in progress is over. -/
def Wrapper.endMulticast (wrapper : Wrapper) : Wrapper :=
  { wrapper with mcState := { wrapper.mcState with state := .idle } }

/-- The next follow-up of the multicast in progress, or its end. -/
def followUp (cause : Owner) (status : UInt8) (wrapper : Wrapper) : Wrapper :=
  let node := nextNode wrapper.mcState.destNodemask zwMaxNodes wrapper.mcState.rNode
  let found := { wrapper with mcState := { wrapper.mcState with rNode := node } }
  if (nodeBit node).isNone then invokeCallback cause status found.endMulticast
  else
    let next := { found with mcState := { found.mcState with state := .send } }
    let sent := s2SendData (.call next.mcTicket) next.mcState.sendable next
    if sent.2 then sent.1
    else invokeCallback cause s2TransmitCompleteFail sent.1.endMulticast

/-- `S2_send_done_event`, for a transmission of `cause`. -/
def s2SendDoneEvent (cause : Owner) (status : UInt8) (wrapper : Wrapper) : Wrapper :=
  match wrapper.mcState.state with
  | .idle => invokeCallback cause status wrapper
  | .sendFirstNofollowup => invokeCallback cause status wrapper.endMulticast
  | .sendFirst => followUp cause status wrapper
  | .send =>
    followUp cause status
      { wrapper with mcState := { wrapper.mcState with rNode := wrapper.mcState.rNode + 1 } }
  | .abort =>
    invokeCallback cause transmitCompleteNoAck
      { wrapper with
        mcState := { wrapper.mcState with state := .idle, rNode := wrapper.mcState.rNode + 1 } }

/-- What can happen. -/
inductive Input where
  | sendData (request : Request)
  | sendMulticast (request : Request) (nodeList : Nodemask) (sendScFollowups : Bool)
  | abortMulticast
  /-- libs2 sends a frame of its own. -/
  | ownSend (sendable : Bool)
  /-- The transmission in progress ends with this status. -/
  | ended (status : UInt8)
  /-- libs2 calls `S2_send_done_event` for the transmission that ended last. -/
  | sendDone

/-- One input. -/
def step (wrapper : Wrapper) : Input → Wrapper
  | .sendData request =>
    sec2SendData wrapper.calls request { wrapper with calls := wrapper.calls + 1 }
  | .sendMulticast request nodeList sendScFollowups =>
    sec2SendMulticast wrapper.calls request nodeList sendScFollowups
      { wrapper with calls := wrapper.calls + 1 }
  | .abortMulticast => sec2AbortMulticast wrapper
  | .ownSend sendable => (s2SendData .own sendable wrapper).1
  | .ended status =>
    match wrapper.current with
    | none => wrapper
    | some owner => { wrapper with current := none, due := (owner, status) :: wrapper.due }
  | .sendDone =>
    match wrapper.due with
    | [] => wrapper
    | (cause, status) :: rest => s2SendDoneEvent cause status { wrapper with due := rest }

/-- The wrapper after the start of the gateway. -/
def start : Wrapper where
  s2SendCallback := none
  s2SendUser := 0
  mcState := { state := .idle, rNode := 0, destNodemask := empty, sendable := false }
  mcTicket := 0
  current := none
  due := []
  calls := 0
  log := []

end ZipGateway.S2Wrap
