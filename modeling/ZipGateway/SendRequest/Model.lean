import ZipGateway.Contiki
import ZipGateway.Lib.Run
import ZipGateway.TransmitStatus
import ZipGateway.TsParam

/-!
# Requests

The model of `src/src/transport/ZW_SendRequest.c`: a request is sent to a node, and the reply, or
the lack of one, is reported through the callback of the request.

A request lives in a block of `reqs`. The request list, a timer and the user pointer that
`ZW_SendDataAppl` was given all point to the block. The callbacks of requests run the application,
which may call this module again, so the machine has an explicit stack: when a callback is called
from a place that goes on afterwards, that place is pushed as a `Frame`, every call that follows may
be one that the callback makes, and the input `ret` is the return of the callback. So the runs of
the machine are all the orders in which the calls, the timers, the send reports and the returns of
the callbacks can come, to any depth.

`ZW_SendDataAppl` is not modelled here. Whether it takes a frame is an input, and `outstanding` has
the frames that it took: each is reported once, at any later time. The durations of the timers are
not modelled, a running timer may expire at any time. `log` has what was done for each request,
newest first, under the serial number of the request; no function reads it.
-/

set_option autoImplicit false

namespace ZipGateway.SendRequest

open Lib Contiki

abbrev numReqs : ℕ := 4

/-- `req_state_t`. -/
inductive ReqState
  | sending
  | waiting
  | done
deriving DecidableEq, Repr

/-- `send_request_state_t`. The callback is kept as the flag that there is one, the timer as the
flag that it is running. -/
structure Request where
  param : TsParam
  state : ReqState
  cmdClass : UInt8
  cmd : UInt8
  user : ℕ
  callback : Bool
  timer : Bool
  serial : ℕ

/-- What a callback is told: `txStatus`, `rxStatus`, `pCmd`. -/
structure Report where
  txStatus : UInt8
  rxStatus : UInt8
  command : List UInt8
deriving DecidableEq, Repr

/-- The report of a request that was not answered. -/
def Report.failed : Report := ⟨transmitCompleteFail, 0, []⟩

/-- What is done for a request. -/
inductive Event
  /-- `ZW_SendRequest` took the request. -/
  | accepted (user : ℕ)
  /-- The callback is called. -/
  | told (user : ℕ) (report : Report)
  /-- The callback of a reply asks for more reports. -/
  | more
  /-- The callback of a reply is satisfied. -/
  | last
  /-- The block of the request is freed. -/
  | freed
deriving DecidableEq, Repr

/-- A place that waits for the return of a callback. -/
inductive Frame
  /-- `SendRequest_ApplicationCommandHandler`, for the block. -/
  | reply (i : Fin numReqs)
  /-- The loop of `ZW_Abort_SendRequest(node)`, at the block. -/
  | abort (i : Fin numReqs) (node : UInt16)
deriving DecidableEq, Repr

/-- The variables of the module, with the stack and the log. -/
structure Requests where
  /-- The memory of `reqs`. -/
  blocks : Fin numReqs → Request
  /-- The allocated blocks of `reqs`. -/
  used : Fin numReqs → Bool
  /-- `reqs_list`. -/
  reqsList : List (Fin numReqs)
  /-- The frames that `ZW_SendDataAppl` has not reported yet: the block and the request. -/
  outstanding : List (Fin numReqs × ℕ)
  frames : List Frame
  /-- The serial number of the last request taken. -/
  lastSerial : ℕ
  log : List (ℕ × Event)

/-- A block with some of its fields changed. -/
def Requests.modify (s : Requests) (i : Fin numReqs) (change : Request → Request) : Requests :=
  { s with blocks := Function.update s.blocks i (change (s.blocks i)) }

/-- The callback of the request in a block is called. -/
def Requests.tell (s : Requests) (i : Fin numReqs) (report : Report) : Requests :=
  { s with log := ((s.blocks i).serial, .told (s.blocks i).user report) :: s.log }

/-- The block is done: its timer is stopped and it leaves the list. -/
def Requests.takeOut (s : Requests) (i : Fin numReqs) : Requests :=
  { s.modify i fun request ↦ { request with state := .done, timer := false } with
    reqsList := listRemove s.reqsList i }

/-- `memb_free` of a block. -/
def Requests.free (s : Requests) (i : Fin numReqs) : Requests :=
  { s with
    used := membFree s.used i
    log := ((s.blocks i).serial, .freed) :: s.log }

/-- `request_timeout`. -/
def requestTimeout (i : Fin numReqs) (s : Requests) : Requests :=
  let s := s.modify i fun request ↦ { request with param := { request.param with dnode := 0 } }
  let s := (s.takeOut i).free i
  if (s.blocks i).callback then s.tell i .failed else s

/-- `ZW_SendRequest_Callback`. -/
def zwSendRequestCallback (status : UInt8) (i : Fin numReqs) (s : Requests) : Requests :=
  if status = transmitCompleteOk ∧ (s.blocks i).state = .sending then
    s.modify i fun request ↦ { request with state := .waiting, timer := true }
  else requestTimeout i s

/-- `ZW_SendRequest`; `accepted` is the answer of `ZW_SendDataAppl`. -/
def zwSendRequest (schemeSelect : TsParam → UInt8) (p : TsParam) (cmdClass responseCmd : UInt8)
    (user : ℕ) (callback accepted : Bool) (s : Requests) : Requests × Bool :=
  if !callback then (s, false)
  else
    match membAlloc s.used with
    | none => (s, false)
    | some i =>
      let s := { s with
        used := membTake s.used i
        reqsList := listAdd s.reqsList i }
      let s := s.modify i fun request ↦
        { request with
          param := tsParamMakeReply schemeSelect p
          state := .sending
          cmdClass := cmdClass
          cmd := responseCmd
          user := user
          callback := callback
          serial := s.lastSerial + 1 }
      if accepted then
        ({ s with
          outstanding := s.outstanding ++ [(i, s.lastSerial + 1)]
          lastSerial := s.lastSerial + 1
          log := (s.lastSerial + 1, .accepted user) :: s.log }, true)
      else
        ({ s with
          reqsList := listRemove s.reqsList i
          used := membFree s.used i }, false)

/-- The request in a block is one that `ZW_Abort_SendRequest(node)` aborts. -/
def Requests.abortable (s : Requests) (node : UInt16) (i : Fin numReqs) : Bool :=
  (s.blocks i).state == .waiting && (s.blocks i).param.snode == node

/-- The loop of `ZW_Abort_SendRequest`, over the blocks it has still to visit, up to the call of the
next callback. -/
def abortLoop (node : UInt16) (blocks : List (Fin numReqs)) (s : Requests) : Requests :=
  match blocks.find? (s.abortable node) with
  | none => s
  | some i =>
    let s := ((s.takeOut i).free i).tell i .failed
    { s with frames := .abort i node :: s.frames }

/-- `ts_param_cmp`. -/
def tsParamCmp (first second : TsParam) : Bool :=
  first.snode == second.snode && first.dnode == second.dnode &&
    first.sendpoint == second.sendpoint && first.dendpoint == second.dendpoint

/-- The request in a block is answered by a command that was received with `p`. -/
def Requests.answeredBy (s : Requests) (p : TsParam) (command : List UInt8) (i : Fin numReqs) :
    Bool :=
  (s.blocks i).state == .waiting && tsParamCmp (s.blocks i).param p &&
    (s.blocks i).cmdClass == command.getD 0 0 && (s.blocks i).cmd == command.getD 1 0 &&
    (s.blocks i).param.scheme == p.scheme

/-- `SendRequest_ApplicationCommandHandler`, up to the call of the callback. -/
def applicationCommandHandler (p : TsParam) (command : List UInt8) (s : Requests) : Requests :=
  match s.reqsList.find? (s.answeredBy p command) with
  | none => s
  | some i =>
    let s := (s.takeOut i).tell i ⟨transmitCompleteOk, p.rxFlags, command⟩
    { s with frames := .reply i :: s.frames }

/-- `SendRequest_ApplicationCommandHandler`, from the return of the callback on. -/
def afterReply (i : Fin numReqs) (more : Bool) (s : Requests) : Requests :=
  if more then
    let s := { s with log := ((s.blocks i).serial, .more) :: s.log }
    { s.modify i fun request ↦ { request with state := .waiting, timer := true } with
      reqsList := listAdd s.reqsList i }
  else
    Requests.free { s with log := ((s.blocks i).serial, .last) :: s.log } i

/-- What can happen to the module. -/
inductive Input
  | sendRequest (schemeSelect : TsParam → UInt8) (p : TsParam) (cmdClass responseCmd : UInt8)
      (user : ℕ) (callback accepted : Bool)
  /-- `ZW_SendDataAppl` reports the `k`-th outstanding frame. -/
  | sendReport (k : ℕ) (status : UInt8)
  /-- A command is received. -/
  | command (p : TsParam) (command : List UInt8)
  /-- The timer of a block expires. -/
  | timeout (i : Fin numReqs)
  | abort (node : UInt16)
  /-- The callback on top of the stack returns. -/
  | ret (value : Bool)

/-- One step of the machine. -/
def step (s : Requests) : Input → Requests
  | .sendRequest schemeSelect p cmdClass responseCmd user callback accepted =>
    (zwSendRequest schemeSelect p cmdClass responseCmd user callback accepted s).1
  | .sendReport k status =>
    match s.outstanding[k]? with
    | none => s
    | some (i, _) =>
      zwSendRequestCallback status i { s with outstanding := s.outstanding.eraseIdx k }
  | .command p command => applicationCommandHandler p command s
  | .timeout i => if (s.blocks i).timer then requestTimeout i s else s
  | .abort node => abortLoop node s.reqsList s
  | .ret value =>
    match s.frames with
    | [] => s
    | .reply i :: rest => afterReply i value { s with frames := rest }
    | .abort i node :: rest => abortLoop node (listAfter s.reqsList i) { s with frames := rest }

/-- The state after `ZW_SendRequest_init`. -/
def Requests.init : Requests where
  blocks := fun _ ↦ ⟨⟨0, 0, 0, 0, 0, 0, 0⟩, .sending, 0, 0, 0, false, false, 0⟩
  used := fun _ ↦ false
  reqsList := []
  outstanding := []
  frames := []
  lastSerial := 0
  log := []

end ZipGateway.SendRequest
