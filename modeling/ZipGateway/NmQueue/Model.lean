import ZipGateway.Lib.Run

/-!
# The queue of network management commands

`src/src/CC_NetworkManagement_queue.c`: a network management command for a sleeping node waits in a
queue until the node wakes up. `current_executing_node` is the node whose queued command is being
executed; it is set when the handler has taken a command and cleared when network management is done
and the node has no more of them.

The handler `NetworkManagementCommandHandler_internal` is not modelled; `Handler` is what a call of
it does to the queue. It may be busy, or take the command; and while it runs, network management may
be done, which comes back into the queue before the call returns. `running` is ghost state: the
queued command in progress. So are the numbers of the commands, in the order in which they were
queued. The awake check gets a pointer to the stack of a function that has returned by the time its
callback reads it, so what the callback reads is an input.

`log` records, newest first, what the queue did.
-/

set_option autoImplicit false

namespace ZipGateway.NmQueue

/-! ### State -/

/-- `zwave_udp_response_t`, as far as the queue sends it. -/
inductive Response where
  | waiting
  | ack
  | nak
deriving DecidableEq, Repr

/-- `nm_queue_element_t`. The number stands for the connection and the timer. -/
structure Element where
  number : ℕ
  destinationNode : UInt16
  cmd : List UInt8
deriving DecidableEq, Repr

/-- What the queue did. -/
inductive Act where
  | queued (number : ℕ)
  /-- `send_udp_ack` while the command waits. -/
  | waiting (number : ℕ)
  /-- The handler took a command. -/
  | started (number : ℕ) (node : UInt16)
  /-- An element was removed and its slot freed, and its sender got this response. -/
  | removed (number : ℕ) (response : Response)
  /-- The callback of an awake check of a node woke the queue for another one, or the same. -/
  | awake (checked woken : UInt16)
  /-- `mb_wakeup_event`. -/
  | mailboxWakeup (node : UInt16)
deriving DecidableEq, Repr

/-- The static variables, the awake checks under way, and the ghost state. -/
structure State where
  nmOpQueue : List Element
  currentExecutingNode : UInt16
  checks : List UInt16
  running : Option ℕ
  next : ℕ
  log : List Act
deriving DecidableEq, Repr

def State.powerUp : State := ⟨[], 0, [], none, 0, []⟩

/-- What a call of the handler does to the queue. -/
inductive Handler where
  /-- It returns `COMMAND_BUSY`. -/
  | busy
  /-- It returns another code without having started anything, as for a frame that is too short. -/
  | rejected
  /-- The command is in progress when it returns. -/
  | inProgress
  /-- Network management is done while it runs; if that starts a queued command, the handler does
  `inner`. -/
  | done (inner rest : Handler)
deriving DecidableEq, Repr

/-- The handler returns `COMMAND_BUSY`. -/
def Handler.isBusy : Handler → Bool
  | .busy => true
  | _ => false

def maxQueuedNmOps : ℕ := 10

/-- The state with an act added to the log. -/
def State.record (s : State) (act : Act) : State := { s with log := act :: s.log }

/-! ### The queue -/

/-- The byte of a command at a position. -/
def byteAt (cmd : List UInt8) (i : ℕ) : UInt8 := cmd.getD i 0

/-- `NetworkManagement_GetTargetNode`. -/
def getTargetNode (cmd : List UInt8) : UInt16 :=
  if byteAt cmd 0 = 0x52 ∧ byteAt cmd 1 = 0x03 then
    if byteAt cmd 3 &&& 0xF = 0 then
      if byteAt cmd 4 = 0xff then (byteAt cmd 5).toUInt16 <<< 8 ||| (byteAt cmd 6).toUInt16
      else (byteAt cmd 4).toUInt16
    else 0
  else if byteAt cmd 0 = 0x4D ∧ byteAt cmd 1 = 0x05 then (byteAt cmd 4).toUInt16
  else if byteAt cmd 0 = 0x34 ∧ byteAt cmd 1 = 0x0B then (byteAt cmd 3).toUInt16
  else if byteAt cmd 0 = 0x34 ∧ byteAt cmd 1 = 0x0D then (byteAt cmd 3).toUInt16
  else if byteAt cmd 0 = 0x34 ∧ byteAt cmd 1 = 0x0F then (byteAt cmd 3).toUInt16
  else 0

/-- `NetworkManagement_queue_command`: whether there was room. -/
def queueCommand (targetNode : UInt16) (cmd : List UInt8) (s : State) : State × Bool :=
  if maxQueuedNmOps ≤ s.nmOpQueue.length then (s, false)
  else
    ({ s with
        nmOpQueue := s.nmOpQueue ++ [⟨s.next, targetNode, cmd⟩]
        next := s.next + 1
        log := .waiting s.next :: .queued s.next :: s.log }, true)

/-- `NetworkManagement_queue_find_element`. -/
def findElement (node : UInt16) (s : State) : Option Element :=
  s.nmOpQueue.find? fun e ↦ e.destinationNode = node

/-- `NetworkManagement_queue_remove_element`. -/
def removeElement (e : Element) (status : Response) (s : State) : State :=
  { s with
    nmOpQueue := s.nmOpQueue.eraseP fun other ↦ other.number = e.number
    log := .removed e.number status :: s.log }

/-- `NetworkManagement_queue_purge_node`, which removes the first element of the node until there is
none. -/
def purgeNode (node : UInt16) (s : State) : State :=
  (s.nmOpQueue.filter fun e ↦ e.destinationNode = node).foldl (fun s e ↦ removeElement e .nak s) s

/-- `NetworkManagement_queue_purge_all`. -/
def purgeAll (s : State) : State := s.nmOpQueue.foldl (fun s e ↦ removeElement e .nak s) s

/-- The handler takes a command. -/
def startElement (e : Element) (s : State) : State :=
  { s with running := some e.number, log := .started e.number e.destinationNode :: s.log }

/-- `NetworkManagement_queue_wakeup_event`, for a handler that is busy or does `call` to the
queue. -/
def wakeupEvent (busy : Bool) (call : State → State) (node : UInt16) (s : State) : State × Bool :=
  match findElement node s with
  | none => (s, false)
  | some e =>
    if s.currentExecutingNode = 0 ∨ s.currentExecutingNode = node then
      if busy then (s, false)
      else
        let s := call (startElement e s)
        (removeElement e .ack { s with currentExecutingNode := node }, true)
    else (s, false)

/-- `NetworkManagement_queue_nm_done_event`. -/
def nmDoneEvent (busy : Bool) (call : State → State) (s : State) : State :=
  let s := { s with running := none }
  if s.currentExecutingNode ≠ 0 then
    match wakeupEvent busy call s.currentExecutingNode s with
    | (s, true) => s
    | (after, false) =>
      { after with currentExecutingNode := 0 }.record (.mailboxWakeup s.currentExecutingNode)
  else s

/-- What a call of the handler does to the queue. -/
def Handler.call : Handler → State → State
  | .busy, s => s
  | .rejected, s => { s with running := none }
  | .inProgress, s => s
  | .done inner rest, s => rest.call (nmDoneEvent inner.isBusy inner.call s)

/-- `NetworkManagement_queue_if_target_is_mailbox`: whether the command has been queued. The awake
check is under way when `ZW_SendDataAppl` took its frame. -/
def queueIfTargetIsMailbox (cmd : List UInt8) (mbActiveNode : UInt16) (isMailbox taken : Bool)
    (s : State) : State × Bool :=
  let target := getTargetNode cmd
  if target ≠ 0 ∧ target ≠ 0xFF then
    if mbActiveNode = target then (s, false)
    else if isMailbox then
      queueCommand target cmd (if taken then { s with checks := s.checks ++ [target] } else s)
    else (s, false)
  else (s, false)

/-- `check_if_awake_cb` of a check: the node that was checked, and what its pointer reads. -/
def checkIfAwakeCb (ok : Bool) (checked read : UInt16) (h : Handler) (s : State) : State :=
  if ok then (wakeupEvent h.isBusy h.call read (s.record (.awake checked read))).1 else s

/-! ### Steps -/

/-- What can happen to the queue. -/
inductive Input where
  /-- A network management command is received. -/
  | command (cmd : List UInt8) (mbActiveNode : UInt16) (isMailbox taken : Bool)
  /-- A node wakes up. -/
  | wakeup (node : UInt16) (h : Handler)
  /-- The callback of an awake check. -/
  | awake (k : ℕ) (ok : Bool) (read : UInt16) (h : Handler)
  /-- Network management is done. -/
  | nmDone (h : Handler)
  /-- The timer of an element. -/
  | nakWaiting (k : ℕ)
  | purgeNode (node : UInt16)
  | purgeAll
deriving DecidableEq, Repr

def step (s : State) : Input → State
  | .command cmd mbActiveNode isMailbox taken =>
    (queueIfTargetIsMailbox cmd mbActiveNode isMailbox taken s).1
  | .wakeup node h => (wakeupEvent h.isBusy h.call node s).1
  | .awake k ok read h =>
    match s.checks[k]? with
    | none => s
    | some checked => checkIfAwakeCb ok checked read h { s with checks := s.checks.eraseIdx k }
  | .nmDone h => nmDoneEvent h.isBusy h.call s
  | .nakWaiting k =>
    match s.nmOpQueue[k]? with
    | none => s
    | some e => s.record (.waiting e.number)
  | .purgeNode node => purgeNode node s
  | .purgeAll => purgeAll s

end ZipGateway.NmQueue
