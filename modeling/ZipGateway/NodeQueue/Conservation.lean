import ZipGateway.Lib.Pending
import ZipGateway.NodeQueue.RequeueFlag

/-!
# No packet is lost

A packet that comes to the queues is in one of them, or was left to the mailbox, until its end: the
report of an attempt that is final, the end of its life, or the start of the queues. In between,
`queue_send_done` takes the packet that was sent from the head of its queue and puts a copy of it at
the end of the long queue, or leaves it there, so that there is always one copy
(`packets_conserved`).

`queue_send_done` takes the head of the queue for the packet that was sent. That is so unless the
life of the packet ends while it is sent, or `ClassicZIPNode_init` forgets about it; `Orderly`
excludes both, and a pool of packets that is exhausted.
-/

set_option autoImplicit false

namespace ZipGateway.NodeQueue

open Lib List

/-! ### The attempts -/

def uipIpHLen : ℕ := 40

/-- What `queue_send_done` is told about an attempt: the queue it was made from, the packet, and the
status. -/
structure Report where
  queue : QueueState
  packet : Packet
  status : UInt8

/-- The status that `ClassicZIPNode_input` reports before it returns, or `process_node_queues` when
it returns `FALSE`. -/
def inputStatus (config : Config) (packet : Packet) (outcome : Outcome) (s : Queues) :
    Option UInt8 :=
  if config.nodeIdIsInvalid (config.nodeOfIP packet.bytes) then some transmitCompleteError
  else if 0 < s.backupLen then some transmitCompleteRequeue
  else
    match outcome with
    | .completes status => some status
    | .refuses => some transmitCompleteFail
    | .pending => none

/-- The attempt that is completed in a step. -/
def report (config : Config) (s : Queues) : Input × Answers → Option Report
  | (.process outcome, _) =>
    match s.queueState, sendingQueue { s with queueState := nextQueueState s } with
    | .idle, packet :: _ =>
      if packet.bytes = [] then none
      else (inputStatus config packet outcome s).map fun status ↦ ⟨nextQueueState s, packet, status⟩
    | _, _ => none
  | (.complete status, _) =>
    match s.cbCompletedFunc, sendingQueue s with
    | some .queueSendDone, packet :: _ => some ⟨s.queueState, packet, status⟩
    | _, _ => none
  | _ => none

/-- The packet is not tried again. -/
def Report.isFinal (report : Report) : Bool :=
  report.status != transmitCompleteRequeue && report.status != transmitCompleteRequeueQueued &&
    !(report.queue == .sendingFirst && report.status == transmitCompleteNoAck)

/-- What happens to packets in a step. -/
inductive Event
  /-- `node_input_queued` takes the packet. -/
  | accepted (packet : Packet)
  /-- The packet that arrived under the number comes to its end. -/
  | ended (arrival : ℕ)
deriving DecidableEq

/-- The packet comes to its end. -/
def endOf (packet : Packet) : Event := .ended packet.arrival

/-- What happens to packets in a step. -/
def events (config : Config) (s : Queues) (input : Input × Answers) : List Event :=
  match input.1 with
  | .arrive bytes _ decrypted =>
    if notForQueues bytes decrypted s then [] else [.accepted ⟨bytes, s.arrivals + 1⟩]
  | .expireFirst k => s.firstAttemptQueue[k]?.toList.map endOf
  | .expireLong k => s.longQueue[k]?.toList.map endOf
  | .init => (s.firstAttemptQueue ++ s.longQueue).map endOf
  | _ => ((report config s input).filter Report.isFinal).toList.map fun report ↦ endOf report.packet

/-- The places where a packet is: in the queues, and in the mailbox. -/
def copies (arrival : ℕ) (s : Queues) : ℕ :=
  s.firstAttemptQueue.countP (fun packet ↦ packet.arrival == arrival) +
    s.longQueue.countP (fun packet ↦ packet.arrival == arrival) + s.log.count (.mailed arrival)

/-- The pool has a free packet, what comes to the queues is longer than an IP header, the life of a
packet does not end while it is sent, and `ClassicZIPNode_init` is not called meanwhile. -/
structure Orderly (s : Queues) (input : Input × Answers) : Prop where
  pool : input.2.poolFree = true
  length : ∀ bytes node decrypted, input.1 = .arrive bytes node decrypted →
    notForQueues bytes decrypted s = false → uipIpHLen < bytes.length
  expireFirst : ∀ k, input.1 = .expireFirst k → s.queueState = .sendingFirst → k ≠ 0
  expireLong : ∀ k, input.1 = .expireLong k → s.queueState = .sendingLong → k ≠ 0
  classicInit : input.1 = .classicInit → s.queueState = .idle

/-! ### The ledger -/

/-- A copy of a packet: the same bytes, but for the flag. -/
def IsCopy (packet original : Packet) : Prop :=
  packet.arrival = original.arrival ∧
    (packet.bytes = original.bytes ∨ packet.bytes = setPacketRequeued original.bytes)

/-- Every packet that was taken is in one place or came to its end once, and what is in the queues
is a copy of a packet that was taken. -/
structure LedgerOk (s : Queues) (history : List Event) : Prop where
  balance : ∀ arrival, copies arrival s + history.count (.ended arrival) =
    if 1 ≤ arrival ∧ arrival ≤ s.arrivals then 1 else 0
  accepted : ∀ packet, .accepted packet ∈ history → 1 ≤ packet.arrival ∧ packet.arrival ≤ s.arrivals
  content : ∀ packet ∈ s.firstAttemptQueue ++ s.longQueue,
    packet.bytes ≠ [] ∧ ∃ original, .accepted original ∈ history ∧ IsCopy packet original

/-- The packet that is sent is the head of its queue, and `ClassicZIPNode.c` has it. -/
structure SendingOk (s : Queues) : Prop where
  head : s.queueState ≠ .idle → ∃ packet rest, sendingQueue s = packet :: rest ∧ s.backupBuf =
    packet ∧ s.backupLen = packet.bytes.length ∧ s.cbCompletedFunc = some .queueSendDone

section Ledger

variable {s t : Queues} {history : List Event} {config : Config} {answers : Answers}

theorem setPacketRequeued_idem (bytes : List UInt8) :
    setPacketRequeued (setPacketRequeued bytes) = setPacketRequeued bytes := by
  cases bytes with
  | nil => rfl
  | cons byte rest => simp [setPacketRequeued, UInt8.or_assoc]

theorem setPacketRequeued_ne_nil {bytes : List UInt8} (hbytes : bytes ≠ []) :
    setPacketRequeued bytes ≠ [] := by
  cases bytes with
  | nil => exact absurd rfl hbytes
  | cons byte rest => simp [setPacketRequeued]

/-- The flag is set in a copy. -/
theorem IsCopy.marked {packet original : Packet} (hcopy : IsCopy packet original) (mark : Bool) :
    IsCopy { packet with bytes := if mark then setPacketRequeued packet.bytes else packet.bytes }
      original := by
  refine ⟨hcopy.1, ?_⟩
  split_ifs
  · rcases hcopy.2 with hsame | hsame
    · exact Or.inr (by rw [hsame])
    · exact Or.inr (by rw [hsame, setPacketRequeued_idem])
  · exact hcopy.2

/-- The queues and the log of the mailbox stay. -/
theorem LedgerOk.congr (hok : LedgerOk s history)
    (hfirst : t.firstAttemptQueue = s.firstAttemptQueue) (hlong : t.longQueue = s.longQueue)
    (hmailed : ∀ arrival, t.log.count (.mailed arrival) = s.log.count (.mailed arrival))
    (harrivals : t.arrivals = s.arrivals) : LedgerOk t history := by
  refine ⟨fun arrival ↦ ?_, fun packet hmem ↦ ?_, ?_⟩
  · unfold copies
    rw [hfirst, hlong, hmailed, harrivals]
    exact hok.balance arrival
  · rw [harrivals]
    exact hok.accepted packet hmem
  · rw [hfirst, hlong]
    exact hok.content

/-- Packets of the queues come to their end, or are moved; the ends and the copies balance. -/
theorem LedgerOk.move (hok : LedgerOk s history) (ends : List ℕ)
    (hbalance : ∀ arrival, copies arrival t + ends.count arrival = copies arrival s)
    (harrivals : t.arrivals = s.arrivals)
    (hcontent : ∀ packet ∈ t.firstAttemptQueue ++ t.longQueue, packet.bytes ≠ [] ∧
      ∃ original, .accepted original ∈ history ∧ IsCopy packet original) :
    LedgerOk t (history ++ ends.map Event.ended) := by
  have hcount : ∀ arrival, (ends.map Event.ended).count (.ended arrival) = ends.count arrival := by
    intro arrival
    exact count_map_of_injective ends Event.ended (fun _ _ h ↦ Event.ended.inj h) arrival
  have hmem : ∀ packet, .accepted packet ∈ history ++ ends.map Event.ended →
      .accepted packet ∈ history := by
    intro packet hpacket
    rcases mem_append.mp hpacket with hpacket | hpacket
    · exact hpacket
    · obtain ⟨_, _, heq⟩ := mem_map.mp hpacket
      exact absurd heq (by simp)
  refine ⟨fun arrival ↦ ?_, fun packet hpacket ↦ ?_, fun packet hpacket ↦ ?_⟩
  · rw [count_append, hcount, harrivals, ← hok.balance arrival, ← hbalance arrival]
    omega
  · rw [harrivals]
    exact hok.accepted packet (hmem packet hpacket)
  · obtain ⟨hbytes, original, horiginal, hcopy⟩ := hcontent packet hpacket
    exact ⟨hbytes, original, mem_append_left _ horiginal, hcopy⟩

/-! ### Completions -/

/-- The head of the queue that is sent from is taken out. -/
theorem copies_popSending {packet : Packet} {rest : List Packet}
    (hqueue : sendingQueue s = packet :: rest)
    (arrival : ℕ) :
    copies arrival (popSending s) + [packet.arrival].count arrival = copies arrival s := by
  unfold sendingQueue at hqueue
  unfold popSending copies
  cases hstate : s.queueState with
  | idle =>
    rw [hstate] at hqueue
    exact absurd hqueue (by simp)
  | sendingFirst =>
    rw [hstate] at hqueue
    dsimp only at hqueue ⊢
    rw [hqueue, tail_cons, countP_cons, count_singleton]
    omega
  | sendingLong =>
    rw [hstate] at hqueue
    dsimp only at hqueue ⊢
    rw [hqueue, tail_cons, countP_cons, count_singleton]
    omega

theorem popSending_fields (s : Queues) : (popSending s).arrivals = s.arrivals ∧
    (popSending s).firstAttemptQueue ⊆ s.firstAttemptQueue ∧
      (popSending s).longQueue ⊆ s.longQueue := by
  unfold popSending
  split
  · exact ⟨rfl, List.Subset.refl _, List.Subset.refl _⟩
  · exact ⟨rfl, tail_subset _, List.Subset.refl _⟩
  · exact ⟨rfl, List.Subset.refl _, tail_subset _⟩

theorem popSending_idle (s : Queues) : (popSending s).queueState = .idle := by
  unfold popSending
  split
  case h_1 hidle => exact hidle
  case h_2 => rfl
  case h_3 => rfl

/-- The attempt was the last one of the packet. -/
theorem ledger_popSending (hok : LedgerOk s history) {packet : Packet} {rest : List Packet}
    (hqueue : sendingQueue s = packet :: rest) :
    LedgerOk (popSending s) (history ++ [endOf packet]) := by
  obtain ⟨harrivals, hfirst, hlong⟩ := popSending_fields s
  refine hok.move [packet.arrival] (copies_popSending hqueue) harrivals fun other hother ↦ ?_
  refine hok.content other ?_
  rcases mem_append.mp hother with hother | hother
  · exact mem_append_left _ (hfirst hother)
  · exact mem_append_right _ (hlong hother)

/-- The packet has one place more. -/
theorem copies_requeue (hpool : answers.poolFree = true) (nodeMode : UInt16) (mark : Bool)
    (status : UInt8)
    (sent : Packet) (arrival : ℕ) :
    copies arrival (requeue config answers nodeMode mark status sent s) =
      copies arrival s + [sent.arrival].count arrival := by
  unfold requeue copies packetqueueAlloc
  rw [hpool]
  by_cases hmailbox : movesToMailbox config nodeMode sent.bytes = true
  · rw [if_pos hmailbox, count_singleton]
    dsimp only
    rw [count_cons]
    simp only [beq_iff_eq, Act.mailed.injEq]
    exact (Nat.add_assoc _ _ _).symm
  · rw [if_neg hmailbox, count_singleton]
    dsimp only
    rw [if_pos rfl, countP_append, count_cons_of_ne (by simp), countP_singleton]
    dsimp only
    omega

/-- A copy of the packet goes to the end of the long queue, or it is left to the mailbox. -/
theorem requeue_content (config : Config) (s : Queues) (hpool : answers.poolFree = true)
    (nodeMode : UInt16) (mark : Bool) (status : UInt8) (sent : Packet) :
    (requeue config answers nodeMode mark status sent s).arrivals = s.arrivals ∧
      (requeue config answers nodeMode mark status sent s).queueState = s.queueState ∧
      (requeue config answers nodeMode mark status sent s).firstAttemptQueue = s.firstAttemptQueue ∧
      ((requeue config answers nodeMode mark status sent s).longQueue = s.longQueue ∨
        (requeue config answers nodeMode mark status sent s).longQueue = s.longQueue ++
          [{ sent with bytes := if mark then setPacketRequeued sent.bytes else sent.bytes }]) := by
  unfold requeue packetqueueAlloc
  rw [hpool]
  by_cases hmailbox : movesToMailbox config nodeMode sent.bytes = true
  · rw [if_pos hmailbox]
    exact ⟨rfl, rfl, rfl, Or.inl rfl⟩
  · rw [if_neg hmailbox]
    exact ⟨rfl, rfl, rfl, Or.inr rfl⟩

/-- The head of the queue stays the head. -/
theorem sendingQueue_requeue (config : Config) (hpool : answers.poolFree = true) {packet : Packet}
    {rest : List Packet} (hqueue : sendingQueue s = packet :: rest) (nodeMode : UInt16)
    (mark : Bool) (status : UInt8) :
    ∃ rest', sendingQueue (requeue config answers nodeMode mark status packet s) = packet ::
      rest' := by
  obtain ⟨-, hstate, hfirst, hlong⟩ := requeue_content config s hpool nodeMode mark status packet
  unfold sendingQueue at hqueue ⊢
  rw [hstate, hfirst]
  split at hqueue
  case h_1 => exact absurd hqueue (by simp)
  case h_2 => exact ⟨rest, hqueue⟩
  case h_3 =>
    rcases hlong with hlong | hlong
    · exact ⟨rest, hlong.trans hqueue⟩
    · exact ⟨_, by rw [hlong, hqueue, cons_append]⟩

/-- The packet is tried again later. -/
theorem ledger_requeue (hok : LedgerOk s history) (hpool : answers.poolFree = true)
    {packet : Packet} {rest : List Packet} (hqueue : sendingQueue s = packet :: rest)
    (hmem : packet ∈ s.firstAttemptQueue ++ s.longQueue) (nodeMode : UInt16) (mark : Bool)
    (status : UInt8) :
    LedgerOk (popSending (requeue config answers nodeMode mark status packet s)) history := by
  obtain ⟨rest', hqueue'⟩ := sendingQueue_requeue config hpool hqueue nodeMode mark status
  obtain ⟨harrivals, -, hfirst, hlong⟩ := requeue_content config s hpool nodeMode mark status packet
  obtain ⟨hpopped, hfirst', hlong'⟩ :=
    popSending_fields (requeue config answers nodeMode mark status packet s)
  obtain ⟨hbytes, original, horiginal, hcopy⟩ := hok.content packet hmem
  have hmoved : LedgerOk (popSending (requeue config answers nodeMode mark status packet s))
      (history ++ ([] : List ℕ).map Event.ended) := by
    refine hok.move [] (fun arrival ↦ ?_) (hpopped.trans harrivals) fun other hother ↦ ?_
    · have hpop := copies_popSending hqueue' arrival
      rw [copies_requeue hpool] at hpop
      rw [count_nil]
      omega
    · rcases mem_append.mp hother with hother | hother
      · exact hok.content other (mem_append_left _ (hfirst ▸ hfirst' hother))
      · rcases hlong with hlong | hlong
        · exact hok.content other (mem_append_right _ (hlong ▸ hlong' hother))
        · rw [hlong] at hlong'
          rcases mem_append.mp (hlong' hother) with hold | hnew
          · exact hok.content other (mem_append_right _ hold)
          · rw [mem_singleton.mp hnew]
            refine ⟨?_, original, horiginal, hcopy.marked mark⟩
            dsimp only
            split_ifs
            · exact setPacketRequeued_ne_nil hbytes
            · exact hbytes
  rwa [map_nil, append_nil] at hmoved

theorem mem_of_sendingQueue {packet : Packet} {rest : List Packet}
    (hqueue : sendingQueue s = packet :: rest) : packet ∈ s.firstAttemptQueue ++ s.longQueue := by
  unfold sendingQueue at hqueue
  split at hqueue
  case h_1 => exact absurd hqueue (by simp)
  case h_2 => exact mem_append_left _ (hqueue ▸ mem_cons_self)
  case h_3 => exact mem_append_right _ (hqueue ▸ mem_cons_self)

/-- `queue_send_done` is told about the head of the queue. -/
theorem ledger_queueSendDone (hok : LedgerOk s history) (hpool : answers.poolFree = true)
    {packet : Packet}
    {rest : List Packet} (hqueue : sendingQueue s = packet :: rest) {sent : Option Packet}
    {status : UInt8} (hsent : sent = some packet ∨ sent = none ∧ status = transmitCompleteFail) :
    LedgerOk (queueSendDone config answers status sent s) (history ++
      ((some (Report.mk s.queueState packet status)).filter Report.isFinal).toList.map fun report ↦
        endOf report.packet) := by
  have hmem := mem_of_sendingQueue hqueue
  have hidle : LedgerOk { s with queueState := .idle } history :=
    hok.congr rfl rfl (fun _ ↦ rfl) rfl
  have hpopped := ledger_popSending hok hqueue
  have hfinal : Report.isFinal ⟨s.queueState, packet, status⟩ = true →
      LedgerOk (popSending s) (history ++
        ((some (Report.mk s.queueState packet status)).filter Report.isFinal).toList.map
          fun report ↦
          endOf report.packet) := by
    intro hfinal
    rw [Option.filter_some, if_pos hfinal]
    exact hpopped
  have hagain : Report.isFinal ⟨s.queueState, packet, status⟩ = false →
      history ++ ((some (Report.mk s.queueState packet status)).filter Report.isFinal).toList.map
        (fun report ↦ endOf report.packet) = history := by
    intro hagain
    rw [Option.filter_some, if_neg (by simp [hagain])]
    exact append_nil _
  unfold queueSendDone
  rw [hqueue]
  split
  case h_1 hstate =>
    rw [sendingQueue, hstate] at hqueue
    exact absurd hqueue (by simp)
  case h_2 heq _ => exact absurd heq (by simp)
  case h_3 heq _ =>
    obtain ⟨rfl, rfl⟩ := List.cons.inj heq
    dsimp only
    by_cases hrequeue : status = transmitCompleteRequeue
    · rw [if_pos hrequeue, hagain (by simp [Report.isFinal, hrequeue])]
      exact hidle
    · rw [if_neg hrequeue]
      by_cases hqueued : status = transmitCompleteRequeueQueued
      · rw [if_pos hqueued, hagain (by simp [Report.isFinal, hqueued])]
        rcases hsent with rfl | ⟨-, hfail⟩
        · exact ledger_requeue hok hpool hqueue hmem _ _ _
        · exact absurd (hqueued.symm.trans hfail) (by decide)
      · rw [if_neg hqueued]
        by_cases hnoAck : s.queueState = .sendingFirst ∧ status = transmitCompleteNoAck
        · rcases hsent with rfl | ⟨-, hfail⟩
          · rw [hagain (by simp [Report.isFinal, hnoAck.1, hnoAck.2]), hnoAck.1]
            dsimp only
            rw [if_pos ⟨hnoAck.2, (hok.content _ hmem).1⟩]
            exact ledger_requeue hok hpool hqueue hmem _ _ _
          · exact absurd (hnoAck.2.symm.trans hfail) (by decide)
        · have hfinal := hfinal (by
            simp only [Report.isFinal, Bool.and_eq_true, bne_iff_ne, ne_eq, Bool.not_eq_true',
              Bool.and_eq_false_iff, beq_eq_false_iff_ne]
            exact ⟨⟨hrequeue, hqueued⟩, not_and_or.mp hnoAck⟩)
          split
          case h_1 hfirst =>
            rw [if_neg (fun h ↦ hnoAck ⟨hfirst, h.1⟩)]
            exact hfinal
          case h_2 => exact hfinal

/-- `queue_send_done` leaves the queues idle. -/
theorem queueSendDone_idle (config : Config) (answers : Answers) (status : UInt8)
    (sent : Option Packet)
    (s : Queues) : (queueSendDone config answers status sent s).queueState = .idle := by
  unfold queueSendDone
  split
  case h_1 hidle => exact hidle
  case h_2 => rfl
  case h_3 =>
    dsimp only
    split_ifs
    · rfl
    · split
      · exact popSending_idle s
      · exact popSending_idle _
    · split
      · split_ifs
        · exact popSending_idle _
        · exact popSending_idle s
      · exact popSending_idle s

theorem sendingOk_of_idle (hidle : s.queueState = .idle) : SendingOk s :=
  ⟨fun hstate ↦ absurd hidle hstate⟩

/-- A transmission is reported. -/
theorem ledger_callSendCompleted (config : Config) (hok : LedgerOk s history)
    (hsending : SendingOk s) (hpool : answers.poolFree = true) (status : UInt8) :
    LedgerOk (callSendCompleted config answers status s)
        (history ++ events config s (.complete status, answers)) ∧
      SendingOk (callSendCompleted config answers status s) := by
  have hafter : LedgerOk { s with backupLen := 0, cbCompletedFunc := none } history :=
    hok.congr rfl rfl (fun _ ↦ rfl) rfl
  by_cases hidle : s.queueState = .idle
  · have hnone : sendingQueue s = [] := by
      rw [sendingQueue, hidle]
    have hevents : events config s (.complete status, answers) = [] := by
      simp [events, report, hnone]
    have hstate : callSendCompleted config answers status s =
        { s with backupLen := 0, cbCompletedFunc := none } := by
      unfold callSendCompleted
      split
      · simp only [queueSendDone, hidle]
      · rfl
    rw [hevents, append_nil, hstate]
    exact ⟨hafter, sendingOk_of_idle hidle⟩
  · obtain ⟨packet, rest, hqueue, hbackup, hlen, hcb⟩ := hsending.head hidle
    have hsent : { s.backupBuf with bytes := s.backupBuf.bytes.take s.backupLen } = packet := by
      rw [hbackup, hlen, take_length]
    have hevents : events config s (.complete status, answers) =
        ((some (Report.mk s.queueState packet status)).filter Report.isFinal).toList.map
          fun report ↦
          endOf report.packet := by
      simp only [events, report, hcb, hqueue]
    have hstate : callSendCompleted config answers status s = queueSendDone config answers status
        (some packet) { s with backupLen := 0, cbCompletedFunc := none } := by
      unfold callSendCompleted
      rw [hcb, hsent]
    rw [hevents, hstate]
    refine ⟨ledger_queueSendDone hafter hpool hqueue (Or.inl rfl), ?_⟩
    exact sendingOk_of_idle (queueSendDone_idle config answers status (some packet) _)

/-! ### Attempts -/

/-- `process_node_queues` looks at a queue that is not empty, unless both are empty. -/
theorem nextQueueState_idle (hqueue : sendingQueue { s with queueState := nextQueueState s } = []) :
    nextQueueState s = .idle := by
  by_cases hfirst : s.firstAttemptQueue = []
  · by_cases hlong : s.longQueue = []
    · rw [nextQueueState, if_neg (not_not.mpr hfirst), if_neg (not_not.mpr hlong)]
    · have hnext : nextQueueState s = .sendingLong := by
        rw [nextQueueState, if_neg (not_not.mpr hfirst), if_pos hlong]
      rw [sendingQueue, hnext] at hqueue
      exact absurd hqueue hlong
  · have hnext : nextQueueState s = .sendingFirst := by
      rw [nextQueueState, if_pos hfirst]
    rw [sendingQueue, hnext] at hqueue
    exact absurd hqueue hfirst

/-- `ClassicZIPNode_input` has the head of the queue. -/
theorem ledger_classicZIPNodeInput (hok : LedgerOk s history) (hpool : answers.poolFree = true)
    {packet : Packet} {rest : List Packet} (hqueue : sendingQueue s = packet :: rest)
    (outcome : Outcome) : LedgerOk (classicZIPNodeInput config answers packet outcome s) (history ++
        (((inputStatus config packet outcome s).map fun status ↦
          Report.mk s.queueState packet status).filter Report.isFinal).toList.map fun report ↦
            endOf report.packet) ∧
      SendingOk (classicZIPNodeInput config answers packet outcome s) := by
  have hidle : ∀ {status sent state}, SendingOk (queueSendDone config answers status sent state) :=
    fun {status sent state} ↦
      sendingOk_of_idle (queueSendDone_idle config answers status sent state)
  unfold classicZIPNodeInput inputStatus
  by_cases hinvalid : config.nodeIdIsInvalid (config.nodeOfIP packet.bytes) = true
  · rw [if_pos hinvalid, if_pos hinvalid]
    exact ⟨ledger_queueSendDone hok hpool hqueue (Or.inl rfl), hidle⟩
  rw [if_neg hinvalid, if_neg hinvalid]
  by_cases hbusy : 0 < s.backupLen
  · rw [if_pos hbusy, if_pos hbusy]
    exact ⟨ledger_queueSendDone hok hpool hqueue (Or.inl rfl), hidle⟩
  rw [if_neg hbusy, if_neg hbusy]
  cases outcome with
  | completes status =>
    have hok' : LedgerOk { s with
        cbCompletedFunc := none
        backupBuf := packet
        backupLen := 0 } history := hok.congr rfl rfl (fun _ ↦ rfl) rfl
    have hsent : { packet with bytes := packet.bytes.take packet.bytes.length } = packet := by
      rw [take_length]
    dsimp only [callSendCompleted]
    rw [hsent]
    exact ⟨ledger_queueSendDone hok' hpool hqueue (Or.inl rfl), hidle⟩
  | refuses =>
    have hok' : LedgerOk { s with
        cbCompletedFunc := some .queueSendDone
        backupBuf := packet
        backupLen := 0 } history := hok.congr rfl rfl (fun _ ↦ rfl) rfl
    exact ⟨ledger_queueSendDone hok' hpool hqueue (Or.inr ⟨rfl, rfl⟩), hidle⟩
  | pending =>
    rw [Option.map_none, Option.filter_none, Option.toList_none, map_nil, append_nil]
    exact ⟨hok.congr rfl rfl (fun _ ↦ rfl) rfl, ⟨fun _ ↦ ⟨packet, rest, hqueue, rfl, rfl, rfl⟩⟩⟩

/-- `process_node_queues` takes the head of a queue. -/
theorem ledger_processNodeQueues (config : Config) (hok : LedgerOk s history)
    (hsending : SendingOk s) (hpool : answers.poolFree = true) (outcome : Outcome) :
    LedgerOk (processNodeQueues config answers outcome s)
        (history ++ events config s (.process outcome, answers)) ∧
      SendingOk (processNodeQueues config answers outcome s) := by
  unfold processNodeQueues
  by_cases hidle : s.queueState = .idle
  · rw [if_neg (not_not.mpr hidle)]
    dsimp only
    cases hqueue : sendingQueue { s with queueState := nextQueueState s } with
    | nil =>
      have hevents : events config s (.process outcome, answers) = [] := by
        simp [events, report, hidle, hqueue]
      rw [hevents, append_nil]
      exact ⟨hok.congr rfl rfl (fun _ ↦ rfl) rfl, sendingOk_of_idle (nextQueueState_idle hqueue)⟩
    | cons packet rest =>
      have hbytes : packet.bytes ≠ [] :=
        (hok.content packet (mem_of_sendingQueue (s := { s with queueState := nextQueueState s })
          hqueue)).1
      have hevents : events config s (.process outcome, answers) =
          (((inputStatus config packet outcome s).map fun status ↦
            Report.mk (nextQueueState s) packet status).filter Report.isFinal).toList.map
              fun report ↦
              endOf report.packet := by
        simp only [events, report, hidle, hqueue, if_neg hbytes]
      have hhanded : LedgerOk { s with
          queueState := nextQueueState s
          log := .handed packet.arrival (isPacketRequeued packet.bytes) :: s.log } history :=
        hok.congr rfl rfl (fun arrival ↦ count_cons_of_ne (by simp)) rfl
      rw [hevents]
      dsimp only
      rw [if_neg hbytes]
      exact ledger_classicZIPNodeInput hhanded hpool hqueue outcome
  · have hevents : events config s (.process outcome, answers) = [] := by
      unfold events report
      dsimp only
      split
      case h_1 hstate _ => exact absurd hstate hidle
      case h_2 => rfl
    rw [if_pos hidle, hevents, append_nil]
    exact ⟨hok, hsending⟩

/-! ### Arrivals and ends -/

/-- A packet arrives. -/
theorem LedgerOk.accept (hok : LedgerOk s history) {bytes : List UInt8} (hbytes : bytes ≠ [])
    (hcopies : ∀ arrival, copies arrival t = copies arrival s + [s.arrivals + 1].count arrival)
    (harrivals : t.arrivals = s.arrivals + 1)
    (hcontent : ∀ packet ∈ t.firstAttemptQueue ++ t.longQueue,
      packet ∈ s.firstAttemptQueue ++ s.longQueue ∨ packet = ⟨bytes, s.arrivals + 1⟩) :
    LedgerOk t (history ++ [.accepted ⟨bytes, s.arrivals + 1⟩]) := by
  refine ⟨fun arrival ↦ ?_, fun packet hpacket ↦ ?_, fun packet hpacket ↦ ?_⟩
  · have hbalance := hok.balance arrival
    have hcount : [Event.accepted ⟨bytes, s.arrivals + 1⟩].count (.ended arrival) = 0 :=
      count_eq_zero.mpr (by simp)
    rw [count_append, hcount, hcopies, harrivals, count_singleton]
    simp only [beq_iff_eq]
    split_ifs at hbalance ⊢ <;> omega
  · rw [harrivals]
    rcases mem_append.mp hpacket with hold | hnew
    · have hrange := hok.accepted packet hold
      omega
    · obtain rfl := Event.accepted.inj (mem_singleton.mp hnew)
      exact ⟨Nat.le_add_left 1 _, le_refl _⟩
  · rcases hcontent packet hpacket with hold | rfl
    · obtain ⟨hne, original, horiginal, hcopy⟩ := hok.content packet hold
      exact ⟨hne, original, mem_append_left _ horiginal, hcopy⟩
    · exact ⟨hbytes, _, mem_append_right _ (mem_singleton_self _), rfl, Or.inl rfl⟩

/-- The head of the queue that is sent from stays. -/
theorem SendingOk.grow (hsending : SendingOk s) (hstate : t.queueState = s.queueState)
    (hqueue : ∀ packet rest, sendingQueue s = packet :: rest →
      ∃ rest', sendingQueue t = packet :: rest')
    (hbuf : t.backupBuf = s.backupBuf) (hlen : t.backupLen = s.backupLen)
    (hcb : t.cbCompletedFunc = s.cbCompletedFunc) : SendingOk t := by
  refine ⟨fun hbusy ↦ ?_⟩
  rw [hstate] at hbusy
  obtain ⟨packet, rest, hhead, hsent⟩ := hsending.head hbusy
  obtain ⟨rest', hhead'⟩ := hqueue packet rest hhead
  rw [hbuf, hlen, hcb]
  exact ⟨packet, rest', hhead', hsent⟩

/-- What follows the head of the queue that is sent from does not matter. -/
theorem sendingQueue_head (hstate : t.queueState = s.queueState)
    (hfirst : ∀ packet rest, s.queueState = .sendingFirst → s.firstAttemptQueue = packet :: rest →
      ∃ rest', t.firstAttemptQueue = packet :: rest')
    (hlong : ∀ packet rest, s.queueState = .sendingLong → s.longQueue = packet :: rest →
      ∃ rest', t.longQueue = packet :: rest') :
    ∀ packet rest, sendingQueue s = packet :: rest → ∃ rest', sendingQueue t = packet :: rest' := by
  intro packet rest hqueue
  unfold sendingQueue at hqueue ⊢
  rw [hstate]
  cases hsent : s.queueState with
  | idle =>
    rw [hsent] at hqueue
    exact absurd hqueue (by simp)
  | sendingFirst =>
    rw [hsent] at hqueue
    exact hfirst packet rest hsent hqueue
  | sendingLong =>
    rw [hsent] at hqueue
    exact hlong packet rest hsent hqueue

theorem packetqueueAlloc_free (hpool : answers.poolFree = true) (queue : List Packet)
    (packet : Packet) : packetqueueAlloc answers queue packet = queue ++ [packet] := by
  rw [packetqueueAlloc, if_pos hpool]

/-- `node_input_queued` puts a packet at the end of a queue. -/
theorem ledger_nodeInputQueued (config : Config) (hok : LedgerOk s history) (hsending : SendingOk s)
    (hpool : answers.poolFree = true) {bytes : List UInt8} {node : UInt16} {decrypted : Bool}
    (hbytes : notForQueues bytes decrypted s = false → bytes ≠ []) :
    LedgerOk (nodeInputQueued config answers bytes node decrypted s)
        (history ++ events config s (.arrive bytes node decrypted, answers)) ∧
      SendingOk (nodeInputQueued config answers bytes node decrypted s) := by
  unfold nodeInputQueued events
  dsimp only
  by_cases hnot : notForQueues bytes decrypted s = true
  · rw [if_pos hnot, if_pos hnot, append_nil]
    exact ⟨hok, hsending⟩
  have hne := hbytes (by simpa using hnot)
  rw [if_neg hnot, if_neg hnot]
  rw [packetqueueAlloc_free hpool, packetqueueAlloc_free hpool]
  by_cases hlong : useLongQueue config answers node
      { addFingerprint bytes s with arrivals := (addFingerprint bytes s).arrivals + 1 } = true
  · rw [if_pos hlong]
    refine ⟨hok.accept hne (fun arrival ↦ ?_) rfl fun packet hmem ↦ ?_, ?_⟩
    · unfold copies
      rw [countP_append, countP_singleton, count_singleton]
      simp only [addFingerprint, beq_iff_eq]
      omega
    · simp only [addFingerprint, mem_append, mem_singleton] at hmem ⊢
      tauto
    · refine hsending.grow rfl (sendingQueue_head rfl (fun _ rest _ h ↦ ⟨rest, h⟩) ?_) rfl rfl rfl
      intro packet rest _ hqueue
      exact ⟨_, congrArg (fun queue ↦ queue ++ [_]) hqueue⟩
  · rw [if_neg hlong]
    refine ⟨hok.accept hne (fun arrival ↦ ?_) rfl fun packet hmem ↦ ?_, ?_⟩
    · unfold copies
      rw [countP_append, countP_singleton, count_singleton]
      simp only [addFingerprint, beq_iff_eq]
      omega
    · simp only [addFingerprint, mem_append, mem_singleton] at hmem ⊢
      tauto
    · refine hsending.grow rfl (sendingQueue_head rfl ?_ fun _ rest _ h ↦ ⟨rest, h⟩) rfl rfl rfl
      intro packet rest _ hqueue
      exact ⟨_, congrArg (fun queue ↦ queue ++ [_]) hqueue⟩

/-- The number of packets of a queue that arrived under a number. -/
theorem count_arrival (queue : List Packet) (arrival : ℕ) :
    (queue.map Packet.arrival).count arrival =
      queue.countP fun packet ↦ packet.arrival == arrival := by
  rw [List.count, countP_map]
  rfl

/-- A packet that leaves a queue leaves the others there. -/
theorem countP_eraseIdx (queue : List Packet) (k arrival : ℕ) :
    (queue.eraseIdx k).countP (fun packet ↦ packet.arrival == arrival) +
        (queue[k]?.toList.map Packet.arrival).count arrival =
      queue.countP fun packet ↦ packet.arrival == arrival := by
  cases hpacket : queue[k]? with
  | none =>
    rw [eraseIdx_of_length_le (List.getElem?_eq_none_iff.mp hpacket)]
    rfl
  | some packet =>
    rw [count_arrival, ← (perm_cons_eraseIdx hpacket).countP_eq, countP_cons,
      Option.toList_some, countP_singleton]

/-- The head of a queue stays when another packet leaves it. -/
theorem eraseIdx_head {queue rest : List Packet} {packet : Packet} {k : ℕ} (hk : k ≠ 0)
    (hqueue : queue = packet :: rest) : ∃ rest', queue.eraseIdx k = packet :: rest' := by
  obtain ⟨j, rfl⟩ := Nat.exists_eq_succ_of_ne_zero hk
  rw [hqueue, eraseIdx_cons_succ]
  exact ⟨_, rfl⟩

/-- The life of a packet that leaves a queue ends. -/
theorem LedgerOk.expire (hok : LedgerOk s history) (expired : Option Packet)
    (hcopies : ∀ arrival, copies arrival t + (expired.toList.map Packet.arrival).count arrival =
      copies arrival s)
    (harrivals : t.arrivals = s.arrivals)
    (hcontent : t.firstAttemptQueue ++ t.longQueue ⊆ s.firstAttemptQueue ++ s.longQueue) :
    LedgerOk t (history ++ expired.toList.map endOf) := by
  have hmoved := hok.move (expired.toList.map Packet.arrival) hcopies harrivals fun packet hmem ↦
    hok.content packet (hcontent hmem)
  rwa [map_map] at hmoved

theorem ledger_expireFirst (hok : LedgerOk s history) (k : ℕ) :
    LedgerOk { s with firstAttemptQueue := s.firstAttemptQueue.eraseIdx k }
      (history ++ s.firstAttemptQueue[k]?.toList.map endOf) := by
  refine hok.expire _ (fun arrival ↦ ?_) rfl ((eraseIdx_sublist ..).append_right _).subset
  have hcount := countP_eraseIdx s.firstAttemptQueue k arrival
  unfold copies
  dsimp only
  omega

theorem ledger_expireLong (hok : LedgerOk s history) (k : ℕ) :
    LedgerOk { s with longQueue := s.longQueue.eraseIdx k }
      (history ++ s.longQueue[k]?.toList.map endOf) := by
  refine hok.expire _ (fun arrival ↦ ?_) rfl ((eraseIdx_sublist ..).append_left _).subset
  have hcount := countP_eraseIdx s.longQueue k arrival
  unfold copies
  dsimp only
  omega

/-- `node_queue_init` empties the queues. -/
theorem ledger_init (hok : LedgerOk s history) :
    LedgerOk { s with firstAttemptQueue := [], longQueue := [], queueState := .idle }
      (history ++ (s.firstAttemptQueue ++ s.longQueue).map endOf) := by
  have hmoved := hok.move
    (t := { s with firstAttemptQueue := [], longQueue := [], queueState := .idle })
    ((s.firstAttemptQueue ++ s.longQueue).map Packet.arrival) (fun arrival ↦ ?_) rfl
    fun packet hmem ↦ absurd hmem (by simp)
  · rwa [map_map] at hmoved
  · rw [count_arrival, countP_append]
    simp only [copies, countP_nil]
    omega

/-! ### Runs -/

/-- The ledger balances, and the packet that is sent is the head of its queue. -/
structure Conserved (s : Queues) (history : List Event) : Prop where
  ledger : LedgerOk s history
  sending : SendingOk s

/-- An orderly step keeps the balance. -/
theorem conserved_step (config : Config) (input : Input × Answers) (horderly : Orderly s input)
    (hconserved : Conserved s history) :
    Conserved (step config s input) (history ++ events config s input) := by
  obtain ⟨hok, hsending⟩ := hconserved
  obtain ⟨input, answers⟩ := input
  have hpool : answers.poolFree = true := horderly.pool
  cases input with
  | arrive bytes node decrypted =>
    have hbytes : notForQueues bytes decrypted s = false → bytes ≠ [] := by
      intro hqueues
      have hlength := horderly.length bytes node decrypted rfl hqueues
      exact ne_nil_of_length_pos (Nat.zero_lt_of_lt hlength)
    obtain ⟨hledger, hhead⟩ := ledger_nodeInputQueued config hok hsending hpool hbytes
    exact ⟨hledger, hhead⟩
  | process outcome =>
    obtain ⟨hledger, hhead⟩ := ledger_processNodeQueues config hok hsending hpool outcome
    exact ⟨hledger, hhead⟩
  | complete status =>
    obtain ⟨hledger, hhead⟩ := ledger_callSendCompleted config hok hsending hpool status
    exact ⟨hledger, hhead⟩
  | mailboxInput bytes =>
    simp only [step]
    have hevents : events config s (.mailboxInput bytes, answers) = [] := rfl
    rw [hevents, append_nil]
    by_cases hbusy : 0 < s.backupLen
    · rw [if_pos hbusy]
      exact ⟨hok, hsending⟩
    · rw [if_neg hbusy]
      refine ⟨hok.congr rfl rfl (fun _ ↦ rfl) rfl, sendingOk_of_idle ?_⟩
      by_contra hstate
      obtain ⟨packet, rest, hqueue, -, hlen, -⟩ := hsending.head hstate
      have hbytes := (hok.content packet (mem_of_sendingQueue hqueue)).1
      exact hbusy (hlen ▸ length_pos_of_ne_nil hbytes)
  | expireFirst k =>
    refine ⟨ledger_expireFirst hok k, ?_⟩
    refine hsending.grow rfl (sendingQueue_head rfl ?_ fun _ rest _ h ↦ ⟨rest, h⟩) rfl rfl rfl
    intro packet rest hstate hqueue
    exact eraseIdx_head (horderly.expireFirst k rfl hstate) hqueue
  | expireLong k =>
    refine ⟨ledger_expireLong hok k, ?_⟩
    refine hsending.grow rfl (sendingQueue_head rfl (fun _ rest _ h ↦ ⟨rest, h⟩) ?_) rfl rfl rfl
    intro packet rest hstate hqueue
    exact eraseIdx_head (horderly.expireLong k rfl hstate) hqueue
  | classicInit =>
    have hevents : events config s (.classicInit, answers) = [] := rfl
    rw [hevents, append_nil]
    exact ⟨hok.congr rfl rfl (fun _ ↦ rfl) rfl, sendingOk_of_idle (horderly.classicInit rfl)⟩
  | init => exact ⟨ledger_init hok, sendingOk_of_idle rfl⟩

/-- At power-up nothing was taken. -/
theorem conserved_powerUp : Conserved Queues.powerUp [] := by
  refine ⟨⟨fun arrival ↦ ?_, fun _ hmem ↦ absurd hmem (by simp), fun _ hmem ↦ absurd hmem ?_⟩,
    sendingOk_of_idle rfl⟩
  · rw [if_neg (by simp [Queues.powerUp]; omega)]
    rfl
  · simp [Queues.powerUp]

/-- An attempt that is completed leaves the queues idle. -/
theorem report_idle (config : Config) (s : Queues) (input : Input × Answers)
    (hreport : (report config s input).isSome) : (step config s input).queueState = .idle := by
  obtain ⟨input, answers⟩ := input
  cases input with
  | process outcome =>
    simp only [report] at hreport
    split at hreport
    case h_2 => exact absurd hreport (by simp)
    case h_1 packet rest hidle hqueue =>
      by_cases hbytes : packet.bytes = []
      · rw [if_pos hbytes] at hreport
        exact absurd hreport (by simp)
      rw [if_neg hbytes, Option.isSome_map] at hreport
      simp only [step, processNodeQueues]
      rw [if_neg (not_not.mpr hidle), hqueue]
      dsimp only
      rw [if_neg hbytes]
      unfold classicZIPNodeInput
      unfold inputStatus at hreport
      by_cases hinvalid : config.nodeIdIsInvalid (config.nodeOfIP packet.bytes) = true
      · rw [if_pos hinvalid]
        exact queueSendDone_idle _ _ _ _ _
      rw [if_neg hinvalid] at hreport ⊢
      by_cases hbusy : 0 < s.backupLen
      · rw [if_pos hbusy]
        exact queueSendDone_idle _ _ _ _ _
      rw [if_neg hbusy] at hreport ⊢
      cases outcome with
      | completes status => exact queueSendDone_idle _ _ _ _ _
      | refuses => exact queueSendDone_idle _ _ _ _ _
      | pending => exact absurd hreport (by simp)
  | complete status =>
    simp only [report] at hreport
    split at hreport
    case h_1 hcb hqueue =>
      simp only [step, callSendCompleted, hcb]
      exact queueSendDone_idle _ _ _ _ _
    case h_2 => exact absurd hreport (by simp)
  | arrive bytes node decrypted => exact absurd hreport (by simp [report])
  | mailboxInput bytes => exact absurd hreport (by simp [report])
  | expireFirst k => exact absurd hreport (by simp [report])
  | expireLong k => exact absurd hreport (by simp [report])
  | classicInit => exact absurd hreport (by simp [report])
  | init => exact absurd hreport (by simp [report])

end Ledger

/-- In every run whose steps are orderly, a packet that `node_input_queued` took is in one of the
queues or in the mailbox, and in one only, as long as it has not come to its end, which it does at
most once; the queues have nothing but copies of such packets; and every attempt that is completed
leaves them idle. -/
theorem packets_conserved (config : Config) (inputs : List (Input × Answers))
    (horderly : AllSteps (step config) Orderly Queues.powerUp inputs) :
    (∀ packet, .accepted packet ∈ collect (step config) (events config) Queues.powerUp inputs →
      copies packet.arrival (run (step config) Queues.powerUp inputs) +
        (collect (step config) (events config) Queues.powerUp inputs).count (endOf packet) = 1) ∧
    (∀ packet ∈ (run (step config) Queues.powerUp inputs).firstAttemptQueue ++
        (run (step config) Queues.powerUp inputs).longQueue,
      ∃ original, .accepted original ∈ collect (step config) (events config) Queues.powerUp inputs ∧
        IsCopy packet original) ∧
    ∀ input, (report config (run (step config) Queues.powerUp inputs) input).isSome →
      (step config (run (step config) Queues.powerUp inputs) input).queueState = .idle := by
  have hconserved : Conserved (run (step config) Queues.powerUp inputs)
      ([] ++ collect (step config) (events config) Queues.powerUp inputs) :=
    run_collect_invariant (fun _ _ input hinput hstate ↦ conserved_step config input hinput hstate)
      conserved_powerUp horderly
  rw [nil_append] at hconserved
  refine ⟨fun packet hpacket ↦ ?_, fun packet hpacket ↦ ?_, fun input ↦ report_idle config _ input⟩
  · have hbalance := hconserved.ledger.balance packet.arrival
    rwa [if_pos (hconserved.ledger.accepted packet hpacket)] at hbalance
  · exact (hconserved.ledger.content packet hpacket).2

/-- In the run in which a packet is not acknowledged at its first attempt, that packet is then in
the long queue, and nowhere else, and the other one came to its end. -/
theorem packets_conserved_noAck :
    copies 2 (run (step sampleConfig) Queues.powerUp noAckInputs) +
      (collect (step sampleConfig) (events sampleConfig) Queues.powerUp noAckInputs).count
        (endOf ⟨basicSetPacket 0x60 6, 2⟩) = 1 := by
  have hmem : Event.accepted ⟨basicSetPacket 0x60 6, 2⟩ ∈
      collect (step sampleConfig) (events sampleConfig) Queues.powerUp noAckInputs := by
    decide +kernel
  have hlength : ∀ vtc node, uipIpHLen < (basicSetPacket vtc node).length := by
    intro vtc node
    simp [basicSetPacket, uipIpHLen]
  have harrive : ∀ s node mode, Orderly s (.arrive (basicSetPacket 0x60 node) node.toUInt16 false,
      allNodes mode) := by
    intro s node mode
    refine ⟨rfl, ?_, by simp, by simp, by simp⟩
    rintro _ _ _ ⟨rfl, rfl, rfl⟩ _
    exact hlength 0x60 node
  have hother : ∀ s mode outcome, Orderly s (.process outcome, allNodes mode) :=
    fun s mode outcome ↦ ⟨rfl, by simp, by simp, by simp, by simp⟩
  have hcomplete : ∀ s mode status, Orderly s (.complete status, allNodes mode) :=
    fun s mode status ↦ ⟨rfl, by simp, by simp, by simp, by simp⟩
  have horderly : AllSteps (step sampleConfig) Orderly Queues.powerUp noAckInputs := by
    simp only [noAckInputs, allSteps_cons, allSteps_nil, and_true]
    exact ⟨harrive _ 5 2, harrive _ 6 2, hother _ _ _, hcomplete _ _ _, hother _ _ _,
      hcomplete _ _ _, hother _ _ _⟩
  have hconserved := (packets_conserved sampleConfig noAckInputs horderly).1
    ⟨basicSetPacket 0x60 6, 2⟩ hmem
  dsimp only at hconserved
  exact hconserved

/-- The life of a packet ends before it was sent: no status was reported for it, and it is
nowhere. -/
theorem expired_packet_lost :
    ¬ ∀ (config : Config) (inputs : List (Input × Answers)),
      (∀ input ∈ inputs, input.2.poolFree = true) →
      ∀ packet, .accepted packet ∈ collect (step config) (events config) Queues.powerUp inputs →
        (∀ reported ∈ collect (step config) (fun s input ↦ (report config s input).toList)
            Queues.powerUp inputs, reported.packet.arrival = packet.arrival →
          reported.status ≠ transmitCompleteOk ∧ reported.status ≠ transmitCompleteFail ∧
            reported.status ≠ transmitCompleteError ∧
            (reported.queue = .sendingLong → reported.status = transmitCompleteRequeue ∨
              reported.status = transmitCompleteRequeueQueued)) →
        copies packet.arrival (run (step config) Queues.powerUp inputs) = 1 := by
  intro hclaim
  have hcopies := hclaim sampleConfig
    [(.arrive (basicSetPacket 0x60 5) 5 false, allNodes 2), (.expireLong 0, allNodes 2)]
    (by simp [allNodes]) ⟨basicSetPacket 0x60 5, 1⟩ (by decide +kernel)
    (fun _ hmem ↦ absurd hmem (by simp [collect, report]))
  exact absurd hcopies (by decide +kernel)

end ZipGateway.NodeQueue
