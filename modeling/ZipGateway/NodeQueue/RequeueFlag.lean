import ZipGateway.NodeQueue.Model

/-!
# The re-queued flag

`ClassicZIPNode_input` is told for every packet of the queues whether it was queued before. The
queues keep that in the packet itself, in the lowest bit of its first byte. `setPacketRequeued` is
called where a packet is moved to the long queue, and only there, but the first byte of a packet is
the version and the upper half of the traffic class as they came from the network. So the flag means
what it should for the packets that arrive without it.
-/

set_option autoImplicit false

namespace ZipGateway.NodeQueue

open Lib List

/-- `queue_send_done` has moved the packet to the long queue, after one of the two statuses. -/
def Moved (log : List Act) (arrival : ℕ) : Prop :=
  ∃ status, (status = transmitCompleteNoAck ∨ status = transmitCompleteRequeueQueued) ∧
    .moved arrival status ∈ log

theorem Moved.cons {log : List Act} {arrival : ℕ} (hmoved : Moved log arrival) (act : Act) :
    Moved (act :: log) arrival := by
  obtain ⟨status, hstatus, hmem⟩ := hmoved
  exact ⟨status, hstatus, mem_cons_of_mem act hmem⟩

/-- Every packet that was handed over as one that was queued before had been moved by then. -/
def HandedRight (log : List Act) : Prop :=
  ∀ arrival earlier, (.handed arrival true :: earlier) <:+ log → Moved earlier arrival

theorem handedRight_cons {log : List Act} {act : Act} (hlog : HandedRight log)
    (hact : ∀ arrival, act = .handed arrival true → Moved log arrival) :
    HandedRight (act :: log) := by
  intro arrival earlier hsuffix
  rcases suffix_cons_iff.mp hsuffix with heq | hsuffix
  · obtain ⟨rfl, rfl⟩ := List.cons.inj heq
    exact hact arrival rfl
  · exact hlog arrival earlier hsuffix

/-- The flag is as it should be. -/
structure FlagInv (s : Queues) : Prop where
  first : ∀ packet ∈ s.firstAttemptQueue, isPacketRequeued packet.bytes = false
  long : ∀ packet ∈ s.longQueue, isPacketRequeued packet.bytes = true → Moved s.log packet.arrival
  handed : HandedRight s.log

/-! ### Rules for the invariant -/

section Rules

variable {s after : Queues}

/-- Packets leave the queues. -/
theorem FlagInv.shrink (hinv : FlagInv s) (hfirst : after.firstAttemptQueue ⊆ s.firstAttemptQueue)
    (hlong : after.longQueue ⊆ s.longQueue) (hlog : after.log = s.log) : FlagInv after := by
  refine ⟨fun packet hmem ↦ hinv.first packet (hfirst hmem), fun packet hmem ↦ ?_, ?_⟩
  · rw [hlog]
    exact hinv.long packet (hlong hmem)
  · rw [hlog]
    exact hinv.handed

/-- The variables other than the queues change. -/
theorem FlagInv.congr (hinv : FlagInv s) (hfirst : after.firstAttemptQueue = s.firstAttemptQueue)
    (hlong : after.longQueue = s.longQueue) (hlog : after.log = s.log) : FlagInv after :=
  hinv.shrink (hfirst ▸ List.Subset.refl _) (hlong ▸ List.Subset.refl _) hlog

/-- An act is logged. -/
theorem FlagInv.act (hinv : FlagInv s) (act : Act)
    (hact : ∀ arrival, act = .handed arrival true → Moved s.log arrival) :
    FlagInv { s with log := act :: s.log } :=
  ⟨hinv.first, fun packet hmem hflag ↦ (hinv.long packet hmem hflag).cons act,
    handedRight_cons hinv.handed hact⟩

theorem mem_packetqueueAlloc {answers : Answers} {queue : List Packet} {packet other : Packet}
    (hmem : other ∈ packetqueueAlloc answers queue packet) : other ∈ queue ∨ other = packet := by
  unfold packetqueueAlloc at hmem
  split_ifs at hmem
  · simpa using hmem
  · exact Or.inl hmem

theorem flagInv_popSending (hinv : FlagInv s) : FlagInv (popSending s) := by
  unfold popSending
  split
  · exact hinv
  · exact hinv.shrink (tail_subset _) (List.Subset.refl _) rfl
  · exact hinv.shrink (List.Subset.refl _) (tail_subset _) rfl

/-- A packet that is moved to the long queue may have the flag there. -/
theorem flagInv_requeue (config : Config) (answers : Answers) (nodeMode : UInt16) (mark : Bool)
    {status : UInt8}
    (hstatus : status = transmitCompleteNoAck ∨ status = transmitCompleteRequeueQueued)
    (sent : Packet) (hinv : FlagInv s) :
    FlagInv (requeue config answers nodeMode mark status sent s) := by
  unfold requeue
  by_cases hmailbox : movesToMailbox config nodeMode sent.bytes = true
  · rw [if_pos hmailbox]
    exact hinv.act _ fun arrival heq ↦ absurd heq (by simp)
  · rw [if_neg hmailbox]
    have hlogged := hinv.act (.moved sent.arrival status) fun arrival heq ↦ absurd heq (by simp)
    refine ⟨hinv.first, fun packet hmem hflag ↦ ?_, hlogged.handed⟩
    rcases mem_packetqueueAlloc hmem with hmem | rfl
    · exact hlogged.long packet hmem hflag
    · exact ⟨status, hstatus, mem_cons_self⟩

end Rules

/-! ### The functions of the module -/

variable {s : Queues} (config : Config) (answers : Answers)

theorem flagInv_queueSendDone (status : UInt8) (sent : Option Packet) (hinv : FlagInv s) :
    FlagInv (queueSendDone config answers status sent s) := by
  have hidle : FlagInv { s with queueState := .idle } := hinv.congr rfl rfl rfl
  unfold queueSendDone
  split
  · exact hinv
  · exact hidle
  · dsimp only
    split_ifs with hrequeue hqueued
    · exact hidle
    · split
      · exact flagInv_popSending hinv
      · exact flagInv_popSending (flagInv_requeue _ _ _ _ (Or.inr hqueued) _ hinv)
    · split
      · split_ifs with hnoAck
        · exact flagInv_popSending (flagInv_requeue _ _ _ _ (Or.inl hnoAck.1) _ hinv)
        · exact flagInv_popSending hinv
      · exact flagInv_popSending hinv

theorem flagInv_callSendCompleted (status : UInt8) (hinv : FlagInv s) :
    FlagInv (callSendCompleted config answers status s) := by
  have hafter : FlagInv { s with backupLen := 0, cbCompletedFunc := none } := hinv.congr rfl rfl rfl
  unfold callSendCompleted
  dsimp only
  split
  · exact flagInv_queueSendDone config answers status _ hafter
  · exact hafter

theorem flagInv_classicZIPNodeInput (packet : Packet) (outcome : Outcome) (hinv : FlagInv s) :
    FlagInv (classicZIPNodeInput config answers packet outcome s) := by
  unfold classicZIPNodeInput
  split_ifs
  · exact flagInv_queueSendDone config answers _ _ hinv
  · exact flagInv_queueSendDone config answers _ _ hinv
  · have htaken : FlagInv { s with
        cbCompletedFunc := some .queueSendDone
        backupBuf := packet
        backupLen := packet.bytes.length } := hinv.congr rfl rfl rfl
    cases outcome with
    | completes status => exact flagInv_callSendCompleted config answers status htaken
    | refuses => exact flagInv_queueSendDone config answers _ _ (hinv.congr rfl rfl rfl)
    | pending => exact htaken

/-- A packet that has the flag is in the long queue. -/
theorem moved_of_sending (hinv : FlagInv s) {packet : Packet} (hmem : packet ∈ sendingQueue s)
    (hflag : isPacketRequeued packet.bytes = true) : Moved s.log packet.arrival := by
  unfold sendingQueue at hmem
  split at hmem
  · exact absurd hmem not_mem_nil
  · rw [hinv.first packet hmem] at hflag
    exact absurd hflag (by decide)
  · exact hinv.long packet hmem hflag

theorem flagInv_processNodeQueues (outcome : Outcome) (hinv : FlagInv s) :
    FlagInv (processNodeQueues config answers outcome s) := by
  unfold processNodeQueues
  split_ifs with hbusy
  · exact hinv
  · have hsending : FlagInv { s with queueState := nextQueueState s } := hinv.congr rfl rfl rfl
    dsimp only
    split
    · exact hsending
    · rename_i packet rest hqueue
      split_ifs with hempty
      · exact flagInv_popSending hsending
      · refine flagInv_classicZIPNodeInput config answers packet outcome
          (hsending.act _ fun arrival heq ↦ ?_)
        obtain ⟨rfl, hflag⟩ := Act.handed.inj heq
        exact moved_of_sending hsending (by rw [hqueue]; exact mem_cons_self) hflag

/-- A packet that comes to the queues arrives with the lowest bit of its first byte clear. -/
def ArrivesClear (s : Queues) : Input × Answers → Prop
  | (.arrive bytes _ decrypted, _) => notForQueues bytes decrypted s = false →
      isPacketRequeued bytes = false
  | _ => True

theorem flagInv_nodeInputQueued (bytes : List UInt8) (node : UInt16) (decrypted : Bool)
    (hclear : notForQueues bytes decrypted s = false → isPacketRequeued bytes = false)
    (hinv : FlagInv s) : FlagInv (nodeInputQueued config answers bytes node decrypted s) := by
  unfold nodeInputQueued
  split_ifs with hother
  · exact hinv
  · have hflag := hclear (by simpa using hother)
    dsimp only
    split_ifs with hlong
    · refine ⟨hinv.first, fun packet hmem hrequeued ↦ ?_, hinv.handed⟩
      rcases mem_packetqueueAlloc hmem with hmem | rfl
      · exact hinv.long packet hmem hrequeued
      · rw [hflag] at hrequeued
        exact absurd hrequeued (by decide)
    · refine ⟨fun packet hmem ↦ ?_, hinv.long, hinv.handed⟩
      rcases mem_packetqueueAlloc hmem with hmem | rfl
      · exact hinv.first packet hmem
      · exact hflag

theorem flagInv_step (s : Queues) (input : Input × Answers) (hclear : ArrivesClear s input)
    (hinv : FlagInv s) : FlagInv (step config s input) := by
  obtain ⟨input, answers⟩ := input
  cases input with
  | arrive bytes node decrypted =>
    exact flagInv_nodeInputQueued config answers bytes node decrypted hclear hinv
  | process outcome => exact flagInv_processNodeQueues config answers outcome hinv
  | complete status => exact flagInv_callSendCompleted config answers status hinv
  | mailboxInput bytes =>
    simp only [step]
    split_ifs
    · exact hinv
    · exact hinv.congr rfl rfl rfl
  | expireFirst k => exact hinv.shrink (fun _ ↦ mem_of_mem_eraseIdx) (List.Subset.refl _) rfl
  | expireLong k => exact hinv.shrink (List.Subset.refl _) (fun _ ↦ mem_of_mem_eraseIdx) rfl
  | classicInit => exact hinv.congr rfl rfl rfl
  | init => exact hinv.shrink (nil_subset _) (nil_subset _) rfl

/-- In every run in which the packets that come to the queues arrive with the lowest bit of their
first byte clear, no packet of the first-attempt queue has the flag, and a packet is handed over as
one that was queued before only when `queue_send_done` has moved it, after
`TRANSMIT_COMPLETE_NO_ACK` or `TRANSMIT_COMPLETE_REQUEUE_QUEUED`. -/
theorem requeued_flag_sound (inputs : List (Input × Answers))
    (hclear : AllSteps (step config) ArrivesClear Queues.powerUp inputs) :
    (∀ packet ∈ (run (step config) Queues.powerUp inputs).firstAttemptQueue,
        isPacketRequeued packet.bytes = false) ∧
      HandedRight (run (step config) Queues.powerUp inputs).log := by
  have hstart : FlagInv Queues.powerUp :=
    ⟨fun packet hmem ↦ absurd hmem not_mem_nil, fun packet hmem ↦ absurd hmem not_mem_nil,
      fun arrival earlier hsuffix ↦ absurd (suffix_nil.mp hsuffix) (by simp)⟩
  have hinv := run_invariant_of_allSteps (flagInv_step config) hstart hclear
  exact ⟨hinv.first, hinv.handed⟩

/-- A configuration to evaluate the model in: the node is the last byte of the destination
address. -/
def sampleConfig : Config where
  nodeOfIP := fun bytes ↦ (byteAt bytes 39).toUInt16
  nodeIdIsInvalid := fun node ↦ 232 < node
  mailboxEnabled := true

/-- A Z/IP packet with a Basic Set for a node, with the given first byte. -/
def basicSetPacket (vtc node : UInt8) : List UInt8 :=
  [vtc, 0, 0, 0, 0, 18, 17, 255] ++ List.replicate 31 0 ++ [node] ++
    [0x10, 0x1B, 0x10, 0x1B, 0, 18, 0, 0] ++ [0x23, 0x02, 0x80, 0x50, 1, 0, 0, 0x20, 0x01, 0xFF]

/-- Every node is in the given mode, and the pool has free packets. -/
def allNodes (mode : UInt16) : Answers := ⟨fun _ ↦ mode, true⟩

/-- Packets for nodes 5 and 6 arrive, the second one is not acknowledged at the first attempt, and
both are sent from the long queue. -/
def noAckInputs : List (Input × Answers) :=
  [(.arrive (basicSetPacket 0x60 5) 5 false, allNodes 2),
    (.arrive (basicSetPacket 0x60 6) 6 false, allNodes 2),
    (.process .pending, allNodes 2), (.complete transmitCompleteNoAck, allNodes 2),
    (.process .pending, allNodes 2), (.complete transmitCompleteOk, allNodes 2),
    (.process .pending, allNodes 2)]

/-- The packet that was not acknowledged is the one that is handed over with the flag. -/
theorem requeued_flag_sound_noAck :
    (run (step sampleConfig) Queues.powerUp noAckInputs).log =
        [.handed 2 true, .handed 1 false, .moved 2 transmitCompleteNoAck, .handed 2 false] ∧
      HandedRight (run (step sampleConfig) Queues.powerUp noAckInputs).log := by
  refine ⟨by decide +kernel, (requeued_flag_sound sampleConfig noAckInputs ?_).2⟩
  simp only [noAckInputs, allSteps_cons, allSteps_nil, and_true]
  exact ⟨fun _ ↦ by decide, fun _ ↦ by decide, trivial, trivial, trivial, trivial, trivial⟩

/-- A packet that is marked for expedited forwarding arrives with the flag, for a node that has a
mailbox, and is put into the first-attempt queue. -/
theorem first_attempt_flagged :
    ¬ ∀ (config : Config) (inputs : List (Input × Answers)),
      (∀ packet ∈ (run (step config) Queues.powerUp inputs).firstAttemptQueue,
          isPacketRequeued packet.bytes = false) ∧
        HandedRight (run (step config) Queues.powerUp inputs).log := by
  intro hclaim
  have hfirst := (hclaim sampleConfig
    [(.arrive (basicSetPacket 0x6B 5) 5 false, allNodes modeMailbox)]).1
    ⟨basicSetPacket 0x6B 5, 1⟩ (by decide +kernel)
  exact absurd hfirst (by decide)

end ZipGateway.NodeQueue
