import ZipGateway.TransportService.Buffer
import ZipGateway.TransportService.Frames

/-!
# Reassembly is safe

A datagram that is handed to the application should consist of bytes of checked fragments of one
session and of one source node, all received since the first fragment of that session. The receiver
has one buffer, whose session is open while `session_id` is below 16. `AssemblyInv` is what the
steps of the buffer keep as long as no frame of another node is taken into an open session: the
bytes that the mask marks were written by such fragments.

Frames of another node are only kept out when their receive flags are exactly
`RECEIVE_STATUS_TYPE_SINGLE` or `RECEIVE_STATUS_TYPE_BROAD`, and a session of node 0 does not count
as open. `senderAllowed` excludes the frames that get through; `mixed_from_two_nodes` is such a run.
-/

set_option autoImplicit false

namespace ZipGateway.TransportService

open Lib List

/-! ### Where the bytes come from -/

/-- The frame is a checked first fragment of a session. -/
def opensSession (session : ℕ) (cmd : ℕ → UInt8) (cmdLength : ℕ) : Prop :=
  cmd 0 = commandClassTransportService ∧ cmd 1 &&& 0xF8 = commandFirstFragment ∧
    crcValid cmd cmdLength ∧ sessionIdOf (cmd 3) = session

/-- The frame is a checked fragment of a session that has this byte of the datagram. -/
def carries (session position : ℕ) (byte : UInt8) (cmd : ℕ → UInt8) (cmdLength : ℕ) : Prop :=
  cmd 0 = commandClassTransportService ∧ crcValid cmd cmdLength ∧ sessionIdOf (cmd 3) = session ∧
    (cmd 1 &&& 0xF8 = commandFirstFragment ∧ position < cmdLength - firstFragNonpayloadLength ∧
        cmd (firstHdrLen + position) = byte ∨
      cmd 1 &&& 0xF8 = commandSubsequentFragment ∧ datagramOffsetOf cmd ≤ position ∧
        position < datagramOffsetOf cmd + (cmdLength - subseqFragNonpayloadLength) ∧
        cmd (subseqHdrLen + (position - datagramOffsetOf cmd)) = byte)

/-- The act is the receipt of a first fragment of a session from a node. -/
def Act.Opens (session : ℕ) (snode : UInt16) : Act → Prop
  | .received p cmd cmdLength => p.snode = snode ∧ opensSession session cmd cmdLength.toNat
  | _ => False

/-- The act is the receipt of a fragment, from a node, that has this byte. -/
def Act.Writes (session : ℕ) (snode : UInt16) (position : ℕ) (byte : UInt8) : Act → Prop
  | .received p cmd cmdLength => p.snode = snode ∧ carries session position byte cmd cmdLength.toNat
  | _ => False

/-- The act is the receipt of a frame. -/
def Act.IsReceipt : Act → Prop
  | .received .. => True
  | _ => False

/-- `recent` is the part of the log since a first fragment of the session, this one included. Frames
have been received since, and nothing has been handed to the application. -/
def SinceFirst (session : ℕ) (snode : UInt16) (recent log : List Act) : Prop :=
  ∃ newer first older, recent = newer ++ [first] ∧ log = recent ++ older ∧
    first.Opens session snode ∧ ∀ act ∈ newer, act.IsReceipt

/-- Every byte of the datagram was written by a fragment that a node sent in a session, all received
since a first fragment of that session, with nothing handed to the application in between. -/
def Assembled (session : ℕ) (snode : UInt16) (datagram : List UInt8) (log : List Act) : Prop :=
  ∃ recent, SinceFirst session snode recent log ∧
    ∀ i byte, datagram[i]? = some byte → ∃ act ∈ recent, act.Writes session snode i byte

/-- Every datagram in the log was assembled from what had been received before. -/
def DeliveriesAssembled (log : List Act) : Prop :=
  ∀ newer older session snode dnode datagram,
    log = newer ++ .delivered session snode dnode datagram :: older →
      Assembled session snode datagram older

variable {session : ℕ} {b : Buffer} {snode : UInt16}

theorem SinceFirst.cons {recent log : List Act} {act : Act}
    (h : SinceFirst session snode recent log) (hact : act.IsReceipt) :
    SinceFirst session snode (act :: recent) (act :: log) := by
  obtain ⟨newer, first, older, rfl, rfl, hfirst, hnewer⟩ := h
  exact ⟨act :: newer, first, older, rfl, rfl, hfirst, forall_mem_cons.mpr ⟨hact, hnewer⟩⟩

theorem SinceFirst.head {first : Act} (older : List Act)
    (hfirst : first.Opens session snode) : SinceFirst session snode [first] (first :: older) :=
  ⟨[], first, older, rfl, rfl, hfirst, forall_mem_nil _⟩

/-- The newest act belongs to every part of the log since a first fragment. -/
theorem SinceFirst.newest_mem {recent older : List Act} {act : Act}
    (h : SinceFirst session snode recent (act :: older)) : act ∈ recent := by
  obtain ⟨newer, first, rest, rfl, hlog, -⟩ := h
  cases newer with
  | nil =>
    obtain ⟨rfl, -⟩ := List.cons.inj hlog
    exact mem_singleton_self _
  | cons head newer =>
    obtain ⟨rfl, -⟩ := List.cons.inj hlog
    exact mem_cons_self

theorem DeliveriesAssembled.received {log : List Act} (h : DeliveriesAssembled log) (p : TsParam)
    (cmd : ℕ → UInt8) (cmdLength : UInt8) :
    DeliveriesAssembled (.received p cmd cmdLength :: log) := by
  intro newer older session snode dnode datagram heq
  cases newer with
  | nil => cases heq
  | cons act newer =>
    obtain ⟨-, htail⟩ := List.cons.inj heq
    exact h newer older session snode dnode datagram htail

theorem DeliveriesAssembled.delivered {log : List Act} (h : DeliveriesAssembled log) {session : ℕ}
    {snode dnode : UInt16} {datagram : List UInt8}
    (hassembled : Assembled session snode datagram log) :
    DeliveriesAssembled (.delivered session snode dnode datagram :: log) := by
  intro newer older session' snode' dnode' datagram' heq
  cases newer with
  | nil =>
    obtain ⟨hact, htail⟩ := List.cons.inj heq
    cases hact
    exact htail ▸ hassembled
  | cons act newer =>
    obtain ⟨-, htail⟩ := List.cons.inj heq
    exact h newer older session' snode' dnode' datagram' htail

/-! ### The invariant of the buffer -/

/-- An open session: it is the session of the node that is reported, its first byte has been
received, and all bytes that are marked were written by fragments of the session since a first
one. -/
structure Opened (b : Buffer) : Prop where
  current : b.currentSnode = b.snode
  snode_ne : b.snode ≠ 0
  firstByte : b.bytesRecvdBitmask 0 = true
  size_le : b.datagramSize ≤ datagramSizeMax
  written : ∃ recent, SinceFirst b.sessionId b.snode recent b.receptions ∧
    ∀ i, b.bytesRecvdBitmask i = true →
      ∃ act ∈ recent, act.Writes b.sessionId b.snode i (b.datagramData i)

/-- The invariant of the buffer. -/
structure AssemblyInv (b : Buffer) : Prop where
  opened : b.active = true → b.sessionId < 16 → Opened b
  deliveries : DeliveriesAssembled b.receptions

/-- No node but the one of the session is taken for its source. -/
def sameSource (currentSnode : UInt16) (p : TsParam) : Prop :=
  p.snode ≠ 0 ∧ (currentSnode ≠ 0 → p.snode = currentSnode)

theorem Opened.received (h : Opened b) (p : TsParam) (cmd : ℕ → UInt8) (cmdLength : UInt8) :
    Opened { b with receptions := .received p cmd cmdLength :: b.receptions } := by
  obtain ⟨hcurrent, hne, hfirst, hsize, recent, hsince, hwritten⟩ := h
  refine ⟨hcurrent, hne, hfirst, hsize, _, hsince.cons trivial, ?_⟩
  intro i hi
  obtain ⟨act, hact, hwrites⟩ := hwritten i hi
  exact ⟨act, mem_cons_of_mem _ hact, hwrites⟩

/-- The source of an open session does not change. -/
theorem Opened.source (h : Opened b) {p : TsParam}
    (hsource : sameSource b.currentSnode p) : Opened { b with snode := p.snode } := by
  have hopen : b.currentSnode ≠ 0 := by
    rw [h.current]
    exact h.snode_ne
  have hsame : p.snode = b.snode := (hsource.2 hopen).trans h.current
  rw [hsame]
  exact h

/-- A checked first fragment starts the session anew. -/
theorem Opened.first {p : TsParam} {cmd : ℕ → UInt8} {cmdLength : UInt8}
    (hnewest : b.Newest p cmd cmdLength) (hsnode : b.snode = p.snode) (hne : b.snode ≠ 0)
    (hchecked : CheckedFragment commandFirstFragment cmd cmdLength)
    (hlen : firstFragNonpayloadLength < cmdLength.toNat) :
    Opened (b.first cmd (cmdLength.toNat - firstFragNonpayloadLength)) := by
  obtain ⟨older, hlog⟩ := hnewest
  obtain ⟨hclass, hcommand, hcrc, hsize⟩ := hchecked
  refine ⟨rfl, hne, ?_, hsize, ?_⟩
  · exact decide_eq_true (by omega)
  · have hopens : (Act.received p cmd cmdLength).Opens (sessionIdOf (cmd 3)) b.snode :=
      ⟨hsnode.symm, hclass, hcommand, hcrc, rfl⟩
    refine ⟨[.received p cmd cmdLength], ?_, ?_⟩
    · change SinceFirst (sessionIdOf (cmd 3)) b.snode _ b.receptions
      rw [hlog]
      exact .head older hopens
    · intro i hi
      have hlt : i < cmdLength.toNat - firstFragNonpayloadLength := of_decide_eq_true hi
      refine ⟨_, mem_singleton_self _, hsnode.symm, hclass, hcrc, rfl, .inl ⟨hcommand, hlt, ?_⟩⟩
      exact (if_pos hlt).symm

/-- A checked subsequent fragment of the open session adds its bytes. -/
theorem Opened.subseq (h : Opened b) {p : TsParam} {cmd : ℕ → UInt8} {cmdLength : UInt8}
    (hnewest : b.Newest p cmd cmdLength) (hsnode : b.snode = p.snode)
    (hchecked : CheckedFragment commandSubsequentFragment cmd cmdLength)
    (hsession : sessionIdOf (cmd 3) = b.sessionId) :
    Opened (b.subseq cmd (cmdLength.toNat - subseqFragNonpayloadLength)) := by
  obtain ⟨older, hlog⟩ := hnewest
  obtain ⟨hclass, hcommand, hcrc, hsize⟩ := hchecked
  obtain ⟨recent, hsince, hwritten⟩ := h.written
  refine ⟨h.current, h.snode_ne, ?_, hsize, recent, hsince, ?_⟩
  · change (_ || b.bytesRecvdBitmask 0) = true
    rw [h.firstByte, Bool.or_true]
  · intro i hi
    unfold Buffer.subseq at hi ⊢
    dsimp only at hi ⊢
    by_cases hin : datagramOffsetOf cmd ≤ i ∧
        i < datagramOffsetOf cmd + (cmdLength.toNat - subseqFragNonpayloadLength)
    · -- the byte is one of this fragment, which is the newest act
      rw [if_pos hin]
      refine ⟨.received p cmd cmdLength, (hlog ▸ hsince).newest_mem, hsnode.symm, hclass, hcrc,
        hsession, .inr ⟨hcommand, hin.1, hin.2, rfl⟩⟩
    · rw [if_neg hin]
      rw [decide_eq_false hin, Bool.false_or] at hi
      exact hwritten i hi

theorem readMem_getElem? (memory : ℕ → UInt8) (len i : ℕ) (byte : UInt8)
    (h : (readMem memory 0 len)[i]? = some byte) : i < len ∧ memory i = byte := by
  unfold readMem at h
  rw [List.getElem?_map, Option.map_eq_some_iff] at h
  obtain ⟨position, hposition, hbyte⟩ := h
  obtain ⟨hlt, rfl⟩ := List.getElem?_eq_some_iff.mp hposition
  rw [length_range] at hlt
  rw [getElem_range, Nat.zero_add] at hbyte
  exact ⟨hlt, hbyte⟩

/-- A complete open buffer may be handed out. -/
theorem Opened.assembled (h : Opened b)
    (hcomplete : ∀ i, i ≠ 0 → i < b.datagramSize → i < 208 → b.bytesRecvdBitmask i = true) :
    Assembled b.sessionId b.snode (readMem b.datagramData 0 b.datagramSize) b.receptions := by
  have hmax : datagramSizeMax = 200 := rfl
  have hsize := h.size_le
  obtain ⟨recent, hsince, hwritten⟩ := h.written
  refine ⟨recent, hsince, ?_⟩
  intro i byte hbyte
  obtain ⟨hlt, rfl⟩ := readMem_getElem? _ _ _ _ hbyte
  apply hwritten i
  by_cases hzero : i = 0
  · rw [hzero]
    exact h.firstByte
  · exact hcomplete i hzero hlt (by omega)

/-- Without a session there is nothing to show. -/
theorem AssemblyInv.closed (hclosed : b.sessionId = noSession)
    (hdeliveries : DeliveriesAssembled b.receptions) : AssemblyInv b := by
  refine ⟨?_, hdeliveries⟩
  intro _ hopen
  rw [hclosed] at hopen
  exact absurd hopen (by decide)

theorem AssemblyInv.step {Admits : TsParam → (ℕ → UInt8) → UInt8 → Prop} {b b' : Buffer}
    (hadmits : ∀ p cmd cmdLength, Admits p cmd cmdLength → p.snode ≠ 0)
    (hstep : BufferStep Admits sameSource b b') (h : AssemblyInv b) : AssemblyInv b' := by
  cases hstep with
  | receive p cmd cmdLength hadmitted =>
    exact ⟨fun hactive hopen ↦ (h.opened hactive hopen).received p cmd cmdLength,
      h.deliveries.received p cmd cmdLength⟩
  | source p cmd cmdLength hnewest hsource =>
    exact ⟨fun hactive hopen ↦ (h.opened hactive hopen).source hsource, h.deliveries⟩
  | timer pending hactive =>
    refine ⟨?_, h.deliveries⟩
    intro _ hopen
    obtain ⟨hcurrent, hne, hfirst, hsize, hwritten⟩ := h.opened hactive hopen
    exact ⟨hcurrent, hne, hfirst, hsize, hwritten⟩
  | clear active hactive => exact .closed rfl h.deliveries
  | first p cmd cmdLength hadmitted hnewest hsnode hactive hchecked hlen =>
    have hne : b.snode ≠ 0 := by
      rw [hsnode]
      exact hadmits p cmd cmdLength hadmitted
    exact ⟨fun _ _ ↦ .first hnewest hsnode hne hchecked hlen, h.deliveries⟩
  | subseq p cmd cmdLength hadmitted hnewest hsnode hactive hchecked hsession =>
    exact ⟨fun _ hopen ↦ (h.opened hactive hopen).subseq hnewest hsnode hchecked (hsession hopen),
      h.deliveries⟩
  | deliver dnode hactive hopen hcomplete =>
    exact .closed rfl (h.deliveries.delivered ((h.opened hactive hopen).assembled hcomplete))

/-! ### Runs -/

/-- A frame comes from a node with a node id. One that comes from another node than the open session
has exactly the receive flags of a singlecast or of a broadcast. -/
def senderAllowed (s : Ts) : Input → Prop
  | .receive p _ _ => p.snode ≠ 0 ∧ (s.rcb.currentSnode ≠ 0 → p.snode ≠ s.rcb.currentSnode →
      p.rxFlags = receiveStatusTypeSingle ∨ p.rxFlags = receiveStatusTypeBroad)
  | _ => True

instance : ∀ s input, Decidable (senderAllowed s input)
  | _, .receive .. => inferInstanceAs (Decidable (_ ∧ _))
  | _, .sendData .. | _, .rawCallback .. | _, .fcTimer | _, .rxTimer | _, .resetTimer | _,
    .waitRestartTimer
  | _, .timerBtwn2Frags => isTrue trivial

theorem AssemblyInv.powerUp (myNodeId : UInt8) : AssemblyInv (Ts.powerUp myNodeId).buffer := by
  refine ⟨fun hactive ↦ absurd hactive Bool.false_ne_true, ?_⟩
  intro newer older session snode dnode datagram heq
  exact absurd heq (by simp [Ts.buffer, RecvView.buffer, Ts.recvView, Ts.powerUp])

/-- Over every run whose frames are allowed, each datagram that is handed to the application was
assembled from checked fragments that its source node sent in the session, all received since a
first fragment of the session. -/
theorem deliveries_assembled (env : Env) (myNodeId : UInt8) (inputs : List Input)
    (hallowed : AllSteps (step env) senderAllowed (Ts.powerUp myNodeId) inputs) :
    DeliveriesAssembled (run (step env) (Ts.powerUp myNodeId) inputs).receptions := by
  have hinv : AssemblyInv (run (step env) (Ts.powerUp myNodeId) inputs).buffer := by
    refine run_buffer_invariant (fun b b' hstep ↦ .step (fun _ _ _ hne ↦ hne) hstep) env ?_
      (fun hpending ↦ absurd hpending Bool.false_ne_true) (.powerUp myNodeId) hallowed
    -- a frame that the handler takes comes from the node of the session
    intro s p cmd cmdLength ⟨hne, hforeign⟩
    refine ⟨hne, ?_⟩
    intro current hcurrent htaken
    refine ⟨hne, ?_⟩
    intro hopen
    by_contra hother
    obtain ⟨hnotSingle, hnotBroad⟩ := htaken hopen hother
    rcases hcurrent with rfl | rfl
    · rcases hforeign hopen hother with hflags | hflags
      · exact hnotSingle hflags
      · exact hnotBroad hflags
    · exact hopen rfl
  exact hinv.deliveries

/-- The first half of a datagram of four bytes, as a first fragment of session 3. -/
def firstHalf : List UInt8 := firstFragment 3 (fun i ↦ UInt8.ofNat (i + 1)) 4 2

def secondHalf : List UInt8 := subseqFragment 3 (fun i ↦ UInt8.ofNat (i + 1)) 4 2 2

/-- The two halves, from two nodes. -/
def halvesFrom (first second : UInt16) (secondFlags : UInt8) : List Input :=
  [.frame { zeroParam with snode := first, dnode := 1 } firstHalf,
    .frame { zeroParam with snode := second, dnode := 1, rxFlags := secondFlags } secondHalf]

/-- The act hands a datagram from a node to the application. -/
def Act.isDeliveryFrom (node : UInt16) : Act → Bool
  | .delivered _ snode _ _ => decide (snode = node)
  | _ => false

theorem deliveries_assembled_twoHalves :
    (run (step takesAll) (Ts.powerUp 1) (halvesFrom 5 5 0)).receptions.any (Act.isDeliveryFrom 5) ∧
      DeliveriesAssembled (run (step takesAll) (Ts.powerUp 1) (halvesFrom 5 5 0)).receptions :=
  ⟨by decide +kernel, deliveries_assembled takesAll 1 _
    ⟨by decide +kernel, by decide +kernel, trivial⟩⟩

/-- The act is the receipt of a first fragment from a node. -/
def Act.isFirstFragmentFrom (node : UInt16) : Act → Bool
  | .received p cmd _ => decide (p.snode = node ∧ cmd 1 &&& 0xF8 = commandFirstFragment)
  | _ => false

/-- Node 6 completes the datagram of node 5 when its frame has other receive flags, and the result
is reported as a datagram of node 6, which has sent no first fragment. -/
theorem mixed_from_two_nodes :
    ¬ ∀ (env : Env) (myNodeId : UInt8) (inputs : List Input),
      DeliveriesAssembled (run (step env) (Ts.powerUp myNodeId) inputs).receptions := by
  intro hclaim
  have hassembled := hclaim takesAll 1 (halvesFrom 5 6 2)
  have hdelivered : (run (step takesAll) (Ts.powerUp 1) (halvesFrom 5 6 2)).receptions.any
      (Act.isDeliveryFrom 6) = true := by
    decide +kernel
  have hnofirst : (run (step takesAll) (Ts.powerUp 1) (halvesFrom 5 6 2)).receptions.any
      (Act.isFirstFragmentFrom 6) = false := by
    decide +kernel
  generalize (run (step takesAll) (Ts.powerUp 1) (halvesFrom 5 6 2)).receptions = log at *
  obtain ⟨act, hact, hsix⟩ := any_eq_true.mp hdelivered
  obtain ⟨newer, older, rfl⟩ := append_of_mem hact
  cases act with
  | delivered session snode dnode datagram =>
    obtain rfl : snode = 6 := of_decide_eq_true hsix
    obtain ⟨-, ⟨recent, first, rest, rfl, rfl, hfirst, -⟩, -⟩ :=
      hassembled newer older session 6 dnode datagram rfl
    have hnot := any_eq_false.mp hnofirst first (by simp)
    cases first with
    | received p cmd cmdLength => exact hnot (decide_eq_true ⟨hfirst.1, hfirst.2.2.1⟩)
    | _ => exact hfirst
  | _ => exact absurd hsix Bool.false_ne_true

end ZipGateway.TransportService
