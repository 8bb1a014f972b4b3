import ZipGateway.NodeQueue.Model

/-!
# Duplicate frames

`node_input_queued` drops a frame whose check value is in a table with those of the last frames that
it did not drop. `add_fingerprint_uip_buf` puts the whole check value there, and
`check_fingerprint_uip_buf` looks for its lower sixteen bits; an entry that has not been written yet
is 0. `filter_exact_iff` says in which runs the filter nevertheless drops the duplicates and nothing
else.

The check value is that of any function here, and `nodeInputQueued_crc32` is the case of `crc32`.
-/

set_option autoImplicit false

namespace ZipGateway.NodeQueue

open Function Lib

def blacklistLength : ℕ := 2

/-! ### The filter for any check value -/

section Filter

variable (crc : List UInt8 → UInt32)

/-- `check_fingerprint_uip_buf`. -/
def isBlacklisted (bytes : List UInt8) (s : Queues) : Bool :=
  let crc := (crc bytes).toUInt16.toUInt32
  decide (∃ i, crc = s.blackListCrc32 i)

/-- `add_fingerprint_uip_buf`. -/
def blacklist (bytes : List UInt8) (s : Queues) : Queues :=
  { s with
    blackListCrc32 := update s.blackListCrc32 s.blackListNext (crc bytes)
    blackListNext := s.blackListNext + 1 }

/-- The frame is for DTLS, or it is a keep-alive. -/
def answeredAtOnce (bytes : List UInt8) (decrypted : Bool) : Bool :=
  (destPort bytes == dtlsPort && !decrypted) ||
    ((destPort bytes == dtlsPort || destPort bytes == zwavePort) &&
      byteAt bytes uipIpUdpHLen == commandClassZip &&
      byteAt bytes (uipIpUdpHLen + 1) == commandZipKeepAlive)

/-- A frame that is given to `node_input_queued`, and what the rest of the gateway answers. -/
structure Arrival where
  bytes : List UInt8
  node : UInt16
  decrypted : Bool
  answers : Answers

/-- `node_input_queued`. -/
def inputQueued (config : Config) (a : Arrival) (s : Queues) : Queues :=
  if answeredAtOnce a.bytes a.decrypted || isBlacklisted crc a.bytes s then s
  else
    let s := blacklist crc a.bytes s
    let packet : Packet := ⟨a.bytes, s.arrivals + 1⟩
    let s := { s with arrivals := s.arrivals + 1 }
    if useLongQueue config a.answers a.node s then
      { s with longQueue := packetqueueAlloc a.answers s.longQueue packet }
    else { s with firstAttemptQueue := packetqueueAlloc a.answers s.firstAttemptQueue packet }

/-- The queues with the frames that came to the filter and were not dropped, newest first. -/
def receive (config : Config) (s : Queues × List (List UInt8)) (a : Arrival) :
    Queues × List (List UInt8) :=
  (inputQueued crc config a s.1,
    if answeredAtOnce a.bytes a.decrypted || isBlacklisted crc a.bytes s.1 then s.2
      else a.bytes :: s.2)

/-- The check value is that of one of the last frames that were not dropped. -/
def IsDuplicate (accepted : List (List UInt8)) (bytes : List UInt8) : Prop :=
  ∃ old ∈ accepted.take blacklistLength, crc old = crc bytes

/-- A frame that comes to the filter is dropped exactly when it is a duplicate. -/
def Filtered (s : Queues × List (List UInt8)) (a : Arrival) : Prop :=
  answeredAtOnce a.bytes a.decrypted = false →
    (isBlacklisted crc a.bytes s.1 = true ↔ IsDuplicate crc s.2 a.bytes)

/-- The table has an entry that has not been written. -/
def HasZeroEntry (accepted : List (List UInt8)) : Prop := accepted.length < blacklistLength

/-- The check value of a frame that comes to the filter has no upper half, and where it is 0 and the
table has an entry that has not been written the frame is a duplicate. Or it has an upper half, and
the frame is a duplicate exactly when the lower half is that of such an entry, or is the check value
of one of the last frames. -/
def Told (s : Queues × List (List UInt8)) (a : Arrival) : Prop :=
  answeredAtOnce a.bytes a.decrypted = false →
    let low := (crc a.bytes).toUInt16.toUInt32
    (crc a.bytes = low ∧ (low = 0 ∧ HasZeroEntry s.2 → IsDuplicate crc s.2 a.bytes)) ∨
      (crc a.bytes ≠ low ∧ (IsDuplicate crc s.2 a.bytes ↔
        low = 0 ∧ HasZeroEntry s.2 ∨ ∃ old ∈ s.2.take blacklistLength, crc old = low))

end Filter

/-! ### The table -/

section Table

variable {crc : List UInt8 → UInt32} {config : Config} {s : Queues × List (List UInt8)}
  {a : Arrival}

/-- The table has the check values of the last frames, the next entry to be written the older
one. -/
def Lists (crc : List UInt8 → UInt32) (s : Queues × List (List UInt8)) : Prop :=
  s.1.blackListCrc32 s.1.blackListNext = (s.2.map crc).getD 1 0 ∧
    s.1.blackListCrc32 (s.1.blackListNext + 1) = (s.2.map crc).getD 0 0

theorem lists_powerUp : Lists crc (Queues.powerUp, []) := ⟨rfl, rfl⟩

/-- The queues do not touch the table. -/
theorem lists_receive (hlists : Lists crc s) : Lists crc (receive crc config s a) := by
  unfold receive inputQueued
  by_cases hdrop : (answeredAtOnce a.bytes a.decrypted || isBlacklisted crc a.bytes s.1) = true
  · rw [if_pos hdrop, if_pos hdrop]
    exact hlists
  · rw [if_neg hdrop, if_neg hdrop]
    have hnext : s.1.blackListNext + 1 + 1 = s.1.blackListNext := by
      generalize s.1.blackListNext = next
      revert next
      decide
    have hne : s.1.blackListNext + 1 ≠ s.1.blackListNext := by
      generalize s.1.blackListNext = next
      revert next
      decide
    have htable : Lists crc (blacklist crc a.bytes s.1, a.bytes :: s.2) := by
      refine ⟨?_, ?_⟩
      · change update s.1.blackListCrc32 s.1.blackListNext _ (s.1.blackListNext + 1) = _
        rw [update_of_ne hne, hlists.2]
        rfl
      · change update s.1.blackListCrc32 s.1.blackListNext _ (s.1.blackListNext + 1 + 1) = _
        rw [hnext, update_self]
        rfl
    dsimp only
    split_ifs
    · exact htable
    · exact htable

/-- What is found in the table. -/
theorem isBlacklisted_iff (hlists : Lists crc s) (bytes : List UInt8) :
    isBlacklisted crc bytes s.1 = true ↔
      (crc bytes).toUInt16.toUInt32 = 0 ∧ HasZeroEntry s.2 ∨
        ∃ old ∈ s.2.take blacklistLength, crc old = (crc bytes).toUInt16.toUInt32 := by
  have hentries : (∃ i, (crc bytes).toUInt16.toUInt32 = s.1.blackListCrc32 i) ↔
      (crc bytes).toUInt16.toUInt32 = (s.2.map crc).getD 1 0 ∨
        (crc bytes).toUInt16.toUInt32 = (s.2.map crc).getD 0 0 := by
    rw [← hlists.1, ← hlists.2]
    generalize s.1.blackListNext = next
    generalize s.1.blackListCrc32 = table
    revert next
    simp only [Fin.exists_fin_two, Fin.forall_fin_two]
    exact ⟨Iff.rfl, or_comm⟩
  unfold isBlacklisted HasZeroEntry
  rw [decide_eq_true_iff, hentries]
  match s.2 with
  | [] => simp [blacklistLength]
  | [first] => simp [blacklistLength, eq_comm]
  | first :: second :: rest => simp [blacklistLength, eq_comm, or_comm]

/-- A frame is filtered as it should be exactly when its check value can be told by its lower
half. -/
theorem filtered_iff_told (hlists : Lists crc s) : Filtered crc s a ↔ Told crc s a := by
  refine forall_congr' fun _ ↦ ?_
  dsimp only
  rw [isBlacklisted_iff hlists]
  by_cases hlow : crc a.bytes = (crc a.bytes).toUInt16.toUInt32
  · have hsame : (∃ old ∈ s.2.take blacklistLength, crc old = (crc a.bytes).toUInt16.toUInt32) ↔
        IsDuplicate crc s.2 a.bytes := by
      rw [← hlow]
      rfl
    rw [hsame]
    constructor
    · exact fun hfilter ↦ .inl ⟨hlow, fun hzero ↦ hfilter.mp (.inl hzero)⟩
    · rintro (⟨-, hzero⟩ | ⟨hne, -⟩)
      · exact ⟨fun h ↦ h.elim hzero id, .inr⟩
      · exact absurd hlow hne
  · constructor
    · exact fun hfilter ↦ .inr ⟨hlow, hfilter.symm⟩
    · rintro (⟨heq, -⟩ | ⟨-, htold⟩)
      · exact absurd heq hlow
      · exact htold.symm

end Table

/-! ### What the filter drops -/

/-- In every run the filter drops the duplicates and nothing else exactly when the check value of
every frame can be told by its lower half. -/
theorem filter_exact_iff (crc : List UInt8 → UInt32) (config : Config) (arrivals : List Arrival) :
    AllSteps (receive crc config) (Filtered crc) (Queues.powerUp, []) arrivals ↔
      AllSteps (receive crc config) (Told crc) (Queues.powerUp, []) arrivals := by
  have hkeep : ∀ s a, Lists crc s → Lists crc (receive crc config s a) := fun _ _ ↦ lists_receive
  exact allSteps_congr_of_invariant hkeep (fun _ _ ↦ filtered_iff_told) lists_powerUp arrivals

/-- A Z/IP packet. -/
def zipFrame : Arrival where
  bytes := List.replicate 40 0 ++ [0x10, 0x1b, 0x10, 0x1b, 0, 12, 0, 0] ++ [0x23, 0x02, 0, 0]
  node := 5
  decrypted := false
  answers := ⟨fun _ ↦ 0, true⟩

/-- The check value of the gateway. -/
def fingerprint (bytes : List UInt8) : UInt32 := crc32 bytes 0xFFFF

/-- The gateway of the test, where the mailbox is disabled. -/
def noMailbox : Config := ⟨fun _ ↦ 5, fun _ ↦ false, false⟩

/-- A packet that is sent again at once is not dropped. -/
theorem retransmission_not_dropped :
    ¬ ∀ (crc : List UInt8 → UInt32) (config : Config) (arrivals : List Arrival),
      AllSteps (receive crc config) (Filtered crc) (Queues.powerUp, []) arrivals := by
  intro hall
  have hsecond := (hall fingerprint noMailbox [zipFrame, zipFrame]).2.1 (by decide)
  have haccepted :
      (receive fingerprint noMailbox (Queues.powerUp, []) zipFrame).2 = [zipFrame.bytes] := by
    decide +kernel
  have hmissed : isBlacklisted fingerprint zipFrame.bytes
      (receive fingerprint noMailbox (Queues.powerUp, []) zipFrame).1 = false := by
    decide +kernel
  rw [haccepted, hmissed] at hsecond
  exact absurd (hsecond.mpr ⟨zipFrame.bytes, List.mem_singleton_self _, rfl⟩) Bool.false_ne_true

end ZipGateway.NodeQueue
