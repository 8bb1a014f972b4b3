import ZipGateway.Lib.Scratch

/-!
# The frames of the serial link

`ConTxFrame` in `src/src/serialapi/conhandle.c` sends a frame to the Z-Wave module, and `ConUpdate`
looks for frames in what the module sends. Both have a buffer of 255 bytes. A frame is sent with
five bytes around its data, and a frame is received with the length byte in front, so that the
largest ones do not fit. `framing_iff` says which ones do.

The bytes that arrive are a stream. `SerialCheck` says as often as the environment likes that there
are more, and `SerialGetBuffer` delivers what it is asked for.
-/

set_option autoImplicit false

namespace ZipGateway.SerialApi

open Lib List

/-- `SERBUF_MAX`, and the size of `tx_buffer`. -/
def serbufMax : ℕ := 0xFF

def sof : UInt8 := 0x01

def ack : UInt8 := 0x06

def nak : UInt8 := 0x15

def can : UInt8 := 0x18

def frameLengthMin : UInt8 := 3

/-! ### Sending -/

/-- The arguments of `ConTxFrame`. -/
structure TxCall where
  cmd : UInt8
  type : UInt8
  buf : ℕ → UInt8
  len : UInt8

def TxCall.payload (call : TxCall) : List UInt8 := (List.range call.len.toNat).map call.buf

/-- The loop over the checksum, which counts in a byte. A loop that has come to no end when the fuel
is out gives nothing back. -/
def checksumLoop (txBuffer : ℕ → UInt8) (stop : ℕ) : ℕ → UInt8 → UInt8 → Option UInt8
  | 0, _, _ => none
  | fuel + 1, i, sum =>
    if i.toNat < stop then checksumLoop txBuffer stop fuel (i + 1)
      (sum ^^^ txBuffer (i.toNat + 1)) else some sum

/-- `tx_buffer` in front of the checksum; `stack` is what stands in it before. -/
def TxCall.filled (call : TxCall) (stack : ℕ → UInt8) : Scratch :=
  ((⟨⟨serbufMax, stack⟩, fun _ ↦ false, true⟩ : Scratch).put 0
    [sof, call.len + 3, call.type, call.cmd]).put 4
    call.payload

/-- `ConTxFrame`: `tx_buffer`, and what is sent of it. -/
def conTxFrame (fuel : ℕ) (stack : ℕ → UInt8) (call : TxCall) : Option (Scratch × List UInt8) :=
  let txBuffer := call.filled stack
  (checksumLoop txBuffer.byte (call.len.toNat + 3) fuel 0 0xFF).map fun sum ↦
    let txBuffer := txBuffer.put (4 + call.len.toNat) [sum]
    (txBuffer, txBuffer.buffer.load 0 (call.len.toNat + 5))

/-! ### Receiving -/

/-- `T_CON_TYPE`, as far as `ConUpdate` returns it. -/
inductive ConType
  | idle
  | frameReceived
  | frameSent
  | frameErr
  | rxTimeout
  | txTimeout
  | txErr
  | txWait
deriving DecidableEq, Repr

/-- `con_state`; the states behind `stateLen` are never entered. -/
inductive ConState
  | sofHunt
  | len
deriving DecidableEq, Repr

/-- The variables of the module, and the stream of bytes with the place where it is read. -/
structure Con where
  conState : ConState
  ackNakNeeded : Bool
  rxActive : Bool
  serBuf : ℕ → UInt8
  /-- How many bytes were written behind the end of `serBuf`. -/
  overrun : ℕ
  serBufLen : UInt8
  stream : ℕ → UInt8
  pos : ℕ
  /-- What was put on the line, the newest first. -/
  answers : List UInt8

/-- The XOR of some bytes, from `0xFF` on. -/
def checksum (bytes : List UInt8) : UInt8 := bytes.foldl (· ^^^ ·) 0xFF

/-- Bytes of the stream. -/
def Con.next (s : Con) (start count : ℕ) :
    List UInt8 := (List.range count).map fun i ↦ s.stream (s.pos + start + i)

/-- `serBuf`. -/
def Con.buffer (s : Con) : Buffer := ⟨serbufMax, s.serBuf⟩

/-- The state `stateLen`, for a length byte that is large enough. -/
def receiveFrame (acknowledge : Bool) (c : UInt8) (s : Con) : Con × ConType :=
  let serBuf := (s.buffer.write 0 [c]).write 1 (s.next 1 c.toNat)
  let sum := checksum (serBuf.load 0 (c.toNat + 1))
  let after := { s with
    conState := .sofHunt
    rxActive := false
    serBuf := serBuf.byte
    overrun := s.overrun + (1 + c.toNat - serBuf.size)
    serBufLen := c
    pos := s.pos + 1 + c.toNat }
  if acknowledge then
    if sum = 0 then ({ after with answers := ack :: s.answers }, .frameReceived)
    else ({ after with answers := nak :: s.answers }, .frameErr)
  else ({ after with answers := can :: s.answers }, .idle)

/-- The start of a frame has been read. -/
def Con.beginFrame (s : Con) : Con :=
  { s with conState := .len, rxActive := true, serBufLen := 0, pos := s.pos + 1 }

/-- One byte of the stream, in `ConUpdate`. -/
def conByte (acknowledge : Bool) (s : Con) : Con × ConType :=
  let c := s.stream s.pos
  let seen := { s with pos := s.pos + 1 }
  match s.conState with
  | .sofHunt =>
    if c = sof then (s.beginFrame, .idle)
    else if s.ackNakNeeded then
      if c = ack then ({ seen with ackNakNeeded := false }, .frameSent)
      else if c = nak then ({ seen with ackNakNeeded := false }, .txErr)
      else if c = can then ({ seen with ackNakNeeded := false }, .txWait)
      else (seen, .idle)
    else (seen, .idle)
  | .len =>
    if c < frameLengthMin then ({ seen with conState := .sofHunt, rxActive := false }, .idle)
    else receiveFrame acknowledge c s

/-- The loop of `ConUpdate`, for the number of times that `SerialCheck` has something. -/
def conLoop (acknowledge : Bool) : ℕ → Con → Con × ConType
  | 0, s => (s, .idle)
  | rounds + 1, s =>
    let r := conByte acknowledge s
    if r.2 = .idle then conLoop acknowledge rounds r.1 else r

/-- A call of `ConUpdate`: its argument, how long there are bytes, and whether the two timers have
expired. -/
structure Update where
  acknowledge : Bool
  rounds : ℕ
  rxExpired : Bool
  ackExpired : Bool

/-- `ConUpdate`. -/
def conUpdate (update : Update) (s : Con) : Con × ConType :=
  let r := conLoop update.acknowledge update.rounds s
  if r.2 = .idle then
    let r :=
      if r.1.rxActive && update.rxExpired then
        ({ r.1 with conState := .sofHunt, rxActive := false }, .rxTimeout)
      else r
    if r.1.ackNakNeeded && update.ackExpired then ({ r.1 with ackNakNeeded := false }, .txTimeout)
      else r
  else r

/-! ### What the link is for -/

/-- The loop over the checksum comes to its end, and nothing is written behind `tx_buffer`. -/
def TxCall.Ends (call : TxCall) : Prop :=
  ∀ stack, ∃ fuel sent, conTxFrame fuel stack call = some sent ∧ sent.1.inside = true

/-- A frame that was received: the length, the type, the command and the payload are those that were
sent. -/
structure ReceivedAs (call : TxCall) (s : Con) : Prop where
  length : (s.serBuf 0).toNat = call.len.toNat + 3
  type : s.serBuf 1 = call.type
  cmd : s.serBuf 2 = call.cmd
  payload : StandsAt s.serBuf 3 call.payload

/-- What is sent is received by a peer that looks for a frame. -/
def TxCall.RoundTrip (call : TxCall) : Prop :=
  ∀ (stack : ℕ → UInt8) (peer : Con) (update : Update), peer.conState = .sofHunt →
    update.acknowledge = true →
    2 ≤ update.rounds → ∃ fuel sent, conTxFrame fuel stack call = some sent ∧
      (StandsAt peer.stream peer.pos sent.2 →
        (conUpdate update peer).2 = .frameReceived ∧ ReceivedAs call (conUpdate update peer).1)

/-- What a call of `ConUpdate` does right, whatever comes. -/
structure UpdateRight (update : Update) (s : Con) : Prop where
  received : (conUpdate update s).2 = .frameReceived →
    checksum ((conUpdate update s).1.buffer.load 0 ((conUpdate update s).1.serBufLen.toNat + 1)) = 0
  inside : (conUpdate update s).1.overrun = s.overrun
  resynchronised : (conUpdate update s).2 = .frameReceived ∨ (conUpdate update s).2 = .frameErr →
    (conUpdate update s).1.conState = .sofHunt
  /-- Whatever becomes of a frame whose length is read, also when a CAN drops it. -/
  dropped : s.conState = .len → (conByte update.acknowledge s).1.conState = .sofHunt

/-- The link does what it is for: with a frame that is sent, and with a call of `ConUpdate`. -/
structure FramingRight (call : TxCall) (update : Update) (s : Con) : Prop where
  ends : call.Ends
  roundTrip : call.len.toNat + 3 < 256 → call.RoundTrip
  update : UpdateRight update s

/-- No byte 255 stands where a length byte is read. -/
def NoLongFrame (acknowledge : Bool) : ℕ → Con → Prop
  | 0, _ => True
  | rounds + 1, s => ¬ (s.conState = .len ∧ s.stream s.pos = 0xFF) ∧
      ((conByte acknowledge s).2 = .idle → NoLongFrame acknowledge rounds (conByte acknowledge s).1)

/-! ### Sending a frame -/

theorem checksum_append (bytes : List UInt8) (byte : UInt8) :
    checksum (bytes ++ [byte]) = checksum bytes ^^^ byte := by
  simp [checksum]

theorem checksum_self (bytes : List UInt8) : checksum (bytes ++ [checksum bytes]) = 0 := by
  rw [checksum_append, UInt8.xor_self]

/-- The loop ends when its counter can get past the last byte. -/
theorem checksumLoop_eq (txBuffer : ℕ → UInt8) {stop : ℕ} (hstop : stop < 256) (k : ℕ) :
    ∀ (i sum : UInt8), i.toNat + k = stop → checksumLoop txBuffer stop (k + 1) i sum =
      some (((List.range k).map fun j ↦ txBuffer (i.toNat + 1 + j)).foldl (· ^^^ ·) sum) := by
  induction k with
  | zero =>
    intro i sum hi
    rw [checksumLoop, if_neg (by omega)]
    rfl
  | succ k ih =>
    intro i sum hi
    have hnext : (i + 1).toNat = i.toNat + 1 := by
      rw [UInt8.toNat_add, UInt8.toNat_one, Nat.mod_eq_of_lt (by omega)]
    have hshift : ∀ j, txBuffer (i.toNat + 1 + 1 + j) = txBuffer (i.toNat + 1 + (j + 1)) := by
      intro j
      congr 1
      omega
    rw [checksumLoop, if_pos (by omega), ih (i + 1) _ (by omega), hnext]
    simp only [hshift, range_succ_eq_map, map_cons, map_map, foldl_cons, Function.comp_def,
      Nat.add_zero]

/-- What a frame has between its start and its checksum. -/
def TxCall.body (call : TxCall) : List UInt8 := [call.len + 3, call.type, call.cmd] ++ call.payload

variable (acknowledge : Bool) (call : TxCall) (update : Update) (s : Con)

theorem length_payload_tx : call.payload.length = call.len.toNat := by simp [TxCall.payload]

theorem length_body : call.body.length = call.len.toNat + 3 := by
  simp [TxCall.body, length_payload_tx]

/-- A frame stays inside of `tx_buffer` when it is short enough. -/
theorem inside_filled_iff (stack : ℕ → UInt8) (call : TxCall) (sum : UInt8) :
    ((call.filled stack).put (4 + call.len.toNat) [sum]).inside = true ↔ call.len.toNat ≤ 250 := by
  simp only [TxCall.filled, Scratch.inside_put, Scratch.size_put]
  simp [Scratch.size, serbufMax, length_payload_tx]
  omega

/-- A frame that is short enough is sent whole. -/
theorem conTxFrame_eq (stack : ℕ → UInt8) (call : TxCall) (hlen : call.len.toNat ≤ 250) :
    ∃ sent, conTxFrame (call.len.toNat + 3 + 1) stack call = some sent ∧ sent.1.inside = true ∧
      sent.2 = sof :: (call.body ++ [checksum call.body]) := by
  have hstands : StandsAt (call.filled stack).buffer.byte 0 (sof :: call.body) :=
    standsAt_write.write_behind rfl
  obtain ⟨-, hbody⟩ : StandsAt (call.filled stack).buffer.byte 0 [sof] ∧
      StandsAt (call.filled stack).buffer.byte (0 + 1) call.body := standsAt_append.mp hstands
  have hbytes := hbody.map_range
  rw [length_body] at hbytes
  have hsum : checksumLoop (call.filled stack).byte (call.len.toNat + 3)
      (call.len.toNat + 3 + 1) 0 0xFF = some (checksum call.body) := by
    rw [checksumLoop_eq (call.filled stack).byte (by omega) (call.len.toNat + 3) 0 0xFF
      (by simp), ← hbytes]
    rfl
  have hwhole :
      StandsAt ((call.filled stack).put (4 + call.len.toNat) [checksum call.body]).buffer.byte 0
      (sof :: call.body ++ [checksum call.body]) :=
    hstands.write_behind (by simp only [length_cons, length_body]; omega)
  have hload := hwhole.load_eq
  have hlength : (sof :: call.body ++ [checksum call.body]).length = call.len.toNat + 5 := by
    simp [length_body]
  rw [hlength] at hload
  rw [conTxFrame]
  simp only [hsum, Option.map_some]
  exact ⟨_, rfl, (inside_filled_iff stack call _).mpr hlen, hload⟩

theorem ends_iff : call.Ends ↔ call.len.toNat ≤ 250 := by
  constructor
  · intro h
    obtain ⟨fuel, sent, hsent, hinside⟩ := h fun _ ↦ 0
    obtain ⟨sum, -, rfl⟩ := Option.map_eq_some_iff.mp hsent
    exact (inside_filled_iff _ call sum).mp hinside
  · intro hlen stack
    obtain ⟨sent, hsent, hinside, -⟩ := conTxFrame_eq stack call hlen
    exact ⟨_, sent, hsent, hinside⟩

/-! ### Receiving a frame -/

/-- After a frame the next one is looked for. -/
theorem conByte_hunting (hlen : s.conState = .len) :
    (conByte acknowledge s).1.conState = .sofHunt := by
  unfold conByte receiveFrame
  simp only [hlen]
  split_ifs <;> rfl

/-- What is behind a result: a frame with the right checksum when one was received, and no frame
under way. -/
structure Backed (r : Con × ConType) : Prop where
  checked : r.2 = .frameReceived → checksum (r.1.buffer.load 0 (r.1.serBufLen.toNat + 1)) = 0
  hunting : r.2 = .frameReceived ∨ r.2 = .frameErr → r.1.conState = .sofHunt

/-- A result that is about no frame. -/
theorem Backed.other {r : Con × ConType} (h : r.2 ≠ .frameReceived ∧ r.2 ≠ .frameErr) : Backed r :=
  ⟨fun hr ↦ absurd hr h.1, fun hr ↦ (hr.elim h.1 h.2).elim⟩

theorem receiveFrame_backed (c : UInt8) (s : Con) : Backed (receiveFrame acknowledge c s) := by
  unfold receiveFrame
  simp only
  split
  · split
    · next hsum => exact ⟨fun _ ↦ hsum, fun _ ↦ rfl⟩
    · exact ⟨fun h ↦ by simp at h, fun _ ↦ rfl⟩
  · exact .other (by simp)

theorem conByte_backed : Backed (conByte acknowledge s) := by
  unfold conByte
  simp only
  split
  · split_ifs <;> exact .other (by simp)
  · split
    · exact .other (by simp)
    · exact receiveFrame_backed ..

theorem conLoop_backed (rounds : ℕ) : ∀ s, Backed (conLoop acknowledge rounds s) := by
  induction rounds with
  | zero => exact fun s ↦ .other (by simp [conLoop])
  | succ rounds ih =>
    intro s
    simp only [conLoop]
    split
    · exact ih _
    · exact conByte_backed acknowledge s

theorem conUpdate_backed : Backed (conUpdate update s) := by
  rw [conUpdate]
  split
  · next hidle =>
    refine .other ?_
    simp only
    split_ifs <;> simp [hidle]
  · exact conLoop_backed _ _ s

/-- A frame runs past the end when its length byte is 255. -/
theorem conByte_overrun : s.overrun ≤ (conByte acknowledge s).1.overrun ∧
      ((conByte acknowledge s).1.overrun = s.overrun ↔
        ¬ (s.conState = .len ∧ s.stream s.pos = 0xFF)) := by
  have hbyte : s.stream s.pos = 0xFF ↔ (s.stream s.pos).toNat = 255 := UInt8.toNat_inj.symm
  have hlt := (s.stream s.pos).toNat_lt
  unfold conByte
  simp only
  cases hstate : s.conState with
  | sofHunt =>
    simp only
    split_ifs <;> simp [Con.beginFrame]
  | len =>
    simp only [true_and]
    split
    · next hshort =>
      have hmin : (s.stream s.pos).toNat < 3 := UInt8.lt_iff_toNat_lt.mp hshort
      rw [hbyte]
      simp
      omega
    · have hover : (receiveFrame acknowledge (s.stream s.pos) s).1.overrun =
          s.overrun + (1 + (s.stream s.pos).toNat - 255) := by
        unfold receiveFrame
        simp only
        split_ifs <;> rfl
      rw [hbyte, hover]
      omega

theorem conLoop_overrun (rounds : ℕ) : ∀ s, s.overrun ≤ (conLoop acknowledge rounds s).1.overrun ∧
      ((conLoop acknowledge rounds s).1.overrun = s.overrun ↔
        NoLongFrame acknowledge rounds s) := by
  induction rounds with
  | zero => simp [conLoop, NoLongFrame]
  | succ rounds ih =>
    intro s
    obtain ⟨hle, heq⟩ := conByte_overrun acknowledge s
    obtain ⟨hle', heq'⟩ := ih (conByte acknowledge s).1
    simp only [conLoop, NoLongFrame, ← heq, ← heq']
    split
    · next hidle =>
      simp only [hidle, forall_const]
      omega
    · next hbusy =>
      simp only [hbusy, false_implies, and_true]
      omega

theorem conUpdate_overrun :
    (conUpdate update s).1.overrun = (conLoop update.acknowledge update.rounds s).1.overrun := by
  rw [conUpdate]
  simp only
  split_ifs <;> rfl

/-- The bytes of a frame whose checksum is right are received. -/
theorem receiveFrame_right (c : UInt8) (s : Con) (hsum : checksum (c :: s.next 1 c.toNat) = 0) :
    (receiveFrame true c s).2 = .frameReceived ∧
      StandsAt (receiveFrame true c s).1.serBuf 0 (c :: s.next 1 c.toNat) := by
  have hstands : StandsAt ((s.buffer.write 0 [c]).write 1 (s.next 1 c.toNat)).byte 0
      ([c] ++ s.next 1 c.toNat) :=
    standsAt_write.write_behind rfl
  have hload := hstands.load_eq
  have hlength : ([c] ++ s.next 1 c.toNat).length = c.toNat + 1 := by simp [Con.next]
  rw [hlength] at hload
  have hright :
      checksum (((s.buffer.write 0 [c]).write 1 (s.next 1 c.toNat)).load 0 (c.toNat + 1)) = 0 := by
    rw [hload]
    exact hsum
  simp only [receiveFrame, if_true, hright]
  exact ⟨trivial, hstands⟩

/-- A peer that looks for a frame receives what is sent. -/
theorem roundTrip_of_short (hlen : call.len.toNat ≤ 250) : call.RoundTrip := by
  intro stack peer update hhunt hack hrounds
  obtain ⟨sent, hsent, -, hbytes⟩ := conTxFrame_eq stack call hlen
  refine ⟨_, sent, hsent, fun hstands ↦ ?_⟩
  rw [hbytes] at hstands
  obtain ⟨rounds, hrounds'⟩ := Nat.exists_eq_add_of_le' hrounds
  have hc : (call.len + 3).toNat = call.len.toNat + 3 := by
    rw [UInt8.toNat_add, show (3 : UInt8).toNat = 3 from rfl, Nat.mod_eq_of_lt (by omega)]
  -- the start of the frame, its length byte, and the bytes that are asked for
  have hsof : peer.stream peer.pos = sof := by simpa using hstands 0 (by simp)
  have hlength :
      peer.stream (peer.pos + 1) = call.len + 3 := by simpa [TxCall.body] using hstands 1 (by simp)
  obtain ⟨-, hrest⟩ : StandsAt peer.stream peer.pos [sof, call.len + 3] ∧
      StandsAt peer.stream (peer.pos + 2)
        ([call.type, call.cmd] ++ call.payload ++ [checksum call.body]) :=
    standsAt_append.mp (by simpa [TxCall.body] using hstands)
  have hmap := hrest.map_range
  have hcount : ([call.type, call.cmd] ++ call.payload ++ [checksum call.body]).length =
      call.len.toNat + 3 := by
    simp [length_payload_tx]
  rw [hcount, ← hc] at hmap
  have hfirst : conByte true peer = (peer.beginFrame, .idle) := by
    simp [conByte, hhunt, hsof]
  have hnext : peer.beginFrame.next 1 (call.len + 3).toNat =
      [call.type, call.cmd] ++ call.payload ++ [checksum call.body] := hmap
  have hframe : (call.len + 3) :: ([call.type, call.cmd] ++ call.payload ++ [checksum call.body]) =
      call.body ++ [checksum call.body] := by simp [TxCall.body]
  obtain ⟨hresult, hbuf⟩ := receiveFrame_right (call.len + 3) peer.beginFrame
    (by rw [hnext, hframe, checksum_self])
  have hbyte : peer.beginFrame.stream peer.beginFrame.pos = call.len + 3 := hlength
  have hsecond :
      conByte true peer.beginFrame = receiveFrame true (call.len + 3) peer.beginFrame := by
    have hmin : ¬ call.len + 3 < frameLengthMin := by
      rw [UInt8.lt_iff_toNat_lt, hc]
      exact Nat.not_lt.mpr (Nat.le_add_left 3 _)
    simp only [conByte, hbyte, if_neg hmin]
    rfl
  have hupdate : conUpdate update peer = receiveFrame true (call.len + 3) peer.beginFrame := by
    simp only [conUpdate, hrounds', hack, conLoop, hfirst, if_true, hsecond, hresult,
      reduceCtorEq, if_false]
  rw [hupdate]
  rw [hnext] at hbuf
  refine ⟨hresult, ?_, ?_, ?_, ?_⟩
  · rw [hbuf 0 (by simp)]
    exact hc
  · simpa using hbuf 1 (by simp)
  · simpa using hbuf 2 (by simp)
  · have hpayload : StandsAt (receiveFrame true (call.len + 3) peer.beginFrame).1.serBuf 0
        ([call.len + 3, call.type, call.cmd] ++
          (call.payload ++ [checksum call.body])) := by simpa using hbuf
    exact (standsAt_append.mp (standsAt_append.mp hpayload).2).1

/-- The link is right exactly when the frame that is sent has at most 250 bytes of payload, and no
frame with the length byte 255 is received. -/
theorem framing_iff :
    FramingRight call update s ↔ call.len.toNat ≤ 250 ∧
      NoLongFrame update.acknowledge update.rounds s := by
  have hover := (conLoop_overrun update.acknowledge update.rounds s).2
  rw [← conUpdate_overrun] at hover
  constructor
  · intro h
    exact ⟨(ends_iff call).mp h.ends, hover.mp h.update.inside⟩
  · rintro ⟨hlen, hclean⟩
    have hbacked := conUpdate_backed update s
    exact ⟨(ends_iff call).mpr hlen, fun _ ↦ roundTrip_of_short call hlen,
      hbacked.checked, hover.mpr hclean, hbacked.hunting, conByte_hunting _ s⟩

/-- The link at rest, with nothing on the line. -/
def quietLink : Con := ⟨.sofHunt, false, false, fun _ ↦ 0, 0, 0, fun _ ↦ 0, 0, []⟩

theorem framing_fail :
    ¬ ∀ (call : TxCall) (update : Update) (s : Con), FramingRight call update s := by
  intro h
  have hright := h ⟨0, 0, fun _ ↦ 0, 251⟩ ⟨true, 0, false, false⟩ quietLink
  exact absurd ((ends_iff _).mp hright.ends) (by decide)

end ZipGateway.SerialApi
