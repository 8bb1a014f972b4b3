import ZipGateway.Lib.Scratch

/-!
# The send buffer of the serial API

`ZW_SendData` and `ZW_SendData_Bridge` in `src/src/serialapi/Serialapi.c` put their command together
in `buffer`, byte by byte, and `SendFrameWithResponse` copies the response of the Z-Wave module into
a buffer of its caller. The first two check the length of the data, with two bytes for everything
else; the last one checks nothing. `sendBuffers_iff` says when what is written stays inside.
-/

set_option autoImplicit false

namespace ZipGateway.SerialApi

open Lib List

def bufSize : ℕ := 180

def idxData : ℕ := 3

/-- `REQUEST`, as the second byte of a frame. -/
def request : UInt8 := 0

/-! ### Responses -/

/-- What `WaitResponse` gives back; `serBuf` has the frame when there is one. -/
inductive Wait
  | received (serBuf : ℕ → UInt8)
  | other

/-- What the serial link does while a command is sent: whether it is acknowledged, and what comes
then. -/
structure Exchange where
  sent : Bool
  waits : List Wait

/-- A response to this command. -/
def Wait.response (cmd : UInt8) : Wait → Option (ℕ → UInt8)
  | .received serBuf => if serBuf 1 ≠ request ∧ serBuf 2 = cmd then some serBuf else none
  | .other => none

/-- The response that `SendFrameWithResponse` finds: it waits three times. -/
def Exchange.response (x : Exchange) (cmd : UInt8) : Option (ℕ → UInt8) :=
  if x.sent then (x.waits.take 3).findSome? (Wait.response cmd) else none

/-- `SendFrameWithResponse`: the caller's buffer, and `serFrameLen` when there is a response. -/
def sendFrameWithResponse (cmd : UInt8) (x : Exchange) (response : Scratch) :
    Scratch × Option UInt8 :=
  match x.response cmd with
  | none => (response, none)
  | some serBuf => (response.put 0 ((List.range (serBuf 0).toNat).map serBuf), some (serBuf 0))

/-! ### Commands -/

/-- `buffer[idx++] = byte`. -/
def putByte (built : Scratch × UInt8) (byte : UInt8) : Scratch × UInt8 :=
  (built.1.put built.2.toNat [byte], built.2 + 1)

/-- Some bytes, one after the other. -/
def putBytes (built : Scratch × UInt8) (bytes : List UInt8) : Scratch × UInt8 :=
  bytes.foldl putByte built

/-- The bytes of `set_node_id_in_buffer`. -/
def nodeIdBytes (lrEnabled : Bool) (nodeId : UInt16) : List UInt8 :=
  if lrEnabled then [(nodeId >>> 8).toUInt8, nodeId.toUInt8] else [nodeId.toUInt8]

/-- The arguments of the two functions. -/
structure SendCall where
  /-- `srcNodeID`, for `ZW_SendData_Bridge`. -/
  srcNodeID : Option UInt16
  destNodeID : UInt16
  pData : ℕ → UInt8
  dataLength : UInt8
  txOptions : UInt8
  /-- `completedFunc` is not `NULL`. -/
  completed : Bool

/-- The static variables of the module: the mode of the node ids, `txnr` and `buffer`. -/
structure SendState where
  lrEnabled : Bool
  txnr : ℕ
  memory : ℕ → UInt8

/-- `byCompletedFunc`. -/
def byCompletedFunc (call : SendCall) (s : SendState) : UInt8 :=
  if call.completed then 1 + (UInt8.ofNat s.txnr &&& 0xF7) else 0

/-- The bytes of `pData` that are to be sent. -/
def SendCall.payload (call : SendCall) :
    List UInt8 := (List.range call.dataLength.toNat).map call.pData

/-- What a command has in front of the data. -/
def SendCall.front (call : SendCall) (lrEnabled : Bool) : List UInt8 :=
  (call.srcNodeID.elim [] (nodeIdBytes lrEnabled)) ++ nodeIdBytes lrEnabled call.destNodeID ++
    [call.dataLength]

/-- What a command has behind the data; `ZW_SendData_Bridge` has four route bytes. -/
def SendCall.back (call : SendCall) (s : SendState) : List UInt8 :=
  [call.txOptions] ++ (if call.srcNodeID.isSome then [0, 0, 0, 0] else []) ++
    [byCompletedFunc call s]

/-- A command that was sent. -/
structure Sent where
  /-- `buffer`, when the command is sent. -/
  built : Scratch
  idx : UInt8
  /-- What `SendFrame` is given. -/
  frame : List UInt8
  /-- `buffer`, when the function returns. -/
  after : Scratch
  txnr : ℕ
  result : UInt8

/-- The common code of `ZW_SendData` and `ZW_SendData_Bridge`, for the command number of the one or
the other. -/
def sendCommand (cmd : UInt8) (call : SendCall) (x : Exchange) (s : SendState) : Option Sent :=
  if bufSize < call.dataLength.toNat + 2 then none
  else
    let start : Scratch × UInt8 := (⟨⟨bufSize, s.memory⟩, fun _ ↦ false, true⟩, 0)
    let built :=
      putBytes (putBytes (putBytes start (call.front s.lrEnabled)) call.payload) (call.back s)
    let response := sendFrameWithResponse cmd x built.1
    let after := if response.2.isSome then response.1 else response.1.put idxData [0]
    some {
      built := built.1
      idx := built.2
      frame := built.1.buffer.load 0 built.2.toNat
      after := after
      txnr := if response.2.isSome then s.txnr + 1 else s.txnr
      result := after.byte idxData }

/-- `ZW_SendData`, for `FUNC_ID_ZW_SEND_DATA`. -/
def zwSendData (nodeID : UInt16) (pData : ℕ → UInt8) (dataLength txOptions : UInt8)
    (completed : Bool) (x : Exchange) (s : SendState) : Option Sent :=
  sendCommand 0x13 ⟨none, nodeID, pData, dataLength, txOptions, completed⟩ x s

/-- `ZW_SendData_Bridge`, for `FUNC_ID_ZW_SEND_DATA_BRIDGE`. -/
def zwSendDataBridge (srcNodeID destNodeID : UInt16) (pData : ℕ → UInt8)
    (dataLength txOptions : UInt8)
    (completed : Bool) (x : Exchange) (s : SendState) : Option Sent :=
  sendCommand 0xA9 ⟨some srcNodeID, destNodeID, pData, dataLength, txOptions, completed⟩ x s

/-! ### Room -/

/-- A command that was built fits in the buffer, and what is sent is this command. -/
structure Sent.Carries (sent : Sent) (front data back : List UInt8) : Prop where
  inside : sent.built.inside = true
  noWrap : sent.idx.toNat = front.length + data.length + back.length
  frame : sent.frame = front ++ data ++ back

/-- The bytes of a command beside the data: the node ids, the length, the options, the route and the
callback id. -/
def overhead (bridge lrEnabled : Bool) : ℕ :=
  match bridge, lrEnabled with
  | false, false => 4
  | false, true => 5
  | true, false => 9
  | true, true => 11

/-- Everything that the three functions write stays inside of the buffers. -/
structure Confined (call : SendCall) (s : SendState) (cmd : UInt8) (x : Exchange) (capacity : ℕ) :
    Prop where
  command : ∀ sent, sendCommand cmd call x s = some sent →
    sent.Carries (call.front s.lrEnabled) call.payload (call.back s)
  /-- A response is copied into a buffer of this size. -/
  response : ∀ memory,
    (sendFrameWithResponse cmd x ⟨⟨capacity, memory⟩, fun _ ↦ false, true⟩).1.inside = true

theorem putBytes_append (built : Scratch × UInt8) (first second : List UInt8) :
    putBytes (putBytes built first) second = putBytes built (first ++ second) := by
  simp [putBytes]

/-- Bytes that are put one after the other stand one after the other, as long as `idx` does not
wrap. -/
theorem putBytes_stands (bytes : List UInt8) : ∀ (built : Scratch × UInt8) (first : List UInt8),
    StandsAt built.1.buffer.byte 0 first → built.2.toNat = first.length → first.length +
      bytes.length < 256 → (putBytes built bytes).2.toNat = first.length + bytes.length ∧
        StandsAt (putBytes built bytes).1.buffer.byte 0 (first ++ bytes) ∧
        (putBytes built bytes).1.size = built.1.size ∧
        ((putBytes built bytes).1.inside = true ↔
          built.1.inside = true ∧ (bytes ≠ [] → first.length + bytes.length ≤ built.1.size)) := by
  induction bytes with
  | nil =>
    intro built first hstands hidx _
    exact ⟨hidx, by simpa [putBytes] using hstands, rfl, by simp [putBytes]⟩
  | cons byte bytes ih =>
    intro built first hstands hidx hlength
    simp only [length_cons] at hlength
    have hnext : (built.2 + 1).toNat = (first ++ [byte]).length := by
      rw [UInt8.toNat_add, hidx, UInt8.toNat_one, length_append, length_singleton]
      omega
    have hstep : StandsAt (putByte built byte).1.buffer.byte 0 (first ++ [byte]) :=
      hstands.write_behind (by rw [hidx, Nat.zero_add])
    obtain ⟨hcount, hwhole, hsize, hinside⟩ :=
      ih (putByte built byte) (first ++ [byte]) hstep hnext (by simp; omega)
    have hput : putBytes built (byte :: bytes) = putBytes (putByte built byte) bytes := rfl
    rw [hput]
    refine ⟨?_, ?_, ?_, ?_⟩
    · rw [hcount]
      simp
      omega
    · simpa using hwhole
    · rw [hsize]
      rfl
    · rw [hinside]
      simp only [putByte, Scratch.inside_put, Scratch.size_put, hidx, length_append, length_cons,
        length_nil, ne_eq, reduceCtorEq, not_false_eq_true, forall_const]
      rcases bytes with _ | ⟨next, bytes⟩
      · simp
      · simp only [length_cons, reduceCtorEq, not_false_eq_true, forall_const, and_assoc]
        exact and_congr_right fun _ ↦ by omega

theorem length_front_back (call : SendCall) (s : SendState) :
    (call.front s.lrEnabled).length + (call.back s).length =
      overhead call.srcNodeID.isSome s.lrEnabled := by
  have hback : call.back s ≠ [] := by simp [SendCall.back]
  cases hsrc : call.srcNodeID <;> cases hlr : s.lrEnabled <;>
    simp [SendCall.front, SendCall.back, nodeIdBytes, overhead, hsrc]

theorem length_payload (call : SendCall) : call.payload.length = call.dataLength.toNat := by
  simp [SendCall.payload]

/-- A command fits exactly when its data leave room for the rest. -/
theorem carries_iff (cmd : UInt8) (call : SendCall) (x : Exchange) (s : SendState) :
    (∀ sent, sendCommand cmd call x s = some sent →
        sent.Carries (call.front s.lrEnabled) call.payload (call.back s)) ↔
      (call.dataLength.toNat + 2 ≤ bufSize →
        call.dataLength.toNat + overhead call.srcNodeID.isSome s.lrEnabled ≤ bufSize) := by
  rw [sendCommand]
  split
  · next hlong => exact iff_of_true (fun _ h ↦ by simp at h) fun h ↦ absurd h (Nat.not_le.mpr hlong)
  · next hshort =>
    have haccepted : call.dataLength.toNat + 2 ≤ bufSize := Nat.le_of_not_lt hshort
    have htotal : (call.front s.lrEnabled ++ call.payload ++ call.back s).length =
        call.dataLength.toNat + overhead call.srcNodeID.isSome s.lrEnabled := by
      rw [length_append, length_append, length_payload, ← length_front_back call s]
      omega
    have hover : overhead call.srcNodeID.isSome s.lrEnabled ≤ 11 := by
      cases call.srcNodeID.isSome <;> cases s.lrEnabled <;> decide
    have hne : call.front s.lrEnabled ++ call.payload ++ call.back s ≠ [] := by simp [SendCall.back]
    obtain ⟨hidx, hstands, -, hinside⟩ := putBytes_stands
      (call.front s.lrEnabled ++ call.payload ++ call.back s)
      (⟨⟨bufSize, s.memory⟩, fun _ ↦ false, true⟩, 0) [] standsAt_nil rfl (by
        rw [htotal, length_nil]
        unfold bufSize at haccepted
        omega)
    simp only [length_nil, Nat.zero_add, nil_append, htotal] at hidx hstands hinside
    simp only [putBytes_append, Option.some.injEq, forall_eq', haccepted, forall_const]
    constructor
    · exact fun h ↦ (hinside.mp h.inside).2 hne
    · intro hroom
      refine ⟨hinside.mpr ⟨trivial, fun _ ↦ hroom⟩, ?_, ?_⟩
      · rw [hidx, ← htotal]
        simp only [length_append]
      · have hload := hstands.load_eq
        rwa [htotal, ← hidx] at hload

/-- A response is copied inside of the buffer exactly when it is no longer than that. -/
theorem response_inside_iff (cmd : UInt8) (x : Exchange) (capacity : ℕ) :
    (∀ memory, (sendFrameWithResponse cmd x ⟨⟨capacity, memory⟩, fun _ ↦ false, true⟩).1.inside =
      true) ↔
      ∀ serBuf, x.response cmd = some serBuf → (serBuf 0).toNat ≤ capacity := by
  simp only [sendFrameWithResponse]
  cases x.response cmd with
  | none => simp
  | some serBuf => simp [Scratch.size]

/-- What is written stays inside exactly when an accepted command leaves room for what stands around
its data, and the response to it is no longer than the buffer of the caller. -/
theorem sendBuffers_iff (call : SendCall) (s : SendState) (cmd : UInt8) (x : Exchange)
    (capacity : ℕ) : Confined call s cmd x capacity ↔
      (call.dataLength.toNat + 2 ≤ bufSize →
        call.dataLength.toNat + overhead call.srcNodeID.isSome s.lrEnabled ≤ bufSize) ∧
      ∀ serBuf, x.response cmd = some serBuf → (serBuf 0).toNat ≤ capacity := by
  rw [← carries_iff cmd call x s, ← response_inside_iff cmd x capacity]
  exact ⟨fun h ↦ ⟨h.command, h.response⟩, fun h ↦ ⟨h.1, h.2⟩⟩

/-- 177 bytes to node 5, with classic node ids. -/
def longCall : SendCall := ⟨none, 5, fun _ ↦ 0, 177, 0, false⟩

theorem sendBuffers_fail :
    ¬ ∀ (call : SendCall) (s : SendState) (cmd : UInt8) (x : Exchange) (capacity : ℕ),
    Confined call s cmd x capacity := by
  intro h
  have hconfined := (h longCall ⟨false, 0, fun _ ↦ 0⟩ 0x13 ⟨false, []⟩ bufSize).command
  exact absurd ((carries_iff _ _ _ _).mp hconfined) (by decide)

end ZipGateway.SerialApi
