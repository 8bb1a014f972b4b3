import ZipGateway.Nodemask
import ZipGateway.ProvisioningList.Calls

/-!
# The commands of the provisioning list

The model of `PVL_CommandHandler` in `src/src/CC_provisioning_list.c`, with the frames and the
reports as bytes. A frame comes with the bytes behind it in the buffer (`Frame.behind`), which the
handler may read when the frame is short.

Allocations succeed: of the outcomes that a call of the list may have (`Calls`), a Set has the one
with room for what it adds, a new entry as well as each TLV. The handler does not look at what
`provisioning_list_tlv_set` returns, so without room a Set would be answered just the same.

The resource directory answers `rd_lookup_by_dsk`; of a node that is found the report has the node
id, and whether its state is `STATUS_FAILING`.
-/

set_option autoImplicit false

namespace ZipGateway.ProvisioningList

open ZipGateway.Lib

/-! ### Names and locations -/

/-- `is_valid_utf8_string`. -/
def isValidUtf8String : List UInt8 → Bool
  | [] => true
  | s0 :: rest =>
    if s0 = 0 then true
    else if s0 ≤ 127 then isValidUtf8String rest
    else if s0 &&& 0xe0 = 0xc0 then
      match rest with
      | s1 :: rest =>
        if s0 &&& 0xfe = 0xc0 || s1 &&& 0xc0 != 0x80 then false else isValidUtf8String rest
      | _ => false
    else if s0 &&& 0xf0 = 0xe0 then
      match rest with
      | s1 :: s2 :: rest =>
        if (s0 = 0xe0 && s1 &&& 0xe0 = 0x80) || s1 &&& 0xc0 != 0x80 || s2 &&& 0xc0 != 0x80 ||
            (s0 = 0xed && s1 &&& 0xe0 = 0xa0) || (s0 = 0xef && s1 = 0xbf && s2 &&& 0xfe = 0xbe) then
          false
        else isValidUtf8String rest
      | _ => false
    else if s0 &&& 0xf8 = 0xf0 then
      match rest with
      | s1 :: s2 :: s3 :: rest =>
        if (s0 = 0xf0 && s1 &&& 0xf0 = 0x80) || s1 &&& 0xc0 != 0x80 || s2 &&& 0xc0 != 0x80 ||
            s3 &&& 0xc0 != 0x80 || (s0 = 0xf4 && 0x8f < s1) || 0xf4 < s0 then
          false
        else isValidUtf8String rest
      | _ => false
    else false

/-- `is_valid_mdns_name`. -/
def isValidMdnsName (name : List UInt8) : Bool :=
  name = [] ||
    (!name.contains 0x2e && !name.contains 0x5f && name.getLast? != some 0x2d &&
      name.getLast? != some 0 && isValidUtf8String name)

def hasDashDot : List UInt8 → Bool
  | first :: second :: rest => (first = 0x2d && second = 0x2e) || hasDashDot (second :: rest)
  | _ => false

/-- `is_valid_mdns_location`. -/
def isValidMdnsLocation (location : List UInt8) : Bool :=
  location = [] ||
    (location.head? != some 0x2e && location.getLast? != some 0x2e && !location.contains 0x5f &&
      !hasDashDot location && isValidUtf8String location)

/-! ### Frames -/

/-- A frame and the bytes behind it. -/
structure Frame where
  bytes : List UInt8
  behind : ℕ → UInt8

def Frame.byte (frame : Frame) (k : ℕ) : UInt8 := (frame.bytes[k]?).getD (frame.behind k)

/-- The result of the handler. -/
inductive HandlerCode where
  | commandHandled
  | commandParseError
  | commandNotSupported
deriving DecidableEq, Repr

def commandClassProvisioningList : UInt8 := 0x78

/-- `PROVISIONING_LIST_DSK_LENGTH_MASK`. -/
def dskLengthMask : UInt8 := 0x1F

/-- The bytes of a buffer that are given by a length in one byte. -/
def octets (len : UInt8) (bytes : List UInt8) : Octets :=
  ⟨bytes.take len.toNat, by
    have hlen := UInt8.toNat_lt len
    rw [List.length_take]
    omega⟩

/-- The DSK of a frame, behind the byte with its length. -/
def Frame.dsk (frame : Frame) (len : UInt8) : Octets :=
  octets len ((List.range len.toNat).map fun k ↦ frame.byte (4 + k))

/-! ### Provisioning Set -/

def tlvNotPresent : UInt32 := 0xFFFF

/-- The local variables of `COMMAND_PROVISION_SET`. A pointer is `none` when it is null. -/
structure SetFields where
  name : Option Octets
  location : Option Octets
  productId : Option Octets
  productType : Option Octets
  maxInclReqInterval : UInt32
  uuid16 : Option Octets
  bootstrapMode : UInt32
  provStatus : UInt32
  provGrantedKeys : UInt32

/-- The variables before the TLVs are read. -/
def SetFields.initial : SetFields :=
  ⟨none, none, none, none, tlvNotPresent, none, tlvNotPresent, tlvNotPresent, tlvNotPresent⟩

def pvsTlvTypeProductType : UInt8 := 0

def pvsTlvTypeProductId : UInt8 := 1

def pvsTlvTypeMaxInclReqInterval : UInt8 := 2

def pvsTlvTypeUuid16 : UInt8 := 3

def pvsTlvTypeName : UInt8 := 0x32

def pvsTlvTypeLocation : UInt8 := 0x33

def pvsTlvTypeStatus : UInt8 := 0x34

def pvsTlvTypeAdvJoin : UInt8 := 0x35

def pvsTlvTypeBootstrapMode : UInt8 := 0x36

def pvsTlvTypeNetworkInfo : UInt8 := 0x37

/-- The `switch` of the loop: a TLV with its type and length, and what is in the frame behind them.
It is `none` on a parse error. -/
def SetFields.absorb (fields : SetFields) (type len : UInt8) (behind : List UInt8) :
    Option SetFields :=
  let value := octets len behind
  let first := (behind.getD 0 0).toUInt32
  let kind := type >>> 1
  if kind = pvsTlvTypeName then some { fields with name := some value }
  else if kind = pvsTlvTypeLocation then some { fields with location := some value }
  else if kind = pvsTlvTypeBootstrapMode then some { fields with bootstrapMode := first }
  else if kind = pvsTlvTypeProductType then
    if len < 4 then none else some { fields with productType := some value }
  else if kind = pvsTlvTypeProductId then
    if len < 8 then none else some { fields with productId := some value }
  else if kind = pvsTlvTypeStatus then
    if len < 1 then none else some { fields with provStatus := first }
  else if kind = pvsTlvTypeNetworkInfo then some fields
  else if kind = pvsTlvTypeAdvJoin then
    if len < 1 then none else some { fields with provGrantedKeys := first }
  else if kind = pvsTlvTypeMaxInclReqInterval then
    if len < 1 then none else some { fields with maxInclReqInterval := first }
  else if kind = pvsTlvTypeUuid16 then
    if len < 17 then none else some { fields with uuid16 := some (octets 17 behind) }
  else if type &&& 1 ≠ 0 then none
  else some fields

/-- The loop over the TLVs, with the bytes from `tlv` to `end`. Every turn takes two bytes or more,
so that their number is enough fuel. -/
def readTlvs : ℕ → List UInt8 → SetFields → Option SetFields
  | 0, _, fields => some fields
  | fuel + 1, bytes, fields =>
    match bytes with
    | type :: len :: behind =>
      if behind = [] then some fields
      else if behind.length < len.toNat then some fields
      else
        match fields.absorb type len behind with
        | none => none
        | some fields => readTlvs fuel (behind.drop len.toNat) fields
    | _ => some fields

/-- The calls at the end of `COMMAND_PROVISION_SET`, on the entry. -/
def SetFields.apply (fields : SetFields) (pvlEntry : Option (Fin provisioningListSize))
    (slots : Slots) : Slots :=
  let slots := if fields.provStatus ≠ tlvNotPresent then statusSet pvlEntry fields.provStatus slots
    else slots
  let slots :=
    if fields.name.isSome then tlvSet pvlEntry pvsTlvTypeName fields.name slots else slots
  let slots := if fields.location.isSome then
    tlvSet pvlEntry pvsTlvTypeLocation fields.location slots else slots
  let slots := if fields.provGrantedKeys ≠ tlvNotPresent then
    tlvSet pvlEntry pvsTlvTypeAdvJoin (some (octets 1 [fields.provGrantedKeys.toUInt8])) slots
      else slots
  let slots := if fields.productType.isSome then
    tlvSet pvlEntry pvsTlvTypeProductType fields.productType slots else slots
  let slots := if fields.productId.isSome then
    tlvSet pvlEntry pvsTlvTypeProductId fields.productId slots else slots
  let slots := if fields.maxInclReqInterval ≠ tlvNotPresent then
    tlvSet pvlEntry pvsTlvTypeMaxInclReqInterval
      (some (octets 1 [fields.maxInclReqInterval.toUInt8])) slots else slots
  if fields.uuid16.isSome then tlvSet pvlEntry pvsTlvTypeUuid16 fields.uuid16 slots else slots

/-- The entry of a Set is added or changed, with what the TLVs say. -/
def SetFields.store (fields : SetFields) (dsk : Octets) (slots : Slots) : Slots :=
  match devGet dsk.val slots with
  | none =>
    let mode := if fields.bootstrapMode = tlvNotPresent then pvsBootmodeSmartStart
      else fields.bootstrapMode
    match devAddIn true dsk mode slots with
    | (slots, ⟨_, none⟩) => slots
    | (slots, ⟨_, some i⟩) => fields.apply (some i) slots
  | some i =>
    fields.apply (some i) (if fields.bootstrapMode ≠ tlvNotPresent then
      bootmodeSet (some i) fields.bootstrapMode slots else slots)

/-- `COMMAND_PROVISION_SET`. -/
def provisionSet (frame : Frame) (slots : Slots) : HandlerCode × Slots :=
  let dsklen := frame.byte 3 &&& dskLengthMask
  if frame.bytes.length < 4 + dsklen.toNat then (.commandParseError, slots)
  else if dsklen < 16 then (.commandParseError, slots)
  else
    let tlvs := frame.bytes.drop (4 + dsklen.toNat)
    match readTlvs tlvs.length tlvs SetFields.initial with
    | none => (.commandParseError, slots)
    | some fields =>
      if !isValidMdnsName ((fields.name.map Subtype.val).getD []) then (.commandParseError, slots)
      else if !isValidMdnsLocation ((fields.location.map Subtype.val).getD []) then
        (.commandParseError, slots)
      else (.commandHandled, fields.store (frame.dsk dsklen) slots)

/-- `COMMAND_PROVISION_DELETE`. -/
def provisionDelete (frame : Frame) (slots : Slots) : HandlerCode × Slots :=
  let dsklen := frame.byte 3 &&& dskLengthMask
  if 4 ≤ frame.bytes.length ∧ dsklen = 0 then (.commandHandled, clear slots)
  else if frame.bytes.length < 4 + dsklen.toNat then (.commandParseError, slots)
  else (.commandHandled, devRemove (frame.dsk dsklen) slots)

/-! ### Reports -/

/-- A TLV in a frame: the byte with the type and the critical flag, and the value. -/
structure RawTlv where
  type : UInt8
  value : Octets
deriving DecidableEq

def RawTlv.bytes (tlv : RawTlv) : List UInt8 :=
  tlv.type :: UInt8.ofNat tlv.value.val.length :: tlv.value.val

/-- What the resource directory says about a DSK: the node id of the node that has it, and whether
it is failing. -/
abbrev Directory := List UInt8 → Option (UInt16 × Bool)

/-- The value of the Network Status TLV. -/
def networkInfo (directory : Directory) (dsk : List UInt8) : List UInt8 :=
  match directory dsk with
  | none => [0, 0, 0, 0]
  | some (nodeid, failing) =>
    let state : UInt8 := if failing then 2 else 1
    if zwLrMinNodeId ≤ nodeid.toNat ∧
      nodeid.toNat ≤ zwMaxNodes then [0, state, (nodeid >>> 8).toUInt8, nodeid.toUInt8]
    else [nodeid.toUInt8, state, 0, 0]

/-- `provisioning_list_tlv_crt_flag`. -/
def tlvCrtFlag (type : UInt8) : UInt8 := if type = pvsTlvTypeAdvJoin then 1 else 0

/-- The byte of a report with a type and its critical flag. -/
def reportType (type : UInt8) : UInt8 := type <<< 1 ||| tlvCrtFlag type

/-- `CC_provisioning_list_add_tlvs`. -/
def addTlvs (directory : Directory) (entry : Provision) : List UInt8 :=
  [pvsTlvTypeBootstrapMode <<< 1 ||| 1, 1, entry.bootmode.toUInt8] ++
    [pvsTlvTypeStatus <<< 1 ||| 1, 1, entry.status.toUInt8] ++
    [pvsTlvTypeNetworkInfo <<< 1, 4] ++ networkInfo directory (entry.dsk.getD []) ++
    entry.tlvList.flatMap fun tlv ↦
      reportType tlv.type :: UInt8.ofNat tlv.value.length :: tlv.value

/-- `CC_provisioning_list_build_report`. -/
def buildReport (directory : Directory) (entry : Option Provision) (seqNo : UInt8) : List UInt8 :=
  match entry with
  | none => [commandClassProvisioningList, 6, seqNo, 0]
  | some entry =>
    [commandClassProvisioningList, 6, seqNo, entry.dskLen &&& dskLengthMask] ++ entry.dsk.getD [] ++
      addTlvs directory entry

/-- `COMMAND_PROVISION_GET`: the report that is sent. -/
def provisionGet (directory : Directory) (frame : Frame) (slots : Slots) : List UInt8 :=
  buildReport directory ((devGet (frame.dsk (frame.byte 3)).val slots).map slots) (frame.byte 2)

/-! ### The iteration -/

def iterReport (directory : Directory) (seqNo remaining : UInt8) (entry : Option Provision) :
    List UInt8 :=
  match entry with
  | none => [commandClassProvisioningList, 4, seqNo, remaining, 0]
  | some entry =>
    [commandClassProvisioningList, 4, seqNo, remaining, entry.dskLen &&& dskLengthMask] ++
      entry.dsk.getD [] ++ addTlvs directory entry

def pvsStatusPassive : UInt32 := 2

/-- The list, and `curr_iter`. -/
structure PvlState where
  slots : Slots
  currIter : Option Iter

/-- The report of `COMMAND_PROVISION_ITER_GET` for the next entry of an iterator. An entry that is
passive gets pending. -/
def iterAnswer (directory : Directory) (seqNo : UInt8) (iter : Iter) (slots : Slots) :
    PvlState × List UInt8 :=
  let (entry, iter) := iterGetNext iter slots
  let remaining := UInt8.ofNat (iter.cnt - iter.next)
  match entry with
  | none => (⟨slots, some iter⟩, iterReport directory seqNo remaining none)
  | some i =>
    let slots := if (slots i).status = pvsStatusPassive then
      statusSet (some i) pvsStatusPending slots else slots
    (⟨slots, some iter⟩, iterReport directory seqNo remaining (some (slots i)))

/-- `COMMAND_PROVISION_ITER_GET`: the report that is sent, if any. -/
def provisionIterGet (directory : Directory) (frame : Frame) (state : PvlState) :
    PvlState × Option (List UInt8) :=
  if frame.byte 3 = 0xFF then
    let (state, report) :=
      iterAnswer directory (frame.byte 2) (iteratorGet 0 state.slots) state.slots
    (state, some report)
  else
    match state.currIter with
    | none => (state, none)
    | some iter =>
      if (frame.byte 3).toNat ≠ iter.cnt - iter.next then (state, none)
      else
        let (state, report) := iterAnswer directory (frame.byte 2) iter state.slots
        (state, some report)

/-- `PVL_CommandHandler`: the result, the list and the report that is sent, if any. -/
def pvlCommandHandler (directory : Directory) (frame : Frame) (state : PvlState) :
    HandlerCode × PvlState × Option (List UInt8) :=
  if frame.bytes.length < 2 then (.commandParseError, state, none)
  else if frame.byte 1 = 1 then
    let (code, slots) := provisionSet frame state.slots
    (code, { state with slots := slots }, none)
  else if frame.byte 1 = 2 then
    let (code, slots) := provisionDelete frame state.slots
    (code, { state with slots := slots }, none)
  else if frame.byte 1 = 3 then
    let (state, report) := provisionIterGet directory frame state
    (if report.isSome then .commandHandled else .commandParseError, state, report)
  else if frame.byte 1 = 5 then
    (.commandHandled, state, some (provisionGet directory frame state.slots))
  else (.commandNotSupported, state, none)

end ZipGateway.ProvisioningList
