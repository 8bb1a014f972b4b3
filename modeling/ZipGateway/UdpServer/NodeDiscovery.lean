import ZipGateway.Lib.Buffer
import ZipGateway.Nodemask

/-!
# Node discovery

A node solicitation asks which node has an address, an inverse one asks for the address of a node.
The handler writes its answer, a node advertisement, into the buffer that the question came in.

A classic node stands in one byte of a frame. A Long Range node does not fit there: the byte is
0xFF, and the node stands in two more bytes, which the older frame of an inverse solicitation does
not have. The handler reads these two bytes also where the one byte is not 0xFF, and takes node 256
for a classic one when it answers a node solicitation. `nodeIds_iff` says that nothing else goes
wrong.
-/

set_option autoImplicit false

namespace ZipGateway.UdpServer.NodeDiscovery

open Lib Nodemask

/-! ### Node ids in a frame -/

/-- The bytes of a frame that a node id stands in. -/
structure NodeIdField where
  nodeID : UInt8
  extendedNodeidMSB : UInt8
  extendedNodeidLSB : UInt8
deriving DecidableEq, Repr

namespace NodeIdField

/-- A node id in the one byte. -/
def short (nodeid : UInt16) : NodeIdField := ⟨nodeid.toUInt8, 0, 0⟩

/-- A node id in the extension. -/
def long (nodeid : UInt16) : NodeIdField := ⟨0xFF, (nodeid >>> 8).toUInt8, nodeid.toUInt8⟩

/-- The node id of the extension. -/
def extension (field : NodeIdField) : UInt16 :=
  (field.extendedNodeidMSB.toUInt16 <<< 8) ||| field.extendedNodeidLSB.toUInt16

/-- The node id that a frame has: the one of the extension exactly when the one byte says so. -/
def decoded (field : NodeIdField) : UInt16 :=
  if field.nodeID = 0xFF then field.extension else field.nodeID.toUInt16

/-- The two bytes of the extension have a whole node id. -/
@[simp]
theorem extension_long (nodeid : UInt16) : (long nodeid).extension = nodeid := by
  have hbound : nodeid.toNat < 65536 := nodeid.toNat_lt
  have hlow : nodeid.toNat % 256 < 2 ^ 8 := Nat.mod_lt _ (by norm_num)
  have hhigh : (nodeid.toNat / 256 % 256) <<< 8 % 65536 = (nodeid.toNat / 256) <<< 8 := by
    rw [Nat.shiftLeft_eq, Nat.shiftLeft_eq]
    omega
  apply UInt16.toNat_inj.mp
  simp only [extension, long, UInt16.toNat_or, UInt16.toNat_shiftLeft, UInt8.toNat_toUInt16,
    UInt16.toNat_toUInt8,
    UInt16.toNat_shiftRight, UInt16.reduceToNat, Nat.reduceMod, Nat.shiftRight_eq_div_pow,
      Nat.reducePow]
  rw [hhigh, ← Nat.shiftLeft_add_eq_or_of_lt hlow, Nat.shiftLeft_eq]
  exact Nat.div_add_mod' nodeid.toNat 256

@[simp]
theorem decoded_long (nodeid : UInt16) : (long nodeid).decoded = nodeid :=
  (if_pos rfl).trans (extension_long nodeid)

@[simp]
theorem extension_short (nodeid : UInt16) : (short nodeid).extension = 0 :=
  show (0 : UInt8).toUInt16 <<< 8 ||| (0 : UInt8).toUInt16 = 0 by decide

/-- A small node id fits into the one byte. -/
theorem toUInt16_toUInt8 {nodeid : UInt16} (hsmall : nodeid.toNat < 256) :
    nodeid.toUInt8.toUInt16 = nodeid := by
  apply UInt16.toNat_inj.mp
  rw [UInt8.toNat_toUInt16, UInt16.toNat_toUInt8, Nat.mod_eq_of_lt hsmall]

theorem decoded_short {nodeid : UInt16} (hclassic : IsClassicNode nodeid.toNat) :
    (short nodeid).decoded = nodeid := by
  have hle : nodeid.toNat ≤ 232 := hclassic.2
  have hbyte : nodeid.toUInt8.toUInt16 = nodeid := toUInt16_toUInt8 (by omega)
  have hplain : nodeid.toUInt8 ≠ 0xFF := by
    intro hescape
    rw [hescape] at hbyte
    rw [← hbyte] at hle
    exact absurd hle (by decide)
  exact (if_neg hplain).trans hbyte

end NodeIdField

/-! ### The handler -/

def commandClassZipNd : UInt8 := 0x58

def zipNodeAdvertisement : UInt8 := 0x01

def zipNodeSolicitation : UInt8 := 0x03

def zipInvNodeSolicitation : UInt8 := 0x04

/-- `ZIP_NODE_ADVERTISEMENT_PROPERTIES1_LOCAL_BIT_MASK`. -/
def localBitMask : UInt8 := 0x04

/-- `ZIP_NODE_ADVERTISEMENT_VALIDITY_INFORMATION_OK`. -/
def validityInformationOk : UInt8 := 0x00

/-- `ZIP_NODE_ADVERTISEMENT_VALIDITY_INFORMATION_OBSOLETE`. -/
def validityInformationObsolete : UInt8 := 0x01

/-- `ZIP_NODE_ADVERTISEMENT_VALIDITY_INFORMATION_NOT_FOUND`. -/
def validityInformationNotFound : UInt8 := 0x02

/-- `sizeof(ZW_ZIP_NODE_ADVERTISEMENT_V4_FRAME)`. -/
def advertisementSize : ℕ := 26

/-- What the handler asks the rest of the gateway for. -/
structure Network where
  /-- `ipv46nat_ipv4addr_of_node`. -/
  ipv4addrOfNode : UInt16 → Option (Vector UInt8 4)
  /-- `ipv46nat_get_nat_addr`. -/
  getNatAddr : Vector UInt8 4 → UInt16
  ipOfNode : UInt16 → Vector UInt8 16
  nodeOfIP : Vector UInt8 16 → UInt16
  rdNodeExists : UInt16 → Bool
  myNodeID : UInt16
  /-- `UIP_HTONL(homeID)`. -/
  homeIdHb : UInt32

section Handler

variable (network : Network)

/-- `uip_is_4to6_addr`. -/
def Is4to6Addr (addr : Vector UInt8 16) : Prop :=
  addr.toList.take 12 = List.replicate 10 0 ++ [0xFF, 0xFF]

instance (addr : Vector UInt8 16) : Decidable (Is4to6Addr addr) :=
  inferInstanceAs (Decidable (_ = _))

/-- `nodeid`, before the handler looks at the command. -/
def nodeidOf (data : Buffer) (len : UInt16) : UInt16 :=
  if 6 ≤ len then NodeIdField.extension ⟨data.byte 3, data.byte 4, data.byte 5⟩
    else (data.byte 3).toUInt16

/-- The address of a node, in the form of the address that asks for it. -/
def putAddress (ripaddr : Vector UInt8 16) (nodeid : UInt16) (data : Buffer) : Buffer :=
  if Is4to6Addr ripaddr then
    match network.ipv4addrOfNode nodeid with
    | some a => ((data.write 4 (List.replicate 10 0)).write 14 [0xFF, 0xFF]).write 16 a.toList
    | none => (data.write 4 (List.replicate 16 0)).write 14 [0xFF, 0xFF]
  else data.write 4 (network.ipOfNode nodeid).toList

def nodeOfAddress (data : Buffer) : UInt16 :=
  let addr : Vector UInt8 16 := Vector.ofFn fun i ↦ data.byte (4 + i)
  if Is4to6Addr addr then network.getNatAddr (Vector.ofFn fun i ↦ data.byte (16 + i))
    else network.nodeOfIP addr

def putNodeId (field : NodeIdField) (data : Buffer) : Buffer :=
  ((data.write 24 [field.extendedNodeidMSB]).write 25 [field.extendedNodeidLSB]).write 3
    [field.nodeID]

/-- `properties1` of the answer. -/
def properties1Of (nodeid : UInt16) (properties1 : UInt8) : UInt8 :=
  (properties1 &&& localBitMask &&& ~~~3) |||
    if nodeid ≠ 0 then
      if nodeid = network.myNodeID ∨ network.rdNodeExists nodeid then validityInformationOk
      else validityInformationObsolete
    else validityInformationNotFound

/-- The end of the handler, and what is sent. -/
def advertise (nodeid : UInt16) (data : Buffer) : List UInt8 :=
  let data := data.write 1 [zipNodeAdvertisement]
  let data := data.write 20 [(network.homeIdHb >>> 24).toUInt8, (network.homeIdHb >>> 16).toUInt8,
    (network.homeIdHb >>> 8).toUInt8, network.homeIdHb.toUInt8]
  let data := data.write 2 [properties1Of network nodeid (data.byte 2)]
  data.load 0 advertisementSize

/-- `ZipND_CommandHandler`. -/
def zipNdCommandHandler (ripaddr : Vector UInt8 16) (data : Buffer) (len : UInt16) : List UInt8 :=
  let nodeid := nodeidOf data len
  if data.byte 1 = zipInvNodeSolicitation then
    advertise network nodeid
      (putNodeId (if IsLrNode nodeid.toNat then .long nodeid else .short nodeid)
      (putAddress network ripaddr nodeid data))
  else if data.byte 1 = zipNodeSolicitation then
    let nodeid := nodeOfAddress network data
    advertise network nodeid
      (putNodeId (if 0x100 < nodeid then .long nodeid else .short nodeid) data)
  else advertise network nodeid data

/-- The node id field of an advertisement. -/
def advertised (frame : List UInt8) : NodeIdField :=
  ⟨frame.getD 3 0, frame.getD 24 0, frame.getD 25 0⟩

/-- The end of the handler leaves the bytes apart from the command, the properties and the home
id. -/
theorem getD_advertise (nodeid : UInt16) (data : Buffer) {i : ℕ} (hi : i < advertisementSize)
    (hplace : 2 < i ∧ (i < 20 ∨ 24 ≤ i)) :
      (advertise network nodeid data).getD i 0 = data.byte i := by
  obtain ⟨hfront, hhome⟩ := hplace
  have hcommand : ¬(1 ≤ i ∧ i < 1 + 1) := by omega
  have hproperties : ¬(2 ≤ i ∧ i < 2 + 1) := by omega
  have hhomeId : ¬(20 ≤ i ∧ i < 20 + 4) := by omega
  rw [advertise, Buffer.getD_load hi, Nat.zero_add]
  simp only [Buffer.byte_write, List.length_cons, List.length_nil, Nat.reduceAdd]
  rw [if_neg hproperties, if_neg hhomeId, if_neg hcommand]

/-- What was written as the node id is what the advertisement has. -/
@[simp]
theorem advertised_advertise (nodeid : UInt16) (field : NodeIdField) (data : Buffer) :
    advertised (advertise network nodeid (putNodeId field data)) = field := by
  have hnode : (putNodeId field data).byte 3 = field.nodeID := rfl
  have hhigh : (putNodeId field data).byte 24 = field.extendedNodeidMSB := rfl
  have hlow : (putNodeId field data).byte 25 = field.extendedNodeidLSB := rfl
  unfold advertised
  rw [getD_advertise network nodeid _ (by decide) (by decide),
    getD_advertise network nodeid _ (by decide) (by decide),
    getD_advertise network nodeid _ (by decide) (by decide), hnode, hhigh, hlow]

end Handler

/-! ### Questions -/

/-- A node that the gateway may hold. -/
structure HeldNode where
  id : UInt16
  isHeld : IsClassicNode id.toNat ∨ IsLrNode id.toNat

namespace HeldNode

/-- How a node id is encoded. -/
def field (node : HeldNode) : NodeIdField :=
  if IsLrNode node.id.toNat then .long node.id else .short node.id

theorem id_ne_zero (node : HeldNode) : node.id ≠ 0 := by
  intro hzero
  have hheld := node.isHeld
  rw [hzero] at hheld
  exact absurd hheld (by decide)

/-- What was encoded is what is decoded. -/
theorem decoded_field (node : HeldNode) : node.field.decoded = node.id := by
  unfold field
  split_ifs with hlr
  · exact NodeIdField.decoded_long node.id
  · exact NodeIdField.decoded_short (node.isHeld.resolve_right hlr)

/-- The extension alone tells only the Long Range nodes. -/
theorem extension_field_iff (node : HeldNode) :
    node.field.extension = node.id ↔ IsLrNode node.id.toNat := by
  unfold field
  split_ifs with hlr
  · exact iff_of_true (NodeIdField.extension_long node.id) hlr
  · rw [NodeIdField.extension_short]
    exact iff_of_false node.id_ne_zero.symm hlr

/-- The comparison of the answer to a node solicitation tells the Long Range nodes, apart from the
first. -/
theorem isLrNode_iff {node : HeldNode} (hother : node.id ≠ 256) :
    IsLrNode node.id.toNat ↔ 0x100 < node.id := by
  have hne : node.id.toNat ≠ 256 := fun heq ↦ hother (UInt16.toNat_inj.mp heq)
  rw [UInt16.lt_iff_toNat_lt]
  change _ ↔ 256 < node.id.toNat
  constructor
  · rintro ⟨hmin, -⟩
    exact Nat.lt_of_le_of_ne hmin hne.symm
  · intro hlt
    refine node.isHeld.resolve_left fun hclassic ↦ ?_
    have hle : node.id.toNat ≤ 232 := hclassic.2
    omega

end HeldNode

/-- The frames of an inverse node solicitation. -/
inductive FrameVersion
  /-- `ZW_ZIP_INV_NODE_SOLICITATION_FRAME`. -/
  | v1
  /-- `ZW_ZIP_INV_NODE_SOLICITATION_V4_FRAME`. -/
  | v4
deriving DecidableEq, Repr

def FrameVersion.size : FrameVersion → UInt16
  | v1 => 4
  | v4 => 6

/-- The node id of an inverse solicitation is the one of a node. Only a classic node fits into the
older frame. -/
def FrameVersion.Encodes (node : HeldNode) (data : Buffer) : FrameVersion → Prop
  | v1 => IsClassicNode node.id.toNat ∧ data.byte 3 = node.id.toUInt8
  | v4 => (⟨data.byte 3, data.byte 4, data.byte 5⟩ : NodeIdField) = node.field

/-- An inverse node solicitation, in a buffer. -/
structure InvNodeSolicitation where
  node : HeldNode
  version : FrameVersion
  data : Buffer
  isCommand : data.byte 0 = commandClassZipNd ∧ data.byte 1 = zipInvNodeSolicitation
  encodes : version.Encodes node data

structure NodeSolicitation (network : Network) where
  node : HeldNode
  data : Buffer
  len : UInt16
  isCommand : data.byte 0 = commandClassZipNd ∧ data.byte 1 = zipNodeSolicitation
  belongs : nodeOfAddress network data = node.id

/-- A question to the gateway. -/
inductive Question (network : Network)
  | inverse (solicitation : InvNodeSolicitation)
  | address (solicitation : NodeSolicitation network)

namespace Question

variable {network : Network}

/-- The node that a question is about. -/
def node : Question network → HeldNode
  | inverse solicitation => solicitation.node
  | address solicitation => solicitation.node

/-- The answer to a question. -/
def answer (ripaddr : Vector UInt8 16) : Question network → List UInt8
  | inverse solicitation =>
    zipNdCommandHandler network ripaddr solicitation.data solicitation.version.size
  | address solicitation => zipNdCommandHandler network ripaddr solicitation.data solicitation.len

/-- The node id of an inverse solicitation is the encoded one. -/
def Extracted : Question network → Prop
  | inverse solicitation =>
    nodeidOf solicitation.data solicitation.version.size = solicitation.node.id
  | address _ => True

/-- The node id of a question is taken right, and the answer is about the same node for one that
decodes node ids by some rule. -/
def Right (ripaddr : Vector UInt8 16) (rule : NodeIdField → UInt16) (question : Question network) :
    Prop :=
  question.Extracted ∧ rule (advertised (question.answer ripaddr)) = question.node.id

/-- The handler does not mistake the node. -/
def Distinct : Question network → Prop
  | inverse solicitation => solicitation.version = .v1 ∨ IsLrNode solicitation.node.id.toNat
  | address solicitation => solicitation.node.id ≠ 256

/-- What the handler has taken from an inverse solicitation: the extension of a longer frame,
whatever the one byte says. -/
theorem nodeidOf_inverse (solicitation : InvNodeSolicitation) :
    nodeidOf solicitation.data solicitation.version.size =
      if solicitation.version = .v1 ∨ IsLrNode solicitation.node.id.toNat then solicitation.node.id
        else 0 := by
  have hencodes := solicitation.encodes
  cases hversion : solicitation.version with
  | v1 =>
    rw [hversion] at hencodes
    obtain ⟨⟨-, hle⟩, hbyte⟩ := hencodes
    have hsmall : solicitation.node.id.toNat < 256 := hle.trans_lt (by decide)
    rw [if_pos (Or.inl rfl)]
    calc nodeidOf solicitation.data FrameVersion.v1.size = (solicitation.data.byte 3).toUInt16 :=
          if_neg (by decide)
      _ = solicitation.node.id.toUInt8.toUInt16 := by rw [hbyte]
      _ = solicitation.node.id := NodeIdField.toUInt16_toUInt8 hsmall
  | v4 =>
    rw [hversion] at hencodes
    have hfield :
        nodeidOf solicitation.data FrameVersion.v4.size = solicitation.node.field.extension :=
      (if_pos (by decide)).trans (congrArg NodeIdField.extension hencodes)
    rw [hfield, HeldNode.field]
    by_cases hlr : IsLrNode solicitation.node.id.toNat
    · rw [if_pos hlr, if_pos (Or.inr hlr), NodeIdField.extension_long]
    · rw [if_neg hlr, if_neg (by simp [hlr]), NodeIdField.extension_short]

variable (ripaddr : Vector UInt8 16)

/-- The node id field of the answer to an inverse solicitation. -/
theorem advertised_inverse (solicitation : InvNodeSolicitation) :
    advertised ((inverse solicitation : Question network).answer ripaddr) =
      if IsLrNode (nodeidOf solicitation.data solicitation.version.size).toNat then
        .long (nodeidOf solicitation.data solicitation.version.size)
      else .short (nodeidOf solicitation.data solicitation.version.size) := by
  rw [answer, zipNdCommandHandler, if_pos solicitation.isCommand.2, advertised_advertise]

/-- The node id field of the answer to a node solicitation. -/
theorem advertised_address (solicitation : NodeSolicitation network) :
    advertised ((address solicitation).answer ripaddr) =
      if 0x100 < solicitation.node.id then .long solicitation.node.id
        else .short solicitation.node.id := by
  have hcommand := solicitation.isCommand.2
  have hother : solicitation.data.byte 1 ≠ zipInvNodeSolicitation := by
    rw [hcommand]
    decide
  rw [answer, zipNdCommandHandler, if_neg hother, if_pos hcommand]
  simp only [advertised_advertise, solicitation.belongs]

/-- Where the handler does not mistake the node, the answer has the encoding of it. -/
theorem advertised_of_distinct {question : Question network}
    (hdistinct : question.Distinct) :
    advertised (question.answer ripaddr) = question.node.field := by
  cases question with
  | inverse solicitation =>
    have hnode : nodeidOf solicitation.data solicitation.version.size = solicitation.node.id :=
      (nodeidOf_inverse solicitation).trans (if_pos hdistinct)
    rw [advertised_inverse, hnode]
    rfl
  | address solicitation =>
    rw [advertised_address]
    exact if_congr (HeldNode.isLrNode_iff hdistinct).symm rfl rfl

/-- A question is answered right by a rule exactly when the handler does not mistake the node and
the rule decodes the encoding of it. -/
theorem question_right_iff {rule : NodeIdField → UInt16} (hrule : rule (.short 0) = 0)
    (question : Question network) :
    question.Right ripaddr rule ↔ question.Distinct ∧
      rule question.node.field = question.node.id := by
  by_cases hdistinct : question.Distinct
  · have hextracted : question.Extracted := by
      cases question with
      | inverse solicitation => exact (nodeidOf_inverse solicitation).trans (if_pos hdistinct)
      | address solicitation => trivial
    rw [Right, advertised_of_distinct ripaddr hdistinct]
    exact and_congr_left fun _ ↦ iff_of_true hextracted hdistinct
  · refine iff_of_false (fun hright ↦ ?_) fun h ↦ hdistinct h.1
    cases question with
    | inverse solicitation =>
      have htaken : nodeidOf solicitation.data solicitation.version.size = 0 :=
        (nodeidOf_inverse solicitation).trans (if_neg hdistinct)
      exact solicitation.node.id_ne_zero (hright.1.symm.trans htaken)
    | address solicitation =>
      have hfirst : solicitation.node.id = 256 := not_not.mp hdistinct
      have hfield : advertised ((address solicitation).answer ripaddr) = .short 0 := by
        rw [advertised_address, hfirst]
        decide
      have hzero : 0 = solicitation.node.id := by
        rw [← hrule, ← hfield]
        exact hright.2
      exact solicitation.node.id_ne_zero hzero.symm

end Question

open Question

/-- For every question about a node that the gateway may hold, the node id is taken right and is the
one of the answer exactly when an inverse solicitation in the newer frame is about a Long Range
node, and the node of a node solicitation is not 256. For one who reads the extension of the answer
without looking at the one byte, as the handler does, only Long Range nodes are right besides. -/
theorem nodeIds_iff (network : Network) (ripaddr : Vector UInt8 16) (question : Question network) :
    (question.Right ripaddr NodeIdField.decoded ↔ question.Distinct) ∧
      (question.Right ripaddr NodeIdField.extension ↔
        question.Distinct ∧ IsLrNode question.node.id.toNat) := by
  constructor
  · rw [question_right_iff ripaddr (by decide)]
    exact and_iff_left question.node.decoded_field
  · rw [question_right_iff ripaddr (NodeIdField.extension_short 0)]
    exact and_congr_right fun _ ↦ question.node.extension_field_iff

/-- A gateway that holds the nodes 5 and 256, and finds node 256 at every address. -/
def sampleNetwork : Network where
  ipv4addrOfNode _ := none
  getNatAddr _ := 0
  ipOfNode node := Vector.replicate 15 0xFD |>.push node.toUInt8
  nodeOfIP _ := 256
  rdNodeExists node := node == 5 || node == 256
  myNodeID := 1
  homeIdHb := 0xC0FFEE01

/-- A node solicitation for the address of node 256 is answered about node 0. -/
theorem node256_not_right (ripaddr : Vector UInt8 16) :
    ∃ solicitation : NodeSolicitation sampleNetwork, solicitation.node.id = 256 ∧
      ¬ (Question.address solicitation).Right ripaddr NodeIdField.decoded := by
  let solicitation : NodeSolicitation sampleNetwork :=
    { node := ⟨256, by decide⟩
      data := ⟨32, fun i ↦ [commandClassZipNd, zipNodeSolicitation].getD i 0xFD⟩
      len := 32
      isCommand := ⟨rfl, rfl⟩
      belongs := by decide }
  refine ⟨solicitation, rfl, fun hright ↦ ?_⟩
  have hzero := hright.2
  rw [advertised_address] at hzero
  exact absurd hzero (by decide)

/-- Node 5 is asked for in the newer frame, with an extension of 0. The handler takes node 0, and
the answer is about node 0. -/
theorem nodeIds_fail :
    ¬∀ (network : Network) (ripaddr : Vector UInt8 16) (question : Question network),
      question.Right ripaddr NodeIdField.decoded := by
  intro hright
  let solicitation : InvNodeSolicitation :=
    { node := ⟨5, by decide⟩
      version := .v4
      data := ⟨26, fun i ↦ [commandClassZipNd, zipInvNodeSolicitation, 0, 5, 0, 0].getD i 0⟩
      isCommand := ⟨rfl, rfl⟩
      encodes := show (⟨5, 0, 0⟩ : NodeIdField) = _ by decide }
  have hnode : nodeidOf solicitation.data 6 = 5 :=
    (hright sampleNetwork (Vector.replicate 16 0xFD) (.inverse solicitation)).1
  exact absurd hnode (by decide)

end ZipGateway.UdpServer.NodeDiscovery
