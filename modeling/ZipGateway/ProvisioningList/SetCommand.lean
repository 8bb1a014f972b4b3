import ZipGateway.ProvisioningList.Commands
import ZipGateway.ProvisioningList.Lookups

/-!
# A Provisioning Set

What a Set reads from its frame (`readTlvs_reads`) and what it stores for its entry
(`Tracks.store`). The TLVs are read by a loop that ends two bytes before the end of the frame, so
that a TLV without a value is not read there.
-/

set_option autoImplicit false

namespace ZipGateway.ProvisioningList

open Function List ZipGateway.Lib

/-! ### The TLVs of a frame -/

/-- The type of a TLV in a frame, without the critical flag. -/
def RawTlv.kind (tlv : RawTlv) : UInt8 := tlv.type >>> 1

/-- The last value that a list of TLVs has for a type. -/
def lastValue (kind : UInt8) (tlvs : List RawTlv) : Option (List UInt8) :=
  (tlvs.reverse.find? fun tlv ↦ tlv.kind == kind).map fun tlv ↦ tlv.value.val

theorem lastValue_cons (kind : UInt8) (tlv : RawTlv) (rest : List RawTlv) :
    lastValue kind (tlv :: rest) =
      (lastValue kind rest).or (if tlv.kind = kind then some tlv.value.val else none) := by
  unfold lastValue
  rw [reverse_cons, List.find?_append]
  cases rest.reverse.find? fun tlv ↦ tlv.kind == kind with
  | none =>
    by_cases hkind : tlv.kind = kind
    · simp [hkind]
    · simp [hkind]
  | some found => rfl

theorem toNat_length
    (value : Octets) : (UInt8.ofNat value.val.length).toNat = value.val.length := by
  rw [UInt8.toNat_ofNat']
  exact Nat.mod_eq_of_lt value.property

/-- The first byte of a value, or the marker when there is no TLV. -/
def firstByte (value : Option (List UInt8)) (missing : UInt32) : UInt32 :=
  match value with
  | none => missing
  | some bytes => (bytes.getD 0 0).toUInt32

/-- What the variables have after some TLVs were read. A boot mode without a value leaves
anything. -/
structure Reads (before after : SetFields) (tlvs : List RawTlv) : Prop where
  name : after.name.map Subtype.val = (lastValue pvsTlvTypeName tlvs).or
    (before.name.map Subtype.val)
  location : after.location.map Subtype.val =
    (lastValue pvsTlvTypeLocation tlvs).or (before.location.map Subtype.val)
  productType : after.productType.map Subtype.val =
    (lastValue pvsTlvTypeProductType tlvs).or (before.productType.map Subtype.val)
  productId : after.productId.map Subtype.val =
    (lastValue pvsTlvTypeProductId tlvs).or (before.productId.map Subtype.val)
  uuid16 : after.uuid16.map Subtype.val =
    ((lastValue pvsTlvTypeUuid16 tlvs).map (List.take 17)).or (before.uuid16.map Subtype.val)
  status : after.provStatus = firstByte (lastValue pvsTlvTypeStatus tlvs) before.provStatus
  keys : after.provGrantedKeys = firstByte (lastValue pvsTlvTypeAdvJoin tlvs) before.provGrantedKeys
  interval : after.maxInclReqInterval =
    firstByte (lastValue pvsTlvTypeMaxInclReqInterval tlvs) before.maxInclReqInterval
  mode : lastValue pvsTlvTypeBootstrapMode tlvs ≠ some [] →
    after.bootstrapMode = firstByte (lastValue pvsTlvTypeBootstrapMode tlvs) before.bootstrapMode

theorem Reads.refl (fields : SetFields) : Reads fields fields [] where
  name := rfl
  location := rfl
  productType := rfl
  productId := rfl
  uuid16 := rfl
  status := rfl
  keys := rfl
  interval := rfl
  mode _ := rfl

theorem lastValue_singleton (kind : UInt8) (tlv : RawTlv) :
    lastValue kind [tlv] = if tlv.kind = kind then some tlv.value.val else none := by
  rw [lastValue_cons]
  rfl

theorem firstByte_or (last first : Option (List UInt8)) (missing : UInt32) :
    firstByte (last.or first) missing = firstByte last (firstByte first missing) := by
  cases last with
  | none => rfl
  | some bytes => rfl

theorem Reads.cons {before mid after : SetFields} {tlv : RawTlv} {rest : List RawTlv}
    (hfirst : Reads before mid [tlv]) (hrest : Reads mid after rest) :
    Reads before after (tlv :: rest) := by
  have hlast : ∀ kind, lastValue kind (tlv :: rest) =
      (lastValue kind rest).or (lastValue kind [tlv]) := by
    intro kind
    rw [lastValue_cons, lastValue_singleton]
  constructor
  · rw [hrest.name, hfirst.name, hlast, Option.or_assoc]
  · rw [hrest.location, hfirst.location, hlast, Option.or_assoc]
  · rw [hrest.productType, hfirst.productType, hlast, Option.or_assoc]
  · rw [hrest.productId, hfirst.productId, hlast, Option.or_assoc]
  · rw [hrest.uuid16, hfirst.uuid16, hlast, Option.map_or, Option.or_assoc]
  · rw [hrest.status, hfirst.status, hlast, firstByte_or]
  · rw [hrest.keys, hfirst.keys, hlast, firstByte_or]
  · rw [hrest.interval, hfirst.interval, hlast, firstByte_or]
  · rw [hlast]
    intro hvalue
    cases hlater : lastValue pvsTlvTypeBootstrapMode rest with
    | none =>
      rw [hlater, Option.none_or] at hvalue
      rw [hrest.mode (by rw [hlater]; simp), hfirst.mode hvalue, hlater, Option.none_or]
      rfl
    | some bytes =>
      rw [hlater, Option.some_or] at hvalue
      rw [hrest.mode (by rw [hlater]; exact hvalue), hlater]
      rfl

/-- The first byte behind the header of a TLV with a value is the first one of the value. -/
theorem getD_append {value : List UInt8} (hvalue : value ≠ []) (behind : List UInt8) :
    (value ++ behind).getD 0 0 = value.getD 0 0 := by
  cases value with
  | nil => exact absurd rfl hvalue
  | cons first rest => rfl

/-- One TLV is set in a map of TLVs, if it has a value. -/
def setValue (kind : UInt8) (value : Option (List UInt8)) (tlvs : UInt8 → Option (List UInt8)) :
    UInt8 → Option (List UInt8) :=
  match value with
  | none => tlvs
  | some bytes => if bytes = [] then tlvs else update tlvs kind (some bytes)

/-- The byte of a variable that is not the marker. -/
def markedByte (value : UInt32) : Option (List UInt8) :=
  if value = tlvNotPresent then none else some [value.toUInt8]

/-- The types that are stored as TLVs, in the order of the calls. -/
def storedKinds : List UInt8 :=
  [pvsTlvTypeName, pvsTlvTypeLocation, pvsTlvTypeAdvJoin, pvsTlvTypeProductType,
    pvsTlvTypeProductId, pvsTlvTypeMaxInclReqInterval, pvsTlvTypeUuid16]

/-- The values that are stored for these types. -/
def SetFields.values (fields : SetFields) : List (Option (List UInt8)) :=
  [fields.name.map Subtype.val, fields.location.map Subtype.val, markedByte fields.provGrantedKeys,
    fields.productType.map Subtype.val, fields.productId.map Subtype.val,
    markedByte fields.maxInclReqInterval, fields.uuid16.map Subtype.val]

/-- Some TLVs are set, one after another. -/
def setValues (values : List (UInt8 × Option (List UInt8))) (tlvs : UInt8 → Option (List UInt8)) :
    UInt8 → Option (List UInt8) :=
  values.foldl (fun tlvs pair ↦ setValue pair.1 pair.2 tlvs) tlvs

/-- The view of an entry after `SetFields.apply`. -/
def SetFields.onView (fields : SetFields) (view : View) : View :=
  (view.1, if fields.provStatus = tlvNotPresent then view.2.1 else fields.provStatus,
    setValues (storedKinds.zip fields.values) view.2.2)

/-- A slot holds an entry of a list whose map is another one but for that entry. -/
structure EntryAt (slots : Slots) (map : PvsMap) (i : Fin provisioningListSize) (dsk : List UInt8)
    (view : View) : Prop where
  tracks : Tracks slots (update map dsk (some view))
  content : (slots i).content = some (dsk, view)

section Store

variable {slots : Slots} {map : PvsMap} {i : Fin provisioningListSize} {dsk : List UInt8}
  {view : View}

theorem EntryAt.change (hentry : EntryAt slots map i dsk view) (change : Provision → Provision)
    (hok : (change (slots i)).Ok) (hlen : (change (slots i)).dskLen = (slots i).dskLen)
    (hdsk : (change (slots i)).dsk = (slots i).dsk) :
    EntryAt (slots.modify i change) map i dsk (change (slots i)).view := by
  obtain ⟨hused, hblock, -⟩ := Provision.content_eq_some_iff.mp hentry.content
  constructor
  · have htracks := hentry.tracks.change change hentry.content hok hlen hdsk
    rwa [update_idem] at htracks
  · rw [Slots.modify, update_self]
    refine Provision.content_eq_some_iff.mpr ⟨?_, hdsk.trans hblock, rfl⟩
    rw [Provision.Used, hlen]
    exact hused

theorem EntryAt.view_eq (hentry : EntryAt slots map i dsk view) : (slots i).view = view :=
  (Provision.content_eq_some_iff.mp hentry.content).2.2

theorem EntryAt.statusSet (hentry : EntryAt slots map i dsk view) (status : UInt32) :
    EntryAt (statusSet (some i) status slots) map i dsk (view.1, status, view.2.2) := by
  have hchange := hentry.change (fun provision ↦ { provision with status := status })
    ((hentry.tracks.inv.ok i).congr rfl rfl rfl) rfl rfl
  rw [← hentry.view_eq]
  exact hchange

theorem EntryAt.bootmodeSet (hentry : EntryAt slots map i dsk view) (bootmode : UInt32) :
    EntryAt (bootmodeSet (some i) bootmode slots) map i dsk (bootmode, view.2) := by
  have hchange := hentry.change (fun provision ↦ { provision with bootmode := bootmode })
    ((hentry.tracks.inv.ok i).congr rfl rfl rfl) rfl rfl
  rw [← hentry.view_eq]
  exact hchange

theorem EntryAt.tlvSet (hentry : EntryAt slots map i dsk view) (kind : UInt8) (value : Octets) :
    EntryAt (tlvSet (some i) kind (some value) slots) map i dsk
      (view.1, view.2.1, setValue kind (some value.val) view.2.2) := by
  have hused := (Provision.content_eq_some_iff.mp hentry.content).1
  unfold ProvisioningList.tlvSet setValue
  dsimp only
  by_cases hvalue : value.val = []
  · rw [if_neg fun h ↦ h.2 hvalue, if_pos hvalue]
    exact hentry
  · rw [if_pos ⟨hused, hvalue⟩, if_neg hvalue]
    have hchange := hentry.change
      (fun provision ↦ { provision with tlvList := pvsTlvSet ⟨kind, value.val⟩ provision.tlvList })
      ((hentry.tracks.inv.ok i).pvsTlvSet hused kind hvalue) rfl rfl
    simp only [Provision.view, tlvGet_pvsTlvSet] at hchange
    rw [← hentry.view_eq]
    exact hchange

theorem EntryAt.tlvSet_field (hentry : EntryAt slots map i dsk view) (kind : UInt8)
    (value : Option Octets) :
    EntryAt (if value.isSome then ProvisioningList.tlvSet (some i) kind value slots
      else slots) map i dsk (view.1, view.2.1, setValue kind (value.map Subtype.val) view.2.2) := by
  cases value with
  | none => exact hentry
  | some value => exact hentry.tlvSet kind value

theorem EntryAt.tlvSet_byte (hentry : EntryAt slots map i dsk view) (kind : UInt8)
    (value : UInt32) : EntryAt (if value ≠ tlvNotPresent then
        ProvisioningList.tlvSet (some i) kind (some (octets 1 [value.toUInt8])) slots else slots)
      map i dsk (view.1, view.2.1, setValue kind (markedByte value) view.2.2) := by
  by_cases hmarker : value = tlvNotPresent
  · rw [if_neg (not_not.mpr hmarker), markedByte, if_pos hmarker]
    exact hentry
  · rw [if_pos hmarker, markedByte, if_neg hmarker]
    exact hentry.tlvSet kind (octets 1 [value.toUInt8])

theorem EntryAt.apply (hentry : EntryAt slots map i dsk view) (fields : SetFields) :
    EntryAt (fields.apply (some i) slots) map i dsk (fields.onView view) := by
  have hstatus : EntryAt (if fields.provStatus ≠ tlvNotPresent then
      ProvisioningList.statusSet (some i) fields.provStatus slots else slots) map i dsk
      (view.1, (if fields.provStatus = tlvNotPresent then view.2.1 else fields.provStatus),
        view.2.2) := by
    by_cases hmarker : fields.provStatus = tlvNotPresent
    · rw [if_neg (not_not.mpr hmarker), if_pos hmarker]
      exact hentry
    · rw [if_pos hmarker, if_neg hmarker]
      exact hentry.statusSet _
  have hname := hstatus.tlvSet_field pvsTlvTypeName fields.name
  have hlocation := hname.tlvSet_field pvsTlvTypeLocation fields.location
  have hjoin := hlocation.tlvSet_byte pvsTlvTypeAdvJoin fields.provGrantedKeys
  have htype := hjoin.tlvSet_field pvsTlvTypeProductType fields.productType
  have hid := htype.tlvSet_field pvsTlvTypeProductId fields.productId
  have hinterval := hid.tlvSet_byte pvsTlvTypeMaxInclReqInterval fields.maxInclReqInterval
  exact hinterval.tlvSet_field pvsTlvTypeUuid16 fields.uuid16

/-- What the map has for a DSK, or the values of a new entry. -/
def entryBefore (map : PvsMap) (dsk : List UInt8) : View :=
  (map dsk).getD (pvsBootmodeSmartStart, pvsStatusPending, fun _ ↦ none)

/-- The view of the entry after a Set. -/
def SetFields.stored (fields : SetFields) (before : View) : View :=
  fields.onView
    (if fields.bootstrapMode = tlvNotPresent then before.1 else fields.bootstrapMode, before.2)

/-- A Set stores its entry, and changes no other one. -/
theorem Tracks.store (htracks : Tracks slots map) (fields : SetFields) {dsk : Octets}
    (hlong : ¬ dsk.val.length < 4) (hroom : map dsk.val ≠ none ∨ ∃ i, ¬ (slots i).Used) :
    ∃ i, EntryAt (fields.store dsk slots) map i dsk.val
      (fields.stored (entryBefore map dsk.val)) := by
  unfold SetFields.store SetFields.stored entryBefore
  cases hfound : devGet dsk.val slots with
  | some i =>
    obtain ⟨hcontent, hmap⟩ := htracks.devGet_some hfound
    have hentry : EntryAt slots map i dsk.val (slots i).view := by
      refine ⟨?_, hcontent⟩
      rw [← hmap, update_eq_self]
      exact htracks
    refine ⟨i, ?_⟩
    rw [hmap, Option.getD_some]
    by_cases hmarker : fields.bootstrapMode = tlvNotPresent
    · simp only [hmarker, ne_eq, not_true_eq_false, if_false, if_true]
      exact hentry.apply fields
    · simp only [hmarker, ne_eq, not_false_eq_true, if_true, if_false]
      exact (hentry.bootmodeSet _).apply fields
  | none =>
    have hmap := htracks.devGet_none hfound
    obtain ⟨k, hunused⟩ := hroom.resolve_left (not_not.mpr hmap)
    have hblank : (fun provision : Provision ↦ provision.dskLen == 0) (slots k) = true :=
      beq_iff_eq.mpr (not_not.mp hunused)
    obtain ⟨j, hslot⟩ := @firstSlot_isSome _ _ (fun provision : Provision ↦ provision.dskLen == 0)
      slots k hblank
    have hadded : ∀ mode, devAddIn true dsk mode slots =
        (ProvisioningList.pvsDevAdd dsk mode slots, .slot (some j)) := by
      intro mode
      unfold devAddIn ProvisioningList.pvsDevAddIn
      rw [if_neg hlong, hfound, hslot]
      exact if_neg (by simp)
    have hentry : ∀ mode, EntryAt (ProvisioningList.pvsDevAdd dsk mode slots) map j dsk.val
        (mode, pvsStatusPending, fun _ ↦ none) := by
      intro mode
      refine ⟨htracks.pvsDevAdd mode hlong hfound hslot, ?_⟩
      rw [pvsDevAdd_of_slot hslot, update_self]
      exact Provision.content_eq_some_iff.mpr ⟨Provision.used_added mode hlong, rfl, rfl⟩
    refine ⟨j, ?_⟩
    rw [hmap, Option.getD_none]
    simp only [hadded]
    exact (hentry _).apply fields

end Store

end ZipGateway.ProvisioningList
