import ZipGateway.ProvisioningList.Commands
import ZipGateway.ResourceDirectory.Model

/-!
# Service names

`rd_update_ep_name_and_location` of `src/src/ResourceDirectory.c` gives an endpoint a name and a
location, unless `rd_lookup_by_ep_name` finds an endpoint that has them. The lookup compares with
`mdns_str_cmp` of `src/src/mDNSService.c`, which compares its first argument with itself and so
always answers that the strings are equal; and `rd_lookup_by_ep_name` takes that answer for the name
as "different". It finds nothing, whatever the names are (`lookup_eq_none`), and the update keeps
names apart only where its callers do.

The interview that follows a new name is an input of its own: it ends in a node that can be renamed
again.
-/

set_option autoImplicit false

namespace ZipGateway.ResourceDirectory

open Function List ZipGateway.Lib
open ZipGateway.ProvisioningList (isValidMdnsName isValidMdnsLocation)

/-! ### Names -/

/-- `rd_ep_database_entry_t` with the node information, empty where the pointer is NULL. -/
structure NamedEp extends EpEntry where
  endpointInfo : List UInt8
deriving DecidableEq, Repr

/-- `rd_node_database_entry_t`: the state of the interview and the endpoints. -/
structure NamedNode where
  state : NodeState
  endpoints : List NamedEp
deriving DecidableEq, Repr

/-- `ndb`. -/
abbrev NameDb := Fin zwMaxNodes → Option NamedNode

/-- The place of an endpoint: the slot of its node, and its place in the list. -/
abbrev Place := Fin zwMaxNodes × ℕ

/-- The endpoint at a place. -/
def NameDb.epAt (ndb : NameDb) (place : Place) : Option NamedEp :=
  (ndb place.1).bind fun n ↦ n.endpoints[place.2]?

/-- `type_codes`. -/
def typeCodes : List (UInt8 × String) :=
  [(0x03, "Av Control Point"), (0x04, "Display"), (0x40, "Entry Control"),
    (0x01, "Generic Controller"),
    (0x31, "Meter"), (0x30, "Meter Pulse"), (0xff, "Non Interoperable"), (0x0f, "Repeater Slave"),
    (0x17, "Security Panel"), (0x50, "Semi Interoperable"), (0xa1, "Sensor Alarm"),
      (0x20, "Sensor Binary"),
    (0x21, "Sensor Multilevel"), (0x02, "Static Controller"), (0x10, "Switch Binary"),
    (0x11, "Switch Multilevel"), (0x12, "Switch Remote"), (0x13, "Switch Toggle"),
      (0x08, "Thermostat"),
    (0x16, "Ventilation"), (0x09, "Window Covering"), (0x15, "Zip Node"), (0x18, "Wall Controller"),
    (0x07, "Sensor Notification")]

/-- `get_gen_type_string`. -/
def getGenTypeString (genType : UInt8) : String := (typeCodes.lookup genType).getD "(unknown)"

def textBytes (text : String) : List UInt8 := text.toList.map fun c ↦ UInt8.ofNat c.toNat

/-- A number as `%0`*width*`x` prints it. -/
def hexDigits (width number : ℕ) : List UInt8 :=
  ((Nat.toDigits 16 number).map fun c ↦ UInt8.ofNat c.toNat).leftpad width 0x30

def uipHtonl (n : UInt32) : UInt32 :=
  ((n &&& (0xff : UInt32)) <<< 24) ||| ((n &&& (0xff00 : UInt32)) <<< 8) |||
    ((n >>> 8) &&& (0xff00 : UInt32)) ||| (n >>> 24)

/-- `rd_get_ep_name` with a buffer of 64 bytes. -/
def rdGetEpName (homeID : UInt32) (slot : Fin zwMaxNodes) (ep : NamedEp) : List UInt8 :=
  match ep.endpointName with
  | some name =>
    if ep.endpointNameLen ≠ 0 then name.take (min 64 ep.endpointNameLen.toNat) else generated
  | none => generated
where
  /-- The name of an endpoint that was given none. -/
  generated : List UInt8 :=
    let type := if 2 < ep.endpointInfo.length then getGenTypeString (ep.endpointInfo.headD 0)
      else "(unknown)"
    textBytes type ++ textBytes " [" ++ hexDigits 4 (uipHtonl homeID).toNat ++
      hexDigits 4 (slot.val + 1) ++ hexDigits 2 ep.endpointId.toNat ++ textBytes "]"

/-- `toupper`. -/
def toUpper (c : UInt8) : UInt8 := if 0x61 ≤ c ∧ c ≤ 0x7a then c - 0x20 else c

/-- `mdns_str_cmp`. Both sides of the comparison are the first string. -/
def mdnsStrCmp (s1 _s2 : List UInt8) (len : ℕ) : Bool :=
  (List.range len).all fun i ↦ toUpper (s1.getD i 0) = toUpper (s1.getD i 0)

/-! ### The lookup -/

/-- The endpoints in the order of `rd_ep_first(0)` and `rd_ep_next(0, ..)`, which stop at a node
without endpoints. -/
def rdEps (ndb : NameDb) : List (Fin zwMaxNodes × NamedEp) :=
  (((List.finRange zwMaxNodes).filterMap fun slot ↦ (ndb slot).map fun n ↦ (slot, n)).takeWhile
    fun entry ↦ entry.2.endpoints ≠ []).flatMap fun entry ↦ entry.2.endpoints.map fun ep ↦
      (entry.1, ep)

/-- `rd_lookup_by_ep_name`; `location` is `none` where the pointer is NULL. -/
def rdLookupByEpName (homeID : UInt32) (name : List UInt8) (location : Option (List UInt8))
    (ndb : NameDb) : Option NamedEp :=
  ((rdEps ndb).find? fun entry ↦
    let buf := rdGetEpName homeID entry.1 entry.2
    mdnsStrCmp buf name buf.length = false &&
      match location with
      | some location =>
        mdnsStrCmp (entry.2.endpointLocation.getD []) location entry.2.endpointLocLen.toNat
      | none => true).map Prod.snd

/-! ### The update -/

/-- The endpoint at a place, and the state of its node, are changed. -/
def NameDb.rename (ndb : NameDb) (place : Place) (state : NodeState) (ep : NamedEp) : NameDb :=
  update ndb place.1 ((ndb place.1).map fun n ↦
    { state := state, endpoints := n.endpoints.set place.2 ep })

/-- The endpoint with the new name and location. -/
def NamedEp.named (name : List UInt8) (location : Option (List UInt8)) (ep : NamedEp) : NamedEp :=
  let location := location.getD []
  { ep with
    endpointName := some name
    endpointNameLen := UInt8.ofNat name.length
    endpointLocation := if location = [] then none else some location
    endpointLocLen := UInt8.ofNat location.length
    state := .mdnsProbe }

/-- The checks of `rd_update_ep_name_and_location`. -/
def acceptsName (homeID : UInt32) (place : Place) (name : List UInt8)
    (location : Option (List UInt8)) (ndb : NameDb) : Bool :=
  (ndb place.1).map NamedNode.state = some .done &&
    isValidMdnsName name && isValidMdnsLocation (location.getD []) &&
    decide (name.length + (location.getD []).length ≤ 63) && decide (1 ≤ name.length) &&
    (rdLookupByEpName homeID name location ndb).isNone

/-- `rd_update_ep_name_and_location`. The two sizes are the lengths of the lists. -/
def rdUpdateEpNameAndLocation (homeID : UInt32) (place : Place) (name : List UInt8)
    (location : Option (List UInt8)) (ndb : NameDb) : NameDb :=
  match ndb.epAt place with
  | none => ndb
  | some ep =>
    if acceptsName homeID place name location ndb then
      ndb.rename place .mdnsEpProbe (ep.named name location)
    else ndb

/-- What happens to names. -/
inductive NameInput where
  | update (place : Place) (name : List UInt8) (location : Option (List UInt8))
  /-- `rd_update_ep_name`. -/
  | updateName (place : Place) (name : List UInt8)
  /-- `rd_update_ep_location`. -/
  | updateLocation (place : Place) (location : List UInt8)
  /-- The interview of a node comes to its end. -/
  | probeDone (slot : Fin zwMaxNodes)

/-- The name an endpoint was given, without what lies behind its length. -/
def NamedEp.givenName (ep : NamedEp) : List UInt8 :=
  (ep.endpointName.getD []).take ep.endpointNameLen.toNat

/-- The location an endpoint was given; `none` where the pointer is NULL. -/
def NamedEp.givenLocation (ep : NamedEp) : Option (List UInt8) :=
  ep.endpointLocation.map fun location ↦ location.take ep.endpointLocLen.toNat

/-- The arguments of the call of `rd_update_ep_name_and_location`, if there is one. -/
def updateArgs (ndb : NameDb) : NameInput → Option (Place × List UInt8 × Option (List UInt8))
  | .update place name location => some (place, name, location)
  | .updateName place name => (ndb.epAt place).map fun ep ↦ (place, name, ep.givenLocation)
  | .updateLocation place location =>
    (ndb.epAt place).map fun ep ↦ (place, ep.givenName, some location)
  | .probeDone _ => none

def nameStep (homeID : UInt32) (ndb : NameDb) (input : NameInput) : NameDb :=
  match updateArgs ndb input with
  | some (place, name, location) => rdUpdateEpNameAndLocation homeID place name location ndb
  | none =>
    match input with
    | .probeDone slot => update ndb slot ((ndb slot).map fun n ↦ { n with state := .done })
    | _ => ndb

/-! ### What the names are for -/

/-- Two texts are the same, without case. -/
def SameText (first second : List UInt8) : Prop := first.map toUpper = second.map toUpper

/-- The endpoint has this name and, where one is given, this location. -/
def HasName (homeID : UInt32) (name : List UInt8) (location : Option (List UInt8))
    (slot : Fin zwMaxNodes) (ep : NamedEp) : Prop :=
  SameText (rdGetEpName homeID slot ep) name ∧
    ∀ asked, location = some asked → SameText (ep.givenLocation.getD []) asked

/-- The endpoint was given this name and this location. -/
def NamedEp.Carries (ep : NamedEp) (name location : List UInt8) : Prop :=
  ep.givenName ≠ [] ∧ SameText ep.givenName name ∧ SameText (ep.givenLocation.getD []) location

/-- No two endpoints carry the same name and location that they were given. -/
def UniqueNames (ndb : NameDb) : Prop :=
  ∀ place other ep ep', ndb.epAt place = some ep → ndb.epAt other = some ep' →
    ep.Carries ep'.givenName (ep'.givenLocation.getD []) → place = other

/-- No other endpoint carries the name and location that are accepted. -/
def NameFree (homeID : UInt32) (ndb : NameDb) (input : NameInput) : Prop :=
  ∀ place name location, updateArgs ndb input = some (place, name, location) →
    ndb.epAt place ≠ none → acceptsName homeID place name location ndb = true →
    ∀ other ep, other ≠ place → ndb.epAt other = some ep → ¬ ep.Carries name (location.getD [])

section Lookup

variable (homeID : UInt32)

theorem mdnsStrCmp_eq_true (s1 s2 : List UInt8) (len : ℕ) : mdnsStrCmp s1 s2 len = true := by
  unfold mdnsStrCmp
  rw [all_eq_true]
  intro i _
  exact decide_eq_true rfl

/-- The lookup finds nothing. -/
theorem lookup_eq_none (name : List UInt8) (location : Option (List UInt8)) (ndb : NameDb) :
    rdLookupByEpName homeID name location ndb = none := by
  unfold rdLookupByEpName
  rw [Option.map_eq_none_iff, List.find?_eq_none]
  intro entry _
  dsimp only
  rw [mdnsStrCmp_eq_true]
  simp

end Lookup

section Names

variable {homeID : UInt32} {ndb : NameDb} {place : Place} {name : List UInt8}
  {location : Option (List UInt8)}

theorem SameText.symm {first second : List UInt8} (h : SameText first second) :
    SameText second first :=
  Eq.symm h

/-- After a renaming, the endpoint at the place is the new one and the others are as they were. -/
theorem epAt_rename {ep : NamedEp} (hep : ndb.epAt place = some ep) (state : NodeState)
    (ep' : NamedEp) (other : Place) : (ndb.rename place state ep').epAt other =
      if other = place then some ep' else ndb.epAt other := by
  obtain ⟨slot, i⟩ := place
  obtain ⟨slot', j⟩ := other
  unfold NameDb.epAt at hep
  obtain ⟨n, hn, hi⟩ := Option.bind_eq_some_iff.mp hep
  have hlt : i < n.endpoints.length := (List.getElem?_eq_some_iff.mp hi).1
  dsimp only at hn
  unfold NameDb.rename NameDb.epAt
  rcases eq_or_ne slot' slot with rfl | hslot
  · dsimp only
    rw [update_self, hn, Option.map_some, Option.bind_some]
    dsimp only
    rw [List.getElem?_set]
    rcases eq_or_ne j i with rfl | hij
    · rw [if_pos rfl, if_pos hlt, if_pos rfl]
    · rw [if_neg hij.symm, if_neg fun heq ↦ hij (congrArg Prod.snd heq), Option.bind_some]
  · dsimp only
    rw [update_of_ne hslot, if_neg fun heq ↦ hslot (congrArg Prod.fst heq)]

/-- The end of an interview leaves the endpoints alone. -/
theorem epAt_probeDone (slot : Fin zwMaxNodes) (other : Place) :
    NameDb.epAt (update ndb slot ((ndb slot).map fun n ↦ { n with state := .done })) other =
      ndb.epAt other := by
  unfold NameDb.epAt
  rcases eq_or_ne other.1 slot with heq | hslot
  · rw [heq, update_self]
    cases ndb slot with
    | none => rfl
    | some n => rfl
  · rw [update_of_ne hslot]

theorem length_of_acceptsName (haccepted : acceptsName homeID place name location ndb = true) :
    1 ≤ name.length ∧ name.length + (location.getD []).length ≤ 63 := by
  unfold acceptsName at haccepted
  simp only [Bool.and_eq_true, decide_eq_true_eq] at haccepted
  exact ⟨haccepted.1.2, haccepted.1.1.2⟩

theorem givenName_named (ep : NamedEp) (hlen : name.length ≤ 63) :
    (ep.named name location).givenName = name := by
  unfold NamedEp.givenName NamedEp.named
  dsimp only
  rw [Option.getD_some, UInt8.toNat_ofNat_of_lt' (Nat.lt_of_le_of_lt hlen (by decide)),
    take_length]

theorem givenLocation_named (ep : NamedEp) (hlen : (location.getD []).length ≤ 63) :
    (ep.named name location).givenLocation.getD [] = location.getD [] := by
  unfold NamedEp.givenLocation NamedEp.named
  dsimp only
  split_ifs with hempty
  · rw [hempty]
    rfl
  · rw [Option.map_some, Option.getD_some,
      UInt8.toNat_ofNat_of_lt' (Nat.lt_of_le_of_lt hlen (by decide)), take_length]

/-- An accepted update keeps names unique exactly when no other endpoint carries the new name and
location. -/
theorem uniqueNames_rename_iff (hunique : UniqueNames ndb) {ep : NamedEp}
    (hep : ndb.epAt place = some ep) (state : NodeState) {ep' : NamedEp}
    (hname : ep'.givenName ≠ []) : UniqueNames (ndb.rename place state ep') ↔
      ∀ other entry, other ≠ place → ndb.epAt other = some entry →
        ¬ entry.Carries ep'.givenName (ep'.givenLocation.getD []) := by
  constructor
  · intro hafter other entry hother hentry hcarries
    have hat : (ndb.rename place state ep').epAt other = some entry := by
      rw [epAt_rename hep, if_neg hother]
      exact hentry
    have hself : (ndb.rename place state ep').epAt place = some ep' := by
      rw [epAt_rename hep, if_pos rfl]
    exact hother (hafter other place entry ep' hat hself hcarries)
  · intro hfree first second entry entry' hfirst hsecond hcarries
    rw [epAt_rename hep] at hfirst hsecond
    split_ifs at hfirst hsecond with hplace hplace' hplace'
    · exact hplace.trans hplace'.symm
    · rw [Option.some.inj hfirst] at hfree hname
      obtain ⟨-, hsame, hlocation⟩ := hcarries
      refine absurd ⟨?_, hsame.symm, hlocation.symm⟩ (hfree second entry' hplace' hsecond)
      intro hempty
      rw [hempty] at hsame
      exact hname (map_eq_nil_iff.mp hsame)
    · rw [Option.some.inj hsecond] at hfree
      exact absurd hcarries (hfree first entry hplace hfirst)
    · exact hunique first second entry entry' hfirst hsecond hcarries

/-- One step keeps names unique exactly when the name and location that it gives are free. -/
theorem uniqueNames_step_iff (homeID : UInt32) (hunique : UniqueNames ndb) (input : NameInput) :
    UniqueNames (nameStep homeID ndb input) ↔ NameFree homeID ndb input := by
  unfold nameStep NameFree
  cases hargs : updateArgs ndb input with
  | none =>
    refine iff_of_true ?_ fun _ _ _ hsome ↦ absurd hsome.symm (Option.some_ne_none _)
    cases input with
    | probeDone slot =>
      intro first second entry entry' hfirst hsecond
      rw [epAt_probeDone] at hfirst hsecond
      exact hunique first second entry entry' hfirst hsecond
    | update place name location => exact hunique
    | updateName place name => exact hunique
    | updateLocation place location => exact hunique
  | some args =>
    obtain ⟨place, name, location⟩ := args
    dsimp only
    unfold rdUpdateEpNameAndLocation
    split
    · rename_i hnone
      refine iff_of_true hunique ?_
      intro place' name' location' heq hsome
      cases heq
      exact absurd hnone hsome
    · rename_i ep hep
      split_ifs with haccepted
      · obtain ⟨hpos, hshort⟩ := length_of_acceptsName haccepted
        have hgiven : (ep.named name location).givenName = name := givenName_named ep (by omega)
        have hname : (ep.named name location).givenName ≠ [] := by
          rw [hgiven]
          exact ne_nil_of_length_pos hpos
        rw [uniqueNames_rename_iff hunique hep .mdnsEpProbe hname, hgiven,
          givenLocation_named ep (by omega)]
        constructor
        · intro hfree place' name' location' heq _ _
          cases heq
          exact hfree
        · intro hfree
          exact hfree place name location
            rfl (fun hnone ↦ Option.some_ne_none _ (hep.symm.trans hnone)) haccepted
      · refine iff_of_true hunique ?_
        intro place' name' location' heq _ haccepted'
        cases heq
        exact absurd haccepted' haccepted

end Names

/-- The lookup answers as it should exactly when no endpoint has the name and the location. And
along a run of updates no two endpoints carry the same name and location, exactly when every update
that is accepted gives a name and location that no other endpoint carries. -/
theorem names_looked_up_iff (homeID : UInt32) (ndb : NameDb) :
    (∀ name location, ((rdLookupByEpName homeID name location ndb).isSome = true ↔
        ∃ place ep, ndb.epAt place = some ep ∧ HasName homeID name location place.1 ep) ↔
      ¬ ∃ place ep, ndb.epAt place = some ep ∧ HasName homeID name location place.1 ep) ∧
    (UniqueNames ndb → ∀ inputs : List NameInput,
      (∀ way, way <+: inputs → UniqueNames (run (nameStep homeID) ndb way)) ↔
        AllSteps (nameStep homeID) (NameFree homeID) ndb inputs) := by
  constructor
  · intro name location
    rw [lookup_eq_none]
    constructor
    · intro hiff hexists
      exact Bool.false_ne_true (hiff.mpr hexists)
    · intro hnone
      exact iff_of_false Bool.false_ne_true hnone
  · intro hunique inputs
    exact @forall_prefix_run_iff_allSteps _ _ (nameStep homeID) (NameFree homeID) UniqueNames
      (fun _ input hstate ↦ uniqueNames_step_iff homeID hstate input) ndb hunique inputs

/-- An endpoint 0 with the given name. -/
def namedRoot (name : Option (List UInt8)) : NamedEp where
  endpointId := 0
  state := .probeDone
  endpointName := name
  endpointNameLen := UInt8.ofNat (name.getD []).length
  endpointLocation := none
  endpointLocLen := 0
  endpointInfo := []

/-- Node 1, with the name it was given, and node 2 without one; both have been interviewed. -/
def twoNodes (name : Option (List UInt8)) : NameDb := fun slot ↦
  if slot.val = 0 then some ⟨.done, [namedRoot name]⟩
  else if slot.val = 1 then some ⟨.done, [namedRoot none]⟩
  else none

theorem epAt_twoNodes {name : Option (List UInt8)} {place : Place} {ep : NamedEp}
    (hep : (twoNodes name).epAt place = some ep) :
    place.1.val = 0 ∧ place.2 = 0 ∧ ep = namedRoot name ∨ ep = namedRoot none := by
  obtain ⟨slot, i⟩ := place
  unfold NameDb.epAt twoNodes at hep
  dsimp only at hep
  obtain ⟨n, hn, hi⟩ := Option.bind_eq_some_iff.mp hep
  split_ifs at hn with hfirst hsecond
  · rw [← Option.some.inj hn, List.getElem?_singleton] at hi
    split_ifs at hi with hzero
    exact .inl ⟨hfirst, hzero, (Option.some.inj hi).symm⟩
  · rw [← Option.some.inj hn, List.getElem?_singleton] at hi
    split_ifs at hi
    exact .inr (Option.some.inj hi).symm

/-- Node 1 is named, and its interview ends. -/
def nameFirstNode : List NameInput :=
  [.update (⟨0, by decide⟩, 0) [0x61] none, .probeDone ⟨0, by decide⟩]

/-- Nobody else has the name. -/
theorem names_looked_up_twoNodes :
    AllSteps (nameStep 0) (NameFree 0) (twoNodes none) nameFirstNode ∧
      ∀ way, way <+: nameFirstNode → UniqueNames (run (nameStep 0) (twoNodes none) way) := by
  have hunnamed : ∀ place ep name location, (twoNodes none).epAt place = some ep →
      ¬ ep.Carries name location := by
    intro place ep name location hep hcarries
    rcases epAt_twoNodes hep with ⟨-, -, rfl⟩ | rfl
    · exact hcarries.1 rfl
    · exact hcarries.1 rfl
  have hfree : AllSteps (nameStep 0) (NameFree 0) (twoNodes none) nameFirstNode := by
    refine ⟨?_, ?_, trivial⟩
    · intro place name location _ _ _ other ep _ hep
      exact hunnamed other ep _ _ hep
    · intro place name location hnone
      exact absurd hnone.symm (Option.some_ne_none _)
  refine ⟨hfree, ((names_looked_up_iff 0 (twoNodes none)).2 ?_ nameFirstNode).mpr hfree⟩
  intro place other ep ep' hep _ hcarries
  exact absurd hcarries (hunnamed place ep _ _ hep)

/-- Node 1 has the name `a`. The lookup does not find it, and node 2 is given the same name. -/
theorem name_not_found :
    (¬ ∀ (homeID : UInt32) (ndb : NameDb) (name : List UInt8) (location : Option (List UInt8)),
      (rdLookupByEpName homeID name location ndb).isSome = true ↔
        ∃ place ep, ndb.epAt place = some ep ∧ HasName homeID name location place.1 ep) ∧
    ¬ ∀ (homeID : UInt32) (ndb : NameDb), UniqueNames ndb → ∀ inputs : List NameInput,
      UniqueNames (run (nameStep homeID) ndb inputs) := by
  have hzero : (0 : ℕ) < zwMaxNodes := by decide
  have hone : (1 : ℕ) < zwMaxNodes := by decide
  have hfirst : (twoNodes (some [0x61])).epAt (⟨0, hzero⟩, 0) = some (namedRoot (some [0x61])) :=
    rfl
  have hsecond : (twoNodes (some [0x61])).epAt (⟨1, hone⟩, 0) = some (namedRoot none) := rfl
  have hgiven : (namedRoot (some [0x61])).givenName = [0x61] := rfl
  constructor
  · intro hclaim
    have hfound := (hclaim 0 (twoNodes (some [0x61])) [0x61] none).mpr
      ⟨_, _, hfirst, rfl, fun _ hsome ↦ absurd hsome.symm (Option.some_ne_none _)⟩
    rw [lookup_eq_none] at hfound
    exact Bool.false_ne_true hfound
  · intro hclaim
    have hunique : UniqueNames (twoNodes (some [0x61])) := by
      intro place other ep ep' hep hep' hcarries
      rcases epAt_twoNodes hep with ⟨hslot, hi, -⟩ | rfl
      · rcases epAt_twoNodes hep' with ⟨hslot', hi', -⟩ | rfl
        · exact Prod.ext (Fin.ext (hslot.trans hslot'.symm)) (hi.trans hi'.symm)
        · exact absurd (map_eq_nil_iff.mp hcarries.2.1) hcarries.1
      · exact absurd rfl hcarries.1
    have hstate : (twoNodes (some [0x61]) ⟨1, hone⟩).map NamedNode.state = some .done := rfl
    have haccepted : acceptsName 0 (⟨1, hone⟩, 0) [0x61] none (twoNodes (some [0x61])) = true := by
      unfold acceptsName
      rw [lookup_eq_none, hstate]
      decide +kernel
    have hafter := hclaim 0 _ hunique [.update (⟨1, hone⟩, 0) [0x61] none]
    rw [run_cons, run_nil, uniqueNames_step_iff 0 hunique] at hafter
    have hfree := hafter (⟨1, hone⟩, 0) [0x61] none rfl
      (fun hnone ↦ Option.some_ne_none _ (hsecond.symm.trans hnone)) haccepted (⟨0, hzero⟩, 0) _
      (fun heq ↦ Nat.zero_ne_one (congrArg (fun place : Place ↦ place.1.val) heq)) hfirst
    exact hfree ⟨fun hnone ↦ absurd (hgiven.symm.trans hnone) (cons_ne_nil _ _), rfl, rfl⟩

end ZipGateway.ResourceDirectory
