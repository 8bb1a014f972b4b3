import Mathlib.Tactic

/-!
# The extended node information of an endpoint

`gen_extnif` of `src/src/mDNSService.c` writes the command classes of an endpoint to a buffer, in
the form in which LAN hosts get them. Both arrays are lists of bytes here, and an access outside of
one of them has no result. `classes` and `mapped` say what the function is for, and `genExtnif_iff`
when it does that.
-/

set_option autoImplicit false

namespace ZipGateway.Mdns.ExtendedNif

open List

/-! ### The function -/

def commandClassSensorMultilevel : UInt8 := 0x31
def commandClassMeter : UInt8 := 0x32
def commandClassTransportService : UInt8 := 0x55
def commandClassIpAssociation : UInt8 := 0x5C
def commandClassMultiInstance : UInt8 := 0x60
def commandClassZipNaming : UInt8 := 0x68
def commandClassAlarm : UInt8 := 0x71
def commandClassAssociation : UInt8 := 0x85
def commandClassSecurity : UInt8 := 0x98
def commandClassSensorAlarm : UInt8 := 0x9C

/-- The fields of `rd_ep_database_entry_t` that are used. The length of `endpoint_info` is a
byte. -/
structure Endpoint where
  endpointInfo : List UInt8
  endpointId : UInt8
  endpointInfoLen : endpointInfo.length < 256

/-- `*p++ = c`, in a buffer of `size` bytes. -/
def put (size : ℕ) (c : UInt8) (enif : List UInt8) : Option (List UInt8) :=
  if enif.length < size then some (enif ++ [c]) else none

/-- Some bytes are put one after the other. -/
def putAll (size : ℕ) (bytes enif : List UInt8) : Option (List UInt8) :=
  bytes.foldlM (fun enif c ↦ put size c enif) enif

/-- A command class with a byte behind it that says what it is: the upper four bits are set. -/
def isExtended (c : UInt8) : Bool := c &&& 0xF0 == 0xF0

/-- The loop over the command classes. -/
def putClasses (size : ℕ) : List UInt8 → List UInt8 → Option (List UInt8)
  | [], enif => some enif
  | c :: rest, enif =>
    if isExtended c then
      match rest with
      | [] => none
      | d :: rest => (putAll size [c, d] enif).bind (putClasses size rest)
    else if c = commandClassMeter ∨ c = commandClassSensorMultilevel ∨ c = commandClassSensorAlarm ∨
        c = commandClassAlarm then
      (putAll size [c, 0] enif).bind (putClasses size rest)
    else if c = commandClassTransportService ∨ c = commandClassSecurity ∨
      c = commandClassMultiInstance then
      putClasses size rest enif
    else if c = commandClassAssociation then
      (putAll size [commandClassIpAssociation, c] enif).bind (putClasses size rest)
    else (putAll size [c] enif).bind (putClasses size rest)

/-- The generic and the specific device class, and the class of endpoints. -/
def header (ep : Endpoint) : List UInt8 :=
  ep.endpointInfo.take 2 ++ if 0 < ep.endpointId then [commandClassZipNaming] else []

/-- `gen_extnif`: the number that is returned, and what was written. -/
def genExtnif (ep : Endpoint) (size : UInt8) : Option (UInt8 × List UInt8) :=
  if ep.endpointInfo.length + 1 > size.toNat ∨ ep.endpointInfo.length < 2 then some (0, [])
  else
    ((putAll size.toNat (header ep) []).bind (putClasses size.toNat (ep.endpointInfo.drop 2))).map
      fun enif ↦
      (UInt8.ofNat enif.length, enif)

/-! ### What it is for -/

/-- A command class of one byte or of two. -/
inductive CommandClass
  | plain (c : UInt8)
  | extended (c d : UInt8)
  deriving DecidableEq

/-- The command classes in some bytes; there are none when the second byte of the last one is
missing. -/
def classes : List UInt8 → Option (List CommandClass)
  | [] => some []
  | c :: rest =>
    if isExtended c then
      match rest with
      | [] => none
      | d :: rest => (classes rest).map (.extended c d :: ·)
    else (classes rest).map (.plain c :: ·)

/-- The form of a command class for LAN hosts. -/
def mapped : CommandClass → List UInt8
  | .extended c d => [c, d]
  | .plain c =>
    if c ∈ [commandClassMeter, commandClassSensorMultilevel, commandClassSensorAlarm,
      commandClassAlarm] then [c, 0]
    else if c ∈ [commandClassTransportService, commandClassSecurity, commandClassMultiInstance] then
    [] else if c = commandClassAssociation then [commandClassIpAssociation, c]
    else [c]

/-- The extended node information; there is none without device classes. -/
def extendedNif (ep : Endpoint) : Option (List UInt8) :=
  if ep.endpointInfo.length < 2 then some []
  else (classes (ep.endpointInfo.drop 2)).map fun list ↦ header ep ++ list.flatMap mapped

/-- Nothing outside of the arrays is read or written. -/
def Inside (ep : Endpoint) (size : UInt8) : Prop :=
  ∃ len enif, genExtnif ep size = some (len, enif) ∧ enif.length ≤ size.toNat

/-- Nothing outside of the arrays is read or written, and the result is the extended node
information. -/
def Mapped (ep : Endpoint) (size : UInt8) : Prop :=
  ∃ len enif, genExtnif ep size = some (len, enif) ∧ enif.length ≤ size.toNat ∧
    extendedNif ep = some (enif.take len.toNat)

/-- The command classes are whole, and their form for LAN hosts has room. -/
def Room (ep : Endpoint) (size : UInt8) : Prop :=
  ∃ bytes, extendedNif ep = some bytes ∧ bytes.length ≤ size.toNat

/-! ### The loop -/

section Loop

variable {size : ℕ}

theorem putAll_eq (bytes enif : List UInt8) (henif : enif.length ≤ size) :
    putAll size bytes enif = if (enif ++ bytes).length ≤ size then some
      (enif ++ bytes) else none := by
  induction bytes generalizing enif with
  | nil =>
    rw [append_nil, if_pos henif]
    rfl
  | cons c rest ih =>
    have hstep : putAll size (c :: rest) enif = (put size c enif).bind (putAll size rest) := rfl
    rw [hstep, put]
    by_cases hroom : enif.length < size
    · have hone : (enif ++ [c]).length ≤ size := by
        rw [length_append]
        exact hroom
      rw [if_pos hroom, Option.bind_some, ih _ hone, append_assoc]
      rfl
    · have hlong : ¬ (enif ++ c :: rest).length ≤ size := by
        rw [length_append, length_cons]
        omega
      rw [if_neg hroom, if_neg hlong]
      rfl

/-- The form of a command class that the loop puts. -/
theorem putClasses_plain {c : UInt8} (hc : isExtended c = false) (rest enif : List UInt8)
    (henif : enif.length ≤ size) :
    putClasses size (c :: rest) enif = (putAll size (mapped (.plain c)) enif).bind
      (putClasses size rest) := by
  rw [putClasses.eq_def, mapped]
  simp only [hc, Bool.false_eq_true, if_false, mem_cons, not_mem_nil, or_false]
  split_ifs with hmeter hhidden hassociation
  · rfl
  · rw [putAll_eq _ _ henif, append_nil, if_pos henif]
    rfl
  · rfl
  · rfl

/-- What was put, with the forms of some command classes behind it, when that has room. -/
def putMapped (size : ℕ) (enif : List UInt8) (list : List CommandClass) : Option (List UInt8) :=
  if (enif ++ list.flatMap mapped).length ≤ size then some (enif ++ list.flatMap mapped) else none

/-- The form of one more command class is put first. -/
theorem putMapped_cons (item : CommandClass) {enif : List UInt8} (henif : enif.length ≤ size)
    {rest : List UInt8} (ih : ∀ enif : List UInt8, enif.length ≤ size →
      putClasses size rest enif = (classes rest).bind (putMapped size enif)) :
    (putAll size (mapped item) enif).bind (putClasses size rest) =
      ((classes rest).map (item :: ·)).bind (putMapped size enif) := by
  rw [putAll_eq _ _ henif, Option.bind_map]
  by_cases hroom : (enif ++ mapped item).length ≤ size
  · rw [if_pos hroom, Option.bind_some, ih _ hroom]
    congr 1
    funext list
    show putMapped size (enif ++ mapped item) list = putMapped size enif (item :: list)
    unfold putMapped
    rw [flatMap_cons, append_assoc]
  · rw [if_neg hroom, Option.bind_none]
    refine (Option.bind_eq_none_iff.mpr fun list _ ↦ if_neg fun hlong ↦ hroom ?_).symm
    rw [flatMap_cons, ← append_assoc, length_append] at hlong
    exact (Nat.le_add_right _ _).trans hlong

/-- The command classes that are left are put, when they are whole and there is room. -/
theorem putClasses_eq (bytes enif : List UInt8) (henif : enif.length ≤ size) :
    putClasses size bytes enif = (classes bytes).bind (putMapped size enif) := by
  induction bytes using classes.induct generalizing enif with
  | case1 =>
    show some enif = if (enif ++ []).length ≤ size then some (enif ++ []) else none
    rw [append_nil, if_pos henif]
  | case2 c hc =>
    rw [putClasses.eq_def, classes.eq_def]
    simp only [hc, if_true]
    rfl
  | case3 c hc d rest ih =>
    have hloop : putClasses size (c :: d :: rest) enif =
        (putAll size (mapped (.extended c d)) enif).bind (putClasses size rest) := by
      rw [putClasses.eq_def]
      simp only [hc, if_true]
      rfl
    have hclasses : classes (c :: d :: rest) = (classes rest).map (.extended c d :: ·) := by
      rw [classes.eq_def]
      simp only [hc, if_true]
    rw [hloop, hclasses, putMapped_cons _ henif ih]
  | case4 c rest hc ih =>
    have hclasses : classes (c :: rest) = (classes rest).map (.plain c :: ·) := by
      rw [classes.eq_def]
      exact if_neg hc
    rw [putClasses_plain (Bool.eq_false_iff.mpr hc) rest enif henif, hclasses,
      putMapped_cons _ henif ih]

end Loop

/-! ### The whole list -/

section Whole

variable {ep : Endpoint} {size : UInt8}

theorem length_header_le (ep : Endpoint) : (header ep).length ≤ 3 := by
  unfold header
  rw [length_append]
  have htake := length_take_le 2 ep.endpointInfo
  split_ifs
  · exact Nat.add_le_add htake le_rfl
  · exact htake.trans (by decide)

/-- A list of classes that is not refused is put when it has room. -/
theorem genExtnif_of_accepted (hlen : 2 ≤ ep.endpointInfo.length)
    (hsize : ep.endpointInfo.length + 1 ≤ size.toNat) :
    genExtnif ep size = (extendedNif ep).bind fun bytes ↦
      if bytes.length ≤ size.toNat then some (UInt8.ofNat bytes.length, bytes) else none := by
  have hheader : (header ep).length ≤ size.toNat := (length_header_le ep).trans (by omega)
  have hfirst : putAll size.toNat (header ep) [] = some (header ep) := by
    rw [putAll_eq _ _ (Nat.zero_le _), nil_append, if_pos hheader]
  have hguard : ¬ (ep.endpointInfo.length + 1 > size.toNat ∨ ep.endpointInfo.length < 2) := by omega
  unfold genExtnif extendedNif
  rw [if_neg hguard, if_neg (by omega), hfirst, Option.bind_some, putClasses_eq _ _ hheader,
    Option.map_bind, Option.bind_map]
  congr 1
  funext list
  show (putMapped size.toNat (header ep) list).map _ =
    if (header ep ++ list.flatMap mapped).length ≤ size.toNat then
    some (UInt8.ofNat (header ep ++ list.flatMap mapped).length, header ep ++ list.flatMap mapped)
      else none
  unfold putMapped
  split_ifs <;> rfl

/-- Nothing is written of a list of classes that is refused. -/
theorem genExtnif_of_refused
    (h : ep.endpointInfo.length < 2 ∨ size.toNat < ep.endpointInfo.length + 1) :
    genExtnif ep size = some (0, []) := if_pos h.symm

/-- The result of a list that is not refused is there just when it has room, and it is the right one
then. -/
theorem accepted_iff (hlen : 2 ≤ ep.endpointInfo.length)
    (hsize : ep.endpointInfo.length + 1 ≤ size.toNat) :
    (Inside ep size ↔ Room ep size) ∧ (Mapped ep size ↔ Room ep size) := by
  unfold Inside Mapped Room
  rw [genExtnif_of_accepted hlen hsize]
  cases extendedNif ep with
  | none =>
    refine ⟨iff_of_false ?_ ?_, iff_of_false ?_ ?_⟩ <;> simp
  | some bytes =>
    by_cases hroom : bytes.length ≤ size.toNat
    · have hbytes := size.toNat_lt
      have htake : bytes.take (UInt8.ofNat bytes.length).toNat = bytes := by
        rw [UInt8.toNat_ofNat', Nat.mod_eq_of_lt (by omega), take_length]
      rw [Option.bind_some, if_pos hroom]
      exact ⟨iff_of_true ⟨_, _, rfl, hroom⟩ ⟨bytes, rfl, hroom⟩,
        iff_of_true ⟨_, _, rfl, hroom, congrArg some htake.symm⟩ ⟨bytes, rfl, hroom⟩⟩
    · have hnoroom : ¬ ∃ other, some bytes = some other ∧ other.length ≤ size.toNat := by
        rintro ⟨other, heq, hother⟩
        obtain rfl := Option.some.inj heq
        exact hroom hother
      rw [Option.bind_some, if_neg hroom]
      refine ⟨iff_of_false ?_ hnoroom, iff_of_false ?_ hnoroom⟩ <;>
      · rintro ⟨_, _, hsome, -⟩
        cases hsome

/-- The information of an endpoint has no classes without the device classes. -/
theorem extendedNif_of_short (hlen : ep.endpointInfo.length < 2) : extendedNif ep = some [] :=
  if_pos hlen

theorem extendedNif_ne_nil (hlen : 2 ≤ ep.endpointInfo.length) : extendedNif ep ≠ some [] := by
  unfold extendedNif
  rw [if_neg (by omega)]
  intro hnil
  obtain ⟨list, -, heq⟩ := Option.map_eq_some_iff.mp hnil
  have hheader : header ep = [] := (append_eq_nil_iff.mp heq).1
  have htake : ep.endpointInfo.take 2 = [] := (append_eq_nil_iff.mp hheader).1
  have hlength := congrArg List.length htake
  rw [length_take_of_le hlen] at hlength
  cases hlength

end Whole

/-- Nothing outside of the arrays is touched just when the information is refused, or is whole and
has room. The result is right just when there are no device classes, or when the information is not
refused, is whole and has room. -/
theorem genExtnif_iff (ep : Endpoint) (size : UInt8) :
    (Inside ep size ↔ ep.endpointInfo.length < 2 ∨ size.toNat < ep.endpointInfo.length + 1 ∨
      Room ep size) ∧ (Mapped ep size ↔
        ep.endpointInfo.length < 2 ∨ ep.endpointInfo.length + 1 ≤ size.toNat ∧ Room ep size) := by
  by_cases hlen : ep.endpointInfo.length < 2
  · have hnone : genExtnif ep size = some (0, []) := genExtnif_of_refused (Or.inl hlen)
    exact ⟨iff_of_true ⟨_, _, hnone, Nat.zero_le _⟩ (Or.inl hlen),
      iff_of_true ⟨_, _, hnone, Nat.zero_le _, extendedNif_of_short hlen⟩ (Or.inl hlen)⟩
  · by_cases hsize : size.toNat < ep.endpointInfo.length + 1
    · have hnone : genExtnif ep size = some (0, []) := genExtnif_of_refused (Or.inr hsize)
      refine ⟨iff_of_true ⟨_, _, hnone, Nat.zero_le _⟩ (Or.inr (Or.inl hsize)),
        iff_of_false ?_ (by omega)⟩
      rintro ⟨len, enif, hsome, -, hnif⟩
      rw [hnone] at hsome
      obtain ⟨rfl, rfl⟩ := Prod.mk.inj (Option.some.inj hsome)
      exact extendedNif_ne_nil (by omega) hnif
    · obtain ⟨hinside, hmapped⟩ := accepted_iff (Nat.le_of_not_lt hlen) (Nat.le_of_not_lt hsize)
      rw [hinside, hmapped]
      exact ⟨by simp only [hlen, hsize, false_or],
        by simp only [hlen, Nat.le_of_not_lt hsize, false_or, true_and]⟩

/-- Sixty-one classes that get a zero each have no room in the buffer of `add_txt_for_node`. -/
theorem genExtnif_fail : ¬ ∀ (ep : Endpoint) (size : UInt8), Mapped ep size := by
  intro hmapped
  let ep : Endpoint := ⟨4 :: 16 :: List.replicate 61 commandClassAlarm, 0, by decide⟩
  obtain ⟨len, enif, hsome, -⟩ := hmapped ep 64
  have hnone : genExtnif ep 64 = none := by decide +kernel
  rw [hnone] at hsome
  cases hsome

end ZipGateway.Mdns.ExtendedNif
