import ZipGateway.UdpServer.ExtHeader

/-!
# What the encoder of the header extension builds

`Built` is the invariant of the packet between the calls: which of the two forms the extension has,
where its size stands, and that the bytes of the options stand behind one another. A call keeps it
when the sizes do not overflow; `Right` follows from it, and fails for every other call that is not
rejected.
-/

set_option autoImplicit false

namespace ZipGateway.UdpServer.ExtHeader

open Lib List
open ClassicZipNode (zipHeaderSize sub16 flags1HdrExtIncl)

/-! ### Bytes of options -/

/-- An option that a call can have added. -/
structure ExtOption.Valid (option : ExtOption) : Prop where
  isWord : option.value.length < 65536
  isOther : option.type &&& optionTypeMask ≠ extZipPacketHeaderLength
  isShort : option.lenSize = .one → option.value.length ≤ 255

/-- The bytes of some options. -/
def encodedAll (options : List ExtOption) : List UInt8 := options.flatMap ExtOption.encoded

variable (options : List ExtOption) (option : ExtOption) {encoder : Encoder}

theorem length_encoded : option.encoded.length = option.size := by
  rw [ExtOption.encoded, ExtOption.size, length_cons, length_append, ExtOption.lengthField]
  cases option.lenSize with
  | one =>
    show 1 + option.value.length + 1 = 1 + 1 + option.value.length
    omega
  | two =>
    show 2 + option.value.length + 1 = 1 + 2 + option.value.length
    omega

theorem length_encodedAll : (encodedAll options).length = (options.map ExtOption.size).sum := by
  rw [encodedAll, length_flatMap]
  exact congrArg List.sum (map_congr_left fun option _ ↦ length_encoded option)

theorem encodedAll_append :
    encodedAll (options ++ [option]) = encodedAll options ++ option.encoded := by
  rw [encodedAll, flatMap_append, flatMap_singleton]
  rfl

theorem area_eq : area options = (encodedAll options).length + 1 := by
  rw [area, length_encodedAll, Nat.add_comm]

theorem area_append : area (options ++ [option]) = area options + option.size := by
  rw [area_eq, area_eq, encodedAll_append, length_append, length_encoded]
  omega

/-- A length of two bytes is what was written. -/
theorem sub16_of_le {a b : ℕ} (hle : b ≤ a) (hword : a < 65536) : sub16 a b = a - b := by
  unfold sub16
  omega

theorem length16_ofNat {length : ℕ} (hword : length < 65536) :
    length16 (UInt8.ofNat (length / 256)) (UInt8.ofNat length) = length := by
  unfold length16
  rw [UInt8.toNat_ofNat', UInt8.toNat_ofNat']
  omega

theorem length16_lt (high low : UInt8) : length16 high low < 65536 := by
  have hhigh : high.toNat < 256 := high.toNat_lt
  have hlow : low.toNat < 256 := low.toNat_lt
  unfold length16
  omega

section Decode

variable {packet : ℕ → UInt8}

/-- The length that stands in front of a value is read. -/
theorem lengthAt_of_standsAt {option : ExtOption} (hvalid : option.Valid) {pos : ℕ}
    (hstands : StandsAt packet (pos + 1) option.lengthField) :
    lengthAt packet pos option.lenSize = option.value.length := by
  have hshort := hvalid.isShort
  unfold ExtOption.lengthField at hstands
  cases hsize : option.lenSize with
  | one =>
    rw [hsize] at hstands
    have hbyte : packet (pos + 1) = UInt8.ofNat option.value.length := hstands 0 Nat.zero_lt_one
    have hle := hshort hsize
    rw [lengthAt, hbyte, UInt8.toNat_ofNat']
    omega
  | two =>
    rw [hsize] at hstands
    have hhigh : packet (pos + 1) = UInt8.ofNat (option.value.length / 256) :=
      hstands 0 Nat.zero_lt_two
    have hlow : packet (pos + 2) = UInt8.ofNat option.value.length := hstands 1 Nat.one_lt_two
    rw [lengthAt, hhigh, hlow, length16_ofNat hvalid.isWord]

theorem length_lengthField (option : ExtOption) :
    option.lengthField.length = option.lenSize.toNat := by
  rw [ExtOption.lengthField]
  cases option.lenSize with
  | one => rfl
  | two => rfl

/-- The option that stands at a position is decoded. -/
theorem optionAt_of_standsAt {option : ExtOption} (hvalid : option.Valid) {pos : ℕ}
    (hstands : StandsAt packet pos option.encoded) :
    optionAt packet pos option.lenSize = option := by
  have hsplit : option.encoded = [option.type] ++ (option.lengthField ++ option.value) := rfl
  rw [hsplit, standsAt_append, standsAt_append, length_lengthField] at hstands
  obtain ⟨htype, hlength, hvalue⟩ := hstands
  have htypeByte : packet pos = option.type := htype 0 Nat.zero_lt_one
  have hbytes : (List.range option.value.length).map
      (fun i ↦ packet (pos + 1 + option.lenSize.toNat + i)) = option.value := by
    have hload := @StandsAt.load_eq ⟨0, packet⟩ _ _ hvalue
    exact hload
  rw [optionAt, htypeByte, lengthAt_of_standsAt hvalid hlength, hbytes]

/-- The options that stand at a position are decoded. -/
theorem decodeFrom_of_standsAt {options : List ExtOption}
    (hvalid : ∀ option ∈ options, option.Valid) {stop pos : ℕ}
    (hstands : StandsAt packet pos (encodedAll options))
    (hstop : stop = pos + (encodedAll options).length) :
    decodeFrom packet stop (options.map ExtOption.lenSize) pos = some options := by
  induction options generalizing pos with
  | nil => exact if_pos hstop.symm
  | cons option rest ih =>
    have hsplit : encodedAll (option :: rest) = option.encoded ++ encodedAll rest := flatMap_cons
    rw [hsplit, length_append, length_encoded] at hstop
    rw [hsplit, standsAt_append, length_encoded] at hstands
    have hrest := ih (fun other hother ↦ hvalid other (mem_cons_of_mem _ hother)) hstands.2
      (hstop.trans (Nat.add_assoc ..).symm)
    rw [map_cons, decodeFrom, optionAt_of_standsAt (hvalid option mem_cons_self) hstands.1]
    rw [hrest]
    rfl

/-- The options that are decoded fill the extension. -/
theorem stop_of_decodeFrom {options : List ExtOption} {lenSizes : List OptLenSize} {stop pos : ℕ}
    (hdecode : decodeFrom packet stop lenSizes pos = some options) :
    stop = pos + (encodedAll options).length := by
  induction lenSizes generalizing pos options with
  | nil =>
    rw [decodeFrom] at hdecode
    split_ifs at hdecode with hend
    cases hdecode
    exact hend.symm
  | cons lenSize lenSizes ih =>
    rw [decodeFrom, Option.map_eq_some_iff] at hdecode
    obtain ⟨rest, hrest, rfl⟩ := hdecode
    have hsplit : encodedAll (optionAt packet pos lenSize :: rest) =
        (optionAt packet pos lenSize).encoded ++ encodedAll rest := flatMap_cons
    rw [ih hrest, hsplit, length_append, length_encoded, Nat.add_assoc]

end Decode

/-! ### Between the calls -/

def firstOption (size : ℕ) : ℕ := if 255 < size then zipHeaderSize + 5 else zipHeaderSize + 1

/-- The packet between the calls. -/
structure Built (encoder : Encoder) : Prop where
  flag : Extended encoder.packet ↔ encoder.options ≠ []
  sum : encoder.sum = total encoder.options
  size : encoder.options ≠ [] → payloadSize encoder.packet = total encoder.options
  long : encoder.options ≠ [] → (HasLengthOption encoder.packet ↔ 255 < area encoder.options)
  valid : ∀ option ∈ encoder.options, option.Valid
  bytes : StandsAt encoder.packet (firstOption (area encoder.options)) (encodedAll encoder.options)

theorem built_start (bare : BarePacket) : Built bare.start where
  flag := iff_of_false bare.isBare fun hsome ↦ hsome rfl
  sum := rfl
  size := fun hsome ↦ absurd rfl hsome
  long := fun hsome ↦ absurd rfl hsome
  valid := fun _ hmem ↦ absurd hmem not_mem_nil
  bytes := standsAt_nil

theorem total_of_short {options : List ExtOption} (hsome : options ≠ [])
    (hshort : area options ≤ 255) : total options = area options := by
  rw [total, if_neg hsome, if_pos hshort]

theorem total_of_long {options : List ExtOption} (hsome : options ≠ [])
    (hlong : 255 < area options) : total options = area options + 4 := by
  rw [total, if_neg hsome, if_neg (Nat.not_le.mpr hlong)]

theorem Built.decodes (hbuilt : Built encoder) : encoder.Decodes := by
  unfold Encoder.Decodes decode payloadSizeBefore
  by_cases hsome : encoder.options = []
  · have hbare : ¬Extended encoder.packet := fun hflag ↦ hbuilt.flag.mp hflag hsome
    rw [if_neg hbare, if_neg hbare, hbuilt.sum, hsome]
    exact ⟨rfl, rfl⟩
  · have hflag := hbuilt.flag.mpr hsome
    have hbytes := hbuilt.bytes
    rw [if_pos hflag, if_pos hflag, hbuilt.size hsome, hbuilt.sum]
    refine ⟨?_, rfl⟩
    have harea := area_eq encoder.options
    rcases Nat.lt_or_ge 255 (area encoder.options) with hlong | hshort
    · rw [if_pos ((hbuilt.long hsome).mpr hlong)]
      rw [firstOption, if_pos hlong] at hbytes
      refine decodeFrom_of_standsAt hbuilt.valid hbytes ?_
      rw [total_of_long hsome hlong]
      omega
    · have hnot : ¬HasLengthOption encoder.packet := fun hhas ↦
        absurd ((hbuilt.long hsome).mp hhas) (Nat.not_lt.mpr hshort)
      rw [if_neg hnot]
      rw [firstOption, if_neg (Nat.not_lt.mpr hshort)] at hbytes
      refine decodeFrom_of_standsAt hbuilt.valid hbytes ?_
      rw [total_of_short hsome hshort]
      omega

/-- The option with the size is there when it is needed. -/
theorem Built.longAlready_iff (hbuilt : Built encoder) :
    LongAlready encoder.packet ↔ 255 < area encoder.options := by
  by_cases hsome : encoder.options = []
  · refine iff_of_false (fun hlong ↦ hbuilt.flag.mp hlong.1 hsome) ?_
    rw [hsome]
    decide
  · exact (and_iff_right (hbuilt.flag.mpr hsome)).trans (hbuilt.long hsome)

/-- A new option goes behind the others. -/
theorem Built.newOptionOffset_eq (hbuilt : Built encoder) :
    zipHeaderSize + newOptionOffset encoder.packet =
      firstOption (area encoder.options) + (encodedAll encoder.options).length := by
  unfold newOptionOffset firstOption
  by_cases hsome : encoder.options = []
  · have hbare : ¬Extended encoder.packet := fun hflag ↦ hbuilt.flag.mp hflag hsome
    rw [if_neg hbare, hsome]
    rfl
  · have harea := area_eq encoder.options
    rw [if_pos (hbuilt.flag.mpr hsome), hbuilt.size hsome]
    rcases Nat.lt_or_ge 255 (area encoder.options) with hlong | hshort
    · rw [if_pos hlong, total_of_long hsome hlong]
      omega
    · rw [if_neg (Nat.not_lt.mpr hshort), total_of_short hsome hshort]
      omega

/-! ### The last writes of a call -/

section Writes

variable {scratch : Scratch} {bytes : List UInt8}

/-- A flag that was set is there. -/
theorem or_and_self (byte flag : UInt8) : (byte ||| flag) &&& flag = flag := by
  refine UInt8.toBitVec_inj.mp (BitVec.eq_of_getElem_eq fun i hi ↦ ?_)
  rw [UInt8.toBitVec_and, UInt8.toBitVec_or, BitVec.getElem_and, BitVec.getElem_or]
  cases flag.toBitVec[i] with
  | false => exact Bool.and_false _
  | true => rw [Bool.or_true, Bool.and_true]

/-- The flag is set. -/
theorem extended_putFlag : Extended (putFlag scratch).byte := by
  have hbyte : (putFlag scratch).byte 3 = scratch.byte 3 ||| flags1HdrExtIncl :=
    Scratch.byte_put_self
  unfold Extended
  rw [hbyte, or_and_self]
  decide

theorem byte_putFlag {i : ℕ} (hi : 3 < i) : (putFlag scratch).byte i = scratch.byte i :=
  Scratch.byte_put_of_ge hi

theorem standsAt_putFlag {start : ℕ} (hstands : StandsAt scratch.buffer.byte start bytes)
    (hstart : 3 < start) : StandsAt (putFlag scratch).byte start bytes :=
  hstands.write (.inl hstart)

/-- A size of one byte. -/
theorem built_short {size : ℕ} (hsize : size ≤ 255)
    (hstands : StandsAt scratch.buffer.byte (zipHeaderSize + 1) bytes) :
    let packet := (putFlag (scratch.put zipHeaderSize [UInt8.ofNat size])).byte
    (packet zipHeaderSize).toNat = size ∧ StandsAt packet (zipHeaderSize + 1) bytes := by
  intro packet
  constructor
  · have hbyte : packet zipHeaderSize = UInt8.ofNat size :=
      (byte_putFlag (by decide)).trans Scratch.byte_put_self
    rw [hbyte, UInt8.toNat_ofNat']
    omega
  · have hkept : StandsAt (scratch.put zipHeaderSize [UInt8.ofNat size]).buffer.byte
        (zipHeaderSize + 1) bytes :=
      hstands.write (.inl (Nat.le_refl (zipHeaderSize + 1)))
    exact standsAt_putFlag hkept (by decide)

/-- A size in an option. -/
theorem built_long {size : ℕ} (hsize : size < 65536)
    (hstands : StandsAt scratch.buffer.byte (zipHeaderSize + 5) bytes) :
    let packet := (putFlag (putLengthOption size scratch)).byte
    HasLengthOption packet ∧ payloadSize packet = size ∧
      StandsAt packet (zipHeaderSize + 5) bytes := by
  intro packet
  have hoption : StandsAt packet (zipHeaderSize + 1)
      [optionCriticalFlag ||| extZipPacketHeaderLength, 2, UInt8.ofNat (size / 256),
        UInt8.ofNat size] :=
    standsAt_putFlag standsAt_write (by decide)
  have hfirst : packet zipHeaderSize = 0xFF := by
    refine (byte_putFlag (by decide)).trans ?_
    exact (Scratch.byte_put_of_lt (Nat.lt_succ_self _)).trans Scratch.byte_put_self
  have htype : packet (zipHeaderSize + 1) = optionCriticalFlag ||| extZipPacketHeaderLength :=
    hoption 0 (Nat.succ_pos 3)
  have hhigh : packet (zipHeaderSize + 3) = UInt8.ofNat (size / 256) :=
    hoption 2 (Nat.lt_succ_of_lt (Nat.lt_succ_self 2))
  have hlow : packet (zipHeaderSize + 4) = UInt8.ofNat size := hoption 3 (Nat.lt_succ_self 3)
  have hlong : HasLengthOption packet := by
    refine ⟨hfirst, ?_⟩
    rw [htype]
    decide
  refine ⟨hlong, ?_, ?_⟩
  · rw [payloadSize, if_pos hlong, hhigh, hlow, length16_ofNat hsize]
  · have hkept : StandsAt (putLengthOption size scratch).buffer.byte (zipHeaderSize + 5) bytes :=
      (hstands.write (.inl (by decide))).write (.inl (Nat.le_refl (zipHeaderSize + 5)))
    exact standsAt_putFlag hkept (by decide)

end Writes

/-! ### One call -/

section Call

variable {encoder : Encoder} {call : Call}

/-- The call gets past the checks. -/
structure Accepts (encoder : Encoder) (call : Call) : Prop where
  isShort : ¬call.TooLong
  hasRoom : ¬call.bufsize < requiredBufferSize encoder.packet call.option

/-- A call that does not get past the checks returns 0 and writes nothing. -/
theorem addExtHeader_rejected (packet : ℕ → UInt8)
    (hrejected : call.TooLong ∨ call.bufsize < requiredBufferSize packet call.option) :
    addExtHeader packet call = (call.scratch packet, 0) := by
  unfold addExtHeader
  rcases hrejected with hlong | hroom
  · exact if_pos hlong
  · dsimp only
    rw [if_pos hroom, ite_self]

theorem step_rejected
    (hrejected : call.TooLong ∨ call.bufsize < requiredBufferSize encoder.packet call.option) :
    encoder.step call = encoder := by
  unfold Encoder.step
  rw [addExtHeader_rejected encoder.packet hrejected]
  rfl

theorem right_of_rejected (hbuilt : Built encoder)
    (hrejected : call.TooLong ∨ call.bufsize < requiredBufferSize encoder.packet call.option) :
    Right encoder call := by
  have hsame := step_rejected hrejected
  refine ⟨?_, fun _ ↦ ⟨fun i ↦ ?_, ?_⟩, ?_⟩
  · rw [addExtHeader_rejected encoder.packet hrejected]
    rfl
  · rw [addExtHeader_rejected encoder.packet hrejected]
    rfl
  · rw [hsame]
  · rw [hsame]
    exact hbuilt.decodes

/-- The buffer with the option, before the size is written. -/
def stored (encoder : Encoder) (call : Call) : Scratch :=
  (call.scratch encoder.packet).put (zipHeaderSize + newOptionOffset encoder.packet)
    call.option.encoded

/-- The three ways in which a call can end. -/
theorem addExtHeader_accepted (haccepts : Accepts encoder call) :
    addExtHeader encoder.packet call =
      if NeedsLengthOption encoder.packet call.option then
        (putFlag (putLengthOption ((payloadSizeAfter encoder.packet call.option + 4) % 65536)
            (moveOptions (payloadSizeAfter encoder.packet call.option) (stored encoder call))),
          sub16 ((payloadSizeAfter encoder.packet call.option + 4) % 65536)
            (payloadSizeBefore encoder.packet))
      else if 255 < payloadSizeAfter encoder.packet call.option then
        (putFlag (putLengthOption (payloadSizeAfter encoder.packet call.option)
          (stored encoder call)),
          sub16 (payloadSizeAfter encoder.packet call.option) (payloadSizeBefore encoder.packet))
      else
        (putFlag ((stored encoder call).put zipHeaderSize
            [UInt8.ofNat (payloadSizeAfter encoder.packet call.option)]),
          sub16 (payloadSizeAfter encoder.packet call.option)
            (payloadSizeBefore encoder.packet)) := by
  unfold addExtHeader
  dsimp only
  rw [if_neg haccepts.isShort, if_neg haccepts.hasRoom]
  rfl

/-- A call that gets past the checks writes the type of the option. -/
theorem written_accepted (haccepts : Accepts encoder call) :
    (addExtHeader encoder.packet call).1.written
      (zipHeaderSize + newOptionOffset encoder.packet) = true := by
  have hstored :
      (stored encoder call).written (zipHeaderSize + newOptionOffset encoder.packet) = true := by
    refine Scratch.written_put.mpr (.inl ⟨Nat.le_refl _, ?_⟩)
    rw [ExtOption.encoded, length_cons]
    omega
  have hput : ∀ {scratch : Scratch} {offset bytes}, scratch.written
    (zipHeaderSize + newOptionOffset encoder.packet) =
      true → (scratch.put offset bytes).written
        (zipHeaderSize + newOptionOffset encoder.packet) = true :=
    fun hwritten ↦ Scratch.written_put.mpr (.inr hwritten)
  rw [addExtHeader_accepted haccepts]
  split_ifs
  · exact hput (hput (hput (hput hstored)))
  · exact hput (hput (hput hstored))
  · exact hput (hput hstored)

/-- The option that is added is valid. -/
theorem valid_accepted (haccepts : Accepts encoder call) : call.option.Valid where
  isWord := call.isWord
  isOther := call.isOther
  isShort := fun hone ↦ Nat.not_lt.mp fun hlong ↦ haccepts.isShort ⟨hone, hlong⟩

/-- The options stand behind one another once the new one is written. -/
theorem stored_standsAt (hbuilt : Built encoder) (call : Call) :
    StandsAt (stored encoder call).buffer.byte (firstOption (area encoder.options))
      (encodedAll (encoder.options ++ [call.option])) := by
  have hplace := hbuilt.newOptionOffset_eq
  have hold : StandsAt (call.scratch encoder.packet).buffer.byte
      (firstOption (area encoder.options)) (encodedAll encoder.options) := hbuilt.bytes
  rw [encodedAll_append, standsAt_append, ← hplace]
  exact ⟨hold.write (.inr hplace.ge), standsAt_write⟩

/-- The first option is not the one with the size. -/
theorem firstType_ne {packet : ℕ → UInt8} {options : List ExtOption} {pos : ℕ}
    (hsome : options ≠ [])
    (hvalid : ∀ option ∈ options, option.Valid)
    (hstands : StandsAt packet pos (encodedAll options)) :
    packet pos &&& optionTypeMask ≠ extZipPacketHeaderLength := by
  obtain ⟨option, rest, rfl⟩ := exists_cons_of_ne_nil hsome
  have htype : packet pos = option.type := hstands 0 (Nat.succ_pos _)
  rw [htype]
  exact (hvalid option mem_cons_self).isOther

theorem append_ne_nil (options : List ExtOption) (option : ExtOption) : options ++ [option] ≠ [] :=
  append_ne_nil_of_right_ne_nil _ (cons_ne_nil _ _)

/-- Every option makes the extension larger. -/
theorem total_lt_append (options : List ExtOption) (option : ExtOption) :
    total options < total (options ++ [option]) := by
  have harea := area_append options option
  have hsize : 1 ≤ option.size :=
    Nat.le_trans (Nat.le_add_right 1 option.lenSize.toNat) (Nat.le_add_right _ _)
  have hpos : 1 ≤ area options := Nat.le_add_right 1 _
  unfold total
  rw [if_neg (append_ne_nil options option)]
  split_ifs <;> omega

/-- The size with the new option, when it does not overflow. -/
theorem payloadSizeAfter_eq (hbuilt : Built encoder)
    (hfits : total (encoder.options ++ [call.option]) < 65536) : payloadSizeAfter encoder.packet
      call.option = if 255 < area encoder.options then area (encoder.options ++ [call.option]) + 4
      else area (encoder.options ++ [call.option]) := by
  have hplace := hbuilt.newOptionOffset_eq
  have harea := area_append encoder.options call.option
  have hlength := area_eq encoder.options
  unfold payloadSizeAfter
  unfold firstOption at hplace
  unfold total at hfits
  rw [if_neg (append_ne_nil _ _)] at hfits
  rcases Nat.lt_or_ge 255 (area encoder.options) with hlong | hshort
  · rw [if_pos hlong] at hplace ⊢
    rw [if_neg (by omega)] at hfits
    rw [Nat.mod_eq_of_lt (by omega)]
    omega
  · rw [if_neg (Nat.not_lt.mpr hshort)] at hplace ⊢
    have hword : area (encoder.options ++ [call.option]) < 65536 := by
      split_ifs at hfits <;> omega
    rw [Nat.mod_eq_of_lt (by omega)]
    omega

theorem inside_putFlag {scratch : Scratch} :
    (putFlag scratch).inside = true ↔ scratch.inside = true ∧ 4 ≤ scratch.size := Scratch.inside_put

theorem inside_putLengthOption {scratch : Scratch} {size : ℕ} :
    (putLengthOption size scratch).inside = true ↔
      (scratch.inside = true ∧ zipHeaderSize + 1 ≤ scratch.size) ∧
        zipHeaderSize + 5 ≤ scratch.size :=
  Scratch.inside_put.trans (and_congr Scratch.inside_put Iff.rfl)

/-- The option stays inside when it ends there. -/
theorem inside_stored (hbuilt : Built encoder) (call : Call) :
    (stored encoder call).inside = true ↔
      firstOption (area encoder.options) + (encodedAll (encoder.options ++ [call.option])).length ≤
        call.bufsize.toNat := by
  have hplace := hbuilt.newOptionOffset_eq
  refine Scratch.inside_put.trans ((and_iff_right rfl).trans ?_)
  rw [hplace, encodedAll_append, length_append, Nat.add_assoc]
  exact Iff.rfl

/-- The packet after a call that gets past the checks and does not overflow the sizes. -/
structure Ends (encoder : Encoder) (call : Call) (added : Scratch × ℕ) : Prop where
  flag : Extended added.1.byte
  size : payloadSize added.1.byte = total (encoder.options ++ [call.option])
  long : HasLengthOption added.1.byte ↔ 255 < area (encoder.options ++ [call.option])
  bytes : StandsAt added.1.byte (firstOption (area (encoder.options ++ [call.option])))
    (encodedAll (encoder.options ++ [call.option]))
  returned : added.2 = sub16 (total (encoder.options ++ [call.option]))
    (payloadSizeBefore encoder.packet)
  inside : added.1.inside = true ↔
    zipHeaderSize + total (encoder.options ++ [call.option]) ≤ call.bufsize.toNat

theorem ends_accepted (hbuilt : Built encoder) (haccepts : Accepts encoder call)
    (hfits : total (encoder.options ++ [call.option]) < 65536) :
    Ends encoder call (addExtHeader encoder.packet call) := by
  have hafter := payloadSizeAfter_eq hbuilt hfits
  have harea := area_append encoder.options call.option
  have hlength := area_eq (encoder.options ++ [call.option])
  have hsome := append_ne_nil encoder.options call.option
  have hbytes := stored_standsAt hbuilt call
  have hlongAlready := hbuilt.longAlready_iff
  rw [addExtHeader_accepted haccepts]
  have hinside := inside_stored hbuilt call
  have hroom : (stored encoder call).size = call.bufsize.toNat := rfl
  rcases Nat.lt_or_ge 255 (area encoder.options) with hlong | hshort
  · -- The option with the size is there already.
    have hgrown : 255 < area (encoder.options ++ [call.option]) := by omega
    have htotal := total_of_long hsome hgrown
    have hfirst : ∀ {size}, 255 < size → firstOption size = zipHeaderSize + 5 :=
      fun hsize ↦ if_pos hsize
    rw [hfirst hlong] at hbytes hinside
    rw [if_pos hlong, ← htotal] at hafter
    have hneeds : ¬NeedsLengthOption encoder.packet call.option :=
      fun hneeds ↦ hneeds.2 (hlongAlready.mpr hlong)
    have hlarge : 255 < total (encoder.options ++ [call.option]) := by omega
    rw [if_neg hneeds, hafter, if_pos hlarge]
    obtain ⟨hhas, hsize, hstands⟩ := built_long hfits hbytes
    refine ⟨extended_putFlag, hsize, iff_of_true hhas hgrown, ?_, rfl, ?_⟩
    · rw [hfirst hgrown]
      exact hstands
    · have hputs :
          (putLengthOption (total (encoder.options ++ [call.option])) (stored encoder call)).size =
          call.bufsize.toNat := rfl
      dsimp only
      rw [inside_putFlag, inside_putLengthOption, hinside, hroom, hputs]
      omega
  have hfirst : firstOption (area encoder.options) = zipHeaderSize + 1 :=
    if_neg (Nat.not_lt.mpr hshort)
  rw [hfirst] at hbytes hinside
  rw [if_neg (Nat.not_lt.mpr hshort)] at hafter
  rcases Nat.lt_or_ge 255 (area (encoder.options ++ [call.option])) with hcrosses | hstays
  · -- The options are moved behind the new one with the size.
    have htotal := total_of_long hsome hcrosses
    have hbehind : firstOption (area (encoder.options ++ [call.option])) = zipHeaderSize + 5 :=
      if_pos hcrosses
    have hneeds : NeedsLengthOption encoder.packet call.option :=
      ⟨hafter ▸ hcrosses, fun hlong ↦ absurd (hlongAlready.mp hlong) (Nat.not_lt.mpr hshort)⟩
    have hcount : area (encoder.options ++ [call.option]) - 1 =
        (encodedAll (encoder.options ++ [call.option])).length := by omega
    have hload := hbytes.load_eq
    have hmoved : StandsAt
      (moveOptions (area (encoder.options ++ [call.option])) (stored encoder call)).buffer.byte
        (zipHeaderSize + 5) (encodedAll (encoder.options ++ [call.option])) := by
      unfold moveOptions
      rw [hcount, hload]
      exact standsAt_write
    rw [if_pos hneeds, hafter, ← htotal, Nat.mod_eq_of_lt hfits]
    obtain ⟨hhas, hsize, hstands⟩ := built_long hfits hmoved
    refine ⟨extended_putFlag, hsize, iff_of_true hhas hcrosses, ?_, rfl, ?_⟩
    · rw [hbehind]
      exact hstands
    · have hputs : (putLengthOption (total (encoder.options ++ [call.option]))
          (moveOptions (area (encoder.options ++ [call.option])) (stored encoder call))).size =
            call.bufsize.toNat := rfl
      have hmoves :
          (moveOptions (area (encoder.options ++ [call.option])) (stored encoder call)).size =
          call.bufsize.toNat := rfl
      have hmoveInside : (moveOptions (area (encoder.options ++ [call.option]))
        (stored encoder call)).inside = true ↔
          (stored encoder call).inside = true ∧
            zipHeaderSize + 5 + (encodedAll (encoder.options ++ [call.option])).length ≤
              call.bufsize.toNat := by
        unfold moveOptions
        rw [Scratch.inside_put, hcount, hload, hroom]
      dsimp only
      rw [inside_putFlag, inside_putLengthOption, hmoveInside, hinside, hmoves, hputs]
      omega
  · -- The size fits into the first byte.
    have htotal := total_of_short hsome hstays
    have hbehind : firstOption (area (encoder.options ++ [call.option])) = zipHeaderSize + 1 :=
      if_neg (Nat.not_lt.mpr hstays)
    have hsmall : ¬255 < payloadSizeAfter encoder.packet call.option :=
      hafter ▸ Nat.not_lt.mpr hstays
    have hneeds : ¬NeedsLengthOption encoder.packet call.option := fun hneeds ↦ hsmall hneeds.1
    rw [if_neg hneeds, if_neg hsmall, hafter]
    obtain ⟨hsize, hstands⟩ := built_short hstays hbytes
    have hvalid : ∀ option ∈ encoder.options ++ [call.option], option.Valid := by
      intro option hmem
      rcases mem_append.mp hmem with hold | hnew
      · exact hbuilt.valid option hold
      · rw [mem_singleton.mp hnew]
        exact valid_accepted haccepts
    have hnot : ¬HasLengthOption (putFlag ((stored encoder call).put zipHeaderSize
        [UInt8.ofNat (area (encoder.options ++ [call.option]))])).byte := fun hlong ↦
      firstType_ne hsome hvalid hstands hlong.2
    refine ⟨extended_putFlag, ?_, iff_of_false hnot (Nat.not_lt.mpr hstays), ?_, ?_, ?_⟩
    · rw [payloadSize, if_neg hnot, htotal]
      exact hsize
    · rw [hbehind]
      exact hstands
    · rw [htotal]
    · have hput : ((stored encoder call).put zipHeaderSize
          [UInt8.ofNat (area (encoder.options ++ [call.option]))]).size = call.bufsize.toNat := rfl
      dsimp only
      rw [inside_putFlag, Scratch.inside_put, hinside, hroom, hput]
      have hheader : zipHeaderSize = 7 := rfl
      simp only [length_singleton]
      omega

/-- A call that gets past the checks and does not overflow the sizes adds its option. -/
theorem returned_ne_zero (hbuilt : Built encoder) (haccepts : Accepts encoder call)
    (hfits : total (encoder.options ++ [call.option]) < 65536) :
    (addExtHeader encoder.packet call).2 =
        total (encoder.options ++ [call.option]) - total encoder.options ∧
      (addExtHeader encoder.packet call).2 ≠ 0 := by
  have hmore := total_lt_append encoder.options call.option
  have hends := ends_accepted hbuilt haccepts hfits
  have hbefore : payloadSizeBefore encoder.packet = total encoder.options :=
    hbuilt.decodes.2.trans hbuilt.sum
  have hreturned := hends.returned
  rw [hbefore, sub16_of_le (Nat.le_of_lt hmore) hfits] at hreturned
  exact ⟨hreturned, by omega⟩

theorem built_accepted (hbuilt : Built encoder) (haccepts : Accepts encoder call)
    (hfits : total (encoder.options ++ [call.option]) < 65536) : Built (encoder.step call) := by
  have hmore := total_lt_append encoder.options call.option
  have hends := ends_accepted hbuilt haccepts hfits
  obtain ⟨hreturned, hsome⟩ := returned_ne_zero hbuilt haccepts hfits
  have hoptions : (encoder.step call).options = encoder.options ++ [call.option] := if_neg hsome
  have hsum : (encoder.step call).sum = total (encoder.options ++ [call.option]) := by
    change encoder.sum + (addExtHeader encoder.packet call).2 = _
    rw [hreturned, hbuilt.sum]
    omega
  refine ⟨?_, ?_, ?_, ?_, ?_, ?_⟩ <;> rw [hoptions]
  · exact iff_of_true hends.flag (append_ne_nil _ _)
  · exact hsum
  · exact fun _ ↦ hends.size
  · exact fun _ ↦ hends.long
  · intro option hmem
    rcases mem_append.mp hmem with hold | hnew
    · exact hbuilt.valid option hold
    · rw [mem_singleton.mp hnew]
      exact valid_accepted haccepts
  · exact hends.bytes

/-- Only an extension whose size does not overflow can be decoded. -/
theorem total_lt_of_decodes {options : List ExtOption} {packet : ℕ → UInt8} (hsome : options ≠ [])
    (hdecode : decode packet (options.map ExtOption.lenSize) = some options) :
    total options < 65536 := by
  have harea := area_eq options
  unfold decode at hdecode
  by_cases hflag : Extended packet
  · rw [if_pos hflag] at hdecode
    have hstop := stop_of_decodeFrom hdecode
    have hle : total options ≤ area options + 4 := by
      unfold total
      split_ifs <;> omega
    unfold payloadSize at hstop
    by_cases hlong : HasLengthOption packet
    · rw [if_pos hlong, if_pos hlong] at hstop
      have hword := length16_lt (packet (zipHeaderSize + 3)) (packet (zipHeaderSize + 4))
      omega
    · rw [if_neg hlong, if_neg hlong] at hstop
      have hbyte : (packet zipHeaderSize).toNat < 256 := UInt8.toNat_lt _
      omega
  · have hmap : options.map ExtOption.lenSize ≠ [] := fun hnil ↦ hsome (map_eq_nil_iff.mp hnil)
    rw [if_neg hflag, if_neg hmap] at hdecode
    cases hdecode

/-- A call does what it should exactly when it is rejected or there is room for its option. -/
theorem right_iff_spares (hbuilt : Built encoder) : Right encoder call ↔ Spares encoder call := by
  by_cases hrejected : call.TooLong ∨ call.bufsize < requiredBufferSize encoder.packet call.option
  · refine iff_of_true (right_of_rejected hbuilt hrejected) ?_
    exact hrejected.imp_right .inl
  obtain ⟨hshort, hroom⟩ := not_or.mp hrejected
  have haccepts : Accepts encoder call := ⟨hshort, hroom⟩
  have hspares : Spares encoder call ↔
      total (encoder.options ++ [call.option]) < 65536 ∧
        (zipHeaderSize + total (encoder.options ++ [call.option]) : ℕ) ≤ call.bufsize :=
    (or_iff_right hshort).trans (or_iff_right hroom)
  rw [hspares]
  constructor
  · intro hright
    have hsome : (addExtHeader encoder.packet call).2 ≠ 0 := fun hzero ↦ by
      have hwritten := written_accepted haccepts
      rw [(hright.untouched hzero).1] at hwritten
      cases hwritten
    have hoptions : (encoder.step call).options = encoder.options ++ [call.option] := if_neg hsome
    have hdecodes := hright.decodes.1
    rw [hoptions] at hdecodes
    have hfits := total_lt_of_decodes (append_ne_nil _ _) hdecodes
    have hinside := (ends_accepted hbuilt haccepts hfits).inside.mp hright.inside
    exact ⟨hfits, by omega⟩
  · rintro ⟨hfits, hbuffer⟩
    have hinside := (ends_accepted hbuilt haccepts hfits).inside.mpr (by omega)
    have hsome := (returned_ne_zero hbuilt haccepts hfits).2
    exact ⟨hinside, fun hzero ↦ absurd hzero hsome, (built_accepted hbuilt haccepts hfits).decodes⟩

theorem built_step (hspares : Spares encoder call) (hbuilt : Built encoder) :
    Built (encoder.step call) := by
  by_cases hrejected : call.TooLong ∨ call.bufsize < requiredBufferSize encoder.packet call.option
  · rw [step_rejected hrejected]
    exact hbuilt
  · obtain ⟨hshort, hroom⟩ := not_or.mp hrejected
    have hfits := (((or_iff_right hshort).trans (or_iff_right hroom)).mp hspares).1
    exact built_accepted hbuilt ⟨hshort, hroom⟩ hfits

end Call

/-- All calls for a packet do what they should exactly when each of them is rejected or has room for
its option, in the buffer and in sizes of 16 bits. -/
theorem right_iff (bare : BarePacket) (calls : List Call) :
    AllSteps Encoder.step Right bare.start calls ↔
      AllSteps Encoder.step Spares bare.start calls := by
  have hkeep : ∀ encoder call, Spares encoder call → Built encoder →
      Built (Encoder.step encoder call) :=
    fun _ _ ↦ built_step
  have hagree : ∀ encoder call, Built encoder → (Right encoder call ↔ Spares encoder call) :=
    fun _ _ ↦ right_iff_spares
  exact allSteps_congr_of_kept hkeep hagree (built_start bare) calls

/-- A packet of zeroes. -/
def emptyPacket : BarePacket := ⟨fun _ ↦ 0, by decide⟩

/-- A call with the largest value that its length can have, for a buffer of 100 bytes. -/
def largestCall : Call where
  bufsize := 100
  option :=
    { type := multicastDestinationAddress, value := List.replicate 65535 0, lenSize := .two }
  isWord := by
    rw [length_replicate]
    decide
  isOther := by decide

/-- The size of the largest value overflows, so that the call writes past the end of the buffer. -/
theorem right_fail :
    ¬∀ (bare : BarePacket) (calls : List Call), AllSteps Encoder.step Right bare.start calls := by
  intro hall
  have hright := (hall emptyPacket [largestCall]).1
  have hsize : largestCall.option.size = 65538 := by
    rw [ExtOption.size, show largestCall.option.value.length = 65535 from length_replicate]
    rfl
  have hafter : payloadSizeAfter emptyPacket.byte largestCall.option = 3 := by
    rw [payloadSizeAfter, hsize]
    rfl
  have hrequired : requiredBufferSize emptyPacket.byte largestCall.option = 10 := by
    rw [requiredBufferSize, hafter, if_neg (fun hneeds ↦ absurd (hafter ▸ hneeds.1) (by decide))]
    rfl
  rcases (right_iff_spares (built_start emptyPacket)).mp hright with hlong | hroom | hfits
  · exact absurd hlong.1 (by decide)
  · change (100 : ℤ) < (requiredBufferSize emptyPacket.byte largestCall.option : ℕ) at hroom
    rw [hrequired] at hroom
    exact absurd hroom (by decide)
  · have harea : area [largestCall.option] = 65539 := by
      rw [area, map_singleton, sum_singleton, hsize]
    have htotal := total_of_long (cons_ne_nil largestCall.option []) (by rw [harea]; decide)
    have hword : total [largestCall.option] < 65536 := hfits.1
    rw [htotal, harea] at hword
    exact absurd hword (by decide)

end ZipGateway.UdpServer.ExtHeader
