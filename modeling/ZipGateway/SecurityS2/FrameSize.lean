import ZipGateway.SecurityS2.Receive

/-!
# Security 2: the size of a frame

`S2_encrypt_and_send` puts a frame together in `workbuf`: a header with up to three clear
extensions, an encrypted extension for every group that the peer has reported out of sync, the
payload and the tag. Only the payload is checked, when it is accepted. `workbuf_fits_iff` says when
all of them together fit.
-/

set_option autoImplicit false

namespace ZipGateway.SecurityS2

open Function Lib List

/-! ### The parts of a frame -/

def workbufSize : ℕ := 1280 + 10 + 8 + 4

/-- A payload that `S2_send_data_all_cast` accepts. -/
structure Payload where
  bytes : List UInt8
  pos : 1 ≤ bytes.length
  le : bytes.length ≤ 1280

namespace S2

/-- The nonce of the peer has been received and not been used yet. -/
def seedsSpan (s : S2) : Bool :=
  match lookupSpan s.peer s with
  | none => false
  | some i => decide ((s.spanTable i).state = .sosRemoteNonce)

/-- The message is a follow-up of a multicast for a peer that has not reported a group. -/
def namesGroup (s : S2) : Bool :=
  s.mpan.isSome && isFollowup s.peer.txOptions && !isNodeMos s.peer.rNode s

/-- The current MPAN is out of sync. -/
def reportsMos (s : S2) : Bool :=
  match s.mpan with
  | none => false
  | some current => decide ((s.mpanTable current).state = .mos)

/-- The peer has reported the group of this entry, and its MPAN can still be found when the current
one has been dropped. -/
def sharesGroup (s : S2) (i : Fin mosListLength) : Bool :=
  decide ((s.mosList i).nodeId = s.peer.rNode) &&
    (lookupMpan 0 (s.mosList i).groupId (addMosExtension s).1).isSome

/-- The bytes of a frame besides its payload. -/
def overhead (s : S2) : ℕ :=
  4 + (if s.seedsSpan then 18 else 0) + (if s.namesGroup then 3 else 0) +
    (if s.reportsMos then 2 else 0) +
    19 * (List.finRange mosListLength).countP s.sharesGroup + authTagLen

end S2

/-! ### What the parts depend on -/

/-- Two contexts that add the same extensions behind the nonce of the sender. -/
structure Alike (s t : S2) : Prop where
  peer : t.peer = s.peer
  buf : t.buf = s.buf
  mpan : t.mpan = s.mpan
  mosList : t.mosList = s.mosList
  loadedKeys : t.loadedKeys = s.loadedKeys
  mpanTable : ∀ j, ∃ innerState, t.mpanTable j = { s.mpanTable j with innerState := innerState }

section Alike

variable {env : Env} {s t u : S2}

theorem Alike.refl (s : S2) : Alike s s := ⟨rfl, rfl, rfl, rfl, rfl, fun _ ↦ ⟨_, rfl⟩⟩

theorem Alike.trans (hfirst : Alike s t) (hsecond : Alike t u) : Alike s u where
  peer := hsecond.peer.trans hfirst.peer
  buf := hsecond.buf.trans hfirst.buf
  mpan := hsecond.mpan.trans hfirst.mpan
  mosList := hsecond.mosList.trans hfirst.mosList
  loadedKeys := hsecond.loadedKeys.trans hfirst.loadedKeys
  mpanTable := by
    intro j
    obtain ⟨first, hs⟩ := hfirst.mpanTable j
    obtain ⟨second, ht⟩ := hsecond.mpanTable j
    refine ⟨second, ?_⟩
    rw [ht, hs]

/-- The search for a SPAN changes the SPAN table and the generator only. -/
theorem alike_findSpanByNode (con : Connection) : Alike s (findSpanByNode env con s).1 := by
  unfold findSpanByNode
  split
  · exact Alike.refl s
  · exact ⟨rfl, rfl, rfl, rfl, rfl, fun _ ↦ ⟨_, rfl⟩⟩

theorem alike_addSnExtension (i : Fin spanTableSize) : Alike s (addSnExtension env i s).1 := by
  unfold addSnExtension
  split_ifs
  · exact ⟨rfl, rfl, rfl, rfl, rfl, fun _ ↦ ⟨_, rfl⟩⟩
  · exact Alike.refl s

/-- A step of an MPAN changes its inner state only. -/
theorem alike_nextMpanState (i : Fin mpanTableSize) : Alike s (nextMpanState i s) where
  peer := rfl
  buf := rfl
  mpan := rfl
  mosList := rfl
  loadedKeys := rfl
  mpanTable := by
    intro j
    unfold nextMpanState S2.modifyMpan
    by_cases hj : j = i
    · subst hj
      exact ⟨_, update_self ..⟩
    · exact ⟨_, update_of_ne hj ..⟩

theorem alike_addMgrpExtension : Alike s (addMgrpExtension s).1 := by
  unfold addMgrpExtension
  split
  · exact Alike.refl s
  · dsimp only
    split_ifs
    all_goals first
      | exact alike_nextMpanState _
      | exact Alike.refl s

/-- An MPAN is found in both contexts or in neither. -/
theorem Alike.lookupMpan (halike : Alike s t) (ownerId : UInt16) (groupId : UInt8) :
    lookupMpan ownerId groupId t = lookupMpan ownerId groupId s := by
  refine firstSlot_congr fun j ↦ ?_
  obtain ⟨innerState, hentry⟩ := halike.mpanTable j
  unfold S2.isLoaded
  rw [hentry, halike.loadedKeys]

/-- The current MPAN is dropped in both contexts or in neither. -/
theorem Alike.addMosExtension (halike : Alike s t) :
    Alike (addMosExtension s).1 (addMosExtension t).1 ∧
      (SecurityS2.addMosExtension t).2 = (SecurityS2.addMosExtension s).2 := by
  unfold SecurityS2.addMosExtension
  rw [halike.mpan]
  cases hmpan : s.mpan with
  | none => exact ⟨halike, rfl⟩
  | some current =>
    obtain ⟨innerState, hentry⟩ := halike.mpanTable current
    dsimp only
    have hstate : (t.mpanTable current).state = (s.mpanTable current).state := by rw [hentry]
    rw [hstate]
    split_ifs
    · refine ⟨⟨halike.peer, halike.buf, rfl, halike.mosList, halike.loadedKeys, fun j ↦ ?_⟩, rfl⟩
      change ∃ innerState, update t.mpanTable current _ j = _
      by_cases hj : j = current
      · subst hj
        refine ⟨innerState, ?_⟩
        change update t.mpanTable j _ j =
          { update s.mpanTable j _ j with innerState := innerState }
        rw [update_self, update_self, hentry]
      · obtain ⟨other, hother⟩ := halike.mpanTable j
        refine ⟨other, ?_⟩
        change update t.mpanTable current _ j =
          { update s.mpanTable current _ j with innerState := other }
        rw [update_of_ne hj, update_of_ne hj, hother]
    · exact ⟨halike, rfl⟩

theorem Alike.namesGroup (halike : Alike s t) : t.namesGroup = s.namesGroup := by
  unfold S2.namesGroup isNodeMos
  rw [halike.mpan, halike.peer, halike.mosList]

end Alike

/-! ### The clear extensions -/

section Clear

variable {env : Env} {s : S2}

@[simp]
theorem length_clearExtensions (extensions : List (List UInt8)) :
    (clearExtensions extensions).length = extensions.flatten.length := by
  unfold clearExtensions
  split_ifs
  · exact length_modify ..
  · rfl

/-- The nonce of the sender goes along when the one of the peer is used for the first time. -/
theorem length_addSnExtension :
    (addSnExtension env (findSpanByNode env s.peer s).2
      (findSpanByNode env s.peer s).1).2.flatten.length =
      if s.seedsSpan then 18 else 0 := by
  unfold S2.seedsSpan
  cases hspan : lookupSpan s.peer s with
  | none =>
    have hstate : ((findSpanByNode env s.peer s).1.spanTable
        (findSpanByNode env s.peer s).2).state = .noSeq := by
      unfold findSpanByNode
      rw [hspan]
      simp [allocateSpan, S2.modifySpan]
    unfold addSnExtension
    rw [hstate]
    rfl
  | some i =>
    have hfind : findSpanByNode env s.peer s = (s, i) := by
      unfold findSpanByNode
      rw [hspan]
    rw [hfind]
    unfold addSnExtension
    by_cases hnonce : (s.spanTable i).state = .sosRemoteNonce
    · rw [if_pos hnonce, if_pos (decide_eq_true hnonce)]
      simp [random]
    · rw [if_neg hnonce, if_neg (by simpa using hnonce)]
      rfl

theorem length_addMgrpExtension : (addMgrpExtension s).2.flatten.length = if s.namesGroup then 3
    else 0 := by
  unfold addMgrpExtension S2.namesGroup
  cases hmpan : s.mpan with
  | none => rfl
  | some current =>
    by_cases hfollowup : isFollowup s.peer.txOptions
    · by_cases hmos : isNodeMos s.peer.rNode s
      · simp only [hfollowup, hmos]
        split_ifs <;> simp_all
      · simp only [hfollowup, hmos]
        split_ifs <;> simp_all
    · simp [hfollowup]

theorem length_addMosExtension : (addMosExtension s).2.flatten.length = if s.reportsMos then 2
    else 0 := by
  unfold addMosExtension S2.reportsMos
  cases s.mpan with
  | none => rfl
  | some current =>
    by_cases hstate : (s.mpanTable current).state = .mos
    · simp [hstate]
    · simp [hstate]

end Clear

/-! ### The encrypted extensions -/

section Encrypted

variable {s t : S2}

@[simp]
theorem length_readBuf (memory : ℕ → UInt8)
    (start len : ℕ) : (readBuf memory start len).length = len := by
  simp [readBuf]

/-- Two contexts that differ in the working buffer and in the MOS list. -/
structure AlikeTables (s t : S2) : Prop where
  peer : t.peer = s.peer
  buf : t.buf = s.buf
  mpanTable : t.mpanTable = s.mpanTable
  loadedKeys : t.loadedKeys = s.loadedKeys

theorem AlikeTables.lookupMpan (halike : AlikeTables s t) (ownerId : UInt16) (groupId : UInt8) :
    SecurityS2.lookupMpan ownerId groupId t = SecurityS2.lookupMpan ownerId groupId s := by
  unfold SecurityS2.lookupMpan S2.isLoaded
  rw [halike.mpanTable, halike.loadedKeys]

/-- An entry of the MOS list gets an extension. -/
def S2.extends (s : S2) (i : Fin mosListLength) : Bool :=
  decide ((s.mosList i).nodeId = s.peer.rNode) && (lookupMpan 0 (s.mosList i).groupId s).isSome

/-- One turn of the loop counts its entry, and leaves the other entries as they are. -/
theorem addMpanExtension_spec (halike : AlikeTables s t) (extData k : ℕ) {i : Fin mosListLength}
    (hentry : t.mosList i = s.mosList i) :
    AlikeTables s (addMpanExtension extData t k i).1 ∧
      (addMpanExtension extData t k i).2 = k + (if s.extends i then 1 else 0) ∧
      ∀ j ≠ i, (addMpanExtension extData t k i).1.mosList j = t.mosList j := by
  unfold addMpanExtension S2.extends
  dsimp only
  rw [hentry, halike.peer, halike.lookupMpan]
  by_cases hnode : (s.mosList i).nodeId = s.peer.rNode
  · rw [if_pos hnode, decide_eq_true hnode]
    cases hfound : lookupMpan 0 (s.mosList i).groupId s with
    | none => exact ⟨halike, rfl, fun _ _ ↦ rfl⟩
    | some found =>
      refine ⟨⟨rfl, halike.buf, halike.mpanTable, halike.loadedKeys⟩, rfl, ?_⟩
      intro j hj
      exact update_of_ne hj ..
  · rw [if_neg hnode, decide_eq_false hnode]
    exact ⟨halike, rfl, fun _ _ ↦ rfl⟩

/-- The loop counts the entries that get an extension. -/
theorem foldl_addMpanExtension (extData : ℕ) {entries : List (Fin mosListLength)}
    (hnodup : entries.Nodup) :
    ∀ {t : S2} (k : ℕ), AlikeTables s t → (∀ i ∈ entries, t.mosList i = s.mosList i) →
      AlikeTables s (entries.foldl (fun (t, k) i ↦ addMpanExtension extData t k i) (t, k)).1 ∧
        (entries.foldl (fun (t, k) i ↦ addMpanExtension extData t k i) (t, k)).2 =
          k + entries.countP s.extends := by
  induction entries with
  | nil => exact fun k halike _ ↦ ⟨halike, rfl⟩
  | cons i rest ih =>
    intro t k halike hentries
    obtain ⟨hi, hrest⟩ := nodup_cons.mp hnodup
    obtain ⟨hnext, hcount, hother⟩ :=
      addMpanExtension_spec halike extData k (hentries i mem_cons_self)
    have hfurther := ih hrest (addMpanExtension extData t k i).2 hnext fun j hj ↦ by
      rw [hother j fun heq ↦ hi (heq ▸ hj)]
      exact hentries j (mem_cons_of_mem i hj)
    refine ⟨hfurther.1, hfurther.2.trans ?_⟩
    rw [hcount, countP_cons]
    omega

/-- The encrypted extensions are nineteen bytes for every entry that gets one. -/
theorem addMpanExtensions_spec (extData : ℕ) :
    AlikeTables s (addMpanExtensions extData s).1 ∧
      (addMpanExtensions extData s).2 = 19 * (List.finRange mosListLength).countP s.extends := by
  have hloop := foldl_addMpanExtension extData (nodup_finRange mosListLength) 0
    (⟨rfl, rfl, rfl, rfl⟩ : AlikeTables s s) fun _ _ ↦ rfl
  unfold addMpanExtensions
  dsimp only
  split_ifs with hzero
  · refine ⟨hloop.1, ?_⟩
    have hcount := hloop.2.symm.trans hzero
    omega
  · refine ⟨⟨hloop.1.peer, hloop.1.buf, hloop.1.mpanTable, hloop.1.loadedKeys⟩, ?_⟩
    dsimp only
    rw [hloop.2]
    omega

end Encrypted

/-! ### The frame -/

section Frame

variable (env : Env) (s : S2)

/-- The clear extensions are as long as the parts that the context asks for, and what the encrypted
ones depend on is what the MOS extension leaves. -/
theorem addClearExtensions_spec :
    Alike (addMosExtension s).1
        (addClearExtensions env (findSpanByNode env s.peer s).2 (findSpanByNode env s.peer s).1).1 ∧
      (addClearExtensions env (findSpanByNode env s.peer s).2
        (findSpanByNode env s.peer s).1).2.flatten.length =
        (if s.seedsSpan then 18 else 0) + (if s.namesGroup then 3 else 0) +
          (if s.reportsMos then 2 else 0) := by
  set i := (findSpanByNode env s.peer s).2
  have hsn : Alike s (addSnExtension env i (findSpanByNode env s.peer s).1).1 :=
    (alike_findSpanByNode s.peer).trans (alike_addSnExtension i)
  have hmgrp :
      Alike s (addMgrpExtension (addSnExtension env i (findSpanByNode env s.peer s).1).1).1 :=
    hsn.trans alike_addMgrpExtension
  refine ⟨hmgrp.addMosExtension.1, ?_⟩
  unfold addClearExtensions
  dsimp only
  rw [flatten_append, flatten_append, length_append, length_append, length_addSnExtension,
    length_addMgrpExtension, hsn.namesGroup, hmgrp.addMosExtension.2, length_addMosExtension]

@[simp]
theorem length_sealMessage (i : Fin spanTableSize) (header encrypted : List UInt8) :
    (sealMessage env i header encrypted s).2.length =
      header.length + encrypted.length + s.buf.length + authTagLen := by
  unfold sealMessage
  simp only [length_append, length_ccmEncryptAndAuth]
  omega

@[simp]
theorem length_encapsulationHeader (seq flags : UInt8) (clear : List UInt8) :
    (encapsulationHeader seq flags clear).length = 4 + clear.length := by
  exact (length_append ..).trans rfl

theorem addMosExtension_frame :
    (addMosExtension s).1.peer = s.peer ∧ (addMosExtension s).1.mosList = s.mosList ∧
      (addMosExtension s).1.buf = s.buf := by
  unfold addMosExtension
  split
  · exact ⟨rfl, rfl, rfl⟩
  · dsimp only
    split_ifs
    · exact ⟨rfl, rfl, rfl⟩
    · exact ⟨rfl, rfl, rfl⟩

/-- A frame of `S2_encrypt_and_send` is as long as the payload and the overhead. -/
theorem length_encapsulate : (encapsulate env s).2.length = s.buf.length + s.overhead := by
  obtain ⟨halike, hclear⟩ := addClearExtensions_spec env s
  obtain ⟨hpeer, hmosList, hbuf⟩ := addMosExtension_frame s
  unfold encapsulate
  dsimp only
  set t := (addClearExtensions env (findSpanByNode env s.peer s).2
    (findSpanByNode env s.peer s).1).1
  have hextends : t.extends = s.sharesGroup := by
    funext i
    unfold S2.extends S2.sharesGroup
    rw [halike.mosList, hmosList, halike.peer, hpeer, halike.lookupMpan]
  rw [length_sealMessage, length_encapsulationHeader, length_clearExtensions,
    length_readBuf, hclear,
    (addMpanExtensions_spec _).1.buf, (addMpanExtensions_spec _).2, hextends, halike.buf, hbuf]
  unfold S2.overhead
  omega

/-- A frame of `S2_encrypt_and_send_multi` has one extension, the group. -/
theorem length_encapsulateMulti (current : Fin mpanTableSize) :
    (encapsulateMulti env current s).2.length = s.buf.length + 15 := by
  have hbuf : (nextMpanState current s).buf = s.buf := rfl
  unfold encapsulateMulti
  dsimp only
  rw [length_append, length_encapsulationHeader, length_ccmEncryptAndAuth, hbuf]
  simp only [length_cons, length_nil, authTagLen]
  omega

end Frame

/-! ### Frames that fit -/

/-- The frames that are assembled for a payload, as a singlecast and as a multicast, fit exactly
when the payload leaves room for the parts that the context adds. A multicast always fits. -/
theorem workbuf_fits_iff (env : Env) (s : S2) (payload : Payload) (current : Fin mpanTableSize) :
    ((encapsulate env { s with buf := payload.bytes }).2.length ≤ workbufSize ∧
        (encapsulateMulti env current { s with buf := payload.bytes }).2.length ≤ workbufSize) ↔
      payload.bytes.length + s.overhead ≤ workbufSize := by
  have hoverhead : ({ s with buf := payload.bytes } : S2).overhead = s.overhead := by
    have hshares : ({ s with buf := payload.bytes } : S2).sharesGroup = s.sharesGroup := by
      funext i
      unfold S2.sharesGroup addMosExtension
      cases hmpan : s.mpan with
      | none => rfl
      | some j =>
        dsimp only
        split_ifs
        · rfl
        · rfl
    unfold S2.overhead
    rw [hshares]
    rfl
  have hmulti : payload.bytes.length + 15 ≤ workbufSize := by
    have hle := payload.le
    unfold workbufSize
    omega
  rw [length_encapsulate, length_encapsulateMulti, hoverhead]
  exact and_iff_left hmulti

/-- The context in which a node has sent a nonce is idle, and a payload of 1280 bytes is encrypted
at once when it is given to `S2_send_data`. The frame of 1310 bytes does not fit. -/
theorem workbuf_overflows :
    ¬ ∀ (calls : List Call) (payload : Payload) (current : Fin mpanTableSize),
      let s := { run (enter sampleEnv) (initCtx sampleEnv 0 (fun _ ↦ none) Drbg.zero)
        calls with buf := payload.bytes }
      (encapsulate sampleEnv s).2.length ≤ workbufSize ∧
        (encapsulateMulti sampleEnv current s).2.length ≤ workbufSize := by
  intro hall
  have hfits := (hall
    [.applicationCommandHandler sampleConnection
      ([commandClassSecurity2, security2NonceReport, 5, sosBitMask] ++ List.replicate 16 9)]
    ⟨List.replicate 1280 7, by decide +kernel, by decide +kernel⟩ 0).1
  rw [length_encapsulate] at hfits
  revert hfits
  decide +kernel

end ZipGateway.SecurityS2
