import ZipGateway.SecurityS2.Receive

/-!
# What the functions of the module do to a context

Most functions of the module only look up and update entries of its tables. `QuietClosed` lists the
elementary changes that they are made of, and says of a property of contexts that these changes keep
it; every such property is then kept by the functions themselves, whatever it says. The invariants
of the module are proved from these rules by looking at the elementary changes only.
`ZipGateway.SecurityS2.Transitions` adds the changes of the state machine.

A SPAN entry that a function changes is one that `find_span_by_node` has just returned, so it is in
use; this is what `Span.Moves` and `Mpan.Moves` record.
-/

set_option autoImplicit false

namespace ZipGateway.SecurityS2

open Lib

/-! ### Searches -/

/-- The entry is in use. -/
def Span.Used (span : Span) : Prop := span.state ≠ .notUsed

/-- The entry is in use. -/
def Mpan.Used (entry : Mpan) : Prop := entry.state ≠ .notUsed

instance (entry : Mpan) : Decidable entry.Used :=
  inferInstanceAs (Decidable (_ ≠ _))

@[simp]
theorem modifySpan_same (s : S2) (i : Fin spanTableSize) (change : Span → Span) :
    (s.modifySpan i change).spanTable i = change (s.spanTable i) := by
  simp [S2.modifySpan]

theorem modifySpan_other (s : S2) {i j : Fin spanTableSize} (change : Span → Span) (hne : j ≠ i) :
    (s.modifySpan i change).spanTable j = s.spanTable j := by
  simp [S2.modifySpan, hne]

@[simp]
theorem modifyMpan_same (s : S2) (i : Fin mpanTableSize) (change : Mpan → Mpan) :
    (s.modifyMpan i change).mpanTable i = change (s.mpanTable i) := by
  simp [S2.modifyMpan]

theorem modifyMpan_other (s : S2) {i j : Fin mpanTableSize} (change : Mpan → Mpan) (hne : j ≠ i) :
    (s.modifyMpan i change).mpanTable j = s.mpanTable j := by
  simp [S2.modifyMpan, hne]

/-- What a found SPAN entry is. -/
theorem lookupSpan_some {con : Connection} {s : S2} {i : Fin spanTableSize}
    (hfound : lookupSpan con s = some i) :
    (s.spanTable i).Used ∧ (s.spanTable i).lnode = con.lNode ∧
      (s.spanTable i).rnode = con.rNode := by
  have htest := firstSlot_some hfound
  simp only [Bool.and_eq_true, bne_iff_ne, beq_iff_eq] at htest
  exact ⟨htest.1.1, htest.1.2, htest.2⟩

/-- A search for a SPAN entry fails only when there is none in use. -/
theorem lookupSpan_none {con : Connection} {s : S2} (hnone : lookupSpan con s = none)
    (i : Fin spanTableSize) (hused : (s.spanTable i).Used) :
    ¬ ((s.spanTable i).lnode = con.lNode ∧ (s.spanTable i).rnode = con.rNode) := by
  have htest := firstSlot_none.mp hnone i
  rintro ⟨hlocal, hremote⟩
  simp only [hlocal, hremote, beq_self_eq_true, Bool.and_true, bne_eq_false_iff_eq] at htest
  exact hused htest

/-- A search for a SPAN entry looks at the nodes and at whether an entry is in use. -/
theorem lookupSpan_congr {s t : S2} (con : Connection)
    (hsame : ∀ i, ((t.spanTable i).Used ↔ (s.spanTable i).Used) ∧
      (t.spanTable i).lnode = (s.spanTable i).lnode ∧
      (t.spanTable i).rnode = (s.spanTable i).rnode) :
    lookupSpan con t = lookupSpan con s := by
  refine firstSlot_congr fun i ↦ ?_
  obtain ⟨hused, hlocal, hremote⟩ := hsame i
  have hbool : ((t.spanTable i).state != .notUsed) = ((s.spanTable i).state != .notUsed) := by
    rw [Bool.eq_iff_iff]
    simpa [Span.Used] using hused
  rw [hbool, hlocal, hremote]

/-- A change of the sequence number of an entry. -/
theorem lookupSpan_setSeq (con : Connection) (s : S2) (i : Fin spanTableSize) (seq : UInt8) :
    lookupSpan con (s.modifySpan i fun span ↦ { span with rxSeq := seq }) = lookupSpan con s := by
  refine lookupSpan_congr con fun k ↦ ?_
  by_cases hk : k = i
  · subst hk
    rw [modifySpan_same]
    exact ⟨Iff.rfl, rfl, rfl⟩
  · rw [modifySpan_other s _ hk]
    exact ⟨Iff.rfl, rfl, rfl⟩

/-- What a found MPAN entry is. -/
theorem lookupMpan_some {ownerId : UInt16} {groupId : UInt8} {s : S2} {i : Fin mpanTableSize}
    (hfound : lookupMpan ownerId groupId s = some i) :
    (s.mpanTable i).Used ∧ (s.mpanTable i).ownerId = ownerId ∧
      (s.mpanTable i).groupId = groupId ∧ s.isLoaded (s.mpanTable i).classId = true := by
  have htest := firstSlot_some hfound
  simp only [Bool.and_eq_true, bne_iff_ne, beq_iff_eq] at htest
  exact ⟨htest.1.1.1, htest.1.2, htest.1.1.2, htest.2⟩

/-- A search for an MPAN entry fails only when there is none in use whose class has a key. -/
theorem lookupMpan_none {ownerId : UInt16} {groupId : UInt8} {s : S2}
    (hnone : lookupMpan ownerId groupId s = none) (i : Fin mpanTableSize)
    (hused : (s.mpanTable i).Used) (howner : (s.mpanTable i).ownerId = ownerId)
    (hgroup : (s.mpanTable i).groupId = groupId) :
    s.isLoaded (s.mpanTable i).classId = false := by
  have htest := firstSlot_none.mp hnone i
  simpa [howner, hgroup, hused, show (s.mpanTable i).state ≠ .notUsed from hused] using htest

/-- What one extension keeps, a list of extensions keeps. -/
theorem parseExtensions_invariant {Local : Type} (property : Local → Prop) {limit : ℕ}
    {handle : List UInt8 → Local → Local × Bool}
    (hhandle : ∀ ext state, property state → property (handle ext state).1) (fuel hdrLen : ℕ)
    (ext : List UInt8) {state : Local} (hstate : property state) :
    property (parseExtensions limit handle fuel hdrLen ext state).1 := by
  induction fuel generalizing hdrLen ext state with
  | zero => exact hstate
  | succ fuel ih =>
    have hnext := hhandle ext state hstate
    rw [parseExtensions]
    by_cases hfail : limit < (hdrLen + (extLen ext).toNat) % 65536 ∨ extLen ext = 0
    · rw [if_pos hfail]
      exact hstate
    · rw [if_neg hfail]
      generalize handle ext state = handled at hnext ⊢
      obtain ⟨next, ok⟩ := handled
      cases ok with
      | false => exact hnext
      | true =>
        dsimp only
        split_ifs
        · exact ih _ _ hnext
        · exact hnext

/-- Two loops over the same extensions, whose handlers keep a relation and stop at the same
extensions, end related and with the same header. -/
theorem parseExtensions_simulation {First Second : Type} (related : First → Second → Prop)
    {limit : ℕ} {handle : List UInt8 → First → First × Bool}
    {handle' : List UInt8 → Second → Second × Bool}
    (hhandle : ∀ ext state state', related state state' →
      related (handle ext state).1 (handle' ext state').1 ∧
        (handle ext state).2 = (handle' ext state').2)
    (fuel hdrLen : ℕ) (ext : List UInt8) {state : First} {state' : Second}
    (hstate : related state state') :
    related (parseExtensions limit handle fuel hdrLen ext state).1
        (parseExtensions limit handle' fuel hdrLen ext state').1 ∧
      (parseExtensions limit handle fuel hdrLen ext state).2 =
        (parseExtensions limit handle' fuel hdrLen ext state').2 := by
  induction fuel generalizing hdrLen ext state state' with
  | zero => exact ⟨hstate, rfl⟩
  | succ fuel ih =>
    have hnext := hhandle ext state state' hstate
    rw [parseExtensions, parseExtensions]
    by_cases hfail : limit < (hdrLen + (extLen ext).toNat) % 65536 ∨ extLen ext = 0
    · rw [if_pos hfail, if_pos hfail]
      exact ⟨hstate, rfl⟩
    · rw [if_neg hfail, if_neg hfail]
      generalize handle ext state = first at hnext ⊢
      generalize handle' ext state' = second at hnext ⊢
      obtain ⟨next, ok⟩ := first
      obtain ⟨next', ok'⟩ := second
      obtain ⟨hrelated, rfl⟩ := hnext
      cases ok with
      | false => exact ⟨hrelated, rfl⟩
      | true =>
        dsimp only
        split_ifs
        · exact ih _ _ hrelated
        · exact ⟨hrelated, rfl⟩

/-! ### Elementary changes -/

/-- A change of a SPAN entry that is not an allocation: the nodes stay, and an entry that changes
its state is in use and does not become `SPAN_INSTANTIATE`. -/
structure Span.Moves (old new : Span) : Prop where
  lnode : new.lnode = old.lnode
  rnode : new.rnode = old.rnode
  state : new.state = old.state ∨ old.Used ∧ new.Used ∧ new.state ≠ .instantiate

/-- A change of an MPAN entry that is not an allocation: the owner, the group and the class stay,
and no unused entry comes into use. -/
structure Mpan.Moves (old new : Mpan) : Prop where
  ownerId : new.ownerId = old.ownerId
  groupId : new.groupId = old.groupId
  classId : new.classId = old.classId
  used : new.Used → old.Used

/-- An entry in use with a nonce stored in it. -/
theorem moves_setRNonce {span : Span} (nonce : Block) (state : SpanState) (hused : span.Used)
    (hstate : state ≠ .notUsed ∧ state ≠ .instantiate) :
    span.Moves { span.setRNonce nonce with state := state } :=
  ⟨rfl, rfl, Or.inr ⟨hused, hstate.1, hstate.2⟩⟩

/-- The property is kept by the elementary changes of the table functions. -/
structure QuietClosed (property : S2 → Prop) : Prop where
  /-- It does not depend on the peer, the buffers, the current MPAN, the MOS list, the retries and
  the generator. -/
  frame : ∀ {s t : S2}, t.spanTable = s.spanTable → t.mpanTable = s.mpanTable →
    t.loadedKeys = s.loadedKeys → t.fsm = s.fsm → t.log = s.log → property s → property t
  allocateSpan : ∀ (env : Env) (con : Connection) (s : S2), lookupSpan con s = none → property s →
    property (allocateSpan env con s).1
  span : ∀ (s : S2) (i : Fin spanTableSize) (change : Span → Span),
    (s.spanTable i).Moves (change (s.spanTable i)) → property s → property (s.modifySpan i change)
  mpan : ∀ (s : S2) (i : Fin mpanTableSize) (change : Mpan → Mpan),
    (s.mpanTable i).Moves (change (s.mpanTable i)) → property s → property (s.modifyMpan i change)

section Find

variable (env : Env) (con : Connection) (s : S2)

/-- The entry that `find_span_by_node` returns is the one of the connection. -/
theorem findSpanByNode_spec :
    let span := (findSpanByNode env con s).1.spanTable (findSpanByNode env con s).2
    span.Used ∧ span.lnode = con.lNode ∧ span.rnode = con.rNode := by
  dsimp only
  unfold findSpanByNode
  split
  · rename_i i hfound
    exact lookupSpan_some hfound
  · simp [allocateSpan, Span.Used]

theorem findSpanByNode_used :
    ((findSpanByNode env con s).1.spanTable (findSpanByNode env con s).2).Used :=
  (findSpanByNode_spec env con s).1

/-- A search for a SPAN entry changes the SPAN table and the generator only. -/
theorem findSpanByNode_frame :
    (findSpanByNode env con s).1.peer = s.peer ∧
      (findSpanByNode env con s).1.loadedKeys = s.loadedKeys ∧
      (findSpanByNode env con s).1.mpanTable = s.mpanTable := by
  unfold findSpanByNode
  split <;> exact ⟨rfl, rfl, rfl⟩

/-- A singlecast from a node with a SPAN entry. -/
theorem decryptSpan_found {con : Connection} {s : S2} {k : Fin spanTableSize} (msg : List UInt8)
    (hsingle : con.isMulticast = false) (hlookup : lookupSpan con s = some k) :
    decryptSpan env con msg s =
      if (s.spanTable k).state = .noSeq ∨
          seqDuplWindowSize ≤ (s.spanTable k).rxSeq - msg.getD 2 0 then
        (s.modifySpan k fun span ↦ { span with rxSeq := msg.getD 2 0 }, some (some k))
      else (s, none) := by
  have hfind : findSpanByNode env con s = (s, k) := by
    rw [findSpanByNode, hlookup]
  have hagain : findSpanByNode env con (s.modifySpan k fun span ↦
      { span with rxSeq := msg.getD 2 0 }) =
        (s.modifySpan k fun span ↦ { span with rxSeq := msg.getD 2 0 }, k) := by
    rw [findSpanByNode, lookupSpan_setSeq, hlookup]
  unfold decryptSpan verifySeq
  rw [hfind, hsingle, if_neg Bool.false_ne_true]
  dsimp only
  split_ifs
  · rw [hagain]
  · contradiction
  · contradiction
  · rfl

/-- A new SPAN entry is found again. -/
theorem lookupSpan_allocateSpan {con : Connection} {s : S2} (hlookup : lookupSpan con s = none) :
    lookupSpan con (allocateSpan env con s).1 = some (allocateSpan env con s).2 := by
  refine firstSlot_eq_of_unique (by simp [allocateSpan]) fun k hk ↦ ?_
  by_contra hne
  have hother : (allocateSpan env con s).1.spanTable k = s.spanTable k := by
    unfold allocateSpan
    dsimp only
    exact modifySpan_other (random env s).2 _ hne
  rw [hother] at hk
  have htest := firstSlot_none.mp hlookup k
  rw [htest] at hk
  exact Bool.false_ne_true hk

/-- A singlecast from a node without a SPAN entry gets a new one. -/
theorem decryptSpan_new {con : Connection} {s : S2} (msg : List UInt8)
    (hsingle : con.isMulticast = false) (hlookup : lookupSpan con s = none) :
    ∃ t i, decryptSpan env con msg s = (t, some (some i)) ∧ (t.spanTable i).state = .noSeq := by
  have hfind : findSpanByNode env con s = allocateSpan env con s := by
    rw [findSpanByNode, hlookup]
  have hstate : ((allocateSpan env con s).1.spanTable (allocateSpan env con s).2).state
      = .noSeq := by
    simp [allocateSpan]
  have hagain := lookupSpan_allocateSpan env hlookup
  unfold decryptSpan verifySeq
  rw [hfind, hsingle, if_neg Bool.false_ne_true]
  generalize allocateSpan env con s = allocated at hstate hagain ⊢
  obtain ⟨t, i⟩ := allocated
  dsimp only at hstate hagain ⊢
  refine ⟨t.modifySpan i fun span ↦ { span with rxSeq := msg.getD 2 0 }, i, ?_, ?_⟩
  · rw [if_pos (Or.inl hstate)]
    dsimp only
    rw [if_pos rfl, findSpanByNode, lookupSpan_setSeq, hagain]
  · rw [modifySpan_same]
    exact hstate

variable (ownerId : UInt16) (groupId : UInt8)

theorem findMpanByGroupId_spanTable :
    (findMpanByGroupId env ownerId groupId s).1.spanTable = s.spanTable := by
  unfold findMpanByGroupId
  split <;> rfl

theorem findMpanByGroupId_log : (findMpanByGroupId env ownerId groupId s).1.log = s.log := by
  unfold findMpanByGroupId
  split <;> rfl

/-- The log does not matter for the search. -/
theorem findMpanByGroupId_logged (act : Act) :
    (findMpanByGroupId env ownerId groupId (s.logged act)).1 =
      (findMpanByGroupId env ownerId groupId s).1.logged act := by
  have hlookup : lookupMpan ownerId groupId (s.logged act) = lookupMpan ownerId groupId s := rfl
  unfold findMpanByGroupId
  rw [hlookup]
  split <;> rfl

/-- `S2_set_node_mos` changes the MOS list only. -/
theorem setNodeMos_eq (node : UInt16) :
    ∃ mosList, setNodeMos node s = { s with mosList := mosList } := by
  unfold setNodeMos
  split_ifs
  · split
    · exact ⟨s.mosList, rfl⟩
    · split
      · exact ⟨s.mosList, rfl⟩
      · exact ⟨_, rfl⟩
  · exact ⟨s.mosList, rfl⟩

end Find

/-! ### Table functions -/

namespace QuietClosed

variable {property : S2 → Prop} (hclosed : QuietClosed property)
include hclosed

section Tables

variable (env : Env) {s : S2}

theorem findSpanByNode (con : Connection) (hs : property s) :
    property (findSpanByNode env con s).1 := by
  unfold SecurityS2.findSpanByNode
  split
  · exact hs
  · rename_i hnone
    exact hclosed.allocateSpan env con s hnone hs

/-- A change of the entry that `find_span_by_node` has returned. -/
theorem modifyFound (con : Connection) (change : Span → Span)
    (hmoves : ∀ span : Span, span.Used → span.Moves (change span)) (hs : property s) :
    property ((SecurityS2.findSpanByNode env con s).1.modifySpan
      (SecurityS2.findSpanByNode env con s).2 change) :=
  hclosed.span _ _ change (hmoves _ (findSpanByNode_used env con s))
    (hclosed.findSpanByNode env con hs)

theorem spanOk (con : Connection) (hs : property s) : property (spanOk env con s).1 :=
  hclosed.findSpanByNode env con hs

theorem verifySeq (peer : Connection) (seq : UInt8) (hs : property s) :
    property (verifySeq env peer seq s).1 := by
  simp only [SecurityS2.verifySeq]
  split_ifs
  · exact hclosed.modifyFound env peer (fun span ↦ { span with rxSeq := seq })
      (fun span _ ↦ ⟨rfl, rfl, Or.inl rfl⟩) hs
  · exact hclosed.findSpanByNode env peer hs

theorem setNodeMos (node : UInt16) (hs : property s) : property (setNodeMos node s) := by
  unfold SecurityS2.setNodeMos
  split_ifs
  · split
    · exact hs
    · split
      · exact hs
      · exact hclosed.frame (s := s) rfl rfl rfl rfl rfl hs
  · exact hs

theorem nextMpanState (i : Fin mpanTableSize) (hs : property s) : property (nextMpanState i s) :=
  hclosed.mpan s i _ ⟨rfl, rfl, rfl, id⟩ hs

theorem registerNonce (buf : List UInt8) (hs : property s) :
    property (registerNonce env buf s).1 := by
  have hverify := hclosed.verifySeq env s.peer (buf.getD 2 0) hs
  unfold SecurityS2.registerNonce
  generalize SecurityS2.verifySeq env s.peer (buf.getD 2 0) s = verified at hverify ⊢
  obtain ⟨t, fresh⟩ := verified
  dsimp only at hverify ⊢
  have hspan := hclosed.findSpanByNode env t.peer hverify
  have hnonce := hclosed.modifyFound env t.peer
    (fun span ↦ { span.setRNonce (padBlock (buf.drop 4)) with state := .sosRemoteNonce })
    (fun span hused ↦ moves_setRNonce _ .sosRemoteNonce hused (by decide)) hverify
  cases fresh with
  | false => exact hverify
  | true =>
    rw [if_pos rfl]
    generalize SecurityS2.findSpanByNode env t.peer t = found at hspan hnonce ⊢
    by_cases hsos : 20 ≤ buf.length ∧ buf.getD 3 0 &&& sosBitMask ≠ 0
    · rw [if_pos hsos]
      split_ifs
      · exact hclosed.setNodeMos _ hnonce
      · exact hnonce
    · rw [if_neg hsos]
      split_ifs
      · exact hclosed.setNodeMos _ hspan
      · exact hspan

end Tables

/-! ### Encapsulations -/

section Encapsulations

variable (env : Env) {s : S2}

theorem random (hs : property s) : property (random env s).2 :=
  hclosed.frame (s := s) rfl rfl rfl rfl rfl hs

theorem addSnExtension {i : Fin spanTableSize} (hused : (s.spanTable i).Used) (hs : property s) :
    property (addSnExtension env i s).1 := by
  unfold SecurityS2.addSnExtension
  dsimp only
  split_ifs
  · dsimp only
    refine hclosed.span _ i _ ?_ (hclosed.random env hs)
    exact ⟨rfl, rfl, Or.inr ⟨hused, by simp [Span.Used], by simp⟩⟩
  · exact hs

theorem addMgrpExtension (hs : property s) : property (addMgrpExtension s).1 := by
  unfold SecurityS2.addMgrpExtension
  split
  · exact hs
  · dsimp only
    split_ifs
    all_goals first | exact hclosed.nextMpanState _ hs | exact hs

theorem addMosExtension (hs : property s) : property (addMosExtension s).1 := by
  unfold SecurityS2.addMosExtension
  split
  · exact hs
  · rename_i current _
    split_ifs
    · have hdropped := hclosed.mpan s current (fun entry ↦ { entry with state := .notUsed })
        ⟨rfl, rfl, rfl, fun hused ↦ absurd rfl hused⟩ hs
      exact hclosed.frame (s := s.modifyMpan current fun entry ↦ { entry with state := .notUsed })
        rfl rfl rfl rfl rfl hdropped
    · exact hs

theorem addMpanExtension (extData k : ℕ) (i : Fin mosListLength) (hs : property s) :
    property (addMpanExtension extData s k i).1 := by
  unfold SecurityS2.addMpanExtension
  dsimp only
  split_ifs
  · split
    · exact hs
    · exact hclosed.frame (s := s) rfl rfl rfl rfl rfl hs
  · exact hs

theorem addMpanExtensions (extData : ℕ) (hs : property s) :
    property (addMpanExtensions extData s).1 :=
  addMpanExtensions_induction extData hs (fun _ k i ↦ hclosed.addMpanExtension extData k i)
    fun t _ ht ↦ hclosed.frame (s := t) rfl rfl rfl rfl rfl ht

theorem addClearExtensions {i : Fin spanTableSize} (hused : (s.spanTable i).Used)
    (hs : property s) : property (addClearExtensions env i s).1 :=
  hclosed.addMosExtension (hclosed.addMgrpExtension (hclosed.addSnExtension env hused hs))

theorem sealMessage (i : Fin spanTableSize) (header encrypted : List UInt8) (hs : property s) :
    property (sealMessage env i header encrypted s).1 := by
  unfold SecurityS2.sealMessage
  generalize nextNonceGenerate env.aes (s.spanTable i).rng = generated
  obtain ⟨nonce, rng⟩ := generated
  exact hclosed.frame (s := s.modifySpan i fun span ↦ { span with rng := rng })
    rfl rfl rfl rfl rfl (hclosed.span s i _ ⟨rfl, rfl, Or.inl rfl⟩ hs)

/-- Building a frame makes quiet changes only. -/
theorem encapsulate (hs : property s) : property (encapsulate env s).1 := by
  have hspan := hclosed.findSpanByNode env s.peer hs
  have hclear := hclosed.addClearExtensions env (findSpanByNode_used env s.peer s) hspan
  unfold SecurityS2.encapsulate
  dsimp only
  apply hclosed.sealMessage
  exact hclosed.addMpanExtensions _ hclear

theorem encapsulateMulti (current : Fin mpanTableSize) (hs : property s) :
    property (encapsulateMulti env current s).1 :=
  hclosed.frame (s := SecurityS2.nextMpanState current s) rfl rfl rfl rfl rfl
    (hclosed.nextMpanState current hs)

end Encapsulations

end QuietClosed

end ZipGateway.SecurityS2
