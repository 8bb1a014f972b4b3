import ZipGateway.SecurityS2.Transitions

/-!
# The keys of the tables

A SPAN entry in use is the only one of its pair of nodes, in every run. For the MPAN table the same
holds of owner and group only as long as `find_mpan_by_group_id` sees all the entries: its search
skips an entry whose class has no key, and then a second entry for the same owner and group is made.
Such entries exist, because a new entry takes its class from `ctxt->peer`, which has nothing to do
with a received frame (`mpan_duplicated`), and because keys are dropped when they are restored.

`SeesGroups` is the condition under which a call does not meet such an entry, and `tables_unique`
the result: the entries in use have different keys. What every step keeps is a little more,
`Tables`: the key of an MPAN entry in use is not even the key of an unused entry before it. That is
what `S2_free_mpan` needs, which frees the first entry of a key whether it is in use or not.
-/

set_option autoImplicit false

namespace ZipGateway.SecurityS2

open Function Lib List

/-! ### The invariant -/

/-- Two SPAN entries are of the same pair of nodes. -/
def Span.SameNodes (first second : Span) : Prop :=
  first.lnode = second.lnode ∧ first.rnode = second.rnode

/-- Two MPAN entries are of the same owner and group. -/
def Mpan.SameGroup (first second : Mpan) : Prop :=
  first.ownerId = second.ownerId ∧ first.groupId = second.groupId

instance (first second : Mpan) : Decidable (first.SameGroup second) :=
  inferInstanceAs (Decidable (_ ∧ _))

/-- The SPAN entries in use have different nodes, and the key of an MPAN entry in use is the key of
no entry before it. -/
structure Tables (s : S2) : Prop where
  span : ∀ i j, i ≠ j → (s.spanTable i).Used → (s.spanTable j).Used →
    ¬ (s.spanTable i).SameNodes (s.spanTable j)
  mpan : ∀ i j, i < j → (s.mpanTable j).Used → ¬ (s.mpanTable i).SameGroup (s.mpanTable j)

/-- A relation between the entries of a table is kept when the entry that changes is in it with all
others. -/
theorem forall_update {n : ℕ} {α : Type} {f : Fin n → α} {i : Fin n} {x : α}
    (related : Fin n → Fin n → α → α → Prop) (hold : ∀ a b, a ≠ b → related a b (f a) (f b))
    (hfirst : ∀ b, b ≠ i → related i b x (f b)) (hsecond : ∀ a, a ≠ i → related a i (f a) x)
    (a b : Fin n) (hab : a ≠ b) : related a b (update f i x a) (update f i x b) := by
  by_cases hai : a = i
  · subst hai
    rw [update_self, update_of_ne hab.symm]
    exact hfirst b hab.symm
  · rw [update_of_ne hai]
    by_cases hbi : b = i
    · subst hbi
      rw [update_self]
      exact hsecond a hai
    · rw [update_of_ne hbi]
      exact hold a b hab

section Tables

variable {s t : S2}

theorem Tables.congr (htables : Tables s) (hspan : t.spanTable = s.spanTable)
    (hmpan : t.mpanTable = s.mpanTable) : Tables t := by
  refine ⟨?_, ?_⟩
  · rw [hspan]
    exact htables.span
  · rw [hmpan]
    exact htables.mpan

/-- A change of a SPAN entry that keeps its nodes, and whether it is in use. -/
theorem Tables.modifySpan (htables : Tables s) (i : Fin spanTableSize) (change : Span → Span)
    (hnodes : (change (s.spanTable i)).SameNodes (s.spanTable i))
    (hused : (change (s.spanTable i)).Used → (s.spanTable i).Used) :
    Tables (s.modifySpan i change) := by
  refine ⟨forall_update (fun _ _ (x y : Span) ↦ x.Used → y.Used → ¬ x.SameNodes y) htables.span ?_
    ?_, htables.mpan⟩
  · intro b hb hx hy hsame
    exact htables.span i b hb.symm (hused hx) hy
      ⟨hnodes.1.symm.trans hsame.1, hnodes.2.symm.trans hsame.2⟩
  · intro a ha hx hy hsame
    exact htables.span a i ha hx (hused hy) ⟨hsame.1.trans hnodes.1, hsame.2.trans hnodes.2⟩

/-- A change of an MPAN entry that keeps its key and takes no entry into use. -/
theorem Tables.modifyMpan (htables : Tables s) (i : Fin mpanTableSize) (change : Mpan → Mpan)
    (hkey : (change (s.mpanTable i)).SameGroup (s.mpanTable i))
    (hused : (change (s.mpanTable i)).Used → (s.mpanTable i).Used) :
    Tables (s.modifyMpan i change) := by
  refine ⟨htables.span,
    fun a b hab ↦ forall_update (fun a b (x y : Mpan) ↦ a < b → y.Used → ¬ x.SameGroup y)
    (fun a b _ ↦ htables.mpan a b) ?_ ?_ a b hab.ne hab⟩
  · intro b _ hlt hy hsame
    exact htables.mpan i b hlt hy ⟨hkey.1.symm.trans hsame.1, hkey.2.symm.trans hsame.2⟩
  · intro a _ hlt hy hsame
    exact htables.mpan a i hlt (hused hy) ⟨hsame.1.trans hkey.1, hsame.2.trans hkey.2⟩

/-- A new SPAN entry, for nodes that no entry in use has. -/
theorem Tables.allocateSpan (htables : Tables s) (env : Env) {con : Connection}
    (hlookup : lookupSpan con s = none) : Tables (allocateSpan env con s).1 := by
  unfold SecurityS2.allocateSpan
  dsimp only
  refine ⟨forall_update (fun _ _ (x y : Span) ↦ x.Used → y.Used → ¬ x.SameNodes y) htables.span ?_
    ?_, htables.mpan⟩
  · intro b _ _ hy hsame
    exact lookupSpan_none hlookup b hy ⟨hsame.1.symm, hsame.2.symm⟩
  · intro a _ hx _ hsame
    exact lookupSpan_none hlookup a hx hsame

/-- A new MPAN entry, for a key that no entry in use has. The entries before it are in use, as it is
the first unused one, or all are. -/
theorem Tables.allocateMpan (htables : Tables s) (env : Env) {ownerId : UInt16} {groupId : UInt8}
    (hnew : ∀ i, (s.mpanTable i).Used →
      ¬ ((s.mpanTable i).ownerId = ownerId ∧ (s.mpanTable i).groupId = groupId)) :
    Tables (allocateMpan env ownerId groupId s).1 := by
  unfold SecurityS2.allocateMpan
  dsimp only
  have hfull : ∀ a < (firstSlot (fun entry : Mpan ↦ entry.state == .notUsed)
      (random env s).2.mpanTable).getD (randomSlot mpanTableSize ((random env s).1.get 0)),
      (s.mpanTable a).Used := by
    intro a ha hunused
    have htest : ((s.mpanTable a).state == .notUsed) = true := by simp [hunused]
    obtain ⟨k, hk⟩ : ∃ k, firstSlot (fun entry : Mpan ↦ entry.state == .notUsed)
        (random env s).2.mpanTable = some k := firstSlot_isSome htest
    rw [hk] at ha
    have hbefore : ((s.mpanTable a).state == .notUsed) = false := firstSlot_before hk ha
    rw [htest] at hbefore
    contradiction
  refine ⟨htables.span,
    fun a b hab ↦ forall_update (fun a b (x y : Mpan) ↦ a < b → y.Used → ¬ x.SameGroup y)
    (fun a b _ ↦ htables.mpan a b) ?_ ?_ a b hab.ne hab⟩
  · intro b _ _ hy hsame
    exact hnew b hy ⟨hsame.1.symm, hsame.2.symm⟩
  · intro a _ hlt _ hsame
    exact hnew a (hfull a hlt) hsame

theorem quietClosed_tables : QuietClosed Tables where
  frame hspan hmpan _ _ _ hs := hs.congr hspan hmpan
  allocateSpan env con s hlookup hs := hs.allocateSpan env hlookup
  span s i change hmoves hs := by
    refine hs.modifySpan i change ⟨hmoves.lnode, hmoves.rnode⟩ fun hused ↦ ?_
    rcases hmoves.state with hsame | ⟨hold, _⟩
    · unfold Span.Used at hused ⊢
      rwa [← hsame]
    · exact hold
  mpan s i change hmoves hs := hs.modifyMpan i change ⟨hmoves.ownerId, hmoves.groupId⟩ hmoves.used

theorem transmitClosed_tables {env : Env}
    (hhook : ∀ s hook, Tables s → Tables (env.hook s hook)) : TransmitClosed env Tables where
  toQuietClosed := quietClosed_tables
  machine _ _ hs := hs.congr rfl rfl
  logged _ _ _ hs := hs.congr rfl rfl
  keys _ _ _ hs := hs.congr rfl rfl
  hook := hhook

end Tables

/-! ### The condition -/

/-- The entries in use of an owner and a group are of classes with a key, so that
`find_mpan_by_group_id` sees them. -/
def GroupVisible (ownerId : UInt16) (groupId : UInt8) (s : S2) : Prop :=
  ∀ i, (s.mpanTable i).Used → (s.mpanTable i).ownerId = ownerId →
    (s.mpanTable i).groupId = groupId → s.isLoaded (s.mpanTable i).classId = true

instance (ownerId : UInt16) (groupId : UInt8) (s : S2) :
    Decidable (GroupVisible ownerId groupId s) :=
  inferInstanceAs (Decidable (∀ i, (s.mpanTable i).Used → (s.mpanTable i).ownerId = ownerId →
    (s.mpanTable i).groupId = groupId → s.isLoaded (s.mpanTable i).classId = true))

/-- One clear extension without a context: the groups that have been named. -/
def groupExtension (ext groups : List UInt8) : List UInt8 × Bool :=
  if extType ext = typeSn then (groups, true)
  else if extType ext = typeMgrp then
    if extLen ext = 3 then (ext.getD 2 0 :: groups, true) else (groups, false)
  else if extType ext = typeMos then (groups, extLen ext == 2)
  else (groups, !extCritical ext)

/-- The groups that the clear extensions of a message name, as far as they can be parsed. -/
def namedGroups (msg : List UInt8) : List UInt8 :=
  if msg.getD 3 0 &&& extensionBitMask ≠ 0 then
    (parseExtensions (msg.length - authTagLen) groupExtension msg.length 4 (msg.drop 4) []).1
  else []

/-- A new entry gets the class of the peer of the context; that class has a key. -/
def PeerVisible (s : S2) : Prop := s.isLoaded s.peer.classId = true

instance (s : S2) : Decidable (PeerVisible s) :=
  inferInstanceAs (Decidable (_ = true))

/-- A sequence number is new to the SPAN entry of a connection. -/
def takesSeq (s : S2) (src : Connection) (seq : UInt8) : Bool :=
  match lookupSpan src s with
  | none => true
  | some i => (s.spanTable i).state == .noSeq || seqDuplWindowSize ≤ (s.spanTable i).rxSeq - seq

/-- A received singlecast meets no entry that `find_mpan_by_group_id` does not see: not for a group
that it names, not for a group that it names a second time, and not for a group of an encrypted
extension. -/
structure FrameSeesGroups (s : S2) (src : Connection) (buf : List UInt8) : Prop where
  named : ∀ groupId ∈ namedGroups buf, GroupVisible src.rNode groupId s
  again : PeerVisible s ∨ (namedGroups buf).Nodup
  encrypted : buf.getD 3 0 &&& encryptedExtensionBitMask ≠ 0 →
    (∀ groupId, GroupVisible src.rNode groupId s) ∧ (PeerVisible s ∨ namedGroups buf = [])

/-- The call meets no MPAN entry that `find_mpan_by_group_id` does not see: a multicast not one of
its group, and a received singlecast encapsulation not one of its sender. -/
def SeesGroups (s : S2) (call : Call) : Prop :=
  (∀ groupId, call.multicastGroup = some groupId → GroupVisible 0 groupId s) ∧
    ∀ src buf, call = .applicationCommandHandler src buf →
      buf.getD 0 0 = commandClassSecurity2 → buf.getD 1 0 = security2MessageEncapsulation →
      src.isMulticast = false → 4 + authTagLen ≤ buf.length →
      takesSeq s src (buf.getD 2 0) = true → FrameSeesGroups s src buf

section Visible

variable {s t : S2} {ownerId : UInt16} {groupId : UInt8}

theorem GroupVisible.congr (hvisible : GroupVisible ownerId groupId s)
    (hmpan : t.mpanTable = s.mpanTable) (hkeys : t.loadedKeys = s.loadedKeys) :
    GroupVisible ownerId groupId t := by
  unfold GroupVisible S2.isLoaded at hvisible ⊢
  rw [hmpan, hkeys]
  exact hvisible

/-- A change of one entry that keeps its key, takes no entry into use and leaves its class, or gives
it one with a key. -/
theorem GroupVisible.modifyMpan (hvisible : GroupVisible ownerId groupId s)
    (i : Fin mpanTableSize) (change : Mpan → Mpan)
    (hchange : (change (s.mpanTable i)).Used → (change (s.mpanTable i)).ownerId = ownerId →
      (change (s.mpanTable i)).groupId = groupId →
      s.isLoaded (change (s.mpanTable i)).classId = true) :
    GroupVisible ownerId groupId (s.modifyMpan i change) := by
  intro k hused howner hgroup
  change s.isLoaded _ = true
  by_cases hki : k = i
  · subst hki
    rw [modifyMpan_same] at hused howner hgroup ⊢
    exact hchange hused howner hgroup
  · rw [modifyMpan_other s change hki] at hused howner hgroup ⊢
    exact hvisible k hused howner hgroup

/-- A change of one entry that keeps its key and its class. -/
theorem GroupVisible.moves (hvisible : GroupVisible ownerId groupId s) (i : Fin mpanTableSize)
    (change : Mpan → Mpan) (hmoves : (s.mpanTable i).Moves (change (s.mpanTable i))) :
    GroupVisible ownerId groupId (s.modifyMpan i change) := by
  refine hvisible.modifyMpan i change fun hused howner hgroup ↦ ?_
  rw [hmoves.classId]
  exact hvisible i (hmoves.used hused) (hmoves.ownerId.symm.trans howner)
    (hmoves.groupId.symm.trans hgroup)

/-- The entry that `find_mpan_by_group_id` returns is in use. -/
theorem findMpanByGroupId_used (env : Env) (s : S2) (ownerId : UInt16) (groupId : UInt8) :
    ((findMpanByGroupId env ownerId groupId s).1.mpanTable
      (findMpanByGroupId env ownerId groupId s).2).Used := by
  unfold findMpanByGroupId
  split
  · rename_i i hfound
    exact (lookupMpan_some hfound).1
  · unfold allocateMpan
    dsimp only
    rw [modifyMpan_same]
    unfold Mpan.Used
    dsimp only
    split_ifs <;> simp

/-- A search leaves the other entries alone. -/
theorem findMpanByGroupId_other (env : Env) (s : S2) (ownerId : UInt16) (groupId : UInt8)
    {k : Fin mpanTableSize} (hk : k ≠ (findMpanByGroupId env ownerId groupId s).2) :
    (findMpanByGroupId env ownerId groupId s).1.mpanTable k = s.mpanTable k := by
  unfold findMpanByGroupId at hk ⊢
  split at hk
  · rfl
  · unfold allocateMpan at hk ⊢
    dsimp only at hk ⊢
    exact modifyMpan_other _ _ hk

theorem findMpanByGroupId_loadedKeys (env : Env) (s : S2) (ownerId : UInt16) (groupId : UInt8) :
    (findMpanByGroupId env ownerId groupId s).1.loadedKeys = s.loadedKeys := by
  unfold findMpanByGroupId
  split <;> rfl

theorem findMpanByGroupId_peer (env : Env) (s : S2) (ownerId : UInt16) (groupId : UInt8) :
    (findMpanByGroupId env ownerId groupId s).1.peer = s.peer := by
  unfold findMpanByGroupId
  split <;> rfl

/-- Where the entries of a group are seen, a search for the group adds no second one. -/
theorem Tables.findMpanByGroupId (htables : Tables s) (env : Env)
    (hvisible : GroupVisible ownerId groupId s) :
    Tables (findMpanByGroupId env ownerId groupId s).1 := by
  unfold SecurityS2.findMpanByGroupId
  split
  · exact htables
  · rename_i hnone
    refine htables.allocateMpan env fun i hused ⟨howner, hgroup⟩ ↦ ?_
    have hunseen := lookupMpan_none hnone i hused howner hgroup
    rw [hvisible i hused howner hgroup] at hunseen
    contradiction

/-- A search hides no entry of a group, unless it makes one of this group for a peer whose class has
no key. -/
theorem GroupVisible.findMpanByGroupId {ownerId' : UInt16} {groupId' : UInt8}
    (hvisible : GroupVisible ownerId groupId s) (env : Env)
    (hnew : PeerVisible s ∨ groupId' ≠ groupId) :
    GroupVisible ownerId groupId (findMpanByGroupId env ownerId' groupId' s).1 := by
  unfold SecurityS2.findMpanByGroupId
  split
  · exact hvisible
  · unfold SecurityS2.allocateMpan
    dsimp only
    refine GroupVisible.modifyMpan (s := (random env (random env s).2).2)
      (hvisible.congr rfl rfl) _ _ fun _ _ hgroup ↦ ?_
    exact hnew.resolve_right fun hne ↦ hne hgroup

end Visible

/-! ### Clear extensions -/

/-- What holds while the clear extensions of a frame are read that started in `start`. `seen` are
the groups named so far; the entries of a group stay visible, unless a new one was made for a peer
whose class has no key. -/
structure ReadingGroups (start : S2) (ownerId : UInt16) (span : Option (Fin spanTableSize))
    (state : ClearState) (seen : List UInt8) : Prop where
  tables : Tables state.s
  span : ∀ i, span = some i → (state.s.spanTable i).Used
  mpan : ∀ j, state.mpan = some j → (state.s.mpanTable j).Used
  peer : state.s.peer = start.peer
  keys : state.s.loadedKeys = start.loadedKeys
  visible : ∀ groupId, GroupVisible ownerId groupId start → PeerVisible start ∨ groupId ∉ seen →
    GroupVisible ownerId groupId state.s

/-- What the groups that a singlecast names so far must meet. -/
def SeesNamed (start : S2) (conn : Connection) (seen : List UInt8) : Prop :=
  conn.isMulticast = false →
    (∀ groupId ∈ seen, GroupVisible conn.rNode groupId start) ∧ (PeerVisible start ∨ seen.Nodup)

section Clear

variable (env : Env) (conn : Connection) {start : S2} {span : Option (Fin spanTableSize)}
  {state : ClearState} {seen : List UInt8}

/-- The SN extension moves on the SPAN entry of the frame. -/
theorem ReadingGroups.snExtension (hreading : ReadingGroups start conn.rNode span state seen)
    {ext : List UInt8} (hsn : extType ext = typeSn) :
    ReadingGroups start conn.rNode span (clearExtension env conn span ext state).1 seen := by
  unfold clearExtension
  rw [if_pos hsn]
  cases span with
  | none => exact hreading
  | some i =>
    dsimp only
    split_ifs
    · refine ⟨?_, ?_, hreading.mpan, hreading.peer, hreading.keys, fun groupId hstart hseen ↦
        (hreading.visible groupId hstart hseen).congr rfl rfl⟩
      · dsimp only
        exact hreading.tables.modifySpan i _ ⟨rfl, rfl⟩ fun _ ↦ hreading.span i rfl
      · rintro k ⟨⟩
        dsimp only
        rw [modifySpan_same]
        simp [Span.Used]
    · exact hreading

/-- The MGRP extension finds or makes the entry of the group it names. -/
theorem ReadingGroups.mgrpExtension (hreading : ReadingGroups start conn.rNode span state seen)
    (groupId : UInt8) (hnamed : SeesNamed start conn (groupId :: seen))
    (hsingle : conn.isMulticast = false) :
    ReadingGroups start conn.rNode span
      { state with
        s := (findMpanByGroupId env conn.rNode groupId state.s).1
        mpan := some (findMpanByGroupId env conn.rNode groupId state.s).2 } (groupId :: seen) := by
  obtain ⟨hvisible, hagain⟩ := hnamed hsingle
  have hpeer : PeerVisible state.s ↔ PeerVisible start := by
    unfold PeerVisible S2.isLoaded
    rw [hreading.peer, hreading.keys]
  have hgroup : GroupVisible conn.rNode groupId state.s := by
    refine hreading.visible groupId (hvisible groupId (by simp)) (hagain.imp_right fun hnodup ↦ ?_)
    exact (nodup_cons.mp hnodup).1
  refine ⟨hreading.tables.findMpanByGroupId env hgroup, ?_, ?_, ?_, ?_, ?_⟩
  · intro i hi
    dsimp only
    rw [findMpanByGroupId_spanTable]
    exact hreading.span i hi
  · rintro j ⟨⟩
    exact findMpanByGroupId_used env state.s conn.rNode groupId
  · exact (findMpanByGroupId_peer env state.s conn.rNode groupId).trans hreading.peer
  · exact (findMpanByGroupId_loadedKeys env state.s conn.rNode groupId).trans hreading.keys
  · intro other hother hseen
    have hbefore : PeerVisible start ∨ other ∉ seen :=
      hseen.imp_right fun hnot ↦ not_mem_of_not_mem_cons hnot
    refine (hreading.visible other hother hbefore).findMpanByGroupId env ?_
    exact hseen.imp hpeer.mpr fun hnot ↦ (ne_of_not_mem_cons hnot).symm

theorem readingGroups_extension (ext : List UInt8) (state : ClearState) (seen : List UInt8)
    (hreading : SeesNamed start conn seen → ReadingGroups start conn.rNode span state seen) :
    (SeesNamed start conn (groupExtension ext seen).1 →
        ReadingGroups start conn.rNode span (clearExtension env conn span ext state).1
          (groupExtension ext seen).1) ∧
      (clearExtension env conn span ext state).2 = (groupExtension ext seen).2 := by
  by_cases hsn : extType ext = typeSn
  · have hgroups : groupExtension ext seen = (seen, true) := by
      rw [groupExtension, if_pos hsn]
    have hgoes : (clearExtension env conn span ext state).2 = true := by
      unfold clearExtension
      rw [if_pos hsn]
      cases span with
      | none => rfl
      | some i =>
        dsimp only
        split_ifs <;> rfl
    rw [hgroups, hgoes]
    exact ⟨fun hnamed ↦ (hreading hnamed).snExtension env conn hsn, rfl⟩
  · unfold clearExtension groupExtension
    dsimp only
    rw [if_neg hsn, if_neg hsn]
    by_cases hmgrp : extType ext = typeMgrp
    · rw [if_pos hmgrp, if_pos hmgrp]
      by_cases hlen : extLen ext = 3
      · rw [if_neg (not_not.mpr hlen), if_pos hlen]
        cases hmulticast : conn.isMulticast with
        | true =>
          refine ⟨fun hnamed ↦ ?_, rfl⟩
          have hbefore := hreading fun hsingle ↦ absurd hmulticast (by simp [hsingle])
          rw [if_pos rfl]
          refine ⟨hbefore.tables, hbefore.span, fun j hj ↦ (lookupMpan_some hj).1, hbefore.peer,
            hbefore.keys, fun other hother hseen ↦ hbefore.visible other hother ?_⟩
          exact hseen.imp_right fun hnot ↦ not_mem_of_not_mem_cons hnot
        | false =>
          refine ⟨fun hnamed ↦ ?_, rfl⟩
          have hbefore : SeesNamed start conn seen := fun hsingle ↦
            ⟨fun other hother ↦ (hnamed hsingle).1 other (mem_cons_of_mem _ hother),
              (hnamed hsingle).2.imp_right fun hnodup ↦ (nodup_cons.mp hnodup).2⟩
          exact (hreading hbefore).mgrpExtension env conn _ hnamed hmulticast
      · rw [if_pos hlen, if_neg hlen]
        exact ⟨hreading, rfl⟩
    · rw [if_neg hmgrp, if_neg hmgrp]
      by_cases hmos : extType ext = typeMos
      · rw [if_pos hmos, if_pos hmos]
        by_cases hlen : extLen ext = 2
        · rw [if_neg (not_not.mpr hlen)]
          refine ⟨fun hnamed ↦ ?_, by simp [hlen]⟩
          have hbefore := hreading hnamed
          obtain ⟨mosList, heq⟩ := setNodeMos_eq state.s conn.rNode
          rw [heq]
          exact ⟨hbefore.tables.congr rfl rfl, hbefore.span, hbefore.mpan, hbefore.peer,
            hbefore.keys, fun other hother hseen ↦
              (hbefore.visible other hother hseen).congr rfl rfl⟩
        · rw [if_pos hlen]
          exact ⟨hreading, by simp [hlen]⟩
      · rw [if_neg hmos, if_neg hmos]
        exact ⟨hreading, rfl⟩

/-- The clear extensions of a frame whose named groups are seen. -/
theorem readingGroups_parseClear (msg : List UInt8) (htables : Tables start)
    (hspan : ∀ i, span = some i → (start.spanTable i).Used)
    (hnamed : SeesNamed start conn (namedGroups msg)) :
    ReadingGroups start conn.rNode span (parseClear env conn span msg ⟨start, none, none⟩).1
      (namedGroups msg) := by
  have hstart : ReadingGroups start conn.rNode span ⟨start, none, none⟩ [] :=
    ⟨htables, hspan, by simp, rfl, rfl, fun _ hvisible _ ↦ hvisible⟩
  unfold parseClear
  unfold namedGroups at hnamed ⊢
  split_ifs at hnamed ⊢
  · exact (parseExtensions_simulation
      (fun state seen ↦ SeesNamed start conn seen → ReadingGroups start conn.rNode span state seen)
      (readingGroups_extension env conn) _ _ _ fun _ ↦ hstart).1 hnamed
  · exact hstart

end Clear

/-! ### Decryption -/

/-- What holds while a frame is decrypted: its entries are in use, and if it has encrypted
extensions all entries of its sender are seen. -/
structure Decrypting (encrypted : Prop) (ownerId : UInt16) (span : Option (Fin spanTableSize))
    (mpan : Option (Fin mpanTableSize)) (s : S2) : Prop where
  tables : Tables s
  span : ∀ i, span = some i → (s.spanTable i).Used
  mpan : ∀ j, mpan = some j → (s.mpanTable j).Used
  visible : encrypted → ∀ groupId, GroupVisible ownerId groupId s

section Decrypt

variable {encrypted : Prop} {ownerId : UInt16} {span : Option (Fin spanTableSize)}
  {mpan : Option (Fin mpanTableSize)} {s t : S2}

theorem Decrypting.congr (hdecrypting : Decrypting encrypted ownerId span mpan s)
    (hspan : t.spanTable = s.spanTable) (hmpan : t.mpanTable = s.mpanTable)
    (hkeys : t.loadedKeys = s.loadedKeys) : Decrypting encrypted ownerId span mpan t := by
  refine ⟨hdecrypting.tables.congr hspan hmpan, ?_, ?_, fun hencrypted groupId ↦
    (hdecrypting.visible hencrypted groupId).congr hmpan hkeys⟩
  · rw [hspan]
    exact hdecrypting.span
  · rw [hmpan]
    exact hdecrypting.mpan

variable {i : Fin spanTableSize} (env : Env)

/-- A change of the SPAN entry of the frame that keeps its nodes and leaves it in use. -/
theorem Decrypting.modifySpan
    (hdecrypting : Decrypting encrypted ownerId (some i) mpan s) (change : Span → Span)
    (hnodes : (change (s.spanTable i)).SameNodes (s.spanTable i))
    (hused : (change (s.spanTable i)).Used) :
    Decrypting encrypted ownerId (some i) mpan (s.modifySpan i change) := by
  refine ⟨hdecrypting.tables.modifySpan i change hnodes fun _ ↦ hdecrypting.span i rfl, ?_,
    hdecrypting.mpan, fun hencrypted groupId ↦
      (hdecrypting.visible hencrypted groupId).congr rfl rfl⟩
  rintro k ⟨⟩
  rw [modifySpan_same]
  exact hused

theorem Decrypting.nextMpanState (hdecrypting : Decrypting encrypted ownerId span mpan s)
    (j : Fin mpanTableSize) : Decrypting encrypted ownerId span mpan (nextMpanState j s) := by
  have hmoves : (s.mpanTable j).Moves
      { s.mpanTable j with innerState := nextInnerState (s.mpanTable j).innerState } :=
    ⟨rfl, rfl, rfl, id⟩
  refine ⟨quietClosed_tables.nextMpanState j hdecrypting.tables, hdecrypting.span, ?_,
    fun hencrypted groupId ↦ (hdecrypting.visible hencrypted groupId).moves j _ hmoves⟩
  intro k hk
  unfold SecurityS2.nextMpanState
  by_cases hkj : k = j
  · subst hkj
    rw [modifyMpan_same]
    exact hdecrypting.mpan k hk
  · rw [modifyMpan_other s _ hkj]
    exact hdecrypting.mpan k hk

theorem Decrypting.attemptClass
    (hdecrypting : Decrypting encrypted ownerId (some i) mpan s) (aad ciphertext : List UInt8) :
    Decrypting encrypted ownerId (some i) mpan (attemptClass env i aad ciphertext s).1 ∧
      ((attemptClass env i aad ciphertext s).2 ≠ [] →
        (attemptClass env i aad ciphertext s).1.isLoaded
          ((attemptClass env i aad ciphertext s).1.spanTable i).classId = true) := by
  unfold SecurityS2.attemptClass
  dsimp only
  split_ifs with hloaded
  · refine ⟨?_, fun _ ↦ ?_⟩
    · dsimp only
      exact hdecrypting.modifySpan _ ⟨rfl, rfl⟩ (hdecrypting.span i rfl)
    · dsimp only
      rw [modifySpan_same]
      exact hloaded
  · exact ⟨hdecrypting, fun hplain ↦ absurd rfl hplain⟩

theorem Decrypting.nextClass (hdecrypting : Decrypting encrypted ownerId (some i) mpan s)
    (nonces : Option (Block × Block)) :
    Decrypting encrypted ownerId (some i) mpan (nextClass env i nonces s) := by
  have hmodified : ∀ classId rng, Decrypting encrypted ownerId (some i) mpan
      (s.modifySpan i fun span ↦ { span with classId := classId, rng := rng }) := fun _ _ ↦
    hdecrypting.modifySpan _ ⟨rfl, rfl⟩ (hdecrypting.span i rfl)
  exact (hmodified _ _).congr rfl rfl rfl

/-- The follow-up of a multicast group changes the state machine and the current MPAN only. -/
theorem fsmPostEvent_gotEncMsgMos (con : Connection) (s : S2) :
    (fsmPostEvent env (.gotEncMsgMos con) s).spanTable = s.spanTable ∧
      (fsmPostEvent env (.gotEncMsgMos con) s).mpanTable = s.mpanTable ∧
      (fsmPostEvent env (.gotEncMsgMos con) s).loadedKeys = s.loadedKeys := by
  unfold fsmPostEvent
  split <;> exact ⟨rfl, rfl, rfl⟩

theorem Decrypting.followUp (hdecrypting : Decrypting encrypted ownerId span mpan s)
    (conn : Connection) :
    Decrypting encrypted ownerId span mpan (followUp env conn mpan s).1 ∧
      (followUp env conn mpan s).1.spanTable = s.spanTable ∧
      (followUp env conn mpan s).1.loadedKeys = s.loadedKeys ∧
      (followUp env conn mpan s).2.rNode = conn.rNode := by
  unfold SecurityS2.followUp
  cases mpan with
  | none => exact ⟨hdecrypting, rfl, rfl, rfl⟩
  | some j =>
    dsimp only
    split_ifs
    · obtain ⟨hspan, hmpan, hkeys⟩ := fsmPostEvent_gotEncMsgMos env
        { conn with rxOptions := conn.rxOptions ||| rxFollowup } { s with mpan := some j }
      exact ⟨hdecrypting.congr hspan hmpan hkeys, hspan, hkeys, rfl⟩
    · exact ⟨hdecrypting.nextMpanState j, rfl, rfl, rfl⟩

/-- The class loop: after a success the class of the SPAN has a key. -/
theorem Decrypting.tryClasses (conn : Connection)
    (nonces : Option (Block × Block)) (aad ciphertext : List UInt8) (turns : ℕ) {s : S2}
    (hdecrypting : Decrypting encrypted ownerId (some i) mpan s) :
    let tried := tryClasses env conn i mpan nonces aad ciphertext turns s
    Decrypting encrypted ownerId (some i) mpan tried.1 ∧ tried.2.1.rNode = conn.rNode ∧
      (tried.2.2 ≠ [] → tried.1.isLoaded (tried.1.spanTable i).classId = true) := by
  dsimp only
  induction turns generalizing s with
  | zero => exact ⟨hdecrypting, rfl, fun hplain ↦ absurd rfl hplain⟩
  | succ turns ih =>
    obtain ⟨hattempt, hclass⟩ := hdecrypting.attemptClass env aad ciphertext
    rw [SecurityS2.tryClasses]
    generalize SecurityS2.attemptClass env i aad ciphertext s = attempt at hattempt hclass ⊢
    dsimp only
    split_ifs with hplain hstop
    · have hdone := hattempt.modifySpan (fun span ↦ { span with state := .negotiated }) ⟨rfl, rfl⟩
        (by simp [Span.Used])
      have hloaded : (attempt.1.modifySpan i fun span ↦
          { span with state := .negotiated }).isLoaded ((attempt.1.modifySpan i fun span ↦
          { span with state := .negotiated }).spanTable i).classId = true := by
        rw [modifySpan_same]
        exact hclass hplain
      generalize (attempt.1.modifySpan i fun span ↦ { span with state := .negotiated }) = done
        at hdone hloaded ⊢
      obtain ⟨hfollowed, hspan, hkeys, hnode⟩ :=
        hdone.followUp env { conn with classId := (done.spanTable i).classId }
      refine ⟨hfollowed, hnode, fun _ ↦ ?_⟩
      unfold S2.isLoaded at hloaded ⊢
      rw [hspan, hkeys]
      exact hloaded
    · exact ⟨hattempt, rfl, fun hplain ↦ absurd rfl hplain⟩
    · exact ih (hattempt.nextClass env nonces)

/-- `auth_fail` changes the entries of the frame only. -/
theorem tables_authFail {env : Env} (hhook : ∀ s hook, Tables s → Tables (env.hook s hook))
    (hdecrypting : Decrypting encrypted ownerId span mpan s) (conn : Connection) :
    Tables (authFail env conn span mpan s) := by
  have hmpan : Tables (invalidateMpan mpan s) := by
    cases mpan with
    | none => exact hdecrypting.tables
    | some j =>
      exact hdecrypting.tables.modifyMpan j (fun entry ↦ { entry with state := .mos }) ⟨rfl, rfl⟩
        fun _ ↦ hdecrypting.mpan j rfl
  have hspan : Tables (invalidateSpan span (invalidateMpan mpan s)) := by
    cases span with
    | none => exact hmpan
    | some i =>
      refine hmpan.modifySpan i (fun span ↦ { span with state := .sos }) ⟨rfl, rfl⟩ fun _ ↦ ?_
      cases mpan <;> exact hdecrypting.span i rfl
  unfold authFail
  dsimp only
  generalize invalidateSpan span (invalidateMpan mpan s) = invalid at hspan ⊢
  by_cases hmulticast : conn.isMulticast
  · rw [if_pos hmulticast]
    exact hspan
  · rw [if_neg hmulticast]
    exact (transmitClosed_tables hhook).sendNonceReport conn _ hspan

/-- What holds while the encrypted extensions of an authentic frame are read. -/
structure ReadingEncrypted (ownerId : UInt16) (classId : UInt8) (loadedKeys : BitVec 8)
    (state : S2 × Connection) : Prop where
  tables : Tables state.1
  visible : state.2.isMulticast = false → ∀ groupId, GroupVisible ownerId groupId state.1
  node : state.2.rNode = ownerId
  keys : state.1.loadedKeys = loadedKeys
  loaded : state.2.isMulticast = false → loadedKeys.getLsbD classId.toNat = true

/-- An encrypted extension finds the entry of its group, or makes one with the class of the SPAN. -/
theorem ReadingEncrypted.extension {classId : UInt8} {loadedKeys : BitVec 8}
    (ext : List UInt8) (state : S2 × Connection)
    (hreading : ReadingEncrypted ownerId classId loadedKeys state) :
    ReadingEncrypted ownerId classId loadedKeys (encryptedExtension env classId ext state).1 := by
  unfold encryptedExtension
  dsimp only
  split_ifs with hmpan hbad
  · exact hreading
  · obtain ⟨htables, hvisible, hnode, hkeys, hloaded⟩ := hreading
    have hsingle : state.2.isMulticast = false := by
      simpa using fun hmulticast ↦ hbad (Or.inl hmulticast)
    have hclass := hloaded hsingle
    replace hvisible := hvisible hsingle
    rw [hnode]
    have hfound := htables.findMpanByGroupId env (hvisible (ext.getD 2 0))
    have hused := findMpanByGroupId_used env state.1 ownerId (ext.getD 2 0)
    have hloadedKeys := findMpanByGroupId_loadedKeys env state.1 ownerId (ext.getD 2 0)
    have hother : ∀ k, k ≠ (findMpanByGroupId env ownerId (ext.getD 2 0) state.1).2 →
        (findMpanByGroupId env ownerId (ext.getD 2 0) state.1).1.mpanTable k =
          state.1.mpanTable k := fun k ↦ findMpanByGroupId_other env state.1 ownerId _
    generalize findMpanByGroupId env ownerId (ext.getD 2 0) state.1 = found
      at hfound hused hloadedKeys hother ⊢
    refine ⟨?_, fun _ groupId k hk howner hgroup ↦ ?_, rfl, hloadedKeys.trans hkeys, fun _ ↦ hclass⟩
    · exact hfound.modifyMpan found.2 (fun entry ↦
        { entry with innerState := padBlock (ext.drop 3), state := .set, classId := classId })
        ⟨rfl, rfl⟩ fun _ ↦ hused
    · change found.1.isLoaded _ = true
      unfold S2.isLoaded
      dsimp only at hk howner hgroup
      by_cases hkj : k = found.2
      · subst hkj
        rw [modifyMpan_same, hloadedKeys, hkeys]
        exact hclass
      · rw [modifyMpan_other _ _ hkj, hother k hkj] at hk howner hgroup ⊢
        rw [hloadedKeys]
        exact hvisible groupId k hk howner hgroup
  · exact hreading

theorem tables_finishDecrypt {env : Env} (hhook : ∀ s hook, Tables s → Tables (env.hook s hook))
    (msg plain : List UInt8) (hdecrypting : Decrypting encrypted ownerId span mpan s)
    (conn : Connection) (hnode : conn.rNode = ownerId)
    (hencrypted : conn.isMulticast = false → msg.getD 3 0 &&& encryptedExtensionBitMask ≠ 0 →
      encrypted)
    (hclass : plain ≠ [] → conn.isMulticast = false → s.isLoaded (spanClass span s) = true) :
    Tables (finishDecrypt env conn span mpan msg plain s).1 := by
  unfold finishDecrypt
  split_ifs with hplain
  · exact tables_authFail hhook hdecrypting conn
  · have htables : Tables (parseEncrypted env (spanClass span s) msg plain (s, conn)).1.1 := by
      unfold parseEncrypted
      split_ifs with hflag
      · have hstart : ReadingEncrypted ownerId (spanClass span s) s.loadedKeys (s, conn) :=
          ⟨hdecrypting.tables, fun hsingle ↦ hdecrypting.visible (hencrypted hsingle hflag), hnode,
            rfl, hclass hplain⟩
        exact (parseExtensions_invariant _ (fun ext state ↦
          ReadingEncrypted.extension env ext state) _ _ _ hstart).tables
      · exact hdecrypting.tables
    generalize parseEncrypted env (spanClass span s) msg plain (s, conn) = parsed at htables ⊢
    obtain ⟨⟨t, con⟩, _ | hdrLen⟩ := parsed
    · exact htables
    · exact htables

theorem tables_decryptParsed {env : Env} (hhook : ∀ s hook, Tables s → Tables (env.hook s hook))
    (conn : Connection) {i : Fin spanTableSize} (msg : List UInt8) (hdrLen : ℕ) {state : ClearState}
    (hdecrypting : Decrypting (msg.getD 3 0 &&& encryptedExtensionBitMask ≠ 0) conn.rNode (some i)
      state.mpan state.s) :
    Tables (decryptParsed env conn (some i) msg hdrLen state).1 := by
  unfold decryptParsed decryptable
  dsimp only
  by_cases hstate : (state.s.spanTable i).state = .negotiated ∨
      (state.s.spanTable i).state = .instantiate
  · rw [if_pos hstate]
    dsimp only
    unfold decryptBody
    dsimp only
    generalize makeAad state.s.myHomeId conn.rNode conn.lNode (msg.take hdrLen) msg.length = aad
    have hwork : Decrypting (msg.getD 3 0 &&& encryptedExtensionBitMask ≠ 0) conn.rNode (some i)
        state.mpan (if state.s.fsm = .idle ∧ (state.s.spanTable i).state = .instantiate then
          { state.s with workbuf := writeBuf state.s.workbuf 0 (msg.drop hdrLen) }
        else state.s) := by
      split_ifs
      · exact hdecrypting.congr rfl rfl rfl
      · exact hdecrypting
    generalize (if state.s.fsm = .idle ∧ (state.s.spanTable i).state = .instantiate then
          { state.s with workbuf := writeBuf state.s.workbuf 0 (msg.drop hdrLen) }
        else state.s) = work at hwork ⊢
    have hloop := hwork.tryClasses env conn state.nonces aad (msg.drop hdrLen) nSecClass
    dsimp only at hloop
    generalize tryClasses env conn i state.mpan state.nonces aad (msg.drop hdrLen) nSecClass work
      = tried at hloop ⊢
    obtain ⟨htried, hnode, hclass⟩ := hloop
    refine tables_finishDecrypt hhook msg _ htried _ hnode (fun _ hflag ↦ hflag) fun hplain _ ↦
      hclass fun hempty ↦ ?_
    simp [hempty] at hplain
  · rw [if_neg hstate]
    exact tables_authFail hhook hdecrypting conn

/-- A multicast finds entries of the tables, it makes none. -/
theorem tables_decryptParsed_multicast {env : Env}
    (hhook : ∀ s hook, Tables s → Tables (env.hook s hook)) (conn : Connection)
    (hmulticast : conn.isMulticast = true) (msg : List UInt8) (hdrLen : ℕ) {state : ClearState}
    (htables : Tables state.s) (hmpan : ∀ j, state.mpan = some j → (state.s.mpanTable j).Used) :
    Tables (decryptParsed env conn none msg hdrLen state).1 := by
  have hdecrypting : Decrypting False conn.rNode none state.mpan state.s :=
    ⟨htables, by simp, hmpan, False.elim⟩
  cases hfound : state.mpan with
  | none =>
    rw [hfound] at hdecrypting
    simp only [decryptParsed, decryptable, hfound]
    exact tables_authFail hhook hdecrypting conn
  | some j =>
    rw [hfound] at hdecrypting
    by_cases hset : (state.s.mpanTable j).state = .set
    · simp only [decryptParsed, decryptable, hfound, if_pos hset, decryptBody, decryptMulticast]
      have hsingle : ∀ con : Connection, con.rxOptions = conn.rxOptions → con.isMulticast ≠ false :=
        fun con hoptions ↦ by
          unfold Connection.isMulticast at hmulticast ⊢
          rw [hoptions, hmulticast]
          exact Bool.noConfusion
      exact tables_finishDecrypt hhook msg _ (hdecrypting.nextMpanState j) _ rfl
        (fun hno ↦ absurd hno (hsingle _ rfl)) fun _ hno ↦ absurd hno (hsingle _ rfl)
    · simp only [decryptParsed, decryptable, hfound, if_neg hset]
      exact tables_authFail hhook hdecrypting conn

end Decrypt

/-! ### Received frames -/

/-- The start of a singlecast keeps the peer and the keys, and its SPAN entry is in use. -/
theorem decryptSpan_singlecast {env : Env} {conn : Connection} {msg : List UInt8} {s t : S2}
    {span : Option (Fin spanTableSize)} (hstarted : decryptSpan env conn msg s = (t, some span))
    (hsingle : conn.isMulticast = false) :
    takesSeq s conn (msg.getD 2 0) = true ∧ t.peer = s.peer ∧ t.loadedKeys = s.loadedKeys ∧
      t.mpanTable = s.mpanTable ∧ ∃ i, span = some i ∧ (t.spanTable i).Used := by
  have hframe : (decryptSpan env conn msg s).1.peer = s.peer ∧
      (decryptSpan env conn msg s).1.loadedKeys = s.loadedKeys ∧
      (decryptSpan env conn msg s).1.mpanTable = s.mpanTable := by
    have hfirst := findSpanByNode_frame env conn s
    have hsecond := fun seq ↦ findSpanByNode_frame env conn
      ((findSpanByNode env conn s).1.modifySpan (findSpanByNode env conn s).2 fun span ↦
        { span with rxSeq := seq })
    simp only [decryptSpan, hsingle, verifySeq, Bool.false_eq_true, if_false]
    split_ifs
    · exact ⟨(hsecond _).1.trans hfirst.1, (hsecond _).2.1.trans hfirst.2.1,
        (hsecond _).2.2.trans hfirst.2.2⟩
    · contradiction
    · contradiction
    · exact hfirst
  rw [hstarted] at hframe
  have hentry : takesSeq s conn (msg.getD 2 0) = true ∧
      ∃ i, span = some i ∧ (t.spanTable i).Used := by
    unfold takesSeq
    cases hlookup : lookupSpan conn s with
    | none =>
      obtain ⟨new, k, heq, hnew⟩ := decryptSpan_new env msg hsingle hlookup
      rw [heq] at hstarted
      obtain ⟨rfl, rfl⟩ : new = t ∧ some k = span := by simpa using hstarted
      exact ⟨rfl, k, rfl, by simp [Span.Used, hnew]⟩
    | some k =>
      rw [decryptSpan_found env msg hsingle hlookup] at hstarted
      split_ifs at hstarted with hfresh
      · obtain ⟨rfl, rfl⟩ : (s.modifySpan k fun span ↦ { span with rxSeq := msg.getD 2 0 }) = t ∧
            some k = span := by simpa using hstarted
        refine ⟨by simpa using hfresh, k, rfl, ?_⟩
        rw [modifySpan_same]
        exact (lookupSpan_some hlookup).1
      · simp at hstarted
  exact ⟨hentry.1, hframe.1, hframe.2.1, hframe.2.2, hentry.2⟩

section Handle

variable {env : Env} (hhook : ∀ s hook, Tables s → Tables (env.hook s hook))
include hhook

theorem tables_decryptMsg (conn : Connection) (msg : List UInt8) {s : S2} (htables : Tables s)
    (hsees : conn.isMulticast = false → 4 + authTagLen ≤ msg.length →
      takesSeq s conn (msg.getD 2 0) = true → FrameSeesGroups s conn msg) :
    Tables (decryptMsg env conn msg s).1 := by
  have hclosed := transmitClosed_tables hhook
  unfold decryptMsg
  by_cases hlen : msg.length < 4 + authTagLen
  · rw [if_pos hlen]
    exact htables
  · rw [if_neg hlen]
    have hspan : Tables (decryptSpan env conn msg s).1 := by
      unfold decryptSpan
      dsimp only
      split_ifs
      · exact htables
      · exact hclosed.findSpanByNode env conn (hclosed.verifySeq env conn _ htables)
      · exact hclosed.verifySeq env conn _ htables
    obtain ⟨⟨t, span⟩, hstarted⟩ : ∃ started, decryptSpan env conn msg s = started := ⟨_, rfl⟩
    rw [hstarted] at hspan ⊢
    cases span with
    | none => exact hspan
    | some span =>
      have hparsed :
          SeesNamed t conn (namedGroups msg) → (∀ i, span = some i → (t.spanTable i).Used) →
          ReadingGroups t conn.rNode span (parseClear env conn span msg ⟨t, none, none⟩).1
            (namedGroups msg) := fun hnamed hused ↦
        readingGroups_parseClear env conn msg hspan hused hnamed
      dsimp only
      generalize parseClear env conn span msg ⟨t, none, none⟩ = parsed at hparsed ⊢
      cases hmulticast : conn.isMulticast with
      | true =>
        obtain rfl : span = none := by
          simp only [decryptSpan, hmulticast, if_pos, Prod.mk.injEq, Option.some.injEq] at hstarted
          exact hstarted.2.symm
        have hreading := hparsed (fun hno ↦ absurd (hmulticast.symm.trans hno) (by simp)) (by simp)
        obtain ⟨state, _ | hdrLen⟩ := parsed
        · exact hreading.tables
        · exact tables_decryptParsed_multicast hhook conn hmulticast msg hdrLen hreading.tables
            hreading.mpan
      | false =>
        obtain ⟨hfresh, hpeer, hkeys, hmpan, i, rfl, hused⟩ :=
          decryptSpan_singlecast hstarted hmulticast
        obtain ⟨hnamed, hagain, hencrypted⟩ := hsees hmulticast (Nat.not_lt.mp hlen) hfresh
        have hvisible : ∀ groupId, GroupVisible conn.rNode groupId s →
            GroupVisible conn.rNode groupId t := fun _ hgroup ↦ hgroup.congr hmpan hkeys
        have hpeerVisible : PeerVisible s → PeerVisible t := by
          unfold PeerVisible S2.isLoaded
          rw [hpeer, hkeys]
          exact id
        have hreading := hparsed (fun _ ↦
          ⟨fun groupId hgroup ↦ hvisible groupId (hnamed groupId hgroup),
            hagain.imp_left hpeerVisible⟩) (by rintro _ ⟨⟩; exact hused)
        obtain ⟨state, _ | hdrLen⟩ := parsed
        · exact hreading.tables
        · refine tables_decryptParsed hhook conn msg hdrLen
            ⟨hreading.tables, hreading.span, hreading.mpan, fun hflag groupId ↦ ?_⟩
          obtain ⟨hall, hnew⟩ := hencrypted hflag
          refine hreading.visible groupId (hvisible groupId (hall groupId)) ?_
          exact hnew.imp hpeerVisible fun hnone ↦ by simp [hnone]

end Handle

/-! ### Calls and runs -/

theorem tables_enter (env : Env) (hhook : ∀ s hook, Tables s → Tables (env.hook s hook)) (s : S2)
    (call : Call) (hsees : SeesGroups s call) (htables : Tables s) : Tables (enter env s call) := by
  refine (transmitClosed_tables hhook).enter call ?_ ?_ htables
  · intro con bytes hgroup
    have hvisible : GroupVisible 0 con.rNode.toUInt8 (setPeer con bytes s) :=
      (hsees.1 _ hgroup).congr rfl rfl
    exact (htables.congr (t := setPeer con bytes s) rfl rfl).findMpanByGroupId env hvisible
  · rintro src buf rfl hclass hcommand
    exact tables_decryptMsg hhook src buf htables (hsees.2 src buf rfl hclass hcommand)

/-- After `S2_free_mpan` of an owner and a group, a search for them finds nothing: the entry it
frees is the one that is in use. -/
theorem Tables.lookupMpan_freeMpan {s : S2} (htables : Tables s) (ownerId : UInt16)
    (groupId : UInt8) : lookupMpan ownerId groupId (freeMpan ownerId groupId s) = none := by
  by_contra hfound
  obtain ⟨j, hj⟩ := Option.ne_none_iff_exists'.mp hfound
  obtain ⟨hused, howner, hgroup, -⟩ := lookupMpan_some hj
  cases hfirst : firstSlot (fun entry : Mpan ↦ entry.groupId == groupId && entry.ownerId == ownerId)
    s.mpanTable with
  | none =>
    simp only [freeMpan, hfirst] at howner hgroup
    have htest := firstSlot_none.mp hfirst j
    simp [howner, hgroup] at htest
  | some i =>
    simp only [freeMpan, hfirst] at hused howner hgroup
    have htest := firstSlot_some hfirst
    simp only [Bool.and_eq_true, beq_iff_eq] at htest
    have hji : j ≠ i := by
      rintro rfl
      rw [modifyMpan_same] at hused
      exact hused rfl
    rw [modifyMpan_other s _ hji] at hused howner hgroup
    rcases lt_or_gt_of_ne hji with hlt | hgt
    · have hbefore := firstSlot_before hfirst hlt
      simp [howner, hgroup] at hbefore
    · exact htables.mpan i j hgt hused ⟨htest.2.trans howner.symm, htest.1.trans hgroup.symm⟩

/-- A received frame is a call of the kind if its groups are seen. -/
theorem seesGroups_of_frame {s : S2} {src : Connection} {buf : List UInt8}
    (hsees : FrameSeesGroups s src buf) : SeesGroups s (.applicationCommandHandler src buf) := by
  refine ⟨fun _ hgroup ↦ by simp [Call.multicastGroup] at hgroup, ?_⟩
  rintro _ _ ⟨rfl, rfl⟩ _ _ _ _ _
  exact hsees

/-- In every run from `S2_init_ctx` whose calls meet no MPAN entry that `find_mpan_by_group_id` does
not see, no two SPAN entries in use are of the same nodes, no two MPAN entries in use are of the
same owner and group, and after `S2_free_mpan` a search for the owner and the group finds
nothing. -/
theorem tables_unique (env : Env) (hreacts : env.Reacts SeesGroups) (home : UInt32)
    (keystore : Fin 5 → Option Block) (drbg : Drbg) (calls : List Call)
    (hsees : AllSteps (enter env) SeesGroups (initCtx env home keystore drbg) calls) :
    let s := run (enter env) (initCtx env home keystore drbg) calls
    (∀ i j, i ≠ j → (s.spanTable i).Used → (s.spanTable j).Used →
        ¬ (s.spanTable i).SameNodes (s.spanTable j)) ∧
      (∀ i j, i ≠ j → (s.mpanTable i).Used → (s.mpanTable j).Used →
        ¬ (s.mpanTable i).SameGroup (s.mpanTable j)) ∧
      ∀ ownerId groupId, lookupMpan ownerId groupId (freeMpan ownerId groupId s) = none := by
  intro s
  have hstart : Tables (initCtx env home keystore drbg) := by
    obtain ⟨sg, loadedKeys, heq⟩ := initCtx_eq env home keystore drbg
    rw [heq]
    exact ⟨fun _ _ _ hused ↦ absurd rfl hused, fun _ _ _ hused ↦ absurd rfl hused⟩
  have htables : Tables s := run_invariant_of_reacts tables_enter hreacts hstart hsees
  refine ⟨htables.span, fun i j hij hi hj hsame ↦ ?_, htables.lookupMpan_freeMpan⟩
  rcases lt_or_gt_of_ne hij with hlt | hgt
  · exact htables.mpan i j hlt hj hsame
  · exact htables.mpan j i hgt hi ⟨hsame.1.symm, hsame.2.symm⟩

/-- The keystore of a gateway that has been granted one class only. -/
def sampleKeystore (granted : Fin 5) (slot : Fin 5) : Option Block :=
  if slot = granted then some zeroBlock else none

/-- Node 2 sends node 1 a follow-up of its group 5, with nine bytes that authenticate nothing. -/
def sampleFollowUp (seq : UInt8) : Call :=
  .applicationCommandHandler sampleConnection
    ([commandClassSecurity2, security2MessageEncapsulation, seq, 1, 3, 0x43, 5] ++
      List.replicate 9 0)

/-- Two follow-ups of one group share an entry, when the class of the peer has a key. -/
theorem tables_unique_twoFollowUps :
    (((run (enter sampleEnv) (initCtx sampleEnv 0 (sampleKeystore 0) Drbg.zero)
        [sampleFollowUp 6, sampleFollowUp 7]).mpanTable 0).state = .mos) ∧
      (∀ i j, i ≠ j →
        ((run (enter sampleEnv) (initCtx sampleEnv 0 (sampleKeystore 0) Drbg.zero)
          [sampleFollowUp 6, sampleFollowUp 7]).mpanTable i).Used →
        ((run (enter sampleEnv) (initCtx sampleEnv 0 (sampleKeystore 0) Drbg.zero)
          [sampleFollowUp 6, sampleFollowUp 7]).mpanTable j).Used →
        ¬ ((run (enter sampleEnv) (initCtx sampleEnv 0 (sampleKeystore 0) Drbg.zero)
          [sampleFollowUp 6, sampleFollowUp 7]).mpanTable i).SameGroup
          ((run (enter sampleEnv) (initCtx sampleEnv 0 (sampleKeystore 0) Drbg.zero)
          [sampleFollowUp 6, sampleFollowUp 7]).mpanTable j)) := by
  refine ⟨by decide +kernel, ?_⟩
  refine (tables_unique sampleEnv (sampleEnv_reacts _) 0 (sampleKeystore 0) Drbg.zero
    [sampleFollowUp 6, sampleFollowUp 7] ?_).2.1
  simp only [allSteps_cons, allSteps_nil, and_true]
  constructor
  · exact seesGroups_of_frame ⟨by decide +kernel, by decide +kernel,
      fun hflag ↦ absurd (by decide +kernel) hflag⟩
  · exact seesGroups_of_frame ⟨by decide +kernel, by decide +kernel,
      fun hflag ↦ absurd (by decide +kernel) hflag⟩

/-- A gateway with the key of class 2 only gets two entries for one owner and group from two
follow-ups, and when the key of class 0 arrives, one of them is still found after the other has been
freed. -/
theorem mpan_duplicated :
    (¬ ∀ (env : Env), env.Reacts (fun _ _ ↦ True) → ∀ (home : UInt32)
        (keystore : Fin 5 → Option Block) (drbg : Drbg) (calls : List Call)
        (i j : Fin mpanTableSize), i ≠ j →
        ((run (enter env) (initCtx env home keystore drbg) calls).mpanTable i).Used →
        ((run (enter env) (initCtx env home keystore drbg) calls).mpanTable j).Used →
        ¬ ((run (enter env) (initCtx env home keystore drbg) calls).mpanTable i).SameGroup
          ((run (enter env) (initCtx env home keystore drbg) calls).mpanTable j)) ∧
      ¬ ∀ (env : Env), env.Reacts (fun _ _ ↦ True) → ∀ (home : UInt32)
        (keystore : Fin 5 → Option Block) (drbg : Drbg) (calls : List Call) (ownerId : UInt16)
        (groupId : UInt8),
        lookupMpan ownerId groupId (freeMpan ownerId groupId
          (run (enter env) (initCtx env home keystore drbg) calls)) = none := by
  constructor
  · intro hclaim
    refine hclaim sampleEnv (sampleEnv_reacts _) 0 (sampleKeystore 2) Drbg.zero
      [sampleFollowUp 6, sampleFollowUp 7] 0 1 ?_ ?_ ?_ ?_ <;> decide +kernel
  · intro hclaim
    have hnone := hclaim sampleEnv (sampleEnv_reacts _) 0 (sampleKeystore 2) Drbg.zero
      [sampleFollowUp 6, sampleFollowUp 7, .networkKeyUpdate 0 zeroBlock false] 2 5
    revert hnone
    decide +kernel

end ZipGateway.SecurityS2
