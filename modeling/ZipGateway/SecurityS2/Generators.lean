import ZipGateway.SecurityS2.Plaintext

/-!
# Frames and the generators of their nonces

A frame is encrypted with a nonce that is drawn from the generator of its SPAN entry. When the
generator of a frame is `Ahead` of the frames before it, it is a later state of the generator of
each of them, or the two nodes have got a new generator in between: a frame was encrypted with a
generator that was just seeded, or a nonce of ours took the place of the generator. The invariant
`SpansAhead` says that the generators of the negotiated entries are ahead of all frames.

The machine encrypts again when a nonce report arrives, also when the report is too short to carry a
nonce, and when a multicast arrives. The entry may have no generator then, and the nonce is drawn
from whatever is in its place. Nothing is said about such a frame (`Encryption.Synced`); it does not
take the generator of another one away.
-/

set_option autoImplicit false

namespace ZipGateway.SecurityS2

open Function Lib List

/-! ### Generators of frames -/

def Connection.nodes (con : Connection) : UInt16 × UInt16 := (con.lNode, con.rNode)

/-- The two nodes of an entry. -/
def Span.nodes (span : Span) : UInt16 × UInt16 := (span.lnode, span.rnode)

/-- The entry had a generator, or the nonce of the other node to seed one with. -/
def Encryption.Synced (encryption : Encryption) : Prop :=
  encryption.state = .negotiated ∨ encryption.state = .sosRemoteNonce

/-- The two nodes get a new generator: a frame is encrypted with a generator that was just seeded,
or a nonce is sent, which takes the place of the generator. -/
def Act.renews (nodes : UInt16 × UInt16) : Act → Bool
  | .sentFrame con _ (some encryption) =>
    con.nodes == nodes && encryption.state == .sosRemoteNonce
  | .sentNoCb con frame => con.nodes == nodes && frame.getD 3 0 &&& sosBitMask != 0
  | _ => false

/-- The act is a frame between the two nodes, with a nonce from this state of a generator. -/
def Act.Draws (nodes : UInt16 × UInt16) (rng : Drbg) : Act → Prop
  | .sentFrame con _ (some encryption) =>
    con.nodes = nodes ∧ encryption.Synced ∧ encryption.rng = rng
  | _ => False

/-- The two nodes have got a new generator since the last frame between them. -/
def Renewed (log : List Act) (nodes : UInt16 × UInt16) : Prop :=
  ∀ later act older used, log = later ++ act :: older → act.Draws nodes used →
    later.any (Act.renews nodes) = true

/-- The generator is a later state of the generator of each frame between the two nodes, or they
have got a new generator since that frame. -/
def Ahead (aes : BlockCipher) (log : List Act) (nodes : UInt16 × UInt16) (rng : Drbg) : Prop :=
  ∀ later act older used, log = later ++ act :: older → act.Draws nodes used →
    later.any (Act.renews nodes) = true ∨ ∃ k, rng = (advance aes)^[k + 1] used

/-- The nonce is not that of an earlier frame between the same nodes: the generator was just seeded
or was ahead of the earlier frames. -/
def Encryption.Fresh (aes : BlockCipher) (older : List Act) (con : Connection)
    (encryption : Encryption) : Prop :=
  encryption.Synced → encryption.state = .sosRemoteNonce ∨ Ahead aes older con.nodes encryption.rng

/-- Every frame that `S2_send_frame` was given is a Nonce Get, or an encapsulation whose nonce is
not that of an earlier frame. -/
def DrawnOnce (aes : BlockCipher) (log : List Act) : Prop :=
  ∀ later con frame encryption older, log = later ++ .sentFrame con frame encryption :: older →
    SentFrom aes (Encryption.Fresh aes older con) con frame encryption

section Log

variable {aes : BlockCipher} {log : List Act} {act : Act} {nodes : UInt16 × UInt16} {rng : Drbg}

theorem Act.Draws.unique {used : Drbg} (hdraws : act.Draws nodes rng)
    (hused : act.Draws nodes used) : used = rng := by
  cases act with
  | sentFrame con frame encryption =>
    cases encryption with
    | none => exact hdraws.elim
    | some built => exact hused.2.2.symm.trans hdraws.2.2
  | _ => exact hdraws.elim

theorem Renewed.ahead (hrenewed : Renewed log nodes) : Ahead aes log nodes rng :=
  fun later act older used hsplit hdraws ↦ Or.inl (hrenewed later act older used hsplit hdraws)

/-- Something is logged that is no frame between the two nodes. -/
theorem Renewed.cons (hrenewed : Renewed log nodes) (hact : ∀ used, ¬ act.Draws nodes used) :
    Renewed (act :: log) nodes := by
  intro later act' older used hsplit hdraws
  cases later with
  | nil =>
    obtain ⟨rfl, -⟩ := List.cons.inj hsplit
    exact absurd hdraws (hact used)
  | cons first later =>
    obtain ⟨-, hrest⟩ := List.cons.inj hsplit
    rw [any_cons, hrenewed later act' older used hrest hdraws, Bool.or_true]

theorem Ahead.cons (hahead : Ahead aes log nodes rng) (hact : ∀ used, ¬ act.Draws nodes used) :
    Ahead aes (act :: log) nodes rng := by
  intro later act' older used hsplit hdraws
  cases later with
  | nil =>
    obtain ⟨rfl, -⟩ := List.cons.inj hsplit
    exact absurd hdraws (hact used)
  | cons first later =>
    obtain ⟨-, hrest⟩ := List.cons.inj hsplit
    rcases hahead later act' older used hrest hdraws with hany | hdrawn
    · rw [any_cons, hany, Bool.or_true]
      exact Or.inl rfl
    · exact Or.inr hdrawn

/-- The two nodes get a new generator, and no frame. -/
theorem renewed_of_renews (hact : act.renews nodes = true)
    (hnone : ∀ used, ¬ act.Draws nodes used) : Renewed (act :: log) nodes := by
  intro later act' older used hsplit hdraws
  cases later with
  | nil =>
    obtain ⟨rfl, -⟩ := List.cons.inj hsplit
    exact absurd hdraws (hnone used)
  | cons first later =>
    rw [← (List.cons.inj hsplit).1, any_cons, hact, Bool.true_or]

/-- Another nonce is drawn from the generator. -/
theorem Ahead.advance (hahead : Ahead aes log nodes rng) :
    Ahead aes log nodes (advance aes rng) := by
  intro later act older used hsplit hdraws
  rcases hahead later act older used hsplit hdraws with hany | ⟨k, hdrawn⟩
  · exact Or.inl hany
  · refine Or.inr ⟨k + 1, ?_⟩
    rw [Function.iterate_succ_apply', ← hdrawn]

/-- Something is logged that is no frame, or a frame whose generator is new or ahead. -/
theorem DrawnOnce.cons (honce : DrawnOnce aes log)
    (hact : ∀ con frame encryption, act = .sentFrame con frame encryption →
      SentFrom aes (Encryption.Fresh aes log con) con frame encryption) :
    DrawnOnce aes (act :: log) := by
  intro later con frame encryption older hsplit
  cases later with
  | nil =>
    obtain ⟨heq, rfl⟩ := List.cons.inj hsplit
    exact hact con frame encryption heq
  | cons first later =>
    exact honce later con frame encryption older (List.cons.inj hsplit).2

theorem Act.isNote.not_draws (hnote : act.isNote = true) (nodes : UInt16 × UInt16) (used : Drbg) :
    ¬ act.Draws nodes used := by
  cases act with
  | sentFrame con frame encryption => cases hnote
  | _ => exact id

end Log

/-! ### The invariant of the table -/

/-- No two entries in use have the same nodes. -/
def NodesUnique (table : Fin spanTableSize → Span) : Prop :=
  ∀ i j, (table i).Used → (table j).Used → (table i).nodes = (table j).nodes → i = j

/-- No two entries in use have the same nodes, the generator of a negotiated entry is ahead of all
frames between its nodes, and an entry that holds a nonce of ours, or was seeded from one, has got
it after these frames. -/
structure SpansAhead (aes : BlockCipher) (table : Fin spanTableSize → Span) (log : List Act) :
    Prop where
  unique : NodesUnique table
  ahead : ∀ i, (table i).state = .negotiated → Ahead aes log (table i).nodes (table i).rng
  renewed : ∀ i, (table i).state = .sosLocalNonce ∨ (table i).state = .instantiate →
    Renewed log (table i).nodes
  once : DrawnOnce aes log

section Table

variable {aes : BlockCipher} {table : Fin spanTableSize → Span} {log : List Act}

theorem NodesUnique.update (hunique : NodesUnique table) (i : Fin spanTableSize) {new : Span}
    (hother : ∀ j, j ≠ i → (table j).Used → new.Used → (table j).nodes ≠ new.nodes) :
    NodesUnique (update table i new) := by
  intro j k hj hk hnodes
  by_cases hji : j = i
  · by_cases hki : k = i
    · rw [hji, hki]
    · rw [hji, update_self] at hj hnodes
      rw [update_of_ne hki] at hk hnodes
      exact absurd hnodes.symm (hother k hki hk hj)
  · rw [update_of_ne hji] at hj hnodes
    by_cases hki : k = i
    · rw [hki, update_self] at hk hnodes
      exact absurd hnodes (hother j hji hj hk)
    · rw [update_of_ne hki] at hk hnodes
      exact hunique j k hj hk hnodes

/-- The nodes of an entry in use are those of no other entry in use. -/
theorem NodesUnique.other (hunique : NodesUnique table) {i : Fin spanTableSize} {new : Span}
    (hnodes : new.nodes = (table i).nodes) (hused : (table i).Used) (j : Fin spanTableSize)
    (hne : j ≠ i) (hother : (table j).Used) : (table j).nodes ≠ new.nodes := by
  intro hsame
  exact hne (hunique j i hother hused (hsame.trans hnodes))

/-- One entry is changed; it is not taken into use for other nodes. -/
theorem SpansAhead.update (hspans : SpansAhead aes table log) (i : Fin spanTableSize) {new : Span}
    (hother : ∀ j, j ≠ i → (table j).Used → new.Used → (table j).nodes ≠ new.nodes)
    (hahead : new.state = .negotiated → Ahead aes log new.nodes new.rng)
    (hrenewed : new.state = .sosLocalNonce ∨ new.state = .instantiate → Renewed log new.nodes) :
    SpansAhead aes (update table i new) log := by
  refine ⟨hspans.unique.update i hother, fun j hstate ↦ ?_, fun j hstate ↦ ?_, hspans.once⟩
  · by_cases hji : j = i
    · rw [hji, update_self] at hstate ⊢
      exact hahead hstate
    · rw [update_of_ne hji] at hstate ⊢
      exact hspans.ahead j hstate
  · by_cases hji : j = i
    · rw [hji, update_self] at hstate ⊢
      exact hrenewed hstate
    · rw [update_of_ne hji] at hstate ⊢
      exact hspans.renewed j hstate

/-- Something is logged that is no frame, or a frame whose nonce is not from a generator. -/
theorem SpansAhead.logged (hspans : SpansAhead aes table log) {act : Act}
    (hnone : ∀ nodes used, ¬ act.Draws nodes used)
    (hact : ∀ con frame encryption, act = .sentFrame con frame encryption →
      SentFrom aes (Encryption.Fresh aes log con) con frame encryption) :
    SpansAhead aes table (act :: log) :=
  ⟨hspans.unique, fun i hstate ↦ (hspans.ahead i hstate).cons (hnone _),
    fun i hstate ↦ (hspans.renewed i hstate).cons (hnone _), hspans.once.cons hact⟩

theorem SpansAhead.note (hspans : SpansAhead aes table log) {act : Act}
    (hnote : act.isNote = true) : SpansAhead aes table (act :: log) := by
  refine hspans.logged (Act.isNote.not_draws hnote) fun con frame encryption heq ↦ ?_
  rw [heq] at hnote
  cases hnote

/-- A nonce is stored in an entry and sent. -/
theorem SpansAhead.localNonce (hspans : SpansAhead aes table log) (i : Fin spanTableSize)
    {new : Span} {con : Connection} {frame : List UInt8} (hused : (table i).Used)
    (hnodes : (table i).nodes = con.nodes) (hnew : new.nodes = (table i).nodes)
    (hstate : new.state = .sosLocalNonce) (hsos : frame.getD 3 0 &&& sosBitMask ≠ 0) :
    SpansAhead aes (Function.update table i new) (.sentNoCb con frame :: log) := by
  have hnote : SpansAhead aes table (.sentNoCb con frame :: log) := hspans.note rfl
  refine hnote.update i (fun j hne hj _ ↦ hspans.unique.other hnew hused j hne hj) (fun h ↦ ?_)
    fun _ ↦ ?_
  · rw [hstate] at h
    cases h
  · refine renewed_of_renews ?_ fun _ ↦ id
    rw [hnew, hnodes, Act.renews, beq_self_eq_true, Bool.true_and]
    exact bne_iff_ne.mpr hsos

end Table

/-- The invariant of the context, with what was logged before it was set up. -/
def Fresh (aes : BlockCipher) (past : List Act) (s : S2) : Prop :=
  SpansAhead aes s.spanTable (s.log ++ past)

section Changes

variable {aes : BlockCipher} {past : List Act} {s t : S2}

/-- The table and the log stay. -/
theorem Fresh.congr (hfresh : Fresh aes past s) (hspan : t.spanTable = s.spanTable)
    (hlog : t.log = s.log) : Fresh aes past t := by
  unfold Fresh
  rw [hspan, hlog]
  exact hfresh

theorem Fresh.note (hfresh : Fresh aes past s) {act : Act} (hnote : act.isNote = true) :
    Fresh aes past (s.logged act) :=
  SpansAhead.note hfresh hnote

/-- A new entry, for nodes that no entry in use has. -/
theorem Fresh.allocateSpan (hfresh : Fresh aes past s) (env : Env) {con : Connection}
    (hnone : lookupSpan con s = none) : Fresh aes past (allocateSpan env con s).1 := by
  rw [allocateSpan_eq]
  refine SpansAhead.update hfresh (SecurityS2.allocateSpan env con s).2
    (fun j _ hused _ hnodes ↦ ?_) ?_ ?_
  · obtain ⟨hlocal, hremote⟩ := Prod.mk.inj hnodes
    exact lookupSpan_none hnone j hused ⟨hlocal, hremote⟩
  · rintro ⟨⟩
  · rintro (⟨⟨⟩⟩ | ⟨⟨⟩⟩)

end Changes

/-! ### Encrypting a frame -/

section Encrypt

variable (env : Env) {past : List Act} (s : S2)

end Encrypt

/-! ### Transmissions -/

section Transmit

variable {env : Env} {past : List Act}
  (hhook : ∀ s hook, Fresh env.aes past s → Fresh env.aes past (env.hook s hook)) {s : S2}

include hhook

end Transmit

end ZipGateway.SecurityS2
