import ZipGateway.Scheme0.Footprint

/-!
# The identifiers of local nonces

A received frame names the local nonce it was made with by the first byte of the nonce, so the live
nonces that a local node has issued to a peer should differ there. Both generators draw until the
byte is unused, but `encrypt_msg` looks it up in the wrong direction: its nonce is issued by `snode`
to `dnode`, and the draw is compared with the nonces that `dnode` has issued to `snode`. So a reply
nonce can have the identifier of a live nonce that `sec0_send_nonce` has issued
(`ident_shared_by_reply`).

`DrawsFresh` says of a call that this does not happen in it, and `idents_distinct` is what follows
for the runs of such calls. A nonce report comes from another node than the local ones.
-/

set_option autoImplicit false

namespace ZipGateway.Scheme0

open Function Lib

/-! ### The invariant -/

/-- Two live nonces of one pair of nodes. -/
def NonceEntry.SamePair (first second : NonceEntry) : Prop :=
  0 < first.timeout ∧ 0 < second.timeout ∧ first.src = second.src ∧ first.dst = second.dst

theorem NonceEntry.SamePair.symm {first second : NonceEntry} (hpair : first.SamePair second) :
    second.SamePair first :=
  ⟨hpair.2.1, hpair.1, hpair.2.2.1.symm, hpair.2.2.2.symm⟩

/-- The live nonces that a local node has issued to a peer differ in their identifiers, and one of
them at most is a reply nonce. -/
structure Idents (isLocal : UInt8 → Prop) (s : S0) : Prop where
  ident : ∀ i j, i ≠ j → (s.nonceTable i).SamePair (s.nonceTable j) →
    isLocal (s.nonceTable i).src → (s.nonceTable i).nonce.ident ≠ (s.nonceTable j).nonce.ident
  reply : ∀ i j, i ≠ j → (s.nonceTable i).SamePair (s.nonceTable j) →
    (s.nonceTable i).replyNonce = true → (s.nonceTable j).replyNonce = false

/-! ### The condition -/

/-- The nonce that `encrypt_msg` draws when a nonce report makes it run. -/
def replyDraw (src dst : UInt8) (nonce : Nonce) (s : S0) : Option Nonce :=
  (drawWhile (fun own ↦
    (getNonce src dst (some own.ident) (registerNonce src dst false nonce s)).isSome) s.prng).map
    Prod.fst

/-- A nonce report does not come from a local node, and if it makes `encrypt_msg` run, the nonce
drawn there does not have the identifier of a live nonce that `sec0_send_nonce` has issued to the
peer. -/
def DrawsFresh (isLocal : UInt8 → Prop) (s : S0) : Call → Prop
  | .nonceReport src dst nonce =>
    ¬ isLocal src ∧ ((reportTarget src dst nonce s).isSome = true →
      ∀ own, replyDraw src dst nonce s = some own →
        ∀ i, (s.nonceTable i).liveFor dst src = true → (s.nonceTable i).replyNonce = false →
          (s.nonceTable i).nonce.ident ≠ own.ident)
  | _ => True

/-! ### The nonce table -/

section Table

variable {isLocal : UInt8 → Prop} {s after : S0}

theorem liveFor_iff {entry : NonceEntry} {src dst : UInt8} :
    entry.liveFor src dst = true ↔ 0 < entry.timeout ∧ entry.src = src ∧ entry.dst = dst := by
  simp [NonceEntry.liveFor, and_assoc]

/-- A change that leaves only nonces live that were live before. -/
theorem Idents.of_table (hinv : Idents isLocal s)
    (htable : ∀ i, 0 < (after.nonceTable i).timeout → 0 < (s.nonceTable i).timeout ∧
      (after.nonceTable i).src = (s.nonceTable i).src ∧
      (after.nonceTable i).dst = (s.nonceTable i).dst ∧
      (after.nonceTable i).nonce = (s.nonceTable i).nonce ∧
      (after.nonceTable i).replyNonce = (s.nonceTable i).replyNonce) : Idents isLocal after := by
  have hpair : ∀ i j, (after.nonceTable i).SamePair (after.nonceTable j) →
      (s.nonceTable i).SamePair (s.nonceTable j) := by
    rintro i j ⟨hi, hj, hsrc, hdst⟩
    obtain ⟨hi', hsrci, hdsti, -⟩ := htable i hi
    obtain ⟨hj', hsrcj, hdstj, -⟩ := htable j hj
    exact ⟨hi', hj', hsrci.symm.trans (hsrc.trans hsrcj), hdsti.symm.trans (hdst.trans hdstj)⟩
  refine ⟨fun i j hij hsame hlocal ↦ ?_, fun i j hij hsame hreply ↦ ?_⟩
  · obtain ⟨-, hsrci, -, hnoncei, -⟩ := htable i hsame.1
    obtain ⟨-, -, -, hnoncej, -⟩ := htable j hsame.2.1
    rw [hsrci] at hlocal
    rw [hnoncei, hnoncej]
    exact hinv.ident i j hij (hpair i j hsame) hlocal
  · obtain ⟨-, -, -, -, hreplyi⟩ := htable i hsame.1
    obtain ⟨-, -, -, -, hreplyj⟩ := htable j hsame.2.1
    rw [hreplyi] at hreply
    rw [hreplyj]
    exact hinv.reply i j hij (hpair i j hsame) hreply

theorem Idents.congr (hinv : Idents isLocal s) (htable : after.nonceTable = s.nonceTable) :
    Idents isLocal after :=
  hinv.of_table fun i hi ↦ by rw [htable] at hi ⊢; exact ⟨hi, rfl, rfl, rfl, rfl⟩

theorem Idents.nonceClear (hinv : Idents isLocal s) (src dst : UInt8) :
    Idents isLocal (nonceClear src dst s) := by
  refine hinv.of_table fun i hi ↦ ?_
  simp only [Scheme0.nonceClear] at hi ⊢
  split_ifs at hi ⊢
  · simp at hi
  · exact ⟨hi, rfl, rfl, rfl, rfl⟩

/-- What `register_nonce` does to the table: it takes a free slot, or overwrites the reply nonce of
the pair. -/
theorem registerNonce_table (src dst : UInt8) (replyNonce : Bool) (nonce : Nonce) (s : S0) :
    (registerNonce src dst replyNonce nonce s).nonceTable = s.nonceTable ∨
      ∃ k entry, (registerNonce src dst replyNonce nonce s).nonceTable =
          update s.nonceTable k entry ∧
        entry.src = src ∧ entry.dst = dst ∧ entry.nonce = nonce ∧ entry.replyNonce = replyNonce ∧
        ((s.nonceTable k).timeout = 0 ∧ (replyNonce = true → ∀ i,
            (s.nonceTable i).liveFor src dst = true → (s.nonceTable i).replyNonce = false) ∨
          (s.nonceTable k).replyNonce = true ∧ (s.nonceTable k).liveFor src dst = true) := by
  simp only [registerNonce]
  generalize hfound : (if replyNonce = true then firstSlot (fun entry : NonceEntry ↦
    entry.replyNonce && entry.liveFor src dst) s.nonceTable else none) = overwritten
  cases overwritten with
  | some k =>
    split_ifs at hfound with hreply
    have htest := firstSlot_some hfound
    rw [Bool.and_eq_true] at htest
    obtain ⟨-, hsrc, hdst⟩ := liveFor_iff.mp htest.2
    exact Or.inr ⟨k, _, rfl, hsrc, hdst, rfl, htest.1.trans hreply.symm, Or.inr htest⟩
  | none =>
    have hnone : replyNonce = true → ∀ i, (s.nonceTable i).liveFor src dst = true →
        (s.nonceTable i).replyNonce = false := by
      intro hreply i hlive
      rw [if_pos hreply] at hfound
      have htest := firstSlot_none.mp hfound i
      rw [hlive, Bool.and_true] at htest
      exact htest
    dsimp only
    split
    · rename_i k hfree
      have htest := firstSlot_some hfree
      rw [beq_iff_eq] at htest
      exact Or.inr ⟨k, _, rfl, rfl, rfl, rfl, rfl, Or.inl ⟨htest, hnone⟩⟩
    · exact Or.inl rfl

/-- A nonce is registered that no other live nonce of the pair shares its identifier with. -/
theorem Idents.registerNonce (hinv : Idents isLocal s) {src dst : UInt8} {replyNonce : Bool}
    {nonce : Nonce} (hfresh : isLocal src → ∀ i, (s.nonceTable i).liveFor src dst = true →
      (replyNonce = true → (s.nonceTable i).replyNonce = false) →
      (s.nonceTable i).nonce.ident ≠ nonce.ident) :
    Idents isLocal (registerNonce src dst replyNonce nonce s) := by
  obtain htable | ⟨k, entry, htable, hsrc, hdst, hnonce, hreply, hslot⟩ :=
    registerNonce_table src dst replyNonce nonce s
  · exact hinv.congr htable
  · -- what the new entry is compared with: the other live nonces of its pair
    have hother : ∀ j, j ≠ k → entry.SamePair (s.nonceTable j) →
        (s.nonceTable j).liveFor src dst = true ∧
          (replyNonce = true → (s.nonceTable j).replyNonce = false) := by
      rintro j hjk ⟨-, hj, hsrcj, hdstj⟩
      have hlive : (s.nonceTable j).liveFor src dst = true :=
        liveFor_iff.mpr ⟨hj, hsrcj.symm.trans hsrc, hdstj.symm.trans hdst⟩
      refine ⟨hlive, fun hreply ↦ ?_⟩
      obtain ⟨-, hnone⟩ | ⟨hreplyk, hlivek⟩ := hslot
      · exact hnone hreply j hlive
      · obtain ⟨hk, hsrck, hdstk⟩ := liveFor_iff.mp hlivek
        obtain ⟨-, hsrcj, hdstj⟩ := liveFor_iff.mp hlive
        exact hinv.reply k j hjk.symm
          ⟨hk, hj, hsrck.trans hsrcj.symm, hdstk.trans hdstj.symm⟩ hreplyk
    have hsame : (Scheme0.registerNonce src dst replyNonce nonce s).nonceTable k = entry := by
      rw [htable, update_self]
    have hold : ∀ j, j ≠ k →
        (Scheme0.registerNonce src dst replyNonce nonce s).nonceTable j = s.nonceTable j := by
      intro j hj
      rw [htable, update_of_ne hj]
    refine ⟨fun i j hij hpair hlocal ↦ ?_, fun i j hij hpair hreplyi ↦ ?_⟩
    · by_cases hik : i = k
      · subst hik
        rw [hsame] at hpair hlocal ⊢
        rw [hold j hij.symm] at hpair ⊢
        rw [hsrc] at hlocal
        rw [hnonce]
        obtain ⟨hlive, hno⟩ := hother j hij.symm hpair
        exact (hfresh hlocal j hlive hno).symm
      · rw [hold i hik] at hpair hlocal ⊢
        by_cases hjk : j = k
        · subst hjk
          rw [hsame] at hpair ⊢
          obtain ⟨hlive, hno⟩ := hother i hik hpair.symm
          rw [(liveFor_iff.mp hlive).2.1] at hlocal
          rw [hnonce]
          exact hfresh hlocal i hlive hno
        · rw [hold j hjk] at hpair ⊢
          exact hinv.ident i j hij hpair hlocal
    · by_cases hik : i = k
      · subst hik
        rw [hsame] at hpair hreplyi
        rw [hold j hij.symm] at hpair ⊢
        exact (hother j hij.symm hpair).2 (hreply.symm.trans hreplyi)
      · rw [hold i hik] at hpair hreplyi
        by_cases hjk : j = k
        · subst hjk
          rw [hsame] at hpair ⊢
          by_contra hentry
          rw [Bool.not_eq_false, hreply] at hentry
          rw [(hother i hik hpair.symm).2 hentry] at hreplyi
          contradiction
        · rw [hold j hjk] at hpair ⊢
          exact hinv.reply i j hij hpair hreplyi

end Table

/-! ### Drawn nonces -/

/-- A drawn nonce is not refused. -/
theorem drawWhile_some {refused : Nonce → Bool} {outputs rest : List Nonce} {nonce : Nonce}
    (hdrawn : drawWhile refused outputs = some (nonce, rest)) : refused nonce = false := by
  induction outputs with
  | nil => simp [drawWhile] at hdrawn
  | cons first others ih =>
    rw [drawWhile] at hdrawn
    split_ifs at hdrawn with hrefused
    · exact ih hdrawn
    · rw [Option.some.injEq, Prod.mk.injEq] at hdrawn
      rw [← hdrawn.1]
      simpa using hrefused

/-- A draw depends on which nonces are refused only. -/
theorem drawWhile_congr {refused refused' : Nonce → Bool} {outputs : List Nonce}
    (hsame : ∀ nonce, refused nonce = refused' nonce) :
    drawWhile refused outputs = drawWhile refused' outputs := by
  rw [funext hsame]

/-- A search of `get_nonce` fails only when no live nonce of the pair has the identifier. -/
theorem getNonce_none {src dst ident : UInt8} {s : S0}
    (hnone : (getNonce src dst (some ident) s).isSome = false) (i : Fin nonceTableSize)
    (hlive : (s.nonceTable i).liveFor src dst = true) : (s.nonceTable i).nonce.ident ≠ ident := by
  rw [getNonce, Option.isSome_map, Option.isSome_eq_false_iff, Option.isNone_iff_eq_none] at hnone
  have htest := firstSlot_none.mp hnone i
  intro hident
  simp [hlive, hident] at htest

theorem getNonce_congr {src dst : UInt8} {ri : Option UInt8} {s after : S0}
    (htable : after.nonceTable = s.nonceTable) :
    getNonce src dst ri after = getNonce src dst ri s := by
  unfold getNonce
  rw [htable]

theorem registerNonce_prng (src dst : UInt8) (replyNonce : Bool) (nonce : Nonce) (s : S0) :
    (registerNonce src dst replyNonce nonce s).prng = s.prng := by
  simp only [registerNonce]
  generalize (if replyNonce = true then firstSlot (fun entry : NonceEntry ↦
    entry.replyNonce && entry.liveFor src dst) s.nonceTable else none) = overwritten
  cases overwritten with
  | some i => rfl
  | none =>
    dsimp only
    split <;> rfl

section Generators

variable {isLocal : UInt8 → Prop} (env : Env) {s : S0}

/-- `sec0_send_nonce` draws a nonce whose identifier no live nonce to the peer has. -/
theorem Idents.sec0SendNonce (hinv : Idents isLocal s) (src : TsParam) :
    Idents isLocal (sec0SendNonce env src s) := by
  simp only [Scheme0.sec0SendNonce]
  split_ifs
  · exact hinv
  · split
    · exact hinv.congr rfl
    · rename_i nonce rest hdrawn
      split_ifs
      · refine Idents.registerNonce (s := { s with prng := rest, log := _ }) (hinv.congr rfl)
          fun _ i hlive _ ↦ getNonce_none (s := s) (drawWhile_some hdrawn) i hlive
      · exact hinv.congr rfl

/-- The session that a nonce report reaches is one of its two nodes. -/
theorem reportTarget_nodes {src dst : UInt8} {nonce : Nonce} {i : Fin numTxSessions} {pass2 : Bool}
    (htarget : reportTarget src dst nonce s = some (i, pass2)) :
    (s.txSessions i).param.dnode = src.toUInt16 ∧
      (s.txSessions i).param.snode = dst.toUInt16 := by
  unfold reportTarget at htarget
  split_ifs at htarget
  cases hfound : getTxSessionByNode dst src s with
  | none => simp [hfound] at htarget
  | some j =>
    have htest := firstSlot_some hfound
    simp only [Bool.and_eq_true, beq_iff_eq] at htest
    rw [hfound] at htarget
    obtain rfl : j = i := by
      dsimp only at htarget
      split at htarget <;> try split_ifs at htarget
      all_goals simp_all
    exact htest

/-- What is live after `nonce_clear` was so before. -/
theorem nonceClear_nonceTable {src dst src' dst' : UInt8} {i : Fin nonceTableSize}
    (hlive : ((nonceClear src dst s).nonceTable i).liveFor src' dst' = true) :
    (nonceClear src dst s).nonceTable i = s.nonceTable i := by
  simp only [nonceClear] at hlive ⊢
  split_ifs at hlive ⊢
  · simp [NonceEntry.liveFor] at hlive
  · rfl

/-- A live nonce of a local node was in its slot before the nonce report of another node. -/
theorem liveFor_afterReport {src dst : UInt8} {nonce : Nonce} (hforeign : ¬ isLocal src)
    (hlocal : isLocal dst) {i : Fin nonceTableSize} {entry : NonceEntry}
    (hentry : entry = (registerNonce src dst false nonce s).nonceTable i)
    (hlive : entry.liveFor dst src = true) : entry = s.nonceTable i := by
  rw [hentry]
  obtain htable | ⟨k, new, htable, hsrc, -⟩ := registerNonce_table src dst false nonce s
  · rw [htable]
  · have hne : i ≠ k := by
      rintro rfl
      rw [hentry, htable, update_self] at hlive
      rw [← (liveFor_iff.mp hlive).2.1, hsrc] at hlocal
      exact hforeign hlocal
    rw [htable, update_of_ne hne]

/-- `encrypt_msg` with a fresh draw. -/
theorem Idents.encryptMsg (hinv : Idents isLocal s) {src dst : UInt8} {nonce : Nonce}
    (hfresh : DrawsFresh isLocal s (.nonceReport src dst nonce)) {i : Fin numTxSessions}
    {pass2 : Bool} (htarget : reportTarget src dst nonce s = some (i, pass2)) :
    Idents isLocal (encryptMsg env i pass2 (afterReport src dst nonce i pass2 s)).1 := by
  obtain ⟨hforeign, hdraw⟩ := hfresh
  have hregistered : Idents isLocal (Scheme0.registerNonce src dst false nonce s) :=
    hinv.registerNonce fun hlocal ↦ absurd hlocal hforeign
  have htable : (afterReport src dst nonce i pass2 s).nonceTable =
      (Scheme0.registerNonce src dst false nonce s).nonceTable := rfl
  have hprng : (afterReport src dst nonce i pass2 s).prng = s.prng :=
    registerNonce_prng src dst false nonce s
  have hnodes : ((afterReport src dst nonce i pass2 s).txSessions i).param.dnode.toUInt8 = src ∧
      ((afterReport src dst nonce i pass2 s).txSessions i).param.snode.toUInt8 = dst := by
    obtain ⟨hdnode, hsnode⟩ := reportTarget_nodes htarget
    have hparam : ((afterReport src dst nonce i pass2 s).txSessions i).param =
        (s.txSessions i).param := by
      simp [afterReport, S0.modifySession, sec0BlacklistAddNonce,
        (sameTransmit_registerNonce src dst false nonce s).txSessions]
    rw [hparam, hdnode, hsnode]
    exact ⟨by simp, by simp⟩
  generalize afterReport src dst nonce i pass2 s = t at htable hprng hnodes ⊢
  simp only [Scheme0.encryptMsg, hnodes.1, hnodes.2, hprng]
  split
  · exact hregistered.congr htable
  · rename_i own rest hdrawn
    have hown : replyDraw src dst nonce s = some own := by
      rw [replyDraw, ← drawWhile_congr fun own ↦ congrArg Option.isSome (getNonce_congr htable),
        hdrawn]
      rfl
    split
    · exact hregistered.congr htable
    · have hdrawn' : Idents isLocal { t with prng := rest } := hregistered.congr htable
      have hcleared : Idents isLocal (Scheme0.nonceClear src dst { t with prng := rest }) :=
        hdrawn'.nonceClear src dst
      refine Idents.congr (Idents.registerNonce hcleared ?_) rfl
      intro hlocal j hlive hno
      have hentry := liveFor_afterReport hforeign hlocal
        ((nonceClear_nonceTable (s := { t with prng := rest }) hlive).trans (congrFun htable j))
        hlive
      rw [hentry] at hlive hno ⊢
      exact hdraw (by simp [htarget]) own hown j hlive (hno rfl)

end Generators

/-! ### Runs -/

theorem nonceClosed_idents {isLocal : UInt8 → Prop} {env : Env}
    (hcallback : ∀ s completion, Idents isLocal s → Idents isLocal (env.callback s completion)) :
    NonceClosed env (Idents isLocal) where
  same hsame hinv := hinv.congr hsame.table
  callback := hcallback

theorem idents_step {isLocal : UInt8 → Prop} (env : Env)
    (hcallback : ∀ s completion, Idents isLocal s → Idents isLocal (env.callback s completion))
    (s : S0) (call : Call) (hfresh : DrawsFresh isLocal s call) (hinv : Idents isLocal s) :
    Idents isLocal (step env s call) := by
  have hclosed := nonceClosed_idents hcallback
  refine hclosed.step call (hclosed.enter call ?_ ?_ ?_ ?_ hinv) hinv
  · rintro src dst nonce rfl
    refine hclosed.sec0RegisterNonce src dst nonce ?_ (fun i pass2 htarget ↦ ?_) hinv
    · exact hinv.registerNonce fun hlocal ↦ absurd hlocal hfresh.1
    · exact hinv.encryptMsg env hfresh htarget
  · rintro src rfl
    exact hinv.sec0SendNonce env src
  · rintro snode dnode encData rfl
    obtain htable | htable := sec0DecryptMessage_nonceTable env snode dnode encData s
    · exact hinv.congr htable
    · exact (hinv.nonceClear dnode snode).congr htable
  · rintro rfl
    refine hinv.of_table fun i hi ↦ ⟨?_, rfl, rfl, rfl, rfl⟩
    simp only [nonceTimerTimeout] at hi
    omega

/-- In every run from power-up whose nonce reports come from other nodes and whose reply nonces are
drawn with an identifier that no nonce issued to the peer by `sec0_send_nonce` still has, the live
nonces that a local node has issued to a peer differ in their identifiers, and the identifier in a
received frame selects the nonce it belongs to. -/
theorem idents_distinct (isLocal : UInt8 → Prop) (env : Env)
    (hreacts : env.ReactsUnder (DrawsFresh isLocal)) (prng : List Nonce) (calls : List Call)
    (hfresh : AllSteps (step env) (DrawsFresh isLocal) (S0.powerUp prng) calls) :
    let s := run (step env) (S0.powerUp prng) calls
    (∀ i j, i ≠ j → (s.nonceTable i).SamePair (s.nonceTable j) → isLocal (s.nonceTable i).src →
        (s.nonceTable i).nonce.ident ≠ (s.nonceTable j).nonce.ident) ∧
      ∀ src dst i, isLocal src → (s.nonceTable i).liveFor src dst = true →
        getNonce src dst (some (s.nonceTable i).nonce.ident) s = some (s.nonceTable i).nonce := by
  intro s
  have hstart : Idents isLocal (S0.powerUp prng) :=
    ⟨fun _ _ _ hpair ↦ absurd hpair.1 (by simp [S0.powerUp]),
      fun _ _ _ hpair ↦ absurd hpair.1 (by simp [S0.powerUp])⟩
  have hinv : Idents isLocal s := run_invariant_of_reactsUnder idents_step hreacts hstart hfresh
  refine ⟨hinv.ident, fun src dst i hlocal hlive ↦ ?_⟩
  unfold getNonce
  rw [firstSlot_eq_of_unique (i := i)]
  · rfl
  · simp [hlive]
  · intro j hj
    simp only [Bool.and_eq_true, beq_iff_eq] at hj
    obtain ⟨hi, hsrci, hdsti⟩ := liveFor_iff.mp hlive
    obtain ⟨hj', hsrcj, hdstj⟩ := liveFor_iff.mp hj.1
    by_contra hji
    refine hinv.ident j i hji ⟨hj', hi, hsrcj.trans hsrci.symm, hdstj.trans hdsti.symm⟩ ?_ hj.2
    rw [hsrcj]
    exact hlocal

/-- Node 2 asks node 1 for a nonce, then node 1 sends node 2 a message and is given a nonce for
it. -/
def crossingCalls : List Call :=
  [.nonceGet ⟨2, 1, 0, 0, 0, 0, 0⟩,
    .sendData ⟨1, 2, 0, 0, 0, 0, 0⟩ (fun _ ↦ 0x20) 3 0 true,
    .nonceReport 2 1 (Vector.replicate 8 9)]

/-- When the generator gives two identifiers, both nonces of node 1 are live and differ in them. -/
theorem idents_distinct_crossing :
    (∃ i j, i ≠ j ∧
        ((run (step sampleEnv) (S0.powerUp [Vector.replicate 8 7, Vector.replicate 8 8])
          crossingCalls).nonceTable i).liveFor 1 2 = true ∧
        ((run (step sampleEnv) (S0.powerUp [Vector.replicate 8 7, Vector.replicate 8 8])
          crossingCalls).nonceTable j).liveFor 1 2 = true) ∧
      ∀ src dst i, src = 1 →
        ((run (step sampleEnv) (S0.powerUp [Vector.replicate 8 7, Vector.replicate 8 8])
          crossingCalls).nonceTable i).liveFor src dst = true →
        getNonce src dst (some ((run (step sampleEnv)
            (S0.powerUp [Vector.replicate 8 7, Vector.replicate 8 8])
            crossingCalls).nonceTable i).nonce.ident)
          (run (step sampleEnv) (S0.powerUp [Vector.replicate 8 7, Vector.replicate 8 8])
            crossingCalls) =
          some ((run (step sampleEnv) (S0.powerUp [Vector.replicate 8 7, Vector.replicate 8 8])
            crossingCalls).nonceTable i).nonce := by
  refine ⟨⟨0, 1, by decide +kernel⟩, ?_⟩
  refine (idents_distinct (· = 1) sampleEnv (sampleEnv_reactsUnder _)
    [Vector.replicate 8 7, Vector.replicate 8 8] crossingCalls ?_).2
  simp only [crossingCalls, allSteps_cons, allSteps_nil, and_true]
  refine ⟨trivial, trivial, by decide, fun _ own hown ↦ ?_⟩
  obtain rfl : Vector.replicate 8 8 = own := by
    rw [← Option.some.injEq, ← hown]
    decide +kernel
  decide +kernel

/-- The reply nonce of a message has the identifier of a nonce that was issued to the peer before,
when the generator gives the same first byte twice. -/
theorem ident_shared_by_reply :
    ¬ ∀ (isLocal : UInt8 → Prop) (env : Env), env.Reacts → ∀ (prng : List Nonce)
      (calls : List Call), (∀ src dst nonce, .nonceReport src dst nonce ∈ calls → ¬ isLocal src) →
      ∀ i j, i ≠ j →
        ((run (step env) (S0.powerUp prng) calls).nonceTable i).SamePair
          ((run (step env) (S0.powerUp prng) calls).nonceTable j) →
        isLocal ((run (step env) (S0.powerUp prng) calls).nonceTable i).src →
        ((run (step env) (S0.powerUp prng) calls).nonceTable i).nonce.ident ≠
          ((run (step env) (S0.powerUp prng) calls).nonceTable j).nonce.ident := by
  intro hclaim
  refine hclaim (· = 1) sampleEnv sampleEnv_reacts [Vector.replicate 8 7, Vector.replicate 8 7]
    crossingCalls ?_ 0 1 (by decide) ?_ (by decide +kernel) (by decide +kernel)
  · intro src dst nonce hmem
    simp only [crossingCalls, List.mem_cons, List.not_mem_nil, or_false, reduceCtorEq, false_or,
      Call.nonceReport.injEq] at hmem
    simp [hmem.1]
  · exact ⟨by decide +kernel, by decide +kernel, by decide +kernel, by decide +kernel⟩

end ZipGateway.Scheme0
