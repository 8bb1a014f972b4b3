import ZipGateway.Scheme0.Footprint

/-!
# Local nonces are used once

A nonce that `sec0_decrypt_message` has authenticated a frame with is gone from the nonce table: the
lookup is followed by `nonce_clear`, which removes every nonce of that pair of nodes. So a second
authentication with the same nonce, for the same pair, needs the nonce to be registered in between
(`authenticated_once_per_registration`), whatever the order of nonce requests, sends, received
frames, timer ticks and callbacks.

`NonceFresh` is the invariant: a live entry of the table was registered after the last
authentication of its pair. `Quiet` collects what all functions but the decryption do to the table
and the log: they authenticate nothing, and a live entry is an old one or has just been registered.
-/

set_option autoImplicit false

namespace ZipGateway.Scheme0

open Lib List

/-! ### The invariant -/

/-- Two entries hold the same nonce for the same pair of nodes. -/
def NonceEntry.SameNonce (first second : NonceEntry) : Prop :=
  first.src = second.src ∧ first.dst = second.dst ∧ first.nonce = second.nonce

/-- Every live nonce was registered after the last authentication of its pair of nodes. -/
def NonceFresh (s : S0) : Prop :=
  ∀ k, 0 < (s.nonceTable k).timeout →
    ∃ newer older, s.log =
        newer ++ .registered (s.nonceTable k).src (s.nonceTable k).dst (s.nonceTable k).nonce ::
          older ∧
      ∀ nonce, .authenticated (s.nonceTable k).dst (s.nonceTable k).src nonce ∉ newer

/-- Between two authentications for one pair of nodes, whether with one nonce or with two, the nonce
of the later one is registered. -/
def NoReplay (log : List Act) : Prop :=
  ∀ newer between older snode dnode nonce earlier,
    log = newer ++ .authenticated snode dnode nonce ::
        (between ++ .authenticated snode dnode earlier :: older) →
      .registered dnode snode nonce ∈ between

/-- The invariant of the nonce table and the log. -/
def FreshInv (s : S0) : Prop :=
  NonceFresh s ∧ NoReplay s.log

/-- What a function that authenticates nothing does to the table and the log: a live entry held its
nonce before, or its nonce has just been registered. -/
def Quiet (s after : S0) : Prop :=
  ∃ acts, after.log = acts ++ s.log ∧ (∀ act ∈ acts, act.isAuthenticated = false) ∧
    ∀ k, 0 < (after.nonceTable k).timeout →
      (∃ j, 0 < (s.nonceTable j).timeout ∧
        (after.nonceTable k).SameNonce (s.nonceTable j)) ∨
      .registered (after.nonceTable k).src (after.nonceTable k).dst
        (after.nonceTable k).nonce ∈ acts

/-- A change that leaves the table alone and logs no authentication is quiet. -/
theorem quiet_of_table_eq {s after : S0} (acts : List Act)
    (htable : after.nonceTable = s.nonceTable) (hlog : after.log = acts ++ s.log)
    (hacts : ∀ act ∈ acts, act.isAuthenticated = false) : Quiet s after := by
  refine ⟨acts, hlog, hacts, fun k hlive ↦ Or.inl ⟨k, ?_, ?_⟩⟩
  · rwa [htable] at hlive
  · rw [htable]
    exact ⟨rfl, rfl, rfl⟩

theorem quiet_refl (s : S0) : Quiet s s :=
  quiet_of_table_eq [] rfl rfl (by simp)

theorem quiet_trans {first second third : S0} (hfirst : Quiet first second)
    (hsecond : Quiet second third) : Quiet first third := by
  obtain ⟨acts₁, hlog₁, hquiet₁, htable₁⟩ := hfirst
  obtain ⟨acts₂, hlog₂, hquiet₂, htable₂⟩ := hsecond
  refine ⟨acts₂ ++ acts₁, by rw [hlog₂, hlog₁, append_assoc], ?_, fun k hlive ↦ ?_⟩
  · intro act hact
    rcases mem_append.mp hact with hact | hact
    · exact hquiet₂ act hact
    · exact hquiet₁ act hact
  · rcases htable₂ k hlive with ⟨j, hj, hsrc, hdst, hnonce⟩ | hregistered
    · rcases htable₁ j hj with ⟨i, hi, hsrc', hdst', hnonce'⟩ | hregistered
      · exact Or.inl ⟨i, hi, hsrc.trans hsrc', hdst.trans hdst', hnonce.trans hnonce'⟩
      · rw [hsrc, hdst, hnonce]
        exact Or.inr (mem_append_right _ hregistered)
    · exact Or.inr (mem_append_left _ hregistered)

/-- Acts that are not authentications do not disturb `NoReplay`. -/
theorem noReplay_append {acts log : List Act} (hacts : ∀ act ∈ acts, act.isAuthenticated = false)
    (hlog : NoReplay log) : NoReplay (acts ++ log) := by
  intro newer between older snode dnode nonce earlier heq
  -- The newer of the two authentications is not among `acts`, so `acts` is a prefix of `newer`.
  rcases append_eq_append_iff.mp heq with ⟨rest, hnewer, hrest⟩ | ⟨rest, hnewer, hrest⟩
  · exact hlog rest between older snode dnode nonce earlier hrest
  · cases rest with
    | nil => exact hlog [] between older snode dnode nonce earlier (by simpa using hrest.symm)
    | cons act tail =>
      have hact : act = .authenticated snode dnode nonce := by
        have hcons := hrest
        simp only [cons_append, List.cons.injEq] at hcons
        exact hcons.1.symm
      have hmem : act ∈ acts := by rw [hnewer]; simp
      have hfalse := hacts act hmem
      rw [hact] at hfalse
      simp [Act.isAuthenticated] at hfalse

/-- A quiet change keeps the invariant. -/
theorem FreshInv.of_quiet {s after : S0} (hinv : FreshInv s) (hquiet : Quiet s after) :
    FreshInv after := by
  obtain ⟨acts, hlog, hacts, htable⟩ := hquiet
  refine ⟨fun k hlive ↦ ?_, by rw [hlog]; exact noReplay_append hacts hinv.2⟩
  rcases htable k hlive with ⟨j, hj, hsrc, hdst, hnonce⟩ | hregistered
  · obtain ⟨newer, older, hold, hnone⟩ := hinv.1 j hj
    refine ⟨acts ++ newer, older, ?_, fun nonce hmem ↦ ?_⟩
    · rw [hlog, hold, hsrc, hdst, hnonce, append_assoc]
    · rcases mem_append.mp hmem with hmem | hmem
      · simpa [Act.isAuthenticated] using hacts _ hmem
      · rw [hsrc, hdst] at hmem
        exact hnone nonce hmem
  · obtain ⟨newer, older, hsplit⟩ := append_of_mem hregistered
    refine ⟨newer, older ++ s.log, by rw [hlog, hsplit]; simp, fun nonce hmem ↦ ?_⟩
    have hact := hacts (.authenticated (after.nonceTable k).dst (after.nonceTable k).src nonce)
      (by rw [hsplit]; exact mem_append_left _ hmem)
    simp [Act.isAuthenticated] at hact

/-! ### The functions that authenticate nothing -/

theorem quiet_registerNonce (src dst : UInt8) (replyNonce : Bool) (nonce : Nonce) (s : S0) :
    Quiet s (registerNonce src dst replyNonce nonce s) := by
  simp only [registerNonce]
  generalize hfound : (if replyNonce = true then firstSlot (fun entry : NonceEntry ↦
    entry.replyNonce && entry.liveFor src dst) s.nonceTable else none) = overwritten
  cases overwritten with
  | some i =>
    refine ⟨[.registered src dst nonce], rfl, by simp [Act.isAuthenticated], fun k hlive ↦ ?_⟩
    by_cases hk : k = i
    · -- The overwritten entry is a live nonce of the same pair.
      have hpair : (s.nonceTable i).src = src ∧ (s.nonceTable i).dst = dst := by
        split_ifs at hfound with hreply
        have htest := firstSlot_some hfound
        simp only [NonceEntry.liveFor, Bool.and_eq_true, beq_iff_eq] at htest
        exact ⟨htest.2.1.2, htest.2.2⟩
      right
      simp [hk, hpair.1, hpair.2]
    · left
      refine ⟨k, ?_, ?_⟩
      · simpa [Function.update_apply, hk] using hlive
      · simp [hk, NonceEntry.SameNonce]
  | none =>
    dsimp only
    split
    · rename_i i hfree
      refine ⟨[.registered src dst nonce], rfl, by simp [Act.isAuthenticated], fun k hlive ↦ ?_⟩
      by_cases hk : k = i
      · right
        simp [hk]
      · left
        refine ⟨k, ?_, ?_⟩
        · simpa [Function.update_apply, hk] using hlive
        · simp [hk, NonceEntry.SameNonce]
    · exact quiet_refl s

theorem quiet_nonceClear (src dst : UInt8) (s : S0) : Quiet s (nonceClear src dst s) := by
  refine ⟨[], rfl, by simp, fun k hlive ↦ Or.inl ⟨k, ?_, ?_⟩⟩
  · simp only [nonceClear] at hlive
    split_ifs at hlive with hpair
    · simp at hlive
    · exact hlive
  · simp only [nonceClear]
    split_ifs <;> exact ⟨rfl, rfl, rfl⟩

theorem quiet_nonceTimerTimeout (s : S0) : Quiet s (nonceTimerTimeout s) := by
  refine ⟨[], rfl, by simp, fun k hlive ↦ Or.inl ⟨k, ?_, rfl, rfl, rfl⟩⟩
  simp only [nonceTimerTimeout] at hlive
  omega

theorem quiet_encryptMsg (env : Env) (i : Fin numTxSessions) (pass2 : Bool) (s : S0) :
    Quiet s (encryptMsg env i pass2 s).1 := by
  simp only [encryptMsg]
  split
  · exact quiet_of_table_eq [] rfl rfl (by simp)
  · split
    · exact quiet_of_table_eq [] rfl rfl (by simp)
    · rename_i own rest _ _ receiver _
      have hdrawn : Quiet s { s with prng := rest } :=
        quiet_of_table_eq [] rfl rfl (by simp)
      refine quiet_trans (quiet_trans (quiet_trans hdrawn (quiet_nonceClear
        (s.txSessions i).param.dnode.toUInt8 (s.txSessions i).param.snode.toUInt8 _))
        (quiet_registerNonce (s.txSessions i).param.snode.toUInt8
          (s.txSessions i).param.dnode.toUInt8 true own _)) ?_
      exact quiet_of_table_eq [_] rfl rfl (by simp [Act.isAuthenticated])

/-- The session machine keeps the invariant. -/
theorem nonceClosed_freshInv {env : Env}
    (hcallback : ∀ s completion, FreshInv s → FreshInv (env.callback s completion)) :
    NonceClosed env FreshInv where
  same hsame hinv := by
    obtain ⟨htable, acts, hlog, hacts⟩ := hsame
    exact hinv.of_quiet (quiet_of_table_eq acts htable hlog hacts)
  callback := hcallback

theorem freshInv_sec0SendNonce (env : Env) (src : TsParam) {s : S0} (hinv : FreshInv s) :
    FreshInv (sec0SendNonce env src s) := by
  simp only [sec0SendNonce]
  split_ifs with hthree
  · exact hinv
  · split
    · exact hinv.of_quiet (quiet_of_table_eq [] rfl rfl (by simp))
    · split_ifs with hsent
      · refine hinv.of_quiet (quiet_trans ?_ (quiet_registerNonce _ _ _ _ _))
        exact quiet_of_table_eq [_] rfl rfl (by simp [Act.isAuthenticated])
      · exact hinv.of_quiet (quiet_of_table_eq [] rfl rfl (by simp))

/-! ### Decryption -/

/-- An authentication after `nonce_clear` keeps the invariant: no nonce of the pair is live any
more, and the nonce used was registered after the last authentication of the pair. -/
theorem freshInv_authenticated {s cleared : S0} {snode dnode : UInt8} {ri : Option UInt8}
    {receiver : Nonce} (hinv : FreshInv s) (hfound : getNonce dnode snode ri s = some receiver)
    (htable : cleared.nonceTable = (nonceClear dnode snode s).nonceTable)
    (hlog : cleared.log = .authenticated snode dnode receiver :: s.log) : FreshInv cleared := by
  obtain ⟨i, hi, hreceiver⟩ := Option.map_eq_some_iff.mp hfound
  have htest := firstSlot_some hi
  simp only [NonceEntry.liveFor, Bool.and_eq_true, decide_eq_true_eq, beq_iff_eq] at htest
  obtain ⟨⟨⟨hlive, hsrc⟩, hdst⟩, -⟩ := htest
  constructor
  · intro k hk
    rw [htable] at hk ⊢
    simp only [nonceClear] at hk ⊢
    split_ifs at hk ⊢ with hpair
    · simp at hk
    · obtain ⟨newer, older, hold, hnone⟩ := hinv.1 k hk
      refine ⟨.authenticated snode dnode receiver :: newer, older, by rw [hlog, hold]; rfl,
        fun nonce hmem ↦ ?_⟩
      rcases mem_cons.mp hmem with heq | hmem
      · injection heq with hdst' hsrc'
        simp [NonceEntry.liveFor, hk, hsrc', hdst'] at hpair
      · exact hnone nonce hmem
  · intro newer between older snode' dnode' nonce earlier heq
    rw [hlog] at heq
    cases newer with
    | nil =>
      simp only [nil_append, List.cons.injEq] at heq
      obtain ⟨hact, hrest⟩ := heq
      injection hact with hsnode hdnode hnonce
      obtain ⟨recent, before, hold, hnone⟩ := hinv.1 i hlive
      rw [hsrc, hdst, hreceiver, hsnode, hdnode, hnonce] at hold
      rw [hsrc, hdst, hsnode, hdnode] at hnone
      rw [hold] at hrest
      -- The older authentication of the pair is older than the registration.
      rcases append_eq_append_iff.mp hrest with ⟨rest, hbetween, hrest⟩ | ⟨rest, hbetween, hrest⟩
      · cases rest with
        | nil => simp at hrest
        | cons act tail =>
          simp only [cons_append, List.cons.injEq] at hrest
          rw [hbetween, hrest.1]
          simp
      · cases rest with
        | nil => simp at hrest
        | cons act tail =>
          simp only [cons_append, List.cons.injEq] at hrest
          have hmem : act ∈ recent := by rw [hbetween]; simp
          rw [← hrest.1] at hmem
          exact absurd hmem (hnone _)
    | cons act tail =>
      simp only [cons_append, List.cons.injEq] at heq
      exact hinv.2 tail between older snode' dnode' nonce earlier heq.2

theorem freshInv_sec0DecryptMessage (env : Env) (snode dnode : UInt8) (encData : List UInt8)
    {s : S0} (hinv : FreshInv s) : FreshInv (sec0DecryptMessage env snode dnode encData s).1 := by
  unfold sec0DecryptMessage
  split_ifs with hshort hlong
  · exact hinv
  · exact hinv
  · dsimp only
    split
    · exact hinv
    · rename_i receiver hfound
      have hcleared := hinv.of_quiet (quiet_nonceClear dnode snode s)
      split
      · exact hcleared
      · rename_i after i hsession
        have hafter := rxSessionFor_nonceTable hsession
        have hopen : FreshInv after :=
          hcleared.of_quiet (quiet_of_table_eq [] hafter.1 hafter.2 (by simp))
        split_ifs with hsize htag
        · exact hopen
        · exact hopen
        · refine freshInv_authenticated hinv hfound ?_ ?_
          · rw [(reassemble_nonceTable _ _ _ _).1]
            exact hafter.1
          · rw [(reassemble_nonceTable _ _ _ _).2]
            exact congrArg _ hafter.2

/-! ### Runs -/

theorem freshInv_step {env : Env}
    (hcallback : ∀ s completion, FreshInv s → FreshInv (env.callback s completion)) (s : S0)
    (call : Call) (hinv : FreshInv s) : FreshInv (step env s call) := by
  have hclosed := nonceClosed_freshInv hcallback
  refine hclosed.step call (hclosed.enter call ?_ ?_ ?_ ?_ hinv) hinv
  · rintro src dst nonce rfl
    have hregistered := hinv.of_quiet (quiet_registerNonce src dst false nonce s)
    refine hclosed.sec0RegisterNonce src dst nonce hregistered (fun i pass2 _ ↦ ?_) hinv
    refine hregistered.of_quiet (quiet_trans ?_ (quiet_encryptMsg env i pass2 _))
    exact quiet_of_table_eq [] rfl rfl (by simp)
  · rintro src rfl
    exact freshInv_sec0SendNonce env src hinv
  · rintro snode dnode encData rfl
    exact freshInv_sec0DecryptMessage env snode dnode encData hinv
  · rintro rfl
    exact hinv.of_quiet (quiet_nonceTimerTimeout s)

/-- The callbacks of an environment the module can meet keep the invariant. -/
theorem Env.Reacts.freshInv_callback {env : Env} (hreacts : env.Reacts) :
    ∀ s completion, FreshInv s → FreshInv (env.callback s completion) := by
  induction hreacts with
  | silent env hsilent => exact fun s completion hinv ↦ by rwa [hsilent]
  | calls env inner hinner haes calls hcallback ih =>
    intro s completion hinv
    rw [hcallback]
    exact run_invariant (fun s call hs ↦ freshInv_step ih s call hs) hinv _

/-- In every run from power-up, between two authentications by `sec0_decrypt_message` with one local
nonce for one pair of nodes, the nonce was registered again. -/
theorem authenticated_once_per_registration (env : Env) (hreacts : env.Reacts) (prng : List Nonce)
    (calls : List Call) : NoReplay (run (step env) (S0.powerUp prng) calls).log := by
  have hstart : FreshInv (S0.powerUp prng) := by
    refine ⟨fun k hlive ↦ absurd hlive (by simp [S0.powerUp]), ?_⟩
    intro newer between older snode dnode nonce earlier heq
    simp [S0.powerUp] at heq
  exact (run_invariant (fun s call hs ↦ freshInv_step hreacts.freshInv_callback s call hs)
    hstart calls).2

/-- Node 2 asks node 1 for a nonce and uses it, replays the frame in vain, then is given the same
nonce again and replays the frame with success. -/
def replayCalls : List Call :=
  let nonce : Nonce := Vector.replicate 8 7
  let frame := encapsulation sampleEnv.aes (Vector.replicate 16 0xAA) (Vector.replicate 16 0x55)
    securityMessageEncapsulation 2 1 nonce nonce [0, 0x20, 0x02]
  [.init, .setKey zeroBlock, .nonceGet ⟨2, 1, 0, 0, 0, 0, 0⟩, .decrypt 2 1 frame,
    .decrypt 2 1 frame, .nonceGet ⟨2, 1, 0, 0, 0, 0, 0⟩, .decrypt 2 1 frame]

/-- The theorem on a run with three receptions of one frame, of which two are authenticated. -/
theorem authenticated_once_per_registration_replayCalls :
    let log := (run (step sampleEnv) (S0.powerUp (List.replicate 2 (Vector.replicate 8 7)))
      replayCalls).log
    sampleEnv.Reacts ∧ log.countP Act.isAuthenticated = 2 ∧ NoReplay log :=
  ⟨sampleEnv_reacts, by decide +kernel,
    authenticated_once_per_registration sampleEnv sampleEnv_reacts _ replayCalls⟩

end ZipGateway.Scheme0
