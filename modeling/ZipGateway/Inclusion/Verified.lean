import ZipGateway.Inclusion.Footprint

/-!
# What the end of an inclusion means

When the event handler is told that an inclusion is complete, with a set of exchanged keys, the keys
should be those of the `KEX_SET` frame, the other node should have echoed that frame, and for each
key there should have been a network key verify, encrypted with this key, after the network key
report that carried it (`Completed`). The acts of the log since the start of the inclusion are its
`session`.

The state machine takes a network key verify as the answer to the last network key report also when
it is encrypted with a key that was exchanged before, so that a repeated frame completes the
exchange of a key that was never used (`completed_with_repeated_verify`). A second decision about
the keys, while the public key is to be accepted, replaces the granted keys after the `KEX_SET`
frame was sent. In a run without these two, the end of an inclusion means what it should
(`inclusion_completed`). The invariant `Stage` says for each state how far the exchange has come;
the frames that are accepted in a state are what takes it to the next.
-/

set_option autoImplicit false

namespace ZipGateway.Inclusion

open Lib List SecurityS2

/-! ### Keys -/

/-- The sets of one key. -/
def keyBits : List UInt8 := [0x01, 0x02, 0x04, 0x08, 0x10, 0x20, 0x40, 0x80]

theorem forall_byte {property : UInt8 → Prop} (h : ∀ n : Fin 256, property (UInt8.ofNat n.val))
    (byte : UInt8) : property byte := by
  have hbyte := h ⟨byte.toNat, byte.toNat_lt⟩
  simpa using hbyte

theorem eq_zero_of_keyBits : ∀ keys : UInt8, (∀ key ∈ keyBits, key &&& keys = 0) → keys = 0 :=
  forall_byte (by decide +kernel)

theorem mem_keyBits : ∀ key : UInt8, key &&& (key - 1) = 0 → key ≠ 0 → key ∈ keyBits :=
  forall_byte (by decide +kernel)

theorem eq_of_keyBits : ∀ first ∈ keyBits, ∀ second ∈ keyBits, first &&& second ≠ 0 →
    first = second := by
  decide +kernel

theorem and_or_ne_zero {key first second : UInt8} (h : key &&& (first ||| second) ≠ 0) :
    key &&& first ≠ 0 ∨ key &&& second ≠ 0 := by
  have hdistrib : key &&& (first ||| second) = key &&& first ||| key &&& second :=
    UInt8.eq_of_toBitVec_eq (by simp [BitVec.and_or_distrib_left])
  by_contra hnone
  obtain ⟨hfirst, hsecond⟩ := not_or.mp hnone
  rw [hdistrib, not_not.mp hfirst, not_not.mp hsecond] at h
  exact h rfl

/-- The slot of the key that a network key report for this key carries: for a long range node it is
the long range key. -/
def keySlot (node : UInt16) (key : UInt8) : Option UInt8 :=
  if key = keyClassS0 then some networkKeySecure
    else keySlotPairs.lookup (translateKeyslot key node)

/-! ### The session -/

def Act.isStart : Act → Bool
  | .includingStarted => true
  | _ => false

/-- What was done since the start of the inclusion. -/
def session (log : List Act) : List Act :=
  log.takeWhile fun act ↦ !act.isStart

/-- The frame is a `KEX_SET` frame. -/
def isKexSet (frame : List UInt8) : Bool :=
  frame.take 2 == [commandClassSecurity2, kexSet]

/-- The frame of `s2_send_kex_set`. -/
def kexSetFrame (mode : InclusionMode) (keys : UInt8) : List UInt8 :=
  [commandClassSecurity2, kexSet, kexSetFlags mode, scheme1Support, curve25519, keys]

/-- The received bytes are an echo of the `KEX_SET` frame: the scheme, the curve, the keys and the
bit for authentication by the client are the same. -/
structure Echoes (frame : List UInt8) (buf : ℕ → UInt8) : Prop where
  command : buf 1 = kexSet
  echo : buf 2 &&& echoOn ≠ 0
  csa : buf 2 &&& csaOn = frame.getD 2 0 &&& csaOn
  scheme : buf 3 = frame.getD 3 0
  curve : buf 4 = frame.getD 4 0
  keys : buf 5 = frame.getD 5 0

/-- The network key was reported. -/
def Reported (acts : List Act) (key : UInt8) : Prop :=
  ∃ con frame again, Act.sentData con frame again ∈ acts ∧
    frame.take 3 = [commandClassSecurity2, networkKeyReport, key]

/-- A network key verify that was encrypted with the key came after the key was reported. -/
def Verified (acts : List Act) (key : UInt8) : Prop :=
  ∃ src buf length con frame again,
    [Act.received src buf length, .sentData con frame again].Sublist acts ∧
      frame.take 3 = [commandClassSecurity2, networkKeyReport, key] ∧
      buf 1 = networkKeyVerify ∧ keySlot src.rNode key = some src.classId

/-- What the end of an inclusion with these exchanged keys means. -/
structure Completed (acts : List Act) (keys : UInt8) : Prop where
  granted : ∀ con frame again, Act.sentFrame con frame again ∈ acts → isKexSet frame = true →
    frame.getD 5 0 = keys
  echoed : ∃ src buf length con frame again,
    [Act.received src buf length, .sentFrame con frame again].Sublist acts ∧ isKexSet frame = true ∧
      src.classId = tempKeySecure ∧ Echoes frame buf
  verified : ∀ key ∈ keyBits, key &&& keys ≠ 0 → Verified acts key

/-- Every end of an inclusion that was told to the event handler means what it should. -/
def CompletionsHold (log : List Act) : Prop :=
  ∀ later con keys older, log = later ++ .pushed (.inclusionComplete con keys) :: older →
    Completed (session older) keys

/-- The act neither starts nor ends an inclusion, nor sends a `KEX_SET` frame. -/
def Act.isNeutral : Act → Bool
  | .includingStarted => false
  | .pushed (.inclusionComplete _ _) => false
  | .sentFrame _ frame _ => !isKexSet frame
  | _ => true

variable {ctx : Context} {act : Act}

theorem Act.isNeutral_of_isQuiet (hact : act.isQuiet = true) : act.isNeutral = true := by
  cases act <;> simp_all [Act.isQuiet, Act.isNeutral]

theorem session_cons (hact : act.isStart = false) (log : List Act) :
    session (act :: log) = act :: session log := by
  unfold session
  rw [takeWhile_cons_of_pos (by simp [hact])]

theorem Act.isStart_of_isNeutral (hact : act.isNeutral = true) : act.isStart = false := by
  cases act <;> simp_all [Act.isNeutral, Act.isStart]

theorem session_append {acts : List Act} (log : List Act)
    (hacts : ∀ act ∈ acts, act.isNeutral = true) : session (acts ++ log) = acts ++ session log := by
  induction acts with
  | nil => rfl
  | cons act acts ih =>
    rw [cons_append, session_cons (Act.isStart_of_isNeutral (hacts act mem_cons_self)),
      ih fun act hact ↦ hacts act (mem_cons_of_mem _ hact)]
    rfl

theorem completionsHold_cons {log : List Act} (hlog : CompletionsHold log)
    (hact : ∀ con keys, act = .pushed (.inclusionComplete con keys) →
      Completed (session log) keys) :
    CompletionsHold (act :: log) := by
  intro later con keys older hsplit
  cases later with
  | nil =>
    obtain ⟨rfl, rfl⟩ := List.cons.inj hsplit
    exact hact con keys rfl
  | cons _ later => exact hlog later con keys older (List.cons.inj hsplit).2

theorem completionsHold_append {acts log : List Act} (hlog : CompletionsHold log)
    (hacts : ∀ act ∈ acts, act.isNeutral = true) : CompletionsHold (acts ++ log) := by
  induction acts with
  | nil => exact hlog
  | cons act acts ih =>
    refine completionsHold_cons (ih fun act hact ↦ hacts act (mem_cons_of_mem _ hact)) ?_
    rintro con keys rfl
    have hneutral := hacts _ mem_cons_self
    cases hneutral

theorem Reported.mono {acts acts' : List Act} {key : UInt8} (hreported : Reported acts key)
    (hacts : acts.Sublist acts') : Reported acts' key := by
  obtain ⟨con, frame, again, hmem, hframe⟩ := hreported
  exact ⟨con, frame, again, hacts.mem hmem, hframe⟩

theorem Verified.mono {acts acts' : List Act} {key : UInt8} (hverified : Verified acts key)
    (hacts : acts.Sublist acts') : Verified acts' key := by
  obtain ⟨src, buf, length, con, frame, again, hsublist, hrest⟩ := hverified
  exact ⟨src, buf, length, con, frame, again, hsublist.trans hacts, hrest⟩

/-! ### How far the exchange has come -/

/-- The scheme and the curve are those that `KEX_SET` frames have. -/
def Chosen (ctx : Context) : Prop :=
  ctx.schemeSupport = scheme1Support ∧ ctx.curveSupport = curve25519

/-- No `KEX_SET` frame was sent. -/
def NoKexSet (ctx : Context) : Prop :=
  ∀ con frame again, Act.sentFrame con frame again ∈ session ctx.log → isKexSet frame = false

/-- The `KEX_SET` frames that were sent are those of the granted keys. -/
def SameKexSets (ctx : Context) : Prop :=
  ∀ con frame again, Act.sentFrame con frame again ∈ session ctx.log → isKexSet frame = true →
    frame = kexSetFrame ctx.mode ctx.keyGranted

/-- The keys were granted. -/
structure Granted (ctx : Context) : Prop where
  chosen : Chosen ctx
  kexSets : SameKexSets ctx
  sent : ∃ con again,
    Act.sentFrame con (kexSetFrame ctx.mode ctx.keyGranted) again ∈ session ctx.log
  buffer : isKexSet ctx.frame = true → ctx.frame = kexSetFrame ctx.mode ctx.keyGranted

/-- The `KEX_SET` frame was echoed, and only keys that it grants were exchanged. -/
structure Echoed (ctx : Context) : Prop where
  kexSets : SameKexSets ctx
  echoed : ∃ src buf length con again,
    [Act.received src buf length,
      .sentFrame con (kexSetFrame ctx.mode ctx.keyGranted) again].Sublist
        (session ctx.log) ∧
      src.classId = tempKeySecure ∧ Echoes (kexSetFrame ctx.mode ctx.keyGranted) buf
  exchanged : ∀ key ∈ keyBits, key &&& ctx.keyExchange ≠ 0 → key &&& ctx.keyGranted ≠ 0

/-- Every key that was exchanged was verified. -/
def AllVerified (ctx : Context) : Prop :=
  ∀ key ∈ keyBits, key &&& ctx.keyExchange ≠ 0 → Verified (session ctx.log) key

/-- Every key that was exchanged was verified, except the last one, which was reported. -/
def OthersVerified (ctx : Context) : Prop :=
  Reported (session ctx.log) ctx.keyRequested ∧
    ∀ key ∈ keyBits, key &&& ctx.keyExchange ≠ 0 →
      key = ctx.keyRequested ∨ Verified (session ctx.log) key

/-- How far the exchange has come in each state of the including node. -/
def Stage (ctx : Context) : Prop :=
  match ctx.state with
  | .awaitingKexReport => NoKexSet ctx ∧ isKexSet ctx.frame = false
  | .awaitingKeyUserAccept => NoKexSet ctx ∧ Chosen ctx
  | .awaitingPubKeyB | .awaitingUserAccept | .awaitingEchoKexSet => Granted ctx
  | .awaitingNetKeyGet => Echoed ctx ∧ AllVerified ctx
  | .awaitingNetKeyVerify => Echoed ctx ∧ OthersVerified ctx
  | .awaitingTransferEnd => Echoed ctx ∧ AllVerified ctx ∧ ctx.keyExchange = ctx.keyGranted
  | _ => True

theorem stage_idle (hstate : ctx.state = .idle) : Stage ctx := by
  unfold Stage
  rw [hstate]
  trivial

theorem stage_awaitingNetKeyGet (hstate : ctx.state = .awaitingNetKeyGet) :
    Stage ctx ↔ Echoed ctx ∧ AllVerified ctx := by
  unfold Stage
  rw [hstate]

theorem stage_awaitingNetKeyVerify (hstate : ctx.state = .awaitingNetKeyVerify) :
    Stage ctx ↔ Echoed ctx ∧ OthersVerified ctx := by
  unfold Stage
  rw [hstate]

theorem stage_awaitingTransferEnd (hstate : ctx.state = .awaitingTransferEnd) :
    Stage ctx ↔ Echoed ctx ∧ AllVerified ctx ∧ ctx.keyExchange = ctx.keyGranted := by
  unfold Stage
  rw [hstate]

/-- What all states have in common. -/
structure Lawful (ctx : Context) : Prop where
  including : ctx.state.including = true
  frames : ∀ frame ∈ ctx.stack, frame.including = true
  completions : CompletionsHold ctx.log

/-- The invariant. -/
def Proceeds (ctx : Context) : Prop :=
  Lawful ctx ∧ (Refusing ctx ∨ Stage ctx)

/-- Nothing that the exchange rests on changes, and only neutral acts are logged. -/
structure Grows (ctx ctx' : Context) : Prop where
  state : ctx'.state = ctx.state
  mode : ctx'.mode = ctx.mode
  granted : ctx'.keyGranted = ctx.keyGranted
  exchange : ctx'.keyExchange = ctx.keyExchange
  requested : ctx'.keyRequested = ctx.keyRequested
  scheme : ctx'.schemeSupport = ctx.schemeSupport
  curve : ctx'.curveSupport = ctx.curveSupport
  frame : ctx'.frame = ctx.frame ∨ isKexSet ctx'.frame = false
  log : ∃ acts, (∀ act ∈ acts, act.isNeutral = true) ∧ ctx'.log = acts ++ ctx.log

section Grows

variable {ctx ctx' : Context}

/-- The session gets longer, without a new `KEX_SET` frame. -/
theorem Grows.session (hgrows : Grows ctx ctx') :
    (session ctx.log).Sublist (session ctx'.log) ∧
      ∀ con frame again, Act.sentFrame con frame again ∈ Inclusion.session ctx'.log →
        isKexSet frame = true → Act.sentFrame con frame again ∈ Inclusion.session ctx.log := by
  obtain ⟨acts, hacts, hlog⟩ := hgrows.log
  rw [hlog, session_append _ hacts]
  refine ⟨sublist_append_right _ _, fun con frame again hmem hkexSet ↦ ?_⟩
  rcases mem_append.mp hmem with hmem | hmem
  · have hneutral := hacts _ hmem
    rw [Act.isNeutral, hkexSet] at hneutral
    cases hneutral
  · exact hmem

theorem NoKexSet.grows (hnone : NoKexSet ctx) (hgrows : Grows ctx ctx') : NoKexSet ctx' := by
  intro con frame again hmem
  cases hkexSet : isKexSet frame with
  | false => rfl
  | true =>
    rw [← hkexSet]
    exact hnone con frame again (hgrows.session.2 con frame again hmem hkexSet)

theorem Chosen.grows (hchosen : Chosen ctx) (hgrows : Grows ctx ctx') : Chosen ctx' :=
  ⟨hgrows.scheme.trans hchosen.1, hgrows.curve.trans hchosen.2⟩

theorem SameKexSets.grows (hsame : SameKexSets ctx) (hgrows : Grows ctx ctx') :
    SameKexSets ctx' := by
  intro con frame again hmem hkexSet
  rw [hgrows.mode, hgrows.granted]
  exact hsame con frame again (hgrows.session.2 con frame again hmem hkexSet) hkexSet

theorem Granted.grows (hgranted : Granted ctx) (hgrows : Grows ctx ctx') : Granted ctx' := by
  refine ⟨hgranted.chosen.grows hgrows, hgranted.kexSets.grows hgrows, ?_, fun hkexSet ↦ ?_⟩
  · rw [hgrows.mode, hgrows.granted]
    obtain ⟨con, again, hmem⟩ := hgranted.sent
    exact ⟨con, again, hgrows.session.1.mem hmem⟩
  · rw [hgrows.mode, hgrows.granted]
    rcases hgrows.frame with hframe | hother
    · rw [hframe] at hkexSet ⊢
      exact hgranted.buffer hkexSet
    · rw [hother] at hkexSet
      cases hkexSet

theorem Echoed.grows (hechoed : Echoed ctx) (hgrows : Grows ctx ctx') : Echoed ctx' := by
  refine ⟨hechoed.kexSets.grows hgrows, ?_, ?_⟩
  · rw [hgrows.mode, hgrows.granted]
    obtain ⟨src, buf, length, con, again, hsublist, hrest⟩ := hechoed.echoed
    exact ⟨src, buf, length, con, again, hsublist.trans hgrows.session.1, hrest⟩
  · rw [hgrows.exchange, hgrows.granted]
    exact hechoed.exchanged

theorem AllVerified.grows (hverified : AllVerified ctx) (hgrows : Grows ctx ctx') :
    AllVerified ctx' := by
  intro key hkey hexchanged
  rw [hgrows.exchange] at hexchanged
  exact (hverified key hkey hexchanged).mono hgrows.session.1

theorem OthersVerified.grows (hothers : OthersVerified ctx) (hgrows : Grows ctx ctx') :
    OthersVerified ctx' := by
  rw [OthersVerified, hgrows.requested, hgrows.exchange]
  refine ⟨hothers.1.mono hgrows.session.1, fun key hkey hexchanged ↦ ?_⟩
  exact (hothers.2 key hkey hexchanged).imp_right fun hverified ↦ hverified.mono hgrows.session.1

theorem Stage.grows (hstage : Stage ctx) (hgrows : Grows ctx ctx') : Stage ctx' := by
  unfold Stage at hstage ⊢
  rw [hgrows.state]
  cases hstate : ctx.state with
  | awaitingKexReport =>
    rw [hstate] at hstage
    refine ⟨hstage.1.grows hgrows, ?_⟩
    rcases hgrows.frame with hframe | hother
    · rw [hframe]
      exact hstage.2
    · exact hother
  | awaitingKeyUserAccept =>
    rw [hstate] at hstage
    exact ⟨hstage.1.grows hgrows, hstage.2.grows hgrows⟩
  | awaitingPubKeyB =>
    rw [hstate] at hstage
    exact Granted.grows hstage hgrows
  | awaitingUserAccept =>
    rw [hstate] at hstage
    exact Granted.grows hstage hgrows
  | awaitingEchoKexSet =>
    rw [hstate] at hstage
    exact Granted.grows hstage hgrows
  | awaitingNetKeyGet =>
    rw [hstate] at hstage
    exact ⟨hstage.1.grows hgrows, hstage.2.grows hgrows⟩
  | awaitingNetKeyVerify =>
    rw [hstate] at hstage
    exact ⟨hstage.1.grows hgrows, hstage.2.grows hgrows⟩
  | awaitingTransferEnd =>
    rw [hstate] at hstage
    refine ⟨hstage.1.grows hgrows, hstage.2.1.grows hgrows, ?_⟩
    rw [hgrows.exchange, hgrows.granted]
    exact hstage.2.2
  | _ => trivial

theorem Lawful.grows (hlawful : Lawful ctx) (hgrows : Grows ctx ctx')
    (hframes : ∀ frame ∈ ctx'.stack, frame.including = true) : Lawful ctx' := by
  obtain ⟨acts, hacts, hlog⟩ := hgrows.log
  refine ⟨?_, hframes, ?_⟩
  · rw [hgrows.state]
    exact hlawful.including
  · rw [hlog]
    exact completionsHold_append hlawful.completions hacts

theorem Quiet.grows (hquiet : Quiet ctx ctx') : Grows ctx ctx' := by
  obtain ⟨acts, _, _, hacts, rfl⟩ := hquiet
  exact ⟨rfl, rfl, rfl, rfl, rfl, rfl, rfl, Or.inl rfl, acts,
    fun act hact ↦ Act.isNeutral_of_isQuiet (hacts act hact), rfl⟩

theorem Lawful.quiet (hlawful : Lawful ctx) (hquiet : Quiet ctx ctx') : Lawful ctx' := by
  refine hlawful.grows hquiet.grows ?_
  rw [hquiet.stack]
  exact hlawful.frames

theorem Grows.trans {ctx'' : Context} (hfirst : Grows ctx ctx') (hsecond : Grows ctx' ctx'') :
    Grows ctx ctx'' := by
  obtain ⟨earlier, hearlier, hlog⟩ := hfirst.log
  obtain ⟨later, hlater, hlog'⟩ := hsecond.log
  refine ⟨hsecond.state.trans hfirst.state, hsecond.mode.trans hfirst.mode,
    hsecond.granted.trans hfirst.granted, hsecond.exchange.trans hfirst.exchange,
    hsecond.requested.trans hfirst.requested, hsecond.scheme.trans hfirst.scheme,
    hsecond.curve.trans hfirst.curve, ?_, later ++ earlier, ?_, ?_⟩
  · rcases hsecond.frame with hframe | hother
    · rw [hframe]
      exact hfirst.frame
    · exact Or.inr hother
  · intro act hact
    rcases mem_append.mp hact with hact | hact
    · exact hlater act hact
    · exact hearlier act hact
  · rw [hlog', hlog, append_assoc]

end Grows

/-! ### The functions that send -/

section Send

variable {ctx : Context} {rest : Rest}

theorem proceeds_of_grows {ctx' : Context} (hlawful : Lawful ctx) (hstage : Stage ctx)
    (hgrows : Grows ctx ctx') (hframes : ∀ frame ∈ ctx'.stack, frame.including = true) :
    Proceeds ctx' :=
  ⟨hlawful.grows hgrows hframes, Or.inr (hstage.grows hgrows)⟩

theorem Lawful.push (hlawful : Lawful ctx) {frame : Frame} (hframe : frame.including = true) :
    ∀ frame' ∈ frame :: ctx.stack, frame'.including = true := by
  intro frame' hmem
  rcases mem_cons.mp hmem with rfl | hmem
  · exact hframe
  · exact hlawful.frames frame' hmem

theorem grows_sendNewFrame (ctx : Context) (bytes : List UInt8) (rest : Rest)
    (hbytes : isKexSet bytes = false) :
    Grows ctx (sendNewFrame bytes rest ctx) := by
  refine ⟨rfl, rfl, rfl, rfl, rfl, rfl, rfl, Or.inr ?_, [.sentFrame ctx.peer bytes false], ?_, ?_⟩
  · rw [sendNewFrame_frame]
    exact hbytes
  · simp [Act.isNeutral, hbytes]
  · rw [sendNewFrame_log]
    rfl

theorem grows_sendNewData (ctx : Context) (bytes : List UInt8) (classId txOptions : UInt8)
    (rest : Rest) (hbytes : isKexSet bytes = false) :
    Grows ctx (sendNewData bytes classId txOptions rest ctx) := by
  refine ⟨rfl, rfl, rfl, rfl, rfl, rfl, rfl, Or.inr ?_,
    [.sentData { ctx.peer with classId, txOptions } bytes false], ?_, ?_⟩
  · rw [show (sendNewData bytes classId txOptions rest ctx).frame = bytes
      from build_frame ctx bytes]
    exact hbytes
  · simp [Act.isNeutral]
  · rw [sendNewData_log]
    rfl

theorem grows_callHandler (ctx : Context) (push : Push) (rest : Rest)
    (hpush : (Act.pushed push).isNeutral = true) : Grows ctx (callHandler push rest ctx) :=
  ⟨rfl, rfl, rfl, rfl, rfl, rfl, rfl, Or.inl rfl, [.pushed push], by simpa using hpush, rfl⟩

theorem sendNewData_proceeds (hlawful : Lawful ctx) (hstage : Stage ctx) {bytes : List UInt8}
    {classId txOptions : UInt8} {rest : Rest} (hbytes : isKexSet bytes = false)
    (hrest : (Frame.sendData rest).including = true) :
    Proceeds (sendNewData bytes classId txOptions rest ctx) :=
  proceeds_of_grows hlawful hstage (grows_sendNewData ctx bytes classId txOptions rest hbytes)
    (hlawful.push hrest)

theorem callHandler_proceeds (hlawful : Lawful ctx) (hstage : Stage ctx) {push : Push}
    {rest : Rest} (hpush : (Act.pushed push).isNeutral = true)
    (hrest : (Frame.handler rest).including = true) :
    Proceeds (callHandler push rest ctx) :=
  proceeds_of_grows hlawful hstage (grows_callHandler ctx push rest hpush) (hlawful.push hrest)

/-- The exchange has ended. -/
theorem proceeds_of_over (hover : ctx.state = .idle ∨ ctx.state = .errorSent)
    (hframes : ∀ frame ∈ ctx.stack, frame.including = true)
    (hcompletions : CompletionsHold ctx.log) : Proceeds ctx := by
  refine ⟨⟨?_, hframes, hcompletions⟩, Or.inr ?_⟩
  · rcases hover with hover | hover
    · rw [hover]
      rfl
    · rw [hover]
      rfl
  · unfold Stage
    rcases hover with hover | hover
    · rw [hover]
      trivial
    · rw [hover]
      trivial

theorem abort_proceeds (hlawful : Lawful ctx) (hidle : ctx.state = .idle) (failType : UInt8) :
    Proceeds (inclusionFailedEvtPush failType ctx) := by
  obtain ⟨quiet, hquiet, heq⟩ := inclusionFailedEvtPush_eq failType ctx
  rw [heq]
  have hgrows := hquiet.grows.trans (grows_callHandler quiet (.inclusionFailed quiet.peer failType)
    .done rfl)
  obtain ⟨acts, hacts, hlog⟩ := hgrows.log
  refine proceeds_of_over (Or.inl (hgrows.state.trans hidle)) ?_ ?_
  · obtain ⟨_, _, _, _, rfl⟩ := hquiet
    exact hlawful.push rfl
  · rw [hlog]
    exact completionsHold_append hlawful.completions hacts

theorem inclusionFailedFrameSend_proceeds (hlawful : Lawful ctx)
    (hover : ctx.state = .idle ∨ ctx.state = .errorSent) (error : UInt8)
    (hrest : (Frame.sendFrame rest).including = true) :
    Proceeds (inclusionFailedFrameSend error rest ctx) := by
  rw [inclusionFailedFrameSend_eq]
  have hgrows := grows_sendNewFrame { ctx with kexFailCode := error }
    [commandClassSecurity2, kexFail, error] rest rfl
  obtain ⟨acts, hacts, hlog⟩ := hgrows.log
  refine proceeds_of_over hover (hlawful.push hrest) ?_
  rw [hlog]
  exact completionsHold_append hlawful.completions hacts

/-- A frame of the other node is refused. -/
theorem refuse_proceeds (hlawful : Lawful ctx) (hstack : ctx.stack = []) (error : UInt8) :
    Proceeds (refuse error ctx) := by
  have hgrows := grows_sendNewFrame { ctx with kexFailCode := error }
    [commandClassSecurity2, kexFail, error] (.post .inclusionErrorSent) rfl
  obtain ⟨acts, hacts, hlog⟩ := hgrows.log
  refine ⟨⟨hlawful.including, hlawful.push rfl, ?_⟩, Or.inl (congrArg (List.cons _) hstack)⟩
  change CompletionsHold (sendNewFrame _ _ _).log
  rw [hlog]
  exact completionsHold_append hlawful.completions hacts

end Send

/-! ### The actions -/

section Actions

variable {ctx : Context}

theorem Lawful.copy {ctx' : Context} (hlawful : Lawful ctx) (hstate : ctx'.state = ctx.state)
    (hstack : ctx'.stack = ctx.stack) (hlog : ctx'.log = ctx.log) : Lawful ctx' := by
  obtain ⟨hincluding, hframes, hcompletions⟩ := hlawful
  rw [← hstate] at hincluding
  rw [← hstack] at hframes
  rw [← hlog] at hcompletions
  exact ⟨hincluding, hframes, hcompletions⟩

theorem scheme_of_supported : ∀ byte : UInt8, byte &&& scheme1Support &&& scheme1Support ≠ 0 →
    byte &&& scheme1Support = scheme1Support :=
  forall_byte (by decide +kernel)

theorem curve_of_supported : ∀ byte : UInt8, byte &&& curve25519 &&& curve25519 ≠ 0 →
    byte &&& curve25519 = curve25519 :=
  forall_byte (by decide +kernel)

/-- The keys that the other node asks for are put to the user. -/
theorem kexRepRecv_proceeds (hlawful : Lawful ctx) (hstack : ctx.stack = [])
    (hstate : ctx.state = .awaitingKeyUserAccept) (hnone : NoKexSet ctx) :
    Proceeds (kexRepRecv ctx) := by
  have hgrows := (quiet_stopTimeout ctx).grows
  have hquiet : Lawful (ctx.note .stopTimeout) := hlawful.grows hgrows hlawful.frames
  have hnone' : NoKexSet (ctx.note .stopTimeout) := hnone.grows hgrows
  unfold kexRepRecv
  dsimp only
  split
  · refine refuse_proceeds ?_ ?_ _
    · exact hquiet.copy rfl rfl rfl
    · exact hstack
  · rename_i hscheme
    split
    · refine refuse_proceeds ?_ ?_ _
      · exact hquiet.copy rfl rfl rfl
      · exact hstack
    · rename_i hcurve
      generalize (if isLrNode _ then _ else _ : UInt8) = offered
      split
      · refine refuse_proceeds ?_ ?_ _
        · exact hquiet.copy rfl rfl rfl
        · exact hstack
      · refine callHandler_proceeds ?_ ?_ rfl rfl
        · exact hquiet.copy rfl rfl rfl
        · unfold Stage
          rw [show (ctx.note .stopTimeout).state = .awaitingKeyUserAccept from hstate]
          exact ⟨hnone', scheme_of_supported _ hscheme, curve_of_supported _ hcurve⟩

/-- The keys are granted. -/
theorem sendNewKexSet_proceeds (hlawful : Lawful ctx) (hstate : ctx.state = .awaitingPubKeyB)
    (hnone : NoKexSet ctx) (hchosen : Chosen ctx) {rest : Rest}
    (hrest : (Frame.sendFrame rest).including = true) :
    Proceeds (sendNewFrame (kexSetFrame ctx.mode ctx.keyGranted) rest ctx) := by
  rw [sendNewFrame_eq]
  refine ⟨⟨hlawful.including, hlawful.push hrest, ?_⟩, Or.inr ?_⟩
  · refine completionsHold_cons hlawful.completions ?_
    rintro _ _ ⟨⟩
  · unfold Stage
    rw [hstate]
    refine ⟨hchosen, ?_, ?_, fun _ ↦ ?_⟩
    · intro con frame again hmem hkexSet
      rw [session_cons rfl] at hmem
      rcases mem_cons.mp hmem with hmem | hmem
      · exact (Act.sentFrame.inj hmem).2.1
      · rw [hnone con frame again hmem] at hkexSet
        cases hkexSet
    · rw [session_cons rfl]
      exact ⟨ctx.peer, false, mem_cons_self⟩
    · exact build_frame ctx _

theorem sendKexSet_proceeds (hlawful : Lawful ctx) (hstate : ctx.state = .awaitingPubKeyB)
    (hnone : NoKexSet ctx) (hchosen : Chosen ctx) : Proceeds (sendKexSet ctx) := by
  have hgrows := (quiet_stopTimeout ctx).grows
  exact sendNewKexSet_proceeds (hlawful.grows hgrows hlawful.frames) hstate (hnone.grows hgrows)
    (hchosen.grows hgrows) rfl

/-- A frame that was made an event has come from the main loop and is the newest act of the log. -/
structure Arrived (env : Env) (event : Event) (ctx : Context) : Prop where
  stack : ctx.stack = []
  event : frameEvent ctx = event
  valid : validClass (frameRules.getD (ctx.buf 1 - kexGet).toNat env.rulesBeyond) ctx = true
  log : ∃ src older, ctx.log = .received src ctx.buf ctx.length :: older ∧
    src.classId = ctx.peer.classId ∧ src.rNode = ctx.peer.rNode

/-- What `validate_echo_kex_set` compares. -/
theorem validCsaBit_iff : ∀ (mode : InclusionMode) (flags : UInt8),
    validCsaBit mode flags = true ↔ flags &&& csaOn = kexSetFlags mode &&& csaOn := by
  intro mode
  cases mode
  · exact forall_byte (by decide +kernel)
  · exact forall_byte (by decide +kernel)

/-- The echo of the `KEX_SET` frame was encrypted with the temporary key. -/
theorem Arrived.echo {env : Env} (harrived : Arrived env .echoKexSetRecv ctx) :
    ctx.buf 1 = kexSet ∧ ctx.buf 2 &&& echoOn ≠ 0 ∧ ctx.peer.classId = tempKeySecure := by
  obtain ⟨hcommand, hecho⟩ := frameEvent_echoKexSetRecv harrived.event
  have hvalid := harrived.valid
  rw [hcommand, show frameRules.getD (kexSet - kexGet).toNat env.rulesBeyond =
    ⟨6, echoSupport, nonSecure, tempKeySecure⟩ from rfl] at hvalid
  have hecho' : ctx.buf 2 &&& echoOn ≠ 0 := hecho
  have hnot : ¬ tempKeySecure = networkKeySecure := by decide
  simp only [validClass, hecho', ne_eq, not_false_eq_true, and_true, if_true, if_neg hnot,
    Bool.or_eq_true, Bool.and_eq_true, beq_iff_eq] at hvalid
  rcases hvalid with hclass | ⟨hdual, -⟩
  · exact ⟨hcommand, hecho', hclass.symm⟩
  · cases hdual

/-- The `KEX_SET` frame is echoed. -/
theorem sendEchoKexReport_proceeds {env : Env} (hlawful : Lawful ctx)
    (harrived : Arrived env .echoKexSetRecv ctx) (hstate : ctx.state = .awaitingNetKeyGet)
    (hgranted : Granted ctx) : Proceeds (sendEchoKexReport ctx) := by
  have hgrows := (quiet_stopTimeout ctx).grows
  have hquiet : Lawful (ctx.note .stopTimeout) := hlawful.grows hgrows hlawful.frames
  have hstack : (ctx.note .stopTimeout).stack = [] := harrived.stack
  obtain ⟨hcommand, hecho, hclass⟩ := harrived.echo
  obtain ⟨src, older, hlog, hsource, -⟩ := harrived.log
  unfold sendEchoKexReport
  dsimp only
  have hbuf : (ctx.note .stopTimeout).buf = ctx.buf := rfl
  generalize ctx.note .stopTimeout = noted at *
  split_ifs with hvalid
  · simp only [validEchoKexSet, Bool.and_eq_true, beq_iff_eq] at hvalid
    obtain ⟨⟨⟨hscheme, hcurve⟩, hkeys⟩, hcsa⟩ := hvalid
    have hgranted' := hgranted.grows hgrows
    have hechoes : Echoes (kexSetFrame noted.mode noted.keyGranted) ctx.buf := by
      rw [← hbuf] at hcommand hecho ⊢
      refine ⟨hcommand, hecho, (validCsaBit_iff noted.mode _).mp hcsa, ?_, ?_, hkeys.symm⟩
      · exact hscheme.symm.trans hgranted'.chosen.1
      · exact hcurve.symm.trans hgranted'.chosen.2
    -- The echo is the newest act, and so it comes after the frame.
    have hechoed : Echoed { noted with keyExchange := 0 } := by
      refine ⟨hgranted'.kexSets, ?_, fun key _ hexchanged ↦ ?_⟩
      · obtain ⟨con, again, hmem⟩ := hgranted.sent
        rw [← hgrows.mode, ← hgrows.granted] at hmem
        refine ⟨src, ctx.buf, ctx.length, con, again, ?_, hsource.trans hclass, hechoes⟩
        refine List.Sublist.trans ?_ hgrows.session.1
        rw [hlog, session_cons rfl] at hmem ⊢
        refine List.Sublist.cons_cons _ (singleton_sublist.mpr ?_)
        rcases mem_cons.mp hmem with hmem | hmem
        · cases hmem
        · exact hmem
      · exact absurd UInt8.and_zero hexchanged
    refine sendNewData_proceeds ?_ ?_ rfl rfl
    · exact hquiet.copy rfl rfl rfl
    · refine (stage_awaitingNetKeyGet ?_).mpr ⟨hechoed, fun key _ hexchanged ↦ ?_⟩
      · exact hgrows.state.trans hstate
      · exact absurd UInt8.and_zero hexchanged
  · exact refuse_proceeds hquiet hstack _

theorem sendNetKeyReport_proceeds (hlawful : Lawful ctx) (hstack : ctx.stack = [])
    (hstate : ctx.state = .awaitingNetKeyVerify) (hechoed : Echoed ctx)
    (hverified : AllVerified ctx) : Proceeds (sendNetKeyReport ctx) := by
  have hgrows := (quiet_stopTimeout ctx).grows
  have hquiet : Lawful (ctx.note .stopTimeout) := hlawful.grows hgrows hlawful.frames
  have hstack' : (ctx.note .stopTimeout).stack = [] := hstack
  have hechoed' := hechoed.grows hgrows
  have hverified' := hverified.grows hgrows
  unfold sendNetKeyReport
  dsimp only
  generalize ctx.note .stopTimeout = noted at *
  replace hstate : noted.state = .awaitingNetKeyVerify := hgrows.state.trans hstate
  split_ifs with hvalid
  · generalize hrequested : noted.buf 2 = requested at hvalid ⊢
    simp only [validRequestedKey, Bool.and_eq_true, beq_iff_eq, bne_iff_ne] at hvalid
    have hkey : requested ∈ keyBits := by
      refine mem_keyBits requested hvalid.1 ?_
      rintro rfl
      exact hvalid.2 UInt8.zero_and
    -- A bit of the new set is the one of the requested key, or an old one.
    have hsplit : ∀ key ∈ keyBits, key &&& (noted.keyExchange ||| requested) ≠ 0 →
        key &&& noted.keyExchange ≠ 0 ∨ key = requested := by
      intro key hmem hexchanged
      exact (and_or_ne_zero hexchanged).imp_right fun hboth ↦
        eq_of_keyBits key hmem requested hkey hboth
    have hechoed'' : Echoed
        { noted with
          keyRequested := requested
          keyExchange := noted.keyExchange ||| requested } := by
      refine ⟨hechoed'.kexSets, hechoed'.echoed, fun key hmem hexchanged ↦ ?_⟩
      rcases hsplit key hmem hexchanged with hold | rfl
      · exact hechoed'.exchanged key hmem hold
      · exact hvalid.2
    have hgrows' := grows_sendNewData
      { noted with keyRequested := requested, keyExchange := noted.keyExchange ||| requested }
      (networkKeyReportFrame
        { noted with keyRequested := requested, keyExchange := noted.keyExchange ||| requested }
        requested) tempKeySecure 0 .netKeyReport rfl
    have hasked : Lawful
        { noted with keyRequested := requested, keyExchange := noted.keyExchange ||| requested } :=
      hquiet.copy rfl rfl rfl
    refine ⟨hasked.grows hgrows' (hasked.push rfl), Or.inr ?_⟩
    · refine (stage_awaitingNetKeyVerify (hgrows'.state.trans hstate)).mpr
        ⟨hechoed''.grows hgrows', ?_, fun key hmem hexchanged ↦ ?_⟩
      · rw [sendNewData_log, session_cons rfl]
        exact ⟨_, _, _, mem_cons_self, rfl⟩
      · rw [hgrows'.exchange] at hexchanged
        rw [hgrows'.requested]
        rcases hsplit key hmem hexchanged with hold | rfl
        · exact Or.inr ((hverified' key hmem hold).mono hgrows'.session.1)
        · exact Or.inl rfl
  · refine refuse_proceeds ?_ ?_ _
    · exact hquiet.copy rfl rfl rfl
    · exact hstack'

/-- The last key is verified by a frame that is encrypted with it. -/
theorem OthersVerified.all {src : Connection} {older : List Act} (hothers : OthersVerified ctx)
    (hlog : ctx.log = .received src ctx.buf ctx.length :: older)
    (hcommand : ctx.buf 1 = networkKeyVerify)
    (hslot : keySlot src.rNode ctx.keyRequested = some src.classId) : AllVerified ctx := by
  intro key hkey hexchanged
  rcases hothers.2 key hkey hexchanged with rfl | hverified
  · obtain ⟨con, frame, again, hmem, hframe⟩ := hothers.1
    refine ⟨src, ctx.buf, ctx.length, con, frame, again, ?_, hframe, hcommand, hslot⟩
    rw [hlog, session_cons rfl] at hmem ⊢
    refine List.Sublist.cons_cons _ (singleton_sublist.mpr ?_)
    rcases mem_cons.mp hmem with hmem | hmem
    · cases hmem
    · exact hmem
  · exact hverified

theorem sendTransferEnd_proceeds (hlawful : Lawful ctx) (hstage : Stage ctx) :
    Proceeds (sendTransferEnd ctx) := by
  have hquiet := (quiet_stopTimeout ctx).trans
    (quiet_networkKeyUpdate _ tempKeySecure (ctx.publicKey.take 16) true)
  have hlawful' := hlawful.quiet hquiet
  have hstage' := hstage.grows hquiet.grows
  exact sendNewData_proceeds hlawful' hstage' rfl rfl

/-- The exchange is complete when all granted keys were exchanged and verified. -/
theorem Echoed.completed (hechoed : Echoed ctx) (hverified : AllVerified ctx)
    (hsame : ctx.keyExchange = ctx.keyGranted) : Completed (session ctx.log) ctx.keyExchange := by
  refine ⟨fun con frame again hmem hkexSet ↦ ?_, ?_, hverified⟩
  · rw [hechoed.kexSets con frame again hmem hkexSet, hsame]
    rfl
  · obtain ⟨src, buf, length, con, again, hsublist, hclass, hechoes⟩ := hechoed.echoed
    exact ⟨src, buf, length, con, _, again, hsublist, rfl, hclass, hechoes⟩

theorem Completed.grows {ctx' : Context} {keys : UInt8}
    (hcompleted : Completed (session ctx.log) keys)
    (hgrows : Grows ctx ctx') : Completed (session ctx'.log) keys := by
  refine ⟨fun con frame again hmem hkexSet ↦ ?_, ?_, fun key hkey hexchanged ↦ ?_⟩
  · exact hcompleted.granted con frame again (hgrows.session.2 con frame again hmem hkexSet) hkexSet
  · obtain ⟨src, buf, length, con, frame, again, hsublist, hrest⟩ := hcompleted.echoed
    exact ⟨src, buf, length, con, frame, again, hsublist.trans hgrows.session.1, hrest⟩
  · exact (hcompleted.verified key hkey hexchanged).mono hgrows.session.1

theorem inclusionComplete_proceeds (hlawful : Lawful ctx) (hidle : ctx.state = .idle)
    (hcompleted : Completed (session ctx.log) ctx.keyExchange) :
    Proceeds (inclusionComplete ctx) := by
  unfold inclusionComplete
  split_ifs
  · dsimp only
    have hquiet := (quiet_stopTimeout ctx).trans (quiet_restoreKeys _)
    generalize restoreKeys (ctx.note .stopTimeout) = restored at hquiet ⊢
    have hgrows := hquiet.grows
    have hlawful' := hlawful.quiet hquiet
    refine proceeds_of_over (Or.inl ?_) (hlawful'.push rfl) ?_
    · exact hgrows.state.trans hidle
    · refine completionsHold_cons hlawful'.completions ?_
      rintro con keys ⟨⟩
      rw [hgrows.exchange]
      exact hcompleted.grows hgrows
  · exact inclusionFailedFrameSend_proceeds hlawful (Or.inl hidle) _ rfl

/-- When no key was granted, none was exchanged. -/
theorem checkNoKeys_proceeds (hlawful : Lawful ctx) (hidle : ctx.state = .idle)
    (hechoed : Echoed ctx) (hverified : AllVerified ctx) : Proceeds (checkNoKeys ctx) := by
  unfold checkNoKeys
  split_ifs with hgranted
  · exact abort_proceeds hlawful hidle _
  · refine inclusionComplete_proceeds hlawful hidle (hechoed.completed hverified ?_)
    have hnone : ctx.keyGranted = 0 := not_not.mp hgranted
    rw [hnone]
    refine eq_zero_of_keyBits _ fun key hkey ↦ ?_
    by_contra hexchanged
    have hgranted := hechoed.exchanged key hkey hexchanged
    rw [hnone] at hgranted
    exact hgranted UInt8.and_zero

/-- `S2_RESEND_FRAME_ACTION`: the frame may be the `KEX_SET` frame. -/
theorem resendFrame_proceeds (hlawful : Lawful ctx) (hstage : Stage ctx)
    (hstate : ctx.state.resendsFrame = true) : Proceeds (sendFrame true .done ctx) := by
  cases hkexSet : isKexSet ctx.frame with
  | false =>
    have hgrows : Grows ctx (sendFrame true .done ctx) :=
      ⟨rfl, rfl, rfl, rfl, rfl, rfl, rfl, Or.inl rfl, [.sentFrame ctx.peer ctx.frame true],
        by simp [Act.isNeutral, hkexSet], rfl⟩
    exact proceeds_of_grows hlawful hstage hgrows (hlawful.push rfl)
  | true =>
    have hlawful' : Lawful (sendFrame true .done ctx) := by
      refine ⟨hlawful.including, hlawful.push rfl, completionsHold_cons hlawful.completions ?_⟩
      rintro _ _ ⟨⟩
    have hsession : session (sendFrame true .done ctx).log =
        .sentFrame ctx.peer ctx.frame true :: session ctx.log :=
      session_cons rfl _
    -- It is the frame that was sent before.
    have hagain : Granted ctx → Granted (sendFrame true .done ctx) := by
      intro hgranted
      refine ⟨hgranted.chosen, fun con frame again hmem hframe ↦ ?_, ?_, hgranted.buffer⟩
      · rw [hsession] at hmem
        rcases mem_cons.mp hmem with hmem | hmem
        · rw [(Act.sentFrame.inj hmem).2.1]
          exact hgranted.buffer hkexSet
        · exact hgranted.kexSets con frame again hmem hframe
      · obtain ⟨con, again, hmem⟩ := hgranted.sent
        rw [hsession]
        exact ⟨con, again, mem_cons_of_mem _ hmem⟩
    refine ⟨hlawful', Or.inr ?_⟩
    unfold Stage at hstage ⊢
    rw [show (sendFrame true .done ctx).state = ctx.state from rfl]
    cases hcase : ctx.state with
    | awaitingKexReport =>
      rw [hcase] at hstage
      rw [hstage.2] at hkexSet
      cases hkexSet
    | awaitingPubKeyB =>
      rw [hcase] at hstage
      exact hagain hstage
    | awaitingUserAccept =>
      rw [hcase] at hstage
      exact hagain hstage
    | awaitingEchoKexSet =>
      rw [hcase] at hstage
      exact hagain hstage
    | _ =>
      rw [hcase] at hstate
      cases hstate

/-- An inclusion starts. -/
theorem sendKexGet_proceeds (hlawful : Lawful ctx) (hstate : ctx.state = .awaitingKexReport)
    (hsession : session ctx.log = []) : Proceeds (sendKexGet ctx) := by
  have hgrows : Grows ctx (sendKexGet ctx) := grows_sendNewFrame _ _ _ rfl
  refine ⟨hlawful.grows hgrows (hlawful.push rfl), Or.inr ?_⟩
  unfold Stage sendKexGet
  rw [sendNewFrame_eq]
  dsimp only
  rw [hstate]
  refine ⟨fun con frame again hmem ↦ ?_, ?_⟩
  · rw [session_cons rfl, hsession, mem_singleton] at hmem
    rw [(Act.sentFrame.inj hmem).2.1]
    rfl
  · rfl

/-- The public key of the other node is put to the user. -/
theorem sendPubKeyA_proceeds (hlawful : Lawful ctx) (hstage : Stage ctx) :
    Proceeds (sendPubKeyA ctx) := by
  obtain ⟨quiet, key, dskLength, hquiet, heq⟩ := sendPubKeyA_eq ctx
  rw [heq]
  exact callHandler_proceeds (hlawful.quiet hquiet) (hstage.grows hquiet.grows) rfl rfl

/-- The stage of a state of which only the number of the state has changed. -/
theorem Granted.atState (hgranted : Granted ctx) (state : IncState) : Granted { ctx with state } :=
  ⟨hgranted.chosen, hgranted.kexSets, hgranted.sent, hgranted.buffer⟩

theorem Echoed.atState (hechoed : Echoed ctx) (state : IncState) : Echoed { ctx with state } :=
  ⟨hechoed.kexSets, hechoed.echoed, hechoed.exchanged⟩

/-- An event is processed. The stage counts where the event does not end the inclusion, an event
that stands for a frame is the newest act, and a network key verify that is accepted as the answer
to a report is encrypted with the key of that report. -/
theorem processEvent_proceeds (env : Env) {event : Event} (hlawful : Lawful ctx)
    (hstage : (move ctx.state event).1 ≠ .abort → Stage ctx) (hevent : event ≠ .joiningStart)
    (hstart : event = .includingStart → session ctx.log = [])
    (harrived : event.isReceived = true → Arrived env event ctx)
    (hslot : event.isReceived = true → ctx.state = .awaitingNetKeyVerify →
      ctx.buf 1 = networkKeyVerify → ∀ src older, ctx.log = .received src ctx.buf ctx.length ::
        older → keySlot src.rNode ctx.keyRequested = some src.classId) :
    Proceeds (processEvent env event ctx) := by
  have hfits := fits_move ctx.state event hlawful.including hevent
  have hincluding := including_move ctx.state event hlawful.including hevent
  rw [processEvent_eq]
  generalize move ctx.state event = next at hfits hincluding hstage ⊢
  obtain ⟨action, newState⟩ := next
  dsimp only at hfits hincluding hstage ⊢
  have hnew : Lawful { ctx with state := newState } :=
    ⟨hincluding, hlawful.frames, hlawful.completions⟩
  cases action with
  | noAction =>
    rcases hfits with rfl | ⟨-, rfl⟩
    · exact ⟨hnew, Or.inr (hstage (by decide))⟩
    · exact proceeds_of_over (Or.inr rfl) hlawful.frames hlawful.completions
  | abort => exact abort_proceeds hnew hfits _
  | remoteError => exact abort_proceeds hnew hfits _
  | resendFrame =>
    obtain ⟨rfl, hresends, -⟩ := hfits
    exact resendFrame_proceeds hnew (hstage (by decide)) hresends
  | resendData =>
    obtain ⟨rfl, -, -⟩ := hfits
    have hgrows : Grows ctx (sendData true .done ctx) :=
      ⟨rfl, rfl, rfl, rfl, rfl, rfl, rfl, Or.inl rfl, [.sentData ctx.peer ctx.frame true],
        by simp [Act.isNeutral], rfl⟩
    exact proceeds_of_grows hlawful (hstage (by decide)) hgrows (hlawful.push rfl)
  | sendKexGet =>
    obtain ⟨-, rfl, rfl⟩ := hfits
    exact sendKexGet_proceeds hnew rfl (hstart rfl)
  | kexRepRecv =>
    obtain ⟨hstate, rfl, rfl⟩ := hfits
    have hstage := hstage (by decide)
    unfold Stage at hstage
    rw [hstate] at hstage
    exact kexRepRecv_proceeds hnew (harrived rfl).stack rfl hstage.1
  | sendKexSet =>
    obtain ⟨hstate, -, rfl⟩ := hfits
    have hstage := hstage (by decide)
    unfold Stage at hstage
    rw [hstate] at hstage
    exact sendKexSet_proceeds hnew rfl hstage.1 hstage.2
  | sendPubKeyA =>
    obtain ⟨hstate, -, rfl⟩ := hfits
    have hgranted := hstage (by decide)
    unfold Stage at hgranted
    rw [hstate] at hgranted
    have hstage' : Stage { ctx with state := .awaitingUserAccept } :=
      hgranted.atState .awaitingUserAccept
    exact sendPubKeyA_proceeds hnew hstage'
  | doEcdhCalcA =>
    obtain ⟨hstate, -, rfl⟩ := hfits
    have hgranted := hstage (by decide)
    unfold Stage at hgranted
    rw [hstate] at hgranted
    have hstage' : Stage { ctx with state := .awaitingEchoKexSet } :=
      hgranted.atState .awaitingEchoKexSet
    have hquiet := quiet_doEcdhCalcA env { ctx with state := .awaitingEchoKexSet }
    exact proceeds_of_grows hnew hstage' hquiet.grows (hnew.quiet hquiet).frames
  | sendEchoKexReport =>
    obtain ⟨hstate, rfl, rfl⟩ := hfits
    have hgranted := hstage (by decide)
    unfold Stage at hgranted
    rw [hstate] at hgranted
    have harrived := harrived rfl
    have harrived' : Arrived env .echoKexSetRecv { ctx with state := .awaitingNetKeyGet } :=
      ⟨harrived.stack, harrived.event, harrived.valid, harrived.log⟩
    exact sendEchoKexReport_proceeds hnew harrived' rfl (hgranted.atState .awaitingNetKeyGet)
  | sendErrorCancel =>
    obtain rfl := hfits
    exact inclusionFailedFrameSend_proceeds hnew (Or.inr rfl) _ rfl
  | sendErrorDecrypt =>
    obtain rfl := hfits
    exact inclusionFailedFrameSend_proceeds hnew (Or.inr rfl) _ rfl
  | sendNetKeyReport =>
    obtain ⟨hstate, rfl, rfl⟩ := hfits
    obtain ⟨hechoed, hverified⟩ := (stage_awaitingNetKeyGet hstate).mp (hstage (by decide))
    exact sendNetKeyReport_proceeds hnew (harrived rfl).stack rfl
      (hechoed.atState .awaitingNetKeyVerify) hverified
  | sendTransferEnd =>
    obtain ⟨hstate, hevents⟩ := hfits
    obtain ⟨hechoed, hothers⟩ := (stage_awaitingNetKeyVerify hstate).mp (hstage (by decide))
    have hreceived : event.isReceived = true := by
      rcases hevents with ⟨rfl, -⟩ | ⟨rfl, -⟩
      · rfl
      · rfl
    have harrived := harrived hreceived
    obtain ⟨hcommand, hfinal⟩ :=
      frameEvent_netKeyVerify harrived.event (hevents.imp And.left And.left)
    obtain ⟨src, older, hlog, -, -⟩ := harrived.log
    have hverified := hothers.all hlog hcommand (hslot hreceived hstate hcommand src older hlog)
    refine sendTransferEnd_proceeds hnew ?_
    rcases hevents with ⟨rfl, rfl⟩ | ⟨rfl, rfl⟩
    · exact (stage_awaitingTransferEnd rfl).mpr
        ⟨hechoed.atState .awaitingTransferEnd, hverified, hfinal rfl⟩
    · exact (stage_awaitingNetKeyGet rfl).mpr ⟨hechoed.atState .awaitingNetKeyGet, hverified⟩
  | inclusionComplete =>
    obtain ⟨hstate, -, rfl⟩ := hfits
    obtain ⟨hechoed, hverified, hsame⟩ := (stage_awaitingTransferEnd hstate).mp (hstage (by decide))
    exact inclusionComplete_proceeds hnew rfl (hechoed.completed hverified hsame)
  | checkNoKeys =>
    obtain ⟨hstate, -, rfl⟩ := hfits
    obtain ⟨hechoed, hverified⟩ := (stage_awaitingNetKeyGet hstate).mp (hstage (by decide))
    exact checkNoKeys_proceeds hnew rfl (hechoed.atState .idle) hverified
  | _ => exact hfits.elim

end Actions

/-! ### The inputs -/

section Inputs

variable {ctx : Context}

/-- A function outside has returned. -/
theorem Stage.pop (hstage : Stage ctx) (stack : List Frame) (retryCounter : UInt8) :
    Stage { ctx with stack, retryCounter } :=
  hstage.grows ⟨rfl, rfl, rfl, rfl, rfl, rfl, rfl, Or.inl rfl, [], by simp, rfl⟩

theorem Lawful.pop {frame : Frame} {stack : List Frame} (hlawful : Lawful ctx)
    (hstack : ctx.stack = frame :: stack) (retryCounter : UInt8) :
    Lawful { ctx with stack, retryCounter } := by
  refine ⟨hlawful.including, fun frame hmem ↦ hlawful.frames frame ?_, hlawful.completions⟩
  rw [hstack]
  exact mem_cons_of_mem _ hmem

variable (env : Env)

/-- The end of a refusal. -/
theorem errorSent_proceeds (hlawful : Lawful ctx) :
    Proceeds (processEvent env .inclusionErrorSent ctx) := by
  obtain ⟨haction, hstate⟩ := move_inclusionErrorSent ctx.state hlawful.including
  rw [processEvent_eq, haction]
  exact proceeds_of_over hstate hlawful.frames hlawful.completions

theorem proceeds_of_quiet {ctx' : Context} (hlawful : Lawful ctx) (hstage : Stage ctx)
    (hquiet : Quiet ctx ctx') : Proceeds ctx' := by
  exact ⟨hlawful.quiet hquiet, Or.inr (hstage.grows hquiet.grows)⟩

/-- What follows the return of a function outside, after anything but a refusal. -/
theorem resume_proceeds {frame : Frame} {rest : Rest} (hlawful : Lawful ctx)
    (hstage : Stage ctx) (hincluding : frame.including = true)
    (hrest : frame = .sendFrame rest ∨ frame = .sendData rest ∨ frame = .handler rest)
    (hpost : rest ≠ .post .inclusionErrorSent) : Proceeds (resume env rest ctx) := by
  cases rest with
  | done => exact ⟨hlawful, Or.inr hstage⟩
  | setTimeout interval => exact proceeds_of_quiet hlawful hstage (quiet_note _ rfl)
  | netKeyReport => exact proceeds_of_quiet hlawful hstage (quiet_sendNetKeyReportRest _)
  | pushFailed failType =>
    obtain ⟨quiet, hquiet, heq⟩ := inclusionFailedEvtPush_eq failType ctx
    simp only [resume]
    rw [heq]
    exact callHandler_proceeds (hlawful.quiet hquiet) (hstage.grows hquiet.grows) rfl rfl
  | sendPubKeyA =>
    exact proceeds_of_grows hlawful hstage (grows_sendNewFrame _ _ _ rfl) (hlawful.push rfl)
  | sendKexReport => rcases hrest with rfl | rfl | rfl <;> cases hincluding
  | post event =>
    rcases hrest with rfl | rfl | rfl
    · cases event
      case inclusionErrorSent => exact absurd rfl hpost
      all_goals cases hincluding
    · cases hincluding
    · cases hincluding

theorem ret_proceeds (success : Bool) (hproceeds : Proceeds ctx) :
    Proceeds (ret env success ctx) := by
  obtain ⟨hlawful, hrefusing | hstage⟩ := hproceeds
  · unfold ret
    rw [hrefusing]
    exact errorSent_proceeds env (hlawful.pop hrefusing _)
  · unfold ret
    cases hstack : ctx.stack with
    | nil => exact ⟨hlawful, Or.inr hstage⟩
    | cons frame stack =>
      have hincluding : frame.including = true := by
        refine hlawful.frames frame ?_
        rw [hstack]
        exact mem_cons_self
      cases frame with
      | sendFrame rest =>
        by_cases hpost : rest = .post .inclusionErrorSent
        · subst hpost
          exact errorSent_proceeds env (hlawful.pop hstack _)
        · exact resume_proceeds env (hlawful.pop hstack _) (hstage.pop stack _) hincluding
            (Or.inl rfl) hpost
      | sendData rest =>
        refine resume_proceeds env (hlawful.pop hstack _) (hstage.pop stack _) hincluding
          (Or.inr (Or.inl rfl)) ?_
        rintro rfl
        cases hincluding
      | sendEcho => cases hincluding
      | handler rest =>
        refine resume_proceeds env (hlawful.pop hstack ctx.retryCounter)
          (hstage.pop stack ctx.retryCounter) hincluding (Or.inr (Or.inr rfl)) ?_
        rintro rfl
        cases hincluding

/-- Where an input is processed, no frame is being refused. -/
theorem Proceeds.settled (hproceeds : Proceeds ctx) {input : Input}
    (hpossible : input.possible ctx.stack = true) (hret : ∀ success, input ≠ .ret success) :
    Stage ctx := by
  rcases hproceeds.2 with hrefusing | hstage
  · rw [hrefusing] at hpossible
    cases input
    case ret success => exact absurd rfl (hret success)
    all_goals cases hpossible
  · exact hstage

/-- An event of the user, of a timer or of a transmission. -/
theorem event_proceeds {event : Event} (hlawful : Lawful ctx)
    (hstage : (move ctx.state event).1 ≠ .abort → Stage ctx) (hevent : event ≠ .joiningStart)
    (hstart : event ≠ .includingStart) (hreceived : event.isReceived = false) :
    Proceeds (processEvent env event ctx) := by
  have hnot : event.isReceived ≠ true := by
    rw [hreceived]
    decide
  exact processEvent_proceeds env hlawful hstage hevent (fun h ↦ absurd h hstart)
    (fun h ↦ absurd h hnot) fun h ↦ absurd h hnot

/-- The states in which a decision of the user is awaited. -/
theorem move_includingAccept : ∀ state : IncState, state.including = true →
    (move state .includingAccept).1 ≠ .abort →
      state = .idle ∨ state = .awaitingKeyUserAccept ∨ state = .awaitingUserAccept := by
  decide +kernel

/-- A network key verify that is accepted as the answer to a network key report is encrypted with
the key of that report, and the granted keys are not replaced after they were sent. The context is
used by the including node only. -/
def VerifiesLast (env : Env) (ctx : Context) (input : Input) : Prop :=
  match input with
  | .joiningStart _ _ => False
  | .keyGrant accepts keys csa =>
    accepts = true → ctx.state = .awaitingUserAccept → keys = ctx.keyGranted ∧ modeOf csa = ctx.mode
  | .received src buf length =>
    match accept src buf length ctx with
    | none => True
    | some ctx' =>
      match outcome env ctx' with
      | .event _ =>
        ctx.state = .awaitingNetKeyVerify → buf 1 = networkKeyVerify →
          keySlot src.rNode ctx.keyRequested = some src.classId
      | _ => True
  | _ => True

instance (env : Env) (ctx : Context) : ∀ input, Decidable (VerifiesLast env ctx input)
  | .joiningStart .. => isFalse id
  | .keyGrant .. => inferInstanceAs (Decidable (_ → _ → _))
  | .received src buf length => by
    unfold VerifiesLast
    dsimp only
    exact match accept src buf length ctx with
      | none => isTrue trivial
      | some ctx' => by
        dsimp only
        exact match outcome env ctx' with
          | .event _ => inferInstanceAs (Decidable (_ → _ → _))
          | .ignored | .tooShort | .refused => isTrue trivial
  | .includingStart .. | .challengeResponse .. | .neighborDiscoveryComplete | .abort
  | .decryptionFailure .. | .commandsSupportedGet .. | .timeout | .sendDone .. | .ret .. =>
    isTrue trivial

theorem postEvent_proceeds {src : Connection} {buf : ℕ → UInt8} {length : ℕ}
    (hlawful : Lawful ctx) (hstage : Stage ctx) (hstack : ctx.stack = [])
    (hverifies : VerifiesLast env ctx (.received src buf length)) :
    Proceeds (postEvent env src buf length ctx) := by
  unfold postEvent
  cases haccept : accept src buf length ctx with
  | none =>
    exact proceeds_of_grows hlawful hstage
      ⟨rfl, rfl, rfl, rfl, rfl, rfl, rfl, Or.inl rfl, [], by simp, rfl⟩ hlawful.frames
  | some ctx' =>
    obtain ⟨hnode, hctx'⟩ := accept_including hlawful.including haccept
    simp only [VerifiesLast, haccept] at hverifies
    have hgrows : Grows ctx ctx' := by
      rw [hctx']
      exact ⟨rfl, rfl, rfl, rfl, rfl, rfl, rfl, Or.inl rfl, [.received src buf length],
        by simp [Act.isNeutral], rfl⟩
    have hstack' : ctx'.stack = [] := by
      rw [hctx']
      exact hstack
    have hlog : ctx'.log = .received src ctx'.buf ctx'.length :: ctx.log := by
      rw [hctx']
      rfl
    have hpeer : src.classId = ctx'.peer.classId ∧ src.rNode = ctx'.peer.rNode := by
      rw [hctx']
      exact ⟨rfl, hnode.symm⟩
    have hbuf : ctx'.buf = buf := by
      rw [hctx']
      rfl
    have hlawful' : Lawful ctx' := by
      refine hlawful.grows hgrows ?_
      rw [hstack']
      exact fun frame hmem ↦ absurd hmem not_mem_nil
    have hstage' := hstage.grows hgrows
    simp only [postEventInternal]
    cases houtcome : outcome env ctx' with
    | ignored => exact ⟨hlawful', Or.inr hstage'⟩
    | tooShort => exact event_proceeds env hlawful' (fun _ ↦ hstage') (by decide) (by decide) rfl
    | refused => exact refuse_proceeds hlawful' hstack' _
    | event event =>
      rw [houtcome] at hverifies
      obtain ⟨hvalid, hevent⟩ := outcome_event houtcome
      have hreceived : event.isReceived = true := by
        rw [← hevent]
        exact frameEvent_isReceived ctx'
      refine processEvent_proceeds env hlawful' (fun _ ↦ hstage') ?_ ?_
        (fun _ ↦ ⟨hstack', hevent, hvalid, src, ctx.log, hlog, hpeer⟩) ?_
      · rintro rfl
        cases hreceived
      · rintro rfl
        cases hreceived
      · intro _ hstate hcommand src' older hlog'
        rw [hlog] at hlog'
        obtain ⟨hsrc, -, -⟩ := Act.received.inj (List.cons.inj hlog').1
        rw [← hsrc, hgrows.requested]
        rw [hgrows.state] at hstate
        rw [hbuf] at hcommand
        exact hverifies hstate hcommand

theorem commandsSupportedGet_proceeds (classes : List UInt8) (hlawful : Lawful ctx)
    (hstage : Stage ctx) : Proceeds (commandsSupportedGet classes ctx) := by
  -- What is in the buffer now is no `KEX_SET` frame.
  have hother : ∀ (tail : List UInt8) (n : ℕ),
      isKexSet ((commandClassSecurity2 :: commandsSupportedReport :: tail).take n) = false := by
    intro tail n
    rcases n with _ | _ | n
    · rfl
    · rfl
    · rfl
  refine proceeds_of_grows hlawful hstage
    ⟨rfl, rfl, rfl, rfl, rfl, rfl, rfl, Or.inr ?_, [], by simp, rfl⟩ hlawful.frames
  simp only [Context.frame, commandsSupportedGet, overwrite]
  split_ifs
  · exact hother _ _
  · exact hother _ _

/-- A step keeps the invariant. -/
theorem step_proceeds (input : Input) (hverifies : VerifiesLast env ctx input)
    (hproceeds : Proceeds ctx) : Proceeds (step env ctx input) := by
  unfold step
  split_ifs with hpossible
  · have hlawful := hproceeds.1
    cases input with
    | ret success => exact ret_proceeds env success hproceeds
    | joiningStart con csa => exact hverifies.elim
    | received src buf length =>
      refine postEvent_proceeds env hlawful (hproceeds.settled hpossible.2 (by simp)) ?_ hverifies
      cases hstack : ctx.stack with
      | nil => rfl
      | cons frame stack =>
        rw [hstack] at hpossible
        cases frame <;> cases hpossible.2
    | includingStart con =>
      simp only [process, includingStart]
      split_ifs with hidle
      · refine processEvent_proceeds env ⟨hlawful.including, hlawful.frames, ?_⟩ (fun _ ↦ ?_)
          (by decide) (fun _ ↦ rfl) (fun h ↦ by cases h) fun h ↦ by cases h
        · refine completionsHold_cons hlawful.completions ?_
          rintro _ _ ⟨⟩
        · exact stage_idle hidle
      · exact hproceeds
    | keyGrant accepts keys csa =>
      have hstage := hproceeds.settled hpossible.2 (by simp)
      simp only [process, keyGrant]
      split_ifs with haccepts
      · refine event_proceeds env (hlawful.copy rfl rfl rfl) (fun hmove ↦ ?_) (by decide)
          (by decide) rfl
        -- The decision counts in two states only, and in one of them no keys were sent yet.
        rcases move_includingAccept ctx.state hlawful.including hmove with hstate | hstate | hstate
        · exact stage_idle hstate
        · unfold Stage at hstage ⊢
          dsimp only
          rw [hstate] at hstage ⊢
          exact hstage
        · obtain ⟨hkeys, hmode⟩ := hverifies haccepts hstate
          rw [hkeys, hmode]
          exact hstage
      · exact event_proceeds env hlawful (fun _ ↦ hstage) (by decide) (by decide) rfl
    | challengeResponse accepts response =>
      have hstage := hproceeds.settled hpossible.2 (by simp)
      simp only [process, challengeResponse]
      split_ifs
      · refine event_proceeds env (hlawful.copy rfl rfl rfl) (fun _ ↦ ?_) (by decide)
          (by decide) rfl
        exact hstage.grows (quiet_publicKey ctx _).grows
      · exact event_proceeds env hlawful (fun _ ↦ hstage) (by decide) (by decide) rfl
    | neighborDiscoveryComplete =>
      exact event_proceeds env hlawful (fun _ ↦ hproceeds.settled hpossible.2 (by simp)) (by decide)
        (by decide) rfl
    | abort =>
      exact event_proceeds env hlawful (fun _ ↦ hproceeds.settled hpossible.2 (by simp)) (by decide)
        (by decide) rfl
    | decryptionFailure src =>
      simp only [process]
      split_ifs
      · exact event_proceeds env hlawful (fun _ ↦ hproceeds.settled hpossible.2 (by simp))
          (by decide) (by decide) rfl
      · exact hproceeds
    | commandsSupportedGet classes =>
      exact commandsSupportedGet_proceeds classes hlawful (hproceeds.settled hpossible.2 (by simp))
    | timeout =>
      have hincluding := hlawful.including
      simp only [process, notifyTimeout]
      rw [if_neg]
      · exact event_proceeds env hlawful (fun _ ↦ hproceeds.settled hpossible.2 (by simp))
          (by decide) (by decide) rfl
      · rintro ⟨hjoining, -⟩
        rw [hjoining] at hincluding
        cases hincluding
    | sendDone success =>
      have hstage := hproceeds.settled hpossible.2 (by simp)
      simp only [process, sendDone]
      split_ifs
      · exact event_proceeds env (hlawful.copy rfl rfl rfl) (fun _ ↦ hstage.pop ctx.stack _)
          (by decide) (by decide) rfl
      · exact event_proceeds env hlawful (fun _ ↦ hstage) (by decide) (by decide) rfl
      · exact event_proceeds env hlawful (fun _ ↦ hstage) (by decide) (by decide) rfl
      · exact event_proceeds env hlawful (fun _ ↦ hstage) (by decide) (by decide) rfl
  · exact hproceeds

end Inputs

/-! ### Whole runs -/

/-- **The end of an inclusion.** In every run of the including node in which each network key verify
that is accepted is encrypted with the key that was reported last, and the granted keys are not
replaced after they were sent, the event handler is told the end of an inclusion only with the keys
of the `KEX_SET` frame, after the echo of this frame, and after each of the keys was verified. -/
theorem inclusion_completed (env : Env) (start : Context) (inputs : List Input)
    (hverifies : AllSteps (step env) (VerifiesLast env) (atRest start) inputs) :
    CompletionsHold (run (step env) (atRest start) inputs).log := by
  have hstart : Proceeds (atRest start) := by
    refine ⟨⟨rfl, fun frame hmem ↦ absurd hmem not_mem_nil, ?_⟩, Or.inr (stage_idle rfl)⟩
    intro later con keys older hsplit
    cases later <;> cases hsplit
  have hproceeds := run_invariant_of_allSteps
    (fun ctx input hverifies hproceeds ↦ step_proceeds env input hverifies hproceeds)
      hstart hverifies
  exact hproceeds.1.completions

/-- The keys of the act that ends an inclusion. -/
def Act.completedKeys : Act → Option UInt8
  | .pushed (.inclusionComplete _ keys) => some keys
  | _ => none

/-- The log from the newest end of an inclusion on. -/
def fromCompletion (log : List Act) : List Act :=
  log.dropWhile fun act ↦ act.completedKeys.isNone

/-- Node 5 is granted two keys and verifies both. -/
theorem inclusion_completed_twoKeys :
    (fromCompletion
      (run (step sampleEnv) (atRest sampleContext) (grantInputs 3 ++ transferInputs 1 0 ++
        transferInputs 2 1 ++
          [frameOf tempKeySecure [commandClassSecurity2, transferEnd, keyReqComplete],
          .ret true])).log).head?.bind Act.completedKeys = some 3 ∧
      CompletionsHold
        (run (step sampleEnv) (atRest sampleContext) (grantInputs 3 ++ transferInputs 1 0 ++
        transferInputs 2 1 ++
          [frameOf tempKeySecure [commandClassSecurity2, transferEnd, keyReqComplete],
          .ret true])).log :=
  ⟨by decide +kernel, inclusion_completed sampleEnv sampleContext _ (by decide +kernel)⟩

theorem CompletionsHold.newest {log : List Act} (hlog : CompletionsHold log) (keys : UInt8)
    (hkeys : (fromCompletion log).head?.bind Act.completedKeys = some keys) :
    Completed (session (fromCompletion log).tail) keys := by
  have hsplit : log = _ ++ fromCompletion log := (takeWhile_append_dropWhile).symm
  cases hrest : fromCompletion log with
  | nil =>
    rw [hrest] at hkeys
    cases hkeys
  | cons act older =>
    rw [hrest] at hkeys hsplit
    cases act with
    | pushed event =>
      cases event with
      | inclusionComplete con completed =>
        obtain rfl : completed = keys := Option.some.inj hkeys
        exact hlog _ con completed older hsplit
      | _ => cases hkeys
    | _ => cases hkeys

/-- The act is the arrival of a network key verify that was encrypted with the key. -/
def Act.verifies (key : UInt8) : Act → Bool
  | .received src buf _ => buf 1 == networkKeyVerify && keySlot src.rNode key == some src.classId
  | _ => false

theorem Verified.any_verifies {acts : List Act} {key : UInt8} (hverified : Verified acts key) :
    acts.any (Act.verifies key) = true := by
  obtain ⟨src, buf, length, con, frame, again, hsublist, -, hcommand, hslot⟩ := hverified
  refine any_eq_true.mpr ⟨.received src buf length, hsublist.mem mem_cons_self, ?_⟩
  simp [Act.verifies, hcommand, hslot]

/-- Node 5 is granted two keys. After the second was reported, it repeats the network key verify of
the first, and the inclusion ends with both keys. -/
theorem completed_with_repeated_verify :
    ¬ ∀ (env : Env) (start : Context) (inputs : List Input),
      (∀ input ∈ inputs, input.including = true) →
      CompletionsHold (run (step env) (atRest start) inputs).log := by
  intro hclaim
  have hcompleted := (hclaim sampleEnv sampleContext (grantInputs 3 ++ transferInputs 1 0 ++
      transferInputs 2 0 ++
        [frameOf tempKeySecure [commandClassSecurity2, transferEnd, keyReqComplete],
        .ret true]) (by decide)).newest 3 (by decide +kernel)
  have hverified := (hcompleted.verified 2 (by decide) (by decide)).any_verifies
  exact absurd hverified (by decide +kernel)

end ZipGateway.Inclusion
