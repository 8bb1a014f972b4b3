import ZipGateway.Inclusion.Effects
import ZipGateway.Lib.Reading
import ZipGateway.SecurityS2.Receive

/-!
# What is read of a received frame

`postEventReads` reads the received frame as `s2_inclusion_post_event_internal` and the actions of
the state machine do, in the order of the source. The check of the rules has the value that the
machine goes on with (`value_ruleCheck`), so the actions that are followed are those that the
machine performs.

`S2_application_command_handler` filters the frames before. It answers a request for the supported
commands itself when the frame was encrypted, and not when it came in the clear: then its command is
the first one behind the table of the rules, and the comparison with the size of the table lets it
pass.
-/

set_option autoImplicit false

namespace ZipGateway.Inclusion

open Lib Lib.Reading List SecurityS2

/-! ### The check of the rules -/

/-- The encryption that the rule asks for. Only the rules for frames that may be an echo look at the
flag. -/
def cryptRule (length : ℕ) (rule : FrameRule) : Reading UInt8 :=
  if rule.encryptionSupport = echoSupport then do
    let flags ← byte length 2
    pure (if flags &&& echoOn ≠ 0 then rule.ruleB else rule.ruleA)
  else pure rule.ruleA

/-- The frame was encrypted as it has to be. -/
def classMatches (rule : FrameRule) (cryptRule : UInt8) (ctx : Context) : Bool :=
  if cryptRule = networkKeySecure then validVerifyClass ctx
  else cryptRule == ctx.peer.classId ||
    (rule.encryptionSupport == dualRuleSupport && ctx.peer.classId == rule.ruleB)

/-- The event of a frame with a flag in its third byte. -/
def flaggedEvent (length : ℕ) (set unset : Event) : Reading Event := do
  let flags ← byte length 2
  pure (if flags &&& 1 != 0 then set else unset)

/-- The event of a command. -/
def eventOf (command : UInt8) (ctx : Context) : Reading Event :=
  if command = kexGet then pure .kexGetRecv
  else if command = kexReport then flaggedEvent ctx.length .echoKexReportRecv .kexReportRecv
  else if command = kexSet then flaggedEvent ctx.length .echoKexSetRecv .kexSetRecv
  else if command = kexFail then pure .inclusionErrorRecv
  else if command = publicKeyReport then flaggedEvent ctx.length .pubKeyRecvA .pubKeyRecvB
  else if command = networkKeyGet then pure .netKeyGetRecv
  else if command = networkKeyReport then pure .netKeyReportRecv
  else if command = networkKeyVerify then
    pure (if ctx.keyExchange = ctx.keyGranted then .netKeyVerifyFinalRecv else .netKeyVerifyRecv)
  else if command = transferEnd then
    pure (if (0 - ctx.keyExchange) &&& ctx.keyGranted ≠ 0 then .transferEndRecv
      else .sendFinalTransferEnd)
  else pure .unnamed

/-- The place of the rule for a command. -/
def ruleIndex (command : UInt8) : ℕ := (command - kexGet).toNat

/-- `s2_inclusion_post_event_internal`, until an event is processed. -/
def ruleCheck (env : Env) (ctx : Context) : Reading Outcome := do
  let command ← byte ctx.length 1
  if frameRules.length < ruleIndex command ∨ ctx.state = .idle then pure .ignored
  else
    let rule := frameRules.getD (ruleIndex command) env.rulesBeyond
    if ctx.length < rule.length.toNat then pure .tooShort
    else
      let crypt ← cryptRule ctx.length rule
      if classMatches rule crypt ctx then do
        let event ← eventOf command ctx
        pure (.event event)
      else pure .refused

/-- The place at which the table of rules is read for the frame. -/
def rulePlace (ctx : Context) : Option ℕ :=
  let index := ruleIndex (ctx.buf 1)
  if frameRules.length < index ∨ ctx.state = .idle then none else some index

section Value

variable (ctx : Context)

theorem value_ite {α : Type} (condition : Prop) [Decidable condition] (first second : Reading α)
    (memory : ℕ → UInt8) :
    (if condition then first else second).value memory =
      if condition then first.value memory else second.value memory :=
  apply_ite (fun x : Reading α ↦ x.value memory) condition first second

theorem value_cryptRule (rule : FrameRule) :
    (cryptRule ctx.length rule).value ctx.buf =
      if rule.encryptionSupport = echoSupport ∧ ctx.buf 2 &&& echoOn ≠ 0 then rule.ruleB
        else rule.ruleA := by
  unfold cryptRule
  split_ifs with hecho hboth hboth
  · simp [hboth.2]
  · have hflag : ctx.buf 2 &&& echoOn = 0 := not_not.mp fun hflag ↦ hboth ⟨hecho, hflag⟩
    simp [hflag]
  · exact absurd hboth.1 hecho
  · rfl

theorem value_eventOf : (eventOf (ctx.buf 1) ctx).value ctx.buf = frameEvent ctx := by
  unfold eventOf frameEvent
  rw [value_ite, value_ite, value_ite, value_ite, value_ite, value_ite, value_ite, value_ite,
    value_ite]
  rfl

/-- The check has the value that the machine goes on with. -/
theorem value_ruleCheck (env : Env) : (ruleCheck env ctx).value ctx.buf = outcome env ctx := by
  unfold ruleCheck outcome ruleIndex
  rw [value_bind, value_byte, value_ite]
  dsimp only
  rw [value_ite, value_bind, value_cryptRule, value_ite, value_bind, value_eventOf]
  rfl

end Value

/-! ### The actions -/

/-- Bytes are compared with values until one differs. -/
def sameBytes (length : ℕ) : List (ℕ × UInt8) → Reading Bool
  | [] => pure true
  | (i, value) :: rest => do
    let found ← byte length i
    if found = value then sameBytes length rest else pure false

/-- `s2_kex_rep_recv`. -/
def kexRepRecvReads (ctx : Context) : Reading Unit := do
  let schemes ← byte ctx.length 3
  if schemes &&& scheme1Support &&& scheme1Support = 0 then pure ()
  else
    let curves ← byte ctx.length 4
    if curves &&& curve25519 &&& curve25519 = 0 then pure ()
    else
      let keys ← byte ctx.length 5
      let offered :=
        if isLrNode ctx.peer.rNode then keys &&&
          ~~~(keyClassUnauthenticated ||| keyClassS0) else keys
      if offered &&& keyMask = 0 then pure ()
      else
        let _ ← byte ctx.length 2
        pure ()

/-- `s2_send_echo_kex_report`. -/
def sendEchoKexReportReads (ctx : Context) : Reading Unit := do
  let same ← sameBytes ctx.length
    [(3, ctx.schemeSupport), (4, ctx.curveSupport), (5, ctx.keyGranted)]
  if same then
    let _ ← byte ctx.length 2
    pure ()
  else pure ()

/-- The third byte is read of the end of a transfer. -/
def transferEndReads (ctx : Context) : Reading Unit := do
  let command ← byte ctx.length 1
  if command = transferEnd then
    let _ ← byte ctx.length 2
    pure ()
  else pure ()

/-- `s2_send_pub_key_b`. -/
def sendPubKeyBReads (ctx : Context) : Reading Unit := do
  let scheme ← byte ctx.length 3
  if validSelection scheme ctx.schemes then
    let curve ← byte ctx.length 4
    if validSelection curve ctx.curves then
      let keys ← byte ctx.length 5
      if ~~~ctx.keys &&& keys = 0 then
        let _ ← byte ctx.length 2
        pure ()
      else pure ()
    else pure ()
  else pure ()

/-- `s2_send_net_key_verify`. -/
def sendNetKeyVerifyReads (ctx : Context) : Reading Unit := do
  let key ← byte ctx.length 2
  if key = ctx.keyExchange then
    let _ ← bytes ctx.length 3 16
    pure ()
  else pure ()

/-- The actions that process no further event themselves. -/
def performReads (action : Action) (ctx : Context) : Reading Unit :=
  match action with
  | .kexRepRecv => kexRepRecvReads ctx
  | .sendPubKeyA | .pubKeyARecv => do
    let _ ← bytes ctx.length 3 32
    pure ()
  | .sendEchoKexReport => sendEchoKexReportReads ctx
  | .sendNetKeyReport | .remoteError => do
    let _ ← byte ctx.length 2
    pure ()
  | .inclusionComplete | .sendFinalTransferEnd => transferEndReads ctx
  | .checkNoKeys => if ctx.keyGranted ≠ 0 then pure () else transferEndReads ctx
  | .sendPubKeyB => sendPubKeyBReads ctx
  | .sendNetKeyVerify => sendNetKeyVerifyReads ctx
  | _ => pure ()

/-- The echo of a `KEX_REPORT` frame is compared with what was sent. -/
def echoKexReportReads (command : UInt8) (ctx : Context) : Reading Bool :=
  if command = kexReport then
    sameBytes ctx.length
      [(3, ctx.schemes), (4, ctx.curves), (5, ctx.keys), (2, ctx.csaSupport ||| echoOn)]
  else pure true

/-- The flags of the end of a transfer. Another frame is taken as if its key was verified. -/
def transferFlags (command : UInt8) (length : ℕ) : Reading UInt8 :=
  if command = transferEnd then byte length 2 else pure keyVerified

/-- `s2_send_net_key_get`. -/
def sendNetKeyGetReads (ctx : Context) : Reading Unit := do
  let command ← byte ctx.length 1
  let same ← echoKexReportReads command ctx
  if same then
    let flags ← transferFlags command ctx.length
    if flags &&& (keyReqComplete ||| keyVerified) = keyVerified ∧ ctx.keyGranted = 0 then
      performReads (move ctx.state .noKeysGranted).1 ctx
    else pure ()
  else pure ()

/-- The action of a row of the table. -/
def actionReads (action : Action) (ctx : Context) : Reading Unit :=
  match action with
  | .sendNetKeyGet => sendNetKeyGetReads ctx
  | action => performReads action ctx

/-- `process_event`. -/
def processEventReads (event : Event) (ctx : Context) : Reading Unit :=
  actionReads (move ctx.state event).1 { ctx with state := (move ctx.state event).2 }

/-- `s2_inclusion_post_event_internal`, with the action that it triggers. -/
def postEventReads (env : Env) (ctx : Context) : Reading Unit := do
  let outcome ← ruleCheck env ctx
  match outcome with
  | .event event => processEventReads event ctx
  | .tooShort => processEventReads .inclusionError ctx
  | .ignored | .refused => pure ()

/-! ### The frames that are forwarded -/

/-- A frame with the command class of S2 that comes in the clear, or the plaintext of one that was
decrypted. The memory goes on behind the frame. -/
inductive Arrival
  | clear (src : Connection) (buf : ℕ → UInt8) (length : ℕ)
  | decrypted (src : Connection) (plainText : ℕ → UInt8) (length : ℕ)

/-- What `s2_inclusion_post_event` is called with. -/
structure Forwarded where
  src : Connection
  buf : ℕ → UInt8
  length : ℕ

/-- The frame that `S2_application_command_handler` gives to the inclusion. `idle` says that no
frame is being sent. -/
def Arrival.forwarded (idle : Bool) (arrival : Arrival) : Option Forwarded :=
  match arrival with
  | .clear src buf length =>
    if buf 0 ≠ commandClassSecurity2 then none
    else if buf 1 = security2NonceGet ∨ buf 1 = security2NonceReport ∨
      buf 1 = security2MessageEncapsulation then none
    else if idle = false ∧ buf 1 ≠ kexFail then none
    else if src.isMulticast then none
    else some ⟨{ src with classId := unencryptedClass }, buf, length⟩
  | .decrypted src plainText length =>
    if length = 0 then none
    else if plainText 0 = commandClassSecurity2 ∧
      plainText 1 ≠ security2CommandsSupportedReport then
      if src.isMulticast then none
      else if plainText 1 = security2CommandsSupportedGet then none
      else some ⟨src, plainText, length⟩
    else none

def inclusionCommands : List UInt8 :=
  [kexGet, kexReport, kexSet, kexFail, publicKeyReport, networkKeyGet, networkKeyReport,
    networkKeyVerify, transferEnd]

/-- The frame is in the memory, and nothing else has changed. What has come may be logged. -/
def Undisturbed (ctx : Context) (frame : Forwarded) (ctx' : Context) : Prop :=
  ctx' = { ctx with buf := frame.buf, length := frame.length, log := ctx'.log } ∧
    (ctx'.log = ctx.log ∨ ctx'.log = .received frame.src frame.buf frame.length :: ctx.log)

/-- The table of the rules is only read at its places, nothing is read behind the frame, and a frame
that is no command of an inclusion changes nothing. -/
structure Handles (env : Env) (ctx : Context) (frame : Forwarded) : Prop where
  inTable : ∀ accepted, accept frame.src frame.buf frame.length ctx = some accepted →
    ∀ index ∈ rulePlace accepted, index < frameRules.length
  confined : ∀ accepted, accept frame.src frame.buf frame.length ctx = some accepted →
    (postEventReads env accepted).Confines frame.buf frame.length
  undisturbed : frame.buf 1 ∉ inclusionCommands →
    Undisturbed ctx frame (postEvent env frame.src frame.buf frame.length ctx)

/-- The frame comes from the peer, or from any node while the node waits for its first frame. -/
def FromPeer (ctx : Context) (frame : Forwarded) : Prop :=
  ctx.state = .awaitingKexGet ∨ ctx.peer.rNode = frame.src.rNode

/-- The connection of the frame is the one that is kept for the peer. -/
def SamePeer (ctx : Context) (frame : Forwarded) : Prop :=
  if ctx.state = .awaitingKexGet then frame.src = ctx.peer else frame.src.classId = ctx.peer.classId

/-- The frame comes from another node than the peer; or it has a command, is not the request for the
supported commands while an inclusion is under way, and comes over the connection of the peer if it
is no command of an inclusion. -/
def Harmless (ctx : Context) (frame : Forwarded) : Prop :=
  FromPeer ctx frame →
    2 ≤ frame.length ∧ (frame.buf 1 = security2CommandsSupportedGet → ctx.state = .idle) ∧
      (frame.buf 1 ∉ inclusionCommands → SamePeer ctx frame)

/-! ### The table of the rules -/

theorem ruleIndex_lt (command : UInt8) :
    ruleIndex command < frameRules.length ↔ command ∈ inclusionCommands := by
  have hall : ∀ bits : BitVec 8, ruleIndex (.ofBitVec bits) < frameRules.length ↔
      UInt8.ofBitVec bits ∈ inclusionCommands := by
    decide +kernel
  exact hall command.toBitVec

theorem ruleIndex_eq (command : UInt8) :
    ruleIndex command = frameRules.length ↔ command = security2CommandsSupportedGet := by
  have hall : ∀ bits : BitVec 8, ruleIndex (.ofBitVec bits) = frameRules.length ↔
      UInt8.ofBitVec bits = security2CommandsSupportedGet := by
    decide +kernel
  exact hall command.toBitVec

/-- The length of the shortest frame that is such an event. -/
def Event.minLength : Event → ℕ
  | .kexGetRecv | .netKeyVerifyRecv | .netKeyVerifyFinalRecv => 2
  | .inclusionErrorRecv | .netKeyGetRecv | .transferEndRecv | .sendFinalTransferEnd => 3
  | .kexReportRecv | .echoKexReportRecv | .kexSetRecv | .echoKexSetRecv => 6
  | .netKeyReportRecv => 19
  | .pubKeyRecvA | .pubKeyRecvB => 35
  | _ => 0

/-- The number of bytes that an action reads at most. -/
def Action.extent : Action → ℕ
  | .sendNetKeyReport | .remoteError | .inclusionComplete | .checkNoKeys | .sendFinalTransferEnd =>
    3
  | .kexRepRecv | .sendEchoKexReport | .sendPubKeyB => 6
  | .sendNetKeyVerify => 19
  | .sendPubKeyA | .pubKeyARecv => 35
  | _ => 0

/-- An action reads no more than every frame has that triggers it. -/
theorem extent_move : ∀ (state : IncState) (event : Event), event.isReceived = true →
    (move state event).1.extent ≤ event.minLength := by
  simp only [move_eq_moveAmong]
  decide +kernel

/-- When a frame is too short, nothing is read. -/
theorem extent_move_inclusionError : ∀ state : IncState,
    (move state .inclusionError).1.extent = 0 ∧
      (move state .inclusionError).1 ≠ .sendNetKeyGet := by
  decide +kernel

/-! ### The reads of the actions -/

section Confines

variable {ctx : Context} {memory : ℕ → UInt8}

/-- A byte of the frame is read. -/
theorem confines_at {length extent : ℕ} (hextent : extent ≤ length) {i : ℕ} (hi : i < extent) :
    (byte length i).Confines memory length :=
  (confines_byte memory length).mpr (Nat.lt_of_lt_of_le hi hextent)

theorem confines_done {length : ℕ} : (pure () : Reading Unit).Confines memory length :=
  confines_pure memory length ()

theorem confines_sameBytes {length : ℕ} {values : List (ℕ × UInt8)}
    (hvalues : ∀ value ∈ values, value.1 < length) :
      (sameBytes length values).Confines memory length := by
  induction values with
  | nil => exact confines_pure memory length true
  | cons value rest ih =>
    have hfirst := hvalues value mem_cons_self
    have hrest := ih fun other hother ↦ hvalues other (mem_cons_of_mem _ hother)
    exact Confines.bind ((confines_byte memory length).mpr hfirst) fun found ↦
      Confines.ite hrest (confines_pure memory length false)

theorem confines_kexRepRecv
    (hlength : 6 ≤ ctx.length) : (kexRepRecvReads ctx).Confines memory ctx.length := by
  refine Confines.bind (confines_at hlength (by decide)) fun schemes ↦ Confines.ite confines_done ?_
  refine Confines.bind (confines_at hlength (by decide)) fun curves ↦ Confines.ite confines_done ?_
  refine Confines.bind (confines_at hlength (by decide)) fun keys ↦ Confines.ite confines_done ?_
  exact Confines.bind (confines_at hlength (by decide)) fun _ ↦ confines_done

theorem confines_sendEchoKexReport (hlength : 6 ≤ ctx.length) :
    (sendEchoKexReportReads ctx).Confines memory ctx.length := by
  refine Confines.bind (confines_sameBytes ?_) fun same ↦ Confines.ite ?_ confines_done
  · simp only [mem_cons, not_mem_nil, or_false, forall_eq_or_imp, forall_eq]
    omega
  · exact Confines.bind (confines_at hlength (by decide)) fun _ ↦ confines_done

theorem confines_transferEnd
    (hlength : 3 ≤ ctx.length) : (transferEndReads ctx).Confines memory ctx.length := by
  refine Confines.bind (confines_at hlength (by decide)) fun command ↦ Confines.ite ?_ confines_done
  exact Confines.bind (confines_at hlength (by decide)) fun _ ↦ confines_done

theorem confines_sendPubKeyB
    (hlength : 6 ≤ ctx.length) : (sendPubKeyBReads ctx).Confines memory ctx.length := by
  refine Confines.bind (confines_at hlength (by decide)) fun scheme ↦ Confines.ite ?_ confines_done
  refine Confines.bind (confines_at hlength (by decide)) fun curve ↦ Confines.ite ?_ confines_done
  refine Confines.bind (confines_at hlength (by decide)) fun keys ↦ Confines.ite ?_ confines_done
  exact Confines.bind (confines_at hlength (by decide)) fun _ ↦ confines_done

theorem confines_sendNetKeyVerify (hlength : 19 ≤ ctx.length) :
    (sendNetKeyVerifyReads ctx).Confines memory ctx.length := by
  refine Confines.bind (confines_at hlength (by decide)) fun key ↦ Confines.ite ?_ confines_done
  exact Confines.bind ((confines_bytes memory ctx.length).mpr hlength) fun _ ↦ confines_done

/-- An action reads no more than its extent. -/
theorem confines_performReads {action : Action} (hextent : action.extent ≤ ctx.length) :
    (performReads action ctx).Confines memory ctx.length := by
  cases action with
  | kexRepRecv => exact confines_kexRepRecv hextent
  | sendPubKeyA | pubKeyARecv =>
    exact Confines.bind ((confines_bytes memory ctx.length).mpr hextent) fun _ ↦ confines_done
  | sendEchoKexReport => exact confines_sendEchoKexReport hextent
  | sendNetKeyReport | remoteError =>
    exact Confines.bind (confines_at hextent (by decide)) fun _ ↦ confines_done
  | inclusionComplete | sendFinalTransferEnd => exact confines_transferEnd hextent
  | checkNoKeys => exact Confines.ite confines_done (confines_transferEnd hextent)
  | sendPubKeyB => exact confines_sendPubKeyB hextent
  | sendNetKeyVerify => exact confines_sendNetKeyVerify hextent
  | _ => exact confines_done

/-- The search for the next key reads the echo of the `KEX_REPORT` frame, or the flags of the end of
a transfer. -/
theorem confines_sendNetKeyGet (hstate : ctx.state = .awaitingNetKeyReport)
    (hlength : 3 ≤ ctx.length)
    (hreport : memory 1 = kexReport → 6 ≤ ctx.length) :
      (sendNetKeyGetReads ctx).Confines memory ctx.length := by
  refine (confines_bind memory ctx.length _ _).mpr ⟨confines_at hlength (by decide), ?_⟩
  rw [value_byte]
  refine Confines.bind ?_ fun same ↦ Confines.ite (Confines.bind ?_ fun flags ↦ ?_) confines_done
  · unfold echoKexReportReads
    split_ifs with hcommand
    · refine confines_sameBytes ?_
      have hsix := hreport hcommand
      simp only [mem_cons, not_mem_nil, or_false, forall_eq_or_imp, forall_eq]
      omega
    · exact confines_pure memory ctx.length true
  · exact Confines.ite (confines_at hlength (by decide)) (confines_pure memory ctx.length _)
  · have hnone : (move ctx.state .noKeysGranted).1 = .sendFinalTransferEnd := by
      rw [hstate]
      decide
    rw [hnone]
    exact Confines.ite (confines_transferEnd hlength) confines_done

end Confines

/-! ### Frames -/

section Frames

variable {env : Env} {ctx : Context} {frame : Forwarded}

/-- The event of a command, by the flag in the third byte and the events of the commands that the
keys decide about. -/
def eventWith (command : UInt8) (flag : Bool) (verify transfer : Event) : Event :=
  if command = kexGet then .kexGetRecv
  else if command = kexReport then if flag then .echoKexReportRecv else .kexReportRecv
  else if command = kexSet then if flag then .echoKexSetRecv else .kexSetRecv
  else if command = kexFail then .inclusionErrorRecv
  else if command = publicKeyReport then if flag then .pubKeyRecvA else .pubKeyRecvB
  else if command = networkKeyGet then .netKeyGetRecv
  else if command = networkKeyReport then .netKeyReportRecv
  else if command = networkKeyVerify then verify
  else if command = transferEnd then transfer
  else .unnamed

theorem frameEvent_eq (ctx : Context) :
    ∃ flag, ∃ verify ∈ [Event.netKeyVerifyFinalRecv, .netKeyVerifyRecv],
      ∃ transfer ∈ [Event.transferEndRecv, .sendFinalTransferEnd],
        frameEvent ctx = eventWith (ctx.buf 1) flag verify transfer := by
  have heither : ∀ (condition : Prop) [Decidable condition] (first second : Event),
      (if condition then first else second) ∈ [first, second] := by
    intro condition _ first second
    split_ifs
    · exact mem_cons_self
    · exact mem_cons_of_mem _ mem_cons_self
  exact ⟨ctx.buf 2 &&& 1 != 0, _, heither (ctx.keyExchange = ctx.keyGranted) _ _, _,
    heither ((0 - ctx.keyExchange) &&& ctx.keyGranted ≠ 0) _ _, rfl⟩

/-- The rule for a command asks for the bytes that its events need. -/
theorem minLength_frameEvent (env : Env) (hcommand : ctx.buf 1 ∈ inclusionCommands) :
    (frameEvent ctx).minLength =
      (frameRules.getD (ruleIndex (ctx.buf 1)) env.rulesBeyond).length.toNat := by
  have hall : ∀ command ∈ inclusionCommands, ∀ flag : Bool,
      ∀ verify ∈ [Event.netKeyVerifyFinalRecv, .netKeyVerifyRecv],
      ∀ transfer ∈ [Event.transferEndRecv, .sendFinalTransferEnd],
        (frameRules[ruleIndex command]?).any fun rule ↦
        decide ((eventWith command flag verify transfer).minLength = rule.length.toNat) := by
    decide +kernel
  obtain ⟨flag, verify, hverify, transfer, htransfer, hevent⟩ := frameEvent_eq ctx
  obtain ⟨rule, hrule, hlength⟩ :=
    (Option.any_eq_true _ _).mp (hall _ hcommand flag verify hverify transfer htransfer)
  rw [hevent, getD_eq_getElem?_getD, hrule]
  exact of_decide_eq_true hlength

/-- An event of a frame and the action that it triggers read nothing behind the frame. -/
theorem confines_processEvent {event : Event} (hreceived : event.isReceived = true)
    (hevent : frameEvent ctx = event) (hlength : event.minLength ≤ ctx.length) :
    (processEventReads event ctx).Confines ctx.buf ctx.length := by
  unfold processEventReads
  have hextent := Nat.le_trans (extent_move ctx.state event hreceived) hlength
  have hget := move_sendNetKeyGet ctx.state event
  generalize (move ctx.state event).2 = state at hget
  generalize (move ctx.state event).1 = action at hextent hget
  cases action with
  | sendNetKeyGet =>
    obtain ⟨rfl, hfrom⟩ := hget rfl
    refine @confines_sendNetKeyGet { ctx with state := .awaitingNetKeyReport } ctx.buf rfl ?_
      fun hreport ↦ ?_
    · rcases hfrom with ⟨-, rfl⟩ | ⟨-, rfl⟩
      · exact Nat.le_trans (by decide : 3 ≤ 6) hlength
      · exact hlength
    · rcases hfrom with ⟨-, rfl⟩ | ⟨-, rfl⟩
      · exact hlength
      · -- The end of a transfer is no report.
        obtain ⟨flag, verify, -, transfer, -, hmade⟩ := frameEvent_eq ctx
        rw [hevent, show ctx.buf 1 = kexReport from hreport] at hmade
        cases flag <;> cases hmade
  | _ => exact @confines_performReads { ctx with state } ctx.buf _ hextent

/-- A rule that looks at the third byte asks for it, and so does the rule for a command that is an
event by a flag. -/
theorem rule_length : ∀ command ∈ inclusionCommands, ∃ rule, frameRules[ruleIndex command]? =
    some rule ∧ (rule.encryptionSupport = echoSupport → 3 ≤ rule.length.toNat) ∧
    (command = kexReport ∨ command = kexSet ∨ command = publicKeyReport →
      3 ≤ rule.length.toNat) := by
  have hall : ∀ command ∈ inclusionCommands, (frameRules[ruleIndex command]?).any fun rule ↦
      decide ((rule.encryptionSupport = echoSupport → 3 ≤ rule.length.toNat) ∧
        (command = kexReport ∨ command = kexSet ∨ command = publicKeyReport →
          3 ≤ rule.length.toNat)) := by
    decide +kernel
  intro command hcommand
  obtain ⟨rule, hrule, hlengths⟩ := (Option.any_eq_true _ _).mp (hall command hcommand)
  exact ⟨rule, hrule, of_decide_eq_true hlengths⟩

theorem confines_flaggedEvent {length : ℕ} (hlength : 3 ≤ length) (set unset : Event) :
    (flaggedEvent length set unset).Confines ctx.buf length :=
  Confines.bind (confines_at hlength (by decide)) fun _ ↦ confines_pure ctx.buf length _

theorem confines_eventOf {command : UInt8}
    (hlength : command = kexReport ∨ command = kexSet ∨ command = publicKeyReport →
      3 ≤ ctx.length) :
    (eventOf command ctx).Confines ctx.buf ctx.length := by
  have hpure : ∀ event : Event, (pure event : Reading Event).Confines ctx.buf ctx.length :=
    fun event ↦ confines_pure ctx.buf ctx.length event
  unfold eventOf
  refine Confines.ite (hpure _)
    (Confines.ite_of (fun hreport ↦ ?_) fun _ ↦ Confines.ite_of (fun hset ↦ ?_) fun _ ↦ ?_)
  · exact confines_flaggedEvent (hlength (.inl hreport)) _ _
  · exact confines_flaggedEvent (hlength (.inr (.inl hset))) _ _
  refine Confines.ite (hpure _) (Confines.ite_of (fun hkey ↦ ?_) fun _ ↦ ?_)
  · exact confines_flaggedEvent (hlength (.inr (.inr hkey))) _ _
  · exact Confines.ite (hpure _)
      (Confines.ite (hpure _) (Confines.ite (hpure _) (Confines.ite (hpure _) (hpure _))))

/-- The check of the rules reads nothing behind the frame. -/
theorem confines_ruleCheck (hlength : 2 ≤ ctx.length)
    (hcommand : ctx.state ≠ .idle → ruleIndex (ctx.buf 1) ≤ frameRules.length →
      ctx.buf 1 ∈ inclusionCommands) :
    (ruleCheck env ctx).Confines ctx.buf ctx.length := by
  unfold ruleCheck
  refine (confines_bind ctx.buf ctx.length _ _).mpr ⟨confines_at hlength (by decide), ?_⟩
  rw [value_byte]
  dsimp only
  split_ifs with hignored hshort
  · exact confines_pure ctx.buf ctx.length _
  · exact confines_pure ctx.buf ctx.length _
  obtain ⟨hindex, hstate⟩ := not_or.mp hignored
  obtain ⟨rule, hrule, hecho, hflagged⟩ := rule_length _ (hcommand hstate (Nat.le_of_not_lt hindex))
  rw [getD_eq_getElem?_getD, hrule, Option.getD_some] at hshort ⊢
  have hle := Nat.le_of_not_lt hshort
  refine Confines.bind ?_ fun crypt ↦ Confines.ite (Confines.bind ?_ fun event ↦ ?_) ?_
  · unfold cryptRule
    split_ifs with hsupport
    · exact Confines.bind (confines_at (Nat.le_trans (hecho hsupport) hle) (by decide)) fun _ ↦
        confines_pure ctx.buf ctx.length _
    · exact confines_pure ctx.buf ctx.length _
  · exact confines_eventOf fun hcommand ↦ Nat.le_trans (hflagged hcommand) hle
  · exact confines_pure ctx.buf ctx.length _
  · exact confines_pure ctx.buf ctx.length _

/-- Nothing is read behind a frame that has a command, where the table of the rules is read at its
places. -/
theorem confines_postEvent (hlength : 2 ≤ ctx.length)
    (hcommand : ctx.state ≠ .idle → ruleIndex (ctx.buf 1) ≤ frameRules.length →
      ctx.buf 1 ∈ inclusionCommands) :
    (postEventReads env ctx).Confines ctx.buf ctx.length := by
  unfold postEventReads
  refine (confines_bind ctx.buf ctx.length _ _).mpr ⟨confines_ruleCheck hlength hcommand, ?_⟩
  rw [value_ruleCheck]
  cases houtcome : outcome env ctx with
  | ignored => exact confines_done
  | refused => exact confines_done
  | tooShort =>
    obtain ⟨hextent, hother⟩ := extent_move_inclusionError ctx.state
    dsimp only
    unfold processEventReads
    generalize (move ctx.state .inclusionError).1 = action at hextent hother
    cases action with
    | sendNetKeyGet => exact absurd rfl hother
    | _ => exact @confines_performReads { ctx with state := _ } ctx.buf _ (hextent ▸ Nat.zero_le _)
  | event event =>
    have hall := outcome_event houtcome
    refine confines_processEvent (hall.2 ▸ frameEvent_isReceived ctx) hall.2 ?_
    unfold outcome at houtcome
    dsimp only at houtcome
    split_ifs at houtcome with hignored hshort
    obtain ⟨hindex, hstate⟩ := not_or.mp hignored
    rw [← hall.2, minLength_frameEvent env (hcommand hstate (Nat.le_of_not_lt hindex))]
    exact Nat.le_of_not_lt hshort

/-- The peer while a frame is processed. -/
def peerFor (ctx : Context) (frame : Forwarded) : Connection :=
  { (if ctx.state = .awaitingKexGet then frame.src else ctx.peer) with classId :=
    frame.src.classId }

/-- The context in which a frame is given to the state machine. -/
def accepted (ctx : Context) (frame : Forwarded) : Context :=
  { ctx with
    buf := frame.buf, length := frame.length, peer := peerFor ctx frame
    log := .received frame.src frame.buf frame.length :: ctx.log }

theorem accept_eq (hsingle : frame.src.isMulticast = false) :
    accept frame.src frame.buf frame.length ctx =
      open Classical in if FromPeer ctx frame then some (accepted ctx frame) else none := by
  have hoption : ¬frame.src.rxOptions &&& rxMulticast = rxMulticast := by
    intro hset
    unfold Connection.isMulticast at hsingle
    rw [hset] at hsingle
    cases hsingle
  unfold accept
  rw [if_neg hoption]
  by_cases hwaiting : ctx.state = .awaitingKexGet
  · rw [if_pos (show FromPeer ctx frame from .inl hwaiting)]
    dsimp only
    rw [if_pos hwaiting, if_pos rfl, accepted, peerFor, if_pos hwaiting]
    rfl
  · dsimp only
    rw [if_neg hwaiting]
    by_cases hnode : ctx.peer.rNode = frame.src.rNode
    · rw [if_pos hnode, if_pos (show FromPeer ctx frame from .inr hnode), accepted, peerFor,
        if_neg hwaiting]
      rfl
    · rw [if_neg hnode,
        if_neg (show ¬FromPeer ctx frame from fun hfrom ↦ hfrom.elim hwaiting hnode)]

theorem peerFor_eq : peerFor ctx frame = ctx.peer ↔ SamePeer ctx frame := by
  unfold peerFor SamePeer
  split_ifs with hwaiting
  · exact Iff.rfl
  · constructor
    · intro hsame
      rw [← hsame]
    · intro hsame
      rw [hsame]

/-- A frame that is no command of an inclusion is not processed, where the table is read at its
places. -/
theorem outcome_ignored (hother : ctx.buf 1 ∉ inclusionCommands)
    (hcommand : ctx.state ≠ .idle → ctx.buf 1 ≠ security2CommandsSupportedGet) :
    outcome env ctx = .ignored := by
  unfold outcome
  refine if_pos ?_
  by_cases hidle : ctx.state = .idle
  · exact .inr hidle
  · have hlarge := (ruleIndex_lt (ctx.buf 1)).not.mpr hother
    have hne := (ruleIndex_eq (ctx.buf 1)).not.mpr (hcommand hidle)
    exact .inl (Nat.lt_of_le_of_ne (Nat.le_of_not_lt hlarge) (Ne.symm hne))

/-- A frame from the peer is handled right exactly when it is harmless. -/
theorem handles_iff (env : Env) (hsingle : frame.src.isMulticast = false) :
    Handles env ctx frame ↔ Harmless ctx frame := by
  by_cases hfrom : FromPeer ctx frame
  swap
  · have hnone : accept frame.src frame.buf frame.length ctx = none := by
      rw [accept_eq hsingle, if_neg hfrom]
    refine ⟨fun _ hsame ↦ absurd hsame hfrom, fun _ ↦ ⟨?_, ?_, fun _ ↦ ?_⟩⟩
    · rw [hnone]
      exact fun _ hsome ↦ absurd hsome.symm (Option.some_ne_none _)
    · rw [hnone]
      exact fun _ hsome ↦ absurd hsome.symm (Option.some_ne_none _)
    · rw [postEvent, hnone]
      exact ⟨rfl, .inl rfl⟩
  have haccept : accept frame.src frame.buf frame.length ctx = some (accepted ctx frame) := by
    rw [accept_eq hsingle, if_pos hfrom]
  have hpost : (frame.buf 1 = security2CommandsSupportedGet → ctx.state = .idle) →
    frame.buf 1 ∉ inclusionCommands →
      postEvent env frame.src frame.buf frame.length ctx = accepted ctx frame := by
    intro hget hother
    rw [postEvent, haccept]
    dsimp only
    rw [postEventInternal, @outcome_ignored env (accepted ctx frame) hother fun hstate hcommand ↦
      hstate (hget hcommand)]
  constructor
  · rintro ⟨htable, hconfined, hundisturbed⟩ -
    have hget : frame.buf 1 = security2CommandsSupportedGet → ctx.state = .idle := by
      intro hcommand
      by_contra hstate
      have hindex := (ruleIndex_eq _).mpr hcommand
      have hplace : rulePlace (accepted ctx frame) = some (ruleIndex (frame.buf 1)) :=
        if_neg (not_or.mpr ⟨Nat.not_lt.mpr (Nat.le_of_eq hindex), hstate⟩)
      exact absurd (htable _ haccept _ hplace) (Nat.not_lt.mpr (Nat.le_of_eq hindex.symm))
    refine ⟨?_, hget, fun hother ↦ ?_⟩
    · -- The command is read before anything else.
      have hreads := hconfined _ haccept
      unfold postEventReads ruleCheck at hreads
      rw [confines_bind, confines_bind] at hreads
      exact (confines_byte frame.buf frame.length).mp hreads.1.1
    · obtain ⟨hsame, -⟩ := hundisturbed hother
      rw [hpost hget hother] at hsame
      exact peerFor_eq.mp (congrArg Context.peer hsame)
  · intro hharmless
    obtain ⟨hlength, hget, hother⟩ := hharmless hfrom
    have hcommand : ctx.state ≠ .idle → ruleIndex (frame.buf 1) ≤ frameRules.length →
        ruleIndex (frame.buf 1) < frameRules.length := fun hstate hle ↦
      Nat.lt_of_le_of_ne hle fun hindex ↦ hstate (hget ((ruleIndex_eq _).mp hindex))
    refine ⟨fun found hfound index hindex ↦ ?_, fun found hfound ↦ ?_, fun hcommandOther ↦ ?_⟩
    · obtain rfl : accepted ctx frame = found := Option.some.inj (haccept.symm.trans hfound)
      unfold rulePlace at hindex
      dsimp only at hindex
      split_ifs at hindex with hnone
      · cases hindex
      · obtain ⟨hle, hstate⟩ := not_or.mp hnone
        exact Option.some.inj hindex ▸ hcommand hstate (Nat.le_of_not_lt hle)
    · obtain rfl : accepted ctx frame = found := Option.some.inj (haccept.symm.trans hfound)
      exact @confines_postEvent env (accepted ctx frame) hlength fun hstate hle ↦
        (ruleIndex_lt _).mp (hcommand hstate hle)
    · rw [hpost hget hcommandOther]
      refine ⟨?_, .inr rfl⟩
      rw [accepted, peerFor_eq.mpr (hother hcommandOther)]

/-- Frames to several nodes are not forwarded. -/
theorem forwarded_single {idle : Bool} {arrival : Arrival}
    (hforwarded : frame ∈ arrival.forwarded idle) : frame.src.isMulticast = false := by
  cases arrival with
  | clear src buf length =>
    unfold Arrival.forwarded at hforwarded
    dsimp only at hforwarded
    split_ifs at hforwarded with _ _ _ hmulticast
    · cases hforwarded
    · cases hforwarded
    · cases hforwarded
    · cases hforwarded
    · obtain rfl := Option.some.inj hforwarded
      exact Bool.eq_false_iff.mpr hmulticast
  | decrypted src plainText length =>
    unfold Arrival.forwarded at hforwarded
    dsimp only at hforwarded
    split_ifs at hforwarded with _ _ hmulticast
    · cases hforwarded
    · cases hforwarded
    · cases hforwarded
    · obtain rfl := Option.some.inj hforwarded
      exact Bool.eq_false_iff.mpr hmulticast
    · cases hforwarded

end Frames

/-- Of a frame that is forwarded, the table of the rules is only read at its places, nothing is read
behind the frame, and a frame that is no command of an inclusion changes nothing, exactly when the
frame is harmless. -/
theorem forwarded_handled_iff (env : Env) (ctx : Context) (idle : Bool) (arrival : Arrival) :
    (∀ frame ∈ arrival.forwarded idle, Handles env ctx frame) ↔
      ∀ frame ∈ arrival.forwarded idle, Harmless ctx frame :=
  forall_congr' fun _ ↦ forall_congr' fun hforwarded ↦ handles_iff env (forwarded_single hforwarded)

/-- Node 5 is included. It asks in the clear for the supported commands, and the rule behind the
table is read. -/
theorem forwarded_handled_fail :
    ¬ ∀ (env : Env) (ctx : Context) (idle : Bool) (arrival : Arrival),
      ∀ frame ∈ arrival.forwarded idle, Handles env ctx frame := by
  intro hall
  let buf : ℕ → UInt8 := fun i ↦ [commandClassSecurity2, security2CommandsSupportedGet].getD i 0
  let frame : Forwarded := ⟨⟨1, 5, 0, 0, 0, unencryptedClass⟩, buf, 2⟩
  let ctx : Context :=
    { sampleContext with state := .awaitingKexReport, peer := ⟨1, 5, 0, 0, 0, unencryptedClass⟩ }
  have hforwarded : (Arrival.clear frame.src buf 2).forwarded true = some frame := by
    unfold Arrival.forwarded
    dsimp only
    rw [if_neg (by decide), if_neg (by decide), if_neg (by decide), if_neg (by decide)]
  have hhandles := hall sampleEnv ctx true _ frame hforwarded
  have hsingle : frame.src.isMulticast = false := by decide
  obtain ⟨-, hidle, -⟩ := (handles_iff sampleEnv hsingle).mp hhandles (.inr rfl)
  cases hidle rfl

end ZipGateway.Inclusion
