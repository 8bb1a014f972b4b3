import ZipGateway.Inclusion.Progress

/-!
# The keys that a joining node asks for

A joining node asks for the keys that it was granted one after the other. `key_exchange` is the bit
of the key that it asks for, and it is shifted behind this bit when the key has come; at the end it
may be shifted out of the byte. `Walk` is a run of the machine with the keys that were granted in
the last `KEX_SET` frame that was accepted, those that were asked for since then, and those that
have come. They are taken from the frames that are sent.
-/

set_option autoImplicit false

namespace ZipGateway.Inclusion

open Lib List SecurityS2

/-! ### Sets of keys -/

/-- The bits of a byte, in increasing order. -/
def keysInOrder : List UInt8 := [0x01, 0x02, 0x04, 0x08, 0x10, 0x20, 0x40, 0x80]

/-- The bit of a place, and zero behind the last place. -/
def keyBit (i : ℕ) : UInt8 := keysInOrder.getD i 0

/-- The keys of a set below a place, in increasing order. -/
def keysBelow (granted : UInt8) (i : ℕ) :
    List UInt8 := (keysInOrder.take i).filter (· &&& granted != 0)

/-- The keys of a set, in increasing order. -/
def keysOf (granted : UInt8) : List UInt8 := keysInOrder.filter (· &&& granted != 0)

theorem keysOf_nodup (granted : UInt8) : (keysOf granted).Nodup :=
  List.Nodup.filter _ (by decide)

/-- The keys below a place come first. -/
theorem keysOf_eq (granted : UInt8) (i : ℕ) :
    keysOf granted = keysBelow granted i ++ (keysInOrder.drop i).filter (· &&& granted != 0) := by
  rw [keysBelow, ← filter_append, take_append_drop]
  rfl

theorem keysBelow_prefix (granted : UInt8) (i : ℕ) : keysBelow granted i <+: keysOf granted :=
  ⟨_, (keysOf_eq granted i).symm⟩

theorem keyBit_shift : ∀ i < 8, keyBit i <<< 1 = keyBit (i + 1) := by decide

/-- Behind a place there is the key of the place, if it is in the set. -/
theorem keysBelow_succ (granted : UInt8) {i : ℕ} (hi : i < 8) :
    keysBelow granted (i + 1) =
      keysBelow granted i ++ if keyBit i &&& granted = 0 then [] else [keyBit i] := by
  have hlength : i < keysInOrder.length := hi
  have hbit : keysInOrder[i] = keyBit i := by
    rw [keyBit, getD_eq_getElem?_getD, List.getElem?_eq_getElem hlength]
    rfl
  rw [keysBelow, take_succ_eq_append_getElem hlength, filter_append, hbit]
  by_cases hkey : keyBit i &&& granted = 0
  · simp [keysBelow, hkey]
  · simp [keysBelow, hkey]

/-- The loop stops at the first key of the set from a place on. -/
theorem advanceKey_spec {granted next : UInt8} {n i : ℕ} (hi : i ≤ 8)
    (hnext : advanceKey granted n (keyBit i) = some next) :
    ∃ j, j < 8 ∧ next = keyBit j ∧ keyBit j &&& granted ≠ 0 ∧
      keysBelow granted j = keysBelow granted i := by
  induction n generalizing i with
  | zero => cases hnext
  | succ n ih =>
    rw [advanceKey] at hnext
    rcases Nat.lt_or_eq_of_le hi with hlt | rfl
    · by_cases hkey : keyBit i &&& granted = 0
      · rw [if_neg (not_not.mpr hkey), keyBit_shift i hlt] at hnext
        obtain ⟨j, hj, hbit, hmem, hbelow⟩ := ih hlt hnext
        refine ⟨j, hj, hbit, hmem, ?_⟩
        rw [hbelow, keysBelow_succ granted hlt, if_pos hkey, append_nil]
      · rw [if_pos hkey] at hnext
        exact ⟨i, hlt, (Option.some.inj hnext).symm, hkey, rfl⟩
    · -- Behind the last place the loop does not end.
      have hzero : keyBit 8 = 0 := rfl
      have hshift : keyBit 8 <<< 1 = keyBit 8 := rfl
      rw [hzero, if_neg (by simp), ← hzero, hshift] at hnext
      exact ih (Nat.le_refl 8) hnext

/-- The bits of the negation are those from the place on. -/
theorem neg_keyBit {i : ℕ} (hi : i ≤ 8) (granted : UInt8) :
    (0 - keyBit i) &&& granted ≠ 0 ↔ ∃ key ∈ keysInOrder.drop i, key &&& granted ≠ 0 := by
  have hall : ∀ i < 9, ∀ granted : BitVec 8, (0 - keyBit i) &&& UInt8.ofBitVec granted ≠ 0 ↔
      ∃ key ∈ keysInOrder.drop i, key &&& UInt8.ofBitVec granted ≠ 0 := by
    decide +kernel
  exact hall i (Nat.lt_succ_of_le hi) granted.toBitVec

/-- A key of the set has a bit of the negation exactly when not all keys are below the place. -/
theorem neg_keyBit_iff {i : ℕ} (hi : i ≤ 8) (granted : UInt8) :
    (0 - keyBit i) &&& granted ≠ 0 ↔ ∃ key ∈ keysOf granted, key ∉ keysBelow granted i := by
  have hnodup := keysOf_nodup granted
  rw [keysOf_eq granted i] at hnodup ⊢
  rw [neg_keyBit hi]
  constructor
  · rintro ⟨key, hkey, hgranted⟩
    have hmem : key ∈ (keysInOrder.drop i).filter (· &&& granted != 0) :=
      mem_filter.mpr ⟨hkey, bne_iff_ne.mpr hgranted⟩
    exact ⟨key, mem_append_right _ hmem, fun hbelow ↦
      (disjoint_of_nodup_append hnodup) hbelow hmem⟩
  · rintro ⟨key, hkey, hbelow⟩
    obtain ⟨hdrop, hgranted⟩ := mem_filter.mp ((mem_append.mp hkey).resolve_left hbelow)
    exact ⟨key, hdrop, bne_iff_ne.mp hgranted⟩

/-- All keys are below the place when the negation has no bit of the set. -/
theorem keysBelow_eq {i : ℕ} (hi : i ≤ 8) {granted : UInt8}
    (hnone : (0 - keyBit i) &&& granted = 0) : keysBelow granted i = keysOf granted := by
  have hrest : (keysInOrder.drop i).filter (· &&& granted != 0) = [] := by
    refine filter_eq_nil_iff.mpr fun key hkey hgranted ↦ ?_
    exact (neg_keyBit hi granted).mpr ⟨key, hkey, bne_iff_ne.mp hgranted⟩ hnone
  rw [keysOf_eq granted i, hrest, append_nil]

/-! ### The walk -/

/-- What a frame that is sent says about the keys. -/
inductive Mark
  /-- A `KEX_SET` frame was accepted: the public key of the joining node is sent. -/
  | accepted
  /-- A key is asked for. -/
  | requested (key : UInt8)
  /-- A key has come: it is verified. -/
  | verified
  /-- All keys have come: the last end of a transfer is sent. -/
  | completed
deriving DecidableEq, Repr

/-- What a frame says that is sent for the first time. -/
def Act.mark : Act → Option Mark
  | .sentFrame _ frame false =>
    if frame.getD 1 0 = publicKeyReport ∧ frame.getD 2 0 = joiningNode then some .accepted else none
  | .sentData _ frame false =>
    if frame.getD 1 0 = networkKeyGet then some (.requested (frame.getD 2 0))
    else if frame.getD 1 0 = networkKeyVerify then some .verified
    else if frame.getD 1 0 = transferEnd ∧ frame.getD 2 0 = keyReqComplete then some .completed
    else none
  | _ => none

/-- The keys since the last `KEX_SET` frame that was accepted. -/
structure Keys where
  /-- The keys that were granted. -/
  granted : UInt8
  /-- The keys that were asked for, in this order. -/
  requested : List UInt8
  /-- The keys that have come, in this order. -/
  exchanged : List UInt8
  /-- The last end of a transfer was sent. -/
  completed : Bool

/-- What is observed of a run, and the keys. -/
structure Walk where
  observed : Observed
  keys : Keys

/-- The keys after a frame was sent, when the frame in the memory was received last. -/
def Mark.record (buf : ℕ → UInt8) (mark : Mark) (keys : Keys) : Keys :=
  match mark with
  | .accepted => { granted := buf 5, requested := [], exchanged := [], completed := false }
  | .requested key => { keys with requested := keys.requested ++ [key] }
  | .verified => { keys with exchanged := keys.exchanged ++ [buf 2] }
  | .completed => { keys with completed := true }

/-- What the frames say that were sent between two contexts, the last one first. -/
def marksOf (before after : Context) : List Mark := (newActs before after).filterMap Act.mark

/-- One step, with the keys. -/
def walkStep (env : Env) (walk : Walk) (input : Input) : Walk :=
  let observed := observe env walk.observed input
  { observed
    keys := (marksOf walk.observed.ctx observed.ctx).foldr
      (Mark.record observed.ctx.buf) walk.keys }

/-- No frame was received yet. -/
def startWalk (ctx : Context) : Walk where
  observed := initialized ctx
  keys := { granted := 0, requested := [], exchanged := [], completed := false }

/-- The inputs of a node that joins. It includes no node, and decides about no keys. -/
def Input.joins : Input → Bool
  | .includingStart _ | .keyGrant _ _ _ => false
  | _ => true

/-- The states of a joining node after it has accepted a `KEX_SET` frame. -/
def IncState.walks : IncState → Bool
  | .awaitingPubKeyA | .awaitingUserAAccept | .echoKexSetSending | .awaitingNetKeyReport
  | .keyExchanged | .sendingFinalTransferEnd => true
  | _ => false

/-- The end of a transfer is taken for a request to go on exactly when a granted key has not come
yet. -/
def Walk.Classifies (walk : Walk) : Prop :=
  ∀ buf : ℕ → UInt8, buf 1 = transferEnd →
    (frameEvent { walk.observed.ctx with buf } = .transferEndRecv ↔
      ∃ key ∈ keysOf walk.keys.granted, key ∉ walk.keys.exchanged)

/-- The loop has ended, the keys that were asked for are the first ones of those that were granted,
all of them when the exchange is complete, and the end of a transfer is understood. -/
structure Walk.Orderly (walk : Walk) : Prop where
  ends : walk.observed.ctx.hung = false
  inOrder : walk.keys.requested <+: keysOf walk.keys.granted
  complete : walk.keys.completed = true →
    walk.keys.requested = keysOf walk.keys.granted ∧ walk.keys.exchanged = keysOf walk.keys.granted
  classifies : walk.observed.ctx.stack = [] → walk.observed.ctx.state.walks = true → walk.Classifies

/-! ### What an action says about the keys -/

/-- The new acts of the log say this about the keys. -/
def Marked (marks : List Mark) (before after : Context) : Prop :=
  ∃ acts, after.log = acts ++ before.log ∧ acts.filterMap Act.mark = marks

section Marked

variable {marks : List Mark} {before middle after : Context}

/-- Acts that say nothing come first. -/
theorem Marked.behind (acts : List Act) (hafter : Marked marks middle after)
    (hlog : middle.log = acts ++ before.log) (hacts : acts.filterMap Act.mark = []) :
    Marked marks before after := by
  obtain ⟨later, hlater, hmarks⟩ := hafter
  refine ⟨later ++ acts, ?_, ?_⟩
  · rw [hlater, hlog, append_assoc]
  · rw [filterMap_append, hacts, hmarks, append_nil]

theorem Marked.quiet (hquiet : Quiet before middle) (hafter : Marked marks middle after) :
    Marked marks before after := by
  obtain ⟨acts, loadedKeys, publicKey, hacts, rfl⟩ := hquiet
  refine hafter.behind acts rfl (filterMap_eq_nil_iff.mpr fun act hact ↦ ?_)
  cases act <;> first | rfl | cases hacts _ hact

theorem marksOf_of_marked (hmarked : Marked marks middle after) (hlog : middle.log = before.log) :
    marksOf before after = marks := by
  obtain ⟨acts, hacts, hmarks⟩ := hmarked
  rw [marksOf, newActs, hacts, hlog]
  simpa using hmarks

end Marked

/-- The action is none of those that concern the keys. -/
def Action.leavesKeys (action : Action) : Prop :=
  action ≠ .sendPubKeyB ∧ action ≠ .sendNetKeyGet ∧ action ≠ .sendNetKeyVerify ∧
    action ≠ .sendFinalTransferEnd

instance (action : Action) : Decidable action.leavesKeys := inferInstanceAs (Decidable (_ ∧ _))

/-- What an action of a joining node does with the keys. -/
inductive Moves (before after : Context) : Action → Prop
  | keeps {action : Action} (hother : action.leavesKeys)
      (hmarks : Marked [] before after) (hgranted : after.keyGranted = before.keyGranted)
      (hexchange : after.keyExchange = before.keyExchange) : Moves before after action
  | refuses {action : Action} (hmarks : Marked [] before after)
      (hposts : after.stack.head?.any Frame.posts = true) : Moves before after action
  | accepts (hmarks : Marked [.accepted] before after) (hgranted : after.keyGranted = after.buf 5)
      (hexchange : after.keyExchange = 1) : Moves before after .sendPubKeyB
  | requests (key : UInt8) (hmarks : Marked [.requested key] before after)
      (hnext : advanceKey before.keyGranted 9 before.keyExchange = some key)
      (hstate : after.state = before.state)
      (hgranted : after.keyGranted = before.keyGranted) (hexchange : after.keyExchange = key) :
      Moves before after .sendNetKeyGet
  | hangs (hhung : after.hung = true) : Moves before after .sendNetKeyGet
  | grantless (hmarks : Marked [.completed] before after) (hnone : before.keyGranted = 0)
      (hstate : after.state = .sendingFinalTransferEnd)
      (hgranted : after.keyGranted = before.keyGranted)
      (hexchange : after.keyExchange = before.keyExchange) : Moves before after .sendNetKeyGet
  | verifies (hmarks : Marked [.verified] before after) (hkey : after.buf 2 = before.keyExchange)
      (hgranted : after.keyGranted = before.keyGranted)
        (hexchange : after.keyExchange = before.keyExchange <<< 1) :
      Moves before after .sendNetKeyVerify
  | completes (hmarks : Marked [.completed] before after)
      (hgranted : after.keyGranted = before.keyGranted)
        (hexchange : after.keyExchange = before.keyExchange) :
      Moves before after .sendFinalTransferEnd

def Action.joins : Action → Bool
  | .noAction | .abort | .resendFrame | .resendData | .joiningStart | .timeoutTb1Set
  | .sendKexReport | .sendPubKeyB | .pubKeyARecv | .doEcdhCalcB | .sendEchoKexSet | .sendNetKeyGet
  | .sendNetKeyVerify | .sendFinalTransferEnd | .joiningComplete | .remoteError
  | .joiningNeverStarted => true
  | _ => false

section Actions

variable (ctx : Context)

theorem marked_sendNewFrame (bytes : List UInt8) (rest : Rest) :
    Marked (Act.mark (.sentFrame ctx.peer bytes false)).toList ctx
      (sendNewFrame bytes rest ctx) := by
  refine ⟨[.sentFrame ctx.peer bytes false], sendNewFrame_log, ?_⟩
  rw [filterMap_cons]
  cases Act.mark (.sentFrame ctx.peer bytes false) <;> rfl

theorem marked_sendNewData (bytes : List UInt8) (classId txOptions : UInt8) (rest : Rest) :
    Marked (Act.mark (.sentData { ctx.peer with classId, txOptions } bytes false)).toList ctx
      (sendNewData bytes classId txOptions rest ctx) := by
  refine ⟨[.sentData { ctx.peer with classId, txOptions } bytes false], sendNewData_log, ?_⟩
  rw [filterMap_cons]
  cases Act.mark (.sentData { ctx.peer with classId, txOptions } bytes false) <;> rfl

theorem marked_inclusionFailedFrameSend (error : UInt8) (rest : Rest) :
    Marked [] ctx (inclusionFailedFrameSend error rest ctx) :=
  marked_sendNewFrame { ctx with kexFailCode := error } [commandClassSecurity2, kexFail, error] rest

theorem marked_refuse (error : UInt8) : Marked [] ctx (refuse error ctx) :=
  marked_inclusionFailedFrameSend ctx error _

theorem marked_callHandler (push : Push) (rest : Rest) :
    Marked [] ctx (callHandler push rest ctx) :=
  ⟨[.pushed push], rfl, rfl⟩

theorem marked_inclusionFailedEvtPush (failType : UInt8) :
    Marked [] ctx (inclusionFailedEvtPush failType ctx) := by
  obtain ⟨quiet, hquiet, hpush⟩ := inclusionFailedEvtPush_eq failType ctx
  rw [hpush]
  exact Marked.quiet hquiet (marked_callHandler quiet _ _)

/-- A refusal after acts that say nothing. -/
theorem moves_refuse {action : Action} {before middle : Context} (error : UInt8)
    (hlog : middle.log = .stopTimeout :: before.log) :
    Moves before (refuse error middle) action :=
  .refuses ((marked_refuse middle error).behind [.stopTimeout] hlog rfl) rfl

/-- The public key of the joining node is sent, with the keys set. -/
theorem moves_accept {before middle : Context} (key : List UInt8) (rest : Rest)
    (hlog : middle.log = .stopTimeout :: before.log) (hgranted : middle.keyGranted = middle.buf 5)
    (hexchange : middle.keyExchange = 1) :
    Moves before
      (sendNewFrame ([commandClassSecurity2, publicKeyReport, joiningNode] ++ key) rest middle)
      .sendPubKeyB := by
  have hsent :=
    marked_sendNewFrame middle ([commandClassSecurity2, publicKeyReport, joiningNode] ++ key) rest
  have haccepted : Act.mark (.sentFrame middle.peer
      ([commandClassSecurity2, publicKeyReport, joiningNode] ++ key) false) = some .accepted := rfl
  rw [haccepted] at hsent
  exact .accepts (hsent.behind [.stopTimeout] hlog rfl) hgranted hexchange

theorem moves_sendPubKeyB (env : Env) : Moves ctx (sendPubKeyB env ctx) .sendPubKeyB := by
  unfold sendPubKeyB
  extract_lets stopped scheme curve granted selected key hides
  have hlog : selected.log = .stopTimeout :: ctx.log := rfl
  split_ifs
  · exact moves_refuse _ rfl
  · exact moves_accept _ _ hlog rfl rfl
  · exact moves_accept _ _ hlog rfl rfl
  · exact moves_refuse _ rfl
  · exact moves_refuse _ rfl
  · exact moves_refuse _ rfl

theorem moves_sendFinalTransferEnd :
    Moves ctx (sendFinalTransferEnd ctx) .sendFinalTransferEnd := by
  unfold sendFinalTransferEnd
  extract_lets stopped
  split_ifs
  · exact .refuses ((marked_inclusionFailedFrameSend stopped _ _).behind [.stopTimeout] rfl rfl) rfl
  · exact .completes ((marked_sendNewData stopped _ _ _ _).behind [.stopTimeout] rfl rfl) rfl rfl

theorem moves_sendNetKeyVerify : Moves ctx (sendNetKeyVerify ctx) .sendNetKeyVerify := by
  unfold sendNetKeyVerify
  extract_lets stopped receivedKey stored loaded
  split_ifs with hkey
  · have hquiet : Quiet stored loaded := quiet_networkKeyUpdate _ _ _ _
    have hsent := marked_sendNewData loaded
      [commandClassSecurity2, networkKeyVerify] networkKeySecure 0 (.setTimeout seconds10)
    obtain ⟨hbuf, hgranted, hexchange⟩ : loaded.buf = ctx.buf ∧ loaded.keyGranted = ctx.keyGranted ∧
        loaded.keyExchange = ctx.keyExchange <<< 1 := by
      obtain ⟨acts, loadedKeys, publicKey, -, heq⟩ := hquiet
      rw [heq]
      exact ⟨rfl, rfl, rfl⟩
    refine .verifies ((Marked.quiet hquiet hsent).behind [.stopTimeout] rfl rfl) ?_
      hgranted hexchange
    exact (congrFun hbuf 2).trans hkey
  · exact moves_refuse _ rfl

/-- The last end of a transfer is sent because no key was granted. -/
theorem moves_grantless {before middle : Context} (bytes : List UInt8) (classId txOptions : UInt8)
    (rest : Rest)
    (hmark : Act.mark (.sentData { middle.peer with classId, txOptions } bytes false) =
      some .completed)
    (hlog : middle.log = .stopTimeout :: .stopTimeout :: before.log) (hnone : before.keyGranted = 0)
    (hstate : middle.state = .sendingFinalTransferEnd)
    (hgranted : middle.keyGranted = before.keyGranted)
    (hexchange : middle.keyExchange = before.keyExchange) :
    Moves before (sendNewData bytes classId txOptions rest middle) .sendNetKeyGet := by
  have hsent := marked_sendNewData middle bytes classId txOptions rest
  rw [hmark] at hsent
  exact .grantless (hsent.behind [.stopTimeout, .stopTimeout] hlog rfl) hnone hstate
    hgranted hexchange

/-- A refusal after two timers were stopped. -/
theorem moves_refuse_twice {action : Action} {before middle : Context} (error : UInt8) (rest : Rest)
    (hlog : middle.log = .stopTimeout :: .stopTimeout :: before.log)
    (hposts : (Frame.sendFrame rest).posts = true) :
    Moves before (inclusionFailedFrameSend error rest middle) action :=
  .refuses ((marked_inclusionFailedFrameSend middle error rest).behind
    [.stopTimeout, .stopTimeout] hlog rfl) hposts

theorem moves_sendNetKeyGet (env : Env) (hstate : ctx.state = .awaitingNetKeyReport) :
    Moves ctx (performAction env .sendNetKeyGet ctx) .sendNetKeyGet := by
  have hstopped : (ctx.note .stopTimeout).state = .awaitingNetKeyReport := hstate
  unfold performAction sendNetKeyGet
  dsimp only
  split
  · exact moves_refuse _ rfl
  split
  · exact .refuses ((marked_inclusionFailedFrameSend _ _ _).behind [.stopTimeout] rfl rfl) rfl
  split
  · rename_i hnone
    rw [dispatch_noKeysGranted _ env hstopped]
    unfold sendFinalTransferEnd
    extract_lets stopped
    split_ifs
    · exact moves_refuse_twice _ _ rfl rfl
    · exact moves_grantless _ _ _ _ rfl rfl hnone rfl rfl rfl
  split
  · exact .hangs rfl
  · rename_i key hkey
    refine .requests key ?_ hkey rfl rfl rfl
    have hsent := marked_sendNewData { ctx.note .stopTimeout with keyExchange := key }
      [commandClassSecurity2, networkKeyGet, key] tempKeySecure txVerifyDelivery
        (.setTimeout seconds10)
    exact hsent.behind [.stopTimeout] rfl rfl

/-- The event handler is called after keys and timers were changed. -/
theorem moves_told {action : Action} (hother : action.leavesKeys) {middle : Context} (push : Push)
    (rest : Rest)
    (hquiet : Quiet ctx middle) : Moves ctx (callHandler push rest middle) action := by
  have hmarks := Marked.quiet hquiet (marked_callHandler middle push rest)
  obtain ⟨acts, loadedKeys, publicKey, -, rfl⟩ := hquiet
  exact .keeps hother hmarks rfl rfl

theorem moves_inclusionFailedEvtPush {action : Action} (failType : UInt8)
    (hother : action.leavesKeys) : Moves ctx (inclusionFailedEvtPush failType ctx) action := by
  obtain ⟨quiet, hquiet, hpush⟩ := inclusionFailedEvtPush_eq failType ctx
  rw [hpush]
  exact moves_told ctx hother _ _ hquiet

theorem moves_joiningComplete {action : Action} (push : Connection → UInt8 → Push)
    (hother : action.leavesKeys) : Moves ctx (joiningComplete push ctx) action :=
  moves_told ctx hother _ _ (quiet_restoreKeys ctx)

/-- The echo of a `KEX_SET` frame says nothing about the keys. -/
theorem marked_sendEchoKexSet (again : Bool) : Marked [] ctx (sendEchoKexSet again ctx) := by
  refine ⟨_ :: [.stopTimeout], sendEchoKexSet_log again ctx, ?_⟩
  cases again <;> rfl

theorem callSendData_keys (again : Bool) (frame : Frame) :
    (callSendData again frame ctx).keyGranted = ctx.keyGranted ∧
      (callSendData again frame ctx).keyExchange = ctx.keyExchange :=
  ⟨rfl, rfl⟩

theorem sendEchoKexSet_keys (again : Bool) :
    (sendEchoKexSet again ctx).keyGranted = ctx.keyGranted ∧
      (sendEchoKexSet again ctx).keyExchange = ctx.keyExchange := by
  unfold sendEchoKexSet
  extract_lets stopped built
  exact callSendData_keys
    { built with peer.classId := tempKeySecure, peer.txOptions := txVerifyDelivery } again .sendEcho

theorem moves_sendEchoKexSet : Moves ctx (sendEchoKexSet true ctx) .sendEchoKexSet := by
  obtain ⟨hgranted, hexchange⟩ := sendEchoKexSet_keys ctx true
  exact .keeps (by decide) (marked_sendEchoKexSet ctx true) hgranted hexchange

theorem moves_echo {action : Action} (hother : action.leavesKeys) {middle : Context} (again : Bool)
    (retryCounter : UInt8) (hquiet : Quiet ctx middle) :
    Moves ctx (sendEchoKexSet again { middle with retryCounter }) action := by
  have hmarks := marked_sendEchoKexSet { middle with retryCounter } again
  have hbehind : Marked [] middle (sendEchoKexSet again { middle with retryCounter }) :=
    hmarks.behind [] rfl rfl
  have hall := Marked.quiet hquiet hbehind
  obtain ⟨hgranted, hexchange⟩ := sendEchoKexSet_keys { middle with retryCounter } again
  obtain ⟨acts, loadedKeys, publicKey, -, rfl⟩ := hquiet
  exact .keeps hother hall hgranted hexchange

theorem moves_doEcdhCalcB (env : Env) : Moves ctx (doEcdhCalcB env ctx) .doEcdhCalcB := by
  let derived : Context := { ctx with publicKey := overwrite (env.tempKey ctx) ctx.publicKey }
  have hquiet :
      Quiet ctx (networkKeyUpdate tempKeySecure (derived.publicKey.take 16) true derived) :=
    (quiet_publicKey ctx _).trans (quiet_networkKeyUpdate derived _ _ _)
  exact moves_echo ctx (by decide) false 24 hquiet

/-- The event handler is called after acts that say nothing. -/
theorem moves_pushed {action : Action} (hother : action.leavesKeys) {before middle : Context}
    (push : Push)
    (rest : Rest) (acts : List Act) (hlog : middle.log = acts ++ before.log)
    (hacts : acts.filterMap Act.mark = [])
    (hgranted : middle.keyGranted = before.keyGranted)
    (hexchange : middle.keyExchange = before.keyExchange) :
    Moves before (callHandler push rest middle) action :=
  .keeps hother ((marked_callHandler middle push rest).behind acts hlog hacts) hgranted hexchange

theorem moves_sendKexReport : Moves ctx (sendKexReport ctx) .sendKexReport := by
  unfold sendKexReport
  extract_lets stopped
  exact moves_pushed (by decide) _ _ [.stopTimeout] rfl rfl rfl rfl

theorem moves_pubKeyARecv : Moves ctx (pubKeyARecv ctx) .pubKeyARecv := by
  unfold pubKeyARecv
  extract_lets started challenged dskLength
  exact moves_pushed (by decide) _ _ [.setTimeout seconds240, .stopTimeout] rfl rfl rfl rfl

/-- What the actions of a joining node do with the keys. -/
theorem moves_performAction (env : Env) {action : Action} (haction : action.joins = true)
    (hstate : action = .sendNetKeyGet → ctx.state = .awaitingNetKeyReport) :
    Moves ctx (performAction env action ctx) action := by
  cases action with
  | noAction => exact .keeps (by decide) ⟨[], rfl, rfl⟩ rfl rfl
  | abort => exact moves_inclusionFailedEvtPush ctx _ (by decide)
  | remoteError => exact moves_inclusionFailedEvtPush ctx _ (by decide)
  | resendFrame => exact .keeps (by decide) ⟨[.sentFrame ctx.peer ctx.frame true], rfl, rfl⟩ rfl rfl
  | resendData => exact .keeps (by decide) ⟨[.sentData ctx.peer ctx.frame true], rfl, rfl⟩ rfl rfl
  | joiningStart => exact .keeps (by decide) ⟨[.setTimeout seconds60], rfl, rfl⟩ rfl rfl
  | timeoutTb1Set =>
    exact .keeps (by decide) ⟨[.setTimeout seconds30, .stopTimeout], rfl, rfl⟩ rfl rfl
  | sendKexReport => exact moves_sendKexReport ctx
  | pubKeyARecv => exact moves_pubKeyARecv ctx
  | doEcdhCalcB => exact moves_doEcdhCalcB ctx env
  | sendEchoKexSet => exact moves_sendEchoKexSet ctx
  | sendPubKeyB => exact moves_sendPubKeyB ctx env
  | sendNetKeyGet => exact moves_sendNetKeyGet ctx env (hstate rfl)
  | sendNetKeyVerify => exact moves_sendNetKeyVerify ctx
  | sendFinalTransferEnd => exact moves_sendFinalTransferEnd ctx
  | joiningComplete => exact moves_joiningComplete ctx _ (by decide)
  | joiningNeverStarted => exact moves_joiningComplete ctx _ (by decide)
  | _ => cases haction

end Actions

end ZipGateway.Inclusion
