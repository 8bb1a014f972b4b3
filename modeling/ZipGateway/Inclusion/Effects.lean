import ZipGateway.Inclusion.Footprint

/-!
# What an action of the inclusion does

The effect of an action on what a run is judged by: the inclusion timer, the events that end an
inclusion, the calls of functions outside, the keys that are loaded, and the counters. `effects`
lists for every action the effects it can have, one for each of its branches, and
`processEvent_produces` says that processing an event has one of the effects of the action that the
table has for it. The effects are finite data. What follows about runs of both roles is read from
the table and from this list, and no proof after this module opens an action again.

`KeysFromStore` is the state of the keys when no inclusion is under way: only slots of the key store
are loaded, and each with the key that the key store has.
-/

set_option autoImplicit false

namespace ZipGateway.Inclusion

open Lib List SecurityS2

/-! ### What is observed of an act -/

/-- Whether the timer is running after the act, if the act is about the timer. -/
def Act.timer : Act → Option Bool
  | .setTimeout _ => some true
  | .stopTimeout => some false
  | _ => none

/-- The event ends an inclusion. -/
def Push.isTerminal : Push → Bool
  | .inclusionComplete _ _ | .joiningComplete _ _ | .joiningNeverStarted _
    _ | .inclusionFailed _ _ =>
    true
  | _ => false

/-- The event handler was called with an event that ends an inclusion. -/
def Act.isTerminal : Act → Bool
  | .pushed push => push.isTerminal
  | _ => false

/-- `S2_network_key_update` was called. -/
def Act.isKeyUpdate : Act → Bool
  | .networkKeyUpdate _ _ _ => true
  | _ => false

/-- The key from which the act derives the keys of a slot, and whether it is taken for a temporary
one. -/
def Act.derives (slot : UInt8) : Act → Option (List UInt8 × Bool)
  | .networkKeyUpdate classId key tempKeyExpand =>
    if classId = slot then some (key, tempKeyExpand) else none
  | _ => none

/-- The key from which the keys in `sg` of a slot were derived last. -/
def derivedFrom (slot : UInt8) (log : List Act) : Option (List UInt8 × Bool) :=
  log.findSome? (Act.derives slot)

theorem derivedFrom_append {slot : UInt8} (acts : List Act) {log : List Act}
    (hacts : ∀ act ∈ acts, act.isKeyUpdate = false) :
    derivedFrom slot (acts ++ log) = derivedFrom slot log := by
  have hnone : acts.findSome? (Act.derives slot) = none := by
    refine List.findSome?_eq_none_iff.mpr fun act hact ↦ ?_
    cases act with
    | networkKeyUpdate classId key temp => exact absurd (hacts _ hact) (by simp [Act.isKeyUpdate])
    | _ => rfl
  rw [derivedFrom, List.findSome?_append, hnone]
  rfl

/-! ### The keys at rest -/

/-- The loaded slots are slots of the key store, and the keys of each are derived from its key. -/
structure KeysFromStore (ctx : Context) : Prop where
  slots : ∀ i, 5 ≤ i → ctx.loadedKeys.getLsbD i = false
  derived : ∀ pair ∈ keySlotPairs, ctx.loadedKeys.getLsbD pair.2.toNat = true →
    ∃ key, ctx.networkKeys pair.1 = some key ∧
      derivedFrom pair.2 ctx.log = some (key.toList, false)

/-- The slots of the key store are the first five. -/
theorem keySlotPairs_slot : ∀ pair ∈ keySlotPairs, pair.2.toNat < 5 := by
  have hall : (keySlotPairs.all fun pair ↦ decide (pair.2.toNat < 5)) = true := by decide
  intro pair hpair
  exact of_decide_eq_true (all_eq_true.mp hall pair hpair)

theorem keySlotPairs_slot_injective : ∀ pair ∈ keySlotPairs, ∀ other ∈ keySlotPairs,
    pair.2 = other.2 → pair = other := by
  have hslots : (keySlotPairs.map Prod.snd).Nodup := by decide
  intro pair hpair other hother hsame
  exact inj_on_of_nodup_map hslots hpair hother hsame

/-- A key of the key store is loaded in its slot. -/
theorem KeysFromStore.networkKeyUpdate {ctx : Context} (hkeys : KeysFromStore ctx)
    {pair : UInt8 × UInt8} (hpair : pair ∈ keySlotPairs) {key : Block}
    (hkey : ctx.networkKeys pair.1 = some key) :
    KeysFromStore (networkKeyUpdate pair.2 key.toList false ctx) := by
  have hslot : pair.2.toNat < 5 := keySlotPairs_slot pair hpair
  have hclass : pair.2.toNat < nSecClass := lt_trans hslot (by decide)
  unfold Inclusion.networkKeyUpdate
  rw [if_pos hclass]
  constructor
  · intro i hi
    have hother : i ≠ pair.2.toNat := by omega
    simp only [BitVec.getLsbD_or, BitVec.getLsbD_twoPow]
    simp [Context.note, hkeys.slots i hi, hother.symm]
  · intro other hother hloaded
    rcases eq_or_ne other.2 pair.2 with hsame | hdiffers
    · obtain rfl := keySlotPairs_slot_injective other hother pair hpair hsame
      exact ⟨key, hkey, by simp [derivedFrom, Context.note, Act.derives]⟩
    · have hbit : pair.2.toNat ≠ other.2.toNat := fun h ↦ hdiffers (UInt8.toNat_inj.mp h.symm)
      have hbefore : ctx.loadedKeys.getLsbD other.2.toNat = true := by
        simpa [BitVec.getLsbD_or, BitVec.getLsbD_twoPow, Context.note, hbit] using hloaded
      obtain ⟨stored, hstored, hderived⟩ := hkeys.derived other hother hbefore
      refine ⟨stored, hstored, ?_⟩
      rw [← hderived]
      simp [derivedFrom, Context.note, Act.derives, hdiffers.symm]

/-- `S2_network_key_update`, as far as it is observed. -/
theorem networkKeyUpdate_eq (classId : UInt8) (key : List UInt8) (tempKeyExpand : Bool)
    (ctx : Context) : ∃ loadedKeys, networkKeyUpdate classId key tempKeyExpand ctx =
      { ctx with loadedKeys, log := .networkKeyUpdate classId key tempKeyExpand :: ctx.log } := by
  unfold networkKeyUpdate
  dsimp only
  split_ifs
  · exact ⟨_, rfl⟩
  · exact ⟨ctx.loadedKeys, rfl⟩

/-- After `s2_restore_keys` the keys are those of the key store. -/
theorem keysFromStore_restoreKeys (ctx : Context) : KeysFromStore (restoreKeys ctx) := by
  have hstart : KeysFromStore { ctx with loadedKeys := 0 } :=
    ⟨fun i _ ↦ by simp, fun _ _ hloaded ↦ by simp at hloaded⟩
  unfold restoreKeys
  refine List.foldlRecOn (motive := KeysFromStore) keySlotPairs _ hstart
    fun loaded hloaded pair hpair ↦ ?_
  cases hkey : loaded.networkKeys pair.1 with
  | none => exact hloaded
  | some key => exact hloaded.networkKeyUpdate hpair hkey

/-- `s2_restore_keys` only logs calls of `S2_network_key_update`. -/
theorem restoreKeys_eq (ctx : Context) :
    ∃ acts loadedKeys, (∀ act ∈ acts, act.isKeyUpdate = true) ∧
      restoreKeys ctx = { ctx with loadedKeys, log := acts ++ ctx.log } := by
  unfold restoreKeys
  refine List.foldlRecOn
    (motive := fun restored : Context ↦ ∃ (acts : List Act) (loadedKeys : BitVec 8),
      (∀ act ∈ acts, act.isKeyUpdate = true) ∧
        restored = { ctx with loadedKeys, log := acts ++ ctx.log })
    keySlotPairs _ ⟨[], 0, by simp, rfl⟩ ?_
  rintro _ ⟨acts, loadedKeys, hacts, rfl⟩ pair -
  cases ctx.networkKeys pair.1 with
  | none => exact ⟨acts, loadedKeys, hacts, rfl⟩
  | some key =>
    have hupdated : ∀ act ∈ Act.networkKeyUpdate pair.2 key.toList false :: acts,
        act.isKeyUpdate = true := forall_mem_cons.mpr ⟨rfl, hacts⟩
    obtain ⟨updated, hupdate⟩ := networkKeyUpdate_eq pair.2 key.toList false
      { ctx with loadedKeys, log := acts ++ ctx.log }
    exact ⟨_, updated, hupdated, hupdate⟩

/-! ### Effects -/

/-- What is done with the keys. -/
inductive KeyChange
  | kept
  | restored
  | changed
deriving DecidableEq

/-- What is done with `m_retry_counter`. -/
inductive RetryChange
  | kept
  | reset
  | changed
deriving DecidableEq

/-- What is done with `key_exchange`. -/
inductive ExchangeChange
  | kept
  | one
  | single
  | changed
deriving DecidableEq

/-- The effect of a branch of an action. -/
structure Effect where
  /-- The state, if a further event changes it. -/
  newState : Option IncState := none
  /-- The last change of the timer. -/
  timer : Option Bool := none
  /-- The end of the inclusion is told to the event handler. -/
  terminal : Bool := false
  /-- The call of a function outside with which the branch ends. -/
  call : Option Frame := none
  keys : KeyChange := .kept
  retry : RetryChange := .kept
  exchange : ExchangeChange := .kept
  /-- The loop that looks for the next key does not end. -/
  hung : Bool := false
deriving DecidableEq

/-- The effect after the timer was started or stopped. -/
def Effect.timed (effect : Effect) (armed : Bool) : Effect :=
  { effect with timer := effect.timer.or (some armed) }

/-- The effect after the timer was stopped. -/
def Effect.stopped (effect : Effect) : Effect :=
  effect.timed false

/-- The effect after the keys were changed. -/
def Effect.rekeyed (effect : Effect) : Effect :=
  { effect with keys := .changed }

/-- The effect after the keys were restored. -/
def Effect.restored (effect : Effect) : Effect :=
  { effect with keys := .restored }

/-- The effect after the counter of the retries was set. -/
def Effect.retried (effect : Effect) : Effect :=
  { effect with retry := .reset }

/-- The effect after the key that is exchanged was changed. -/
def Effect.exchanged (effect : Effect) (change : ExchangeChange) : Effect :=
  { effect with exchange := change }

/-- The effect when a further event has changed the state first. -/
def Effect.entered (effect : Effect) (state : IncState) : Effect :=
  { effect with newState := some state }

/-- No bit but one is set. -/
def singleKey (key : UInt8) : Bool :=
  key &&& (key - 1) == 0

/-- The keys before and after a change. -/
def KeyChange.Relates (change : KeyChange) (before after : Context) : Prop :=
  match change with
  | .kept => after.loadedKeys = before.loadedKeys ∧ after.networkKeys = before.networkKeys ∧
      ∀ slot, derivedFrom slot after.log = derivedFrom slot before.log
  | .restored => KeysFromStore after
  | .changed => True

/-- The counter before and after a change. -/
def RetryChange.Relates (change : RetryChange) (before after : UInt8) : Prop :=
  match change with
  | .kept => after = before
  | .reset => after = maxRetryCount
  | .changed => True

/-- The key before and after a change. -/
def ExchangeChange.Relates (change : ExchangeChange) (before after : UInt8) : Prop :=
  match change with
  | .kept => after = before
  | .one => after = 1
  | .single => singleKey before = true → singleKey after = true
  | .changed => True

/-- The new acts of the log have the effect. -/
def Effect.Logs (effect : Effect) (acts : List Act) : Prop :=
  acts.findSome? Act.timer = effect.timer ∧ acts.countP Act.isTerminal = effect.terminal.toNat

/-- The second context is the first one after the effect, as far as it is observed. -/
structure Produces (effect : Effect) (before after : Context) : Prop where
  state : after.state = effect.newState.getD before.state
  stack : after.stack = effect.call.toList ++ before.stack
  hung : after.hung = (before.hung || effect.hung)
  log : ∃ acts, after.log = acts ++ before.log ∧ effect.Logs acts
  keys : effect.keys.Relates before after
  retry : effect.retry.Relates before.retryCounter after.retryCounter
  exchange : effect.exchange.Relates before.keyExchange after.keyExchange

def Context.observed (ctx : Context) : Context :=
  { sampleContext with
    state := ctx.state
    stack := ctx.stack
    hung := ctx.hung
    log := ctx.log
    loadedKeys := ctx.loadedKeys
    networkKeys := ctx.networkKeys
    retryCounter := ctx.retryCounter
    keyExchange := ctx.keyExchange }

section Produces

variable {effect : Effect} {before middle after : Context}

theorem KeyChange.Relates.rebase {change : KeyChange} (hkeys : change.Relates middle after)
    (hloaded : middle.loadedKeys = before.loadedKeys)
    (hstore : middle.networkKeys = before.networkKeys)
    (hderived : ∀ slot, derivedFrom slot middle.log = derivedFrom slot before.log) :
    change.Relates before after := by
  cases change with
  | kept =>
    obtain ⟨hafterLoaded, hafterStore, hafterDerived⟩ := hkeys
    exact ⟨hafterLoaded.trans hloaded, hafterStore.trans hstore,
      fun slot ↦ (hafterDerived slot).trans (hderived slot)⟩
  | restored => exact hkeys
  | changed => trivial

theorem KeysFromStore.kept (hkeys : KeysFromStore before)
    (hkept : KeyChange.kept.Relates before after) : KeysFromStore after := by
  obtain ⟨hloaded, hstore, hderived⟩ := hkept
  obtain ⟨hslots, hpairs⟩ := hkeys
  refine ⟨fun i hi ↦ hloaded ▸ hslots i hi, fun pair hpair hbit ↦ ?_⟩
  rw [hloaded] at hbit
  rw [hstore, hderived]
  exact hpairs pair hpair hbit

/-- Only what is observed matters before. -/
theorem Produces.rebase (hafter : Produces effect middle after)
    (hobserved : before.observed = middle.observed) : Produces effect before after := by
  have hstate : before.state = middle.state := (congrArg Context.state hobserved :)
  have hstack : before.stack = middle.stack := (congrArg Context.stack hobserved :)
  have hhung : before.hung = middle.hung := (congrArg Context.hung hobserved :)
  have hlog : before.log = middle.log := (congrArg Context.log hobserved :)
  have hloaded : before.loadedKeys = middle.loadedKeys := (congrArg Context.loadedKeys hobserved :)
  have hstore : before.networkKeys = middle.networkKeys :=
    (congrArg Context.networkKeys hobserved :)
  have hretry : before.retryCounter = middle.retryCounter :=
    (congrArg Context.retryCounter hobserved :)
  have hexchange : before.keyExchange = middle.keyExchange :=
    (congrArg Context.keyExchange hobserved :)
  obtain ⟨state, stack, hung, log, keys, retry, exchange⟩ := hafter
  exact ⟨hstate ▸ state, hstack ▸ stack, hhung ▸ hung, hlog ▸ log,
    keys.rebase hloaded.symm hstore.symm fun slot ↦ by rw [hlog], hretry ▸ retry,
    hexchange ▸ exchange⟩

/-- Only what is observed matters after. -/
theorem Produces.congr (hmiddle : Produces effect before middle)
    (hobserved : after.observed = middle.observed) : Produces effect before after := by
  have hlog : after.log = middle.log := (congrArg Context.log hobserved :)
  have hloaded : after.loadedKeys = middle.loadedKeys := (congrArg Context.loadedKeys hobserved :)
  have hstore : after.networkKeys = middle.networkKeys := (congrArg Context.networkKeys hobserved :)
  obtain ⟨state, stack, hung, log, keys, retry, exchange⟩ := hmiddle
  refine ⟨(congrArg Context.state hobserved :).trans state,
    (congrArg Context.stack hobserved :).trans stack,
    (congrArg Context.hung hobserved :).trans hung, hlog ▸ log, ?_, ?_, ?_⟩
  · cases heffect : effect.keys with
    | kept =>
      rw [heffect] at keys
      exact ⟨hloaded.trans keys.1, hstore.trans keys.2.1, hlog ▸ keys.2.2⟩
    | restored =>
      rw [heffect] at keys
      obtain ⟨hslots, hderived⟩ := keys
      exact ⟨hloaded ▸ hslots, hloaded ▸ hstore ▸ hlog ▸ hderived⟩
    | changed => trivial
  · rw [show after.retryCounter = middle.retryCounter
      from (congrArg Context.retryCounter hobserved :)]
    exact retry
  · rw [show after.keyExchange = middle.keyExchange from (congrArg Context.keyExchange hobserved :)]
    exact exchange

/-- Nothing observed changes. -/
theorem produces_nothing (hobserved : after.observed = before.observed) :
    Produces {} before after := by
  have hlog : after.log = before.log := (congrArg Context.log hobserved :)
  refine ⟨(congrArg Context.state hobserved :), (congrArg Context.stack hobserved :), ?_,
    ⟨[], hlog, rfl, rfl⟩, ⟨(congrArg Context.loadedKeys hobserved :),
      (congrArg Context.networkKeys hobserved :), fun slot ↦ by rw [hlog]⟩,
    (congrArg Context.retryCounter hobserved :), (congrArg Context.keyExchange hobserved :)⟩
  rw [show after.hung = before.hung from (congrArg Context.hung hobserved :)]
  simp

/-- The timer is started or stopped first. -/
theorem Produces.note_timer {act : Act} {armed : Bool} (hact : act.timer = some armed)
    (hafter : Produces effect (before.note act) after) :
    Produces (effect.timed armed) before after := by
  have hupdate : act.isKeyUpdate = false ∧ act.isTerminal = false := by
    cases act <;> simp [Act.timer, Act.isKeyUpdate, Act.isTerminal] at hact ⊢
  obtain ⟨state, stack, hung, ⟨acts, hlog, htimer, hterminal⟩, keys, retry, exchange⟩ := hafter
  have hderived : ∀ slot, derivedFrom slot (before.note act).log = derivedFrom slot before.log :=
    fun slot ↦ derivedFrom_append [act] (by simp [hupdate.1])
  refine ⟨state, stack, hung, ⟨acts ++ [act], ?_, ?_, ?_⟩, keys.rebase rfl rfl hderived,
    retry, exchange⟩
  · rw [hlog]
    simp [Context.note]
  · rw [List.findSome?_append, htimer]
    simp [hact, Effect.timed]
  · rw [countP_append, hterminal]
    simp [hupdate.2, Effect.timed]

/-- Something that is not observed is logged first. -/
theorem Produces.logged {acts : List Act}
    (hacts : ∀ act ∈ acts, act.timer = none ∧ act.isTerminal = false ∧ act.isKeyUpdate = false)
    (hafter : Produces effect { before with log := acts ++ before.log } after) :
    Produces effect before after := by
  have htimer : acts.findSome? Act.timer = none :=
    List.findSome?_eq_none_iff.mpr fun act hact ↦ (hacts act hact).1
  have hterminal : acts.countP Act.isTerminal = 0 :=
    countP_eq_zero.mpr fun act hact ↦ by simp [(hacts act hact).2.1]
  have hderived : ∀ slot, derivedFrom slot (acts ++ before.log) = derivedFrom slot before.log :=
    fun slot ↦ derivedFrom_append acts fun act hact ↦ (hacts act hact).2.2
  obtain ⟨state, stack, hung, ⟨later, hlog, hlater⟩, keys, retry, exchange⟩ := hafter
  refine ⟨state, stack, hung, ⟨later ++ acts, ?_, ?_, ?_⟩, keys.rebase rfl rfl hderived,
    retry, exchange⟩
  · rw [hlog, append_assoc]
  · rw [List.findSome?_append, htimer, Option.or_none]
    exact hlater.1
  · rw [countP_append, hterminal]
    exact hlater.2

theorem Produces.stopped (hafter : Produces effect (before.note .stopTimeout) after) :
    Produces effect.stopped before after :=
  hafter.note_timer rfl

/-- The keys are changed first. -/
theorem Produces.rekeyed {acts : List Act} {loadedKeys : BitVec 8}
    {networkKeys : UInt8 → Option Block} (hacts : ∀ act ∈ acts, act.isKeyUpdate = true)
    (hafter : Produces effect
      { before with loadedKeys, networkKeys, log := acts ++ before.log } after) :
    Produces effect.rekeyed before after := by
  have htimer : acts.findSome? Act.timer = none := by
    refine List.findSome?_eq_none_iff.mpr fun act hact ↦ ?_
    have hupdate := hacts act hact
    cases act <;> simp [Act.isKeyUpdate, Act.timer] at hupdate ⊢
  have hterminal : acts.countP Act.isTerminal = 0 := by
    refine countP_eq_zero.mpr fun act hact ↦ ?_
    have hupdate := hacts act hact
    cases act <;> simp [Act.isKeyUpdate, Act.isTerminal] at hupdate ⊢
  obtain ⟨state, stack, hung, ⟨later, hlog, hlater⟩, keys, retry, exchange⟩ := hafter
  refine ⟨state, stack, hung, ⟨later ++ acts, ?_, ?_, ?_⟩, trivial, retry, exchange⟩
  · rw [hlog, append_assoc]
  · rw [List.findSome?_append, htimer, Option.or_none]
    exact hlater.1
  · rw [countP_append, hterminal]
    exact hlater.2

/-- The key that is exchanged is changed first. -/
theorem Produces.exchanged (key : UInt8) (change : ExchangeChange)
    (hkey : change.Relates before.keyExchange key)
    (hafter : Produces effect { before with keyExchange := key } after)
    (hkept : effect.exchange = .kept) : Produces (effect.exchanged change) before after := by
  obtain ⟨state, stack, hung, log, keys, retry, exchange⟩ := hafter
  rw [hkept] at exchange
  have hafter : after.keyExchange = key := exchange
  refine ⟨state, stack, hung, log, ?_, retry, ?_⟩
  · exact keys
  · rw [hafter]
    exact hkey

/-- The counter of the retries is set first. -/
theorem Produces.retried
    (hafter : Produces effect { before with retryCounter := maxRetryCount } after)
    (hkept : effect.retry = .kept) : Produces effect.retried before after := by
  obtain ⟨state, stack, hung, log, keys, retry, exchange⟩ := hafter
  rw [hkept] at retry
  exact ⟨state, stack, hung, log, keys, retry, exchange⟩

/-- The keys are restored first. -/
theorem Produces.restored (hafter : Produces effect (restoreKeys before) after)
    (hkept : effect.keys = .kept) : Produces effect.restored before after := by
  have hkeys : KeysFromStore after :=
    (keysFromStore_restoreKeys before).kept (hkept ▸ hafter.keys)
  obtain ⟨acts, loadedKeys, hacts, hrestored⟩ := restoreKeys_eq before
  rw [hrestored] at hafter
  obtain ⟨state, stack, hung, log, -, retry, exchange⟩ :=
    @Produces.rekeyed effect before after acts loadedKeys before.networkKeys hacts hafter
  exact ⟨state, stack, hung, log, hkeys, retry, exchange⟩

/-- A further event changes the state first. -/
theorem Produces.entered (state : IncState)
    (hafter : Produces effect { before with state } after) (hkept : effect.newState = none) :
    Produces (effect.entered state) before after := by
  obtain ⟨hstate, stack, hung, log, keys, retry, exchange⟩ := hafter
  rw [hkept] at hstate
  exact ⟨hstate, stack, hung, log, keys.rebase rfl rfl fun _ ↦ rfl, retry, exchange⟩

theorem Produces.not_hung (hafter : Produces effect before after) (hbefore : before.hung = false)
    (hends : effect.hung = false) : after.hung = false := by
  rw [hafter.hung, hbefore, hends]
  rfl

/-- A function outside is called, after an entry in the log. -/
theorem produces_call (act : Act) {frame : Frame} (htimer : act.timer = none)
    (hupdate : act.isKeyUpdate = false)
    (hobserved : after.observed = ((before.note act).push frame).observed) :
    Produces { call := some frame, terminal := act.isTerminal } before after := by
  have hcall : Produces { call := some frame, terminal := act.isTerminal } before
      ((before.note act).push frame) := by
    refine ⟨rfl, rfl, (Bool.or_false _).symm, ⟨[act], rfl, ?_, ?_⟩,
      ⟨rfl, rfl, fun slot ↦ ?_⟩, rfl, rfl⟩
    · simp [htimer]
    · cases hterminal : act.isTerminal <;> simp [hterminal]
    · exact derivedFrom_append [act] (by simp [hupdate])
  exact hcall.congr hobserved

end Produces

/-! ### The effects of the actions -/

/-- A first transmission with `S2_send_frame`. -/
def newFrame (rest : Rest) : Effect :=
  Effect.retried { call := some (.sendFrame rest) }

/-- A first transmission with `S2_send_data`. -/
def newData (rest : Rest) : Effect :=
  Effect.retried { call := some (.sendData rest) }

/-- A call of the event handler. -/
def told (rest : Rest) : Effect :=
  { call := some (.handler rest) }

/-- A `KEX_FAIL` frame is sent, and the event `S2_INCLUSION_ERROR_SENT` will follow. -/
def refusal : Effect :=
  newFrame (.post .inclusionErrorSent)

/-- The event handler is told that the inclusion failed or is complete. -/
def ended : Effect :=
  Effect.restored { call := some (.handler .done), terminal := true }

/-- The effects of `s2_send_final_transfer_end`. -/
def finalEffects : List Effect :=
  [(newFrame (.post .inclusionError)).stopped, (newData .done).stopped]

/-- The effects that an action can have, one for each branch. -/
def effects : Action → List Effect
  | .noAction => [{}]
  | .abort | .remoteError => [ended.stopped]
  | .resendFrame => [{ call := some (.sendFrame .done) }]
  | .resendData => [{ call := some (.sendData .done) }]
  | .sendKexGet => [newFrame (.setTimeout seconds10)]
  | .kexRepRecv =>
    [refusal.stopped, (refusal.exchanged .changed).stopped,
      ((told (.setTimeout seconds240)).exchanged .changed).stopped]
  | .sendKexSet => [(newFrame (.setTimeout seconds10)).stopped]
  | .sendPubKeyA => [(told .sendPubKeyA).stopped]
  | .doEcdhCalcA => [Effect.rekeyed {}]
  | .sendEchoKexReport =>
    [refusal.stopped, ((newData (.setTimeout seconds10)).exchanged .changed).stopped]
  | .sendErrorCancel | .sendErrorDecrypt => [newFrame .done]
  | .sendNetKeyReport => [refusal.stopped, ((newData .netKeyReport).exchanged .changed).stopped]
  | .sendTransferEnd => [(newData (.setTimeout seconds10)).rekeyed.stopped]
  | .inclusionComplete | .checkNoKeys => [ended.stopped, newFrame (.pushFailed kexFailKeyVerify)]
  | .joiningStart => [Effect.timed {} true]
  | .timeoutTb1Set => [(Effect.timed {} true).stopped]
  | .sendKexReport => [(told .sendKexReport).rekeyed.stopped]
  | .sendPubKeyB =>
    [refusal.stopped, ((newFrame (.setTimeout seconds10)).exchanged .one).stopped]
  | .pubKeyARecv => [((told .done).timed true).stopped]
  | .doEcdhCalcB => [Effect.rekeyed (Effect.stopped { call := some .sendEcho, retry := .changed })]
  | .sendEchoKexSet => [Effect.stopped { call := some .sendEcho, retry := .changed }]
  | .sendNetKeyGet =>
    [refusal.stopped, (newFrame (.post .inclusionError)).stopped, Effect.stopped { hung := true },
      ((newData (.setTimeout seconds10)).exchanged .single).stopped] ++
      -- No keys were granted.
      finalEffects.map fun effect ↦ (effect.entered .sendingFinalTransferEnd).stopped
  | .sendNetKeyVerify =>
    [refusal.stopped, ((newData (.setTimeout seconds10)).rekeyed.exchanged .single).stopped]
  | .sendFinalTransferEnd => finalEffects
  | .joiningComplete | .joiningNeverStarted => [ended]

/-! ### The key that is asked for next -/

theorem singleKey_shift (key : UInt8) : singleKey key = true → singleKey (key <<< 1) = true := by
  have hall : ∀ bits : BitVec 8, singleKey (UInt8.ofBitVec bits) = true →
      singleKey (UInt8.ofBitVec bits <<< 1) = true := by
    decide +kernel
  exact hall key.toBitVec

theorem singleKey_advanceKey {granted key next : UInt8} {n : ℕ}
    (hnext : advanceKey granted n key = some next) (hkey : singleKey key = true) :
    singleKey next = true := by
  induction n generalizing key with
  | zero => cases hnext
  | succ n ih =>
    rw [advanceKey] at hnext
    split_ifs at hnext with hbit
    · exact Option.some.inj hnext ▸ hkey
    · exact ih hnext (singleKey_shift key hkey)

section Actions

variable (ctx : Context)

variable (again : Bool) (env : Env)

theorem produces_sendFrame (rest : Rest) :
    Produces { call := some (.sendFrame rest) } ctx (sendFrame again rest ctx) :=
  produces_call (.sentFrame ctx.peer ctx.frame again) rfl rfl rfl

theorem produces_callSendData (frame : Frame) :
    Produces { call := some frame } ctx (callSendData again frame ctx) :=
  produces_call (.sentData ctx.peer ctx.frame again) rfl rfl rfl

theorem produces_callHandler (push : Push) (rest : Rest) :
    Produces { call := some (.handler rest), terminal := push.isTerminal } ctx
      (callHandler push rest ctx) :=
  produces_call (.pushed push) rfl rfl rfl

theorem produces_told (push : Push) (rest : Rest) (hpush : push.isTerminal = false) :
    Produces (told rest) ctx (callHandler push rest ctx) := by
  have htold := produces_callHandler ctx push rest
  rw [hpush] at htold
  exact htold

theorem produces_sendNewFrame (bytes : List UInt8) (rest : Rest) :
    Produces (newFrame rest) ctx (sendNewFrame bytes rest ctx) := by
  have hsent := produces_sendFrame { ctx.build bytes with retryCounter := maxRetryCount } false rest
  have hretried : Produces (newFrame rest) (ctx.build bytes) (sendNewFrame bytes rest ctx) :=
    hsent.retried rfl
  exact hretried.rebase rfl

theorem produces_sendNewData (bytes : List UInt8) (classId txOptions : UInt8) (rest : Rest) :
    Produces (newData rest) ctx (sendNewData bytes classId txOptions rest ctx) := by
  let built : Context := { ctx.build bytes with peer := { ctx.peer with classId, txOptions } }
  have hsent := produces_callSendData { built with retryCounter := maxRetryCount } false
    (.sendData rest)
  have hretried : Produces (newData rest) built (sendNewData bytes classId txOptions rest ctx) :=
    hsent.retried rfl
  exact hretried.rebase rfl

theorem produces_inclusionFailedFrameSend (error : UInt8) (rest : Rest) :
    Produces (newFrame rest) ctx (inclusionFailedFrameSend error rest ctx) := by
  rw [inclusionFailedFrameSend_eq]
  exact (produces_sendNewFrame _ _ rest).rebase rfl

theorem produces_refuse (error : UInt8) : Produces refusal ctx (refuse error ctx) :=
  produces_inclusionFailedFrameSend ctx error (.post .inclusionErrorSent)

theorem produces_inclusionFailedEvtPush (failType : UInt8) :
    Produces ended.stopped ctx (inclusionFailedEvtPush failType ctx) := by
  have htold := produces_callHandler (restoreKeys (ctx.note .stopTimeout))
    (.inclusionFailed (restoreKeys (ctx.note .stopTimeout)).peer failType) .done
  exact (htold.restored rfl).stopped

theorem produces_joiningComplete (push : Connection → UInt8 → Push)
    (hpush : ∀ peer keys, (push peer keys).isTerminal = true) :
    Produces ended ctx (joiningComplete push ctx) := by
  have htold := (produces_callHandler (restoreKeys ctx)
    (push (restoreKeys ctx).peer (restoreKeys ctx).keyGranted) .done).restored rfl
  rw [hpush] at htold
  exact htold

/-- A key is loaded first. -/
theorem Produces.loaded {effect : Effect} {before after : Context} {classId : UInt8}
    {key : List UInt8} {tempKeyExpand : Bool}
    (hafter : Produces effect (networkKeyUpdate classId key tempKeyExpand before) after) :
    Produces effect.rekeyed before after := by
  obtain ⟨loadedKeys, hupdate⟩ := networkKeyUpdate_eq classId key tempKeyExpand before
  rw [hupdate] at hafter
  exact @Produces.rekeyed effect before after [.networkKeyUpdate classId key tempKeyExpand]
    loadedKeys before.networkKeys (by simp [Act.isKeyUpdate]) hafter

theorem produces_kexRepRecv :
    ∃ effect ∈ effects .kexRepRecv, Produces effect ctx (kexRepRecv ctx) := by
  unfold kexRepRecv
  extract_lets stopped scheme curve offered keys csa
  split_ifs with hscheme hcurve hgranted
  · refine ⟨refusal.stopped, by simp [effects], Produces.stopped ?_⟩
    exact Produces.rebase (produces_refuse scheme kexFailKexScheme) rfl
  · refine ⟨refusal.stopped, by simp [effects], Produces.stopped ?_⟩
    exact Produces.rebase (produces_refuse curve kexFailKexCurves) rfl
  · refine ⟨(refusal.exchanged .changed).stopped, by simp [effects], Produces.stopped ?_⟩
    refine Produces.exchanged offered .changed trivial ?_ rfl
    exact Produces.rebase (produces_refuse keys kexFailKexKey) rfl
  · refine ⟨((told (.setTimeout seconds240)).exchanged .changed).stopped, by simp [effects],
      Produces.stopped ?_⟩
    refine Produces.exchanged offered .changed trivial ?_ rfl
    exact Produces.rebase (produces_told csa (.kexReport _ _ _) (.setTimeout seconds240) rfl) rfl

theorem produces_sendEchoKexReport :
    ∃ effect ∈ effects .sendEchoKexReport, Produces effect ctx (sendEchoKexReport ctx) := by
  unfold sendEchoKexReport
  extract_lets stopped
  split_ifs with hvalid
  · refine ⟨((newData (.setTimeout seconds10)).exchanged .changed).stopped, by simp [effects],
      Produces.stopped ?_⟩
    exact Produces.exchanged 0 .changed trivial (produces_sendNewData _ _ _ _ _) rfl
  · exact ⟨refusal.stopped, by simp [effects], (produces_refuse stopped kexFailAuth).stopped⟩

theorem produces_sendNetKeyReport :
    ∃ effect ∈ effects .sendNetKeyReport, Produces effect ctx (sendNetKeyReport ctx) := by
  unfold sendNetKeyReport
  extract_lets stopped requested exchanged
  split_ifs with hvalid
  · refine ⟨((newData .netKeyReport).exchanged .changed).stopped, by simp [effects],
      Produces.stopped ?_⟩
    refine Produces.exchanged (stopped.keyExchange ||| requested) .changed trivial ?_ rfl
    exact Produces.rebase (produces_sendNewData exchanged _ _ _ .netKeyReport) rfl
  · refine ⟨refusal.stopped, by simp [effects], Produces.stopped ?_⟩
    exact Produces.rebase (produces_refuse { stopped with keyRequested := 0 } kexFailKeyGet) rfl

theorem produces_inclusionComplete :
    ∃ effect ∈ effects .inclusionComplete, Produces effect ctx (inclusionComplete ctx) := by
  unfold inclusionComplete
  split_ifs with hcomplete
  · have htold := produces_callHandler (restoreKeys (ctx.note .stopTimeout))
      (.inclusionComplete (restoreKeys (ctx.note .stopTimeout)).peer
        (restoreKeys (ctx.note .stopTimeout)).keyExchange) .done
    exact ⟨ended.stopped, by simp [effects], (htold.restored rfl).stopped⟩
  · exact ⟨newFrame (.pushFailed kexFailKeyVerify), by simp [effects],
      produces_inclusionFailedFrameSend ctx _ _⟩

theorem produces_checkNoKeys :
    ∃ effect ∈ effects .checkNoKeys, Produces effect ctx (checkNoKeys ctx) := by
  unfold checkNoKeys
  split_ifs with hgranted
  · exact ⟨ended.stopped, by simp [effects], produces_inclusionFailedEvtPush ctx _⟩
  · exact produces_inclusionComplete ctx

theorem produces_sendPubKeyB :
    ∃ effect ∈ effects .sendPubKeyB, Produces effect ctx (sendPubKeyB env ctx) := by
  unfold sendPubKeyB
  extract_lets stopped scheme curve granted selected key
  split
  · split
    · split
      · split
        · refine ⟨refusal.stopped, by simp [effects], Produces.stopped ?_⟩
          exact Produces.rebase (produces_refuse granted kexFailKexKey) rfl
        · refine ⟨((newFrame (.setTimeout seconds10)).exchanged .one).stopped, by simp [effects],
            Produces.stopped ?_⟩
          refine Produces.exchanged 1 .one rfl ?_ rfl
          exact Produces.rebase (produces_sendNewFrame selected _ (.setTimeout seconds10)) rfl
      · refine ⟨refusal.stopped, by simp [effects], Produces.stopped ?_⟩
        exact Produces.rebase (produces_refuse curve kexFailKexKey) rfl
    · refine ⟨refusal.stopped, by simp [effects], Produces.stopped ?_⟩
      exact Produces.rebase (produces_refuse scheme kexFailKexCurves) rfl
  · exact ⟨refusal.stopped, by simp [effects], (produces_refuse stopped kexFailKexScheme).stopped⟩

theorem produces_sendEchoKexSet :
    Produces (Effect.stopped { call := some .sendEcho, retry := .changed }) ctx
      (sendEchoKexSet again ctx) := by
  obtain ⟨state, stack, hung, log, keys, -, exchange⟩ := produces_callSendData
    { (ctx.note .stopTimeout).build
        [commandClassSecurity2, kexSet, ctx.kexSetByte2 ||| echoOn, ctx.schemeSupport,
          ctx.curveSupport, ctx.keyGranted] with
      retryCounter := ctx.retryCounter - 1
      peer := { ctx.peer with classId := tempKeySecure, txOptions := txVerifyDelivery } }
    again .sendEcho
  have hcalled : Produces { call := some .sendEcho, retry := .changed } (ctx.note .stopTimeout)
      (sendEchoKexSet again ctx) := ⟨state, stack, hung, log, keys, trivial, exchange⟩
  exact hcalled.stopped

theorem produces_doEcdhCalcA : Produces (Effect.rekeyed {}) ctx (doEcdhCalcA env ctx) := by
  have hloaded : Produces (Effect.rekeyed {})
      { ctx with publicKey := overwrite (env.tempKey ctx) ctx.publicKey } (doEcdhCalcA env ctx) :=
    Produces.loaded (produces_nothing rfl)
  exact hloaded.rebase rfl

theorem produces_doEcdhCalcB :
    Produces (Effect.rekeyed (Effect.stopped { call := some .sendEcho, retry := .changed })) ctx
      (doEcdhCalcB env ctx) := by
  let derived : Context := { ctx with publicKey := overwrite (env.tempKey ctx) ctx.publicKey }
  let loaded := networkKeyUpdate tempKeySecure (derived.publicKey.take 16) true derived
  obtain ⟨state, stack, hung, log, keys, -, exchange⟩ :=
    produces_sendEchoKexSet { loaded with retryCounter := 24 } false
  have hecho : Produces (Effect.stopped { call := some .sendEcho, retry := .changed }) loaded
      (doEcdhCalcB env ctx) :=
    ⟨state, stack, hung, log, keys.rebase rfl rfl fun _ ↦ rfl, trivial, exchange⟩
  exact hecho.loaded.rebase rfl

theorem produces_sendNetKeyVerify :
    ∃ effect ∈ effects .sendNetKeyVerify, Produces effect ctx (sendNetKeyVerify ctx) := by
  unfold sendNetKeyVerify
  extract_lets stopped receivedKey stored loaded
  split_ifs with hkey
  · refine ⟨((newData (.setTimeout seconds10)).rekeyed.exchanged .single).stopped,
      by simp [effects], Produces.stopped ?_⟩
    refine Produces.exchanged (stopped.keyExchange <<< 1) .single (singleKey_shift _) ?_ rfl
    have hsent := (produces_sendNewData loaded [commandClassSecurity2, networkKeyVerify]
      networkKeySecure 0 (.setTimeout seconds10)).loaded
    exact @Produces.rekeyed (newData (.setTimeout seconds10)).rekeyed _ _ [] stopped.loadedKeys
      stored.networkKeys (by simp) hsent
  · exact ⟨refusal.stopped, by simp [effects], (produces_refuse stopped kexFailKeyReport).stopped⟩

theorem produces_sendFinalTransferEnd :
    ∃ effect ∈ finalEffects, Produces effect ctx (sendFinalTransferEnd ctx) := by
  unfold sendFinalTransferEnd
  extract_lets stopped
  split_ifs with hbad
  · exact ⟨(newFrame (.post .inclusionError)).stopped, by simp [finalEffects],
      (produces_inclusionFailedFrameSend stopped _ _).stopped⟩
  · exact ⟨(newData .done).stopped, by simp [finalEffects],
      (produces_sendNewData stopped _ _ _ .done).stopped⟩

theorem dispatch_noKeysGranted (hstate : ctx.state = .awaitingNetKeyReport) :
    dispatch (perform env) .noKeysGranted ctx =
      sendFinalTransferEnd { ctx with state := .sendingFinalTransferEnd } := by
  have hrow : lookup .awaitingNetKeyReport .noKeysGranted =
      some (goes .awaitingNetKeyReport .noKeysGranted .sendFinalTransferEnd
        .sendingFinalTransferEnd) := by
    decide
  rw [dispatch, hstate, hrow]
  rfl

theorem produces_sendNetKeyGet (hstate : ctx.state = .awaitingNetKeyReport) :
    ∃ effect ∈ effects .sendNetKeyGet, Produces effect ctx
      (performAction env .sendNetKeyGet ctx) := by
  have hstopped : (ctx.note .stopTimeout).state = .awaitingNetKeyReport := hstate
  unfold performAction sendNetKeyGet
  dsimp only
  split
  · exact ⟨refusal.stopped, by simp [effects], (produces_refuse _ kexFailAuth).stopped⟩
  split
  · exact ⟨(newFrame (.post .inclusionError)).stopped, by simp [effects],
      (produces_inclusionFailedFrameSend _ kexFailKeyVerify _).stopped⟩
  split
  · rw [dispatch_noKeysGranted _ env hstopped]
    obtain ⟨effect, heffect, hproduces⟩ :=
      produces_sendFinalTransferEnd { ctx.note .stopTimeout with state := .sendingFinalTransferEnd }
    have hnone : ∀ effect ∈ finalEffects, effect.newState = none := by decide
    refine ⟨(effect.entered .sendingFinalTransferEnd).stopped, ?_,
      (hproduces.entered _ (hnone effect heffect)).stopped⟩
    exact mem_append_right _ (mem_map.mpr ⟨effect, heffect, rfl⟩)
  split
  · refine ⟨Effect.stopped { hung := true }, by simp [effects], Produces.stopped ?_⟩
    exact ⟨rfl, rfl, (Bool.or_true _).symm, ⟨[], rfl, rfl, rfl⟩, ⟨rfl, rfl, fun _ ↦ rfl⟩, rfl, rfl⟩
  · rename_i key hkey
    refine ⟨((newData (.setTimeout seconds10)).exchanged .single).stopped, by simp [effects],
      Produces.stopped ?_⟩
    exact Produces.exchanged key .single (singleKey_advanceKey hkey)
      (produces_sendNewData _ _ _ _ _) rfl

/-- Each action has one of its effects. -/
theorem produces_performAction (action : Action)
    (hstate : action = .sendNetKeyGet → ctx.state = .awaitingNetKeyReport) :
    ∃ effect ∈ effects action, Produces effect ctx (performAction env action ctx) := by
  cases action with
  | noAction => exact ⟨{}, by simp [effects], produces_nothing rfl⟩
  | abort => exact ⟨_, mem_singleton_self _, produces_inclusionFailedEvtPush ctx _⟩
  | remoteError => exact ⟨_, mem_singleton_self _, produces_inclusionFailedEvtPush ctx _⟩
  | resendFrame => exact ⟨_, mem_singleton_self _, produces_sendFrame ctx true .done⟩
  | resendData => exact ⟨_, mem_singleton_self _, produces_callSendData ctx true (.sendData .done)⟩
  | sendKexGet => exact ⟨_, mem_singleton_self _, produces_sendNewFrame ctx _ _⟩
  | kexRepRecv => exact produces_kexRepRecv ctx
  | sendKexSet => exact ⟨_, mem_singleton_self _, (produces_sendNewFrame _ _ _).stopped⟩
  | sendPubKeyA =>
    refine ⟨_, mem_singleton_self _, Produces.stopped ?_⟩
    exact Produces.rebase (produces_told _ (.publicKeyChallenge _ _ _ _) .sendPubKeyA rfl) rfl
  | doEcdhCalcA => exact ⟨_, mem_singleton_self _, produces_doEcdhCalcA ctx env⟩
  | sendEchoKexReport => exact produces_sendEchoKexReport ctx
  | sendErrorCancel =>
    exact ⟨_, mem_singleton_self _, produces_inclusionFailedFrameSend ctx _ .done⟩
  | sendErrorDecrypt =>
    exact ⟨_, mem_singleton_self _, produces_inclusionFailedFrameSend ctx _ .done⟩
  | sendNetKeyReport => exact produces_sendNetKeyReport ctx
  | sendTransferEnd =>
    exact ⟨_, mem_singleton_self _, (produces_sendNewData _ _ _ _ _).loaded.stopped⟩
  | inclusionComplete => exact produces_inclusionComplete ctx
  | checkNoKeys => exact produces_checkNoKeys ctx
  | joiningStart =>
    exact ⟨_, mem_singleton_self _, Produces.note_timer rfl (produces_nothing rfl)⟩
  | timeoutTb1Set =>
    exact ⟨_, mem_singleton_self _,
      Produces.stopped (Produces.note_timer rfl (produces_nothing rfl))⟩
  | sendKexReport =>
    refine ⟨_, mem_singleton_self _, Produces.stopped ?_⟩
    exact @Produces.rekeyed (told .sendKexReport) _ _ [] ctx.loadedKeys (fun _ ↦ none) (by simp)
      (produces_told _ (.inclusionInitiated _) .sendKexReport rfl)
  | sendPubKeyB => exact produces_sendPubKeyB ctx env
  | pubKeyARecv =>
    have htold : Produces (told .done) ((ctx.note .stopTimeout).note (.setTimeout seconds240))
        (pubKeyARecv ctx) :=
      Produces.rebase (produces_told _ (.publicKeyChallenge _ _ _ _) .done rfl) rfl
    exact ⟨_, mem_singleton_self _, (htold.note_timer rfl).stopped⟩
  | doEcdhCalcB => exact ⟨_, mem_singleton_self _, produces_doEcdhCalcB ctx env⟩
  | sendEchoKexSet => exact ⟨_, mem_singleton_self _, produces_sendEchoKexSet ctx true⟩
  | sendNetKeyGet => exact produces_sendNetKeyGet ctx env (hstate rfl)
  | sendNetKeyVerify => exact produces_sendNetKeyVerify ctx
  | sendFinalTransferEnd => exact produces_sendFinalTransferEnd ctx
  | joiningComplete =>
    exact ⟨_, mem_singleton_self _, produces_joiningComplete ctx _ fun _ _ ↦ rfl⟩
  | joiningNeverStarted =>
    exact ⟨_, mem_singleton_self _, produces_joiningComplete ctx _ fun _ _ ↦ rfl⟩

end Actions

/-! ### The effects of an event -/

/-- The next key is only asked for after the echo of the report, and after the end of a transfer. -/
theorem move_sendNetKeyGet : ∀ (state : IncState) (event : Event),
    (move state event).1 = .sendNetKeyGet → (move state event).2 = .awaitingNetKeyReport ∧
      (state = .echoKexSetSending ∧ event = .echoKexReportRecv ∨
        state = .keyExchanged ∧ event = .transferEndRecv) := by
  simp only [move_eq_moveAmong]
  decide +kernel

/-- Processing an event has one of the effects of the action that the table has for it. -/
theorem processEvent_produces (env : Env) (event : Event) (ctx : Context) :
    ∃ effect ∈ effects (move ctx.state event).1,
      Produces effect { ctx with state := (move ctx.state event).2 }
        (processEvent env event ctx) := by
  rw [processEvent_eq]
  exact produces_performAction _ env _ fun haction ↦
    (move_sendNetKeyGet ctx.state event haction).1

/-- The loop that looks for the next key ends when there is one. -/
theorem sendNetKeyGet_hung (env : Env) {ctx : Context} (hstate : ctx.state = .awaitingNetKeyReport)
    (hhung : ctx.hung = false)
    (hnext : ctx.keyGranted ≠ 0 → advanceKey ctx.keyGranted 9 ctx.keyExchange ≠ none) :
    (performAction env .sendNetKeyGet ctx).hung = false := by
  have hstopped : (ctx.note .stopTimeout).state = .awaitingNetKeyReport := hstate
  have hfinal : ∀ effect ∈ finalEffects, effect.hung = false := by decide
  unfold performAction sendNetKeyGet
  dsimp only
  split
  · exact (produces_refuse _ kexFailAuth).not_hung hhung rfl
  split
  · exact (produces_inclusionFailedFrameSend _ kexFailKeyVerify _).not_hung hhung rfl
  split
  · rw [dispatch_noKeysGranted _ env hstopped]
    obtain ⟨effect, heffect, hproduces⟩ :=
      produces_sendFinalTransferEnd { ctx.note .stopTimeout with state := .sendingFinalTransferEnd }
    exact hproduces.not_hung hhung (hfinal effect heffect)
  rename_i hgranted
  split
  · rename_i hnone
    exact absurd hnone (hnext hgranted)
  · exact (produces_sendNewData _ _ _ _ _).not_hung hhung rfl

theorem processEvent_hung (env : Env) (event : Event) {ctx : Context} (hhung : ctx.hung = false)
    (hnext : (move ctx.state event).1 = .sendNetKeyGet → ctx.keyGranted ≠ 0 →
      advanceKey ctx.keyGranted 9 ctx.keyExchange ≠ none) :
    (processEvent env event ctx).hung = false := by
  rcases eq_or_ne (move ctx.state event).1 .sendNetKeyGet with haction | haction
  · rw [processEvent_eq, haction]
    exact sendNetKeyGet_hung env (move_sendNetKeyGet _ _ haction).1 hhung (hnext haction)
  · have hends : ∀ action, action ≠ .sendNetKeyGet → ∀ effect ∈ effects action,
        effect.hung = false := by
      intro action hother
      cases action <;> first | exact absurd rfl hother | decide
    obtain ⟨effect, heffect, hproduces⟩ := processEvent_produces env event ctx
    exact hproduces.not_hung hhung (hends _ haction effect heffect)

end ZipGateway.Inclusion
