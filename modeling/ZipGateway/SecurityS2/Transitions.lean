import ZipGateway.SecurityS2.Footprint

/-!
# What a call does to a context

An event of the state machine ends a transmission, sends the plaintext again, answers a frame or
asks the callbacks. `ReportClosed`, `EventClosed` and `CallClosed` list these changes and say of a
property of contexts that they keep it. Every such property is then kept by `fsmPostEvent`, unless
the event starts a transmission, and by every call of the module (`CallClosed.enter`). The
functions are walked through once, here; an invariant is proved by looking at the changes.

`TransmitClosed` is for a property that depends on the tables only. It is kept by every change of
the state machine and by everything that is logged, so that all the other rules follow.
-/

set_option autoImplicit false

namespace ZipGateway.SecurityS2

open Lib

/-! ### The state of the machine -/

/-- The machine can start a transmission. -/
def S2.Idles (s : S2) : Prop := s.fsm = .idle ∨ s.fsm = .isMosWaitReply

/-- The machine is in the middle of a transmission. -/
def S2.Transmits (s : S2) : Prop :=
  s.fsm = .waitNonceRaport ∨ s.fsm = .verifyingDelivery ∨ s.fsm = .sendingMsg

/-- The machine sends the plaintext again: the nonce it waited for has come, or the peer has lost
its nonce and there is another try. -/
def S2.SendsAgain (s : S2) : Prop :=
  s.fsm = .waitNonceRaport ∨ s.fsm = .verifyingDelivery ∧ s.retry ≠ 0

theorem S2.SendsAgain.transmits {s : S2} (hagain : s.SendsAgain) : s.Transmits :=
  hagain.imp_right fun hverifies ↦ .inl hverifies.1

theorem idles_iff {s : S2} : s.Idles ↔ isSendDataBusy s = false := by
  unfold S2.Idles isSendDataBusy
  cases s.fsm <;> decide

/-- The table functions keep the state of the machine. -/
theorem quietClosed_fsm (fsm : FsmState) : QuietClosed fun s ↦ s.fsm = fsm where
  frame _ _ _ hfsm _ hs := hfsm.trans hs
  allocateSpan _ _ _ _ hs := hs
  span _ _ _ _ hs := hs
  mpan _ _ _ _ hs := hs

theorem registerNonce_fsm (env : Env) (buf : List UInt8) (s : S2) :
    (registerNonce env buf s).1.fsm = s.fsm :=
  (quietClosed_fsm s.fsm).registerNonce env buf rfl

/-! ### The end of a transmission -/

/-- The property is kept where a transmission ends or goes on. -/
structure ReportClosed (env : Env) (property : S2 → Prop) : Prop where
  hook : ∀ (s : S2) (hook : Hook), property s → property (env.hook s hook)
  setTimeout : ∀ (s : S2) (interval : UInt16), property s → property (setTimeout interval s)
  ended : ∀ (s : S2) (status : UInt8), s.Transmits → property s →
    property (endTransmission env status s)

theorem ReportClosed.fsmSendDone {env : Env} {property : S2 → Prop}
    (hclosed : ReportClosed env property) {s : S2} (status : UInt8) (time : UInt16)
    (hs : property s) : property (fsmSendDone env status time s) := by
  unfold SecurityS2.fsmSendDone
  split
  · exact hclosed.hook _ _ hs
  · exact hclosed.hook _ _ hs
  · rename_i hfsm
    split_ifs
    · exact hclosed.setTimeout s time hs
    · exact hclosed.ended s status (.inl hfsm) hs
  · rename_i hfsm
    split_ifs
    · exact hclosed.setTimeout s time hs
    · exact hclosed.ended s status (.inr (.inl hfsm)) hs
  · rename_i hfsm
    exact hclosed.ended s status (.inr (.inr hfsm)) hs
  · exact hs

/-! ### Events -/

/-- The event starts a transmission. -/
def Event.isSend : Event → Bool
  | .sendMsg _ _ | .sendMulticast _ _ => true
  | _ => false

/-- The property is kept by what the other events do. -/
structure EventClosed (env : Env) (property : S2 → Prop) : Prop
    extends ReportClosed env property where
  stopTimeout : ∀ s : S2, property s → property (s.logged .stopTimeout)
  verifySeq : ∀ (s : S2) (peer : Connection) (seq : UInt8), property s →
    property (verifySeq env peer seq s).1
  sendNonceReport : ∀ (s : S2) (con : Connection) (flags : UInt8), property s →
    property (sendNonceReport env con flags s)
  registerNonce : ∀ (s : S2) (buf : List UInt8), property s → property (registerNonce env buf s).1
  setPeer : ∀ (s : S2) (con : Connection) (buf : List UInt8), s.Idles → property s →
    property (setPeer con buf s)
  mosWait : ∀ (s : S2) (con : Connection), s.Idles → property s →
    property { SecurityS2.setPeer con [] s with fsm := .isMosWaitReply }
  mosTimeout : ∀ s : S2, s.fsm = .isMosWaitReply → property s →
    property { s with mpan := none, fsm := .idle }
  empty : ∀ s : S2, s.fsm = .verifyingDelivery → property s → property { s with buf := [] }
  again : ∀ s : S2, s.SendsAgain → property s → property (sendMsgStateEnter env s)
  /-- The peer of a group is out of sync: an empty message brings it its nonce. -/
  emptyAgain : ∀ s : S2, s.fsm = .verifyingDelivery → 0 < s.retry → property s →
    property (sendMsgStateEnter env { s with
      buf := []
      peer := { s.peer with txOptions := s.peer.txOptions &&& ~~~txVerifyDelivery } })

namespace EventClosed

variable {env : Env} {property : S2 → Prop} (hclosed : EventClosed env property) {s : S2}
  {event : Event}
include hclosed

theorem fsmIdle (hidle : s.Idles) (hsend : event.isSend = false) (hs : property s) :
    property (fsmIdle env event s) := by
  cases event with
  | sendMsg con buf => cases hsend
  | sendMulticast con buf => cases hsend
  | sendDone status time => exact hclosed.fsmSendDone status time hs
  | gotNonceGet con buf =>
    have hverify := hclosed.verifySeq s con (buf.getD 2 0) hs
    unfold SecurityS2.fsmIdle
    dsimp only
    split_ifs
    · exact hclosed.sendNonceReport _ con sosBitMask hverify
    · exact hverify
    · exact hs
  | gotNonceRaport con buf =>
    exact hclosed.hook _ _ (hclosed.registerNonce _ buf (hclosed.setPeer s con buf hidle hs))
  | gotEncMsg con => exact hs
  | gotBadEncMsg con => exact hs
  | gotEncMsgMos con => exact hclosed.mosWait _ con hidle (hclosed.setTimeout s 10 hs)
  | timeout =>
    unfold SecurityS2.fsmIdle
    dsimp only
    split_ifs with hmos
    · exact hclosed.sendNonceReport _ _ _ (hclosed.mosTimeout s hmos hs)
    · exact hs

theorem fsmWaitNonceRaport (hfsm : s.fsm = .waitNonceRaport) (hs : property s) :
    property (fsmWaitNonceRaport env event s) := by
  unfold SecurityS2.fsmWaitNonceRaport
  split
  · exact hclosed.fsmSendDone _ _ hs
  · exact hclosed.ended s _ (.inl hfsm) hs
  · rename_i con buf
    have hnonce := hclosed.registerNonce s buf hs
    dsimp only
    split_ifs
    · exact hclosed.again _ (.inl ((registerNonce_fsm env buf s).trans hfsm)) hnonce
    · exact hnonce
    · exact hclosed.hook _ _ hs
  · exact hs

theorem fsmSendingMsg (hs : property s) : property (fsmSendingMsg env event s) := by
  unfold SecurityS2.fsmSendingMsg
  split
  · exact hclosed.fsmSendDone _ _ hs
  · split_ifs
    · exact hs
    · exact hclosed.hook _ _ hs
  · exact hs

theorem fsmVerifyingDelivery (hfsm : s.fsm = .verifyingDelivery) (hs : property s) :
    property (fsmVerifyingDelivery env event s) := by
  unfold SecurityS2.fsmVerifyingDelivery
  split
  · exact hclosed.fsmSendDone _ _ hs
  · split_ifs with hpeer hmos
    · exact hclosed.emptyAgain s hfsm hmos.2 hs
    · exact hclosed.ended _ _ (.inr (.inl hfsm)) (hclosed.stopTimeout s hs)
    · exact hs
  · exact hclosed.ended s _ (.inr (.inl hfsm)) hs
  · rename_i con buf
    have hnonce := hclosed.registerNonce s buf hs
    have hsame := (registerNonce_fsm env buf s).trans hfsm
    generalize SecurityS2.registerNonce env buf s = registered at hnonce hsame ⊢
    obtain ⟨t, flags⟩ := registered
    dsimp only at hnonce hsame ⊢
    have hcut : property (if flags = mosBitMask then { t with buf := [] } else t) ∧
        (if flags = mosBitMask then { t with buf := [] } else t).fsm = .verifyingDelivery := by
      split_ifs
      · exact ⟨hclosed.empty t hsame hnonce, hsame⟩
      · exact ⟨hnonce, hsame⟩
    generalize (if flags = mosBitMask then { t with buf := [] } else t) = cut at hcut ⊢
    split_ifs with hpeer hflags hretry
    · exact hnonce
    · exact hclosed.ended cut _ (.inr (.inl hcut.2)) hcut.1
    · exact hclosed.again cut (.inr ⟨hcut.2, hretry⟩) hcut.1
    · exact hclosed.hook _ _ hs
  · exact hs

/-- Every event that starts no transmission keeps the property. -/
theorem fsmPostEvent (hsend : event.isSend = false) (hs : property s) :
    property (fsmPostEvent env event s) := by
  unfold SecurityS2.fsmPostEvent
  split
  case h_1 hfsm => exact hclosed.fsmIdle (.inl hfsm) hsend hs
  case h_2 hfsm => exact hclosed.fsmIdle (.inr hfsm) hsend hs
  case h_3 hfsm => exact hclosed.fsmWaitNonceRaport hfsm hs
  case h_4 => exact hclosed.fsmSendingMsg hs
  case h_5 hfsm => exact hclosed.fsmVerifyingDelivery hfsm hs
  case h_6 => exact hs

end EventClosed

/-! ### Calls -/

theorem fsmPostEvent_of_idles {env : Env} {event : Event} {s : S2} (hidle : s.Idles) :
    fsmPostEvent env event s = fsmIdle env event s := by
  unfold fsmPostEvent
  rcases hidle with hfsm | hfsm <;> rw [hfsm]

/-- `S2_send_data_all_cast` refuses the call, or an idle machine starts a singlecast or a
multicast. -/
theorem sendDataAllCast_cases (env : Env) (con : Connection) (buf : Option (List UInt8))
    (kind : SendKind) (s : S2) :
    sendDataAllCast env con buf kind s = (s, false) ∨
    (∃ bytes mpan, s.Idles ∧ sendDataAllCast env con buf kind s = ((fsmIdle env (.sendMsg con bytes)
      { s.logged (.requested con bytes) with mpan := mpan }).logged .accepted, true)) ∨
    kind = .sendMulticast ∧ ∃ bytes, s.Idles ∧ sendDataAllCast env con buf kind s =
      ((fsmIdle env (.sendMulticast con bytes) (s.logged (.requested con bytes))).logged .accepted,
        true) := by
  unfold sendDataAllCast
  cases buf with
  | none => exact .inl rfl
  | some bytes =>
    dsimp only
    split_ifs with hrefused
    · exact .inl rfl
    have hidle : s.Idles := idles_iff.mpr (by simpa using fun hbusy ↦ hrefused (.inr (.inr hbusy)))
    have hstart : ∀ event mpan, fsmPostEvent env event
        { s.logged (.requested con bytes) with mpan := mpan } =
        fsmIdle env event { s.logged (.requested con bytes) with mpan := mpan } :=
      fun event mpan ↦ fsmPostEvent_of_idles hidle
    refine .inr ?_
    cases kind with
    | sendMsg => exact .inl ⟨bytes, s.mpan, hidle, by rw [← hstart]; rfl⟩
    | sendMulticast =>
      have hlogged : (s.logged (.requested con bytes)).Idles := hidle
      refine .inr ⟨rfl, bytes, hidle, ?_⟩
      rw [← fsmPostEvent_of_idles hlogged]
      rfl
    | sendFollowUp =>
      refine .inl ?_
      unfold startSend
      dsimp only
      split
      case h_1 i _ => exact ⟨bytes, some i, hidle, by rw [← hstart]⟩
      case h_2 => exact ⟨bytes, s.mpan, hidle, by rw [← hstart]; rfl⟩

theorem networkKeyUpdate_eq (env : Env) (classId : UInt8) (netKey : Block) (tempKeyExpand : Bool)
    (s : S2) : ∃ sg loadedKeys, networkKeyUpdate env classId netKey tempKeyExpand s =
      { s with sg := sg, loadedKeys := loadedKeys } := by
  unfold networkKeyUpdate
  by_cases hclass : nSecClass ≤ classId.toNat
  · exact ⟨s.sg, s.loadedKeys, if_pos hclass⟩
  · exact ⟨_, _, if_neg hclass⟩

/-- `s2_restore_keys` changes the keys only. -/
theorem restoreKeys_eq (env : Env) (keystore : Fin 5 → Option Block) (s : S2) :
    ∃ sg loadedKeys, restoreKeys env keystore s =
      { s with sg := sg, loadedKeys := loadedKeys } := by
  unfold restoreKeys
  refine List.foldlRecOn
    (motive := fun restored : S2 ↦ ∃ sg loadedKeys,
      restored = { s with sg := sg, loadedKeys := loadedKeys })
    (List.finRange 5) _ ⟨s.sg, 0, rfl⟩ ?_
  rintro _ ⟨sg, loadedKeys, rfl⟩ slot -
  cases keystore slot with
  | none => exact ⟨sg, loadedKeys, rfl⟩
  | some key =>
    obtain ⟨sg', loadedKeys', hupdate⟩ := networkKeyUpdate_eq env (UInt8.ofNat slot) key false
      { s with sg := sg, loadedKeys := loadedKeys }
    exact ⟨sg', loadedKeys', hupdate⟩

theorem initCtx_eq (env : Env) (home : UInt32) (keystore : Fin 5 → Option Block) (drbg : Drbg) :
    ∃ sg loadedKeys, initCtx env home keystore drbg =
      { emptyCtx home drbg with sg := sg, loadedKeys := loadedKeys } :=
  restoreKeys_eq env keystore (emptyCtx home drbg)

/-- Where a call hands a command to the inclusion machine: the context before, and the command,
which it leaves in the plaintext buffer. -/
inductive Call.Stores (env : Env) (s : S2) : Call → S2 → List UInt8 → Prop
  | decrypted {src con : Connection} {buf plainText : List UInt8} {t : S2} :
      buf.getD 1 0 = security2MessageEncapsulation →
      decryptMsg env src buf s = (t, con, .authOk plainText) → plainText ≠ [] →
      plainText.getD 0 0 = commandClassSecurity2 ∧
        (plainText ++ msgTag buf).getD 1 0 ≠ security2CommandsSupportedReport →
      con.isMulticast = false →
      Stores env s (.applicationCommandHandler src buf) (fsmPostEvent env (.gotEncMsg con) t)
        plainText
  | plain {src : Connection} {buf : List UInt8} : s.fsm = .idle ∨ buf.getD 1 0 = kexFail →
      src.isMulticast = false → Stores env s (.applicationCommandHandler src buf) s buf

/-- The property is kept by what the calls do, except that some conditions are left to each call:
for a multicast, for the decryption of a frame and for the plaintext buffer. -/
structure CallClosed (env : Env) (property : S2 → Prop) : Prop
    extends EventClosed env property where
  send : ∀ (s : S2) (con : Connection) (buf : Option (List UInt8)) (kind : SendKind),
    kind ≠ .sendMulticast → property s → property (sendDataAllCast env con buf kind s).1
  /-- It does not depend on the keys. -/
  keys : ∀ (s : S2) (sg : UInt8 → SecGroup) (loadedKeys : BitVec 8), property s →
    property { s with sg := sg, loadedKeys := loadedKeys }
  freeMpan : ∀ (s : S2) (ownerId : UInt16) (groupId : UInt8), property s →
    property (freeMpan ownerId groupId s)
  initPrng : ∀ (s : S2) (drbg : Drbg), property s → property { s with drbg := drbg }

namespace CallClosed

variable {env : Env} {property : S2 → Prop} (hclosed : CallClosed env property) {s : S2}
include hclosed

theorem dispatchPlainText {src : Connection} {plainText tag : List UInt8}
    (hstore : plainText ≠ [] → plainText.getD 0 0 = commandClassSecurity2 ∧
      (plainText ++ tag).getD 1 0 ≠ security2CommandsSupportedReport → src.isMulticast = false →
      property { s with buf := plainText }) (hs : property s) :
    property (dispatchPlainText env src plainText tag s) := by
  unfold SecurityS2.dispatchPlainText
  dsimp only
  split_ifs with hempty hown hmulticast
  · exact hs
  · exact hs
  · unfold sendCommandsSupported
    dsimp only
    split_ifs
    · exact hs
    · exact hclosed.send s _ _ .sendMsg nofun hs
  · exact hclosed.hook _ _ (hstore hempty hown (by simpa using hmulticast))
  · exact hclosed.hook _ _ hs
  · exact hclosed.hook _ _ hs

variable {src : Connection} {buf : List UInt8}
  (hstores : ∀ t plain, (Call.applicationCommandHandler src buf).Stores env s t plain →
    property t → property { t with buf := plain })
include hstores

theorem handleEncapsulation (hcommand : buf.getD 1 0 = security2MessageEncapsulation)
    (hdecrypt : property (decryptMsg env src buf s).1) :
    property (handleEncapsulation env src buf s) := by
  unfold SecurityS2.handleEncapsulation
  have hstored : ∀ t con plainText, decryptMsg env src buf s = (t, con, .authOk plainText) → _ :=
    fun t con plainText hresult ↦ Call.Stores.decrypted hcommand hresult
  generalize decryptMsg env src buf s = decrypted at hdecrypt hstored ⊢
  obtain ⟨t, con, result⟩ := decrypted
  cases result with
  | authOk plainText =>
    have hposted : property (SecurityS2.fsmPostEvent env (.gotEncMsg con) t) :=
      hclosed.fsmPostEvent rfl hdecrypt
    exact hclosed.dispatchPlainText (fun hempty hown hsingle ↦
      hstores _ _ (hstored t con plainText rfl hempty hown hsingle) hposted) hposted
  | authFail => exact hclosed.hook _ _ (hclosed.fsmPostEvent rfl hdecrypt)
  | parseFail => exact hdecrypt
  | sequenceFail => exact hdecrypt

theorem applicationCommandHandler (hdecrypt : buf.getD 0 0 = commandClassSecurity2 →
      buf.getD 1 0 = security2MessageEncapsulation → property (decryptMsg env src buf s).1)
    (hs : property s) : property (applicationCommandHandler env src buf s) := by
  have hverify := hclosed.verifySeq s src (buf.getD 2 0) hs
  unfold SecurityS2.applicationCommandHandler
  dsimp only
  split_ifs with hclass hget hshort hfresh hreport hencapsulation hbusy hmulticast
  · exact hs
  · exact hs
  · exact hclosed.sendNonceReport _ src sosBitMask hverify
  · exact hverify
  · exact hclosed.fsmPostEvent rfl hs
  · exact hclosed.handleEncapsulation hstores hencapsulation
      (hdecrypt (not_not.mp hclass) hencapsulation)
  · exact hs
  · exact hs
  · refine hclosed.hook _ _ (hstores s buf (.plain ?_ (by simpa using hmulticast)) hs)
    by_contra hneither
    exact hbusy (not_or.mp hneither)

end CallClosed

/-- The group of a call that sends a multicast. -/
def Call.multicastGroup : Call → Option UInt8
  | .sendDataMulticast con _ => some con.rNode.toUInt8
  | .sendDataWithKeyset con _ _ .sendMulticast => some con.rNode.toUInt8
  | _ => none

theorem convertNormalToLrKeyclass_rNode (con : Connection) :
    (convertNormalToLrKeyclass con).rNode = con.rNode := by
  unfold convertNormalToLrKeyclass
  split_ifs <;> rfl

/-- One call keeps the property, if what is left to the call does. -/
theorem CallClosed.enter {env : Env} {property : S2 → Prop} (hclosed : CallClosed env property)
    {s : S2} {call : Call}
    (hmulticast : ∀ con buf, call.multicastGroup = some con.rNode.toUInt8 →
      property (sendDataAllCast env con buf .sendMulticast s).1)
    (hdecrypt : ∀ src buf, call = .applicationCommandHandler src buf →
      buf.getD 0 0 = commandClassSecurity2 → buf.getD 1 0 = security2MessageEncapsulation →
      property (decryptMsg env src buf s).1)
    (hstores : ∀ t plain, call.Stores env s t plain → property t → property { t with buf := plain })
    (hs : property s) : property (enter env s call) := by
  have hkeys : ∀ t : S2, (∃ sg loadedKeys, t = { s with sg := sg, loadedKeys := loadedKeys }) →
      property t := by
    rintro t ⟨sg, loadedKeys, rfl⟩
    exact hclosed.keys s sg loadedKeys hs
  cases call with
  | sendData dst buf => exact hclosed.send s _ buf .sendMsg nofun hs
  | sendDataMulticast con buf => exact hmulticast con buf rfl
  | sendDataWithKeyset con keyset payload kind =>
    have hsend : ∀ con', con'.rNode = con.rNode →
        property (sendDataAllCast env con' payload kind s).1 := by
      intro con' hsame
      by_cases hkind : kind = .sendMulticast
      · subst hkind
        exact hmulticast con' payload (by rw [hsame]; rfl)
      · exact hclosed.send s con' payload kind hkind hs
    cases keyset with
    | zwave => exact hsend con rfl
    | zwaveLongRange => exact hsend _ (convertNormalToLrKeyclass_rNode con)
    | unknown => exact hs
  | sendFrameDoneNotify status time => exact hclosed.fsmPostEvent rfl hs
  | timeoutNotify => exact hclosed.fsmPostEvent rfl hs
  | applicationCommandHandler src buf =>
    exact hclosed.applicationCommandHandler hstores (hdecrypt src buf rfl) hs
  | networkKeyUpdate classId netKey tempKeyExpand =>
    exact hkeys _ (networkKeyUpdate_eq env classId netKey tempKeyExpand s)
  | restoreKeys keystore => exact hkeys _ (restoreKeys_eq env keystore s)
  | freeMpan ownerId groupId => exact hclosed.freeMpan s ownerId groupId hs
  | initPrng entropy => exact hclosed.initPrng s _ hs

/-! ### Properties of the tables -/

/-- The property is kept by the elementary changes of the state machine as well, and by the
callbacks. -/
structure TransmitClosed (env : Env) (property : S2 → Prop) :
    Prop extends QuietClosed property where
  machine : ∀ (s : S2) (fsm : FsmState), property s → property { s with fsm := fsm }
  logged : ∀ (s : S2) (act : Act), (∀ fromFrame, act ≠ .reseeded fromFrame) → property s →
    property (s.logged act)
  /-- It does not depend on the keys. -/
  keys : ∀ (s : S2) (sg : UInt8 → SecGroup) (loadedKeys : BitVec 8), property s →
    property { s with sg := sg, loadedKeys := loadedKeys }
  hook : ∀ (s : S2) (hook : Hook), property s → property (env.hook s hook)

namespace TransmitClosed

variable {env : Env} {property : S2 → Prop} (hclosed : TransmitClosed env property) {s : S2}
include hclosed

theorem reportClosed : ReportClosed env property where
  hook := hclosed.hook
  setTimeout s _ hs := hclosed.logged s _ nofun hs
  ended s _ _ hs :=
    hclosed.hook _ _ (hclosed.logged _ _ nofun (hclosed.hook _ _ (hclosed.machine s .idle hs)))

theorem sendRaw (frame : List UInt8) (encryption : Option Encryption) (hs : property s) :
    property (sendRaw env frame encryption s) := by
  have hlogged := hclosed.logged s (.sentFrame s.peer frame encryption) nofun hs
  unfold SecurityS2.sendRaw
  dsimp only
  split_ifs
  · exact hclosed.modifyFound env s.peer (fun span ↦ { span with txSeq := span.txSeq + 1 })
      (fun span _ ↦ ⟨rfl, rfl, Or.inl rfl⟩) hlogged
  · exact hclosed.reportClosed.fsmSendDone _ _ hlogged

theorem encryptAndSendMulti (current : Fin mpanTableSize) (hs : property s) :
    property (encryptAndSendMulti env current s) := by
  have hbuilt := hclosed.encapsulateMulti env current hs
  unfold SecurityS2.encryptAndSendMulti
  generalize SecurityS2.encapsulateMulti env current s = built at hbuilt ⊢
  obtain ⟨t, frame⟩ := built
  dsimp only
  split_ifs
  · exact hclosed.logged _ _ nofun hbuilt
  · exact hclosed.reportClosed.fsmSendDone _ _ hbuilt

theorem sendNonceReport (conn : Connection) (flags : UInt8) (hs : property s) :
    property (sendNonceReport env conn flags s) := by
  unfold SecurityS2.sendNonceReport
  have hused := findSpanByNode_used env conn s
  have hspan := hclosed.findSpanByNode env conn hs
  generalize SecurityS2.findSpanByNode env conn s = found at hused hspan ⊢
  obtain ⟨t, i⟩ := found
  dsimp only at hused hspan ⊢
  refine hclosed.logged _ _ nofun (hclosed.span _ _ _ ⟨rfl, rfl, Or.inl rfl⟩ ?_)
  split_ifs
  · refine hclosed.span (SecurityS2.random env t).2 i
      (fun span ↦ { span.setRNonce (SecurityS2.random env t).1 with state := .sosLocalNonce })
      ?_ (hclosed.random env hspan)
    exact moves_setRNonce _ .sosLocalNonce hused (by decide)
  · exact hspan

theorem encryptAndSend (hs : property s) : property (encryptAndSend env s) := by
  have hbuilt := hclosed.encapsulate env hs
  unfold SecurityS2.encryptAndSend
  dsimp only
  exact hclosed.sendRaw (SecurityS2.encapsulate env s).2 _ hbuilt

/-- The context in which `send_msg_state_enter` builds its frame. -/
theorem enterState (hs : property s) :
    property (if s.peer.txOptions &&& txVerifyDelivery ≠ 0 then
      setTimeout sendDataTimeout { s with fsm := .verifyingDelivery }
    else { s with fsm := .sendingMsg }) := by
  split_ifs
  · exact hclosed.reportClosed.setTimeout _ _ (hclosed.machine s _ hs)
  · exact hclosed.machine s _ hs

theorem sendMsgStateEnter (hs : property s) : property (sendMsgStateEnter env s) := by
  have hsent := hclosed.encryptAndSend (hclosed.enterState hs)
  unfold SecurityS2.sendMsgStateEnter
  dsimp only
  generalize SecurityS2.encryptAndSend env (if s.peer.txOptions &&& txVerifyDelivery ≠ 0 then
      setTimeout sendDataTimeout { s with fsm := .verifyingDelivery }
    else { s with fsm := .sendingMsg }) = sent at hsent ⊢
  exact hclosed.frame (s := sent) rfl rfl rfl rfl rfl hsent

theorem sendMulticast (con : Connection) (buf : List UInt8) (hfound : property
      (findMpanByGroupId env 0 con.rNode.toUInt8 (setPeer con buf s)).1) :
    property (fsmIdle env (.sendMulticast con buf) s) := by
  unfold fsmIdle
  dsimp only
  generalize findMpanByGroupId env 0 con.rNode.toUInt8 (setPeer con buf s) = found at hfound ⊢
  obtain ⟨t, i⟩ := found
  dsimp only at hfound ⊢
  refine hclosed.encryptAndSendMulti i (hclosed.machine { t with mpan := some i } .sendingMsg ?_)
  exact hclosed.frame (s := t) rfl rfl rfl rfl rfl hfound

/-- A singlecast, with the current group of the call. -/
theorem sendMsg (con : Connection) (buf : List UInt8) (hs : property s) :
    property (fsmIdle env (.sendMsg con buf) s) := by
  have hspan := hclosed.spanOk env con hs
  unfold fsmIdle
  dsimp only
  generalize SecurityS2.spanOk env con s = checked at hspan ⊢
  obtain ⟨t, ok⟩ := checked
  dsimp only at hspan ⊢
  split_ifs
  · exact hclosed.sendMsgStateEnter (hclosed.frame (s := t) rfl rfl rfl rfl rfl hspan)
  · have hwaits : property (setPeer con buf { t with fsm := .waitNonceRaport, retry := 2 }) :=
      hclosed.frame (s := { t with fsm := .waitNonceRaport }) rfl rfl rfl rfl rfl
        (hclosed.machine t _ hspan)
    exact hclosed.reportClosed.setTimeout _ _
      (hclosed.sendRaw _ _ (hclosed.findSpanByNode env con hwaits))

/-- A call of the `S2_send_data` family keeps the property, where an allocation of an MPAN entry for
a multicast does. -/
theorem sendDataAllCast (con : Connection) (buf : Option (List UInt8)) (kind : SendKind)
    (hmulticast : ∀ bytes, kind = .sendMulticast →
      property (findMpanByGroupId env 0 con.rNode.toUInt8 (setPeer con bytes s)).1)
    (hs : property s) : property (sendDataAllCast env con buf kind s).1 := by
  have hrequested : ∀ bytes, property (s.logged (.requested con bytes)) :=
    fun bytes ↦ hclosed.logged s _ nofun hs
  rcases sendDataAllCast_cases env con buf kind s with
    hcase | ⟨bytes, mpan, -, hcase⟩ | ⟨hkind, bytes, -, hcase⟩
  · rwa [hcase]
  · rw [hcase]
    refine hclosed.logged _ _ nofun (hclosed.sendMsg con bytes ?_)
    exact hclosed.frame (s := s.logged (.requested con bytes)) rfl rfl rfl rfl rfl
      (hrequested bytes)
  · have hfound := hclosed.logged _ (.requested con bytes) nofun (hmulticast bytes hkind)
    rw [← findMpanByGroupId_logged] at hfound
    rw [hcase]
    exact hclosed.logged _ _ nofun (hclosed.sendMulticast con bytes hfound)

theorem callClosed : CallClosed env property where
  toReportClosed := hclosed.reportClosed
  stopTimeout s hs := hclosed.logged s _ nofun hs
  verifySeq _ peer seq hs := hclosed.verifySeq env peer seq hs
  sendNonceReport _ con flags hs := hclosed.sendNonceReport con flags hs
  registerNonce _ buf hs := hclosed.registerNonce env buf hs
  setPeer s _ _ _ hs := hclosed.frame (s := s) rfl rfl rfl rfl rfl hs
  mosWait s con _ hs := hclosed.machine (setPeer con [] s) _
    (hclosed.frame (s := s) rfl rfl rfl rfl rfl hs)
  mosTimeout s _ hs := hclosed.machine { s with mpan := none } _
    (hclosed.frame (s := s) rfl rfl rfl rfl rfl hs)
  empty s _ hs := hclosed.frame (s := s) rfl rfl rfl rfl rfl hs
  again _ _ hs := hclosed.sendMsgStateEnter hs
  emptyAgain s _ _ hs :=
    hclosed.sendMsgStateEnter (hclosed.frame (s := s) rfl rfl rfl rfl rfl hs)
  send _ con buf kind hkind hs :=
    hclosed.sendDataAllCast con buf kind (fun _ heq ↦ absurd heq hkind) hs
  keys := hclosed.keys
  freeMpan s ownerId groupId hs := by
    unfold freeMpan
    split
    · exact hs
    · exact hclosed.mpan s _ _ ⟨rfl, rfl, rfl, fun hused ↦ absurd rfl hused⟩ hs
  initPrng s _ hs := hclosed.frame (s := s) rfl rfl rfl rfl rfl hs

/-- One call keeps the property, if the changes that are not elementary do: the allocation of an
MPAN entry for a multicast and the decryption of a frame. -/
theorem enter (call : Call)
    (hmulticast : ∀ (con : Connection) (bytes : List UInt8),
      call.multicastGroup = some con.rNode.toUInt8 →
      property (findMpanByGroupId env 0 con.rNode.toUInt8 (setPeer con bytes s)).1)
    (hdecrypt : ∀ src buf, call = .applicationCommandHandler src buf →
      buf.getD 0 0 = commandClassSecurity2 → buf.getD 1 0 = security2MessageEncapsulation →
      property (decryptMsg env src buf s).1)
    (hs : property s) : property (enter env s call) :=
  hclosed.callClosed.enter
    (fun con buf hgroup ↦
      hclosed.sendDataAllCast con buf .sendMulticast (fun bytes _ ↦ hmulticast con bytes hgroup) hs)
    hdecrypt (fun t _ _ ht ↦ hclosed.frame (s := t) rfl rfl rfl rfl rfl ht) hs

end TransmitClosed

end ZipGateway.SecurityS2
