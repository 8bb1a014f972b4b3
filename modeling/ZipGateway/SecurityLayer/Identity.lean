import ZipGateway.Lib.Block
import ZipGateway.Lib.Crc16
import ZipGateway.TsParam

/-!
# The identity of the gateway and the frames of the Security class

`security_CommandHandler` in `src/src/transport/security_layer.c` handles the frames of the Security
command class. What it decrypts goes to `ApplicationCommandHandlerZIP` in `src/src/ZIP_Router.c`,
which takes off more encapsulations and may come back to it. Outside of learn mode neither the node
id of the gateway nor a key may change with that. A Scheme Get changes the node id, before anything
is checked. `identity_iff` says for which frames it stays the same.

What the S0 layer and libs2 decrypt is an input here. Events that are raised, answers that are sent
and commands that are handed on to the command classes are kept in a log, the newest first; events
are looked at by `secure_poll` later.
-/

set_option autoImplicit false

namespace ZipGateway.SecurityLayer.Identity

open Lib

/-! ### Frames and state -/

/-- A received frame: the memory at `pCmd` and `cmdLength`. -/
structure Frame where
  cmd : ℕ → UInt8
  length : ℕ

def Frame.bytes (frame : Frame) : List UInt8 := (List.range frame.length).map frame.cmd

/-- What is left of a frame when `n` bytes are taken from its front, and counted as `length`
ones. -/
def Frame.behind (frame : Frame) (n length : ℕ) : Frame := ⟨fun i ↦ frame.cmd (n + i), length⟩

/-- The states of `Secure_learn` that the handler asks for. -/
inductive Region
  | idle
  | schemeReport
  | schemeRequest
  | other
deriving DecidableEq, Repr

/-- The learn events that the handler raises. -/
inductive Event
  | keySet
  | schemeGet
  | schemeInherit
  | schemeReport
  | keyVerify
  | commandsSupportedRequest
deriving DecidableEq, Repr

/-- What the handler does for the rest of the gateway. -/
inductive Act
  | s0Started
  | setScheme (scheme : UInt8)
  | setTxOptions (txOption : UInt8)
  | raise (event : Event) (param : TsParam)
  | sendNonce (snode dnode : UInt16)
  | registerNonce (param : TsParam) (nonce : List UInt8)
  | registerScheme (node : UInt16)
  | handedOn (param : TsParam) (frame : Frame)

/-- The keys that `sec0_set_key` installs. -/
structure S0Keys where
  authkey : Block
  enckey : Block
  authkeyz : Block
  enckeyz : Block

/-- The variables that the handler reads and writes. -/
structure State where
  myNodeID : UInt16
  networkKey : Block
  keys : S0Keys
  assignedKeys : UInt8
  region : Region
  log : List Act

/-- What the handler asks the rest of the gateway. A frame that is handled inside another is asked
about with a smaller number. -/
structure Env where
  aes : BlockCipher
  isNodeBad : UInt16 → Bool
  isNodeSecure : UInt16 → Bool
  /-- `sec0_decrypt_message`: the decrypted command. -/
  decrypt : ℕ → TsParam → Frame → Frame
  /-- A frame of Security 2: the command that libs2 takes out of it. -/
  security2 : ℕ → TsParam → Frame → Option (TsParam × Frame)

/-- The node id of the gateway, its network key and the installed keys are the same. -/
structure SameIdentity (s after : State) : Prop where
  myNodeID : after.myNodeID = s.myNodeID
  networkKey : after.networkKey = s.networkKey
  keys : after.keys = s.keys

/-- An entry of the log. -/
def State.note (act : Act) (s : State) : State := { s with log := act :: s.log }

/-! ### The handlers -/

def commandClassSecurity : UInt8 := 0x98

def commandClassSecurity2 : UInt8 := 0x9F

def commandClassCrc16Encap : UInt8 := 0x56

def commandClassTransportService : UInt8 := 0x55

def commandClassMultiChannelV2 : UInt8 := 0x60

def securityScheme0 : UInt8 := 7

def useCrc16 : UInt8 := 0xFD

def keyClassS0 : UInt8 := 0x80

def securityCommandsSupportedReport : UInt8 := 0x03

def security2CommandsSupportedReport : UInt8 := 0x0E

/-- The commands of the class, by their numbers. -/
inductive Command
  | networkKeySet
  | schemeGet
  | schemeInherit
  | schemeReport
  | networkKeyVerify
  | commandsSupportedGet
  | nonceGet
  | nonceReport
  | messageEncapsulation
  | messageEncapsulationNonceGet
deriving DecidableEq, Repr

/-- The labels of the `switch`. -/
def Command.ofCmd (cmd : UInt8) : Option Command :=
  match cmd.toNat with
  | 0x06 => some .networkKeySet
  | 0x04 => some .schemeGet
  | 0x08 => some .schemeInherit
  | 0x05 => some .schemeReport
  | 0x07 => some .networkKeyVerify
  | 0x02 => some .commandsSupportedGet
  | 0x40 => some .nonceGet
  | 0x80 => some .nonceReport
  | 0x81 => some .messageEncapsulation
  | 0xC1 => some .messageEncapsulationNonceGet
  | _ => none

/-- `sec0_set_key`. -/
def sec0SetKey (aes : BlockCipher) (netkey : Block) : S0Keys where
  authkey := aes netkey (Vector.replicate 16 0x55)
  enckey := aes netkey (Vector.replicate 16 0xAA)
  authkeyz := aes zeroBlock (Vector.replicate 16 0x55)
  enckeyz := aes zeroBlock (Vector.replicate 16 0xAA)

/-- `txOption`. -/
def txOption (p : TsParam) : UInt8 :=
  (if p.rxFlags &&& transmitOptionLowPower ≠ 0 then transmitOptionLowPower else 0) |||
    transmitOptionAck ||| transmitOptionExplore

/-- The schemes of a Scheme Get or of a Scheme Report, as they are stored. -/
def schemesOf (frame : Frame) : UInt8 := frame.cmd 2 &&& 0xFE ||| 1

section Handlers

variable (env : Env)

/-- A frame is dropped because one of its nodes is known to be bad. -/
def badNode (p : TsParam) (s : State) : Prop :=
  s.region = .idle ∧ (env.isNodeBad p.dnode = true ∨ env.isNodeBad p.snode = true)

instance (p : TsParam) (s : State) : Decidable (badNode env p s) :=
  inferInstanceAs (Decidable (_ ∧ _))

/-- The cases `SECURITY_MESSAGE_ENCAPSULATION` and `SECURITY_MESSAGE_ENCAPSULATION_NONCE_GET`. The
argument `zip` is `ApplicationCommandHandlerZIP`. -/
def messageEncapsulation (depth : ℕ) (zip : TsParam → Frame → State → State) (nonceGet : Bool)
    (p : TsParam) (frame : Frame) (s : State) : State :=
  if badNode env p s then s
  else
    let inner := env.decrypt depth p frame
    let opened := decide (inner.length ≠ 0)
    let s :=
      if opened then
        zip { p with scheme := securityScheme0 } inner
          (if env.isNodeSecure p.snode then s else s.note (.registerScheme p.snode))
      else s
    if nonceGet then s.note (.sendNonce p.snode p.dnode) else s

/-- `security_CommandHandler`; `cmdLength` is a byte. -/
def securityCommandHandler (depth : ℕ) (zip : TsParam → Frame → State → State) (p : TsParam)
    (frame : Frame) (s : State) : State :=
  let cmdLength := frame.length % 256
  if frame.cmd 0 ≠ commandClassSecurity ∧ p.dnode ≠ s.myNodeID then s
  else if s.region = .idle ∧ s.assignedKeys &&& keyClassS0 = 0 then s
  else
    match Command.ofCmd (frame.cmd 1) with
    | some .networkKeySet =>
      if p.scheme = securityScheme0 ∧ s.region = .schemeReport ∧ 18 ≤ cmdLength then
        let netkey : Block := Vector.ofFn fun i ↦ frame.cmd (2 + i.val)
        ({ s with networkKey := netkey, keys := sec0SetKey env.aes netkey }.note
          (.setTxOptions (txOption p))).note
          (.raise .keySet p)
      else s
    | some .schemeGet =>
      let s := { s.note .s0Started with myNodeID := p.dnode }
      if p.scheme = noScheme ∧ 3 ≤ cmdLength then
        ((s.note (.setScheme (schemesOf frame))).note (.setTxOptions (txOption p))).note
          (.raise .schemeGet p)
      else s
    | some .schemeInherit =>
      if p.scheme = securityScheme0 ∧ 3 ≤ cmdLength ∧ frame.cmd 2 &&& 1 = 0 then
        (s.note (.setTxOptions (txOption p))).note (.raise .schemeInherit p)
      else s
    | some .schemeReport =>
      if (p.scheme = securityScheme0 ∨ s.region = .schemeRequest) ∧ 3 ≤ cmdLength then
        (s.note (.setScheme (schemesOf frame))).note (.raise .schemeReport p)
      else s
    | some .networkKeyVerify =>
      if p.scheme = securityScheme0 then s.note (.raise .keyVerify p) else s
    | some .commandsSupportedGet =>
      if p.scheme = securityScheme0 then s.note (.raise .commandsSupportedRequest p) else s
    | some .nonceGet => if p.scheme = noScheme then s.note (.sendNonce p.snode p.dnode) else s
    | some .nonceReport =>
      if p.scheme = noScheme ∧ 10 ≤ cmdLength then
        s.note (.registerNonce p ((List.range 8).map fun i ↦ frame.cmd (2 + i)))
      else s
    | some .messageEncapsulation =>
      messageEncapsulation env depth zip false p ⟨frame.cmd, cmdLength⟩ s
    | some .messageEncapsulationNonceGet =>
      messageEncapsulation env depth zip true p ⟨frame.cmd, cmdLength⟩ s
    | none => s

/-- What `ApplicationCommandHandlerZIP` does with a frame. -/
inductive Disposal
  | dropped
  /-- The frame is an encapsulation, and this is in it. -/
  | unwrapped (param : TsParam) (frame : Frame)
  | security
  | handedOn (param : TsParam)

/-- The `switch` of `ApplicationCommandHandlerZIP`. -/
def dispose (depth : ℕ) (myNodeID : UInt16) (p : TsParam) (frame : Frame) : Disposal :=
  let cmdClass := frame.cmd 0
  if frame.length = 0 then .dropped
  else if cmdClass = commandClassCrc16Encap then
    if frame.cmd 1 ≠ 1 ∨ p.scheme ≠ noScheme then .dropped
    else if crc16 0x1021 0x1D0F frame.bytes = 0 then
      .unwrapped { p with scheme := useCrc16 } (frame.behind 2 ((frame.length + 65536 - 4) % 65536))
    else .dropped
  else if cmdClass = commandClassSecurity then
    if env.isNodeBad p.snode then .dropped
    else if frame.cmd 1 ≠ securityCommandsSupportedReport then .security
    else .handedOn p
  else if cmdClass = commandClassSecurity2 then
    if env.isNodeBad p.snode then .dropped
    else if frame.cmd 1 ≠ security2CommandsSupportedReport then
      (env.security2 depth p frame).elim .dropped fun inner ↦ .unwrapped inner.1 inner.2
    else .handedOn p
  else if cmdClass = commandClassTransportService ∧ p.scheme ≠ noScheme then .dropped
  else if cmdClass = commandClassMultiChannelV2 ∧ frame.cmd 1 = 0x0D ∧ 4 < frame.length then
    let p := { p with sendpoint := frame.cmd 2, dendpoint := frame.cmd 3 }
    if p.dnode = myNodeID ∧ 0 < p.dendpoint ∨ p.dendpoint &&& 0x80 ≠ 0 then .dropped
    else .unwrapped p (frame.behind 4 (frame.length - 4))
  else .handedOn p

/-- `ApplicationCommandHandlerZIP`, for at most `depth` frames one in the other. -/
def applicationCommandHandlerZIP : ℕ → TsParam → Frame → State → State
  | 0, _, _, s => s
  | depth + 1, p, frame, s =>
    match dispose env depth s.myNodeID p frame with
    | .dropped => s
    | .unwrapped param inner => applicationCommandHandlerZIP depth param inner s
    | .security => securityCommandHandler env depth (applicationCommandHandlerZIP depth) p frame s
    | .handedOn param => s.note (.handedOn param frame)

end Handlers

/-! ### The Scheme Get in a frame -/

section SchemeGet

variable (env : Env)

/-- What is in a frame of the class: the node that a Scheme Get is for, or a command to look
into. -/
def schemeGetIn (depth : ℕ) (zip : TsParam → Frame → Option UInt16) (p : TsParam) (frame : Frame) :
    Option UInt16 :=
  match Command.ofCmd (frame.cmd 1) with
  | some .schemeGet => some p.dnode
  | some .messageEncapsulation | some .messageEncapsulationNonceGet =>
    let inner := env.decrypt depth p ⟨frame.cmd, frame.length % 256⟩
    if env.isNodeBad p.dnode ∨ env.isNodeBad p.snode ∨ inner.length = 0 then none
    else zip { p with scheme := securityScheme0 } inner
  | _ => none

/-- The node that a Scheme Get is for which stands in a frame, however deep. -/
def schemeGetNode (myNodeID : UInt16) : ℕ → TsParam → Frame → Option UInt16
  | 0, _, _ => none
  | depth + 1, p, frame =>
    match dispose env depth myNodeID p frame with
    | .unwrapped param inner => schemeGetNode myNodeID depth param inner
    | .security => schemeGetIn env depth (schemeGetNode myNodeID depth) p frame
    | .dropped | .handedOn _ => none

end SchemeGet

/-! ### The identity -/

/-- The states outside of learn mode where S0 frames are looked at. -/
structure Listening (s : State) : Prop where
  idle : s.region = .idle
  assigned : s.assignedKeys &&& keyClassS0 ≠ 0

/-- Everything is the same, except that the node id has been set when there is a node to set it
to. -/
structure Moves (node : Option UInt16) (s after : State) : Prop where
  myNodeID : after.myNodeID = node.getD s.myNodeID
  networkKey : after.networkKey = s.networkKey
  keys : after.keys = s.keys

theorem Moves.note {node : Option UInt16} {s after : State} (act : Act) (h : Moves node s after) :
    Moves node s (after.note act) :=
  ⟨h.myNodeID, h.networkKey, h.keys⟩

theorem Moves.refl (s : State) : Moves none s s := ⟨rfl, rfl, rfl⟩

theorem Listening.note {s : State} (act : Act) (h : Listening s) : Listening (s.note act) :=
  ⟨h.idle, h.assigned⟩

/-- The frames inside are handled as `node` says. -/
def Follows (zip : TsParam → Frame → State → State)
    (node : UInt16 → TsParam → Frame → Option UInt16) : Prop :=
  ∀ p frame s, Listening s → Moves (node s.myNodeID p frame) s (zip p frame s)

section Handlers

variable {env : Env} {depth : ℕ} {zip : TsParam → Frame → State → State}
  {node : UInt16 → TsParam → Frame → Option UInt16}

theorem moves_messageEncapsulation (hzip : Follows zip node) (nonceGet : Bool) (p : TsParam)
    (frame : Frame) {s : State} (hs : Listening s) :
    Moves (if env.isNodeBad p.dnode ∨ env.isNodeBad p.snode ∨
      (env.decrypt depth p frame).length = 0 then none
        else node s.myNodeID { p with scheme := securityScheme0 } (env.decrypt depth p frame)) s
      (messageEncapsulation env depth zip nonceGet p frame s) := by
  unfold messageEncapsulation
  by_cases hbad : badNode env p s
  · have hnone : env.isNodeBad p.dnode ∨ env.isNodeBad p.snode ∨
        (env.decrypt depth p frame).length = 0 :=
      hbad.2.elim .inl fun h ↦ .inr (.inl h)
    rw [if_pos hbad, if_pos hnone]
    exact .refl s
  have hgood : ¬ (env.isNodeBad p.dnode = true ∨ env.isNodeBad p.snode = true) :=
    fun h ↦ hbad ⟨hs.idle, h⟩
  rw [if_neg hbad]
  -- what is inside is handled first, then a nonce may be sent
  suffices hinner : Moves _ s (if decide ((env.decrypt depth p frame).length ≠ 0) = true then
      zip { p with scheme := securityScheme0 } (env.decrypt depth p frame)
        (if env.isNodeSecure p.snode then s else s.note (.registerScheme p.snode)) else s) by
    cases nonceGet
    · simpa using hinner
    · simpa using hinner.note _
  by_cases hlength : (env.decrypt depth p frame).length = 0
  · simpa [hlength] using Moves.refl s
  · have hcond : ¬ (env.isNodeBad p.dnode = true ∨ env.isNodeBad p.snode = true ∨
        (env.decrypt depth p frame).length = 0) := by
      rintro (h | h | h)
      · exact hgood (.inl h)
      · exact hgood (.inr h)
      · exact hlength h
    rw [if_neg hcond, if_pos (by simpa using hlength)]
    split
    · exact hzip _ _ s hs
    · obtain ⟨hid, hkey, hkeys⟩ := hzip { p with scheme := securityScheme0 }
        (env.decrypt depth p frame) _ (hs.note (.registerScheme p.snode))
      exact ⟨hid, hkey, hkeys⟩

/-- A frame of the class: the node id is set by the Scheme Get in it. -/
theorem moves_securityCommandHandler (hzip : Follows zip node) (p : TsParam) (frame : Frame)
    (hclass : frame.cmd 0 = commandClassSecurity) {s : State} (hs : Listening s) :
    Moves (schemeGetIn env depth (node s.myNodeID) p frame) s
      (securityCommandHandler env depth zip p frame s) := by
  have hregion := hs.idle
  simp only [securityCommandHandler, schemeGetIn, hclass, ne_eq, not_true_eq_false,
    false_and, if_false, hs.assigned, and_false]
  cases hcommand : Command.ofCmd (frame.cmd 1) with
  | none => exact .refl s
  | some command =>
    cases command with
    | networkKeySet => simpa [hregion] using Moves.refl s
    | schemeGet =>
      simp only
      split
      · exact ⟨rfl, rfl, rfl⟩
      · exact ⟨rfl, rfl, rfl⟩
    | messageEncapsulation => exact moves_messageEncapsulation hzip false p _ hs
    | messageEncapsulationNonceGet => exact moves_messageEncapsulation hzip true p _ hs
    | schemeInherit | schemeReport | networkKeyVerify | commandsSupportedGet | nonceGet
    | nonceReport =>
      simp only
      split
      · exact ⟨rfl, rfl, rfl⟩
      · exact .refl s

theorem class_of_dispose {p : TsParam} {frame : Frame} {myNodeID : UInt16}
    (h : dispose env depth myNodeID p frame = .security) : frame.cmd 0 = commandClassSecurity := by
  by_contra hclass
  simp only [dispose, if_neg hclass] at h
  cases hopened : env.security2 depth p frame with
  | none =>
    simp only [hopened, Option.elim_none] at h
    repeat' split at h
    all_goals exact absurd h (by simp)
  | some inner =>
    simp only [hopened, Option.elim_some] at h
    repeat' split at h
    all_goals exact absurd h (by simp)

/-- The frames inside: by induction on how many stand one in the other. -/
theorem follows_applicationCommandHandlerZIP (env : Env) (depth : ℕ) :
    Follows (applicationCommandHandlerZIP env depth)
      (fun myNodeID ↦ schemeGetNode env myNodeID depth) := by
  induction depth with
  | zero => exact fun _ _ s _ ↦ .refl s
  | succ depth ih =>
    intro p frame s hs
    simp only [applicationCommandHandlerZIP, schemeGetNode]
    cases hdispose : dispose env depth s.myNodeID p frame with
    | dropped => exact .refl s
    | unwrapped param inner => exact ih param inner s hs
    | security => exact moves_securityCommandHandler ih p frame (class_of_dispose hdispose) hs
    | handedOn param => exact (Moves.refl s).note _

end Handlers

/-- The identity stays the same exactly when no Scheme Get for another node stands in the frame, or
no S0 key is assigned. -/
theorem identity_iff (env : Env) (depth : ℕ) (p : TsParam) (frame : Frame) (s : State)
    (hclass : frame.cmd 0 = commandClassSecurity) (hidle : s.region = .idle) :
    SameIdentity s
      (securityCommandHandler env depth (applicationCommandHandlerZIP env depth) p frame s) ↔
      (s.assignedKeys &&& keyClassS0 ≠ 0 →
        ∀ node, schemeGetIn env depth (schemeGetNode env s.myNodeID depth) p frame = some node →
          node = s.myNodeID) := by
  by_cases hassigned : s.assignedKeys &&& keyClassS0 = 0
  · refine iff_of_true ?_ fun h ↦ absurd hassigned h
    simpa [securityCommandHandler, hclass, hidle,
      hassigned] using (⟨rfl, rfl, rfl⟩ : SameIdentity s s)
  · have hmoves : Moves (schemeGetIn env depth (schemeGetNode env s.myNodeID depth) p frame) s
        (securityCommandHandler env depth (applicationCommandHandlerZIP env depth) p frame s) :=
      moves_securityCommandHandler (follows_applicationCommandHandlerZIP env depth) p frame hclass
        ⟨hidle, hassigned⟩
    constructor
    · intro h _ node hnode
      have hid := hmoves.myNodeID
      rw [hnode, h.myNodeID] at hid
      exact hid.symm
    · intro h
      refine ⟨?_, hmoves.networkKey, hmoves.keys⟩
      rw [hmoves.myNodeID]
      cases hnode : schemeGetIn env depth (schemeGetNode env s.myNodeID depth) p frame with
      | none => rfl
      | some node => exact h hassigned node hnode

/-- A gateway with node id 1 and an S0 key, in state `Idle`. -/
def idleState : State where
  myNodeID := 1
  networkKey := zeroBlock
  keys := sec0SetKey xorBlock zeroBlock
  assignedKeys := keyClassS0
  region := .idle
  log := []

/-- Nothing can be decrypted. -/
def sampleEnv : Env where
  aes := xorBlock
  isNodeBad := fun _ ↦ false
  isNodeSecure := fun _ ↦ true
  decrypt := fun _ _ frame ↦ ⟨frame.cmd, 0⟩
  security2 := fun _ _ _ ↦ none

/-- A frame from node 5 to node 10, without security. -/
def fromFive : TsParam := ⟨5, 10, 0, 0, 0, 0, noScheme⟩

/-- A frame of the class with three bytes. -/
def classFrame (cmd : UInt8) : Frame := ⟨fun i ↦ [commandClassSecurity, cmd, 0].getD i 0, 3⟩

/-- A Nonce Get to a virtual node. -/
theorem identity_iff_nonceGet :
    SameIdentity idleState
      (securityCommandHandler sampleEnv 1 (applicationCommandHandlerZIP sampleEnv 1) fromFive
        (classFrame 0x40)
        idleState) :=
  (identity_iff sampleEnv 1 fromFive (classFrame 0x40) idleState rfl rfl).mpr fun _ node hnode ↦ by
    simp [schemeGetIn, classFrame, Command.ofCmd] at hnode

/-- A Scheme Get to a virtual node gives its id to the gateway. -/
theorem identity_fail : ¬ ∀ (env : Env) (depth : ℕ) (p : TsParam) (frame : Frame) (s : State),
    frame.cmd 0 = commandClassSecurity → s.region = .idle →
      SameIdentity s
        (securityCommandHandler env depth (applicationCommandHandlerZIP env depth) p frame s) := by
  intro h
  have hsame := h sampleEnv 1 fromFive (classFrame 0x04) idleState rfl rfl
  have hmoved :
      (securityCommandHandler sampleEnv 1 (applicationCommandHandlerZIP sampleEnv 1) fromFive
      (classFrame 0x04) idleState).myNodeID = 10 := by decide
  exact absurd (hmoved.symm.trans hsame.myNodeID) (by decide)

end ZipGateway.SecurityLayer.Identity
