import ZipGateway.SecurityS2.Changes
import ZipGateway.UdpServer.Options

/-!
# The S2 wrapper: receiving

`S2_msg_received_event` of `src/src/transport/S2_wrap.c` gives a decrypted command to
`ApplicationCommandHandlerZIP`. It finds the security scheme of the command in a table of three
entries, at the class that `S2_decrypt_msg` left in the connection. `received` is what a received
encapsulation makes it pass on.

The class of a frame is said here without the loop over the classes: `opening` is the first class,
in the order in which they are tried, whose key authenticates the frame. `received_eq` says that the
decryptor leaves this class in the connection. It may be a slot of the inclusion or, for a frame of
a node that is not a long range node, a long range class, and the table has no entry for these.
`received_faithful_iff` says that the scheme is right for all frames but these.
-/

set_option autoImplicit false

namespace ZipGateway.S2Wrap

open ZipGateway.Lib ZipGateway.SecurityS2 ZipGateway.UdpServer

/-! ### `S2_msg_received_event` -/

/-- What `ApplicationCommandHandlerZIP` is called with. The scheme is missing when it was read from
the memory behind the table. -/
structure Delivery where
  scheme : Option UInt8
  snode : UInt16
  dnode : UInt16
  command : List UInt8
deriving DecidableEq

/-- `scheme_map`. -/
def schemeMap : List UInt8 :=
  [securityScheme2Unauthenticated, securityScheme2Authenticated, securityScheme2Access]

/-- `S2_msg_received_event`. -/
def s2MsgReceivedEvent (src : Connection) (buf : List UInt8) : Delivery where
  scheme := schemeMap[src.classId.toNat]?
  snode := src.rNode
  dnode := src.lNode
  command := buf

/-- A decrypted command that `S2_application_command_handler` does not keep for itself: it is not
empty, and it is not a Security 2 command other than a report of the supported commands. -/
def ForApplication (plainText tag : List UInt8) : Prop :=
  plainText ≠ [] ∧ ¬ (plainText.getD 0 0 = commandClassSecurity2 ∧
    (plainText ++ tag).getD 1 0 ≠ security2CommandsSupportedReport)

instance (plainText tag : List UInt8) : Decidable (ForApplication plainText tag) :=
  inferInstanceAs (Decidable (_ ∧ ¬ _))

/-- The connection that `S2_msg_received_event` sees. -/
def externalClass (src : Connection) : Connection :=
  if isLrNode src.rNode then convertLrToNormalKeyclass src else src

/-- What a received encapsulation makes `S2_msg_received_event` pass on. -/
def received (env : Env) (src : Connection) (buf : List UInt8) (s : S2) : Option Delivery :=
  match decryptMsg env src buf s with
  | (_, src, .authOk plainText) =>
    if ForApplication plainText (msgTag buf) then
      some (s2MsgReceivedEvent (externalClass src) plainText)
    else none
  | _ => none

/-! ### The class of a frame -/

/-- The context before an attempt of the class loop, when those before it have failed. -/
def attemptState (env : Env) (i : Fin spanTableSize) (nonces : Option (Block × Block))
    (aad ciphertext : List UInt8) : ℕ → S2 → S2
  | 0, s => s
  | turn + 1, s =>
    attemptState env i nonces aad ciphertext turn
      (nextClass env i nonces (attemptClass env i aad ciphertext s).1)

/-- The class of an attempt and the plaintext, when its key authenticates the frame. -/
def openedAt (env : Env) (i : Fin spanTableSize) (nonces : Option (Block × Block))
    (aad ciphertext : List UInt8) (s : S2) (turn : ℕ) : Option (UInt8 × List UInt8) :=
  let attempted := attemptState env i nonces aad ciphertext turn s
  let plain := (attemptClass env i aad ciphertext attempted).2
  if plain ≠ [] then some ((attempted.spanTable i).classId, plain) else none

/-- The classes that are tried: that of the SPAN only, unless its generator was just seeded and the
ciphertext could be kept. -/
def attempts (i : Fin spanTableSize) (s : S2) : ℕ :=
  if s.fsm ≠ .idle ∨ (s.spanTable i).state = .negotiated then 1 else nSecClass

/-- The first class whose key authenticates a singlecast, with the plaintext. -/
def openSinglecast (env : Env) (i : Fin spanTableSize) (nonces : Option (Block × Block))
    (aad ciphertext : List UInt8) (s : S2) : Option (UInt8 × List UInt8) :=
  (List.range (attempts i s)).findSome? (openedAt env i nonces aad ciphertext s)

/-- The class of an MPAN when its key authenticates a multicast, with the plaintext. -/
def openMulticast (env : Env) (j : Fin mpanTableSize) (aad ciphertext : List UInt8) (s : S2) :
    Option (UInt8 × List UInt8) :=
  let entry := s.mpanTable j
  let plain := ccmDecryptAndAuth (env.aes (s.sg entry.classId).encKey)
    (env.aes (s.sg entry.classId).mpanKey entry.innerState) aad ciphertext
  if plain ≠ [] then some (entry.classId, plain) else none

/-- The ciphertext is kept for further attempts. -/
def keepCiphertext (i : Fin spanTableSize) (ciphertext : List UInt8) (s : S2) : S2 :=
  if s.fsm = .idle ∧ (s.spanTable i).state = .instantiate then
    { s with workbuf := writeBuf s.workbuf 0 ciphertext }
  else s

/-- The class whose key authenticates a frame behind its clear extensions, with the plaintext. -/
def openParsed (env : Env) (src : Connection) (span : Option (Fin spanTableSize))
    (msg : List UInt8) (hdrLen : ℕ) (state : ClearState) : Option (UInt8 × List UInt8) :=
  match decryptable src span state with
  | none => none
  | some conn =>
    let aad := makeAad state.s.myHomeId conn.rNode conn.lNode (msg.take hdrLen) msg.length
    let ciphertext := msg.drop hdrLen
    if aad = [] then none
    else
      match span, state.mpan with
      | some i, _ =>
        openSinglecast env i state.nonces aad ciphertext (keepCiphertext i ciphertext state.s)
      | none, some j => openMulticast env j aad ciphertext state.s
      | none, none => none

/-- The class whose key authenticates a frame, with the plaintext. -/
def opening (env : Env) (src : Connection) (msg : List UInt8) (s : S2) :
    Option (UInt8 × List UInt8) :=
  if msg.length < 4 + authTagLen then none
  else
    match decryptSpan env src msg s with
    | (_, none) => none
    | (s, some span) =>
      match parseClear env src span msg ⟨s, none, none⟩ with
      | (_, none) => none
      | (state, some hdrLen) => openParsed env src span msg hdrLen state

/-- One encrypted extension without a context: the loop goes on. -/
def shapeEncrypted (multicast : Bool) (ext : List UInt8) (_ : Unit) : Unit × Bool :=
  ((), if extType ext = typeMpan then !(multicast || extLen ext != 19) else !extCritical ext)

/-- The command in the plaintext of a frame, behind the encrypted extensions. -/
def commandOf (src : Connection) (msg plain : List UInt8) : Option (List UInt8) :=
  (if msg.getD 3 0 &&& encryptedExtensionBitMask ≠ 0 then
    (parseExtensions plain.length (shapeEncrypted src.isMulticast) (msg.length + 1) 0
      (plain ++ msgTag msg) ()).2
  else some 0).map plain.drop

/-! ### The decryptor leaves the class in the connection -/

/-- The result of a decryption is that of the class that authenticates the frame. -/
def Decrypts (found : Option (UInt8 × List UInt8)) (conn : Connection)
    (result : Connection × List UInt8) : Prop :=
  match found with
  | none => result.2 = []
  | some (classId, plain) =>
    plain ≠ [] ∧ result.2 = plain ∧ result.1.classId = classId ∧ result.1.rNode = conn.rNode ∧
      result.1.isMulticast = conn.isMulticast

theorem Decrypts.of_same {found : Option (UInt8 × List UInt8)} {conn src : Connection}
    {result : Connection × List UInt8} (hdecrypts : Decrypts found conn result)
    (hnode : conn.rNode = src.rNode) (hmulticast : conn.isMulticast = src.isMulticast) :
    Decrypts found src result := by
  match found, hdecrypts with
  | none, hempty => exact hempty
  | some _, ⟨hplain, hresult, hclass, hnode', hmulticast'⟩ =>
    exact ⟨hplain, hresult, hclass, hnode'.trans hnode, hmulticast'.trans hmulticast⟩

theorem isMulticast_followup (conn : Connection) :
    { conn with rxOptions := conn.rxOptions ||| rxFollowup }.isMulticast = conn.isMulticast := by
  have hbits :
      (conn.rxOptions ||| rxFollowup) &&& rxMulticast = conn.rxOptions &&& rxMulticast := by
    apply UInt8.toBitVec_inj.mp
    rw [UInt8.toBitVec_and, UInt8.toBitVec_or, BitVec.and_or_distrib_right, UInt8.toBitVec_and]
    exact BitVec.or_zero
  rw [Connection.isMulticast, Connection.isMulticast, hbits]

section ClassLoop

variable (env : Env) (conn : Connection) (i : Fin spanTableSize) (mpan : Option (Fin mpanTableSize))
  (nonces : Option (Block × Block)) (aad ciphertext : List UInt8)

theorem attemptClass_frame (s : S2) :
    (attemptClass env i aad ciphertext s).1.fsm = s.fsm ∧
      ((attemptClass env i aad ciphertext s).1.spanTable i).classId = (s.spanTable i).classId ∧
      ((attemptClass env i aad ciphertext s).1.spanTable i).state = (s.spanTable i).state := by
  unfold attemptClass
  dsimp only
  split_ifs
  · simp [S2.modifySpan]
  · exact ⟨rfl, rfl, rfl⟩

theorem attempts_next (s : S2) :
    attempts i (nextClass env i nonces (attemptClass env i aad ciphertext s).1) = attempts i s := by
  obtain ⟨hfsm, -, hstate⟩ := attemptClass_frame env i aad ciphertext s
  have hstate' :
      ((nextClass env i nonces (attemptClass env i aad ciphertext s).1).spanTable i).state =
      (s.spanTable i).state := by
    rw [← hstate]
    simp [nextClass, S2.logged]
  rw [attempts, attempts, hstate', ← hfsm]
  rfl

theorem followUp_conn (s : S2) :
    (SecurityS2.followUp env conn mpan s).2.classId = conn.classId ∧
      (SecurityS2.followUp env conn mpan s).2.rNode = conn.rNode ∧
      (SecurityS2.followUp env conn mpan s).2.isMulticast = conn.isMulticast := by
  unfold SecurityS2.followUp
  split
  · exact ⟨rfl, rfl, rfl⟩
  · dsimp only
    split_ifs
    · exact ⟨rfl, rfl, isMulticast_followup conn⟩
    · exact ⟨rfl, rfl, isMulticast_followup conn⟩

theorem findSome?_openedAt_succ (s : S2) (n : ℕ) :
    (List.range (n + 1)).findSome? (openedAt env i nonces aad ciphertext s) =
      match openedAt env i nonces aad ciphertext s 0 with
      | some found => some found
      | none => (List.range n).findSome? (openedAt env i nonces aad ciphertext
          (nextClass env i nonces (attemptClass env i aad ciphertext s).1)) := by
  rw [List.range_succ_eq_map, List.findSome?_cons, List.findSome?_map]
  cases openedAt env i nonces aad ciphertext s 0 with
  | none => rfl
  | some found => rfl

/-- The class loop stops at the first class that authenticates the frame. -/
theorem tryClasses_decrypts (turns : ℕ) (hturns : turns ≤ nSecClass) (s : S2) :
    Decrypts ((List.range (min (attempts i s) turns)).findSome?
        (openedAt env i nonces aad ciphertext s)) conn
      (tryClasses env conn i mpan nonces aad ciphertext turns s).2 := by
  induction turns generalizing s with
  | zero =>
    rw [Nat.min_zero]
    rfl
  | succ turns ih =>
    obtain ⟨hfsm, hclass, hstate⟩ := attemptClass_frame env i aad ciphertext s
    have hpos : 1 ≤ attempts i s := by
      unfold attempts
      split_ifs
      · exact le_refl 1
      · decide
    obtain ⟨rest, hrest⟩ : ∃ rest, min (attempts i s) (turns + 1) = rest + 1 :=
      Nat.exists_eq_add_of_le' (le_min hpos (Nat.le_add_left 1 turns))
    rw [hrest, findSome?_openedAt_succ, tryClasses]
    dsimp only
    by_cases hplain : (attemptClass env i aad ciphertext s).2 ≠ []
    · have hopened : openedAt env i nonces aad ciphertext s 0 =
          some ((s.spanTable i).classId, (attemptClass env i aad ciphertext s).2) := if_pos hplain
      rw [hopened, if_pos hplain]
      obtain ⟨hclass', hnode, hmulticast⟩ := followUp_conn env
        { conn with classId := (((attemptClass env i aad ciphertext s).1.modifySpan i fun span ↦
          { span with state := .negotiated }).spanTable i).classId } mpan
        ((attemptClass env i aad ciphertext s).1.modifySpan i fun span ↦
          { span with state := .negotiated })
      refine ⟨hplain, rfl, ?_, hnode, hmulticast⟩
      rw [hclass', modifySpan_same]
      exact hclass
    · have hopened : openedAt env i nonces aad ciphertext s 0 = none := if_neg hplain
      rw [hopened, if_neg hplain]
      by_cases hstop : s.fsm ≠ .idle ∨ (s.spanTable i).state = .negotiated
      · have hone : attempts i s = 1 := if_pos hstop
        obtain rfl : rest = 0 := by omega
        rw [if_pos (by rw [hfsm, hstate]; exact hstop)]
        rfl
      · have hall : attempts i s = nSecClass := if_neg hstop
        have hnext := ih (by omega)
          (nextClass env i nonces (attemptClass env i aad ciphertext s).1)
        rw [attempts_next, hall, Nat.min_eq_right (by omega)] at hnext
        obtain rfl : rest = turns := by omega
        rw [if_neg (by rw [hfsm, hstate]; exact hstop)]
        exact hnext

end ClassLoop

section Frame

variable (env : Env) (src : Connection) (msg : List UInt8)

/-- What `S2_decrypt_msg` makes of a frame, by the class that authenticates it. -/
def Results (found : Option (UInt8 × List UInt8)) (result : S2 × Connection × DecryptResult) :
    Prop :=
  match found with
  | none => ∀ plainText, result.2.2 ≠ .authOk plainText
  | some (classId, plain) =>
    match commandOf src msg plain with
    | none => ∀ plainText, result.2.2 ≠ .authOk plainText
    | some command =>
      result.2.2 = .authOk command ∧ result.2.1.classId = classId ∧ result.2.1.rNode = src.rNode

/-- The class and the node of a connection are those of another, and both or none are multicasts. -/
structure SameFrame (classId : UInt8) (conn : Connection) : Prop where
  classId : conn.classId = classId
  rNode : conn.rNode = src.rNode
  isMulticast : conn.isMulticast = src.isMulticast

theorem encryptedExtension_shape (spanClass classId : UInt8) (ext : List UInt8)
    (state : S2 × Connection) (hsame : SameFrame src classId state.2) :
    SameFrame src classId (encryptedExtension env spanClass ext state).1.2 ∧
      (encryptedExtension env spanClass ext state).2 =
        (shapeEncrypted src.isMulticast ext ()).2 := by
  obtain ⟨s, conn⟩ := state
  rw [shapeEncrypted, ← hsame.isMulticast]
  unfold encryptedExtension
  dsimp only
  split_ifs with hmpan hrefused
  · refine ⟨hsame, ?_⟩
    rcases hrefused with hcast | hlength
    · simp [hcast]
    · simp [hlength]
  · refine ⟨⟨hsame.classId, hsame.rNode, (isMulticast_followup conn).trans hsame.isMulticast⟩, ?_⟩
    simpa using hrefused
  · exact ⟨hsame, rfl⟩

/-- The encrypted extensions are parsed as without a context, and keep the class and the node. -/
theorem parseEncrypted_spec (spanClass : UInt8) (plain : List UInt8) (s : S2) {classId : UInt8}
    {conn : Connection} (hsame : SameFrame src classId conn) :
    (parseEncrypted env spanClass msg plain (s, conn)).2.map plain.drop = commandOf src msg plain ∧
      SameFrame src classId (parseEncrypted env spanClass msg plain (s, conn)).1.2 := by
  unfold parseEncrypted commandOf
  split_ifs
  · obtain ⟨hkept, hparsed⟩ := @parseExtensions_simulation (S2 × Connection) Unit
      (fun state _ ↦ SameFrame src classId state.2) plain.length (encryptedExtension env spanClass)
      (shapeEncrypted src.isMulticast)
      (fun ext state _ hstate ↦ encryptedExtension_shape env src spanClass classId ext state hstate)
      (msg.length + 1) 0 (plain ++ msgTag msg) (s, conn) () hsame
    exact ⟨by rw [hparsed], hkept⟩
  · exact ⟨rfl, hsame⟩

theorem finishDecrypt_results {found : Option (UInt8 × List UInt8)}
    (span : Option (Fin spanTableSize)) (mpan : Option (Fin mpanTableSize)) {conn : Connection}
    {plain : List UInt8} (s : S2) (hdecrypts : Decrypts found src (conn, plain)) :
    Results src msg found (finishDecrypt env conn span mpan msg plain s) := by
  unfold finishDecrypt
  match found, hdecrypts with
  | none, hempty =>
    have hplain : plain = [] := hempty
    rw [if_pos hplain]
    exact fun _ h ↦ DecryptResult.noConfusion h
  | some (classId, opened), ⟨hplain, hopened, hclass, hnode, hmulticast⟩ =>
    dsimp only at hopened hclass hnode hmulticast
    subst hopened
    rw [if_neg hplain]
    obtain ⟨hcommand, hkept⟩ := parseEncrypted_spec env src msg (spanClass span s) plain s
      ⟨hclass, hnode, hmulticast⟩
    unfold Results
    dsimp only
    rw [← hcommand]
    generalize parseEncrypted env (spanClass span s) msg plain (s, conn) = parsed at hkept ⊢
    obtain ⟨⟨t, conn'⟩, _ | hdrLen⟩ := parsed
    · exact fun _ h ↦ DecryptResult.noConfusion h
    · exact ⟨rfl, hkept.classId, hkept.rNode⟩

/-- The connection that a frame is decrypted for differs from its source in the local node only. -/
theorem decryptable_conn {conn : Connection} {span : Option (Fin spanTableSize)}
    {state : ClearState} (hdecryptable : decryptable src span state = some conn) :
    conn.rNode = src.rNode ∧ conn.isMulticast = src.isMulticast := by
  unfold decryptable at hdecryptable
  split at hdecryptable
  · dsimp only at hdecryptable
    split_ifs at hdecryptable
    obtain rfl := Option.some.inj hdecryptable
    exact ⟨rfl, rfl⟩
  · split at hdecryptable
    · exact absurd hdecryptable (by simp)
    · dsimp only at hdecryptable
      split_ifs at hdecryptable
      obtain rfl := Option.some.inj hdecryptable
      exact ⟨rfl, rfl⟩

theorem attempts_le (i : Fin spanTableSize) (s : S2) : attempts i s ≤ nSecClass := by
  unfold attempts
  split_ifs
  · decide
  · exact le_refl _

theorem decryptBody_decrypts (conn : Connection) (span : Option (Fin spanTableSize)) (hdrLen : ℕ)
    (state : ClearState) (hdecryptable : decryptable src span state = some conn) :
    Decrypts (openParsed env src span msg hdrLen state) conn
      (decryptBody env conn span msg hdrLen state).2 := by
  rw [openParsed, hdecryptable]
  dsimp only [decryptBody]
  by_cases haad : makeAad state.s.myHomeId conn.rNode conn.lNode (msg.take hdrLen) msg.length = []
  · rw [if_pos haad, if_pos haad]
    rfl
  · rw [if_neg haad, if_neg haad]
    match span, hmpan : state.mpan with
    | some i, _ =>
      have htried := tryClasses_decrypts env conn i state.mpan state.nonces
        (makeAad state.s.myHomeId conn.rNode conn.lNode (msg.take hdrLen) msg.length)
        (msg.drop hdrLen) nSecClass (le_refl _) (keepCiphertext i (msg.drop hdrLen) state.s)
      rw [Nat.min_eq_left (attempts_le _ _)] at htried
      rw [← hmpan]
      exact htried
    | none, some j =>
      dsimp only [openMulticast, decryptMulticast]
      split_ifs with hplain
      · exact ⟨hplain, rfl, rfl, rfl, rfl⟩
      · exact not_not.mp hplain
    | none, none => rfl

theorem decryptParsed_results (span : Option (Fin spanTableSize)) (hdrLen : ℕ)
    (state : ClearState) : Results src msg (openParsed env src span msg hdrLen state)
      (decryptParsed env src span msg hdrLen state) := by
  unfold decryptParsed
  cases hdecryptable : decryptable src span state with
  | none =>
    rw [openParsed, hdecryptable]
    exact fun _ h ↦ DecryptResult.noConfusion h
  | some conn =>
    obtain ⟨hnode, hmulticast⟩ := decryptable_conn src hdecryptable
    have hbody := decryptBody_decrypts env src msg conn span hdrLen state hdecryptable
    exact finishDecrypt_results env src msg span state.mpan _ (hbody.of_same hnode hmulticast)

/-- `S2_decrypt_msg` opens a frame with the first class that authenticates it. -/
theorem decryptMsg_results (s : S2) :
    Results src msg (opening env src msg s) (decryptMsg env src msg s) := by
  unfold opening decryptMsg
  split_ifs
  · exact fun _ h ↦ DecryptResult.noConfusion h
  · generalize decryptSpan env src msg s = started
    obtain ⟨t, _ | span⟩ := started
    · exact fun _ h ↦ DecryptResult.noConfusion h
    · dsimp only
      generalize parseClear env src span msg ⟨t, none, none⟩ = parsed
      obtain ⟨state, _ | hdrLen⟩ := parsed
      · exact fun _ h ↦ DecryptResult.noConfusion h
      · exact decryptParsed_results env src msg span hdrLen state

end Frame

/-! ### The scheme of a frame -/

/-- The scheme of the network keys of a class. The slots of an inclusion have none. -/
def classScheme (classId : UInt8) : Option UInt8 :=
  [securityScheme2Unauthenticated, securityScheme2Authenticated, securityScheme2Access,
    securityScheme2Authenticated, securityScheme2Access][classId.toNat]?

/-- The classes whose frames are expected from a node: the three classes, and the long range classes
from a long range node. -/
def Fits (classId : UInt8) (node : UInt16) : Prop :=
  classId ≤ accessKeySlot ∨ (isLrNode node = true ∧ classId ≤ lrAccessKeySlot)

section Scheme

variable (env : Env) (src : Connection) (buf : List UInt8) (s : S2)

/-- A command that is passed on has the scheme of the network keys that authenticated its frame. -/
def Faithful : Prop :=
  ∀ delivery, received env src buf s = some delivery →
    ∃ classId plain, opening env src buf s = some (classId, plain) ∧
      (classScheme classId).isSome ∧ delivery.scheme = classScheme classId

/-- A frame that carries a command for the application is authenticated by a class that is expected
from its node. -/
def Fitting : Prop :=
  ∀ classId plain command, opening env src buf s = some (classId, plain) →
    commandOf src buf plain = some command → ForApplication command (msgTag buf) →
      Fits classId src.rNode

/-- The table has the scheme of a class, after the conversion of the long range classes, if it is
one that is expected from the node. -/
theorem schemeMap_externalClass (conn : Connection) :
    ((classScheme conn.classId).isSome ∧
      (s2MsgReceivedEvent (externalClass conn) buf).scheme = classScheme conn.classId) ↔
      Fits conn.classId conn.rNode := by
  have hall : ∀ (number : Fin 256) (longRange : Bool),
      let classId := UInt8.ofFin number
      ((classScheme classId).isSome ∧
        schemeMap[(if longRange then
          (if classId = lrAccessKeySlot then accessKeySlot
            else if classId = lrAuthenticatedKeySlot then authenticatedKeySlot else classId)
          else classId).toNat]? = classScheme classId) ↔
      (classId ≤ accessKeySlot ∨ (longRange = true ∧ classId ≤ lrAccessKeySlot)) := by
    decide +kernel
  have hclass : (externalClass conn).classId = if isLrNode conn.rNode then
      (if conn.classId = lrAccessKeySlot then accessKeySlot
        else if conn.classId = lrAuthenticatedKeySlot then authenticatedKeySlot else conn.classId)
      else conn.classId := by
    unfold externalClass convertLrToNormalKeyclass
    split_ifs
    all_goals rfl
  show _ ∧ schemeMap[(externalClass conn).classId.toNat]? = _ ↔ _
  rw [hclass]
  exact hall conn.classId.toFin (isLrNode conn.rNode)

/-- What a frame makes `S2_msg_received_event` pass on, by the class that authenticates it. -/
theorem received_eq :
    (received env src buf s = none ∧ ∀ classId plain command,
      opening env src buf s = some (classId, plain) → commandOf src buf plain = some command →
        ¬ ForApplication command (msgTag buf)) ∨
    ∃ classId plain command conn, opening env src buf s = some (classId, plain) ∧
      commandOf src buf plain = some command ∧ ForApplication command (msgTag buf) ∧
      conn.classId = classId ∧ conn.rNode = src.rNode ∧
      received env src buf s = some (s2MsgReceivedEvent (externalClass conn) command) := by
  have hresults := decryptMsg_results env src buf s
  unfold received
  generalize decryptMsg env src buf s = decrypted at hresults ⊢
  obtain ⟨t, conn, result⟩ := decrypted
  have hnothing : (∀ plainText, result ≠ .authOk plainText) →
      (match ((t, conn, result) : S2 × Connection × DecryptResult) with
        | (_, src, .authOk plainText) =>
          if ForApplication plainText (msgTag buf) then
            some (s2MsgReceivedEvent (externalClass src) plainText)
          else none
        | _ => none) = none := by
    intro hfailed
    cases result with
    | authOk plainText => exact absurd rfl (hfailed plainText)
    | parseFail => rfl
    | authFail => rfl
    | sequenceFail => rfl
  cases hopening : opening env src buf s with
  | none =>
    rw [hopening] at hresults
    exact Or.inl ⟨hnothing hresults, by simp⟩
  | some found =>
    obtain ⟨classId, plain⟩ := found
    rw [hopening] at hresults
    unfold Results at hresults
    dsimp only at hresults
    cases hcommand : commandOf src buf plain with
    | none =>
      rw [hcommand] at hresults
      refine Or.inl ⟨hnothing hresults, ?_⟩
      intro _ _ command heq
      obtain ⟨-, rfl⟩ := Prod.mk.inj (Option.some.inj heq)
      rw [hcommand]
      simp
    | some command =>
      rw [hcommand] at hresults
      obtain ⟨rfl, hclass, hnode⟩ := hresults
      dsimp only
      split_ifs with happlication
      · exact Or.inr
          ⟨classId, plain, command, conn, rfl, hcommand, happlication, hclass, hnode, rfl⟩
      · refine Or.inl ⟨rfl, ?_⟩
        intro _ _ command' heq hcommand'
        obtain ⟨-, rfl⟩ := Prod.mk.inj (Option.some.inj heq)
        rw [hcommand] at hcommand'
        obtain rfl := Option.some.inj hcommand'
        exact happlication

/-- The scheme of a frame is right if and only if it is not one of a slot of the inclusion, or of a
long range class and a node that is none, with a command for the application. -/
theorem received_faithful_iff : Faithful env src buf s ↔ Fitting env src buf s := by
  rcases received_eq env src buf s with ⟨hnone, hown⟩ | ⟨classId, plain, command, conn, hopening,
    hcommand, happlication, rfl, hnode, hreceived⟩
  · constructor
    · intro _ classId plain command hopening hcommand happlication
      exact absurd happlication (hown classId plain command hopening hcommand)
    · intro _ delivery hdelivery
      rw [hnone] at hdelivery
      exact absurd hdelivery (by simp)
  · constructor
    · intro hfaithful classId' plain' command' hopening' _ _
      obtain ⟨classId'', plain'', hopening'', hscheme⟩ := hfaithful _ hreceived
      rw [hopening] at hopening' hopening''
      obtain ⟨rfl, -⟩ := Prod.mk.inj (Option.some.inj hopening')
      obtain ⟨rfl, -⟩ := Prod.mk.inj (Option.some.inj hopening'')
      rw [← hnode]
      exact (schemeMap_externalClass command conn).mp hscheme
    · intro hfitting delivery hdelivery
      rw [hreceived] at hdelivery
      obtain rfl := Option.some.inj hdelivery
      have hfits := hfitting _ _ _ hopening hcommand happlication
      rw [← hnode] at hfits
      exact ⟨_, _, hopening, (schemeMap_externalClass command conn).mpr hfits⟩

end Scheme

/-- Three bytes of a Basic Set of node 2 under a temporary key of zeros, behind its nonce. -/
def tempKeyFrame : List UInt8 :=
  [commandClassSecurity2, security2MessageEncapsulation, 6, 1, 18, 0x41] ++ List.replicate 16 7 ++
    [169, 31, 225, 247, 146, 114, 142, 143, 143, 143, 143]

/-- During an inclusion node 2 asks for a nonce and sends a Basic Set under the temporary key. It
reaches the application, with a scheme from the memory behind the table. -/
theorem tempKey_command_delivered :
    ¬ ∀ (env : Env), env.Reacts (fun _ _ ↦ True) → ∀ (home : UInt32)
      (keystore : Fin 5 → Option Block) (drbg : Drbg) (calls : List Call) (src : Connection)
      (buf : List UInt8),
      Faithful env src buf (run (enter env) (initCtx env home keystore drbg) calls) := by
  intro hclaim
  have hfaithful := hclaim sampleEnv (sampleEnv_reacts _) 0 (fun _ ↦ none) Drbg.zero
    [.networkKeyUpdate 5 zeroBlock true,
      .applicationCommandHandler sampleConnection [commandClassSecurity2, security2NonceGet, 5]]
    sampleConnection tempKeyFrame
  obtain ⟨classId, plain, -, hsome, hscheme⟩ :=
    hfaithful ⟨none, 2, 1, [0x20, 0x01, 0xFF]⟩ (by decide +kernel)
  rw [← hscheme] at hsome
  exact absurd hsome (by simp)

end ZipGateway.S2Wrap
