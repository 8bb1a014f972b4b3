import ZipGateway.ClassicZipNode.Scheme
import ZipGateway.UdpServer.Model

/-!
# What a clear packet can claim

A packet that was not received over DTLS should not make the gateway act as if it had been. The flag
for a secure origin is checked against the way the packet came, in `UDPCommandHandler` and in
`ClassicZIPUDP_input`; the Encapsulation Format Information option is not. A command from a clear
packet therefore has a scheme without security exactly when the last such option of the packet names
no security level. `handed_unprivileged` says so of every call of the application handler in every
run of the UDP server, `forwarded_unprivileged` of every frame that `ClassicZIPUDP_input` forwards
to a node, and `clear_packets_unprivileged` puts both together.
-/

set_option autoImplicit false

namespace ZipGateway.UdpServer

open List ZipGateway.Lib
open ClassicZipNode (zipHeaderSize flags1HdrExtIncl flags1SecureOrigin Answers Packet State
  forwardedScheme isEfi parseOptionsScheme_fst parseOptionsScheme_snd idleAnswers)

/-! ### The UDP server -/

/-- The option is one that `UDPCommandHandler` takes the scheme from. -/
def isCriticalEfi (option : Tlv) : Bool :=
  option.type == criticalEfi

/-- The options of the packet as `UDPCommandHandler` reads them. -/
def Received.options (received : Received) : List Tlv :=
  if received.byte 3 &&& flags1HdrExtIncl ≠ 0 then
    tlvs received.data received.extensionEnd received.extensionEnd (zipHeaderSize + 1)
  else []

/-- An extension that is parsed gives the scheme of its options. -/
theorem parseOptions_eq_parsed {data : List UInt8} {stop fuel pos : ℕ} {scheme result : UInt8}
    (hparsed : parseOptions data stop fuel pos scheme = .parsed result) :
    result = schemeAfter isCriticalEfi (tlvs data stop fuel pos) scheme := by
  induction fuel generalizing pos scheme with
  | zero =>
    rw [parseOptions] at hparsed
    split at hparsed
    · exact (OptResult.parsed.inj hparsed).symm
    · exact absurd hparsed (by simp)
  | succ fuel ih =>
    rw [parseOptions] at hparsed
    rw [tlvs]
    by_cases hpos : pos < stop
    · rw [if_pos hpos] at hparsed ⊢
      by_cases hefi : (tlvAt data pos).type = criticalEfi
      · simp only [hefi, if_true] at hparsed
        split at hparsed
        · exact absurd hparsed (by simp)
        · rw [ih hparsed, schemeAfter, schemeAfter, foldl_cons, if_pos]
          exact beq_iff_eq.mpr hefi
      · simp only [hefi, if_false] at hparsed
        split at hparsed
        · exact absurd hparsed (by simp)
        · rw [ih hparsed, schemeAfter, schemeAfter, foldl_cons, if_neg]
          exact fun h ↦ hefi (beq_iff_eq.mp h)
    · rw [if_neg hpos] at hparsed ⊢
      split at hparsed
      · exact (OptResult.parsed.inj hparsed).symm
      · exact absurd hparsed (by simp)

/-- The scheme that the extension of a packet gives is that of its options. -/
theorem Received.extension_eq_parsed {received : Received} {payloadLen offset length : ℕ}
    {scheme : UInt8}
    (hparsed : received.extension payloadLen = some (.parsed scheme, offset, length)) :
    scheme = schemeAfter isCriticalEfi received.options autoScheme := by
  rw [Received.extension] at hparsed
  rw [Received.options]
  split at hparsed
  · next hext =>
    rw [if_pos hext]
    dsimp only at hparsed
    split at hparsed
    · exact absurd hparsed (by simp)
    · simp only [Option.some.injEq, Prod.mk.injEq] at hparsed
      exact parseOptions_eq_parsed hparsed.1
  · next hext =>
    rw [if_neg hext]
    simp only [Option.some.injEq, Prod.mk.injEq, OptResult.parsed.injEq] at hparsed
    exact hparsed.1.symm

/-- No option gives the scheme that stands for the absence of an option. -/
theorem efiToShceme_ne_auto (ext1 ext2 : UInt8) : efiToShceme ext1 ext2 ≠ autoScheme := by
  rw [efiToShceme]
  split_ifs <;> decide

/-- The scheme of a clear packet is that of its options from no scheme on. -/
theorem connScheme_of_clear {received : Received} (hclear : received.receivedSecure = false)
    (options : List Tlv) :
    connScheme received (schemeAfter isCriticalEfi options autoScheme) =
      schemeAfter isCriticalEfi options noScheme := by
  have hconn (scheme : UInt8) (hscheme : scheme ≠ autoScheme) :
      connScheme received scheme = scheme := if_neg hscheme
  induction options using List.reverseRecOn with
  | nil =>
    show connScheme received autoScheme = noScheme
    rw [connScheme, if_pos rfl, if_neg]
    rw [hclear]
    simp
  | append_singleton options option ih =>
    rw [schemeAfter, schemeAfter, foldl_append, foldl_append]
    show connScheme received (if isCriticalEfi option then _ else schemeAfter _ options _) =
      if isCriticalEfi option then _ else schemeAfter _ options _
    split
    · exact hconn _ (efiToShceme_ne_auto _ _)
    · exact ih

/-- The scheme of every command in the queue and in the log is that of its packet. -/
structure SchemesOk (server : Server) : Prop where
  queue : ∀ entry ∈ server.asyncQueue, entry.scheme = connScheme entry.source
    (schemeAfter isCriticalEfi entry.source.options autoScheme)
  log : ∀ handed ∈ server.log, handed.scheme = connScheme handed.source
    (schemeAfter isCriticalEfi handed.source.options autoScheme)

theorem SchemesOk.doAppHandler {server : Server} (hok : SchemesOk server) :
    SchemesOk (doAppHandler server) := by
  refine ⟨fun _ hentry ↦ absurd hentry not_mem_nil, ?_⟩
  intro handed hhanded
  rcases mem_append.mp hhanded with hnew | hold
  · obtain ⟨entry, hentry, rfl⟩ := mem_map.mp (mem_reverse.mp hnew)
    exact hok.queue entry hentry
  · exact hok.log handed hold

theorem SchemesOk.enqueue {server : Server} (hok : SchemesOk server) {received : Received}
    {payloadLen offset length : ℕ} {scheme : UInt8}
    (hparsed : received.extension payloadLen = some (.parsed scheme, offset, length)) :
    SchemesOk (enqueue received offset length scheme server) := by
  have hscheme := Received.extension_eq_parsed hparsed
  have hqueued (entry : AsyncState) (hsource : entry.source = received)
      (hentry : entry.scheme = connScheme received scheme) :
      SchemesOk { server with asyncQueue := server.asyncQueue ++ [entry] } := by
    refine ⟨?_, hok.log⟩
    intro other hother
    rcases mem_append.mp hother with hold | hnew
    · exact hok.queue other hold
    · obtain rfl := mem_singleton.mp hnew
      rw [hentry, hsource, ← hscheme]
  rw [UdpServer.enqueue]
  split
  · split
    · exact hqueued _ rfl rfl
    · exact (hqueued _ rfl rfl).doAppHandler
  · exact hqueued _ rfl rfl

theorem SchemesOk.step {server : Server} (hok : SchemesOk server) (maxPayload : ℕ) (input : Input) :
    SchemesOk (step maxPayload server input) := by
  cases input with
  | packet received hasAddress memory =>
    show SchemesOk (udpCommandHandler maxPayload received hasAddress memory server)
    rw [udpCommandHandler]
    split
    · exact hok
    split
    · exact hok
    split
    · exact hok
    simp only
    split
    · exact hok
    split
    · exact hok
    split
    · next scheme offset length hparsed =>
      split
      · exact hok
      split
      · exact hok
      · exact hok.enqueue hparsed
    · exact hok
  | timer => exact hok.doAppHandler
  | expire position =>
    exact ⟨fun entry hentry ↦ hok.queue entry (mem_of_mem_eraseIdx hentry), hok.log⟩

/-- A command of a clear packet is handed to the application without a scheme exactly when the
packet names no security level. -/
theorem handed_unprivileged (maxPayload : ℕ) (inputs : List Input) {handed : Handed}
    (hhanded : handed ∈ (run (step maxPayload) Server.init inputs).log)
    (hclear : handed.source.receivedSecure = false) :
    Unprivileged handed.scheme ↔ ¬ NamesSecureLevel isCriticalEfi handed.source.options := by
  have hinit : SchemesOk Server.init :=
    ⟨fun _ h ↦ absurd h not_mem_nil, fun _ h ↦ absurd h not_mem_nil⟩
  have hok : SchemesOk (run (step maxPayload) Server.init inputs) :=
    run_invariant (fun _ input hserver ↦ hserver.step maxPayload input) hinit inputs
  rw [hok.log handed hhanded, connScheme_of_clear hclear]
  exact unprivileged_schemeAfter _ _ (Or.inl rfl)

/-! ### Packets for a node -/

/-- A clear packet with a command has no flag for a secure origin, and its extension is parsed. -/
theorem zwScheme_of_command {p : Packet} {len offset length : ℕ}
    (hheader : p.header len false = .command offset length) :
    p.zwScheme = schemeAfter isEfi p.options noScheme := by
  rw [Packet.header] at hheader
  dsimp only at hheader
  by_cases horigin : p.byte 3 &&& flags1SecureOrigin = 0
  · rw [if_neg (fun h ↦ h.1 horigin)] at hheader
    rw [Packet.zwScheme, Packet.options, if_neg (not_not.mpr horigin)]
    split at hheader
    · next hext =>
      rw [if_pos hext, if_pos hext]
      split at hheader
      · exact absurd hheader (by simp)
      · split at hheader
        · exact absurd hheader (by simp)
        · exact absurd hheader (by simp)
        · next hsuccess =>
          refine parseOptionsScheme_snd ?_
          rw [parseOptionsScheme_fst]
          exact hsuccess
    · next hext =>
      rw [if_neg hext, if_neg hext]
      rfl
  · rw [if_pos ⟨horigin, rfl⟩] at hheader
    exact absurd hheader (by simp)

theorem forwardedScheme_eq_some {ans : Answers} {p : Packet} {len : ℕ} {st : State} {scheme : UInt8}
    (hforwarded : forwardedScheme ans p len false st = some scheme) :
    scheme = schemeAfter isEfi p.options noScheme := by
  rw [forwardedScheme] at hforwarded
  split at hforwarded
  · exact absurd hforwarded (by simp)
  split at hforwarded
  · split at hforwarded
    · exact absurd hforwarded (by simp)
    · exact absurd hforwarded (by simp)
    · next offset length hheader =>
      rw [← zwScheme_of_command hheader]
      dsimp only at hforwarded
      split at hforwarded
      · exact absurd hforwarded (by simp)
      split at hforwarded
      · exact absurd hforwarded (by simp)
      split at hforwarded
      · exact (Option.some.inj hforwarded).symm
      split at hforwarded
      · exact absurd hforwarded (by simp)
      split at hforwarded
      · exact (Option.some.inj hforwarded).symm
      · exact absurd hforwarded (by simp)
  · exact absurd hforwarded (by simp)

/-- A clear packet is forwarded to a node without a scheme exactly when it names no security
level. -/
theorem forwarded_unprivileged {ans : Answers} {p : Packet} {len : ℕ} {st : State} {scheme : UInt8}
    (hforwarded : forwardedScheme ans p len false st = some scheme) :
    Unprivileged scheme ↔ ¬ NamesSecureLevel isEfi p.options := by
  rw [forwardedScheme_eq_some hforwarded]
  exact unprivileged_schemeAfter _ _ (Or.inl rfl)

/-! ### Both ways -/

/-- In every run of the UDP server, a command of a clear packet is handed to the application with no
scheme but `NO_SCHEME` or `USE_CRC16` exactly when the last Encapsulation Format Information option
of the packet, if there is one, names no security level; and so it is with the scheme with which
`ClassicZIPUDP_input` forwards a clear packet to a node, in any state. -/
theorem clear_packets_unprivileged (maxPayload : ℕ) (inputs : List Input) (ans : Answers)
    (p : Packet) (len : ℕ) (st : State) :
    (∀ handed ∈ (run (step maxPayload) Server.init inputs).log,
      handed.source.receivedSecure = false →
      (Unprivileged handed.scheme ↔ ¬ NamesSecureLevel isCriticalEfi handed.source.options)) ∧
    (∀ scheme : UInt8, forwardedScheme ans p len false st = some scheme →
      (Unprivileged scheme ↔ ¬ NamesSecureLevel isEfi p.options)) :=
  ⟨fun _ hhanded hclear ↦ handed_unprivileged maxPayload inputs hhanded hclear,
    fun _ hforwarded ↦ forwarded_unprivileged hforwarded⟩

/-- A clear Binary Switch Set in a packet with an Encapsulation Format Information option of this
level. -/
def efiPacket (level : UInt8) : List UInt8 :=
  [0x23, 0x02, 0x00, 0xC0, 0x01, 0x00, 0x00, 0x05, 0x84, 0x02, level, 0x00, 0x25, 0x01, 0xFF]

/-- The packet, for the gateway. -/
def efiReceived (level : UInt8) : Received where
  data := efiPacket level
  len := 15
  receivedSecure := false
  toAllRouters := false

/-- The packet, for node 5. -/
def efiForNode (level : UInt8) : Packet where
  destIp := 5
  destMagic := 0
  srcIp := 0
  proto := 17
  icmpType := 0
  srcPort := 0
  destPort := 0
  fromTunnel := false
  buffer := efiPacket level
  length := 23

/-- A gateway without associations. -/
def noAssociations : State :=
  State.init (fun _ ↦ ClassicZipNode.IpAssociation.zero) (fun _ ↦ false) []

/-- With the level zero the packet is handed to the application, and forwarded, without a scheme. -/
theorem clear_packets_unprivileged_none :
    (∃ handed ∈ (run (step 1400) Server.init [.packet (efiReceived 0x00) true true]).log,
      Unprivileged handed.scheme) ∧
    ∃ scheme, forwardedScheme idleAnswers (efiForNode 0x00) 15 false noAssociations = some scheme ∧
      Unprivileged scheme := by
  have hreceived : ¬ NamesSecureLevel isCriticalEfi (efiReceived 0x00).options := by
    rintro ⟨option, hoption, hlevel⟩
    have hvalue : option = ⟨0x84, 0x02, 0x00, 0x00⟩ :=
      Option.some.inj (hoption.symm.trans (by decide))
    rw [hvalue] at hlevel
    exact absurd hlevel (by decide)
  have hforNode : ¬ NamesSecureLevel isEfi (efiForNode 0x00).options := by
    rintro ⟨option, hoption, hlevel⟩
    have hvalue : option = ⟨0x84, 0x02, 0x00, 0x00⟩ :=
      Option.some.inj (hoption.symm.trans (by decide))
    rw [hvalue] at hlevel
    exact absurd hlevel (by decide)
  refine ⟨⟨⟨noScheme, [0x25, 0x01, 0xFF], efiReceived 0x00⟩, ?_, ?_⟩, noScheme, ?_, ?_⟩
  · exact mem_singleton.mpr rfl
  · exact ((clear_packets_unprivileged 1400 [.packet (efiReceived 0x00) true true] idleAnswers
      (efiForNode 0x00) 15 noAssociations).1 _ (mem_singleton.mpr rfl) rfl).mpr hreceived
  · decide +kernel
  · exact ((clear_packets_unprivileged 1400 [] idleAnswers (efiForNode 0x00) 15 noAssociations).2 _
      (by decide +kernel)).mpr hforNode

/-- A clear packet that names the access level is handed to the application with the scheme of that
level, and it is forwarded to a node with it. -/
theorem clear_packet_gains_access :
    (¬ ∀ (maxPayload : ℕ) (inputs : List Input),
      ∀ handed ∈ (run (step maxPayload) Server.init inputs).log,
        handed.source.receivedSecure = false → Unprivileged handed.scheme) ∧
    ¬ ∀ (ans : Answers) (p : Packet) (len : ℕ) (st : State) (scheme : UInt8),
      forwardedScheme ans p len false st = some scheme → Unprivileged scheme := by
  constructor
  · intro hall
    have hscheme := hall 1400 [.packet (efiReceived 0x04) true true]
      ⟨securityScheme2Access, [0x25, 0x01, 0xFF], efiReceived 0x04⟩ (mem_singleton.mpr rfl) rfl
    exact absurd hscheme (by decide)
  · intro hall
    have hscheme := hall idleAnswers (efiForNode 0x04) 15 noAssociations securityScheme2Access
      (by decide +kernel)
    exact absurd hscheme (by decide)

end ZipGateway.UdpServer
