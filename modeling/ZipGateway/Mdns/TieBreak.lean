import Mathlib.Data.UInt
import Mathlib.Tactic

/-!
# The tie-break of simultaneous probes

Two hosts that probe the same name at the same time each get the probe of the other one, and the one
with the lexicographically later address is to win. `are_we_lex_later_ip4` and
`are_we_lex_later_ip6` of `src/src/mDNSService.c` go on after the first byte that differs, so that
they compare the addresses byte by byte; and `tcpip_handler` does not get to the second one.
`oneWins_iff` says between which hosts the tie is broken.
-/

set_option autoImplicit false

namespace ZipGateway.Mdns

/-- The bytes of an address. -/
abbrev Address (n : ℕ) := Fin n → UInt8

/-- The loop of both functions, with the received byte and the own one for each turn. -/
def lexLoop : List (UInt8 × UInt8) → Bool
  | [] => true
  | (u8, own) :: rest => if own < u8 then false else lexLoop rest

/-- The bytes that are compared. -/
def bytePairs {n : ℕ} (u8 own : Address n) : List (UInt8 × UInt8) := List.ofFn fun i ↦ (u8 i, own i)

/-- `are_we_lex_later_ip6`. -/
def areWeLexLaterIp6 (u8 ipv6Address : Address 16) : Bool := lexLoop (bytePairs u8 ipv6Address)

/-- `are_we_lex_later_ip4`, for the address that `ipv46nat_ipv4addr_of_node` has for the node id. -/
def areWeLexLaterIp4 (u8 a : Address 4) (flags1 : UInt8) : Bool :=
  if u8 = (fun _ ↦ 0) ∧ flags1 &&& 0x84 ≠ 0 then false else lexLoop (bytePairs u8 a)

/-- `tie_braking_won`. -/
inductive TieBraking
  | undecided
  | won
  | lost
deriving DecidableEq

/-- The tie-break in `tcpip_handler`: a record that was received, with its data at `query_m.ptr`,
and the addresses of the own node. -/
def tieBraking (flags1 : UInt8) (qclass qtype : UInt16) (rdata : ℕ → UInt8) (ip4 : Address 4)
    (ip6 : Address 16) : TieBraking :=
  if flags1 &&& 0x84 ≠ 0 then .undecided
  else if 1 < qclass &&& 0x7F then .lost
  else if qclass &&& 0x7F = 1 then
    if 1 < qtype then .lost
    else if qtype = 1 then if areWeLexLaterIp4 (fun i ↦ rdata i) ip4 flags1 then .won else .lost
    else if qtype = 28 then if areWeLexLaterIp6 (fun i ↦ rdata i) ip6 then .won else .lost
    else .undecided
  else .undecided

/-! ### Two hosts -/

/-- The addresses that a host may probe with. -/
inductive Family
  | ip4
  | ip6
deriving DecidableEq

/-- The number of bytes of an address. -/
def Family.size : Family → ℕ
  | .ip4 => 4
  | .ip6 => 16

/-- The type of the record with an address. -/
def Family.rrType : Family → UInt16
  | .ip4 => 1
  | .ip6 => 28

/-- The flags of a probe: it is no response. -/
abbrev ProbeFlags := { flags1 : UInt8 // flags1 &&& 0x84 = 0 }

/-- The comparison of the own address with one that was received. -/
def later (flags1 : ProbeFlags) : (family : Family) → (u8 own : Address family.size) → Bool
  | .ip4, u8, own => areWeLexLaterIp4 u8 own flags1
  | .ip6, u8, own => areWeLexLaterIp6 u8 own

/-- What a host with an address concludes from the probe of another one. -/
def conclusion (flags1 : ProbeFlags) (rdata : ℕ → UInt8) :
    (family : Family) → Address family.size → TieBraking
  | .ip4, own => tieBraking flags1 1 Family.ip4.rrType rdata own fun _ ↦ 0
  | .ip6, own => tieBraking flags1 1 Family.ip6.rrType rdata (fun _ ↦ 0) own

/-- The data of a record with an address; `behind` is what follows it in the message. -/
def rdataOf {n : ℕ} (address : Address n) (behind : ℕ → UInt8) (k : ℕ) : UInt8 :=
  if h : k < n then address ⟨k, h⟩ else behind k

/-- The values of the bytes, which are ordered lexicographically. -/
def values {n : ℕ} (address : Address n) : Lex (Fin n → ℕ) := toLex fun i ↦ (address i).toNat

/-- Both hosts compare their addresses lexicographically. -/
def Ordered (flags1 : ProbeFlags) (family : Family) (a b : Address family.size) : Prop :=
  (later flags1 family b a = true ↔ values b < values a) ∧
    (later flags1 family a b = true ↔ values a < values b)

/-- Exactly one of the hosts concludes that it has won. -/
def OneWins (flags1 : ProbeFlags) (behind : ℕ → UInt8) (family : Family)
    (a b : Address family.size) : Prop :=
  Xor (conclusion flags1 (rdataOf b behind) family a = .won)
    (conclusion flags1 (rdataOf a behind) family b = .won)

/-- The addresses differ in one direction only. -/
def OneWay {n : ℕ} (a b : Address n) : Prop := (∀ i, a i ≤ b i) ∨ ∀ i, b i ≤ a i

section Compare

variable {n : ℕ} {a b u8 own : Address n}

theorem lexLoop_iff (pairs : List (UInt8 × UInt8)) :
    lexLoop pairs = true ↔ ∀ pair ∈ pairs, pair.1 ≤ pair.2 := by
  induction pairs with
  | nil => exact iff_of_true rfl fun _ hpair ↦ absurd hpair List.not_mem_nil
  | cons pair rest ih =>
    rw [lexLoop, List.forall_mem_cons]
    by_cases hless : pair.2 < pair.1
    · rw [if_pos hless]
      exact iff_of_false Bool.false_ne_true fun h ↦ absurd hless (UInt8.not_lt.mpr h.1)
    · rw [if_neg hless, ih]
      exact ⟨fun h ↦ ⟨UInt8.not_lt.mp hless, h⟩, fun h ↦ h.2⟩

theorem lexLoop_bytePairs : lexLoop (bytePairs u8 own) = true ↔ ∀ i, u8 i ≤ own i := by
  rw [lexLoop_iff, bytePairs, List.forall_mem_ofFn_iff]

theorem areWeLexLaterIp4_iff (flags1 : ProbeFlags) (u8 a : Address 4) :
    areWeLexLaterIp4 u8 a flags1 = true ↔ ∀ i, u8 i ≤ a i := by
  unfold areWeLexLaterIp4
  rw [if_neg fun h ↦ h.2 flags1.property]
  exact lexLoop_bytePairs

theorem later_iff (flags1 : ProbeFlags) (family : Family) (u8 own : Address family.size) :
    later flags1 family u8 own = true ↔ ∀ i, u8 i ≤ own i := by
  cases family with
  | ip4 => exact areWeLexLaterIp4_iff flags1 u8 own
  | ip6 => exact lexLoop_bytePairs

theorem values_injective : Function.Injective (@values n) := by
  intro a b heq
  funext i
  exact UInt8.toNat_inj.mp (congrFun (toLex_inj.mp heq) i)

/-- An address with larger bytes is later. -/
theorem values_lt (hne : a ≠ b) (hle : ∀ i, a i ≤ b i) : values a < values b := by
  refine lt_of_le_of_ne (Pi.toLex_monotone fun i ↦ UInt8.le_iff_toNat_le.mp (hle i)) ?_
  exact fun heq ↦ hne (values_injective heq)

theorem not_both (hne : a ≠ b) (hle : ∀ i, a i ≤ b i) : ¬ ∀ i, b i ≤ a i :=
  fun hge ↦ lt_asymm (values_lt hne hle) (values_lt hne.symm hge)

end Compare

variable {flags1 : ProbeFlags} {behind : ℕ → UInt8} {family : Family} {a b : Address family.size}

/-- The comparison is the lexicographic one just when all the bytes differ in one direction. -/
theorem ordered_iff (hne : a ≠ b) : Ordered flags1 family a b ↔ OneWay a b := by
  unfold Ordered
  rw [later_iff, later_iff]
  constructor
  · rintro ⟨hfirst, hsecond⟩
    rcases lt_trichotomy (values a) (values b) with hlt | heq | hlt
    · exact Or.inl (hsecond.mpr hlt)
    · exact absurd (values_injective heq) hne
    · exact Or.inr (hfirst.mpr hlt)
  · rintro (hle | hle)
    · exact ⟨iff_of_false (not_both hne hle) (lt_asymm (values_lt hne hle)),
        iff_of_true hle (values_lt hne hle)⟩
    · exact ⟨iff_of_true hle (values_lt hne.symm hle),
        iff_of_false (not_both hne.symm hle) (lt_asymm (values_lt hne.symm hle))⟩

theorem rdataOf_val {n : ℕ} (address : Address n) (behind : ℕ → UInt8) :
    (fun i : Fin n ↦ rdataOf address behind i) = address := by
  funext i
  exact dif_pos i.isLt

/-- An A record is decided by the comparison. -/
theorem conclusion_ip4 (u8 own : Address Family.ip4.size) :
    conclusion flags1 (rdataOf u8 behind) .ip4 own = .won ↔ later flags1 .ip4 u8 own = true := by
  show tieBraking flags1 1 1 (rdataOf u8 behind) own (fun _ ↦ 0) = .won ↔
    areWeLexLaterIp4 u8 own flags1 = true
  unfold tieBraking
  rw [if_neg (not_not.mpr flags1.property), if_neg (by decide), if_pos (by decide),
    if_neg (by decide), if_pos (by decide)]
  have hrdata : (fun i : Fin 4 ↦ rdataOf u8 behind i) = u8 := rdataOf_val u8 behind
  have hsame :
      areWeLexLaterIp4 (fun i ↦ rdataOf u8 behind i) own flags1 = areWeLexLaterIp4 u8 own flags1 :=
    congrArg (areWeLexLaterIp4 · own flags1) hrdata
  rw [hsame]
  cases areWeLexLaterIp4 u8 own flags1 with
  | true => exact iff_of_true rfl rfl
  | false => exact iff_of_false (by decide) Bool.false_ne_true

/-- An AAAA record is lost, whatever the addresses are: its type is larger than that of an A
record. -/
theorem conclusion_ip6 (rdata : ℕ → UInt8) (own : Address Family.ip6.size) :
    conclusion flags1 rdata .ip6 own = .lost := by
  show tieBraking flags1 1 28 rdata (fun _ ↦ 0) own = .lost
  unfold tieBraking
  rw [if_neg (not_not.mpr flags1.property), if_neg (by decide), if_pos (by decide),
    if_pos (by decide)]

/-- Of two hosts with different addresses, each compares lexicographically just when the bytes of
the addresses differ in one direction only, and exactly one wins just when they are IPv4 addresses
beside. -/
theorem oneWins_iff (flags1 : ProbeFlags) (behind : ℕ → UInt8) (family : Family)
    (hosts : { pair : Address family.size × Address family.size // pair.1 ≠ pair.2 }) :
    (Ordered flags1 family hosts.val.1 hosts.val.2 ↔ OneWay hosts.val.1 hosts.val.2) ∧
      (OneWins flags1 behind family hosts.val.1 hosts.val.2 ↔
        family = .ip4 ∧ OneWay hosts.val.1 hosts.val.2) := by
  obtain ⟨⟨a, b⟩, hne⟩ := hosts
  refine ⟨ordered_iff hne, ?_⟩
  unfold OneWins
  dsimp only at hne ⊢
  cases family with
  | ip4 =>
    rw [conclusion_ip4, conclusion_ip4, later_iff, later_iff]
    constructor
    · rintro (⟨hle, -⟩ | ⟨hle, -⟩)
      · exact ⟨rfl, Or.inr hle⟩
      · exact ⟨rfl, Or.inl hle⟩
    · rintro ⟨-, hle | hle⟩
      · exact Or.inr ⟨hle, not_both hne hle⟩
      · exact Or.inl ⟨hle, not_both hne.symm hle⟩
  | ip6 =>
    rw [conclusion_ip6, conclusion_ip6]
    refine iff_of_false ?_ fun h ↦ absurd h.1 (by decide)
    rintro (⟨hwon, -⟩ | ⟨hwon, -⟩)
    · exact absurd hwon (by decide)
    · exact absurd hwon (by decide)

/-- Two addresses of which each has a larger byte than the other one: both hosts lose. -/
theorem oneWins_fail : ¬ ∀ (flags1 : ProbeFlags) (behind : ℕ → UInt8) (family : Family)
    (hosts : { pair : Address family.size × Address family.size // pair.1 ≠ pair.2 }),
    Ordered flags1 family hosts.val.1 hosts.val.2 ∧
      OneWins flags1 behind family hosts.val.1 hosts.val.2 := by
  intro hall
  have hwins :=
    (hall ⟨0, rfl⟩ (fun _ ↦ 0) .ip4 ⟨(![192, 168, 1, 2], ![192, 168, 2, 1]), by decide⟩).2
  rcases hwins with ⟨hwon, -⟩ | ⟨hwon, -⟩
  · exact absurd hwon (by decide)
  · exact absurd hwon (by decide)

end ZipGateway.Mdns
