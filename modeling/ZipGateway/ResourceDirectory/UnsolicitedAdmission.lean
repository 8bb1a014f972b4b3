import ZipGateway.CommandHandler.Model
import ZipGateway.ResourceDirectory.References

/-!
# Frames for the unsolicited destination

A frame that the gateway does not handle itself goes to the unsolicited destination, when it was
received with enough security. `rd_check_security_for_unsolicited_dest` in
`src/src/ResourceDirectory.c` decides that from the highest scheme of the sending node, the network
scheme of the gateway and the classes that the destination supports. A command of a class in the
secure list is taken at the network scheme, whatever the node has, so that the scheme that a node
sends with may be too high: `graded` says how far more security never hurts.
-/

set_option autoImplicit false

namespace ZipGateway.ResourceDirectory

open CommandHandler (Scheme schemePrio schemeCompare)

/-! ### The check -/

/-- What the check reads of the gateway. -/
structure Admission where
  netScheme : Scheme
  /-- `cfg.extra_classes`. -/
  extraClasses : List UInt8
  /-- `cfg.sec_extra_classes`. -/
  secExtraClasses : List UInt8
  /-- `CommandAnalyzerIsSupporting`, which is generated. -/
  isSupporting : UInt8 → UInt8 → Bool
  myNodeId : UInt16
  isVirtual : UInt16 → Bool

/-- `IsCCInNodeInfoSetList`. -/
def Admission.isCCInNodeInfoSetList (gateway : Admission) (cmdclass : UInt8) (secure : Bool) :
    Bool :=
  gateway.extraClasses.contains cmdclass || (secure && gateway.secExtraClasses.contains cmdclass)

/-- `highest_scheme`. -/
def highestScheme (schemeMask : UInt8) : Scheme :=
  if schemeMask &&& 0x40 ≠ 0 then .securityScheme2Access
  else if schemeMask &&& 0x20 ≠ 0 then .securityScheme2Authenticated
  else if schemeMask &&& 0x10 ≠ 0 then .securityScheme2Unauthenticated
  else if schemeMask &&& 0x01 ≠ 0 then .securityScheme0
  else .noScheme

def commandClassBasic : UInt8 := 0x20

def commandClassSupervision : UInt8 := 0x6C

def commandClassVersion : UInt8 := 0x86

def versionCommandClassGet : UInt8 := 0x13

/-- `USE_CRC16` is treated as no security. -/
def effectiveScheme (scheme : Scheme) : Scheme := if scheme = .useCrc16 then .noScheme else scheme

section Check

variable (gateway : Admission) (rnode : UInt16) (s : NodeCache)

/-- `highest_node_scheme`. -/
def highestNodeScheme : Scheme :=
  highestScheme (getCacheEntryFlag (gateway.isVirtual rnode) gateway.myNodeId rnode s).1

/-- `rd_check_security_for_unsolicited_dest`, for the frame at `c`. The lookups give their
references back. -/
def rdCheckSecurityForUnsolicitedDest (scheme : Scheme) (c : ℕ → UInt8) : Bool :=
  if rnode = 0 then false
  else
    let highest := highestNodeScheme gateway rnode s
    let scheme := effectiveScheme scheme
    if gateway.isSupporting (c 0) (c 1) then
      if schemeCompare highest .securityScheme2Unauthenticated then
        schemeCompare scheme highest else true
    else if c 0 = commandClassVersion ∧ c 1 = versionCommandClassGet ∧
        gateway.isCCInNodeInfoSetList (c 2) true = true ∧ scheme = gateway.netScheme then true
    else if c 0 = commandClassBasic ∧
      (supportsCmdClass rnode commandClassSupervision.toUInt16 s).1 = false ∧
        (highest = .noScheme ∨ highest = .securityScheme0) then true
    else if (c 0 = commandClassBasic ∨ gateway.isCCInNodeInfoSetList (c 0) true = true) ∧
        scheme = gateway.netScheme then true
    else if c 0 = commandClassSupervision then true
    else if gateway.isCCInNodeInfoSetList (c 0) false then
      if schemeCompare highest .securityScheme2Unauthenticated then
        decide (scheme = highest) else true
    else false

end Check

/-! ### More security does not hurt -/

/-- A class of the secure list, Basic, or a question for the version of a class of the secure
list. -/
def SecureCommand (gateway : Admission) (c : ℕ → UInt8) : Prop :=
  c 0 = commandClassBasic ∨ gateway.isCCInNodeInfoSetList (c 0) true = true ∨
    (c 0 = commandClassVersion ∧ c 1 = versionCommandClassGet ∧
      gateway.isCCInNodeInfoSetList (c 2) true = true)

/-- A scheme is lower than the highest one of a node that has S2. -/
structure Below (gateway : Admission) (rnode : UInt16) (s : NodeCache) (scheme : Scheme) :
    Prop where
  s2 : schemeCompare (highestNodeScheme gateway rnode s) .securityScheme2Unauthenticated = true
  lower : schemePrio scheme < schemePrio (highestNodeScheme gateway rnode s)

/-- How the answers for the schemes go together. -/
structure Graded (gateway : Admission) (rnode : UInt16) (s : NodeCache) (c : ℕ → UInt8) : Prop where
  /-- What is rejected at the node's highest scheme is rejected below, except at the network
  scheme. -/
  monotone : ∀ scheme, Below gateway rnode s scheme → effectiveScheme scheme ≠ gateway.netScheme →
    rdCheckSecurityForUnsolicitedDest gateway rnode s
      (highestNodeScheme gateway rnode s) c = false →
    rdCheckSecurityForUnsolicitedDest gateway rnode s scheme c = false
  /-- What is accepted below the node's highest scheme. -/
  accepted : ∀ scheme, Below gateway rnode s scheme →
    rdCheckSecurityForUnsolicitedDest gateway rnode s scheme c = true →
    c 0 = commandClassSupervision ∨
      (SecureCommand gateway c ∧ effectiveScheme scheme = gateway.netScheme)
  crc16 : rdCheckSecurityForUnsolicitedDest gateway rnode s .useCrc16 c =
    rdCheckSecurityForUnsolicitedDest gateway rnode s .noScheme c

section Graded

variable {gateway : Admission} {rnode : UInt16} {s : NodeCache} {scheme : Scheme} {c : ℕ → UInt8}

theorem effectiveScheme_prio (scheme : Scheme) :
    schemePrio (effectiveScheme scheme) = schemePrio scheme := by
  cases scheme <;> rfl

/-- A report is not taken below the highest scheme. -/
theorem Below.not_schemeCompare (h : Below gateway rnode s scheme) :
    schemeCompare (effectiveScheme scheme) (highestNodeScheme gateway rnode s) = false := by
  simpa [schemeCompare, effectiveScheme_prio] using h.lower

theorem Below.ne_highest (h : Below gateway rnode s scheme) :
    effectiveScheme scheme ≠ highestNodeScheme gateway rnode s := by
  intro heq
  have hprio := effectiveScheme_prio scheme
  rw [heq] at hprio
  exact absurd h.lower (by omega)

/-- The rule for nodes that have no S2 does not apply. -/
theorem Below.not_legacy (h : Below gateway rnode s scheme) :
    ¬ (highestNodeScheme gateway rnode s = .noScheme ∨
      highestNodeScheme gateway rnode s = .securityScheme0) := by
  rintro (heq | heq)
  · have hs2 := h.s2
    rw [heq] at hs2
    exact absurd hs2 (by decide)
  · have hs2 := h.s2
    rw [heq] at hs2
    exact absurd hs2 (by decide)

/-- What the check takes below the highest scheme of an S2 node. -/
theorem Below.check_iff (h : Below gateway rnode s scheme) :
    rdCheckSecurityForUnsolicitedDest gateway rnode s scheme c = true ↔
      rnode ≠ 0 ∧ gateway.isSupporting (c 0) (c 1) = false ∧
        (c 0 = commandClassSupervision ∨
          (SecureCommand gateway c ∧ effectiveScheme scheme = gateway.netScheme)) := by
  simp only [rdCheckSecurityForUnsolicitedDest, h.s2, h.not_schemeCompare, h.ne_highest,
    h.not_legacy, and_false, if_false, decide_false, SecureCommand]
  grind

/-- A Supervision frame that is no report is taken at every scheme. -/
theorem supervision_admitted (hnode : rnode ≠ 0)
    (hcommand : gateway.isSupporting (c 0) (c 1) = false)
    (hsupervision : c 0 = commandClassSupervision) (scheme : Scheme) :
    rdCheckSecurityForUnsolicitedDest gateway rnode s scheme c = true := by
  rw [hsupervision] at hcommand
  simp only [rdCheckSecurityForUnsolicitedDest, if_neg hnode, hcommand, hsupervision, if_true,
    Bool.false_eq_true, if_false]
  split_ifs <;> rfl

/-- More security does not hurt, except where a lower scheme is that of the network. -/
theorem graded (gateway : Admission) (rnode : UInt16) (s : NodeCache) (c : ℕ → UInt8) :
    Graded gateway rnode s c where
  monotone scheme hbelow hnet hrejected := by
    by_contra hadmitted
    obtain ⟨hnode, hcommand, hsupervision | ⟨-, heq⟩⟩ :=
      hbelow.check_iff.mp (by simpa using hadmitted)
    · rw [supervision_admitted hnode hcommand hsupervision] at hrejected
      exact absurd hrejected (by simp)
    · exact hnet heq
  accepted scheme hbelow hadmitted := (hbelow.check_iff.mp hadmitted).2.2
  crc16 := rfl

end Graded

/-- A gateway whose network scheme is S2 Authenticated, with no classes for the destination. -/
def authenticatedGateway : Admission where
  netScheme := .securityScheme2Authenticated
  extraClasses := []
  secExtraClasses := []
  isSupporting := fun _ _ ↦ false
  myNodeId := 1
  isVirtual := fun _ ↦ false

/-- A database with node 5, which has the key of S2 Access. -/
def accessNode : NodeCache where
  ndb := fun slot ↦ if slot.val = 4 then some ⟨5, 0x40, 0, .done, 0, 0, 0, [], 0⟩ else none
  assertionFailed := false

/-- A Basic Set of this node is rejected at S2 Access and accepted at S2 Authenticated. -/
theorem graded_fail :
    ¬ ∀ (gateway : Admission) (rnode : UInt16) (s : NodeCache) (c : ℕ → UInt8) (scheme : Scheme),
    Below gateway rnode s scheme →
      rdCheckSecurityForUnsolicitedDest gateway rnode s (highestNodeScheme gateway rnode s)
        c = false → rdCheckSecurityForUnsolicitedDest gateway rnode s scheme c = false := by
  intro h
  have hrejected := h authenticatedGateway 5 accessNode (fun i ↦ if i = 0 then 0x20 else 1)
    .securityScheme2Authenticated ⟨by decide, by decide⟩ (by decide)
  exact absurd hrejected (by decide)

end ZipGateway.ResourceDirectory
