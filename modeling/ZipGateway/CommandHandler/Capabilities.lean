import ZipGateway.CommandHandler.Gate
import Mathlib.Data.List.Nodup

/-!
# What is advertised and what is supported

The gateway tells its command classes in three ways: in the lists for the node information frame, by
the version that it answers for a class, and by what it does with a frame of the class.
`CapabilitiesMatch` says that the three agree.

They do for a table that has each class once (`capabilities_match`), when the classes are those of
one byte, the versions are not the number for an unknown class, the lists have room, and the scheme
is not one that the network does not have. The last condition is about the handlers for the scheme
of the network: in a network without security they are advertised, and a frame with security is
refused. Without it, with a version of 0, and with a list that is too short, the three do not agree
(`capabilities_differ`). No list is ever written beyond its end.
-/

set_option autoImplicit false

namespace ZipGateway.CommandHandler

open List

/-! ### Lists, versions and frames -/

/-- The bytes of a class in a list of classes. -/
def encodeClass (cmdClass : UInt16) : List UInt8 :=
  if cmdClass < 0x100 then [cmdClass.toUInt8] else [(cmdClass >>> 8).toUInt8, cmdClass.toUInt8]

/-- The frame is of the class. -/
def Payload.isOf (payload : Payload) (cmdClass : UInt16) : Prop :=
  [payload.cmdClass, payload.cmd].take (encodeClass cmdClass).length = encodeClass cmdClass

section Capabilities

variable {Fn Session : Type*} (gateway : Gateway Fn Session) (scheme : Scheme)

/-- The two lists of classes that are advertised to a node that uses the scheme, as classes. -/
structure Advertises (maxOpen maxSecure : UInt8) (openClasses secureClasses : List UInt16) :
    Prop where
  openBytes : (commandHandlerGetNif gateway .noScheme maxOpen).bytes =
    openClasses.flatMap encodeClass
  secureBytes : (commandHandlerGetNif gateway scheme maxSecure).bytes =
    secureClasses.flatMap encodeClass
  openNodup : openClasses.Nodup
  secureNodup : secureClasses.Nodup
  disjoint : scheme ≠ .noScheme → openClasses.Disjoint secureClasses

/-- What is advertised, the version that is answered and the handler that is called agree, for every
class but the one that is listed elsewhere. -/
def CapabilitiesMatch (maxOpen maxSecure : UInt8) : Prop :=
  ∃ openClasses secureClasses,
    Advertises gateway scheme maxOpen maxSecure openClasses secureClasses ∧
    ∀ cmdClass, cmdClass ≠ commandClassZwaveplusInfo →
      (cmdClass ∈ openClasses ∨ cmdClass ∈ secureClasses ↔
        ∃ fn ∈ gateway.handlers, fn.cmdClass = cmdClass ∧
          comamndHandlerVersionGet gateway scheme cmdClass = fn.version) ∧
      ∀ (session : Session) (payload : Payload), payload.isOf cmdClass →
        gateway.validator payload = .parseOk →
        exceptionCcSecurityLevelCheck gateway scheme cmdClass payload.cmd = false →
        (cmdClass ∈ openClasses ∨ cmdClass ∈ secureClasses ↔
          ∃ fn ∈ gateway.handlers, fn.cmdClass = cmdClass ∧
            (commandHandlerRun gateway ⟨scheme, session⟩ payload false).calls = [fn.handler])

/-! ### The lists -/

/-- No more bytes are written than there is room for. -/
theorem length_getNifFrom_le (maxLen : UInt8) (handlers : List (Handler Fn)) (nif : List UInt8)
    (hnif : nif.length ≤ maxLen.toNat) :
    (getNifFrom gateway scheme maxLen nif handlers).bytes.length ≤ maxLen.toNat := by
  induction handlers generalizing nif with
  | nil => exact hnif
  | cons fn rest ih =>
    rw [getNifFrom]
    split_ifs with hlisted hroom
    · exact hnif
    · refine ih _ ?_
      rw [length_append]
      omega
    · exact ih nif hnif

def listedClasses : List UInt16 :=
  (gateway.handlers.filter (isListed gateway scheme)).map (·.cmdClass)

/-- All listed classes are written when there is room. -/
theorem getNifFrom_bytes (maxLen : UInt8) (handlers : List (Handler Fn)) (nif : List UInt8)
    (hroom : nif.length + (((handlers.filter (isListed gateway scheme)).map
      (·.cmdClass)).flatMap nifBytes).length ≤ maxLen.toNat) :
    getNifFrom gateway scheme maxLen nif handlers =
      ⟨nif ++ ((handlers.filter (isListed gateway scheme)).map (·.cmdClass)).flatMap nifBytes,
        false⟩ := by
  induction handlers generalizing nif with
  | nil => simp [getNifFrom]
  | cons fn rest ih =>
    rw [getNifFrom]
    by_cases hlisted : isListed gateway scheme fn = true
    · rw [filter_cons_of_pos hlisted, map_cons, flatMap_cons] at hroom ⊢
      rw [length_append] at hroom
      rw [if_pos hlisted, if_neg (by omega), ih _ (by rw [length_append]; omega),
        append_assoc]
    · rw [filter_cons_of_neg hlisted] at hroom ⊢
      rw [if_neg hlisted, ih nif hroom]

theorem nifBytes_eq_encodeClass {cmdClass : UInt16} (hclass : cmdClass < 0xF0) :
    nifBytes cmdClass = encodeClass cmdClass := by
  have hall : ∀ n : Fin 0xF0, nifBytes (UInt16.ofNat n) = encodeClass (UInt16.ofNat n) := by
    decide +kernel
  have hn : cmdClass.toNat < 0xF0 := hclass
  simpa using hall ⟨cmdClass.toNat, hn⟩

theorem encodeClass_one {cmdClass : UInt16} (hclass : cmdClass < 0xF0) :
    encodeClass cmdClass = [cmdClass.toUInt8] := by
  have hn : cmdClass.toNat < 0xF0 := hclass
  have hbyte : cmdClass < 0x100 := UInt16.lt_iff_toNat_lt.mpr (Nat.lt_trans hn (by decide))
  exact if_pos hbyte

/-- A class of one byte is the first byte of its frames. -/
theorem cmdClass_of_isOf {cmdClass : UInt16} {payload : Payload} (hclass : cmdClass < 0xF0)
    (hof : payload.isOf cmdClass) : payload.cmdClass.toUInt16 = cmdClass := by
  unfold Payload.isOf at hof
  rw [encodeClass_one hclass] at hof
  have hfirst : payload.cmdClass = cmdClass.toUInt8 := by simpa using hof
  have hn : cmdClass.toNat < 0xF0 := hclass
  refine UInt16.toNat_inj.mp ?_
  rw [hfirst, UInt8.toNat_toUInt16, UInt16.toNat_toUInt8]
  omega

/-- The bytes of a list of classes of one byte. -/
theorem flatMap_nifBytes {classes : List UInt16}
    (hclasses : ∀ cmdClass ∈ classes, cmdClass < 0xF0) : classes.flatMap nifBytes =
      classes.flatMap encodeClass ∧ (classes.flatMap nifBytes).length = classes.length := by
  induction classes with
  | nil => exact ⟨rfl, rfl⟩
  | cons cmdClass rest ih =>
    obtain ⟨hfirst, hrest⟩ := forall_mem_cons.mp hclasses
    obtain ⟨hbytes, hlength⟩ := ih hrest
    rw [flatMap_cons, flatMap_cons, nifBytes_eq_encodeClass hfirst, hbytes]
    refine ⟨rfl, ?_⟩
    rw [length_append, encodeClass_one hfirst, ← hbytes, hlength]
    simp [Nat.add_comm]

/-! ### Support at a scheme -/

/-- The handler is enabled and supports the scheme. -/
def Offers (fn : Handler Fn) : Prop :=
  isInDisabledList gateway fn = false ∧ supportsFrameAtSecurityLevel gateway fn scheme = true

/-- The scheme is no security, or the one of the local network. -/
def Scheme.isUnsecured (scheme : Scheme) : Bool :=
  scheme == .noScheme || scheme == .useCrc16 || scheme == .securitySchemeUdp

/-- What is supported without security is supported with it, but for the scheme of a network that
has none. -/
theorem supports_of_noScheme {fn : Handler Fn}
    (hscheme : gateway.netScheme ≠ .noScheme ∨ scheme.isUnsecured = true ∨
      fn.minimalScheme ≠ .netScheme)
    (hsupports : supportsFrameAtSecurityLevel gateway fn .noScheme = true) :
    supportsFrameAtSecurityLevel gateway fn scheme = true := by
  unfold supportsFrameAtSecurityLevel at hsupports ⊢
  by_cases hnet : fn.minimalScheme = .netScheme
  · rw [if_pos hnet] at hsupports ⊢
    have hnone : Scheme.noScheme = gateway.netScheme := by simpa using hsupports
    rcases hscheme with hother | hunsecured | hother
    · exact absurd hnone.symm hother
    · rw [← hnone]
      revert hunsecured
      cases scheme <;> decide
    · exact absurd hnet hother
  · rw [if_neg hnet] at hsupports ⊢
    have hzero : ∀ other, schemeCompare .noScheme other = true →
        ∀ any, schemeCompare any other = true := by
      intro other hother any
      simp only [schemeCompare, decide_eq_true_eq] at hother ⊢
      exact Nat.le_trans hother (Nat.zero_le _)
    simp only [reduceCtorEq, if_false, Bool.or_eq_true, Bool.and_eq_true] at hsupports ⊢
    rcases hsupports with hnone | ⟨hnetwork, hminimal⟩
    · exact .inl hnone
    · exact .inr ⟨hzero _ hnetwork _, hzero _ hminimal _⟩

theorem mem_listedClasses {cmdClass : UInt16} :
    cmdClass ∈ listedClasses gateway scheme ↔
      ∃ fn ∈ gateway.handlers, isListed gateway scheme fn = true ∧ fn.cmdClass = cmdClass := by
  simp only [listedClasses, mem_map, mem_filter, and_assoc]

/-- A class is in one of the two lists when it has a handler that supports the scheme. -/
theorem listed_iff_offers {cmdClass : UInt16} (hother : cmdClass ≠ commandClassZwaveplusInfo)
    (hscheme : ∀ fn ∈ gateway.handlers, gateway.netScheme ≠ .noScheme ∨ scheme.isUnsecured = true ∨
      fn.minimalScheme ≠ .netScheme) :
    cmdClass ∈ listedClasses gateway .noScheme ∨ cmdClass ∈ listedClasses gateway scheme ↔
      ∃ fn ∈ gateway.handlers, fn.cmdClass = cmdClass ∧ Offers gateway scheme fn := by
  rw [mem_listedClasses, mem_listedClasses]
  constructor
  · rintro (⟨fn, hfn, hlisted, rfl⟩ | ⟨fn, hfn, hlisted, rfl⟩)
    · simp only [isListed, Bool.and_eq_true, Bool.not_eq_true'] at hlisted
      exact ⟨fn, hfn, rfl, hlisted.1.1.1,
        supports_of_noScheme gateway scheme (hscheme fn hfn) hlisted.1.1.2⟩
    · simp only [isListed, Bool.and_eq_true, Bool.not_eq_true'] at hlisted
      exact ⟨fn, hfn, rfl, hlisted.1.1⟩
  · rintro ⟨fn, hfn, rfl, henabled, hsupports⟩
    by_cases hopen : supportsFrameAtSecurityLevel gateway fn .noScheme = true
    · exact .inl ⟨fn, hfn, by simp [isListed, henabled, hopen, hother], rfl⟩
    · exact .inr ⟨fn, hfn, by simp [isListed, henabled, hsupports, hopen, hother], rfl⟩

/-! ### The version and the handler -/

/-- Two handlers of a class are the same one. -/
theorem handler_unique (hdistinct : (gateway.handlers.map (·.cmdClass)).Nodup)
    {fn other : Handler Fn} (hfn : fn ∈ gateway.handlers) (hother : other ∈ gateway.handlers)
    (hclass : other.cmdClass = fn.cmdClass) : other = fn :=
  inj_on_of_nodup_map hdistinct hother hfn hclass

/-- The version of a handler is answered when it supports the scheme. -/
theorem versionGet_eq_iff (hdistinct : (gateway.handlers.map (·.cmdClass)).Nodup) {fn : Handler Fn}
    (hfn : fn ∈ gateway.handlers) (hversion : fn.version ≠ 0) :
    comamndHandlerVersionGet gateway scheme fn.cmdClass = fn.version ↔
      Offers gateway scheme fn := by
  unfold comamndHandlerVersionGet
  split
  · rename_i found hfound
    have htest := List.find?_some hfound
    simp only [Bool.and_eq_true, Bool.not_eq_true', beq_iff_eq] at htest
    obtain rfl := handler_unique gateway hdistinct hfn (mem_of_find?_eq_some hfound) htest.1.2
    exact ⟨fun _ ↦ ⟨htest.1.1, htest.2⟩, fun _ ↦ rfl⟩
  · rename_i hnone
    have htest := List.find?_eq_none.mp hnone fn hfn
    refine ⟨fun hzero ↦ absurd hzero.symm hversion, fun hoffers ↦ absurd ?_ htest⟩
    simp [hoffers.1, hoffers.2]

/-- A frame that is accepted reaches the handler of its class when it supports the scheme. -/
theorem run_calls_iff (hdistinct : (gateway.handlers.map (·.cmdClass)).Nodup) {fn : Handler Fn}
    (hfn : fn ∈ gateway.handlers) {session : Session} {payload : Payload}
    (hclass : payload.cmdClass.toUInt16 = fn.cmdClass) (hok : gateway.validator payload = .parseOk)
    (hexempt : exceptionCcSecurityLevelCheck gateway scheme fn.cmdClass payload.cmd = false) :
    (commandHandlerRun gateway ⟨scheme, session⟩ payload false).calls = [fn.handler] ↔
      Offers gateway scheme fn := by
  have hfor : ∀ other ∈ gateway.handlers, other.isFor payload = true ↔ other = fn := by
    intro other hother
    rw [Handler.isFor, beq_iff_eq, hclass]
    exact ⟨handler_unique gateway hdistinct hfn hother, fun hsame ↦ hsame ▸ rfl⟩
  have hsupported : Supported gateway ⟨scheme, session⟩ payload ↔ Offers gateway scheme fn := by
    have hpermits : permits gateway ⟨scheme, session⟩ payload fn =
        supportsFrameAtSecurityLevel gateway fn scheme := by
      rw [permits, hclass, hexempt, Bool.or_false]
    constructor
    · intro hsupported
      obtain ⟨hpermitted, henabled⟩ := hsupported.2 fn hfn ((hfor fn hfn).mpr rfl)
      exact ⟨henabled, hpermits ▸ hpermitted⟩
    · intro hoffers
      refine ⟨⟨fn, hfn, (hfor fn hfn).mpr rfl⟩, fun other hother hmatches ↦ ?_⟩
      obtain rfl := (hfor other hother).mp hmatches
      exact ⟨hpermits.trans hoffers.2, hoffers.1⟩
  constructor
  · intro hcalls
    by_contra hoffers
    rw [commandHandlerRun_calls_nil gateway _ payload (.inr (hsupported.not.mpr hoffers))] at hcalls
    cases hcalls
  · intro hoffers
    obtain ⟨last, hlast, hrun⟩ :=
      commandHandlerRun_supported gateway ⟨scheme, session⟩ payload
        (show isUnwrappedWakeUp payload false = false from rfl) (hsupported.mpr hoffers)
    obtain ⟨hmem, hmatches⟩ := lastMatching_mem gateway payload hlast
    obtain rfl := (hfor last hmem).mp hmatches
    rw [hrun, if_pos (.inl hok)]

/-! ### Agreement -/

theorem advertises_listedClasses (maxOpen maxSecure : UInt8)
    (hdistinct : (gateway.handlers.map (·.cmdClass)).Nodup)
    (hclasses : ∀ fn ∈ gateway.handlers, fn.cmdClass < 0xF0)
    (hopen : (listedClasses gateway .noScheme).length ≤ maxOpen.toNat)
    (hsecure : (listedClasses gateway scheme).length ≤ maxSecure.toNat) :
    Advertises gateway scheme maxOpen maxSecure (listedClasses gateway .noScheme)
      (listedClasses gateway scheme) := by
  have hlisted : ∀ any, ∀ cmdClass ∈ listedClasses gateway any, cmdClass < 0xF0 := by
    intro any cmdClass hcmdClass
    obtain ⟨fn, hfn, -, rfl⟩ := (mem_listedClasses gateway any).mp hcmdClass
    exact hclasses fn hfn
  have hbytes : ∀ any (maxLen : UInt8), (listedClasses gateway any).length ≤ maxLen.toNat →
      (commandHandlerGetNif gateway any maxLen).bytes =
        (listedClasses gateway any).flatMap encodeClass := by
    intro any maxLen hroom
    obtain ⟨hencode, hlength⟩ := flatMap_nifBytes (hlisted any)
    have hnif := getNifFrom_bytes gateway any maxLen gateway.handlers []
      (by simpa [listedClasses] using Nat.le_trans (Nat.le_of_eq hlength) hroom)
    rw [commandHandlerGetNif, hnif, ← hencode]
    rfl
  have hnodup : ∀ any, (listedClasses gateway any).Nodup :=
    fun any ↦ hdistinct.sublist (filter_sublist.map _)
  refine ⟨hbytes _ _ hopen, hbytes _ _ hsecure, hnodup _, hnodup _, fun hother ↦ ?_⟩
  intro cmdClass hfirst hsecond
  obtain ⟨fn, hfn, hopenListed, rfl⟩ := (mem_listedClasses gateway _).mp hfirst
  obtain ⟨other, hmem, hsecureListed, hclass⟩ := (mem_listedClasses gateway _).mp hsecond
  obtain rfl := handler_unique gateway hdistinct hfn hmem hclass
  simp only [isListed, Bool.and_eq_true, Bool.not_eq_true'] at hopenListed hsecureListed
  simp [hopenListed.1.1.2, hother] at hsecureListed

/-- The conditions under which the three agree: each class is in the table once and has one byte,
the versions are not 0, the scheme is one that the network has or the table does not ask for it, and
the lists have room. -/
structure Agreeable (maxOpen maxSecure : UInt8) : Prop where
  distinct : (gateway.handlers.map (·.cmdClass)).Nodup
  oneByte : ∀ fn ∈ gateway.handlers, fn.cmdClass < 0xF0
  version : ∀ fn ∈ gateway.handlers, fn.version ≠ 0
  known : ∀ fn ∈ gateway.handlers, gateway.netScheme ≠ .noScheme ∨ scheme.isUnsecured = true ∨
    fn.minimalScheme ≠ .netScheme
  openRoom : (listedClasses gateway .noScheme).length ≤ maxOpen.toNat
  secureRoom : (listedClasses gateway scheme).length ≤ maxSecure.toNat

/-- No list of classes is written beyond its end, whatever the table. What is advertised, the
version that is answered and the handler that is called agree, for a table that has each class
once. -/
theorem capabilities_match (maxOpen maxSecure : UInt8) :
    (∀ any maxLen, (commandHandlerGetNif gateway any maxLen).bytes.length ≤ maxLen.toNat) ∧
      (Agreeable gateway scheme maxOpen maxSecure →
        CapabilitiesMatch gateway scheme maxOpen maxSecure) := by
  refine ⟨fun any maxLen ↦ length_getNifFrom_le gateway any maxLen _ _ (Nat.zero_le _),
    fun hagreeable ↦ ?_⟩
  refine ⟨listedClasses gateway .noScheme, listedClasses gateway scheme,
    advertises_listedClasses gateway scheme _ _ hagreeable.distinct hagreeable.oneByte
      hagreeable.openRoom hagreeable.secureRoom, fun cmdClass hother ↦ ⟨?_, ?_⟩⟩
  · rw [listed_iff_offers gateway scheme hother hagreeable.known]
    refine exists_congr fun fn ↦ and_congr_right fun hfn ↦ and_congr_right fun hclass ↦ ?_
    rw [← hclass]
    exact (versionGet_eq_iff gateway scheme hagreeable.distinct hfn
      (hagreeable.version fn hfn)).symm
  · intro session payload hof hok hexempt
    rw [listed_iff_offers gateway scheme hother hagreeable.known]
    refine exists_congr fun fn ↦ and_congr_right fun hfn ↦ and_congr_right fun hclass ↦ ?_
    subst hclass
    have hclass := cmdClass_of_isOf (hagreeable.oneByte fn hfn) hof
    exact (run_calls_iff gateway scheme hagreeable.distinct hfn hclass hok hexempt).symm

end Capabilities

/-! ### A network with security -/

/-- Handlers for every kind of minimal scheme, one of which is disabled. -/
def securedGateway : Gateway Unit Unit where
  handlers := [⟨(), 0x5E, 2, .noScheme⟩, ⟨(), 0x25, 1, .noScheme⟩, ⟨(), 0x86, 3, .netScheme⟩,
    ⟨(), 0x62, 4, .securityScheme2Access⟩, ⟨(), 0x85, 2, .securityScheme0⟩]
  disableCommandList := [0x85]
  netScheme := .securityScheme2Access
  validator _ := .parseOk
  answer _ _ _ := Code.commandHandled.value

/-- Without security the class 0x25 is listed, and with it the classes 0x86 and 0x62. -/
theorem capabilities_match_securedGateway :
    listedClasses securedGateway .noScheme = [0x25] ∧
      listedClasses securedGateway .securityScheme2Access = [0x86, 0x62] ∧
      CapabilitiesMatch securedGateway .securityScheme2Access 10 10 :=
  ⟨by decide, by decide, (capabilities_match securedGateway .securityScheme2Access 10 10).2
    ⟨by decide, by decide, by decide, by decide, by decide, by decide⟩⟩

/-! ### Tables for which they differ -/

/-- A handler in a network without security. -/
def unsecuredGateway (version : UInt8) : Gateway Unit Unit where
  handlers := [⟨(), 0x86, version, .netScheme⟩]
  disableCommandList := []
  netScheme := .noScheme
  validator _ := .parseOk
  answer _ _ _ := Code.commandHandled.value

theorem mem_of_encoded {classes : List UInt16} (hbytes : classes.flatMap encodeClass = [0x86]) :
    (0x86 : UInt16) ∈ classes := by
  cases classes with
  | nil => cases hbytes
  | cons cmdClass rest =>
    rw [flatMap_cons, encodeClass] at hbytes
    split_ifs at hbytes with hone
    · have hfirst : cmdClass.toUInt8 = 0x86 := (List.cons.inj hbytes).1
      have hn : cmdClass.toNat < 0x100 := hone
      have hclass : cmdClass = 0x86 := by
        refine UInt16.toNat_inj.mp ?_
        have htoNat := congrArg UInt8.toNat hfirst
        rw [UInt16.toNat_toUInt8, Nat.mod_eq_of_lt hn] at htoNat
        exact htoNat
      exact hclass ▸ mem_cons_self
    · cases (List.cons.inj hbytes).2

theorem eq_nil_of_encoded {classes : List UInt16} (hbytes : classes.flatMap encodeClass = []) :
    classes = [] := by
  cases classes with
  | nil => rfl
  | cons cmdClass rest =>
    rw [flatMap_cons, encodeClass] at hbytes
    split_ifs at hbytes <;> cases hbytes

/-- In a network without security a handler for its scheme is advertised and refuses a frame with
security; a handler of version 0 that is not advertised answers its version; and a list without room
does not have the class that is answered. -/
theorem capabilities_differ :
    ¬ CapabilitiesMatch (unsecuredGateway 3) .securityScheme2Access 10 10 ∧
      ¬ CapabilitiesMatch
        { unsecuredGateway 0 with disableCommandList := [0x86] } .noScheme 10 10 ∧
      ¬ CapabilitiesMatch (unsecuredGateway 3) .noScheme 0 0 := by
  refine ⟨?_, ?_, ?_⟩
  · rintro ⟨openClasses, secureClasses, hadvertises, hmatch⟩
    have hmem := mem_of_encoded (hadvertises.openBytes.symm)
    obtain ⟨fn, hfn, -, hversion⟩ := (hmatch 0x86 (by decide)).1.mp (.inl hmem)
    obtain rfl := mem_singleton.mp hfn
    exact absurd hversion (by decide)
  · rintro ⟨openClasses, secureClasses, hadvertises, hmatch⟩
    have hlisted := (hmatch 0x86 (by decide)).1.mpr
      ⟨⟨(), 0x86, 0, .netScheme⟩, mem_cons_self, rfl, by decide⟩
    rw [eq_nil_of_encoded hadvertises.openBytes.symm,
      eq_nil_of_encoded hadvertises.secureBytes.symm] at hlisted
    simp at hlisted
  · rintro ⟨openClasses, secureClasses, hadvertises, hmatch⟩
    have hlisted := (hmatch 0x86 (by decide)).1.mpr
      ⟨⟨(), 0x86, 3, .netScheme⟩, mem_cons_self, rfl, by decide⟩
    rw [eq_nil_of_encoded hadvertises.openBytes.symm,
      eq_nil_of_encoded hadvertises.secureBytes.symm] at hlisted
    simp at hlisted

end ZipGateway.CommandHandler
