import ZipGateway.CommandHandler.Model

/-!
# The gate before the handlers

Which handler `ZW_command_handler_run` calls for a frame. The loop over the table passes when every
handler of the class permits the scheme and is not disabled, and then it leaves the last of them
(`securityChecking_eq_ok`). A handler should only be called for a frame that the validator accepts
(`Gated`). The variable `rc` is compared with `PARSE_OK` at the end, though it has a code of the
handlers: `CLASS_NOT_SUPPORTED`, which it also has from the beginning, is the same number. So a
frame of a class that the validator does not know passes too (`gated_iff`).
-/

set_option autoImplicit false

namespace ZipGateway.CommandHandler

open List

section Gate

variable {Fn Session : Type*} (gateway : Gateway Fn Session) (connection : Connection Session)
  (payload : Payload)

/-! ### Which handler is called -/

/-- The last handler of the class of the frame. -/
def lastMatching : Option (Handler Fn) :=
  (gateway.handlers.filter (·.isFor payload)).getLast?

/-- The class of the frame is supported: there is a handler for it, and each handler for it permits
the scheme of the connection and is not disabled. -/
def Supported : Prop :=
  (∃ fn ∈ gateway.handlers, fn.isFor payload = true) ∧
    ∀ fn ∈ gateway.handlers, fn.isFor payload = true →
      permits gateway connection payload fn = true ∧ isInDisabledList gateway fn = false

/-- Handlers are called as they have to be: only for a frame that was accepted, at a scheme that is
permitted and for a class that is not disabled, and then the last one of the class, once. A frame
that was accepted and whose class is supported is answered by that handler, or forwarded. -/
structure Gated (bSupervisionUnwrapped : Bool) : Prop where
  once : ∀ fn ∈ (commandHandlerRun gateway connection payload bSupervisionUnwrapped).calls,
    ∃ last, lastMatching gateway payload = some last ∧
      (commandHandlerRun gateway connection payload bSupervisionUnwrapped).calls = [last.handler] ∧
      gateway.validator payload = .parseOk ∧ permits gateway connection payload last = true ∧
      isInDisabledList gateway last = false
  answered : gateway.validator payload = .parseOk → Supported gateway connection payload →
    (commandHandlerRun gateway connection payload bSupervisionUnwrapped).forwarded = true ∧
      isUnwrappedWakeUp payload bSupervisionUnwrapped = true ∨
    ∃ last, lastMatching gateway payload = some last ∧
      commandHandlerRun gateway connection payload bSupervisionUnwrapped =
        ⟨gateway.answer last.handler connection payload, [last.handler], false⟩

/-! ### The loop over the handlers -/

/-- The loop passes when all handlers of the class do, with the last of them. -/
theorem securityChecking_eq_ok (handlers : List (Handler Fn))
    (checkedFn last : Option (Handler Fn)) : securityChecking gateway connection payload checkedFn
      handlers = .ok last ↔ (∀ fn ∈ handlers, fn.isFor payload = true →
        permits gateway connection payload fn = true ∧ isInDisabledList gateway fn = false) ∧
      last = (handlers.filter (·.isFor payload)).getLast?.or checkedFn := by
  induction handlers generalizing checkedFn with
  | nil =>
    rw [securityChecking, Except.ok.injEq, @eq_comm _ checkedFn]
    simp
  | cons fn rest ih =>
    rw [securityChecking, forall_mem_cons]
    by_cases hfor : fn.isFor payload = true
    · have hfilter : (fn :: rest).filter (·.isFor payload) = fn :: rest.filter (·.isFor payload) :=
        filter_cons_of_pos (by exact hfor)
      rw [if_pos hfor, hfilter]
      by_cases hpermits : permits gateway connection payload fn = true
      · rw [if_pos hpermits]
        by_cases hdisabled : isInDisabledList gateway fn = true
        · simp [hfor, hdisabled]
        · rw [if_neg hdisabled, ih, List.getLast?_cons]
          simp [hfor, hpermits, hdisabled]
      · simp [hfor, hpermits]
    · have hfilter : (fn :: rest).filter (·.isFor payload) = rest.filter (·.isFor payload) :=
        filter_cons_of_neg (by exact hfor)
      rw [if_neg hfor, hfilter, ih]
      simp [hfor]

theorem lastMatching_isSome_iff :
    (∃ last, lastMatching gateway payload = some last) ↔
      ∃ fn ∈ gateway.handlers, fn.isFor payload = true := by
  rw [← Option.isSome_iff_exists, lastMatching, List.getLast?_isSome, ← length_pos_iff,
    length_filter_pos_iff]

theorem lastMatching_mem {last : Handler Fn} (hlast : lastMatching gateway payload = some last) :
    last ∈ gateway.handlers ∧ last.isFor payload = true :=
  mem_filter.mp (mem_of_getLast? hlast)

/-! ### The whole function -/

/-- The number to which `PARSE_OK` is compared is that of an accepted frame and of an unknown
class. -/
theorem rcOf_eq_parseOk (result : ValidatorResult) :
    rcOf result = ValidatorResult.parseOk.value ↔ result = .parseOk ∨ result = .unknownClass := by
  cases result <;> decide

/-- A frame whose class is supported reaches the last handler when it was accepted, or its class is
not known. -/
theorem commandHandlerRun_supported {bSupervisionUnwrapped : Bool}
    (hwakeUp : isUnwrappedWakeUp payload bSupervisionUnwrapped = false)
    (hsupported : Supported gateway connection payload) :
    ∃ last, lastMatching gateway payload = some last ∧
      commandHandlerRun gateway connection payload bSupervisionUnwrapped =
        if gateway.validator payload = .parseOk ∨ gateway.validator payload = .unknownClass then
          ⟨gateway.answer last.handler connection payload, [last.handler], false⟩
        else ⟨rcOf (gateway.validator payload), [], false⟩ := by
  obtain ⟨last, hlast⟩ := (lastMatching_isSome_iff gateway payload).mpr hsupported.1
  have hchecking : securityChecking gateway connection payload none gateway.handlers =
      .ok (some last) := by
    refine (securityChecking_eq_ok gateway connection payload _ _ _).mpr ⟨hsupported.2, ?_⟩
    rw [← hlast, Option.or_none]
    rfl
  refine ⟨last, hlast, ?_⟩
  unfold commandHandlerRun
  rw [hwakeUp, hchecking]
  simp only [Bool.false_eq_true, if_false, rcOf_eq_parseOk]

/-- No handler is called for a class that is not supported. -/
theorem commandHandlerRun_calls_nil {bSupervisionUnwrapped : Bool}
    (hother : isUnwrappedWakeUp payload bSupervisionUnwrapped = true ∨
      ¬Supported gateway connection payload) :
    (commandHandlerRun gateway connection payload bSupervisionUnwrapped).calls = [] := by
  unfold commandHandlerRun
  dsimp only
  by_cases hwakeUp : isUnwrappedWakeUp payload bSupervisionUnwrapped = true
  · rw [if_pos hwakeUp]
  rw [if_neg hwakeUp]
  have hunsupported := hother.resolve_left hwakeUp
  split
  · rfl
  · rfl
  · rename_i checkedFn hchecking
    obtain ⟨hall, hlast⟩ := (securityChecking_eq_ok gateway connection payload _ _ _).mp hchecking
    rw [Option.or_none] at hlast
    have hsome := (lastMatching_isSome_iff gateway payload).mp ⟨checkedFn, hlast.symm⟩
    exact absurd ⟨hsome, hall⟩ hunsupported

/-- The gate is kept exactly when no frame of an unknown class reaches a handler: the validator
knows the class, or the class is not supported, or the frame is forwarded. -/
theorem gated_iff (bSupervisionUnwrapped : Bool) :
    Gated gateway connection payload bSupervisionUnwrapped ↔
      ¬(gateway.validator payload = .unknownClass ∧
        isUnwrappedWakeUp payload bSupervisionUnwrapped = false ∧
        Supported gateway connection payload) := by
  constructor
  · rintro hgated ⟨hunknown, hwakeUp, hsupported⟩
    obtain ⟨last, -, hrun⟩ :=
      commandHandlerRun_supported gateway connection payload hwakeUp hsupported
    rw [if_pos (.inr hunknown)] at hrun
    obtain ⟨-, -, -, hok, -⟩ := hgated.once last.handler (by rw [hrun]; simp)
    rw [hunknown] at hok
    cases hok
  · intro hknown
    by_cases hother : isUnwrappedWakeUp payload bSupervisionUnwrapped = true ∨
        ¬Supported gateway connection payload
    · have hcalls := commandHandlerRun_calls_nil gateway connection payload hother
      refine ⟨fun fn hfn ↦ ?_, fun _ hsupported ↦ .inl ?_⟩
      · rw [hcalls] at hfn
        cases hfn
      · have hwakeUp := hother.resolve_right (not_not.mpr hsupported)
        refine ⟨?_, hwakeUp⟩
        unfold commandHandlerRun
        rw [if_pos hwakeUp]
    · push Not at hother
      obtain ⟨hwakeUp, hsupported⟩ := hother
      have hwakeUp :
          isUnwrappedWakeUp payload bSupervisionUnwrapped = false := by simpa using hwakeUp
      obtain ⟨last, hlast, hrun⟩ :=
        commandHandlerRun_supported gateway connection payload hwakeUp hsupported
      have hclass : gateway.validator payload ≠ .unknownClass :=
        fun hunknown ↦ hknown ⟨hunknown, hwakeUp, hsupported⟩
      obtain ⟨hmem, hfor⟩ := lastMatching_mem gateway payload hlast
      obtain ⟨hpermits, henabled⟩ := hsupported.2 last hmem hfor
      by_cases hok : gateway.validator payload = .parseOk
      · rw [if_pos (.inl hok)] at hrun
        refine ⟨fun fn _ ↦ ⟨last, hlast, ?_, hok, hpermits, henabled⟩,
          fun _ _ ↦ .inr ⟨last, hlast, hrun⟩⟩
        rw [hrun]
      · rw [if_neg (not_or.mpr ⟨hok, hclass⟩)] at hrun
        refine ⟨fun fn hfn ↦ ?_, fun haccepted ↦ absurd haccepted hok⟩
        rw [hrun] at hfn
        cases hfn

end Gate

/-! ### A frame of an unknown class -/

/-- One handler, of a class that the validator does not know. -/
def unknownClassGateway : Gateway Unit Unit where
  handlers := [⟨(), 0x20, 1, .noScheme⟩]
  disableCommandList := []
  netScheme := .noScheme
  validator _ := .unknownClass
  answer _ _ _ := Code.commandHandled.value

/-- The handler is called for a frame that the validator did not accept. -/
theorem unknown_class_handled :
    ¬ ∀ (gateway : Gateway Unit Unit) (connection : Connection Unit) (payload : Payload)
      (bSupervisionUnwrapped : Bool), Gated gateway connection payload bSupervisionUnwrapped := by
  intro hall
  obtain ⟨-, -, -, hok, -⟩ :=
    (hall unknownClassGateway ⟨.noScheme, ()⟩ ⟨0x20, 0x01, []⟩ false).once () (by decide)
  cases hok

end ZipGateway.CommandHandler
