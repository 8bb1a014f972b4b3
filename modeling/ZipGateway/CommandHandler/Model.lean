import Mathlib.Data.List.Basic

/-!
# The command handlers

The model of `src/src/command_handler.c`: the table of the registered handlers, the function that
finds the handler of a frame (`commandHandlerRun`), and the two functions that tell what is
supported (`comamndHandlerVersionGet` and `commandHandlerGetNif`).

The validator of frames is generated when the gateway is built, so it is an argument, and so is what
a handler answers. A handler is known by its function `Fn`, and `Outcome.calls` has the functions
that were called. The two enumerations of the source are kept apart, with the numbers that their
names stand for, because the source compares a number of the one with a name of the other.
-/

set_option autoImplicit false

namespace ZipGateway.CommandHandler

/-! ### Enumerations -/

/-- `security_scheme_t`. -/
inductive Scheme
  | noScheme
  | autoScheme
  | netScheme
  | useCrc16
  | securityScheme0
  | securityScheme2Unauthenticated
  | securityScheme2Authenticated
  | securityScheme2Access
  | securitySchemeUdp
deriving DecidableEq, Repr

/-- `command_handler_codes_t`. -/
inductive Code
  | commandHandled
  | commandParseError
  | commandBusy
  | commandNotSupported
  | classNotSupported
  | commandPostponed
  | commandClassDisabled
deriving DecidableEq, Repr

/-- The number of a code. -/
def Code.value : Code → UInt8
  | .commandHandled => 0
  | .commandParseError => 1
  | .commandBusy => 2
  | .commandNotSupported => 3
  | .classNotSupported => 4
  | .commandPostponed => 5
  | .commandClassDisabled => 6

/-- `validator_result_t`. -/
inductive ValidatorResult
  | unknownClass
  | unknownCommand
  | unknownParameter
  | parseFail
  | parseOk
deriving DecidableEq, Repr

/-- The number of a result. -/
def ValidatorResult.value : ValidatorResult → UInt8
  | .unknownClass => 0
  | .unknownCommand => 1
  | .unknownParameter => 2
  | .parseFail => 3
  | .parseOk => 4

/-- `COMMAND_CLASS_MANUFACTURER_SPECIFIC_V2`. -/
def commandClassManufacturerSpecific : UInt16 := 0x72

def manufacturerSpecificGet : UInt8 := 0x04

def commandClassWakeUp : UInt8 := 0x84

def wakeUpNotification : UInt8 := 0x07

def wakeUpIntervalReport : UInt8 := 0x06

/-- `COMMAND_CLASS_ZWAVEPLUS_INFO_V2`. -/
def commandClassZwaveplusInfo : UInt16 := 0x5E

/-! ### The table -/

/-- `command_handler_t`, without the function that initializes it. -/
structure Handler (Fn : Type*) where
  handler : Fn
  cmdClass : UInt16
  version : UInt8
  minimalScheme : Scheme
deriving DecidableEq

/-- `zwave_connection_t`: the scheme, and what only the handlers use. -/
structure Connection (Session : Type*) where
  scheme : Scheme
  session : Session

/-- A payload of at least two bytes. -/
structure Payload where
  cmdClass : UInt8
  cmd : UInt8
  rest : List UInt8
deriving DecidableEq

/-- The registered handlers, the variables of the file, and the functions that are called. -/
structure Gateway (Fn Session : Type*) where
  handlers : List (Handler Fn)
  disableCommandList : List UInt16
  netScheme : Scheme
  /-- `ZW_command_validator`. -/
  validator : Payload → ValidatorResult
  /-- What a handler answers. -/
  answer : Fn → Connection Session → Payload → UInt8

section Model

variable {Fn Session : Type*} (gateway : Gateway Fn Session)

/-- `is_in_disabled_list`. -/
def isInDisabledList (fn : Handler Fn) : Bool :=
  gateway.disableCommandList.contains fn.cmdClass

/-- `scheme_prio`. -/
def schemePrio : Scheme → ℕ
  | .securitySchemeUdp => 0xFFFF
  | .securityScheme2Access => 4
  | .securityScheme2Authenticated => 3
  | .securityScheme2Unauthenticated => 2
  | .securityScheme0 => 1
  | _ => 0

/-- `scheme_compare`. -/
def schemeCompare (a b : Scheme) : Bool :=
  schemePrio b ≤ schemePrio a

/-- `supports_frame_at_security_level`. -/
def supportsFrameAtSecurityLevel (fn : Handler Fn) (scheme : Scheme) : Bool :=
  let scheme := if scheme = .useCrc16 then .noScheme else scheme
  if fn.minimalScheme = .netScheme then scheme == gateway.netScheme || scheme == .securitySchemeUdp
  else
    fn.minimalScheme == .noScheme ||
      schemeCompare scheme gateway.netScheme && schemeCompare scheme fn.minimalScheme

/-- `exception_CC_security_level_check`. -/
def exceptionCcSecurityLevelCheck (scheme : Scheme) (exemptcmdClass : UInt16) (exemptCmd : UInt8) :
    Bool :=
  gateway.netScheme == .securityScheme0 && exemptcmdClass == commandClassManufacturerSpecific &&
    scheme == .noScheme && exemptCmd == manufacturerSpecificGet

/-! ### Received frames -/

/-- What `ZW_command_handler_run` answers, the handlers that it calls, and whether it gives the
frame to `ApplicationCommandHandlerZIP`. -/
structure Outcome (Fn : Type*) where
  answer : UInt8
  calls : List Fn
  forwarded : Bool
deriving DecidableEq

/-- The variable `rc` after the frame was validated. -/
def rcOf (result : ValidatorResult) : UInt8 :=
  if result ≠ .parseOk then
    match result with
    | .unknownClass => Code.classNotSupported.value
    | .unknownCommand => Code.commandNotSupported.value
    | .unknownParameter | .parseFail => Code.commandParseError.value
    | .parseOk => ValidatorResult.parseOk.value
  else Code.classNotSupported.value

/-- The frame was in a supervision command and is one that sleeping nodes send. -/
def isUnwrappedWakeUp (payload : Payload) (bSupervisionUnwrapped : Bool) : Bool :=
  bSupervisionUnwrapped && payload.cmdClass == commandClassWakeUp &&
    (payload.cmd == wakeUpNotification || payload.cmd == wakeUpIntervalReport)

/-- The handler is one of the class of the frame. -/
def Handler.isFor (fn : Handler Fn) (payload : Payload) : Bool :=
  fn.cmdClass == payload.cmdClass.toUInt16

/-- The scheme is permitted for the handler, or the exception applies. -/
def permits (connection : Connection Session) (payload : Payload) (fn : Handler Fn) : Bool :=
  supportsFrameAtSecurityLevel gateway fn connection.scheme ||
    exceptionCcSecurityLevelCheck gateway connection.scheme payload.cmdClass.toUInt16 payload.cmd

/-- The loop over the handlers: the variable `checked_fn` at its end, or the code that is returned
from within. -/
def securityChecking (connection : Connection Session) (payload : Payload) :
    Option (Handler Fn) → List (Handler Fn) → Except Code (Option (Handler Fn))
  | checkedFn, [] => .ok checkedFn
  | checkedFn, fn :: rest =>
    if fn.isFor payload then
      if permits gateway connection payload fn then
        if isInDisabledList gateway fn then .error .commandClassDisabled
        else securityChecking connection payload (some fn) rest
      else .error .classNotSupported
    else securityChecking connection payload checkedFn rest

/-- `ZW_command_handler_run`. -/
def commandHandlerRun (connection : Connection Session) (payload : Payload)
    (bSupervisionUnwrapped : Bool) : Outcome Fn :=
  let rc := rcOf (gateway.validator payload)
  if isUnwrappedWakeUp payload bSupervisionUnwrapped then ⟨Code.commandHandled.value, [], true⟩
  else
    match securityChecking gateway connection payload none gateway.handlers with
    | .error code => ⟨code.value, [], false⟩
    | .ok none => ⟨Code.classNotSupported.value, [], false⟩
    | .ok (some checkedFn) =>
      if rc = ValidatorResult.parseOk.value then
        ⟨gateway.answer checkedFn.handler connection payload, [checkedFn.handler], false⟩
      else ⟨rc, [], false⟩

/-! ### What is supported -/

/-- `ZW_comamnd_handler_version_get`. -/
def comamndHandlerVersionGet (scheme : Scheme) (cmdClass : UInt16) : UInt8 :=
  match gateway.handlers.find? fun fn ↦ !isInDisabledList gateway fn && fn.cmdClass == cmdClass &&
      supportsFrameAtSecurityLevel gateway fn scheme with
  | some fn => fn.version
  | none => 0x00

/-- What `ZW_command_handler_get_nif` has written, and whether the assertion failed that there is
room. -/
structure Nif where
  bytes : List UInt8
  exceeded : Bool
deriving DecidableEq

/-- The bytes that are written for a class. -/
def nifBytes (cmdClass : UInt16) : List UInt8 :=
  if cmdClass &&& 0xF0 = 0xF0 then [(cmdClass >>> 8).toUInt8, cmdClass.toUInt8]
    else [cmdClass.toUInt8]

/-- The handler is listed for the scheme. -/
def isListed (scheme : Scheme) (fn : Handler Fn) : Bool :=
  !isInDisabledList gateway fn && supportsFrameAtSecurityLevel gateway fn scheme &&
    !(scheme != .noScheme && supportsFrameAtSecurityLevel gateway fn .noScheme) &&
    fn.cmdClass != commandClassZwaveplusInfo

/-- The loop of `ZW_command_handler_get_nif`. -/
def getNifFrom (scheme : Scheme) (maxLen : UInt8) : List UInt8 → List (Handler Fn) → Nif
  | nif, [] => ⟨nif, false⟩
  | nif, fn :: rest =>
    if isListed gateway scheme fn then
      if maxLen.toNat < nif.length + (nifBytes fn.cmdClass).length then ⟨nif, true⟩
      else getNifFrom scheme maxLen (nif ++ nifBytes fn.cmdClass) rest
    else getNifFrom scheme maxLen nif rest

/-- `ZW_command_handler_get_nif`. -/
def commandHandlerGetNif (scheme : Scheme) (maxLen : UInt8) : Nif :=
  getNifFrom gateway scheme maxLen [] gateway.handlers

end Model

end ZipGateway.CommandHandler
