import Mathlib.Tactic
import ZipGateway.CommandHandler.Gate

/-!
# Commands in commands

`MultiCommandHandler` of `src/src/CC_Multicmd.c` and `SupervisionCommandHandler` of
`src/src/CC_Supervision.c` take a command out of the one they get, and hand it on to the functions
that have called them. A command is a window of the memory here, and the model gives out each window
that is handed on, with the one that it was taken from. The other handlers take no commands out of
their frame, so what they do is left out, and so is what is sent back.

`unwrapping_iff` says that all windows are inside, that the recursion ends, and when the commands of
a multi command are the ones that are handed on.
-/

set_option autoImplicit false

namespace ZipGateway.CommandHandler.Unwrapping

open List

/-! ### The functions -/

def commandClassSupervision : UInt8 := 0x6C
def supervisionGet : UInt8 := 0x01
def supervisionReport : UInt8 := 0x02
def commandClassMultiCmd : UInt8 := 0x8F
def multiCmdEncap : UInt8 := 0x01

/-- Some bytes of the memory. -/
structure Window where
  start : ℕ
  len : ℕ
deriving DecidableEq

def byte (mem : List UInt8) (i : ℕ) : UInt8 := mem.getD i 0

/-- The command in a window of two bytes or more. -/
def payload (mem : List UInt8) (w : Window) : Payload :=
  ⟨byte mem w.start, byte mem (w.start + 1), (mem.drop (w.start + 2)).take (w.len - 2)⟩

/-- The loop of `MultiCommandHandler`: how many commands are left, and `off`. A command is handed on
before the next one is looked for; that changes nothing in the frame. -/
def multiLoop (mem : List UInt8) (w : Window) : ℕ → UInt8 → List Window
  | 0, _ => []
  | left + 1, off =>
    if w.len ≤ off.toNat then []
    else
      let cmdLen := byte mem (w.start + off.toNat)
      if w.len < off.toNat + 1 + cmdLen.toNat then []
      else ⟨w.start + off.toNat + 1, cmdLen.toNat⟩ :: multiLoop mem w left (off + (cmdLen + 1))

/-- The windows that `MultiCommandHandler` hands on. -/
def multiWindows (mem : List UInt8) (w : Window) : List Window :=
  if byte mem (w.start + 1) ≠ multiCmdEncap then []
  else if w.len < 5 then []
  else multiLoop mem w (byte mem (w.start + 2)).toNat 3

/-- The function of a handler. -/
inductive Fn
  | multiCommandHandler
  | supervisionCommandHandler
  | other (n : ℕ)

/-- The groups in a multi command: the validator adds up their lengths. -/
def groupsValidator (d : List UInt8) : ℕ → ℕ → ValidatorResult
  | 0, passed => if d.length < passed then .parseFail else .parseOk
  | left + 1, passed =>
    if d.length ≤ passed then .parseFail else groupsValidator d left
      (passed + 1 + (byte d passed).toNat)

/-- What the validator says to `COMMAND_CLASS_MULTI_CMD`. -/
def multiCmdValidator (p : Payload) : ValidatorResult :=
  if p.cmd = multiCmdEncap then
    match p.rest with
    | [] => .parseFail
    | count :: _ => groupsValidator p.rest count.toNat 1
  else .unknownCommand

/-- What the validator says to `COMMAND_CLASS_SUPERVISION`. -/
def supervisionValidator (p : Payload) : ValidatorResult :=
  if p.cmd = supervisionGet then
    match p.rest with
    | _ :: len :: more => if len.toNat ≤ more.length then .parseOk else .parseFail
    | _ => .parseFail
  else if p.cmd = supervisionReport then
    match p.rest with
    | _ :: status :: more =>
      if status ∉ [0x00, 0x01, 0x02, 0x03, 0xFF] then .unknownParameter
      else if more.length < 1 then .parseFail else .parseOk
    | _ => .parseFail
  else .unknownCommand

/-- A gateway in which the handler of Supervision is registered for its class only, and the
validator knows both classes. -/
structure UnwrapGateway (Session : Type*) extends Gateway Fn Session where
  supervision : ∀ fn ∈ handlers, fn.handler = .supervisionCommandHandler →
    fn.cmdClass = commandClassSupervision.toUInt16
  multiValid : ∀ p : Payload, p.cmdClass = commandClassMultiCmd → validator p = multiCmdValidator p
  supervisionValid : ∀ p : Payload, p.cmdClass = commandClassSupervision →
    validator p = supervisionValidator p

/-- Any gateway, with the rows of the two handlers before its own, and with what the validator says
to their classes. -/
def unwrapGateway {Session : Type*} (others : Gateway ℕ Session) : UnwrapGateway Session where
  handlers :=
    ⟨.multiCommandHandler, commandClassMultiCmd.toUInt16, 1, .noScheme⟩ ::
      ⟨.supervisionCommandHandler, commandClassSupervision.toUInt16, 1, .noScheme⟩ ::
        others.handlers.map fun fn ↦ ⟨.other fn.handler, fn.cmdClass, fn.version, fn.minimalScheme⟩
  disableCommandList := others.disableCommandList
  netScheme := others.netScheme
  validator p :=
    if p.cmdClass = commandClassMultiCmd then multiCmdValidator p
    else if p.cmdClass = commandClassSupervision then supervisionValidator p
    else others.validator p
  answer
    | .other n, connection, p => others.answer n connection p
    | _, _, _ => Code.commandHandled.value
  supervision := by
    intro fn hmem hfn
    obtain rfl | hmem := mem_cons.mp hmem
    · cases hfn
    · obtain rfl | hmem := mem_cons.mp hmem
      · rfl
      · obtain ⟨other, -, rfl⟩ := mem_map.mp hmem
        cases hfn
  multiValid _ hclass := if_pos hclass
  supervisionValid p hclass := by
    have hother : ¬ p.cmdClass = commandClassMultiCmd := by
      rw [hclass]
      decide
    rw [if_neg hother, if_pos hclass]

/-- The connection of a frame: whether it was received by singlecast, and whether it was sent to a
multicast address.
-/
structure Sender (Session Ip : Type*) where
  connection : Connection Session
  ripaddr : Ip
  single : Bool
  mcast : Bool

/-- `last_src_ip` and `last_sessionid`. -/
structure Last (Ip : Type*) where
  srcIp : Ip
  sessionid : UInt8

/-- The windows that were handed on, each with the one that it was taken from. -/
abbrev Trace := List (Window × Window)

section Functions

variable {Session Ip : Type*} [DecidableEq Ip] (g : UnwrapGateway Session) (mem : List UInt8)
  (sender : Sender Session Ip)

/-- `ApplicationIpCommandHandler`, which calls `ZW_command_handler_run`. -/
def applicationIpCommandHandler (run : Bool → Window → Last Ip → Trace × Last Ip) (w : Window)
    (last : Last Ip) : Trace × Last Ip :=
  if w.len < 2 then ([], last)
  else if !(byte mem w.start == commandClassSupervision && byte mem (w.start + 1) ==
    supervisionGet) &&
      (!sender.single || sender.mcast) then ([], last)
  else run false w last

/-- Windows are handed on one after the other. -/
def handEach (outer : Window) (hand : Window → Last Ip → Trace × Last Ip) :
    List Window → Last Ip → Trace × Last Ip
  | [], last => ([], last)
  | w :: rest, last =>
    let (first, last) := hand w last
    let (later, last) := handEach outer hand rest last
    ((outer, w) :: first ++ later, last)

/-- `SupervisionCommandHandler`, which calls `ZW_command_handler_run`. -/
def supervisionCommandHandler (run : Bool → Window → Last Ip → Trace × Last Ip) (w : Window)
    (last : Last Ip) : Trace × Last Ip :=
  if byte mem (w.start + 1) ≠ supervisionGet then ([], last)
  else
    let sessionid := byte mem (w.start + 2) &&& 0x3F
    if sessionid = last.sessionid ∧ sender.single = true ∧
      last.srcIp = sender.ripaddr then ([], last)
    else handEach w (run true) [⟨w.start + 4, (byte mem (w.start + 3)).toNat⟩]
      ⟨sender.ripaddr, sessionid⟩

/-- `ZW_command_handler_run`, with the handlers that it calls. The first number bounds the depth of
the calls. -/
def commandHandlerRunIn : ℕ → Bool → Window → Last Ip → Trace × Last Ip
  | 0, _, _, last => ([], last)
  | fuel + 1, bSupervisionUnwrapped, w, last =>
    if w.len < 2 then ([], last)
    else
      match (commandHandlerRun g.toGateway sender.connection
        (payload mem w) bSupervisionUnwrapped).calls with
      | [.multiCommandHandler] =>
        handEach w (applicationIpCommandHandler mem sender (commandHandlerRunIn fuel))
          (multiWindows mem w) last
      | [.supervisionCommandHandler] =>
        supervisionCommandHandler mem sender (commandHandlerRunIn fuel) w last
      | _ => ([], last)

end Functions

/-! ### What they are for -/

/-- A window is a part of another one. -/
def Inside (outer inner : Window) : Prop :=
  outer.start ≤ inner.start ∧ inner.start + inner.len ≤ outer.start + outer.len

/-- Commands, each with its length before it. -/
def body (cmds : List (List UInt8)) : List UInt8 := cmds.flatMap fun c ↦ UInt8.ofNat c.length :: c

/-- A well-formed multi command in the memory. -/
structure MultiFrame (mem : List UInt8) where
  window : Window
  cmds : List (List UInt8)
  count : cmds.length < 256
  small : ∀ c ∈ cmds, c.length < 256
  room : window.start + window.len ≤ mem.length
  bytes : (mem.drop window.start).take window.len =
    commandClassMultiCmd :: multiCmdEncap :: UInt8.ofNat cmds.length :: body cmds

/-- The windows of the commands, when the first one starts at some offset. -/
def commandWindows (start : ℕ) : ℕ → List (List UInt8) → List Window
  | _, [] => []
  | off, c :: rest => ⟨start + off + 1, c.length⟩ :: commandWindows start (off + 1 + c.length) rest

/-! ### Windows -/

section Windows

variable {mem : List UInt8} {outer w inner : Window}

theorem Inside.trans (h : Inside outer w) (hinner : Inside w inner) : Inside outer inner :=
  ⟨h.1.trans hinner.1, hinner.2.trans h.2⟩

/-- What the loop hands on is inside of the frame, and shorter than it. -/
theorem inside_of_mem_multiLoop {left : ℕ} {off : UInt8}
    (hinner : inner ∈ multiLoop mem w left off) : Inside w inner ∧ inner.len < w.len := by
  induction left generalizing off with
  | zero => exact absurd hinner not_mem_nil
  | succ left ih =>
    unfold multiLoop at hinner
    dsimp only at hinner
    split_ifs at hinner with hend hlong
    · exact absurd hinner not_mem_nil
    · exact absurd hinner not_mem_nil
    · rcases mem_cons.mp hinner with rfl | hlater
      · exact ⟨⟨by dsimp only; omega, by dsimp only; omega⟩, by dsimp only; omega⟩
      · exact ih hlater

theorem inside_of_mem_multiWindows (hinner : inner ∈ multiWindows mem w) :
    Inside w inner ∧ inner.len < w.len := by
  unfold multiWindows at hinner
  split_ifs at hinner
  · exact absurd hinner not_mem_nil
  · exact absurd hinner not_mem_nil
  · exact inside_of_mem_multiLoop hinner

/-- The validator has checked the length in a Supervision Get. -/
theorem inside_of_supervisionValid (hcmd : byte mem (w.start + 1) = supervisionGet)
    (hvalid : supervisionValidator (payload mem w) = .parseOk) :
    Inside w ⟨w.start + 4, (byte mem (w.start + 3)).toNat⟩ ∧
      (byte mem (w.start + 3)).toNat < w.len := by
  unfold supervisionValidator at hvalid
  rw [if_pos (show (payload mem w).cmd = supervisionGet from hcmd)] at hvalid
  split at hvalid
  · rename_i first len more hrest
    split_ifs at hvalid with hlen
    have hlength : ((mem.drop (w.start + 2)).take (w.len - 2)).length ≤ w.len - 2 :=
      length_take_le _ _
    have hrest' : (mem.drop (w.start + 2)).take (w.len - 2) = first :: len :: more := hrest
    have hbyte : byte mem (w.start + 3) = len := by
      have hat := congrArg (·[1]?) hrest'
      simp only [List.getElem?_take, List.getElem?_drop] at hat
      split_ifs at hat
      · unfold byte
        rw [getD_eq_getElem?_getD, hat]
        rfl
      · cases hat
    rw [hrest', length_cons, length_cons] at hlength
    rw [hbyte]
    exact ⟨⟨by dsimp only; omega, by dsimp only; omega⟩, by omega⟩
  · cases hvalid

end Windows

/-! ### The recursion -/

section Hand

variable {Session Ip : Type*} {mem : List UInt8} {sender : Sender Session Ip}

theorem handEach_cons (outer : Window) (hand : Window → Last Ip → Trace × Last Ip) (w : Window)
    (rest : List Window) (last : Last Ip) : handEach outer hand (w :: rest) last =
      ((outer, w) :: (hand w last).1 ++ (handEach outer hand rest (hand w last).2).1,
        (handEach outer hand rest (hand w last).2).2) := rfl

theorem mem_handEach {outer : Window} {hand : Window → Last Ip → Trace × Last Ip} {ws : List Window}
    {last : Last Ip} {entry : Window × Window} (hentry : entry ∈ (handEach outer hand ws last).1) :
    ∃ w ∈ ws, entry = (outer, w) ∨ ∃ before, entry ∈ (hand w before).1 := by
  induction ws generalizing last with
  | nil => exact absurd hentry not_mem_nil
  | cons w rest ih =>
    have hsplit : entry ∈ (outer, w) :: (hand w last).1 ++
      (handEach outer hand rest (hand w last).2).1 := hentry
    rcases mem_append.mp hsplit with hfirst | hlater
    · refine ⟨w, mem_cons_self, ?_⟩
      rcases mem_cons.mp hfirst with heq | hhand
      · exact Or.inl heq
      · exact Or.inr ⟨last, hhand⟩
    · obtain ⟨later, hmem, h⟩ := ih hlater
      exact ⟨later, mem_cons_of_mem _ hmem, h⟩

theorem handEach_congr {outer : Window} {hand other : Window → Last Ip → Trace × Last Ip}
    {ws : List Window} (hsame : ∀ w ∈ ws, ∀ last, hand w last = other w last) (last : Last Ip) :
    handEach outer hand ws last = handEach outer other ws last := by
  induction ws generalizing last with
  | nil => rfl
  | cons w rest ih =>
    rw [handEach_cons, handEach_cons, hsame w mem_cons_self,
      ih fun later hlater ↦ hsame later (mem_cons_of_mem _ hlater)]

theorem mem_applicationIp {run : Bool → Window → Last Ip → Trace × Last Ip} {w : Window}
    {last : Last Ip}
    {entry : Window × Window}
    (hentry : entry ∈ (applicationIpCommandHandler mem sender run w last).1) :
    entry ∈ (run false w last).1 := by
  unfold applicationIpCommandHandler at hentry
  split_ifs at hentry
  · exact absurd hentry not_mem_nil
  · exact absurd hentry not_mem_nil
  · exact hentry

end Hand

section Recursion

variable {Session Ip : Type*} (g : UnwrapGateway Session) (mem : List UInt8)
  (sender : Sender Session Ip)

/-- A handler that is called is registered for the class of the frame, and the validator has
accepted that or does not know the class. -/
theorem validated_of_calls {p : Payload} {unwrapped : Bool} {fn : Fn}
    (hcalls : (commandHandlerRun g.toGateway sender.connection p unwrapped).calls = [fn]) :
    (∃ h ∈ g.handlers, h.handler = fn ∧ h.cmdClass = p.cmdClass.toUInt16) ∧
      (g.validator p = .parseOk ∨ g.validator p = .unknownClass) := by
  by_cases hwakeUp : isUnwrappedWakeUp p unwrapped = true
  · rw [commandHandlerRun_calls_nil _ _ _ (Or.inl hwakeUp)] at hcalls
    cases hcalls
  · by_cases hsupported : Supported g.toGateway sender.connection p
    · obtain ⟨last, hlast, hrun⟩ := commandHandlerRun_supported g.toGateway sender.connection p
        (Bool.eq_false_iff.mpr hwakeUp) hsupported
      rw [hrun] at hcalls
      split_ifs at hcalls with hvalid
      obtain ⟨hmem, hfor⟩ := lastMatching_mem g.toGateway p hlast
      exact ⟨⟨last, hmem, (List.cons.inj hcalls).1, eq_of_beq hfor⟩, hvalid⟩
    · rw [commandHandlerRun_calls_nil _ _ _ (Or.inr hsupported)] at hcalls
      cases hcalls

/-- When the handler of Supervision is called, the validator has accepted the frame. -/
theorem supervisionValid_of_calls {w : Window} {unwrapped : Bool}
    (hcalls : (commandHandlerRun g.toGateway sender.connection (payload mem w) unwrapped).calls =
      [.supervisionCommandHandler]) : supervisionValidator (payload mem w) = .parseOk := by
  obtain ⟨⟨h, hmem, hfn, hclass⟩, hvalid⟩ := validated_of_calls g sender hcalls
  have hpayload : (payload mem w).cmdClass = commandClassSupervision := by
    have heq := (g.supervision h hmem hfn).symm.trans hclass
    have hnat := congrArg UInt16.toNat heq
    rw [UInt8.toNat_toUInt16, UInt8.toNat_toUInt16] at hnat
    exact (UInt8.toNat_inj.mp hnat).symm
  rw [g.supervisionValid _ hpayload] at hvalid
  refine hvalid.resolve_right fun hunknown ↦ ?_
  unfold supervisionValidator at hunknown
  split_ifs at hunknown <;> split at hunknown <;> try split_ifs at hunknown
  all_goals cases hunknown

variable {g mem sender} [DecidableEq Ip]

/-- The depth of the calls is bounded by the length of the frame. -/
theorem commandHandlerRunIn_eq {fuel other : ℕ} {w : Window} (hfuel : w.len < fuel)
    (hother : w.len < other) (unwrapped : Bool) (last : Last Ip) :
    commandHandlerRunIn g mem sender fuel unwrapped w last =
      commandHandlerRunIn g mem sender other unwrapped w last := by
  induction fuel generalizing other w unwrapped last with
  | zero => exact absurd hfuel (Nat.not_lt_zero _)
  | succ fuel ih =>
    obtain ⟨other, rfl⟩ : ∃ less, other = less + 1 := ⟨other - 1, by omega⟩
    unfold commandHandlerRunIn
    split_ifs
    · rfl
    · split
      · refine handEach_congr (fun inner hinner before ↦ ?_) last
        have hlen := (inside_of_mem_multiWindows hinner).2
        unfold applicationIpCommandHandler
        split_ifs
        · rfl
        · rfl
        · exact ih (by omega) (by omega) false before
      · rename_i hcalls
        unfold supervisionCommandHandler
        dsimp only
        split_ifs with hcmd hduplicate
        · rfl
        · rfl
        · refine handEach_congr (fun inner hinner before ↦ ?_) _
          obtain rfl := mem_singleton.mp hinner
          have hlen := (inside_of_supervisionValid (not_not.mp hcmd)
            (supervisionValid_of_calls g mem sender hcalls)).2
          exact ih (by dsimp only; omega) (by dsimp only; omega) true before
      · rfl

/-- Every window that is handed on is inside of the one that it was taken from, and that is inside
of the frame. -/
theorem inside_of_mem {fuel : ℕ} {unwrapped : Bool} {w : Window} {last : Last Ip}
    {entry : Window × Window}
    (hentry : entry ∈ (commandHandlerRunIn g mem sender fuel unwrapped w last).1) :
    Inside w entry.1 ∧ Inside entry.1 entry.2 := by
  induction fuel generalizing unwrapped w last with
  | zero => exact absurd hentry not_mem_nil
  | succ fuel ih =>
    unfold commandHandlerRunIn at hentry
    split_ifs at hentry
    · exact absurd hentry not_mem_nil
    · split at hentry
      · obtain ⟨inner, hinner, rfl | ⟨before, hlater⟩⟩ := mem_handEach hentry
        · exact ⟨⟨le_rfl, le_rfl⟩, (inside_of_mem_multiWindows hinner).1⟩
        · have h := ih (mem_applicationIp hlater)
          exact ⟨(inside_of_mem_multiWindows hinner).1.trans h.1, h.2⟩
      · rename_i hcalls
        unfold supervisionCommandHandler at hentry
        dsimp only at hentry
        split_ifs at hentry with hcmd hduplicate
        · exact absurd hentry not_mem_nil
        · exact absurd hentry not_mem_nil
        · have hinside := (inside_of_supervisionValid (not_not.mp hcmd)
            (supervisionValid_of_calls g mem sender hcalls)).1
          obtain ⟨inner, hinner, hcases⟩ := mem_handEach hentry
          obtain rfl := mem_singleton.mp hinner
          rcases hcases with rfl | ⟨before, hlater⟩
          · exact ⟨⟨le_rfl, le_rfl⟩, hinside⟩
          · exact ⟨hinside.trans (ih hlater).1, (ih hlater).2⟩
      · exact absurd hentry not_mem_nil

end Recursion

/-! ### The commands of a multi command -/

section Commands

variable {mem : List UInt8}

theorem length_body_cons (c : List UInt8) (rest : List (List UInt8)) :
    (body (c :: rest)).length = 1 + c.length + (body rest).length := by
  unfold body
  rw [flatMap_cons, length_append, length_cons, Nat.add_comm c.length]

/-- The byte at an offset of a window, when it is known what the window holds from there on. -/
theorem byte_of_drop_take {start len off : ℕ} {c : UInt8} {rest : List UInt8}
    (hbytes : (mem.drop (start + off)).take len = c :: rest) : byte mem (start + off) = c := by
  have hat := congrArg (·[0]?) hbytes
  simp only [List.getElem?_take, List.getElem?_drop, Nat.add_zero] at hat
  split_ifs at hat
  · unfold byte
    rw [getD_eq_getElem?_getD, hat]
    rfl
  · cases hat

/-- Every command starts at an offset of one byte. -/
def Reached : ℕ → List (List UInt8) → Prop
  | _, [] => True
  | off, c :: rest => off < 256 ∧ Reached (off + 1 + c.length) rest

theorem reached_iff {off : ℕ} {cmds : List (List UInt8)} :
    Reached off cmds ↔ cmds = [] ∨ off + (body cmds.dropLast).length < 256 := by
  induction cmds generalizing off with
  | nil => exact iff_of_true trivial (Or.inl rfl)
  | cons c rest ih =>
    unfold Reached
    rw [ih]
    cases rest with
    | nil =>
      show off < 256 ∧ _ ↔ _ ∨ off + 0 < 256
      simp
    | cons d more =>
      rw [dropLast_cons_of_ne_nil (cons_ne_nil d more), length_body_cons]
      simp only [cons_ne_nil, false_or]
      omega

/-- The loop hands on the commands that are left just when each of them starts at an offset of one
byte. -/
theorem multiLoop_eq_iff {w : Window} {cmds : List (List UInt8)}
    (hsmall : ∀ c ∈ cmds, c.length < 256) {off : ℕ} (hlen : w.len = off + (body cmds).length)
    (hbytes : (mem.drop (w.start + off)).take (body cmds).length = body cmds) :
    multiLoop mem w cmds.length (UInt8.ofNat off) = commandWindows w.start off cmds ↔
      Reached off cmds := by
  induction cmds generalizing off with
  | nil => exact iff_of_true rfl trivial
  | cons c rest ih =>
    have hc := hsmall c mem_cons_self
    rw [length_body_cons] at hlen
    by_cases hoff : off < 256
    · have hnat : (UInt8.ofNat off).toNat = off := by rw [UInt8.toNat_ofNat', Nat.mod_eq_of_lt hoff]
      have hbody : body (c :: rest) = UInt8.ofNat c.length :: (c ++ body rest) := rfl
      have hbyte : byte mem (w.start + off) = UInt8.ofNat c.length :=
        byte_of_drop_take (hbytes.trans hbody)
      have hlength :
          (UInt8.ofNat c.length).toNat = c.length := by rw [UInt8.toNat_ofNat', Nat.mod_eq_of_lt hc]
      have hnext :
          UInt8.ofNat off + (UInt8.ofNat c.length + 1) = UInt8.ofNat (off + 1 + c.length) := by
        rw [Nat.add_right_comm, Nat.add_assoc, UInt8.ofNat_add, UInt8.ofNat_add, UInt8.ofNat_one]
      have hlater :
          (mem.drop (w.start + (off + 1 + c.length))).take (body rest).length = body rest := by
        have hdrop := congrArg (List.drop (1 + c.length)) hbytes
        have hskip : (body (c :: rest)).drop (1 + c.length) = body rest := by
          rw [hbody, Nat.add_comm 1, drop_succ_cons, drop_left' rfl]
        rw [drop_take, drop_drop, hskip, length_body_cons, Nat.add_sub_cancel_left] at hdrop
        rw [← hdrop]
        congr 2
        omega
      rw [length_cons, multiLoop, commandWindows, Reached]
      simp only [hnat, hbyte, hlength, hnext]
      rw [if_neg (by omega), if_neg (by omega), List.cons.injEq, and_iff_right rfl,
        and_iff_right hoff]
      exact ih (fun d hd ↦ hsmall d (mem_cons_of_mem _ hd)) (by omega) hlater
    · refine iff_of_false (fun heq ↦ ?_) fun h ↦ hoff h.1
      have hsmallOff := (UInt8.ofNat off).toNat_lt
      rw [length_cons, multiLoop, commandWindows] at heq
      dsimp only at heq
      split_ifs at heq
      have hstart := congrArg Window.start (List.cons.inj heq).1
      dsimp only at hstart
      omega

theorem MultiFrame.len (f : MultiFrame mem) : f.window.len = 3 + (body f.cmds).length := by
  have hroom := f.room
  have hlength := congrArg List.length f.bytes
  rw [length_take, length_drop, Nat.min_eq_left (by omega)] at hlength
  rw [hlength, length_cons, length_cons, length_cons]
  omega

theorem MultiFrame.drop_bytes (f : MultiFrame mem) (n : ℕ) :
    (mem.drop (f.window.start + n)).take (f.window.len - n) =
      (commandClassMultiCmd :: multiCmdEncap :: UInt8.ofNat f.cmds.length ::
        body f.cmds).drop n := by
  rw [← f.bytes, drop_take, drop_drop]

/-- The commands of a frame are handed on, each one once and in order, just when they start in its
first 256 bytes, and it is not one empty command. -/
theorem multiWindows_eq_iff (f : MultiFrame mem) :
    multiWindows mem f.window = commandWindows f.window.start 3 f.cmds ↔
    f.cmds ≠ [[]] ∧ (f.cmds = [] ∨ 3 + (body f.cmds.dropLast).length < 256) := by
  have hlen := f.len
  have hcmd : byte mem (f.window.start + 1) = multiCmdEncap := byte_of_drop_take (f.drop_bytes 1)
  have hcount : byte mem (f.window.start + 2) = UInt8.ofNat f.cmds.length :=
    byte_of_drop_take (f.drop_bytes 2)
  have hbytes : (mem.drop (f.window.start + 3)).take (body f.cmds).length = body f.cmds := by
    have h := f.drop_bytes 3
    rwa [hlen, Nat.add_sub_cancel_left] at h
  unfold multiWindows
  rw [if_neg (not_not.mpr hcmd)]
  by_cases hshort : f.window.len < 5
  · rw [if_pos hshort]
    cases hcmds : f.cmds with
    | nil => exact iff_of_true rfl ⟨cons_ne_nil _ _ ∘ Eq.symm, Or.inl rfl⟩
    | cons c rest =>
      rw [hlen, hcmds, length_body_cons] at hshort
      refine iff_of_false (fun h ↦ by cases h) fun h ↦ h.1 ?_
      cases rest with
      | nil => rw [length_eq_zero_iff.mp (show c.length = 0 by omega)]
      | cons d more =>
        rw [length_body_cons] at hshort
        omega
  · have hnotEmpty : f.cmds ≠ [[]] := by
      intro h
      rw [hlen, h] at hshort
      exact hshort (by decide)
    rw [if_neg hshort, hcount, UInt8.toNat_ofNat', Nat.mod_eq_of_lt f.count,
      and_iff_right hnotEmpty, ← reached_iff]
    exact multiLoop_eq_iff f.small hlen hbytes

/-- The validator adds up the lengths of the commands. -/
theorem groupsValidator_body {d : List UInt8} {cmds : List (List UInt8)}
    (hsmall : ∀ c ∈ cmds, c.length < 256)
    {passed : ℕ} (hd : d.drop passed = body cmds) (hlen : d.length = passed + (body cmds).length) :
    groupsValidator d cmds.length passed = .parseOk := by
  induction cmds generalizing passed with
  | nil =>
    have hend : ¬ d.length < passed := by rw [hlen]; exact Nat.not_lt.mpr (Nat.le_add_right _ _)
    exact if_neg hend
  | cons c rest ih =>
    have hc := hsmall c mem_cons_self
    rw [length_body_cons] at hlen
    have hbody : body (c :: rest) = UInt8.ofNat c.length :: (c ++ body rest) := rfl
    have hbyte : byte d passed = UInt8.ofNat c.length := by
      have hat := congrArg (·[0]?) (hd.trans hbody)
      simp only [List.getElem?_drop, Nat.add_zero] at hat
      unfold byte
      rw [getD_eq_getElem?_getD, hat]
      rfl
    have hlater : d.drop (passed + 1 + c.length) = body rest := by
      rw [Nat.add_assoc, ← drop_drop, hd, hbody, Nat.add_comm 1, drop_succ_cons, drop_left' rfl]
    rw [length_cons, groupsValidator, if_neg (by omega), hbyte, UInt8.toNat_ofNat',
      Nat.mod_eq_of_lt hc]
    exact ih (fun e he ↦ hsmall e (mem_cons_of_mem _ he)) hlater (by omega)

/-- The validator accepts every well-formed frame. -/
theorem MultiFrame.valid {Session : Type*} (g : UnwrapGateway Session) (f : MultiFrame mem) :
    g.validator (payload mem f.window) = .parseOk := by
  have hclass : (payload mem f.window).cmdClass = commandClassMultiCmd :=
    byte_of_drop_take (f.drop_bytes 0)
  have hcmd : (payload mem f.window).cmd = multiCmdEncap := byte_of_drop_take (f.drop_bytes 1)
  have hrest : (payload mem f.window).rest = UInt8.ofNat f.cmds.length :: body f.cmds :=
    f.drop_bytes 2
  rw [g.multiValid _ hclass]
  unfold multiCmdValidator
  rw [if_pos hcmd, hrest]
  dsimp only
  rw [UInt8.toNat_ofNat', Nat.mod_eq_of_lt f.count]
  exact groupsValidator_body f.small rfl (by rw [length_cons, Nat.add_comm])

end Commands

/-- Whatever is unwrapped, each window is inside of the one that it was taken from and of the frame,
and the depth of the calls is at most the length of the frame. A well-formed multi command is
accepted, and its commands are the windows that are handed on just when each of them starts in the
first 256 bytes, and it is not one empty command. -/
theorem unwrapping_iff {Session Ip : Type*} [DecidableEq Ip] (g : UnwrapGateway Session)
    (mem : List UInt8) (sender : Sender Session Ip) :
    (∀ fuel unwrapped w last, ∀ entry ∈ (commandHandlerRunIn g mem sender fuel unwrapped w last).1,
      Inside w entry.1 ∧ Inside entry.1 entry.2) ∧
    (∀ (more : ℕ) unwrapped w last,
      commandHandlerRunIn g mem sender (w.len + 1 + more) unwrapped w last =
      commandHandlerRunIn g mem sender (w.len + 1) unwrapped w last) ∧
    ∀ f : MultiFrame mem, g.validator (payload mem f.window) = .parseOk ∧
      (multiWindows mem f.window = commandWindows f.window.start 3 f.cmds ↔
        f.cmds ≠ [[]] ∧ (f.cmds = [] ∨ 3 + (body f.cmds.dropLast).length < 256)) :=
  ⟨fun _ _ _ _ _ hentry ↦ inside_of_mem hentry,
    fun _ _ _ _ ↦ commandHandlerRunIn_eq (by omega) (Nat.lt_succ_self _) _ _,
    fun f ↦ ⟨f.valid g, multiWindows_eq_iff f⟩⟩

/-- A gateway that has no other handlers. -/
def bareGateway : Gateway ℕ Unit := ⟨[], [], .noScheme, fun _ ↦ .unknownClass, fun _ _ _ ↦ 0⟩

def singlecastSender : Sender Unit ℕ := ⟨⟨.noScheme, ()⟩, 1, true, false⟩

/-- A Supervision Get with a multi command of two commands in it. -/
def nestedFrame : List UInt8 :=
  [commandClassSupervision, supervisionGet, 1, 10, commandClassMultiCmd, multiCmdEncap, 2] ++
    body [[0x25, 0x02], [0x25, 0x01, 0xFF]]

def nestedMulti : MultiFrame nestedFrame where
  window := ⟨4, 10⟩
  cmds := [[0x25, 0x02], [0x25, 0x01, 0xFF]]
  count := by decide
  small := by decide
  room := by decide
  bytes := by decide

/-- The multi command is handed on, and then its commands. -/
theorem unwrapping_nested :
    (commandHandlerRunIn (unwrapGateway bareGateway) nestedFrame singlecastSender 15 false ⟨0, 14⟩
      ⟨2, 1⟩).1 =
      [(⟨0, 14⟩, ⟨4, 10⟩), (⟨4, 10⟩, ⟨8, 2⟩), (⟨4, 10⟩, ⟨11, 3⟩)] ∧
    (∀ entry ∈ (commandHandlerRunIn (unwrapGateway bareGateway) nestedFrame singlecastSender 15
      false ⟨0, 14⟩ ⟨2, 1⟩).1, Inside ⟨0, 14⟩ entry.1 ∧ Inside entry.1 entry.2) ∧
    multiWindows nestedFrame nestedMulti.window = commandWindows 4 3 nestedMulti.cmds := by
  obtain ⟨hinside, -, hwell⟩ :=
    unwrapping_iff (unwrapGateway bareGateway) nestedFrame singlecastSender
  refine ⟨by decide +kernel, hinside 15 false ⟨0, 14⟩ ⟨2, 1⟩, (hwell nestedMulti).2.mpr ?_⟩
  exact ⟨by decide, Or.inr (by decide)⟩

/-- Four commands of a hundred bytes: the offset of the last one wraps, and it is looked for in the
first one. -/
theorem unwrapping_fail : ¬ ∀ (mem : List UInt8) (f : MultiFrame mem),
    multiWindows mem f.window = commandWindows f.window.start 3 f.cmds := by
  intro hall
  let cmds : List (List UInt8) := List.replicate 4 (List.replicate 100 0x20)
  let frame : List UInt8 :=
    commandClassMultiCmd :: multiCmdEncap :: UInt8.ofNat cmds.length :: body cmds
  have hframe :=
    hall frame ⟨⟨0, 407⟩, cmds, by decide, by decide +kernel, by decide +kernel, by decide +kernel⟩
  exact absurd hframe (by decide +kernel)

end ZipGateway.CommandHandler.Unwrapping
