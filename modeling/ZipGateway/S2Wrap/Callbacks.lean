import ZipGateway.S2Wrap.Model

/-!
# The callbacks of the S2 wrapper

A call that returned 1 should have its callback invoked once, with its own context pointer, by the
`S2_send_done_event` of its own transmission; a call that returned 0 should leave no trace.
`Answered` says so of a state. It is not so in general, for two reasons. `sec2_send_multicast`
overwrites the slot for the callback before it saves it, so that a multicast that libs2 refuses
leaves its callback in the place of the one in progress (`refused_multicast_invoked`). And
`S2_send_done_event` takes whatever is in the slot: when the inclusion machine, told that a
transmission has ended, starts a frame that ends at once, the event of that frame comes first.

`Sound` excludes both, and `callbacks_answered` says that every run of sound steps answers its
calls. At any time at most one call is in progress and the slots are its own (`Busy`, `Slots`);
otherwise the slot is empty (`Quiet`), and what libs2 sends on its own invokes nothing.
-/

set_option autoImplicit false

namespace ZipGateway.S2Wrap

open List ZipGateway.Lib ZipGateway.Nodemask

/-! ### What the calls are owed -/

/-- The transmission of a call is in progress, or it has ended and its `S2_send_done_event` is
due. -/
def InProgress (ticket : ℕ) (wrapper : Wrapper) : Prop :=
  wrapper.current = some (.call ticket) ∨ ∃ status, (Owner.call ticket, status) ∈ wrapper.due

/-- The invocations of the callback of a call. -/
def invocations (ticket : ℕ) (log : List Event) : List Event :=
  log.filter fun
    | .invoked callback _ _ _ => decide (callback = ticket)
    | _ => false

/-- Every accepted call had its callback invoked once, by its own transmission and with its own
context pointer, or its transmission is in progress and its callback is in place; no refused call
had its callback invoked. -/
structure Answered (wrapper : Wrapper) : Prop where
  accepted : ∀ ticket hasCallback, Event.accepted ticket hasCallback ∈ wrapper.log →
    (¬ InProgress ticket wrapper ∧ ∃ txStatus, invocations ticket wrapper.log =
      if hasCallback then [.invoked ticket ticket (.call ticket) txStatus] else []) ∨
    (InProgress ticket wrapper ∧ invocations ticket wrapper.log = [] ∧
      wrapper.s2SendCallback = (if hasCallback then some ticket else none) ∧
      wrapper.s2SendUser = ticket)
  refused : ∀ ticket, Event.refused ticket ∈ wrapper.log → invocations ticket wrapper.log = []

/-- libs2 takes a frame. -/
def Takes (request : Request) (wrapper : Wrapper) : Prop :=
  request.sendable = true ∧ wrapper.current = none

/-- The steps that do no harm: no call is taken, and no transmission ends, while the
`S2_send_done_event` of a transmission is due, except that one frame of libs2 itself may end after
another; and libs2 does not refuse a multicast while there is none in progress. -/
def Sound (wrapper : Wrapper) : Input → Prop
  | .sendData request => Takes request wrapper → wrapper.due = []
  | .sendMulticast request _ _ =>
    wrapper.mcState.state = .idle → Takes request wrapper ∧ wrapper.due = []
  | .ended _ => ∀ entry ∈ wrapper.due, entry.1 = .own
  | .abortMulticast | .ownSend _ | .sendDone => True

instance (request : Request) (wrapper : Wrapper) : Decidable (Takes request wrapper) :=
  inferInstanceAs (Decidable (_ ∧ _))

instance (wrapper : Wrapper) : ∀ input : Input, Decidable (Sound wrapper input)
  | .sendData request => inferInstanceAs (Decidable (Takes request wrapper → wrapper.due = []))
  | .sendMulticast request _ _ =>
    inferInstanceAs (Decidable (wrapper.mcState.state = .idle →
      Takes request wrapper ∧ wrapper.due = []))
  | .ended _ => inferInstanceAs (Decidable (∀ entry ∈ wrapper.due, entry.1 = .own))
  | .abortMulticast => inferInstanceAs (Decidable True)
  | .ownSend _ => inferInstanceAs (Decidable True)
  | .sendDone => inferInstanceAs (Decidable True)

/-! ### The slots -/

/-- libs2 is idle or sends a frame of its own. -/
def Free (wrapper : Wrapper) : Prop :=
  wrapper.current = none ∨ wrapper.current = some .own

/-- The transmission of the call is in progress, or its event is the only one due. -/
def Busy (ticket : ℕ) (wrapper : Wrapper) : Prop :=
  (wrapper.current = some (.call ticket) ∧ wrapper.due = []) ∨
    (∃ status, wrapper.due = [(.call ticket, status)] ∧ Free wrapper)

/-- The slots are those of the call. -/
structure Slots (ticket : ℕ) (hasCallback : Bool) (wrapper : Wrapper) : Prop where
  callback : wrapper.s2SendCallback = if hasCallback then some ticket else none
  user : wrapper.s2SendUser = ticket
  multicast : wrapper.mcState.state ≠ .idle → wrapper.mcTicket = ticket

/-- No call is in progress, and the slot is empty. -/
structure Quiet (wrapper : Wrapper) : Prop where
  current : Free wrapper
  due : ∀ entry ∈ wrapper.due, entry.1 = .own
  callback : wrapper.s2SendCallback = none
  multicast : wrapper.mcState.state = .idle

/-- What `S2_send_done_event` leads to for the call in progress: a follow-up is in progress, or the
callback was invoked. -/
def Served (ticket : ℕ) (hasCallback : Bool) (calls : ℕ) (log : List Event) (later : Wrapper) :
    Prop :=
  later.calls = calls ∧
    ((later.current = some (.call ticket) ∧ later.due = [] ∧ Slots ticket hasCallback later ∧
        later.log = log) ∨
      (Quiet later ∧ ∃ txStatus, later.log =
        (if hasCallback then [.invoked ticket ticket (.call ticket) txStatus] else []) ++ log))

section Done

variable {ticket : ℕ} {hasCallback : Bool} {wrapper : Wrapper}

theorem served_invokeCallback (hcallback : wrapper.s2SendCallback =
      if hasCallback then some ticket else none) (huser : wrapper.s2SendUser = ticket)
    (hfree : Free wrapper) (hdue : wrapper.due = []) (hidle : wrapper.mcState.state = .idle)
    (status : UInt8) :
    Served ticket hasCallback wrapper.calls wrapper.log
      (invokeCallback (.call ticket) status wrapper) := by
  have hown : ∀ entry ∈ wrapper.due, entry.1 = Owner.own := by
    rw [hdue]
    exact fun _ hentry ↦ absurd hentry not_mem_nil
  cases hasCallback with
  | false =>
    have hnone : wrapper.s2SendCallback = none := hcallback
    rw [invokeCallback, hnone]
    exact ⟨rfl, Or.inr ⟨⟨hfree, hown, hnone, hidle⟩, 0, rfl⟩⟩
  | true =>
    have hsome : wrapper.s2SendCallback = some ticket := hcallback
    rw [invokeCallback, hsome]
    refine ⟨rfl, Or.inr ⟨⟨hfree, hown, rfl, hidle⟩, s2zwCodes.getD status.toNat 0, ?_⟩⟩
    show Event.invoked ticket wrapper.s2SendUser _ _ :: wrapper.log = _
    rw [huser]
    rfl

/-- The multicast goes on with the next follow-up, or ends. -/
theorem served_followUp (hslots : Slots ticket hasCallback wrapper)
    (hbusy : wrapper.mcState.state ≠ .idle) (hfree : Free wrapper) (hdue : wrapper.due = [])
    (status : UInt8) :
    Served ticket hasCallback wrapper.calls wrapper.log
      (followUp (.call ticket) status wrapper) := by
  have hticket := hslots.multicast hbusy
  rw [followUp]
  dsimp only
  split
  · refine served_invokeCallback ?_ ?_ ?_ ?_ rfl status
    · exact hslots.callback
    · exact hslots.user
    · exact hfree
    · exact hdue
  · rw [s2SendData]
    dsimp only
    split
    · rw [if_pos rfl]
      refine ⟨rfl, Or.inl ⟨?_, hdue, ⟨hslots.callback, hslots.user, fun _ ↦ hticket⟩, rfl⟩⟩
      rw [hticket]
    · rw [if_neg Bool.false_ne_true]
      refine served_invokeCallback ?_ ?_ ?_ ?_ rfl _
      · exact hslots.callback
      · exact hslots.user
      · exact hfree
      · exact hdue

/-- `S2_send_done_event` for the transmission of the call. -/
theorem served_s2SendDoneEvent (hslots : Slots ticket hasCallback wrapper) (hfree : Free wrapper)
    (hdue : wrapper.due = []) (status : UInt8) :
    Served ticket hasCallback wrapper.calls wrapper.log
      (s2SendDoneEvent (.call ticket) status wrapper) := by
  rw [s2SendDoneEvent]
  split
  · next hidle => exact served_invokeCallback hslots.callback hslots.user hfree hdue hidle status
  · refine served_invokeCallback ?_ ?_ ?_ ?_ rfl status
    · exact hslots.callback
    · exact hslots.user
    · exact hfree
    · exact hdue
  · next hfirst =>
    exact served_followUp hslots (by rw [hfirst]; decide) hfree hdue status
  · next hsend =>
    have hbusy : wrapper.mcState.state ≠ .idle := by
      rw [hsend]
      decide
    refine served_followUp ?_ ?_ ?_ ?_ status
    · exact ⟨hslots.callback, hslots.user, fun _ ↦ hslots.multicast hbusy⟩
    · exact hbusy
    · exact hfree
    · exact hdue
  · refine served_invokeCallback ?_ ?_ ?_ ?_ rfl _
    · exact hslots.callback
    · exact hslots.user
    · exact hfree
    · exact hdue

/-- `S2_send_done_event` for a frame of libs2 itself does nothing when no call is in progress. -/
theorem Quiet.s2SendDoneEvent (hquiet : Quiet wrapper) (cause : Owner) (status : UInt8) :
    s2SendDoneEvent cause status wrapper = wrapper := by
  rw [S2Wrap.s2SendDoneEvent, hquiet.multicast]
  show invokeCallback cause status wrapper = wrapper
  rw [invokeCallback, hquiet.callback]

end Done

/-! ### Every run -/

/-- What the log says when `holder` is the call in progress, and `calls` calls were made. -/
structure LogOk (holder : Option ℕ) (calls : ℕ) (log : List Event) : Prop where
  /-- A call that is over had its callback invoked once. -/
  ended : ∀ ticket hasCallback, Event.accepted ticket hasCallback ∈ log → holder ≠ some ticket →
    ∃ txStatus, invocations ticket log =
      if hasCallback then [.invoked ticket ticket (.call ticket) txStatus] else []
  /-- The call in progress and the refused calls had none. -/
  waiting : ∀ ticket, holder = some ticket → invocations ticket log = []
  refused : ∀ ticket, Event.refused ticket ∈ log → invocations ticket log = []
  /-- A call has one result. -/
  exclusive : ∀ ticket hasCallback, Event.accepted ticket hasCallback ∈ log →
    Event.refused ticket ∉ log
  unique : ∀ ticket first second, Event.accepted ticket first ∈ log →
    Event.accepted ticket second ∈ log → first = second
  /-- There is nothing about the calls to come. -/
  fresh : ∀ ticket, calls ≤ ticket → (∀ hasCallback, Event.accepted ticket hasCallback ∉ log) ∧
    Event.refused ticket ∉ log ∧ invocations ticket log = []

/-- The invariant: one call is in progress and the slots are its own, or none is. -/
def Inv (wrapper : Wrapper) : Prop :=
  (∃ ticket hasCallback, Busy ticket wrapper ∧ Slots ticket hasCallback wrapper ∧
      Event.accepted ticket hasCallback ∈ wrapper.log ∧
      LogOk (some ticket) wrapper.calls wrapper.log) ∨
    (Quiet wrapper ∧ LogOk none wrapper.calls wrapper.log)

section Log

variable {holder : Option ℕ} {calls : ℕ} {log : List Event}

/-- A call is refused. -/
theorem LogOk.refuse (hlog : LogOk holder calls log) :
    LogOk holder (calls + 1) (.refused calls :: log) := by
  have hinvocations (ticket : ℕ) :
      invocations ticket (.refused calls :: log) = invocations ticket log := rfl
  obtain ⟨hnone, -, hsilent⟩ := hlog.fresh calls le_rfl
  refine ⟨?_, ?_, ?_, ?_, ?_, ?_⟩
  · intro ticket hasCallback hmem hne
    rw [hinvocations]
    exact hlog.ended ticket hasCallback ((mem_cons.mp hmem).resolve_left (by simp)) hne
  · intro ticket hticket
    exact hlog.waiting ticket hticket
  · intro ticket hmem
    rw [hinvocations]
    rcases mem_cons.mp hmem with hnew | hold
    · obtain rfl : ticket = calls := Event.refused.inj hnew
      exact hsilent
    · exact hlog.refused ticket hold
  · intro ticket hasCallback hmem hrefused
    have hearlier := (mem_cons.mp hmem).resolve_left (by simp)
    rcases mem_cons.mp hrefused with hnew | hold
    · obtain rfl : ticket = calls := Event.refused.inj hnew
      exact hnone hasCallback hearlier
    · exact hlog.exclusive ticket hasCallback hearlier hold
  · intro ticket first second hfirst hsecond
    exact hlog.unique ticket first second ((mem_cons.mp hfirst).resolve_left (by simp))
      ((mem_cons.mp hsecond).resolve_left (by simp))
  · intro ticket hle
    obtain ⟨hfirst, hsecond, hthird⟩ := hlog.fresh ticket (by omega)
    refine ⟨fun hasCallback hmem ↦ hfirst hasCallback
      ((mem_cons.mp hmem).resolve_left (by simp)), ?_, hthird⟩
    intro hmem
    rcases mem_cons.mp hmem with hnew | hold
    · have := Event.refused.inj hnew
      omega
    · exact hsecond hold

/-- A call is accepted while none is in progress. -/
theorem LogOk.accept (hlog : LogOk none calls log) (hasCallback : Bool) :
    LogOk (some calls) (calls + 1) (.accepted calls hasCallback :: log) := by
  obtain ⟨hnone, hnotRefused, hsilent⟩ := hlog.fresh calls le_rfl
  refine ⟨?_, ?_, ?_, ?_, ?_, ?_⟩
  · intro ticket other hmem hne
    rcases mem_cons.mp hmem with hnew | hold
    · exact absurd (congrArg some (Event.accepted.inj hnew).1.symm) hne
    · exact hlog.ended ticket other hold (by simp)
  · intro ticket hticket
    obtain rfl := Option.some.inj hticket
    exact hsilent
  · intro ticket hmem
    exact hlog.refused ticket ((mem_cons.mp hmem).resolve_left (by simp))
  · intro ticket other hmem hrefused
    have hearlier := (mem_cons.mp hrefused).resolve_left (by simp)
    rcases mem_cons.mp hmem with hnew | hold
    · obtain ⟨rfl, -⟩ := Event.accepted.inj hnew
      exact hnotRefused hearlier
    · exact hlog.exclusive ticket other hold hearlier
  · intro ticket first second hfirst hsecond
    rcases mem_cons.mp hfirst with hnew | hold
    · obtain ⟨rfl, rfl⟩ := Event.accepted.inj hnew
      rcases mem_cons.mp hsecond with hnew' | hold'
      · exact (Event.accepted.inj hnew').2.symm
      · exact absurd hold' (hnone second)
    · rcases mem_cons.mp hsecond with hnew' | hold'
      · obtain ⟨rfl, rfl⟩ := Event.accepted.inj hnew'
        exact absurd hold (hnone first)
      · exact hlog.unique ticket first second hold hold'
  · intro ticket hle
    obtain ⟨hfirst, hsecond, hthird⟩ := hlog.fresh ticket (by omega)
    refine ⟨?_, fun hmem ↦ hsecond ((mem_cons.mp hmem).resolve_left (by simp)), hthird⟩
    intro other hmem
    rcases mem_cons.mp hmem with hnew | hold
    · have := (Event.accepted.inj hnew).1
      omega
    · exact hfirst other hold

/-- The call in progress is over. -/
theorem LogOk.finish {ticket : ℕ} {hasCallback : Bool} (hlog : LogOk (some ticket) calls log)
    (haccepted : Event.accepted ticket hasCallback ∈ log) (txStatus : UInt8) :
    LogOk none calls
      ((if hasCallback then [.invoked ticket ticket (.call ticket) txStatus] else []) ++ log) := by
  have hmem {event : Event} (hresult : ∀ callback user cause status,
      event ≠ .invoked callback user cause status) :
      event ∈ (if hasCallback then [Event.invoked ticket ticket (.call ticket) txStatus] else []) ++
        log ↔ event ∈ log := by
    rw [mem_append]
    constructor
    · rintro (hnew | hold)
      · split at hnew
        · exact absurd (mem_singleton.mp hnew) (hresult _ _ _ _)
        · exact absurd hnew not_mem_nil
      · exact hold
    · exact Or.inr
  have hacc (other : ℕ) (flag : Bool) := @hmem (.accepted other flag) (fun _ _ _ _ ↦ by simp)
  have href (other : ℕ) := @hmem (.refused other) (fun _ _ _ _ ↦ by simp)
  have hother {other : ℕ} (hne : other ≠ ticket) :
      invocations other ((if hasCallback then [.invoked ticket ticket (.call ticket) txStatus]
        else []) ++ log) = invocations other log := by
    cases hasCallback with
    | false => rfl
    | true =>
      show List.filter _ (_ :: log) = _
      rw [filter_cons_of_neg]
      · rfl
      · simpa using hne.symm
  have hown : invocations ticket
      ((if hasCallback then [.invoked ticket ticket (.call ticket) txStatus] else []) ++ log) =
      if hasCallback then [.invoked ticket ticket (.call ticket) txStatus] else [] := by
    have hsilent := hlog.waiting ticket rfl
    cases hasCallback with
    | false => exact hsilent
    | true =>
      show List.filter _ (_ :: log) = _
      rw [filter_cons_of_pos (by simp)]
      exact congrArg (List.cons _) hsilent
  have hnotRefused : Event.refused ticket ∉ log := hlog.exclusive ticket hasCallback haccepted
  have hcalls : ticket < calls := by
    by_contra hle
    exact (hlog.fresh ticket (not_lt.mp hle)).1 hasCallback haccepted
  refine ⟨?_, fun _ h ↦ absurd h (by simp), ?_, ?_, ?_, ?_⟩
  · intro other flag haccepted' _
    rw [hacc] at haccepted'
    by_cases hsame : other = ticket
    · subst hsame
      obtain rfl := hlog.unique other flag hasCallback haccepted' haccepted
      exact ⟨txStatus, hown⟩
    · rw [hother hsame]
      exact hlog.ended other flag haccepted' (fun h ↦ hsame (Option.some.inj h).symm)
  · intro other hrefused
    rw [href] at hrefused
    have hne : other ≠ ticket := by
      rintro rfl
      exact hnotRefused hrefused
    rw [hother hne]
    exact hlog.refused other hrefused
  · intro other flag haccepted' hrefused
    rw [hacc] at haccepted'
    rw [href] at hrefused
    exact hlog.exclusive other flag haccepted' hrefused
  · intro other first second hfirst hsecond
    rw [hacc] at hfirst hsecond
    exact hlog.unique other first second hfirst hsecond
  · intro other hle
    obtain ⟨hfirst, hsecond, hthird⟩ := hlog.fresh other hle
    refine ⟨fun flag h ↦ hfirst flag ((hacc other flag).mp h),
      fun h ↦ hsecond ((href other).mp h), ?_⟩
    rw [hother (by omega)]
    exact hthird

end Log

section Step

variable {wrapper : Wrapper}

/-- A refused call changes nothing but the log. -/
theorem Inv.refuse (hinv : Inv wrapper) :
    Inv ({ wrapper with calls := wrapper.calls + 1 }.note (.refused wrapper.calls)) := by
  rcases hinv with ⟨ticket, hasCallback, hbusy, hslots, haccepted, hlog⟩ | ⟨hquiet, hlog⟩
  · exact Or.inl ⟨ticket, hasCallback, hbusy, ⟨hslots.callback, hslots.user, hslots.multicast⟩,
      mem_cons_of_mem _ haccepted, hlog.refuse⟩
  · exact Or.inr ⟨⟨hquiet.current, hquiet.due, hquiet.callback, hquiet.multicast⟩, hlog.refuse⟩

/-- When nothing is due and libs2 is idle, no call is in progress. -/
theorem Inv.quiet (hinv : Inv wrapper) (hcurrent : wrapper.current = none)
    (hdue : wrapper.due = []) : Quiet wrapper ∧ LogOk none wrapper.calls wrapper.log := by
  rcases hinv with ⟨ticket, hasCallback, hbusy, -⟩ | hquiet
  · rcases hbusy with ⟨hcall, -⟩ | ⟨status, hentry, -⟩
    · rw [hcurrent] at hcall
      exact absurd hcall (by simp)
    · rw [hdue] at hentry
      exact absurd hentry (by simp)
  · exact hquiet

theorem s2SendData_of_takes {owner : Owner} {sendable : Bool}
    (htakes : sendable = true ∧ wrapper.current = none) :
    s2SendData owner sendable wrapper = ({ wrapper with current := some owner }, true) :=
  if_pos htakes

theorem s2SendData_of_not_takes {owner : Owner} {sendable : Bool}
    (htakes : ¬ (sendable = true ∧ wrapper.current = none)) :
    s2SendData owner sendable wrapper = (wrapper, false) :=
  if_neg htakes

theorem sec2SendData_of_takes {ticket : ℕ} {request : Request} (htakes : Takes request wrapper) :
    sec2SendData ticket request wrapper =
      { wrapper.setSlots (request.callback ticket) ticket with current := some (.call ticket) }.note
        (.accepted ticket request.hasCallback) := by
  have hsent : s2SendData (.call ticket) request.sendable
      (wrapper.setSlots (request.callback ticket) ticket) = (_, true) :=
    s2SendData_of_takes htakes
  simp only [sec2SendData, hsent, if_true]

theorem sec2SendData_of_not_takes {ticket : ℕ} {request : Request}
    (htakes : ¬ Takes request wrapper) :
    sec2SendData ticket request wrapper = wrapper.note (.refused ticket) := by
  have hsent : s2SendData (.call ticket) request.sendable
      (wrapper.setSlots (request.callback ticket) ticket) = (_, false) :=
    s2SendData_of_not_takes htakes
  simp only [sec2SendData, hsent, Bool.false_eq_true, if_false]
  rfl

theorem Inv.sendData (hinv : Inv wrapper) {request : Request}
    (hsound : Takes request wrapper → wrapper.due = []) :
    Inv (step wrapper (.sendData request)) := by
  have htakes_iff : Takes request { wrapper with calls := wrapper.calls + 1 } ↔
      Takes request wrapper := Iff.rfl
  rw [step]
  by_cases htakes : Takes request wrapper
  · obtain ⟨hquiet, hlog⟩ := hinv.quiet htakes.2 (hsound htakes)
    rw [sec2SendData_of_takes (htakes_iff.mpr htakes)]
    refine Or.inl ⟨wrapper.calls, request.hasCallback, Or.inl ⟨rfl, hsound htakes⟩, ⟨rfl, rfl, ?_⟩,
      mem_cons_self, hlog.accept _⟩
    intro hbusy
    exact absurd hquiet.multicast hbusy
  · rw [sec2SendData_of_not_takes (mt htakes_iff.mp htakes)]
    exact hinv.refuse

theorem Inv.sendMulticast (hinv : Inv wrapper) {request : Request} {nodeList : Nodemask}
    {sendScFollowups : Bool}
    (hsound : wrapper.mcState.state = .idle → Takes request wrapper ∧ wrapper.due = []) :
    Inv (step wrapper (.sendMulticast request nodeList sendScFollowups)) := by
  rw [step]
  by_cases hidle : wrapper.mcState.state = .idle
  · obtain ⟨htakes, hdue⟩ := hsound hidle
    obtain ⟨hquiet, hlog⟩ := hinv.quiet htakes.2 hdue
    simp only [sec2SendMulticast, hidle, if_true, Wrapper.setSlots, s2SendData, htakes.1, htakes.2,
      and_self]
    exact Or.inl ⟨wrapper.calls, request.hasCallback, Or.inl ⟨rfl, hdue⟩, ⟨rfl, rfl, fun _ ↦ rfl⟩,
      mem_cons_self, hlog.accept _⟩
  · rw [sec2SendMulticast, if_neg hidle]
    exact hinv.refuse

theorem Inv.abortMulticast (hinv : Inv wrapper) : Inv (step wrapper .abortMulticast) := by
  show Inv (sec2AbortMulticast wrapper)
  rw [sec2AbortMulticast]
  split
  · next hbusy =>
    rcases hinv with ⟨ticket, hasCallback, hbusy', hslots, haccepted, hlog⟩ | ⟨hquiet, hlog⟩
    · exact Or.inl ⟨ticket, hasCallback, hbusy', ⟨hslots.callback, hslots.user,
        fun _ ↦ hslots.multicast hbusy⟩, haccepted, hlog⟩
    · exact absurd hquiet.multicast hbusy
  · exact hinv

theorem Inv.ownSend (hinv : Inv wrapper) (sendable : Bool) :
    Inv (step wrapper (.ownSend sendable)) := by
  show Inv (s2SendData .own sendable wrapper).1
  by_cases htakes : sendable = true ∧ wrapper.current = none
  · rw [s2SendData_of_takes htakes]
    rcases hinv with ⟨ticket, hasCallback, hbusy, hslots, haccepted, hlog⟩ | ⟨hquiet, hlog⟩
    · refine Or.inl ⟨ticket, hasCallback, ?_, ⟨hslots.callback, hslots.user, hslots.multicast⟩,
        haccepted, hlog⟩
      rcases hbusy with ⟨hcall, -⟩ | ⟨status, hdue, -⟩
      · rw [htakes.2] at hcall
        exact absurd hcall (by simp)
      · exact Or.inr ⟨status, hdue, Or.inr rfl⟩
    · exact Or.inr ⟨⟨Or.inr rfl, hquiet.due, hquiet.callback, hquiet.multicast⟩, hlog⟩
  · rw [s2SendData_of_not_takes htakes]
    exact hinv

theorem Inv.ended (hinv : Inv wrapper) (hsound : ∀ entry ∈ wrapper.due, entry.1 = Owner.own)
    (status : UInt8) : Inv (step wrapper (.ended status)) := by
  cases hcurrent : wrapper.current with
  | none =>
    simp only [step, hcurrent]
    exact hinv
  | some owner =>
    simp only [step, hcurrent]
    rcases hinv with ⟨ticket, hasCallback, hbusy, hslots, haccepted, hlog⟩ | ⟨hquiet, hlog⟩
    · refine Or.inl ⟨ticket, hasCallback, ?_, ⟨hslots.callback, hslots.user, hslots.multicast⟩,
        haccepted, hlog⟩
      rcases hbusy with ⟨hcall, hdue⟩ | ⟨other, hdue, -⟩
      · rw [hcurrent] at hcall
        obtain rfl := Option.some.inj hcall
        exact Or.inr ⟨status, by rw [hdue], Or.inl rfl⟩
      · exact absurd (hsound _ (by rw [hdue]; exact mem_singleton_self _)) (by simp)
    · refine Or.inr ⟨⟨Or.inl rfl, ?_, hquiet.callback, hquiet.multicast⟩, hlog⟩
      intro entry hentry
      rcases mem_cons.mp hentry with rfl | hold
      · rcases hquiet.current with hnone | hown
        · rw [hcurrent] at hnone
          exact absurd hnone (by simp)
        · rw [hcurrent] at hown
          exact Option.some.inj hown
      · exact hquiet.due entry hold

theorem Inv.sendDone (hinv : Inv wrapper) : Inv (step wrapper .sendDone) := by
  cases hdue : wrapper.due with
  | nil =>
    simp only [step, hdue]
    exact hinv
  | cons entry rest =>
    obtain ⟨cause, status⟩ := entry
    simp only [step, hdue]
    rcases hinv with ⟨ticket, hasCallback, hbusy, hslots, haccepted, hlog⟩ | ⟨hquiet, hlog⟩
    · rcases hbusy with ⟨-, hnone⟩ | ⟨other, hone, hfree⟩
      · rw [hdue] at hnone
        exact absurd hnone (by simp)
      · rw [hdue, List.cons.injEq, Prod.mk.injEq] at hone
        obtain ⟨⟨rfl, rfl⟩, rfl⟩ := hone
        have hslots' : Slots ticket hasCallback { wrapper with due := [] } :=
          ⟨hslots.callback, hslots.user, hslots.multicast⟩
        obtain ⟨hcalls, hcase⟩ := served_s2SendDoneEvent hslots' hfree rfl status
        rcases hcase with ⟨hcurrent, hdue', hslots'', hlog'⟩ | ⟨hquiet, txStatus, hlog'⟩
        · refine Or.inl ⟨ticket, hasCallback, Or.inl ⟨hcurrent, hdue'⟩, hslots'', ?_, ?_⟩
          · rw [hlog']
            exact haccepted
          · rw [hlog', hcalls]
            exact hlog
        · refine Or.inr ⟨hquiet, ?_⟩
          rw [hlog', hcalls]
          exact hlog.finish haccepted txStatus
    · have hquiet' : Quiet { wrapper with due := rest } :=
        ⟨hquiet.current, fun entry hentry ↦ hquiet.due entry (by
          rw [hdue]
          exact mem_cons_of_mem _ hentry), hquiet.callback, hquiet.multicast⟩
      rw [hquiet'.s2SendDoneEvent]
      exact Or.inr ⟨hquiet', hlog⟩

/-- Every sound step keeps the invariant. -/
theorem Inv.step (input : Input) (hsound : Sound wrapper input) (hinv : Inv wrapper) :
    Inv (step wrapper input) := by
  cases input with
  | sendData request => exact hinv.sendData hsound
  | sendMulticast request nodeList sendScFollowups => exact hinv.sendMulticast hsound
  | abortMulticast => exact hinv.abortMulticast
  | ownSend sendable => exact hinv.ownSend sendable
  | ended status => exact hinv.ended hsound status
  | sendDone => exact hinv.sendDone

end Step

/-- A call in progress is the one that holds the slots. -/
theorem Busy.inProgress_iff {wrapper : Wrapper} {ticket : ℕ} (hbusy : Busy ticket wrapper)
    (other : ℕ) : InProgress other wrapper ↔ other = ticket := by
  rcases hbusy with ⟨hcall, hdue⟩ | ⟨status, hdue, hfree⟩
  · simp only [InProgress, hcall, hdue, Option.some.injEq, Owner.call.injEq, not_mem_nil,
      exists_false, or_false]
    exact eq_comm
  · have hcurrent : wrapper.current ≠ some (.call other) := by
      rcases hfree with hnone | hown
      · rw [hnone]
        simp
      · rw [hown]
        simp
    simp only [InProgress, hcurrent, hdue, mem_singleton, Prod.mk.injEq, Owner.call.injEq,
      exists_and_left, exists_eq, and_true, false_or]

theorem Quiet.not_inProgress {wrapper : Wrapper} (hquiet : Quiet wrapper) (ticket : ℕ) :
    ¬ InProgress ticket wrapper := by
  rintro (hcall | ⟨status, hmem⟩)
  · rcases hquiet.current with hnone | hown
    · rw [hnone] at hcall
      exact absurd hcall (by simp)
    · rw [hown] at hcall
      exact absurd hcall (by simp)
  · exact absurd (hquiet.due _ hmem) (by simp)

/-- The invariant gives the calls what they are owed. -/
theorem Inv.answered {wrapper : Wrapper} (hinv : Inv wrapper) : Answered wrapper := by
  rcases hinv with ⟨ticket, hasCallback, hbusy, hslots, haccepted, hlog⟩ | ⟨hquiet, hlog⟩
  · refine ⟨?_, hlog.refused⟩
    intro other flag hmem
    by_cases hsame : other = ticket
    · subst hsame
      obtain rfl := hlog.unique other flag hasCallback hmem haccepted
      exact Or.inr ⟨(hbusy.inProgress_iff other).mpr rfl, hlog.waiting other rfl, hslots.callback,
        hslots.user⟩
    · exact Or.inl ⟨fun h ↦ hsame ((hbusy.inProgress_iff other).mp h),
        hlog.ended other flag hmem (fun h ↦ hsame (Option.some.inj h).symm)⟩
  · refine ⟨?_, hlog.refused⟩
    intro other flag hmem
    exact Or.inl ⟨hquiet.not_inProgress other, hlog.ended other flag hmem (by simp)⟩

/-- In every run of sound steps, and so in every state on the way, the calls are answered. -/
theorem callbacks_answered (inputs : List Input) (hsound : AllSteps step Sound start inputs) :
    Answered (run step start inputs) := by
  have hstart : Inv start := by
    refine Or.inr ⟨⟨Or.inl rfl, fun _ h ↦ absurd h not_mem_nil, rfl, rfl⟩, ?_⟩
    constructor <;> simp [start, invocations]
  exact (run_invariant_of_allSteps (fun _ input ↦ Inv.step input) hstart hsound).answered

/-- A frame of libs2 itself, a multicast to nodes 2 and 3 with follow-ups, a call that is refused in
between, and a second frame of libs2. -/
def soundRun : List Input :=
  [.ownSend true, .ended 0, .sendDone,
    .sendMulticast ⟨true, true⟩ (addNode 2 (addNode 3 empty)) true, .sendData ⟨true, true⟩,
    .ended 0, .sendDone, .ended 5, .sendDone, .ended 1, .ownSend true, .sendDone, .ended 0,
      .sendDone]

theorem callbacks_answered_soundRun : Answered (run step start soundRun) :=
  callbacks_answered soundRun (by decide +kernel)

/-- A multicast that libs2 refuses while another frame is in progress: its callback is invoked at
the end of that frame, whose own callback is lost. -/
theorem refused_multicast_invoked : ¬ ∀ inputs : List Input, Answered (run step start inputs) := by
  intro hall
  have hanswered := hall [.sendData ⟨true, true⟩, .sendMulticast ⟨true, true⟩ empty true, .ended 0,
    .sendDone]
  have hlog : (run step start [.sendData ⟨true, true⟩, .sendMulticast ⟨true, true⟩ empty true,
      .ended 0, .sendDone]).log =
      [.invoked 1 0 (.call 0) 0, .refused 1, .accepted 0 true] := by decide +kernel
  have hrefused := hanswered.refused 1 (by rw [hlog]; simp)
  rw [hlog] at hrefused
  exact absurd hrefused (by decide)

end ZipGateway.S2Wrap
