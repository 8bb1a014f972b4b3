import ZipGateway.Lib.Pending
import ZipGateway.SendRequest.Model

/-!
# The life of a request

`history` reads from the log what was done for a request. While a request is under way its history
is `Asked`: it was taken, and every reply so far was followed by the wish for more reports. A
request that is over has an `Over` history, where the last call of the callback and the freeing of
the block stand next to each other: the block is freed and the failure is told, or a reply is told,
the callback is satisfied and the block is freed.

The invariant `Inv` says which of the three pointers to a block are live. A request that is being
sent is in the list and its frame is outstanding; one that waits is in the list and its timer runs;
one whose reply is being told is in neither, and its callback is on the stack. So whatever comes
next finds the block in the one state in which it is expected.
-/

set_option autoImplicit false

namespace ZipGateway.SendRequest

open Lib Contiki Function List

/-! ### Histories -/

/-- What was done for a request, newest first. -/
def history (serial : ℕ) (log : List (ℕ × Event)) : List Event :=
  log.filterMap fun entry ↦ if entry.1 = serial then some entry.2 else none

@[simp]
theorem history_cons_self (serial : ℕ) (event : Event) (log : List (ℕ × Event)) :
    history serial ((serial, event) :: log) = event :: history serial log := by
  simp [history]

theorem history_cons_of_ne {serial other : ℕ} (hother : other ≠ serial) (event : Event)
    (log : List (ℕ × Event)) : history serial ((other, event) :: log) = history serial log := by
  simp [history, hother]

/-- The history of a request that waits for a reply: every reply so far asked for more. -/
inductive Asked (user : ℕ) : List Event → Prop
  | accepted : Asked user [.accepted user]
  | more (report : Report) (events : List Event) (hreport : report.txStatus = transmitCompleteOk)
      (hevents : Asked user events) : Asked user (.more :: .told user report :: events)

/-- The history of a request whose reply is being told. -/
def Telling (user : ℕ) (events : List Event) : Prop :=
  ∃ report earlier, report.txStatus = transmitCompleteOk ∧ Asked user earlier ∧
    events = .told user report :: earlier

/-- The history of a request that is over: the block was freed and the failure told, or a reply was
told, the callback was satisfied and the block was freed. -/
def Over (user : ℕ) (events : List Event) : Prop :=
  (∃ earlier, Asked user earlier ∧ events = .told user .failed :: .freed :: earlier) ∨
    ∃ earlier, Telling user earlier ∧ events = .freed :: .last :: earlier

/-! ### The invariant -/

/-- The blocks whose callback is on the stack with a reply. -/
def beingTold (frames : List Frame) : List (Fin numReqs) :=
  frames.filterMap fun frame ↦
    match frame with
    | .reply i => some i
    | .abort _ _ => none

/-- What a block says about the pointers to it, and about its request. -/
structure BlockOk (s : Requests) (i : Fin numReqs) : Prop where
  listed : i ∈ s.reqsList ↔ s.used i = true ∧ (s.blocks i).state ≠ .done
  timed : (s.blocks i).timer = true ↔ s.used i = true ∧ (s.blocks i).state = .waiting
  sent : ∀ serial, (i, serial) ∈ s.outstanding ↔
    s.used i = true ∧ (s.blocks i).state = .sending ∧ (s.blocks i).serial = serial
  told : i ∈ beingTold s.frames ↔ s.used i = true ∧ (s.blocks i).state = .done
  callback : s.used i = true → (s.blocks i).callback = true
  bound : s.used i = true → 1 ≤ (s.blocks i).serial ∧ (s.blocks i).serial ≤ s.lastSerial
  asked : s.used i = true → (s.blocks i).state ≠ .done →
    Asked (s.blocks i).user (history (s.blocks i).serial s.log)
  telling : s.used i = true → (s.blocks i).state = .done →
    Telling (s.blocks i).user (history (s.blocks i).serial s.log)

/-- The invariant of the module. -/
structure Inv (s : Requests) : Prop where
  listNodup : s.reqsList.Nodup
  outstandingNodup : (s.outstanding.map Prod.fst).Nodup
  tellingNodup : (beingTold s.frames).Nodup
  block : ∀ i, BlockOk s i
  distinct : ∀ i j, s.used i = true → s.used j = true → (s.blocks i).serial = (s.blocks j).serial →
    i = j
  ended : ∀ serial, 1 ≤ serial → serial ≤ s.lastSerial →
    (∀ i, s.used i = true → (s.blocks i).serial ≠ serial) → ∃ user, Over user (history serial s.log)
  fresh : ∀ serial, s.lastSerial < serial ∨ serial = 0 → history serial s.log = []

theorem inv_init : Inv Requests.init where
  listNodup := nodup_nil
  outstandingNodup := nodup_nil
  tellingNodup := nodup_nil
  block := fun i ↦ by constructor <;> simp [Requests.init, beingTold]
  distinct := fun i j hi ↦ absurd hi (by simp [Requests.init])
  ended := fun serial hpos hbound ↦ by simp [Requests.init] at hbound; omega
  fresh := fun serial _ ↦ rfl

/-! ### Rules for the invariant -/

/-- State `after` is state `s` as far as the blocks other than `i` are concerned. -/
structure OnlyAt (i : Fin numReqs) (s after : Requests) : Prop where
  blocks : ∀ j, j ≠ i → after.blocks j = s.blocks j
  used : ∀ j, j ≠ i → after.used j = s.used j
  reqsList : ∀ j, j ≠ i → (j ∈ after.reqsList ↔ j ∈ s.reqsList)
  outstanding : ∀ j serial, j ≠ i → ((j, serial) ∈ after.outstanding ↔ (j, serial) ∈ s.outstanding)
  telling : ∀ j, j ≠ i → (j ∈ beingTold after.frames ↔ j ∈ beingTold s.frames)

section Rules

variable {s after : Requests} {i : Fin numReqs}

/-- The blocks of other requests are in order after a change of one block. -/
theorem BlockOk.other {j : Fin numReqs} (hok : BlockOk s j) (hat : OnlyAt i s after) (hji : j ≠ i)
    (hlast : s.lastSerial ≤ after.lastSerial)
    (hhistory : s.used j = true →
      history (s.blocks j).serial after.log = history (s.blocks j).serial s.log) :
    BlockOk after j := by
  constructor
  · rw [hat.reqsList j hji, hat.used j hji, hat.blocks j hji]
    exact hok.listed
  · rw [hat.used j hji, hat.blocks j hji]
    exact hok.timed
  · intro serial
    rw [hat.outstanding j serial hji, hat.used j hji, hat.blocks j hji]
    exact hok.sent serial
  · rw [hat.telling j hji, hat.used j hji, hat.blocks j hji]
    exact hok.told
  · rw [hat.used j hji, hat.blocks j hji]
    exact hok.callback
  · rw [hat.used j hji, hat.blocks j hji]
    intro hused
    exact ⟨(hok.bound hused).1, (hok.bound hused).2.trans hlast⟩
  · rw [hat.used j hji, hat.blocks j hji]
    intro hused
    rw [hhistory hused]
    exact hok.asked hused
  · rw [hat.used j hji, hat.blocks j hji]
    intro hused
    rw [hhistory hused]
    exact hok.telling hused

/-- A request that goes on: its block changes, and what is logged is about the request. -/
theorem Inv.move (hinv : Inv s) (hat : OnlyAt i s after) (hused : s.used i = true)
    (hused' : after.used i = true) (hserial : (after.blocks i).serial = (s.blocks i).serial)
    (hlast : after.lastSerial = s.lastSerial)
    (hhistory : ∀ serial, serial ≠ (s.blocks i).serial →
      history serial after.log = history serial s.log)
    (hlist : after.reqsList.Nodup) (houtstanding : (after.outstanding.map Prod.fst).Nodup)
    (htelling : (beingTold after.frames).Nodup) (hok : BlockOk after i) : Inv after := by
  have hdistinct : ∀ j, j ≠ i → s.used j = true → (s.blocks j).serial ≠ (s.blocks i).serial :=
    fun j hji hj heq ↦ hji (hinv.distinct j i hj hused heq)
  have hsame : ∀ j, (after.blocks j).serial = (s.blocks j).serial := by
    intro j
    by_cases hji : j = i
    · rw [hji, hserial]
    · rw [hat.blocks j hji]
  have husedIff : ∀ j, after.used j = s.used j := by
    intro j
    by_cases hji : j = i
    · rw [hji, hused, hused']
    · exact hat.used j hji
  refine ⟨hlist, houtstanding, htelling, fun j ↦ ?_, fun j k ↦ ?_,
    fun serial hpos hbound hnone ↦ ?_, fun serial hbound ↦ ?_⟩
  · by_cases hji : j = i
    · rw [hji]
      exact hok
    · exact (hinv.block j).other hat hji hlast.ge fun hj ↦ hhistory _ (hdistinct j hji hj)
  · rw [husedIff, husedIff, hsame, hsame]
    exact hinv.distinct j k
  · have hne : serial ≠ (s.blocks i).serial := fun heq ↦ hnone i hused' (by rw [hsame, heq])
    rw [hhistory serial hne]
    refine hinv.ended serial hpos (by omega) fun j hj ↦ ?_
    rw [← hsame]
    exact hnone j (by rw [husedIff, hj])
  · have hne : serial ≠ (s.blocks i).serial := by
      have hrange := (hinv.block i).bound hused
      omega
    rw [hhistory serial hne]
    exact hinv.fresh serial (by omega)

/-- A request that is over: its block is free and nothing points to it. -/
theorem Inv.release (hinv : Inv s) (hat : OnlyAt i s after) (hused : s.used i = true)
    (hfree : after.used i = false) (hlast : after.lastSerial = s.lastSerial)
    (hhistory : ∀ serial, serial ≠ (s.blocks i).serial →
      history serial after.log = history serial s.log)
    (hover : ∃ user, Over user (history (s.blocks i).serial after.log))
    (hlist : after.reqsList.Nodup) (houtstanding : (after.outstanding.map Prod.fst).Nodup)
    (htelling : (beingTold after.frames).Nodup) (hunlisted : i ∉ after.reqsList)
    (huntimed : (after.blocks i).timer = false)
    (hunsent : ∀ serial, (i, serial) ∉ after.outstanding)
    (huntold : i ∉ beingTold after.frames) : Inv after := by
  have hdistinct : ∀ j, j ≠ i → s.used j = true → (s.blocks j).serial ≠ (s.blocks i).serial :=
    fun j hji hj heq ↦ hji (hinv.distinct j i hj hused heq)
  have hother : ∀ j, after.used j = true → j ≠ i ∧ s.used j = true := by
    intro j hj
    have hji : j ≠ i := fun hji ↦ by rw [hji, hfree] at hj; exact absurd hj (by decide)
    exact ⟨hji, hat.used j hji ▸ hj⟩
  refine ⟨hlist, houtstanding, htelling, fun j ↦ ?_, fun j k hj hk heq ↦ ?_,
    fun serial hpos hbound hnone ↦ ?_, fun serial hbound ↦ ?_⟩
  · by_cases hji : j = i
    · subst hji
      constructor <;> simp [hfree, hunlisted, huntimed, hunsent, huntold]
    · exact (hinv.block j).other hat hji hlast.ge fun hj ↦ hhistory _ (hdistinct j hji hj)
  · obtain ⟨hji, hj⟩ := hother j hj
    obtain ⟨hki, hk⟩ := hother k hk
    rw [hat.blocks j hji, hat.blocks k hki] at heq
    exact hinv.distinct j k hj hk heq
  · by_cases hserial : serial = (s.blocks i).serial
    · rw [hserial]
      exact hover
    · rw [hhistory serial hserial]
      refine hinv.ended serial hpos (by omega) fun j hj heq ↦ ?_
      have hji : j ≠ i := fun hji ↦ hserial (by rw [← heq, hji])
      exact hnone j (by rw [hat.used j hji, hj]) (by rw [hat.blocks j hji, heq])
  · have hne : serial ≠ (s.blocks i).serial := by
      have hrange := (hinv.block i).bound hused
      omega
    rw [hhistory serial hne]
    exact hinv.fresh serial (by omega)

/-- A block that is not allocated has no pointers to it. -/
theorem BlockOk.unused (hok : BlockOk s i) (hunused : s.used i = false) :
    i ∉ s.reqsList ∧ (s.blocks i).timer = false ∧ (∀ serial, (i, serial) ∉ s.outstanding) ∧
      i ∉ beingTold s.frames := by
  refine ⟨?_, ?_, fun serial ↦ ?_, ?_⟩
  · simp [hok.listed, hunused]
  · have htimer : (s.blocks i).timer ≠ true := by simp [hok.timed, hunused]
    simpa using htimer
  · simp [hok.sent, hunused]
  · simp [hok.told, hunused]

/-- A request is taken: it gets a block that was free and the next serial number. -/
theorem Inv.accept (hinv : Inv s) (hunused : s.used i = false) (hat : OnlyAt i s after)
    (hused : after.used i = true) (hserial : (after.blocks i).serial = s.lastSerial + 1)
    (hlast : after.lastSerial = s.lastSerial + 1)
    (hlog : after.log = (s.lastSerial + 1, .accepted (after.blocks i).user) :: s.log)
    (hlist : after.reqsList.Nodup) (houtstanding : (after.outstanding.map Prod.fst).Nodup)
    (hframes : after.frames = s.frames) (hlisted : i ∈ after.reqsList)
    (hsending : (after.blocks i).state = .sending)
    (huntimed : (after.blocks i).timer = false) (hcallback : (after.blocks i).callback = true)
    (hsent : ∀ serial, (i, serial) ∈ after.outstanding ↔ serial = s.lastSerial + 1) :
    Inv after := by
  have hhistory : ∀ serial, serial ≤ s.lastSerial →
      history serial after.log = history serial s.log := by
    intro serial hserial
    rw [hlog, history_cons_of_ne (by omega)]
  have hother : ∀ j, j ≠ i → after.used j = true → s.used j = true ∧
      (after.blocks j).serial ≤ s.lastSerial := by
    intro j hji hj
    rw [hat.used j hji] at hj
    rw [hat.blocks j hji]
    exact ⟨hj, ((hinv.block j).bound hj).2⟩
  refine ⟨hlist, houtstanding, by rw [hframes]; exact hinv.tellingNodup, fun j ↦ ?_,
    fun j k hj hk heq ↦ ?_, fun serial hpos hbound hnone ↦ ?_, fun serial hbound ↦ ?_⟩
  · by_cases hji : j = i
    · subst hji
      have huntold := ((hinv.block j).unused hunused).2.2.2
      constructor
      · simp [hlisted, hused, hsending]
      · simp [huntimed, hsending]
      · intro serial
        rw [hsent, hserial]
        simp [hused, hsending, eq_comm]
      · rw [hframes]
        simp [huntold, hsending]
      · exact fun _ ↦ hcallback
      · intro _
        rw [hserial, hlast]
        omega
      · intro _ _
        rw [hserial, hlog, history_cons_self, hinv.fresh _ (Or.inl (Nat.lt_succ_self _))]
        exact .accepted
      · simp [hsending]
    · refine (hinv.block j).other hat hji (by omega) fun hj ↦ hhistory _ ?_
      exact ((hinv.block j).bound hj).2
  · by_cases hji : j = i
    · by_cases hki : k = i
      · rw [hji, hki]
      · have := (hother k hki hk).2
        rw [hji, hserial] at heq
        omega
    · by_cases hki : k = i
      · have := (hother j hji hj).2
        rw [hki, hserial] at heq
        omega
      · rw [hat.blocks j hji, hat.blocks k hki] at heq
        exact hinv.distinct j k (hother j hji hj).1 (hother k hki hk).1 heq
  · have hne : serial ≠ s.lastSerial + 1 := fun heq ↦ hnone i hused (by rw [hserial, heq])
    rw [hhistory serial (by omega)]
    refine hinv.ended serial hpos (by omega) fun j hj ↦ ?_
    have hji : j ≠ i := fun hji ↦ by rw [hji, hunused] at hj; exact absurd hj (by decide)
    rw [← hat.blocks j hji]
    exact hnone j (by rw [hat.used j hji, hj])
  · rw [hlog, history_cons_of_ne (by omega)]
    exact hinv.fresh serial (by omega)

/-- A change of a block that is not allocated. -/
theorem Inv.modify_unused (hinv : Inv s) (hunused : s.used i = false)
    {change : Request → Request} (htimer : (change (s.blocks i)).timer = (s.blocks i).timer) :
    Inv (s.modify i change) := by
  have hat : OnlyAt i s (s.modify i change) :=
    ⟨fun j hji ↦ update_of_ne hji _ _, fun _ _ ↦ rfl, fun _ _ ↦ Iff.rfl,
      fun _ _ _ ↦ Iff.rfl, fun _ _ ↦ Iff.rfl⟩
  have hblocks : ∀ j, s.used j = true → (s.modify i change).blocks j = s.blocks j := fun j hj ↦
    hat.blocks j fun hji ↦ by rw [hji, hunused] at hj; exact absurd hj (by decide)
  refine ⟨hinv.listNodup, hinv.outstandingNodup, hinv.tellingNodup, fun j ↦ ?_,
    fun j k hj hk heq ↦ ?_, fun serial hpos hbound hnone ↦ ?_, hinv.fresh⟩
  · by_cases hji : j = i
    · subst hji
      obtain ⟨hunlisted, huntimed, hunsent, huntold⟩ := (hinv.block j).unused hunused
      constructor <;> simp [Requests.modify, hunused, hunlisted, hunsent, huntold, htimer, huntimed]
    · exact (hinv.block j).other hat hji le_rfl fun _ ↦ rfl
  · rw [hblocks j hj, hblocks k hk] at heq
    exact hinv.distinct j k hj hk heq
  · refine hinv.ended serial hpos hbound fun j hj ↦ ?_
    rw [← hblocks j hj]
    exact hnone j hj

/-- The stack matters only for the callbacks of replies. -/
theorem Inv.congr_frames (hinv : Inv s) {frames : List Frame}
    (htelling : beingTold frames = beingTold s.frames) : Inv { s with frames := frames } := by
  refine ⟨hinv.listNodup, hinv.outstandingNodup, htelling ▸ hinv.tellingNodup, fun j ↦ ?_,
    hinv.distinct, hinv.ended, hinv.fresh⟩
  have hok := hinv.block j
  refine ⟨hok.listed, hok.timed, hok.sent, ?_, hok.callback, hok.bound, hok.asked, hok.telling⟩
  rw [htelling]
  exact hok.told

/-- A request that has not been told a reply fails: the block is freed and the callback is told. -/
theorem Inv.failed (hinv : Inv s) (hused : s.used i = true) (hstate : (s.blocks i).state ≠ .done)
    (hblocks : ∀ j, j ≠ i → after.blocks j = s.blocks j) (htimer : (after.blocks i).timer = false)
    (hfree : after.used = membFree s.used i) (hlist : after.reqsList = listRemove s.reqsList i)
    (houtstanding : (after.outstanding.map Prod.fst).Nodup)
    (hsent : ∀ report, report ∈ after.outstanding ↔ report ∈ s.outstanding ∧ report.1 ≠ i)
    (htelling : beingTold after.frames = beingTold s.frames)
    (hlast : after.lastSerial = s.lastSerial)
    (hlog : after.log = ((s.blocks i).serial, .told (s.blocks i).user .failed) ::
      ((s.blocks i).serial, .freed) :: s.log) : Inv after := by
  have hat : OnlyAt i s after := by
    refine ⟨hblocks, fun j hji ↦ ?_, fun j hji ↦ ?_, fun j serial hji ↦ ?_, fun j _ ↦ ?_⟩
    · rw [hfree, membFree_of_ne _ hji]
    · rw [hlist, mem_listRemove hinv.listNodup]
      exact and_iff_right hji
    · rw [hsent]
      exact and_iff_left hji
    · rw [htelling]
  refine hinv.release hat hused ?_ hlast (fun serial hserial ↦ ?_) ⟨(s.blocks i).user, ?_⟩ ?_
    houtstanding ?_ ?_ htimer (fun serial ↦ ?_) ?_
  · rw [hfree, membFree_self]
  · rw [hlog, history_cons_of_ne hserial.symm, history_cons_of_ne hserial.symm]
  · rw [hlog, history_cons_self, history_cons_self]
    exact Or.inl ⟨_, (hinv.block i).asked hused hstate, rfl⟩
  · rw [hlist]
    exact nodup_listRemove hinv.listNodup
  · rw [htelling]
    exact hinv.tellingNodup
  · rw [hlist, mem_listRemove hinv.listNodup]
    exact fun hmem ↦ hmem.1 rfl
  · rw [hsent]
    exact fun hmem ↦ hmem.2 rfl
  · rw [htelling, (hinv.block i).told]
    exact fun hdone ↦ hstate hdone.2

end Rules

/-! ### The functions of the module -/

variable {s : Requests} {i : Fin numReqs}

/-- `request_timeout` for a request that is being sent or waits. The list of outstanding frames is
the one without the frame of the request, if that was outstanding. -/
theorem inv_requestTimeout (hinv : Inv s) (hused : s.used i = true)
    (hstate : (s.blocks i).state ≠ .done) {outstanding : List (Fin numReqs × ℕ)}
    (hnodup : (outstanding.map Prod.fst).Nodup)
    (hsent : ∀ report, report ∈ outstanding ↔ report ∈ s.outstanding ∧ report.1 ≠ i) :
    Inv (requestTimeout i { s with outstanding := outstanding }) := by
  have hcallback := (hinv.block i).callback hused
  unfold requestTimeout
  simp only [Requests.takeOut, Requests.free, Requests.tell, Requests.modify, update_self,
    update_idem, hcallback, if_true]
  exact hinv.failed hused hstate (fun j hji ↦ update_of_ne hji _ _)
    (by simp only [update_self]) rfl rfl hnodup hsent rfl rfl rfl

/-- A send report makes the request wait, or fail. -/
theorem inv_sendReport (hinv : Inv s) (k : ℕ) (status : UInt8) :
    Inv (step s (.sendReport k status)) := by
  simp only [step]
  cases hreport : s.outstanding[k]? with
  | none => exact hinv
  | some report =>
    obtain ⟨i, serial⟩ := report
    obtain ⟨hused, hsending, rfl⟩ :=
      ((hinv.block i).sent serial).mp (mem_of_getElem? hreport)
    have hnodup := nodup_keys_eraseIdx hinv.outstandingNodup hreport
    have hsent : ∀ report, report ∈ s.outstanding.eraseIdx k ↔
        report ∈ s.outstanding ∧ report.1 ≠ i := fun _ ↦
      mem_eraseIdx_of_nodup_keys hinv.outstandingNodup hreport
    dsimp only
    unfold zwSendRequestCallback
    split_ifs with hok
    · have hold := hinv.block i
      refine hinv.move (i := i) ⟨fun j hji ↦ update_of_ne hji _ _, fun _ _ ↦ rfl,
        fun _ _ ↦ Iff.rfl, fun j _ hji ↦ (hsent _).trans (and_iff_left hji), fun _ _ ↦
          Iff.rfl⟩ hused
        hused (by simp [Requests.modify]) rfl (fun _ _ ↦ rfl) hinv.listNodup hnodup
        hinv.tellingNodup ?_
      constructor
      · simpa [Requests.modify, hsending, hused] using hold.listed
      · simp [Requests.modify, hused]
      · intro serial
        simp [Requests.modify, hsent]
      · simpa [Requests.modify, hsending, hused] using hold.told
      · simpa [Requests.modify] using hold.callback
      · simpa [Requests.modify] using hold.bound
      · simpa [Requests.modify, hsending] using hold.asked
      · simp [Requests.modify]
    · refine inv_requestTimeout hinv hused ?_ hnodup hsent
      simp [hsending]

/-- The frame of a request that waits is not outstanding. -/
theorem Inv.unsent (hinv : Inv s) (hwaiting : (s.blocks i).state = .waiting)
    (report : Fin numReqs × ℕ) :
    report ∈ s.outstanding ↔ report ∈ s.outstanding ∧ report.1 ≠ i := by
  refine ⟨fun hmem ↦ ⟨hmem, ?_⟩, And.left⟩
  rintro rfl
  have hsending := (((hinv.block _).sent report.2).mp hmem).2.1
  rw [hwaiting] at hsending
  exact absurd hsending (by decide)

theorem inv_timeout (hinv : Inv s) (i : Fin numReqs) : Inv (step s (.timeout i)) := by
  simp only [step]
  split_ifs with htimer
  · obtain ⟨hused, hwaiting⟩ := (hinv.block i).timed.mp htimer
    exact inv_requestTimeout hinv hused (by simp [hwaiting]) hinv.outstandingNodup
      (hinv.unsent hwaiting)
  · exact hinv

/-- The loop of `ZW_Abort_SendRequest`, up to the next callback, over blocks of the list. -/
theorem inv_abortLoop (hinv : Inv s) (node : UInt16) {blocks : List (Fin numReqs)}
    (hblocks : ∀ j ∈ blocks, j ∈ s.reqsList) : Inv (abortLoop node blocks s) := by
  unfold abortLoop
  cases hfound : blocks.find? (s.abortable node) with
  | none => exact hinv
  | some i =>
    have hused := ((hinv.block i).listed.mp (hblocks i (mem_of_find?_eq_some hfound))).1
    have hwaiting : (s.blocks i).state = .waiting := by
      have habortable := List.find?_some hfound
      unfold Requests.abortable at habortable
      simp only [Bool.and_eq_true, beq_iff_eq] at habortable
      exact habortable.1
    simp only [Requests.takeOut, Requests.free, Requests.tell, Requests.modify, update_self]
    exact hinv.failed hused (by simp [hwaiting]) (fun j hji ↦ update_of_ne hji _ _)
      (by simp only [update_self]) rfl rfl hinv.outstandingNodup (hinv.unsent hwaiting) rfl
      rfl rfl

/-- A reply: the block leaves the list, its timer is stopped and its callback is on the stack. -/
theorem inv_applicationCommandHandler (hinv : Inv s) (p : TsParam) (command : List UInt8) :
    Inv (applicationCommandHandler p command s) := by
  unfold applicationCommandHandler
  cases hfound : s.reqsList.find? (s.answeredBy p command) with
  | none => exact hinv
  | some i =>
    have hold := hinv.block i
    have hlisted := mem_of_find?_eq_some hfound
    have hused := (hold.listed.mp hlisted).1
    have hwaiting : (s.blocks i).state = .waiting := by
      have hanswered := List.find?_some hfound
      unfold Requests.answeredBy at hanswered
      simp only [Bool.and_eq_true, beq_iff_eq] at hanswered
      exact hanswered.1.1.1.1
    have huntold : i ∉ beingTold s.frames := by
      rw [hold.told, hwaiting]
      exact fun hdone ↦ absurd hdone.2 (by decide)
    simp only [Requests.takeOut, Requests.tell, Requests.modify, update_self]
    refine hinv.move (i := i) ⟨fun j hji ↦ update_of_ne hji _ _, fun _ _ ↦ rfl,
      fun j hji ↦ ?_, fun _ _ _ ↦ Iff.rfl, fun j hji ↦ ?_⟩ hused hused ?_
        rfl (fun serial hserial ↦ ?_)
      (nodup_listRemove hinv.listNodup) hinv.outstandingNodup ?_ ?_
    · rw [mem_listRemove hinv.listNodup]
      exact and_iff_right hji
    · simp [beingTold, hji]
    · simp
    · exact history_cons_of_ne hserial.symm _ _
    · exact nodup_cons.mpr ⟨huntold, hinv.tellingNodup⟩
    · constructor
      · simp [mem_listRemove hinv.listNodup]
      · simp
      · intro serial
        simp [hold.sent, hwaiting]
      · simp [beingTold, hused]
      · simpa using hold.callback
      · simpa using hold.bound
      · simp
      · intro _ _
        simp only [update_self, history_cons_self]
        exact ⟨_, _, rfl, hold.asked hused (by simp [hwaiting]), rfl⟩

/-- The callback of a reply returns: the request waits again, or is over. -/
theorem inv_afterReply (hinv : Inv s) {rest : List Frame} (hframes : s.frames = .reply i :: rest)
    (more : Bool) : Inv (afterReply i more { s with frames := rest }) := by
  have hold := hinv.block i
  have htellingEq : beingTold s.frames = i :: beingTold rest := by
    rw [hframes]
    rfl
  have hnodup := hinv.tellingNodup
  rw [htellingEq, nodup_cons] at hnodup
  obtain ⟨hused, hdone⟩ := hold.told.mp (by rw [htellingEq]; exact mem_cons_self)
  obtain ⟨report, earlier, hreport, hasked, hhistory⟩ := hold.telling hused hdone
  have hother : ∀ j, j ≠ i → (j ∈ beingTold rest ↔ j ∈ beingTold s.frames) := by
    intro j hji
    rw [htellingEq, mem_cons]
    exact (or_iff_right hji).symm
  have hunsent : ∀ serial, (i, serial) ∉ s.outstanding := by
    intro serial
    rw [hold.sent, hdone]
    exact fun hmem ↦ absurd hmem.2.1 (by decide)
  unfold afterReply
  split_ifs with hmore
  · simp only [Requests.modify]
    refine hinv.move (i := i) ⟨fun j hji ↦ update_of_ne hji _ _, fun _ _ ↦ rfl,
      fun j hji ↦ ?_, fun _ _ _ ↦ Iff.rfl, hother⟩ hused hused ?_ rfl (fun serial hserial ↦ ?_)
      (nodup_listAdd hinv.listNodup) hinv.outstandingNodup hnodup.2 ?_
    · rw [mem_listAdd]
      exact or_iff_right hji
    · simp
    · exact history_cons_of_ne hserial.symm _ _
    · constructor
      · simp [mem_listAdd, hused]
      · simp [hused]
      · intro serial
        simp [hunsent]
      · simp [hnodup.1]
      · simpa using hold.callback
      · simpa using hold.bound
      · intro _ _
        simp only [update_self, history_cons_self, hhistory]
        exact .more report earlier hreport hasked
      · simp
  · simp only [Requests.free]
    refine hinv.release (i := i)
      ⟨fun _ _ ↦ rfl, fun j hji ↦ membFree_of_ne _ hji, fun _ _ ↦ Iff.rfl,
      fun _ _ _ ↦ Iff.rfl, hother⟩ hused (membFree_self _ _) rfl (fun serial hserial ↦ ?_)
      ⟨(s.blocks i).user, ?_⟩ hinv.listNodup hinv.outstandingNodup hnodup.2 ?_ ?_ hunsent hnodup.1
    · dsimp only
      rw [history_cons_of_ne hserial.symm, history_cons_of_ne hserial.symm]
    · simp only [history_cons_self]
      exact Or.inr ⟨_, ⟨report, earlier, hreport, hasked, hhistory⟩, rfl⟩
    · rw [hold.listed, hdone]
      simp
    · have huntimed : (s.blocks i).timer ≠ true := by
        rw [Ne, hold.timed, hdone]
        simp
      simpa using huntimed

/-- `ZW_SendRequest`. -/
theorem inv_zwSendRequest (hinv : Inv s) (schemeSelect : TsParam → UInt8) (p : TsParam)
    (cmdClass responseCmd : UInt8) (user : ℕ) (callback accepted : Bool) :
    Inv (zwSendRequest schemeSelect p cmdClass responseCmd user callback accepted s).1 := by
  unfold zwSendRequest
  by_cases hcallback : callback = true
  · rw [if_neg (by simp [hcallback])]
    cases halloc : membAlloc s.used with
    | none => exact hinv
    | some i =>
      have hunused := membAlloc_some halloc
      obtain ⟨hunlisted, huntimed, hunsent, -⟩ := (hinv.block i).unused hunused
      dsimp only
      split_ifs with haccepted
      · refine hinv.accept (i := i) hunused ⟨fun j hji ↦ update_of_ne hji _ _,
          fun j hji ↦ membTake_of_ne _ hji, fun j hji ↦ ?_, fun j serial hji ↦
            ?_, fun _ _ ↦ Iff.rfl⟩
          (membTake_self _ _) ?_ rfl ?_ (nodup_listAdd hinv.listNodup) ?_ rfl ?_ ?_ ?_ ?_
          fun serial ↦ ?_
        · exact mem_listAdd.trans (or_iff_right hji)
        · simp [Requests.modify, hji]
        · simp [Requests.modify]
        · simp [Requests.modify]
        · simp only [Requests.modify, map_append, nodup_append]
          refine ⟨hinv.outstandingNodup, nodup_singleton i, fun j hj k hk ↦ ?_⟩
          obtain ⟨report, hreport, rfl⟩ := mem_map.mp hj
          rw [mem_singleton.mp hk]
          rintro rfl
          exact hunsent report.2 hreport
        · exact mem_listAdd.mpr (Or.inl rfl)
        · simp [Requests.modify]
        · simpa [Requests.modify] using huntimed
        · simpa [Requests.modify] using hcallback
        · simp [Requests.modify, hunsent]
      · -- The block is taken and freed again.
        have hlist := listRemove_listAdd hunlisted
        have hpool : membFree (membTake s.used i) i = s.used := by
          simp [membFree, membTake, ← hunused]
        simp only [Requests.modify, hlist, hpool]
        change Inv (s.modify i fun request ↦
          { request with
            param := tsParamMakeReply schemeSelect p
            state := .sending
            cmdClass := cmdClass
            cmd := responseCmd
            user := user
            callback := callback
            serial := s.lastSerial + 1 })
        exact hinv.modify_unused hunused rfl
  · rw [if_pos (by simpa using hcallback)]
    exact hinv

theorem inv_step (s : Requests) (input : Input) (hinv : Inv s) : Inv (step s input) := by
  cases input with
  | sendRequest schemeSelect p cmdClass responseCmd user callback accepted =>
    exact inv_zwSendRequest hinv schemeSelect p cmdClass responseCmd user callback accepted
  | sendReport k status => exact inv_sendReport hinv k status
  | command p command => exact inv_applicationCommandHandler hinv p command
  | timeout i => exact inv_timeout hinv i
  | abort node => exact inv_abortLoop hinv node fun _ hmem ↦ hmem
  | ret value =>
    simp only [step]
    cases hframes : s.frames with
    | nil => exact hinv
    | cons frame rest =>
      cases frame with
      | reply i => exact inv_afterReply hinv hframes value
      | abort i node =>
        refine inv_abortLoop (s := { s with frames := rest }) ?_ node fun _ ↦ mem_of_mem_listAfter
        have htelling : beingTold rest = beingTold s.frames := by
          rw [hframes]
          rfl
        exact hinv.congr_frames htelling

/-! ### Requests that are over -/

theorem Asked.freed_not_mem {user : ℕ} {events : List Event} (hasked : Asked user events) :
    .freed ∉ events := by
  induction hasked with
  | accepted => simp
  | more report events _ _ ih => simp [ih]

theorem Telling.freed_not_mem {user : ℕ} {events : List Event} (htelling : Telling user events) :
    .freed ∉ events := by
  obtain ⟨report, earlier, -, hasked, rfl⟩ := htelling
  simp [hasked.freed_not_mem]

theorem Over.freed_mem {user : ℕ} {events : List Event} (hover : Over user events) :
    .freed ∈ events := by
  rcases hover with ⟨earlier, -, rfl⟩ | ⟨earlier, -, rfl⟩
  · simp
  · simp

variable {user user' : ℕ} {events : List Event}

/-- A history that is over cannot go on and be over again. -/
theorem Over.eq_of_append {acts events : List Event} (hover : Over user events)
    (hover' : Over user' (acts ++ events)) : acts = [] := by
  have hmem := hover.freed_mem
  rcases hover' with ⟨earlier, hasked, heq⟩ | ⟨earlier, htelling, heq⟩
  · match acts with
    | [] => rfl
    | [act] =>
      -- The earlier history would begin with the freeing of the block.
      obtain ⟨-, rfl⟩ : act = _ ∧ events = .freed :: earlier := by simpa using heq
      rcases hover with ⟨_, -, heq⟩ | ⟨_, -, heq⟩
      · exact absurd heq (by simp)
      · obtain rfl : earlier = .last :: _ := by simpa using heq
        cases hasked
    | first :: second :: rest =>
      obtain ⟨-, -, hrest⟩ : first = _ ∧ second = _ ∧ rest ++ events = earlier := by simpa using heq
      exact absurd (hrest ▸ mem_append_right rest hmem) hasked.freed_not_mem
  · match acts with
    | [] => rfl
    | [act] =>
      obtain ⟨-, rfl⟩ : act = _ ∧ events = .last :: earlier := by simpa using heq
      exact absurd (by simpa using hmem) htelling.freed_not_mem
    | first :: second :: rest =>
      obtain ⟨-, -, hrest⟩ : first = _ ∧ second = _ ∧ rest ++ events = earlier := by simpa using heq
      exact absurd (hrest ▸ mem_append_right rest hmem) htelling.freed_not_mem

theorem step_log (s : Requests) (input : Input) : ∃ acts, (step s input).log = acts ++ s.log := by
  have htimeout :
      ∀ (i : Fin numReqs) (s : Requests), ∃ acts, (requestTimeout i s).log = acts ++ s.log := by
    intro i s
    unfold requestTimeout
    dsimp only
    split_ifs
    · exact ⟨[_, _], rfl⟩
    · exact ⟨[_], rfl⟩
  have habort :
      ∀ node blocks (s : Requests), ∃ acts, (abortLoop node blocks s).log = acts ++ s.log := by
    intro node blocks s
    unfold abortLoop
    split
    · exact ⟨[], rfl⟩
    · exact ⟨[_, _], rfl⟩
  cases input with
  | sendRequest schemeSelect p cmdClass responseCmd user callback accepted =>
    simp only [step, zwSendRequest]
    split
    · exact ⟨[], rfl⟩
    · split
      · exact ⟨[], rfl⟩
      · split_ifs
        · exact ⟨[_], rfl⟩
        · exact ⟨[], rfl⟩
  | sendReport k status =>
    simp only [step, zwSendRequestCallback]
    split
    · exact ⟨[], rfl⟩
    · split_ifs
      · exact ⟨[], rfl⟩
      · exact htimeout _ _
  | command p command =>
    simp only [step, applicationCommandHandler]
    split
    · exact ⟨[], rfl⟩
    · exact ⟨[_], rfl⟩
  | timeout i =>
    simp only [step]
    split_ifs
    · exact htimeout i s
    · exact ⟨[], rfl⟩
  | abort node => exact habort node _ s
  | ret value =>
    simp only [step, afterReply]
    split
    · exact ⟨[], rfl⟩
    · split_ifs
      · exact ⟨[_], rfl⟩
      · exact ⟨[_, _], rfl⟩
    · exact habort _ _ _

/-- The request in the block is under way: its frame is outstanding or its timer runs, or its
callback is being told a reply. -/
def UnderWay (s : Requests) (i : Fin numReqs) (user : ℕ) (events : List Event) : Prop :=
  Asked user events ∧ ((i, (s.blocks i).serial) ∈ s.outstanding ∨ (s.blocks i).timer = true) ∨
    Telling user events ∧ .reply i ∈ s.frames

theorem UnderWay.freed_not_mem {user : ℕ} {events : List Event} (hway : UnderWay s i user events) :
    .freed ∉ events := by
  rcases hway with ⟨hasked, -⟩ | ⟨htelling, -⟩
  · exact hasked.freed_not_mem
  · exact htelling.freed_not_mem

theorem Asked.accepted_iff (hasked : Asked user events) :
    .accepted user' ∈ events ↔ user' = user := by
  induction hasked with
  | accepted => simp
  | more report events _ _ ih => simp [ih]

theorem Telling.accepted_iff (htelling : Telling user events) :
    .accepted user' ∈ events ↔ user' = user := by
  obtain ⟨report, earlier, -, hasked, rfl⟩ := htelling
  simp [hasked.accepted_iff]

theorem Over.accepted_iff (hover : Over user events) : .accepted user' ∈ events ↔ user' = user := by
  rcases hover with ⟨earlier, hasked, rfl⟩ | ⟨earlier, htelling, rfl⟩
  · simp [hasked.accepted_iff]
  · simp [htelling.accepted_iff]

/-- An allocated block holds a request that is under way. -/
theorem Inv.underWay (hinv : Inv s) (hused : s.used i = true) :
    UnderWay s i (s.blocks i).user (history (s.blocks i).serial s.log) := by
  have hok := hinv.block i
  cases hstate : (s.blocks i).state with
  | sending =>
    exact Or.inl
      ⟨hok.asked hused (by simp [hstate]), Or.inl ((hok.sent _).mpr ⟨hused, hstate, rfl⟩)⟩
  | waiting =>
    exact Or.inl ⟨hok.asked hused (by simp [hstate]), Or.inr (hok.timed.mpr ⟨hused, hstate⟩)⟩
  | done =>
    refine Or.inr ⟨hok.telling hused hstate, ?_⟩
    obtain ⟨frame, hframe, hreply⟩ := mem_filterMap.mp (hok.told.mpr ⟨hused, hstate⟩)
    cases frame with
    | reply j =>
      obtain rfl : j = i := by simpa using hreply
      exact hframe
    | abort j node => exact absurd hreply (by simp)

/-- A request that was taken is under way in its block, or over. -/
theorem Inv.accepted (hinv : Inv s) {serial user : ℕ}
    (haccepted : .accepted user ∈ history serial s.log) :
    (∃ i, s.used i = true ∧ (s.blocks i).serial = serial ∧
        UnderWay s i user (history serial s.log)) ∨
      (∀ i, s.used i = true → (s.blocks i).serial ≠ serial) ∧ Over user (history serial s.log) := by
  by_cases hheld : ∃ i, s.used i = true ∧ (s.blocks i).serial = serial
  · left
    obtain ⟨i, hused, rfl⟩ := hheld
    have hway := hinv.underWay hused
    have huser : user = (s.blocks i).user := by
      rcases hway with ⟨hasked, -⟩ | ⟨htelling, -⟩
      · exact hasked.accepted_iff.mp haccepted
      · exact htelling.accepted_iff.mp haccepted
    exact ⟨i, hused, rfl, huser ▸ hway⟩
  · right
    push Not at hheld
    have hbound : serial ≤ s.lastSerial := by
      by_contra hbound
      rw [hinv.fresh serial (by omega)] at haccepted
      exact absurd haccepted not_mem_nil
    have hpos : 1 ≤ serial := by
      by_contra hpos
      rw [hinv.fresh serial (by omega)] at haccepted
      exact absurd haccepted not_mem_nil
    obtain ⟨user', hover⟩ := hinv.ended serial hpos hbound hheld
    exact ⟨hheld, hover.accepted_iff.mp haccepted ▸ hover⟩

/-- Nothing more is done for a request that is over. -/
theorem Inv.over_step (hinv : Inv s) {serial user : ℕ} (hover : Over user (history serial s.log))
    (input : Input) : history serial (step s input).log = history serial s.log := by
  obtain ⟨acts, hlog⟩ := step_log s input
  have happend : history serial (step s input).log =
      history serial acts ++ history serial s.log := by
    rw [hlog]
    exact filterMap_append
  have haccepted : .accepted user ∈ history serial (step s input).log := by
    rw [happend]
    exact mem_append_right _ (hover.accepted_iff.mpr rfl)
  rcases (inv_step s input hinv).accepted haccepted with ⟨i, -, -, hway⟩ | ⟨-, hover'⟩
  · refine absurd ?_ hway.freed_not_mem
    rw [happend]
    exact mem_append_right _ hover.freed_mem
  · rw [happend] at hover' ⊢
    rw [hover.eq_of_append hover']
    rfl

/-- In every state that the module can reach, a request that was taken is under way or over, and not
both. While it is under way it has its block, which has not been freed, and something is still to
come for it: the report of its frame, its timer, or the return of its callback. When it is over, its
block was freed once, its last callback was called at that moment, with a failure or with a reply
that satisfied it, and nothing will be done for it again. So when nothing is to come any more, every
request is over. -/
theorem requests_end_once (inputs : List Input) :
    (∀ serial user, .accepted user ∈ history serial (run step Requests.init inputs).log →
      (∃ i, (run step Requests.init inputs).used i = true ∧
          ((run step Requests.init inputs).blocks i).serial = serial ∧
          UnderWay (run step Requests.init inputs) i user
            (history serial (run step Requests.init inputs).log)) ∨
        (∀ i, (run step Requests.init inputs).used i = true →
            ((run step Requests.init inputs).blocks i).serial ≠ serial) ∧
          Over user (history serial (run step Requests.init inputs).log)) ∧
      ((run step Requests.init inputs).outstanding = [] →
        (run step Requests.init inputs).frames = [] →
        (∀ i, ((run step Requests.init inputs).blocks i).timer = false) →
        ∀ serial user, .accepted user ∈ history serial (run step Requests.init inputs).log →
          Over user (history serial (run step Requests.init inputs).log)) ∧
      ∀ serial user input, Over user (history serial (run step Requests.init inputs).log) →
        history serial (step (run step Requests.init inputs) input).log =
          history serial (run step Requests.init inputs).log := by
  have hinv : Inv (run step Requests.init inputs) := run_invariant inv_step inv_init inputs
  generalize run step Requests.init inputs = s at hinv ⊢
  refine ⟨fun serial user haccepted ↦ hinv.accepted haccepted,
    fun hsent hframes htimers serial user haccepted ↦ ?_,
    fun serial user input hover ↦ hinv.over_step hover input⟩
  rcases hinv.accepted haccepted with ⟨i, -, -, ⟨-, hwaits⟩ | ⟨-, hcalls⟩⟩ | ⟨-, hover⟩
  · rw [hsent, htimers i] at hwaits
    simp at hwaits
  · rw [hframes] at hcalls
    exact absurd hcalls not_mem_nil
  · exact hover

/-- In every run a block is in the list of requests, has its timer running, or is what a send
callback on its way points to, exactly when it is allocated and its state says so; and allocated
blocks have different numbers. -/
theorem blocks_accounted (inputs : List Input) (i : Fin numReqs) :
    let s := run step Requests.init inputs
    (i ∈ s.reqsList ↔ s.used i = true ∧ (s.blocks i).state ≠ .done) ∧
      ((s.blocks i).timer = true ↔ s.used i = true ∧ (s.blocks i).state = .waiting) ∧
      (∀ serial, (i, serial) ∈ s.outstanding ↔
        s.used i = true ∧ (s.blocks i).state = .sending ∧ (s.blocks i).serial = serial) ∧
      ∀ j, s.used i = true → s.used j = true → (s.blocks i).serial = (s.blocks j).serial →
        i = j := by
  have hinv : Inv (run step Requests.init inputs) := run_invariant inv_step inv_init inputs
  obtain ⟨hlisted, htimed, hsent, -⟩ := hinv.block i
  exact ⟨hlisted, htimed, hsent, fun j ↦ hinv.distinct i j⟩

end ZipGateway.SendRequest
