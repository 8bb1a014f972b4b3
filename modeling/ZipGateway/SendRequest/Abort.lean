import Mathlib.Data.Finset.Card
import ZipGateway.SendRequest.Lifecycle

/-!
# Aborted requests

`ZW_Abort_SendRequest` walks along the request list and takes out the requests of a node that wait.
It asks the request that it has just taken out for its successor, and `list_remove` has cleared the
link of that request. So the walk ends at the first request that matches, `abort_iff`: a second one
stays in the list.

`AbortRun` has the runs of a call: the callback of a request that is aborted may send other requests
before it returns, in the block that has become free or in another one.
-/

set_option autoImplicit false

namespace ZipGateway.SendRequest

open Lib Contiki Function List

/-! ### The runs -/

/-- A call of `ZW_SendRequest`. -/
def Input.IsRequest : Input → Prop
  | .sendRequest .. => True
  | _ => False

/-- The calls of callbacks come to an end: each callback sends requests and returns. -/
inductive Returns (depth : ℕ) : Requests → Requests → Prop
  | done {s : Requests} (hdepth : s.frames.length = depth) : Returns depth s s
  | callback {s after : Requests} (hdepth : depth < s.frames.length) (calls : List Input)
      (hcalls : ∀ call ∈ calls, call.IsRequest) (value : Bool)
      (hrest : Returns depth (step (run step s calls) (.ret value)) after) : Returns depth s after

/-- A call of `ZW_Abort_SendRequest`, up to its return. -/
def AbortRun (node : UInt16) (s after : Requests) : Prop :=
  Returns s.frames.length (step s (.abort node)) after

/-- The requests of the node that waited are told once that they failed, and are freed; the others
are as they were, in the same order, and behind them are new ones. -/
structure Aborted (node : UInt16) (s after : Requests) : Prop where
  none_left : ∀ i ∈ after.reqsList, after.abortable node i = false
  told : ∀ i ∈ s.reqsList, s.abortable node i = true → history (s.blocks i).serial after.log =
    .told (s.blocks i).user .failed :: .freed :: history (s.blocks i).serial s.log
  others : ∀ i ∈ s.reqsList, s.abortable node i = false → after.used i = true ∧
    after.blocks i = s.blocks i ∧
      history (s.blocks i).serial after.log = history (s.blocks i).serial s.log
  order : ∃ added, after.reqsList = (s.reqsList.filter fun i ↦ !s.abortable node i) ++ added ∧
    ∀ i ∈ added, s.lastSerial < (after.blocks i).serial

/-! ### New requests -/

/-- Some requests have been sent since state `s`. -/
structure Extended (s after : Requests) : Prop where
  inv : Inv after
  frames : after.frames = s.frames
  lastSerial : s.lastSerial ≤ after.lastSerial
  kept : ∀ i, s.used i = true → after.used i = true ∧ after.blocks i = s.blocks i
  listed : ∃ added, after.reqsList = s.reqsList ++ added ∧
    ∀ i ∈ added, (after.blocks i).state = .sending ∧ s.lastSerial < (after.blocks i).serial
  history : ∀ serial, serial ≤ s.lastSerial → history serial after.log = history serial s.log

section Extended

variable {s after : Requests} {i : Fin numReqs} {node : UInt16}

theorem Extended.refl (hinv : Inv s) : Extended s s where
  inv := hinv
  frames := rfl
  lastSerial := le_rfl
  kept := fun _ hused ↦ ⟨hused, rfl⟩
  listed := ⟨[], (append_nil _).symm, fun _ hmem ↦ absurd hmem not_mem_nil⟩
  history := fun _ _ ↦ rfl

theorem Extended.zwSendRequest (hext : Extended s after) (schemeSelect : TsParam → UInt8)
    (p : TsParam) (cmdClass responseCmd : UInt8) (user : ℕ) (callback accepted : Bool) :
    Extended s (zwSendRequest schemeSelect p cmdClass responseCmd user callback accepted
      after).1 := by
  have hinv := inv_zwSendRequest hext.inv schemeSelect p cmdClass responseCmd user callback accepted
  unfold SendRequest.zwSendRequest at hinv ⊢
  by_cases hcallback : callback = true
  · rw [if_neg (by simp [hcallback])] at hinv ⊢
    cases halloc : membAlloc after.used with
    | none => exact hext
    | some j =>
      have hunused := membAlloc_some halloc
      have hunlisted := ((hext.inv.block j).unused hunused).1
      have hlist : listAdd after.reqsList j = after.reqsList ++ [j] := by
        unfold listAdd listRemove
        rw [erase_of_not_mem hunlisted]
      have hother : ∀ k, s.used k = true → k ≠ j := by
        rintro k hused rfl
        rw [(hext.kept k hused).1] at hunused
        cases hunused
      obtain ⟨added, hadded, hnew⟩ := hext.listed
      have hlistedUsed : ∀ k ∈ added, k ≠ j := by
        rintro k hk rfl
        exact hunlisted (hadded ▸ mem_append_right _ hk)
      rw [halloc] at hinv
      dsimp only at hinv ⊢
      split_ifs at hinv ⊢ with haccepted
      · refine ⟨hinv, hext.frames, hext.lastSerial.trans (Nat.le_succ _), ?_,
          ⟨added ++ [j], ?_, ?_⟩, ?_⟩
        · intro k hused
          have hkj := hother k hused
          exact ⟨(membTake_of_ne _ hkj).trans (hext.kept k hused).1,
            (update_of_ne hkj _ _).trans (hext.kept k hused).2⟩
        · change listAdd after.reqsList j = _
          rw [hlist, hadded, append_assoc]
        · intro k hk
          rcases mem_append.mp hk with hk | hk
          · rw [show (_ : Requests).blocks k = after.blocks k
              from update_of_ne (hlistedUsed k hk) _ _]
            exact hnew k hk
          · obtain rfl := mem_singleton.mp hk
            simp only [Requests.modify, update_self]
            exact ⟨trivial, Nat.lt_succ_of_le hext.lastSerial⟩
        · intro serial hserial
          have hne : after.lastSerial + 1 ≠ serial := by
            have hle := hext.lastSerial
            omega
          exact (history_cons_of_ne hne _ _).trans (hext.history serial hserial)
      · refine ⟨hinv, hext.frames, hext.lastSerial, ?_, ⟨added, ?_, ?_⟩, hext.history⟩
        · intro k hused
          have hkj := hother k hused
          exact ⟨((membFree_of_ne _ hkj).trans (membTake_of_ne _ hkj)).trans (hext.kept k hused).1,
            (update_of_ne hkj _ _).trans (hext.kept k hused).2⟩
        · exact (listRemove_listAdd hunlisted).trans hadded
        · intro k hk
          rw [show (_ : Requests).blocks k = after.blocks k
            from update_of_ne (hlistedUsed k hk) _ _]
          exact hnew k hk
  · rw [if_pos (by simpa using hcallback)]
    exact hext

/-- What the callback of a request may do. -/
theorem Extended.run (hinv : Inv s) {calls : List Input} (hcalls : ∀ call ∈ calls, call.IsRequest) :
    Extended s (run step s calls) := by
  refine List.foldlRecOn (motive := fun after ↦ Extended s after) calls step (Extended.refl hinv) ?_
  intro after hext call hcall
  cases call with
  | sendRequest schemeSelect p cmdClass responseCmd user callback accepted =>
    exact hext.zwSendRequest schemeSelect p cmdClass responseCmd user callback accepted
  | sendReport | command | timeout | abort | ret => exact (hcalls _ hcall).elim

/-- No new request waits. -/
theorem Extended.not_abortable (hext : Extended s after) (hi : i ∉ s.reqsList) {j : Fin numReqs}
    (hj : j ∈ listAfter after.reqsList i) : after.abortable node j = false := by
  obtain ⟨added, hadded, hnew⟩ := hext.listed
  rw [hadded, listAfter_append hi] at hj
  have hsending := (hnew j (mem_of_mem_listAfter hj)).1
  unfold Requests.abortable
  rw [hsending]
  rfl

/-- A call that finds no request to abort does nothing. -/
theorem abortRun_of_none (hnone : s.reqsList.find? (s.abortable node) = none)
    (hrun : AbortRun node s after) : after = s := by
  have hstep : step s (.abort node) = s := by
    change abortLoop node s.reqsList s = s
    unfold abortLoop
    rw [hnone]
  unfold AbortRun at hrun
  rw [hstep] at hrun
  cases hrun with
  | done => rfl
  | callback hdepth => exact absurd hdepth (lt_irrefl _)

/-- The state in which the callback of the request in a block is called. -/
def failing (node : UInt16) (i : Fin numReqs) (s : Requests) : Requests :=
  { ((s.takeOut i).free i).tell i .failed with frames := .abort i node :: s.frames }

theorem step_abort (hfound : s.reqsList.find? (s.abortable node) = some i) :
    step s (.abort node) = failing node i s := by
  change abortLoop node s.reqsList s = _
  unfold abortLoop
  rw [hfound]
  rfl

/-- The request leaves the list. -/
theorem not_mem_failing (hinv : Inv s) : i ∉ (failing node i s).reqsList :=
  fun hmem ↦ ((mem_listRemove hinv.listNodup).mp hmem).1 rfl

/-- The walk ends when the callback returns. -/
theorem step_ret (hinv : Inv s) (hext : Extended (failing node i s) after) (value : Bool) :
    step after (.ret value) = { after with frames := s.frames } := by
  have hframes : after.frames = .abort i node :: s.frames := hext.frames
  have hnone : (listAfter after.reqsList i).find?
      (Requests.abortable { after with frames := s.frames } node) = none := by
    refine List.find?_eq_none.mpr fun j hj ↦ ?_
    exact Bool.not_eq_true _ ▸ hext.not_abortable (not_mem_failing hinv) hj
  simp only [step, hframes]
  unfold abortLoop
  rw [hnone]

/-- A call that finds a request to abort ends when its callback has returned. -/
theorem abortRun_iff (hinv : Inv s) (hfound : s.reqsList.find? (s.abortable node) = some i) :
    AbortRun node s after ↔
      ∃ calls : List Input, (∀ call ∈ calls, call.IsRequest) ∧
        after = { run step (failing node i s) calls with frames := s.frames } := by
  have hinv' : Inv (failing node i s) := step_abort hfound ▸ inv_step s (.abort node) hinv
  unfold AbortRun
  rw [step_abort hfound]
  constructor
  · intro hrun
    cases hrun with
    | done hdepth => exact absurd hdepth (Nat.succ_ne_self _)
    | callback _ calls hcalls value hrest =>
      refine ⟨calls, hcalls, ?_⟩
      rw [step_ret hinv (Extended.run hinv' hcalls)] at hrest
      cases hrest with
      | done => rfl
      | callback hdepth => exact absurd hdepth (lt_irrefl _)
  · rintro ⟨calls, hcalls, rfl⟩
    have hext := Extended.run hinv' hcalls
    refine .callback (Nat.lt_succ_self _) calls hcalls true ?_
    rw [step_ret hinv hext]
    exact .done rfl

/-- What the request list is when the call returns. -/
theorem reqsList_of_extended (hext : Extended (failing node i s) after) :
    ∃ added, after.reqsList = listRemove s.reqsList i ++ added ∧
      ∀ j ∈ added, (after.blocks j).state = .sending ∧ s.lastSerial < (after.blocks j).serial :=
        hext.listed

/-- The other requests are as they were. -/
theorem kept_of_extended (hinv : Inv s) (hext : Extended (failing node i s) after) {j : Fin numReqs}
    (hj : j ∈ s.reqsList) (hne : j ≠ i) :
    after.used j = true ∧ after.blocks j = s.blocks j := by
  have hused := ((hinv.block j).listed.mp hj).1
  have hkept := hext.kept j ((membFree_of_ne _ hne).trans hused)
  exact ⟨hkept.1, hkept.2.trans (update_of_ne hne _ _)⟩

end Extended

/-! ### The request that is aborted -/

section Abort

variable {s after : Requests} {i : Fin numReqs} {node : UInt16}

/-- A second request that matches is left. -/
theorem Aborted.eq_of_abortable (hinv : Inv s) (hext : Extended (failing node i s) after)
    (haborted : Aborted node s { after with frames := s.frames }) {j : Fin numReqs}
    (hj : j ∈ s.reqsList)
    (hmatch : s.abortable node j = true) : j = i := by
  by_contra hne
  obtain ⟨added, hlist, -⟩ := reqsList_of_extended hext
  have hmem : j ∈ after.reqsList :=
    hlist ▸ mem_append_left _ ((mem_listRemove hinv.listNodup).mpr ⟨hne, hj⟩)
  have hleft := haborted.none_left j hmem
  have hsame :
      Requests.abortable { after with frames := s.frames } node j = s.abortable node j := by
    unfold Requests.abortable
    rw [(kept_of_extended hinv hext hj hne).2]
  rw [hsame, hmatch] at hleft
  cases hleft

/-- At most one request matches when all that match are the same. -/
theorem length_matching_le_one_iff (hinv : Inv s) :
    (s.reqsList.filter (s.abortable node)).length ≤ 1 ↔
      ∀ j ∈ s.reqsList, s.abortable node j = true → ∀ k ∈ s.reqsList, s.abortable node k = true →
        j = k := by
  rw [← toFinset_card_of_nodup (hinv.listNodup.filter _), Finset.card_le_one]
  simp only [mem_toFinset, mem_filter, and_imp]

/-- The only request that matches is aborted. -/
theorem aborted_of_only (hinv : Inv s) (hi : i ∈ s.reqsList) (hmatch : s.abortable node i = true)
    (honly : ∀ j ∈ s.reqsList, s.abortable node j = true → j = i)
    (hext : Extended (failing node i s) after) :
    Aborted node s { after with frames := s.frames } := by
  obtain ⟨added, hlist, hnew⟩ := reqsList_of_extended hext
  have hused : ∀ j ∈ s.reqsList, s.used j = true := fun j hj ↦ ((hinv.block j).listed.mp hj).1
  have hlog : (failing node i s).log = ((s.blocks i).serial, .told (s.blocks i).user .failed) ::
      ((s.blocks i).serial, .freed) :: s.log := by
    simp [failing, Requests.tell, Requests.free, Requests.takeOut, Requests.modify]
  have hfilter : (s.reqsList.filter fun j ↦ !s.abortable node j) = listRemove s.reqsList i := by
    unfold listRemove
    rw [hinv.listNodup.erase_eq_filter]
    refine filter_congr fun j hj ↦ ?_
    by_cases hji : j = i
    · rw [hji, hmatch]
      simp
    · rw [Bool.eq_false_iff.mpr (mt (honly j hj) hji)]
      simp [hji]
  refine ⟨?_, ?_, ?_, added, ?_, fun j hj ↦ (hnew j hj).2⟩
  · intro j hj
    change after.abortable node j = false
    rcases mem_append.mp (hlist ▸ hj : j ∈ listRemove s.reqsList i ++ added) with hold | hadded
    · obtain ⟨hne, hmem⟩ := (mem_listRemove hinv.listNodup).mp hold
      unfold Requests.abortable
      rw [(kept_of_extended hinv hext hmem hne).2]
      exact Bool.eq_false_iff.mpr (mt (honly j hmem) hne)
    · unfold Requests.abortable
      rw [(hnew j hadded).1]
      rfl
  · intro j hj hjmatch
    obtain rfl := honly j hj hjmatch
    change history _ after.log = _
    rw [hext.history _ ((hinv.block j).bound (hused j hj)).2, hlog, history_cons_self,
      history_cons_self]
  · intro j hj hjmatch
    have hne : j ≠ i := by
      rintro rfl
      rw [hmatch] at hjmatch
      cases hjmatch
    have hserial : (s.blocks i).serial ≠ (s.blocks j).serial :=
      fun hsame ↦ hne (hinv.distinct j i (hused j hj) (hused i hi) hsame.symm)
    obtain ⟨hkept, hblock⟩ := kept_of_extended hinv hext hj hne
    refine ⟨hkept, hblock, ?_⟩
    change history _ after.log = _
    rw [hext.history _ ((hinv.block j).bound (hused j hj)).2, hlog, history_cons_of_ne hserial,
      history_cons_of_ne hserial]
  · rw [hfilter]
    exact hlist

end Abort

/-- In every state that the module can reach a call of `ZW_Abort_SendRequest` returns, whatever
requests the callback sends, and it does what it is for exactly when at most one request of the node
waits. -/
theorem abort_iff (inputs : List Input) (node : UInt16) :
    (∃ after, AbortRun node (run step Requests.init inputs) after) ∧
      ∀ after, AbortRun node (run step Requests.init inputs) after →
        (Aborted node (run step Requests.init inputs) after ↔
          ((run step Requests.init inputs).reqsList.filter
            ((run step Requests.init inputs).abortable node)).length ≤ 1) := by
  have hinv : Inv (run step Requests.init inputs) := run_invariant inv_step inv_init inputs
  generalize run step Requests.init inputs = s at hinv ⊢
  cases hfound : s.reqsList.find? (s.abortable node) with
  | none =>
    have hnone : ∀ i ∈ s.reqsList, s.abortable node i = false :=
      fun i hi ↦ Bool.eq_false_iff.mpr (List.find?_eq_none.mp hfound i hi)
    have hfilter : s.reqsList.filter (s.abortable node) = [] :=
      filter_eq_nil_iff.mpr (List.find?_eq_none.mp hfound)
    refine ⟨⟨s, ?_⟩, fun after hrun ↦ ?_⟩
    · have hstep : step s (.abort node) = s := by
        change abortLoop node s.reqsList s = s
        unfold abortLoop
        rw [hfound]
      unfold AbortRun
      rw [hstep]
      exact .done rfl
    · rw [abortRun_of_none hfound hrun, hfilter]
      refine iff_of_true ⟨hnone, ?_, ?_, [], ?_, ?_⟩ (Nat.zero_le 1)
      · intro i hi hmatch
        rw [hnone i hi] at hmatch
        cases hmatch
      · exact fun i hi _ ↦ ⟨((hinv.block i).listed.mp hi).1, rfl, rfl⟩
      · rw [append_nil]
        exact (filter_eq_self.mpr fun i hi ↦ by rw [hnone i hi]; rfl).symm
      · exact fun i hi ↦ absurd hi not_mem_nil
  | some i =>
    have hi := mem_of_find?_eq_some hfound
    have hmatch := List.find?_some hfound
    have hinv' : Inv (failing node i s) := step_abort hfound ▸ inv_step s (.abort node) hinv
    refine ⟨⟨_, (abortRun_iff hinv hfound).mpr ⟨[], fun _ hmem ↦ absurd hmem not_mem_nil, rfl⟩⟩, ?_⟩
    intro after hrun
    obtain ⟨calls, hcalls, rfl⟩ := (abortRun_iff hinv hfound).mp hrun
    have hext := Extended.run hinv' hcalls
    rw [length_matching_le_one_iff hinv]
    constructor
    · intro haborted j hj hjmatch k hk hkmatch
      exact (haborted.eq_of_abortable hinv hext hj hjmatch).trans
        (haborted.eq_of_abortable hinv hext hk hkmatch).symm
    · intro hsame
      exact aborted_of_only hinv hi hmatch (fun j hj hjmatch ↦ hsame j hj hjmatch i hi hmatch) hext

/-- Two requests to a node, both sent and waiting for their replies. -/
def twoWaiting : List Input :=
  [.sendRequest (fun _ ↦ 0) ⟨0, 5, 0, 0, 0, 0, 0⟩ 0x86 0x12 1 true true,
    .sendRequest (fun _ ↦ 0) ⟨0, 5, 0, 0, 0, 0, 0⟩ 0x86 0x14 2 true true, .sendReport 0 0,
      .sendReport 0 0]

theorem second_request_left :
    ¬ ∀ (inputs : List Input) (node : UInt16) (after : Requests),
      AbortRun node (run step Requests.init inputs) after →
        Aborted node (run step Requests.init inputs) after := by
  intro hall
  have hinv : Inv (run step Requests.init twoWaiting) := run_invariant inv_step inv_init twoWaiting
  have hfound : (run step Requests.init twoWaiting).reqsList.find?
      ((run step Requests.init twoWaiting).abortable 5) = some 0 := by
    decide +kernel
  have hinv' : Inv (failing 5 0 (run step Requests.init twoWaiting)) :=
    step_abort hfound ▸ inv_step _ (.abort 5) hinv
  have haborted := hall twoWaiting 5 _
    ((abortRun_iff hinv hfound).mpr ⟨[], fun _ hmem ↦ absurd hmem not_mem_nil, rfl⟩)
  have hsame : (1 : Fin numReqs) = 0 :=
    haborted.eq_of_abortable hinv (Extended.refl hinv') (by decide +kernel) (by decide +kernel)
  exact absurd hsame (by decide)

end ZipGateway.SendRequest
