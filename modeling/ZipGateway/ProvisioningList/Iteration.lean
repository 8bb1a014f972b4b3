import ZipGateway.ProvisioningList.Commands
import ZipGateway.ProvisioningList.Lookups

/-!
# The iteration over the provisioning list

A client iterates over the list with Provisioning Iteration Get commands: the first one restarts
the iteration, and each other one echoes the count of entries that remain, as the report before it
had it. The count has one byte, and 0xFF restarts the iteration. The list has fewer entries than
that, so the client gets every entry that the iterator lists, and the iteration ends
(`iteration_complete`). An entry whose DSK is too large for the iterator is not one of them
(`long_dsk_not_iterated`).
-/

set_option autoImplicit false

namespace ZipGateway.ProvisioningList

open Function List ZipGateway.Lib

/-! ### The client -/

def iterGetFrame (seqNo remaining : UInt8) : Frame :=
  ⟨[commandClassProvisioningList, 3, seqNo, remaining], fun _ ↦ 0⟩

/-- The count of entries that remain in a report. -/
def reportRemaining (report : List UInt8) : UInt8 := report.getD 3 0

/-- The DSK in a report; a report without an entry has none. -/
def reportDsk (report : List UInt8) : Option (List UInt8) :=
  let len := report.getD 4 0 &&& dskLengthMask
  if len = 0 then none else some ((report.drop 5).take len.toNat)

/-- The commands of a client, from one on: it echoes the count of each report until the count is
zero. The reports that it gets, and whether it got one with count zero. `seqNos` has its sequence
numbers. -/
def iteration (directory : Directory) (seqNos : ℕ → UInt8) :
    ℕ → ℕ → UInt8 → PvlState → List (List UInt8) × Bool
  | 0, _, _, _ => ([], false)
  | fuel + 1, k, remaining, state =>
    match (pvlCommandHandler directory (iterGetFrame (seqNos k) remaining) state).2 with
    | (_, none) => ([], false)
    | (state, some report) =>
      if reportRemaining report = 0 then ([report], true)
      else
        let (reports, ended) :=
          iteration directory seqNos fuel (k + 1) (reportRemaining report) state
        (report :: reports, ended)

/-- An entry as an iteration shows it. -/
def Provision.shown (provision : Provision) : Provision :=
  if provision.status = pvsStatusPassive then { provision with status := pvsStatusPending }
  else provision

/-- A report shows the entry of a DSK. -/
def Shows (directory : Directory) (slots : Slots) (dsk report : List UInt8) : Prop :=
  ∃ seqNo remaining i, devGet dsk slots = some i ∧
    report = iterReport directory seqNo remaining (some (slots i).shown)

/-- The iteration ends with count zero, and the client got the entry of every DSK of a set once, and
no other one. -/
def IterationComplete (directory : Directory) (seqNos : ℕ → UInt8) (state : PvlState)
    (dsks : Set (List UInt8)) : Prop :=
  ∃ fuel reports, iteration directory seqNos fuel 0 0xFF state = (reports, true) ∧
    (reports.filterMap reportDsk).Nodup ∧
    (∀ dsk, dsk ∈ reports.filterMap reportDsk ↔ dsk ∈ dsks) ∧
    ∀ report ∈ reports, ∀ dsk, reportDsk report = some dsk → Shows directory state.slots dsk report

/-! ### One command -/

section Command

variable {directory : Directory}

/-- A list in an iteration: some of its entries were shown. -/
def ShownFrom (start slots : Slots) : Prop :=
  ∀ j, slots j = start j ∨ slots j = (start j).shown

variable (provision : Provision) {start slots : Slots}

theorem shown_dsk : provision.shown.dsk = provision.dsk := by
  unfold Provision.shown
  split_ifs
  · rfl
  · rfl

theorem shown_dskLen : provision.shown.dskLen = provision.dskLen := by
  unfold Provision.shown
  split_ifs
  · rfl
  · rfl

theorem shown_shown : provision.shown.shown = provision.shown := by
  have hpending : ¬ pvsStatusPending = pvsStatusPassive := by decide
  by_cases hpassive : provision.status = pvsStatusPassive
  · simp only [Provision.shown, if_pos hpassive, if_neg hpending]
  · simp only [Provision.shown, if_neg hpassive]

theorem ShownFrom.shown (hshown : ShownFrom start slots)
    (i : Fin provisioningListSize) : (slots i).shown = (start i).shown := by
  rcases hshown i with heq | heq
  · rw [heq]
  · rw [heq, shown_shown]

theorem ShownFrom.devGet (hshown : ShownFrom start slots) (dsk : List UInt8) :
    devGet dsk slots = devGet dsk start := by
  unfold ProvisioningList.devGet
  split_ifs
  · rfl
  · apply firstSlot_congr
    intro i
    unfold Provision.hasDsk
    rcases hshown i with heq | heq
    · rw [heq]
    · rw [heq, shown_dsk, shown_dskLen]

theorem ShownFrom.modify (hshown : ShownFrom start slots)
    (i : Fin provisioningListSize) : ShownFrom start (slots.modify i Provision.shown) := by
  intro j
  by_cases hj : j = i
  · subst hj
    right
    rw [Slots.modify, update_self]
    exact hshown.shown j
  · rw [Slots.modify, update_of_ne hj]
    exact hshown j

/-- The report for an entry that is found. -/
theorem iterAnswer_some {seqNo : UInt8} {iter : Iter} {slots : Slots} {dsk : List UInt8}
    {i : Fin provisioningListSize} (hnext : iter.next < iter.cnt)
    (hentry : iter.entries[iter.next]? = some dsk) (hfound : devGet dsk slots = some i) :
    iterAnswer directory seqNo iter slots =
      (⟨slots.modify i Provision.shown, some { iter with next := iter.next + 1 }⟩,
        iterReport directory seqNo (UInt8.ofNat (iter.cnt - (iter.next + 1)))
          (some (slots i).shown)) := by
  have hslots : (if (slots i).status = pvsStatusPassive then
      statusSet (some i) pvsStatusPending slots else slots) = slots.modify i Provision.shown := by
    unfold Slots.modify Provision.shown
    split_ifs
    · rfl
    · exact (update_eq_self i slots).symm
  have hself : slots.modify i Provision.shown i = (slots i).shown := update_self _ _ _
  simp only [iterAnswer, iterGetNext, if_neg (not_le.mpr hnext), hentry, Option.bind_some, hfound,
    hslots, hself]

theorem handler_iterGet (seqNo remaining : UInt8) (state : PvlState) :
    (pvlCommandHandler directory (iterGetFrame seqNo remaining) state).2 =
      provisionIterGet directory (iterGetFrame seqNo remaining) state := by
  rfl

/-- A restart takes the iterator of the list. -/
theorem iterGet_restart (seqNo : UInt8) (state : PvlState) :
    provisionIterGet directory (iterGetFrame seqNo 0xFF) state =
      ((iterAnswer directory seqNo (iteratorGet 0 state.slots) state.slots).1,
        some (iterAnswer directory seqNo (iteratorGet 0 state.slots) state.slots).2) := by
  have hbyte : (iterGetFrame seqNo 0xFF).byte 3 = 0xFF := rfl
  have hseqNo : (iterGetFrame seqNo 0xFF).byte 2 = seqNo := rfl
  simp only [provisionIterGet, hbyte, hseqNo, if_true]

/-- Another command goes on with the iterator, if it has the count that remains. -/
theorem iterGet_continue {seqNo remaining : UInt8} {state : PvlState} {iter : Iter}
    (hcontinue : remaining ≠ 0xFF) (hiter : state.currIter = some iter) :
    provisionIterGet directory (iterGetFrame seqNo remaining) state =
      if remaining.toNat ≠ iter.cnt - iter.next then (state, none)
      else ((iterAnswer directory seqNo iter state.slots).1,
        some (iterAnswer directory seqNo iter state.slots).2) := by
  have hbyte : (iterGetFrame seqNo remaining).byte 3 = remaining := rfl
  have hseqNo : (iterGetFrame seqNo remaining).byte 2 = seqNo := rfl
  simp only [provisionIterGet, hbyte, hseqNo, if_neg hcontinue, hiter]

end Command

/-! ### The whole iteration -/

section Iteration

variable {directory : Directory} {seqNos : ℕ → UInt8} {slots : Slots} {map : PvsMap}

@[simp]
theorem reportRemaining_iterReport (seqNo remaining : UInt8) (entry : Option Provision) :
    reportRemaining (iterReport directory seqNo remaining entry) = remaining := by
  cases entry with
  | none => rfl
  | some entry => rfl

theorem reportDsk_iterReport (seqNo remaining : UInt8) {entry : Provision} {dsk : List UInt8}
    (hdsk : entry.dsk = some dsk) (hlen : entry.dskLen.toNat = dsk.length) (hlong : 4 ≤ dsk.length)
    (hfits : dsk.length ≤ provisioningListDskMaxSize) :
    reportDsk (iterReport directory seqNo remaining (some entry)) = some dsk := by
  have hmask : ∀ len : UInt8, len.toNat ≤ 16 → len &&& dskLengthMask = len := by
    have hall : ∀ bits : BitVec 8, (UInt8.ofBitVec bits).toNat ≤ 16 →
        UInt8.ofBitVec bits &&& dskLengthMask = UInt8.ofBitVec bits := by decide +kernel
    intro len
    exact hall len.toBitVec
  have hmasked : entry.dskLen &&& dskLengthMask &&& dskLengthMask = entry.dskLen := by
    have hsmall : entry.dskLen.toNat ≤ 16 := hlen.trans_le hfits
    rw [hmask entry.dskLen hsmall, hmask entry.dskLen hsmall]
  have hzero : ¬ entry.dskLen = 0 := by
    intro heq
    rw [heq, UInt8.toNat_zero] at hlen
    omega
  simp only [reportDsk, iterReport, hdsk, Option.getD_some, cons_append, nil_append,
    getD_cons_succ, getD_cons_zero, hmasked, if_neg hzero, drop_succ_cons,
    drop_zero, hlen, take_left]

/-- The DSKs of an iterator are in the list. -/
theorem Tracks.devGet_iterKeys (htracks : Tracks slots map) :
    ∀ dsk ∈ iterKeys slots, ∃ i, devGet dsk slots = some i := by
  intro dsk hmem
  have hkey := ((htracks.mem_iterKeys dsk).mp hmem).1
  rw [← htracks.map_devGet, Option.ne_none_iff_exists'] at hkey
  obtain ⟨view, hview⟩ := hkey
  obtain ⟨i, hfound, -⟩ := Option.map_eq_some_iff.mp hview
  exact ⟨i, hfound⟩

/-- The state in an iteration over some DSKs before the report with a number. -/
def Walked (start : Slots) (keys : List (List UInt8)) (k : ℕ) (state : PvlState) : Prop :=
  state.currIter = some ⟨keys.length, k, 0, keys⟩ ∧ ShownFrom start state.slots

variable {keys : List (List UInt8)}

/-- The report with a number shows the DSK at its place. -/
theorem iterAnswer_walked (hkeys : ∀ dsk ∈ keys, ∃ i, devGet dsk slots = some i) {later : Slots}
    {k : ℕ} (seqNo : UInt8) (hshown : ShownFrom slots later) (hk : k < keys.length) :
    ∃ state report, iterAnswer directory seqNo ⟨keys.length, k, 0, keys⟩ later = (state, report) ∧
      Walked slots keys (k + 1) state ∧
      reportRemaining report = UInt8.ofNat (keys.length - (k + 1)) ∧
      Shows directory slots keys[k] report := by
  obtain ⟨i, hfound⟩ := hkeys keys[k] (getElem_mem hk)
  have hfound' : devGet keys[k] later = some i := (hshown.devGet _).trans hfound
  have hentry : keys[k]? = some keys[k] := List.getElem?_eq_getElem hk
  have hanswer : iterAnswer directory seqNo ⟨keys.length, k, 0, keys⟩ later =
      (⟨later.modify i Provision.shown, some ⟨keys.length, k + 1, 0, keys⟩⟩,
        iterReport directory seqNo (UInt8.ofNat (keys.length - (k + 1)))
          (some (later i).shown)) := iterAnswer_some hk hentry hfound'
  refine ⟨_, _, hanswer, ⟨rfl, hshown.modify i⟩, reportRemaining_iterReport _ _ _, ?_⟩
  exact ⟨seqNo, _, i, hfound, by rw [hshown.shown]⟩

/-- A report that shows a DSK is followed by those for the DSKs that are left. -/
theorem iteration_report {k n number : ℕ} {remaining : UInt8} {state after : PvlState}
    {report : List UInt8} (hk : k < keys.length) (hleft : keys.length - (k + 1) = n)
    (hsmall : n < 256)
    (hcommand : (pvlCommandHandler directory (iterGetFrame (seqNos number) remaining) state).2 =
      (after, some report))
    (hremaining : reportRemaining report = UInt8.ofNat n)
    (hshows : Shows directory slots keys[k] report)
    (hrest : 0 < n → ∃ reports,
      iteration directory seqNos n (number + 1) (UInt8.ofNat n) after = (reports, true) ∧
        List.Forall₂ (Shows directory slots) (keys.drop (k + 1)) reports) :
    ∃ reports, iteration directory seqNos (n + 1) number remaining state = (reports, true) ∧
      List.Forall₂ (Shows directory slots) (keys.drop k) reports := by
  have hdrop : keys.drop k = keys[k] :: keys.drop (k + 1) := drop_eq_getElem_cons hk
  rw [hdrop, iteration, hcommand]
  dsimp only
  rw [hremaining]
  rcases Nat.eq_zero_or_pos n with hzero | hpos
  · subst hzero
    have hnil : keys.drop (k + 1) = [] := drop_eq_nil_of_le (by omega)
    rw [hnil]
    exact ⟨_, if_pos rfl, List.Forall₂.cons hshows List.Forall₂.nil⟩
  · have hne : ¬ UInt8.ofNat n = 0 := by
      intro heq
      have hnat : (UInt8.ofNat n).toNat = n := by
        rw [UInt8.toNat_ofNat']
        exact Nat.mod_eq_of_lt hsmall
      rw [heq, UInt8.toNat_zero] at hnat
      omega
    obtain ⟨reports, hreports, hall⟩ := hrest hpos
    rw [if_neg hne, hreports]
    exact ⟨_, rfl, List.Forall₂.cons hshows hall⟩

/-- From a report on the client gets the DSKs that are left, in their order. -/
theorem iteration_from (hkeys : ∀ dsk ∈ keys, ∃ i, devGet dsk slots = some i) (n : ℕ) :
    ∀ k number state, k + n = keys.length → 0 < n → n < 255 → Walked slots keys k state →
      ∃ reports, iteration directory seqNos n number (UInt8.ofNat n) state = (reports, true) ∧
        List.Forall₂ (Shows directory slots) (keys.drop k) reports := by
  induction n with
  | zero => exact fun _ _ _ _ hpos ↦ absurd hpos (lt_irrefl 0)
  | succ n ih =>
    intro k number state hlength _ hsmall hwalked
    have hk : k < keys.length := by omega
    have hleft : keys.length - (k + 1) = n := by omega
    have hcount : (UInt8.ofNat (n + 1)).toNat = keys.length - k := by
      rw [UInt8.toNat_ofNat', Nat.mod_eq_of_lt (by omega)]
      omega
    have hcontinue : UInt8.ofNat (n + 1) ≠ 0xFF := by
      intro heq
      rw [heq] at hcount
      have hff : (0xFF : UInt8).toNat = 255 := rfl
      omega
    obtain ⟨after, report, hanswer, hafter, hremaining, hshows⟩ :=
      iterAnswer_walked hkeys (seqNos number) hwalked.2 hk
    rw [hleft] at hremaining
    have hcommand : (pvlCommandHandler directory
        (iterGetFrame (seqNos number) (UInt8.ofNat (n + 1))) state).2 = (after, some report) := by
      rw [handler_iterGet, iterGet_continue hcontinue hwalked.1,
        if_neg (not_not.mpr hcount), hanswer]
    refine iteration_report hk hleft (by omega) hcommand hremaining hshows ?_
    intro hpos
    exact ih (k + 1) (number + 1) after (by omega) hpos (by omega) hafter

/-- The whole iteration, when the count of the entries is small enough. -/
theorem iteration_restart (htracks : Tracks slots map) {state : PvlState}
    (hslots : state.slots = slots)
    (hsmall : (iterKeys slots).length ≤ 255) (hpos : iterKeys slots ≠ []) :
    ∃ reports, iteration directory seqNos (iterKeys slots).length 0 0xFF state = (reports, true) ∧
      List.Forall₂ (Shows directory slots) (iterKeys slots) reports := by
  have hiterator := htracks.iteratorGet_eq 0
  have hkeys := htracks.devGet_iterKeys
  generalize iterKeys slots = keys at *
  obtain ⟨n, hn⟩ : ∃ n, keys.length = n + 1 :=
    Nat.exists_eq_succ_of_ne_zero fun h ↦ hpos (eq_nil_of_length_eq_zero h)
  have hk : 0 < keys.length := by omega
  have hshown : ShownFrom slots state.slots := fun j ↦ Or.inl (congrFun hslots j)
  obtain ⟨after, report, hanswer, hafter, hremaining, hshows⟩ :=
    iterAnswer_walked hkeys (seqNos 0) hshown hk
  have hleft : keys.length - (0 + 1) = n := by omega
  rw [hleft] at hremaining
  rw [hn]
  have hcommand : (pvlCommandHandler directory (iterGetFrame (seqNos 0) 0xFF) state).2 =
      (after, some report) := by
    rw [handler_iterGet, iterGet_restart, hslots, hiterator, ← hslots, hanswer]
  refine iteration_report hk hleft (by omega) hcommand hremaining hshows ?_
  intro hpos
  exact iteration_from hkeys n (0 + 1) (0 + 1) after (by omega) hpos (by omega) hafter

/-- The iteration over a list without entries. -/
theorem iteration_nil (htracks : Tracks slots map) {state : PvlState} (hslots : state.slots = slots)
    (hnil : iterKeys slots = []) :
    ∃ report, iteration directory seqNos 1 0 0xFF state = ([report], true) ∧
      reportDsk report = none := by
  have hiterator := htracks.iteratorGet_eq 0
  rw [hnil] at hiterator
  have hcommand : (pvlCommandHandler directory (iterGetFrame (seqNos 0) 0xFF) state).2 =
      (⟨state.slots, some ⟨0, 0, 0, []⟩⟩, some (iterReport directory (seqNos 0) 0 none)) := by
    rw [handler_iterGet, iterGet_restart, hslots, hiterator]
    rfl
  refine ⟨iterReport directory (seqNos 0) 0 none, ?_, ?_⟩
  · rw [iteration, hcommand]
    exact if_pos rfl
  · have hzero : (0 : UInt8) &&& dskLengthMask = 0 := by decide
    exact if_pos hzero

/-- Two complete iterations of one client are the same, whatever number of commands is allowed. -/
theorem iteration_unique {fuel fuel' number : ℕ} {remaining : UInt8} {state : PvlState}
    {reports reports' : List (List UInt8)}
    (hreports : iteration directory seqNos fuel number remaining state = (reports, true))
    (hreports' : iteration directory seqNos fuel' number remaining state = (reports', true)) :
    reports = reports' := by
  induction fuel generalizing fuel' number remaining state reports reports' with
  | zero => exact absurd (congrArg Prod.snd hreports) (by simp [iteration])
  | succ fuel ih =>
    cases fuel' with
    | zero => exact absurd (congrArg Prod.snd hreports') (by simp [iteration])
    | succ fuel' =>
      rw [iteration] at hreports hreports'
      rcases hcommand :
        (pvlCommandHandler directory (iterGetFrame (seqNos number) remaining) state).2
        with ⟨after, answer⟩
      rw [hcommand] at hreports hreports'
      cases answer with
      | none => exact absurd (congrArg Prod.snd hreports) (by simp)
      | some report =>
        dsimp only at hreports hreports'
        split_ifs at hreports hreports' with hzero
        · exact (congrArg Prod.fst hreports).symm.trans (congrArg Prod.fst hreports')
        · rcases hrest : iteration directory seqNos fuel (number + 1) (reportRemaining report) after
            with ⟨rest, ended⟩
          rcases hrest' : iteration directory seqNos fuel' (number + 1)
            (reportRemaining report) after with ⟨rest', ended'⟩
          rw [hrest] at hreports
          rw [hrest'] at hreports'
          obtain ⟨rfl, rfl⟩ := Prod.mk.inj hreports
          obtain ⟨rfl, rfl⟩ := Prod.mk.inj hreports'
          rw [ih hrest hrest']

/-- The DSKs of the reports are those that they show. -/
theorem filterMap_reportDsk (htracks : Tracks slots map) {reports : List (List UInt8)}
    {dsks : List (List UInt8)} (hsub : ∀ dsk ∈ dsks, dsk ∈ iterKeys slots)
    (hshows : List.Forall₂ (Shows directory slots) dsks reports) :
    reports.filterMap reportDsk = dsks ∧
      ∀ report ∈ reports, ∀ dsk, reportDsk report = some dsk →
        Shows directory slots dsk report := by
  induction hshows with
  | nil => exact ⟨rfl, fun _ hmem ↦ absurd hmem not_mem_nil⟩
  | @cons dsk report dsks reports hshow hrest ih =>
    obtain ⟨hdsks, hall⟩ := ih fun other hmem ↦ hsub other (mem_cons_of_mem _ hmem)
    have hkey := (htracks.mem_iterKeys dsk).mp (hsub dsk mem_cons_self)
    have hreport : reportDsk report = some dsk := by
      obtain ⟨seqNo, remaining, i, hfound, rfl⟩ := hshow
      have hcontent := (htracks.devGet_some hfound).1
      have hlong := htracks.key_length (htracks.devGet_some hfound).2
      apply reportDsk_iterReport
      · rw [shown_dsk]
        exact (Provision.content_eq_some_iff.mp hcontent).2.1
      · rw [shown_dskLen]
        exact htracks.length_content hcontent
      · exact not_lt.mp hlong
      · exact hkey.2
    refine ⟨?_, ?_⟩
    · rw [filterMap_cons_some hreport, hdsks]
    · intro other hmem dsk' hdsk'
      rcases mem_cons.mp hmem with rfl | hmem
      · rw [hreport] at hdsk'
        rw [← Option.some.inj hdsk']
        exact hshow
      · exact hall other hmem dsk' hdsk'

/-- The reports of the whole iteration, when the count of the entries is small enough. -/
theorem exists_iteration (htracks : Tracks slots map) {state : PvlState}
    (hslots : state.slots = slots) (hsmall : (iterKeys slots).length ≤ 255) :
    ∃ fuel reports, iteration directory seqNos fuel 0 0xFF state = (reports, true) ∧
      reports.filterMap reportDsk = iterKeys slots ∧
      ∀ report ∈ reports, ∀ dsk, reportDsk report = some dsk →
        Shows directory slots dsk report := by
  by_cases hnil : iterKeys slots = []
  · obtain ⟨report, hreport, hnone⟩ := @iteration_nil directory seqNos _ _ htracks _ hslots hnil
    refine ⟨1, [report], hreport, ?_, ?_⟩
    · rw [hnil, filterMap_cons_none hnone, filterMap_nil]
    · intro other hmem dsk hdsk
      rw [mem_singleton.mp hmem, hnone] at hdsk
      exact absurd hdsk (by simp)
  · obtain ⟨reports, hreports, hshows⟩ := iteration_restart htracks hslots hsmall hnil
    obtain ⟨hdsks, hall⟩ := filterMap_reportDsk htracks (fun _ hmem ↦ hmem) hshows
    exact ⟨_, reports, hreports, hdsks, hall⟩

/-- The iterator lists at most as many DSKs as the list has slots. -/
theorem length_iterKeys_le (slots : Slots) : (iterKeys slots).length ≤ provisioningListSize := by
  rw [iterKeys, length_map]
  refine (length_filter_le _ _).trans ((length_filterMap_le _ _).trans ?_)
  rw [length_finRange]

/-- The client gets the entries that the iterator lists, and the iteration is complete for no other
set of DSKs. -/
theorem Tracks.iterationComplete_iff (htracks : Tracks slots map) (currIter : Option Iter)
    (dsks : Set (List UInt8)) :
    IterationComplete directory seqNos ⟨slots, currIter⟩ dsks ↔
      dsks = { dsk | map dsk ≠ none ∧ dsk.length ≤ provisioningListDskMaxSize } := by
  have hsmall : (iterKeys slots).length ≤ 255 := (length_iterKeys_le slots).trans (by decide)
  obtain ⟨fuel, reports, hreports, hdsks, hall⟩ :=
    @exists_iteration directory seqNos _ _ htracks ⟨slots, currIter⟩ rfl hsmall
  constructor
  · rintro ⟨fuel', reports', hreports', -, hmem, -⟩
    obtain rfl := iteration_unique hreports hreports'
    ext dsk
    rw [← hmem dsk, hdsks]
    exact htracks.mem_iterKeys dsk
  · rintro rfl
    refine ⟨fuel, reports, hreports, ?_, ?_, hall⟩
    · rw [hdsks]
      exact htracks.nodup_iterKeys
    · intro dsk
      rw [hdsks]
      exact htracks.mem_iterKeys dsk

end Iteration

/-- A client that iterates over a list that was reached by calls gets the entry of every DSK of at
most 16 bytes exactly once, and the iteration ends with count zero. -/
theorem iteration_complete (platform : Platform) (file : List UInt8)
    (inputs : List (Call × Persisted platform)) (directory : Directory) (seqNos : ℕ → UInt8)
    (currIter : Option Iter) :
    IterationComplete directory seqNos ⟨(run jointStep (emptyJoint file) inputs).1.slots, currIter⟩
      { dsk | (run jointStep (emptyJoint file) inputs).2 dsk ≠ none ∧
        dsk.length ≤ provisioningListDskMaxSize } :=
  ((tracks_run file inputs).iterationComplete_iff currIter _).mpr rfl

/-- A DSK of 17 bytes is in the list, and the client does not get its entry. -/
theorem long_dsk_not_iterated :
    ¬ ∀ (platform : Platform) (file : List UInt8) (inputs : List (Call × Persisted platform))
      (directory : Directory) (seqNos : ℕ → UInt8) (currIter : Option Iter),
      IterationComplete directory seqNos
        ⟨(run jointStep (emptyJoint file) inputs).1.slots, currIter⟩
        (run jointStep (emptyJoint file) inputs).2.keys := by
  intro hclaim
  have hcomplete := hclaim .bits32 []
    [(.devAdd true ⟨List.replicate 17 0, by decide⟩ 0, .failed [])] (fun _ ↦ none) (fun _ ↦ 0) none
  rw [(tracks_run _ _).iterationComplete_iff] at hcomplete
  have hkey : List.replicate 17 0 ∈ (run jointStep (emptyJoint [])
      [((.devAdd true ⟨List.replicate 17 0, by decide⟩ 0 : Call),
        (.failed [] : Persisted .bits32))]).2.keys := by
    simp [PartialMap.keys, jointStep, emptyJoint, Call.onMap, mapStep, mapAdd]
  rw [hcomplete] at hkey
  exact absurd hkey.2 (by decide)

end ZipGateway.ProvisioningList
