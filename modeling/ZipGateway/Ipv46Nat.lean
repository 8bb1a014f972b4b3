import Mathlib.Tactic
import ZipGateway.Lib.Run

/-!
# The table of IPv4 addresses

The model of `src/src/ipv46_nat.c`: the table of the nodes with the last bits of their IPv4
addresses, and the two lookups in it. The address of the gateway and the netmask stay as they are. A
node is renamed together with `MyNodeID` when it is the gateway, as the callers do it.
`natTable_iff` is about all runs in which ids and addresses are given out as they should be.
-/

set_option autoImplicit false

namespace ZipGateway.Ipv46Nat

open List ZipGateway.Lib

/-! ### The table -/

/-- `uip_ipv4addr_t`, as two words. -/
abbrev Ipv4 := UInt16 × UInt16

/-- `uip_hostaddr` and `uip_netmask`. -/
structure Net where
  hostaddr : Ipv4
  netmask : Ipv4

/-- `nat_table_entry_t`. -/
structure Entry where
  nodeid : UInt16
  ipSuffix : UInt16
deriving DecidableEq

/-- `nat_table`, and what its first place holds when it is empty; and `MyNodeID`. -/
structure State where
  entries : List Entry
  stale : Entry
  myNodeId : UInt16

def maxNatEntries : ℕ := 1000

def start (myNodeId : UInt16) : State := ⟨[], ⟨0, 0⟩, myNodeId⟩

/-- `uip_ipaddr_maskcmp` with the address of the gateway. -/
def maskcmp (net : Net) (ip : Ipv4) : Bool :=
  ip.1 &&& net.netmask.1 == net.hostaddr.1 &&& net.netmask.1 &&
    ip.2 &&& net.netmask.2 == net.hostaddr.2 &&& net.netmask.2

/-- `ipv46nat_get_nat_addr`. -/
def getNatAddr (net : Net) (s : State) (ip : Ipv4) : UInt16 :=
  if maskcmp net ip then
    ((s.entries.find? (·.ipSuffix == ip.2 &&& ~~~net.netmask.2)).map Entry.nodeid).getD 0 else 0

/-- `ipv46nat_ipv4addr_of_entry`. -/
def ipv4addrOfEntry (net : Net) (e : Entry) : Ipv4 :=
  (net.hostaddr.1, net.hostaddr.2 &&& net.netmask.2 ||| e.ipSuffix)

/-- `ipv46nat_ipv4addr_of_node`. -/
def ipv4addrOfNode (net : Net) (s : State) (node : UInt16) : Option Ipv4 :=
  (s.entries.find? fun e ↦ e.nodeid == node && e.ipSuffix != 0).map (ipv4addrOfEntry net)

/-- There is an entry of a node. -/
def Has (s : State) (node : UInt16) : Prop := ∃ e ∈ s.entries, e.nodeid = node

instance (s : State) (node : UInt16) : Decidable (Has s node) :=
  inferInstanceAs (Decidable (∃ e ∈ s.entries, _))

/-- The last bits of the address of the gateway. -/
def hostSuffix (net : Net) : UInt16 := net.hostaddr.2 &&& ~~~net.netmask.2

/-- `ipv46nat_add_entry`: the table after it. -/
def addEntry (net : Net) (node : UInt16) (s : State) : State :=
  if maxNatEntries ≤ s.entries.length then s
  else if Has s node then s
  else { s with entries := s.entries ++ [⟨node, if node = s.myNodeId then hostSuffix net else 0⟩] }

/-- What `dhcp_check_for_new_sessions` sees of the client: whether it runs and is idle, and
`last_renew`. -/
structure Dhcp where
  running : Bool
  idle : Bool
  lastRenew : ℕ

/-- `dhcp_check_for_new_sessions` returns. The index of its loops is a byte: in a table of 256
entries or more they only end when they find an entry without an address. -/
def dhcpReturns (net : Net) (d : Dhcp) (s : State) : Bool :=
  let first := s.entries.take 256
  !d.running || !d.idle || (s.entries[d.lastRenew]?).any (·.ipSuffix != 0) ||
    (if net.hostaddr = (0, 0) then first.any fun e ↦ e.nodeid == s.myNodeId && e.ipSuffix == 0
      else first.any (·.ipSuffix == 0)) || decide (s.entries.length < 256)

/-- `ipv46nat_add_entry`: the number that is returned, if it returns. -/
def addResult (net : Net) (d : Dhcp) (node : UInt16) (s : State) : Option UInt8 :=
  if maxNatEntries ≤ s.entries.length then some 0
  else if Has s node then some (UInt8.ofNat s.entries.length)
  else if dhcpReturns net d (addEntry net node s) then some (UInt8.ofNat (s.entries.length + 1))
  else none

/-- `ipv46nat_del_entry`. -/
def delEntry (node : UInt16) (s : State) : State :=
  if node = s.myNodeId then s
  else { s with entries := s.entries.eraseP (·.nodeid == node), stale := s.entries.headD s.stale }

/-- `ipv46nat_del_all_nodes`. -/
def delAllNodes (s : State) : State :=
  { s with entries :=
    [(s.entries.reverse.find? (·.nodeid == s.myNodeId)).getD (s.entries.headD s.stale)] }

/-- `ipv46nat_rename_node`. -/
def renameNode (oldId newId : UInt16) (s : State) : State :=
  { s with
    entries := s.entries.map fun e ↦ if e.nodeid = oldId then { e with nodeid := newId } else e
    myNodeId := if oldId = s.myNodeId then newId else s.myNodeId }

/-- A node gets an address. -/
def assign (node ipSuffix : UInt16) (s : State) : State :=
  { s with entries := s.entries.map fun e ↦ if e.nodeid = node then { e with ipSuffix } else e }

inductive Event
  | add (node : UInt16)
  | delete (node : UInt16)
  | deleteAll
  | rename (oldId newId : UInt16)
  | assign (node ipSuffix : UInt16)

def step (net : Net) (s : State) : Event → State
  | .add node => addEntry net node s
  | .delete node => delEntry node s
  | .deleteAll => delAllNodes s
  | .rename oldId newId => renameNode oldId newId s
  | .assign node ipSuffix => assign node ipSuffix s

/-! ### What it is for -/

/-- No other node has the last bits of an address. -/
def Free (s : State) (node ipSuffix : UInt16) : Prop :=
  ∀ e ∈ s.entries, e.nodeid ≠ node → e.ipSuffix ≠ ipSuffix

/-- A node is renamed to an id that is not used, and gets an address within the netmask that no
other node has, as does the gateway when it is added. -/
def Legal (net : Net) (s : State) : Event → Prop
  | .add node => node = s.myNodeId → hostSuffix net ≠ 0 → Free s node (hostSuffix net)
  | .rename _ newId => ¬ Has s newId
  | .assign node ipSuffix => ipSuffix ≠ 0 ∧ ipSuffix &&& net.netmask.2 = 0 ∧ Free s node ipSuffix
  | _ => True

/-- A run of such events. -/
structure LegalRun (net : Net) where
  myNodeId : UInt16
  events : List Event
  legal : AllSteps (step net) (Legal net) (start myNodeId) events

/-- The table after some events. -/
def after (net : Net) (myNodeId : UInt16) (events : List Event) : State :=
  run (step net) (start myNodeId) events

/-- An address belongs to a node just when the node has that address, and only a node with an
address is found. -/
def Lookups (net : Net) (s : State) : Prop :=
  (∀ ip node, node ≠ 0 → (getNatAddr net s ip = node ↔ ipv4addrOfNode net s node = some ip)) ∧
    ∀ ip node, node ≠ 0 → getNatAddr net s ip = node → ∃ e ∈ s.entries, e.nodeid = node ∧
      e.ipSuffix ≠ 0

/-- No node is without an address, and the first word belongs to the net, unless no node has an
address. -/
def Assigned (net : Net) (s : State) : Prop :=
  (∀ e, s.entries.find? (·.ipSuffix == 0) = some e → e.nodeid = 0) ∧
    (net.netmask.1 = 0xFFFF ∨ ∀ e ∈ s.entries, e.nodeid ≠ 0 → e.ipSuffix = 0)

/-- A node is added: the function returns, and it returns 0 just when there is no entry of the node
then. -/
def AddRight (net : Net) (d : Dhcp) (node : UInt16) (s : State) : Prop :=
  ∃ r, addResult net d node s = some r ∧ (r = 0 ↔ ¬ Has (addEntry net node s) node)

/-- A full table has no entry of the node; in another one the number of entries is no multiple of
256 then, and when the node is new, the check for new sessions returns. -/
def AddFits (net : Net) (d : Dhcp) (node : UInt16) (s : State) : Prop :=
  if maxNatEntries ≤ s.entries.length then ¬ Has s node
  else if Has s node then s.entries.length % 256 ≠ 0
  else (s.entries.length + 1) % 256 ≠ 0 ∧ dhcpReturns net d (addEntry net node s) = true

/-! ### Masks -/

section Masks

variable (a b m s : UInt16)

theorem and_not_and : a &&& ~~~m &&& m = 0 := by
  rw [UInt16.and_assoc, UInt16.and_comm (~~~m), UInt16.and_not_self, UInt16.and_zero]

/-- Two words are equal when their bits are. -/
theorem eq_of_bits {a b : UInt16} (h : ∀ i (hi : i < 16), a.toBitVec[i] = b.toBitVec[i]) : a = b :=
  UInt16.toBitVec_inj.mp (BitVec.eq_of_getElem_eq h)

theorem bits_of_and {s m : UInt16} (hs : s &&& m = 0) (i : ℕ) (hi : i < 16) :
    (s.toBitVec[i] && m.toBitVec[i]) = false := by
  have h := congrArg (fun x : UInt16 ↦ x.toBitVec[i]) hs
  simpa using h

theorem or_and_not {s m : UInt16} (hs : s &&& m = 0) :
    (a &&& m ||| s) &&& ~~~m = s ∧ (a &&& m ||| s) &&& m = a &&& m := by
  refine ⟨eq_of_bits fun i hi ↦ ?_, eq_of_bits fun i hi ↦ ?_⟩
  all_goals
    have h := bits_of_and hs i hi
    simp only [UInt16.toBitVec_and, UInt16.toBitVec_or, UInt16.toBitVec_not, BitVec.getElem_and,
      BitVec.getElem_or, BitVec.getElem_not]
    revert h
    cases a.toBitVec[i] <;> cases m.toBitVec[i] <;> cases s.toBitVec[i] <;> decide

/-- An address is put together again from its two parts. -/
theorem eq_of_parts {a b m s : UInt16} (hnet : a &&& m = b &&& m) (hsuffix : s = a &&& ~~~m) :
    a = b &&& m ||| s := by
  rw [hsuffix, ← hnet]
  refine eq_of_bits fun i hi ↦ ?_
  simp only [UInt16.toBitVec_and, UInt16.toBitVec_or, UInt16.toBitVec_not, BitVec.getElem_and,
    BitVec.getElem_or, BitVec.getElem_not]
  cases a.toBitVec[i] <;> cases m.toBitVec[i] <;> decide

/-- Under a mask that is not full there is another word with the same part. -/
theorem exists_other {m : UInt16} (hm : m ≠ 0xFFFF) :
    ∃ other, other ≠ a ∧ other &&& m = a &&& m := by
  refine ⟨a ^^^ ~~~m, fun h ↦ hm ?_, eq_of_bits fun i hi ↦ ?_⟩
  · refine eq_of_bits fun i hi ↦ ?_
    have hbit := congrArg (fun x : UInt16 ↦ x.toBitVec[i]) h
    simp only [UInt16.toBitVec_xor, UInt16.toBitVec_not, BitVec.getElem_xor,
      BitVec.getElem_not] at hbit
    have hones : (0xFFFF : UInt16).toBitVec[i] = true := BitVec.getElem_allOnes i hi
    rw [hones]
    revert hbit
    cases a.toBitVec[i] <;> cases m.toBitVec[i] <;> decide
  · simp only [UInt16.toBitVec_and, UInt16.toBitVec_xor, UInt16.toBitVec_not, BitVec.getElem_and,
      BitVec.getElem_xor, BitVec.getElem_not]
    cases a.toBitVec[i] <;> cases m.toBitVec[i] <;> decide

end Masks

/-! ### The two lookups -/

section Lookups

variable {net : Net} {s : State}

/-- The ids are distinct, no two nodes have the same address, and all addresses are within the
netmask. -/
structure Kept (net : Net) (s : State) : Prop where
  ids : (s.entries.map Entry.nodeid).Nodup
  suffixes : ∀ e ∈ s.entries, ∀ f ∈ s.entries, e.ipSuffix = f.ipSuffix → e.ipSuffix ≠ 0 → e = f
  within : ∀ e ∈ s.entries, e.ipSuffix &&& net.netmask.2 = 0
  stale : s.stale.ipSuffix &&& net.netmask.2 = 0

theorem Kept.eq_of_nodeid (h : Kept net s) {e f : Entry} (he : e ∈ s.entries) (hf : f ∈ s.entries)
    (hid : e.nodeid = f.nodeid) : e = f := inj_on_of_nodup_map h.ids he hf hid

/-- A search finds what is there once. -/
theorem find?_eq_of_unique {p : Entry → Bool} {e : Entry} (he : e ∈ s.entries) (hp : p e = true)
    (hunique : ∀ f ∈ s.entries, p f = true → f = e) : s.entries.find? p = some e := by
  cases hfind : s.entries.find? p with
  | none =>
    have hnot := List.find?_eq_none.mp hfind e he
    exact absurd hp (Bool.eq_false_iff.mp (Bool.eq_false_iff.mpr hnot))
  | some f => rw [hunique f (mem_of_find?_eq_some hfind) (List.find?_some hfind)]

theorem maskcmp_iff (ip : Ipv4) : maskcmp net ip = true ↔
    ip.1 &&& net.netmask.1 = net.hostaddr.1 &&& net.netmask.1 ∧
      ip.2 &&& net.netmask.2 = net.hostaddr.2 &&& net.netmask.2 := by
  unfold maskcmp
  rw [Bool.and_eq_true, beq_iff_eq, beq_iff_eq]

/-- An address of the net with the last bits of a node that has an address belongs to that node. -/
theorem getNatAddr_of_assigned (h : Kept net s) {e : Entry} (he : e ∈ s.entries)
    (hassigned : e.ipSuffix ≠ 0)
    {first : UInt16} (hfirst : first &&& net.netmask.1 = net.hostaddr.1 &&& net.netmask.1) :
    getNatAddr net s (first, (ipv4addrOfEntry net e).2) = e.nodeid := by
  obtain ⟨hsuffix, hnet⟩ := or_and_not net.hostaddr.2 (h.within e he)
  have hmask : maskcmp net (first, (ipv4addrOfEntry net e).2) = true :=
    (maskcmp_iff _).mpr ⟨hfirst, hnet⟩
  have hfind :
      s.entries.find? (·.ipSuffix == (ipv4addrOfEntry net e).2 &&& ~~~net.netmask.2) = some e := by
    refine find?_eq_of_unique he (beq_iff_eq.mpr hsuffix.symm) fun f hf heq ↦ ?_
    exact (h.suffixes e he f hf ((beq_iff_eq.mp heq).trans hsuffix).symm hassigned).symm
  unfold getNatAddr
  rw [if_pos hmask, hfind]
  rfl

theorem ipv4addrOfNode_eq_some (h : Kept net s) {node : UInt16} {ip : Ipv4} :
    ipv4addrOfNode net s node = some ip ↔
    ∃ e ∈ s.entries, e.nodeid = node ∧ e.ipSuffix ≠ 0 ∧ ipv4addrOfEntry net e = ip := by
  unfold ipv4addrOfNode
  rw [Option.map_eq_some_iff]
  constructor
  · rintro ⟨e, hfind, hip⟩
    have hfound := List.find?_some hfind
    rw [Bool.and_eq_true, beq_iff_eq, bne_iff_ne] at hfound
    exact ⟨e, mem_of_find?_eq_some hfind, hfound.1, hfound.2, hip⟩
  · rintro ⟨e, he, rfl, hassigned, hip⟩
    refine ⟨e, find?_eq_of_unique he ?_ fun f hf hfound ↦ ?_, hip⟩
    · rw [Bool.and_eq_true, beq_iff_eq, bne_iff_ne]
      exact ⟨rfl, hassigned⟩
    · rw [Bool.and_eq_true, beq_iff_eq] at hfound
      exact h.eq_of_nodeid hf he hfound.1

/-- The node to which an address belongs has the last bits of it. -/
theorem of_getNatAddr {ip : Ipv4} {node : UInt16} (hnode : node ≠ 0)
    (hget : getNatAddr net s ip = node) : maskcmp net ip = true ∧ ∃ e, s.entries.find?
      (·.ipSuffix == ip.2 &&& ~~~net.netmask.2) = some e ∧ e.nodeid = node := by
  unfold getNatAddr at hget
  split_ifs at hget with hmask
  · refine ⟨hmask, ?_⟩
    cases hfind : s.entries.find? (·.ipSuffix == ip.2 &&& ~~~net.netmask.2) with
    | none =>
      rw [hfind] at hget
      exact absurd hget.symm hnode
    | some e =>
      rw [hfind] at hget
      exact ⟨e, rfl, hget⟩
  · exact absurd hget.symm hnode

/-- The lookups fit together just when all nodes have addresses, and those end with the second word
of the net. -/
theorem lookups_iff (h : Kept net s) : Lookups net s ↔ Assigned net s := by
  constructor
  · rintro ⟨hlookups, hfound⟩
    refine ⟨fun e hfind ↦ ?_, ?_⟩
    · -- the address of the net itself belongs to the first node without an address
      by_contra hnode
      have hhost := (and_not_and net.hostaddr.2 (~~~net.netmask.2))
      rw [UInt16.not_not] at hhost
      have hmask : maskcmp net (net.hostaddr.1, net.hostaddr.2 &&& net.netmask.2) = true :=
        (maskcmp_iff _).mpr ⟨rfl, by rw [UInt16.and_assoc, UInt16.and_self]⟩
      have hget : getNatAddr net s (net.hostaddr.1, net.hostaddr.2 &&& net.netmask.2) =
          e.nodeid := by
        unfold getNatAddr
        rw [if_pos hmask]
        dsimp only
        rw [hhost, hfind]
        rfl
      obtain ⟨f, hf, hid, hassigned⟩ := hfound _ _ hnode hget
      rw [h.eq_of_nodeid hf (mem_of_find?_eq_some hfind) hid] at hassigned
      have hzero := List.find?_some hfind
      exact hassigned (beq_iff_eq.mp hzero)
    · by_contra hnot
      obtain ⟨hmask, hsome⟩ := not_or.mp hnot
      push Not at hsome
      obtain ⟨e, he, hnode, hassigned⟩ := hsome
      obtain ⟨other, hother, hsame⟩ := exists_other net.hostaddr.1 hmask
      have hget := getNatAddr_of_assigned h he hassigned hsame
      obtain ⟨f, -, -, -, hip⟩ := (ipv4addrOfNode_eq_some h).mp ((hlookups _ _ hnode).mp hget)
      exact hother (congrArg Prod.fst hip).symm
  · rintro ⟨hassigned, hfirst⟩
    have hall : ∀ ip node, node ≠ 0 → getNatAddr net s ip = node →
        ∃ e ∈ s.entries, e.nodeid = node ∧ e.ipSuffix ≠ 0 ∧ ipv4addrOfEntry net e = ip := by
      intro ip node hnode hget
      obtain ⟨hmask, e, hfind, rfl⟩ := of_getNatAddr hnode hget
      have he := mem_of_find?_eq_some hfind
      have hkey := List.find?_some hfind
      have hsuffix : e.ipSuffix = ip.2 &&& ~~~net.netmask.2 := beq_iff_eq.mp hkey
      have hnonzero : e.ipSuffix ≠ 0 := by
        intro hzero
        rw [← hsuffix, hzero] at hfind
        exact hnode (hassigned e hfind)
      have hword : net.netmask.1 = 0xFFFF :=
        hfirst.resolve_right fun hnone ↦ hnonzero (hnone e he hnode)
      obtain ⟨hone, htwo⟩ := (maskcmp_iff ip).mp hmask
      rw [hword, show (0xFFFF : UInt16) = -1 from rfl, UInt16.and_neg_one,
        UInt16.and_neg_one] at hone
      exact ⟨e, he, rfl, hnonzero, Prod.ext hone.symm (eq_of_parts htwo hsuffix).symm⟩
    refine ⟨fun ip node hnode ↦
      ⟨fun hget ↦ (ipv4addrOfNode_eq_some h).mpr (hall ip node hnode hget), fun hip ↦ ?_⟩,
      fun ip node hnode hget ↦ ?_⟩
    · obtain ⟨e, he, rfl, hnonzero, rfl⟩ := (ipv4addrOfNode_eq_some h).mp hip
      exact getNatAddr_of_assigned h he hnonzero rfl
    · obtain ⟨e, he, hid, hnonzero, -⟩ := hall ip node hnode hget
      exact ⟨e, he, hid, hnonzero⟩

end Lookups

/-! ### Steps -/

section Steps

variable {net : Net} {s : State}

theorem has_iff {node : UInt16} : Has s node ↔ node ∈ s.entries.map Entry.nodeid := mem_map.symm

/-- A new entry has no address, or one within the netmask that is free. -/
theorem kept_append {node suffix : UInt16} (h : Kept net s) (hnew : ¬ Has s node)
    (hwithin : suffix &&& net.netmask.2 = 0) (hfree : suffix ≠ 0 → Free s node suffix) :
    Kept net { s with entries := s.entries ++ [⟨node, suffix⟩] } := by
  have hother : ∀ e ∈ s.entries, e.ipSuffix = suffix → suffix ≠ 0 → False := fun e he heq hnonzero ↦
    hfree hnonzero e he (fun hid ↦ hnew ⟨e, he, hid⟩) heq
  refine ⟨?_, fun e he f hf heq hnonzero ↦ ?_, fun e he ↦ ?_, h.stale⟩
  · rw [map_append, map_singleton, nodup_append]
    refine ⟨h.ids, nodup_singleton _, fun a ha b hb heq ↦ hnew (has_iff.mpr ?_)⟩
    have hb' : b = node := mem_singleton.mp hb
    rwa [← hb', ← heq]
  · rcases mem_append.mp he with hein | henew <;> rcases mem_append.mp hf with hfin | hfnew
    · exact h.suffixes e hein f hfin heq hnonzero
    · obtain rfl := mem_singleton.mp hfnew
      exact (hother e hein heq fun hzero ↦ hnonzero (heq.trans hzero)).elim
    · obtain rfl := mem_singleton.mp henew
      exact (hother f hfin heq.symm hnonzero).elim
    · rw [mem_singleton.mp henew, mem_singleton.mp hfnew]
  · rcases mem_append.mp he with hein | henew
    · exact h.within e hein
    · rw [mem_singleton.mp henew]
      exact hwithin

theorem kept_addEntry {node : UInt16} (h : Kept net s)
    (hfree : node = s.myNodeId → hostSuffix net ≠ 0 → Free s node (hostSuffix net)) :
    Kept net (addEntry net node s) := by
  unfold addEntry
  by_cases hfull : maxNatEntries ≤ s.entries.length
  · rwa [if_pos hfull]
  · by_cases hhas : Has s node
    · rwa [if_neg hfull, if_pos hhas]
    · rw [if_neg hfull, if_neg hhas]
      by_cases hmy : node = s.myNodeId
      · rw [if_pos hmy]
        exact kept_append h hhas (and_not_and _ _) (hfree hmy)
      · rw [if_neg hmy]
        exact kept_append h hhas UInt16.zero_and fun hzero ↦ absurd rfl hzero

/-- The first place of the table. -/
theorem within_headD
    (h : Kept net s) : (s.entries.headD s.stale).ipSuffix &&& net.netmask.2 = 0 := by
  cases hentries : s.entries with
  | nil => exact h.stale
  | cons e rest => exact h.within e (hentries ▸ mem_cons_self)

theorem kept_delEntry (node : UInt16) (h : Kept net s) : Kept net (delEntry node s) := by
  unfold delEntry
  split_ifs
  · exact h
  · have hsub : List.Sublist (s.entries.eraseP (·.nodeid == node)) s.entries := eraseP_sublist
    exact ⟨h.ids.sublist (hsub.map _),
      fun e he f hf ↦ h.suffixes e (hsub.subset he) f (hsub.subset hf),
      fun e he ↦ h.within e (hsub.subset he), within_headD h⟩

theorem kept_delAllNodes (h : Kept net s) : Kept net (delAllNodes s) := by
  refine ⟨nodup_singleton _, fun e he f hf _ _ ↦ ?_, fun e he ↦ ?_, h.stale⟩
  · rw [mem_singleton.mp he, mem_singleton.mp hf]
  · rw [mem_singleton.mp he]
    cases hfind : s.entries.reverse.find? (·.nodeid == s.myNodeId) with
    | none => exact within_headD h
    | some f => exact h.within f (mem_reverse.mp (mem_of_find?_eq_some hfind))

theorem kept_renameNode (oldId : UInt16) {newId : UInt16} (h : Kept net s)
    (hunused : ¬ Has s newId) : Kept net (renameNode oldId newId s) := by
  refine ⟨?_, fun e he f hf heq hnonzero ↦ ?_, fun e he ↦ ?_, h.stale⟩
  · have hids : (renameNode oldId newId s).entries.map Entry.nodeid =
        (s.entries.map Entry.nodeid).map fun id ↦ if id = oldId then newId else id := by
      show (s.entries.map _).map Entry.nodeid = _
      rw [map_map, map_map]
      refine map_congr_left fun e _ ↦ ?_
      show (if e.nodeid = oldId then _ else e : Entry).nodeid = if e.nodeid = oldId then newId
        else e.nodeid
      split_ifs <;> rfl
    rw [hids]
    refine List.Nodup.map_on (fun a ha b hb heq ↦ ?_) h.ids
    have hne (c : UInt16) (hc : c ∈ s.entries.map Entry.nodeid) : newId ≠ c :=
      fun h ↦ hunused (has_iff.mpr (h ▸ hc))
    split_ifs at heq with hfirst hsecond hthird
    · rw [hfirst, hsecond]
    · exact absurd heq (hne b hb)
    · exact absurd heq.symm (hne a ha)
    · exact heq
  · obtain ⟨a, ha, rfl⟩ := mem_map.mp he
    obtain ⟨b, hb, rfl⟩ := mem_map.mp hf
    have hsame (c : Entry) :
        (if c.nodeid = oldId then { c with nodeid := newId } else c).ipSuffix = c.ipSuffix := by
      split_ifs <;> rfl
    rw [hsame] at hnonzero
    rw [hsame, hsame] at heq
    rw [h.suffixes a ha b hb heq hnonzero]
  · obtain ⟨a, ha, rfl⟩ := mem_map.mp he
    split_ifs
    · exact h.within a ha
    · exact h.within a ha

theorem kept_assign {node ipSuffix : UInt16} (h : Kept net s)
    (hwithin : ipSuffix &&& net.netmask.2 = 0)
    (hfree : Free s node ipSuffix) : Kept net (assign node ipSuffix s) := by
  refine ⟨?_, fun e he f hf heq hnonzero ↦ ?_, fun e he ↦ ?_, h.stale⟩
  · have hids : (assign node ipSuffix s).entries.map Entry.nodeid = s.entries.map Entry.nodeid := by
      show (s.entries.map _).map Entry.nodeid = _
      rw [map_map]
      refine map_congr_left fun e _ ↦ ?_
      show (if e.nodeid = node then _ else e : Entry).nodeid = e.nodeid
      split_ifs <;> rfl
    rw [hids]
    exact h.ids
  · obtain ⟨a, ha, rfl⟩ := mem_map.mp he
    obtain ⟨b, hb, rfl⟩ := mem_map.mp hf
    by_cases hfirst : a.nodeid = node <;> by_cases hsecond : b.nodeid = node
    · rw [h.eq_of_nodeid ha hb (hfirst.trans hsecond.symm)]
    · rw [if_pos hfirst, if_neg hsecond] at heq
      exact absurd heq.symm (hfree b hb hsecond)
    · rw [if_neg hfirst, if_pos hsecond] at heq
      exact absurd heq (hfree a ha hfirst)
    · rw [if_neg hfirst] at heq hnonzero
      rw [if_neg hsecond] at heq
      rw [if_neg hfirst, if_neg hsecond]
      exact h.suffixes a ha b hb heq hnonzero
  · obtain ⟨a, ha, rfl⟩ := mem_map.mp he
    split_ifs
    · exact hwithin
    · exact h.within a ha

theorem kept_step (s : State) (e : Event) (hlegal : Legal net s e) (h : Kept net s) :
    Kept net (step net s e) := by
  cases e with
  | add node => exact kept_addEntry h hlegal
  | delete node => exact kept_delEntry node h
  | deleteAll => exact kept_delAllNodes h
  | rename oldId newId => exact kept_renameNode oldId h hlegal
  | assign node ipSuffix => exact kept_assign h hlegal.2.1 hlegal.2.2

/-- The entry of the gateway stays. -/
theorem has_step (s : State) (e : Event) (hhas : Has s s.myNodeId) :
    Has (step net s e) (step net s e).myNodeId := by
  obtain ⟨g, hg, hid⟩ := hhas
  cases e with
  | add node =>
    show Has (addEntry net node s) (addEntry net node s).myNodeId
    unfold addEntry
    by_cases hfull : maxNatEntries ≤ s.entries.length
    · rw [if_pos hfull]
      exact ⟨g, hg, hid⟩
    · rw [if_neg hfull]
      by_cases hhas : Has s node
      · rw [if_pos hhas]
        exact ⟨g, hg, hid⟩
      · rw [if_neg hhas]
        exact ⟨g, mem_append_left _ hg, hid⟩
  | delete node =>
    show Has (delEntry node s) (delEntry node s).myNodeId
    unfold delEntry
    split_ifs with hmy
    · exact ⟨g, hg, hid⟩
    · refine ⟨g, (mem_eraseP_of_neg ?_).mpr hg, hid⟩
      rw [beq_iff_eq, hid]
      exact Ne.symm hmy
  | deleteAll =>
    cases hfind : s.entries.reverse.find? (·.nodeid == s.myNodeId) with
    | none => exact absurd (beq_iff_eq.mpr hid) (List.find?_eq_none.mp hfind g (mem_reverse.mpr hg))
    | some f =>
      have hkey := List.find?_some hfind
      refine ⟨f, ?_, beq_iff_eq.mp hkey⟩
      show f ∈ [(s.entries.reverse.find? (·.nodeid == s.myNodeId)).getD _]
      rw [hfind]
      exact mem_singleton.mpr rfl
  | rename oldId newId =>
    refine ⟨_, mem_map.mpr ⟨g, hg, rfl⟩, ?_⟩
    show (if g.nodeid = oldId then _ else g : Entry).nodeid = if oldId = s.myNodeId then newId
      else s.myNodeId
    rw [hid]
    split_ifs with hfirst hsecond hthird
    · rfl
    · exact absurd hfirst.symm hsecond
    · exact absurd hthird.symm hfirst
    · exact hid
  | assign node ipSuffix =>
    refine ⟨_, mem_map.mpr ⟨g, hg, rfl⟩, ?_⟩
    show (if g.nodeid = node then _ else g : Entry).nodeid = s.myNodeId
    split_ifs
    · exact hid
    · exact hid

/-- What the number that `ipv46nat_add_entry` returns says about the table is right just when the
table fits. -/
theorem addRight_iff (net : Net) (d : Dhcp) (node : UInt16) (s : State) :
    AddRight net d node s ↔ AddFits net d node s := by
  have hbyte (n : ℕ) : n % 256 ≠ 0 ↔ UInt8.ofNat n ≠ 0 := by
    refine not_congr ?_
    rw [← UInt8.toNat_inj, UInt8.toNat_ofNat']
    rfl
  unfold AddRight AddFits addResult
  by_cases hfull : maxNatEntries ≤ s.entries.length
  · have hsame : addEntry net node s = s := if_pos hfull
    rw [if_pos hfull, if_pos hfull, hsame]
    constructor
    · rintro ⟨r, hr, hiff⟩
      exact hiff.mp (Option.some.inj hr).symm
    · intro hnot
      exact ⟨0, rfl, iff_of_true rfl hnot⟩
  · rw [if_neg hfull, if_neg hfull]
    by_cases hhas : Has s node
    · have hsame : addEntry net node s = s := (if_neg hfull).trans (if_pos hhas)
      rw [if_pos hhas, if_pos hhas, hsame, hbyte]
      constructor
      · rintro ⟨r, hr, hiff⟩ hzero
        exact hiff.mp ((Option.some.inj hr).symm.trans hzero) hhas
      · intro hnonzero
        exact ⟨_, rfl, iff_of_false hnonzero (not_not.mpr hhas)⟩
    · have hnew : Has (addEntry net node s) node := by
        unfold addEntry
        rw [if_neg hfull, if_neg hhas]
        exact ⟨_, mem_append_right _ (mem_singleton.mpr rfl), rfl⟩
      rw [if_neg hhas, if_neg hhas, hbyte]
      by_cases hreturns : dhcpReturns net d (addEntry net node s) = true
      · rw [if_pos hreturns, and_iff_left hreturns]
        constructor
        · rintro ⟨r, hr, hiff⟩ hzero
          exact hiff.mp ((Option.some.inj hr).symm.trans hzero) hnew
        · intro hnonzero
          exact ⟨_, rfl, iff_of_false hnonzero (not_not.mpr hnew)⟩
      · rw [if_neg hreturns]
        exact iff_of_false (fun ⟨r, hr, _⟩ ↦ by cases hr) fun h ↦ hreturns h.2

end Steps

/-! ### Runs -/

theorem kept_after (net : Net) (r : LegalRun net) : Kept net (after net r.myNodeId r.events) := by
  have hstart : Kept net (start r.myNodeId) := ⟨nodup_nil, fun _ he ↦ absurd he not_mem_nil,
    fun _ he ↦ absurd he not_mem_nil, UInt16.zero_and⟩
  exact run_invariant_of_allSteps kept_step hstart r.legal

/-- In every run the ids stay distinct and the gateway is never removed. The lookups fit together
just when no node is without an address and the first word of an address has to be that of the net,
and what `ipv46nat_add_entry` returns is right just when the table fits. -/
theorem natTable_iff (net : Net) (r : LegalRun net) :
    ((after net r.myNodeId r.events).entries.map Entry.nodeid).Nodup ∧
    (∀ earlier later, earlier ++ later = r.events →
      Has (after net r.myNodeId earlier) (after net r.myNodeId earlier).myNodeId →
      Has (after net r.myNodeId r.events) (after net r.myNodeId r.events).myNodeId) ∧
    (Lookups net (after net r.myNodeId r.events) ↔ Assigned net (after net r.myNodeId r.events)) ∧
    ∀ d node, AddRight net d node (after net r.myNodeId r.events) ↔
      AddFits net d node (after net r.myNodeId r.events) := by
  refine ⟨(kept_after net r).ids, fun earlier later heq hhas ↦ ?_, lookups_iff (kept_after net r),
    fun d node ↦ addRight_iff net d node _⟩
  unfold after
  rw [← heq, run_append]
  exact @run_invariant _ _ (step net) (fun s ↦ Has s s.myNodeId) has_step _ hhas later

/-- A node that was just added has no address, and is found for the address of the net itself. -/
theorem natTable_fail :
    ¬ ∀ (net : Net) (r : LegalRun net), Lookups net (after net r.myNodeId r.events) := by
  intro hlookups
  let net : Net := ⟨(0xA8C0, 0x0100), (0xFFFF, 0x00FF)⟩
  let r : LegalRun net := ⟨1, [.add 7], fun hmy ↦ absurd hmy (by decide), trivial⟩
  have hassigned := (lookups_iff (kept_after net r)).mp (hlookups net r)
  exact absurd (hassigned.1 ⟨7, 0⟩ (by decide)) (by decide)

end ZipGateway.Ipv46Nat
