import Mathlib.Tactic
import ZipGateway.Lib.Run

/-!
# Compressed names

The model of how `src/src/mDNSService.c` writes names to a message: `add_domain_name_compressed`,
and the record headers that start with a name. A name is compared with the one before it, from the
right, and what they share is replaced by a pointer. `nameCompression_run` says when all names of a
message can be read again.
-/

set_option autoImplicit false

namespace ZipGateway.Mdns.Compression

open List ZipGateway.Lib

/-! ### Reading a name -/

/-- The bytes of a message, from `hdr` on. -/
abbrev Memory := List UInt8

/-- `isPointer`. -/
def isPointer (a : UInt8) : Bool := a &&& 0xC0 == 0xC0

def maxLabelSize : UInt8 := 63

def maxDomainSize : ℕ := 255

def pointerOffset (len low : UInt8) : ℕ := (len &&& 0x3F).toNat <<< 8 ||| low.toNat

/-- `domain_name_next_label`. -/
def domainNameNextLabel (mem : Memory) (p : ℕ) : Option ℕ :=
  (mem[p]?).bind fun len ↦
    if isPointer len then (mem[p + 1]?).map (pointerOffset len) else some (p + 1 + len.toNat)

/-- The loop that the functions below share: it ends at the zero byte, or when the body leaves
it. -/
def eachLabel {S R : Type} (mem : Memory) (body : S → ℕ → UInt8 → R ⊕ S) :
    ℕ → S → ℕ → Option (R ⊕ S)
  | 0, _, _ => none
  | fuel + 1, s, p => (mem[p]?).bind fun b ↦
    if b = 0 then some (.inr s)
    else match body s p b with
      | .inl r => some (.inl r)
      | .inr s => (domainNameNextLabel mem p).bind (eachLabel mem body fuel s)

/-- A loop that ends takes no more steps: it leaves after 255 labels, and is back at a place after
as many steps as there are places. -/
def steps (mem : Memory) : ℕ := 256 * (mem.length + 1)

def countBody (n : UInt8) (_ : ℕ) (b : UInt8) : Empty ⊕ UInt8 :=
  .inr (if b ≤ maxLabelSize then n + 1 else n)

/-- `domian_name_label_count`. -/
def domianNameLabelCount (mem : Memory) (name : ℕ) : Option ℕ :=
  (eachLabel mem countBody (steps mem) 0 name).map (Sum.elim Empty.elim UInt8.toNat)

def getBody (n p : ℕ) (b : UInt8) : ℕ ⊕ ℕ :=
  if b ≤ maxLabelSize then if n = 0 then .inl p else .inr (n - 1) else .inr n

/-- `domain_name_label_get`. -/
def domainNameLabelGet (mem : Memory) (name n : ℕ) : Option ℕ :=
  (eachLabel mem getBody (steps mem) n name).bind (Sum.elim some fun _ ↦ none)

/-- The length of a label with its first byte, which is a signed one. -/
def copyLength (b : UInt8) : ℕ := if b < 128 then b.toNat + 1 else 0xFF00 + b.toNat + 1

def copyBody (mem : Memory) (maxlen : ℕ) (s : List UInt8) (p : ℕ) (b : UInt8) :
    List UInt8 ⊕ List UInt8 :=
  if isPointer b then .inr s
  else if s.length + copyLength b > maxlen - 1 then .inl s
  else .inr (s ++ (mem.drop p).take (copyLength b))

/-- `domain_name_copy`: what it writes. -/
def domainNameCopy (mem : Memory) (name maxlen : ℕ) : Option (List UInt8) :=
  (eachLabel mem (copyBody mem maxlen) (steps mem) [] name).map fun r ↦ Sum.elim id id r ++ [0]

/-! ### Writing a name -/

def strncmp : List UInt8 → List UInt8 → ℕ → Bool
  | _, _, 0 => true
  | x :: xs, y :: ys, n + 1 => x == y && (x == 0 || strncmp xs ys n)
  | _, _, _ => false

/-- `domain_name_label_compare`. -/
def domainNameLabelCompare (mem : Memory) (a b : ℕ) : Option Bool :=
  (if (mem[a]?).any isPointer then domainNameNextLabel mem a else some a).bind fun a ↦
    (if (mem[a]?).any isPointer then domainNameNextLabel mem b else some b).bind fun b ↦
      (mem[a]?).bind fun len ↦ (mem[b]?).map fun other ↦
        len == other && strncmp (mem.drop (a + 1)) (mem.drop (b + 1)) len.toNat

/-- The loop of `domain_name_insert_ptr`: the number of labels in common, and where `a` and `b` are
then. -/
def matchLabels (mem : Memory) (dest src : ℕ) : ℕ → ℕ → ℕ → ℕ → ℕ → Option (ℕ × ℕ × ℕ)
  | i + 1, j + 1, n, _, _ =>
    (domainNameLabelGet mem dest i).bind fun a ↦ (domainNameLabelGet mem src j).bind fun b ↦
      (domainNameLabelCompare mem a b).bind fun same ↦
        if same then matchLabels mem dest src i j (n + 1) a b
        else (domainNameNextLabel mem a).bind fun a ↦
          (domainNameNextLabel mem b).map fun b ↦ (n, a, b)
  | _, _, n, a, b => some (n, a, b)

/-- Exhaust pointers. -/
def exhaust (mem : Memory) : ℕ → ℕ → Option ℕ
  | 0, _ => none
  | fuel + 1, b =>
    if (mem[b]?).any isPointer then (domainNameNextLabel mem b).bind (exhaust mem fuel) else some b

def pointerBytes (b : ℕ) : List UInt8 :=
  let offset := b % 2 ^ 16
  [UInt8.ofNat (offset >>> 8 &&& 0x3F ||| 0xC0), UInt8.ofNat (offset &&& 0xFF)]

/-- `domain_name_insert_ptr`: the message up to the end of the pointer, if one is inserted. -/
def domainNameInsertPtr (mem : Memory) (dest src : ℕ) : Option (Option Memory) :=
  (domianNameLabelCount mem dest).bind fun i ↦ (domianNameLabelCount mem src).bind fun j ↦
    (matchLabels mem dest src i j 0 0 0).bind fun (n, a, b) ↦
      if n = 0 then some none
      else (exhaust mem (mem.length + 1) b).map fun b ↦ some (mem.take a ++ pointerBytes b)

/-- `dns_message_t`: what is written, up to `ptr`, and `last_domain_name`. -/
structure DnsMessage where
  bytes : Memory
  lastDomainName : Option ℕ
deriving DecidableEq

/-- `add_domain_name_compressed`: the message after it, and the length that it returns. -/
def addDomainNameCompressed (m : DnsMessage) (domainName : List UInt8) : Option (DnsMessage × ℕ) :=
  let start := m.bytes.length
  (domainNameCopy domainName 0 maxDomainSize).bind fun copied ↦
    let whole := (⟨m.bytes ++ copied, some start⟩, copied.length)
    match m.lastDomainName with
    | none => some whole
    | some last => (domainNameInsertPtr (m.bytes ++ copied) start last).map fun inserted ↦
      match inserted with
      | some p => (⟨p, some start⟩, p.length - start)
      | none => whole

def htons (w : UInt16) : List UInt8 := [(w >>> 8).toUInt8, w.toUInt8]

def htonl (w : UInt32) :
    List UInt8 := [(w >>> 24).toUInt8, (w >>> 16).toUInt8, (w >>> 8).toUInt8, w.toUInt8]

/-- `add_rrecord_hdr`; `rlength` is set by the caller. -/
def addRrecordHdr (m : DnsMessage) (queryName : List UInt8) (type cls : UInt16) (ttl : UInt32)
    (rlength : UInt16) : Option DnsMessage :=
  (addDomainNameCompressed m queryName).map fun (m, _) ↦
    { m with bytes := m.bytes ++ (htons type ++ htons cls ++ htonl ttl ++ htons rlength) }

/-- `add_qrecord_hdr`. -/
def addQrecordHdr (m : DnsMessage) (queryName : List UInt8) (qtype qclass : UInt16) :
    Option DnsMessage :=
  (addDomainNameCompressed m queryName).map fun (m, _) ↦
    { m with bytes := m.bytes ++ (htons qtype ++ htons qclass) }

/-! ### Messages -/

/-- A name as a list of labels. -/
structure Name where
  labels : List (List UInt8)
  sizes : ∀ l ∈ labels, 1 ≤ l.length ∧ l.length ≤ 63
  total : (labels.map (·.length + 1)).sum ≤ 254

def encodeLabels (labels : List (List UInt8)) : List UInt8 :=
  labels.flatMap fun l ↦ UInt8.ofNat l.length :: l

def Name.encode (n : Name) : List UInt8 := encodeLabels n.labels ++ [0]

inductive Event
  | name (n : Name)
  | rrecord (n : Name) (type cls : UInt16) (ttl : UInt32) (rlength : UInt16)
  | qrecord (n : Name) (qtype qclass : UInt16)
  | body (bytes : List UInt8)

/-- The message, and the names in it with their positions, the last one first. -/
structure State where
  m : DnsMessage
  names : List (ℕ × Name)

/-- A message after its header. The counts in the header are set at the end; no name is there. -/
def start (hdr : List UInt8) : State := ⟨⟨hdr, none⟩, []⟩

/-- A name was added where the message ended. -/
def State.added (s : State) (n : Name) (m : DnsMessage) : State :=
  ⟨m, (s.m.bytes.length, n) :: s.names⟩

/-- What is added; `none` when a loop does not end, or reads behind the message. -/
def State.add (s : State) : Event → Option State
  | .name n => (addDomainNameCompressed s.m n.encode).map fun (m, _) ↦ s.added n m
  | .rrecord n type cls ttl rlength =>
    (addRrecordHdr s.m n.encode type cls ttl rlength).map (s.added n)
  | .qrecord n qtype qclass => (addQrecordHdr s.m n.encode qtype qclass).map (s.added n)
  | .body bytes => some { s with m := { s.m with bytes := s.m.bytes ++ bytes } }

def step (s : Option State) (e : Event) : Option State := s.bind (·.add e)

/-- From one place of a name to the next. -/
def Next (mem : Memory) (p q : ℕ) :
    Prop := (∃ b, mem[p]? = some b ∧ b ≠ 0) ∧ domainNameNextLabel mem p = some q

/-- The pointers of a name all point backwards. -/
def Backwards (mem : Memory) (name : ℕ) : Prop :=
  ∀ p q b, Relation.ReflTransGen (Next mem) name p → mem[p]? = some b → isPointer b = true →
    Next mem p q → q < p

/-- All names are read again as they were added. -/
def Preserved (s : State) : Prop :=
  ∀ x ∈ s.names, domainNameCopy s.m.bytes x.1 maxDomainSize = some x.2.encode ∧
    Backwards s.m.bytes x.1

/-- Two labels are taken for equal. -/
def sameLabel (x y : List UInt8) : Bool := x.length == y.length && strncmp x y x.length

/-- The number of labels in common, from the right. -/
def common (x y : List (List UInt8)) : ℕ → ℕ → ℕ
  | i + 1, j + 1 => if sameLabel (x.getD i []) (y.getD j []) then common x y i j + 1 else 0
  | _, _ => 0

/-- The labels that are taken for equal are equal, and start where a pointer can point to. -/
def Fits (s : State) (n : Name) : Prop :=
  ∀ last ∈ s.names.head?,
    let k := common n.labels last.2.labels n.labels.length last.2.labels.length
    n.labels.drop (n.labels.length - k) = last.2.labels.drop (last.2.labels.length - k) ∧
      ∀ t ∈ domainNameLabelGet s.m.bytes last.1 (last.2.labels.length - k), t ≤ 0x3FFF

/-- The name that is added fits. -/
def AllFit (s : Option State) : Event → Prop
  | .name n | .rrecord n .. | .qrecord n .. => ∀ s' ∈ s, Fits s' n
  | .body _ => True

instance (s : State) (n : Name) : Decidable (Fits s n) :=
  inferInstanceAs (Decidable (∀ last ∈ s.names.head?, _ ∧ _))

instance (s : Option State) : (e : Event) → Decidable (AllFit s e)
  | .name n | .rrecord n .. | .qrecord n .. => inferInstanceAs (Decidable (∀ s' ∈ s, Fits s' n))
  | .body _ => isTrue trivial

/-! ### Names in memory -/

/-- A label at a place. -/
structure LabelAt (mem : Memory) (p : ℕ) (l : List UInt8) : Prop where
  size : 1 ≤ l.length ∧ l.length ≤ 63
  first : mem[p]? = some (UInt8.ofNat l.length)
  bytes : (mem.drop (p + 1)).take l.length = l

/-- The labels of a name with the places where they are. A pointer goes back to a label. -/
inductive Reads (mem : Memory) : ℕ → List (ℕ × List UInt8) → Prop
  | root {p : ℕ} (hzero : mem[p]? = some 0) : Reads mem p []
  | label {p : ℕ} {l : List UInt8} {rest : List (ℕ × List UInt8)} (hlabel : LabelAt mem p l)
      (hrest : Reads mem (p + 1 + l.length) rest) : Reads mem p ((p, l) :: rest)
  | pointer {p q : ℕ} {len low : UInt8} {l : List UInt8} {rest : List (ℕ × List UInt8)}
    (hlen : mem[p]? = some len)
      (hpointer : isPointer len = true) (hlow : mem[p + 1]? = some low)
        (htarget : pointerOffset len low = q)
      (hback : q < p) (hrest : Reads mem q ((q, l) :: rest)) : Reads mem p ((q, l) :: rest)

section Names

variable {mem more : Memory} {p q : ℕ} {l x y : List UInt8} {items : List (ℕ × List UInt8)}

theorem size_facts : ∀ n, 1 ≤ n → n ≤ 63 → (UInt8.ofNat n).toNat = n ∧ UInt8.ofNat n ≠ 0 ∧
    isPointer (UInt8.ofNat n) = false ∧ UInt8.ofNat n ≤ maxLabelSize ∧ UInt8.ofNat n < 128 := by
  have h : ∀ n : Fin 64, 1 ≤ n.val → (UInt8.ofNat n.val).toNat = n.val ∧ UInt8.ofNat n.val ≠ 0 ∧
      isPointer (UInt8.ofNat n.val) = false ∧ UInt8.ofNat n.val ≤ maxLabelSize ∧
        UInt8.ofNat n.val < 128 := by
    decide +kernel
  intro n hpos hle
  exact h ⟨n, by omega⟩ hpos

theorem LabelAt.append (h : LabelAt mem p l) : LabelAt (mem ++ more) p l := by
  obtain ⟨hp, -⟩ := List.getElem?_eq_some_iff.mp h.first
  refine ⟨h.size, by rw [List.getElem?_append_left hp, h.first], ?_⟩
  have hlength := congrArg List.length h.bytes
  rw [length_take] at hlength
  rw [drop_append_of_le_length (by omega), take_append_of_le_length (by omega), h.bytes]

/-- What follows a message changes no name in it. -/
theorem Reads.append (h : Reads mem p items) : Reads (mem ++ more) p items := by
  have hin {p : ℕ} {b : UInt8} (hb : mem[p]? = some b) : (mem ++ more)[p]? = some b := by
    obtain ⟨hp, -⟩ := List.getElem?_eq_some_iff.mp hb
    rw [List.getElem?_append_left hp, hb]
  induction h with
  | root hzero => exact .root (hin hzero)
  | label hlabel _ ih => exact .label hlabel.append ih
  | pointer hlen hpointer hlow htarget hback _ ih =>
    exact .pointer (hin hlen) hpointer (hin hlow) htarget hback ih

theorem LabelAt.next (h : LabelAt mem p l) :
    domainNameNextLabel mem p = some (p + 1 + l.length) := by
  obtain ⟨hnat, -, hpointer, -, -⟩ := size_facts l.length h.size.1 h.size.2
  unfold domainNameNextLabel
  rw [h.first, Option.bind_some, hpointer, if_neg Bool.false_ne_true, hnat]

theorem next_of_pointer {len low : UInt8} (hlen : mem[p]? = some len)
    (hpointer : isPointer len = true)
    (hlow : mem[p + 1]? = some low) : domainNameNextLabel mem p = some (pointerOffset len low) := by
  unfold domainNameNextLabel
  rw [hlen, Option.bind_some, if_pos hpointer, hlow]
  rfl

theorem ne_zero_of_pointer {b : UInt8} (h : isPointer b = true) : b ≠ 0 := by
  rintro rfl
  exact absurd h (by decide)

theorem Reads.labelAt (h : Reads mem p items) : ∀ x ∈ items, LabelAt mem x.1 x.2 := by
  induction h with
  | root => exact fun _ hx ↦ absurd hx not_mem_nil
  | label hlabel _ ih =>
    intro x hx
    rcases mem_cons.mp hx with rfl | hx
    · exact hlabel
    · exact ih x hx
  | pointer _ _ _ _ _ _ ih => exact ih

/-- The rest of a name behind a label. -/
theorem Reads.tail (h : Reads mem p items) {i : ℕ} {x : ℕ × List UInt8} (hx : items[i]? = some x) :
    Reads mem (x.1 + 1 + x.2.length) (items.drop (i + 1)) := by
  induction h generalizing i with
  | root => exact absurd hx (by simp)
  | label hlabel hrest ih =>
    cases i with
    | zero =>
      obtain rfl := Option.some.inj hx
      exact hrest
    | succ i => exact ih hx
  | pointer _ _ _ _ _ _ ih => exact ih hx

/-- From each of its labels on the rest of a name is read. -/
theorem Reads.drop (h : Reads mem p items) {i : ℕ} {x : ℕ × List UInt8} (hx : items[i]? = some x) :
    Reads mem x.1 (items.drop i) := by
  have hrest := h.tail hx
  have hlabel := h.labelAt x (mem_of_getElem? hx)
  obtain ⟨hi, rfl⟩ := List.getElem?_eq_some_iff.mp hx
  rw [drop_eq_getElem_cons hi]
  exact .label hlabel hrest

/-- A name that starts with a pointer starts elsewhere. -/
theorem Reads.exhaust {x : ℕ × List UInt8} (h : Reads mem p (x :: items)) {fuel : ℕ}
    (hfuel : 2 ≤ fuel) : exhaust mem fuel p = some x.1 := by
  obtain ⟨fuel, rfl⟩ := Nat.exists_eq_add_of_le hfuel
  have hlabel {q : ℕ} {l : List UInt8} (h : LabelAt mem q l) (n : ℕ) :
      Compression.exhaust mem (n + 1) q = some q := by
    unfold Compression.exhaust
    rw [h.first, Option.any_some, (size_facts l.length h.size.1 h.size.2).2.2.1,
      if_neg Bool.false_ne_true]
  rw [Nat.add_comm]
  cases h with
  | label h _ => exact hlabel h _
  | pointer hlen hpointer hlow htarget _ hrest =>
    unfold Compression.exhaust
    rw [hlen, Option.any_some, if_pos hpointer, next_of_pointer hlen hpointer hlow, htarget,
      Option.bind_some]
    exact hlabel (hrest.labelAt _ mem_cons_self) _

/-- The names that are read point backwards. -/
theorem Reads.backwards (h : Reads mem p items) : Backwards mem p := by
  intro v w b hreach hb hpointer hnext
  induction h with
  | @root p hzero =>
    have hstuck (q : ℕ) (h : Next mem p q) : False := by
      obtain ⟨⟨c, hc, hnonzero⟩, -⟩ := h
      rw [hzero] at hc
      exact hnonzero (Option.some.inj hc).symm
    rcases hreach.cases_head with rfl | ⟨q, hfirst, -⟩
    · exact (hstuck w hnext).elim
    · exact (hstuck q hfirst).elim
  | @label p l rest hlabel _ ih =>
    rcases hreach.cases_head with rfl | ⟨q, hfirst, hreach⟩
    · rw [hlabel.first] at hb
      rw [← Option.some.inj hb, (size_facts l.length hlabel.size.1 hlabel.size.2).2.2.1] at hpointer
      exact absurd hpointer Bool.false_ne_true
    · have hq := hfirst.2
      rw [hlabel.next] at hq
      exact ih ((Option.some.inj hq) ▸ hreach)
  | @pointer p q len low l rest hlen hptr hlow htarget hback _ ih =>
    have hstep := next_of_pointer hlen hptr hlow
    rw [htarget] at hstep
    rcases hreach.cases_head with rfl | ⟨q', hfirst, hreach⟩
    · have hw := hnext.2
      rw [hstep] at hw
      exact (Option.some.inj hw) ▸ hback
    · have hq := hfirst.2
      rw [hstep] at hq
      exact ih ((Option.some.inj hq) ▸ hreach)

end Names

/-! ### The loops -/

section Loops

variable {mem : Memory} {p : ℕ} {items : List (ℕ × List UInt8)} {S R : Type}

/-- The loop on the labels of a name. -/
def eachItem (body : S → ℕ → UInt8 → R ⊕ S) : S → List (ℕ × List UInt8) → R ⊕ S
  | s, [] => .inr s
  | s, x :: rest =>
    match body s x.1 (UInt8.ofNat x.2.length) with
    | .inl r => .inl r
    | .inr s => eachItem body s rest

/-- A loop that does nothing at a pointer goes through the labels of a name. -/
theorem eachLabel_of_reads {body : S → ℕ → UInt8 → R ⊕ S}
    (hskip : ∀ s p b, isPointer b = true → body s p b = .inr s) (h : Reads mem p items) : ∀ fuel s,
      2 * items.length + (if items.head?.map Prod.fst = some p then 0 else 1) ≤ fuel →
      eachLabel mem body fuel s p = some (eachItem body s items) := by
  induction h with
  | @root p hzero =>
    intro fuel s hfuel
    obtain ⟨fuel, rfl⟩ := Nat.exists_eq_add_of_le' (show 1 ≤ fuel from hfuel)
    unfold eachLabel
    rw [hzero, Option.bind_some, if_pos rfl]
    rfl
  | @label p l rest hlabel hrest ih =>
    intro fuel s hfuel
    rw [length_cons] at hfuel
    obtain ⟨fuel, rfl⟩ := Nat.exists_eq_add_of_le' (show 1 ≤ fuel by omega)
    unfold eachLabel eachItem
    rw [hlabel.first, Option.bind_some,
      if_neg (size_facts l.length hlabel.size.1 hlabel.size.2).2.1]
    dsimp only
    cases body s p (UInt8.ofNat l.length) with
    | inl r => rfl
    | inr s =>
      dsimp only
      rw [hlabel.next, Option.bind_some]
      apply ih
      split_ifs <;> omega
  | @pointer p q len low l rest hlen hpointer hlow htarget hback _ ih =>
    intro fuel s hfuel
    have hother : ¬ ((q, l) :: rest).head?.map Prod.fst = some p :=
      fun h ↦ absurd (Option.some.inj h) hback.ne
    rw [if_neg hother, length_cons] at hfuel
    obtain ⟨fuel, rfl⟩ := Nat.exists_eq_add_of_le' (show 1 ≤ fuel by omega)
    unfold eachLabel
    rw [hlen, Option.bind_some, if_neg (ne_zero_of_pointer hpointer), hskip s p len hpointer]
    dsimp only
    rw [next_of_pointer hlen hpointer hlow, htarget, Option.bind_some]
    have hsame : ((q, l) :: rest).head?.map Prod.fst = some q := rfl
    apply ih
    rw [length_cons, if_pos hsame]
    omega

/-- The bytes of the labels of a name. -/
def totalSize (labels : List (List UInt8)) : ℕ := (labels.map (·.length + 1)).sum

theorem length_le_totalSize {labels : List (List UInt8)} (h : ∀ l ∈ labels, 1 ≤ l.length) :
    2 * labels.length ≤ totalSize labels := by
  induction labels with
  | nil => exact Nat.le_refl 0
  | cons l rest ih =>
    have hfirst := h l mem_cons_self
    have hrest := ih fun x hx ↦ h x (mem_cons_of_mem _ hx)
    unfold totalSize at hrest ⊢
    rw [length_cons, map_cons, sum_cons]
    omega

/-- A name that is read, with no more bytes than a name may have. -/
structure ReadsName (mem : Memory) (p : ℕ) (items : List (ℕ × List UInt8)) : Prop where
  reads : Reads mem p items
  total : totalSize (items.map Prod.snd) ≤ 254

theorem ReadsName.length_le (h : ReadsName mem p items) : items.length ≤ 127 := by
  have hsizes : ∀ l ∈ items.map Prod.snd, 1 ≤ l.length := by
    intro l hl
    obtain ⟨x, hx, rfl⟩ := mem_map.mp hl
    exact (h.reads.labelAt x hx).size.1
  have hlength := length_le_totalSize hsizes
  have htotal := h.total
  rw [length_map] at hlength
  omega

theorem ReadsName.eachLabel (h : ReadsName mem p items) {body : S → ℕ → UInt8 → R ⊕ S}
    (hskip : ∀ s p b, isPointer b = true → body s p b = .inr s) (s : S) :
    eachLabel mem body (steps mem) s p = some (eachItem body s items) := by
  refine eachLabel_of_reads hskip h.reads _ s ?_
  have hlength := h.length_le
  unfold steps
  split_ifs <;> omega

theorem eachItem_next {body : S → ℕ → UInt8 → R ⊕ S} {s s' : S} {x : ℕ × List UInt8}
    (h : body s x.1 (UInt8.ofNat x.2.length) = .inr s') :
    eachItem body s (x :: items) = eachItem body s' items := by
  rw [eachItem, h]

theorem eachItem_count (n : UInt8) (hlabels : ∀ x ∈ items, LabelAt mem x.1 x.2) :
    eachItem countBody n items = .inr (n + UInt8.ofNat items.length) := by
  induction items generalizing n with
  | nil => exact congrArg Sum.inr (UInt8.add_zero n).symm
  | cons x rest ih =>
    have hx := (hlabels x mem_cons_self).size
    have hbody : countBody n x.1 (UInt8.ofNat x.2.length) = .inr (n + 1) :=
      congrArg Sum.inr (if_pos (size_facts _ hx.1 hx.2).2.2.2.1)
    rw [eachItem_next hbody, ih _ fun y hy ↦ hlabels y (mem_cons_of_mem _ hy), length_cons,
      UInt8.add_assoc, UInt8.add_comm 1, UInt8.ofNat_add]
    rfl

theorem eachItem_get {n : ℕ} {x : ℕ × List UInt8} (hx : items[n]? = some x)
    (hlabels : ∀ x ∈ items, LabelAt mem x.1 x.2) : eachItem getBody n items = .inl x.1 := by
  induction items generalizing n with
  | nil => exact absurd hx (by simp)
  | cons y rest ih =>
    have hy := (hlabels y mem_cons_self).size
    have hlabel := (size_facts _ hy.1 hy.2).2.2.2.1
    cases n with
    | zero =>
      obtain rfl := Option.some.inj hx
      unfold eachItem getBody
      rw [if_pos hlabel, if_pos rfl]
    | succ n =>
      have hbody : getBody (n + 1) y.1 (UInt8.ofNat y.2.length) = .inr n := by
        unfold getBody
        rw [if_pos hlabel, if_neg (Nat.succ_ne_zero n)]
        rfl
      rw [eachItem_next hbody]
      exact ih hx fun z hz ↦ hlabels z (mem_cons_of_mem _ hz)

theorem LabelAt.slice {l : List UInt8} (h : LabelAt mem p l) :
    (mem.drop p).take (l.length + 1) = UInt8.ofNat l.length :: l := by
  obtain ⟨hp, hget⟩ := List.getElem?_eq_some_iff.mp h.first
  rw [drop_eq_getElem_cons hp, take_succ_cons, hget, h.bytes]

theorem eachItem_copy (s : List UInt8) (hlabels : ∀ x ∈ items, LabelAt mem x.1 x.2)
    (hroom : s.length + totalSize (items.map Prod.snd) ≤ 254) :
    eachItem (copyBody mem maxDomainSize) s items = .inr
      (s ++ encodeLabels (items.map Prod.snd)) := by
  induction items generalizing s with
  | nil => exact congrArg Sum.inr (append_nil s).symm
  | cons x rest ih =>
    have hx := hlabels x mem_cons_self
    obtain ⟨hnat, -, hpointer, -, hsmall⟩ := size_facts _ hx.size.1 hx.size.2
    have hlength : copyLength (UInt8.ofNat x.2.length) = x.2.length + 1 := by
      unfold copyLength
      rw [if_pos hsmall, hnat]
    unfold totalSize at hroom ih
    rw [map_cons, map_cons, sum_cons] at hroom
    have hbody : copyBody mem maxDomainSize s x.1 (UInt8.ofNat x.2.length) =
        .inr (s ++ UInt8.ofNat x.2.length :: x.2) := by
      unfold copyBody
      rw [hpointer, if_neg Bool.false_ne_true, hlength, if_neg, hx.slice]
      show ¬ s.length + (x.2.length + 1) > 254
      omega
    rw [eachItem_next hbody, ih _ fun z hz ↦ hlabels z (mem_cons_of_mem _ hz)]
    · rw [append_assoc]
      rfl
    · rw [length_append, length_cons]
      omega

theorem not_label_of_pointer {b : UInt8} (h : isPointer b = true) : ¬ b ≤ maxLabelSize := by
  have hlabel : ∀ n : Fin 64, isPointer (UInt8.ofNat n) = false := by decide +kernel
  intro hle
  have hb := hlabel ⟨b.toNat, Nat.lt_succ_of_le (UInt8.le_iff_toNat_le.mp hle)⟩
  rw [UInt8.ofNat_toNat, h] at hb
  exact Bool.noConfusion hb

theorem ReadsName.count (h : ReadsName mem p items) :
    domianNameLabelCount mem p = some items.length := by
  have hskip : ∀ n p b, isPointer b = true → countBody n p b = .inr n := fun n p b hpointer ↦
    congrArg Sum.inr (if_neg (not_label_of_pointer hpointer))
  have hlength := h.length_le
  unfold domianNameLabelCount
  rw [h.eachLabel hskip, eachItem_count _ h.reads.labelAt, Option.map_some, Sum.elim_inr,
    UInt8.zero_add, UInt8.toNat_ofNat', Nat.mod_eq_of_lt (by omega)]

theorem ReadsName.get (h : ReadsName mem p items) {n : ℕ} {x : ℕ × List UInt8}
    (hx : items[n]? = some x) : domainNameLabelGet mem p n = some x.1 := by
  have hskip : ∀ n p b, isPointer b = true → getBody n p b = .inr n := fun n p b hpointer ↦
    if_neg (not_label_of_pointer hpointer)
  unfold domainNameLabelGet
  rw [h.eachLabel hskip, eachItem_get hx h.reads.labelAt, Option.bind_some, Sum.elim_inl]

theorem ReadsName.copy (h : ReadsName mem p items) :
    domainNameCopy mem p maxDomainSize = some (encodeLabels (items.map Prod.snd) ++ [0]) := by
  have hskip : ∀ s p b, isPointer b = true → copyBody mem maxDomainSize s p b = .inr s :=
    fun s p b hpointer ↦
    if_pos hpointer
  have hroom : ([] : List UInt8).length + totalSize (items.map Prod.snd) ≤ 254 :=
    (Nat.zero_add _).trans_le h.total
  unfold domainNameCopy
  rw [h.eachLabel hskip, eachItem_copy [] h.reads.labelAt hroom]
  rfl

end Loops

/-! ### Two labels -/

section Compare

variable {mem : Memory} {a b : ℕ} {x y : List UInt8}

theorem strncmp_take (xs ys : List UInt8) (n : ℕ) :
    strncmp xs ys n = strncmp (xs.take n) (ys.take n) n := by
  induction n generalizing xs ys with
  | zero => rw [strncmp, strncmp]
  | succ n ih =>
    cases xs with
    | nil => rfl
    | cons x xs =>
      cases ys with
      | nil => rfl
      | cons y ys =>
        rw [take_succ_cons, take_succ_cons, strncmp, strncmp, ih]

theorem compare_labels (ha : LabelAt mem a x) (hb : LabelAt mem b y) :
    domainNameLabelCompare mem a b = some (sameLabel x y) := by
  obtain ⟨hx, -, hpointer, -, -⟩ := size_facts _ ha.size.1 ha.size.2
  obtain ⟨hy, -⟩ := size_facts _ hb.size.1 hb.size.2
  have hno : ¬ (mem[a]?).any isPointer = true := by
    rw [ha.first, Option.any_some, hpointer]
    exact Bool.false_ne_true
  have hlength : (UInt8.ofNat x.length == UInt8.ofNat y.length) = (x.length == y.length) := by
    rw [Bool.eq_iff_iff, beq_iff_eq, beq_iff_eq, ← UInt8.toNat_inj, hx, hy]
  unfold domainNameLabelCompare
  rw [if_neg hno, Option.bind_some, if_neg hno, Option.bind_some, ha.first, hb.first,
    Option.bind_some, Option.map_some, hlength, hx]
  unfold sameLabel
  by_cases hsame : x.length = y.length
  · rw [strncmp_take, ha.bytes, hsame, hb.bytes]
  · rw [beq_eq_false_iff_ne.mpr hsame, Bool.false_and, Bool.false_and]

end Compare

/-! ### The labels in common -/

section Common

variable {mem : Memory} {dest src : ℕ} {labels : List (List UInt8)} {items : List (ℕ × List UInt8)}

/-- The labels of a name without pointers, with their places. -/
def itemsAt : ℕ → List (List UInt8) → List (ℕ × List UInt8)
  | _, [] => []
  | p, l :: rest => (p, l) :: itemsAt (p + 1 + l.length) rest

theorem itemsAt_snd (p : ℕ) : (itemsAt p labels).map Prod.snd = labels := by
  induction labels generalizing p with
  | nil => rfl
  | cons l rest ih => exact congrArg (l :: ·) (ih _)

theorem itemsAt_length (p : ℕ) : (itemsAt p labels).length = labels.length :=
  (length_map Prod.snd).symm.trans (congrArg List.length (itemsAt_snd p))

theorem itemsAt_get (p : ℕ) {i : ℕ} {l : List UInt8} (hl : labels[i]? = some l) :
    (itemsAt p labels)[i]? = some (p + totalSize (labels.take i), l) := by
  induction labels generalizing p i with
  | nil => exact absurd hl (by simp)
  | cons x rest ih =>
    cases i with
    | zero =>
      obtain rfl := Option.some.inj hl
      rfl
    | succ i =>
      refine (ih (p + 1 + x.length) hl).trans ?_
      unfold totalSize
      rw [take_succ_cons, map_cons, sum_cons]
      congr 2
      omega

theorem totalSize_take_succ {i : ℕ} {l : List UInt8} (hl : labels[i]? = some l) :
    totalSize (labels.take (i + 1)) = totalSize (labels.take i) + (l.length + 1) := by
  unfold totalSize
  rw [take_add_one, hl, map_append, sum_append]
  rfl

/-- The places to which the loop of `domain_name_insert_ptr` has come: what is left of both names
starts there. -/
def Reached (mem : Memory) (dest : ℕ) (labels : List (List UInt8)) (items : List (ℕ × List UInt8))
    (i j a b : ℕ) : Prop :=
  a = dest + totalSize (labels.take i) ∧ Reads mem b (items.drop j)

theorem matchLabels_spec (hdest : ReadsName mem dest (itemsAt dest labels))
    (hsrc : ReadsName mem src items) :
    ∀ i j n a b, i ≤ labels.length → j ≤ items.length →
      (n ≠ 0 → Reached mem dest labels items i j a b) →
      ∃ a' b', matchLabels mem dest src i j n a b = some
        (n + common labels (items.map Prod.snd) i j, a', b') ∧
        (n + common labels (items.map Prod.snd) i j ≠ 0 → Reached mem dest labels items
          (i - common labels (items.map Prod.snd) i j)
            (j - common labels (items.map Prod.snd) i j) a' b') := by
  intro i
  induction i with
  | zero =>
    intro j n a b _ _ h
    rw [matchLabels, common]
    · exact ⟨a, b, rfl, h⟩
    all_goals simp
  | succ i ih =>
    intro j n a b hi hj h
    cases j with
    | zero =>
      rw [matchLabels, common]
      · exact ⟨a, b, rfl, h⟩
      all_goals simp
    | succ j =>
      have hlabel : labels[i]? = some labels[i] := List.getElem?_eq_getElem hi
      have hitem : items[j]? = some items[j] := List.getElem?_eq_getElem hj
      have hplace := itemsAt_get dest hlabel
      have ha := hdest.reads.labelAt _ (mem_of_getElem? hplace)
      have hb := hsrc.reads.labelAt _ (mem_of_getElem? hitem)
      have hx : labels.getD i [] = labels[i] := by
        rw [getD_eq_getElem?_getD, hlabel]
        rfl
      have hy : (items.map Prod.snd).getD j [] = items[j].2 := by
        rw [getD_eq_getElem?_getD, List.getElem?_map, hitem]
        rfl
      rw [matchLabels, common, hdest.get hplace, Option.bind_some, hsrc.get hitem, Option.bind_some,
        compare_labels ha hb, Option.bind_some, hx, hy]
      by_cases hsame : sameLabel labels[i] items[j].2 = true
      · rw [if_pos hsame, if_pos hsame]
        obtain ⟨a', b', heq, hreached⟩ := ih j (n + 1) (dest + totalSize (labels.take i)) items[j].1
          (Nat.le_of_succ_le hi) (Nat.le_of_succ_le hj) fun _ ↦ ⟨rfl, hsrc.reads.drop hitem⟩
        refine ⟨a', b', ?_, ?_⟩
        · rw [heq, Nat.add_assoc, Nat.add_comm 1]
        · rw [Nat.add_sub_add_right, Nat.add_sub_add_right]
          exact fun _ ↦ hreached (by omega)
      · rw [if_neg hsame, if_neg hsame, ha.next, Option.bind_some, hb.next, Option.map_some]
        refine ⟨_, _, rfl, fun _ ↦ ⟨?_, ?_⟩⟩
        · rw [Nat.sub_zero, totalSize_take_succ hlabel]
          dsimp only
          omega
        · exact hsrc.reads.tail hitem

end Common

/-! ### A name that is added -/

section Added

variable {mem pre rest : Memory} {labels : List (List UInt8)} {items : List (ℕ × List UInt8)}

theorem pointer_facts {t : ℕ} (ht : t ≤ 0x3FFF) :
    ∃ len low, pointerBytes t = [len, low] ∧ isPointer len = true ∧
    pointerOffset len low = t := by
  have hfirst : ∀ k : Fin 64, isPointer (UInt8.ofNat (k.val &&& 0x3F ||| 0xC0)) = true ∧
      (UInt8.ofNat (k.val &&& 0x3F ||| 0xC0) &&& 0x3F).toNat = k.val := by decide +kernel
  have hhigh : (t % 2 ^ 16) >>> 8 < 64 := by
    rw [Nat.shiftRight_eq_div_pow]
    omega
  obtain ⟨hpointer, hvalue⟩ := hfirst ⟨(t % 2 ^ 16) >>> 8, hhigh⟩
  dsimp only at hpointer hvalue
  refine ⟨_, _, rfl, hpointer, ?_⟩
  unfold pointerOffset
  rw [hvalue]
  have hlow : (UInt8.ofNat (t % 2 ^ 16 &&& 0xFF)).toNat = t % 256 := by
    rw [show (0xFF : ℕ) = 2 ^ 8 - 1 from rfl, Nat.and_two_pow_sub_one_eq_mod, UInt8.toNat_ofNat']
    omega
  rw [hlow, ← Nat.shiftLeft_add_eq_or_of_lt (show t % 256 < 2 ^ 8 by omega), Nat.shiftLeft_eq,
    Nat.shiftRight_eq_div_pow]
  omega

theorem encodeLabels_length : (encodeLabels labels).length = totalSize labels := by
  induction labels with
  | nil => rfl
  | cons l rest ih =>
    unfold encodeLabels totalSize at ih ⊢
    rw [flatMap_cons, length_append, ih, map_cons, sum_cons, length_cons]

/-- Labels that are written are read, and then what follows them. -/
theorem reads_encode (hsizes : ∀ l ∈ labels, 1 ≤ l.length ∧ l.length ≤ 63)
    (h : Reads (pre ++ encodeLabels labels ++ rest) (pre.length + totalSize labels) items) :
    Reads (pre ++ encodeLabels labels ++ rest) pre.length (itemsAt pre.length labels ++ items) := by
  induction labels generalizing pre with
  | nil => exact h
  | cons l more ih =>
    have hmem : pre ++ encodeLabels (l :: more) ++ rest =
        (pre ++ UInt8.ofNat l.length :: l) ++ encodeLabels more ++ rest := by
      unfold encodeLabels
      rw [flatMap_cons, append_assoc, append_assoc, append_assoc, append_assoc]
    have hlength : (pre ++ UInt8.ofNat l.length :: l).length = pre.length + 1 + l.length := by
      rw [length_append, length_cons]
      omega
    have htotal : totalSize (l :: more) = l.length + 1 + totalSize more := rfl
    have hlabel : LabelAt (pre ++ encodeLabels (l :: more) ++ rest) pre.length l := by
      refine ⟨hsizes l mem_cons_self, ?_, ?_⟩
      · rw [hmem, append_assoc, append_assoc, List.getElem?_append_right (Nat.le_refl _),
          Nat.sub_self]
        rfl
      · rw [hmem, append_assoc, append_assoc, drop_append, drop_of_length_le (Nat.le_succ _),
          Nat.add_sub_cancel_left]
        exact take_left
    refine .label hlabel ?_
    rw [hmem] at h ⊢
    have hrest := @ih (pre ++ UInt8.ofNat l.length :: l) fun x hx ↦ hsizes x (mem_cons_of_mem _ hx)
    rw [hlength] at hrest
    refine hrest ?_
    rw [htotal] at h
    convert h using 1
    omega

theorem encodeLabels_append (first second : List (List UInt8)) :
    encodeLabels (first ++ second) = encodeLabels first ++ encodeLabels second := flatMap_append

/-- A name that is copied to the end of a message. -/
theorem readsName_encode (pre : Memory) (n : Name) :
    ReadsName (pre ++ n.encode) pre.length (itemsAt pre.length n.labels) := by
  have hzero :
      (pre ++ encodeLabels n.labels ++ [0])[pre.length + totalSize n.labels]? = some 0 := by
    rw [← encodeLabels_length, ← length_append, List.getElem?_append_right (Nat.le_refl _),
      Nat.sub_self]
    rfl
  have hreads := reads_encode n.sizes (.root hzero)
  rw [append_nil, append_assoc] at hreads
  refine ⟨hreads, ?_⟩
  rw [itemsAt_snd]
  exact n.total

theorem copy_encode (n : Name) : domainNameCopy n.encode 0 maxDomainSize = some n.encode := by
  have h := (readsName_encode [] n).copy
  rw [itemsAt_snd] at h
  exact h

theorem common_le (x y : List (List UInt8)) : ∀ i j, common x y i j ≤ i ∧ common x y i j ≤ j := by
  intro i
  induction i with
  | zero =>
    intro j
    rw [common]
    · exact ⟨Nat.zero_le _, Nat.zero_le _⟩
    all_goals simp
  | succ i ih =>
    intro j
    cases j with
    | zero =>
      rw [common]
      · exact ⟨Nat.zero_le _, Nat.zero_le _⟩
      all_goals simp
    | succ j =>
      rw [common]
      obtain ⟨hi, hj⟩ := ih j
      split_ifs <;> omega

/-- The names of a message are read, and the last one is known. -/
structure Good (s : State) : Prop where
  reads : ∀ x ∈ s.names, ∃ items, ReadsName s.m.bytes x.1 items ∧ items.map Prod.snd = x.2.labels
  last : s.m.lastDomainName = s.names.head?.map Prod.fst

theorem ReadsName.append {p : ℕ} (h : ReadsName pre p items) : ReadsName (pre ++ rest) p items :=
  ⟨h.reads.append, h.total⟩

/-- A name that ends with a pointer to a label of an earlier one. -/
theorem reads_pointer {p t : ℕ} {x : ℕ × List UInt8}
    (hsizes : ∀ l ∈ labels, 1 ≤ l.length ∧ l.length ≤ 63)
    (h : Reads pre p items) {j : ℕ} (hx : items[j]? = some x) (ht : x.1 = t) (hle : t ≤ 0x3FFF) :
    Reads (pre ++ encodeLabels labels ++ pointerBytes t) pre.length
      (itemsAt pre.length labels ++ items.drop j) := by
  obtain ⟨len, low, hbytes, hpointer, htarget⟩ := pointer_facts hle
  have hplace : (pre ++ encodeLabels labels).length = pre.length + totalSize labels := by
    rw [length_append, encodeLabels_length]
  obtain ⟨hlt, -⟩ := List.getElem?_eq_some_iff.mp (h.labelAt x (mem_of_getElem? hx)).first
  have hdrop : items.drop j = x :: items.drop (j + 1) := by
    obtain ⟨hj, rfl⟩ := List.getElem?_eq_some_iff.mp hx
    exact drop_eq_getElem_cons hj
  have hrest := h.drop hx
  subst ht
  refine reads_encode hsizes ?_
  rw [hdrop] at hrest ⊢
  have hfirst : (pre ++ encodeLabels labels ++ pointerBytes x.1)[pre.length + totalSize labels]? =
      some len := by
    rw [← hplace, List.getElem?_append_right (Nat.le_refl _), Nat.sub_self, hbytes]
    rfl
  have hsecond : (pre ++ encodeLabels labels ++ pointerBytes x.1)[pre.length + totalSize labels +
      1]? = some low := by
    rw [← hplace, List.getElem?_append_right (Nat.le_add_right _ 1),
      Nat.add_sub_cancel_left, hbytes]
    rfl
  refine .pointer hfirst hpointer hsecond htarget (by omega) ?_
  rw [append_assoc]
  exact hrest.append

/-- A pointer is inserted just when there is a label in common. -/
theorem insertPtr_spec {last : ℕ} (n : Name) (h : ReadsName pre last items) :
    let k := common n.labels (items.map Prod.snd) n.labels.length items.length
    ∃ inserted, domainNameInsertPtr (pre ++ n.encode) pre.length last = some inserted ∧
      (k = 0 → inserted = none) ∧ (k ≠ 0 → ∃ x, items[items.length - k]? = some x ∧
        inserted = some
          (pre ++ encodeLabels (n.labels.take (n.labels.length - k)) ++ pointerBytes x.1)) := by
  intro k
  have hplain := readsName_encode pre n
  have hsrc : ReadsName (pre ++ n.encode) last items := h.append
  obtain ⟨a, b, hmatch, hreached⟩ := matchLabels_spec hplain hsrc n.labels.length items.length 0 0 0
    (Nat.le_refl _) (Nat.le_refl _) fun hne ↦ absurd rfl hne
  rw [Nat.zero_add] at hmatch hreached
  have hcount := hplain.count
  rw [itemsAt_length] at hcount
  unfold domainNameInsertPtr
  rw [hcount, Option.bind_some, hsrc.count, Option.bind_some, hmatch, Option.bind_some]
  obtain ⟨-, hle⟩ := common_le n.labels (items.map Prod.snd) n.labels.length items.length
  by_cases hzero : k = 0
  · exact ⟨none, if_pos hzero, fun _ ↦ rfl, fun hne ↦ absurd hzero hne⟩
  · obtain ⟨ha, hb⟩ := hreached hzero
    have hitem : items.length - k < items.length := by omega
    have hdrop : items.drop (items.length - k) = items[items.length - k] ::
        items.drop (items.length - k + 1) :=
      drop_eq_getElem_cons hitem
    have htake :
        (pre ++ n.encode).take a = pre ++ encodeLabels (n.labels.take (n.labels.length - k)) := by
      have hsplit : pre ++ n.encode = pre ++ encodeLabels (n.labels.take (n.labels.length - k)) ++
          (encodeLabels (n.labels.drop (n.labels.length - k)) ++ [0]) := by
        unfold Name.encode
        rw [← take_append_drop (n.labels.length - k) n.labels, encodeLabels_append]
        simp only [append_assoc, take_append_drop]
      rw [hsplit]
      refine take_left' ?_
      rw [length_append, encodeLabels_length, ha]
    have hfuel : 2 ≤ (pre ++ n.encode).length + 1 := by
      unfold Name.encode
      rw [length_append, length_append, length_singleton]
      omega
    have hexhaust := (hdrop ▸ hb : Reads _ b (_ :: _)).exhaust hfuel
    refine ⟨_, ?_, fun h ↦ absurd h hzero, fun _ ↦ ⟨_, List.getElem?_eq_getElem hitem, rfl⟩⟩
    dsimp only
    rw [if_neg hzero, hexhaust, Option.map_some, htake]

/-- A name that fits is added, and is read. -/
theorem addDomainNameCompressed_spec {s : State} {n : Name} (h : Good s) (hfits : Fits s n) :
    ∃ written len, addDomainNameCompressed s.m n.encode = some
      (⟨s.m.bytes ++ written, some s.m.bytes.length⟩, len) ∧
      ∃ items, ReadsName (s.m.bytes ++ written) s.m.bytes.length items ∧
        items.map Prod.snd = n.labels := by
  have hplain := readsName_encode s.m.bytes n
  have hlast := h.last
  unfold addDomainNameCompressed
  rw [copy_encode, Option.bind_some]
  cases hnames : s.names with
  | nil =>
    rw [hnames] at hlast
    rw [hlast]
    exact ⟨_, _, rfl, _, hplain, itemsAt_snd _⟩
  | cons last more =>
    rw [hnames] at hlast
    rw [hlast]
    obtain ⟨items, hitems, hlabels⟩ := h.reads last (hnames ▸ mem_cons_self)
    have hfit := hfits last (by rw [hnames]; rfl)
    have hlength : last.2.labels.length = items.length := by rw [← hlabels, length_map]
    obtain ⟨inserted, hinsert, hnone, hsome⟩ := insertPtr_spec n hitems
    rw [hlabels] at hnone hsome
    rw [hlength] at hfit
    obtain ⟨hsame, hoffset⟩ := hfit
    show ∃ written len,
      (domainNameInsertPtr (s.m.bytes ++ n.encode) s.m.bytes.length last.1).map _ = _ ∧ _
    rw [hinsert, Option.map_some]
    by_cases hzero : common n.labels last.2.labels n.labels.length items.length = 0
    · rw [hnone hzero]
      exact ⟨_, _, rfl, _, hplain, itemsAt_snd _⟩
    · obtain ⟨x, hx, hinserted⟩ := hsome hzero
      have hsub := n.labels.take_subset
        (n.labels.length - common n.labels last.2.labels n.labels.length items.length)
      have hreads := reads_pointer (fun l hl ↦ n.sizes l (hsub hl)) hitems.reads hx
        rfl (hoffset x.1 (hitems.get hx))
      have hnew : (itemsAt s.m.bytes.length (n.labels.take (n.labels.length -
          common n.labels last.2.labels n.labels.length items.length)) ++ items.drop (items.length -
          common n.labels last.2.labels n.labels.length items.length)).map Prod.snd = n.labels := by
        rw [map_append, itemsAt_snd, map_drop, hlabels, ← hsame, take_append_drop]
      rw [hinserted]
      rw [append_assoc] at hreads ⊢
      exact ⟨_, _, rfl, _, ⟨hreads, by rw [hnew]; exact n.total⟩, hnew⟩

end Added

/-! ### Runs -/

section Runs

variable {s : State}

theorem good_added {n : Name} {m : DnsMessage} {written : Memory} (h : Good s)
    (hbytes : m.bytes = s.m.bytes ++ written) (hlast : m.lastDomainName = some s.m.bytes.length)
    (hnew : ∃ items, ReadsName m.bytes s.m.bytes.length items ∧ items.map Prod.snd = n.labels) :
    Good (s.added n m) := by
  refine ⟨fun x hx ↦ ?_, hlast⟩
  rcases mem_cons.mp hx with rfl | hx
  · exact hnew
  · obtain ⟨items, hitems, hlabels⟩ := h.reads x hx
    refine ⟨items, ?_, hlabels⟩
    show ReadsName m.bytes x.1 items
    rw [hbytes]
    exact hitems.append

/-- A record header after a name. -/
theorem good_header {n : Name} (h : Good s) (hfits : Fits s n) (header : List UInt8) :
    ∃ s', ((addDomainNameCompressed s.m n.encode).map fun (m, _) ↦
      { m with bytes := m.bytes ++ header }).map (s.added n) = some s' ∧ Good s' := by
  obtain ⟨written, len, hadd, items, hitems, hlabels⟩ := addDomainNameCompressed_spec h hfits
  rw [hadd]
  refine ⟨_, rfl, good_added h (append_assoc _ written header) rfl ⟨items, ?_, hlabels⟩⟩
  exact hitems.append

theorem good_add (h : Good s) (e : Event) (hfit : AllFit (some s) e) :
    ∃ s', s.add e = some s' ∧ Good s' := by
  cases e with
  | name n =>
    obtain ⟨written, len, hadd, hnew⟩ := addDomainNameCompressed_spec h (hfit s rfl)
    have hgood : Good (s.added n ⟨s.m.bytes ++ written, some s.m.bytes.length⟩) :=
      good_added h rfl rfl hnew
    refine ⟨_, ?_, hgood⟩
    show (addDomainNameCompressed s.m n.encode).map _ = _
    rw [hadd]
    rfl
  | rrecord n type cls ttl rlength => exact good_header h (hfit s rfl) _
  | qrecord n qtype qclass => exact good_header h (hfit s rfl) _
  | body bytes =>
    refine ⟨_, rfl, fun x hx ↦ ?_, h.last⟩
    obtain ⟨items, hitems, hlabels⟩ := h.reads x hx
    exact ⟨items, hitems.append, hlabels⟩

theorem Good.preserved (h : Good s) : Preserved s := by
  intro x hx
  obtain ⟨items, hitems, hlabels⟩ := h.reads x hx
  refine ⟨?_, hitems.reads.backwards⟩
  rw [hitems.copy, hlabels]
  rfl

end Runs

/-- In a message all of whose names fit, each name is read as it was added, and all pointers go
backwards. -/
theorem nameCompression_run (hdr : List UInt8) (events : List Event)
    (hfit : AllSteps step AllFit (some (start hdr)) events) :
    ∃ s, run step (some (start hdr)) events = some s ∧ Preserved s := by
  have hstep : ∀ (s : Option State) (e : Event), AllFit s e → (∃ s', s = some s' ∧ Good s') →
      ∃ s', step s e = some s' ∧ Good s' := by
    rintro s e hfit ⟨s', rfl, hgood⟩
    exact good_add hgood e hfit
  have hstart : ∃ s', some (start hdr) = some s' ∧ Good s' :=
    ⟨_, rfl, fun x hx ↦ absurd hx not_mem_nil, rfl⟩
  obtain ⟨s, hrun, hgood⟩ := run_invariant_of_allSteps hstep hstart hfit
  exact ⟨s, hrun, hgood.preserved⟩

/-- `node.local` after `gateway.local`. -/
theorem nameCompression_run_two : ∃ s, run step (some (start (List.replicate 12 0)))
    [.qrecord ⟨[[103, 97, 116, 101, 119, 97, 121], [108, 111, 99, 97, 108]], by decide, by decide⟩
      255 1,
      .name ⟨[[110, 111, 100, 101], [108, 111, 99, 97, 108]], by decide, by decide⟩] = some s ∧
        Preserved s :=
  nameCompression_run _ _ (by decide +kernel)

/-- Behind a zero byte labels are not compared. -/
theorem nameCompression_fail : ¬ ∀ (hdr : List UInt8) (events : List Event),
    ∃ s, run step (some (start hdr)) events = some s ∧ Preserved s := by
  intro h
  obtain ⟨s, hrun, hpreserved⟩ := h (List.replicate 12 0)
    [.name ⟨[[97, 0, 98]], by decide, by decide⟩, .name ⟨[[97, 0, 99]], by decide, by decide⟩]
  have hread : (run step (some (start (List.replicate 12 0)))
      [.name ⟨[[97, 0, 98]], by decide, by decide⟩,
        .name ⟨[[97, 0, 99]], by decide, by decide⟩]).all
        (fun s ↦ s.names.all fun x ↦ domainNameCopy s.m.bytes x.1 maxDomainSize ==
          some x.2.encode) = true := by
    rw [hrun, Option.all_some, all_eq_true]
    exact fun x hx ↦ beq_iff_eq.mpr (hpreserved x hx).1
  exact absurd hread (by decide +kernel)

end ZipGateway.Mdns.Compression
