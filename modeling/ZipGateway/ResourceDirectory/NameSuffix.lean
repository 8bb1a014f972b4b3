import Mathlib.Data.List.DropRight
import Mathlib.Tactic
import ZipGateway.Lib.Run

/-!
# The number at the end of a name

When a name is taken, `add_or_increment_trailing_digit` of `src/src/ResourceDirectory.c` puts a
number behind it, or counts the number that is there up. It gets a buffer with the name at its front
and anything behind it. The buffer is a list of bytes here, and an access outside of it has no
result. `suffixes_iff` says for which names and buffers the new name is the one that it should be,
and that a name does not come back then.
-/

set_option autoImplicit false

namespace ZipGateway.ResourceDirectory.NameSuffix

open List ZipGateway.Lib

/-! ### The function -/

/-- `isdigit`. -/
def isdigit (c : UInt8) : Bool := decide (48 ≤ c ∧ c ≤ 57)

/-- `isspace`. -/
def isspace (c : UInt8) : Bool := decide (c = 32 ∨ 9 ≤ c ∧ c ≤ 13)

/-- `'-'`. -/
def dash : UInt8 := 45

/-- The number that digits stand for, behind some that stand for `start`. -/
def number (start : ℕ) (digits : List UInt8) : ℕ :=
  digits.foldl (fun n c ↦ n * 10 + (c.toNat - 48)) start

/-- The digits of a number, as `%i` prints them. -/
def decimal (n : ℕ) : List UInt8 := (Nat.toDigits 10 n).map fun c ↦ UInt8.ofNat c.toNat

/-- The digits that `atoi` reads, up to the first byte that is none; there is no result when the
buffer ends. -/
def readDigits : List UInt8 → ℕ → Option ℕ
  | [], _ => none
  | c :: rest, n => if isdigit c then readDigits rest (n * 10 + (c.toNat - 48)) else some n

/-- `LONG_MAX`, at least that of 32 bits. -/
abbrev LongMax := { n : ℕ // 2147483647 ≤ n }

/-- `atoi`, which stops at `LONG_MAX` and at `LONG_MIN`. -/
def atoi (longMax : LongMax) : List UInt8 → Option ℤ
  | [] => none
  | c :: rest =>
    if isspace c then atoi longMax rest
    else if c = dash then (readDigits rest 0).map fun n ↦ -(min n (longMax.val + 1) : ℕ)
    else if c = 43 then (readDigits rest 0).map fun n ↦ (min n longMax.val : ℕ)
    else (readDigits (c :: rest) 0).map fun n ↦ (min n longMax.val : ℕ)

/-- The loop backwards over the digits. The index is never below zero: behind 0 comes 255. -/
def scanBack (s : List UInt8) : ℕ → UInt8 → Option UInt8
  | 0, _ => none
  | fuel + 1, k =>
    match s[k.toNat]? with
    | none => none
    | some c => if isdigit c then scanBack s fuel (k - 1) else some k

/-- What `snprintf` leaves of a text in a buffer of some size. -/
def snprintf (size : ℕ) (text : List UInt8) : List UInt8 :=
  if size = 0 then [] else text.take (size - 1) ++ [0]

/-- Bytes are stored from a position on. -/
def store (s : List UInt8) (k : ℕ) (bytes : List UInt8) : List UInt8 :=
  s.take k ++ bytes ++ s.drop (k + bytes.length)

/-- The end of the function: the number `d` is printed at `k`, and the string ends behind it. -/
def printNumber (s : List UInt8) (k d : UInt8) : Option (UInt8 × List UInt8) :=
  let text := dash :: decimal d.toNat
  if s.length < k.toNat then none
  else
    let s := store s k.toNat (snprintf (s.length - k.toNat) text)
    let k := k + UInt8.ofNat text.length
    if k.toNat < s.length then some (k, s.set k.toNat 0) else none

/-- `add_or_increment_trailing_digit`, for a buffer of `maxlen` bytes. As many turns of the loop as
there are indices are enough: then it has come around. -/
def addOrIncrementTrailingDigit (longMax : LongMax) (s : List UInt8) (ilen : UInt8) :
    Option (UInt8 × List UInt8) :=
  match scanBack s 256 (ilen - 1) with
  | none => none
  | some k =>
    if s[k.toNat]? = some dash then
      match atoi longMax (s.drop (k.toNat + 1)) with
      | none => none
      | some n => printNumber s k (UInt8.ofInt (n + 1))
    else printNumber s ilen 1

/-! ### What it is for -/

/-- A name without the digits at its end. -/
def front (name : List UInt8) : List UInt8 := name.rdropWhile isdigit

/-- The digits at the end of a name. -/
def digits (name : List UInt8) : List UInt8 := name.rtakeWhile isdigit

/-- A name ends with a dash and a number. -/
def Numbered (name : List UInt8) : Prop := (front name).getLast? = some dash ∧ digits name ≠ []

instance (name : List UInt8) : Decidable (Numbered name) := inferInstanceAs (Decidable (_ ∧ _))

/-- The part of a name that stays, with the dash. -/
def nameBase (name : List UInt8) : List UInt8 :=
  if Numbered name then front name else name ++ [dash]

/-- The number of a name; it is zero when there is none. -/
def nameNumber (name : List UInt8) : ℕ := if Numbered name then number 0 (digits name) else 0

/-- The next name: of `base-N` it is `base-(N+1)`, and of any other name it is `name-1`. -/
def nextName (name : List UInt8) : List UInt8 := nameBase name ++ decimal (nameNumber name + 1)

structure NameBuffer where
  s : List UInt8
  ilen : UInt8
  pos : 0 < ilen.toNat
  room : ilen.toNat < s.length
  maxlen : s.length < 256

def NameBuffer.name (b : NameBuffer) : List UInt8 := b.s.take b.ilen.toNat

/-- The next name stands at the front of the buffer, its length is returned, and nothing outside was
touched. -/
def Suffixed (longMax : LongMax) (b : NameBuffer) : Prop :=
  ∃ k s, addOrIncrementTrailingDigit longMax b.s b.ilen = some (k, s) ∧ k.toNat < b.s.length ∧
    s.take k.toNat = nextName b.name ∧ s[k.toNat]? = some 0

/-- The digits in the buffer from the end of the front on: those of the name, and those that happen
to follow it. -/
def foundDigits (b : NameBuffer) : List UInt8 := (b.s.drop (front b.name).length).takeWhile isdigit

/-- There is a byte that is no digit; when the last one of them is a dash, digits follow it, they
end in the buffer, and their number plus one is that of the name plus one, up to multiples of 256;
and there is room for the next name. -/
structure Fits (longMax : LongMax) (b : NameBuffer) : Prop where
  letter : front b.name ≠ []
  digit : (front b.name).getLast? = some dash → digits b.name ≠ []
  ends : (front b.name).getLast? = some dash →
    (front b.name).length + (foundDigits b).length < b.s.length
  counts : (front b.name).getLast? = some dash →
    (min (number 0 (foundDigits b)) longMax.val + 1) % 256 = nameNumber b.name + 1
  room : (nextName b.name).length < b.s.length

/-! ### Digits -/

section Decimal

theorem isdigit_of_mem_decimal {n : ℕ} {c : UInt8} (hc : c ∈ decimal n) : isdigit c = true := by
  obtain ⟨char, hchar, rfl⟩ := mem_map.mp hc
  have hdigit := Nat.isDigit_of_mem_toDigits (by decide) le_rfl hchar
  rw [Char.isDigit, Bool.and_eq_true, decide_eq_true_eq, decide_eq_true_eq] at hdigit
  have hlow : 48 ≤ char.toNat := hdigit.1
  have hhigh : char.toNat ≤ 57 := hdigit.2
  unfold isdigit
  rw [decide_eq_true_eq, UInt8.le_iff_toNat_le, UInt8.le_iff_toNat_le, UInt8.toNat_ofNat',
    Nat.mod_eq_of_lt (by omega)]
  exact ⟨hlow, hhigh⟩

theorem number_map (chars : List Char) (hsmall : ∀ char ∈ chars, char.toNat < 256) (start : ℕ) :
    number start (chars.map fun c ↦ UInt8.ofNat c.toNat) = Nat.ofDigitChars 10 chars start := by
  induction chars generalizing start with
  | nil => rfl
  | cons char rest ih =>
    have hchar := hsmall char mem_cons_self
    rw [Nat.ofDigitChars_cons, ← ih fun other hother ↦ hsmall other (mem_cons_of_mem _ hother)]
    show number (start * 10 + ((UInt8.ofNat char.toNat).toNat - 48)) _ = _
    rw [UInt8.toNat_ofNat', Nat.mod_eq_of_lt hchar, Nat.mul_comm]
    rfl

theorem number_decimal (n : ℕ) : number 0 (decimal n) = n := by
  unfold decimal
  rw [number_map, Nat.ofDigitChars_ten_toDigits]
  intro char hchar
  have hdigit := Nat.isDigit_of_mem_toDigits (by decide) le_rfl hchar
  rw [Char.isDigit, Bool.and_eq_true, decide_eq_true_eq, decide_eq_true_eq] at hdigit
  have hhigh : char.toNat ≤ 57 := hdigit.2
  omega

theorem decimal_injective {n m : ℕ} (heq : decimal n = decimal m) : n = m := by
  rw [← number_decimal n, heq, number_decimal]

theorem decimal_ne_nil (n : ℕ) : decimal n ≠ [] :=
  fun hnil ↦ Nat.toDigits_ne_nil (map_eq_nil_iff.mp hnil)

/-- A number of one byte has at most three digits. -/
theorem length_decimal_le (d : UInt8) : (decimal d.toNat).length ≤ 3 := by
  have hd := d.toNat_lt
  unfold decimal
  rw [length_map, Nat.length_toDigits_le_iff (by decide) (by decide)]
  omega

/-- Digits are read up to the end of them, which has to be in the buffer. -/
theorem readDigits_eq (s : List UInt8) (start : ℕ) : readDigits s start =
    if (s.takeWhile isdigit).length < s.length then some
      (number start (s.takeWhile isdigit)) else none := by
  induction s generalizing start with
  | nil => rfl
  | cons c rest ih =>
    unfold readDigits
    by_cases hc : isdigit c = true
    · rw [if_pos hc, ih, takeWhile_cons_of_pos hc, length_cons, length_cons]
      simp only [Nat.add_lt_add_iff_right]
      rfl
    · rw [if_neg hc, takeWhile_cons_of_neg hc]
      rfl

theorem atoi_of_isdigit (longMax : LongMax) {c : UInt8} (hc : isdigit c = true)
    (rest : List UInt8) :
    atoi longMax
      (c :: rest) = (readDigits (c :: rest) 0).map fun n ↦ ((min n longMax.val : ℕ) : ℤ) := by
  have hrange : 48 ≤ c.toNat ∧ c.toNat ≤ 57 := of_decide_eq_true hc
  have hspace : isspace c = false := by
    refine decide_eq_false ?_
    rintro (rfl | ⟨-, hle⟩)
    · exact absurd hrange.1 (by decide)
    · exact absurd (hrange.1.trans (UInt8.le_iff_toNat_le.mp hle)) (by decide)
  have hdash : c ≠ dash := fun h ↦ by rw [h] at hc; exact absurd hc (by decide)
  have hplus : c ≠ 43 := fun h ↦ by rw [h] at hc; exact absurd hc (by decide)
  rw [atoi, if_neg (Bool.eq_false_iff.mp hspace), if_neg hdash, if_neg hplus]

end Decimal

/-! ### Names -/

section Names

variable {name base : List UInt8}

theorem front_append_digits (name : List UInt8) : front name ++ digits name = name :=
  rdropWhile_append_rtakeWhile

theorem getElem?_front {i : ℕ} (hi : i < (front name).length) : name[i]? = (front name)[i]? := by
  conv_lhs => rw [← front_append_digits name]
  exact List.getElem?_append_left hi

theorem isdigit_of_mem_digits {c : UInt8} (hc : c ∈ digits name) : isdigit c = true :=
  mem_rtakeWhile_imp hc

/-- What follows a dash and is all digits is the number of a name. -/
theorem front_append (hlast : base.getLast? = some dash) {ds : List UInt8}
    (hdigits : ∀ d ∈ ds, isdigit d = true) :
    front (base ++ ds) = base ∧ digits (base ++ ds) = ds := by
  obtain ⟨start, rfl⟩ := List.getLast?_eq_some_iff.mp hlast
  induction ds using List.reverseRecOn with
  | nil =>
    rw [append_nil]
    exact ⟨rdropWhile_concat_neg _ _ _ (by decide), rtakeWhile_concat_neg _ _ _ (by decide)⟩
  | append_singleton ds d ih =>
    have hd : isdigit d = true := hdigits d (mem_append_right _ (mem_singleton.mpr rfl))
    obtain ⟨hfront, htail⟩ := ih fun other hother ↦ hdigits other (mem_append_left _ hother)
    rw [← append_assoc]
    exact ⟨(rdropWhile_concat_pos _ _ _ hd).trans hfront,
      (rtakeWhile_concat_pos _ _ _ hd).trans (congrArg (· ++ [d]) htail)⟩

theorem getLast?_nameBase (name : List UInt8) : (nameBase name).getLast? = some dash := by
  unfold nameBase
  split_ifs with hnumbered
  · exact hnumbered.1
  · exact List.getLast?_concat

theorem front_nextName (name : List UInt8) :
    front (nextName name) = nameBase name ∧ digits (nextName name) = decimal
      (nameNumber name + 1) :=
  front_append (getLast?_nameBase name) fun _ hd ↦ isdigit_of_mem_decimal hd

theorem nameNumber_nextName (name : List UInt8) :
    nameNumber (nextName name) = nameNumber name + 1 := by
  obtain ⟨hfront, hdigits⟩ := front_nextName name
  have hnumbered : Numbered (nextName name) := by
    unfold Numbered
    rw [hfront, hdigits]
    exact ⟨getLast?_nameBase name, decimal_ne_nil _⟩
  conv_lhs => rw [nameNumber, if_pos hnumbered, hdigits, number_decimal]

end Names

/-! ### The loop backwards -/

section ScanBack

variable {s : List UInt8}

/-- The loop stops at the last byte that is no digit. -/
theorem scanBack_digits {stop : ℕ} {c : UInt8} (hstop : s[stop]? = some c) (hc : isdigit c = false)
    {count fuel : ℕ} (hfuel : count < fuel) (hsmall : stop + count < 256)
    (hdigits : ∀ i, stop < i → i ≤ stop + count → ∃ d, s[i]? = some d ∧ isdigit d = true) :
    scanBack s fuel (UInt8.ofNat (stop + count)) = some (UInt8.ofNat stop) := by
  induction count generalizing fuel with
  | zero =>
    obtain ⟨fuel, rfl⟩ := Nat.exists_eq_add_of_lt hfuel
    rw [Nat.zero_add, scanBack, UInt8.toNat_ofNat', Nat.mod_eq_of_lt hsmall, Nat.add_zero, hstop]
    exact if_neg (Bool.eq_false_iff.mp hc)
  | succ count ih =>
    obtain ⟨fuel, rfl⟩ : ∃ more, fuel = more + 1 := ⟨fuel - 1, by omega⟩
    obtain ⟨d, hat, hd⟩ := hdigits (stop + (count + 1)) (by omega) le_rfl
    have hprev : UInt8.ofNat (stop + (count + 1)) - 1 = UInt8.ofNat (stop + count) := by
      rw [← Nat.add_assoc, UInt8.ofNat_add, UInt8.ofNat_one, UInt8.add_sub_cancel]
    rw [scanBack, UInt8.toNat_ofNat', Nat.mod_eq_of_lt hsmall, hat]
    simp only [hd, if_true]
    rw [hprev]
    exact ih (by omega) (by omega) fun i hlow hhigh ↦ hdigits i hlow (by omega)

/-- When all bytes are digits, the loop goes on behind the end of the buffer. -/
theorem scanBack_eq_none (hmaxlen : s.length < 256) (fuel : ℕ) {k : UInt8}
    (hdigits : ∀ i ≤ k.toNat, ∃ d, s[i]? = some d ∧ isdigit d = true) :
    scanBack s fuel k = none := by
  induction fuel generalizing k with
  | zero => rfl
  | succ fuel ih =>
    obtain ⟨d, hat, hd⟩ := hdigits k.toNat le_rfl
    rw [scanBack, hat]
    simp only [hd, if_true]
    by_cases hzero : k = 0
    · subst hzero
      have hend : s[((0 : UInt8) - 1).toNat]? = none :=
        List.getElem?_eq_none (Nat.le_of_lt_succ hmaxlen)
      cases fuel with
      | zero => rfl
      | succ fuel => rw [scanBack, hend]
    · have hpos : 0 < k.toNat := Nat.pos_of_ne_zero fun hk ↦ hzero (UInt8.toNat_inj.mp hk)
      have hprev : (k - 1).toNat = k.toNat - 1 :=
        UInt8.toNat_sub_of_le _ _ (UInt8.le_iff_toNat_le.mpr hpos)
      exact ih fun i hi ↦ hdigits i (by omega)

end ScanBack

/-! ### The number is printed -/

/-- The new string is the wanted one just when there is room for it, and it is what is printed. An
index that wraps leaves a string that is too short. -/
theorem printNumber_iff {s want : List UInt8} {k d : UInt8} (hmaxlen : s.length < 256)
    (hk : k.toNat < s.length) (hwant : k.toNat < want.length) :
    (∃ j t, printNumber s k d = some (j, t) ∧ j.toNat < s.length ∧ t.take j.toNat = want ∧
      t[j.toNat]? = some 0) ↔
      want.length < s.length ∧ s.take k.toNat ++ dash :: decimal d.toNat = want := by
  set text := dash :: decimal d.toNat with htext
  have hlen : text.length ≤ 4 := Nat.succ_le_succ (length_decimal_le d)
  set new := store s k.toNat (snprintf (s.length - k.toNat) text) with hnew
  have hindex : (k + UInt8.ofNat text.length).toNat = (k.toNat + text.length) % 256 := by
    rw [UInt8.toNat_add, UInt8.toNat_ofNat', Nat.add_mod_mod]
  have hresult : printNumber s k d = if (k + UInt8.ofNat text.length).toNat < new.length then
      some (k + UInt8.ofNat text.length, new.set (k + UInt8.ofNat text.length).toNat 0) else none :=
    if_neg (by omega)
  have hfits (hroom : k.toNat + text.length < s.length) : new = s.take k.toNat ++ text ++ 0 ::
      s.drop (k.toNat + text.length + 1) := by
    have hprinted : snprintf (s.length - k.toNat) text = text ++ [0] := by
      unfold snprintf
      rw [if_neg (by omega), take_of_length_le (by omega)]
    rw [hnew, hprinted]
    unfold store
    rw [length_append, length_singleton, Nat.add_assoc, append_assoc, append_assoc,
      append_assoc]
    rfl
  have hfront (hroom : k.toNat + text.length < s.length) :
      (s.take k.toNat ++ text).length = k.toNat + text.length := by
    rw [length_append, length_take_of_le hk.le]
  constructor
  · rintro ⟨j, t, hprint, hj, htake, -⟩
    rw [hresult] at hprint
    split_ifs at hprint
    obtain ⟨rfl, rfl⟩ := Prod.mk.inj (Option.some.inj hprint)
    have hshort : want.length ≤ (k + UInt8.ofNat text.length).toNat := by
      rw [← htake]
      exact length_take_le _ _
    rw [hindex] at hj hshort
    have hroom : k.toNat + text.length < s.length := by omega
    rw [hindex, Nat.mod_eq_of_lt (by omega), take_set_of_le le_rfl, hfits hroom,
      take_left' (hfront hroom)] at htake
    refine ⟨?_, htake⟩
    rw [← htake, hfront hroom]
    exact hroom
  · rintro ⟨hlt, heq⟩
    have hroom : k.toNat + text.length < s.length := by
      rwa [← heq, length_append, length_take_of_le hk.le] at hlt
    have hend : (k + UInt8.ofNat text.length).toNat = k.toNat + text.length := by
      rw [hindex, Nat.mod_eq_of_lt (by omega)]
    have hinside : k.toNat + text.length < new.length := by
      rw [hfits hroom, length_append, hfront hroom]
      exact Nat.lt_add_of_pos_right (Nat.succ_pos _)
    refine ⟨_, _, hresult.trans (if_pos (hend ▸ hinside)), hend ▸ hroom, ?_, ?_⟩
    · rw [hend, take_set_of_le le_rfl, hfits hroom, take_left' (hfront hroom), heq]
    · rw [hend]
      exact List.getElem?_set_self hinside

/-! ### One name -/

section OneName

variable {longMax : LongMax} {b : NameBuffer}

theorem length_name (b : NameBuffer) : b.name.length = b.ilen.toNat := length_take_of_le b.room.le

theorem getElem?_name {i : ℕ} (hi : i < b.ilen.toNat) :
    b.s[i]? = b.name[i]? := (List.getElem?_take_of_lt hi).symm

theorem length_front_le (b : NameBuffer) : (front b.name).length ≤ b.ilen.toNat := by
  rw [← length_name, ← congrArg List.length (front_append_digits b.name), length_append]
  exact Nat.le_add_right _ _

theorem toNat_pred_ilen (b : NameBuffer) : (b.ilen - 1).toNat = b.ilen.toNat - 1 :=
  UInt8.toNat_sub_of_le _ _ (UInt8.le_iff_toNat_le.mpr b.pos)

theorem take_front (b : NameBuffer) : b.s.take (front b.name).length = front b.name := by
  have hname : b.s.take (front b.name).length = b.name.take (front b.name).length := by
    show _ = (b.s.take b.ilen.toNat).take (front b.name).length
    rw [take_take, Nat.min_eq_left (length_front_le b)]
  rw [hname, ← prefix_iff_eq_take.mp ⟨digits b.name, front_append_digits b.name⟩]

/-- Behind the front there are digits. -/
theorem getElem?_digits {i : ℕ} (hlow : (front b.name).length ≤ i) (hhigh : i < b.ilen.toNat) :
    ∃ d, b.s[i]? = some d ∧ isdigit d = true := by
  have hname : b.s[i]? = (digits b.name)[i - (front b.name).length]? := by
    rw [getElem?_name hhigh, ← List.getElem?_append_right hlow, front_append_digits]
  have hinside : i < b.name.length := hhigh.trans_eq (length_name b).symm
  rw [getElem?_name hhigh, List.getElem?_eq_getElem hinside] at hname
  have hmem := mem_of_getElem? hname.symm
  exact ⟨b.name[i], by rw [getElem?_name hhigh, List.getElem?_eq_getElem hinside],
    isdigit_of_mem_digits hmem⟩

/-- A name of digits only has no result. -/
theorem scanBack_eq_none_of_front (hfront : front b.name = []) :
    scanBack b.s 256 (b.ilen - 1) = none := by
  refine scanBack_eq_none b.maxlen 256 fun i hi ↦ getElem?_digits ?_ ?_
  · rw [hfront]
    exact Nat.zero_le i
  · have hpos := b.pos
    rw [toNat_pred_ilen] at hi
    omega

/-- The loop stops at the end of the front. -/
theorem scanBack_front (hfront : front b.name ≠ []) :
    scanBack b.s 256 (b.ilen - 1) = some (UInt8.ofNat ((front b.name).length - 1)) := by
  have hpos := length_pos_of_ne_nil hfront
  have hle := length_front_le b
  have hilen := b.ilen.toNat_lt
  have hstop : b.s[(front b.name).length - 1]? = some ((front b.name).getLast hfront) := by
    rw [getElem?_name (by omega), getElem?_front (by omega), ← List.getLast?_eq_getElem?,
      List.getLast?_eq_some_getLast hfront]
  have hletter : isdigit ((front b.name).getLast hfront) = false :=
    Bool.eq_false_iff.mpr (rdropWhile_last_not isdigit b.name hfront)
  have hstart : b.ilen - 1 =
      UInt8.ofNat ((front b.name).length - 1 + (b.ilen.toNat - (front b.name).length)) := by
    refine UInt8.toNat_inj.mp ?_
    rw [toNat_pred_ilen, UInt8.toNat_ofNat', Nat.mod_eq_of_lt (by omega)]
    omega
  rw [hstart]
  exact scanBack_digits hstop hletter (by omega) (by omega) fun i hlow hhigh ↦
    getElem?_digits (by omega) (by omega)

/-- What `addOrIncrementTrailingDigit` has to give, when it prints a number somewhere. -/
theorem suffixed_iff_of_eq {k d : UInt8}
    (heq : addOrIncrementTrailingDigit longMax b.s b.ilen = printNumber b.s k d)
    (hk : k.toNat < b.s.length) (hwant : k.toNat < (nextName b.name).length) :
    Suffixed longMax b ↔ (nextName b.name).length < b.s.length ∧
      b.s.take k.toNat ++ dash :: decimal d.toNat = nextName b.name := by
  unfold Suffixed
  rw [heq]
  exact printNumber_iff b.maxlen hk hwant

/-- A name that has no number gets one. -/
theorem suffixed_iff_of_letter (hfront : front b.name ≠ [])
    (hlast : (front b.name).getLast? ≠ some dash) :
    Suffixed longMax b ↔ (nextName b.name).length < b.s.length := by
  have hpos := length_pos_of_ne_nil hfront
  have hle := length_front_le b
  have hilen := b.ilen.toNat_lt
  have hnumbered : ¬ Numbered b.name := fun h ↦ hlast h.1
  have hnext : nextName b.name = b.name ++ [dash] ++ decimal 1 := by
    unfold nextName nameBase nameNumber
    rw [if_neg hnumbered, if_neg hnumbered]
  have heq : addOrIncrementTrailingDigit longMax b.s b.ilen = printNumber b.s b.ilen 1 := by
    unfold addOrIncrementTrailingDigit
    rw [scanBack_front hfront]
    refine if_neg ?_
    rwa [UInt8.toNat_ofNat', Nat.mod_eq_of_lt (by omega), getElem?_name (by omega),
      getElem?_front (by omega), ← List.getLast?_eq_getElem?]
  rw [suffixed_iff_of_eq heq b.room]
  · refine and_iff_left ?_
    rw [hnext, append_assoc]
    rfl
  · rw [hnext, length_append, length_append, length_name, Nat.add_assoc]
    exact Nat.lt_add_of_pos_right (Nat.succ_pos _)

/-- The number of a name is counted up. -/
theorem suffixed_iff_of_dash (hlast : (front b.name).getLast? = some dash) :
    Suffixed longMax b ↔
      (digits b.name ≠ [] ∧ ∃ n, atoi longMax (b.s.drop (front b.name).length) = some n ∧
      (n + 1) % 256 = nameNumber b.name + 1) ∧ (nextName b.name).length < b.s.length := by
  obtain ⟨start, hstart⟩ := List.getLast?_eq_some_iff.mp hlast
  have hfront : front b.name ≠ [] := fun hnil ↦ by rw [hnil] at hlast; cases hlast
  have hpos := length_pos_of_ne_nil hfront
  have hle := length_front_le b
  have hilen := b.ilen.toNat_lt
  have hroom := b.room
  have hk : (UInt8.ofNat ((front b.name).length - 1)).toNat = (front b.name).length - 1 := by
    rw [UInt8.toNat_ofNat', Nat.mod_eq_of_lt (by omega)]
  have hdash : b.s[(front b.name).length - 1]? = some dash := by
    rw [getElem?_name (by omega), getElem?_front (by omega), ← List.getLast?_eq_getElem?, hlast]
  have hcases : addOrIncrementTrailingDigit longMax b.s b.ilen =
      match atoi longMax (b.s.drop (front b.name).length) with
      | none => none
      | some n => printNumber b.s (UInt8.ofNat ((front b.name).length - 1))
        (UInt8.ofInt (n + 1)) := by
    unfold addOrIncrementTrailingDigit
    rw [scanBack_front hfront]
    simp only [hk, hdash, if_true, Nat.sub_add_cancel hpos]
  cases hatoi : atoi longMax (b.s.drop (front b.name).length) with
  | none =>
    rw [hatoi] at hcases
    refine iff_of_false ?_ ?_
    · rintro ⟨k, s, hsome, -⟩
      rw [hcases] at hsome
      cases hsome
    · rintro ⟨⟨-, n, hsome, -⟩, -⟩
      cases hsome
  | some n =>
    rw [hatoi] at hcases
    have hbase : (front b.name).length ≤ (nameBase b.name).length := by
      unfold nameBase
      split_ifs with hnumbered
      · exact le_rfl
      · rw [length_append, length_name]
        omega
    have htake : b.s.take ((front b.name).length - 1) = start := by
      rw [← Nat.min_eq_left (Nat.sub_le _ 1), ← take_take, take_front, hstart, length_append,
        length_singleton, Nat.add_sub_cancel]
      exact take_left' rfl
    have hprinted : b.s.take (UInt8.ofNat ((front b.name).length - 1)).toNat ++
        dash :: decimal (UInt8.ofInt (n + 1)).toNat = front b.name ++
          decimal (UInt8.ofInt (n + 1)).toNat := by
      rw [hk, htake, hstart, append_assoc]
      rfl
    have hbyte : ((UInt8.ofInt (n + 1)).toNat : ℤ) = (n + 1) % 256 := by
      unfold UInt8.ofInt
      rw [UInt8.toNat_ofNat']
      omega
    have hwant : (UInt8.ofNat ((front b.name).length - 1)).toNat < (nextName b.name).length := by
      rw [hk]
      unfold nextName
      rw [length_append]
      omega
    rw [suffixed_iff_of_eq hcases (by omega) hwant, hprinted, and_comm]
    refine and_congr_left fun _ ↦ ?_
    by_cases hdigits : digits b.name = []
    · -- there is a dash already, and the next name has one more
      refine iff_of_false (fun heq ↦ ?_) fun h ↦ h.1 hdigits
      have hnumbered : ¬ Numbered b.name := fun h ↦ h.2 hdigits
      have hname : front b.name = b.name := by
        conv_rhs => rw [← front_append_digits b.name, hdigits, append_nil]
      unfold nextName nameBase at heq
      rw [if_neg hnumbered, hname, append_assoc] at heq
      have hmem : dash ∈ decimal (UInt8.ofInt (n + 1)).toNat := by
        rw [append_cancel_left heq]
        exact mem_cons_self
      exact absurd (isdigit_of_mem_decimal hmem) (by decide)
    · have hnumbered : Numbered b.name := ⟨hlast, hdigits⟩
      have hnext : nextName b.name = front b.name ++ decimal (nameNumber b.name + 1) := by
        unfold nextName nameBase
        rw [if_pos hnumbered]
      rw [hnext]
      constructor
      · intro heq
        have hnumber := decimal_injective (append_cancel_left heq)
        exact ⟨hdigits, n, rfl, by rw [← hbyte, hnumber]; rfl⟩
      · rintro ⟨-, m, hm, hnumber⟩
        obtain rfl := Option.some.inj hm
        rw [Nat.cast_inj.mp (hbyte.trans hnumber)]

/-- What `atoi` finds behind the dash of a name that has digits. -/
theorem atoi_found (hdigits : digits b.name ≠ []) : atoi longMax (b.s.drop (front b.name).length) =
    if (front b.name).length + (foundDigits b).length < b.s.length then
      some ((min (number 0 (foundDigits b)) longMax.val : ℕ) : ℤ) else none := by
  have hroom := b.room
  have hinside : (front b.name).length < b.ilen.toNat := by
    rw [← length_name, ← congrArg List.length (front_append_digits b.name), length_append]
    exact Nat.lt_add_of_pos_right (length_pos_of_ne_nil hdigits)
  obtain ⟨d, hat, hd⟩ := getElem?_digits le_rfl hinside
  obtain ⟨hlt, hget⟩ := List.getElem?_eq_some_iff.mp hat
  have hread := readDigits_eq (b.s.drop (front b.name).length) 0
  have hends : (foundDigits b).length < (b.s.drop (front b.name).length).length ↔
      (front b.name).length + (foundDigits b).length < b.s.length := by
    rw [length_drop]
    omega
  simp only [show (b.s.drop (front b.name).length).takeWhile isdigit = foundDigits b from rfl,
    hends] at hread
  rw [drop_eq_getElem_cons hlt, hget] at hread ⊢
  rw [atoi_of_isdigit longMax hd, hread]
  split_ifs <;> rfl

/-- The function does what it is for just on the names and buffers that fit. -/
theorem suffixed_iff_fits (longMax : LongMax) (b : NameBuffer) :
    Suffixed longMax b ↔ Fits longMax b := by
  by_cases hfront : front b.name = []
  · refine iff_of_false ?_ fun h ↦ h.letter hfront
    rintro ⟨k, s, hsome, -⟩
    unfold addOrIncrementTrailingDigit at hsome
    rw [scanBack_eq_none_of_front hfront] at hsome
    cases hsome
  · by_cases hlast : (front b.name).getLast? = some dash
    · rw [suffixed_iff_of_dash hlast]
      constructor
      · rintro ⟨⟨hdigits, n, hatoi, hcounts⟩, hroom⟩
        rw [atoi_found hdigits] at hatoi
        split_ifs at hatoi with hends
        obtain rfl := Option.some.inj hatoi
        exact ⟨hfront, fun _ ↦ hdigits, fun _ ↦ hends, fun _ ↦ by exact_mod_cast hcounts, hroom⟩
      · intro h
        refine ⟨⟨h.digit hlast, _, (atoi_found (h.digit hlast)).trans (if_pos (h.ends hlast)), ?_⟩,
          h.room⟩
        exact_mod_cast h.counts hlast
    · rw [suffixed_iff_of_letter hfront hlast]
      exact ⟨fun hroom ↦
        ⟨hfront, fun h ↦ absurd h hlast, fun h ↦ absurd h hlast, fun h ↦ absurd h hlast, hroom⟩,
        fun h ↦ h.room⟩

end OneName

/-! ### One name after the other -/

/-- The two callers: `rd_endpoint_name_probe_done` and `rd_node_name_probe_done`. -/
inductive Caller
  | endpoint
  | node
  deriving DecidableEq

/-- The size of `buf`. -/
def Caller.maxlen : Caller → ℕ
  | endpoint => 64
  | node => 255

/-- `buf` before the call: the name is copied over what it holds, and for a node there is a zero
behind the name. -/
def Caller.buf : Caller → List UInt8 → List UInt8 → List UInt8
  | endpoint, content, name => name ++ content.drop name.length
  | node, content, name => (name ++ content.drop name.length).set name.length 0

/-- The name is taken, and gets a new number; there is no name when an access is outside of the
buffer. -/
def nameProbeDone (longMax : LongMax) (caller : Caller) (name : Option (List UInt8))
    (content : List UInt8) : Option (List UInt8) :=
  name.bind fun name ↦
    (addOrIncrementTrailingDigit longMax (caller.buf content name) (UInt8.ofNat name.length)).map
      fun new ↦
      new.2.take new.1.toNat

/-- A name has room in a buffer, and fits. -/
def Allowed (longMax : LongMax) (caller : Caller) (name : Option (List UInt8))
    (content : List UInt8) : Prop :=
  content.length = caller.maxlen ∧
    ∃ b : NameBuffer, name = some b.name ∧ b.s = caller.buf content b.name ∧ Fits longMax b

section Run

variable {longMax : LongMax} {caller : Caller} {name : Option (List UInt8)}

/-- An allowed step gives the next name. -/
theorem nameProbeDone_of_allowed {content : List UInt8}
    (hallowed : Allowed longMax caller name content) :
    nameProbeDone longMax caller name content = name.map nextName := by
  obtain ⟨-, b, rfl, hbuf, hfits⟩ := hallowed
  obtain ⟨k, s, hsome, -, htake, -⟩ := (suffixed_iff_fits longMax b).mpr hfits
  have hilen : UInt8.ofNat b.name.length = b.ilen := by rw [length_name, UInt8.ofNat_toNat]
  show (addOrIncrementTrailingDigit longMax (caller.buf content b.name)
    (UInt8.ofNat b.name.length)).map _ = _
  rw [← hbuf, hilen, hsome]
  exact congrArg some htake

/-- The number of a name is that of the first one plus the number of steps. -/
theorem nameNumber_run {inputs : List (List UInt8)}
    (hall : AllSteps (nameProbeDone longMax caller) (Allowed longMax caller) name inputs) :
    (run (nameProbeDone longMax caller) name inputs).map nameNumber =
      name.map fun name ↦ nameNumber name + inputs.length := by
  induction inputs generalizing name with
  | nil => rfl
  | cons content rest ih =>
    obtain ⟨hallowed, hrest⟩ := hall
    rw [run_cons, ih hrest, nameProbeDone_of_allowed hallowed, Option.map_map]
    congr 1
    funext name
    show nameNumber (nextName name) + _ = _
    rw [nameNumber_nextName, length_cons, Nat.add_assoc, Nat.add_comm 1]

/-- The number of steps that it takes to a name is different for every name. -/
theorem run_ne_run {earlier later : List (List UInt8)} (hlater : later ≠ [])
    (hall : AllSteps (nameProbeDone longMax caller) (Allowed longMax caller) name
      (earlier ++ later)) :
    run (nameProbeDone longMax caller) name (earlier ++ later) ≠ run
      (nameProbeDone longMax caller) name earlier := by
  intro heq
  have hfirst := (allSteps_append ..).mp hall
  have hnumber := congrArg (Option.map nameNumber) heq
  rw [nameNumber_run hall, nameNumber_run hfirst.1] at hnumber
  cases name with
  | none =>
    cases hcases : earlier ++ later with
    | nil => exact hlater (append_eq_nil_iff.mp hcases).2
    | cons content rest =>
      rw [hcases] at hall
      obtain ⟨⟨-, b, hb, -⟩, -⟩ := hall
      cases hb
  | some name =>
    have hlength : nameNumber name + (earlier ++ later).length = nameNumber name + earlier.length :=
      Option.some.inj hnumber
    rw [length_append] at hlength
    exact hlater (length_eq_zero_iff.mp (by omega))

end Run

/-- The function gives the next name, inside the buffer, just when the name and the buffer fit; and
in every run in which they do, no name is there twice. -/
theorem suffixes_iff (longMax : LongMax) : (∀ b : NameBuffer, Suffixed longMax b ↔ Fits longMax b) ∧
    ∀ (caller : Caller) (name : List UInt8) (earlier later : List (List UInt8)), later ≠ [] →
      AllSteps (nameProbeDone longMax caller) (Allowed longMax caller) (some name)
      (earlier ++ later) → run (nameProbeDone longMax caller) (some name) (earlier ++ later) ≠
        run (nameProbeDone longMax caller) (some name) earlier :=
  ⟨suffixed_iff_fits longMax, fun _ _ _ _ hlater hall ↦ run_ne_run hlater hall⟩

/-- A name of digits only, as a client may set it: the loop reads behind the buffer. -/
theorem suffixed_fail : ¬ ∀ (longMax : LongMax) (b : NameBuffer), Suffixed longMax b := by
  intro hsuffixed
  let b : NameBuffer := ⟨49 :: List.replicate 63 0, 1, by decide, by decide, by decide⟩
  obtain ⟨k, s, hsome, -⟩ := hsuffixed ⟨2147483647, le_rfl⟩ b
  have hnone :
      addOrIncrementTrailingDigit ⟨2147483647, le_rfl⟩ b.s b.ilen = none := by decide +kernel
  rw [hnone] at hsome
  cases hsome

end ZipGateway.ResourceDirectory.NameSuffix
