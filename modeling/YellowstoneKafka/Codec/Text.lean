import Mathlib.Data.Nat.Digits

/-!
# Byte strings as the Rust standard library reads and writes them

A Kafka record key travels as bytes. `grpc2kafka` writes it with `format!`, and `dedup` reads it
back through `String::from_utf8`, `str::split_once` and `<u64 as FromStr>::from_str`. These are
modelled here on `List UInt8`, byte for byte. Rendering a `u64` gives ASCII digits that parse
back to the same value, and the strings that parse to a value are exactly its rendering behind
an optional `+` and any number of leading zeros.
-/

namespace YellowstoneKafka

/-! ## `String::from_utf8` -/

/-- A continuation byte, `0x80..=0xBF`. -/
def isCont (c : UInt8) : Bool := 0x80 ≤ c.toNat && c.toNat ≤ 0xBF

/-- `core::str::utf8_char_width`, zero for a byte no character starts with. -/
def utf8CharWidth (b : Nat) : Nat :=
  if 0xC2 ≤ b ∧ b ≤ 0xDF then 2
  else if 0xE0 ≤ b ∧ b ≤ 0xEF then 3
  else if 0xF0 ≤ b ∧ b ≤ 0xF4 then 4
  else 0

/-- The `(first, next)` ranges of a three-byte character: no overlong form, no surrogate. -/
def secondOf3 (b c : Nat) : Bool :=
  (b = 0xE0 ∧ 0xA0 ≤ c ∧ c ≤ 0xBF) ∨ (0xE1 ≤ b ∧ b ≤ 0xEC ∧ 0x80 ≤ c ∧ c ≤ 0xBF) ∨
    (b = 0xED ∧ 0x80 ≤ c ∧ c ≤ 0x9F) ∨ (0xEE ≤ b ∧ b ≤ 0xEF ∧ 0x80 ≤ c ∧ c ≤ 0xBF)

/-- The `(first, next)` ranges of a four-byte character: nothing past `U+10FFFF`. -/
def secondOf4 (b c : Nat) : Bool :=
  (b = 0xF0 ∧ 0x90 ≤ c ∧ c ≤ 0xBF) ∨ (0xF1 ≤ b ∧ b ≤ 0xF3 ∧ 0x80 ≤ c ∧ c ≤ 0xBF) ∨
    (b = 0xF4 ∧ 0x80 ≤ c ∧ c ≤ 0x8F)

/-- `core::str::run_utf8_validation`, one character at a time: `String::from_utf8` returns
`Ok` exactly on the byte strings it accepts. -/
def validUtf8 : List UInt8 → Bool
  | [] => true
  | b :: bs =>
    if b.toNat < 0x80 then validUtf8 bs
    else match utf8CharWidth b.toNat, bs with
      | 2, c :: bs => isCont c && validUtf8 bs
      | 3, c :: d :: bs => secondOf3 b.toNat c.toNat && isCont d && validUtf8 bs
      | 4, c :: d :: e :: bs =>
        secondOf4 b.toNat c.toNat && isCont d && isCont e && validUtf8 bs
      | _, _ => false

theorem validUtf8_of_ascii {bs : List UInt8} (h : ∀ b ∈ bs, b.toNat < 0x80) :
    validUtf8 bs = true := by
  induction bs with
  | nil => rfl
  | cons b bs ih =>
    rw [List.forall_mem_cons] at h
    conv_lhs => unfold validUtf8
    rw [if_pos h.1, ih h.2]

/-! ## `str::split_once` -/

/-- `str::split_once` on an ASCII separator: the bytes before and after its first occurrence.
An ASCII byte never occurs inside a multi-byte character, so bytes and characters agree. -/
def splitOnce (sep : UInt8) : List UInt8 → Option (List UInt8 × List UInt8)
  | [] => none
  | c :: cs => if c = sep then some ([], cs) else (splitOnce sep cs).map fun p => (c :: p.1, p.2)

theorem splitOnce_eq_some {sep : UInt8} {l a b : List UInt8} :
    splitOnce sep l = some (a, b) ↔ l = a ++ sep :: b ∧ sep ∉ a := by
  induction l generalizing a with
  | nil => simp [splitOnce]
  | cons c cs ih =>
    by_cases hc : c = sep
    · subst hc
      cases a with
      | nil => simp [splitOnce, eq_comm]
      | cons a as =>
        simp [splitOnce, eq_comm]
        exact fun h1 _ h3 => absurd h1 h3
    · rw [show splitOnce sep (c :: cs) = (splitOnce sep cs).map fun p => (c :: p.1, p.2) from
        if_neg hc]
      cases a with
      | nil => simp [hc]
      | cons a as =>
        constructor
        · intro h
          obtain ⟨⟨a', b'⟩, hs, he⟩ := Option.map_eq_some'.mp h
          simp only [Prod.mk.injEq, List.cons.injEq] at he
          obtain ⟨⟨rfl, rfl⟩, rfl⟩ := he
          obtain ⟨h1, h2⟩ := ih.mp hs
          simp [h1, h2, Ne.symm hc]
        · rintro ⟨h1, h2⟩
          simp only [List.cons_append, List.cons.injEq, List.mem_cons, not_or] at h1 h2
          obtain ⟨rfl, h1⟩ := h1
          simp [ih.mpr ⟨h1, h2.2⟩]

/-! ## `<u64 as Display>::fmt` -/

/-- A decimal digit byte, `'0'..='9'`. -/
def isDigit (c : UInt8) : Bool := 48 ≤ c.toNat && c.toNat ≤ 57

/-- The ASCII byte of a digit value. -/
def digitByte (d : Nat) : UInt8 := Nat.toUInt8 (48 + d)

/-- `<u64 as Display>::fmt`: the decimal digits of `n`, most significant first, no sign and no
leading zero. -/
def decimal (n : Nat) : List UInt8 :=
  if n = 0 then [digitByte 0] else ((Nat.digits 10 n).map digitByte).reverse

theorem toNat_digitByte {d : Nat} (h : d < 10) : (digitByte d).toNat = 48 + d :=
  UInt8.toNat_ofNat_of_lt (by simp only [UInt8.size]; omega)

theorem mem_decimal {n : Nat} {c : UInt8} (h : c ∈ decimal n) :
    ∃ d < 10, c = digitByte d := by
  unfold decimal at h
  split at h
  · exact ⟨0, by omega, List.mem_singleton.mp h⟩
  · obtain ⟨d, hd, rfl⟩ := List.mem_map.mp (List.mem_reverse.mp h)
    exact ⟨d, Nat.digits_lt_base (by omega) hd, rfl⟩

theorem isDigit_of_mem_decimal {n : Nat} {c : UInt8} (h : c ∈ decimal n) : isDigit c := by
  obtain ⟨d, hd, rfl⟩ := mem_decimal h
  simp [isDigit, toNat_digitByte hd]; omega

theorem decimal_ne_nil (n : Nat) : decimal n ≠ [] := by
  unfold decimal
  split
  · simp
  · simpa [Nat.digits_eq_nil_iff_eq_zero]

/-! ## `<u64 as FromStr>::from_str` -/

/-- `char::to_digit(10)` on one byte. -/
def toDigit (c : UInt8) : Option Nat := if isDigit c then some (c.toNat - 48) else none

/-- The digit loop of `u64::from_str_radix(src, 10)`. Each digit goes through `checked_mul`
and `checked_add`, so a value past `u64::MAX` at any point is an error. -/
def accumulate (acc : Nat) : List UInt8 → Option Nat
  | [] => some acc
  | c :: cs => (toDigit c).bind fun d =>
    if acc * 10 + d < UInt64.size then accumulate (acc * 10 + d) cs else none

/-- `<u64 as FromStr>::from_str`: an optional `+` (a sign alone is an error; `-` is an invalid
digit for an unsigned type), then decimal digits. Leading zeros are accepted. -/
def fromStr (src : List UInt8) : Option UInt64 :=
  match src with
  | [] => none
  | c :: rest =>
    if (c = 43 ∨ c = 45) ∧ rest = [] then none
    else (accumulate 0 (if c = 43 then rest else src)).map UInt64.ofNat

/-- The value the digit loop computes when no check fails. -/
def digitsValue (acc : Nat) (ds : List UInt8) : Nat :=
  ds.foldl (fun a c => a * 10 + (c.toNat - 48)) acc

theorem digitsValue_cons (acc : Nat) (c : UInt8) (cs : List UInt8) :
    digitsValue acc (c :: cs) = digitsValue (acc * 10 + (c.toNat - 48)) cs := rfl

theorem le_digitsValue (acc : Nat) (ds : List UInt8) : acc ≤ digitsValue acc ds := by
  induction ds generalizing acc with
  | nil => exact le_rfl
  | cons c cs ih => exact le_trans (by nlinarith) (ih (acc * 10 + (c.toNat - 48)))

/-- The spec of the digit loop: it fails exactly on a non-digit or on a value past `u64::MAX`;
the checks on intermediate values add nothing, as the value only grows. -/
theorem accumulate_eq {acc : Nat} (ds : List UInt8) (h : acc < UInt64.size) :
    accumulate acc ds =
      if (∀ c ∈ ds, isDigit c) ∧ digitsValue acc ds < UInt64.size then some (digitsValue acc ds)
      else none := by
  induction ds generalizing acc with
  | nil => simp [accumulate, digitsValue, h]
  | cons c cs ih =>
    have hv := le_digitsValue (acc * 10 + (c.toNat - 48)) cs
    by_cases hc : isDigit c
    · by_cases hb : acc * 10 + (c.toNat - 48) < UInt64.size
      · simp [accumulate, toDigit, hc, hb, ih hb, digitsValue_cons]
      · have : ¬ digitsValue (acc * 10 + (c.toNat - 48)) cs < UInt64.size := by omega
        simp [accumulate, toDigit, hc, hb, digitsValue_cons, this]
    · simp [accumulate, toDigit, hc]

theorem digitsValue_append_singleton (acc : Nat) (ds : List UInt8) (c : UInt8) :
    digitsValue acc (ds ++ [c]) = digitsValue acc ds * 10 + (c.toNat - 48) := by
  simp [digitsValue, List.foldl_append]

theorem digitsValue_replicate_zero (z : Nat) (ds : List UInt8) :
    digitsValue 0 (List.replicate z 48 ++ ds) = digitsValue 0 ds := by
  induction z with
  | zero => rfl
  | succ z ih => simpa [digitsValue] using ih

/-- Reading back digit bytes written least significant first gives `Nat.ofDigits`. -/
theorem digitsValue_reverse_map (L : List Nat) (h : ∀ d ∈ L, d < 10) :
    digitsValue 0 (L.map digitByte).reverse = Nat.ofDigits 10 L := by
  induction L with
  | nil => rfl
  | cons d L ih =>
    simp only [List.mem_cons, forall_eq_or_imp] at h
    simp [digitsValue_append_singleton, ih h.2, toNat_digitByte h.1, Nat.ofDigits_cons]
    ring

theorem digitsValue_decimal (n : Nat) : digitsValue 0 (decimal n) = n := by
  unfold decimal
  split
  · simp [digitsValue, toNat_digitByte, *]
  · rw [digitsValue_reverse_map _ fun d hd => Nat.digits_lt_base (by omega) hd,
      Nat.ofDigits_digits]

theorem fromStr_signed (plus : Bool) (z : Nat) (v : UInt64) :
    fromStr ((if plus then [43] else []) ++ List.replicate z 48 ++ decimal v.toNat) = some v := by
  have hv := v.toNat_lt_size
  have hdig : ∀ c ∈ List.replicate z 48 ++ decimal v.toNat, isDigit c := by
    intro c hc
    rcases List.mem_append.mp hc with hc | hc
    · rw [(List.mem_replicate.mp hc).2]; rfl
    · exact isDigit_of_mem_decimal hc
  have hacc : accumulate 0 (List.replicate z 48 ++ decimal v.toNat) = some v.toNat := by
    rw [accumulate_eq _ (by decide), digitsValue_replicate_zero, digitsValue_decimal,
      if_pos ⟨hdig, hv⟩]
  have hne := decimal_ne_nil v.toNat
  have hv' : UInt64.ofNat v.toNat = v := UInt64.toNat.inj (UInt64.toNat_ofNat_of_lt hv)
  cases plus with
  | true =>
    obtain ⟨c, cs, hcs⟩ := List.exists_cons_of_ne_nil
      (by simp [hne] : List.replicate z (48 : UInt8) ++ decimal v.toNat ≠ [])
    rw [hcs] at hacc
    simp [fromStr, hacc, hcs, hv']
  | false =>
    obtain ⟨c, cs, hcs⟩ := List.exists_cons_of_ne_nil
      (by simp [hne] : List.replicate z (48 : UInt8) ++ decimal v.toNat ≠ [])
    have hc : isDigit c := hdig c (by rw [hcs]; exact List.mem_cons_self c cs)
    have h43 : c ≠ 43 := by rintro rfl; exact absurd hc (by decide)
    have h45 : c ≠ 45 := by rintro rfl; exact absurd hc (by decide)
    simp only [Bool.false_eq_true, ↓reduceIte, List.nil_append]
    rw [hcs] at hacc ⊢
    simp [fromStr, h43, h45, hacc, hv']

/-- A rendered `u64` parses back to itself. -/
theorem fromStr_decimal (v : UInt64) : fromStr (decimal v.toNat) = some v :=
  fromStr_signed false 0 v

theorem digitByte_toNat_sub {c : UInt8} (hc : isDigit c) : digitByte (c.toNat - 48) = c := by
  simp only [isDigit, Bool.and_eq_true, decide_eq_true_eq] at hc
  exact UInt8.toNat.inj (by rw [toNat_digitByte (by omega)]; omega)

/-- A digit string with no leading zero is the rendering of its value. -/
theorem decimal_digitsValue {c : UInt8} {cs : List UInt8} (hd : ∀ x ∈ c :: cs, isDigit x)
    (hc : c.toNat ≠ 48) : decimal (digitsValue 0 (c :: cs)) = c :: cs := by
  have hdig : ∀ x ∈ c :: cs, x.toNat - 48 < 10 := fun x hx => by
    have := hd x hx; simp only [isDigit, Bool.and_eq_true, decide_eq_true_eq] at this; omega
  set L := ((c :: cs).map fun x => x.toNat - 48).reverse with hL
  have hLt : ∀ d ∈ L, d < 10 := by
    simp only [hL, List.mem_reverse, List.mem_map]
    rintro d ⟨x, hx, rfl⟩; exact hdig x hx
  have hback : (L.map digitByte).reverse = c :: cs := by
    simp only [hL, List.map_reverse, List.reverse_reverse, List.map_map]
    exact (List.map_congr_left fun x hx => digitByte_toNat_sub (hd x hx)).trans (List.map_id _)
  have hlast : ∀ h : L ≠ [], L.getLast h ≠ 0 := fun h => by
    have hc' := hd c (List.mem_cons_self c cs)
    simp only [isDigit, Bool.and_eq_true, decide_eq_true_eq] at hc'
    simp only [hL, List.getLast_reverse, List.map_cons, List.head_cons]; omega
  have hdigits := Nat.digits_ofDigits 10 (by norm_num) L hLt hlast
  have hne : L ≠ [] := by simp [hL]
  have hpos : Nat.ofDigits 10 L ≠ 0 := fun h0 => hne (by rw [← hdigits, h0, Nat.digits_zero])
  rw [← hback, digitsValue_reverse_map L hLt, decimal, if_neg hpos, hdigits]

/-- A nonempty digit string is its value's rendering behind leading zeros. -/
theorem eq_zeros_decimal {ds : List UInt8} (hne : ds ≠ []) (hd : ∀ x ∈ ds, isDigit x) :
    ∃ z, ds = List.replicate z 48 ++ decimal (digitsValue 0 ds) := by
  induction ds with
  | nil => exact absurd rfl hne
  | cons c cs ih =>
    by_cases hc : c.toNat = 48
    · have h48 : c = 48 := UInt8.toNat.inj hc
      subst h48
      by_cases hcs : cs = []
      · subst hcs; exact ⟨0, rfl⟩
      · obtain ⟨z, hz⟩ := ih hcs fun x hx => hd x (List.mem_cons_of_mem _ hx)
        refine ⟨z + 1, ?_⟩
        rw [digitsValue_cons, show (0 * 10 + ((48 : UInt8).toNat - 48)) = 0 from rfl]
        conv_lhs => rw [hz]
        rfl
    · exact ⟨0, (decimal_digitsValue hd hc).symm⟩

/-- What the digit loop accepts from zero: a value's rendering behind leading zeros. -/
theorem accumulate_eq_some {ds : List UInt8} {n : Nat} (hne : ds ≠ [])
    (h : accumulate 0 ds = some n) :
    n < UInt64.size ∧ ∃ z, ds = List.replicate z 48 ++ decimal n := by
  rw [accumulate_eq _ (by decide)] at h
  split_ifs at h with hok
  cases h
  exact ⟨hok.2, eq_zeros_decimal hne hok.1⟩

/-- The strings `u64::from_str` accepts for `v`: its rendering behind an optional `+` and any
number of leading zeros. -/
theorem fromStr_eq_some {src : List UInt8} {v : UInt64} :
    fromStr src = some v ↔ ∃ (plus : Bool) (z : Nat),
      src = (if plus then [43] else []) ++ List.replicate z 48 ++ decimal v.toNat := by
  refine ⟨fun h => ?_, fun ⟨plus, z, hs⟩ => hs ▸ fromStr_signed plus z v⟩
  cases src with
  | nil => cases h
  | cons c rest =>
    simp only [fromStr] at h
    split_ifs at h with hsign h43
    all_goals obtain ⟨n, hn, rfl⟩ := Option.map_eq_some'.mp h
    · obtain ⟨hlt, z, hz⟩ := accumulate_eq_some (by rintro rfl; exact hsign ⟨.inl h43, rfl⟩) hn
      exact ⟨true, z, by simp [h43, hz, UInt64.toNat_ofNat_of_lt hlt]⟩
    · obtain ⟨hlt, z, hz⟩ := accumulate_eq_some (List.cons_ne_nil c rest) hn
      exact ⟨false, z, by simpa [UInt64.toNat_ofNat_of_lt hlt] using hz⟩

end YellowstoneKafka
