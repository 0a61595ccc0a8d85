import YellowstoneKafka.Codec.Text

/-!
# `const_hex` encoding and decoding

`grpc2kafka` writes the digest of a payload with `const_hex::encode`, two lowercase digits per
byte; `dedup` reads it back with `const_hex::decode_to_slice` into a 32-byte buffer. The decoder
is more liberal than the encoder: it takes either case and drops a leading `0x` or `0X`. The
strings it accepts for a byte string are exactly the encoding, up to the case of each letter and
that prefix. The crate is not pinned in the sources; the model follows `const-hex` 1.19.3, the
version a build resolves.
-/

namespace YellowstoneKafka

/-- A digit of `const_hex`'s lowercase alphabet `0123456789abcdef`, by value. -/
def hexDigit (n : Nat) : UInt8 := if n < 10 then Nat.toUInt8 (48 + n) else Nat.toUInt8 (87 + n)

/-- `const_hex::encode`: two lowercase digits per byte, the high nibble first, no prefix. -/
def encode (bytes : List UInt8) : List UInt8 :=
  bytes.flatMap fun b => [hexDigit (b.toNat / 16), hexDigit (b.toNat % 16)]

/-- The value of one digit in `const_hex`'s decoding table: either case, nothing else. -/
def unhex (c : UInt8) : Option Nat :=
  if 48 ≤ c.toNat ∧ c.toNat ≤ 57 then some (c.toNat - 48)
  else if 97 ≤ c.toNat ∧ c.toNat ≤ 102 then some (c.toNat - 87)
  else if 65 ≤ c.toNat ∧ c.toNat ≤ 70 then some (c.toNat - 55)
  else none

/-- `const_hex`'s `decode_checked`: digit pairs to bytes; any invalid digit is an error. -/
def decodePairs : List UInt8 → Option (List UInt8)
  | [] => some []
  | [_] => none
  | hi :: lo :: rest => do
    let h ← unhex hi
    let l ← unhex lo
    let bytes ← decodePairs rest
    pure (Nat.toUInt8 (16 * h + l) :: bytes)

/-- `const_hex`'s `strip_prefix`: a leading `0x` or `0X` is dropped. -/
def stripPrefix : List UInt8 → List UInt8
  | a :: b :: rest => if a = 48 ∧ (b = 120 ∨ b = 88) then rest else a :: b :: rest
  | bytes => bytes

/-- The prefixes `strip_prefix` drops: none, `0x` and `0X`. -/
def hexPrefixes : List (List UInt8) := [[], [48, 120], [48, 88]]

/-- `const_hex::decode_to_slice` into a buffer of `n` bytes: an odd length is refused before
the prefix is stripped, and the digits left must fill the buffer exactly. -/
def decodeToSlice (input : List UInt8) (n : Nat) : Option (List UInt8) :=
  if input.length % 2 ≠ 0 then none
  else if n ≠ (stripPrefix input).length / 2 then none
  else decodePairs (stripPrefix input)

/-- `u8::to_ascii_lowercase`, used only to state which inputs the decoder accepts. -/
def toAsciiLowercase (c : UInt8) : UInt8 :=
  if 65 ≤ c.toNat ∧ c.toNat ≤ 90 then Nat.toUInt8 (c.toNat + 32) else c

theorem toNat_hexDigit {n : Nat} (h : n < 16) :
    (hexDigit n).toNat = if n < 10 then 48 + n else 87 + n := by
  unfold hexDigit
  split <;> exact UInt8.toNat_ofNat_of_lt (by simp only [UInt8.size]; omega)

theorem toNat_toAsciiLowercase (c : UInt8) :
    (toAsciiLowercase c).toNat = if 65 ≤ c.toNat ∧ c.toNat ≤ 90 then c.toNat + 32 else c.toNat := by
  unfold toAsciiLowercase
  have := c.toNat_lt_size
  split
  · exact UInt8.toNat_ofNat_of_lt (by simp only [UInt8.size] at *; omega)
  · rfl

theorem length_encode (bytes : List UInt8) : (encode bytes).length = 2 * bytes.length := by
  induction bytes with
  | nil => rfl
  | cons b bs ih => simp [encode] at ih ⊢; omega

/-- An encoded digit reads back as its value. -/
theorem unhex_hexDigit {n : Nat} (h : n < 16) : unhex (hexDigit n) = some n := by
  have hdigits : ∀ m : Fin 16, unhex (hexDigit m) = some m := by decide
  exact hdigits ⟨n, h⟩

/-- A digit the decoder reads as `n` lowercases to the encoder's digit for `n`. -/
theorem toAsciiLowercase_of_unhex {c : UInt8} {n : Nat} (h : unhex c = some n) :
    n < 16 ∧ toAsciiLowercase c = hexDigit n := by
  unfold unhex at h
  split_ifs at h <;> cases h <;> refine ⟨by omega, UInt8.toNat.inj ?_⟩ <;>
    rw [toNat_toAsciiLowercase, toNat_hexDigit (by omega)] <;> split_ifs <;> omega

/-- A digit that lowercases to the encoder's digit for `n` reads back as `n`. -/
theorem unhex_of_toAsciiLowercase {c : UInt8} {n : Nat} (hn : n < 16)
    (h : toAsciiLowercase c = hexDigit n) : unhex c = some n := by
  have h' := congrArg UInt8.toNat h
  rw [toNat_toAsciiLowercase, toNat_hexDigit hn] at h'
  unfold unhex
  split_ifs at h' ⊢ <;> first | omega | (congr 1; omega)

theorem byte_nibbles (b : UInt8) : Nat.toUInt8 (16 * (b.toNat / 16) + b.toNat % 16) = b := by
  rw [Nat.div_add_mod]; exact UInt8.toNat.inj (UInt8.toNat_ofNat_of_lt b.toNat_lt_size)

/-- The decoder accepts exactly the case variants of the encoding. -/
theorem decodePairs_eq_some {hex bytes : List UInt8} :
    decodePairs hex = some bytes ↔ hex.map toAsciiLowercase = encode bytes := by
  induction bytes generalizing hex with
  | nil =>
    match hex with
    | [] => simp [decodePairs, encode]
    | [_] => simp [decodePairs, encode]
    | hi :: lo :: rest =>
      simp only [decodePairs, Option.bind_eq_bind, List.map_cons, encode, List.flatMap_nil,
        reduceCtorEq, iff_false]
      cases unhex hi <;> cases unhex lo <;> cases decodePairs rest <;> simp
  | cons b bs ih =>
    have hb := b.toNat_lt_size
    simp only [UInt8.size] at hb
    match hex with
    | [] => simp [decodePairs, encode]
    | [_] => simp [decodePairs, encode]
    | hi :: lo :: rest =>
      have henc : encode (b :: bs) = hexDigit (b.toNat / 16) :: hexDigit (b.toNat % 16) ::
          encode bs := rfl
      rw [henc]
      simp only [List.map_cons, List.cons.injEq, ← ih]
      constructor
      · intro h
        simp only [decodePairs, Option.bind_eq_bind, Option.bind_eq_some, Option.pure_def,
          Option.some.injEq] at h
        obtain ⟨x, hx, y, hy, r, hr, he⟩ := h
        obtain ⟨hx16, hxl⟩ := toAsciiLowercase_of_unhex hx
        obtain ⟨hy16, hyl⟩ := toAsciiLowercase_of_unhex hy
        obtain ⟨rfl, rfl⟩ := List.cons.inj he
        have hval : (Nat.toUInt8 (16 * x + y)).toNat = 16 * x + y :=
          UInt8.toNat_ofNat_of_lt (by simp only [UInt8.size]; omega)
        refine ⟨?_, ?_, hr⟩
        · rw [hxl, hval]; congr 1; omega
        · rw [hyl, hval]; congr 1; omega
      · rintro ⟨hhi, hlo, hr⟩
        simp [decodePairs, unhex_of_toAsciiLowercase (by omega) hhi,
          unhex_of_toAsciiLowercase (by omega) hlo, hr, byte_nibbles]

theorem decodePairs_encode (bytes : List UInt8) : decodePairs (encode bytes) = some bytes := by
  refine decodePairs_eq_some.mpr ?_
  refine (List.map_congr_left fun c hc => ?_).trans (List.map_id _)
  obtain ⟨b, -, hc⟩ := List.mem_flatMap.mp hc
  have hb := b.toNat_lt_size
  simp only [UInt8.size] at hb
  rcases List.mem_pair.mp hc with rfl | rfl <;>
    exact (toAsciiLowercase_of_unhex (unhex_hexDigit (by omega))).2

theorem hexDigit_ne_x {n : Nat} (h : n < 16) : hexDigit n ≠ 120 := fun he => by
  have := congrArg UInt8.toNat he
  rw [toNat_hexDigit h, show (120 : UInt8).toNat = 120 from rfl] at this
  split_ifs at this <;> omega

/-- A case variant of an encoding has no prefix to strip: `x` and `X` both lowercase to `x`,
which is no hex digit. -/
theorem stripPrefix_of_map_eq_encode {hex bytes : List UInt8}
    (h : hex.map toAsciiLowercase = encode bytes) : stripPrefix hex = hex := by
  match hex, bytes, h with
  | [], _, _ => rfl
  | [_], _, _ => rfl
  | a :: c :: rest, b :: bs, h =>
    have hb := b.toNat_lt_size
    simp only [UInt8.size] at hb
    have hc : toAsciiLowercase c = hexDigit (b.toNat % 16) := (List.cons.inj (List.cons.inj h).2).1
    have hx : ¬(c = 120 ∨ c = 88) := by
      rintro (rfl | rfl) <;>
        exact hexDigit_ne_x (n := b.toNat % 16) (by omega) (hc.symm.trans (by decide))
    simp [stripPrefix, hx]

theorem stripPrefix_eq (input : List UInt8) :
    ∃ pre ∈ hexPrefixes, input = pre ++ stripPrefix input := by
  match input with
  | [] => exact ⟨[], by simp [hexPrefixes], rfl⟩
  | [_] => exact ⟨[], by simp [hexPrefixes], rfl⟩
  | a :: c :: rest =>
    by_cases h : a = 48 ∧ (c = 120 ∨ c = 88)
    · obtain ⟨rfl, rfl | rfl⟩ := h
      · exact ⟨[48, 120], by simp [hexPrefixes], by simp [stripPrefix]⟩
      · exact ⟨[48, 88], by simp [hexPrefixes], by simp [stripPrefix]⟩
    · exact ⟨[], by simp [hexPrefixes], by simp [stripPrefix, h]⟩

/-- The strings `decode_to_slice` accepts for an `n`-byte buffer: the encoding of `n` bytes up to
the case of each letter, behind an optional `0x` or `0X`. -/
theorem decodeToSlice_eq_some {input bytes : List UInt8} {n : Nat} :
    decodeToSlice input n = some bytes ↔ bytes.length = n ∧ ∃ pre ∈ hexPrefixes,
      ∃ hex : List UInt8, input = pre ++ hex ∧ hex.map toAsciiLowercase = encode bytes := by
  constructor
  · intro h
    unfold decodeToSlice at h
    split_ifs at h with hodd hn
    have hmap := decodePairs_eq_some.mp h
    have hlen := congrArg List.length hmap
    rw [List.length_map, length_encode] at hlen
    obtain ⟨pre, hpre, hsplit⟩ := stripPrefix_eq input
    exact ⟨by omega, pre, hpre, _, hsplit, hmap⟩
  · rintro ⟨rfl, pre, hpre, hex, rfl, hmap⟩
    have hlen := congrArg List.length hmap
    rw [List.length_map, length_encode] at hlen
    have hstrip : stripPrefix (pre ++ hex) = hex ∧ pre.length % 2 = 0 := by
      simp only [hexPrefixes, List.mem_cons, List.not_mem_nil, or_false] at hpre
      rcases hpre with rfl | rfl | rfl
      · exact ⟨stripPrefix_of_map_eq_encode hmap, rfl⟩
      · exact ⟨by simp [stripPrefix], rfl⟩
      · exact ⟨by simp [stripPrefix], rfl⟩
    have heven : (pre ++ hex).length % 2 = 0 := by rw [List.length_append]; omega
    simp only [decodeToSlice, heven, hstrip.1, ne_eq, not_true_eq_false, if_false, hlen,
      decodePairs_eq_some.mpr hmap]
    simp

theorem decodeToSlice_encode (bytes : List UInt8) :
    decodeToSlice (encode bytes) bytes.length = some bytes :=
  decodeToSlice_eq_some.mpr ⟨rfl, [], by simp [hexPrefixes], encode bytes, rfl,
    decodePairs_eq_some.mp (decodePairs_encode bytes)⟩

end YellowstoneKafka
