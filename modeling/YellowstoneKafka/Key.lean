import YellowstoneKafka.Codec.Hex

/-!
# Record keys

`grpc2kafka` keys each record `{slot}_{hex}`, where `hex` is the lowercase hex of the SHA-256 of
the payload. `dedup` takes a consumed message apart before it spawns a publish task: the key must
be UTF-8, split at its first `_` into a `u64` and 64 hex digits, and the payload must be present.
The digest function is a parameter of the keying: every statement here holds for any function
into 32-byte strings, SHA-256 among them.

The parse undoes the keying on every key `grpc2kafka` writes. It is not injective: the standard
library and `const_hex` accept a `+` sign, leading zeros, uppercase digits and a `0x` or `0X`
prefix, so several keys parse to the pair `(slot, hash)`.
-/

namespace YellowstoneKafka

/-- A SHA-256 digest, `GenericArray<u8, U32>`: exactly 32 bytes. -/
structure Digest where
  bytes : List UInt8
  length_eq : bytes.length = 32
  deriving DecidableEq, Repr

/-- The `[u8; 32]` buffer `dedup` decodes into, once `decode_to_slice` has filled it. -/
def Digest.ofBytes? (bytes : List UInt8) : Option Digest :=
  if h : bytes.length = 32 then some ⟨bytes, h⟩ else none

theorem Digest.ofBytes?_bytes (d : Digest) : Digest.ofBytes? d.bytes = some d := by
  simp [Digest.ofBytes?, d.length_eq]

/-- `format!("{slot}_{}", const_hex::encode(hash))`, the key `grpc2kafka` writes. -/
def recordKey (slot : UInt64) (hash : Digest) : List UInt8 :=
  decimal slot.toNat ++ 95 :: encode hash.bytes

/-- The key parse of `dedup`: `split_once('_')`, `parse::<u64>()` of the left part, then
`const_hex::decode_to_slice` of the right part into a 32-byte buffer. -/
def parseKey (key : List UInt8) : Option (UInt64 × Digest) := do
  let (slot, hash) ← splitOnce 95 key
  let slot ← fromStr slot
  let bytes ← decodeToSlice hash 32
  let hash ← Digest.ofBytes? bytes
  pure (slot, hash)

/-- A Kafka message as a stream consumer yields it: `key()` and `payload()` are optional. -/
structure Message where
  key : Option (List UInt8)
  payload : Option (List UInt8)
  deriving DecidableEq, Repr

/-- What a publish task of `dedup` captures: the key as a `String`, the payload and the parsed
pair it asks the backend about. -/
structure Keyed where
  key : List UInt8
  payload : List UInt8
  slot : UInt64
  hash : Digest
  deriving DecidableEq, Repr

/-- The checks `dedup` makes on a consumed message before it spawns a task; `none` is one of
its `continue`s. The key must pass `String::from_utf8` and `parseKey`, and a payload is needed. -/
def Message.keyed (m : Message) : Option Keyed :=
  match m.key.filter validUtf8, m.payload with
  | some key, some payload => (parseKey key).map fun p => ⟨key, payload, p.1, p.2⟩
  | _, _ => none

/-- The record `grpc2kafka` publishes for a payload at a slot, as a consumer reads it back. -/
def published (digest : List UInt8 → Digest) (slot : UInt64) (payload : List UInt8) : Message :=
  ⟨some (recordKey slot (digest payload)), some payload⟩

theorem parseKey_eq_some {key : List UInt8} {slot : UInt64} {hash : Digest} :
    parseKey key = some (slot, hash) ↔ ∃ s t, splitOnce 95 key = some (s, t) ∧
      fromStr s = some slot ∧ decodeToSlice t 32 = some hash.bytes := by
  simp only [parseKey, Option.bind_eq_bind, Option.bind_eq_some, Option.pure_def,
    Option.some.injEq, Prod.mk.injEq, Prod.exists]
  constructor
  · rintro ⟨s, t, hs, v, hv, bytes, hb, d, hd, rfl, rfl⟩
    refine ⟨s, t, hs, hv, ?_⟩
    unfold Digest.ofBytes? at hd
    split_ifs at hd
    cases hd
    exact hb
  · rintro ⟨s, t, hs, hv, hb⟩
    exact ⟨s, t, hs, slot, hv, hash.bytes, hb, hash, Digest.ofBytes?_bytes hash, rfl, rfl⟩

theorem keyed_key_payload {m : Message} {r : Keyed} (h : m.keyed = some r) :
    m.key = some r.key ∧ m.payload = some r.payload ∧ validUtf8 r.key ∧
      parseKey r.key = some (r.slot, r.hash) := by
  unfold Message.keyed at h
  split at h
  · rename_i key payload hk hp
    obtain ⟨⟨slot, hash⟩, hparse, rfl⟩ := Option.map_eq_some'.mp h
    obtain ⟨hkey, hvalid⟩ := Option.filter_eq_some.mp hk
    exact ⟨hkey, hp, hvalid, hparse⟩
  · cases h

/-- Every byte of a key `grpc2kafka` writes is ASCII, and the only `_` is the separator. -/
theorem recordKey_ascii (slot : UInt64) (hash : Digest) :
    ∀ c ∈ recordKey slot hash, c.toNat < 0x80 := by
  intro c hc
  simp only [recordKey, List.mem_append, List.mem_cons] at hc
  rcases hc with hc | rfl | hc
  · obtain ⟨d, hd, rfl⟩ := mem_decimal hc
    rw [toNat_digitByte hd]; omega
  · decide
  · obtain ⟨b, -, hb⟩ := List.mem_flatMap.mp hc
    have := b.toNat_lt_size
    simp only [UInt8.size] at this
    rcases List.mem_pair.mp hb with rfl | rfl <;> rw [toNat_hexDigit (by omega)] <;>
      split_ifs <;> omega

theorem splitOnce_recordKey (slot : UInt64) (hash : Digest) :
    splitOnce 95 (recordKey slot hash) = some (decimal slot.toNat, encode hash.bytes) := by
  refine splitOnce_eq_some.mpr ⟨rfl, fun h => ?_⟩
  exact absurd (isDigit_of_mem_decimal h) (by decide)

theorem decodeToSlice_encode_digest (hash : Digest) :
    decodeToSlice (encode hash.bytes) 32 = some hash.bytes := by
  simpa [hash.length_eq] using decodeToSlice_encode hash.bytes

theorem parseKey_recordKey (slot : UInt64) (hash : Digest) :
    parseKey (recordKey slot hash) = some (slot, hash) :=
  parseKey_eq_some.mpr ⟨_, _, splitOnce_recordKey slot hash, fromStr_decimal slot,
    decodeToSlice_encode_digest hash⟩

theorem keyed_published (digest : List UInt8 → Digest) (slot : UInt64) (p : List UInt8) :
    (published digest slot p).keyed = some ⟨recordKey slot (digest p), p, slot, digest p⟩ := by
  simp [Message.keyed, published, Option.filter, validUtf8_of_ascii (recordKey_ascii _ _),
    parseKey_recordKey]

/-- The key round trip: for every slot and payload, `dedup` accepts the record `grpc2kafka`
publishes, step by step as the code takes it apart, and asks the backend about exactly the slot
and the digest of the payload. -/
theorem published_keyed (digest : List UInt8 → Digest) (slot : UInt64) (p : List UInt8) :
    validUtf8 (recordKey slot (digest p)) ∧
    splitOnce 95 (recordKey slot (digest p)) = some (decimal slot.toNat, encode (digest p).bytes) ∧
    fromStr (decimal slot.toNat) = some slot ∧
    decodeToSlice (encode (digest p).bytes) 32 = some (digest p).bytes ∧
    (published digest slot p).keyed = some ⟨recordKey slot (digest p), p, slot, digest p⟩ :=
  ⟨validUtf8_of_ascii (recordKey_ascii slot (digest p)), splitOnce_recordKey slot (digest p),
    fromStr_decimal slot, decodeToSlice_encode_digest (digest p), keyed_published digest slot p⟩

/-- The keys `dedup` accepts for `(slot, hash)`: the key `grpc2kafka` writes for it, up to a `+`
sign and leading zeros on the slot, the case of the hex letters and a `0x` or `0X` before them. -/
theorem parseKey_eq_some_iff {key : List UInt8} {slot : UInt64} {hash : Digest} :
    parseKey key = some (slot, hash) ↔
      ∃ (plus : Bool) (zeros : Nat), ∃ pre ∈ hexPrefixes, ∃ hex : List UInt8,
        key = (if plus then [43] else []) ++ List.replicate zeros 48 ++ decimal slot.toNat ++
          95 :: (pre ++ hex) ∧
        hex.map toAsciiLowercase = encode hash.bytes := by
  rw [parseKey_eq_some]
  constructor
  · rintro ⟨s, t, hs, hv, ht⟩
    obtain ⟨rfl, -⟩ := splitOnce_eq_some.mp hs
    obtain ⟨plus, zeros, rfl⟩ := fromStr_eq_some.mp hv
    obtain ⟨-, pre, hpre, hex, rfl, hmap⟩ := decodeToSlice_eq_some.mp ht
    exact ⟨plus, zeros, pre, hpre, hex, rfl, hmap⟩
  · rintro ⟨plus, zeros, pre, hpre, hex, rfl, hmap⟩
    refine ⟨_, _, splitOnce_eq_some.mpr ⟨rfl, ?_⟩, fromStr_eq_some.mpr ⟨plus, zeros, rfl⟩,
      decodeToSlice_eq_some.mpr ⟨hash.length_eq, pre, hpre, hex, rfl, hmap⟩⟩
    intro h
    simp only [List.mem_append, List.mem_replicate] at h
    rcases h with (h | h) | h
    · cases plus <;> simp at h
    · exact absurd h.2 (by decide)
    · exact absurd (isDigit_of_mem_decimal h) (by decide)

-- `const-hex` 1.19.3 strips an uppercase prefix too: `5_0X00…0` parses to `(5, 0…0)`.
example : parseKey ([53, 95, 48, 88] ++ encode (List.replicate 32 0)) =
    some (5, ⟨List.replicate 32 0, rfl⟩) := by
  decide

/-- `05_00…0` parses to the same pair as `grpc2kafka`'s key `5_00…0`, and is not that key. -/
theorem parseKey_leading_zero :
    parseKey ([48, 53, 95] ++ encode (List.replicate 32 0)) =
        some (5, ⟨List.replicate 32 0, rfl⟩) ∧
      [48, 53, 95] ++ encode (List.replicate 32 0) ≠ recordKey 5 ⟨List.replicate 32 0, rfl⟩ := by
  refine ⟨by decide, fun h => ?_⟩
  have h5 : decimal (5 : UInt64).toNat = [digitByte 5] := by
    rw [show (5 : UInt64).toNat = 5 from rfl, decimal, if_neg (by decide),
      Nat.digits_of_lt 10 5 (by decide) (by decide)]
    rfl
  have h0 := congrArg List.head? h
  rw [recordKey, h5] at h0
  exact absurd h0 (by decide)

end YellowstoneKafka
