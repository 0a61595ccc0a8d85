import YellowstoneKafka.Key

/-!
# Stream updates and what `grpc2kafka` does with one

An update carries one variant of `UpdateOneof`, or none when prost meets a message without a
variant it knows. `grpc2kafka` takes the slot of every variant but publishes only transactions
whose body survives the round trip through the locally generated schema: the body is encoded
with `encode_to_vec`, decoded as `SubscribeUpdateTransactionInfo` and written as JSON. That
round trip is a parameter, `toJson`, `none` where decoding fails. The model assumes that
`serde_json::to_string` of the decoded structure succeeds (the structure holds integers,
booleans, strings, byte vectors, options and sequences, never a map), so that its `unwrap` does
not panic: the assumption is carried by the type of `toJson`, which has no third outcome.

A missing variant reaches `unreachable!`: it is the one update the stream loop panics on.
-/

namespace YellowstoneKafka

/-- `subscribe_update::UpdateOneof`, each variant with what the stream loop reads of it: the
slot, and for a transaction the `encode_to_vec` of its optional body. -/
inductive UpdateOneof where
  | account (slot : UInt64)
  | slot (slot : UInt64)
  | transaction (slot : UInt64) (transaction : Option (List UInt8))
  | transactionStatus (slot : UInt64)
  | block (slot : UInt64)
  | ping
  | pong
  | blockMeta (slot : UInt64)
  | entry (slot : UInt64)
  deriving DecidableEq, Repr

/-- `SubscribeUpdate`, as far as the stream loop reads it. -/
structure SubscribeUpdate where
  updateOneof : Option UpdateOneof
  deriving DecidableEq, Repr

/-- Modelled from the spec: `GprcMessageKind`, the metrics label of a record (`kafka::metrics`
is not in the sources). One label per variant, and `Unknown` for what `dedup` republishes. -/
inductive MessageKind where
  | account | slot | transaction | transactionStatus | block | ping | pong | blockMeta | entry
  | unknown
  deriving DecidableEq, Repr

/-- Modelled from the spec: `GprcMessageKind::from(&UpdateOneof)`. -/
def MessageKind.ofUpdate : UpdateOneof → MessageKind
  | .account _ => .account
  | .slot _ => .slot
  | .transaction _ _ => .transaction
  | .transactionStatus _ => .transactionStatus
  | .block _ => .block
  | .ping => .ping
  | .pong => .pong
  | .blockMeta _ => .blockMeta
  | .entry _ => .entry

/-- The `let slot = match message { .. }` of the stream loop: the slot and the payload, or
`none` for `Ping` and `Pong`, which `continue`. -/
def UpdateOneof.slotPayload (toJson : List UInt8 → Option (List UInt8)) :
    UpdateOneof → Option (UInt64 × Option (List UInt8))
  | .account n | .slot n | .transactionStatus n | .block n | .blockMeta n | .entry n =>
    some (n, none)
  | .transaction n tx => some (n, tx.bind toJson)
  | .ping | .pong => none

/-- What one `Ok(Some(msg))` makes the stream loop do before the producer is involved. -/
inductive Handling where
  /-- `unreachable!` on a missing variant. -/
  | panic
  /-- One of the `continue`s: `Ping`, `Pong`, or no payload. -/
  | skip
  /-- Key and send `payload` at `slot`, labelled `kind`. -/
  | publish (slot : UInt64) (payload : List UInt8) (kind : MessageKind)
  deriving DecidableEq, Repr

/-- The per-message match of `grpc2kafka`'s stream loop. -/
def handleUpdate (toJson : List UInt8 → Option (List UInt8)) (u : SubscribeUpdate) : Handling :=
  match u.updateOneof with
  | none => .panic
  | some m =>
    match m.slotPayload toJson with
    | some (slot, some payload) => .publish slot payload (.ofUpdate m)
    | _ => .skip

variable {toJson : List UInt8 → Option (List UInt8)}

/-- Only a transaction whose body has a JSON form is published, under its own slot. -/
theorem handleUpdate_eq_publish {u : SubscribeUpdate} {slot : UInt64} {payload : List UInt8}
    {kind : MessageKind} :
    handleUpdate toJson u = .publish slot payload kind ↔ kind = .transaction ∧
      ∃ tx, u.updateOneof = some (.transaction slot (some tx)) ∧ toJson tx = some payload := by
  unfold handleUpdate
  split
  · simp [*]
  · rename_i m hm
    rw [hm]
    cases m with
    | transaction s tx =>
      cases tx with
      | none => simp [UpdateOneof.slotPayload]
      | some body =>
        cases hj : toJson body <;> simp [UpdateOneof.slotPayload, MessageKind.ofUpdate, hj]
        constructor
        · rintro ⟨rfl, rfl, rfl⟩; exact ⟨rfl, body, ⟨rfl, rfl⟩, hj⟩
        · rintro ⟨rfl, tx, ⟨rfl, rfl⟩, h⟩
          exact ⟨rfl, Option.some.inj (hj.symm.trans h), rfl⟩
    | _ => simp [UpdateOneof.slotPayload]

end YellowstoneKafka
