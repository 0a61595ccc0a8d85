import YellowstoneKafka.Grpc2Kafka.Invariants

/-!
# Runs of `grpc2kafka`

What the invariant says about whole runs, and where the reconnect loop departs from the design
its log messages describe. The shutdown future and the sideband only end a round: the outer
`loop` has no exit, so after either the stage connects again. The cursor advance sits at the end
of the per-message body, so a published message moves `ep_idx` and sleeps, and a closed or
failed stream does not.

One message is the match of its update and, when its record fills the set, the back-pressure
`select!`. The match panics on an update without a variant only; the `select!` panics when an
earlier one took a future it polls, which a stage that reconnected after a shutdown reaches.
-/

namespace YellowstoneKafka.Grpc2Kafka

variable {cfg : Config} {toJson : List UInt8 → Option (List UInt8)}
  {digest : List UInt8 → Digest}

theorem run_append (s : State) (es fs : List Event) :
    run cfg toJson digest s (es ++ fs) = run cfg toJson digest (run cfg toJson digest s es) fs :=
  List.foldl_append ..

/-- Endpoint indexing is safe for every configuration string: `ep_count` is positive, and every
state of every run, so every evaluation of `endpoints[ep_idx]` and of `(ep_idx + 1) % ep_count`,
has `ep_idx < ep_count`. Neither the index nor the remainder panics. -/
theorem endpoint_indexing_safe (cfg : Config) :
    0 < (endpoints cfg).length ∧
    ∀ (toJson : List UInt8 → Option (List UInt8)) (digest : List UInt8 → Digest)
      (es : List Event),
      (run cfg toJson digest init es).epIdx < (endpoints cfg).length ∧
      (run cfg toJson digest init es).loc ≠ .panicked .index ∧
      (run cfg toJson digest init es).loc ≠ .panicked .remainder := by
  refine ⟨endpoints_length_pos cfg, fun toJson digest es => ?_⟩
  have h : Inv cfg (run cfg toJson digest init es) := inv_run es
  exact ⟨h.cursor, fun hp => by simpa using h.panics hp, fun hp => by simpa using h.panics hp⟩

/-- With one endpoint `a`: after the shutdown future is taken and the empty drain ends, the stage
connects and subscribes again and receives a message; after the sideband is taken, it skips
the drain and connects again. -/
theorem reconnects_after_shutdown_and_fatal :
    (let s := run ⟨"a", 1⟩ some (fun _ => ⟨List.replicate 32 0, rfl⟩) init
        [.connect .connected, .subscribe true, .shutdownSignal, .takeShutdown, .joinNone,
          .connect .connected, .subscribe true, .receive (.message ⟨some .ping⟩) false];
      s.shutdown = .taken ∧ s.loc = .streaming ∧
        s.log = [.connect 0, .subscribe, .connect 0, .subscribe, .received ⟨some .ping⟩]) ∧
    (let s := run ⟨"a", 1⟩ some (fun _ => ⟨List.replicate 32 0, rfl⟩) init
        [.connect .connected, .subscribe true, .producerFatal, .takeFatal, .connect .connected];
      s.fatal = .taken ∧ s.loc = .subscribing ∧ s.log = [.connect 0, .subscribe, .connect 0]) := by
  decide

/-- With endpoints `a,b` and a queue of two: a published transaction moves the cursor to `b`
and sleeps; a stream that closes leaves it on `a`, and the next attempt is again on `a`. -/
theorem cursor_moves_on_message_not_on_close :
    (let s := run ⟨"a,b", 2⟩ some (fun _ => ⟨List.replicate 32 0, rfl⟩) init
        [.connect .connected, .subscribe true,
          .receive (.message ⟨some (.transaction 7 (some []))⟩) true];
      s.epIdx = 1 ∧ s.log = [.connect 0, .subscribe,
        .received ⟨some (.transaction 7 (some []))⟩, .spawned 0, .backoff]) ∧
    (let s := run ⟨"a,b", 2⟩ some (fun _ => ⟨List.replicate 32 0, rfl⟩) init
        [.connect .connected, .subscribe true, .receive .closed false, .joinNone,
          .connect .connected];
      s.epIdx = 0 ∧ s.log = [.connect 0, .subscribe, .connect 0]) := by
  decide

/-- Back at the top of the reconnect loop, unless the sideband was taken, every task spawned
so far was joined after its delivery, and `sent_inc` counted each of them once. -/
theorem run_connecting_drained (es : List Event)
    (hf : (run cfg toJson digest init es).fatal ≠ .taken)
    (hl : (run cfg toJson digest init es).loc = .connecting) :
    (run cfg toJson digest init es).tasks = [] ∧ (run cfg toJson digest init es).aborted = [] ∧
      (run cfg toJson digest init es).joined.length = (run cfg toJson digest init es).spawned ∧
      (∀ t ∈ (run cfg toJson digest init es).joined, t.phase = .delivered) ∧
      (run cfg toJson digest init es).sentTotal = (run cfg toJson digest init es).spawned := by
  have h : Inv cfg (run cfg toJson digest init es) := inv_run es
  have htasks := h.idle (.inl hl)
  have haborted := h.kept hf (by simp [hl, Loc.live])
  have hall : (run cfg toJson digest init es).joined.countP Task.isDelivered =
      (run cfg toJson digest init es).joined.length :=
    List.countP_eq_length.mpr fun t ht => by simp [Task.isDelivered, h.joined t ht]
  refine ⟨htasks, haborted, ?_, h.joined, ?_⟩
  · simp [h.ledger, htasks, haborted]
  · simp only [h.sent, htasks, haborted, List.nil_append, List.append_nil, hall, h.ledger,
      List.length_nil, Nat.zero_add, Nat.add_zero]

/-! ## One message -/

section Message

variable {s : State}

end Message

section RoundRobin

/-- The cursor has moved once per backoff in the log, and every connection attempt went to the
endpoint the backoffs before it point at. -/
structure State.RoundRobin (cfg : Config) (s : State) : Prop where
  cursor : s.epIdx = s.log.count .backoff % (endpoints cfg).length
  tried : ∀ j i, s.log[j]? = some (.connect i) →
    i = (s.log.take j).count .backoff % (endpoints cfg).length

variable {s : State}

theorem init_roundRobin : init.RoundRobin cfg where
  cursor := by simp [init]
  tried := by simp [init]

/-- Logging one more action keeps every earlier attempt's target; a new attempt goes to the
current endpoint. -/
theorem State.RoundRobin.tried_append (h : s.RoundRobin cfg) {a : Action}
    (hc : ∀ i, a = .connect i → i = s.epIdx) (j i : Nat)
    (hj : (s.log ++ [a])[j]? = some (.connect i)) :
    i = ((s.log ++ [a]).take j).count .backoff % (endpoints cfg).length := by
  rcases Nat.lt_or_ge j s.log.length with hlt | hge
  · rw [List.getElem?_append_left hlt] at hj
    rw [List.take_append_of_le_length hlt.le]
    exact h.tried j i hj
  · have hlen : j = s.log.length := by
      by_contra hne
      rw [List.getElem?_eq_none (by simp; omega)] at hj
      cases hj
    subst hlen
    rw [List.getElem?_concat_length, Option.some.injEq] at hj
    rw [List.take_left, ← h.cursor]
    exact hc i hj

theorem State.RoundRobin.relog (h : s.RoundRobin cfg) {a : Action} (ha : a ≠ .backoff)
    (hc : ∀ i, a = .connect i → i = s.epIdx) :
    ({ s with log := s.log ++ [a] } : State).RoundRobin cfg where
  cursor := by simp [h.cursor, List.count_singleton, ha]
  tried := h.tried_append hc

/-- The cursor advance is a backoff in the log. -/
theorem State.RoundRobin.rotate (h : s.RoundRobin cfg) (l : Loc) :
    (s.rotate cfg l).RoundRobin cfg where
  cursor := by simp [h.cursor, List.count_singleton]
  tried := by simpa using h.tried_append (a := .backoff) (by simp)

theorem State.RoundRobin.leaveStream (h : s.RoundRobin cfg) : s.leaveStream.RoundRobin cfg := by
  unfold State.leaveStream
  split <;> exact ⟨h.cursor, h.tried⟩

theorem State.RoundRobin.connect (h : s.RoundRobin cfg) (c : Connect) :
    (s.connect cfg c).RoundRobin cfg := by
  have h' := h.relog (a := .connect s.epIdx) (by simp) fun _ hi => (Action.connect.inj hi).symm
  unfold State.connect
  split
  · cases c with
    | invalid | connected => exact ⟨h'.cursor, h'.tried⟩
    | failed => exact h'.rotate _
  · exact ⟨h.cursor, h.tried⟩

theorem State.RoundRobin.subscribe (h : s.RoundRobin cfg) (ok : Bool) :
    (s.subscribe cfg ok).RoundRobin cfg := by
  have h' := h.relog (a := .subscribe) (by simp) (by simp)
  unfold State.subscribe
  split
  · exact ⟨h'.cursor, h'.tried⟩
  · exact h'.rotate _

theorem State.RoundRobin.spawn (h : s.RoundRobin cfg) (t : Task) :
    (s.spawn cfg t).RoundRobin cfg := by
  have h' : (s.push t).RoundRobin cfg :=
    let h' := h.relog (a := .spawned t.id) (by simp) (by simp)
    ⟨h'.cursor, h'.tried⟩
  unfold State.spawn
  split
  · exact ⟨h'.cursor, h'.tried⟩
  · exact h'.rotate _

theorem State.RoundRobin.receive (h : s.RoundRobin cfg) (item : Item) (queued : Bool) :
    (s.receive cfg toJson digest item queued).RoundRobin cfg := by
  unfold State.receive
  match item with
  | .closed | .error => exact h.leaveStream
  | .message u =>
    have h' := h.relog (a := .received u) (by simp) (by simp)
    simp only
    split
    · exact ⟨h'.cursor, h'.tried⟩
    · exact h'
    · split
      · exact h'.spawn _
      · exact ⟨h'.cursor, h'.tried⟩

theorem State.RoundRobin.after (h : s.RoundRobin cfg) (e : Event) :
    (step cfg toJson digest s e).RoundRobin cfg := by
  apply step_rec e h
  case shutdownSignal | producerFatal => exact ⟨h.cursor, h.tried⟩
  case deliver =>
    intro k ok
    unfold State.deliver
    split
    · split
      · split <;> exact ⟨h.cursor, h.tried⟩
      · exact h
    · exact h
  case connect => exact fun _ => h.connect
  case subscribe => exact fun _ => h.subscribe
  case takeShutdown =>
    unfold State.takeShutdown
    split
    · exact State.RoundRobin.leaveStream ⟨h.cursor, h.tried⟩
    · exact h
  case takeFatal =>
    unfold State.takeFatal
    split
    · split
      · exact State.RoundRobin.leaveStream ⟨h.cursor, h.tried⟩
      · split <;> exact ⟨h.cursor, h.tried⟩
    · exact h
  case repoll => unfold State.repoll; split <;> exact ⟨h.cursor, h.tried⟩
  case join =>
    intro _ k
    unfold State.join
    split
    · rename_i t _
      split
      · exact ⟨h.cursor, h.tried⟩
      · split
        · exact State.RoundRobin.rotate
            (s := { s with tasks := s.tasks.eraseIdx k, joined := s.joined ++ [t] })
            ⟨h.cursor, h.tried⟩ _
        · exact ⟨h.cursor, h.tried⟩
      · exact h
    · exact h
  case joinNone => exact fun _ => ⟨h.cursor, h.tried⟩
  case receive => exact fun _ => h.receive

end RoundRobin

/-- For every run of `grpc2kafka`, the endpoints are tried in turn: each connection attempt went
to `endpoints[k % ep_count]`, where `k` is the number of cursor advances, each followed by the
2 s sleep, before it. -/
theorem run_connects_round_robin (cfg : Config) (toJson : List UInt8 → Option (List UInt8))
    (digest : List UInt8 → Digest) (es : List Event) (j i : Nat)
    (hj : (run cfg toJson digest init es).log[j]? = some (.connect i)) :
    i = ((run cfg toJson digest init es).log.take j).count .backoff % (endpoints cfg).length :=
  (run_induction (P := State.RoundRobin cfg) es init_roundRobin fun _ e h => h.after e).tried j i hj

/-- With endpoints `a` and `b`, two failed attempts bring the stage back to `a`. -/
theorem run_connects_round_robin_at_failover :
    let s := run ⟨"a,b", 1⟩ some (fun _ => ⟨List.replicate 32 0, rfl⟩) init
      [.connect .failed, .connect .failed, .connect .connected];
    s.log[4]? = some (.connect 0) ∧
      0 = (s.log.take 4).count .backoff % (endpoints ⟨"a,b", 1⟩).length := by
  intro s
  have h4 : s.log[4]? = some (.connect 0) := by decide
  exact ⟨h4, run_connects_round_robin _ _ _ _ 4 0 h4⟩

end YellowstoneKafka.Grpc2Kafka
