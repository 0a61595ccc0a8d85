import YellowstoneKafka.Grpc2Kafka.Runs
import YellowstoneKafka.Grpc2Kafka.Records
import YellowstoneKafka.Grpc2Kafka.Scheduling
import YellowstoneKafka.Dedup.Runs
import YellowstoneKafka.Dedup.Scheduling
import YellowstoneKafka.Kafka2Grpc

/-!
# The three stages side by side

The properties the stages share: the bound on in-flight publish tasks, what the result of a
stage says about how it ended, and the drain before a stage returns or reconnects. Last, the
pipeline the stages form: `dedup` consuming what `grpc2kafka` published.
-/

namespace YellowstoneKafka

/-- For every queue size and every run of `dedup` and of `grpc2kafka`, the `JoinSet` never holds
more than `max q 1` tasks, and at most `q - 1` when the loop is about to receive. -/
theorem queue_bounded (q : Nat) (es : List Dedup.Event) (cfg : Grpc2Kafka.Config)
    (toJson : List UInt8 → Option (List UInt8)) (digest : List UInt8 → Digest)
    (gs : List Grpc2Kafka.Event) :
    (Dedup.run q Dedup.init es).tasks.length ≤ max q 1 ∧
    ((Dedup.run q Dedup.init es).loc = .streaming →
      (Dedup.run q Dedup.init es).tasks.length ≤ q - 1) ∧
    (Grpc2Kafka.run cfg toJson digest Grpc2Kafka.init gs).tasks.length ≤
      max cfg.kafkaQueueSize 1 ∧
    ((Grpc2Kafka.run cfg toJson digest Grpc2Kafka.init gs).loc = .streaming →
      (Grpc2Kafka.run cfg toJson digest Grpc2Kafka.init gs).tasks.length ≤
        cfg.kafkaQueueSize - 1) :=
  ⟨(Dedup.run_tasks_le es).1, (Dedup.run_tasks_le es).2, (Grpc2Kafka.run_tasks_le gs).1,
    (Grpc2Kafka.run_tasks_le gs).2⟩

/-- After `kafka_error_rx` is taken, `dedup` returns `Ok(())`, and so does `kafka2grpc` when its
server does. -/
theorem ok_after_fatal :
    (Dedup.run 2 Dedup.init [.consumerFatal, .producerFatal, .takeFatal]).loc = .done (.ok ()) ∧
    (Kafka2Grpc.run (fun _ => none) Kafka2Grpc.init
      [.consumerFatal, .takeFatal, .serverExit true]).loc = .done (.ok ()) := by
  decide

/-- A task the backend refused is joined by the drain, neither queued nor failed, and `dedup`
returns `Ok(())`. -/
theorem refused_task_neither_sent_nor_failed :
    let m : Message := ⟨some ([53, 95] ++ encode (List.replicate 32 0)), some []⟩;
    let s := Dedup.run 2 Dedup.init [.receive (.message m), .allow 0 false true, .shutdownSignal,
      .takeShutdown, .join 0, .joinNone];
    s.loc = .done (.ok ()) ∧ s.fatal = .pending ∧ s.joined.map Dedup.Task.phase = [.refused] ∧
      s.sent = [] ∧ s.sentTotal = 0 := by
  decide

/-- Unless `kafka_error_rx` is taken, `dedup` returns `Ok(())` only after joining every task it
spawned, each refused by the backend or delivered, with `sent_inc` counting the delivered ones
and `dedup_inc` the refused ones; and `grpc2kafka` reconnects only after joining every task it
spawned, each delivered and counted once by `sent_inc`. -/
theorem drained_on_clean_exit :
    (∀ (q : Nat) (es : List Dedup.Event), (Dedup.run q Dedup.init es).loc = .done (.ok ()) →
      (Dedup.run q Dedup.init es).fatal ≠ .taken →
      (Dedup.run q Dedup.init es).tasks = [] ∧
      (∀ t ∈ (Dedup.run q Dedup.init es).joined, t.phase = .refused ∨ t.phase = .delivered) ∧
      (Dedup.run q Dedup.init es).sentTotal =
        (Dedup.run q Dedup.init es).joined.countP Dedup.Task.isDelivered ∧
      (Dedup.run q Dedup.init es).dedupTotal =
        (Dedup.run q Dedup.init es).joined.countP Dedup.Task.isRefused) ∧
    (∀ (cfg : Grpc2Kafka.Config) (toJson : List UInt8 → Option (List UInt8))
      (digest : List UInt8 → Digest) (es : List Grpc2Kafka.Event),
      (Grpc2Kafka.run cfg toJson digest Grpc2Kafka.init es).fatal ≠ .taken →
      (Grpc2Kafka.run cfg toJson digest Grpc2Kafka.init es).loc = .connecting →
      (Grpc2Kafka.run cfg toJson digest Grpc2Kafka.init es).tasks = [] ∧
      (Grpc2Kafka.run cfg toJson digest Grpc2Kafka.init es).aborted = [] ∧
      (Grpc2Kafka.run cfg toJson digest Grpc2Kafka.init es).joined.length =
        (Grpc2Kafka.run cfg toJson digest Grpc2Kafka.init es).spawned ∧
      (∀ t ∈ (Grpc2Kafka.run cfg toJson digest Grpc2Kafka.init es).joined,
        t.phase = .delivered) ∧
      (Grpc2Kafka.run cfg toJson digest Grpc2Kafka.init es).sentTotal =
        (Grpc2Kafka.run cfg toJson digest Grpc2Kafka.init es).spawned) :=
  ⟨fun _ es => Dedup.run_ok_drained es, fun _ _ _ es => Grpc2Kafka.run_connecting_drained es⟩

/-- Both halves at runs that meet their hypotheses: the drain after a refused task, and a
`grpc2kafka` round that publishes a transaction, sees the stream close, and joins the delivered
task in the drain before it reconnects. -/
theorem drained_on_clean_exit_at_runs :
    (Dedup.run 2 Dedup.init [.receive (.message ⟨some ([53, 95] ++ encode (List.replicate 32 0)),
        some []⟩), .allow 0 false true, .shutdownSignal, .takeShutdown, .join 0, .joinNone]).tasks =
      [] ∧
    (let s := Grpc2Kafka.run ⟨"a", 2⟩ some (fun _ => ⟨List.replicate 32 0, rfl⟩) Grpc2Kafka.init
        [.connect .connected, .subscribe true,
          .receive (.message ⟨some (.transaction 0 (some []))⟩) true, .receive .closed false,
          .deliver 0 true, .join 0, .joinNone];
      s.spawned = 1 ∧ s.joined.length = s.spawned ∧ s.sentTotal = s.spawned) := by
  refine ⟨(drained_on_clean_exit.1 2 _ (by decide) (by decide)).1, ?_⟩
  intro s
  have hg := drained_on_clean_exit.2 ⟨"a", 2⟩ some (fun _ => ⟨List.replicate 32 0, rfl⟩)
    [.connect .connected, .subscribe true,
      .receive (.message ⟨some (.transaction 0 (some []))⟩) true, .receive .closed false,
      .deliver 0 true, .join 0, .joinNone] (by decide) (by decide)
  exact ⟨by decide, hg.2.2.1, hg.2.2.2.2⟩

/-- The metrics count no more than the stages consumed. In every run of `dedup`, `sent_inc` and
`dedup_inc` together were called at most once per consumed message whose key passed the checks,
and there are at most as many of those as `recv_inc` calls; in every run of `grpc2kafka`,
`sent_inc` was called at most once per update the stage published. -/
theorem metrics_bounded_by_consumed :
    (∀ (q : Nat) (es : List Dedup.Event),
      (Dedup.run q Dedup.init es).sentTotal + (Dedup.run q Dedup.init es).dedupTotal ≤
        (Dedup.keptRecords (Dedup.run q Dedup.init es).received).length ∧
      (Dedup.keptRecords (Dedup.run q Dedup.init es).received).length ≤
        (Dedup.run q Dedup.init es).received.length) ∧
    (∀ (cfg : Grpc2Kafka.Config) (toJson : List UInt8 → Option (List UInt8))
      (digest : List UInt8 → Digest) (es : List Grpc2Kafka.Event),
      (Grpc2Kafka.run cfg toJson digest Grpc2Kafka.init es).sentTotal ≤
        ((Grpc2Kafka.run cfg toJson digest Grpc2Kafka.init es).log.filterMap
          (Grpc2Kafka.Action.record toJson digest)).length) := by
  refine ⟨fun q es => ⟨?_, ?_⟩, fun cfg toJson digest es => ?_⟩
  · have h : Dedup.Inv (Dedup.run q Dedup.init es) := Dedup.inv_run es
    have hlen := (Dedup.oneTask_run (q := q) es).length_eq
    rw [List.length_map] at hlen
    rw [h.sentTotal, h.dedupTotal, ← hlen,
      List.length_eq_countP_add_countP Dedup.Task.isDelivered]
    exact Nat.add_le_add_left (List.countP_mono_left fun t _ ht => by
      simp_all [Dedup.Task.isDelivered, Dedup.Task.isRefused]) _
  · simpa using List.length_filterMap_le _ (Dedup.run q Dedup.init es).received.enum
  · have h : Grpc2Kafka.Inv cfg (Grpc2Kafka.run cfg toJson digest Grpc2Kafka.init es) :=
      Grpc2Kafka.inv_run es
    rw [h.sent]
    calc _ ≤ (Grpc2Kafka.run cfg toJson digest Grpc2Kafka.init es).all.length :=
          List.countP_le_length _
      _ = ((Grpc2Kafka.run cfg toJson digest Grpc2Kafka.init es).all.map
          Grpc2Kafka.Task.record).length := (List.length_map _ _).symm
      _ ≤ _ := (Grpc2Kafka.exact_run cfg toJson digest es).atMostOnce.length_le

/-! ## `grpc2kafka` into `dedup` -/

section Pipeline

variable {cfg : Grpc2Kafka.Config} {toJson : List UInt8 → Option (List UInt8)}
  {digest : List UInt8 → Digest} {gs : List Grpc2Kafka.Event} {q : Nat} {es : List Dedup.Event}

/-- A record `dedup` queued from a message `grpc2kafka` published is that message's own record:
the JSON of a transaction update of the stream, keyed with its slot and the digest of the JSON. -/
theorem sent_published
    (hfed : ∀ m ∈ (Dedup.run q Dedup.init es).received,
      ∃ t ∈ (Grpc2Kafka.run cfg toJson digest Grpc2Kafka.init gs).all,
        m = ⟨some t.key, some t.payload⟩) :
    ∀ x ∈ (Dedup.run q Dedup.init es).sent, ∃ tx,
      Grpc2Kafka.Action.received ⟨some (.transaction x.2.slot (some tx))⟩ ∈
        (Grpc2Kafka.run cfg toJson digest Grpc2Kafka.init gs).log ∧
      toJson tx = some x.2.payload ∧ x.2.key = recordKey x.2.slot (digest x.2.payload) ∧
      x.2.hash = digest x.2.payload := by
  rintro ⟨i, r⟩ hx
  obtain ⟨m, hm, hk⟩ := Option.bind_eq_some.mp ((Dedup.inv_run es).sends _ hx).1
  obtain ⟨t, ht, rfl⟩ := hfed m (List.getElem?_mem hm)
  obtain ⟨-, slot, tx, hlog, hj, hkey⟩ := Grpc2Kafka.published_run cfg gs t ht
  have hkey : t.key = recordKey slot (digest t.payload) := hkey
  have hpub : (⟨some t.key, some t.payload⟩ : Message) = published digest slot t.payload := by
    rw [published, hkey]
  rw [hpub, keyed_published] at hk
  cases Option.some.inj hk
  exact ⟨tx, hlog, hj, rfl, rfl⟩

/-- The pipeline: when `dedup` consumes only records `grpc2kafka` published, every record it
queues on `kafka_output` is the JSON of a transaction update the gRPC stream yielded, under the
key `grpc2kafka` wrote for it; and a backend that says `true` at most once per pair lets no slot
and payload digest through twice. -/
theorem dedup_after_grpc2kafka (cfg : Grpc2Kafka.Config)
    (toJson : List UInt8 → Option (List UInt8)) (digest : List UInt8 → Digest)
    (gs : List Grpc2Kafka.Event) (q : Nat) (es : List Dedup.Event)
    (hfed : ∀ m ∈ (Dedup.run q Dedup.init es).received,
      ∃ t ∈ (Grpc2Kafka.run cfg toJson digest Grpc2Kafka.init gs).all,
        m = ⟨some t.key, some t.payload⟩)
    (hbackend :
      (((Dedup.run q Dedup.init es).calls.filter Dedup.Call.answer).map Dedup.Call.pair).Nodup) :
    (∀ x ∈ (Dedup.run q Dedup.init es).sent, ∃ tx,
      Grpc2Kafka.Action.received ⟨some (.transaction x.2.slot (some tx))⟩ ∈
        (Grpc2Kafka.run cfg toJson digest Grpc2Kafka.init gs).log ∧
      toJson tx = some x.2.payload ∧ x.2.key = recordKey x.2.slot (digest x.2.payload)) ∧
    ((Dedup.run q Dedup.init es).sent.map fun x => (x.2.slot, digest x.2.payload)).Nodup := by
  have hsent := sent_published hfed
  refine ⟨fun x hx => ?_, ?_⟩
  · obtain ⟨tx, hlog, hj, hkey, -⟩ := hsent x hx
    exact ⟨tx, hlog, hj, hkey⟩
  · have hpairs : ((Dedup.run q Dedup.init es).sent.map fun x => (x.2.slot, digest x.2.payload)) =
        (Dedup.run q Dedup.init es).sent.map Dedup.pairOf :=
      List.map_congr_left fun x hx => by
        obtain ⟨-, -, -, -, hhash⟩ := hsent x hx
        simp [Dedup.pairOf, hhash]
    exact hpairs ▸ (Dedup.inv_run es).pairs.nodup hbackend

theorem dedup_after_grpc2kafka_at_runs :
    let d : List UInt8 → Digest := fun _ => ⟨List.replicate 32 0, rfl⟩;
    let g := Grpc2Kafka.run ⟨"a", 2⟩ some d Grpc2Kafka.init [.connect .connected,
      .subscribe true, .receive (.message ⟨some (.transaction 0 (some []))⟩) true];
    let s := Dedup.run 2 Dedup.init
      [.receive (.message ⟨some (recordKey 0 (d [])), some []⟩), .allow 0 true true];
    (∀ m ∈ s.received, ∃ t ∈ g.all, m = ⟨some t.key, some t.payload⟩) ∧
    ((s.calls.filter Dedup.Call.answer).map Dedup.Call.pair).Nodup ∧ s.sent.length = 1 ∧
    ((∀ x ∈ s.sent, ∃ tx, Grpc2Kafka.Action.received ⟨some (.transaction x.2.slot (some tx))⟩ ∈
        g.log ∧ some tx = some x.2.payload ∧ x.2.key = recordKey x.2.slot (d x.2.payload)) ∧
      (s.sent.map fun x => (x.2.slot, d x.2.payload)).Nodup) := by
  intro d g s
  have hruns : (∀ m ∈ s.received, ∃ t ∈ g.all, m = ⟨some t.key, some t.payload⟩) ∧
      ((s.calls.filter Dedup.Call.answer).map Dedup.Call.pair).Nodup ∧ s.sent.length = 1 := by
    decide
  exact ⟨hruns.1, hruns.2.1, hruns.2.2, dedup_after_grpc2kafka _ _ _ _ _ _ hruns.1 hruns.2.1⟩

end Pipeline

end YellowstoneKafka
