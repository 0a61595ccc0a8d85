import YellowstoneKafka.Grpc2Kafka.Invariants

/-!
# What `grpc2kafka` publishes

Every task of a run, in the set, joined or dropped with a set, carries the record of a
transaction update the stream yielded: the JSON of the update's body as the payload, and as the
key `recordKey` of the update's slot and the digest of that payload. No other variant is ever
published. A task's phase changes as it runs; its record does not, so the invariant is stated on
records and every transition is checked to keep or extend the list of them.

Counted against the log, each record the stage builds goes to exactly one task: the records of
the tasks spawned so far are, up to order, those of the published updates the log shows, with
no record twice, and none is left without its task unless `send_result` refused it, which ends
the stage. A task leaves the set and the joined ones only when a `JoinSet` is dropped with it;
while the stage runs, that happens only after the sideband was taken.
-/

namespace YellowstoneKafka.Grpc2Kafka

/-- What a task carries of its record: the key, the payload and the metrics label. -/
def Task.record (t : Task) : List UInt8 × List UInt8 × MessageKind := (t.key, t.payload, t.kind)

/-- Every task spawned so far: in the set, joined, or dropped with a set. -/
def State.all (s : State) : List Task := s.tasks ++ s.joined ++ s.aborted

section Records

variable (toJson : List UInt8 → Option (List UInt8)) (digest : List UInt8 → Digest)

/-- A record `grpc2kafka` builds for a transaction update recorded in `log`. -/
def FromUpdate (log : List Action) (r : List UInt8 × List UInt8 × MessageKind) : Prop :=
  r.2.2 = .transaction ∧ ∃ slot tx, Action.received ⟨some (.transaction slot (some tx))⟩ ∈ log ∧
    toJson tx = some r.2.1 ∧ r.1 = recordKey slot (digest r.2.1)

/-- Every task spawned so far carries a record built for an update of the log. -/
def State.Published (s : State) : Prop := ∀ t ∈ s.all, FromUpdate toJson digest s.log t.record

variable {toJson digest} {s s' : State}

theorem FromUpdate.mono {log log' : List Action} {r : List UInt8 × List UInt8 × MessageKind}
    (h : FromUpdate toJson digest log r) (hlog : log ⊆ log') : FromUpdate toJson digest log' r :=
  let ⟨hk, slot, tx, hm, hj, hkey⟩ := h
  ⟨hk, slot, tx, hlog hm, hj, hkey⟩

/-- A transition that keeps the log's entries and whose tasks carry records of earlier tasks
keeps the invariant. -/
theorem State.Published.of_sub (h : s.Published toJson digest) (hlog : s.log ⊆ s'.log)
    (hsub : ∀ t ∈ s'.all, ∃ u ∈ s.all, u.record = t.record) : s'.Published toJson digest :=
  fun t ht =>
    let ⟨u, hu, hr⟩ := hsub t ht
    hr ▸ (h u hu).mono hlog

theorem State.Published.of_all (h : s.Published toJson digest) (hlog : s.log ⊆ s'.log)
    (hall : ∀ t ∈ s'.all, t ∈ s.all) : s'.Published toJson digest :=
  h.of_sub hlog fun t ht => ⟨t, hall t ht, rfl⟩

theorem init_published : init.Published toJson digest := by
  simp [State.Published, State.all, init]

variable {cfg : Config}

theorem State.Published.rotate (h : s.Published toJson digest) (l : Loc) :
    (s.rotate cfg l).Published toJson digest :=
  h.of_all (by simp [State.rotate_log])
    (by simp [State.all, State.rotate, (endpoints_length_pos cfg).ne'])

theorem State.Published.dropTasks (h : s.Published toJson digest) (next : Loc) :
    (s.dropTasks next).Published toJson digest :=
  h.of_all (by simp [State.dropTasks]) fun t ht => by
    simp only [State.all, State.dropTasks, List.nil_append, List.mem_append] at ht ⊢
    tauto

theorem State.Published.leaveStream (h : s.Published toJson digest) :
    s.leaveStream.Published toJson digest := by
  unfold State.leaveStream
  split
  · exact h.dropTasks _
  · exact h

theorem State.Published.connect (h : s.Published toJson digest) (c : Connect) :
    (s.connect cfg c).Published toJson digest := by
  have h' : ({ s with log := s.log ++ [Action.connect s.epIdx] } : State).Published
      toJson digest := h.of_all (by simp) fun _ ht => ht
  unfold State.connect
  split
  · cases c with
    | invalid => exact h'
    | failed => exact h'.rotate _
    | connected => exact h'
  · exact h

theorem State.Published.subscribe (h : s.Published toJson digest) (ok : Bool) :
    (s.subscribe cfg ok).Published toJson digest := by
  have h' : ({ s with log := s.log ++ [Action.subscribe] } : State).Published toJson digest :=
    h.of_all (by simp) fun _ ht => ht
  unfold State.subscribe
  split
  · exact h'.of_all (by simp) fun t ht => by
      simp only [State.all, List.nil_append, List.mem_append] at ht ⊢
      tauto
  · exact h'.rotate _

/-- A spawned task whose record an update of the log gives joins the published ones. -/
theorem State.Published.push (h : s.Published toJson digest) {t : Task}
    (ht : FromUpdate toJson digest s.log t.record) : (s.push t).Published toJson digest := by
  have hlog : s.log ⊆ (s.push t).log := by simp [State.push]
  intro u hu
  have hu' : u = t ∨ u ∈ s.all := by
    simp only [State.all, State.push, List.mem_append, List.mem_singleton] at hu ⊢
    tauto
  rcases hu' with rfl | hu'
  · exact ht.mono hlog
  · exact (h u hu').mono hlog

theorem State.Published.spawn (h : s.Published toJson digest) {t : Task}
    (ht : FromUpdate toJson digest s.log t.record) : (s.spawn cfg t).Published toJson digest := by
  unfold State.spawn
  split
  · exact (h.push ht).of_all (fun _ ha => ha) fun _ hu => hu
  · exact (h.push ht).rotate _

/-- The spawn after a published update adds the one task whose record the update gives. -/
theorem State.Published.receive (h : s.Published toJson digest) (item : Item) (queued : Bool) :
    (s.receive cfg toJson digest item queued).Published toJson digest := by
  unfold State.receive
  match item with
  | .closed | .error => exact h.leaveStream
  | .message u =>
    have h' : ({ s with log := s.log ++ [Action.received u] } : State).Published toJson digest :=
      h.of_all (by simp) fun _ ht => ht
    simp only
    split
    · exact h'.dropTasks _
    · exact h'
    · rename_i slot payload kind hpub
      obtain ⟨rfl, tx, hu, hj⟩ := handleUpdate_eq_publish.mp hpub
      split
      · exact h'.spawn ⟨rfl, slot, tx, by cases u; simp_all, hj, rfl⟩
      · exact h'.dropTasks _

theorem State.Published.deliver (h : s.Published toJson digest) (k : Nat) (ok : Bool) :
    (s.deliver k ok).Published toJson digest := by
  unfold State.deliver
  split
  · rename_i t hk
    have hset : ∀ p : Phase, ({ s with tasks := s.tasks.set k { t with phase := p } } :
        State).Published toJson digest := fun p =>
      h.of_sub (fun _ ha => ha) fun u hu => by
        simp only [State.all, List.mem_append] at hu
        rcases hu with (hu | hu) | hu
        · rcases List.mem_or_eq_of_mem_set hu with hu | rfl
          · exact ⟨u, by simp [State.all, hu], rfl⟩
          · exact ⟨t, by simp [State.all, List.getElem?_mem hk], rfl⟩
        · exact ⟨u, by simp [State.all, hu], rfl⟩
        · exact ⟨u, by simp [State.all, hu], rfl⟩
    split
    · split
      · exact hset _
      · exact hset _
    · exact h
  · exact h

theorem State.Published.join (h : s.Published toJson digest) (k : Nat) :
    (s.join cfg k).Published toJson digest := by
  unfold State.join
  split
  · rename_i t hk
    have h' : ({ s with tasks := s.tasks.eraseIdx k, joined := s.joined ++ [t] } :
        State).Published toJson digest :=
      h.of_all (fun _ ha => ha) fun u hu => by
        simp only [State.all, List.mem_append, List.mem_singleton] at hu ⊢
        rcases hu with (hu | hu | rfl) | hu
        · exact .inl (.inl (List.mem_of_mem_eraseIdx hu))
        · exact .inl (.inr hu)
        · exact .inl (.inl (List.getElem?_mem hk))
        · exact .inr hu
    split
    · exact h.dropTasks _
    · split
      · exact h'.rotate _
      · exact h'
    · exact h
  · exact h

theorem State.Published.takeShutdown (h : s.Published toJson digest) :
    s.takeShutdown.Published toJson digest := by
  unfold State.takeShutdown
  split
  · exact State.Published.leaveStream (s := { s with shutdown := .taken }) h
  · exact h

theorem State.Published.takeFatal (h : s.Published toJson digest) :
    s.takeFatal.Published toJson digest := by
  unfold State.takeFatal
  split
  · split
    · exact State.Published.leaveStream (s := { s with fatal := .taken, kafkaError := true }) h
    · split
      · exact State.Published.dropTasks (s := { s with fatal := .taken }) h _
      · exact h
  · exact h

theorem State.Published.after (h : s.Published toJson digest) (e : Event) :
    (step cfg toJson digest s e).Published toJson digest := by
  apply step_rec e h
  case shutdownSignal | producerFatal => exact h
  case deliver => exact h.deliver
  case connect => exact fun _ => h.connect
  case subscribe => exact fun _ => h.subscribe
  case takeShutdown => exact h.takeShutdown
  case takeFatal => exact h.takeFatal
  case repoll => unfold State.repoll; split <;> [exact h.dropTasks _; exact h]
  case join => exact fun _ => h.join
  case joinNone => exact fun _ => h.dropTasks _
  case receive => exact fun _ => h.receive

theorem published_run (cfg : Config) (es : List Event) :
    (run cfg toJson digest init es).Published toJson digest :=
  run_induction es init_published fun _ e h => h.after e

end Records

/-- For every run, every task `grpc2kafka` spawned, whether still in the set, joined or dropped,
publishes a transaction update the stream yielded: its payload is the JSON of the update's body,
its key is `recordKey` of the update's slot and the digest of that payload, and its label is
`Transaction`. -/
theorem run_published (cfg : Config) (toJson : List UInt8 → Option (List UInt8))
    (digest : List UInt8 → Digest) (es : List Event) :
    ∀ t ∈ (run cfg toJson digest init es).tasks ++ (run cfg toJson digest init es).joined ++
        (run cfg toJson digest init es).aborted,
      t.kind = .transaction ∧ ∃ slot tx,
        Action.received ⟨some (.transaction slot (some tx))⟩ ∈ (run cfg toJson digest init es).log ∧
        toJson tx = some t.payload ∧ t.key = recordKey slot (digest t.payload) :=
  published_run cfg es

theorem run_published_at_transaction :
    let t : Task := ⟨0, recordKey 7 ⟨List.replicate 32 0, rfl⟩, [], .transaction, .delivering⟩;
    let s := run ⟨"a", 2⟩ some (fun _ => ⟨List.replicate 32 0, rfl⟩) init
      [.connect .connected, .subscribe true,
        .receive (.message ⟨some (.transaction 7 (some []))⟩) true];
    t ∈ s.tasks ++ s.joined ++ s.aborted ∧ t.kind = .transaction ∧ ∃ slot tx,
      Action.received ⟨some (.transaction slot (some tx))⟩ ∈ s.log ∧ some tx = some t.payload ∧
      t.key = recordKey slot ⟨List.replicate 32 0, rfl⟩ := by
  intro t s
  have hmem : t ∈ s.tasks ++ s.joined ++ s.aborted :=
    List.mem_append_left _ (List.mem_append_left _ (List.mem_singleton_self t))
  exact ⟨hmem, run_published _ _ _ _ t hmem⟩

section Exactly

variable (toJson : List UInt8 → Option (List UInt8)) (digest : List UInt8 → Digest)

/-- The record `grpc2kafka` builds for an update it received and publishes. -/
def Action.record : Action → Option (List UInt8 × List UInt8 × MessageKind)
  | .received u =>
    match handleUpdate toJson u with
    | .publish slot payload kind => some (recordKey slot (digest payload), payload, kind)
    | _ => none
  | _ => none

@[simp] theorem Action.record_connect (i : Nat) : Action.record toJson digest (.connect i) = none :=
  rfl

@[simp] theorem Action.record_subscribe : Action.record toJson digest .subscribe = none := rfl

@[simp] theorem Action.record_backoff : Action.record toJson digest .backoff = none := rfl

@[simp] theorem Action.record_spawned (i : Nat) : Action.record toJson digest (.spawned i) = none :=
  rfl

/-- The records of the tasks spawned so far are among those the log shows published, each task
its own; only a refused record, which ends the stage, goes without a task. -/
structure State.Exact (s : State) : Prop where
  atMostOnce : (s.all.map Task.record).Subperm (s.log.filterMap (Action.record toJson digest))
  noneLost : s.loc ≠ .done (.error .enqueue) →
    (s.log.filterMap (Action.record toJson digest)).length ≤ s.all.length

variable {toJson digest} {s s' : State}

theorem init_exact : init.Exact toJson digest where
  atMostOnce := by simp [State.all, init]
  noneLost _ := by simp [init]

/-- A transition that adds the records `new` to the tasks and to the log keeps the invariant. -/
theorem State.Exact.extend (h : s.Exact toJson digest) (hl : s.loc ≠ .done (.error .enqueue))
    (new : List (List UInt8 × List UInt8 × MessageKind))
    (hall : (s'.all.map Task.record).Perm (s.all.map Task.record ++ new))
    (hlog : s'.log.filterMap (Action.record toJson digest) =
      s.log.filterMap (Action.record toJson digest) ++ new) : s'.Exact toJson digest where
  atMostOnce := hlog ▸ hall.subperm_right.2 ((List.subperm_append_right new).2 h.atMostOnce)
  noneLost _ := by
    have hle := h.noneLost hl
    have hlen := hall.length_eq
    simp only [hlog, List.length_append, List.length_map] at hle hlen ⊢
    omega

theorem State.Exact.keep (h : s.Exact toJson digest) (hl : s.loc ≠ .done (.error .enqueue))
    (hall : (s'.all.map Task.record).Perm (s.all.map Task.record))
    (hlog : s'.log.filterMap (Action.record toJson digest) =
      s.log.filterMap (Action.record toJson digest)) : s'.Exact toJson digest :=
  h.extend hl [] (by simpa using hall) (by simpa using hlog)

/-- Dropping the set moves its tasks to the dropped ones. -/
theorem State.all_dropTasks (s : State) (next : Loc) : (s.dropTasks next).all.Perm s.all := by
  simpa [State.all, State.dropTasks] using
    (List.perm_append_comm : (s.joined ++ s.aborted ++ s.tasks).Perm (s.tasks ++ _))

/-- A refused record is logged with no task, and the stage returns, dropping the set. -/
theorem State.Exact.refuse (h : s.Exact toJson digest) {a : Action} :
    ({ s with log := s.log ++ [a] }.dropTasks (.done (.error .enqueue))).Exact toJson digest where
  atMostOnce :=
    have hlog : (s.log.filterMap (Action.record toJson digest)).Subperm
        ((s.log ++ [a]).filterMap (Action.record toJson digest)) := by
      simpa only [List.filterMap_append] using (List.sublist_append_left _ _).subperm
    (((State.all_dropTasks { s with log := s.log ++ [a] } _).map Task.record).subperm_right).2
      (h.atMostOnce.trans hlog)
  noneLost hl := absurd rfl hl

variable {cfg : Config}

theorem State.Exact.moveTo (h : s.Exact toJson digest)
    (hl : s.loc ≠ .done (.error .enqueue)) (l : Loc) :
    ({ s with loc := l } : State).Exact toJson digest :=
  h.keep hl (.refl _) rfl

theorem State.Exact.rotate (h : s.Exact toJson digest)
    (hl : s.loc ≠ .done (.error .enqueue)) (l : Loc) :
    (s.rotate cfg l).Exact toJson digest :=
  h.keep hl (by simp [State.all, State.rotate, (endpoints_length_pos cfg).ne']) (by simp)

theorem State.Exact.dropTasks (h : s.Exact toJson digest)
    (hl : s.loc ≠ .done (.error .enqueue)) (next : Loc) : (s.dropTasks next).Exact toJson digest :=
  h.keep hl ((s.all_dropTasks next).map Task.record) rfl

theorem State.Exact.leaveStream (h : s.Exact toJson digest)
    (hl : s.loc ≠ .done (.error .enqueue)) : s.leaveStream.Exact toJson digest := by
  unfold State.leaveStream
  split
  · exact h.dropTasks hl _
  · exact h.moveTo hl _

theorem State.Exact.connect (h : s.Exact toJson digest)
    (hl : s.loc ≠ .done (.error .enqueue)) (c : Connect) :
    (s.connect cfg c).Exact toJson digest := by
  have h' : ({ s with log := s.log ++ [Action.connect s.epIdx] } : State).Exact toJson digest :=
    h.keep hl (.refl _) (by simp)
  unfold State.connect
  split
  · cases c with
    | invalid | connected => exact h'.moveTo hl _
    | failed => exact h'.rotate hl _
  · exact h.moveTo hl _

theorem State.Exact.subscribe (h : s.Exact toJson digest)
    (hl : s.loc ≠ .done (.error .enqueue)) (hidle : s.tasks = []) (ok : Bool) :
    (s.subscribe cfg ok).Exact toJson digest := by
  have h' : ({ s with log := s.log ++ [Action.subscribe] } : State).Exact toJson digest :=
    h.keep hl (.refl _) (by simp)
  unfold State.subscribe
  split
  · exact h'.keep hl (by simp [State.all, hidle]) rfl
  · exact h'.rotate hl _

/-- The spawn of a task with the record of the logged update adds that record to both sides. -/
theorem State.Exact.spawn (h : s.Exact toJson digest)
    (hl : s.loc ≠ .done (.error .enqueue)) {a : Action} {t : Task}
    (ht : Action.record toJson digest a = some t.record) :
    ({ s with log := s.log ++ [a] }.spawn cfg t).Exact toJson digest := by
  have hlast := List.perm_append_singleton t.record (s.joined.map Task.record ++
    s.aborted.map Task.record)
  have hp : ({ s with log := s.log ++ [a] }.push t).Exact toJson digest :=
    h.extend hl [t.record] (by simpa [State.all, State.push] using hlast.symm.append_left _)
      (by simp [State.push, ht])
  unfold State.spawn
  split
  · exact hp.moveTo hl _
  · exact hp.rotate hl _

theorem State.Exact.receive (h : s.Exact toJson digest)
    (hl : s.loc ≠ .done (.error .enqueue)) (item : Item) (queued : Bool) :
    (s.receive cfg toJson digest item queued).Exact toJson digest := by
  unfold State.receive
  match item with
  | .closed | .error => exact h.leaveStream hl
  | .message u =>
    simp only
    split <;> rename_i hu
    · exact State.Exact.dropTasks (s := { s with log := s.log ++ [Action.received u] })
        (h.keep hl (.refl _) (by simp [Action.record, hu])) hl _
    · exact h.keep hl (.refl _) (by simp [Action.record, hu])
    · split
      · exact h.spawn hl (by simp [Action.record, hu, Task.record])
      · exact h.refuse

theorem State.Exact.deliver (h : s.Exact toJson digest)
    (hl : s.loc ≠ .done (.error .enqueue)) (k : Nat) (ok : Bool) :
    (s.deliver k ok).Exact toJson digest := by
  unfold State.deliver
  split
  · rename_i t hk
    have hset : ∀ p n, ({ s with tasks := s.tasks.set k { t with phase := p }, sentTotal := n } :
        State).Exact toJson digest := fun p _ =>
      h.keep hl (by simp only [State.all, List.map_append, List.Perm.refl,
        map_set_of_getElem? Task.record (b := { t with phase := p }) hk rfl]) rfl
    split
    · split <;> exact hset _ _
    · exact h
  · exact h

theorem State.Exact.join (h : s.Exact toJson digest)
    (hl : s.loc ≠ .done (.error .enqueue)) (k : Nat) :
    (s.join cfg k).Exact toJson digest := by
  unfold State.join
  split
  · rename_i t hk
    have h' : ({ s with tasks := s.tasks.eraseIdx k, joined := s.joined ++ [t] } :
        State).Exact toJson digest :=
      h.keep hl (by simpa [State.all] using
        ((perm_eraseIdx_append hk).append_right s.aborted).map Task.record) rfl
    split
    · exact h.dropTasks hl _
    · split
      · exact h'.rotate hl _
      · exact h'
    · exact h
  · exact h

theorem State.Exact.takeShutdown (h : s.Exact toJson digest)
    (hl : s.loc ≠ .done (.error .enqueue)) : s.takeShutdown.Exact toJson digest := by
  unfold State.takeShutdown
  split
  · exact State.Exact.leaveStream (h.keep hl (.refl _) rfl) hl
  · exact h

theorem State.Exact.takeFatal (h : s.Exact toJson digest) (hl : s.loc ≠ .done (.error .enqueue)) :
    s.takeFatal.Exact toJson digest := by
  unfold State.takeFatal
  split
  · split
    · exact State.Exact.leaveStream (h.keep hl (.refl _) rfl) hl
    · split
      · exact State.Exact.dropTasks (s := { s with fatal := .taken }) (h.keep hl (.refl _) rfl) hl _
      · exact h
  · exact h

/-- Every step keeps the invariant; a stage that returned takes no step. -/
theorem State.Exact.after (hi : Inv cfg s) (h : s.Exact toJson digest) (e : Event) :
    (step cfg toJson digest s e).Exact toJson digest := by
  refine if hl : s.loc = .done (.error .enqueue) then by simpa [step, hl, Loc.live] using h
    else ?_
  apply step_rec e h
  case shutdownSignal | producerFatal => exact h.keep hl (.refl _) rfl
  case deliver => exact h.deliver hl
  case connect => exact fun _ => h.connect hl
  case subscribe => exact fun hs => h.subscribe hl (hi.idle (.inr hs))
  case takeShutdown => exact h.takeShutdown hl
  case takeFatal => exact h.takeFatal hl
  case repoll => unfold State.repoll; split <;> [exact h.dropTasks hl _; exact h]
  case join => exact fun _ => h.join hl
  case joinNone => exact fun _ => h.dropTasks hl _
  case receive => exact fun _ => h.receive hl

end Exactly

theorem exact_run (cfg : Config) (toJson : List UInt8 → Option (List UInt8))
    (digest : List UInt8 → Digest) (es : List Event) :
    (run cfg toJson digest init es).Exact toJson digest :=
  (run_induction (P := fun s => Inv cfg s ∧ s.Exact toJson digest) es ⟨inv_init, init_exact⟩
    fun _ e h => ⟨h.1.after e, h.2.after h.1 e⟩).2

/-- For every run of `grpc2kafka`, the records of the tasks spawned so far, whether still in the
set, joined or dropped, are among the records of the published updates the stream yielded, none
twice; and unless the stage returned because `send_result` refused a record, they are exactly
those records: each published update has exactly one task. -/
theorem run_records_exactly_once (cfg : Config) (toJson : List UInt8 → Option (List UInt8))
    (digest : List UInt8 → Digest) (es : List Event) :
    ((run cfg toJson digest init es).all.map Task.record).Subperm
        ((run cfg toJson digest init es).log.filterMap (Action.record toJson digest)) ∧
      ((run cfg toJson digest init es).loc ≠ .done (.error .enqueue) →
        ((run cfg toJson digest init es).all.map Task.record).Perm
          ((run cfg toJson digest init es).log.filterMap (Action.record toJson digest))) := by
  have h := exact_run cfg toJson digest es
  exact ⟨h.atMostOnce, fun hl => h.atMostOnce.perm_of_length_le (by simpa using h.noneLost hl)⟩

/-- While `grpc2kafka` runs, unless the producer's sideband was taken, it has dropped no publish
task: a shutdown, a closed stream and a stream error all end their round through the drain,
which empties the set first. So every published update has its task in the set or joined. -/
theorem run_keeps_tasks_without_fatal (cfg : Config) (toJson : List UInt8 → Option (List UInt8))
    (digest : List UInt8 → Digest) (es : List Event)
    (hf : (run cfg toJson digest init es).fatal ≠ .taken)
    (hlive : (run cfg toJson digest init es).loc.live) :
    (run cfg toJson digest init es).aborted = [] ∧
      (((run cfg toJson digest init es).tasks ++ (run cfg toJson digest init es).joined).map
        Task.record).Perm
        ((run cfg toJson digest init es).log.filterMap (Action.record toJson digest)) := by
  have ha : (run cfg toJson digest init es).aborted = [] := (inv_run es).kept hf hlive
  have hl : (run cfg toJson digest init es).loc ≠ .done (.error .enqueue) :=
    fun hd => by simp [hd, Loc.live] at hlive
  have h := exact_run cfg toJson digest es
  refine ⟨ha, ?_⟩
  simpa [State.all, ha] using h.atMostOnce.perm_of_length_le (by simpa using h.noneLost hl)

/-- A published transaction, then a closed stream: the drain keeps the task. -/
theorem run_keeps_tasks_without_fatal_at_close :
    let s := run ⟨"a", 2⟩ some (fun _ => ⟨List.replicate 32 0, rfl⟩) init
      [.connect .connected, .subscribe true,
        .receive (.message ⟨some (.transaction 0 (some []))⟩) true, .receive .closed false];
    s.fatal ≠ .taken ∧ s.loc.live ∧ s.aborted = [] ∧ s.tasks.length = 1 := by
  intro s
  have hf : s.fatal ≠ .taken := by decide
  have hlive : s.loc.live := by decide
  exact ⟨hf, hlive, (run_keeps_tasks_without_fatal _ _ _ _ hf hlive).1, by decide⟩

end YellowstoneKafka.Grpc2Kafka
