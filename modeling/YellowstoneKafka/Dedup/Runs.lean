import YellowstoneKafka.Dedup.Invariants

/-!
# Runs of `dedup`

What the invariant says about whole runs: the drain before `Ok(())`, and what reaches
`kafka_output`. Every queued record is a consumed message's own key and payload, after the
backend said `true` for that message's pair, and no message is queued twice; a backend that says
`true` once per pair therefore lets at most one record per pair through. The stage stops on
`kafka_error_rx` only, and that future waits for both sidebands.

Between the consumer and the tasks nothing is lost or doubled: the tasks in the set or joined
are, up to order, one per consumed message whose key passed the checks, back-pressure or not.
Each task asks the backend once, so `allowed` is called at most once per such message, with its
own pair, and exactly once when no task still waits for an answer.
-/

namespace YellowstoneKafka.Dedup

variable {q : Nat}

/-- When `dedup` returns `Ok(())` and `kafka_error_rx` was not taken, the drain joined every
task: each was refused by the backend and counted by `dedup_inc`, or delivered and counted by
`sent_inc`. -/
theorem run_ok_drained (es : List Event) (hok : (run q init es).loc = .done (.ok ()))
    (hf : (run q init es).fatal ≠ .taken) :
    (run q init es).tasks = [] ∧
      (∀ t ∈ (run q init es).joined, t.phase = .refused ∨ t.phase = .delivered) ∧
      (run q init es).sentTotal = (run q init es).joined.countP Task.isDelivered ∧
      (run q init es).dedupTotal = (run q init es).joined.countP Task.isRefused := by
  have h := inv_run (q := q) es
  have htasks : (run q init es).tasks = [] := (h.returned hok).resolve_right hf
  exact ⟨htasks, h.joined, by simpa [htasks] using h.sentTotal,
    by simpa [htasks] using h.dedupTotal⟩

/-- Every record `dedup` queues on `kafka_output` carries the key and the payload of the consumed
message at its position; that message's key is UTF-8 and parses to the record's pair, and the
backend said `true` to that message's own call. No message is queued twice, so a backend that
says `true` at most once per pair lets at most one record per pair through. -/
theorem sent_from_allowed_messages (es : List Event) :
    (∀ p ∈ (run q init es).sent, ∃ m, (run q init es).received[p.1]? = some m ∧
      m.key = some p.2.key ∧ m.payload = some p.2.payload ∧ validUtf8 p.2.key ∧
      parseKey p.2.key = some (p.2.slot, p.2.hash) ∧
      ⟨p.1, p.2.slot, p.2.hash, true⟩ ∈ (run q init es).calls) ∧
    ((run q init es).sent.map Prod.fst).Nodup ∧
    ((((run q init es).calls.filter Call.answer).map Call.pair).Nodup →
      ((run q init es).sent.map pairOf).Nodup) := by
  have h := inv_run (q := q) es
  refine ⟨fun p hp => ?_, ?_, h.pairs.nodup⟩
  · obtain ⟨hacc, hcall⟩ := h.sends p hp
    obtain ⟨m, hm, hk⟩ := Option.bind_eq_some.mp hacc
    exact ⟨m, hm, (keyed_key_payload hk).1, (keyed_key_payload hk).2.1,
      (keyed_key_payload hk).2.2.1, (keyed_key_payload hk).2.2.2, hcall⟩
  · refine List.nodup_iff_count_le_one.mpr fun i => ?_
    have := h.once i
    simp only [List.count_eq_countP, List.countP_map] at this ⊢
    have heq : ((· == i) ∘ Prod.fst : Nat × Keyed → Bool) = fun x => decide (x.1 = i) :=
      funext fun x => Bool.beq_eq_decide_eq x.1 i
    rw [heq]
    omega

/-- With the consumer's sideband fired and the producer's not, `kafka_error_rx` stays pending:
the loop receives a message, spawns its task, which queues the record, and shutdown still
leads to the drain. -/
theorem consumer_sideband_alone_does_not_stop :
    let m : Message := ⟨some ([53, 95] ++ encode (List.replicate 32 0)), some []⟩;
    let s := run 2 init [.consumerFatal, .receive (.message m), .allow 0 true true,
      .shutdownSignal, .takeShutdown];
    s.consumerFailed = true ∧ s.fatal = .pending ∧ s.received = [m] ∧ s.sent.length = 1 ∧
      s.loc = .draining := by
  decide

section Spawns

/-- The consumed messages whose key passed the checks, with their positions and records. -/
def keptRecords (received : List Message) : List (Nat × Keyed) :=
  received.enum.filterMap fun (i, m) => m.keyed.map (i, ·)

theorem keptRecords_append (received : List Message) (m : Message) :
    keptRecords (received ++ [m]) =
      keptRecords received ++ (m.keyed.map (received.length, ·)).toList := by
  simp only [keptRecords, List.enum_append, List.enumFrom_singleton, List.filterMap_append]
  cases hm : m.keyed <;> simp [hm]

/-- The message and the record a task was spawned for. -/
def Task.origin (t : Task) : Nat × Keyed := (t.source, t.record)

/-- The tasks in the set or joined are one per kept message. -/
def State.OneTask (s : State) : Prop :=
  ((s.tasks ++ s.joined).map Task.origin).Perm (keptRecords s.received)

variable {s : State}

theorem init_oneTask : init.OneTask := by simp [State.OneTask, init, keptRecords]

theorem State.OneTask.setPhase (h : s.OneTask) {k : Nat} {t : Task} (hk : s.tasks[k]? = some t)
    (p : Phase) : ({ s with tasks := s.tasks.set k { t with phase := p } } : State).OneTask := by
  simpa only [State.OneTask, List.map_append,
    map_set_of_getElem? Task.origin (b := { t with phase := p }) hk rfl] using h

theorem State.OneTask.allow (h : s.OneTask) (k : Nat) (answer queued : Bool) :
    (s.allow k answer queued).OneTask := by
  unfold State.allow
  split
  · rename_i t hk
    split
    · split
      · split <;> exact h.setPhase hk _
      · exact h.setPhase hk _
    · exact h
  · exact h

theorem State.OneTask.deliver (h : s.OneTask) (k : Nat) (ok : Bool) :
    (s.deliver k ok).OneTask := by
  unfold State.deliver
  split
  · rename_i t hk
    split
    · split <;> exact h.setPhase hk _
    · exact h
  · exact h

theorem State.OneTask.join (h : s.OneTask) (k : Nat) : (s.join k).OneTask := by
  unfold State.join
  split
  · rename_i t hk
    split
    · exact h
    · exact ((perm_eraseIdx_append hk).map Task.origin).trans h
    · exact h
  · exact h

/-- A kept message spawns its task; any other consumed message spawns none. -/
theorem State.OneTask.receive (h : s.OneTask) (item : Item) : (s.receive q item).OneTask := by
  unfold State.receive
  match item with
  | .error => exact h
  | .message m =>
    simp only
    split
    · rename_i hm
      simpa [State.OneTask, keptRecords_append, hm] using h
    · rename_i r hm
      have h' : ({ s with received := s.received ++ [m],
                          tasks := s.tasks ++ [⟨s.received.length, r, .allowing⟩] } :
          State).OneTask := by
        simp only [State.OneTask, keptRecords_append, hm, List.map_append, List.append_assoc]
        exact (List.perm_append_comm.append_left _).trans
          (by simpa using h.append_right [(s.received.length, r)])
      split <;> exact h'

theorem State.OneTask.after (h : s.OneTask) (e : Event) : (step q s e).OneTask := by
  apply step_rec e h
  case shutdownSignal => exact h
  case consumerFatal | producerFatal => unfold State.sideband; split <;> exact h
  case allow => exact h.allow
  case deliver => exact h.deliver
  case takeShutdown => unfold State.takeShutdown State.leaveLoop; split_ifs <;> exact h
  case takeFatal => unfold State.takeFatal State.leaveLoop; split_ifs <;> exact h
  case join => exact fun _ => h.join
  case joinNone => exact fun _ => h
  case receive => exact fun _ => h.receive

/-- The message position and the pair a call asks about. -/
def Call.query (c : Call) : Nat × UInt64 × Digest := (c.source, c.slot, c.hash)

/-- The message position and the pair a task asks about. -/
def Task.query (t : Task) : Nat × UInt64 × Digest := (t.source, t.record.slot, t.record.hash)

/-- The task has not yet called `allowed`. -/
def Task.asking (t : Task) : Bool := t.phase = .allowing

/-- Each task has made its call, or still has to, and no other call was made. -/
def State.Asked (s : State) : Prop :=
  ∀ x, s.calls.countP (·.query = x) + s.tasks.countP (fun u => u.query = x && u.asking) =
    (s.tasks ++ s.joined).countP (·.query = x)

/-- The task at `k` leaves `allowing`, or was past it already; `calls` gains its call if it asked
now. -/
theorem State.Asked.setPhase (h : s.Asked) {k : Nat} {t : Task} (hk : s.tasks[k]? = some t)
    {p : Phase} (hp : p ≠ .allowing) (calls : List Call)
    (hcalls : ∀ x, calls.countP (·.query = x) =
      s.calls.countP (·.query = x) + if t.query = x && t.asking then 1 else 0) :
    ({ s with calls := calls, tasks := s.tasks.set k { t with phase := p } } : State).Asked := by
  intro x
  have h1 := countP_set_add (fun u => u.query = x && u.asking) { t with phase := p } hk
  have h2 := countP_set_add (·.query = x) { t with phase := p } hk
  have h3 := h x
  have h4 := hcalls x
  have hq : ({ t with phase := p } : Task).query = t.query := rfl
  have ha : ({ t with phase := p } : Task).asking = false := by simp [Task.asking, hp]
  simp only [hq, ha, Bool.and_false, Bool.false_eq_true, ↓reduceIte] at h1 h2
  simp only [List.countP_append] at h3 ⊢
  omega

theorem State.Asked.allow (h : s.Asked) (k : Nat) (answer queued : Bool) :
    (s.allow k answer queued).Asked := by
  unfold State.allow
  split
  · rename_i t hk
    split
    · rename_i ht
      have hc := fun p (hp : p ≠ Phase.allowing) => h.setPhase hk hp
        (s.calls ++ [⟨t.source, t.record.slot, t.record.hash, answer⟩])
        fun x => by
          simp only [List.countP_append, List.countP_singleton, Task.asking, ht, decide_True,
            Bool.and_true]
          rfl
      split
      · split
        · exact hc _ (by simp)
        · exact hc _ (by simp)
      · exact hc _ (by simp)
    · exact h
  · exact h

theorem State.Asked.deliver (h : s.Asked) (k : Nat) (ok : Bool) : (s.deliver k ok).Asked := by
  unfold State.deliver
  split
  · rename_i t hk
    split
    · rename_i ht
      have hc := fun p (hp : p ≠ Phase.allowing) => h.setPhase hk hp s.calls
        (by simp [Task.asking, ht])
      split
      · exact hc _ (by simp)
      · exact hc _ (by simp)
    · exact h
  · exact h

theorem State.Asked.join (h : s.Asked) (k : Nat) : (s.join k).Asked := by
  unfold State.join
  split
  · rename_i t hk
    split
    · exact h
    · rename_i hout
      intro x
      have hna : t.asking = false := by
        simp only [Task.asking, decide_eq_false_iff_not]
        rintro hp
        simp [hp, Phase.output] at hout
      have h1 := countP_eraseIdx_add (fun u => u.query = x && u.asking) hk
      have h2 := countP_eraseIdx_append (·.query = x) (j := s.joined) hk
      have h3 := h x
      simp only [hna, Bool.and_false, Bool.false_eq_true, ↓reduceIte] at h1
      dsimp only
      rw [h2]
      omega
    · exact h
  · exact h

theorem State.Asked.receive (h : s.Asked) (item : Item) : (s.receive q item).Asked := by
  unfold State.receive
  match item with
  | .error => exact h
  | .message m =>
    simp only
    split
    · exact h
    · rename_i r _
      have h' : ({ s with received := s.received ++ [m],
                          tasks := s.tasks ++ [⟨s.received.length, r, .allowing⟩] } :
          State).Asked := fun x => by
        have h3 := h x
        simp only [List.countP_append, List.countP_singleton, Task.asking] at h3 ⊢
        simp only [decide_True, Bool.and_true]
        omega
      split <;> exact h'

theorem State.Asked.after (h : s.Asked) (e : Event) : (step q s e).Asked := by
  apply step_rec e h
  case shutdownSignal => exact h
  case consumerFatal | producerFatal => unfold State.sideband; split <;> exact h
  case allow => exact h.allow
  case deliver => exact h.deliver
  case takeShutdown => unfold State.takeShutdown State.leaveLoop; split_ifs <;> exact h
  case takeFatal => unfold State.takeFatal State.leaveLoop; split_ifs <;> exact h
  case join => exact fun _ => h.join
  case joinNone => exact fun _ => h
  case receive => exact fun _ => h.receive

theorem oneTask_run (es : List Event) : (run q init es).OneTask :=
  run_induction es init_oneTask fun _ e h => h.after e

end Spawns

/-- For every run of `dedup`, the tasks spawned so far, in the set or joined, are one per consumed
message whose key passed the checks, with that message's position and record: no kept message
goes without a task and none has two. -/
theorem run_one_task_per_kept_message (es : List Event) :
    (((run q init es).tasks ++ (run q init es).joined).map Task.origin).Perm
      (keptRecords (run q init es).received) :=
  oneTask_run es

end YellowstoneKafka.Dedup
