import YellowstoneKafka.Grpc2Kafka.Machine

/-!
# What every run of `grpc2kafka` keeps

One invariant, `Inv`, holds initially and is kept by every event, so it holds after any run.
It keeps the `JoinSet` empty between subscriptions and keeps the ledger of tasks: each spawned
task is in the set, was joined or was dropped, every joined task was delivered, and `sent_inc`
counted each delivered task once. While the stage runs, tasks have been dropped only if the
sideband was taken; a return or a panic drops what is in flight. The cursor
`ep_idx` stays below the number of endpoints, so neither `endpoints[ep_idx]` nor `% ep_count`
panics, and nothing makes the stage return `Ok(())`. The bound on the set is the scheduler's, in
`Grpc2Kafka.Scheduling`.
-/

namespace YellowstoneKafka.Grpc2Kafka

/-- A task is counted by `sent_inc`. -/
def Task.isDelivered (t : Task) : Bool := t.phase = .delivered

/-- The program points a run reaches: no `Ok(())`, and no panic but `unreachable!` and the
repoll of a taken future. -/
def Loc.reachable : Loc → Bool
  | .done (.ok ()) | .panicked .index | .panicked .remainder => false
  | _ => true

/-- The invariant of `grpc2kafka` with the endpoints of `cfg`. -/
structure Inv (cfg : Config) (s : State) : Prop where
  idle : s.loc = .connecting ∨ s.loc = .subscribing → s.tasks = []
  ledger : s.spawned = s.tasks.length + s.joined.length + s.aborted.length
  phases : ∀ t ∈ s.tasks,
    t.phase = .delivering ∨ t.phase = .delivered ∨ t.phase = .failed .delivery
  joined : ∀ t ∈ s.joined, t.phase = .delivered
  sent : s.sentTotal = (s.tasks ++ s.joined ++ s.aborted).countP Task.isDelivered
  flag : s.kafkaError = true → s.fatal = .taken
  kept : s.fatal ≠ .taken → s.loc.live → s.aborted = []
  cursor : s.epIdx < (endpoints cfg).length
  reachable : s.loc.reachable

variable {cfg : Config} {toJson : List UInt8 → Option (List UInt8)}
  {digest : List UInt8 → Digest} {s : State}

theorem inv_init : Inv cfg init where
  idle := by simp [init]
  ledger := rfl
  phases := by simp [init]
  joined := by simp [init]
  sent := rfl
  flag := by simp [init]
  kept := by simp [init]
  cursor := endpoints_length_pos cfg
  reachable := rfl

/-- The panics a state of the invariant can be in. -/
theorem Inv.panics (h : Inv cfg s) {p : Panic} (hp : s.loc = .panicked p) :
    p = .unreachable ∨ p = .repoll := by
  have hr := h.reachable
  rw [hp] at hr
  cases p with
  | unreachable => exact .inl rfl
  | repoll => exact .inr rfl
  | index | remainder => exact absurd hr (by decide)

theorem Inv.relog (h : Inv cfg s) (g : List Action) : Inv cfg { s with log := g } := { h with }

/-- The same ledger and signals at another program point, reached from a live one. -/
theorem Inv.moveTo (h : Inv cfg s) (l : Loc) (i : Nat) (g : List Action)
    (hi : i < (endpoints cfg).length) (hidle : l = .connecting ∨ l = .subscribing → s.tasks = [])
    (hl : l.reachable) (hlive : s.loc.live) : Inv cfg { s with loc := l, epIdx := i, log := g } :=
  { h with cursor := hi, idle := hidle, reachable := hl, kept := fun hf _ => h.kept hf hlive }

/-- The cursor advance: `ep_count` is positive, so the remainder is a valid index. -/
theorem Inv.rotate {l : Loc} (h : Inv cfg { s with loc := l }) : Inv cfg (s.rotate cfg l) := by
  have hpos := endpoints_length_pos cfg
  unfold State.rotate
  rw [if_neg hpos.ne']
  exact { h with cursor := Nat.mod_lt _ hpos }

/-- Dropping the `JoinSet` moves its tasks to the dropped ones. While the stage runs this
happens only once the sideband was taken; otherwise the stage has returned or panicked. -/
theorem Inv.dropTasks (h : Inv cfg s) {next : Loc} (hf : s.fatal = .taken ∨ next.live = false)
    (hnext : next.reachable) : Inv cfg (s.dropTasks next) :=
  { h with
    idle := fun _ => rfl
    ledger := by simp [State.dropTasks, h.ledger]; omega
    phases := by simp [State.dropTasks]
    sent := by simp [State.dropTasks, h.sent]; omega
    kept := fun hp hl => absurd ((hf.resolve_left hp).symm.trans hl) Bool.false_ne_true
    reachable := hnext }

theorem Inv.leaveStream (h : Inv cfg s) (hlive : s.loc.live) : Inv cfg s.leaveStream := by
  unfold State.leaveStream
  split
  · exact h.dropTasks (.inl (h.flag ‹_›)) rfl
  · exact h.moveTo _ s.epIdx s.log h.cursor (by simp) rfl hlive

theorem Inv.connect (h : Inv cfg s) (hl : s.loc = .connecting) (c : Connect) :
    Inv cfg (s.connect cfg c) := by
  have hidle := h.idle (.inl hl)
  have hlive : s.loc.live := by simp [hl, Loc.live]
  have h' := h.relog (s.log ++ [Action.connect s.epIdx])
  unfold State.connect
  split
  · cases c with
    | invalid => exact h'.moveTo _ _ _ h.cursor (by simp) rfl hlive
    | failed => exact (h'.moveTo .connecting _ _ h.cursor (fun _ => hidle) rfl hlive).rotate
    | connected => exact h'.moveTo _ _ _ h.cursor (fun _ => hidle) rfl hlive
  · exact absurd h.cursor ‹_›

theorem Inv.subscribe (h : Inv cfg s) (hl : s.loc = .subscribing) (ok : Bool) :
    Inv cfg (s.subscribe cfg ok) := by
  have hidle := h.idle (.inr hl)
  have hlive : s.loc.live := by simp [hl, Loc.live]
  have h' := h.relog (s.log ++ [Action.subscribe])
  unfold State.subscribe
  split
  · exact { h with
      idle := fun _ => rfl
      ledger := by simp [h.ledger, hidle]
      phases := by simp
      sent := by simp [h.sent, hidle]
      kept := fun hf _ => h.kept hf hlive
      reachable := rfl }
  · exact (h'.moveTo .connecting _ _ h.cursor (fun _ => hidle) rfl hlive).rotate

/-- A spawned task joins the ledger, in the set. -/
theorem Inv.push (h : Inv cfg s) (hlive : s.loc.live) (t : Task) (ht : t.phase = .delivering)
    (l : Loc) (hidle : l ≠ .connecting ∧ l ≠ .subscribing) (hl : l.reachable) :
    Inv cfg { s.push t with loc := l } :=
  { h with
    idle := by simp [hidle]
    ledger := by simp [State.push, h.ledger]; omega
    phases := by
      simp only [State.push, List.mem_append, List.mem_singleton]
      rintro u (hu | rfl)
      · exact h.phases u hu
      · exact .inl ht
    sent := by simp [State.push, h.sent, Task.isDelivered, ht]
    kept := fun hf _ => h.kept hf hlive
    reachable := hl }

theorem Inv.spawn (h : Inv cfg s) (hlive : s.loc.live) (t : Task) (ht : t.phase = .delivering) :
    Inv cfg (s.spawn cfg t) := by
  unfold State.spawn
  split
  · exact h.push hlive t ht _ (by simp) rfl
  · exact (h.push hlive t ht .streaming (by simp) rfl).rotate

theorem Inv.receive (h : Inv cfg s) (hs : s.loc = .streaming) (item : Item) (queued : Bool) :
    Inv cfg (s.receive cfg toJson digest item queued) := by
  have hlive : s.loc.live := by simp [hs, Loc.live]
  unfold State.receive
  match item with
  | .closed | .error => exact h.leaveStream hlive
  | .message u =>
    have h' := h.relog (s.log ++ [Action.received u])
    simp only
    split
    · exact h'.dropTasks (.inr rfl) rfl
    · exact h'
    · split
      · exact h'.spawn hlive _ rfl
      · exact h'.dropTasks (.inr rfl) rfl

/-- The delivery future of a task resolved: its phase is settled and `sent_inc` follows. -/
theorem Inv.settle (h : Inv cfg s) {k : Nat} {t : Task} (hk : s.tasks[k]? = some t)
    (hdel : t.phase = .delivering) {p : Phase} (hp : p = .delivered ∨ p = .failed .delivery)
    {sentTotal : Nat} (hsent : sentTotal = s.sentTotal + if p = .delivered then 1 else 0) :
    Inv cfg { s with tasks := s.tasks.set k { t with phase := p }, sentTotal := sentTotal } :=
  have hc := countP_set_add Task.isDelivered { t with phase := p } hk
  { h with
    idle := fun hi => by simp [h.idle hi]
    ledger := by simp [h.ledger]
    phases := fun u hu => by
      rcases List.mem_or_eq_of_mem_set hu with hu | rfl
      · exact h.phases u hu
      · rcases hp with hp | hp <;> simp [hp]
    sent := by
      have := h.sent
      simp only [List.countP_append, Task.isDelivered, hdel] at hc this ⊢
      rcases hp with rfl | rfl <;> simp at hc hsent <;> omega }

theorem Inv.deliver (h : Inv cfg s) (k : Nat) (ok : Bool) : Inv cfg (s.deliver k ok) := by
  unfold State.deliver
  split
  · rename_i t hk
    split
    · split
      · exact h.settle hk ‹_› (.inl rfl) (by simp)
      · exact h.settle hk ‹_› (.inr rfl) (by simp)
    · exact h
  · exact h

/-- `join_next` returned the delivered task at `k`: it leaves the set for the joined ones. -/
theorem Inv.retire (h : Inv cfg s) (hl : s.loc.joining) {k : Nat} {t : Task}
    (hk : s.tasks[k]? = some t) (hdel : t.phase = .delivered) :
    Inv cfg { s with tasks := s.tasks.eraseIdx k, joined := s.joined ++ [t] } :=
  have hlen : (s.tasks.eraseIdx k).length = s.tasks.length - 1 := by
    rw [List.length_eraseIdx, if_pos (List.getElem?_eq_some_iff.mp hk).1]
  have hpos : 0 < s.tasks.length := List.length_pos_of_mem (List.getElem?_mem hk)
  { h with
    idle := fun hi => by
      simp only at hi
      rcases hi with hi | hi <;> simp [hi, Loc.joining] at hl
    ledger := by simp [hlen, h.ledger]; omega
    phases := fun u hu => h.phases u (List.mem_of_mem_eraseIdx hu)
    joined := by
      simp only [List.mem_append, List.mem_singleton]
      rintro u (hu | rfl)
      · exact h.joined u hu
      · exact hdel
    sent := by
      have := countP_eraseIdx_append Task.isDelivered (j := s.joined) hk
      simp only [h.sent, List.countP_append] at this ⊢
      omega }

/-- `join_next` is polled at a live program point. -/
theorem Loc.live_of_joining {l : Loc} (hl : l.joining) : l.live := by
  cases l <;> simp_all [Loc.joining, Loc.live]

theorem Inv.join (h : Inv cfg s) (hl : s.loc.joining) (k : Nat) : Inv cfg (s.join cfg k) := by
  have hlive := Loc.live_of_joining hl
  unfold State.join
  split
  · rename_i t hk
    split
    · exact h.dropTasks (.inr rfl) rfl
    · rename_i hout
      have hdel : t.phase = .delivered := by
        rcases Phase.output_eq_ok.mp hout with hr | hr
        · rcases h.phases t (List.getElem?_mem hk) with hp | hp | hp <;> simp [hp] at hr
        · exact hr
      have h' := h.retire hl hk hdel
      split
      · exact (h'.moveTo .streaming _ _ h.cursor (by simp) rfl hlive).rotate
      · exact h'
    · exact h
  · exact h

/-- A `select!` takes a signal at a live program point. -/
theorem Loc.live_of_selecting {l : Loc} (hl : l.selecting) : l.live := by
  cases l <;> simp_all [Loc.selecting, Loc.live]

theorem Inv.takeShutdown (h : Inv cfg s) : Inv cfg s.takeShutdown := by
  unfold State.takeShutdown
  split
  · exact (show Inv cfg { s with shutdown := .taken } from { h with }).leaveStream
      (Loc.live_of_selecting ‹_ ∧ _›.1)
  · exact h

theorem Inv.takeFatal (h : Inv cfg s) : Inv cfg s.takeFatal := by
  unfold State.takeFatal
  split
  · split
    · have h' : Inv cfg { s with fatal := .taken, kafkaError := true } :=
        { h with flag := fun _ => rfl, kept := by simp }
      exact h'.leaveStream (Loc.live_of_selecting ‹_›)
    · split
      · have h' : Inv cfg { s with fatal := .taken } :=
          { h with flag := fun _ => rfl, kept := by simp }
        exact h'.dropTasks (.inl rfl) rfl
      · exact h
  · exact h

theorem Inv.repoll (h : Inv cfg s) : Inv cfg s.repoll := by
  unfold State.repoll
  split
  · exact h.dropTasks (.inr rfl) rfl
  · exact h

/-- Every event keeps the invariant. -/
theorem Inv.after (h : Inv cfg s) (e : Event) : Inv cfg (step cfg toJson digest s e) := by
  apply step_rec e h
  case shutdownSignal => exact { h with }
  case producerFatal =>
    exact { h with flag := fun hk => by simp [h.flag hk, Signal.fire]
                   kept := fun hf => h.kept fun ht => hf (by simp [ht, Signal.fire]) }
  case deliver => exact h.deliver
  case connect => exact h.connect
  case subscribe => exact h.subscribe
  case takeShutdown => exact h.takeShutdown
  case takeFatal => exact h.takeFatal
  case repoll => exact h.repoll
  case join => exact h.join
  case joinNone =>
    exact fun hd => by
      simpa [State.dropTasks, hd.2] using
        h.moveTo .connecting s.epIdx s.log h.cursor (fun _ => hd.2) rfl (by simp [hd.1, Loc.live])
  case receive => exact h.receive

/-- The invariant holds after every run. -/
theorem inv_run (es : List Event) : Inv cfg (run cfg toJson digest init es) :=
  run_induction es inv_init fun _ e h => h.after e

end YellowstoneKafka.Grpc2Kafka
