import YellowstoneKafka.Grpc2Kafka.Invariants
import YellowstoneKafka.Scheduler

/-!
# `grpc2kafka` moves its `JoinSet` as the scheduler does

The scheduler's view of a state is the number of tasks in the `JoinSet` and whether the stream
loop is about to receive, waits on back-pressure, or receives nothing. Every event moves the
view by scheduler steps: a spawn is an `accept`, a joined task a `complete`, leaving the stream
loop a `close`, dropping the set a `drop`, and a new subscription a `reopen`. So the bound of
the scheduler holds at every reachable state.
-/

namespace YellowstoneKafka.Grpc2Kafka

open Scheduler (Step Mode)
open Relation (ReflTransGen)

/-- Whether the stream loop takes a message here. -/
def Loc.mode : Loc → Mode
  | .streaming => .accepting
  | .backPressure => .blocked
  | _ => .closed

/-- The scheduler's view of a state. -/
def State.sched (s : State) : Scheduler.State := ⟨s.tasks.length, s.loc.mode⟩

variable {cfg : Config} {toJson : List UInt8 → Option (List UInt8)}
  {digest : List UInt8 → Digest} {s : State}

theorem sched_close (s : State) {l : Loc} (hl : l.mode = .closed) :
    ReflTransGen (Step cfg.kafkaQueueSize) s.sched { s with loc := l }.sched := by
  simp only [State.sched, hl]
  exact .single (.close _ _)

theorem sched_dropTasks (s : State) {next : Loc} (hn : next.mode = .closed) :
    ReflTransGen (Step cfg.kafkaQueueSize) s.sched (s.dropTasks next).sched := by
  simp only [State.sched, State.dropTasks, hn]
  exact .tail (.single (.close _ _)) (.drop _)

theorem sched_leaveStream (s : State) :
    ReflTransGen (Step cfg.kafkaQueueSize) s.sched s.leaveStream.sched := by
  unfold State.leaveStream
  split
  · exact sched_dropTasks s rfl
  · exact sched_close s rfl

theorem sched_rotate (s : State) (l : Loc) :
    (s.rotate cfg l).sched = { s with loc := l }.sched := by
  simp [State.sched]

theorem sched_connect (hl : s.loc = .connecting) (c : Connect) :
    (s.connect cfg c).sched = s.sched := by
  unfold State.connect
  split
  · cases c <;> simp [State.sched, sched_rotate, Loc.mode, hl]
  · simp [State.sched, Loc.mode, hl]

theorem sched_subscribe (h : Inv cfg s) (hl : s.loc = .subscribing) (ok : Bool) :
    ReflTransGen (Step cfg.kafkaQueueSize) s.sched (s.subscribe cfg ok).sched := by
  unfold State.subscribe
  split
  · simp only [State.sched, h.idle (.inr hl), hl, Loc.mode, List.length_nil]
    exact .single .reopen
  · rw [sched_rotate]
    simp only [State.sched, hl, Loc.mode]
    exact .refl

/-- A spawn is an `accept`; without back-pressure the cursor advance keeps the loop open. -/
theorem sched_spawn (hl : s.loc = .streaming) (t : Task) :
    ReflTransGen (Step cfg.kafkaQueueSize) s.sched (s.spawn cfg t).sched := by
  have hstep := Step.accept (q := cfg.kafkaQueueSize) s.tasks.length
  unfold State.spawn
  split <;> rename_i hfull <;>
    simp only [queueFull, State.push, List.length_append, List.length_singleton,
      decide_eq_true_eq] at hfull
  · simp only [State.sched, State.push, hl, Loc.mode, if_pos hfull, List.length_append,
      List.length_singleton] at hstep ⊢
    exact .single hstep
  · rw [sched_rotate]
    simp only [State.sched, State.push, hl, Loc.mode, if_neg hfull, List.length_append,
      List.length_singleton] at hstep ⊢
    exact .single hstep

theorem sched_receive (hl : s.loc = .streaming) (item : Item) (queued : Bool) :
    ReflTransGen (Step cfg.kafkaQueueSize) s.sched
      (s.receive cfg toJson digest item queued).sched := by
  unfold State.receive
  match item with
  | .closed | .error => exact sched_leaveStream s
  | .message u =>
    simp only
    split
    · exact sched_dropTasks s rfl
    · exact .refl
    · split
      · exact sched_spawn (s := { s with log := s.log ++ [Action.received u] }) hl _
      · exact sched_dropTasks s rfl

theorem sched_deliver (k : Nat) (ok : Bool) : (s.deliver k ok).sched = s.sched := by
  unfold State.deliver
  split
  · split
    · split <;> simp [State.sched]
    · rfl
  · rfl

/-- A joined task is a `complete`; after back-pressure the cursor advance reopens the loop. -/
theorem sched_join (k : Nat) :
    ReflTransGen (Step cfg.kafkaQueueSize) s.sched (s.join cfg k).sched := by
  unfold State.join
  split
  · rename_i t hk
    obtain ⟨hlt, -⟩ := List.getElem?_eq_some_iff.mp hk
    obtain ⟨n, hn⟩ : ∃ n, s.tasks.length = n + 1 := ⟨s.tasks.length - 1, by omega⟩
    have hlen : (s.tasks.eraseIdx k).length = n := by
      rw [List.length_eraseIdx, if_pos hlt, hn]; rfl
    have hstep := Step.complete (q := cfg.kafkaQueueSize) n s.loc.mode
    split
    · exact sched_dropTasks s rfl
    · split
      · rename_i hbp
        rw [sched_rotate]
        simp only [State.sched, hlen, hn, hbp, Loc.mode, if_true] at hstep ⊢
        exact .single hstep
      · rename_i hbp
        have hm : s.loc.mode ≠ .blocked := by
          cases hloc : s.loc <;> simp_all [Loc.mode]
        simp only [State.sched, hlen, hn, if_neg hm] at hstep ⊢
        exact .single hstep
    · exact .refl
  · exact .refl

theorem sched_takeShutdown (s : State) :
    ReflTransGen (Step cfg.kafkaQueueSize) s.sched s.takeShutdown.sched := by
  unfold State.takeShutdown
  split
  · exact sched_leaveStream { s with shutdown := .taken }
  · exact .refl

theorem sched_takeFatal (s : State) :
    ReflTransGen (Step cfg.kafkaQueueSize) s.sched s.takeFatal.sched := by
  unfold State.takeFatal
  split
  · split
    · exact sched_leaveStream { s with fatal := .taken, kafkaError := true }
    · split
      · exact sched_dropTasks { s with fatal := .taken } rfl
      · exact .refl
  · exact .refl

theorem sched_repoll (s : State) :
    ReflTransGen (Step cfg.kafkaQueueSize) s.sched s.repoll.sched := by
  unfold State.repoll
  split
  · exact sched_dropTasks s rfl
  · exact .refl

/-- Every event moves the scheduler's view by scheduler steps. -/
theorem sched_step (h : Inv cfg s) (e : Event) :
    ReflTransGen (Step cfg.kafkaQueueSize) s.sched (step cfg toJson digest s e).sched := by
  apply step_rec (P := fun s' => ReflTransGen (Step cfg.kafkaQueueSize) s.sched s'.sched) e .refl
  case shutdownSignal | producerFatal => exact .refl
  case deliver => exact fun k ok => (sched_deliver k ok).symm ▸ .refl
  case connect => exact fun hl c => (sched_connect hl c).symm ▸ .refl
  case subscribe => exact sched_subscribe h
  case takeShutdown => exact sched_takeShutdown s
  case takeFatal => exact sched_takeFatal s
  case repoll => exact sched_repoll s
  case join => exact fun _ => sched_join
  case joinNone => exact fun _ => sched_dropTasks s rfl
  case receive => exact sched_receive

/-- The queue bound at every reachable state, from the scheduler's. -/
theorem run_tasks_le (es : List Event) :
    (run cfg toJson digest init es).tasks.length ≤ max cfg.kafkaQueueSize 1 ∧
      ((run cfg toJson digest init es).loc = .streaming →
        (run cfg toJson digest init es).tasks.length ≤ cfg.kafkaQueueSize - 1) := by
  have h : Inv cfg (run cfg toJson digest init es) ∧ ReflTransGen (Step cfg.kafkaQueueSize)
      init.sched (run cfg toJson digest init es).sched :=
    run_induction
      (P := fun s => Inv cfg s ∧ ReflTransGen (Step cfg.kafkaQueueSize) init.sched s.sched) es
      ⟨inv_init, .refl⟩ fun _ e h => ⟨h.1.after e, h.2.trans (sched_step h.1 e)⟩
  have hb := (Scheduler.bounded_closed cfg.kafkaQueueSize).reach h.2
  exact ⟨hb.bound, fun hl => hb.accepting (by simp [State.sched, hl, Loc.mode])⟩

end YellowstoneKafka.Grpc2Kafka
