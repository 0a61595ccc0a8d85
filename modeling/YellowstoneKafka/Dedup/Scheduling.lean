import YellowstoneKafka.Dedup.Machine
import YellowstoneKafka.Scheduler

/-!
# `dedup` moves its `JoinSet` as the scheduler does

The scheduler's view of a state is the number of tasks in `send_tasks` and whether the loop is
at its first `select!`, at the `select!` after a spawn that filled the queue, or past the loop.
A kept message is an `accept`, a joined task a `complete`, and leaving the loop a `close`; the
other events leave the view alone. The loop starts accepting with no task, so the bound of the
scheduler holds at every reachable state.
-/

namespace YellowstoneKafka.Dedup

open Scheduler (Step Mode)
open Relation (ReflTransGen)

/-- Whether the loop takes a message here. -/
def Loc.mode : Loc → Mode
  | .streaming => .accepting
  | .backPressure => .blocked
  | _ => .closed

/-- The scheduler's view of a state. -/
def State.sched (s : State) : Scheduler.State := ⟨s.tasks.length, s.loc.mode⟩

variable {q : Nat} {s : State}

theorem sched_close (s : State) {l : Loc} (hl : l.mode = .closed) :
    ReflTransGen (Step q) s.sched { s with loc := l }.sched := by
  simp only [State.sched, hl]
  exact .single (.close _ _)

theorem sched_leaveLoop (s : State) : ReflTransGen (Step q) s.sched s.leaveLoop.sched := by
  unfold State.leaveLoop
  split
  · exact sched_close s rfl
  · exact sched_close s rfl

theorem sched_sideband (s : State) (c p : Bool) : (s.sideband c p).sched = s.sched := by
  unfold State.sideband
  split <;> rfl

/-- A kept message is an `accept`; the spawn that fills the queue blocks the loop. -/
theorem sched_receive (hl : s.loc = .streaming) (item : Item) :
    ReflTransGen (Step q) s.sched (s.receive q item).sched := by
  unfold State.receive
  match item with
  | .error => exact sched_close s rfl
  | .message m =>
    simp only
    split
    · exact .refl
    · have hstep := Step.accept (q := q) s.tasks.length
      split <;> rename_i hfull <;>
        simp only [queueFull, List.length_append, List.length_singleton,
          decide_eq_true_eq] at hfull
      · simp only [State.sched, hl, Loc.mode, if_pos hfull, List.length_append,
          List.length_singleton] at hstep ⊢
        exact .single hstep
      · simp only [State.sched, hl, Loc.mode, if_neg hfull, List.length_append,
          List.length_singleton] at hstep ⊢
        exact .single hstep

theorem sched_allow (k : Nat) (answer queued : Bool) :
    (s.allow k answer queued).sched = s.sched := by
  unfold State.allow
  split
  · split
    · split
      · split <;> simp [State.sched]
      · simp [State.sched]
    · rfl
  · rfl

theorem sched_deliver (k : Nat) (ok : Bool) : (s.deliver k ok).sched = s.sched := by
  unfold State.deliver
  split
  · split
    · split <;> simp [State.sched]
    · rfl
  · rfl

/-- A joined task is a `complete`; after back-pressure the loop accepts again. -/
theorem sched_join (k : Nat) : ReflTransGen (Step q) s.sched (s.join k).sched := by
  unfold State.join
  split
  · rename_i t hk
    obtain ⟨hlt, -⟩ := List.getElem?_eq_some_iff.mp hk
    obtain ⟨n, hn⟩ : ∃ n, s.tasks.length = n + 1 := ⟨s.tasks.length - 1, by omega⟩
    have hlen : (s.tasks.eraseIdx k).length = n := by
      rw [List.length_eraseIdx, if_pos hlt, hn]; rfl
    have hstep := Step.complete (q := q) n s.loc.mode
    have hmode : (if s.loc = .backPressure then Loc.streaming else s.loc).mode =
        if s.loc.mode = .blocked then .accepting else s.loc.mode := by
      cases s.loc <;> rfl
    split
    · exact sched_close s rfl
    · simp only [State.sched, hlen, hn, hmode] at hstep ⊢
      exact .single hstep
    · exact .refl
  · exact .refl

theorem sched_takeShutdown (s : State) : ReflTransGen (Step q) s.sched s.takeShutdown.sched := by
  unfold State.takeShutdown
  split
  · exact sched_leaveLoop { s with shutdown := .taken }
  · exact .refl

theorem sched_takeFatal (s : State) : ReflTransGen (Step q) s.sched s.takeFatal.sched := by
  unfold State.takeFatal
  split
  · split
    · exact sched_leaveLoop { s with fatal := .taken, kafkaError := true }
    · split
      · exact sched_close s rfl
      · exact .refl
  · exact .refl

/-- Every event moves the scheduler's view by scheduler steps. -/
theorem sched_step (s : State) (e : Event) : ReflTransGen (Step q) s.sched (step q s e).sched := by
  apply step_rec (P := fun s' => ReflTransGen (Step q) s.sched s'.sched) e .refl
  case shutdownSignal => exact .refl
  case consumerFatal | producerFatal => exact (sched_sideband s _ _).symm ▸ .refl
  case allow => exact fun k answer queued => (sched_allow k answer queued).symm ▸ .refl
  case deliver => exact fun k ok => (sched_deliver k ok).symm ▸ .refl
  case takeShutdown => exact sched_takeShutdown s
  case takeFatal => exact sched_takeFatal s
  case join => exact fun _ => sched_join
  case joinNone => exact fun _ => sched_close s rfl
  case receive => exact sched_receive

/-- The queue bound at every reachable state, from the scheduler's. -/
theorem run_tasks_le (es : List Event) :
    (run q init es).tasks.length ≤ max q 1 ∧
      ((run q init es).loc = .streaming → (run q init es).tasks.length ≤ q - 1) := by
  have h : ReflTransGen (Step q) init.sched (run q init es).sched :=
    run_induction (P := fun s => ReflTransGen (Step q) init.sched s.sched) es .refl
      fun s e h => h.trans (sched_step s e)
  have hb := (Scheduler.bounded_accepting_empty q).reach h
  exact ⟨hb.bound, fun hl => hb.accepting (by simp [State.sched, hl, Loc.mode])⟩

end YellowstoneKafka.Dedup
