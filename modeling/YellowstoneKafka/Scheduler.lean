import Mathlib.Data.Nat.Defs
import Mathlib.Logic.Relation
import Mathlib.Order.Basic

/-!
# The bounded publish scheduler

What the `JoinSet` of `dedup` and of `grpc2kafka` is for: a set of publishes in flight, bounded
by the queue size. The loop accepts a record only when it is about to receive; a record that
fills the queue blocks the loop until a publish completes. A loop may stop receiving, drop the
publishes in flight, and start over with an empty set.

The bound is proved once, here, for every state the scheduler reaches. Each stage's model is
shown to move its `JoinSet` only by these steps (`Grpc2Kafka.Scheduling`, `Dedup.Scheduling`),
and inherits the bound.
-/

namespace YellowstoneKafka.Scheduler

/-- Whether the loop takes a record now. -/
inductive Mode where
  /-- About to receive: a record may be accepted. -/
  | accepting
  /-- A record filled the queue: the loop waits for a completion. -/
  | blocked
  /-- Not receiving: draining, reconnecting, or returned. -/
  | closed
  deriving DecidableEq, Repr

structure State where
  inflight : Nat
  mode : Mode
  deriving DecidableEq, Repr

/-- The moves of the scheduler for a queue of size `q`. -/
inductive Step (q : Nat) : State → State → Prop where
  /-- An accepted record joins the set; a full set blocks the loop. -/
  | accept (n : Nat) :
    Step q ⟨n, .accepting⟩ ⟨n + 1, if q ≤ n + 1 then .blocked else .accepting⟩
  /-- A publish completes; a blocked loop accepts again. -/
  | complete (n : Nat) (m : Mode) :
    Step q ⟨n + 1, m⟩ ⟨n, if m = .blocked then .accepting else m⟩
  /-- The loop stops receiving. -/
  | close (n : Nat) (m : Mode) : Step q ⟨n, m⟩ ⟨n, .closed⟩
  /-- A loop that stopped receiving drops the publishes in flight. -/
  | drop (n : Nat) : Step q ⟨n, .closed⟩ ⟨0, .closed⟩
  /-- An empty set starts accepting. -/
  | reopen : Step q ⟨0, .closed⟩ ⟨0, .accepting⟩

/-- What the scheduler promises: never more than `max q 1` publishes in flight, and at most
`q - 1` while accepting, so that the next record fits. -/
structure Bounded (q : Nat) (s : State) : Prop where
  bound : s.inflight ≤ max q 1
  accepting : s.mode = .accepting → s.inflight ≤ q - 1

variable {q : Nat} {s s' : State}

theorem Bounded.step (h : Bounded q s) (hs : Step q s s') : Bounded q s' := by
  have hb := h.bound
  cases hs with
  | accept n =>
    have := h.accepting rfl
    simp only at hb this
    refine ⟨by simp only; omega, fun hm => ?_⟩
    simp only at hm ⊢
    split at hm
    · cases hm
    · omega
  | complete n m =>
    constructor
    · simp only at hb ⊢
      omega
    · intro hm
      by_cases hbl : m = .blocked
      · simp only at hb ⊢
        omega
      · simp only [hbl, if_false] at hm
        have := h.accepting hm
        simp only at this ⊢
        omega
  | close n m => exact ⟨hb, fun h => nomatch h⟩
  | drop n => exact ⟨by simp, fun h => nomatch h⟩
  | reopen => exact ⟨by simp, fun _ => by simp⟩

/-- The bound holds in every state reached from a bounded one. -/
theorem Bounded.reach (h : Bounded q s) (hs : Relation.ReflTransGen (Step q) s s') :
    Bounded q s' := by
  induction hs with
  | refl => exact h
  | tail _ hst ih => exact ih.step hst

theorem bounded_closed (q : Nat) : Bounded q ⟨0, .closed⟩ := ⟨by simp, fun h => nomatch h⟩

theorem bounded_accepting_empty (q : Nat) : Bounded q ⟨0, .accepting⟩ := ⟨by simp, fun _ => by simp⟩

end YellowstoneKafka.Scheduler
