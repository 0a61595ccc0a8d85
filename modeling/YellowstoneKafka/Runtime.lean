import Mathlib.Data.List.Basic

/-!
# The runtime vocabulary of the stages

Each stage is a loop over `tokio::select!`. A branch is taken when its future is ready, and
`select!` picks among ready branches at random, so the models take the branch as an input and
enable it only when its future is ready. The shutdown future and the fatal sidebands are polled
by `&mut` on every round; once a branch has taken the output, polling that future again panics.
Publish tasks live in a `JoinSet`: each runs to an output, and `join_next` returns the output
of a finished one.
-/

namespace YellowstoneKafka

/-- A future a `select!` polls by `&mut`: the shutdown future or a fatal sideband. -/
inductive Signal where
  | pending
  | fired
  | taken
  deriving DecidableEq, Repr

/-- The signal arrives. The future completes once; a second signal changes nothing. -/
def Signal.fire : Signal → Signal
  | .pending => .fired
  | s => s

@[simp] theorem Signal.fire_ne_pending (s : Signal) : s.fire ≠ .pending := by
  cases s <;> simp [Signal.fire]

/-- Where the `anyhow::Error` that ends a stage comes from. -/
inductive Error where
  /-- `consumer.recv()` failed. -/
  | consumer
  /-- `send_result` refused the record. -/
  | enqueue
  /-- The delivery future failed or was cancelled. -/
  | delivery
  /-- The gRPC client builder rejected the endpoint, the token or the TLS setup. -/
  | client
  /-- The gRPC server ended with an error. -/
  | server
  deriving DecidableEq, Repr

/-- A stage's `Result<(), anyhow::Error>` compares by variant and payload. -/
instance instDecidableEqExcept {ε α : Type} [DecidableEq ε] [DecidableEq α] :
    DecidableEq (Except ε α)
  | .ok a, .ok b => decidable_of_iff (a = b) (by simp)
  | .error a, .error b => decidable_of_iff (a = b) (by simp)
  | .ok _, .error _ => isFalse nofun
  | .error _, .ok _ => isFalse nofun

/-- Why a stage panics. -/
inductive Panic where
  /-- `unreachable!("Expect valid message")`. -/
  | unreachable
  /-- A `select!` polled a future whose output an earlier branch took. -/
  | repoll
  /-- `endpoints[ep_idx]` out of bounds. -/
  | index
  /-- `% ep_count` with no endpoint. -/
  | remainder
  deriving DecidableEq, Repr

/-- A publish task's progress. -/
inductive Phase where
  /-- Awaiting `dedup.allowed(slot, bytes)`. -/
  | allowing
  /-- `allowed` said no: `dedup_inc`, then `Ok(())`. -/
  | refused
  /-- The record is queued; awaiting its delivery future. -/
  | delivering
  /-- Delivered: `sent_inc`, then `Ok(())`. -/
  | delivered
  /-- The task's `Err`. -/
  | failed (e : Error)
  deriving DecidableEq, Repr

/-- The output `join_next` can return for a task, `none` while it runs. -/
def Phase.output : Phase → Option (Except Error Unit)
  | .refused | .delivered => some (.ok ())
  | .failed e => some (.error e)
  | .allowing | .delivering => none

@[simp] theorem Phase.output_eq_ok {p : Phase} :
    p.output = some (.ok ()) ↔ p = .refused ∨ p = .delivered := by
  cases p <;> simp [Phase.output]

@[simp] theorem Phase.output_eq_error {p : Phase} {e : Error} :
    p.output = some (.error e) ↔ p = .failed e := by
  cases p <;> simp [Phase.output]

/-- `send_tasks.len() >= kafka_queue_size`: the back-pressure test after a spawn. -/
def queueFull {α : Type} (q : Nat) (tasks : List α) : Bool := q ≤ tasks.length

/-- Taking the task at `k` out of the set removes its count and nothing else. -/
theorem countP_eraseIdx_add {α : Type} (p : α → Bool) {l : List α} {k : Nat} {a : α}
    (h : l[k]? = some a) : (l.eraseIdx k).countP p + (if p a then 1 else 0) = l.countP p := by
  induction l generalizing k with
  | nil => simp at h
  | cons x l ih =>
    cases k with
    | zero => simp at h; subst h; simp [List.countP_cons]
    | succ k => simp at h; simp [List.countP_cons, ← ih h]; omega

/-- Moving the task at `k` from the set to the end of the joined ones keeps every count over
both. -/
theorem countP_eraseIdx_append {α : Type} (p : α → Bool) {l j : List α} {k : Nat} {a : α}
    (h : l[k]? = some a) : (l.eraseIdx k ++ (j ++ [a])).countP p = (l ++ j).countP p := by
  have := countP_eraseIdx_add p h
  simp only [List.countP_append, List.countP_cons, List.countP_nil] at this ⊢
  omega

/-- Replacing the task at `k` trades its count for the new one's. -/
theorem countP_set_add {α : Type} (p : α → Bool) {l : List α} {k : Nat} {a : α} (b : α)
    (h : l[k]? = some a) :
    (l.set k b).countP p + (if p a then 1 else 0) = l.countP p + (if p b then 1 else 0) := by
  obtain ⟨hk, rfl⟩ := List.getElem?_eq_some_iff.mp h
  have := List.boole_getElem_le_countP p l k hk
  rw [List.countP_set p l k b hk]
  omega

/-- Taking the task at `k` out of the set and putting it in front reorders the set. -/
theorem perm_cons_eraseIdx {α : Type} {l : List α} {k : Nat} {a : α} (h : l[k]? = some a) :
    l.Perm (a :: l.eraseIdx k) := by
  induction l generalizing k with
  | nil => simp at h
  | cons x l ih =>
    cases k with
    | zero => simp at h; simp [h]
    | succ k => simp at h; exact ((ih h).cons x).trans (.swap a x _)

/-- Moving the task at `k` from the set to the end of the joined ones reorders the tasks. -/
theorem perm_eraseIdx_append {α : Type} {l j : List α} {k : Nat} {a : α} (h : l[k]? = some a) :
    (l.eraseIdx k ++ (j ++ [a])).Perm (l ++ j) := by
  have hlast := List.perm_append_singleton a (l.eraseIdx k ++ j)
  rw [List.append_assoc] at hlast
  exact hlast.trans ((perm_cons_eraseIdx h).append_right j).symm

/-- Replacing the task at `k` by one that agrees with it under `f` keeps the image under `f`. -/
theorem map_set_of_getElem? {α β : Type} (f : α → β) {l : List α} {k : Nat} {a b : α}
    (h : l[k]? = some a) (hf : f b = f a) : (l.set k b).map f = l.map f := by
  obtain ⟨hk, rfl⟩ := List.getElem?_eq_some_iff.mp h
  refine List.ext_getElem (by simp) fun i _ _ => ?_
  simp only [List.getElem_map, List.getElem_set]
  split <;> simp_all

end YellowstoneKafka
