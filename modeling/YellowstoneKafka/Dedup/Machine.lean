import YellowstoneKafka.Runtime
import YellowstoneKafka.Key

/-!
# `ArgsAction::dedup` as a state machine

The stage consumes `kafka_input`, keeps the messages whose key parses to a slot and a digest,
and spawns one task per kept message. The task asks the backend `allowed(slot, bytes)`; on
`true` it hands the record to the producer and awaits its delivery, on `false` it counts a
duplicate. The loop is a `select!` over the shutdown future, `kafka_error_rx`, the tasks and the
consumer; a spawn that fills the queue waits in a second `select!`. Leaving the loop on shutdown
leads to the drain, which awaits every task unless `kafka_error_rx` completes; either way the
stage then returns `Ok(())`.

`kafka_error_rx` is `futures::future::join(kafka_error_rx1, kafka_error_rx2)`: it completes once
both the consumer's and the producer's sideband have fired. A `select!` that takes the shutdown
future or `kafka_error_rx` leaves the loop for good, so no taken future is polled again.

Ghost fields keep what the code throws away: the consumed messages, the backend's answers, the
records the producer queued, and the tasks `join_next` returned.
-/

namespace YellowstoneKafka.Dedup

/-- Where `dedup` stands. -/
inductive Loc where
  /-- The first `select!` of the loop. -/
  | streaming
  /-- The `select!` after a spawn filled the queue. -/
  | backPressure
  /-- The drain after the loop, entered when `kafka_error` is false. -/
  | draining
  /-- The function returned. -/
  | done (r : Except Error Unit)
  deriving DecidableEq, Repr

/-- What `consumer.recv()` yields. -/
inductive Item where
  | message (m : Message)
  | error
  deriving DecidableEq, Repr

/-- A task spawned into `send_tasks`, with the position of the message it came from. -/
structure Task where
  source : Nat
  record : Keyed
  phase : Phase
  deriving DecidableEq, Repr

/-- One `dedup.allowed(slot, bytes)` call, made by the task of the message at `source`. -/
structure Call where
  source : Nat
  slot : UInt64
  hash : Digest
  answer : Bool
  deriving DecidableEq, Repr

/-- The pair a call asks about. -/
def Call.pair (c : Call) : UInt64 × Digest := (c.slot, c.hash)

structure State where
  loc : Loc
  shutdown : Signal
  /-- `kafka_error_rx1`, the consumer's sideband, has fired. -/
  consumerFailed : Bool
  /-- `kafka_error_rx2`, the producer's sideband, has fired. -/
  producerFailed : Bool
  /-- `kafka_error_rx`, the join of the two sidebands. -/
  fatal : Signal
  kafkaError : Bool
  tasks : List Task
  /-- The messages `consumer.recv()` returned, each counted by `recv_inc`. -/
  received : List Message
  calls : List Call
  /-- The records `send_result` queued, with the position of their message. -/
  sent : List (Nat × Keyed)
  /-- `metrics::sent_inc` calls. -/
  sentTotal : Nat
  /-- `metrics::dedup_inc` calls. -/
  dedupTotal : Nat
  joined : List Task
  deriving DecidableEq, Repr

/-- Everything that can happen next. -/
inductive Event where
  /-- SIGINT or SIGTERM arrives. -/
  | shutdownSignal
  /-- The consumer's sideband fires. -/
  | consumerFatal
  /-- The producer's sideband fires. -/
  | producerFatal
  /-- The backend answers the task at `k`; `queued` is what `send_result` does with its record. -/
  | allow (k : Nat) (answer queued : Bool)
  /-- The delivery future of the task at `k` resolves. -/
  | deliver (k : Nat) (ok : Bool)
  /-- A `select!` takes `&mut shutdown`. -/
  | takeShutdown
  /-- A `select!` takes `&mut kafka_error_rx`. -/
  | takeFatal
  /-- `join_next` returns the output of the task at `k`. -/
  | join (k : Nat)
  /-- `join_next` returns `None` in the drain. -/
  | joinNone
  /-- `consumer.recv()` yields `item`. -/
  | receive (item : Item)
  deriving DecidableEq, Repr

/-- The state when the loop starts. -/
def init : State where
  loc := .streaming
  shutdown := .pending
  consumerFailed := false
  producerFailed := false
  fatal := .pending
  kafkaError := false
  tasks := []
  received := []
  calls := []
  sent := []
  sentTotal := 0
  dedupTotal := 0
  joined := []

/-- A `select!` of the loop polls the shutdown future and `kafka_error_rx` here. -/
def Loc.selecting : Loc → Bool
  | .streaming | .backPressure => true
  | _ => false

/-- `join_next` is polled here. -/
def Loc.joining : Loc → Bool
  | .streaming | .backPressure | .draining => true
  | _ => false

def Loc.live : Loc → Bool
  | .done _ => false
  | _ => true

section Transitions

variable (queueSize : Nat)

/-- The sidebands now stand at `consumer` and `producer`; their join completes once both
have fired. -/
def State.sideband (s : State) (consumer producer : Bool) : State :=
  let s := { s with consumerFailed := consumer, producerFailed := producer }
  if consumer ∧ producer then { s with fatal := s.fatal.fire } else s

/-- Leaving the loop: drain unless `kafka_error`, else return at once. -/
def State.leaveLoop (s : State) : State :=
  if s.kafkaError then { s with loc := .done (.ok ()) } else { s with loc := .draining }

/-- The consumer branch: `?` on the result, `recv_inc`, the checks, the spawn and the
back-pressure test. -/
def State.receive (s : State) (item : Item) : State :=
  match item with
  | .error => { s with loc := .done (.error .consumer) }
  | .message m =>
    let s' := { s with received := s.received ++ [m] }
    match m.keyed with
    | none => s'
    | some r =>
      let s'' := { s' with tasks := s'.tasks ++ [Task.mk s.received.length r .allowing] }
      if queueFull queueSize s''.tasks then { s'' with loc := .backPressure } else s''

/-- The backend answers the task at `k`: on `true` the record goes to `send_result`, on `false`
`dedup_inc` and `Ok(())`. -/
def State.allow (s : State) (k : Nat) (answer queued : Bool) : State :=
  match s.tasks[k]? with
  | some t =>
    if t.phase = .allowing then
      let s := { s with calls := s.calls ++ [Call.mk t.source t.record.slot t.record.hash answer] }
      if answer then
        if queued then
          { s with tasks := s.tasks.set k { t with phase := .delivering },
                   sent := s.sent ++ [(t.source, t.record)] }
        else { s with tasks := s.tasks.set k { t with phase := .failed .enqueue } }
      else
        { s with tasks := s.tasks.set k { t with phase := .refused },
                 dedupTotal := s.dedupTotal + 1 }
    else s
  | none => s

/-- The delivery future of the task at `k` resolves; `sent_inc` on success. -/
def State.deliver (s : State) (k : Nat) (ok : Bool) : State :=
  match s.tasks[k]? with
  | some t =>
    if t.phase = .delivering then
      if ok then { s with tasks := s.tasks.set k { t with phase := .delivered },
                          sentTotal := s.sentTotal + 1 }
      else { s with tasks := s.tasks.set k { t with phase := .failed .delivery } }
    else s
  | none => s

/-- `join_next` returns the output of the finished task at `k`: `result??` returns its error;
after back-pressure the loop goes on. -/
def State.join (s : State) (k : Nat) : State :=
  match s.tasks[k]? with
  | some t =>
    match t.phase.output with
    | some (.error e) => { s with loc := .done (.error e) }
    | some (.ok ()) =>
      { s with tasks := s.tasks.eraseIdx k, joined := s.joined ++ [t],
               loc := if s.loc = .backPressure then .streaming else s.loc }
    | none => s
  | none => s

/-- A `select!` takes the shutdown future. -/
def State.takeShutdown (s : State) : State :=
  if s.loc.selecting ∧ s.shutdown = .fired then { s with shutdown := .taken }.leaveLoop else s

/-- A `select!` takes `kafka_error_rx`: the loop sets `kafka_error`, the drain just stops. -/
def State.takeFatal (s : State) : State :=
  if s.fatal = .fired then
    if s.loc.selecting then { s with fatal := .taken, kafkaError := true }.leaveLoop
    else if s.loc = .draining then { s with fatal := .taken, loc := .done (.ok ()) }
    else s
  else s

/-- The action of one event while the stage runs. -/
def State.act (s : State) : Event → State
  | .shutdownSignal => { s with shutdown := s.shutdown.fire }
  | .consumerFatal => s.sideband true s.producerFailed
  | .producerFatal => s.sideband s.consumerFailed true
  | .allow k answer queued => s.allow k answer queued
  | .deliver k ok => s.deliver k ok
  | .takeShutdown => s.takeShutdown
  | .takeFatal => s.takeFatal
  | .join k => if s.loc.joining then s.join k else s
  | .joinNone => if s.loc = .draining ∧ s.tasks = [] then { s with loc := .done (.ok ()) } else s
  | .receive item => if s.loc = .streaming then s.receive queueSize item else s

/-- One step; a stage that returned does nothing more. -/
def step (s : State) (e : Event) : State := if s.loc.live then s.act queueSize e else s

/-- The state after a sequence of events. -/
def run (s : State) (es : List Event) : State := es.foldl (step queueSize) s

end Transitions

section Cases

variable {q : Nat}

/-- What one step can do, as an elimination principle: a property that holds of `s` and after
each transition enabled at `s` holds after the step. The invariants of the stage go through it. -/
theorem step_rec {P : State → Prop} {s : State} (e : Event) (stay : P s)
    (shutdownSignal : P { s with shutdown := s.shutdown.fire })
    (consumerFatal : P (s.sideband true s.producerFailed))
    (producerFatal : P (s.sideband s.consumerFailed true))
    (allow : ∀ k answer queued, P (s.allow k answer queued))
    (deliver : ∀ k ok, P (s.deliver k ok))
    (takeShutdown : P s.takeShutdown) (takeFatal : P s.takeFatal)
    (join : s.loc.joining → ∀ k, P (s.join k))
    (joinNone : s.loc = .draining ∧ s.tasks = [] → P { s with loc := .done (.ok ()) })
    (receive : s.loc = .streaming → ∀ item, P (s.receive q item)) :
    P (step q s e) := by
  unfold step
  split
  · cases e with
    | shutdownSignal => exact shutdownSignal
    | consumerFatal => exact consumerFatal
    | producerFatal => exact producerFatal
    | allow k answer queued => exact allow k answer queued
    | deliver k ok => exact deliver k ok
    | takeShutdown => exact takeShutdown
    | takeFatal => exact takeFatal
    | join k =>
      simp only [State.act]
      split
      exacts [join ‹_› k, stay]
    | joinNone =>
      simp only [State.act]
      split
      exacts [joinNone ‹_›, stay]
    | receive item =>
      simp only [State.act]
      split
      exacts [receive ‹_› item, stay]
  · exact stay

/-- A property every step keeps holds after every run. -/
theorem run_induction {P : State → Prop} {s : State} (es : List Event) (h : P s)
    (hstep : ∀ s e, P s → P (step q s e)) : P (run q s es) := by
  induction es generalizing s with
  | nil => exact h
  | cons e es ih => exact ih (hstep s e h)

end Cases

end YellowstoneKafka.Dedup
