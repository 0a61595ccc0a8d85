import YellowstoneKafka.Runtime
import YellowstoneKafka.Update

/-!
# `ArgsAction::grpc2kafka` as a state machine

The stage is an endless reconnect loop. Each round builds a client for `endpoints[ep_idx]`,
connects and subscribes; a failure of either advances `ep_idx`, sleeps 2 s and starts the next
round. A subscription runs `'stream_loop`, a `select!` over the shutdown future, the producer's
fatal sideband, the publish tasks and the stream. A published message spawns a task; a full
queue waits in a second `select!` for one task. The stream loop ends on shutdown, on the
sideband, on a closed stream or on a stream error, and then, unless the sideband was taken,
the drain awaits every task. Nothing leaves the outer loop but an error or a panic. The
`JoinSet` lives for one round: it is dropped, aborting what it holds, at the end of the round,
and also when an error returns or a panic unwinds from inside the round.

The state is the program point, the futures the `select!`s poll, `kafka_error`, `ep_idx`, the
`JoinSet` and the `sent_inc` counter. Ghost fields keep what the code throws away: the tasks
`join_next` returned and the tasks dropped with their `JoinSet`, and a log of the stage's
attempts. `step` takes one event, a branch of a `select!`, an outcome of an `await`, or
something the environment does, and leaves the state alone when that event cannot happen.
-/

namespace YellowstoneKafka.Grpc2Kafka

/-- Rust's `char::is_whitespace`, the Unicode `White_Space` property. -/
def isWhitespace (c : Char) : Bool :=
  let n := c.toNat
  (9 ≤ n ∧ n ≤ 13) ∨ n = 0x20 ∨ n = 0x85 ∨ n = 0xA0 ∨ n = 0x1680 ∨ (0x2000 ≤ n ∧ n ≤ 0x200A) ∨
    n = 0x2028 ∨ n = 0x2029 ∨ n = 0x202F ∨ n = 0x205F ∨ n = 0x3000

/-- `str::trim`. -/
def trim (cs : List Char) : List Char :=
  ((cs.dropWhile isWhitespace).reverse.dropWhile isWhitespace).reverse

/-- `str::split(',')`: the pieces between commas, empty ones included. -/
def splitComma : List Char → List (List Char)
  | [] => [[]]
  | c :: cs =>
    if c = ',' then [] :: splitComma cs
    else match splitComma cs with
      | p :: ps => (c :: p) :: ps
      | [] => [[c]]

theorem splitComma_ne_nil (cs : List Char) : splitComma cs ≠ [] := by
  cases cs with
  | nil => simp [splitComma]
  | cons c cs =>
    simp only [splitComma]
    split
    · simp
    · split <;> simp

/-- `split(',')` is Mathlib's `splitOn ','`. -/
theorem splitComma_eq_splitOn (cs : List Char) : splitComma cs = cs.splitOn ',' := by
  induction cs with
  | nil => rfl
  | cons c cs ih =>
    rw [List.splitOn, List.splitOnP_cons, ← List.splitOn, ← ih]
    by_cases hc : c = ','
    · simp [splitComma, hc]
    · obtain ⟨p, ps, hps⟩ := List.exists_cons_of_ne_nil (splitComma_ne_nil cs)
      simp [splitComma, hc, hps]

theorem splitComma_length (cs : List Char) : (splitComma cs).length = cs.count ',' + 1 := by
  induction cs with
  | nil => rfl
  | cons c cs ih =>
    by_cases hc : c = ','
    · simp [splitComma, hc, ih]
    · obtain ⟨p, ps, hps⟩ := List.exists_cons_of_ne_nil (splitComma_ne_nil cs)
      simpa [splitComma, hc, hps, List.count_cons] using ih

/-- The part of `ConfigGrpc2Kafka` the control flow reads. -/
structure Config where
  endpoint : String
  kafkaQueueSize : Nat

/-- `config.endpoint.split(',').map(|s| s.trim().to_string()).collect()`. -/
def endpoints (cfg : Config) : List (List Char) := (splitComma cfg.endpoint.toList).map trim

/-- Splitting any string on `,` gives at least one piece, so `ep_count` is positive. -/
theorem endpoints_length_pos (cfg : Config) : 0 < (endpoints cfg).length := by
  simpa [endpoints, List.length_pos] using splitComma_ne_nil cfg.endpoint.toList

/-- However `endpoint` is written as pieces without commas joined by commas, the endpoints are
those pieces, trimmed: one more than there are commas, so a doubled or trailing comma gives an
empty endpoint. -/
theorem endpoints_eq_trimmed_pieces (cfg : Config) (pieces : List (List Char)) (hne : pieces ≠ [])
    (hp : ∀ p ∈ pieces, ',' ∉ p) (hj : [','].intercalate pieces = cfg.endpoint.toList) :
    endpoints cfg = pieces.map trim ∧
      (endpoints cfg).length = cfg.endpoint.toList.count ',' + 1 := by
  refine ⟨?_, by rw [endpoints, List.length_map, splitComma_length]⟩
  rw [endpoints, ← hj, splitComma_eq_splitOn, List.splitOn_intercalate pieces ',' hp hne]

/-- A trailing comma: `"a, b,"` gives the endpoints `a`, `b` and the empty one. -/
theorem endpoints_eq_trimmed_pieces_at_trailing_comma :
    endpoints ⟨"a, b,", 1⟩ = [['a'], [' ', 'b'], []].map trim ∧
      (endpoints ⟨"a, b,", 1⟩).length = "a, b,".toList.count ',' + 1 :=
  endpoints_eq_trimmed_pieces ⟨"a, b,", 1⟩ _ (by decide) (by decide) (by decide)

/-- Where `grpc2kafka` stands. -/
inductive Loc where
  /-- The top of the reconnect loop: build a client for `endpoints[ep_idx]` and connect. -/
  | connecting
  /-- `client.subscribe_once(..)`. -/
  | subscribing
  /-- The first `select!` of `'stream_loop`. -/
  | streaming
  /-- The `select!` after a spawn filled the queue. -/
  | backPressure
  /-- The drain after `'stream_loop`, entered when `kafka_error` is false. -/
  | draining
  /-- The function returned. -/
  | done (r : Except Error Unit)
  | panicked (p : Panic)
  deriving DecidableEq, Repr

/-- What `geyser.next()` yields, after `.transpose()`. -/
inductive Item where
  /-- `Ok(Some(msg))`. -/
  | message (u : SubscribeUpdate)
  /-- `Ok(None)`: the peer closed the stream. -/
  | closed
  /-- `Err(status)`. -/
  | error
  deriving DecidableEq, Repr

/-- How the attempt on `endpoints[ep_idx]` ends. -/
inductive Connect where
  /-- `build_from_shared`, `x_token` or `tls_config` fails, and `?` returns the error. -/
  | invalid
  /-- `builder.connect()` fails. -/
  | failed
  | connected
  deriving DecidableEq, Repr

/-- A task spawned into `send_tasks`: it awaits the delivery future of its record. -/
structure Task where
  id : Nat
  key : List UInt8
  payload : List UInt8
  kind : MessageKind
  phase : Phase
  deriving DecidableEq, Repr

/-- The attempts and receptions the stage makes, in order. -/
inductive Action where
  | connect (ep : Nat)
  | subscribe
  /-- `ep_idx = (ep_idx + 1) % ep_count; thread::sleep(2000)`. -/
  | backoff
  | received (u : SubscribeUpdate)
  | spawned (id : Nat)
  deriving DecidableEq, Repr

structure State where
  loc : Loc
  shutdown : Signal
  /-- `kafka_error_rx`, the producer's fatal sideband. -/
  fatal : Signal
  kafkaError : Bool
  epIdx : Nat
  tasks : List Task
  /-- Tasks spawned so far; the next task's id. -/
  spawned : Nat
  /-- `metrics::sent_inc` calls. -/
  sentTotal : Nat
  joined : List Task
  aborted : List Task
  log : List Action
  deriving DecidableEq, Repr

/-- Everything that can happen next. -/
inductive Event where
  /-- SIGINT or SIGTERM arrives. -/
  | shutdownSignal
  /-- The producer's fatal sideband fires. -/
  | producerFatal
  /-- The delivery future of the task at position `k` resolves. -/
  | deliver (k : Nat) (ok : Bool)
  | connect (outcome : Connect)
  | subscribe (ok : Bool)
  /-- A `select!` takes `&mut shutdown`. -/
  | takeShutdown
  /-- A `select!` takes `&mut kafka_error_rx`. -/
  | takeFatal
  /-- A `select!` polls a future whose output an earlier branch took. -/
  | repoll
  /-- `join_next` returns the output of the task at position `k`. -/
  | join (k : Nat)
  /-- `join_next` returns `None` in the drain. -/
  | joinNone
  /-- `geyser.next()` yields `item`; `queued` is what `send_result` does with its record. -/
  | receive (item : Item) (queued : Bool)
  deriving DecidableEq, Repr

/-- The state before the first round. -/
def init : State where
  loc := .connecting
  shutdown := .pending
  fatal := .pending
  kafkaError := false
  epIdx := 0
  tasks := []
  spawned := 0
  sentTotal := 0
  joined := []
  aborted := []
  log := []

/-- A `select!` of the stream loop polls the shutdown future and the sideband here. -/
def Loc.selecting : Loc → Bool
  | .streaming | .backPressure => true
  | _ => false

/-- `join_next` is polled here. -/
def Loc.joining : Loc → Bool
  | .streaming | .backPressure | .draining => true
  | _ => false

def Loc.live : Loc → Bool
  | .done _ | .panicked _ => false
  | _ => true

section Transitions

variable (cfg : Config) (toJson : List UInt8 → Option (List UInt8))
  (digest : List UInt8 → Digest)

/-- `send_tasks` goes out of scope and is dropped, aborting the tasks it holds, and the stage
goes on at `next`: the top of the reconnect loop at the end of a round, or out of the function
when a `?` returns an error or a panic unwinds from inside the round. -/
def State.dropTasks (s : State) (next : Loc) : State :=
  { s with loc := next, tasks := [], aborted := s.aborted ++ s.tasks }

/-- `ep_idx = (ep_idx + 1) % ep_count; thread::sleep(2000)`, then on to `next`. -/
def State.rotate (s : State) (next : Loc) : State :=
  if (endpoints cfg).length = 0 then s.dropTasks (.panicked .remainder)
  else { s with epIdx := (s.epIdx + 1) % (endpoints cfg).length, loc := next,
                log := s.log ++ [Action.backoff] }

@[simp] theorem State.rotate_loc (s : State) (next : Loc) : (s.rotate cfg next).loc = next := by
  simp [State.rotate, (endpoints_length_pos cfg).ne']

@[simp] theorem State.rotate_epIdx (s : State) (next : Loc) :
    (s.rotate cfg next).epIdx = (s.epIdx + 1) % (endpoints cfg).length := by
  simp [State.rotate, (endpoints_length_pos cfg).ne']

@[simp] theorem State.rotate_tasks (s : State) (next : Loc) :
    (s.rotate cfg next).tasks = s.tasks := by
  simp [State.rotate, (endpoints_length_pos cfg).ne']

@[simp] theorem State.rotate_log (s : State) (next : Loc) :
    (s.rotate cfg next).log = s.log ++ [Action.backoff] := by
  simp [State.rotate, (endpoints_length_pos cfg).ne']

/-- Leaving `'stream_loop`: drain unless `kafka_error`, else end the round at once. -/
def State.leaveStream (s : State) : State :=
  if s.kafkaError then s.dropTasks .connecting else { s with loc := .draining }

/-- The attempt on `endpoints[ep_idx]`. No `JoinSet` exists at the top of the loop, so the
error of `build_from_shared` drops none. -/
def State.connect (s : State) (c : Connect) : State :=
  if s.epIdx < (endpoints cfg).length then
    let s := { s with log := s.log ++ [Action.connect s.epIdx] }
    match c with
    | .invalid => { s with loc := .done (.error .client) }
    | .failed => s.rotate cfg .connecting
    | .connected => { s with loc := .subscribing }
  else { s with loc := .panicked .index }

def State.subscribe (s : State) (ok : Bool) : State :=
  let s := { s with log := s.log ++ [Action.subscribe] }
  if ok then { s with loc := .streaming, tasks := [] } else s.rotate cfg .connecting

/-- `send_tasks.spawn(..)`: the task joins the set. -/
def State.push (s : State) (t : Task) : State :=
  { s with tasks := s.tasks ++ [t], spawned := s.spawned + 1,
           log := s.log ++ [Action.spawned t.id] }

/-- A spawn after `send_result` queued the record, then the back-pressure test; without
back-pressure the message ends with the cursor advance and the sleep. -/
def State.spawn (s : State) (t : Task) : State :=
  if queueFull cfg.kafkaQueueSize (s.push t).tasks then { s.push t with loc := .backPressure }
  else (s.push t).rotate cfg .streaming

/-- The stream branch of the stream loop's first `select!`. -/
def State.receive (s : State) (item : Item) (queued : Bool) : State :=
  match item with
  | .closed | .error => s.leaveStream
  | .message u =>
    let s := { s with log := s.log ++ [Action.received u] }
    match handleUpdate toJson u with
    | .panic => s.dropTasks (.panicked .unreachable)
    | .skip => s
    | .publish slot payload kind =>
      if queued then
        s.spawn cfg ⟨s.spawned, recordKey slot (digest payload), payload, kind, .delivering⟩
      else s.dropTasks (.done (.error .enqueue))

/-- The delivery future of the task at `k` resolves; `sent_inc` on success. -/
def State.deliver (s : State) (k : Nat) (ok : Bool) : State :=
  match s.tasks[k]? with
  | some t =>
    if t.phase = .delivering then
      if ok then { s with tasks := s.tasks.set k { t with phase := .delivered },
                          sentTotal := s.sentTotal + 1 }
      else { s with tasks := s.tasks.set k { t with phase := .failed .delivery } }
    else s
  | none => s

/-- `join_next` returns the output of the finished task at `k`: `result??` returns its error;
after back-pressure the message ends with the cursor advance and the sleep. -/
def State.join (s : State) (k : Nat) : State :=
  match s.tasks[k]? with
  | some t =>
    match t.phase.output with
    | some (.error e) => s.dropTasks (.done (.error e))
    | some (.ok ()) =>
      let s' := { s with tasks := s.tasks.eraseIdx k, joined := s.joined ++ [t] }
      if s.loc = .backPressure then s'.rotate cfg .streaming else s'
    | none => s
  | none => s

/-- A `select!` takes the shutdown future. -/
def State.takeShutdown (s : State) : State :=
  if s.loc.selecting ∧ s.shutdown = .fired then { s with shutdown := .taken }.leaveStream else s

/-- A `select!` takes the sideband: the stream loop sets `kafka_error`, the drain just stops. -/
def State.takeFatal (s : State) : State :=
  if s.fatal = .fired then
    if s.loc.selecting then { s with fatal := .taken, kafkaError := true }.leaveStream
    else if s.loc = .draining then { s with fatal := .taken }.dropTasks .connecting
    else s
  else s

/-- Polling a taken future again panics. -/
def State.repoll (s : State) : State :=
  if (s.loc.selecting ∧ (s.shutdown = .taken ∨ s.fatal = .taken)) ∨
      (s.loc = .draining ∧ s.fatal = .taken) then s.dropTasks (.panicked .repoll)
  else s

/-- The action of one event at a live program point. -/
def State.act (s : State) : Event → State
  | .shutdownSignal => { s with shutdown := s.shutdown.fire }
  | .producerFatal => { s with fatal := s.fatal.fire }
  | .deliver k ok => s.deliver k ok
  | .connect c => if s.loc = .connecting then s.connect cfg c else s
  | .subscribe ok => if s.loc = .subscribing then s.subscribe cfg ok else s
  | .takeShutdown => s.takeShutdown
  | .takeFatal => s.takeFatal
  | .repoll => s.repoll
  | .join k => if s.loc.joining then s.join cfg k else s
  | .joinNone => if s.loc = .draining ∧ s.tasks = [] then s.dropTasks .connecting else s
  | .receive item queued =>
    if s.loc = .streaming then s.receive cfg toJson digest item queued else s

/-- One step; a stage that returned or panicked does nothing more. -/
def step (s : State) (e : Event) : State := if s.loc.live then s.act cfg toJson digest e else s

/-- The state after a sequence of events. -/
def run (s : State) (es : List Event) : State := es.foldl (step cfg toJson digest) s

theorem run_cons (s : State) (e : Event) (es : List Event) :
    run cfg toJson digest s (e :: es) = run cfg toJson digest (step cfg toJson digest s e) es :=
  rfl

end Transitions

section Cases

variable {cfg : Config} {toJson : List UInt8 → Option (List UInt8)}
  {digest : List UInt8 → Digest}

/-- What one step can do, as an elimination principle: a property that holds of `s` and after
each transition enabled at `s` holds after the step. The invariants of the stage go through it. -/
theorem step_rec {P : State → Prop} {s : State} (e : Event) (stay : P s)
    (shutdownSignal : P { s with shutdown := s.shutdown.fire })
    (producerFatal : P { s with fatal := s.fatal.fire })
    (deliver : ∀ k ok, P (s.deliver k ok))
    (connect : s.loc = .connecting → ∀ c, P (s.connect cfg c))
    (subscribe : s.loc = .subscribing → ∀ ok, P (s.subscribe cfg ok))
    (takeShutdown : P s.takeShutdown) (takeFatal : P s.takeFatal) (repoll : P s.repoll)
    (join : s.loc.joining → ∀ k, P (s.join cfg k))
    (joinNone : s.loc = .draining ∧ s.tasks = [] → P (s.dropTasks .connecting))
    (receive : s.loc = .streaming → ∀ item queued, P (s.receive cfg toJson digest item queued)) :
    P (step cfg toJson digest s e) := by
  unfold step
  split
  · cases e with
    | shutdownSignal => exact shutdownSignal
    | producerFatal => exact producerFatal
    | deliver k ok => exact deliver k ok
    | takeShutdown => exact takeShutdown
    | takeFatal => exact takeFatal
    | repoll => exact repoll
    | connect c =>
      simp only [State.act]
      split
      exacts [connect ‹_› c, stay]
    | subscribe ok =>
      simp only [State.act]
      split
      exacts [subscribe ‹_› ok, stay]
    | join k =>
      simp only [State.act]
      split
      exacts [join ‹_› k, stay]
    | joinNone =>
      simp only [State.act]
      split
      exacts [joinNone ‹_›, stay]
    | receive item queued =>
      simp only [State.act]
      split
      exacts [receive ‹_› item queued, stay]
  · exact stay

/-- A property every step keeps holds after every run. -/
theorem run_induction {P : State → Prop} {s : State} (es : List Event) (h : P s)
    (hstep : ∀ s e, P s → P (step cfg toJson digest s e)) : P (run cfg toJson digest s es) := by
  induction es generalizing s with
  | nil => exact h
  | cons e es ih => exact ih (hstep s e h)

end Cases

end YellowstoneKafka.Grpc2Kafka
