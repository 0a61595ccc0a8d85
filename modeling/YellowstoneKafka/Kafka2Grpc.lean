import YellowstoneKafka.Runtime
import YellowstoneKafka.Update

/-!
# `ArgsAction::kafka2grpc`

The stage starts the gRPC server, consumes `kafka_topic`, and hands every payload that decodes
as a `SubscribeUpdate` to the server's broadcast sender. Its loop is a `select!` over the
shutdown future, the consumer's sideband and the consumer. Leaving it on either future awaits
the server's shutdown handle, and the stage returns what the server returned.

The model starts at the loop, after the server, the consumer and the subscription were set up.
The prost decoding of a payload is a parameter, `decode`, `none` where it fails. The server is
not in the sources: its result is an event.
-/

namespace YellowstoneKafka.Kafka2Grpc

/-- Where `kafka2grpc` stands. -/
inductive Loc where
  /-- The `select!` of the loop. -/
  | streaming
  /-- `grpc_shutdown.await`. -/
  | stopping
  /-- The function returned. -/
  | done (r : Except Error Unit)
  deriving DecidableEq, Repr

/-- What `consumer.recv()` yields. -/
inductive Item where
  | message (m : Message)
  | error
  deriving DecidableEq, Repr

structure State where
  loc : Loc
  shutdown : Signal
  /-- `kafka_error_rx`, the consumer's sideband. -/
  fatal : Signal
  kafkaError : Bool
  /-- The messages `consumer.recv()` returned, each counted by `recv_inc`. -/
  received : List Message
  /-- What `grpc_tx.send` was given. -/
  forwarded : List SubscribeUpdate
  deriving DecidableEq, Repr

/-- Everything that can happen next. -/
inductive Event where
  /-- SIGINT or SIGTERM arrives. -/
  | shutdownSignal
  /-- The consumer's sideband fires. -/
  | consumerFatal
  /-- The `select!` takes `&mut shutdown`. -/
  | takeShutdown
  /-- The `select!` takes `&mut kafka_error_rx`. -/
  | takeFatal
  /-- `consumer.recv()` yields `item`. -/
  | receive (item : Item)
  /-- The server's task ends; `ok` is whether it returned `Ok`. -/
  | serverExit (ok : Bool)
  deriving DecidableEq, Repr

/-- The state when the loop starts. -/
def init : State where
  loc := .streaming
  shutdown := .pending
  fatal := .pending
  kafkaError := false
  received := []
  forwarded := []

def Loc.live : Loc → Bool
  | .done _ => false
  | _ => true

section Transitions

variable (decode : List UInt8 → Option SubscribeUpdate)

/-- The consumer branch: `?` on the result, `recv_inc`, then the payload, if any, is decoded and
sent; a decoding error is logged and skipped. -/
def State.receive (s : State) (item : Item) : State :=
  match item with
  | .error => { s with loc := .done (.error .consumer) }
  | .message m =>
    let s := { s with received := s.received ++ [m] }
    match m.payload.bind decode with
    | some u => { s with forwarded := s.forwarded ++ [u] }
    | none => s

/-- The action of one event while the stage runs. -/
def State.act (s : State) : Event → State
  | .shutdownSignal => { s with shutdown := s.shutdown.fire }
  | .consumerFatal => { s with fatal := s.fatal.fire }
  | .takeShutdown =>
    if s.loc = .streaming ∧ s.shutdown = .fired then
      { s with shutdown := .taken, loc := .stopping }
    else s
  | .takeFatal =>
    if s.loc = .streaming ∧ s.fatal = .fired then
      { s with fatal := .taken, kafkaError := true, loc := .stopping }
    else s
  | .receive item => if s.loc = .streaming then s.receive decode item else s
  | .serverExit ok =>
    if s.loc = .stopping then { s with loc := .done (if ok then .ok () else .error .server) }
    else s

/-- One step; a stage that returned does nothing more. -/
def step (s : State) (e : Event) : State := if s.loc.live then s.act decode e else s

/-- The state after a sequence of events. -/
def run (s : State) (es : List Event) : State := es.foldl (step decode) s

end Transitions

end YellowstoneKafka.Kafka2Grpc
