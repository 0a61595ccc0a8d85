import Mathlib.Data.List.AList
import YellowstoneKafka.Grpc2Kafka.Machine

/-!
# `main` and `ArgsAction::run`

`main` builds one rdkafka `ClientConfig` from the config's global `kafka` map, starts the
Prometheus server at the address the command line gives, else at the config's, and runs the
action the command line names, `grpc2kafka` when it names none. `ArgsAction::run` registers the
signal handlers, takes the action's section of the config or fails with a message naming it,
and hands the section and the client config to the stage, whose first loop sets the section's
own `kafka` map over the global one.

A `HashMap` of options is an association list with distinct keys, iterated in the order of its
entries; every iteration order is the order of some such list. `ClientConfig::set` overwrites a
key, as `HashMap::insert` does.
-/

namespace YellowstoneKafka.Main

/-- A `HashMap<String, String>` of Kafka options. -/
abbrev Options := AList fun _ : String => String

/-- rdkafka's `ClientConfig`, its `conf_map`. -/
structure ClientConfig where
  confMap : Options

/-- `ClientConfig::new()`. -/
def ClientConfig.new : ClientConfig := ⟨∅⟩

/-- `ClientConfig::set(key, value)`. -/
def ClientConfig.set (c : ClientConfig) (key value : String) : ClientConfig :=
  ⟨c.confMap.insert key value⟩

/-- `ClientConfig::get(key)`. -/
def ClientConfig.get (c : ClientConfig) (key : String) : Option String := c.confMap.lookup key

/-- `for (key, value) in options { kafka_config.set(key, value); }`: the loop of `main` over the
global map and the first loop of each stage over its own. -/
def ClientConfig.setAll (c : ClientConfig) (options : Options) : ClientConfig :=
  options.entries.foldl (fun c e => c.set e.1 e.2) c

@[simp] theorem ClientConfig.get_new (k : String) : ClientConfig.new.get k = none := rfl

theorem ClientConfig.get_set (c : ClientConfig) (key value k : String) :
    (c.set key value).get k = if k = key then some value else c.get k := by
  unfold ClientConfig.get ClientConfig.set
  split
  · subst k
    exact AList.lookup_insert _
  · exact AList.lookup_insert_ne ‹_›

theorem ClientConfig.get_foldl_set (k : String) :
    ∀ (l : List (Σ _ : String, String)), l.NodupKeys → ∀ c : ClientConfig,
      (l.foldl (fun c e => c.set e.1 e.2) c).get k = (l.dlookup k).or (c.get k)
  | [], _, c => rfl
  | e :: l, hl, c => by
    obtain ⟨he, hl⟩ := List.nodupKeys_cons.mp hl
    rw [List.foldl_cons, get_foldl_set k l hl, get_set]
    by_cases hk : k = e.1
    · subst hk
      rw [List.dlookup_eq_none.mpr he, if_pos rfl, List.dlookup_cons_eq]
      rfl
    · rw [if_neg hk, List.dlookup_cons_ne l e hk]

/-- After the loop, an option has the value the map gives it, else the one it had; the order the
map is iterated in does not matter, since its keys are distinct. -/
theorem ClientConfig.get_setAll (c : ClientConfig) (options : Options) (k : String) :
    (c.setAll options).get k = (options.lookup k).or (c.get k) :=
  get_foldl_set k options.entries options.nodupKeys c

/-- The subcommands. -/
inductive ArgsAction where
  | dedup
  | grpc2kafka
  | kafka2grpc
  deriving DecidableEq, Repr

/-- The `#[default]` variant. -/
def ArgsAction.default : ArgsAction := .grpc2kafka

/-- The subcommand's name on the command line. -/
def ArgsAction.name : ArgsAction → String
  | .dedup => "dedup"
  | .grpc2kafka => "grpc2kafka"
  | .kafka2grpc => "kafka2grpc"

/-- The part of the command line `main` reads after loading the config. -/
structure Args (Addr : Type) where
  prometheus : Option Addr
  action : Option ArgsAction

/-- The part of `ConfigDedup` the model reads. -/
structure ConfigDedup where
  kafka : Options
  kafkaQueueSize : Nat

/-- The part of `ConfigGrpc2Kafka` the model reads. -/
structure ConfigGrpc2Kafka where
  kafka : Options
  endpoint : String
  kafkaQueueSize : Nat

/-- The part of `ConfigKafka2Grpc` the model reads. -/
structure ConfigKafka2Grpc where
  kafka : Options

/-- The part of `Config` the model reads. -/
structure Config (Addr : Type) where
  prometheus : Option Addr
  kafka : Options
  dedup : Option ConfigDedup
  grpc2kafka : Option ConfigGrpc2Kafka
  kafka2grpc : Option ConfigKafka2Grpc

/-- What `main` starts with once the config is loaded: the Prometheus address, if any, the
action, and the client config it hands to `run`. -/
structure Start (Addr : Type) where
  prometheus : Option Addr
  action : ArgsAction
  kafkaConfig : ClientConfig

variable {Addr : Type}

/-- `main` after `config_load`: `args.prometheus.or(config.prometheus)`, the global options, and
`args.action.unwrap_or_default()`. -/
def main (args : Args Addr) (config : Config Addr) : Start Addr where
  prometheus := args.prometheus.or config.prometheus
  action := args.action.getD .default
  kafkaConfig := ClientConfig.new.setAll config.kafka

/-- A stage `run` starts, with its section and the client config its first loop leaves. -/
inductive Stage where
  | dedup (config : ConfigDedup) (kafkaConfig : ClientConfig)
  | grpc2kafka (config : ConfigGrpc2Kafka) (kafkaConfig : ClientConfig)
  | kafka2grpc (config : ConfigKafka2Grpc) (kafkaConfig : ClientConfig)

/-- The stage section's own `kafka` map. -/
def Stage.kafka : Stage → Options
  | .dedup c _ | .grpc2kafka c _ | .kafka2grpc c _ => c.kafka

/-- The client config the stage creates its consumer and producer from. -/
def Stage.kafkaConfig : Stage → ClientConfig
  | .dedup _ k | .grpc2kafka _ k | .kafka2grpc _ k => k

/-- Why `run` returns before a stage starts. -/
inductive RunError where
  /-- `create_shutdown()?`: registering the SIGINT or SIGTERM handler failed. -/
  | signal
  /-- The action's section is missing: the `anyhow!` message. -/
  | config (message : String)
  deriving DecidableEq, Repr

/-- `ArgsAction::run` up to the stage's first loop; `signals` is whether `create_shutdown`
registered both handlers. -/
def ArgsAction.run (action : ArgsAction) (signals : Bool) (config : Config Addr)
    (kafkaConfig : ClientConfig) : Except RunError Stage :=
  if signals then
    match action with
    | .dedup =>
      match config.dedup with
      | some c => .ok (.dedup c (kafkaConfig.setAll c.kafka))
      | none => .error (.config "`dedup` section in config should be defined")
    | .grpc2kafka =>
      match config.grpc2kafka with
      | some c => .ok (.grpc2kafka c (kafkaConfig.setAll c.kafka))
      | none => .error (.config "`grpc2kafka` section in config should be defined")
    | .kafka2grpc =>
      match config.kafka2grpc with
      | some c => .ok (.kafka2grpc c (kafkaConfig.setAll c.kafka))
      | none => .error (.config "`kafka2grpc` section in config should be defined")
  else .error .signal

/-- The action's section is in the config. -/
def Config.hasSection (config : Config Addr) : ArgsAction → Bool
  | .dedup => config.dedup.isSome
  | .grpc2kafka => config.grpc2kafka.isSome
  | .kafka2grpc => config.kafka2grpc.isSome

/-- `run` fails only when a signal handler cannot be registered, or when the action's section
is missing; the message then names the subcommand the command line gave. -/
theorem ArgsAction.run_eq_error (action : ArgsAction) (signals : Bool) (config : Config Addr)
    (kafkaConfig : ClientConfig) (e : RunError) :
    action.run signals config kafkaConfig = .error e ↔
      (signals = false ∧ e = .signal) ∨
      (signals = true ∧ config.hasSection action = false ∧
        e = .config ("`" ++ action.name ++ "` section in config should be defined")) := by
  cases signals with
  | false =>
    simp only [ArgsAction.run, Bool.false_eq_true, ↓reduceIte, Except.error.injEq, true_and,
      false_and, or_false]
    exact eq_comm
  | true =>
    cases action with
    | dedup =>
      cases hc : config.dedup <;> simp [ArgsAction.run, Config.hasSection, ArgsAction.name, hc,
        eq_comm]
    | grpc2kafka =>
      cases hc : config.grpc2kafka <;> simp [ArgsAction.run, Config.hasSection, ArgsAction.name,
        hc, eq_comm]
    | kafka2grpc =>
      cases hc : config.kafka2grpc <;> simp [ArgsAction.run, Config.hasSection, ArgsAction.name,
        hc, eq_comm]

/-- A stage starts with the client config its first loop leaves on the one `run` was given. -/
theorem ArgsAction.run_eq_ok {action : ArgsAction} {signals : Bool} {config : Config Addr}
    {kafkaConfig : ClientConfig} {st : Stage} (h : action.run signals config kafkaConfig = .ok st) :
    st.kafkaConfig = kafkaConfig.setAll st.kafka := by
  cases signals with
  | false => simp [ArgsAction.run] at h
  | true =>
    cases action with
    | dedup => cases hc : config.dedup <;> simp [ArgsAction.run, hc] at h; subst h; rfl
    | grpc2kafka => cases hc : config.grpc2kafka <;> simp [ArgsAction.run, hc] at h; subst h; rfl
    | kafka2grpc => cases hc : config.kafka2grpc <;> simp [ArgsAction.run, hc] at h; subst h; rfl

/-- For every command line and config, the stage that starts creates its Kafka clients with, for
every option, the value its own section's `kafka` map sets, else the value the global `kafka`
map sets, whatever order the two maps are iterated in. -/
theorem stage_options_override_global (args : Args Addr) (config : Config Addr) (signals : Bool)
    (st : Stage)
    (h : (main args config).action.run signals config (main args config).kafkaConfig = .ok st)
    (k : String) : st.kafkaConfig.get k = (st.kafka.lookup k).or (config.kafka.lookup k) := by
  rw [ArgsAction.run_eq_ok h, ClientConfig.get_setAll, main, ClientConfig.get_setAll,
    ClientConfig.get_new, Option.or_none]

/-- `grpc2kafka`, the default, with `bootstrap.servers` set globally and in its section: the
section's value wins. -/
theorem stage_options_override_global_at_default :
    let global : Options := (∅ : Options).insert "bootstrap.servers" "a:9092"
    let own : ConfigGrpc2Kafka := ⟨(∅ : Options).insert "bootstrap.servers" "b:9092", "e", 1⟩
    let config : Config Unit := ⟨none, global, none, some own, none⟩
    let args : Args Unit := ⟨none, none⟩
    let st : Stage := .grpc2kafka own ((ClientConfig.new.setAll global).setAll own.kafka)
    (main args config).action.run true config (main args config).kafkaConfig = .ok st ∧
      st.kafkaConfig.get "bootstrap.servers" =
        (st.kafka.lookup "bootstrap.servers").or (config.kafka.lookup "bootstrap.servers") := by
  intro global own config args st
  exact ⟨rfl, stage_options_override_global args config true st rfl "bootstrap.servers"⟩

end YellowstoneKafka.Main
