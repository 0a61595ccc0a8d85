import YellowstoneKafka.Codec.Text
import YellowstoneKafka.Codec.Hex
import YellowstoneKafka.Key
import YellowstoneKafka.Runtime
import YellowstoneKafka.Update
import YellowstoneKafka.Scheduler
import YellowstoneKafka.Grpc2Kafka.Machine
import YellowstoneKafka.Grpc2Kafka.Invariants
import YellowstoneKafka.Grpc2Kafka.Scheduling
import YellowstoneKafka.Grpc2Kafka.Runs
import YellowstoneKafka.Grpc2Kafka.Records
import YellowstoneKafka.Dedup.Machine
import YellowstoneKafka.Dedup.Invariants
import YellowstoneKafka.Dedup.Scheduling
import YellowstoneKafka.Dedup.Runs
import YellowstoneKafka.Kafka2Grpc
import YellowstoneKafka.Stages
import YellowstoneKafka.Build
import YellowstoneKafka.Main
