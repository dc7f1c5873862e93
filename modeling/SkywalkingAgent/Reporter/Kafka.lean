import SkywalkingAgent.Reporter.Item
import SkywalkingAgent.Reporter.Pipeline

/-!
# The producer of the Kafka worker

`KafkaProducer` of `reporter/kafka.rs`: every item becomes one record for the topic of its kind. The
encoders of the messages are generated at build time and are a parameter; the answers of the Kafka
client come from outside.
-/

set_option autoImplicit false

namespace SkywalkingAgent.Reporter

open SkywalkingAgent.Lib SkywalkingAgent.Proto

/-- `TopicNames`. -/
structure TopicNames where
  segment : String
  meter : String
  log : String
  management : String
  deriving DecidableEq, Repr

namespace TopicNames

/-- `TOPIC_LOG`. -/
def topicLog : String := "skywalking-logs"

/-- `TOPIC_MANAGEMENT`. -/
def topicManagement : String := "skywalking-managements"

/-- `TOPIC_METER`. -/
def topicMeter : String := "skywalking-meters"

/-- `TOPIC_SEGMENT`. -/
def topicSegment : String := "skywalking-segments"

/-- `TopicNames::real_topic_name`. -/
def realTopicName (nameSpace : Option String) (topicName : String) : String :=
  match nameSpace with
  | some nameSpace => s!"{nameSpace}-{topicName}"
  | none => topicName

/-- `TopicNames::new`. -/
def new (nameSpace : Option String) : TopicNames where
  segment := realTopicName nameSpace topicSegment
  meter := realTopicName nameSpace topicMeter
  log := realTopicName nameSpace topicLog
  management := realTopicName nameSpace topicManagement

end TopicNames

/-- `FutureRecord`; a key is the bytes of a string. -/
structure FutureRecord where
  topic : String
  payload : List UInt8
  key : String
  deriving DecidableEq, Repr

/-- `KafkaProducer`, with the records sent and the calls of its `err_handle`. -/
structure KafkaProducer (KafkaError : Type) where
  topicNames : TopicNames
  records : List FutureRecord
  errHandled : List (String × KafkaError)

namespace KafkaProducer

variable {KafkaError : Type} (encodeToVec : CollectItem → List UInt8)

/-- `KafkaProducer::new`. -/
def new (nameSpace : Option String) : KafkaProducer KafkaError := ⟨.new nameSpace, [], []⟩

/-- The topic and the key of an item. -/
def address (self : KafkaProducer KafkaError) : CollectItem → String × String
  | .trace item => (self.topicNames.segment, item.traceSegmentId)
  | .log item => (self.topicNames.log, item.service)
  | .meter item => (self.topicNames.meter, item.serviceInstance)
  | .instance item => (self.topicNames.management, s!"register-{item.serviceInstance}")
  -- not the topic of the other management message
  | .ping item => (self.topicNames.log, item.serviceInstance)

/-- `KafkaProducer::produce`, with the answer of the client. -/
def produce (answer : Except KafkaError Unit) (item : CollectItem)
    (self : KafkaProducer KafkaError) : KafkaProducer KafkaError :=
  let (topic, key) := self.address item
  let self := { self with records := self.records ++ [⟨topic, encodeToVec item, key⟩] }
  match answer with
  | .ok () => self
  | .error err => { self with
      errHandled := self.errHandled ++ [("Collect data to kafka failed", err)] }

/-- The producer as the sink of the worker; dropping it leaves what was sent. -/
def sink : Sink (KafkaProducer KafkaError) CollectItem (Except KafkaError Unit) :=
  ⟨produce encodeToVec, id⟩

end KafkaProducer

/-- The task of `KafkaReporting::spawn`, with the reporters that feed it. -/
def KafkaReporting.spawn {KafkaError : Type} (encodeToVec : CollectItem → List UInt8) :
    Pipeline (KafkaProducer KafkaError) CollectItem →
      PipelineEvent CollectItem (Except KafkaError Unit) →
      Option (Pipeline (KafkaProducer KafkaError) CollectItem) :=
  Pipeline.step (KafkaProducer.sink encodeToVec)

end SkywalkingAgent.Reporter
