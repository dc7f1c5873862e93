import SkywalkingAgent.Lib.Feed
import SkywalkingAgent.Logging.Logger
import SkywalkingAgent.Management.Manager
import SkywalkingAgent.Metrics.Metricer
import SkywalkingAgent.Reporter.Grpc
import SkywalkingAgent.Reporter.Kafka
import SkywalkingAgent.Trace.Positions
import Mathlib.Algebra.Order.Ring.Rat

/-!
# An application with its agent

An application has any number of tracing contexts and loggers, a metricer and the task of a manager.
What they report goes to clones of one gRPC reporter (`wiring`) or of one Kafka reporter
(`kafkaWiring`), whose tasks run beside them. A call of `report` returns once its item is produced;
until then it holds back the loop that has made it, and if it panics the loop goes no further.
-/

set_option autoImplicit false

/-- The step is one of the metricer's loop. -/
def SkywalkingAgent.Metrics.MeterEvent.isLoop {F : Type} :
    SkywalkingAgent.Metrics.MeterEvent F → Bool
  | .register _ | .setReportInterval _ | .increment _ _ | .addValue _ _ => false
  | .boot _ | .shutdown | .drop => false
  | _ => true

namespace SkywalkingAgent.Application

open SkywalkingAgent.Lib SkywalkingAgent.Common SkywalkingAgent.Proto SkywalkingAgent.Reporter
open SkywalkingAgent.Logging SkywalkingAgent.Management SkywalkingAgent.Metrics
open SkywalkingAgent.Trace

/-! ## The components -/

/-- What reports to the reporter; a logger has no state. -/
structure Components (ι : Type) where
  contexts : ι → World
  metricer : MeterSystem Rat
  keepAlive : KeepAlive

/-- What the components do. -/
inductive ComponentEvent (ι : Type) where
  /-- A call on a context or on one of its spans, on any thread. -/
  | context (i : ι) (e : Trace.Event)
  | metricer (e : MeterEvent Rat)
  /-- A tick of `report_and_keep_alive`. -/
  | keepAlive (built : BuiltProperties)
  | log (logger : Logger) (record : LogRecord) (clock : Clock)

/-- How the application was built and set up. -/
structure Settings where
  overflowChecks : Bool
  manager : Manager
  propertiesReportPeriodFactor : Nat

namespace Components

variable {ι : Type} [DecidableEq ι]

/-- Nothing reported yet. -/
def new (origin : ι → Origin) (service : Service) : Components ι :=
  ⟨fun i => (origin i).world, .new service, .new⟩

/-- One step of a component, with the items that it reports. -/
def step (settings : Settings) (self : Components ι) :
    ComponentEvent ι → Option (Components ι × List CollectItem)
  | .context i e =>
      ((self.contexts i).after settings.overflowChecks e).map fun w =>
        ({ self with contexts := Function.update self.contexts i w },
          w.reported.drop (self.contexts i).reported.length)
  | .metricer e =>
      (self.metricer.step e).map fun m =>
        ({ self with metricer := m },
          (m.reported.drop self.metricer.reported.length).map CollectItem.meter)
  | .keepAlive built =>
      (KeepAlive.step settings.overflowChecks settings.manager
          settings.propertiesReportPeriodFactor self.keepAlive built).map fun k =>
        ({ self with keepAlive := k }, k.reported.drop self.keepAlive.reported.length)
  | .log logger record clock => some (self, [logger.log clock record])

end Components

/-! ## The components and the reporter -/

/-- A call of `report` with such an item has not returned. -/
def isUnreturned {σ : Type} (p : CollectItem → Bool) (self : Pipeline σ CollectItem) : Bool :=
  self.calls.any fun call => !call.status.hasReturned && p call.item

/-- The items of the metricer. -/
def isMeter : CollectItem → Bool
  | .meter _ => true
  | _ => false

/-- The items of the manager. -/
def isManagement : CollectItem → Bool
  | .instance _ | .ping _ => true
  | _ => false

/-- A loop goes on when its call of `report` has returned. -/
def ready {ι σ : Type} (self : Pipeline σ CollectItem) : ComponentEvent ι → Bool
  | .metricer e => !(e.isLoop && isUnreturned isMeter self)
  | .keepAlive _ => !isUnreturned isManagement self
  | _ => true

/-- The item of a call of `report`. -/
def reportedItem? {Status : Type} : ReportingEvent Status → Option CollectItem
  | .pipeline (.report item) => some item
  | _ => none

/-- The components feed the reporter, and nobody else does. -/
def wiring (ι Status : Type) [DecidableEq ι] (settings : Settings) :
    Wiring (Components ι) (ComponentEvent ι) CollectItem (Reporting Status)
      (ReportingEvent Status) where
  source := Components.step settings
  ready self := ready self.pipeline
  sink := Reporting.step
  accept item := .pipeline (.report item)
  accepted? := reportedItem?
  accepted_accept _ := rfl

/-- The components and the reporter. -/
abbrev State (ι Status : Type) : Type := Components ι × Reporting Status

variable {ι Status : Type} [DecidableEq ι]

/-- Contexts that were just created, a metricer without meters, and the reporter just spawned. -/
def start (origin : ι → Origin) (service : Service) (capacity : Option Nat) : State ι Status :=
  (.new origin service, .new capacity)

/-- The run of a list of steps. -/
abbrev run (settings : Settings) :
    State ι Status → List (ComponentEvent ι ⊕ ReportingEvent Status) → Option (State ι Status) :=
  (wiring ι Status settings).run

/-! ## The components and a Kafka reporter -/

/-- The item of a call of `report`. -/
def calledItem? {ω : Type} : PipelineEvent CollectItem ω → Option CollectItem
  | .report item => some item
  | _ => none

/-- The components and the Kafka reporter. -/
abbrev KafkaState (ι KafkaError : Type) : Type :=
  Components ι × Pipeline (KafkaProducer KafkaError) CollectItem

/-- The steps of the components and of the Kafka reporter. -/
abbrev KafkaEvent (ι KafkaError : Type) : Type :=
  ComponentEvent ι ⊕ PipelineEvent CollectItem (Except KafkaError Unit)

/-- The components feed the Kafka reporter, and nobody else does. -/
def kafkaWiring (ι KafkaError : Type) [DecidableEq ι] (settings : Settings)
    (encodeToVec : CollectItem → List UInt8) :
    Wiring (Components ι) (ComponentEvent ι) CollectItem
      (Pipeline (KafkaProducer KafkaError) CollectItem)
      (PipelineEvent CollectItem (Except KafkaError Unit)) where
  source := Components.step settings
  ready := ready
  sink := KafkaReporting.spawn encodeToVec
  accept := .report
  accepted? := calledItem?
  accepted_accept _ := rfl

variable {KafkaError : Type}

/-- Contexts that were just created, a metricer without meters, and the worker just spawned. -/
def startKafka (origin : ι → Origin) (service : Service) (capacity : Option Nat)
    (nameSpace : Option String) : KafkaState ι KafkaError :=
  (.new origin service, .new capacity (.new nameSpace))

/-- The run of a list of steps. -/
abbrev runKafka (settings : Settings) (encodeToVec : CollectItem → List UInt8) :
    KafkaState ι KafkaError → List (KafkaEvent ι KafkaError) →
      Option (KafkaState ι KafkaError) :=
  (kafkaWiring ι KafkaError settings encodeToVec).run

end SkywalkingAgent.Application
