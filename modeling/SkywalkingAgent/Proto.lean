/-!
# The collect protocol's messages

The records that the agent fills in and hands to a reporter, with the fields that the agent reads or
writes. `i32` and `i64` fields are integers, enumerations keep their own types, and a metric's `f64`
is a type of its own so that the metrics layer can choose its arithmetic.
-/

set_option autoImplicit false

namespace SkywalkingAgent.Proto

/-- The kinds of spans. -/
inductive SpanType where
  | entry
  | exit
  | localSpan
  deriving DecidableEq, Repr

/-- The span layers that the agent assigns. -/
inductive SpanLayer where
  | unknown
  | http
  deriving DecidableEq, Repr

/-- The kinds of references between segments. -/
inductive RefType where
  | crossProcess
  | crossThread
  deriving DecidableEq, Repr

/-- `KeyStringValuePair`. -/
structure KeyStringValuePair where
  key : String
  value : String
  deriving DecidableEq, Repr

/-- A timed log of a span. -/
structure Log where
  time : Int
  data : List KeyStringValuePair
  deriving DecidableEq, Repr

/-- The link from a span to its parent span in another segment. -/
structure SegmentReference where
  refType : RefType
  traceId : String
  parentTraceSegmentId : String
  parentSpanId : Int
  parentService : String
  parentServiceInstance : String
  parentEndpoint : String
  networkAddressUsedAtPeer : String
  deriving DecidableEq, Repr

/-- `SpanObject`. -/
structure SpanObject where
  spanId : Int
  parentSpanId : Int
  startTime : Int
  endTime : Int
  refs : List SegmentReference
  operationName : String
  peer : String
  spanType : SpanType
  spanLayer : SpanLayer
  componentId : Int
  isError : Bool
  tags : List KeyStringValuePair
  logs : List Log
  skipAnalysis : Bool
  deriving DecidableEq, Repr

/-- `SegmentObject`. -/
structure SegmentObject where
  traceId : String
  traceSegmentId : String
  spans : List SpanObject
  service : String
  serviceInstance : String
  isSizeLimited : Bool
  deriving DecidableEq, Repr

namespace SpanObject

/-- `SpanObject::add_log`; `now` is the clock reading. -/
def addLog (self : SpanObject) (now : Int) (message : List (String × String)) : SpanObject :=
  let log : Log := ⟨now, message.map fun v => ⟨v.1, v.2⟩⟩
  { self with logs := self.logs ++ [log] }

/-- `SpanObject::add_tag`. -/
def addTag (self : SpanObject) (key value : String) : SpanObject :=
  { self with tags := self.tags ++ [⟨key, value⟩] }

end SpanObject

/-! ## Log data -/

/-- The content of a log body. -/
inductive Content where
  | text (text : String)
  | json (json : String)
  | yaml (yaml : String)
  deriving DecidableEq, Repr

/-- `LogDataBody`. -/
structure LogDataBody where
  type : String
  content : Option Content
  deriving DecidableEq, Repr

/-- The position in a trace that a log belongs to. -/
structure TraceContext where
  traceId : String
  traceSegmentId : String
  spanId : Int
  deriving DecidableEq, Repr

/-- `LogTags`. -/
structure LogTags where
  data : List KeyStringValuePair
  deriving DecidableEq, Repr

/-- `LogData`. -/
structure LogData where
  timestamp : Int
  service : String
  serviceInstance : String
  endpoint : String
  body : Option LogDataBody
  traceContext : Option TraceContext
  tags : Option LogTags
  layer : String
  deriving DecidableEq, Repr

/-! ## Meter data -/

/-- `Label`. -/
structure Label where
  name : String
  value : String
  deriving DecidableEq, Repr

/-- `MeterSingleValue`. -/
structure MeterSingleValue (F64 : Type) where
  name : String
  labels : List Label
  value : F64
  deriving DecidableEq, Repr

/-- `MeterBucketValue`. -/
structure MeterBucketValue (F64 : Type) where
  bucket : F64
  count : Int
  isNegativeInfinity : Bool
  deriving DecidableEq, Repr

/-- `MeterHistogram`. -/
structure MeterHistogram (F64 : Type) where
  name : String
  labels : List Label
  values : List (MeterBucketValue F64)
  deriving DecidableEq, Repr

/-- The metric of a meter report. -/
inductive Metric (F64 : Type) where
  | singleValue (value : MeterSingleValue F64)
  | histogram (value : MeterHistogram F64)
  deriving DecidableEq, Repr

/-- `MeterData`. -/
structure MeterData (F64 : Type) where
  service : String
  serviceInstance : String
  timestamp : Int
  metric : Option (Metric F64)
  deriving DecidableEq, Repr

/-! ## Management data -/

/-- `InstanceProperties`. -/
structure InstanceProperties where
  service : String
  serviceInstance : String
  properties : List KeyStringValuePair
  layer : String
  deriving DecidableEq, Repr

/-- `InstancePingPkg`. -/
structure InstancePingPkg where
  service : String
  serviceInstance : String
  layer : String
  deriving DecidableEq, Repr

end SkywalkingAgent.Proto
