import SkywalkingAgent.Trace.TracingContext

/-!
# Log records

`LogRecord` of `logging/record.rs`, the builder of the log items. The setters that build a record
are total; `with_span` reads the object behind the span handle.
-/

set_option autoImplicit false

namespace SkywalkingAgent.Logging

open SkywalkingAgent.Lib SkywalkingAgent.Common SkywalkingAgent.Proto SkywalkingAgent.Trace

/-- `RecordType`. -/
inductive RecordType where
  | text
  | json
  | yaml
  deriving DecidableEq, Repr

/-- `LogRecord`. -/
structure LogRecord where
  /-- Nanoseconds since the epoch. -/
  time : Option Int
  isIgnoreTime : Bool
  endpoint : String
  tags : List (String × String)
  traceId : Option String
  traceSegmentId : Option String
  spanId : Option Int
  recordType : RecordType
  content : String
  deriving Repr

/-- The milliseconds of a custom time as an `i64`; a time before the epoch counts as the epoch. -/
def asMillis (time : Int) : Int := if time < 0 then 0 else (time / 1000000).bmod (2 ^ 64)

namespace LogRecord

/-- `LogRecord::new`. -/
def new : LogRecord := ⟨none, false, "", [], none, none, none, .text, ""⟩

/-- `LogRecord::custom_time`. -/
def customTime (self : LogRecord) (time : Int) : LogRecord := { self with time := some time }

/-- `LogRecord::ignore_time`. -/
def ignoreTime (self : LogRecord) : LogRecord := { self with isIgnoreTime := true }

/-- `LogRecord::endpoint`. -/
def setEndpoint (self : LogRecord) (endpoint : String) : LogRecord :=
  { self with endpoint := endpoint }

/-- `LogRecord::add_tag`. -/
def addTag (self : LogRecord) (key value : String) : LogRecord :=
  { self with tags := self.tags ++ [(key, value)] }

/-- `LogRecord::add_tags`. -/
def addTags (self : LogRecord) (tags : List (String × String)) : LogRecord :=
  { self with tags := self.tags ++ tags }

/-- `LogRecord::with_tracing_context`. -/
def withTracingContext (self : LogRecord) (tracingContext : TracingContext) : LogRecord :=
  { self with
    traceId := some tracingContext.traceId
    traceSegmentId := some tracingContext.traceSegmentId }

/-- `LogRecord::with_span`. -/
def withSpan (self : LogRecord) (span : Span) : Outcome Span LogRecord :=
  match span.obj with
  | some obj => .ok { self with spanId := some obj.spanId } span
  | none => .panic unwrapMessage span

/-- `LogRecord::record_type`. -/
def setRecordType (self : LogRecord) (recordType : RecordType) : LogRecord :=
  { self with recordType := recordType }

/-- `LogRecord::content`. -/
def setContent (self : LogRecord) (content : String) : LogRecord := { self with content := content }

/-- `LogRecord::convert_to_log_data`. -/
def convertToLogData (clock : Clock) (self : LogRecord) (serviceName instanceName : String) :
    LogData where
  timestamp :=
    if self.isIgnoreTime then 0
    else match self.time with
      | some time => asMillis time
      | none => clock .log
  service := serviceName
  serviceInstance := instanceName
  endpoint := self.endpoint
  body := some {
    type := ""
    content := match self.recordType with
      | .text => some (.text self.content)
      | .json => some (.json self.content)
      | .yaml => some (.yaml self.content) }
  traceContext :=
    -- the position is there as a whole or not at all
    match self.traceId, self.traceSegmentId, self.spanId with
    | some traceId, some traceSegmentId, some spanId => some ⟨traceId, traceSegmentId, spanId⟩
    | _, _, _ => none
  tags :=
    if self.tags.isEmpty then none
    else some ⟨self.tags.map fun tag => ⟨tag.1, tag.2⟩⟩
  layer := ""

/-- A record built for a span of a context carries the position of that span. -/
theorem traceContext_withSpan (clock : Clock) (serviceName instanceName : String)
    {self record : LogRecord} {context : TracingContext} {span span' : Span}
    (h : (self.withTracingContext context).withSpan span = .ok record span') :
    ∃ obj, span.obj = some obj ∧
      (record.convertToLogData clock serviceName instanceName).traceContext =
        some ⟨context.traceId, context.traceSegmentId, obj.spanId⟩ := by
  unfold withSpan at h
  cases hobj : span.obj with
  | none =>
    rw [hobj] at h
    cases h
  | some obj =>
    rw [hobj] at h
    obtain rfl := (Outcome.ok.inj h).1
    exact ⟨obj, rfl, rfl⟩

end LogRecord

end SkywalkingAgent.Logging
