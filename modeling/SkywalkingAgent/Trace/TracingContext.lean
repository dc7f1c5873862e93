import SkywalkingAgent.Propagation.Context
import SkywalkingAgent.Reporter.Item
import SkywalkingAgent.Trace.Span

/-!
# The tracing context

`TracingContext` and `ContextSnapshot` of `trace/trace_context.rs`, and the part of
`trace/tracer.rs` that finishes a context. The ids that the random generator draws and the service
names are arguments of `new`; `overflowChecks` is the build's setting for integer arithmetic.
-/

set_option autoImplicit false

namespace SkywalkingAgent.Trace

open SkywalkingAgent.Lib SkywalkingAgent.Common SkywalkingAgent.Proto
open SkywalkingAgent.Propagation SkywalkingAgent.Reporter

/-- The data of a tracer that its contexts read. -/
structure Tracer where
  serviceName : String
  instanceName : String
  deriving DecidableEq, Repr

/-- The weak pointer of a context to its tracer: absent once the tracer is dropped. -/
abbrev WeakTracer := Option Tracer

/-- `TracingContext`. -/
structure TracingContext where
  traceId : String
  traceSegmentId : String
  service : String
  serviceInstance : String
  nextSpanId : Int
  spanStack : SpanStack
  primaryEndpointName : String
  spanUidGenerator : SpanUid
  wg : WaitGroup
  tracer : WeakTracer
  deriving DecidableEq, Repr

/-- `ContextSnapshot`. -/
structure ContextSnapshot where
  traceId : String
  traceSegmentId : String
  spanId : Int
  parentEndpoint : String
  deriving DecidableEq, Repr

/-- `ContextSnapshot::is_valid`. -/
def ContextSnapshot.isValid (self : ContextSnapshot) : Bool :=
  self.traceSegmentId ≠ "" && decide (self.spanId > -1) && self.traceId ≠ ""

/-- `ContextSnapshot::is_from_current`. -/
def ContextSnapshot.isFromCurrent (self : ContextSnapshot) (context : TracingContext) : Bool :=
  self.traceSegmentId ≠ "" && self.traceSegmentId = context.traceSegmentId

namespace TracingContext

/-- `TracingContext::new`. -/
def new (serviceName instanceName traceId traceSegmentId : String) (tracer : WeakTracer) :
    TracingContext where
  traceId := traceId
  traceSegmentId := traceSegmentId
  service := serviceName
  serviceInstance := instanceName
  nextSpanId := 0
  spanStack := .new
  primaryEndpointName := ""
  spanUidGenerator := 0
  wg := .new
  tracer := tracer

/-- `TracingContext::inc_next_span_id`. -/
def incNextSpanId (overflowChecks : Bool) (self : TracingContext) : Outcome TracingContext Int :=
  match succI32 overflowChecks self.nextSpanId with
  | some next => .ok self.nextSpanId { self with nextSpanId := next }
  | none => .panic overflowMessage self

/-- `TracingContext::generate_span_uid`. -/
def generateSpanUid (self : TracingContext) : SpanUid × TracingContext :=
  (self.spanUidGenerator, { self with spanUidGenerator := self.spanUidGenerator + 1 })

/-- `TracingContext::active_span`. -/
def activeSpan (self : TracingContext) : Option ActiveSpan := self.spanStack.active.getLast?

/-- `TracingContext::peek_active_span_id`. -/
def peekActiveSpanId (self : TracingContext) : Option Int :=
  self.activeSpan.map fun span => span.spanId

/-- `TracingContext::push_active_span`. -/
def pushActiveSpan (self : TracingContext) (span : SpanObject) : SpanUid × TracingContext :=
  let (uid, self) := self.generateSpanUid
  let stack := self.spanStack
  (uid, { self with
    -- set on every push, and by nothing that pops
    primaryEndpointName := span.operationName
    spanStack := { stack with active := stack.active ++ [ActiveSpan.new uid span.spanId] } })

/-- The common end of the functions that create spans: draw the id, build the object, push it. -/
def openSpan (overflowChecks : Bool) (clock : Clock) (self : TracingContext) (parentSpanId : Int)
    (operationName remotePeer : String) (spanType : SpanType) (spanLayer : SpanLayer) :
    Outcome TracingContext Span :=
  (self.incNextSpanId overflowChecks).bind fun spanId self =>
    let span := Span.newObj clock spanId parentSpanId operationName remotePeer spanType
      spanLayer false
    let (uid, self) := self.pushActiveSpan span
    .ok (Span.new uid span) self

/-- `TracingContext::create_entry_span`. -/
def createEntrySpan (overflowChecks : Bool) (clock : Clock) (self : TracingContext)
    (operationName : String) : Outcome TracingContext Span :=
  self.openSpan overflowChecks clock (self.peekActiveSpanId.getD (-1)) operationName "" .entry .http

/-- The reference that `create_entry_span_with_propagation` puts on its span. -/
def propagationRef (propagation : PropagationContext) : SegmentReference where
  refType := .crossProcess
  traceId := propagation.parentTraceId
  parentTraceSegmentId := propagation.parentTraceSegmentId
  parentSpanId := propagation.parentSpanId
  parentService := propagation.parentService
  parentServiceInstance := propagation.parentServiceInstance
  parentEndpoint := propagation.destinationEndpoint
  networkAddressUsedAtPeer := propagation.destinationAddress

/-- `TracingContext::create_entry_span_with_propagation`. -/
def createEntrySpanWithPropagation (overflowChecks : Bool) (clock : Clock) (self : TracingContext)
    (operationName : String) (propagation : PropagationContext) : Outcome TracingContext Span :=
  (self.createEntrySpan overflowChecks clock operationName).bind fun span self =>
    let self := { self with traceId := propagation.parentTraceId }
    -- the reference's own trace id is read back from the context
    let ref := { propagationRef propagation with traceId := self.traceId }
    match span.modifyObject fun obj => { obj with refs := obj.refs ++ [ref] } with
    | .ok () span => .ok span self
    | .panic m _ => .panic m self
    | .abort m => .abort m

/-- `TracingContext::create_common_span`. -/
def createCommonSpan (overflowChecks : Bool) (clock : Clock) (self : TracingContext)
    (operationName remotePeer : String) (spanType : SpanType) (parentSpanId : Int) :
    Outcome TracingContext Span :=
  -- the check is on the counter, not on the stack
  if self.nextSpanId = 0 then .panic "entry span must be existed." self
  else self.openSpan overflowChecks clock parentSpanId operationName remotePeer spanType .unknown

/-- `TracingContext::create_exit_span`. -/
def createExitSpan (overflowChecks : Bool) (clock : Clock) (self : TracingContext)
    (operationName remotePeer : String) : Outcome TracingContext Span :=
  self.createCommonSpan overflowChecks clock operationName remotePeer .exit
    (self.peekActiveSpanId.getD (-1))

/-- `TracingContext::create_local_span`. -/
def createLocalSpan (overflowChecks : Bool) (clock : Clock) (self : TracingContext)
    (operationName : String) : Outcome TracingContext Span :=
  self.createCommonSpan overflowChecks clock operationName "" .localSpan
    (self.peekActiveSpanId.getD (-1))

/-- `TracingContext::capture`. -/
def capture (self : TracingContext) : ContextSnapshot where
  traceId := self.traceId
  traceSegmentId := self.traceSegmentId
  spanId := self.peekActiveSpanId.getD (-1)
  parentEndpoint := self.primaryEndpointName

/-- The reference that `continued` parks for a snapshot. -/
def snapshotRef (tracer : Tracer) (snapshot : ContextSnapshot) : SegmentReference where
  refType := .crossThread
  traceId := snapshot.traceId
  parentTraceSegmentId := snapshot.traceSegmentId
  parentSpanId := snapshot.spanId
  parentService := tracer.serviceName
  parentServiceInstance := tracer.instanceName
  parentEndpoint := snapshot.parentEndpoint
  networkAddressUsedAtPeer := ""

/-- The assignment through `active_span_mut`: the top of the stack takes a parked reference. -/
def parkRef (self : SpanStack) (ref : SegmentReference) : SpanStack :=
  match self.active.getLast? with
  | some span => { self with active := self.active.dropLast ++ [{ span with ref := some ref }] }
  | none => self

/-- `TracingContext::continued`. -/
def continued (self : TracingContext) (snapshot : ContextSnapshot) :
    Outcome TracingContext Unit :=
  if snapshot.isValid then
    -- the trace is adopted before the tracer is asked for
    let self := { self with traceId := snapshot.traceId }
    match self.tracer with
    | none => .panic "Tracer has dropped" self
    | some tracer =>
        .ok () { self with spanStack := parkRef self.spanStack (snapshotRef tracer snapshot) }
  else .ok () self

/-- The objects of the finalized spans, all of which must be there. -/
def takeObjects : List FinalizeSpan → Option (List SpanObject)
  | [] => some []
  | span :: spans =>
      match span.obj, takeObjects spans with
      | some obj, some objs => some (obj :: objs)
      | _, _ => none

/-- `TracingContext::convert_to_segment_object`. -/
def convertToSegmentObject (self : TracingContext) : Outcome TracingContext SegmentObject :=
  let spans := self.spanStack.finalized
  -- `mem::take` empties the list before the objects are looked at
  let self := { self with spanStack := { self.spanStack with finalized := [] } }
  match takeObjects spans with
  | none => .panic "Some async span haven't finished" self
  | some spans => .ok
      { traceId := self.traceId
        traceSegmentId := self.traceSegmentId
        spans := spans
        service := self.service
        serviceInstance := self.serviceInstance
        isSizeLimited := false } self

/-- `Drop for TracingContext` with `Tracer::finalize_context`: the item handed to the reporter. -/
def drop (self : TracingContext) : Outcome TracingContext CollectItem :=
  match self.tracer with
  | none => .panic "Tracer has dropped" self
  | some _ => self.convertToSegmentObject.bind fun segment self => .ok (.trace segment) self

theorem continued_of_not_valid {self : TracingContext} {snapshot : ContextSnapshot}
    (hvalid : snapshot.isValid = false) : self.continued snapshot = .ok () self := by
  simp [continued, hvalid]

theorem continued_of_tracer {self : TracingContext} {snapshot : ContextSnapshot} {tracer : Tracer}
    (hvalid : snapshot.isValid) (htracer : self.tracer = some tracer) :
    self.continued snapshot = .ok () { self with
      traceId := snapshot.traceId
      spanStack := parkRef self.spanStack (snapshotRef tracer snapshot) } := by
  simp [continued, hvalid, htracer]

/-- Without its tracer a context panics half way, with the trace adopted already. -/
theorem continued_of_dropped {self : TracingContext} {snapshot : ContextSnapshot}
    (hvalid : snapshot.isValid) (htracer : self.tracer = none) :
    self.continued snapshot =
      .panic "Tracer has dropped" { self with traceId := snapshot.traceId } := by
  simp [continued, hvalid, htracer]

theorem takeObjects_eq_some_iff {spans : List FinalizeSpan} {objs : List SpanObject} :
    takeObjects spans = some objs ↔ spans.map (fun span => span.obj) = objs.map some := by
  -- both lists are walked together
  induction spans generalizing objs with
  | nil =>
    cases objs with
    | nil => simp [takeObjects]
    | cons obj objs => simp [takeObjects]
  | cons span spans ih =>
    cases objs with
    | nil =>
      simp only [takeObjects, List.map_cons, List.map_nil, reduceCtorEq, iff_false]
      intro h
      split at h <;> simp at h
    | cons obj objs =>
      simp only [takeObjects, List.map_cons, List.cons.injEq]
      rw [← ih]
      cases span.obj with
      | none => simp
      | some o =>
        cases takeObjects spans with
        | none => simp
        | some os => simp

/-- Where no entry is empty, nothing is missing. -/
theorem exists_takeObjects {spans : List FinalizeSpan} (h : ∀ span ∈ spans, span.obj.isSome) :
    ∃ objs, takeObjects spans = some objs := by
  induction spans with
  | nil => exact ⟨[], rfl⟩
  | cons span spans ih =>
    obtain ⟨obj, hobj⟩ := Option.isSome_iff_exists.1 (h span List.mem_cons_self)
    obtain ⟨objs, hobjs⟩ := ih fun s hs => h s (List.mem_cons_of_mem _ hs)
    exact ⟨obj :: objs, by simp [takeObjects, hobj, hobjs]⟩

/-- Dropping the context reports when its tracer is alive and no object is missing; it takes the
finalized spans, whatever is still on the active stack. -/
theorem drop_eq_ok_iff {self t : TracingContext} {item : CollectItem} :
    self.drop = .ok item t ↔ self.tracer.isSome ∧
      ∃ spans, takeObjects self.spanStack.finalized = some spans ∧
        item = .trace { traceId := self.traceId
                        traceSegmentId := self.traceSegmentId
                        spans := spans
                        service := self.service
                        serviceInstance := self.serviceInstance
                        isSizeLimited := false } ∧
        t = { self with spanStack := { self.spanStack with finalized := [] } } := by
  unfold drop convertToSegmentObject
  cases htracer : self.tracer with
  | none => simp
  | some tracer =>
    cases hspans : takeObjects self.spanStack.finalized with
    | none => simp [hspans, Outcome.bind]
    | some spans => simp [hspans, Outcome.bind, eq_comm]

/-- What opening a span does, once the id is drawn. -/
theorem openSpan_eq_ok_iff {overflowChecks : Bool} {clock : Clock} {self t : TracingContext}
    {parentSpanId : Int} {operationName remotePeer : String} {spanType : SpanType}
    {spanLayer : SpanLayer} {span : Span} :
    self.openSpan overflowChecks clock parentSpanId operationName remotePeer spanType spanLayer =
        .ok span t ↔
      ∃ next, succI32 overflowChecks self.nextSpanId = some next ∧
        span = ⟨self.spanUidGenerator, some (Span.newObj clock self.nextSpanId parentSpanId
          operationName remotePeer spanType spanLayer false)⟩ ∧
        t = { self with
          nextSpanId := next
          spanUidGenerator := self.spanUidGenerator + 1
          primaryEndpointName := operationName
          spanStack := { self.spanStack with
            active := self.spanStack.active ++
              [⟨self.spanUidGenerator, self.nextSpanId, none⟩] } } := by
  unfold openSpan incNextSpanId
  cases hsucc : succI32 overflowChecks self.nextSpanId with
  | none => simp [Outcome.bind]
  | some next =>
    simp only [Outcome.bind, pushActiveSpan, generateSpanUid, Span.new, ActiveSpan.new,
      Outcome.ok.injEq, Option.some.injEq, exists_eq_left', Span.newObj]
    constructor
    · rintro ⟨rfl, rfl⟩
      exact ⟨rfl, rfl⟩
    · rintro ⟨rfl, rfl⟩
      exact ⟨rfl, rfl⟩

theorem createEntrySpanWithPropagation_eq_ok_iff {overflowChecks : Bool} {clock : Clock}
    {self t : TracingContext} {operationName : String} {propagation : PropagationContext}
    {span : Span} :
    self.createEntrySpanWithPropagation overflowChecks clock operationName propagation =
        .ok span t ↔
      ∃ span' t' obj, self.createEntrySpan overflowChecks clock operationName = .ok span' t' ∧
        span'.obj = some obj ∧
        span = ⟨span'.uid, some { obj with refs := obj.refs ++ [propagationRef propagation] }⟩ ∧
        t = { t' with traceId := propagation.parentTraceId } := by
  unfold createEntrySpanWithPropagation
  rw [Outcome.bind_eq_ok_iff]
  refine exists_congr fun span' => exists_congr fun t' => ?_
  cases hobj : span'.obj with
  | none => simp [Span.modifyObject, hobj]
  | some obj =>
    simp only [Span.modifyObject, hobj, Outcome.ok.injEq, Option.some.injEq, propagationRef]
    constructor
    · rintro ⟨h, rfl, rfl⟩
      exact ⟨obj, h, rfl, rfl, rfl⟩
    · rintro ⟨obj', h, rfl, rfl, rfl⟩
      exact ⟨h, rfl, rfl⟩

end TracingContext

end SkywalkingAgent.Trace
