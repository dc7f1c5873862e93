import SkywalkingAgent.Trace.Program
import Mathlib.Data.List.Range
import Mathlib.Data.List.Nodup

/-!
# The ledger of a segment

What a tracing context is for, without handles, stacks and placeholders: a table of the spans in the
order of their creation, the stack of the open ones, and the order in which they were closed. A span
is open, or goes on detached as an asynchronous span, or has ended; its record holds the object it
will be reported with.

`Ledger.toWorld` spreads a ledger over the data structures of the program: the object of an open
span is in its handle and its parked reference on the active stack, a detached span leaves an empty
placeholder that keeps the reference, and an ended span has its object in the finalized list.
-/

set_option autoImplicit false

namespace SkywalkingAgent.Trace

open SkywalkingAgent.Lib SkywalkingAgent.Common SkywalkingAgent.Proto
open SkywalkingAgent.Propagation SkywalkingAgent.Reporter

/-- The life of a span. -/
inductive Phase where
  | opened
  | detached
  | ended
  deriving DecidableEq, Repr

/-- What the ledger knows of a span. -/
structure SpanRecord where
  /-- The number of the span that was innermost when this one was created. -/
  parent : Option Nat
  obj : SpanObject
  parked : Option SegmentReference
  phase : Phase

/-- The spans of a context by their numbers, with the open ones and the closed ones in order. -/
structure Ledger where
  /-- The number of spans created; the records from there on mean nothing. -/
  count : Nat
  record : Nat → SpanRecord
  /-- The open spans, innermost last. -/
  stack : List Nat
  /-- The closed spans, in the order in which their handles were dropped or turned asynchronous. -/
  order : List Nat
  traceId : String
  endpoint : String
  tracer : WeakTracer

namespace Ledger

/-- The innermost open span. -/
def innermost (L : Ledger) : Option Nat := L.stack.getLast?

/-- The span id of a parent, `-1` without one. -/
def parentId (parent : Option Nat) : Int := (parent.map fun k => wrapI32 (k : Nat)).getD (-1)

/-- The ledger of a fresh context. -/
def new (traceId : String) (tracer : WeakTracer) : Ledger where
  count := 0
  record _ := ⟨none, Span.newObj (fun _ => 0) 0 0 "" "" .entry .unknown false, none, .ended⟩
  stack := []
  order := []
  traceId := traceId
  endpoint := ""
  tracer := tracer

/-- The object of the next span. -/
def nextObject (L : Ledger) (clock : Clock) (operationName remotePeer : String)
    (spanType : SpanType) (spanLayer : SpanLayer) (refs : List SegmentReference) : SpanObject :=
  { Span.newObj clock (wrapI32 L.count) (parentId L.innermost) operationName remotePeer spanType
      spanLayer false with refs := refs }

/-- A new innermost span. -/
def openSpan (L : Ledger) (clock : Clock) (operationName remotePeer : String) (spanType : SpanType)
    (spanLayer : SpanLayer) (refs : List SegmentReference) : Ledger :=
  { L with
    count := L.count + 1
    record := Function.update L.record L.count
      ⟨L.innermost, L.nextObject clock operationName remotePeer spanType spanLayer refs, none,
        .opened⟩
    stack := L.stack ++ [L.count]
    endpoint := operationName }

/-- The record of a span is changed. -/
def setRecord (L : Ledger) (h : Nat) (r : SpanRecord) : Ledger :=
  { L with record := Function.update L.record h r }

/-- A change of the object of a span that has not ended. -/
def edit (L : Ledger) (h : Nat) (f : SpanObject → SpanObject) : Option Ledger :=
  -- both kinds of handle reach the object, a closed one does not
  if h < L.count ∧ (L.record h).phase ≠ .ended then
    some (L.setRecord h { L.record h with obj := f (L.record h).obj })
  else none

/-- The record of a span after its end. -/
def ending (clock : Clock) (r : SpanRecord) : SpanRecord :=
  { r with obj := finish clock r.obj r.parked, phase := .ended }

/-- The innermost span leaves the stack with the record `r`. -/
def close (L : Ledger) (h : Nat) (r : SpanRecord) : Option Ledger :=
  if L.innermost = some h then
    some { L.setRecord h r with stack := L.stack.dropLast, order := L.order ++ [h] }
  else none

/-- The end of a detached span. -/
def complete (L : Ledger) (clock : Clock) (h : Nat) : Option Ledger :=
  if h < L.count ∧ (L.record h).phase = .detached then
    some (L.setRecord h (ending clock (L.record h)))
  else none

/-- A reference for the innermost span, if there is one. -/
def park (L : Ledger) (ref : SegmentReference) : Ledger :=
  match L.innermost with
  | some k => L.setRecord k { L.record k with parked := some ref }
  | none => L

/-- The effect of a call on the ledger. -/
def step (L : Ledger) (e : Event) : Option Ledger :=
  match e.op with
  | .createEntrySpan operationName => some (L.openSpan e.clock operationName "" .entry .http [])
  | .createEntrySpanWithPropagation operationName propagation =>
      some { L.openSpan e.clock operationName "" .entry .http
        [TracingContext.propagationRef propagation] with traceId := propagation.parentTraceId }
  | .createExitSpan operationName remotePeer =>
      some (L.openSpan e.clock operationName remotePeer .exit .unknown [])
  | .createLocalSpan operationName =>
      some (L.openSpan e.clock operationName "" .localSpan .unknown [])
  | .addTag h key value => L.edit h fun obj => obj.addTag key value
  | .addLog h message => L.edit h fun obj => obj.addLog (e.clock .log) message
  | .dropSpan h => L.close h (ending e.clock (L.record h))
  | .prepareForAsync h => L.close h { L.record h with phase := .detached }
  | .dropAsyncSpan h => L.complete e.clock h
  | .capture => some L
  | .continued snapshot =>
      if snapshot.isValid then
        L.tracer.map fun tracer =>
          { L with traceId := snapshot.traceId }.park (TracingContext.snapshotRef tracer snapshot)
      else some L
  -- the ledger ends with its context
  | .dropContext => none
  | .dropTracer => some { L with tracer := none }

/-- Every span is on the stack or in the closing order, once, and the open ones are on the stack. -/
structure Valid (L : Ledger) : Prop where
  perm : (L.stack ++ L.order).Perm (List.range L.count)
  opened : ∀ k ∈ L.stack, (L.record k).phase = .opened
  closed : ∀ k ∈ L.order, (L.record k).phase ≠ .opened

/-! ## The world of a ledger -/

/-- The entry of an open span on the active stack. -/
def active (L : Ledger) (k : Nat) : ActiveSpan := ⟨k, wrapI32 (k : Nat), (L.record k).parked⟩

/-- The entry of a closed span in the finalized list. -/
def finalized (L : Ledger) (k : Nat) : FinalizeSpan :=
  if (L.record k).phase = .ended then ⟨k, some (L.record k).obj, none⟩
  else ⟨k, none, (L.record k).parked⟩

/-- The handle of a span. -/
def handle (L : Ledger) (k : Nat) : Handle :=
  match (L.record k).phase with
  | .opened => .span ⟨k, some (L.record k).obj⟩
  | .detached => .asyncSpan ⟨k, some (L.record k).obj⟩
  | .ended => .closed

/-- The number of detached spans. -/
def pending (L : Ledger) : Nat := L.order.countP fun k => (L.record k).phase = .detached

/-- The world of a ledger; `base` gives the constants of the context. -/
def toWorld (L : Ledger) (base : TracingContext) : World where
  context := { base with
    traceId := L.traceId
    nextSpanId := wrapI32 L.count
    spanStack := ⟨L.order.map L.finalized, L.stack.map L.active⟩
    primaryEndpointName := L.endpoint
    spanUidGenerator := L.count
    wg := ⟨L.pending⟩
    tracer := L.tracer }
  contextAlive := true
  handles := (List.range L.count).map L.handle
  reported := []

end Ledger

end SkywalkingAgent.Trace
