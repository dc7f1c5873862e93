import SkywalkingAgent.Lib.Execution
import SkywalkingAgent.Trace.TracingContext

/-!
# Programs that use one context

A `World` is one tracing context with the handles of its spans and the items it has handed to its
tracer's reporter. A program is a list of calls; a call names a handle by the number of its span in
the order of creation. `World.call` is absent exactly where Rust's ownership rules leave no such
call: the context or the handle is gone, or the handle is of the other kind.

`World.step` keeps the calls that return; a run of it is a run in which no call panics.
`World.after` also keeps the state that a caught panic leaves behind, so its reachable states are
those of programs that go on after a panic.
-/

set_option autoImplicit false

namespace SkywalkingAgent.Trace

open SkywalkingAgent.Lib SkywalkingAgent.Common SkywalkingAgent.Proto
open SkywalkingAgent.Propagation SkywalkingAgent.Reporter

/-- What the program holds of a span it created. -/
inductive Handle where
  | span (handle : Span)
  | asyncSpan (handle : AsyncSpan)
  | closed
  deriving DecidableEq, Repr

/-- The handle is a `Span`. -/
def Handle.isSpan : Handle → Bool
  | .span _ => true
  | _ => false

/-- A context with the handles of its spans, as the program has them, and what it has reported. -/
structure World where
  context : TracingContext
  /-- Whether the owner still holds the context. The stack and the wait group stay reachable from
  the handles after it is dropped. -/
  contextAlive : Bool
  /-- The handles, in the order of creation. -/
  handles : List Handle
  /-- The items handed to the reporter. -/
  reported : List CollectItem
  deriving DecidableEq, Repr

/-- A call of the public interface; `h` is the number of a span. -/
inductive Op where
  | createEntrySpan (operationName : String)
  | createEntrySpanWithPropagation (operationName : String) (propagation : PropagationContext)
  | createExitSpan (operationName remotePeer : String)
  | createLocalSpan (operationName : String)
  | addTag (h : Nat) (key value : String)
  | addLog (h : Nat) (message : List (String × String))
  | dropSpan (h : Nat)
  | prepareForAsync (h : Nat)
  | dropAsyncSpan (h : Nat)
  | capture
  | continued (snapshot : ContextSnapshot)
  | dropContext
  | dropTracer
  deriving DecidableEq, Repr

/-- A call with the clock readings during it. -/
structure Event where
  clock : Clock
  op : Op

namespace World

/-- A fresh context of a tracer. -/
def new (serviceName instanceName traceId traceSegmentId : String) (tracer : WeakTracer) : World :=
  ⟨.new serviceName instanceName traceId traceSegmentId tracer, true, [], []⟩

/-- The shared parts of the context, as a call on a handle leaves them. -/
def setShared (w : World) (shared : SpanStack × WaitGroup) : World :=
  { w with context := { w.context with spanStack := shared.1, wg := shared.2 } }

/-- A handle is changed. -/
def setHandle (w : World) (h : Nat) (handle : Handle) : World :=
  { w with handles := w.handles.set h handle }

/-- The stack is kept by the context and by every span handle; asynchronous spans do not keep it. -/
def stackAlive (w : World) : Bool := w.contextAlive || w.handles.any Handle.isSpan

/-- A call that creates a span: its handle is the next one. -/
def create (w : World) (o : Outcome TracingContext Span) : Outcome World Unit :=
  match o with
  | .ok span context => .ok () { w with
      context := context
      handles := w.handles ++ [.span span] }
  | .panic m context => .panic m { w with context := context }
  | .abort m => .abort m

/-- A change of the span object behind a live handle. -/
def modifyObject (w : World) (h : Nat) (f : SpanObject → SpanObject) :
    Option (Outcome World Unit) :=
  match w.handles[h]? with
  | some (.span s) => some ((s.modifyObject f).mapState fun s => w.setHandle h (.span s))
  | some (.asyncSpan a) => some ((a.modifyObject f).mapState fun a => w.setHandle h (.asyncSpan a))
  | _ => none

/-- `Drop for Span` of the handle `h`. -/
def dropSpan (clock : Clock) (w : World) (h : Nat) : Option (Outcome World Unit) :=
  match w.handles[h]? with
  | some (.span s) =>
      -- the handle is gone also when the drop panics
      some ((s.drop clock w.context.spanStack).mapState fun stack =>
        (w.setHandle h .closed).setShared (stack, w.context.wg))
  | _ => none

/-- `Span::prepare_for_async` of the handle `h`. -/
def prepareForAsync (clock : Clock) (w : World) (h : Nat) : Option (Outcome World Unit) :=
  match w.handles[h]? with
  | some (.span s) =>
      match s.prepareForAsync clock w.context.spanStack w.context.wg with
      | .ok a shared => some (.ok () ((w.setHandle h (.asyncSpan a)).setShared shared))
      -- the method takes the handle by value, so it is gone in any case
      | .panic m shared => some (.panic m ((w.setHandle h .closed).setShared shared))
      | .abort m => some (.abort m)
  | _ => none

/-- `Drop for AsyncSpan` of the handle `h`. -/
def dropAsyncSpan (overflowChecks : Bool) (clock : Clock) (w : World) (h : Nat) :
    Option (Outcome World Unit) :=
  match w.handles[h]? with
  | some (.asyncSpan a) =>
      some ((a.drop overflowChecks clock w.stackAlive w.context.spanStack
        w.context.wg).mapState fun shared => (w.setHandle h .closed).setShared shared)
  | _ => none

/-- `Drop for TracingContext`. -/
def dropContext (w : World) : Outcome World Unit :=
  match w.context.drop with
  | .ok item context => .ok () { w with
      context := context
      contextAlive := false
      reported := w.reported ++ [item] }
  -- the context is gone also when its drop panics, and nothing was reported
  | .panic m context => .panic m { w with context := context, contextAlive := false }
  | .abort m => .abort m

/-- The effect of a call that needs the context. -/
def callContext (overflowChecks : Bool) (w : World) (e : Event) : Option (Outcome World Unit) :=
  let c := w.context
  match e.op with
  | .createEntrySpan operationName =>
      some (w.create (c.createEntrySpan overflowChecks e.clock operationName))
  | .createEntrySpanWithPropagation operationName propagation =>
      some (w.create (c.createEntrySpanWithPropagation overflowChecks e.clock operationName
        propagation))
  | .createExitSpan operationName remotePeer =>
      some (w.create (c.createExitSpan overflowChecks e.clock operationName remotePeer))
  | .createLocalSpan operationName =>
      some (w.create (c.createLocalSpan overflowChecks e.clock operationName))
  | .capture => some (.ok () w)
  | .continued snapshot =>
      some ((c.continued snapshot).mapState fun c => { w with context := c })
  | .dropContext => some w.dropContext
  | _ => none

/-- The effect of one call. -/
def call (overflowChecks : Bool) (w : World) (e : Event) : Option (Outcome World Unit) :=
  match e.op with
  | .addTag h key value => w.modifyObject h fun obj => obj.addTag key value
  | .addLog h message => w.modifyObject h fun obj => obj.addLog (e.clock .log) message
  | .dropSpan h => w.dropSpan e.clock h
  | .prepareForAsync h => w.prepareForAsync e.clock h
  | .dropAsyncSpan h => w.dropAsyncSpan overflowChecks e.clock h
  -- the tracer is dropped by another owner, whether the context lives or not
  | .dropTracer => some (.ok () { w with context := { w.context with tracer := none } })
  | _ => if w.contextAlive then w.callContext overflowChecks e else none

/-- A call that returns. -/
def step (overflowChecks : Bool) (w : World) (e : Event) : Option World :=
  (w.call overflowChecks e).bind Outcome.returned?

/-- A call that returns or whose panic is caught. -/
def after (overflowChecks : Bool) (w : World) (e : Event) : Option World :=
  (w.call overflowChecks e).bind Outcome.state?

/-- The run of a program in which no call panics. -/
abbrev run (overflowChecks : Bool) : World → List Event → Option World :=
  Execution.run (step overflowChecks)

theorem step_eq_some_iff {overflowChecks : Bool} {w t : World} {e : Event} :
    w.step overflowChecks e = some t ↔ w.call overflowChecks e = some (.ok () t) := by
  unfold step
  rw [Option.bind_eq_some_iff]
  constructor
  · rintro ⟨o, ho, ht⟩
    obtain ⟨⟨⟩, rfl⟩ := Outcome.returned?_eq_some_iff.1 ht
    exact ho
  · intro h
    exact ⟨_, h, rfl⟩

theorem after_eq_some_iff {overflowChecks : Bool} {w t : World} {e : Event} :
    w.after overflowChecks e = some t ↔ ∃ o, w.call overflowChecks e = some o ∧
      (o = .ok () t ∨ ∃ m, o = .panic m t) := by
  unfold after
  rw [Option.bind_eq_some_iff]
  refine exists_congr fun o => and_congr_right fun _ => ?_
  rw [Outcome.state?_eq_some_iff]
  exact or_congr_left ⟨fun ⟨_, h⟩ => h, fun h => ⟨(), h⟩⟩

theorem create_eq_ok_iff {w t : World} {o : Outcome TracingContext Span} :
    w.create o = .ok () t ↔ ∃ span context, o = .ok span context ∧
      t = { w with context := context, handles := w.handles ++ [.span span] } := by
  cases o with
  | ok span context => simp [create, and_assoc, eq_comm]
  | panic m context => simp [create]
  | abort m => simp [create]

end World

end SkywalkingAgent.Trace
