import SkywalkingAgent.Trace.History

/-!
# The segment that a context reports

A context that is dropped after all its spans have ended, while its tracer lives, reports one
segment (`World.reports_segment`): the objects of the ledger's records in closing order. The main
result of the module, `World.reports_each_span_once`, reads it against the calls of the run.
-/

set_option autoImplicit false

namespace SkywalkingAgent.Trace

open SkywalkingAgent.Lib SkywalkingAgent.Common SkywalkingAgent.Proto
open SkywalkingAgent.Propagation SkywalkingAgent.Reporter

namespace Ledger

variable {L : Ledger} {base : TracingContext}

/-- The segment of a ledger whose spans have all ended. -/
def segment (base : TracingContext) (L : Ledger) : SegmentObject where
  traceId := L.traceId
  traceSegmentId := base.traceSegmentId
  spans := L.order.map fun k => (L.record k).obj
  service := base.service
  serviceInstance := base.serviceInstance
  isSizeLimited := false

/-- All handles are closed exactly when all spans have ended. -/
theorem handles_closed_iff :
    (∀ handle ∈ (L.toWorld base).handles, handle = .closed) ↔
      ∀ k, k < L.count → (L.record k).phase = .ended := by
  have hhandle : ∀ k, L.handle k = .closed ↔ (L.record k).phase = .ended := by
    intro k
    unfold handle
    cases (L.record k).phase <;> simp
  show (∀ handle ∈ (List.range L.count).map L.handle, handle = .closed) ↔ _
  simp [hhandle]

theorem stack_eq_nil (hL : L.Valid) (hended : ∀ k, k < L.count → (L.record k).phase = .ended) :
    L.stack = [] := by
  refine List.eq_nil_iff_forall_not_mem.2 fun k hk => ?_
  have hopen := hL.opened k hk
  rw [hended k (hL.mem_iff.1 (Or.inl hk))] at hopen
  cases hopen

/-- Where every closed span has ended, no object is missing. -/
theorem takeObjects_finalized (hL : L.Valid)
    (hended : ∀ k, k < L.count → (L.record k).phase = .ended) :
    TracingContext.takeObjects (L.order.map L.finalized) =
      some (L.order.map fun k => (L.record k).obj) := by
  rw [TracingContext.takeObjects_eq_some_iff, List.map_map, List.map_map]
  refine List.map_congr_left fun k hk => ?_
  simp [finalized, hended k (hL.mem_iff.1 (Or.inr hk))]

end Ledger

namespace World

variable {overflowChecks : Bool} {serviceName instanceName traceId traceSegmentId : String}
  {tracer : WeakTracer} {es : List Event} {w : World}

/-- The ledger of a run from a fresh context. -/
theorem ledger_of_run (hops : ∀ e ∈ es, e.op ≠ .dropContext)
    (hrun : World.run overflowChecks
      (World.new serviceName instanceName traceId traceSegmentId tracer) es = some w) :
    ∃ L, Ledger.run (.new traceId tracer) es = some L ∧ L.Valid ∧
      w = L.toWorld (.new serviceName instanceName traceId traceSegmentId tracer) := by
  rw [Ledger.new_toWorld] at hrun
  obtain ⟨L, hL, hw, hvalid⟩ :=
    Ledger.run_refines (Ledger.valid_new traceId tracer) hops hrun
  exact ⟨L, hL, hvalid, hw⟩

/-- The world at a call of the run, from the ledger there. -/
theorem run_of_ledger {pre post : List Event} (hops : ∀ e ∈ pre ++ post, e.op ≠ .dropContext)
    (hrun : World.run overflowChecks
      (World.new serviceName instanceName traceId traceSegmentId tracer) (pre ++ post) = some w)
    {L : Ledger} (hL : Ledger.run (.new traceId tracer) pre = some L) :
    World.run overflowChecks
      (World.new serviceName instanceName traceId traceSegmentId tracer) pre =
        some (L.toWorld (.new serviceName instanceName traceId traceSegmentId tracer)) := by
  obtain ⟨w₁, hw₁, -⟩ := Execution.run_append_iff.1 hrun
  obtain ⟨L', hL', -, rfl⟩ :=
    ledger_of_run (fun e he => hops e (List.mem_append_left _ he)) hw₁
  obtain rfl : L = L' := Option.some.inj (hL.symm.trans hL')
  exact hw₁

/-- Dropping the context after its last span reports the segment of the ledger. -/
theorem dropContext_reports {L : Ledger} {base : TracingContext} (hL : L.Valid)
    (hclosed : ∀ handle ∈ (L.toWorld base).handles, handle = .closed)
    (htracer : L.tracer.isSome) (clock : Clock) :
    ∃ w, (L.toWorld base).step overflowChecks ⟨clock, .dropContext⟩ = some w ∧
      w.contextAlive = false ∧ w.reported = [.trace (L.segment base)] := by
  obtain ⟨tracer, htracer⟩ := Option.isSome_iff_exists.1 htracer
  have hobjs := Ledger.takeObjects_finalized hL (Ledger.handles_closed_iff.1 hclosed)
  simp only [step_eq_some_iff, call, callContext, dropContext, TracingContext.drop,
    TracingContext.convertToSegmentObject, Ledger.toWorld, htracer, hobjs, Outcome.bind, if_true]
  exact ⟨_, rfl, rfl, rfl⟩

/-- An edit of a span object reports nothing. -/
theorem modifyObject_reported {w w' : World} {h : Nat} {f : SpanObject → SpanObject}
    (hcall : w.modifyObject h f = some (.ok () w')) :
    w'.contextAlive = w.contextAlive ∧ w'.reported = w.reported := by
  unfold modifyObject at hcall
  split at hcall
  · obtain ⟨s, -, rfl⟩ := Outcome.mapState_eq_ok_iff.1 (Option.some.inj hcall)
    exact ⟨rfl, rfl⟩
  · obtain ⟨s, -, rfl⟩ := Outcome.mapState_eq_ok_iff.1 (Option.some.inj hcall)
    exact ⟨rfl, rfl⟩
  · cases hcall

/-- The calls that are left once the context is gone report nothing. -/
theorem step_of_not_alive {w w' : World} {e : Event} (halive : w.contextAlive = false)
    (hstep : w.step overflowChecks e = some w') :
    w'.contextAlive = false ∧ w'.reported = w.reported := by
  obtain ⟨clock, op⟩ := e
  rw [step_eq_some_iff] at hstep
  cases op with
  | addTag h key value =>
    obtain ⟨hkept, hrep⟩ := modifyObject_reported hstep
    exact ⟨hkept.trans halive, hrep⟩
  | addLog h message =>
    obtain ⟨hkept, hrep⟩ := modifyObject_reported hstep
    exact ⟨hkept.trans halive, hrep⟩
  | dropSpan h =>
    simp only [call, dropSpan] at hstep
    split at hstep
    · obtain ⟨s, -, rfl⟩ := Outcome.mapState_eq_ok_iff.1 (Option.some.inj hstep)
      exact ⟨halive, rfl⟩
    · cases hstep
  | prepareForAsync h =>
    simp only [call, prepareForAsync] at hstep
    split at hstep
    · split at hstep
      · obtain rfl := (Outcome.ok.inj (Option.some.inj hstep)).2
        exact ⟨halive, rfl⟩
      · cases hstep
      · cases hstep
    · cases hstep
  | dropAsyncSpan h =>
    simp only [call, dropAsyncSpan] at hstep
    split at hstep
    · obtain ⟨s, -, rfl⟩ := Outcome.mapState_eq_ok_iff.1 (Option.some.inj hstep)
      exact ⟨halive, rfl⟩
    · cases hstep
  | dropTracer =>
    obtain rfl := (Outcome.ok.inj (Option.some.inj hstep)).2
    exact ⟨halive, rfl⟩
  -- the other calls need the context
  | createEntrySpan operationName => simp [call, halive] at hstep
  | createEntrySpanWithPropagation operationName propagation => simp [call, halive] at hstep
  | createExitSpan operationName remotePeer => simp [call, halive] at hstep
  | createLocalSpan operationName => simp [call, halive] at hstep
  | capture => simp [call, halive] at hstep
  | continued snapshot => simp [call, halive] at hstep
  | dropContext => simp [call, halive] at hstep

/-- Once the context is gone, nothing is reported any more. -/
theorem reported_of_not_alive {w w' : World} (halive : w.contextAlive = false)
    (hrun : World.run overflowChecks w es = some w') : w'.reported = w.reported := by
  refine (Execution.run_invariant
    (I := fun a => a.contextAlive = false ∧ a.reported = w.reported) ⟨halive, rfl⟩ ?_ hrun).2
  rintro a b e ⟨ha, hrep⟩ hstep
  obtain ⟨hb, hsame⟩ := step_of_not_alive ha hstep
  exact ⟨hb, hsame.trans hrep⟩

/-- The context of `w` is dropped, with all spans ended and the tracer alive. -/
structure Finished (w : World) : Prop where
  handles : ∀ handle ∈ w.handles, handle = .closed
  tracer : w.context.tracer.isSome

instance (w : World) : Decidable w.Finished :=
  decidable_of_iff ((∀ handle ∈ w.handles, handle = .closed) ∧ w.context.tracer.isSome)
    ⟨fun h => ⟨h.1, h.2⟩, fun h => ⟨h.handles, h.tracer⟩⟩

/-- A run that a computation finds finished. -/
theorem exists_finished {w₀ : World}
    (h : (World.run overflowChecks w₀ es).any fun w => decide w.Finished) :
    ∃ w, World.run overflowChecks w₀ es = some w ∧ w.Finished := by
  obtain ⟨w, hrun, hfin⟩ := (Option.any_eq_true _ _).1 h
  exact ⟨w, hrun, of_decide_eq_true hfin⟩

/-- The segment reported at the end of a run, with the ledger it is read from. -/
theorem reports_segment (hops : ∀ e ∈ es, e.op ≠ .dropContext)
    (hrun : World.run overflowChecks
      (World.new serviceName instanceName traceId traceSegmentId tracer) es = some w)
    (hfin : w.Finished) (clock : Clock) :
    ∃ L w', Ledger.run (.new traceId tracer) es = some L ∧ L.Valid ∧ L.Recorded es ∧
      (∀ k, k < L.count → (L.record k).phase = .ended) ∧
      w.step overflowChecks ⟨clock, .dropContext⟩ = some w' ∧ w'.contextAlive = false ∧
      w'.reported = [.trace (L.segment
        (.new serviceName instanceName traceId traceSegmentId tracer))] := by
  obtain ⟨L, hL, hvalid, rfl⟩ := ledger_of_run hops hrun
  obtain ⟨w', hw', halive, hrep⟩ := dropContext_reports hvalid hfin.handles hfin.tracer clock
  exact ⟨L, w', hL, hvalid, Ledger.run_recorded hL, Ledger.handles_closed_iff.1 hfin.handles, hw',
    halive, hrep⟩

/-- The calls `es` run to the end of all spans, and dropping the context then reports `seg`. -/
def Reports (overflowChecks : Bool) (w₀ : World) (es : List Event) (seg : SegmentObject) : Prop :=
  (∀ e ∈ es, e.op ≠ .dropContext) ∧ ∃ w clock w', World.run overflowChecks w₀ es = some w ∧
    w.Finished ∧ w.step overflowChecks ⟨clock, .dropContext⟩ = some w' ∧
    w'.reported = [.trace seg]

/-- The ledger behind a reported segment. -/
theorem Reports.exists_ledger {seg : SegmentObject}
    (h : Reports overflowChecks
      (World.new serviceName instanceName traceId traceSegmentId tracer) es seg) :
    ∃ L w tracer', Ledger.run (.new traceId tracer) es = some L ∧ L.Valid ∧ L.Recorded es ∧
      (∀ k, k < L.count → (L.record k).phase = .ended) ∧
      World.run overflowChecks
        (World.new serviceName instanceName traceId traceSegmentId tracer) es = some w ∧
      L.tracer = some tracer' ∧
      seg = L.segment (.new serviceName instanceName traceId traceSegmentId tracer) := by
  obtain ⟨hops, w, clock, w', hrun, hfin, hstep, hrep⟩ := h
  obtain ⟨L, w'', hL, hvalid, hR, hended, hstep', -, hrep'⟩ :=
    reports_segment hops hrun hfin clock
  obtain rfl : w' = w'' := Option.some.inj (hstep.symm.trans hstep')
  obtain ⟨L', hL', -, rfl⟩ := ledger_of_run hops hrun
  obtain rfl : L = L' := Option.some.inj (hL.symm.trans hL')
  obtain ⟨tracer', htracer⟩ := Option.isSome_iff_exists.1 hfin.tracer
  rw [hrep, List.singleton_inj, CollectItem.trace.injEq] at hrep'
  exact ⟨L, _, tracer', hL, hvalid, hR, hended, hrun, htracer, hrep'⟩

/-- Where a run that reports `seg` stands after its first calls. -/
theorem Reports.split {pre post : List Event} {seg : SegmentObject} {w₁ : World}
    (hrep : Reports overflowChecks
      (World.new serviceName instanceName traceId traceSegmentId tracer) (pre ++ post) seg)
    (hpre : World.run overflowChecks
      (World.new serviceName instanceName traceId traceSegmentId tracer) pre = some w₁) :
    ∃ L₁ L w tracer', Ledger.run (.new traceId tracer) pre = some L₁ ∧ L₁.Valid ∧
      w₁ = L₁.toWorld (.new serviceName instanceName traceId traceSegmentId tracer) ∧
      World.run overflowChecks w₁ post = some w ∧ Ledger.run L₁ post = some L ∧ L.Valid ∧
      L.Recorded (pre ++ post) ∧ (∀ k, k < L.count → (L.record k).phase = .ended) ∧
      L.tracer = some tracer' ∧
      seg = L.segment (.new serviceName instanceName traceId traceSegmentId tracer) := by
  obtain ⟨L, w, tracer', hL, hvalid, hR, hended, hrun, htracer, hseg⟩ := hrep.exists_ledger
  obtain ⟨L₁, hL₁, hvalid₁, hw₁⟩ := ledger_of_run
    (fun e he => hrep.1 e (List.mem_append_left _ he)) hpre
  obtain ⟨w₁', hw₁', hrest⟩ := Execution.run_append_iff.1 hrun
  obtain rfl := Option.some.inj (hpre.symm.trans hw₁')
  obtain ⟨L₁', hL₁', hLrest⟩ := Execution.run_append_iff.1 hL
  obtain rfl : L₁ = L₁' := Option.some.inj (hL₁.symm.trans hL₁')
  exact ⟨L₁, L, w, tracer', hL₁, hvalid₁, hw₁, hrest, hLrest, hvalid, hR, hended, htracer, hseg⟩

/-- A run that a computation finds finished reports a segment. -/
theorem exists_reports (hops : ∀ e ∈ es, e.op ≠ .dropContext)
    (h : (World.run overflowChecks
      (World.new serviceName instanceName traceId traceSegmentId tracer) es).any
        fun w => decide w.Finished) :
    ∃ seg, Reports overflowChecks
      (World.new serviceName instanceName traceId traceSegmentId tracer) es seg := by
  obtain ⟨w, hrun, hfin⟩ := exists_finished h
  obtain ⟨L, w', -, -, -, -, hstep, -, hrep⟩ := reports_segment hops hrun hfin fun _ => 0
  exact ⟨_, hops, w, _, w', hrun, hfin, hstep, hrep⟩

end World

/-- The reported object of span `k` is what the calls made of it. -/
structure ReportOf (es : List Event) (k : Nat) (obj : SpanObject) : Prop where
  created : ∃ c, (creations es)[k]? = some c ∧ obj.operationName = c.operationName ∧
    obj.peer = c.peer ∧ obj.spanType = c.spanType ∧ obj.spanLayer = c.spanLayer
  spanId : obj.spanId = wrapI32 (k : Nat)
  tags : obj.tags = tagsAdded k es
  logs : obj.logs = logsAdded k es

namespace Ledger

/-- Every span of the segment is the report of its number in the closing order. -/
theorem segment_reportOf {es : List Event} {L : Ledger} {base : TracingContext} (hL : L.Valid)
    (hR : L.Recorded es) :
    List.Forall₂ (ReportOf es) (closeOrder es) (L.segment base).spans := by
  rw [← hR.order]
  show List.Forall₂ _ L.order (L.order.map _)
  rw [List.forall₂_map_right_iff, List.forall₂_same]
  intro k hk
  have hlt : k < (creations es).length := hR.count ▸ hL.mem_iff.1 (Or.inr hk)
  have hc : (creations es)[k]? = some (creations es)[k] := List.getElem?_eq_getElem hlt
  have hspan := hR.span k _ hc
  exact ⟨⟨_, hc, hspan.operationName, hspan.peer, hspan.spanType, hspan.spanLayer⟩, hspan.spanId,
    hspan.tags, hspan.logs⟩

end Ledger

namespace World

variable {overflowChecks : Bool} {serviceName instanceName traceId traceSegmentId : String}
  {tracer : WeakTracer} {es : List Event} {w : World}

/-- A context dropped after all its spans have ended reports one segment and never another item. The
segment has one object for each span created, in the order in which the `Span` handles were dropped
or turned asynchronous, each with what it was created with and with the tags and logs added to it;
the order is the same in every run that differs in the ends of its asynchronous spans only. -/
theorem reports_each_span_once (hops : ∀ e ∈ es, e.op ≠ .dropContext)
    (hrun : World.run overflowChecks
      (World.new serviceName instanceName traceId traceSegmentId tracer) es = some w)
    (hfin : w.Finished) (clock : Clock) :
    ∃ w' seg, w.step overflowChecks ⟨clock, .dropContext⟩ = some w' ∧
      (∀ rest w'', World.run overflowChecks w' rest = some w'' →
        w''.reported = [.trace seg]) ∧
      (closeOrder es).Perm (List.range (creations es).length) ∧
      List.Forall₂ (ReportOf es) (closeOrder es) seg.spans ∧
      ∀ es₂ w₂ clock₂ w₂' seg₂, (∀ e ∈ es₂, e.op ≠ .dropContext) →
        withoutAsyncDrops es₂ = withoutAsyncDrops es →
        World.run overflowChecks
          (World.new serviceName instanceName traceId traceSegmentId tracer) es₂ = some w₂ →
        w₂.Finished → w₂.step overflowChecks ⟨clock₂, .dropContext⟩ = some w₂' →
        w₂'.reported = [.trace seg₂] → List.Forall₂ (ReportOf es₂) (closeOrder es) seg₂.spans := by
  obtain ⟨L, w', -, hvalid, hR, hended, hstep, hdead, hrep⟩ := reports_segment hops hrun hfin clock
  refine ⟨w', L.segment (.new serviceName instanceName traceId traceSegmentId tracer), hstep, ?_,
    ?_, Ledger.segment_reportOf hvalid hR, ?_⟩
  · intro rest w'' hrest
    rw [reported_of_not_alive hdead hrest, hrep]
  · have hperm := hvalid.perm
    rw [Ledger.stack_eq_nil hvalid hended, List.nil_append, hR.order, hR.count] at hperm
    exact hperm
  -- the other run closes its spans in the same order, so its segment has them in this one
  · intro es₂ w₂ clock₂ w₂' seg₂ hops₂ hsame hrun₂ hfin₂ hstep₂ hrep₂
    obtain ⟨L₂, w₂'', -, hvalid₂, hR₂, -, hstep₂', -, hrep₂'⟩ :=
      reports_segment hops₂ hrun₂ hfin₂ clock₂
    obtain rfl : w₂' = w₂'' := Option.some.inj (hstep₂.symm.trans hstep₂')
    rw [hrep₂, List.singleton_inj, CollectItem.trace.injEq] at hrep₂'
    rw [hrep₂', closeOrder_eq_filterMap es, ← hsame, ← closeOrder_eq_filterMap es₂]
    exact Ledger.segment_reportOf hvalid₂ hR₂

/-- A fresh context with its tracer. -/
abbrev sampleWorld : World := World.new "s" "i" "t" "g" (some ⟨"s", "i"⟩)

/-- A run with an asynchronous span that ends last. -/
def asyncRun : List Event :=
  [.createEntrySpan "op1", .createExitSpan "op2" "peer", .addTag 1 "k1" "v1", .prepareForAsync 1,
    .createLocalSpan "op3", .addTag 1 "k2" "v2", .addLog 2 [("a", "b")], .dropSpan 2, .dropSpan 0,
    .dropAsyncSpan 1].map (Event.mk fun _ => 0)

theorem reports_each_span_once_asyncRun :
    ∃ w w' seg, World.run true sampleWorld asyncRun = some w ∧
      w.step true ⟨fun _ => 0, .dropContext⟩ = some w' ∧ w'.reported = [.trace seg] ∧
      List.Forall₂ (ReportOf asyncRun) [1, 2, 0] seg.spans := by
  have hrun : ∃ w, World.run true sampleWorld asyncRun = some w ∧ w.Finished :=
    exists_finished (by decide +kernel)
  obtain ⟨w, hrun, hfin⟩ := hrun
  obtain ⟨w', seg, hstep, hrep, -, hspans, -⟩ :=
    reports_each_span_once (by decide +kernel) hrun hfin fun _ => 0
  exact ⟨w, w', seg, hrun, hstep, hrep [] w' rfl, hspans⟩

end World

end SkywalkingAgent.Trace
