import SkywalkingAgent.Logging.Record
import SkywalkingAgent.Propagation.RoundTrip
import SkywalkingAgent.Trace.Links
import SkywalkingAgent.Trace.Shape

/-!
# Positions across contexts

A context exports the position of one of its spans in a header, in a snapshot or in a log record;
another context imports it by creating an entry span from the header or by continuing from the
snapshot. The module follows a position through the run of an interleaved family of contexts: it
names a span of the segment that the exporting context finally reports, and the importing context
reports a reference to it (`World.exported_position_names_span`).
-/

set_option autoImplicit false

namespace SkywalkingAgent.Trace

open SkywalkingAgent.Lib SkywalkingAgent.Common SkywalkingAgent.Proto
open SkywalkingAgent.Propagation SkywalkingAgent.Logging

/-! ## What a ledger keeps for an exported position -/

namespace Ledger

variable {L L' : Ledger} {e : Event} {es : List Event} {base : TracingContext}

/-- Without an adoption the trace stays. -/
theorem run_traceId (hadopt : ∀ e ∈ es, e.op.adopts? = none) (hrun : run L es = some L') :
    L'.traceId = L.traceId := by
  refine Execution.run_invariant_of_forall (I := fun M : Ledger => M.traceId = L.traceId)
    hadopt rfl ?_ hrun
  intro A B e hnone hA hstep
  rw [(step_effect hstep).frame.traceId, hnone, Option.getD_none, hA]

/-- The reported object of a span, with its id. -/
theorem exists_reportedFor (hL : L.Valid) (hR : L.Recorded es)
    (hended : ∀ k, k < L.count → (L.record k).phase = .ended) (hn : L.count < 2 ^ 31) {k : Nat}
    (hk : k < L.count) :
    ∃ obj, ReportedFor es (L.segment base) k obj ∧ obj.spanId = (k : Nat) ∧
      obj = (L.record k).obj :=
  ⟨_, (reportedFor_iff hR).2 ⟨(hL.mem_order_iff hk).2 (by simp [hended k hk]), rfl⟩,
    (record_ids hR hn hk).1, rfl⟩

end Ledger

/-! ## Exports and imports -/

/-- What leaves a context with the position of a span in it. -/
inductive Export where
  | header (propagation : PropagationContext)
  | snapshot (captured : ContextSnapshot)
  | log (data : LogData)

/-- The position that an export carries. -/
def Export.position : Export → Option TraceContext
  | .header propagation => some ⟨propagation.parentTraceId, propagation.parentTraceSegmentId,
      propagation.parentSpanId⟩
  | .snapshot captured => some ⟨captured.traceId, captured.traceSegmentId, captured.spanId⟩
  | .log data => data.traceContext

namespace World

/-- The span `k` of the context is exported: as the innermost one, decoded from a header or
captured in a snapshot, or as the one behind a live handle, in a log record. -/
inductive Exports (base64 : Base64Engine) (w : World) (k : Nat) : Export → Prop where
  | header (endpoint address : String) (propagation : PropagationContext)
      (innermost : w.innermost = some k)
      (decode : decodePropagation base64 (encodePropagation base64 w.context endpoint address) =
        .ok propagation) : Exports base64 w k (.header propagation)
  | snapshot (innermost : w.innermost = some k) : Exports base64 w k (.snapshot w.context.capture)
  | log (clock : Clock) (serviceName instanceName : String) (blank record : LogRecord)
      (span span' : Span) (handle : w.handles[k]? = some (.span span))
      (build : (blank.withTracingContext w.context).withSpan span = .ok record span') :
      Exports base64 w k (.log (record.convertToLogData clock serviceName instanceName))

/-- The span that a call imports a position onto, with the kind of reference it makes: the span that
it creates, or the innermost one. -/
def importTarget (w : World) : Op → Option (Nat × RefType)
  | .createEntrySpanWithPropagation _ _ => some (w.handles.length, .crossProcess)
  | .continued _ => w.innermost.map fun k => (k, .crossThread)
  | _ => none

end World

/-- The call imports this export. -/
inductive Export.ImportedBy : Export → Op → Prop where
  | header (operationName : String) (propagation : PropagationContext) :
      ImportedBy (.header propagation) (.createEntrySpanWithPropagation operationName propagation)
  | snapshot (captured : ContextSnapshot) : ImportedBy (.snapshot captured) (.continued captured)

/-- A snapshot with a position is valid. -/
theorem Export.isValid_of_position {captured : ContextSnapshot} {traceId traceSegmentId : String}
    {k : Nat} (h : (Export.snapshot captured).position = some ⟨traceId, traceSegmentId, (k : Nat)⟩)
    (htrace : traceId ≠ "") (hsegment : traceSegmentId ≠ "") : captured.isValid := by
  obtain ⟨traceId', traceSegmentId', spanId, parentEndpoint⟩ := captured
  simp only [Export.position, Option.some.injEq, TraceContext.mk.injEq] at h
  obtain ⟨rfl, rfl, rfl⟩ := h
  have hid : (k : Int) > -1 := by omega
  simp [ContextSnapshot.isValid, htrace, hsegment, hid]

/-- The object has one reference of the given kind, to the given position. -/
def RefersTo (obj : SpanObject) (refType : RefType) (position : TraceContext) : Prop :=
  ∃ ref, obj.refs.filter (fun r => r.refType = refType) = [ref] ∧
    ref.traceId = position.traceId ∧ ref.parentTraceSegmentId = position.traceSegmentId ∧
    ref.parentSpanId = position.spanId

namespace Ledger

variable {L L' : Ledger} {es : List Event} {base : TracingContext}

theorem peekActiveSpanId_of_innermost (base : TracingContext) {k : Nat} (hn : k < 2 ^ 31)
    (hin : L.innermost = some k) : (L.toWorld base).context.peekActiveSpanId = some (k : Int) := by
  show (L.stack.map L.active).getLast?.map (fun span => span.spanId) = _
  have hlast : L.stack.getLast? = some k := hin
  rw [List.getLast?_map, hlast, Option.map_some, Option.map_some, ← wrapI32_natCast hn]
  rfl

/-- An exported position is that of its span in the trace and the segment of the moment. -/
theorem position_of_exports {base64 : Base64Engine} (hbase64 : base64.Standard) (hL : L.Valid)
    (hR : L.Recorded es) (hn : L.count < 2 ^ 31) {k : Nat} {x : Export}
    (hx : (L.toWorld base).Exports base64 k x) :
    k < L.count ∧ x.position = some ⟨L.traceId, base.traceSegmentId, (k : Nat)⟩ := by
  cases hx with
  | header endpoint address propagation hin hdecode =>
    rw [innermost_toWorld] at hin
    have hk := (hL.split_innermost hin).2.1
    have hpeek := peekActiveSpanId_of_innermost base (Nat.lt_trans hk hn) hin
    obtain ⟨hok, -, -⟩ := decode_encode_of_spanId hbase64 endpoint address (n := k)
      (by rw [hpeek]; rfl) (Nat.lt_trans hk hn)
    rw [hok] at hdecode
    obtain rfl := Except.ok.inj hdecode
    exact ⟨hk, rfl⟩
  | snapshot hin =>
    rw [innermost_toWorld] at hin
    have hk := (hL.split_innermost hin).2.1
    have hpeek := peekActiveSpanId_of_innermost base (Nat.lt_trans hk hn) hin
    refine ⟨hk, ?_⟩
    simp only [Export.position, TracingContext.capture, hpeek, Option.getD_some]
    rfl
  | log clock serviceName instanceName blank record span span' hhandle hbuild =>
    obtain ⟨hk, hspan⟩ := toWorld_handles.1 hhandle
    obtain ⟨-, rfl⟩ := handle_eq_span_iff.1 hspan
    obtain ⟨obj, hobj, hposition⟩ := LogRecord.traceContext_withSpan clock serviceName
      instanceName hbuild
    obtain rfl := Option.some.inj hobj
    refine ⟨hk, ?_⟩
    rw [Export.position, hposition, (record_ids hR hn hk).1]
    rfl

end Ledger

/-! ## The references of a reported span -/

namespace Ledger

variable {L L' : Ledger} {es : List Event} {base : TracingContext}

/-- The span `k` holds a cross-thread reference, which a call of `continued` parked on it while it
was innermost. -/
def ParkedBy (L₀ : Ledger) (es : List Event) (k : Nat) (ref : SegmentReference) : Prop :=
  ref.refType = .crossThread ∧ ∃ pre clock snapshot post L₁,
    es = pre ++ ⟨clock, .continued snapshot⟩ :: post ∧ run L₀ pre = some L₁ ∧ L₁.innermost = some k

theorem ParkedBy.concat {L₀ : Ledger} {k : Nat} {ref : SegmentReference} (h : ParkedBy L₀ es k ref)
    (e : Event) : ParkedBy L₀ (es ++ [e]) k ref := by
  obtain ⟨htype, pre, clock, snapshot, post, L₁, rfl, hL₁, hin⟩ := h
  exact ⟨htype, pre, clock, snapshot, post ++ [e], L₁, by simp, hL₁, hin⟩

/-- The call that a link was read off. -/
theorem eq_continued_of_link {op : Op} {k : Nat} {i : Option Nat} {snapshot : ContextSnapshot}
    (h : op.link? k i = some snapshot) : op = .continued snapshot ∧ i = some k := by
  cases op with
  | continued snapshot' =>
    simp only [Op.link?] at h
    split at h
    · next hcond =>
      obtain rfl := Option.some.inj h
      exact ⟨rfl, hcond.2⟩
    · cases h
  | _ => cases h

/-- Every parked reference was parked by some call. -/
theorem run_parkedBy {traceId : String} {tracer : WeakTracer}
    (hrun : run (new traceId tracer) es = some L) {k : Nat} (hk : k < L.count)
    {ref : SegmentReference} (hparked : (L.record k).parked = some ref) :
    ParkedBy (new traceId tracer) es k ref := by
  induction es using List.reverseRecOn generalizing L ref with
  | nil =>
    obtain rfl := Option.some.inj hrun
    exact absurd hk (Nat.not_lt_zero k)
  | append_singleton es e ih =>
    obtain ⟨M, hM, hstep⟩ := Execution.run_concat_iff.1 hrun
    by_cases hkM : k < M.count
    · -- an older span holds its old reference, or the one that the call parks
      rw [(step_effect hstep).frame.parked k hkM] at hparked
      cases hlink : e.op.link? k M.innermost with
      | none =>
        rw [hlink, Option.bind_none, Option.none_or] at hparked
        exact (ih hM hkM hparked).concat e
      | some snapshot =>
        obtain ⟨clock, op⟩ := e
        obtain ⟨rfl, hin⟩ := eq_continued_of_link hlink
        rw [hlink, Option.bind_some] at hparked
        cases htracer : M.tracer with
        | none =>
          rw [htracer, Option.map_none, Option.none_or] at hparked
          exact (ih hM hkM hparked).concat _
        | some tracer' =>
          rw [htracer, Option.map_some, Option.some_or, Option.some.injEq] at hparked
          subst hparked
          exact ⟨rfl, es, clock, snapshot, [], M, by simp, hM, hin⟩
    · -- the call created the span, with nothing parked on it
      cases step_effect hstep with
      | opened _ hcount _ _ _ hnone _ =>
        obtain rfl : k = M.count := by omega
        rw [hnone] at hparked
        cases hparked
      | closed _ _ _ hcount => omega
      | kept _ hcount => omega

/-- The references of an ended span: those it was created with, and the parked one. -/
theorem refs_of_ended {traceId : String} {tracer : WeakTracer}
    (hrun : run (new traceId tracer) es = some L) {k : Nat} (hended : (L.record k).phase = .ended)
    {c : Creation} (hc : (creations es)[k]? = some c) :
    (L.record k).obj.refs.filter (fun r => r.refType = .crossProcess) = c.refs ∧
      (L.record k).obj.refs.filter (fun r => r.refType = .crossThread) =
        (L.record k).parked.toList := by
  have hR := run_recorded hrun
  have hcreated : ∀ ref ∈ c.refs, ref.refType = .crossProcess :=
    fun ref href => refType_of_creation (List.mem_of_getElem? hc) href
  have hparked : ∀ ref ∈ (L.record k).parked.toList, ref.refType = .crossThread :=
    fun ref href => (run_parkedBy hrun (hR.lt_count hc) (Option.mem_toList.1 href)).1
  have hrefs : (L.record k).obj.refs = c.refs ++ (L.record k).parked.toList := by
    rw [(hR.span k c hc).refs, if_pos hended]
  rw [hrefs, List.filter_append, List.filter_append]
  -- the two kinds of references do not mix, so each filter takes one part
  constructor
  · rw [List.filter_eq_self.2 (by simpa using hcreated),
      List.filter_eq_nil_iff.2 (fun ref href => by simp [hparked ref href]), List.append_nil]
  · rw [List.filter_eq_nil_iff.2 (fun ref href => by simp [hcreated ref href]),
      List.filter_eq_self.2 (by simpa using hparked), List.nil_append]

end Ledger

/-! ## The importing context -/

namespace World

variable {overflowChecks : Bool} {serviceName instanceName traceId traceSegmentId : String}
  {tracer : WeakTracer} {seg : SegmentObject} {k : Nat} {refType : RefType}

/-- The target of an import is reported with one reference of its kind, to the position that was
imported; a later link of the same span is excluded. -/
theorem import_refersTo {pre post : List Event} {e : Event} {w₁ w₂ : World} {x : Export}
    {position : TraceContext}
    (hrep : Reports overflowChecks
      (World.new serviceName instanceName traceId traceSegmentId tracer) (pre ++ e :: post) seg)
    (hpre : World.run overflowChecks
      (World.new serviceName instanceName traceId traceSegmentId tracer) pre = some w₁)
    (hcall : w₁.step overflowChecks e = some w₂) (himport : x.ImportedBy e.op)
    (htarget : w₁.importTarget e.op = some (k, refType)) (hposition : x.position = some position)
    (hvalid : ∀ captured, x = .snapshot captured → captured.isValid)
    (honce : refType = .crossThread → w₂.lastLink overflowChecks k post = none) :
    ∃ obj, ReportedFor (pre ++ e :: post) seg k obj ∧ RefersTo obj refType position := by
  obtain ⟨L₁, L, w, tracer', hpreL, hvalid₁, rfl, hrest, hLrest, hvalidL, hR, hended, htracer,
    rfl⟩ := hrep.split hpre
  have hrunL := Execution.run_append_iff.2 ⟨L₁, hpreL, hLrest⟩
  have hreported : k < L.count → ReportedFor (pre ++ e :: post)
      (L.segment (.new serviceName instanceName traceId traceSegmentId tracer)) k
      (L.record k).obj := fun hk =>
    (Ledger.reportedFor_iff hR).2 ⟨(hvalidL.mem_order_iff hk).2 (by simp [hended k hk]), rfl⟩
  obtain ⟨clock, op⟩ := e
  cases himport with
  | header operationName propagation =>
    obtain ⟨rfl, rfl⟩ := Prod.mk.inj (Option.some.inj htarget)
    obtain rfl := Option.some.inj hposition
    -- the target is the span that the call creates
    have hlen : (L₁.toWorld (.new serviceName instanceName traceId traceSegmentId
        tracer)).handles.length = (creations pre).length := by
      rw [← (Ledger.run_recorded hpreL).count]
      simp [Ledger.toWorld]
    rw [hlen] at hreported ⊢
    have hc : (creations (pre ++ ⟨clock, .createEntrySpanWithPropagation operationName
        propagation⟩ :: post))[(creations pre).length]? =
        some ⟨operationName, "", .entry, .http, [TracingContext.propagationRef propagation]⟩ := by
      rw [creations_append, List.getElem?_append_right (Nat.le_refl _), Nat.sub_self]
      rfl
    have hk := hR.lt_count hc
    exact ⟨_, hreported hk, _, (Ledger.refs_of_ended hrunL (hended _ hk) hc).1, rfl, rfl, rfl⟩
  | snapshot captured =>
    obtain ⟨k', hin, heq⟩ := Option.map_eq_some_iff.1 htarget
    obtain ⟨rfl, rfl⟩ := Prod.mk.inj heq
    obtain rfl := Option.some.inj hposition
    rw [Ledger.innermost_toWorld] at hin
    have hk₁ := (hvalid₁.split_innermost hin).2.1
    have hk := (Ledger.run_parent hk₁ hLrest).1
    -- no later link, so the parked reference is the one of this call
    have hparked := Ledger.run_parked hvalid₁ hk₁
      (fun e he => hrep.1 e (List.mem_append_right _ he)) hrest hLrest htracer
    simp only [lastLink, hcall, honce rfl, Option.none_or, Op.link?, hvalid captured rfl, true_and,
      Ledger.innermost_toWorld, hin, if_true, Option.map_some, Option.some_or] at hparked
    have hlt : k' < (creations (pre ++ ⟨clock, .continued captured⟩ :: post)).length :=
      hR.count ▸ hk
    refine ⟨_, hreported hk, TracingContext.snapshotRef tracer' captured, ?_, rfl, rfl, rfl⟩
    rw [(Ledger.refs_of_ended hrunL (hended _ hk) (List.getElem?_eq_getElem hlt)).2, hparked]
    rfl

/-- Every reference in a segment was imported onto its span. -/
theorem exists_import {es : List Event} {obj : SpanObject} {ref : SegmentReference}
    (hrep : Reports overflowChecks
      (World.new serviceName instanceName traceId traceSegmentId tracer) es seg)
    (hobj : ReportedFor es seg k obj) (href : ref ∈ obj.refs) :
    ∃ pre e post w₁, es = pre ++ e :: post ∧
      World.run overflowChecks
        (World.new serviceName instanceName traceId traceSegmentId tracer) pre = some w₁ ∧
      w₁.importTarget e.op = some (k, ref.refType) := by
  obtain ⟨L, w, tracer', hL, hvalid, hR, hended, hrun, htracer, rfl⟩ := hrep.exists_ledger
  obtain ⟨horder, rfl⟩ := (Ledger.reportedFor_iff hR).1 hobj
  have hk : k < L.count := hvalid.mem_iff.1 (Or.inr horder)
  have hlt : k < (creations es).length := hR.count ▸ hk
  rw [(hR.span k _ (List.getElem?_eq_getElem hlt)).refs, if_pos (hended k hk),
    List.mem_append, Option.mem_toList] at href
  rcases href with hcreated | hparked
  -- a reference of the creation, by the call that created the span
  · obtain ⟨pre, e, post, hsplit, he, hlen⟩ := exists_creation hlt
    obtain ⟨c, hc⟩ := Option.isSome_iff_exists.1 he
    obtain ⟨L₁, hL₁, -⟩ := Execution.run_append_iff.1 (hsplit ▸ hL)
    have hget : (creations es)[k] = c := by
      rw [← Option.some.injEq, ← List.getElem?_eq_getElem hlt, hsplit, creations_append,
        List.getElem?_append_right (Nat.le_of_eq hlen), hlen, Nat.sub_self]
      simp [creations, hc]
    rw [hget] at hcreated
    refine ⟨pre, e, post, _, hsplit,
      run_of_ledger (hsplit ▸ hrep.1) (hsplit ▸ hrun) hL₁, ?_⟩
    have hcount : (L₁.toWorld (.new serviceName instanceName traceId traceSegmentId
        tracer)).handles.length = k := by
      rw [← hlen, ← (Ledger.run_recorded hL₁).count]
      simp [Ledger.toWorld]
    obtain ⟨operationName, propagation, hop, htype⟩ := Op.eq_of_created_ref hc hcreated
    rw [hop, importTarget, hcount, htype]
  -- the parked one, by the call of `continued` that parked it
  · obtain ⟨htype, pre, clock, snapshot, post, L₁, hsplit, hL₁, hin⟩ :=
      Ledger.run_parkedBy hL hk hparked
    refine ⟨pre, _, post, _, hsplit,
      run_of_ledger (hsplit ▸ hrep.1) (hsplit ▸ hrun) hL₁, ?_⟩
    rw [importTarget, Ledger.innermost_toWorld, hin, Option.map_some, htype]

end World

/-! ## A family of contexts -/

/-- What a context starts from. -/
structure Origin where
  serviceName : String
  instanceName : String
  traceId : String
  traceSegmentId : String
  tracer : WeakTracer

/-- A context that was just created. -/
def Origin.world (origin : Origin) : World :=
  .new origin.serviceName origin.instanceName origin.traceId origin.traceSegmentId origin.tracer

namespace World

variable {ι : Type} [DecidableEq ι]

/-- An interleaved run of the contexts in which no call panics. -/
abbrev runAll (overflowChecks : Bool) : (ι → World) → List (ι × Event) → Option (ι → World) :=
  Execution.run (Execution.interleave (step overflowChecks))

/-- In a run of the family that ends in `s`, the context `i` makes the calls `cs` until all its
spans have ended and is then dropped; it has reported `seg`. -/
structure ReportsIn (overflowChecks : Bool) (origin : ι → Origin) (es : List (ι × Event))
    (s : ι → World) (i : ι) (cs : List Event) (seg : SegmentObject) : Prop where
  calls : ∀ e ∈ cs, e.op ≠ .dropContext
  dropped : ∃ clock rest, Execution.component i es = cs ++ ⟨clock, .dropContext⟩ :: rest
  finished : ∀ w, World.run overflowChecks (origin i).world cs = some w → w.Finished
  reported : (s i).reported = [.trace seg]

variable {overflowChecks : Bool} {origin : ι → Origin} {es : List (ι × Event)} {s : ι → World}

/-- What the run of the family says about one context. -/
theorem ReportsIn.reports {i : ι} {cs : List Event} {seg : SegmentObject}
    (h : ReportsIn overflowChecks origin es s i cs seg)
    (hrun : runAll overflowChecks (fun i => (origin i).world) es = some s) :
    Reports overflowChecks (origin i).world cs seg := by
  obtain ⟨clock, rest, hcomponent⟩ := h.dropped
  have hi := Execution.run_interleave_component i hrun
  rw [hcomponent] at hi
  obtain ⟨w, hw, htail⟩ := Execution.run_append_iff.1 hi
  obtain ⟨w', hdrop, hrest⟩ := Execution.run_cons_iff.1 htail
  have hfin := h.finished w hw
  obtain ⟨-, w'', -, -, -, -, hdrop', hdead, hrep⟩ := reports_segment h.calls hw hfin clock
  obtain rfl : w' = w'' := Option.some.inj (hdrop.symm.trans hdrop')
  refine ⟨h.calls, w, clock, w', hw, hfin, hdrop, ?_⟩
  rw [← h.reported, reported_of_not_alive hdead hrest]

/-- The position is that of the span `k` in the segment which the calls `cs` report. -/
structure Names (cs : List Event) (seg : SegmentObject) (k : Nat) (position : TraceContext) :
    Prop where
  traceId : position.traceId = seg.traceId
  traceSegmentId : position.traceSegmentId = seg.traceSegmentId
  reported : ∃ obj, ReportedFor cs seg k obj ∧ obj.spanId = position.spanId
  unique : ∀ obj ∈ seg.spans, obj.spanId = position.spanId → ReportedFor cs seg k obj

/-- The call `e` in the state `w` imports `x` onto the span `k`, and in the calls `post` after it no
other snapshot is linked to this span. -/
structure ImportsOnto (overflowChecks : Bool) (x : Export) (w : World) (e : Event)
    (post : List Event) (k : Nat) (refType : RefType) : Prop where
  imports : x.ImportedBy e.op
  target : w.importTarget e.op = some (k, refType)
  once : refType = .crossThread → ∀ w', w.step overflowChecks e = some w' →
    w'.lastLink overflowChecks k post = none

/-- What a header of the innermost span decodes to is exported. -/
theorem exists_exports_header {base64 : Base64Engine} (hbase64 : base64.Standard)
    {origin : Origin} {pre later : List Event} {w₁ : World} {seg : SegmentObject}
    (hrep : Reports overflowChecks origin.world (pre ++ later) seg)
    (hpre : World.run overflowChecks origin.world pre = some w₁)
    (hn : (creations (pre ++ later)).length < 2 ^ 31) {k : Nat} (hin : w₁.innermost = some k)
    (endpoint address : String) :
    ∃ propagation, decodePropagation base64
        (encodePropagation base64 w₁.context endpoint address) = .ok propagation ∧
      w₁.Exports base64 k (.header propagation) := by
  obtain ⟨L₁, -, -, -, hpreL, hvalid₁, rfl, -, -, -, -, -, -, -⟩ := hrep.split hpre
  have hinL := hin
  rw [Ledger.innermost_toWorld] at hinL
  have hk : k < 2 ^ 31 := by
    have hlt := (hvalid₁.split_innermost hinL).2.1
    rw [(Ledger.run_recorded hpreL).count] at hlt
    rw [creations_append, List.length_append] at hn
    omega
  have hpeek := Ledger.peekActiveSpanId_of_innermost (.new origin.serviceName origin.instanceName
    origin.traceId origin.traceSegmentId origin.tracer) hk hinL
  obtain ⟨hdecode, -, -⟩ := decode_encode_of_spanId hbase64 endpoint address (n := k)
    (by rw [hpeek]; rfl) hk
  exact ⟨_, hdecode, .header endpoint address _ hin hdecode⟩

theorem names_of_exports {origin : Origin} {pre later : List Event} {w₁ : World}
    {seg : SegmentObject} {base64 : Base64Engine} (hbase64 : base64.Standard)
    (hrep : Reports overflowChecks origin.world (pre ++ later) seg)
    (hpre : World.run overflowChecks origin.world pre = some w₁)
    (hn : (creations (pre ++ later)).length < 2 ^ 31) (hadopt : ∀ e ∈ later, e.op.adopts? = none)
    {k : Nat} {x : Export} (hx : w₁.Exports base64 k x) :
    x.position = some ⟨w₁.context.traceId, origin.traceSegmentId, (k : Nat)⟩ ∧
      Names (pre ++ later) seg k ⟨w₁.context.traceId, origin.traceSegmentId, (k : Nat)⟩ := by
  obtain ⟨L₁, L, w, tracer', hpreL, hvalid₁, rfl, -, hlater, hvalid, hR, hended, -, rfl⟩ :=
    hrep.split hpre
  have hcount : L.count < 2 ^ 31 := by rw [hR.count]; exact hn
  have hle : L₁.count ≤ L.count :=
    Execution.run_invariant (I := fun M => L₁.count ≤ M.count) (Nat.le_refl _)
      (fun _ _ _ hM hstep => Nat.le_trans hM (Ledger.step_count_le hstep)) hlater
  obtain ⟨hk₁, hposition⟩ := Ledger.position_of_exports hbase64 hvalid₁
    (Ledger.run_recorded hpreL) (Nat.lt_of_le_of_lt hle hcount) hx
  have hk := Nat.lt_of_lt_of_le hk₁ hle
  have hstack := Ledger.stack_eq_nil hvalid hended
  obtain ⟨obj, hobj, hid, -⟩ := Ledger.exists_reportedFor hvalid hR hended hcount hk
  refine ⟨hposition, (Ledger.run_traceId hadopt hlater).symm, rfl, ⟨obj, hobj, hid⟩, ?_⟩
  intro obj' hmem hid'
  obtain ⟨k', hk', rfl, hid'', -⟩ := (Ledger.mem_segment_iff hvalid hR hcount hstack).1 hmem
  -- the ids of a segment are distinct below `2 ^ 31`
  obtain rfl : k' = k := by
    have h : (k' : Int) = k := hid''.symm.trans hid'
    omega
  exact (Ledger.reportedFor_iff hR).2 ⟨(hvalid.mem_order_iff hk').2 (by simp [hended k' hk']), rfl⟩

/-- A header that a context writes while a span is active decodes. The position that a context
exports after its last adoption of a trace, in a header, a snapshot or a log record, is that of a
span in the segment it reports, and of no other context of the family. A context that imports the
position reports, on the span that imported it, one reference of the import's kind, and it is to
this position; every reference it reports was imported onto the span that has it. -/
theorem exported_position_names_span {base64 : Base64Engine} (hbase64 : base64.Standard)
    (hids : ∀ i j, (origin i).traceSegmentId = (origin j).traceSegmentId → i = j)
    (hnonempty : ∀ i, (origin i).traceSegmentId ≠ "") {pre post : List (ι × Event)}
    {s₁ : ι → World}
    (hrun : runAll overflowChecks (fun i => (origin i).world) (pre ++ post) = some s)
    (hpre : runAll overflowChecks (fun i => (origin i).world) pre = some s₁) {i : ι}
    {later : List Event} {seg : SegmentObject}
    (hreports : ReportsIn overflowChecks origin (pre ++ post) s i
      (Execution.component i pre ++ later) seg)
    (hn : (creations (Execution.component i pre ++ later)).length < 2 ^ 31)
    (hadopt : ∀ e ∈ later, e.op.adopts? = none) (htrace : (s₁ i).context.traceId ≠ "") {k : Nat} :
    ((s₁ i).innermost = some k → ∀ endpoint address, ∃ propagation,
      decodePropagation base64 (encodePropagation base64 (s₁ i).context endpoint address) =
        .ok propagation ∧ (s₁ i).Exports base64 k (.header propagation)) ∧
    ∀ x, (s₁ i).Exports base64 k x → ∃ position, x.position = some position ∧
      Names (Execution.component i pre ++ later) seg k position ∧
      (∀ j cs seg', ReportsIn overflowChecks origin (pre ++ post) s j cs seg' →
        seg'.traceSegmentId = position.traceSegmentId → j = i) ∧
      ∀ mid j e rest s₂ laterJ segJ kJ refType, post = mid ++ (j, e) :: rest →
        runAll overflowChecks s₁ mid = some s₂ →
        ReportsIn overflowChecks origin (pre ++ post) s j
          (Execution.component j (pre ++ mid) ++ e :: laterJ) segJ →
        ImportsOnto overflowChecks x (s₂ j) e laterJ kJ refType →
        (∃ obj, ReportedFor (Execution.component j (pre ++ mid) ++ e :: laterJ) segJ kJ obj ∧
          RefersTo obj refType position) ∧
        ∀ k' obj ref,
          ReportedFor (Execution.component j (pre ++ mid) ++ e :: laterJ) segJ k' obj →
          ref ∈ obj.refs → ∃ pre' e' post' w',
            Execution.component j (pre ++ mid) ++ e :: laterJ = pre' ++ e' :: post' ∧
            World.run overflowChecks (origin j).world pre' = some w' ∧
            w'.importTarget e'.op = some (k', ref.refType) := by
  have hbefore := Execution.run_interleave_component i hpre
  refine ⟨fun hin => exists_exports_header hbase64 (hreports.reports hrun) hbefore hn hin, ?_⟩
  intro x hx
  obtain ⟨hposition, hnames⟩ :=
    names_of_exports hbase64 (hreports.reports hrun) hbefore hn hadopt hx
  refine ⟨_, hposition, hnames, ?_, ?_⟩
  -- a segment has the segment id that its context started with
  · intro j cs seg' hj hseg
    obtain ⟨L, -, -, -, -, -, -, -, -, rfl⟩ := (hj.reports hrun).exists_ledger
    exact hids j i hseg
  · rintro mid j e rest s₂ laterJ segJ kJ refType rfl hmid hreportsJ himport
    have hrep := hreportsJ.reports hrun
    have hs₂ : runAll overflowChecks (fun i => (origin i).world) (pre ++ mid) = some s₂ :=
      Execution.run_append_iff.2 ⟨s₁, hpre, hmid⟩
    -- the importing context sees its own calls only
    have hpreJ := Execution.run_interleave_component j hs₂
    refine ⟨?_, fun k' obj ref hobj href => exists_import hrep hobj href⟩
    obtain ⟨w, clock, w', hfull, -⟩ := hrep.2
    obtain ⟨w₂, hw₂, hcall⟩ := Execution.run_append_iff.1 hfull
    obtain rfl := Option.some.inj (hpreJ.symm.trans hw₂)
    obtain ⟨w₃, hcall, -⟩ := Execution.run_cons_iff.1 hcall
    refine import_refersTo hrep hpreJ hcall himport.imports himport.target hposition
      (fun captured hcaptured => ?_) fun h => himport.once h w₃ hcall
    subst hcaptured
    exact Export.isValid_of_position hposition htrace (hnonempty i)

/-- Two contexts; the second one continues from a snapshot of the first. -/
def pairOrigin (second : Bool) : Origin :=
  if second then ⟨"s2", "i2", "t2", "g2", some ⟨"s2", "i2"⟩⟩
  else ⟨"s1", "i1", "t1", "g1", some ⟨"s1", "i1"⟩⟩

/-- The first context has a span. -/
def pairBefore : List (Bool × Event) := [(false, atZero (.createEntrySpan "a"))]

/-- What the first context captures then. -/
def pairSnapshot : ContextSnapshot := ⟨"t1", "g1", 0, "a"⟩

/-- The second context has a span too. -/
def pairMid : List (Bool × Event) := [(true, atZero (.createEntrySpan "b"))]

/-- Both contexts are brought to their ends. -/
def pairRest : List (Bool × Event) :=
  [(true, atZero (.dropSpan 0)), (true, atZero .dropContext), (false, atZero (.dropSpan 0)),
    (false, atZero .dropContext)]

/-- The second context continues from the snapshot on the span that is there. -/
def pairAfter : List (Bool × Event) :=
  pairMid ++ (true, atZero (.continued pairSnapshot)) :: pairRest

/-- What a header of the first context decodes to. -/
def pairHeader : PropagationContext where
  doSample := true
  parentTraceId := "t1"
  parentTraceSegmentId := "g1"
  parentSpanId := 0
  parentService := "s1"
  parentServiceInstance := "i1"
  destinationEndpoint := "e"
  destinationAddress := "h"

/-- The second context takes over the header, and the snapshot on the same span. -/
def bothAfter : List (Bool × Event) :=
  (true, atZero (.createEntrySpanWithPropagation "b" pairHeader)) ::
    (true, atZero (.continued pairSnapshot)) :: pairRest

/-- A computed run of the pair reports a segment for one of the two. -/
theorem exists_reportsIn (second : Bool) (cs : List Event) {s : Bool → World}
    (hrun : runAll true (fun i => (pairOrigin i).world) (pairBefore ++ bothAfter) = some s)
    (hcalls : ∀ e ∈ cs, e.op ≠ .dropContext)
    (hdropped : Execution.component second (pairBefore ++ bothAfter) =
      cs ++ [atZero .dropContext])
    (hfinished : (World.run true (pairOrigin second).world cs).all fun w => decide w.Finished) :
    ∃ seg, ReportsIn true pairOrigin (pairBefore ++ bothAfter) s second cs seg := by
  have hi := Execution.run_interleave_component second hrun
  rw [hdropped] at hi
  obtain ⟨w, hw, hdrop⟩ := Execution.run_concat_iff.1 hi
  have hall : ∀ w, World.run true (pairOrigin second).world cs = some w → w.Finished := by
    intro w hw
    rw [hw] at hfinished
    exact of_decide_eq_true hfinished
  obtain ⟨L, w', -, -, -, -, hdrop', -, hrep⟩ :=
    reports_segment hcalls hw (hall w hw) fun _ => 0
  obtain rfl : s second = w' := Option.some.inj (hdrop.symm.trans hdrop')
  exact ⟨_, hcalls, ⟨_, [], hdropped⟩, hall, hrep⟩

/-- The calls of the second context. -/
def bothCalls : List Event :=
  [atZero (.createEntrySpanWithPropagation "b" pairHeader), atZero (.continued pairSnapshot),
    atZero (.dropSpan 0)]

/-- The first context when it has one span. -/
theorem pair_before :
    ∃ s₁ span record, runAll true (fun i => (pairOrigin i).world) pairBefore = some s₁ ∧
      (s₁ false).innermost = some 0 ∧ (s₁ false).context.peekActiveSpanId = some 0 ∧
      (s₁ false).context.capture = pairSnapshot ∧ (s₁ false).context.service = "s1" ∧
      (s₁ false).context.serviceInstance = "i1" ∧ (s₁ false).handles[0]? = some (.span span) ∧
      (LogRecord.new.withTracingContext (s₁ false).context).withSpan span = .ok record span ∧
      (record.convertToLogData (fun _ => 0) "s1" "i1").traceContext = some ⟨"t1", "g1", 0⟩ :=
  ⟨_, _, _, rfl, rfl, rfl, rfl, rfl, rfl, rfl, rfl, rfl⟩

/-- What the second context imports the header and the snapshot onto. -/
theorem pair_imports {s₁ : Bool → World}
    (hpre : runAll true (fun i => (pairOrigin i).world) pairBefore = some s₁) :
    ImportsOnto true (.header pairHeader) (s₁ true)
      (atZero (.createEntrySpanWithPropagation "b" pairHeader))
      [atZero (.continued pairSnapshot), atZero (.dropSpan 0)] 0 .crossProcess ∧
    ∃ s₂, runAll true s₁ [(true, atZero (.createEntrySpanWithPropagation "b" pairHeader))] =
        some s₂ ∧
      ImportsOnto true (.snapshot pairSnapshot) (s₂ true) (atZero (.continued pairSnapshot))
        [atZero (.dropSpan 0)] 0 .crossThread := by
  obtain rfl := Option.some.inj hpre
  refine ⟨⟨.header "b" pairHeader, rfl, nofun⟩, _, rfl, .snapshot pairSnapshot, rfl, ?_⟩
  intro _ w' hw'
  obtain rfl := Option.some.inj hw'
  rfl

theorem exported_position_names_span_pair :
    ∃ s s₁ segP segC data,
      runAll true (fun i => (pairOrigin i).world) (pairBefore ++ bothAfter) = some s ∧
      runAll true (fun i => (pairOrigin i).world) pairBefore = some s₁ ∧
      (s false).reported = [.trace segP] ∧ (s true).reported = [.trace segC] ∧
      decodePropagation .rfc4648 (encodePropagation .rfc4648 (s₁ false).context "e" "h") =
        .ok pairHeader ∧
      (∃ obj, ReportedFor bothCalls segC 0 obj ∧ RefersTo obj .crossProcess ⟨"t1", "g1", 0⟩) ∧
      (∃ obj, ReportedFor bothCalls segC 0 obj ∧ RefersTo obj .crossThread ⟨"t1", "g1", 0⟩) ∧
      (s₁ false).Exports .rfc4648 0 (.log data) ∧
      data.traceContext = some ⟨"t1", "g1", 0⟩ ∧
      Names [atZero (.createEntrySpan "a"), atZero (.dropSpan 0)] segP 0 ⟨"t1", "g1", 0⟩ := by
  have hrun : (runAll true (fun i => (pairOrigin i).world) (pairBefore ++ bothAfter)).isSome := by
    decide +kernel
  obtain ⟨s, hrun⟩ := Option.isSome_iff_exists.1 hrun
  obtain ⟨s₁, span, record, hpre, hin, hpeek, hcapture, hservice, hinstance, hhandle, hbuild,
    hcontext⟩ := pair_before
  obtain ⟨htrace, hsegment, -, -⟩ := ContextSnapshot.mk.inj hcapture
  obtain ⟨segP, hP⟩ := exists_reportsIn false
    ([atZero (.createEntrySpan "a")] ++ [atZero (.dropSpan 0)]) hrun (by decide +kernel) rfl
    (by decide +kernel)
  obtain ⟨segC, hC⟩ := exists_reportsIn true bothCalls hrun (by decide +kernel) rfl
    (by decide +kernel)
  obtain ⟨hheader, hnames⟩ := exported_position_names_span (k := 0)
    Base64Engine.standard_rfc4648 (by decide +kernel) (by decide +kernel) hrun hpre
    (i := false) hP (by decide +kernel) (by decide +kernel) (by simp [htrace])
  -- the header decodes, and to these fields
  obtain ⟨propagation, hdecode, hexports⟩ := hheader hin "e" "h"
  have hid : (s₁ false).context.peekActiveSpanId.getD 0 = ((0 : Nat) : Int) := by
    rw [hpeek]
    rfl
  obtain ⟨hfields, -, -⟩ :=
    decode_encode_of_spanId Base64Engine.standard_rfc4648 "e" "h" hid (by decide)
  have heq : propagation = pairHeader := by
    rw [hdecode, htrace, hsegment, hservice, hinstance] at hfields
    exact Except.ok.inj hfields
  subst heq
  have hlog : (s₁ false).Exports .rfc4648 0
      (.log (record.convertToLogData (fun _ => 0) "s1" "i1")) :=
    .log (fun _ => 0) "s1" "i1" .new record span span hhandle hbuild
  obtain ⟨hheaderOnto, s₂, hs₂, hsnapshotOnto⟩ := pair_imports hpre
  obtain ⟨position, hposition, -, -, himport⟩ := hnames _ hexports
  obtain rfl := Option.some.inj hposition
  obtain ⟨hprocess, -⟩ := himport [] true _ _ s₁ _ segC 0 .crossProcess rfl rfl hC hheaderOnto
  obtain ⟨position, hposition, -, -, himport⟩ := hnames _ (.snapshot hin)
  rw [hcapture] at hposition himport
  obtain rfl := Option.some.inj hposition
  obtain ⟨hthread, -⟩ := himport [_] true _ _ s₂ _ segC 0 .crossThread rfl hs₂ hC hsnapshotOnto
  obtain ⟨position, hposition, hlogged, -⟩ := hnames _ hlog
  obtain rfl := Option.some.inj (hcontext.symm.trans hposition)
  exact ⟨s, s₁, segP, segC, _, hrun, hpre, hP.reported, hC.reported, hdecode, hprocess, hthread,
    hlog, hcontext, hlogged⟩

end World

end SkywalkingAgent.Trace
