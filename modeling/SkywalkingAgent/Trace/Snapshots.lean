import SkywalkingAgent.Propagation.Grammar
import SkywalkingAgent.Propagation.RoundTrip
import SkywalkingAgent.Trace.Links
import SkywalkingAgent.Trace.Panics

/-!
# Snapshots

`capture` reads the span id off the top of the stack, the endpoint from the field that the last
creation of a span has set, and the trace from the context. `World.capture_describes_iff` says when
the id and the endpoint belong to one span, and `World.capture_after_propagation_iff` when a
snapshot taken after a remote parent was adopted is valid, so that another thread can go on from it.
-/

set_option autoImplicit false

namespace SkywalkingAgent.Trace

open SkywalkingAgent.Lib SkywalkingAgent.Common SkywalkingAgent.Proto
open SkywalkingAgent.Propagation SkywalkingAgent.Reporter

variable {overflowChecks : Bool} {serviceName instanceName : String} {tracer : WeakTracer}
  {w : World} {es : List Event}

/-! ## One span -/

/-- The id is that of the span `k`, and the endpoint the name that this span was created with, when
the context has created the spans `cs`. -/
structure Describes (cs : List Creation) (k : Nat) (spanId : Int) (endpoint : String) : Prop where
  spanId : spanId = wrapI32 (k : Nat)
  endpoint : cs[k]?.map (fun c => c.operationName) = some endpoint

/-- The span created last has the name of the span `k`. -/
def LastNamedAs (cs : List Creation) (k : Nat) : Prop :=
  cs.getLast?.map (fun c => c.operationName) = cs[k]?.map fun c => c.operationName

instance (cs : List Creation) (k : Nat) : Decidable (LastNamedAs cs k) :=
  inferInstanceAs (Decidable (_ = _))

theorem describes_iff_lastNamedAs {cs : List Creation} {k : Nat} {spanId : Int} {endpoint : String}
    (hid : spanId = wrapI32 (k : Nat))
    (hendpoint : cs.getLast?.map (fun c => c.operationName) = some endpoint) :
    Describes cs k spanId endpoint ↔ LastNamedAs cs k := by
  unfold LastNamedAs
  rw [hendpoint]
  constructor
  · intro h
    exact h.endpoint.symm
  · intro h
    exact ⟨hid, h.symm⟩

/-- What `continued` parks for a snapshot on the innermost span of another context. -/
theorem TracingContext.continued_parks {c c' : TracingContext} {a : ActiveSpan}
    {snapshot : ContextSnapshot} (hvalid : snapshot.isValid) (hactive : c.activeSpan = some a)
    (hcontinued : c.continued snapshot = .ok () c') :
    c'.traceId = snapshot.traceId ∧ ∃ tracer, c.tracer = some tracer ∧
      c'.activeSpan = some { a with ref := some (snapshotRef tracer snapshot) } := by
  cases htracer : c.tracer with
  | none =>
    rw [continued_of_dropped hvalid htracer] at hcontinued
    cases hcontinued
  | some tracer =>
    rw [continued_of_tracer hvalid htracer] at hcontinued
    obtain rfl := (Outcome.ok.inj hcontinued).2
    refine ⟨rfl, tracer, rfl, ?_⟩
    simp only [activeSpan] at hactive
    simp [activeSpan, parkRef, hactive]

namespace World

/-- The spans that a run has created. -/
def created (overflowChecks : Bool) (w₀ : World) (es : List Event) : List Creation :=
  creations (returned overflowChecks w₀ es)

/-- The id of a snapshot comes from the top of the stack, the endpoint from the last creation. -/
theorem Behind.capture {base : TracingContext} {L : Ledger} {lost : Nat → Bool} {k : Nat}
    (h : Behind base es L lost w) (hk : w.innermost = some k) :
    w.context.capture.spanId = wrapI32 (k : Nat) ∧
      (creations es).getLast?.map (fun c => c.operationName) =
        some w.context.capture.parentEndpoint := by
  have hcontext : w.context = (L.toWorld base).context := by rw [h.eq, hide_context]
  have hin : L.innermost = some k := by
    have hinner : (L.toWorld base).innermost = some k := by
      rw [← hk]
      simp only [innermost, hcontext]
    rw [← hinner, Ledger.innermost_toWorld]
  constructor
  · have hid : w.context.capture.spanId = Ledger.parentId L.innermost := by
      rw [hcontext]
      exact Ledger.peekActiveSpanId_toWorld
    rw [hid, hin, Ledger.parentId, Option.map_some, Option.getD_some]
  · have hname : w.context.capture.parentEndpoint = L.endpoint := by rw [hcontext]; rfl
    have hlt : k < (creations es).length := h.recorded.count ▸ (h.valid.split_innermost hin).2.1
    have hne : creations es ≠ [] := List.ne_nil_of_length_pos (Nat.zero_lt_of_lt hlt)
    rw [hname, h.endpoint, List.getLast?_eq_some_getLast hne, Option.map_some, Option.getD_some]

/-- In every state of a context with an innermost span `k`, caught panics before it included, the
snapshot describes the span `k` exactly when the span created last has the same name; and so does
every reference that `continued` parks for the snapshot on a span of another context. -/
theorem capture_describes_iff {traceId traceSegmentId : String}
    (hops : ∀ e ∈ es, e.op ≠ .dropContext)
    (hrun : Execution.run (World.after overflowChecks)
      (World.new serviceName instanceName traceId traceSegmentId tracer) es = some w)
    {k : Nat} (hk : w.innermost = some k) :
    (Describes (created overflowChecks
        (World.new serviceName instanceName traceId traceSegmentId tracer) es) k
        w.context.capture.spanId w.context.capture.parentEndpoint ↔
      LastNamedAs (created overflowChecks
        (World.new serviceName instanceName traceId traceSegmentId tracer) es) k) ∧
    ∀ (c c' : TracingContext) (a : ActiveSpan), w.context.capture.isValid →
      c.activeSpan = some a → c.continued w.context.capture = .ok () c' →
      ∃ ref, c'.activeSpan = some { a with ref := some ref } ∧ ref.refType = .crossThread ∧
        (Describes (created overflowChecks
            (World.new serviceName instanceName traceId traceSegmentId tracer) es) k
            ref.parentSpanId ref.parentEndpoint ↔
          LastNamedAs (created overflowChecks
            (World.new serviceName instanceName traceId traceSegmentId tracer) es) k) := by
  obtain ⟨L, lost, h⟩ := run_behind hops hrun
  obtain ⟨hid, hendpoint⟩ := h.capture hk
  refine ⟨describes_iff_lastNamedAs hid hendpoint, ?_⟩
  intro c c' a hvalid hactive hcontinued
  obtain ⟨-, tracer', -, hparked⟩ :=
    TracingContext.continued_parks hvalid hactive hcontinued
  exact ⟨_, hparked, rfl, describes_iff_lastNamedAs hid hendpoint⟩

/-- A snapshot right after the creation of a span. -/
theorem capture_describes_iff_two :
    ∃ w, Execution.run (World.after true) sampleWorld
        [atZero (.createEntrySpan "a"), atZero (.createLocalSpan "b")] = some w ∧
      Describes [⟨"a", "", .entry, .http, []⟩, ⟨"b", "", .localSpan, .unknown, []⟩] 1
        w.context.capture.spanId w.context.capture.parentEndpoint := by
  have hrun : ∃ w, Execution.run (World.after true) sampleWorld
      [atZero (.createEntrySpan "a"), atZero (.createLocalSpan "b")] = some w ∧
      decide (w.innermost = some 1) = true := (Option.any_eq_true _ _).1 (by decide +kernel)
  obtain ⟨w, hrun, hk⟩ := hrun
  have hcreated : created true sampleWorld
      [atZero (.createEntrySpan "a"), atZero (.createLocalSpan "b")] =
        [⟨"a", "", .entry, .http, []⟩, ⟨"b", "", .localSpan, .unknown, []⟩] := by
    decide +kernel
  have hiff := (capture_describes_iff (by decide) hrun (of_decide_eq_true hk)).1
  rw [hcreated] at hiff
  exact ⟨w, hrun, hiff.2 (by decide)⟩

/-- After the inner span has ended, a snapshot pairs the id of the outer span with the name of the
inner one. -/
theorem capture_pairs_two_spans :
    ∃ w, Execution.run (World.after true) sampleWorld
        [atZero (.createEntrySpan "a"), atZero (.createLocalSpan "b"), atZero (.dropSpan 1)] =
          some w ∧
      w.innermost = some 0 ∧ w.context.capture = ⟨"t", "g", 0, "b"⟩ ∧
      ¬Describes (created true sampleWorld
        [atZero (.createEntrySpan "a"), atZero (.createLocalSpan "b"), atZero (.dropSpan 1)]) 0
        w.context.capture.spanId w.context.capture.parentEndpoint := by
  have hrun : ∃ w, Execution.run (World.after true) sampleWorld
      [atZero (.createEntrySpan "a"), atZero (.createLocalSpan "b"), atZero (.dropSpan 1)] =
        some w ∧ decide (w.innermost = some 0 ∧ w.context.capture = ⟨"t", "g", 0, "b"⟩) = true :=
    (Option.any_eq_true _ _).1 (by decide +kernel)
  obtain ⟨w, hrun, hw⟩ := hrun
  obtain ⟨hin, hcapture⟩ := of_decide_eq_true hw
  have hcreated : created true sampleWorld
      [atZero (.createEntrySpan "a"), atZero (.createLocalSpan "b"), atZero (.dropSpan 1)] =
        [⟨"a", "", .entry, .http, []⟩, ⟨"b", "", .localSpan, .unknown, []⟩] := by
    decide +kernel
  refine ⟨w, hrun, hin, hcapture, fun h => ?_⟩
  have hname := h.endpoint
  rw [hcreated, hcapture] at hname
  exact absurd hname (by decide)

end World

/-! ## One trace -/

/-- A call that keeps the context and adopts no trace but `traceId`. -/
def Op.StaysIn (traceId : String) (op : Op) : Prop :=
  op ≠ .dropContext ∧ ∀ adopted, op.adopts? = some adopted → adopted = traceId

/-- The segment of a context is of its trace. -/
theorem TracingContext.traceId_of_drop {c c' : TracingContext} {seg : SegmentObject}
    (h : c.drop = .ok (.trace seg) c') : seg.traceId = c.traceId := by
  obtain ⟨-, spans, -, hitem, -⟩ := drop_eq_ok_iff.1 h
  obtain rfl := CollectItem.trace.inj hitem
  rfl

namespace World

variable {w' : World} {traceId : String}

/-- The trace of a context along a run that adopts no other one. -/
theorem run_staysIn (hstay : ∀ e ∈ es, e.op.StaysIn traceId)
    (hrun : Execution.run (World.after overflowChecks) w es = some w')
    (htrace : w.context.traceId = traceId) :
    w'.context.traceId = traceId := by
  refine Execution.run_invariant_of_forall (I := fun v : World => v.context.traceId = traceId)
    hstay htrace ?_ hrun
  rintro a b e ⟨hop, hadopts⟩ ha hab
  rcases (after_keepsTrace hop hab).2 with hsame | hadopted
  · rw [hsame, ha]
  · exact hadopts _ hadopted

theorem run_segmentId (hops : ∀ e ∈ es, e.op ≠ .dropContext)
    (hrun : Execution.run (World.after overflowChecks) w es = some w') :
    w'.context.traceSegmentId = w.context.traceSegmentId := by
  refine Execution.run_invariant_of_forall
    (I := fun v : World => v.context.traceSegmentId = w.context.traceSegmentId) hops rfl ?_ hrun
  intro a b e hop ha hab
  rw [(after_keepsTrace hop hab).1, ha]

/-- Whatever the program does with the context without adopting another trace, a segment that the
context reports is of the trace. -/
def ReportsTrace (overflowChecks : Bool) (traceId : String) (w : World) : Prop :=
  ∀ es w₁ clock w₂ seg, (∀ e ∈ es, e.op.StaysIn traceId) →
    Execution.run (World.after overflowChecks) w es = some w₁ →
    w₁.after overflowChecks ⟨clock, .dropContext⟩ = some w₂ →
    w₂.reported = w₁.reported ++ [.trace seg] → seg.traceId = traceId

theorem reportsTrace_of_traceId (htrace : w.context.traceId = traceId) :
    ReportsTrace overflowChecks traceId w := by
  intro es w₁ clock w₂ seg hstay hrun hdrop hreported
  have htrace₁ := run_staysIn hstay hrun htrace
  rcases after_dropContext hdrop with ⟨item, c, hcontext, rfl⟩ | hsame
  · obtain rfl : item = .trace seg := by simpa using hreported
    rw [TracingContext.traceId_of_drop hcontext, htrace₁]
  · -- a panicking drop reports nothing
    rw [hsame] at hreported
    simp at hreported

/-- The context of `w` and any other context that goes on from its snapshot report the trace, and
the innermost span of the other context is linked to the innermost span `a` of this one. -/
structure Chains (overflowChecks : Bool) (traceId : String) (w : World) (a : ActiveSpan) :
    Prop where
  reports : ReportsTrace overflowChecks traceId w
  linked : ∀ (v : World) (b : ActiveSpan) (clock : Clock), v.contextAlive = true →
    v.context.tracer.isSome → v.context.activeSpan = some b →
    ∃ v' ref, v.step overflowChecks ⟨clock, .continued w.context.capture⟩ = some v' ∧
      v'.context.activeSpan = some { b with ref := some ref } ∧ ref.refType = .crossThread ∧
      ref.traceId = traceId ∧ ref.parentTraceSegmentId = w.context.traceSegmentId ∧
      ref.parentSpanId = a.spanId ∧ ReportsTrace overflowChecks traceId v'

theorem chains_of_isValid {a : ActiveSpan} (htrace : w.context.traceId = traceId)
    (hactive : w.context.activeSpan = some a) (hvalid : w.context.capture.isValid) :
    Chains overflowChecks traceId w a := by
  refine ⟨reportsTrace_of_traceId htrace, ?_⟩
  intro v b clock halive htracer hb
  obtain ⟨tracer', htracer⟩ := Option.isSome_iff_exists.1 htracer
  have hcontinued := TracingContext.continued_of_tracer hvalid htracer
  obtain ⟨htrace', tracer'', -, hparked⟩ :=
    TracingContext.continued_parks hvalid hb hcontinued
  -- the reference that `continued` parks is the snapshot field by field
  refine ⟨{ v with context := _ }, _, ?_, hparked, rfl, htrace, rfl, ?_,
    reportsTrace_of_traceId (htrace'.trans htrace)⟩
  · rw [step_eq_some_iff]
    simp only [call, callContext, halive, if_true, hcontinued, Outcome.mapState]
  · show w.context.peekActiveSpanId.getD (-1) = a.spanId
    rw [TracingContext.peekActiveSpanId, hactive]
    rfl

/-- A header is accepted, a context adopts it with an entry span, and later, caught panics included,
no other trace is adopted. In every such state with an innermost span the snapshot is valid, and
chains other contexts to the trace of the header, exactly when the header's piece for the trace id
is not empty and the id of the innermost span is not negative; the latter holds of a context with
fewer than `2 ^ 31` spans. -/
theorem capture_after_propagation_iff {base64 : Base64Engine} (hbase64 : base64.Strict)
    {header : String} {p : PropagationContext} (hdecode : decodePropagation base64 header = .ok p)
    {traceUuid segmentUuid : BitVec 128} {pre post : List Event} {w₀ w₁ : World} {clock : Clock}
    {operationName : String} {a : ActiveSpan} (hops : ∀ e ∈ pre, e.op ≠ .dropContext)
    (hpre : Execution.run (World.after overflowChecks)
      (World.new serviceName instanceName (RandomGenerator.generate traceUuid)
        (RandomGenerator.generate segmentUuid) tracer) pre = some w₀)
    (hcreate : w₀.step overflowChecks
      ⟨clock, .createEntrySpanWithPropagation operationName p⟩ = some w₁)
    (hstay : ∀ e ∈ post, e.op.StaysIn p.parentTraceId)
    (hpost : Execution.run (World.after overflowChecks) w₁ post = some w)
    (hactive : w.context.activeSpan = some a) :
    (w.context.capture.isValid = true ∧ Chains overflowChecks p.parentTraceId w a ↔
      (split header)[1]? ≠ some "" ∧ 0 ≤ a.spanId) ∧
    (w.handles.length < 2 ^ 31 → 0 ≤ a.spanId) := by
  have hafter : w₀.after overflowChecks
      ⟨clock, .createEntrySpanWithPropagation operationName p⟩ = some w₁ :=
    after_eq_some_iff.2 ⟨_, step_eq_some_iff.1 hcreate, Or.inl rfl⟩
  have hrun := Execution.run_append_iff.2
    ⟨w₀, hpre, Execution.run_cons_iff.2 ⟨w₁, hafter, hpost⟩⟩
  have hops' : ∀ e ∈ pre ++ ⟨clock, .createEntrySpanWithPropagation operationName p⟩ :: post,
      e.op ≠ .dropContext := by
    intro e he
    rcases List.mem_append.1 he with he | he
    · exact hops e he
    · rcases List.mem_cons.1 he with rfl | he
      · simp
      · exact (hstay e he).1
  -- the creation adopts the trace of the header, and nothing after it another one
  have htrace₁ : w₁.context.traceId = p.parentTraceId := by
    have hcall := step_eq_some_iff.1 hcreate
    simp only [call, callContext] at hcall
    split at hcall
    · obtain ⟨span, context, hopen, rfl⟩ := create_eq_ok_iff.1 (Option.some.inj hcall)
      obtain ⟨s', t', obj, -, -, -, rfl⟩ :=
        TracingContext.createEntrySpanWithPropagation_eq_ok_iff.1 hopen
      rfl
    · cases hcall
  have htrace : w.context.traceId = p.parentTraceId := run_staysIn hstay hpost htrace₁
  have hsegment : w.context.traceSegmentId = RandomGenerator.generate segmentUuid :=
    run_segmentId hops' hrun
  have hid : w.context.capture.spanId = a.spanId := by
    show w.context.peekActiveSpanId.getD (-1) = a.spanId
    rw [TracingContext.peekActiveSpanId, hactive]
    rfl
  have hvalid : w.context.capture.isValid = true ↔ p.parentTraceId ≠ "" ∧ 0 ≤ a.spanId := by
    -- the segment id is generated, so of the three tests two can fail
    have hne : w.context.traceSegmentId ≠ "" := by
      rw [hsegment]
      exact RandomGenerator.generate_ne_empty segmentUuid
    have hfields : w.context.capture.traceSegmentId = w.context.traceSegmentId ∧
        w.context.capture.traceId = w.context.traceId := ⟨rfl, rfl⟩
    simp only [ContextSnapshot.isValid, hfields.1, hfields.2, hid, htrace, ne_eq, hne,
      not_false_eq_true, decide_true, Bool.true_and, Bool.and_eq_true, decide_eq_true_eq]
    constructor
    · rintro ⟨hnonneg, hname⟩
      exact ⟨hname, by omega⟩
    · rintro ⟨hname, hnonneg⟩
      exact ⟨by omega, hname⟩
  refine ⟨?_, fun hn => ?_⟩
  · rw [ne_eq, traceId_piece_iff hbase64 hdecode]
    constructor
    · rintro ⟨h, -⟩
      exact hvalid.1 h
    · intro h
      exact ⟨hvalid.2 h, chains_of_isValid htrace hactive (hvalid.2 h)⟩
  · have hpeek : w.context.peekActiveSpanId = some a.spanId := by
      rw [TracingContext.peekActiveSpanId, hactive]
      rfl
    -- span ids are the indices of the handles until they wrap at `i32`
    obtain ⟨k, -, hk⟩ := (run_numbered hops' hrun).peekActiveSpanId hn hpeek
    omega

/-- The pieces of a header from another service. -/
def samplePieces (traceId : List Char) : Pieces :=
  ⟨['1'], traceId, "c2Vn".toList, ['0'], "c3Zj".toList, "aW5z".toList, "ZXA=".toList,
    "YWRk".toList⟩

/-- What the pieces denote. -/
def samplePropagation (traceId : String) : PropagationContext :=
  ⟨true, traceId, "seg", 0, "svc", "ins", "ep", "add"⟩

theorem decode_samplePieces {header : String} {piece : List Char} {traceId : String}
    (htext : header.toList = ['-'].intercalate (samplePieces piece).toList)
    (hpiece : Spells piece traceId) :
    decodePropagation .rfc4648 header = .ok (samplePropagation traceId) := by
  have hspan : SpellsSpanId ['0'] 0 :=
    ⟨[], ['0'], rfl, Or.inl rfl, by decide, by simp, rfl, by decide⟩
  have hsegment : Spells "c2Vn".toList "seg" := ⟨.quantum rfl rfl rfl rfl .nil, by decide⟩
  have hservice : Spells "c3Zj".toList "svc" := ⟨.quantum rfl rfl rfl rfl .nil, by decide⟩
  have hinstance : Spells "aW5z".toList "ins" := ⟨.quantum rfl rfl rfl rfl .nil, by decide⟩
  have hendpoint : Spells "ZXA=".toList "ep" := ⟨.twoBytes rfl rfl (by decide), by decide⟩
  have haddress : Spells "YWRk".toList "add" := ⟨.quantum rfl rfl rfl rfl .nil, by decide⟩
  have hf : (samplePieces piece).Denote (samplePropagation traceId) :=
    ⟨by simp [SpellsSample, samplePieces, samplePropagation], hpiece, hsegment, ⟨0, hspan, rfl⟩,
      hservice, hinstance, hendpoint, haddress⟩
  exact decodePropagation_of_sw8 Base64Engine.strict_rfc4648
    ⟨htext ▸ count_intercalate hf.no_dash, _, htext, hf⟩

/-- A context that adopts a remote parent and goes on with a local span. -/
theorem capture_after_propagation_iff_sample :
    ∃ w a, decodePropagation .rfc4648 "1-dA==-c2Vn-0-c3Zj-aW5z-ZXA=-YWRk" =
        .ok (samplePropagation "t") ∧ w.context.activeSpan = some a ∧
      w.context.capture.isValid = true ∧ Chains true "t" w a := by
  have hdecode : decodePropagation .rfc4648 "1-dA==-c2Vn-0-c3Zj-aW5z-ZXA=-YWRk" =
      .ok (samplePropagation "t") :=
    decode_samplePieces (by decide : _ = ['-'].intercalate (samplePieces "dA==".toList).toList)
      ⟨.oneByte rfl (by decide), by decide⟩
  have hcreate : ∃ w₁, (World.new "s" "i" (RandomGenerator.generate 7)
      (RandomGenerator.generate 8) none).step true
        (atZero (.createEntrySpanWithPropagation "op" (samplePropagation "t"))) = some w₁ ∧
      (Execution.run (World.after true) w₁ [atZero (.createLocalSpan "in")]).any (fun w =>
        w.context.activeSpan.any fun a => decide (0 ≤ a.spanId)) = true :=
    (Option.any_eq_true _ _).1 (by decide +kernel)
  obtain ⟨w₁, hcreate, hpost⟩ := hcreate
  obtain ⟨w, hpost, hactive⟩ := (Option.any_eq_true _ _).1 hpost
  obtain ⟨a, hactive, hid⟩ := (Option.any_eq_true _ _).1 hactive
  have hstay : ∀ e ∈ [atZero (.createLocalSpan "in")],
      e.op.StaysIn (samplePropagation "t").parentTraceId := by
    simp [atZero, Op.StaysIn, Op.adopts?]
  have hnone : ∀ e ∈ ([] : List Event), e.op ≠ .dropContext := by simp
  have hiff := (capture_after_propagation_iff Base64Engine.strict_rfc4648 hdecode hnone rfl
    hcreate hstay hpost hactive).1
  exact ⟨w, a, hdecode, hactive, hiff.2 ⟨by decide, of_decide_eq_true hid⟩⟩

/-- A header whose trace id is empty is accepted and adopted; the snapshot is invalid, and no other
context goes on from it. -/
theorem capture_invalid_after_empty_trace :
    ∃ w a, decodePropagation .rfc4648 "1--c2Vn-0-c3Zj-aW5z-ZXA=-YWRk" =
        .ok (samplePropagation "") ∧
      (World.new "s" "i" (RandomGenerator.generate 7) (RandomGenerator.generate 8) none).step true
        (atZero (.createEntrySpanWithPropagation "op" (samplePropagation ""))) = some w ∧
      w.context.activeSpan = some a ∧ w.context.capture.isValid = false ∧
      ∀ c : TracingContext, c.continued w.context.capture = .ok () c := by
  have hdecode : decodePropagation .rfc4648 "1--c2Vn-0-c3Zj-aW5z-ZXA=-YWRk" =
      .ok (samplePropagation "") :=
    decode_samplePieces (by decide : _ = ['-'].intercalate (samplePieces []).toList) ⟨.nil, rfl⟩
  have hcreate : ∃ w, (World.new "s" "i" (RandomGenerator.generate 7)
      (RandomGenerator.generate 8) none).step true
        (atZero (.createEntrySpanWithPropagation "op" (samplePropagation ""))) = some w ∧
      (w.context.activeSpan.any fun _ => !w.context.capture.isValid) = true :=
    (Option.any_eq_true _ _).1 (by decide +kernel)
  obtain ⟨w, hcreate, hw⟩ := hcreate
  obtain ⟨a, hactive, hinvalid⟩ := (Option.any_eq_true _ _).1 hw
  have hinvalid : w.context.capture.isValid = false := by simpa using hinvalid
  exact ⟨w, a, hdecode, hcreate, hactive, hinvalid,
    fun c => TracingContext.continued_of_not_valid hinvalid⟩

end World

end SkywalkingAgent.Trace
