import SkywalkingAgent.Propagation.RoundTrip

/-!
# Header and snapshot

Two exports of the position under which a child goes on: the header for another process and the
snapshot for another thread. Both read the top of the stack. Without an active span the snapshot has
the id of no span; the header has to carry an id, and a negative one cannot be carried, so it has
the id zero. `World.header_snapshot` says where the two agree.
-/

set_option autoImplicit false

namespace SkywalkingAgent.Propagation

open SkywalkingAgent.Lib SkywalkingAgent.Common SkywalkingAgent.Trace

/-- The parent that an export names. -/
structure ParentPosition where
  traceId : String
  traceSegmentId : String
  spanId : Option Int
  deriving DecidableEq, Repr

/-- A negative id names no span. -/
def namedSpan (spanId : Int) : Option Int := if 0 ≤ spanId then some spanId else none

/-- The parent that a header names. -/
def PropagationContext.position (self : PropagationContext) : ParentPosition :=
  ⟨self.parentTraceId, self.parentTraceSegmentId, namedSpan self.parentSpanId⟩

/-! ## Headers with a negative id -/

/-- The minus sign of a negative id splits the header once more. -/
theorem split_header_neg {p₁ p₂ p₄ p₅ p₆ p₇ digits : String}
    (h : ∀ p ∈ pieces p₁ p₂ digits p₄ p₅ p₆ p₇, '-' ∉ p) :
    split (header p₁ p₂ ("-" ++ digits) p₄ p₅ p₆ p₇) =
      ["1", p₁, p₂, "", digits, p₄, p₅, p₆, p₇] := by
  have htext : (header p₁ p₂ ("-" ++ digits) p₄ p₅ p₆ p₇).toList = ['-'].intercalate
      [['1'], p₁.toList, p₂.toList, [], digits.toList, p₄.toList, p₅.toList, p₆.toList,
        p₇.toList] := by
    have hdash : "-".toList = ['-'] := rfl
    rw [toList_header]
    simp only [pieces, String.toList_append, hdash, List.intercalate, List.intersperse,
      List.flatten_cons, List.flatten_nil, List.append_nil, List.nil_append, List.cons_append]
  have hnine : ∀ p ∈ [['1'], p₁.toList, p₂.toList, [], digits.toList, p₄.toList, p₅.toList,
      p₆.toList, p₇.toList], '-' ∉ p := by
    simp only [pieces, List.forall_mem_cons, List.not_mem_nil, false_imp_iff, implies_true,
      and_true] at h ⊢
    obtain ⟨h₀, h₁, h₂, h₃, h₄, h₅, h₆, h₇⟩ := h
    exact ⟨h₀, h₁, h₂, not_false, h₃, h₄, h₅, h₆, h₇⟩
  rw [split, htext, List.splitOn_intercalate '-' hnine (by simp)]
  simp

/-- A header with a negative id does not decode. -/
theorem decode_encode_of_neg {base64 : Base64Engine} (hbase64 : base64.Standard)
    {context : TracingContext} (endpoint address : String) {i : Int}
    (hid : context.peekActiveSpanId = some i) (hneg : i < 0) :
    decodePropagation base64 (encodePropagation base64 context endpoint address) =
      .error (.decodePropagation
        "failed to parse propagation context: it must have 8 properties.") := by
  obtain ⟨n, rfl⟩ := Int.eq_negSucc_of_lt_zero hneg
  have hrepr : (Int.negSucc n).repr = "-" ++ ((n + 1 : Nat) : Int).repr := rfl
  have hcode := isCode_of_mem_pieces hbase64 (n := n + 1) context.traceId context.traceSegmentId
    context.service context.serviceInstance endpoint address
  have hdash : ∀ p ∈ pieces _ _ _ _ _ _ _, '-' ∉ p :=
    fun p hp hc => absurd (hcode p hp '-' hc) (by decide)
  rw [encodePropagation_eq, hid, Option.getD_some, hrepr]
  simp only [decodePropagation, split_header_neg hdash]
  rfl

end SkywalkingAgent.Propagation

namespace SkywalkingAgent.Trace

open SkywalkingAgent.Lib SkywalkingAgent.Common SkywalkingAgent.Propagation

/-- The parent that a snapshot names. -/
def ContextSnapshot.position (self : ContextSnapshot) : ParentPosition :=
  ⟨self.traceId, self.traceSegmentId, namedSpan self.spanId⟩

namespace TracingContext

variable {base64 : Base64Engine} {self : TracingContext}

/-- The id of a snapshot without an active span. -/
theorem capture_of_no_span (h : self.activeSpan = none) :
    self.capture.spanId = -1 ∧ self.capture.isValid = false := by
  have hid : self.capture.spanId = -1 := by
    show self.peekActiveSpanId.getD (-1) = -1
    rw [peekActiveSpanId, h]
    rfl
  refine ⟨hid, ?_⟩
  simp [ContextSnapshot.isValid, hid]

theorem header_of_no_span (self : TracingContext) (hbase64 : base64.Standard)
    (h : self.activeSpan = none)
    (endpoint address : String) :
    ∃ p, decodePropagation base64 (encodePropagation base64 self endpoint address) = .ok p ∧
      p.position = ⟨self.traceId, self.traceSegmentId, some 0⟩ := by
  have hid : self.peekActiveSpanId.getD 0 = ((0 : Nat) : Int) := by
    rw [peekActiveSpanId, h]
    rfl
  exact ⟨_, (decode_encode_of_spanId hbase64 endpoint address hid (by decide)).1, rfl⟩

/-- With a span of a fitting id, both exports have the id. -/
theorem header_of_span (hbase64 : base64.Standard) {a : ActiveSpan}
    (h : self.activeSpan = some a) (h0 : 0 ≤ a.spanId) (hlt : a.spanId < 2 ^ 31)
    (endpoint address : String) :
    ∃ p, decodePropagation base64 (encodePropagation base64 self endpoint address) = .ok p ∧
      p.position = ⟨self.traceId, self.traceSegmentId, some a.spanId⟩ := by
  obtain ⟨n, hn⟩ := Int.eq_ofNat_of_zero_le h0
  have hid : self.peekActiveSpanId.getD 0 = (n : Int) := by
    rw [peekActiveSpanId, h]
    exact hn
  refine ⟨_, (decode_encode_of_spanId hbase64 endpoint address hid (by omega)).1, ?_⟩
  rw [hn]
  exact congrArg (ParentPosition.mk self.traceId self.traceSegmentId)
    (if_pos (Int.natCast_nonneg n))

end TracingContext

namespace World

variable {overflowChecks : Bool} {serviceName instanceName traceId traceSegmentId : String}
  {tracer : WeakTracer} {w : World} {es : List Event}

/-- Before the first span a snapshot names no span, and the header decodes to the span id zero. -/
theorem header_names_span_zero :
    ∃ p, (World.new "s" "i" "t" "g" none).context.capture.isValid = false ∧
      (World.new "s" "i" "t" "g" none).context.capture.position = ⟨"t", "g", none⟩ ∧
      decodePropagation .rfc4648 (encodePropagation .rfc4648
        (World.new "s" "i" "t" "g" none).context "/api" "example.com:8080") = .ok p ∧
      p.position = ⟨"t", "g", some 0⟩ := by
  obtain ⟨p, hdecode, hposition⟩ := TracingContext.header_of_no_span
    (World.new "s" "i" "t" "g" none).context Base64Engine.standard_rfc4648 rfl "/api"
    "example.com:8080"
  exact ⟨p, (TracingContext.capture_of_no_span rfl).2, rfl, hdecode, hposition⟩

/-- In every state of a context with non-empty ids, caught panics before it included: under a span
whose id is not negative the snapshot is valid, and the header decodes to its position. Under a span
with a negative id, which no context with fewer than `2 ^ 31` spans has, the snapshot names no span
and the header does not decode. Without an active span the snapshot names no span, and the header
decodes to the trace and the segment of the snapshot with the span id zero. -/
theorem header_snapshot {base64 : Base64Engine} (hbase64 : base64.Standard)
    (hops : ∀ e ∈ es, e.op ≠ .dropContext)
    (hrun : Execution.run (World.after overflowChecks)
      (World.new serviceName instanceName traceId traceSegmentId tracer) es = some w)
    (htrace : w.context.traceId ≠ "") (hsegment : w.context.traceSegmentId ≠ "")
    (endpoint address : String) :
    (∀ a, w.context.activeSpan = some a → 0 ≤ a.spanId →
      w.context.capture.isValid = true ∧ w.context.capture.position.spanId = some a.spanId ∧
        ∃ p, decodePropagation base64 (encodePropagation base64 w.context endpoint address) =
          .ok p ∧ p.position = w.context.capture.position) ∧
    (∀ a, w.context.activeSpan = some a → a.spanId < 0 →
      2 ^ 31 ≤ w.handles.length ∧ w.context.capture.isValid = false ∧
        w.context.capture.position.spanId = none ∧
        ∀ p, decodePropagation base64 (encodePropagation base64 w.context endpoint address) ≠
          .ok p) ∧
    (w.context.activeSpan = none →
      w.context.capture.spanId = -1 ∧ w.context.capture.isValid = false ∧
        ∃ p, decodePropagation base64 (encodePropagation base64 w.context endpoint address) =
          .ok p ∧ p.position = { w.context.capture.position with spanId := some 0 }) := by
  have hw := run_numbered hops hrun
  have hcapture : ∀ a, w.context.activeSpan = some a → w.context.capture.spanId = a.spanId := by
    intro a ha
    show w.context.peekActiveSpanId.getD (-1) = a.spanId
    rw [TracingContext.peekActiveSpanId, ha]
    rfl
  refine ⟨fun a ha h0 => ?_, fun a ha hneg => ?_, fun hnone => ?_⟩
  · obtain ⟨k, -, hk⟩ := hw.active a.spanId
      (List.mem_map_of_mem (List.mem_of_getLast? ha))
    have hlt : a.spanId < 2 ^ 31 := hk ▸ wrapI32_lt _
    have hposition : w.context.capture.position =
        ⟨w.context.traceId, w.context.traceSegmentId, some a.spanId⟩ := by
      unfold ContextSnapshot.position namedSpan
      rw [hcapture a ha, if_pos h0]
      rfl
    refine ⟨?_, by rw [hposition], ?_⟩
    · have hfields : w.context.capture.traceSegmentId = w.context.traceSegmentId ∧
          w.context.capture.traceId = w.context.traceId := ⟨rfl, rfl⟩
      simp only [ContextSnapshot.isValid, hfields.1, hfields.2, hcapture a ha, ne_eq, htrace,
        hsegment, not_false_eq_true, decide_true, Bool.true_and, Bool.and_true, decide_eq_true_eq]
      omega
    · rw [hposition]
      exact TracingContext.header_of_span hbase64 ha h0 hlt endpoint address
  · have hpeek : w.context.peekActiveSpanId = some a.spanId := by
      rw [TracingContext.peekActiveSpanId, ha]
      rfl
    refine ⟨?_, ?_, ?_, ?_⟩
    · by_contra hlen
      -- the ids are the numbers of the spans until they wrap
      obtain ⟨k, -, hk⟩ := hw.peekActiveSpanId (Nat.lt_of_not_le hlen) hpeek
      omega
    · have hnot : ¬(a.spanId > -1) := by omega
      simp [ContextSnapshot.isValid, hcapture a ha, hnot]
    · show namedSpan w.context.capture.spanId = none
      rw [hcapture a ha, namedSpan, if_neg (by omega)]
    · intro p hp
      rw [decode_encode_of_neg hbase64 endpoint address hpeek hneg] at hp
      cases hp
  · obtain ⟨hid, hinvalid⟩ := TracingContext.capture_of_no_span hnone
    exact ⟨hid, hinvalid, TracingContext.header_of_no_span _ hbase64 hnone endpoint address⟩

/-- Under an entry span, and after it has ended. -/
theorem header_snapshot_sample :
    (∃ w a p, Execution.run (World.after true) (World.new "s" "i" "t" "g" none)
        [⟨fun _ => 0, .createEntrySpan "op"⟩] = some w ∧ w.context.activeSpan = some a ∧
      decodePropagation .rfc4648 (encodePropagation .rfc4648 w.context "" "") = .ok p ∧
      p.position = w.context.capture.position) ∧
    ∃ w p, Execution.run (World.after true) (World.new "s" "i" "t" "g" none)
        [⟨fun _ => 0, .createEntrySpan "op"⟩, ⟨fun _ => 0, .dropSpan 0⟩] = some w ∧
      w.context.capture.isValid = false ∧
      decodePropagation .rfc4648 (encodePropagation .rfc4648 w.context "" "") = .ok p ∧
      p.position = { w.context.capture.position with spanId := some 0 } := by
  constructor
  · have hrun : ∃ w, Execution.run (World.after true) (World.new "s" "i" "t" "g" none)
        [⟨fun _ => 0, .createEntrySpan "op"⟩] = some w ∧
        decide (w.context.traceId ≠ "" ∧ w.context.traceSegmentId ≠ "" ∧
          w.context.activeSpan = some ⟨0, 0, none⟩) = true :=
      (Option.any_eq_true _ _).1 (by decide +kernel)
    obtain ⟨w, hrun, hw⟩ := hrun
    obtain ⟨htrace, hsegment, hactive⟩ := of_decide_eq_true hw
    obtain ⟨-, -, p, hdecode, hposition⟩ := (header_snapshot Base64Engine.standard_rfc4648
      (by decide) hrun htrace hsegment "" "").1 _ hactive (by decide)
    exact ⟨w, _, p, hrun, hactive, hdecode, hposition⟩
  · have hrun : ∃ w, Execution.run (World.after true) (World.new "s" "i" "t" "g" none)
        [⟨fun _ => 0, .createEntrySpan "op"⟩, ⟨fun _ => 0, .dropSpan 0⟩] = some w ∧
        decide (w.context.traceId ≠ "" ∧ w.context.traceSegmentId ≠ "" ∧
          w.context.activeSpan = none) = true :=
      (Option.any_eq_true _ _).1 (by decide +kernel)
    obtain ⟨w, hrun, hw⟩ := hrun
    obtain ⟨htrace, hsegment, hnone⟩ := of_decide_eq_true hw
    obtain ⟨-, hinvalid, p, hdecode, hposition⟩ := (header_snapshot Base64Engine.standard_rfc4648
      (by decide) hrun htrace hsegment "" "").2.2 hnone
    exact ⟨w, p, hrun, hinvalid, hdecode, hposition⟩

end World

end SkywalkingAgent.Trace
