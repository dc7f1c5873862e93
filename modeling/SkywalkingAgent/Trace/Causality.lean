import SkywalkingAgent.Trace.Ancestry
import SkywalkingAgent.Trace.Closure
import SkywalkingAgent.Trace.SelfLinks
import Mathlib.Logic.Relation

/-!
# No span is its own ancestor

The segments of a family of contexts make one graph: a span is below its parent in the segment and
below the spans of other segments that its references name. Within a segment a parent is created
before its child. A header makes a reference on a span that the same call creates, so its span is
older too; `continued` makes one on a span that is there already, so the graph has no cycle only
where that span is younger than the snapshot (`World.ancestors_acyclic`). Two contexts that continue
from one another report a cycle (`World.continued_from_each_other`).
-/

set_option autoImplicit false

namespace SkywalkingAgent.Trace

open SkywalkingAgent.Lib SkywalkingAgent.Common SkywalkingAgent.Proto
open SkywalkingAgent.Propagation SkywalkingAgent.Reporter

/-- The reference that a call creates its span with. -/
theorem Op.eq_propagationRef {op : Op} {c : Creation} {ref : SegmentReference}
    (hc : op.creation? = some c) (href : ref ∈ c.refs) :
    ∃ operationName propagation, op = .createEntrySpanWithPropagation operationName propagation ∧
      ref = TracingContext.propagationRef propagation := by
  cases op with
  | createEntrySpanWithPropagation operationName propagation =>
    obtain rfl := (Option.some.inj hc).symm
    exact ⟨operationName, propagation, rfl, List.mem_singleton.1 href⟩
  | createEntrySpan | createExitSpan | createLocalSpan =>
    obtain rfl := (Option.some.inj hc).symm
    cases href
  | _ => cases hc

namespace World

/-! ## Where a reference comes from -/

/-- The call, made in the world `w`, brings the reference onto the span `k`. -/
inductive Imports (w : World) (k : Nat) (ref : SegmentReference) : Op → Prop where
  | header (operationName : String) (propagation : PropagationContext)
      (count : w.handles.length = k) (eq : ref = TracingContext.propagationRef propagation) :
      Imports w k ref (.createEntrySpanWithPropagation operationName propagation)
  | snapshot (captured : ContextSnapshot) (tracer : Tracer) (valid : captured.isValid = true)
      (innermost : w.innermost = some k) (eq : ref = TracingContext.snapshotRef tracer captured) :
      Imports w k ref (.continued captured)

/-- One of the calls has brought the reference onto the span `k`, and the context into its trace. -/
def ImportedIn (overflowChecks : Bool) (w₀ : World) (es : List Event) (k : Nat)
    (ref : SegmentReference) : Prop :=
  ∃ pre e post w w', es = pre ++ e :: post ∧
    Execution.run (after overflowChecks) w₀ pre = some w ∧ w.after overflowChecks e = some w' ∧
    w.Imports k ref e.op ∧ w'.context.traceId = ref.traceId

/-- A call adopts the trace of the reference that it brings. -/
theorem Imports.adopts {w : World} {k : Nat} {ref : SegmentReference} {op : Op}
    (h : w.Imports k ref op) : op.adopts? = some ref.traceId := by
  cases h with
  | header operationName propagation count eq =>
    rw [eq]
    rfl
  | snapshot captured tracer valid innermost eq =>
    rw [eq]
    exact if_pos valid

/-- What the call imports. -/
theorem Imports.exists_export {w : World} {k : Nat} {ref : SegmentReference} {op : Op}
    (h : w.Imports k ref op) : ∃ x : Export, x.ImportedBy op ∧
      ∀ captured, x = .snapshot captured → captured.isValid = true := by
  cases h with
  | header operationName propagation count eq =>
    exact ⟨.header propagation, .header _ _, by simp⟩
  | snapshot captured tracer valid innermost eq =>
    refine ⟨.snapshot captured, .snapshot _, ?_⟩
    intro captured' heq
    obtain rfl := Export.snapshot.inj heq
    exact valid

/-- The span that gets the reference is created by the call, or is the innermost one. -/
theorem Imports.target {w : World} {k : Nat} {ref : SegmentReference} {op : Op}
    (h : w.Imports k ref op) :
    w.handles.length = k ∨ w.importTarget op = some (k, .crossThread) := by
  cases h with
  | header operationName propagation count eq => exact Or.inl count
  | snapshot captured tracer valid innermost eq =>
    right
    rw [importTarget, innermost, Option.map_some]

/-- The reference has the position of what the call imports. -/
theorem Imports.position {w : World} {k : Nat} {ref : SegmentReference} {op : Op} {x : Export}
    (h : w.Imports k ref op) (hx : x.ImportedBy op) :
    (∀ data, x ≠ .log data) ∧
      x.position = some ⟨ref.traceId, ref.parentTraceSegmentId, ref.parentSpanId⟩ := by
  cases h with
  | header operationName propagation count eq =>
    cases hx
    rw [eq]
    exact ⟨by simp, rfl⟩
  | snapshot captured tracer valid innermost eq =>
    cases hx
    rw [eq]
    exact ⟨by simp, rfl⟩

/-- The span `k` was created with the reference, or has it parked. -/
def Bears (cs : List Event) (L : Ledger) (k : Nat) (ref : SegmentReference) : Prop :=
  (∃ c, (creations cs)[k]? = some c ∧ ref ∈ c.refs) ∨ (L.record k).parked = some ref

variable {overflowChecks : Bool} {w₀ w w' : World} {e : Event} {es cs : List Event}
  {base : TracingContext} {L L' : Ledger} {lost : Nat → Bool} {k : Nat} {ref : SegmentReference}

theorem ImportedIn.append (h : ImportedIn overflowChecks w₀ es k ref) (fs : List Event) :
    ImportedIn overflowChecks w₀ (es ++ fs) k ref := by
  obtain ⟨pre, e, post, w, w', rfl, hrest⟩ := h
  exact ⟨pre, e, post ++ fs, w, w', by simp, hrest⟩

/-- The references of the ended spans are those that they bear. -/
theorem Behind.bears_of_ended (h : Behind base cs L lost w) (hk : k < L.count)
    (hended : (L.record k).phase = .ended) (href : ref ∈ (L.record k).obj.refs) :
    Bears cs L k ref := by
  have hlt : k < (creations cs).length := h.recorded.count ▸ hk
  have hget := List.getElem?_eq_getElem hlt
  rw [(h.recorded.span k _ hget).refs, if_pos hended, List.mem_append, Option.mem_toList] at href
  rcases href with hcreated | hparked
  · exact Or.inl ⟨_, hget, hcreated⟩
  · exact Or.inr hparked

theorem Behind.handles_length (h : Behind base cs L lost w) : w.handles.length = L.count := by
  rw [h.eq]
  simp [hide, Ledger.toWorld]

theorem Behind.innermost_eq (h : Behind base cs L lost w) : w.innermost = L.innermost := by
  rw [h.eq]
  exact Ledger.innermost_toWorld

/-- What a span bears after a call that returns, it bore before or the call has brought. -/
theorem Behind.bears_step (h : Behind base cs L lost w) (hstep : L.step e = some L')
    (hk : k < L'.count) (hbears : Bears (cs ++ [e]) L' k ref) :
    (k < L.count ∧ Bears cs L k ref) ∨ w.Imports k ref e.op := by
  obtain ⟨clock, op⟩ := e
  rcases hbears with ⟨c, hc, href⟩ | hparked
  · rw [creations_append] at hc
    by_cases hold : k < (creations cs).length
    · rw [List.getElem?_append_left hold] at hc
      exact Or.inl ⟨h.recorded.count ▸ hold, Or.inl ⟨c, hc, href⟩⟩
    · -- the span is the one that the call creates
      rw [List.getElem?_append_right (Nat.le_of_not_lt hold)] at hc
      cases hcreate : op.creation? with
      | none => simp [creations, hcreate] at hc
      | some c' =>
        have hone : creations [⟨clock, op⟩] = [c'] := by simp [creations, hcreate]
        rw [hone, List.getElem?_singleton, Option.ite_none_right_eq_some] at hc
        obtain ⟨hzero, hc⟩ := hc
        obtain rfl := Option.some.inj hc
        obtain ⟨operationName, propagation, rfl, rfl⟩ := Op.eq_propagationRef hcreate href
        refine Or.inr (.header operationName propagation ?_ rfl)
        have hcount := h.recorded.count
        rw [h.handles_length]
        omega
  · by_cases hold : k < L.count
    · rw [(Ledger.step_effect hstep).frame.parked k hold] at hparked
      cases hlink : op.link? k L.innermost with
      | none =>
        rw [hlink, Option.bind_none, Option.none_or] at hparked
        exact Or.inl ⟨hold, Or.inr hparked⟩
      | some snapshot =>
        obtain ⟨rfl, hin⟩ := Ledger.eq_continued_of_link hlink
        rw [hlink, Option.bind_some] at hparked
        cases htracer : L.tracer with
        | none =>
          rw [htracer, Option.map_none, Option.none_or] at hparked
          exact Or.inl ⟨hold, Or.inr hparked⟩
        | some tracer =>
          rw [htracer, Option.map_some, Option.some_or, Option.some.injEq] at hparked
          have hvalid : snapshot.isValid = true := by
            by_contra hinvalid
            simp [Op.link?, hinvalid] at hlink
          exact Or.inr (.snapshot snapshot tracer hvalid (h.innermost_eq.trans hin) hparked.symm)
    · -- a span is created with nothing parked on it
      cases Ledger.step_effect hstep with
      | opened _ hcount _ _ _ hnone _ =>
        obtain rfl : k = L.count := by omega
        rw [hnone] at hparked
        cases hparked
      | closed _ _ _ hcount => omega
      | kept _ hcount => omega

/-! ## The segments of a context -/

/-- A reported span: a span of the context, below an older one if it has a parent, whose references
were all brought onto it. -/
structure Rooted (overflowChecks : Bool) (w₀ : World) (es : List Event) (n k : Nat)
    (obj : SpanObject) : Prop where
  lt : k < n
  spanId : obj.spanId = wrapI32 (k : Nat)
  parent : ∃ parent : Option Nat, obj.parentSpanId = Ledger.parentId parent ∧
    ∀ p, parent = some p → p < k
  refs : ∀ ref ∈ obj.refs, ImportedIn overflowChecks w₀ es k ref

theorem Rooted.append {n : Nat} {obj : SpanObject} (h : Rooted overflowChecks w₀ es n k obj)
    (fs : List Event) : Rooted overflowChecks w₀ (es ++ fs) n k obj :=
  { h with refs := fun ref href => (h.refs ref href).append fs }

/-- A context while it lives, and its segments after its drop. -/
inductive Traced (overflowChecks : Bool) (w₀ : World) (es : List Event) (w : World) : Prop where
  | living (base : TracingContext) (cs : List Event) (L : Ledger) (lost : Nat → Bool)
      (behind : Behind base cs L lost w)
      (bears : ∀ k < L.count, ∀ ref, Bears cs L k ref → ImportedIn overflowChecks w₀ es k ref)
  | dropped (alive : w.contextAlive = false)
      (rooted : ∀ seg, .trace seg ∈ w.reported → ∀ obj ∈ seg.spans,
        ∃ k, Rooted overflowChecks w₀ es w.handles.length k obj)

/-- The drop of a context, also one that panics, leaves it dropped with its handles. -/
theorem dropped_of_dropContext {clock : Clock}
    (h : w.after overflowChecks ⟨clock, .dropContext⟩ = some w') :
    w'.contextAlive = false ∧ w'.handles = w.handles := by
  obtain ⟨o, hcall, ho⟩ := after_eq_some_iff.1 h
  replace hcall := of_contextAlive hcall
  obtain rfl := Option.some.inj hcall
  unfold dropContext at ho
  split at ho
  · obtain rfl := Outcome.eq_of_ok ho
    exact ⟨rfl, rfl⟩
  · rcases ho with ho | ⟨m, ho⟩
    · cases ho
    · obtain ⟨-, rfl⟩ := Outcome.panic.inj ho
      exact ⟨rfl, rfl⟩
  · rcases ho with ho | ⟨m, ho⟩
    · cases ho
    · cases ho

/-- A finalized list that is reported has no placeholder. -/
theorem ended_of_takeObjects {spans : List SpanObject}
    (h : TracingContext.takeObjects (L.order.map L.finalized) = some spans) (hk : k ∈ L.order) :
    (L.record k).phase = .ended := by
  rw [TracingContext.takeObjects_eq_some_iff, List.map_map] at h
  have hmem : (L.finalized k).obj ∈ spans.map some := h ▸ List.mem_map_of_mem hk
  obtain ⟨obj, -, hobj⟩ := List.mem_map.1 hmem
  by_contra hnot
  rw [Ledger.finalized, if_neg hnot] at hobj
  cases hobj

/-- The drop of a living context. -/
theorem Traced.dropContext {clock : Clock} (h : Behind base cs L lost w)
    (hbears : ∀ k < L.count, ∀ ref, Bears cs L k ref → ImportedIn overflowChecks w₀ es k ref)
    (hstep : w.after overflowChecks ⟨clock, .dropContext⟩ = some w') :
    Traced overflowChecks w₀ (es ++ [⟨clock, .dropContext⟩]) w' := by
  obtain ⟨halive, hhandles⟩ := dropped_of_dropContext hstep
  refine .dropped halive fun seg hseg obj hobj => ?_
  have hreported : w.reported = [] := by
    rw [h.eq]
    rfl
  obtain ⟨hspans, -⟩ := exists_of_dropContext hreported hstep hseg
  rw [h.eq] at hspans
  have hended := fun k => ended_of_takeObjects (k := k) hspans
  rw [Ledger.takeObjects_eq hspans] at hobj
  obtain ⟨k, hk, rfl⟩ := List.mem_map.1 hobj
  have hlt : k < L.count := h.valid.mem_iff.1 (Or.inr hk)
  have hspan := h.recorded.span k _ (List.getElem?_eq_getElem (h.recorded.count ▸ hlt))
  refine ⟨k, ?_, hspan.spanId, ⟨_, hspan.parentSpanId, h.chained.older k hlt⟩, ?_⟩
  · rw [hhandles, h.handles_length]
    exact hlt
  · intro ref href
    exact (hbears k hlt ref (h.bears_of_ended hlt (hended k hk) href)).append _

/-- One call, returned or panicked. -/
theorem Traced.after (h : Traced overflowChecks w₀ es w)
    (hrun : Execution.run (World.after overflowChecks) w₀ es = some w)
    (hstep : w.after overflowChecks e = some w') :
    Traced overflowChecks w₀ (es ++ [e]) w' := by
  cases h with
  | living base cs L lost behind bears =>
    by_cases hop : e.op = .dropContext
    · obtain ⟨clock, op⟩ := e
      obtain rfl : op = .dropContext := hop
      exact Traced.dropContext behind bears hstep
    · obtain ⟨o, hcall, rfl | ⟨m, rfl⟩⟩ := after_eq_some_iff.1 hstep
      · obtain ⟨L', hL', behind'⟩ := behind.step_ledger hop (step_eq_some_iff.2 hcall)
        refine .living base (cs ++ [e]) L' lost behind' fun k hk ref href => ?_
        rcases behind.bears_step hL' hk href with ⟨hold, hbears⟩ | himport
        · exact (bears k hold ref hbears).append [e]
        · refine ⟨es, e, [], w, w', rfl, hrun, hstep, himport, ?_⟩
          have htrace := (Ledger.step_effect hL').frame.traceId
          rw [himport.adopts] at htrace
          rw [behind'.eq]
          exact htrace
      · obtain ⟨L', lost', hcount, hrecord, behind'⟩ := behind.panic_ledger hop hcall
        refine .living base cs L' lost' behind' fun k hk ref href => ?_
        rw [hcount] at hk
        rw [Bears, hrecord] at href
        exact (bears k hk ref href).append [e]
  | dropped alive rooted =>
    have hop : e.op ≠ .dropContext := by
      intro hop
      obtain ⟨clock, op⟩ := e
      obtain rfl : op = .dropContext := hop
      simp [World.after, call, alive] at hstep
    have hframe := sameFrame_after hop hstep
    have hcreate : e.op.creation? = none := by
      by_contra hsome
      have := alive_of_creation (Option.isSome_iff_ne_none.2 hsome) hstep
      rw [alive] at this
      cases this
    refine .dropped (hframe.alive.trans alive) fun seg hseg obj hobj => ?_
    rw [hframe.reported] at hseg
    obtain ⟨k, hk⟩ := rooted seg hseg obj hobj
    rw [hframe.count hcreate]
    exact ⟨k, hk.append [e]⟩

/-- A context along any run, caught panics included. -/
theorem run_traced (origin : Origin)
    (hrun : Execution.run (World.after overflowChecks) origin.world es = some w) :
    Traced overflowChecks origin.world es w := by
  have hboth : Execution.run (World.after overflowChecks) origin.world es = some w ∧
      Traced overflowChecks origin.world es w := by
    refine Execution.run_history (I := fun es w =>
      Execution.run (World.after overflowChecks) origin.world es = some w ∧
        Traced overflowChecks origin.world es w) ⟨rfl, ?_⟩ ?_ hrun
    · exact .living _ [] _ _ (behind_new _ _ _ _ _) fun k hk => absurd hk (Nat.not_lt_zero k)
    · rintro es a b e ⟨ha, htraced⟩ hstep
      exact ⟨Execution.run_concat_iff.2 ⟨a, ha, hstep⟩, htraced.after ha hstep⟩
  exact hboth.2

/-- A call creates one span at most. -/
theorem count_after (hstep : w.after overflowChecks e = some w') :
    w.handles.length ≤ w'.handles.length ∧ w'.handles.length ≤ w.handles.length + 1 := by
  by_cases hop : e.op = .dropContext
  · obtain ⟨clock, op⟩ := e
    obtain rfl : op = .dropContext := hop
    rw [(dropped_of_dropContext hstep).2]
    exact ⟨Nat.le_refl _, Nat.le_succ _⟩
  · cases after_effect hop hstep with
    | created obj next alive handles =>
      rw [handles, List.length_append]
      exact ⟨Nat.le_add_right _ _, Nat.le_refl _⟩
    | edited h x x' handle edited eq => simp [eq, setHandle]
    | dropped h span stack handle drop eq => simp [eq, setHandle, setShared]
    | prepared h span a shared op handle prepare eq => simp [eq, setHandle, setShared]
    | asyncDropped h shared op active eq => simp [eq, setHandle, setShared]
    | lost h span handle eq => simp [eq, setHandle, setShared]
    | kept handles =>
      rw [handles]
      exact ⟨Nat.le_refl _, Nat.le_succ _⟩

/-! ## The graph of the segments -/

/-- The span with the position `x` is directly below the one with the position `p`. -/
inductive ParentOf (segs : SegmentObject → Prop) : String × Int → String × Int → Prop where
  | parent (seg : SegmentObject) (mem : segs seg) (obj : SpanObject) (object : obj ∈ seg.spans)
      (nested : 0 ≤ obj.parentSpanId) :
      ParentOf segs (seg.traceSegmentId, obj.parentSpanId) (seg.traceSegmentId, obj.spanId)
  | reference (seg : SegmentObject) (mem : segs seg) (obj : SpanObject) (object : obj ∈ seg.spans)
      (ref : SegmentReference) (refers : ref ∈ obj.refs) :
      ParentOf segs (ref.parentTraceSegmentId, ref.parentSpanId) (seg.traceSegmentId, obj.spanId)

theorem ParentOf.mono {segs segs' : SegmentObject → Prop} {p x : String × Int}
    (hmono : ∀ seg, segs seg → segs' seg) (h : ParentOf segs p x) : ParentOf segs' p x := by
  cases h with
  | parent seg mem obj object nested => exact .parent seg (hmono seg mem) obj object nested
  | reference seg mem obj object ref refers =>
    exact .reference seg (hmono seg mem) obj object ref refers

section Family

variable {ι : Type} [DecidableEq ι] {origin : ι → Origin} {events : List (ι × Event)}
  {s : ι → World}

/-- What the contexts of a family have reported. -/
def ReportedBy (s : ι → World) (seg : SegmentObject) : Prop := ∃ i, .trace seg ∈ (s i).reported

/-- The position of a span of the family. -/
def node (origin : ι → Origin) (x : ι × Nat) : String × Int :=
  ((origin x.1).traceSegmentId, (x.2 : Nat))

omit [DecidableEq ι] in
theorem node_injective
    (hids : ∀ i j, (origin i).traceSegmentId = (origin j).traceSegmentId → i = j) {a b : ι × Nat}
    (hab : node origin a = node origin b) : a = b := by
  obtain ⟨hsegment, hspan⟩ := Prod.mk.inj hab
  exact Prod.ext (hids a.1 b.1 hsegment) (Int.natCast_inj.1 hspan)

/-- The span has been created. -/
def Created (x : ι × Nat) (s : ι → World) : Prop := x.2 < (s x.1).handles.length

/-- The span `x` is created in the run while `y` is not there yet. -/
def CreatedBefore (overflowChecks : Bool) (origin : ι → Origin) (events : List (ι × Event)) :
    ι × Nat → ι × Nat → Prop :=
  Execution.Before (Execution.interleave (after overflowChecks)) Created
    (fun i => (origin i).world) events

/-- The context `i` has exported `x` in the calls `pre`, while it lived; and if the call `e` of the
context `j` links a span to `x` that was there before the call, the export was earlier than this
span. -/
def SentBefore (base64 : Base64Engine) (overflowChecks : Bool) (origin : ι → Origin)
    (pre : List (ι × Event)) (s : ι → World) (i : ι) (x : Export) (j : ι) (e : Event) : Prop :=
  ∃ sent mid s₀ k, pre = sent ++ mid ∧
    afterAll overflowChecks (fun i => (origin i).world) sent = some s₀ ∧
    (s₀ i).contextAlive = true ∧ (s₀ i).Exports base64 k x ∧
    ∀ k', (s j).importTarget e.op = some (k', .crossThread) → (s₀ j).handles.length ≤ k'

/-- Every position in the family that a call imports was sent before. -/
def Causal (base64 : Base64Engine) (overflowChecks : Bool) (origin : ι → Origin)
    (events : List (ι × Event)) : Prop :=
  ∀ pre j e post s x position i, events = pre ++ (j, e) :: post →
    afterAll overflowChecks (fun i => (origin i).world) pre = some s → x.ImportedBy e.op →
    (∀ captured, x = .snapshot captured → captured.isValid = true) →
    x.position = some position → position.traceSegmentId = (origin i).traceSegmentId →
    SentBefore base64 overflowChecks origin pre s i x j e

/-- Spans stay. -/
theorem created_stable (x : ι × Nat) (a b : ι → World) (e : ι × Event) (ha : Created x a)
    (hstep : Execution.interleave (World.after overflowChecks) a e = some b) : Created x b := by
  obtain ⟨t, ht, rfl⟩ := Option.map_eq_some_iff.1 hstep
  by_cases hx : x.1 = e.1
  · rw [Created, hx, Function.update_self]
    rw [Created, hx] at ha
    exact Nat.lt_of_lt_of_le ha (count_after ht).1
  · rw [Created, Function.update_of_ne hx]
    exact ha

/-- Between two states of the run spans are only added. -/
theorem count_le_of_run {a b : ι → World} (hrun : afterAll overflowChecks a events = some b)
    (i : ι) : (a i).handles.length ≤ (b i).handles.length := by
  refine Execution.run_invariant
    (I := fun c : ι → World => (a i).handles.length ≤ (c i).handles.length) (Nat.le_refl _) ?_ hrun
  intro c d e hc hstep
  obtain ⟨t, ht, rfl⟩ := Option.map_eq_some_iff.1 hstep
  by_cases hi : i = e.1
  · rw [hi, Function.update_self]
    rw [hi] at hc
    exact Nat.le_trans hc (count_after ht).1
  · rw [Function.update_of_ne hi]
    exact hc

/-- In a context, an older span is created before. -/
theorem createdBefore_of_lt
    (hrun : afterAll overflowChecks (fun i => (origin i).world) events = some s) {i : ι} {p k : Nat}
    (hp : p < k) (hk : k < (s i).handles.length) :
    CreatedBefore overflowChecks origin events (i, p) (i, k) := by
  have hstep : ∀ (a b : ι → World) (e : ι × Event),
      Execution.interleave (World.after overflowChecks) a e = some b →
      (b i).handles.length ≤ (a i).handles.length + 1 := by
    intro a b e hab
    obtain ⟨t, ht, rfl⟩ := Option.map_eq_some_iff.1 hab
    by_cases hi : i = e.1
    · rw [hi, Function.update_self]
      exact (count_after ht).2
    · rw [Function.update_of_ne hi]
      exact Nat.le_succ _
  obtain ⟨pre, e, post, a, b, hsplit, hpre, ha, -, -, -⟩ :=
    Execution.run_crossing (f := fun a : ι → World => (a i).handles.length) hstep hrun
      (n := k) (Nat.zero_le k) hk
  refine ⟨pre, e :: post, a, hsplit, hpre, ?_, ?_⟩
  · exact hp.trans_eq ha.symm
  · exact fun hlt => Nat.lt_irrefl k (hlt.trans_eq ha)

/-- An export of a living context has the position of one of its spans. -/
theorem position_of_sent {base64 : Base64Engine} (hbase64 : base64.Standard)
    (hrun : afterAll overflowChecks (fun i => (origin i).world) events = some s) {i : ι}
    (halive : (s i).contextAlive = true) (hn : (s i).handles.length < 2 ^ 31) {k : Nat} {x : Export}
    (hx : (s i).Exports base64 k x) (hlog : ∀ data, x ≠ .log data) :
    k < (s i).handles.length ∧
      x.position = some ⟨(s i).context.traceId, (origin i).traceSegmentId, (k : Nat)⟩ := by
  cases run_traced (origin i) (Execution.run_interleave_component i hrun) with
  | dropped hdead => rw [halive] at hdead; cases hdead
  | living base cs L lost behind bears =>
    have hsegment := (run_segmentIds hrun i).1
    rw [behind.handles_length] at hn ⊢
    rw [behind.eq] at hx hsegment ⊢
    -- headers and snapshots do not look at the handles
    have hledger : (L.toWorld base).Exports base64 k x := by
      cases hx with
      | header endpoint address propagation hin hdecode =>
        exact .header endpoint address propagation hin hdecode
      | snapshot hin => exact .snapshot hin
      | log clock serviceName instanceName blank record span span' handle build =>
        exact absurd rfl (hlog _)
    obtain ⟨hk, hposition⟩ :=
      Ledger.position_of_exports hbase64 behind.valid behind.recorded hn hledger
    refine ⟨hk, ?_⟩
    rw [hposition, ← hsegment]
    rfl

/-- What is imported onto a span from the family was created before it. -/
theorem createdBefore_of_import {base64 : Base64Engine} (hbase64 : base64.Standard)
    (hrun : afterAll overflowChecks (fun i => (origin i).world) events = some s)
    (hn : ∀ i, (s i).handles.length < 2 ^ 31)
    (hcausal : Causal base64 overflowChecks origin events) {i j : ι} {k : Nat}
    {ref : SegmentReference}
    (himport : ImportedIn overflowChecks (origin j).world (Execution.component j events) k ref)
    (hsegment : ref.parentTraceSegmentId = (origin i).traceSegmentId) :
    ∃ p : Nat, ref.parentSpanId = (p : Nat) ∧
      CreatedBefore overflowChecks origin events (i, p) (j, k) := by
  obtain ⟨pre, e, post, w, -, hsplit, hw, -, himports, -⟩ := himport
  obtain ⟨before, later, rfl, rfl⟩ := Execution.component_eq_append_cons hsplit
  obtain ⟨s₁, hs₁, hrest⟩ := Execution.run_append_iff.1 hrun
  obtain rfl := Option.some.inj (hw.symm.trans (Execution.run_interleave_component j hs₁))
  obtain ⟨x, himported, hvalid⟩ := himports.exists_export
  obtain ⟨hlog, hposition⟩ := himports.position himported
  obtain ⟨sent, mid, s₀, p, rfl, hs₀, halive, hx, hyoung⟩ :=
    hcausal before j e later s₁ x _ i rfl hs₁ himported hvalid hposition hsegment
  obtain ⟨s₀', hs₀', hmid⟩ := Execution.run_append_iff.1 hs₁
  obtain rfl := Option.some.inj (hs₀.symm.trans hs₀')
  have hlater : afterAll overflowChecks s₀ (mid ++ (j, e) :: later) = some s :=
    Execution.run_append_iff.2 ⟨s₁, hmid, hrest⟩
  have hle := count_le_of_run hlater i
  obtain ⟨hp, hposition'⟩ := position_of_sent hbase64 hs₀ halive
    (Nat.lt_of_le_of_lt hle (hn i)) hx hlog
  have hspan := congrArg TraceContext.spanId (Option.some.inj (hposition.symm.trans hposition'))
  refine ⟨p, hspan, sent, mid ++ (j, e) :: later, s₀, by simp, hs₀, hp, ?_⟩
  -- the span `k` was not there when the position was sent
  rcases himports.target with hcount | htarget
  · have hgrown := count_le_of_run hmid j
    exact Nat.not_lt.2 (hcount ▸ hgrown)
  · exact Nat.not_lt.2 (hyoung k htarget)

/-- A reported span is a span of its context. -/
theorem rooted_of_reported
    (hrun : afterAll overflowChecks (fun i => (origin i).world) events = some s)
    (hn : ∀ i, (s i).handles.length < 2 ^ 31) {i : ι} {seg : SegmentObject}
    (hseg : .trace seg ∈ (s i).reported) {obj : SpanObject} (hobj : obj ∈ seg.spans) :
    seg.traceSegmentId = (origin i).traceSegmentId ∧ ∃ k : Nat, obj.spanId = (k : Nat) ∧
      Rooted overflowChecks (origin i).world (Execution.component i events)
        (s i).handles.length k obj := by
  refine ⟨(run_segmentIds hrun i).2 seg hseg, ?_⟩
  cases run_traced (origin i) (Execution.run_interleave_component i hrun) with
  | living base cs L lost behind bears =>
    rw [behind.eq] at hseg
    cases hseg
  | dropped alive rooted =>
    obtain ⟨k, hk⟩ := rooted seg hseg obj hobj
    exact ⟨k, hk.spanId.trans (wrapI32_natCast (Nat.lt_trans hk.lt (hn i))), hk⟩

/-- The spans above a reported one: of the family and older, or of no context of the family. -/
theorem createdBefore_of_parentOf {base64 : Base64Engine} (hbase64 : base64.Standard)
    (hrun : afterAll overflowChecks (fun i => (origin i).world) events = some s)
    (hn : ∀ i, (s i).handles.length < 2 ^ 31)
    (hcausal : Causal base64 overflowChecks origin events) {p x : String × Int}
    (hparent : ParentOf (ReportedBy s) p x) :
    ∃ b, x = node origin b ∧ ((∃ a, p = node origin a ∧
      CreatedBefore overflowChecks origin events a b) ∨ ∀ a, p ≠ node origin a) := by
  cases hparent with
  | parent seg mem obj object nested =>
    obtain ⟨i, hseg⟩ := mem
    obtain ⟨hsegment, k, hid, hk⟩ := rooted_of_reported hrun hn hseg object
    refine ⟨(i, k), by rw [node, hsegment, hid], Or.inl ?_⟩
    obtain ⟨parent, hparent, holder⟩ := hk.parent
    cases parent with
    | none =>
      rw [hparent, Ledger.parentId, Option.map_none, Option.getD_none] at nested
      exact absurd nested (by decide)
    | some p =>
      have hpk := holder p rfl
      refine ⟨(i, p), ?_, createdBefore_of_lt hrun hpk hk.lt⟩
      have hlt : p < 2 ^ 31 := Nat.lt_trans (Nat.lt_trans hpk hk.lt) (hn i)
      rw [node, hsegment, hparent, Ledger.parentId, Option.map_some, Option.getD_some,
        wrapI32_natCast hlt]
  | reference seg mem obj object ref refers =>
    obtain ⟨j, hseg⟩ := mem
    obtain ⟨hsegment, k, hid, hk⟩ := rooted_of_reported hrun hn hseg object
    refine ⟨(j, k), by rw [node, hsegment, hid], ?_⟩
    by_cases hfamily : ∃ i, ref.parentTraceSegmentId = (origin i).traceSegmentId
    · obtain ⟨i, hi⟩ := hfamily
      obtain ⟨p, hp, hbefore⟩ :=
        createdBefore_of_import hbase64 hrun hn hcausal (hk.refs ref refers) hi
      exact Or.inl ⟨(i, p), by rw [node, hi, hp], hbefore⟩
    · refine Or.inr fun a ha => hfamily ⟨a.1, ?_⟩
      exact congrArg Prod.fst ha

/-- A path of such steps ends in the family, and starts outside or at an older span. -/
theorem createdBefore_of_path {base64 : Base64Engine} (hbase64 : base64.Standard)
    (hids : ∀ i j, (origin i).traceSegmentId = (origin j).traceSegmentId → i = j)
    (hrun : afterAll overflowChecks (fun i => (origin i).world) events = some s)
    (hn : ∀ i, (s i).handles.length < 2 ^ 31)
    (hcausal : Causal base64 overflowChecks origin events) {p x : String × Int}
    (hpath : Relation.TransGen (ParentOf (ReportedBy s)) p x) :
    ∃ b, x = node origin b ∧ ((∃ a, p = node origin a ∧
      CreatedBefore overflowChecks origin events a b) ∨ ∀ a, p ≠ node origin a) := by
  induction hpath with
  | single hparent => exact createdBefore_of_parentOf hbase64 hrun hn hcausal hparent
  | tail _ hparent ih =>
    obtain ⟨b, rfl, hb⟩ := ih
    obtain ⟨c, hc, ⟨b', hb', hbefore⟩ | hforeign⟩ :=
      createdBefore_of_parentOf hbase64 hrun hn hcausal hparent
    · obtain rfl := node_injective hids hb'
      refine ⟨c, hc, hb.imp ?_ id⟩
      rintro ⟨a, ha, hab⟩
      exact ⟨a, ha, hab.trans created_stable hbefore⟩
    · exact absurd rfl (hforeign b)

theorem not_path_self {base64 : Base64Engine} (hbase64 : base64.Standard)
    (hids : ∀ i j, (origin i).traceSegmentId = (origin j).traceSegmentId → i = j)
    (hrun : afterAll overflowChecks (fun i => (origin i).world) events = some s)
    (hn : ∀ i, (s i).handles.length < 2 ^ 31)
    (hcausal : Causal base64 overflowChecks origin events) (x : String × Int) :
    ¬Relation.TransGen (ParentOf (ReportedBy s)) x x := by
  intro hx
  obtain ⟨b, rfl, ⟨a, ha, hbefore⟩ | hforeign⟩ :=
    createdBefore_of_path hbase64 hids hrun hn hcausal hx
  · obtain rfl := node_injective hids ha
    exact absurd hbefore Execution.Before.irrefl
  · exact absurd rfl (hforeign b)

/-- In every interleaved run of a family of contexts with distinct segment ids and less than
`2 ^ 31` spans each, caught panics included, in which what is imported from the family was sent
before, by a living context with a span active, and is continued on spans younger than the snapshot
only: along the parents and the references of the reported segments, an ancestor of the family was
created before its descendant, and no span is its own ancestor. -/
theorem ancestors_acyclic {base64 : Base64Engine} (hbase64 : base64.Standard)
    (hids : ∀ i j, (origin i).traceSegmentId = (origin j).traceSegmentId → i = j)
    (hrun : afterAll overflowChecks (fun i => (origin i).world) events = some s)
    (hn : ∀ i, (s i).handles.length < 2 ^ 31)
    (hcausal : Causal base64 overflowChecks origin events) :
    (∀ a b, Relation.TransGen (ParentOf (ReportedBy s)) (node origin a) (node origin b) →
      CreatedBefore overflowChecks origin events a b) ∧
    ∀ x, ¬Relation.TransGen (ParentOf (ReportedBy s)) x x := by
  refine ⟨?_, not_path_self hbase64 hids hrun hn hcausal⟩
  intro a b hab
  obtain ⟨b', hb', ⟨a', ha', hbefore⟩ | hforeign⟩ :=
    createdBefore_of_path hbase64 hids hrun hn hcausal hab
  · obtain rfl := node_injective hids ha'
    obtain rfl := node_injective hids hb'
    exact hbefore
  · exact absurd rfl (hforeign a)

end Family

/-- Whether an item is a segment with the id `y` in which the span `0` refers to the span `0` of the
segment `x`. -/
def refersToRoot (x y : String) : CollectItem → Bool
  | .trace seg => decide (seg.traceSegmentId = y) && seg.spans.any fun obj =>
      decide (obj.spanId = 0) && obj.refs.any fun ref =>
        decide (ref.parentTraceSegmentId = x ∧ ref.parentSpanId = 0)
  | _ => false

theorem parentOf_of_refersToRoot {s : Bool → World} {i : Bool} {x y : String}
    (h : (s i).reported.any (refersToRoot x y) = true) :
    ParentOf (ReportedBy s) (x, 0) (y, 0) := by
  obtain ⟨item, hitem, href⟩ := List.any_eq_true.1 h
  cases item with
  | trace seg =>
    simp only [refersToRoot, Bool.and_eq_true, decide_eq_true_eq, List.any_eq_true] at href
    obtain ⟨rfl, obj, hobj, hid, ref, href, rfl, hspan⟩ := href
    have hreported : ReportedBy s seg := ⟨i, hitem⟩
    have hparent := ParentOf.reference seg hreported obj hobj ref href
    rw [hid, hspan] at hparent
    exact hparent
  | _ => cases href

/-- One call of the pair imports. -/
theorem pair_split {pre post : List (Bool × Event)} {j : Bool} {e : Event} {x : Export}
    (hsplit : pairBefore ++ pairAfter = pre ++ (j, e) :: post) (himport : x.ImportedBy e.op) :
    pre = pairBefore ++ pairMid ∧ j = true ∧ e = atZero (.continued pairSnapshot) ∧
      post = pairRest := by
  have hlt : pre.length < 7 := by
    have := congrArg List.length hsplit
    simp [pairBefore, pairAfter, pairMid, pairRest] at this
    omega
  have hget : (pairBefore ++ pairAfter)[pre.length]? = some (j, e) := by rw [hsplit]; simp
  have htake : pre = (pairBefore ++ pairAfter).take pre.length := by rw [hsplit]; simp
  have hdrop : post = (pairBefore ++ pairAfter).drop (pre.length + 1) := by rw [hsplit]; simp
  have hlength : pre.length = 2 := by
    generalize pre.length = n at hlt hget
    by_contra hne
    have : n = 0 ∨ n = 1 ∨ n = 3 ∨ n = 4 ∨ n = 5 ∨ n = 6 := by omega
    rcases this with rfl | rfl | rfl | rfl | rfl | rfl <;>
      · obtain ⟨rfl, rfl⟩ := Prod.mk.inj (Option.some.inj hget)
        cases himport
  rw [hlength] at hget htake hdrop
  obtain ⟨rfl, rfl⟩ := Prod.mk.inj (Option.some.inj hget)
  exact ⟨htake, rfl, rfl, hdrop⟩

/-- The second context of the pair imports what the first one has sent before the span was there. -/
theorem causal_pair : Causal .rfc4648 true pairOrigin (pairBefore ++ pairAfter) := by
  intro pre j e post s x position i hsplit hs himport hvalid hposition hsegment
  obtain ⟨rfl, rfl, rfl, rfl⟩ := pair_split hsplit himport
  cases himport
  obtain rfl := Option.some.inj hposition
  obtain rfl : i = false := by
    cases i with
    | true => exact absurd hsegment (by decide)
    | false => rfl
  have hsent : (afterAll true (fun i => (pairOrigin i).world) pairBefore).any fun s₀ =>
      (s₀ false).contextAlive && decide ((s₀ false).innermost = some 0 ∧
        (s₀ false).context.capture = pairSnapshot ∧ (s₀ true).handles.length = 0) := by
    decide +kernel
  obtain ⟨s₀, hs₀, hall⟩ := (Option.any_eq_true _ _).1 hsent
  obtain ⟨halive, hrest⟩ := Bool.and_eq_true_iff.1 hall
  obtain ⟨hin, hcapture, hnone⟩ := of_decide_eq_true hrest
  refine ⟨pairBefore, pairMid, s₀, 0, rfl, hs₀, halive, ?_, fun k' _ => ?_⟩
  · rw [← hcapture]
    exact .snapshot hin
  · rw [hnone]
    exact Nat.zero_le k'

theorem ancestors_acyclic_pair :
    ∃ s, afterAll true (fun i => (pairOrigin i).world) (pairBefore ++ pairAfter) = some s ∧
      Relation.TransGen (ParentOf (ReportedBy s)) (node pairOrigin (false, 0))
        (node pairOrigin (true, 0)) ∧
      CreatedBefore true pairOrigin (pairBefore ++ pairAfter) (false, 0) (true, 0) ∧
      ∀ x, ¬Relation.TransGen (ParentOf (ReportedBy s)) x x := by
  have hrun : (afterAll true (fun i => (pairOrigin i).world) (pairBefore ++ pairAfter)).any
      fun s => decide ((s true).handles.length = 1 ∧ (s false).handles.length = 1) &&
        (s true).reported.any (refersToRoot "g1" "g2") := by
    decide +kernel
  obtain ⟨s, hrun, hall⟩ := (Option.any_eq_true _ _).1 hrun
  obtain ⟨hcount, hrefers⟩ := Bool.and_eq_true_iff.1 hall
  obtain ⟨htrue, hfalse⟩ := of_decide_eq_true hcount
  have hn : ∀ i, (s i).handles.length < 2 ^ 31 := by
    intro i
    cases i with
    | true => rw [htrue]; decide
    | false => rw [hfalse]; decide
  obtain ⟨hbefore, hacyclic⟩ := ancestors_acyclic Base64Engine.standard_rfc4648 (by decide) hrun hn
    causal_pair
  have hedge := Relation.TransGen.single (parentOf_of_refersToRoot hrefers)
  exact ⟨s, hrun, hedge, hbefore (false, 0) (true, 0) hedge, hacyclic⟩

/-- Each context of the pair takes a snapshot before either continues from that of the other, and
both snapshots are continued on spans that are there already: the reported spans are each other's
parents. -/
theorem continued_from_each_other :
    ∃ s₁ s, afterAll true (fun i => (pairOrigin i).world) (pairBefore ++ pairMid) = some s₁ ∧
      afterAll true s₁ ((true, atZero (.continued (s₁ false).context.capture)) ::
        (false, atZero (.continued (s₁ true).context.capture)) :: pairRest) = some s ∧
      Relation.TransGen (ParentOf (ReportedBy s)) ("g1", 0) ("g1", 0) := by
  have hrun : (afterAll true (fun i => (pairOrigin i).world) (pairBefore ++ pairMid)).any fun s₁ =>
      (afterAll true s₁ ((true, atZero (.continued (s₁ false).context.capture)) ::
        (false, atZero (.continued (s₁ true).context.capture)) :: pairRest)).any fun s =>
          (s true).reported.any (refersToRoot "g1" "g2") &&
            (s false).reported.any (refersToRoot "g2" "g1") := by
    decide +kernel
  obtain ⟨s₁, hs₁, hrest⟩ := (Option.any_eq_true _ _).1 hrun
  obtain ⟨s, hs, hall⟩ := (Option.any_eq_true _ _).1 hrest
  obtain ⟨hdown, hup⟩ := Bool.and_eq_true_iff.1 hall
  exact ⟨s₁, s, hs₁, hs, .tail (.single (parentOf_of_refersToRoot hdown))
    (parentOf_of_refersToRoot hup)⟩

end World

end SkywalkingAgent.Trace
