import SkywalkingAgent.Trace.Links
import SkywalkingAgent.Trace.Panics

/-!
# Dropping a context with open spans

A `Span` owns the stack together with its context and can outlive it. Dropping the context takes the
finalized spans and asks nothing about the active ones, so the segment can miss a span that is the
parent of others, and the object of a span that is closed later goes nowhere. `reported_closed`
says that this does not happen when no span is active at the drop, and that it always does
otherwise.
-/

set_option autoImplicit false

namespace SkywalkingAgent.Trace

open SkywalkingAgent.Lib SkywalkingAgent.Common SkywalkingAgent.Proto
open SkywalkingAgent.Propagation SkywalkingAgent.Reporter

/-- Every parent id in the segment is the id of another span of it. -/
def ParentsClosed (seg : SegmentObject) : Prop :=
  ∀ (i : Nat) (s : SpanObject), seg.spans[i]? = some s → 0 ≤ s.parentSpanId →
    ∃ (j : Nat) (t : SpanObject), j ≠ i ∧ seg.spans[j]? = some t ∧ t.spanId = s.parentSpanId

/-! ## The segment of a ledger with open spans -/

namespace Ledger

variable {L : Ledger} {es : List Event}

/-- When no object is missing, every closed span has ended and is reported with its record. -/
theorem takeObjects_eq {spans : List SpanObject}
    (h : TracingContext.takeObjects (L.order.map L.finalized) = some spans) :
    spans = L.order.map fun k => (L.record k).obj := by
  rw [TracingContext.takeObjects_eq_some_iff, List.map_map] at h
  have hobj : ∀ k ∈ L.order, (L.finalized k).obj = some (L.record k).obj := by
    intro k hk
    have hmem : (L.finalized k).obj ∈ spans.map some := h ▸ List.mem_map_of_mem hk
    unfold finalized at hmem ⊢
    split at hmem
    · next hended => rw [if_pos hended]
    · obtain ⟨obj, -, hnone⟩ := List.mem_map.1 hmem
      cases hnone
  have hinj : Function.Injective (some : SpanObject → Option SpanObject) :=
    fun a b hab => Option.some.inj hab
  apply List.map_injective_iff.2 hinj
  rw [← h, List.map_map]
  exact List.map_congr_left hobj

/-- A reported object has the ids of its span. -/
theorem reported_ids (hL : L.Valid) (hR : L.Recorded es) {i : Nat} {s : SpanObject}
    (h : (L.order.map fun k => (L.record k).obj)[i]? = some s) :
    ∃ k, L.order[i]? = some k ∧ k < L.count ∧ s.spanId = wrapI32 (k : Nat) ∧
      s.parentSpanId = parentId (L.record k).parent := by
  rw [List.getElem?_map, Option.map_eq_some_iff] at h
  obtain ⟨k, hk, rfl⟩ := h
  have hlt : k < L.count := hL.mem_iff.1 (Or.inr (List.mem_of_getElem? hk))
  have hspan := hR.span k _ (List.getElem?_eq_getElem (hR.count ▸ hlt))
  exact ⟨k, hk, hlt, hspan.spanId, hspan.parentSpanId⟩

/-- With no span open, every parent is reported. -/
theorem parentsClosed_of_stack_nil (hL : L.Valid) (hR : L.Recorded es) (hC : L.Chained)
    (hstack : L.stack = []) {seg : SegmentObject}
    (hseg : seg.spans = L.order.map fun k => (L.record k).obj) : ParentsClosed seg := by
  intro i s hs hparent
  rw [hseg] at hs ⊢
  obtain ⟨k, hk, hlt, -, hpid⟩ := reported_ids hL hR hs
  cases hp : (L.record k).parent with
  | none =>
    rw [hpid, hp, parentId, Option.map_none, Option.getD_none] at hparent
    exact absurd hparent (by decide)
  | some p =>
    -- the parent is older, and as nothing is open it has been closed
    have hpk : p < k := hC.older k hlt p hp
    have hmem : p ∈ L.order := by
      rcases hL.mem_iff.2 (Nat.lt_trans hpk hlt) with hopen | hclosed
      · rw [hstack] at hopen
        cases hopen
      · exact hclosed
    obtain ⟨j, hj⟩ := List.mem_iff_getElem?.1 hmem
    have hjobj : (L.order.map fun k => (L.record k).obj)[j]? = some (L.record p).obj := by
      rw [List.getElem?_map, hj]
      rfl
    refine ⟨j, _, ?_, hjobj, ?_⟩
    · rintro rfl
      rw [hk, Option.some.injEq] at hj
      omega
    · obtain ⟨p', hp', -, hid, -⟩ := reported_ids hL hR hjobj
      rw [hj, Option.some.injEq] at hp'
      rw [hid, ← hp', hpid, hp, parentId, Option.map_some, Option.getD_some]

/-- The open spans are ordered by age. -/
theorem Chained.le_innermost (hL : L.Valid) (hC : L.Chained) {c k : Nat} (hc : c ∈ L.stack)
    (hk : L.innermost = some k) : c ≤ k := by
  have hchain : L.stack.IsChain (· < ·) := by
    refine hC.stack.imp_of_mem_imp fun a b _ hb hab => ?_
    exact hC.older b (hL.mem_iff.1 (Or.inl hb)) a hab
  obtain ⟨hsplit, -⟩ := hL.split_innermost hk
  rw [hsplit] at hc
  rcases List.mem_append.1 hc with hc | hc
  · have hpairs := List.isChain_iff_pairwise.1 hchain
    rw [hsplit, List.pairwise_append] at hpairs
    exact Nat.le_of_lt (hpairs.2.2 c hc k List.mem_cons_self)
  · rw [List.mem_singleton] at hc
    exact Nat.le_of_eq hc

/-- No open span is reported, as long as the ids are distinct. -/
theorem not_reported_of_innermost (hL : L.Valid) (hR : L.Recorded es) (hn : L.count ≤ 2 ^ 31)
    {k : Nat} (hk : L.innermost = some k) {s : SpanObject}
    (hs : s ∈ L.order.map fun k => (L.record k).obj) : s.spanId ≠ wrapI32 (k : Nat) := by
  obtain ⟨-, hlt, -, hclosed⟩ := hL.split_innermost hk
  obtain ⟨i, hi⟩ := List.mem_iff_getElem?.1 hs
  obtain ⟨j, hj, hjlt, hid, -⟩ := reported_ids hL hR hi
  rw [hid, wrapI32_natCast (by omega), wrapI32_natCast (by omega)]
  intro heq
  have hjk : j = k := by omega
  exact hclosed (hjk ▸ List.mem_of_getElem? hj)

end Ledger

namespace World

variable {overflowChecks : Bool} {w w' : World} {e : Event} {es : List Event}

/-- In some continuation of the program the handle of the span `k`, of either kind, is dropped
without a panic. -/
def ClosedLater (overflowChecks : Bool) (w : World) (k : Nat) : Prop :=
  ∃ es w₁ clock, Execution.run (World.after overflowChecks) w es = some w₁ ∧
    ((w₁.step overflowChecks ⟨clock, .dropSpan k⟩).isSome ∨
      (w₁.step overflowChecks ⟨clock, .dropAsyncSpan k⟩).isSome)

/-- No span whose handle is closed later is missing from the segment. -/
def NoneMissing (overflowChecks : Bool) (w : World) (seg : SegmentObject) : Prop :=
  ∀ k, ClosedLater overflowChecks w k → ∃ s ∈ seg.spans, s.spanId = wrapI32 (k : Nat)

/-! ## A dropped context without open spans -/

/-- The context is gone, and both vectors are empty. -/
structure Emptied (w : World) : Prop where
  alive : w.contextAlive = false
  stack : w.context.spanStack = ⟨[], []⟩

/-- Nothing can be closed any more. -/
theorem Emptied.drop_panic (h : w.Emptied) (clock : Clock) (s : Span) :
    s.drop clock w.context.spanStack =
      .panic "Finalize span isn't the active span" w.context.spanStack := by
  rw [h.stack]
  rfl

theorem Emptied.asyncDrop_panic (overflowChecks : Bool) (h : w.Emptied) (clock : Clock)
    (a : AsyncSpan) :
    ∃ m, a.drop overflowChecks clock w.stackAlive w.context.spanStack w.context.wg =
      .panic m (w.context.spanStack, w.context.wg) := by
  unfold AsyncSpan.drop AsyncSpan.fill
  rw [h.stack]
  cases w.stackAlive with
  | false => exact ⟨_, rfl⟩
  | true =>
    cases a.obj with
    | none => exact ⟨_, rfl⟩
    | some obj => exact ⟨_, rfl⟩

theorem Emptied.step_dropSpan (h : w.Emptied) (clock : Clock) (k : Nat) :
    w.step overflowChecks ⟨clock, .dropSpan k⟩ = none := by
  simp only [step, call, dropSpan]
  split
  · rw [h.drop_panic]
    rfl
  · rfl

theorem Emptied.step_dropAsyncSpan (h : w.Emptied) (clock : Clock) (k : Nat) :
    w.step overflowChecks ⟨clock, .dropAsyncSpan k⟩ = none := by
  simp only [step, call, dropAsyncSpan]
  split
  · next a _ =>
    obtain ⟨m, hdrop⟩ := h.asyncDrop_panic overflowChecks clock a
    rw [hdrop]
    rfl
  · rfl

theorem emptied_after (h : w.Emptied) (hafter : w.after overflowChecks e = some w') :
    w'.Emptied := by
  obtain ⟨o, hcall, ho⟩ := after_eq_some_iff.1 hafter
  have halive := h.alive
  have hmodify : ∀ {k f}, w.modifyObject k f = some o → w'.Emptied := by
    intro k f hmodify
    rcases modifyObject_cases hmodify ho with ⟨x, x', -, -, rfl⟩ | rfl
    · exact ⟨h.alive, h.stack⟩
    · exact h
  obtain ⟨clock, op⟩ := e
  cases op with
  | addTag k key value => exact hmodify hcall
  | addLog k message => exact hmodify hcall
  | dropSpan k =>
    obtain ⟨s, stack, -, rfl, ⟨-, hdrop⟩ | ⟨rfl, -⟩⟩ := dropSpan_cases hcall ho
    · rw [h.drop_panic] at hdrop
      cases hdrop
    · exact ⟨h.alive, h.stack⟩
  | prepareForAsync k =>
    obtain ⟨s, a, shared, -, hprepare, -⟩ := prepareForAsync_cases hcall ho
    -- no span is active, and the drop while unwinding panics again
    have habort : ∃ m, s.prepareForAsync clock w.context.spanStack w.context.wg = .abort m := by
      unfold Span.prepareForAsync Span.isActiveSpan
      rw [h.drop_panic, h.stack]
      exact ⟨_, rfl⟩
    obtain ⟨m, habort⟩ := habort
    rw [habort] at hprepare
    cases hprepare
  | dropAsyncSpan k =>
    obtain ⟨a, shared, -, rfl, hdrop⟩ := dropAsyncSpan_cases hcall ho
    obtain ⟨m, hpanic⟩ := h.asyncDrop_panic overflowChecks clock a
    rw [hpanic] at hdrop
    rcases hdrop with hdrop | ⟨m', hdrop⟩
    · cases hdrop
    · obtain ⟨-, rfl⟩ := Outcome.panic.inj hdrop
      exact ⟨h.alive, h.stack⟩
  | dropTracer =>
    obtain rfl := Option.some.inj hcall
    obtain rfl := Outcome.eq_of_ok ho
    exact ⟨h.alive, h.stack⟩
  | _ => simp [call, halive] at hcall

theorem Emptied.not_closedLater (h : w.Emptied) (k : Nat) : ¬ClosedLater overflowChecks w k := by
  rintro ⟨es, w₁, clock, hrun, hclosed⟩
  have h₁ : w₁.Emptied := Execution.run_invariant h (fun _ _ _ => emptied_after) hrun
  rw [h₁.step_dropSpan, h₁.step_dropAsyncSpan] at hclosed
  simp at hclosed

/-! ## The segment of any drop -/

/-- A drop that reports leaves the active stack and the handles alone and takes the finalized
spans. -/
theorem exists_of_dropContext {clock : Clock} {seg : SegmentObject} (hreported : w.reported = [])
    (hdrop : w.after overflowChecks ⟨clock, .dropContext⟩ = some w')
    (hseg : .trace seg ∈ w'.reported) :
    TracingContext.takeObjects w.context.spanStack.finalized = some seg.spans ∧
      w'.contextAlive = false ∧ w'.context.spanStack = ⟨[], w.context.spanStack.active⟩ ∧
      w'.handles = w.handles := by
  rcases after_dropContext hdrop with ⟨item, c, hcontext, rfl⟩ | hsame
  · obtain ⟨-, spans, hspans, rfl, rfl⟩ := TracingContext.drop_eq_ok_iff.1 hcontext
    simp only [hreported, List.nil_append, List.mem_singleton, CollectItem.trace.injEq] at hseg
    rw [hseg]
    exact ⟨hspans, rfl, rfl, rfl⟩
  · -- a drop that panics reports nothing
    rw [hsame, hreported] at hseg
    cases hseg

variable {base : TracingContext} {L : Ledger} {lost : Nat → Bool}

/-- The innermost span that still has its handle can be closed after the drop. -/
theorem closedLater_of_innermost (h : Behind base es L lost w) {k : Nat}
    (hk : L.innermost = some k) (hlost : lost k = false)
    (hactive : w'.context.spanStack.active = w.context.spanStack.active)
    (hhandles : w'.handles = w.handles) : ClosedLater overflowChecks w' k := by
  obtain ⟨hsplit, hlt, -, -⟩ := h.valid.split_innermost hk
  have hopened : (L.record k).phase = .opened := h.valid.opened k (hsplit ▸ List.mem_concat_self)
  have hhandle : w'.handles[k]? = some (.span ⟨k, some (L.record k).obj⟩) := by
    rw [hhandles, h.eq, getElem?_hide (by simp)]
    exact ⟨hlost, Ledger.toWorld_handles.2 ⟨hlt, Ledger.handle_eq_span_iff.2 ⟨hopened, rfl⟩⟩⟩
  have htop : w'.context.spanStack.active = L.stack.dropLast.map L.active ++ [L.active k] := by
    rw [hactive, h.eq, hide_context]
    show L.stack.map L.active = _
    rw [hsplit]
    simp
  have hdrop : Span.drop (fun _ => 0) ⟨k, some (L.record k).obj⟩ w'.context.spanStack =
      .ok () _ := SpanStack.finalizeSpan_eq_ok_iff.2 ⟨_, _, htop, rfl, rfl⟩
  refine ⟨[], w', fun _ => 0, rfl, Or.inl ?_⟩
  simp only [step, call, dropSpan, hhandle, hdrop]
  rfl

/-- After any run, caught panics included, the drop of the context reports a segment. When no span
is active at that moment, every parent in the segment is another span of it and no span that is
closed later is missing; and when a span is active, one of the two fails, as long as the ids of the
spans have not wrapped. -/
theorem reported_closed {serviceName instanceName traceId traceSegmentId : String}
    {tracer : WeakTracer} {clock : Clock} {seg : SegmentObject}
    (hops : ∀ e ∈ es, e.op ≠ .dropContext)
    (hrun : Execution.run (World.after overflowChecks)
      (World.new serviceName instanceName traceId traceSegmentId tracer) es = some w)
    (hdrop : w.after overflowChecks ⟨clock, .dropContext⟩ = some w')
    (hseg : .trace seg ∈ w'.reported) :
    (w.context.activeSpan = none → ParentsClosed seg ∧ NoneMissing overflowChecks w' seg) ∧
    (w.handles.length ≤ 2 ^ 31 → ParentsClosed seg ∧ NoneMissing overflowChecks w' seg →
      w.context.activeSpan = none) := by
  obtain ⟨L, lost, h⟩ := run_behind hops hrun
  have hreported : w.reported = [] := by rw [h.eq]; rfl
  obtain ⟨hspans, hdead, hstack', hhandles⟩ := exists_of_dropContext hreported hdrop hseg
  have hstack : w.context.spanStack = ⟨L.order.map L.finalized, L.stack.map L.active⟩ := by
    rw [h.eq]
    rfl
  have hactive : w.context.activeSpan = none ↔ L.stack = [] := by
    rw [TracingContext.activeSpan, hstack, List.getLast?_eq_none_iff, List.map_eq_nil_iff]
  rw [hstack] at hspans hstack'
  have hobjs := Ledger.takeObjects_eq hspans
  rw [hactive]
  constructor
  · intro hnil
    have hemptied : w'.Emptied := ⟨hdead, by rw [hstack', hnil]; rfl⟩
    exact ⟨Ledger.parentsClosed_of_stack_nil h.valid h.recorded h.chained hnil hobjs,
      fun k hk => absurd hk (hemptied.not_closedLater k)⟩
  · rintro hn ⟨hclosed, hnone⟩
    have hcount : w.handles.length = L.count := by
      rw [h.eq]
      simp [hide, Ledger.toWorld]
    by_contra hne
    obtain ⟨k, hk⟩ : ∃ k, L.innermost = some k := Option.isSome_iff_exists.1 (by
      simpa [Ledger.innermost] using hne)
    have hmissing := fun s =>
      Ledger.not_reported_of_innermost (s := s) h.valid h.recorded (hcount ▸ hn) hk
    rw [← hobjs] at hmissing
    cases hlost : lost k with
    | false =>
      -- the handle is still there, and dropping it returns
      have hlater : ClosedLater overflowChecks w' k :=
        closedLater_of_innermost h hk hlost (by rw [hstack', hstack]) hhandles
      obtain ⟨s, hs, hid⟩ := hnone k hlater
      exact hmissing s hs hid
    | true =>
      -- the handle was lost while a child was active, which has been closed since
      obtain ⟨c, hc, hparent⟩ := h.child k hlost
      have hkc : k < c := h.chained.older c hc k hparent
      have hmem : c ∈ L.order := by
        rcases h.valid.mem_iff.2 hc with hopen | hclosed
        · have hle := h.chained.le_innermost h.valid hopen hk
          omega
        · exact hclosed
      obtain ⟨i, hi⟩ := List.mem_iff_getElem?.1 hmem
      have hiobj : seg.spans[i]? = some (L.record c).obj := by
        rw [hobjs, List.getElem?_map, hi]
        rfl
      obtain ⟨c', hc', -, -, hpid⟩ :=
        Ledger.reported_ids h.valid h.recorded (hobjs ▸ hiobj)
      rw [hi, Option.some.injEq] at hc'
      rw [← hc', hparent, Ledger.parentId, Option.map_some, Option.getD_some] at hpid
      have hnonneg : 0 ≤ (L.record c).obj.parentSpanId := by
        rw [hpid, wrapI32_natCast (by omega)]
        omega
      obtain ⟨j, t, -, ht, hid⟩ := hclosed i _ hiobj hnonneg
      exact hmissing t (List.mem_of_getElem? ht) (hid.trans hpid)

/-- The segment of two nested spans, the inner one closed first. -/
def nestedSegment : SegmentObject where
  traceId := "t"
  traceSegmentId := "g"
  spans := [Span.newObj (fun _ => 0) 1 0 "b" "" .localSpan .unknown false,
    Span.newObj (fun _ => 0) 0 (-1) "a" "" .entry .http false]
  service := "s"
  serviceInstance := "i"
  isSizeLimited := false

/-- Two nested spans that both end before the context. -/
theorem reported_closed_nested :
    ∃ w w' seg, Execution.run (World.after true) sampleWorld
        [atZero (.createEntrySpan "a"), atZero (.createLocalSpan "b"), atZero (.dropSpan 1),
          atZero (.dropSpan 0)] = some w ∧
      w.after true (atZero .dropContext) = some w' ∧ .trace seg ∈ w'.reported ∧
      ParentsClosed seg ∧ NoneMissing true w' seg := by
  have hrun : ∃ w, Execution.run (World.after true) sampleWorld
      [atZero (.createEntrySpan "a"), atZero (.createLocalSpan "b"), atZero (.dropSpan 1),
        atZero (.dropSpan 0)] = some w ∧
      (decide (w.context.activeSpan = none) && (w.after true (atZero .dropContext)).any fun w' =>
        decide (.trace nestedSegment ∈ w'.reported)) = true :=
    (Option.any_eq_true _ _).1 (by decide +kernel)
  obtain ⟨w, hrun, hw⟩ := hrun
  rw [Bool.and_eq_true] at hw
  obtain ⟨w', hdrop, hreported⟩ := (Option.any_eq_true _ _).1 hw.2
  have hmem := of_decide_eq_true hreported
  exact ⟨w, w', nestedSegment, hrun, hdrop, hmem,
    (reported_closed (by decide) hrun hdrop hmem).1 (of_decide_eq_true hw.1)⟩

/-- The segment of two nested spans whose outer one is still active. -/
def childSegment : SegmentObject where
  traceId := "t"
  traceSegmentId := "g"
  spans := [Span.newObj (fun _ => 0) 1 0 "b" "" .localSpan .unknown false]
  service := "s"
  serviceInstance := "i"
  isSizeLimited := false

/-- The inner span is reported without its parent, which can be closed after the context. -/
theorem reported_child_without_parent :
    ∃ w w', Execution.run (World.after true) sampleWorld
        [atZero (.createEntrySpan "a"), atZero (.createLocalSpan "b"), atZero (.dropSpan 1)] =
          some w ∧
      w.after true (atZero .dropContext) = some w' ∧ .trace childSegment ∈ w'.reported ∧
      ¬ParentsClosed childSegment ∧ ¬NoneMissing true w' childSegment := by
  have hrun : ∃ w, Execution.run (World.after true) sampleWorld
      [atZero (.createEntrySpan "a"), atZero (.createLocalSpan "b"), atZero (.dropSpan 1)] =
        some w ∧
      ((w.after true (atZero .dropContext)).any fun w' =>
        decide (.trace childSegment ∈ w'.reported) &&
          (w'.step true (atZero (.dropSpan 0))).isSome) = true :=
    (Option.any_eq_true _ _).1 (by decide +kernel)
  obtain ⟨w, hrun, hdrop⟩ := hrun
  obtain ⟨w', hdrop, hw'⟩ := (Option.any_eq_true _ _).1 hdrop
  rw [Bool.and_eq_true] at hw'
  refine ⟨w, w', hrun, hdrop, of_decide_eq_true hw'.1, fun hclosed => ?_, fun hnone => ?_⟩
  · -- the list has no second span
    obtain ⟨j, t, hj, ht, -⟩ := hclosed 0 _ rfl (by decide)
    have hlt := (List.getElem?_eq_some_iff.1 ht).1
    simp only [childSegment, List.length_singleton] at hlt
    omega
  · obtain ⟨s, hs, hid⟩ := hnone 0 ⟨[], w', _, rfl, Or.inl hw'.2⟩
    rw [childSegment, List.mem_singleton] at hs
    rw [hs, wrapI32_natCast (by decide)] at hid
    exact absurd hid (by decide)

end World

end SkywalkingAgent.Trace
