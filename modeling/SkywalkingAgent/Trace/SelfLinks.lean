import SkywalkingAgent.Trace.Panics
import SkywalkingAgent.Trace.Positions

/-!
# References and where they come from

A context holds references in five places: on its active spans and on placeholders, where
`continued` has parked them, in the objects of ended spans, in the objects behind the handles, and
in what it has reported. Whatever a call does, also when it panics, a reference that is there
afterwards was there before, or leads to another process, or is that of a snapshot which the call
continues (`World.holds_after`).

`continued` does not ask whether the snapshot is from its own context; `World.no_self_link_iff`
says for which runs this makes no difference.
-/

set_option autoImplicit false

namespace SkywalkingAgent.Trace

open SkywalkingAgent.Lib SkywalkingAgent.Common SkywalkingAgent.Proto
open SkywalkingAgent.Propagation SkywalkingAgent.Reporter

/-- The span object behind a handle. -/
def Handle.object? : Handle → Option SpanObject
  | .span handle => handle.obj
  | .asyncSpan handle => handle.obj
  | .closed => none

/-- The stack holds the reference. -/
inductive SpanStack.Holds (self : SpanStack) (ref : SegmentReference) : Prop where
  | parked (a : ActiveSpan) (mem : a ∈ self.active) (eq : a.ref = some ref)
  | waiting (f : FinalizeSpan) (mem : f ∈ self.finalized) (eq : f.ref = some ref)
  | ended (f : FinalizeSpan) (mem : f ∈ self.finalized) (obj : SpanObject)
    (object : f.obj = some obj) (eq : ref ∈ obj.refs)

/-- The context, its handles or its reports hold the reference. -/
inductive World.Holds (w : World) (ref : SegmentReference) : Prop where
  | stack (holds : w.context.spanStack.Holds ref)
  | handle (x : Handle) (mem : x ∈ w.handles) (obj : SpanObject) (object : x.object? = some obj)
      (eq : ref ∈ obj.refs)
  | reported (seg : SegmentObject) (mem : .trace seg ∈ w.reported) (obj : SpanObject)
      (object : obj ∈ seg.spans) (eq : ref ∈ obj.refs)

/-- The references that a call can bring in. -/
def Op.Brings (op : Op) (ref : SegmentReference) : Prop :=
  ref.refType = .crossProcess ∨ ∃ snapshot tracer, op = .continued snapshot ∧
    snapshot.isValid = true ∧ ref = TracingContext.snapshotRef tracer snapshot

namespace SpanStack

variable {clock : Clock} {uid : SpanUid} {stack t : SpanStack} {ref : SegmentReference}

/-- Closing a span moves references about. -/
theorem holds_finalizeSpan {obj : Option SpanObject}
    (h : finalizeSpan clock stack uid obj = .ok () t) (href : t.Holds ref) :
    stack.Holds ref ∨ ∃ o, obj = some o ∧ ref ∈ o.refs := by
  obtain ⟨s, a, hactive, -, rfl⟩ := finalizeSpan_eq_ok_iff.1 h
  have hmem : a ∈ stack.active := by rw [hactive]; exact List.mem_concat_self
  have hentry : ∀ f ∈ stack.finalized ++ [closedEntry clock a obj],
      f ∈ stack.finalized ∨ f = closedEntry clock a obj := by
    intro f hf
    exact (List.mem_append.1 hf).imp_right List.mem_singleton.1
  cases href with
  | parked b hb heq =>
    left
    exact .parked b (by rw [hactive]; exact List.mem_append_left _ hb) heq
  | waiting f hf heq =>
    rcases hentry f hf with hold | rfl
    · exact Or.inl (.waiting f hold heq)
    · cases obj with
      | none => exact Or.inl (.parked a hmem heq)
      | some o => cases heq
  | ended f hf o ho heq =>
    rcases hentry f hf with hold | rfl
    · exact Or.inl (.ended f hold o ho heq)
    · cases obj with
      | none => cases ho
      | some obj =>
        -- the object was finished with the reference parked on its span
        obtain rfl := Option.some.inj ho
        rcases List.mem_append.1 heq with hobj | hparked
        · exact Or.inr ⟨obj, rfl, hobj⟩
        · exact Or.inl (.parked a hmem (Option.mem_toList.1 hparked))

theorem mem_fill {obj : SpanObject} {fs fs' : List FinalizeSpan}
    (h : fill clock uid obj fs = some fs') {f' : FinalizeSpan} (hf' : f' ∈ fs') :
    f' ∈ fs ∨ ∃ f ∈ fs, f' = ⟨f.uid, some (finish clock obj f.ref), none⟩ := by
  induction fs generalizing fs' with
  | nil => cases h
  | cons f fs ih =>
    unfold fill at h
    split at h
    · obtain rfl := Option.some.inj h
      rcases List.mem_cons.1 hf' with rfl | hrest
      · exact Or.inr ⟨f, List.mem_cons_self, rfl⟩
      · exact Or.inl (List.mem_cons_of_mem _ hrest)
    · obtain ⟨gs, hgs, rfl⟩ := Option.map_eq_some_iff.1 h
      rcases List.mem_cons.1 hf' with rfl | hrest
      · exact Or.inl List.mem_cons_self
      · rcases ih hgs hrest with hold | ⟨g, hg, heq⟩
        · exact Or.inl (List.mem_cons_of_mem _ hold)
        · exact Or.inr ⟨g, List.mem_cons_of_mem _ hg, heq⟩

/-- Filling a placeholder moves its reference into the object. -/
theorem holds_fill {obj : SpanObject} {fs : List FinalizeSpan}
    (h : fill clock uid obj stack.finalized = some fs)
    (href : Holds { stack with finalized := fs } ref) :
    stack.Holds ref ∨ ref ∈ obj.refs := by
  cases href with
  | parked b hb heq => exact Or.inl (.parked b hb heq)
  | waiting f hf heq =>
    rcases mem_fill h hf with hold | ⟨g, hg, rfl⟩
    · exact Or.inl (.waiting f hold heq)
    · cases heq
  | ended f hf o ho heq =>
    rcases mem_fill h hf with hold | ⟨g, hg, rfl⟩
    · exact Or.inl (.ended f hold o ho heq)
    · obtain rfl := Option.some.inj ho
      rcases List.mem_append.1 heq with hobj | hparked
      · exact Or.inr hobj
      · exact Or.inl (.waiting g hg (Option.mem_toList.1 hparked))

theorem holds_parkRef {new : SegmentReference}
    (href : (TracingContext.parkRef stack new).Holds ref) : stack.Holds ref ∨ ref = new := by
  obtain ⟨finalized, active⟩ := stack
  rcases List.eq_nil_or_concat' active with rfl | ⟨s, a, rfl⟩
  · exact Or.inl href
  · simp only [TracingContext.parkRef, List.getLast?_concat, List.dropLast_concat] at href
    cases href with
    | parked b hb heq =>
      rcases List.mem_append.1 hb with hold | hnew
      · exact Or.inl (.parked b (List.mem_append_left _ hold) heq)
      · obtain rfl := List.mem_singleton.1 hnew
        exact Or.inr (Option.some.inj heq).symm
    | waiting f hf heq => exact Or.inl (.waiting f hf heq)
    | ended f hf o ho heq => exact Or.inl (.ended f hf o ho heq)

end SpanStack

namespace World

variable {overflowChecks : Bool} {w w' : World} {e : Event} {ref : SegmentReference}

/-! ## What a call brings in -/

/-- A call that changes the stack only. -/
theorem Holds.of_stack (href : w'.Holds ref) (hhandles : w'.handles = w.handles)
    (hreported : w'.reported = w.reported)
    (hstack : w'.context.spanStack.Holds ref → w.context.spanStack.Holds ref ∨ e.op.Brings ref) :
    w.Holds ref ∨ e.op.Brings ref := by
  cases href with
  | stack hs => exact (hstack hs).imp_left .stack
  | handle x hx obj hobj heq => exact Or.inl (.handle x (hhandles ▸ hx) obj hobj heq)
  | reported seg hseg obj hobj heq => exact Or.inl (.reported seg (hreported ▸ hseg) obj hobj heq)

/-- A call on a handle: the new handle has the references of the old one, or none. -/
theorem Holds.of_handle (href : w'.Holds ref) {k : Nat} {x y : Handle}
    (hx : w.handles[k]? = some x) (hhandles : w'.handles = w.handles.set k y)
    (hreported : w'.reported = w.reported)
    (hy : ∀ obj, y.object? = some obj → ∃ obj', x.object? = some obj' ∧ obj.refs = obj'.refs)
    (hstack : w'.context.spanStack.Holds ref → w.context.spanStack.Holds ref ∨
      ∃ obj, x.object? = some obj ∧ ref ∈ obj.refs) : w.Holds ref := by
  have hmem : x ∈ w.handles := List.mem_of_getElem? hx
  cases href with
  | stack hs =>
    rcases hstack hs with hold | ⟨obj, hobj, heq⟩
    · exact .stack hold
    · exact .handle x hmem obj hobj heq
  | handle z hz obj hobj heq =>
    rw [hhandles] at hz
    rcases List.mem_or_eq_of_mem_set hz with hold | rfl
    · exact .handle z hold obj hobj heq
    · obtain ⟨obj', hobj', hrefs⟩ := hy obj hobj
      exact .handle x hmem obj' hobj' (hrefs ▸ heq)
  | reported seg hseg obj hobj heq => exact .reported seg (hreported ▸ hseg) obj hobj heq

/-- A call that takes the object out of a handle. -/
theorem Holds.of_emptied (href : w'.Holds ref) {k : Nat} {x y : Handle}
    (hx : w.handles[k]? = some x) (hhandles : w'.handles = w.handles.set k y)
    (hreported : w'.reported = w.reported) (hy : y.object? = none)
    (hstack : w'.context.spanStack.Holds ref → w.context.spanStack.Holds ref ∨
      ∃ obj, x.object? = some obj ∧ ref ∈ obj.refs) : w.Holds ref := by
  refine href.of_handle hx hhandles hreported (fun obj hobj => ?_) hstack
  rw [hy] at hobj
  cases hobj

theorem holds_create {o : Outcome TracingContext Span}
    (hok : ∀ span context, o = .ok span context →
      (∃ uid spanId, context.spanStack = { w.context.spanStack with
        active := w.context.spanStack.active ++ [⟨uid, spanId, none⟩] }) ∧
      ∀ obj, span.obj = some obj → ∀ r ∈ obj.refs, r.refType = .crossProcess)
    (hpanic : ∀ m context, o = .panic m context → context = w.context)
    (h : w.create o = .ok () w' ∨ ∃ m, w.create o = .panic m w') (href : w'.Holds ref) :
    w.Holds ref ∨ e.op.Brings ref := by
  rcases create_cases hpanic h with ⟨span, context, ho, -, rfl⟩ | ⟨rfl, -⟩
  · obtain ⟨⟨uid, spanId, hstack⟩, hrefs⟩ := hok span context ho
    cases href with
    | stack hs =>
      left
      replace hs : context.spanStack.Holds ref := hs
      rw [hstack] at hs
      cases hs with
      | parked a ha heq =>
        rcases List.mem_append.1 ha with hold | hnew
        · exact .stack (.parked a hold heq)
        · -- nothing is parked on a new span
          obtain rfl := List.mem_singleton.1 hnew
          cases heq
      | waiting f hf heq => exact .stack (.waiting f hf heq)
      | ended f hf obj hobj heq => exact .stack (.ended f hf obj hobj heq)
    | handle x hx obj hobj heq =>
      rcases List.mem_append.1 hx with hold | hnew
      · exact Or.inl (.handle x hold obj hobj heq)
      · obtain rfl := List.mem_singleton.1 hnew
        exact Or.inr (Or.inl (hrefs obj hobj ref heq))
    | reported seg hseg obj hobj heq => exact Or.inl (.reported seg hseg obj hobj heq)
  · exact Or.inl href

theorem holds_openSpan {clock : Clock} {parentSpanId : Int} {operationName remotePeer : String}
    {spanType : SpanType} {spanLayer : SpanLayer}
    (h : w.create (w.context.openSpan overflowChecks clock parentSpanId operationName remotePeer
        spanType spanLayer) = .ok () w' ∨
      ∃ m, w.create (w.context.openSpan overflowChecks clock parentSpanId operationName remotePeer
        spanType spanLayer) = .panic m w') (href : w'.Holds ref) :
    w.Holds ref ∨ e.op.Brings ref := by
  refine holds_create (fun span context ho => ?_) (fun _ _ => openSpan_panic) h href
  obtain ⟨next, -, rfl, rfl⟩ := TracingContext.openSpan_eq_ok_iff.1 ho
  refine ⟨⟨_, _, rfl⟩, ?_⟩
  intro obj hobj r hr
  obtain rfl := Option.some.inj hobj
  cases hr

theorem holds_createCommonSpan {clock : Clock} {parentSpanId : Int}
    {operationName remotePeer : String} {spanType : SpanType}
    (h : w.create (w.context.createCommonSpan overflowChecks clock operationName remotePeer
        spanType parentSpanId) = .ok () w' ∨
      ∃ m, w.create (w.context.createCommonSpan overflowChecks clock operationName remotePeer
        spanType parentSpanId) = .panic m w') (href : w'.Holds ref) :
    w.Holds ref ∨ e.op.Brings ref := by
  unfold TracingContext.createCommonSpan at h
  split at h
  · rcases h with h | ⟨m, h⟩
    · cases h
    · obtain rfl := (Outcome.panic.inj h).2
      exact Or.inl href
  · exact holds_openSpan h href

theorem holds_createWithPropagation {clock : Clock} {operationName : String}
    {propagation : PropagationContext}
    (h : w.create (w.context.createEntrySpanWithPropagation overflowChecks clock operationName
        propagation) = .ok () w' ∨
      ∃ m, w.create (w.context.createEntrySpanWithPropagation overflowChecks clock operationName
        propagation) = .panic m w') (href : w'.Holds ref) :
    w.Holds ref ∨ e.op.Brings ref := by
  refine holds_create (fun span context ho => ?_) (fun _ _ => createWithPropagation_panic) h href
  obtain ⟨s', t', obj, hentry, hobj, rfl, rfl⟩ :=
    TracingContext.createEntrySpanWithPropagation_eq_ok_iff.1 ho
  obtain ⟨next, -, rfl, rfl⟩ := TracingContext.openSpan_eq_ok_iff.1 hentry
  obtain rfl := Option.some.inj hobj
  refine ⟨⟨_, _, rfl⟩, ?_⟩
  intro obj hobj r hr
  obtain rfl := Option.some.inj hobj
  obtain rfl := List.mem_singleton.1 hr
  rfl

theorem holds_modifyObject {k : Nat} {f : SpanObject → SpanObject} {o : Outcome World Unit}
    (hf : ∀ obj, (f obj).refs = obj.refs) (hcall : w.modifyObject k f = some o)
    (ho : o = .ok () w' ∨ ∃ m, o = .panic m w') (href : w'.Holds ref) : w.Holds ref := by
  unfold modifyObject at hcall
  split at hcall
  · next s hs =>
    obtain rfl := Option.some.inj hcall
    obtain ⟨uid, _ | obj⟩ := s
    · -- without an object the edit panics
      rcases ho with ho | ⟨m, ho⟩
      · cases ho
      · obtain rfl := (Outcome.panic.inj ho).2
        exact href.of_emptied hs rfl rfl rfl Or.inl
    · rcases ho with ho | ⟨m, ho⟩
      · obtain rfl := (Outcome.ok.inj ho).2
        refine href.of_handle hs rfl rfl (fun obj' hobj' => ⟨obj, rfl, ?_⟩) Or.inl
        obtain rfl := Option.some.inj hobj'
        exact hf obj
      · cases ho
  · next a ha =>
    obtain rfl := Option.some.inj hcall
    obtain ⟨uid, _ | obj⟩ := a
    · rcases ho with ho | ⟨m, ho⟩
      · cases ho
      · obtain rfl := (Outcome.panic.inj ho).2
        exact href.of_emptied ha rfl rfl rfl Or.inl
    · rcases ho with ho | ⟨m, ho⟩
      · obtain rfl := (Outcome.ok.inj ho).2
        refine href.of_handle ha rfl rfl (fun obj' hobj' => ⟨obj, rfl, ?_⟩) Or.inl
        obtain rfl := Option.some.inj hobj'
        exact hf obj
      · cases ho
  · cases hcall

theorem holds_dropSpan {k : Nat} {clock : Clock} {o : Outcome World Unit}
    (hcall : w.dropSpan clock k = some o) (ho : o = .ok () w' ∨ ∃ m, o = .panic m w')
    (href : w'.Holds ref) : w.Holds ref := by
  obtain ⟨s, stack, hs, rfl, ⟨-, hdrop⟩ | ⟨rfl, -⟩⟩ := dropSpan_cases hcall ho
  · exact href.of_emptied hs rfl rfl rfl fun hstack => SpanStack.holds_finalizeSpan hdrop hstack
  · exact href.of_emptied hs rfl rfl rfl Or.inl

theorem holds_prepareForAsync {k : Nat} {clock : Clock} {o : Outcome World Unit}
    (hcall : w.prepareForAsync clock k = some o) (ho : o = .ok () w' ∨ ∃ m, o = .panic m w')
    (href : w'.Holds ref) : w.Holds ref := by
  obtain ⟨s, a, shared, hs, hprep, -, rfl⟩ := prepareForAsync_cases hcall ho
  obtain ⟨rfl, stack, top, hactive, htop, rfl⟩ := Span.prepareForAsync_eq_ok_iff.1 hprep
  have hmem : top ∈ w.context.spanStack.active := by
    rw [hactive]
    exact List.mem_concat_self
  refine href.of_handle hs rfl rfl (fun obj hobj => ⟨obj, hobj, rfl⟩) fun hstack => ?_
  left
  cases hstack with
  | parked b hb heq =>
    exact .parked b (by rw [hactive]; exact List.mem_append_left _ hb) heq
  -- the placeholder takes over what is parked on the span
  | waiting f hf heq =>
    rcases List.mem_append.1 hf with hold | hnew
    · exact .waiting f hold heq
    · obtain rfl := List.mem_singleton.1 hnew
      exact .parked top hmem heq
  | ended f hf obj hobj heq =>
    rcases List.mem_append.1 hf with hold | hnew
    · exact .ended f hold obj hobj heq
    · obtain rfl := List.mem_singleton.1 hnew
      cases hobj

/-- The stack after the end of an asynchronous span, however it ends. -/
theorem holds_asyncDrop {clock : Clock} {a : AsyncSpan} {stackAlive : Bool} {stack : SpanStack}
    {wg : WaitGroup} {shared : SpanStack × WaitGroup}
    (h : (a.drop overflowChecks clock stackAlive stack wg).state? = some shared)
    (href : shared.1.Holds ref) : stack.Holds ref ∨ ∃ obj, a.obj = some obj ∧ ref ∈ obj.refs := by
  unfold AsyncSpan.drop AsyncSpan.fill SpanStack.finalizeAsyncSpan at h
  cases stackAlive with
  | false =>
    obtain rfl := Option.some.inj h
    exact Or.inl href
  | true =>
    cases hobj : a.obj with
    | none =>
      rw [hobj] at h
      obtain rfl := Option.some.inj h
      exact Or.inl href
    | some obj =>
      cases hfill : SpanStack.fill clock a.uid obj stack.finalized with
      | none =>
        simp only [hobj, hfill, if_true, Outcome.state?, Option.some.injEq] at h
        subst h
        exact Or.inl href
      | some fs =>
        -- the placeholder is filled before `done` can panic
        have hstack : shared.1 = { stack with finalized := fs } := by
          simp only [hobj, hfill, if_true] at h
          cases hdone : wg.done overflowChecks with
          | ok u wg' =>
            rw [hdone] at h
            obtain rfl := Option.some.inj h
            rfl
          | panic m wg' =>
            rw [hdone] at h
            obtain rfl := Option.some.inj h
            rfl
          | abort m =>
            rw [hdone] at h
            cases h
        rw [hstack] at href
        exact (SpanStack.holds_fill hfill href).imp_right fun hr => ⟨obj, rfl, hr⟩

theorem holds_dropAsyncSpan {k : Nat} {clock : Clock} {o : Outcome World Unit}
    (hcall : w.dropAsyncSpan overflowChecks clock k = some o)
    (ho : o = .ok () w' ∨ ∃ m, o = .panic m w') (href : w'.Holds ref) : w.Holds ref := by
  obtain ⟨a, shared, ha, rfl, hdrop⟩ := dropAsyncSpan_cases hcall ho
  have hstate : (a.drop overflowChecks clock w.stackAlive w.context.spanStack
      w.context.wg).state? = some shared := by
    rw [Outcome.state?_eq_some_iff]
    exact hdrop.imp_left fun hok => ⟨(), hok⟩
  exact href.of_emptied ha rfl rfl rfl fun hstack => holds_asyncDrop hstate hstack

theorem holds_continued {snapshot : ContextSnapshot} {o : Outcome World Unit}
    (hcall : (w.context.continued snapshot).mapState (fun c => { w with context := c }) = o)
    (ho : o = .ok () w' ∨ ∃ m, o = .panic m w') (href : w'.Holds ref) :
    w.Holds ref ∨ (Op.continued snapshot).Brings ref := by
  subst hcall
  rcases continued_cases ho with ⟨-, rfl⟩ | ⟨-, -, rfl⟩ | ⟨tracer, hvalid, -, rfl⟩
  · exact Or.inl href
  · exact Holds.of_stack (e := ⟨fun _ => 0, .continued snapshot⟩) href rfl rfl Or.inl
  · refine Holds.of_stack (e := ⟨fun _ => 0, .continued snapshot⟩) href rfl rfl fun hstack => ?_
    exact (SpanStack.holds_parkRef hstack).imp_right fun heq =>
      Or.inr ⟨snapshot, tracer, rfl, hvalid, heq⟩

theorem takeObjects_mem {fs : List FinalizeSpan} {objs : List SpanObject}
    (h : TracingContext.takeObjects fs = some objs) {obj : SpanObject} (hobj : obj ∈ objs) :
    ∃ f ∈ fs, f.obj = some obj := by
  rw [TracingContext.takeObjects_eq_some_iff] at h
  have hmem : some obj ∈ fs.map fun f => f.obj := h ▸ List.mem_map_of_mem hobj
  obtain ⟨f, hf, heq⟩ := List.mem_map.1 hmem
  exact ⟨f, hf, heq⟩

/-- The drop of a context that panics has at most emptied the finalized list. -/
theorem stack_of_drop_panic {c c' : TracingContext} {m : String} (h : c.drop = .panic m c') :
    c'.traceSegmentId = c.traceSegmentId ∧
      ∀ ref, c'.spanStack.Holds ref → c.spanStack.Holds ref := by
  unfold TracingContext.drop TracingContext.convertToSegmentObject at h
  cases htracer : c.tracer with
  | none =>
    rw [htracer] at h
    obtain rfl := (Outcome.panic.inj h).2
    exact ⟨rfl, fun _ => id⟩
  | some tracer =>
    simp only [htracer] at h
    split at h
    · obtain rfl := (Outcome.panic.inj h).2
      refine ⟨rfl, fun ref href => ?_⟩
      cases href with
      | parked a ha heq => exact .parked a ha heq
      | waiting f hf heq => cases hf
      | ended f hf obj hobj heq => cases hf
    · cases h

theorem mem_trace_concat {items : List CollectItem} {seg new : SegmentObject}
    (h : .trace seg ∈ items ++ [.trace new]) : .trace seg ∈ items ∨ seg = new := by
  refine (List.mem_append.1 h).imp_right fun hnew => ?_
  exact CollectItem.trace.inj (List.mem_singleton.1 hnew)

/-- The drop of the context hands on what the stack holds. -/
theorem holds_dropContext (h : w.dropContext = .ok () w' ∨ ∃ m, w.dropContext = .panic m w') :
    (∀ ref, w'.Holds ref → w.Holds ref) ∧ w'.context.traceSegmentId = w.context.traceSegmentId ∧
      ∀ seg, .trace seg ∈ w'.reported →
        .trace seg ∈ w.reported ∨ seg.traceSegmentId = w.context.traceSegmentId := by
  unfold dropContext at h
  cases hdrop : w.context.drop with
  | ok item context =>
    rw [hdrop] at h
    rcases h with h | ⟨m, h⟩
    · obtain rfl := (Outcome.ok.inj h).2
      obtain ⟨-, spans, hspans, rfl, rfl⟩ := TracingContext.drop_eq_ok_iff.1 hdrop
      refine ⟨fun ref href => ?_, rfl, fun seg hmem => ?_⟩
      · cases href with
        | stack hs =>
          -- the drop empties the finalized spans, so only a parked reference is left
          cases hs with
          | parked a ha heq => exact .stack (.parked a ha heq)
          | waiting f hf heq => cases hf
          | ended f hf obj hobj heq => cases hf
        | handle x hx obj hobj heq => exact .handle x hx obj hobj heq
        | reported seg hmem obj hobj heq =>
          rcases mem_trace_concat hmem with hold | rfl
          · exact .reported seg hold obj hobj heq
          · obtain ⟨f, hf, hfobj⟩ := takeObjects_mem hspans hobj
            exact .stack (.ended f hf obj hfobj heq)
      · rcases mem_trace_concat hmem with hold | rfl
        · exact Or.inl hold
        · exact Or.inr rfl
    · cases h
  | panic m context =>
    rw [hdrop] at h
    rcases h with h | ⟨m', h⟩
    · cases h
    · obtain rfl := (Outcome.panic.inj h).2
      obtain ⟨hid, hstack⟩ := stack_of_drop_panic hdrop
      refine ⟨fun ref href => ?_, hid, fun seg => Or.inl⟩
      cases href with
      | stack hs => exact .stack (hstack ref hs)
      | handle x hx obj hobj heq => exact .handle x hx obj hobj heq
      | reported seg hmem obj hobj heq => exact .reported seg hmem obj hobj heq
  | abort m =>
    rw [hdrop] at h
    rcases h with h | ⟨m', h⟩
    · cases h
    · cases h

/-- What is there after a call, returned or panicked, was there before or was brought in by it. -/
theorem holds_after (h : w.after overflowChecks e = some w') (href : w'.Holds ref) :
    w.Holds ref ∨ e.op.Brings ref := by
  obtain ⟨o, hcall, ho⟩ := after_eq_some_iff.1 h
  obtain ⟨clock, op⟩ := e
  cases op with
  | createEntrySpan =>
    obtain rfl := Option.some.inj (of_contextAlive hcall)
    exact holds_openSpan (e := ⟨clock, _⟩) ho href
  | createEntrySpanWithPropagation =>
    obtain rfl := Option.some.inj (of_contextAlive hcall)
    exact holds_createWithPropagation (e := ⟨clock, _⟩) ho href
  | createExitSpan =>
    obtain rfl := Option.some.inj (of_contextAlive hcall)
    exact holds_createCommonSpan (e := ⟨clock, _⟩) ho href
  | createLocalSpan =>
    obtain rfl := Option.some.inj (of_contextAlive hcall)
    exact holds_createCommonSpan (e := ⟨clock, _⟩) ho href
  | addTag k key value =>
    left
    exact holds_modifyObject (f := fun obj => obj.addTag key value) (fun _ => rfl) hcall ho href
  | addLog k message =>
    left
    exact holds_modifyObject (f := fun obj => obj.addLog (clock .log) message) (fun _ => rfl) hcall
      ho href
  | dropSpan k => exact Or.inl (holds_dropSpan hcall ho href)
  | prepareForAsync k => exact Or.inl (holds_prepareForAsync hcall ho href)
  | dropAsyncSpan k => exact Or.inl (holds_dropAsyncSpan hcall ho href)
  | capture =>
    obtain rfl := Option.some.inj (of_contextAlive hcall)
    obtain rfl := Outcome.eq_of_ok ho
    exact Or.inl href
  | continued snapshot =>
    exact holds_continued (Option.some.inj (of_contextAlive hcall)) ho href
  | dropContext =>
    obtain rfl := Option.some.inj (of_contextAlive hcall)
    exact Or.inl ((holds_dropContext ho).1 ref href)
  | dropTracer =>
    obtain rfl := Option.some.inj hcall
    obtain rfl := Outcome.eq_of_ok ho
    exact Holds.of_stack (e := ⟨clock, .dropTracer⟩) href rfl rfl Or.inl

/-- The segment id, and the segments that a call reports. -/
theorem segments_after (h : w.after overflowChecks e = some w') :
    w'.context.traceSegmentId = w.context.traceSegmentId ∧
      ∀ seg, .trace seg ∈ w'.reported →
        .trace seg ∈ w.reported ∨ seg.traceSegmentId = w.context.traceSegmentId := by
  by_cases hop : e.op = .dropContext
  · obtain ⟨clock, op⟩ := e
    obtain rfl : op = .dropContext := hop
    obtain ⟨o, hcall, ho⟩ := after_eq_some_iff.1 h
    simp only [call, callContext] at hcall
    split at hcall
    · obtain rfl := Option.some.inj hcall
      exact (holds_dropContext ho).2
    · cases hcall
  · refine ⟨(after_keepsTrace hop h).1, fun seg hseg => Or.inl ?_⟩
    rw [← (sameFrame_after hop h).reported]
    exact hseg

/-! ## Links to the own segment -/

/-- A cross-thread reference to the segment. -/
def SelfLink (segmentId : String) (ref : SegmentReference) : Prop :=
  ref.refType = .crossThread ∧ ref.parentTraceSegmentId = segmentId

/-- No reported segment is its own parent. -/
def NoSelfLink (w : World) : Prop :=
  ∀ seg, .trace seg ∈ w.reported → ∀ obj ∈ seg.spans, ∀ ref ∈ obj.refs,
    ¬SelfLink seg.traceSegmentId ref

theorem after_continued {clock : Clock} {snapshot : ContextSnapshot}
    (halive : w.contextAlive = true) :
    w.after overflowChecks ⟨clock, .continued snapshot⟩ =
      ((w.context.continued snapshot).mapState fun c => { w with context := c }).state? := by
  simp only [after, call, callContext, if_pos halive, Option.bind_some]

/-- A valid call of `continued` leaves the world as it was exactly when the trace is there already
and nothing is parked: because the tracer is gone, or because the link is there already. -/
theorem after_continued_eq_self_iff {clock : Clock} {snapshot : ContextSnapshot}
    (halive : w.contextAlive = true) (hvalid : snapshot.isValid = true) :
    w.after overflowChecks ⟨clock, .continued snapshot⟩ = some w ↔
      w.context.traceId = snapshot.traceId ∧ ∀ tracer, w.context.tracer = some tracer →
        ∀ a, w.context.activeSpan = some a →
          a.ref = some (TracingContext.snapshotRef tracer snapshot) := by
  have hcontext : ∀ c : TracingContext, some { w with context := c } = some w ↔ c = w.context := by
    intro c
    rw [Option.some.injEq]
    exact ⟨fun h => by rw [← h], fun h => by rw [h]⟩
  rw [after_continued halive]
  cases htracer : w.context.tracer with
  | none =>
    -- the call panics after it has adopted the trace
    rw [TracingContext.continued_of_dropped hvalid htracer, Outcome.mapState, Outcome.state?,
      hcontext]
    constructor
    · intro h
      refine ⟨by rw [← h], fun tracer htr => ?_⟩
      cases htr
    · rintro ⟨htrace, -⟩
      rw [← htrace]
  | some tracer =>
    rw [TracingContext.continued_of_tracer hvalid htracer, Outcome.mapState, Outcome.state?,
      hcontext]
    have hself := TracingContext.continued_eq_self_iff hvalid htracer
    rw [TracingContext.continued_of_tracer hvalid htracer, Outcome.ok.injEq] at hself
    simpa using hself

/-! ## A family of contexts -/

section Family

variable {ι : Type} [DecidableEq ι] {origin : ι → Origin} {es : List (ι × Event)} {s : ι → World}

/-- An interleaved run of the contexts, in which panics may be caught. -/
abbrev afterAll (overflowChecks : Bool) : (ι → World) → List (ι × Event) → Option (ι → World) :=
  Execution.run (Execution.interleave (after overflowChecks))

/-- Every call of the run that continues a context from a snapshot of its own, with the world before
it. -/
def EachOwn (overflowChecks : Bool) (s₀ : ι → World) (es : List (ι × Event))
    (P : World → Event → ContextSnapshot → Prop) : Prop :=
  ∀ pre i e post s snapshot, es = pre ++ (i, e) :: post → e.op = .continued snapshot →
    afterAll overflowChecks s₀ pre = some s → snapshot.isFromCurrent (s i).context = true →
    P (s i) e snapshot

theorem EachOwn.of_append {s₀ : ι → World} {pre post : List (ι × Event)}
    {P : World → Event → ContextSnapshot → Prop}
    (h : EachOwn overflowChecks s₀ (pre ++ post) P) : EachOwn overflowChecks s₀ pre P := by
  intro pre' i e post' u snapshot hsplit hop hu hcurrent
  refine h pre' i e (post' ++ post) u snapshot ?_ hop hu hcurrent
  rw [hsplit, List.append_assoc, List.cons_append]

/-- The segment ids of the family along a run. -/
theorem run_segmentIds
    (hrun : afterAll overflowChecks (fun i => (origin i).world) es = some s) (i : ι) :
    (s i).context.traceSegmentId = (origin i).traceSegmentId ∧
      ∀ seg, .trace seg ∈ (s i).reported → seg.traceSegmentId = (origin i).traceSegmentId := by
  have hi := Execution.run_interleave_component i hrun
  refine Execution.run_invariant (I := fun w : World =>
    w.context.traceSegmentId = (origin i).traceSegmentId ∧
      ∀ seg, .trace seg ∈ w.reported → seg.traceSegmentId = (origin i).traceSegmentId) ?_ ?_ hi
  · refine ⟨rfl, fun seg hseg => ?_⟩
    cases hseg
  · rintro a b e ⟨hid, hsegs⟩ hab
    obtain ⟨hid', hsegs'⟩ := segments_after hab
    refine ⟨hid'.trans hid, fun seg hseg => ?_⟩
    rcases hsegs' seg hseg with hold | hnew
    · exact hsegs seg hold
    · exact hnew.trans hid

/-- Where continuing from an own snapshot changes nothing, no context holds a link to itself. -/
theorem run_clean
    (hown : EachOwn overflowChecks (fun i => (origin i).world) es
      fun w e _ => w.after overflowChecks e = some w)
    (hrun : afterAll overflowChecks (fun i => (origin i).world) es = some s) (i : ι)
    {ref : SegmentReference} (href : (s i).Holds ref) :
    ¬SelfLink (origin i).traceSegmentId ref := by
  induction es using List.reverseRecOn generalizing s i ref with
  | nil =>
    obtain rfl := Option.some.inj hrun
    cases href with
    | stack hs =>
      cases hs with
      | parked a ha heq => cases ha
      | waiting f hf heq => cases hf
      | ended f hf obj hobj heq => cases hf
    | handle x hx obj hobj heq => cases hx
    | reported seg hseg obj hobj heq => cases hseg
  | append_singleton es event ih =>
    obtain ⟨j, e⟩ := event
    obtain ⟨r, hr, hstep⟩ := Execution.run_concat_iff.1 hrun
    have hbefore : ∀ i ref, (r i).Holds ref → ¬SelfLink (origin i).traceSegmentId ref :=
      fun i ref => ih hown.of_append hr i
    obtain ⟨t, ht, rfl⟩ := Option.map_eq_some_iff.1 hstep
    by_cases hij : i = j
    · subst hij
      replace href : (Function.update r i t i).Holds ref := href
      rw [Function.update_self] at href
      rcases holds_after ht href with hold | hprocess | ⟨snapshot, tracer, hop, hvalid, rfl⟩
      · exact hbefore i ref hold
      · rintro ⟨htype, -⟩
        rw [hprocess] at htype
        cases htype
      · rintro ⟨htype, hsegment⟩
        replace hsegment : snapshot.traceSegmentId = (origin i).traceSegmentId := hsegment
        -- such a snapshot is from this context, so the call has changed nothing
        have hcurrent : snapshot.isFromCurrent (r i).context = true := by
          rw [ContextSnapshot.isFromCurrent, (run_segmentIds hr i).1, hsegment]
          simp only [ContextSnapshot.isValid, Bool.and_eq_true, hsegment] at hvalid
          simpa using hvalid.1.1
        have hsame := hown es i e [] r snapshot rfl hop hr hcurrent
        obtain rfl := Option.some.inj (ht.symm.trans hsame)
        exact hbefore i _ href ⟨htype, hsegment⟩
    · replace href : (Function.update r j t i).Holds ref := href
      rw [Function.update_of_ne hij] at href
      exact hbefore i ref href

/-- In every interleaved run of a family of contexts, caught panics included: continuing a context
from a snapshot of its own always leaves it as it was, and no reported segment has a cross-thread
reference to itself, exactly when every such call with a valid snapshot finds the context in the
trace of the snapshot, and without an active span or without its tracer. -/
theorem no_self_link_iff
    (hrun : afterAll overflowChecks (fun i => (origin i).world) es = some s) :
    (EachOwn overflowChecks (fun i => (origin i).world) es
        (fun w e _ => w.after overflowChecks e = some w) ∧ ∀ i, (s i).NoSelfLink) ↔
      EachOwn overflowChecks (fun i => (origin i).world) es fun w _ snapshot =>
        snapshot.isValid = true → w.context.traceId = snapshot.traceId ∧
          (w.context.activeSpan = none ∨ w.context.tracer = none) := by
  -- the context of a call is alive
  have halive : ∀ {pre post : List (ι × Event)} {i : ι} {e : Event} {u : ι → World}
      {snapshot : ContextSnapshot}, es = pre ++ (i, e) :: post → e.op = .continued snapshot →
      afterAll overflowChecks (fun i => (origin i).world) pre = some u →
      (u i).contextAlive = true := by
    intro pre post i e u snapshot hsplit hop hu
    rw [hsplit] at hrun
    obtain ⟨u', hu', hrest⟩ := Execution.run_append_iff.1 hrun
    obtain rfl := Option.some.inj (hu.symm.trans hu')
    obtain ⟨v, hstep, -⟩ := Execution.run_cons_iff.1 hrest
    obtain ⟨t, ht, -⟩ := Option.map_eq_some_iff.1 hstep
    obtain ⟨clock, op⟩ := e
    obtain rfl : op = .continued snapshot := hop
    by_contra hdead
    simp [after, call, hdead] at ht
  constructor
  · rintro ⟨hown, -⟩ pre i e post u snapshot hsplit hop hu hcurrent hvalid
    have hsame := hown pre i e post u snapshot hsplit hop hu hcurrent
    have hup := halive hsplit hop hu
    obtain ⟨clock, op⟩ := e
    obtain rfl : op = .continued snapshot := hop
    obtain ⟨htrace, hparked⟩ := (after_continued_eq_self_iff hup hvalid).1 hsame
    refine ⟨htrace, ?_⟩
    by_contra hnot
    obtain ⟨hactive, htracer⟩ := not_or.1 hnot
    obtain ⟨a, ha⟩ := Option.ne_none_iff_exists'.1 hactive
    obtain ⟨tracer, htr⟩ := Option.ne_none_iff_exists'.1 htracer
    -- the link that is there already would be one of the context to itself
    have hholds : (u i).Holds (TracingContext.snapshotRef tracer snapshot) :=
      .stack (.parked a (List.mem_of_getLast? ha) (hparked tracer htr a ha))
    rw [hsplit] at hown
    refine run_clean hown.of_append hu i hholds ⟨rfl, ?_⟩
    simp only [ContextSnapshot.isFromCurrent, Bool.and_eq_true, decide_eq_true_eq] at hcurrent
    exact hcurrent.2.trans (run_segmentIds hu i).1
  · intro hcond
    have hown : EachOwn overflowChecks (fun i => (origin i).world) es
        fun w e _ => w.after overflowChecks e = some w := by
      intro pre i e post u snapshot hsplit hop hu hcurrent
      have hup := halive hsplit hop hu
      have hthis := hcond pre i e post u snapshot hsplit hop hu hcurrent
      obtain ⟨clock, op⟩ := e
      obtain rfl : op = .continued snapshot := hop
      cases hvalid : snapshot.isValid with
      | false =>
        rw [after_continued hup, TracingContext.continued_of_not_valid hvalid]
        rfl
      | true =>
        obtain ⟨htrace, hnone⟩ := hthis hvalid
        refine (after_continued_eq_self_iff hup hvalid).2 ⟨htrace, ?_⟩
        intro tracer htracer a ha
        rcases hnone with hactive | htr
        · rw [hactive] at ha
          cases ha
        · rw [htr] at htracer
          cases htracer
    refine ⟨hown, fun i seg hseg obj hobj ref href => ?_⟩
    rw [(run_segmentIds hrun i).2 seg hseg]
    exact run_clean hown hrun i (.reported seg hseg obj hobj href)

end Family

/-- The pair of contexts, the second of which continues from a snapshot of the first. -/
theorem no_self_link_pair :
    ∃ s, afterAll true (fun i => (pairOrigin i).world) (pairBefore ++ pairAfter) = some s ∧
      ∀ i, (s i).NoSelfLink := by
  have hrun : (afterAll true (fun i => (pairOrigin i).world) (pairBefore ++ pairAfter)).isSome := by
    decide +kernel
  obtain ⟨s, hrun⟩ := Option.isSome_iff_exists.1 hrun
  refine ⟨s, hrun, ((no_self_link_iff hrun).2 ?_).2⟩
  intro pre i e post u snapshot hsplit hop hu hcurrent
  have hmem : (i, e.op) ∈ (pairBefore ++ pairAfter).map fun x => (x.1, x.2.op) := by
    rw [hsplit]
    exact List.mem_map_of_mem (List.mem_append_right _ List.mem_cons_self)
  rw [hop] at hmem
  obtain ⟨rfl, rfl⟩ : i = true ∧ snapshot = pairSnapshot := by
    simpa [pairBefore, pairAfter, pairMid, pairRest, atZero] using hmem
  -- the snapshot is of the segment `g1`, the context of the segment `g2`
  rw [ContextSnapshot.isFromCurrent, (run_segmentIds hu true).1] at hcurrent
  exact absurd hcurrent (by decide)

/-- Whether an item is a segment with a cross-thread reference to itself. -/
def linksItself : CollectItem → Bool
  | .trace seg => seg.spans.any fun obj => obj.refs.any fun ref =>
      decide (ref.refType = .crossThread ∧ ref.parentTraceSegmentId = seg.traceSegmentId)
  | _ => false

/-- A context that continues from its own snapshot reports a segment that is its own parent. -/
theorem continued_own_snapshot :
    ∃ w₁ w, Execution.run (after true) sampleWorld [atZero (.createEntrySpan "a")] = some w₁ ∧
      w₁.context.capture.isFromCurrent w₁.context = true ∧
      Execution.run (after true) w₁ [atZero (.continued w₁.context.capture), atZero (.dropSpan 0),
        atZero .dropContext] = some w ∧ ¬w.NoSelfLink := by
  have hrun : ∃ w₁, Execution.run (after true) sampleWorld [atZero (.createEntrySpan "a")] =
      some w₁ ∧ (decide (w₁.context.capture.isFromCurrent w₁.context = true) &&
        (Execution.run (after true) w₁ [atZero (.continued w₁.context.capture),
          atZero (.dropSpan 0), atZero .dropContext]).any fun w => w.reported.any linksItself) =
        true := (Option.any_eq_true _ _).1 (by decide +kernel)
  obtain ⟨w₁, hrun, hw₁⟩ := hrun
  obtain ⟨hcurrent, hrest⟩ := Bool.and_eq_true_iff.1 hw₁
  obtain ⟨w, hrest, hlink⟩ := (Option.any_eq_true _ _).1 hrest
  refine ⟨w₁, w, hrun, of_decide_eq_true hcurrent, hrest, fun hnone => ?_⟩
  obtain ⟨item, hitem, hlink⟩ := List.any_eq_true.1 hlink
  cases item with
  | trace seg =>
    obtain ⟨obj, hobj, hlink⟩ := List.any_eq_true.1 hlink
    obtain ⟨ref, href, hlink⟩ := List.any_eq_true.1 hlink
    have hself : ref.refType = .crossThread ∧ ref.parentTraceSegmentId = seg.traceSegmentId :=
      of_decide_eq_true hlink
    exact hnone seg hitem obj hobj ref href hself
  | _ => cases hlink

end World

end SkywalkingAgent.Trace
