import SkywalkingAgent.Propagation.RoundTrip
import SkywalkingAgent.Trace.Links
import SkywalkingAgent.Trace.Panics

/-!
# Entry spans and the spans under them

`create_exit_span` and `create_local_span` are for the inside of a request, so they panic where no
entry span exists. Their check reads the counter of span ids, which says whether the context has
ever created a span; the parent of the new span comes from the stack. `spans_under_entry_iff` says
for which runs the check does its work.
-/

set_option autoImplicit false

namespace SkywalkingAgent.Trace

open SkywalkingAgent.Lib SkywalkingAgent.Common SkywalkingAgent.Proto
open SkywalkingAgent.Propagation SkywalkingAgent.Reporter

/-- The calls that need an entry span. -/
def Op.needsEntry : Op → Bool
  | .createExitSpan _ _ => true
  | .createLocalSpan _ => true
  | _ => false

/-- The id is that of an entry span among the spans, or following parents leads to one. -/
inductive UnderEntry (spans : List SpanObject) : Int → Prop where
  | entry (s : SpanObject) (mem : s ∈ spans) (kind : s.spanType = .entry) :
      UnderEntry spans s.spanId
  | child (s : SpanObject) (mem : s ∈ spans) (parent : UnderEntry spans s.parentSpanId) :
      UnderEntry spans s.spanId

theorem UnderEntry.mono {spans spans' : List SpanObject} (hsub : spans ⊆ spans') {i : Int}
    (h : UnderEntry spans i) : UnderEntry spans' i := by
  induction h with
  | entry s hs hkind => exact .entry s (hsub hs) hkind
  | child s hs _ ih => exact .child s (hsub hs) ih

namespace World

section Created

variable (overflowChecks : Bool)

/-- The object of the span that a call returns. -/
def createdObject (w : World) (e : Event) : Option SpanObject :=
  match w.call overflowChecks e with
  | some (.ok () w') =>
      match w'.handles[w.handles.length]? with
      | some (.span span) => span.obj
      | _ => none
  | _ => none

/-- The objects of the spans that the calls of a run have returned, as they were created. -/
def createdObjects (w : World) (es : List Event) : List SpanObject :=
  Execution.outputs (after overflowChecks) (createdObject overflowChecks) w es

end Created

/-- The span ids on the active stack. -/
def activeIds (w : World) : List Int := w.context.spanStack.active.map fun a => a.spanId

/-- A call creates a span under the top of the stack, or at most takes spans off the stack. -/
inductive SpanEffect (overflowChecks : Bool) (w : World) (e : Event) (w' : World) : Prop where
  | created (obj : SpanObject) (object : w.createdObject overflowChecks e = some obj)
      (spanId : obj.spanId = w.context.nextSpanId)
      (parent : obj.parentSpanId = w.context.peekActiveSpanId.getD (-1))
      (kind : obj.spanType = .entry ∨ e.op.needsEntry = true)
      (next : succI32 overflowChecks w.context.nextSpanId = some w'.context.nextSpanId)
      (count : w'.handles.length = w.handles.length + 1)
      (ids : w'.activeIds = w.activeIds ++ [obj.spanId])
  | kept (object : w.createdObject overflowChecks e = none)
      (count : w'.handles.length = w.handles.length) (ids : w'.activeIds ⊆ w.activeIds)

variable {overflowChecks : Bool} {w w' : World} {e : Event} {es : List Event}

/-- The object of a returned span. -/
def objectOf : Outcome TracingContext Span → Option SpanObject
  | .ok span _ => span.obj
  | _ => none

theorem createdObject_of_create {o : Outcome TracingContext Span}
    (hcall : w.call overflowChecks e = some (w.create o)) :
    w.createdObject overflowChecks e = objectOf o := by
  unfold createdObject
  rw [hcall]
  cases o with
  | ok span context => simp [create, objectOf]
  | panic m context => rfl
  | abort m => rfl

/-- The call of a function that creates spans. -/
theorem spanEffect_create {o : Outcome TracingContext Span}
    (hcall : w.call overflowChecks e = some (w.create o))
    (hok : ∀ span context, o = .ok span context → ∃ obj, span.obj = some obj ∧
      obj.spanId = w.context.nextSpanId ∧
      obj.parentSpanId = w.context.peekActiveSpanId.getD (-1) ∧
      (obj.spanType = .entry ∨ e.op.needsEntry = true) ∧
      Opened overflowChecks w.context span context)
    (hpanic : ∀ m context, o = .panic m context → context = w.context)
    (h : w.after overflowChecks e = some w') : SpanEffect overflowChecks w e w' := by
  obtain ⟨o', hcall', ho'⟩ := after_eq_some_iff.1 h
  obtain rfl : w.create o = o' := Option.some.inj (hcall.symm.trans hcall')
  have hobject := createdObject_of_create hcall
  rcases create_cases hpanic ho' with ⟨span, context, rfl, -, rfl⟩ | ⟨rfl, m, hm⟩
  · obtain ⟨obj, hobj, hid, hparent, hkind, hopened⟩ := hok span context rfl
    refine .created obj (hobject.trans hobj) hid hparent hkind hopened.next ?_ ?_
    · simp
    · simp [activeIds, hopened.stack, hid]
  · refine .kept (hobject.trans ?_) rfl (List.Subset.refl _)
    cases o with
    | ok span context => cases hm
    | panic m' context => rfl
    | abort m' => rfl

theorem spanEffect_openSpan {clock : Clock} {operationName remotePeer : String}
    {spanType : SpanType} {spanLayer : SpanLayer}
    (hkind : spanType = .entry ∨ e.op.needsEntry = true)
    (hcall : w.call overflowChecks e = some (w.create (w.context.openSpan overflowChecks clock
      (w.context.peekActiveSpanId.getD (-1)) operationName remotePeer spanType spanLayer)))
    (h : w.after overflowChecks e = some w') : SpanEffect overflowChecks w e w' := by
  refine spanEffect_create hcall (fun span context ho => ?_) (fun _ _ => openSpan_panic) h
  have hopened := opened_of_openSpan ho
  obtain ⟨next, -, rfl, -⟩ := TracingContext.openSpan_eq_ok_iff.1 ho
  exact ⟨_, rfl, rfl, rfl, hkind, hopened⟩

/-- What `create_exit_span` and `create_local_span` have in common. -/
theorem call_needsEntry (overflowChecks : Bool) (hop : e.op.needsEntry = true)
    (halive : w.contextAlive = true) :
    ∃ operationName remotePeer spanType, w.call overflowChecks e =
      some (w.create (w.context.createCommonSpan overflowChecks e.clock operationName remotePeer
        spanType (w.context.peekActiveSpanId.getD (-1)))) := by
  obtain ⟨clock, op⟩ := e
  cases op with
  | createExitSpan operationName remotePeer =>
    exact ⟨operationName, remotePeer, .exit, by simp only [call, callContext, halive]; rfl⟩
  | createLocalSpan operationName =>
    exact ⟨operationName, "", .localSpan, by simp only [call, callContext, halive]; rfl⟩
  | _ => cases hop

/-- Only a live context creates spans. -/
theorem alive_of_creation (hop : e.op.creation?.isSome)
    (h : w.after overflowChecks e = some w') : w.contextAlive = true := by
  obtain ⟨o, hcall, -⟩ := after_eq_some_iff.1 h
  by_contra halive
  obtain ⟨clock, op⟩ := e
  cases op with
  | createEntrySpan operationName => simp [call, halive] at hcall
  | createEntrySpanWithPropagation operationName propagation => simp [call, halive] at hcall
  | createExitSpan operationName remotePeer => simp [call, halive] at hcall
  | createLocalSpan operationName => simp [call, halive] at hcall
  | _ => cases hop

theorem creation_of_needsEntry {op : Op} (hop : op.needsEntry = true) :
    op.creation?.isSome := by
  cases op with
  | createExitSpan => rfl
  | createLocalSpan => rfl
  | _ => cases hop

theorem spanEffect_needsEntry (hop : e.op.needsEntry = true)
    (h : w.after overflowChecks e = some w') : SpanEffect overflowChecks w e w' := by
  obtain ⟨operationName, remotePeer, spanType, hcall⟩ :=
    call_needsEntry overflowChecks hop
      (alive_of_creation (creation_of_needsEntry hop) h)
  refine spanEffect_create hcall (fun span context ho => ?_) (fun _ _ => createCommonSpan_panic) h
  unfold TracingContext.createCommonSpan at ho
  split at ho
  · cases ho
  · have hopened := opened_of_openSpan ho
    obtain ⟨next, -, rfl, -⟩ := TracingContext.openSpan_eq_ok_iff.1 ho
    exact ⟨_, rfl, rfl, rfl, Or.inr hop, hopened⟩

/-- A call that creates no span. -/
theorem spanEffect_kept (hop : e.op.creation? = none) (hdrop : e.op ≠ .dropContext)
    (h : w.after overflowChecks e = some w') : SpanEffect overflowChecks w e w' := by
  have hcount := (sameFrame_after hdrop h).count hop
  refine .kept ?_ hcount ?_
  · unfold createdObject
    split
    · next w'' hcall =>
      have h' : w.after overflowChecks e = some w'' :=
        after_eq_some_iff.2 ⟨_, hcall, Or.inl rfl⟩
      obtain rfl := Option.some.inj (h.symm.trans h')
      rw [List.getElem?_eq_none (Nat.le_of_eq hcount)]
    · rfl
  · -- the ids of the active spans: a call that closes a span takes the last one off
    have hpop {t : List ActiveSpan} {top : ActiveSpan}
        (hactive : w.context.spanStack.active = t ++ [top]) :
        t.map ActiveSpan.spanId ⊆ w.context.spanStack.active.map ActiveSpan.spanId := by
      rw [hactive, List.map_append]
      exact List.subset_append_left _ _
    cases after_effect hdrop h with
    | created obj hnext halive hhandles =>
      rw [hhandles] at hcount
      simp at hcount
    | edited k x x' hx hedit heq =>
      subst heq
      exact List.Subset.refl _
    | dropped k s stack hs hclose heq =>
      subst heq
      obtain ⟨t, a, hactive, -, rfl⟩ := SpanStack.finalizeSpan_eq_ok_iff.1 hclose
      exact hpop hactive
    | prepared k s a shared hopk hs hprep heq =>
      subst heq
      obtain ⟨-, t, top, hactive, -, rfl⟩ := Span.prepareForAsync_eq_ok_iff.1 hprep
      exact hpop hactive
    | asyncDropped k shared hopk hactive heq =>
      subst heq
      show shared.1.active.map _ ⊆ _
      rw [hactive]
      exact List.Subset.refl _
    | lost k s hs heq =>
      subst heq
      exact List.Subset.refl _
    | kept hhandles halive hnext hgen hstack hwg =>
      show w'.context.spanStack.active.map _ ⊆ _
      rw [hstack.spanIds]
      exact List.Subset.refl _

theorem spanEffect_after (hdrop : e.op ≠ .dropContext)
    (h : w.after overflowChecks e = some w') : SpanEffect overflowChecks w e w' := by
  cases hneeds : e.op.needsEntry with
  | true => exact spanEffect_needsEntry hneeds h
  | false =>
    obtain ⟨clock, op⟩ := e
    cases op with
    | createEntrySpan operationName =>
      have halive := alive_of_creation rfl h
      exact spanEffect_openSpan (Or.inl rfl) (by simp only [call, callContext, halive]; rfl) h
    | createEntrySpanWithPropagation operationName propagation =>
      have halive := alive_of_creation rfl h
      have hcall : w.call overflowChecks
          ⟨clock, .createEntrySpanWithPropagation operationName propagation⟩ =
            some (w.create (w.context.createEntrySpanWithPropagation overflowChecks clock
              operationName propagation)) := by simp only [call, callContext, halive]; rfl
      refine spanEffect_create hcall (fun span context ho => ?_)
        (fun _ _ => createWithPropagation_panic) h
      obtain ⟨s', t', obj, hentry, hobj, rfl, rfl⟩ :=
        TracingContext.createEntrySpanWithPropagation_eq_ok_iff.1 ho
      have hopened := opened_of_openSpan hentry
      obtain ⟨next, -, rfl, -⟩ := TracingContext.openSpan_eq_ok_iff.1 hentry
      obtain rfl := Option.some.inj hobj
      exact ⟨_, rfl, rfl, rfl, Or.inl rfl, hopened.next, ⟨_, rfl⟩, hopened.generator,
        hopened.stack, hopened.wg⟩
    | createExitSpan => cases hneeds
    | createLocalSpan => cases hneeds
    | dropContext => exact absurd rfl hdrop
    | _ => exact spanEffect_kept rfl hdrop h

/-! ## One call -/

/-- What the check is for: an exit or local span that the call returns is under an entry span, and
where no active span is, the call panics and leaves everything as it was. -/
structure Guarded (overflowChecks : Bool) (spans : List SpanObject) (w : World) (e : Event) :
    Prop where
  returned : ∀ obj, w.createdObject overflowChecks e = some obj →
    0 ≤ obj.parentSpanId ∧ UnderEntry spans obj.parentSpanId
  refused : (¬∃ i, w.context.peekActiveSpanId = some i ∧ UnderEntry spans i) →
    w.call overflowChecks e = some (.panic "entry span must be existed." w)

/-- The counter is zero, or a span is active whose id is not negative. -/
def Grounded (w : World) : Prop :=
  w.context.nextSpanId = 0 ∨ ∃ i, w.context.peekActiveSpanId = some i ∧ 0 ≤ i

theorem mem_activeIds_of_peek {i : Int} (h : w.context.peekActiveSpanId = some i) :
    i ∈ w.activeIds := by
  obtain ⟨a, ha, rfl⟩ := Option.map_eq_some_iff.1 h
  exact List.mem_map_of_mem (List.mem_of_getLast? ha)

/-- At counter zero the call is refused. -/
theorem call_of_zero (overflowChecks : Bool) (hop : e.op.needsEntry = true)
    (halive : w.contextAlive = true) (hzero : w.context.nextSpanId = 0) :
    w.call overflowChecks e = some (.panic "entry span must be existed." w) := by
  obtain ⟨operationName, remotePeer, spanType, hcall⟩ :=
    call_needsEntry overflowChecks hop halive
  rw [hcall, TracingContext.createCommonSpan, if_pos hzero]
  rfl

/-- Elsewhere it is not: it returns a span under the top of the stack, or the counter overflows. -/
theorem call_of_ne_zero (overflowChecks : Bool) (hop : e.op.needsEntry = true)
    (halive : w.contextAlive = true)
    (hzero : w.context.nextSpanId ≠ 0) :
    (∃ obj, w.createdObject overflowChecks e = some obj ∧
      obj.parentSpanId = w.context.peekActiveSpanId.getD (-1)) ∨
    (succI32 overflowChecks w.context.nextSpanId = none ∧
      w.call overflowChecks e = some (.panic overflowMessage w)) := by
  obtain ⟨operationName, remotePeer, spanType, hcall⟩ :=
    call_needsEntry overflowChecks hop halive
  have hobject := createdObject_of_create hcall
  rw [TracingContext.createCommonSpan, if_neg hzero] at hcall hobject
  cases hsucc : succI32 overflowChecks w.context.nextSpanId with
  | none =>
    right
    refine ⟨rfl, ?_⟩
    rw [hcall]
    simp only [TracingContext.openSpan, TracingContext.incNextSpanId, hsucc, Outcome.bind, create]
  | some next =>
    left
    obtain ⟨span, context, hopen⟩ : ∃ span context, w.context.openSpan overflowChecks e.clock
        (w.context.peekActiveSpanId.getD (-1)) operationName remotePeer spanType .unknown =
          .ok span context :=
      ⟨_, _, TracingContext.openSpan_eq_ok_iff.2 ⟨next, hsucc, rfl, rfl⟩⟩
    obtain ⟨next', -, rfl, -⟩ := TracingContext.openSpan_eq_ok_iff.1 hopen
    rw [hopen] at hobject
    exact ⟨_, hobject, rfl⟩

/-- Where every active span is under an entry span, the check does its work. -/
theorem guarded_of_grounded (overflowChecks : Bool) {spans : List SpanObject}
    (hop : e.op.needsEntry = true)
    (halive : w.contextAlive = true) (hunder : ∀ i ∈ w.activeIds, UnderEntry spans i)
    (hgrounded : w.Grounded) : Guarded overflowChecks spans w e := by
  by_cases hzero : w.context.nextSpanId = 0
  · have hcall := call_of_zero overflowChecks hop halive hzero
    refine ⟨fun obj hobj => ?_, fun _ => hcall⟩
    rw [createdObject, hcall] at hobj
    cases hobj
  · obtain ⟨i, hpeek, hi⟩ := hgrounded.resolve_left hzero
    have hunder' := hunder i (mem_activeIds_of_peek hpeek)
    refine ⟨fun obj hobj => ?_, fun hnone => absurd ⟨i, hpeek, hunder'⟩ hnone⟩
    rcases call_of_ne_zero overflowChecks hop halive hzero with
      ⟨obj', hobj', hparent⟩ | ⟨-, hcall⟩
    · obtain rfl := Option.some.inj (hobj.symm.trans hobj')
      rw [hparent, hpeek, Option.getD_some]
      exact ⟨hi, hunder'⟩
    · rw [createdObject, hcall] at hobj
      cases hobj

/-- Without an active span, or under a negative id, it does not. -/
theorem grounded_of_guarded {spans : List SpanObject} (hop : e.op.needsEntry = true)
    (halive : w.contextAlive = true) (hnumbered : w.Numbered)
    (hroom : overflowChecks = true → w.handles.length < 2 ^ 31)
    (hguarded : Guarded overflowChecks spans w e) : w.Grounded := by
  by_contra hnot
  obtain ⟨hzero, hpeek⟩ := not_or.1 hnot
  have hneg : w.context.peekActiveSpanId.getD (-1) < 0 := by
    cases hp : w.context.peekActiveSpanId with
    | none => decide
    | some i => exact Int.lt_of_not_ge fun hi => hpeek ⟨i, hp, hi⟩
  rcases call_of_ne_zero overflowChecks hop halive hzero with
    ⟨obj, hobj, hparent⟩ | ⟨hsucc, hcall⟩
  · -- the span that is returned hangs in the air
    have hparent0 := (hguarded.returned obj hobj).1
    omega
  · have hchecks : overflowChecks = true := by
      by_contra hoff
      simp [succI32, hoff] at hsucc
    cases hp : w.context.peekActiveSpanId with
    | none =>
      -- the panic of the counter is not that of the check
      have hrefused := hguarded.refused (by simp [hp])
      rw [hcall, Option.some.injEq] at hrefused
      exact absurd (Outcome.panic.inj hrefused).1 (by decide)
    | some i =>
      obtain ⟨k, -, hk⟩ := hnumbered.peekActiveSpanId (hroom hchecks) hp
      exact hpeek ⟨i, hp, by omega⟩

/-! ## A run -/

variable {serviceName instanceName traceId traceSegmentId : String} {tracer : WeakTracer}

/-- With overflow checks the counter does not get past the range of its type. -/
theorem run_room (hchecks : overflowChecks = true) (hops : ∀ e ∈ es, e.op ≠ .dropContext)
    (hrun : Execution.run (after overflowChecks)
      (World.new serviceName instanceName traceId traceSegmentId tracer) es = some w) :
    w.handles.length < 2 ^ 31 := by
  have hboth : w.Numbered ∧ w.handles.length < 2 ^ 31 := by
    apply Execution.run_invariant_of_forall (I := fun v : World =>
      v.Numbered ∧ v.handles.length < 2 ^ 31) hops _ _ hrun
    · exact ⟨numbered_new serviceName instanceName traceId traceSegmentId tracer,
        Nat.two_pow_pos 31⟩
    · rintro a b e hop ⟨hnumbered, hlt⟩ hab
      refine ⟨numbered_after hnumbered hop hab, ?_⟩
      cases spanEffect_after hop hab with
      | created obj hobj hid hparent hkind hnext hcount hids =>
        rw [hnumbered.next, wrapI32_natCast hlt, hchecks] at hnext
        have hfits : (a.handles.length : Int) + 1 < 2 ^ 31 := by
          by_contra hge
          have hoverflow : (true && decide ((2 : Int) ^ 31 ≤ a.handles.length + 1)) = true := by
            rw [Bool.true_and, decide_eq_true_eq]
            exact Int.le_of_not_gt hge
          rw [succI32, if_pos hoverflow] at hnext
          cases hnext
        omega
      | kept hobj hcount hids =>
        rw [hcount]
        exact hlt
  exact hboth.2

/-- Every call of the run for an exit or a local span, with the events and the world before it. -/
def EachCall (overflowChecks : Bool) (w₀ : World) (es : List Event)
    (P : List Event → World → Event → Prop) : Prop :=
  ∀ pre e post w, es = pre ++ e :: post → e.op.needsEntry = true →
    Execution.run (after overflowChecks) w₀ pre = some w → P pre w e

theorem createdObjects_concat {w₀ : World}
    (hrun : Execution.run (after overflowChecks) w₀ es = some w)
    (hstep : w.after overflowChecks e = some w') :
    createdObjects overflowChecks w₀ (es ++ [e]) =
      createdObjects overflowChecks w₀ es ++ (w.createdObject overflowChecks e).toList :=
  Execution.outputs_concat hrun hstep

/-- Where every such call is grounded, every active span is under an entry span. -/
theorem run_under {w₀ : World} (hnew : w₀.activeIds = []) (hops : ∀ e ∈ es, e.op ≠ .dropContext)
    (hgrounded : EachCall overflowChecks w₀ es fun _ v _ => v.Grounded)
    (hrun : Execution.run (after overflowChecks) w₀ es = some w) :
    ∀ i ∈ w.activeIds, UnderEntry (createdObjects overflowChecks w₀ es) i := by
  induction es using List.reverseRecOn generalizing w with
  | nil =>
    obtain rfl := Option.some.inj hrun
    simp [hnew]
  | append_singleton es e ih =>
    obtain ⟨v, hv, hstep⟩ := Execution.run_concat_iff.1 hrun
    have hbefore : ∀ i ∈ v.activeIds, UnderEntry (createdObjects overflowChecks w₀ es) i := by
      refine ih (fun e' he' => hops e' (List.mem_append_left _ he')) ?_ hv
      intro pre e' post u hsplit hneeds hu
      exact hgrounded pre e' (post ++ [e]) u (by rw [hsplit]; simp) hneeds hu
    rw [createdObjects_concat hv hstep]
    cases spanEffect_after (hops e List.mem_concat_self) hstep with
    | kept hobj hcount hids =>
      intro i hi
      exact (hbefore i (hids hi)).mono (List.subset_append_left _ _)
    | created obj hobj hid hparent hkind hnext hcount hids =>
      rw [hids, hobj]
      intro i hi
      have hmem : obj ∈ createdObjects overflowChecks w₀ es ++ [obj] := List.mem_concat_self
      rcases List.mem_append.1 hi with hi | hi
      · exact (hbefore i hi).mono (List.subset_append_left _ _)
      · obtain rfl := List.mem_singleton.1 hi
        rcases hkind with hentry | hneeds
        · exact .entry obj hmem hentry
        · -- the call is guarded, so the parent is under an entry span already
          have halive := alive_of_creation (creation_of_needsEntry hneeds) hstep
          have hguarded := guarded_of_grounded overflowChecks hneeds halive
            hbefore (hgrounded es e [] v rfl hneeds hv)
          exact .child obj hmem ((hguarded.returned obj hobj).2.mono (List.subset_append_left _ _))

/-- In a run of a context, caught panics included, every call for an exit or a local span is guarded
exactly when each of these calls comes while the counter of span ids is zero or while a span is
active, with an id that is not negative. -/
theorem spans_under_entry_iff (hops : ∀ e ∈ es, e.op ≠ .dropContext)
    (hrun : Execution.run (after overflowChecks)
      (World.new serviceName instanceName traceId traceSegmentId tracer) es = some w) :
    EachCall overflowChecks (World.new serviceName instanceName traceId traceSegmentId tracer) es
      (fun pre v e => Guarded overflowChecks (createdObjects overflowChecks
        (World.new serviceName instanceName traceId traceSegmentId tracer) pre) v e) ↔
    EachCall overflowChecks (World.new serviceName instanceName traceId traceSegmentId tracer) es
      (fun _ v _ => v.Grounded) := by
  -- the call is enabled where it stands
  have hcalled : ∀ {pre post : List Event} {e : Event} {v : World}, es = pre ++ e :: post →
      e.op.needsEntry = true → Execution.run (after overflowChecks)
        (World.new serviceName instanceName traceId traceSegmentId tracer) pre = some v →
      v.contextAlive = true := by
    intro pre post e v hsplit hneeds hv
    rw [hsplit] at hrun
    obtain ⟨u, hu, hrest⟩ := Execution.run_append_iff.1 hrun
    obtain rfl := Option.some.inj (hv.symm.trans hu)
    obtain ⟨u', hstep, -⟩ := Execution.run_cons_iff.1 hrest
    exact alive_of_creation (creation_of_needsEntry hneeds) hstep
  have hpre : ∀ {pre post : List Event} {e : Event}, es = pre ++ e :: post →
      ∀ e' ∈ pre, e'.op ≠ .dropContext := by
    intro pre post e hsplit e' he'
    exact hops e' (by rw [hsplit]; exact List.mem_append_left _ he')
  constructor
  · intro hguarded pre e post v hsplit hneeds hv
    exact grounded_of_guarded hneeds (hcalled hsplit hneeds hv) (run_numbered (hpre hsplit) hv)
      (fun hchecks => run_room hchecks (hpre hsplit) hv) (hguarded pre e post v hsplit hneeds hv)
  · intro hgrounded pre e post v hsplit hneeds hv
    refine guarded_of_grounded overflowChecks hneeds (hcalled hsplit hneeds hv) ?_
      (hgrounded pre e post v hsplit hneeds hv)
    refine run_under rfl (hpre hsplit) ?_ hv
    intro pre' e' post' u hsplit' hneeds' hu
    exact hgrounded pre' e' (post' ++ e :: post) u (by rw [hsplit, hsplit']; simp) hneeds' hu

/-- A local span inside an entry span. -/
theorem spans_under_entry_two :
    EachCall true sampleWorld [atZero (.createEntrySpan "a"), atZero (.createLocalSpan "b")]
      fun pre v e => Guarded true (createdObjects true sampleWorld pre) v e := by
  have hrun : ∃ w, Execution.run (after true) sampleWorld
      [atZero (.createEntrySpan "a"), atZero (.createLocalSpan "b")] = some w := by
    rw [← Option.isSome_iff_exists]
    decide +kernel
  obtain ⟨w, hrun⟩ := hrun
  refine (spans_under_entry_iff (by decide) hrun).2 ?_
  intro pre e post v hsplit hneeds hv
  cases pre with
  | nil =>
    obtain ⟨rfl, -⟩ := List.cons.inj hsplit
    cases hneeds
  | cons e₁ pre =>
    obtain ⟨rfl, htail⟩ := List.cons.inj hsplit
    cases pre with
    | nil =>
      -- the entry span is active
      obtain rfl := Option.some.inj hv
      exact Or.inr ⟨0, by decide +kernel, by decide⟩
    | cons e₂ pre =>
      obtain ⟨-, hnil⟩ := List.cons.inj htail
      simp at hnil

/-- After the entry span has ended, `create_local_span` returns a span without a parent. -/
theorem local_span_without_entry :
    ∃ w obj, Execution.run (after true) sampleWorld
        [atZero (.createEntrySpan "a"), atZero (.dropSpan 0)] = some w ∧
      w.context.spanStack.active = [] ∧
      w.createdObject true (atZero (.createLocalSpan "b")) = some obj ∧ obj.parentSpanId = -1 ∧
      ¬Guarded true (createdObjects true sampleWorld
        [atZero (.createEntrySpan "a"), atZero (.dropSpan 0)]) w
        (atZero (.createLocalSpan "b")) := by
  have hrun : ∃ w, Execution.run (after true) sampleWorld
      [atZero (.createEntrySpan "a"), atZero (.dropSpan 0)] = some w ∧
      decide (w.context.spanStack.active = [] ∧
        (w.createdObject true (atZero (.createLocalSpan "b"))).map (fun obj => obj.parentSpanId) =
          some (-1)) = true := (Option.any_eq_true _ _).1 (by decide +kernel)
  obtain ⟨w, hrun, hw⟩ := hrun
  obtain ⟨hactive, hobject⟩ := of_decide_eq_true hw
  obtain ⟨obj, hobj, hparent⟩ := Option.map_eq_some_iff.1 hobject
  refine ⟨w, obj, hrun, hactive, hobj, hparent, fun hguarded => ?_⟩
  have h0 := (hguarded.returned obj hobj).1
  omega

end World

end SkywalkingAgent.Trace
